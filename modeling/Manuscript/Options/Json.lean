import Manuscript.Options.Value

/-!
# JSON

Reads a JSON text. The text holds one value with nothing but white space around it. Unpaired
surrogates and control characters in strings are errors. An integer is written without a fraction
and without an exponent; minus zero is none.
-/

namespace Manuscript.Json

/-- White space between tokens. -/
def isSpace (c : Char) : Bool :=
  c == ' ' || c == '\t' || c == '\n' || c == '\r'

/-- Drops leading white space. -/
def skipSpace (text : Text) : Text :=
  text.dropWhile isSpace

/-- Reads four hexadecimal digits. -/
def readUnit? (text : Text) : Option (Nat × Text) :=
  if (text.take 4).length = 4 then
    (Value.natOfDigits? 16 (text.take 4)).map (·, text.drop 4)
  else none

/-- Reads a numeric escape after its `\u`. Two escapes that form a surrogate pair are one character.
-/
def readCodePoint? (text : Text) : Option (Char × Text) := do
  let (first, rest) ← readUnit? text
  if 0xDC00 ≤ first ∧ first ≤ 0xDFFF then none
  else if 0xD800 ≤ first ∧ first ≤ 0xDBFF then
    match rest with
    | '\\' :: 'u' :: rest =>
      let (second, rest) ← readUnit? rest
      if 0xDC00 ≤ second ∧ second ≤ 0xDFFF then
        return (Char.ofNat (0x10000 + (first - 0xD800) * 0x400 + (second - 0xDC00)), rest)
      else none
    | _ => none
  else return (Char.ofNat first, rest)

/-- Reads an escape after its backslash. -/
def readEscape? : Text → Option (Char × Text)
  | '"' :: rest => some ('"', rest)
  | '\\' :: rest => some ('\\', rest)
  | '/' :: rest => some ('/', rest)
  | 'b' :: rest => some ('\x08', rest)
  | 'f' :: rest => some ('\x0c', rest)
  | 'n' :: rest => some ('\n', rest)
  | 'r' :: rest => some ('\r', rest)
  | 't' :: rest => some ('\t', rest)
  | 'u' :: rest => readCodePoint? rest
  | _ => none

/-- Reads the rest of a string after its opening quote. Every step takes a character, so `fuel` is
the length of the text. -/
def readString? : Nat → Text → Option (Text × Text)
  | 0, _ => none
  | _ + 1, [] => none
  | _ + 1, '"' :: rest => some ([], rest)
  | fuel + 1, '\\' :: rest => do
    let (c, rest) ← readEscape? rest
    let (value, rest) ← readString? fuel rest
    return (c :: value, rest)
  | fuel + 1, c :: rest =>
    if c.toNat < 32 then none
    else (readString? fuel rest).map fun (value, rest) => (c :: value, rest)

/-- Reads a number. -/
def readNumber? (text : Text) : Option (Value × Text) := do
  let (isNegative, unsigned) := match text with
    | '-' :: rest => (true, rest)
    | _ => (false, text)
  let (digits, rest) := unsigned.span Char.isDigit
  let value ← Value.natOfDigits? 10 digits
  guard (!(digits.head? = some '0' && 1 < digits.length))
  let (hasFraction, rest) ← match rest with
    | '.' :: after =>
      let (fraction, rest) := after.span Char.isDigit
      if fraction.isEmpty then none else some (true, rest)
    | _ => some (false, rest)
  let (hasExponent, rest) ← match rest with
    | e :: after =>
      if e == 'e' || e == 'E' then
        let after := match after with
          | sign :: rest => if sign == '+' || sign == '-' then rest else after
          | [] => after
        let (exponent, rest) := after.span Char.isDigit
        if exponent.isEmpty then none else some (true, rest)
      else some (false, rest)
    | [] => some (false, rest)
  let number : Value :=
    if hasFraction || hasExponent || (isNegative && value == 0) then .other
    else .integer (if isNegative then - (value : Int) else value)
  return (number, rest)

mutual

/-- Reads a value. Every step takes a character, so `fuel` is the length of the text. -/
def readValue? : Nat → Text → Option (Value × Text)
  | 0, _ => none
  | fuel + 1, text =>
    match skipSpace text with
    | '"' :: rest =>
      (readString? (rest.length + 1) rest).map fun (value, rest) => (.string value, rest)
    | '[' :: rest =>
      match skipSpace rest with
      | ']' :: rest => some (.list [], rest)
      | rest => (readItems? fuel rest).map fun (items, rest) => (.list items, rest)
    | '\x7b' :: rest =>
      match skipSpace rest with
      | '\x7d' :: rest => some (.record [], rest)
      | rest => (readEntries? fuel rest).map fun (entries, rest) => (.record entries, rest)
    | 'n' :: 'u' :: 'l' :: 'l' :: rest => some (.null, rest)
    | 't' :: 'r' :: 'u' :: 'e' :: rest => some (.bool true, rest)
    | 'f' :: 'a' :: 'l' :: 's' :: 'e' :: rest => some (.bool false, rest)
    | rest => readNumber? rest

/-- Reads the rest of a list that is not empty. -/
def readItems? : Nat → Text → Option (List Value × Text)
  | 0, _ => none
  | fuel + 1, text => do
    let (item, rest) ← readValue? fuel text
    match skipSpace rest with
    | ']' :: rest => some ([item], rest)
    | ',' :: rest =>
      let (items, rest) ← readItems? fuel rest
      return (item :: items, rest)
    | _ => none

/-- Reads the rest of a record that is not empty. -/
def readEntries? : Nat → Text → Option (List (Text × Value) × Text)
  | 0, _ => none
  | fuel + 1, text =>
    match skipSpace text with
    | '"' :: rest => do
      let (name, rest) ← readString? (rest.length + 1) rest
      match skipSpace rest with
      | ':' :: rest =>
        let (value, rest) ← readValue? fuel rest
        match skipSpace rest with
        | '\x7d' :: rest => some ([(name, value)], rest)
        | ',' :: rest =>
          let (entries, rest) ← readEntries? fuel rest
          return ((name, value) :: entries, rest)
        | _ => none
      | _ => none
    | _ => none

end

/-- Reads a text that holds one value. -/
def read? (text : Text) : Option Value := do
  let (value, rest) ← readValue? (text.length + 1) text
  if (skipSpace rest).isEmpty then some value else none

end Manuscript.Json
