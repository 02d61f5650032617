import Manuscript.Options.Value

/-!
# TOML

Reads a TOML text. A document is a tree of tables. A table knows how it came to be, because that
decides whether it may be reopened: a table that is only part of a longer header may get a header of
its own later, one that was made by a dotted key may only be extended by dotted keys, and one with a
header is complete.
-/

namespace Manuscript.Toml

/-- How a table came to be. -/
inductive Origin where
  /-- It has a header of its own. -/
  | header
  /-- It is part of a longer header. -/
  | outerHeader
  /-- It is part of a dotted key. -/
  | dottedKey
deriving DecidableEq, Repr

/-- What a name in a table stands for. -/
inductive Item where
  | value (value : Value)
  | table (origin : Origin) (entries : List (Text × Item))
  /-- Tables that were opened by headers in double brackets, last first. -/
  | tables (tables : List (List (Text × Item)))
deriving Inhabited

/-- The entries of a table. -/
abbrev Table := List (Text × Item)

/-- Whether a character is white space inside a line. -/
def isSpace (c : Char) : Bool :=
  c == ' ' || c == '\t'

/-- Whether a character may stand in a name without quotes. -/
def isBareChar (c : Char) : Bool :=
  c.isAlphanum || c == '-' || c == '_'

/-- Whether a character may stand in a comment or a literal string. -/
def isPrintable (c : Char) : Bool :=
  c == '\t' || (32 ≤ c.toNat && c.toNat != 127)

/-- Drops the white space at the start of a text. -/
def skipSpace (text : Text) : Text :=
  text.dropWhile isSpace

/-- Drops a line end. -/
def dropNewline? : Text → Option Text
  | '\n' :: rest => some rest
  | '\r' :: '\n' :: rest => some rest
  | _ => none

/-- Drops a comment, if there is one, up to the line end. -/
def skipComment : Text → Text
  | '#' :: rest => rest.dropWhile isPrintable
  | text => text

/-- Drops white space, comments and line ends. Every step takes a line end, so `fuel` is the length
of the text. -/
def skipLines : Nat → Text → Text
  | 0, text => text
  | fuel + 1, text =>
    let text := skipComment (skipSpace text)
    match dropNewline? text with
    | some rest => skipLines fuel rest
    | none => text

/-- Reads `count` hexadecimal digits of an escape. -/
def readCodePoint? (count : Nat) (text : Text) : Option (Char × Text) := do
  guard ((text.take count).length = count)
  let code ← Value.natOfDigits? 16 (text.take count)
  if Nat.isValidChar code then some (Char.ofNat code, text.drop count) else none

/-- Reads an escape after its backslash. -/
def readEscape? : Text → Option (Char × Text)
  | 'b' :: rest => some ('\x08', rest)
  | 't' :: rest => some ('\t', rest)
  | 'n' :: rest => some ('\n', rest)
  | 'f' :: rest => some ('\x0c', rest)
  | 'r' :: rest => some ('\r', rest)
  | '"' :: rest => some ('"', rest)
  | '\\' :: rest => some ('\\', rest)
  | 'u' :: rest => readCodePoint? 4 rest
  | 'U' :: rest => readCodePoint? 8 rest
  | _ => none

/-- Reads the rest of a string on one line after its opening quote. In double quotes there are
escapes. -/
def readLineString? (quote : Char) : Nat → Text → Option (Text × Text)
  | 0, _ => none
  | _ + 1, [] => none
  | fuel + 1, c :: rest =>
    if c = quote then some ([], rest)
    else if c = '\\' && quote = '"' then do
      let (c, rest) ← readEscape? rest
      let (value, rest) ← readLineString? quote fuel rest
      return (c :: value, rest)
    else if isPrintable c then
      (readLineString? quote fuel rest).map fun (value, rest) => (c :: value, rest)
    else none

/-- Reads the rest of a string over several lines. The three quotes that end it may have up to two
more quotes before them, which belong to the string. -/
def readBlockString? (quote : Char) : Nat → Text → Option (Text × Text)
  | 0, _ => none
  | _ + 1, [] => none
  | fuel + 1, c :: rest =>
    if c = quote then
      let (quotes, after) := (c :: rest).span (· == quote)
      if quotes.length < 3 then
        (readBlockString? quote fuel after).map fun (value, rest) => (quotes ++ value, rest)
      else if quotes.length ≤ 5 then some (quotes.drop 3, after)
      else none
    else if c = '\\' && quote = '"' then
      match dropNewline? (skipSpace rest) with
      | some after => readBlockString? quote fuel
          (after.dropWhile fun c => isSpace c || c == '\n' || c == '\r')
      | none => do
        let (c, rest) ← readEscape? rest
        let (value, rest) ← readBlockString? quote fuel rest
        return (c :: value, rest)
    else
      match dropNewline? (c :: rest) with
      | some after =>
        (readBlockString? quote fuel after).map fun (value, rest) => ('\n' :: value, rest)
      | none =>
        if isPrintable c then
          (readBlockString? quote fuel rest).map fun (value, rest) => (c :: value, rest)
        else none

/-- Reads a string that begins with `quote`, after that quote. -/
def readString? (quote : Char) (text : Text) : Option (Text × Text) :=
  match text with
  | a :: b :: rest =>
    if a = quote && b = quote then
      readBlockString? quote (rest.length + 1) ((dropNewline? rest).getD rest)
    else readLineString? quote (text.length + 1) text
  | _ => readLineString? quote (text.length + 1) text

/-- Reads one part of a key. -/
def readName? : Text → Option (Text × Text)
  | '"' :: rest => readLineString? '"' (rest.length + 1) rest
  | '\'' :: rest => readLineString? '\'' (rest.length + 1) rest
  | text =>
    let (name, rest) := text.span isBareChar
    if name.isEmpty then none else some (name, rest)

/-- Reads a key: names with dots between them. Gives the names before the last one, and the last. -/
def readKey? : Nat → Text → Option ((List Text × Text) × Text)
  | 0, _ => none
  | fuel + 1, text => do
    let (name, rest) ← readName? (skipSpace text)
    match skipSpace rest with
    | '.' :: rest =>
      let ((path, last), rest) ← readKey? fuel rest
      return ((name :: path, last), rest)
    | rest => return (([], name), rest)

/-- The digits of a number without the underscores between them. -/
def plainDigits? : Text → Option Text
  | [] => some []
  | '_' :: _ => none
  | [c] => some [c]
  | c :: '_' :: d :: rest => (plainDigits? (d :: rest)).map (c :: ·)
  | c :: d :: rest => (plainDigits? (d :: rest)).map (c :: ·)

/-- The number that digits with underscores stand for. -/
def natOfDigits? (base : Nat) (digits : Text) : Option Nat :=
  (plainDigits? digits).bind (Value.natOfDigits? base)

/-- An integer in the range of 64 bits. -/
def integer? (value : Int) : Option Value :=
  if -9223372036854775808 ≤ value ∧ value ≤ 9223372036854775807 then some (.integer value)
  else none

/-- Decimal digits without a leading zero. -/
def decimal? (digits : Text) : Option Nat :=
  match digits with
  | '0' :: _ :: _ => none
  | digits => natOfDigits? 10 digits

/-- Whether a text is the digits of a fraction or an exponent. -/
def isDigits (digits : Text) : Bool :=
  (natOfDigits? 10 digits).isSome

/-- Whether a text without a sign is a number with a fraction or an exponent. -/
def isFraction (text : Text) : Bool :=
  let (mantissa, exponent) := text.span fun c => c != 'e' && c != 'E'
  let validExponent := match exponent with
    | [] => true
    | _ :: sign :: digits =>
      if sign == '+' || sign == '-' then isDigits digits else isDigits (sign :: digits)
    | _ => false
  let (whole, fraction) := mantissa.span (· != '.')
  let validFraction := match fraction with
    | [] => !exponent.isEmpty
    | _ :: digits => isDigits digits
  (decimal? whole).isSome && validFraction && validExponent

/-- Whether a text is digits in the places of `shape` that hold a zero, and equal to it elsewhere.
-/
def hasShape : Text → Text → Bool
  | [], [] => true
  | s :: shape, c :: text => (if s = '0' then c.isDigit else s = c) && hasShape shape text
  | _, _ => false

/-- Whether a text is a time of day. -/
def isTime (text : Text) : Bool :=
  hasShape "00:00:00".toList (text.take 8)
    && match text.drop 8 with
      | [] => true
      | '.' :: digits => !digits.isEmpty && digits.all Char.isDigit
      | _ => false

/-- Whether a text is a time of day with or without an offset. -/
def isOffsetTime (text : Text) : Bool :=
  let (time, offset) := text.span fun c => c.isDigit || c == ':' || c == '.'
  isTime time
    && match offset with
      | [] => true
      | ['Z'] => true
      | ['z'] => true
      | sign :: rest => (sign == '+' || sign == '-') && hasShape "00:00".toList rest

/-- Whether a text is a date, a time of day, or both. -/
def isDate (text : Text) : Bool :=
  isTime text
    || hasShape "0000-00-00".toList (text.take 10)
      && match text.drop 10 with
        | [] => true
        | c :: time => (c == 'T' || c == 't' || c == ' ') && isOffsetTime time

/-- The value of a token without quotes. -/
def token? (token : Text) : Option Value :=
  if token = "true".toList then some (.bool true)
  else if token = "false".toList then some (.bool false)
  else
    let (sign, unsigned) := match token with
      | '+' :: rest => (some 1, rest)
      | '-' :: rest => (some (-1 : Int), rest)
      | _ => (none, token)
    match sign, unsigned with
    | none, '0' :: 'x' :: digits => (natOfDigits? 16 digits).bind fun n => integer? n
    | none, '0' :: 'o' :: digits => (natOfDigits? 8 digits).bind fun n => integer? n
    | none, '0' :: 'b' :: digits => (natOfDigits? 2 digits).bind fun n => integer? n
    | _, _ =>
      match decimal? unsigned with
      | some n => integer? (sign.getD 1 * n)
      | none =>
        if unsigned = "inf".toList || unsigned = "nan".toList || isFraction unsigned
            || (sign.isNone && isDate unsigned) then some .other
        else none

/-- Reads a token without quotes. A date and a time may have one space between them. -/
def readToken? (text : Text) : Option (Value × Text) :=
  let isTokenChar (c : Char) : Bool :=
    c.isAlphanum || c == '+' || c == '-' || c == '_' || c == '.' || c == ':'
  let (token, rest) := text.span isTokenChar
  match hasShape "0000-00-00".toList token, rest with
  | true, ' ' :: d :: after =>
    if d.isDigit then
      let (time, rest) := (d :: after).span isTokenChar
      (token? (token ++ ' ' :: time)).map (·, rest)
    else (token? token).map (·, rest)
  | _, _ => (token? token).map (·, rest)

/-- What a name stands for in a table. -/
def find? (name : Text) (entries : Table) : Option Item :=
  (entries.find? fun entry => entry.1 = name).map Prod.snd

/-- Gives a name another meaning in a table; a new name is added at the end. -/
def put (name : Text) (item : Item) : Table → Table
  | [] => [(name, item)]
  | entry :: rest => if entry.1 = name then (name, item) :: rest else entry :: put name item rest

/-- Changes the table at the end of a path of dotted names. Tables on the way have to be made by
dotted keys too. -/
def atDotted? (path : List Text) (change : Table → Option Table) (entries : Table) : Option Table :=
  match path with
  | [] => change entries
  | name :: path =>
    match find? name entries with
    | none => (atDotted? path change []).map fun inner => put name (.table .dottedKey inner) entries
    | some (.table .dottedKey inner) =>
      (atDotted? path change inner).map fun inner => put name (.table .dottedKey inner) entries
    | _ => none

/-- Adds a new name to a table. -/
def addNew? (name : Text) (item : Item) (entries : Table) : Option Table :=
  if (find? name entries).isSome then none else some (put name item entries)

/-- Changes the table at the end of a path of header names. -/
def atHeader? (path : List Text) (change : Table → Option Table) (entries : Table) : Option Table :=
  match path with
  | [] => change entries
  | name :: path =>
    match find? name entries with
    | none =>
      (atHeader? path change []).map fun inner => put name (.table .outerHeader inner) entries
    | some (.table origin inner) =>
      (atHeader? path change inner).map fun inner => put name (.table origin inner) entries
    | some (.tables (last :: earlier)) =>
      (atHeader? path change last).map fun last => put name (.tables (last :: earlier)) entries
    | _ => none

/-- Opens a table by a header. -/
def openTable? (name : Text) (entries : Table) : Option Table :=
  match find? name entries with
  | none => some (put name (.table .header []) entries)
  | some (.table .outerHeader inner) => some (put name (.table .header inner) entries)
  | _ => none

/-- Opens another table of a list of tables by a header. -/
def pushTable? (name : Text) (entries : Table) : Option Table :=
  match find? name entries with
  | none => some (put name (.tables [[]]) entries)
  | some (.tables tables) => some (put name (.tables ([] :: tables)) entries)
  | _ => none

mutual

/-- The value of an item. -/
def Item.toValue : Item → Value
  | .value value => value
  | .table _ entries => .record (entryValues entries)
  | .tables tables => .list (tableValues tables).reverse

/-- The values of the entries of a table. -/
def entryValues : List (Text × Item) → List (Text × Value)
  | [] => []
  | (name, item) :: rest => (name, item.toValue) :: entryValues rest

/-- The values of tables. -/
def tableValues : List (List (Text × Item)) → List Value
  | [] => []
  | entries :: rest => .record (entryValues entries) :: tableValues rest

end

mutual

/-- Reads a value. Every step takes a character, so `fuel` is the length of the text. -/
def readValue? : Nat → Text → Option (Value × Text)
  | 0, _ => none
  | fuel + 1, text =>
    match text with
    | '"' :: rest => (readString? '"' rest).map fun (value, rest) => (.string value, rest)
    | '\'' :: rest => (readString? '\'' rest).map fun (value, rest) => (.string value, rest)
    | '[' :: rest => (readItems? fuel rest).map fun (items, rest) => (.list items, rest)
    | '\x7b' :: rest =>
      match skipSpace rest with
      | '\x7d' :: rest => some (.record [], rest)
      | rest =>
      (readEntries? fuel [] rest).map fun (entries, rest) => (.record (entryValues entries), rest)
    | text => readToken? text

/-- Reads the rest of a list. -/
def readItems? : Nat → Text → Option (List Value × Text)
  | 0, _ => none
  | fuel + 1, text =>
    match skipLines (text.length + 1) text with
    | ']' :: rest => some ([], rest)
    | text => do
      let (item, rest) ← readValue? fuel text
      match skipLines (rest.length + 1) rest with
      | ']' :: rest => some ([item], rest)
      | ',' :: rest =>
        let (items, rest) ← readItems? fuel rest
        return (item :: items, rest)
      | _ => none

/-- Reads the rest of a table in braces that is not empty. -/
def readEntries? : Nat → Table → Text → Option (Table × Text)
  | 0, _, _ => none
  | fuel + 1, entries, text => do
    let ((path, name), rest) ← readKey? (text.length + 1) text
    match rest with
    | '=' :: rest =>
      let (value, rest) ← readValue? fuel (skipSpace rest)
      let entries ← atDotted? path (addNew? name (.value value)) entries
      match skipSpace rest with
      | '\x7d' :: rest => some (entries, rest)
      | ',' :: rest => readEntries? fuel entries rest
      | _ => none
    | _ => none

end

/-- Reads a header after its opening brackets, up to the closing ones. -/
def readHeader? (close text : Text) : Option ((List Text × Text) × Text) := do
  let (key, rest) ← readKey? (text.length + 1) text
  let rest ← Text.dropFront? close rest
  return (key, rest)

/-- Reads the lines of a document. `path` is the header that is open. Every step takes a character,
so `fuel` is the length of the text. -/
def readLines? : Nat → List Text → Table → Text → Option Table
  | 0, _, _, _ => none
  | fuel + 1, path, document, text =>
    match skipLines (text.length + 1) text with
    | [] => some document
    | '[' :: '[' :: rest => do
      let ((outer, name), rest) ← readHeader? "]]".toList rest
      let document ← atHeader? outer (pushTable? name) document
      readLines? fuel (outer ++ [name]) document (← endLine? rest)
    | '[' :: rest => do
      let ((outer, name), rest) ← readHeader? "]".toList rest
      let document ← atHeader? outer (openTable? name) document
      readLines? fuel (outer ++ [name]) document (← endLine? rest)
    | text => do
      let ((outer, name), rest) ← readKey? (text.length + 1) text
      match rest with
      | '=' :: rest =>
        let (value, rest) ← readValue? (rest.length + 1) (skipSpace rest)
        let document ← atHeader? path (atDotted? outer (addNew? name (.value value))) document
        readLines? fuel path document (← endLine? rest)
      | _ => none
where
  /-- Drops what may stand at the end of a line, up to the line end. -/
  endLine? (text : Text) : Option Text :=
    match skipComment (skipSpace text) with
    | [] => some []
    | rest => if (dropNewline? rest).isSome then some rest else none

/-- Reads a document. -/
def read? (text : Text) : Option Value :=
  let text := match text with
    | '\ufeff' :: rest => rest
    | _ => text
  (readLines? (text.length + 1) [] [] text).map fun document => .record (entryValues document)

end Manuscript.Toml
