import Manuscript.Pattern.Basic

/-!
# The written form of patterns

Patterns are written as regular expressions without look-around and without references to groups. A
reader goes through the text from left to right and keeps the groups that are open; every step takes
at least one character. A text that is no pattern is rejected, without a reason.
-/

namespace Manuscript.Pattern

/-- The switches of a group. -/
structure Flags where
  /-- Letter case is ignored. -/
  ignoreCase : Bool := false
  /-- `^` and `$` also stand for the ends of lines. -/
  multiLine : Bool := false
  /-- The dot matches line feeds too. -/
  dotAll : Bool := false
  /-- White space and comments between the parts of the pattern are skipped. -/
  spaced : Bool := false
deriving DecidableEq, Repr

/-- A set, closed under letter case where that is ignored. -/
def Flags.close (flags : Flags) (set : CharSet) : CharSet :=
  if flags.ignoreCase then .folded set else set

/-- Characters that have a meaning of their own and stand for themselves after a backslash, together
with the other ASCII characters that may be escaped. -/
def isEscapable (c : Char) : Bool :=
  c.toNat < 128 && !c.isAlphanum && c != '<' && c != '>'

/-- The value of a hexadecimal digit. -/
def hexDigit? (c : Char) : Option Nat :=
  if '0' ≤ c ∧ c ≤ '9' then some (c.toNat - '0'.toNat)
  else if 'a' ≤ c ∧ c ≤ 'f' then some (c.toNat - 'a'.toNat + 10)
  else if 'A' ≤ c ∧ c ≤ 'F' then some (c.toNat - 'A'.toNat + 10)
  else none

/-- The character that hexadecimal digits stand for. -/
def hexChar? (digits : Text) : Option Char := do
  guard (!digits.isEmpty)
  let code ← digits.foldlM (fun code c => (hexDigit? c).map (16 * code + ·)) 0
  if Nat.isValidChar code then some (Char.ofNat code) else none

/-- Reads the digits of a numeric escape: `count` of them, or any number in braces. -/
def readHex? (count : Nat) : Text → Option (Char × Text)
  | '\x7b' :: rest =>
    match rest.span (· != '\x7d') with
    | (digits, _ :: rest) => (hexChar? digits).map (·, rest)
    | _ => none
  | text =>
    if (text.take count).length = count then (hexChar? (text.take count)).map (·, text.drop count)
    else none

/-- The character property of a name, in which case, spaces, hyphens and underscores do not count.
-/
def propertySet? (name : Text) : Option CharSet :=
  let name := (name.filter fun c => !(c == ' ' || c == '-' || c == '_')).map Char.toLower
  let name := ((Text.splitFirst? ['='] name).map Prod.snd).getD name
  if ["l", "letter"].any (·.toList = name) then some .letter
  else if ["nd", "decimalnumber", "digit"].any (·.toList = name) then some .digit
  else if ["whitespace", "wspace", "space"].any (·.toList = name) then some .blank
  else if name = "any".toList then some .any
  else if name = "ascii".toList then some (.range '\x00' '\x7f')
  else none

/-- Reads the name of a property, one letter or in braces. -/
def readProperty? : Text → Option (CharSet × Text)
  | '\x7b' :: rest =>
    match rest.span (· != '\x7d') with
    | ('^' :: name, _ :: rest) => (propertySet? name).map (.complement ·, rest)
    | (name, _ :: rest) => (propertySet? name).map (·, rest)
    | _ => none
  | c :: rest => (propertySet? [c]).map (·, rest)
  | [] => none

/-- What an escape stands for. -/
inductive Escape where
  | char (c : Char)
  | set (set : CharSet)
  | condition (condition : Boundary)
deriving DecidableEq, Repr

/-- The named word boundaries, written after `\b` in braces. -/
def namedBoundary? (name : Text) : Option Boundary :=
  if name = "start".toList then some .wordStart
  else if name = "end".toList then some .wordEnd
  else none

/-- Reads an escape after its backslash. -/
def readEscape? (flags : Flags) : Text → Option (Escape × Text)
  | [] => none
  | 'x' :: rest => (readHex? 2 rest).map fun (c, rest) => (.char c, rest)
  | 'u' :: rest => (readHex? 4 rest).map fun (c, rest) => (.char c, rest)
  | 'U' :: rest => (readHex? 8 rest).map fun (c, rest) => (.char c, rest)
  | 'p' :: rest => (readProperty? rest).map fun (set, rest) => (.set (flags.close set), rest)
  | 'P' :: rest =>
    (readProperty? rest).map fun (set, rest) => (.set (.complement (flags.close set)), rest)
  | 'd' :: rest => some (.set .digit, rest)
  | 'D' :: rest => some (.set (.complement .digit), rest)
  | 's' :: rest => some (.set .blank, rest)
  | 'S' :: rest => some (.set (.complement .blank), rest)
  | 'w' :: rest => some (.set .word, rest)
  | 'W' :: rest => some (.set (.complement .word), rest)
  | 'a' :: rest => some (.char '\x07', rest)
  | 'f' :: rest => some (.char '\x0c', rest)
  | 't' :: rest => some (.char '\t', rest)
  | 'n' :: rest => some (.char '\n', rest)
  | 'r' :: rest => some (.char '\r', rest)
  | 'v' :: rest => some (.char '\x0b', rest)
  | 'A' :: rest => some (.condition .textStart, rest)
  | 'z' :: rest => some (.condition .textEnd, rest)
  | 'B' :: rest => some (.condition .noWordEdge, rest)
  | '<' :: rest => some (.condition .wordStart, rest)
  | '>' :: rest => some (.condition .wordEnd, rest)
  | 'b' :: '\x7b' :: c :: rest =>
    if c.isAlpha || c == '-' then
      match (c :: rest).span (· != '\x7d') with
      | (name, _ :: rest) => (namedBoundary? name).map fun condition => (.condition condition, rest)
      | _ => none
    else some (.condition .wordEdge, '\x7b' :: c :: rest)
  | 'b' :: rest => some (.condition .wordEdge, rest)
  | c :: rest => if isEscapable c then some (.char c, rest) else none

/-- Skips white space and comments. -/
def skipSpace (flags : Flags) : Text → Text
  | [] => []
  | c :: rest =>
    if !flags.spaced then c :: rest
    else if Text.isBlank c then skipSpace flags rest
    else if c = '#' then skipComment flags rest
    else c :: rest
where
  /-- Skips the rest of a comment and what may be skipped after it. -/
  skipComment (flags : Flags) : Text → Text
    | [] => []
    | c :: rest => if c = '\n' then skipSpace flags rest else skipComment flags rest

/-- The ASCII classes that are written `[:name:]` inside brackets. -/
def asciiClasses : List (String × List (Char × Char)) := [
  ("alnum", [('0', '9'), ('A', 'Z'), ('a', 'z')]), ("alpha", [('A', 'Z'), ('a', 'z')]),
  ("ascii", [('\x00', '\x7f')]), ("blank", [('\t', '\t'), (' ', ' ')]),
  ("cntrl", [('\x00', '\x1f'), ('\x7f', '\x7f')]), ("digit", [('0', '9')]),
  ("graph", [('!', '~')]), ("lower", [('a', 'z')]), ("print", [(' ', '~')]),
  ("punct", [('!', '/'), (':', '@'), ('[', '\x60'), ('\x7b', '~')]),
  ("space", [('\t', '\r'), (' ', ' ')]), ("upper", [('A', 'Z')]),
  ("word", [('0', '9'), ('A', 'Z'), ('_', '_'), ('a', 'z')]),
  ("xdigit", [('0', '9'), ('A', 'F'), ('a', 'f')])]

/-- Reads an ASCII class after the opening `[:`. -/
def readAsciiClass? (text : Text) : Option (CharSet × Text) := do
  let (isNegated, text) := match text with
    | '^' :: rest => (true, rest)
    | _ => (false, text)
  let (name, rest) := text.span (· != ':')
  match rest with
  | ':' :: ']' :: rest =>
    let (_, ranges) ← asciiClasses.find? fun entry => entry.1.toList = name
    let set := CharSet.ofRanges ranges
    return (if isNegated then .complement set else set, rest)
  | _ => none

/-- The operations between the parts of a bracket expression. -/
inductive SetOperation where
  | intersection
  | difference
  | symmetricDifference
deriving DecidableEq, Repr

/-- The result of an operation. -/
def SetOperation.apply : SetOperation → CharSet → CharSet → CharSet
  | intersection => CharSet.intersection
  | difference => CharSet.difference
  | symmetricDifference => CharSet.symmetricDifference

/-- A bracket expression that is being read. -/
structure OpenSet where
  /-- Whether it began with `^`. -/
  isNegated : Bool
  /-- The operation before the current part, with what stands to its left. -/
  pending : Option (SetOperation × CharSet) := none
  /-- The union of the items of the current part. -/
  items : CharSet := .none
deriving DecidableEq, Repr

namespace OpenSet

/-- Adds an item to the current part. -/
def add (set : CharSet) (current : OpenSet) : OpenSet :=
  { current with items := .union current.items set }

/-- The set that has been read so far. -/
def value (flags : Flags) (current : OpenSet) : CharSet :=
  match current.pending with
  | some (operation, left) => operation.apply (flags.close left) (flags.close current.items)
  | none => current.items

/-- Begins the part after an operation. -/
def next (flags : Flags) (operation : SetOperation) (current : OpenSet) : OpenSet :=
  { current with pending := some (operation, current.value flags), items := .none }

/-- The set of a complete bracket expression. -/
def close (flags : Flags) (current : OpenSet) : CharSet :=
  let set := flags.close (current.value flags)
  if current.isNegated then .complement set else set

end OpenSet

/-- Reads what comes directly after an opening bracket: a `^`, then hyphens and one closing bracket
that stand for themselves. -/
def openBracket (text : Text) : OpenSet × Text :=
  let (isNegated, text) := match text with
    | '^' :: rest => (true, rest)
    | _ => (false, text)
  let (hyphens, text) := text.span (· == '-')
  let current : OpenSet := { isNegated, items := if hyphens.isEmpty then .none else .single '-' }
  match hyphens, text with
  | [], ']' :: rest => (current.add (.single ']'), rest)
  | _, _ => (current, text)

/-- Reads one character or escape of a bracket expression. -/
def readItem? (flags : Flags) : Text → Option ((Char ⊕ CharSet) × Text)
  | [] => none
  | '\\' :: rest =>
    match readEscape? flags rest with
    | some (.char c, rest) => some (.inl c, rest)
    | some (.set set, rest) => some (.inr set, rest)
    | _ => none
  | c :: rest => some (.inl c, rest)

/-- Reads one character, escape or range of a bracket expression. -/
def readRange? (flags : Flags) (text : Text) : Option (CharSet × Text) := do
  let (item, rest) ← readItem? flags text
  let rest := skipSpace flags rest
  let alone : CharSet := match item with
    | .inl c => .single c
    | .inr set => set
  match rest with
  | '-' :: after =>
    match skipSpace flags after with
    | ']' :: _ => return (alone, rest)
    | '-' :: _ => return (alone, rest)
    | after =>
      match item, ← readItem? flags after with
      | .inl low, (.inl high, rest) => if low ≤ high then return (.range low high, rest) else none
      | _, _ => none
  | _ => return (alone, rest)

/-- Reads the rest of a bracket expression. The open expressions around the current one are on the
stack. Every step takes a character, so `fuel` is the length of the text. -/
def readBrackets? (flags : Flags) : Nat → OpenSet → List OpenSet → Text → Option (CharSet × Text)
  | 0, _, _, _ => none
  | fuel + 1, current, stack, text =>
    match skipSpace flags text with
    | [] => none
    | ']' :: rest =>
      match stack with
      | [] => some (current.close flags, rest)
      | outer :: stack => readBrackets? flags fuel (outer.add (current.close flags)) stack rest
    | '[' :: ':' :: rest =>
      match readAsciiClass? rest with
      | some (set, rest) => readBrackets? flags fuel (current.add set) stack rest
      | none =>
        let (inner, rest) := openBracket (':' :: rest)
        readBrackets? flags fuel inner (current :: stack) rest
    | '[' :: rest =>
      let (inner, rest) := openBracket rest
      readBrackets? flags fuel inner (current :: stack) rest
    | '&' :: '&' :: rest => readBrackets? flags fuel (current.next flags .intersection) stack rest
    | '-' :: '-' :: rest => readBrackets? flags fuel (current.next flags .difference) stack rest
    | '~' :: '~' :: rest =>
      readBrackets? flags fuel (current.next flags .symmetricDifference) stack rest
    | text => do
      let (set, rest) ← readRange? flags text
      readBrackets? flags fuel (current.add set) stack rest

/-- A group that is being read. -/
structure OpenGroup where
  /-- The switches at its start, which come back after its end. -/
  outerFlags : Flags := {}
  /-- The choices that are complete, as one pattern. -/
  choices : Option Pattern := none
  /-- The parts of the current choice, last first. -/
  parts : List Pattern := []
  /-- Whether the last thing that was read can be repeated. -/
  isRepeatable : Bool := false
deriving DecidableEq, Repr

namespace OpenGroup

/-- The parts of a choice in order. -/
def ofParts (parts : List Pattern) : Pattern :=
  match parts.reverse with
  | [] => .empty
  | first :: rest => rest.foldl .sequence first

/-- Adds a part to the current choice. -/
def add (part : Pattern) (group : OpenGroup) : OpenGroup :=
  { group with parts := part :: group.parts, isRepeatable := true }

/-- Ends the current choice and begins the next one. -/
def nextChoice (group : OpenGroup) : OpenGroup :=
  let last := ofParts group.parts
  { group with
    choices := some (match group.choices with
      | some choices => .choice choices last
      | none => last)
    parts := []
    isRepeatable := false }

/-- The pattern of a complete group. -/
def close (group : OpenGroup) : Pattern :=
  (group.nextChoice.choices).getD .empty

/-- Repeats the last part of the current choice. -/
def repeatLast? (least : Nat) (most : Option Nat) (group : OpenGroup) : Option OpenGroup :=
  match group.isRepeatable, group.parts with
  | true, last :: parts => some { group with parts := .repetition least most last :: parts }
  | _, _ => none

end OpenGroup

/-- Reads a decimal number with white space around it. -/
def readCount? (text : Text) : Option (Nat × Text) :=
  let (digits, rest) := (text.dropWhile Text.isBlank).span Char.isDigit
  let value := digits.foldl (fun value c => 10 * value + (c.toNat - '0'.toNat)) 0
  if digits.isEmpty || value ≥ 4294967296 then none else some (value, rest.dropWhile Text.isBlank)

/-- Reads a counted repetition after its opening brace. -/
def readBounds? (text : Text) : Option (Nat × Option Nat × Text) := do
  let (least, rest) ← readCount? text
  match rest with
  | '\x7d' :: rest => return (least, some least, rest)
  | ',' :: rest =>
    match rest.dropWhile Text.isBlank with
    | '\x7d' :: rest => return (least, none, rest)
    | rest =>
      match ← readCount? rest with
      | (most, '\x7d' :: rest) => if least ≤ most then return (least, some most, rest) else none
      | _ => none
  | _ => none

/-- Drops the mark that makes a repetition lazy. -/
def dropLazy (flags : Flags) (text : Text) : Text :=
  match skipSpace flags text with
  | '?' :: rest => rest
  | text => text

/-- Sets one switch. A few switches are known and make no difference to whether a pattern matches.
-/
def Flags.set? (flags : Flags) (value : Bool) : Char → Option Flags
  | 'i' => some { flags with ignoreCase := value }
  | 'm' => some { flags with multiLine := value }
  | 's' => some { flags with dotAll := value }
  | 'x' => some { flags with spaced := value }
  | 'U' => some flags
  | 'u' => if value then some flags else none
  | _ => none

/-- Applies the letters of a switch group: none twice, at most one minus sign, and a letter after
it. -/
def applyFlags? (value : Bool) (seen : List Char) : Text → Flags → Option Flags
  | [], flags => if value || !(seen.head?.all (· == '-')) then some flags else none
  | '-' :: rest, flags => if value then applyFlags? false ('-' :: seen) rest flags else none
  | c :: rest, flags =>
    if seen.contains c then none
    else (flags.set? value c).bind (applyFlags? value (c :: seen) rest)

/-- Whether a text is a name of a group. -/
def isGroupName (name : Text) : Bool :=
  match name with
  | [] => false
  | c :: rest =>
    (c == '_' || Text.isLetter c)
      && rest.all fun c => c == '_' || c == '.' || c == '[' || c == ']' || Text.isWordCharacter c

/-- What stands after an opening parenthesis. -/
inductive GroupOpening where
  /-- A group with these switches. -/
  | group (flags : Flags)
  /-- Switches for the rest of the group around it. -/
  | switch (flags : Flags)
deriving DecidableEq, Repr

/-- Reads the name of a group up to its `>`. -/
def readGroupName? (flags : Flags) (text : Text) : Option (GroupOpening × Text) :=
  match text.span (· != '>') with
  | (name, _ :: rest) => if isGroupName name then some (.group flags, rest) else none
  | _ => none

/-- Reads what stands after an opening parenthesis. -/
def readOpening? (flags : Flags) : Text → Option (GroupOpening × Text)
  | '?' :: 'P' :: '<' :: rest => readGroupName? flags rest
  | '?' :: '<' :: rest => readGroupName? flags rest
  | '?' :: rest =>
    match rest.span fun c => c != ':' && c != ')' with
    | (letters, ':' :: rest) => (applyFlags? true [] letters flags).map (.group ·, rest)
    | (letters, ')' :: rest) =>
      if letters.isEmpty then none else (applyFlags? true [] letters flags).map (.switch ·, rest)
    | _ => none
  | rest => some (.group flags, rest)

/-- What an escape stands for, as a pattern. -/
def Escape.pattern (flags : Flags) : Escape → Pattern
  | .char c => .one (flags.close (.single c))
  | .set chars => .one chars
  | .condition place => .boundary place

/-- Reads the rest of a pattern. The groups around the current one are on the stack. Every step
takes a character, so `fuel` is one more than the length of the text. -/
def readGroups? : Nat → Flags → OpenGroup → List OpenGroup → Text → Option Pattern
  | 0, _, _, _, _ => none
  | fuel + 1, flags, group, stack, text =>
    match skipSpace flags text with
    | [] => if stack.isEmpty then some group.close else none
    | '(' :: rest => do
      match ← readOpening? flags rest with
      | (.group inner, rest) =>
        readGroups? fuel inner { outerFlags := flags } (group :: stack) rest
      | (.switch flags, rest) =>
        readGroups? fuel flags { group with isRepeatable := false } stack rest
    | ')' :: rest =>
      match stack with
      | [] => none
      | outer :: stack => readGroups? fuel group.outerFlags (outer.add group.close) stack rest
    | '|' :: rest => readGroups? fuel flags group.nextChoice stack rest
    | '[' :: rest => do
      let (current, rest) := openBracket rest
      let (set, rest) ← readBrackets? flags (rest.length + 1) current [] rest
      readGroups? fuel flags (group.add (.one set)) stack rest
    | '?' :: rest => do
      readGroups? fuel flags (← group.repeatLast? 0 (some 1)) stack (dropLazy flags rest)
    | '*' :: rest => do
      readGroups? fuel flags (← group.repeatLast? 0 none) stack (dropLazy flags rest)
    | '+' :: rest => do
      readGroups? fuel flags (← group.repeatLast? 1 none) stack (dropLazy flags rest)
    | '\x7b' :: rest => do
      let (least, most, rest) ← readBounds? rest
      readGroups? fuel flags (← group.repeatLast? least most) stack (dropLazy flags rest)
    | '.' :: rest =>
      let set : CharSet := if flags.dotAll then .any else .complement (.single '\n')
      readGroups? fuel flags (group.add (.one set)) stack rest
    | '^' :: rest =>
      let condition : Boundary := if flags.multiLine then .lineStart else .textStart
      readGroups? fuel flags (group.add (.boundary condition)) stack rest
    | '$' :: rest =>
      let condition : Boundary := if flags.multiLine then .lineEnd else .textEnd
      readGroups? fuel flags (group.add (.boundary condition)) stack rest
    | '\\' :: rest => do
      let (escape, rest) ← readEscape? flags rest
      readGroups? fuel flags (group.add (escape.pattern flags)) stack rest
    | c :: rest => readGroups? fuel flags (group.add (.one (flags.close (.single c)))) stack rest

/-- Reads a pattern. -/
def read? (text : Text) : Option Pattern :=
  readGroups? (text.length + 1) {} {} [] text

/-- Reads a pattern that has to match a whole text in any letter case. It is put into a group
between the two ends; a pattern that closes this group itself is taken apart accordingly. -/
def readWhole? (text : Text) : Option Pattern :=
  read? ("(?i)^(?:".toList ++ text ++ ")$".toList)

end Manuscript.Pattern
