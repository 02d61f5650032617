import Manuscript.Markdown.Tag

/-!
# Marks

The first characters of a line tell which block begins there. They are looked for in the line
without the white space before the mark and without its end.
-/

namespace Manuscript.Markdown

/-- How often a character is repeated at the start of a text. -/
def runLength (c : Char) (text : Text) : Nat :=
  (text.takeWhile (· == c)).length

/-- Whether a line is a thematic break: three or more of one sign and nothing else. -/
def isThematicBreak (text : Text) : Bool :=
  match text with
  | [] => false
  | c :: _ =>
    (c == '*' || c == '-' || c == '_') && 3 ≤ text.count c
      && text.all fun d => d == c || d == ' ' || d == '\t'

/-- The level of a heading that begins here. -/
def headingLevel? (text : Text) : Option Nat :=
  let level := runLength '#' text
  if 1 ≤ level ∧ level ≤ 6 ∧ (text.drop level).head?.all isSpace then some level else none

/-- The level that a line gives the paragraph above it. -/
def underlineLevel? (text : Text) : Option Nat :=
  match text with
  | '=' :: rest => if isBlankRest (rest.dropWhile (· == '=')) then some 1 else none
  | '-' :: rest => if isBlankRest (rest.dropWhile (· == '-')) then some 2 else none
  | _ => none

/-- The fence of a code block. -/
structure Fence where
  /-- The sign that is repeated. -/
  sign : Char
  /-- How often it is repeated. -/
  width : Nat
deriving DecidableEq, Repr

namespace Fence

/-- The fence that opens here. After backticks there may be no other backtick on the line. -/
def open? (text : Text) : Option Fence :=
  match text with
  | [] => none
  | c :: _ =>
    let width := runLength c text
    if (c = '\x60' ∧ !(text.drop width).contains '\x60' ∨ c = '~') ∧ 3 ≤ width then
      some { sign := c, width }
    else none

/-- The length of the mark with which a line closes a fence, with the spaces after it. -/
def close? (fence : Fence) (text : Text) : Option Nat :=
  let width := runLength fence.sign text
  if fence.width ≤ width ∧ (text.drop width).all (· == ' ') then some text.length else none

end Fence

/-- The mark of a list item. -/
structure ListMark where
  /-- The bullet, or the sign after the number. Items of one list have the same sign. -/
  sign : Char
  /-- The number. -/
  number : Option Nat
deriving DecidableEq, Repr

namespace ListMark

/-- Whether a character is a bullet. -/
def isBullet (c : Char) : Bool :=
  c == '-' || c == '+' || c == '*'

/-- Reads a mark. Gives its width too. -/
def read? (text : Text) : Option (ListMark × Nat) :=
  match text with
  | [] => none
  | c :: _ =>
    if isBullet c then some ({ sign := c, number := none }, 1)
    else
      let digits := text.takeWhile Char.isDigit
      match text.drop digits.length with
      | [] => none
      | d :: _ =>
        if 1 ≤ digits.length ∧ digits.length ≤ 9 ∧ (d = '.' ∨ d = ')') then
          let number := digits.foldl (fun value c => value * 10 + (c.toNat - '0'.toNat)) 0
          some ({ sign := d, number := some number }, digits.length + 1)
        else none

/-- Whether a mark can end here: white space or the line end follows. -/
def endsHere (rest : Text) : Bool :=
  rest.head?.all fun c => c == ' ' || c == '\t'

/-- Whether a list that begins inside a paragraph can have this mark: one with numbers has to begin
with one. -/
def canInterrupt (mark : ListMark) : Bool :=
  mark.number.all (· == 1)

end ListMark

/-- A label after white space: what is collapsed becomes one space. -/
def collapseInto (label : Text) : Text :=
  if label.head? = some ' ' then label else ' ' :: label

/-- Reads a label up to the closing bracket. The part that has been read is given last character
first, with its length and whether the white space at its end holds a line end: there may be only
one of these in a row. -/
def readLabelFrom? (label : Text) (count : Nat) (lineEnded : Bool) : Text → Option (Text × Text)
  | [] => none
  | ']' :: rest => some (label, rest)
  | '[' :: _ => none
  | '\\' :: c :: rest =>
    if 1000 ≤ count then none else readLabelFrom? (c :: '\\' :: label) (count + 2) false rest
  | '\r' :: '\n' :: rest =>
    if lineEnded ∨ 1000 ≤ count then none
    else readLabelFrom? (collapseInto label) (count + 2) true rest
  | c :: rest =>
    let isEnd := c = '\n' ∨ c = '\r'
    if 1000 ≤ count ∨ lineEnded ∧ isEnd then none
    else if isEnd then readLabelFrom? (collapseInto label) (count + 1) true rest
    else if isSpace c then readLabelFrom? (collapseInto label) (count + 1) lineEnded rest
    else readLabelFrom? (c :: label) (count + 1) false rest

/-- Reads a label and the bracket that closes it, after the one that opens it. White space in it is
collapsed; a blank label is no label. -/
def readLabel? (text : Text) : Option (Text × Text) :=
  match readLabelFrom? [] 0 false text with
  | none => none
  | some (label, rest) =>
    let label := ((label.dropWhile (· == ' ')).reverse).dropWhile (· == ' ')
    if label.isEmpty then none else some (label, rest)

/-- The label of a footnote definition that begins here, with what follows its colon. -/
def footnoteLabel? : Text → Option (Text × Text)
  | '[' :: '^' :: text =>
    match readLabel? text with
    | some (label, ':' :: rest) => some (label, rest)
    | _ => none
  | _ => none

/-- Whether a line ends a paragraph above it. What is `current` stands in the same containers as the
paragraph. Lists end tables more easily than paragraphs, which go on before a list that is empty. -/
def interrupts (inTable current nextIsBlank : Bool) (text : Text) : Bool :=
  text.isEmpty || isThematicBreak text || (headingLevel? text).isSome || (Fence.open? text).isSome
    || text.head? == some '>'
    || (match ListMark.read? text with
      | none => false
      | some (mark, width) =>
        let rest := text.drop width
        ListMark.endsHere rest
          && (!current || inTable || mark.canInterrupt && !(isBlankRest rest && nextIsBlank)))
    || (match text with
      | '<' :: tag => (Tag.blockEnd? tag).isSome || Tag.startsBlock tag
      | _ => false)
    || (footnoteLabel? text).isSome

end Manuscript.Markdown
