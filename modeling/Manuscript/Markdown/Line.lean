import Manuscript.Document.Basic

/-!
# Lines

Blocks are read line by line. A line knows where it stands in the source, so that what is left of it
after some markers have been taken off can still say where its characters are. A cursor moves over
the white space and the markers at the start of a line; it may stop inside the width of a tab.
-/

namespace Manuscript.Markdown

/-- A line of the source, or what is left of one. -/
structure Line where
  /-- The character of the source directly before it. -/
  before : Option Char
  /-- Offset of its first character. -/
  start : Nat
  /-- Its characters up to the line end. -/
  text : Text
  /-- The characters of the line end; none at the end of the source. -/
  ending : Text
deriving DecidableEq, Repr

/-- A character with its place in the source. -/
structure Located where
  /-- The character. -/
  char : Char
  /-- Offset of the character. -/
  start : Nat
  /-- The character of the source directly before it. -/
  before : Option Char
deriving DecidableEq, Repr

namespace Located

/-- Offset after a character. -/
def stop (located : Located) : Nat :=
  located.start + located.char.utf8Size

/-- The characters of a text that begins at an offset. -/
def ofText (before : Option Char) (start : Nat) : Text → List Located
  | [] => []
  | c :: rest => { char := c, start, before } :: ofText (some c) (start + c.utf8Size) rest

/-- The characters without their places. -/
def chars (located : List Located) : Text :=
  located.map char

end Located

/-- White space other than line ends. -/
def isSpace (c : Char) : Bool :=
  c == ' ' || c == '\t' || c == '\x0b' || c == '\x0c'

/-- White space including line ends. -/
def isSpaceOrNewline (c : Char) : Bool :=
  isSpace c || c == '\n' || c == '\r'

/-- ASCII punctuation, which is what a backslash can escape. -/
def isAsciiPunctuation (c : Char) : Bool :=
  33 ≤ c.toNat && c.toNat ≤ 126 && !c.isAlphanum

/-- Whether a text is nothing but white space. -/
def isBlankRest (text : Text) : Bool :=
  text.all isSpace

namespace Line

/-- The offset of the line end. -/
def contentStop (line : Line) : Nat :=
  line.start + Text.byteLength line.text

/-- The offset after the line end. -/
def stop (line : Line) : Nat :=
  line.contentStop + Text.byteLength line.ending

/-- A line without its first characters. -/
def drop : Nat → Line → Line
  | 0, line => line
  | count + 1, line =>
    match line.text with
    | [] => line
    | c :: rest =>
      drop count { line with before := some c, start := line.start + c.utf8Size, text := rest }

/-- A line without its first characters that satisfy `skipped`. -/
def dropWhile (skipped : Char → Bool) (line : Line) : Line :=
  line.drop (line.text.takeWhile skipped).length

/-- The characters of a line with their places, without the line end. -/
def located (line : Line) : List Located :=
  Located.ofText line.before line.start line.text

/-- The characters of a line with their places, with the line end. -/
def locatedWithEnding (line : Line) : List Located :=
  Located.ofText line.before line.start (line.text ++ line.ending)

/-- The characters of consecutive lines, without the last line end. -/
def locatedLines : List Line → List Located
  | [] => []
  | [line] => line.located
  | line :: rest => line.locatedWithEnding ++ locatedLines rest

/-- The text of a line with a line feed at its end, if it has an end. -/
def codeText (line : Line) : Text :=
  line.text ++ if line.ending = ['\r', '\n'] then ['\n'] else line.ending

end Line

/-- The line at the start of a text, given the part of it that has been passed, last character
first. Gives the rest of the text too. -/
def splitLine (passed : Text) : Text → Text × Text × Text
  | [] => (passed.reverse, [], [])
  | '\n' :: rest => (passed.reverse, ['\n'], rest)
  | '\r' :: '\n' :: rest => (passed.reverse, ['\r', '\n'], rest)
  | '\r' :: rest => (passed.reverse, ['\r'], rest)
  | c :: rest => splitLine (c :: passed) rest

/-- A line takes characters off a text that is not empty. -/
theorem length_splitLine (passed text : Text) :
    (splitLine passed text).2.2.length ≤ text.length := by
  fun_induction splitLine passed text <;> simp_all <;> omega

/-- The first line takes at least one character. -/
theorem length_splitLine_lt {text : Text} (nonempty : text ≠ []) :
    (splitLine [] text).2.2.length < text.length := by
  unfold splitLine
  split
  · exact absurd rfl nonempty
  · simp only [List.length_cons]; omega
  · simp only [List.length_cons]; omega
  · simp only [List.length_cons]; omega
  · rename_i c rest _ _ _
    have := length_splitLine [c] rest
    simp only [List.length_cons]
    omega

/-- The lines of a text that begins at an offset. -/
def linesFrom (before : Option Char) (start : Nat) (text : Text) : List Line :=
  if _empty : text = [] then []
  else
    let line : Line :=
      { before, start, text := (splitLine [] text).1, ending := (splitLine [] text).2.1 }
    line :: linesFrom (line.ending.getLast?.or before) line.stop (splitLine [] text).2.2
termination_by text.length
decreasing_by exact length_splitLine_lt _empty

/-- The lines of a source. -/
def lines (source : Text) : List Line :=
  linesFrom none 0 source

/-- A place at the start of a line. -/
structure Cursor where
  /-- What is left of the line. -/
  line : Line
  /-- Number of characters since the line started or since the last tab. -/
  column : Nat := 0
  /-- Width of the last tab that has not been used. -/
  pending : Nat := 0
deriving DecidableEq, Repr

/-- What is left after taking white space from a text. -/
structure SpaceScan where
  /-- Width that could not be taken. -/
  missing : Nat
  /-- Number of characters that were taken. -/
  taken : Nat
  /-- Number of characters since the last tab. -/
  column : Nat
  /-- Width of the last tab that was not used. -/
  pending : Nat

/-- Takes white space of a given width from the start of a text. A tab reaches to the next multiple
of four. -/
def scanSpaces (wanted column taken pending : Nat) : Text → SpaceScan
  | ' ' :: rest =>
    if 0 < wanted then scanSpaces (wanted - 1) (column + 1) (taken + 1) pending rest
    else ⟨wanted, taken, column, pending⟩
  | '\t' :: rest =>
    if 0 < wanted then
      let width := 4 - column % 4
      scanSpaces (wanted - width) 0 (taken + 1) (width - wanted) rest
    else ⟨wanted, taken, column, pending⟩
  | _ => ⟨wanted, taken, column, pending⟩

namespace Cursor

/-- A cursor at the start of a line. -/
def ofLine (line : Line) : Cursor :=
  { line }

/-- What is left of the text. -/
def text (cursor : Cursor) : Text :=
  cursor.line.text

/-- The offset of the cursor. -/
def offset (cursor : Cursor) : Nat :=
  cursor.line.start

/-- Whether the line ends here. -/
def isAtEnd (cursor : Cursor) : Bool :=
  cursor.text.isEmpty

/-- Moves over characters that are not white space. -/
def advance (count : Nat) (cursor : Cursor) : Cursor :=
  { cursor with line := cursor.line.drop count, column := cursor.column + count }

/-- Takes white space up to a given width, and gives the width that is missing. -/
def takeSpaces (wanted : Nat) (cursor : Cursor) : Nat × Cursor :=
  let fromTab := min cursor.pending wanted
  let scan := scanSpaces (wanted - fromTab) cursor.column 0 (cursor.pending - fromTab) cursor.text
  (scan.missing,
    { line := cursor.line.drop scan.taken, column := scan.column, pending := scan.pending })

/-- Takes all spaces and tabs. -/
def takeAllSpaces (cursor : Cursor) : Cursor :=
  { cursor with line := cursor.line.dropWhile (fun c => c == ' ' || c == '\t'), pending := 0 }

/-- Takes one character, if it is the given one. -/
def takeChar? (c : Char) (cursor : Cursor) : Option Cursor :=
  if cursor.text.head? = some c then some (cursor.advance 1) else none

/-- Takes the mark of a block quote and the space after it. -/
def takeQuoteMark? (cursor : Cursor) : Option Cursor :=
  (cursor.takeChar? '>').map fun cursor => (cursor.takeSpaces 1).2

/-- What is left of the line, with the unused width of a tab written as spaces. -/
def codeText (cursor : Cursor) : Text :=
  List.replicate cursor.pending ' ' ++ cursor.line.codeText

end Cursor

end Manuscript.Markdown
