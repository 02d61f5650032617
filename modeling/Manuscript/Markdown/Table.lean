import Manuscript.Document.Basic
import Manuscript.Markdown.Mark

/-!
# Tables

A table is a row of headers, a row that delimits the columns and tells how they are aligned, and any
number of further rows. A pipe ends a cell unless a backslash stands before it.
-/

namespace Manuscript.Markdown

/-- A cell with its text. -/
structure Cell where
  /-- The cell with the white space around its text. -/
  span : Span
  /-- The characters of the text. -/
  content : List Located
deriving DecidableEq, Repr

/-- A row of a table. -/
structure Row where
  /-- The row with its line end. -/
  span : Span
  /-- The cells in order. -/
  cells : List Cell
deriving DecidableEq, Repr

/-- Characters without the white space at their end. -/
def trimmedEnd (content : List Located) : List Located :=
  (content.reverse.dropWhile fun located => isSpaceOrNewline located.char).reverse

/-- Splits characters before the first pipe that ends a cell. -/
def splitCell : List Located → List Located × List Located
  | [] => ([], [])
  | a :: rest =>
    if a.char = '|' then ([], a :: rest)
    else
      match rest with
      | [] => ([a], [])
      | b :: after =>
        if a.char = '\\' ∧ isAsciiPunctuation b.char then
          match after with
          | c :: after =>
            if b.char = '\\' ∧ c.char = '|' then
              let (front, back) := splitCell after
              (a :: b :: c :: front, back)
            else
              let (front, back) := splitCell (c :: after)
              (a :: b :: front, back)
          | [] => ([a, b], [])
        else
          let (front, back) := splitCell (b :: after)
          (a :: front, back)

/-- The cells of a line, of which there are at most `fuel`. Only a cell that is followed by a pipe
can be blank. -/
def readCells (lineStop : Nat) : Nat → List Located → List Cell
  | 0, _ => []
  | fuel + 1, characters =>
    let inner := match characters with
      | a :: rest => if a.char = '|' then rest else a :: rest
      | [] => []
    let body := inner.dropWhile fun located => isSpace located.char
    match inner.head?, body with
    | some first, next :: rest =>
      let (content, after) := splitCell ({ next with before := none } :: rest)
      let stop := (after.head?.map Located.start).getD lineStop
      { span := ⟨first.start, stop⟩, content := trimmedEnd content } ::
        readCells lineStop fuel after
    | _, _ => []

/-- Reads a row with a given number of cells: further cells are dropped, missing ones are empty. A
line without any cell is no row. -/
def readRow? (width : Nat) (line : Line) : Option Row :=
  let cells := readCells line.contentStop (line.text.length + 1) line.located
  let empty : Cell := { span := ⟨line.stop, line.stop⟩, content := [] }
  if cells.isEmpty then none
  else
    some
      { span := ⟨line.start, line.stop⟩
        cells := cells.take width ++ List.replicate (width - cells.length) empty }

/-- Number of columns of a line of headers, if it has a pipe that is not escaped. -/
def headerWidth? (text : Text) : Option Nat :=
  let pipes := countPipes false text
  let text := text.dropWhile isSpace
  if pipes = 0 then none
  else
    some (pipes - (if text.head? = some '|' then 1 else 0) + (if endsWithPipe text then 0 else 1))
where
  /-- Number of pipes that no backslash escapes. -/
  countPipes (escaped : Bool) : Text → Nat
    | [] => 0
    | c :: rest =>
      (if c = '|' ∧ !escaped then 1 else 0) + countPipes (c == '\\' && !escaped) rest
  /-- Whether only white space follows the last pipe, and that one is not escaped. -/
  endsWithPipe (text : Text) : Bool :=
    match text.reverse.dropWhile isSpace with
    | '|' :: before => (before.takeWhile (· == '\\')).length % 2 == 0
    | _ => false

/-- What has been read of the line that delimits columns. -/
structure Delimiters where
  /-- Alignments of the finished columns, last one first. -/
  columns : List ColumnAlignment := []
  /-- Alignment of the column that is being read. -/
  alignment : ColumnAlignment := .none
  /-- Whether the column has no sign yet. -/
  fresh : Bool := true
  /-- Whether the column has a hyphen. -/
  hyphen : Bool := false
  /-- Whether there was a pipe. -/
  pipe : Bool := false
  /-- Whether there was a hyphen. -/
  anyHyphen : Bool := false

namespace Delimiters

/-- The alignment of a column after one more colon. -/
def afterColon (fresh : Bool) : ColumnAlignment → ColumnAlignment
  | .none => if fresh then .left else .right
  | .left => if fresh then .left else .center
  | alignment => alignment

/-- Takes one character. A pipe ends a column, which needs a hyphen. -/
def step? (state : Delimiters) (c : Char) : Option Delimiters :=
  match c with
  | ' ' => some state
  | ':' =>
    some { state with alignment := afterColon state.fresh state.alignment, fresh := false }
  | '-' => some { state with fresh := false, hyphen := true, anyHyphen := true }
  | '|' =>
    if state.hyphen then
      some
        { columns := state.alignment :: state.columns, pipe := true, anyHyphen := state.anyHyphen }
    else none
  | _ => none

/-- The alignments of all columns, if the line has a pipe and a hyphen. -/
def finish? (state : Delimiters) : Option (List ColumnAlignment) :=
  let columns := if state.fresh then state.columns else state.alignment :: state.columns
  if state.pipe ∧ state.anyHyphen then some columns.reverse else none

/-- Reads the line that delimits columns, after the marks of the containers it stands in. -/
def read? (cursor : Cursor) : Option (List ColumnAlignment) := do
  let (missing, cursor) := cursor.takeSpaces 4
  guard (missing ≠ 0)
  let (pipe, text) := match cursor.text with
    | '|' :: rest => (true, rest)
    | text => (false, text)
  let state ← text.foldlM step? { pipe }
  state.finish?

end Delimiters

/-- The columns of a table that has a line of headers before a line of delimiters. -/
def tableColumns? (header : Text) (delimiters : Cursor) : Option (List ColumnAlignment) := do
  let width ← headerWidth? header
  let columns ← Delimiters.read? delimiters
  guard (columns.length = width)
  return columns

end Manuscript.Markdown
