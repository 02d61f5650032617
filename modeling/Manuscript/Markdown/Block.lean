import Manuscript.Markdown.Container

/-!
# Reading blocks

Blocks are read line by line. A line first goes on with the containers that are open, then with the
block that is open in them, if there is one and the line does not end it. Otherwise it may open
further containers, and then begins a block of its own.

Some decisions need the lines that follow: whether a table begins, whether a list item has content,
and where a definition ends. So a step is given these lines, and tells how many of them it has
taken.
-/

namespace Manuscript.Markdown

/-- A block that can go on with the next line. -/
inductive Leaf where
  | none
  | paragraph (start : Nat) (lines : List Line)
  | fenced (start indent : Nat) (fence : Fence) (info : Text) (content : List Text)
  | indented (span : Span) (content blank : List Text)
  | html (start : Nat) (ending : Option Text) (content : List Text)
  | table (start : Nat) (columns : List ColumnAlignment) (rows : List Row)

namespace Leaf

/-- The characters of running text, given by its lines, last one first. -/
def runningText (lines : List Line) : List Located :=
  trimmedEnd (Line.locatedLines lines.reverse)

/-- The text of pieces, last one first. -/
def joined (pieces : List Text) : Text :=
  pieces.reverse.flatten

/-- The block that is finished when nothing goes on with it. -/
def close (stop : Nat) : Leaf → List Block
  | none => []
  | paragraph start lines => [.paragraph ⟨start, stop⟩ (runningText lines)]
  | fenced start _ _ info content => [.code ⟨start, stop⟩ (.fencedCode info) (joined content)]
  | indented span content _ => [.code span .indentedCode (joined content)]
  | html start _ content => [.html ⟨start, stop⟩ (joined content)]
  | table start columns rows => [.table ⟨start, stop⟩ columns rows.reverse]

/-- Where a block ends that does not go on with a line. White space that stands alone on the line
after the marks of the containers still belongs to a block of HTML. -/
def stopBefore (line : Line) (cursor : Cursor) (current : Bool) : Leaf → Nat
  | html _ .none _ => if current && !cursor.isAtEnd then cursor.offset else line.start
  | _ => line.start

end Leaf

/-- The state of reading blocks. -/
structure BlockState where
  /-- Finished blocks and open containers. -/
  outline : Outline := {}
  /-- The block that can go on. -/
  leaf : Leaf := .none

namespace BlockState

/-- Finishes the block that is open. -/
def closeLeaf (stop : Nat) (state : BlockState) : BlockState :=
  { outline := (state.leaf.close stop).foldl (fun outline block => outline.add block) state.outline
    leaf := .none }

/-- Whether the next line is blank, or there is none. -/
def nextIsBlank (following : List Line) : Bool :=
  following.head?.all fun line => isBlankRest line.text

/-- Whether a table begins with a line that starts with a pipe. -/
def startsTable (text : Text) (following : List Line) (outline : Outline) : Bool :=
  text.head? == some '|' &&
    ((following.head?.bind outline.inside?).bind (tableColumns? text)).isSome

/-- Whether a line goes on with the running text above it: its rest, given the lines after it. -/
def goesOnText (current : Bool) (cursor : Cursor) (following : List Line) (outline : Outline) :
    Bool :=
  let (missing, inner) := cursor.takeSpaces 4
  if missing = 0 then !isBlankRest inner.text
  else
    !(interrupts false current (nextIsBlank following) inner.text)
      && !(startsTable inner.text following outline)

/-- The lines with which a definition can go on, without the marks of the containers. -/
def definitionLines (outline : Outline) : List Line → List Line
  | [] => []
  | line :: following =>
    let (count, cursor) := outline.matchLine line
    let current := count == outline.containers.length
    let (missing, inner) := cursor.takeSpaces 4
    if goesOnText current cursor following outline
        && (missing == 0 || (underlineLevel? inner.text).isNone) then
      cursor.line :: definitionLines outline following
    else []

/-- The text of lines with their ends. -/
def sourceText (lines : List Line) : Text :=
  Located.chars (Line.locatedLines lines)

/-- Reads a definition that begins here. Gives the number of further lines that belong to it. -/
def definition? (line : Line) (following : List Line) (outline : Outline) :
    Option (Definition × Nat) := do
  guard (line.text.head? = some '[')
  let text := sourceText (line :: definitionLines outline following)
  let (definition, rest) ← Definition.read? text
  return (definition, countLineEnds (text.take (text.length - rest.length)))

/-- The heading on a line. Signs at its end close it if white space stands before them. -/
def heading (level : Nat) (line : Line) : Block :=
  let span : Span := ⟨line.start, line.stop⟩
  let body := (line.drop level).dropWhile isSpace
  let content := (body.text.reverse.dropWhile (· == ' ')).reverse
  let front := (content.reverse.dropWhile (· == '#')).reverse
  let limit : Text :=
    match front.reverse with
    | [] => []
    | ' ' :: _ => (front.reverse.dropWhile (· == ' ')).reverse
    | _ => content
  let closing :=
    if limit.length < content.length then some (body.start + Text.byteLength limit) else none
  .heading span level (Located.ofText body.before body.start limit) closing

/-- Begins a block of HTML that goes on up to a line with the given text, or up to a blank line. -/
def beginHtml (ending : Option Text) (indent : Nat) (line : Line) (outline : Outline) :
    BlockState :=
  let value := List.replicate indent ' ' ++ line.codeText
  let state : BlockState := { outline, leaf := .html line.start ending [value] }
  if ending.any fun text => Text.contains text line.text then state.closeLeaf line.stop else state

/-- Begins a block that is not a container. Gives how many of the following lines it takes. -/
def beginLeaf (lineStart : Nat) (cursor : Cursor) (following : List Line) (outline : Outline) :
    BlockState × Nat :=
  let (missing, inner) := cursor.takeSpaces 4
  let outline := outline.finishList lineStart
  let line := inner.line
  if missing = 0 then
    ({ outline := { outline with lastLineBlank := false }
       leaf := .indented ⟨inner.offset, line.stop⟩ [inner.codeText] [] }, 0)
  else
    let indent := 4 - missing
    let html := match line.text with
      | '<' :: tag =>
        match Tag.blockEnd? tag with
        | some ending => some (some ending)
        | none => if Tag.startsBlock tag || Tag.isWhole tag then some none else none
      | _ => none
    match html with
    | some ending => (beginHtml ending (max cursor.pending indent) line outline, 0)
    | none =>
      if isThematicBreak line.text then
        ({ outline := outline.add (.thematicBreak ⟨line.start, line.stop⟩) }, 0)
      else
        match headingLevel? line.text with
        | some level => ({ outline := outline.add (heading level line) }, 0)
        | none =>
          match Fence.open? line.text with
          | some fence =>
            let info := ((line.text.drop fence.width).dropWhile isSpace).reverse.dropWhile isSpace
            ({ outline
               leaf := .fenced line.start indent fence (unescape false info.reverse) [] }, 0)
          | none =>
            match definition? line following outline with
            | some (definition, taken) =>
              ({ outline :=
                   { outline with definitions := outline.definitions ++ [definition] } }, taken)
            | none => ({ outline, leaf := .paragraph line.start [line] }, 0)

/-- Begins what stands on a line after the marks of `matched` open containers. -/
def beginLine (line : Line) (following : List Line) (matched : Nat) (cursor : Cursor)
    (outline : Outline) : BlockState × Nat :=
  let outline := outline.popMany line.start (outline.containers.length - matched)
  match outline.openContainers line.start (line.text.length + 1) cursor with
  | (outline, none) => ({ outline }, 0)
  | (outline, some cursor) =>
    if isBlankRest cursor.text then ({ outline := outline.blankLine }, 0)
    else beginLeaf line.start cursor following outline

/-- Goes on with running text. Its second line may show that it is a table, and any line may show
that it is a heading. -/
def continueText? (start : Nat) (lines : List Line) (line : Line) (cursor : Cursor) (current : Bool)
    (following : List Line) (outline : Outline) : Option BlockState :=
  let columns := match lines with
    | [header] => if current then (tableColumns? header.text cursor).map (header, ·) else none
    | _ => none
  match columns with
  | some (header, columns) =>
    let rows := (readRow? columns.length header).toList
    some { outline, leaf := .table start columns rows }
  | none =>
    let (missing, inner) := cursor.takeSpaces 4
    let level := if missing ≠ 0 ∧ current then underlineLevel? inner.text else none
    match level with
    | some level =>
      some
        { outline := outline.add (.heading ⟨start, line.stop⟩ level (Leaf.runningText lines) none) }
    | none =>
      if goesOnText current cursor following outline then
        some { outline, leaf := .paragraph start (cursor.line :: lines) }
      else none

/-- Goes on with the block that is open, if the rest of a line belongs to it. -/
def continueLeaf? (line : Line) (cursor : Cursor) (current : Bool) (following : List Line)
    (state : BlockState) : Option BlockState :=
  let outline := state.outline
  match state.leaf with
  | .none => none
  | .paragraph start lines => continueText? start lines line cursor current following outline
  | .fenced start indent fence info content =>
    if current then
      let inner := (cursor.takeSpaces indent).2
      let (missing, mark) := inner.takeSpaces (4 - indent)
      match if missing = 0 then none else fence.close? mark.text with
      | some width => some (state.closeLeaf (mark.offset + width))
      | none =>
        some { state with leaf := .fenced start indent fence info (inner.codeText :: content) }
    else none
  | .indented span content blank =>
    let (missing, inner) := cursor.takeSpaces 4
    if current && (missing == 0 || inner.isAtEnd) then
      if isBlankRest inner.text then
        some
          { outline := { outline with lastLineBlank := true }
            leaf := .indented span content (inner.codeText :: blank) }
      else
        some
          { outline := { outline with lastLineBlank := false }
            leaf := .indented { span with stop := line.stop }
              (inner.codeText :: blank ++ content) [] }
    else none
  | .html start ending content =>
    let next : BlockState := { outline, leaf := .html start ending (cursor.codeText :: content) }
    match ending with
    | some text =>
      if !current then none
      else if Text.contains text cursor.text then some (next.closeLeaf line.stop)
      else some next
    | none => if current && !isBlankRest cursor.text then some next else none
  | .table start columns rows =>
    let inner := cursor.takeAllSpaces
    if current && !(interrupts true current (nextIsBlank following) inner.text) then
      let row := (readRow? columns.length inner.line).toList
      some { state with leaf := .table start columns (row ++ rows) }
    else none

/-- Reads a line, given those that follow. Gives how many of these it takes. -/
def step (state : BlockState) (line : Line) (following : List Line) : BlockState × Nat :=
  let (matched, cursor) := state.outline.matchLine line
  let current := matched == state.outline.containers.length
  match state.continueLeaf? line cursor current following with
  | some next => (next, 0)
  | none =>
    let closed := state.closeLeaf (state.leaf.stopBefore line cursor current)
    beginLine line following matched cursor closed.outline

/-- Reads lines, of which the first ones have been taken already. -/
def run (state : BlockState) (taken : Nat) : List Line → BlockState
  | [] => state
  | line :: following =>
    match taken with
    | taken + 1 => run state taken following
    | 0 =>
      let (next, taken) := state.step line following
      run next taken following

/-- Finishes everything that is open at the end of the source. -/
def finish (stop : Nat) (state : BlockState) : Outline :=
  (state.closeLeaf stop).outline.popAll stop

end BlockState

/-- The blocks of a source. -/
def readOutline (source : Text) : Outline :=
  (BlockState.run {} 0 (lines source)).finish (Text.byteLength source)

end Manuscript.Markdown
