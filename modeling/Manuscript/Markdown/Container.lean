import Manuscript.Markdown.Table
import Manuscript.Markdown.Target
import Manuscript.Markdown.Event

/-!
# Blocks and the containers that hold them

Block quotes, lists, list items and footnote definitions hold other blocks. Which of them are open
is known from the marks at the start of each line. A list is tight until a blank line stands between
two of its items or between two blocks of an item; that a line was blank is remembered until it is
known what follows.
-/

namespace Manuscript.Markdown

/-- A block that has been read. Its running text has not been looked at yet. -/
inductive Block where
  | paragraph (span : Span) (content : List Located)
  | heading (span : Span) (level : Nat) (content : List Located) (closing : Option Nat)
  | thematicBreak (span : Span)
  | code (span : Span) (construct : Construct) (value : Text)
  | html (span : Span) (value : Text)
  | table (span : Span) (columns : List ColumnAlignment) (rows : List Row)
  | taskMark (span : Span) (checked : Bool)
  | list (span : Span) (start : Option Nat) (tight : Bool) (items : List Block)
  | container (span : Span) (construct : Construct) (blocks : List Block)

/-- What a container is. -/
inductive ContainerKind where
  | quote
  | list (mark : ListMark) (tight : Bool)
  | item (indent : Nat)
  | footnote (label : Text)
deriving DecidableEq, Repr

namespace ContainerKind

/-- Whether a container is a list. -/
def isList : ContainerKind → Bool
  | list _ _ => true
  | _ => false

/-- Whether a container is a list item. -/
def isItem : ContainerKind → Bool
  | item _ => true
  | _ => false

/-- Whether a container is a footnote definition. -/
def isFootnote : ContainerKind → Bool
  | footnote _ => true
  | _ => false

/-- A list that is not tight. -/
def loosened : ContainerKind → ContainerKind
  | list mark _ => list mark false
  | kind => kind

/-- Takes the part of a line that shows that a container goes on. Blank lines need no indentation.
-/
def goesOn? (cursor : Cursor) : ContainerKind → Option Cursor
  | quote => (cursor.takeSpaces 3).2.takeQuoteMark?
  | list _ _ => some cursor
  | item indent => indented? indent
  | footnote _ => indented? 4
where
  /-- Takes white space of a given width, or less before the line end. -/
  indented? (width : Nat) : Option Cursor :=
    let (missing, next) := cursor.takeSpaces width
    if missing = 0 ∨ next.isAtEnd then some next else none

end ContainerKind

/-- A container that is open. -/
structure OpenContainer where
  /-- What it is. -/
  kind : ContainerKind
  /-- Where it begins. -/
  start : Nat
  /-- The finished blocks in it, last one first. -/
  blocks : List Block := []

namespace OpenContainer

/-- The block that a container becomes. -/
def close (stop : Nat) (container : OpenContainer) : Block :=
  let span : Span := ⟨container.start, stop⟩
  let blocks := container.blocks.reverse
  match container.kind with
  | .quote => .container span .blockquote blocks
  | .list mark tight => .list span mark.number tight blocks
  | .item _ => .container span .item blocks
  | .footnote label => .container span (.footnoteDefinition label) blocks

/-- Takes the marks of open containers, outermost first, from the start of a line. Gives how many of
them go on. -/
def matchLine : List OpenContainer → Cursor → Nat × Cursor
  | [], cursor => (0, cursor)
  | container :: inner, cursor =>
    match container.kind.goesOn? cursor with
    | none => (0, cursor)
    | some next =>
      let (count, last) := matchLine inner next
      (count + 1, last)

end OpenContainer

/-- What has been read of a source: finished blocks and open containers. -/
structure Outline where
  /-- Open containers, innermost first. -/
  containers : List OpenContainer := []
  /-- Finished blocks outside of all containers, last one first. -/
  blocks : List Block := []
  /-- Whether the last line was blank and nothing has come of it yet. -/
  lastLineBlank : Bool := false
  /-- The end of the line on which a list item began without content, if nothing followed yet. -/
  emptyItem : Option Nat := none
  /-- Definitions of link targets in order. -/
  definitions : List Definition := []
  /-- Labels of footnotes that are defined. -/
  footnotes : List Text := []

namespace Outline

/-- Adds a finished block to the innermost container. -/
def add (block : Block) (outline : Outline) : Outline :=
  match outline.containers with
  | [] => { outline with blocks := block :: outline.blocks }
  | top :: below =>
    { outline with containers := { top with blocks := block :: top.blocks } :: below }

/-- Opens a container. -/
def push (kind : ContainerKind) (start : Nat) (outline : Outline) : Outline :=
  { outline with containers := { kind, start } :: outline.containers }

/-- Closes the innermost container. -/
def pop (stop : Nat) (outline : Outline) : Outline :=
  match outline.containers with
  | [] => outline
  | top :: below =>
    let emptyItem := match top.kind with
      | .list _ true => none
      | _ => outline.emptyItem
    { outline with containers := below, emptyItem }.add (top.close stop)

/-- Closes a number of containers. -/
def popMany (stop : Nat) : Nat → Outline → Outline
  | 0, outline => outline
  | count + 1, outline => popMany stop count (outline.pop stop)

/-- Closes all containers. -/
def popAll (stop : Nat) (outline : Outline) : Outline :=
  outline.popMany stop outline.containers.length

/-- The kind of the innermost container. -/
def top? (outline : Outline) : Option ContainerKind :=
  outline.containers.head?.map OpenContainer.kind

/-- Takes the marks of the open containers from the start of a line. -/
def matchLine (line : Line) (outline : Outline) : Nat × Cursor :=
  OpenContainer.matchLine outline.containers.reverse (Cursor.ofLine line)

/-- The rest of a line that stands in all open containers. -/
def inside? (line : Line) (outline : Outline) : Option Cursor :=
  let (count, cursor) := outline.matchLine line
  if count = outline.containers.length then some cursor else none

/-- Ends a list item without content once a blank line has followed it. -/
def finishEmptyItem (outline : Outline) : Outline :=
  let closed := match outline.emptyItem with
    | none => outline
    | some stop =>
      if outline.lastLineBlank ∧ outline.top?.any ContainerKind.isItem then outline.pop stop
      else outline
  { closed with emptyItem := none }

/-- Makes the list around the innermost container loose. -/
def loosenAround (outline : Outline) : Outline :=
  match outline.containers with
  | top :: next :: below =>
    { outline with containers := top :: { next with kind := next.kind.loosened } :: below }
  | _ => outline

/-- Ends the list that is open, before a block that does not belong to it. A blank line before the
block makes the list around it loose. -/
def finishList (stop : Nat) (outline : Outline) : Outline :=
  let outline := outline.finishEmptyItem
  let outline := if outline.top?.any ContainerKind.isList then outline.pop stop else outline
  if outline.lastLineBlank then { outline.loosenAround with lastLineBlank := false } else outline

/-- Readies the list for an item: the open one if it has the same sign, otherwise a new one. -/
def continueList (start : Nat) (mark : ListMark) (outline : Outline) : Outline :=
  let outline := outline.finishEmptyItem
  match outline.containers with
  | { kind := .list opened tight, start := begun, blocks } :: below =>
    if opened.sign = mark.sign then
      { outline with
        containers :=
          { kind := .list opened (tight && !outline.lastLineBlank), start := begun, blocks }
          :: below
        lastLineBlank := false }
    else { (outline.finishList start).push (.list mark true) start with lastLineBlank := false }
  | _ => { (outline.finishList start).push (.list mark true) start with lastLineBlank := false }

/-- Notes a blank line. Inside a quote it means nothing, and after it an item that has no content
takes no further lines by their indentation. -/
def blankLine (outline : Outline) : Outline :=
  match outline.containers with
  | top :: below =>
    match top.kind with
    | .quote => outline
    | .item _ =>
      let kind := if outline.emptyItem.isSome then .item 0 else top.kind
      { outline with containers := { top with kind } :: below, lastLineBlank := true }
    | _ => { outline with lastLineBlank := true }
  | [] => { outline with lastLineBlank := true }

/-- Opens a footnote definition. -/
def openFootnote (start : Nat) (label : Text) (outline : Outline) : Outline :=
  let outline := outline.finishList start
  let outline :=
    if outline.top?.any ContainerKind.isFootnote then outline.pop start else outline
  { outline.push (.footnote label) start with
    footnotes := labelKey label :: outline.footnotes }

/-- The state of the box at the start of a list item, with what follows it. -/
def taskMark? (cursor : Cursor) : Option (Bool × Cursor) :=
  let next := (cursor.takeSpaces 3).2
  match next.text with
  | '[' :: c :: ']' :: d :: _ =>
    if isSpace d then
      if isSpace c then some (false, next.advance 3)
      else if c = 'x' ∨ c = 'X' then some (true, next.advance 3)
      else none
    else none
  | _ => none

/-- Opens a list item after its mark, which begins at `start` after `outer` columns of white space
and is `width` wide. Gives the cursor at its content, if there is any on the line. -/
def openItem (outer : Nat) (mark : ListMark) (width : Nat) (marked : Cursor) (after : Cursor)
    (outline : Outline) : Outline × Option Cursor :=
  let start := marked.offset - outer
  let outline := outline.continueList start mark
  let indent := outer + width + 1
  if isBlankRest after.text then
    let stop := after.line.stop
    ({ outline.push (.item indent) start with emptyItem := some stop }, none)
  else
    let (missing, next) := after.takeSpaces 4
    let (indent, next) := if missing = 0 then (indent, after) else (indent + (4 - missing), next)
    let outline := outline.push (.item indent) start
    match taskMark? next with
    | none => (outline, some next)
    | some (checked, content) =>
      (outline.add (.taskMark ⟨next.offset, content.offset⟩ checked), some content)

/-- Opens the container that begins here, if one does. Gives the cursor after its mark, unless
nothing else stands on the line. -/
def openContainer? (lineStart : Nat) (cursor : Cursor) (outline : Outline) :
    Option (Outline × Option Cursor) :=
  let (missing, marked) := cursor.takeSpaces 4
  if missing = 0 then none
  else
    match footnoteLabel? marked.text with
    | some (label, rest) =>
      let after := marked.line.drop (marked.text.length - rest.length)
      let content := after.dropWhile isSpace
      some (outline.openFootnote marked.offset label, some (Cursor.ofLine content))
    | none =>
      match listItem? marked with
      | some (mark, width, after) => some (outline.openItem (4 - missing) mark width marked after)
      | none =>
        (marked.takeQuoteMark?).map fun after =>
          ((outline.finishList lineStart).push .quote marked.offset, some after)
where
  /-- Reads the mark of a list item and the space after it. -/
  listItem? (marked : Cursor) : Option (ListMark × Nat × Cursor) := do
    let (mark, width) ← ListMark.read? marked.text
    guard !(isThematicBreak marked.text)
    let (missing, after) := (marked.advance width).takeSpaces 1
    guard (missing = 0 ∨ after.isAtEnd)
    return (mark, width, after)

/-- Opens all containers that begin on a line, of which there are at most `fuel`. -/
def openContainers (lineStart : Nat) : Nat → Cursor → Outline → Outline × Option Cursor
  | 0, cursor, outline => (outline, some cursor)
  | fuel + 1, cursor, outline =>
    match outline.openContainer? lineStart cursor with
    | none => (outline, some cursor)
    | some (outline, none) => (outline, none)
    | some (outline, some next) => openContainers lineStart fuel next outline

end Outline

end Manuscript.Markdown
