import Manuscript.Document.Basic
import Manuscript.Text.Blank

/-!
# Events

A source that has been read is a stream of events: constructs are entered and left, and content
stands between. This module says what the events are and builds the tree of a document from them.

Three rules give the tree its shape. Neighbouring texts become one text. Inline content that stands
directly in a list item, as it does in a tight list, is gathered in paragraphs of its own, which
have no span. A list is spread when one of its items holds a paragraph that the stream itself
opened.
-/

namespace Manuscript.Markdown

/-- A construct that has content of its own. -/
inductive Construct where
  | paragraph
  | heading (level : Nat)
  | blockquote
  | fencedCode (info : Text)
  | indentedCode
  | htmlBlock
  | list (start : Option Nat)
  | item
  | footnoteDefinition (label : Text)
  | table (columns : List ColumnAlignment)
  | tableHead
  | tableRow
  | tableCell
  | emphasis
  | strong
  | strikethrough
  | link (url title : Text)
  | image (url title : Text)
deriving DecidableEq, Repr

/-- One step of a stream. -/
inductive Event where
  | enter (construct : Construct)
  | leave
  | text (value : Text)
  | code (value : Text)
  | html (value : Text)
  | inlineHtml (value : Text)
  | footnoteReference (label : Text)
  | softBreak
  | hardBreak
  | rule
  | taskMark (checked : Bool)
deriving DecidableEq, Repr

/-- An event with the part of the source that it was read from. For a construct that is entered this
is the whole construct. -/
structure LocatedEvent where
  /-- What happens. -/
  event : Event
  /-- Where it was read. -/
  span : Span
deriving DecidableEq, Repr

namespace Construct

/-- Whether a construct belongs to running text. -/
def isInline : Construct → Bool
  | emphasis | strong | strikethrough | link _ _ | image _ _ => true
  | _ => false

/-- The language and the rest of the line that opens a fenced code block. -/
def splitInfo (info : Text) : Option Text × Option Text :=
  let info := Text.trim info
  let language := info.takeWhile (!Text.isBlank ·)
  (Text.nonempty? language, Text.nonempty? (Text.trim (info.drop language.length)))

/-- The kind of node that a construct becomes, before its content is known. -/
def kind : Construct → Kind
  | paragraph => .paragraph
  | heading level => .heading level
  | blockquote => .blockquote
  | fencedCode info => .code (splitInfo info).1 (splitInfo info).2 []
  | indentedCode => .code none none []
  | htmlBlock => .html []
  | list start => .list start.isSome start false
  | item => .listItem none
  | footnoteDefinition label => .footnoteDefinition label
  | table columns => .table columns
  | tableHead => .tableRow true
  | tableRow => .tableRow false
  | tableCell => .tableCell
  | emphasis => .emphasis
  | strong => .strong
  | strikethrough => .delete
  | link url title => .link url (Text.nonempty? title)
  | image url title => .image url [] (Text.nonempty? title)

end Construct

/-- A node that is still open. -/
structure Frame where
  /-- What it is so far. -/
  kind : Kind
  /-- Where it was read from. -/
  span : Option Span
  /-- Its finished children, last one first. -/
  children : List Node := []
  /-- Children of the paragraph that gathers the inline content of a list item, last one first,
  while that paragraph is open. -/
  gathered : Option (List Node) := none
  /-- Whether the stream opened a paragraph directly in it. -/
  holdsParagraph : Bool := false

/-- Adds a node after others, which are given last one first. A text joins a text before it. -/
def addMerged (node : Node) : List Node → List Node
  | [] => [node]
  | last :: before =>
    match node.textValue?, last.textValue? with
    | some value, some front =>
      let span := match last.span, node.span with
        | some a, some b => some { a with stop := b.stop }
        | span, _ => span
      { last with kind := .text (front ++ value), span } :: before
    | _, _ => node :: last :: before

namespace Frame

/-- Whether the frame is a list item. -/
def isItem (frame : Frame) : Bool :=
  match frame.kind with
  | .listItem _ => true
  | _ => false

/-- Closes the paragraph that gathers inline content. -/
def closeGathered (frame : Frame) : Frame :=
  match frame.gathered with
  | none => frame
  | some inlines =>
    { frame with
      children := Node.paragraph inlines.reverse :: frame.children
      gathered := none }

/-- Makes room for inline content: in a list item it needs a paragraph. -/
def openGathered (frame : Frame) : Frame :=
  if frame.isItem && frame.gathered.isNone then { frame with gathered := some [] } else frame

/-- Adds a finished node. -/
def add (node : Node) (frame : Frame) : Frame :=
  match frame.gathered with
  | some inlines => { frame with gathered := some (addMerged node inlines) }
  | none => { frame with children := addMerged node frame.children }

/-- Adds literal content to a frame that collects it. -/
def addLiteral? (value : Text) (frame : Frame) : Option Frame :=
  match frame.kind with
  | .code language fence front => some { frame with kind := .code language fence (front ++ value) }
  | .html front => some { frame with kind := .html (front ++ value) }
  | _ => none

/-- Readies a frame for a child: inline content may need a paragraph, and a block ends the one that
is open. -/
def readyFor (construct : Construct) (frame : Frame) : Frame :=
  let frame := if construct = .paragraph ∧ frame.isItem then
    { frame with holdsParagraph := true } else frame
  if construct.isInline then frame.openGathered else frame.closeGathered

/-- The node that a frame becomes. The last line end of code is not part of it, and an image keeps
only the text of its description. -/
def close (frame : Frame) : Node :=
  let children := frame.closeGathered.children.reverse
  match frame.kind with
  | .code language fence value =>
    { kind := .code language fence ((Text.dropBack? ['\n'] value).getD value)
      children, span := frame.span }
  | .image url _ title =>
    { kind := .image url (Node.plainTextList children) title, span := frame.span }
  | kind => { kind, children, span := frame.span }

/-- Notes on a list that one of its items holds a paragraph. -/
def noteSpread (spread : Bool) (frame : Frame) : Frame :=
  match frame.kind with
  | .list ordered start before => { frame with kind := .list ordered start (before || spread) }
  | _ => frame

/-- A list item with the state of its box. -/
def check (checked : Bool) (frame : Frame) : Frame :=
  { frame with kind := .listItem (some checked) }

end Frame

/-- The nodes that are open, innermost first, inside a root that never closes. -/
structure Builder where
  /-- Open nodes, innermost first. -/
  frames : List Frame := []
  /-- The root. -/
  root : Frame

namespace Builder

/-- Changes the innermost open node. -/
def modifyTop (change : Frame → Frame) (builder : Builder) : Builder :=
  match builder.frames with
  | [] => { builder with root := change builder.root }
  | top :: below => { builder with frames := change top :: below }

/-- The innermost open node. -/
def top (builder : Builder) : Frame :=
  builder.frames.headD builder.root

/-- Changes the innermost open list item, if there is one. -/
def checkItem (checked : Bool) : List Frame → List Frame
  | [] => []
  | frame :: below =>
    if frame.isItem then frame.check checked :: below else frame :: checkItem checked below

/-- Adds a finished inline node. -/
def addInline (node : Node) (builder : Builder) : Builder :=
  builder.modifyTop fun frame => frame.openGathered.add node

/-- Adds a finished block. -/
def addBlock (node : Node) (builder : Builder) : Builder :=
  builder.modifyTop fun frame => frame.closeGathered.add node

/-- Adds literal content to the innermost node, or a node that holds it. -/
def addLiteral (value : Text) (otherwise : Builder → Builder) (builder : Builder) : Builder :=
  match builder.top.addLiteral? value with
  | some frame => builder.modifyTop fun _ => frame
  | none => otherwise builder

/-- Adds text. -/
def addText (value : Text) (span : Option Span) (builder : Builder) : Builder :=
  builder.addLiteral value (addInline { kind := .text value, span })

/-- Adds HTML. Only HTML collects HTML. -/
def addHtml (value : Text) (span : Option Span) (builder : Builder) : Builder :=
  match builder.top.kind with
  | .html front => builder.modifyTop fun frame => { frame with kind := .html (front ++ value) }
  | _ => builder.addBlock { kind := .html value, span }

/-- Closes the innermost open node. -/
def leave (builder : Builder) : Builder :=
  match builder.frames with
  | [] => builder
  | frame :: below =>
    let rest := { builder with frames := below }
    let rest :=
      if frame.isItem then rest.modifyTop (Frame.noteSpread frame.holdsParagraph) else rest
    rest.modifyTop (Frame.add frame.close)

/-- Takes one event. -/
def step (builder : Builder) (located : LocatedEvent) : Builder :=
  let span := some located.span
  match located.event with
  | .enter construct =>
    let ready := builder.modifyTop (Frame.readyFor construct)
    { ready with frames := { kind := construct.kind, span } :: ready.frames }
  | .leave => builder.leave
  | .text value => builder.addText value span
  | .code value => builder.addInline { kind := .inlineCode value, span }
  | .html value => builder.addHtml value span
  | .inlineHtml value => builder.addInline { kind := .html value, span }
  | .footnoteReference label => builder.addInline { kind := .footnoteReference label, span }
  | .softBreak => builder.addText ['\n'] span
  | .hardBreak => builder.addInline { kind := .lineBreak, span }
  | .rule => builder.addBlock { kind := .thematicBreak, span }
  | .taskMark checked => { builder with frames := checkItem checked builder.frames }

/-- Closes all open nodes and the root. -/
def finish (builder : Builder) : Node :=
  (builder.frames.foldl (fun rest _ => rest.leave) builder).root.close

end Builder

/-- The document that a stream of events describes, of a source with a given number of bytes. -/
def build (length : Nat) (events : List LocatedEvent) : Node :=
  (events.foldl Builder.step { root := { kind := .root, span := some ⟨0, length⟩ } }).finish

end Manuscript.Markdown
