import Manuscript.Markdown.Event
import Manuscript.Proofs.Document.Induction

/-!
# Open nodes

What an open node does with one event: it collects content literally, or makes room for a node and
adds it. Everything but the mark of a task keeps what kind of node it is (`Kind.bare`) and where it
was read from, and can be done before or after such a mark (`Frame.IsSteady`).
-/

namespace Manuscript

namespace Kind

/-- A kind of node, without what is only known when the node is closed. -/
def bare : Kind → Kind
  | list ordered start _ => list ordered start false
  | listItem _ => listItem none
  | code language fence _ => code language fence []
  | html _ => html []
  | image url _ title => image url [] title
  | kind => kind

/-- Whether a node is a text. -/
def isText : Kind → Bool
  | text _ => true
  | _ => false

/-- Whether a node is closed without the nodes inside it. -/
def dropsContent : Kind → Bool
  | image _ _ _ => true
  | _ => false

/-- Whether a node is a text when it is closed is known when it is opened. -/
@[simp] theorem isText_bare (kind : Kind) : kind.bare.isText = kind.isText := by
  cases kind <;> rfl

/-- Whether a node is closed without the nodes inside it is known when it is opened. -/
@[simp] theorem dropsContent_bare (kind : Kind) : kind.bare.dropsContent = kind.dropsContent := by
  cases kind <;> rfl

/-- A root has nothing that is only known when it is closed. -/
theorem eq_root_of_bare {kind : Kind} (root : kind.bare = .root) : kind = .root := by
  cases kind <;> first | rfl | cases root

end Kind

/-- The kind of a node says whether it is a text. -/
theorem Node.isText_eq (node : Node) : node.isText = node.kind.isText := by
  obtain ⟨kind, children, data, span⟩ := node
  cases kind <;> rfl

namespace Markdown

/-- Nothing of what a construct becomes is known before it is closed. -/
@[simp] theorem Construct.bare_kind (construct : Construct) :
    construct.kind.bare = construct.kind := by
  cases construct <;> rfl

/-- No construct becomes a text. -/
@[simp] theorem Construct.isText_kind (construct : Construct) :
    construct.kind.isText = false := by
  cases construct <;> rfl

/-- A node that is added stays a node of its own, unless it and the one before it are texts. -/
theorem addMerged_cases (node : Node) (nodes : List Node) :
    (addMerged node nodes = node :: nodes ∧
      ∀ last ∈ nodes.head?, ¬ (node.kind.isText = true ∧ last.kind.isText = true)) ∨
    ∃ last before front value span, nodes = last :: before ∧ last.kind = .text front ∧
      node.kind = .text value ∧
      addMerged node nodes = { last with kind := .text (front ++ value), span } :: before := by
  cases nodes with
  | nil => exact .inl ⟨rfl, nofun⟩
  | cons last before =>
    rw [addMerged]
    split
    · rename_i value front own ownLast
      exact .inr ⟨last, before, front, value, _, rfl, Node.kind_of_textValue? ownLast,
        Node.kind_of_textValue? own, rfl⟩
    · rename_i apart
      refine .inl ⟨rfl, ?_⟩
      rintro _ ⟨⟩ ⟨isText, isTextLast⟩
      obtain ⟨kind, children, data, span⟩ := node
      obtain ⟨kindLast, childrenLast, dataLast, spanLast⟩ := last
      cases kind <;> cases isText
      cases kindLast <;> cases isTextLast
      exact apart _ _ rfl rfl

namespace Event

/-- The kind of the node that content becomes, and whether that belongs to running text. -/
def leaf? : Event → Option (Kind × Bool)
  | text value => some (.text value, true)
  | softBreak => some (.text ['\n'], true)
  | code value => some (.inlineCode value, true)
  | html value => some (.html value, false)
  | inlineHtml value => some (.html value, true)
  | footnoteReference label => some (.footnoteReference label, true)
  | hardBreak => some (.lineBreak, true)
  | rule => some (.thematicBreak, false)
  | _ => none

/-- A frame that collects content literally, when it has collected it. -/
def collected? (frame : Frame) : Event → Option Frame
  | text value => frame.addLiteral? value
  | softBreak => frame.addLiteral? ['\n']
  | html value =>
    match frame.kind with
    | .html front => some { frame with kind := .html (front ++ value) }
    | _ => none
  | _ => none

/-- The state that content gives to the box of a list item. -/
def mark? : Event → Option Bool
  | taskMark checked => some checked
  | _ => none

end Event

namespace Frame

/-- Makes room for inline content, or for a block. -/
def room (isInline : Bool) (frame : Frame) : Frame :=
  if isInline then frame.openGathered else frame.closeGathered

/-- Takes content. -/
def absorb (located : LocatedEvent) (frame : Frame) : Frame :=
  match located.event.collected? frame with
  | some collected => collected
  | none =>
    match located.event.leaf? with
    | some (kind, isInline) => (frame.room isInline).add { kind, span := some located.span }
    | none => frame

/-- Notes that a construct is opened directly in a frame. -/
def noteOpened (construct : Construct) (frame : Frame) : Frame :=
  if construct = .paragraph ∧ frame.isItem then { frame with holdsParagraph := true } else frame

/-- Takes a frame that is closed. -/
def attach (child frame : Frame) : Frame :=
  (if child.isItem then frame.noteSpread child.holdsParagraph else frame).add child.close

/-- Sets the state of the box of a list item. -/
def mark (checked? : Option Bool) (frame : Frame) : Frame :=
  match checked? with
  | some checked => if frame.isItem then frame.check checked else frame
  | none => frame

/-- A frame that has just been opened. -/
def opened (construct : Construct) (span : Span) : Frame :=
  { kind := construct.kind, span := some span }

/-- Only code and HTML collect content literally, and nothing else of them changes. -/
theorem collected?_cases {event : Event} {frame collected : Frame}
    (collects : event.collected? frame = some collected) :
    (∃ language fence front value, frame.kind = .code language fence front ∧
      collected = { frame with kind := .code language fence value }) ∨
    ∃ front value, frame.kind = .html front ∧ collected = { frame with kind := .html value } := by
  obtain ⟨kind, span, children, gathered, holds⟩ := frame
  cases event <;> cases kind <;> cases collects <;>
    first
    | exact .inl ⟨_, _, _, _, rfl, rfl⟩
    | exact .inr ⟨_, _, rfl, rfl⟩

/-- A list item collects nothing literally. -/
theorem collected?_of_isItem {frame : Frame} (item : frame.isItem = true) (event : Event) :
    event.collected? frame = none := by
  obtain ⟨kind, span, children, gathered, holds⟩ := frame
  cases kind with
  | listItem _ => cases event <;> rfl
  | _ => cases item

/-- What is in a frame so far, in order. -/
def content (frame : Frame) : List Node :=
  frame.closeGathered.children.reverse

/-- What is in a frame is its finished children and what is gathered. -/
theorem content_congr {first second : Frame} (children : first.children = second.children)
    (gathered : first.gathered = second.gathered) : first.content = second.content := by
  rw [content, content, closeGathered, closeGathered, gathered]
  split
  · rw [children]
  · simp only [children]

/-- Closing a frame changes nothing of what is known before. -/
theorem bare_close (frame : Frame) : frame.close.kind.bare = frame.kind.bare := by
  obtain ⟨kind, span, children, gathered, holds⟩ := frame
  cases kind <;> rfl

/-- A closed node was read from the same place. -/
theorem span_close (frame : Frame) : frame.close.span = frame.span := by
  obtain ⟨kind, span, children, gathered, holds⟩ := frame
  cases kind <;> rfl

/-- A closed node has the content of the frame, unless that is dropped. -/
theorem children_close (frame : Frame) :
    frame.close.children = if frame.kind.dropsContent then [] else frame.content := by
  obtain ⟨kind, span, children, gathered, holds⟩ := frame
  cases kind <;> rfl

/-- A frame is readied for a construct by a note and by making room. -/
theorem readyFor_eq (construct : Construct) (frame : Frame) :
    frame.readyFor construct = (frame.noteOpened construct).room construct.isInline :=
  rfl

/-- Whether a frame is a list item cannot change while it is open. -/
theorem isItem_eq (frame : Frame) : frame.isItem = decide (frame.kind.bare = .listItem none) := by
  obtain ⟨kind, span, children, gathered, holds⟩ := frame
  cases kind <;> rfl

/-- Whether a construct becomes a list item shows as soon as it is opened. -/
theorem isItem_opened (construct : Construct) (span : Span) :
    (opened construct span).isItem = decide (construct = .item) := by
  cases construct <;> rfl

section Fields

variable (frame : Frame)

/-- Opening a paragraph for inline content keeps the kind of the node around it. -/
@[simp] theorem kind_openGathered : frame.openGathered.kind = frame.kind := by
  rw [openGathered]
  split <;> rfl

/-- Opening a paragraph for inline content keeps where the node was read from. -/
@[simp] theorem span_openGathered : frame.openGathered.span = frame.span := by
  rw [openGathered]
  split <;> rfl

/-- A paragraph opened for inline content is not one of the source. -/
@[simp] theorem holdsParagraph_openGathered :
    frame.openGathered.holdsParagraph = frame.holdsParagraph := by
  rw [openGathered]
  split <;> rfl

/-- Closing the gathered paragraph keeps the kind of the node around it. -/
@[simp] theorem kind_closeGathered : frame.closeGathered.kind = frame.kind := by
  rw [closeGathered]
  split <;> rfl

/-- Closing the gathered paragraph keeps where the node was read from. -/
@[simp] theorem span_closeGathered : frame.closeGathered.span = frame.span := by
  rw [closeGathered]
  split <;> rfl

/-- The gathered paragraph is not one of the source when it closes either. -/
@[simp] theorem holdsParagraph_closeGathered :
    frame.closeGathered.holdsParagraph = frame.holdsParagraph := by
  rw [closeGathered]
  split <;> rfl

/-- Making room keeps the kind of a node. -/
@[simp] theorem kind_room (isInline : Bool) : (frame.room isInline).kind = frame.kind := by
  cases isInline <;> simp [room]

/-- Making room adds no paragraph of the source. -/
@[simp] theorem holdsParagraph_room (isInline : Bool) :
    (frame.room isInline).holdsParagraph = frame.holdsParagraph := by
  cases isInline <;> simp [room]

/-- Adding a finished node keeps the kind of the open one. -/
@[simp] theorem kind_add (node : Node) : (frame.add node).kind = frame.kind := by
  rw [add]
  split <;> rfl

/-- Adding a finished node keeps where the open one was read from. -/
@[simp] theorem span_add (node : Node) : (frame.add node).span = frame.span := by
  rw [add]
  split <;> rfl

/-- A finished node was noted when it was opened, not when it is added. -/
@[simp] theorem holdsParagraph_add (node : Node) :
    (frame.add node).holdsParagraph = frame.holdsParagraph := by
  rw [add]
  split <;> rfl

/-- Noting a construct keeps the kind of the node that it is in. -/
@[simp] theorem kind_noteOpened (construct : Construct) :
    (frame.noteOpened construct).kind = frame.kind := by
  rw [noteOpened]
  split <;> rfl

/-- Noting a construct keeps where the node that it is in was read from. -/
@[simp] theorem span_noteOpened (construct : Construct) :
    (frame.noteOpened construct).span = frame.span := by
  rw [noteOpened]
  split <;> rfl

/-- A list item holds a paragraph once one is opened directly in it. -/
@[simp] theorem holdsParagraph_noteOpened (construct : Construct) :
    (frame.noteOpened construct).holdsParagraph =
      (frame.holdsParagraph || (decide (construct = .paragraph) && frame.isItem)) := by
  rw [noteOpened]
  split
  · simp [*]
  · simp_all

/-- Noting a construct adds no child yet. -/
@[simp] theorem children_noteOpened (construct : Construct) :
    (frame.noteOpened construct).children = frame.children := by
  rw [noteOpened]
  split <;> rfl

/-- Noting a construct keeps what is gathered. -/
@[simp] theorem gathered_noteOpened (construct : Construct) :
    (frame.noteOpened construct).gathered = frame.gathered := by
  rw [noteOpened]
  split <;> rfl

/-- Noting that a list is spread keeps its items. -/
@[simp] theorem children_noteSpread (spread : Bool) :
    (frame.noteSpread spread).children = frame.children := by
  rw [noteSpread]
  split <;> rfl

/-- Noting that a list is spread keeps what is gathered. -/
@[simp] theorem gathered_noteSpread (spread : Bool) :
    (frame.noteSpread spread).gathered = frame.gathered := by
  rw [noteSpread]
  split <;> rfl

/-- Whether a list is spread is not part of its bare kind. -/
@[simp] theorem bare_noteSpread (spread : Bool) :
    (frame.noteSpread spread).kind.bare = frame.kind.bare := by
  obtain ⟨kind, span, children, gathered, holds⟩ := frame
  cases kind <;> rfl

/-- Noting that a list is spread keeps where it was read from. -/
@[simp] theorem span_noteSpread (spread : Bool) :
    (frame.noteSpread spread).span = frame.span := by
  rw [noteSpread]
  split <;> rfl

/-- Noting that a list is spread opens no paragraph. -/
@[simp] theorem holdsParagraph_noteSpread (spread : Bool) :
    (frame.noteSpread spread).holdsParagraph = frame.holdsParagraph := by
  rw [noteSpread]
  split <;> rfl

/-- The state of its box is not part of the bare kind of an item. -/
@[simp] theorem bare_mark (checked? : Option Bool) :
    (frame.mark checked?).kind.bare = frame.kind.bare := by
  obtain ⟨kind, span, children, gathered, holds⟩ := frame
  cases checked? with
  | none => rfl
  | some checked => cases kind <;> rfl

/-- Marking an item keeps where it was read from. -/
@[simp] theorem span_mark (checked? : Option Bool) : (frame.mark checked?).span = frame.span := by
  obtain _ | checked := checked?
  · rfl
  · rw [mark]
    split <;> rfl

/-- Marking an item keeps its children. -/
@[simp] theorem children_mark (checked? : Option Bool) :
    (frame.mark checked?).children = frame.children := by
  obtain _ | checked := checked?
  · rfl
  · rw [mark]
    split <;> rfl

/-- Marking an item keeps what is gathered in it. -/
@[simp] theorem gathered_mark (checked? : Option Bool) :
    (frame.mark checked?).gathered = frame.gathered := by
  obtain _ | checked := checked?
  · rfl
  · rw [mark]
    split <;> rfl

/-- Marking an item opens no paragraph in it. -/
@[simp] theorem holdsParagraph_mark (checked? : Option Bool) :
    (frame.mark checked?).holdsParagraph = frame.holdsParagraph := by
  obtain _ | checked := checked?
  · rfl
  · rw [mark]
    split <;> rfl

/-- Marking an item keeps its content. -/
@[simp] theorem content_mark (checked? : Option Bool) :
    (frame.mark checked?).content = frame.content :=
  content_congr (children_mark frame checked?) (gathered_mark frame checked?)

end Fields

/-- What changes a frame in this way leaves it the node that it is, and does not read the state of
the box of a list item. -/
structure IsSteady (change : Frame → Frame) : Prop where
  /-- It stays the same kind of node. -/
  kind : ∀ frame, (change frame).kind.bare = frame.kind.bare
  /-- It was read from the same place. -/
  span : ∀ frame, (change frame).span = frame.span
  /-- The box can be marked before or after. -/
  check : ∀ frame checked, frame.isItem = true →
    change (frame.check checked) = (change frame).check checked

namespace IsSteady

/-- Only a list item stays a list item. -/
theorem isItem {change : Frame → Frame} (steady : IsSteady change) (frame : Frame) :
    (change frame).isItem = frame.isItem := by
  rw [isItem_eq, isItem_eq, steady.kind]

/-- Steady changes can be made one after the other. -/
theorem comp {first second : Frame → Frame} (later : IsSteady second) (before : IsSteady first) :
    IsSteady fun frame => second (first frame) where
  kind frame := by rw [later.kind, before.kind]
  span frame := by rw [later.span, before.span]
  check frame checked item := by
    rw [before.check frame checked item, later.check _ checked (by rwa [before.isItem])]

/-- Nothing is changed. -/
theorem id : IsSteady fun frame => frame where
  kind _ := rfl
  span _ := rfl
  check _ _ _ := rfl

/-- A paragraph for inline content is opened whatever the state of the box is. -/
theorem openGathered : IsSteady Frame.openGathered where
  kind frame := by rw [kind_openGathered]
  span := span_openGathered
  check frame checked item := by
    have still : (frame.check checked).isItem = true := rfl
    have same : (frame.check checked).gathered = frame.gathered := rfl
    rw [Frame.openGathered, Frame.openGathered, still, same, item]
    split <;> rfl

/-- A paragraph is closed whatever the state of the box is. -/
theorem closeGathered : IsSteady Frame.closeGathered where
  kind frame := by rw [kind_closeGathered]
  span := span_closeGathered
  check frame checked _ := by
    obtain ⟨kind, span, children, gathered, holds⟩ := frame
    cases gathered <;> rfl

/-- Room is made whatever the state of the box is. -/
theorem room (isInline : Bool) : IsSteady (Frame.room isInline) := by
  cases isInline
  · exact closeGathered
  · exact openGathered

/-- A node is added whatever the state of the box is. -/
theorem add (node : Node) : IsSteady (Frame.add node) where
  kind frame := by rw [kind_add]
  span frame := span_add frame node
  check frame checked _ := by
    obtain ⟨kind, span, children, gathered, holds⟩ := frame
    cases gathered <;> rfl

/-- A paragraph is noted whatever the state of the box is. -/
theorem noteOpened (construct : Construct) : IsSteady (Frame.noteOpened construct) where
  kind frame := by rw [kind_noteOpened]
  span frame := span_noteOpened frame construct
  check frame checked item := by
    have still : (frame.check checked).isItem = true := rfl
    rw [Frame.noteOpened, Frame.noteOpened, still, item]
    split <;> rfl

/-- A list item is no list. -/
theorem noteSpread (spread : Bool) : IsSteady (Frame.noteSpread spread) where
  kind frame := bare_noteSpread frame spread
  span frame := span_noteSpread frame spread
  check frame checked item := by
    obtain ⟨kind, span, children, gathered, holds⟩ := frame
    cases kind with
    | listItem _ => rfl
    | _ => cases item

/-- A construct is readied for whatever the state of the box is. -/
theorem readyFor (construct : Construct) : IsSteady (Frame.readyFor construct) :=
  (room construct.isInline).comp (noteOpened construct)

/-- A closed frame is taken whatever the state of the box is. -/
theorem attach (child : Frame) : IsSteady child.attach := by
  by_cases item : child.isItem = true
  · have same : child.attach = fun frame =>
        (frame.noteSpread child.holdsParagraph).add child.close := by
      funext frame
      rw [Frame.attach, if_pos item]
    rw [same]
    exact (add child.close).comp (noteSpread child.holdsParagraph)
  · have same : child.attach = Frame.add child.close := by
      funext frame
      rw [Frame.attach, if_neg item]
    rw [same]
    exact add child.close

/-- Content is taken whatever the state of the box is: a list item collects none literally. -/
theorem absorb (located : LocatedEvent) : IsSteady (Frame.absorb located) where
  kind frame := by
    rw [Frame.absorb]
    cases collects : located.event.collected? frame with
    | some collected =>
      rcases collected?_cases collects with ⟨_, _, _, _, isCode, rfl⟩ | ⟨_, _, isHtml, rfl⟩
      · rw [isCode]
        rfl
      · rw [isHtml]
        rfl
    | none =>
      cases located.event.leaf? with
      | none => rfl
      | some leaf => exact ((add _).comp (room leaf.2)).kind frame
  span frame := by
    rw [Frame.absorb]
    cases collects : located.event.collected? frame with
    | some collected =>
      rcases collected?_cases collects with ⟨_, _, _, _, _, rfl⟩ | ⟨_, _, _, rfl⟩ <;> rfl
    | none =>
      cases located.event.leaf? with
      | none => rfl
      | some leaf => exact ((add _).comp (room leaf.2)).span frame
  check frame checked item := by
    have still : (frame.check checked).isItem = true := rfl
    rw [Frame.absorb, Frame.absorb, collected?_of_isItem item, collected?_of_isItem still]
    cases located.event.leaf? with
    | none => rfl
    | some leaf => exact ((add _).comp (room leaf.2)).check frame checked item

end IsSteady

end Frame

end Markdown

end Manuscript
