import Manuscript.Proofs.Markdown.Frame
import Manuscript.Proofs.Markdown.Stream

/-!
# Building by recursion

A builder keeps a stack of open nodes and takes one event after the other. On a balanced stream it
does what a recursion over the pieces does: the innermost open node absorbs each piece, and a piece
that is a construct is first made a node of its own, out of what is inside it (`Piece.absorb`). The
only event that reaches past the innermost node is the mark of a task, which looks for a list item;
what an open node does with anything else is the same before and after such a mark
(`Frame.IsSteady`), so the marks can be set first (`foldl_step_eventsOf`).
-/

namespace Manuscript.Markdown

namespace Builder

/-- Sets the state of the box of the innermost open list item. -/
def mark (checked? : Option Bool) (builder : Builder) : Builder :=
  match checked? with
  | some checked => { builder with frames := checkItem checked builder.frames }
  | none => builder

/-- Opens a frame. -/
def push (frame : Frame) (builder : Builder) : Builder :=
  { builder with frames := frame :: builder.frames }

/-- The last of two marks of the same item counts. -/
theorem checkItem_checkItem (first second : Bool) (frames : List Frame) :
    checkItem second (checkItem first frames) = checkItem second frames := by
  induction frames with
  | nil => rfl
  | cons frame below ih =>
    rw [checkItem, checkItem]
    by_cases item : frame.isItem = true
    · rw [if_pos item, if_pos item]
      rfl
    · rw [if_neg item, if_neg item, checkItem, if_neg item, ih]

/-- The last of two marks counts. -/
theorem mark_mark (first second : Option Bool) (builder : Builder) :
    (builder.mark first).mark second = builder.mark (second.or first) := by
  cases second with
  | none => rfl
  | some second =>
    cases first with
    | none => rfl
    | some first =>
      simp only [mark, checkItem_checkItem]
      rfl

/-- A steady change can be made before or after a mark. -/
theorem mark_modifyTop {change : Frame → Frame} (steady : Frame.IsSteady change)
    (checked? : Option Bool) (builder : Builder) :
    (builder.modifyTop change).mark checked? = (builder.mark checked?).modifyTop change := by
  cases checked? with
  | none => rfl
  | some checked =>
    obtain ⟨_ | ⟨top, below⟩, root⟩ := builder
    · rfl
    · simp only [modifyTop, mark, checkItem, steady.isItem]
      by_cases item : top.isItem = true
      · simp only [if_pos item, steady.check top checked item]
      · simp only [if_neg item]

/-- A mark is for the frame that was opened last, if that is a list item. -/
theorem mark_push (checked? : Option Bool) (frame : Frame) (builder : Builder) :
    (builder.push frame).mark checked? =
      (builder.mark (if frame.isItem then none else checked?)).push (frame.mark checked?) := by
  cases checked? with
  | none => simp [mark, Frame.mark]
  | some checked =>
    by_cases item : frame.isItem = true
    · simp [mark, push, Frame.mark, checkItem, item]
    · simp [mark, push, Frame.mark, checkItem, item]

/-- Two changes of the innermost frame are one. -/
theorem modifyTop_modifyTop (first second : Frame → Frame) (builder : Builder) :
    (builder.modifyTop first).modifyTop second =
      builder.modifyTop fun frame => second (first frame) := by
  obtain ⟨_ | ⟨top, below⟩, root⟩ := builder <;> rfl

/-- The frame that was opened last is the innermost one. -/
theorem modifyTop_push (change : Frame → Frame) (frame : Frame) (builder : Builder) :
    (builder.push frame).modifyTop change = builder.push (change frame) :=
  rfl

/-- No change of the innermost frame is none. -/
theorem modifyTop_id (builder : Builder) : (builder.modifyTop fun frame => frame) = builder := by
  obtain ⟨_ | ⟨top, below⟩, root⟩ := builder <;> rfl

/-- Only what a change does to the innermost frame matters. -/
theorem modifyTop_congr {first second : Frame → Frame} {builder : Builder}
    (same : first builder.top = second builder.top) :
    builder.modifyTop first = builder.modifyTop second := by
  obtain ⟨_ | ⟨top, below⟩, root⟩ := builder
  · exact congrArg _ same
  · exact congrArg (fun top => (⟨top :: below, root⟩ : Builder)) same

/-- The innermost frame collects text, or a node for it. -/
theorem addText_eq (value : Text) (span : Option Span) (builder : Builder) :
    builder.addText value span = builder.modifyTop fun frame =>
      match frame.addLiteral? value with
      | some collected => collected
      | none => (frame.room true).add { kind := .text value, span } := by
  rw [addText, addLiteral]
  cases collects : builder.top.addLiteral? value with
  | none =>
    apply modifyTop_congr
    simp only [collects]
    rfl
  | some collected =>
    apply modifyTop_congr
    simp only [collects]

/-- The innermost frame collects HTML, or a node for it. -/
theorem addHtml_eq (value : Text) (span : Option Span) (builder : Builder) :
    builder.addHtml value span = builder.modifyTop fun frame =>
      match (Event.html value).collected? frame with
      | some collected => collected
      | none => (frame.room false).add { kind := .html value, span } := by
  rw [addHtml]
  cases kind : builder.top.kind with
  | html front =>
    apply modifyTop_congr
    simp only [Event.collected?, kind]
  | _ =>
    apply modifyTop_congr
    simp only [Event.collected?, kind]
    rfl

/-- The innermost frame takes content, and a mark goes to an item. -/
theorem step_content {located : LocatedEvent} (isContent : located.event.isContent = true)
    (builder : Builder) :
    builder.step located =
      (builder.mark located.event.mark?).modifyTop (Frame.absorb located) := by
  obtain ⟨event, span⟩ := located
  cases event with
  | enter => cases isContent
  | leave => cases isContent
  | text value => exact addText_eq value (some span) builder
  | softBreak => exact addText_eq ['\n'] (some span) builder
  | html value => exact addHtml_eq value (some span) builder
  | taskMark checked => exact (modifyTop_id _).symm
  | _ => rfl

/-- The construct that is entered is a frame of its own. -/
theorem step_enter (construct : Construct) (opened : Span) (builder : Builder) :
    builder.step ⟨.enter construct, opened⟩ =
      (builder.modifyTop (Frame.readyFor construct)).push (.opened construct opened) :=
  rfl

/-- The frame that is left is taken by the one around it. -/
theorem step_leave (closed : Span) (frame : Frame) (builder : Builder) :
    (builder.push frame).step ⟨.leave, closed⟩ = builder.modifyTop frame.attach := by
  change (builder.push frame).leave = _
  rw [leave, push]
  by_cases item : frame.isItem = true
  · simp only [if_pos item, modifyTop_modifyTop]
    exact modifyTop_congr (by rw [Frame.attach, if_pos item])
  · simp only [if_neg item]
    exact modifyTop_congr (by rw [Frame.attach, if_neg item])

end Builder

mutual

/-- The mark in a piece that is for the list item around it. -/
def Piece.mark? : Piece → Option Bool
  | .content located _ => located.event.mark?
  | .construct construct _ _ inner => if construct = .item then none else markOf? inner

/-- The last mark in a list of pieces that is for the list item around it. -/
def markOf? : List Piece → Option Bool
  | [] => none
  | piece :: rest => (markOf? rest).or piece.mark?

end

mutual

/-- What a frame becomes when it takes a piece. A construct is a frame first, which takes what is
inside it. -/
def Piece.absorb : Piece → Frame → Frame
  | .content located _, frame => frame.absorb located
  | .construct construct opened _ inner, frame =>
    let child := absorbAll inner ((Frame.opened construct opened).mark (markOf? inner))
    child.attach (frame.readyFor construct)

/-- What a frame becomes when it takes one piece after the other. -/
def absorbAll : List Piece → Frame → Frame
  | [], frame => frame
  | piece :: rest, frame => absorbAll rest (piece.absorb frame)

end

/-- The frame that a construct becomes, with what is inside it. -/
def Piece.child (construct : Construct) (opened : Span) (inner : List Piece) : Frame :=
  absorbAll inner ((Frame.opened construct opened).mark (markOf? inner))

/-- Content is taken as it is. -/
theorem Piece.absorb_content (located : LocatedEvent)
    (isContent : located.event.isContent = true) :
    (Piece.content located isContent).absorb = Frame.absorb located := by
  funext frame
  rw [Piece.absorb]

/-- A construct is readied for, and then its frame is taken. -/
theorem Piece.absorb_construct (construct : Construct) (opened closed : Span)
    (inner : List Piece) :
    (Piece.construct construct opened closed inner).absorb = fun frame =>
      (Piece.child construct opened inner).attach (frame.readyFor construct) := by
  funext frame
  rw [Piece.absorb, Piece.child]

/-- No pieces change nothing. -/
theorem absorbAll_nil : absorbAll [] = fun frame => frame := by
  funext frame
  rw [absorbAll]

/-- Pieces are taken from the first on. -/
theorem absorbAll_cons (piece : Piece) (rest : List Piece) :
    absorbAll (piece :: rest) = fun frame => absorbAll rest (piece.absorb frame) := by
  funext frame
  rw [absorbAll]

/-- A piece is taken whatever the state of the box is. -/
theorem Piece.isSteady_absorb (piece : Piece) : Frame.IsSteady piece.absorb := by
  cases piece with
  | content located isContent =>
    rw [absorb_content]
    exact .absorb located
  | construct construct opened closed inner =>
    rw [absorb_construct]
    exact (Frame.IsSteady.attach _).comp (.readyFor construct)

/-- Pieces are taken whatever the state of the box is. -/
theorem isSteady_absorbAll (pieces : List Piece) : Frame.IsSteady (absorbAll pieces) := by
  induction pieces with
  | nil =>
    rw [absorbAll_nil]
    exact .id
  | cons piece rest ih =>
    rw [absorbAll_cons]
    exact ih.comp piece.isSteady_absorb

/-- The frame of a construct becomes the node that it was opened as. -/
theorem Piece.bare_child (construct : Construct) (opened : Span) (inner : List Piece) :
    (child construct opened inner).kind.bare = construct.kind := by
  rw [child, (isSteady_absorbAll inner).kind, Frame.bare_mark]
  exact construct.bare_kind

/-- So it is when the frame is closed. -/
theorem Piece.bare_close_child (construct : Construct) (opened : Span) (inner : List Piece) :
    (child construct opened inner).close.kind.bare = construct.kind := by
  rw [Frame.bare_close, bare_child]

/-- No construct becomes a text. -/
theorem Piece.isText_close_child (construct : Construct) (opened : Span) (inner : List Piece) :
    (child construct opened inner).close.kind.isText = false := by
  rw [← Kind.isText_bare, bare_close_child, Construct.isText_kind]

/-- The frame of a construct was read from where it is. -/
theorem Piece.span_child (construct : Construct) (opened : Span) (inner : List Piece) :
    (child construct opened inner).span = some opened := by
  rw [child, (isSteady_absorbAll inner).span, Frame.span_mark]
  rfl

/-- The frame of a construct is a list item if the construct is one. -/
theorem Piece.isItem_child (construct : Construct) (opened : Span) (inner : List Piece) :
    (child construct opened inner).isItem = decide (construct = .item) := by
  rw [Frame.isItem_eq, bare_child]
  cases construct <;> rfl

/-- On the events of pieces, a builder sets the last mark and lets the innermost frame take the
pieces. -/
theorem foldl_step_eventsOf : (∀ piece (builder : Builder),
      (Piece.events piece).foldl Builder.step builder =
        (builder.mark piece.mark?).modifyTop piece.absorb) ∧
    ∀ pieces (builder : Builder), (eventsOf pieces).foldl Builder.step builder =
      (builder.mark (markOf? pieces)).modifyTop (absorbAll pieces) := by
  refine Piece.induction ?_ ?_ ?_ ?_
  · intro located isContent builder
    rw [Piece.events, List.foldl_cons, List.foldl_nil, Builder.step_content isContent,
      Piece.absorb_content, Piece.mark?]
  · intro construct opened closed inner below builder
    -- The frame that is entered is the innermost one until it is left.
    rw [Piece.events, List.foldl_cons, List.foldl_append, below, Builder.step_enter,
      Builder.mark_push, Builder.modifyTop_push, List.foldl_cons, List.foldl_nil,
      Builder.step_leave, Builder.mark_modifyTop (.readyFor construct),
      Builder.modifyTop_modifyTop, Piece.absorb_construct, Piece.mark?, Frame.isItem_opened]
    simp only [decide_eq_true_eq]
    rfl
  · intro builder
    rw [absorbAll_nil, Builder.modifyTop_id]
    rfl
  · intro piece pieces first others builder
    rw [eventsOf, List.foldl_append, first, others,
      Builder.mark_modifyTop piece.isSteady_absorb, Builder.mark_mark,
      Builder.modifyTop_modifyTop, absorbAll_cons, markOf?]

/-- The document of a balanced stream is what the root becomes when it takes the pieces. -/
theorem build_eventsOf (length : Nat) (pieces : List Piece) :
    build length (eventsOf pieces) =
      (absorbAll pieces { kind := .root, span := some ⟨0, length⟩ }).close := by
  rw [build, foldl_step_eventsOf.2]
  cases markOf? pieces <;> rfl

end Manuscript.Markdown
