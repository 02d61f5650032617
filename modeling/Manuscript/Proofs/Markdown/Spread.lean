import Manuscript.Proofs.Markdown.Reading

/-!
# Spread lists

A list is spread exactly when one of its items has a paragraph directly inside it that the stream
itself opened; the paragraphs that gather the content of a tight item do not count. An item notes
such a paragraph when it is opened (`holdsParagraph_absorb`) and hands the note on to its list when
it is closed (`kind_absorb_of_list`).
-/

namespace Manuscript

/-- Whether a node is a list. -/
def Kind.isList : Kind → Bool
  | list _ _ _ => true
  | _ => false

/-- Whether a node is a list when it is closed is known when it is opened. -/
@[simp] theorem Kind.isList_bare (kind : Kind) : kind.bare.isList = kind.isList := by
  cases kind <;> rfl

namespace Markdown

/-- The lists of a tree in document order, each with its kind and its place. -/
def lists : TreeReading (Kind × Option Span) where
  own kind span := if kind.isList then [(kind, span)] else []
  hides := Kind.isText
  own_paragraph := rfl
  hides_paragraph := rfl
  own_text _ _ _ _ _ := rfl
  hides_text _ := rfl

/-- Whether a piece is a paragraph. -/
def Piece.isParagraph : Piece → Bool
  | .construct .paragraph _ _ _ => true
  | _ => false

/-- Whether a piece is a list item with a paragraph directly inside it. -/
def Piece.isLoose : Piece → Bool
  | .construct .item _ _ inner => inner.any isParagraph
  | _ => false

mutual

/-- The lists of a piece in order, each as it has to become. An image has no lists in it. -/
def Piece.lists : Piece → List (Kind × Option Span)
  | .content _ _ => []
  | .construct (.list start) opened _ inner =>
    (.list start.isSome start (inner.any Piece.isLoose), some opened) :: listsOf inner
  | .construct (.image _ _) _ _ _ => []
  | .construct _ _ _ inner => listsOf inner

/-- The lists of a list of pieces in order. -/
def listsOf : List Piece → List (Kind × Option Span)
  | [] => []
  | piece :: rest => piece.lists ++ listsOf rest

end

/-- Content is no paragraph. -/
theorem holdsParagraph_content (located : LocatedEvent) (frame : Frame) :
    (frame.absorb located).holdsParagraph = frame.holdsParagraph := by
  rw [Frame.absorb]
  cases collects : located.event.collected? frame with
  | some collected =>
    rcases Frame.collected?_cases collects with ⟨_, _, _, _, _, rfl⟩ | ⟨_, _, _, rfl⟩ <;> rfl
  | none =>
    cases located.event.leaf? with
    | none => rfl
    | some leaf => simp

/-- A frame holds a paragraph if it is a list item and takes one. -/
theorem holdsParagraph_absorb (piece : Piece) (frame : Frame) :
    (piece.absorb frame).holdsParagraph =
      (frame.holdsParagraph || (piece.isParagraph && frame.isItem)) := by
  cases piece with
  | content located isContent =>
    rw [Piece.absorb_content, holdsParagraph_content]
    simp [Piece.isParagraph]
  | construct construct opened closed inner =>
    have own : Piece.isParagraph (.construct construct opened closed inner) =
        decide (construct = .paragraph) := by
      cases construct <;> rfl
    have attached : ∀ child frame : Frame,
        (child.attach frame).holdsParagraph = frame.holdsParagraph := by
      intro child frame
      rw [Frame.attach, Frame.holdsParagraph_add]
      split
      · rw [Frame.holdsParagraph_noteSpread]
      · rfl
    rw [Piece.absorb_construct, attached, Frame.readyFor_eq, Frame.holdsParagraph_room,
      Frame.holdsParagraph_noteOpened, own]

/-- A list item holds a paragraph if one of the pieces that it takes is one. -/
theorem holdsParagraph_absorbAll {pieces : List Piece} {frame : Frame}
    (item : frame.isItem = true) :
    (absorbAll pieces frame).holdsParagraph =
      (frame.holdsParagraph || pieces.any Piece.isParagraph) := by
  induction pieces generalizing frame with
  | nil => simp [absorbAll_nil]
  | cons piece rest ih =>
    rw [absorbAll_cons, ih (by rwa [piece.isSteady_absorb.isItem]), holdsParagraph_absorb, item,
      Bool.and_true, List.any_cons, Bool.or_assoc]

/-- The frame of a list item notes the paragraphs directly inside it. -/
theorem holdsParagraph_child (opened : Span) (inner : List Piece) :
    (Piece.child .item opened inner).holdsParagraph = inner.any Piece.isParagraph := by
  have item : ((Frame.opened .item opened).mark (markOf? inner)).isItem = true := by
    rw [Frame.isItem_eq, Frame.bare_mark]
    rfl
  rw [Piece.child, holdsParagraph_absorbAll item, Frame.holdsParagraph_mark]
  exact Bool.false_or _

/-- A list notes the items that have noted a paragraph. -/
theorem kind_absorb_of_list {frame : Frame} {ordered spread : Bool} {start : Option Nat}
    (isList : frame.kind = .list ordered start spread) (piece : Piece) :
    (piece.absorb frame).kind = .list ordered start (spread || piece.isLoose) := by
  cases piece with
  | content located isContent =>
    rw [Piece.absorb_content, Frame.absorb]
    cases collects : located.event.collected? frame with
    | some collected =>
      rcases Frame.collected?_cases collects with ⟨_, _, _, _, isCode, _⟩ | ⟨_, _, isHtml, _⟩
      · rw [isList] at isCode
        cases isCode
      · rw [isList] at isHtml
        cases isHtml
    | none =>
      cases located.event.leaf? with
      | none => simp [isList, Piece.isLoose]
      | some leaf => simp [isList, Piece.isLoose]
  | construct construct opened closed inner =>
    have ready : (frame.readyFor construct).kind = .list ordered start spread := by
      rw [Frame.readyFor_eq, Frame.kind_room, Frame.kind_noteOpened, isList]
    simp only [Piece.absorb_construct, Frame.attach, Frame.kind_add, Piece.isItem_child,
      decide_eq_true_eq]
    by_cases item : construct = .item
    · subst item
      rw [if_pos rfl, Frame.noteSpread, ready, holdsParagraph_child]
      rfl
    · have tight : Piece.isLoose (.construct construct opened closed inner) = false := by
        cases construct <;> first | rfl | exact absurd rfl item
      rw [if_neg item, ready, tight, Bool.or_false]

/-- A list is spread if one of the pieces that it takes is a loose item. -/
theorem kind_absorbAll_of_list {pieces : List Piece} {frame : Frame} {ordered spread : Bool}
    {start : Option Nat} (isList : frame.kind = .list ordered start spread) :
    (absorbAll pieces frame).kind =
      .list ordered start (spread || pieces.any Piece.isLoose) := by
  induction pieces generalizing frame spread with
  | nil => simp [absorbAll_nil, isList]
  | cons piece rest ih =>
    rw [absorbAll_cons, ih (kind_absorb_of_list isList piece), List.any_cons, Bool.or_assoc]

/-- The frame of a list ends as the kind that the list has to become. -/
theorem kind_child_list (start : Option Nat) (opened : Span) (inner : List Piece) :
    (Piece.child (.list start) opened inner).close.kind =
      .list start.isSome start (inner.any Piece.isLoose) := by
  have unmarked : ((Frame.opened (.list start) opened).mark (markOf? inner)).kind =
      .list start.isSome start false := by
    cases markOf? inner <;> rfl
  have final : (absorbAll inner ((Frame.opened (.list start) opened).mark (markOf? inner))).kind =
      .list start.isSome start (inner.any Piece.isLoose) := by
    rw [kind_absorbAll_of_list unmarked, Bool.false_or]
  rw [Frame.close, Piece.child, final]

/-- The lists that are read of a frame grow by those of each piece that it takes. -/
theorem lists_absorb : (∀ piece frame,
      lists.readContent (Piece.absorb piece frame) = lists.readContent frame ++ piece.lists) ∧
    ∀ pieces frame,
      lists.readContent (absorbAll pieces frame) = lists.readContent frame ++ listsOf pieces := by
  refine Piece.induction ?_ ?_ ?_ ?_
  · intro located isContent frame
    have none : lists.ofContent located = [] := by
      obtain ⟨event, span⟩ := located
      cases event <;> rfl
    rw [Piece.absorb_content, TreeReading.readContent_absorb, none, ite_self, Piece.lists]
  · intro construct opened closed inner below frame
    have inside : lists.readContent (Piece.child construct opened inner) = listsOf inner := by
      rw [Piece.child, below, TreeReading.readContent_opened, List.nil_append]
    have isList : (Piece.child construct opened inner).close.kind.isList =
        construct.kind.isList := by
      rw [← Kind.isList_bare, Piece.bare_close_child]
    rw [TreeReading.readContent_construct, TreeReading.read_child, inside]
    congr 1
    simp only [lists, Piece.isText_close_child, isList, Bool.false_or]
    cases construct with
    | list start =>
      rw [kind_child_list]
      rfl
    | _ => rfl
  · intro frame
    rw [absorbAll_nil, listsOf, List.append_nil]
  · intro piece rest first others frame
    rw [absorbAll_cons, others, first, listsOf, List.append_assoc]

end Markdown

end Manuscript
