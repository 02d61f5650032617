import Manuscript.Proofs.Markdown.Reading

/-!
# Prose

The texts of a tree outside code, HTML and images are, in document order, the texts and line breaks
of the stream outside these (`prose_absorb`). Joining texts and gathering inline content loses
nothing, repeats nothing and moves nothing.
-/

namespace Manuscript

/-- Whether what is inside a node of this kind is no prose. -/
def Kind.hidesProse : Kind → Bool
  | code _ _ _ => true
  | inlineCode _ => true
  | html _ => true
  | image _ _ _ => true
  | _ => false

/-- Whether a node hides prose when it is closed is known when it is opened. -/
@[simp] theorem Kind.hidesProse_bare (kind : Kind) : kind.bare.hidesProse = kind.hidesProse := by
  cases kind <;> rfl

/-- What is dropped is no prose. -/
theorem Kind.hidesProse_of_dropsContent {kind : Kind} (drops : kind.dropsContent = true) :
    kind.hidesProse = true := by
  cases kind <;> first | rfl | cases drops

namespace Markdown

/-- The values of the texts of a tree in document order, outside code, HTML and images. -/
def prose : TreeReading Char where
  own
    | .text value, _ => value
    | _, _ => []
  hides kind := kind.isText || kind.hidesProse
  own_paragraph := rfl
  hides_paragraph := rfl
  own_text _ _ _ _ _ := rfl
  hides_text _ := rfl

/-- Whether what is inside a construct is no prose. -/
def Construct.hidesProse : Construct → Bool
  | fencedCode _ => true
  | indentedCode => true
  | htmlBlock => true
  | image _ _ => true
  | _ => false

/-- The nodes of constructs that hide prose do so as well. -/
theorem Construct.hidesProse_kind (construct : Construct) :
    construct.kind.hidesProse = construct.hidesProse := by
  cases construct <;> rfl

mutual

/-- The texts and soft breaks of a piece in order, outside code, HTML and images. -/
def Piece.prose : Piece → Text
  | .content located _ =>
    match located.event with
    | .text value => value
    | .softBreak => ['\n']
    | _ => []
  | .construct construct _ _ inner => if construct.hidesProse then [] else proseOf inner

/-- The texts and soft breaks of a list of pieces in order, outside code, HTML and images. -/
def proseOf : List Piece → Text
  | [] => []
  | piece :: rest => piece.prose ++ proseOf rest

end

/-- Only what hides prose collects content literally. -/
theorem collected?_of_not_hidesProse {frame : Frame} (shown : frame.kind.hidesProse = false)
    (event : Event) : event.collected? frame = none := by
  cases collects : event.collected? frame with
  | none => rfl
  | some collected =>
    rcases Frame.collected?_cases collects with ⟨_, _, _, _, isCode, _⟩ | ⟨_, _, isHtml, _⟩
    · rw [isCode] at shown
      cases shown
    · rw [isHtml] at shown
      cases shown

/-- The prose of a frame that does not hide it grows by that of each piece that it takes. -/
theorem prose_absorb : (∀ piece frame, frame.kind.hidesProse = false →
      prose.readContent (Piece.absorb piece frame) = prose.readContent frame ++ piece.prose) ∧
    ∀ pieces frame, frame.kind.hidesProse = false →
      prose.readContent (absorbAll pieces frame) = prose.readContent frame ++ proseOf pieces := by
  refine Piece.induction ?_ ?_ ?_ ?_
  · intro located isContent frame shown
    rw [Piece.absorb_content, TreeReading.readContent_absorb,
      collected?_of_not_hidesProse shown, Piece.prose]
    obtain ⟨event, span⟩ := located
    cases event <;> rfl
  · intro construct opened closed inner below frame _
    have hides : (Piece.child construct opened inner).close.kind.hidesProse =
        construct.hidesProse := by
      rw [← Kind.hidesProse_bare, Piece.bare_close_child, Construct.hidesProse_kind]
    have isText := Piece.isText_close_child construct opened inner
    have own : prose.own (Piece.child construct opened inner).close.kind (some opened) = [] := by
      cases kind : (Piece.child construct opened inner).close.kind with
      | text value =>
        rw [kind] at isText
        cases isText
      | _ => rfl
    rw [TreeReading.readContent_construct, TreeReading.read_child, own, List.nil_append,
      Piece.prose]
    congr 1
    have hidden : prose.hides (Piece.child construct opened inner).close.kind =
        construct.hidesProse := by
      simp only [prose, isText, hides, Bool.false_or]
    rw [hidden]
    cases hidden : construct.hidesProse with
    | true => rfl
    | false =>
      have drops : construct.kind.dropsContent = false := by
        apply Bool.eq_false_iff.2
        intro drops
        have hides := Kind.hidesProse_of_dropsContent drops
        rw [Construct.hidesProse_kind, hidden] at hides
        cases hides
      have shown : ((Frame.opened construct opened).mark (markOf? inner)).kind.hidesProse =
          false := by
        rw [← Kind.hidesProse_bare, Frame.bare_mark, Kind.hidesProse_bare]
        exact construct.hidesProse_kind.trans hidden
      rw [drops, Piece.child, below _ shown, TreeReading.readContent_opened]
      rfl
  · intro frame _
    rw [absorbAll_nil, proseOf, List.append_nil]
  · intro piece rest first others frame shown
    have still : (piece.absorb frame).kind.hidesProse = false := by
      rw [← Kind.hidesProse_bare, piece.isSteady_absorb.kind, Kind.hidesProse_bare, shown]
    rw [absorbAll_cons, others _ still, first _ shown, proseOf, List.append_assoc]

end Markdown

end Manuscript
