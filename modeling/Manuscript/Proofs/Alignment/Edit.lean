import Manuscript.Proofs.Alignment.Visit
import Manuscript.Proofs.Document.Edit

/-!
# The pass over aligned blocks as an edit

Settling escapes rewrites and marks texts, taking away the tags rewrites texts or removes a
paragraph of nothing but text, and what is left goes into a wrapper. So the pass makes nothing but
edits (`edited_alignDocument`).
-/

namespace Manuscript.Alignment

open Node (Edited)

variable {allowed : Bool}

/-- Marking a text as escaped is an edit. -/
theorem edited_markEscaped (node : Node) : Edited allowed [node] [markEscaped node] :=
  .annotate ⟨rfl, fun _ member => .inl (List.mem_map_of_mem member)⟩

/-- Settling the escapes of a node is an edit. -/
theorem Settles.edited {node other : Node} (settles : Settles node other) :
    Edited allowed [node] [other] := by
  cases settles with
  | same => exact .same _
  | marked => exact edited_markEscaped node
  | literal _ _ kind =>
    exact (Edited.reword (Node.isText_of_kind kind) _).trans (edited_markEscaped _)

/-- Settling the escapes of siblings is an edit. -/
theorem SettlesList.edited {nodes others : List Node} (settles : SettlesList nodes others) :
    Edited allowed nodes others := by
  induction settles with
  | nil => exact .same []
  | cons own _ later => exact own.edited.cons later

/-- Meeting a block is an edit. -/
theorem Met.edited {node other : Node} (met : Met node other) : Edited allowed [node] [other] := by
  cases met with
  | settled settles => exact settles.edited
  | paragraph _ settles => exact .inside settles.edited

/-- Meeting siblings is an edit. -/
theorem edited_of_met {nodes others : List Node} (met : List.Forall₂ Met nodes others) :
    Edited allowed nodes others := by
  induction met with
  | nil => exact .same []
  | cons own _ later => exact own.edited.cons later

/-- Taking a tag from the first text is an edit. -/
theorem edited_stripStart (tag : Text) (nodes : List Node) :
    Edited allowed nodes (stripStart tag nodes) := by
  induction nodes with
  | nil => exact .same []
  | cons node rest ih =>
    rw [stripStart]
    split
    · exact (Edited.same [node]).cons ih
    · rename_i value own
      have isText : node.isText = true := Option.isSome_iff_exists.2 ⟨value, own⟩
      split
      · exact .same _
      · exact (Edited.removeText isText).tail rest
      · exact (Edited.reword isText _).cons (.same rest)

/-- Taking a tag from a text at its end is an edit. -/
theorem edited_stripTextEnd (tag : Text) {text : Node} (isText : text.isText = true) :
    Edited allowed [text] (stripTextEnd tag text) := by
  obtain ⟨value, own⟩ := Option.isSome_iff_exists.1 isText
  rw [stripTextEnd, stripEnd, List.reverse_singleton, stripEndReversed]
  simp only [own]
  split
  · exact .same _
  · exact .removeText isText
  · exact .reword isText _

/-- Taking a tag from the last text is an edit. -/
theorem edited_stripEnd (tag : Text) (nodes : List Node) :
    Edited allowed nodes (stripEnd tag nodes) := by
  have atText : ∀ {front back : List Node} {text : Node}, Textless back → text.isText = true →
      Edited allowed (front ++ text :: back) (stripEnd tag (front ++ text :: back)) := by
    intro front back text textless isText
    rw [stripEnd_append tag textless isText, List.append_assoc]
    exact .append (.same front) ((edited_stripTextEnd tag isText).cut (.same back))
  obtain ⟨ends, clear, shape⟩ := exists_shape nodes
  cases shape with
  | none textless =>
    rw [stripEnd_of_textless tag textless]
    exact .same nodes
  | one _ after isText => exact atText after isText
  | @two front middle back first last _ after _ isText =>
    have regroup : front ++ first :: (middle ++ last :: back) =
        (front ++ first :: middle) ++ last :: back := by simp
    rw [regroup]
    exact atText after isText

/-- A blank paragraph holds nothing but texts. -/
theorem texts_of_isBlankParagraph {block : Node} (blank : isBlankParagraph block = true) :
    block.isParagraph = true ∧ ∀ child ∈ block.children, child.isText = true := by
  rw [isBlankParagraph, Bool.and_eq_true, List.all_eq_true] at blank
  refine ⟨blank.1, fun child member => ?_⟩
  have value := blank.2 child member
  cases own : child.textValue? with
  | none =>
    rw [own] at value
    cases value
  | some _ => rw [Node.isText, own]; rfl

/-- A paragraph with a tag that stands alone in it may be removed. -/
theorem Carries.edited_of_alone {holds : Marker → List Node → Prop} {found : Found} {block : Node}
    (carries : Carries holds found block) (alone : found.alone = true) :
    Edited allowed [block] [] := by
  refine .remove carries.isParagraph fun child member => ?_
  obtain ⟨text, whole, tagged⟩ := carries.alone alone
  rw [whole, List.mem_singleton] at member
  rw [member]
  exact tagged.isText

/-- Removing a blank paragraph is an edit. -/
theorem edited_unlessBlank (block : Node) : Edited allowed [block] (unlessBlank block) := by
  rw [unlessBlank]
  split
  · rename_i blank
    obtain ⟨isParagraph, texts⟩ := texts_of_isBlankParagraph blank
    exact .remove isParagraph texts
  · exact .same [block]

/-- Removing an opening tag is an edit. -/
theorem edited_dropOpening {opening : Found} {original block : Node}
    (carries : Carries HoldsFirst opening original) (met : Met original block) :
    Edited allowed [original] (dropOpening opening [block]) := by
  rw [dropOpening_singleton]
  split
  · rename_i alone
    exact carries.edited_of_alone alone
  · exact met.edited.trans ((Edited.inside (edited_stripStart _ _)).trans (edited_unlessBlank _))

/-- Removing a closing tag is an edit. -/
theorem edited_dropClosing {closing : Found} {last : Node}
    (carries : Carries HoldsLast closing last) :
    Edited allowed [last] (dropClosing closing [last]) := by
  rw [dropClosing_singleton]
  split
  · rename_i alone
    exact carries.edited_of_alone alone
  · exact (Edited.inside (edited_stripEnd _ _)).trans (edited_unlessBlank _)

/-- Taking the tags from a range is an edit. -/
theorem Range.TakenFrom.edited {range : Range} {taken : List Node} (from' : range.TakenFrom taken) :
    Edited allowed taken range.inner := by
  rw [Range.inner]
  cases from' with
  | @one only block met opens closes beside beside' blocks =>
    rw [blocks]
    refine (edited_dropOpening (opens.of_met met holdsFirst_stays) met).trans ?_
    rw [dropOpening_singleton, beside, if_neg Bool.false_ne_true, unlessBlank]
    split
    · exact .same []
    · rw [dropClosing_singleton, beside', if_neg Bool.false_ne_true]
      exact (Edited.inside (edited_stripEnd _ _)).trans (edited_unlessBlank _)
  | several opens met amid met' closes blocks =>
    rw [blocks, dropBoth_append]
    exact ((edited_dropOpening opens met).cut (edited_of_met amid)).append
      (met'.edited.trans (edited_dropClosing closes))

/-- Putting what is left of a range into a wrapper is an edit. -/
theorem edited_wrapper? (options : AlignOptions) (range : Range) :
    Edited allowed range.inner (range.wrapper? options).toList := by
  rw [range.wrapper?_eq]
  split
  · rename_i empty
    rw [List.isEmpty_iff.1 empty]
    exact .same []
  · rename_i left
    exact .wrap (fun empty => left (List.isEmpty_iff.2 empty)) _

/-- Wrapping the aligned blocks of siblings is an edit. -/
theorem edited_alignList (options : AlignOptions) (source : Text) (nodes : List Node) :
    Edited allowed nodes (alignList options source nodes) := by
  induction nodes using visit.induct source with
  | case1 =>
    rw [alignList]
    exact .same []
  | case2 block rest range after found later =>
    obtain ⟨taken, others, whole, from', met⟩ :=
      taken_of_range found (List.forall₂_same.2 fun node _ => .refl node)
    have onward : Edited allowed after
        (range.skipped after ++ alignList options source (range.remaining after)) := by
      conv =>
        arg 2
        rw [← range.skipped_append_remaining after]
      exact (Edited.same _).append later
    rw [alignList_of_range found, whole]
    exact (from'.edited.trans (edited_wrapper? options range)).append
      ((edited_of_met met).trans onward)
  | case3 block rest kept left found below later =>
    obtain ⟨own, others⟩ := outcome_kept found
    rw [alignList_of_kept found]
    exact (own.edited.trans (.inside below)).cons ((edited_of_met others).trans later)

/-- Wrapping the aligned blocks of a document is an edit. -/
theorem edited_alignDocument (options : AlignOptions) (source : Text) (tree : Node) :
    Edited allowed [tree] [alignDocument options source tree] :=
  .inside (edited_alignList options source tree.children)

end Manuscript.Alignment
