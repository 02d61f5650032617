import Manuscript.Proofs.Alignment.Tag
import Manuscript.Proofs.Alignment.Visit
import Manuscript.Proofs.Document.Induction

/-!
# What is deleted from the text

`Deletes` relates the text of a document before the pass over aligned blocks to the text after it.
It names everything that may go: the tags of the ranges, each once and in order, a backslash before
a tag, and a paragraph that is blank apart from tags. When nothing but blanks is left of a text, it
was blank apart from the tags (`Deletes.leavesBlank`).
-/

namespace Manuscript.Alignment

/-- A text is blank apart from tags. -/
inductive LeavesBlank : List Marker → Text → Prop
  | nil : LeavesBlank [] []
  | blank {tags : List Marker} {c : Char} {rest : Text} (isBlank : Text.isBlank c = true)
      (later : LeavesBlank tags rest) : LeavesBlank tags (c :: rest)
  | tag {tags : List Marker} (marker : Marker) {rest : Text} (later : LeavesBlank tags rest) :
      LeavesBlank (marker :: tags) (marker.tag ++ rest)

/-- Two texts that are blank apart from tags are so together. -/
theorem LeavesBlank.append {tags tags' : List Marker} {front back : Text}
    (before : LeavesBlank tags front) (after : LeavesBlank tags' back) :
    LeavesBlank (tags ++ tags') (front ++ back) := by
  induction before with
  | nil => exact after
  | blank isBlank _ ih => exact .blank isBlank ih
  | tag marker _ ih =>
    rw [List.append_assoc]
    exact .tag marker ih

/-- There is no tag in an empty text. -/
theorem LeavesBlank.eq_nil {tags : List Marker} {text : Text} (leaves : LeavesBlank tags text)
    (empty : text = []) : tags = [] := by
  cases leaves with
  | nil => rfl
  | blank => cases empty
  | tag marker =>
    obtain ⟨_, opens, _⟩ := tag_brackets marker
    rw [opens] at empty
    cases empty

/-- A blank text is blank without any tags. -/
theorem leavesBlank_of_blank {text : Text} (blank : Text.isBlankText text = true) :
    LeavesBlank [] text := by
  induction text with
  | nil => exact .nil
  | cons c rest ih =>
    obtain ⟨isBlank, later⟩ := Text.isBlankText_cons.1 blank
    exact .blank isBlank (ih later)

/-- A text in which a tag stands alone is blank apart from the tag. -/
theorem StandsAlone.leavesBlank {marker : Marker} {value : Text}
    (alone : StandsAlone marker value) : LeavesBlank [marker] value := by
  obtain ⟨blanks, blank, whole⟩ := Text.blanks_trim_blanks value
  rw [whole, show Text.trim value = marker.tag from alone]
  exact (leavesBlank_of_blank (Text.isBlankText_takeWhile value)).append
    (.tag marker (leavesBlank_of_blank blank))

/-- What may be deleted from a text: the given tags, in this order, the backslash before a tag, and
the text of one of the paragraphs, if it is blank apart from some of the tags. -/
inductive Deletes (paragraphs : List Node) : List Marker → Text → Text → Prop
  | nil : Deletes paragraphs [] [] []
  | keep {tags : List Marker} (c : Char) {before after : Text}
      (later : Deletes paragraphs tags before after) :
      Deletes paragraphs tags (c :: before) (c :: after)
  | backslash {tags : List Marker} (marker : Marker) {before after : Text}
      (later : Deletes paragraphs tags before after) :
      Deletes paragraphs tags ('\\' :: (marker.tag ++ before)) (marker.tag ++ after)
  | tag {tags : List Marker} (marker : Marker) {before after : Text}
      (later : Deletes paragraphs tags before after) :
      Deletes paragraphs (marker :: tags) (marker.tag ++ before) after
  | paragraph {own tags : List Marker} {node : Node} {before after : Text}
      (member : node ∈ paragraphs) (isParagraph : node.isParagraph = true) (tagged : own ≠ [])
      (leaves : LeavesBlank own node.plainText) (later : Deletes paragraphs tags before after) :
      Deletes paragraphs (own ++ tags) (node.plainText ++ before) after

namespace Deletes

variable {paragraphs : List Node}

/-- Nothing need be deleted. -/
theorem refl (text : Text) : Deletes paragraphs [] text text := by
  induction text with
  | nil => exact .nil
  | cons c rest ih => exact .keep c ih

/-- The parts of a text are deleted from one after the other. -/
theorem append {tags tags' : List Marker} {front front' back back' : Text}
    (first : Deletes paragraphs tags front front') (later : Deletes paragraphs tags' back back') :
    Deletes paragraphs (tags ++ tags') (front ++ back) (front' ++ back') := by
  induction first with
  | nil => exact later
  | keep c _ ih => exact .keep c ih
  | backslash marker _ ih =>
    rw [List.cons_append, List.append_assoc, List.append_assoc]
    exact .backslash marker ih
  | tag marker _ ih =>
    rw [List.append_assoc]
    exact .tag marker ih
  | paragraph member isParagraph tagged leaves _ ih =>
    rw [List.append_assoc, List.append_assoc]
    exact .paragraph member isParagraph tagged leaves ih

/-- A tag may be deleted from the end of a text. -/
theorem last (front : Text) (marker : Marker) :
    Deletes paragraphs [marker] (front ++ marker.tag) front := by
  have both : Deletes paragraphs [marker] (front ++ (marker.tag ++ [])) (front ++ []) :=
    (refl front).append (.tag marker .nil)
  rwa [List.append_nil, List.append_nil] at both

/-- What is deleted without regard to paragraphs may be deleted among any. -/
theorem widen {tags : List Marker} {before after : Text} (deletes : Deletes [] tags before after) :
    Deletes paragraphs tags before after := by
  induction deletes with
  | nil => exact .nil
  | keep c _ ih => exact .keep c ih
  | backslash marker _ ih => exact .backslash marker ih
  | tag marker _ ih => exact .tag marker ih
  | paragraph member => exact absurd member List.not_mem_nil

/-- No tag can be deleted from an empty text. -/
theorem eq_nil {tags : List Marker} {before after : Text}
    (deletes : Deletes paragraphs tags before after) (empty : before = []) : tags = [] := by
  cases deletes with
  | nil => rfl
  | keep | backslash => cases empty
  | tag marker =>
    obtain ⟨_, opens, _⟩ := tag_brackets marker
    rw [opens] at empty
    cases empty
  | paragraph _ _ tagged leaves =>
    exact absurd (leaves.eq_nil (List.append_eq_nil_iff.1 empty).1) tagged

/-- A text of which blanks are left is blank apart from the tags. -/
theorem leavesBlank {tags : List Marker} {before after : Text}
    (deletes : Deletes paragraphs tags before after) (blank : Text.isBlankText after = true) :
    LeavesBlank tags before := by
  induction deletes with
  | nil => exact .nil
  | keep c _ ih =>
    obtain ⟨isBlank, later⟩ := Text.isBlankText_cons.1 blank
    exact .blank isBlank (ih later)
  | @backslash _ marker _ after _ _ =>
    have lettered := not_blank_of_tag marker [] after
    rw [List.nil_append, blank] at lettered
    cases lettered
  | tag marker _ ih => exact .tag marker (ih blank)
  | paragraph _ _ _ leaves _ ih => exact leaves.append (ih blank)

end Deletes

/-- Settling the escapes of a text that begins with a tag keeps the tag. -/
theorem Settles.after_tag {text other : Node} (settles : Settles text other) {marker : Marker}
    {rest : Text} (kind : text.kind = .text (marker.tag ++ rest)) :
    ∃ rest', other.kind = .text (marker.tag ++ rest') ∧ Deletes [] [] rest rest' := by
  cases settles with
  | same => exact ⟨rest, kind, .refl rest⟩
  | marked => exact ⟨rest, kind, .refl rest⟩
  | @literal front back other _ kind' =>
    have value : front ++ '\\' :: (other.tag ++ back) = marker.tag ++ rest := by
      rw [kind] at kind'
      exact (Kind.text.inj kind').symm
    rcases List.append_eq_append_iff.1 value with ⟨shared, tag, later⟩ | ⟨between, rfl, rfl⟩
    · cases shared with
      | nil =>
        rw [List.append_nil] at tag
        rw [List.nil_append] at later
        rw [← later, ← tag]
        exact ⟨other.tag ++ back, rfl, .backslash other (.refl back)⟩
      | cons c shared =>
        -- The backslash would stand in the tag.
        obtain ⟨rfl, _⟩ := List.cons.inj later
        have plain := backslash_not_mem_tag marker
        rw [tag] at plain
        exact absurd (List.mem_append_right front List.mem_cons_self) plain
    · refine ⟨between ++ (other.tag ++ back), ?_, (Deletes.refl between).append
        (.backslash other (.refl back))⟩
      rw [List.append_assoc]
      rfl

end Manuscript.Alignment
