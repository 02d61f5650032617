import Manuscript.Prose.Alignment
import Manuscript.Proofs.Text.Ends

/-!
# Tags in a text

A tag has one bracket at either end and none inside. So two tags never overlap in a text
(`exists_between_tags`), and where a tag stands among other text is seen from what is around it
(`beginsWithTag_append_iff`, `endsWithTag_append_iff`).
-/

namespace Manuscript.Alignment

/-- A tag begins with a bracket, ends with one, and has none that opens in between. -/
theorem tag_brackets (marker : Marker) : ∃ rest, marker.tag = '[' :: rest ∧
    rest.getLast? = some ']' ∧ '[' ∉ rest := by
  refine ⟨marker.tag.tail, ?_⟩
  obtain ⟨alignment, layout, closing⟩ := marker
  cases alignment <;> cases layout <;> cases closing <;> decide

/-- A tag ends with a bracket, and has no further bracket that closes. -/
theorem tag_closes (marker : Marker) :
    marker.tag = marker.tag.dropLast ++ [']'] ∧ ']' ∉ marker.tag.dropLast := by
  obtain ⟨alignment, layout, closing⟩ := marker
  cases alignment <;> cases layout <;> cases closing <;> decide

/-- There is no backslash in a tag. -/
theorem backslash_not_mem_tag (marker : Marker) : '\\' ∉ marker.tag := by
  obtain ⟨alignment, layout, closing⟩ := marker
  cases alignment <;> cases layout <;> cases closing <;> decide

/-- No opening tag is the start of a closing tag. -/
theorem not_prefix_of_closing {opening closing : Marker} (opens : opening.closing = false)
    (closes : closing.closing = true) : ¬ opening.tag <+: closing.tag := by
  obtain ⟨alignment, layout, _⟩ := opening
  obtain ⟨alignment', layout', _⟩ := closing
  cases opens
  cases closes
  cases alignment <;> cases layout <;> cases alignment' <;> cases layout' <;> decide

/-- No closing tag is the end of an opening tag, or the other way round. -/
theorem not_suffix_of_opening {marker : Marker} (opens : marker.closing = false)
    (alignment : Alignment) (layout : Layout) : ¬ alignment.closeTag layout <:+ marker.tag ∧
      ¬ marker.tag <:+ alignment.closeTag layout := by
  obtain ⟨alignment', layout', closing⟩ := marker
  cases opens
  cases alignment <;> cases layout <;> cases alignment' <;> cases layout' <;> decide

/-- A text with a tag in it is not blank. -/
theorem not_blank_of_tag (marker : Marker) (front back : Text) :
    Text.isBlankText (front ++ (marker.tag ++ back)) = false := by
  have bracket : Text.isBlank '[' = false := by decide
  obtain ⟨rest, tag, _⟩ := tag_brackets marker
  rw [tag, Text.isBlankText, List.all_append, List.cons_append, List.all_cons,
    bracket, Bool.false_and, Bool.and_false]

/-- Trimming takes nothing from the start of a tag. -/
theorem trimStart_tag (marker : Marker) (rest : Text) :
    Text.trimStart (marker.tag ++ rest) = marker.tag ++ rest := by
  obtain ⟨_, tag, _⟩ := tag_brackets marker
  rw [tag, Text.trimStart, List.cons_append, List.dropWhile_cons_of_neg (by decide)]

/-- When a text begins with an opening tag and ends with a closing tag, the two are apart. -/
theorem exists_between_tags {opening closing : Marker} (opens : opening.closing = false)
    (closes : closing.closing = true) {value : Text} (first : opening.tag <+: value)
    (last : closing.tag <:+ value) :
    ∃ between, value = opening.tag ++ (between ++ closing.tag) := by
  obtain ⟨rest, rfl⟩ := first
  obtain ⟨front, same⟩ := last
  rcases List.append_eq_append_iff.1 same with
    ⟨shared, openingSplit, closingSplit⟩ | ⟨between, _, split⟩
  · cases shared with
    | nil => exact ⟨[], congrArg (opening.tag ++ ·) closingSplit.symm⟩
    | cons c shared =>
      -- What the tags share begins with the bracket of the closing tag, and the opening tag has
      -- only the one that it begins with.
      have bracket : c = '[' := by
        obtain ⟨_, tag, _⟩ := tag_brackets closing
        rw [tag] at closingSplit
        exact (List.cons.inj closingSplit).1.symm
      cases front with
      | nil =>
        rw [List.nil_append] at openingSplit
        rw [← openingSplit] at closingSplit
        exact absurd ⟨rest, closingSplit.symm⟩ (not_prefix_of_closing opens closes)
      | cons d front =>
        obtain ⟨tail, tag, _, single⟩ := tag_brackets opening
        rw [tag, List.cons_append] at openingSplit
        rw [(List.cons.inj openingSplit).2, bracket] at single
        exact absurd (List.mem_append_right front List.mem_cons_self) single
  · exact ⟨between, congrArg (opening.tag ++ ·) split⟩

/-- A text begins with an opening tag, apart from blanks. -/
def BeginsWithTag (alignment : Alignment) (text : Text) : Prop :=
  ∃ layout, alignment.openTag layout <+: Text.trimStart text

/-- A text ends with a closing tag, apart from blanks. -/
def EndsWithTag (alignment : Alignment) (text : Text) : Prop :=
  ∃ layout, alignment.closeTag layout <:+ Text.trimEnd text

/-- Text that is blank, or begins with a tag itself, may stand before an opening tag. -/
def MayLead (alignment : Alignment) (text : Text) : Prop :=
  Text.isBlankText text = true ∨ BeginsWithTag alignment text

/-- Text that is blank, or ends with a tag itself, may stand after a closing tag. -/
def MayTrail (alignment : Alignment) (text : Text) : Prop :=
  Text.isBlankText text = true ∨ EndsWithTag alignment text

/-- Where a tag stands after a text, an opening tag at the start of the whole is at the start of
that tag and the text is blank, or it is at the start of the text. -/
theorem openTag_prefix_iff (alignment : Alignment) (layout : Layout) (marker : Marker)
    (front rest : Text) :
    alignment.openTag layout <+: Text.trimStart (front ++ (marker.tag ++ rest)) ↔
      (Text.isBlankText front = true ∧ alignment.openTag layout <+: marker.tag ++ rest) ∨
        alignment.openTag layout <+: Text.trimStart front := by
  have solid : Text.isBlank '[' = false := by decide
  obtain ⟨tail, tag, _, single⟩ := tag_brackets ⟨alignment, layout, false⟩
  obtain ⟨tail', tag', _⟩ := tag_brackets marker
  rw [show alignment.openTag layout = _ from tag, tag', List.cons_append]
  exact Text.prefix_trimStart_append_iff solid single

/-- Where a tag stands before a text, a closing tag at the end of the whole is at the end of that
tag and the text is blank, or it is at the end of the text. -/
theorem closeTag_suffix_iff (alignment : Alignment) (layout : Layout) (marker : Marker)
    (rest back : Text) :
    alignment.closeTag layout <:+ Text.trimEnd (rest ++ marker.tag ++ back) ↔
      (Text.isBlankText back = true ∧ alignment.closeTag layout <:+ rest ++ marker.tag) ∨
        alignment.closeTag layout <:+ Text.trimEnd back := by
  have solid : Text.isBlank ']' = false := by decide
  obtain ⟨tag, single⟩ := tag_closes ⟨alignment, layout, true⟩
  rw [show alignment.closeTag layout = _ from tag, (tag_closes marker).1, ← List.append_assoc]
  exact Text.suffix_trimEnd_append_iff solid single

section

variable {marker : Marker}

/-- A text with an opening tag in it begins with one when nothing that is seen stands before it, or
when what stands before it begins with one. -/
theorem beginsWithTag_append_iff (opens : marker.closing = false) {front rest : Text} :
    BeginsWithTag marker.alignment (front ++ (marker.tag ++ rest)) ↔
      MayLead marker.alignment front := by
  have each := fun layout => openTag_prefix_iff marker.alignment layout marker front rest
  obtain ⟨alignment, layout, closing⟩ := marker
  cases opens
  constructor
  · rintro ⟨layout', begins⟩
    rcases (each layout').1 begins with ⟨blank, _⟩ | inside
    · exact .inl blank
    · exact .inr ⟨layout', inside⟩
  · rintro (blank | ⟨layout', inside⟩)
    · exact ⟨layout, (each layout).2 (.inl ⟨blank, List.prefix_append _ _⟩)⟩
    · exact ⟨layout', (each layout').2 (.inr inside)⟩

/-- A text with a closing tag in it ends with one when nothing that is seen stands after it, or when
what stands after it ends with one. -/
theorem endsWithTag_append_iff (closes : marker.closing = true) {rest back : Text} :
    EndsWithTag marker.alignment (rest ++ marker.tag ++ back) ↔
      MayTrail marker.alignment back := by
  have each := fun layout => closeTag_suffix_iff marker.alignment layout marker rest back
  obtain ⟨alignment, layout, closing⟩ := marker
  cases closes
  constructor
  · rintro ⟨layout', ends⟩
    rcases (each layout').1 ends with ⟨blank, _⟩ | inside
    · exact .inl blank
    · exact .inr ⟨layout', inside⟩
  · rintro (blank | ⟨layout', inside⟩)
    · exact ⟨layout, (each layout).2 (.inl ⟨blank, List.suffix_append _ _⟩)⟩
    · exact ⟨layout', (each layout').2 (.inr inside)⟩

/-- A text in which an opening tag stands alone does not end with a closing tag. -/
theorem not_endsWithTag_of_opening (opens : marker.closing = false) {value : Text}
    (alone : Text.trim value = marker.tag) (alignment : Alignment) :
    ¬ EndsWithTag alignment value := by
  rintro ⟨layout, ends⟩
  obtain ⟨blanks, blank, whole⟩ := Text.blanks_trim_blanks value
  rw [whole, alone, ← List.append_assoc, closeTag_suffix_iff] at ends
  obtain ⟨notInTag, notTag⟩ := not_suffix_of_opening opens alignment layout
  rcases ends with ⟨_, ends⟩ | ⟨front, ends⟩
  · rcases List.suffix_or_suffix_of_suffix ends (List.suffix_append _ _) with inside | around
    · exact notInTag inside
    · exact notTag around
  · obtain ⟨blanks', _, split⟩ := Text.trimEnd_blanks blanks
    have lettered := not_blank_of_tag ⟨alignment, layout, true⟩ front blanks'
    rw [← ends, List.append_assoc] at split
    rw [split] at blank
    exact Bool.false_ne_true (lettered.symm.trans blank)

end

end Manuscript.Alignment
