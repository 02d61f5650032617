import Manuscript.Proofs.Alignment.Found
import Manuscript.Proofs.Alignment.Tag

/-!
# Blocks that are read as tags, and blocks without tags

No tag is the start or the end of another one (`eq_of_begins`, `eq_of_ends`), so what is read from a
text is the tag that stands there unless it is escaped. A paragraph that is nothing but a tag is
read as that tag (`IsTag.readBlock`). From the end of a block without tags nothing is read, and
nothing in the block is changed (`readClosing_of_tagless`).
-/

namespace Manuscript.Alignment

/-- Different markers have different tags. -/
theorem tag_injective : Function.Injective Marker.tag := by
  rintro ⟨alignment, layout, closing⟩ ⟨alignment', layout', closing'⟩ same
  revert same
  cases alignment <;> cases layout <;> cases closing <;> cases alignment' <;> cases layout' <;>
    cases closing' <;> decide

/-- There is one tag that a text begins with. -/
theorem eq_of_begins {marker other : Marker} {value : Text} (begins : marker.tag <+: value)
    (begins' : other.tag <+: value) : marker = other := by
  have short {marker other : Marker} (inside : marker.tag <+: other.tag) : marker = other := by
    obtain ⟨closes, single⟩ := tag_closes other
    obtain ⟨closes', _⟩ := tag_closes marker
    rw [closes, List.prefix_concat_iff, ← closes] at inside
    rcases inside with same | inside
    · exact tag_injective same
    · have bracket : ']' ∈ marker.tag := by
        rw [closes']
        exact List.mem_append_right _ List.mem_cons_self
      exact absurd (inside.subset bracket) single
  rcases List.prefix_or_prefix_of_prefix begins begins' with inside | inside
  · exact short inside
  · exact (short inside).symm

/-- There is one tag that a text ends with. -/
theorem eq_of_ends {marker other : Marker} {value : Text} (ends : marker.tag <:+ value)
    (ends' : other.tag <:+ value) : marker = other := by
  have short {marker other : Marker} (inside : marker.tag <:+ other.tag) : marker = other := by
    obtain ⟨tail, tag, _⟩ := tag_brackets marker
    obtain ⟨tail', tag', _, single⟩ := tag_brackets other
    rw [tag, tag', List.suffix_cons_iff] at inside
    rcases inside with same | inside
    · exact tag_injective (tag.trans (same.trans tag'.symm))
    · exact absurd (inside.subset List.mem_cons_self) single
  rcases List.suffix_or_suffix_of_suffix ends ends' with inside | inside
  · exact short inside
  · exact (short inside).symm

/-- Every opening tag is among the opening tags, and every closing tag among the closing tags. -/
theorem mem_openings {marker : Marker} (opens : marker.closing = false) :
    marker ∈ Marker.openings := by
  obtain ⟨alignment, layout, closing⟩ := marker
  cases opens
  cases alignment <;> cases layout <;> decide

/-- Every closing tag is one of those that are looked for. -/
theorem mem_closings {marker : Marker} (closes : marker.closing = true) :
    marker ∈ Marker.closings := by
  obtain ⟨alignment, layout, closing⟩ := marker
  cases closes
  cases alignment <;> cases layout <;> decide

/-- Every tag is one of those that are looked for. -/
theorem mem_openings_append_closings (marker : Marker) :
    marker ∈ Marker.openings ++ Marker.closings := by
  cases closing : marker.closing with
  | false => exact List.mem_append_left _ (mem_openings closing)
  | true => exact List.mem_append_right _ (mem_closings closing)

/-- A search finds the marker that alone has the property. -/
theorem find?_marker {markers : List Marker} {property : Marker → Bool} {marker : Marker}
    (member : marker ∈ markers) (has : property marker = true)
    (only : ∀ other, property other = true → other = marker) :
    markers.find? property = some marker := by
  obtain ⟨found, finds⟩ := Option.isSome_iff_exists.1 (List.find?_isSome.2 ⟨marker, member, has⟩)
  rw [finds, only found (List.find?_some finds)]

section

variable {source : Text} {text : Node} {marker : Marker}

/-- A tag that stands alone in a text is read from it unless it was behind a backslash. -/
theorem readAlone_of_holds (holds : HoldsTag StandsAlone marker text)
    (unescaped : escapedBefore source text = false) :
    readAlone source text = (text, some marker) := by
  obtain ⟨plain, value, kind, stands⟩ := holds
  have trimmed : Text.trim value = marker.tag := stands
  obtain ⟨rest, tag, _⟩ := tag_brackets marker
  have found : (Marker.openings ++ Marker.closings).find? (·.tag = marker.tag) = some marker :=
    find?_marker (mem_openings_append_closings marker) (decide_eq_true rfl) fun other same =>
      tag_injective (of_decide_eq_true same)
  rw [tag] at found
  simp only [readAlone, kind, plain, trimmed, tag, unescaped, found]
  rfl

/-- An opening tag at the start of a text is read from it unless it was behind a backslash. -/
theorem readStart_of_holds (holds : HoldsTag StandsFirst marker text)
    (unescaped : escapedBefore source text = false) :
    readStart source text = (text, some marker) := by
  obtain ⟨plain, value, kind, opens, begins⟩ := holds
  have found : Marker.openings.find? (fun marker => Text.startsWith marker.tag value) =
      some marker :=
    find?_marker (mem_openings opens) (List.isPrefixOf_iff_prefix.2 begins) fun other begins' =>
      eq_of_begins (List.isPrefixOf_iff_prefix.1 begins') begins
  obtain ⟨rest, tag, _⟩ := tag_brackets marker
  obtain ⟨back, rfl⟩ := begins
  rw [tag, List.cons_append] at kind found
  simp only [readStart, kind, plain, unescaped, found]
  rfl

/-- A tag that no backslash stands before is not behind one. -/
theorem not_behind_backslash {front tag : Text} (bare : front.getLast? ≠ some '\\') :
    ¬ '\\' :: tag <:+ front ++ tag := by
  rintro ⟨back, whole⟩
  rw [← List.singleton_append, ← List.append_assoc] at whole
  refine bare ?_
  rw [← List.append_cancel_right whole]
  exact List.getLast?_concat

/-- A closing tag at the end of a text is read from it unless a backslash stands before it, in the
text or where it was read from. -/
theorem readEnd_of_holds {front : Text} (closes : marker.closing = true)
    (kind : text.kind = .text (front ++ marker.tag)) (plain : text.data.escaped = false)
    (bare : front.getLast? ≠ some '\\') (unescaped : escapedEnd source marker.tag text = false) :
    readEnd source text = (text, some marker) := by
  have ends : marker.tag <:+ front ++ marker.tag := List.suffix_append _ _
  generalize whole : front ++ marker.tag = value at kind ends
  have found : Marker.closings.find? (fun marker => Text.endsWith marker.tag value) =
      some marker :=
    find?_marker (mem_closings closes) (List.isSuffixOf_iff_suffix.2 ends) fun other ends' =>
      eq_of_ends (List.isSuffixOf_iff_suffix.1 ends') ends
  have literal : Marker.closings.findSome? (fun marker =>
      (Text.dropBack? ('\\' :: marker.tag) value).map (· ++ marker.tag)) = none := by
    refine List.findSome?_eq_none_iff.2 fun other _ => ?_
    rw [Option.map_eq_none_iff, Option.eq_none_iff_forall_ne_some]
    intro before behind
    have split := Text.dropBack?_eq_some_iff.1 behind
    have ends' : other.tag <:+ value := ⟨before ++ ['\\'], by rw [split]; simp⟩
    rw [eq_of_ends ends' ends, ← whole] at split
    exact not_behind_backslash bare ⟨before, split.symm⟩
  simp only [readEnd, kind, plain, literal, found, unescaped]
  rfl

end

/-- A text that was read from a place after a backslash is no opening tag. -/
theorem readStart_of_escaped {source : Text} {node : Node}
    (escaped : escapedBefore source node = true) : (readStart source node).2 = none := by
  unfold readStart
  repeat' split
  all_goals simp_all

/-- A text that was read from a place after a backslash is no tag that stands alone, and stays a
text that was read from there. -/
theorem readAlone_of_escaped {source : Text} {node : Node}
    (escaped : escapedBefore source node = true) :
    (readAlone source node).2 = none ∧
      escapedBefore source (readAlone source node).1 = true := by
  unfold readAlone
  dsimp only
  repeat' split
  all_goals exact ⟨rfl, escaped⟩

/-- A paragraph is nothing but a tag, which is not escaped. -/
structure IsTag (source : Text) (marker : Marker) (block : Node) : Prop where
  isParagraph : block.isParagraph = true
  alone : ∃ text, block.children = [text] ∧ HoldsTag StandsAlone marker text ∧
    escapedBefore source text = false

/-- Such a paragraph is read as its tag, and left as it is. -/
theorem IsTag.readBlock {source : Text} {marker : Marker} {block : Node}
    (isTag : IsTag source marker block) (read : List Node → List Node × Option Marker) :
    readBlock source read block = (block, some ⟨marker, true⟩) := by
  obtain ⟨isParagraph, text, whole, holds, unescaped⟩ := isTag
  rw [Alignment.readBlock, if_pos isParagraph, whole, readOnly, readAlone_of_holds holds unescaped]
  cases block
  cases whole
  rfl

/-- What closes a tag that stands alone is not the block with the tag itself. -/
theorem closes_self (found : Found) (alone : found.alone = true) :
    closes found true found = false := by
  rw [closes, alone]
  simp

/-- A paragraph has a tag in one of its texts. -/
structure HasTag (marker : Marker) (block : Node) : Prop where
  isParagraph : block.isParagraph = true
  inside : ∃ text ∈ block.children, ∃ value, text.kind = .text value ∧ marker.tag <:+: value

/-- A tag that stands alone in a text is in it. -/
theorem infix_of_standsAlone {marker : Marker} {value : Text} (stands : StandsAlone marker value) :
    marker.tag <:+: value := by
  obtain ⟨blanks, _, whole⟩ := Text.blanks_trim_blanks value
  rw [show Text.trim value = marker.tag from stands] at whole
  exact ⟨value.takeWhile Text.isBlank, blanks, by rw [List.append_assoc, ← whole]⟩

/-- A node is no text with a tag in it. -/
def Tagless (node : Node) : Prop :=
  ∀ value, node.kind = .text value → ∀ marker : Marker, ¬ marker.tag <:+: value

section

variable {source : Text} {text : Node}

/-- A text without tags that is read as a whole stays as it is. -/
theorem readAlone_of_tagless (tagless : Tagless text) : readAlone source text = (text, none) := by
  unfold readAlone
  dsimp only
  split
  · rename_i value kind
    split
    · rfl
    · split
      · rename_i tag trimmed
        refine if_neg fun known => ?_
        obtain ⟨marker, _, written⟩ := List.any_eq_true.1 known
        obtain ⟨blanks, _, whole⟩ := Text.blanks_trim_blanks value
        rw [trimmed, ← of_decide_eq_true written] at whole
        have split : (value.takeWhile Text.isBlank ++ ['\\']) ++ marker.tag ++ blanks = value := by
          rw [List.append_assoc, List.append_assoc]
          exact whole.symm
        exact tagless value kind marker ⟨_, blanks, split⟩
      · split
        · rfl
        · refine congrArg _ (List.find?_eq_none.2 fun marker _ same => ?_)
          exact tagless value kind marker (infix_of_standsAlone (of_decide_eq_true same).symm)
  · rfl

/-- A text without tags that is read from its end stays as it is. -/
theorem readEnd_of_tagless (tagless : Tagless text) : readEnd source text = (text, none) := by
  unfold readEnd
  split
  · rename_i value kind
    have none : Marker.closings.find? (fun marker => Text.endsWith marker.tag value) = none :=
      List.find?_eq_none.2 fun marker _ ends =>
        tagless value kind marker (List.isSuffixOf_iff_suffix.1 ends).isInfix
    split
    · rfl
    · split
      · rename_i rest literal
        obtain ⟨marker, _, ends⟩ := List.exists_of_findSome?_eq_some literal
        obtain ⟨front, behind, _⟩ := Option.map_eq_some_iff.1 ends
        have whole := Text.dropBack?_eq_some_iff.1 behind
        exact absurd ⟨front ++ ['\\'], [], by simp [whole]⟩ (tagless value kind marker)
      · rw [none]
  · rfl

end

/-- From nodes without tags nothing is read. -/
theorem readFirst_of_tagless {read : Node → Node × Option Marker} {nodes : List Node}
    (nothing : ∀ node ∈ nodes, read node = (node, none)) :
    readFirst read nodes = (nodes, none) := by
  induction nodes with
  | nil => rfl
  | cons node rest ih =>
    rw [readFirst, nothing node List.mem_cons_self,
      ih fun other member => nothing other (List.mem_cons_of_mem _ member)]
    split <;> rfl

/-- From a block without tags nothing is read, and it stays as it is. -/
theorem readBlock_of_tagless {source : Text} {read : List Node → List Node × Option Marker}
    {block : Node} (tagless : ∀ marker, ¬ HasTag marker block)
    (nothing : ∀ nodes, (∀ node ∈ nodes, Tagless node) → read nodes = (nodes, none)) :
    readBlock source read block = (block, none) := by
  rw [readBlock]
  split
  · rename_i isParagraph
    have below : ∀ node ∈ block.children, Tagless node :=
      fun node member value kind marker inside =>
        tagless marker ⟨isParagraph, node, member, value, kind, inside⟩
    have only : readOnly source block.children = (block.children, none) := by
      unfold readOnly
      split
      · rename_i node whole
        rw [readAlone_of_tagless (below node (whole ▸ List.mem_cons_self)), whole]
      · rfl
    rw [only]
    dsimp only
    rw [nothing block.children below]
    cases block
    rfl
  · rfl

/-- A block without tags is left as it is by a search for a closing one. -/
theorem readClosing_of_tagless {source : Text} {block : Node}
    (tagless : ∀ marker, ¬ HasTag marker block) : readClosing source block = (block, none) := by
  refine readBlock_of_tagless tagless fun nodes below => ?_
  rw [readLast, readFirst_of_tagless fun node member =>
    readEnd_of_tagless (below node (List.mem_reverse.1 member))]
  dsimp only
  rw [List.reverse_reverse]

end Manuscript.Alignment
