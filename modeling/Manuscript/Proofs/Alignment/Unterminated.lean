import Manuscript.Proofs.Alignment.Recognition
import Manuscript.Proofs.Alignment.Search

/-!
# Opening tags that are never closed

An opening tag without a closing tag stays in the document, but the search for the closing tag has
passed all siblings after it. What becomes of them is the same as without the tag, up to marks for
escaped tags, exactly when no turn of the pass over them depends on whether a search has passed them
(`Turn.Undisturbed`, `alike_passed_iff`, `alignList_unterminated`).
-/

namespace Manuscript.Alignment

mutual

/-- A node in which no text is marked as escaped. -/
def unmark : Node → Node
  | ⟨kind, children, data, span⟩ =>
    ⟨kind, unmarkList children, { data with escaped := false }, span⟩

/-- Nodes in which no text is marked as escaped. -/
def unmarkList : List Node → List Node
  | [] => []
  | node :: rest => unmark node :: unmarkList rest

end

/-- Nodes are the same up to marks for escaped tags. -/
def Alike (nodes others : List Node) : Prop :=
  unmarkList nodes = unmarkList others

/-- Nodes are alike to themselves. -/
theorem Alike.refl (nodes : List Node) : Alike nodes nodes := rfl

/-- Siblings are unmarked one by one. -/
theorem unmarkList_eq_map (nodes : List Node) : unmarkList nodes = nodes.map unmark := by
  induction nodes with
  | nil => rfl
  | cons node rest ih => rw [unmarkList, ih, List.map_cons]

/-- Siblings are alike if the first of them and the others are. -/
theorem alike_cons_iff {node other : Node} {rest rest' : List Node} :
    Alike (node :: rest) (other :: rest') ↔ Alike [node] [other] ∧ Alike rest rest' := by
  simp [Alike, unmarkList]

/-- Lists that are cut at the same place are alike if their parts are. -/
theorem alike_append_iff {front front' back back' : List Node}
    (same : front.length = front'.length) :
    Alike (front ++ back) (front' ++ back') ↔ Alike front front' ∧ Alike back back' := by
  have sameLength : (front.map unmark).length = (front'.map unmark).length := by
    rw [List.length_map, List.length_map, same]
  simp only [Alike, unmarkList_eq_map, List.map_append]
  exact ⟨fun alike => List.append_inj alike sameLength, fun ⟨front, back⟩ => by rw [front, back]⟩

/-- A mark does not change the kind of a node. -/
theorem kind_unmark (node : Node) : (unmark node).kind = node.kind := by
  cases node
  rfl

/-- Nodes that are alike are of the same kind. -/
theorem kind_of_alike {node other : Node} {rest rest' : List Node}
    (alike : Alike (node :: rest) (other :: rest')) : node.kind = other.kind := by
  have first : unmark node = unmark other := List.head_eq_of_cons_eq alike
  rw [← kind_unmark, first, kind_unmark]

/-- A block with the aligned blocks below it wrapped. -/
def aligned (options : AlignOptions) (source : Text) (block : Node) : Node :=
  { block with children := alignList options source block.children }

/-- A turn of the pass does not depend on whether a search has passed the siblings: a block that is
kept comes out the same; a range still begins with its opening tag, and if a sibling is passed over
after it, that sibling is the same. -/
def Turn.Undisturbed (options : AlignOptions) (source : Text) (turn : Turn) : Prop :=
  match outcome source turn.block turn.rest with
  | .kept block _ =>
    Alike [aligned options source (readOpening source (passed source turn.block)).1]
      [aligned options source block]
  | .range range after =>
    (readOpening source (passed source turn.block)).2 = (readOpening source turn.block).2 ∧
      Alike ((range.skipped after).map (passed source)) (range.skipped after)

section

variable {options : AlignOptions} {source : Text} {block kept : Node} {rest left after : List Node}
  {range : Range} {position : Nat}

/-- The pass goes on with the siblings that are left when a block is kept. -/
theorem next_of_kept (found : outcome source block rest = .kept kept left) :
    Turn.next options source { position, block, rest } = left := by
  rw [Turn.next, step_eq_outcome, found]

/-- The pass goes on with the siblings that remain after a range. -/
theorem next_of_range (found : outcome source block rest = .range range after) :
    Turn.next options source { position, block, rest } = range.remaining after := by
  rw [Turn.next, step_eq_outcome, found]
  dsimp only
  rw [range.wrapper?_eq, Range.remaining]
  cases range.inner.isEmpty with
  | false => rfl
  | true => exact List.drop_one.symm

/-- At a block that is kept, the turn is undisturbed if the block comes out the same. -/
theorem undisturbed_of_kept (found : outcome source block rest = .kept kept left) :
    Turn.Undisturbed options source { position, block, rest } ↔
      Alike [aligned options source (readOpening source (passed source block)).1]
        [aligned options source kept] := by
  rw [Turn.Undisturbed, found]

/-- At a range, the turn is undisturbed if the range still begins with its opening tag and a sibling
that is skipped is the same. -/
theorem undisturbed_of_range (found : outcome source block rest = .range range after) :
    Turn.Undisturbed options source { position, block, rest } ↔
      (readOpening source (passed source block)).2 = (readOpening source block).2 ∧
        Alike ((range.skipped after).map (passed source)) (range.skipped after) := by
  rw [Turn.Undisturbed, found]

/-- After a range the siblings that are passed over and those that remain are those of the siblings
before a search has passed them. -/
theorem skipped_map (range : Range) (after : List Node) :
    range.skipped (after.map (passed source)) = (range.skipped after).map (passed source) := by
  rw [Range.skipped, Range.skipped]
  split
  · exact List.map_take.symm
  · rfl

/-- How many siblings remain after a range does not depend on what they are. -/
theorem remaining_map (range : Range) (after : List Node) :
    range.remaining (after.map (passed source)) = (range.remaining after).map (passed source) := by
  rw [Range.remaining, Range.remaining]
  split
  · exact List.map_drop.symm
  · rfl

/-- Where something is left of a range, its first block becomes no block of the same kind. -/
theorem not_alike_of_range (found : outcome source block rest = .range range after)
    (left : range.inner ≠ []) {other : Node} (same : other.isParagraph = block.isParagraph)
    (nodes : List Node) : ¬ Alike (other :: nodes) (alignList options source (block :: rest)) := by
  intro alike
  obtain ⟨_, _, _, encloses, _⟩ := outcome_range found
  rw [(readOpening_found encloses.opens).2.isParagraph, Node.isParagraph, decide_eq_true_eq] at same
  rw [alignList_of_range found, range.wrapper?_eq, if_neg (by simp [left])] at alike
  have kind := kind_of_alike alike
  rw [same] at kind
  cases kind

end

/-- What the pass makes of siblings that a search has passed is what it makes of them otherwise
exactly when every turn is undisturbed. -/
theorem alike_passed_iff (options : AlignOptions) (source : Text) (position : Nat)
    (nodes : List Node) :
    Alike (alignList options source (nodes.map (passed source)))
        (alignList options source nodes) ↔
      ∀ turn ∈ turns options source position nodes, turn.Undisturbed options source := by
  induction position, nodes using turns.induct options source with
  | case1 position =>
    rw [turns]
    exact iff_of_true (Alike.refl _) fun _ none => absurd none List.not_mem_nil
  | case2 position block rest turn ih =>
    rw [turns, List.forall_mem_cons, ← ih, List.map_cons]
    cases found : outcome source block rest with
    | kept kept left =>
      rw [show turn.next options source = left from next_of_kept found, undisturbed_of_kept found,
        alignList_of_kept (outcome_passed_of_kept found), alignList_of_kept found, alike_cons_iff]
      rfl
    | range range after =>
      rw [show turn.next options source = range.remaining after from next_of_range found,
        undisturbed_of_range found]
      by_cases same :
          (readOpening source (passed source block)).2 = (readOpening source block).2
      · rw [alignList_of_range (outcome_passed_of_range found same), alignList_of_range found,
          alike_append_iff rfl, and_iff_right (Alike.refl _), skipped_map, remaining_map,
          alike_append_iff (List.length_map _), and_iff_right same]
      · -- The block stays a paragraph, where the range would become a wrapper.
        obtain ⟨keeps, inner⟩ := outcome_passed_of_lost found same
        rw [alignList_of_kept keeps]
        refine iff_of_false (not_alike_of_range found inner ?_ _) fun both => same both.1.1
        exact (passed_met source block).isParagraph

/-- A paragraph is nothing but a tag. -/
structure Lone (marker : Marker) (block : Node) : Prop where
  isParagraph : block.isParagraph = true
  alone : ∃ text value, block.children = [text] ∧ text.kind = .text value ∧
    StandsAlone marker value ∧ text.children = []

section

variable {options : AlignOptions} {source : Text} {marker : Marker} {block : Node}
  {rest : List Node}

/-- A tag that a block ends with is in it. -/
theorem Carries.hasTag {found : Found} (carries : Carries HoldsLast found block) :
    HasTag found.marker block := by
  refine ⟨carries.isParagraph, ?_⟩
  cases alone : found.alone with
  | true =>
    obtain ⟨text, whole, holds⟩ := carries.alone alone
    obtain ⟨value, kind, stands⟩ := holds.value
    exact ⟨text, by simp [whole], value, kind, infix_of_standsAlone stands⟩
  | false =>
    obtain ⟨front, text, back, whole, _, holds⟩ := carries.beside alone
    obtain ⟨value, kind, _, ends⟩ := holds.value
    exact ⟨text, by simp [whole], value, kind, ends.isInfix⟩

/-- A text without anything below it stays as it is. -/
theorem alignList_of_text {text : Node} (isText : text.isText = true)
    (leaf : text.children = []) : alignList options source [text] = [text] := by
  have found : outcome source text [] = .kept text [] := by
    rw [outcome, readOpening, readBlock_of_not_paragraph (not_isParagraph_of_isText isText)]
    rfl
  rw [alignList_of_kept found, leaf, alignList]
  cases text
  cases leaf
  rfl

/-- An opening tag that stands alone is not closed when no block after it has a tag of the same
alignment. -/
theorem IsTag.unclosed (isTag : IsTag source marker block) (opens : marker.closing = false)
    (lacks : ∀ other ∈ rest, ∀ tag : Marker, tag.alignment = marker.alignment →
      ¬ HasTag tag other) :
    Unclosed source ⟨marker, true⟩ block rest where
  opens := by rw [readOpening, isTag.readBlock]
  isOpening := opens
  unmatched := by
    intro before other after split found reads
    cases before with
    | nil =>
      cases split
      rw [readClosing, isTag.readBlock] at reads
      cases reads
      exact closes_self _ rfl
    | cons _ before =>
      cases split
      have carries := (readClosing_found reads).2
      refine Bool.eq_false_iff.2 fun closes => ?_
      have same := of_decide_eq_true (Bool.and_eq_true_iff.1 closes).1
      exact lacks other (by simp) found.marker same carries.hasTag

/-- A paragraph with an unescaped tag alone in it stays as it is when it is kept. -/
theorem alignList_of_isTag (isTag : IsTag source marker block) (lone : Lone marker block)
    (opens : marker.closing = false)
    (lacks : ∀ other ∈ rest, ∀ tag : Marker, tag.alignment = marker.alignment →
      ¬ HasTag tag other) :
    alignList options source (block :: rest) =
      block :: alignList options source (rest.map (passed source)) := by
  obtain ⟨text, value, whole, kind, _, leaf⟩ := lone.alone
  have unchanged : passed source block = block := by rw [passed, readClosing, isTag.readBlock]
  have below : alignList options source block.children = block.children := by
    rw [whole, alignList_of_text (Node.isText_of_kind kind) leaf]
  rw [alignList_of_kept (isTag.unclosed opens lacks).outcome, unchanged, below]
  cases block
  rfl

/-- No backslash stands in a text that holds a tag and nothing else. -/
theorem backslash_not_mem_of_standsAlone {value : Text} (stands : StandsAlone marker value) :
    '\\' ∉ value := by
  obtain ⟨blanks, blank, whole⟩ := Text.blanks_trim_blanks value
  rw [show Text.trim value = marker.tag from stands] at whole
  intro member
  rw [whole, List.mem_append, List.mem_append] at member
  have solid {text : Text} (blank : Text.isBlankText text = true) : '\\' ∉ text := fun member =>
    Bool.false_ne_true (List.all_eq_true.1 blank _ member)
  rcases member with before | inside | after
  · exact solid (Text.isBlankText_takeWhile value) before
  · exact backslash_not_mem_tag marker inside
  · exact solid blank after

/-- Settling the escapes of a text that holds a tag and nothing else at most marks it. -/
theorem Settles.alike_of_standsAlone {text other : Node} (settles : Settles text other)
    {value : Text} (kind : text.kind = .text value) (stands : StandsAlone marker value) :
    Alike [other] [text] := by
  cases settles with
  | same => exact .refl _
  | marked =>
    cases text
    rfl
  | literal marker' _ kind' =>
    rw [kind] at kind'
    cases kind'
    exact absurd (by simp) (backslash_not_mem_of_standsAlone stands)

/-- From a paragraph with an escaped tag alone in it no tag is read. -/
theorem readOpening_of_escaped {text : Node} (isParagraph : block.isParagraph = true)
    (whole : block.children = [text]) (isText : text.isText = true)
    (escaped : text.data.escaped = true ∨ escapedBefore source text = true) :
    ∃ other, Settles text other ∧
      readOpening source block = ({ block with children := [other] }, none) := by
  have unread : (readAlone source text).2 = none ∧
      (readStart source (readAlone source text).1).2 = none := by
    rcases escaped with marked | behind
    · rw [readAlone_skipsEscaped source text marked]
      exact ⟨rfl, congrArg Prod.snd (readStart_skipsEscaped source text marked)⟩
    · obtain ⟨none, behind⟩ := readAlone_of_escaped behind
      exact ⟨none, readStart_of_escaped behind⟩
  have only : readOnly source block.children = ([(readAlone source text).1], none) := by
    rw [whole, readOnly, ← unread.1]
  have isText' : (readAlone source text).1.isText = true :=
    readAlone_keepsText source text isText
  refine ⟨(readStart source (readAlone source text).1).1,
    ((readAlone_finds source).settles text).trans ((readStart_finds source).settles _), ?_⟩
  rw [readOpening, readBlock_of_beside isParagraph only, readFirst, if_pos isText', unread.2]
  rfl

/-- An escaped tag that stands alone is kept, and the siblings after it are not searched. -/
theorem alignList_of_not_isTag (lone : Lone marker block) (escaped : ¬ IsTag source marker block) :
    ∃ other, Alike [other] [block] ∧
      alignList options source (block :: rest) = other :: alignList options source rest := by
  obtain ⟨isParagraph, text, value, whole, kind, stands, leaf⟩ := lone
  have isText := Node.isText_of_kind kind
  have behind : text.data.escaped = true ∨ escapedBefore source text = true := by
    by_contra unescaped
    rw [not_or, Bool.not_eq_true, Bool.not_eq_true] at unescaped
    exact escaped ⟨isParagraph, text, whole, ⟨unescaped.1, value, kind, stands⟩, unescaped.2⟩
  obtain ⟨other, settles, opened⟩ := readOpening_of_escaped isParagraph whole isText behind
  have found : outcome source block rest = .kept { block with children := [other] } rest := by
    rw [outcome, opened]
    rfl
  have alike := settles.alike_of_standsAlone kind stands
  refine ⟨{ block with children := [other] }, ?_, ?_⟩
  · cases block
    cases whole
    simpa [Alike, unmarkList, unmark] using alike
  · rw [alignList_of_kept found,
      alignList_of_text (settles.isText.trans isText) (settles.children.trans leaf)]

/-- An opening tag alone in a paragraph, without a tag of its alignment in the blocks after it,
stays where it is, but the search for its closing tag has passed these blocks. So they become what
they become without it, up to marks for escaped tags, exactly when no turn of the pass over them is
disturbed; where the tag is escaped itself there is no search. -/
theorem alignList_unterminated (options : AlignOptions) {source : Text} {marker : Marker}
    {block : Node} {rest : List Node} (lone : Lone marker block) (opens : marker.closing = false)
    (lacks : ∀ other ∈ rest, ∀ tag : Marker, tag.alignment = marker.alignment →
      ¬ HasTag tag other) :
    (IsTag source marker block → alignList options source (block :: rest) =
        block :: alignList options source (rest.map (passed source))) ∧
      (Alike (alignList options source (block :: rest))
          (block :: alignList options source rest) ↔
        (IsTag source marker block →
          ∀ turn ∈ turns options source 0 rest, turn.Undisturbed options source)) := by
  refine ⟨fun isTag => alignList_of_isTag isTag lone opens lacks, ?_⟩
  by_cases isTag : IsTag source marker block
  · rw [alignList_of_isTag isTag lone opens lacks, alike_cons_iff, and_iff_right (Alike.refl _),
      alike_passed_iff options source 0 rest]
    exact (imp_iff_right isTag).symm
  · obtain ⟨other, alike, whole⟩ := @alignList_of_not_isTag options _ _ _ rest lone isTag
    rw [whole, alike_cons_iff]
    exact iff_of_true ⟨alike, .refl _⟩ fun same => absurd same isTag

end

/-- A source with an opening tag that is not closed, and an aligned block with an escaped closing
tag in it. -/
def unclosedSource : Text :=
  "[center]\n\n[left]x\\\\[/left]\n\ny[/left]".toList

/-- The paragraph with the opening tag, apart from its place. -/
def loneCenter : Node :=
  Node.paragraph [Node.text "[center]".toList]

/-- The two paragraphs after it. -/
def leftBlock : List Node :=
  [Node.paragraph [Node.text "[left]x\\[/left]".toList],
    Node.paragraph [Node.text "y[/left]".toList]]

/-- The paragraph is nothing but its tag. -/
theorem lone_loneCenter : Lone ⟨.center, .stacked, false⟩ loneCenter :=
  ⟨rfl, _, _, rfl, rfl, rfl, rfl⟩

/-- The tag in it is not escaped in the source. -/
theorem isTag_loneCenter : IsTag unclosedSource ⟨.center, .stacked, false⟩ loneCenter :=
  ⟨rfl, _, rfl, ⟨rfl, _, rfl, rfl⟩, rfl⟩

/-- There are no tags for centred blocks in the paragraphs after it. -/
theorem leftBlock_lacks : ∀ other ∈ leftBlock, ∀ tag : Marker, tag.alignment = .center →
    ¬ HasTag tag other := by
  intro other member tag center has
  obtain ⟨text, member', value, kind, inside⟩ := has.inside
  obtain ⟨alignment, layout, closing⟩ := tag
  cases center
  have letter : 'c' ∈ value := inside.subset (by cases layout <;> cases closing <;> decide)
  rw [leftBlock, List.mem_pair] at member
  rcases member with rfl | rfl
  · cases List.mem_singleton.1 member'
    cases kind
    exact absurd letter (by decide)
  · cases List.mem_singleton.1 member'
    cases kind
    exact absurd letter (by decide)

/-- The opening tag stays before what the pass makes of the paragraphs that were passed. -/
theorem alignList_loneCenter :
    Lone ⟨.center, .stacked, false⟩ loneCenter ∧
      (∀ other ∈ leftBlock, ∀ tag : Marker, tag.alignment = .center → ¬ HasTag tag other) ∧
        alignList {} unclosedSource (loneCenter :: leftBlock) =
          loneCenter :: alignList {} unclosedSource (leftBlock.map (passed unclosedSource)) :=
  ⟨lone_loneCenter, leftBlock_lacks,
    (alignList_unterminated {} lone_loneCenter rfl leftBlock_lacks).1 isTag_loneCenter⟩

/-- The range that the pass finds in the paragraphs on their own. -/
def leftBlockRange : Range where
  opening := ⟨⟨.left, .stacked, false⟩, false⟩
  closing := ⟨⟨.left, .stacked, true⟩, false⟩
  blocks := leftBlock.map (passed unclosedSource)

/-- On their own the paragraphs are wrapped, but not behind an opening tag of another alignment that
is not closed. -/
theorem loneCenter_unwraps :
    Lone ⟨.center, .stacked, false⟩ loneCenter ∧
      (∀ other ∈ leftBlock, ∀ tag : Marker, tag.alignment = .center → ¬ HasTag tag other) ∧
        ¬ Alike (alignList {} unclosedSource (loneCenter :: leftBlock))
          (loneCenter :: alignList {} unclosedSource leftBlock) := by
  refine ⟨lone_loneCenter, leftBlock_lacks, ?_⟩
  have searched : outcome unclosedSource loneCenter leftBlock =
      .kept loneCenter (leftBlock.map (passed unclosedSource)) :=
    rfl
  have wrapped : outcome unclosedSource
      (Node.paragraph [Node.text "[left]x\\[/left]".toList])
      [Node.paragraph [Node.text "y[/left]".toList]] = .range leftBlockRange [] :=
    rfl
  have inner : leftBlockRange.inner ≠ [] := List.cons_ne_nil _ _
  have lost : ∃ kept left, outcome unclosedSource
      (passed unclosedSource (Node.paragraph [Node.text "[left]x\\[/left]".toList]))
      [passed unclosedSource (Node.paragraph [Node.text "y[/left]".toList])] = .kept kept left ∧
        kept.isParagraph = true :=
    ⟨_, _, rfl, rfl⟩
  obtain ⟨kept, left, unread, isParagraph⟩ := lost
  rw [alignList_of_kept searched, alike_cons_iff]
  rintro ⟨_, alike⟩
  rw [leftBlock, List.map_cons, List.map_singleton, alignList_of_kept unread] at alike
  refine not_alike_of_range wrapped inner ?_ _ alike
  exact isParagraph

end Manuscript.Alignment
