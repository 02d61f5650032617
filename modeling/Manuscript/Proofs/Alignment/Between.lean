import Manuscript.Proofs.Alignment.Content
import Manuscript.Prose.Quotation

/-!
# The tags around a range

A range begins with a paragraph whose first text begins with an opening tag. It ends with one whose
last text ends with a closing tag, or with one that is nothing but a tag, which may be an opening
tag as well (`exists_site`). What a reader sees of the two paragraphs begins and ends with such tags
just when the last tag is a closing one and nothing that is seen stands before the first text and
after the last (`ranges_stand_between_tags`). An opening tag that nothing closes stays in the text.
-/

namespace Manuscript.Alignment

open Quotation (visibleText visibleTextList)

/-- What is seen of the nodes before the first text. -/
def leadText (nodes : List Node) : Text :=
  visibleTextList (nodes.takeWhile fun node => !node.isText)

/-- What is seen of the nodes after the last text. -/
def trailText (nodes : List Node) : Text :=
  visibleTextList (nodes.reverse.takeWhile fun node => !node.isText).reverse

section

variable {found : Found} {block : Node}

/-- What is seen of a paragraph is what is seen of its children. -/
theorem visibleText_of_isParagraph (isParagraph : block.isParagraph = true) :
    visibleText block = visibleTextList block.children := by
  obtain ⟨kind, children, data, span⟩ := block
  rw [Node.isParagraph, decide_eq_true_eq] at isParagraph
  cases isParagraph
  rfl

/-- What is seen around a text is seen before and after it. -/
theorem visibleTextList_around {front back : List Node} {text : Node} {value : Text}
    (kind : text.kind = .text value) :
    visibleTextList (front ++ text :: back) =
      visibleTextList front ++ (value ++ visibleTextList back) := by
  induction front with
  | nil =>
    obtain ⟨_, children, data, span⟩ := text
    cases kind
    rfl
  | cons node front ih =>
    rw [List.cons_append, visibleTextList, ih, visibleTextList, List.append_assoc]

/-- The visible text before the first text is that of the nodes there. -/
theorem leadText_append {front back : List Node} {text : Node} (textless : Textless front)
    (isText : text.isText = true) : leadText (front ++ text :: back) = visibleTextList front := by
  have others : ∀ node ∈ front, (!node.isText) = true :=
    fun node member => by rw [textless node member]; rfl
  rw [leadText, List.takeWhile_append_of_pos others, List.takeWhile_cons_of_neg (by simp [isText]),
    List.append_nil]

/-- The visible text after the last text is that of the nodes there. -/
theorem trailText_append {front back : List Node} {text : Node} (textless : Textless back)
    (isText : text.isText = true) : trailText (front ++ text :: back) = visibleTextList back := by
  have others : ∀ node ∈ back.reverse, (!node.isText) = true :=
    fun node member => by rw [textless.reverse node member]; rfl
  have backwards : (front ++ text :: back).reverse = back.reverse ++ text :: front.reverse := by
    simp
  rw [trailText, backwards, List.takeWhile_append_of_pos others,
    List.takeWhile_cons_of_neg (by simp [isText]), List.append_nil, List.reverse_reverse]

/-- What is seen of a text alone is its value, and nothing is seen before it or after it. -/
theorem visible_of_alone {text : Node} {value : Text} (kind : text.kind = .text value) :
    visibleTextList [text] = value ∧ leadText [text] = [] ∧ trailText [text] = [] := by
  have isText := Node.isText_of_kind kind
  have seen : visibleTextList ([] ++ text :: []) = [] ++ (value ++ []) :=
    visibleTextList_around kind
  have lead : leadText ([] ++ text :: []) = [] := leadText_append textless_nil isText
  have trail : trailText ([] ++ text :: []) = [] := trailText_append textless_nil isText
  rw [List.nil_append, List.append_nil] at seen
  exact ⟨seen, lead, trail⟩

/-- What is seen of a paragraph that carries an opening tag begins with one when what is seen before
its first text may stand there. -/
theorem Carries.beginsWithTag_iff (carries : Carries HoldsFirst found block)
    (opens : found.marker.closing = false) :
    BeginsWithTag found.marker.alignment (visibleText block) ↔
      MayLead found.marker.alignment (leadText block.children) := by
  rw [visibleText_of_isParagraph carries.isParagraph]
  cases alone : found.alone with
  | true =>
    obtain ⟨text, whole, holds⟩ := carries.alone alone
    obtain ⟨value, kind, stands⟩ := holds.value
    obtain ⟨seen, lead, _⟩ := visible_of_alone kind
    obtain ⟨blanks, _, split⟩ := Text.blanks_trim_blanks value
    rw [show Text.trim value = found.marker.tag from stands] at split
    have blank := Text.isBlankText_takeWhile value
    rw [whole, seen, lead, split]
    exact iff_of_true ((beginsWithTag_append_iff opens).2 (.inl blank)) (.inl rfl)
  | false =>
    obtain ⟨front, text, back, whole, textless, holds⟩ := carries.beside alone
    obtain ⟨value, kind, _, rest, rfl⟩ := holds.value
    rw [whole, visibleTextList_around kind, leadText_append textless holds.isText,
      List.append_assoc, beginsWithTag_append_iff opens]

/-- What is seen of a paragraph that carries a tag for its end ends with a closing tag when the tag
is one and what is seen after its last text may stand there. -/
theorem Carries.endsWithTag_iff (carries : Carries HoldsLast found block) :
    EndsWithTag found.marker.alignment (visibleText block) ↔
      found.marker.closing = true ∧
        MayTrail found.marker.alignment (trailText block.children) := by
  rw [visibleText_of_isParagraph carries.isParagraph]
  cases alone : found.alone with
  | true =>
    obtain ⟨text, whole, holds⟩ := carries.alone alone
    obtain ⟨value, kind, stands⟩ := holds.value
    obtain ⟨seen, _, trail⟩ := visible_of_alone kind
    rw [whole, seen, trail]
    cases closes : found.marker.closing with
    | false =>
      exact iff_of_false (not_endsWithTag_of_opening closes stands _) (fun both => nomatch both.1)
    | true =>
      obtain ⟨blanks, blank, split⟩ := Text.blanks_trim_blanks value
      rw [show Text.trim value = found.marker.tag from stands, ← List.append_assoc] at split
      rw [split]
      exact iff_of_true ((endsWithTag_append_iff closes).2 (.inl blank)) ⟨rfl, .inl rfl⟩
  | false =>
    obtain ⟨front, text, back, whole, textless, holds⟩ := carries.beside alone
    obtain ⟨value, kind, closes, rest, rfl⟩ := holds.value
    rw [whole, visibleTextList_around kind, trailText_append textless holds.isText,
      ← List.append_assoc, ← List.append_assoc, endsWithTag_append_iff closes, closes]
    exact (and_iff_right rfl).symm

end

/-- Siblings in a tree that the pass took for a range, of which the first carries the opening tag
and the last the tag that closes it. -/
structure Site (tree : Node) (range : Range) (blocks : List Node) (first last : Node) : Prop where
  /-- They stand one after the other below a node of the tree. -/
  siblings : ∃ parent ∈ tree.nodes, ∃ before after, parent.children = before ++ (blocks ++ after)
  /-- Their escapes have been settled. -/
  met : List.Forall₂ Met blocks range.blocks
  /-- The first of them. -/
  begins : blocks.head? = some first
  /-- The last of them. -/
  ends : blocks.getLast? = some last
  /-- The first carries the opening tag. -/
  opens : Carries HoldsFirst range.opening first
  /-- That is an opening tag. -/
  isOpening : range.opening.marker.closing = false
  /-- The last carries the other tag. -/
  closes : Carries HoldsLast range.closing last
  /-- The tags name the same alignment. -/
  aligned : range.closing.marker.alignment = range.opening.marker.alignment

section

variable {source : Text} {tree : Node}

/-- Where a range is found at siblings of a tree, it has a site. -/
theorem site_of_range {block parent : Node} {rest after before taken others : List Node}
    {range : Range} (found : outcome source block rest = .range range after)
    (from' : range.TakenFrom taken) (member : parent ∈ tree.nodes)
    (place : parent.children = before ++ (taken ++ others)) :
    ∃ first last, Site tree range taken first last := by
  obtain ⟨isOpening, aligned⟩ := tags_of_range found
  have siblings : ∃ parent ∈ tree.nodes, ∃ before after,
      parent.children = before ++ (taken ++ after) :=
    ⟨parent, member, before, others, place⟩
  cases from' with
  | @one only block met opens closes beside beside' blocks =>
    exact ⟨only, only, {
      siblings, isOpening, aligned
      met := blocks ▸ .cons met .nil
      begins := rfl
      ends := rfl
      opens := opens.of_met met holdsFirst_stays
      closes := closes.of_met met holdsLast_stays }⟩
  | @several first first' last last' between between' opens met amid met' closes blocks =>
    have ends : (first :: between ++ [last]).getLast? = some last := List.getLast?_concat
    exact ⟨first, last, {
      siblings, isOpening, aligned, opens, ends
      met := blocks ▸ .cons met (List.rel_append amid (.cons met' .nil))
      begins := rfl
      closes := closes.of_met met' holdsLast_stays }⟩

/-- Every range that is found among siblings of a tree and below them has a site. -/
theorem exists_site {nodes originals : List Node} (met : List.Forall₂ Met originals nodes)
    (place : ∃ parent ∈ tree.nodes, ∃ before, parent.children = before ++ originals) :
    ∀ range ∈ ranges source nodes, ∃ blocks first last, Site tree range blocks first last := by
  induction nodes using visit.induct source generalizing originals with
  | case1 =>
    rw [ranges, visit]
    exact fun _ none => absurd none List.not_mem_nil
  | case2 block rest range after found later =>
    obtain ⟨parent, member, before, whole⟩ := place
    obtain ⟨taken, others, rfl, from', metOthers⟩ := taken_of_range found met
    obtain ⟨first, last, site⟩ := site_of_range found from' member whole
    rw [← range.skipped_append_remaining after] at metOthers
    obtain ⟨skipped, remaining, rfl, _, metRemaining⟩ := split_forall₂ metOthers
    have place' : parent.children = before ++ taken ++ skipped ++ remaining := by
      rw [whole, List.append_assoc, List.append_assoc]
    rw [ranges_of_range found]
    exact List.forall_mem_cons.2 ⟨⟨taken, first, last, site⟩,
      later metRemaining ⟨parent, member, _, place'⟩⟩
  | case3 block rest kept left found below later =>
    obtain ⟨parent, member, before, whole⟩ := place
    obtain ⟨metBlock, metLeft⟩ := outcome_kept found
    cases met with
    | @cons original _ others _ own metRest =>
      have inTree : original ∈ tree.nodes := Node.children_subset.1 _ _ member (by simp [whole])
      have place' : parent.children = before ++ [original] ++ others := by
        rw [whole, List.append_assoc, List.singleton_append]
      rw [ranges_of_kept found]
      have inside := below (own.trans metBlock).children ⟨original, inTree, [], rfl⟩
      have beside := later (forall₂_trans metRest metLeft Met.trans) ⟨parent, member, _, place'⟩
      exact List.forall_mem_append.2 ⟨inside, beside⟩

/-- The pass comes to a block that begins with an opening tag, and neither the block nor one after
it closes the tag. -/
structure Unclosed (source : Text) (opening : Found) (block : Node) (rest : List Node) : Prop where
  /-- The block is read as an opening. -/
  opens : (readOpening source block).2 = some opening
  /-- It is an opening tag that is read. -/
  isOpening : opening.marker.closing = false
  /-- What is read from the end of a block does not close the tag. -/
  unmatched : ∀ before other after, block :: rest = before ++ other :: after →
    ∀ found, (readClosing source other).2 = some found → closes opening before.isEmpty found = false

/-- A block begins with a tag in its first text, apart from blanks. -/
def KeepsTag (marker : Marker) (block : Node) : Prop :=
  ∃ front text back value, block.children = front ++ text :: back ∧ Textless front ∧
    text.kind = .text value ∧ marker.tag <+: Text.trimStart value

/-- A tag that stands alone is read from either end of its block. -/
theorem readClosing_of_alone {opening : Found} {block : Node}
    (opens : (readOpening source block).2 = some opening) (alone : opening.alone = true) :
    (readClosing source block).2 = some opening := by
  rw [readOpening, readBlock] at opens
  rw [readClosing, readBlock]
  split at opens
  · rename_i isParagraph
    rw [if_pos isParagraph]
    split at opens
    · exact opens
    · obtain ⟨_, _, rfl⟩ := Option.map_eq_some_iff.1 opens
      cases alone
  · cases opens

/-- A block with an opening tag keeps it when the search for a closing tag has passed it. -/
theorem keepsTag_passed {opening : Found} {block : Node}
    (opens : (readOpening source block).2 = some opening) :
    KeepsTag opening.marker (passed source block) := by
  have carries := (readOpening_found opens).2
  cases alone : opening.alone with
  | true =>
    rw [(readClosing_found (readClosing_of_alone opens alone)).1]
    obtain ⟨text, whole, holds⟩ := carries.alone alone
    obtain ⟨value, kind, stands⟩ := holds.value
    refine ⟨[], text, [], value, whole, textless_nil, kind, ?_⟩
    obtain ⟨blanks, _, split⟩ := Text.trimEnd_blanks (Text.trimStart value)
    rw [show Text.trimEnd (Text.trimStart value) = opening.marker.tag from stands] at split
    exact ⟨blanks, split.symm⟩
  | false =>
    obtain ⟨front, text, back, whole, textless, holds⟩ := carries.beside alone
    obtain ⟨value, kind, _, rest, rfl⟩ := holds.value
    obtain ⟨_, settles⟩ := (passed_met source block).eq_of_isParagraph carries.isParagraph
    rw [whole] at settles
    obtain ⟨front', text', back', whole', before, own, _⟩ := settles.split
    obtain ⟨rest', kind', _⟩ := own.after_tag kind
    refine ⟨front', text', back', _, whole', before.textless_iff.1 textless, kind', ?_⟩
    rw [trimStart_tag]
    exact List.prefix_append _ _

/-- When nothing closes an opening tag, its block and those after it stay where they are. -/
theorem Unclosed.outcome {opening : Found} {block : Node} {rest : List Node}
    (unclosed : Unclosed source opening block rest) :
    Alignment.outcome source block rest =
      .kept (passed source block) (rest.map (passed source)) := by
  have opened : (readOpening source block).2.filter (!·.marker.closing) = some opening := by
    rw [unclosed.opens, Option.filter_some, unclosed.isOpening]
    rfl
  have none : findClosing? source opening true (block :: rest) = none := by
    rw [Option.eq_none_iff_forall_ne_some]
    rintro ⟨blocks, closing, after⟩ found
    obtain ⟨front, other, whole, _, closed⟩ := findClosing?_eq_some_iff.1 found
    have unable := unclosed.unmatched front other after whole closing closed.reads
    have closes := closed.closes
    rw [Bool.true_and, unable] at closes
    cases closes
  rw [Alignment.outcome, (readOpening_found unclosed.opens).1, opened]
  simp only [none]

/-- The pass wraps what is left of the ranges that it finds, and nothing else. Every range stands in
the tree between a block with an opening tag and one with a tag of the same alignment that closes
it. These are what a reader sees at its ends just when the last tag is a closing tag, nothing that
is seen stands before the first text and nothing after the last (or what stands there begins or ends
with such a tag itself). An opening tag that nothing closes wraps nothing and stays at the start of
its block. -/
theorem ranges_stand_between_tags (options : AlignOptions) (source : Text) (tree : Node) :
    alignDocument options source tree =
        { tree with
          children := rebuild (fun range => if range.inner.isEmpty then [] else
            [Node.container "div".toList (classes options range.opening range.closing) range.inner])
            source tree.children } ∧
    (∀ range ∈ ranges source tree.children, ∃ blocks first last, Site tree range blocks first last ∧
      (BeginsWithTag range.opening.marker.alignment (visibleText first) ∧
          EndsWithTag range.opening.marker.alignment (visibleText last) ↔
        MayLead range.opening.marker.alignment (leadText first.children) ∧
          range.closing.marker.closing = true ∧
            MayTrail range.opening.marker.alignment (trailText last.children))) ∧
    ∀ opening block rest, Unclosed source opening block rest →
      alignList options source (block :: rest) =
          { passed source block with
            children := alignList options source (passed source block).children } ::
            alignList options source (rest.map (passed source)) ∧
        KeepsTag opening.marker (passed source block) := by
  refine ⟨alignDocument_eq_rebuild options source tree, ?_, ?_⟩
  · intro range member
    have met : List.Forall₂ Met tree.children tree.children :=
      List.forall₂_same.2 fun node _ => .refl node
    have root : tree ∈ tree.nodes := by
      rw [Node.nodes_eq]
      exact List.mem_cons_self
    obtain ⟨blocks, first, last, site⟩ := exists_site met ⟨tree, root, [], rfl⟩ range member
    refine ⟨blocks, first, last, site, and_congr (site.opens.beginsWithTag_iff site.isOpening) ?_⟩
    rw [← site.aligned]
    exact site.closes.endsWithTag_iff
  · intro opening block rest unclosed
    exact ⟨alignList_of_kept unclosed.outcome, keepsTag_passed unclosed.opens⟩

end

/-- The paragraph in a centred document stands between tags that are seen, and without the closing
tag the opening tag stays. -/
theorem centered_stands_between_tags :
    (∃ blocks first last, Site (centered []) (centeredRange []) blocks first last ∧
      BeginsWithTag .center (visibleText first) ∧ EndsWithTag .center (visibleText last)) ∧
    ∃ opening : Found, Unclosed [] opening (Node.paragraph [Node.text "[center]".toList])
        [Node.paragraph [Node.text "x".toList]] ∧
      KeepsTag opening.marker (passed [] (Node.paragraph [Node.text "[center]".toList])) := by
  obtain ⟨_, between, stays⟩ := ranges_stand_between_tags {} [] (centered [])
  constructor
  · have member : centeredRange [] ∈ ranges [] (centered []).children := by
      rw [centered, ranges_of_range (outcome_centered [])]
      exact List.mem_cons_self
    obtain ⟨blocks, first, last, site, seen⟩ := between _ member
    obtain ⟨text, whole, holds⟩ := site.opens.alone rfl
    obtain ⟨text', whole', holds'⟩ := site.closes.alone rfl
    obtain ⟨value, kind, _⟩ := holds.value
    obtain ⟨value', kind', _⟩ := holds'.value
    rw [whole, whole', (visible_of_alone kind).2.1, (visible_of_alone kind').2.2] at seen
    exact ⟨blocks, first, last, site, seen.2 ⟨.inl rfl, rfl, .inl rfl⟩⟩
  · have unclosed : Unclosed [] ⟨⟨.center, .stacked, false⟩, true⟩
        (Node.paragraph [Node.text "[center]".toList]) [Node.paragraph [Node.text "x".toList]] := by
      refine ⟨rfl, rfl, fun before other after split found reads => ?_⟩
      cases before with
      | nil =>
        cases split
        cases reads
        rfl
      | cons node before =>
        cases before with
        | nil =>
          cases split
          cases reads
        | cons _ before =>
          have size := congrArg List.length split
          simp at size
    exact ⟨_, unclosed, (stays _ _ _ unclosed).2⟩

/-- A source in which an opening tag stands where a closing tag should. -/
def reopenedSource : Text :=
  "[center]\n\nx\n\n[center]".toList

/-- What is read from it, apart from the places. -/
def reopened : Node where
  kind := .root
  children := [Node.paragraph [Node.text "[center]".toList], Node.paragraph [Node.text "x".toList],
    Node.paragraph [Node.text "[center]".toList]]

/-- The range that the pass finds in it. -/
def reopenedRange : Range where
  opening := ⟨⟨.center, .stacked, false⟩, true⟩
  closing := ⟨⟨.center, .stacked, false⟩, true⟩
  blocks := reopened.children

/-- The paragraph between two opening tags is wrapped, though none ends with a closing tag. -/
theorem reopened_is_wrapped :
    alignDocument {} reopenedSource reopened =
        { kind := .root
          children := [Node.container "div".toList ["flex".toList, "flex-col".toList,
            "items-center".toList] [Node.paragraph [Node.text "x".toList]]] } ∧
      ∀ block ∈ reopened.children, ∀ alignment, ¬ EndsWithTag alignment (visibleText block) := by
  have found : outcome reopenedSource (Node.paragraph [Node.text "[center]".toList])
      [Node.paragraph [Node.text "x".toList], Node.paragraph [Node.text "[center]".toList]] =
        .range reopenedRange [] :=
    rfl
  constructor
  · rw [alignDocument, reopened, alignList_of_range found,
      show reopenedRange.remaining [] = [] from rfl, alignList]
    rfl
  · intro block member alignment
    have opening : ¬ EndsWithTag alignment "[center]".toList := by
      have stands : StandsAlone ⟨.center, .stacked, false⟩ "[center]".toList := rfl
      exact not_endsWithTag_of_opening rfl stands alignment
    have content : ¬ EndsWithTag alignment "x".toList := by
      rintro ⟨layout, ends⟩
      revert ends
      cases alignment <;> cases layout <;> decide
    rw [reopened, List.mem_cons, List.mem_cons, List.mem_singleton] at member
    obtain rfl | rfl | rfl := member
    · exact opening
    · exact content
    · exact opening

end Manuscript.Alignment
