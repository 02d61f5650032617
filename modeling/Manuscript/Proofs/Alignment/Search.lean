import Manuscript.Proofs.Alignment.Between

/-!
# What a search for a closing tag leaves behind

The search for a closing tag settles the escapes of the blocks that it passes, whether it finds a
tag or not. Searching them once more changes nothing and finds the same (`readClosing_passed`,
`findClosing?_map_passed`). An opening tag is read from a passed block as before, unless its text is
now marked as escaped (`readOpening_passed`). So the pass finds at a passed block what it would have
found there (`outcome_passed_of_kept`, `outcome_passed_of_range`), or the opening tag is lost
(`outcome_passed_of_lost`).
-/

namespace Manuscript.Alignment

/-- Nothing is read from a text that is marked as escaped. -/
def SkipsEscaped (read : Node → Node × Option Marker) : Prop :=
  ∀ node, node.data.escaped = true → read node = (node, none)

/-- An escaped text is not read for a tag that stands alone. -/
theorem readAlone_skipsEscaped (source : Text) : SkipsEscaped (readAlone source) := by
  intro node escaped
  unfold readAlone
  dsimp only
  split
  · exact if_pos escaped
  · rfl

/-- An escaped text is not read for a tag at its start. -/
theorem readStart_skipsEscaped (source : Text) : SkipsEscaped (readStart source) := by
  intro node escaped
  unfold readStart
  split
  · exact if_pos escaped
  · rfl

/-- An escaped text is not read for a tag at its end. -/
theorem readEnd_skipsEscaped (source : Text) : SkipsEscaped (readEnd source) := by
  intro node escaped
  unfold readEnd
  split
  · exact if_pos escaped
  · rfl

/-- A text stays as it is when its escapes are settled, or it is marked. -/
theorem Settles.eq_or_escaped {node other : Node} (settles : Settles node other) :
    other = node ∨ other.data.escaped = true := by
  cases settles with
  | same => exact .inl rfl
  | marked => exact .inr rfl
  | literal => exact .inr rfl

section

variable {source : Text} {read : Node → Node × Option Marker} {stands : Marker → Text → Prop}

/-- Reading a text twice is reading it once. -/
theorem Finds.again (finds : Finds read stands) (skips : SkipsEscaped read) (node : Node) :
    read (read node).1 = read node := by
  rcases (finds.settles node).eq_or_escaped with same | escaped
  · rw [same]
  · rw [skips _ escaped]
    cases found : (read node).2 with
    | none => rw [← found]
    | some marker =>
      obtain ⟨same, plain, _⟩ := finds.found found
      rw [same, plain] at escaped
      cases escaped

/-- Reading the first text twice is reading it once. -/
theorem readFirst_again (finds : Finds read stands) (skips : SkipsEscaped read)
    (nodes : List Node) : readFirst read (readFirst read nodes).1 = readFirst read nodes := by
  induction nodes with
  | nil => rfl
  | cons node rest ih =>
    by_cases isText : node.isText = true
    · have isText' : (read node).1.isText = true := (finds.settles node).isText.trans isText
      rw [readFirst, if_pos isText, readFirst, if_pos isText', finds.again skips]
    · rw [readFirst, if_neg isText, readFirst, if_neg isText, ih]

/-- Reading the last text twice is reading it once. -/
theorem readLast_again (finds : Finds read stands) (skips : SkipsEscaped read)
    (nodes : List Node) : readLast read (readLast read nodes).1 = readLast read nodes := by
  have again := readFirst_again finds skips nodes.reverse
  rw [readLast, readLast]
  dsimp only
  rw [List.reverse_reverse, again]

/-- Reading the only text twice is reading it once. -/
theorem readOnly_again (nodes : List Node) :
    readOnly source (readOnly source nodes).1 = readOnly source nodes := by
  by_cases single : nodes.length = 1
  · obtain ⟨node, rfl⟩ := List.length_eq_one_iff.1 single
    rw [readOnly, readOnly, (readAlone_finds source).again (readAlone_skipsEscaped source)]
  · rw [readOnly_of_length single, readOnly_of_length single]

/-- Where no tag stands alone, none does after the escapes are settled. -/
theorem readOnly_of_settles {nodes others : List Node} (settles : SettlesList nodes others)
    (unread : readOnly source nodes = (nodes, none)) :
    readOnly source others = (others, none) := by
  unfold readOnly at unread ⊢
  split
  · rename_i other
    obtain ⟨node, rfl, own⟩ := forall₂_singleton settles
    rcases own.eq_or_escaped with rfl | escaped
    · exact unread
    · rw [readAlone_skipsEscaped source other escaped]
  · rfl

end

section

variable {source : Text} {block : Node}

/-- A paragraph in which a tag stands alone is read as that tag from either end. -/
theorem readBlock_of_alone {children : List Node} {marker : Marker}
    (isParagraph : block.isParagraph = true)
    (only : readOnly source block.children = (children, some marker))
    (read : List Node → List Node × Option Marker) :
    readBlock source read block = (block, some ⟨marker, true⟩) := by
  obtain ⟨same, _⟩ := readOnly_findsIn source (congrArg Prod.snd only)
  rw [only] at same
  cases same
  rw [readBlock, if_pos isParagraph, only]
  cases block
  rfl

/-- A paragraph in which no tag stands alone is read from the end that `read` looks at. -/
theorem readBlock_of_beside {children : List Node} (isParagraph : block.isParagraph = true)
    (only : readOnly source block.children = (children, none))
    (read : List Node → List Node × Option Marker) :
    readBlock source read block =
      ({ block with children := (read children).1 }, (read children).2.map (⟨·, false⟩)) := by
  rw [readBlock, if_pos isParagraph, only]

/-- Such a paragraph is not read as a tag that stands alone when it is read for another time. -/
theorem reread_of_beside {children : List Node} (isParagraph : block.isParagraph = true)
    (only : readOnly source block.children = (children, none))
    {read : List Node → List Node × Option Marker}
    (settles : ∀ nodes, SettlesList nodes (read nodes).1)
    (reread : List Node → List Node × Option Marker) :
    readBlock source reread { block with children := (read children).1 } =
      ({ block with children := (reread (read children).1).1 },
        (reread (read children).1).2.map (⟨·, false⟩)) := by
  have again := @readOnly_again source block.children
  rw [only] at again
  exact @readBlock_of_beside source { block with children := (read children).1 } _ isParagraph
    (readOnly_of_settles (settles children) again) reread

/-- Reading a block twice is reading it once. -/
theorem readBlock_again {read : List Node → List Node × Option Marker}
    (settles : ∀ nodes, SettlesList nodes (read nodes).1)
    (again : ∀ nodes, read (read nodes).1 = read nodes) (block : Node) :
    readBlock source read (readBlock source read block).1 = readBlock source read block := by
  cases isParagraph : block.isParagraph with
  | false => rw [readBlock_of_not_paragraph isParagraph, readBlock_of_not_paragraph isParagraph]
  | true =>
    cases only : readOnly source block.children with
    | mk children found =>
      cases found with
      | some marker =>
        rw [readBlock_of_alone isParagraph only, readBlock_of_alone isParagraph only]
      | none =>
        rw [readBlock_of_beside isParagraph only, reread_of_beside isParagraph only settles, again]

/-- A block that a search has passed is read from its end as before. -/
theorem readClosing_passed (source : Text) (block : Node) :
    readClosing source (passed source block) = readClosing source block :=
  readBlock_again (readLast_settles (readEnd_finds source))
    (readLast_again (readEnd_finds source) (readEnd_skipsEscaped source)) block

/-- Passing a block twice is passing it once. -/
theorem passed_passed (source : Text) (block : Node) :
    passed source (passed source block) = passed source block :=
  congrArg Prod.fst (readClosing_passed source block)

/-- Passing over siblings again changes nothing more. -/
theorem map_passed_passed (source : Text) (nodes : List Node) :
    (nodes.map (passed source)).map (passed source) = nodes.map (passed source) := by
  rw [List.map_map]
  exact List.map_congr_left fun node _ => passed_passed source node

/-- A search among blocks that were passed finds what it would have found among them. -/
theorem findClosing?_map_passed (source : Text) (opening : Found) (sameBlock : Bool)
    (nodes : List Node) :
    findClosing? source opening sameBlock (nodes.map (passed source)) =
      (findClosing? source opening sameBlock nodes).map fun (blocks, closing, after) =>
        (blocks, closing, after.map (passed source)) := by
  induction nodes generalizing sameBlock with
  | nil => rfl
  | cons node rest ih =>
    rw [List.map_cons, findClosing?, findClosing?, readClosing_passed, passed_passed, ih]
    cases (readClosing source node).2.filter (closes opening sameBlock) with
    | some closing => rfl
    | none => cases findClosing? source opening false rest <;> rfl

/-- From texts whose escapes were settled an opening tag is read as before, or it is not read any
more and they stay as they are. -/
theorem readFirst_of_settles {read : Node → Node × Option Marker} (skips : SkipsEscaped read)
    {nodes others : List Node} (settles : SettlesList nodes others) :
    (readFirst read others).2 = (readFirst read nodes).2 ∨
      readFirst read others = (others, none) := by
  induction settles with
  | nil => exact .inl rfl
  | @cons node other rest rest' own later ih =>
    by_cases isText : node.isText = true
    · have isText' : other.isText = true := own.isText.trans isText
      rw [readFirst, readFirst, if_pos isText, if_pos isText']
      rcases own.eq_or_escaped with rfl | escaped
      · exact .inl rfl
      · rw [skips other escaped]
        exact .inr rfl
    · have other' : ¬ other.isText = true := by rwa [own.isText]
      rw [readFirst, readFirst, if_neg isText, if_neg other']
      refine ih.imp id fun same => ?_
      rw [same]

/-- From a block that was passed an opening tag is read as before, or it is not read any more and
the block stays as it is. -/
theorem readOpening_passed (source : Text) (block : Node) :
    (readOpening source (passed source block)).2 = (readOpening source block).2 ∨
      readOpening source (passed source block) = (passed source block, none) := by
  cases isParagraph : block.isParagraph with
  | false =>
    rw [passed, readClosing, readBlock_of_not_paragraph isParagraph]
    exact .inl rfl
  | true =>
    cases only : readOnly source block.children with
    | mk children found =>
      cases found with
      | some marker =>
        rw [passed, readClosing, readBlock_of_alone isParagraph only]
        exact .inl rfl
      | none =>
        have settles := readLast_settles (readEnd_finds source)
        rw [passed, readClosing, readBlock_of_beside isParagraph only, readOpening, readOpening,
          readBlock_of_beside isParagraph only, reread_of_beside isParagraph only settles]
        rcases readFirst_of_settles (readStart_skipsEscaped source) (settles children) with
          same | lost
        · rw [same]
          exact .inl rfl
        · rw [lost]
          exact .inr rfl

end

section

variable {source : Text} {block kept : Node} {rest left after : List Node} {range : Range}

/-- Where a block is kept, it is kept after a search has passed the siblings, as it is then read
from its start. -/
theorem outcome_passed_of_kept (found : outcome source block rest = .kept kept left) :
    outcome source (passed source block) (rest.map (passed source)) =
      .kept (readOpening source (passed source block)).1 (left.map (passed source)) := by
  unfold outcome at found ⊢
  dsimp only at found ⊢
  split at found
  · rename_i opens
    cases found
    have opens' :
        (readOpening source (passed source block)).2.filter (!·.marker.closing) = none := by
      rcases readOpening_passed source block with same | lost
      · rw [same, opens]
      · rw [lost]
        rfl
    rw [opens']
  · rename_i opening opens
    split at found
    · cases found
    · rename_i unfound
      cases found
      obtain ⟨reads, _⟩ := Option.filter_eq_some_iff.1 opens
      rw [(readOpening_found reads).1] at unfound
      rcases readOpening_passed source block with same | lost
      · rw [same, opens]
        rw [reads] at same
        dsimp only
        rw [(readOpening_found same).1, ← List.map_cons, findClosing?_map_passed, unfound]
        rw [passed_passed]
        rfl
      · rw [lost, map_passed_passed]
        rfl

/-- Where a range begins, it begins after a search has passed the siblings, if its opening tag is
still read. -/
theorem outcome_passed_of_range (found : outcome source block rest = .range range after)
    (same : (readOpening source (passed source block)).2 = (readOpening source block).2) :
    outcome source (passed source block) (rest.map (passed source)) =
      .range range (after.map (passed source)) := by
  unfold outcome at found ⊢
  dsimp only at found ⊢
  split at found
  · cases found
  · rename_i opening opens
    split at found
    · rename_i blocks closing left closed
      cases found
      obtain ⟨reads, _⟩ := Option.filter_eq_some_iff.1 opens
      rw [(readOpening_found reads).1] at closed
      rw [same, opens]
      rw [reads] at same
      dsimp only
      rw [(readOpening_found same).1, ← List.map_cons, findClosing?_map_passed, closed]
      rfl
    · cases found

/-- A text that changes when it is read from its end has a closing tag there. -/
theorem closing_of_readEnd_ne {text : Node} (changed : (readEnd source text).1 ≠ text) :
    ∃ (value : Text) (marker : Marker), (readEnd source text).1.kind = .text value ∧
      marker.closing = true ∧ marker.tag <:+ value := by
  unfold readEnd at changed ⊢
  split at changed
  · rename_i value kind
    split at changed
    · exact absurd rfl changed
    · rename_i plain
      rw [if_neg plain]
      split at changed
      · rename_i literal behind
        obtain ⟨marker, member, ends⟩ := List.exists_of_findSome?_eq_some behind
        obtain ⟨front, _, rfl⟩ := Option.map_eq_some_iff.1 ends
        exact ⟨_, marker, rfl, closing_of_mem_closings marker member, List.suffix_append _ _⟩
      · split at changed
        · exact absurd rfl changed
        · rename_i marker found
          have ends := List.find?_some
            (p := fun marker : Marker => Text.endsWith marker.tag value) found
          have closes := closing_of_mem_closings marker (List.mem_of_find?_eq_some found)
          split at changed
          · rename_i escaped
            rw [if_pos escaped]
            exact ⟨value, marker, kind, closes, List.isSuffixOf_iff_suffix.1 ends⟩
          · exact absurd rfl changed
  · exact absurd rfl changed

/-- A list of nodes with a text has a last one. -/
theorem exists_last_of_not_textless {nodes : List Node} (texts : ¬ Textless nodes) :
    ∃ front text back, nodes = front ++ text :: back ∧ Textless back ∧ text.isText = true := by
  obtain ⟨ends, clear, shape⟩ := exists_shape nodes
  cases shape with
  | none textless => exact absurd textless texts
  | one before after isText => exact ⟨_, _, _, rfl, after, isText⟩
  | @two front middle back first last before after isText isText' =>
    exact ⟨front ++ first :: middle, last, back, by simp, after, isText'⟩

/-- When an opening tag at the start of nodes is not read any more after they have been read from
their end, their first text is the last one as well and has a closing tag at its end. -/
theorem closing_of_readFirst_lost {nodes : List Node} {marker : Marker}
    (first : (readFirst (readStart source) nodes).2 = some marker)
    (lost : (readFirst (readStart source) (readLast (readEnd source) nodes).1).2 ≠ some marker) :
    ∃ (front : List Node) (text : Node) (back : List Node) (between : Text) (closing : Marker),
      (readLast (readEnd source) nodes).1 = front ++ text :: back ∧ Textless front ∧
        text.kind = .text (marker.tag ++ (between ++ closing.tag)) := by
  obtain ⟨_, front, text, back, rfl, textless, holds⟩ :=
    exists_of_readFirst (readStart_finds source) first
  obtain ⟨_, kind, opens, rest, rfl⟩ := holds.value
  by_cases later : Textless back
  · rw [readLast_append later holds.isText] at lost ⊢
    have changed : (readEnd source text).1 ≠ text := by
      intro same
      rw [same] at lost
      exact lost first
    obtain ⟨value, closing, kind', closes, ends⟩ := closing_of_readEnd_ne changed
    obtain ⟨rest', kind'', _⟩ := ((readEnd_finds source).settles text).after_tag kind
    rw [kind'] at kind''
    cases kind''
    obtain ⟨between, whole⟩ := exists_between_tags opens closes (List.prefix_append _ _) ends
    rw [whole] at kind'
    exact ⟨front, _, back, between, closing, rfl, textless, kind'⟩
  · -- The last text is another one, and the first is read as before.
    obtain ⟨middle, last, back, rfl, after, isText⟩ := exists_last_of_not_textless later
    have regroup (last : Node) : front ++ text :: (middle ++ last :: back) =
        (front ++ text :: middle) ++ last :: back := by simp
    rw [regroup, readLast_append after isText, ← regroup,
      readFirst_append textless holds.isText] at lost
    rw [readFirst_append textless holds.isText] at first
    exact absurd first lost

/-- So it is with an opening tag at the start of a paragraph that a search has passed. -/
theorem closing_of_lost {opening : Found} (reads : (readOpening source block).2 = some opening)
    (lost : (readOpening source (passed source block)).2 ≠ (readOpening source block).2) :
    opening.alone = false ∧
      ∃ (front : List Node) (text : Node) (back : List Node) (between : Text) (closing : Marker),
        (passed source block).children = front ++ text :: back ∧ Textless front ∧
          text.kind = .text (opening.marker.tag ++ (between ++ closing.tag)) := by
  have isParagraph := (readOpening_found reads).2.isParagraph
  have settles := readLast_settles (readEnd_finds source)
  cases only : readOnly source block.children with
  | mk children found =>
    cases found with
    | some marker =>
      rw [passed, readClosing, readBlock_of_alone isParagraph only] at lost
      exact absurd rfl lost
    | none =>
      rw [passed, readClosing, readBlock_of_beside isParagraph only, readOpening, readOpening,
        readBlock_of_beside isParagraph only, reread_of_beside isParagraph only settles] at lost
      rw [readOpening, readBlock_of_beside isParagraph only] at reads
      obtain ⟨marker, first, rfl⟩ := Option.map_eq_some_iff.1 reads
      rw [passed, readClosing, readBlock_of_beside isParagraph only]
      exact ⟨rfl, closing_of_readFirst_lost first fun same => lost (by rw [same, first])⟩

/-- Where a range begins with an opening tag that is not read any more after a search has passed the
siblings, the block is kept then, and the range has something left without its tags. -/
theorem outcome_passed_of_lost (found : outcome source block rest = .range range after)
    (lost : (readOpening source (passed source block)).2 ≠ (readOpening source block).2) :
    outcome source (passed source block) (rest.map (passed source)) =
        .kept (passed source block) (rest.map (passed source)) ∧
      range.inner ≠ [] := by
  constructor
  · rw [outcome, ((readOpening_passed source block).resolve_left lost)]
    rfl
  · obtain ⟨front, last, whole, encloses, blocks⟩ := outcome_range found
    obtain ⟨beside, ahead, text, back, between, closing, children, textless, kind⟩ :=
      closing_of_lost encloses.opens lost
    cases front with
    | nil =>
      -- The block would close its own tag, and so be left as it is by the search.
      cases whole
      rw [(readClosing_found encloses.closed.reads).1] at lost
      exact absurd rfl lost
    | cons first middle =>
      cases whole
      have left : isBlankParagraph { passed source block with
          children := stripStart range.opening.marker.tag (passed source block).children } =
          false := by
        refine Bool.and_eq_false_imp.2 fun _ => ?_
        rw [children, stripStart_append _ textless (Node.isText_of_kind kind),
          stripText_of_kind kind, unlessEmpty_of_tag]
        exact @not_isBlankList_of_tag _ (text.withText (between ++ closing.tag)) closing between []
          (by simp) (by rw [List.append_nil]; rfl)
      rw [Range.inner, blocks, List.map_cons, List.cons_append, dropBoth_append,
        dropOpening_singleton, beside, if_neg Bool.false_ne_true, unlessBlank, left,
        if_neg Bool.false_ne_true]
      exact List.cons_ne_nil _ _

end

end Manuscript.Alignment
