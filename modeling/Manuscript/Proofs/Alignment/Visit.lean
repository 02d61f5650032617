import Manuscript.Proofs.Alignment.Found

/-!
# The ranges of aligned blocks

The pass over aligned blocks finds ranges of siblings between tags and leaves the other siblings
where they are. `visit` is this walk, with what is made of a range and of the other siblings left
open: the pass itself puts what is left of a range into a wrapper (`alignList_eq_rebuild`), and the
same walk gives the siblings with the wrappers dissolved (`dissolve`), the ranges (`ranges`) and
their tags (`tags`).
-/

namespace Manuscript.Alignment

/-- A block, unless it is a blank paragraph. -/
def unlessBlank (block : Node) : List Node :=
  if isBlankParagraph block then [] else [block]

/-- Only the first block is changed or removed for an opening tag. -/
theorem dropOpening_append (opening : Found) (block : Node) (rest : List Node) :
    dropOpening opening (block :: rest) = dropOpening opening [block] ++ rest := by
  simp only [dropOpening]
  split
  · rfl
  · split <;> rfl

/-- The first block goes if the opening tag is alone in it, or if it is blank without the tag. -/
theorem dropOpening_singleton (opening : Found) (block : Node) :
    dropOpening opening [block] = if opening.alone then [] else
      unlessBlank { block with children := stripStart opening.marker.tag block.children } := rfl

/-- Only the last block is changed or removed for a closing tag. -/
theorem dropClosing_append (closing : Found) (front : List Node) (last : Node) :
    dropClosing closing (front ++ [last]) = front ++ dropClosing closing [last] := by
  simp only [dropClosing, List.getLast?_concat, List.dropLast_concat, List.getLast?_singleton,
    List.dropLast_singleton]
  split
  · rw [List.append_nil]
  · split
    · rw [List.append_nil]
    · rfl

/-- The last block goes if the closing tag is alone in it, or if it is blank without the tag. -/
theorem dropClosing_singleton (closing : Found) (block : Node) :
    dropClosing closing [block] = if closing.alone then [] else
      unlessBlank { block with children := stripEnd closing.marker.tag block.children } := rfl

/-- Only the first and the last block are changed or removed for the tags of a range. -/
theorem dropBoth_append (opening closing : Found) (first : Node) (between : List Node)
    (last : Node) :
    dropClosing closing (dropOpening opening (first :: (between ++ [last]))) =
      dropOpening opening [first] ++ between ++ dropClosing closing [last] := by
  rw [dropOpening_append, ← List.append_assoc, dropClosing_append]

/-- Blocks that the pass takes from among their siblings. -/
structure Range where
  /-- The tag that the first block begins with. -/
  opening : Found
  /-- The tag that the last block ends with. -/
  closing : Found
  /-- The blocks, with the escapes in them settled. -/
  blocks : List Node

namespace Range

/-- What is left of the blocks without the tags. -/
def inner (range : Range) : List Node :=
  dropClosing range.closing (dropOpening range.opening range.blocks)

/-- The wrapper for what is left, if anything is. -/
def wrapper? (options : AlignOptions) (range : Range) : Option Node :=
  wrap? options range.opening range.closing range.blocks

/-- The two tags. -/
def tags (range : Range) : List Marker :=
  [range.opening.marker, range.closing.marker]

/-- A wrapper holds what is left of the blocks, and there is one if there is anything to hold. -/
theorem wrapper?_eq (options : AlignOptions) (range : Range) :
    range.wrapper? options =
      if range.inner.isEmpty then none
      else some
        (Node.container "div".toList (classes options range.opening range.closing) range.inner) :=
  rfl

/-- When a range leaves nothing, the sibling after it is passed over. -/
def skipped (range : Range) (after : List Node) : List Node :=
  if range.inner.isEmpty then after.take 1 else []

/-- The siblings with which the pass goes on after a range. -/
def remaining (range : Range) (after : List Node) : List Node :=
  if range.inner.isEmpty then after.drop 1 else after

/-- The siblings after a range are those that are passed over and those that remain. -/
theorem skipped_append_remaining (range : Range) (after : List Node) :
    range.skipped after ++ range.remaining after = after := by
  rw [skipped, remaining]
  split
  · exact List.take_append_drop 1 after
  · rfl

end Range

/-- What the pass finds at the first of several siblings. -/
inductive Outcome where
  /-- A range begins here; the siblings after it are left. -/
  | range (range : Range) (after : List Node)
  /-- The first sibling stays where it is. -/
  | kept (block : Node) (rest : List Node)

/-- What the pass finds at a block and those after it. -/
def outcome (source : Text) (block : Node) (rest : List Node) : Outcome :=
  let opened := (readOpening source block).1
  match (readOpening source block).2.filter (!·.marker.closing) with
  | none => .kept opened rest
  | some opening =>
    match findClosing? source opening true (opened :: rest) with
    | some (blocks, closing, after) => .range { opening, closing, blocks } after
    | none => .kept (passed source opened) (rest.map (passed source))

/-- A step of the pass puts a range into a wrapper and keeps any other block. -/
theorem step_eq_outcome (options : AlignOptions) (source : Text) (block : Node)
    (rest : List Node) :
    step options source block rest =
      match outcome source block rest with
      | .range range after => .wrapped (range.wrapper? options) after
      | .kept block rest => .kept block rest := by
  unfold step outcome
  dsimp only
  cases (readOpening source block).2.filter (!·.marker.closing) with
  | none => rfl
  | some opening =>
    dsimp only
    cases findClosing? source opening true ((readOpening source block).1 :: rest) <;> rfl

/-- The blocks of a range are the first of the siblings up to the one that closes it; only those
between the two have escapes that were settled on the way. -/
theorem outcome_range {source : Text} {block : Node} {rest after : List Node} {range : Range}
    (found : outcome source block rest = .range range after) :
    ∃ front last, block :: rest = front ++ last :: after ∧
      Encloses source range.opening range.closing block front last ∧
      range.blocks = front.map (passed source) ++ [last] := by
  unfold outcome at found
  dsimp only at found
  split at found
  · cases found
  · rename_i opening opens
    obtain ⟨reads, notClosing⟩ := Option.filter_eq_some_iff.1 opens
    split at found
    · rename_i blocks closing after' closes
      cases found
      obtain ⟨front, last, whole, rfl, closed⟩ := findClosing?_eq_some_iff.1 closes
      rw [(readOpening_found reads).1] at whole
      refine ⟨front, last, whole, ⟨?_, reads, by simpa using notClosing, closed⟩, ?_⟩
      · cases front with
        | nil =>
          cases whole
          exact ⟨[], rfl⟩
        | cons first between =>
          cases whole
          exact ⟨between ++ [last], rfl⟩
      · rw [List.map_append, List.map_singleton, (readClosing_found closed.reads).1]
    · cases found

/-- The opening tag of a range is one, and the tag that closes it names the same alignment. -/
theorem tags_of_range {source : Text} {block : Node} {rest after : List Node} {range : Range}
    (found : outcome source block rest = .range range after) :
    range.opening.marker.closing = false ∧
      range.closing.marker.alignment = range.opening.marker.alignment := by
  obtain ⟨front, last, _, encloses, _⟩ := outcome_range found
  exact ⟨encloses.notClosing, of_decide_eq_true (Bool.and_eq_true_iff.1 encloses.closed.closes).1⟩

/-- Siblings that become the blocks of a range when they are met: a paragraph with both tags, or one
with the opening tag, blocks between, and one with the closing tag. -/
inductive Range.TakenFrom (range : Range) : List Node → Prop
  | one {only block : Node} (met : Met only block) (opens : Carries HoldsFirst range.opening block)
      (closes : Carries HoldsLast range.closing block) (beside : range.opening.alone = false)
      (beside' : range.closing.alone = false) (blocks : range.blocks = [block]) :
      TakenFrom range [only]
  | several {first first' last last' : Node} {between between' : List Node}
      (opens : Carries HoldsFirst range.opening first) (met : Met first first')
      (amid : List.Forall₂ Met between between') (met' : Met last last')
      (closes : Carries HoldsLast range.closing last')
      (blocks : range.blocks = first' :: (between' ++ [last'])) :
      TakenFrom range (first :: (between ++ [last]))

/-- A range is taken from the first of the siblings that are met. -/
theorem taken_of_range {source : Text} {block : Node} {rest after originals : List Node}
    {range : Range} (found : outcome source block rest = .range range after)
    (met : List.Forall₂ Met originals (block :: rest)) :
    ∃ taken others, originals = taken ++ others ∧ range.TakenFrom taken ∧
      List.Forall₂ Met others after := by
  obtain ⟨front, last, whole, encloses, blocks⟩ := outcome_range found
  obtain ⟨between, first⟩ := encloses.first
  have opens := (readOpening_found encloses.opens).2
  have closes := (readClosing_found encloses.closed.reads).2
  rw [whole, List.append_cons] at met
  obtain ⟨taken, others, rfl, metTaken, metOthers⟩ := split_forall₂ met
  refine ⟨taken, others, rfl, ?_, metOthers⟩
  cases front with
  | nil =>
    cases first
    obtain ⟨beside, beside'⟩ := encloses.beside
    obtain ⟨only, rfl, metBlock⟩ := forall₂_singleton metTaken
    exact .one metBlock opens closes beside beside' blocks
  | cons node front =>
    cases first
    obtain ⟨firsts, lasts, rfl, metFirsts, metLasts⟩ := split_forall₂ metTaken
    obtain ⟨ending, rfl, metLast⟩ := forall₂_singleton metLasts
    cases metFirsts with
    | cons metBlock metBetween =>
      have amid := forall₂_trans metBetween (map_passed_met source front) Met.trans
      exact .several (opens.of_met metBlock holdsFirst_stays)
        (metBlock.trans (passed_met source block)) amid metLast closes blocks

/-- A block that is kept has been met, and so have the siblings after it. -/
theorem outcome_kept {source : Text} {block kept : Node} {rest left : List Node}
    (found : outcome source block rest = .kept kept left) :
    Met block kept ∧ List.Forall₂ Met rest left := by
  have opened := readOpening_met source block
  unfold outcome at found
  dsimp only at found
  split at found
  · cases found
    exact ⟨opened, List.forall₂_same.2 fun node _ => .refl node⟩
  · split at found
    · cases found
    · cases found
      exact ⟨opened.trans (passed_met source _), map_passed_met source rest⟩

/-- What remains after a range weighs less than what it was found in. -/
theorem weight_remaining {source : Text} {block : Node} {rest after : List Node} {range : Range}
    (found : outcome source block rest = .range range after) :
    Node.weightList (range.remaining after) < Node.weightList (block :: rest) := by
  have taken : step {} source block rest = .wrapped (range.wrapper? {}) after := by
    rw [step_eq_outcome, found]
  have lighter := weight_of_wrapped taken
  have parts := congrArg Node.weightList (range.skipped_append_remaining after)
  rw [Node.weightList_append] at parts
  omega

/-- A block that is kept weighs what it did, and so do the siblings after it. -/
theorem weight_kept {source : Text} {block kept : Node} {rest left : List Node}
    (found : outcome source block rest = .kept kept left) :
    kept.weight = block.weight ∧ Node.weightList left = Node.weightList rest := by
  have taken : step {} source block rest = .kept kept left := by
    rw [step_eq_outcome, found]
  exact weight_of_kept taken

section

variable {Result : Type} (ofRange : Range → List Result) (ofKept : Node → List Result → List Result)
  (ofSkipped : Node → List Result) (source : Text)

/-- The walk over siblings and below them: what is made of the ranges, of the blocks that are kept
with what is made below them, and of the blocks that are passed over. -/
def visit (nodes : List Node) : List Result :=
  match nodes with
  | [] => []
  | block :: rest =>
    match _found : outcome source block rest with
    | .range range after =>
      ofRange range ++ ((range.skipped after).flatMap ofSkipped ++ visit (range.remaining after))
    | .kept block rest => ofKept block (visit block.children) ++ visit rest
termination_by Node.weightList nodes
decreasing_by
  · exact weight_remaining _found
  · have kept := weight_kept _found
    have := Node.weight_eq block
    rw [Node.weightList_cons]
    omega
  · have kept := weight_kept _found
    have := block.weight_pos
    rw [Node.weightList_cons]
    omega

variable {ofRange ofKept ofSkipped source}

/-- Where a range begins, the walk takes the range and goes on with what remains. -/
theorem visit_of_range {block : Node} {rest after : List Node} {range : Range}
    (found : outcome source block rest = .range range after) :
    visit ofRange ofKept ofSkipped source (block :: rest) =
      ofRange range ++ ((range.skipped after).flatMap ofSkipped ++
        visit ofRange ofKept ofSkipped source (range.remaining after)) := by
  rw [visit]
  split <;> rename_i found' <;> rw [found] at found' <;> cases found'
  rfl

/-- Where none begins, the walk takes the first sibling, with what is below it, and goes on with the
others. -/
theorem visit_of_kept {block kept : Node} {rest left : List Node}
    (found : outcome source block rest = .kept kept left) :
    visit ofRange ofKept ofSkipped source (block :: rest) =
      ofKept kept (visit ofRange ofKept ofSkipped source kept.children) ++
        visit ofRange ofKept ofSkipped source left := by
  rw [visit]
  split <;> rename_i found' <;> rw [found] at found' <;> cases found'
  rfl

end

/-- The siblings after the walk, when `ofRange` takes the place of a range. -/
def rebuild (ofRange : Range → List Node) (source : Text) (nodes : List Node) : List Node :=
  visit ofRange (fun block below => [{ block with children := below }]) (fun node => [node]) source
    nodes

/-- A range at the first of several siblings becomes a wrapper, and the pass goes on after it. -/
theorem alignList_of_range {options : AlignOptions} {source : Text} {block : Node}
    {rest after : List Node} {range : Range}
    (found : outcome source block rest = .range range after) :
    alignList options source (block :: rest) =
      (range.wrapper? options).toList ++
        (range.skipped after ++ alignList options source (range.remaining after)) := by
  have taken : step options source block rest = .wrapped (range.wrapper? options) after := by
    rw [step_eq_outcome, found]
  rw [range.wrapper?_eq] at taken ⊢
  rw [Range.skipped, Range.remaining]
  cases empty : range.inner.isEmpty with
  | false =>
    rw [empty] at taken
    rw [alignList]
    split <;> rename_i taken' <;> rw [taken] at taken' <;> cases taken'
    rfl
  | true =>
    rw [empty] at taken
    cases after with
    | nil =>
      rw [alignList, if_pos rfl, if_pos rfl, if_pos rfl, List.drop_nil, alignList]
      split <;> rename_i taken' <;> rw [taken] at taken' <;> cases taken'
      rfl
    | cons next after =>
      rw [alignList]
      split <;> rename_i taken' <;> rw [taken] at taken' <;> cases taken'
      rfl

/-- A block that is kept is walked below, and the pass goes on after it. -/
theorem alignList_of_kept {options : AlignOptions} {source : Text} {block kept : Node}
    {rest left : List Node} (found : outcome source block rest = .kept kept left) :
    alignList options source (block :: rest) =
      { kept with children := alignList options source kept.children } ::
        alignList options source left := by
  have taken : step options source block rest = .kept kept left := by
    rw [step_eq_outcome, found]
  rw [alignList]
  split <;> rename_i taken' <;> rw [taken] at taken' <;> cases taken'
  rfl

/-- The pass over siblings puts what is left of every range into a wrapper. -/
theorem alignList_eq_rebuild (options : AlignOptions) (source : Text) (nodes : List Node) :
    alignList options source nodes =
      rebuild (fun range => (range.wrapper? options).toList) source nodes := by
  induction nodes using visit.induct source with
  | case1 => rw [alignList, rebuild, visit]
  | case2 block rest range after found ih =>
    rw [alignList_of_range found, rebuild, visit_of_range found, ih, List.flatMap_singleton']
    rfl
  | case3 block rest kept left found below later =>
    rw [alignList_of_kept found, rebuild, visit_of_kept found, below, later]
    rfl

/-- The siblings after the pass with the wrappers that it made dissolved. -/
def dissolve (source : Text) (nodes : List Node) : List Node :=
  rebuild Range.inner source nodes

/-- The ranges that the pass finds among siblings and below them. -/
def ranges (source : Text) (nodes : List Node) : List Range :=
  visit (fun range => [range]) (fun _ below => below) (fun _ => []) source nodes

/-- The tags of the ranges, in order. -/
def tags (source : Text) (nodes : List Node) : List Marker :=
  (ranges source nodes).flatMap Range.tags

section

variable {source : Text} {block kept : Node} {rest after left : List Node} {range : Range}

/-- What is left of a range stands among the siblings when its wrapper is dissolved. -/
theorem dissolve_of_range (found : outcome source block rest = .range range after) :
    dissolve source (block :: rest) =
      range.inner ++ (range.skipped after ++ dissolve source (range.remaining after)) := by
  rw [dissolve, rebuild, visit_of_range found, List.flatMap_singleton']
  rfl

/-- A sibling that is kept stays where it is when wrappers are dissolved. -/
theorem dissolve_of_kept (found : outcome source block rest = .kept kept left) :
    dissolve source (block :: rest) =
      { kept with children := dissolve source kept.children } :: dissolve source left := by
  rw [dissolve, rebuild, visit_of_kept found]
  rfl

/-- A range comes before those after it. -/
theorem ranges_of_range (found : outcome source block rest = .range range after) :
    ranges source (block :: rest) = range :: ranges source (range.remaining after) := by
  have none : (range.skipped after).flatMap (fun _ => ([] : List Range)) = [] := by simp
  rw [ranges, visit_of_range found, none]
  rfl

/-- The ranges below a sibling come before those after it. -/
theorem ranges_of_kept (found : outcome source block rest = .kept kept left) :
    ranges source (block :: rest) = ranges source kept.children ++ ranges source left := by
  rw [ranges, visit_of_kept found]
  rfl

end

end Manuscript.Alignment
