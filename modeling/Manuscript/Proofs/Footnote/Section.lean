import Manuscript.Proofs.Footnote.Tally
import Manuscript.Proofs.Lowering.References
import Mathlib.Data.List.Induction
import Mathlib.Data.List.Nodup

/-!
# The section of footnotes

The items of the section are made one after the other, and making one can put further footnotes at
the end of the queue. `Queue` is what holds before each item: which references have been lowered,
and that the definitions still to be had are those of the footnotes without an item. `Queue.next`
shows that there is one for the footnote in turn, so that the queue is worked off without a gap.
-/

namespace Manuscript.Lowering

open Footnote

/-- A footnote in the section. -/
structure Note where
  /-- Its identifier. -/
  id : Text
  /-- Its definition. -/
  content : List Node
  /-- What became of the references in its definition. -/
  citations : List Citation

/-- The footnotes of the section from the given index on. -/
def notes (remaining : List (Text × List Node)) (index : Nat) (references : References) :
    List Note :=
  match _next : references[index]? with
  | none => []
  | some (id, _) =>
    match _taken : takeDefinition? id remaining with
    | none => notes remaining (index + 1) references
    | some (content, others) =>
      let (citations, references) :=
        citeAll (others.map Prod.fst) (Node.citedLabelList 0 content) references
      { id, content, citations } :: notes others (index + 1) references
termination_by (remaining.length, references.length - index)
decreasing_by
  · obtain ⟨bound, _⟩ := List.getElem?_eq_some_iff.1 _next
    exact Prod.Lex.right _ (by omega)
  · exact Prod.Lex.left _ _ (length_of_takeDefinition? _taken)

/-- The section is complete when every footnote that was referred to had its turn. -/
theorem notes_done {remaining : List (Text × List Node)} {index : Nat} {references : References}
    (done : references[index]? = none) : notes remaining index references = [] := by
  unfold notes
  split
  · rfl
  · rename_i turn
    rw [done] at turn
    cases turn

/-- The footnote in turn comes first, then those that are left. -/
theorem notes_turn {remaining others : List (Text × List Node)} {index count : Nat}
    {references : References} {id : Text} {content : List Node}
    (turn : references[index]? = some (id, count))
    (taken : takeDefinition? id remaining = some (content, others)) :
    notes remaining index references =
      let result := citeAll (others.map Prod.fst) (Node.citedLabelList 0 content) references
      { id, content, citations := result.1 } :: notes others (index + 1) result.2 := by
  rw [notes]
  split
  · rename_i done
    rw [turn] at done
    cases done
  · rename_i next
    rw [turn] at next
    cases next
    split
    · rename_i missing
      rw [taken] at missing
      cases missing
    · rename_i found
      rw [taken] at found
      cases found
      rfl

/-- The list item for the footnote with the given index, if `citations` are the references of the
document: its definition, then one way back to each link. -/
def noteItem (options : LoweringOptions) (citations : List Citation) (index : Nat) (note : Note) :
    Html :=
  let front := options.footnotes.clobberFront
  let content := fill options note.content (note.citations.map (·.lower front))
  let back := backReferences options.footnotes note.id (index + 1)
    (linksTo note.id citations).length
  .element ((plainTag "li").setAttribute "id".toList (itemAnchor front note.id))
    (surround (withBackReferences back content))

/-- The answers to labels are what becomes of the references with these labels. -/
theorem answers_lowerReference (options : LoweringOptions) (defined labels : List Text)
    (references : References) :
    answers (lowerReference options defined) labels references =
      ((citeAll defined labels references).1.map (·.lower options.footnotes.clobberFront),
        (citeAll defined labels references).2) := by
  induction labels generalizing references with
  | nil => rfl
  | cons label labels ih => simp [answers, citeAll, lowerReference, ih]

/-- Siblings are lowered by putting what becomes of their references in place of them. -/
theorem lowerList_lowerReference (options : LoweringOptions) (defined : List Text)
    (nodes : List Node) (references : References) :
    lowerList options (lowerReference options defined) nodes references =
      (fill options nodes ((citeAll defined (Node.citedLabelList 0 nodes) references).1.map
          (·.lower options.footnotes.clobberFront)),
        (citeAll defined (Node.citedLabelList 0 nodes) references).2) := by
  rw [lowerList_eq_fill, answers_lowerReference]

/-- No item is made when every footnote had its turn. -/
theorem footnoteItems_done (options : LoweringOptions) {remaining : List (Text × List Node)}
    {index : Nat} {references : References} (done : references[index]? = none) :
    footnoteItems options remaining index references = [] := by
  unfold footnoteItems
  split
  · rfl
  · rename_i turn
    rw [done] at turn
    cases turn

/-- The item for the footnote in turn is made when its own references have been counted, then come
the others. -/
theorem footnoteItems_turn (options : LoweringOptions) {remaining others : List (Text × List Node)}
    {index count : Nat} {references : References} {id : Text} {content : List Node}
    (turn : references[index]? = some (id, count))
    (taken : takeDefinition? id remaining = some (content, others)) :
    footnoteItems options remaining index references =
      let front := options.footnotes.clobberFront
      let result := citeAll (others.map Prod.fst) (Node.citedLabelList 0 content) references
      .element ((plainTag "li").setAttribute "id".toList (itemAnchor front id))
          (surround (withBackReferences
            (backReferences options.footnotes id (index + 1) (result.2.count id))
            (fill options content (result.1.map (·.lower front)))))
        :: footnoteItems options others (index + 1) result.2 := by
  rw [footnoteItems]
  split
  · rename_i done
    rw [turn] at done
    cases done
  · rename_i next
    rw [turn] at next
    cases next
    split
    · rename_i missing
      rw [taken] at missing
      cases missing
    · rename_i found
      rw [taken] at found
      cases found
      simp only [lowerList_lowerReference]

/-- A definition that is there can be taken, and the others stay in their order. -/
theorem takeDefinition?_of_mem {id : Text} {definitions : List (Text × List Node)}
    (member : id ∈ definitions.map Prod.fst) :
    ∃ front content back, definitions = front ++ (id, content) :: back ∧
      takeDefinition? id definitions = some (content, front ++ back) := by
  induction definitions with
  | nil => cases member
  | cons entry rest ih =>
    obtain ⟨other, children⟩ := entry
    by_cases same : other = id
    · exact ⟨[], children, rest, by rw [same]; rfl, by simp [takeDefinition?, same]⟩
    · have later : id ∈ rest.map Prod.fst := by
        rw [List.map_cons, List.mem_cons] at member
        exact member.resolve_left fun equal => same equal.symm
      obtain ⟨front, content, back, rfl, taken⟩ := ih later
      exact ⟨(other, children) :: front, content, back, rfl, by simp [takeDefinition?, same, taken]⟩

/-- The footnotes that are linked to by some references come before those that only later ones link
to. -/
theorem linkedIds_append (front back : List Citation) :
    ∃ added, linkedIds (front ++ back) = linkedIds front ++ added := by
  simp only [linkedIds, List.filter_append, List.map_append, List.eraseDups_append]
  exact ⟨_, rfl⟩

/-- No footnote is linked to for the first time twice. -/
theorem nodup_linkedIds (citations : List Citation) : (linkedIds citations).Nodup := by
  induction citations using List.reverseRecOn with
  | nil => exact List.nodup_nil
  | append_singleton front last ih =>
    rw [linkedIds_concat]
    split
    · rename_i new
      rw [← List.concat_eq_append]
      exact ih.concat new.2
    · exact ih

/-- What holds before the item with the given index is made. -/
structure Queue (defined : List Text) (cited : List Citation)
    (remaining : List (Text × List Node)) (index : Nat) (references : References) : Prop where
  /-- The references that have been lowered are tallied. -/
  tally : Tally cited references
  /-- No two definitions have the same identifier. -/
  distinct : (remaining.map Prod.fst).Nodup
  /-- The definitions left are those of the footnotes that have no item. -/
  left : ∀ id, id ∈ remaining.map Prod.fst ↔ id ∈ defined ∧ id ∉ references.order.take index
  /-- Every footnote in the queue is defined. -/
  known : ∀ id ∈ references.order, id ∈ defined

/-- The footnote in turn has its place in the order. -/
theorem order_of_turn {references : References} {index count : Nat} {id : Text}
    (turn : references[index]? = some (id, count)) : references.order[index]? = some id := by
  rw [References.order, List.getElem?_map, turn]
  rfl

/-- The order up to a footnote is the order before it, then the footnote. -/
theorem take_succ_order {references : References} {index : Nat} {id : Text}
    (place : references.order[index]? = some id) :
    references.order.take (index + 1) = references.order.take index ++ [id] := by
  rw [List.take_add_one, place]
  rfl

/-- The footnote in turn is not among those before it. -/
theorem Queue.fresh {defined : List Text} {cited : List Citation}
    {remaining : List (Text × List Node)} {index : Nat} {references : References} {id : Text}
    (queue : Queue defined cited remaining index references)
    (place : references.order[index]? = some id) : id ∉ references.order.take index := by
  have nodup : (references.order.take (index + 1)).Nodup := by
    rw [queue.tally.order]
    exact (nodup_linkedIds cited).sublist (List.take_sublist _ _)
  rw [take_succ_order place, List.nodup_append] at nodup
  exact fun earlier => nodup.2.2 id earlier id (by simp) rfl

/-- When its definition has been taken, the definitions left are those of the footnotes that are not
among the ones up to it. -/
theorem Queue.others {defined : List Text} {cited : List Citation}
    {front back : List (Text × List Node)} {content : List Node} {index : Nat}
    {references : References} {id : Text}
    (queue : Queue defined cited (front ++ (id, content) :: back) index references)
    (place : references.order[index]? = some id) :
    ((front ++ back).map Prod.fst).Nodup ∧
      ∀ other, other ∈ (front ++ back).map Prod.fst ↔
        other ∈ defined ∧ other ∉ references.order.take (index + 1) := by
  have distinct := queue.distinct
  rw [List.map_append, List.map_cons, List.nodup_append, List.nodup_cons] at distinct
  obtain ⟨distinctFront, ⟨notAfter, distinctBack⟩, apart⟩ := distinct
  have notBefore : id ∉ front.map Prod.fst :=
    fun inFront => apart id inFront id List.mem_cons_self rfl
  constructor
  · rw [List.map_append, List.nodup_append]
    exact ⟨distinctFront, distinctBack, fun first inFront second inBack =>
      apart first inFront second (List.mem_cons_of_mem _ inBack)⟩
  · intro other
    have split := queue.left other
    rw [List.map_append, List.map_cons, List.mem_append, List.mem_cons] at split
    rw [List.map_append, List.mem_append, take_succ_order place, List.mem_append,
      List.mem_singleton]
    by_cases same : other = id
    · subst same
      simp [notBefore, notAfter]
    · simp only [same, false_or, or_false] at split ⊢
      exact split

/-- There is a definition for the footnote in turn, and what holds before its item holds after it.
-/
theorem Queue.next {defined : List Text} {cited : List Citation}
    {remaining : List (Text × List Node)} {index count : Nat} {references : References} {id : Text}
    (queue : Queue defined cited remaining index references)
    (turn : references[index]? = some (id, count)) :
    ∃ content others, takeDefinition? id remaining = some (content, others) ∧
      (id, content) ∈ remaining ∧ others ⊆ remaining ∧
      let result := citeAll (others.map Prod.fst) (Node.citedLabelList 0 content) references
      Queue defined (cited ++ result.1) others (index + 1) result.2 := by
  have place := order_of_turn turn
  obtain ⟨bound, _⟩ := List.getElem?_eq_some_iff.1 place
  have member : id ∈ references.order := List.mem_of_getElem? place
  -- The footnote in turn is not among those before it, so its definition is still there.
  have there : id ∈ remaining.map Prod.fst :=
    (queue.left id).2 ⟨queue.known id member, queue.fresh place⟩
  obtain ⟨front, content, back, rfl, taken⟩ := takeDefinition?_of_mem there
  refine ⟨content, front ++ back, taken, by simp, by simp, ?_⟩
  obtain ⟨added, order, can⟩ := order_citeAll ((front ++ back).map Prod.fst)
    (Node.citedLabelList 0 content) references
  obtain ⟨distinct, others⟩ := queue.others place
  exact {
    tally := queue.tally.citeAll _ _
    distinct := distinct
    left := by
      intro other
      rw [order, List.take_append_of_le_length (by omega), others]
    known := by
      intro other inOrder
      rw [order, List.mem_append] at inOrder
      rcases inOrder with old | new
      · exact queue.known other old
      · exact ((others other).1 (can other new)).1 }

/-- How the items from the given index on are made, if `citations` are the references of the
document. -/
structure Emission (options : LoweringOptions) (defined : List Text) (citations : List Citation)
    (remaining : List (Text × List Node)) (index : Nat) (references : References) : Prop where
  /-- The items are as described. -/
  items : footnoteItems options remaining index references =
    (notes remaining index references).mapIdx fun offset =>
      noteItem options citations (index + offset)
  /-- They are for the footnotes that are linked to, in the order of the first link. -/
  ids : (notes remaining index references).map (·.id) = (linkedIds citations).drop index
  /-- Each is made from its definition. -/
  defines : ∀ note ∈ notes remaining index references, (note.id, note.content) ∈ remaining
  /-- The references in a definition are lowered in order. -/
  labels : ∀ note ∈ notes remaining index references,
    note.citations.map (·.label) = Node.citedLabelList 0 note.content
  /-- A reference in a definition becomes a link if its footnote is defined and has no item yet. -/
  links : ∀ offset note, (notes remaining index references)[offset]? = some note →
    ∀ citation ∈ note.citations, citation.isLink = true ↔
      citation.id ∈ defined ∧ citation.id ∉ (linkedIds citations).take (index + offset + 1)
  /-- All references are tallied in the end. -/
  tallied : ∃ final, Tally citations final

/-- No reference in later items is a link to a footnote that has an item. -/
theorem Emission.unlinked {options : LoweringOptions} {defined : List Text}
    {citations : List Citation} {remaining : List (Text × List Node)} {index : Nat}
    {references : References} {id : Text}
    (emission : Emission options defined citations remaining (index + 1) references)
    (placed : (linkedIds citations)[index]? = some id) :
    linksTo id ((notes remaining (index + 1) references).flatMap (·.citations)) = [] := by
  refine linksTo_eq_nil fun citation inLater link same => ?_
  obtain ⟨note, inNotes, inNote⟩ := List.mem_flatMap.1 inLater
  obtain ⟨offset, atOffset⟩ := List.getElem?_of_mem inNotes
  have apart := ((emission.links offset note atOffset citation inNote).1 link).2
  rw [same] at apart
  refine apart (List.mem_of_getElem? (i := index) ?_)
  rw [List.getElem?_take_of_lt (by omega), placed]

/-- The items from the footnote in turn on are made as described, if those after it are. -/
theorem Emission.cons {options : LoweringOptions} {defined : List Text}
    {cited citations : List Citation} {remaining others : List (Text × List Node)}
    {index count : Nat} {references : References} {id : Text} {content : List Node}
    (turn : references[index]? = some (id, count))
    (taken : takeDefinition? id remaining = some (content, others))
    (member : (id, content) ∈ remaining) (fewer : others ⊆ remaining) :
    let result := citeAll (others.map Prod.fst) (Node.citedLabelList 0 content) references
    Queue defined (cited ++ result.1) others (index + 1) result.2 →
    citations = cited ++ result.1 ++
      (notes others (index + 1) result.2).flatMap (·.citations) →
    Emission options defined citations others (index + 1) result.2 →
    Emission options defined citations remaining index references := by
  intro result next all later
  -- The footnotes up to the one in turn stand at the start of the final order.
  obtain ⟨added, order⟩ := linkedIds_append (cited ++ result.1)
    ((notes others (index + 1) result.2).flatMap (·.citations))
  rw [← all, ← next.tally.order] at order
  have place : result.2.order[index]? = some id := by
    obtain ⟨new, extended, _⟩ := order_citeAll (others.map Prod.fst)
      (Node.citedLabelList 0 content) references
    have here := order_of_turn turn
    obtain ⟨bound, _⟩ := List.getElem?_eq_some_iff.1 here
    rw [extended, List.getElem?_append_left bound, here]
  obtain ⟨bound, _⟩ := List.getElem?_eq_some_iff.1 place
  have placed : (linkedIds citations)[index]? = some id := by
    rw [order, List.getElem?_append_left bound, place]
  have upTo : (linkedIds citations).take (index + 1) = result.2.order.take (index + 1) := by
    rw [order, List.take_append_of_le_length (by omega)]
  have counted : (linksTo id citations).length = result.2.count id := by
    rw [next.tally.count, all, linksTo_append, later.unlinked placed, List.append_nil]
  have shape := notes_turn turn taken
  exact {
    items := by
      have rest := later.items
      have shift : ∀ offset, index + 1 + offset = index + (offset + 1) := by omega
      simp only [shift] at rest
      rw [footnoteItems_turn options turn taken, shape, List.mapIdx_cons]
      simp only [noteItem, counted, Nat.add_zero, result] at rest ⊢
      rw [rest]
    ids := by
      obtain ⟨inside, there⟩ := List.getElem?_eq_some_iff.1 placed
      rw [shape, List.map_cons, later.ids, List.drop_eq_getElem_cons inside, there]
    defines := by
      rw [shape]
      rintro note (_ | ⟨_, inLater⟩)
      · exact member
      · exact fewer (later.defines note inLater)
    labels := by
      rw [shape]
      rintro note (_ | ⟨_, inLater⟩)
      · exact label_citeAll _ _ _
      · exact later.labels note inLater
    links := by
      rw [shape]
      rintro (_ | offset) note atOffset citation inNote
      · cases atOffset
        rw [isLink_citeAll _ _ _ citation inNote, next.left, Nat.add_zero, upTo]
      · have shift : index + 1 + offset + 1 = index + (offset + 1) + 1 := by omega
        rw [← shift]
        exact later.links offset note atOffset citation inNote
    tallied := later.tallied }

/-- The section is made as described from every state of the queue. -/
theorem Queue.emission (options : LoweringOptions) {defined : List Text} {cited : List Citation}
    {remaining : List (Text × List Node)} {index : Nat} {references : References}
    (queue : Queue defined cited remaining index references) :
    Emission options defined
      (cited ++ (notes remaining index references).flatMap (·.citations))
      remaining index references := by
  -- Every item takes a definition, so the induction is on the number of those left.
  induction size : remaining.length using Nat.strongRecOn generalizing cited remaining index
    references with
  | ind size ih =>
    cases turn : references[index]? with
    | none =>
      have all : cited ++ (notes remaining index references).flatMap (·.citations) = cited := by
        simp [notes_done turn]
      rw [all]
      have bound : references.order.length ≤ index := by
        simpa using List.getElem?_eq_none_iff.1 turn
      exact {
        items := by simp [notes_done turn, footnoteItems_done options turn]
        ids := by
          rw [notes_done turn, ← queue.tally.order, List.drop_of_length_le bound]
          rfl
        defines := by simp [notes_done turn]
        labels := by simp [notes_done turn]
        links := by simp [notes_done turn]
        tallied := ⟨references, queue.tally⟩ }
    | some entry =>
      obtain ⟨id, count⟩ := entry
      obtain ⟨content, others, taken, member, fewer, next⟩ := queue.next turn
      have later :=
        ih others.length (by rw [← size]; exact length_of_takeDefinition? taken) next rfl
      rw [notes_turn turn taken, List.flatMap_cons, ← List.append_assoc]
      exact Emission.cons turn taken member fewer next rfl later

end Manuscript.Lowering
