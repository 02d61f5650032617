import Manuscript.Proofs.Footnote.Section
import Manuscript.Proofs.Footnote.WayBack

/-!
# Footnotes of a document

The ledger of a document says what becomes of each of its references and which footnotes come into
the section. `lowerDocument_eq` is the tree that the lowering makes, in terms of the ledger; what
the references and the section have to do with each other is then a matter of the ledger alone:

- `footnotes_agree`: the section has one item for each footnote that is linked to, in the order of
  the first link, and the links and the ways back belong together one by one;
- `reference_meets_definition_iff`: a reference to a footnote that is defined becomes a link, unless
  the definition is inside another definition or the item of the footnote has been begun.
-/

namespace Manuscript

/-- The identifier that a definition of a footnote gives it. -/
def Kind.footnoteId? : Kind → Option Text
  | footnoteDefinition label => some (Footnote.identifier label)
  | _ => none

namespace Node

mutual

/-- The identifiers of all footnote definitions in a tree, at any depth. -/
def footnoteIds : Node → List Text
  | ⟨kind, children, _, _⟩ => kind.footnoteId?.toList ++ footnoteIdList children

/-- The identifiers of all footnote definitions in a list of trees, at any depth. -/
def footnoteIdList : List Node → List Text
  | [] => []
  | node :: rest => footnoteIds node ++ footnoteIdList rest

end

end Node

namespace Lowering

open Footnote

/-- The identifiers of the definitions that are not inside another definition. -/
def outerIds (tree : Node) : List Text :=
  (definitions tree).map Prod.fst

/-- A definition that is not inside another is a definition. -/
theorem definitionList_subset (nodes : List Node) :
    (definitionList nodes).map Prod.fst ⊆ Node.footnoteIdList nodes := by
  refine (Node.induction
    (P := fun tree => (definitions tree).map Prod.fst ⊆ Node.footnoteIdList tree.children)
    (Q := fun nodes => (definitionList nodes).map Prod.fst ⊆ Node.footnoteIdList nodes)
    ?_ ?_ ?_).2 nodes
  · intro kind children data span below
    rw [definitions]
    exact below
  · simp [definitionList]
  · rintro ⟨kind, children, data, span⟩ rest head tail
    rw [Node.footnoteIdList, Node.footnoteIds]
    unfold definitionList
    split
    · cases ‹_›
    · rename_i shape
      cases shape
      intro id member
      rw [List.map_cons, List.mem_cons] at member
      rcases member with rfl | later
      · simp [Kind.footnoteId?]
      · exact List.mem_append_right _ (tail later)
    · rename_i shape
      cases shape
      rw [List.map_append]
      exact List.append_subset.2
        ⟨fun id member => List.mem_append_left _ (List.mem_append_right _ (head member)),
          fun id member => List.mem_append_right _ (tail member)⟩

/-- A definition is kept unless its identifier is known. -/
theorem firstDefinitions_cons (known : List Text) (id : Text) (children : List Node)
    (rest : List (Text × List Node)) :
    firstDefinitions known ((id, children) :: rest) =
      if id ∈ known then firstDefinitions known rest
      else (id, children) :: firstDefinitions (id :: known) rest := by
  rw [firstDefinitions]
  simp only [List.contains_iff_mem]

/-- Of several definitions with one identifier, the first is kept. -/
theorem lookup_of_mem_firstDefinitions {known : List Text} {definitions : List (Text × List Node)}
    {id : Text} {content : List Node}
    (member : (id, content) ∈ firstDefinitions known definitions) :
    id ∉ known ∧ definitions.lookup id = some content := by
  induction definitions generalizing known with
  | nil => cases member
  | cons entry rest ih =>
    obtain ⟨other, children⟩ := entry
    rw [firstDefinitions_cons] at member
    split at member
    · rename_i old
      obtain ⟨fresh, found⟩ := ih member
      have differs : (id == other) = false := by
        simpa using fun equal : id = other => fresh (equal ▸ old)
      exact ⟨fresh, by rw [List.lookup_cons, differs]; exact found⟩
    · rename_i new
      rcases List.mem_cons.1 member with here | later
      · cases here
        exact ⟨new, by simp⟩
      · obtain ⟨fresh, found⟩ := ih later
        rw [List.mem_cons, not_or] at fresh
        have differs : (id == other) = false := by simpa using fresh.1
        exact ⟨fresh.2, by rw [List.lookup_cons, differs]; exact found⟩

/-- Every identifier that is not known has a first definition. -/
theorem mem_firstDefinitions {known : List Text} {definitions : List (Text × List Node)}
    {id : Text} :
    id ∈ (firstDefinitions known definitions).map Prod.fst ↔
      id ∈ definitions.map Prod.fst ∧ id ∉ known := by
  induction definitions generalizing known with
  | nil => simp [firstDefinitions]
  | cons entry rest ih =>
    obtain ⟨other, children⟩ := entry
    rw [firstDefinitions_cons]
    by_cases old : other ∈ known
    · rw [if_pos old, ih]
      simp only [List.map_cons, List.mem_cons]
      constructor
      · exact fun ⟨later, fresh⟩ => ⟨.inr later, fresh⟩
      · rintro ⟨rfl | later, fresh⟩
        · exact absurd old fresh
        · exact ⟨later, fresh⟩
    · rw [if_neg old, List.map_cons, List.mem_cons, ih]
      simp only [List.map_cons, List.mem_cons, not_or]
      by_cases same : id = other
      · simp [same, old]
      · simp [same]

/-- No identifier has two first definitions. -/
theorem nodup_firstDefinitions (known : List Text) (definitions : List (Text × List Node)) :
    ((firstDefinitions known definitions).map Prod.fst).Nodup := by
  induction definitions generalizing known with
  | nil => exact List.nodup_nil
  | cons entry rest ih =>
    obtain ⟨other, children⟩ := entry
    rw [firstDefinitions_cons]
    split
    · exact ih known
    · rw [List.map_cons, List.nodup_cons]
      exact ⟨fun again => (mem_firstDefinitions.1 again).2 (List.mem_cons_self ..), ih _⟩

/-- The first definitions are some of all definitions. -/
theorem length_firstDefinitions (known : List Text) (definitions : List (Text × List Node)) :
    (firstDefinitions known definitions).length ≤ definitions.length := by
  induction definitions generalizing known with
  | nil => exact Nat.le_refl _
  | cons entry rest ih =>
    obtain ⟨other, children⟩ := entry
    rw [firstDefinitions_cons, List.length_cons]
    split
    · exact Nat.le_succ_of_le (ih known)
    · exact Nat.succ_le_succ (ih _)

/-- What becomes of the footnotes of a document. -/
structure Ledger where
  /-- The references outside the section. -/
  body : List Citation
  /-- The footnotes in the section. -/
  notes : List Note

namespace Ledger

/-- The ledger of a document. -/
def ofDocument (tree : Node) : Ledger :=
  let first := firstDefinitions [] (definitions tree)
  let (body, references) := citeAll (first.map Prod.fst)
    (Node.citedLabelList 0 (dropDefinitionList tree.children)) []
  { body, notes := Lowering.notes first 0 references }

/-- All references of a document, in the order in which they are lowered. -/
def citations (ledger : Ledger) : List Citation :=
  ledger.body ++ ledger.notes.flatMap (·.citations)

/-- The links that the references of a document become. -/
def links (front : Text) (ledger : Ledger) : List Html :=
  ledger.citations.filterMap (·.link? front)

end Ledger

/-- The section at the end of a document, if there is one. -/
def notesSection (options : LoweringOptions) (ledger : Ledger) : List Html :=
  if ledger.notes.isEmpty then []
  else [footnoteSection options.footnotes.label
    (ledger.notes.mapIdx (noteItem options ledger.citations))]

/-- The tree for a document: its content with what becomes of the references in place of them, then
the section. -/
def lowerWithLedger (options : LoweringOptions) (tree : Node) (ledger : Ledger) : Html :=
  .root (separate (fill options (dropDefinitionList tree.children)
    (ledger.body.map (·.lower options.footnotes.clobberFront)) ++ notesSection options ledger))

/-- Before the first item, all footnotes that can be referred to are left. -/
theorem queue_start (tree : Node) :
    let first := firstDefinitions [] (definitions tree)
    let body := citeAll (first.map Prod.fst)
      (Node.citedLabelList 0 (dropDefinitionList tree.children)) []
    Queue (outerIds tree) body.1 first 0 body.2 where
  tally := by simpa using Tally.empty.citeAll _ _
  distinct := nodup_firstDefinitions _ _
  left id := by simp [mem_firstDefinitions, outerIds]
  known := by
    obtain ⟨added, order, can⟩ := order_citeAll
      ((firstDefinitions [] (definitions tree)).map Prod.fst)
      (Node.citedLabelList 0 (dropDefinitionList tree.children)) []
    intro id member
    rw [order, References.order_nil, List.nil_append] at member
    exact (mem_firstDefinitions.1 (can id member)).1

/-- The section of a document is made as its ledger says. -/
theorem emission_ofDocument (options : LoweringOptions) (tree : Node) :
    let first := firstDefinitions [] (definitions tree)
    let body := citeAll (first.map Prod.fst)
      (Node.citedLabelList 0 (dropDefinitionList tree.children)) []
    Emission options (outerIds tree) (Ledger.ofDocument tree).citations first 0 body.2 :=
  (queue_start tree).emission options

/-- A document has a section exactly when it has links to footnotes. -/
theorem notes_eq_nil_iff (options : LoweringOptions) (tree : Node) :
    (Ledger.ofDocument tree).notes = [] ↔
      (citeAll ((firstDefinitions [] (definitions tree)).map Prod.fst)
        (Node.citedLabelList 0 (dropDefinitionList tree.children)) []).2 = [] := by
  constructor
  · intro none
    have ids := (emission_ofDocument options tree).ids
    have order := (queue_start tree).tally.order
    obtain ⟨added, extended⟩ := linkedIds_append (Ledger.ofDocument tree).body
      ((Ledger.ofDocument tree).notes.flatMap (·.citations))
    have same : (Ledger.ofDocument tree).notes = notes (firstDefinitions [] (definitions tree)) 0
      (citeAll ((firstDefinitions [] (definitions tree)).map Prod.fst)
        (Node.citedLabelList 0 (dropDefinitionList tree.children)) []).2 := rfl
    rw [← same, none, Ledger.citations, extended, List.drop_zero] at ids
    have empty := (List.append_eq_nil_iff.1 ids.symm).1
    rw [Ledger.ofDocument] at empty
    rw [empty] at order
    simpa [References.order] using order
  · intro none
    rw [Ledger.ofDocument]
    exact notes_done (by rw [none]; rfl)

/-- A document is lowered to the tree that its ledger describes. -/
theorem lowerDocument_eq (options : LoweringOptions) (tree : Node) :
    lowerDocument options tree = lowerWithLedger options tree (Ledger.ofDocument tree) := by
  have items := (emission_ofDocument options tree).items
  have section_iff := notes_eq_nil_iff options tree
  simp only [Nat.zero_add] at items
  rw [lowerDocument, lowerList_lowerReference, lowerWithLedger, notesSection]
  simp only [List.isEmpty_iff, section_iff, items]
  rfl

/-- A ledger has one entry for each reference that is lowered, in order, and every footnote of the
section is made from the first definition with its identifier. -/
structure Ledger.Covers (ledger : Ledger) (tree : Node) : Prop where
  body : ledger.body.map (·.label) = Node.citedLabelList 0 (dropDefinitionList tree.children)
  notes : ∀ note ∈ ledger.notes, note.citations.map (·.label) = Node.citedLabelList 0 note.content
  defines : ∀ note ∈ ledger.notes, (definitions tree).lookup note.id = some note.content

/-- The ledger of a document leaves no reference out. -/
theorem covers_ofDocument (tree : Node) : (Ledger.ofDocument tree).Covers tree where
  body := label_citeAll _ _ _
  notes := (emission_ofDocument {} tree).labels
  defines note member :=
    (lookup_of_mem_firstDefinitions ((emission_ofDocument {} tree).defines note member)).2

/-- The footnotes of the section are those that are linked to, in the order of the first link. -/
theorem ids_ofDocument (tree : Node) :
    (Ledger.ofDocument tree).notes.map (·.id) = linkedIds (Ledger.ofDocument tree).citations :=
  (emission_ofDocument {} tree).ids

/-- The section has no more items than the document has definitions. -/
theorem length_notes (tree : Node) :
    (Ledger.ofDocument tree).notes.length ≤ (definitions tree).length := by
  have distinct : ((Ledger.ofDocument tree).notes.map (·.id)).Nodup := by
    rw [ids_ofDocument]
    exact nodup_linkedIds _
  have defined : (Ledger.ofDocument tree).notes.map (·.id) ⊆
      (firstDefinitions [] (definitions tree)).map Prod.fst := by
    intro id member
    obtain ⟨note, inNotes, rfl⟩ := List.mem_map.1 member
    exact List.mem_map_of_mem ((emission_ofDocument {} tree).defines note inNotes)
  have bound := (List.subperm_of_subset distinct defined).length_le
  rw [List.length_map, List.length_map] at bound
  exact Nat.le_trans bound (length_firstDefinitions _ _)

/-- The address and the anchor of a link. -/
theorem attributes_referenceLink (front id : Text) (number reuse : Nat) :
    (referenceLink front id number reuse).attribute? "href".toList =
        some ('#' :: itemAnchor front id) ∧
      (referenceLink front id number reuse).attribute? "id".toList =
        some (referenceAnchor front id reuse) :=
  ⟨rfl, rfl⟩

/-- An item has the anchor that links to its footnote lead to. -/
theorem id_noteItem (options : LoweringOptions) (citations : List Citation) (index : Nat)
    (note : Note) :
    (noteItem options citations index note).attribute? "id".toList =
      some (itemAnchor options.footnotes.clobberFront note.id) :=
  rfl

/-- All links to a footnote are links. -/
theorem length_links (front id : Text) (citations : List Citation) :
    ((linksTo id citations).filterMap (·.link? front)).length = (linksTo id citations).length := by
  rw [List.length_filterMap_eq_countP, List.countP_eq_length]
  intro citation member
  have link := (List.mem_filter.1 member).2
  simp only [Bool.and_eq_true, Citation.isLink] at link
  simpa [Citation.link?] using link.1

/-- The links to a footnote have the anchors from the first on. -/
theorem anchors_linksTo {citations : List Citation} {references : References}
    (tally : Tally citations references) (front id : Text) :
    ((linksTo id citations).filterMap (·.link? front)).map (·.attribute? "id".toList) =
      (List.range (linksTo id citations).length).map fun index =>
        some (referenceAnchor front id (index + 1)) := by
  have counted := tally.reuse id
  rw [tally.count] at counted
  have anchor : ∀ citation ∈ linksTo id citations,
      (citation.link? front).map (·.attribute? "id".toList) =
        (citation.place.map (·.reuse)).map fun reuse => some (referenceAnchor front id reuse) := by
    intro citation member
    have own := (List.mem_filter.1 member).2
    simp only [Bool.and_eq_true, decide_eq_true_eq] at own
    obtain ⟨label, place⟩ := citation
    cases place with
    | none => rfl
    | some place =>
      rw [← own.2]
      exact congrArg some (attributes_referenceLink front _ place.number place.reuse).2
  have numbers : (linksTo id citations).filterMap (fun citation =>
      (citation.place.map (·.reuse)).map fun reuse => some (referenceAnchor front id reuse)) =
      (((linksTo id citations).map fun citation => citation.place.map (·.reuse)).filterMap
        fun reuse => reuse.map fun reuse => some (referenceAnchor front id reuse)) := by
    rw [List.filterMap_map]
    rfl
  rw [List.map_filterMap, List.filterMap_congr anchor, numbers, counted, List.filterMap_map,
    List.range'_eq_map_range, List.filterMap_map, ← List.filterMap_eq_map]
  refine List.filterMap_congr fun index _ => ?_
  rw [Function.comp, Function.comp, Function.comp, Nat.add_comm]
  rfl

/-- A link shows the number of an item and leads to it. -/
theorem link_leads_to_item (options : LoweringOptions) (tree : Node) {citation : Citation}
    (member : citation ∈ (Ledger.ofDocument tree).citations) {link : Html}
    (linked : citation.link? options.footnotes.clobberFront = some link) :
    ∃ index note, (Ledger.ofDocument tree).notes[index]? = some note ∧ note.id = citation.id ∧
      link.textContent = Text.ofNat (index + 1) ∧
      link.attribute? "href".toList =
        ((noteItem options (Ledger.ofDocument tree).citations index note).attribute?
          "id".toList).map ('#' :: ·) := by
  obtain ⟨final, tally⟩ := (emission_ofDocument options tree).tallied
  obtain ⟨place, placed, rfl⟩ := Option.map_eq_some_iff.1 linked
  obtain ⟨positive, atPlace⟩ := tally.number citation member place placed
  rw [tally.order, ← ids_ofDocument, List.getElem?_map] at atPlace
  obtain ⟨note, inNotes, same⟩ := Option.map_eq_some_iff.1 atPlace
  refine ⟨place.number - 1, note, inNotes, same, ?_, ?_⟩
  · rw [Nat.sub_add_cancel positive]
    simp [referenceLink, Html.textContent, Html.textContentList]
  · rw [(attributes_referenceLink _ _ _ _).1, id_noteItem, same]
    rfl

/-! ## What stands in the document -/

/-- What stands in place of references lasts. -/
theorem sublist_lower (front : Text) (citations : List Citation) :
    (citations.flatMap (·.lower front)).Sublist (lasting (citations.flatMap (·.lower front))) := by
  refine sublist_lasting fun node member => ?_
  obtain ⟨⟨label, place⟩, _, inNodes⟩ := List.mem_flatMap.1 member
  cases place with
  | none =>
    rw [List.mem_singleton.1 inNodes]
    rfl
  | some place =>
    rw [List.mem_singleton.1 inNodes]
    rfl

/-- Links are in what stands in place of their references. -/
theorem sublist_links (front : Text) (citations : List Citation) :
    (citations.filterMap (·.link? front)).Sublist
      (lasting (citations.flatMap (·.lower front))) := by
  induction citations with
  | nil => exact List.Sublist.refl _
  | cons citation rest ih =>
    rw [List.flatMap_cons, lasting_append]
    obtain ⟨label, place⟩ := citation
    cases place with
    | none => exact ih.trans (List.sublist_append_right _ _)
    | some place =>
      let link := referenceLink front (Footnote.identifier label) place.number place.reuse
      have raised : lasting (Citation.lower front ⟨label, some place⟩) =
          [.element { name := "sup".toList } [link], link, .text (Text.ofNat place.number)] := rfl
      have linked : (⟨label, some place⟩ :: rest).filterMap (·.link? front) =
          link :: rest.filterMap (·.link? front) := rfl
      rw [raised, linked]
      exact ((ih.trans (List.sublist_append_right [_] _)).cons_cons link).cons _

/-- What stands in place of the references in a definition stands in its item. -/
theorem subperm_noteItem (options : LoweringOptions) (citations : List Citation) (index : Nat)
    {note : Note} (labels : note.citations.map (·.label) = Node.citedLabelList 0 note.content) :
    (lasting (note.citations.flatMap (·.lower options.footnotes.clobberFront))).Subperm
      (lasting [noteItem options citations index note]) := by
  have each : (note.citations.map (·.lower options.footnotes.clobberFront)).length =
      (Node.citedLabelList 0 note.content).length := by
    rw [← labels, List.length_map, List.length_map]
  rw [List.flatMap_def]
  refine (subperm_fill options note.content each).trans (List.Sublist.subperm ?_)
  exact ((addedTo_withBackReferences _ _).lasting.trans
    (lasting_sublist (sublist_surround _))).trans (lasting_element_sublist _ _)

/-- What stands in the items of some footnotes stands in the list of these items. -/
theorem subperm_mapIdx {lowered : Note → List Html} {notes : List Note} {item : Nat → Note → Html}
    (each : ∀ index, ∀ note ∈ notes,
      (lasting (lowered note)).Subperm (lasting [item index note])) :
    (lasting (notes.flatMap lowered)).Subperm (lasting (notes.mapIdx item)) := by
  induction notes generalizing item with
  | nil => exact List.Subperm.refl _
  | cons note rest ih =>
    have later : ∀ index, ∀ other ∈ rest,
        (lasting (lowered other)).Subperm (lasting [item (index + 1) other]) :=
      fun index other member => each (index + 1) other (List.mem_cons_of_mem _ member)
    rw [List.flatMap_cons, List.mapIdx_cons, lasting_append, lasting_cons]
    exact (each 0 note List.mem_cons_self).append (ih later)

/-- What lasts of the items lasts of the section. -/
theorem lasting_footnoteSection (label : Text) (items : List Html) :
    (lasting items).Sublist (lasting [footnoteSection label items]) := by
  refine List.Sublist.trans ?_ (lasting_element_sublist _ _)
  refine List.Sublist.trans ?_ (lasting_sublist (sublist_surround _))
  refine List.Sublist.trans ?_ (lasting_sublist (List.sublist_cons_self _ _))
  exact (lasting_sublist (sublist_surround items)).trans (lasting_element_sublist _ _)

/-- What stands in place of the references of a document stands in what it is lowered to, each as
often as there are references. -/
theorem subperm_lowerDocument (options : LoweringOptions) (tree : Node) :
    let ledger := Ledger.ofDocument tree
    (lasting (ledger.citations.flatMap (·.lower options.footnotes.clobberFront))).Subperm
      (lowerDocument options tree).nodes := by
  intro ledger
  have covers := covers_ofDocument tree
  have body : (lasting (ledger.body.flatMap (·.lower options.footnotes.clobberFront))).Subperm
      (lasting (fill options (dropDefinitionList tree.children)
        (ledger.body.map (·.lower options.footnotes.clobberFront)))) := by
    rw [List.flatMap_def]
    refine subperm_fill options _ ?_
    rw [← covers.body, List.length_map, List.length_map]
  have notes : (lasting (ledger.notes.flatMap fun note =>
      note.citations.flatMap (·.lower options.footnotes.clobberFront))).Subperm
      (lasting (notesSection options ledger)) := by
    rw [notesSection]
    split
    · rename_i none
      rw [List.isEmpty_iff.1 none]
      exact List.nil_subperm
    · exact (subperm_mapIdx fun index note member =>
        subperm_noteItem options ledger.citations index (covers.notes note member)).trans
          (lasting_footnoteSection _ _).subperm
  rw [lowerDocument_eq, Ledger.citations, List.flatMap_append, List.flatMap_assoc, lasting_append]
  refine (body.append notes).trans (List.Sublist.subperm ?_)
  rw [← lasting_append, lowerWithLedger]
  refine (lasting_sublist (sublist_separate _)).trans ?_
  exact List.filter_sublist.trans (List.sublist_cons_self _ _)

/-- The children of a document whose last one is a section of footnotes, with one list in it, which
has these items. -/
def EndsWithItems (children items : List Html) : Prop :=
  ∃ tag parts list, children.getLast? = some (.element tag parts) ∧
    Html.isFootnoteSection tag = true ∧
    parts.filter (·.isElement "ol".toList) = [list] ∧
    list.children.filter (·.isElement "li".toList) = items

/-- The last of several siblings stays the last when they are set apart. -/
theorem getLast?_separate_append (nodes : List Html) (last : Html) :
    (separate (nodes ++ [last])).getLast? = some last := by
  induction nodes with
  | nil => rfl
  | cons first rest ih =>
    cases rest with
    | nil => rfl
    | cons second rest =>
      have apart : separate (first :: second :: rest ++ [last]) =
          first :: newline :: separate (second :: rest ++ [last]) := rfl
      rw [apart, List.getLast?_cons, List.getLast?_cons, ih]
      rfl

/-- A document with links to footnotes ends with the items for them. -/
theorem endsWithItems_lowerDocument (options : LoweringOptions) (tree : Node) :
    let ledger := Ledger.ofDocument tree
    ledger.notes = [] ∨ EndsWithItems (lowerDocument options tree).children
      (ledger.notes.mapIdx (noteItem options ledger.citations)) := by
  intro ledger
  refine or_iff_not_imp_left.2 fun linked => ?_
  rw [lowerDocument_eq, lowerWithLedger, notesSection, if_neg (by simpa using linked)]
  refine ⟨_, _, _, getLast?_separate_append _ _, rfl, rfl, ?_⟩
  refine (read_surround (List.filter (·.isElement "li".toList))
    (fun _ _ => List.filter_append ..) rfl _).trans (List.filter_eq_self.2 fun item member => ?_)
  obtain ⟨index, inside, rfl⟩ := List.mem_mapIdx.1 member
  rfl

/-- The item of a footnote leads back to the links to it. -/
theorem leadsBack_noteItem (options : LoweringOptions) (tree : Node) (index : Nat) (note : Note) :
    let ledger := Ledger.ofDocument tree
    let front := options.footnotes.clobberFront
    LeadsBack ((linksTo note.id ledger.citations).filterMap (·.link? front))
      (fill options note.content (note.citations.map (·.lower front)))
      (noteItem options ledger.citations index note) := by
  intro ledger front
  obtain ⟨final, tally⟩ := (emission_ofDocument options tree).tallied
  have added := addedTo_withBackReferences (backReferences options.footnotes note.id (index + 1)
      (linksTo note.id ledger.citations).length)
    (fill options note.content (note.citations.map (·.lower front)))
  obtain ⟨before, after, own, all⟩ := added.waysBack
  rw [waysBack_backReferences] at all
  refine ⟨before, _, after, _, added, rfl, own, ?_, ?_⟩
  · exact (read_surround Html.waysBack Html.waysBack_append rfl _).trans all
  · have anchors :=
      congrArg (List.map (Option.map ('#' :: ·))) (anchors_linksTo tally front note.id)
    rw [List.map_map, List.map_map] at anchors
    rw [List.map_map]
    exact anchors.symm

/-- The anchors of the links to a footnote are counted up from the second link on. -/
theorem anchors_ofDocument (front : Text) (tree : Node) (id : Text) :
    let links := (linksTo id (Ledger.ofDocument tree).citations).filterMap (·.link? front)
    links.map (·.attribute? "id".toList) = (List.range links.length).map fun index =>
      some (front ++ "fnref-".toList ++ id ++
        if index = 0 then [] else '-' :: Text.ofNat (index + 1)) := by
  intro links
  obtain ⟨final, tally⟩ := (emission_ofDocument {} tree).tallied
  rw [anchors_linksTo tally, length_links]
  refine List.map_congr_left fun index _ => ?_
  rw [referenceAnchor, reuseMark]
  rcases index with _ | index
  · rfl
  · rw [if_pos (by omega), if_neg (Nat.succ_ne_zero index)]

/-- References and section agree. Every link stands in the document, which ends with one item for
each footnote that is linked to, in the order of the first link; a link shows the number of its item
and leads to it; the links to a footnote have anchors that are counted up from the second on; and
the item leads back to exactly these anchors, in order. -/
theorem footnotes_agree (options : LoweringOptions) (tree : Node) :
    let ledger := Ledger.ofDocument tree
    let front := options.footnotes.clobberFront
    let document := lowerDocument options tree
    document = lowerWithLedger options tree ledger ∧
    ledger.Covers tree ∧
    (ledger.links front).Subperm document.nodes ∧
    ledger.notes.length ≤ (definitions tree).length ∧
    ledger.notes.map (·.id) = linkedIds ledger.citations ∧
    (ledger.notes = [] ∨ EndsWithItems document.children
      (ledger.notes.mapIdx (noteItem options ledger.citations))) ∧
    (∀ citation ∈ ledger.citations, ∀ link, citation.link? front = some link →
      ∃ index note, ledger.notes[index]? = some note ∧ note.id = citation.id ∧
        link.textContent = Text.ofNat (index + 1) ∧
        link.attribute? "href".toList =
          ((noteItem options ledger.citations index note).attribute? "id".toList).map ('#' :: ·)) ∧
    ∀ index note, ledger.notes[index]? = some note →
      let links := (linksTo note.id ledger.citations).filterMap (·.link? front)
      (links.map (·.attribute? "id".toList) = (List.range links.length).map fun index =>
        some (front ++ "fnref-".toList ++ note.id ++
          if index = 0 then [] else '-' :: Text.ofNat (index + 1))) ∧
      LeadsBack links (fill options note.content (note.citations.map (·.lower front)))
        (noteItem options ledger.citations index note) := by
  intro ledger front document
  refine ⟨lowerDocument_eq options tree, covers_ofDocument tree, ?_, length_notes tree,
    ids_ofDocument tree, endsWithItems_lowerDocument options tree, ?_, ?_⟩
  · exact (sublist_links front ledger.citations).subperm.trans (subperm_lowerDocument options tree)
  · exact fun citation member link linked => link_leads_to_item options tree member linked
  · exact fun index note _ =>
      ⟨anchors_ofDocument front tree note.id, leadsBack_noteItem options tree index note⟩

/-- A reference outside the section becomes a link exactly when its footnote has a definition that
is not inside another. -/
theorem isLink_body (tree : Node) {citation : Citation}
    (member : citation ∈ (Ledger.ofDocument tree).body) :
    citation.isLink = true ↔ citation.id ∈ outerIds tree := by
  rw [isLink_citeAll _ _ _ citation member, mem_firstDefinitions]
  simp [outerIds]

/-- A reference in an item becomes a link exactly when its footnote has a definition that is not
inside another and none of the items so far, this one included. -/
theorem isLink_note (tree : Node) {index : Nat} {note : Note}
    (inNotes : (Ledger.ofDocument tree).notes[index]? = some note) {citation : Citation}
    (member : citation ∈ note.citations) :
    citation.isLink = true ↔ citation.id ∈ outerIds tree ∧
      citation.id ∉ ((Ledger.ofDocument tree).notes.take (index + 1)).map (·.id) := by
  have links := (emission_ofDocument {} tree).links index note inNotes citation member
  rw [List.map_take, ids_ofDocument, links, Nat.zero_add]

/-- The identifiers of definitions that are not inside another are among all. -/
theorem outerIds_subset (tree : Node) : outerIds tree ⊆ tree.footnoteIds := by
  obtain ⟨kind, children, data, span⟩ := tree
  intro id member
  rw [outerIds, definitions] at member
  rw [Node.footnoteIds]
  exact List.mem_append_right _ (definitionList_subset children member)

/-- A reference becomes a link exactly when its footnote is defined somewhere in the document, but
for two kinds: those to footnotes that are only defined inside other definitions, and those in the
section whose footnote has an item already, or is the one that they are in. -/
theorem reference_meets_definition_iff (options : LoweringOptions) (tree : Node) :
    let ledger := Ledger.ofDocument tree
    let front := options.footnotes.clobberFront
    lowerDocument options tree = lowerWithLedger options tree ledger ∧
    ledger.Covers tree ∧
    (ledger.citations.flatMap (·.lower front)).Subperm (lowerDocument options tree).nodes ∧
    (∀ citation ∈ ledger.citations,
      if citation.isLink then
        ∃ link, citation.link? front = some link ∧
          citation.lower front = [.element { name := "sup".toList } [link]]
      else citation.lower front = [.text ("[^".toList ++ citation.label ++ [']'])]) ∧
    (∀ citation ∈ ledger.body,
      (citation.isLink = true ↔ citation.id ∈ tree.footnoteIds) ↔
        (citation.id ∈ tree.footnoteIds → citation.id ∈ outerIds tree)) ∧
    ∀ index note, ledger.notes[index]? = some note → ∀ citation ∈ note.citations,
      (citation.isLink = true ↔ citation.id ∈ tree.footnoteIds) ↔
        (citation.id ∈ tree.footnoteIds → citation.id ∈ outerIds tree ∧
          citation.id ∉ (ledger.notes.take (index + 1)).map (·.id)) := by
  intro ledger front
  refine ⟨lowerDocument_eq options tree, covers_ofDocument tree, ?_, ?_, ?_, ?_⟩
  · exact (sublist_lower front ledger.citations).subperm.trans (subperm_lowerDocument options tree)
  · rintro ⟨label, place⟩ _
    cases place with
    | none => rfl
    | some place => exact ⟨_, rfl, rfl⟩
  · intro citation member
    have defined := @outerIds_subset tree citation.id
    rw [isLink_body tree member]
    exact ⟨fun same => same.2, fun outer => ⟨defined, outer⟩⟩
  · intro index note inNotes citation member
    have defined := @outerIds_subset tree citation.id
    rw [isLink_note tree inNotes member]
    exact ⟨fun same => same.2, fun outer => ⟨fun both => defined both.1, outer⟩⟩

/-- A document with a footnote that refers to itself. -/
def selfReference : Node :=
  let text (value : String) : Node := ⟨.text value.toList, [], {}, none⟩
  let reference : Node := ⟨.footnoteReference ['1'], [], {}, none⟩
  ⟨.root, [
    ⟨.paragraph, [text "a", reference], {}, none⟩,
    ⟨.footnoteDefinition ['1'], [⟨.paragraph, [text "see ", reference], {}, none⟩], {}, none⟩],
    {}, none⟩

/-- A reference of a footnote to itself stays what it is in the source. -/
theorem selfReference_stays_literal :
    let ledger := Ledger.ofDocument selfReference
    lowerDocument {} selfReference = lowerWithLedger {} selfReference ledger ∧
    ∃ note citation, ledger.notes[0]? = some note ∧ citation ∈ note.citations ∧
      citation.id ∈ selfReference.footnoteIds ∧
      citation.lower [] = [.text "[^1]".toList] := by
  refine ⟨lowerDocument_eq _ _, ?_⟩
  have shape : (Ledger.ofDocument selfReference).notes[0]? =
      some ⟨['1'], [⟨.paragraph, [⟨.text "see ".toList, [], {}, none⟩,
        ⟨.footnoteReference ['1'], [], {}, none⟩], {}, none⟩], [⟨['1'], none⟩]⟩ := by
    rw [Ledger.ofDocument]
    exact congrArg (·[0]?) (@notes_turn _ [] 0 1 _ ['1'] _ rfl rfl)
  exact ⟨_, ⟨['1'], none⟩, shape, by simp, by decide, rfl⟩

end Lowering

end Manuscript
