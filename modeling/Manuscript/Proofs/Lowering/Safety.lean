import Manuscript.Proofs.Document.Safety
import Manuscript.Proofs.Footnote.WayBack

/-!
# The lowering of a safe document is safe

Every kind of node is lowered to elements of known names, and their attributes are those that the
lowering sets itself and those that the annotations give. So what a safe document is lowered to is
safe when raw HTML is not kept (`isSafe_lowerDocument`).
-/

namespace Manuscript.Lowering

open Html (AreSafe areSafe_nil areSafe_cons areSafe_singleton areSafe_append areSafe_around)
open Footnote (References)

/-- A plain tag is safe if its name is known. -/
theorem isSafe_plainTag {name : String} (known : name.toList ∈ Tag.elementNames) :
    (plainTag name).IsSafe :=
  Tag.isSafe_plain known []

/-- A text between siblings keeps them safe. -/
theorem areSafe_intersperse (value : Text) {nodes : List Html} (safe : AreSafe nodes) :
    AreSafe (nodes.intersperse (.text value)) := by
  induction nodes with
  | nil => exact safe
  | cons first rest ih =>
    obtain ⟨own, others⟩ := areSafe_cons.1 safe
    cases rest with
    | nil => exact safe
    | cons second rest =>
      rw [List.intersperse_cons_cons]
      exact areSafe_cons.2 ⟨own, areSafe_cons.2 ⟨.text value, ih others⟩⟩

/-- Newlines between siblings keep them safe. -/
theorem areSafe_separate {nodes : List Html} (safe : AreSafe nodes) : AreSafe (separate nodes) :=
  areSafe_intersperse _ safe

/-- Newlines around siblings keep them safe. -/
theorem areSafe_surround {nodes : List Html} (safe : AreSafe nodes) : AreSafe (surround nodes) := by
  rw [surround]
  split
  · exact areSafe_nil
  · exact areSafe_cons.2 ⟨.text _, areSafe_append.2
      ⟨areSafe_separate safe, areSafe_singleton.2 (.text _)⟩⟩

/-- Safe annotations keep a tag safe. -/
theorem isSafe_applyProperties {data : Annotations} (safe : data.IsSafe) {tag : Tag}
    (tagSafe : tag.IsSafe) : (applyProperties data tag).IsSafe := by
  rw [applyProperties]
  refine Tag.IsSafe.setAll ?_ safe.properties
  split
  · exact tagSafe.setAttribute (by decide) _
  · exact tagSafe

/-- Safe annotations keep a tag safe. -/
theorem isSafe_applyData {data : Annotations} (safe : data.IsSafe) {tag : Tag}
    (tagSafe : tag.IsSafe) : (applyData data tag).IsSafe := by
  have renamed : Tag.IsSafe { tag with name := data.tagName.getD tag.name } := by
    obtain ⟨known, attributes⟩ := Tag.isSafe_iff.1 tagSafe
    refine Tag.isSafe_mk ?_ attributes _
    cases given : data.tagName with
    | none => exact known
    | some name => exact safe.tagName name given
  rw [applyData]
  refine isSafe_applyProperties safe ?_
  split
  · exact (renamed.addClasses _).setAttribute (by decide) _
  · exact renamed.addClasses _

/-- An attribute that may be missing keeps a tag safe. -/
theorem isSafe_setOptional {name : String} (safeName : IsSafeName name.toList) (value : Option Text)
    {tag : Tag} (safe : tag.IsSafe) : (setOptional name value tag).IsSafe := by
  unfold setOptional
  split
  · exact safe.setAttribute safeName _
  · exact safe

/-- A code block is safe. -/
theorem isSafe_codeBlock (language : Option Text) (value : Text) {data : Annotations}
    (safe : data.IsSafe) : (codeBlock language value data).IsSafe := by
  have code : (plainTag "code").IsSafe := isSafe_plainTag (by decide)
  refine .element ((isSafe_plainTag (by decide)).addClasses _) (areSafe_singleton.2 (.element
    (isSafe_applyProperties safe ?_) (areSafe_singleton.2 (.text _))))
  exact isSafe_setOptional (by decide) _ (isSafe_setOptional (by decide) _
    (isSafe_setOptional (by decide) _ (code.addClasses _)))

/-- The tag of a list is safe. -/
theorem isSafe_listTag (ordered : Bool) (start : Option Nat) (hasTasks : Bool) :
    (listTag ordered start hasTasks).IsSafe := by
  have plain : (plainTag (if ordered then "ol" else "ul")).IsSafe := by
    cases ordered <;> exact isSafe_plainTag (by decide)
  have classed : ∀ {tag : Tag}, tag.IsSafe →
      (if hasTasks then tag.addClass "contains-task-list".toList else tag).IsSafe := by
    intro tag safe
    split
    · exact safe.addClass _
    · exact safe
  cases start with
  | none => exact classed plain
  | some first =>
    refine classed ?_
    split
    · exact plain.setAttribute (by decide) _
    · exact plain

/-- The box of a task is safe. -/
theorem areSafe_taskBox (checked : Bool) : AreSafe (taskBox checked) := by
  have box : (((plainTag "input").setAttribute "type".toList "checkbox".toList).setAttribute
      "disabled".toList []).IsSafe :=
    ((isSafe_plainTag (by decide)).setAttribute (by decide) _).setAttribute (by decide) _
  refine areSafe_cons.2 ⟨.element ?_ areSafe_nil, areSafe_singleton.2 (.text _)⟩
  split
  · exact box.setAttribute (by decide) _
  · exact box

/-- Putting nodes into the first paragraph keeps siblings safe. -/
theorem areSafe_intoFirstParagraph {nodes siblings result : List Html} (safe : AreSafe nodes)
    (siblingsSafe : AreSafe siblings) (found : intoFirstParagraph nodes siblings = some result) :
    AreSafe result := by
  obtain ⟨front, tag, children, back, _, rfl, rfl⟩ := intoFirstParagraph_eq_some found
  obtain ⟨before, paragraph, after⟩ := areSafe_around.1 siblingsSafe
  cases paragraph with
  | element tagSafe below =>
    exact areSafe_around.2 ⟨before, .element tagSafe (areSafe_append.2 ⟨safe, below⟩), after⟩

/-- The element for a list item is safe if its content is. -/
theorem isSafe_listItem (checked : Option Bool) (spread : Bool) {content : List Html}
    (safe : AreSafe content) :
    (listItem checked spread content).1.IsSafe ∧ AreSafe (listItem checked spread content).2 := by
  have apart : AreSafe (if spread then surround content else content) := by
    split
    · exact areSafe_surround safe
    · exact safe
  have item : (plainTag "li").IsSafe := isSafe_plainTag (by decide)
  cases checked with
  | none => exact ⟨item, apart⟩
  | some checked =>
    refine ⟨item.addClass "task-list-item".toList, ?_⟩
    have boxed := areSafe_append.2 ⟨areSafe_taskBox checked, apart⟩
    rw [listItem]
    dsimp only
    split
    · rename_i isSpread
      rw [if_pos isSpread] at apart boxed
      cases found : intoFirstParagraph (taskBox checked) (surround content) with
      | none => exact boxed
      | some result => exact areSafe_intoFirstParagraph (areSafe_taskBox checked) apart found
    · rename_i tight
      rwa [if_neg tight] at boxed

/-- The tag of a table cell is safe. -/
theorem isSafe_cellTag (isHead : Bool) (alignment : Option ColumnAlignment) :
    (cellTag isHead alignment).IsSafe := by
  have plain : (plainTag (if isHead then "th" else "td")).IsSafe := by
    cases isHead <;> exact isSafe_plainTag (by decide)
  have aligned : ∀ side, ((plainTag (if isHead then "th" else "td")).setAttribute "align".toList
      side).IsSafe := fun side => plain.setAttribute (by decide) side
  rcases alignment with _ | _ | _
  · exact plain
  · exact plain
  all_goals exact aligned _

/-- The sections of a table are safe if its rows are. -/
theorem areSafe_tableSections {head body : List Html} (headSafe : AreSafe head)
    (bodySafe : AreSafe body) : AreSafe (tableSections head body) := by
  refine areSafe_cons.2 ⟨.element (isSafe_plainTag (by decide)) (areSafe_surround headSafe), ?_⟩
  split
  · exact areSafe_nil
  · exact areSafe_singleton.2 (.element (isSafe_plainTag (by decide)) (areSafe_surround bodySafe))

/-- The element for a node with children has a safe tag. -/
theorem isSafe_plainElement? {kind : Kind} {tag : Tag} {apart : Bool}
    (plain : plainElement? kind = some (tag, apart)) : tag.IsSafe := by
  cases kind with
  | heading level =>
    cases plain
    have known : ∀ name ∈ headingNames, name ∈ Tag.elementNames := by decide
    exact Tag.isSafe_plain (known _ (headingName_mem level)) []
  | abbreviation title =>
    cases plain
    exact (isSafe_plainTag (by decide)).setAttribute (by decide) _
  | link url title =>
    cases plain
    exact isSafe_setOptional (by decide) _
      ((isSafe_plainTag (by decide)).setAttribute (by decide) _)
  | paragraph | blockquote | emphasis | strong | delete | mark | tableRow | tableCell | container =>
    cases plain
    exact isSafe_plainTag (by decide)
  | _ => cases plain

/-- The nodes for a leaf are safe when raw HTML is not kept. -/
theorem areSafe_leaf {options : LoweringOptions} (harmless : options.allowDangerousHtml = false)
    (kind : Kind) {data : Annotations} (safe : data.IsSafe) : AreSafe (leaf options kind data) := by
  unfold leaf
  split
  · exact areSafe_singleton.2 (.text _)
  · exact areSafe_singleton.2 (isSafe_codeBlock _ _ safe)
  · exact areSafe_singleton.2 (.element (isSafe_applyData safe (isSafe_plainTag (by decide)))
      (areSafe_singleton.2 (.text _)))
  · refine areSafe_singleton.2 (.element (isSafe_applyData safe ?_) areSafe_nil)
    exact isSafe_setOptional (by decide) _ (((isSafe_plainTag (by decide)).setAttribute
      (by decide) _).setAttribute (by decide) _)
  · exact areSafe_cons.2 ⟨.element (isSafe_plainTag (by decide)) areSafe_nil,
      areSafe_singleton.2 (.text _)⟩
  · exact areSafe_singleton.2
      (.element (isSafe_applyData safe (isSafe_plainTag (by decide))) areSafe_nil)
  · rw [harmless]
    exact areSafe_nil
  · exact areSafe_nil

section

variable {Memory : Type} {options : LoweringOptions} {rule : ReferenceRule Memory}

/-- Every way to lower a node gives safe nodes. -/
structure NodeSafe (options : LoweringOptions) (rule : ReferenceRule Memory) (node : Node) :
    Prop where
  asNode : ∀ bare memory, AreSafe (lowerNode options rule bare node memory).1
  asParent : ∀ memory, AreSafe (lowerChildren options rule node memory).1
  asItem : ∀ spread memory, AreSafe (lowerItem options rule spread node memory).1
  asRow : ∀ isHead columns memory, AreSafe (lowerRow options rule isHead columns node memory).1

/-- Every way to lower a list of nodes gives safe nodes. -/
structure ListSafe (options : LoweringOptions) (rule : ReferenceRule Memory) (nodes : List Node) :
    Prop where
  asList : ∀ memory, AreSafe (lowerList options rule nodes memory).1
  asItems : ∀ spread memory, AreSafe (lowerItems options rule spread nodes memory).1
  asContent : ∀ spread memory, AreSafe (lowerItemContent options rule spread nodes memory).1
  asHead : ∀ columns memory, AreSafe (lowerRows options rule columns nodes memory).1
  asBody : ∀ columns memory, AreSafe (lowerRows options rule columns nodes memory).2.1
  asCells : ∀ isHead columns memory,
    AreSafe (lowerCells options rule isHead columns nodes memory).1

/-- A node is lowered to safe nodes if its children are. -/
theorem nodeSafe_of_children (harmless : options.allowDangerousHtml = false)
    (ruleSafe : ∀ label memory, AreSafe (rule label memory).1) {kind : Kind} {children : List Node}
    {data : Annotations} {span : Option Span} (dataSafe : data.IsSafe)
    (below : ListSafe options rule children) :
    NodeSafe options rule ⟨kind, children, data, span⟩ where
  asNode := by
    intro bare memory
    have given : Annotations.IsSafe (if bare then {} else data) := by
      split
      · exact Annotations.isSafe_default
      · exact dataSafe
    have table : (plainTag "table").IsSafe := isSafe_plainTag (by decide)
    unfold lowerNode
    dsimp only
    split
    · exact below.asList memory
    · exact ruleSafe _ memory
    · exact areSafe_singleton.2 (.element (isSafe_applyData given (isSafe_listTag _ _ _))
        (areSafe_surround (below.asItems _ memory)))
    · obtain ⟨tagSafe, content⟩ := isSafe_listItem _ true (below.asContent true memory)
      exact areSafe_singleton.2 (.element (isSafe_applyData given tagSafe) content)
    · exact areSafe_singleton.2 (.element (isSafe_applyData given table)
        (areSafe_surround (areSafe_tableSections (below.asHead _ memory) (below.asBody _ memory))))
    · split
      · rename_i plain
        refine areSafe_singleton.2 (.element
          (isSafe_applyData given (isSafe_plainElement? plain)) ?_)
        split
        · exact areSafe_surround (below.asList memory)
        · exact below.asList memory
      · exact areSafe_leaf harmless _ given
  asParent := below.asList
  asItem := below.asContent
  asRow := below.asCells

/-- Nothing is made of an empty list. -/
theorem listSafe_nil : ListSafe options rule [] where
  asList _ := areSafe_nil
  asItems _ _ := areSafe_nil
  asContent _ _ := areSafe_nil
  asHead _ _ := areSafe_nil
  asBody _ _ := areSafe_nil
  asCells _ _ _ := areSafe_nil

/-- A list is lowered to safe nodes if its first node and the others are. -/
theorem listSafe_cons {node : Node} {rest : List Node} (dataSafe : node.data.IsSafe)
    (head : NodeSafe options rule node) (tail : ListSafe options rule rest) :
    ListSafe options rule (node :: rest) where
  asList memory := areSafe_append.2 ⟨head.asNode false memory, tail.asList _⟩
  asItems spread memory := by
    rw [lowerItems]
    split
    · obtain ⟨tagSafe, content⟩ := isSafe_listItem _ spread (head.asItem spread memory)
      exact areSafe_cons.2 ⟨.element (isSafe_applyData dataSafe tagSafe) content,
        tail.asItems spread _⟩
    · exact areSafe_append.2 ⟨head.asNode true memory, tail.asItems spread _⟩
  asContent spread memory := by
    rw [lowerItemContent]
    refine areSafe_append.2 ⟨?_, tail.asContent spread _⟩
    split
    · exact head.asParent memory
    · exact head.asNode false memory
  asHead columns memory := by
    have row : (plainTag "tr").IsSafe := isSafe_plainTag (by decide)
    rw [lowerRows]
    dsimp only
    split
    · exact areSafe_cons.2 ⟨.element row (areSafe_surround (head.asRow _ columns memory)),
        tail.asHead columns _⟩
    · exact tail.asHead columns _
  asBody columns memory := by
    have row : (plainTag "tr").IsSafe := isSafe_plainTag (by decide)
    rw [lowerRows]
    dsimp only
    split
    · exact tail.asBody columns _
    · exact areSafe_cons.2 ⟨.element row (areSafe_surround (head.asRow _ columns memory)),
        tail.asBody columns _⟩
  asCells isHead columns memory := areSafe_cons.2
    ⟨.element (isSafe_cellTag isHead _) (head.asParent memory), tail.asCells isHead _ _⟩

/-- Safe nodes are lowered to safe nodes. -/
theorem areSafe_lowerList (harmless : options.allowDangerousHtml = false)
    (ruleSafe : ∀ label memory, AreSafe (rule label memory).1) {nodes : List Node}
    (safe : Node.AreSafe nodes) (memory : Memory) :
    AreSafe (lowerList options rule nodes memory).1 := by
  have all : (∀ node : Node, node.IsSafe → NodeSafe options rule node) ∧
      ∀ nodes, Node.AreSafe nodes → ListSafe options rule nodes := by
    refine Node.induction ?_ ?_ ?_
    · intro kind children data span below safe
      obtain ⟨dataSafe, inside⟩ := Node.isSafe_iff.1 safe
      exact nodeSafe_of_children harmless ruleSafe dataSafe (below inside)
    · exact fun _ => listSafe_nil
    · intro node rest own later safe
      obtain ⟨first, others⟩ := Node.areSafe_cons.1 safe
      exact listSafe_cons (Node.isSafe_iff.1 first).1 (own first) (later others)
  exact (all.2 nodes safe).asList memory

end

/-- What a reference to a footnote is lowered to is safe. -/
theorem areSafe_citation (front : Text) (citation : Footnote.Citation) :
    AreSafe (citation.lower front) := by
  rw [Footnote.Citation.lower]
  split
  · rename_i link found
    obtain ⟨place, _, rfl⟩ := Option.map_eq_some_iff.1 found
    refine areSafe_singleton.2 (.element (Tag.isSafe_plain (by decide) _) (areSafe_singleton.2
      (.element (Tag.isSafe_mk (by decide) ?_ _) (areSafe_singleton.2 (.text _)))))
    simp only [List.forall_mem_cons]
    exact ⟨(by decide : IsSafeName "href".toList), (by decide : IsSafeName "id".toList), by decide,
      by decide, fun _ none => nomatch none⟩
  · exact areSafe_singleton.2 (.text _)

/-- The ways back to the references of a footnote are safe. -/
theorem areSafe_backReferences (options : FootnoteOptions) (id : Text) (number count : Nat) :
    AreSafe (Footnote.backReferences options id number count) := by
  refine areSafe_intersperse _ fun node member => ?_
  obtain ⟨index, _, rfl⟩ := List.mem_map.1 member
  refine .element (Tag.isSafe_mk (by decide) ?_ _) (areSafe_cons.2 ⟨.text _, ?_⟩)
  · simp only [List.forall_mem_cons]
    exact ⟨(by decide : IsSafeName "href".toList), by decide,
      (by decide : IsSafeName "aria-label".toList), fun _ none => nomatch none⟩
  · split
    · exact areSafe_singleton.2
        (.element (Tag.isSafe_plain (by decide) _) (areSafe_singleton.2 (.text _)))
    · exact areSafe_nil

/-- Safe content stays safe when safe nodes are added to it. -/
theorem areSafe_of_addedTo {nodes content body : List Html} (safe : AreSafe nodes)
    (contentSafe : AreSafe content) (added : Footnote.AddedTo nodes content body) :
    AreSafe body := by
  cases added with
  | paragraph _ _ =>
    obtain ⟨before, paragraph, after⟩ := areSafe_around.1 contentSafe
    cases paragraph with
    | element tagSafe below =>
      have put := areSafe_append.2 ⟨below, areSafe_cons.2 ⟨.text [' '], safe⟩⟩
      exact areSafe_around.2 ⟨before, .element tagSafe put, after⟩
  | behind _ => exact areSafe_append.2 ⟨contentSafe, safe⟩

/-- The contents of footnote definitions are safe. -/
def DefinitionsSafe (definitions : List (Text × List Node)) : Prop :=
  ∀ entry ∈ definitions, Node.AreSafe entry.2

/-- Taking a definition leaves safe ones. -/
theorem DefinitionsSafe.takeDefinition? {id : Text} {definitions others : List (Text × List Node)}
    {children : List Node} (safe : DefinitionsSafe definitions)
    (taken : takeDefinition? id definitions = some (children, others)) :
    Node.AreSafe children ∧ DefinitionsSafe others := by
  induction definitions generalizing others with
  | nil => cases taken
  | cons entry rest ih =>
    obtain ⟨own, later⟩ := List.forall_mem_cons.1 safe
    rw [Lowering.takeDefinition?] at taken
    split at taken
    · cases taken
      exact ⟨own, later⟩
    · obtain ⟨⟨found, left⟩, inRest, same⟩ := Option.map_eq_some_iff.1 taken
      cases same
      obtain ⟨content, after⟩ := ih later inRest
      exact ⟨content, List.forall_mem_cons.2 ⟨own, after⟩⟩

/-- The items of the section are safe. -/
theorem areSafe_footnoteItems {options : LoweringOptions}
    (harmless : options.allowDangerousHtml = false) (remaining : List (Text × List Node))
    (index : Nat) (references : References) (safe : DefinitionsSafe remaining) :
    AreSafe (footnoteItems options remaining index references) := by
  induction remaining, index, references using footnoteItems.induct options with
  | case1 remaining index references none =>
    rw [footnoteItems]
    split <;> rename_i next <;> rw [none] at next <;> cases next
    exact areSafe_nil
  | case2 remaining index references id count next untaken ih =>
    rw [footnoteItems]
    split <;> rename_i next' <;> rw [next] at next' <;> cases next'
    split <;> rename_i taken <;> rw [untaken] at taken <;> cases taken
    exact ih safe
  | case3 remaining index references id count next children others taken content references'
      lowered ih =>
    obtain ⟨inside, left⟩ := safe.takeDefinition? taken
    rw [footnoteItems]
    split <;> rename_i next' <;> rw [next] at next' <;> cases next'
    split <;> rename_i taken' <;> rw [taken] at taken' <;> cases taken'
    rw [lowered]
    have body : AreSafe (lowerList options (lowerReference options (others.map Prod.fst)) children
        references).1 :=
      areSafe_lowerList harmless (fun _ _ => areSafe_citation _ _) inside references
    rw [lowered] at body
    have item : (plainTag "li").IsSafe := isSafe_plainTag (by decide)
    have led (nodes : List Html) (nodesSafe : AreSafe nodes) :
        AreSafe (Footnote.withBackReferences nodes content) :=
      areSafe_of_addedTo nodesSafe body (Footnote.addedTo_withBackReferences nodes content)
    exact areSafe_cons.2 ⟨.element (item.setAttribute (by decide) _)
      (areSafe_surround (led _ (areSafe_backReferences _ _ _ _))), ih left⟩

/-- The section of the footnotes is safe if its items are. -/
theorem isSafe_footnoteSection (label : Text) {items : List Html} (safe : AreSafe items) :
    (footnoteSection label items).IsSafe := by
  have section' : (plainTag "section").IsSafe := isSafe_plainTag (by decide)
  have heading : (plainTag "h2").IsSafe := isSafe_plainTag (by decide)
  refine .element ((section'.addClass _).setAttribute (by decide) _) (areSafe_surround
    (areSafe_cons.2 ⟨?_, areSafe_singleton.2 ?_⟩))
  · exact .element ((heading.addClass _).setAttribute (by decide) _) (areSafe_singleton.2 (.text _))
  · exact .element (isSafe_plainTag (by decide)) (areSafe_surround safe)

/-- Without its footnote definitions a safe document is safe. -/
theorem areSafe_dropDefinitions :
    (∀ tree : Node, tree.IsSafe → (dropDefinitions tree).IsSafe) ∧
      ∀ nodes, Node.AreSafe nodes → Node.AreSafe (dropDefinitionList nodes) := by
  refine Node.induction ?_ ?_ ?_
  · intro kind children data span below safe
    obtain ⟨dataSafe, inside⟩ := Node.isSafe_iff.1 safe
    exact .mk dataSafe (below inside)
  · exact fun safe => safe
  · intro node rest own later safe
    obtain ⟨first, others⟩ := Node.areSafe_cons.1 safe
    rw [dropDefinitionList.eq_def]
    split
    · rename_i equal
      cases equal
    · rename_i equal
      cases equal
      exact later others
    · rename_i equal
      cases equal
      exact Node.areSafe_cons.2 ⟨own first, later others⟩

/-- The footnote definitions of a safe document are safe. -/
theorem definitionsSafe_definitions :
    (∀ tree : Node, tree.IsSafe → DefinitionsSafe (definitions tree)) ∧
      ∀ nodes, Node.AreSafe nodes → DefinitionsSafe (definitionList nodes) := by
  refine Node.induction ?_ ?_ ?_
  · intro kind children data span below safe
    exact below (Node.isSafe_iff.1 safe).2
  · exact fun _ _ none => nomatch none
  · intro node rest own later safe
    obtain ⟨first, others⟩ := Node.areSafe_cons.1 safe
    rw [definitionList.eq_def]
    split
    · rename_i equal
      cases equal
    · rename_i equal
      cases equal
      exact List.forall_mem_cons.2 ⟨(Node.isSafe_iff.1 first).2, later others⟩
    · rename_i equal
      cases equal
      exact List.forall_mem_append.2 ⟨own first, later others⟩

/-- The first definitions are among the definitions. -/
theorem DefinitionsSafe.firstDefinitions {definitions : List (Text × List Node)}
    (safe : DefinitionsSafe definitions) (known : List Text) :
    DefinitionsSafe (firstDefinitions known definitions) := by
  induction definitions generalizing known with
  | nil => exact safe
  | cons entry rest ih =>
    obtain ⟨own, later⟩ := List.forall_mem_cons.1 safe
    rw [Lowering.firstDefinitions]
    split
    · exact ih later known
    · exact List.forall_mem_cons.2 ⟨own, ih later _⟩

/-- A safe document is lowered to a safe tree when raw HTML is not kept. -/
theorem isSafe_lowerDocument {options : LoweringOptions}
    (harmless : options.allowDangerousHtml = false) {tree : Node} (safe : tree.IsSafe) :
    (lowerDocument options tree).IsSafe := by
  have defined := (definitionsSafe_definitions.1 tree safe).firstDefinitions []
  have content := areSafe_dropDefinitions.2 tree.children (Node.isSafe_iff.1 safe).2
  rw [lowerDocument]
  refine .root (areSafe_separate (areSafe_append.2 ⟨?_, ?_⟩))
  · exact areSafe_lowerList harmless (fun _ _ => areSafe_citation _ _) content []
  · split
    · exact areSafe_nil
    · exact areSafe_singleton.2 (isSafe_footnoteSection _
        (areSafe_footnoteItems harmless _ _ _ defined))

end Manuscript.Lowering
