import Manuscript.Proofs.Html.Induction
import Manuscript.Proofs.Lowering.References
import Mathlib.Data.List.Perm.Subperm

/-!
# What stands for the references

The lowering puts what a rule answers to a reference into the tree that it makes, and nothing it
does afterwards takes it out again: elements are put around it, line feeds between it and its
siblings, and the box of a task before it. `subperm_fill` states that every answer stands in the
result, each as often as it was given.

Rows of the head of a table come before the others, wherever they are in the document, so the order
of the answers is not that of the result. And a paragraph does not stay as it is when it gets a box,
so paragraphs among the answers do not count (`lasting`).
-/

namespace Manuscript.Lowering

open Html (nodesList nodesList_append nodesList_singleton)

/-- The nodes of a list of trees that are no paragraphs, in document order. -/
def lasting (nodes : List Html) : List Html :=
  (nodesList nodes).filter fun node => !node.isElement ['p']

/-- Nothing lasts among no nodes. -/
@[simp] theorem lasting_nil : lasting [] = [] := rfl

/-- What lasts of two lists is what lasts of the one and then of the other. -/
theorem lasting_append (front back : List Html) :
    lasting (front ++ back) = lasting front ++ lasting back := by
  rw [lasting, nodesList_append, List.filter_append]
  rfl

/-- What lasts among siblings is what lasts in the first and then in the others. -/
theorem lasting_cons (node : Html) (rest : List Html) :
    lasting (node :: rest) = lasting [node] ++ lasting rest :=
  lasting_append [node] rest

/-- What is no paragraph lasts. -/
theorem sublist_lasting {nodes : List Html}
    (others : ∀ node ∈ nodes, node.isElement ['p'] = false) : nodes.Sublist (lasting nodes) := by
  induction nodes with
  | nil => exact List.Sublist.refl _
  | cons node rest ih =>
    obtain ⟨own, later⟩ := List.forall_mem_cons.1 others
    rw [lasting_cons, lasting, nodesList_singleton, List.filter_cons_of_pos (by rw [own]; rfl)]
    exact ((ih later).trans (List.sublist_append_right _ _)).cons_cons node

/-- What lasts of the children of an element lasts of the element. -/
theorem lasting_element_sublist (tag : Tag) (children : List Html) :
    (lasting children).Sublist (lasting [.element tag children]) := by
  rw [lasting, lasting, nodesList_singleton]
  exact (List.sublist_cons_self _ _).filter _

/-- What lasts of some nodes lasts when they are put into an element, whatever comes after it. -/
theorem lasting_within {content put : List Html} (kept : (lasting content).Sublist (lasting put))
    (tag : Tag) (rest : List Html) :
    (lasting (content ++ rest)).Sublist (lasting (.element tag put :: rest)) := by
  rw [lasting_append, lasting_cons]
  exact (kept.trans (lasting_element_sublist tag put)).append (List.Sublist.refl _)

/-- Of a paragraph only what is in it lasts. -/
theorem lasting_paragraph {tag : Tag} (paragraph : tag.name = ['p']) (children : List Html) :
    lasting [.element tag children] = lasting children := by
  rw [lasting, nodesList_singleton, List.filter_cons_of_neg (by simp [Html.isElement, paragraph])]
  rfl

/-- More siblings have more that lasts. -/
theorem lasting_sublist {few all : List Html} (less : few.Sublist all) :
    (lasting few).Sublist (lasting all) := by
  induction less with
  | slnil => exact List.Sublist.refl _
  | @cons few all node _ ih =>
    rw [lasting_cons]
    exact ih.trans (List.sublist_append_right _ _)
  | @cons_cons few all node _ ih =>
    rw [lasting_cons node few, lasting_cons node all]
    exact (List.Sublist.refl _).append ih

/-- Siblings are among those that have been set apart. -/
theorem sublist_separate (nodes : List Html) : nodes.Sublist (separate nodes) := by
  rw [separate]
  induction nodes with
  | nil => exact List.Sublist.refl _
  | cons first rest ih =>
    cases rest with
    | nil => exact List.Sublist.refl _
    | cons second rest =>
      rw [List.intersperse_cons_cons]
      exact (ih.cons newline).cons_cons first

/-- Siblings stand among the newlines around them. -/
theorem sublist_surround (nodes : List Html) : nodes.Sublist (surround nodes) := by
  rw [surround]
  split
  · rename_i empty
    rw [List.isEmpty_iff.1 empty]
  · exact ((sublist_separate nodes).cons newline).trans (List.sublist_append_left _ _)

/-- What lasts of siblings lasts when nodes are put into the first paragraph. -/
theorem lasting_intoFirstParagraph {nodes siblings result : List Html}
    (found : intoFirstParagraph nodes siblings = some result) :
    (lasting siblings).Sublist (lasting result) := by
  obtain ⟨front, tag, children, back, paragraph, rfl, rfl⟩ := intoFirstParagraph_eq_some found
  rw [lasting_append, lasting_append, lasting_cons, lasting_cons (.element tag (nodes ++ children)),
    lasting_paragraph paragraph, lasting_paragraph paragraph, lasting_append nodes]
  exact (List.Sublist.refl _).append
    ((List.sublist_append_right _ _).append (List.Sublist.refl _))

/-- What lasts of the content of a list item lasts of the item. -/
theorem lasting_listItem (checked : Option Bool) (spread : Bool) (content : List Html) :
    (lasting content).Sublist (lasting (listItem checked spread content).2) := by
  have apart : (lasting content).Sublist
      (lasting (if spread then surround content else content)) := by
    split
    · exact lasting_sublist (sublist_surround content)
    · exact List.Sublist.refl _
  cases checked with
  | none => exact apart
  | some checked =>
    have behind : ∀ siblings : List Html,
        (lasting siblings).Sublist (lasting (taskBox checked ++ siblings)) :=
      fun siblings => lasting_sublist (List.sublist_append_right _ _)
    rw [listItem]
    dsimp only
    split
    · rename_i isSpread
      rw [if_pos isSpread] at apart
      refine apart.trans ?_
      cases found : intoFirstParagraph (taskBox checked) (surround content) with
      | none => exact behind _
      | some result => exact lasting_intoFirstParagraph found
    · exact behind content

/-- What lasts of the rows of a table lasts of the table. -/
theorem lasting_tableSections (head body : List Html) :
    (lasting (head ++ body)).Sublist (lasting (surround (tableSections head body))) := by
  refine List.Sublist.trans ?_ (lasting_sublist (sublist_surround _))
  have inside : ∀ tag rows, (lasting rows).Sublist (lasting [.element tag (surround rows)]) :=
    fun tag rows => (lasting_sublist (sublist_surround rows)).trans (lasting_element_sublist _ _)
  rw [tableSections, lasting_append, lasting_cons]
  refine (inside _ head).append ?_
  split
  · rename_i empty
    rw [List.isEmpty_iff.1 empty]
  · exact inside _ body

/-- The sections of a table with one more row in front. -/
def addRow (isHead : Bool) (cells : List Html) (sections : List Html × List Html) :
    List Html × List Html :=
  let row := Html.element (plainTag "tr") (surround cells)
  if isHead then (row :: sections.1, sections.2) else (sections.1, row :: sections.2)

/-- What lasts of a row lasts of the table. A row of the body comes after all rows of the head. -/
theorem lasting_addRow (isHead : Bool) (cells : List Html) (sections : List Html × List Html) :
    (lasting (cells ++ (sections.1 ++ sections.2))).Subperm
      (lasting ((addRow isHead cells sections).1 ++ (addRow isHead cells sections).2)) := by
  have row : ∀ rest, (lasting (cells ++ rest)).Sublist
      (lasting (.element (plainTag "tr") (surround cells) :: rest)) :=
    fun rest => lasting_within (lasting_sublist (sublist_surround cells)) _ rest
  cases isHead with
  | true => exact (row _).subperm
  | false =>
    have moved : (lasting (cells ++ (sections.1 ++ sections.2))).Perm
        (lasting (sections.1 ++ (cells ++ sections.2))) := by
      simp only [lasting_append]
      exact List.perm_append_comm_assoc _ _ _
    refine moved.subperm.trans (List.Sublist.subperm ?_)
    rw [addRow, if_neg Bool.false_ne_true]
    dsimp only
    rw [lasting_append sections.1, lasting_append sections.1]
    exact (List.Sublist.refl _).append (row sections.2)

/-- What a part of the lowering gets as answers to these labels lasts in what it makes. -/
def Shows {Result : Type} (labels : List Text) (made : Result → List Html)
    (lower : (Memory : Type) → ReferenceRule Memory → Memory → Result × Memory) : Prop :=
  ∀ (Memory : Type) (rule : ReferenceRule Memory) (memory : Memory),
    (lasting (answers rule labels memory).1.flatten).Subperm
      (lasting (made (lower _ rule memory).1))

/-- A part of the lowering that asks about nothing has nothing to show. -/
theorem Shows.nil {Result : Type} (made : Result → List Html)
    (lower : (Memory : Type) → ReferenceRule Memory → Memory → Result × Memory) :
    Shows [] made lower :=
  fun _ _ _ => List.nil_subperm

/-- Two parts that are run one after the other show what both of them get. -/
theorem Shows.andThen {First Second : Type} {front back : List Text} {made : First → List Html}
    {others : Second → List Html}
    {first : (Memory : Type) → ReferenceRule Memory → Memory → First × Memory}
    {second : (Memory : Type) → ReferenceRule Memory → Memory → Second × Memory}
    (shows : Shows front made first) (later : Shows back others second)
    (asks : AsksFor front first) :
    Shows (front ++ back) (fun both : First × Second => made both.1 ++ others both.2)
      fun _ rule memory =>
        (((first _ rule memory).1, (second _ rule (first _ rule memory).2).1),
          (second _ rule (first _ rule memory).2).2) := by
  intro Memory rule memory
  have kept := (asks Memory rule memory []).2
  have inBack := later Memory rule (first _ rule memory).2
  rw [answers_append, List.flatten_append, lasting_append, lasting_append, ← kept]
  exact (shows Memory rule memory).append inBack

/-- Results can be put together in any way that keeps what lasts of them. -/
theorem Shows.map {First Second : Type} {labels : List Text} {made : First → List Html}
    {lower : (Memory : Type) → ReferenceRule Memory → Memory → First × Memory}
    (shows : Shows labels made lower) (others : Second → List Html) (join : First → Second)
    (keeps : ∀ result, (lasting (made result)).Subperm (lasting (others (join result)))) :
    Shows labels others fun _ rule memory =>
      (join (lower _ rule memory).1, (lower _ rule memory).2) :=
  fun Memory rule memory => (shows Memory rule memory).trans (keeps _)

/-- Every way to lower a node shows what it gets for the references in it. -/
structure NodeShows (options : LoweringOptions) (node : Node) : Prop where
  asNode : ∀ bare, Shows (node.citedLabels 0) id fun _ rule => lowerNode options rule bare node
  asParent : Shows (node.citedLabels 1) id fun _ rule => lowerChildren options rule node
  asItem : ∀ spread, Shows (node.citedLabels 1) id fun _ rule => lowerItem options rule spread node
  asRow : ∀ isHead columns,
    Shows (node.citedLabels 2) id fun _ rule => lowerRow options rule isHead columns node

/-- Every way to lower a list of nodes shows what it gets for the references in them. -/
structure ListShows (options : LoweringOptions) (nodes : List Node) : Prop where
  asList : Shows (Node.citedLabelList 0 nodes) id fun _ rule => lowerList options rule nodes
  asItems : ∀ spread,
    Shows (Node.citedLabelList 0 nodes) id fun _ rule => lowerItems options rule spread nodes
  asContent : ∀ spread,
    Shows (Node.citedLabelList 0 nodes) id fun _ rule => lowerItemContent options rule spread nodes
  asRows : ∀ columns, Shows (Node.citedLabelList 2 nodes)
    (fun sections : List Html × List Html => sections.1 ++ sections.2) fun _ rule memory =>
      let (head, body, memory) := lowerRows options rule columns nodes memory
      ((head, body), memory)
  asCells : ∀ isHead columns,
    Shows (Node.citedLabelList 1 nodes) id fun _ rule =>
      lowerCells options rule isHead columns nodes

/-- A node shows what it gets for its references if its children do. -/
theorem nodeShows_of_children (options : LoweringOptions) (kind : Kind) (children : List Node)
    (data : Annotations) (span : Option Span) (below : ListShows options children) :
    NodeShows options ⟨kind, children, data, span⟩ where
  asNode := by
    intro bare Memory rule memory
    have inside : ∀ (tag : Tag) {content put : List Html}, (lasting content).Sublist (lasting put) →
        (lasting content).Subperm (lasting [.element tag put]) :=
      fun tag _ _ kept => (kept.trans (lasting_element_sublist tag _)).subperm
    have asElement : ∀ (tag : Tag) (apart : Bool),
        (lasting (answers rule (Node.citedLabelList 0 children) memory).1.flatten).Subperm
          (lasting [.element (applyData (if bare then {} else data) tag)
            (if apart then surround (lowerList options rule children memory).1
              else (lowerList options rule children memory).1)]) := by
      intro tag apart
      refine (below.asList Memory rule memory).trans (inside _ ?_)
      split
      · exact lasting_sublist (sublist_surround _)
      · exact List.Sublist.refl _
    cases kind with
    | root => exact below.asList Memory rule memory
    | footnoteReference label =>
      have only : (answers rule [label] memory).1.flatten = (rule label memory).1 :=
        List.append_nil _
      rw [Node.citedLabels, only]
      exact List.Subperm.refl _
    | list ordered start spread =>
      exact (below.asItems spread Memory rule memory).trans
        (inside _ (lasting_sublist (sublist_surround _)))
    | listItem checked =>
      exact (below.asContent true Memory rule memory).trans
        (inside _ (lasting_listItem checked true _))
    | table columns =>
      exact (below.asRows columns Memory rule memory).trans
        (inside _ (lasting_tableSections _ _))
    | paragraph | blockquote | emphasis | strong | delete | mark | tableCell | container =>
      exact asElement _ _
    | heading level => exact asElement _ _
    | abbreviation title => exact asElement _ _
    | link url title => exact asElement _ _
    | tableRow isHead => exact asElement _ _
    | _ => exact List.nil_subperm
  asParent := by simpa [Node.citedLabels, lowerChildren] using below.asList
  asItem spread := by simpa [Node.citedLabels, lowerItem] using below.asContent spread
  asRow isHead columns := by simpa [Node.citedLabels, lowerRow] using below.asCells isHead columns

/-- Nothing is to be shown below an empty list. -/
theorem listShows_nil (options : LoweringOptions) : ListShows options [] where
  asList := Shows.nil _ _
  asItems _ := Shows.nil _ _
  asContent _ := Shows.nil _ _
  asRows _ := Shows.nil _ _
  asCells _ _ := Shows.nil _ _

/-- A list shows what it gets for the references in its first node and in the others. -/
theorem listShows_cons (options : LoweringOptions) (first : Node) (rest : List Node)
    (head : NodeShows options first) (tail : ListShows options rest) :
    ListShows options (first :: rest) where
  asList := by
    have both :=
      ((head.asNode false).andThen tail.asList (((asks options).1 first).asNode false)).map
      id (fun both => both.1 ++ both.2) fun _ => List.Subperm.refl _
    simpa only [lowerList, Node.citedLabelList] using both
  asItems spread := by
    simp only [lowerItems, Node.citedLabelList]
    cases kind : first.kind with
    | listItem checked =>
      rw [Node.citedLabels_eq_below (.inr ⟨checked, kind⟩)]
      exact ((head.asItem spread).andThen (tail.asItems spread)
        (((asks options).1 first).asItem spread)).map id (fun both =>
          .element (applyData first.data (listItem checked spread both.1).1)
            (listItem checked spread both.1).2 :: both.2) fun both =>
              (lasting_within (lasting_listItem checked spread both.1) _ both.2).subperm
    | _ =>
      exact ((head.asNode true).andThen (tail.asItems spread)
        (((asks options).1 first).asNode true)).map id (fun both => both.1 ++ both.2)
          fun _ => List.Subperm.refl _
  asContent spread := by
    simp only [lowerItemContent, Node.citedLabelList]
    by_cases tight : (!spread && first.isParagraph && first.data = {}) = true
    · have paragraph : first.kind = .paragraph := by
        simp only [Bool.and_eq_true, Node.isParagraph, decide_eq_true_eq] at tight
        exact tight.1.2
      rw [Node.citedLabels_eq_below (.inl paragraph)]
      simp only [tight, if_true]
      exact (head.asParent.andThen (tail.asContent spread) ((asks options).1 first).asParent).map
        id (fun both => both.1 ++ both.2) fun _ => List.Subperm.refl _
    · simp only [tight, Bool.false_eq_true, if_false]
      exact ((head.asNode false).andThen (tail.asContent spread)
        (((asks options).1 first).asNode false)).map id (fun both => both.1 ++ both.2)
          fun _ => List.Subperm.refl _
  asRows columns := by
    have both := ((head.asRow (isHeadRow first.kind) columns).andThen (tail.asRows columns)
      (((asks options).1 first).asRow _ columns)).map
        (fun sections : List Html × List Html => sections.1 ++ sections.2)
        (fun both => addRow (isHeadRow first.kind) both.1 both.2)
        fun both => lasting_addRow (isHeadRow first.kind) both.1 both.2
    simp only [Node.citedLabelList]
    intro Memory rule memory
    refine (both Memory rule memory).trans (List.Sublist.subperm ?_)
    cases isHead : isHeadRow first.kind <;> simp [lowerRows, addRow, isHead]
  asCells isHead columns := by
    simp only [lowerCells, Node.citedLabelList]
    exact (head.asParent.andThen (tail.asCells isHead columns.tail)
      ((asks options).1 first).asParent).map id (fun both =>
        .element (cellTag isHead columns.head?) both.1 :: both.2) fun both =>
          (lasting_within (List.Sublist.refl _) _ both.2).subperm

/-- Every way to lower a document shows what it gets for the references in it. -/
theorem shows (options : LoweringOptions) (nodes : List Node) : ListShows options nodes :=
  (Node.induction (nodeShows_of_children options) (listShows_nil options)
    (listShows_cons options)).2 nodes

/-- Answers that are given as they are listed are those of the list. -/
theorem answers_replay {labels : List Text} {given : List (List Html)}
    (each : given.length = labels.length) : (answers replay labels given).1 = given := by
  induction labels generalizing given with
  | nil => exact (List.length_eq_zero_iff.1 each).symm
  | cons label labels ih =>
    cases given with
    | nil => cases each
    | cons answer rest => exact congrArg (answer :: ·) (ih (Nat.succ.inj each))

/-- What is put in place of the references of a document stands in the result, each as often as it
was put there. -/
theorem subperm_fill (options : LoweringOptions) (nodes : List Node) {given : List (List Html)}
    (each : given.length = (Node.citedLabelList 0 nodes).length) :
    (lasting given.flatten).Subperm (lasting (fill options nodes given)) := by
  have shown := (shows options nodes).asList _ replay given
  rw [answers_replay each] at shown
  exact shown

end Manuscript.Lowering
