import Manuscript.Html.Lowering
import Manuscript.Proofs.Document.Induction

/-!
# References in the order of the lowering

The lowering does the same for every rule for references: it comes to the references of a document
in document order, asks the rule about each of them once, and puts the answer where the reference
was. `lowerList_eq_fill` states this with the labels of the references on one side, as a recursion
of their own, and the document with places to fill on the other. What a rule makes of a document is
therefore decided by what it makes of a list of labels.
-/

namespace Manuscript

/-- Whether the children of a node of this kind are never lowered. -/
def Kind.isLiteral : Kind → Bool
  | code _ _ _ => true
  | inlineCode _ => true
  | text _ => true
  | image _ _ _ => true
  | footnoteDefinition _ => true
  | lineBreak => true
  | thematicBreak => true
  | html _ => true
  | _ => false

namespace Node

mutual

/-- The labels of the references in a tree that are lowered, in document order. The nodes of the
first `skip` levels count for nothing but what is below them. -/
def citedLabels (skip : Nat) : Node → List Text
  | ⟨kind, children, _, _⟩ =>
    match skip with
    | skip + 1 => citedLabelList skip children
    | 0 =>
      match kind with
      | .footnoteReference label => [label]
      -- The rows and the cells of a table are read by their place, whatever their kinds are.
      | .table _ => citedLabelList 2 children
      | kind => if kind.isLiteral then [] else citedLabelList 0 children

/-- The labels of the references in a list of trees that are lowered, in document order. -/
def citedLabelList (skip : Nat) : List Node → List Text
  | [] => []
  | node :: rest => citedLabels skip node ++ citedLabelList skip rest

end

/-- The labels of a paragraph or a list item are those of its children. -/
theorem citedLabels_eq_below {node : Node}
    (plain : node.kind = .paragraph ∨ ∃ checked, node.kind = .listItem checked) :
    node.citedLabels 0 = node.citedLabels 1 := by
  obtain ⟨kind, children, data, span⟩ := node
  obtain rfl | ⟨checked, rfl⟩ := plain <;> simp [citedLabels, Kind.isLiteral]

end Node

namespace Lowering

/-- The rule that answers from a list, whatever the labels are. -/
def replay : ReferenceRule (List (List Html)) := fun _ answers =>
  match answers with
  | [] => ([], [])
  | answer :: rest => (answer, rest)

/-- The answers of a rule to one label after the other, and what it keeps in mind in the end. -/
def answers {Memory : Type} (rule : ReferenceRule Memory) :
    List Text → Memory → List (List Html) × Memory
  | [], memory => ([], memory)
  | label :: labels, memory =>
    let (answer, memory) := rule label memory
    let (rest, memory) := answers rule labels memory
    (answer :: rest, memory)

/-- Siblings, lowered with the given nodes in place of their references, one after the other. -/
def fill (options : LoweringOptions) (nodes : List Node) (answers : List (List Html)) :
    List Html :=
  (lowerList options replay nodes answers).1

/-- The answers to two lists of labels are those to the first, then those to the second. -/
theorem answers_append {Memory : Type} (rule : ReferenceRule Memory) (front back : List Text)
    (memory : Memory) :
    answers rule (front ++ back) memory =
      ((answers rule front memory).1 ++ (answers rule back (answers rule front memory).2).1,
        (answers rule back (answers rule front memory).2).2) := by
  induction front generalizing memory with
  | nil => rfl
  | cons label front ih => simp [answers, ih]

/-- A part of the lowering asks about these labels, in this order, and uses the answers as they
come. -/
def AsksFor {Result : Type} (labels : List Text)
    (lower : (Memory : Type) → ReferenceRule Memory → Memory → Result × Memory) : Prop :=
  ∀ (Memory : Type) (rule : ReferenceRule Memory) (memory : Memory) (rest : List (List Html)),
    lower _ replay ((answers rule labels memory).1 ++ rest) = ((lower _ rule memory).1, rest) ∧
      (lower _ rule memory).2 = (answers rule labels memory).2

/-- Every way to lower a node asks for the labels in it. -/
structure NodeAsks (options : LoweringOptions) (node : Node) : Prop where
  asNode : ∀ bare, AsksFor (node.citedLabels 0) fun _ rule => lowerNode options rule bare node
  asParent : AsksFor (node.citedLabels 1) fun _ rule => lowerChildren options rule node
  asItem : ∀ spread, AsksFor (node.citedLabels 1) fun _ rule => lowerItem options rule spread node
  asRow : ∀ isHead columns,
    AsksFor (node.citedLabels 2) fun _ rule => lowerRow options rule isHead columns node

/-- Every way to lower a list of nodes asks for the labels in them. -/
structure ListAsks (options : LoweringOptions) (nodes : List Node) : Prop where
  asList : AsksFor (Node.citedLabelList 0 nodes) fun _ rule => lowerList options rule nodes
  asItems : ∀ spread,
    AsksFor (Node.citedLabelList 0 nodes) fun _ rule => lowerItems options rule spread nodes
  asContent : ∀ spread,
    AsksFor (Node.citedLabelList 0 nodes) fun _ rule => lowerItemContent options rule spread nodes
  asRows : ∀ columns, AsksFor (Node.citedLabelList 2 nodes) fun _ rule memory =>
    let (head, body, memory) := lowerRows options rule columns nodes memory
    ((head, body), memory)
  asCells : ∀ isHead columns,
    AsksFor (Node.citedLabelList 1 nodes) fun _ rule => lowerCells options rule isHead columns nodes

/-- A node asks for its labels if its children do. -/
theorem nodeAsks_of_children (options : LoweringOptions) (kind : Kind) (children : List Node)
    (data : Annotations) (span : Option Span) (below : ListAsks options children) :
    NodeAsks options ⟨kind, children, data, span⟩ where
  asNode := by
    intro bare Memory rule memory rest
    obtain ⟨same, kept⟩ := below.asList Memory rule memory rest
    cases kind with
    | footnoteReference label => simp [lowerNode, Node.citedLabels, answers, replay]
    | list ordered start spread =>
      obtain ⟨same, kept⟩ := below.asItems spread Memory rule memory rest
      simp [lowerNode, Node.citedLabels, Kind.isLiteral, same, kept]
    | listItem checked =>
      obtain ⟨same, kept⟩ := below.asContent true Memory rule memory rest
      simp [lowerNode, Node.citedLabels, Kind.isLiteral, same, kept]
    | table columns =>
      obtain ⟨same, kept⟩ := below.asRows columns Memory rule memory rest
      simp only [Prod.mk.injEq] at same
      simp [lowerNode, Node.citedLabels, same, kept]
    | _ =>
      simp [lowerNode, Node.citedLabels, Kind.isLiteral, plainElement?, answers, same, kept]
  asParent := by simpa [Node.citedLabels, lowerChildren] using below.asList
  asItem spread := by simpa [Node.citedLabels, lowerItem] using below.asContent spread
  asRow isHead columns := by simpa [Node.citedLabels, lowerRow] using below.asCells isHead columns

/-- No labels are asked for below an empty list. -/
theorem listAsks_nil (options : LoweringOptions) : ListAsks options [] where
  asList _ _ _ _ := by simp [lowerList, Node.citedLabelList, answers]
  asItems _ _ _ _ _ := by simp [lowerItems, Node.citedLabelList, answers]
  asContent _ _ _ _ _ := by simp [lowerItemContent, Node.citedLabelList, answers]
  asRows _ _ _ _ _ := by simp [lowerRows, Node.citedLabelList, answers]
  asCells _ _ _ _ _ _ := by simp [lowerCells, Node.citedLabelList, answers]

/-- Two parts of the lowering that are run one after the other ask for the labels of both. -/
theorem AsksFor.andThen {First Second : Type} {front back : List Text}
    {first : (Memory : Type) → ReferenceRule Memory → Memory → First × Memory}
    {second : (Memory : Type) → ReferenceRule Memory → Memory → Second × Memory}
    (asksFirst : AsksFor front first) (asksSecond : AsksFor back second) :
    AsksFor (front ++ back) fun _ rule memory =>
      (((first _ rule memory).1, (second _ rule (first _ rule memory).2).1),
        (second _ rule (first _ rule memory).2).2) := by
  intro Memory rule memory rest
  obtain ⟨sameFirst, keptFirst⟩ := asksFirst Memory rule memory
    ((answers rule back (answers rule front memory).2).1 ++ rest)
  obtain ⟨sameSecond, keptSecond⟩ := asksSecond Memory rule (answers rule front memory).2 rest
  simp only [answers_append, List.append_assoc, sameFirst, sameSecond, keptFirst, keptSecond,
    and_self]

/-- Asking does not depend on how the results are put together. -/
theorem AsksFor.map {First Second : Type} {labels : List Text}
    {lower : (Memory : Type) → ReferenceRule Memory → Memory → First × Memory}
    (asks : AsksFor labels lower) (join : First → Second) :
    AsksFor labels fun _ rule memory =>
      (join (lower _ rule memory).1, (lower _ rule memory).2) := by
  intro Memory rule memory rest
  obtain ⟨same, kept⟩ := asks Memory rule memory rest
  simp only [same, kept, and_self]

/-- A list asks for the labels of its first node, then for those of the others. -/
theorem listAsks_cons (options : LoweringOptions) (first : Node) (rest : List Node)
    (head : NodeAsks options first) (tail : ListAsks options rest) :
    ListAsks options (first :: rest) where
  asList := by
    have both := ((head.asNode false).andThen tail.asList).map fun (front, back) => front ++ back
    simpa only [lowerList, Node.citedLabelList] using both
  asItems spread := by
    simp only [lowerItems, Node.citedLabelList]
    cases kind : first.kind with
    | listItem checked =>
      rw [Node.citedLabels_eq_below (.inr ⟨checked, kind⟩)]
      exact ((head.asItem spread).andThen (tail.asItems spread)).map fun (front, back) =>
        Html.element (applyData first.data (listItem checked spread front).1)
          (listItem checked spread front).2 :: back
    | _ =>
      exact ((head.asNode true).andThen (tail.asItems spread)).map fun (front, back) =>
        front ++ back
  asContent spread := by
    simp only [lowerItemContent, Node.citedLabelList]
    -- A paragraph of a tight list is lowered as its children, whose labels are its own.
    by_cases tight : (!spread && first.isParagraph && first.data = {}) = true
    · have paragraph : first.kind = .paragraph := by
        simp only [Bool.and_eq_true, Node.isParagraph, decide_eq_true_eq] at tight
        exact tight.1.2
      rw [Node.citedLabels_eq_below (.inl paragraph)]
      simp only [tight, if_true]
      exact (head.asParent.andThen (tail.asContent spread)).map fun (front, back) => front ++ back
    · simp only [tight, Bool.false_eq_true, if_false]
      exact ((head.asNode false).andThen (tail.asContent spread)).map fun (front, back) =>
        front ++ back
  asRows columns := by
    have both := ((head.asRow (isHeadRow first.kind) columns).andThen (tail.asRows columns)).map
      fun (cells, head, body) =>
        let row := Html.element (plainTag "tr") (surround cells)
        if isHeadRow first.kind then (row :: head, body) else (head, row :: body)
    simp only [Node.citedLabelList]
    intro Memory rule memory rest
    obtain ⟨same, kept⟩ := both Memory rule memory rest
    cases isHead : isHeadRow first.kind <;> simp_all [lowerRows]
  asCells isHead columns := by
    simp only [lowerCells, Node.citedLabelList]
    exact (head.asParent.andThen (tail.asCells isHead columns.tail)).map fun (content, back) =>
      Html.element (cellTag isHead columns.head?) content :: back

/-- The lowering asks for the labels of a document in their order, whatever the rule is. -/
theorem asks (options : LoweringOptions) :
    (∀ node, NodeAsks options node) ∧ ∀ nodes, ListAsks options nodes :=
  Node.induction (nodeAsks_of_children options) (listAsks_nil options) (listAsks_cons options)

/-- Lowering siblings with a rule is filling in the answers of the rule to their labels, and the
rule is asked about nothing else. -/
theorem lowerList_eq_fill {Memory : Type} (options : LoweringOptions) (rule : ReferenceRule Memory)
    (nodes : List Node) (memory : Memory) :
    lowerList options rule nodes memory =
      (fill options nodes (answers rule (Node.citedLabelList 0 nodes) memory).1,
        (answers rule (Node.citedLabelList 0 nodes) memory).2) := by
  obtain ⟨same, kept⟩ := ((asks options).2 nodes).asList Memory rule memory []
  simp only [List.append_nil] at same kept
  simp only [fill, same, ← kept]

end Lowering

end Manuscript
