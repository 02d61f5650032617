import Manuscript.Document.Basic

/-!
# Induction over a document

A statement about nodes is proved together with one about lists of nodes, and a property of all
nodes of a tree, at any depth, is stated with the list of these nodes. One such property is that all
texts are leaves (`TextLeaves`).
-/

namespace Manuscript.Node

/-- Two statements about nodes and about lists of nodes hold if each follows from the other for what
is below. -/
theorem induction {P : Node → Prop} {Q : List Node → Prop}
    (node : ∀ kind children data span, Q children → P ⟨kind, children, data, span⟩)
    (nil : Q []) (cons : ∀ first rest, P first → Q rest → Q (first :: rest)) :
    (∀ tree, P tree) ∧ ∀ nodes, Q nodes :=
  ⟨@Node.rec P Q node nil cons, @Node.rec_1 P Q node nil cons⟩

mutual

/-- The nodes of a tree, the node itself first. -/
def nodes : Node → List Node
  | ⟨kind, children, data, span⟩ => ⟨kind, children, data, span⟩ :: nodesBelow children

/-- The nodes of a list of trees. -/
def nodesBelow : List Node → List Node
  | [] => []
  | node :: rest => nodes node ++ nodesBelow rest

end

/-- The nodes below a node, at any depth. -/
def descendants (node : Node) : List Node :=
  nodesBelow node.children

/-- The nodes of a tree are its root and those below. -/
theorem nodes_eq (node : Node) : node.nodes = node :: node.descendants := by
  obtain ⟨kind, children, data, span⟩ := node
  rw [nodes, descendants]

/-- The nodes of two lists are those of the one and then those of the other. -/
theorem nodesBelow_append (front back : List Node) :
    nodesBelow (front ++ back) = nodesBelow front ++ nodesBelow back := by
  induction front with
  | nil => rfl
  | cons node rest ih => rw [List.cons_append, nodesBelow, nodesBelow, ih, List.append_assoc]

/-- The nodes of a tree are its root and those of its children. -/
theorem nodesBelow_singleton (node : Node) :
    nodesBelow [node] = node :: nodesBelow node.children := by
  rw [nodesBelow, nodesBelow, List.append_nil, nodes_eq, descendants]

/-- The nodes of a list are among those of the trees. -/
theorem subset_nodesBelow (nodes : List Node) : nodes ⊆ nodesBelow nodes := by
  induction nodes with
  | nil => exact List.nil_subset _
  | cons node rest ih =>
    rw [nodesBelow, nodes_eq]
    exact List.cons_subset.2 ⟨List.mem_cons_self, fun other member =>
      List.mem_append_right _ (ih member)⟩

/-- The nodes of a list of trees are those of its trees. -/
theorem mem_nodesBelow {node : Node} {trees : List Node} :
    node ∈ nodesBelow trees ↔ ∃ tree ∈ trees, node ∈ tree.nodes := by
  induction trees with
  | nil => simp [nodesBelow]
  | cons tree rest ih => simp [nodesBelow, ih]

/-- The children of a node of a tree, or of a list of trees, are among the nodes there. -/
theorem children_subset :
    (∀ tree : Node, ∀ parent ∈ tree.nodes, parent.children ⊆ tree.nodes) ∧
      ∀ nodes, ∀ parent ∈ nodesBelow nodes, parent.children ⊆ nodesBelow nodes := by
  refine induction ?_ (fun _ none => absurd none List.not_mem_nil) ?_
  · intro kind children data span below parent member
    rw [nodes] at member ⊢
    refine List.Subset.trans ?_ (List.subset_cons_self _ _)
    rcases List.mem_cons.1 member with rfl | member
    · exact subset_nodesBelow children
    · exact below parent member
  · intro first rest own later parent member
    rw [nodesBelow] at member ⊢
    rcases List.mem_append.1 member with member | member
    · exact List.subset_append_of_subset_left _ (own parent member)
    · exact List.subset_append_of_subset_right _ (later parent member)

/-- The texts of two lists are those of the one and then those of the other. -/
theorem plainTextList_append (front back : List Node) :
    plainTextList (front ++ back) = plainTextList front ++ plainTextList back := by
  induction front with
  | nil => rfl
  | cons node rest ih => rw [List.cons_append, plainTextList, plainTextList, ih, List.append_assoc]

/-- The plain text of a list of one node is that of the node. -/
theorem plainTextList_singleton (node : Node) : plainTextList [node] = node.plainText := by
  rw [plainTextList, plainTextList, List.append_nil]

/-- The texts of a text are its value and those below it. -/
theorem plainText_of_kind {node : Node} {value : Text} (kind : node.kind = .text value) :
    node.plainText = value ++ plainTextList node.children := by
  obtain ⟨_, children, data, span⟩ := node
  cases kind
  rw [plainText]

/-- The text of the node for a text is the text, also if there is no node. -/
theorem plainTextList_ofText (value : Text) : plainTextList (ofText value) = value := by
  cases value with
  | nil => rfl
  | cons c rest =>
    rw [ofText, List.isEmpty_cons, if_neg Bool.false_ne_true, plainTextList_singleton,
      plainText_of_kind rfl]
    exact List.append_nil _

/-- The texts of any other node are those below it. -/
theorem plainText_of_not_isText {node : Node} (other : node.isText = false) :
    node.plainText = plainTextList node.children := by
  obtain ⟨kind, children, data, span⟩ := node
  cases kind with
  | text value => cases other
  | _ => rw [plainText]; nofun

/-- The texts among nodes and below them have nothing below. -/
def TextLeaves (nodes : List Node) : Prop :=
  ∀ node ∈ nodesBelow nodes, node.isText = true → node.children = []

/-- A text with the given value is a text. -/
theorem isText_of_kind {node : Node} {value : Text} (kind : node.kind = .text value) :
    node.isText = true := by
  rw [isText, textValue?, kind]
  rfl

/-- A node with a value is a text of that value. -/
theorem kind_of_textValue? {node : Node} {value : Text} (own : node.textValue? = some value) :
    node.kind = .text value := by
  rw [textValue?] at own
  split at own
  · rename_i kind
    cases own
    exact kind
  · cases own

/-- Texts are leaves in a list if they are in both parts of it. -/
theorem textLeaves_append {front back : List Node} :
    TextLeaves (front ++ back) ↔ TextLeaves front ∧ TextLeaves back := by
  rw [TextLeaves, nodesBelow_append]
  exact List.forall_mem_append

/-- Texts are leaves in siblings if they are in the first and in the others. -/
theorem textLeaves_cons {node : Node} {rest : List Node} :
    TextLeaves (node :: rest) ↔ TextLeaves [node] ∧ TextLeaves rest :=
  @textLeaves_append [node] rest

/-- Texts are leaves in a tree when its root is no text with something below, and they are leaves
below. -/
theorem textLeaves_singleton {node : Node} :
    TextLeaves [node] ↔ (node.isText = true → node.children = []) ∧ TextLeaves node.children := by
  rw [TextLeaves, nodesBelow_singleton]
  exact List.forall_mem_cons

/-- There is no text among no nodes that could have children. -/
theorem textLeaves_nil : TextLeaves [] :=
  fun _ none => absurd none List.not_mem_nil

end Manuscript.Node
