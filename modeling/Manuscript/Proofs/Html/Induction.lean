import Manuscript.Html.Basic

/-!
# Induction over an HTML tree

A statement about nodes is proved together with one about lists of nodes. The elements of a tree are
listed by their tags in document order, so that a statement about an element names it by its place
in the list; the list of all nodes serves statements about what stands anywhere in a tree.
-/

namespace Manuscript.Html

/-- Two statements about nodes and about lists of nodes hold if each follows from the other for what
is below. -/
theorem induction {P : Html → Prop} {Q : List Html → Prop}
    (root : ∀ children, Q children → P (.root children))
    (element : ∀ tag children, Q children → P (.element tag children))
    (text : ∀ value, P (.text value)) (comment : ∀ value, P (.comment value))
    (raw : ∀ value, P (.raw value)) (nil : Q [])
    (cons : ∀ node rest, P node → Q rest → Q (node :: rest)) :
    (∀ tree, P tree) ∧ ∀ nodes, Q nodes :=
  ⟨@Html.rec P Q root element text comment raw nil cons,
    @Html.rec_1 P Q root element text comment raw nil cons⟩

/-- The text of two lists is that of the one and then that of the other. -/
theorem textContentList_append (front back : List Html) :
    textContentList (front ++ back) = textContentList front ++ textContentList back := by
  induction front with
  | nil => rfl
  | cons node rest ih =>
    rw [List.cons_append, textContentList, ih, textContentList, List.append_assoc]

mutual

/-- The tags of the elements of a tree, in document order. -/
def elements : Html → List Tag
  | .root children => elementsList children
  | .element tag children => tag :: elementsList children
  | _ => []

/-- The tags of the elements of a list of trees, in document order. -/
def elementsList : List Html → List Tag
  | [] => []
  | node :: rest => elements node ++ elementsList rest

end

mutual

/-- The nodes of a tree in document order, the tree itself first. -/
def nodes : Html → List Html
  | .root children => .root children :: nodesList children
  | .element tag children => .element tag children :: nodesList children
  | .text value => [.text value]
  | .comment value => [.comment value]
  | .raw value => [.raw value]

/-- The nodes of a list of trees in document order. -/
def nodesList : List Html → List Html
  | [] => []
  | node :: rest => nodes node ++ nodesList rest

end

/-- The nodes of a tree are the tree and the nodes below it. -/
theorem nodesList_singleton (node : Html) :
    nodesList [node] = node :: nodesList node.children := by
  rw [nodesList, nodesList, List.append_nil]
  cases node <;> rfl

/-- The nodes of two lists are those of the one and then those of the other. -/
theorem nodesList_append (front back : List Html) :
    nodesList (front ++ back) = nodesList front ++ nodesList back := by
  induction front with
  | nil => rfl
  | cons node rest ih => rw [List.cons_append, nodesList, nodesList, ih, List.append_assoc]

end Manuscript.Html
