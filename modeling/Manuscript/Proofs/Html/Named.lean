import Manuscript.Proofs.Html.Induction

/-!
# The elements of a name

The elements of one name are listed in document order, each with its children, so that the code
blocks of a tree are a list. Elements of a name stand apart when none is inside another (`IsApart`).
-/

namespace Manuscript.Html

mutual

/-- The elements of a name in a tree, in document order. -/
def named (name : Text) : Html → List (Tag × List Html)
  | .root children => namedList name children
  | .element tag children =>
    (if tag.name = name then [(tag, children)] else []) ++ namedList name children
  | _ => []

/-- The elements of a name in a list of trees, in document order. -/
def namedList (name : Text) : List Html → List (Tag × List Html)
  | [] => []
  | node :: rest => named name node ++ namedList name rest

end

variable {name : Text}

/-- There are no elements among no nodes. -/
@[simp] theorem namedList_nil : namedList name [] = [] :=
  rfl

/-- The elements of a name in siblings are those in the first and then those in the others. -/
@[simp] theorem namedList_cons (node : Html) (rest : List Html) :
    namedList name (node :: rest) = node.named name ++ namedList name rest :=
  rfl

/-- The elements of a name in two lists are those in the one and then those in the other. -/
theorem namedList_append (nodes more : List Html) :
    namedList name (nodes ++ more) = namedList name nodes ++ namedList name more := by
  induction nodes with
  | nil => rfl
  | cons node rest ih =>
    rw [List.cons_append, namedList_cons, namedList_cons, ih, List.append_assoc]

/-- An element of the name comes before those in it. -/
theorem named_element_self {tag : Tag} (isNamed : tag.name = name) (children : List Html) :
    (element tag children).named name = (tag, children) :: namedList name children := by
  rw [named, if_pos isNamed, List.singleton_append]

/-- An element of another name counts only for those in it. -/
theorem named_element_of_ne {tag : Tag} (other : tag.name ≠ name) (children : List Html) :
    (element tag children).named name = namedList name children := by
  rw [named, if_neg other, List.nil_append]

/-- A blank is no element. -/
theorem named_of_isBlank {node : Html} (blank : node.isBlank = true) : node.named name = [] := by
  cases node with
  | text value => rfl
  | root children => cases blank
  | element tag children => cases blank
  | comment value => rfl
  | raw value => rfl

/-- No element of a name is inside another. -/
def IsApart (name : Text) (tree : Html) : Prop :=
  ∀ found ∈ tree.named name, namedList name found.2 = []

/-- No element of a name that is in a list of trees is inside another. -/
def AreApart (name : Text) (nodes : List Html) : Prop :=
  ∀ found ∈ namedList name nodes, namedList name found.2 = []

/-- Elements stand apart in siblings if they do in the first and in the others. -/
theorem areApart_cons {node : Html} {rest : List Html} :
    AreApart name (node :: rest) ↔ IsApart name node ∧ AreApart name rest := by
  rw [AreApart, namedList_cons, List.forall_mem_append]
  rfl

/-- What is inside a node is apart if the node is. -/
theorem IsApart.below {tag : Tag} {children : List Html}
    (apart : IsApart name (element tag children)) : AreApart name children :=
  fun found inside => apart found (List.mem_append_right _ inside)

/-- An element of the name has no other inside. -/
theorem IsApart.namedList_eq_nil {tag : Tag} {children : List Html}
    (apart : IsApart name (element tag children)) (isNamed : tag.name = name) :
    namedList name children = [] :=
  apart (tag, children) (named_element_self isNamed children ▸ List.mem_cons_self)

end Manuscript.Html
