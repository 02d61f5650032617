import Manuscript.Proofs.Code.Block
import Manuscript.Proofs.Repetition.CodeTabs

/-!
# Code blocks in sets of tabs

Grouping moves code blocks into sets of tabs, but lists them in the order that they had, each with
its group copied to it (`named_groupTree_root`). It does not look into sets of tabs that are there
already (`hidden`).
-/

namespace Manuscript.CodeTabs

open Html (named namedList IsApart AreApart)

/-! ## Grouping lists the code blocks as they were -/

/-- A code block with its group copied to its outer element. -/
def copied (block : Tag × List Html) : Tag × List Html :=
  (siblingTag block.1 block.2, block.2)

/-- A sibling whose code blocks are listed as they were when it is grouped. -/
structure Sibling.Lists (sibling : Sibling) : Prop where
  apart : IsApart "pre".toList sibling.plain
  grouped : sibling.grouped.named "pre".toList = (sibling.plain.named "pre".toList).map copied

/-- A code block with its group copied is listed with what it holds. -/
theorem named_withGroupNode {node : Html} (apart : IsApart "pre".toList node)
    (block : ∃ tag children, node = .element tag children ∧ tag.name = "pre".toList) :
    (withGroupNode node).named "pre".toList = (node.named "pre".toList).map copied := by
  obtain ⟨tag, children, rfl, isBlock⟩ := block
  have inside := apart.namedList_eq_nil isBlock
  rw [withGroupNode, Html.named_element_self ((name_siblingTag tag children).trans isBlock),
    Html.named_element_self isBlock, inside]
  rfl

/-- A node that belongs to a group is a code block. -/
theorem block_of_group? {node : Html} {group : Text} (belongs : group? node = some group) :
    ∃ tag children, node = .element tag children ∧ tag.name = "pre".toList := by
  cases node with
  | element tag children =>
    refine ⟨tag, children, rfl, ?_⟩
    by_contra other
    cases (group?_element_of_ne other children).symm.trans belongs
  | root children => cases belongs
  | text value => cases belongs
  | comment value => cases belongs
  | raw value => cases belongs

/-- A set of tabs lists the blocks in it. -/
theorem named_tabSet (group : Option Text) (blocks : List Html) :
    (tabSet group blocks).named "pre".toList = namedList "pre".toList blocks := by
  obtain ⟨tag, same, isSet⟩ := name_tabSet group blocks
  rw [same, Html.named_element_of_ne (by rw [isSet]; decide)]

/-- A sibling that is grouped alone lists its blocks as they were. -/
theorem Sibling.Lists.named_wrapAlone {sibling : Sibling} (lists : sibling.Lists) :
    (wrapAlone sibling).named "pre".toList = (sibling.plain.named "pre".toList).map copied := by
  unfold wrapAlone
  split
  · rename_i tag children isElement
    split
    · rename_i wrapped
      have isBlock : tag.name = "pre".toList := of_decide_eq_true (Bool.and_eq_true_iff.1 wrapped).1
      rw [named_tabSet, Html.namedList_cons, Html.namedList_nil, List.append_nil]
      exact named_withGroupNode lists.apart ⟨tag, children, isElement, isBlock⟩
    · exact lists.grouped
  · exact lists.grouped

/-- A run and what follows it list the blocks as they were. -/
theorem namedList_takeRun (group : Text) {siblings : List Sibling}
    (lists : ∀ sibling ∈ siblings, sibling.Lists) :
    namedList "pre".toList (takeRun group siblings).1 ++
        (namedList "pre".toList ((takeRun group siblings).2.map (·.plain))).map copied =
      (namedList "pre".toList (siblings.map (·.plain))).map copied := by
  induction siblings with
  | nil => rfl
  | cons sibling rest ih =>
    obtain ⟨first, others⟩ := List.forall_mem_cons.1 lists
    have later := ih others
    rw [List.map_cons, Html.namedList_cons, List.map_append, ← later]
    by_cases blank : sibling.plain.isBlank = true
    · rw [takeRun, if_pos blank, Html.named_of_isBlank blank]
      rfl
    · by_cases belongs : sibling.group? = some group
      · rw [takeRun, if_neg blank, if_pos belongs, Html.namedList_cons,
          named_withGroupNode first.apart (block_of_group? belongs), List.append_assoc]
      · rw [takeRun, if_neg blank, if_neg belongs, later]
        exact List.map_append

/-- Grouped siblings list the blocks as they were. -/
theorem namedList_wrapSiblings {siblings : List Sibling}
    (lists : ∀ sibling ∈ siblings, sibling.Lists) :
    namedList "pre".toList (wrapSiblings siblings) =
      (namedList "pre".toList (siblings.map (·.plain))).map copied := by
  induction siblings using wrapSiblings.induct with
  | case1 =>
    rw [wrapSiblings_nil]
    rfl
  | case2 sibling rest ungrouped ih =>
    obtain ⟨first, others⟩ := List.forall_mem_cons.1 lists
    have alone : ∀ group, sibling.group? = some group → (takeRun group rest).1 = [] :=
      fun group belongs => by cases ungrouped.symm.trans belongs
    rw [wrapSiblings_cons_of_alone alone, Html.namedList_cons, first.named_wrapAlone, ih others,
      List.map_cons, Html.namedList_cons, List.map_append]
  | case3 sibling rest group grouped run empty ih =>
    obtain ⟨first, others⟩ := List.forall_mem_cons.1 lists
    have alone : ∀ other, sibling.group? = some other → (takeRun other rest).1 = [] :=
      fun other belongs => by
        cases grouped.symm.trans belongs
        exact List.isEmpty_iff.1 empty
    rw [wrapSiblings_cons_of_alone alone, Html.namedList_cons, first.named_wrapAlone, ih others,
      List.map_cons, Html.namedList_cons, List.map_append]
  | case4 sibling rest group grouped run several ih =>
    obtain ⟨first, others⟩ := List.forall_mem_cons.1 lists
    have same : wrapSiblings (sibling :: rest) =
        tabSet (some group) (withGroupNode sibling.plain :: run.1) :: wrapSiblings run.2 := by
      rw [wrapSiblings, grouped]
      exact if_neg several
    have after := ih fun other member => others other (takeRun_subset group rest member)
    rw [same, Html.namedList_cons, named_tabSet, Html.namedList_cons, after, List.append_assoc,
      namedList_takeRun group others, named_withGroupNode first.apart (block_of_group? grouped),
      List.map_cons, Html.namedList_cons, List.map_append]

mutual

/-- The code blocks in a tree that are not looked at: those in sets of tabs and in a tree of their
own. -/
def hidden : Html → List (Tag × List Html)
  | .root children => namedList "pre".toList children
  | .element tag children =>
    if tag.name = setName then namedList "pre".toList children else hiddenList children
  | _ => []

/-- The code blocks in a list of trees that are not looked at. -/
def hiddenList : List Html → List (Tag × List Html)
  | [] => []
  | node :: rest => hidden node ++ hiddenList rest

end

/-- What is hidden in two lists is hidden in the one or in the other. -/
theorem hiddenList_append (front back : List Html) :
    hiddenList (front ++ back) = hiddenList front ++ hiddenList back := by
  induction front with
  | nil => rfl
  | cons node rest ih => rw [List.cons_append, hiddenList, hiddenList, ih, List.append_assoc]

/-- Without code blocks none is hidden. -/
theorem hidden_of_named_eq_nil :
    (∀ tree : Html, tree.named "pre".toList = [] → hidden tree = []) ∧
      ∀ nodes, namedList "pre".toList nodes = [] → hiddenList nodes = [] := by
  refine Html.induction ?_ ?_ (fun _ _ => rfl) (fun _ _ => rfl) (fun _ _ => rfl) (fun _ => rfl) ?_
  · exact fun children _ none => none
  · intro tag children below none
    have inside : namedList "pre".toList children = [] := (List.append_eq_nil_iff.1 none).2
    rw [hidden, inside, below inside, ite_self]
  · intro node rest own later none
    obtain ⟨here, others⟩ := List.append_eq_nil_iff.1 none
    rw [hiddenList, own here, later others]
    rfl

/-- Grouping lists the code blocks as they were, if it looks at all of them and none is inside
another. -/
theorem named_groupNode :
    (∀ tree : Html, IsApart "pre".toList tree → hidden tree = [] →
      (groupNode tree).named "pre".toList = (tree.named "pre".toList).map copied) ∧
    ∀ nodes, AreApart "pre".toList nodes → hiddenList nodes = [] →
      ∀ sibling ∈ groupList nodes, sibling.Lists := by
  refine Html.induction ?_ ?_ ?_ ?_ ?_ ?_ ?_
  · intro children _ apart visible
    have none : (Html.root children).named "pre".toList = [] := visible
    have same : groupNode (.root children) = .root children := rfl
    rw [same, none]
    rfl
  · intro tag children below apart visible
    by_cases isSet : tag.name = setName
    · rw [hidden, if_pos isSet] at visible
      rw [groupNode, if_pos isSet, Html.named_element_of_ne (by rw [isSet]; decide), visible]
      rfl
    rw [hidden, if_neg isSet] at visible
    by_cases isBlock : tag.name = "pre".toList
    · have inside := apart.namedList_eq_nil isBlock
      rw [groupNode_block isBlock inside]
      exact named_withGroupNode apart ⟨tag, children, rfl, isBlock⟩
    · have lists := below apart.below visible
      rw [groupNode, if_neg isSet, siblingTag_of_ne isBlock, Html.named_element_of_ne isBlock,
        Html.named_element_of_ne isBlock, namedList_wrapSiblings lists, map_plain_groupList]
  · exact fun value _ _ => rfl
  · exact fun value _ _ => rfl
  · exact fun value _ _ => rfl
  · exact fun _ _ sibling none => absurd none List.not_mem_nil
  · intro node rest own later apart visible
    obtain ⟨first, others⟩ := Html.areApart_cons.1 apart
    obtain ⟨here, after⟩ := List.append_eq_nil_iff.1 visible
    rw [groupList_cons]
    exact List.forall_mem_cons.2 ⟨⟨first, own first here⟩, later others after⟩

/-- Grouping keeps the code blocks of a tree, each with its group and its label, if no block is
inside another and none is hidden. -/
theorem named_groupTree_root {children : List Html} (apart : AreApart "pre".toList children)
    (visible : hiddenList children = []) :
    (groupTree (.root children)).named "pre".toList =
      (namedList "pre".toList children).map copied := by
  have lists := namedList_wrapSiblings (named_groupNode.2 children apart visible)
  rw [map_plain_groupList] at lists
  exact lists

/-- Reads the code blocks that grouping does not look at. -/
def hiddenReading : Lowering.Reading (Tag × List Html) where
  read := hiddenList
  isOpen name := name ≠ setName
  append := hiddenList_append
  blank _ _ := rfl
  within tag children isOpen := by
    rw [hiddenList, hidden, if_neg isOpen, hiddenList, List.append_nil]
  frame := by decide

/-- The outer element for a code block gets the tab of the inner one, if group and label are not
empty. -/
theorem siblingTag_codeContent (language : Option Text) (value : Text) {tab : Option CodeTab}
    (rest : Option Text)
    (filled : ∀ place ∈ tab, Text.nonempty? place.group = some place.group ∧
      Text.nonempty? place.label = some place.label) :
    let tag := siblingTag (Lowering.plainTag "pre") (Lowering.codeContent language value tab rest)
    tag.attribute? groupName = tab.map (·.group) ∧
      tag.attribute? labelName = tab.map (·.label) := by
  intro tag
  obtain ⟨hasGroup, hasLabel, _⟩ := Lowering.attribute?_codeTag language tab rest
  have first : firstElement? (Lowering.codeContent language value tab rest) =
      some (Lowering.codeTag language tab rest) := rfl
  have isGroup : filled? (Lowering.codeTag language tab rest) groupName =
      (tab.map (·.group)).bind Text.nonempty? := congrArg (·.bind Text.nonempty?) hasGroup
  have isLabel : filled? (Lowering.codeTag language tab rest) labelName =
      (tab.map (·.label)).bind Text.nonempty? := congrArg (·.bind Text.nonempty?) hasLabel
  have given : tag = (withGroup (Lowering.plainTag "pre")
      (Lowering.codeContent language value tab rest)).1 := siblingTag_of_block rfl _
  have empty : ∀ name, filled? (Lowering.plainTag "pre") name = none := fun _ => rfl
  rw [given, withGroup, empty, first]
  dsimp only
  rw [isGroup, isLabel]
  cases tab with
  | none => exact ⟨rfl, rfl⟩
  | some place =>
    obtain ⟨groupFilled, labelFilled⟩ := filled place rfl
    dsimp only [Option.map_some, Option.bind_some]
    rw [groupFilled, labelFilled]
    refine ⟨?_, ?_⟩
    · dsimp only
      rw [Tag.attribute?_setAttribute_of_ne (by decide), Tag.attribute?_setAttribute_self]
    · dsimp only
      rw [Tag.attribute?_setAttribute_self]

end Manuscript.CodeTabs
