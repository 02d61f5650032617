import Manuscript.Proofs.Heading.Kept
import Manuscript.Proofs.Html.Named
import Manuscript.Proofs.Html.Tag

/-!
# The pass over code tabs, run again

A block in a set of tabs is not looked at again. A block that stayed bare keeps its language, so it
stays bare, and it keeps its group: the siblings after it are no run of that group now if they were
none before (`takeRun_wrapSiblings`). So grouping what is grouped changes nothing
(`groupTree_groupTree`), if no code block is inside another.
-/

namespace Manuscript.CodeTabs

open Html (named namedList IsApart AreApart)

/-! ## The group of a block -/

/-- An attribute that is filled has a value, which is not empty. -/
theorem attribute?_of_filled? {tag : Tag} {name value : Text}
    (found : filled? tag name = some value) :
    tag.attribute? name = some value ∧ Text.nonempty? value = some value := by
  obtain ⟨given, isGiven, nonempty⟩ := Option.bind_eq_some_iff.1 found
  have same : given = value := by
    rw [Text.nonempty?] at nonempty
    split at nonempty
    · cases nonempty
    · exact Option.some.inj nonempty
  exact ⟨same ▸ isGiven, same ▸ (same ▸ nonempty)⟩

/-- A block to which group and label were copied has both. -/
theorem withGroup_of_filled? {tag : Tag} {group label : Text} (children : List Html)
    (hasGroup : filled? tag groupName = some group)
    (hasLabel : filled? tag labelName = some label) :
    withGroup tag children = (tag, some group) := by
  rw [withGroup, hasGroup, hasLabel]

/-- What is copied to a block is what it has afterwards. -/
theorem filled?_copied {tag : Tag} {group label : Text}
    (isGroup : Text.nonempty? group = some group) (isLabel : Text.nonempty? label = some label) :
    let copied := (tag.setAttribute groupName group).setAttribute labelName label
    filled? copied groupName = some group ∧ filled? copied labelName = some label := by
  refine ⟨?_, ?_⟩
  · rw [filled?, Tag.attribute?_setAttribute_of_ne (by decide), Tag.attribute?_setAttribute_self]
    exact isGroup
  · rw [filled?, Tag.attribute?_setAttribute_self]
    exact isLabel

/-- A block has both group and label in the end, or it stays as it is and has no group. -/
theorem withGroup_cases (tag : Tag) (children : List Html) :
    withGroup tag children = (tag, none) ∨
      ∃ copied group label, withGroup tag children = (copied, some group) ∧
        filled? copied groupName = some group ∧ filled? copied labelName = some label := by
  unfold withGroup
  split
  · rename_i group label hasGroup hasLabel
    exact .inr ⟨tag, group, label, rfl, hasGroup, hasLabel⟩
  · split
    · exact .inl rfl
    · split
      · rename_i group label isGroup isLabel
        exact .inr ⟨_, group, label, rfl, filled?_copied (attribute?_of_filled? isGroup).2
          (attribute?_of_filled? isLabel).2⟩
      · exact .inl rfl

/-- Copying the group again changes neither the tag nor the group. -/
theorem withGroup_withGroup (tag : Tag) (children : List Html) :
    withGroup (withGroup tag children).1 children = withGroup tag children := by
  obtain same | ⟨copied, group, label, same, hasGroup, hasLabel⟩ := withGroup_cases tag children
  · rw [same, same]
  · rw [same]
    exact withGroup_of_filled? children hasGroup hasLabel

/-- Copying group and label to a sibling keeps its name. -/
@[simp] theorem name_siblingTag (tag : Tag) (children : List Html) :
    (siblingTag tag children).name = tag.name := by
  rw [siblingTag]
  split
  · exact name_withGroup tag children
  · rfl

/-- Nothing is copied to a sibling that is no block. -/
theorem siblingTag_of_ne {tag : Tag} (other : tag.name ≠ "pre".toList) (children : List Html) :
    siblingTag tag children = tag :=
  if_neg other

/-- Group and label are copied to a sibling that is a block. -/
theorem siblingTag_of_block {tag : Tag} (block : tag.name = "pre".toList) (children : List Html) :
    siblingTag tag children = (withGroup tag children).1 :=
  if_pos block

/-- Copying group and label to a sibling again changes nothing. -/
theorem siblingTag_siblingTag (tag : Tag) (children : List Html) :
    siblingTag (siblingTag tag children) children = siblingTag tag children := by
  by_cases block : tag.name = "pre".toList
  · have again := withGroup_withGroup tag children
    rw [siblingTag_of_block ((name_siblingTag tag children).trans block), siblingTag_of_block block,
      again]
  · rw [siblingTag_of_ne block, siblingTag_of_ne block]

/-- Copying the group leaves the language as it is. -/
theorem isBare_siblingTag (tag : Tag) (children : List Html) :
    isBare (siblingTag tag children) children = isBare tag children := by
  have same : (siblingTag tag children).attribute? "data-language".toList =
      tag.attribute? "data-language".toList := by
    rw [siblingTag]
    split
    · unfold withGroup
      split
      · rfl
      · split
        · rfl
        · split
          · rw [Tag.attribute?_setAttribute_of_ne (by decide),
              Tag.attribute?_setAttribute_of_ne (by decide)]
          · rfl
    · rfl
  rw [isBare, language?, same]
  rfl

/-! ## Siblings -/

/-- The siblings of a list with what becomes of each alone. -/
theorem groupList_cons (node : Html) (rest : List Html) :
    groupList (node :: rest) = { plain := node, grouped := groupNode node } :: groupList rest := by
  rw [groupList]

/-- No siblings are put into no sets. -/
@[simp] theorem wrapSiblings_nil : wrapSiblings [] = [] := by
  rw [wrapSiblings]

/-- A sibling that begins no run is grouped alone. -/
theorem wrapSiblings_cons_of_alone {sibling : Sibling} {rest : List Sibling}
    (alone : ∀ group, sibling.group? = some group → (takeRun group rest).1 = []) :
    wrapSiblings (sibling :: rest) = wrapAlone sibling :: wrapSiblings rest := by
  rw [wrapSiblings]
  cases belongs : sibling.group? with
  | none => rfl
  | some group =>
    dsimp only
    rw [alone group belongs, if_pos List.isEmpty_nil]

/-- A sibling that is alone is put into a set of tabs if it is a code block that does not stay bare.
Otherwise it is grouped below. -/
theorem wrapAlone_cases (sibling : Sibling) :
    (wrapAlone sibling = sibling.grouped ∧ ∀ tag children, sibling.plain = .element tag children →
      tag.name = "pre".toList → isBare tag children = true) ∨
    ∃ group blocks, wrapAlone sibling = tabSet group blocks := by
  unfold wrapAlone
  split
  · rename_i tag children isElement
    by_cases wrapped : (tag.name = "pre".toList && !isBare tag children) = true
    · exact .inr ⟨_, _, if_pos wrapped⟩
    · refine .inl ⟨if_neg wrapped, fun tag children same block => ?_⟩
      cases isElement.symm.trans same
      simpa [block] using wrapped
  · rename_i noElement
    exact .inl ⟨rfl, fun tag children same => absurd same (noElement tag children)⟩

/-- A sibling that is no block, or a bare one, is left as it was grouped. -/
theorem wrapAlone_of_bare {sibling : Sibling} (bare : ∀ tag children,
    sibling.plain = .element tag children → tag.name = "pre".toList → isBare tag children = true) :
    wrapAlone sibling = sibling.grouped := by
  unfold wrapAlone
  split
  · rename_i tag children isElement
    refine if_neg fun wrapped => ?_
    obtain ⟨block, dressed⟩ := Bool.and_eq_true_iff.1 wrapped
    rw [bare tag children isElement (of_decide_eq_true block)] at dressed
    cases dressed
  · rfl

/-- A set of tabs is an element around its blocks, named as one. -/
theorem name_tabSet (group : Option Text) (blocks : List Html) :
    ∃ tag : Tag, tabSet group blocks = .element tag blocks ∧ tag.name = setName := by
  cases group with
  | none => exact ⟨_, rfl, rfl⟩
  | some group => exact ⟨_, rfl, rfl⟩

/-- What is in a set of tabs is not looked at again. -/
theorem groupNode_tabSet (group : Option Text) (blocks : List Html) :
    groupNode (tabSet group blocks) = tabSet group blocks := by
  obtain ⟨tag, same, isSet⟩ := name_tabSet group blocks
  rw [same, groupNode, if_pos isSet]

/-- An element that is no block has no group. -/
theorem group?_element_of_ne {tag : Tag} (other : tag.name ≠ "pre".toList) (children : List Html) :
    group? (.element tag children) = none :=
  if_neg other

/-- A set of tabs has no group itself. -/
theorem group?_tabSet (group : Option Text) (blocks : List Html) :
    group? (tabSet group blocks) = none := by
  obtain ⟨tag, same, isSet⟩ := name_tabSet group blocks
  rw [same]
  exact group?_element_of_ne (by rw [isSet]; decide) blocks

/-- Without a code block there is nothing to group. -/
theorem groupNode_of_named_eq_nil :
    (∀ tree : Html, tree.named "pre".toList = [] → groupNode tree = tree) ∧
      ∀ nodes, namedList "pre".toList nodes = [] → wrapSiblings (groupList nodes) = nodes := by
  refine Html.induction ?_ ?_ ?_ ?_ ?_ ?_ ?_
  · exact fun children _ _ => rfl
  · intro tag children below none
    have other : tag.name ≠ "pre".toList := fun block => by
      rw [Html.named_element_self block] at none
      cases none
    rw [Html.named_element_of_ne other] at none
    rw [groupNode, siblingTag_of_ne other, below none, ite_self]
  · exact fun value _ => rfl
  · exact fun value _ => rfl
  · exact fun value _ => rfl
  · exact fun _ => wrapSiblings_nil
  · intro node rest own later none
    obtain ⟨noneHere, noneLater⟩ := List.append_eq_nil_iff.1 none
    have other : ∀ tag children, node = .element tag children → tag.name ≠ "pre".toList := by
      rintro tag children rfl block
      rw [Html.named_element_self block] at noneHere
      cases noneHere
    have ungrouped : group? node = Option.none := by
      cases node with
      | element tag children => exact group?_element_of_ne (other tag children rfl) children
      | root children => rfl
      | text value => rfl
      | comment value => rfl
      | raw value => rfl
    have alone : ∀ group, Sibling.group? ⟨node, groupNode node⟩ = some group →
        (takeRun group (groupList rest)).1 = [] := fun group belongs => by
      cases ungrouped.symm.trans belongs
    rw [groupList_cons, wrapSiblings_cons_of_alone alone,
      wrapAlone_of_bare fun tag children same block => absurd block (other tag children same),
      own noneHere, later noneLater]

/-- A code block that has no other inside gets its group, and is left as it is below. -/
theorem groupNode_block {tag : Tag} {children : List Html} (block : tag.name = "pre".toList)
    (single : namedList "pre".toList children = []) :
    groupNode (.element tag children) = .element (siblingTag tag children) children := by
  rw [groupNode, groupNode_of_named_eq_nil.2 children single, if_neg (by rw [block]; decide)]

/-! ## Grouping again -/

/-- A node that grouping leaves as it is when it stands alone. -/
def IsSettled (node : Html) : Prop :=
  wrapAlone { plain := node, grouped := groupNode node } = node

/-- A settled node that begins no run stays among its siblings. -/
theorem wrapSiblings_cons_of_settled {node : Html} {rest : List Html} (settled : IsSettled node)
    (alone : ∀ group, group? node = some group → (takeRun group (groupList rest)).1 = []) :
    wrapSiblings (groupList (node :: rest)) = node :: wrapSiblings (groupList rest) := by
  have single : Sibling.group? ⟨node, groupNode node⟩ = group? node := rfl
  have same : wrapAlone ⟨node, groupNode node⟩ = node := settled
  rw [groupList_cons, wrapSiblings_cons_of_alone (single ▸ alone), same]

/-- A set of tabs is not looked at again. -/
theorem isSettled_tabSet (group : Option Text) (blocks : List Html) :
    IsSettled (tabSet group blocks) := by
  obtain ⟨tag, same, isSet⟩ := name_tabSet group blocks
  rw [IsSettled, wrapAlone_of_bare, groupNode_tabSet]
  rintro other children isElement block
  cases same.symm.trans isElement
  rw [isSet] at block
  cases block

/-- A sibling with what becomes of it alone, which is not changed again. -/
structure Sibling.IsReady (sibling : Sibling) : Prop where
  grouped : sibling.grouped = groupNode sibling.plain
  apart : IsApart "pre".toList sibling.plain
  again : groupNode sibling.grouped = sibling.grouped

/-- Grouping an element copies group and label to it and changes what is below. -/
theorem groupNode_element (tag : Tag) (children : List Html) :
    ∃ below, groupNode (.element tag children) = .element (siblingTag tag children) below := by
  rw [groupNode]
  split
  · rename_i isSet
    exact ⟨children, by rw [siblingTag_of_ne (by rw [isSet]; decide)]⟩
  · exact ⟨_, rfl⟩

/-- What becomes of a sibling that is alone stays as it is, and belongs to no other group than the
sibling. -/
theorem Sibling.IsReady.wrapAlone {sibling : Sibling} (ready : sibling.IsReady) :
    IsSettled (wrapAlone sibling) ∧
      (CodeTabs.group? (wrapAlone sibling) = none ∨
        CodeTabs.group? (wrapAlone sibling) = sibling.group?) := by
  obtain ⟨plain, result⟩ := sibling
  obtain ⟨grouped, apart, again⟩ := ready
  dsimp only at grouped apart again
  subst grouped
  obtain ⟨alone, bare⟩ | ⟨group, blocks, wrapped⟩ := wrapAlone_cases ⟨plain, groupNode plain⟩
  · rw [alone]
    dsimp only
    cases plain with
    | element tag children =>
      obtain ⟨below, same⟩ := groupNode_element tag children
      by_cases block : tag.name = "pre".toList
      · have inside := groupNode_block block (apart.namedList_eq_nil block)
        have bareTag : isBare tag children = true := bare tag children rfl block
        refine ⟨?_, .inr ?_⟩
        · rw [IsSettled, wrapAlone_of_bare, again]
          rintro other others isElement _
          cases inside.symm.trans isElement
          rw [isBare_siblingTag, bareTag]
        · have named : (siblingTag tag children).name = "pre".toList :=
            (name_siblingTag tag children).trans block
          rw [inside, CodeTabs.group?, if_pos named, Sibling.group?, CodeTabs.group?, if_pos block,
            siblingTag_of_block block, withGroup_withGroup]
      · rw [siblingTag_of_ne block] at same
        refine ⟨?_, .inl (same ▸ group?_element_of_ne block below)⟩
        rw [IsSettled, wrapAlone_of_bare, again]
        rintro other others isElement isBlock
        cases same.symm.trans isElement
        exact absurd isBlock block
    | root children => exact ⟨again, .inl rfl⟩
    | text value => exact ⟨again, .inl rfl⟩
    | comment value => exact ⟨again, .inl rfl⟩
    | raw value => exact ⟨again, .inl rfl⟩
  · rw [wrapped]
    exact ⟨isSettled_tabSet group blocks, .inl (group?_tabSet group blocks)⟩

/-- Blanks stay, and what becomes of any other sibling is no blank. -/
theorem isBlank_wrapAlone (node : Html) :
    (wrapAlone { plain := node, grouped := groupNode node }).isBlank = node.isBlank := by
  cases node with
  | element tag children =>
    obtain ⟨below, same⟩ := groupNode_element tag children
    obtain ⟨alone, _⟩ | ⟨group, blocks, wrapped⟩ :=
      wrapAlone_cases ⟨.element tag children, groupNode (.element tag children)⟩
    · rw [alone, same]
      rfl
    · obtain ⟨other, set, _⟩ := name_tabSet group blocks
      rw [wrapped, set]
      rfl
  | root children => rfl
  | text value => rfl
  | comment value => rfl
  | raw value => rfl

/-- A list of siblings that is grouped begins with what becomes of the first sibling alone, or with
a set of tabs. -/
theorem wrapSiblings_cons (sibling : Sibling) (rest : List Sibling) :
    ∃ head tail, wrapSiblings (sibling :: rest) = head :: tail ∧
      (head = wrapAlone sibling ∨ ∃ group blocks, head = tabSet group blocks) := by
  rw [wrapSiblings]
  split
  · exact ⟨_, _, rfl, .inl rfl⟩
  · dsimp only
    split
    · exact ⟨_, _, rfl, .inl rfl⟩
    · exact ⟨_, _, rfl, .inr ⟨_, _, rfl⟩⟩

/-- A run ends at a sibling of another group or of none, unless it is blank. -/
theorem takeRun_of_apart {group : Text} {sibling : Sibling} {rest : List Sibling}
    (visible : sibling.plain.isBlank = false) (other : sibling.group? ≠ some group) :
    (takeRun group (sibling :: rest)).1 = [] := by
  rw [takeRun, if_neg (by rw [visible]; decide), if_neg other]

/-- Siblings that begin with no run of a group begin with none when they are grouped. -/
theorem takeRun_wrapSiblings {group : Text} {siblings : List Sibling}
    (ready : ∀ sibling ∈ siblings, sibling.IsReady) (noRun : (takeRun group siblings).1 = []) :
    (takeRun group (groupList (wrapSiblings siblings))).1 = [] := by
  induction siblings with
  | nil =>
    rw [wrapSiblings_nil]
    rfl
  | cons sibling rest ih =>
    obtain ⟨first, others⟩ := List.forall_mem_cons.1 ready
    have isBlank := isBlank_wrapAlone sibling.plain
    rw [← first.grouped] at isBlank
    by_cases blank : sibling.plain.isBlank = true
    · have ungrouped : sibling.group? = none := by
        cases plain : sibling.plain with
        | text value => rw [Sibling.group?, plain]; rfl
        | element tag children => rw [plain] at blank; cases blank
        | root children => rw [plain] at blank; cases blank
        | comment value => rw [plain] at blank; cases blank
        | raw value => rw [plain] at blank; cases blank
      rw [takeRun, if_pos blank] at noRun
      have alone : ∀ group, sibling.group? = some group → (takeRun group rest).1 = [] :=
        fun group belongs => by cases ungrouped.symm.trans belongs
      rw [wrapSiblings_cons_of_alone alone, groupList_cons, takeRun, if_pos (isBlank.trans blank)]
      exact ih others noRun
    · have visible : sibling.plain.isBlank = false := Bool.eq_false_iff.2 blank
      have other : sibling.group? ≠ some group := fun same => by
        rw [takeRun, if_neg blank, if_pos same] at noRun
        cases noRun
      obtain ⟨head, tail, same, rfl | ⟨set, blocks, rfl⟩⟩ := wrapSiblings_cons sibling rest
      · rw [same, groupList_cons]
        refine takeRun_of_apart (isBlank.trans visible) fun belongs => ?_
        obtain none | kept := first.wrapAlone.2
        · cases none.symm.trans belongs
        · exact other (kept.symm.trans belongs)
      · obtain ⟨tag, isElement, _⟩ := name_tabSet set blocks
        rw [same, groupList_cons]
        refine takeRun_of_apart (by rw [isElement]; rfl) fun belongs => ?_
        cases (group?_tabSet set blocks).symm.trans belongs

/-- Grouping siblings that are grouped changes nothing. -/
theorem wrapSiblings_wrapSiblings {siblings : List Sibling}
    (ready : ∀ sibling ∈ siblings, sibling.IsReady) :
    wrapSiblings (groupList (wrapSiblings siblings)) = wrapSiblings siblings := by
  induction siblings using wrapSiblings.induct with
  | case1 => rw [wrapSiblings_nil, groupList, wrapSiblings_nil]
  | case2 sibling rest ungrouped ih =>
    obtain ⟨first, others⟩ := List.forall_mem_cons.1 ready
    obtain ⟨settled, stays⟩ := first.wrapAlone
    have alone : ∀ group, sibling.group? = some group → (takeRun group rest).1 = [] :=
      fun group belongs => by cases ungrouped.symm.trans belongs
    have later : ∀ group, group? (wrapAlone sibling) = some group →
        (takeRun group (groupList (wrapSiblings rest))).1 = [] := fun group belongs => by
      rw [ungrouped, or_self] at stays
      cases stays.symm.trans belongs
    rw [wrapSiblings_cons_of_alone alone, wrapSiblings_cons_of_settled settled later, ih others]
  | case3 sibling rest group grouped run empty ih =>
    obtain ⟨first, others⟩ := List.forall_mem_cons.1 ready
    obtain ⟨settled, stays⟩ := first.wrapAlone
    have alone : ∀ other, sibling.group? = some other → (takeRun other rest).1 = [] :=
      fun other belongs => by
        cases grouped.symm.trans belongs
        exact List.isEmpty_iff.1 empty
    have later : ∀ other, group? (wrapAlone sibling) = some other →
        (takeRun other (groupList (wrapSiblings rest))).1 = [] := fun other belongs => by
      refine takeRun_wrapSiblings others (alone other ?_)
      obtain none | kept := stays
      · cases none.symm.trans belongs
      · exact kept.symm.trans belongs
    rw [wrapSiblings_cons_of_alone alone, wrapSiblings_cons_of_settled settled later, ih others]
  | case4 sibling rest group grouped run several ih =>
    obtain ⟨first, others⟩ := List.forall_mem_cons.1 ready
    have same : wrapSiblings (sibling :: rest) =
        tabSet (some group) (withGroupNode sibling.plain :: run.1) :: wrapSiblings run.2 := by
      rw [wrapSiblings, grouped]
      exact if_neg several
    have alone : ∀ other, group? (tabSet (some group) (withGroupNode sibling.plain :: run.1)) =
        some other → (takeRun other (groupList (wrapSiblings run.2))).1 = [] :=
      fun other belongs => by cases (group?_tabSet _ _).symm.trans belongs
    rw [same, wrapSiblings_cons_of_settled (isSettled_tabSet _ _) alone,
      ih fun other member => others other (takeRun_subset group rest member)]

/-- Grouping a node that is grouped changes nothing, if no code block in it is inside another. -/
theorem groupNode_groupNode :
    (∀ tree : Html, IsApart "pre".toList tree → groupNode (groupNode tree) = groupNode tree) ∧
      ∀ nodes, AreApart "pre".toList nodes → ∀ sibling ∈ groupList nodes, sibling.IsReady := by
  refine Html.induction ?_ ?_ ?_ ?_ ?_ ?_ ?_
  · exact fun children _ _ => rfl
  · intro tag children below apart
    by_cases isSet : tag.name = setName
    · rw [groupNode, if_pos isSet, groupNode, if_pos isSet]
    · have again := wrapSiblings_wrapSiblings (below apart.below)
      have kept : siblingTag (siblingTag tag children) (wrapSiblings (groupList children)) =
          siblingTag tag children := by
        by_cases block : tag.name = "pre".toList
        · rw [groupNode_of_named_eq_nil.2 children (apart.namedList_eq_nil block),
            siblingTag_siblingTag]
        · rw [siblingTag_of_ne block, siblingTag_of_ne block]
      rw [groupNode, if_neg isSet, groupNode, if_neg (by rwa [name_siblingTag]), again, kept]
  · exact fun value _ => rfl
  · exact fun value _ => rfl
  · exact fun value _ => rfl
  · exact fun _ sibling none => absurd none List.not_mem_nil
  · intro node rest own later apart
    obtain ⟨first, others⟩ := Html.areApart_cons.1 apart
    exact List.forall_mem_cons.2 ⟨⟨rfl, first, own first⟩, later others⟩

/-- Grouping the code blocks of a tree again changes nothing, if none is inside another. -/
theorem groupTree_groupTree {tree : Html} (apart : IsApart "pre".toList tree) :
    groupTree (groupTree tree) = groupTree tree := by
  have below : ∀ children, AreApart "pre".toList children →
      wrapSiblings (groupList (wrapSiblings (groupList children))) =
        wrapSiblings (groupList children) :=
    fun children apart => wrapSiblings_wrapSiblings (groupNode_groupNode.2 children apart)
  cases tree with
  | root children => exact congrArg Html.root (below children apart)
  | element tag children =>
    by_cases isSet : tag.name = setName
    · rw [groupTree, if_pos isSet, groupTree, if_pos isSet]
    · rw [groupTree, if_neg isSet, groupTree, if_neg isSet, below children apart.below]
  | text value => rfl
  | comment value => rfl
  | raw value => rfl

end Manuscript.CodeTabs
