import Manuscript.Proofs.Repetition.Pass

/-!
# Runs of code blocks

What grouping makes of a list of siblings is said without the order in which it is done (`Grouped`):
every longest run of two or more blocks of one group is one set of tabs, every other block that does
not stay bare is a set of its own, and everything else stays, with what is below it grouped. Sets of
tabs that are there already stay as they are. Nothing is lost but blanks behind a block of a run,
and nothing is changed but the attributes for tabs of a block (`groupTree_grouped`).
-/

namespace Manuscript

namespace CodeTabs

open Html (IsApart AreApart namedList)

/-! ## Blocks and runs -/

/-- The tag of a code block in the end, and the group of the block. The block has both attributes
for tabs, or it gets both from the first element in it, or it has no group. -/
inductive HasTabs (tag : Tag) (children : List Html) : Tag → Option Text → Prop
  | own {group label : Text} (hasGroup : filled? tag groupName = some group)
      (hasLabel : filled? tag labelName = some label) : HasTabs tag children tag (some group)
  | copied {code : Tag} {group label : Text}
      (lacks : filled? tag groupName = none ∨ filled? tag labelName = none)
      (first : firstElement? children = some code) (hasGroup : filled? code groupName = some group)
      (hasLabel : filled? code labelName = some label) :
      HasTabs tag children ((tag.setAttribute groupName group).setAttribute labelName label)
        (some group)
  | none (lacks : filled? tag groupName = none ∨ filled? tag labelName = none)
      (without : ∀ code ∈ firstElement? children,
        filled? code groupName = none ∨ filled? code labelName = none) :
      HasTabs tag children tag none

/-- A code block, its group, and the block as it is shown. -/
inductive IsBlock : Html → Option Text → Html → Prop
  | mk {tag shown : Tag} {children : List Html} {group : Option Text}
      (named : tag.name = "pre".toList) (tabs : HasTabs tag children shown group) :
      IsBlock (.element tag children) group (.element shown children)

/-- Nodes that are blocks of a group or blanks, and the blocks as they are shown. -/
inductive IsRun (group : Text) : List Html → List Html → Prop
  | nil : IsRun group [] []
  | blank {node : Html} {rest panels : List Html} (isBlank : node.isBlank = true)
      (later : IsRun group rest panels) : IsRun group (node :: rest) panels
  | block {node panel : Html} {rest panels : List Html} (isBlock : IsBlock node (some group) panel)
      (later : IsRun group rest panels) : IsRun group (node :: rest) (panel :: panels)

/-- The first node that is no blank is no block of a group. -/
def StartsNoRun (group : Text) (nodes : List Html) : Prop :=
  ∀ next ∈ (nodes.dropWhile Html.isBlank).head?, ∀ panel, ¬ IsBlock next (some group) panel

/-- What becomes of a list of siblings. A run ends where no blank and no block of its group follows,
and a block is alone when no block of its group follows it behind blanks; so the runs are the
longest ones. -/
inductive Grouped : List Html → List Html → Prop
  | nil : Grouped [] []
  | run {group : Text} {first panel : Html} {stretch panels rest others : List Html}
      (isBlock : IsBlock first (some group) panel) (isRun : IsRun group stretch panels)
      (several : panels ≠ []) (visible : ∀ next ∈ rest.head?, next.isBlank = false)
      (ends : StartsNoRun group rest) (later : Grouped rest others) :
      Grouped (first :: (stretch ++ rest))
        (.element
          { name := "code-tabs".toList, classes := ["code-tabs".toList]
            attributes := [("data-code-tabs-group".toList, group)] } (panel :: panels) :: others)
  | alone {tag shown : Tag} {children rest others : List Html} {group : Option Text}
      (isBlock : IsBlock (.element tag children) group (.element shown children))
      (single : ∀ name ∈ group, StartsNoRun name rest) (dressed : isBare tag children = false)
      (later : Grouped rest others) :
      Grouped (.element tag children :: rest)
        (.element
          { name := "code-tabs".toList, classes := ["code-tabs".toList]
            attributes := group.toList.map (("data-code-tabs-group".toList, ·)) }
          [.element shown children] :: others)
  | bare {tag shown : Tag} {children rest others : List Html} {group : Option Text}
      (isBlock : IsBlock (.element tag children) group (.element shown children))
      (single : ∀ name ∈ group, StartsNoRun name rest) (bare : isBare tag children = true)
      (later : Grouped rest others) :
      Grouped (.element tag children :: rest) (.element shown children :: others)
  | untouched {tag : Tag} {children rest others : List Html} (isSet : tag.name = setName)
      (later : Grouped rest others) :
      Grouped (.element tag children :: rest) (.element tag children :: others)
  | inside {tag : Tag} {children below rest others : List Html} (notBlock : tag.name ≠ "pre".toList)
      (notSet : tag.name ≠ setName) (inner : Grouped children below)
      (later : Grouped rest others) :
      Grouped (.element tag children :: rest) (.element tag below :: others)
  | other {node : Html} {rest others : List Html} (notElement : node.tag? = none)
      (later : Grouped rest others) : Grouped (node :: rest) (node :: others)

/-! ## The group of a block -/

/-- One of two options is missing when they are not both there. -/
theorem lacks_of_not_both {first second : Option Text}
    (notBoth : ∀ a b, first = some a → second = some b → False) : first = none ∨ second = none := by
  cases first with
  | none => exact .inl rfl
  | some a =>
    cases second with
    | none => exact .inr rfl
    | some b => exact (notBoth a b rfl rfl).elim

/-- A block gets its group as is stated. -/
theorem hasTabs_withGroup (tag : Tag) (children : List Html) :
    HasTabs tag children (withGroup tag children).1 (withGroup tag children).2 := by
  unfold withGroup
  split
  · rename_i group label hasGroup hasLabel
    exact .own hasGroup hasLabel
  · rename_i notBoth
    have lacks := lacks_of_not_both notBoth
    split
    · rename_i empty
      exact .none lacks (by rw [empty]; exact fun _ none => nomatch none)
    · rename_i code first
      split
      · rename_i group label hasGroup hasLabel
        exact .copied lacks first hasGroup hasLabel
      · rename_i notBoth
        refine .none lacks fun other isFirst => ?_
        cases first.symm.trans isFirst
        exact lacks_of_not_both notBoth

/-- What is stated determines the group of a block. -/
theorem HasTabs.withGroup_eq {tag shown : Tag} {children : List Html} {group : Option Text}
    (tabs : HasTabs tag children shown group) : withGroup tag children = (shown, group) := by
  cases tabs with
  | own hasGroup hasLabel => exact withGroup_of_filled? children hasGroup hasLabel
  | copied lacks first hasGroup hasLabel =>
    rcases lacks with lacks | lacks <;> simp [withGroup, lacks, first, hasGroup, hasLabel]
  | none lacks without =>
    cases first : firstElement? children with
    | none => rcases lacks with lacks | lacks <;> simp [withGroup, lacks, first]
    | some code =>
      rcases lacks with lacks | lacks <;> rcases without code first with missing | missing <;>
        simp [withGroup, lacks, first, missing]

/-- A block of a group is shown with the group copied to it. -/
theorem isBlock_iff {node panel : Html} {group : Text} :
    IsBlock node (some group) panel ↔ group? node = some group ∧ panel = withGroupNode node := by
  constructor
  · rintro ⟨named, tabs⟩
    have same := tabs.withGroup_eq
    rw [group?, if_pos named, withGroupNode, siblingTag_of_block named, same]
    exact ⟨rfl, rfl⟩
  · rintro ⟨belongs, rfl⟩
    cases node with
    | element tag children =>
      by_cases named : tag.name = "pre".toList
      · rw [group?, if_pos named] at belongs
        rw [withGroupNode, siblingTag_of_block named, ← belongs]
        exact .mk named (hasTabs_withGroup tag children)
      · cases (group?_element_of_ne named children).symm.trans belongs
    | root children => cases belongs
    | text value => cases belongs
    | comment value => cases belongs
    | raw value => cases belongs

/-! ## Grouping a list of siblings -/

/-- A node of another group, or of none, starts no run of the group. -/
theorem startsNoRun_of_cons {group : Text} {node : Html} {rest : List Html}
    (visible : node.isBlank = false) (other : group? node ≠ some group) :
    StartsNoRun group (node :: rest) := by
  rw [StartsNoRun, List.dropWhile_cons_of_neg (by rw [visible]; exact Bool.false_ne_true)]
  intro next isFirst panel isBlock
  cases isFirst
  exact other (isBlock_iff.1 isBlock).1

/-- A list of nodes is a stretch of blanks and blocks of a group and a rest that begins with
neither. -/
structure EndsRun (group : Text) (nodes stretch panels rest : List Html) : Prop where
  whole : nodes = stretch ++ rest
  isRun : IsRun group stretch panels
  visible : ∀ next ∈ rest.head?, next.isBlank = false
  ends : StartsNoRun group rest
  single : panels = [] → StartsNoRun group nodes

/-- A run that is taken ends before the first node that is neither a blank nor a block of the group.
-/
theorem endsRun_takeRun (group : Text) (siblings : List Sibling) :
    ∃ stretch, EndsRun group (siblings.map (·.plain)) stretch (takeRun group siblings).1
      ((takeRun group siblings).2.map (·.plain)) := by
  induction siblings with
  | nil =>
    have none : StartsNoRun group [] := fun next isFirst => by cases isFirst
    exact ⟨[], rfl, .nil, fun next isFirst => (by cases isFirst), none, fun _ => none⟩
  | cons sibling rest ih =>
    obtain ⟨stretch, run⟩ := ih
    rw [takeRun]
    split
    · rename_i blank
      refine ⟨sibling.plain :: stretch, by rw [List.map_cons, run.whole]; rfl,
        .blank blank run.isRun, run.visible, run.ends, fun none => ?_⟩
      rw [StartsNoRun, List.map_cons, List.dropWhile_cons_of_pos blank]
      exact run.single none
    · rename_i visible
      have visible : sibling.plain.isBlank = false := Bool.eq_false_iff.2 visible
      split
      · rename_i belongs
        exact ⟨sibling.plain :: stretch, by rw [List.map_cons, run.whole]; rfl,
          .block (isBlock_iff.2 ⟨belongs, rfl⟩) run.isRun, run.visible, run.ends,
          fun none => absurd none (List.cons_ne_nil _ _)⟩
      · rename_i other
        have here : StartsNoRun group ((sibling :: rest).map (·.plain)) :=
          startsNoRun_of_cons visible other
        refine ⟨[], rfl, .nil, fun next isFirst => ?_, here, fun _ => here⟩
        cases isFirst
        exact visible

/-- What becomes of a sibling alone is what is stated, whatever follows it, if it begins no run. -/
def Sibling.IsGroupedAlone (sibling : Sibling) : Prop :=
  ∀ rest others, (∀ group, sibling.group? = some group → StartsNoRun group rest) →
    Grouped rest others → Grouped (sibling.plain :: rest) (wrapAlone sibling :: others)

/-- Siblings are grouped as is stated. -/
theorem grouped_wrapSiblings {siblings : List Sibling}
    (alone : ∀ sibling ∈ siblings, sibling.IsGroupedAlone) :
    Grouped (siblings.map (·.plain)) (wrapSiblings siblings) := by
  induction siblings using wrapSiblings.induct with
  | case1 =>
    rw [wrapSiblings_nil]
    exact .nil
  | case2 sibling rest ungrouped ih =>
    obtain ⟨first, others⟩ := List.forall_mem_cons.1 alone
    rw [wrapSiblings_cons_of_alone fun group belongs => by cases ungrouped.symm.trans belongs]
    exact first _ _ (fun group belongs => by cases ungrouped.symm.trans belongs) (ih others)
  | case3 sibling rest group grouped run empty ih =>
    obtain ⟨first, others⟩ := List.forall_mem_cons.1 alone
    obtain ⟨stretch, run⟩ := endsRun_takeRun group rest
    have same : ∀ other, sibling.group? = some other → (takeRun other rest).1 = [] :=
      fun other belongs => by
        cases grouped.symm.trans belongs
        exact List.isEmpty_iff.1 empty
    rw [wrapSiblings_cons_of_alone same]
    refine first _ _ (fun other belongs => ?_) (ih others)
    cases grouped.symm.trans belongs
    exact run.single (List.isEmpty_iff.1 empty)
  | case4 sibling rest group grouped run several ih =>
    obtain ⟨_, others⟩ := List.forall_mem_cons.1 alone
    obtain ⟨stretch, ending⟩ := endsRun_takeRun group rest
    have same : wrapSiblings (sibling :: rest) =
        tabSet (some group) (withGroupNode sibling.plain :: run.1) :: wrapSiblings run.2 := by
      rw [wrapSiblings, grouped]
      exact if_neg several
    rw [same, List.map_cons, ending.whole]
    exact .run (isBlock_iff.2 ⟨grouped, rfl⟩) ending.isRun
      (fun empty => several (List.isEmpty_iff.2 empty)) ending.visible ending.ends
      (ih fun other member => others other (takeRun_subset group rest member))

/-! ## Grouping a tree -/

/-- A set of tabs has a name and a class of its own, and its group if there is one. -/
theorem tabSet_eq (group : Option Text) (blocks : List Html) :
    tabSet group blocks = .element
      { name := "code-tabs".toList, classes := ["code-tabs".toList]
        attributes := group.toList.map (("data-code-tabs-group".toList, ·)) } blocks := by
  cases group <;> rfl

/-- A block alone becomes a set of tabs of its own, unless it stays bare. -/
theorem isGroupedAlone_block {tag : Tag} {children : List Html} (named : tag.name = "pre".toList)
    (single : namedList "pre".toList children = []) :
    Sibling.IsGroupedAlone ⟨.element tag children, groupNode (.element tag children)⟩ := by
  intro rest others startsNone later
  have isBlock : IsBlock (.element tag children) (withGroup tag children).2
      (.element (withGroup tag children).1 children) := .mk named (hasTabs_withGroup tag children)
  have starts : ∀ name ∈ (withGroup tag children).2, StartsNoRun name rest :=
    fun name belongs => startsNone name ((if_pos named).trans belongs)
  rw [wrapAlone]
  dsimp only
  cases bare : isBare tag children with
  | false =>
    rw [if_pos (by rw [named]; rfl), withGroupNode, siblingTag_of_block named, tabSet_eq]
    exact .alone isBlock starts bare later
  | true =>
    rw [if_neg (by simp), groupNode_block named single, siblingTag_of_block named]
    exact .bare isBlock starts bare later

/-- What becomes of a node alone is what is stated, if no code block in it is inside another. -/
theorem isGroupedAlone_groupNode :
    (∀ tree : Html, IsApart "pre".toList tree → Sibling.IsGroupedAlone ⟨tree, groupNode tree⟩) ∧
      ∀ nodes, AreApart "pre".toList nodes → ∀ sibling ∈ groupList nodes,
        sibling.IsGroupedAlone := by
  refine Html.induction ?_ ?_ ?_ ?_ ?_ ?_ ?_
  · exact fun children _ _ rest others _ later => .other rfl later
  · intro tag children below apart
    by_cases named : tag.name = "pre".toList
    · exact isGroupedAlone_block named (apart.namedList_eq_nil named)
    intro rest others _ later
    rw [wrapAlone_of_bare fun other content same block => by cases same; exact absurd block named]
    dsimp only
    by_cases isSet : tag.name = setName
    · rw [groupNode, if_pos isSet]
      exact .untouched isSet later
    · have inner := grouped_wrapSiblings (below apart.below)
      rw [map_plain_groupList] at inner
      rw [groupNode, if_neg isSet, siblingTag_of_ne named]
      exact .inside named isSet inner later
  · exact fun value _ rest others _ later => .other rfl later
  · exact fun value _ rest others _ later => .other rfl later
  · exact fun value _ rest others _ later => .other rfl later
  · exact fun _ sibling none => absurd none List.not_mem_nil
  · intro node rest own later apart
    obtain ⟨first, others⟩ := Html.areApart_cons.1 apart
    exact List.forall_mem_cons.2 ⟨own first, later others⟩

end CodeTabs

namespace HtmlPass

open CodeTabs

/-- Grouping the code blocks of a document puts exactly the longest runs of two or more blocks of a
group into one set of tabs each, in order, and every other block that does not stay bare into a set
of its own. Sets that are there already stay as they are. Everything else stays in its order, less
the blanks behind a block of a run, and the tag of a block is as it was or has the two attributes
for tabs set. -/
theorem codeTabs_grouped (options : Options) {children : List Html}
    (apart : (Html.root children).IsApart "pre".toList) :
    ∃ result, (codeTabs.run options (.root children)).1 = .root result ∧
      Grouped children result := by
  refine ⟨_, rfl, ?_⟩
  have grouped := grouped_wrapSiblings (isGroupedAlone_groupNode.2 children apart)
  rwa [map_plain_groupList] at grouped

/-- Two blocks of a group with a blank between them, a set of tabs that is there already, and a
block of the group behind it in a quotation. -/
def separatedBlocks : List Html :=
  [ tabBlock ['a'] ['g'] ['A'], .text ['\n'], tabBlock ['b'] ['g'] ['B'], .text ['\n'],
    tabSet none [tabBlock ['c'] ['g'] ['C']],
    .element { name := "blockquote".toList } [tabBlock "text".toList ['g'] ['D']] ]

/-- Blocks are grouped on every level of a document. -/
theorem codeTabs_grouped_separatedBlocks :
    (Html.root separatedBlocks).IsApart "pre".toList ∧
      ∃ result, (codeTabs.run {} (.root separatedBlocks)).1 = .root result ∧
        Grouped separatedBlocks result :=
  have apart : (Html.root separatedBlocks).IsApart "pre".toList := by decide
  ⟨apart, codeTabs_grouped {} apart⟩

/-- A block with a group and without a label, around an element with both. -/
def halfLabelledBlock : Html :=
  .element { name := "pre".toList, attributes := [(groupName, ['x'])] }
    [.element { name := "code".toList, attributes := [(groupName, ['g']), (labelName, ['A'])] } []]

/-- A block need not keep its attributes: a group without a label is overwritten. -/
theorem groupOfBlock_is_overwritten :
    ¬∀ (options : Options) (children result : List Html),
      (Html.root children).IsApart "pre".toList →
      (codeTabs.run options (.root children)).1 = .root result →
      ∀ block ∈ Html.namedList "pre".toList children,
        ∃ shown ∈ Html.namedList "pre".toList result, block.1.attributes ⊆ shown.1.attributes := by
  intro kept
  have run : (codeTabs.run {} (.root [halfLabelledBlock])).1 =
      .root [wrapAlone ⟨halfLabelledBlock, groupNode halfLabelledBlock⟩] := by
    have alone : wrapSiblings (groupList [halfLabelledBlock]) =
        [wrapAlone ⟨halfLabelledBlock, groupNode halfLabelledBlock⟩] := by
      rw [groupList_cons, wrapSiblings_cons_of_alone (fun _ _ => rfl), groupList, wrapSiblings_nil]
    exact congrArg Html.root alone
  exact absurd (kept {} _ _ (by decide) run) (by decide)

end HtmlPass

end Manuscript
