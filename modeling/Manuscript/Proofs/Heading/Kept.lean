import Manuscript.Pass
import Manuscript.Proofs.Html.Induction
import Manuscript.Proofs.Html.Safety

/-!
# Passes that keep all headings

The passes after the table of contents put elements around others, add elements that are no
headings, and set classes and attributes other than the identifier. So the headings of a tree stay,
with their levels, their identifiers and their order (`headings_run`).
-/

namespace Manuscript

/-- The level of a heading and its identifier, if it has one. -/
def Tag.heading? (tag : Tag) : Option (Nat × Option Text) :=
  (Html.headingLevel? tag.name).map fun level => (level, tag.attribute? "id".toList)

namespace Html

/-- The headings of a list of trees, in document order. -/
def headingsList (nodes : List Html) : List (Nat × Option Text) :=
  (elementsList nodes).filterMap Tag.heading?

/-- The headings of a tree, in document order. -/
def headings (tree : Html) : List (Nat × Option Text) :=
  tree.elements.filterMap Tag.heading?

/-- There are no headings among no nodes. -/
@[simp] theorem headingsList_nil : headingsList [] = [] :=
  rfl

/-- The headings of siblings are those of the first and then those of the others. -/
@[simp] theorem headingsList_cons (node : Html) (rest : List Html) :
    headingsList (node :: rest) = node.headings ++ headingsList rest :=
  List.filterMap_append

/-- The headings of two lists are those of the one and then those of the other. -/
@[simp] theorem headingsList_append (front back : List Html) :
    headingsList (front ++ back) = headingsList front ++ headingsList back := by
  induction front with
  | nil => rfl
  | cons node rest ih => rw [List.cons_append, headingsList_cons, ih, headingsList_cons,
      List.append_assoc]

/-- The headings of a root are those of its children. -/
@[simp] theorem headings_root (children : List Html) :
    (Html.root children).headings = headingsList children :=
  rfl

/-- An element that is a heading comes before the headings in it. -/
theorem headings_element (tag : Tag) (children : List Html) :
    (Html.element tag children).headings = tag.heading?.toList ++ headingsList children := by
  rw [headings, elements, List.filterMap_cons, headingsList]
  cases tag.heading? <;> rfl

/-- An element whose tag and content have the same headings has the same headings. -/
theorem headings_element_congr {tag other : Tag} {children content : List Html}
    (own : tag.heading? = other.heading?) (below : headingsList children = headingsList content) :
    (Html.element tag children).headings = (Html.element other content).headings := by
  rw [headings_element, headings_element, own, below]

/-- An element that is no heading has the headings of its content. -/
theorem headings_element_of_none {tag : Tag} (plain : tag.heading? = none) (children : List Html) :
    (Html.element tag children).headings = headingsList children := by
  rw [headings_element, plain, Option.toList_none, List.nil_append]

/-- There is no heading in a blank. -/
theorem headings_of_isBlank {node : Html} (blank : node.isBlank = true) : node.headings = [] := by
  cases node with
  | text value => rfl
  | root children => cases blank
  | element tag children => cases blank
  | comment value => cases blank
  | raw value => cases blank

end Html

namespace Tag

/-- Whether a tag is a heading depends on its name alone, and which one it is on its identifier. -/
theorem heading?_congr {tag other : Tag} (name : tag.name = other.name)
    (id : tag.attribute? "id".toList = other.attribute? "id".toList) :
    tag.heading? = other.heading? := by
  rw [heading?, heading?, name, id]

/-- An element that is not named as a heading is none. -/
theorem heading?_eq_none {tag : Tag} (plain : Html.headingLevel? tag.name = none) :
    tag.heading? = none := by
  rw [heading?, plain, Option.map_none]

end Tag

open Html (headingsList)

namespace HeadingAnchor

/-- An anchor adds no heading. -/
theorem headings_withAnchor (tag : Tag) (children : List Html) :
    headingsList (withAnchor tag children) = headingsList children := by
  rw [withAnchor]
  split
  · rfl
  · split <;> rfl

/-- Adding anchors keeps the headings. -/
theorem headings_anchorNode :
    (∀ tree : Html, (anchorNode tree).headings = tree.headings) ∧
      ∀ nodes, headingsList (anchorList nodes) = headingsList nodes := by
  refine Html.induction ?_ ?_ ?_ ?_ ?_ ?_ ?_
  · exact fun children _ => rfl
  · intro tag children below
    rw [anchorNode]
    split
    · rfl
    · split
      · exact Html.headings_element_congr rfl (headings_withAnchor tag children)
      · exact Html.headings_element_congr rfl below
  · exact fun value => rfl
  · exact fun value => rfl
  · exact fun value => rfl
  · rfl
  · intro node rest own later
    rw [anchorList, Html.headingsList_cons, own, later, Html.headingsList_cons]

/-- The pass over anchors keeps the headings of a tree. -/
theorem headings_anchorTree (tree : Html) : (anchorTree tree).headings = tree.headings := by
  cases tree with
  | root children => exact headings_anchorNode.2 children
  | element tag children => exact Html.headings_element_congr rfl (headings_anchorNode.2 children)
  | text value => rfl
  | comment value => rfl
  | raw value => rfl

end HeadingAnchor

namespace CodeTabs

/-- Copying group and label to a block keeps its name. -/
theorem name_withGroup (tag : Tag) (children : List Html) :
    (withGroup tag children).1.name = tag.name := by
  unfold withGroup
  split
  · rfl
  · split
    · rfl
    · split <;> rfl

/-- A code block is no heading, with its group or without. -/
theorem heading?_siblingTag (tag : Tag) (children : List Html) :
    (siblingTag tag children).heading? = tag.heading? := by
  rw [siblingTag]
  split
  · rename_i block
    have plain : ∀ other : Tag, other.name = tag.name → other.heading? = none := fun other same =>
      Tag.heading?_eq_none (by rw [same, block]; rfl)
    rw [plain _ (name_withGroup tag children), plain _ rfl]
  · rfl

/-- Copying group and label keeps the headings of a node. -/
theorem headings_withGroupNode (node : Html) : (withGroupNode node).headings = node.headings := by
  cases node with
  | element tag children =>
    exact Html.headings_element_congr (heading?_siblingTag tag children) rfl
  | root children => rfl
  | text value => rfl
  | comment value => rfl
  | raw value => rfl

/-- A set of tabs has the headings of its blocks. -/
theorem headings_tabSet (group : Option Text) (blocks : List Html) :
    (tabSet group blocks).headings = headingsList blocks := by
  refine Html.headings_element_of_none (Tag.heading?_eq_none ?_) blocks
  cases group <;> rfl

/-- The headings of siblings as they were. -/
def headingsBefore (siblings : List Sibling) : List (Nat × Option Text) :=
  headingsList (siblings.map Sibling.plain)

/-- A sibling that is in no set keeps its headings. -/
theorem headings_wrapAlone {sibling : Sibling}
    (same : sibling.grouped.headings = sibling.plain.headings) :
    (wrapAlone sibling).headings = sibling.plain.headings := by
  unfold wrapAlone
  split
  · split
    · rw [headings_tabSet, Html.headingsList_cons, headings_withGroupNode, Html.headingsList_nil,
        List.append_nil]
    · exact same
  · exact same

/-- A run of blocks and what follows it have the headings of the siblings. -/
theorem headings_takeRun (group : Text) (siblings : List Sibling) :
    headingsList (takeRun group siblings).1 ++ headingsBefore (takeRun group siblings).2 =
      headingsBefore siblings := by
  induction siblings with
  | nil => rfl
  | cons sibling rest ih =>
    have cons : headingsBefore (sibling :: rest) =
        sibling.plain.headings ++ headingsBefore rest := Html.headingsList_cons _ _
    rw [takeRun]
    split
    · rename_i blank
      rw [ih, cons, Html.headings_of_isBlank blank, List.nil_append]
    · split
      · rw [Html.headingsList_cons, headings_withGroupNode, List.append_assoc, ih, cons]
      · rfl

/-- Siblings whose content keeps its headings when it is grouped. -/
def KeepHeadings (siblings : List Sibling) : Prop :=
  ∀ sibling ∈ siblings, sibling.grouped.headings = sibling.plain.headings

/-- What follows a run is among the siblings. -/
theorem takeRun_subset (group : Text) (siblings : List Sibling) :
    (takeRun group siblings).2 ⊆ siblings := by
  induction siblings with
  | nil => exact List.Subset.refl _
  | cons sibling rest ih =>
    rw [takeRun]
    split
    · exact List.Subset.trans ih (List.subset_cons_self _ _)
    · split
      · exact List.Subset.trans ih (List.subset_cons_self _ _)
      · exact List.Subset.refl _

/-- Putting siblings into sets keeps their headings, in order. -/
theorem headings_wrapSiblings {siblings : List Sibling} (keep : KeepHeadings siblings) :
    headingsList (wrapSiblings siblings) = headingsBefore siblings := by
  have cons : ∀ (sibling : Sibling) (rest : List Sibling), headingsBefore (sibling :: rest) =
      sibling.plain.headings ++ headingsBefore rest := fun _ _ => Html.headingsList_cons _ _
  induction siblings using wrapSiblings.induct with
  | case1 =>
    rw [wrapSiblings]
    rfl
  | case2 sibling rest alone ih =>
    obtain ⟨first, others⟩ := List.forall_mem_cons.1 keep
    rw [wrapSiblings, alone]
    dsimp only
    rw [Html.headingsList_cons, headings_wrapAlone first, ih others, cons]
  | case3 sibling rest group grouped run empty ih =>
    obtain ⟨first, others⟩ := List.forall_mem_cons.1 keep
    rw [wrapSiblings, grouped]
    dsimp only
    rw [if_pos empty, Html.headingsList_cons, headings_wrapAlone first, ih others, cons]
  | case4 sibling rest group grouped run several ih =>
    obtain ⟨first, others⟩ := List.forall_mem_cons.1 keep
    rw [wrapSiblings, grouped]
    dsimp only
    rw [if_neg several, Html.headingsList_cons, headings_tabSet, Html.headingsList_cons,
      headings_withGroupNode,
      ih fun other member => others other (takeRun_subset group rest member), List.append_assoc,
      headings_takeRun, cons]

/-- The siblings are remembered as they were. -/
theorem map_plain_groupList (nodes : List Html) : (groupList nodes).map Sibling.plain = nodes := by
  induction nodes with
  | nil => rfl
  | cons node rest ih => rw [groupList, List.map_cons, ih]

/-- Grouping code blocks keeps the headings. -/
theorem headings_groupNode :
    (∀ tree : Html, (groupNode tree).headings = tree.headings) ∧
      ∀ nodes, KeepHeadings (groupList nodes) := by
  refine Html.induction ?_ ?_ ?_ ?_ ?_ ?_ ?_
  · exact fun children _ => rfl
  · intro tag children below
    rw [groupNode]
    split
    · rfl
    · refine Html.headings_element_congr (heading?_siblingTag tag children) ?_
      rw [headings_wrapSiblings below, headingsBefore, map_plain_groupList]
  · exact fun value => rfl
  · exact fun value => rfl
  · exact fun value => rfl
  · exact fun sibling none => absurd none List.not_mem_nil
  · exact fun node rest own later => List.forall_mem_cons.2 ⟨own, later⟩

/-- The pass over code tabs keeps the headings of a tree. -/
theorem headings_groupTree (tree : Html) : (groupTree tree).headings = tree.headings := by
  have below : ∀ children,
      headingsList (wrapSiblings (groupList children)) = headingsList children := fun children => by
    rw [headings_wrapSiblings (headings_groupNode.2 children), headingsBefore, map_plain_groupList]
  cases tree with
  | root children => exact below children
  | element tag children =>
    rw [groupTree]
    split
    · rfl
    · exact Html.headings_element_congr rfl (below children)
  | text value => rfl
  | comment value => rfl
  | raw value => rfl

end CodeTabs

namespace UtilityClass

/-- Adding classes keeps the headings. -/
theorem headings_classNode :
    (∀ tree : Html, ∀ parent panel, (classNode parent panel tree).headings = tree.headings) ∧
      ∀ nodes, ∀ parent panel,
      headingsList (classList parent panel nodes) = headingsList nodes := by
  refine Html.induction ?_ ?_ ?_ ?_ ?_ ?_ ?_
  · exact fun children _ parent panel => rfl
  · intro tag children below parent panel
    obtain ⟨name, attributes⟩ := Tag.addClasses_same (classes parent panel tag) tag
    refine Html.headings_element_congr (Tag.heading?_congr name ?_) (below _ _)
    rw [Tag.attribute?, attributes]
    rfl
  · exact fun value parent panel => rfl
  · exact fun value parent panel => rfl
  · exact fun value parent panel => rfl
  · exact fun parent panel => rfl
  · intro node rest own later parent panel
    rw [classList, Html.headingsList_cons, own, later, Html.headingsList_cons]

/-- The pass over utility classes keeps the headings of a tree. -/
theorem headings_classTree (tree : Html) : (classTree tree).headings = tree.headings := by
  cases tree with
  | root children => exact headings_classNode.2 children none 0
  | element tag children => exact headings_classNode.1 _ none 0
  | text value => rfl
  | comment value => rfl
  | raw value => rfl

end UtilityClass

namespace ColorSwatch

/-- A swatch adds no heading. -/
theorem headings_withSwatch (children : List Html) :
    headingsList (withSwatch children) = headingsList children := by
  rw [withSwatch]
  split
  · rfl
  · split
    · rw [Html.headingsList_append]
      exact List.append_nil _
    · rfl

/-- Adding swatches keeps the headings. -/
theorem headings_swatchNode :
    (∀ tree : Html, ∀ inPre, (swatchNode inPre tree).headings = tree.headings) ∧
      ∀ nodes, ∀ inPre, headingsList (swatchList inPre nodes) = headingsList nodes := by
  refine Html.induction ?_ ?_ ?_ ?_ ?_ ?_ ?_
  · exact fun children _ inPre => rfl
  · intro tag children below inPre
    refine Html.headings_element_congr rfl ?_
    split
    · rw [headings_withSwatch, below]
    · exact below _
  · exact fun value inPre => rfl
  · exact fun value inPre => rfl
  · exact fun value inPre => rfl
  · exact fun inPre => rfl
  · intro node rest own later inPre
    rw [swatchList, Html.headingsList_cons, own, later, Html.headingsList_cons]

/-- The pass over colors keeps the headings of a tree. -/
theorem headings_swatchTree (tree : Html) : (swatchTree tree).headings = tree.headings := by
  cases tree with
  | root children => exact headings_swatchNode.2 children false
  | element tag children => exact headings_swatchNode.1 _ false
  | text value => rfl
  | comment value => rfl
  | raw value => rfl

end ColorSwatch

namespace BackReferenceTitle

/-- A title keeps an element a heading, or no heading. -/
theorem heading?_withTitle (template : Template) (clobberFront : Text) (tag : Tag) :
    (withTitle template clobberFront tag).heading? = tag.heading? := by
  unfold withTitle
  split
  · split
    · exact Tag.heading?_congr rfl (Tag.attribute?_setAttribute_of_ne (by decide) _ tag)
    · rfl
  · rfl

/-- Adding titles keeps the headings. -/
theorem headings_titleNode (template : Template) (clobberFront : Text) :
    (∀ tree : Html, (titleNode template clobberFront tree).headings = tree.headings) ∧
      ∀ nodes, headingsList (titleList template clobberFront nodes) = headingsList nodes := by
  refine Html.induction ?_ ?_ ?_ ?_ ?_ ?_ ?_
  · exact fun children _ => rfl
  · intro tag children below
    exact Html.headings_element_congr (heading?_withTitle template clobberFront tag) below
  · exact fun value => rfl
  · exact fun value => rfl
  · exact fun value => rfl
  · rfl
  · intro node rest own later
    rw [titleList, Html.headingsList_cons, own, later, Html.headingsList_cons]

/-- The pass over back-references keeps the headings of a tree. -/
theorem headings_titleTree (options : FootnoteOptions) (tree : Html) :
    (titleTree options tree).headings = tree.headings := by
  cases tree with
  | root children => exact (headings_titleNode _ _).2 children
  | element tag children => exact (headings_titleNode _ _).1 _
  | text value => rfl
  | comment value => rfl
  | raw value => rfl

end BackReferenceTitle

namespace EmojiLabel

/-- A plain piece of text is no heading. -/
theorem headings_plainNode (reversed : Text) : headingsList (plainNode reversed) = [] := by
  rw [plainNode]
  split <;> rfl

/-- No piece of a text is a heading. -/
theorem headings_cut (plain text : Text) : headingsList (cut plain text) = [] := by
  induction plain, text using cut.induct with
  | case1 plain =>
    rw [cut]
    exact headings_plainNode plain
  | case2 plain c rest none ih =>
    rw [cut, none]
    exact ih
  | case3 plain c rest emoji found more count ih =>
    rw [cut, found]
    dsimp only
    rw [Html.headingsList_append, headings_plainNode, Html.headingsList_cons]
    exact ih

/-- A text that is cut at its emoji has no headings. -/
theorem headings_nodes (value : Text) : headingsList (nodes value) = [] := by
  rw [nodes]
  split
  · rfl
  · exact headings_cut [] value

/-- Labelling emoji keeps the headings. -/
theorem headings_labelNode :
    (∀ tree : Html, (labelNode tree).headings = tree.headings) ∧
      ∀ nodes, headingsList (labelList nodes) = headingsList nodes := by
  refine Html.induction ?_ ?_ ?_ ?_ ?_ ?_ ?_
  · exact fun children _ => rfl
  · intro tag children below
    rw [labelNode]
    split
    · rfl
    · exact Html.headings_element_congr rfl below
  · exact fun value => rfl
  · exact fun value => rfl
  · exact fun value => rfl
  · rfl
  · intro node rest own later
    have labelled : headingsList (labelNode node :: labelList rest) =
        headingsList (node :: rest) := by
      rw [Html.headingsList_cons, own, later, Html.headingsList_cons]
    cases node with
    | text value =>
      rw [labelList, Html.headingsList_append, headings_nodes, later]
      rfl
    | root children => exact labelled
    | element tag children => exact labelled
    | comment value => exact labelled
    | raw value => exact labelled

/-- The pass over emoji keeps the headings of a tree. -/
theorem headings_labelTree (tree : Html) : (labelTree tree).headings = tree.headings := by
  cases tree with
  | root children => exact headings_labelNode.2 children
  | element tag children => exact Html.headings_element_congr rfl (headings_labelNode.2 children)
  | text value => rfl
  | comment value => rfl
  | raw value => rfl

end EmojiLabel

namespace HtmlPass

/-- A pass that neither gives identifiers nor fills the table of contents keeps the headings. -/
theorem headings_run {pass : HtmlPass} (named : pass ≠ .headingIds) (filled : pass ≠ .toc)
    (options : Options) (tree : Html) : (pass.run options tree).1.headings = tree.headings := by
  cases pass with
  | headingIds => exact absurd rfl named
  | toc => exact absurd rfl filled
  | autolinkHeadings => exact HeadingAnchor.headings_anchorTree tree
  | codeTabs => exact CodeTabs.headings_groupTree tree
  | utilityClasses => exact UtilityClass.headings_classTree tree
  | colorSwatch => exact ColorSwatch.headings_swatchTree tree
  | footnoteTitles => exact BackReferenceTitle.headings_titleTree options.footnotes tree
  | accessibleEmoji => exact EmojiLabel.headings_labelTree tree

/-- Such a pass reports no headings. -/
theorem reported_run {pass : HtmlPass} (named : pass ≠ .headingIds) (options : Options)
    (tree : Html) : (pass.run options tree).2 = [] := by
  cases pass with
  | headingIds => exact absurd rfl named
  | _ => rfl

end HtmlPass

end Manuscript
