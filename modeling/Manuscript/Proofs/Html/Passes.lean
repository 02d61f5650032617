import Manuscript.Pass
import Manuscript.Proofs.Html.Safety

/-!
# The passes over HTML keep a tree safe

Every pass makes elements of known names and sets attributes of its own, and moves what was there
before. So a safe tree stays safe (`isSafe_run`).
-/

namespace Manuscript

open Html (AreSafe areSafe_nil areSafe_cons areSafe_singleton areSafe_append isSafe_element)

namespace HeadingId

/-- A heading with an identifier is safe. -/
theorem isSafe_assign {tag : Tag} (safe : tag.IsSafe) (children : List Html) (level : Nat)
    (slugger : Slugger) : (assign tag children level slugger).1.IsSafe := by
  unfold assign
  dsimp only
  split
  · exact safe
  · split
    · exact safe.setAttribute (by decide) _
    · exact safe

/-- Assigning identifiers keeps nodes safe. -/
theorem isSafe_assignNode :
    (∀ tree : Html, tree.IsSafe → ∀ slugger, (assignNode tree slugger).1.IsSafe) ∧
      ∀ nodes, AreSafe nodes → ∀ slugger, AreSafe (assignList nodes slugger).1 := by
  refine Html.isSafe_induction ?_ ?_ ?_ ?_ ?_
  · exact fun value _ => .text value
  · exact fun _ inside _ _ => .root inside
  · intro tag children tagSafe inside below slugger
    rw [assignNode]
    split
    · exact .element tagSafe inside
    · split
      · exact .element (isSafe_assign tagSafe children _ slugger) inside
      · exact .element tagSafe (below slugger)
  · exact fun _ => areSafe_nil
  · intro node rest _ _ own later slugger
    exact areSafe_cons.2 ⟨own slugger, later _⟩

/-- Identifiers for headings keep a tree safe. -/
theorem isSafe_assignTree {tree : Html} (safe : tree.IsSafe) : (assignTree tree).1.IsSafe := by
  cases safe with
  | text value => exact .text value
  | root below => exact .root (isSafe_assignNode.2 _ below {})
  | element tagSafe below => exact .element tagSafe (isSafe_assignNode.2 _ below {})

end HeadingId

namespace Contents

/-- The items of a table of contents are safe. -/
theorem areSafe_items (entries : List Entry) : AreSafe (items entries) := by
  have item : ∀ {entry : Entry} {inner : List Html}, AreSafe inner →
      (Html.element { name := "li".toList } (link entry :: inner)).IsSafe := by
    intro entry inner safe
    have linked : (link entry).IsSafe := by
      refine .element (Tag.isSafe_mk (by decide) ?_ _) (areSafe_singleton.2 (.text _))
      exact List.forall_mem_singleton.2 (show IsSafeName "href".toList by decide)
    exact .element (Tag.isSafe_plain (by decide) _) (areSafe_cons.2 ⟨linked, safe⟩)
  induction entries using items.induct with
  | case1 =>
    rw [items]
    exact areSafe_nil
  | case2 entry rest nested after nestedSafe laterSafe =>
    rw [items]
    refine areSafe_cons.2 ⟨.text _, areSafe_cons.2 ⟨item ?_, laterSafe⟩⟩
    split
    · exact areSafe_nil
    · have inner := areSafe_append.2 ⟨nestedSafe, areSafe_singleton.2 (.text ['\n'])⟩
      exact areSafe_cons.2 ⟨.text _, areSafe_cons.2
        ⟨.element (Tag.isSafe_plain (by decide) _) inner, areSafe_singleton.2 (.text _)⟩⟩

/-- A table of contents is safe. -/
theorem isSafe_list (entries : List Entry) : (list entries).IsSafe :=
  .element (Tag.isSafe_plain (by decide) _)
    (areSafe_append.2 ⟨areSafe_items entries, areSafe_singleton.2 (.text _)⟩)

/-- What takes the place of a section is safe. -/
theorem areSafe_fill (maxDepth level : Nat) {siblings : List Html} (safe : AreSafe siblings) :
    AreSafe (fill maxDepth level siblings) := by
  have after : AreSafe (siblings.dropWhile fun node => !endsSection level node) :=
    fun node member => safe node ((List.dropWhile_sublist _).subset member)
  rw [fill]
  split
  · exact safe
  · refine areSafe_cons.2 ⟨.text _, areSafe_cons.2 ⟨isSafe_list _, ?_⟩⟩
    split
    · exact areSafe_nil
    · exact areSafe_cons.2 ⟨.text _, after⟩

/-- Filling the table of contents keeps nodes safe. -/
theorem isSafe_fillNode? (isTitle : Text → Bool) (maxDepth : Nat) :
    (∀ tree : Html, tree.IsSafe → ∀ filled ∈ fillNode? isTitle maxDepth tree, filled.IsSafe) ∧
      ∀ nodes, AreSafe nodes → ∀ filled ∈ fillList? isTitle maxDepth nodes, AreSafe filled := by
  refine Html.isSafe_induction ?_ ?_ ?_ ?_ ?_
  · exact fun _ _ none => nomatch none
  · exact fun _ _ _ _ none => nomatch none
  · intro tag children tagSafe inside below filled found
    rw [fillNode?] at found
    split at found
    · cases found
    · obtain ⟨content, inList, rfl⟩ := Option.map_eq_some_iff.1 found
      exact .element tagSafe (below content inList)
  · exact fun _ none => nomatch none
  · intro node rest first others own later filled found
    rw [fillList?] at found
    split at found
    · cases found
      exact areSafe_cons.2 ⟨first, areSafe_fill _ _ others⟩
    · split at found
      · rename_i inside
        cases found
        exact areSafe_cons.2 ⟨own _ inside, others⟩
      · obtain ⟨content, inRest, rfl⟩ := Option.map_eq_some_iff.1 found
        exact areSafe_cons.2 ⟨first, later content inRest⟩

/-- A table of contents keeps a tree safe. -/
theorem isSafe_fillTree (isTitle : Text → Bool) (maxDepth : Nat) {tree : Html}
    (safe : tree.IsSafe) : (fillTree isTitle maxDepth tree).IsSafe := by
  have filled : ∀ {children : List Html}, AreSafe children →
      AreSafe ((fillList? isTitle maxDepth children).getD children) := by
    intro children inside
    cases found : fillList? isTitle maxDepth children with
    | none => exact inside
    | some content => exact (isSafe_fillNode? isTitle maxDepth).2 children inside content found
  cases safe with
  | text value => exact .text value
  | root below => exact .root (filled below)
  | element tagSafe below => exact .element tagSafe (filled below)

end Contents

namespace HeadingAnchor

/-- The anchor of a heading is safe. -/
theorem isSafe_anchor (id : Text) : (anchor id).IsSafe := by
  refine .element (Tag.isSafe_mk (by decide) ?_ _) (areSafe_singleton.2 ?_)
  · simp only [List.forall_mem_cons, List.not_mem_nil]
    exact ⟨by decide, by decide, (by decide : IsSafeName "href".toList), fun _ none => nomatch none⟩
  · exact .element (Tag.isSafe_plain (by decide) _) (areSafe_singleton.2 (.text _))

/-- Adding anchors keeps nodes safe. -/
theorem isSafe_anchorNode :
    (∀ tree : Html, tree.IsSafe → (anchorNode tree).IsSafe) ∧
      ∀ nodes, AreSafe nodes → AreSafe (anchorList nodes) := by
  refine Html.isSafe_induction ?_ ?_ ?_ ?_ ?_
  · exact .text
  · exact fun _ inside _ => .root inside
  · intro tag children tagSafe inside below
    rw [anchorNode]
    split
    · exact .element tagSafe inside
    · split
      · refine .element tagSafe ?_
        change AreSafe _
        rw [withAnchor]
        split
        · exact inside
        · split
          · exact inside
          · exact areSafe_cons.2 ⟨isSafe_anchor _, inside⟩
      · exact .element tagSafe below
  · exact areSafe_nil
  · intro node rest _ _ own later
    exact areSafe_cons.2 ⟨own, later⟩

/-- Anchors keep a tree safe. -/
theorem isSafe_anchorTree {tree : Html} (safe : tree.IsSafe) : (anchorTree tree).IsSafe := by
  cases safe with
  | text value => exact .text value
  | root below => exact .root (isSafe_anchorNode.2 _ below)
  | element tagSafe below => exact .element tagSafe (isSafe_anchorNode.2 _ below)

end HeadingAnchor

namespace CodeTabs

/-- A code block with its group copied from inside is safe. -/
theorem isSafe_withGroup {tag : Tag} (safe : tag.IsSafe) (children : List Html) :
    (withGroup tag children).1.IsSafe := by
  unfold withGroup
  split
  · exact safe
  · split
    · exact safe
    · split
      · exact (safe.setAttribute (by decide) _).setAttribute (by decide) _
      · exact safe

/-- Copying group and label keeps a tag safe. -/
theorem isSafe_siblingTag {tag : Tag} (safe : tag.IsSafe) (children : List Html) :
    (siblingTag tag children).IsSafe := by
  rw [siblingTag]
  split
  · exact isSafe_withGroup safe children
  · exact safe

/-- Copying group and label keeps a node safe. -/
theorem isSafe_withGroupNode {node : Html} (safe : node.IsSafe) : (withGroupNode node).IsSafe := by
  cases safe with
  | text value => exact .text value
  | root below => exact .root below
  | element tagSafe below => exact .element (isSafe_siblingTag tagSafe _) below

/-- A sibling is safe as it was and as it is grouped. -/
structure Sibling.IsSafe (sibling : Sibling) : Prop where
  plain : sibling.plain.IsSafe
  grouped : sibling.grouped.IsSafe

/-- A set of tabs is safe if its blocks are. -/
theorem isSafe_tabSet (group : Option Text) {blocks : List Html} (safe : AreSafe blocks) :
    (tabSet group blocks).IsSafe := by
  have tagSafe : Tag.IsSafe { name := setName, classes := [setName] } :=
    Tag.isSafe_plain (by decide) _
  unfold tabSet
  split
  · exact .element (tagSafe.setAttribute (by decide) _) safe
  · exact .element tagSafe safe

/-- A sibling that is in no set of tabs stays safe. -/
theorem isSafe_wrapAlone {sibling : Sibling} (safe : sibling.IsSafe) :
    (wrapAlone sibling).IsSafe := by
  unfold wrapAlone
  split
  · split
    · exact isSafe_tabSet _ (areSafe_singleton.2 (isSafe_withGroupNode safe.plain))
    · exact safe.grouped
  · exact safe.grouped

/-- The blocks of a run are safe, and so are the siblings after it. -/
theorem areSafe_takeRun (group : Text) {siblings : List Sibling}
    (safe : ∀ sibling ∈ siblings, sibling.IsSafe) :
    AreSafe (takeRun group siblings).1 ∧
      ∀ sibling ∈ (takeRun group siblings).2, sibling.IsSafe := by
  induction siblings with
  | nil => exact ⟨areSafe_nil, safe⟩
  | cons sibling rest ih =>
    obtain ⟨first, others⟩ := List.forall_mem_cons.1 safe
    obtain ⟨run, after⟩ := ih others
    rw [takeRun]
    split
    · exact ⟨run, after⟩
    · split
      · exact ⟨areSafe_cons.2 ⟨isSafe_withGroupNode first.plain, run⟩, after⟩
      · exact ⟨areSafe_nil, safe⟩

/-- Putting siblings into sets of tabs keeps them safe. -/
theorem areSafe_wrapSiblings {siblings : List Sibling}
    (safe : ∀ sibling ∈ siblings, sibling.IsSafe) : AreSafe (wrapSiblings siblings) := by
  induction siblings using wrapSiblings.induct with
  | case1 =>
    rw [wrapSiblings]
    exact areSafe_nil
  | case2 sibling rest alone ih =>
    obtain ⟨first, others⟩ := List.forall_mem_cons.1 safe
    rw [wrapSiblings, alone]
    exact areSafe_cons.2 ⟨isSafe_wrapAlone first, ih others⟩
  | case3 sibling rest group grouped run empty ih =>
    obtain ⟨first, others⟩ := List.forall_mem_cons.1 safe
    rw [wrapSiblings, grouped]
    dsimp only
    rw [if_pos empty]
    exact areSafe_cons.2 ⟨isSafe_wrapAlone first, ih others⟩
  | case4 sibling rest group grouped run several ih =>
    obtain ⟨first, others⟩ := List.forall_mem_cons.1 safe
    obtain ⟨blocks, after⟩ := areSafe_takeRun group others
    rw [wrapSiblings, grouped]
    dsimp only
    rw [if_neg several]
    exact areSafe_cons.2 ⟨isSafe_tabSet _ (areSafe_cons.2
      ⟨isSafe_withGroupNode first.plain, blocks⟩), ih after⟩

/-- Grouping code blocks keeps nodes safe. -/
theorem isSafe_groupNode :
    (∀ tree : Html, tree.IsSafe → (groupNode tree).IsSafe) ∧
      ∀ nodes, AreSafe nodes → ∀ sibling ∈ groupList nodes, sibling.IsSafe := by
  refine Html.isSafe_induction ?_ ?_ ?_ ?_ ?_
  · exact .text
  · exact fun _ inside _ => .root inside
  · intro tag children tagSafe inside below
    rw [groupNode]
    split
    · exact .element tagSafe inside
    · exact .element (isSafe_siblingTag tagSafe children) (areSafe_wrapSiblings below)
  · exact fun _ none => nomatch none
  · intro node rest first _ own later
    exact List.forall_mem_cons.2 ⟨⟨first, own⟩, later⟩

/-- Sets of tabs keep a tree safe. -/
theorem isSafe_groupTree {tree : Html} (safe : tree.IsSafe) : (groupTree tree).IsSafe := by
  cases safe with
  | text value => exact .text value
  | root below => exact .root (areSafe_wrapSiblings (isSafe_groupNode.2 _ below))
  | element tagSafe below =>
    rw [groupTree]
    split
    · exact .element tagSafe below
    · exact .element tagSafe (areSafe_wrapSiblings (isSafe_groupNode.2 _ below))

end CodeTabs

namespace UtilityClass

/-- Adding classes keeps nodes safe. -/
theorem isSafe_classNode :
    (∀ tree : Html, tree.IsSafe → ∀ parent panel, (classNode parent panel tree).IsSafe) ∧
      ∀ nodes, AreSafe nodes → ∀ parent panel, AreSafe (classList parent panel nodes) := by
  refine Html.isSafe_induction ?_ ?_ ?_ ?_ ?_
  · exact fun value _ _ => .text value
  · exact fun _ inside _ _ _ => .root inside
  · intro tag children tagSafe _ below parent panel
    exact .element (tagSafe.addClasses _) (below _ _)
  · exact fun _ _ => areSafe_nil
  · intro node rest _ _ own later parent panel
    exact areSafe_cons.2 ⟨own _ _, later _ _⟩

/-- Utility classes keep a tree safe. -/
theorem isSafe_classTree {tree : Html} (safe : tree.IsSafe) : (classTree tree).IsSafe := by
  cases safe with
  | text value => exact .text value
  | root below => exact .root (isSafe_classNode.2 _ below _ _)
  | element tagSafe below => exact isSafe_classNode.1 _ (.element tagSafe below) _ _

end UtilityClass

namespace ColorSwatch

/-- A swatch is safe. -/
theorem isSafe_swatch (color : Text) : (swatch color).IsSafe := by
  refine .element (Tag.isSafe_mk (by decide) ?_ _) (areSafe_singleton.2
    (.element (Tag.isSafe_mk (by decide) ?_ _) areSafe_nil))
  · simp only [List.forall_mem_cons]
    exact ⟨by decide, by decide, (by decide : IsSafeName "title".toList),
      fun _ none => nomatch none⟩
  · simp only [List.forall_mem_cons]
    exact ⟨by decide, (by decide : IsSafeName "style".toList), fun _ none => nomatch none⟩

/-- Adding swatches keeps nodes safe. -/
theorem isSafe_swatchNode :
    (∀ tree : Html, tree.IsSafe → ∀ inPre, (swatchNode inPre tree).IsSafe) ∧
      ∀ nodes, AreSafe nodes → ∀ inPre, AreSafe (swatchList inPre nodes) := by
  refine Html.isSafe_induction ?_ ?_ ?_ ?_ ?_
  · exact fun value _ => .text value
  · exact fun _ inside _ _ => .root inside
  · intro tag children tagSafe _ below inPre
    refine isSafe_element.2 ⟨tagSafe, ?_⟩
    have swatched := below (tag.name = "pre".toList)
    split
    · rw [withSwatch]
      split
      · exact swatched
      · split
        · exact areSafe_append.2 ⟨swatched, areSafe_singleton.2 (isSafe_swatch _)⟩
        · exact swatched
    · exact swatched
  · exact fun _ => areSafe_nil
  · intro node rest _ _ own later inPre
    exact areSafe_cons.2 ⟨own _, later _⟩

/-- Swatches keep a tree safe. -/
theorem isSafe_swatchTree {tree : Html} (safe : tree.IsSafe) : (swatchTree tree).IsSafe := by
  cases safe with
  | text value => exact .text value
  | root below => exact .root (isSafe_swatchNode.2 _ below _)
  | element tagSafe below => exact isSafe_swatchNode.1 _ (.element tagSafe below) _

end ColorSwatch

namespace BackReferenceTitle

/-- Adding titles keeps nodes safe. -/
theorem isSafe_titleNode (template : Template) (clobberFront : Text) :
    (∀ tree : Html, tree.IsSafe → (titleNode template clobberFront tree).IsSafe) ∧
      ∀ nodes, AreSafe nodes → AreSafe (titleList template clobberFront nodes) := by
  refine Html.isSafe_induction ?_ ?_ ?_ ?_ ?_
  · exact .text
  · exact fun _ inside _ => .root inside
  · intro tag children tagSafe _ below
    refine .element ?_ below
    rw [withTitle]
    split
    · split
      · exact tagSafe.setAttribute (by decide) _
      · exact tagSafe
    · exact tagSafe
  · exact areSafe_nil
  · intro node rest _ _ own later
    exact areSafe_cons.2 ⟨own, later⟩

/-- Titles of back-references keep a tree safe. -/
theorem isSafe_titleTree (options : FootnoteOptions) {tree : Html} (safe : tree.IsSafe) :
    (titleTree options tree).IsSafe := by
  cases safe with
  | text value => exact .text value
  | root below => exact .root ((isSafe_titleNode _ _).2 _ below)
  | element tagSafe below => exact (isSafe_titleNode _ _).1 _ (.element tagSafe below)

end BackReferenceTitle

namespace EmojiLabel

/-- A label is safe. -/
theorem isSafe_label (name text : Text) : (label name text).IsSafe := by
  refine .element (Tag.isSafe_mk (by decide) ?_ _) (areSafe_singleton.2 (.text _))
  simp only [List.forall_mem_cons]
  exact ⟨by decide, (by decide : IsSafeName "aria-label".toList), fun _ none => nomatch none⟩

/-- A plain piece of text is safe. -/
theorem areSafe_plainNode (reversed : Text) : AreSafe (plainNode reversed) := by
  rw [plainNode]
  split
  · exact areSafe_nil
  · exact areSafe_singleton.2 (.text _)

/-- The pieces of a text are safe. -/
theorem areSafe_cut (plain text : Text) : AreSafe (cut plain text) := by
  induction plain, text using cut.induct with
  | case1 plain =>
    rw [cut]
    exact areSafe_plainNode plain
  | case2 plain c rest unlabelled ih =>
    rw [cut, unlabelled]
    exact ih
  | case3 plain c rest emoji found more count ih =>
    rw [cut, found]
    exact areSafe_append.2 ⟨areSafe_plainNode plain, areSafe_cons.2 ⟨isSafe_label _ _, ih⟩⟩

/-- What takes the place of a text is safe. -/
theorem areSafe_nodes (value : Text) : AreSafe (nodes value) := by
  have pieces := areSafe_cut [] value
  rw [nodes]
  split
  · exact areSafe_singleton.2 (.text value)
  · exact pieces

/-- Labelling emoji keeps nodes safe. -/
theorem isSafe_labelNode :
    (∀ tree : Html, tree.IsSafe → (labelNode tree).IsSafe) ∧
      ∀ nodes, AreSafe nodes → AreSafe (labelList nodes) := by
  refine Html.isSafe_induction ?_ ?_ ?_ ?_ ?_
  · exact .text
  · exact fun _ inside _ => .root inside
  · intro tag children tagSafe inside below
    rw [labelNode]
    split
    · exact .element tagSafe inside
    · exact .element tagSafe below
  · exact areSafe_nil
  · intro node rest first _ own later
    cases first with
    | text value => exact areSafe_append.2 ⟨areSafe_nodes value, later⟩
    | root => exact areSafe_cons.2 ⟨own, later⟩
    | element => exact areSafe_cons.2 ⟨own, later⟩

/-- Labels of emoji keep a tree safe. -/
theorem isSafe_labelTree {tree : Html} (safe : tree.IsSafe) : (labelTree tree).IsSafe := by
  cases safe with
  | text value => exact .text value
  | root below => exact .root (isSafe_labelNode.2 _ below)
  | element tagSafe below => exact .element tagSafe (isSafe_labelNode.2 _ below)

end EmojiLabel

/-- Every pass over HTML keeps a tree safe. -/
theorem HtmlPass.isSafe_run (options : Options) (pass : HtmlPass) {tree : Html}
    (safe : tree.IsSafe) : (pass.run options tree).1.IsSafe := by
  cases pass with
  | headingIds => exact HeadingId.isSafe_assignTree safe
  | toc => exact Contents.isSafe_fillTree _ _ safe
  | autolinkHeadings => exact HeadingAnchor.isSafe_anchorTree safe
  | codeTabs => exact CodeTabs.isSafe_groupTree safe
  | utilityClasses => exact UtilityClass.isSafe_classTree safe
  | colorSwatch => exact ColorSwatch.isSafe_swatchTree safe
  | footnoteTitles => exact BackReferenceTitle.isSafe_titleTree _ safe
  | accessibleEmoji => exact EmojiLabel.isSafe_labelTree safe

end Manuscript
