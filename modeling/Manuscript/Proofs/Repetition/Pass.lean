import Manuscript.Pass
import Manuscript.Proofs.Repetition.CodeTabs
import Manuscript.Proofs.Repetition.Decoration
import Manuscript.Proofs.Repetition.Heading

/-!
# Passes over HTML, run again

A pass leaves alone what it made, so running it again changes nothing and reports the same headings
(`run_run`). A code block inside another is the exception: when both stay bare, the inner one gets
its group in the first run and the outer one gets it from there in the second.
-/

namespace Manuscript

/-- Whether no element of a name is inside another can be found out. -/
instance Html.decidableIsApart (name : Text) (tree : Html) : Decidable (tree.IsApart name) :=
  inferInstanceAs (Decidable (∀ found ∈ tree.named name, Html.namedList name found.2 = []))

namespace HtmlPass

/-- Running a pass again over a tree without a code block inside another gives the same tree and
reports the same headings. -/
theorem run_run (options : Options) (pass : HtmlPass) {tree : Html}
    (apart : tree.IsApart "pre".toList) :
    pass.run options (pass.run options tree).1 = pass.run options tree := by
  have same : ∀ {once twice : Html}, twice = once →
      (twice, ([] : List Heading)) = (once, []) := fun equal => congrArg (·, []) equal
  cases pass with
  | headingIds => exact HeadingId.assignTree_assignTree tree
  | toc => exact same (Contents.fillTree_fillTree _ _ tree)
  | autolinkHeadings => exact same (HeadingAnchor.anchorTree_anchorTree tree)
  | codeTabs => exact same (CodeTabs.groupTree_groupTree apart)
  | utilityClasses => exact same (UtilityClass.classTree_classTree tree)
  | colorSwatch => exact same (ColorSwatch.swatchTree_swatchTree tree)
  | footnoteTitles => exact same (BackReferenceTitle.titleTree_titleTree _ tree)
  | accessibleEmoji => exact same (EmojiLabel.labelTree_labelTree tree)

/-- A code block in a given language and tab group. -/
def tabBlock (language group label : Text) : Html :=
  .element { name := "pre".toList }
    [.element { name := "code".toList
                classes := ["language-".toList ++ language]
                attributes := [(CodeTabs.groupName, group), (CodeTabs.labelName, label)] }
      [.text ['x', '\n']]]

/-- Two blocks of a group, and one that stays bare. -/
def groupedBlocks : Html :=
  .root [tabBlock ['a'] ['g'] ['A'], .text ['\n'], tabBlock ['b'] ['g'] ['B'],
    tabBlock "text".toList ['h'] ['C']]

/-- Blocks that were grouped are not grouped again. -/
theorem run_run_groupedBlocks :
    groupedBlocks.IsApart "pre".toList ∧
      codeTabs.run {} (codeTabs.run {} groupedBlocks).1 = codeTabs.run {} groupedBlocks :=
  have apart : groupedBlocks.IsApart "pre".toList := by decide
  ⟨apart, run_run {} codeTabs apart⟩

end HtmlPass

end Manuscript
