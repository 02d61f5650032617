import Manuscript.Html.BackReferenceTitle
import Manuscript.Html.CodeTabs
import Manuscript.Html.ColorSwatch
import Manuscript.Html.Contents
import Manuscript.Html.EmojiLabel
import Manuscript.Html.HeadingAnchor
import Manuscript.Html.HeadingId
import Manuscript.Html.UtilityClass
import Manuscript.Options.Basic
import Manuscript.Pattern.Reader
import Manuscript.Prose.Abbreviation
import Manuscript.Prose.Alignment
import Manuscript.Prose.AttributeBlock
import Manuscript.Prose.BareLink
import Manuscript.Prose.CodeFence
import Manuscript.Prose.Highlight
import Manuscript.Prose.LineBreak
import Manuscript.Prose.Quotation
import Manuscript.Prose.Replacement
import Manuscript.Prose.Shortcode
import Manuscript.Prose.SmartPunctuation

/-!
# Passes

Every pass takes a tree to a tree. A Markdown pass may look at the source that the spans of the
document point into, and the pass over block quotes fails when it would have to cut inside a
character. An HTML pass may report headings.
-/

namespace Manuscript

/-- Runs a Markdown pass over a document that was read from `source`. -/
def MarkdownPass.run (options : Options) (source : Text) (tree : Node) : MarkdownPass → Option Node
  | abbreviations => some (Abbreviation.markDocument options.abbreviations.expandFirst tree)
  | align => some (Alignment.alignDocument options.align source tree)
  | attributes => some (AttributeBlock.attachDocument options.allowDangerousHtml source tree)
  | blockquote => Quotation.transformBelow options.blockquote tree
  | breaks => some (LineBreak.breakLines tree)
  | emojiShortcodes => some (Shortcode.replaceTexts tree)
  | linkify => some (BareLink.linkTexts tree)
  | highlight => some (Highlight.markDocument tree)
  | codeTabs => some (CodeFence.groupTabs tree)
  | codeMeta => some (CodeFence.preserveMeta tree)
  | replacements =>
    some (Replacement.replaceTexts (Replacement.active options.replacements.disable) tree)
  | typography => some (SmartPunctuation.smartenDocument options.typography tree)

/-- Whether a heading text is that of the table of contents. -/
def TocOptions.isTitle (options : TocOptions) (text : Text) : Bool :=
  (Pattern.readWhole? options.heading).any (Pattern.occursIn · text)

/-- Runs an HTML pass, and gives the headings that it reports. -/
def HtmlPass.run (options : Options) (tree : Html) : HtmlPass → Html × List Heading
  | headingIds => HeadingId.assignTree tree
  | toc => (Contents.fillTree options.toc.isTitle options.toc.maxDepth tree, [])
  | autolinkHeadings => (HeadingAnchor.anchorTree tree, [])
  | codeTabs => (CodeTabs.groupTree tree, [])
  | utilityClasses => (UtilityClass.classTree tree, [])
  | colorSwatch => (ColorSwatch.swatchTree tree, [])
  | footnoteTitles => (BackReferenceTitle.titleTree options.footnotes tree, [])
  | accessibleEmoji => (EmojiLabel.labelTree tree, [])

end Manuscript
