import Manuscript.Options.Basic

/-!
# Misconfigurations

The reasons for which options cannot be used. Each belongs to one pass, or to the part of the work
that is not a pass, and each has one wording.
-/

namespace Manuscript

/-- Why options cannot be used. -/
inductive Misconfiguration where
  | repeatedMarkdownPass (pass : MarkdownPass)
  | repeatedHtmlPass (pass : HtmlPass)
  /-- Fence lines are kept before their tabs have been taken out. -/
  | codeMetaBeforeTabs
  /-- A pass that reads punctuation runs after one that changes it. -/
  | afterChange (pass setter : MarkdownPass)
  /-- Line breaks are made before a pass that reads lines. -/
  | breaksBefore (pass : MarkdownPass)
  /-- A pass that needs headings with identifiers runs before they get any. -/
  | beforeHeadingIds (pass : HtmlPass)
  | blankTitleTemplate
  | blankFootnoteLabel
  /-- The table of contents lists headings down to a level that does not exist. -/
  | contentsDepth
  | noReadingSpeed
  /-- A metadata line of a quote would begin with nothing. -/
  | emptyQuotationStart
  | unknownReplacement (name : Text)
  /-- The pattern for the heading of the table of contents is none. -/
  | headingPattern
deriving DecidableEq, Repr

namespace Misconfiguration

/-- The pass or the part of the work that a misconfiguration belongs to. -/
def pass : Misconfiguration → Text
  | repeatedMarkdownPass pass => pass.name
  | repeatedHtmlPass pass => pass.name
  | codeMetaBeforeTabs => MarkdownPass.codeMeta.name
  | afterChange pass _ => pass.name
  | breaksBefore _ => MarkdownPass.breaks.name
  | beforeHeadingIds pass => pass.name
  | blankTitleTemplate => HtmlPass.footnoteTitles.name
  | blankFootnoteLabel => "footnotes".toList
  | contentsDepth => HtmlPass.toc.name
  | noReadingSpeed => "reading-time".toList
  | emptyQuotationStart => MarkdownPass.blockquote.name
  | unknownReplacement _ => MarkdownPass.replacements.name
  | headingPattern => HtmlPass.toc.name

/-- The wording of a misconfiguration. -/
def message : Misconfiguration → Text
  | repeatedMarkdownPass _ => "listed more than once".toList
  | repeatedHtmlPass _ => "listed more than once".toList
  | codeMetaBeforeTabs => "must run after the code-tabs grouping pass".toList
  | afterChange _ setter => "must run before the ".toList ++ setter.name ++ " pass".toList
  | breaksBefore pass => "must run after the ".toList ++ pass.name ++ " pass".toList
  | beforeHeadingIds _ => "must run after heading-ids".toList
  | blankTitleTemplate => "title template must not be empty".toList
  | blankFootnoteLabel => "footnote label must not be empty".toList
  | contentsDepth => "maxDepth must be between 1 and 6".toList
  | noReadingSpeed => "wordsPerMinute must be greater than zero".toList
  | emptyQuotationStart => "marker and caption prefix must not be empty".toList
  | unknownReplacement name => "unknown rule `".toList ++ name ++ "`".toList
  | headingPattern => "invalid heading pattern".toList

/-- A misconfiguration as a sentence that names its pass. -/
def describe (fault : Misconfiguration) : Text :=
  "invalid configuration for pass `".toList ++ fault.pass ++ "`: ".toList ++ fault.message

/-- A misconfiguration that was found when a document was compiled. -/
def describeIn (document : Text) (fault : Misconfiguration) : Text :=
  "failed to compile `".toList ++ document ++ "`: ".toList ++ fault.describe

end Misconfiguration

end Manuscript
