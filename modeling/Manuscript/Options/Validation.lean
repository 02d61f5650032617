import Manuscript.Options.Misconfiguration
import Manuscript.Pattern.Reader
import Manuscript.Prose.Replacement

/-!
# Validation of options

Options are checked before any document is read. The checks form a list of faults in a fixed order,
and the first fault is the one that is reported.
-/

namespace Manuscript

/-- The first member of a list that occurs earlier in it. -/
def firstRepeated? {α : Type} [BEq α] (seen : List α) : List α → Option α
  | [] => none
  | item :: rest => if seen.contains item then some item else firstRepeated? (item :: seen) rest

/-- Whether both members occur in a list and the first one comes first. -/
def comesBefore {α : Type} [BEq α] (first second : α) (order : List α) : Bool :=
  match order.idxOf? first, order.idxOf? second with
  | some i, some j => i < j
  | _, _ => false

namespace Options

/-- Faults in the order of the Markdown passes. -/
def markdownOrderFaults (order : List MarkdownPass) : List Misconfiguration :=
  let earlyLate := [MarkdownPass.attributes, .linkify].flatMap fun pass =>
    [MarkdownPass.replacements, .typography].map (pass, ·)
  (if comesBefore .codeMeta .codeTabs order then [.codeMetaBeforeTabs] else [])
    ++ (earlyLate.filter fun (pass, setter) => comesBefore setter pass order).map
      (fun (pass, setter) => .afterChange pass setter)
    ++ ([MarkdownPass.abbreviations, .blockquote].filter fun pass =>
      comesBefore .breaks pass order).map .breaksBefore

/-- Faults in the order of the HTML passes. -/
def htmlOrderFaults (order : List HtmlPass) : List Misconfiguration :=
  ([.utilityClasses, .colorSwatch, .footnoteTitles, .autolinkHeadings, .toc].filter fun pass =>
    comesBefore pass .headingIds order).map .beforeHeadingIds

/-- Whether the deepest level of the table of contents is a level of headings. -/
def hasContentsDepth (options : Options) : Bool :=
  1 ≤ options.toc.maxDepth && options.toc.maxDepth ≤ 6

/-- Faults in single settings. -/
def settingFaults (options : Options) : List Misconfiguration :=
  (if options.passes.html.contains .footnoteTitles
      && Text.isBlankText options.footnotes.titleTemplate then [.blankTitleTemplate] else [])
    ++ (if Text.isBlankText options.footnotes.label then [.blankFootnoteLabel] else [])
    ++ (if options.passes.html.contains .toc && !options.hasContentsDepth then [.contentsDepth]
      else [])
    ++ (if options.wordsPerMinute = 0 then [.noReadingSpeed] else [])
    ++ (if options.blockquote.marker.isEmpty || options.blockquote.captionStart.isEmpty then
        [.emptyQuotationStart] else [])

/-- Faults that options have as a whole. -/
def wholeFaults (options : Options) : List Misconfiguration :=
  ((firstRepeated? [] options.passes.markdown).map .repeatedMarkdownPass).toList
    ++ ((firstRepeated? [] options.passes.html).map .repeatedHtmlPass).toList
    ++ markdownOrderFaults options.passes.markdown
    ++ htmlOrderFaults options.passes.html
    ++ options.settingFaults

end Options

/-- What keeps a Markdown pass from being set up. -/
def MarkdownPass.fault? (options : Options) : MarkdownPass → Option Misconfiguration
  | replacements => (Replacement.unknown? options.replacements.disable).map .unknownReplacement
  | _ => none

/-- What keeps an HTML pass from being set up. -/
def HtmlPass.fault? (options : Options) : HtmlPass → Option Misconfiguration
  | toc =>
    if (Pattern.readWhole? options.toc.heading).isNone then some .headingPattern
    else if !options.hasContentsDepth then some .contentsDepth
    else none
  | footnoteTitles =>
    if Text.isBlankText options.footnotes.titleTemplate then some .blankTitleTemplate else none
  | _ => none

namespace Options

/-- Faults of the passes that are to run. -/
def passFaults (options : Options) : List Misconfiguration :=
  options.passes.markdown.filterMap (MarkdownPass.fault? options)
    ++ options.passes.html.filterMap (HtmlPass.fault? options)

/-- Every fault of options, in the order in which they are looked for. -/
def faults (options : Options) : List Misconfiguration :=
  options.wholeFaults ++ options.passFaults

/-- Whether options can be used. -/
def IsValid (options : Options) : Prop :=
  options.faults = []

instance (options : Options) : Decidable options.IsValid :=
  inferInstanceAs (Decidable (_ = _))

end Options

end Manuscript
