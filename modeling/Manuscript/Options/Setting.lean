import Manuscript.Options.Basic

/-!
# Settings

Options can be built up step by step from the defaults. A setting is one such step: it replaces a
section or a single value, or it switches a pass on or off. Sections that are replaced lose what was
set in them before.
-/

namespace Manuscript

/-- One step in building options. -/
inductive Setting where
  | options (options : Options)
  | align (value : AlignOptions)
  | blockquote (value : BlockquoteOptions)
  | typography (value : TypographyOptions)
  | dashes (mode : DashMode)
  | replacements (value : ReplacementOptions)
  | footnotes (value : FootnoteOptions)
  | footnoteTitleTemplate (template : Text)
  | abbreviations (value : AbbreviationOptions)
  | toc (value : TocOptions)
  | passes (markdown : List MarkdownPass) (html : List HtmlPass)
  | enableMarkdown (pass : MarkdownPass)
  | enableHtml (pass : HtmlPass)
  | disableMarkdown (pass : MarkdownPass)
  | disableHtml (pass : HtmlPass)
  | wordsPerMinute (count : Nat)
  | allowDangerousHtml (allowed : Bool)
deriving DecidableEq, Repr

/-- Adds a member at the end of a list that does not have it. -/
def appendNew {α : Type} [BEq α] (item : α) (items : List α) : List α :=
  if items.contains item then items else items ++ [item]

/-- A list without a member. -/
def remove {α : Type} [BEq α] (item : α) (items : List α) : List α :=
  items.filter (· != item)

/-- Takes one step. -/
def Setting.apply (setting : Setting) (options : Options) : Options :=
  match setting with
  | .options whole => whole
  | .align value => { options with align := value }
  | .blockquote value => { options with blockquote := value }
  | .typography value => { options with typography := value }
  | .dashes mode => { options with typography := { options.typography with dashes := mode } }
  | .replacements value => { options with replacements := value }
  | .footnotes value => { options with footnotes := value }
  | .footnoteTitleTemplate template =>
    { options with footnotes := { options.footnotes with titleTemplate := template } }
  | .abbreviations value => { options with abbreviations := value }
  | .toc value => { options with toc := value }
  | .passes markdown html => { options with passes := ⟨markdown, html⟩ }
  | .enableMarkdown pass =>
    { options with
      passes := { options.passes with markdown := appendNew pass options.passes.markdown } }
  | .enableHtml pass =>
    { options with passes := { options.passes with html := appendNew pass options.passes.html } }
  | .disableMarkdown pass =>
    { options with
      passes := { options.passes with markdown := remove pass options.passes.markdown } }
  | .disableHtml pass =>
    { options with passes := { options.passes with html := remove pass options.passes.html } }
  | .wordsPerMinute value => { options with wordsPerMinute := value }
  | .allowDangerousHtml value => { options with allowDangerousHtml := value }

end Manuscript
