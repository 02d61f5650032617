import Manuscript.Text.Basic

/-!
# Options

What a caller can set: which passes run and in which order, and one section of settings for each of
the passes that has any. Every setting has a default.
-/

namespace Manuscript

/-- The passes over a Markdown document. -/
inductive MarkdownPass where
  | abbreviations
  | align
  | attributes
  | blockquote
  | breaks
  | emojiShortcodes
  | linkify
  | highlight
  | codeTabs
  | codeMeta
  | replacements
  | typography
deriving DecidableEq, Repr

namespace MarkdownPass

/-- All passes, in their default order. -/
def all : List MarkdownPass :=
  [abbreviations, align, attributes, blockquote, breaks, emojiShortcodes, linkify, highlight,
    codeTabs, codeMeta, replacements, typography]

/-- The name of a pass in options and messages. -/
def name : MarkdownPass → Text
  | abbreviations => "abbreviations".toList
  | align => "align".toList
  | attributes => "attributes".toList
  | blockquote => "blockquote".toList
  | breaks => "breaks".toList
  | emojiShortcodes => "emoji-shortcodes".toList
  | linkify => "linkify".toList
  | highlight => "highlight".toList
  | codeTabs => "code-tabs".toList
  | codeMeta => "code-meta".toList
  | replacements => "replacements".toList
  | typography => "typography".toList

end MarkdownPass

/-- The passes over an HTML tree. -/
inductive HtmlPass where
  | headingIds
  | toc
  | autolinkHeadings
  | codeTabs
  | utilityClasses
  | colorSwatch
  | footnoteTitles
  | accessibleEmoji
deriving DecidableEq, Repr

namespace HtmlPass

/-- All passes. -/
def all : List HtmlPass :=
  [headingIds, toc, autolinkHeadings, codeTabs, utilityClasses, colorSwatch, footnoteTitles,
    accessibleEmoji]

/-- The name of a pass in options and messages. -/
def name : HtmlPass → Text
  | headingIds => "heading-ids".toList
  | toc => "toc".toList
  | autolinkHeadings => "autolink-headings".toList
  | codeTabs => "code-tabs".toList
  | utilityClasses => "utility-classes".toList
  | colorSwatch => "color-swatch".toList
  | footnoteTitles => "footnote-titles".toList
  | accessibleEmoji => "accessible-emoji".toList

end HtmlPass

/-- The passes that run, in order. -/
structure PassList where
  /-- Passes over the Markdown document. -/
  markdown : List MarkdownPass := MarkdownPass.all
  /-- Passes over the HTML tree. Heading anchors are off unless they are asked for. -/
  html : List HtmlPass := HtmlPass.all.filter (· ≠ .autolinkHeadings)
deriving DecidableEq, Repr

/-- Classes of aligned text and aligned blocks. -/
structure AlignOptions where
  left : Text := "text-left".toList
  center : Text := "text-center".toList
  right : Text := "text-right".toList
  leftBlock : Text := "flex flex-col items-start".toList
  centerBlock : Text := "flex flex-col items-center".toList
  rightBlock : Text := "flex flex-col items-end".toList
  leftRowBlock : Text := "flex justify-start".toList
  centerRowBlock : Text := "flex justify-center".toList
  rightRowBlock : Text := "flex justify-end".toList
deriving DecidableEq, Repr

/-- Attribution and caption lines of block quotes. -/
structure BlockquoteOptions where
  /-- Classes of every figure made from a quote. -/
  figureClass : Text := "blockquote".toList
  /-- Further classes of a figure with a caption. -/
  captionFigureClass : Text := "blockquote-figure".toList
  /-- Classes of the attribution. -/
  attributionClass : Text := "blockquote-attribution".toList
  /-- Classes of the caption. -/
  captionClass : Text := "blockquote-caption".toList
  /-- What an attribution line begins with. -/
  marker : Text := "\u2014".toList
  /-- What a caption line begins with. -/
  captionStart : Text := "Source:".toList
  /-- Whether the marker is left out of the attribution. -/
  removeMarker : Bool := true
  /-- Whether the beginning is left out of the caption. -/
  removeCaptionStart : Bool := true
deriving DecidableEq, Repr

/-- How runs of hyphens become dashes. -/
inductive DashMode where
  /-- Two or three hyphens are an em dash. -/
  | default
  /-- Two hyphens are an en dash, three an em dash. -/
  | oldschool
  /-- Two hyphens are an em dash, three an en dash. -/
  | inverted
  /-- Hyphens stay. -/
  | off
deriving DecidableEq, Repr

namespace DashMode

/-- All modes. -/
def all : List DashMode :=
  [default, oldschool, inverted, off]

/-- The name of a mode in options. -/
def name : DashMode → Text
  | default => "default".toList
  | oldschool => "oldschool".toList
  | inverted => "inverted".toList
  | off => "off".toList

end DashMode

/-- Smart punctuation. -/
structure TypographyOptions where
  quotes : Bool := true
  backticks : Bool := true
  ellipses : Bool := true
  dashes : DashMode := .oldschool
deriving DecidableEq, Repr

/-- Replacement rules. -/
structure ReplacementOptions where
  /-- Names of the rules that are switched off. -/
  disable : List Text := []
deriving DecidableEq, Repr

/-- Abbreviations. -/
structure AbbreviationOptions where
  /-- Whether the first use of an abbreviation is written out. -/
  expandFirst : Bool := false
deriving DecidableEq, Repr

/-- Footnotes. -/
structure FootnoteOptions where
  /-- Text of the hidden heading over the footnotes. -/
  label : Text := "Footnotes".toList
  /-- Template for the label of a way back; `$ref` is the number of the reference. -/
  backLabel : Text := "Back to reference $ref".toList
  /-- Template for the title of a way back; `$id` is the identifier of the footnote. -/
  titleTemplate : Text := "Back to reference $id".toList
  /-- What generated identifiers begin with. -/
  clobberFront : Text := "user-content-".toList
deriving DecidableEq, Repr

/-- The table of contents. -/
structure TocOptions where
  /-- Pattern that the heading over the table has to match. -/
  heading : Text := "contents".toList
  /-- Deepest level of heading that is listed. -/
  maxDepth : Nat := 6
deriving DecidableEq, Repr

/-- All options. -/
structure Options where
  passes : PassList := {}
  align : AlignOptions := {}
  blockquote : BlockquoteOptions := {}
  typography : TypographyOptions := {}
  replacements : ReplacementOptions := {}
  abbreviations : AbbreviationOptions := {}
  footnotes : FootnoteOptions := {}
  toc : TocOptions := {}
  /-- Reading speed. -/
  wordsPerMinute : Nat := 200
  /-- Whether raw HTML and event handlers of the document are kept. -/
  allowDangerousHtml : Bool := false
deriving DecidableEq, Repr

end Manuscript
