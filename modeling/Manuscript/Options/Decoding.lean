import Manuscript.Options.Basic
import Manuscript.Options.Value

/-!
# Options from values

A section is a record of settings, or the list of its first settings in their order. What is missing
keeps its default; a name that is not that of a setting is passed over; a setting that is there
twice is an error, and so is a value of the wrong type.
-/

namespace Manuscript.Decoding

/-- Where the formats differ. -/
structure Dialect where
  /-- Whether a value can stand as the empty content of a name, for names that are written as a
  record with one entry. -/
  isUnit : Value → Bool
  /-- Whether a list may go on after the last setting of a section. -/
  allowsExtra : Bool

/-- A setting of a section: its name, and how it is set. -/
structure Field (α : Type) where
  /-- Name of the setting. -/
  name : String
  /-- Sets it to a value of the right type. -/
  set? : Value → α → Option α

/-- Reads the entries of a record, after the settings in `seen`. -/
def readEntries? {α : Type} (all : List (Field α)) (seen : List Text) :
    List (Text × Value) → α → Option α
  | [], current => some current
  | (name, value) :: rest, current =>
    match all.find? fun field => field.name.toList = name with
    | none => readEntries? all seen rest current
    | some field =>
      if seen.contains name then none
      else (field.set? value current).bind (readEntries? all (name :: seen) rest)

/-- Reads the settings of a list in order. -/
def readItems? {α : Type} (allowsExtra : Bool) : List (Field α) → List Value → α → Option α
  | _, [], current => some current
  | [], _ :: _, current => if allowsExtra then some current else none
  | field :: fields, value :: rest, current =>
    (field.set? value current).bind (readItems? allowsExtra fields rest)

/-- Reads a section. -/
def readSection? {α : Type} (dialect : Dialect) (fields : List (Field α)) (defaults : α) :
    Value → Option α
  | .record entries => readEntries? fields [] entries defaults
  | .list items => readItems? dialect.allowsExtra fields items defaults
  | .plain [] => some defaults
  | _ => none

/-- Reads one of several names. -/
def choice? {α : Type} (dialect : Dialect) (all : List α) (name : α → Text) (value : Value) :
    Option α := do
  let text ← match value with
    | .record [(text, content)] => if dialect.isUnit content then some text else none
    | value => value.text?
  all.find? fun item => name item = text

/-- Reads a list of names. -/
def choices? {α : Type} (dialect : Dialect) (all : List α) (name : α → Text) (value : Value) :
    Option (List α) :=
  value.list?.bind fun items => items.mapM (choice? dialect all name)

/-- The settings of the pass lists. -/
def passFields (dialect : Dialect) : List (Field PassList) :=
  [ ⟨"markdown", fun value current =>
      (choices? dialect MarkdownPass.all MarkdownPass.name value).map
        ({ current with markdown := · })⟩,
    ⟨"html", fun value current =>
      (choices? dialect HtmlPass.all HtmlPass.name value).map ({ current with html := · })⟩ ]

/-- The settings of alignment. -/
def alignFields : List (Field AlignOptions) :=
  [ ⟨"left", fun value current => value.text?.map ({ current with left := · })⟩,
    ⟨"center", fun value current => value.text?.map ({ current with center := · })⟩,
    ⟨"right", fun value current => value.text?.map ({ current with right := · })⟩,
    ⟨"leftBlock", fun value current => value.text?.map ({ current with leftBlock := · })⟩,
    ⟨"centerBlock", fun value current => value.text?.map ({ current with centerBlock := · })⟩,
    ⟨"rightBlock", fun value current => value.text?.map ({ current with rightBlock := · })⟩,
    ⟨"leftRowBlock", fun value current => value.text?.map ({ current with leftRowBlock := · })⟩,
    ⟨"centerRowBlock", fun value current => value.text?.map ({ current with centerRowBlock := · })⟩,
    ⟨"rightRowBlock", fun value current => value.text?.map ({ current with rightRowBlock := · })⟩ ]

/-- The settings of block quotes. -/
def blockquoteFields : List (Field BlockquoteOptions) :=
  [ ⟨"classNameAttributionFigure", fun value current =>
      value.text?.map ({ current with figureClass := · })⟩,
    ⟨"classNameCaptionFigure", fun value current =>
      value.text?.map ({ current with captionFigureClass := · })⟩,
    ⟨"classNameAttribution", fun value current =>
      value.text?.map ({ current with attributionClass := · })⟩,
    ⟨"classNameCaption", fun value current => value.text?.map ({ current with captionClass := · })⟩,
    ⟨"marker", fun value current => value.text?.map ({ current with marker := · })⟩,
    ⟨"captionPrefix", fun value current => value.text?.map ({ current with captionStart := · })⟩,
    ⟨"removeMarker", fun value current => value.bool?.map ({ current with removeMarker := · })⟩,
    ⟨"removeCaptionPrefix", fun value current =>
      value.bool?.map ({ current with removeCaptionStart := · })⟩ ]

/-- The settings of smart punctuation. -/
def typographyFields (dialect : Dialect) : List (Field TypographyOptions) :=
  [ ⟨"quotes", fun value current => value.bool?.map ({ current with quotes := · })⟩,
    ⟨"backticks", fun value current => value.bool?.map ({ current with backticks := · })⟩,
    ⟨"ellipses", fun value current => value.bool?.map ({ current with ellipses := · })⟩,
    ⟨"dashes", fun value current =>
      (choice? dialect DashMode.all DashMode.name value).map ({ current with dashes := · })⟩ ]

/-- The settings of replacements. -/
def replacementFields : List (Field ReplacementOptions) :=
  [ ⟨"disable", fun value current =>
      (value.list?.bind fun items => items.mapM Value.text?).map ({ current with disable := · })⟩ ]

/-- The settings of abbreviations. -/
def abbreviationFields : List (Field AbbreviationOptions) :=
  [ ⟨"expandFirst", fun value current => value.bool?.map ({ current with expandFirst := · })⟩ ]

/-- The settings of footnotes. -/
def footnoteFields : List (Field FootnoteOptions) :=
  [ ⟨"label", fun value current => value.text?.map ({ current with label := · })⟩,
    ⟨"backLabel", fun value current => value.text?.map ({ current with backLabel := · })⟩,
    ⟨"titleTemplate", fun value current => value.text?.map ({ current with titleTemplate := · })⟩,
    ⟨"clobberPrefix", fun value current => value.text?.map ({ current with clobberFront := · })⟩ ]

/-- The settings of the table of contents. -/
def tocFields : List (Field TocOptions) :=
  [ ⟨"heading", fun value current => value.text?.map ({ current with heading := · })⟩,
    ⟨"maxDepth", fun value current => (value.nat? 255).map ({ current with maxDepth := · })⟩ ]

/-- The sections of the options and the settings that stand beside them. -/
def optionFields (dialect : Dialect) : List (Field Options) :=
  [ ⟨"passes", fun value options =>
      (readSection? dialect (passFields dialect) {} value).map ({ options with passes := · })⟩,
    ⟨"align", fun value options =>
      (readSection? dialect alignFields {} value).map ({ options with align := · })⟩,
    ⟨"blockquote", fun value options =>
      (readSection? dialect blockquoteFields {} value).map ({ options with blockquote := · })⟩,
    ⟨"typography", fun value options =>
      (readSection? dialect (typographyFields dialect) {} value).map
        ({ options with typography := · })⟩,
    ⟨"replacements", fun value options =>
      (readSection? dialect replacementFields {} value).map ({ options with replacements := · })⟩,
    ⟨"abbreviations", fun value options =>
      (readSection? dialect abbreviationFields {} value).map ({ options with abbreviations := · })⟩,
    ⟨"footnotes", fun value options =>
      (readSection? dialect footnoteFields {} value).map ({ options with footnotes := · })⟩,
    ⟨"toc", fun value options =>
      (readSection? dialect tocFields {} value).map ({ options with toc := · })⟩,
    ⟨"wordsPerMinute", fun value options =>
      (value.nat? 4294967295).map ({ options with wordsPerMinute := · })⟩,
    ⟨"allowDangerousHtml", fun value options =>
      value.bool?.map ({ options with allowDangerousHtml := · })⟩ ]

/-- Reads options. -/
def options? (dialect : Dialect) (value : Value) : Option Options :=
  readSection? dialect (optionFields dialect) {} value

end Manuscript.Decoding
