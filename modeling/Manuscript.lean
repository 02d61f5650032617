import Manuscript.Document.Basic
import Manuscript.Document.ReadingTime
import Manuscript.Document.TextSubstitution
import Manuscript.Emoji.Basic
import Manuscript.Emoji.Catalogue
import Manuscript.Html.BackReferenceTitle
import Manuscript.Html.Basic
import Manuscript.Html.CodeTabs
import Manuscript.Html.ColorSwatch
import Manuscript.Html.Contents
import Manuscript.Html.EmojiLabel
import Manuscript.Html.Footnote
import Manuscript.Html.HeadingAnchor
import Manuscript.Html.HeadingId
import Manuscript.Html.Lowering
import Manuscript.Html.Render
import Manuscript.Html.UtilityClass
import Manuscript.Markdown.Block
import Manuscript.Markdown.Container
import Manuscript.Markdown.Emphasis
import Manuscript.Markdown.Entity
import Manuscript.Markdown.Event
import Manuscript.Markdown.Inline
import Manuscript.Markdown.Line
import Manuscript.Markdown.Mark
import Manuscript.Markdown.Reader
import Manuscript.Markdown.Table
import Manuscript.Markdown.Tag
import Manuscript.Markdown.Target
import Manuscript.Options.Basic
import Manuscript.Options.Decoding
import Manuscript.Options.Json
import Manuscript.Options.Misconfiguration
import Manuscript.Options.Reader
import Manuscript.Options.Setting
import Manuscript.Options.Toml
import Manuscript.Options.Validation
import Manuscript.Options.Value
import Manuscript.Options.Yaml
import Manuscript.Pass
import Manuscript.Pattern.Basic
import Manuscript.Pattern.Reader
import Manuscript.Pipeline
import Manuscript.Proofs.Abbreviation.Content
import Manuscript.Proofs.Abbreviation.Covering
import Manuscript.Proofs.Abbreviation.Definition
import Manuscript.Proofs.Abbreviation.Escape
import Manuscript.Proofs.Abbreviation.Marking
import Manuscript.Proofs.Abbreviation.Uses
import Manuscript.Proofs.Abbreviation.Wrapping
import Manuscript.Proofs.Alignment.Between
import Manuscript.Proofs.Alignment.Complete
import Manuscript.Proofs.Alignment.Content
import Manuscript.Proofs.Alignment.Deletion
import Manuscript.Proofs.Alignment.Edit
import Manuscript.Proofs.Alignment.Ends
import Manuscript.Proofs.Alignment.Found
import Manuscript.Proofs.Alignment.Mirror
import Manuscript.Proofs.Alignment.Reading
import Manuscript.Proofs.Alignment.Recognition
import Manuscript.Proofs.Alignment.Search
import Manuscript.Proofs.Alignment.Tag
import Manuscript.Proofs.Alignment.Trim
import Manuscript.Proofs.Alignment.Turns
import Manuscript.Proofs.Alignment.Unterminated
import Manuscript.Proofs.Alignment.Visit
import Manuscript.Proofs.Attribute.Edit
import Manuscript.Proofs.Attribute.Heading
import Manuscript.Proofs.Attribute.Name
import Manuscript.Proofs.Attribute.Writing
import Manuscript.Proofs.Code.Block
import Manuscript.Proofs.Code.Fence
import Manuscript.Proofs.Code.Grouping
import Manuscript.Proofs.Code.Region
import Manuscript.Proofs.Code.RoundTrip
import Manuscript.Proofs.Code.Tabs
import Manuscript.Proofs.Code.Token
import Manuscript.Proofs.Color.Spelling
import Manuscript.Proofs.Color.Swatch
import Manuscript.Proofs.Contents.Listing
import Manuscript.Proofs.Contents.Section
import Manuscript.Proofs.Document.Edit
import Manuscript.Proofs.Document.Induction
import Manuscript.Proofs.Document.ReadingTime
import Manuscript.Proofs.Document.Safety
import Manuscript.Proofs.Emoji.Catalogue
import Manuscript.Proofs.Emoji.Longest
import Manuscript.Proofs.Emoji.Piece
import Manuscript.Proofs.Emoji.Segmentation
import Manuscript.Proofs.Footnote.Anchor
import Manuscript.Proofs.Footnote.Identifier
import Manuscript.Proofs.Footnote.Ledger
import Manuscript.Proofs.Footnote.Section
import Manuscript.Proofs.Footnote.Tally
import Manuscript.Proofs.Footnote.WayBack
import Manuscript.Proofs.Heading.Identifier
import Manuscript.Proofs.Heading.Kept
import Manuscript.Proofs.Heading.Numbering
import Manuscript.Proofs.Heading.Outline
import Manuscript.Proofs.Heading.Record
import Manuscript.Proofs.Heading.Slugger
import Manuscript.Proofs.Highlight.Pairing
import Manuscript.Proofs.Html.Induction
import Manuscript.Proofs.Html.Named
import Manuscript.Proofs.Html.Passes
import Manuscript.Proofs.Html.Reader
import Manuscript.Proofs.Html.RoundTrip
import Manuscript.Proofs.Html.Safety
import Manuscript.Proofs.Html.Tag
import Manuscript.Proofs.Html.UtilityClass
import Manuscript.Proofs.Link.Abbreviated
import Manuscript.Proofs.Link.Address
import Manuscript.Proofs.Link.Aligned
import Manuscript.Proofs.Link.Attributed
import Manuscript.Proofs.Link.Keeping
import Manuscript.Proofs.Link.Later
import Manuscript.Proofs.Link.Linking
import Manuscript.Proofs.Link.Quoted
import Manuscript.Proofs.Link.Rewording
import Manuscript.Proofs.Link.Run
import Manuscript.Proofs.Link.Token
import Manuscript.Proofs.Lowering.Reading
import Manuscript.Proofs.Lowering.References
import Manuscript.Proofs.Lowering.Safety
import Manuscript.Proofs.Lowering.Standing
import Manuscript.Proofs.Lowering.Text
import Manuscript.Proofs.Markdown.Building
import Manuscript.Proofs.Markdown.Frame
import Manuscript.Proofs.Markdown.Prose
import Manuscript.Proofs.Markdown.Reading
import Manuscript.Proofs.Markdown.Shape
import Manuscript.Proofs.Markdown.Spread
import Manuscript.Proofs.Markdown.Stream
import Manuscript.Proofs.Options.Switching
import Manuscript.Proofs.Options.Validity
import Manuscript.Proofs.Order.Decoration
import Manuscript.Proofs.Pipeline.Edit
import Manuscript.Proofs.Pipeline.Failure
import Manuscript.Proofs.Pipeline.Safety
import Manuscript.Proofs.Quotation.Content
import Manuscript.Proofs.Quotation.Cut
import Manuscript.Proofs.Quotation.Failure
import Manuscript.Proofs.Quotation.Figure
import Manuscript.Proofs.Quotation.Line
import Manuscript.Proofs.Quotation.Safety
import Manuscript.Proofs.Repetition.CodeTabs
import Manuscript.Proofs.Repetition.Decoration
import Manuscript.Proofs.Repetition.Heading
import Manuscript.Proofs.Repetition.Pass
import Manuscript.Proofs.Replacement.Place
import Manuscript.Proofs.Replacement.Run
import Manuscript.Proofs.Replacement.Stretch
import Manuscript.Proofs.Shortcode.Document
import Manuscript.Proofs.Shortcode.Hidden
import Manuscript.Proofs.Shortcode.Replacing
import Manuscript.Proofs.SmartPunctuation.Block
import Manuscript.Proofs.SmartPunctuation.Markup
import Manuscript.Proofs.SmartPunctuation.NormalForm
import Manuscript.Proofs.SmartPunctuation.Verbatim
import Manuscript.Proofs.SmartPunctuation.Walk
import Manuscript.Proofs.Template.Filling
import Manuscript.Proofs.Text.Class
import Manuscript.Proofs.Text.Ends
import Manuscript.Proofs.Text.Search
import Manuscript.Proofs.Text.Word
import Manuscript.Prose.Abbreviation
import Manuscript.Prose.Alignment
import Manuscript.Prose.AttributeBlock
import Manuscript.Prose.BareLink
import Manuscript.Prose.CodeFence
import Manuscript.Prose.Highlight
import Manuscript.Prose.LineBreak
import Manuscript.Prose.Quotation
import Manuscript.Prose.Replacement
import Manuscript.Prose.Shortcode
import Manuscript.Prose.SmartPunctuation
import Manuscript.Slug
import Manuscript.Template
import Manuscript.Text.Alphanumeric
import Manuscript.Text.Basic
import Manuscript.Text.Blank
import Manuscript.Text.CaseFolding
import Manuscript.Text.CodePoint
import Manuscript.Text.DecimalDigit
import Manuscript.Text.Letter
import Manuscript.Text.LetterCase
import Manuscript.Text.Lowercase
import Manuscript.Text.Pairs
import Manuscript.Text.Punctuation
import Manuscript.Text.WebAddress
import Manuscript.Text.WordCharacter
import Manuscript.Proofs.Lowering.Standing
