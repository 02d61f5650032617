import Manuscript.Document.ReadingTime
import Manuscript.Html.Lowering
import Manuscript.Html.Render
import Manuscript.Markdown.Reader
import Manuscript.Options.Setting
import Manuscript.Options.Validation
import Manuscript.Pass

/-!
# The pipeline

A pipeline is a set of options without a fault. It reads a document, runs the Markdown passes over
it, lowers it to an HTML tree, runs the HTML passes over that, and writes it. Documents do not
depend on one another.
-/

namespace Manuscript

/-- What becomes of a document. -/
structure Compiled where
  /-- The HTML text. -/
  html : Text
  /-- The headings that were reported, in order. -/
  headings : List Heading
  /-- How long the document takes to read. -/
  readingTime : ReadingTime
deriving DecidableEq, Repr

/-- The tree that the rest of a pipeline works on after each of its passes. -/
structure Trace where
  /-- The document as it was read. -/
  document : Node
  /-- The document after each Markdown pass. -/
  markdown : List (MarkdownPass × Node)
  /-- How long the document takes to read. -/
  readingTime : ReadingTime
  /-- The HTML tree as it was made from the document. -/
  lowered : Html
  /-- The HTML tree after each HTML pass. -/
  html : List (HtmlPass × Html)
  /-- The headings that were reported, in order. -/
  headings : List Heading
  /-- The HTML text. -/
  rendered : Text

/-- Options that can be used. -/
structure Pipeline where
  /-- The options. -/
  options : Options
  /-- They have no fault. -/
  valid : options.IsValid

namespace Pipeline

/-- The pipeline for options, or their first fault. -/
def ofOptions (options : Options) : Except Misconfiguration Pipeline :=
  match faults : options.faults with
  | [] => .ok ⟨options, faults⟩
  | fault :: _ => .error fault

/-- Runs Markdown passes one after the other, and keeps what each of them made. -/
def runMarkdown (options : Options) (source : Text) :
    List MarkdownPass → Node → Option (List (MarkdownPass × Node))
  | [], _ => some []
  | pass :: passes, tree => do
    let tree ← pass.run options source tree
    let later ← runMarkdown options source passes tree
    return (pass, tree) :: later

/-- Runs HTML passes one after the other, and keeps what each of them made and reported. -/
def runHtml (options : Options) : List HtmlPass → Html → List (HtmlPass × Html × List Heading)
  | [], _ => []
  | pass :: passes, tree =>
    let (tree, headings) := pass.run options tree
    (pass, tree, headings) :: runHtml options passes tree

/-- The last of the trees that passes made, or the one they started with. -/
def lastTree {α β : Type} (start : β) (stages : List (α × β)) : β :=
  (stages.getLast?.map Prod.snd).getD start

/-- The settings of a pipeline for lowering. -/
def loweringOptions (options : Options) : LoweringOptions :=
  { footnotes := options.footnotes, allowDangerousHtml := options.allowDangerousHtml }

/-- Compiles a document and keeps every tree on the way. -/
def trace (pipeline : Pipeline) (source : Text) : Option Trace := do
  let options := pipeline.options
  let document := Markdown.read source
  let markdown ← runMarkdown options source options.passes.markdown document
  let final := lastTree document markdown
  let lowered := Lowering.lowerDocument (loweringOptions options) final
  let stages := runHtml options options.passes.html lowered
  let html := stages.map fun (pass, tree, _) => (pass, tree)
  return {
    document, markdown, lowered, html
    readingTime := ReadingTime.estimate final options.wordsPerMinute
    headings := stages.flatMap fun (_, _, headings) => headings
    rendered := (lastTree lowered html).render }

/-- Compiles a document. -/
def compile (pipeline : Pipeline) (source : Text) : Option Compiled :=
  (pipeline.trace source).map fun trace =>
    { html := trace.rendered, headings := trace.headings, readingTime := trace.readingTime }

/-- Compiles documents, each by itself and in the given order. -/
def compileAll (pipeline : Pipeline) (documents : List (Text × Text)) :
    List (Text × Option Compiled) :=
  documents.map fun (name, source) => (name, pipeline.compile source)

end Pipeline

end Manuscript
