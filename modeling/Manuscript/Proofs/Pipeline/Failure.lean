import Manuscript.Pipeline
import Manuscript.Proofs.Quotation.Failure

/-!
# Documents that cannot be compiled

Of all the passes only the one over quotations can fail, and the lowering and the writing of HTML
cannot. `renderTree_eq_none_iff` states for every tree, every source and every order of the passes
when a document cannot be compiled: when that pass comes to a quotation that cannot be cut, in the
tree that the passes before it have made.
-/

namespace Manuscript.Pipeline

open Quotation

/-- Runs the given passes over a tree, those over Markdown before those over HTML, and writes it. -/
def renderTree (pipeline : Pipeline) (source : Text) (markdown : List MarkdownPass)
    (html : List HtmlPass) (tree : Node) : Option Text := do
  let stages ← runMarkdown pipeline.options source markdown tree
  let lowered :=
    Lowering.lowerDocument (loweringOptions pipeline.options) (lastTree tree stages)
  let trees := (runHtml pipeline.options html lowered).map fun (pass, tree, _) => (pass, tree)
  return (lastTree lowered trees).render

/-- Compiling a document is running the passes of the pipeline over what is read. -/
theorem html_compile (pipeline : Pipeline) (source : Text) :
    (pipeline.compile source).map (·.html) =
      pipeline.renderTree source pipeline.options.passes.markdown pipeline.options.passes.html
        (Markdown.read source) := by
  rw [compile, Option.map_map, trace, renderTree]
  cases runMarkdown pipeline.options source pipeline.options.passes.markdown
    (Markdown.read source) <;> rfl

/-- A tree can be written if the Markdown passes can be run over it. -/
theorem renderTree_eq_none_iff_runMarkdown (pipeline : Pipeline) (source : Text)
    (markdown : List MarkdownPass) (html : List HtmlPass) (tree : Node) :
    pipeline.renderTree source markdown html tree = none ↔
      runMarkdown pipeline.options source markdown tree = none := by
  rw [renderTree]
  cases runMarkdown pipeline.options source markdown tree with
  | none => exact iff_of_true rfl rfl
  | some stages => exact iff_of_false (Option.some_ne_none _) (Option.some_ne_none _)

/-- A Markdown pass fails exactly when it is the pass over quotations and one of them cannot be cut.
-/
theorem run_eq_none_iff (options : Options) (source : Text) (tree : Node) (pass : MarkdownPass) :
    pass.run options source tree = none ↔
      pass = .blockquote ∧ ∃ quote ∈ tree.descendants, CannotBeCut options.blockquote quote := by
  cases pass with
  | blockquote =>
    rw [MarkdownPass.run, (transform_fails_iff options.blockquote).1]
    exact (and_iff_right rfl).symm
  | _ => simp [MarkdownPass.run]

/-- The last tree of a run is that of the passes after the first. -/
theorem lastTree_cons {α β : Type} (start : β) (pass : α) (tree : β) (later : List (α × β)) :
    lastTree start ((pass, tree) :: later) = lastTree tree later := by
  rw [lastTree, lastTree, List.getLast?_cons]
  cases later.getLast? <;> rfl

/-- A run of Markdown passes is a run of the first pass, then one of the others on what it made. -/
theorem runMarkdown_cons_of_run {options : Options} {source : Text} {tree next : Node}
    {pass : MarkdownPass} (run : pass.run options source tree = some next)
    (passes : List MarkdownPass) :
    runMarkdown options source (pass :: passes) tree =
      (runMarkdown options source passes next).map ((pass, next) :: ·) := by
  rw [runMarkdown, run]
  cases later : runMarkdown options source passes next <;> simp [later]

/-- A run of Markdown passes fails exactly when one of them does on what those before it made. -/
theorem runMarkdown_eq_none_iff (options : Options) (source : Text) (markdown : List MarkdownPass)
    (tree : Node) :
    runMarkdown options source markdown tree = none ↔
      ∃ front pass back stages, markdown = front ++ pass :: back ∧
        runMarkdown options source front tree = some stages ∧
        pass.run options source (lastTree tree stages) = none := by
  induction markdown generalizing tree with
  | nil => simp [runMarkdown]
  | cons first rest ih =>
    cases run : first.run options source tree with
    | none =>
      refine iff_of_true ?_ ⟨[], first, rest, [], rfl, rfl, run⟩
      rw [runMarkdown, run]
      rfl
    | some next =>
      rw [runMarkdown_cons_of_run run, Option.map_eq_none_iff, ih]
      constructor
      · rintro ⟨front, pass, back, stages, rfl, before, fails⟩
        refine ⟨first :: front, pass, back, (first, next) :: stages, rfl, ?_, ?_⟩
        · rw [runMarkdown_cons_of_run run, before, Option.map_some]
        · rwa [lastTree_cons]
      · rintro ⟨front, pass, back, stages, whole, before, fails⟩
        cases front with
        | nil =>
          cases whole
          cases before
          rw [lastTree, List.getLast?_nil, Option.map_none, Option.getD_none, run] at fails
          cases fails
        | cons _ front =>
          cases whole
          rw [runMarkdown_cons_of_run run, Option.map_eq_some_iff] at before
          obtain ⟨others, inFront, rfl⟩ := before
          rw [lastTree_cons] at fails
          exact ⟨front, pass, back, others, rfl, inFront, fails⟩

/-- Passes can be run over a document and the result written, whatever passes they are in whatever
order, unless the pass over quotations comes to one that cannot be cut; and that takes a piece of
code, inside another node of a paragraph, in which the content before the metadata ends. Compiling a
document is such a run. -/
theorem renderTree_eq_none_iff (pipeline : Pipeline) (source : Text)
    (markdown : List MarkdownPass) (html : List HtmlPass) (tree : Node) :
    let options := pipeline.options.blockquote
    (pipeline.renderTree source markdown html tree = none ↔
      ∃ front back stages, markdown = front ++ .blockquote :: back ∧
        runMarkdown pipeline.options source front tree = some stages ∧
        ∃ quote ∈ (lastTree tree stages).descendants, CannotBeCut options quote) ∧
    (∀ found node, MisplacedCut options found node →
      ∃ position, found.start? options node = some position ∧
        StrandsCode (Text.byteLength (contentText position node)) node.children) ∧
    (pipeline.compile source).map (·.html) =
      pipeline.renderTree source pipeline.options.passes.markdown pipeline.options.passes.html
        (Markdown.read source) := by
  intro options
  refine ⟨?_, fun found node misplaced => misplaced.strandsCode, pipeline.html_compile source⟩
  rw [renderTree_eq_none_iff_runMarkdown, runMarkdown_eq_none_iff]
  constructor
  · rintro ⟨front, pass, back, stages, whole, before, fails⟩
    obtain ⟨rfl, cannot⟩ := (run_eq_none_iff _ _ _ _).1 fails
    exact ⟨front, back, stages, whole, before, cannot⟩
  · rintro ⟨front, back, stages, whole, before, cannot⟩
    exact ⟨front, .blockquote, back, stages, whole, before,
      (run_eq_none_iff _ _ _ _).2 ⟨rfl, cannot⟩⟩

/-- A paragraph of emphasized code that ends in a blank, and of an attribution line. -/
def attributedParagraph : Node :=
  let code : Node := ⟨.inlineCode "ab ".toList, [], {}, some ⟨3, 8⟩⟩
  let line : Node := ⟨.text "\n— Name".toList, [], {}, some ⟨9, 20⟩⟩
  ⟨.paragraph, [⟨.emphasis, [code], {}, some ⟨2, 9⟩⟩, line], {}, some ⟨2, 20⟩⟩

/-- A quotation of `attributedParagraph`. -/
def attributedQuote : Node :=
  ⟨.blockquote, [attributedParagraph], {}, some ⟨0, 20⟩⟩

/-- A document that holds `attributedQuote` and nothing else. -/
def attributedCode : Node :=
  ⟨.root, [attributedQuote], {}, none⟩

/-- The content of the paragraph has the two bytes before the blank, but they are counted on the
line after the code, where they end inside the dash. -/
theorem misplacedCut_attributedParagraph : MisplacedCut {} {} attributedParagraph := by
  refine ⟨4, rfl, ?_⟩
  change Text.CutsCharacter 2 ['\n', '—', ' ', 'N', 'a', 'm', 'e']
  refine ⟨by decide, fun front back whole => ?_⟩
  rcases front with _ | ⟨newline, _ | ⟨dash, more⟩⟩
  · decide
  · cases whole
    decide
  · rw [List.cons_append, List.cons_append] at whole
    injection whole with first whole
    injection whole with second
    subst first second
    have width : '\n'.utf8Size + '—'.utf8Size = 4 := by decide
    simp only [Text.byteLength]
    omega

/-- The quotation cannot be cut, and so the document cannot be compiled. -/
theorem attributedCode_cannot_be_compiled :
    ∃ pipeline : Pipeline, pipeline.options = {} ∧
      pipeline.renderTree "> *`ab `*\n> — Name".toList [.blockquote] [] attributedCode = none := by
  refine ⟨⟨{}, rfl⟩, rfl, ?_⟩
  rw [renderTree_eq_none_iff_runMarkdown, runMarkdown_eq_none_iff]
  refine ⟨[], .blockquote, [], [], rfl, rfl, (run_eq_none_iff _ _ _ _).2 ⟨rfl, ?_⟩⟩
  have cannot : CannotBeCut {} attributedQuote :=
    ⟨rfl, _, [], attributedParagraph, [], [], {}, rfl, rfl, by rw [List.reverse_nil, takeMetadata],
      misplacedCut_attributedParagraph⟩
  exact ⟨attributedQuote, List.mem_cons_self, cannot⟩

end Manuscript.Pipeline
