import Manuscript.Proofs.Html.Passes
import Manuscript.Proofs.Lowering.Safety
import Manuscript.Proofs.Pipeline.Edit
import Manuscript.Proofs.Quotation.Safety

/-!
# What is compiled is safe

A document as it is read has no annotations, and where dangerous HTML is not allowed no pass makes
it unsafe. So the HTML tree that is written has no raw markup, no comments, no elements but the
known ones and no attribute that runs a script, whatever passes are run in whatever order
(`isSafe_of_mem_finalTree`).
-/

namespace Manuscript

/-- Where dangerous HTML is not allowed, every Markdown pass keeps a document safe. -/
theorem MarkdownPass.isSafe_run {options : Options} (harmless : options.allowDangerousHtml = false)
    (source : Text) (pass : MarkdownPass) {tree result : Node} (safe : tree.IsSafe)
    (run : pass.run options source tree = some result) : result.IsSafe := by
  by_cases quotes : pass = .blockquote
  · subst quotes
    exact (Quotation.isSafe_transformBelow options.blockquote).1 tree result safe run
  · obtain ⟨other, run', edited⟩ := edited_run options source tree quotes
    rw [run] at run'
    cases run'
    rw [harmless] at edited
    exact Node.areSafe_singleton.1 (edited.areSafe (Node.areSafe_singleton.2 safe))

namespace Pipeline

/-- Runs the given passes over a tree, those over Markdown before those over HTML, and gives the
HTML tree that is written. -/
def finalTree (options : Options) (source : Text) (markdown : List MarkdownPass)
    (html : List HtmlPass) (tree : Node) : Option Html := do
  let stages ← runMarkdown options source markdown tree
  let lowered := Lowering.lowerDocument (loweringOptions options) (lastTree tree stages)
  return lastTree lowered ((runHtml options html lowered).map fun (pass, tree, _) => (pass, tree))

/-- What a pipeline writes is the final tree. -/
theorem renderTree_eq_finalTree (pipeline : Pipeline) (source : Text)
    (markdown : List MarkdownPass) (html : List HtmlPass) (tree : Node) :
    pipeline.renderTree source markdown html tree =
      (finalTree pipeline.options source markdown html tree).map Html.render := by
  rw [renderTree, finalTree]
  cases runMarkdown pipeline.options source markdown tree <;> rfl

/-- Where dangerous HTML is not allowed, a run of Markdown passes keeps a document safe. -/
theorem isSafe_of_runMarkdown {options : Options} (harmless : options.allowDangerousHtml = false)
    {source : Text} {markdown : List MarkdownPass} {tree : Node} (safe : tree.IsSafe)
    {stages : List (MarkdownPass × Node)}
    (run : runMarkdown options source markdown tree = some stages) :
    (lastTree tree stages).IsSafe := by
  induction markdown generalizing tree stages with
  | nil =>
    cases run
    exact safe
  | cons pass rest ih =>
    rw [runMarkdown] at run
    obtain ⟨next, here, run⟩ := Option.bind_eq_some_iff.1 run
    obtain ⟨later, there, same⟩ := Option.bind_eq_some_iff.1 run
    cases same
    rw [lastTree_cons]
    exact ih (pass.isSafe_run harmless source safe here) there

/-- A run of HTML passes keeps a tree safe. -/
theorem isSafe_lastTree_runHtml (options : Options) (html : List HtmlPass) {tree : Html}
    (safe : tree.IsSafe) :
    (lastTree tree ((runHtml options html tree).map fun (pass, tree, _) =>
      (pass, tree))).IsSafe := by
  induction html generalizing tree with
  | nil => exact safe
  | cons pass rest ih =>
    rw [runHtml, List.map_cons, lastTree_cons]
    exact ih (pass.isSafe_run options safe)

/-- Where dangerous HTML is not allowed, a document without annotations is compiled to a safe tree,
whatever passes are run in whatever order. What a pipeline with these options writes is such a
tree. -/
theorem isSafe_of_mem_finalTree (options : Options) (harmless : options.allowDangerousHtml = false)
    (source : Text) (markdown : List MarkdownPass) (html : List HtmlPass) (tree : Node)
    (plain : ∀ node ∈ tree.nodes, node.data = {}) :
    (∀ final ∈ finalTree options source markdown html tree, final.IsSafe) ∧
      ∀ pipeline : Pipeline, pipeline.options = options →
        ∀ written ∈ pipeline.renderTree source markdown html tree,
          ∃ final : Html, final.IsSafe ∧ final.render = written := by
  have safe : ∀ final ∈ finalTree options source markdown html tree, final.IsSafe := by
    intro final member
    obtain ⟨stages, run, same⟩ := Option.bind_eq_some_iff.1 member
    cases same
    have start := Node.isSafe_of_default.1 tree plain
    have lowered :
        (Lowering.lowerDocument (loweringOptions options) (lastTree tree stages)).IsSafe :=
      Lowering.isSafe_lowerDocument harmless (isSafe_of_runMarkdown harmless start run)
    exact isSafe_lastTree_runHtml options html lowered
  refine ⟨safe, ?_⟩
  rintro pipeline rfl written member
  rw [renderTree_eq_finalTree] at member
  obtain ⟨final, isFinal, same⟩ := Option.map_eq_some_iff.1 member
  exact ⟨final, safe final isFinal, same⟩

/-- A document with an event handler in an attribute block, and with raw HTML. -/
def documentWithHandler : Node :=
  { kind := .root
    children :=
      [ Node.paragraph
          [ { kind := .emphasis, children := [Node.text "a".toList] },
            Node.text "[[onClick=f .b data-c=d]]".toList ],
        { kind := .html "<script>".toList } ] }

/-- The document is compiled to a safe tree. -/
theorem isSafe_documentWithHandler :
    ∃ final, finalTree {} [] [.attributes] [.headingIds] documentWithHandler = some final ∧
      final.IsSafe := by
  have other : MarkdownPass.attributes ≠ .blockquote := by decide
  obtain ⟨attached, run, _⟩ := edited_run {} [] documentWithHandler other
  have compiled : ∃ final,
      finalTree {} [] [.attributes] [.headingIds] documentWithHandler = some final := by
    rw [finalTree, runMarkdown, run]
    exact ⟨_, rfl⟩
  obtain ⟨final, same⟩ := compiled
  exact ⟨final, same, (isSafe_of_mem_finalTree {} rfl [] [.attributes] [.headingIds]
    documentWithHandler (by decide)).1 final same⟩

end Pipeline

end Manuscript
