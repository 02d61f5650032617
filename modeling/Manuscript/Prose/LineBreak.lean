import Manuscript.Document.TextSubstitution
import Manuscript.Text.Blank

/-!
# Line breaks

Every line feed inside a text becomes a hard line break, and the blanks at the start of the next
line go.
-/

namespace Manuscript.LineBreak

/-- A line that follows a break, without the spaces and tabs at its start. -/
def dropIndent (line : Text) : Text :=
  line.dropWhile fun c => c == ' ' || c == '\t'

/-- The nodes for the lines of a text, with a break before each line but the first. -/
def nodes : List Text → List Node
  | [] => []
  | first :: rest =>
    Node.ofText first
      ++ rest.flatMap fun line => { kind := .lineBreak } :: Node.ofText (dropIndent line)

/-- Puts hard line breaks into a document. -/
def breakLines (tree : Node) : Node :=
  tree.substituteTexts fun value _ =>
    if '\n' ∈ value then some (nodes (Text.splitOnChar '\n' value)) else none

end Manuscript.LineBreak
