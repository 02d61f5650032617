import Manuscript.Document.Basic

/-!
# Substituting texts of a document

Most passes over prose replace single text nodes and leave the rest of the tree alone. A text node
that is replaced gives way to a list of nodes, which are not visited again.
-/

namespace Manuscript.Node

mutual

/-- Replaces the text nodes below a node. -/
def substituteTexts (replacement : Text → Node → Option (List Node)) : Node → Node
  | ⟨kind, children, data, span⟩ => ⟨kind, substituteTextList replacement children, data, span⟩

/-- Replaces the text nodes of a list of siblings and below them. A text node stays as it is when
`replacement` gives nothing for it. -/
def substituteTextList (replacement : Text → Node → Option (List Node)) : List Node → List Node
  | [] => []
  | ⟨.text value, children, data, span⟩ :: rest =>
    let node := ⟨.text value, children, data, span⟩
    (replacement value node).getD [node] ++ substituteTextList replacement rest
  | node :: rest => substituteTexts replacement node :: substituteTextList replacement rest

end

mutual

/-- Applies a function to every code block of a tree, which is not searched any deeper. -/
def mapCode (change : Node → Node) : Node → Node
  | ⟨.code language fence value, children, data, span⟩ =>
    change ⟨.code language fence value, children, data, span⟩
  | ⟨kind, children, data, span⟩ => ⟨kind, mapCodeList change children, data, span⟩

/-- Applies a function to every code block of a list of trees. -/
def mapCodeList (change : Node → Node) : List Node → List Node
  | [] => []
  | node :: rest => mapCode change node :: mapCodeList change rest

end

end Manuscript.Node
