import Manuscript.Document.TextSubstitution

/-!
# Highlighting

`==text==` is highlighted. A text node is cut at most once: an opening pair of equals signs belongs
to the next pair after it, an empty span is literal, and what follows the first span is not
searched.
-/

namespace Manuscript.Highlight

/-- The two equals signs around a span. -/
def delimiter : Text := ['=', '=']

/-- A text cut at its first highlighted span. -/
structure Cut where
  /-- The text before the span. -/
  before : Text
  /-- The text of the span. -/
  inner : Text
  /-- The text after the span. -/
  after : Text
deriving DecidableEq, Repr

/-- The first span that is not empty, after the part `before` of the text. -/
def cutAfter? (before text : Text) : Option Cut :=
  match _opened : Text.splitFirst? delimiter text with
  | none => none
  | some (front, rest) =>
    match _closed : Text.splitFirst? delimiter rest with
    | none => none
    | some ([], after) => cutAfter? (before ++ front ++ delimiter ++ delimiter) after
    | some (c :: inner, after) => some { before := before ++ front, inner := c :: inner, after }
termination_by text.length
decreasing_by
  have := Text.length_after_lt (by decide) _opened
  have := Text.length_after_lt (by decide) _closed
  omega

/-- Cuts a text at its first highlighted span. -/
def cut? (text : Text) : Option Cut :=
  cutAfter? [] text

/-- The nodes that take the place of a text. -/
def Cut.nodes (cut : Cut) : List Node :=
  let mark : Node := { kind := .mark, children := [Node.text cut.inner] }
  Node.ofText cut.before ++ mark :: Node.ofText cut.after

/-- Marks the highlighted spans of a document. -/
def markDocument (tree : Node) : Node :=
  tree.substituteTexts fun value _ => (cut? value).map Cut.nodes

end Manuscript.Highlight
