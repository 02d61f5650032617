import Manuscript.Proofs.Attribute.Name
import Manuscript.Proofs.Document.Induction
import Manuscript.Document.TextSubstitution

/-!
# What a pass may do to a document

`Edited` relates siblings to what the passes over prose make of them, all but the one over block
quotes. Texts are rewritten, cut into pieces and removed, paragraphs of nothing but text are
removed, blocks are moved into a wrapper, and annotations and fence lines are changed; no other node
is touched. What all these edits keep is kept by every pass that makes nothing else.
-/

namespace Manuscript

/-- The kinds of nodes that are put around a piece of text. -/
def Kind.isAround : Kind → Bool
  | .mark => true
  | .abbreviation _ => true
  | .link _ none => true
  | _ => false

/-- What may happen to annotations: an element keeps its name, and an attribute that is new has a
name that a block may give. -/
structure Annotated (allowed : Bool) (before after : Annotations) : Prop where
  tagName : after.tagName = before.tagName
  properties : ∀ pair ∈ after.properties,
    pair.1 ∈ before.properties.map Prod.fst ∨ IsGivenName allowed pair.1

namespace Node

/-- A node that takes the place of a piece of text. -/
inductive IsPiece : Node → Prop
  | text (value : Text) : IsPiece (Node.text value)
  | lineBreak : IsPiece { kind := .lineBreak }
  | around {kind : Kind} (isAround : kind.isAround = true) (value : Text) :
      IsPiece { kind, children := [Node.text value] }

/-- What becomes of siblings when texts, paragraphs of text, annotations and fence lines are edited
and blocks are wrapped. -/
inductive Edited (allowed : Bool) : List Node → List Node → Prop
  | same (nodes : List Node) : Edited allowed nodes nodes
  | trans {first second third : List Node} (once : Edited allowed first second)
      (again : Edited allowed second third) : Edited allowed first third
  | append {front back front' back' : List Node} (before : Edited allowed front front')
      (after : Edited allowed back back') : Edited allowed (front ++ back) (front' ++ back')
  | inside {node : Node} {children : List Node} (edited : Edited allowed node.children children) :
      Edited allowed [node] [{ node with children }]
  | reword {node : Node} (isText : node.isText = true) (value : Text) :
      Edited allowed [node] [node.withText value]
  | replace {node : Node} {pieces : List Node} (isText : node.isText = true)
      (arePieces : ∀ piece ∈ pieces, IsPiece piece) : Edited allowed [node] pieces
  | refence {node : Node} {language fence : Option Text} {value : Text}
      (kind : node.kind = .code language fence value) (fence' : Option Text) :
      Edited allowed [node] [{ node with kind := .code language fence' value }]
  | annotate {node : Node} {data : Annotations} (annotated : Annotated allowed node.data data) :
      Edited allowed [node] [{ node with data }]
  | remove {node : Node} (isParagraph : node.isParagraph = true)
      (texts : ∀ child ∈ node.children, child.isText = true) : Edited allowed [node] []
  | wrap {nodes : List Node} (nonempty : nodes ≠ []) (classes : List Text) :
      Edited allowed nodes [Node.container "div".toList classes nodes]

namespace Edited

variable {allowed : Bool}

/-- A node and the siblings after it may be edited apart. -/
theorem cons {node node' : Node} {rest rest' : List Node} (own : Edited allowed [node] [node'])
    (later : Edited allowed rest rest') : Edited allowed (node :: rest) (node' :: rest') :=
  own.append later

/-- A node may be cut into several. -/
theorem cut {node : Node} {pieces rest rest' : List Node} (own : Edited allowed [node] pieces)
    (later : Edited allowed rest rest') : Edited allowed (node :: rest) (pieces ++ rest') :=
  own.append later

/-- A node may be removed. -/
theorem tail {node : Node} (own : Edited allowed [node] []) (rest : List Node) :
    Edited allowed (node :: rest) rest :=
  own.cut (.same rest)

/-- A text may be removed. -/
theorem removeText {text : Node} (isText : text.isText = true) : Edited allowed [text] [] :=
  .replace isText fun _ none => (nomatch none)

/-- A text may be given another value. -/
theorem rewordText (value value' : Text) (children : List Node) (data : Annotations)
    (span : Option Span) :
    Edited allowed [⟨.text value, children, data, span⟩] [⟨.text value', children, data, span⟩] :=
  have isText : Node.isText ⟨.text value, children, data, span⟩ = true := rfl
  .reword isText value'

/-- No siblings stay none. -/
theorem eq_nil {nodes others : List Node} (edited : Edited allowed nodes others)
    (empty : nodes = []) : others = [] := by
  induction edited with
  | same => exact empty
  | trans _ _ first second => exact second (first empty)
  | append _ _ first second =>
    obtain ⟨noFront, noBack⟩ := List.append_eq_nil_iff.1 empty
    rw [first noFront, second noBack]
    rfl
  | wrap nonempty => exact absurd empty nonempty
  | _ => cases empty

/-- The texts of siblings may be rewritten and cut by a rule that may do so to each. -/
theorem substituteTexts {replacement : Text → Node → Option (List Node)}
    (edits : ∀ {value node nodes}, node.kind = .text value →
      replacement value node = some nodes → Edited allowed [node] nodes) :
    (∀ tree, Edited allowed [tree] [tree.substituteTexts replacement]) ∧
      ∀ nodes, Edited allowed nodes (substituteTextList replacement nodes) := by
  refine Node.induction ?_ ?_ ?_
  · intro kind children data span below
    exact .inside below
  · exact .same []
  · intro node rest own later
    obtain ⟨kind, children, data, span⟩ := node
    rw [substituteTextList.eq_def]
    split
    · rename_i equal
      cases equal
    · rename_i value _ _ _ _ equal
      cases equal
      refine cut ?_ later
      cases found : replacement value ⟨.text value, children, data, span⟩ with
      | none => exact .same _
      | some nodes => exact edits rfl found
    · rename_i equal
      cases equal
      exact own.cons later

/-- The code blocks of siblings may be changed by a rule that may do so to each. -/
theorem mapCode {change : Node → Node}
    (edits : ∀ {node language fence value}, node.kind = .code language fence value →
      Edited allowed [node] [change node]) :
    (∀ tree, Edited allowed [tree] [tree.mapCode change]) ∧
      ∀ nodes, Edited allowed nodes (mapCodeList change nodes) := by
  refine Node.induction ?_ ?_ ?_
  · intro kind children data span below
    rw [Node.mapCode.eq_def]
    split
    · rename_i equal
      cases equal
      exact edits rfl
    · rename_i equal
      cases equal
      exact .inside below
  · exact .same []
  · intro node rest own later
    exact own.cons later

end Edited

end Node

end Manuscript
