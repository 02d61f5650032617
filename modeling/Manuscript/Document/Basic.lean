import Manuscript.Text.Basic

/-!
# Documents

A document is a tree of nodes. Every node has the same shape: a kind, which carries the fields that
belong to the kind alone, then its children, the annotations that passes leave for the lowering to
HTML, and the span of the source that it was read from.
-/

namespace Manuscript

/-- A range of bytes of the source. -/
structure Span where
  /-- Offset of the first byte. -/
  start : Nat
  /-- Offset after the last byte. -/
  stop : Nat
deriving DecidableEq, Repr

/-- Alignment of a table column. -/
inductive ColumnAlignment where
  | none
  | left
  | center
  | right
deriving DecidableEq, Repr

/-- The place of a code block in a set of tabs. -/
structure CodeTab where
  /-- Name of the set. -/
  group : Text
  /-- Label of the tab in its set. -/
  label : Text
deriving DecidableEq, Repr

/-- What passes leave on a node for the lowering to HTML. -/
structure Annotations where
  /-- Element name to use in place of the one that belongs to the kind. -/
  tagName : Option Text := none
  /-- Classes of the element. -/
  classes : List Text := []
  /-- Identifier of the element. -/
  id : Option Text := none
  /-- Further attributes of the element, in order. -/
  properties : List (Text × Text) := []
  /-- Source of a quotation. -/
  cite : Option Text := none
  /-- Place in a set of code tabs. -/
  codeTab : Option CodeTab := none
  /-- What is left of the fence line for a syntax highlighter. -/
  fenceMeta : Option Text := none
  /-- Whether an alignment tag in this text was escaped and must stay literal. -/
  escaped : Bool := false
deriving DecidableEq, Repr, Inhabited

/-- The kinds of nodes. -/
inductive Kind where
  | root
  | paragraph
  | heading (level : Nat)
  | list (ordered : Bool) (start : Option Nat) (spread : Bool)
  | listItem (checked : Option Bool)
  | blockquote
  | code (language fence : Option Text) (value : Text)
  | inlineCode (value : Text)
  | text (value : Text)
  | emphasis
  | strong
  | delete
  | mark
  | abbreviation (title : Text)
  | link (url : Text) (title : Option Text)
  | image (url alt : Text) (title : Option Text)
  | footnoteReference (label : Text)
  | footnoteDefinition (label : Text)
  | lineBreak
  | thematicBreak
  | html (value : Text)
  | table (columns : List ColumnAlignment)
  | tableRow (isHead : Bool)
  | tableCell
  | container
deriving DecidableEq, Repr, Inhabited

/-- A node of a document. -/
structure Node where
  /-- What the node is. -/
  kind : Kind
  /-- The nodes below it, in order. -/
  children : List Node := []
  /-- What passes left on it. -/
  data : Annotations := {}
  /-- Where it was read from. -/
  span : Option Span := none
deriving BEq, Inhabited

namespace Node

/-- A text node without annotations. -/
def text (value : Text) : Node :=
  { kind := .text value }

/-- The text node for a text, or none when the text is empty. -/
def ofText (value : Text) : List Node :=
  if value.isEmpty then [] else [text value]

/-- A paragraph without annotations. -/
def paragraph (children : List Node) : Node :=
  { kind := .paragraph, children }

/-- A wrapper that is lowered to an element with the given name and classes. -/
def container (tagName : Text) (classes : List Text) (children : List Node) : Node :=
  { kind := .container, children, data := { tagName := some tagName, classes } }

/-- The value of a text node. -/
def textValue? (node : Node) : Option Text :=
  match node.kind with
  | .text value => some value
  | _ => none

/-- Whether a node is a text node. -/
def isText (node : Node) : Bool :=
  node.textValue?.isSome

/-- Whether a node is a paragraph. -/
def isParagraph (node : Node) : Bool :=
  node.kind = .paragraph

/-- A text node with another value and everything else as it was. -/
def withText (value : Text) (node : Node) : Node :=
  { node with kind := .text value }

mutual

/-- Number of nodes in a tree. -/
def weight : Node → Nat
  | ⟨_, children, _, _⟩ => 1 + weightList children

/-- Number of nodes in a list of trees. -/
def weightList : List Node → Nat
  | [] => 0
  | node :: rest => weight node + weightList rest

end

mutual

/-- The texts of a tree, joined in order. Code and other literal kinds hold no text nodes. -/
def plainText : Node → Text
  | ⟨.text value, children, _, _⟩ => value ++ plainTextList children
  | ⟨_, children, _, _⟩ => plainTextList children

/-- The texts of a list of trees, joined in order. -/
def plainTextList : List Node → Text
  | [] => []
  | node :: rest => plainText node ++ plainTextList rest

end

/-- No nodes weigh nothing. -/
@[simp] theorem weightList_nil : weightList [] = 0 := by
  rw [weightList]

/-- Siblings weigh what the first of them and the others weigh together. -/
@[simp] theorem weightList_cons (node : Node) (rest : List Node) :
    weightList (node :: rest) = node.weight + weightList rest := by
  rw [weightList]

/-- The weights of two lists add up. -/
theorem weightList_append (front back : List Node) :
    weightList (front ++ back) = weightList front + weightList back := by
  induction front with
  | nil => simp
  | cons node rest ih => simp [ih, Nat.add_assoc]

/-- The order of a list does not change its weight. -/
theorem weightList_reverse (nodes : List Node) : weightList nodes.reverse = weightList nodes := by
  induction nodes with
  | nil => simp
  | cons node rest ih => simp [weightList_append, ih, Nat.add_comm]

/-- The weight of a node counts itself and its children. -/
theorem weight_eq (node : Node) : node.weight = 1 + weightList node.children := by
  obtain ⟨kind, children, data, span⟩ := node
  rw [weight]

/-- Every node weighs at least one. -/
theorem weight_pos (node : Node) : 0 < node.weight := by
  rw [weight_eq]; omega

end Node

end Manuscript
