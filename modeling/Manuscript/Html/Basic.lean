import Manuscript.Text.Blank
import Manuscript.Text.Pairs

/-!
# HTML trees

An element is a tag with children. The class list is kept apart from the other attributes, so that
a pass adds to it without taking a text apart; attributes keep the order in which they were set,
which is the order they are written in.
-/

namespace Manuscript

/-- What stands at the opening of an element: its name, its classes and its other attributes. -/
structure Tag where
  /-- Name of the element. -/
  name : Text
  /-- Classes, in order. -/
  classes : List Text := []
  /-- Attributes other than the classes, in order. -/
  attributes : List (Text × Text) := []
deriving DecidableEq, Repr, Inhabited

/-- A node of an HTML tree. -/
inductive Html where
  | root (children : List Html)
  | element (tag : Tag) (children : List Html)
  | text (value : Text)
  | comment (value : Text)
  /-- Markup that is written as it stands. -/
  | raw (value : Text)
deriving BEq, Inhabited

namespace Tag

/-- The value of an attribute. -/
def attribute? (tag : Tag) (name : Text) : Option Text :=
  Pairs.get? name tag.attributes

/-- Whether an attribute is set. -/
def hasAttribute (tag : Tag) (name : Text) : Bool :=
  (tag.attribute? name).isSome

/-- Sets an attribute; one that is already there keeps its place. -/
def setAttribute (name value : Text) (tag : Tag) : Tag :=
  { tag with attributes := Pairs.set name value tag.attributes }

/-- An attribute that is set has its value. -/
@[simp] theorem attribute?_setAttribute_self (name value : Text) (tag : Tag) :
    (tag.setAttribute name value).attribute? name = some value :=
  Pairs.get?_set_self name value tag.attributes

/-- Setting an attribute changes no other one. -/
theorem attribute?_setAttribute_of_ne {name other : Text} (different : name ≠ other) (value : Text)
    (tag : Tag) : (tag.setAttribute name value).attribute? other = tag.attribute? other :=
  Pairs.get?_set_of_ne different value tag.attributes

/-- Whether a class is in the class list. -/
def hasClass (tag : Tag) (name : Text) : Bool :=
  tag.classes.contains name

/-- Adds a class at the end, unless it is empty or already there. -/
def addClass (tag : Tag) (name : Text) : Tag :=
  if name.isEmpty || tag.hasClass name then tag else { tag with classes := tag.classes ++ [name] }

/-- Adds classes one after the other. -/
def addClasses (names : List Text) (tag : Tag) : Tag :=
  names.foldl addClass tag

end Tag

namespace Html

/-- The children of a root or an element. -/
def children : Html → List Html
  | root children => children
  | element _ children => children
  | _ => []

/-- The tag of an element. -/
def tag? : Html → Option Tag
  | element tag _ => some tag
  | _ => none

/-- The value of an attribute of an element. -/
def attribute? (name : Text) (node : Html) : Option Text :=
  node.tag?.bind (·.attribute? name)

/-- Whether a node is an element with the given name. -/
def isElement (name : Text) : Html → Bool
  | element tag _ => tag.name = name
  | _ => false

/-- Whether a node is a text of nothing but white space. -/
def isBlank : Html → Bool
  | text value => Text.isBlankText value
  | _ => false

mutual

/-- The texts of a tree, joined in order. Comments and raw markup count as no text. -/
def textContent : Html → Text
  | root children => textContentList children
  | element _ children => textContentList children
  | text value => value
  | comment _ => []
  | raw _ => []

/-- The texts of a list of trees, joined in order. -/
def textContentList : List Html → Text
  | [] => []
  | node :: rest => textContent node ++ textContentList rest

end

/-- The level of a heading element. -/
def headingLevel? (name : Text) : Option Nat :=
  match name with
  | ['h', '1'] => some 1
  | ['h', '2'] => some 2
  | ['h', '3'] => some 3
  | ['h', '4'] => some 4
  | ['h', '5'] => some 5
  | ['h', '6'] => some 6
  | _ => none

/-- Whether a tag opens the section that holds the footnotes. -/
def isFootnoteSection (tag : Tag) : Bool :=
  tag.name = "section".toList && tag.hasAttribute "data-footnotes".toList

end Html

end Manuscript
