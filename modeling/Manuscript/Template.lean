import Manuscript.Text.Basic

/-!
# Templates

A template is a text in which `$name` stands for a value. A name is the longest run of ASCII
letters, digits and underscores after the dollar sign, so `$idx` is no use of `id`. Values are
inserted as they are and never searched for further names.
-/

namespace Manuscript

/-- A text with places for values. -/
structure Template where
  /-- The text as it was given. -/
  source : Text
deriving DecidableEq, Repr

namespace Template

/-- Whether a character can be part of a name. -/
def isNameChar (c : Char) : Bool :=
  c.isAlphanum || c == '_'

/-- The name at the start of a text. -/
def nameAt (text : Text) : Text :=
  text.takeWhile isNameChar

/-- The names that follow the dollar signs of a text, in order; a name may be empty. -/
def names : Text → List Text
  | [] => []
  | '$' :: rest => nameAt rest :: names rest
  | _ :: rest => names rest

/-- Whether a template uses a name. -/
def uses (template : Template) (name : Text) : Bool :=
  (names template.source).contains name

/-- The value of a name; of several bindings the last one counts. -/
def value? (bindings : List (Text × Text)) (name : Text) : Option Text :=
  bindings.reverse.lookup name

/-- What is written for a dollar sign with a name after it. -/
def expand (bindings : List (Text × Text)) (name : Text) : Text :=
  if name.isEmpty then ['$'] else (value? bindings name).getD ('$' :: name)

/-- Fills a text with values. -/
def fill (bindings : List (Text × Text)) : Text → Text
  | [] => []
  | c :: rest =>
    if c = '$' then expand bindings (nameAt rest) ++ fill bindings (rest.dropWhile isNameChar)
    else c :: fill bindings rest
termination_by text => text.length
decreasing_by
  · have := (List.dropWhile_sublist isNameChar (l := rest)).length_le
    simp only [List.length_cons]; omega
  · simp only [List.length_cons]; omega

/-- Writes a value for every name that has one; a name without a value stays as it is written. -/
def render (template : Template) (bindings : List (Text × Text)) : Text :=
  fill bindings template.source

end Template

end Manuscript
