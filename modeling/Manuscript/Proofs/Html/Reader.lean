import Manuscript.Html.Render

/-!
# Reading HTML

The inverse of writing. A text runs to the next `<` and an attribute value to the next quote, and
character references are replaced by what they stand for. The pieces that are found this way are
put into one another from the last one on: a closing tag begins the inside of an element, and the
opening tag of the same name ends it.
-/

namespace Manuscript.Html

/-- A text with its character references replaced by what they stand for. -/
def decode : Text → Text
  | '&' :: 'a' :: 'm' :: 'p' :: ';' :: rest => '&' :: decode rest
  | '&' :: 'l' :: 't' :: ';' :: rest => '<' :: decode rest
  | '&' :: 'g' :: 't' :: ';' :: rest => '>' :: decode rest
  | '&' :: 'q' :: 'u' :: 'o' :: 't' :: ';' :: rest => '"' :: decode rest
  | c :: rest => c :: decode rest
  | [] => []

/-- Whether a character can stand in the name of an element or an attribute. -/
def isNameChar (c : Char) : Bool :=
  c.isAlphanum || c == '-' || c == '_' || c == ':' || c == '.'

/-- A piece of markup. -/
inductive Piece where
  | opening (tag : Tag)
  | closing (name : Text)
  | text (value : Text)
deriving DecidableEq, Repr

/-- One attribute with the blank before it at the start of a text, and what follows it. -/
def readAttribute? : Text → Option ((Text × Text) × Text)
  | ' ' :: rest =>
    match rest.dropWhile isNameChar with
    | '=' :: '"' :: quoted =>
      match quoted.dropWhile (· != '"') with
      | '"' :: after =>
        some ((rest.takeWhile isNameChar, decode (quoted.takeWhile (· != '"'))), after)
      | _ => none
    | _ => none
  | _ => none

/-- What follows an attribute is shorter than the text. -/
theorem length_of_readAttribute? {text after : Text} {pair : Text × Text}
    (found : readAttribute? text = some (pair, after)) : after.length < text.length := by
  unfold readAttribute? at found
  split at found
  · rename_i rest
    split at found
    · rename_i quoted afterName
      split at found
      · rename_i afterValue
        cases found
        have name := (List.dropWhile_sublist isNameChar (l := rest)).length_le
        have value := (List.dropWhile_sublist (· != '"') (l := quoted)).length_le
        rw [afterName] at name
        rw [afterValue] at value
        simp only [List.length_cons] at name value ⊢
        omega
      · cases found
    · cases found
  · cases found

/-- The attributes at the start of a text, up to the end of the tag, and what follows the tag. -/
def readAttributes? (text : Text) : Option (List (Text × Text) × Text) :=
  match text with
  | '>' :: rest => some ([], rest)
  | text =>
    match _found : readAttribute? text with
    | some (pair, after) =>
      (readAttributes? after).map fun (others, back) => (pair :: others, back)
    | none => none
termination_by text.length
decreasing_by exact length_of_readAttribute? _found

/-- What follows a tag is shorter than the tag with it. -/
theorem length_of_readAttributes? {text after : Text} {attributes : List (Text × Text)}
    (found : readAttributes? text = some (attributes, after)) : after.length < text.length := by
  fun_induction readAttributes? text generalizing attributes after with
  | case1 rest =>
    cases found
    simp
  | case2 text _ pair back here ih =>
    obtain ⟨⟨others, last⟩, inner, same⟩ := Option.map_eq_some_iff.1 found
    cases same
    exact Nat.lt_trans (ih inner) (length_of_readAttribute? here)
  | case3 => cases found

/-- The tag with the given name and attributes; a class attribute that comes first gives its class
list, as one text. -/
def tagOf (name : Text) : List (Text × Text) → Tag
  | [] => { name }
  | (key, value) :: others =>
    if key = "class".toList then { name, classes := [value], attributes := others }
    else { name, attributes := (key, value) :: others }

/-- The piece at the start of a text, and what follows it. -/
def readPiece? : Text → Option (Piece × Text)
  | [] => none
  | '<' :: '/' :: rest =>
    match rest.dropWhile isNameChar with
    | '>' :: after => some (.closing (rest.takeWhile isNameChar), after)
    | _ => none
  | '<' :: rest =>
    (readAttributes? (rest.dropWhile isNameChar)).map fun (attributes, after) =>
      (.opening (tagOf (rest.takeWhile isNameChar) attributes), after)
  | c :: rest =>
    some (.text (decode ((c :: rest).takeWhile (· != '<'))), rest.dropWhile (· != '<'))

/-- What follows a piece is shorter than the text. -/
theorem length_of_readPiece? {text after : Text} {piece : Piece}
    (found : readPiece? text = some (piece, after)) : after.length < text.length := by
  unfold readPiece? at found
  split at found
  · cases found
  · rename_i rest
    split at found
    · rename_i afterName
      cases found
      have name := (List.dropWhile_sublist isNameChar (l := rest)).length_le
      rw [afterName] at name
      simp only [List.length_cons] at name ⊢
      omega
    · cases found
  · rename_i rest _
    obtain ⟨⟨attributes, back⟩, inner, same⟩ := Option.map_eq_some_iff.1 found
    cases same
    have name := (List.dropWhile_sublist isNameChar (l := rest)).length_le
    have tag := length_of_readAttributes? inner
    simp only [List.length_cons]
    omega
  · rename_i rest _ _
    cases found
    exact Nat.lt_succ_of_le (List.dropWhile_sublist (· != '<') (l := rest)).length_le

/-- The pieces of a text. -/
def pieces? (text : Text) : Option (List Piece) :=
  match text with
  | [] => some []
  | c :: rest =>
    match _found : readPiece? (c :: rest) with
    | some (piece, after) => (pieces? after).map (piece :: ·)
    | none => none
termination_by text.length
decreasing_by exact length_of_readPiece? _found

/-- The siblings that pieces make, with the elements around them that the pieces only close: the
name of each and the siblings after it, the innermost first. -/
structure Nesting where
  siblings : List Html := []
  around : List (Text × List Html) := []

/-- Puts a piece in front of others. An opening tag needs the closing tag of its name, unless its
element has none. -/
def Piece.nest? : Piece → Nesting → Option Nesting
  | .text value, nesting => some { nesting with siblings := .text value :: nesting.siblings }
  | .closing name, nesting =>
    some { siblings := [], around := (name, nesting.siblings) :: nesting.around }
  | .opening tag, nesting =>
    if voidNames.contains tag.name then
      some { nesting with siblings := .element tag [] :: nesting.siblings }
    else
      match nesting.around with
      | [] => none
      | (name, after) :: around =>
        if name = tag.name then
          some { siblings := .element tag nesting.siblings :: after, around }
        else none

/-- Puts pieces into one another. -/
def nest? : List Piece → Option Nesting
  | [] => some {}
  | piece :: rest => (nest? rest).bind piece.nest?

/-- The siblings that a text is the written form of. Fails when an element is not closed, or closed
without having been opened. -/
def read? (text : Text) : Option (List Html) :=
  (pieces? text).bind fun pieces =>
    (nest? pieces).bind fun nesting =>
      if nesting.around.isEmpty then some nesting.siblings else none

end Manuscript.Html
