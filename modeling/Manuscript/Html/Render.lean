import Manuscript.Html.Basic

/-!
# Writing HTML

A tree is written with its texts and attribute values escaped. Comments and raw markup are written
as they stand, so what may become raw markup is decided where the tree is built.
-/

namespace Manuscript.Html

/-- How a character is written inside a text. -/
def escapeTextChar : Char → Text
  | '&' => "&amp;".toList
  | '<' => "&lt;".toList
  | '>' => "&gt;".toList
  | c => [c]

/-- How a character is written inside a quoted attribute value. -/
def escapeValueChar : Char → Text
  | '&' => "&amp;".toList
  | '"' => "&quot;".toList
  | c => [c]

/-- A text as it is written between tags. -/
def escapeText (value : Text) : Text :=
  value.flatMap escapeTextChar

/-- A text as it is written between the quotes of an attribute. -/
def escapeValue (value : Text) : Text :=
  value.flatMap escapeValueChar

/-- One attribute with the blank before it. -/
def renderAttribute (name value : Text) : Text :=
  ' ' :: name ++ "=\"".toList ++ escapeValue value ++ ['"']

/-- The opening of an element. The class attribute comes first and is left out when there are no
classes. -/
def renderTag (tag : Tag) : Text :=
  let classes :=
    if tag.classes.isEmpty then []
    else renderAttribute "class".toList (Text.joinWith [' '] tag.classes)
  '<' :: tag.name ++ classes
    ++ tag.attributes.flatMap (fun (name, value) => renderAttribute name value)
    ++ ['>']

/-- Names of the elements that have neither children nor a closing tag. -/
def voidNames : List Text :=
  ["br".toList, "hr".toList, "img".toList, "input".toList]

mutual

/-- The written form of a tree. -/
def render : Html → Text
  | root children => renderList children
  | element tag children =>
    if voidNames.contains tag.name then renderTag tag
    else renderTag tag ++ renderList children ++ "</".toList ++ tag.name ++ ['>']
  | text value => escapeText value
  | comment value => "<!--".toList ++ value ++ "-->".toList
  | raw value => value

/-- The written form of a list of trees, one after the other. -/
def renderList : List Html → Text
  | [] => []
  | node :: rest => render node ++ renderList rest

end

end Manuscript.Html
