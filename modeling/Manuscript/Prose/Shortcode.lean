import Manuscript.Document.TextSubstitution
import Manuscript.Emoji.Basic

/-!
# Shortcodes

`:name:` in the prose becomes the emoji of that name. Names are looked for from left to right, and a
name that no emoji has uses up both of its colons.
-/

namespace Manuscript.Shortcode

/-- Whether a character can be part of a shortcode. -/
def isNameChar (c : Char) : Bool :=
  ('a' ≤ c && c ≤ 'z') || c.isDigit || c == '_' || c == '+' || c == '-'

/-- Reads a name and the colon after it. -/
def name? (text : Text) : Option (Text × Text) :=
  match text.takeWhile isNameChar, text.dropWhile isNameChar with
  | c :: name, ':' :: after => some (c :: name, after)
  | _, _ => none

/-- What is written for a name: the emoji, or the name between its colons. -/
def image (name : Text) : Text :=
  (Emoji.ofShortcode? name).getD (':' :: name ++ [':'])

/-- Replaces the shortcodes of a text. The next `skip` characters belong to a shortcode that has
been replaced. -/
def replaceFrom (skip : Nat) : Text → Text
  | [] => []
  | c :: rest =>
    if 0 < skip then replaceFrom (skip - 1) rest
    else
      match if c = ':' then name? rest else none with
      | some (name, after) => image name ++ replaceFrom (rest.length - after.length) rest
      | none => c :: replaceFrom 0 rest

/-- Replaces the shortcodes of a text. -/
def replace (text : Text) : Text :=
  replaceFrom 0 text

/-- Replaces the shortcodes of a document. A text that changes becomes a new node. -/
def replaceTexts (tree : Node) : Node :=
  tree.substituteTexts fun value _ =>
    let replaced := replace value
    if replaced = value then none else some [Node.text replaced]

end Manuscript.Shortcode
