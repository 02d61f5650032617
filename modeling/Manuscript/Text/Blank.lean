import Manuscript.Text.Basic

/-!
# White space

The characters with the Unicode property White_Space, and the operations that are defined by them:
trimming, and cutting a text into its words and lines.
-/

namespace Manuscript.Text

/-- Whether a character is white space. -/
def isBlank (c : Char) : Bool :=
  ('\t' ≤ c && c ≤ '\r') || c == ' ' || c == '\u0085' || c == '\u00a0' || c == '\u1680'
    || ('\u2000' ≤ c && c ≤ '\u200a') || c == '\u2028' || c == '\u2029' || c == '\u202f'
    || c == '\u205f' || c == '\u3000'

/-- Whether a text holds nothing but white space. -/
def isBlankText (text : Text) : Bool :=
  text.all isBlank

/-- A text without the white space at its start. -/
def trimStart (text : Text) : Text :=
  text.dropWhile isBlank

/-- A text without the white space at its end. -/
def trimEnd (text : Text) : Text :=
  (text.reverse.dropWhile isBlank).reverse

/-- A text without the white space at either end. -/
def trim (text : Text) : Text :=
  trimEnd (trimStart text)

/-- The words of a text, after the part of the current word that has been read, last character
first. -/
def wordsFrom (current : Text) : Text → List Text
  | [] => if current.isEmpty then [] else [current.reverse]
  | c :: rest =>
    if isBlank c then
      if current.isEmpty then wordsFrom [] rest else current.reverse :: wordsFrom [] rest
    else wordsFrom (c :: current) rest

/-- The longest pieces of a text without white space. -/
def words (text : Text) : List Text :=
  wordsFrom [] text

/-- A line without the carriage return that may stand before its line feed. -/
def dropReturn (line : Text) : Text :=
  match dropBack? ['\r'] line with
  | some front => front
  | none => line

/-- The lines of a text, without their ends. A line feed at the very end opens no further line. -/
def lines (text : Text) : List Text :=
  let pieces := splitOnChar '\n' text
  let closed := pieces.dropLast.map dropReturn
  match pieces.getLast? with
  | none => closed
  | some last => if last.isEmpty then closed else closed ++ [last]

end Manuscript.Text
