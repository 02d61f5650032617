import Manuscript.Text.Basic

/-!
# Letters in either case

Keywords of ASCII letters are compared without regard to letter case. By Unicode case folding the
long s is an s, and the Kelvin sign is a k.
-/

namespace Manuscript.Text

/-- Compares a character with a lower-case ASCII letter, without regard to case. -/
def isLetter? (letter c : Char) : Bool :=
  c.toLower == letter || (letter == 's' && c == 'ſ') || (letter == 'k' && c == '\u212a')

/-- What follows a word of lower-case ASCII letters at the start of a text. -/
def dropLetters? : Text → Text → Option Text
  | [], text => some text
  | letter :: letters, c :: rest => if isLetter? letter c then dropLetters? letters rest else none
  | _ :: _, [] => none

/-- What follows a lower-case ASCII letter that may stand at the start of a text. -/
def skipLetter (letter : Char) (text : Text) : Text :=
  match text with
  | c :: rest => if isLetter? letter c then rest else text
  | [] => text

end Manuscript.Text
