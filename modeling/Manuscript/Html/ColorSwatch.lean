import Manuscript.Html.Basic
import Manuscript.Text.LetterCase

/-!
# Color swatches

Inline code that spells a color gets a swatch of that color after its text. Colors are written in
hexadecimal or as `rgb(…)` or `hsl(…)`, with values in range.
-/

namespace Manuscript.ColorSwatch

/-- Whether a character is a hexadecimal digit. -/
def isHexDigit (c : Char) : Bool :=
  c.isDigit || ('a' ≤ c && c ≤ 'f') || ('A' ≤ c && c ≤ 'F')

/-- Whether a text is a number sign with three, six or eight hexadecimal digits. -/
def isHexColor : Text → Bool
  | '#' :: digits =>
    (digits.length = 3 || digits.length = 6 || digits.length = 8) && digits.all isHexDigit
  | _ => false

/-- A number that is written in decimals. -/
structure Decimal where
  /-- The digits before and after the point. -/
  digits : Nat
  /-- How many of the digits stand after the point. -/
  places : Nat
deriving DecidableEq, Repr

namespace Decimal

/-- Whether a number is no larger than a bound once it is rounded to double precision: a number
above the bound by no more than half a unit in the last of the bound's 53 binary places counts as
the bound. -/
def atMost (number : Decimal) (bound : Nat) : Bool :=
  let scale := Nat.pow 2 (53 - Nat.log2 bound)
  number.digits * scale ≤ (bound * scale + 1) * Nat.pow 10 number.places

end Decimal

/-- A component of a color: a number, or a percentage. -/
structure Component where
  /-- The number. -/
  number : Decimal
  /-- Whether a percent sign follows. -/
  percent : Bool
deriving DecidableEq, Repr

namespace Component

/-- Whether a component is in range: a percentage up to a hundred, and a number up to a bound. -/
def inRange (component : Component) (bound : Nat) : Bool :=
  component.number.atMost (if component.percent then 100 else bound)

end Component

/-- The value of decimal digits. -/
def valueOf (digits : Text) : Nat :=
  digits.foldl (fun value c => value * 10 + (c.toNat - '0'.toNat)) 0

/-- Reads a percent sign that may be there. -/
def percent (text : Text) : Bool × Text :=
  match text with
  | '%' :: rest => (true, rest)
  | _ => (false, text)

/-- Reads a whole number of up to three digits, which may be a percentage. -/
def channel? (text : Text) : Option (Component × Text) :=
  let digits := text.takeWhile Char.isDigit
  if digits.isEmpty || 3 < digits.length then none
  else
    let (percent, after) := percent (text.dropWhile Char.isDigit)
    some ({ number := ⟨valueOf digits, 0⟩, percent }, after)

/-- Reads a decimal number, with or without digits before a point. -/
def decimal? (text : Text) : Option (Decimal × Text) :=
  let whole := text.takeWhile Char.isDigit
  let rest := text.dropWhile Char.isDigit
  match rest with
  | '.' :: tail =>
    let places := tail.takeWhile Char.isDigit
    if places.isEmpty then none
    else some (⟨valueOf (whole ++ places), places.length⟩, tail.dropWhile Char.isDigit)
  | _ => if whole.isEmpty then none else some (⟨valueOf whole, 0⟩, rest)

/-- Reads what stands between two components: a comma with blanks around it, or blanks alone. -/
def separator? (text : Text) : Option Text :=
  match text.dropWhile Text.isBlank with
  | ',' :: rest => some (rest.dropWhile Text.isBlank)
  | rest => if rest.length < text.length then some rest else none

/-- Reads the opacity that may end a color, after a comma or a slash. -/
def opacity (text : Text) : Option Component × Text :=
  match text.dropWhile Text.isBlank with
  | [] => (none, text)
  | c :: rest =>
    if c = ',' || c = '/' then
      match decimal? (rest.dropWhile Text.isBlank) with
      | some (number, after) =>
        let (percent, after) := percent after
        (some { number, percent }, after)
      | none => (none, text)
    else (none, text)

/-- Whether nothing but blanks and a closing parenthesis is left. -/
def isClosed (text : Text) : Bool :=
  text.dropWhile Text.isBlank = [')']

/-- Reads the last two of three components, the opacity and the end of a color. -/
def tail? (text : Text) : Option (Component × Component × Option Component) := do
  let text ← separator? text
  let (second, text) ← channel? text
  let text ← separator? text
  let (third, text) ← channel? text
  let (alpha, text) := opacity text
  guard (isClosed text)
  return (second, third, alpha)

/-- Reads the name of a color function, which may end in an `a`, and its opening parenthesis. -/
def function? (name text : Text) : Option Text := do
  let text ← Text.dropLetters? name text
  return (← Text.dropFront? ['('] (Text.skipLetter 'a' text)).dropWhile Text.isBlank

/-- Whether an opacity that may be missing is in range. -/
def validOpacity (alpha : Option Component) : Bool :=
  alpha.all (·.inRange 1)

/-- Whether a text is a color in red, green and blue. -/
def isRgbColor (text : Text) : Bool :=
  let read := do
    let (first, rest) ← channel? (← function? "rgb".toList text)
    let (second, third, alpha) ← tail? rest
    return first.inRange 255 && second.inRange 255 && third.inRange 255 && validOpacity alpha
  read.getD false

/-- What follows the unit of an angle, which may be missing. -/
def dropUnit (text : Text) : Text :=
  (["deg", "rad", "turn", "grad"].findSome? fun unit =>
    Text.dropLetters? unit.toList text).getD text

/-- What follows the sign of an angle, which may be missing. -/
def dropSign (text : Text) : Text :=
  match text with
  | '-' :: rest => rest
  | '+' :: rest => rest
  | _ => text

/-- Whether a text is a color in hue, saturation and lightness. Any hue is in range. -/
def isHslColor (text : Text) : Bool :=
  let read := do
    let (_, rest) ← decimal? (dropSign (← function? "hsl".toList text))
    let (second, third, alpha) ← tail? (dropUnit rest)
    return second.percent && second.inRange 100 && third.percent && third.inRange 100
      && validOpacity alpha
  read.getD false

/-- Whether a text, apart from blanks around it, is a color. -/
def isColor (text : Text) : Bool :=
  let candidate := Text.trim text
  isHexColor candidate || isRgbColor candidate || isHslColor candidate

/-- The attribute by which a swatch is known. -/
def wrapperName : Text := "data-color-swatch-wrapper".toList

/-- The swatch for a color. -/
def swatch (color : Text) : Html :=
  let inner : Tag :=
    { name := "span".toList
      classes := ["block".toList, "w-full".toList, "h-full".toList, "rounded-sm".toList]
      attributes :=
        [ ("data-color-swatch".toList, "true".toList),
          ("style".toList, "background-color: ".toList ++ color ++ [';']) ] }
  let outer : Tag :=
    { name := "span".toList
      classes :=
        [ "inline-flex".toList, "items-center".toList, "justify-center".toList, "w-3".toList,
          "h-3".toList, "p-px".toList, "rounded-sm".toList, "bg-text-offset".toList,
          "border".toList, "border-border".toList, "align-middle".toList, "ml-1".toList ]
      attributes :=
        [ (wrapperName, "true".toList), ("aria-hidden".toList, "true".toList),
          ("title".toList, color) ] }
  .element outer [.element inner []]

/-- The text of siblings that are all texts. -/
def textOnly? : List Html → Option Text
  | [] => some []
  | .text value :: rest => (textOnly? rest).map (value ++ ·)
  | _ => none

/-- The children of a piece of inline code, with a swatch at the end if they spell a color. -/
def withSwatch (children : List Html) : List Html :=
  match textOnly? children with
  | none => children
  | some text => if isColor text then children ++ [swatch (Text.trim text)] else children

mutual

/-- Adds swatches to a node and below it. `inPre` tells whether the parent is preformatted. -/
def swatchNode (inPre : Bool) : Html → Html
  | .element tag children =>
    let swatched := swatchList (tag.name = "pre".toList) children
    .element tag (if tag.name = "code".toList && !inPre then withSwatch swatched else swatched)
  | node => node

/-- Adds swatches to a list of siblings and below them. -/
def swatchList (inPre : Bool) : List Html → List Html
  | [] => []
  | node :: rest => swatchNode inPre node :: swatchList inPre rest

end

/-- Adds swatches to a tree. -/
def swatchTree : Html → Html
  | .root children => .root (swatchList false children)
  | node => swatchNode false node

end Manuscript.ColorSwatch
