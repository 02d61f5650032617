import Manuscript.Text.Basic

/-!
# Values

What a configuration text says, before it is known what the values are for. The formats differ in
how much of the type of a value they settle: a scalar without quotes may be left open, and then
takes the type that the setting asks for.
-/

namespace Manuscript

/-- A value in a configuration text. -/
inductive Value where
  | null
  | bool (value : Bool)
  | integer (value : Int)
  /-- A value that no setting takes, such as a fraction or a date. -/
  | other
  | string (value : Text)
  /-- A scalar whose type is open. -/
  | plain (value : Text)
  | list (items : List Value)
  | record (entries : List (Text × Value))
deriving BEq, Inhabited

namespace Value

/-- The value of a digit in bases up to sixteen. -/
def digit? (base : Nat) (c : Char) : Option Nat :=
  let value :=
    if '0' ≤ c ∧ c ≤ '9' then c.toNat - '0'.toNat
    else if 'a' ≤ c ∧ c ≤ 'f' then c.toNat - 'a'.toNat + 10
    else if 'A' ≤ c ∧ c ≤ 'F' then c.toNat - 'A'.toNat + 10
    else base
  if value < base then some value else none

/-- The number that digits stand for. There has to be at least one digit. -/
def natOfDigits? (base : Nat) (digits : Text) : Option Nat :=
  if digits.isEmpty then none
  else digits.foldlM (fun value c => (digit? base c).map (base * value + ·)) 0

/-- The natural number that an open scalar can stand for: with a base mark, or in decimal without a
leading zero. -/
def plainNat? (text : Text) : Option Nat :=
  let unsigned := match text with
    | '+' :: rest => rest
    | _ => text
  match unsigned with
  | '0' :: 'x' :: rest => natOfDigits? 16 rest
  | '0' :: 'o' :: rest => natOfDigits? 8 rest
  | '0' :: 'b' :: rest => natOfDigits? 2 rest
  | '0' :: _ :: _ => none
  | digits => natOfDigits? 10 digits

/-- The truth value that an open scalar can stand for. -/
def plainBool? (text : Text) : Option Bool :=
  if ["true", "True", "TRUE"].any (·.toList = text) then some true
  else if ["false", "False", "FALSE"].any (·.toList = text) then some false
  else none

/-- A value as a text. -/
def text? : Value → Option Text
  | string value => some value
  | plain value => some value
  | _ => none

/-- A value as a truth value. -/
def bool? : Value → Option Bool
  | bool value => some value
  | plain value => plainBool? value
  | _ => none

/-- A value as a natural number that is at most `bound`. -/
def nat? (bound : Nat) (value : Value) : Option Nat :=
  let number := match value with
    | integer value => if 0 ≤ value then some value.toNat else none
    | plain value => plainNat? value
    | _ => none
  number.filter (· ≤ bound)

/-- A value as a list. An open scalar that says nothing is an empty list. -/
def list? : Value → Option (List Value)
  | list items => some items
  | plain [] => some []
  | _ => none

end Value

end Manuscript
