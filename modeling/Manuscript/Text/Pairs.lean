import Manuscript.Text.Basic

/-!
# Lists of named values

Attributes are lists of names with values, in the order in which the names were first set.
-/

namespace Manuscript.Pairs

/-- Sets the value of a name, in place if the name is there and at the end if it is not. -/
def set (name value : Text) : List (Text × Text) → List (Text × Text)
  | [] => [(name, value)]
  | (other, old) :: rest =>
    if other = name then (other, value) :: rest else (other, old) :: set name value rest

/-- Sets the values of several names, one after the other. -/
def setAll (values pairs : List (Text × Text)) : List (Text × Text) :=
  values.foldl (fun pairs (name, value) => set name value pairs) pairs

/-- The value of the first pair with a name. -/
def get? (name : Text) : List (Text × Text) → Option Text
  | [] => none
  | (other, value) :: rest => if other = name then some value else get? name rest

/-- A value that is set is found. -/
@[simp] theorem get?_set_self (name value : Text) (pairs : List (Text × Text)) :
    get? name (set name value pairs) = some value := by
  induction pairs with
  | nil => simp [set, get?]
  | cons pair rest ih =>
    obtain ⟨other, old⟩ := pair
    by_cases same : other = name <;> simp [set, get?, same, ih]

/-- Setting a value changes no other one. -/
theorem get?_set_of_ne {name other : Text} (different : name ≠ other) (value : Text)
    (pairs : List (Text × Text)) : get? other (set name value pairs) = get? other pairs := by
  induction pairs with
  | nil => simp [set, get?, different]
  | cons pair rest ih =>
    obtain ⟨first, old⟩ := pair
    by_cases same : first = name
    · subst same
      simp [set, get?, different]
    · rw [set, if_neg same, get?, get?, ih]

end Manuscript.Pairs
