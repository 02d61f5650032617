import Manuscript.Proofs.Html.Safety

/-!
# Classes and attributes of a tag

What a tag has already is not added again: adding classes twice is adding them once
(`addClasses_addClasses`), and setting an attribute to the value that it has changes nothing.
Classes and attributes do not depend on each other (`addClasses_setAttribute`).
-/

namespace Manuscript

/-- Setting a name to the value that it has changes nothing. -/
theorem Pairs.set_of_get? {name value : Text} {pairs : List (Text × Text)}
    (found : Pairs.get? name pairs = some value) : Pairs.set name value pairs = pairs := by
  induction pairs with
  | nil => cases found
  | cons pair rest ih =>
    obtain ⟨other, old⟩ := pair
    by_cases same : other = name
    · rw [Pairs.get?, if_pos same] at found
      rw [Pairs.set, if_pos same, Option.some.inj found]
    · rw [Pairs.get?, if_neg same] at found
      rw [Pairs.set, if_neg same, ih found]

namespace Tag

/-! ## Attributes -/

/-- Setting an attribute to the value that it has changes nothing. -/
theorem setAttribute_of_attribute? {tag : Tag} {name value : Text}
    (found : tag.attribute? name = some value) : tag.setAttribute name value = tag := by
  rw [setAttribute, Pairs.set_of_get? found]

/-- Setting an attribute keeps the name. -/
@[simp] theorem name_setAttribute (name value : Text) (tag : Tag) :
    (tag.setAttribute name value).name = tag.name :=
  rfl

/-- Setting an attribute keeps the classes. -/
@[simp] theorem hasClass_setAttribute (name value other : Text) (tag : Tag) :
    (tag.setAttribute name value).hasClass other = tag.hasClass other :=
  rfl

/-! ## Classes -/

/-- Adding classes keeps the name. -/
@[simp] theorem name_addClasses (names : List Text) (tag : Tag) :
    (tag.addClasses names).name = tag.name :=
  (addClasses_same names tag).1

/-- Adding classes keeps the value of every attribute. -/
@[simp] theorem attribute?_addClasses (names : List Text) (tag : Tag) (name : Text) :
    (tag.addClasses names).attribute? name = tag.attribute? name := by
  rw [attribute?, (addClasses_same names tag).2, attribute?]

/-- Adding classes adds no attribute. -/
@[simp] theorem hasAttribute_addClasses (names : List Text) (tag : Tag) (name : Text) :
    (tag.addClasses names).hasAttribute name = tag.hasAttribute name := by
  rw [hasAttribute, attribute?_addClasses, hasAttribute]

/-- A class that is there stays, and one that is added is there afterwards. -/
theorem hasClass_addClass {tag : Tag} {name other : Text} (nonempty : other ≠ []) :
    (tag.addClass name).hasClass other = (tag.hasClass other || decide (other = name)) := by
  rw [addClass]
  split
  · rename_i settled
    by_cases same : other = name
    · subst same
      simp_all
    · simp [same]
  · simp [hasClass]

/-- A tag has the classes that it had and those that are added. -/
theorem hasClass_addClasses {tag : Tag} {names : List Text} {other : Text} (nonempty : other ≠ []) :
    (tag.addClasses names).hasClass other = (tag.hasClass other || decide (other ∈ names)) := by
  induction names generalizing tag with
  | nil => simp [addClasses]
  | cons name rest ih =>
    have step : (tag.addClasses (name :: rest)) = (tag.addClass name).addClasses rest := rfl
    rw [step, ih, hasClass_addClass nonempty, Bool.or_assoc, ← Bool.decide_or]
    simp only [List.mem_cons]

/-- Other classes than those that are added stay there or away. -/
theorem hasClass_addClasses_of_not_mem {tag : Tag} {names : List Text} {other : Text}
    (nonempty : other ≠ []) (absent : other ∉ names) :
    (tag.addClasses names).hasClass other = tag.hasClass other := by
  rw [hasClass_addClasses nonempty, decide_eq_false absent, Bool.or_false]

/-- Classes that are all there already are not added again. -/
theorem addClasses_of_hasClass {tag : Tag} {names : List Text}
    (present : ∀ name ∈ names, name ≠ [] → tag.hasClass name = true) :
    tag.addClasses names = tag := by
  induction names with
  | nil => rfl
  | cons name rest ih =>
    obtain ⟨first, others⟩ := List.forall_mem_cons.1 present
    have settled : (name.isEmpty || tag.hasClass name) = true := by
      cases name with
      | nil => rfl
      | cons c tail => exact first (List.cons_ne_nil c tail)
    have step : (tag.addClasses (name :: rest)) = (tag.addClass name).addClasses rest := rfl
    rw [step, addClass, if_pos settled, ih others]

/-- Adding classes twice is adding them once. -/
theorem addClasses_addClasses (names : List Text) (tag : Tag) :
    (tag.addClasses names).addClasses names = tag.addClasses names := by
  refine addClasses_of_hasClass fun name member nonempty => ?_
  rw [hasClass_addClasses nonempty, decide_eq_true member, Bool.or_true]

/-- Adding classes leaves the attributes as they are, whatever they are. -/
theorem addClasses_mk (names : List Text) (tag : Tag) (attributes : List (Text × Text)) :
    addClasses names { tag with attributes } = { tag.addClasses names with attributes } := by
  induction names generalizing tag with
  | nil => rfl
  | cons name rest ih =>
    have own : addClass { tag with attributes } name = { tag.addClass name with attributes } := by
      have same : hasClass { tag with attributes } name = tag.hasClass name := rfl
      by_cases settled : (name.isEmpty || tag.hasClass name) = true
      · simp only [addClass, same, if_pos settled]
      · simp only [addClass, same, if_neg settled]
    have step : ∀ tag : Tag, tag.addClasses (name :: rest) = (tag.addClass name).addClasses rest :=
      fun _ => rfl
    rw [step, step, own, ih]

/-- Adding classes and setting an attribute can be done in either order. -/
theorem addClasses_setAttribute (names : List Text) (name value : Text) (tag : Tag) :
    (tag.setAttribute name value).addClasses names =
      (tag.addClasses names).setAttribute name value := by
  rw [setAttribute, setAttribute, addClasses_mk, (addClasses_same names tag).2]

end Tag

end Manuscript
