import Manuscript.Html.BackReferenceTitle
import Manuscript.Proofs.Text.Search
import Mathlib.Data.List.Basic

/-!
# Filling a template

A template is a row of parts: places for values, each a dollar sign with all of the name after it,
and characters that stay (`Cut`). The row is read off the template alone, and filling the template
puts values at its places (`Cut.fill_eq`), so what a value holds is not read again. The names that a
template uses are those of its places (`Cut.mem_names_iff`). With a value for one name, a template
that does not use the name stays, and any other one tells the values apart
(`uses_agrees_with_render`). So the titles of back-references tell the footnotes apart
(`title_injective`).
-/

namespace Manuscript

namespace Template

/-! ## Parts -/

/-- A part of a template. -/
inductive Part
  /-- A character that stays. -/
  | plain (c : Char)
  /-- A place for the value of a name. -/
  | place (name : Text)
deriving DecidableEq, Repr

namespace Part

/-- A part as it stands in the template. -/
def written : Part → Text
  | plain c => [c]
  | place name => '$' :: name

/-- A part with a value at its place, if its name has one. -/
def filled (bindings : List (Text × Text)) : Part → Text
  | plain c => [c]
  | place name => (value? bindings name).getD ('$' :: name)

end Part

/-- A text is a row of parts. A dollar sign with a name after it is a place, which takes in all of
the name; every other character stays, and so does a dollar sign with no name after it. -/
inductive Cut : Text → List Part → Prop
  | nil : Cut [] []
  | plain {c : Char} {rest : Text} {parts : List Part}
      (stays : c = '$' → ∀ d ∈ rest.head?, isNameChar d = false) (later : Cut rest parts) :
      Cut (c :: rest) (.plain c :: parts)
  | place {name after : Text} {parts : List Part} (nonempty : name ≠ [])
      (inside : ∀ d ∈ name, isNameChar d = true) (ends : ∀ d ∈ after.head?, isNameChar d = false)
      (later : Cut after parts) : Cut ('$' :: (name ++ after)) (.place name :: parts)

/-- A text begins with a name, which may be empty, and no character of names follows it. -/
theorem exists_name (text : Text) :
    ∃ name after, text = name ++ after ∧ (∀ d ∈ name, isNameChar d = true) ∧
      ∀ d ∈ after.head?, isNameChar d = false := by
  refine ⟨nameAt text, text.dropWhile isNameChar, List.takeWhile_append_dropWhile.symm,
    List.all_eq_true.1 List.all_takeWhile, fun d first => ?_⟩
  have := List.head?_dropWhile_not isNameChar text
  rw [Option.mem_def.1 first] at this
  simpa using this

/-- A text that begins with no character of names begins with an empty name. -/
theorem nameAt_eq_nil {text : Text} (ends : ∀ d ∈ text.head?, isNameChar d = false) :
    nameAt text = [] ∧ text.dropWhile isNameChar = text := by
  cases text with
  | nil => exact ⟨rfl, rfl⟩
  | cons c rest => simp [nameAt, ends c rfl]

/-- Every text is a row of parts. -/
theorem exists_cut : ∀ text, ∃ parts, Cut text parts
  | [] => ⟨[], .nil⟩
  | c :: rest => by
    obtain ⟨name, after, whole, inside, ends⟩ := exists_name rest
    by_cases opens : c = '$' ∧ name ≠ []
    · obtain ⟨rfl, nonempty⟩ := opens
      have shorter : after.length < ('$' :: rest).length := by
        rw [whole, List.length_cons, List.length_append]
        omega
      obtain ⟨parts, later⟩ := exists_cut after
      exact ⟨.place name :: parts, whole ▸ Cut.place nonempty inside ends later⟩
    · obtain ⟨parts, later⟩ := exists_cut rest
      refine ⟨.plain c :: parts, Cut.plain (fun sign => ?_) later⟩
      have none : name = [] := not_not.1 fun nonempty => opens ⟨sign, nonempty⟩
      rw [none, List.nil_append] at whole
      rwa [whole]
termination_by text => text.length

/-- A character other than a dollar sign opens no name. -/
theorem names_cons_of_ne {c : Char} (other : c ≠ '$') (rest : Text) :
    names (c :: rest) = names rest := by
  rw [names]
  exact other

/-- A name opens no other name. -/
theorem names_append {front : Text} (inside : ∀ d ∈ front, isNameChar d = true) (rest : Text) :
    names (front ++ rest) = names rest := by
  induction front with
  | nil => rfl
  | cons c front ih =>
    obtain ⟨first, later⟩ := List.forall_mem_cons.1 inside
    have other : c ≠ '$' := by
      rintro rfl
      revert first
      decide
    rw [List.cons_append, names_cons_of_ne other, ih later]

namespace Cut

variable {text : Text} {parts : List Part}

/-- A row of parts is written as the text. -/
theorem written_eq (cut : Cut text parts) : parts.flatMap Part.written = text := by
  induction cut with
  | nil => rfl
  | plain _ _ ih => rw [List.flatMap_cons, ih]; rfl
  | place _ _ _ _ ih => rw [List.flatMap_cons, ih]; rfl

/-- A text is filled by filling its parts. -/
theorem fill_eq (cut : Cut text parts) (bindings : List (Text × Text)) :
    fill bindings text = parts.flatMap (Part.filled bindings) := by
  induction cut with
  | nil => rw [fill]; rfl
  | @plain c rest parts stays _ ih =>
    rw [List.flatMap_cons, ← ih, fill]
    split
    · rename_i sign
      obtain ⟨none, all⟩ := nameAt_eq_nil (stays sign)
      rw [none, all, sign]
      rfl
    · rfl
  | @place name after parts nonempty inside ends _ ih =>
    obtain ⟨taken, dropped⟩ := Text.span_append inside ends
    rw [List.flatMap_cons, ← ih, fill, if_pos rfl, nameAt, taken, dropped, expand,
      if_neg (by rwa [List.isEmpty_iff])]
    rfl

/-- The names that a text uses are those of its places. -/
theorem mem_names_iff (cut : Cut text parts) {name : Text} (nonempty : name ≠ []) :
    name ∈ names text ↔ .place name ∈ parts := by
  induction cut with
  | nil => exact iff_of_false List.not_mem_nil List.not_mem_nil
  | @plain c rest parts stays _ ih =>
    have other : Part.place name ≠ .plain c := nofun
    rw [List.mem_cons, or_iff_right other, ← ih]
    by_cases sign : c = '$'
    · subst sign
      rw [names, List.mem_cons, (nameAt_eq_nil (stays rfl)).1, or_iff_right nonempty]
    · rw [names_cons_of_ne sign]
  | @place first after parts _ inside ends _ ih =>
    have same : Part.place name = .place first ↔ name = first :=
      ⟨fun same => Part.place.inj same, congrArg _⟩
    rw [names, nameAt, (Text.span_append inside ends).1, List.mem_cons, List.mem_cons,
      same, names_append inside, ih]

end Cut

/-! ## Values for one name -/

/-- The last binding counts, and only for its name. -/
theorem value?_append (earlier : List (Text × Text)) (name value other : Text) :
    value? (earlier ++ [(name, value)]) other =
      if other = name then some value else value? earlier other := by
  rw [value?, List.reverse_append, List.reverse_singleton, List.singleton_append, List.lookup_cons]
  by_cases same : other = name
  · rw [if_pos same, beq_iff_eq.2 same]
  · rw [if_neg same, beq_false_of_ne same]
    rfl

/-- A place of the name becomes the value. -/
theorem filled_place (earlier : List (Text × Text)) (name value : Text) :
    (Part.place name).filled (earlier ++ [(name, value)]) = value := by
  rw [Part.filled, value?_append, if_pos rfl]
  rfl

section OneName

variable {name : Text} {earlier : List (Text × Text)}
  (only : ∀ binding ∈ earlier, binding.1 = name)

include only

/-- Other names have no value. -/
theorem value?_eq_none {other : Text} (different : other ≠ name) : value? earlier other = none := by
  rw [value?, List.lookup_eq_none_iff]
  intro binding member
  rw [only binding (List.mem_reverse.1 member)]
  exact bne_iff_ne.2 different

/-- A part that is no place of the name stays. -/
theorem filled_of_ne {part : Part} (other : part ≠ .place name) (value : Text) :
    part.filled (earlier ++ [(name, value)]) = part.written := by
  cases part with
  | plain c => rfl
  | place first =>
    have different : first ≠ name := fun same => other (same ▸ rfl)
    rw [Part.filled, value?_append, if_neg different, value?_eq_none only different]
    rfl

/-- A row without a place of the name stays. -/
theorem flatMap_filled_of_notMem {parts : List Part} (absent : .place name ∉ parts) (value : Text) :
    parts.flatMap (Part.filled (earlier ++ [(name, value)])) = parts.flatMap Part.written :=
  List.flatMap_congr fun _ member => filled_of_ne only (fun same => absent (same ▸ member)) value

/-- A filled row is as long as the value at each of its places and its other parts. -/
theorem length_flatMap_filled (parts : List Part) (value : Text) :
    (parts.flatMap (Part.filled (earlier ++ [(name, value)]))).length =
      parts.count (.place name) * value.length +
        ((parts.filter (· ≠ .place name)).flatMap Part.written).length := by
  induction parts with
  | nil => simp
  | cons part parts ih =>
    by_cases own : part = .place name
    · subst own
      simp only [List.flatMap_cons, List.length_append, ih, filled_place, List.count_cons_self,
        Nat.add_mul, Nat.one_mul, ne_eq, not_true_eq_false, decide_false, List.filter_cons,
        Bool.false_eq_true, if_false]
      omega
    · simp only [List.flatMap_cons, List.length_append, ih, filled_of_ne only own, own,
        List.filter_cons, List.count_cons_of_ne own, ne_eq, not_false_eq_true, decide_true, if_true]
      omega

/-- A row with a place of the name tells values of one length apart. -/
theorem eq_of_flatMap_filled_eq {parts : List Part} (used : .place name ∈ parts)
    {value other : Text} (size : value.length = other.length)
    (same : parts.flatMap (Part.filled (earlier ++ [(name, value)])) =
      parts.flatMap (Part.filled (earlier ++ [(name, other)]))) : value = other := by
  induction parts with
  | nil => cases used
  | cons part parts ih =>
    rw [List.flatMap_cons, List.flatMap_cons] at same
    by_cases own : part = .place name
    · subst own
      rw [filled_place, filled_place] at same
      exact (List.append_inj same size).1
    · rw [filled_of_ne only own, filled_of_ne only own] at same
      have later := (List.mem_cons.1 used).resolve_left (Ne.symm own)
      exact ih later (List.append_cancel_left same)

/-- A template that does not use a name stays with any value for it. -/
theorem render_of_not_uses {template : Template} (nonempty : name ≠ [])
    (unused : template.uses name = false) (value : Text) :
    template.render (earlier ++ [(name, value)]) = template.source := by
  obtain ⟨parts, cut⟩ := exists_cut template.source
  have absent : .place name ∉ parts := by
    rw [← cut.mem_names_iff nonempty, ← List.contains_iff_mem, ← uses, unused]
    exact Bool.false_ne_true
  rw [render, cut.fill_eq, flatMap_filled_of_notMem only absent, cut.written_eq]

/-- A template that uses a name tells all its values apart. Their lengths are told apart by the
length of the whole, and values of one length at the first place. -/
theorem render_injective {template : Template} (nonempty : name ≠ [])
    (used : template.uses name = true) :
    Function.Injective fun value => template.render (earlier ++ [(name, value)]) := by
  obtain ⟨parts, cut⟩ := exists_cut template.source
  rw [uses, List.contains_iff_mem, cut.mem_names_iff nonempty] at used
  intro value other same
  simp only [render, cut.fill_eq] at same
  have sizes := congrArg List.length same
  rw [length_flatMap_filled only, length_flatMap_filled only, Nat.add_right_cancel_iff] at sizes
  have size := Nat.eq_of_mul_eq_mul_left (List.count_pos_iff.2 used) sizes
  exact eq_of_flatMap_filled_eq only used size same

end OneName

/-- With values for one name only, of which the last one counts, a template stays exactly if it does
not use the name, and tells the values apart exactly if it does. It is one row of parts for all
values of all names, so nothing in a value is read again. -/
theorem uses_agrees_with_render (template : Template) :
    (∀ name ≠ [], ∀ earlier : List (Text × Text), (∀ binding ∈ earlier, binding.1 = name) →
      (template.uses name = false ↔
        ∀ value, template.render (earlier ++ [(name, value)]) = template.source) ∧
      (template.uses name = true ↔
        Function.Injective fun value => template.render (earlier ++ [(name, value)]))) ∧
    ∃ parts, Cut template.source parts ∧
      ∀ bindings, template.render bindings = parts.flatMap (Part.filled bindings) := by
  refine ⟨fun name nonempty earlier only => ?_, ?_⟩
  · -- No function is both constant and injective.
    have apart (stays : ∀ value, template.render (earlier ++ [(name, value)]) = template.source)
        (injective : Function.Injective fun value =>
          template.render (earlier ++ [(name, value)])) : False := by
      have same : ([] : Text) = ['$'] := injective ((stays []).trans (stays ['$']).symm)
      cases same
    refine ⟨⟨render_of_not_uses only nonempty, fun stays => ?_⟩, render_injective only nonempty,
      fun injective => ?_⟩
    · exact Bool.eq_false_iff.2 fun used => apart stays (render_injective only nonempty used)
    · by_contra unused
      exact apart (render_of_not_uses only nonempty (Bool.eq_false_iff.2 unused)) injective
  · obtain ⟨parts, cut⟩ := exists_cut template.source
    exact ⟨parts, cut, cut.fill_eq⟩

/-- This template uses `id` beside a longer name and dollar signs without names, but not `i`. -/
theorem uses_agrees_with_render_id :
    let template : Template := ⟨"$$idx-$id$id$ $".toList⟩
    "id".toList ≠ [] ∧ template.uses "id".toList = true ∧
      Function.Injective (fun value => template.render [("id".toList, value)]) ∧
      "i".toList ≠ [] ∧ template.uses "i".toList = false ∧
      template.render [("i".toList, ['1']), ("i".toList, "$id".toList)] = template.source :=
  have nonempty : "id".toList ≠ [] := by decide
  have nonempty' : "i".toList ≠ [] := by decide
  have used : uses ⟨"$$idx-$id$id$ $".toList⟩ "id".toList = true := by decide
  have unused : uses ⟨"$$idx-$id$id$ $".toList⟩ "i".toList = false := by decide
  ⟨nonempty, used, ((uses_agrees_with_render _).1 _ nonempty [] nofun).2.1 used, nonempty', unused,
    ((uses_agrees_with_render _).1 _ nonempty' [("i".toList, ['1'])] (by decide)).1.1 unused _⟩

end Template

namespace BackReferenceTitle

/-- Back-references to different footnotes have different titles, whatever the template is. -/
theorem title_injective (template : Template) : Function.Injective (title template) := by
  intro id other same
  rw [title, title] at same
  split at same
  · rename_i used
    have injective : Function.Injective fun id => template.render ([] ++ [("id".toList, id)]) :=
      Template.render_injective (List.forall_mem_nil _) (by decide) used
    exact injective same
  · exact same

end BackReferenceTitle

end Manuscript
