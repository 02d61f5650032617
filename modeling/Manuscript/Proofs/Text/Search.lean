import Manuscript.Text.Basic
import Mathlib.Data.List.Infix

/-!
# Searching a text

The characters of a kind at the start of a text are read whole (`span_append`), and a text is cut in
one way at the first or the last place of a sign (`eq_of_cut`, `eq_of_cut_last`). A text is cut at
the first or at the last place of a needle. A given place is the first one exactly when the needle
does not begin before it (`splitFirst?_append_iff`), and the last one exactly when the needle does
not end behind it (`splitLast?_append_iff`).
-/

namespace Manuscript.Text

/-- The characters of a kind at the start of a text are read whole when what follows them begins
with none. -/
theorem span_append {kind : Char → Bool} {front rest : Text} (inside : ∀ c ∈ front, kind c = true)
    (stops : ∀ c ∈ rest.head?, kind c = false) :
    (front ++ rest).takeWhile kind = front ∧ (front ++ rest).dropWhile kind = rest := by
  rw [List.takeWhile_append_of_pos inside, List.dropWhile_append_of_pos inside]
  cases rest with
  | nil => simp
  | cons c rest => simp [stops c rfl]

/-- A sign cuts a text in one way only if it does not stand before the cut. -/
theorem eq_of_cut {sign : Char} {front front' rest rest' : Text} (absent : sign ∉ front)
    (absent' : sign ∉ front') (same : front ++ sign :: rest = front' ++ sign :: rest') :
    front = front' ∧ rest = rest' := by
  have read {front : Text} (absent : sign ∉ front) (rest : Text) :
      (front ++ sign :: rest).takeWhile (· ≠ sign) = front ∧
        (front ++ sign :: rest).dropWhile (· ≠ sign) = sign :: rest := by
    refine span_append (fun c member => ?_) ?_
    · exact decide_eq_true fun isSign => absent (isSign ▸ member)
    · rintro _ ⟨⟩
      exact decide_eq_false (not_not_intro rfl)
  obtain ⟨isFront, isRest⟩ := read absent rest
  obtain ⟨isFront', isRest'⟩ := read absent' rest'
  rw [same] at isFront isRest
  exact ⟨isFront.symm.trans isFront', (List.cons.inj (isRest.symm.trans isRest')).2⟩

/-- A sign cuts a text in one way only if it does not stand behind the cut. -/
theorem eq_of_cut_last {sign : Char} {front front' rest rest' : Text} (absent : sign ∉ rest)
    (absent' : sign ∉ rest') (same : front ++ sign :: rest = front' ++ sign :: rest') :
    front = front' ∧ rest = rest' := by
  have mirrored :
      rest.reverse ++ sign :: front.reverse = rest'.reverse ++ sign :: front'.reverse := by
    simpa using congrArg List.reverse same
  have reversed := eq_of_cut (fun member => absent (List.mem_reverse.1 member))
    (fun member => absent' (List.mem_reverse.1 member)) mirrored
  exact ⟨List.reverse_injective reversed.2, List.reverse_injective reversed.1⟩

/-- A text is cut at a place of a needle exactly when the needle does not begin before that place.
-/
theorem splitFirst?_append_iff {needle : Text} (nonempty : needle ≠ []) {before after : Text} :
    splitFirst? needle (before ++ (needle ++ after)) = some (before, after) ↔
      ¬ needle <:+: before ++ needle.dropLast := by
  have short : needle.dropLast.length < needle.length := by
    have := List.length_pos_iff.2 nonempty
    rw [List.length_dropLast]
    omega
  induction before with
  | nil =>
    have found : splitFirst? needle (needle ++ after) = some ([], after) := by
      obtain ⟨c, rest, rfl⟩ := List.exists_cons_of_ne_nil nonempty
      rw [List.cons_append, splitFirst?]
      have matched := dropFront?_eq_some_iff.2 (rfl : c :: rest ++ after = c :: rest ++ after)
      rw [List.cons_append] at matched
      rw [matched]
    refine iff_of_true found fun inside => ?_
    exact absurd inside.length_le (Nat.not_le.2 short)
  | cons c before ih =>
    rw [List.cons_append, splitFirst?, List.cons_append, List.infix_cons_iff, not_or]
    have front : c :: (before ++ needle.dropLast) <+: c :: (before ++ (needle ++ after)) := by
      rw [List.cons_prefix_cons, List.prefix_append_right_inj]
      exact ⟨rfl, (List.dropLast_prefix needle).trans (List.prefix_append needle after)⟩
    cases matched : dropFront? needle (c :: (before ++ (needle ++ after))) with
    | some rest =>
      -- A needle that begins before the place ends before the place does.
      refine iff_of_false (by simp) fun outside => outside.1 ?_
      have begins : needle <+: c :: (before ++ (needle ++ after)) :=
        ⟨rest, (dropFront?_eq_some_iff.1 matched).symm⟩
      refine List.prefix_of_prefix_length_le begins front ?_
      simp only [List.length_cons, List.length_append, List.length_dropLast]
      omega
    | none =>
      have absent : ¬ needle <+: c :: (before ++ needle.dropLast) := by
        intro begins
        obtain ⟨rest, whole⟩ := begins.trans front
        rw [dropFront?_eq_some_iff.2 whole.symm] at matched
        cases matched
      rw [and_iff_right absent]
      simpa using ih

/-- A text is cut at the last place of a needle exactly when the needle does not end behind that
place. -/
theorem splitLast?_append_iff {needle : Text} (nonempty : needle ≠ []) {before after : Text} :
    splitLast? needle (before ++ (needle ++ after)) = some (before, after) ↔
      ¬ needle <:+: needle.tail ++ after := by
  have reversed := @splitFirst?_append_iff needle.reverse (by simpa using nonempty) after.reverse
    before.reverse
  have same : after.reverse ++ needle.reverse.dropLast = (needle.tail ++ after).reverse := by
    simp
  rw [same, List.reverse_infix] at reversed
  have turned : (before ++ (needle ++ after)).reverse =
      after.reverse ++ (needle.reverse ++ before.reverse) := by
    simp
  rw [← reversed, splitLast?, turned, Option.map_eq_some_iff]
  constructor
  · rintro ⟨⟨back, front⟩, found, same⟩
    cases same
    simpa using found
  · intro found
    exact ⟨_, found, by simp⟩

/-- A text that is cut at the last place of a needle is the two parts with the needle between
them. -/
theorem eq_append_of_splitLast? {needle text before after : Text}
    (found : splitLast? needle text = some (before, after)) :
    text = before ++ (needle ++ after) := by
  rw [splitLast?, Option.map_eq_some_iff] at found
  obtain ⟨⟨back, front⟩, found, same⟩ := found
  cases same
  simpa using congrArg List.reverse (eq_append_of_splitFirst? found)

end Manuscript.Text
