import Manuscript.Text.Blank

/-!
# Counting words

How many words a text has can be counted as it is read: a word begins at a character that is not
white space, unless one goes on from before (`length_words`). Two texts of the same words can take
each other's place anywhere (`SameWords`), as two gaps can, and two texts without gaps.
-/

namespace Manuscript.Text

/-- Number of words that begin in a text, where `inside` says whether one goes on from before it. -/
def wordStarts (inside : Bool) : Text → Nat
  | [] => 0
  | c :: rest => (if !inside && !isBlank c then 1 else 0) + wordStarts (!isBlank c) rest

/-- Whether a word goes on behind a text, where `inside` says whether one goes on from before it. -/
def endsInside (inside : Bool) : Text → Bool
  | [] => inside
  | c :: rest => endsInside (!isBlank c) rest

/-- The words of a text are those that begin in it and the one that is being read. -/
theorem length_wordsFrom (current text : Text) :
    (wordsFrom current text).length =
      (if current.isEmpty then 0 else 1) + wordStarts (!current.isEmpty) text := by
  induction text generalizing current with
  | nil =>
    rw [wordsFrom, wordStarts]
    split <;> rfl
  | cons c rest ih =>
    rw [wordsFrom, wordStarts]
    cases isBlank c with
    | true => cases current <;> simp [ih, Nat.add_comm]
    | false => cases current <;> simp [ih]

/-- The number of words is that of the places where one begins. -/
theorem length_words (text : Text) : (words text).length = wordStarts false text := by
  rw [words, length_wordsFrom]
  exact Nat.zero_add _

/-- Words start in the first text or in the second, unless one goes on there. -/
theorem wordStarts_append (inside : Bool) (front back : Text) :
    wordStarts inside (front ++ back) =
      wordStarts inside front + wordStarts (endsInside inside front) back := by
  induction front generalizing inside with
  | nil => exact (Nat.zero_add _).symm
  | cons c rest ih => rw [List.cons_append, wordStarts, wordStarts, endsInside, ih, Nat.add_assoc]

/-- Whether two texts end inside a word is told by the second, begun with the first. -/
theorem endsInside_append (inside : Bool) (front back : Text) :
    endsInside inside (front ++ back) = endsInside (endsInside inside front) back := by
  induction front generalizing inside with
  | nil => rfl
  | cons c rest ih => exact ih (!isBlank c)

/-- In two texts as many words begin, and a word goes on behind both or behind none of them,
whatever stands before. -/
structure SameWords (text other : Text) : Prop where
  starts : ∀ inside, wordStarts inside text = wordStarts inside other
  ends : ∀ inside, endsInside inside text = endsInside inside other

namespace SameWords

variable {text other front back : Text}

/-- A text has the same words as itself. -/
theorem refl (text : Text) : SameWords text text :=
  ⟨fun _ => rfl, fun _ => rfl⟩

/-- Equal texts have the same words. -/
theorem of_eq (same : text = other) : SameWords text other :=
  same ▸ refl text

/-- Texts with the same words as a third have the same words. -/
theorem trans {third : Text} (first : SameWords text other) (second : SameWords other third) :
    SameWords text third :=
  ⟨fun inside => (first.starts inside).trans (second.starts inside),
    fun inside => (first.ends inside).trans (second.ends inside)⟩

/-- Parts can be exchanged. -/
theorem append (first : SameWords text other) (later : SameWords front back) :
    SameWords (text ++ front) (other ++ back) where
  starts inside := by
    rw [wordStarts_append, wordStarts_append, first.starts, first.ends, later.starts]
  ends inside := by rw [endsInside_append, endsInside_append, first.ends, later.ends]

/-- Two texts that are read with one result have the same words. -/
theorem of_scan {count : Bool → Nat} {last : Bool}
    (first : ∀ inside, wordStarts inside text = count inside ∧ endsInside inside text = last)
    (second : ∀ inside, wordStarts inside other = count inside ∧ endsInside inside other = last) :
    SameWords text other where
  starts inside := (first inside).1.trans (second inside).1.symm
  ends inside := (first inside).2.trans (second inside).2.symm

/-- Texts with the same words have equally many. -/
theorem length_words_eq (same : SameWords text other) :
    (words text).length = (words other).length := by
  rw [length_words, length_words, same.starts]

end SameWords

/-- In a gap no word begins, and none goes on behind it. -/
theorem scan_of_isBlankText {text : Text} (nonempty : text ≠ []) (blank : isBlankText text = true)
    (inside : Bool) : wordStarts inside text = 0 ∧ endsInside inside text = false := by
  induction text generalizing inside with
  | nil => exact absurd rfl nonempty
  | cons c rest ih =>
    obtain ⟨first, others⟩ := Bool.and_eq_true_iff.1 blank
    cases rest with
    | nil => simp [wordStarts, endsInside, first]
    | cons next more =>
      obtain ⟨starts, ends⟩ := ih (List.cons_ne_nil next more) others false
      rw [wordStarts, endsInside, first]
      exact ⟨by simp [starts], ends⟩

/-- In a text without gaps a word begins if none goes on from before, and it goes on behind. -/
theorem scan_of_solid {text : Text} (nonempty : text ≠ []) (solid : ∀ c ∈ text, isBlank c = false)
    (inside : Bool) :
    wordStarts inside text = (if inside then 0 else 1) ∧ endsInside inside text = true := by
  induction text generalizing inside with
  | nil => exact absurd rfl nonempty
  | cons c rest ih =>
    obtain ⟨first, others⟩ := List.forall_mem_cons.1 solid
    cases rest with
    | nil => cases inside <;> simp [wordStarts, endsInside, first]
    | cons next more =>
      obtain ⟨starts, ends⟩ := ih (List.cons_ne_nil next more) others true
      rw [wordStarts, endsInside, first]
      exact ⟨by cases inside <;> simp [starts], ends⟩

/-- Any two gaps can take each other's place. -/
theorem sameWords_of_isBlankText {gap other : Text} (nonempty : gap ≠ [])
    (blank : isBlankText gap = true) (nonempty' : other ≠ []) (blank' : isBlankText other = true) :
    SameWords gap other :=
  .of_scan (scan_of_isBlankText nonempty blank) (scan_of_isBlankText nonempty' blank')

/-- Any two texts without gaps can take each other's place. -/
theorem sameWords_of_solid {text other : Text} (nonempty : text ≠ [])
    (solid : ∀ c ∈ text, isBlank c = false) (nonempty' : other ≠ [])
    (solid' : ∀ c ∈ other, isBlank c = false) : SameWords text other :=
  .of_scan (scan_of_solid nonempty solid) (scan_of_solid nonempty' solid')

end Manuscript.Text
