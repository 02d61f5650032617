/-!
# Text

Text is the list of its characters, so every operation on it is recursion on a list. Offsets and
lengths that leave the library count the bytes of the UTF-8 form; this module holds that measure,
the cuts that are made by it, and the searches for one text inside another.
-/

namespace Manuscript

/-- A text is the list of its characters. -/
abbrev Text := List Char

namespace Text

/-- Number of bytes in the UTF-8 form of a text. -/
def byteLength : Text → Nat
  | [] => 0
  | c :: rest => c.utf8Size + byteLength rest

/-- Cuts a text after its first `count` bytes. There is no such cut when the text is shorter, or
when the cut would fall inside a character. -/
def splitAtByte? : Nat → Text → Option (Text × Text)
  | 0, text => some ([], text)
  | _ + 1, [] => none
  | count + 1, c :: rest =>
    if c.utf8Size ≤ count + 1 then
      (splitAtByte? (count + 1 - c.utf8Size) rest).map fun (front, back) => (c :: front, back)
    else none
termination_by _ text => text.length

/-- The lengths of two texts add up. -/
theorem byteLength_append (front back : Text) :
    byteLength (front ++ back) = byteLength front + byteLength back := by
  induction front with
  | nil => simp [byteLength]
  | cons c rest ih => simp [byteLength, ih, Nat.add_assoc]

/-- A text is cut after `count` bytes exactly when it is two parts of which the first has that
length. -/
theorem splitAtByte?_eq_some_iff {count : Nat} {text front back : Text} :
    splitAtByte? count text = some (front, back) ↔
      text = front ++ back ∧ byteLength front = count := by
  induction text generalizing count front with
  | nil =>
    cases count with
    | zero =>
      rw [splitAtByte?]
      constructor
      · intro found
        cases found
        exact ⟨rfl, rfl⟩
      · rintro ⟨whole, _⟩
        obtain ⟨rfl, rfl⟩ := List.nil_eq_append_iff.1 whole
        rfl
    | succ count =>
      rw [splitAtByte?]
      constructor
      · intro found
        cases found
      · rintro ⟨whole, size⟩
        obtain ⟨rfl, rfl⟩ := List.nil_eq_append_iff.1 whole
        cases size
  | cons c rest ih =>
    have positive := c.utf8Size_pos
    cases count with
    | zero =>
      rw [splitAtByte?]
      constructor
      · intro found
        cases found
        exact ⟨rfl, rfl⟩
      · rintro ⟨whole, size⟩
        cases front with
        | nil => rw [whole]; rfl
        | cons d tail =>
          have := d.utf8Size_pos
          rw [byteLength] at size
          omega
    | succ count =>
      rw [splitAtByte?]
      constructor
      · intro found
        split at found
        · simp only [Option.map_eq_some_iff, Prod.exists, Prod.mk.injEq] at found
          obtain ⟨tail, after, cut, rfl, rfl⟩ := found
          obtain ⟨rfl, size⟩ := ih.1 cut
          refine ⟨rfl, ?_⟩
          rw [byteLength, size]
          omega
        · cases found
      · rintro ⟨whole, size⟩
        cases front with
        | nil => cases size
        | cons d tail =>
          simp only [List.cons_append, List.cons.injEq] at whole
          obtain ⟨rfl, whole⟩ := whole
          rw [byteLength] at size
          rw [if_pos (by omega), ih.2 ⟨whole, by omega⟩]
          rfl

/-- The part of a text between two byte offsets, if both are character boundaries in order. -/
def slice? (text : Text) (start stop : Nat) : Option Text := do
  guard (start ≤ stop)
  let (_, tail) ← splitAtByte? start text
  let (front, _) ← splitAtByte? (stop - start) tail
  return front

/-- The character that begins at a byte offset. -/
def charAtByte? (text : Text) (offset : Nat) : Option Char := do
  let (_, tail) ← splitAtByte? offset text
  tail.head?

/-- The text that remains after a leading `front`. -/
def dropFront? : Text → Text → Option Text
  | [], text => some text
  | _ :: _, [] => none
  | a :: front, c :: rest => if a = c then dropFront? front rest else none

/-- The text that remains before a trailing `back`. -/
def dropBack? (back text : Text) : Option Text :=
  (dropFront? back.reverse text.reverse).map List.reverse

/-- A text has `front` at its start exactly when it is `front` with something after it. -/
theorem dropFront?_eq_some_iff {front text rest : Text} :
    dropFront? front text = some rest ↔ text = front ++ rest := by
  induction front generalizing text with
  | nil => simp [dropFront?]
  | cons a front ih =>
    cases text with
    | nil => simp [dropFront?]
    | cons c tail =>
      by_cases same : a = c
      · simp [dropFront?, same, ih]
      · simp only [dropFront?, same, if_false, List.cons_append, List.cons.injEq]
        constructor
        · intro impossible; cases impossible
        · rintro ⟨rfl, _⟩; exact absurd rfl same

/-- The text before and after the first place where `needle` occurs. -/
def splitFirst? (needle : Text) : Text → Option (Text × Text)
  | [] => if needle.isEmpty then some ([], []) else none
  | c :: rest =>
    match dropFront? needle (c :: rest) with
    | some after => some ([], after)
    | none => (splitFirst? needle rest).map fun (before, after) => (c :: before, after)

/-- A text that is cut at `needle` is the two parts with `needle` between them. -/
theorem eq_append_of_splitFirst? {needle text before after : Text}
    (found : splitFirst? needle text = some (before, after)) :
    text = before ++ needle ++ after := by
  induction text generalizing before with
  | nil =>
    rw [splitFirst?] at found
    cases needle with
    | nil =>
      simp only [List.isEmpty_nil, if_true, Option.some.injEq, Prod.mk.injEq] at found
      simp [← found.1, ← found.2]
    | cons => simp at found
  | cons c rest ih =>
    rw [splitFirst?] at found
    split at found
    · rename_i tail matched
      simp only [Option.some.injEq, Prod.mk.injEq] at found
      simp [dropFront?_eq_some_iff.1 matched, ← found.1, ← found.2]
    · simp only [Option.map_eq_some_iff, Prod.exists, Prod.mk.injEq] at found
      obtain ⟨front, back, inner, rfl, rfl⟩ := found
      simp [ih inner]

/-- What remains after a needle is shorter than the whole. -/
theorem length_after_lt {needle text before after : Text} (nonempty : needle ≠ [])
    (found : splitFirst? needle text = some (before, after)) : after.length < text.length := by
  have : 0 < needle.length := List.length_pos_iff.2 nonempty
  rw [eq_append_of_splitFirst? found]
  simp only [List.length_append]
  omega

/-- The text before and after the last place where `needle` occurs. -/
def splitLast? (needle text : Text) : Option (Text × Text) :=
  (splitFirst? needle.reverse text.reverse).map fun (after, before) =>
    (before.reverse, after.reverse)

/-- Whether `needle` occurs in a text. -/
def contains (needle text : Text) : Bool :=
  (splitFirst? needle text).isSome

/-- Whether a text begins with `front`. -/
def startsWith (front text : Text) : Bool :=
  front.isPrefixOf text

/-- Whether a text ends with `back`. -/
def endsWith (back text : Text) : Bool :=
  back.isSuffixOf text

/-- The pieces of a text between the occurrences of one character. -/
def splitOnChar (separator : Char) : Text → List Text
  | [] => [[]]
  | c :: rest =>
    match splitOnChar separator rest with
    | [] => [[c]]
    | piece :: pieces => if c = separator then [] :: piece :: pieces else (c :: piece) :: pieces

/-- Joins pieces with a text between each two. -/
def joinWith (separator : Text) : List Text → Text
  | [] => []
  | [piece] => piece
  | piece :: pieces => piece ++ separator ++ joinWith separator pieces

/-- The decimal digits of a number. -/
def ofNat (n : Nat) : Text :=
  Nat.toDigits 10 n

/-- ASCII letters in lower case; every other character as it is. -/
def asciiLowercase (text : Text) : Text :=
  text.map Char.toLower

/-- `some` of a text unless it is empty. -/
def nonempty? (text : Text) : Option Text :=
  if text.isEmpty then none else some text

end Text

end Manuscript
