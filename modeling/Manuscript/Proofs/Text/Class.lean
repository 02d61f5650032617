import Manuscript.Text.Blank
import Manuscript.Text.DecimalDigit
import Manuscript.Text.WordCharacter
import Mathlib.Data.List.Chain

/-!
# Classes of characters

How the classes of characters lie to each other: decimal digits are word characters
(`isWordCharacter_of_isDecimalDigit`), and no blank is a decimal digit
(`not_isDecimalDigit_of_isBlank`). ASCII letters and digits are told by their code points
(`isAlphanum_iff`).
-/

namespace Manuscript.Text

/-- The ASCII letters and digits are three ranges of characters. -/
theorem isAlphanum_iff {c : Char} : c.isAlphanum = true ↔
    (65 ≤ c.toNat ∧ c.toNat ≤ 90) ∨ (97 ≤ c.toNat ∧ c.toNat ≤ 122) ∨
      (48 ≤ c.toNat ∧ c.toNat ≤ 57) := by
  delta Char.isAlphanum Char.isAlpha Char.isUpper Char.isLower Char.isDigit
  simp only [Bool.or_eq_true, Bool.and_eq_true, decide_eq_true_eq, UInt32.le_iff_toNat_le,
    ge_iff_le, or_assoc]
  exact Iff.rfl

/-- A code point that is in ranges is in one of them. -/
theorem exists_range_of_inRanges {code : Nat} {ranges : List (Nat × Nat)}
    (inside : inRanges code ranges = true) :
    ∃ range ∈ ranges, range.1 ≤ code ∧ code ≤ range.2 := by
  induction ranges with
  | nil => cases inside
  | cons first rest ih =>
    rw [inRanges] at inside
    split at inside
    · cases inside
    · rename_i reached
      rw [Bool.or_eq_true, decide_eq_true_eq] at inside
      rcases inside with here | later
      · exact ⟨first, List.mem_cons_self, by omega, here⟩
      · obtain ⟨range, member, bounds⟩ := ih later
        exact ⟨range, List.mem_cons_of_mem _ member, bounds⟩

/-- A range begins no later than another one. -/
def BeginsBefore (range later : Nat × Nat) : Prop :=
  range.1 ≤ later.1

instance : DecidableRel BeginsBefore := fun _ _ => inferInstanceAs (Decidable (_ ≤ _))

instance : Trans BeginsBefore BeginsBefore BeginsBefore :=
  ⟨Nat.le_trans⟩

/-- A code point in one of several ranges in order is in the ranges. -/
theorem inRanges_of_mem {code : Nat} {ranges : List (Nat × Nat)}
    (rising : ranges.Pairwise BeginsBefore) {range : Nat × Nat} (member : range ∈ ranges)
    (low : range.1 ≤ code) (high : code ≤ range.2) :
    inRanges code ranges = true := by
  induction ranges with
  | nil => cases member
  | cons first rest ih =>
    obtain ⟨before, risingRest⟩ := List.pairwise_cons.1 rising
    rw [inRanges]
    rcases List.mem_cons.1 member with rfl | member
    · rw [if_neg (by omega)]
      simp [high]
    · have : first.1 ≤ range.1 := before range member
      rw [if_neg (by omega), ih risingRest member, Bool.or_true]

/-- The ranges of word characters are in order. -/
theorem rising_wordRanges : wordRanges.Pairwise BeginsBefore := by
  rw [← List.isChain_iff_pairwise]
  decide +kernel

/-- Decimal digits are word characters. -/
theorem isWordCharacter_of_isDecimalDigit {c : Char} (digit : isDecimalDigit c = true) :
    isWordCharacter c = true := by
  have covered : (digitRanges.all fun digits => wordRanges.any fun word =>
      Nat.ble word.1 digits.1 && Nat.ble digits.2 word.2) = true := by
    decide +kernel
  obtain ⟨digits, member, low, high⟩ := exists_range_of_inRanges digit
  obtain ⟨word, member, around⟩ := List.any_eq_true.1 (List.all_eq_true.1 covered digits member)
  rw [Bool.and_eq_true, Nat.ble_eq, Nat.ble_eq] at around
  exact inRanges_of_mem rising_wordRanges member (by omega) (by omega)

/-- The code points of blanks. -/
def blankRanges : List (Nat × Nat) :=
  [(0x9, 0xD), (0x20, 0x20), (0x85, 0x85), (0xA0, 0xA0), (0x1680, 0x1680), (0x2000, 0x200A),
    (0x2028, 0x2028), (0x2029, 0x2029), (0x202F, 0x202F), (0x205F, 0x205F), (0x3000, 0x3000)]

/-- Every blank is in one of the ranges of blanks. -/
theorem exists_range_of_isBlank {c : Char} (blank : isBlank c = true) :
    ∃ range ∈ blankRanges, range.1 ≤ c.toNat ∧ c.toNat ≤ range.2 := by
  simp only [isBlank, Bool.or_eq_true, Bool.and_eq_true, decide_eq_true_eq, beq_iff_eq,
    Char.le_def, UInt32.le_iff_toNat_le] at blank
  rcases blank with
    (((((((((( ⟨low, high⟩ | rfl) | rfl) | rfl) | rfl) | ⟨low, high⟩) | rfl) | rfl) | rfl) |
      rfl) | rfl)
  · exact ⟨(0x9, 0xD), by decide, low, high⟩
  · exact ⟨(0x20, 0x20), by decide⟩
  · exact ⟨(0x85, 0x85), by decide⟩
  · exact ⟨(0xA0, 0xA0), by decide⟩
  · exact ⟨(0x1680, 0x1680), by decide⟩
  · exact ⟨(0x2000, 0x200A), by decide, low, high⟩
  · exact ⟨(0x2028, 0x2028), by decide⟩
  · exact ⟨(0x2029, 0x2029), by decide⟩
  · exact ⟨(0x202F, 0x202F), by decide⟩
  · exact ⟨(0x205F, 0x205F), by decide⟩
  · exact ⟨(0x3000, 0x3000), by decide⟩

/-- No blank is a decimal digit. -/
theorem not_isDecimalDigit_of_isBlank {c : Char} (blank : isBlank c = true) :
    isDecimalDigit c = false := by
  have apart : ∀ blanks ∈ blankRanges, ∀ digits ∈ digitRanges,
      blanks.2 < digits.1 ∨ digits.2 < blanks.1 := by
    decide +kernel
  obtain ⟨blanks, isBlanks, low, high⟩ := exists_range_of_isBlank blank
  rw [Bool.eq_false_iff]
  intro digit
  obtain ⟨digits, isDigits, low', high'⟩ := exists_range_of_inRanges digit
  have := apart blanks isBlanks digits isDigits
  omega

end Manuscript.Text
