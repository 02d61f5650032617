import Manuscript.Html.Footnote
import Manuscript.Pattern.Reader
import Manuscript.Proofs.Text.Class
import Mathlib.Data.List.Basic

/-!
# Identifiers of footnotes

The identifier of a footnote is percent-encoded: read back by `decode?`, it gives the bytes of the
label in lower case (`decode?_identifier`). The bytes are those of the standard library's UTF-8 form
(`utf8Bytes_eq`), from which a text can be read back, so two labels have one identifier exactly if
they are the same in lower case (`identifier_eq_iff`).
-/

namespace Manuscript.Footnote

/-! ## Bytes -/

/-- The bytes of a character are those of its UTF-8 form in the standard library. -/
theorem utf8Bytes_eq (c : Char) : utf8Bytes c = (String.utf8EncodeChar c).map UInt8.toNat := by
  have bound : c.toNat < 0x110000 := by
    rcases c.valid with low | ⟨_, high⟩
    · exact Nat.lt_trans low (by decide)
    · exact high
  have code : c.val.toNat = c.toNat := rfl
  simp only [utf8Bytes, String.utf8EncodeChar, code]
  generalize c.toNat = n at bound
  -- The two forms change their lengths at the same code points.
  have one : n < 0x80 ↔ n ≤ 127 := Nat.lt_succ_iff
  have two : n < 0x800 ↔ n ≤ 2047 := Nat.lt_succ_iff
  have three : n < 0x10000 ↔ n ≤ 65535 := Nat.lt_succ_iff
  simp only [one, two, three]
  split_ifs
  all_goals
    simp only [List.map_cons, List.map_nil, UInt8.toNat_ofNat', List.cons.injEq, and_true]
    omega

/-- Bytes are less than 256. -/
theorem lt_of_mem_utf8Bytes {c : Char} {byte : Nat} (member : byte ∈ utf8Bytes c) : byte < 256 := by
  rw [utf8Bytes_eq, List.mem_map] at member
  obtain ⟨word, _, rfl⟩ := member
  exact word.toNat_lt

/-- A text can be read back from its bytes. -/
theorem flatMap_utf8Bytes_injective : Function.Injective (List.flatMap utf8Bytes) := by
  intro text other same
  have bytes (text : Text) :
      text.flatMap utf8Bytes = (text.flatMap String.utf8EncodeChar).map UInt8.toNat := by
    rw [List.map_flatMap]
    exact List.flatMap_congr fun c _ => utf8Bytes_eq c
  rw [bytes, bytes] at same
  have words := List.map_injective_iff.2 (fun _ _ => UInt8.toNat_inj.1) same
  have encoded : text.utf8Encode = other.utf8Encode := congrArg List.toByteArray words
  have read := congrArg ByteArray.utf8Decode? encoded
  rw [List.utf8Decode?_utf8Encode, List.utf8Decode?_utf8Encode, Option.some.injEq] at read
  exact List.toArray_inj read

/-! ## Reading back -/

/-- Reads the bytes of a percent-encoded text. Every character but the percent sign stands for its
code point. -/
def decode? : Text → Option (List Nat)
  | [] => some []
  | '%' :: high :: low :: rest => do
    let high ← Pattern.hexDigit? high
    let low ← Pattern.hexDigit? low
    let bytes ← decode? rest
    return (16 * high + low) :: bytes
  | c :: rest => if c = '%' then none else (decode? rest).map (c.toNat :: ·)

/-- The value of a hexadecimal digit that is written is read. -/
theorem hexDigit?_hexDigit {n : Nat} (small : n < 16) :
    Pattern.hexDigit? (hexDigit n) = some n := by
  have digits : ∀ n < 16, Pattern.hexDigit? (hexDigit n) = some n := by decide
  exact digits n small

/-- The escape of a byte. -/
def escape (byte : Nat) : Text :=
  ['%', hexDigit (byte / 16), hexDigit (byte % 16)]

/-- An escape is read as its byte. -/
theorem decode?_escape {byte : Nat} (isByte : byte < 256) (rest : Text) :
    decode? (escape byte ++ rest) = (decode? rest).map (byte :: ·) := by
  have high : byte / 16 < 16 := by omega
  have low : byte % 16 < 16 := by omega
  have whole : 16 * (byte / 16) + byte % 16 = byte := Nat.div_add_mod byte 16
  rw [escape, List.cons_append, List.cons_append, List.cons_append, List.nil_append, decode?,
    hexDigit?_hexDigit high, hexDigit?_hexDigit low]
  cases decode? rest with
  | none => rfl
  | some bytes => exact congrArg (fun byte => some (byte :: bytes)) whole

/-- Escapes are read as their bytes. -/
theorem decode?_escapes {bytes : List Nat} (areBytes : ∀ byte ∈ bytes, byte < 256) (rest : Text) :
    decode? (bytes.flatMap escape ++ rest) = (decode? rest).map (bytes ++ ·) := by
  induction bytes with
  | nil => exact Option.map_id'.symm
  | cons byte bytes ih =>
    obtain ⟨first, later⟩ := List.forall_mem_cons.1 areBytes
    rw [List.flatMap_cons, List.append_assoc, decode?_escape first, ih later, Option.map_map]
    rfl

/-- A character other than the percent sign is read as its code point. -/
theorem decode?_cons {c : Char} (other : c ≠ '%') (rest : Text) :
    decode? (c :: rest) = (decode? rest).map (c.toNat :: ·) := by
  rw [decode?, if_neg other]
  exact fun _ _ _ sign _ => absurd sign other

/-- The characters that stand for themselves are ASCII characters other than the percent sign. -/
theorem ascii_of_isSafe {c : Char} (safe : isSafe c = true) : c.toNat < 0x80 ∧ c ≠ '%' := by
  constructor
  · simp only [isSafe, Bool.or_eq_true, beq_iff_eq, Text.isAlphanum_iff] at safe
    rcases safe with (((alphanumeric | rfl) | rfl) | rfl) | rfl
    · omega
    all_goals decide
  · rintro rfl
    revert safe
    decide

/-- What a character contributes to an identifier is read as the bytes of the character. -/
theorem decode?_encodeChar (c : Char) (rest : Text) :
    decode? (encodeChar c ++ rest) = (decode? rest).map (utf8Bytes c ++ ·) := by
  unfold encodeChar
  split
  · rename_i safe
    obtain ⟨ascii, other⟩ := ascii_of_isSafe safe
    rw [List.singleton_append, decode?_cons other, utf8Bytes, if_pos ascii]
    rfl
  · exact decode?_escapes (fun _ => lt_of_mem_utf8Bytes) rest

/-- A percent-encoded text is read as its bytes. -/
theorem decode?_flatMap (text : Text) :
    decode? (text.flatMap encodeChar) = some (text.flatMap utf8Bytes) := by
  induction text with
  | nil => rfl
  | cons c rest ih => rw [List.flatMap_cons, decode?_encodeChar, ih]; rfl

/-- An identifier is read as the bytes of the label in lower case. -/
theorem decode?_identifier (label : Text) :
    decode? (identifier label) = some ((Text.lowercase label).flatMap utf8Bytes) :=
  decode?_flatMap _

/-! ## The characters of identifiers -/

/-- Identifiers are written with ASCII letters and digits and a few signs. -/
theorem mem_encodeChar {c d : Char} (member : d ∈ encodeChar c) :
    d.isAlphanum = true ∨ d ∈ ['-', '_', '.', '~', '%'] := by
  have digit : ∀ n < 16, (hexDigit n).isAlphanum = true := by decide
  unfold encodeChar at member
  split at member
  · rename_i safe
    rw [List.mem_singleton.1 member]
    simp only [isSafe, Bool.or_eq_true, beq_iff_eq] at safe
    simp only [List.mem_cons]
    tauto
  · obtain ⟨byte, isByte, member⟩ := List.mem_flatMap.1 member
    have bound := lt_of_mem_utf8Bytes isByte
    simp only [List.mem_cons, List.not_mem_nil, or_false] at member
    rcases member with rfl | rfl | rfl
    · exact .inr (by decide)
    · exact .inl (digit _ (by omega))
    · exact .inl (digit _ (by omega))

/-- Labels have one identifier exactly if they are the same in lower case, and identifiers are
written with ASCII letters, digits, hyphens, underscores, dots, tildes and percent signs. -/
theorem identifier_eq_iff :
    (∀ label other, identifier label = identifier other ↔
      Text.lowercase label = Text.lowercase other) ∧
    ∀ label, ∀ c ∈ identifier label, c.isAlphanum = true ∨ c ∈ ['-', '_', '.', '~', '%'] := by
  refine ⟨fun label other => ⟨fun same => ?_, fun same => ?_⟩, fun label c member => ?_⟩
  · have read := congrArg decode? same
    rw [decode?_identifier, decode?_identifier, Option.some.injEq] at read
    exact flatMap_utf8Bytes_injective read
  · rw [identifier, identifier, same]
  · obtain ⟨_, _, member⟩ := List.mem_flatMap.1 member
    exact mem_encodeChar member

/-- A label that looks like an escape has another identifier than the escaped character. -/
theorem identifier_eq_iff_escape :
    identifier "É".toList = identifier "é".toList ∧
      identifier "%C3%A9".toList ≠ identifier "é".toList ∧
      '%' ∈ identifier "é".toList ∧ ('%'.isAlphanum = true ∨ '%' ∈ ['-', '_', '.', '~', '%']) := by
  have lower : Text.lowercase "É".toList = Text.lowercase "é".toList := by decide +kernel
  have different : Text.lowercase "%C3%A9".toList ≠ Text.lowercase "é".toList := by decide +kernel
  have escaped : '%' ∈ identifier "é".toList := by decide +kernel
  refine ⟨(identifier_eq_iff.1 _ _).2 lower, fun same => ?_, escaped,
    identifier_eq_iff.2 _ _ escaped⟩
  exact different ((identifier_eq_iff.1 _ _).1 same)

end Manuscript.Footnote
