import Manuscript.Proofs.Document.Induction
import Manuscript.Proofs.Shortcode.Replacing

/-!
# Shortcodes that are left

A name that no emoji has uses up its colons like any other one, and so it hides the name behind it:
a known name is left between its colons exactly if an unknown name has taken the first of them and
no known name takes the last (`HidesShortcode`). All other shortcodes of a text are replaced, and
none arises from what is written for them (`hasShortcode_replace_iff`).
-/

namespace Manuscript

namespace Shortcode

/-! ## Shortcodes and hidden ones -/

/-- A text begins with the name of an emoji and the colon after it. -/
def BeginsKnown (text : Text) : Prop :=
  ∃ name after, text = name ++ ':' :: after ∧ IsKnown name

/-- The name of an emoji stands between colons in a text. -/
def HasShortcode (text : Text) : Prop :=
  ∃ before rest, text = before ++ ':' :: rest ∧ BeginsKnown rest

/-- Between these texts a name is hidden: it is the name of an emoji, the name before it is unknown
and has taken the colon between them, and the colon behind it is not taken for an emoji. -/
structure IsHidden (before other name after : Text) : Prop where
  free : IsFree before
  isName : IsName other
  unknown : ¬ IsKnown other
  known : IsKnown name
  kept : ¬ BeginsKnown after

/-- Behind this text, a name is hidden in the rest. -/
def HidesShortcode (before rest : Text) : Prop :=
  ∃ front other name after, rest = front ++ ':' :: (other ++ ':' :: (name ++ ':' :: after)) ∧
    IsHidden (before ++ front) other name after

/-- A name with a colon behind it begins as a shortcode if it is known. -/
theorem beginsKnown_append_name {name : Text} (isName : IsName name) {after : Text} :
    BeginsKnown (name ++ ':' :: after) ↔ IsKnown name := by
  refine ⟨fun ⟨name', after', same, known⟩ => ?_, fun known => ⟨name, after, rfl, known⟩⟩
  obtain ⟨rfl, rfl⟩ := Text.eq_of_cut (colon_notMem isName.2) (colon_notMem known.isName.2) same
  exact known

/-- A text has a shortcode at its start or after its first character. -/
theorem hasShortcode_cons {c : Char} {rest : Text} :
    HasShortcode (c :: rest) ↔ (c = ':' ∧ BeginsKnown rest) ∨ HasShortcode rest := by
  constructor
  · rintro ⟨before, rest', whole, begins⟩
    cases before with
    | nil =>
      obtain ⟨rfl, rfl⟩ := List.cons.inj whole
      exact .inl ⟨rfl, begins⟩
    | cons d before =>
      obtain ⟨rfl, rfl⟩ := List.cons.inj whole
      exact .inr ⟨before, rest', rfl, begins⟩
  · rintro (⟨rfl, begins⟩ | ⟨before, rest', rfl, begins⟩)
    · exact ⟨[], rest, rfl, begins⟩
    · exact ⟨c :: before, rest', rfl, begins⟩

/-- A text hides a shortcode at its start or after its first character. -/
theorem hidesShortcode_cons {before : Text} {c : Char} {rest : Text} :
    HidesShortcode before (c :: rest) ↔
      (c = ':' ∧ ∃ other name after, rest = other ++ ':' :: (name ++ ':' :: after) ∧
        IsHidden before other name after) ∨ HidesShortcode (before ++ [c]) rest := by
  constructor
  · rintro ⟨front, other, name, after, whole, hidden⟩
    cases front with
    | nil =>
      obtain ⟨rfl, rfl⟩ := List.cons.inj whole
      rw [List.append_nil] at hidden
      exact .inl ⟨rfl, other, name, after, rfl, hidden⟩
    | cons d front =>
      obtain ⟨rfl, rfl⟩ := List.cons.inj whole
      rw [List.append_cons] at hidden
      exact .inr ⟨front, other, name, after, rfl, hidden⟩
  · rintro (⟨rfl, other, name, after, rfl, hidden⟩ | ⟨front, other, name, after, rfl, hidden⟩)
    · refine ⟨[], other, name, after, rfl, ?_⟩
      rwa [List.append_nil]
    · refine ⟨c :: front, other, name, after, rfl, ?_⟩
      rwa [List.append_cons]

/-- No shortcode begins where there is no colon. -/
theorem hasShortcode_append {front rest : Text} (absent : ':' ∉ front) :
    HasShortcode (front ++ rest) ↔ HasShortcode rest := by
  induction front with
  | nil => rfl
  | cons c front ih =>
    obtain ⟨other, later⟩ := not_or.1 (mt List.mem_cons.2 absent)
    rw [List.cons_append, hasShortcode_cons, ih later]
    exact or_iff_right fun ⟨colon, _⟩ => other colon.symm

/-- Nothing is hidden by a text without colons. -/
theorem hidesShortcode_append {before front rest : Text} (absent : ':' ∉ front) :
    HidesShortcode before (front ++ rest) ↔ HidesShortcode (before ++ front) rest := by
  induction front generalizing before with
  | nil => rw [List.nil_append, List.append_nil]
  | cons c front ih =>
    obtain ⟨other, later⟩ := not_or.1 (mt List.mem_cons.2 absent)
    rw [List.cons_append, hidesShortcode_cons, ih later, List.append_assoc, List.singleton_append]
    exact or_iff_right fun ⟨colon, _⟩ => other colon.symm

/-- A name at a free colon is hidden behind nothing; the name behind it is hidden if it is itself
unknown. -/
theorem hidesShortcode_name {before name after : Text} (free : IsFree before)
    (isName : IsName name) :
    HidesShortcode before (':' :: (name ++ ':' :: after)) ↔
      (∃ next rest, after = next ++ ':' :: rest ∧ IsHidden before name next rest) ∨
        HidesShortcode (before ++ ':' :: (name ++ [':'])) after := by
  have closed : ¬ IsFree (before ++ [':'] ++ name) := by
    rw [List.append_assoc, List.singleton_append, isFree_append_name isName]
    exact not_not_intro free
  have place : before ++ [':'] ++ name ++ [':'] = before ++ ':' :: (name ++ [':']) := by simp
  rw [hidesShortcode_cons, hidesShortcode_append (colon_notMem isName.2), hidesShortcode_cons,
    place]
  refine or_congr ⟨?_, ?_⟩ (or_iff_right fun ⟨_, _, _, _, _, hidden⟩ => closed hidden.free)
  · rintro ⟨_, other, next, rest, whole, hidden⟩
    obtain ⟨rfl, rfl⟩ :=
      Text.eq_of_cut (colon_notMem isName.2) (colon_notMem hidden.isName.2) whole
    exact ⟨next, rest, rfl, hidden⟩
  · rintro ⟨next, rest, rfl, hidden⟩
    exact ⟨rfl, name, next, rest, rfl, hidden⟩

/-! ## What is written for names -/

/-- What is written for a name: an emoji, which has no colon and a character that no name has, or
the name between its colons. -/
theorem image_cases (name : Text) :
    (IsKnown name ∧ ':' ∉ image name ∧ ∃ c ∈ image name, isNameChar c = false) ∨
      (¬ IsKnown name ∧ image name = ':' :: (name ++ [':'])) := by
  rw [image, IsKnown]
  cases known : Emoji.ofShortcode? name with
  | none => exact .inr ⟨fun ⟨_, isSome⟩ => (nomatch isSome), rfl⟩
  | some emoji =>
    have isSequence := (Emoji.valid_of_ofShortcode? known).1
    obtain ⟨_, _, c, member, large⟩ := Emoji.isSequence_iff.1 isSequence
    refine .inl ⟨⟨emoji, rfl⟩, Emoji.colon_notMem_of_isSequence isSequence, c, member, ?_⟩
    exact Bool.eq_false_iff.2 fun isName => Nat.not_lt.2 large (toNat_lt_of_isNameChar isName)

/-- Characters of names and a colon do not begin with an emoji. -/
theorem not_word_of_emoji {emoji rest word more : Text} (noColon : ':' ∉ emoji)
    (sign : ∃ c ∈ emoji, isNameChar c = false) (plain : ∀ c ∈ word, isNameChar c = true) :
    emoji ++ rest ≠ word ++ ':' :: more := by
  intro same
  obtain ⟨c, member, other⟩ := sign
  obtain inWord | inEmoji :=
    List.prefix_or_prefix_of_prefix ⟨rest, same⟩ (List.prefix_append word (':' :: more))
  · rw [plain c (inWord.subset member)] at other
    cases other
  · obtain ⟨tail, rfl⟩ := inEmoji
    rw [List.append_assoc] at same
    cases tail with
    | nil =>
      rw [List.append_nil] at member
      rw [plain c member] at other
      cases other
    | cons d tail =>
      obtain ⟨rfl, _⟩ := List.cons.inj (List.append_cancel_left same)
      exact noColon (List.mem_append_right _ List.mem_cons_self)

/-- A colon that is next after characters of names is kept, unless it opens a name that is known. -/
theorem Replaced.begins_iff {before rest out : Text} (replaced : Replaced before rest out)
    (isOpen : IsOpen before rest) {word : Text} (plain : ∀ c ∈ word, isNameChar c = true) :
    (∃ more, out = word ++ ':' :: more) ↔
      ∃ after, rest = word ++ ':' :: after ∧ ¬ BeginsKnown after := by
  induction replaced generalizing word with
  | nil =>
    refine iff_of_false ?_ ?_
    · rintro ⟨_, same⟩
      simp at same
    · rintro ⟨_, same, _⟩
      simp at same
  | @name before name after out free isName later ih =>
    -- Both texts begin with a colon here or with an emoji, so that only the empty word can fit.
    have noWord {c : Char} {word rest more : Text} (plain : ∀ d ∈ c :: word, isNameChar d = true) :
        ':' :: rest ≠ c :: word ++ more := by
      intro same
      obtain ⟨rfl, _⟩ := List.cons.inj same
      exact colon_notMem plain List.mem_cons_self
    obtain ⟨known, noColon, sign⟩ | ⟨unknown, same⟩ := image_cases name
    · refine iff_of_false (fun ⟨more, same⟩ => not_word_of_emoji noColon sign plain same) ?_
      rintro ⟨after', whole, kept⟩
      cases word with
      | nil =>
        obtain ⟨_, rfl⟩ := List.cons.inj whole
        exact kept ((beginsKnown_append_name isName).2 known)
      | cons c word => exact noWord plain whole
    · rw [same]
      cases word with
      | nil =>
        refine iff_of_true ⟨_, rfl⟩ ⟨_, rfl, ?_⟩
        rwa [beginsKnown_append_name isName]
      | cons c word =>
        exact iff_of_false (fun ⟨_, whole⟩ => noWord plain whole)
          (fun ⟨_, whole, _⟩ => noWord plain whole)
  | @plain before c rest out other later ih =>
    have noName := not_isName_of_isOpen isOpen other
    cases word with
    | nil =>
      constructor
      · rintro ⟨more, whole⟩
        obtain ⟨rfl, _⟩ := List.cons.inj whole
        refine ⟨rest, rfl, ?_⟩
        rintro ⟨name, after, rfl, known⟩
        exact noName name after rfl known.isName
      · rintro ⟨after, whole, _⟩
        obtain ⟨rfl, _⟩ := List.cons.inj whole
        exact ⟨out, rfl⟩
    | cons d word =>
      have begins := ih (isOpen.plain noName) (List.forall_mem_cons.1 plain).2
      constructor
      · rintro ⟨more, whole⟩
        obtain ⟨rfl, rfl⟩ := List.cons.inj whole
        obtain ⟨after, rfl, kept⟩ := begins.1 ⟨more, rfl⟩
        exact ⟨after, rfl, kept⟩
      · rintro ⟨after, whole, kept⟩
        obtain ⟨rfl, rfl⟩ := List.cons.inj whole
        obtain ⟨more, rfl⟩ := begins.2 ⟨after, rfl, kept⟩
        exact ⟨more, rfl⟩

/-- What becomes of a text begins with a known name and a colon just if the text does, and the colon
opens no other known name. -/
theorem Replaced.beginsKnown_iff {before rest out : Text} (replaced : Replaced before rest out)
    (isOpen : IsOpen before rest) :
    BeginsKnown out ↔ ∃ name after, rest = name ++ ':' :: after ∧ IsKnown name ∧
      ¬ BeginsKnown after := by
  constructor
  · rintro ⟨name, more, whole, known⟩
    obtain ⟨after, same, kept⟩ := (replaced.begins_iff isOpen known.isName.2).1 ⟨more, whole⟩
    exact ⟨name, after, same, known, kept⟩
  · rintro ⟨name, after, same, known, kept⟩
    obtain ⟨more, whole⟩ := (replaced.begins_iff isOpen known.isName.2).2 ⟨after, same, kept⟩
    exact ⟨name, more, whole, known⟩

/-- A shortcode is left behind a text exactly if it was hidden there. -/
theorem Replaced.hasShortcode_iff {before rest out : Text} (replaced : Replaced before rest out)
    (isOpen : IsOpen before rest) : HasShortcode out ↔ HidesShortcode before rest := by
  induction replaced with
  | nil =>
    refine iff_of_false ?_ ?_
    · rintro ⟨_, _, same, _⟩
      simp at same
    · rintro ⟨_, _, _, _, same, _⟩
      simp at same
  | @name before name after out free isName later ih =>
    have isOpen' := IsOpen.name free isName after
    rw [hidesShortcode_name free isName, ← ih isOpen']
    obtain ⟨known, noColon, _⟩ | ⟨unknown, same⟩ := image_cases name
    · rw [hasShortcode_append noColon]
      exact (or_iff_right fun ⟨_, _, _, hidden⟩ => hidden.unknown known).symm
    · -- The unknown name stays, and its second colon opens a shortcode if a known name follows.
      have split : image name ++ out = ':' :: (name ++ ':' :: out) := by rw [same]; simp
      have own : ¬ (':' = ':' ∧ BeginsKnown (name ++ ':' :: out)) := by
        rw [beginsKnown_append_name isName]
        exact fun ⟨_, known⟩ => unknown known
      rw [split, hasShortcode_cons, or_iff_right own, hasShortcode_append (colon_notMem isName.2),
        hasShortcode_cons, later.beginsKnown_iff isOpen']
      refine or_congr_left ⟨?_, ?_⟩
      · rintro ⟨_, next, rest, same, known, kept⟩
        exact ⟨next, rest, same, free, isName, unknown, known, kept⟩
      · rintro ⟨next, rest, same, hidden⟩
        exact ⟨rfl, next, rest, same, hidden.known, hidden.kept⟩
  | @plain before c rest out other later ih =>
    have noName := not_isName_of_isOpen isOpen other
    have isOpen' := isOpen.plain noName
    rw [hasShortcode_cons, hidesShortcode_cons, ih isOpen', later.beginsKnown_iff isOpen']
    -- A colon that stays here opens no name, before the replacement or after it.
    refine or_congr_left (iff_of_false ?_ ?_)
    · rintro ⟨rfl, name, after, rfl, known, _⟩
      exact noName name after rfl known.isName
    · rintro ⟨rfl, name, next, after, rfl, hidden⟩
      exact noName name _ rfl hidden.isName

/-- The shortcodes that are left in a text are those that were hidden in it. -/
theorem hasShortcode_replace_iff {text : Text} :
    HasShortcode (replace text) ↔ HidesShortcode [] text :=
  (replaced_iff.2 rfl).hasShortcode_iff (.start text)

end Shortcode

end Manuscript
