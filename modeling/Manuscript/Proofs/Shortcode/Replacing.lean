import Manuscript.Proofs.Emoji.Catalogue
import Manuscript.Proofs.Text.Search
import Manuscript.Prose.Shortcode

/-!
# Which names are replaced

Names in a row use up each other's colons: the colon after a name opens the next one only if it has
not closed the name before it. So a colon is free to open a name if an even number of names stands
in a row directly before it (`IsFree`). A text becomes what it is with all names at free colons
replaced (`Replaced`, `replaced_iff`); everything else stays in its order.
-/

namespace Manuscript.Shortcode

/-! ## Names -/

/-- A name is written with the characters of shortcodes, and with at least one. -/
def IsName (name : Text) : Prop :=
  name ≠ [] ∧ ∀ c ∈ name, isNameChar c = true

/-- An emoji has this name. -/
def IsKnown (name : Text) : Prop :=
  ∃ emoji, Emoji.ofShortcode? name = some emoji

/-- Names are written in ASCII. -/
theorem toNat_lt_of_isNameChar {c : Char} (isName : isNameChar c = true) : c.toNat < 128 := by
  simp only [isNameChar, Char.isDigit, Bool.or_eq_true, Bool.and_eq_true, decide_eq_true_eq,
    beq_iff_eq, Char.le_def, UInt32.le_iff_toNat_le] at isName
  rcases isName with (((letter | digit) | rfl) | rfl) | rfl
  · exact Nat.lt_of_le_of_lt letter.2 (by decide)
  · exact Nat.lt_of_le_of_lt digit.2 (by decide)
  all_goals decide

/-- No colon is part of a name. -/
theorem colon_notMem {word : Text} (plain : ∀ c ∈ word, isNameChar c = true) : ':' ∉ word := by
  intro colon
  have isName := plain ':' colon
  revert isName
  decide

/-- The names of emoji are names. -/
theorem IsKnown.isName {name : Text} (known : IsKnown name) : IsName name := by
  obtain ⟨emoji, known⟩ := known
  have isShortcode := (Emoji.valid_of_ofShortcode? known).2
  rw [Emoji.Entry.isShortcode, Bool.and_eq_true, Bool.not_eq_true', List.isEmpty_eq_false_iff,
    List.all_eq_true] at isShortcode
  exact isShortcode

/-- A name is read where it stands before a colon. -/
theorem name?_eq_some_iff {text name after : Text} :
    name? text = some (name, after) ↔ text = name ++ ':' :: after ∧ IsName name := by
  constructor
  · intro read
    unfold name? at read
    split at read
    · rename_i c name' after' taken dropped
      obtain ⟨rfl, rfl⟩ := Prod.mk.inj (Option.some.inj read)
      have whole := List.takeWhile_append_dropWhile (p := isNameChar) (l := text)
      have plain : ∀ d ∈ text.takeWhile isNameChar, isNameChar d = true :=
        List.all_eq_true.1 List.all_takeWhile
      rw [taken, dropped] at whole
      rw [taken] at plain
      exact ⟨whole.symm, List.cons_ne_nil _ _, plain⟩
    · cases read
  · rintro ⟨rfl, nonempty, plain⟩
    have colon : ∀ c ∈ (':' :: after).head?, isNameChar c = false := by
      rintro _ ⟨⟩
      decide
    obtain ⟨taken, dropped⟩ := Text.span_append plain colon
    obtain ⟨c, rest, rfl⟩ := List.exists_cons_of_ne_nil nonempty
    rw [name?, taken, dropped]
    rfl

/-! ## Replacing from left to right -/

/-- Replacing behind some characters is replacing in the rest. -/
theorem replaceFrom_eq (skip : Nat) (text : Text) :
    replaceFrom skip text = replace (text.drop skip) := by
  induction text generalizing skip with
  | nil => rw [List.drop_nil, replace, replaceFrom, replaceFrom]
  | cons c rest ih =>
    cases skip with
    | zero => rfl
    | succ skip => exact ih skip

/-- A name between colons is replaced, and both colons are used up. -/
theorem replace_name {name : Text} (isName : IsName name) (after : Text) :
    replace (':' :: (name ++ ':' :: after)) = image name ++ replace after := by
  have read : name? (name ++ ':' :: after) = some (name, after) :=
    name?_eq_some_iff.2 ⟨rfl, isName⟩
  have size : (name ++ ':' :: after).length - after.length = (name ++ [':']).length := by
    simp only [List.length_append, List.length_cons, List.length_nil]
    omega
  rw [replace, replaceFrom, if_neg (Nat.lt_irrefl 0), if_pos rfl, read]
  dsimp only
  rw [replaceFrom_eq, size, List.append_cons name ':' after, List.drop_left]

/-- Where no name between colons begins, a character stays. -/
theorem replace_plain {c : Char} {rest : Text}
    (other : ∀ name after, c :: rest = ':' :: (name ++ ':' :: after) → ¬ IsName name) :
    replace (c :: rest) = c :: replace rest := by
  have none : (if c = ':' then name? rest else none) = none := by
    refine Option.eq_none_iff_forall_ne_some.2 fun found read => ?_
    obtain ⟨name, after⟩ := found
    obtain ⟨rfl, read⟩ := Option.ite_none_right_eq_some.1 read
    obtain ⟨rfl, isName⟩ := name?_eq_some_iff.1 read
    exact other name after rfl isName
  rw [replace, replaceFrom, if_neg (Nat.lt_irrefl 0), none]
  rfl

/-- A text without colons stays. -/
theorem replace_append {front : Text} (absent : ':' ∉ front) (rest : Text) :
    replace (front ++ rest) = front ++ replace rest := by
  induction front with
  | nil => rfl
  | cons c front ih =>
    obtain ⟨other, later⟩ := not_or.1 (mt List.mem_cons.2 absent)
    rw [List.cons_append, replace_plain, ih later, List.cons_append]
    intro name after whole
    exact absurd (List.cons.inj whole).1.symm other

/-! ## Names in a row -/

/-- So many names stand in a row directly before a place, each with a colon before it. -/
inductive Preceded : Nat → Text → Prop
  | none {before : Text} (other : ∀ front name, before = front ++ ':' :: name → ¬ IsName name) :
      Preceded 0 before
  | name {count : Nat} {front name : Text} (row : Preceded count front) (isName : IsName name) :
      Preceded (count + 1) (front ++ ':' :: name)

/-- A colon at this place is free: the names in a row before it, an even number, use up each other's
colons. -/
def IsFree (before : Text) : Prop :=
  ∃ pairs, Preceded (2 * pairs) before

/-- There is one number of names before a place. -/
theorem Preceded.unique {count : Nat} {before : Text} (row : Preceded count before) {count' : Nat}
    (row' : Preceded count' before) : count' = count := by
  induction row generalizing count' with
  | none other =>
    cases row' with
    | none _ => rfl
    | name _ isName => exact absurd isName (other _ _ rfl)
  | @name count front name row isName ih =>
    generalize whole : front ++ ':' :: name = before at row'
    cases row' with
    | none other => exact absurd isName (other _ _ whole.symm)
    | name row' isName' =>
      obtain ⟨rfl, rfl⟩ :=
        Text.eq_of_cut_last (colon_notMem isName.2) (colon_notMem isName'.2) whole
      rw [ih row']

/-- The names before a place can be counted. -/
theorem exists_preceded (before : Text) : ∃ count, Preceded count before := by
  by_cases last : ∃ front name, before = front ++ ':' :: name ∧ IsName name
  · obtain ⟨front, name, whole, isName⟩ := last
    have shorter : front.length < before.length := by
      rw [whole, List.length_append, List.length_cons]
      omega
    obtain ⟨count, row⟩ := exists_preceded front
    exact ⟨count + 1, whole ▸ .name row isName⟩
  · exact ⟨0, .none fun front name whole isName => last ⟨front, name, whole, isName⟩⟩
termination_by before.length

/-- Where no name ends, a colon is free. -/
theorem isFree_of_no_name {before : Text}
    (other : ∀ front name, before = front ++ ':' :: name → ¬ IsName name) : IsFree before :=
  ⟨0, .none other⟩

/-- A name ends at a free colon just if it has not begun at one. -/
theorem isFree_append_name {front name : Text} (isName : IsName name) :
    IsFree (front ++ ':' :: name) ↔ ¬ IsFree front := by
  obtain ⟨count, row⟩ := exists_preceded front
  have free {place : Text} {number : Nat} (row : Preceded number place) :
      IsFree place ↔ ∃ pairs, number = 2 * pairs :=
    ⟨fun ⟨pairs, row'⟩ => ⟨pairs, row'.unique row⟩, fun ⟨pairs, same⟩ => ⟨pairs, same ▸ row⟩⟩
  rw [free row, free (row.name isName)]
  constructor
  · rintro ⟨pairs, same⟩ ⟨pairs', same'⟩
    omega
  · intro odd
    have single : count % 2 ≠ 0 := fun even => odd ⟨count / 2, by omega⟩
    exact ⟨count / 2 + 1, by omega⟩

/-! ## What becomes of a text -/

/-- Behind this text, the rest has become another one: the names between colons, the first of them
free, have been replaced, and all other characters have stayed. -/
inductive Replaced : Text → Text → Text → Prop
  | nil (before : Text) : Replaced before [] []
  | name {before name after out : Text} (free : IsFree before) (isName : IsName name)
      (later : Replaced (before ++ ':' :: (name ++ [':'])) after out) :
      Replaced before (':' :: (name ++ ':' :: after)) (image name ++ out)
  | plain {before : Text} {c : Char} {rest out : Text}
      (other : ∀ name after, c :: rest = ':' :: (name ++ ':' :: after) → IsName name →
        ¬ IsFree before)
      (later : Replaced (before ++ [c]) rest out) : Replaced before (c :: rest) (c :: out)

/-- The next colon behind a text is free, if there are only characters of names before it. So it is
wherever the replacement comes to. -/
def IsOpen (before rest : Text) : Prop :=
  ∀ word after, rest = word ++ ':' :: after → (∀ c ∈ word, isNameChar c = true) →
    IsFree (before ++ word)

namespace IsOpen

variable {before rest : Text}

/-- Where the text is open, a colon that comes next is free. -/
theorem isFree (isOpen : IsOpen before (':' :: rest)) : IsFree before := by
  have free := isOpen [] rest rfl (fun _ none => nomatch none)
  rwa [List.append_nil] at free

/-- The start of a text is open. -/
theorem start (text : Text) : IsOpen [] text := by
  intro word after _ plain
  refine isFree_of_no_name fun front name whole _ => colon_notMem plain ?_
  rw [List.nil_append] at whole
  rw [whole]
  exact List.mem_append_right _ List.mem_cons_self

/-- A name has used up both colons, and so the next one is free. -/
theorem name {name : Text} (free : IsFree before) (isName : IsName name) (after : Text) :
    IsOpen (before ++ ':' :: (name ++ [':'])) after := by
  intro word _ _ plain
  have split :
      before ++ ':' :: (name ++ [':']) ++ word = (before ++ ':' :: name) ++ ':' :: word := by
    simp
  rw [split]
  by_cases nonempty : word = []
  · subst nonempty
    refine isFree_of_no_name fun front other whole isOther => ?_
    obtain ⟨_, rfl⟩ := Text.eq_of_cut_last List.not_mem_nil (colon_notMem isOther.2) whole
    exact isOther.1 rfl
  · rw [isFree_append_name ⟨nonempty, plain⟩, isFree_append_name isName]
    exact not_not_intro free

/-- A character that stays opens no name and closes none. -/
theorem plain {c : Char} (isOpen : IsOpen before (c :: rest))
    (other : ∀ name after, c :: rest = ':' :: (name ++ ':' :: after) → ¬ IsName name) :
    IsOpen (before ++ [c]) rest := by
  intro word after whole plain
  subst whole
  rw [List.append_assoc, List.singleton_append]
  by_cases isName : isNameChar c = true
  · exact isOpen (c :: word) after rfl (List.forall_mem_cons.2 ⟨isName, plain⟩)
  · -- A name that ends here begins at this character, or takes it in.
    refine isFree_of_no_name fun front name whole isName' => ?_
    have begins (same : ':' :: name = c :: word) : False := by
      obtain ⟨rfl, rfl⟩ := List.cons.inj same
      exact other name after rfl isName'
    obtain inWord | inName := List.suffix_or_suffix_of_suffix ⟨front, whole.symm⟩
      (List.suffix_append before (c :: word))
    · rcases List.suffix_cons_iff.1 inWord with same | inWord
      · exact begins same
      · exact colon_notMem plain (inWord.subset List.mem_cons_self)
    · rcases List.suffix_cons_iff.1 inName with same | inName
      · exact begins same.symm
      · exact isName (isName'.2 c (inName.subset List.mem_cons_self))

end IsOpen

/-- Replacing goes on behind a text in this way, as long as the next colon is free. -/
theorem replaced_replace : ∀ before text, IsOpen before text → Replaced before text (replace text)
  | before, [], _ => .nil before
  | before, c :: rest, isOpen => by
    by_cases begins : ∃ name after, c :: rest = ':' :: (name ++ ':' :: after) ∧ IsName name
    · obtain ⟨name, after, whole, isName⟩ := begins
      obtain ⟨rfl, rfl⟩ := List.cons.inj whole
      have free := isOpen.isFree
      rw [replace_name isName]
      exact .name free isName (replaced_replace _ after (.name free isName after))
    · have other : ∀ name after, c :: rest = ':' :: (name ++ ':' :: after) → ¬ IsName name :=
        fun name after whole isName => begins ⟨name, after, whole, isName⟩
      rw [replace_plain other]
      refine .plain (fun name after whole isName => absurd isName (other name after whole)) ?_
      exact replaced_replace _ rest (isOpen.plain other)
termination_by _ text => text.length

/-- A character that stays, where the next colon is free, begins no name. -/
theorem not_isName_of_isOpen {before rest : Text} {c : Char} (isOpen : IsOpen before (c :: rest))
    (other : ∀ name after, c :: rest = ':' :: (name ++ ':' :: after) → IsName name →
      ¬ IsFree before) :
    ∀ name after, c :: rest = ':' :: (name ++ ':' :: after) → ¬ IsName name := by
  intro name after whole isName
  refine other name after whole isName ?_
  obtain ⟨rfl, rfl⟩ := List.cons.inj whole
  exact isOpen.isFree

/-- Shortcodes are replaced in one way only, which is how the pass replaces them. -/
theorem Replaced.eq_replace {before text out : Text} (replaced : Replaced before text out)
    (isOpen : IsOpen before text) : out = replace text := by
  induction replaced with
  | nil => rfl
  | name free isName _ ih => rw [replace_name isName, ih (.name free isName _)]
  | plain other _ ih =>
    have noName := not_isName_of_isOpen isOpen other
    rw [replace_plain noName, ih (isOpen.plain noName)]

/-- A text with its shortcodes replaced is the one with all names at free colons replaced. -/
theorem replaced_iff {text out : Text} : Replaced [] text out ↔ out = replace text :=
  ⟨fun replaced => replaced.eq_replace (.start text),
    fun same => same ▸ replaced_replace [] text (.start text)⟩

end Manuscript.Shortcode
