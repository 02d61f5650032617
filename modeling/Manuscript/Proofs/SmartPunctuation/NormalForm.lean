import Manuscript.Prose.SmartPunctuation
import Manuscript.Text.Alphanumeric
import Mathlib.Data.List.Infix

/-!
# Texts in which all punctuation is set

Setting the punctuation of a text puts a mark in the place of a few sequences of characters
(`replaceable`) and keeps every other character. `Sets` says this once for a whole run, whatever
stands before the text. A mark is none of the characters of a sequence, so that what the run keeps
side by side stood side by side before; from there no sequence is left (`isNormal_smarten`), and a
text without sequences is kept as it is (`smarten_of_isNormal`).
-/

namespace Manuscript.SmartPunctuation

/-- The characters that are put in the place of others. -/
def marks : List Char :=
  ['…', '–', '—', '“', '”', '‘', '’']

/-- What becomes an ellipsis. -/
def dots : List Text :=
  ["...".toList, ". . .".toList]

/-- What becomes a dash. -/
def hyphens : List Text :=
  ["---".toList, "--".toList]

/-- What is a double quote written as two characters. -/
def doubledQuotes : List Text :=
  ["\x60\x60".toList, "''".toList]

/-- The straight quotes. -/
def straightQuotes : List Text :=
  [['"'], ['\'']]

/-- The sequences of characters that a mark takes the place of. -/
def replaceable (options : TypographyOptions) : List Text :=
  (if options.ellipses then dots else []) ++ ((if options.dashes = .off then [] else hyphens) ++
    ((if options.backticks then doubledQuotes else []) ++
      (if options.quotes then straightQuotes else [])))

/-- The characters of the sequences. -/
def replaceableChars : List Char :=
  ['.', ' ', '-', '\x60', '\'', '"']

section

variable {options : TypographyOptions}

/-- Which sequences are replaced is told by the options. -/
theorem mem_replaceable {sequence : Text} :
    sequence ∈ replaceable options ↔
      (options.ellipses = true ∧ sequence ∈ dots) ∨ (options.dashes ≠ .off ∧ sequence ∈ hyphens) ∨
        (options.backticks = true ∧ sequence ∈ doubledQuotes) ∨
          (options.quotes = true ∧ sequence ∈ straightQuotes) := by
  simp [replaceable]

/-- Whatever the options, a sequence is one of a few. -/
theorem replaceable_subset :
    replaceable options ⊆ dots ++ (hyphens ++ (doubledQuotes ++ straightQuotes)) := by
  intro sequence member
  simp only [List.mem_append]
  exact (mem_replaceable.1 member).imp And.right (Or.imp And.right (Or.imp And.right And.right))

/-- A sequence is not empty and consists of characters of its own. -/
theorem replaceable_shape {sequence : Text} (member : sequence ∈ replaceable options) :
    sequence ≠ [] ∧ sequence ⊆ replaceableChars := by
  have all : ∀ sequence ∈ dots ++ (hyphens ++ (doubledQuotes ++ straightQuotes)),
      sequence ≠ [] ∧ sequence ⊆ replaceableChars := by decide
  exact all sequence (replaceable_subset member)

/-- No mark belongs to a sequence. -/
theorem not_mark_of_replaceable : ∀ c ∈ replaceableChars, c ∉ marks := by
  simp [replaceableChars, marks]

/-- An ellipsis takes the place of dots. -/
theorem ellipsis?_eq_some {text after : Text} {mark : Char}
    (found : ellipsis? options text = some (mark, after)) :
    mark ∈ marks ∧ options.ellipses = true ∧ ∃ sequence ∈ dots, text = sequence ++ after := by
  unfold ellipsis? at found
  split at found
  · obtain ⟨on, found⟩ := Option.ite_none_right_eq_some.1 found
    cases found
    exact ⟨by decide, on, _, List.mem_cons_self, rfl⟩
  · obtain ⟨on, found⟩ := Option.ite_none_right_eq_some.1 found
    cases found
    exact ⟨by decide, on, _, List.mem_cons_of_mem _ List.mem_cons_self, rfl⟩
  · cases found

/-- A dash is a mark. -/
theorem dashFor_mem_marks : ∀ mode triple, dashFor mode triple ∈ marks := by
  intro mode triple
  cases mode <;> cases triple <;> decide

/-- A dash takes the place of hyphens. -/
theorem dash?_eq_some {text after : Text} {mark : Char}
    (found : dash? options text = some (mark, after)) :
    mark ∈ marks ∧ options.dashes ≠ .off ∧ ∃ sequence ∈ hyphens, text = sequence ++ after := by
  unfold dash? at found
  split at found
  · obtain ⟨on, found⟩ := Option.ite_none_left_eq_some.1 found
    cases found
    exact ⟨dashFor_mem_marks _ _, on, _, List.mem_cons_self, rfl⟩
  · obtain ⟨on, found⟩ := Option.ite_none_left_eq_some.1 found
    cases found
    exact ⟨dashFor_mem_marks _ _, on, _, List.mem_cons_of_mem _ List.mem_cons_self, rfl⟩
  · cases found

/-- A double quote takes the place of two backticks or two apostrophes. -/
theorem doubled?_eq_some {text after : Text} {mark : Char}
    (found : doubled? options text = some (mark, after)) :
    mark ∈ marks ∧ options.backticks = true ∧
      ∃ sequence ∈ doubledQuotes, text = sequence ++ after := by
  unfold doubled? at found
  split at found
  · obtain ⟨on, found⟩ := Option.ite_none_right_eq_some.1 found
    cases found
    exact ⟨by decide, on, _, List.mem_cons_self, rfl⟩
  · obtain ⟨on, found⟩ := Option.ite_none_right_eq_some.1 found
    cases found
    exact ⟨by decide, on, _, List.mem_cons_of_mem _ List.mem_cons_self, rfl⟩
  · cases found

/-- A mark for several characters takes the place of a sequence at the start of the text. -/
theorem sequence?_eq_some {text after : Text} {mark : Char}
    (found : sequence? options text = some (mark, after)) :
    mark ∈ marks ∧ ∃ sequence ∈ replaceable options, text = sequence ++ after := by
  simp only [sequence?, Option.orElse_eq_orElse, Option.orElse_eq_or, Option.or_eq_some_iff]
    at found
  rcases found with found | ⟨_, found | ⟨_, found⟩⟩
  · obtain ⟨isMark, on, sequence, member, whole⟩ := ellipsis?_eq_some found
    exact ⟨isMark, sequence, mem_replaceable.2 (.inl ⟨on, member⟩), whole⟩
  · obtain ⟨isMark, on, sequence, member, whole⟩ := dash?_eq_some found
    exact ⟨isMark, sequence, mem_replaceable.2 (.inr (.inl ⟨on, member⟩)), whole⟩
  · obtain ⟨isMark, on, sequence, member, whole⟩ := doubled?_eq_some found
    exact ⟨isMark, sequence, mem_replaceable.2 (.inr (.inr (.inl ⟨on, member⟩))), whole⟩

/-- A text at whose start nothing is replaced does not begin with several characters that are. -/
theorem not_prefix_of_sequence? {text : Text} (none : sequence? options text = none) :
    (options.ellipses = true → ∀ sequence ∈ dots, ¬ sequence <+: text) ∧
      (options.dashes ≠ .off → ∀ sequence ∈ hyphens, ¬ sequence <+: text) ∧
        (options.backticks = true → ∀ sequence ∈ doubledQuotes, ¬ sequence <+: text) := by
  simp only [sequence?, Option.orElse_eq_orElse, Option.orElse_eq_or, Option.or_eq_none_iff] at none
  obtain ⟨noEllipsis, noDash, noDoubled⟩ := none
  refine ⟨?_, ?_, ?_⟩
  · rintro on sequence member ⟨rest, rfl⟩
    simp only [dots, List.mem_cons, List.not_mem_nil, or_false] at member
    rcases member with rfl | rfl <;> simp [ellipsis?, on] at noEllipsis
  · rintro on sequence member ⟨rest, rfl⟩
    simp only [hyphens, List.mem_cons, List.not_mem_nil, or_false] at member
    rcases member with rfl | rfl
    · simp [dash?, on] at noDash
    · -- A third hyphen may follow the two.
      cases rest with
      | nil => simp [dash?, on] at noDash
      | cons c rest =>
        by_cases third : c = '-'
        · simp [dash?, on, third] at noDash
        · simp [dash?, on, third] at noDash
  · rintro on sequence member ⟨rest, rfl⟩
    simp only [doubledQuotes, List.mem_cons, List.not_mem_nil, or_false] at member
    rcases member with rfl | rfl <;> simp [doubled?, on] at noDoubled

/-- A mark for one character takes the place of a straight quote. -/
theorem quote?_eq_some {before after : CharClass} {c mark : Char}
    (found : quote? options before after c = some mark) :
    mark ∈ marks ∧ options.quotes = true ∧ [c] ∈ straightQuotes := by
  rw [quote?] at found
  split at found
  · cases found
  · rename_i on
    have on : options.quotes = true := by simpa using on
    split at found
    · rename_i double
      cases found
      exact ⟨by split <;> decide, on, double ▸ List.mem_cons_self⟩
    · split at found
      · rename_i single
        cases found
        exact ⟨by split <;> decide, on, single ▸ List.mem_cons_of_mem _ List.mem_cons_self⟩
      · cases found

/-- A character that is no mark afterwards is no straight quote, if these are replaced. -/
theorem not_mem_of_quote? {before after : CharClass} {c : Char}
    (none : quote? options before after c = none) (on : options.quotes = true) :
    [c] ∉ straightQuotes := by
  intro member
  simp only [straightQuotes, List.mem_cons, List.cons.injEq, and_true, List.not_mem_nil, or_false]
    at member
  rcases member with rfl | rfl <;> simp [quote?, on] at none

/-- The class of the last character of a text, or `before` if there is none. -/
def lastClass (before : CharClass) (text : Text) : CharClass :=
  text.foldl (fun _ c => classify (some c)) before

/-- The class of the last character is looked for behind the first. -/
theorem lastClass_cons (before : CharClass) (c : Char) (rest : Text) :
    lastClass before (c :: rest) = lastClass (classify (some c)) rest := rfl

/-- The class of the last character of two texts is that of the second, read after the first. -/
theorem lastClass_append (before : CharClass) (front back : Text) :
    lastClass before (front ++ back) = lastClass (lastClass before front) back :=
  List.foldl_append

/-- A sequence ends in punctuation. -/
theorem lastClass_of_replaceable {sequence : Text} (member : sequence ∈ replaceable options)
    {before : CharClass} : lastClass before sequence = .punctuation := by
  have all : ∀ sequence ∈ dots ++ (hyphens ++ (doubledQuotes ++ straightQuotes)),
      lastClass .edge sequence = .punctuation := by decide
  have nonempty := (replaceable_shape member).1
  have own := all sequence (replaceable_subset member)
  cases sequence with
  | nil => exact absurd rfl nonempty
  | cons c rest => exact own

/-- A character that a mark takes the place of is punctuation. -/
theorem classify_of_quote? {before after : CharClass} {c mark : Char}
    (found : quote? options before after c = some mark) :
    classify (some c) = .punctuation := by
  obtain ⟨_, on, quote⟩ := quote?_eq_some found
  have single : lastClass .edge [c] = .punctuation :=
    lastClass_of_replaceable (mem_replaceable.2 (.inr (.inr (.inr ⟨on, quote⟩))))
  exact single

/-- A mark is punctuation. -/
theorem classify_of_mem_marks {mark : Char} (isMark : mark ∈ marks) :
    classify (some mark) = .punctuation := by
  have all : (marks.all fun mark => classify (some mark) = .punctuation) = true := by decide
  exact of_decide_eq_true (List.all_eq_true.1 all mark isMark)

/-- What a run makes of a text: marks for sequences at whose start it comes, and every other
character as it is. -/
inductive Sets (options : TypographyOptions) : Text → Text → Prop
  | nil : Sets options [] []
  | mark {sequence rest out : Text} {mark : Char} (member : sequence ∈ replaceable options)
      (isMark : mark ∈ marks) (later : Sets options rest out) :
      Sets options (sequence ++ rest) (mark :: out)
  | keep {c : Char} {rest out : Text}
      (clear : ∀ sequence ∈ replaceable options, ¬ sequence <+: c :: rest)
      (later : Sets options rest out) : Sets options (c :: rest) (c :: out)

section

variable {before : CharClass} {c mark : Char} {rest after : Text}

/-- A sequence at the start of a text becomes its mark. -/
theorem smarten_of_sequence (found : sequence? options (c :: rest) = some (mark, after)) :
    smarten options before (c :: rest) =
      (mark :: (smarten options .punctuation after).1, (smarten options .punctuation after).2) := by
  rw [smarten]
  split <;> rename_i found' <;> rw [found] at found' <;> cases found'
  rfl

/-- A straight quote at the start of a text becomes its mark. -/
theorem smarten_of_quote (whole : sequence? options (c :: rest) = none)
    (found : quote? options before (classify rest.head?) c = some mark) :
    smarten options before (c :: rest) =
      (mark :: (smarten options .punctuation rest).1, (smarten options .punctuation rest).2) := by
  rw [smarten]
  split <;> rename_i found' <;> rw [whole] at found' <;> cases found'
  rw [found]

/-- Any other character at the start of a text is kept. -/
theorem smarten_of_kept (whole : sequence? options (c :: rest) = none)
    (unquoted : quote? options before (classify rest.head?) c = none) :
    smarten options before (c :: rest) =
      (c :: (smarten options (classify (some c)) rest).1,
        (smarten options (classify (some c)) rest).2) := by
  rw [smarten]
  split <;> rename_i found' <;> rw [whole] at found' <;> cases found'
  rw [unquoted]

/-- Where nothing is replaced, a text does not begin with a sequence. -/
theorem not_prefix_of_kept (whole : sequence? options (c :: rest) = none)
    (unquoted : quote? options before (classify rest.head?) c = none) :
    ∀ sequence ∈ replaceable options, ¬ sequence <+: c :: rest := by
  obtain ⟨noDots, noHyphens, noDoubled⟩ := not_prefix_of_sequence? whole
  intro sequence member begins
  rcases mem_replaceable.1 member with ⟨on, dots⟩ | ⟨on, hyphens⟩ | ⟨on, doubled⟩ | ⟨on, quote⟩
  · exact noDots on sequence dots begins
  · exact noHyphens on sequence hyphens begins
  · exact noDoubled on sequence doubled begins
  · have single : sequence = [c] := by
      have all : ∀ quote ∈ straightQuotes, quote.length = 1 := by decide
      obtain ⟨d, rfl⟩ := List.length_eq_one_iff.1 (all sequence quote)
      rw [(List.cons_prefix_cons.1 begins).1]
    exact not_mem_of_quote? unquoted on (single ▸ quote)

end

/-- Setting the punctuation of a text is such a run. -/
theorem sets_smarten (options : TypographyOptions) (before : CharClass) (text : Text) :
    Sets options text (smarten options before text).1 := by
  induction before, text using smarten.induct options with
  | case1 before =>
    rw [smarten]
    exact .nil
  | case2 before c rest mark after found out last run ih =>
    obtain ⟨isMark, sequence, member, whole⟩ := sequence?_eq_some found
    rw [smarten_of_sequence found, whole]
    exact .mark member isMark ih
  | case3 before c rest whole mark found out last run ih =>
    obtain ⟨isMark, on, quote⟩ := quote?_eq_some found
    rw [smarten_of_quote whole found]
    exact .mark (mem_replaceable.2 (.inr (.inr (.inr ⟨on, quote⟩)))) isMark ih
  | case4 before c rest whole unquoted out last run ih =>
    rw [smarten_of_kept whole unquoted]
    exact .keep (not_prefix_of_kept whole unquoted) ih

namespace Sets

variable {text out : Text}

/-- What stands at the start of the result and has no mark in it stood at the start of the text. -/
theorem begins_of_begins (sets : Sets options text out) {part : Text}
    (plain : ∀ c ∈ part, c ∉ marks) (begins : part <+: out) : part <+: text := by
  induction sets generalizing part with
  | nil => exact begins
  | mark _ isMark _ _ =>
    cases part with
    | nil => exact List.nil_prefix
    | cons c part =>
      rw [(List.cons_prefix_cons.1 begins).1] at plain
      exact absurd isMark (plain _ List.mem_cons_self)
  | keep _ _ ih =>
    cases part with
    | nil => exact List.nil_prefix
    | cons c part =>
      obtain ⟨same, inside⟩ := List.cons_prefix_cons.1 begins
      exact List.cons_prefix_cons.2
        ⟨same, ih (fun d member => plain d (List.mem_cons_of_mem _ member)) inside⟩

/-- No sequence is left in the result. -/
theorem clear_of_sequences (sets : Sets options text out) :
    ∀ sequence ∈ replaceable options, ¬ sequence <:+: out := by
  intro sequence member inside
  obtain ⟨nonempty, chars⟩ := replaceable_shape member
  have plain : ∀ c ∈ sequence, c ∉ marks := fun c inSequence =>
    not_mark_of_replaceable c (chars inSequence)
  induction sets with
  | nil => exact nonempty (List.infix_nil.1 inside)
  | mark _ isMark _ ih =>
    rcases List.infix_cons_iff.1 inside with begins | later
    · cases sequence with
      | nil => exact nonempty rfl
      | cons c sequence =>
        rw [(List.cons_prefix_cons.1 begins).1] at plain
        exact plain _ List.mem_cons_self isMark
    · exact ih later
  | keep clear later ih =>
    rcases List.infix_cons_iff.1 inside with begins | inside
    · exact clear sequence member ((Sets.keep clear later).begins_of_begins plain begins)
    · exact ih inside

/-- A text without sequences is kept. -/
theorem eq_of_clear (sets : Sets options text out)
    (normal : ∀ sequence ∈ replaceable options, ¬ sequence <:+: text) : out = text := by
  induction sets with
  | nil => rfl
  | mark member _ _ _ => exact absurd (List.prefix_append _ _).isInfix (normal _ member)
  | keep _ _ ih =>
    refine congrArg _ (ih fun sequence member inside => normal sequence member ?_)
    exact List.infix_cons_iff.2 (.inr inside)

/-- The result has no more characters than the text. -/
theorem length_le (sets : Sets options text out) : out.length ≤ text.length := by
  induction sets with
  | nil => exact Nat.le_refl _
  | mark member _ _ ih =>
    have positive := List.length_pos_iff.2 (replaceable_shape member).1
    rw [List.length_append, List.length_cons]
    omega
  | keep _ _ ih => exact Nat.succ_le_succ ih

/-- Characters of a kind to which neither a mark nor a replaced character belongs stay as they are,
in order. -/
theorem filter_eq (sets : Sets options text out) {kind : Char → Bool}
    (marks : marks.filter kind = []) (replaced : replaceableChars.filter kind = []) :
    out.filter kind = text.filter kind := by
  induction sets with
  | nil => rfl
  | @mark sequence rest out mark member isMark _ ih =>
    have gone : sequence.filter kind = [] := by
      refine List.filter_eq_nil_iff.2 fun c inSequence => ?_
      exact List.filter_eq_nil_iff.1 replaced c ((replaceable_shape member).2 inSequence)
    rw [List.filter_append, gone, List.nil_append, ← ih,
      List.filter_cons_of_neg (List.filter_eq_nil_iff.1 marks _ isMark)]
  | keep _ _ ih => rw [List.filter_cons, List.filter_cons, ih]

/-- The last character of the result is of the class of the last character of the text. -/
theorem lastClass_eq (sets : Sets options text out) (before : CharClass) :
    lastClass before out = lastClass before text := by
  induction sets generalizing before with
  | nil => rfl
  | mark member isMark _ ih =>
    rw [lastClass_append, lastClass_of_replaceable member, lastClass_cons,
      classify_of_mem_marks isMark, ih]
  | keep _ _ ih => exact ih _

end Sets

/-- A text in which no punctuation is left to be set. -/
structure IsNormal (options : TypographyOptions) (text : Text) : Prop where
  quotes : options.quotes = true → '"' ∉ text ∧ '\'' ∉ text
  ellipses : options.ellipses = true → ¬ "...".toList <:+: text ∧ ¬ ". . .".toList <:+: text
  dashes : options.dashes ≠ .off → ¬ "--".toList <:+: text
  backticks : options.backticks = true →
    ¬ "\x60\x60".toList <:+: text ∧ ¬ "''".toList <:+: text

/-- A text is normal when no sequence stands in it. -/
theorem isNormal_iff {text : Text} :
    IsNormal options text ↔ ∀ sequence ∈ replaceable options, ¬ sequence <:+: text := by
  constructor
  · intro normal sequence member
    rcases mem_replaceable.1 member with ⟨on, inside⟩ | ⟨on, inside⟩ | ⟨on, inside⟩ | ⟨on, inside⟩
    · rcases List.mem_pair.1 inside with rfl | rfl
      · exact (normal.ellipses on).1
      · exact (normal.ellipses on).2
    · have two : "--".toList <:+: sequence := by
        rcases List.mem_pair.1 inside with rfl | rfl <;> decide
      exact fun inText => normal.dashes on (two.trans inText)
    · rcases List.mem_pair.1 inside with rfl | rfl
      · exact (normal.backticks on).1
      · exact (normal.backticks on).2
    · rcases List.mem_pair.1 inside with rfl | rfl
      · exact mt (List.singleton_infix_iff _ _).1 (normal.quotes on).1
      · exact mt (List.singleton_infix_iff _ _).1 (normal.quotes on).2
  · intro clear
    have member {sequence : Text} := @mem_replaceable options sequence
    constructor
    · intro on
      constructor <;> refine mt (List.singleton_infix_iff _ _).2 (clear _ (member.2 ?_))
      · exact .inr (.inr (.inr ⟨on, by decide⟩))
      · exact .inr (.inr (.inr ⟨on, by decide⟩))
    · intro on
      exact ⟨clear _ (member.2 (.inl ⟨on, by decide⟩)), clear _ (member.2 (.inl ⟨on, by decide⟩))⟩
    · intro on
      exact clear _ (member.2 (.inr (.inl ⟨on, by decide⟩)))
    · intro on
      exact ⟨clear _ (member.2 (.inr (.inr (.inl ⟨on, by decide⟩)))),
        clear _ (member.2 (.inr (.inr (.inl ⟨on, by decide⟩))))⟩

/-- Setting the punctuation of a text ends at a character of the class of its last one. -/
theorem last_smarten (options : TypographyOptions) (before : CharClass) (text : Text) :
    (smarten options before text).2 = lastClass before text := by
  induction before, text using smarten.induct options with
  | case1 before =>
    rw [smarten]
    rfl
  | case2 before c rest mark after found out last run ih =>
    obtain ⟨_, sequence, member, whole⟩ := sequence?_eq_some found
    rw [smarten_of_sequence found, whole, lastClass_append, lastClass_of_replaceable member]
    exact ih
  | case3 before c rest whole mark found out last run ih =>
    rw [smarten_of_quote whole found, lastClass_cons, classify_of_quote? found]
    exact ih
  | case4 before c rest whole unquoted out last run ih =>
    rw [smarten_of_kept whole unquoted]
    exact ih

/-- Setting the punctuation of a text makes it normal. -/
theorem isNormal_smarten (options : TypographyOptions) (before : CharClass) (text : Text) :
    IsNormal options (smarten options before text).1 :=
  isNormal_iff.2 (sets_smarten options before text).clear_of_sequences

/-- A normal text is kept as it is. -/
theorem smarten_of_isNormal {text : Text} (normal : IsNormal options text) (before : CharClass) :
    (smarten options before text).1 = text :=
  (sets_smarten options before text).eq_of_clear (isNormal_iff.1 normal)

/-- Setting the punctuation of a text keeps its letters and numbers. -/
theorem alphanumerics_smarten (options : TypographyOptions) (before : CharClass) (text : Text) :
    (smarten options before text).1.filter Text.isAlphanumeric =
      text.filter Text.isAlphanumeric :=
  (sets_smarten options before text).filter_eq (by decide +kernel) (by decide +kernel)

end

end Manuscript.SmartPunctuation
