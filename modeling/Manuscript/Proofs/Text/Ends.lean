import Manuscript.Text.Blank

/-!
# The ends of a text

A text is what trimming leaves of it with blanks on either side (`blanks_trim_blanks`), and nothing
else that begins and ends without blanks (`trim_of_isTight`). What remains before a given end is the
text without it (`dropBack?_eq_some_iff`). A text that stands anywhere in another is found by the
search for it (`contains_of_infix`).
-/

namespace Manuscript.Text

/-- A text has `back` at its end exactly when it is `back` with something before it. -/
theorem dropBack?_eq_some_iff {back text front : Text} :
    dropBack? back text = some front ↔ text = front ++ back := by
  rw [dropBack?, Option.map_eq_some_iff]
  constructor
  · rintro ⟨reversed, found, rfl⟩
    have whole := congrArg List.reverse (dropFront?_eq_some_iff.1 found)
    simpa using whole
  · rintro rfl
    exact ⟨front.reverse, dropFront?_eq_some_iff.2 (by simp), List.reverse_reverse front⟩

/-- A text is blank when its characters are. -/
theorem isBlankText_cons {c : Char} {rest : Text} :
    isBlankText (c :: rest) = true ↔ isBlank c = true ∧ isBlankText rest = true := by
  rw [isBlankText, List.all_cons, Bool.and_eq_true]
  rfl

/-- The blanks at the start of a text are blank. -/
theorem isBlankText_takeWhile (text : Text) : isBlankText (text.takeWhile isBlank) = true :=
  List.all_takeWhile

/-- Text without the blanks at its end is the start of the text, and the rest is blank. -/
theorem trimEnd_blanks (text : Text) :
    ∃ blanks, isBlankText blanks = true ∧ text = trimEnd text ++ blanks := by
  refine ⟨(text.reverse.takeWhile isBlank).reverse, ?_, ?_⟩
  · rw [isBlankText, List.all_reverse]
    exact isBlankText_takeWhile _
  · rw [trimEnd, ← List.reverse_append, List.takeWhile_append_dropWhile, List.reverse_reverse]

/-- A text is its trimmed form with the blanks at its start before it and blanks after it. -/
theorem blanks_trim_blanks (text : Text) :
    ∃ blanks, isBlankText blanks = true ∧
      text = text.takeWhile isBlank ++ (trim text ++ blanks) := by
  obtain ⟨blanks, blank, whole⟩ := trimEnd_blanks (trimStart text)
  refine ⟨blanks, blank, ?_⟩
  rw [trim, ← whole, trimStart, List.takeWhile_append_dropWhile]

/-- A blank text before another does not count when the start is trimmed. -/
theorem trimStart_append {blanks : Text} (blank : isBlankText blanks = true) (text : Text) :
    trimStart (blanks ++ text) = trimStart text := by
  induction blanks with
  | nil => rfl
  | cons c rest ih =>
    obtain ⟨isBlank, later⟩ := isBlankText_cons.1 blank
    rw [trimStart, List.cons_append, List.dropWhile_cons_of_pos isBlank]
    exact ih later

/-- Trimming leaves nothing of a blank text, and of no other. -/
theorem trim_eq_nil_iff {text : Text} : trim text = [] ↔ isBlankText text = true := by
  constructor
  · intro empty
    obtain ⟨blanks, blank, whole⟩ := blanks_trim_blanks text
    rw [whole, empty, List.nil_append, isBlankText, List.all_append, Bool.and_eq_true]
    exact ⟨isBlankText_takeWhile text, blank⟩
  · intro blank
    have start := trimStart_append blank []
    rw [List.append_nil] at start
    rw [trim, start]
    rfl

/-! ## Trimming from both sides -/

/-- A text with no blank at either end. -/
structure IsTight (text : Text) : Prop where
  first : ∀ c ∈ text.head?, isBlank c = false
  last : ∀ c ∈ text.getLast?, isBlank c = false

/-- A text with no blank at its start stays when its start is trimmed. -/
theorem trimStart_of_first {text : Text} (first : ∀ c ∈ text.head?, isBlank c = false) :
    trimStart text = text := by
  cases text with
  | nil => rfl
  | cons c rest => exact List.dropWhile_cons_of_neg (by simp [first c rfl])

/-- Blanks are taken from the end as from the start of the reversed text. -/
theorem trimEnd_eq_reverse (text : Text) : trimEnd text = (trimStart text.reverse).reverse :=
  rfl

/-- A blank text is blank when reversed. -/
theorem isBlankText_reverse {text : Text} (blank : isBlankText text = true) :
    isBlankText text.reverse = true := by
  rwa [isBlankText, List.all_reverse]

/-- A text with no blank at its end stays when blanks after it are trimmed. -/
theorem trimEnd_append_of_last {text blanks : Text} (last : ∀ c ∈ text.getLast?, isBlank c = false)
    (blank : isBlankText blanks = true) : trimEnd (text ++ blanks) = text := by
  have first : ∀ c ∈ text.reverse.head?, isBlank c = false := by rwa [List.head?_reverse]
  rw [trimEnd_eq_reverse, List.reverse_append, trimStart_append (isBlankText_reverse blank),
    trimStart_of_first first, List.reverse_reverse]

/-- Without the blanks at its start, a text begins with none. -/
theorem head?_trimStart (text : Text) : ∀ c ∈ (trimStart text).head?, isBlank c = false := by
  intro c first
  have := List.head?_dropWhile_not isBlank text
  rw [trimStart] at first
  rw [Option.mem_def.1 first] at this
  simpa using this

/-- Trimming leaves no blank at either end. -/
theorem isTight_trim (text : Text) : IsTight (trim text) where
  first := by
    obtain ⟨blanks, _, whole⟩ := trimEnd_blanks (trimStart text)
    intro c first
    refine head?_trimStart text c ?_
    rw [whole, List.head?_append]
    rw [trim] at first
    rw [Option.mem_def.1 first]
    rfl
  last := by
    rw [trim, trimEnd_eq_reverse, List.getLast?_reverse]
    exact head?_trimStart _

/-- Trimming gives the text between blanks. -/
theorem trim_of_isTight {front text back : Text} (before : isBlankText front = true)
    (tight : IsTight text) (after : isBlankText back = true) :
    trim (front ++ (text ++ back)) = text := by
  rw [trim, trimStart_append before]
  cases text with
  | nil =>
    rw [List.nil_append, ← List.append_nil back, trimStart_append after]
    rfl
  | cons c rest =>
    have start : trimStart (c :: rest ++ back) = c :: rest ++ back := trimStart_of_first tight.first
    rw [start, trimEnd_append_of_last tight.last after]

/-- A text with no blank at either end stays when it is trimmed. -/
theorem IsTight.trim_eq {text : Text} (tight : IsTight text) : trim text = text := by
  have none : isBlankText [] = true := rfl
  have trimmed := trim_of_isTight none tight none
  rwa [List.nil_append, List.append_nil] at trimmed

/-- Text without the blanks at its end has blanks before its trimmed form. -/
theorem blanks_trimEnd (text : Text) :
    ∃ blanks, isBlankText blanks = true ∧ trimEnd text = blanks ++ trim text := by
  obtain ⟨back, blank, whole⟩ := blanks_trim_blanks text
  by_cases empty : trim text = []
  · refine ⟨[], rfl, ?_⟩
    have none := trimStart_append (isBlankText_reverse (trim_eq_nil_iff.1 empty)) []
    rw [List.append_nil] at none
    rw [trimEnd_eq_reverse, none, empty]
    rfl
  · refine ⟨text.takeWhile isBlank, isBlankText_takeWhile text, ?_⟩
    have last : ∀ c ∈ (text.takeWhile isBlank ++ trim text).getLast?, isBlank c = false := by
      obtain ⟨d, more, isEnd⟩ := List.exists_cons_of_ne_nil empty
      have own := (isTight_trim text).last
      rw [List.getLast?_append, isEnd, List.getLast?_cons, Option.some_or]
      rwa [isEnd, List.getLast?_cons] at own
    calc trimEnd text
        = trimEnd (text.takeWhile isBlank ++ trim text ++ back) :=
          congrArg trimEnd (whole.trans (List.append_assoc _ _ _).symm)
      _ = text.takeWhile isBlank ++ trim text := trimEnd_append_of_last last blank

/-- Two texts with a space between them, trimmed: the space is left only if it has text on both
sides. -/
theorem trim_space (before after : Text) :
    trim (trimEnd before ++ ' ' :: trimStart after) =
      joinWith [' '] ([trim before, trim after].filter (!·.isEmpty)) := by
  obtain ⟨front, blankFront, isFront⟩ := blanks_trimEnd before
  obtain ⟨back, blankBack, isBack⟩ := trimEnd_blanks (trimStart after)
  rw [← trim] at isBack
  rw [isFront, isBack]
  have first := isTight_trim before
  have second := isTight_trim after
  -- Next to an empty side the space is one more blank at the end.
  cases isFirst : trim before with
  | nil =>
    have gap : isBlankText (front ++ [' ']) = true := by
      rw [isBlankText, List.all_append, Bool.and_eq_true]
      exact ⟨blankFront, rfl⟩
    have trimmed := trim_of_isTight gap second blankBack
    cases isSecond : trim after with
    | nil => simpa [isSecond, joinWith] using trimmed
    | cons c rest => simpa [isSecond, joinWith] using trimmed
  | cons c rest =>
    cases isSecond : trim after with
    | nil =>
      have gap : isBlankText (' ' :: back) = true := isBlankText_cons.2 ⟨by decide, blankBack⟩
      have trimmed := trim_of_isTight blankFront first gap
      simpa [isFirst, joinWith] using trimmed
    | cons d more =>
      have both : IsTight (trim before ++ ' ' :: trim after) := by
        refine ⟨?_, ?_⟩
        · have start := first.first
          rw [isFirst] at start ⊢
          exact start
        · have stop := second.last
          rw [isSecond] at stop ⊢
          simpa using stop
      have trimmed := trim_of_isTight blankFront both blankBack
      simpa [isFirst, isSecond, joinWith] using trimmed

/-! ## Words at the ends -/

/-- What begins with a character that it does not have again begins a trimmed text in which that
character follows a text exactly when it begins there after blanks, or begins what comes before. -/
theorem prefix_trimStart_append_iff {c : Char} {tail front rest : Text} (solid : isBlank c = false)
    (single : c ∉ tail) :
    c :: tail <+: trimStart (front ++ c :: rest) ↔
      (isBlankText front = true ∧ c :: tail <+: c :: rest) ∨ c :: tail <+: trimStart front := by
  cases blank : isBlankText front with
  | true =>
    have none : trimStart front = [] := by
      have start := trimStart_append blank []
      rwa [List.append_nil] at start
    rw [trimStart_append blank, trimStart, List.dropWhile_cons_of_neg (by simp [solid]), none]
    simp
  | false =>
    have nonempty : trimStart front ≠ [] := by
      intro none
      have all : isBlankText front = true := trim_eq_nil_iff.1 (by rw [trim, none]; rfl)
      rw [blank] at all
      cases all
    have whole : trimStart (front ++ c :: rest) = trimStart front ++ c :: rest := by
      rw [trimStart, List.dropWhile_append, if_neg]
      · rfl
      · exact fun empty => nonempty (List.isEmpty_iff.1 empty)
    rw [whole]
    constructor
    · intro begins
      rcases List.prefix_or_prefix_of_prefix begins (List.prefix_append _ _) with
        inside | ⟨more, same⟩
      · exact .inr inside
      · rw [← same, List.prefix_append_right_inj] at begins
        cases more with
        | nil =>
          rw [List.append_nil] at same
          exact .inr (same ▸ List.prefix_rfl)
        | cons d more =>
          -- The character would come again.
          obtain ⟨_, reading⟩ := begins
          obtain ⟨rfl, _⟩ := List.cons.inj reading
          obtain ⟨first, front', split⟩ := List.exists_cons_of_ne_nil nonempty
          rw [split] at same
          obtain ⟨_, later⟩ := List.cons.inj same
          rw [← later] at single
          exact absurd (List.mem_append_right front' List.mem_cons_self) single
    · rintro (⟨impossible, _⟩ | inside)
      · cases impossible
      · exact inside.trans (List.prefix_append _ _)

/-- What ends with a character that it does not have before ends a trimmed text in which that
character comes before a text exactly when it ends there before blanks, or ends what follows. -/
theorem suffix_trimEnd_append_iff {c : Char} {init back rest : Text} (solid : isBlank c = false)
    (single : c ∉ init) :
    init ++ [c] <:+ trimEnd (rest ++ [c] ++ back) ↔
      (isBlankText back = true ∧ init ++ [c] <:+ rest ++ [c]) ∨ init ++ [c] <:+ trimEnd back := by
  have backwards : ∀ text : Text, init ++ [c] <:+ text ↔
      c :: init.reverse <+: text.reverse := by
    intro text
    rw [← List.reverse_prefix, List.reverse_append]
    rfl
  have trimmed : ∀ text : Text, (trimEnd text).reverse = trimStart text.reverse :=
    fun text => List.reverse_reverse _
  have mirrored : isBlankText back.reverse = isBlankText back := List.all_reverse
  rw [backwards, backwards, backwards, trimmed, trimmed, List.reverse_append, List.reverse_append,
    ← mirrored]
  exact prefix_trimStart_append_iff solid (by rwa [List.mem_reverse])

/-- A text that stands in another is found there. -/
theorem contains_of_infix {needle text : Text} (inside : needle <:+: text) :
    contains needle text = true := by
  induction text with
  | nil => rw [List.infix_nil.1 inside]; rfl
  | cons c rest ih =>
    rw [contains, splitFirst?]
    cases begins : dropFront? needle (c :: rest) with
    | some after => rfl
    | none =>
      rcases List.infix_cons_iff.1 inside with ⟨after, whole⟩ | later
      · rw [dropFront?_eq_some_iff.2 whole.symm] at begins
        cases begins
      · rw [Option.isSome_map]
        exact ih later

end Manuscript.Text
