import Manuscript.Proofs.Emoji.Piece

/-!
# The longest emoji

Of the emoji at the start of a text the longest one counts (`longestAt?_eq_some_iff`). It is the one
that is found by trying the starts of the text from the longest that an emoji can have down to a
single character (`longestAt?_eq_searchWithin`).
-/

namespace Manuscript.Emoji

/-- The longest emoji at the start of a text, in the table's spelling of its characters. -/
structure IsLongestAt (text : Text) (emoji : Emoji) : Prop where
  known : get? emoji.sequence = some emoji
  begins : emoji.sequence <+: text
  longest : ∀ other ∈ table, other.sequence <+: text →
    other.sequence.length ≤ emoji.sequence.length

/-- What is found for a text is an emoji of the table with these characters. -/
theorem get?_eq_some {text : Text} {emoji : Emoji} (found : get? text = some emoji) :
    emoji ∈ table ∧ emoji.sequence = text := by
  rw [get?] at found
  exact ⟨List.mem_of_find?_eq_some found, by simpa using List.find?_some found⟩

/-- The sequence of every emoji is found in the table. -/
theorem get?_isSome_of_mem {emoji : Emoji} (known : emoji ∈ table) :
    (get? emoji.sequence).isSome = true := by
  rw [get?, List.find?_isSome]
  exact ⟨emoji, known, decide_eq_true rfl⟩

/-- There are not two longest emoji at the start of a text. -/
theorem IsLongestAt.unique {text : Text} {emoji other : Emoji} (first : IsLongestAt text emoji)
    (second : IsLongestAt text other) : emoji = other := by
  have shorter := second.longest emoji (get?_eq_some first.known).1 first.begins
  have longer := first.longest other (get?_eq_some second.known).1 second.begins
  have same : emoji.sequence = other.sequence :=
    (List.prefix_of_prefix_length_le first.begins second.begins shorter).eq_of_length
      (Nat.le_antisymm shorter longer)
  have found := first.known
  rw [same, second.known] at found
  exact (Option.some.inj found).symm

/-- The first of several emoji that none of the others is longer than. -/
def IsFirstLongest (emoji : Emoji) (among : List Emoji) : Prop :=
  ∃ front back, among = front ++ emoji :: back ∧
    (∀ other ∈ front, other.sequence.length < emoji.sequence.length) ∧
      ∀ other ∈ back, other.sequence.length ≤ emoji.sequence.length

namespace IsFirstLongest

variable {emoji : Emoji} {among : List Emoji}

/-- None of the others is longer than the first of the longest. -/
theorem longest (first : IsFirstLongest emoji among) :
    ∀ other ∈ among, other.sequence.length ≤ emoji.sequence.length := by
  obtain ⟨front, back, rfl, before, behind⟩ := first
  intro other member
  rcases List.mem_append.1 member with member | member
  · exact Nat.le_of_lt (before other member)
  · rcases List.mem_cons.1 member with rfl | member
    · exact Nat.le_refl _
    · exact behind other member

/-- A shorter one may come before. -/
theorem cons (first : IsFirstLongest emoji among) {shorter : Emoji}
    (short : shorter.sequence.length < emoji.sequence.length) :
    IsFirstLongest emoji (shorter :: among) := by
  obtain ⟨front, back, rfl, before, behind⟩ := first
  exact ⟨shorter :: front, back, rfl, List.forall_mem_cons.2 ⟨short, before⟩, behind⟩

/-- One that is no longer than the first may come second. -/
theorem insert {other second : Emoji} (first : IsFirstLongest emoji (other :: among))
    (short : second.sequence.length ≤ other.sequence.length) :
    IsFirstLongest emoji (other :: second :: among) := by
  obtain ⟨front, back, whole, before, behind⟩ := first
  cases front with
  | nil =>
    obtain ⟨rfl, rfl⟩ := List.cons.inj whole
    exact ⟨[], _, rfl, before, List.forall_mem_cons.2 ⟨short, behind⟩⟩
  | cons head front =>
    obtain ⟨rfl, rfl⟩ := List.cons.inj whole
    obtain ⟨own, others⟩ := List.forall_mem_cons.1 before
    refine ⟨other :: second :: front, back, rfl, ?_, behind⟩
    exact List.forall_mem_cons.2 ⟨own, List.forall_mem_cons.2 ⟨by omega, others⟩⟩

end IsFirstLongest

/-- Going through emoji, the first longest one is kept. -/
theorem exists_foldl_longer (emoji : Emoji) (more : List Emoji) :
    ∃ winner, more.foldl longer (some emoji) = some winner ∧
      IsFirstLongest winner (emoji :: more) := by
  induction more generalizing emoji with
  | nil => exact ⟨emoji, rfl, [], [], rfl, nofun, nofun⟩
  | cons other rest ih =>
    rw [List.foldl_cons, longer]
    split
    · rename_i larger
      obtain ⟨winner, kept, first⟩ := ih other
      have bound := first.longest other List.mem_cons_self
      exact ⟨winner, kept, first.cons (by omega)⟩
    · rename_i smaller
      obtain ⟨winner, kept, first⟩ := ih emoji
      exact ⟨winner, kept, first.insert (by omega)⟩

/-- Emoji that are shorter than a given one are not spelled like it. -/
theorem find?_eq_none_of_shorter {emoji : Emoji} {front : List Emoji}
    (shorter : ∀ other ∈ front, other.sequence.length < emoji.sequence.length) :
    front.find? (fun other => other.sequence = emoji.sequence) = none := by
  refine List.find?_eq_none.2 fun other member => ?_
  have short := shorter other member
  simp only [decide_eq_true_eq]
  intro equal
  rw [equal] at short
  omega

/-- What is sought can be sought among those alone that pass a test which it passes. -/
theorem find?_filter_of_imp {kept sought : Emoji → Bool} {entries : List Emoji}
    (passes : ∀ emoji, sought emoji = true → kept emoji = true) :
    (entries.filter kept).find? sought = entries.find? sought := by
  have narrower : (fun emoji => decide (kept emoji = true ∧ sought emoji = true)) = sought := by
    funext emoji
    cases isSought : sought emoji with
    | false => simp
    | true => simp [passes emoji isSought]
  rw [List.find?_filter, narrower]

/-- The emoji that is chosen is the longest that the text begins with. -/
theorem isLongestAt_of_longestAt? {text : Text} {emoji : Emoji}
    (chosen : longestAt? text = some emoji) : IsLongestAt text emoji := by
  have beginning {other : Emoji} :
      other ∈ table.filter (fun emoji => emoji.sequence.isPrefixOf text) ↔
        other ∈ table ∧ other.sequence <+: text := by
    rw [List.mem_filter, List.isPrefixOf_iff_prefix]
  rw [longestAt?] at chosen
  cases candidates : table.filter (fun emoji => emoji.sequence.isPrefixOf text) with
  | nil =>
    rw [candidates] at chosen
    cases chosen
  | cons first more =>
    obtain ⟨winner, kept, isFirst⟩ := exists_foldl_longer first more
    rw [candidates, List.foldl_cons, longer, kept] at chosen
    cases chosen
    have longest := isFirst.longest
    rw [← candidates] at longest isFirst
    obtain ⟨front, back, whole, before, _⟩ := isFirst
    have begins : emoji ∈ table ∧ emoji.sequence <+: text := by simp [← beginning, whole]
    refine ⟨?_, begins.2, fun other known starts => longest other (beginning.2 ⟨known, starts⟩)⟩
    -- Those before it are shorter, so that the table has none of the same characters before it.
    rw [get?, ← find?_filter_of_imp fun other equal => ?_, whole, List.find?_append,
      find?_eq_none_of_shorter before, Option.none_or]
    · exact List.find?_cons_of_pos (decide_eq_true rfl)
    · rw [of_decide_eq_true equal]
      exact List.isPrefixOf_iff_prefix.2 begins.2

/-- The emoji that is chosen at the start of a text is the longest one there. -/
theorem longestAt?_eq_some_iff {text : Text} {emoji : Emoji} :
    longestAt? text = some emoji ↔ IsLongestAt text emoji := by
  refine ⟨isLongestAt_of_longestAt?, fun longest => ?_⟩
  cases chosen : longestAt? text with
  | none =>
    have known := (get?_eq_some longest.known).1
    exact absurd longest.begins (longestAt?_eq_none_iff.1 chosen _ known)
  | some other => rw [(isLongestAt_of_longestAt? chosen).unique longest]

/-! ## Trying lengths -/

/-- The emoji that is found by trying the starts of a text from so many characters down to one. -/
def searchWithin (text : Text) : Nat → Option Emoji
  | 0 => none
  | length + 1 => (get? (text.take (length + 1))).or (searchWithin text length)

/-- A search from the longest length down finds an emoji of the first length that has one. -/
theorem searchWithin_eq_some {text : Text} {limit : Nat} {emoji : Emoji}
    (found : searchWithin text limit = some emoji) :
    ∃ length, get? (text.take length) = some emoji ∧
      ∀ longer, length < longer → longer ≤ limit → get? (text.take longer) = none := by
  induction limit with
  | zero => cases found
  | succ limit ih =>
    rw [searchWithin] at found
    cases here : get? (text.take (limit + 1)) with
    | some other =>
      rw [here, Option.some_or] at found
      exact ⟨limit + 1, here.trans found, fun longer above within => by omega⟩
    | none =>
      rw [here, Option.none_or] at found
      obtain ⟨length, known, others⟩ := ih found
      refine ⟨length, known, fun longer above within => ?_⟩
      by_cases last : longer = limit + 1
      · rw [last, here]
      · exact others longer above (by omega)

/-- A search that finds none has found none of any length. -/
theorem searchWithin_eq_none {text : Text} {limit : Nat} (absent : searchWithin text limit = none) :
    ∀ length, 0 < length → length ≤ limit → get? (text.take length) = none := by
  induction limit with
  | zero => intro length positive within; omega
  | succ limit ih =>
    rw [searchWithin, Option.or_eq_none_iff] at absent
    intro length positive within
    by_cases last : length = limit + 1
    · rw [last, absent.1]
    · exact ih absent.2 length positive (by omega)

/-- No emoji of the table is empty or too long. -/
theorem length_bounds {emoji : Emoji} (known : emoji ∈ table) :
    0 < emoji.sequence.length ∧ emoji.sequence.length ≤ lengthLimit := by
  obtain ⟨⟨nonempty, short⟩, _⟩ := isSequence_iff.1 (isSequence_of_mem_table known)
  exact ⟨List.length_pos_iff.2 nonempty, short⟩

/-- The longest emoji at the start of a text is found by trying lengths up to the limit. -/
theorem longestAt?_eq_searchWithin (text : Text) :
    longestAt? text = searchWithin text (min text.length lengthLimit) := by
  -- An emoji at the start of the text is found when its own length is tried.
  have tried : ∀ emoji ∈ table, emoji.sequence <+: text →
      emoji.sequence.length ≤ min text.length lengthLimit ∧
        (get? (text.take emoji.sequence.length)).isSome = true := by
    intro emoji known begins
    refine ⟨Nat.le_min.2 ⟨begins.length_le, (length_bounds known).2⟩, ?_⟩
    rw [← List.prefix_iff_eq_take.1 begins]
    exact get?_isSome_of_mem known
  cases found : searchWithin text (min text.length lengthLimit) with
  | none =>
    refine longestAt?_eq_none_iff.2 fun emoji known begins => ?_
    obtain ⟨within, isSome⟩ := tried emoji known begins
    rw [searchWithin_eq_none found _ (length_bounds known).1 within] at isSome
    cases isSome
  | some emoji =>
    obtain ⟨length, known, others⟩ := searchWithin_eq_some found
    obtain ⟨inTable, spelled⟩ := get?_eq_some known
    refine longestAt?_eq_some_iff.2 ⟨spelled ▸ known, spelled ▸ List.take_prefix length text, ?_⟩
    intro other otherKnown begins
    obtain ⟨within, isSome⟩ := tried other otherKnown begins
    refine Nat.le_of_not_lt fun longer => ?_
    have short : length < other.sequence.length := by
      have size : emoji.sequence.length = min length text.length := by
        rw [spelled, List.length_take]
      have := begins.length_le
      omega
    rw [others _ short within] at isSome
    cases isSome

end Manuscript.Emoji
