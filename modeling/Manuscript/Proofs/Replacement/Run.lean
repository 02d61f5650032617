import Manuscript.Proofs.Replacement.Place

/-!
# Runs of replacement rules

A run of a rule goes through a text from left to right, replaces what it finds and keeps every
character at which it finds nothing (`Sets`, `sets_applyFrom`). Each place that is replaced leaves a
mark behind, so that rules change a text exactly when there is a place for one of them in it
(`applyAll_eq_self_iff`).

A rule that looks for literal texts leaves no place behind, and the rules after it make none if they
spare its needles (`spares`, `not_occurs_applyAll`).
-/

namespace Manuscript.Replacement

/-- What a run of a rule makes of a text that stands after `before`: what it writes for what it
finds, and every other character as it is. -/
inductive Sets (rule : Replacement) : Option Char → Text → Text → Prop
  | nil {before : Option Char} : Sets rule before [] []
  | set {before : Option Char} {found image rest out : Text}
      (finds : rule.FindsAt before found rest) (writes : rule.Writes found image)
      (later : Sets rule (lastOf before found) rest out) :
      Sets rule before (found ++ rest) (image ++ out)
  | keep {before : Option Char} {c : Char} {rest out : Text}
      (clear : ¬ rule.FindsHere before (c :: rest)) (later : Sets rule (some c) rest out) :
      Sets rule before (c :: rest) (c :: out)

section

variable {rule : Replacement} {before : Option Char} {text out : Text}

/-- Several characters in a row are kept when there is a place at none of them. -/
theorem Sets.append {kept rest : Text}
    (clear : ∀ front c back, kept = front ++ c :: back →
      ¬ rule.FindsHere (lastOf before front) (c :: (back ++ rest)))
    (later : Sets rule (lastOf before kept) rest out) :
    Sets rule before (kept ++ rest) (kept ++ out) := by
  induction kept generalizing before with
  | nil => exact later
  | cons c kept ih =>
    refine .keep (clear [] c kept rfl) (ih ?_ later)
    rintro front d back rfl
    exact clear (c :: front) d back rfl

/-- There is no place inside a needle before the character that must not follow it. -/
theorem not_findsHere_of_forbidden {needle after : Text} {forbidden : Char}
    (search : rule.search = .unlessFollowed needle forbidden)
    (regular : rule.search.isRegular = true) (follows : after.head? = some forbidden)
    {front back : Text} {c : Char} (inside : needle = front ++ c :: back) :
    ¬ rule.FindsHere before (c :: (back ++ after)) := by
  rintro ⟨found, rest, whole, finds⟩
  simp only [FindsAt, search] at finds
  obtain ⟨rfl, unfollowed⟩ := finds
  cases front with
  | nil =>
    obtain rfl : found = c :: back := inside
    obtain rfl : after = rest := by simpa using whole
    exact unfollowed follows
  | cons d front =>
    -- The needle begins with its own first character, which does not come back in it.
    subst inside
    obtain ⟨rfl, _⟩ := List.cons.inj whole
    simp [search, Search.isRegular] at regular

/-- A run skips what it has found. -/
theorem applyFrom_append (rule : Replacement) (before : Option Char) (piece rest : Text) :
    applyFrom rule before piece.length (piece ++ rest) =
      applyFrom rule (lastOf before piece) 0 rest := by
  induction piece generalizing before with
  | nil => rfl
  | cons c piece ih => simp [applyFrom, ih]

/-- A run writes what is put in place of a piece and goes on behind it. -/
theorem applyFrom_of_matchAt? {piece after image : Text} (nonempty : piece ≠ [])
    (found : rule.matchAt? before (piece ++ after) = some (image, after)) :
    applyFrom rule before 0 (piece ++ after) =
      image ++ applyFrom rule (lastOf before piece) 0 after := by
  obtain ⟨c, piece, rfl⟩ := List.exists_cons_of_ne_nil nonempty
  rw [List.cons_append] at found
  simp [applyFrom, found, applyFrom_append]

/-- Applying a rule is such a run. -/
theorem sets_applyFrom (regular : rule.search.isRegular = true) (before : Option Char)
    (text : Text) : Sets rule before text (applyFrom rule before 0 text) := by
  induction size : text.length using Nat.strongRecOn generalizing before text with
  | ind size ih =>
    subst size
    cases found : rule.matchAt? before text with
    | some written =>
      obtain ⟨image, after⟩ := written
      rcases matchAt?_eq_some found with ⟨piece, rfl, finds, writes⟩ |
        ⟨forbidden, search, rfl, follows⟩
      · have nonempty := finds.nonempty regular
        rw [applyFrom_of_matchAt? nonempty found]
        have shorter := List.length_pos_iff.2 nonempty
        exact .set finds writes (ih _ (by simp; omega) _ _ rfl)
      · have nonempty : image ≠ [] := by
          rintro rfl
          simp [search, Search.isRegular] at regular
        rw [applyFrom_of_matchAt? nonempty found]
        have shorter := List.length_pos_iff.2 nonempty
        refine Sets.append ?_ (ih _ (by simp; omega) _ _ rfl)
        intro front c back inside
        exact not_findsHere_of_forbidden search regular follows inside
    | none =>
      cases text with
      | nil => exact .nil
      | cons c rest =>
        simp only [applyFrom, Nat.lt_irrefl, if_false, found]
        exact .keep (not_findsHere_of_matchAt? found) (ih _ (by simp) _ _ rfl)

/-! ## Marks -/

/-- The characters that rules write. -/
def marks : List Char :=
  all.flatMap (·.image)

/-- No mark belongs to what a rule finds. -/
theorem FindsAt.not_mark {found after : Text} (finds : rule.FindsAt before found after)
    (known : rule ∈ all) : ∀ c ∈ found, c ∉ marks := by
  have apart : ∀ rule ∈ all, ∀ needle ∈ rule.search.needles, needle.all (· ∉ marks) = true := by
    decide
  have numeric : (marks.all fun c =>
      !(Text.isDecimalDigit c || Text.isBlank c || c = 'x' || c = 'X')) = true := by
    decide +kernel
  intro c member isMark
  by_cases product : rule.search = .product
  · simp only [FindsAt, product] at finds
    obtain ⟨⟨first, second, ⟨_, digits⟩, ⟨_, digits'⟩, x, front, back, isX, blank, blank', rfl⟩,
      _⟩ :=
      finds
    have plain := List.all_eq_true.1 numeric c isMark
    simp only [Bool.not_eq_true', Bool.or_eq_false_iff, decide_eq_false_iff_not] at plain
    simp only [Text.isBlankText, List.all_eq_true] at blank blank'
    simp only [List.mem_append, List.mem_cons] at member
    rcases member with inside | inside | rfl | inside | inside
    · simp [digits c inside] at plain
    · simp [blank c inside] at plain
    · simp [plain] at isX
    · simp [blank' c inside] at plain
    · simp [digits' c inside] at plain
  · have plain := List.all_eq_true.1 (apart rule known found (finds.mem_needles product)) c member
    exact of_decide_eq_true plain isMark

/-- What a rule writes has a mark in it. -/
theorem Writes.exists_mark {found image : Text} (writes : rule.Writes found image)
    (known : rule ∈ all) : ∃ c ∈ image, c ∈ marks := by
  have marked : ∀ rule ∈ all, rule.image.any (· ∈ marks) = true := by
    decide
  obtain ⟨c, member, isMark⟩ := List.any_eq_true.1 (marked rule known)
  have isMark := of_decide_eq_true isMark
  unfold Writes at writes
  split at writes
  · obtain ⟨first, second, _, rfl⟩ := writes
    exact ⟨c, by simp [member], isMark⟩
  · exact ⟨c, writes ▸ member, isMark⟩

/-- A run leaves a text without places as it is, and makes more marks in one with a place. -/
theorem Sets.grows (sets : Sets rule before text out) (known : rule ∈ all) :
    (¬ rule.OccursAfter before text ∧ out = text) ∨
      (rule.OccursAfter before text ∧ text.countP (· ∈ marks) < out.countP (· ∈ marks)) := by
  induction sets with
  | nil => exact .inl ⟨not_occursAfter_nil (isRegular_of_mem_all rule known), rfl⟩
  | @set before found image rest out finds writes _ ih =>
    have gone : found.countP (· ∈ marks) = 0 := by
      simpa [List.countP_eq_zero] using finds.not_mark known
    have new : 0 < image.countP (· ∈ marks) := by
      simpa [List.countP_pos_iff] using writes.exists_mark known
    have later : rest.countP (· ∈ marks) ≤ out.countP (· ∈ marks) := by
      rcases ih with ⟨_, rfl⟩ | ⟨_, more⟩
      · exact Nat.le_refl _
      · exact Nat.le_of_lt more
    refine .inr ⟨⟨[], found, rest, rfl, finds⟩, ?_⟩
    simp only [List.countP_append]
    omega
  | keep clear _ ih =>
    rcases ih with ⟨none, rfl⟩ | ⟨occurs, more⟩
    · exact .inl ⟨fun occurs => (occursAfter_cons.1 occurs).elim clear none, rfl⟩
    · refine .inr ⟨occursAfter_cons.2 (.inr occurs), ?_⟩
      simp only [List.countP_cons]
      omega

/-- Rules leave a text as it is when there is a place for none of them, and make more marks in any
other. -/
theorem applyAll_grows {rules : List Replacement} (known : rules ⊆ all) (text : Text) :
    ((∀ rule ∈ rules, ¬ rule.Occurs text) ∧ applyAll rules text = text) ∨
      ((∃ rule ∈ rules, rule.Occurs text) ∧
        text.countP (· ∈ marks) < (applyAll rules text).countP (· ∈ marks)) := by
  induction rules generalizing text with
  | nil => simp [applyAll]
  | cons rule rules ih =>
    obtain ⟨first, later⟩ := List.cons_subset.1 known
    have run := (sets_applyFrom (isRegular_of_mem_all rule first) none text).grows first
    have rest := ih later (applyFrom rule none 0 text)
    rw [applyAll, List.foldl_cons, ← applyAll]
    rcases run with ⟨clear, same⟩ | ⟨occurs, more⟩
    · rw [same] at rest ⊢
      simpa [Occurs, clear] using rest
    · refine .inr ⟨⟨rule, List.mem_cons_self, occurs⟩, ?_⟩
      rcases rest with ⟨_, same⟩ | ⟨_, still⟩
      · rwa [same]
      · exact more.trans still

/-- Rules leave a text as it is exactly when there is a place for none of them in it. -/
theorem applyAll_eq_self_iff {rules : List Replacement} (known : rules ⊆ all) :
    applyAll rules text = text ↔ ∀ rule ∈ rules, ¬ rule.Occurs text := by
  rcases applyAll_grows known text with ⟨clear, same⟩ | ⟨⟨rule, member, occurs⟩, more⟩
  · exact iff_of_true same clear
  · apply iff_of_false
    · intro same
      simp [same] at more
    · intro clear
      exact clear rule member occurs

end

/-! ## What a run leaves behind -/

/-- Whether a rule for literal texts finds nothing new where another one has run, given that nothing
was left for it before. -/
def spares (rule other : Replacement) : Bool :=
  other.image.length == 1 && rule.search.needles.all (fun needle => other.image.all (· ∉ needle)) &&
    match rule.search, other.search with
    | _, .product => false
    | .literals _, _ => true
    | .unlessFollowed _ forbidden, search => search.needles.all (·.head? != some forbidden)
    | .wholeWord needle, .wholeWord _ =>
      !isWordEdge needle.head? && !isWordEdge needle.getLast?
    | _, _ => false

/-- The rules that look for literal texts. -/
def literal : List Replacement :=
  all.filter (·.search != .product)

/-- A rule for literal texts finds nothing new where it has run itself. -/
theorem spares_of_mem_literal : ∀ rule ∈ literal, rule.spares rule = true := by
  decide +kernel

/-- Of two rules for literal texts, the first finds nothing new where the second has run. -/
theorem pairwise_spares_literal : literal.Pairwise (spares · ·) := by
  decide +kernel

section

variable {rule other : Replacement} {before before' : Option Char} {text out : Text}

/-- The other rule writes one mark, and that is no character of what the rule finds. -/
theorem exists_mark_of_spares (spares : rule.spares other = true) :
    ∃ mark, (∀ found image, other.Writes found image → image = [mark]) ∧
      ∀ before found after, rule.FindsAt before found after → mark ∉ found := by
  simp only [Replacement.spares, Bool.and_eq_true, beq_iff_eq, List.all_eq_true,
    decide_eq_true_eq] at spares
  obtain ⟨⟨single, fresh⟩, searches⟩ := spares
  obtain ⟨mark, image⟩ := List.length_eq_one_iff.1 single
  have literal : rule.search ≠ .product ∧ other.search ≠ .product := by
    split at searches <;> simp_all
  refine ⟨mark, ?_, ?_⟩
  · intro found written writes
    unfold Writes at writes
    split at writes
    · rename_i product
      exact absurd product literal.2
    · rw [writes, image]
  · intro before found after finds
    exact fresh found (finds.mem_needles literal.1) mark (by simp [image])

/-- What stands at the start of the result and has no mark in it stood at the start of the text. -/
theorem Sets.of_append {mark : Char}
    (marked : ∀ found image, other.Writes found image → image = [mark])
    {kept back : Text} (fresh : mark ∉ kept) (sets : Sets other before text (kept ++ back)) :
    ∃ rest, text = kept ++ rest ∧ Sets other (lastOf before kept) rest back := by
  induction kept generalizing before text with
  | nil => exact ⟨text, rfl, sets⟩
  | cons c kept ih =>
    simp only [List.mem_cons, not_or] at fresh
    generalize whole : c :: kept ++ back = out at sets
    cases sets with
    | nil => cases whole
    | set _ writes later =>
      rw [marked _ _ writes] at whole
      exact absurd (List.cons.inj whole).1.symm fresh.1
    | keep clear inner =>
      obtain ⟨rfl, rfl⟩ := List.cons.inj whole
      obtain ⟨rest, rfl, later⟩ := ih fresh.2 inner
      exact ⟨rest, rfl, later⟩

/-- What stands beside a place in the result allows a place in the text as well. -/
theorem FindsAt.of_sets {found rest back : Text} (spares : rule.spares other = true)
    (regular : other.search.isRegular = true) (finds : rule.FindsAt before' found back)
    (sets : Sets other (lastOf before found) rest back)
    (edge : (∃ needle, other.search = .wholeWord needle) → isWordEdge before' = true →
      isWordEdge before = true ∨ isWordEdge (found ++ rest).head? = true) :
    rule.FindsAt before found rest := by
  simp only [Replacement.spares, Bool.and_eq_true] at spares
  obtain ⟨_, searches⟩ := spares
  split at searches
  · cases searches
  · rename_i needles isLiterals _
    simpa [FindsAt, isLiterals] using finds
  · rename_i needle forbidden isUnless notProduct
    simp only [FindsAt, isUnless] at finds ⊢
    refine ⟨finds.1, ?_⟩
    cases sets with
    | nil => exact finds.2
    | @set _ piece _ _ _ finds' _ _ =>
      have head := List.all_eq_true.1 searches piece (finds'.mem_needles notProduct)
      obtain ⟨c, piece, rfl⟩ := List.exists_cons_of_ne_nil (finds'.nonempty regular)
      simpa using head
    | keep _ _ => exact finds.2
  · rename_i needle needle' isWord isWord'
    simp only [FindsAt, isWord] at finds ⊢
    obtain ⟨rfl, edge', after⟩ := finds
    simp only [Bool.and_eq_true, Bool.not_eq_true'] at searches
    obtain ⟨c, needle, rfl⟩ : ∃ c needle, found = c :: needle := by
      cases found with
      | nil => simp [isWordEdge] at searches
      | cons c needle => exact ⟨c, needle, rfl⟩
    refine ⟨rfl, ?_, ?_⟩
    · simp only [List.head?_cons] at searches
      simpa [searches.1] using edge ⟨needle', isWord'⟩ edge'
    · cases sets with
      | nil => exact after
      | set finds' _ _ =>
        -- The other rule finds no word directly behind a character of a word.
        simp only [FindsAt, isWord'] at finds'
        simp [lastOf_of_ne_nil, searches.2] at finds'
      | keep _ _ => exact after
  · cases searches

/-- A rule that leaves nothing to be found for itself, or runs where there is nothing to be found
for another rule that it is spared by, leaves nothing for that one. -/
theorem Sets.not_occursAfter (sets : Sets other before text out)
    (spares : rule.spares other = true) (regular : rule.search.isRegular = true)
    (regular' : other.search.isRegular = true)
    (clear : rule = other ∨ ¬ rule.OccursAfter before text)
    (edge : (∃ needle, other.search = .wholeWord needle) → isWordEdge before' = true →
      isWordEdge before = true ∨ isWordEdge text.head? = true) :
    ¬ rule.OccursAfter before' out := by
  obtain ⟨mark, marked, fresh⟩ := exists_mark_of_spares spares
  induction sets generalizing before' with
  | nil => exact not_occursAfter_nil regular
  | @set before found image rest out finds writes later ih =>
    rw [marked found image writes, List.singleton_append]
    intro occurs
    rcases occursAfter_cons.1 occurs with ⟨piece, after, whole, finds'⟩ | occurs
    · cases piece with
      | nil => exact finds'.nonempty regular rfl
      | cons c piece =>
        obtain ⟨rfl, _⟩ := List.cons.inj whole
        exact fresh _ _ _ finds' List.mem_cons_self
    · refine ih (clear.imp_right fun none occurs => none occurs.append) ?_ occurs
      rintro ⟨needle, isWord⟩ _
      simp only [FindsAt, isWord] at finds
      exact .inr finds.2.2
  | @keep before c rest out none later ih =>
    intro occurs
    rcases occursAfter_cons.1 occurs with ⟨piece, after, whole, finds'⟩ | occurs
    · have sets := Sets.keep none later
      rw [whole] at sets
      obtain ⟨rest', text, sets'⟩ := sets.of_append marked (fresh _ _ _ finds')
      have finds := finds'.of_sets spares regular' sets' (text ▸ edge)
      rcases clear with rfl | clear
      · exact none ⟨piece, rest', text, finds⟩
      · exact clear (occursAfter_cons.2 (.inl ⟨piece, rest', text, finds⟩))
    · refine ih (clear.imp_right fun none occurs => none (occursAfter_cons.2 (.inr occurs)))
        (fun _ same => .inl same) occurs

/-- Where nothing is left for a rule, nothing is left after a rule that spares it. -/
theorem not_occurs_applyFrom (spares : rule.spares other = true)
    (regular : rule.search.isRegular = true) (regular' : other.search.isRegular = true)
    (clear : rule = other ∨ ¬ rule.Occurs text) : ¬ rule.Occurs (applyFrom other none 0 text) :=
  (sets_applyFrom regular' none text).not_occursAfter spares regular regular' clear
    (fun _ edge => .inl edge)

end

/-- Rules of which each is spared by itself and by those after it leave nothing to be found. -/
theorem not_occurs_applyAll {rules : List Replacement}
    (regular : ∀ rule ∈ rules, rule.search.isRegular = true)
    (own : ∀ rule ∈ rules, rule.spares rule = true) (ordered : rules.Pairwise (spares · ·)) :
    ∀ text, ∀ rule ∈ rules, ¬ rule.Occurs (applyAll rules text) := by
  induction rules using List.reverseRecOn with
  | nil => simp
  | append_singleton rules last ih =>
    intro text rule member
    rw [applyAll, List.foldl_concat, ← applyAll]
    simp only [List.mem_append, List.mem_singleton, List.pairwise_append, List.pairwise_singleton,
      forall_eq, true_and] at regular own ordered member
    rcases member with earlier | rfl
    · apply not_occurs_applyFrom (ordered.2 rule earlier) (regular rule (.inl earlier))
        (regular last (.inr rfl))
      exact .inr (ih (fun rule h => regular rule (.inl h)) (fun rule h => own rule (.inl h))
        ordered.1 text rule earlier)
    · exact not_occurs_applyFrom (own _ (.inr rfl)) (regular _ (.inr rfl)) (regular _ (.inr rfl))
        (.inl rfl)

end Manuscript.Replacement
