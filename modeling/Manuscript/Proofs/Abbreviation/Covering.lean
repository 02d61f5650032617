import Manuscript.Proofs.Abbreviation.Uses

/-!
# Uses that are left out

The abbreviations of a document are looked for one after the other, longer names first, and the
occurrences of one name are counted from left to right without overlaps. Every counted occurrence
that touches no letter is a use, or shares a character with a use of a name that is at least as long
(`exists_overlaps_of_mem_occurrences`).

An occurrence that is not counted begins inside a counted one of the same name. It is left out when
that one is no use, and nothing else that is at least as long lies over it
(`not_isCovered_iff`).
-/

namespace Manuscript.Abbreviation

/-! ## Names in order of length -/

/-- Names come in order of length, and names of one length in order of their characters. -/
theorem precedes_iff {a b : Abbreviation} :
    precedes a b = true ↔ Text.byteLength b.name < Text.byteLength a.name ∨
      Text.byteLength a.name = Text.byteLength b.name ∧
        List.lex b.name a.name (fun c d => decide (c < d)) = false := by
  have byCode : (fun c d : Char => decide (c.toNat < d.toNat)) = fun c d => decide (c < d) := by
    funext c d
    rw [decide_eq_decide, Char.lt_def, UInt32.lt_iff_toNat_lt]
    rfl
  simp only [precedes, byCode, Bool.or_eq_true, decide_eq_true_eq, Bool.and_eq_true, beq_iff_eq,
    Bool.not_eq_true']

/-- The abbreviations of a document are looked for in order of length. -/
theorem pairwise_ofDocument (tree : Node) :
    (ofDocument tree).Pairwise fun a b => Text.byteLength b.name ≤ Text.byteLength a.name := by
  have trans (a b c : Abbreviation) (ab : precedes a b = true) (bc : precedes b c = true) :
      precedes a c = true := by
    rw [precedes_iff] at ab bc ⊢
    rcases ab with longer | ⟨same, ab⟩
    · left
      omega
    · rcases bc with longer | ⟨same', bc⟩
      · left
        omega
      · rw [List.lex_eq_false_iff_ge] at ab bc
        exact .inr ⟨same.trans same', List.lex_eq_false_iff_ge.2 (List.le_trans ab bc)⟩
  have total (a b : Abbreviation) : (precedes a b || precedes b a) = true := by
    rw [Bool.or_eq_true, precedes_iff, precedes_iff]
    rcases Nat.lt_trichotomy (Text.byteLength a.name) (Text.byteLength b.name) with lt | same | gt
    · exact .inr (.inl lt)
    · rcases List.le_total a.name b.name with ab | ba
      · exact .inl (.inr ⟨same, List.lex_eq_false_iff_ge.2 ab⟩)
      · exact .inr (.inr ⟨same.symm, List.lex_eq_false_iff_ge.2 ba⟩)
    · exact .inl (.inl gt)
  refine (List.pairwise_mergeSort trans total _).imp fun {a b} inOrder => ?_
  rcases precedes_iff.1 inOrder with longer | ⟨same, _⟩
  · exact Nat.le_of_lt longer
  · exact Nat.le_of_eq same.symm

/-! ## Occurrences -/

/-- Where a name stands, an occurrence is counted, or one that reaches over the place. -/
theorem mem_occurrences_or {name text : Text} (nonempty : name ≠ []) {skip place : Nat}
    (behind : skip ≤ place) (stands : name <+: text.drop place) (start : Nat) :
    start + place ∈ occurrences name skip start text ∨
      ∃ hider ∈ occurrences name skip start text,
        hider < start + place ∧ start + place < hider + name.length := by
  induction text generalizing skip place start with
  | nil => simp [nonempty] at stands
  | cons c rest ih =>
    have later {skip place : Nat} (behind : skip ≤ place) (stands : name <+: rest.drop place) :
        start + (place + 1) ∈ occurrences name skip (start + 1) rest ∨
          ∃ hider ∈ occurrences name skip (start + 1) rest,
            hider < start + (place + 1) ∧ start + (place + 1) < hider + name.length := by
      have shift : start + (place + 1) = start + 1 + place := by omega
      rw [shift]
      exact ih behind stands (start + 1)
    rw [occurrences]
    split
    · obtain ⟨place, rfl⟩ : ∃ next, place = next + 1 := ⟨place - 1, by omega⟩
      exact later (by omega) stands
    · split
      · rename_i here
        cases place with
        | zero => exact .inl List.mem_cons_self
        | succ place =>
          by_cases inside : place + 1 < name.length
          · exact .inr ⟨start, List.mem_cons_self, by omega, by omega⟩
          · rcases later (show name.length - 1 ≤ place by omega) stands with
              counted | ⟨hider, member, bounds⟩
            · exact .inl (List.mem_cons_of_mem _ counted)
            · exact .inr ⟨hider, List.mem_cons_of_mem _ member, bounds⟩
      · rename_i absent
        cases place with
        | zero => exact absurd (List.isPrefixOf_iff_prefix.2 stands) absent
        | succ place => exact later (Nat.zero_le _) stands

/-! ## What is found -/

namespace Use

/-- A wrapped use of a name that is at least as long shares a character with a use. -/
def LiesUnder (wrapped : List Use) (use : Use) : Prop :=
  ∃ other ∈ wrapped, use.overlaps other = true ∧
    Text.byteLength use.entry.name ≤ Text.byteLength other.entry.name

/-- A use is wrapped itself, or one of a name that is at least as long is in its place. -/
def IsCovered (wrapped : List Use) (use : Use) : Prop :=
  use ∈ wrapped ∨ use.LiesUnder wrapped

/-- A use begins inside an occurrence of its name that was counted before it and is not wrapped,
since a letter touches that one or a wrapped use lies over it. -/
def IsHidden (text : Text) (wrapped : List Use) (use : Use) : Prop :=
  ∃ hider : Use, hider.entry = use.entry ∧ hider.start ∈ occurrences use.entry.name 0 0 text ∧
    hider.start < use.start ∧ use.start < hider.stop ∧
      hider ∉ wrapped ∧ (hider.touchesLetter text = true ∨ hider.LiesUnder wrapped)

/-- Two uses overlap if each begins before the other ends. -/
theorem overlaps_iff {use other : Use} :
    use.overlaps other = true ↔ use.start < other.stop ∧ other.start < use.stop := by
  rw [overlaps, Bool.and_eq_true, decide_eq_true_iff, decide_eq_true_iff]

/-- A use of a name that is not empty shares its characters with itself. -/
theorem overlaps_self {use : Use} (nonempty : use.entry.name ≠ []) : use.overlaps use = true := by
  have size := List.length_pos_iff.2 nonempty
  rw [overlaps_iff, stop]
  omega

end Use

section

variable {text : Text} {entry : Abbreviation} {entries : List Abbreviation} {found : List Use}

/-- Adds an occurrence of a name to the uses that were found before, unless one of them shares a
character with it or a letter touches it. -/
def addUse (text : Text) (entry : Abbreviation) (found : List Use) (start : Nat) : List Use :=
  if found.any (Use.overlaps ⟨start, entry⟩) || Use.touchesLetter text ⟨start, entry⟩ then found
  else Use.insert ⟨start, entry⟩ found

/-- The occurrences of a name are tried from left to right. -/
theorem addUses_eq_foldl :
    addUses text found entry = (occurrences entry.name 0 0 text).foldl (addUse text entry) found :=
  rfl

/-- An occurrence is added, or it touches a letter or shares a character with what was found. -/
theorem mem_addUse_or (start : Nat) :
    ⟨start, entry⟩ ∈ addUse text entry found start ∨
      Use.touchesLetter text ⟨start, entry⟩ = true ∨
        ∃ other ∈ found, Use.overlaps ⟨start, entry⟩ other = true := by
  rw [addUse]
  split
  · rename_i taken
    rw [Bool.or_eq_true, List.any_eq_true] at taken
    exact .inr taken.symm
  · exact .inl (Use.mem_insert.2 (.inl rfl))

/-- A use that has been found stays when another occurrence is tried. -/
theorem subset_addUse (start : Nat) : found ⊆ addUse text entry found start := by
  rw [addUse]
  split
  · exact List.Subset.refl _
  · exact fun _ member => Use.mem_insert.2 (.inr member)

/-- Trying an occurrence adds at most a use of its own abbreviation. -/
theorem mem_of_mem_addUse {use : Use} {start : Nat} (member : use ∈ addUse text entry found start) :
    use ∈ found ∨ use.entry = entry := by
  rw [addUse] at member
  split at member
  · exact .inl member
  · rcases Use.mem_insert.1 member with rfl | before
    · exact .inr rfl
    · exact .inl before

/-- What was found before stays. -/
theorem subset_foldl_addUse (starts : List Nat) :
    found ⊆ starts.foldl (addUse text entry) found := by
  induction starts generalizing found with
  | nil => exact List.Subset.refl _
  | cons start later ih => exact List.Subset.trans (subset_addUse start) ih

/-- A use that has been found stays when more abbreviations are looked for. -/
theorem subset_foldl_addUses (more : List Abbreviation) :
    found ⊆ more.foldl (addUses text) found := by
  induction more generalizing found with
  | nil => exact List.Subset.refl _
  | cons entry later ih => exact List.Subset.trans (subset_foldl_addUse _) ih

/-- What an abbreviation adds are uses of its own. -/
theorem mem_of_mem_addUses {use : Use} (member : use ∈ addUses text found entry) :
    use ∈ found ∨ use.entry = entry := by
  rw [addUses_eq_foldl] at member
  generalize occurrences entry.name 0 0 text = starts at member
  induction starts generalizing found with
  | nil => exact .inl member
  | cons start later ih => exact (ih member).elim mem_of_mem_addUse .inr

/-- A counted occurrence that touches no letter shares a character with what is found then. -/
theorem exists_overlaps_addUses (nonempty : entry.name ≠ []) {start : Nat}
    (counted : start ∈ occurrences entry.name 0 0 text)
    (free : Use.touchesLetter text ⟨start, entry⟩ = false) :
    ∃ other ∈ addUses text found entry, Use.overlaps ⟨start, entry⟩ other = true := by
  rw [addUses_eq_foldl]
  generalize occurrences entry.name 0 0 text = starts at counted
  induction starts generalizing found with
  | nil => cases counted
  | cons first later ih =>
    rcases List.mem_cons.1 counted with rfl | counted
    · rcases mem_addUse_or start with added | touches | ⟨other, member, overlaps⟩
      · exact ⟨_, subset_foldl_addUse later added, Use.overlaps_self nonempty⟩
      · rw [free] at touches
        cases touches
      · exact ⟨other, subset_foldl_addUse later (subset_addUse start member), overlaps⟩
    · exact ih counted

/-- A counted occurrence that touches no letter shares a character with a use of a name that is at
least as long. -/
theorem liesUnder_of_mem_occurrences (named : ∀ entry ∈ entries, entry.IsNamed)
    (longerFirst : entries.Pairwise fun a b => Text.byteLength b.name ≤ Text.byteLength a.name)
    {use : Use} (isEntry : use.entry ∈ entries)
    (counted : use.start ∈ occurrences use.entry.name 0 0 text)
    (free : use.touchesLetter text = false) : use.LiesUnder (uses entries text) := by
  obtain ⟨front, back, rfl⟩ := List.append_of_mem isEntry
  have before : ∀ other ∈ uses front text, other.entry ∈ front := fun other member =>
    ((uses_found (fun entry h => named entry (List.mem_append_left _ h)) text).1
      other member).isEntry
  obtain ⟨other, member, overlaps⟩ :
      ∃ other ∈ addUses text (uses front text) use.entry, use.overlaps other = true :=
    exists_overlaps_addUses (named use.entry isEntry).nonempty counted free
  refine ⟨other, ?_, overlaps, ?_⟩
  · rw [uses, List.foldl_append]
    exact subset_foldl_addUses back member
  · rcases mem_of_mem_addUses member with earlier | own
    · exact (List.pairwise_append.1 longerFirst).2.2 _ (before other earlier) _ List.mem_cons_self
    · exact Nat.le_of_eq (by rw [own])

/-- An occurrence of a name that touches no letter is left out exactly when it is hidden by one that
is no use, and nothing lies over it. -/
theorem not_isCovered_iff (named : ∀ entry ∈ entries, entry.IsNamed)
    (longerFirst : entries.Pairwise fun a b => Text.byteLength b.name ≤ Text.byteLength a.name)
    {use : Use} (stands : use.StandsIn entries text) (free : use.touchesLetter text = false) :
    ¬ use.IsCovered (uses entries text) ↔
      use.IsHidden text (uses entries text) ∧ ¬ use.LiesUnder (uses entries text) := by
  have nonempty := (named use.entry stands.isEntry).nonempty
  constructor
  · intro missed
    rw [Use.IsCovered, not_or] at missed
    refine ⟨?_, missed.2⟩
    have place := mem_occurrences_or nonempty (Nat.zero_le use.start) stands.stands 0
    rw [Nat.zero_add] at place
    rcases place with counted | ⟨hider, counted, before, inside⟩
    · exact absurd (liesUnder_of_mem_occurrences named longerFirst stands.isEntry counted free)
        missed.2
    · refine ⟨⟨hider, use.entry⟩, rfl, counted, before, inside, ?_, ?_⟩
      · intro wrapped
        refine missed.2 ⟨_, wrapped, ?_, Nat.le_refl _⟩
        rw [Use.overlaps_iff]
        exact ⟨inside, Nat.lt_of_lt_of_le before (Nat.le_add_right _ _)⟩
      · cases touches : Use.touchesLetter text ⟨hider, use.entry⟩ with
        | true => exact .inl rfl
        | false =>
          exact .inr (liesUnder_of_mem_occurrences named longerFirst stands.isEntry counted touches)
  · rintro ⟨_, free⟩ (wrapped | under)
    · exact free ⟨use, wrapped, Use.overlaps_self nonempty, Nat.le_refl _⟩
    · exact free under

end

end Manuscript.Abbreviation
