import Manuscript.Prose.Abbreviation

/-!
# The uses of abbreviations in a text

At every use that is found in a text stands the name of an abbreviation that was looked for, and the
uses are in order and apart from each other (`uses_found`). A name that was read from a document is
not empty and has no closing bracket (`isNamed_of_mem_ofDocument`), so that no use reaches over one.
-/

namespace Manuscript.Abbreviation

/-- What every name has that was read from a document. -/
structure IsNamed (entry : Abbreviation) : Prop where
  /-- The name has a character. -/
  nonempty : entry.name ≠ []
  /-- The bracket at the end of the name does not belong to it. -/
  unbracketed : ']' ∉ entry.name

/-- A definition line names what it defines. -/
theorem isNamed_of_ofLine? {line : Text} {entry : Abbreviation} (read : ofLine? line = some entry) :
    entry.IsNamed := by
  unfold ofLine? at read
  split at read
  · rename_i rest
    dsimp only at read
    split at read
    · rename_i first name _ taken _
      split at read
      · cases read
      · cases read
        refine ⟨?_, fun member => ?_⟩
        · rw [taken]
          exact List.cons_ne_nil _ _
        · have outside := List.all_eq_true.1 List.all_takeWhile _ member
          simp at outside
    · cases read
  · cases read

/-- A definition paragraph names what it defines. -/
theorem isNamed_of_ofParagraph? {node : Node} {entries : List Abbreviation}
    (read : ofParagraph? node = some entries) : ∀ entry ∈ entries, entry.IsNamed := by
  have lines : ∀ (lines : List Text) (entries : List Abbreviation),
      lines.mapM ofLine? = some entries → ∀ entry ∈ entries, entry.IsNamed := by
    intro lines
    induction lines with
    | nil =>
      intro entries read entry member
      cases read
      cases member
    | cons line rest ih =>
      intro entries read entry member
      rw [List.mapM_cons] at read
      obtain ⟨first, here, read⟩ := Option.bind_eq_some_iff.1 read
      obtain ⟨later, there, read⟩ := Option.bind_eq_some_iff.1 read
      cases read
      rcases List.mem_cons.1 member with rfl | member
      · exact isNamed_of_ofLine? here
      · exact ih later there entry member
  unfold ofParagraph? at read
  split at read
  · dsimp only at read
    split at read
    · cases read
    · exact lines _ _ read
  · cases read

mutual

/-- The definitions below a node are named. -/
theorem isNamed_of_mem_definitions :
    ∀ (node : Node) (entry : Abbreviation), entry ∈ definitions node → entry.IsNamed
  | ⟨_, children, _, _⟩, entry, member =>
    isNamed_of_mem_definitionList children entry (by rwa [definitions] at member)

/-- The definitions in a list of siblings are named. -/
theorem isNamed_of_mem_definitionList :
    ∀ (nodes : List Node) (entry : Abbreviation), entry ∈ definitionList nodes → entry.IsNamed
  | [], _, member => by
    rw [definitionList] at member
    cases member
  | node :: rest, entry, member => by
    rw [definitionList, List.mem_append] at member
    rcases member with here | later
    · cases read : ofParagraph? node with
      | some entries =>
        rw [read] at here
        exact isNamed_of_ofParagraph? read entry here
      | none =>
        rw [read] at here
        exact isNamed_of_mem_definitions node entry here
    · exact isNamed_of_mem_definitionList rest entry later

end

/-- Only definitions are kept. -/
theorem mem_of_mem_lastDefinitions {entries : List Abbreviation} {entry : Abbreviation}
    (member : entry ∈ lastDefinitions entries) : entry ∈ entries := by
  induction entries with
  | nil => exact member
  | cons first rest ih =>
    rw [lastDefinitions] at member
    split at member
    · exact List.mem_cons_of_mem _ (ih member)
    · rcases List.mem_cons.1 member with rfl | member
      · exact List.mem_cons_self
      · exact List.mem_cons_of_mem _ (ih member)

/-- The abbreviations of a document are named. -/
theorem isNamed_of_mem_ofDocument {tree : Node} {entry : Abbreviation}
    (member : entry ∈ ofDocument tree) : entry.IsNamed := by
  rw [ofDocument, List.mem_mergeSort] at member
  exact isNamed_of_mem_definitions tree entry (mem_of_mem_lastDefinitions member)

/-- A name stands where it occurs. -/
theorem prefix_of_mem_occurrences {name text : Text} {skip start position : Nat}
    (member : position ∈ occurrences name skip start text) :
    start ≤ position ∧ name <+: text.drop (position - start) := by
  induction text generalizing skip start with
  | nil => cases member
  | cons c rest ih =>
    have later : ∀ {skip}, position ∈ occurrences name skip (start + 1) rest →
        start ≤ position ∧ name <+: (c :: rest).drop (position - start) := by
      intro skip member
      obtain ⟨bound, stands⟩ := ih member
      have behind : position - start = position - (start + 1) + 1 := by omega
      rw [behind, List.drop_succ_cons]
      exact ⟨by omega, stands⟩
    rw [occurrences] at member
    split at member
    · exact later member
    · split at member
      · rename_i here
        rcases List.mem_cons.1 member with rfl | member
        · rw [Nat.sub_self]
          exact ⟨Nat.le_refl _, List.isPrefixOf_iff_prefix.1 here⟩
        · exact later member
      · exact later member

namespace Use

/-- What a use of one of some abbreviations in a text is. -/
structure StandsIn (entries : List Abbreviation) (text : Text) (use : Use) : Prop where
  /-- Its abbreviation is one of them. -/
  isEntry : use.entry ∈ entries
  /-- The name stands in the text. -/
  stands : use.entry.name <+: text.drop use.start

/-- Uses are in order, and none begins before the last one ends. -/
def Apart (uses : List Use) : Prop :=
  uses.Pairwise fun use later => use.stop ≤ later.start

/-- Putting a use in its place adds it and takes none away. -/
theorem mem_insert {use other : Use} {found : List Use} :
    other ∈ use.insert found ↔ other = use ∨ other ∈ found := by
  induction found with
  | nil => rw [insert, List.mem_cons]
  | cons first rest ih =>
    rw [insert]
    split
    · rw [List.mem_cons]
    · rw [List.mem_cons, ih, List.mem_cons]
      exact or_left_comm

/-- Of two uses that share no character, one ends before the other begins. -/
theorem apart_of_not_overlaps {use other : Use} (apart : use.overlaps other = false) :
    other.stop ≤ use.start ∨ use.stop ≤ other.start := by
  rw [overlaps, Bool.and_eq_false_iff, decide_eq_false_iff_not, decide_eq_false_iff_not] at apart
  omega

/-- A use that shares no character with others is put between them. -/
theorem apart_insert {use : Use} (nonempty : use.entry.name ≠ []) {found : List Use}
    (named : ∀ other ∈ found, other.entry.name ≠ []) (apart : Apart found)
    (free : found.any (overlaps use) = false) : Apart (use.insert found) := by
  have size : ∀ other : Use, other.entry.name ≠ [] → other.start < other.stop := by
    intro other nonempty
    have := List.length_pos_iff.2 nonempty
    rw [stop]
    omega
  induction found with
  | nil => exact List.pairwise_singleton _ _
  | cons first rest ih =>
    obtain ⟨before, apartRest⟩ := List.pairwise_cons.1 apart
    rw [List.any_cons, Bool.or_eq_false_iff] at free
    have sizeFirst := size first (named first List.mem_cons_self)
    have sizeUse := size use nonempty
    rw [insert]
    split
    · rename_i order
      have here : use.stop ≤ first.start := by
        rcases apart_of_not_overlaps free.1 with early | late
        · omega
        · exact late
      refine List.pairwise_cons.2 ⟨fun other member => ?_, apart⟩
      rcases List.mem_cons.1 member with rfl | member
      · exact here
      · have := before other member
        omega
    · rename_i order
      have here : first.stop ≤ use.start := by
        rcases apart_of_not_overlaps free.1 with early | late
        · exact early
        · omega
      refine List.pairwise_cons.2 ⟨fun other member => ?_, ih (fun other member =>
        named other (List.mem_cons_of_mem _ member)) apartRest free.2⟩
      rcases mem_insert.1 member with rfl | member
      · exact here
      · exact before other member

/-- A use that begins before a closing bracket ends before it. -/
theorem stop_le {use : Use} {text : Text} {bracket : Nat} (unbracketed : ']' ∉ use.entry.name)
    (stands : use.entry.name <+: text.drop use.start) (closes : text[bracket]? = some ']')
    (before : use.start ≤ bracket) : use.stop ≤ bracket := by
  refine Nat.le_of_not_lt fun inside => unbracketed ?_
  rw [stop] at inside
  have within : bracket - use.start < use.entry.name.length := by omega
  have same := stands.getElem within
  have place : use.start + (bracket - use.start) = bracket := by omega
  have there : (text.drop use.start)[bracket - use.start]? = some ']' := by
    rw [List.getElem?_drop, place, closes]
  obtain ⟨_, there⟩ := List.getElem?_eq_some_iff.1 there
  rw [there] at same
  exact same ▸ List.getElem_mem within

end Use

/-- The uses of one more abbreviation are put between those that were found before. -/
theorem addUses_found {entries : List Abbreviation} {text : Text} {entry : Abbreviation}
    (isEntry : entry ∈ entries) (named : ∀ entry ∈ entries, entry.IsNamed) {found : List Use}
    (standing : ∀ use ∈ found, use.StandsIn entries text) (apart : Use.Apart found) :
    (∀ use ∈ addUses text found entry, use.StandsIn entries text) ∧
      Use.Apart (addUses text found entry) := by
  have stands : ∀ start ∈ occurrences entry.name 0 0 text, entry.name <+: text.drop start :=
    fun start member => (prefix_of_mem_occurrences member).2
  rw [addUses]
  generalize occurrences entry.name 0 0 text = starts at stands
  induction starts generalizing found with
  | nil => exact ⟨standing, apart⟩
  | cons start later ih =>
    have standsLater : ∀ start ∈ later, entry.name <+: text.drop start :=
      fun start member => stands start (List.mem_cons_of_mem _ member)
    rw [List.foldl_cons]
    dsimp only
    split
    · exact ih standing apart standsLater
    · rename_i free
      rw [Bool.not_eq_true, Bool.or_eq_false_iff] at free
      refine ih (fun use member => ?_) (Use.apart_insert (named entry isEntry).nonempty
        (fun other member => (named _ (standing other member).isEntry).nonempty) apart free.1)
        standsLater
      rcases Use.mem_insert.1 member with rfl | member
      · exact ⟨isEntry, stands start List.mem_cons_self⟩
      · exact standing use member

/-- At every use stands the name of an abbreviation, and the uses are in order and apart. -/
theorem uses_found {entries : List Abbreviation} (named : ∀ entry ∈ entries, entry.IsNamed)
    (text : Text) :
    (∀ use ∈ uses entries text, use.StandsIn entries text) ∧ Use.Apart (uses entries text) := by
  have all : ∀ (more : List Abbreviation) (found : List Use), more ⊆ entries →
      (∀ use ∈ found, use.StandsIn entries text) → Use.Apart found →
      (∀ use ∈ more.foldl (addUses text) found, use.StandsIn entries text) ∧
        Use.Apart (more.foldl (addUses text) found) := by
    intro more
    induction more with
    | nil => exact fun found _ standing apart => ⟨standing, apart⟩
    | cons entry rest ih =>
      intro found within standing apart
      obtain ⟨standing, apart⟩ := addUses_found (within List.mem_cons_self) named standing apart
      exact ih _ (fun other member => within (List.mem_cons_of_mem _ member)) standing apart
  exact all entries [] (List.Subset.refl _) (by simp) List.Pairwise.nil

end Manuscript.Abbreviation
