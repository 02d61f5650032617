import Manuscript.Emoji.Basic

/-!
# What the catalogue lists

A line of the catalogue is read only if its sequence can be an emoji and its shortcodes are written
with the characters of shortcodes. So every shortcode is a name of such characters, and what it
stands for is no such name: there is a character in it that is not of ASCII, and no colon.
-/

namespace Manuscript.Emoji

/-- An entry has a sequence that can be an emoji, and shortcodes of the characters that these have.
-/
theorem valid_of_read? {line : Text} {entry : Entry} (read : Entry.read? line = some entry) :
    Entry.isSequence entry.sequence = true ∧ entry.shortcodes.all Entry.isShortcode = true := by
  have guarded : ∀ given : Entry, (do
      guard (Entry.isSequence given.sequence ∧ given.shortcodes.all Entry.isShortcode)
      return given : Option Entry) = some entry →
      Entry.isSequence entry.sequence = true ∧ entry.shortcodes.all Entry.isShortcode = true := by
    intro given checked
    obtain ⟨_, kept, same⟩ := Option.bind_eq_some_iff.1 checked
    cases same
    delta guard at kept
    exact (Option.ite_none_right_eq_some.1 kept).1
  unfold Entry.read? at read
  dsimp only at read
  split at read
  · exact guarded ⟨_, _, _, _⟩ read
  · exact guarded ⟨_, _, _, _⟩ read
  · cases read

/-- What a shortcode stands for is listed. -/
theorem mem_shortcodeTable {name emoji : Text} (known : ofShortcode? name = some emoji) :
    (name, emoji) ∈ shortcodeTable := by
  obtain ⟨front, back, whole, _⟩ := List.lookup_eq_some_iff.1 known
  rw [whole]
  exact List.mem_append_right _ List.mem_cons_self

/-- A shortcode and the emoji that it stands for are those of an entry. -/
theorem valid_of_ofShortcode? {name emoji : Text} (known : ofShortcode? name = some emoji) :
    Entry.isSequence emoji = true ∧ Entry.isShortcode name = true := by
  obtain ⟨entry, member, code⟩ := List.mem_flatMap.1 (mem_shortcodeTable known)
  obtain ⟨code, inEntry, same⟩ := List.mem_map.1 code
  obtain ⟨rfl, rfl⟩ := Prod.mk.inj same
  obtain ⟨line, _, read⟩ := List.mem_filterMap.1 member
  obtain ⟨isSequence, areShortcodes⟩ := valid_of_read? read
  exact ⟨isSequence, List.all_eq_true.1 areShortcodes _ inEntry⟩

/-- What can be an emoji: it is short, all its characters can be part of one, and one of them is not
of ASCII. -/
theorem isSequence_iff {text : Text} : Entry.isSequence text = true ↔
    (text ≠ [] ∧ text.length ≤ lengthLimit) ∧
      (∀ c ∈ text, Entry.isSequenceChar c = true) ∧ ∃ c ∈ text, 128 ≤ c.toNat := by
  simp [Entry.isSequence]

/-- No colon stands in an emoji. -/
theorem colon_notMem_of_isSequence {text : Text} (isSequence : Entry.isSequence text = true) :
    ':' ∉ text := by
  intro colon
  have part := (isSequence_iff.1 isSequence).2.1 ':' colon
  revert part
  decide

end Manuscript.Emoji
