import Manuscript.Prose.AttributeBlock

/-!
# Names of attributes

Which names can be written in a tag, and which are those of event handlers. A block that is read
gives only names that can be written (`isNamed_of_read?`), and what is left of it without event
handlers gives none of theirs (`IsNamed.filterHandlers`).
-/

namespace Manuscript

/-- A name that can be written in a tag: an ASCII letter, `_` or `:`, and after it ASCII letters,
digits and `_`, `:`, `.`, `-`. -/
def IsAttributeName : Text → Prop
  | [] => False
  | c :: rest =>
    (c.isAlpha = true ∨ c = '_' ∨ c = ':') ∧
      ∀ d ∈ rest, d.isAlphanum = true ∨ d = '_' ∨ d = ':' ∨ d = '.' ∨ d = '-'

instance : DecidablePred IsAttributeName
  | [] => inferInstanceAs (Decidable False)
  | c :: rest =>
    have : Decidable (∀ d ∈ rest, d.isAlphanum = true ∨ d = '_' ∨ d = ':' ∨ d = '.' ∨ d = '-') :=
      List.decidableBAll _ rest
    inferInstanceAs (Decidable ((c.isAlpha = true ∨ c = '_' ∨ c = ':') ∧
      ∀ d ∈ rest, d.isAlphanum = true ∨ d = '_' ∨ d = ':' ∨ d = '.' ∨ d = '-'))

/-- A name that begins with `on` in any letter case. -/
def IsHandlerName : Text → Prop
  | c :: d :: _ => (c = 'o' ∨ c = 'O') ∧ (d = 'n' ∨ d = 'N')
  | _ => False

instance : DecidablePred IsHandlerName
  | [] => inferInstanceAs (Decidable False)
  | [_] => inferInstanceAs (Decidable False)
  | c :: d :: _ => inferInstanceAs (Decidable ((c = 'o' ∨ c = 'O') ∧ (d = 'n' ∨ d = 'N')))

/-- A name that can be written in a tag and runs no script. -/
def IsSafeName (name : Text) : Prop :=
  IsAttributeName name ∧ ¬ IsHandlerName name

instance : DecidablePred IsSafeName := fun _ => inferInstanceAs (Decidable (_ ∧ _))

/-- A name that a block may give: that of an event handler only where these are allowed. -/
def IsGivenName (allowed : Bool) (name : Text) : Prop :=
  IsAttributeName name ∧ (IsHandlerName name → allowed = true)

/-- Where event handlers are not allowed, a block gives only names that run no script. -/
theorem isSafeName_of_isGivenName {name : Text} (given : IsGivenName false name) :
    IsSafeName name :=
  ⟨given.1, fun handler => Bool.noConfusion (given.2 handler)⟩

namespace Pairs

/-- Setting a value gives no name but the one that is set. -/
theorem mem_set {name value : Text} {pairs : List (Text × Text)} {pair : Text × Text}
    (member : pair ∈ set name value pairs) : pair.1 ∈ pairs.map Prod.fst ∨ pair.1 = name := by
  induction pairs with
  | nil =>
    cases List.mem_singleton.1 member
    exact .inr rfl
  | cons first rest ih =>
    obtain ⟨other, old⟩ := first
    rw [set] at member
    split at member
    · rename_i same
      rcases List.mem_cons.1 member with rfl | later
      · exact .inr same
      · exact .inl (List.mem_cons_of_mem _ (List.mem_map_of_mem later))
    · rcases List.mem_cons.1 member with rfl | later
      · exact .inl List.mem_cons_self
      · exact (ih later).imp_left (List.mem_cons_of_mem _)

/-- Setting several values gives no names but those that are set. -/
theorem mem_setAll {values pairs : List (Text × Text)} {pair : Text × Text}
    (member : pair ∈ setAll values pairs) :
    pair.1 ∈ pairs.map Prod.fst ∨ pair.1 ∈ values.map Prod.fst := by
  induction values generalizing pairs with
  | nil => exact .inl (List.mem_map_of_mem member)
  | cons first rest ih =>
    obtain ⟨name, value⟩ := first
    rcases ih member with old | new
    · obtain ⟨other, inSet, same⟩ := List.mem_map.1 old
      rw [← same]
      exact (mem_set inSet).imp_right fun own => List.mem_cons.2 (.inl own)
    · exact .inr (List.mem_cons_of_mem _ new)

end Pairs

namespace AttributeBlock

/-- The attributes of a block have names that can be written. -/
def IsNamed (block : AttributeBlock) : Prop :=
  ∀ pair ∈ block.properties, IsAttributeName pair.1

/-- Lower case adds 32 to the code of a capital ASCII letter and nothing to any other. -/
theorem toNat_toLower (c : Char) :
    c.toLower.toNat = if 65 ≤ c.toNat ∧ c.toNat ≤ 90 then c.toNat + 32 else c.toNat := by
  have bounds : (c.val ≥ 'A'.val ∧ c.val ≤ 'Z'.val) ↔ (65 ≤ c.toNat ∧ c.toNat ≤ 90) := by
    simp only [ge_iff_le, UInt32.le_iff_toNat_le]
    rfl
  unfold Char.toLower
  by_cases upper : 65 ≤ c.toNat ∧ c.toNat ≤ 90
  · rw [dif_pos (bounds.2 upper), if_pos upper]
    change (c.val + 32).toNat = _
    have : (32 : UInt32).toNat = 32 := rfl
    have : c.val.toNat = c.toNat := rfl
    rw [UInt32.toNat_add]
    omega
  · rw [dif_neg (fun within => upper (bounds.1 within)), if_neg upper]

/-- A letter is an `o` or an `n` in lower case if it is one in some case. -/
theorem toLower_eq_iff (c : Char) : (c.toLower = 'o' ↔ c = 'o' ∨ c = 'O') ∧
    (c.toLower = 'n' ↔ c = 'n' ∨ c = 'N') := by
  have code := toNat_toLower c
  have codes : 'o'.toNat = 111 ∧ 'O'.toNat = 79 ∧ 'n'.toNat = 110 ∧ 'N'.toNat = 78 := by decide
  simp only [← Char.toNat_inj, code, codes]
  constructor <;> split <;> omega

/-- The names of event handlers are told by their lower case. -/
theorem isEventHandler_iff (name : Text) : isEventHandler name = true ↔ IsHandlerName name := by
  rw [isEventHandler, Text.startsWith, List.isPrefixOf_iff_prefix, Text.asciiLowercase]
  match name with
  | [] => simp [IsHandlerName]
  | [c] => simp [IsHandlerName]
  | c :: d :: rest =>
    rw [List.map_cons, List.map_cons, List.cons_prefix_cons, List.cons_prefix_cons, IsHandlerName,
      ← (toLower_eq_iff c).1, ← (toLower_eq_iff d).2]
    simp [eq_comm]

/-- The name of an entry that is read can be written. -/
theorem isAttributeName_of_entry? {text after name value : Text}
    (read : entry? text = some (.property name value, after)) : IsAttributeName name := by
  have written : ∀ (c : Char) (rest : Text), isNameStart c = true →
      IsAttributeName (c :: rest.takeWhile isNameChar) := by
    intro c rest start
    refine ⟨by simpa [isNameStart, or_assoc] using start, fun d member => ?_⟩
    have own := List.all_eq_true.1 (List.all_takeWhile (p := isNameChar) (l := rest)) d member
    simpa [isNameChar, or_assoc] using own
  unfold entry? at read
  split at read
  · cases read
  · rename_i c rest
    split at read
    · split at read
      · cases read
      · split at read <;> cases read
    · split at read
      · rename_i start
        split at read
        · rw [Option.map_eq_some_iff] at read
          obtain ⟨_, _, same⟩ := read
          cases same
          exact written c rest start
        · cases read
          exact written c rest start
      · cases read

/-- All entries of a text that is read have names that can be written. -/
theorem isAttributeName_of_entries? {text : Text} {entries : List Entry}
    (read : entries? text = some entries) {name value : Text}
    (member : Entry.property name value ∈ entries) : IsAttributeName name := by
  induction size : text.length using Nat.strongRecOn generalizing text entries with
  | ind length ih =>
    cases text with
    | nil =>
      rw [entries?] at read
      cases read
      cases member
    | cons c rest =>
      rw [entries?] at read
      split at read
      · cases read
      · rename_i entry after found
        split at read
        · cases read
        · rw [Option.map_eq_some_iff] at read
          obtain ⟨later, readLater, rfl⟩ := read
          rcases List.mem_cons.1 member with rfl | member
          · exact isAttributeName_of_entry? found
          · have shorter := length_of_entry? found
            have trimmed := (List.dropWhile_sublist Text.isBlank (l := after)).length_le
            exact ih _ (by rw [← size, Text.trimStart]; omega) readLater member rfl

/-- A block stays named when an entry with a name that can be written is added. -/
theorem IsNamed.add {block : AttributeBlock} (named : block.IsNamed) {entry : Entry}
    (own : ∀ name value, entry = .property name value → IsAttributeName name) :
    (block.add entry).IsNamed := by
  cases entry with
  | className => exact named
  | id => exact named
  | property name value =>
    rw [AttributeBlock.add]
    split
    · exact named
    · split
      · exact named
      · intro pair member
        rcases List.mem_append.1 member with before | last
        · exact named pair before
        · rw [List.mem_singleton.1 last]
          exact own name value rfl

/-- A block made of entries has their names. -/
theorem isNamed_foldl {entries : List Entry} {block : AttributeBlock} (named : block.IsNamed)
    (own : ∀ name value, Entry.property name value ∈ entries → IsAttributeName name) :
    (entries.foldl AttributeBlock.add block).IsNamed := by
  induction entries generalizing block with
  | nil => exact named
  | cons entry rest ih =>
    refine ih (named.add ?_) fun name value member => own name value (List.mem_cons_of_mem _ member)
    rintro name value rfl
    exact own name value List.mem_cons_self

/-- A block that is read up to its closing delimiter has names that can be written. -/
theorem isNamed_of_closedBy? {close text after : Text} {block : AttributeBlock}
    (read : closedBy? close text = some (block, after)) : block.IsNamed := by
  rw [closedBy?, Option.bind_eq_bind, Option.bind_eq_some_iff] at read
  obtain ⟨⟨inner, rest⟩, _, read⟩ := read
  rw [Option.bind_eq_bind, Option.bind_eq_some_iff] at read
  obtain ⟨block', inside, same⟩ := read
  cases same
  rw [ofInner?] at inside
  split at inside
  · cases inside
  · rw [Option.map_eq_some_iff] at inside
    obtain ⟨entries, readEntries, rfl⟩ := inside
    refine isNamed_foldl (fun pair member => by cases member) fun name value member =>
      isAttributeName_of_entries? readEntries member

/-- A block that is read has names that can be written. -/
theorem isNamed_of_read? {text after : Text} {block : AttributeBlock}
    (read : read? text = some (block, after)) : block.IsNamed := by
  unfold read? at read
  split at read
  · exact isNamed_of_closedBy? read
  · exact isNamed_of_closedBy? read
  · exact isNamed_of_closedBy? read
  · cases read

/-- What is left of a named block has only names that a block may give. -/
theorem IsNamed.filterHandlers {block : AttributeBlock} (named : block.IsNamed) (allowed : Bool) :
    ∀ pair ∈ (block.filterHandlers allowed).properties, IsGivenName allowed pair.1 := by
  intro pair member
  cases allowed with
  | true => exact ⟨named pair member, fun _ => rfl⟩
  | false =>
    obtain ⟨inBlock, other⟩ := List.mem_filter.1 member
    refine ⟨named pair inBlock, fun handler => ?_⟩
    simp [(isEventHandler_iff pair.1).2 handler] at other

end AttributeBlock

end Manuscript
