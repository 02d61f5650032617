import Manuscript.Proofs.Attribute.Name
import Manuscript.Proofs.Text.Ends
import Manuscript.Proofs.Text.Search

/-!
# The written form of attribute blocks

A block is written as its entries between braces, every value between double quotes (`written`). Two
searches go over that text. One looks for the brace that closes the block, by the quotes alone; the
other reads the entries that stand before it. The first passes over each written entry
(`passes_written`) and the second takes each of them whole (`entry?_written`), so that the block is
read back, and what follows it is left (`read?_written`).
-/

namespace Manuscript.AttributeBlock

/-! ## Writing a block -/

/-- The written form of an entry. -/
def Entry.written : Entry → Text
  | .className name => '.' :: name
  | .id name => '#' :: name
  | .property name value => name ++ '=' :: '"' :: (value ++ ['"'])

/-- The entries of a block: its classes, its identifier, and its other attributes. -/
def entries (block : AttributeBlock) : List Entry :=
  block.classes.map .className ++
    (block.id.toList.map .id ++ block.properties.map fun pair => .property pair.1 pair.2)

/-- The written forms of entries with single blanks between them. -/
def joined (entries : List Entry) : Text :=
  Text.joinWith [' '] (entries.map Entry.written)

/-- The written form of a block. -/
def written (block : AttributeBlock) : Text :=
  '\x7b' :: (joined block.entries ++ ['\x7d'])

/-- A name that can stand behind a dot or a hash sign in braces. -/
def IsShortName (name : Text) : Prop :=
  name ≠ [] ∧ ∀ c ∈ name, Text.isBlank c = false ∧ c ≠ '"' ∧ c ≠ '\'' ∧ c ≠ '\x7d'

/-- The name of an attribute that is none of those with a short form. -/
def IsLongName (name : Text) : Prop :=
  IsAttributeName name ∧ name ≠ "class".toList ∧ name ≠ "id".toList

instance : DecidablePred IsShortName := fun name =>
  have : Decidable (∀ c ∈ name, Text.isBlank c = false ∧ c ≠ '"' ∧ c ≠ '\'' ∧ c ≠ '\x7d') :=
    List.decidableBAll _ name
  inferInstanceAs (Decidable (_ ∧ _))

instance : DecidablePred IsLongName := fun _ => inferInstanceAs (Decidable (_ ∧ _))

/-- A block whose entries can be told apart in its written form. -/
structure IsWritable (block : AttributeBlock) : Prop where
  /-- There is an entry. -/
  nonempty : block.entries ≠ []
  /-- Every class has a short form. -/
  classes : ∀ name ∈ block.classes, IsShortName name
  /-- The identifier has a short form. -/
  id : ∀ name ∈ block.id, IsShortName name
  /-- Every other attribute has a name of its own and a value that fits between double quotes. -/
  properties : ∀ pair ∈ block.properties, IsLongName pair.1 ∧ '"' ∉ pair.2

/-- What every entry of a writable block is. -/
def Entry.IsWritable : Entry → Prop
  | .className name => IsShortName name
  | .id name => IsShortName name
  | .property name value => IsLongName name ∧ '"' ∉ value

/-- Each entry of a block that can be written can be written. -/
theorem IsWritable.of_mem_entries {block : AttributeBlock} (writable : block.IsWritable)
    {entry : Entry} (member : entry ∈ block.entries) : entry.IsWritable := by
  simp only [entries, List.mem_append, List.mem_map, Option.mem_toList] at member
  rcases member with ⟨name, inClasses, rfl⟩ | ⟨name, isId, rfl⟩ | ⟨pair, inProperties, rfl⟩
  · exact writable.classes name inClasses
  · exact writable.id name isId
  · exact writable.properties pair inProperties

/-- The entries of a block make up the block. -/
theorem foldl_add_entries {block : AttributeBlock} (writable : block.IsWritable) :
    block.entries.foldl add {} = block := by
  have classes : ∀ (names : List Text) (start : AttributeBlock),
      (names.map Entry.className).foldl add start =
        { start with classes := start.classes ++ names } := by
    intro names
    induction names with
    | nil => simp
    | cons name rest ih => simp [add, ih]
  have properties : ∀ (pairs : List (Text × Text)) (start : AttributeBlock),
      (∀ pair ∈ pairs, IsLongName pair.1) →
        (pairs.map fun pair => Entry.property pair.1 pair.2).foldl add start =
          { start with properties := start.properties ++ pairs } := by
    intro pairs
    induction pairs with
    | nil => simp
    | cons pair rest ih =>
      intro start long
      obtain ⟨_, notClass, notId⟩ := long pair List.mem_cons_self
      have added : start.add (.property pair.1 pair.2) =
          { start with properties := start.properties ++ [pair] } := by
        rw [add, if_neg notClass, if_neg notId]
      rw [List.map_cons, List.foldl_cons, added, ih _ fun other member =>
        long other (List.mem_cons_of_mem _ member)]
      simp
  have long : ∀ pair ∈ block.properties, IsLongName pair.1 :=
    fun pair member => (writable.properties pair member).1
  rw [entries, List.foldl_append, List.foldl_append, classes, properties _ _ long]
  obtain ⟨names, id, pairs⟩ := block
  cases id <;> simp [add]

/-! ## The search for the end -/

/-- The search for the end of a block, outside quotes, passes over a text whatever follows it. -/
def Passes (close text : Text) : Prop :=
  ∀ rest, splitClose? close none (text ++ rest) =
    (splitClose? close none rest).map fun (inner, after) => (text ++ inner, after)

namespace Passes

variable {close text other : Text}

/-- A scan for a delimiter passes no text. -/
theorem nil : Passes close [] := by
  intro rest
  simp

/-- A scan passes two texts if it passes each of them. -/
theorem append (first : Passes close text) (second : Passes close other) :
    Passes close (text ++ other) := by
  intro rest
  rw [List.append_assoc, first, second, Option.map_map]
  simp [Function.comp_def]

/-- A character that is no quote and begins no closing delimiter is passed. -/
theorem char {c d : Char} (double : c ≠ '"') (single : c ≠ '\'') (other : d ≠ c) :
    Passes (d :: close) [c] := by
  intro rest
  simp [splitClose?, splitClose?.continue', Text.dropFront?, double, single, other]

/-- A scan passes what has no quotes in it and no character of the delimiter's. -/
theorem chars {d : Char} (calm : ∀ c ∈ text, c ≠ '"' ∧ c ≠ '\'' ∧ d ≠ c) :
    Passes (d :: close) text := by
  induction text with
  | nil => exact .nil
  | cons c rest ih =>
    obtain ⟨double, single, other⟩ := calm c List.mem_cons_self
    exact (char double single other).append
      (ih fun c member => calm c (List.mem_cons_of_mem _ member))

/-- A text between double quotes is passed, whatever the delimiter. -/
theorem quoted (unquoted : '"' ∉ text) : Passes close ('"' :: (text ++ ['"'])) := by
  have inside : ∀ rest, splitClose? close (some '"') (text ++ '"' :: rest) =
      (splitClose? close none rest).map fun (inner, after) => (text ++ '"' :: inner, after) := by
    intro rest
    induction text with
    | nil => simp [splitClose?, splitClose?.continue']
    | cons c text ih =>
      rw [List.mem_cons, not_or] at unquoted
      simp [splitClose?, splitClose?.continue', Ne.symm unquoted.1, ih unquoted.2,
        Function.comp_def]
  intro rest
  simp [splitClose?, splitClose?.continue', inside, Function.comp_def]

end Passes

/-- The characters of a name are no blanks and none of the characters that structure a block. -/
theorem calm_of_isNameChar {c : Char} (isName : isNameChar c = true) :
    Text.isBlank c = false ∧ c ≠ '"' ∧ c ≠ '\'' ∧ c ≠ '\x7d' ∧ c ≠ '=' := by
  -- The characters of a name are of ASCII, so that it is enough to look at these.
  have ascii : ∀ code < 128, isNameChar (Char.ofNat code) = true →
      Text.isBlank (Char.ofNat code) = false ∧ Char.ofNat code ≠ '"' ∧ Char.ofNat code ≠ '\'' ∧
        Char.ofNat code ≠ '\x7d' ∧ Char.ofNat code ≠ '=' := by
    decide +kernel
  have small : c.toNat < 128 := by
    rw [isNameChar] at isName
    delta Char.isAlphanum Char.isAlpha Char.isUpper Char.isLower Char.isDigit at isName
    simp only [Bool.or_eq_true, Bool.and_eq_true, decide_eq_true_eq, beq_iff_eq,
      UInt32.le_iff_toNat_le, ge_iff_le] at isName
    rcases isName with (((((upper | lower) | digit) | rfl) | rfl) | rfl) | rfl
    · exact Nat.lt_of_le_of_lt upper.2 (by decide)
    · exact Nat.lt_of_le_of_lt lower.2 (by decide)
    · exact Nat.lt_of_le_of_lt digit.2 (by decide)
    all_goals decide
  simpa only [Char.ofNat_toNat] using ascii c.toNat small (by rwa [Char.ofNat_toNat])

/-- The name of an attribute is a character that can begin one, with characters of a name behind
it. -/
theorem exists_cons_of_isAttributeName {name : Text} (isName : IsAttributeName name) :
    ∃ c rest, name = c :: rest ∧ isNameStart c = true ∧ isNameChar c = true ∧
      ∀ d ∈ rest, isNameChar d = true := by
  cases name with
  | nil => cases isName
  | cons c rest =>
    obtain ⟨start, later⟩ := isName
    refine ⟨c, rest, rfl, ?_, ?_, fun d member => ?_⟩
    · simpa [isNameStart, or_assoc] using start
    · rcases start with letter | rfl | rfl
      · simp [isNameChar, Char.isAlphanum, letter]
      all_goals rfl
    · simpa [isNameChar, or_assoc] using later d member

namespace Entry

variable {entry : Entry}

/-- The search for the closing brace passes over a written entry. -/
theorem passes_written (writable : entry.IsWritable) : Passes ['\x7d'] entry.written := by
  have short : ∀ {mark : Char} {name : Text}, IsShortName name → mark ≠ '"' → mark ≠ '\'' →
      '\x7d' ≠ mark → Passes ['\x7d'] (mark :: name) := by
    intro mark name isShort double single other
    refine (Passes.char double single other).append (.chars fun c member => ?_)
    obtain ⟨_, double, single, brace⟩ := isShort.2 c member
    exact ⟨double, single, brace.symm⟩
  cases entry with
  | className name => exact short writable (by decide) (by decide) (by decide)
  | id name => exact short writable (by decide) (by decide) (by decide)
  | property name value =>
    obtain ⟨⟨isName, _⟩, unquoted⟩ := writable
    obtain ⟨c, rest, rfl, _, own, later⟩ := exists_cons_of_isAttributeName isName
    have calm : ∀ d ∈ c :: rest, d ≠ '"' ∧ d ≠ '\'' ∧ '\x7d' ≠ d := by
      intro d member
      have isName : isNameChar d = true := by
        rcases List.mem_cons.1 member with rfl | member
        · exact own
        · exact later d member
      obtain ⟨_, double, single, brace, _⟩ := calm_of_isNameChar isName
      exact ⟨double, single, brace.symm⟩
    have equals : Passes ['\x7d'] ['='] := .char (by decide) (by decide) (by decide)
    exact (Passes.chars calm).append (equals.append (.quoted unquoted))

/-- A written entry begins with no blank. -/
theorem exists_cons_written (writable : entry.IsWritable) :
    ∃ c rest, entry.written = c :: rest ∧ Text.isBlank c = false := by
  cases entry with
  | className name => exact ⟨_, _, rfl, rfl⟩
  | id name => exact ⟨_, _, rfl, rfl⟩
  | property name value =>
    obtain ⟨c, rest, rfl, _, own, _⟩ := exists_cons_of_isAttributeName writable.1.1
    exact ⟨c, _, rfl, (calm_of_isNameChar own).1⟩

end Entry

/-- The rest of a block behind an entry: nothing, or something that begins with a blank. -/
def IsBehindEntry (text : Text) : Prop :=
  text.head?.any (!Text.isBlank ·) = false

/-- A run of characters without blanks ends where an entry ends. -/
theorem span_of_isBehindEntry {name rest : Text} (solid : ∀ c ∈ name, Text.isBlank c = false)
    (behind : IsBehindEntry rest) :
    (name ++ rest).takeWhile (!Text.isBlank ·) = name ∧
      (name ++ rest).dropWhile (!Text.isBlank ·) = rest := by
  apply Text.span_append
  · simpa using solid
  · cases rest with
    | nil => simp
    | cons c rest => simpa [IsBehindEntry] using behind

/-- A value between double quotes is read whole. -/
theorem value?_quoted {value : Text} (unquoted : '"' ∉ value) (rest : Text) :
    value? ('"' :: (value ++ '"' :: rest)) = some (value, rest) := by
  have inside : Text.splitFirst? ['"'] (value ++ '"' :: rest) = some (value, rest) := by
    induction value with
    | nil => simp [Text.splitFirst?, Text.dropFront?]
    | cons c value ih =>
      rw [List.mem_cons, not_or] at unquoted
      simp [Text.splitFirst?, Text.dropFront?, unquoted.1, ih unquoted.2]
  simpa [value?] using inside

/-- A written entry is read back, and what is behind it is left. -/
theorem entry?_written {entry : Entry} (writable : entry.IsWritable) (rest : Text)
    (behind : IsBehindEntry rest) : entry? (entry.written ++ rest) = some (entry, rest) := by
  cases entry with
  | className name | id name =>
    obtain ⟨nonempty, solid⟩ := writable
    obtain ⟨taken, left⟩ := span_of_isBehindEntry (fun c member => (solid c member).1) behind
    simp [Entry.written, entry?, taken, left]
  | property name value =>
    obtain ⟨⟨isName, _⟩, unquoted⟩ := writable
    obtain ⟨c, name, rfl, start, _, later⟩ := exists_cons_of_isAttributeName isName
    have long : ¬ (c = '.' ∨ c = '#') := by
      rintro (rfl | rfl) <;> simp [isNameStart] at start
    obtain ⟨taken, left⟩ :
        (name ++ '=' :: '"' :: (value ++ '"' :: rest)).takeWhile isNameChar = name ∧
          (name ++ '=' :: '"' :: (value ++ '"' :: rest)).dropWhile isNameChar =
            '=' :: '"' :: (value ++ '"' :: rest) := by
      apply Text.span_append later
      rintro _ ⟨⟩
      rfl
    simp [Entry.written, entry?, long, start, taken, left, value?_quoted unquoted]

/-- Entries that follow an entry are read after it. -/
theorem entries?_of_entry? {text after : Text} {entry : Entry} {later : List Entry}
    (first : entry? text = some (entry, after)) (behind : IsBehindEntry after)
    (others : entries? (Text.trimStart after) = some later) :
    entries? text = some (entry :: later) := by
  cases text with
  | nil => cases first
  | cons c rest =>
    rw [entries?]
    split
    · rename_i none
      rw [first] at none
      cases none
    · rename_i entry' after' found
      rw [first] at found
      cases found
      rw [behind, others]
      rfl

/-- Entries are written with a blank between them. -/
theorem joined_cons_cons (entry next : Entry) (rest : List Entry) :
    joined (entry :: next :: rest) = entry.written ++ ' ' :: joined (next :: rest) := by
  simp [joined, Text.joinWith]

section

variable {entries : List Entry}

/-- The search for the closing brace passes over all entries. -/
theorem passes_joined (writable : ∀ entry ∈ entries, entry.IsWritable) :
    Passes ['\x7d'] (joined entries) := by
  induction entries with
  | nil => exact .nil
  | cons entry rest ih =>
    have own := Entry.passes_written (writable entry List.mem_cons_self)
    have later := ih fun other member => writable other (List.mem_cons_of_mem entry member)
    cases rest with
    | nil => exact own
    | cons next rest =>
      have blank : Passes ['\x7d'] [' '] := .char (by decide) (by decide) (by decide)
      rw [joined_cons_cons]
      exact own.append (blank.append later)

/-- Trimming takes nothing off entries. -/
theorem trimStart_joined (writable : ∀ entry ∈ entries, entry.IsWritable) :
    Text.trimStart (joined entries) = joined entries := by
  cases entries with
  | nil => rfl
  | cons entry rest =>
    obtain ⟨c, tail, whole, visible⟩ :=
      Entry.exists_cons_written (writable entry List.mem_cons_self)
    cases rest with
    | nil => simp [joined, Text.joinWith, whole, Text.trimStart, visible]
    | cons next rest => simp [joined_cons_cons, whole, Text.trimStart, visible]

/-- Entries with single blanks between them are read back. -/
theorem entries?_joined (writable : ∀ entry ∈ entries, entry.IsWritable) :
    entries? (joined entries) = some entries := by
  induction entries with
  | nil => rw [joined, List.map_nil, Text.joinWith, entries?]
  | cons entry rest ih =>
    have own := writable entry List.mem_cons_self
    have later := fun other member => writable other (List.mem_cons_of_mem entry member)
    have others := ih later
    cases rest with
    | nil =>
      have read := entry?_written own [] rfl
      rw [List.append_nil] at read
      exact entries?_of_entry? read rfl others
    | cons next rest =>
      have read := entry?_written own (' ' :: joined (next :: rest)) rfl
      have trimmed : Text.trimStart (' ' :: joined (next :: rest)) = joined (next :: rest) := by
        have blank : Text.isBlankText [' '] = true := rfl
        have trimmed := Text.trimStart_append blank (joined (next :: rest))
        rwa [trimStart_joined later] at trimmed
      rw [← trimmed] at others
      rw [joined_cons_cons]
      exact entries?_of_entry? read rfl others

end

/-- The inner text of a written block is read back as the block. -/
theorem ofInner?_joined {block : AttributeBlock} (writable : block.IsWritable) :
    ofInner? (joined block.entries) = some block := by
  have each : ∀ entry ∈ block.entries, entry.IsWritable := fun _ => writable.of_mem_entries
  have nonempty : joined block.entries ≠ [] := by
    intro empty
    have read := entries?_joined each
    rw [empty, entries?] at read
    exact writable.nonempty (Option.some.inj read).symm
  rw [ofInner?, trimStart_joined each]
  simp [entries?_joined each, foldl_add_entries writable]

/-- The written form of a block is read back as the block, whatever follows it, and exactly what
follows it is left. -/
theorem read?_written {block : AttributeBlock} (writable : block.IsWritable) (rest : Text) :
    read? (block.written ++ rest) = some (block, rest) := by
  have passes := passes_joined fun _ => writable.of_mem_entries
  have closed : splitClose? ['\x7d'] none (joined block.entries ++ '\x7d' :: rest) =
      some (joined block.entries, rest) := by
    rw [passes]
    simp [splitClose?, Text.dropFront?]
  have whole : block.written ++ rest = '\x7b' :: (joined block.entries ++ '\x7d' :: rest) := by
    simp [written]
  rw [whole, read?, closedBy?, closed]
  simp [ofInner?_joined writable]

/-- A block with two classes, an identifier, and values with a brace, a blank and an apostrophe. -/
def titledBlock : AttributeBlock where
  classes := ["wide".toList, "[x".toList]
  id := some "it.s#1".toList
  properties := [("data-at".toList, "\x7d 'a' .b".toList), ("data-at".toList, [])]

/-- The block is read back before a text that looks like more of it. -/
theorem read?_written_titledBlock :
    titledBlock.IsWritable ∧
      read? (titledBlock.written ++ "\"\x7d".toList) = some (titledBlock, "\"\x7d".toList) := by
  have writable : titledBlock.IsWritable := by
    constructor <;> decide
  exact ⟨writable, read?_written writable _⟩

end Manuscript.AttributeBlock
