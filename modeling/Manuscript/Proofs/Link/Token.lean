import Manuscript.Proofs.Link.Address
import Mathlib.Data.List.Forall2

/-!
# The tokens of a text

A token is a longest piece of a text without blanks, said without the search that goes through the
text (`IsToken`). What trimming leaves of it is its longest start that ends neither in trailing
punctuation nor in a closing parenthesis too many (`trimAddress_eq_iff`), and an address is said by
the characters it is spelled with (`isAddress_iff`). A text is cut exactly at the tokens that begin
with an address (`cuts_cutFrom`), and no other address is left in the pieces between.
-/

namespace Manuscript.BareLink

/-! ## Trimming -/

/-- A text ends neither in trailing punctuation nor in a closing parenthesis that outnumbers the
opening ones. -/
def EndsWell (text : Text) : Prop :=
  ∀ last ∈ text.getLast?, isTrailing last = false ∧
    (last = ')' → text.count ')' ≤ text.count '(')

/-- The longest start of a token that ends well. -/
structure IsTrimmed (token url : Text) : Prop where
  isStart : url <+: token
  endsWell : EndsWell url
  longest : ∀ other, other <+: token → EndsWell other → other.length ≤ url.length

/-- A text ends well when nothing is trimmed from it. -/
theorem endsWell_iff {text : Text} : EndsWell text ↔ trimAddress text = text := by
  rcases text.eq_nil_or_concat' with rfl | ⟨front, last, rfl⟩
  · simp [EndsWell, trimAddress, trimReversed]
  · have counts : excess (last :: front.reverse) =
        ((front ++ [last]).count ')' - (front ++ [last]).count '(' : Int) := by
      simp [excess, List.count_cons, List.count_append]
    have short := (trimmed_suffix front.reverse).length_le
    rw [trimAddress_eq, List.reverse_eq_iff, List.reverse_append, List.reverse_singleton,
      List.singleton_append, trimmed_cons, counts]
    constructor
    · intro ends
      obtain ⟨plain, balanced⟩ := ends last (by simp)
      rw [if_neg]
      simp only [plain, Bool.false_or, Bool.and_eq_true, decide_eq_true_eq, not_and, Int.not_lt]
      intro closes
      have := balanced closes
      omega
    · intro same
      split at same
      · have := congrArg List.length same
        simp only [List.length_cons] at this
        omega
      · rename_i kept
        simp only [Bool.or_eq_true, Bool.and_eq_true, decide_eq_true_eq, not_or, not_and,
          Bool.not_eq_true, Int.not_lt] at kept
        intro other isLast
        obtain rfl : last = other := by simpa using isLast
        refine ⟨kept.1, fun closes => ?_⟩
        have := kept.2 closes
        omega

/-- What is left of a token is trimmed. -/
theorem isTrimmed_trimAddress (token : Text) : IsTrimmed token (trimAddress token) where
  isStart := trimAddress_begins token
  endsWell := endsWell_iff.2 (trimAddress_of_part (trimAddress_begins token) (Nat.le_refl _))
  longest other start ends := by
    by_contra longer
    have same := trimAddress_of_part start (by omega)
    rw [endsWell_iff.1 ends] at same
    rw [same] at longer
    exact longer (Nat.le_refl _)

/-- Trimming leaves the longest start that ends well. -/
theorem trimAddress_eq_iff {token url : Text} : trimAddress token = url ↔ IsTrimmed token url := by
  constructor
  · rintro rfl
    exact isTrimmed_trimAddress token
  · intro trimmed
    have own := isTrimmed_trimAddress token
    have shorter := own.longest url trimmed.isStart trimmed.endsWell
    have longer := trimmed.longest _ own.isStart own.endsWell
    exact (List.prefix_of_prefix_length_le own.isStart trimmed.isStart longer).eq_of_length
      (Nat.le_antisymm longer shorter)

/-- What is trimmed from a word is punctuation and closing parentheses. -/
theorem mem_drop_trimAddress {word : Text} {c : Char}
    (member : c ∈ word.drop (trimAddress word).length) : isTrailing c = true ∨ c = ')' := by
  by_contra other
  obtain ⟨plain, notClosing⟩ := not_or.1 other
  obtain ⟨front, back, rest⟩ := List.append_of_mem member
  have whole : trimAddress word ++ front ++ [c] ++ back = word := by
    have split := List.prefix_iff_eq_append.1 (trimAddress_begins word)
    simpa [rest] using split
  have kept := prefix_trimAddress (Bool.eq_false_iff.2 plain) notClosing
    (trimAddress word ++ front) back
  rw [whole] at kept
  have := kept.length_le
  simp only [List.length_append, List.length_singleton] at this
  omega

/-- Nothing that is trimmed from a word is an address by itself. -/
theorem trimAddress_drop (word : Text) :
    trimAddress (word.drop (trimAddress word).length) = [] := by
  have trimmed := isTrimmed_trimAddress (word.drop (trimAddress word).length)
  generalize trimAddress (word.drop (trimAddress word).length) = left at trimmed
  have made : ∀ c ∈ left, isTrailing c = true ∨ c = ')' :=
    fun c member => mem_drop_trimAddress (trimmed.isStart.subset member)
  rcases left.eq_nil_or_concat' with rfl | ⟨front, last, rfl⟩
  · rfl
  · obtain ⟨plain, balanced⟩ := trimmed.endsWell last (by simp)
    obtain rfl : last = ')' := (made last (by simp)).resolve_left (by simp [plain])
    have noOpening : (front ++ [')']).count '(' = 0 := by
      refine List.count_eq_zero.2 fun member => ?_
      rcases made '(' member with trailing | closes
      · cases trailing
      · cases closes
    have := balanced rfl
    simp [noOpening] at this

/-! ## Addresses -/

/-- A text is spelled with the given lower-case letters, in either case of each. -/
abbrev Spells (letters : Text) : Text → Prop :=
  List.Forall₂ (fun letter c => Text.isLetter? letter c = true) letters

/-- A text is the scheme `http` or `https` in any letter case, `://`, a character other than a
blank, `$`, `.`, `?` and `#`, a character other than a line feed, and then no blanks. -/
def IsAddress (text : Text) : Prop :=
  ∃ scheme first second rest, (Spells "http".toList scheme ∨ Spells "https".toList scheme) ∧
    text = scheme ++ ("://".toList ++ first :: second :: rest) ∧
    Text.isBlank first = false ∧ first ∉ ['$', '.', '?', '#'] ∧ second ≠ '\n' ∧ IsSolid rest

/-- Letters are dropped exactly when the text begins with them in either case. -/
theorem dropLetters?_eq_some_iff {letters text rest : Text} :
    Text.dropLetters? letters text = some rest ↔ ∃ front, Spells letters front ∧
      text = front ++ rest := by
  induction letters generalizing text with
  | nil => simp [Text.dropLetters?, List.forall₂_nil_left_iff]
  | cons letter letters ih =>
    cases text with
    | nil => simp [Text.dropLetters?, List.forall₂_cons_left_iff]
    | cons c tail =>
      rw [Text.dropLetters?]
      constructor
      · intro read
        split at read
        · rename_i same
          obtain ⟨front, spells, rfl⟩ := ih.1 read
          exact ⟨c :: front, .cons same spells, rfl⟩
        · cases read
      · rintro ⟨front, spells, whole⟩
        cases spells with
        | cons same spells =>
          obtain ⟨rfl, rfl⟩ := List.cons.inj whole
          rw [if_pos same]
          exact ih.2 ⟨_, spells, rfl⟩

/-- Letters are dropped one part after the other. -/
theorem dropLetters?_append (front back text : Text) :
    Text.dropLetters? (front ++ back) text =
      (Text.dropLetters? front text).bind (Text.dropLetters? back) := by
  induction front generalizing text with
  | nil => rfl
  | cons letter front ih =>
    cases text with
    | nil => rfl
    | cons c rest =>
      rw [List.cons_append, Text.dropLetters?, Text.dropLetters?]
      split
      · exact ih rest
      · rfl

/-- An s is skipped where a text goes on with one, in either case. -/
theorem skipLetter_eq_iff {rest text : Text}
    (other : ∀ c ∈ rest.head?, Text.isLetter? 's' c = false) :
    Text.skipLetter 's' text = rest ↔ text = rest ∨ Text.dropLetters? ['s'] text = some rest := by
  cases text with
  | nil => simp [Text.skipLetter, Text.dropLetters?]
  | cons c tail =>
    cases same : Text.isLetter? 's' c with
    | false => simp [Text.skipLetter, Text.dropLetters?, same]
    | true =>
      have apart : c :: tail ≠ rest := by
        rintro rfl
        simp [same] at other
      simp [Text.skipLetter, Text.dropLetters?, same, apart]

/-- What follows the scheme of an address. -/
theorem dropScheme?_eq_some_iff {text rest : Text} :
    WebAddress.dropScheme? text = some rest ↔
      ∃ scheme, (Spells "http".toList scheme ∨ Spells "https".toList scheme) ∧
        text = scheme ++ ("://".toList ++ rest) := by
  have letters : "https".toList = "http".toList ++ ['s'] := rfl
  have read : WebAddress.dropScheme? text = some rest ↔
      Text.dropLetters? "http".toList text = some ("://".toList ++ rest) ∨
        Text.dropLetters? "https".toList text = some ("://".toList ++ rest) := by
    have noLetter : Text.isLetter? 's' ':' = false := by decide
    have skipped {after : Text} :=
      @skipLetter_eq_iff ("://".toList ++ rest) after (by simp [noLetter])
    simp only [WebAddress.dropScheme?, Option.bind_eq_bind, Option.bind_eq_some_iff, letters,
      dropLetters?_append, Text.dropFront?_eq_some_iff, skipped]
    aesop
  simp only [read, dropLetters?_eq_some_iff, or_and_right, exists_or]

/-- What is accepted as an address is what is spelled like one. -/
theorem isAddress_iff {text : Text} : isAddress text = true ↔ IsAddress text := by
  have plain {first : Char} :
      (!(Text.isBlank first || first == '$' || first == '.' || first == '?' ||
        first == '#')) = true ↔ Text.isBlank first = false ∧ first ∉ ['$', '.', '?', '#'] := by
    simp [and_assoc]
  constructor
  · intro accepted
    rw [isAddress] at accepted
    split at accepted
    · rename_i first second rest read
      obtain ⟨scheme, spells, whole⟩ := dropScheme?_eq_some_iff.1 read
      simp only [Bool.and_eq_true, plain, bne_iff_ne, List.all_eq_true,
        Bool.not_eq_true'] at accepted
      obtain ⟨⟨⟨solid, allowed⟩, noFeed⟩, others⟩ := accepted
      exact ⟨scheme, first, second, rest, spells, whole, solid, allowed, noFeed, others⟩
    · cases accepted
  · rintro ⟨scheme, first, second, rest, spells, whole, solid, allowed, noFeed, others⟩
    rw [isAddress, dropScheme?_eq_some_iff.2 ⟨scheme, spells, whole⟩]
    simp only [Bool.and_eq_true, plain, bne_iff_ne, List.all_eq_true, Bool.not_eq_true']
    exact ⟨⟨⟨solid, allowed⟩, noFeed⟩, others⟩

/-- A word begins with an address when what trimming leaves of it is one. -/
theorem address?_eq_some_iff {word url : Text} :
    address? word = some url ↔ IsTrimmed word url ∧ IsAddress url := by
  rw [address?, ← trimAddress_eq_iff]
  split
  · rename_i accepted
    rw [Option.some_inj]
    refine ⟨?_, And.left⟩
    rintro rfl
    exact ⟨rfl, isAddress_iff.1 accepted⟩
  · rename_i refused
    refine iff_of_false (by simp) ?_
    rintro ⟨rfl, accepted⟩
    exact refused (isAddress_iff.2 accepted)

/-! ## Tokens -/

/-- A text ends with a blank, if it is not empty, so that no word goes on behind it. -/
def EndsApart (text : Text) : Prop :=
  ∀ c ∈ text.getLast?, Text.isBlank c = true

/-- A text ends with a blank, or is empty, if a text that it is the end of does. -/
theorem EndsApart.of_append {front back : Text} (apart : EndsApart (front ++ back)) :
    EndsApart back := by
  intro c isLast
  exact apart c (by simp [List.getLast?_append, Option.mem_def.1 isLast])

/-- A longest piece of a text without blanks, and the text before it. -/
structure IsToken (text before token : Text) : Prop where
  nonempty : token ≠ []
  solid : IsSolid token
  begins : EndsApart before
  ends : ∃ after, text = before ++ (token ++ after) ∧ IsApart after

/-- Behind `before`, a token of a text begins with an address. -/
def HasAddress (text before url : Text) : Prop :=
  ∃ token, IsToken text before token ∧ IsTrimmed token url ∧ IsAddress url

/-- A text has an address exactly when one of its tokens has. -/
theorem hasAddress_iff {text before url : Text} :
    HasAddress text before url ↔
      ∃ token, IsToken text before token ∧ address? token = some url := by
  simp only [HasAddress, address?_eq_some_iff]

/-- A text that ends without a blank goes on in what follows, unless that begins with one. -/
theorem not_endsApart {front token : Text} (nonempty : token ≠ []) (solid : IsSolid token) :
    ¬ EndsApart (front ++ token) := by
  intro apart
  have isLast : token.getLast nonempty ∈ (front ++ token).getLast? := by
    simp [List.getLast?_append, List.getLast?_eq_some_getLast nonempty]
  have blank := apart _ isLast
  rw [solid _ (List.getLast_mem nonempty)] at blank
  cases blank

/-- A text that begins with a token does not end the word before it. -/
theorem not_isApart {token back : Text} (nonempty : token ≠ []) (solid : IsSolid token) :
    ¬ IsApart (token ++ back) := by
  obtain ⟨c, rest, rfl⟩ := List.exists_cons_of_ne_nil nonempty
  intro apart
  have blank := apart c rfl
  rw [solid c List.mem_cons_self] at blank
  cases blank

/-- A text begins with a blank, or is empty, if a text that it is the start of does. -/
theorem isApart_of_append {front back : Text} (apart : IsApart (front ++ back)) :
    IsApart front := by
  cases front with
  | nil => exact isApart_nil
  | cons c rest => exact apart

/-- When no word goes through the place where a text is cut, the tokens of the text are those of its
parts. -/
theorem isToken_append {front back : Text} (gap : EndsApart front ∨ IsApart back)
    {before token : Text} :
    IsToken (front ++ back) before token ↔
      IsToken front before token ∨ ∃ later, before = front ++ later ∧ IsToken back later token := by
  constructor
  · rintro ⟨nonempty, solid, begins, after, whole, apart⟩
    rcases List.append_eq_append_iff.1 whole with ⟨later, rfl, rest⟩ | ⟨more, rfl, rest⟩
    · exact .inr ⟨later, rfl, nonempty, solid, begins.of_append, after, rest, apart⟩
    rcases List.append_eq_append_iff.1 rest with ⟨left, rfl, behind⟩ | ⟨left, rfl, rfl⟩
    · rw [behind] at apart
      exact .inl ⟨nonempty, solid, begins, left, rfl, isApart_of_append apart⟩
    -- The token goes from `more` into `left`, so that one of the two is empty.
    obtain ⟨solidMore, solidLeft⟩ := isSolid_append.1 solid
    by_cases noMore : more = []
    · subst noMore
      rw [List.append_nil]
      exact .inr ⟨[], (List.append_nil _).symm, nonempty, solid, nofun, after, rfl, apart⟩
    by_cases noLeft : left = []
    · subst noLeft
      rw [List.append_nil] at nonempty solid ⊢
      exact .inl ⟨nonempty, solid, begins, [], by simp, isApart_nil⟩
    · rcases gap with endsApart | isApart
      · exact absurd endsApart (not_endsApart noMore solidMore)
      · exact absurd isApart (not_isApart noLeft solidLeft)
  · rintro (⟨nonempty, solid, begins, after, rfl, apart⟩ |
      ⟨later, rfl, nonempty, solid, begins, after, rfl, apart⟩)
    · refine ⟨nonempty, solid, begins, after ++ back, by simp, ?_⟩
      by_cases none : after = []
      · subst none
        rw [List.append_nil] at gap
        exact gap.resolve_left (not_endsApart nonempty solid)
      · exact isApart_append apart none back
    · refine ⟨nonempty, solid, ?_, after, by simp, apart⟩
      cases later with
      | nil =>
        rw [List.append_nil]
        exact gap.resolve_right (@not_isApart token after nonempty solid)
      | cons c rest =>
        intro d isLast
        rw [List.getLast?_append_cons] at isLast
        exact begins d isLast

/-- The tokens with an address are those of the parts, too. -/
theorem hasAddress_append {front back : Text} (gap : EndsApart front ∨ IsApart back)
    {before url : Text} :
    HasAddress (front ++ back) before url ↔
      HasAddress front before url ∨
        ∃ later, before = front ++ later ∧ HasAddress back later url := by
  simp only [HasAddress, isToken_append gap, or_and_right, exists_or]
  aesop

/-- A text without tokens that begin with an address. -/
def IsPlain (text : Text) : Prop :=
  ∀ before url, ¬ HasAddress text before url

/-- There is no token in blanks. -/
theorem isPlain_of_blank {text : Text} (blank : Text.isBlankText text = true) : IsPlain text := by
  rintro before url ⟨token, ⟨nonempty, solid, _, after, rfl, _⟩, _⟩
  obtain ⟨c, rest, rfl⟩ := List.exists_cons_of_ne_nil nonempty
  have isBlank : Text.isBlank c = true := List.all_eq_true.1 blank c (by simp)
  rw [solid c List.mem_cons_self] at isBlank
  cases isBlank

/-- Two texts without addresses have none together, if there is a gap between them. -/
theorem IsPlain.append {front back : Text} (gap : EndsApart front ∨ IsApart back)
    (plain : IsPlain front) (plainBack : IsPlain back) : IsPlain (front ++ back) := by
  intro before url address
  rcases (hasAddress_append gap).1 address with inFront | ⟨later, _, inBack⟩
  · exact plain before url inFront
  · exact plainBack later url inBack

/-- A word is its only token. -/
theorem hasAddress_of_isSolid {word : Text} (solid : IsSolid word) (nonempty : word ≠ [])
    {before url : Text} :
    HasAddress word before url ↔ before = [] ∧ address? word = some url := by
  rw [hasAddress_iff]
  constructor
  · rintro ⟨token, ⟨_, _, begins, after, rfl, apart⟩, found⟩
    obtain ⟨solidBefore, later⟩ := isSolid_append.1 solid
    obtain ⟨_, solidAfter⟩ := isSolid_append.1 later
    have noBefore : before = [] := by
      by_contra some
      exact @not_endsApart [] before some solidBefore begins
    have noAfter : after = [] := by
      by_contra some
      exact @not_isApart after [] some solidAfter (by simpa using apart)
    subst noBefore noAfter
    exact ⟨rfl, by simpa using found⟩
  · rintro ⟨rfl, found⟩
    exact ⟨word, ⟨nonempty, solid, nofun, [], by simp, isApart_nil⟩, found⟩

/-- What is trimmed from the address of a word is plain. -/
theorem isPlain_drop {word url : Text} (solid : IsSolid word) (found : address? word = some url) :
    IsPlain (word.drop url.length) := by
  have isTrimmed := eq_of_address? found
  subst isTrimmed
  intro before url address
  have solidDrop : IsSolid (word.drop (trimAddress word).length) :=
    fun c member => solid c (List.mem_of_mem_drop member)
  by_cases none : word.drop (trimAddress word).length = []
  · rw [none] at address
    exact isPlain_of_blank rfl before url address
  · obtain ⟨_, again⟩ := (hasAddress_of_isSolid solidDrop none).1 address
    refine ne_nil_of_address? again ?_
    rw [eq_of_address? again, trimAddress_drop]

/-! ## Texts that are cut -/

/-- The text of addresses, each with the text before it, and of the text behind the last one. -/
def joined (tail : Text) : List (Text × Text) → Text
  | [] => tail
  | (lead, url) :: later => lead ++ (url ++ joined tail later)

/-- Behind `before`, `url` is one of the addresses, which stand each behind the text before it. -/
def Marks (links : List (Text × Text)) (before url : Text) : Prop :=
  ∃ front lead back, links = front ++ (lead, url) :: back ∧ before = joined lead front

/-- A text is cut at the addresses of its tokens. -/
structure Cuts (pieces : Pieces) (text : Text) : Prop where
  /-- The text is the same. -/
  whole : joined pieces.tail pieces.links = text
  /-- The addresses are exactly those of the tokens. -/
  exact : ∀ before url, Marks pieces.links before url ↔ HasAddress text before url
  /-- The text before an address is plain. -/
  plain : ∀ link ∈ pieces.links, IsPlain link.1
  /-- The text behind the last address is plain. -/
  plainTail : IsPlain pieces.tail

/-- No links stand nowhere. -/
theorem not_marks_nil {before url : Text} : ¬ Marks [] before url := by
  rintro ⟨front, lead, back, whole, _⟩
  simp at whole

/-- The links after the first stand behind it. -/
theorem marks_cons {lead own : Text} {later : List (Text × Text)} {before url : Text} :
    Marks ((lead, own) :: later) before url ↔
      (before = lead ∧ url = own) ∨
        ∃ rest, before = lead ++ (own ++ rest) ∧ Marks later rest url := by
  constructor
  · rintro ⟨front, lead', back, whole, rfl⟩
    cases front with
    | nil =>
      cases whole
      exact .inl ⟨rfl, rfl⟩
    | cons link front =>
      cases whole
      exact .inr ⟨_, rfl, front, lead', back, rfl, rfl⟩
  · rintro (⟨rfl, rfl⟩ | ⟨rest, rfl, front, lead', back, rfl, rfl⟩)
    · exact ⟨[], before, later, rfl, rfl⟩
    · exact ⟨(lead, own) :: front, lead', back, rfl, rfl⟩

/-- A word is cut at its address, if it begins with one. -/
theorem cutFrom_word {word after : Text} (nonempty : word ≠ []) (solid : IsSolid word)
    (apart : IsApart after) (plain : Text) :
    cutFrom plain (word ++ after) =
      match address? word with
      | some url =>
        let pieces := cutFrom (word.drop url.length) after
        { pieces with links := (plain, url) :: pieces.links }
      | none => cutFrom (plain ++ word) after := by
  cases word with
  | nil => exact absurd rfl nonempty
  | cons c rest =>
    obtain ⟨first, others⟩ := List.forall_mem_cons.1 solid
    obtain ⟨taken, dropped⟩ := takeWhile_solid others apart
    rw [List.cons_append, cutFrom, if_neg (by simp [first])]
    dsimp only
    rw [taken, dropped, address?]
    split <;> rfl

/-- A text behind a plain one is cut with it. -/
theorem cuts_cutFrom_append {plain text : Text} (isPlain : IsPlain plain)
    (gap : EndsApart plain ∨ IsApart text) : Cuts (cutFrom plain text) (plain ++ text) := by
  induction text using wordInduction generalizing plain with
  | nil =>
    rw [cutFrom, List.append_nil]
    refine ⟨rfl, fun before url => ?_, List.forall_mem_nil _, isPlain⟩
    exact iff_of_false not_marks_nil (isPlain before url)
  | blank c rest blank ih =>
    have isBlank : IsPlain [c] := isPlain_of_blank (by simp [Text.isBlankText, blank])
    have apart : IsApart [c] := by simpa [IsApart] using blank
    have ends : EndsApart (plain ++ [c]) := by simpa [EndsApart] using blank
    have later := ih (isPlain.append (.inr apart) isBlank) (.inl ends)
    rw [cutFrom, if_pos blank]
    simpa using later
  | word word after nonempty solid apart ih =>
    have ends : EndsApart plain := gap.resolve_right (not_isApart nonempty solid)
    rw [cutFrom_word nonempty solid apart]
    cases found : address? word with
    | none =>
      have isPlainWord : IsPlain word := fun before url address => by
        simpa [found] using (hasAddress_of_isSolid solid nonempty).1 address
      have later := ih (isPlain.append (.inl ends) isPlainWord) (.inr apart)
      simpa using later
    | some url =>
      have left := isPlain_drop solid found
      obtain ⟨whole, exact, plainLeads, plainTail⟩ := ih left (.inr apart)
      have split : url ++ word.drop url.length = word :=
        List.prefix_iff_eq_append.1 (prefix_of_address? found)
      refine ⟨?_, fun before other => ?_, List.forall_mem_cons.2 ⟨isPlain, plainLeads⟩, plainTail⟩
      · simp [joined, whole, ← List.append_assoc url, split]
      · have inRest {rest : Text} : HasAddress (word.drop url.length ++ after) rest other ↔
            ∃ later, rest = word.drop url.length ++ later ∧ HasAddress after later other := by
          rw [hasAddress_append (.inr apart), or_iff_right (left rest other)]
        have inText : HasAddress (plain ++ (word ++ after)) before other ↔
            (before = plain ∧ url = other) ∨
              ∃ later, before = plain ++ (word ++ later) ∧ HasAddress after later other := by
          rw [hasAddress_append (.inl ends), or_iff_right (isPlain before other)]
          simp only [hasAddress_append (.inr apart), hasAddress_of_isSolid solid nonempty, found]
          aesop
        have regroup (rest : Text) : word ++ rest = url ++ (word.drop url.length ++ rest) := by
          rw [← List.append_assoc, split]
        rw [marks_cons, inText]
        simp only [exact, inRest, regroup, @eq_comm _ url]
        aesop

/-- Every text is cut at the addresses of its tokens. -/
theorem cuts_cutFrom (text : Text) : Cuts (cutFrom [] text) text :=
  cuts_cutFrom_append (isPlain_of_blank rfl) (.inl nofun)

end Manuscript.BareLink
