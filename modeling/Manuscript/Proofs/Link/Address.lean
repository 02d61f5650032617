import Manuscript.Prose.BareLink

/-!
# The addresses of a text

A text is a sequence of words with blanks between them, and an address is what is left of a word
when the punctuation at its end is trimmed. So the addresses of a text that is cut in two are those
of the parts, but for one that the cut goes through (`sites_front`, `sites_back`), and rewriting a
part without blanks changes the addresses of one word at most (`count_addresses_rewrite`).
-/

namespace Manuscript.BareLink

/-! ## Trimming -/

/-- Closing parentheses less opening ones. -/
def excess (text : Text) : Int :=
  text.count ')' - text.count '('

/-- What trimming leaves of a word that is given last character first. -/
def trimmed (reversed : Text) : Text :=
  trimReversed (excess reversed) reversed

/-- A word is trimmed from its end. -/
theorem trimAddress_eq (word : Text) : trimAddress word = (trimmed word.reverse).reverse := by
  rw [trimAddress, trimmed, excess, List.count_reverse, List.count_reverse]

/-- A character is trimmed if it is trailing punctuation or a parenthesis too many. -/
theorem trimmed_cons (c : Char) (rest : Text) :
    trimmed (c :: rest) =
      if isTrailing c || (c = ')' && 0 < excess (c :: rest)) then trimmed rest else c :: rest := by
  rw [trimmed, trimReversed]
  by_cases trailing : isTrailing c = true
  · have closes : c ≠ ')' := by rintro rfl; cases trailing
    have opens : c ≠ '(' := by rintro rfl; cases trailing
    have same : excess (c :: rest) = excess rest := by
      rw [excess, List.count_cons_of_ne closes, List.count_cons_of_ne opens, excess]
    simp [trailing, same, trimmed]
  · by_cases closes : c = ')' ∧ 0 < excess (c :: rest)
    · obtain ⟨rfl, positive⟩ := closes
      have less : excess (')' :: rest) - 1 = excess rest := by
        rw [excess, List.count_cons_self, List.count_cons_of_ne (by decide), excess]
        omega
      simp [trailing, positive, less, trimmed]
    · simp [trailing, closes]

/-- Trimming a reversed word only takes characters from its start. -/
theorem trimmed_suffix (reversed : Text) : trimmed reversed <:+ reversed := by
  induction reversed with
  | nil => exact List.suffix_refl _
  | cons c rest ih =>
    rw [trimmed_cons]
    split
    · exact ih.trans (List.suffix_cons c rest)
    · exact List.suffix_refl _

/-- Whatever stands before what is left, the same is trimmed of it. -/
theorem trimmed_of_suffix {reversed part : Text} (suffix : part <:+ reversed)
    (within : (trimmed reversed).length ≤ part.length) : trimmed part = trimmed reversed := by
  induction reversed with
  | nil => rw [List.suffix_nil.1 suffix]
  | cons c rest ih =>
    rcases List.suffix_cons_iff.1 suffix with rfl | inside
    · rfl
    · rw [trimmed_cons] at within ⊢
      split at within
      · rename_i taken
        rw [if_pos taken]
        exact ih inside within
      · have := inside.length_le
        simp only [List.length_cons] at within
        omega

/-- Nothing is trimmed from a character on that is neither punctuation nor a parenthesis. -/
theorem suffix_trimmed {c : Char} (plain : isTrailing c = false) (open' : c ≠ ')')
    (after before : Text) : c :: before <:+ trimmed (after ++ c :: before) := by
  induction after with
  | nil => simp [trimmed_cons, plain, open']
  | cons d rest ih =>
    rw [List.cons_append, trimmed_cons]
    split
    · exact ih
    · exact ⟨d :: rest, rfl⟩

/-- A word begins with what is left of it. -/
theorem trimAddress_begins (word : Text) : trimAddress word <+: word := by
  rw [trimAddress_eq, ← List.reverse_suffix, List.reverse_reverse]
  exact trimmed_suffix word.reverse

/-- What is left of a word is left of every part of the word that holds it. -/
theorem trimAddress_of_part {word part : Text} (pre : part <+: word)
    (within : (trimAddress word).length ≤ part.length) : trimAddress part = trimAddress word := by
  have size : part.reverse.length = part.length := List.length_reverse
  rw [trimAddress_eq, List.length_reverse, ← size] at within
  rw [trimAddress_eq, trimAddress_eq, trimmed_of_suffix (List.reverse_suffix.2 pre) within]

/-- What is left of a word holds every character that is neither punctuation nor a parenthesis. -/
theorem prefix_trimAddress {c : Char} (plain : isTrailing c = false) (open' : c ≠ ')')
    (before after : Text) : before ++ [c] <+: trimAddress (before ++ [c] ++ after) := by
  have kept := suffix_trimmed plain open' after.reverse before.reverse
  rw [trimAddress_eq, ← List.reverse_suffix, List.reverse_reverse]
  simpa using kept

/-! ## Words -/

/-- A text without blanks. -/
def IsSolid (text : Text) : Prop :=
  ∀ c ∈ text, Text.isBlank c = false

/-- A text that no word goes into: it begins with a blank, if it is not empty. -/
def IsApart (text : Text) : Prop :=
  ∀ c ∈ text.head?, Text.isBlank c = true

/-- A text has no blanks if neither part of it has. -/
theorem isSolid_append {front back : Text} :
    IsSolid (front ++ back) ↔ IsSolid front ∧ IsSolid back :=
  List.forall_mem_append

/-- A word ends where the text does. -/
theorem isApart_nil : IsApart [] := by
  rintro c ⟨⟩

/-- Whether a word ends is told by the first character after it. -/
theorem isApart_append {front : Text} (apart : IsApart front) (nonempty : front ≠ [])
    (back : Text) : IsApart (front ++ back) := by
  cases front with
  | nil => exact absurd rfl nonempty
  | cons c rest => exact apart

/-- What comes before the first blank, and what comes from there on. -/
theorem exists_first_word (text : Text) :
    ∃ word after, text = word ++ after ∧ IsSolid word ∧ IsApart after := by
  refine ⟨text.takeWhile (!Text.isBlank ·), text.dropWhile (!Text.isBlank ·),
    List.takeWhile_append_dropWhile.symm, ?_, ?_⟩
  · intro c member
    simpa using List.all_eq_true.1 List.all_takeWhile c member
  · intro c first
    have dropped := List.head?_dropWhile_not (!Text.isBlank ·) text
    rw [Option.mem_def.1 first] at dropped
    simpa using dropped

/-- A word is read up to where it ends. -/
theorem takeWhile_solid {word after : Text} (solid : IsSolid word) (apart : IsApart after) :
    (word ++ after).takeWhile (!Text.isBlank ·) = word ∧
      (word ++ after).dropWhile (!Text.isBlank ·) = after := by
  induction word with
  | nil =>
    cases after with
    | nil => exact ⟨rfl, rfl⟩
    | cons c rest => simp [apart c rfl]
  | cons c rest ih =>
    obtain ⟨first, others⟩ := List.forall_mem_cons.1 solid
    obtain ⟨taken, dropped⟩ := ih others
    simp [first, taken, dropped]

/-- A text is empty, or begins with a blank, or with a word. -/
theorem wordInduction {P : Text → Prop} (nil : P [])
    (blank : ∀ c rest, Text.isBlank c = true → P rest → P (c :: rest))
    (word : ∀ word after, word ≠ [] → IsSolid word → IsApart after → P after → P (word ++ after))
    (text : Text) : P text := by
  induction size : text.length using Nat.strongRecOn generalizing text with
  | _ n ih =>
    cases text with
    | nil => exact nil
    | cons c rest =>
      subst size
      by_cases isBlank : Text.isBlank c = true
      · exact blank c rest isBlank (ih _ (by simp) rest rfl)
      · obtain ⟨front, after, rfl, solid, apart⟩ := exists_first_word rest
        have solid' : IsSolid (c :: front) :=
          List.forall_mem_cons.2 ⟨Bool.eq_false_iff.2 isBlank, solid⟩
        refine word (c :: front) after (List.cons_ne_nil _ _) solid' apart (ih _ ?_ after rfl)
        simp only [List.length_cons, List.length_append]
        omega

/-- The address that a word begins with. -/
def address? (word : Text) : Option Text :=
  if isAddress (trimAddress word) then some (trimAddress word) else none

/-- An address of a text, and the number of characters before it. -/
structure Site where
  start : Nat
  url : Text

/-- The number of characters up to the end of an address. -/
def Site.stop (site : Site) : Nat :=
  site.start + site.url.length

/-- The addresses of a text that begins after `position` characters. -/
def sitesAt (position : Nat) (text : Text) : List Site :=
  match text with
  | [] => []
  | c :: rest =>
    if Text.isBlank c then sitesAt (position + 1) rest
    else
      let word := c :: rest.takeWhile (!Text.isBlank ·)
      ((address? word).toList.map fun url => ⟨position, url⟩) ++
        sitesAt (position + word.length) (rest.dropWhile (!Text.isBlank ·))
termination_by text.length
decreasing_by
  all_goals
    have := (List.dropWhile_sublist (!Text.isBlank ·) (l := rest)).length_le
    simp only [List.length_cons]; omega

/-- The addresses of a text. -/
def addresses (text : Text) : List Text :=
  (sitesAt 0 text).map Site.url

/-- There is no address in an empty text. -/
@[simp] theorem sitesAt_nil (position : Nat) : sitesAt position [] = [] := by
  rw [sitesAt]

/-- A blank is passed. -/
theorem sitesAt_blank {c : Char} (blank : Text.isBlank c = true) (position : Nat) (rest : Text) :
    sitesAt position (c :: rest) = sitesAt (position + 1) rest := by
  rw [sitesAt, if_pos blank]

/-- A word is an address or none, and the search goes on behind it. -/
theorem sitesAt_word {word after : Text} (nonempty : word ≠ []) (solid : IsSolid word)
    (apart : IsApart after) (position : Nat) :
    sitesAt position (word ++ after) = ((address? word).toList.map fun url => ⟨position, url⟩) ++
      sitesAt (position + word.length) after := by
  cases word with
  | nil => exact absurd rfl nonempty
  | cons c rest =>
    obtain ⟨first, others⟩ := List.forall_mem_cons.1 solid
    obtain ⟨taken, dropped⟩ := takeWhile_solid others apart
    rw [List.cons_append, sitesAt, if_neg (by simp [first])]
    dsimp only
    rw [taken, dropped]

/-- The addresses do not depend on what comes before the text. -/
theorem map_url_sitesAt (position : Nat) (text : Text) :
    (sitesAt position text).map Site.url = addresses text := by
  have any : ∀ position other : Nat,
      (sitesAt position text).map Site.url = (sitesAt other text).map Site.url := by
    induction text using wordInduction with
    | nil => simp
    | blank c rest blank ih =>
      intro position other
      rw [sitesAt_blank blank, sitesAt_blank blank, ih]
    | word word after nonempty solid apart ih =>
      intro position other
      rw [sitesAt_word nonempty solid apart, sitesAt_word nonempty solid apart, List.map_append,
        List.map_append, ih _ (other + word.length), List.map_map, List.map_map]
      rfl
  exact any position 0

/-- An empty text has no addresses. -/
@[simp] theorem addresses_nil : addresses [] = [] := by
  simp [addresses]

/-- A blank before a text adds no address. -/
theorem addresses_blank {c : Char} (blank : Text.isBlank c = true) (rest : Text) :
    addresses (c :: rest) = addresses rest := by
  rw [addresses, sitesAt_blank blank, map_url_sitesAt]

/-- A blank text before another has no addresses. -/
theorem addresses_blanks {blanks : Text} (blank : Text.isBlankText blanks = true) (rest : Text) :
    addresses (blanks ++ rest) = addresses rest := by
  induction blanks with
  | nil => rfl
  | cons c more ih =>
    rw [Text.isBlankText, List.all_cons, Bool.and_eq_true] at blank
    rw [List.cons_append, addresses_blank blank.1]
    exact ih blank.2

/-- A word before a text adds its address, if it has one. -/
theorem addresses_word {word after : Text} (nonempty : word ≠ []) (solid : IsSolid word)
    (apart : IsApart after) :
    addresses (word ++ after) = (address? word).toList ++ addresses after := by
  rw [addresses, sitesAt_word nonempty solid apart, List.map_append, map_url_sitesAt, List.map_map]
  congr 1
  exact List.map_id _

/-- A text has the addresses of what comes before a blank and of what comes after it. -/
theorem addresses_append {back : Text} (apart : IsApart back) (front : Text) :
    addresses (front ++ back) = addresses front ++ addresses back := by
  induction front using wordInduction with
  | nil => simp
  | blank c rest blank ih =>
    rw [List.cons_append, addresses_blank blank, addresses_blank blank, ih]
  | word word after nonempty solid apart' ih =>
    have together : IsApart (after ++ back) := by
      by_cases empty : after = []
      · rwa [empty]
      · exact isApart_append apart' empty back
    rw [List.append_assoc, addresses_word nonempty solid together,
      addresses_word nonempty solid apart', ih, List.append_assoc]

/-- The links that a text is cut into are those to its addresses. -/
theorem links_cutFrom (plain text : Text) :
    (cutFrom plain text).links.map Prod.snd = addresses text := by
  induction text using wordInduction generalizing plain with
  | nil =>
    rw [cutFrom]
    simp
  | blank c rest blank ih => rw [cutFrom, if_pos blank, ih, addresses_blank blank]
  | word word after nonempty solid apart ih =>
    rw [addresses_word nonempty solid apart]
    cases word with
    | nil => exact absurd rfl nonempty
    | cons c rest =>
      obtain ⟨first, others⟩ := List.forall_mem_cons.1 solid
      obtain ⟨taken, dropped⟩ := takeWhile_solid others apart
      rw [List.cons_append, cutFrom, if_neg (by simp [first])]
      dsimp only
      rw [taken, dropped, address?]
      split
      · rw [List.map_cons, ih]
        rfl
      · exact ih _

/-! ## Cutting a text in two -/

/-- An address is not empty. -/
theorem ne_nil_of_address? {word url : Text} (found : address? word = some url) : url ≠ [] := by
  rw [address?] at found
  split at found
  · rename_i isAddress
    cases found
    intro empty
    rw [empty] at isAddress
    cases isAddress
  · cases found

/-- The address of a word is the word without the signs at its end. -/
theorem eq_of_address? {word url : Text} (found : address? word = some url) :
    url = trimAddress word := by
  rw [address?] at found
  split at found
  · cases found
    rfl
  · cases found

/-- A word begins with its address. -/
theorem prefix_of_address? {word url : Text} (found : address? word = some url) : url <+: word := by
  rw [eq_of_address? found]
  exact trimAddress_begins word

/-- An address of a text lies in it, and has a character. -/
theorem site_bounds {position : Nat} {text : Text} {site : Site}
    (member : site ∈ sitesAt position text) :
    position ≤ site.start ∧ site.start < site.stop ∧ site.stop ≤ position + text.length := by
  induction text using wordInduction generalizing position with
  | nil => simp at member
  | blank c rest blank ih =>
    rw [sitesAt_blank blank] at member
    have := ih member
    simp only [List.length_cons]
    omega
  | word word after nonempty solid apart ih =>
    rw [sitesAt_word nonempty solid apart, List.mem_append] at member
    rw [List.length_append]
    rcases member with own | later
    · obtain ⟨url, found, rfl⟩ := List.mem_map.1 own
      have found := Option.mem_toList.1 found
      have := List.length_pos_iff.2 (ne_nil_of_address? found)
      have := (prefix_of_address? found).length_le
      simp only [Site.stop]
      omega
    · have := ih later
      omega

/-- A word is an address in the part of it that holds the address. -/
theorem address?_of_part {word part url : Text} (found : address? word = some url)
    (pre : part <+: word) (within : url.length ≤ part.length) : address? part = some url := by
  rw [address?] at found
  split at found
  · rename_i isAddress
    cases found
    rw [address?, trimAddress_of_part pre within, if_pos isAddress]
  · cases found

/-- An address that ends before a text is cut is one of the part before the cut. -/
theorem sites_front (position : Nat) (front back : Text) :
    ((sitesAt position (front ++ back)).filter fun site =>
      site.stop ≤ position + front.length).Sublist (sitesAt position front) := by
  induction front using wordInduction generalizing position with
  | nil =>
    rw [List.filter_eq_nil_iff.2]
    · exact List.nil_sublist _
    · intro site member
      have := site_bounds member
      simp only [List.length_nil, decide_eq_true_eq]
      omega
  | blank c rest blank ih =>
    have length : position + (c :: rest).length = position + 1 + rest.length := by
      simp only [List.length_cons]
      omega
    rw [List.cons_append, sitesAt_blank blank, sitesAt_blank blank, length]
    exact ih (position + 1)
  | word word after nonempty solid apart ih =>
    by_cases last : after = []
    · subst last
      obtain ⟨more, rest, rfl, solid', apart'⟩ := exists_first_word back
      rw [List.append_nil, ← List.append_assoc, sitesAt_word (by simp [nonempty])
        (isSolid_append.2 ⟨solid, solid'⟩) apart', List.filter_append]
      have later : (sitesAt (position + (word ++ more).length) rest).filter (fun site =>
          site.stop ≤ position + word.length) = [] := by
        refine List.filter_eq_nil_iff.2 fun site member => ?_
        have := site_bounds member
        simp only [List.length_append, decide_eq_true_eq] at this ⊢
        omega
      rw [later, List.append_nil, ← List.append_nil word, sitesAt_word nonempty solid apart,
        sitesAt_nil, List.append_nil, List.append_nil]
      cases found : address? (word ++ more) with
      | none => exact List.nil_sublist _
      | some url =>
        by_cases within : url.length ≤ word.length
        · rw [address?_of_part found (List.prefix_append _ _) within]
          exact List.filter_sublist
        · have outside : ¬(Site.mk position url).stop ≤ position + word.length := by
            simp only [Site.stop]
            omega
          simp [outside]
    · have length : position + (word ++ after).length = position + word.length + after.length := by
        simp only [List.length_append]
        omega
      rw [List.append_assoc, sitesAt_word nonempty solid (isApart_append apart last back),
        sitesAt_word nonempty solid apart, List.filter_append, length]
      exact List.filter_sublist.append (ih (position + word.length))

/-- An address that begins after a text is cut is one of the part after the cut. -/
theorem sites_back (position : Nat) (front back : Text) :
    ((sitesAt position (front ++ back)).filter fun site =>
      position + front.length ≤ site.start).Sublist (sitesAt (position + front.length) back) := by
  induction front using wordInduction generalizing position with
  | nil => exact List.filter_sublist
  | blank c rest blank ih =>
    have length : position + (c :: rest).length = position + 1 + rest.length := by
      simp only [List.length_cons]
      omega
    rw [List.cons_append, sitesAt_blank blank, length]
    exact ih (position + 1)
  | word word after nonempty solid apart ih =>
    have positive := List.length_pos_iff.2 nonempty
    have own : ∀ word' : Text, (((address? word').toList.map fun url =>
        (⟨position, url⟩ : Site)).filter fun site =>
          position + (word ++ after).length ≤ site.start) = [] := by
      intro word'
      refine List.filter_eq_nil_iff.2 fun site member => ?_
      obtain ⟨url, _, rfl⟩ := List.mem_map.1 member
      simp only [List.length_append, decide_eq_true_eq]
      omega
    by_cases last : after = []
    · subst last
      obtain ⟨more, rest, rfl, solid', apart'⟩ := exists_first_word back
      rw [List.append_nil] at own ⊢
      rw [← List.append_assoc, sitesAt_word (by simp [nonempty])
        (isSolid_append.2 ⟨solid, solid'⟩) apart', List.filter_append, own, List.nil_append]
      refine List.filter_sublist.trans ?_
      by_cases none : more = []
      · subst none
        simp
      · rw [sitesAt_word none solid' apart', List.length_append, Nat.add_assoc]
        exact List.sublist_append_right _ _
    · have length : position + (word ++ after).length = position + word.length + after.length := by
        simp only [List.length_append]
        omega
      rw [List.append_assoc, sitesAt_word nonempty solid (isApart_append apart last back),
        List.filter_append, own, List.nil_append, length]
      exact ih (position + word.length)

/-- The addresses that end at a position or before it are in the text up to there. -/
theorem sites_take (position stop : Nat) (text : Text) :
    ((sitesAt position text).filter fun site => site.stop ≤ stop).Sublist
      (sitesAt position (text.take (stop - position))) := by
  by_cases within : position + (text.take (stop - position)).length = stop
  · have front := sites_front position (text.take (stop - position)) (text.drop (stop - position))
    rwa [List.take_append_drop, within] at front
  · by_cases whole : text.length ≤ stop - position
    · rw [List.take_of_length_le whole]
      exact List.filter_sublist
    · have none : (sitesAt position text).filter (fun site => site.stop ≤ stop) = [] := by
        refine List.filter_eq_nil_iff.2 fun site member => ?_
        have := site_bounds member
        rw [List.length_take] at within
        simp only [decide_eq_true_eq]
        omega
      rw [none]
      exact List.nil_sublist _

/-- The addresses that begin at a position or after it are in the text from there on. -/
theorem sites_drop {position start : Nat} (behind : position ≤ start) (text : Text) :
    ((sitesAt position text).filter fun site => start ≤ site.start).Sublist
      (sitesAt start (text.drop (start - position))) := by
  by_cases within : position + (text.take (start - position)).length = start
  · have back := sites_back position (text.take (start - position)) (text.drop (start - position))
    rwa [List.take_append_drop, within] at back
  · have none : (sitesAt position text).filter (fun site => start ≤ site.start) = [] := by
      refine List.filter_eq_nil_iff.2 fun site member => ?_
      have := site_bounds member
      rw [List.length_take] at within
      simp only [decide_eq_true_eq]
      omega
    rw [none]
    exact List.nil_sublist _

/-- How often an address is at places of some kind, when these are of two kinds. -/
theorem count_filter_le (url : Text) (sites : List Site) (either one other : Site → Bool)
    (cover : ∀ site ∈ sites, either site = true → one site = true ∨ other site = true) :
    ((sites.filter either).map Site.url).count url ≤
      ((sites.filter one).map Site.url).count url +
        ((sites.filter other).map Site.url).count url := by
  induction sites with
  | nil => exact Nat.zero_le _
  | cons site rest ih =>
    have later := ih fun site member => cover site (List.mem_cons_of_mem _ member)
    have here := cover site List.mem_cons_self
    simp only [List.filter_cons]
    cases own : either site <;> cases first : one site <;> cases second : other site <;>
      simp [own, first, second, List.count_cons] at here ⊢ <;> omega

/-- Of the addresses of a text, those are lost with the back of it that do not end before. -/
theorem count_addresses_take (url text : Text) (size : Nat) :
    (addresses text).count url ≤ (addresses (text.take size)).count url +
      (((sitesAt 0 text).filter fun site => size < site.stop).map Site.url).count url := by
  have split := count_filter_le url (sitesAt 0 text) (fun _ => true) (fun site => site.stop ≤ size)
    (fun site => size < site.stop) fun site _ _ => by
      rw [decide_eq_true_eq, decide_eq_true_eq]
      omega
  have front := ((sites_take 0 size text).map Site.url).count_le url
  rw [List.filter_eq_self.2 fun _ _ => rfl] at split
  rw [map_url_sitesAt] at front
  exact Nat.le_trans split (Nat.add_le_add_right front _)

/-- Of the addresses of a text, those are lost with the front of it that begin there. -/
theorem count_addresses_drop (url text : Text) (size : Nat) :
    (addresses text).count url ≤ (addresses (text.drop size)).count url +
      (((sitesAt 0 text).filter fun site => site.start < size).map Site.url).count url := by
  have split := count_filter_le url (sitesAt 0 text) (fun _ => true) (fun site => size ≤ site.start)
    (fun site => site.start < size) fun site _ _ => by
      rw [decide_eq_true_eq, decide_eq_true_eq]
      omega
  have back := ((sites_drop (Nat.zero_le size) text).map Site.url).count_le url
  rw [List.filter_eq_self.2 fun _ _ => rfl] at split
  rw [map_url_sitesAt] at back
  exact Nat.le_trans split (Nat.add_le_add_right back _)

/-! ## Rewriting a part of a text -/

/-- When a part without blanks is rewritten, an address stays unless the part is in its word. -/
theorem count_addresses_rewrite {part other : Text} (nonempty : part ≠ []) (solid : IsSolid part)
    {front back url : Text}
    (outside : ∀ before after, before <:+ front → after <+: back →
      address? (before ++ (part ++ after)) ≠ some url) :
    (addresses (front ++ (part ++ back))).count url ≤
      (addresses (front ++ (other ++ back))).count url := by
  induction front using wordInduction with
  | nil =>
    obtain ⟨more, rest, rfl, solidMore, apart⟩ := exists_first_word back
    have none := outside [] more List.suffix_rfl (List.prefix_append _ _)
    rw [List.nil_append, List.nil_append, ← List.append_assoc, ← List.append_assoc,
      addresses_word (by simp [nonempty]) (isSolid_append.2 ⟨solid, solidMore⟩) apart,
      List.count_append]
    have own : ((address? (part ++ more)).toList).count url = 0 := by
      refine List.count_eq_zero.2 fun member => none ?_
      rw [List.nil_append]
      exact Option.mem_toList.1 member
    rw [own, Nat.zero_add, addresses_append apart, List.count_append]
    exact Nat.le_add_left _ _
  | blank c rest blank ih =>
    rw [List.cons_append, List.cons_append, addresses_blank blank, addresses_blank blank]
    exact ih fun before after suffix pre =>
      outside before after (suffix.trans (List.suffix_cons c rest)) pre
  | word word after nonempty' solidWord apart ih =>
    by_cases last : after = []
    · subst last
      obtain ⟨more, rest, rfl, solidMore, apartRest⟩ := exists_first_word back
      rw [List.append_nil] at outside ⊢
      have none := outside word more List.suffix_rfl (List.prefix_append _ _)
      have regroup : ∀ part, word ++ (part ++ (more ++ rest)) = word ++ (part ++ more) ++ rest :=
        fun part => by simp
      rw [regroup, regroup, addresses_word (by simp [nonempty]) (isSolid_append.2 ⟨solidWord,
        isSolid_append.2 ⟨solid, solidMore⟩⟩) apartRest, List.count_append]
      have own : ((address? (word ++ (part ++ more))).toList).count url = 0 :=
        List.count_eq_zero.2 fun member => none (Option.mem_toList.1 member)
      rw [own, Nat.zero_add, addresses_append apartRest, List.count_append]
      exact Nat.le_add_left _ _
    · rw [List.append_assoc, List.append_assoc, addresses_word nonempty' solidWord
        (isApart_append apart last _), addresses_word nonempty' solidWord
        (isApart_append apart last _), List.count_append, List.count_append]
      have later := ih fun before after' suffix pre =>
        outside before after' (suffix.trans (List.suffix_append word after)) pre
      omega

end Manuscript.BareLink
