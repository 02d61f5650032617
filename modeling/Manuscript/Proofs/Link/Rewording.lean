import Manuscript.Proofs.Link.Keeping
import Manuscript.Proofs.Shortcode.Replacing
import Manuscript.Prose.LineBreak
import Manuscript.Prose.Shortcode

/-!
# Addresses in texts that are cut and rewritten

Breaking lines takes no address away. Replacing shortcodes takes those of the words that have a
shortcode (`Shortcode.taken`): a shortcode has no blanks, so that it is replaced in its word.
-/

namespace Manuscript

open BareLink (addresses addressesOf sitesAt address? IsSolid IsApart Keeps Site)
open Node (openTexts openTextList substituteTexts substituteTextList)

variable {url : Text}

namespace BareLink

/-- A blank belongs to no word. -/
theorem words_blank {c : Char} (blank : Text.isBlank c = true) (rest : Text) :
    Text.words (c :: rest) = Text.words rest := by
  rw [Text.words, Text.wordsFrom, if_pos blank]
  rfl

/-- The characters up to a blank are a word. -/
theorem words_word {word after : Text} (nonempty : word ≠ []) (solid : IsSolid word)
    (apart : IsApart after) : Text.words (word ++ after) = word :: Text.words after := by
  have read : ∀ (word current : Text), IsSolid word → current ++ word ≠ [] →
      Text.wordsFrom current.reverse (word ++ after) = (current ++ word) :: Text.words after := by
    intro word
    induction word with
    | nil =>
      intro current _ some
      rw [List.append_nil] at some
      cases after with
      | nil => simp [Text.wordsFrom, some, Text.words]
      | cons c rest => simp [Text.wordsFrom, apart c rfl, some, Text.words]
    | cons c rest ih =>
      intro current solid _
      obtain ⟨first, others⟩ := List.forall_mem_cons.1 solid
      have later := ih (current ++ [c]) others (by simp)
      simpa [Text.wordsFrom, first] using later
  exact read word [] solid nonempty

/-- What the texts of a node lose is lost below it, unless it is a link. -/
theorem Keeps.of_children {taken : Text → List Text} {node other : Node}
    (same : other.kind = node.kind) (noText : node.isText = false)
    (below : Keeps url ((openTextList node.children).flatMap taken) node.children other.children) :
    Keeps url (node.openTexts.flatMap taken) [node] [other] := by
  cases isLink : node.isLink with
  | true =>
    rw [Node.openTexts_of_isLink isLink]
    exact of_kind same (.inr isLink)
  | false =>
    rw [Node.openTexts_of_other noText isLink]
    exact inside same below (by simp [noText, isLink])

/-- A pass that replaces texts loses what it loses of each of them. -/
theorem keeps_substituteTextList {replacement : Text → Node → Option (List Node)}
    {taken : Text → List Text}
    (each : ∀ value node nodes, replacement value node = some nodes →
      (addresses value).count url ≤ (addressesOf nodes).count url + (taken value).count url)
    (nodes : List Node) :
    Keeps url ((openTextList nodes).flatMap taken) nodes
      (substituteTextList replacement nodes) := by
  have both : (∀ tree : Node, Keeps url ((openTextList tree.children).flatMap taken) tree.children
      (tree.substituteTexts replacement).children) ∧
      ∀ nodes, Keeps url ((openTextList nodes).flatMap taken) nodes
        (substituteTextList replacement nodes) := by
    refine Node.induction (fun _ _ _ _ below => below) (Keeps.refl []) ?_
    intro node rest own later
    rw [Node.openTextList_cons, List.flatMap_append, Node.substituteTextList.eq_def]
    split
    · rename_i equal
      cases equal
    · rename_i value children data span _ equal
      cases equal
      let node : Node := ⟨.text value, children, data, span⟩
      have replaced : Keeps url (node.openTexts.flatMap taken) [node]
          ((replacement value node).getD [node]) := by
        cases found : replacement value node with
        | none => exact (Keeps.refl _).widen _
        | some nodes =>
          have kind : node.kind = .text value := rfl
          rw [Node.openTexts_of_kind kind, List.flatMap_singleton, Option.getD_some, Keeps,
            addressesOf_text kind]
          exact each value node nodes found
      exact replaced.append later
    · rename_i noText equal
      cases equal
      obtain ⟨kind, children, data, span⟩ := node
      let node : Node := ⟨kind, children, data, span⟩
      have isOther : node.isText = false := by
        cases kind with
        | text value => exact absurd rfl (noText value children data span)
        | _ => rfl
      have substituted : Keeps url (node.openTexts.flatMap taken) [node]
          [node.substituteTexts replacement] := Keeps.of_children rfl isOther own
      exact substituted.append later
  exact both.2 nodes

end BareLink

/-! ## Line breaks -/

namespace LineBreak

/-- The addresses after the first line of a text are those of its other lines. -/
theorem exists_lines (value : Text) :
    ∃ first lines after, Text.splitOnChar '\n' value = first :: lines ∧ value = first ++ after ∧
      IsApart after ∧ lines.flatMap addresses = addresses after := by
  induction value with
  | nil => exact ⟨[], [], [], rfl, rfl, BareLink.isApart_nil, BareLink.addresses_nil.symm⟩
  | cons c rest ih =>
    obtain ⟨first, lines, after, split, rfl, apart, same⟩ := ih
    rw [Text.splitOnChar, split]
    by_cases feed : c = '\n'
    · subst feed
      have blank : Text.isBlank '\n' = true := by decide
      refine ⟨[], first :: lines, '\n' :: (first ++ after), if_pos rfl, rfl, ?_, ?_⟩
      · rintro _ ⟨⟩
        exact blank
      · rw [List.flatMap_cons, same, BareLink.addresses_blank blank,
          BareLink.addresses_append apart]
    · exact ⟨c :: first, lines, after, if_neg feed, rfl, apart, same⟩

/-- The spaces and tabs at the start of a line belong to no address. -/
theorem addresses_dropIndent (line : Text) : addresses (dropIndent line) = addresses line := by
  induction line with
  | nil => rfl
  | cons c rest ih =>
    rw [dropIndent, List.dropWhile_cons]
    split
    · rename_i indent
      have blank : Text.isBlank c = true := by
        rcases Bool.or_eq_true_iff.1 indent with same | same <;> rw [eq_of_beq same] <;> decide
      rw [BareLink.addresses_blank blank]
      exact ih
    · rfl

/-- The nodes for the lines of a text have the addresses of the text. -/
theorem addressesOf_nodes (value : Text) :
    addressesOf (nodes (Text.splitOnChar '\n' value)) = addresses value := by
  obtain ⟨first, lines, after, split, rfl, apart, same⟩ := exists_lines value
  have later : addressesOf (lines.flatMap fun line =>
      { kind := .lineBreak } :: Node.ofText (dropIndent line)) = lines.flatMap addresses := by
    clear split same
    induction lines with
    | nil => rfl
    | cons line rest ih =>
      rw [List.flatMap_cons, List.flatMap_cons, BareLink.addressesOf_append, ih,
        BareLink.addressesOf_cons, BareLink.addressesOf_ofText, addresses_dropIndent]
      rfl
  rw [split, nodes, BareLink.addressesOf_append, BareLink.addressesOf_ofText, later, same,
    BareLink.addresses_append apart]

/-- Breaking lines takes no address away. -/
theorem keeps_breakLines (tree : Node) : Keeps url [] tree.children (breakLines tree).children := by
  obtain ⟨kind, children, data, span⟩ := tree
  have nothing : (openTextList children).flatMap (fun _ => ([] : List Text)) = [] :=
    List.flatMap_eq_nil_iff.2 fun _ _ => rfl
  rw [← nothing]
  refine BareLink.keeps_substituteTextList (fun value _ nodes found => ?_) children
  split at found
  · cases found
    rw [addressesOf_nodes]
    exact Nat.le_add_right _ _
  · cases found

end LineBreak

/-! ## Shortcodes -/

namespace Shortcode

/-- The addresses of the words that have a shortcode. -/
def replaced (value : Text) : List Text :=
  ((Text.words value).filter fun word => replace word ≠ word).filterMap address?

/-- A character of a name is no blank. -/
theorem not_isNameChar_of_isBlank {c : Char} (blank : Text.isBlank c = true) :
    isNameChar c = false := by
  -- The characters of a name are of ASCII, so that it is enough to look at these.
  have ascii : ∀ code < 128, Text.isBlank (Char.ofNat code) = true →
      isNameChar (Char.ofNat code) = false := by decide +kernel
  rw [Bool.eq_false_iff]
  intro isName
  have other := ascii c.toNat (toNat_lt_of_isNameChar isName)
  rw [Char.ofNat_toNat] at other
  rw [other blank] at isName
  cases isName

/-- Where no colon follows the characters of a name, none is read. -/
theorem name?_eq_none {text : Text} (other : (text.dropWhile isNameChar).head? ≠ some ':') :
    name? text = none := by
  unfold name?
  split
  · rename_i colon
    rw [colon] at other
    exact absurd rfl other
  · rfl

/-- A name and its colon are read from the word that they are in. -/
theorem name?_append {after : Text} (apart : IsApart after) (word : Text) :
    name? (word ++ after) = (name? word).map fun found => (found.1, found.2 ++ after) := by
  have whole := List.takeWhile_append_dropWhile (p := isNameChar) (l := word)
  cases dropped : word.dropWhile isNameChar with
  | nil =>
    -- What follows begins with a blank, and so neither with a name nor with a colon.
    have others : after.dropWhile isNameChar = after ∧ after.head? ≠ some ':' := by
      cases after with
      | nil => exact ⟨rfl, (Option.some_ne_none _).symm⟩
      | cons c rest =>
        have blank := apart c rfl
        refine ⟨by simp [not_isNameChar_of_isBlank blank], ?_⟩
        rintro ⟨⟩
        cases blank
    have inWord : (word.dropWhile isNameChar).head? ≠ some ':' := by
      rw [dropped]
      exact (Option.some_ne_none _).symm
    have behind : ((word ++ after).dropWhile isNameChar).head? ≠ some ':' := by
      rw [List.dropWhile_append, dropped, List.isEmpty_nil, if_pos rfl, others.1]
      exact others.2
    rw [name?_eq_none inWord, name?_eq_none behind]
    rfl
  | cons d rest =>
    have short : (word.takeWhile isNameChar).length ≠ word.length := by
      have total := congrArg List.length whole
      rw [dropped, List.length_append, List.length_cons] at total
      omega
    have cut : (word ++ after).takeWhile isNameChar = word.takeWhile isNameChar ∧
        (word ++ after).dropWhile isNameChar = d :: (rest ++ after) := by
      rw [List.takeWhile_append, if_neg short, List.dropWhile_append, dropped]
      exact ⟨rfl, rfl⟩
    by_cases colon : d = ':'
    · subst colon
      rw [name?, name?, cut.1, cut.2, dropped]
      cases word.takeWhile isNameChar <;> rfl
    · have other : some d ≠ some ':' := fun same => colon (Option.some.inj same)
      have inWord : (word.dropWhile isNameChar).head? ≠ some ':' := by rwa [dropped]
      have behind : ((word ++ after).dropWhile isNameChar).head? ≠ some ':' := by rwa [cut.2]
      rw [name?_eq_none inWord, name?_eq_none behind]
      rfl

/-- Shortcodes are replaced in every word by itself. -/
theorem replaceFrom_append {after : Text} (apart : IsApart after) {word : Text} {skip : Nat}
    (within : skip ≤ word.length) :
    replaceFrom skip (word ++ after) = replaceFrom skip word ++ replace after := by
  induction word generalizing skip with
  | nil =>
    cases Nat.le_zero.1 within
    rfl
  | cons c rest ih =>
    rw [List.cons_append, replaceFrom, replaceFrom]
    split
    · exact ih (by rw [List.length_cons] at within; omega)
    · have read : (if c = ':' then name? (rest ++ after) else none) =
          (if c = ':' then name? rest else none).map fun found => (found.1, found.2 ++ after) := by
        split
        · exact name?_append apart rest
        · rfl
      rw [read]
      cases (if c = ':' then name? rest else none) with
      | none =>
        rw [Option.map_none]
        dsimp only
        rw [ih (Nat.zero_le _), List.cons_append]
      | some found =>
        rw [Option.map_some]
        dsimp only
        have same : (rest ++ after).length - (found.2 ++ after).length =
            rest.length - found.2.length := by
          rw [List.length_append, List.length_append, Nat.add_sub_add_right]
        rw [same, ih (Nat.sub_le _ _), List.append_assoc]

/-- No shortcode begins with a blank. -/
theorem replace_blank {c : Char} (blank : Text.isBlank c = true) (rest : Text) :
    replace (c :: rest) = c :: replace rest := by
  have colon : c ≠ ':' := by
    rintro rfl
    cases blank
  rw [replace, replaceFrom, if_neg (Nat.lt_irrefl 0), if_neg colon]
  rfl

/-- Replacing the shortcodes of a text takes the addresses of the words that have one. -/
theorem count_addresses_replace (value : Text) :
    (addresses value).count url ≤
      (addresses (replace value)).count url + (replaced value).count url := by
  induction value using BareLink.wordInduction with
  | nil => simp
  | blank c rest blank ih =>
    rw [replace_blank blank, BareLink.addresses_blank blank, BareLink.addresses_blank blank,
      replaced, BareLink.words_blank blank]
    exact ih
  | word word after nonempty solid apart ih =>
    have apart' : IsApart (replace after) := by
      cases after with
      | nil => exact apart
      | cons c rest =>
        rw [replace_blank (apart c rfl)]
        exact apart
    have words : replaced (word ++ after) =
        (if replace word ≠ word then (address? word).toList else []) ++ replaced after := by
      rw [replaced, BareLink.words_word nonempty solid apart]
      by_cases plain : replace word = word
      · simp [plain, replaced]
      · cases found : address? word <;> simp [plain, found, replaced]
    rw [words, replace, replaceFrom_append apart (Nat.zero_le _), BareLink.addresses_append apart',
      BareLink.addresses_word nonempty solid apart, List.count_append, List.count_append,
      List.count_append]
    by_cases plain : replace word = word
    · have single := BareLink.addresses_word nonempty solid BareLink.isApart_nil
      rw [List.append_nil, BareLink.addresses_nil, List.append_nil] at single
      rw [if_neg (not_not_intro plain), ← replace, plain, single, List.count_nil]
      omega
    · rw [if_pos plain]
      omega

/-- The addresses of the words of a document that have a shortcode. -/
def taken (tree : Node) : List Text :=
  (openTextList tree.children).flatMap replaced

/-- Replacing shortcodes takes the addresses of the words that have one. -/
theorem keeps_replaceTexts (tree : Node) :
    Keeps url (taken tree) tree.children
      (replaceTexts tree).children := by
  obtain ⟨kind, children, data, span⟩ := tree
  refine BareLink.keeps_substituteTextList (fun value _ nodes found => ?_) children
  dsimp only at found
  split at found
  · cases found
  · cases found
    rw [BareLink.addressesOf_text rfl]
    exact count_addresses_replace value

end Shortcode

end Manuscript
