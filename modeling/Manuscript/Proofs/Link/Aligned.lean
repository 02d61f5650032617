import Manuscript.Proofs.Alignment.Tag
import Manuscript.Proofs.Alignment.Visit
import Manuscript.Proofs.Link.Keeping

/-!
# Addresses among aligned blocks

The pass over aligned blocks takes backslashes and tags from texts. An address without a tag behind
a backslash and without a closing tag at its end (`Untagged`) stays: an opening tag is at the start
of a word, and no such word is an address.
-/

namespace Manuscript.Alignment

open BareLink (addresses addressesOf address? IsSolid Keeps)

/-- No escaped tag is in an address, and no closing tag at its end. -/
def Untagged (url : Text) : Prop :=
  ∀ marker : Marker, ¬ '\\' :: marker.tag <:+: url ∧ (marker.closing = true → ¬ marker.tag <:+ url)

variable {url : Text} {node other : Node} {nodes others : List Node}

/-! ## Tags in a text -/

/-- A tag has no blanks in it. -/
theorem isSolid_tag (marker : Marker) : IsSolid marker.tag := by
  have all : marker.tag.all (!Text.isBlank ·) = true := by
    obtain ⟨alignment, layout, closing⟩ := marker
    cases alignment <;> cases layout <;> cases closing <;> decide
  intro c member
  simpa using List.all_eq_true.1 all c member

/-- A word that a tag is in has everything up to the end of the tag in its address. -/
theorem prefix_of_tag {before after : Text} (marker : Marker)
    (found : address? (before ++ (marker.tag ++ after)) = some url) :
    before ++ marker.tag <+: url := by
  rw [BareLink.eq_of_address? found, (tag_closes marker).1]
  have kept := BareLink.prefix_trimAddress (c := ']') (by decide) (by decide)
    (before ++ marker.tag.dropLast) after
  simpa using kept

/-- An address stays when the backslash before a tag goes, unless it is in the address. -/
theorem count_addresses_unescape (untagged : Untagged url) (marker : Marker) (front back : Text) :
    (addresses (front ++ '\\' :: (marker.tag ++ back))).count url ≤
      (addresses (front ++ (marker.tag ++ back))).count url := by
  have solid : IsSolid ('\\' :: marker.tag) :=
    List.forall_mem_cons.2 ⟨by decide, isSolid_tag marker⟩
  refine BareLink.count_addresses_rewrite (List.cons_ne_nil '\\' marker.tag) solid
    fun before after _ _ found => (untagged marker).1 ?_
  have regroup : before ++ ('\\' :: marker.tag ++ after) =
      (before ++ ['\\']) ++ (marker.tag ++ after) := by simp
  rw [regroup] at found
  have kept := prefix_of_tag marker found
  rw [List.append_assoc] at kept
  exact (List.suffix_append before _).isInfix.trans kept.isInfix

/-- A tag is not empty. -/
theorem tag_ne_nil (marker : Marker) : marker.tag ≠ [] := by
  obtain ⟨tail, tag, _⟩ := tag_brackets marker
  rw [tag]
  exact List.cons_ne_nil _ _

/-- No word that begins with a tag is an address. -/
theorem address?_tag (marker : Marker) (rest : Text) : address? (marker.tag ++ rest) = none := by
  obtain ⟨tail, tag, _⟩ := tag_brackets marker
  have kept := BareLink.prefix_trimAddress (c := '[') (by decide) (by decide) [] (tail ++ rest)
  obtain ⟨more, whole⟩ := kept
  have noScheme : BareLink.isAddress ('[' :: more) = false := rfl
  have word : marker.tag ++ rest = [] ++ ['['] ++ (tail ++ rest) := by rw [tag]; simp
  rw [word, address?, ← whole]
  exact if_neg (by rw [List.nil_append, List.singleton_append, noScheme]; exact Bool.false_ne_true)

/-- An address stays when a tag at the start of the text goes. -/
theorem count_addresses_opening (marker : Marker) (rest : Text) :
    (addresses (marker.tag ++ rest)).count url ≤ (addresses rest).count url := by
  have rewritten : (addresses ([] ++ (marker.tag ++ rest))).count url ≤
      (addresses ([] ++ ([] ++ rest))).count url := by
    refine BareLink.count_addresses_rewrite (tag_ne_nil marker) (isSolid_tag marker)
      fun before after first _ => ?_
    rw [List.suffix_nil.1 first, List.nil_append, address?_tag]
    exact (Option.some_ne_none url).symm
  exact rewritten

/-- An address stays when a closing tag at the end of the text goes, unless it ends the address. -/
theorem count_addresses_closing (untagged : Untagged url) {marker : Marker}
    (closes : marker.closing = true) (rest : Text) :
    (addresses (rest ++ marker.tag)).count url ≤ (addresses rest).count url := by
  have rewritten : (addresses (rest ++ (marker.tag ++ []))).count url ≤
      (addresses (rest ++ ([] ++ []))).count url := by
    refine BareLink.count_addresses_rewrite (tag_ne_nil marker) (isSolid_tag marker)
      fun before after _ last found => (untagged marker).2 closes ?_
    rw [List.prefix_nil.1 last] at found
    have holds := prefix_of_tag marker found
    have within := BareLink.prefix_of_address? found
    rw [List.append_nil] at within
    rw [← holds.eq_of_length_le within.length_le]
    exact List.suffix_append before marker.tag
  simpa using rewritten

/-! ## Settled escapes -/

/-- Settling the escapes of a node keeps an untagged address. -/
theorem Settles.keeps (untagged : Untagged url) (settles : Settles node other) :
    Keeps url [] [node] [other] := by
  cases settles with
  | same => exact .refl _
  | marked isText => exact .of_kind rfl (.inl isText)
  | @literal front back marker _ kind =>
    exact .reword kind rfl (count_addresses_unescape untagged marker front back)

/-- Settling the escapes of siblings keeps an untagged address. -/
theorem SettlesList.keeps (untagged : Untagged url) (settles : SettlesList nodes others) :
    Keeps url [] nodes others := by
  induction settles with
  | nil => exact .refl []
  | cons own _ later => exact (own.keeps untagged).append later

/-- Meeting a block keeps an untagged address. -/
theorem Met.keeps (untagged : Untagged url) (met : Met node other) :
    Keeps url [] [node] [other] := by
  cases met with
  | settled settles => exact settles.keeps untagged
  | paragraph _ settles => exact .inside rfl (settles.keeps untagged) fun _ => rfl

/-- Meeting siblings keeps an untagged address. -/
theorem keeps_of_met (untagged : Untagged url) (met : List.Forall₂ Met nodes others) :
    Keeps url [] nodes others := by
  induction met with
  | nil => exact .refl []
  | cons own _ later => exact (own.keeps untagged).append later

/-! ## Tags that are taken -/

/-- Taking an opening tag from the first text keeps an address. -/
theorem keeps_stripStart (marker : Marker) (nodes : List Node) :
    Keeps url [] nodes (stripStart marker.tag nodes) := by
  induction nodes with
  | nil => exact .refl []
  | cons node rest ih =>
    rw [stripStart]
    split
    · exact (Keeps.refl [node]).append ih
    · rename_i value own
      have kind := Node.kind_of_textValue? own
      split
      · exact .refl _
      · rename_i cut
        refine Keeps.head (.emptied kind ?_) rest
        rw [Text.dropFront?_eq_some_iff.1 cut]
        exact count_addresses_opening marker []
      · rename_i left _ cut
        refine Keeps.head (.reword kind rfl ?_) rest
        rw [Text.dropFront?_eq_some_iff.1 cut]
        exact count_addresses_opening marker left

/-- Taking a closing tag from a text keeps an untagged address. -/
theorem keeps_stripTextEnd (untagged : Untagged url) {marker : Marker}
    (closes : marker.closing = true) {text : Node} (isText : text.isText = true) :
    Keeps url [] [text] (stripTextEnd marker.tag text) := by
  obtain ⟨value, own⟩ := Option.isSome_iff_exists.1 isText
  have kind := Node.kind_of_textValue? own
  rw [stripTextEnd, stripEnd, List.reverse_singleton, stripEndReversed]
  simp only [own]
  split
  · exact .refl _
  · rename_i cut
    refine .emptied kind ?_
    rw [Text.dropBack?_eq_some_iff.1 cut]
    exact count_addresses_closing untagged closes []
  · rename_i left _ cut
    refine .reword kind rfl ?_
    rw [Text.dropBack?_eq_some_iff.1 cut]
    exact count_addresses_closing untagged closes left

/-- Taking a closing tag from the last text keeps an untagged address. -/
theorem keeps_stripEnd (untagged : Untagged url) {marker : Marker}
    (closes : marker.closing = true) (nodes : List Node) :
    Keeps url [] nodes (stripEnd marker.tag nodes) := by
  have atText : ∀ {front back : List Node} {text : Node}, Textless back → text.isText = true →
      Keeps url [] (front ++ text :: back) (stripEnd marker.tag (front ++ text :: back)) := by
    intro front back text textless isText
    rw [stripEnd_append marker.tag textless isText, List.append_assoc]
    exact (Keeps.refl front).append
      ((keeps_stripTextEnd untagged closes isText).append (.refl back))
  obtain ⟨ends, clear, shape⟩ := exists_shape nodes
  cases shape with
  | none textless =>
    rw [stripEnd_of_textless marker.tag textless]
    exact .refl nodes
  | one _ after isText => exact atText after isText
  | @two front middle back first last _ after _ isText =>
    have regroup : front ++ first :: (middle ++ last :: back) =
        (front ++ first :: middle) ++ last :: back := by simp
    rw [regroup]
    exact atText after isText

/-! ## Paragraphs that go -/

/-- There are no addresses in a blank paragraph. -/
theorem addressesOf_of_isBlankParagraph {block : Node} (blank : isBlankParagraph block = true) :
    addressesOf [block] = [] := by
  rw [isBlankParagraph, Bool.and_eq_true, List.all_eq_true] at blank
  rw [BareLink.addressesOf_paragraph blank.1]
  have texts := blank.2
  generalize block.children = children at texts
  induction children with
  | nil => rfl
  | cons child rest ih =>
    obtain ⟨first, later⟩ := List.forall_mem_cons.1 texts
    obtain ⟨value, own, blankValue⟩ := (Option.any_eq_true _ _).1 first
    have none := BareLink.addresses_blanks blankValue []
    rw [List.append_nil, BareLink.addresses_nil] at none
    rw [BareLink.addressesOf_cons, BareLink.addressesOf_text (Node.kind_of_textValue? own), none,
      ih later]
    rfl

/-- Removing a blank paragraph keeps every address. -/
theorem keeps_unlessBlank (block : Node) : Keeps url [] [block] (unlessBlank block) := by
  rw [unlessBlank]
  split
  · rename_i blank
    rw [Keeps, addressesOf_of_isBlankParagraph blank]
    exact Nat.zero_le _
  · exact .refl [block]

/-- Removing a paragraph in which a tag stands alone keeps every address. -/
theorem Carries.keeps_of_alone {holds : Marker → List Node → Prop} {found : Found} {block : Node}
    (carries : Carries holds found block) (alone : found.alone = true) :
    Keeps url [] [block] [] := by
  obtain ⟨text, whole, tagged⟩ := carries.alone alone
  obtain ⟨value, kind, stands⟩ := tagged.value
  have only : Keeps url [] [text] [] := by
    obtain ⟨blanks, blank, written⟩ := Text.blanks_trim_blanks value
    have none := BareLink.addresses_blanks blank []
    rw [List.append_nil] at none
    refine .emptied kind ?_
    rw [written, stands, BareLink.addresses_blanks (Text.isBlankText_takeWhile value), ← none]
    exact count_addresses_opening found.marker blanks
  rwa [Keeps, BareLink.addressesOf_paragraph carries.isParagraph, whole]

/-! ## The pass -/

/-- Removing an opening tag keeps an untagged address. -/
theorem keeps_dropOpening (untagged : Untagged url) {opening : Found} {original block : Node}
    (carries : Carries HoldsFirst opening original) (met : Met original block) :
    Keeps url [] [original] (dropOpening opening [block]) := by
  rw [dropOpening_singleton]
  split
  · rename_i alone
    exact carries.keeps_of_alone alone
  · have stripped : Keeps url [] [block]
        [{ block with children := stripStart opening.marker.tag block.children }] :=
      .inside rfl (keeps_stripStart _ _) fun _ => rfl
    exact (met.keeps untagged).trans (stripped.trans (keeps_unlessBlank _))

/-- Removing a closing tag keeps an untagged address. -/
theorem keeps_stripClosing (untagged : Untagged url) {marker : Marker}
    (closes : marker.closing = true) (block : Node) :
    Keeps url [] [block]
      (unlessBlank { block with children := stripEnd marker.tag block.children }) := by
  have stripped : Keeps url [] [block]
      [{ block with children := stripEnd marker.tag block.children }] :=
    .inside rfl (keeps_stripEnd untagged closes _) fun _ => rfl
  exact stripped.trans (keeps_unlessBlank _)

/-- Removing a closing tag with its block keeps an untagged address. -/
theorem keeps_dropClosing (untagged : Untagged url) {closing : Found} {last : Node}
    (carries : Carries HoldsLast closing last) :
    Keeps url [] [last] (dropClosing closing [last]) := by
  rw [dropClosing_singleton]
  cases alone : closing.alone with
  | true => exact carries.keeps_of_alone alone
  | false =>
    obtain ⟨_, _, _, _, _, holds⟩ := carries.beside alone
    obtain ⟨_, _, closes, _⟩ := holds.value
    exact keeps_stripClosing untagged closes last

/-- Taking the tags from a range keeps an untagged address. -/
theorem Range.TakenFrom.keeps (untagged : Untagged url) {range : Range} {taken : List Node}
    (from' : range.TakenFrom taken) : Keeps url [] taken range.inner := by
  rw [Range.inner]
  cases from' with
  | @one only block met opens closes beside beside' blocks =>
    rw [blocks]
    refine (keeps_dropOpening untagged (opens.of_met met holdsFirst_stays) met).trans
      (?_ : Keeps url [] _ _)
    rw [dropOpening_singleton, beside, if_neg Bool.false_ne_true, unlessBlank]
    split
    · exact .refl []
    · obtain ⟨_, _, _, _, _, holds⟩ := closes.beside beside'
      obtain ⟨_, _, isClosing, _⟩ := holds.value
      rw [dropClosing_singleton, beside', if_neg Bool.false_ne_true]
      exact keeps_stripClosing untagged isClosing _
  | several opens met amid met' closes blocks =>
    rw [blocks, dropBoth_append]
    exact ((keeps_dropOpening untagged opens met).append (keeps_of_met untagged amid)).append
      ((met'.keeps untagged).trans (keeps_dropClosing untagged closes))

/-- Putting what is left of a range into a wrapper keeps every address. -/
theorem keeps_wrapper? (options : AlignOptions) (range : Range) :
    Keeps url [] range.inner (range.wrapper? options).toList := by
  rw [range.wrapper?_eq]
  split
  · rename_i empty
    rw [List.isEmpty_iff.1 empty]
    exact .refl []
  · rw [Option.toList_some, Keeps, BareLink.addressesOf_other rfl rfl]
    exact Nat.le_refl _

/-- Wrapping the aligned blocks of siblings keeps an untagged address. -/
theorem keeps_alignList (untagged : Untagged url) (options : AlignOptions) (source : Text)
    (nodes : List Node) : Keeps url [] nodes (alignList options source nodes) := by
  induction nodes using visit.induct source with
  | case1 =>
    rw [alignList]
    exact .refl []
  | case2 block rest range after found later =>
    obtain ⟨taken, others, whole, from', met⟩ :=
      taken_of_range found (List.forall₂_same.2 fun node _ => .refl node)
    have onward : Keeps url [] after
        (range.skipped after ++ alignList options source (range.remaining after)) := by
      conv =>
        arg 3
        rw [← range.skipped_append_remaining after]
      exact (Keeps.refl _).append later
    rw [alignList_of_range found, whole]
    exact ((from'.keeps untagged).trans (keeps_wrapper? options range)).append
      ((keeps_of_met untagged met).trans onward)
  | case3 block rest kept left found below later =>
    obtain ⟨own, others⟩ := outcome_kept found
    have inside : Keeps url [] [kept]
        [{ kept with children := alignList options source kept.children }] :=
      .inside rfl below fun _ => rfl
    rw [alignList_of_kept found]
    exact ((own.keeps untagged).trans inside).append ((keeps_of_met untagged others).trans later)

/-- Whether a tag stands in an address behind a backslash, or a closing tag at its end. -/
def isTagged (url : Text) : Bool :=
  (Marker.openings ++ Marker.closings).any fun marker =>
    Text.contains ('\\' :: marker.tag) url || marker.closing && Text.endsWith marker.tag url

/-- An address in which no tag is found has none. -/
theorem untagged_of_not_isTagged (plain : isTagged url = false) : Untagged url := by
  intro marker
  have member : marker ∈ Marker.openings ++ Marker.closings := by
    obtain ⟨alignment, layout, closing⟩ := marker
    cases alignment <;> cases layout <;> cases closing <;> decide
  have clear := List.any_eq_false.1 plain marker member
  rw [Bool.or_eq_true, not_or, Bool.and_eq_true] at clear
  exact ⟨fun inside => clear.1 (Text.contains_of_infix inside),
    fun closes ends => clear.2 ⟨closes, List.isSuffixOf_iff_suffix.2 ends⟩⟩

/-- The addresses with an escaped tag in them or a closing tag at their end. -/
def taken (tree : Node) : List Text :=
  (addressesOf tree.children).filter isTagged

/-- The pass over aligned blocks takes at most the addresses with an escaped tag in them or a
closing tag at their end. -/
theorem keeps_alignDocument (options : AlignOptions) (source : Text) (tree : Node) :
    Keeps url (taken tree) tree.children (alignDocument options source tree).children := by
  cases tagged : isTagged url with
  | true =>
    rw [Keeps, taken, List.count_filter tagged]
    exact Nat.le_add_left _ _
  | false =>
    exact (keeps_alignList (untagged_of_not_isTagged tagged) options source tree.children).widen _

end Manuscript.Alignment
