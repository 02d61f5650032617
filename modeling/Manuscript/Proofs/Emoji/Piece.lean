import Manuscript.Html.EmojiLabel
import Manuscript.Proofs.Emoji.Catalogue
import Manuscript.Proofs.Html.Induction

/-!
# The pieces of a text with emoji

Labelling cuts a text into labels and pieces in which no emoji begins anywhere (`mem_cut`). An emoji
that is not there does not appear when what follows is taken away (`emojiAt?_of_append`), so there
is nothing to cut in such a piece (`nodes_of_isBare`).
-/

namespace Manuscript

namespace Emoji

/-- Every emoji of the table is written with the characters that emoji have, and with at least
one. -/
theorem isSequence_of_mem_table {emoji : Emoji} (known : emoji ∈ table) :
    Entry.isSequence emoji.sequence = true := by
  obtain ⟨entry, _, spelled⟩ := List.mem_flatMap.1 known
  obtain ⟨whole, _, spelling⟩ := List.mem_flatMap.1 spelled
  obtain ⟨sequence, kept, rfl⟩ := List.mem_map.1 spelling
  exact (List.mem_filter.1 kept).2

/-- Once there is a candidate, there is one in the end. -/
theorem foldl_longer_isSome (emoji : Emoji) (more : List Emoji) :
    (more.foldl longer (some emoji)).isSome = true := by
  induction more generalizing emoji with
  | nil => rfl
  | cons other rest ih =>
    rw [List.foldl_cons, longer]
    split
    · exact ih other
    · exact ih emoji

/-- No emoji is at the start of a text just if the text begins with none of the table. -/
theorem longestAt?_eq_none_iff {text : Text} :
    longestAt? text = none ↔ ∀ emoji ∈ table, ¬ emoji.sequence <+: text := by
  have found : longestAt? text = none ↔
      table.filter (fun emoji => emoji.sequence.isPrefixOf text) = [] := by
    rw [longestAt?]
    cases table.filter fun emoji => emoji.sequence.isPrefixOf text with
    | nil => simp
    | cons emoji more =>
      have isSome := foldl_longer_isSome emoji more
      rw [List.foldl_cons, longer]
      simp [Option.ne_none_iff_isSome.2 isSome]
  rw [found, List.filter_eq_nil_iff]
  simp only [List.isPrefixOf_iff_prefix]

end Emoji

namespace EmojiLabel

/-! ## Texts without emoji -/

/-- Whether an ASCII character cannot begin an emoji, from what follows. -/
def isBlocked (c : Char) (rest : Text) : Bool :=
  c.toNat < 128 && !(rest.head?.any fun next => next == Emoji.variationSelector || next == keycap)

/-- An emoji is looked for unless it is blocked. -/
theorem emojiAt?_cons (c : Char) (rest : Text) :
    emojiAt? (c :: rest) = if isBlocked c rest then none else Emoji.longestAt? (c :: rest) :=
  rfl

/-- An emoji that is not at the start of a text is not there without what follows either. -/
theorem emojiAt?_of_append {front back : Text} (absent : emojiAt? (front ++ back) = none) :
    emojiAt? front = none := by
  cases front with
  | nil => rfl
  | cons c rest =>
    rw [List.cons_append, emojiAt?_cons] at absent
    rw [emojiAt?_cons]
    by_cases blocked : isBlocked c (rest ++ back) = true
    · have blockedHere : isBlocked c rest = true := by
        cases rest with
        | nil =>
          rw [isBlocked, Bool.and_eq_true] at blocked
          rw [isBlocked, blocked.1]
          rfl
        | cons next more => exact blocked
      rw [if_pos blockedHere]
    · rw [if_neg blocked, Emoji.longestAt?_eq_none_iff] at absent
      split
      · rfl
      · refine Emoji.longestAt?_eq_none_iff.2 fun emoji known first => absent emoji known ?_
        exact first.trans (List.prefix_append (c :: rest) back)

/-- No emoji begins anywhere in a text. -/
def IsBare (text : Text) : Prop :=
  ∀ back, back <:+ text → emojiAt? back = none

/-- A character that neither begins an emoji nor makes the one before it begin one. -/
structure IsCalm (c : Char) : Prop where
  notSelector : c ≠ Emoji.variationSelector
  notKeycap : c ≠ keycap
  begins : c.toNat < 128 ∨ Emoji.Entry.isSequenceChar c = false

/-- No emoji is in a text of calm characters. -/
theorem isBare_of_isCalm {text : Text} (calm : ∀ c ∈ text, IsCalm c) : IsBare text := by
  intro back last
  cases back with
  | nil => rfl
  | cons c rest =>
    obtain ⟨first, others⟩ :=
      List.forall_mem_cons.1 fun other member => calm other (last.subset member)
    rw [emojiAt?_cons]
    obtain ascii | other := first.begins
    · refine if_pos ?_
      rw [isBlocked, decide_eq_true ascii, Bool.true_and]
      cases rest with
      | nil => rfl
      | cons next more =>
        have calmNext := others next List.mem_cons_self
        simp [calmNext.notSelector, calmNext.notKeycap]
    · split
      · rfl
      · refine Emoji.longestAt?_eq_none_iff.2 fun emoji known begins => ?_
        have sequence := Emoji.isSequence_of_mem_table known
        cases shape : emoji.sequence with
        | nil =>
          rw [shape] at sequence
          cases sequence
        | cons front tail =>
          rw [shape] at sequence begins
          obtain ⟨rfl, _⟩ := List.cons_prefix_cons.1 begins
          have part : Emoji.Entry.isSequenceChar front = true :=
            (Emoji.isSequence_iff.1 sequence).2.1 front List.mem_cons_self
          rw [other] at part
          cases part

/-- Text in which no emoji begins is passed over. -/
theorem cut_of_passed {before text : Text}
    (passed : ∀ back, back <:+ before → back ≠ [] → emojiAt? (back ++ text) = none) (plain : Text) :
    cut plain (before ++ text) = cut (before.reverse ++ plain) text := by
  induction before generalizing plain with
  | nil => rfl
  | cons c rest ih =>
    have here := passed _ (List.suffix_refl _) (List.cons_ne_nil c rest)
    rw [List.cons_append] at here ⊢
    rw [cut, here]
    dsimp only
    rw [ih fun back last => passed back (last.trans (List.suffix_cons c rest)), List.reverse_cons,
      List.append_assoc, List.singleton_append]

/-- A text without emoji is one plain piece. -/
theorem cut_of_isBare {text : Text} (bare : IsBare text) (plain : Text) :
    cut plain text = plainNode (text.reverse ++ plain) := by
  have passed : ∀ back, back <:+ text → back ≠ [] → emojiAt? (back ++ []) = none :=
    fun back last _ => (List.append_nil back).symm ▸ bare back last
  have whole := cut_of_passed passed plain
  rwa [List.append_nil, cut] at whole

/-- A text without emoji stays as it is. -/
theorem nodes_of_isBare {text : Text} (bare : IsBare text) : nodes text = [.text text] := by
  rw [nodes, cut_of_isBare bare, List.append_nil]
  cases text with
  | nil => rfl
  | cons c rest =>
    rw [plainNode, if_neg (by simp), List.reverse_reverse]

/-! ## Pieces -/

/-- A piece of a text that is cut: a text without emoji or a label. -/
inductive IsPiece : Html → Prop where
  | text {value : Text} (bare : IsBare value) : IsPiece (.text value)
  | label (name value : Text) : IsPiece (label name value)

/-- A text with something after it that was gone through without finding an emoji is bare. -/
theorem mem_plainNode {plain text : Text}
    (passed : ∀ back, back <:+ plain.reverse → back ≠ [] → emojiAt? (back ++ text) = none) :
    ∀ piece ∈ plainNode plain, IsPiece piece := by
  intro piece member
  rw [plainNode] at member
  split at member
  · cases member
  · cases List.mem_singleton.1 member
    refine .text fun back last => ?_
    cases back with
    | nil => rfl
    | cons c rest => exact emojiAt?_of_append (passed _ last (List.cons_ne_nil c rest))

/-- Cutting a text gives bare texts and labels. -/
theorem mem_cut {plain text : Text}
    (passed : ∀ back, back <:+ plain.reverse → back ≠ [] → emojiAt? (back ++ text) = none) :
    ∀ piece ∈ cut plain text, IsPiece piece := by
  induction plain, text using cut.induct with
  | case1 plain =>
    rw [cut]
    exact mem_plainNode passed
  | case2 plain c rest absent ih =>
    rw [cut, absent]
    refine ih fun back last nonempty => ?_
    rw [List.reverse_cons, List.suffix_concat_iff] at last
    obtain rfl | ⟨front, rfl, before⟩ := last
    · exact absurd rfl nonempty
    · rw [List.append_assoc, List.singleton_append]
      cases front with
      | nil => exact absent
      | cons first more => exact passed _ before (List.cons_ne_nil first more)
  | case3 plain c rest emoji found more count ih =>
    rw [cut, found]
    dsimp only
    refine List.forall_mem_append.2 ⟨mem_plainNode passed, List.forall_mem_cons.2
      ⟨.label _ _, ih fun back last nonempty => ?_⟩⟩
    exact absurd (List.suffix_nil.1 last) nonempty

/-- Only the empty text has no pieces. -/
theorem eq_nil_of_cut {plain text : Text} (empty : cut plain text = []) :
    plain = [] ∧ text = [] := by
  induction plain, text using cut.induct with
  | case1 plain =>
    rw [cut, plainNode] at empty
    split at empty
    · rename_i isEmpty
      exact ⟨List.isEmpty_iff.1 isEmpty, rfl⟩
    · cases empty
  | case2 plain c rest absent ih =>
    rw [cut, absent] at empty
    cases (ih empty).1
  | case3 plain c rest emoji found more count ih =>
    rw [cut, found] at empty
    cases (List.append_eq_nil_iff.1 empty).2

/-- The nodes that take the place of a text are bare texts and labels. -/
theorem mem_nodes (value : Text) : ∀ piece ∈ nodes value, IsPiece piece := by
  have pieces : ∀ piece ∈ cut [] value, IsPiece piece :=
    mem_cut fun back last nonempty => absurd (List.suffix_nil.1 last) nonempty
  rw [nodes]
  split
  · rename_i empty
    refine List.forall_mem_singleton.2 (.text fun back last => ?_)
    rw [(eq_nil_of_cut empty).2, List.suffix_nil] at last
    rw [last]
    rfl
  · exact pieces

/-! ## The text -/

/-- A plain piece holds its text. -/
theorem textContent_plainNode (plain : Text) :
    Html.textContentList (plainNode plain) = plain.reverse := by
  rw [plainNode]
  split
  · rename_i empty
    rw [List.isEmpty_iff.1 empty]
    rfl
  · exact List.append_nil _

/-- Cutting a text keeps all of it. -/
theorem textContent_cut (plain text : Text) :
    Html.textContentList (cut plain text) = plain.reverse ++ text := by
  induction plain, text using cut.induct with
  | case1 plain => rw [cut, textContent_plainNode, List.append_nil]
  | case2 plain c rest absent ih =>
    rw [cut, absent]
    dsimp only
    rw [ih, List.reverse_cons, List.append_assoc, List.singleton_append]
  | case3 plain c rest emoji found more count ih =>
    have labelText : ∀ value, (label emoji.name value).textContent = value := List.append_nil
    have pieces : cut plain (c :: rest) =
        plainNode plain ++ label emoji.name (c :: rest.take count) :: cut [] (rest.drop count) := by
      rw [cut, found]
      rfl
    rw [pieces, Html.textContentList_append, textContent_plainNode, Html.textContentList, labelText,
      ih, List.reverse_nil, List.nil_append, List.cons_append, List.take_append_drop]

/-- The pieces of a text hold that text. -/
theorem textContent_nodes (value : Text) : Html.textContentList (nodes value) = value := by
  rw [nodes]
  split
  · exact List.append_nil value
  · exact textContent_cut [] value

/-! ## Lists of siblings -/

/-- The nodes that take the place of a node among siblings. -/
def labelled : Html → List Html
  | .text value => nodes value
  | node => [labelNode node]

/-- Siblings are labelled one by one. -/
theorem labelList_eq_flatMap (siblings : List Html) :
    labelList siblings = siblings.flatMap labelled := by
  induction siblings with
  | nil => rfl
  | cons node rest ih =>
    rw [List.flatMap_cons, ← ih]
    cases node <;> rfl

/-- The first sibling is labelled by itself. -/
theorem labelList_cons (node : Html) (rest : List Html) :
    labelList (node :: rest) = labelled node ++ labelList rest := by
  rw [labelList_eq_flatMap, labelList_eq_flatMap, List.flatMap_cons]

/-- Siblings are labelled apart from those before them. -/
theorem labelList_append (front back : List Html) :
    labelList (front ++ back) = labelList front ++ labelList back := by
  simp only [labelList_eq_flatMap, List.flatMap_append]

/-- A label is not labelled again. -/
theorem labelNode_label (name value : Text) : labelNode (label name value) = label name value :=
  rfl

/-- Labelling what a text was cut into changes nothing. -/
theorem labelList_of_isPiece {pieces : List Html} (all : ∀ piece ∈ pieces, IsPiece piece) :
    labelList pieces = pieces := by
  induction pieces with
  | nil => rfl
  | cons piece rest ih =>
    obtain ⟨first, others⟩ := List.forall_mem_cons.1 all
    have own : labelled piece = [piece] := by
      cases first with
      | text bare => exact nodes_of_isBare bare
      | label name value => exact congrArg ([·]) (labelNode_label name value)
    rw [labelList_cons, ih others, own, List.singleton_append]

end EmojiLabel

end Manuscript
