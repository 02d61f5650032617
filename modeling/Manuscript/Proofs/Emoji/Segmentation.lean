import Manuscript.Proofs.Emoji.Longest
import Manuscript.Proofs.Emoji.Piece

/-!
# Where emoji are labelled

What labelling does to a text can be said without the scan: it is cut where an emoji begins and none
begins before, the emoji is the longest one there together with one variation selector after it, and
what is behind is cut in the same way (`cut_eq_iff`). Every text of a tree is cut so, except where
it is left alone, and nothing else changes (`labelTree_segments`).
-/

namespace Manuscript.EmojiLabel

/-! ## Where an emoji begins -/

/-- Whether a text can begin with an emoji, from its first two characters. -/
def MayBegin (text : Text) : Prop :=
  ∃ first rest, text = first :: rest ∧
    (first.toNat < 128 → rest.head? = some Emoji.variationSelector ∨ rest.head? = some keycap)

/-- An emoji begins a text. -/
def Begins (text : Text) : Prop :=
  MayBegin text ∧ ∃ emoji ∈ Emoji.table, emoji.sequence <+: text

/-- An emoji may begin with a character exactly when it is not blocked there. -/
theorem mayBegin_cons_iff {c : Char} {rest : Text} :
    MayBegin (c :: rest) ↔ isBlocked c rest = false := by
  have shape : MayBegin (c :: rest) ↔ (c.toNat < 128 →
      rest.head? = some Emoji.variationSelector ∨ rest.head? = some keycap) := by
    refine ⟨fun ⟨_, _, same, follows⟩ => ?_, fun follows => ⟨c, rest, rfl, follows⟩⟩
    obtain ⟨rfl, rfl⟩ := List.cons.inj same
    exact follows
  rw [shape, isBlocked]
  cases rest with
  | nil => simp
  | cons next more => simp [Decidable.or_iff_not_imp_left]

/-- The emoji that labelling finds at the start of a text is the longest one there. -/
theorem emojiAt?_eq_some_iff {text : Text} {emoji : Emoji} :
    emojiAt? text = some emoji ↔ MayBegin text ∧ Emoji.IsLongestAt text emoji := by
  cases text with
  | nil => simp [emojiAt?, MayBegin]
  | cons c rest =>
    rw [emojiAt?_cons, mayBegin_cons_iff, ← Emoji.longestAt?_eq_some_iff]
    cases isBlocked c rest <;> simp

/-- Labelling finds no emoji at the start of a text just if none begins it. -/
theorem emojiAt?_eq_none_iff {text : Text} : emojiAt? text = none ↔ ¬ Begins text := by
  cases text with
  | nil => simp [emojiAt?, Begins, MayBegin]
  | cons c rest =>
    rw [emojiAt?_cons, Begins, mayBegin_cons_iff]
    cases isBlocked c rest <;> simp [Emoji.longestAt?_eq_none_iff]

/-! ## The cut of a text -/

/-- The node for a plain piece of a text, if the piece is not empty. -/
def piece (text : Text) : List Html :=
  if text = [] then [] else [.text text]

/-- The variation selector that goes with an emoji, where `after` follows. -/
def IsSelector (selector after : Text) : Prop :=
  selector = [Emoji.variationSelector] ∨ selector = [] ∧ after.head? ≠ some Emoji.variationSelector

/-- The leftmost cut of a text into plain pieces and labels, each of the longest emoji where it
begins. -/
inductive Segmented : Text → List Html → Prop where
  /-- No emoji begins anywhere. -/
  | plain {text : Text} (clear : ∀ back, back <:+ text → ¬ Begins back) :
      Segmented text (piece text)
  /-- An emoji begins behind `before`, and none begins earlier. -/
  | label {before selector after : Text} {emoji : Emoji} {pieces : List Html}
    (clear : ∀ back, back <:+ before → back ≠ [] →
      ¬ Begins (back ++ (emoji.sequence ++ (selector ++ after))))
    (allowed : MayBegin (emoji.sequence ++ (selector ++ after)))
    (longest : Emoji.IsLongestAt (emoji.sequence ++ (selector ++ after)) emoji)
    (followed : IsSelector selector after) (later : Segmented after pieces) :
    Segmented (before ++ (emoji.sequence ++ (selector ++ after)))
      (piece before ++ .element
        { name := "span".toList
          attributes := [("role".toList, "img".toList), ("aria-label".toList, emoji.name)] }
        [.text (emoji.sequence ++ selector)] :: pieces)

/-- What has been gathered of plain text is one piece of it. -/
theorem plainNode_eq_piece (plain : Text) : plainNode plain = piece plain.reverse := by
  simp [plainNode, piece]

/-- A selector behind an emoji can be told from the text after it. -/
theorem exists_isSelector (text : Text) :
    ∃ selector after, text = selector ++ after ∧ IsSelector selector after := by
  cases text with
  | nil => exact ⟨[], [], rfl, .inr ⟨rfl, nofun⟩⟩
  | cons c rest =>
    by_cases isSelector : c = Emoji.variationSelector
    · exact ⟨[c], rest, rfl, .inl (congrArg ([·]) isSelector)⟩
    · exact ⟨[], c :: rest, rfl, .inr ⟨rfl, fun same => isSelector (Option.some.inj same)⟩⟩

/-- An emoji is labelled together with its selector. -/
theorem cut_of_emoji {selector after : Text} {emoji : Emoji}
    (found : emojiAt? (emoji.sequence ++ (selector ++ after)) = some emoji)
    (followed : IsSelector selector after) (plain : Text) :
    cut plain (emoji.sequence ++ (selector ++ after)) =
      plainNode plain ++ label emoji.name (emoji.sequence ++ selector) :: cut [] after := by
  have known := (Emoji.get?_eq_some (emojiAt?_eq_some_iff.1 found).2.known).1
  have nonempty := List.length_pos_iff.1 (Emoji.length_bounds known).1
  obtain ⟨c, more, spelled⟩ := List.exists_cons_of_ne_nil nonempty
  rw [spelled, List.cons_append] at found ⊢
  rw [cut, found]
  dsimp only
  rw [spelled, List.length_cons, Nat.add_sub_cancel]
  obtain rfl | ⟨rfl, others⟩ := followed
  · have marked : (more ++ ([Emoji.variationSelector] ++ after))[more.length]? =
        some Emoji.variationSelector := by simp
    have all : more.length + 1 = (more ++ [Emoji.variationSelector]).length := by simp
    rw [if_pos marked, ← List.append_assoc, all, List.take_left, List.drop_left, List.cons_append]
  · have unmarked : (more ++ ([] ++ after))[more.length]? ≠ some Emoji.variationSelector := by
      simpa [List.getElem?_append_right, List.head?_eq_getElem?] using others
    rw [if_neg unmarked, List.nil_append, List.take_left, List.drop_left, List.append_nil]

/-- Either no emoji begins in a text, or there is a first place where one does. -/
theorem clear_or_exists_first (text : Text) :
    (∀ back, back <:+ text → ¬ Begins back) ∨
      ∃ before rest emoji, text = before ++ rest ∧ emojiAt? rest = some emoji ∧
        ∀ back, back <:+ before → back ≠ [] → ¬ Begins (back ++ rest) := by
  induction text with
  | nil =>
    refine .inl fun back last => emojiAt?_eq_none_iff.1 ?_
    rw [List.suffix_nil.1 last]
    rfl
  | cons c text ih =>
    cases here : emojiAt? (c :: text) with
    | some emoji =>
      refine .inr ⟨[], c :: text, emoji, rfl, here, fun back last nonempty => ?_⟩
      exact absurd (List.suffix_nil.1 last) nonempty
    | none =>
      have absent := emojiAt?_eq_none_iff.1 here
      obtain clear | ⟨before, rest, emoji, rfl, found, clear⟩ := ih
      · refine .inl fun back last => ?_
        obtain rfl | last := List.suffix_cons_iff.1 last
        · exact absent
        · exact clear back last
      · refine .inr ⟨c :: before, rest, emoji, rfl, found, fun back last nonempty => ?_⟩
        obtain rfl | last := List.suffix_cons_iff.1 last
        · exact absent
        · exact clear back last nonempty

/-- Cutting a text up to its first emoji. -/
theorem cut_of_first {before selector after : Text} {emoji : Emoji}
    (clear : ∀ back, back <:+ before → back ≠ [] →
      ¬ Begins (back ++ (emoji.sequence ++ (selector ++ after))))
    (found : emojiAt? (emoji.sequence ++ (selector ++ after)) = some emoji)
    (followed : IsSelector selector after) :
    cut [] (before ++ (emoji.sequence ++ (selector ++ after))) =
      piece before ++ label emoji.name (emoji.sequence ++ selector) :: cut [] after := by
  have passed := fun back last nonempty => emojiAt?_eq_none_iff.2 (clear back last nonempty)
  rw [cut_of_passed passed, cut_of_emoji found followed, plainNode_eq_piece, List.append_nil,
    List.reverse_reverse]

/-- A text is segmented in one way only, which is how it is cut. -/
theorem cut_of_segmented {text : Text} {pieces : List Html} (segmented : Segmented text pieces) :
    cut [] text = pieces := by
  induction segmented with
  | plain clear =>
    rw [cut_of_isBare fun back last => emojiAt?_eq_none_iff.2 (clear back last), plainNode_eq_piece,
      List.append_nil, List.reverse_reverse]
  | label clear allowed longest followed _ ih =>
    rw [cut_of_first clear (emojiAt?_eq_some_iff.2 ⟨allowed, longest⟩) followed, ih, label]

/-- A text is segmented where it is cut. -/
theorem segmented_cut (text : Text) : Segmented text (cut [] text) := by
  obtain clear | ⟨before, rest, emoji, whole, found, clear⟩ := clear_or_exists_first text
  · have plain := Segmented.plain clear
    rwa [← cut_of_segmented plain] at plain
  · obtain ⟨allowed, longest⟩ := emojiAt?_eq_some_iff.1 found
    obtain ⟨tail, rfl⟩ := longest.begins
    obtain ⟨selector, after, rfl, followed⟩ := exists_isSelector tail
    have shorter : after.length < text.length := by
      have positive := (Emoji.length_bounds (Emoji.get?_eq_some longest.known).1).1
      simp only [whole, List.length_append]
      omega
    rw [whole, cut_of_first clear found followed]
    exact .label clear allowed longest followed (segmented_cut after)
termination_by text.length

/-- Labelling cuts a text where an emoji begins that is the longest one there, from left to right.
-/
theorem cut_eq_iff {text : Text} {pieces : List Html} :
    cut [] text = pieces ↔ Segmented text pieces :=
  ⟨fun same => same ▸ segmented_cut text, cut_of_segmented⟩

/-! ## The texts of a tree -/

/-- An element whose text is left alone: code and the like, a label, or the anchor of a heading. -/
def IsSkipped (tag : Tag) : Prop :=
  tag.name ∈ ["pre".toList, "code".toList, "kbd".toList, "script".toList, "style".toList,
      "math".toList] ∨
    tag.name = "span".toList ∧ tag.attribute? "role".toList = some "img".toList ∨
      tag.name = "a".toList ∧ "heading-anchor".toList ∈ tag.classes

/-- An element is skipped exactly when its name, its mark or its role says so. -/
theorem isSkipped_iff {tag : Tag} : isSkipped tag = true ↔ IsSkipped tag := by
  have anchor : HeadingAnchor.isAnchorTag tag = true ↔
      tag.name = "a".toList ∧ "heading-anchor".toList ∈ tag.classes := by
    rw [HeadingAnchor.isAnchorTag, Tag.hasClass, Bool.and_eq_true, decide_eq_true_eq,
      List.contains_iff_mem]
    rfl
  rw [isSkipped, Bool.or_eq_true, Bool.or_eq_true, Bool.and_eq_true, anchor, List.contains_iff_mem,
    decide_eq_true_eq, decide_eq_true_eq, or_assoc]
  rfl

/-- A node that stays as it is. -/
inductive IsKept : Html → Prop where
  | empty : IsKept (.text [])
  | skipped {tag : Tag} {children : List Html} (skips : IsSkipped tag) :
      IsKept (.element tag children)
  | comment {value : Text} : IsKept (.comment value)
  | raw {value : Text} : IsKept (.raw value)
  | root {children : List Html} : IsKept (.root children)

/-- What becomes of siblings and of what is below them when every text that is not left alone is cut
at its emoji. -/
inductive Labelled : List Html → List Html → Prop where
  | nil : Labelled [] []
  | kept {node : Html} {rest later : List Html} (same : IsKept node)
      (others : Labelled rest later) : Labelled (node :: rest) (node :: later)
  | text {value : Text} {pieces rest later : List Html} (nonempty : value ≠ [])
    (segmented : Segmented value pieces) (others : Labelled rest later) :
    Labelled (.text value :: rest) (pieces ++ later)
  | element {tag : Tag} {children below rest later : List Html} (searched : ¬ IsSkipped tag)
    (inside : Labelled children below) (others : Labelled rest later) :
    Labelled (.element tag children :: rest) (.element tag below :: later)

/-- The nodes in place of a text that is not empty are its pieces. -/
theorem nodes_of_ne_nil {value : Text} (nonempty : value ≠ []) : nodes value = cut [] value := by
  rw [nodes]
  split
  · rename_i empty
    exact absurd (eq_nil_of_cut empty).2 nonempty
  · rfl

/-- A node that is kept stays as it is. -/
theorem labelled_of_isKept {node : Html} (same : IsKept node) : labelled node = [node] := by
  cases same with
  | empty =>
    exact nodes_of_isBare fun back last => by
      rw [List.suffix_nil.1 last]
      rfl
  | skipped skips =>
    rw [labelled, labelNode, if_pos (isSkipped_iff.2 skips)]
    exact nofun
  | comment | raw | root => rfl

/-- An element that is searched keeps its tag, and its children are labelled. -/
theorem labelled_element {tag : Tag} (searched : ¬ IsSkipped tag) (children : List Html) :
    labelled (.element tag children) = [.element tag (labelList children)] := by
  rw [labelled, labelNode, if_neg fun skips => searched (isSkipped_iff.1 skips)]
  exact nofun

/-- Siblings are labelled in one way only, which is what the pass makes of them. -/
theorem labelList_of_labelled {siblings later : List Html} (relabelled : Labelled siblings later) :
    labelList siblings = later := by
  induction relabelled with
  | nil => rfl
  | kept same _ ih => rw [labelList_cons, labelled_of_isKept same, ih, List.singleton_append]
  | text nonempty segmented _ ih =>
    rw [labelList, ih, nodes_of_ne_nil nonempty, cut_eq_iff.2 segmented]
  | element searched _ _ below ih =>
    rw [labelList_cons, labelled_element searched, below, ih, List.singleton_append]

/-- The pass labels siblings as the relation says. -/
theorem labelled_labelList (siblings : List Html) : Labelled siblings (labelList siblings) := by
  -- Along the siblings, each node is kept or cut or has its own children labelled.
  have cons : ∀ node rest, (∀ tag children, node = .element tag children →
      Labelled children (labelList children)) → Labelled rest (labelList rest) →
      Labelled (node :: rest) (labelList (node :: rest)) := by
    intro node rest below others
    have kept (same : IsKept node) : Labelled (node :: rest) (labelList (node :: rest)) := by
      rw [labelList_cons, labelled_of_isKept same]
      exact .kept same others
    cases node with
    | text value =>
      by_cases empty : value = []
      · exact kept (empty ▸ .empty)
      · rw [labelList, nodes_of_ne_nil empty]
        exact .text empty (cut_eq_iff.1 rfl) others
    | element tag children =>
      by_cases skips : IsSkipped tag
      · exact kept (.skipped skips)
      · rw [labelList_cons, labelled_element skips]
        exact .element skips (below tag children rfl) others
    | comment value => exact kept .comment
    | raw value => exact kept .raw
    | root children => exact kept .root
  refine (Html.induction (P := fun node => ∀ tag children, node = .element tag children →
    Labelled children (labelList children)) (fun _ _ _ _ => nofun) ?_ (fun _ _ _ => nofun)
    (fun _ _ _ => nofun) (fun _ _ _ => nofun) .nil cons).2 siblings
  intro tag children below _ _ same
  obtain ⟨rfl, rfl⟩ := Html.element.inj same
  exact below

/-- Labelling keeps all text. -/
theorem textContentList_labelList (siblings : List Html) :
    Html.textContentList (labelList siblings) = Html.textContentList siblings := by
  refine (Html.induction (P := fun node => Html.textContentList (labelled node) = node.textContent)
    (Q := fun siblings => Html.textContentList (labelList siblings) = Html.textContentList siblings)
    (fun _ _ => List.append_nil _) ?_ textContent_nodes (fun _ => rfl) (fun _ => rfl) rfl
    ?_).2 siblings
  · intro tag children below
    by_cases skips : IsSkipped tag
    · rw [labelled_of_isKept (.skipped skips)]
      exact List.append_nil _
    · rw [labelled_element skips]
      exact (List.append_nil _).trans below
  · intro node rest own others
    rw [labelList_cons, Html.textContentList_append, own, others, Html.textContentList]

/-- Labelling emoji cuts each text that is not left alone at its emoji, from left to right and each
time with the longest emoji there, and changes nothing else; the text of the tree stays the same.
The longest emoji is found by trying so many characters first as the longest one has. -/
theorem labelTree_segments (children : List Html) :
    (∃ result, labelTree (.root children) = .root result ∧
      (∀ other, Labelled children other ↔ other = result) ∧
      (Html.root result).textContent = (Html.root children).textContent) ∧
    ∀ text emoji, Emoji.IsLongestAt text emoji ↔
      Emoji.searchWithin text (min text.length Emoji.lengthLimit) = some emoji := by
  refine ⟨⟨labelList children, rfl, fun other => ⟨fun relabelled => ?_, fun same => ?_⟩,
    textContentList_labelList children⟩, fun text emoji => ?_⟩
  · exact (labelList_of_labelled relabelled).symm
  · exact same ▸ labelled_labelList children
  · rw [← Emoji.longestAt?_eq_searchWithin, Emoji.longestAt?_eq_some_iff]

end Manuscript.EmojiLabel
