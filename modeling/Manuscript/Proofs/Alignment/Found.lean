import Manuscript.Proofs.Alignment.Reading

/-!
# What a tag that is found says of its block

A tag is found in a paragraph, either alone in it or at the start of its first text or the end of
its last (`readOpening_found`, `readClosing_found`). The paragraph has not been changed on the way.
`Encloses` puts this together for the blocks from an opening tag to the one that closes it.
-/

namespace Manuscript.Alignment

/-- A node is a text that holds a tag which is not escaped. -/
structure HoldsTag (stands : Marker → Text → Prop) (marker : Marker) (text : Node) : Prop where
  plain : text.data.escaped = false
  value : ∃ value, text.kind = .text value ∧ stands marker value

/-- Tags are held by texts only. -/
theorem HoldsTag.isText {stands : Marker → Text → Prop} {marker : Marker} {text : Node}
    (holds : HoldsTag stands marker text) : text.isText = true := by
  obtain ⟨value, kind, _⟩ := holds.value
  exact Node.isText_of_kind kind

/-- A list of nodes is a text with a tag and nothing else. -/
def HoldsAlone (marker : Marker) (nodes : List Node) : Prop :=
  ∃ text, nodes = [text] ∧ HoldsTag StandsAlone marker text

/-- The first text of a list of nodes begins with an opening tag. -/
def HoldsFirst (marker : Marker) (nodes : List Node) : Prop :=
  ∃ front text back, nodes = front ++ text :: back ∧ Textless front ∧
    HoldsTag StandsFirst marker text

/-- The last text of a list of nodes ends with a closing tag. -/
def HoldsLast (marker : Marker) (nodes : List Node) : Prop :=
  ∃ front text back, nodes = front ++ text :: back ∧ Textless back ∧
    HoldsTag StandsLast marker text

/-- Of a text without texts before it and any other text, the other one is the same or comes later.
-/
theorem eq_or_later {front back front' back' : List Node} {text text' : Node}
    (same : front ++ text :: back = front' ++ text' :: back') (textless : Textless front)
    (isText' : text'.isText = true) :
    (front = front' ∧ text = text' ∧ back = back') ∨
      ∃ middle, front' = front ++ text :: middle ∧ back = middle ++ text' :: back' := by
  rcases List.append_eq_append_iff.1 same with ⟨between, rfl, later⟩ | ⟨between, rfl, later⟩
  · cases between with
    | nil =>
      obtain ⟨rfl, rfl⟩ := List.cons.inj later
      exact .inl ⟨(List.append_nil front).symm, rfl, rfl⟩
    | cons node middle =>
      obtain ⟨rfl, rfl⟩ := List.cons.inj later
      exact .inr ⟨middle, rfl, rfl⟩
  · cases between with
    | nil =>
      obtain ⟨rfl, rfl⟩ := List.cons.inj later
      exact .inl ⟨List.append_nil front', rfl, rfl⟩
    | cons node middle =>
      obtain ⟨rfl, _⟩ := List.cons.inj later
      rw [textless text' (List.mem_append_right _ List.mem_cons_self)] at isText'
      cases isText'

/-- A block is a paragraph with a tag: alone in it, or in the place that `holds` says. -/
structure Carries (holds : Marker → List Node → Prop) (found : Found) (block : Node) : Prop where
  isParagraph : block.isParagraph = true
  tag : if found.alone then HoldsAlone found.marker block.children
    else holds found.marker block.children

/-- A tag that does not stand alone is in its place. -/
theorem Carries.beside {holds : Marker → List Node → Prop} {found : Found} {block : Node}
    (carries : Carries holds found block) (beside : found.alone = false) :
    holds found.marker block.children := by
  have tag := carries.tag
  rwa [beside, if_neg Bool.false_ne_true] at tag

/-- A tag that stands alone is all that its block holds. -/
theorem Carries.alone {holds : Marker → List Node → Prop} {found : Found} {block : Node}
    (carries : Carries holds found block) (alone : found.alone = true) :
    HoldsAlone found.marker block.children := by
  have tag := carries.tag
  rwa [if_pos alone] at tag

/-- A way of reading a list of nodes finds tags in the place that `holds` says, and changes nothing
when it does. -/
def FindsIn (read : List Node → List Node × Option Marker)
    (holds : Marker → List Node → Prop) : Prop :=
  ∀ {nodes marker}, (read nodes).2 = some marker →
    (read nodes).1 = nodes ∧ holds marker nodes ∧ ∃ text ∈ nodes, text.isText = true ∧
      text.data.escaped = false

/-- A tag that is read from a text is in it. -/
theorem Finds.holdsTag {read : Node → Node × Option Marker} {stands : Marker → Text → Prop}
    (finds : Finds read stands) {text : Node} {marker : Marker}
    (found : (read text).2 = some marker) : HoldsTag stands marker text := by
  obtain ⟨_, plain, value⟩ := finds.found found
  exact ⟨plain, value⟩

/-- A tag that is read from the first text is in it. -/
theorem exists_of_readFirst {read : Node → Node × Option Marker} {stands : Marker → Text → Prop}
    (finds : Finds read stands) {nodes : List Node} {marker : Marker}
    (found : (readFirst read nodes).2 = some marker) :
    (readFirst read nodes).1 = nodes ∧ ∃ front text back, nodes = front ++ text :: back ∧
      Textless front ∧ HoldsTag stands marker text := by
  induction nodes with
  | nil => cases found
  | cons node rest ih =>
    rw [readFirst] at found ⊢
    by_cases isText : node.isText = true
    · rw [if_pos isText] at found ⊢
      obtain ⟨same, _⟩ := finds.found found
      exact ⟨congrArg (· :: rest) same, [], node, rest, rfl, textless_nil, finds.holdsTag found⟩
    · rw [if_neg isText] at found ⊢
      obtain ⟨same, front, text, back, rfl, textless, holds⟩ := ih found
      exact ⟨congrArg (node :: ·) same, node :: front, text, back, rfl,
        textless.cons (Bool.eq_false_iff.2 isText), holds⟩

/-- An opening tag beside other text is found at the start of the first text. -/
theorem readFirst_findsIn (source : Text) : FindsIn (readFirst (readStart source)) HoldsFirst := by
  intro nodes marker found
  obtain ⟨same, front, text, back, rfl, textless, holds⟩ :=
    exists_of_readFirst (readStart_finds source) found
  exact ⟨same, ⟨front, text, back, rfl, textless, holds⟩, text, by simp, holds.isText, holds.plain⟩

/-- A closing tag beside other text is found at the end of the last text. -/
theorem readLast_findsIn (source : Text) : FindsIn (readLast (readEnd source)) HoldsLast := by
  intro nodes marker found
  have backwards : (readFirst (readEnd source) nodes.reverse).2 = some marker := found
  obtain ⟨same, front, text, back, whole, textless, holds⟩ :=
    exists_of_readFirst (readEnd_finds source) backwards
  have forwards : nodes = back.reverse ++ text :: front.reverse := by
    rw [← List.reverse_reverse nodes, whole]
    simp
  refine ⟨?_, ⟨back.reverse, text, front.reverse, forwards, textless.reverse, holds⟩, text,
    by simp [forwards], holds.isText, holds.plain⟩
  have forwards := congrArg List.reverse same
  rwa [List.reverse_reverse] at forwards

/-- A tag that is read from the only text stands alone in it. -/
theorem readOnly_findsIn (source : Text) : FindsIn (readOnly source) HoldsAlone := by
  intro nodes marker found
  unfold readOnly at found ⊢
  split at found
  · rename_i node
    have holds := (readAlone_finds source).holdsTag found
    obtain ⟨same, _⟩ := (readAlone_finds source).found found
    exact ⟨congrArg ([·]) same, ⟨node, rfl, holds⟩, node, by simp, holds.isText, holds.plain⟩
  · cases found

/-- Reading the only text settles nothing if there is a text left that is not escaped. -/
theorem readOnly_eq_of_plain {source : Text} {nodes : List Node} {text : Node}
    (member : text ∈ (readOnly source nodes).1) (isText : text.isText = true)
    (plain : text.data.escaped = false) : (readOnly source nodes).1 = nodes := by
  unfold readOnly at member ⊢
  split at member
  · rename_i node
    cases List.mem_singleton.1 member
    exact congrArg ([·]) (((readAlone_finds source).settles node).eq_of_plain plain)
  · rfl

/-- A tag that is found in a block is in it, and the block has not been changed. -/
theorem readBlock_found {source : Text} {read : List Node → List Node × Option Marker}
    {holds : Marker → List Node → Prop} (finds : FindsIn read holds) {block : Node} {tag : Found}
    (found : (readBlock source read block).2 = some tag) :
    (readBlock source read block).1 = block ∧ Carries holds tag block := by
  rw [readBlock] at found ⊢
  cases isParagraph : block.isParagraph with
  | false =>
    rw [isParagraph] at found
    cases found
  | true =>
    rw [isParagraph, if_pos rfl] at found
    rw [if_pos rfl]
    split at found
    · rename_i children marker only
      cases found
      obtain ⟨same, alone, _⟩ := readOnly_findsIn source (congrArg Prod.snd only)
      rw [only] at same
      cases same
      exact ⟨by cases block; rfl, isParagraph, alone⟩
    · rename_i children only
      obtain ⟨marker, reads, rfl⟩ := Option.map_eq_some_iff.1 found
      obtain ⟨same, beside, text, member, isText, plain⟩ := finds reads
      have unchanged : (readOnly source block.children).1 = block.children :=
        readOnly_eq_of_plain (by rwa [only]) isText plain
      rw [only] at unchanged
      cases unchanged
      refine ⟨?_, isParagraph, beside⟩
      dsimp only
      rw [same]
      cases block
      rfl

/-- An opening is a tag alone in a paragraph or at the start of its first text. -/
theorem readOpening_found {source : Text} {block : Node} {opening : Found}
    (found : (readOpening source block).2 = some opening) :
    (readOpening source block).1 = block ∧ Carries HoldsFirst opening block :=
  readBlock_found (readFirst_findsIn source) found

/-- A closing is a tag alone in a paragraph or at the end of its last text. -/
theorem readClosing_found {source : Text} {block : Node} {closing : Found}
    (found : (readClosing source block).2 = some closing) :
    passed source block = block ∧ Carries HoldsLast closing block :=
  readBlock_found (readLast_findsIn source) found

/-- A tag in its place was there before the escapes were settled. -/
def Stays (holds : Marker → List Node → Prop) : Prop :=
  ∀ {marker nodes others}, SettlesList nodes others → holds marker others → holds marker nodes

/-- A tag that stands alone still does when the escapes are settled. -/
theorem holdsAlone_stays : Stays HoldsAlone := by
  rintro marker nodes _ settles ⟨text, rfl, holds⟩
  obtain ⟨node, rfl, own⟩ := forall₂_singleton settles
  rw [← own.eq_of_plain holds.plain]
  exact ⟨text, rfl, holds⟩

/-- An opening tag still stands first when the escapes are settled. -/
theorem holdsFirst_stays : Stays HoldsFirst := by
  rintro marker nodes _ settles ⟨front, text, back, rfl, textless, holds⟩
  obtain ⟨front', back', rfl, before, _⟩ := settles.split_plain holds.plain
  exact ⟨front', text, back', rfl, before.textless_iff.2 textless, holds⟩

/-- A closing tag still stands last when the escapes are settled. -/
theorem holdsLast_stays : Stays HoldsLast := by
  rintro marker nodes _ settles ⟨front, text, back, rfl, textless, holds⟩
  obtain ⟨front', back', rfl, _, after⟩ := settles.split_plain holds.plain
  exact ⟨front', text, back', rfl, after.textless_iff.2 textless, holds⟩

/-- A tag that is found in a block was there before the block was met. -/
theorem Carries.of_met {holds : Marker → List Node → Prop} {found : Found} {original block : Node}
    (carries : Carries holds found block) (met : Met original block) (stays : Stays holds) :
    Carries holds found original := by
  have isParagraph := met.isParagraph.symm.trans carries.isParagraph
  obtain ⟨_, settles⟩ := met.eq_of_isParagraph isParagraph
  refine ⟨isParagraph, ?_⟩
  have tag := carries.tag
  split at tag
  · rename_i alone
    rw [if_pos alone]
    exact holdsAlone_stays settles tag
  · rename_i beside
    rw [if_neg beside]
    exact stays settles tag

/-- What is wrapped at a turn: the blocks `front` and `last`, of which the first is read as an
opening and the last as what closes it. Only the blocks between them are changed on the way. -/
structure Encloses (source : Text) (opening closing : Found) (block : Node) (front : List Node)
    (last : Node) : Prop where
  /-- The first block. -/
  first : ∃ between, front ++ [last] = block :: between
  /-- It is read as an opening. -/
  opens : (readOpening source block).2 = some opening
  /-- It is not a closing tag that stands alone. -/
  notClosing : opening.marker.closing = false
  /-- The last block is the first to close it. -/
  closed : ClosesAt source opening true front last closing

/-- What is found in a block stands alone exactly when it is read from the only text. -/
theorem alone_of_readBlock {source : Text} {read : List Node → List Node × Option Marker}
    {block : Node} {tag : Found} (found : (readBlock source read block).2 = some tag) :
    tag.alone = (readOnly source block.children).2.isSome := by
  rw [readBlock] at found
  split at found
  · split at found
    · rename_i only
      cases found
      rw [only]
      rfl
    · rename_i only
      obtain ⟨_, _, rfl⟩ := Option.map_eq_some_iff.1 found
      rw [only]
      rfl
  · cases found

/-- When a range is one block, neither tag stands alone in it. -/
theorem Encloses.beside {source : Text} {opening closing : Found} {block : Node}
    (encloses : Encloses source opening closing block [] block) :
    opening.alone = false ∧ closing.alone = false := by
  have same : opening.alone = closing.alone :=
    (alone_of_readBlock encloses.opens).trans (alone_of_readBlock encloses.closed.reads).symm
  have closes := encloses.closed.closes
  rw [Alignment.closes, same] at closes
  rw [same]
  simpa using (Bool.and_eq_true_iff.1 closes).2

end Manuscript.Alignment
