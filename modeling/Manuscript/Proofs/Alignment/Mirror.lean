import Manuscript.Proofs.Alignment.Reading

/-!
# Documents that are aligned alike

A document mirrors another if it has the same blocks, with the same ends of its paragraphs, and any
text between them has only been cut into several pieces. The pass over aligned blocks takes the same
step on both (`step_mirror`) and leaves what again mirrors each other, so that it wraps the same
blocks of both (`wraps_mirror`).
-/

namespace Manuscript.Alignment

/-- A list of nodes mirrors another: it has the same blocks, and one or more pieces of text in place
of each piece of text. -/
inductive Mirror : List Node → List Node → Prop
  | nil : Mirror [] []
  /-- A piece of text for a piece of text. -/
  | word {node piece : Node} {rest others : List Node} (wording : isWording node = true)
      (wording' : isWording piece = true) (later : Mirror rest others) :
      Mirror (node :: rest) (piece :: others)
  /-- One more piece of text for a piece of text. -/
  | more {node piece : Node} {rest others : List Node} (wording : isWording node = true)
      (wording' : isWording piece = true) (later : Mirror (node :: rest) others) :
      Mirror (node :: rest) (piece :: others)
  /-- A block for a block. -/
  | block {block image : Node} {rest others : List Node} (isBlock : isWording block = false)
      (sameKind : image.kind = block.kind)
      (ends : block.isParagraph = true → SameEnds block.children image.children)
      (below : Mirror block.children image.children) (later : Mirror rest others) :
      Mirror (block :: rest) (image :: others)

/-- Two blocks are the same to the pass. -/
structure Twin (block image : Node) : Prop where
  isBlock : isWording block = false
  sameKind : image.kind = block.kind
  ends : block.isParagraph = true → SameEnds block.children image.children
  below : Mirror block.children image.children

/-- A list in which only pieces of text differ from those of another. -/
def Reworded : List Node → List Node → Prop :=
  List.Forall₂ fun node other => node = other ∨ isWording node = true ∧ isWording other = true

/-- A piece of text is only changed to a piece of text. -/
theorem isWording_of_reworded {node other : Node} (wording : isWording node = true)
    (own : node = other ∨ isWording node = true ∧ isWording other = true) :
    isWording other = true := by
  rcases own with rfl | both
  · exact wording
  · exact both.2

/-- A block is not changed. -/
theorem eq_of_reworded {node other : Node} (isBlock : isWording node = false)
    (own : node = other ∨ isWording node = true ∧ isWording other = true) : node = other :=
  own.resolve_right fun both => by
    rw [isBlock] at both
    exact Bool.false_ne_true both.1

/-- Changing pieces of text keeps the mirror. -/
theorem Mirror.reworded {nodes others nodes' others' : List Node} (mirror : Mirror nodes others)
    (changed : Reworded nodes nodes') (changed' : Reworded others others') :
    Mirror nodes' others' := by
  induction mirror generalizing nodes' others' with
  | nil =>
    cases changed
    cases changed'
    exact .nil
  | word wording wording' later ih =>
    cases changed with
    | cons own rest =>
      cases changed' with
      | cons own' rest' =>
        exact .word (isWording_of_reworded wording own) (isWording_of_reworded wording' own')
          (ih rest rest')
  | more wording wording' later ih =>
    cases changed' with
    | cons own' rest' =>
      have left := ih changed rest'
      cases changed with
      | cons own rest =>
        exact .more (isWording_of_reworded wording own) (isWording_of_reworded wording' own') left
  | @block block image rest others isBlock sameKind ends below later _ ih =>
    cases changed with
    | cons own rest =>
      cases changed' with
      | cons own' rest' =>
        have same := eq_of_reworded isBlock own
        have same' := eq_of_reworded (by rw [isWording_congr sameKind, isBlock]) own'
        subst same same'
        exact .block isBlock sameKind ends below (ih rest rest')

/-- A list has itself only reworded. -/
theorem Reworded.refl (nodes : List Node) : Reworded nodes nodes :=
  List.forall₂_same.2 fun _ _ => .inl rfl

/-- A text is a piece of text. -/
theorem isWording_of_isText {node : Node} (isText : node.isText = true) :
    isWording node = true := by
  rw [Node.isText, Node.textValue?] at isText
  rw [isWording]
  split at isText
  · simp_all
  · cases isText

/-- Settling escapes changes only pieces of text. -/
theorem SettlesList.reworded {nodes others : List Node} (settles : SettlesList nodes others) :
    Reworded nodes others := by
  refine settles.imp fun node other own => ?_
  cases isText : node.isText with
  | true =>
    have isText' := own.isText.trans isText
    exact .inr ⟨isWording_of_isText isText, isWording_of_isText isText'⟩
  | false => exact .inl (own.eq_of_not_isText isText).symm

/-- Meeting a block changes only pieces of text in it. -/
theorem Met.reworded {block other : Node} (met : Met block other) :
    Reworded block.children other.children := by
  cases met with
  | settled settles =>
    rw [settles.children]
    exact Reworded.refl _
  | paragraph _ settles => exact settles.reworded

/-- Reading a marker from blocks that are the same to the pass gives the same, and they are still
the same to it. -/
theorem Twin.readBlock {source : Text} {read : List Node → List Node × Option Marker}
    {ofEnds : Ends → Ends × Option Marker} (settles : ∀ nodes, SettlesList nodes (read nodes).1)
    (reads : ∀ clear, ReadsEnds read clear ofEnds) {block image : Node} (twin : Twin block image) :
    (readBlock source read block).2 = (readBlock source read image).2 ∧
      Twin (readBlock source read block).1 (readBlock source read image).1 := by
  have below := twin.below.reworded (readBlock_met source settles block).reworded
    (readBlock_met source settles image).reworded
  have kind := kind_readBlock source read block
  have kind' := kind_readBlock source read image
  have isBlock : isWording (Alignment.readBlock source read block).1 = false := by
    rw [isWording_congr kind, twin.isBlock]
  have sameKind : (Alignment.readBlock source read image).1.kind =
      (Alignment.readBlock source read block).1.kind := by rw [kind, kind', twin.sameKind]
  by_cases isParagraph : block.isParagraph = true
  · have isParagraph' : image.isParagraph = true := by
      rwa [Node.isParagraph, twin.sameKind]
    obtain ⟨marker, ends⟩ := @SameEnds.readBlock source read ofEnds reads block image isParagraph
      isParagraph' (twin.ends isParagraph)
    exact ⟨marker, isBlock, sameKind, fun _ => ends, below⟩
  · have other : block.isParagraph = false := Bool.eq_false_iff.2 isParagraph
    have other' : image.isParagraph = false := by rwa [Node.isParagraph, twin.sameKind]
    rw [readBlock_of_not_paragraph other, readBlock_of_not_paragraph other']
    exact ⟨rfl, twin⟩

/-- The same opening is read from blocks that are the same to the pass. -/
theorem Twin.opening {block image : Node} (twin : Twin block image) (source : Text) :
    (readOpening source block).2 = (readOpening source image).2 ∧
      Twin (readOpening source block).1 (readOpening source image).1 :=
  twin.readBlock (readFirst_settles (readStart_finds source))
    (readFirst_readsEnds (readStart_keepsText source))

/-- The same closing is read from blocks that are the same to the pass. -/
theorem Twin.closing {block image : Node} (twin : Twin block image) (source : Text) :
    (readClosing source block).2 = (readClosing source image).2 ∧
      Twin (readClosing source block).1 (readClosing source image).1 :=
  twin.readBlock (readLast_settles (readEnd_finds source))
    (readLast_readsEnds (readEnd_keepsText source))

/-- Blocks that are the same to the pass go before lists that mirror each other. -/
theorem Twin.cons {block image : Node} (twin : Twin block image) {rest others : List Node}
    (later : Mirror rest others) : Mirror (block :: rest) (image :: others) :=
  .block twin.isBlock twin.sameKind twin.ends twin.below later

/-- Passing over a piece of text changes nothing. -/
theorem readClosing_of_isWording {source : Text} {node : Node} (wording : isWording node = true) :
    readClosing source node = (node, none) :=
  readBlock_of_not_paragraph (not_paragraph_of_isWording wording)

/-- A piece of text stays what it is. -/
theorem passed_of_isWording {source : Text} {node : Node} (wording : isWording node = true) :
    passed source node = node := by
  rw [passed, readClosing_of_isWording wording]

/-- Passing over blocks keeps the mirror. -/
theorem Mirror.map_passed {nodes others : List Node} (mirror : Mirror nodes others)
    (source : Text) : Mirror (nodes.map (passed source)) (others.map (passed source)) := by
  induction mirror with
  | nil => exact .nil
  | word wording wording' _ ih =>
    rw [List.map_cons, List.map_cons, passed_of_isWording wording, passed_of_isWording wording']
    exact .word wording wording' ih
  | more wording wording' _ ih =>
    rw [List.map_cons, passed_of_isWording wording] at ih ⊢
    rw [List.map_cons, passed_of_isWording wording']
    exact .more wording wording' ih
  | block isBlock sameKind ends below _ _ ih =>
    exact (Twin.closing ⟨isBlock, sameKind, ends, below⟩ source).2.cons ih

/-- Lists that mirror each other have as many blocks. -/
theorem Mirror.blockCount {nodes others : List Node} (mirror : Mirror nodes others) :
    blockCount nodes = blockCount others := by
  induction mirror with
  | nil => rfl
  | word wording wording' _ ih => rw [blockCount_cons, blockCount_cons, wording, wording', ih]
  | more wording wording' _ ih => rw [ih, blockCount_cons _ (_ : List Node), wording']; simp
  | block isBlock sameKind _ _ _ _ ih =>
    rw [blockCount_cons, blockCount_cons, isWording_congr sameKind, ih]

/-- A list that mirrors another is no shorter. -/
theorem Mirror.length_le {nodes others : List Node} (mirror : Mirror nodes others) :
    nodes.length ≤ others.length := by
  induction mirror with
  | nil => exact Nat.le_refl _
  | word _ _ _ ih => exact Nat.succ_le_succ ih
  | more _ _ _ ih => exact Nat.le_succ_of_le ih
  | block _ _ _ _ _ _ ih => exact Nat.succ_le_succ ih

/-- Whether a block that begins with an opening tag is left without it. -/
def keepsOpening (opening : Found) (block : Node) : Bool :=
  !(opening.alone ||
    isBlankParagraph { block with children := stripStart opening.marker.tag block.children })

/-- Whether a block that ends with a closing tag is left without it. -/
def keepsClosing (closing : Found) (block : Node) : Bool :=
  !(closing.alone ||
    isBlankParagraph { block with children := stripEnd closing.marker.tag block.children })

/-- Dropping the opening tag takes at most the first block. -/
theorem dropOpening_cons (opening : Found) (block : Node) (rest : List Node) :
    dropOpening opening (block :: rest) =
      if keepsOpening opening block then
        { block with children := stripStart opening.marker.tag block.children } :: rest
      else rest := by
  rw [dropOpening, keepsOpening]
  cases opening.alone with
  | true => rfl
  | false =>
    by_cases blank : isBlankParagraph
        { block with children := stripStart opening.marker.tag block.children } = true <;>
      simp [blank]

/-- Dropping the closing tag takes at most the last block. -/
theorem dropClosing_concat (closing : Found) (front : List Node) (last : Node) :
    dropClosing closing (front ++ [last]) =
      front ++ if keepsClosing closing last then
        [{ last with children := stripEnd closing.marker.tag last.children }] else [] := by
  rw [dropClosing, List.getLast?_concat, keepsClosing]
  simp only [List.dropLast_concat]
  cases closing.alone with
  | true => simp
  | false =>
    by_cases blank : isBlankParagraph
        { last with children := stripEnd closing.marker.tag last.children } = true <;>
      simp [blank]

/-- Blocks are wrapped if something is left of them. -/
theorem isSome_wrap? (options : AlignOptions) (opening closing : Found) (blocks : List Node) :
    (wrap? options opening closing blocks).isSome =
      !(dropClosing closing (dropOpening opening blocks)).isEmpty := by
  rw [wrap?]
  cases (dropClosing closing (dropOpening opening blocks)).isEmpty <;> rfl

/-- One block is wrapped if something is left of it. -/
theorem isSome_wrap?_single (options : AlignOptions) (opening closing : Found) (block : Node) :
    (wrap? options opening closing [block]).isSome =
      (keepsOpening opening block && keepsClosing closing
        { block with children := stripStart opening.marker.tag block.children }) := by
  rw [isSome_wrap?, dropOpening_cons]
  cases keepsOpening opening block with
  | false => rfl
  | true =>
    have left := dropClosing_concat closing []
      { block with children := stripStart opening.marker.tag block.children }
    rw [List.nil_append, List.nil_append] at left
    rw [if_pos rfl, left, Bool.true_and]
    split <;> simp_all

/-- Two blocks are wrapped if something is left of one of them. -/
theorem isSome_wrap?_pair (options : AlignOptions) (opening closing : Found) (block last : Node) :
    (wrap? options opening closing [block, last]).isSome =
      (keepsOpening opening block || keepsClosing closing last) := by
  have alone := dropClosing_concat closing [] last
  have both := dropClosing_concat closing
    [{ block with children := stripStart opening.marker.tag block.children }] last
  rw [List.nil_append, List.nil_append] at alone
  rw [List.singleton_append] at both
  rw [isSome_wrap?, dropOpening_cons]
  cases keepsOpening opening block with
  | false =>
    rw [if_neg Bool.false_ne_true, alone, Bool.false_or]
    split <;> simp_all
  | true =>
    rw [if_pos rfl, both]
    rfl

/-- Three or more blocks are wrapped. -/
theorem isSome_wrap?_of_length (options : AlignOptions) (opening closing : Found) (block : Node)
    {rest : List Node} (several : 2 ≤ rest.length) :
    (wrap? options opening closing (block :: rest)).isSome = true := by
  obtain ⟨front, last, rfl⟩ : ∃ front last, rest = front ++ [last] :=
    ⟨rest.dropLast, rest.getLast (by rintro rfl; simp at several),
      (List.dropLast_append_getLast _).symm⟩
  have nonempty : front ≠ [] := by
    rintro rfl
    simp at several
  have left : ∀ blocks : List Node, (dropClosing closing (blocks ++ (front ++ [last]))).isEmpty =
      false := by
    intro blocks
    rw [← List.append_assoc, dropClosing_concat]
    simp [nonempty]
  rw [isSome_wrap?, dropOpening_cons]
  split
  · exact congrArg not (left [_])
  · exact congrArg not (left [])

/-- Two blocks that are the same to the pass are blank paragraphs alike, with any of their children
that are blank alike. -/
theorem Twin.isBlankParagraph {block image : Node} (twin : Twin block image)
    {children others : List Node}
    (alike : ∀ ends clear, Shape block.children ends clear → Shape image.children ends clear →
      isBlankList children = isBlankList others) :
    isBlankParagraph { block with children } =
      isBlankParagraph { image with children := others } := by
  have same : image.isParagraph = block.isParagraph := by
    rw [Node.isParagraph, Node.isParagraph, twin.sameKind]
  have view : ∀ (node : Node) (children : List Node),
      Alignment.isBlankParagraph { node with children } =
        (node.isParagraph && isBlankList children) := fun _ _ => rfl
  rw [view, view, same]
  cases isParagraph : block.isParagraph with
  | false => rfl
  | true =>
    obtain ⟨ends, clear, shape, shape'⟩ := twin.ends isParagraph
    rw [alike ends clear shape shape']

/-- The same is kept of opening blocks that are the same to the pass. -/
theorem Twin.keepsOpening {block image : Node} (twin : Twin block image) (opening : Found) :
    keepsOpening opening block = keepsOpening opening image := by
  let strip := stripStart opening.marker.tag
  have blank := @Twin.isBlankParagraph _ _ twin (strip block.children) (strip image.children)
    fun ends clear shape shape' => by rw [shape.isBlankStart, shape'.isBlankStart]
  rw [Alignment.keepsOpening, Alignment.keepsOpening, blank]

/-- The same is kept of closing blocks that are the same to the pass. -/
theorem Twin.keepsClosing {block image : Node} (twin : Twin block image) (closing : Found) :
    keepsClosing closing block = keepsClosing closing image := by
  let strip := stripEnd closing.marker.tag
  have blank := @Twin.isBlankParagraph _ _ twin (strip block.children) (strip image.children)
    fun ends clear shape shape' => by rw [shape.isBlankEnd, shape'.isBlankEnd]
  rw [Alignment.keepsClosing, Alignment.keepsClosing, blank]

/-- The same is kept of blocks that open and close, if they are the same to the pass. -/
theorem Twin.keepsBoth {block image : Node} (twin : Twin block image) (opening closing : Found) :
    Alignment.keepsClosing closing
        { block with children := stripStart opening.marker.tag block.children } =
      Alignment.keepsClosing closing
        { image with children := stripStart opening.marker.tag image.children } := by
  let strip := fun nodes => stripEnd closing.marker.tag (stripStart opening.marker.tag nodes)
  have blank := @Twin.isBlankParagraph _ _ twin (strip block.children) (strip image.children)
    fun ends clear shape shape' => by rw [shape.isBlankWithin, shape'.isBlankWithin]
  rw [Alignment.keepsClosing, Alignment.keepsClosing]
  exact congrArg (fun blank => !(closing.alone || blank)) blank

/-- A block at the end of a list that mirrors another alone stands there alone. -/
theorem Mirror.single {block : Node} {others : List Node} (mirror : Mirror [block] others)
    (isBlock : isWording block = false) : ∃ image, others = [image] ∧ Twin block image := by
  cases mirror with
  | word wording => rw [isBlock] at wording; cases wording
  | more wording => rw [isBlock] at wording; cases wording
  | block isBlock sameKind ends below later =>
    cases later
    exact ⟨_, rfl, isBlock, sameKind, ends, below⟩

/-- Something is left of blocks exactly when it is of blocks that are the same to the pass. -/
theorem isSome_wrap?_mirror (options : AlignOptions) (opening closing : Found)
    {block image : Node} {rest others : List Node} (twin : Twin block image)
    (later : Mirror rest others)
    (last : ∀ node, rest = [node] → isWording node = false) :
    (wrap? options opening closing (block :: rest)).isSome =
      (wrap? options opening closing (image :: others)).isSome := by
  match rest, later with
  | [], .nil =>
    rw [isSome_wrap?_single, isSome_wrap?_single, twin.keepsOpening, twin.keepsBoth]
  | [node], later =>
    obtain ⟨image', rfl, twin'⟩ := later.single (last node rfl)
    rw [isSome_wrap?_pair, isSome_wrap?_pair, twin.keepsOpening, twin'.keepsClosing]
  | first :: second :: rest, later =>
    have several := later.length_le
    simp only [List.length_cons] at several
    rw [isSome_wrap?_of_length _ _ _ _ (by simp), isSome_wrap?_of_length _ _ _ _ (by omega)]

/-- Two searches for a closing tag come to the same. -/
inductive SameClosing : Option (List Node × Found × List Node) →
    Option (List Node × Found × List Node) → Prop
  | none : SameClosing none none
  | some {blocks images after others : List Node} (closing : Found) (same : Mirror blocks images)
      (later : Mirror after others)
      (last : ∃ front node, blocks = front ++ [node] ∧ isWording node = false) :
      SameClosing (some (blocks, closing, after)) (some (images, closing, others))

/-- The search for a closing tag goes over a piece of text. -/
theorem findClosing?_of_isWording {source : Text} {opening : Found} {node : Node}
    (wording : isWording node = true) (rest : List Node) :
    findClosing? source opening false (node :: rest) =
      (findClosing? source opening false rest).map fun (blocks, closing, after) =>
        (node :: blocks, closing, after) := by
  rw [findClosing?, readClosing_of_isWording wording, passed_of_isWording wording]
  rfl

/-- A search that passes over a block comes to the same as one that passes over its image. -/
theorem SameClosing.cons {search search' : Option (List Node × Found × List Node)}
    (same : SameClosing search search') {block image : Node}
    (first : ∀ {blocks images : List Node}, Mirror blocks images →
      Mirror (block :: blocks) (image :: images)) :
    SameClosing (search.map fun (blocks, closing, after) => (block :: blocks, closing, after))
      (search'.map fun (blocks, closing, after) => (image :: blocks, closing, after)) := by
  cases same with
  | none => exact .none
  | some closing same later last =>
    obtain ⟨front, node, rfl, isBlock⟩ := last
    exact .some closing (first same) later ⟨block :: front, node, rfl, isBlock⟩

/-- The block that closes an opening tag is the same in lists that mirror each other. -/
theorem findClosing?_mirror {source : Text} {opening : Found} {nodes others : List Node}
    (mirror : Mirror nodes others) :
    SameClosing (findClosing? source opening false nodes)
      (findClosing? source opening false others) := by
  induction mirror with
  | nil => exact .none
  | word wording wording' _ ih =>
    rw [findClosing?_of_isWording wording, findClosing?_of_isWording wording']
    exact ih.cons (.word wording wording')
  | @more node piece rest others wording wording' _ ih =>
    rw [findClosing?_of_isWording wording'] at ⊢
    rw [findClosing?_of_isWording wording] at ih ⊢
    generalize findClosing? source opening false others = search' at ih
    generalize findClosing? source opening false rest = search at ih
    cases search with
    | none =>
      cases ih
      exact .none
    | some result =>
      obtain ⟨blocks, closing, after⟩ := result
      cases ih with
      | some _ same later last => exact .some _ (.more wording wording' same) later last
  | @block block image rest others isBlock sameKind ends below later _ ih =>
    have twin : Twin block image := ⟨isBlock, sameKind, ends, below⟩
    obtain ⟨reads, passed⟩ := twin.closing source
    rw [findClosing?, findClosing?, ← reads]
    split
    · exact .some _ (passed.cons .nil) later ⟨[], _, rfl, passed.isBlock⟩
    · exact ih.cons passed.cons

/-- Two steps do the same. -/
inductive SameStep : Step → Step → Prop
  | wrapped {wrapper image : Option Node} {after others : List Node}
      (both : wrapper.isSome = image.isSome) (later : Mirror after others) :
      SameStep (.wrapped wrapper after) (.wrapped image others)
  | kept {block image : Node} {rest others : List Node} (twin : Twin block image)
      (later : Mirror rest others) : SameStep (.kept block rest) (.kept image others)

/-- The pass takes the same step on lists that mirror each other. -/
theorem step_mirror (options : AlignOptions) (source : Text) {block image : Node}
    {rest others : List Node} (twin : Twin block image) (later : Mirror rest others) :
    SameStep (step options source block rest) (step options source image others) := by
  obtain ⟨reads, opened⟩ := twin.opening source
  obtain ⟨readsEnd, passed⟩ := opened.closing source
  rw [step, step, ← reads]
  split
  · exact .kept opened later
  · rename_i opening _
    -- The first block closes itself, or the search goes on in lists that mirror each other.
    rw [findClosing?, findClosing?, ← readsEnd]
    cases (readClosing source (readOpening source block).1).2.filter (closes opening true) with
    | some closing =>
      refine .wrapped ?_ later
      exact isSome_wrap?_mirror options opening closing passed .nil (by simp)
    | none =>
      have search := @findClosing?_mirror source opening _ _ later
      dsimp only
      generalize findClosing? source opening false rest = found at search
      generalize findClosing? source opening false others = found' at search
      cases search with
      | none => exact .kept passed (later.map_passed source)
      | some closing same after last =>
        obtain ⟨front, node, whole, isBlock⟩ := last
        refine .wrapped (isSome_wrap?_mirror options opening closing passed same ?_) after
        rintro only rfl
        cases front with
        | nil => cases whole; exact isBlock
        | cons _ front => simp at whole

section

variable (options : AlignOptions) (source : Text)

/-- The passes over two lists of siblings wrap the same blocks, and those that both keep mirror each
other. -/
structure SameTurns (position : Nat) (nodes others : List Node) : Prop where
  wraps : ∀ first stop, WrapsFrom options source position nodes first stop ↔
    WrapsFrom options source position others first stop
  keeps : ∀ index children, KeepsFrom options source position nodes index children →
    ∃ images, KeepsFrom options source position others index images ∧ Mirror children images
  keeps' : ∀ index images, KeepsFrom options source position others index images →
    ∃ children, KeepsFrom options source position nodes index children ∧ Mirror children images

end

variable {options : AlignOptions} {source : Text} {position : Nat}

/-- The step over a piece of text keeps it. -/
theorem step_of_isWording {node : Node} (wording : isWording node = true) (rest : List Node) :
    step options source node rest = .kept node rest := by
  have unread : readOpening source node = (node, none) :=
    readBlock_of_not_paragraph (not_paragraph_of_isWording wording)
  rw [step, unread]
  rfl

/-- After a piece of text the pass goes on as if it had not been there. -/
theorem turns_of_isWording {node : Node} (wording : isWording node = true) (rest : List Node) :
    turns options source position (node :: rest) =
      { position, block := node, rest } :: turns options source position rest := by
  have left : Turn.next options source { position, block := node, rest } = rest := by
    rw [Turn.next, step_of_isWording wording]
  have here : Turn.stop options source { position, block := node, rest } = position := by
    rw [Turn.stop, left, blockCount_cons, wording]
    simp
  rw [turns, left, here]

/-- The turn at a piece of text wraps nothing. -/
theorem wrapsFrom_of_isWording {node : Node} (wording : isWording node = true) (rest : List Node)
    (first stop : Nat) :
    WrapsFrom options source position (node :: rest) first stop ↔
      WrapsFrom options source position rest first stop := by
  rw [WrapsFrom, turns_of_isWording wording]
  constructor
  · rintro ⟨turn, member, wrapper, after, taken, place⟩
    rcases List.mem_cons.1 member with rfl | later
    · rw [step_of_isWording wording] at taken
      cases taken
    · exact ⟨turn, later, wrapper, after, taken, place⟩
  · rintro ⟨turn, member, taken⟩
    exact ⟨turn, List.mem_cons_of_mem _ member, taken⟩

/-- The turn at a piece of text keeps no block. -/
theorem keepsFrom_of_isWording {node : Node} (wording : isWording node = true) (rest : List Node)
    (index : Nat) (children : List Node) :
    KeepsFrom options source position (node :: rest) index children ↔
      KeepsFrom options source position rest index children := by
  rw [KeepsFrom, turns_of_isWording wording]
  constructor
  · rintro ⟨turn, member, kept, left, taken, rfl, inside, below⟩
    rcases List.mem_cons.1 member with rfl | later
    · have left : Turn.next options source { position, block := node, rest } = rest := by
        rw [Turn.next, step_of_isWording wording]
      rw [Turn.stop, left, blockCount_cons, wording] at inside
      simp at inside
    · exact ⟨turn, later, kept, left, taken, rfl, inside, below⟩
  · rintro ⟨turn, member, kept⟩
    exact ⟨turn, List.mem_cons_of_mem _ member, kept⟩

/-- A piece of text before the siblings makes no difference. -/
theorem sameTurns_of_isWording_left {node : Node} (wording : isWording node = true)
    {rest others : List Node} :
    SameTurns options source position (node :: rest) others ↔
      SameTurns options source position rest others := by
  constructor
  · intro same
    exact {
      wraps := fun first stop => by
        rw [← wrapsFrom_of_isWording wording]
        exact same.wraps first stop
      keeps := fun index children kept =>
        same.keeps index children ((keepsFrom_of_isWording wording _ _ _).2 kept)
      keeps' := fun index images kept => by
        obtain ⟨children, own, mirror⟩ := same.keeps' index images kept
        exact ⟨children, (keepsFrom_of_isWording wording _ _ _).1 own, mirror⟩ }
  · intro same
    exact {
      wraps := fun first stop => by
        rw [wrapsFrom_of_isWording wording]
        exact same.wraps first stop
      keeps := fun index children kept =>
        same.keeps index children ((keepsFrom_of_isWording wording _ _ _).1 kept)
      keeps' := fun index images kept => by
        obtain ⟨children, own, mirror⟩ := same.keeps' index images kept
        exact ⟨children, (keepsFrom_of_isWording wording _ _ _).2 own, mirror⟩ }

/-- A piece of text before the other siblings makes no difference. -/
theorem SameTurns.more {piece : Node} (wording : isWording piece = true) {nodes others : List Node}
    (same : SameTurns options source position nodes others) :
    SameTurns options source position nodes (piece :: others) where
  wraps first stop := by
    rw [wrapsFrom_of_isWording wording]
    exact same.wraps first stop
  keeps index children kept := by
    obtain ⟨images, own, mirror⟩ := same.keeps index children kept
    exact ⟨images, (keepsFrom_of_isWording wording _ _ _).2 own, mirror⟩
  keeps' index images kept :=
    same.keeps' index images ((keepsFrom_of_isWording wording _ _ _).1 kept)

/-- A step wraps blocks when one that does the same does. -/
theorem SameStep.wraps {first second : Step} (same : SameStep first second) :
    (∃ wrapper after, first = .wrapped (some wrapper) after) ↔
      ∃ wrapper after, second = .wrapped (some wrapper) after := by
  cases same with
  | @wrapped wrapper image after others both later =>
    cases wrapper <;> cases image <;> simp_all
  | kept twin later => simp

/-- The passes do the same from blocks on that are the same to them, if they do what is left after
the turns at them. -/
theorem sameTurns_cons {block image : Node} {rest others : List Node} (twin : Twin block image)
    (later : Mirror rest others) :
    let turn : Turn := { position, block, rest }
    let turn' : Turn := { position, block := image, rest := others }
    blockCount (turn.next options source) = blockCount (turn'.next options source) →
    SameTurns options source (turn.stop options source) (turn.next options source)
      (turn'.next options source) →
    SameTurns options source position (block :: rest) (image :: others) := by
  intro turn turn' left same
  have steps := step_mirror options source twin later
  have stops : turn.stop options source = turn'.stop options source := by
    rw [Turn.stop, Turn.stop, left]
    exact congrArg (fun all => position + (all - _)) (twin.cons later).blockCount
  exact {
    wraps := by
      intro first stop
      refine wrapsFrom_cons.trans (Iff.trans ?_ wrapsFrom_cons.symm)
      refine or_congr ?_ (by rw [← stops]; exact same.wraps first stop)
      have wraps := steps.wraps
      constructor
      · rintro ⟨wrapper, after, taken, place⟩
        obtain ⟨wrapper', after', taken'⟩ := wraps.1 ⟨wrapper, after, taken⟩
        exact ⟨wrapper', after', taken', by rwa [← stops]⟩
      · rintro ⟨wrapper, after, taken, place⟩
        obtain ⟨wrapper', after', taken'⟩ := wraps.2 ⟨wrapper, after, taken⟩
        exact ⟨wrapper', after', taken', by rwa [stops]⟩
    keeps := by
      intro index children keeps
      rcases keepsFrom_cons.1 keeps with ⟨kept, left, taken, place, inside, rfl⟩ | further
      · generalize images : step options source image others = theirs at steps
        rw [taken] at steps
        cases steps with
        | kept twin later =>
          exact ⟨_, keepsFrom_cons.2 (.inl ⟨_, _, images, place, by rwa [← stops], rfl⟩),
            twin.below⟩
      · obtain ⟨images, own, mirror⟩ := same.keeps index children further
        exact ⟨images, keepsFrom_cons.2 (.inr (by rwa [stops] at own)), mirror⟩
    keeps' := by
      intro index images keeps
      rcases keepsFrom_cons.1 keeps with ⟨kept, left, taken, place, inside, rfl⟩ | further
      · generalize blocks : step options source block rest = own at steps
        rw [taken] at steps
        cases steps with
        | kept twin later =>
          exact ⟨_, keepsFrom_cons.2 (.inl ⟨_, _, blocks, place, by rwa [stops], rfl⟩),
            twin.below⟩
      · obtain ⟨children, own, mirror⟩ :=
          same.keeps' index images (by rwa [stops])
        exact ⟨children, keepsFrom_cons.2 (.inr own), mirror⟩ }

/-- Nothing is done to no siblings. -/
theorem sameTurns_nil : SameTurns options source position [] [] where
  wraps _ _ := Iff.rfl
  keeps _ _ kept := by
    obtain ⟨turn, member, _⟩ := kept
    rw [turns] at member
    cases member
  keeps' _ _ kept := by
    obtain ⟨turn, member, _⟩ := kept
    rw [turns] at member
    cases member

/-- Without their first nodes, lists still mirror each other, unless the first node is a piece of
text that was cut. -/
theorem Mirror.tail {nodes others : List Node} (mirror : Mirror nodes others) :
    Mirror nodes.tail others.tail ∨
      ∃ node, nodes = node :: nodes.tail ∧ isWording node = true ∧ Mirror nodes others.tail := by
  cases mirror with
  | nil => exact .inl .nil
  | word _ _ later => exact .inl later
  | more wording _ later => exact .inr ⟨_, rfl, wording, later⟩
  | block _ _ _ _ later => exact .inl later

/-- What is left after turns at blocks that are the same to the pass mirrors each other, but for a
piece of text that was skipped. -/
theorem next_mirror {block image : Node} {rest others : List Node} (twin : Twin block image)
    (later : Mirror rest others) :
    let turn : Turn := { position, block, rest }
    let turn' : Turn := { position, block := image, rest := others }
    Mirror (turn.next options source) (turn'.next options source) ∨
      ∃ node, isWording node = true ∧
        Mirror (node :: turn.next options source) (turn'.next options source) ∧
        Node.weightList (node :: turn.next options source) < Node.weightList (block :: rest) := by
  intro turn turn'
  have steps := step_mirror options source twin later
  rw [Turn.next, Turn.next]
  dsimp only [turn, turn']
  generalize own : step options source block rest = taken at steps
  generalize step options source image others = theirs at steps
  cases steps with
  | kept _ later => exact .inl later
  | @wrapped wrapper wrapper' after _ both later =>
    have lighter := weight_of_wrapped own
    cases wrapper <;> cases wrapper' <;> try cases both
    · rcases later.tail with same | ⟨node, whole, wording, same⟩
      · exact .inl same
      · rw [whole] at same lighter
        exact .inr ⟨node, wording, same, lighter⟩
    · exact .inl later

/-- The pass wraps the same blocks of lists that mirror each other, and comes to lists that again
mirror each other. -/
theorem sameTurns_of_mirror {nodes others : List Node} (mirror : Mirror nodes others) :
    SameTurns options source position nodes others := by
  induction weight : Node.weightList nodes + Node.weightList others using Nat.strongRecOn
    generalizing position nodes others with
  | ind weight ih =>
    subst weight
    cases mirror with
    | nil => exact sameTurns_nil
    | @word node piece rest others wording wording' later =>
      have lighter := node.weight_pos
      rw [sameTurns_of_isWording_left wording]
      exact (ih _ (by rw [Node.weightList_cons, Node.weightList_cons]; omega) later rfl).more
        wording'
    | @more node piece rest others wording wording' later =>
      have lighter := piece.weight_pos
      exact (ih _ (by rw [Node.weightList_cons _ others]; omega) later rfl).more wording'
    | @block block image rest others isBlock sameKind ends below later =>
      have twin : Twin block image := ⟨isBlock, sameKind, ends, below⟩
      have lighter := Turn.weight_next options source { position, block, rest }
      have lighter' :=
        Turn.weight_next options source { position, block := image, rest := others }
      rcases @next_mirror options source position _ _ _ _ twin later with
        same | ⟨node, wording, same, lighter''⟩
      · exact sameTurns_cons twin later same.blockCount (ih _ (by dsimp only at *; omega) same rfl)
      · have count := same.blockCount
        rw [blockCount_cons, wording, if_pos rfl, Nat.zero_add] at count
        exact sameTurns_cons twin later count
          ((sameTurns_of_isWording_left wording).1 (ih _ (by dsimp only at *; omega) same rfl))

/-- The pass comes to the same siblings in lists that mirror each other, and wraps the same of them.
-/
theorem wraps_mirror {nodes others : List Node} (mirror : Mirror nodes others) (path : List Nat)
    (first stop : Nat) :
    Wraps options source nodes path first stop ↔ Wraps options source others path first stop := by
  induction path generalizing nodes others with
  | nil =>
    have same := (@sameTurns_of_mirror options source 0 _ _ mirror).wraps first stop
    constructor
    · rintro ⟨_, rfl, wraps⟩
      exact ⟨others, rfl, same.1 wraps⟩
    · rintro ⟨_, rfl, wraps⟩
      exact ⟨nodes, rfl, same.2 wraps⟩
  | cons index path ih =>
    have same := @sameTurns_of_mirror options source 0 _ _ mirror
    constructor
    · rintro ⟨siblings, ⟨children, kept, comes⟩, wraps⟩
      obtain ⟨images, kept', below⟩ := same.keeps index children kept
      obtain ⟨siblings', comes', wraps'⟩ := (ih below).1 ⟨siblings, comes, wraps⟩
      exact ⟨siblings', ⟨images, kept', comes'⟩, wraps'⟩
    · rintro ⟨siblings, ⟨images, kept, comes⟩, wraps⟩
      obtain ⟨children, kept', below⟩ := same.keeps' index images kept
      obtain ⟨siblings', comes', wraps'⟩ := (ih below).2 ⟨siblings, comes, wraps⟩
      exact ⟨siblings', ⟨children, kept', comes'⟩, wraps'⟩

end Manuscript.Alignment
