import Manuscript.Prose.Alignment

/-!
# The turns of the alignment of siblings

The pass over aligned blocks goes over a list of siblings in turns: at each it finds a block with
the blocks after it, and keeps the block or wraps it with some of those. `alignList_eq_turns` says
that what the pass makes of siblings is what it makes at its turns, and `exists_turn` and
`turn_unique` that every block belongs to exactly one of them. From there `wrapsFrom_iff_tagged`
tells which blocks are wrapped by what is read from them: those from an opening tag to the first
block that closes it, unless an earlier turn takes the opening tag.
-/

namespace Manuscript.Alignment

/-- Whether a node is a piece of running text, which passes over text are free to cut into several.
-/
def isWording (node : Node) : Bool :=
  match node.kind with
  | .text _ => true
  | .abbreviation _ => true
  | _ => false

/-- Number of blocks among siblings. Blocks keep their count when the text between them is cut. -/
def blockCount (nodes : List Node) : Nat :=
  nodes.countP fun node => !isWording node

/-- There are no blocks among no nodes. -/
@[simp] theorem blockCount_nil : blockCount [] = 0 := rfl

/-- A node counts as a block unless it is a piece of running text. -/
theorem blockCount_cons (node : Node) (rest : List Node) :
    blockCount (node :: rest) = (if isWording node then 0 else 1) + blockCount rest := by
  rw [blockCount, List.countP_cons, Nat.add_comm]
  cases isWording node <;> rfl

/-- The blocks in two parts of a list add up. -/
theorem blockCount_append (front back : List Node) :
    blockCount (front ++ back) = blockCount front + blockCount back :=
  List.countP_append

/-- A block from which a marker was read keeps its kind. -/
theorem kind_readBlock (source : Text) (read : List Node → List Node × Option Marker)
    (block : Node) : (readBlock source read block).1.kind = block.kind := by
  unfold readBlock
  repeat' split
  all_goals rfl

/-- Only paragraphs have markers. -/
theorem readBlock_of_not_paragraph {source : Text} {read : List Node → List Node × Option Marker}
    {block : Node} (other : block.isParagraph = false) :
    readBlock source read block = (block, none) := by
  rw [readBlock, other]
  rfl

/-- A node of the same kind is as much a piece of text. -/
theorem isWording_congr {node other : Node} (same : node.kind = other.kind) :
    isWording node = isWording other := by
  rw [isWording, isWording, same]

/-- A piece of text is no paragraph. -/
theorem not_paragraph_of_isWording {node : Node} (wording : isWording node = true) :
    node.isParagraph = false := by
  rw [Node.isParagraph, decide_eq_false_iff_not]
  intro paragraph
  rw [isWording, paragraph] at wording
  cases wording

/-- Passing over blocks keeps their number. -/
theorem blockCount_map_passed (source : Text) (nodes : List Node) :
    blockCount (nodes.map (passed source)) = blockCount nodes := by
  rw [blockCount, List.countP_map]
  refine List.countP_congr fun node _ => ?_
  have same : (passed source node).kind = node.kind := kind_readBlock source _ node
  rw [Function.comp, isWording_congr same]

/-- What has to hold of siblings for an opening tag to be closed by the block after `front`. -/
structure ClosesAt (source : Text) (opening : Found) (sameBlock : Bool) (front : List Node)
    (block : Node) (closing : Found) : Prop where
  /-- The block has a closing tag. -/
  reads : (readClosing source block).2 = some closing
  /-- It closes the opening tag. -/
  closes : closes opening (sameBlock && front.isEmpty) closing = true
  /-- No block before it does. -/
  first : ∀ before other between, front = before ++ other :: between →
    ∀ found, (readClosing source other).2 = some found →
      Alignment.closes opening (sameBlock && before.isEmpty) found = false

/-- The first block closes an opening tag if it can. -/
theorem closesAt_nil_iff {source : Text} {opening closing : Found} {sameBlock : Bool}
    {block : Node} :
    ClosesAt source opening sameBlock [] block closing ↔
      (readClosing source block).2.filter (closes opening sameBlock) = some closing := by
  rw [Option.filter_eq_some_iff]
  constructor
  · intro closed
    exact ⟨closed.reads, by simpa using closed.closes⟩
  · rintro ⟨reads, closes⟩
    exact ⟨reads, by simpa using closes, by simp⟩

/-- A later block closes an opening tag if the first cannot, and it is the first of the others that
can. -/
theorem closesAt_cons_iff {source : Text} {opening closing : Found} {sameBlock : Bool}
    {first block : Node} {front : List Node} :
    ClosesAt source opening sameBlock (first :: front) block closing ↔
      (readClosing source first).2.filter (closes opening sameBlock) = none ∧
        ClosesAt source opening false front block closing := by
  rw [Option.filter_eq_none_iff]
  constructor
  · intro closed
    refine ⟨fun found reads => ?_, closed.reads, by simpa using closed.closes, ?_⟩
    · simpa using closed.first [] first front rfl found reads
    · intro before other between same found reads
      simpa using closed.first (first :: before) other between (by rw [same]; rfl) found reads
  · rintro ⟨unable, closed⟩
    refine ⟨closed.reads, by simpa using closed.closes, ?_⟩
    intro before other between same found reads
    cases before with
    | nil =>
      cases same
      simpa using unable found reads
    | cons _ before =>
      cases same
      simpa using closed.first before other between rfl found reads

/-- An opening tag is closed by the first block that can. -/
theorem findClosing?_eq_some_iff {source : Text} {opening closing : Found} {sameBlock : Bool}
    {siblings blocks after : List Node} :
    findClosing? source opening sameBlock siblings = some (blocks, closing, after) ↔
      ∃ front block, siblings = front ++ block :: after ∧
        blocks = (front ++ [block]).map (passed source) ∧
        ClosesAt source opening sameBlock front block closing := by
  induction siblings generalizing sameBlock blocks with
  | nil => simp [findClosing?]
  | cons first rest ih =>
    rw [findClosing?]
    cases here : (readClosing source first).2.filter (closes opening sameBlock) with
    | some found =>
      constructor
      · intro same
        cases same
        exact ⟨[], first, rfl, rfl, closesAt_nil_iff.2 here⟩
      · rintro ⟨front, block, whole, rfl, closed⟩
        cases front with
        | nil =>
          cases whole
          rw [closesAt_nil_iff.1 closed] at here
          cases here
          rfl
        | cons _ front =>
          cases whole
          rw [(closesAt_cons_iff.1 closed).1] at here
          cases here
    | none =>
      simp only [Option.map_eq_some_iff, Prod.exists, Prod.mk.injEq]
      constructor
      · rintro ⟨inner, _, _, found, rfl, rfl, rfl⟩
        obtain ⟨front, block, rfl, rfl, closed⟩ := ih.1 found
        exact ⟨first :: front, block, rfl, rfl, closesAt_cons_iff.2 ⟨here, closed⟩⟩
      · rintro ⟨front, block, whole, rfl, closed⟩
        cases front with
        | nil =>
          cases whole
          rw [closesAt_nil_iff.1 closed] at here
          cases here
        | cons _ front =>
          cases whole
          have found := ih.2 ⟨front, block, rfl, rfl, (closesAt_cons_iff.1 closed).2⟩
          exact ⟨_, closing, after, found, rfl, rfl, rfl⟩

/-- What has to hold of a block and the blocks after it for those up to `after` to be put into a
wrapper, or removed if there is nothing between the tags: the block begins with an opening tag, and
a block from it on is the first to close it. -/
structure Delimited (options : AlignOptions) (source : Text) (block : Node) (rest after : List Node)
    (wrapper : Option Node) (opening closing : Found) : Prop where
  /-- The block is read as an opening. -/
  opens : (readOpening source block).2 = some opening
  /-- It is not a closing tag that stands alone. -/
  notClosing : opening.marker.closing = false
  /-- A block is the first to close it. -/
  closed : ∃ front last, (readOpening source block).1 :: rest = front ++ last :: after ∧
    ClosesAt source opening true front last closing ∧
    wrap? options opening closing ((front ++ [last]).map (passed source)) = wrapper

/-- Blocks are wrapped exactly when they are delimited by tags. -/
theorem step_eq_wrapped_iff {options : AlignOptions} {source : Text} {block : Node}
    {rest after : List Node} {wrapper : Option Node} :
    step options source block rest = .wrapped wrapper after ↔
      ∃ opening closing, Delimited options source block rest after wrapper opening closing := by
  constructor
  · intro taken
    unfold step at taken
    dsimp only at taken
    split at taken
    · cases taken
    · rename_i opening opens
      obtain ⟨reads, notClosing⟩ := Option.filter_eq_some_iff.1 opens
      split at taken
      · rename_i blocks closing _ found
        simp only [Step.wrapped.injEq] at taken
        obtain ⟨wrapped, rfl⟩ := taken
        obtain ⟨front, last, whole, rfl, closed⟩ := findClosing?_eq_some_iff.1 found
        exact ⟨opening, closing, reads, by simpa using notClosing, front, last, whole, closed,
          wrapped⟩
      · cases taken
  · rintro ⟨opening, closing, opens, notClosing, front, last, whole, closed, wrapped⟩
    have found := findClosing?_eq_some_iff.2 ⟨front, last, whole, rfl, closed⟩
    have opened : (readOpening source block).2.filter (!·.marker.closing) = some opening := by
      rw [opens, Option.filter_some, notClosing]
      rfl
    simp only [step, opened, found, wrapped]

/-- What the pass finds at a turn. -/
structure Turn where
  /-- Number of blocks before. -/
  position : Nat
  /-- The first of the siblings that are left. -/
  block : Node
  /-- The siblings after it. -/
  rest : List Node

namespace Turn

/-- The siblings that are left after a turn. -/
def next (options : AlignOptions) (source : Text) (turn : Turn) : List Node :=
  match step options source turn.block turn.rest with
  | .wrapped (some _) after => after
  | .wrapped none after => after.tail
  | .kept _ rest => rest

/-- What the pass makes at a turn. -/
def made (options : AlignOptions) (source : Text) (turn : Turn) : List Node :=
  match step options source turn.block turn.rest with
  | .wrapped (some wrapper) _ => [wrapper]
  | .wrapped none after => after.head?.toList
  | .kept block _ => [{ block with children := alignList options source block.children }]

/-- Number of blocks up to the end of a turn. -/
def stop (options : AlignOptions) (source : Text) (turn : Turn) : Nat :=
  turn.position + (blockCount (turn.block :: turn.rest) - blockCount (turn.next options source))

/-- The siblings that are left after a turn weigh less than those before it. -/
theorem weight_next (options : AlignOptions) (source : Text) (turn : Turn) :
    Node.weightList (turn.next options source) < Node.weightList (turn.block :: turn.rest) := by
  rw [next]
  split
  · rename_i taken
    exact weight_of_wrapped taken
  · rename_i after taken
    have lighter := weight_of_wrapped taken
    cases after with
    | nil => exact lighter
    | cons _ after =>
      rw [List.tail_cons]
      rw [Node.weightList_cons] at lighter
      omega
  · rename_i taken
    have positive := turn.block.weight_pos
    rw [Node.weightList_cons, (weight_of_kept taken).2]
    omega

end Turn

/-- The turns of the pass over siblings, if there are `position` blocks before them. -/
def turns (options : AlignOptions) (source : Text) (position : Nat) (nodes : List Node) :
    List Turn :=
  match nodes with
  | [] => []
  | block :: rest =>
    let turn : Turn := { position, block, rest }
    turn :: turns options source (turn.stop options source) (turn.next options source)
termination_by Node.weightList nodes
decreasing_by exact Turn.weight_next options source turn

/-- The pass makes of siblings what it makes at its turns, one after the other. -/
theorem alignList_eq_turns (options : AlignOptions) (source : Text) (position : Nat)
    (nodes : List Node) :
    alignList options source nodes =
      (turns options source position nodes).flatMap (Turn.made options source) := by
  induction position, nodes using turns.induct options source with
  | case1 position =>
    rw [alignList, turns]
    rfl
  | case2 position block rest turn ih =>
    rw [turns, List.flatMap_cons, ← ih, Turn.made, Turn.next, alignList]
    dsimp only [turn]
    split <;> rename_i taken <;> simp only [taken]
    · rfl
    · rw [List.tail_nil, alignList]
      rfl
    · rfl
    · rfl

/-- A block that opens others keeps its kind. -/
theorem isWording_opened (source : Text) (block : Node) :
    isWording (readOpening source block).1 = isWording block :=
  isWording_congr (kind_readBlock source _ block)

/-- What closes other blocks is not a piece of text. -/
theorem isWording_of_readClosing {source : Text} {block : Node} {closing : Found}
    (reads : (readClosing source block).2 = some closing) : isWording block = false := by
  refine Bool.eq_false_iff.2 fun wording => ?_
  rw [readClosing, readBlock_of_not_paragraph (not_paragraph_of_isWording wording)] at reads
  cases reads

/-- Blocks that are wrapped are no longer counted among those that are left. -/
theorem blockCount_of_wrapped {options : AlignOptions} {source : Text} {block : Node}
    {rest after : List Node} {wrapper : Option Node}
    (taken : step options source block rest = .wrapped wrapper after) :
    blockCount after < blockCount (block :: rest) := by
  obtain ⟨_, _, _, _, front, last, whole, closed, _⟩ := step_eq_wrapped_iff.1 taken
  have counted := congrArg blockCount whole
  have atLast := blockCount_cons last after
  rw [isWording_of_readClosing closed.reads] at atLast
  simp only [Bool.false_eq_true, if_false] at atLast
  rw [blockCount_cons, isWording_opened, ← blockCount_cons, blockCount_append] at counted
  omega

/-- When a block is kept, as many blocks are left as there were after it. -/
theorem blockCount_of_kept {options : AlignOptions} {source : Text} {block kept : Node}
    {rest left : List Node} (taken : step options source block rest = .kept kept left) :
    blockCount left = blockCount rest := by
  unfold step at taken
  dsimp only at taken
  split at taken
  · cases taken
    rfl
  · split at taken
    · cases taken
    · cases taken
      exact blockCount_map_passed source rest

/-- A turn leaves no more blocks than it finds. -/
theorem Turn.blockCount_next (options : AlignOptions) (source : Text) (turn : Turn) :
    blockCount (turn.next options source) ≤ blockCount (turn.block :: turn.rest) := by
  rw [next]
  split
  · rename_i taken
    exact Nat.le_of_lt (blockCount_of_wrapped taken)
  · rename_i after taken
    have fewer := blockCount_of_wrapped taken
    cases after with
    | nil => exact Nat.zero_le _
    | cons _ after =>
      rw [blockCount_cons] at fewer
      rw [List.tail_cons]
      omega
  · rename_i taken
    rw [blockCount_of_kept taken, blockCount_cons]
    omega

/-- The blocks before a turn and those that it finds are all blocks. -/
theorem position_add_blockCount {options : AlignOptions} {source : Text} {position : Nat}
    {nodes : List Node} :
    ∀ turn ∈ turns options source position nodes,
      turn.position + blockCount (turn.block :: turn.rest) = position + blockCount nodes := by
  induction position, nodes using turns.induct options source with
  | case1 position =>
    intro turn member
    rw [turns] at member
    cases member
  | case2 position block rest first ih =>
    intro turn member
    have fewer := first.blockCount_next options source
    rw [turns, List.mem_cons] at member
    rcases member with rfl | later
    · rfl
    · have after := ih turn later
      rw [Turn.stop] at after
      dsimp only [first] at after fewer
      omega

/-- No turn comes before the first. -/
theorem position_le {options : AlignOptions} {source : Text} {position : Nat} {nodes : List Node} :
    ∀ turn ∈ turns options source position nodes, position ≤ turn.position := by
  induction position, nodes using turns.induct options source with
  | case1 position =>
    intro turn member
    rw [turns] at member
    cases member
  | case2 position block rest first ih =>
    intro turn member
    rw [turns, List.mem_cons] at member
    rcases member with rfl | later
    · exact Nat.le_refl _
    · have after := ih turn later
      rw [Turn.stop] at after
      dsimp only [first] at after
      omega

/-- Every block belongs to a turn. -/
theorem exists_turn {options : AlignOptions} {source : Text} {position index : Nat}
    {nodes : List Node} (lower : position ≤ index) (upper : index < position + blockCount nodes) :
    ∃ turn ∈ turns options source position nodes,
      turn.position ≤ index ∧ index < turn.stop options source := by
  induction position, nodes using turns.induct options source with
  | case1 position =>
    rw [blockCount_nil] at upper
    omega
  | case2 position block rest first ih =>
    have fewer := first.blockCount_next options source
    rw [turns]
    by_cases here : index < first.stop options source
    · exact ⟨_, List.mem_cons_self, lower, here⟩
    · obtain ⟨turn, member, within⟩ := ih (Nat.le_of_not_lt here)
        (by rw [Turn.stop] at here ⊢; dsimp only [first] at here fewer ⊢; omega)
      exact ⟨turn, List.mem_cons_of_mem _ member, within⟩

/-- No block belongs to two turns. -/
theorem turn_unique {options : AlignOptions} {source : Text} {position index : Nat}
    {nodes : List Node} {first second : Turn}
    (inFirst : first ∈ turns options source position nodes)
    (inSecond : second ∈ turns options source position nodes)
    (ofFirst : first.position ≤ index ∧ index < first.stop options source)
    (ofSecond : second.position ≤ index ∧ index < second.stop options source) :
    first = second := by
  induction position, nodes using turns.induct options source with
  | case1 position =>
    rw [turns] at inFirst
    cases inFirst
  | case2 position block rest turn ih =>
    rw [turns, List.mem_cons] at inFirst inSecond
    rcases inFirst with rfl | laterFirst <;> rcases inSecond with rfl | laterSecond
    · rfl
    · have after := position_le second laterSecond
      omega
    · have after := position_le first laterFirst
      omega
    · exact ih laterFirst laterSecond

/-- The pass over siblings, with `position` blocks before them, wraps the blocks from the one with
the number `first` up to the one with the number `stop`. -/
def WrapsFrom (options : AlignOptions) (source : Text) (position : Nat) (siblings : List Node)
    (first stop : Nat) : Prop :=
  ∃ turn ∈ turns options source position siblings, ∃ wrapper after,
    step options source turn.block turn.rest = .wrapped (some wrapper) after ∧
    turn.position = first ∧ turn.stop options source = stop

/-- The pass over siblings keeps the block with the given number where it is, and goes on with the
nodes below it. -/
def KeepsFrom (options : AlignOptions) (source : Text) (position : Nat) (siblings : List Node)
    (index : Nat) (children : List Node) : Prop :=
  ∃ turn ∈ turns options source position siblings, ∃ kept left,
    step options source turn.block turn.rest = .kept kept left ∧
    turn.position = index ∧ index < turn.stop options source ∧ children = kept.children

/-- The pass wraps blocks at its first turn or at a later one. -/
theorem wrapsFrom_cons {options : AlignOptions} {source : Text} {position first stop : Nat}
    {block : Node} {rest : List Node} :
    let turn : Turn := { position, block, rest }
    WrapsFrom options source position (block :: rest) first stop ↔
      (∃ wrapper after, step options source block rest = .wrapped (some wrapper) after ∧
        position = first ∧ turn.stop options source = stop) ∨
      WrapsFrom options source (turn.stop options source) (turn.next options source)
        first stop := by
  intro turn
  rw [WrapsFrom, turns]
  constructor
  · rintro ⟨other, member, wraps⟩
    rcases List.mem_cons.1 member with rfl | later
    · exact .inl wraps
    · exact .inr ⟨other, later, wraps⟩
  · rintro (wraps | ⟨other, later, wraps⟩)
    · exact ⟨turn, List.mem_cons_self, wraps⟩
    · exact ⟨other, List.mem_cons_of_mem _ later, wraps⟩

/-- The pass keeps a block at its first turn or at a later one. -/
theorem keepsFrom_cons {options : AlignOptions} {source : Text} {position index : Nat}
    {block : Node} {rest children : List Node} :
    let turn : Turn := { position, block, rest }
    KeepsFrom options source position (block :: rest) index children ↔
      (∃ kept left, step options source block rest = .kept kept left ∧
        position = index ∧ index < turn.stop options source ∧ children = kept.children) ∨
      KeepsFrom options source (turn.stop options source) (turn.next options source) index
        children := by
  intro turn
  rw [KeepsFrom, turns]
  constructor
  · rintro ⟨other, member, keeps⟩
    rcases List.mem_cons.1 member with rfl | later
    · exact .inl keeps
    · exact .inr ⟨other, later, keeps⟩
  · rintro (keeps | ⟨other, later, keeps⟩)
    · exact ⟨turn, List.mem_cons_self, keeps⟩
    · exact ⟨other, List.mem_cons_of_mem _ later, keeps⟩

/-- The pass over siblings comes to the siblings at a path, which names the blocks above them by
their numbers. -/
def Comes (options : AlignOptions) (source : Text) :
    List Nat → List Node → List Node → Prop
  | [], nodes, siblings => siblings = nodes
  | index :: path, nodes, siblings =>
    ∃ children, KeepsFrom options source 0 nodes index children ∧
      Comes options source path children siblings

/-- The pass wraps blocks of the siblings at a path. -/
def Wraps (options : AlignOptions) (source : Text) (nodes : List Node) (path : List Nat)
    (first stop : Nat) : Prop :=
  ∃ siblings, Comes options source path nodes siblings ∧
    WrapsFrom options source 0 siblings first stop

/-- What makes the pass wrap blocks, said by what it reads from them. -/
structure Tagged (options : AlignOptions) (source : Text) (siblings : List Node)
    (first stop : Nat) : Prop where
  /-- There is a first block. -/
  inside : first < blockCount siblings
  /-- No earlier turn goes beyond it. -/
  apart : ∀ turn ∈ turns options source 0 siblings, turn.position < first →
    turn.stop options source ≤ first
  /-- As the pass finds it, tags stand at it and at the last block. -/
  delimited : ∀ turn ∈ turns options source 0 siblings,
    turn.position = first → first < turn.stop options source →
      ∃ after wrapper opening closing,
        Delimited options source turn.block turn.rest after (some wrapper) opening closing ∧
        stop + blockCount after = first + blockCount (turn.block :: turn.rest)

/-- Blocks are wrapped exactly when no earlier turn goes beyond the first of them and they are, as
the pass finds them, delimited by tags. -/
theorem wrapsFrom_iff_tagged {options : AlignOptions} {source : Text} {siblings : List Node}
    {first stop : Nat} :
    WrapsFrom options source 0 siblings first stop ↔
      Tagged options source siblings first stop := by
  constructor
  · rintro ⟨turn, member, wrapper, after, taken, rfl, rfl⟩
    obtain ⟨opening, closing, delimited⟩ := step_eq_wrapped_iff.1 taken
    have left : turn.next options source = after := by rw [Turn.next, taken]
    have fewer := blockCount_of_wrapped taken
    have all := position_add_blockCount turn member
    have own : turn.position ≤ turn.position ∧ turn.position < turn.stop options source := by
      rw [Turn.stop, left]
      omega
    refine ⟨by omega, fun other inTurns earlier => ?_, fun other inTurns same inside => ?_⟩
    · refine Nat.le_of_not_lt fun beyond => ?_
      have same := turn_unique inTurns member ⟨Nat.le_of_lt earlier, beyond⟩ own
      rw [same] at earlier
      exact Nat.lt_irrefl _ earlier
    · have same := turn_unique inTurns member ⟨Nat.le_of_eq same, inside⟩ own
      subst same
      refine ⟨after, wrapper, opening, closing, delimited, ?_⟩
      rw [Turn.stop, left]
      omega
  · rintro ⟨inside, apart, delimited⟩
    obtain ⟨turn, member, lower, upper⟩ :=
      @exists_turn options source 0 first siblings (Nat.zero_le first) (by omega)
    have here : turn.position = first := by
      refine Nat.le_antisymm lower (Nat.le_of_not_lt fun earlier => ?_)
      have := apart turn member earlier
      omega
    obtain ⟨after, wrapper, opening, closing, delimited, count⟩ := delimited turn member here upper
    have taken := step_eq_wrapped_iff.2 ⟨opening, closing, delimited⟩
    have left : turn.next options source = after := by rw [Turn.next, taken]
    have fewer := blockCount_of_wrapped taken
    refine ⟨turn, member, wrapper, after, taken, here, ?_⟩
    rw [Turn.stop, left]
    omega

end Manuscript.Alignment
