import Manuscript.Document.Basic
import Manuscript.Options.Basic
import Manuscript.Text.Blank

/-!
# Aligned blocks

Sibling blocks between `[center]` and `[/center]` are moved into a wrapper; `left` and `right` work
alike, and `:row` after the name lays the blocks out in a row. A paragraph may hold a tag and
nothing else, or begin with an opening tag, or end with a closing one. A tag behind a backslash is
literal, and so is an opening tag that is never closed.
-/

namespace Manuscript

/-- Where aligned blocks are put. -/
inductive Alignment where
  | left
  | center
  | right
deriving DecidableEq, Repr

namespace Alignment

/-- All alignments. -/
def all : List Alignment :=
  [left, center, right]

/-- The name of an alignment in a tag. -/
def name : Alignment → Text
  | left => "left".toList
  | center => "center".toList
  | right => "right".toList

/-- How blocks are laid out. -/
inductive Layout where
  | stacked
  | row
deriving DecidableEq, Repr

/-- The tag that opens blocks of a layout. -/
def openTag (alignment : Alignment) : Layout → Text
  | .stacked => '[' :: alignment.name ++ [']']
  | .row => '[' :: alignment.name ++ ":row]".toList

/-- The tag that closes blocks of a layout. -/
def closeTag (alignment : Alignment) : Layout → Text
  | .stacked => "[/".toList ++ alignment.name ++ [']']
  | .row => "[/".toList ++ alignment.name ++ ":row]".toList

/-- An opening or closing tag. -/
structure Marker where
  /-- The alignment that it names. -/
  alignment : Alignment
  /-- The layout that it names. -/
  layout : Layout
  /-- Whether it closes. -/
  closing : Bool
deriving DecidableEq, Repr

namespace Marker

/-- The tag as it is written. -/
def tag (marker : Marker) : Text :=
  if marker.closing then marker.alignment.closeTag marker.layout
  else marker.alignment.openTag marker.layout

/-- All opening tags. -/
def openings : List Marker :=
  all.flatMap fun alignment => [⟨alignment, .stacked, false⟩, ⟨alignment, .row, false⟩]

/-- All closing tags. -/
def closings : List Marker :=
  all.flatMap fun alignment => [⟨alignment, .stacked, true⟩, ⟨alignment, .row, true⟩]

end Marker

/-- A marker as it was found in a paragraph. -/
structure Found where
  /-- The marker. -/
  marker : Marker
  /-- Whether the paragraph holds nothing else. -/
  alone : Bool
deriving DecidableEq, Repr

/-- Whether the byte at an offset of the source is a backslash. -/
def backslashAt (source : Text) (offset : Nat) : Bool :=
  Text.charAtByte? source offset = some '\\'

/-- Whether a text was read from a place at or after a backslash. -/
def escapedBefore (source : Text) (node : Node) : Bool :=
  node.span.any fun span =>
    backslashAt source span.start || (0 < span.start && backslashAt source (span.start - 1))

/-- Whether the tag at the end of a text was read from a place after a backslash. -/
def escapedEnd (source : Text) (tag : Text) (node : Node) : Bool :=
  node.span.any fun span =>
    tag.length < span.stop && backslashAt source (span.stop - tag.length - 1)

/-- A text node that holds an escaped tag. -/
def markEscaped (node : Node) : Node :=
  { node with data := { node.data with escaped := true } }

/-- Reads the only text of a paragraph as a tag. A tag behind a backslash loses the backslash and is
marked as escaped. -/
def readAlone (source : Text) (node : Node) : Node × Option Marker :=
  match node.kind with
  | .text value =>
    let trimmed := Text.trim value
    if node.data.escaped then (node, none)
    else
      match trimmed with
      | '\\' :: tag =>
        if (Marker.openings ++ Marker.closings).any (·.tag = tag) then
          let lead := value.takeWhile Text.isBlank
          let tail := value.drop (lead.length + trimmed.length)
          (markEscaped (node.withText (lead ++ tag ++ tail)), none)
        else (node, none)
      | _ =>
        if escapedBefore source node then (node, none)
        else (node, (Marker.openings ++ Marker.closings).find? (·.tag = trimmed))
  | _ => (node, none)

/-- Reads an opening tag at the start of a text. -/
def readStart (source : Text) (node : Node) : Node × Option Marker :=
  match node.kind with
  | .text value =>
    if node.data.escaped then (node, none)
    else
      let literal? := match value with
        | '\\' :: rest =>
          if (Marker.openings ++ Marker.closings).any fun marker => Text.startsWith marker.tag rest
          then some rest else none
        | _ => none
      match literal? with
      | some rest => (markEscaped (node.withText rest), none)
      | none =>
        let found := Marker.openings.find? fun marker => Text.startsWith marker.tag value
        if escapedBefore source node then (if found.isSome then markEscaped node else node, none)
        else (node, found)
  | _ => (node, none)

/-- Reads a closing tag at the end of a text. -/
def readEnd (source : Text) (node : Node) : Node × Option Marker :=
  match node.kind with
  | .text value =>
    if node.data.escaped then (node, none)
    else
      match Marker.closings.findSome? fun marker =>
          (Text.dropBack? ('\\' :: marker.tag) value).map (· ++ marker.tag) with
      | some literal => (markEscaped (node.withText literal), none)
      | none =>
        match Marker.closings.find? fun marker => Text.endsWith marker.tag value with
        | none => (node, none)
        | some marker =>
          if escapedEnd source marker.tag node then (markEscaped node, none)
          else (node, some marker)
  | _ => (node, none)

/-- Reads the first text of a list of nodes. -/
def readFirst (read : Node → Node × Option Marker) : List Node → List Node × Option Marker
  | [] => ([], none)
  | node :: rest =>
    if node.isText then
      let (node, marker) := read node
      (node :: rest, marker)
    else
      let (rest, marker) := readFirst read rest
      (node :: rest, marker)

/-- Reads the last text of a list of nodes. -/
def readLast (read : Node → Node × Option Marker) (nodes : List Node) : List Node × Option Marker :=
  let (nodes, marker) := readFirst read nodes.reverse
  (nodes.reverse, marker)

/-- Reads a paragraph that holds a text and nothing else. -/
def readOnly (source : Text) : List Node → List Node × Option Marker
  | [node] =>
    let (node, marker) := readAlone source node
    ([node], marker)
  | nodes => (nodes, none)

/-- Reads a marker from a block: first as all that a paragraph holds, then by `read`. What is learnt
about escapes stays on the block. -/
def readBlock (source : Text) (read : List Node → List Node × Option Marker) (block : Node) :
    Node × Option Found :=
  if block.isParagraph then
    match readOnly source block.children with
    | (children, some marker) => ({ block with children }, some ⟨marker, true⟩)
    | (children, none) =>
      let (children, marker) := read children
      ({ block with children }, marker.map (⟨·, false⟩))
  else (block, none)

/-- Reads the marker that a block begins with. -/
def readOpening (source : Text) (block : Node) : Node × Option Found :=
  readBlock source (readFirst (readStart source)) block

/-- Reads the marker that a block ends with. -/
def readClosing (source : Text) (block : Node) : Node × Option Found :=
  readBlock source (readLast (readEnd source)) block

/-- The first text of a list of nodes without a tag at its start. A text that becomes empty goes. -/
def stripStart (tag : Text) : List Node → List Node
  | [] => []
  | node :: rest =>
    match node.textValue? with
    | none => node :: stripStart tag rest
    | some value =>
      match Text.dropFront? tag value with
      | none => node :: rest
      | some [] => rest
      | some value => node.withText value :: rest

/-- The last text of a list of nodes without a tag at its end, given last node first. A text that
becomes empty goes. -/
def stripEndReversed (tag : Text) : List Node → List Node
  | [] => []
  | node :: rest =>
    match node.textValue? with
    | none => node :: stripEndReversed tag rest
    | some value =>
      match Text.dropBack? tag value with
      | none => node :: rest
      | some [] => rest
      | some value => node.withText value :: rest

/-- The last text of a list of nodes without a tag at its end. -/
def stripEnd (tag : Text) (nodes : List Node) : List Node :=
  (stripEndReversed tag nodes.reverse).reverse

/-- Whether a block is a paragraph of nothing but white space. -/
def isBlankParagraph (block : Node) : Bool :=
  block.isParagraph && block.children.all fun child => child.textValue?.any Text.isBlankText

/-- The blocks without the one that opens them, or without the tag that it begins with. -/
def dropOpening (opening : Found) : List Node → List Node
  | [] => []
  | block :: rest =>
    if opening.alone then rest
    else
      let block := { block with children := stripStart opening.marker.tag block.children }
      if isBlankParagraph block then rest else block :: rest

/-- The blocks without the one that closes them, or without the tag that it ends with. -/
def dropClosing (closing : Found) (blocks : List Node) : List Node :=
  match blocks.getLast? with
  | none => []
  | some block =>
    if closing.alone then blocks.dropLast
    else
      let block := { block with children := stripEnd closing.marker.tag block.children }
      if isBlankParagraph block then blocks.dropLast else blocks.dropLast ++ [block]

/-- The classes for aligned blocks: those of a row, of stacked blocks, or of aligned text when the
tags stand inside paragraphs. -/
def classes (options : AlignOptions) (opening closing : Found) : List Text :=
  let setting :=
    if opening.marker.layout = .row then
      match opening.marker.alignment with
      | left => options.leftRowBlock
      | center => options.centerRowBlock
      | right => options.rightRowBlock
    else if opening.alone || closing.alone then
      match opening.marker.alignment with
      | left => options.leftBlock
      | center => options.centerBlock
      | right => options.rightBlock
    else
      match opening.marker.alignment with
      | left => options.left
      | center => options.center
      | right => options.right
  Text.words setting

/-- The wrapper for blocks from an opening to a closing tag; nothing when no blocks are left between
the tags. -/
def wrap? (options : AlignOptions) (opening closing : Found) (blocks : List Node) : Option Node :=
  let inner := dropClosing closing (dropOpening opening blocks)
  if inner.isEmpty then none
  else some (Node.container "div".toList (classes options opening closing) inner)

/-- Whether a closing tag ends what an opening tag began. In one block, a tag that stands alone does
not close itself. -/
def closes (opening : Found) (sameBlock : Bool) (closing : Found) : Bool :=
  closing.marker.alignment = opening.marker.alignment
    && !(sameBlock && opening.alone && closing.alone)

/-- A block after the search for a closing tag has passed it: what was learnt about escapes stays.
-/
def passed (source : Text) (block : Node) : Node :=
  (readClosing source block).1

/-- Looks for the block that closes an opening tag. Gives the blocks up to it, the closing tag, and
the blocks after it. -/
def findClosing? (source : Text) (opening : Found) (sameBlock : Bool) :
    List Node → Option (List Node × Found × List Node)
  | [] => none
  | block :: rest =>
    match (readClosing source block).2.filter (closes opening sameBlock) with
    | some closing => some ([passed source block], closing, rest)
    | none =>
      (findClosing? source opening false rest).map fun (blocks, closing, after) =>
        (passed source block :: blocks, closing, after)

/-- A way of reading a text that keeps the nodes below it. -/
def KeepsChildren (read : Node → Node × Option Marker) : Prop :=
  ∀ node, (read node).1.children = node.children

/-- Reading a tag that stands alone keeps what is below a node. -/
theorem readAlone_keeps (source : Text) : KeepsChildren (readAlone source) := by
  intro node
  unfold readAlone
  dsimp only
  repeat' split
  all_goals simp [markEscaped, Node.withText]

/-- Reading a tag at the start keeps what is below a node. -/
theorem readStart_keeps (source : Text) : KeepsChildren (readStart source) := by
  intro node
  unfold readStart
  repeat' split
  all_goals simp [markEscaped, Node.withText]
  all_goals repeat' split
  all_goals simp

/-- Reading a tag at the end keeps what is below a node. -/
theorem readEnd_keeps (source : Text) : KeepsChildren (readEnd source) := by
  intro node
  unfold readEnd
  repeat' split
  all_goals simp [markEscaped, Node.withText]

/-- Reading the first text adds no nodes. -/
theorem weight_readFirst {read : Node → Node × Option Marker} (keeps : KeepsChildren read)
    (nodes : List Node) : Node.weightList (readFirst read nodes).1 = Node.weightList nodes := by
  induction nodes with
  | nil => rfl
  | cons node rest ih =>
    unfold readFirst
    split
    · simp [Node.weight_eq, keeps node]
    · simp [ih]

/-- Reading the last text adds no nodes. -/
theorem weight_readLast {read : Node → Node × Option Marker} (keeps : KeepsChildren read)
    (nodes : List Node) : Node.weightList (readLast read nodes).1 = Node.weightList nodes := by
  simp [readLast, Node.weightList_reverse, weight_readFirst keeps]

/-- Reading the only text adds no nodes. -/
theorem weight_readOnly (source : Text) (nodes : List Node) :
    Node.weightList (readOnly source nodes).1 = Node.weightList nodes := by
  unfold readOnly
  split
  · simp [Node.weight_eq, readAlone_keeps source _]
  · rfl

/-- Reading a marker from a block adds no nodes. -/
theorem weight_readBlock (source : Text) {read : List Node → List Node × Option Marker}
    (keeps : ∀ nodes, Node.weightList (read nodes).1 = Node.weightList nodes) (block : Node) :
    (readBlock source read block).1.weight = block.weight := by
  have only := weight_readOnly source block.children
  unfold readBlock
  split
  · split
    · rename_i shape; rw [shape] at only; simpa [Node.weight_eq] using only
    · rename_i children shape
      rw [shape] at only
      have := keeps children
      simp only [Node.weight_eq]
      simp only at only
      omega
  · rfl

/-- Reading an opening tag keeps the weight of a block. -/
theorem weight_readOpening (source : Text) (block : Node) :
    (readOpening source block).1.weight = block.weight :=
  weight_readBlock source (weight_readFirst (readStart_keeps source)) block

/-- Reading a closing tag keeps the weight of a block. -/
theorem weight_readClosing (source : Text) (block : Node) :
    (readClosing source block).1.weight = block.weight :=
  weight_readBlock source (weight_readLast (readEnd_keeps source)) block

/-- Passing over a block keeps its weight. -/
theorem weight_passed (source : Text) (block : Node) :
    (passed source block).weight = block.weight :=
  weight_readClosing source block

/-- Passing over blocks adds no nodes. -/
theorem weight_map_passed (source : Text) (blocks : List Node) :
    Node.weightList (blocks.map (passed source)) = Node.weightList blocks := by
  induction blocks with
  | nil => rfl
  | cons block rest ih => simp [ih, weight_passed]

/-- The blocks after a closing tag are fewer than all blocks. -/
theorem weight_findClosing? {source : Text} {opening closing : Found} {sameBlock : Bool}
    {blocks inner after : List Node}
    (found : findClosing? source opening sameBlock blocks = some (inner, closing, after)) :
    Node.weightList after < Node.weightList blocks := by
  induction blocks generalizing sameBlock inner with
  | nil => cases found
  | cons block rest ih =>
    have positive := block.weight_pos
    unfold findClosing? at found
    split at found
    · simp only [Option.some.injEq, Prod.mk.injEq] at found
      rw [← found.2.2, Node.weightList_cons]; omega
    · simp only [Option.map_eq_some_iff, Prod.exists, Prod.mk.injEq] at found
      obtain ⟨inner', closing', after', found', _, rfl, rfl⟩ := found
      have := ih found'
      rw [Node.weightList_cons]; omega

/-- What happens to a list of siblings that begins with a given block. -/
inductive Step where
  /-- Blocks were put into a wrapper, or removed when there was nothing between their tags; the
  blocks after them are left. -/
  | wrapped (wrapper : Option Node) (after : List Node)
  /-- The first block stays where it is. -/
  | kept (block : Node) (rest : List Node)

/-- Tries to wrap the blocks from the first of a list of siblings on. -/
def step (options : AlignOptions) (source : Text) (block : Node) (rest : List Node) : Step :=
  let opened := (readOpening source block).1
  match (readOpening source block).2.filter (!·.marker.closing) with
  | none => .kept opened rest
  | some opening =>
    match findClosing? source opening true (opened :: rest) with
    | some (blocks, closing, after) => .wrapped (wrap? options opening closing blocks) after
    | none => .kept (passed source opened) (rest.map (passed source))

/-- Blocks that are wrapped are no longer among the siblings. -/
theorem weight_of_wrapped {options : AlignOptions} {source : Text} {block : Node}
    {rest after : List Node} {wrapper : Option Node}
    (taken : step options source block rest = .wrapped wrapper after) :
    Node.weightList after < Node.weightList (block :: rest) := by
  have opened := weight_readOpening source block
  unfold step at taken
  dsimp only at taken
  split at taken
  · cases taken
  · split at taken
    · rename_i found
      cases taken
      have := weight_findClosing? found
      simp only [Node.weightList_cons] at this ⊢
      omega
    · cases taken

/-- A block that stays keeps its weight, and so do the blocks after it. -/
theorem weight_of_kept {options : AlignOptions} {source : Text} {block block' : Node}
    {rest rest' : List Node} (taken : step options source block rest = .kept block' rest') :
    block'.weight = block.weight ∧ Node.weightList rest' = Node.weightList rest := by
  have opened := weight_readOpening source block
  unfold step at taken
  dsimp only at taken
  split at taken
  · cases taken; exact ⟨opened, rfl⟩
  · split at taken
    · cases taken
    · cases taken
      exact ⟨(weight_passed source _).trans opened, weight_map_passed source rest⟩

/-- Wraps the aligned blocks in a list of siblings and below them. Wrapped blocks are not searched
again, and when nothing was left between two tags, neither is the block after them. -/
def alignList (options : AlignOptions) (source : Text) (nodes : List Node) : List Node :=
  match nodes with
  | [] => []
  | block :: rest =>
    match _taken : step options source block rest with
    | .wrapped (some wrapper) after => wrapper :: alignList options source after
    | .wrapped none [] => []
    | .wrapped none (next :: after) => next :: alignList options source after
    | .kept block rest =>
      { block with children := alignList options source block.children }
        :: alignList options source rest
termination_by Node.weightList nodes
decreasing_by
  · exact weight_of_wrapped _taken
  · have := weight_of_wrapped _taken
    rw [Node.weightList_cons] at this
    omega
  · have kept := weight_of_kept _taken
    have := Node.weight_eq block
    rw [Node.weightList_cons]
    omega
  · have kept := weight_of_kept _taken
    have := block.weight_pos
    rw [Node.weightList_cons]
    omega

/-- Wraps the aligned blocks of a document. -/
def alignDocument (options : AlignOptions) (source : Text) (tree : Node) : Node :=
  { tree with children := alignList options source tree.children }

end Alignment

end Manuscript
