import Manuscript.Proofs.Markdown.Prose
import Manuscript.Proofs.Markdown.Spread
import Mathlib.Data.List.Chain

/-!
# The shape of a document

Every tree that is built keeps texts apart and inline content out of list items, in all of its nodes
(`Node.IsWellShaped`). An open node has the shape already (`Frame.IsSound`), and keeps it whatever
piece it takes (`isSound_absorb`): making room sees to it that nothing inline is added to a list
item but into a paragraph. `build_shape` puts this together with what is read of the tree.
-/

namespace Manuscript

/-- Whether nodes of this kind belong to running text. -/
def Kind.isInline : Kind → Bool
  | text _ => true
  | inlineCode _ => true
  | emphasis => true
  | strong => true
  | delete => true
  | mark => true
  | abbreviation _ => true
  | link _ _ => true
  | image _ _ _ => true
  | footnoteReference _ => true
  | lineBreak => true
  | _ => false

/-- Whether a node belongs to running text when it is closed is known when it is opened. -/
@[simp] theorem Kind.isInline_bare (kind : Kind) : kind.bare.isInline = kind.isInline := by
  cases kind <;> rfl

namespace Node

/-- The shape of a node that the other passes rely on. -/
structure IsWellShaped (node : Node) : Prop where
  /-- No two texts stand next to one another. -/
  apart : node.children.IsChain fun first second => ¬ (first.isText = true ∧ second.isText = true)
  /-- Nothing inline stands directly in a list item. -/
  blocks : ∀ checked, node.kind = .listItem checked →
    ∀ child ∈ node.children, child.kind.isInline = false

end Node

namespace Markdown

/-- Constructs of running text become nodes of running text. -/
theorem Construct.isInline_kind (construct : Construct) :
    construct.kind.isInline = construct.isInline := by
  cases construct <;> rfl

/-- Siblings, given in either direction, that keep texts apart and are well shaped. -/
structure AreSound (nodes : List Node) : Prop where
  /-- No two texts stand next to one another. -/
  apart : nodes.IsChain fun first second => ¬ (first.isText = true ∧ second.isText = true)
  /-- All nodes there and below are well shaped. -/
  shaped : ∀ tree ∈ nodes, ∀ node ∈ tree.nodes, node.IsWellShaped

namespace AreSound

/-- No siblings are sound. -/
theorem nil : AreSound [] where
  apart := .nil
  shaped tree member := by cases member

/-- Sound siblings are sound in the other direction. -/
theorem reverse {nodes : List Node} (sound : AreSound nodes) : AreSound nodes.reverse where
  apart := by
    rw [List.isChain_reverse]
    exact sound.apart.imp fun first second apart both => apart ⟨both.2, both.1⟩
  shaped tree member := sound.shaped tree (List.mem_reverse.1 member)

/-- A node with sound children is well shaped, with all nodes below, if it is no list item with
anything inline. -/
theorem nodes {node : Node} (sound : AreSound node.children)
    (blocks : ∀ checked, node.kind = .listItem checked →
      ∀ child ∈ node.children, child.kind.isInline = false) :
    ∀ inner ∈ node.nodes, inner.IsWellShaped := by
  intro inner member
  rw [Node.nodes_eq, List.mem_cons] at member
  rcases member with rfl | below
  · exact ⟨sound.apart, blocks⟩
  · obtain ⟨tree, isChild, inTree⟩ := Node.mem_nodesBelow.1 below
    exact sound.shaped tree isChild inner inTree

/-- A node that is no list item only needs sound children. -/
theorem nodes_of_not_item {node : Node} (sound : AreSound node.children)
    (other : ∀ checked, node.kind ≠ .listItem checked) :
    ∀ inner ∈ node.nodes, inner.IsWellShaped := by
  apply sound.nodes
  intro checked item
  exact absurd item (other checked)

/-- A node that is no text can stand next to any other. -/
theorem cons {node : Node} {nodes : List Node} (sound : AreSound nodes)
    (apart : ∀ last ∈ nodes.head?, ¬ (node.isText = true ∧ last.isText = true))
    (shaped : ∀ inner ∈ node.nodes, inner.IsWellShaped) : AreSound (node :: nodes) where
  apart := List.isChain_cons.2 ⟨apart, sound.apart⟩
  shaped tree member := by
    rcases List.mem_cons.1 member with rfl | before
    · exact shaped
    · exact sound.shaped tree before

/-- Siblings stay sound when a node is added. -/
theorem addMerged {node : Node} {nodes : List Node} (sound : AreSound nodes)
    (shaped : ∀ inner ∈ node.nodes, inner.IsWellShaped) : AreSound (addMerged node nodes) := by
  rcases addMerged_cases node nodes with
    ⟨plain, apart⟩ | ⟨last, before, front, value, span, rfl, isTextLast, -, joined⟩
  · rw [plain]
    refine sound.cons ?_ shaped
    simpa only [Node.isText_eq] using apart
  · rw [joined]
    obtain ⟨apartLast, apartBefore⟩ := List.isChain_cons.1 sound.apart
    have first : ∀ inner ∈ last.nodes, inner.IsWellShaped :=
      sound.shaped last List.mem_cons_self
    refine cons ⟨apartBefore, fun tree member =>
      sound.shaped tree (List.mem_cons_of_mem last member)⟩ ?_ ?_
    · rintro other isNext ⟨-, isText⟩
      apply apartLast other isNext
      rw [Node.isText_eq, isTextLast]
      exact ⟨rfl, isText⟩
    · -- The text that is joined is a leaf like the one before it.
      have below : ∀ tree ∈ last.children, ∀ inner ∈ tree.nodes, inner.IsWellShaped := by
        intro tree isChild inner inTree
        apply first inner
        rw [Node.nodes_eq]
        exact List.mem_cons_of_mem last (Node.mem_nodesBelow.2 ⟨tree, isChild, inTree⟩)
      have own : last.IsWellShaped := by
        apply first last
        rw [Node.nodes_eq]
        exact List.mem_cons_self
      apply nodes_of_not_item
      · exact ⟨own.apart, below⟩
      · intro checked item
        cases item

end AreSound

/-- An open node that has the shape that it needs when it is closed. -/
structure Frame.IsSound (frame : Frame) : Prop where
  /-- Its finished children are sound. -/
  children : AreSound frame.children
  /-- What is gathered is sound. -/
  gathered : ∀ inlines, frame.gathered = some inlines → AreSound inlines
  /-- Nothing inline stands directly in a list item. -/
  blocks : frame.isItem = true → ∀ child ∈ frame.children, child.kind.isInline = false

namespace Frame.IsSound

variable {frame : Frame}

/-- A frame without content is sound. -/
theorem of_empty (children : frame.children = []) (gathered : frame.gathered = none) :
    frame.IsSound where
  children := by
    rw [children]
    exact .nil
  gathered inlines some := by
    rw [gathered] at some
    cases some
  blocks _ child member := by
    rw [children] at member
    cases member

/-- Only the content of a frame and whether it is a list item matter. -/
theorem congr {other : Frame} (sound : frame.IsSound) (item : other.isItem = frame.isItem)
    (children : other.children = frame.children) (gathered : other.gathered = frame.gathered) :
    other.IsSound where
  children := by
    rw [children]
    exact sound.children
  gathered := by
    rw [gathered]
    exact sound.gathered
  blocks := by
    rw [item, children]
    exact sound.blocks

/-- The paragraph that gathers inline content is sound among blocks. -/
theorem closeGathered (sound : frame.IsSound) : frame.closeGathered.IsSound := by
  rw [Frame.closeGathered]
  split
  · exact sound
  · rename_i inlines open_
    have paragraph : ∀ inner ∈ (Node.paragraph inlines.reverse).nodes, inner.IsWellShaped := by
      apply AreSound.nodes_of_not_item (sound.gathered inlines open_).reverse
      intro checked item
      cases item
    constructor
    · refine sound.children.cons ?_ paragraph
      intro last _ both
      cases both.1
    · intro inlines some
      cases some
    · intro item child member
      rcases List.mem_cons.1 member with rfl | before
      · rfl
      · exact sound.blocks item child before

/-- A paragraph that has nothing in it yet is sound. -/
theorem openGathered (sound : frame.IsSound) : frame.openGathered.IsSound := by
  rw [Frame.openGathered]
  split
  · refine ⟨sound.children, ?_, sound.blocks⟩
    rintro inlines ⟨⟩
    exact .nil
  · exact sound

/-- Making room keeps a frame sound. -/
theorem room (sound : frame.IsSound) (isInline : Bool) : (frame.room isInline).IsSound := by
  cases isInline
  · exact sound.closeGathered
  · exact sound.openGathered

/-- A well-shaped node can be added, but nothing inline to a list item with no paragraph open. -/
theorem add {node : Node} (sound : frame.IsSound)
    (shaped : ∀ inner ∈ node.nodes, inner.IsWellShaped)
    (fits : frame.isItem = true → frame.gathered = none → node.kind.isInline = false) :
    (frame.add node).IsSound := by
  rw [Frame.add]
  split
  · rename_i inlines open_
    refine ⟨sound.children, ?_, sound.blocks⟩
    rintro _ ⟨⟩
    exact (sound.gathered inlines open_).addMerged shaped
  · rename_i closed
    refine ⟨sound.children.addMerged shaped, ?_, ?_⟩
    · intro inlines some
      rw [closed] at some
      cases some
    · intro item child member
      have block := fits item closed
      rcases addMerged_cases node frame.children with
        ⟨plain, -⟩ | ⟨_, _, _, _, _, -, -, isText, -⟩
      · rw [plain] at member
        rcases List.mem_cons.1 member with rfl | before
        · exact block
        · exact sound.blocks item child before
      · rw [isText] at block
        cases block

/-- A sound frame is closed as a well-shaped node. -/
theorem close (sound : frame.IsSound) : ∀ inner ∈ frame.close.nodes, inner.IsWellShaped := by
  have closed := sound.closeGathered
  apply AreSound.nodes
  · rw [Frame.children_close]
    split
    · exact .nil
    · exact closed.children.reverse
  · intro checked isItem child member
    have item : frame.closeGathered.isItem = true := by
      rw [Frame.IsSteady.closeGathered.isItem, Frame.isItem_eq, ← Frame.bare_close, isItem]
      rfl
    rw [Frame.children_close] at member
    split at member
    · cases member
    · exact closed.blocks item child (List.mem_reverse.1 member)

end Frame.IsSound

/-- In a list item with no paragraph open there is no room for anything inline. -/
theorem Frame.room_fits {frame : Frame} {isInline : Bool}
    (item : (frame.room isInline).isItem = true) (closed : (frame.room isInline).gathered = none) :
    isInline = false := by
  cases isInline with
  | false => rfl
  | true =>
    rw [(IsSteady.room true).isItem] at item
    rw [Frame.room, if_pos rfl, Frame.openGathered, item] at closed
    cases gathered : frame.gathered <;> simp [gathered] at closed

/-- Only inline content becomes a node of running text. -/
theorem Event.isInline_of_leaf? {event : Event} {kind : Kind}
    (leaf : event.leaf? = some (kind, false)) : kind.isInline = false := by
  cases event <;> cases leaf <;> rfl

/-- A frame that takes content stays sound. -/
theorem Frame.IsSound.absorb {frame : Frame} (sound : frame.IsSound) (located : LocatedEvent) :
    (frame.absorb located).IsSound := by
  have item := (IsSteady.absorb located).isItem frame
  rw [Frame.absorb] at item ⊢
  cases collects : located.event.collected? frame with
  | some collected =>
    rw [collects] at item
    rcases Frame.collected?_cases collects with ⟨_, _, _, _, _, rfl⟩ | ⟨_, _, _, rfl⟩
    · exact sound.congr item rfl rfl
    · exact sound.congr item rfl rfl
  | none =>
    cases leaf : located.event.leaf? with
    | none => exact sound
    | some kind =>
      obtain ⟨kind, isInline⟩ := kind
      apply (sound.room isInline).add
      · apply AreSound.nodes .nil
        intro checked item child member
        cases member
      · intro item closed
        cases Frame.room_fits item closed
        exact Event.isInline_of_leaf? leaf

/-- A frame that takes a closed one stays sound if there is room for it. -/
theorem Frame.IsSound.attach {frame child : Frame} (sound : frame.IsSound) (closed : child.IsSound)
    (fits : frame.isItem = true → frame.gathered = none → child.close.kind.isInline = false) :
    (child.attach frame).IsSound := by
  rw [Frame.attach]
  split
  · have item := (IsSteady.noteSpread child.holdsParagraph).isItem frame
    apply (sound.congr item (frame.children_noteSpread _) (frame.gathered_noteSpread _)).add
      closed.close
    rwa [item, gathered_noteSpread]
  · exact sound.add closed.close fits

/-- A sound frame stays sound whatever piece it takes. -/
theorem isSound_absorb : (∀ piece frame, Frame.IsSound frame → (Piece.absorb piece frame).IsSound) ∧
    ∀ pieces frame, Frame.IsSound frame → (absorbAll pieces frame).IsSound := by
  refine Piece.induction ?_ ?_ ?_ ?_
  · intro located isContent frame sound
    rw [Piece.absorb_content]
    exact sound.absorb located
  · intro construct opened closed inner below frame sound
    have child : (Piece.child construct opened inner).IsSound := by
      apply below
      apply Frame.IsSound.of_empty
      · rw [Frame.children_mark]
        rfl
      · rw [Frame.gathered_mark]
        rfl
    have isInline : (Piece.child construct opened inner).close.kind.isInline =
        construct.isInline := by
      rw [← Kind.isInline_bare, Piece.bare_close_child, Construct.isInline_kind]
    have noted : (frame.noteOpened construct).IsSound :=
      sound.congr ((Frame.IsSteady.noteOpened construct).isItem frame)
        (frame.children_noteOpened construct) (frame.gathered_noteOpened construct)
    rw [Piece.absorb_construct]
    apply (noted.room construct.isInline).attach child
    intro item closed
    rw [isInline]
    exact Frame.room_fits item closed
  · intro frame sound
    rwa [absorbAll_nil]
  · intro piece rest first others frame sound
    rw [absorbAll_cons]
    exact others _ (first frame sound)

/-- The tree that is built from a balanced stream. Its nodes are well shaped, its lists are those of
the stream, each of them spread exactly when one of its items has a paragraph of the stream directly
inside it, and its prose is that of the stream. -/
theorem build_shape {events : List LocatedEvent} (balanced : IsBalanced events) (length : Nat) :
    (∀ node ∈ (build length events).nodes, node.IsWellShaped) ∧
    ∃! pieces, eventsOf pieces = events ∧
      lists.read (build length events) = listsOf pieces ∧
      prose.read (build length events) = proseOf pieces := by
  obtain ⟨pieces, rfl⟩ := isBalanced_iff.1 balanced
  refine ⟨?_, pieces, ⟨rfl, ?_, ?_⟩, ?_⟩
  · rw [build_eventsOf]
    apply Frame.IsSound.close
    exact isSound_absorb.2 pieces _ (.of_empty rfl rfl)
  · rw [lists.read_build (fun _ => rfl) rfl, lists_absorb.2]
    rfl
  · rw [prose.read_build (fun _ => rfl) rfl, prose_absorb.2 _ _ rfl]
    rfl
  · rintro others ⟨same, -, -⟩
    exact eventsOf_injective same

/-- The events of a loose list whose only item holds a tight one, with a line break in the item of
that. -/
def nestedLists : List LocatedEvent :=
  [⟨.enter (.list none), ⟨0, 16⟩⟩, ⟨.enter .item, ⟨0, 16⟩⟩,
    ⟨.enter .paragraph, ⟨2, 4⟩⟩, ⟨.text ['a'], ⟨2, 3⟩⟩, ⟨.leave, ⟨2, 4⟩⟩,
    ⟨.enter (.list (some 1)), ⟨7, 16⟩⟩, ⟨.enter .item, ⟨7, 16⟩⟩,
    ⟨.text ['b'], ⟨10, 11⟩⟩, ⟨.softBreak, ⟨11, 12⟩⟩, ⟨.text ['c'], ⟨15, 16⟩⟩,
    ⟨.leave, ⟨7, 16⟩⟩, ⟨.leave, ⟨7, 16⟩⟩, ⟨.leave, ⟨0, 16⟩⟩, ⟨.leave, ⟨0, 16⟩⟩]

/-- The tree of the nested lists has this shape. -/
theorem build_shape_nestedLists :
    IsBalanced nestedLists ∧ (∀ node ∈ (build 16 nestedLists).nodes, node.IsWellShaped) ∧
    ∃! pieces, eventsOf pieces = nestedLists ∧
      lists.read (build 16 nestedLists) = listsOf pieces ∧
      prose.read (build 16 nestedLists) = proseOf pieces :=
  ⟨by decide, build_shape (by decide) 16⟩

/-- Only the outer list is spread. -/
example : lists.read (build 16 nestedLists) =
    [(.list false none true, some ⟨0, 16⟩), (.list true (some 1) false, some ⟨7, 16⟩)] := by
  rfl

end Markdown

end Manuscript
