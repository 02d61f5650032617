import Manuscript.Proofs.Markdown.Building

/-!
# Reading what is built

Something is read of a tree in document order: what each node says by itself, and then what is below
it, unless that is hidden (`TreeReading`). A paragraph that only gathers inline content says
nothing, and a text that is joined from others says what they say, so what is read of an open node
grows by what is read of each node that it takes (`readContent_attach`, `readContent_absorb`).
-/

namespace Manuscript.Markdown

/-- A way to read a tree. -/
structure TreeReading (α : Type) where
  /-- What a node says by itself. -/
  own : Kind → Option Span → List α
  /-- Whether what is below a node is hidden. -/
  hides : Kind → Bool
  /-- A paragraph that gathers inline content says nothing. -/
  own_paragraph : own .paragraph none = []
  /-- It hides nothing either. -/
  hides_paragraph : hides .paragraph = false
  /-- Joined texts say what the texts say. -/
  own_text : ∀ front back first second joined,
    own (.text (front ++ back)) joined = own (.text front) first ++ own (.text back) second
  /-- A text is a leaf. -/
  hides_text : ∀ value, hides (.text value) = true

namespace TreeReading

variable {α : Type} (reading : TreeReading α)

mutual

/-- What is read of a tree. -/
def read : Node → List α
  | ⟨kind, children, _, span⟩ =>
    reading.own kind span ++ if reading.hides kind then [] else readList children

/-- What is read of a list of trees. -/
def readList : List Node → List α
  | [] => []
  | node :: rest => read node ++ readList rest

end

/-- What is read of a node is its own and what is below, unless that is hidden. -/
theorem read_eq (node : Node) : reading.read node =
    reading.own node.kind node.span ++
      if reading.hides node.kind then [] else reading.readList node.children := by
  obtain ⟨kind, children, data, span⟩ := node
  rw [read]

/-- What is read of two lists is what is read of the one and then of the other. -/
theorem readList_append (front back : List Node) :
    reading.readList (front ++ back) = reading.readList front ++ reading.readList back := by
  induction front with
  | nil => rfl
  | cons node rest ih => rw [List.cons_append, readList, readList, ih, List.append_assoc]

/-- A list of one node reads as the node. -/
@[simp] theorem readList_singleton (node : Node) :
    reading.readList [node] = reading.read node := by
  rw [readList, readList, List.append_nil]

/-- What is read of a paragraph that gathers inline content is what is read of that. -/
theorem read_paragraph (inlines : List Node) :
    reading.read (.paragraph inlines) = reading.readList inlines := by
  rw [Node.paragraph, read, reading.own_paragraph, reading.hides_paragraph]
  rfl

/-- What is read of a text is its own. -/
theorem read_of_isText {node : Node} {value : Text} (isText : node.kind = .text value) :
    reading.read node = reading.own (.text value) node.span := by
  rw [read_eq, isText, reading.hides_text]
  exact List.append_nil _

/-- A node is read after the nodes that it is added to, also when it is a text that is joined to
another. -/
theorem readList_addMerged (node : Node) (nodes : List Node) :
    reading.readList (addMerged node nodes).reverse =
      reading.readList nodes.reverse ++ reading.read node := by
  rcases addMerged_cases node nodes with
    ⟨plain, -⟩ | ⟨last, before, front, value, span, rfl, isTextLast, isText, joined⟩
  · rw [plain, List.reverse_cons, readList_append, readList_singleton]
  · have own : reading.read { last with kind := .text (front ++ value), span } =
        reading.read last ++ reading.read node := by
      rw [reading.read_of_isText isText, reading.read_of_isText isTextLast,
        reading.read_of_isText rfl]
      exact reading.own_text front value last.span node.span span
    rw [joined, List.reverse_cons, List.reverse_cons, readList_append, readList_append,
      readList_singleton, readList_singleton, own, List.append_assoc]

/-! ## Reading open nodes -/

/-- What is read of what is in a frame so far. -/
def readContent (frame : Frame) : List α :=
  reading.readList frame.content

/-- Making room says nothing. -/
theorem readContent_room (isInline : Bool) (frame : Frame) :
    reading.readContent (frame.room isInline) = reading.readContent frame := by
  obtain ⟨kind, span, children, gathered, holds⟩ := frame
  cases isInline with
  | false => cases gathered <;> rfl
  | true =>
    rw [Frame.room, if_pos rfl, Frame.openGathered]
    split
    · rename_i opens
      rw [Bool.and_eq_true, Option.isNone_iff_eq_none] at opens
      cases opens.2
      simp [readContent, Frame.content, Frame.closeGathered, readList_append, readList,
        read_paragraph]
    · rfl

/-- A node that is added is read last. -/
theorem readContent_add (node : Node) (frame : Frame) :
    reading.readContent (frame.add node) = reading.readContent frame ++ reading.read node := by
  obtain ⟨kind, span, children, gathered, holds⟩ := frame
  cases gathered with
  | none => exact reading.readList_addMerged node children
  | some inlines =>
    simp only [readContent, Frame.content, Frame.add, Frame.closeGathered, List.reverse_cons,
      readList_append, readList_singleton, read_paragraph, readList_addMerged, List.append_assoc]

/-- A note on a paragraph says nothing. -/
theorem readContent_noteOpened (construct : Construct) (frame : Frame) :
    reading.readContent (frame.noteOpened construct) = reading.readContent frame :=
  congrArg reading.readList <| Frame.content_congr (frame.children_noteOpened construct)
    (frame.gathered_noteOpened construct)

/-- A note on a list says nothing. -/
theorem readContent_noteSpread (spread : Bool) (frame : Frame) :
    reading.readContent (frame.noteSpread spread) = reading.readContent frame :=
  congrArg reading.readList <| Frame.content_congr (frame.children_noteSpread spread)
    (frame.gathered_noteSpread spread)

/-- Of a frame that takes a closed one, the closed one is read last. -/
theorem readContent_attach (child frame : Frame) :
    reading.readContent (child.attach frame) =
      reading.readContent frame ++ reading.read child.close := by
  rw [Frame.attach, readContent_add]
  split
  · rw [readContent_noteSpread]
  · rfl

/-- Of a frame that takes a construct, the construct is read last. -/
theorem readContent_construct (construct : Construct) (opened closed : Span) (inner : List Piece)
    (frame : Frame) :
    reading.readContent ((Piece.construct construct opened closed inner).absorb frame) =
      reading.readContent frame ++ reading.read (Piece.child construct opened inner).close := by
  rw [Piece.absorb_construct, readContent_attach, Frame.readyFor_eq, readContent_room,
    readContent_noteOpened]

/-- Nothing is read of a frame that has just been opened. -/
theorem readContent_opened (construct : Construct) (opened : Span) (checked? : Option Bool) :
    reading.readContent ((Frame.opened construct opened).mark checked?) = [] := by
  rw [readContent, Frame.content_mark]
  rfl

/-- What is read of content: what a leaf of that kind says. -/
def ofContent (located : LocatedEvent) : List α :=
  match located.event.leaf? with
  | some (kind, _) => reading.own kind (some located.span)
  | none => []

/-- Of a frame that takes content, the content is read last, unless it was collected literally. -/
theorem readContent_absorb (located : LocatedEvent) (frame : Frame) :
    reading.readContent (frame.absorb located) = reading.readContent frame ++
      if (located.event.collected? frame).isSome then [] else reading.ofContent located := by
  rw [Frame.absorb]
  cases collects : located.event.collected? frame with
  | some collected =>
    have same : reading.readContent collected = reading.readContent frame := by
      rcases Frame.collected?_cases collects with ⟨_, _, _, _, _, rfl⟩ | ⟨_, _, _, rfl⟩
      · exact congrArg reading.readList (Frame.content_congr rfl rfl)
      · exact congrArg reading.readList (Frame.content_congr rfl rfl)
    rw [same]
    exact (List.append_nil _).symm
  | none =>
    rw [ofContent]
    cases located.event.leaf? with
    | none => exact (List.append_nil _).symm
    | some leaf =>
      obtain ⟨kind, isInline⟩ := leaf
      simp only [readContent_add, readContent_room]
      have own : reading.read { kind, span := some located.span } =
          reading.own kind (some located.span) := by
        simp [read, readList]
      rw [own]
      rfl

/-- Of the node that a construct becomes what is inside is read, unless that is hidden or
dropped. -/
theorem read_child (construct : Construct) (opened : Span) (inner : List Piece) :
    let child := Piece.child construct opened inner
    reading.read child.close = reading.own child.close.kind (some opened) ++
      if reading.hides child.close.kind || construct.kind.dropsContent then []
      else reading.readContent child := by
  intro child
  have drops : child.kind.dropsContent = construct.kind.dropsContent := by
    rw [← Kind.dropsContent_bare, Piece.bare_child]
  rw [read_eq, Frame.span_close, Piece.span_child, Frame.children_close, drops]
  cases reading.hides child.close.kind with
  | true => rfl
  | false => cases construct.kind.dropsContent <;> rfl

/-- Of a document that is built, what the root has taken is read. -/
theorem read_build (own : ∀ span, reading.own .root span = [])
    (hides : reading.hides .root = false) (pieces : List Piece) (length : Nat) :
    reading.read (build length (eventsOf pieces)) =
      reading.readContent (absorbAll pieces { kind := .root, span := some ⟨0, length⟩ }) := by
  have root : (absorbAll pieces { kind := .root, span := some ⟨0, length⟩ }).kind.bare = .root :=
    (isSteady_absorbAll pieces).kind _
  have kind : (absorbAll pieces { kind := .root, span := some ⟨0, length⟩ }).close.kind = .root :=
    Kind.eq_root_of_bare (by rw [Frame.bare_close, root])
  rw [build_eventsOf, read_eq, kind, own, hides, Frame.children_close,
    Kind.eq_root_of_bare root]
  rfl

end TreeReading

end Manuscript.Markdown
