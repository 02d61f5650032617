import Manuscript.Proofs.Alignment.Mirror
import Manuscript.Proofs.Document.Induction
import Manuscript.Prose.Abbreviation

/-!
# Aligned blocks in a document with abbreviations

Marking the uses of abbreviations cuts texts into pieces, and the pieces have no span. Whether a tag
is escaped is seen from the span of its text, so that the pass over aligned blocks may read a
paragraph in another way when its first or its last text has been cut. A document whose paragraphs
have no uses there is mirrored by what the marking makes of it (`mirror_mark`).
-/

namespace Manuscript.Abbreviation

open Manuscript.Alignment

/-- The nodes of a list with the uses of abbreviations marked. -/
def mark (entries : List Abbreviation) (nodes : List Node) : List Node :=
  (markUseList false entries nodes []).1

/-- Nothing is noted while uses are only marked. -/
theorem cut_expanded (position : Nat) (text : Text) (uses : List Use) (expanded : List Text) :
    cut false position text uses expanded = ((cut false position text uses []).1, expanded) := by
  induction uses generalizing position text with
  | nil => rfl
  | cons use rest ih =>
    simp only [cut, Bool.false_and, Bool.false_eq_true, if_false]
    rw [ih]

/-- What becomes of a node when uses are marked. -/
def pieces (entries : List Abbreviation) (node : Node) : List Node :=
  match node.kind with
  | .text value =>
    match uses entries value with
    | [] => [node]
    | found => (cut false 0 value found []).1
  | .abbreviation _ => [node]
  | _ => [{ node with children := mark entries node.children }]

/-- Nothing is noted while uses are only marked, and every node becomes its pieces. -/
theorem markUseList_eq (entries : List Abbreviation) :
    (∀ node expanded, markUses false entries node expanded =
      ({ node with children := mark entries node.children }, expanded)) ∧
    ∀ nodes expanded,
      markUseList false entries nodes expanded = (nodes.flatMap (pieces entries), expanded) := by
  refine Node.induction ?_ ?_ ?_
  · intro kind children data span below expanded
    rw [markUses, mark, below, below]
  · intro expanded
    rw [markUseList]
    rfl
  · rintro ⟨kind, children, data, span⟩ rest head tail expanded
    rw [List.flatMap_cons]
    cases kind with
    | text value =>
      rw [markUseList, pieces]
      dsimp only
      cases uses entries value with
      | nil => simp only [tail]; rfl
      | cons use later => dsimp only; rw [cut_expanded]; simp only [tail]
    | abbreviation title =>
      rw [markUseList, pieces]
      simp only [tail]
      rfl
    | _ =>
      unfold markUseList
      simp only [head, tail]
      rfl

/-- A list is marked by marking its nodes. -/
theorem mark_eq (entries : List Abbreviation) (nodes : List Node) :
    mark entries nodes = nodes.flatMap (pieces entries) := by
  rw [mark, (markUseList_eq entries).2]

/-- The first sibling is marked by itself. -/
theorem mark_cons (entries : List Abbreviation) (node : Node) (rest : List Node) :
    mark entries (node :: rest) = pieces entries node ++ mark entries rest := by
  rw [mark_eq, mark_eq, List.flatMap_cons]

/-- Siblings are marked apart from those before them. -/
theorem mark_append (entries : List Abbreviation) (front back : List Node) :
    mark entries (front ++ back) = mark entries front ++ mark entries back := by
  rw [mark_eq, mark_eq, mark_eq, List.flatMap_append]

/-- A text without uses stays as it is. -/
theorem pieces_of_unused {entries : List Abbreviation} {node : Node} {value : Text}
    (kind : node.kind = .text value) (unused : uses entries value = []) :
    pieces entries node = [node] := by
  rw [pieces, kind]
  simp only [unused]

/-- A text with uses becomes the pieces around them. -/
theorem pieces_of_used {entries : List Abbreviation} {node : Node} {value : Text}
    (kind : node.kind = .text value) {use : Use} {later : List Use}
    (used : uses entries value = use :: later) :
    pieces entries node = (cut false 0 value (use :: later) []).1 := by
  rw [pieces, kind]
  simp only [used]

/-- A block stays, with what is marked below it. -/
theorem pieces_of_block {entries : List Abbreviation} {node : Node}
    (isBlock : isWording node = false) :
    pieces entries node = [{ node with children := mark entries node.children }] := by
  cases kind : node.kind with
  | text value =>
    rw [isWording, kind] at isBlock
    cases isBlock
  | abbreviation title =>
    rw [isWording, kind] at isBlock
    cases isBlock
  | _ => rw [pieces, kind]

/-- A text is cut into what is before its first use, the use, and the rest. -/
theorem cut_cons (position : Nat) (text : Text) (use : Use) (later : List Use) :
    (cut false position text (use :: later) []).1 =
      Node.ofText (text.take (use.start - position)) ++ node use.entry ::
        (cut false use.stop (text.drop (use.stop - position)) later []).1 := by
  simp [cut]

/-- A text is cut into pieces of text. -/
theorem isWording_of_mem_cut {position : Nat} {text : Text} {uses : List Use} :
    ∀ piece ∈ (cut false position text uses []).1, isWording piece = true := by
  have single : ∀ text, ∀ piece ∈ Node.ofText text, isWording piece = true := by
    intro text piece member
    rw [Node.ofText] at member
    split at member
    · cases member
    · rw [List.mem_singleton.1 member]
      rfl
  induction uses generalizing position text with
  | nil => exact single text
  | cons use later ih =>
    intro piece member
    rw [cut_cons, List.mem_append, List.mem_cons] at member
    rcases member with before | rfl | after
    · exact single _ piece before
    · rfl
    · exact ih piece after

/-- A piece of text becomes one or more pieces of text. -/
theorem pieces_of_isWording {entries : List Abbreviation} {node : Node}
    (wording : isWording node = true) :
    pieces entries node ≠ [] ∧ ∀ piece ∈ pieces entries node, isWording piece = true := by
  have itself : pieces entries node = [node] →
      pieces entries node ≠ [] ∧ ∀ piece ∈ pieces entries node, isWording piece = true := by
    intro same
    rw [same]
    exact ⟨List.cons_ne_nil _ _, fun piece member => by rwa [List.mem_singleton.1 member]⟩
  cases kind : node.kind with
  | text value =>
    cases used : uses entries value with
    | nil => exact itself (pieces_of_unused kind used)
    | cons use later =>
      rw [pieces_of_used kind used]
      refine ⟨?_, isWording_of_mem_cut⟩
      rw [cut_cons]
      simp
  | abbreviation title => exact itself (by rw [pieces, kind])
  | _ =>
    rw [isWording, kind] at wording
    cases wording

/-- A node that is no text becomes one that is none. -/
theorem pieces_of_not_isText {entries : List Abbreviation} {node : Node}
    (other : node.isText = false) :
    ∃ piece, pieces entries node = [piece] ∧ piece.isText = false := by
  cases wording : isWording node with
  | false => exact ⟨_, pieces_of_block wording, other⟩
  | true =>
    rw [isWording] at wording
    split at wording
    · rename_i value kind
      rw [Node.isText, Node.textValue?, kind] at other
      cases other
    · rename_i title kind
      exact ⟨node, by rw [pieces, kind], other⟩
    · cases wording

/-- Marking puts no texts where there are none. -/
theorem textless_mark {entries : List Abbreviation} {nodes : List Node}
    (textless : Textless nodes) : Textless (mark entries nodes) := by
  intro piece member
  rw [mark_eq, List.mem_flatMap] at member
  obtain ⟨node, inNodes, inPieces⟩ := member
  obtain ⟨single, same, other⟩ := pieces_of_not_isText (textless node inNodes)
  rw [same, List.mem_singleton] at inPieces
  rwa [inPieces]

/-- Every node becomes one or more. -/
theorem pieces_ne_nil (entries : List Abbreviation) (node : Node) :
    pieces entries node ≠ [] := by
  cases wording : isWording node with
  | false =>
    rw [pieces_of_block wording]
    exact List.cons_ne_nil _ _
  | true => exact (pieces_of_isWording wording).1

/-- Marking leaves nothing only of nothing. -/
theorem isEmpty_mark (entries : List Abbreviation) (nodes : List Node) :
    (mark entries nodes).isEmpty = nodes.isEmpty := by
  cases nodes with
  | nil => rw [mark_eq]; rfl
  | cons node rest =>
    rw [mark_cons, List.isEmpty_cons, List.isEmpty_eq_false_iff]
    exact fun none => pieces_ne_nil entries node (List.append_eq_nil_iff.1 none).1

/-- A name that is not blank does not occur in a blank text. -/
theorem occurrences_of_blank {name : Text} (visible : Text.isBlankText name = false) {text : Text}
    (blank : Text.isBlankText text = true) (start : Nat) : occurrences name 0 start text = [] := by
  induction text generalizing start with
  | nil => rfl
  | cons c rest ih =>
    have later : Text.isBlankText rest = true := by
      rw [Text.isBlankText, List.all_cons, Bool.and_eq_true] at blank
      exact blank.2
    have absent : name.isPrefixOf (c :: rest) = false := by
      refine Bool.eq_false_iff.2 fun front => ?_
      obtain ⟨back, whole⟩ := List.isPrefixOf_iff_prefix.1 front
      rw [← whole, Text.isBlankText, List.all_append, Bool.and_eq_true] at blank
      rw [Text.isBlankText, blank.1] at visible
      cases visible
    rw [occurrences, absent]
    simpa using ih later (start + 1)

/-- A blank text has no uses of names that are not blank. -/
theorem uses_of_blank {entries : List Abbreviation}
    (visible : ∀ entry ∈ entries, Text.isBlankText entry.name = false) {text : Text}
    (blank : Text.isBlankText text = true) : uses entries text = [] := by
  rw [uses]
  induction entries with
  | nil => rfl
  | cons entry rest ih =>
    have none := occurrences_of_blank (visible entry List.mem_cons_self) blank 0
    rw [List.foldl_cons, addUses, none, List.foldl_nil]
    exact ih fun other member => visible other (List.mem_cons_of_mem _ member)

/-- The pieces of a node are blank exactly when it is, if no name is blank. -/
theorem isBlankList_pieces {entries : List Abbreviation}
    (visible : ∀ entry ∈ entries, Text.isBlankText entry.name = false) (node : Node) :
    isBlankList (pieces entries node) = isBlankList [node] := by
  cases isText : node.isText with
  | false =>
    obtain ⟨piece, single, other⟩ := @pieces_of_not_isText entries node isText
    have blank : ∀ node : Node, node.isText = false → isBlankList [node] = false := by
      intro node other
      rw [isBlankList, List.all_cons, textValue?_of_not_isText other]
      rfl
    rw [single, blank piece other, blank node isText]
  | true =>
    obtain ⟨value, own⟩ := Option.isSome_iff_exists.1 isText
    have kind : node.kind = .text value := by
      rw [Node.textValue?] at own
      split at own
      · cases own
        assumption
      · cases own
    cases used : uses entries value with
    | nil => rw [pieces_of_unused kind used]
    | cons use later =>
      have clear : Text.isBlankText value = false := by
        refine Bool.eq_false_iff.2 fun blank => ?_
        rw [uses_of_blank visible blank] at used
        cases used
      have own : isBlankList [node] = false := by simp [isBlankList, own, clear]
      rw [pieces_of_used kind used, cut_cons, own, isBlankList_append, Bool.and_eq_false_iff]
      exact .inr rfl

/-- A marked list is blank exactly when the list is, if no name is blank. -/
theorem isBlankList_mark {entries : List Abbreviation}
    (visible : ∀ entry ∈ entries, Text.isBlankText entry.name = false) (nodes : List Node) :
    isBlankList (mark entries nodes) = isBlankList nodes := by
  induction nodes with
  | nil => rw [mark_eq]; rfl
  | cons node rest ih =>
    have split : isBlankList (node :: rest) = (isBlankList [node] && isBlankList rest) :=
      isBlankList_append [node] rest
    rw [mark_cons, isBlankList_append, isBlankList_pieces visible, ih, split]

/-- No abbreviation is used in the first or the last text of a paragraph. -/
def UnusedAtEnds (entries : List Abbreviation) (paragraph : Node) : Prop :=
  ∀ node value, node.kind = .text value →
    paragraph.children.find? Node.isText = some node ∨
      paragraph.children.reverse.find? Node.isText = some node →
    uses entries value = []

/-- The first text is found behind nodes that are no texts. -/
theorem find?_append {front : List Node} (textless : Textless front) {text : Node}
    (isText : text.isText = true) (back : List Node) :
    (front ++ text :: back).find? Node.isText = some text := by
  have none : front.find? Node.isText = none :=
    List.find?_eq_none.2 fun node member => by rw [textless node member]; exact Bool.false_ne_true
  rw [List.find?_append, none, List.find?_cons_of_pos isText]
  rfl

/-- A paragraph has the same ends when uses are marked, if there are none at its ends. -/
theorem sameEnds_mark {entries : List Abbreviation}
    (visible : ∀ entry ∈ entries, Text.isBlankText entry.name = false) {paragraph : Node}
    (unused : UnusedAtEnds entries paragraph) :
    SameEnds paragraph.children (mark entries paragraph.children) := by
  have whole : ∀ node : Node, node.isText = true →
      (paragraph.children.find? Node.isText = some node ∨
        paragraph.children.reverse.find? Node.isText = some node) →
      pieces entries node = [node] := by
    intro node isText isEnd
    obtain ⟨value, own⟩ := Option.isSome_iff_exists.1 isText
    rw [Node.textValue?] at own
    split at own
    · rename_i kind
      exact pieces_of_unused kind (unused node _ kind isEnd)
    · cases own
  obtain ⟨ends, clear, shape⟩ := exists_shape paragraph.children
  refine ⟨ends, clear, shape, ?_⟩
  generalize paragraph.children = nodes at shape whole
  cases shape with
  | none textless =>
    rw [← isEmpty_mark entries]
    exact .none (textless_mark textless)
  | @one front back text before after isText =>
    rw [mark_append, mark_cons, whole text isText (.inl (find?_append before isText back)),
      ← isEmpty_mark entries front, ← isEmpty_mark entries back]
    exact .one (textless_mark before) (textless_mark after) isText
  | @two front middle back first last before after isText isText' =>
    have reversed : (front ++ first :: (middle ++ last :: back)).reverse =
        back.reverse ++ last :: (front ++ first :: middle).reverse := by simp
    have atEnd : (front ++ first :: (middle ++ last :: back)).reverse.find? Node.isText =
        some last := by
      rw [reversed]
      exact find?_append after.reverse isText' _
    rw [mark_append, mark_cons, mark_append, mark_cons,
      whole first isText (.inl (find?_append before isText _)),
      whole last isText' (.inr atEnd), ← isEmpty_mark entries front,
      ← isEmpty_mark entries back, ← isBlankList_mark visible middle]
    exact .two (textless_mark before) (textless_mark after) isText isText'

/-- A piece of text is mirrored by its pieces. -/
theorem mirror_pieces {node : Node} (wording : isWording node = true)
    {parts rest others : List Node} (nonempty : parts ≠ [])
    (areWording : ∀ piece ∈ parts, isWording piece = true)
    (later : Mirror rest others) : Mirror (node :: rest) (parts ++ others) := by
  induction parts with
  | nil => exact absurd rfl nonempty
  | cons piece more ih =>
    have first := areWording piece List.mem_cons_self
    cases more with
    | nil => exact .word wording first later
    | cons second more =>
      exact .more wording first (ih (List.cons_ne_nil _ _) fun other member =>
        areWording other (List.mem_cons_of_mem _ member))

/-- A document in which no abbreviation is used at the ends of a paragraph is mirrored by what the
marking makes of it. -/
theorem mirror_mark {entries : List Abbreviation}
    (visible : ∀ entry ∈ entries, Text.isBlankText entry.name = false) {nodes : List Node}
    (unused : ∀ paragraph ∈ Node.nodesBelow nodes, paragraph.isParagraph = true →
      UnusedAtEnds entries paragraph) :
    Mirror nodes (mark entries nodes) := by
  refine (Node.induction
    (P := fun node => (∀ paragraph ∈ node.descendants, paragraph.isParagraph = true →
      UnusedAtEnds entries paragraph) → Mirror node.children (mark entries node.children))
    (Q := fun nodes => (∀ paragraph ∈ Node.nodesBelow nodes, paragraph.isParagraph = true →
      UnusedAtEnds entries paragraph) → Mirror nodes (mark entries nodes)) ?_ ?_ ?_).2 nodes unused
  · intro kind children data span below unused
    exact below unused
  · intro _
    rw [mark_eq]
    exact .nil
  · intro node rest head tail unused
    have unusedBelow : ∀ paragraph ∈ node.descendants, paragraph.isParagraph = true →
        UnusedAtEnds entries paragraph := fun paragraph member =>
      unused paragraph (by
        rw [Node.nodesBelow, Node.nodes_eq]
        exact List.mem_append_left _ (List.mem_cons_of_mem _ member))
    have unusedLater : ∀ paragraph ∈ Node.nodesBelow rest, paragraph.isParagraph = true →
        UnusedAtEnds entries paragraph := fun paragraph member =>
      unused paragraph (by
        rw [Node.nodesBelow]
        exact List.mem_append_right _ member)
    rw [mark_cons]
    cases wording : isWording node with
    | true =>
      obtain ⟨nonempty, areWording⟩ := @pieces_of_isWording entries node wording
      exact mirror_pieces wording nonempty areWording (tail unusedLater)
    | false =>
      rw [pieces_of_block wording]
      refine .block wording rfl (fun isParagraph => ?_) (head unusedBelow) (tail unusedLater)
      exact sameEnds_mark visible (unused node (by
        rw [Node.nodesBelow, Node.nodes_eq]
        exact List.mem_append_left _ List.mem_cons_self) isParagraph)

end Manuscript.Abbreviation
