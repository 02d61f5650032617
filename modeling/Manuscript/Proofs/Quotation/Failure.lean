import Manuscript.Proofs.Quotation.Cut

/-!
# Quotations that cannot be cut

The pass over quotations fails on a document exactly when one of its quotations cannot be cut, and a
quotation cannot be cut exactly when, among its paragraphs from the last one on, the content of one
would end inside a character (`MisplacedCut`). Quotations inside a quotation have been made figures
by then. Nothing else that the pass does can fail.
-/

namespace Manuscript

namespace Quotation

open Text

/-- The content of a node, as its metadata leaves it, would be cut inside a character. -/
def MisplacedCut (options : BlockquoteOptions) (found : Metadata) (node : Node) : Prop :=
  ∃ position, found.start? options node = some position ∧
    CutsCharacter (byteLength (contentText position node))
      (countedText (byteLength (contentText position node)) node.children)

/-- The content of a node cannot be kept exactly when it would be cut inside a character. -/
theorem keepContent_eq_none_iff {position : Nat} {node : Node} :
    keepContent position node = none ↔
      CutsCharacter (byteLength (contentText position node))
        (countedText (byteLength (contentText position node)) node.children) := by
  rw [keepContent]
  by_cases empty : (contentText position node).isEmpty = true
  · rw [if_pos empty, List.isEmpty_iff.1 empty]
    constructor
    · intro none
      cases none
    · intro cuts
      exact absurd cuts (not_cutsCharacter_zero _)
  · rw [if_neg empty, Option.map_eq_none_iff, cutList_eq_none_iff]

/-- Takes the metadata from one child of a quote. -/
def takeFrom (options : BlockquoteOptions) (found : Metadata) (node : Node) :
    Option (List Node × Metadata) :=
  match found.start? options node with
  | none => some ([node], found)
  | some position => (keepContent position node).map fun kept =>
    (kept, found.addLines options (visibleText node))

/-- A child cannot be taken from exactly when it would be cut inside a character. -/
theorem takeFrom_eq_none_iff {options : BlockquoteOptions} {found : Metadata} {node : Node} :
    takeFrom options found node = none ↔ MisplacedCut options found node := by
  rw [takeFrom, MisplacedCut]
  cases start : found.start? options node with
  | none => simp
  | some position => simp [keepContent_eq_none_iff]

/-- When everything has been found, no further line is looked for. -/
theorem start?_of_isComplete {options : BlockquoteOptions} {found : Metadata}
    (complete : found.isComplete = true) (node : Node) : found.start? options node = none := by
  rw [Metadata.isComplete, Bool.and_eq_true] at complete
  simp [Metadata.start?, Metadata.attributionStart?, Metadata.captionStart?, complete, earlier]

/-- When everything has been found, the other children are kept as they are. -/
theorem takeMetadata_of_isComplete {options : BlockquoteOptions} {found : Metadata}
    (complete : found.isComplete = true) (nodes : List Node) :
    takeMetadata options nodes found = some (nodes, found) := by
  induction nodes with
  | nil => rw [takeMetadata]
  | cons node rest ih =>
    rw [takeMetadata, start?_of_isComplete complete]
    simp only [ih, Option.map_some]

/-- The metadata is taken from one child after the other. -/
theorem takeMetadata_cons (options : BlockquoteOptions) (node : Node) (rest : List Node)
    (found : Metadata) :
    takeMetadata options (node :: rest) found =
      (takeFrom options found node).bind fun (kept, found) =>
        (takeMetadata options rest found).map fun (rest, found) => (kept ++ rest, found) := by
  rw [takeMetadata, takeFrom]
  cases start : found.start? options node with
  | none => rfl
  | some position =>
    dsimp only
    cases keepContent position node with
    | none => rfl
    | some kept =>
      by_cases complete : (found.addLines options (visibleText node)).isComplete = true
      · simp [complete, takeMetadata_of_isComplete complete]
      · simp [complete]

/-- Metadata cannot be taken exactly when one of the children would be cut inside a character, with
what has been found in those before it. -/
theorem takeMetadata_eq_none_iff {options : BlockquoteOptions} {nodes : List Node}
    {found : Metadata} :
    takeMetadata options nodes found = none ↔
      ∃ front node back kept later, nodes = front ++ node :: back ∧
        takeMetadata options front found = some (kept, later) ∧
        MisplacedCut options later node := by
  induction nodes generalizing found with
  | nil => simp [takeMetadata]
  | cons first rest ih =>
    rw [takeMetadata_cons, Option.bind_eq_none_iff]
    constructor
    · intro fails
      cases taken : takeFrom options found first with
      | none =>
        exact ⟨[], first, rest, [], found, rfl, by rw [takeMetadata],
          takeFrom_eq_none_iff.1 taken⟩
      | some result =>
        obtain ⟨keptFirst, next⟩ := result
        obtain ⟨front, node, back, kept, later, rfl, before, misplaced⟩ :=
          ih.1 (Option.map_eq_none_iff.1 (fails _ taken))
        refine ⟨first :: front, node, back, keptFirst ++ kept, later, rfl, ?_, misplaced⟩
        rw [takeMetadata_cons, taken, Option.bind_some]
        simp only [before, Option.map_some]
    · rintro ⟨front, node, back, kept, later, whole, before, misplaced⟩ result taken
      cases front with
      | nil =>
        rw [takeMetadata] at before
        cases before
        cases whole
        rw [takeFrom_eq_none_iff.2 misplaced] at taken
        cases taken
      | cons _ front =>
        cases whole
        rw [takeMetadata_cons, taken, Option.bind_some, Option.map_eq_some_iff] at before
        obtain ⟨⟨others, last⟩, inFront, same⟩ := before
        cases same
        rw [Option.map_eq_none_iff]
        exact ih.2 ⟨front, node, back, others, later, rfl, inFront, misplaced⟩

/-- Text without the blanks at its end is the start of the text. -/
theorem trimEnd_append (text : Text) : ∃ blanks, text = trimEnd text ++ blanks := by
  refine ⟨(text.reverse.takeWhile isBlank).reverse, ?_⟩
  rw [trimEnd, ← List.reverse_append, List.takeWhile_append_dropWhile, List.reverse_reverse]

/-- Metadata is only found in paragraphs. -/
theorem kind_of_start? {options : BlockquoteOptions} {found : Metadata} {node : Node}
    {position : Nat} (start : found.start? options node = some position) :
    node.kind = .paragraph := by
  rw [Metadata.start?] at start
  split at start
  · rename_i both
    rw [Bool.and_eq_true, Node.isParagraph, decide_eq_true_eq] at both
    exact both.1
  · cases start

/-- The visible text of a paragraph begins with its content. -/
theorem visibleTextList_eq_content {node : Node} (paragraph : node.kind = .paragraph)
    (position : Nat) :
    ∃ others, visibleTextList node.children = contentText position node ++ others := by
  obtain ⟨kind, children, data, span⟩ := node
  subst paragraph
  obtain ⟨blanks, trimmed⟩ :=
    trimEnd_append ((visibleText ⟨.paragraph, children, data, span⟩).take position)
  refine ⟨blanks ++ (visibleTextList children).drop position, ?_⟩
  rw [contentText, ← List.append_assoc, ← trimmed]
  exact (List.take_append_drop position _).symm

/-- A misplaced cut has a piece of code in its way, which is in a node of the paragraph and inside
of which the content would end. -/
theorem MisplacedCut.strandsCode {options : BlockquoteOptions} {found : Metadata} {node : Node}
    (misplaced : MisplacedCut options found node) :
    ∃ position, found.start? options node = some position ∧
      StrandsCode (byteLength (contentText position node)) node.children := by
  obtain ⟨position, start, cuts⟩ := misplaced
  obtain ⟨others, visible⟩ := visibleTextList_eq_content (kind_of_start? start) position
  exact ⟨position, start, strandsCode_of_cutsCharacter visible cuts⟩

/-- A quotation would be cut inside a character when the quotations inside it are figures. -/
def CannotBeCut (options : BlockquoteOptions) (quote : Node) : Prop :=
  quote.kind = .blockquote ∧
    ∃ inner front node back kept found, transformBelow options quote = some inner ∧
      inner.children = front ++ node :: back ∧
      takeMetadata options back.reverse {} = some (kept, found) ∧
      MisplacedCut options found node

/-- A quotation cannot be made a figure exactly when its metadata cannot be taken. -/
theorem transform_eq_none_iff {options : BlockquoteOptions} {quote : Node} :
    transform options quote = none ↔
      ∃ front node back kept found, quote.children = front ++ node :: back ∧
        takeMetadata options back.reverse {} = some (kept, found) ∧
        MisplacedCut options found node := by
  have taken : transform options quote = none ↔
      takeMetadata options quote.children.reverse {} = none := by
    rw [transform]
    cases takeMetadata options quote.children.reverse {} with
    | none => simp
    | some result =>
      obtain ⟨kept, found⟩ := result
      simp only [reduceCtorEq, iff_false]
      dsimp only [bind, Option.bind_some]
      split <;> exact Option.some_ne_none _
  rw [taken, takeMetadata_eq_none_iff]
  constructor
  · rintro ⟨front, node, back, kept, found, whole, before, misplaced⟩
    refine ⟨back.reverse, node, front.reverse, kept, found, ?_, by simpa using before, misplaced⟩
    simpa using congrArg List.reverse whole
  · rintro ⟨front, node, back, kept, found, whole, before, misplaced⟩
    exact ⟨back.reverse, node, front.reverse, kept, found, by simp [whole], before, misplaced⟩

/-- The pass keeps the kind of the node that it starts from. -/
theorem kind_of_transformBelow {options : BlockquoteOptions} {node inner : Node}
    (below : transformBelow options node = some inner) : inner.kind = node.kind := by
  obtain ⟨kind, children, data, span⟩ := node
  rw [transformBelow, Option.map_eq_some_iff] at below
  obtain ⟨_, _, rfl⟩ := below
  rfl

/-- Once the quotations inside it are figures, a quotation that cannot be cut is one that cannot be
made a figure. -/
theorem cannotBeCut_iff {options : BlockquoteOptions} {quote inner : Node}
    (below : transformBelow options quote = some inner) :
    CannotBeCut options quote ↔ inner.kind = .blockquote ∧ transform options inner = none := by
  rw [CannotBeCut, transform_eq_none_iff, kind_of_transformBelow below, below]
  refine and_congr_right fun _ => ?_
  constructor
  · rintro ⟨_, front, node, back, kept, found, same, cannot⟩
    cases same
    exact ⟨front, node, back, kept, found, cannot⟩
  · rintro ⟨front, node, back, kept, found, cannot⟩
    exact ⟨inner, front, node, back, kept, found, rfl, cannot⟩

/-- The siblings after the first are transformed if the first can be. -/
theorem transformList_cons_eq_none_iff {options : BlockquoteOptions} {node inner : Node}
    (below : transformBelow options node = some inner) (rest : List Node) :
    transformList options (node :: rest) = none ↔
      (inner.kind = .blockquote ∧ transform options inner = none) ∨
        transformList options rest = none := by
  rw [transformList, below]
  by_cases isQuote : inner.kind = .blockquote
  · cases made : transform options inner <;> cases transformList options rest <;>
      simp [isQuote, made]
  · cases transformList options rest <;> simp [isQuote]

/-- The pass fails exactly when one of the quotations below a node cannot be cut. -/
theorem transform_fails_iff (options : BlockquoteOptions) :
    (∀ tree, transformBelow options tree = none ↔
      ∃ quote ∈ tree.descendants, CannotBeCut options quote) ∧
    ∀ nodes, transformList options nodes = none ↔
      ∃ quote ∈ Node.nodesBelow nodes, CannotBeCut options quote := by
  refine Node.induction ?_ ?_ ?_
  · intro kind children data span below
    rw [transformBelow, Option.map_eq_none_iff, below]
    rfl
  · simp [transformList, Node.nodesBelow]
  · intro node rest head tail
    rw [Node.nodesBelow, Node.nodes_eq]
    cases below : transformBelow options node with
    | none =>
      obtain ⟨quote, member, cannot⟩ := head.1 below
      refine iff_of_true ?_ ⟨quote, by simp [member], cannot⟩
      rw [transformList, below]
      rfl
    | some inner =>
      have sound : ¬ ∃ quote ∈ node.descendants, CannotBeCut options quote := by
        rw [← head, below]
        exact Option.some_ne_none _
      rw [transformList_cons_eq_none_iff below, ← cannotBeCut_iff below, tail]
      constructor
      · rintro (cannot | ⟨quote, member, cannot⟩)
        · exact ⟨node, by simp, cannot⟩
        · exact ⟨quote, by simp [member], cannot⟩
      · rintro ⟨quote, member, cannot⟩
        rw [List.cons_append, List.mem_cons, List.mem_append] at member
        rcases member with rfl | inside | after
        · exact .inl cannot
        · exact absurd ⟨quote, inside, cannot⟩ sound
        · exact .inr ⟨quote, after, cannot⟩

end Quotation

end Manuscript
