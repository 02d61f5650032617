import Manuscript.Proofs.Abbreviation.Covering
import Manuscript.Proofs.Document.Induction

/-!
# Uses that are wrapped

Marking the abbreviations of a document cuts each of its texts around the uses in it, and puts a
node for the abbreviation in the place of each (`CutAround`); outside texts it changes nothing
(`Marked`). Which occurrences of a name become such a node is said for every text of a document at
once (`marked_markDocument`).
-/

namespace Manuscript.Abbreviation

/-- What is written for a use: its node, and with `expandFirst` also the node in parentheses behind
its title. -/
def IsWritten (expandFirst : Bool) (entry : Abbreviation) (nodes : List Node) : Prop :=
  nodes = [node entry] ∨ expandFirst = true ∧
    nodes = [Node.text (entry.title ++ " (".toList), node entry, Node.text ")".toList]

/-- The nodes into which the rest of a text, which begins after `position` characters, is cut around
uses. -/
inductive CutAround (expandFirst : Bool) : Nat → Text → List Use → List Node → Prop
  | rest {position : Nat} {text : Text} : CutAround expandFirst position text [] (Node.ofText text)
  | use {position : Nat} {before after : Text} {use : Use} {later : List Use}
      {written nodes : List Node} (place : use.start = position + before.length)
      (writes : IsWritten expandFirst use.entry written)
      (inner : CutAround expandFirst use.stop after later nodes) :
      CutAround expandFirst position (before ++ (use.entry.name ++ after)) (use :: later)
        (Node.ofText before ++ (written ++ nodes))

/-- A text is cut into what is before its first use, what is written for the use, and the pieces of
what comes after it. -/
theorem exists_cut_cons (expandFirst : Bool) (position : Nat) (text : Text) (use : Use)
    (rest : List Use) (expanded : List Text) :
    ∃ written later, IsWritten expandFirst use.entry written ∧
      (cut expandFirst position text (use :: rest) expanded).1 =
        Node.ofText (text.take (use.start - position)) ++ (written ++
          (cut expandFirst use.stop (text.drop (use.stop - position)) rest later).1) := by
  rw [cut]
  dsimp only
  split
  · rename_i first
    rw [Bool.and_eq_true] at first
    exact ⟨[Node.text (use.entry.title ++ " (".toList), node use.entry, Node.text ")".toList], _,
      .inr ⟨first.1, rfl⟩, rfl⟩
  · exact ⟨[node use.entry], _, .inl rfl, rfl⟩

/-- A text is cut around uses that stand in it, in order. -/
theorem cutAround_cut (expandFirst : Bool) {entries : List Abbreviation}
    (named : ∀ entry ∈ entries, entry.IsNamed) {value : Text} {uses : List Use}
    (standing : ∀ use ∈ uses, use.StandsIn entries value) (apart : Use.Apart uses) {position : Nat}
    (behind : ∀ use ∈ uses, position ≤ use.start) (expanded : List Text) :
    CutAround expandFirst position (value.drop position) uses
      (cut expandFirst position (value.drop position) uses expanded).1 := by
  induction uses generalizing position expanded with
  | nil => exact .rest
  | cons use later ih =>
    obtain ⟨stands, standing⟩ := List.forall_mem_cons.1 standing
    obtain ⟨reached, _⟩ := List.forall_mem_cons.1 behind
    obtain ⟨ordered, apart⟩ := List.pairwise_cons.1 apart
    obtain ⟨after, whole⟩ := stands.stands
    have inside : use.start < value.length := by
      have size := congrArg List.length whole
      have nonempty := List.length_pos_iff.2 (named _ stands.isEntry).nonempty
      rw [List.length_append, List.length_drop] at size
      omega
    have ends : value.drop use.stop = after := by
      rw [Use.stop, ← List.drop_drop, ← whole, List.drop_left]
    have parts : value.drop position =
        (value.drop position).take (use.start - position) ++ (use.entry.name ++ after) := by
      have here : (value.drop position).drop (use.start - position) = use.entry.name ++ after := by
        rw [List.drop_drop, Nat.add_sub_cancel' reached, whole]
      rw [← here, List.take_append_drop]
    have rest : (value.drop position).drop (use.stop - position) = value.drop use.stop := by
      rw [List.drop_drop, Nat.add_sub_cancel' (by rw [Use.stop]; omega)]
    have place : use.start =
        position + ((value.drop position).take (use.start - position)).length := by
      rw [List.length_take, List.length_drop]
      omega
    obtain ⟨written, expanded, writes, pieces⟩ :=
      exists_cut_cons expandFirst position (value.drop position) use later expanded
    have inner := ih standing apart ordered expanded
    rw [pieces, rest, ends]
    rw [ends] at inner
    generalize (value.drop position).take (use.start - position) = before at parts place ⊢
    rw [parts]
    exact .use place writes inner

/-! ## Documents -/

/-- What is said of the uses that are wrapped in a text: they stand there, and an occurrence of a
name that touches no letter is wrapped or lies under a wrapped use of a name that is at least as
long, unless an occurrence before it hides it. -/
structure IsWrapped (entries : List Abbreviation) (value : Text) (wrapped : List Use) : Prop where
  /-- Wrapped uses stand in the text. -/
  standing : ∀ use ∈ wrapped, use.StandsIn entries value
  /-- Which uses are missed. -/
  missed : ∀ use : Use, use.StandsIn entries value → use.touchesLetter value = false →
    (¬ use.IsCovered wrapped ↔ use.IsHidden value wrapped ∧ ¬ use.LiesUnder wrapped)

/-- What becomes of a list of nodes when the uses in their texts are wrapped. -/
inductive Marked (expandFirst : Bool) (entries : List Abbreviation) : List Node → List Node → Prop
  | nil : Marked expandFirst entries [] []
  | text {node : Node} {value : Text} {wrapped : List Use} {pieces rest others : List Node}
      (kind : node.kind = .text value) (isWrapped : IsWrapped entries value wrapped)
      (cut : wrapped = [] ∧ pieces = [node] ∨
        wrapped ≠ [] ∧ CutAround expandFirst 0 value wrapped pieces)
      (later : Marked expandFirst entries rest others) :
      Marked expandFirst entries (node :: rest) (pieces ++ others)
  | abbreviation {node : Node} {title : Text} {rest others : List Node}
      (kind : node.kind = .abbreviation title) (later : Marked expandFirst entries rest others) :
      Marked expandFirst entries (node :: rest) (node :: others)
  | inside {node : Node} {children rest others : List Node}
      (notText : ∀ value, node.kind ≠ .text value)
      (notAbbreviation : ∀ title, node.kind ≠ .abbreviation title)
      (below : Marked expandFirst entries node.children children)
      (later : Marked expandFirst entries rest others) :
      Marked expandFirst entries (node :: rest) ({ node with children } :: others)

/-- The uses that are found in a text are wrapped in this sense. -/
theorem isWrapped_uses {entries : List Abbreviation} (named : ∀ entry ∈ entries, entry.IsNamed)
    (longerFirst : entries.Pairwise fun a b => Text.byteLength b.name ≤ Text.byteLength a.name)
    (value : Text) : IsWrapped entries value (uses entries value) where
  standing := (uses_found named value).1
  missed := fun _ stands free => not_isCovered_iff named longerFirst stands free

/-- Marking the uses in a list of nodes wraps them. -/
theorem marked_markUseList {entries : List Abbreviation} (named : ∀ entry ∈ entries, entry.IsNamed)
    (longerFirst : entries.Pairwise fun a b => Text.byteLength b.name ≤ Text.byteLength a.name)
    (expandFirst : Bool) (nodes : List Node) (expanded : List Text) :
    Marked expandFirst entries nodes (markUseList expandFirst entries nodes expanded).1 := by
  have both : (∀ tree : Node, ∀ expanded, Marked expandFirst entries tree.children
        (markUses expandFirst entries tree expanded).1.children) ∧
      ∀ nodes, ∀ expanded, Marked expandFirst entries nodes
        (markUseList expandFirst entries nodes expanded).1 := by
    refine Node.induction (fun _ _ _ _ below => below) (fun _ => .nil) ?_
    rintro ⟨kind, children, data, span⟩ rest own later expanded
    cases kind with
    | text value =>
      have isWrapped := isWrapped_uses named longerFirst value
      obtain ⟨standing, apart⟩ := uses_found named value
      rw [markUseList]
      split
      · rename_i unused
        rw [unused] at isWrapped
        exact .text rfl isWrapped (.inl ⟨rfl, rfl⟩) (later expanded)
      · rename_i used
        exact .text rfl isWrapped (.inr ⟨used, cutAround_cut expandFirst named standing apart
          (fun _ _ => Nat.zero_le _) expanded⟩) (later _)
    | abbreviation title => exact .abbreviation rfl (later expanded)
    | _ => exact .inside (by simp) (by simp) (own expanded) (later _)
  exact both.2 nodes expanded

/-- Without abbreviations nothing changes. -/
theorem marked_refl (expandFirst : Bool) (nodes : List Node) :
    Marked expandFirst [] nodes nodes := by
  refine (Node.induction (P := fun node => Marked expandFirst [] node.children node.children)
    (Q := fun nodes => Marked expandFirst [] nodes nodes) (fun _ _ _ _ below => below) .nil ?_).2
      nodes
  rintro ⟨kind, children, data, span⟩ rest below later
  cases kind with
  | text value => exact .text rfl (isWrapped_uses (by simp) .nil value) (.inl ⟨rfl, rfl⟩) later
  | abbreviation title => exact .abbreviation rfl later
  | _ => exact .inside (by simp) (by simp) below later

/-- In the texts of a document, outside its definitions, an occurrence of an abbreviation that
touches no letter becomes an abbreviation node, or it lies under one of a name that is at least as
long, or it begins inside an occurrence of the same name that was counted before it and became
none. -/
theorem marked_markDocument (expandFirst : Bool) (tree : Node) :
    Marked expandFirst (ofDocument tree) (removeDefinitions tree).children
      (markDocument expandFirst tree).children := by
  have named : ∀ entry ∈ ofDocument tree, entry.IsNamed := fun entry => isNamed_of_mem_ofDocument
  obtain ⟨kind, children, data, span⟩ := tree
  rw [markDocument]
  split
  · rename_i none
    rw [none]
    exact marked_refl expandFirst _
  · exact marked_markUseList named (pairwise_ofDocument _) expandFirst _ []

/-- A text in which a name overlaps itself behind a letter. -/
def shiftedText : Text :=
  "xA.A.A".toList

/-- An abbreviation whose name can overlap itself. -/
def dotted : Abbreviation :=
  ⟨"A.A".toList, ['T']⟩

/-- A document with `shiftedText` and the definition of `dotted`. -/
def shiftedDocument : Node :=
  { kind := .root
    children := [Node.paragraph [Node.text shiftedText],
      Node.paragraph [Node.text "*[A.A]: T".toList]] }

/-- The second occurrence touches no letter, but the search has gone past its start with the first
one, which touches a letter. Nothing is wrapped. -/
theorem shiftedDocument_is_unmarked :
    ofDocument shiftedDocument = [dotted] ∧
      Use.StandsIn [dotted] shiftedText ⟨3, dotted⟩ ∧
      Use.touchesLetter shiftedText ⟨3, dotted⟩ = false ∧
      (markDocument false shiftedDocument).children = [Node.paragraph [Node.text shiftedText]] := by
  have entries : ofDocument shiftedDocument = [dotted] := by
    have last : lastDefinitions (definitions shiftedDocument) = [dotted] := rfl
    rw [ofDocument, last, List.mergeSort_singleton]
  refine ⟨entries, ⟨by decide, by decide⟩, by decide, ?_⟩
  rw [markDocument, entries]
  rfl

end Manuscript.Abbreviation
