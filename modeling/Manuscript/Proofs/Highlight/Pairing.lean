import Manuscript.Proofs.Document.Induction
import Manuscript.Proofs.Text.Search
import Manuscript.Prose.Highlight

/-!
# Pairs of delimiters

The delimiters of a text are read from left to right without overlaps, and each two that follow each
other are a pair (`pairs`). Of these, the first pair that is not empty is the span at which a text
is cut, and there is no other cut (`cut?_eq_some_iff`, `cut?_eq_none_iff`). A document is
highlighted by cutting each of its texts once (`Marked`).
-/

namespace Manuscript.Highlight

/-! ## Pairs -/

/-- The places of the delimiters in a text that begins after `position` characters, from left to
right and without overlaps. -/
def delimiters (position : Nat) : Text → List Nat
  | '=' :: '=' :: rest => position :: delimiters (position + 2) rest
  | _ :: rest => delimiters (position + 1) rest
  | [] => []

/-- A delimiter and the next one after it, by their places. -/
structure Pair where
  opening : Nat
  closing : Nat
deriving DecidableEq, Repr

namespace Pair

/-- Whether there is nothing between the delimiters of a pair. -/
def isEmpty (pair : Pair) : Bool :=
  pair.closing == pair.opening + delimiter.length

/-- Places taken two by two. -/
def ofPlaces : List Nat → List Pair
  | opening :: closing :: rest => ⟨opening, closing⟩ :: ofPlaces rest
  | _ => []

end Pair

/-- The pairs of delimiters in a text that begins after `position` characters, from left to right.
-/
def pairsAt (position : Nat) (text : Text) : List Pair :=
  Pair.ofPlaces (delimiters position text)

/-- The pairs of delimiters in a text. -/
def pairs (text : Text) : List Pair :=
  pairsAt 0 text

/-- The pair of delimiters around a span with so much before it and so much in it. -/
def Pair.around (before inner : Text) : Pair :=
  ⟨before.length, before.length + (delimiter.length + inner.length)⟩

/-- A text behind `before` is cut at the first of its pairs that is not empty. -/
structure IsFirstSpan (before text : Text) (cut : Cut) : Prop where
  /-- The text is the same. -/
  whole : before ++ text = cut.before ++ (delimiter ++ (cut.inner ++ (delimiter ++ cut.after)))
  /-- There is something in the span. -/
  filled : cut.inner ≠ []
  /-- There is no delimiter in the span. -/
  unmarked : ¬ delimiter <:+: cut.inner
  /-- The delimiters around the span are the first pair that is not empty. -/
  first : (pairsAt before.length text).find? (fun pair => !pair.isEmpty) =
    some (.around cut.before cut.inner)

/-! ## Reading delimiters -/

/-- The places of the delimiters are that of the first one and those behind it. -/
theorem delimiters_eq (position : Nat) (text : Text) :
    delimiters position text =
      match Text.splitFirst? delimiter text with
      | none => []
      | some (front, rest) => (position + front.length) ::
          delimiters (position + (front.length + delimiter.length)) rest := by
  induction position, text using delimiters.induct with
  | case1 position rest ih => simp [delimiters, Text.splitFirst?, delimiter, Text.dropFront?]
  | case2 position c rest other ih =>
    have absent : Text.dropFront? delimiter (c :: rest) = none := by
      refine Option.eq_none_iff_forall_not_mem.2 fun after found => ?_
      obtain ⟨rfl, rfl⟩ := List.cons.inj (Text.dropFront?_eq_some_iff.1 found)
      exact other after rfl rfl
    rw [delimiters, ih, Text.splitFirst?, absent]
    · cases Text.splitFirst? delimiter rest with
      | none => rfl
      | some parts =>
        simp only [Option.map_some, List.length_cons]
        rw [show position + 1 + parts.1.length = position + (parts.1.length + 1) by omega,
          show position + 1 + (parts.1.length + delimiter.length) =
            position + (parts.1.length + 1 + delimiter.length) by omega]
    · exact other
  | case3 position => rfl

section

variable {position : Nat} {text front rest inner after before : Text}

/-- A text without a delimiter has no pairs. -/
theorem pairsAt_of_unopened (unopened : Text.splitFirst? delimiter text = none) :
    pairsAt position text = [] := by
  rw [pairsAt, delimiters_eq, unopened]
  rfl

/-- A text with one delimiter only has no pairs. -/
theorem pairsAt_of_unclosed (opened : Text.splitFirst? delimiter text = some (front, rest))
    (unclosed : Text.splitFirst? delimiter rest = none) : pairsAt position text = [] := by
  rw [pairsAt, delimiters_eq, opened]
  dsimp only
  rw [delimiters_eq, unclosed]
  rfl

/-- The first pair of a text is its first delimiter and the next one after it. -/
theorem pairsAt_of_closed (opened : Text.splitFirst? delimiter text = some (front, rest))
    (closed : Text.splitFirst? delimiter rest = some (inner, after)) :
    pairsAt position text =
      ⟨position + front.length,
        position + front.length + (delimiter.length + inner.length)⟩ ::
        pairsAt (position + (front.length + delimiter.length + inner.length + delimiter.length))
          after := by
  rw [pairsAt, delimiters_eq, opened]
  dsimp only
  rw [delimiters_eq, closed]
  simp only [Pair.ofPlaces, pairsAt, Nat.add_assoc]

/-! ## Cutting -/

/-- A text without a delimiter is not cut. -/
theorem cutAfter?_of_unopened (unopened : Text.splitFirst? delimiter text = none) :
    cutAfter? before text = none := by
  rw [cutAfter?]
  split <;> simp_all

/-- A text with one delimiter only is not cut. -/
theorem cutAfter?_of_unclosed (opened : Text.splitFirst? delimiter text = some (front, rest))
    (unclosed : Text.splitFirst? delimiter rest = none) : cutAfter? before text = none := by
  rw [cutAfter?]
  split
  · rfl
  · split <;> simp_all

/-- A pair with nothing in it is passed, and the text is cut at a later one. -/
theorem cutAfter?_of_empty (opened : Text.splitFirst? delimiter text = some (front, rest))
    (closed : Text.splitFirst? delimiter rest = some ([], after)) :
    cutAfter? before text =
      cutAfter? (before ++ front ++ delimiter ++ delimiter) after := by
  rw [cutAfter?]
  split
  · simp_all
  · split <;> simp_all

/-- A text is cut at the first pair that is not empty. -/
theorem cutAfter?_of_filled {c : Char}
    (opened : Text.splitFirst? delimiter text = some (front, rest))
    (closed : Text.splitFirst? delimiter rest = some (c :: inner, after)) :
    cutAfter? before text = some { before := before ++ front, inner := c :: inner, after } := by
  rw [cutAfter?]
  split
  · simp_all
  · split <;> simp_all

/-- What is before a delimiter, with the delimiter behind it, has none that ends earlier. -/
theorem unmarked_of_closed (closed : Text.splitFirst? delimiter rest = some (inner, after)) :
    ¬ delimiter <:+: inner := by
  have whole := Text.eq_append_of_splitFirst? closed
  rw [whole, List.append_assoc, Text.splitFirst?_append_iff (by decide)] at closed
  exact fun inside => closed (inside.trans (List.prefix_append _ _).isInfix)

end

/-- A pair is empty if there is no text in it. -/
theorem isEmpty_around {before inner : Text} :
    (Pair.around before inner).isEmpty = true ↔ inner = [] := by
  simp [Pair.isEmpty, Pair.around]

/-- A text behind another one is cut at its first pair that is not empty, if there is one. -/
theorem cutAfter?_spec (before text : Text) :
    (∀ cut, cutAfter? before text = some cut → IsFirstSpan before text cut) ∧
      (cutAfter? before text = none →
        ∀ pair ∈ pairsAt before.length text, pair.isEmpty = true) := by
  induction size : text.length using Nat.strongRecOn generalizing before text with
  | _ n ih =>
    cases opened : Text.splitFirst? delimiter text with
    | none => simp [cutAfter?_of_unopened opened, pairsAt_of_unopened opened]
    | some parts =>
      obtain ⟨front, rest⟩ := parts
      cases closed : Text.splitFirst? delimiter rest with
      | none => simp [cutAfter?_of_unclosed opened closed, pairsAt_of_unclosed opened closed]
      | some parts =>
        obtain ⟨inner, after⟩ := parts
        have whole := Text.eq_append_of_splitFirst? opened
        have behind := Text.eq_append_of_splitFirst? closed
        have around : pairsAt before.length text =
            .around (before ++ front) inner ::
              pairsAt (before ++ front ++ delimiter ++ inner ++ delimiter).length after := by
          simp [pairsAt_of_closed opened closed, Pair.around, Nat.add_assoc]
        cases inner with
        | nil =>
          have shorter : after.length < n := by
            rw [← size, whole, behind]
            simp [delimiter]
            omega
          obtain ⟨found, none⟩ :=
            ih after.length shorter (before ++ front ++ delimiter ++ delimiter) after rfl
          rw [cutAfter?_of_empty opened closed, around]
          rw [List.append_nil]
          have empty : (Pair.around (before ++ front) []).isEmpty = true := isEmpty_around.2 rfl
          refine ⟨fun cut isCut => ?_, fun isNone => List.forall_mem_cons.2 ⟨empty, none isNone⟩⟩
          obtain ⟨same, filled, unmarked, first⟩ := found cut isCut
          refine ⟨?_, filled, unmarked, ?_⟩
          · rw [← same, whole, behind]
            simp
          · rw [around, List.find?_cons_of_neg (by simp [empty]), List.append_nil]
            exact first
        | cons c inner =>
          rw [cutAfter?_of_filled opened closed]
          refine ⟨?_, nofun⟩
          rintro _ ⟨⟩
          refine ⟨?_, List.cons_ne_nil c inner, unmarked_of_closed closed, ?_⟩
          · rw [whole, behind]
            simp
          · have filled : (Pair.around (before ++ front) (c :: inner)).isEmpty = false := by
              rw [Bool.eq_false_iff, ne_eq, isEmpty_around]
              exact List.cons_ne_nil c inner
            rw [around, List.find?_cons_of_pos (by simp [filled])]

/-- There is only one way to cut a text at its first pair that is not empty. -/
theorem IsFirstSpan.unique {before text : Text} {cut other : Cut}
    (first : IsFirstSpan before text cut) (second : IsFirstSpan before text other) :
    cut = other := by
  have same := first.first.symm.trans second.first
  simp only [Pair.around, Option.some_inj, Pair.mk.injEq] at same
  obtain ⟨frontSize, endSize⟩ := same
  have whole := first.whole.symm.trans second.whole
  obtain ⟨front, rest⟩ := List.append_inj whole frontSize
  have behind := List.append_cancel_left rest
  obtain ⟨inner, rest⟩ := List.append_inj behind (by omega)
  have after := List.append_cancel_left rest
  cases cut
  cases other
  simp_all

/-- A text is cut where its first pair is that is not empty. -/
theorem cut?_eq_some_iff {text : Text} {cut : Cut} :
    cut? text = some cut ↔ IsFirstSpan [] text cut := by
  obtain ⟨found, none⟩ := cutAfter?_spec [] text
  refine ⟨found cut, fun first => ?_⟩
  rw [cut?]
  cases isCut : cutAfter? [] text with
  | none =>
    have empty := none isCut _ (List.mem_of_find?_eq_some first.first)
    exact absurd (isEmpty_around.1 empty) first.filled
  | some other => rw [(found other isCut).unique first]

/-- A text is not cut exactly when all its pairs are empty. -/
theorem cut?_eq_none_iff {text : Text} :
    cut? text = none ↔ ∀ pair ∈ pairs text, pair.isEmpty = true := by
  obtain ⟨found, none⟩ := cutAfter?_spec [] text
  refine ⟨none, fun empty => ?_⟩
  rw [cut?]
  cases isCut : cutAfter? [] text with
  | none => rfl
  | some cut =>
    have first := found cut isCut
    have isEmpty := empty _ (List.mem_of_find?_eq_some first.first)
    exact absurd (isEmpty_around.1 isEmpty) first.filled

/-! ## Documents -/

/-- What becomes of siblings when the spans in their texts are marked. -/
inductive Marked : List Node → List Node → Prop
  | nil : Marked [] []
  /-- A text whose pairs are all empty stays with all that belongs to it. -/
  | kept {node : Node} {value : Text} {rest others : List Node} (kind : node.kind = .text value)
      (empty : ∀ pair ∈ pairs value, pair.isEmpty = true) (later : Marked rest others) :
      Marked (node :: rest) (node :: others)
  /-- Any other text is cut once: what is behind the first span is a single text. -/
  | cut {node : Node} {value : Text} {cut : Cut} {rest others : List Node}
      (kind : node.kind = .text value) (first : IsFirstSpan [] value cut)
      (later : Marked rest others) :
      Marked (node :: rest)
        (Node.ofText cut.before ++
          { kind := .mark, children := [Node.text cut.inner] } :: (Node.ofText cut.after ++ others))
  /-- The spans below any other node are marked. -/
  | inside {node : Node} {children rest others : List Node} (noText : node.isText = false)
      (below : Marked node.children children) (later : Marked rest others) :
      Marked (node :: rest) ({ node with children } :: others)

/-- The spans of siblings are marked. -/
theorem marked_substituteTextList (nodes : List Node) :
    Marked nodes
      (Node.substituteTextList (fun value _ => (cut? value).map Cut.nodes) nodes) := by
  refine (Node.induction
    (P := fun node => Marked node.children
      (Node.substituteTextList (fun value _ => (cut? value).map Cut.nodes) node.children))
    (Q := fun nodes => Marked nodes
      (Node.substituteTextList (fun value _ => (cut? value).map Cut.nodes) nodes))
    (fun _ _ _ _ below => below) .nil ?_).2 nodes
  rintro ⟨kind, children, data, span⟩ rest below later
  cases kind with
  | text value =>
    rw [Node.substituteTextList]
    cases found : cut? value with
    | none => exact .kept rfl (cut?_eq_none_iff.1 found) later
    | some cut => simpa [Cut.nodes] using Marked.cut rfl (cut?_eq_some_iff.1 found) later
  | _ => exact .inside rfl below later

/-- Every text is cut at its first pair of delimiters that is not empty, and not at all if there is
none. A document is highlighted by cutting each text below its root once, unless it stands in
another text, and all other texts stay as they are. -/
theorem markDocument_marks :
    (∀ text cut, cut? text = some cut ↔ IsFirstSpan [] text cut) ∧
      (∀ text, cut? text = none ↔ ∀ pair ∈ pairs text, pair.isEmpty = true) ∧
        ∀ tree : Node, ∃ children, Marked tree.children children ∧
          markDocument tree = { tree with children } := by
  refine ⟨fun text cut => cut?_eq_some_iff, fun text => cut?_eq_none_iff, fun tree => ?_⟩
  obtain ⟨kind, children, data, span⟩ := tree
  exact ⟨_, marked_substituteTextList children, rfl⟩

/-- A document with a text that stands in another one. -/
def textInText : Node :=
  { kind := .root
    children := [{ kind := .text "a".toList, children := [Node.text "==b==".toList] }] }

/-- The inner text has a span and is not cut: the whole document stays as it is. -/
theorem textInText_is_not_cut :
    Node.text "==b==".toList ∈ textInText.nodes ∧
      cut? "==b==".toList = some { before := [], inner := ['b'], after := [] } ∧
        markDocument textInText = textInText := by
  have outer : cut? ['a'] = none := by decide +kernel
  refine ⟨.tail _ (.tail _ (.head _)), by decide +kernel, ?_⟩
  simp [markDocument, textInText, Node.substituteTexts, Node.substituteTextList, outer]

end Manuscript.Highlight
