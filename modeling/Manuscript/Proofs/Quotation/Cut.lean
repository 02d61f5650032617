import Manuscript.Prose.Quotation
import Manuscript.Proofs.Document.Induction

/-!
# Cutting a paragraph

The length of what is to be kept of a paragraph is measured in its visible text, but it is counted
down on the nodes, and there a piece of code that does not fit ends only the list that it is in: the
rest of the count goes on after the node around it. `countedText` is the text that the count is
really made on. `cutList_eq_none_iff` shows that a cut fails exactly when it falls inside a
character of that text, and `strandsCode_of_cutsCharacter` that the two texts differ before the cut
only if a piece of code inside another node is in its way.
-/

namespace Manuscript

namespace Text

/-- A cut after `count` bytes of a text falls inside a character. -/
def CutsCharacter (count : Nat) (text : Text) : Prop :=
  count ≤ byteLength text ∧ ∀ front back, text = front ++ back → byteLength front ≠ count

/-- A cut of a text that is long enough fails exactly when it falls inside a character. -/
theorem cutsCharacter_iff {count : Nat} {text : Text} :
    CutsCharacter count text ↔ count ≤ byteLength text ∧ splitAtByte? count text = none := by
  refine and_congr_right fun _ => ?_
  constructor
  · intro never
    cases cut : splitAtByte? count text with
    | none => rfl
    | some parts =>
      obtain ⟨whole, size⟩ := splitAtByte?_eq_some_iff.1 cut
      exact absurd size (never _ _ whole)
  · intro fails front back whole size
    rw [splitAtByte?_eq_some_iff.2 ⟨whole, size⟩] at fails
    cases fails

/-- A cut before the first character is possible. -/
theorem not_cutsCharacter_zero (text : Text) : ¬ CutsCharacter 0 text :=
  fun cuts => cuts.2 [] text rfl rfl

/-- A cut after a whole part of a text is possible. -/
theorem not_cutsCharacter_append (front back : Text) :
    ¬ CutsCharacter (byteLength front) (front ++ back) :=
  fun cuts => cuts.2 front back rfl rfl

/-- No text has fewer than no bytes. -/
theorem eq_nil_of_byteLength {text : Text} (size : byteLength text = 0) : text = [] := by
  cases text with
  | nil => rfl
  | cons c rest =>
    have := c.utf8Size_pos
    rw [byteLength] at size
    omega

/-- What comes after a cut does not matter to it. -/
theorem cutsCharacter_append_left {count : Nat} {front : Text} (inside : count ≤ byteLength front)
    (back : Text) : CutsCharacter count (front ++ back) ↔ CutsCharacter count front := by
  constructor
  · rintro ⟨_, never⟩
    exact ⟨inside, fun first second whole =>
      never first (second ++ back) (by rw [whole, List.append_assoc])⟩
  · rintro ⟨_, never⟩
    refine ⟨by rw [byteLength_append]; omega, fun first second whole size => ?_⟩
    obtain ⟨between, rfl, rfl⟩ | ⟨between, rfl, rfl⟩ := List.append_eq_append_iff.1 whole
    · rw [byteLength_append] at size
      have none : between = [] := eq_nil_of_byteLength (by omega)
      exact never front [] (by simp) (by rw [none] at size; simpa [byteLength] using size)
    · exact never first between rfl size

/-- A cut after a part of a text is a cut of the other part. -/
theorem cutsCharacter_append_right {count : Nat} {front : Text} (after : byteLength front ≤ count)
    (back : Text) :
    CutsCharacter count (front ++ back) ↔ CutsCharacter (count - byteLength front) back := by
  constructor
  · rintro ⟨bound, never⟩
    rw [byteLength_append] at bound
    refine ⟨by omega, fun first second whole size => ?_⟩
    exact never (front ++ first) second (by rw [whole, List.append_assoc])
      (by rw [byteLength_append]; omega)
  · rintro ⟨bound, never⟩
    refine ⟨by rw [byteLength_append]; omega, fun first second whole size => ?_⟩
    obtain ⟨between, rfl, rfl⟩ | ⟨between, rfl, rfl⟩ := List.append_eq_append_iff.1 whole
    · rw [byteLength_append] at size
      exact never between second rfl (by omega)
    · rw [byteLength_append] at after
      exact never [] back rfl (by rw [byteLength_append, byteLength]; omega)

end Text

namespace Quotation

open Text

/-- Whether the visible text of a node of this kind is its own, whatever its children are. -/
def isVisibleValue : Kind → Bool
  | .text _ => true
  | .inlineCode _ => true
  | _ => false

mutual

/-- The text that a budget is counted on when a node is cut. There is none for a piece of code that
the budget is too small for. -/
def countedText? (budget : Nat) : Node → Option Text
  | ⟨.text value, _, _, _⟩ => some value
  | ⟨.inlineCode value, _, _, _⟩ => if byteLength value ≤ budget then some value else none
  | ⟨_, children, _, _⟩ => some (countedText budget children)

/-- The text that a budget is counted on when a list of nodes is cut: that of its nodes, up to a
piece of code that the budget is too small for. -/
def countedText (budget : Nat) : List Node → Text
  | [] => []
  | node :: rest =>
    match countedText? budget node with
    | none => []
    | some front => front ++ countedText (budget - byteLength front) rest

end

section Outer

variable {kind : Kind} (outer : isVisibleValue kind = false) (children : List Node)
  (data : Annotations) (span : Option Span) (budget : Nat)

include outer

/-- The visible text of any other node is that of its children. -/
theorem visibleText_of_outer :
    visibleText ⟨kind, children, data, span⟩ = visibleTextList children := by
  cases kind <;> first | rfl | cases outer

/-- The counted text of any other node is that of its children. -/
theorem countedText?_of_outer :
    countedText? budget ⟨kind, children, data, span⟩ = some (countedText budget children) := by
  cases kind <;> first | rfl | cases outer

/-- Any other node is cut as its children are. -/
theorem cutNode_of_outer :
    cutNode budget ⟨kind, children, data, span⟩ =
      (cutList budget children).map fun cut => (some ⟨kind, cut.1, data, span⟩, cut.2) := by
  cases kind <;> first | rfl | cases outer

end Outer

/-- Induction over a paragraph: texts and code are visible by themselves, any other node by its
children. -/
theorem cutInduction {P : Node → Prop} {Q : List Node → Prop}
    (text : ∀ value children data span, P ⟨.text value, children, data, span⟩)
    (inlineCode : ∀ value children data span, P ⟨.inlineCode value, children, data, span⟩)
    (other : ∀ kind children data span, isVisibleValue kind = false → Q children →
      P ⟨kind, children, data, span⟩)
    (nil : Q []) (cons : ∀ first rest, P first → Q rest → Q (first :: rest)) :
    (∀ node, P node) ∧ ∀ nodes, Q nodes := by
  refine Node.induction ?_ nil cons
  intro kind children data span below
  by_cases outer : isVisibleValue kind = false
  · exact other kind children data span outer below
  · cases kind with
    | text value => exact text value children data span
    | inlineCode value => exact inlineCode value children data span
    | _ => exact absurd rfl outer

/-- How a node is cut. -/
structure NodeCut (node : Node) : Prop where
  /-- Code that the budget is too small for goes, and the budget is left. -/
  skips : ∀ budget, countedText? budget node = none → cutNode budget node = some (none, budget)
  /-- Of any other node a part is kept, and what is left is the budget less its counted text. -/
  keeps : ∀ budget text, countedText? budget node = some text → ¬ CutsCharacter budget text →
    ∃ kept, cutNode budget node = some (some kept, budget - byteLength text)
  /-- A cut inside a character fails. -/
  fails : ∀ budget text, countedText? budget node = some text → CutsCharacter budget text →
    cutNode budget node = none

/-- How a list of nodes is cut. -/
structure ListCut (nodes : List Node) : Prop where
  /-- What is left is the budget less the counted text. -/
  keeps : ∀ budget, ¬ CutsCharacter budget (countedText budget nodes) →
    ∃ kept, cutList budget nodes = some (kept, budget - byteLength (countedText budget nodes))
  /-- A cut inside a character fails. -/
  fails : ∀ budget, CutsCharacter budget (countedText budget nodes) → cutList budget nodes = none

/-- A text is cut at a byte of its own. -/
theorem nodeCut_text (value : Text) (children : List Node) (data : Annotations)
    (span : Option Span) : NodeCut ⟨.text value, children, data, span⟩ where
  skips budget none := by simp [countedText?] at none
  keeps budget text counted cuts := by
    simp only [countedText?, Option.some.injEq] at counted
    subst counted
    rw [cutNode]
    by_cases fits : byteLength value ≤ budget
    · exact ⟨_, by rw [if_pos fits]⟩
    · rw [if_neg fits]
      cases cut : splitAtByte? budget value with
      | none => exact absurd (cutsCharacter_iff.2 ⟨by omega, cut⟩) cuts
      | some parts => exact ⟨_, by rw [Nat.sub_eq_zero_of_le (by omega)]; rfl⟩
  fails budget text counted cuts := by
    simp only [countedText?, Option.some.injEq] at counted
    subst counted
    obtain ⟨bound, cut⟩ := cutsCharacter_iff.1 cuts
    have whole : byteLength value ≠ budget := cuts.2 value [] (by simp)
    rw [cutNode, if_neg (by omega), cut]
    rfl

/-- A piece of code is never cut. -/
theorem nodeCut_inlineCode (value : Text) (children : List Node) (data : Annotations)
    (span : Option Span) : NodeCut ⟨.inlineCode value, children, data, span⟩ where
  skips budget none := by
    rw [countedText?] at none
    split at none
    · cases none
    · rename_i long
      rw [cutNode, if_neg long]
  keeps budget text counted _ := by
    rw [countedText?] at counted
    split at counted
    · rename_i fits
      cases counted
      exact ⟨_, by rw [cutNode, if_pos fits]⟩
    · cases counted
  fails budget text counted cuts := by
    rw [countedText?] at counted
    split at counted
    · rename_i fits
      cases counted
      have size : byteLength value = budget := Nat.le_antisymm fits cuts.1
      exact absurd size (cuts.2 value [] (by simp))
    · cases counted

/-- Any other node is cut if its children are. -/
theorem nodeCut_of_children {kind : Kind} (children : List Node) (data : Annotations)
    (span : Option Span) (outer : isVisibleValue kind = false) (below : ListCut children) :
    NodeCut ⟨kind, children, data, span⟩ where
  skips budget none := by
    rw [countedText?_of_outer outer] at none
    cases none
  keeps budget text counted sound := by
    rw [countedText?_of_outer outer, Option.some.injEq] at counted
    subst counted
    obtain ⟨kept, cut⟩ := below.keeps budget sound
    exact ⟨_, by rw [cutNode_of_outer outer, cut]; rfl⟩
  fails budget text counted inside := by
    rw [countedText?_of_outer outer, Option.some.injEq] at counted
    subst counted
    rw [cutNode_of_outer outer, below.fails budget inside]
    rfl

/-- No nodes are cut to no nodes. -/
theorem listCut_nil : ListCut [] where
  keeps budget _ := ⟨[], by simp [cutList, countedText, byteLength]⟩
  fails budget cuts := by
    have bound := cuts.1
    simp only [countedText, byteLength, Nat.le_zero_eq] at bound
    subst bound
    exact absurd cuts (not_cutsCharacter_zero _)

/-- A list is cut by cutting its first node, and the others on what is then left. -/
theorem listCut_cons {node : Node} {rest : List Node} (head : NodeCut node) (tail : ListCut rest) :
    ListCut (node :: rest) where
  keeps budget cuts := by
    by_cases empty : budget = 0
    · exact ⟨[], by rw [cutList, if_pos empty, empty, Nat.zero_sub]⟩
    · rw [countedText] at cuts ⊢
      rw [cutList, if_neg empty]
      cases counted : countedText? budget node with
      | none =>
        rw [head.skips budget counted]
        exact ⟨[], rfl⟩
      | some front =>
        simp only [counted] at cuts ⊢
        -- The first node takes the cut when the budget ends in it, and else the others do.
        obtain ⟨inFront, inRest⟩ : ¬ CutsCharacter budget front ∧
            ¬ CutsCharacter (budget - byteLength front)
              (countedText (budget - byteLength front) rest) := by
          rcases Nat.lt_or_ge budget (byteLength front) with inside | after
          · rw [cutsCharacter_append_left (Nat.le_of_lt inside)] at cuts
            rw [Nat.sub_eq_zero_of_le (Nat.le_of_lt inside)]
            exact ⟨cuts, not_cutsCharacter_zero _⟩
          · rw [cutsCharacter_append_right after] at cuts
            refine ⟨fun inside => ?_, cuts⟩
            exact inside.2 front [] (by simp) (Nat.le_antisymm after inside.1)
        obtain ⟨first, cutFirst⟩ := head.keeps budget front counted inFront
        obtain ⟨others, cutOthers⟩ := tail.keeps _ inRest
        exact ⟨first :: others, by
          rw [cutFirst, byteLength_append, ← Nat.sub_sub]
          simp only [cutOthers, Option.map_some]⟩
  fails budget cuts := by
    have positive : budget ≠ 0 := fun zero =>
      not_cutsCharacter_zero (countedText budget (node :: rest)) (by rwa [zero] at cuts ⊢)
    rw [countedText] at cuts
    rw [cutList, if_neg positive]
    cases counted : countedText? budget node with
    | none =>
      simp only [counted] at cuts
      exact absurd (Nat.le_zero.1 cuts.1) positive
    | some front =>
      simp only [counted] at cuts
      by_cases inFront : CutsCharacter budget front
      · rw [head.fails budget front counted inFront]
      · obtain ⟨first, cutFirst⟩ := head.keeps budget front counted inFront
        have after : byteLength front ≤ budget := by
          refine Nat.le_of_not_lt fun inside => inFront ?_
          exact (cutsCharacter_append_left (Nat.le_of_lt inside) _).1 cuts
        rw [cutsCharacter_append_right after] at cuts
        rw [cutFirst]
        simp only [tail.fails _ cuts, Option.map_none]

/-- Every list of nodes is cut on its counted text. -/
theorem listCut (nodes : List Node) : ListCut nodes :=
  (cutInduction nodeCut_text nodeCut_inlineCode
    (fun _ children data span => nodeCut_of_children children data span) listCut_nil
    fun _ _ => listCut_cons).2 nodes

/-- A cut fails exactly when it falls inside a character of the text that it is counted on. -/
theorem cutList_eq_none_iff {budget : Nat} {nodes : List Node} :
    cutList budget nodes = none ↔ CutsCharacter budget (countedText budget nodes) := by
  constructor
  · intro fails
    refine Classical.byContradiction fun sound => ?_
    obtain ⟨kept, cut⟩ := (listCut nodes).keeps budget sound
    rw [cut] at fails
    cases fails
  · exact (listCut nodes).fails budget

/-- The first `budget` bytes of the visible text of a list of nodes end inside a piece of code. -/
inductive EndsInCode : Nat → List Node → Prop
  /-- The code is in the list. -/
  | inList {budget : Nat} {front rest : List Node} {code : Node} {value : Text}
      (isCode : code.kind = .inlineCode value)
      (after : byteLength (visibleTextList front) < budget)
      (before : budget < byteLength (visibleTextList front) + byteLength value) :
      EndsInCode budget (front ++ code :: rest)
  /-- The code is inside a node of the list. -/
  | inNode {budget : Nat} {front rest : List Node} {node : Node}
      (outer : isVisibleValue node.kind = false)
      (inside : EndsInCode (budget - byteLength (visibleTextList front)) node.children) :
      EndsInCode budget (front ++ node :: rest)

/-- The first `budget` bytes of the visible text of a list of nodes end inside a piece of code that
is inside a node of the list. -/
def StrandsCode (budget : Nat) (nodes : List Node) : Prop :=
  ∃ front node rest, nodes = front ++ node :: rest ∧ isVisibleValue node.kind = false ∧
    EndsInCode (budget - byteLength (visibleTextList front)) node.children

/-- Two texts are the same, at least up to a byte. -/
def AgreeUpTo (count : Nat) (first second : Text) : Prop :=
  first = second ∨
    ∃ common restFirst restSecond, first = common ++ restFirst ∧ second = common ++ restSecond ∧
      count ≤ byteLength common

/-- Texts that agree up to a byte are cut there alike. -/
theorem AgreeUpTo.cutsCharacter {count : Nat} {first second : Text}
    (agree : AgreeUpTo count first second) (cuts : CutsCharacter count first) :
    CutsCharacter count second := by
  rcases agree with rfl | ⟨common, _, _, rfl, rfl, bound⟩
  · exact cuts
  · rw [cutsCharacter_append_left bound] at cuts ⊢
    exact cuts

/-- Texts agree if their first parts do, and their other parts too unless the first differ. -/
theorem AgreeUpTo.append {count : Nat} {front other first second : Text}
    (agree : AgreeUpTo count front other)
    (rest : front = other → AgreeUpTo (count - byteLength front) first second) :
    AgreeUpTo count (front ++ first) (other ++ second) := by
  rcases agree with rfl | ⟨common, restFront, restOther, rfl, rfl, bound⟩
  · rcases rest rfl with rfl | ⟨common, restFirst, restSecond, rfl, rfl, bound⟩
    · exact .inl rfl
    · refine .inr ⟨front ++ common, restFirst, restSecond, by simp, by simp, ?_⟩
      rw [byteLength_append]
      omega
  · exact .inr ⟨common, restFront ++ first, restOther ++ second, by simp, by simp, bound⟩

/-- Any two texts agree up to their first byte. -/
theorem AgreeUpTo.zero (first second : Text) : AgreeUpTo 0 first second :=
  .inr ⟨[], first, second, rfl, rfl, Nat.zero_le _⟩

/-- What ends inside code of a list does so with a node before it. -/
theorem EndsInCode.cons {budget : Nat} {node : Node} {rest : List Node}
    (ends : EndsInCode (budget - byteLength (visibleText node)) rest) :
    EndsInCode budget (node :: rest) := by
  cases ends with
  | @inList _ front rest code value isCode after before =>
    rw [← List.cons_append]
    refine .inList isCode ?_ ?_ <;> rw [visibleTextList, byteLength_append] <;> omega
  | @inNode _ front rest outer isOuter inside =>
    rw [← List.cons_append]
    refine .inNode isOuter ?_
    rwa [visibleTextList, byteLength_append, ← Nat.sub_sub]

/-- Code that is stranded is so with a node before it. -/
theorem StrandsCode.cons {budget : Nat} {node : Node} {rest : List Node}
    (strands : StrandsCode (budget - byteLength (visibleText node)) rest) :
    StrandsCode budget (node :: rest) := by
  obtain ⟨front, outer, back, rfl, isOuter, inside⟩ := strands
  refine ⟨node :: front, outer, back, rfl, isOuter, ?_⟩
  rwa [visibleTextList, byteLength_append, ← Nat.sub_sub]

/-- The budget for a node is counted on its visible text, unless it ends in code below the node. -/
def NodeAgrees (node : Node) : Prop :=
  ∀ budget text, countedText? budget node = some text →
    isVisibleValue node.kind = false ∧ EndsInCode budget node.children ∨
      AgreeUpTo budget text (visibleText node)

/-- The budget for a list of nodes is counted on their visible text, unless it ends in code. -/
def ListAgrees (nodes : List Node) : Prop :=
  ∀ budget, EndsInCode budget nodes ∨
    AgreeUpTo budget (countedText budget nodes) (visibleTextList nodes)

/-- A node agrees if its children do. -/
theorem nodeAgrees_of_children {kind : Kind} (children : List Node) (data : Annotations)
    (span : Option Span) (outer : isVisibleValue kind = false) (below : ListAgrees children) :
    NodeAgrees ⟨kind, children, data, span⟩ := by
  intro budget text counted
  rw [countedText?_of_outer outer, Option.some.injEq] at counted
  rw [← counted, visibleText_of_outer outer]
  exact (below budget).imp_left fun ends => ⟨outer, ends⟩

/-- A text agrees. -/
theorem nodeAgrees_text (value : Text) (children : List Node) (data : Annotations)
    (span : Option Span) : NodeAgrees ⟨.text value, children, data, span⟩ :=
  fun _ _ counted => .inr (.inl (Option.some.inj counted).symm)

/-- A piece of code agrees if the budget is not too small for it. -/
theorem nodeAgrees_inlineCode (value : Text) (children : List Node) (data : Annotations)
    (span : Option Span) : NodeAgrees ⟨.inlineCode value, children, data, span⟩ := by
  intro budget text counted
  rw [countedText?] at counted
  split at counted
  · exact .inr (.inl (Option.some.inj counted).symm)
  · cases counted

/-- A piece of code is visible. -/
theorem visible_of_countedText?_eq_none {budget : Nat} {node : Node}
    (none : countedText? budget node = none) :
    ∃ value, node.kind = .inlineCode value ∧ budget < byteLength value := by
  obtain ⟨kind, children, data, span⟩ := node
  cases kind with
  | inlineCode value =>
    rw [countedText?] at none
    split at none
    · cases none
    · exact ⟨value, rfl, by omega⟩
  | _ => cases none

/-- A list agrees if its first node and the others do. -/
theorem listAgrees_cons (node : Node) (rest : List Node) (head : NodeAgrees node)
    (tail : ListAgrees rest) : ListAgrees (node :: rest) := by
  intro budget
  rcases Nat.eq_zero_or_pos budget with rfl | positive
  · exact .inr (.zero _ _)
  · cases counted : countedText? budget node with
    | none =>
      obtain ⟨value, isCode, long⟩ := visible_of_countedText?_eq_none counted
      refine .inl (@EndsInCode.inList budget [] rest node value isCode ?_ ?_) <;>
        simpa [visibleTextList, byteLength]
    | some text =>
      rw [countedText, visibleTextList]
      simp only [counted]
      rcases head budget text counted with ⟨outer, ends⟩ | agree
      · exact .inl (@EndsInCode.inNode budget [] rest node outer ends)
      · by_cases same : text = visibleText node
        · rcases tail (budget - byteLength text) with ends | others
          · exact .inl (.cons (by rwa [same] at ends))
          · exact .inr (agree.append fun _ => others)
        · exact .inr (agree.append fun equal => absurd equal same)

/-- Every node and every list of nodes agrees. -/
theorem agrees : (∀ node, NodeAgrees node) ∧ ∀ nodes, ListAgrees nodes :=
  cutInduction nodeAgrees_text nodeAgrees_inlineCode
    (fun _ children data span => nodeAgrees_of_children children data span)
    (fun _ => .inr (.inl rfl)) listAgrees_cons

/-- The budget for the content of a paragraph is counted on its visible text, unless code in a node
of the paragraph is stranded, or code in the paragraph itself ends the count early. -/
theorem agrees_or_strandsCode (nodes : List Node) (budget : Nat) :
    StrandsCode budget nodes ∨
      AgreeUpTo budget (countedText budget nodes) (visibleTextList nodes) ∨
      byteLength (countedText budget nodes) < budget := by
  induction nodes generalizing budget with
  | nil => exact .inr (.inl (.inl rfl))
  | cons node rest ih =>
    rcases Nat.eq_zero_or_pos budget with rfl | positive
    · exact .inr (.inl (.zero _ _))
    · rw [countedText, visibleTextList]
      cases counted : countedText? budget node with
      | none => exact .inr (.inr positive)
      | some text =>
        rcases agrees.1 node budget text counted with ⟨outer, ends⟩ | agree
        · exact .inl ⟨[], node, rest, rfl, outer, ends⟩
        · by_cases same : text = visibleText node
          · rcases ih (budget - byteLength text) with strands | others | short
            · exact .inl (.cons (by rwa [same] at strands))
            · exact .inr (.inl (agree.append fun _ => others))
            · refine .inr (.inr ?_)
              simp only [byteLength_append]
              omega
          · exact .inr (.inl (agree.append fun equal => absurd equal same))

/-- A cut where a part of the visible text ends fails only if code in a node is stranded. -/
theorem strandsCode_of_cutsCharacter {content others : Text} {nodes : List Node}
    (visible : visibleTextList nodes = content ++ others)
    (cuts : CutsCharacter (byteLength content) (countedText (byteLength content) nodes)) :
    StrandsCode (byteLength content) nodes := by
  rcases agrees_or_strandsCode nodes (byteLength content) with strands | agree | short
  · exact strands
  · have inVisible := agree.cutsCharacter cuts
    rw [visible] at inVisible
    exact absurd inVisible (not_cutsCharacter_append content others)
  · exact absurd cuts.1 (by omega)

end Quotation

end Manuscript
