import Manuscript.Proofs.Document.Induction
import Manuscript.Proofs.SmartPunctuation.NormalForm
import Mathlib.Data.List.Forall2

/-!
# The walk over a document that sets its punctuation

At a node the walk either passes over what is below it (`passing?`) or goes into its children
(`entering`); `smartenNode_eq` says so once for all kinds. What it remembers after a node does not
depend on the options (`afterNode`), and neither do the texts that it comes to outside raw verbatim
elements (`proseNode`): each of them becomes normal, and a second walk remembers the same at every
node and changes nothing (`punctuation_is_normal`).
-/

namespace Manuscript.SmartPunctuation

namespace State

/-- What is remembered after a node whose children are not gone into, if it is of such a kind. -/
def passing? (state : State) : Kind → Option State
  | .html value => some (state.afterHtml value)
  | .inlineCode _ => some { state with before := .word }
  | .code _ _ _ => some { state with before := .edge }
  | .lineBreak => some { state with before := .space }
  | .text value =>
    some (if state.verbatim.isEmpty then { state with before := lastClass state.before value }
      else state)
  | _ => none

/-- What is remembered when the children of a node are gone into. -/
def entering (state : State) : Kind → State
  | .paragraph => { state with before := .edge }
  | .heading _ => { state with before := .edge }
  | _ => state

/-- The kind of a node with its own text set. -/
def setKind (options : TypographyOptions) (state : State) : Kind → Kind
  | .text value =>
    .text (if state.verbatim.isEmpty then (smarten options state.before value).1 else value)
  | kind => kind

mutual

/-- What is remembered after a node. -/
def afterNode : Node → State → State
  | ⟨kind, children, _, _⟩, state =>
    match state.passing? kind with
    | some after => after
    | none => afterList children (state.entering kind)

/-- What is remembered after siblings. -/
def afterList : List Node → State → State
  | [], state => state
  | node :: rest, state => afterList rest (afterNode node state)

end

end State

open State

/-- The walk passes over a node and sets its own text, or goes into it. -/
theorem smartenNode_eq (options : TypographyOptions) (kind : Kind) (children : List Node)
    (data : Annotations) (span : Option Span) (state : State) :
    smartenNode options ⟨kind, children, data, span⟩ state =
      match state.passing? kind with
      | some after => (⟨state.setKind options kind, children, data, span⟩, after)
      | none =>
        (⟨kind, (smartenNodeList options children (state.entering kind)).1, data, span⟩,
          (smartenNodeList options children (state.entering kind)).2) := by
  cases kind with
  | text value =>
    rw [smartenNode, passing?, setKind]
    split
    · rw [← last_smarten options]
    · rfl
  | html | inlineCode | code | lineBreak =>
    rw [smartenNode]
    rfl
  | _ =>
    unfold smartenNode
    rfl

section

variable {options : TypographyOptions} {kind : Kind} {children : List Node} {data : Annotations}
  {span : Option Span} {state after : State}

/-- A node that is passed over has only its own text set. -/
theorem smartenNode_of_passing (passes : state.passing? kind = some after) :
    smartenNode options ⟨kind, children, data, span⟩ state =
      (⟨state.setKind options kind, children, data, span⟩, after) := by
  rw [smartenNode_eq, passes]

/-- Any other node has the texts below it set. -/
theorem smartenNode_of_entering (enters : state.passing? kind = none) :
    smartenNode options ⟨kind, children, data, span⟩ state =
      (⟨kind, (smartenNodeList options children (state.entering kind)).1, data, span⟩,
        (smartenNodeList options children (state.entering kind)).2) := by
  rw [smartenNode_eq, enters]

/-- The first sibling is set before the others, which begin in the state that it leaves. -/
theorem smartenNodeList_cons (node : Node) (rest : List Node) :
    smartenNodeList options (node :: rest) state =
      ((smartenNode options node state).1 ::
          (smartenNodeList options rest (smartenNode options node state).2).1,
        (smartenNodeList options rest (smartenNode options node state).2).2) := by
  rw [smartenNodeList]

/-- A node that is passed leaves the state that passing it gives. -/
theorem afterNode_of_passing (passes : state.passing? kind = some after) :
    afterNode ⟨kind, children, data, span⟩ state = after := by
  rw [afterNode, passes]

/-- A node that is entered leaves the state that its children leave. -/
theorem afterNode_of_entering (enters : state.passing? kind = none) :
    afterNode ⟨kind, children, data, span⟩ state = afterList children (state.entering kind) := by
  rw [afterNode, enters]

/-- What follows a node whose own text was set is the same as before. -/
theorem passing?_setKind (options : TypographyOptions) (state : State) (kind : Kind) :
    state.passing? (state.setKind options kind) = state.passing? kind := by
  cases kind with
  | text value =>
    rw [setKind, passing?, passing?]
    split
    · rw [(sets_smarten options state.before value).lastClass_eq]
    · rfl
  | _ => rfl

/-- Setting the text of a node twice is setting it once. -/
theorem setKind_setKind (options : TypographyOptions) (state : State) (kind : Kind) :
    state.setKind options (state.setKind options kind) = state.setKind options kind := by
  cases kind with
  | text value =>
    rw [setKind, setKind]
    split
    · rw [smarten_of_isNormal (isNormal_smarten options state.before value)]
    · rfl
  | _ => rfl

end

/-- What is remembered after a node does not depend on the options. -/
theorem state_smarten (options : TypographyOptions) :
    (∀ node state, (smartenNode options node state).2 = afterNode node state) ∧
      ∀ nodes state, (smartenNodeList options nodes state).2 = afterList nodes state := by
  refine Node.induction ?_ (fun _ => rfl) ?_
  · intro kind children data span below state
    cases passes : state.passing? kind with
    | some after => rw [smartenNode_of_passing passes, afterNode_of_passing passes]
    | none =>
      rw [smartenNode_of_entering passes, afterNode_of_entering passes]
      exact below _
  · intro node rest own later state
    rw [smartenNodeList_cons, afterList, ← own]
    exact later _

/-- A second walk from the same state changes nothing and remembers the same. -/
theorem smarten_smarten (options : TypographyOptions) :
    (∀ node state, smartenNode options (smartenNode options node state).1 state =
        smartenNode options node state) ∧
      ∀ nodes state, smartenNodeList options (smartenNodeList options nodes state).1 state =
        smartenNodeList options nodes state := by
  refine Node.induction ?_ (fun _ => rfl) ?_
  · intro kind children data span below state
    cases passes : state.passing? kind with
    | some after =>
      rw [smartenNode_of_passing passes,
        smartenNode_of_passing (passing?_setKind options state kind ▸ passes), setKind_setKind]
    | none => rw [smartenNode_of_entering passes, smartenNode_of_entering passes, below]
  · intro node rest own later state
    rw [smartenNodeList_cons, smartenNodeList_cons, own, later]

/-- What is remembered after a node does not depend on whether its texts have been set. -/
theorem afterNode_smartenNode (options : TypographyOptions) (node : Node) (state : State) :
    afterNode (smartenNode options node state).1 state = afterNode node state := by
  rw [← (state_smarten options).1, ← (state_smarten options).1, (smarten_smarten options).1]

/-- The text of a node itself, unless a raw verbatim element is open. -/
def State.ownText (state : State) : Kind → List Text
  | .text value => if state.verbatim.isEmpty then [value] else []
  | _ => []

mutual

/-- The texts of a node outside raw verbatim elements, in order. -/
def proseNode : Node → State → List Text
  | ⟨kind, children, _, _⟩, state =>
    match state.passing? kind with
    | some _ => state.ownText kind
    | none => proseList children (state.entering kind)

/-- The texts of siblings outside raw verbatim elements, in order. -/
def proseList : List Node → State → List Text
  | [], _ => []
  | node :: rest, state => proseNode node state ++ proseList rest (afterNode node state)

end

/-- What becomes of a text: it is normal, its letters and numbers are those that it had, and it has
no more characters than before. -/
structure Rewritten (options : TypographyOptions) (text out : Text) : Prop where
  isNormal : IsNormal options out
  alphanumerics : out.filter Text.isAlphanumeric = text.filter Text.isAlphanumeric
  length_le : out.length ≤ text.length

/-- Setting the punctuation of a text rewrites it in this way. -/
theorem rewritten_smarten (options : TypographyOptions) (before : CharClass) (text : Text) :
    Rewritten options text (smarten options before text).1 where
  isNormal := isNormal_smarten options before text
  alphanumerics := alphanumerics_smarten options before text
  length_le := (sets_smarten options before text).length_le

/-- The text of a node itself is rewritten. -/
theorem rewritten_ownText (options : TypographyOptions) (state : State) (kind : Kind) :
    List.Forall₂ (Rewritten options) (state.ownText kind)
      (state.ownText (state.setKind options kind)) := by
  cases kind with
  | text value =>
    rw [setKind, ownText, ownText]
    split
    · exact .cons (rewritten_smarten options _ value) .nil
    · exact .nil
  | _ => exact .nil

/-- Every text outside raw verbatim elements is rewritten. -/
theorem rewritten_prose (options : TypographyOptions) :
    (∀ node state, List.Forall₂ (Rewritten options) (proseNode node state)
        (proseNode (smartenNode options node state).1 state)) ∧
      ∀ nodes state, List.Forall₂ (Rewritten options) (proseList nodes state)
        (proseList (smartenNodeList options nodes state).1 state) := by
  refine Node.induction ?_ (fun _ => .nil) ?_
  · intro kind children data span below state
    cases passes : state.passing? kind with
    | some after =>
      rw [smartenNode_of_passing passes, proseNode, proseNode, passing?_setKind, passes]
      exact rewritten_ownText options state kind
    | none =>
      rw [smartenNode_of_entering passes, proseNode, proseNode, passes]
      exact below _
  · intro node rest own later state
    rw [smartenNodeList_cons, proseList, proseList, afterNode_smartenNode,
      (state_smarten options).1]
    exact List.rel_append (own state) (later _)

/-- The texts of a document outside raw verbatim elements, in order. -/
def prose (tree : Node) : List Text :=
  proseList tree.children {}

/-- Setting punctuation reaches a normal form at once. In a text, whatever stands before it, no
sequence is left that the options replace, its letters and numbers are unchanged, and it does not
grow; all this becomes of every text of a document outside raw verbatim elements; and setting the
punctuation of a document again changes nothing. -/
theorem punctuation_is_normal (options : TypographyOptions) :
    (∀ before text, Rewritten options text (smarten options before text).1) ∧
      ∀ tree, List.Forall₂ (Rewritten options) (prose tree)
          (prose (smartenDocument options tree)) ∧
        smartenDocument options (smartenDocument options tree) = smartenDocument options tree := by
  refine ⟨rewritten_smarten options, fun tree => ?_⟩
  obtain ⟨kind, children, data, span⟩ := tree
  refine ⟨(rewritten_prose options).2 children {}, ?_⟩
  rw [smartenDocument, smartenDocument, (smarten_smarten options).2]

/-- Dots between sentences, hyphens and quotes around a word. -/
example : (smarten {} .edge "\"So\". . . it--is".toList).1 = "“So”… it–is".toList := by
  decide +kernel

end Manuscript.SmartPunctuation
