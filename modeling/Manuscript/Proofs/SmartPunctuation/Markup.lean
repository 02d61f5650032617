import Manuscript.Proofs.SmartPunctuation.Verbatim
import Manuscript.Proofs.SmartPunctuation.Walk

/-!
# Raw markup put into a document

The walk reads the tags of raw markup wherever they stand, in a comment too. So markup that is put
into documents changes the texts around it unless its tags are balanced: markup of some set changes
no text of any document, at whichever places it is put, exactly when all of it is
(`texts_unchanged_iff`). The two walks, with the markup and without it, are compared node by node:
they remember the same but for the order of the open elements (`Alike`).
-/

namespace Manuscript.SmartPunctuation

open State

/-- A node of raw markup. -/
def markup (value : Text) : Node :=
  { kind := .html value }

/-- Nodes into which raw markup is put, at any places and at any depth. -/
inductive Inserted (values : Text → Prop) : List Node → List Node → Prop where
  | nil : Inserted values [] []
  /-- A node stays, with markup put among what is below it. -/
  | node {kind : Kind} {children others rest later : List Node} {data : Annotations}
      {span : Option Span} (below : Inserted values children others)
      (behind : Inserted values rest later) :
      Inserted values (⟨kind, children, data, span⟩ :: rest) (⟨kind, others, data, span⟩ :: later)
  /-- A node of markup is put there. -/
  | markup {value : Text} {data : Annotations} {span : Option Span} {rest later : List Node}
      (isOne : values value) (behind : Inserted values rest later) :
      Inserted values rest (⟨.html value, [], data, span⟩ :: later)

/-- The texts of nodes and of those below them, in order. -/
def texts (nodes : List Node) : List Text :=
  (Node.nodesBelow nodes).filterMap Node.textValue?

section

variable {values : Text → Prop} {options : TypographyOptions} {state other : State}

/-- The texts of siblings are those of the first, of what is below it, and of the others. -/
theorem texts_cons (node : Node) (rest : List Node) :
    texts (node :: rest) = node.textValue?.toList ++ (texts node.children ++ texts rest) := by
  rw [texts, Node.nodesBelow, Node.nodes_eq, List.cons_append, List.filterMap_cons,
    List.filterMap_append]
  cases node.textValue? <;> rfl

/-- Markup is no text. -/
theorem texts_of_inserted {nodes others : List Node} (inserted : Inserted values nodes others) :
    texts others = texts nodes := by
  induction inserted with
  | nil => rfl
  | node _ _ below behind =>
    rw [texts_cons, texts_cons, below, behind]
    rfl
  | markup _ _ behind =>
    rw [texts_cons, behind]
    rfl

/-! ## What two walks remember -/

/-- The walks remember the same, but for the order in which the open elements were opened. -/
structure Alike (state other : State) : Prop where
  before : other.before = state.before
  verbatim : other.verbatim.Perm state.verbatim
  areVerbatim : state.verbatim ⊆ verbatimNames

/-- Both walks set a text, or neither does. -/
theorem Alike.isEmpty (alike : Alike state other) :
    other.verbatim.isEmpty = state.verbatim.isEmpty := by
  rw [Bool.eq_iff_iff, List.isEmpty_iff_length_eq_zero, List.isEmpty_iff_length_eq_zero,
    alike.verbatim.length_eq]

/-- Both walks set the text of a node itself in the same way. -/
theorem Alike.setKind (alike : Alike state other) (kind : Kind) :
    other.setKind options kind = state.setKind options kind := by
  cases kind with
  | text value => rw [State.setKind, State.setKind, alike.isEmpty, alike.before]
  | _ => rfl

/-- Both walks go into the children of a node, or both pass over them. -/
theorem Alike.passing? (alike : Alike state other) (kind : Kind) :
    Option.Rel Alike (state.passing? kind) (other.passing? kind) := by
  cases kind with
  | html value =>
    exact .some ⟨alike.before, trackAll_perm alike.verbatim _, trackAll_subset alike.areVerbatim⟩
  | text value =>
    refine .some ?_
    rw [alike.isEmpty, alike.before]
    split
    · exact ⟨rfl, alike.verbatim, alike.areVerbatim⟩
    · exact alike
  | inlineCode | code | lineBreak => exact .some ⟨rfl, alike.verbatim, alike.areVerbatim⟩
  | _ => exact .none

/-- Both walks remember the same where they go into the children of a node. -/
theorem Alike.entering (alike : Alike state other) (kind : Kind) :
    Alike (state.entering kind) (other.entering kind) := by
  cases kind with
  | paragraph | heading => exact ⟨rfl, alike.verbatim, alike.areVerbatim⟩
  | _ => exact alike

/-- Balanced markup leaves a walk as it was. -/
theorem Alike.afterHtml {value : Text} (balanced : Balanced (rawTags 0 value))
    (alike : Alike state other) : Alike state (other.afterHtml value) := by
  have areVerbatim := List.Subset.trans alike.verbatim.subset alike.areVerbatim
  exact ⟨alike.before, (trackAll_of_balanced balanced areVerbatim).trans alike.verbatim,
    alike.areVerbatim⟩

/-- Where only balanced markup is put, the walk sets the texts as it would without it, and goes on
in the same way. -/
theorem texts_smarten_of_balanced (balanced : ∀ value, values value → Balanced (rawTags 0 value))
    {nodes others : List Node} (inserted : Inserted values nodes others) :
    ∀ {state other}, Alike state other →
      texts (smartenNodeList options others other).1 =
          texts (smartenNodeList options nodes state).1 ∧
        Alike (smartenNodeList options nodes state).2 (smartenNodeList options others other).2 := by
  induction inserted with
  | nil => exact fun alike => ⟨rfl, alike⟩
  | @node kind children others rest later data span inside _ below behind =>
    intro state other alike
    have passes := alike.passing? kind
    rw [smartenNodeList_cons, smartenNodeList_cons, texts_cons, texts_cons]
    generalize mine : state.passing? kind = first at passes
    generalize yours : other.passing? kind = second at passes
    cases passes with
    | some same =>
      rw [smartenNode_of_passing mine, smartenNode_of_passing yours, alike.setKind]
      obtain ⟨later, goesOn⟩ := behind same
      exact ⟨congrArg₂ _ rfl (congrArg₂ _ (texts_of_inserted inside) later), goesOn⟩
    | none =>
      rw [smartenNode_of_entering mine, smartenNode_of_entering yours]
      obtain ⟨inner, leaves⟩ := below (alike.entering kind)
      obtain ⟨later, goesOn⟩ := behind leaves
      exact ⟨congrArg₂ _ rfl (congrArg₂ _ inner later), goesOn⟩
  | markup isOne _ behind =>
    intro state other alike
    rw [smartenNodeList_cons, texts_cons, smartenNode]
    exact behind (alike.afterHtml (balanced _ isOne))

end

/-! ## A quote behind raw markup -/

/-- The tag that opens an element. -/
def openTag (name : Text) : Text :=
  '<' :: (name ++ ['>'])

/-- The tag that closes an element. -/
def closeTag (name : Text) : Text :=
  '<' :: '/' :: (name ++ ['>'])

/-- The tags in written tags of verbatim elements. -/
theorem rawTags_tags :
    ∀ name ∈ verbatimNames, rawTags 0 (openTag name) = [opening name] ∧
      rawTags 0 (closeTag name) = [closing name] := by
  decide +kernel

/-- Raw markup with a quote behind it. -/
def quoteAfter (pieces : List Text) : List Node :=
  pieces.map markup ++ [Node.text ['"']]

/-- The quote is set if all verbatim elements are closed there. -/
theorem texts_quoteAfter (pieces : List Text) (state : State) (edge : state.before = .edge) :
    texts (smartenNodeList {} (quoteAfter pieces) state).1 =
      [if trackAll (pieces.flatMap (rawTags 0)) state.verbatim = [] then ['“'] else ['"']] := by
  induction pieces generalizing state with
  | nil =>
    obtain ⟨before, verbatim⟩ := state
    subst edge
    cases verbatim with
    | nil => decide +kernel
    | cons name rest => rfl
  | cons piece rest ih =>
    rw [quoteAfter, List.map_cons, List.cons_append, ← quoteAfter, smartenNodeList_cons, texts_cons,
      markup, smartenNode, List.flatMap_cons, trackAll_append]
    exact ih (state.afterHtml piece) edge

/-- The quote behind some markup comes out as behind other markup if both leave an element open, or
neither does. -/
theorem texts_quoteAfter_eq_iff (pieces others : List Text) :
    texts (smartenNodeList {} (quoteAfter pieces) {}).1 =
        texts (smartenNodeList {} (quoteAfter others) {}).1 ↔
      (trackAll (pieces.flatMap (rawTags 0)) [] = [] ↔
        trackAll (others.flatMap (rawTags 0)) [] = []) := by
  rw [texts_quoteAfter pieces {} rfl, texts_quoteAfter others {} rfl]
  by_cases mine : trackAll (pieces.flatMap (rawTags 0)) [] = [] <;>
    by_cases yours : trackAll (others.flatMap (rawTags 0)) [] = [] <;>
    simp [mine, yours]

/-- Nodes into which no markup is put stay as they are. -/
theorem inserted_refl (values : Text → Prop) (nodes : List Node) :
    Inserted values nodes nodes := by
  refine (@Node.induction (fun node => Inserted values node.children node.children)
    (fun nodes => Inserted values nodes nodes) (fun _ _ _ _ below => below) .nil ?_).2 nodes
  rintro ⟨kind, children, data, span⟩ rest below later
  exact .node below later

/-- Markup may be put between other markup. -/
theorem inserted_quoteAfter {values : Text → Prop} {value : Text} (isOne : values value)
    (front back : List Text) :
    Inserted values (quoteAfter (front ++ back)) (quoteAfter (front ++ value :: back)) := by
  induction front with
  | nil => exact .markup isOne (inserted_refl values _)
  | cons piece rest ih => exact .node .nil ih

/-- Raw markup that opens an element some times and closes it some times, with other markup
between. -/
def framed (name : Text) (opened closed : Nat) (inside : List Text) : List Text :=
  List.replicate opened (openTag name) ++ (inside ++ List.replicate closed (closeTag name))

/-- The tags of such markup are those of the markup inside with others around them. -/
theorem rawTags_framed {name : Text} (verbatim : name ∈ verbatimNames) (opened closed : Nat)
    (inside : List Text) :
    (framed name opened closed inside).flatMap (rawTags 0) =
      around name opened closed (inside.flatMap (rawTags 0)) := by
  obtain ⟨opens, closes⟩ := rawTags_tags name verbatim
  rw [framed, around, List.flatMap_append, List.flatMap_append, List.flatMap_replicate,
    List.flatMap_replicate, opens, closes, List.flatten_replicate_singleton,
    List.flatten_replicate_singleton]

/-- Markup put into documents changes no text there exactly when its tags are balanced. Of a set of
raw markup, such as the comments of some kind, let any be put at any places into a document, or be
taken away from there. Then every text of the document comes out of the walk as it would have
without this, whatever the options, if no markup of the set closes what it has not opened, and none
leaves open what it has opened; and if some does, there is a document in which a text comes out
otherwise. -/
theorem texts_unchanged_iff (values : Text → Prop) :
    (∀ options tree nodes, Inserted values tree.children nodes →
        texts (smartenDocument options { tree with children := nodes }).children =
          texts (smartenDocument options tree).children) ↔
      ∀ value, values value → Balanced (rawTags 0 value) := by
  constructor
  · intro unchanged value isOne
    refine balanced_of_around fun name verbatim opened closed => ?_
    have same := (texts_quoteAfter_eq_iff _ _).1 <|
      unchanged {} ⟨.root, quoteAfter (framed name opened closed []), {}, none⟩
        (quoteAfter (framed name opened closed [value])) (inserted_quoteAfter isOne _ _)
    rwa [rawTags_framed verbatim, rawTags_framed verbatim, List.flatMap_singleton,
      List.flatMap_nil] at same
  · rintro balanced options ⟨kind, children, data, span⟩ nodes inserted
    have alike : Alike ({} : State) {} := ⟨rfl, .refl _, List.nil_subset _⟩
    exact (texts_smarten_of_balanced balanced inserted alike).1

/-- A comment, which ends at the first place where it can. -/
def IsComment (value : Text) : Prop :=
  ∃ inside, value = "<!--".toList ++ (inside ++ "-->".toList) ∧
    ¬ "-->".toList <:+: "--".toList ++ (inside ++ "--".toList)

/-- A comment that speaks of an element leaves this element open, and the quotes behind it are not
set. -/
theorem comment_silences_quotes :
    ¬ ∀ options tree nodes, Inserted IsComment tree.children nodes →
        texts (smartenDocument options { tree with children := nodes }).children =
          texts (smartenDocument options tree).children := by
  intro unchanged
  have isComment : IsComment "<!-- <code> -->".toList :=
    ⟨" <code> ".toList, by decide +kernel, by decide +kernel⟩
  have same := unchanged {} ⟨.root, [Node.text "\"a\"".toList], {}, none⟩
    [markup "<!-- <code> -->".toList, Node.text "\"a\"".toList]
    (.markup isComment (.node .nil .nil))
  revert same
  decide +kernel

end Manuscript.SmartPunctuation
