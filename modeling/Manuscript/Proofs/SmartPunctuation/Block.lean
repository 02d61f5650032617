import Manuscript.Proofs.SmartPunctuation.Walk

/-!
# Blocks whose punctuation is set on its own

The class of the character before is forgotten where a paragraph or a heading begins, but not where
a table cell does. So a paragraph or a heading becomes what it would become alone in a document,
and a cell does unless it begins with a straight quote that closes after what stands before the cell
(`blocks_set_alone_iff`). What a cell begins with is its `Lead`: the first thing in it that the walk
remembers.
-/

namespace Manuscript.SmartPunctuation

open State

/-- Whether a node of a kind is a block that holds text itself. -/
def holdsText : Kind → Bool
  | .paragraph => true
  | .heading _ => true
  | .tableCell => true
  | _ => false

/-- A block with what is remembered where the walk comes to it. -/
structure Visit where
  block : Node
  state : State

/-- The block with its punctuation set there. -/
def Visit.set (options : TypographyOptions) (visit : Visit) : Visit :=
  { visit with block := (smartenNode options visit.block visit.state).1 }

mutual

/-- The blocks with text in a node that the walk comes to, in order. -/
def blocksNode : Node → State → List Visit
  | ⟨kind, children, data, span⟩, state =>
    (if holdsText kind then [⟨⟨kind, children, data, span⟩, state⟩] else []) ++
      match state.passing? kind with
      | some _ => []
      | none => blocksList children (state.entering kind)

/-- The blocks with text among siblings and below them that the walk comes to, in order. -/
def blocksList : List Node → State → List Visit
  | [], _ => []
  | node :: rest, state => blocksNode node state ++ blocksList rest (afterNode node state)

end

/-- The blocks with text in a document that the walk comes to, in order. -/
def blocks (tree : Node) : List Visit :=
  blocksList tree.children {}

/-- A block with text is gone into. -/
theorem passing?_of_holdsText {kind : Kind} (holds : holdsText kind = true) (state : State) :
    state.passing? kind = none := by
  cases kind <;> first | rfl | cases holds

/-- The walk comes to the blocks of a document with its punctuation set where it comes to those of
the document, and they are those with their punctuation set there. -/
theorem blocks_smarten (options : TypographyOptions) :
    (∀ node state, blocksNode (smartenNode options node state).1 state =
        (blocksNode node state).map (Visit.set options)) ∧
      ∀ nodes state, blocksList (smartenNodeList options nodes state).1 state =
        (blocksList nodes state).map (Visit.set options) := by
  refine Node.induction ?_ (fun _ => rfl) ?_
  · intro kind children data span below state
    cases passes : state.passing? kind with
    | some after =>
      have bare : holdsText kind = false := by
        refine Bool.eq_false_iff.2 fun holds => ?_
        rw [passing?_of_holdsText holds] at passes
        cases passes
      have bare' : holdsText (state.setKind options kind) = false := by
        cases kind <;> first | rfl | exact bare
      rw [smartenNode_of_passing passes, blocksNode, blocksNode, bare, bare', passing?_setKind,
        passes]
      rfl
    | none =>
      rw [smartenNode_of_entering passes, blocksNode, blocksNode, passes, List.map_append]
      refine congrArg₂ _ ?_ (below _)
      split
      · rw [List.map_singleton, Visit.set, smartenNode_of_entering passes]
      · rfl
  · intro node rest own later state
    rw [smartenNodeList_cons, blocksList, blocksList, List.map_append, own, afterNode_smartenNode,
      (state_smarten options).1, later]

/-- Whether there is no raw markup among nodes or below them. -/
def LacksHtml (nodes : List Node) : Prop :=
  ∀ node ∈ Node.nodesBelow nodes, ∀ value, node.kind ≠ .html value

/-- There is no raw HTML among no nodes. -/
theorem lacksHtml_nil : LacksHtml [] :=
  fun _ none => absurd none List.not_mem_nil

/-- Siblings lack raw HTML if the first of them, what is below it and the others do. -/
theorem lacksHtml_cons {node : Node} {rest : List Node} :
    LacksHtml (node :: rest) ↔
      (∀ value, node.kind ≠ .html value) ∧ LacksHtml node.children ∧ LacksHtml rest := by
  rw [LacksHtml, Node.nodesBelow, Node.nodes_eq, List.cons_append, List.forall_mem_cons,
    List.forall_mem_append]
  rfl

/-- Without raw markup no verbatim element is opened or closed. -/
theorem verbatim_of_lacksHtml :
    (∀ node, LacksHtml [node] → ∀ state, (afterNode node state).verbatim = state.verbatim) ∧
      ∀ nodes, LacksHtml nodes → ∀ state, (afterList nodes state).verbatim = state.verbatim := by
  refine Node.induction ?_ (fun _ _ => rfl) ?_
  · intro kind children data span below lacks state
    obtain ⟨notHtml, lacksBelow, _⟩ := lacksHtml_cons.1 lacks
    cases passes : state.passing? kind with
    | some after =>
      rw [afterNode_of_passing passes]
      cases kind with
      | html value => exact absurd rfl (notHtml value)
      | text value =>
        cases passes
        split <;> rfl
      | inlineCode | code | lineBreak =>
        cases passes
        rfl
      | _ => cases passes
    | none =>
      rw [afterNode_of_entering passes, below lacksBelow]
      cases kind <;> rfl
  · intro node rest own later lacks state
    obtain ⟨notHtml, lacksBelow, lacksRest⟩ := lacksHtml_cons.1 lacks
    rw [afterList, later lacksRest, own]
    exact lacksHtml_cons.2 ⟨notHtml, lacksBelow, lacksHtml_nil⟩

/-- What holds where the walk comes to a block in a document without raw markup. -/
structure Visit.IsPlain (visit : Visit) : Prop where
  holdsText : holdsText visit.block.kind = true
  lacksHtml : LacksHtml visit.block.children
  outside : visit.state.verbatim = []

/-- Without raw markup the walk comes to every block outside verbatim elements. -/
theorem isPlain_of_mem_blocks :
    (∀ node, LacksHtml [node] → ∀ state : State, state.verbatim = [] →
        ∀ visit ∈ blocksNode node state, visit.IsPlain) ∧
      ∀ nodes, LacksHtml nodes → ∀ state : State, state.verbatim = [] →
        ∀ visit ∈ blocksList nodes state, visit.IsPlain := by
  refine Node.induction ?_ (fun _ _ _ _ none => absurd none List.not_mem_nil) ?_
  · intro kind children data span below lacks state outside visit member
    have lacksBelow : LacksHtml children := (lacksHtml_cons.1 lacks).2.1
    rw [blocksNode] at member
    rcases List.mem_append.1 member with member | member
    · split at member
      · rename_i holds
        rw [List.mem_singleton.1 member]
        exact ⟨holds, lacksBelow, outside⟩
      · exact absurd member List.not_mem_nil
    · split at member
      · exact absurd member List.not_mem_nil
      · refine below lacksBelow _ ?_ visit member
        cases kind <;> exact outside
  · intro node rest own later lacks state outside visit member
    obtain ⟨notHtml, lacksBelow, lacksRest⟩ := lacksHtml_cons.1 lacks
    have lacksNode : LacksHtml [node] :=
      lacksHtml_cons.2 ⟨notHtml, lacksBelow, lacksHtml_nil⟩
    rw [blocksList] at member
    rcases List.mem_append.1 member with member | member
    · exact own lacksNode state outside visit member
    · refine later lacksRest _ ?_ visit member
      rw [verbatim_of_lacksHtml.1 node lacksNode, outside]

/-- Whether a straight quote between characters of the given classes closes: an apostrophe does
after a word character, and both do after a word character or punctuation if no word follows. -/
def Closes (before after : CharClass) (c : Char) : Prop :=
  (before = .word ∧ c = '\'') ∨ ((before = .word ∨ before = .punctuation) ∧ after ≠ .word)

/-- Whether a text begins with a straight quote that closes after a character of a class. -/
def BeginsClosing (options : TypographyOptions) (before : CharClass) (text : Text) : Prop :=
  options.quotes = true ∧ sequence? options text = none ∧
    ∃ c rest, text = c :: rest ∧ [c] ∈ straightQuotes ∧ Closes before (classify rest.head?) c

section

variable {options : TypographyOptions} {before after : CharClass} {c : Char} {text rest : Text}

/-- A straight quote becomes the one that it becomes at the start unless it closes. -/
theorem quote?_eq_edge_iff :
    quote? options before after c = quote? options .edge after c ↔
      ¬ (options.quotes = true ∧ [c] ∈ straightQuotes ∧ Closes before after c) := by
  simp only [straightQuotes, List.mem_cons, List.cons.injEq, and_true, List.not_mem_nil, or_false,
    Closes, quote?]
  by_cases on : options.quotes = true
  · by_cases double : c = '"'
    · cases before <;> cases after <;> simp [on, double, opens]
    · by_cases single : c = '\''
      · cases before <;> cases after <;> simp [on, single, opens]
      · simp [on, double, single]
  · simp [on]

/-- A mark for a straight quote takes the place of a character that is none. -/
theorem quote?_ne_self {mark : Char} (found : quote? options before after c = some mark) :
    mark ≠ c := by
  obtain ⟨isMark, _, quote⟩ := quote?_eq_some found
  rintro rfl
  have all : ∀ quote ∈ straightQuotes, ∀ mark ∈ marks, quote ≠ [mark] := by
    simp [straightQuotes, marks]
  exact all _ quote _ isMark rfl

/-- Where no sequence stands, the first character becomes a mark or is kept. -/
theorem smarten_of_single (whole : sequence? options (c :: rest) = none) :
    (smarten options before (c :: rest)).1 =
      (quote? options before (classify rest.head?) c).getD c ::
        (smarten options (classify (some c)) rest).1 := by
  cases found : quote? options before (classify rest.head?) c with
  | none => rw [smarten_of_kept whole found, Option.getD_none]
  | some mark =>
    rw [smarten_of_quote whole found, Option.getD_some, classify_of_quote? found]

/-- The outcome says whether a mark has been put, since no mark takes its own place. -/
theorem getD_quote?_inj {before' : CharClass} :
    (quote? options before after c).getD c = (quote? options before' after c).getD c ↔
      quote? options before after c = quote? options before' after c := by
  refine ⟨fun same => ?_, congrArg (Option.getD · c)⟩
  cases here : quote? options before after c with
  | none =>
    cases there : quote? options before' after c with
    | none => rfl
    | some mark =>
      rw [here, there] at same
      exact absurd same.symm (quote?_ne_self there)
  | some mark =>
    cases there : quote? options before' after c with
    | none =>
      rw [here, there] at same
      exact absurd same (quote?_ne_self here)
    | some other =>
      rw [here, there] at same
      exact congrArg some same

/-- An empty text begins with no quote. -/
theorem not_beginsClosing_nil : ¬ BeginsClosing options before [] := by
  rintro ⟨_, _, _, _, whole, _⟩
  cases whole

/-- A text begins with a closing quote if its first character is a straight one that closes there
and nothing longer is set. -/
theorem beginsClosing_cons :
    BeginsClosing options before (c :: rest) ↔ options.quotes = true ∧
      sequence? options (c :: rest) = none ∧ [c] ∈ straightQuotes ∧
        Closes before (classify rest.head?) c := by
  constructor
  · rintro ⟨on, whole, _, _, same, quote, closes⟩
    cases same
    exact ⟨on, whole, quote, closes⟩
  · rintro ⟨on, whole, quote, closes⟩
    exact ⟨on, whole, c, rest, rfl, quote, closes⟩

/-- A text becomes what it becomes at the start of a document unless it begins with a straight quote
that closes. -/
theorem smarten_eq_edge_iff :
    (smarten options before text).1 = (smarten options .edge text).1 ↔
      ¬ BeginsClosing options before text := by
  cases text with
  | nil =>
    rw [smarten, smarten]
    exact iff_of_true rfl not_beginsClosing_nil
  | cons c rest =>
    cases whole : sequence? options (c :: rest) with
    | some found =>
      rw [smarten_of_sequence whole, smarten_of_sequence whole, beginsClosing_cons, whole]
      exact iff_of_true rfl (by simp)
    | none =>
      rw [smarten_of_single whole, smarten_of_single whole, List.cons.injEq, and_iff_left rfl,
        getD_quote?_inj, quote?_eq_edge_iff, beginsClosing_cons, and_iff_right whole]

end

/-- The first thing among nodes that decides what is remembered. -/
inductive Lead where
  /-- There is no such thing. -/
  | nothing
  /-- Something that decides it whatever stands before. -/
  | settled
  /-- A text with characters in it. -/
  | text (value : Text)

/-- The lead of what goes on: that of the beginning, or, if there is none, of the rest. -/
def Lead.orElse : Lead → Lead → Lead
  | .nothing, later => later
  | lead, _ => lead

/-- What a node of a kind leads with, unless its children decide. -/
def ownLead? : Kind → Option Lead
  | .text [] => some .nothing
  | .text value => some (.text value)
  | .html _ => some .nothing
  | .inlineCode _ => some .settled
  | .code _ _ _ => some .settled
  | .lineBreak => some .settled
  | .paragraph => some .settled
  | .heading _ => some .settled
  | _ => none

mutual

/-- What a node leads with. -/
def leadNode : Node → Lead
  | ⟨kind, children, _, _⟩ => (ownLead? kind).getD (leadList children)

/-- What siblings lead with. -/
def leadList : List Node → Lead
  | [] => .nothing
  | node :: rest => (leadNode node).orElse (leadList rest)

end

/-- A node that does not decide what it leads with has the texts below it set, from what is
remembered where it begins. -/
theorem smartenNode_of_ownLead? {options : TypographyOptions} {kind : Kind} {children : List Node}
    {data : Annotations} {span : Option Span} (below : ownLead? kind = none) (state : State) :
    smartenNode options ⟨kind, children, data, span⟩ state =
      (⟨kind, (smartenNodeList options children state).1, data, span⟩,
        (smartenNodeList options children state).2) := by
  rw [smartenNode_eq]
  cases kind with
  | text value => cases value <;> cases below
  | _ => first | rfl | cases below

/-- How a walk outside verbatim elements depends on the class that it begins with: nodes without a
lead stay the same and hand the class on; after a lead nothing is left of it, and only a text that
leads is set according to it. -/
def Follows {α : Type} (options : TypographyOptions) (run : State → α × State) : Lead → Prop
  | .nothing => ∀ before, run { before } = ((run {}).1, { before })
  | .settled => ∀ before, run { before } = run {}
  | .text value => ∀ before, (run { before }).2 = (run {}).2 ∧
      ((run { before }).1 = (run {}).1 ↔ ¬ BeginsClosing options before value)

namespace Follows

variable {α β : Type} {options : TypographyOptions} {run : State → α × State}

/-- What is built from the outcome of a walk depends on the class in the same way. -/
theorem map {lead : Lead} (follows : Follows options run lead) {build : α → β}
    (injective : Function.Injective build) {built : State → β × State}
    (eq : ∀ before, built { before } = (build (run { before }).1, (run { before }).2)) :
    Follows options built lead := by
  cases lead with
  | nothing =>
    intro before
    rw [eq, eq, follows before]
  | settled =>
    intro before
    rw [eq, eq, follows before]
  | text value =>
    intro before
    rw [eq, eq, injective.eq_iff]
    exact follows before

/-- A walk that goes on depends on the class as its beginning does, or, if this has no lead, as the
rest does. -/
theorem andThen {first second : Lead} {next : State → List α × State}
    (own : Follows options run first) (later : Follows options next second)
    {both : State → List α × State}
    (eq : ∀ state, both state =
      ((run state).1 :: (next (run state).2).1, (next (run state).2).2)) :
    Follows options both (first.orElse second) := by
  cases first with
  | nothing =>
    -- The class reaches the rest, and the node itself is the same for all classes.
    have same (before : CharClass) :
        both { before } = ((run {}).1 :: (next { before }).1, (next { before }).2) := by
      rw [eq, own before]
    exact later.map List.cons_injective same
  | settled =>
    intro before
    rw [eq, eq, own before]
  | text value =>
    intro before
    rw [eq, eq, (own before).1, List.cons.injEq, and_iff_left rfl]
    exact ⟨rfl, (own before).2⟩

/-- Nodes become what they become at the start of a document unless they lead with a text that
begins with a closing quote. -/
theorem eq_iff {lead : Lead} (follows : Follows options run lead) (before : CharClass) :
    (run { before }).1 = (run {}).1 ↔
      ¬ ∃ value, lead = .text value ∧ BeginsClosing options before value := by
  cases lead with
  | nothing =>
    rw [follows before]
    exact iff_of_true rfl fun ⟨_, other, _⟩ => nomatch other
  | settled =>
    rw [follows before]
    exact iff_of_true rfl fun ⟨_, other, _⟩ => nomatch other
  | text value =>
    rw [(follows before).2]
    refine not_congr ⟨fun closing => ⟨value, rfl, closing⟩, ?_⟩
    rintro ⟨_, same, closing⟩
    cases same
    exact closing

end Follows

/-- The walk over nodes without raw markup depends on the class that it begins with as their lead
says. -/
theorem follows_lead (options : TypographyOptions) :
    (∀ node, LacksHtml [node] → Follows options (smartenNode options node) (leadNode node)) ∧
      ∀ nodes, LacksHtml nodes →
        Follows options (smartenNodeList options nodes) (leadList nodes) := by
  refine Node.induction ?_ (fun _ _ => rfl) ?_
  · intro kind children data span below lacks
    obtain ⟨notHtml, lacksBelow, _⟩ := lacksHtml_cons.1 lacks
    rw [leadNode]
    cases lead : ownLead? kind with
    | none =>
      have injective : Function.Injective fun nodes => Node.mk kind nodes data span := by
        rintro nodes nodes' same
        cases same
        rfl
      exact (below lacksBelow).map injective fun _ => smartenNode_of_ownLead? lead _
    | some own =>
      cases kind with
      | html value => exact absurd rfl (notHtml value)
      | text value =>
        cases value with
        | nil =>
          cases lead
          intro before
          rw [smartenNode_eq, smartenNode_eq, setKind, setKind, smarten, smarten]
          rfl
        | cons c rest =>
          cases lead
          intro before
          rw [smartenNode_eq, smartenNode_eq, ← smarten_eq_edge_iff]
          simp [passing?, setKind, lastClass_cons]
      | inlineCode | code | lineBreak | paragraph | heading =>
        cases lead
        intro before
        rw [smartenNode_eq, smartenNode_eq]
        rfl
      | _ => cases lead
  · intro node rest own later lacks
    obtain ⟨notHtml, lacksBelow, lacksRest⟩ := lacksHtml_cons.1 lacks
    have lacksNode : LacksHtml [node] :=
      lacksHtml_cons.2 ⟨notHtml, lacksBelow, lacksHtml_nil⟩
    rw [leadList]
    exact (own lacksNode).andThen (later lacksRest) fun _ => smartenNodeList_cons _ _

/-- A document that consists of one block. -/
def documentOf (block : Node) : Node :=
  { kind := .root, children := [block] }

/-- Alone in a document a block is set from the state in which a document begins. -/
theorem smartenDocument_documentOf (options : TypographyOptions) (block : Node) :
    smartenDocument options (documentOf block) = documentOf (smartenNode options block {}).1 := by
  rw [documentOf, smartenDocument, smartenNodeList_cons, smartenNodeList]
  rfl

/-- Whether a block is a table cell that leads with a straight quote which closes after what stands
before the cell. -/
def Visit.BeginsClosing (options : TypographyOptions) (visit : Visit) : Prop :=
  visit.block.kind = .tableCell ∧ ∃ value, leadList visit.block.children = .text value ∧
    SmartPunctuation.BeginsClosing options visit.state.before value

/-- Outside verbatim elements a block with text becomes what it becomes alone unless it is a cell
that begins with a closing quote. -/
theorem set_eq_alone_iff (options : TypographyOptions) {visit : Visit} (plain : visit.IsPlain) :
    (smartenNode options visit.block {}).1 = (visit.set options).block ↔
      ¬ visit.BeginsClosing options := by
  obtain ⟨⟨kind, children, data, span⟩, before, verbatim⟩ := visit
  obtain ⟨holds, lacks, rfl⟩ := plain
  dsimp only [Visit.set, Visit.BeginsClosing] at holds lacks ⊢
  cases kind with
  | paragraph | heading =>
    rw [smartenNode_eq, smartenNode_eq]
    exact iff_of_true rfl fun ⟨cell, _⟩ => nomatch cell
  | tableCell =>
    rw [smartenNode_of_ownLead? rfl, smartenNode_of_ownLead? rfl, and_iff_right rfl,
      ← ((follows_lead options).2 children lacks).eq_iff]
    refine ⟨fun same => (congrArg Node.children same).symm, fun same => ?_⟩
    rw [same]
  | _ => cases holds

/-- The blocks with text of a document with its punctuation set are those of the document with their
punctuation set where the walk comes to them. Without raw markup each of them becomes what it
becomes alone in a document, whatever stands before it, unless it is a table cell that begins with a
straight quote which closes after what stands before the cell. -/
theorem blocks_set_alone_iff (options : TypographyOptions) {tree : Node}
    (lacks : LacksHtml tree.children) :
    blocks (smartenDocument options tree) = (blocks tree).map (Visit.set options) ∧
      ∀ visit ∈ blocks tree,
        (smartenDocument options (documentOf visit.block) = documentOf (visit.set options).block ↔
          ¬ visit.BeginsClosing options) := by
  obtain ⟨kind, children, data, span⟩ := tree
  refine ⟨(blocks_smarten options).2 children {}, fun visit member => ?_⟩
  have plain := isPlain_of_mem_blocks.2 children lacks {} rfl visit member
  rw [← set_eq_alone_iff options plain, smartenDocument_documentOf]
  refine ⟨fun same => ?_, congrArg documentOf⟩
  rw [documentOf, documentOf, Node.mk.injEq] at same
  exact List.head_eq_of_cons_eq same.2.1

/-- A table cell with a text. -/
def cell (value : Text) : Node :=
  { kind := .tableCell, children := [Node.text value] }

/-- The text of a cell is set after what stands before the cell. -/
theorem smartenNode_cell (options : TypographyOptions) (before : CharClass) (value : Text) :
    (smartenNode options (cell value) { before }).1 = cell (smarten options before value).1 := by
  rw [cell, smartenNode_of_ownLead? rfl, smartenNodeList_cons, Node.text, smartenNode_eq]
  rfl

/-- A document with a table of one row, given by the texts of its cells. -/
def rowOf (values : List Text) : Node :=
  documentOf
    { kind := .table []
      children := [{ kind := .tableRow true, children := values.map cell }] }

/-- There is no raw markup in such a table. -/
theorem lacksHtml_rowOf (values : List Text) : LacksHtml (rowOf values).children := by
  have cells : LacksHtml (values.map cell) := by
    induction values with
    | nil => exact lacksHtml_nil
    | cons value rest ih =>
      exact lacksHtml_cons.2 ⟨nofun, lacksHtml_cons.2 ⟨nofun, lacksHtml_nil, lacksHtml_nil⟩, ih⟩
  exact lacksHtml_cons.2 ⟨nofun, lacksHtml_cons.2 ⟨nofun, cells, lacksHtml_nil⟩, lacksHtml_nil⟩

/-- Two cells, the second of which has its quotes at punctuation. -/
theorem blocks_set_alone_quotedCell :
    LacksHtml (rowOf ["it".toList, "\"(x)\"".toList]).children ∧
      blocks (smartenDocument {} (rowOf ["it".toList, "\"(x)\"".toList])) =
          (blocks (rowOf ["it".toList, "\"(x)\"".toList])).map (Visit.set {}) ∧
        ∀ visit ∈ blocks (rowOf ["it".toList, "\"(x)\"".toList]),
          (smartenDocument {} (documentOf visit.block) = documentOf (visit.set {}).block ↔
            ¬ visit.BeginsClosing {}) :=
  ⟨lacksHtml_rowOf _, blocks_set_alone_iff {} (lacksHtml_rowOf _)⟩

/-- A quote closes in a cell after a word, though it opens where the cell is alone. -/
theorem quotedCell_closes :
    ∃ visit ∈ blocks (rowOf ["it".toList, "\"(x)\"".toList]),
      visit.block = cell "\"(x)\"".toList ∧
        (visit.set {}).block = cell "”(x)”".toList ∧
          smartenDocument {} (documentOf visit.block) = documentOf (cell "“(x)”".toList) := by
  refine ⟨⟨cell "\"(x)\"".toList, { before := .word }⟩, ?_, rfl, ?_, ?_⟩
  · exact List.mem_cons_of_mem _ (List.mem_singleton.2 rfl)
  · have closed : (smarten {} .word "\"(x)\"".toList).1 = "”(x)”".toList := by
      decide +kernel
    rw [Visit.set, smartenNode_cell, closed]
  · have opened : (smarten {} .edge "\"(x)\"".toList).1 = "“(x)”".toList := by
      decide +kernel
    rw [smartenDocument_documentOf, smartenNode_cell, opened]

end Manuscript.SmartPunctuation
