import Manuscript.Proofs.Pipeline.Edit

/-!
# Code is left alone

The code regions of a document are its code blocks, with their languages, and its pieces of inline
code, in document order. No edit changes them where texts are leaves (`Edited.codeRegions`), and so
no run of passes without the one over block quotes does (`codeRegions_runConfigured`).
-/

namespace Manuscript

/-- A piece of code in a document. -/
inductive CodeRegion where
  /-- A code block with its language. -/
  | block (language : Option Text) (value : Text)
  /-- Code inside a line. -/
  | inline (value : Text)
deriving DecidableEq, Repr

/-- The code that a kind of node holds. -/
def Kind.codeRegion? : Kind → Option CodeRegion
  | .code language _ value => some (.block language value)
  | .inlineCode value => some (.inline value)
  | _ => none

namespace Node

/-- The code regions of trees, in document order. -/
def codeRegionList (nodes : List Node) : List CodeRegion :=
  (nodesBelow nodes).filterMap (·.kind.codeRegion?)

/-- The code regions of a tree, in document order. -/
def codeRegions (tree : Node) : List CodeRegion :=
  tree.nodes.filterMap (·.kind.codeRegion?)

/-- The code in two lists of siblings is that of the one and then that of the other. -/
theorem codeRegionList_append (front back : List Node) :
    codeRegionList (front ++ back) = codeRegionList front ++ codeRegionList back := by
  rw [codeRegionList, nodesBelow_append, List.filterMap_append]
  rfl

/-- The code regions of a tree are that of its root and those of its children. -/
theorem codeRegionList_singleton (node : Node) :
    codeRegionList [node] = node.kind.codeRegion?.toList ++ codeRegionList node.children := by
  rw [codeRegionList, nodesBelow_singleton, List.filterMap_cons]
  cases node.kind.codeRegion? <;> rfl

/-- The code in a list of one tree is that in the tree. -/
theorem codeRegionList_eq (tree : Node) : codeRegionList [tree] = tree.codeRegions := by
  rw [codeRegionList, nodesBelow, nodesBelow, List.append_nil, codeRegions]

/-- A text is no code. -/
theorem codeRegion?_of_isText {node : Node} (isText : node.isText = true) :
    node.kind.codeRegion? = none := by
  obtain ⟨kind, children, data, span⟩ := node
  cases kind <;> first | rfl | cases isText

/-- A leaf that is a text holds no code. -/
theorem codeRegionList_text {node : Node} (isText : node.isText = true)
    (leaf : node.children = []) : codeRegionList [node] = [] := by
  rw [codeRegionList_singleton, codeRegion?_of_isText isText, leaf]
  rfl

/-- A piece of text holds no code, and its texts are leaves. -/
theorem IsPiece.codeRegionList {piece : Node} (isPiece : IsPiece piece) :
    Node.codeRegionList [piece] = [] ∧ TextLeaves [piece] := by
  have leaf : ∀ value, TextLeaves [Node.text value] := fun value =>
    textLeaves_singleton.2 ⟨fun _ => rfl, textLeaves_nil⟩
  cases isPiece with
  | text value => exact ⟨rfl, leaf value⟩
  | lineBreak => exact ⟨rfl, textLeaves_singleton.2 ⟨fun _ => rfl, textLeaves_nil⟩⟩
  | @around kind isAround value =>
    have isInline : kind.codeRegion? = none ∧
        Node.isText { kind, children := [Node.text value] } = false := by
      cases kind <;> first | exact ⟨rfl, rfl⟩ | cases isAround
    constructor
    · rw [codeRegionList_singleton, isInline.1]
      rfl
    · refine textLeaves_singleton.2 ⟨fun isText => ?_, leaf value⟩
      rw [isInline.2] at isText
      cases isText

/-- Leaves that are texts hold no code. -/
theorem codeRegionList_texts {nodes : List Node} (texts : ∀ node ∈ nodes, node.isText = true)
    (leaves : TextLeaves nodes) : codeRegionList nodes = [] := by
  induction nodes with
  | nil => rfl
  | cons node rest ih =>
    obtain ⟨isText, later⟩ := List.forall_mem_cons.1 texts
    obtain ⟨first, others⟩ := textLeaves_append.1 (show TextLeaves ([node] ++ rest) from leaves)
    rw [← List.singleton_append, codeRegionList_append,
      codeRegionList_text isText ((textLeaves_singleton.1 first).1 isText), ih later others]
    rfl

/-- Pieces of text hold no code, and their texts are leaves. -/
theorem codeRegionList_pieces {pieces : List Node} (arePieces : ∀ piece ∈ pieces, IsPiece piece) :
    codeRegionList pieces = [] ∧ TextLeaves pieces := by
  induction pieces with
  | nil => exact ⟨rfl, textLeaves_nil⟩
  | cons piece rest ih =>
    obtain ⟨first, later⟩ := List.forall_mem_cons.1 arePieces
    obtain ⟨plain, leaves⟩ := ih later
    obtain ⟨own, ownLeaves⟩ := first.codeRegionList
    constructor
    · rw [← List.singleton_append, codeRegionList_append, own, plain]
      rfl
    · rw [← List.singleton_append]
      exact textLeaves_append.2 ⟨ownLeaves, leaves⟩

/-- Where texts are leaves, an edit keeps the code and keeps texts leaves. -/
theorem Edited.codeRegions {allowed : Bool} {nodes others : List Node}
    (edited : Edited allowed nodes others) (leaves : TextLeaves nodes) :
    codeRegionList others = codeRegionList nodes ∧ TextLeaves others := by
  induction edited with
  | same => exact ⟨rfl, leaves⟩
  | trans _ _ first second =>
    obtain ⟨once, between⟩ := first leaves
    obtain ⟨again, after⟩ := second between
    exact ⟨again.trans once, after⟩
  | append _ _ first second =>
    obtain ⟨inFront, inBack⟩ := textLeaves_append.1 leaves
    obtain ⟨front, frontLeaves⟩ := first inFront
    obtain ⟨back, backLeaves⟩ := second inBack
    exact ⟨by rw [codeRegionList_append, codeRegionList_append, front, back],
      textLeaves_append.2 ⟨frontLeaves, backLeaves⟩⟩
  | inside edited below =>
    obtain ⟨leaf, inside⟩ := textLeaves_singleton.1 leaves
    obtain ⟨same, after⟩ := below inside
    exact ⟨by rw [codeRegionList_singleton, codeRegionList_singleton, same],
      textLeaves_singleton.2 ⟨fun isText => edited.eq_nil (leaf isText), after⟩⟩
  | reword isText value =>
    obtain ⟨leaf, inside⟩ := textLeaves_singleton.1 leaves
    refine ⟨?_, textLeaves_singleton.2 ⟨fun _ => leaf isText, inside⟩⟩
    rw [codeRegionList_text isText (leaf isText)]
    exact codeRegionList_text rfl (leaf isText)
  | replace isText arePieces =>
    obtain ⟨leaf, _⟩ := textLeaves_singleton.1 leaves
    obtain ⟨plain, after⟩ := codeRegionList_pieces arePieces
    exact ⟨by rw [plain, codeRegionList_text isText (leaf isText)], after⟩
  | refence kind fence' =>
    obtain ⟨_, inside⟩ := textLeaves_singleton.1 leaves
    refine ⟨?_, textLeaves_singleton.2 ⟨(fun isText => by cases isText), inside⟩⟩
    rw [codeRegionList_singleton, codeRegionList_singleton, kind]
    rfl
  | annotate =>
    obtain ⟨leaf, inside⟩ := textLeaves_singleton.1 leaves
    refine ⟨?_, textLeaves_singleton.2 ⟨fun isText => leaf isText, inside⟩⟩
    rw [codeRegionList_singleton, codeRegionList_singleton]
  | @remove node isParagraph texts =>
    obtain ⟨_, inside⟩ := textLeaves_singleton.1 leaves
    refine ⟨?_, textLeaves_nil⟩
    rw [codeRegionList_singleton, of_decide_eq_true isParagraph, codeRegionList_texts texts inside]
    rfl
  | wrap _ classes =>
    refine ⟨?_, textLeaves_singleton.2 ⟨(fun isText => by cases isText), leaves⟩⟩
    rw [codeRegionList_singleton]
    rfl

end Node

namespace Pipeline

/-- A run of Markdown passes without the one over block quotes, each with settings of its own, gives
a tree with the same code in the same order. When the passes share their settings, that is the tree
that a pipeline goes on with. -/
theorem codeRegions_runConfigured (source : Text) (passes : List ConfiguredPass)
    (other : ∀ configured ∈ passes, configured.pass ≠ .blockquote) (tree : Node)
    (leaves : ∀ node ∈ tree.nodes, node.isText = true → node.children = []) :
    ∃ result, runConfigured source passes tree = some result ∧
      result.codeRegions = tree.codeRegions ∧
      ∀ options markdown, passes = markdown.map (fun pass => { options, pass }) →
        (runMarkdown options source markdown tree).map (lastTree tree) = some result := by
  suffices kept : ∃ result, runConfigured source passes tree = some result ∧
      result.codeRegions = tree.codeRegions by
    obtain ⟨result, run, same⟩ := kept
    refine ⟨result, run, same, fun options markdown shared => ?_⟩
    rw [lastTree_runMarkdown, ← shared, run]
  have whole : ∀ tree : Node, Node.nodesBelow [tree] = tree.nodes := fun tree => by
    rw [Node.nodesBelow, Node.nodesBelow, List.append_nil]
  have start : Node.TextLeaves [tree] := by rwa [Node.TextLeaves, whole]
  clear leaves
  induction passes generalizing tree with
  | nil => exact ⟨tree, rfl, rfl⟩
  | cons configured rest ih =>
    obtain ⟨here, later⟩ := List.forall_mem_cons.1 other
    obtain ⟨next, run, edited⟩ := edited_run configured.options source tree here
    obtain ⟨same, after⟩ := edited.codeRegions start
    obtain ⟨result, runRest, kept⟩ := ih later next after
    refine ⟨result, by rw [runConfigured_cons, run, Option.bind_some, runRest], kept.trans ?_⟩
    rw [← Node.codeRegionList_eq, same, Node.codeRegionList_eq]

/-- A document with a code block between alignment tags and code in a line. -/
def documentWithCode : Node :=
  { kind := .root
    children :=
      [ Node.paragraph [Node.text "[center]".toList],
        { kind := .code (some "rust".toList) (some "[setup:Rust]".toList) "a -- b".toList },
        Node.paragraph [Node.text "[/center]".toList],
        Node.paragraph [Node.text "\"New\" is ".toList, { kind := .inlineCode "x--".toList }] ] }

/-- The code of a document is the same after its tabs are grouped and its punctuation is set. -/
theorem codeRegions_documentWithCode :
    ∃ result, runConfigured [] [⟨{}, .align⟩, ⟨{}, .codeTabs⟩, ⟨{}, .typography⟩]
        documentWithCode = some result ∧
      result.codeRegions =
        [.block (some "rust".toList) "a -- b".toList, .inline "x--".toList] ∧
      (runMarkdown {} [] [.align, .codeTabs, .typography] documentWithCode).map
        (lastTree documentWithCode) = some result := by
  obtain ⟨result, run, kept, shared⟩ := codeRegions_runConfigured []
    [⟨{}, .align⟩, ⟨{}, .codeTabs⟩, ⟨{}, .typography⟩] (by decide) documentWithCode (by decide)
  exact ⟨result, run, kept, shared {} [.align, .codeTabs, .typography] rfl⟩

end Pipeline

end Manuscript
