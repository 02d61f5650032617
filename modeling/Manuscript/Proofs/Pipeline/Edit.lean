import Manuscript.Proofs.Alignment.Edit
import Manuscript.Proofs.Attribute.Edit
import Manuscript.Proofs.Pipeline.Failure

/-!
# The passes over prose as edits

Every Markdown pass but the one over block quotes makes nothing but edits (`edited_run`). Passes
are run one after the other, each with settings of its own (`runConfigured`); those of a pipeline
share theirs (`lastTree_runMarkdown`).
-/

namespace Manuscript

open Node (Edited IsPiece)

variable {allowed : Bool}

/-- The node for a text is a piece. -/
theorem Node.isPiece_of_mem_ofText {value : Text} {piece : Node}
    (member : piece ∈ Node.ofText value) : IsPiece piece := by
  rw [Node.ofText] at member
  split at member
  · cases member
  · rw [List.mem_singleton.1 member]
    exact .text value

namespace Abbreviation

/-- A definition paragraph holds a text and nothing else. -/
theorem texts_of_ofParagraph? {node : Node} {entries : List Abbreviation}
    (read : ofParagraph? node = some entries) :
    node.isParagraph = true ∧ ∀ child ∈ node.children, child.isText = true := by
  unfold ofParagraph? at read
  split at read
  · rename_i kind children
    refine ⟨decide_eq_true kind, fun child member => ?_⟩
    rw [children, List.mem_singleton] at member
    rw [member]
    rfl
  · cases read

/-- Removing the definitions is an edit. -/
theorem edited_removeDefinitions :
    (∀ tree, Edited allowed [tree] [removeDefinitions tree]) ∧
      ∀ nodes, Edited allowed nodes (removeDefinitionList nodes) := by
  refine Node.induction ?_ ?_ ?_
  · intro kind children data span below
    exact .inside below
  · exact .same []
  · intro node rest own later
    rw [removeDefinitionList]
    split
    · rename_i read
      obtain ⟨isParagraph, texts⟩ := texts_of_ofParagraph? read
      exact (Edited.remove isParagraph texts).cut later
    · exact own.cons later

/-- A text is cut into pieces around the uses in it. -/
theorem isPiece_of_mem_cut {expandFirst : Bool} {uses : List Use} :
    ∀ {position : Nat} {text : Text} {expanded : List Text} {piece : Node},
      piece ∈ (cut expandFirst position text uses expanded).1 → IsPiece piece := by
  induction uses with
  | nil =>
    intro position text expanded piece member
    exact Node.isPiece_of_mem_ofText member
  | cons use rest ih =>
    intro position text expanded piece member
    have marked : IsPiece (node use.entry) := .around rfl use.entry.name
    rw [cut] at member
    dsimp only at member
    split at member
    · simp only [List.mem_append, List.mem_cons] at member
      rcases member with before | rfl | rfl | rfl | later
      · exact Node.isPiece_of_mem_ofText before
      · exact .text _
      · exact marked
      · exact .text _
      · exact ih later
    · simp only [List.mem_append, List.mem_cons] at member
      rcases member with before | rfl | later
      · exact Node.isPiece_of_mem_ofText before
      · exact marked
      · exact ih later

/-- Marking the uses is an edit. -/
theorem edited_markUses (expandFirst : Bool) (entries : List Abbreviation) :
    (∀ tree expanded, Edited allowed [tree] [(markUses expandFirst entries tree expanded).1]) ∧
      ∀ nodes expanded,
        Edited allowed nodes (markUseList expandFirst entries nodes expanded).1 := by
  refine Node.induction ?_ ?_ ?_
  · intro kind children data span below expanded
    exact .inside (below expanded)
  · exact fun _ => .same []
  · intro node rest own later expanded
    rw [markUseList.eq_def]
    split
    · rename_i equal
      cases equal
    · rename_i equal
      cases equal
      split
      · exact (Edited.same _).cons (later _)
      · exact (Edited.replace rfl fun _ member => isPiece_of_mem_cut member).cut (later _)
    · rename_i equal
      cases equal
      exact (Edited.same _).cons (later _)
    · rename_i equal
      cases equal
      exact (own _).cons (later _)

/-- Reading the definitions and marking the uses is an edit. -/
theorem edited_markDocument (expandFirst : Bool) (tree : Node) :
    Edited allowed [tree] [markDocument expandFirst tree] := by
  rw [markDocument]
  split
  · exact edited_removeDefinitions.1 tree
  · exact (edited_removeDefinitions.1 tree).trans ((edited_markUses _ _).1 _ _)

end Abbreviation

/-- Highlighting spans is an edit. -/
theorem Highlight.edited_markDocument (tree : Node) :
    Edited allowed [tree] [Highlight.markDocument tree] := by
  refine (Edited.substituteTexts fun kind found => ?_).1 tree
  obtain ⟨cut, _, rfl⟩ := Option.map_eq_some_iff.1 found
  refine .replace (Node.isText_of_kind kind) fun piece member => ?_
  rcases List.mem_append.1 member with before | after
  · exact Node.isPiece_of_mem_ofText before
  · rcases List.mem_cons.1 after with rfl | after
    · exact .around rfl cut.inner
    · exact Node.isPiece_of_mem_ofText after

/-- Breaking lines is an edit. -/
theorem LineBreak.edited_breakLines (tree : Node) :
    Edited allowed [tree] [LineBreak.breakLines tree] := by
  refine (Edited.substituteTexts fun kind found => ?_).1 tree
  split at found
  · cases found
    refine .replace (Node.isText_of_kind kind) fun piece member => ?_
    rw [LineBreak.nodes.eq_def] at member
    split at member
    · cases member
    · rcases List.mem_append.1 member with first | later
      · exact Node.isPiece_of_mem_ofText first
      · obtain ⟨line, _, member⟩ := List.mem_flatMap.1 later
        rcases List.mem_cons.1 member with rfl | member
        · exact .lineBreak
        · exact Node.isPiece_of_mem_ofText member
  · cases found

/-- Replacing shortcodes is an edit. -/
theorem Shortcode.edited_replaceTexts (tree : Node) :
    Edited allowed [tree] [Shortcode.replaceTexts tree] := by
  refine (Edited.substituteTexts fun kind found => ?_).1 tree
  dsimp only at found
  split at found
  · cases found
  · cases found
    exact .replace (Node.isText_of_kind kind) fun piece member =>
      (List.mem_singleton.1 member) ▸ .text _

/-- Applying replacement rules is an edit. -/
theorem Replacement.edited_replaceTexts (rules : List Replacement) (tree : Node) :
    Edited allowed [tree] [Replacement.replaceTexts rules tree] := by
  refine (Edited.substituteTexts fun kind found => ?_).1 tree
  dsimp only at found
  split at found
  · cases found
  · cases found
    exact .reword (Node.isText_of_kind kind) _

namespace BareLink

/-- A text is cut into pieces at its addresses. -/
theorem isPiece_of_mem_nodes? {text : Text} {pieces : List Node} (cut : nodes? text = some pieces) :
    ∀ piece ∈ pieces, IsPiece piece := by
  unfold nodes? at cut
  dsimp only at cut
  split at cut
  · cases cut
  · cases cut
    intro piece member
    rcases List.mem_append.1 member with links | tail
    · obtain ⟨⟨before, url⟩, _, member⟩ := List.mem_flatMap.1 links
      rcases List.mem_append.1 member with before | link
      · exact Node.isPiece_of_mem_ofText before
      · rw [List.mem_singleton.1 link]
        exact .around rfl url
    · exact Node.isPiece_of_mem_ofText tail

/-- Linking addresses is an edit. -/
theorem edited_linkTexts :
    (∀ tree, Edited allowed [tree] [linkTexts tree]) ∧
      ∀ nodes, Edited allowed nodes (linkTextList nodes) := by
  refine Node.induction ?_ ?_ ?_
  · intro kind children data span below
    exact .inside below
  · exact .same []
  · intro node rest own later
    rw [linkTextList.eq_def]
    split
    · rename_i equal
      cases equal
    · rename_i value _ _ _ _ equal
      cases equal
      refine Edited.cut ?_ later
      cases cut : nodes? value with
      | none => exact .same _
      | some pieces => exact .replace rfl (isPiece_of_mem_nodes? cut)
    · rename_i equal
      cases equal
      exact (Edited.same _).cons later
    · rename_i equal
      cases equal
      exact own.cons later

end BareLink

namespace CodeFence

/-- Moving the token from a fence line is an edit. -/
theorem edited_groupTabs (tree : Node) : Edited allowed [tree] [groupTabs tree] := by
  refine (Edited.mapCode fun {node} _ _ _ _ => ?_).1 tree
  unfold groupCode
  split
  · rename_i kind
    split
    · refine (Edited.refence kind _).trans (.annotate ?_)
      exact ⟨rfl, fun _ member => .inl (List.mem_map_of_mem member)⟩
    · exact .same _
  · exact .same _

/-- Keeping the fence lines is an edit. -/
theorem edited_preserveMeta (tree : Node) : Edited allowed [tree] [preserveMeta tree] := by
  refine (Edited.mapCode fun {node} _ _ _ _ => ?_).1 tree
  unfold keepFence
  split
  · split
    · exact .same _
    · exact .annotate ⟨rfl, fun _ member => .inl (List.mem_map_of_mem member)⟩
  · exact .same _

end CodeFence

namespace SmartPunctuation

/-- Setting punctuation is an edit. -/
theorem edited_smartenNode (options : TypographyOptions) :
    (∀ tree state, Edited allowed [tree] [(smartenNode options tree state).1]) ∧
      ∀ nodes state, Edited allowed nodes (smartenNodeList options nodes state).1 := by
  refine Node.induction ?_ ?_ ?_
  · intro kind children data span below state
    cases kind with
    | text value =>
      rw [smartenNode]
      split
      · exact .rewordText value _ children data span
      · exact .same _
    | html | inlineCode | code | lineBreak =>
      rw [smartenNode]
      exact .same _
    | _ =>
      unfold smartenNode
      exact .inside (below _)
  · exact fun _ => .same []
  · intro node rest own later state
    exact (own _).cons (later _)

/-- Setting the punctuation of a document is an edit. -/
theorem edited_smartenDocument (options : TypographyOptions) (tree : Node) :
    Edited allowed [tree] [smartenDocument options tree] := by
  obtain ⟨kind, children, data, span⟩ := tree
  exact .inside ((edited_smartenNode options).2 children {})

end SmartPunctuation

/-- Every Markdown pass but the one over block quotes gives a tree, and makes nothing but edits. -/
theorem edited_run (options : Options) (source : Text) (tree : Node) {pass : MarkdownPass}
    (other : pass ≠ .blockquote) :
    ∃ result, pass.run options source tree = some result ∧
      Edited options.allowDangerousHtml [tree] [result] := by
  cases pass with
  | abbreviations => exact ⟨_, rfl, Abbreviation.edited_markDocument _ tree⟩
  | align => exact ⟨_, rfl, Alignment.edited_alignDocument _ source tree⟩
  | attributes => exact ⟨_, rfl, AttributeBlock.edited_attachDocument source tree⟩
  | blockquote => exact absurd rfl other
  | breaks => exact ⟨_, rfl, LineBreak.edited_breakLines tree⟩
  | emojiShortcodes => exact ⟨_, rfl, Shortcode.edited_replaceTexts tree⟩
  | linkify => exact ⟨_, rfl, BareLink.edited_linkTexts.1 tree⟩
  | highlight => exact ⟨_, rfl, Highlight.edited_markDocument tree⟩
  | codeTabs => exact ⟨_, rfl, CodeFence.edited_groupTabs tree⟩
  | codeMeta => exact ⟨_, rfl, CodeFence.edited_preserveMeta tree⟩
  | replacements => exact ⟨_, rfl, Replacement.edited_replaceTexts _ tree⟩
  | typography => exact ⟨_, rfl, SmartPunctuation.edited_smartenDocument _ tree⟩

namespace Pipeline

/-- A Markdown pass with settings of its own. -/
structure ConfiguredPass where
  /-- The settings. -/
  options : Options
  /-- The pass. -/
  pass : MarkdownPass

/-- Runs configured passes over a document, one after the other. -/
def runConfigured (source : Text) (passes : List ConfiguredPass) (tree : Node) : Option Node :=
  passes.foldlM (fun tree configured => configured.pass.run configured.options source tree) tree

/-- The first of the passes runs, then the others, if it succeeds. -/
theorem runConfigured_cons (source : Text) (configured : ConfiguredPass)
    (rest : List ConfiguredPass) (tree : Node) :
    runConfigured source (configured :: rest) tree =
      (configured.pass.run configured.options source tree).bind (runConfigured source rest) := rfl

/-- The passes of a pipeline are configured passes that share their settings. -/
theorem lastTree_runMarkdown (options : Options) (source : Text) (passes : List MarkdownPass)
    (tree : Node) :
    (runMarkdown options source passes tree).map (lastTree tree) =
      runConfigured source (passes.map fun pass => { options, pass }) tree := by
  induction passes generalizing tree with
  | nil => rfl
  | cons pass rest ih =>
    rw [List.map_cons, runConfigured_cons]
    cases run : pass.run options source tree with
    | none =>
      rw [runMarkdown, run]
      rfl
    | some next =>
      rw [runMarkdown_cons_of_run run, Option.bind_some, ← ih, Option.map_map]
      congr 1
      funext later
      exact lastTree_cons tree pass next later

end Pipeline

end Manuscript
