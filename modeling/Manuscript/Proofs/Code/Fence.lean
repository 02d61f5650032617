import Manuscript.Prose.CodeFence
import Manuscript.Proofs.Document.Induction

/-!
# The passes over fence lines, one node at a time

Both passes over fence lines change the code blocks of a document alone. Where code blocks are
leaves, the nodes of the changed document are those of the document, each changed for itself
(`nodes_mapCode`), and both passes together move what `tab?` and `remaining?` find in a fence line
to the annotations of its code block (`keepFence_groupCode`).
-/

namespace Manuscript

/-- Whether a node of this kind is a code block. -/
def Kind.isCode (kind : Kind) : Bool :=
  kind matches .code _ _ _

/-- Code has a language, a fence and a value. -/
theorem Kind.exists_of_isCode {kind : Kind} (isCode : kind.isCode = true) :
    ∃ language fence value, kind = .code language fence value := by
  cases kind with
  | code language fence value => exact ⟨language, fence, value, rfl⟩
  | _ => cases isCode

namespace Node

/-- A code block is changed. -/
theorem mapCode_of_isCode {change : Node → Node} {node : Node} (isCode : node.kind.isCode = true) :
    node.mapCode change = change node := by
  obtain ⟨kind, children, data, span⟩ := node
  obtain ⟨language, fence, value, rfl⟩ := Kind.exists_of_isCode isCode
  rfl

/-- Any other node stays what it is, with changes below. -/
theorem mapCode_of_not_isCode {change : Node → Node} {node : Node}
    (other : node.kind.isCode = false) :
    node.mapCode change = { node with children := mapCodeList change node.children } := by
  obtain ⟨kind, children, data, span⟩ := node
  cases kind with
  | code language fence value => cases other
  | _ => rfl

/-- Code blocks are changed in each of the siblings. -/
theorem mapCodeList_eq_map (change : Node → Node) (nodes : List Node) :
    mapCodeList change nodes = nodes.map (mapCode change) := by
  induction nodes with
  | nil => rfl
  | cons node rest ih => rw [mapCodeList, List.map_cons, ih]

/-- Two changes of the code blocks, one after the other, are one change of them. -/
theorem mapCode_mapCode {first second : Node → Node}
    (keeps : ∀ node : Node, node.kind.isCode = true → (first node).kind.isCode = true)
    (tree : Node) :
    (tree.mapCode first).mapCode second = tree.mapCode fun node => second (first node) := by
  have both : (∀ tree : Node, (tree.mapCode first).mapCode second =
        tree.mapCode fun node => second (first node)) ∧
      ∀ nodes, mapCodeList second (mapCodeList first nodes) =
        mapCodeList (fun node => second (first node)) nodes := by
    refine Node.induction ?_ rfl ?_
    · intro kind children data span below
      by_cases isCode : kind.isCode = true
      · have here : ∀ change, mapCode change ⟨kind, children, data, span⟩ = change _ :=
          fun change => mapCode_of_isCode isCode
        rw [here, here, mapCode_of_isCode (keeps _ isCode)]
      · have other : kind.isCode = false := Bool.eq_false_iff.2 isCode
        have here : ∀ change, mapCode change ⟨kind, children, data, span⟩ =
            ⟨kind, mapCodeList change children, data, span⟩ :=
          fun change => mapCode_of_not_isCode other
        rw [here, here, mapCode_of_not_isCode other, below]
    · intro node rest own later
      rw [mapCodeList, mapCodeList, mapCodeList, own, later]
  exact both.1 tree

/-- The nodes of a changed tree are those of the tree, each changed, if code blocks are leaves and
stay leaves. -/
theorem nodes_mapCode {change : Node → Node}
    (keeps : ∀ node : Node, node.children = [] → (change node).children = []) {trees : List Node}
    (leaves : ∀ node ∈ nodesBelow trees, node.kind.isCode = true → node.children = []) :
    nodesBelow (mapCodeList change trees) = (nodesBelow trees).map (mapCode change) := by
  have both : (∀ tree : Node, (∀ node ∈ tree.nodes, node.kind.isCode = true → node.children = []) →
        (tree.mapCode change).nodes = tree.nodes.map (mapCode change)) ∧
      ∀ trees, (∀ node ∈ nodesBelow trees, node.kind.isCode = true → node.children = []) →
        nodesBelow (mapCodeList change trees) = (nodesBelow trees).map (mapCode change) := by
    refine Node.induction ?_ (fun _ => rfl) ?_
    · intro kind children data span below leaves
      obtain ⟨leaf, leavesBelow⟩ := List.forall_mem_cons.1 leaves
      by_cases isCode : kind.isCode = true
      · have empty : children = [] := leaf isCode
        have changed : (change ⟨kind, children, data, span⟩).children = [] := keeps _ empty
        rw [nodes, List.map_cons, mapCode_of_isCode isCode, nodes_eq, descendants, changed, empty]
        rfl
      · have other : kind.isCode = false := Bool.eq_false_iff.2 isCode
        rw [nodes, List.map_cons, mapCode_of_not_isCode other, nodes_eq, descendants,
          below leavesBelow]
    · intro node rest own later leaves
      obtain ⟨here, others⟩ := List.forall_mem_append.1 leaves
      rw [mapCodeList, nodesBelow, nodesBelow, List.map_append, own here, later others]
  exact both.2 trees leaves

end Node

namespace CodeFence

/-- The tab that a fence line names. -/
def tab? (fence : Option Text) : Option CodeTab :=
  (fence.bind extractTab?).map Prod.fst

/-- What stands on a fence line besides the tab. -/
def withoutTab? (fence : Option Text) : Option Text :=
  match fence.bind extractTab? with
  | some (_, rest) => rest
  | none => fence

/-- What a fence line leaves for a syntax highlighter. -/
def remaining? (fence : Option Text) : Option Text :=
  (withoutTab? fence).filter fun rest => !Text.isBlankText rest

/-- Moves the token of a code block and keeps the rest of its fence line. -/
def annotate (node : Node) : Node :=
  keepFence (groupCode node)

/-- The annotations of a code block after both passes, if it had none. -/
theorem annotate_code (language fence : Option Text) (value : Text) (children : List Node)
    (span : Option Span) :
    annotate ⟨.code language fence value, children, {}, span⟩ =
      ⟨.code language (withoutTab? fence) value, children,
        { codeTab := tab? fence, fenceMeta := remaining? fence }, span⟩ := by
  have grouped : groupCode ⟨.code language fence value, children, {}, span⟩ =
      ⟨.code language (withoutTab? fence) value, children, { codeTab := tab? fence }, span⟩ := by
    cases fence with
    | none => rfl
    | some fence =>
      unfold groupCode tab? withoutTab?
      dsimp only [Option.bind_some]
      cases extractTab? fence <;> rfl
  rw [annotate, grouped, remaining?]
  cases withoutTab? fence with
  | none => rfl
  | some rest =>
    unfold keepFence
    dsimp only [Option.filter_some]
    cases Text.isBlankText rest <;> rfl

/-- Code with a tab is still code. -/
theorem isCode_groupCode {node : Node} (isCode : node.kind.isCode = true) :
    (groupCode node).kind.isCode = true := by
  unfold groupCode
  split
  · split
    · rfl
    · exact isCode
  · exact isCode

/-- Code with the rest of its fence is still code. -/
theorem isCode_annotate {node : Node} (isCode : node.kind.isCode = true) :
    (annotate node).kind.isCode = true := by
  have kept : ∀ node : Node, (keepFence node).kind = node.kind := by
    intro node
    unfold keepFence
    split
    · split <;> rfl
    · rfl
  rw [annotate, kept]
  exact isCode_groupCode isCode

/-- Annotating a node keeps what is below it. -/
theorem children_annotate (node : Node) : (annotate node).children = node.children := by
  have grouped : (groupCode node).children = node.children := by
    unfold groupCode
    split
    · split <;> rfl
    · rfl
  have kept : ∀ node : Node, (keepFence node).children = node.children := by
    intro node
    unfold keepFence
    split
    · split <;> rfl
    · rfl
  exact (kept _).trans grouped

/-- Both passes together annotate every code block. -/
theorem preserveMeta_groupTabs (tree : Node) :
    preserveMeta (groupTabs tree) = tree.mapCode annotate :=
  Node.mapCode_mapCode (fun _ => isCode_groupCode) tree

end CodeFence

end Manuscript
