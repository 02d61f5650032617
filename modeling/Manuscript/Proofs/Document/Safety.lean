import Manuscript.Proofs.Document.Edit
import Manuscript.Proofs.Html.Safety

/-!
# Safe annotations

The annotations of a node are safe when they name no element but a known one and no attribute that
runs a script. A document without annotations is safe (`isSafe_of_default`), and edits keep it safe
where event handlers are not allowed (`Edited.areSafe`).
-/

namespace Manuscript

/-- Annotations give no element but a known one and no attribute that runs a script. -/
structure Annotations.IsSafe (data : Annotations) : Prop where
  tagName : ∀ name ∈ data.tagName, name ∈ Tag.elementNames
  properties : ∀ pair ∈ data.properties, IsSafeName pair.1

/-- There is nothing to fear from a node without annotations. -/
theorem Annotations.isSafe_default : Annotations.IsSafe {} :=
  ⟨fun _ none => (nomatch none), fun _ none => (nomatch none)⟩

/-- Annotations stay safe where event handlers are not allowed. -/
theorem Annotated.isSafe {before after : Annotations} (annotated : Annotated false before after)
    (safe : before.IsSafe) : after.IsSafe := by
  refine ⟨?_, fun pair member => ?_⟩
  · rw [annotated.tagName]
    exact safe.tagName
  rcases annotated.properties pair member with old | new
  · obtain ⟨other, there, same⟩ := List.mem_map.1 old
    exact same ▸ safe.properties other there
  · exact isSafeName_of_isGivenName new

namespace Node

/-- The annotations of a node and of all nodes below it are safe. -/
inductive IsSafe : Node → Prop
  | mk {node : Node} (data : node.data.IsSafe) (below : ∀ child ∈ node.children, IsSafe child) :
      IsSafe node

/-- Siblings that are all safe. -/
def AreSafe (nodes : List Node) : Prop :=
  ∀ node ∈ nodes, node.IsSafe

/-- No nodes are safe. -/
theorem areSafe_nil : AreSafe [] :=
  fun _ none => nomatch none

/-- Siblings are safe if the first of them and the others are. -/
theorem areSafe_cons {node : Node} {rest : List Node} :
    AreSafe (node :: rest) ↔ node.IsSafe ∧ AreSafe rest :=
  List.forall_mem_cons

/-- A list of one node is safe if the node is. -/
theorem areSafe_singleton {node : Node} : AreSafe [node] ↔ node.IsSafe :=
  List.forall_mem_singleton

/-- Siblings are safe if both parts of them are. -/
theorem areSafe_append {front back : List Node} :
    AreSafe (front ++ back) ↔ AreSafe front ∧ AreSafe back :=
  List.forall_mem_append

/-- A node is safe when its annotations and what is below are. -/
theorem isSafe_iff {node : Node} : node.IsSafe ↔ node.data.IsSafe ∧ AreSafe node.children := by
  constructor
  · rintro ⟨data, below⟩
    exact ⟨data, below⟩
  · rintro ⟨data, below⟩
    exact .mk data below

/-- A node without annotations is safe when what is below is. -/
theorem isSafe_plain {kind : Kind} {children : List Node} (below : AreSafe children) :
    IsSafe { kind, children } :=
  .mk Annotations.isSafe_default below

/-- A wrapper for safe nodes is safe if its element is a known one. -/
theorem isSafe_container {tagName : Text} (known : tagName ∈ Tag.elementNames)
    (classes : List Text) {children : List Node} (below : AreSafe children) :
    (container tagName classes children).IsSafe :=
  .mk ⟨fun _ same => Option.mem_some.1 same ▸ known, fun _ none => nomatch none⟩ below

/-- A document without annotations is safe. -/
theorem isSafe_of_default : (∀ tree : Node, (∀ node ∈ tree.nodes, node.data = {}) → tree.IsSafe) ∧
    ∀ nodes : List Node, (∀ node ∈ nodesBelow nodes, node.data = {}) → AreSafe nodes := by
  refine Node.induction ?_ ?_ ?_
  · intro kind children data span below plain
    obtain ⟨own, inside⟩ := List.forall_mem_cons.1 plain
    cases own
    exact .mk Annotations.isSafe_default (below inside)
  · exact fun _ => areSafe_nil
  · intro node rest own later plain
    obtain ⟨first, others⟩ := List.forall_mem_append.1 plain
    exact areSafe_cons.2 ⟨own first, later others⟩

/-- A piece of text is safe. -/
theorem IsPiece.isSafe {piece : Node} (isPiece : IsPiece piece) : piece.IsSafe := by
  cases isPiece with
  | text value => exact isSafe_plain areSafe_nil
  | lineBreak => exact isSafe_plain areSafe_nil
  | around _ value => exact isSafe_plain (areSafe_singleton.2 (isSafe_plain areSafe_nil))

/-- Edits keep a document safe where event handlers are not allowed. -/
theorem Edited.areSafe {nodes others : List Node} (edited : Edited false nodes others)
    (safe : AreSafe nodes) : AreSafe others := by
  induction edited with
  | same => exact safe
  | trans _ _ first second => exact second (first safe)
  | append _ _ first second =>
    obtain ⟨front, back⟩ := areSafe_append.1 safe
    exact areSafe_append.2 ⟨first front, second back⟩
  | inside _ below =>
    obtain ⟨data, inside⟩ := isSafe_iff.1 (areSafe_singleton.1 safe)
    exact areSafe_singleton.2 (.mk data (below inside))
  | reword _ value =>
    obtain ⟨data, inside⟩ := isSafe_iff.1 (areSafe_singleton.1 safe)
    exact areSafe_singleton.2 (.mk data inside)
  | replace _ arePieces => exact fun piece member => (arePieces piece member).isSafe
  | refence _ fence' =>
    obtain ⟨data, inside⟩ := isSafe_iff.1 (areSafe_singleton.1 safe)
    exact areSafe_singleton.2 (.mk data inside)
  | annotate annotated =>
    obtain ⟨data, inside⟩ := isSafe_iff.1 (areSafe_singleton.1 safe)
    exact areSafe_singleton.2 (.mk (annotated.isSafe data) inside)
  | remove => exact areSafe_nil
  | wrap _ classes =>
    exact areSafe_singleton.2 (isSafe_container (by decide) classes safe)

end Node

end Manuscript
