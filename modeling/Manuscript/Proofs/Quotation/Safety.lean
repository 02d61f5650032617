import Manuscript.Proofs.Document.Safety
import Manuscript.Prose.Quotation

/-!
# The pass over block quotes keeps a document safe

What is cut from a quote was there before, and the figure around it is made of wrappers and plain
paragraphs. So a safe document stays safe (`isSafe_transformBelow`).
-/

namespace Manuscript.Quotation

open Node (AreSafe areSafe_nil areSafe_cons areSafe_singleton areSafe_append)

/-- What is kept of a node that is cut is safe. -/
theorem areSafe_cutNode :
    (∀ node : Node, ∀ budget kept left, node.IsSafe → cutNode budget node = some (some kept, left) →
      kept.IsSafe) ∧
    ∀ nodes budget kept left, AreSafe nodes → cutList budget nodes = some (kept, left) →
      AreSafe kept := by
  refine Node.induction ?_ ?_ ?_
  · intro kind children data span below budget kept left safe cut
    obtain ⟨dataSafe, inside⟩ := Node.isSafe_iff.1 safe
    have ofChildren : ∀ {kind}, ((cutList budget children).map fun content =>
        ((some ⟨kind, content.1, data, span⟩, content.2) : Option Node × Nat)) =
          some (some kept, left) → kept.IsSafe := by
      intro kind cut
      obtain ⟨⟨content, rest⟩, found, same⟩ := Option.map_eq_some_iff.1 cut
      cases same
      exact .mk dataSafe (below budget content rest inside found)
    cases kind with
    | text value =>
      rw [cutNode] at cut
      dsimp only at cut
      split at cut
      · cases cut
        exact .mk dataSafe inside
      · obtain ⟨⟨front, back⟩, _, same⟩ := Option.map_eq_some_iff.1 cut
        cases same
        exact .mk dataSafe inside
    | inlineCode value =>
      rw [cutNode] at cut
      split at cut
      · cases cut
        exact .mk dataSafe inside
      · cases cut
    | _ =>
      unfold cutNode at cut
      exact ofChildren cut
  · intro budget kept left _ cut
    cases cut
    exact areSafe_nil
  · intro node rest own later budget kept left safe cut
    obtain ⟨first, others⟩ := areSafe_cons.1 safe
    rw [cutList] at cut
    split at cut
    · cases cut
      exact areSafe_nil
    · split at cut
      · cases cut
      · cases cut
        exact areSafe_nil
      · rename_i inNode
        obtain ⟨⟨content, rest'⟩, found, same⟩ := Option.map_eq_some_iff.1 cut
        cases same
        exact areSafe_cons.2 ⟨own _ _ _ first inNode, later _ _ _ others found⟩

/-- What is kept of a paragraph is safe. -/
theorem areSafe_keepContent {position : Nat} {node : Node} {kept : List Node} (safe : node.IsSafe)
    (cut : keepContent position node = some kept) : AreSafe kept := by
  obtain ⟨dataSafe, inside⟩ := Node.isSafe_iff.1 safe
  unfold keepContent at cut
  dsimp only at cut
  split at cut
  · cases cut
    exact areSafe_nil
  · obtain ⟨⟨content, left⟩, found, same⟩ := Option.map_eq_some_iff.1 cut
    cases same
    exact areSafe_singleton.2 (.mk dataSafe (areSafe_cutNode.2 _ _ _ _ inside found))

/-- What is left of a quote without its metadata is safe. -/
theorem areSafe_takeMetadata (options : BlockquoteOptions) {nodes kept : List Node}
    {found result : Metadata} (safe : AreSafe nodes)
    (taken : takeMetadata options nodes found = some (kept, result)) : AreSafe kept := by
  induction nodes generalizing found kept with
  | nil =>
    cases taken
    exact areSafe_nil
  | cons node rest ih =>
    obtain ⟨first, others⟩ := areSafe_cons.1 safe
    rw [takeMetadata] at taken
    split at taken
    · obtain ⟨⟨later, _⟩, there, same⟩ := Option.map_eq_some_iff.1 taken
      cases same
      exact areSafe_cons.2 ⟨first, ih others there⟩
    · obtain ⟨content, cut, taken⟩ := Option.bind_eq_some_iff.1 taken
      have contentSafe := areSafe_keepContent first cut
      dsimp only at taken
      split at taken
      · cases taken
        exact areSafe_append.2 ⟨contentSafe, others⟩
      · obtain ⟨⟨later, _⟩, there, same⟩ := Option.map_eq_some_iff.1 taken
        cases same
        exact areSafe_append.2 ⟨contentSafe, ih others there⟩

/-- A paragraph of a text is safe. -/
theorem isSafe_line (value : Text) : (Node.paragraph [Node.text value]).IsSafe :=
  Node.isSafe_plain (areSafe_singleton.2 (Node.isSafe_plain areSafe_nil))

/-- The node that shows an attribution is safe. -/
theorem isSafe_attributionNode (options : BlockquoteOptions) (hasCaption : Bool) (visible : Text) :
    (attributionNode options hasCaption visible).IsSafe := by
  have lines : AreSafe (attributionLines visible) := by
    refine areSafe_cons.2 ⟨isSafe_line _, fun node member => ?_⟩
    obtain ⟨details, _, rfl⟩ := List.mem_map.1 member
    exact isSafe_line details
  refine Node.isSafe_container ?_ _
    (areSafe_singleton.2 (Node.isSafe_container (by decide) _ lines))
  cases hasCaption <;> decide

/-- The node that shows a caption is safe. -/
theorem isSafe_captionNode (options : BlockquoteOptions) (caption : Text) :
    (captionNode options caption).IsSafe := by
  refine .mk ⟨fun name same => ?_, fun _ none => nomatch none⟩
    (areSafe_singleton.2 (Node.isSafe_plain areSafe_nil))
  rw [← Option.mem_some.1 same]
  decide

/-- The figure for a safe quote is safe. -/
theorem isSafe_figure (options : BlockquoteOptions) {quote : Node} (safe : quote.IsSafe)
    (attribution caption : Option Text) : (figure options quote attribution caption).IsSafe := by
  obtain ⟨dataSafe, inside⟩ := Node.isSafe_iff.1 safe
  refine Node.isSafe_container (by decide) _ (areSafe_cons.2 ⟨?_, areSafe_append.2 ⟨?_, ?_⟩⟩)
  · exact .mk ⟨dataSafe.tagName, dataSafe.properties⟩ inside
  · intro node member
    obtain ⟨shown, _, rfl⟩ := List.mem_map.1 member
    exact isSafe_attributionNode options _ _
  · intro node member
    obtain ⟨shown, _, rfl⟩ := List.mem_map.1 member
    exact isSafe_captionNode options shown

/-- What becomes of a safe quote is safe. -/
theorem isSafe_transform (options : BlockquoteOptions) {quote result : Node} (safe : quote.IsSafe)
    (transformed : transform options quote = some result) : result.IsSafe := by
  obtain ⟨dataSafe, inside⟩ := Node.isSafe_iff.1 safe
  obtain ⟨⟨kept, found⟩, taken, transformed⟩ := Option.bind_eq_some_iff.1 transformed
  have reversed : AreSafe quote.children.reverse := fun node member =>
    inside node (List.mem_reverse.1 member)
  have left := areSafe_takeMetadata options reversed taken
  dsimp only at transformed
  split at transformed
  · cases transformed
    exact safe
  · cases transformed
    have cutSafe : Node.IsSafe { quote with children := kept.reverse } :=
      .mk dataSafe fun node member => left node (List.mem_reverse.1 member)
    exact isSafe_figure options cutSafe _ _

/-- The first of several siblings is transformed below, and then itself if it is a quote. -/
theorem exists_of_transformList_cons {options : BlockquoteOptions} {node : Node}
    {rest results : List Node} (transformed : transformList options (node :: rest) = some results) :
    ∃ inner shown after, transformBelow options node = some inner ∧
      (shown = inner ∨ transform options inner = some shown) ∧
      transformList options rest = some after ∧ results = shown :: after := by
  rw [transformList] at transformed
  obtain ⟨inner, below, transformed⟩ := Option.bind_eq_some_iff.1 transformed
  dsimp only at transformed
  split at transformed
  · obtain ⟨shown, here, transformed⟩ := Option.bind_eq_some_iff.1 transformed
    obtain ⟨after, there, same⟩ := Option.bind_eq_some_iff.1 transformed
    cases same
    exact ⟨inner, shown, after, below, .inr here, there, rfl⟩
  · obtain ⟨shown, kept, transformed⟩ := Option.bind_eq_some_iff.1 transformed
    obtain ⟨after, there, same⟩ := Option.bind_eq_some_iff.1 transformed
    cases kept
    cases same
    exact ⟨inner, inner, after, below, .inl rfl, there, rfl⟩

/-- Transforming the quotes of a document keeps it safe. -/
theorem isSafe_transformBelow (options : BlockquoteOptions) :
    (∀ tree : Node, ∀ result, tree.IsSafe → transformBelow options tree = some result →
      result.IsSafe) ∧
    ∀ nodes results, AreSafe nodes → transformList options nodes = some results →
      AreSafe results := by
  refine Node.induction ?_ ?_ ?_
  · intro kind children data span below result safe transformed
    obtain ⟨dataSafe, inside⟩ := Node.isSafe_iff.1 safe
    obtain ⟨content, found, rfl⟩ := Option.map_eq_some_iff.1 transformed
    exact .mk dataSafe (below content inside found)
  · intro results _ transformed
    cases transformed
    exact areSafe_nil
  · intro node rest own later results safe transformed
    obtain ⟨first, others⟩ := areSafe_cons.1 safe
    obtain ⟨inner, shown, after, below, here, there, rfl⟩ :=
      exists_of_transformList_cons transformed
    have innerSafe := own inner first below
    refine areSafe_cons.2 ⟨?_, later after others there⟩
    rcases here with rfl | here
    · exact innerSafe
    · exact isSafe_transform options innerSafe here

end Manuscript.Quotation
