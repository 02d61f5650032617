import Manuscript.Html.Footnote
import Manuscript.Proofs.Lowering.Standing

/-!
# The ways back from a footnote

A footnote leads back to the links to it. The ways back are put at the end of its last paragraph, or
behind its content if that has no paragraph (`AddedTo`). So they stand together among the links that
are marked as ways back, wherever the content has such links of its own (`AddedTo.waysBack`), and
nothing else of the content is lost (`AddedTo.lasting`).
-/

namespace Manuscript

namespace Html

/-- What has the name of an element is one. -/
theorem exists_of_isElement {name : Text} {node : Html} (isElement : node.isElement name = true) :
    ∃ tag children, node = .element tag children ∧ tag.name = name := by
  cases node with
  | element tag children => exact ⟨tag, children, rfl, of_decide_eq_true isElement⟩
  | root children => cases isElement
  | text value => cases isElement
  | comment value => cases isElement
  | raw value => cases isElement

/-- Whether a node is a link that is marked as a way back from a footnote. -/
def isWayBack (node : Html) : Bool :=
  node.isElement ['a'] && (node.attribute? "data-footnote-backref".toList).isSome

/-- The links in a list of trees that are marked as ways back, in document order. -/
def waysBack (nodes : List Html) : List Html :=
  (nodesList nodes).filter isWayBack

/-- The ways back in two lists are those in the one and then those in the other. -/
theorem waysBack_append (front back : List Html) :
    waysBack (front ++ back) = waysBack front ++ waysBack back := by
  rw [waysBack, nodesList_append, List.filter_append]
  rfl

/-- The ways back in siblings are those in the first and then those in the others. -/
theorem waysBack_cons (node : Html) (rest : List Html) :
    waysBack (node :: rest) = waysBack [node] ++ waysBack rest :=
  waysBack_append [node] rest

/-- A paragraph is no way back, but there can be some in it. -/
theorem waysBack_paragraph {tag : Tag} (paragraph : tag.name = ['p']) (children : List Html) :
    waysBack [.element tag children] = waysBack children := by
  rw [waysBack, nodesList_singleton,
    List.filter_cons_of_neg (by simp [isWayBack, isElement, paragraph])]
  rfl

end Html

namespace Footnote

open Html (waysBack waysBack_append waysBack_cons waysBack_paragraph)
open Lowering (lasting lasting_append lasting_cons lasting_paragraph)

/-- Where nodes are added to the content of a footnote. -/
inductive AddedTo (nodes : List Html) : List Html → List Html → Prop
  /-- They come to the end of the last paragraph, after a blank. -/
  | paragraph {before children after : List Html} {tag : Tag} (isParagraph : tag.name = ['p'])
      (last : ∀ node ∈ after, node.isElement ['p'] = false) :
      AddedTo nodes (before ++ .element tag children :: after)
        (before ++ .element tag (children ++ .text [' '] :: nodes) :: after)
  /-- Without a paragraph they come behind everything else. -/
  | behind {content : List Html} (none : ∀ node ∈ content, node.isElement ['p'] = false) :
      AddedTo nodes content (content ++ nodes)

/-- An item leads from the content of a footnote back to the given links: there is a way back to the
anchor of each, in order, and the item has these and those that the content has of its own, but no
other. -/
def LeadsBack (links content : List Html) (item : Html) : Prop :=
  ∃ before back after body,
    AddedTo (back.intersperse (.text [' '])) content body ∧
    item.children = Lowering.surround body ∧
    waysBack content = before ++ after ∧
    waysBack item.children = before ++ back ++ after ∧
    back.map (·.attribute? "href".toList) =
      links.map fun link => (link.attribute? "id".toList).map ('#' :: ·)

/-- Siblings that are no paragraph are passed. -/
theorem addToLastParagraph_cons_of_other (nodes : List Html) {first : Html}
    (other : first.isElement ['p'] = false) (rest : List Html) :
    addToLastParagraph nodes (first :: rest) =
      (addToLastParagraph nodes rest).map (first :: ·) := by
  cases first with
  | element tag children => exact if_neg (of_decide_eq_false other)
  | root children => rfl
  | text value => rfl
  | comment value => rfl
  | raw value => rfl

/-- The first paragraph of some siblings gets the nodes at its end, if there is one. -/
theorem addToLastParagraph_cases (nodes siblings : List Html) :
    (∃ front tag children back, siblings = front ++ .element tag children :: back ∧
      tag.name = ['p'] ∧ (∀ node ∈ front, node.isElement ['p'] = false) ∧
      addToLastParagraph nodes siblings =
        some (front ++ .element tag (children ++ .text [' '] :: nodes) :: back)) ∨
    (∀ node ∈ siblings, node.isElement ['p'] = false) ∧
      addToLastParagraph nodes siblings = none := by
  induction siblings with
  | nil => exact .inr ⟨List.forall_mem_nil _, rfl⟩
  | cons first rest ih =>
    cases other : first.isElement ['p'] with
    | true =>
      obtain ⟨tag, children, rfl, paragraph⟩ := Html.exists_of_isElement other
      exact .inl ⟨[], tag, children, rest, rfl, paragraph, List.forall_mem_nil _,
        if_pos paragraph⟩
    | false =>
      rw [addToLastParagraph_cons_of_other nodes other]
      obtain ⟨front, tag, children, back, rfl, paragraph, others, found⟩ | ⟨others, missing⟩ := ih
      · exact .inl ⟨first :: front, tag, children, back, rfl, paragraph,
          List.forall_mem_cons.2 ⟨other, others⟩, congrArg (Option.map (first :: ·)) found⟩
      · exact .inr ⟨List.forall_mem_cons.2 ⟨other, others⟩,
          congrArg (Option.map (first :: ·)) missing⟩

/-- The ways back are added where they belong. -/
theorem addedTo_withBackReferences (nodes content : List Html) :
    AddedTo nodes content (withBackReferences nodes content) := by
  rw [withBackReferences]
  obtain ⟨front, tag, children, back, shape, paragraph, others, found⟩ | ⟨others, missing⟩ :=
    addToLastParagraph_cases nodes content.reverse
  · -- The content is searched from its end, so the first paragraph found is its last one.
    rw [found, List.reverse_eq_iff.1 shape]
    simp only [List.reverse_append, List.reverse_cons, List.append_assoc, List.singleton_append]
    exact .paragraph paragraph fun node member => others node (List.mem_reverse.1 member)
  · rw [missing]
    exact .behind fun node member => others node (List.mem_reverse.2 member)

/-- The ways back that are added stand together among those of the content. -/
theorem AddedTo.waysBack {nodes content body : List Html} (added : AddedTo nodes content body) :
    ∃ before after, waysBack content = before ++ after ∧
      waysBack body = before ++ waysBack nodes ++ after := by
  cases added with
  | @paragraph before children after tag isParagraph _ =>
    refine ⟨Html.waysBack before ++ Html.waysBack children, Html.waysBack after, ?_, ?_⟩
    · rw [waysBack_append, waysBack_cons, waysBack_paragraph isParagraph, List.append_assoc]
    · rw [waysBack_append, waysBack_cons, waysBack_paragraph isParagraph, waysBack_append,
        waysBack_cons (.text [' '])]
      simp only [List.append_assoc]
      rfl
  | behind _ =>
    exact ⟨Html.waysBack content, [], (List.append_nil _).symm, by
      rw [waysBack_append, List.append_nil]⟩

/-- What lasts of the content lasts when something is added to it. -/
theorem AddedTo.lasting {nodes content body : List Html} (added : AddedTo nodes content body) :
    (lasting content).Sublist (lasting body) := by
  cases added with
  | @paragraph before children after tag isParagraph _ =>
    rw [lasting_append, lasting_append, lasting_cons, lasting_paragraph isParagraph,
      lasting_cons (.element tag (children ++ .text [' '] :: nodes)),
      lasting_paragraph isParagraph, lasting_append children]
    exact (List.Sublist.refl _).append
      ((List.sublist_append_left _ _).append (List.Sublist.refl _))
  | behind _ => exact Lowering.lasting_sublist (List.sublist_append_left _ _)

/-- The ways back of a footnote are one to each of its links, and nothing in them is another. -/
theorem waysBack_backReferences (options : FootnoteOptions) (id : Text) (number count : Nat) :
    waysBack (backReferences options id number count) =
      (List.range count).map fun index => backReference options id number (index + 1) := by
  have single : ∀ reuse, waysBack [backReference options id number reuse] =
      [backReference options id number reuse] := by
    intro reuse
    have inside : waysBack (backReference options id number reuse).children = [] := by
      rw [backReference]
      dsimp only [Html.children]
      split <;> rfl
    rw [Html.waysBack, Html.nodesList_singleton, List.filter_cons_of_pos rfl]
    exact congrArg (_ :: ·) inside
  rw [backReferences, Lowering.read_intersperse waysBack waysBack_append rfl]
  generalize List.range count = indices
  induction indices with
  | nil => rfl
  | cons index rest ih => rw [List.map_cons, waysBack_cons, single, ih, List.singleton_append]

end Footnote

end Manuscript
