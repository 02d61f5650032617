import Manuscript.Proofs.Html.Named
import Manuscript.Proofs.Lowering.Reading
import Manuscript.Proofs.Code.Fence

/-!
# What code blocks are lowered to

Where leaves have nothing below, what is read of a lowered document is what is read of its leaves,
in document order (`read_lowerDocument_of_isPlain`). Of the elements of a name (`namedReading`) only
code blocks have some if the name is that of their outer element, and these have one each.
-/

namespace Manuscript

/-- Whether a node is no list, or a list without code blocks among its items. -/
def Node.ListsNoCode (node : Node) : Prop :=
  ∀ ordered start spread, node.kind = .list ordered start spread →
    ∀ child ∈ node.children, child.kind.isCode = false

instance : DecidablePred Node.ListsNoCode := fun node =>
  decidable_of_iff ((node.kind matches .list _ _ _) →
      ∀ child ∈ node.children, child.kind.isCode = false) <| by
    unfold Node.ListsNoCode
    cases node.kind <;> simp

namespace Lowering

open Html (namedList)

/-- Where leaves have nothing below, what they give is what all nodes give, if the others give
nothing. -/
theorem gatherList_eq_flatMap {α : Type} {own : Node → List α}
    (silent : ∀ node : Node, node.kind.isClosed = false → own node = []) {nodes : List Node}
    (leaves : ∀ node ∈ Node.nodesBelow nodes, node.kind.isClosed = true → node.children = []) :
    gatherList own nodes = (Node.nodesBelow nodes).flatMap own := by
  have both :
    (∀ tree : Node, (∀ node ∈ tree.nodes, node.kind.isClosed = true → node.children = []) →
        gather own tree = tree.nodes.flatMap own) ∧
      ∀ nodes, (∀ node ∈ Node.nodesBelow nodes, node.kind.isClosed = true → node.children = []) →
        gatherList own nodes = (Node.nodesBelow nodes).flatMap own := by
    refine Node.induction ?_ (fun _ => rfl) ?_
    · intro kind children data span below leaves
      obtain ⟨leaf, leavesBelow⟩ := List.forall_mem_cons.1 leaves
      rw [Node.nodes, List.flatMap_cons]
      by_cases closed : kind.isClosed = true
      · have empty : children = [] := leaf closed
        rw [gather_of_isClosed closed, empty]
        exact (List.append_nil _).symm
      · have plain : kind.isClosed = false := Bool.eq_false_iff.2 closed
        rw [gather_of_not_isClosed plain, silent _ plain, List.nil_append]
        exact below leavesBelow
    · intro node rest own later leaves
      obtain ⟨here, others⟩ := List.forall_mem_append.1 leaves
      rw [gatherList, Node.nodesBelow, List.flatMap_append, own here, later others]
  exact both.2 nodes leaves

/-- A node of a document without footnotes whose annotations are all on code blocks. A code block
among the items of a list would lose them. -/
structure IsPlain (node : Node) : Prop where
  leaf : node.kind.isClosed = true → node.children = []
  hasRows : node.HasRows
  noDefinition : ∀ label, node.kind ≠ .footnoteDefinition label
  unannotated : node.kind.isCode = false → node.data = {}
  unlisted : node.ListsNoCode

/-- A plain node is read as the leaf that it is lowered to, if it is one. -/
theorem sees_of_isPlain (options : LoweringOptions) {α : Type} (reading : Reading α) {node : Node}
    (plain : IsPlain node) (children : ∀ child ∈ node.children, IsPlain child) :
    reading.Sees (fun node => reading.read (leaf options node.kind node.data)) options node where
  opens isOpen other given := by
    have notCode : node.kind.isCode = false := by
      cases kind : node.kind <;> first | rfl | (rw [kind] at isOpen; cases isOpen)
    rw [plain.unannotated notCode] at given
    cases given
  leaf _ := rfl
  listed ordered start spread isList child member _ := by
    have unlisted := plain.unlisted ordered start spread isList child member
    rw [(children child member).unannotated unlisted]
  reference label isReference := by
    rw [isReference]
    exact reading.read_nil
  hasRows := plain.hasRows

/-- What is read of a lowered document is what is read of its leaves, in order. -/
theorem read_lowerDocument_of_isPlain (options : LoweringOptions) {tree : Node}
    (plain : ∀ node ∈ tree.descendants, IsPlain node) :
    ∃ children, lowerDocument options tree = .root children ∧
      ∀ {α : Type} (reading : Reading α), (∀ value, reading.read [.text value] = []) →
        reading.read children =
          tree.descendants.flatMap fun node => reading.read (leaf options node.kind node.data) := by
  have lacks : LacksDefinitions tree.children := fun node member => (plain node member).noDefinition
  obtain ⟨children, lowered, read⟩ := read_lowerDocument options lacks
  refine ⟨children, lowered, fun reading silent => (read silent fun node member =>
    sees_of_isPlain options reading (plain node member) fun child inside =>
      plain child (Node.children_subset.2 tree.children node member inside)).trans ?_⟩
  refine gatherList_eq_flatMap (fun node isOpen => ?_) fun node member => (plain node member).leaf
  cases kind : node.kind <;> first | exact reading.read_nil | (rw [kind] at isOpen; cases isOpen)

/-- Reads the elements of a name, if none of that name is put around lowered nodes. -/
def namedReading (name : Text) (foreign : name ∉ frameNames) : Reading (Tag × List Html) where
  read := namedList name
  isOpen other := other ≠ name
  append := Html.namedList_append
  blank _ _ := rfl
  within tag children isOpen := by
    rw [Html.namedList_cons, Html.named_element_of_ne isOpen, Html.namedList_nil, List.append_nil]
  frame _ framed same := foreign (same ▸ framed)

/-! ## Elements of leaves -/

/-- The tag of the inner element for a code block with the annotations of the passes over fence
lines. -/
def codeTag (language : Option Text) (tab : Option CodeTab) (rest : Option Text) : Tag :=
  setOptional "data-shiki-meta" rest <| setOptional "data-code-tabs-tab" (tab.map (·.label)) <|
    setOptional "data-code-tabs-group" (tab.map (·.group)) <|
      (plainTag "code").addClasses (language.toList.map ("language-".toList ++ ·))

/-- What is inside the element for a code block. -/
def codeContent (language : Option Text) (value : Text) (tab : Option CodeTab)
    (rest : Option Text) : List Html :=
  [.element (codeTag language tab rest) [.text (if value.isEmpty then value else value ++ ['\n'])]]

/-- A code block is a `pre` around its content. -/
theorem codeBlock_eq (language : Option Text) (value : Text) (tab : Option CodeTab)
    (rest : Option Text) :
    codeBlock language value { codeTab := tab, fenceMeta := rest } =
      .element (plainTag "pre") (codeContent language value tab rest) :=
  rfl

/-- Setting an attribute that may be missing keeps the name of a tag. -/
theorem name_setOptional (name : String) (value : Option Text) (tag : Tag) :
    (setOptional name value tag).name = tag.name := by
  cases value <;> rfl

/-- Setting an optional attribute that is not there gives it its value. -/
theorem attribute?_setOptional_self (name : String) (value : Option Text) {tag : Tag}
    (absent : tag.attribute? name.toList = none) :
    (setOptional name value tag).attribute? name.toList = value := by
  cases value with
  | none => exact absent
  | some value => exact Tag.attribute?_setAttribute_self ..

/-- Setting an attribute that may be missing keeps the others. -/
theorem attribute?_setOptional_of_ne {name : String} {other : Text}
    (different : name.toList ≠ other) (value : Option Text) (tag : Tag) :
    (setOptional name value tag).attribute? other = tag.attribute? other := by
  cases value with
  | none => rfl
  | some value => exact Tag.attribute?_setAttribute_of_ne different value tag

/-- The inner element of a code block is a `code`. -/
theorem name_codeTag (language : Option Text) (tab : Option CodeTab) (rest : Option Text) :
    (codeTag language tab rest).name = "code".toList := by
  rw [codeTag, name_setOptional, name_setOptional, name_setOptional, Tag.name_addClasses]
  rfl

/-- The attributes of the inner element are the tab and what is left of the fence line. -/
theorem attribute?_codeTag (language : Option Text) (tab : Option CodeTab) (rest : Option Text) :
    (codeTag language tab rest).attribute? "data-code-tabs-group".toList = tab.map (·.group) ∧
      (codeTag language tab rest).attribute? "data-code-tabs-tab".toList = tab.map (·.label) ∧
      (codeTag language tab rest).attribute? "data-shiki-meta".toList = rest := by
  have bare : ∀ name, ((plainTag "code").addClasses
      (language.toList.map ("language-".toList ++ ·))).attribute? name = none := by
    intro name
    rw [Tag.attribute?_addClasses]
    rfl
  refine ⟨?_, ?_, ?_⟩
  · rw [codeTag, attribute?_setOptional_of_ne (by decide), attribute?_setOptional_of_ne (by decide),
      attribute?_setOptional_self _ _ (bare _)]
  · rw [codeTag, attribute?_setOptional_of_ne (by decide), attribute?_setOptional_self]
    rw [attribute?_setOptional_of_ne (by decide), bare]
  · rw [codeTag, attribute?_setOptional_self]
    rw [attribute?_setOptional_of_ne (by decide), attribute?_setOptional_of_ne (by decide), bare]

/-- No element in a code block but its two has a name. -/
theorem namedList_codeContent {name : Text} (other : name ≠ "code".toList) (language : Option Text)
    (value : Text) (tab : Option CodeTab) (rest : Option Text) :
    namedList name (codeContent language value tab rest) = [] := by
  rw [codeContent, Html.namedList_cons, Html.named_element_of_ne]
  · rfl
  · rw [name_codeTag]
    exact other.symm

/-- Other leaves than code blocks are lowered to no elements but these. -/
theorem namedList_leaf {name : Text}
    (foreign : name ∉ ["code".toList, "img".toList, "br".toList, "hr".toList])
    (options : LoweringOptions) {kind : Kind} (other : kind.isCode = false) :
    namedList name (leaf options kind {}) = [] := by
  simp only [List.mem_cons, List.not_mem_nil, or_false, not_or] at foreign
  obtain ⟨notCode, notImage, notBreak, notRule⟩ := foreign
  have single : ∀ (tag : Tag) children, tag.name ≠ name → namedList name children = [] →
      namedList name [.element tag children] = [] := by
    intro tag children different inside
    rw [Html.namedList_cons, Html.named_element_of_ne different, inside]
    rfl
  cases kind with
  | code language fence value => cases other
  | inlineCode value => exact single _ _ (Ne.symm notCode) rfl
  | image url alt title =>
    refine single _ _ ?_ rfl
    cases title <;> exact Ne.symm notImage
  | lineBreak => exact single _ _ (Ne.symm notBreak) rfl
  | thematicBreak => exact single _ _ (Ne.symm notRule) rfl
  | html value =>
    rw [leaf]
    split <;> rfl
  | _ => rfl

end Lowering

end Manuscript
