import Manuscript.Proofs.Code.Tabs

/-!
# From fence lines to tabs

The tab on a fence line goes to the annotations of the code block, from there to the inner element
and then to the outer one, while the blocks are put into sets of tabs. It is found there for every
block, in the order of the document, and what else stood on the fence line is found on the inner
element (`roundTrips`).
-/

namespace Manuscript

namespace Node

/-- The fence line and the value of a code block. -/
def fenced? (node : Node) : Option (Option Text × Text) :=
  match node.kind with
  | .code _ fence value => some (fence, value)
  | _ => none

/-- Code is fenced with the rest of its fence and its value. -/
theorem fenced?_of_kind {node : Node} {language fence : Option Text} {value : Text}
    (kind : node.kind = .code language fence value) : node.fenced? = some (fence, value) := by
  rw [fenced?, kind]

/-- Nothing but code is fenced. -/
theorem fenced?_of_not_isCode {node : Node} (other : node.kind.isCode = false) :
    node.fenced? = none := by
  unfold fenced?
  split
  · rename_i kind
    rw [kind] at other
    cases other
  · rfl

/-- The fence lines and the values of the code blocks in a tree, in document order. -/
def codeBlocks (tree : Node) : List (Option Text × Text) :=
  tree.nodes.filterMap fenced?

/-- Whether a node is as it is read from a source without footnote definitions: a leaf has nothing
below, a table has rows of cells with the head first, and no pass has left anything on it. -/
structure IsParsed (node : Node) : Prop where
  leaf : node.kind.isClosed = true → node.children = []
  hasRows : node.HasRows
  noDefinition : ∀ label, node.kind ≠ .footnoteDefinition label
  unannotated : node.data = {}

instance : DecidablePred IsParsed := fun node =>
  decidable_of_iff ((node.kind.isClosed = true → node.children = []) ∧ node.HasRows ∧
      (∀ label, node.kind ≠ .footnoteDefinition label) ∧ node.data = {})
    ⟨fun ⟨leaf, hasRows, noDefinition, unannotated⟩ => ⟨leaf, hasRows, noDefinition, unannotated⟩,
      fun ⟨leaf, hasRows, noDefinition, unannotated⟩ => ⟨leaf, hasRows, noDefinition, unannotated⟩⟩

end Node

namespace CodeFence

open Html (named namedList)
open Lowering (lowerDocument)

/-- Whether a `pre` element shows a code block: it has the tab that the fence line names and no
other, and holds one `code` element with the value and with what else stood on the fence line. -/
structure Shows (block : Option Text × Text) (element : Tag × List Html) : Prop where
  group : element.1.attribute? "data-code-tabs-group".toList = (tab? block.1).map (·.group)
  label : element.1.attribute? "data-code-tabs-tab".toList = (tab? block.1).map (·.label)
  content : ∃ code : Tag, code.name = "code".toList ∧
    code.attribute? "data-shiki-meta".toList = remaining? block.1 ∧
    element.2 = [.element code [.text (if block.2.isEmpty then [] else block.2 ++ ['\n'])]]

/-- The `pre` elements of a document after both passes over fence lines, the lowering and the pass
over code tabs. -/
def shownBlocks (options : LoweringOptions) (tree : Node) : List (Tag × List Html) :=
  (CodeTabs.groupTree (lowerDocument options (preserveMeta (groupTabs tree)))).named "pre".toList

/-- Whether the code blocks of a document are shown one by one in document order. -/
def RoundTrips (options : LoweringOptions) (tree : Node) : Prop :=
  List.Forall₂ Shows tree.codeBlocks (shownBlocks options tree)

/-! ## One code block -/

/-- A tab has a group and a label. -/
theorem filled_of_tab? {fence : Option Text} {tab : CodeTab} (named : tab? fence = some tab) :
    Text.nonempty? tab.group = some tab.group ∧ Text.nonempty? tab.label = some tab.label := by
  obtain ⟨⟨_, rest⟩, extracted, rfl⟩ := Option.map_eq_some_iff.1 named
  obtain ⟨line, rfl, found⟩ := Option.bind_eq_some_iff.1 extracted
  have filled : ∀ text : Text, text.isEmpty = false → Text.nonempty? text = some text :=
    fun text nonempty => if_neg (by rw [nonempty]; exact Bool.false_ne_true)
  obtain ⟨token, _, found⟩ := Option.bind_eq_some_iff.1 found
  dsimp only at found
  cases both : !(Text.trim token.group).isEmpty && !(Text.trim token.label).isEmpty with
  | false =>
    rw [both] at found
    cases found
  | true =>
    rw [both] at found
    cases found
    simp only [Bool.and_eq_true, Bool.not_eq_true'] at both
    exact ⟨filled _ both.1, filled _ both.2⟩

/-- The element for a code block with its tab copied shows the block. -/
theorem shows_copied (language fence : Option Text) (value : Text) :
    Shows (fence, value) (CodeTabs.copied (Lowering.plainTag "pre",
      Lowering.codeContent language value (tab? fence) (remaining? fence))) := by
  obtain ⟨group, label⟩ := CodeTabs.siblingTag_codeContent language value (remaining? fence)
    fun place (named : tab? fence = some place) => filled_of_tab? named
  obtain ⟨_, _, kept⟩ := Lowering.attribute?_codeTag language (tab? fence) (remaining? fence)
  refine ⟨group, label, _, Lowering.name_codeTag language (tab? fence) (remaining? fence), kept, ?_⟩
  have same : (if value.isEmpty then value else value ++ ['\n']) =
      if value.isEmpty then [] else value ++ ['\n'] := by
    cases value <;> rfl
  exact congrArg (fun text => [Html.element _ [.text text]]) same

/-! ## Annotated documents -/

/-- Other nodes keep their kind and their annotations. -/
theorem kind_mapCode {change : Node → Node} {node : Node} (other : node.kind.isCode = false) :
    (node.mapCode change).kind = node.kind ∧ (node.mapCode change).data = node.data := by
  rw [Node.mapCode_of_not_isCode other]
  exact ⟨rfl, rfl⟩

/-- Annotating the code in a node makes it neither code nor anything else. -/
theorem isCode_mapCode (node : Node) : (node.mapCode annotate).kind.isCode = node.kind.isCode := by
  by_cases isCode : node.kind.isCode = true
  · rw [Node.mapCode_of_isCode isCode, isCode_annotate isCode, isCode]
  · rw [(kind_mapCode (Bool.eq_false_iff.2 isCode)).1]

/-- Annotating the code in a row keeps it a head row or another row. -/
theorem isHeadRow_mapCode (node : Node) :
    Lowering.isHeadRow (node.mapCode annotate).kind = Lowering.isHeadRow node.kind := by
  have noRow : ∀ kind : Kind, kind.isCode = true → Lowering.isHeadRow kind = false := by
    intro kind isCode
    obtain ⟨language, fence, value, rfl⟩ := Kind.exists_of_isCode isCode
    rfl
  by_cases isCode : node.kind.isCode = true
  · rw [noRow _ isCode, noRow _ ((isCode_mapCode node).trans isCode)]
  · rw [(kind_mapCode (Bool.eq_false_iff.2 isCode)).1]

/-- A table of rows stays one when code blocks are annotated. -/
theorem hasRows_mapCode {node : Node} (hasRows : node.HasRows) :
    Node.HasRows { node with children := node.children.map (Node.mapCode annotate) } where
  rows columns isTable row member := by
    obtain ⟨before, inside, rfl⟩ := List.mem_map.1 member
    obtain ⟨⟨isHead, isRow⟩, cells⟩ := hasRows.rows columns isTable before inside
    have other : before.kind.isCode = false := by
      rw [isRow]
      rfl
    refine ⟨⟨isHead, (kind_mapCode other).1.trans isRow⟩, ?_⟩
    rw [Node.mapCode_of_not_isCode other, Node.mapCodeList_eq_map]
    refine List.forall_mem_map.2 fun cell within => ?_
    have isCell := cells cell within
    exact (kind_mapCode (by rw [isCell]; rfl)).1.trans isCell
  headFirst columns isTable := by
    refine List.pairwise_map.2 ((hasRows.headFirst columns isTable).imp fun {row later} first => ?_)
    rw [isHeadRow_mapCode, isHeadRow_mapCode]
    exact first

/-- A document whose code blocks are annotated has no other annotations, if the document had none.
-/
theorem isPlain_mapCode {node : Node} (parsed : node.IsParsed) (unlisted : node.ListsNoCode) :
    Lowering.IsPlain (node.mapCode annotate) := by
  by_cases isCode : node.kind.isCode = true
  · obtain ⟨kind, children, data, span⟩ := node
    obtain ⟨language, fence, value, rfl⟩ := Kind.exists_of_isCode isCode
    obtain rfl : data = {} := parsed.unannotated
    obtain rfl : children = [] := parsed.leaf rfl
    rw [Node.mapCode, annotate_code]
    exact {
      leaf := fun _ => rfl
      hasRows := ⟨fun _ => nofun, fun _ => nofun⟩
      noDefinition := fun label => nofun
      unannotated := nofun
      unlisted := fun ordered start spread => nofun }
  · have other : node.kind.isCode = false := Bool.eq_false_iff.2 isCode
    rw [Node.mapCode_of_not_isCode other, Node.mapCodeList_eq_map]
    exact {
      leaf := fun closed => by
        dsimp only
        rw [parsed.leaf closed]
        rfl
      hasRows := hasRows_mapCode parsed.hasRows
      noDefinition := parsed.noDefinition
      unannotated := fun _ => parsed.unannotated
      unlisted := fun ordered start spread isList => List.forall_mem_map.2 fun child member =>
        (isCode_mapCode child).trans (unlisted ordered start spread isList child member) }

/-! ## Whole documents -/

/-- What a leaf is lowered to after both passes over fence lines. -/
def annotatedLeaf (options : LoweringOptions) (node : Node) : List Html :=
  Lowering.leaf options (node.mapCode annotate).kind (node.mapCode annotate).data

/-- The element for a code block with a fence line. -/
def fencedBlock (language fence : Option Text) (value : Text) : Tag × List Html :=
  (Lowering.plainTag "pre", Lowering.codeContent language value (tab? fence) (remaining? fence))

/-- A node that had no annotations is lowered to no `pre` element, or it is a code block and lowered
to one with its tab and the rest of its fence line inside. -/
theorem annotatedLeaf_cases (options : LoweringOptions) {node : Node} (parsed : node.IsParsed) :
    (node.fenced? = none ∧ namedList "pre".toList (annotatedLeaf options node) = []) ∨
      ∃ language fence value, node.fenced? = some (fence, value) ∧ annotatedLeaf options node =
        [.element (fencedBlock language fence value).1 (fencedBlock language fence value).2] := by
  by_cases isCode : node.kind.isCode = true
  · obtain ⟨language, fence, value, isBlock⟩ := Kind.exists_of_isCode isCode
    refine .inr ⟨language, fence, value, Node.fenced?_of_kind isBlock, ?_⟩
    have unannotated := parsed.unannotated
    obtain ⟨kind, children, data, span⟩ := node
    dsimp only at isBlock unannotated
    subst isBlock unannotated
    rw [annotatedLeaf, Node.mapCode, annotate_code]
    exact congrArg (fun block => [block]) (Lowering.codeBlock_eq language value _ _)
  · have other : node.kind.isCode = false := Bool.eq_false_iff.2 isCode
    obtain ⟨sameKind, sameData⟩ : (node.mapCode annotate).kind = node.kind ∧
        (node.mapCode annotate).data = node.data := kind_mapCode other
    refine .inl ⟨Node.fenced?_of_not_isCode other, ?_⟩
    rw [annotatedLeaf, sameKind, sameData, parsed.unannotated]
    exact Lowering.namedList_leaf (by decide) options other

/-- The one `pre` element in the element for a code block is that element. -/
theorem namedList_fencedBlock (language fence : Option Text) (value : Text) :
    namedList "pre".toList
        [.element (fencedBlock language fence value).1 (fencedBlock language fence value).2] =
      [fencedBlock language fence value] := by
  have isBlock : (fencedBlock language fence value).1.name = "pre".toList := rfl
  have inside : namedList "pre".toList (fencedBlock language fence value).2 = [] :=
    Lowering.namedList_codeContent (by decide) language value _ _
  rw [Html.namedList_cons, Html.named_element_self isBlock, inside]
  rfl

/-- A leaf has no code block inside another, and none in a set of tabs. -/
theorem areApart_annotatedLeaf (options : LoweringOptions) {node : Node} (parsed : node.IsParsed) :
    Html.AreApart "pre".toList (annotatedLeaf options node) ∧
      CodeTabs.hiddenList (annotatedLeaf options node) = [] := by
  obtain ⟨_, none⟩ | ⟨language, fence, value, _, lowered⟩ := annotatedLeaf_cases options parsed
  · refine ⟨fun found member => ?_, CodeTabs.hidden_of_named_eq_nil.2 _ none⟩
    rw [none] at member
    cases member
  · have inside :=
      Lowering.namedList_codeContent (by decide : "pre".toList ≠ "code".toList) language
      value (tab? fence) (remaining? fence)
    rw [lowered]
    refine ⟨?_, ?_⟩
    · rw [Html.AreApart, namedList_fencedBlock]
      exact List.forall_mem_singleton.2 inside
    · have noSet : (fencedBlock language fence value).1.name ≠ CodeTabs.setName :=
        (by decide : "pre".toList ≠ CodeTabs.setName)
      rw [CodeTabs.hiddenList, CodeTabs.hidden, if_neg noSet]
      exact congrArg (· ++ []) (CodeTabs.hidden_of_named_eq_nil.2 _ inside)

/-- The `pre` elements for the code blocks among nodes show them. -/
theorem forall₂_shows (options : LoweringOptions) {nodes : List Node}
    (parsed : ∀ node ∈ nodes, node.IsParsed) :
    List.Forall₂ Shows (nodes.filterMap Node.fenced?)
      ((nodes.flatMap fun node => namedList "pre".toList (annotatedLeaf options node)).map
        CodeTabs.copied) := by
  induction nodes with
  | nil => exact .nil
  | cons node rest ih =>
    obtain ⟨first, others⟩ := List.forall_mem_cons.1 parsed
    rw [List.flatMap_cons, List.map_append]
    obtain ⟨noCode, none⟩ | ⟨language, fence, value, isCode, lowered⟩ :=
      annotatedLeaf_cases options first
    · rw [List.filterMap_cons_none noCode, none]
      exact ih others
    · rw [List.filterMap_cons_some isCode, lowered, namedList_fencedBlock]
      exact .cons (shows_copied language fence value) (ih others)

/-- What is read of a lowered document with annotated code blocks is what is read of its leaves. -/
theorem read_annotated (options : LoweringOptions) {tree : Node} (top : tree.kind.isCode = false)
    (parsed : ∀ node ∈ tree.descendants, node.IsParsed)
    (unlisted : ∀ node ∈ tree.descendants, node.ListsNoCode) :
    ∃ children, lowerDocument options (preserveMeta (groupTabs tree)) = .root children ∧
      ∀ reading : Lowering.Reading (Tag × List Html), (∀ value, reading.read [.text value] = []) →
        reading.read children =
          tree.descendants.flatMap fun node => reading.read (annotatedLeaf options node) := by
  have annotated : (tree.mapCode annotate).descendants =
      tree.descendants.map (Node.mapCode annotate) := by
    rw [Node.mapCode_of_not_isCode top]
    refine Node.nodes_mapCode (fun node leaf => (children_annotate node).trans leaf) ?_
    intro node member isCode
    obtain ⟨language, fence, value, kind⟩ := Kind.exists_of_isCode isCode
    exact (parsed node member).leaf (by rw [kind]; rfl)
  have plain : ∀ node ∈ (tree.mapCode annotate).descendants, Lowering.IsPlain node := by
    rw [annotated]
    exact List.forall_mem_map.2 fun node member =>
      isPlain_mapCode (parsed node member) (unlisted node member)
  obtain ⟨children, lowered, read⟩ := Lowering.read_lowerDocument_of_isPlain options plain
  rw [preserveMeta_groupTabs]
  refine ⟨children, lowered, fun reading silent => ?_⟩
  rw [read reading silent, annotated, List.flatMap_map]
  rfl

/-- Every code block of a document is shown by one `pre` element, in document order, which has the
tab that the fence line names, with the value of the block and what else stood on the fence line
inside. A code block among the items of a list would lose both: such a node is lowered without
annotations. -/
theorem roundTrips (options : LoweringOptions) {tree : Node} (top : tree.kind.isCode = false)
    (parsed : ∀ node ∈ tree.descendants, node.IsParsed)
    (unlisted : ∀ node ∈ tree.descendants, node.ListsNoCode) : RoundTrips options tree := by
  obtain ⟨children, lowered, read⟩ := read_annotated options top parsed unlisted
  have blocks : namedList "pre".toList children =
      tree.descendants.flatMap fun node => namedList "pre".toList (annotatedLeaf options node) :=
    read (Lowering.namedReading "pre".toList (by decide)) fun _ => rfl
  have unseen : CodeTabs.hiddenList children =
      tree.descendants.flatMap fun node => CodeTabs.hiddenList (annotatedLeaf options node) :=
    read CodeTabs.hiddenReading fun _ => rfl
  have apart : Html.AreApart "pre".toList children := by
    intro found member
    rw [blocks] at member
    obtain ⟨node, inside, isFound⟩ := List.mem_flatMap.1 member
    exact (areApart_annotatedLeaf options (parsed node inside)).1 found isFound
  have visible : CodeTabs.hiddenList children = [] := by
    rw [unseen, List.flatMap_eq_nil_iff]
    exact fun node member => (areApart_annotatedLeaf options (parsed node member)).2
  have own : tree.codeBlocks = tree.descendants.filterMap Node.fenced? := by
    rw [Node.codeBlocks, Node.nodes_eq, List.filterMap_cons_none (Node.fenced?_of_not_isCode top)]
  rw [RoundTrips, own, shownBlocks, lowered, CodeTabs.named_groupTree_root apart visible, blocks]
  exact forall₂_shows options parsed

/-- A document with two code blocks of one group, of which one is in a block quote, and another code
block without a tab. -/
def tabbedDocument : Node :=
  let block (fence : String) (value : String) : Node :=
    { kind := .code none (some fence.toList) value.toList }
  { kind := .root, children :=
      [block "[g:One] {1}" "x", { kind := .blockquote, children := [block "[g:Two]" ""] },
        block "{2}" "y"] }

/-- The grouped block and the plain block of the document come through. -/
theorem roundTrips_tabbedDocument : RoundTrips {} tabbedDocument := by
  have top : tabbedDocument.kind.isCode = false := rfl
  refine roundTrips {} top ?_ ?_
  · decide
  · decide

/-- A code block that stands in a list in place of an item. -/
def listedBlock : Node :=
  let block : Node := { kind := .code none (some "[g:A]".toList) ['x'] }
  { kind := .root, children := [{ kind := .list false none false, children := [block] }] }

/-- A code block among the items of a list loses its tab. -/
theorem not_roundTrips_listedBlock :
    ¬ ∀ options tree, tree.kind = .root → (∀ node ∈ tree.nodes, node.IsParsed) →
      RoundTrips options tree := by
  intro always
  have shown : RoundTrips {} listedBlock := always {} listedBlock rfl (by decide)
  -- The block is lowered without the tab that both passes left on it.
  let bare : Tag × List Html := (Lowering.plainTag "pre", Lowering.codeContent none ['x'] none none)
  have inside : namedList "pre".toList bare.2 = [] :=
    Lowering.namedList_codeContent (by decide) none ['x'] none none
  have lowered : lowerDocument {} (preserveMeta (groupTabs listedBlock)) =
      .root [.element (Lowering.plainTag "ul")
        [Lowering.newline, .element bare.1 bare.2, Lowering.newline]] := rfl
  have given : shownBlocks {} listedBlock = [CodeTabs.copied bare] := by
    rw [shownBlocks, lowered, CodeTabs.named_groupTree_root]
    · rfl
    · exact List.forall_mem_singleton.2 inside
    · rfl
  have wanted : listedBlock.codeBlocks = [(some "[g:A]".toList, ['x'])] := rfl
  rw [RoundTrips, wanted, given] at shown
  cases shown with
  | cons first rest =>
    obtain ⟨group, _⟩ := CodeTabs.siblingTag_codeContent none ['x'] none (nofun : ∀ place ∈ none, _)
    cases group.symm.trans first.group

end CodeFence

end Manuscript
