import Manuscript.Proofs.Footnote.Section
import Manuscript.Proofs.Html.Tag

/-!
# Reading what a document is lowered to

Something is read of an HTML tree, such as its text or its code blocks: list by list, with nothing
in blanks, and by looking through the elements that the lowering puts around other nodes
(`Reading`). What is read of a lowered document is then what its leaves give, in document order,
each once (`read_lowerDocument`): no way of lowering leaves out, repeats or moves a leaf. Children
of leaves are not lowered, and the rows of a table come in the order of the document if those of its
head come first.
-/

namespace Manuscript

/-- Whether nothing below a node of this kind is lowered. -/
def Kind.isClosed (kind : Kind) : Bool :=
  kind.isLiteral || kind matches .footnoteReference _

/-- A node that is lowered literally has nothing in it to lower. -/
theorem Kind.isClosed_of_isLiteral {kind : Kind} (isLiteral : kind.isLiteral = true) :
    kind.isClosed = true :=
  Bool.or_eq_true_iff.2 (.inl isLiteral)

instance (kind : Kind) : Decidable (∀ label, kind ≠ .footnoteReference label) :=
  decidable_of_iff ((kind matches .footnoteReference _) = false) (by cases kind <;> simp)

instance (kind : Kind) : Decidable (∀ label, kind ≠ .footnoteDefinition label) :=
  decidable_of_iff ((kind matches .footnoteDefinition _) = false) (by cases kind <;> simp)

/-- Whether a table is as the lowering reads it: rows of cells, those of the head first. Other nodes
have this form. -/
structure Node.HasRows (node : Node) : Prop where
  rows : ∀ columns, node.kind = .table columns → ∀ row ∈ node.children,
    (∃ isHead, row.kind = .tableRow isHead) ∧ ∀ cell ∈ row.children, cell.kind = .tableCell
  headFirst : ∀ columns, node.kind = .table columns → node.children.Pairwise fun row later =>
    Lowering.isHeadRow later.kind = true → Lowering.isHeadRow row.kind = true

instance : DecidablePred Node.HasRows := fun node =>
  decidable_of_iff ((node.kind matches .table _) →
      (∀ row ∈ node.children, (row.kind matches .tableRow _) ∧
        ∀ cell ∈ row.children, cell.kind = .tableCell) ∧
      node.children.Pairwise fun row later =>
        Lowering.isHeadRow later.kind = true → Lowering.isHeadRow row.kind = true) <| by
    have isTable : ∀ kind : Kind, (kind matches .table _) ↔ ∃ columns, kind = .table columns := by
      intro kind
      cases kind <;> simp
    have isRow : ∀ kind : Kind, (kind matches .tableRow _) ↔ ∃ isHead, kind = .tableRow isHead := by
      intro kind
      cases kind <;> simp
    simp only [isTable, isRow]
    exact ⟨fun both => ⟨fun columns same => (both ⟨columns, same⟩).1,
        fun columns same => (both ⟨columns, same⟩).2⟩,
      fun hasRows ⟨columns, same⟩ => ⟨hasRows.rows columns same, hasRows.headFirst columns same⟩⟩

namespace Lowering

open Footnote (References)

/-- The names of the elements that are put around lowered nodes by the kinds of nodes. -/
def frameNames : List Text :=
  ["p", "h1", "h2", "h3", "h4", "h5", "h6", "blockquote", "em", "strong", "del", "mark", "abbr",
    "a", "ol", "ul", "li", "input", "table", "thead", "tbody", "tr", "th", "td", "div"].map
      String.toList

/-- A way to read something of lists of HTML trees. -/
structure Reading (α : Type) where
  /-- What is read of siblings. -/
  read : List Html → List α
  /-- The names of the elements of which only the content is read. -/
  isOpen : Text → Prop
  append : ∀ front back, read (front ++ back) = read front ++ read back
  blank : ∀ value, Text.isBlankText value = true → read [.text value] = []
  within : ∀ (tag : Tag) children, isOpen tag.name → read [.element tag children] = read children
  frame : ∀ name ∈ frameNames, isOpen name

mutual

/-- What the leaves of a tree give, in document order. Nothing below a leaf counts. -/
def gather {α : Type} (own : Node → List α) : Node → List α
  | ⟨kind, children, data, span⟩ =>
    if kind.isClosed then own ⟨kind, children, data, span⟩ else gatherList own children

/-- What the leaves of a list of trees give, in document order. -/
def gatherList {α : Type} (own : Node → List α) : List Node → List α
  | [] => []
  | node :: rest => gather own node ++ gatherList own rest

end

/-- A leaf gives what is its own. -/
theorem gather_of_isClosed {α : Type} {own : Node → List α} {node : Node}
    (closed : node.kind.isClosed = true) : gather own node = own node := by
  obtain ⟨kind, children, data, span⟩ := node
  rw [gather, if_pos closed]

/-- Any other node gives what is below. -/
theorem gather_of_not_isClosed {α : Type} {own : Node → List α} {node : Node}
    (plain : node.kind.isClosed = false) : gather own node = gatherList own node.children := by
  obtain ⟨kind, children, data, span⟩ := node
  exact if_neg (Bool.eq_false_iff.1 plain)

/-! ## Readings of pieces -/

namespace Reading

variable {α : Type} (reading : Reading α)

/-- Nothing is read from no nodes. -/
@[simp] theorem read_nil : reading.read [] = [] := by
  have twice := reading.append [] []
  rw [List.append_nil] at twice
  exact List.self_eq_append_right.1 twice

/-- Siblings are read from the first to the last. -/
theorem read_cons (node : Html) (rest : List Html) :
    reading.read (node :: rest) = reading.read [node] ++ reading.read rest :=
  reading.append [node] rest

/-- Siblings that are set apart are read as they are. -/
theorem read_separate (nodes : List Html) : reading.read (separate nodes) = reading.read nodes :=
  Lowering.read_intersperse reading.read reading.append (reading.blank _ (by decide)) nodes

/-- Newlines around siblings are not read. -/
theorem read_surround (nodes : List Html) : reading.read (surround nodes) = reading.read nodes :=
  Lowering.read_surround reading.read reading.append (reading.blank _ (by decide)) nodes

/-- Only the content of an element that the lowering puts around nodes is read. -/
theorem read_frame {tag : Tag} (framed : tag.name ∈ frameNames) (children rest : List Html) :
    reading.read (.element tag children :: rest) = reading.read children ++ reading.read rest := by
  rw [read_cons, reading.within tag children (reading.frame _ framed)]

/-- The box of a task is not read. -/
theorem read_taskBox (checked : Bool) : reading.read (taskBox checked) = [] := by
  have shape : ∃ tag : Tag, tag.name ∈ frameNames ∧
      taskBox checked = [.element tag [], .text [' ']] := by
    cases checked
    · exact ⟨_, by decide, rfl⟩
    · exact ⟨_, by decide, rfl⟩
  obtain ⟨tag, framed, same⟩ := shape
  rw [same, reading.read_frame framed, read_nil, List.nil_append, reading.blank _ (by decide)]

/-- Nodes that are put into the first paragraph are read with it, and change nothing if nothing is
read of them. -/
theorem read_intoFirstParagraph {nodes siblings result : List Html}
    (silent : reading.read nodes = []) (found : intoFirstParagraph nodes siblings = some result) :
    reading.read result = reading.read siblings := by
  obtain ⟨front, tag, children, back, paragraph, rfl, rfl⟩ := intoFirstParagraph_eq_some found
  have framed : tag.name ∈ frameNames := by
    rw [paragraph]
    decide
  rw [reading.append, reading.append, reading.read_frame framed, reading.read_frame framed,
    reading.append, silent, List.nil_append]

/-- The element for a list item holds what is read of its content. -/
theorem read_listItem (checked : Option Bool) (spread : Bool) (content : List Html) :
    (listItem checked spread content).1.name ∈ frameNames ∧
      reading.read (listItem checked spread content).2 = reading.read content := by
  have apart : reading.read (if spread then surround content else content) =
      reading.read content := by
    split
    · exact reading.read_surround content
    · rfl
  have item : "li".toList ∈ frameNames := by decide
  cases checked with
  | none => exact ⟨item, apart⟩
  | some checked =>
    have boxed : ∀ content, reading.read (taskBox checked ++ content) = reading.read content :=
      fun content => by rw [reading.append, read_taskBox, List.nil_append]
    refine ⟨item, ?_⟩
    rw [listItem]
    dsimp only
    split
    · cases found : intoFirstParagraph (taskBox checked) (surround content) with
      | none => exact (boxed _).trans (reading.read_surround content)
      | some result =>
        exact (reading.read_intoFirstParagraph (reading.read_taskBox checked) found).trans
          (reading.read_surround content)
    · exact boxed content

/-- The sections of a table hold what is read of the rows. -/
theorem read_tableSections (head body : List Html) :
    reading.read (tableSections head body) = reading.read head ++ reading.read body := by
  rw [tableSections, reading.read_frame (by decide), read_surround]
  split
  · rename_i empty
    rw [List.isEmpty_iff.1 empty]
  · rw [reading.read_frame (by decide), read_surround, read_nil, List.append_nil]

/-- An element that gets the annotations of a node has a name of the lowering or that of the
annotations. -/
theorem isOpen_applyData {data : Annotations} (opens : ∀ name ∈ data.tagName, reading.isOpen name)
    {tag : Tag} (framed : tag.name ∈ frameNames) : reading.isOpen (applyData data tag).name := by
  have name : (applyData data tag).name = data.tagName.getD tag.name := by
    rw [applyData, applyProperties]
    cases data.cite <;> cases data.id <;> exact Tag.name_addClasses _ _
  rw [name]
  cases given : data.tagName with
  | none => exact reading.frame _ framed
  | some name => exact opens name (given ▸ rfl)

/-- Only the content of an element with the annotations of a node is read. -/
theorem read_applyData {data : Annotations} (opens : ∀ name ∈ data.tagName, reading.isOpen name)
    {tag : Tag} (framed : tag.name ∈ frameNames) (children : List Html) :
    reading.read [.element (applyData data tag) children] = reading.read children :=
  reading.within _ children (reading.isOpen_applyData opens framed)

end Reading

/-- The elements for headings are frames. -/
theorem frameNames_headingName (level : Nat) : headingName level ∈ frameNames := by
  have framed : ∀ name ∈ headingNames, name ∈ frameNames := by decide
  exact framed _ (headingName_mem level)

/-- The elements for lists are frames. -/
theorem frameNames_listTag (ordered : Bool) (start : Option Nat) (hasTasks : Bool) :
    (listTag ordered start hasTasks).name ∈ frameNames := by
  have framed : (plainTag (if ordered then "ol" else "ul")).name ∈ frameNames := by
    cases ordered <;> decide
  have classed : ∀ tag : Tag, tag.name ∈ frameNames →
      (if hasTasks then tag.addClass "contains-task-list".toList else tag).name ∈ frameNames := by
    intro tag framed
    split
    · exact (Tag.name_addClasses ["contains-task-list".toList] tag) ▸ framed
    · exact framed
  cases start with
  | none => exact classed _ framed
  | some first =>
    refine classed _ ?_
    split
    · exact framed
    · exact framed

/-- The elements for cells of tables are frames. -/
theorem frameNames_cellTag (isHead : Bool) (alignment : Option ColumnAlignment) :
    (cellTag isHead alignment).name ∈ frameNames := by
  have framed : (plainTag (if isHead then "th" else "td")).name ∈ frameNames := by
    cases isHead <;> decide
  rcases alignment with _ | _ | _ <;> exact framed

/-- The element of a node that becomes a single one is a frame. -/
theorem frameNames_plainElement? {kind : Kind} {tag : Tag} {apart : Bool}
    (plain : plainElement? kind = some (tag, apart)) : tag.name ∈ frameNames := by
  cases kind with
  | heading level =>
    cases plain
    exact frameNames_headingName level
  | abbreviation title =>
    cases plain
    exact (by decide : "abbr".toList ∈ frameNames)
  | link url title =>
    have framed : "a".toList ∈ frameNames := by decide
    cases plain
    cases title <;> exact framed
  | paragraph | blockquote | emphasis | strong | delete | mark | tableRow | tableCell | container =>
    cases plain
    decide
  | _ => cases plain

/-! ## Readings of lowered nodes -/

section

variable {α Memory : Type} (reading : Reading α) (own : Node → List α)
  (options : LoweringOptions) (rule : ReferenceRule Memory)

/-- What is read of a node, looked at alone, is its own: nothing is read of the tag of a node with
content, a leaf is lowered to what is its own, also among the items of a list, and tables hold
rows. -/
structure Reading.Sees (node : Node) : Prop where
  opens : node.kind.isClosed = false → ∀ name ∈ node.data.tagName, reading.isOpen name
  leaf : node.kind.isLiteral = true → reading.read (leaf options node.kind node.data) = own node
  listed : ∀ ordered start spread, node.kind = .list ordered start spread →
    ∀ child ∈ node.children, child.kind.isLiteral = true →
      reading.read (Lowering.leaf options child.kind {}) = own child
  reference : ∀ label, node.kind = .footnoteReference label → own node = []
  hasRows : node.HasRows

/-- Every way to lower a node is read as what its leaves give. -/
structure NodeReads (node : Node) : Prop where
  asNode : ∀ memory,
    reading.read (lowerNode options rule false node memory).1 = gather own node
  asBare : (node.kind.isLiteral = true → reading.read (leaf options node.kind {}) = own node) →
    ∀ memory, reading.read (lowerNode options rule true node memory).1 = gather own node
  asParent : node.kind.isClosed = false → ∀ memory,
    reading.read (lowerChildren options rule node memory).1 = gather own node
  asItem : node.kind.isClosed = false → ∀ spread memory,
    reading.read (lowerItem options rule spread node memory).1 = gather own node
  asRow : (∃ isHead, node.kind = .tableRow isHead) →
    (∀ cell ∈ node.children, cell.kind = .tableCell) →
    ∀ isHead columns memory,
      reading.read (lowerRow options rule isHead columns node memory).1 = gather own node

/-- Every way to lower a list of nodes is read as what the leaves of the nodes give. -/
structure ListReads (nodes : List Node) : Prop where
  asList : ∀ memory, reading.read (lowerList options rule nodes memory).1 = gatherList own nodes
  asItems : (∀ node ∈ nodes, node.kind.isLiteral = true →
      reading.read (leaf options node.kind {}) = own node) → ∀ spread memory,
    reading.read (lowerItems options rule spread nodes memory).1 = gatherList own nodes
  asContent : ∀ spread memory,
    reading.read (lowerItemContent options rule spread nodes memory).1 = gatherList own nodes
  asRows : (∀ row ∈ nodes, (∃ isHead, row.kind = .tableRow isHead) ∧
      ∀ cell ∈ row.children, cell.kind = .tableCell) →
    (nodes.Pairwise fun row later => isHeadRow later.kind = true → isHeadRow row.kind = true) →
    ∀ columns memory, reading.read (lowerRows options rule columns nodes memory).1 ++
      reading.read (lowerRows options rule columns nodes memory).2.1 = gatherList own nodes
  asCells : (∀ cell ∈ nodes, cell.kind = .tableCell) → ∀ isHead columns memory,
    reading.read (lowerCells options rule isHead columns nodes memory).1 = gatherList own nodes

variable {reading own options rule}

/-- A node with content, lowered with the given annotations, is read as what its leaves give. -/
theorem nodeReads_of_children (silent : ∀ label memory, reading.read (rule label memory).1 = [])
    {kind : Kind} {children : List Node} {data : Annotations} {span : Option Span}
    (sees : reading.Sees own options ⟨kind, children, data, span⟩)
    (below : ListReads reading own options rule children) :
    NodeReads reading own options rule ⟨kind, children, data, span⟩ := by
  have lowered : ∀ bare, (kind.isLiteral = true →
      reading.read (leaf options kind (if bare then {} else data)) =
        own ⟨kind, children, data, span⟩) →
      ∀ memory, reading.read (lowerNode options rule bare ⟨kind, children, data, span⟩ memory).1 =
        gather own ⟨kind, children, data, span⟩ := by
    intro bare leaves memory
    have opens : kind.isClosed = false →
        ∀ name ∈ (if bare then {} else data : Annotations).tagName, reading.isOpen name := by
      intro plain
      cases bare with
      | true => exact fun name given => nomatch given
      | false => exact sees.opens plain
    have asElement : ∀ tag apart, plainElement? kind = some (tag, apart) → kind.isClosed = false →
        reading.read [.element (applyData (if bare then {} else data) tag)
          (if apart then surround (lowerList options rule children memory).1
            else (lowerList options rule children memory).1)] =
        gather own ⟨kind, children, data, span⟩ := by
      intro tag apart plain isPlain
      rw [gather_of_not_isClosed isPlain,
        reading.read_applyData (opens isPlain) (frameNames_plainElement? plain)]
      split
      · exact (reading.read_surround _).trans (below.asList memory)
      · exact below.asList memory
    have asLeaf : kind.isLiteral = true →
        reading.read (leaf options kind (if bare then {} else data)) =
          gather own ⟨kind, children, data, span⟩ := by
      intro isLiteral
      rw [gather_of_isClosed (Kind.isClosed_of_isLiteral isLiteral)]
      exact leaves isLiteral
    cases kind with
    | root =>
      rw [gather_of_not_isClosed rfl]
      exact below.asList memory
    | footnoteReference label =>
      rw [gather_of_isClosed rfl, sees.reference label rfl]
      exact silent label memory
    | list ordered start spread =>
      rw [gather_of_not_isClosed rfl, lowerNode,
        reading.read_applyData (opens rfl) (frameNames_listTag _ _ _), reading.read_surround]
      exact below.asItems (sees.listed ordered start spread rfl) spread memory
    | listItem checked =>
      obtain ⟨framed, content⟩ := reading.read_listItem checked true
        (lowerItemContent options rule true children memory).1
      rw [gather_of_not_isClosed rfl, lowerNode, reading.read_applyData (opens rfl) framed, content]
      exact below.asContent true memory
    | table columns =>
      have framed : "table".toList ∈ frameNames := by decide
      rw [gather_of_not_isClosed rfl, lowerNode, reading.read_applyData (opens rfl) framed,
        reading.read_surround, reading.read_tableSections]
      exact below.asRows (sees.hasRows.rows columns rfl) (sees.hasRows.headFirst columns rfl)
        columns memory
    | paragraph | blockquote | emphasis | strong | delete | mark | tableCell | container =>
      exact asElement _ _ rfl rfl
    | heading level => exact asElement _ _ rfl rfl
    | abbreviation title => exact asElement _ _ rfl rfl
    | link url title => exact asElement _ _ rfl rfl
    | tableRow isHead => exact asElement _ _ rfl rfl
    | _ => exact asLeaf rfl
  exact {
    asNode := lowered false sees.leaf
    asBare := lowered true
    asParent := fun plain memory => by
      rw [gather_of_not_isClosed plain]
      exact below.asList memory
    asItem := fun plain spread memory => by
      rw [gather_of_not_isClosed plain]
      exact below.asContent spread memory
    asRow := fun isRow cells isHead columns memory => by
      obtain ⟨head, rfl⟩ := isRow
      rw [gather_of_not_isClosed rfl]
      exact below.asCells cells isHead columns memory }

/-- Nothing is read from a list of no nodes. -/
theorem listReads_nil : ListReads reading own options rule [] where
  asList _ := reading.read_nil
  asItems _ _ _ := reading.read_nil
  asContent _ _ := reading.read_nil
  asRows _ _ _ _ := by
    rw [lowerRows, reading.read_nil, gatherList]
    rfl
  asCells _ _ _ _ := reading.read_nil

/-- Without rows of the head among the rows of a table the head is empty. -/
theorem lowerRows_head_eq_nil {rows : List Node} (body : ∀ row ∈ rows, isHeadRow row.kind = false)
    (columns : List ColumnAlignment) (memory : Memory) :
    (lowerRows options rule columns rows memory).1 = [] := by
  induction rows generalizing memory with
  | nil => rfl
  | cons row rest ih =>
    obtain ⟨first, others⟩ := List.forall_mem_cons.1 body
    rw [lowerRows]
    dsimp only
    rw [first, if_neg Bool.false_ne_true]
    exact ih others _

/-- A list is read as its first node and then the others. -/
theorem listReads_cons {node : Node} {rest : List Node} (sees : reading.Sees own options node)
    (head : NodeReads reading own options rule node)
    (tail : ListReads reading own options rule rest) :
    ListReads reading own options rule (node :: rest) where
  asList memory := by
    rw [lowerList]
    dsimp only
    rw [reading.append, head.asNode, tail.asList, gatherList]
  asItems leaves spread memory := by
    obtain ⟨first, others⟩ := List.forall_mem_cons.1 leaves
    rw [lowerItems, gatherList]
    split
    · rename_i checked item
      obtain ⟨framed, content⟩ := reading.read_listItem checked spread
        (lowerItem options rule spread node memory).1
      have plain : node.kind.isClosed = false := by
        rw [item]
        rfl
      rw [reading.read_cons, reading.read_applyData (sees.opens plain) framed, content,
        head.asItem plain, tail.asItems others]
    · rw [reading.append, head.asBare first, tail.asItems others]
  asContent spread memory := by
    rw [lowerItemContent, gatherList, reading.append, tail.asContent]
    split
    · rename_i tight
      have paragraph : node.kind = .paragraph := by
        simp only [Bool.and_eq_true, Node.isParagraph, decide_eq_true_eq] at tight
        exact tight.1.2
      rw [head.asParent (by rw [paragraph]; rfl)]
    · rw [head.asNode]
  asRows rows headFirst columns memory := by
    obtain ⟨⟨isRow, cells⟩, others⟩ := List.forall_mem_cons.1 rows
    obtain ⟨before, laterHeadFirst⟩ := List.pairwise_cons.1 headFirst
    have framed : "tr".toList ∈ frameNames := by decide
    have row := head.asRow isRow cells (isHeadRow node.kind) columns memory
    have later := tail.asRows others laterHeadFirst columns
      (lowerRow options rule (isHeadRow node.kind) columns node memory).2
    rw [lowerRows, gatherList, ← row, ← later]
    dsimp only
    cases isHead : isHeadRow node.kind with
    | true =>
      rw [if_pos rfl, reading.read_frame framed, reading.read_surround, List.append_assoc]
    | false =>
      have body : ∀ row ∈ rest, isHeadRow row.kind = false := fun row member =>
        Bool.eq_false_iff.2 fun head =>
          Bool.false_ne_true (isHead.symm.trans (before row member head))
      rw [if_neg Bool.false_ne_true, lowerRows_head_eq_nil body, reading.read_nil, List.nil_append,
        List.nil_append, reading.read_frame framed, reading.read_surround]
  asCells cells isHead columns memory := by
    obtain ⟨first, others⟩ := List.forall_mem_cons.1 cells
    rw [lowerCells, gatherList, reading.read_frame (frameNames_cellTag isHead _),
      head.asParent (by rw [first]; rfl), tail.asCells others]

/-- What is read of lowered nodes is what their leaves give, if the rule for references gives
nothing to read. -/
theorem read_lowerList (silent : ∀ label memory, reading.read (rule label memory).1 = [])
    {nodes : List Node} (sees : ∀ node ∈ Node.nodesBelow nodes, reading.Sees own options node)
    (memory : Memory) :
    reading.read (lowerList options rule nodes memory).1 = gatherList own nodes := by
  have all : (∀ node : Node, (∀ other ∈ node.nodes, reading.Sees own options other) →
        NodeReads reading own options rule node) ∧
      ∀ nodes, (∀ other ∈ Node.nodesBelow nodes, reading.Sees own options other) →
        ListReads reading own options rule nodes := by
    refine Node.induction ?_ (fun _ => listReads_nil) ?_
    · intro kind children data span below sees
      obtain ⟨first, others⟩ := List.forall_mem_cons.1 sees
      exact nodeReads_of_children silent first (below others)
    · intro first rest head tail sees
      obtain ⟨here, later⟩ := List.forall_mem_append.1 sees
      exact listReads_cons (here first (by rw [Node.nodes_eq]; exact List.mem_cons_self))
        (head here) (tail later)
  exact (all.2 nodes sees).asList memory

end

/-! ## Documents without footnotes -/

/-- A document has no footnote definitions. -/
def LacksDefinitions (nodes : List Node) : Prop :=
  ∀ node ∈ Node.nodesBelow nodes, ∀ label, node.kind ≠ .footnoteDefinition label

/-- Without definitions none is taken out. -/
theorem dropDefinitionList_of_lacksDefinitions {nodes : List Node}
    (lacks : LacksDefinitions nodes) :
    dropDefinitionList nodes = nodes ∧ definitionList nodes = [] := by
  have all : (∀ node : Node, LacksDefinitions node.children →
        dropDefinitions node = node ∧ definitions node = []) ∧
      ∀ nodes, LacksDefinitions nodes →
        dropDefinitionList nodes = nodes ∧ definitionList nodes = [] := by
    refine Node.induction ?_ (fun _ => ⟨rfl, rfl⟩) ?_
    · intro kind children data span below lacks
      obtain ⟨same, none⟩ := below lacks
      exact ⟨by rw [dropDefinitions, same], none⟩
    · intro node rest own later lacks
      obtain ⟨here, others⟩ := List.forall_mem_append.1 lacks
      rw [Node.nodes_eq] at here
      obtain ⟨noDefinition, inside⟩ := List.forall_mem_cons.1 here
      obtain ⟨same, none⟩ := own inside
      obtain ⟨sameRest, noneRest⟩ := later others
      obtain ⟨kind, children, data, span⟩ := node
      cases kind with
      | footnoteDefinition label => exact absurd rfl (noDefinition label)
      | _ => exact ⟨congrArg₂ List.cons same sameRest, congrArg₂ List.append none noneRest⟩
  exact all.2 nodes lacks

/-- A document without definitions is lowered to its lowered nodes with line feeds between. -/
theorem lowerDocument_of_lacksDefinitions (options : LoweringOptions) {tree : Node}
    (lacks : LacksDefinitions tree.children) :
    lowerDocument options tree = .root (separate
      (lowerList options (lowerReference options []) tree.children []).1) := by
  obtain ⟨same, none⟩ := dropDefinitionList_of_lacksDefinitions lacks
  have undefined : definitions tree = [] := by
    obtain ⟨kind, children, data, span⟩ := tree
    exact none
  have keeps : ∀ (labels : List Text) (references : References),
      (answers (lowerReference options []) labels references).2 = references := by
    intro labels references
    induction labels with
    | nil => rfl
    | cons label rest ih => exact ih
  have unreferenced : (lowerList options (lowerReference options []) tree.children []).2 = [] := by
    rw [lowerList_eq_fill]
    exact keeps _ []
  rw [lowerDocument, undefined, same]
  dsimp only [firstDefinitions]
  rw [List.map_nil, unreferenced, List.isEmpty_nil, if_pos rfl, List.append_nil]

/-- What is read of a lowered document is what its leaves give, if nothing is read of a text that
stands for a reference without a definition. -/
theorem read_lowerDocument (options : LoweringOptions) {tree : Node}
    (lacks : LacksDefinitions tree.children) :
    ∃ children, lowerDocument options tree = .root children ∧
      ∀ {α : Type} {reading : Reading α} {own : Node → List α},
        (∀ value, reading.read [.text value] = []) →
        (∀ node ∈ tree.descendants, reading.Sees own options node) →
        reading.read children = gatherList own tree.children := by
  refine ⟨_, lowerDocument_of_lacksDefinitions options lacks, fun {α reading own} silent sees => ?_⟩
  rw [reading.read_separate]
  exact read_lowerList (fun label references => silent _) sees []

/-! ## Documents without references -/

/-- Without references the lowering asks a rule about nothing. -/
theorem citedLabelList_eq_nil {nodes : List Node}
    (lacks : ∀ node ∈ Node.nodesBelow nodes, ∀ label, node.kind ≠ .footnoteReference label) :
    Node.citedLabelList 0 nodes = [] := by
  have all :
    (∀ node : Node, (∀ other ∈ node.nodes, ∀ label, other.kind ≠ .footnoteReference label) →
        ∀ skip, node.citedLabels skip = []) ∧
      ∀ nodes, (∀ other ∈ Node.nodesBelow nodes, ∀ label, other.kind ≠ .footnoteReference label) →
        ∀ skip, Node.citedLabelList skip nodes = [] := by
    refine Node.induction ?_ (fun _ _ => rfl) ?_
    · intro kind children data span below lacks skip
      obtain ⟨first, others⟩ := List.forall_mem_cons.1 lacks
      cases skip with
      | succ skip => exact below others skip
      | zero =>
        cases kind with
        | footnoteReference label => exact absurd rfl (first label)
        | table columns => exact below others 2
        | _ => first | exact below others 0 | rfl
    · intro node rest own later lacks skip
      obtain ⟨here, others⟩ := List.forall_mem_append.1 lacks
      exact congrArg₂ List.append (own here skip) (later others skip)
  exact all.2 nodes lacks 0

/-- Nodes without references are lowered alike by every rule. -/
theorem lowerList_of_no_references {Memory Other : Type} (options : LoweringOptions)
    (rule : ReferenceRule Memory) (other : ReferenceRule Other) {nodes : List Node}
    (lacks : ∀ node ∈ Node.nodesBelow nodes, ∀ label, node.kind ≠ .footnoteReference label)
    (memory : Memory) (otherMemory : Other) :
    (lowerList options rule nodes memory).1 = (lowerList options other nodes otherMemory).1 := by
  rw [lowerList_eq_fill, lowerList_eq_fill options other, citedLabelList_eq_nil lacks]
  rfl

end Lowering

end Manuscript
