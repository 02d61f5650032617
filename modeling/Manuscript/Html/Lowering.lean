import Manuscript.Html.Footnote

/-!
# From documents to HTML

Every kind of node has an element that it is lowered to; the annotations of a node become the name,
the classes and the attributes of its element. Footnote definitions are taken out of the document
and come back, as far as they are referred to, in a section at its end.
-/

namespace Manuscript

/-- What the lowering to HTML needs to know. -/
structure LoweringOptions where
  /-- Settings of the footnotes. -/
  footnotes : FootnoteOptions := {}
  /-- Whether raw HTML is kept. -/
  allowDangerousHtml : Bool := false
deriving Repr

namespace Lowering

/-- A line feed between blocks. -/
def newline : Html :=
  .text ['\n']

/-- Siblings with a line feed between each two. -/
def separate (nodes : List Html) : List Html :=
  nodes.intersperse newline

/-- Siblings with a line feed before each and after the last. -/
def surround (nodes : List Html) : List Html :=
  if nodes.isEmpty then [] else newline :: separate nodes ++ [newline]

section

variable {α : Type} (read : List Html → List α)
  (append : ∀ front back, read (front ++ back) = read front ++ read back)

include append

/-- What is read of siblings is read of them with something between each two of which nothing is
read. -/
theorem read_intersperse {between : Html} (silent : read [between] = []) (nodes : List Html) :
    read (nodes.intersperse between) = read nodes := by
  induction nodes with
  | nil => rfl
  | cons first rest ih =>
    cases rest with
    | nil => rfl
    | cons second rest =>
      calc read ([first] ++ ([between] ++ (second :: rest).intersperse between))
        _ = read [first] ++ read (second :: rest) := by
          rw [append, append, silent, ih, List.nil_append]
        _ = read (first :: second :: rest) := (append [first] _).symm

/-- What is read of siblings is read of them with line feeds around, if nothing is read of those. -/
theorem read_surround (silent : read [newline] = []) (nodes : List Html) :
    read (surround nodes) = read nodes := by
  rw [surround]
  split
  · rename_i empty
    rw [List.isEmpty_iff.1 empty]
  · calc read ([newline] ++ separate nodes ++ [newline])
      _ = read (separate nodes) := by
        rw [append, append, silent, List.nil_append, List.append_nil]
      _ = read nodes := read_intersperse read append silent nodes

end

mutual

/-- The tree without its footnote definitions. -/
def dropDefinitions : Node → Node
  | ⟨kind, children, data, span⟩ => ⟨kind, dropDefinitionList children, data, span⟩

/-- Siblings without the footnote definitions among and below them. -/
def dropDefinitionList : List Node → List Node
  | [] => []
  | ⟨.footnoteDefinition _, _, _, _⟩ :: rest => dropDefinitionList rest
  | node :: rest => dropDefinitions node :: dropDefinitionList rest

end

mutual

/-- The footnote definitions of a tree that are not inside another, in order: the identifier and the
content of each. -/
def definitions : Node → List (Text × List Node)
  | ⟨_, children, _, _⟩ => definitionList children

/-- The footnote definitions among siblings and below them. -/
def definitionList : List Node → List (Text × List Node)
  | [] => []
  | ⟨.footnoteDefinition label, children, _, _⟩ :: rest =>
    (Footnote.identifier label, children) :: definitionList rest
  | node :: rest => definitions node ++ definitionList rest

end

/-- Keeps the first definition of every identifier. `known` holds the identifiers of the definitions
before. -/
def firstDefinitions (known : List Text) : List (Text × List Node) → List (Text × List Node)
  | [] => []
  | (id, children) :: rest =>
    if known.contains id then firstDefinitions known rest
    else (id, children) :: firstDefinitions (id :: known) rest

/-- Adds the identifier and the properties of a node to a tag. -/
def applyProperties (data : Annotations) (tag : Tag) : Tag :=
  let tag := match data.id with
    | some id => tag.setAttribute "id".toList id
    | none => tag
  { tag with attributes := Pairs.setAll data.properties tag.attributes }

/-- Adds the annotations of a node to the tag of its element. -/
def applyData (data : Annotations) (tag : Tag) : Tag :=
  let tag := { tag with name := data.tagName.getD tag.name }
  let tag := tag.addClasses data.classes
  let tag := match data.cite with
    | some cite => tag.setAttribute "cite".toList cite
    | none => tag
  applyProperties data tag

/-- A tag with a name and nothing else. -/
def plainTag (name : String) : Tag :=
  { name := name.toList }

/-- Sets an attribute if there is a value for it. -/
def setOptional (name : String) (value : Option Text) (tag : Tag) : Tag :=
  match value with
  | some value => tag.setAttribute name.toList value
  | none => tag

/-- The element for a code block: `pre` with `code` inside. The classes of the node go to the outer
element, everything else to the inner one. -/
def codeBlock (language : Option Text) (value : Text) (data : Annotations) : Html :=
  let code := (plainTag "code").addClasses (language.toList.map ("language-".toList ++ ·))
  let code := setOptional "data-code-tabs-group" (data.codeTab.map (·.group)) code
  let code := setOptional "data-code-tabs-tab" (data.codeTab.map (·.label)) code
  let code := setOptional "data-shiki-meta" data.fenceMeta code
  let text := if value.isEmpty then value else value ++ ['\n']
  .element ((plainTag "pre").addClasses data.classes)
    [.element (applyProperties data code) [.text text]]

/-- The name of the element for a heading. -/
def headingName (level : Nat) : Text :=
  'h' :: Text.ofNat (min (max level 1) 6)

/-- The names of the elements for headings. -/
def headingNames : List Text :=
  ["h1", "h2", "h3", "h4", "h5", "h6"].map String.toList

/-- The name of a heading is one of six. -/
theorem headingName_mem (level : Nat) : headingName level ∈ headingNames := by
  have atLeast : 1 ≤ min (max level 1) 6 := by omega
  have atMost : min (max level 1) 6 ≤ 6 := by omega
  rw [headingName]
  generalize min (max level 1) 6 = bounded at atLeast atMost
  match bounded, atLeast, atMost with
  | 1, _, _ => decide
  | 2, _, _ => decide
  | 3, _, _ => decide
  | 4, _, _ => decide
  | 5, _, _ => decide
  | 6, _, _ => decide

/-- Tag of a list. -/
def listTag (ordered : Bool) (start : Option Nat) (hasTasks : Bool) : Tag :=
  let tag := plainTag (if ordered then "ol" else "ul")
  let tag := match start with
    | some first =>
      if ordered && first != 1 then tag.setAttribute "start".toList (Text.ofNat first) else tag
    | none => tag
  if hasTasks then tag.addClass "contains-task-list".toList else tag

/-- The box of a task, with a blank after it. -/
def taskBox (checked : Bool) : List Html :=
  let tag := ((plainTag "input").setAttribute "type".toList "checkbox".toList).setAttribute
    "disabled".toList []
  [.element (if checked then tag.setAttribute "checked".toList [] else tag) [], .text [' ']]

/-- Puts nodes at the start of the first paragraph among siblings. -/
def intoFirstParagraph (nodes : List Html) : List Html → Option (List Html)
  | [] => none
  | .element tag children :: rest =>
    if tag.name = ['p'] then some (.element tag (nodes ++ children) :: rest)
    else (intoFirstParagraph nodes rest).map (.element tag children :: ·)
  | node :: rest => (intoFirstParagraph nodes rest).map (node :: ·)

/-- When nodes are put into a paragraph among siblings, everything else stays as it is. -/
theorem intoFirstParagraph_eq_some {nodes siblings result : List Html}
    (found : intoFirstParagraph nodes siblings = some result) :
    ∃ front tag children back, tag.name = ['p'] ∧
      siblings = front ++ .element tag children :: back ∧
      result = front ++ .element tag (nodes ++ children) :: back := by
  induction siblings generalizing result with
  | nil => cases found
  | cons first rest ih =>
    have later (inRest : (intoFirstParagraph nodes rest).map (first :: ·) = some result) :
        ∃ front tag children back, tag.name = ['p'] ∧
          first :: rest = front ++ .element tag children :: back ∧
          result = front ++ .element tag (nodes ++ children) :: back := by
      obtain ⟨others, isLater, rfl⟩ := Option.map_eq_some_iff.1 inRest
      obtain ⟨front, tag, children, back, paragraph, rfl, rfl⟩ := ih isLater
      exact ⟨first :: front, tag, children, back, paragraph, rfl, rfl⟩
    cases first with
    | element tag children =>
      rw [intoFirstParagraph] at found
      split at found
      · rename_i paragraph
        cases found
        exact ⟨[], tag, children, rest, paragraph, rfl, rfl⟩
      · exact later found
    | root children => exact later found
    | text value => exact later found
    | comment value => exact later found
    | raw value => exact later found

/-- The element for a list item with its lowered content. -/
def listItem (checked : Option Bool) (spread : Bool) (content : List Html) : Tag × List Html :=
  let content := if spread then surround content else content
  match checked with
  | none => (plainTag "li", content)
  | some checked =>
    let box := taskBox checked
    let boxed := if spread then (intoFirstParagraph box content).getD (box ++ content)
      else box ++ content
    ((plainTag "li").addClass "task-list-item".toList, boxed)

/-- Tag of a table cell. -/
def cellTag (isHead : Bool) (alignment : Option ColumnAlignment) : Tag :=
  let tag := plainTag (if isHead then "th" else "td")
  match alignment with
  | some .left => tag.setAttribute "align".toList "left".toList
  | some .center => tag.setAttribute "align".toList "center".toList
  | some .right => tag.setAttribute "align".toList "right".toList
  | _ => tag

/-- The sections of a table: the head, and the body if it has rows. -/
def tableSections (head body : List Html) : List Html :=
  .element (plainTag "thead") (surround head)
    :: if body.isEmpty then [] else [.element (plainTag "tbody") (surround body)]

open Footnote (References)

/-- How a reference to a footnote is lowered: the nodes that stand for it, and what is kept in mind
for the references after it. -/
abbrev ReferenceRule (Memory : Type) := Text → Memory → List Html × Memory

/-- Lowers a reference to one of the footnotes that can be referred to, or to another. -/
def lowerReference (options : LoweringOptions) (defined : List Text) : ReferenceRule References :=
  fun label references =>
    let (citation, references) := Footnote.cite defined label references
    (citation.lower options.footnotes.clobberFront, references)

/-- Whether a row belongs to the head of its table. -/
def isHeadRow : Kind → Bool
  | .tableRow isHead => isHead
  | _ => false

/-- Whether an item of a list is a task. -/
def isTask (item : Node) : Bool :=
  match item.kind with
  | .listItem checked => checked.isSome
  | _ => false

/-- The element for a node whose children are lowered one after the other: its tag, and whether the
children are set apart by line feeds. Other kinds are lowered in ways of their own. -/
def plainElement? : Kind → Option (Tag × Bool)
  | .paragraph => some (plainTag "p", false)
  | .heading level => some ({ name := headingName level }, false)
  | .blockquote => some (plainTag "blockquote", true)
  | .emphasis => some (plainTag "em", false)
  | .strong => some (plainTag "strong", false)
  | .delete => some (plainTag "del", false)
  | .mark => some (plainTag "mark", false)
  | .abbreviation title => some ((plainTag "abbr").setAttribute "title".toList title, false)
  | .link url title =>
    some (setOptional "title" title ((plainTag "a").setAttribute "href".toList url), false)
  | .tableRow _ => some (plainTag "tr", true)
  | .tableCell => some (plainTag "td", false)
  | .container => some (plainTag "div", true)
  | _ => none

/-- The nodes for a leaf, whose children do not count. -/
def leaf (options : LoweringOptions) (kind : Kind) (data : Annotations) : List Html :=
  match kind with
  | .text value => [.text value]
  | .code language _ value => [codeBlock language value data]
  | .inlineCode value => [.element (applyData data (plainTag "code")) [.text value]]
  | .image url alt title =>
    let tag := ((plainTag "img").setAttribute "src".toList url).setAttribute "alt".toList alt
    [.element (applyData data (setOptional "title" title tag)) []]
  | .lineBreak => [.element (plainTag "br") [], newline]
  | .thematicBreak => [.element (applyData data (plainTag "hr")) []]
  | .html value => if options.allowDangerousHtml then [.raw value] else []
  | _ => []

section

variable {Memory : Type} (options : LoweringOptions) (rule : ReferenceRule Memory)

mutual

/-- Lowers a node; a `bare` node is lowered without its annotations. -/
def lowerNode (bare : Bool) : Node → Memory → List Html × Memory
  | ⟨kind, children, annotations, _⟩, memory =>
    let data := if bare then {} else annotations
    match kind with
    | .root => lowerList children memory
    | .footnoteReference label => rule label memory
    | .list ordered start spread =>
      let (items, memory) := lowerItems spread children memory
      let tag := listTag ordered start (children.any isTask)
      ([.element (applyData data tag) (surround items)], memory)
    | .listItem checked =>
      let (content, memory) := lowerItemContent true children memory
      let (tag, content) := listItem checked true content
      ([.element (applyData data tag) content], memory)
    | .table columns =>
      let (head, body, memory) := lowerRows columns children memory
      ([.element (applyData data (plainTag "table")) (surround (tableSections head body))], memory)
    | kind =>
      match plainElement? kind with
      | some (tag, apart) =>
        let (content, memory) := lowerList children memory
        ([.element (applyData data tag) (if apart then surround content else content)], memory)
      | none => (leaf options kind data, memory)

/-- Lowers the children of a node one after the other. -/
def lowerChildren : Node → Memory → List Html × Memory
  | ⟨_, children, _, _⟩, memory => lowerList children memory

/-- Lowers a list of siblings. -/
def lowerList : List Node → Memory → List Html × Memory
  | [], memory => ([], memory)
  | node :: rest, memory =>
    let (first, memory) := lowerNode false node memory
    let (rest, memory) := lowerList rest memory
    (first ++ rest, memory)

/-- Lowers what is inside an item of a list. -/
def lowerItem (spread : Bool) : Node → Memory → List Html × Memory
  | ⟨_, children, _, _⟩, memory => lowerItemContent spread children memory

/-- Lowers the items of a list. What is no item is lowered without its annotations. -/
def lowerItems (spread : Bool) : List Node → Memory → List Html × Memory
  | [], memory => ([], memory)
  | node :: rest, memory =>
    match node.kind with
    | .listItem checked =>
      let (content, memory) := lowerItem spread node memory
      let (tag, content) := listItem checked spread content
      let (rest, memory) := lowerItems spread rest memory
      (.element (applyData node.data tag) content :: rest, memory)
    | _ =>
      let (first, memory) := lowerNode true node memory
      let (rest, memory) := lowerItems spread rest memory
      (first ++ rest, memory)

/-- Lowers the content of a list item. In a tight list a paragraph without annotations is replaced
by what it holds. -/
def lowerItemContent (spread : Bool) : List Node → Memory → List Html × Memory
  | [], memory => ([], memory)
  | node :: rest, memory =>
    let (first, memory) :=
      if !spread && node.isParagraph && node.data = {} then lowerChildren node memory
      else lowerNode false node memory
    let (rest, memory) := lowerItemContent spread rest memory
    (first ++ rest, memory)

/-- Lowers the rows of a table; the rows of the head come apart from the others. -/
def lowerRows (columns : List ColumnAlignment) :
    List Node → Memory → List Html × List Html × Memory
  | [], memory => ([], [], memory)
  | node :: rest, memory =>
    let isHead := isHeadRow node.kind
    let (cells, memory) := lowerRow isHead columns node memory
    let row : Html := .element (plainTag "tr") (surround cells)
    let (head, body, memory) := lowerRows columns rest memory
    if isHead then (row :: head, body, memory) else (head, row :: body, memory)

/-- Lowers the cells of a row. -/
def lowerRow (isHead : Bool) (columns : List ColumnAlignment) :
    Node → Memory → List Html × Memory
  | ⟨_, cells, _, _⟩, memory => lowerCells isHead columns cells memory

/-- Lowers a list of cells. -/
def lowerCells (isHead : Bool) (columns : List ColumnAlignment) :
    List Node → Memory → List Html × Memory
  | [], memory => ([], memory)
  | node :: rest, memory =>
    let (content, memory) := lowerChildren node memory
    let (rest, memory) := lowerCells isHead columns.tail rest memory
    (.element (cellTag isHead columns.head?) content :: rest, memory)

end

end

/-- The definition of a footnote, and the other definitions. -/
def takeDefinition? (id : Text) :
    List (Text × List Node) → Option (List Node × List (Text × List Node))
  | [] => none
  | (other, children) :: rest =>
    if other = id then some (children, rest)
    else (takeDefinition? id rest).map fun (found, others) => (found, (other, children) :: others)

/-- Taking a definition leaves one definition less. -/
theorem length_of_takeDefinition? {id : Text} {definitions others : List (Text × List Node)}
    {children : List Node} (taken : takeDefinition? id definitions = some (children, others)) :
    others.length < definitions.length := by
  induction definitions generalizing others children with
  | nil => cases taken
  | cons entry rest ih =>
    unfold takeDefinition? at taken
    split at taken
    · simp only [Option.some.injEq, Prod.mk.injEq] at taken
      simp [← taken.2]
    · simp only [Option.map_eq_some_iff, Prod.exists, Prod.mk.injEq] at taken
      obtain ⟨_, others', taken', _, rfl⟩ := taken
      have := ih taken'
      simp only [List.length_cons]
      omega

/-- The list items for the footnotes from the given index on. `remaining` holds the definitions that
have no item yet; while an item is built, further footnotes may be referred to. -/
def footnoteItems (options : LoweringOptions) (remaining : List (Text × List Node)) (index : Nat)
    (references : References) : List Html :=
  match _next : references[index]? with
  | none => []
  | some (id, _) =>
    match _taken : takeDefinition? id remaining with
    | none => footnoteItems options remaining (index + 1) references
    | some (children, others) =>
      let (content, references) :=
        lowerList options (lowerReference options (others.map Prod.fst)) children references
      let back := Footnote.backReferences options.footnotes id (index + 1) (references.count id)
      let tag := (plainTag "li").setAttribute "id".toList
        (Footnote.itemAnchor options.footnotes.clobberFront id)
      .element tag (surround (Footnote.withBackReferences back content))
        :: footnoteItems options others (index + 1) references
termination_by (remaining.length, references.length - index)
decreasing_by
  · obtain ⟨bound, _⟩ := List.getElem?_eq_some_iff.1 _next
    exact Prod.Lex.right _ (by omega)
  · exact Prod.Lex.left _ _ (length_of_takeDefinition? _taken)

/-- The section that holds the footnotes. -/
def footnoteSection (label : Text) (items : List Html) : Html :=
  let heading := ((plainTag "h2").addClass "sr-only".toList).setAttribute "id".toList
    "footnote-label".toList
  let section' := ((plainTag "section").addClass "footnotes".toList).setAttribute
    "data-footnotes".toList []
  .element section'
    (surround [.element heading [.text label], .element (plainTag "ol") (surround items)])

/-- Lowers a document to an HTML tree. -/
def lowerDocument (options : LoweringOptions) (tree : Node) : Html :=
  let definitions := firstDefinitions [] (definitions tree)
  let (content, references) :=
    lowerList options (lowerReference options (definitions.map Prod.fst))
      (dropDefinitionList tree.children) []
  let notes :=
    if references.isEmpty then []
    else [footnoteSection options.footnotes.label (footnoteItems options definitions 0 references)]
  .root (separate (content ++ notes))

end Lowering

end Manuscript
