import Manuscript.Proofs.Html.Induction
import Manuscript.Proofs.Lowering.Reading

/-!
# The text of a lowered document

Lowering puts line feeds between blocks, after code and after line breaks, and a blank after the box
of a task. Apart from white space the text of the HTML tree is the text that the document shows: the
values of its texts and of its code, outside images, in document order
(`textContent_lowerDocument`).
-/

namespace Manuscript

/-- A text without its white space. -/
def Text.withoutBlanks (text : Text) : Text :=
  text.filter fun c => !isBlank c

/-- Blanks are taken from each part of a text. -/
theorem Text.withoutBlanks_append (front back : Text) :
    withoutBlanks (front ++ back) = withoutBlanks front ++ withoutBlanks back :=
  List.filter_append ..

/-- Nothing is left of a blank text. -/
theorem Text.withoutBlanks_of_isBlankText {text : Text} (blank : isBlankText text = true) :
    withoutBlanks text = [] :=
  List.filter_eq_nil_iff.2 fun c member => by simp [List.all_eq_true.1 blank c member]

/-- The text that a kind of node shows by itself. -/
def Kind.ownText : Kind → Text
  | text value => value
  | inlineCode value => value
  | code _ _ value => value
  | _ => []

/-- Whether a node of this kind is an image. -/
def Kind.isImage : Kind → Bool
  | image _ _ _ => true
  | _ => false

/-- Only leaves have text of their own. -/
theorem Kind.shows_of_not_isLiteral {kind : Kind} (plain : kind.isLiteral = false) :
    kind.ownText = [] ∧ kind.isImage = false := by
  cases kind with
  | _ => first | exact ⟨rfl, rfl⟩ | cases plain

namespace Node

mutual

/-- The text that a tree shows: the values of its texts and of its code in document order. The text
inside an image is not shown. -/
def shownText : Node → Text
  | ⟨kind, children, _, _⟩ =>
    kind.ownText ++ if kind.isImage then [] else shownTextList children

/-- The text that a list of trees shows. -/
def shownTextList : List Node → Text
  | [] => []
  | node :: rest => shownText node ++ shownTextList rest

end

/-- Whether a node of a literal kind is a leaf. An image may have children. -/
def IsLeafIfLiteral (node : Node) : Prop :=
  node.kind.isLiteral = true → node.kind.isImage = true ∨ node.children = []

instance : DecidablePred IsLeafIfLiteral := fun node =>
  inferInstanceAs (Decidable (node.kind.isLiteral = true → _))

/-- Whether a node has nothing to do with footnotes. -/
structure IsNoFootnote (node : Node) : Prop where
  noReference : ∀ label, node.kind ≠ .footnoteReference label
  noDefinition : ∀ label, node.kind ≠ .footnoteDefinition label

instance : DecidablePred IsNoFootnote := fun node =>
  decidable_of_iff ((∀ label, node.kind ≠ .footnoteReference label) ∧
      ∀ label, node.kind ≠ .footnoteDefinition label)
    ⟨fun ⟨noReference, noDefinition⟩ => ⟨noReference, noDefinition⟩,
      fun ⟨noReference, noDefinition⟩ => ⟨noReference, noDefinition⟩⟩

end Node

namespace Lowering

/-- Reads the text of an HTML tree without white space, through every element. -/
def textReading : Reading Char where
  read nodes := Text.withoutBlanks (Html.textContentList nodes)
  isOpen _ := True
  append front back := by rw [Html.textContentList_append, Text.withoutBlanks_append]
  blank value blank := by
    rw [Html.textContentList, Html.textContentList, List.append_nil]
    exact Text.withoutBlanks_of_isBlankText blank
  within tag children _ := by
    rw [Html.textContentList, Html.textContentList, List.append_nil]
    rfl
  frame _ _ := trivial

/-- The text of a leaf is that of its kind, with white space after it. -/
theorem read_leaf (options : LoweringOptions) {kind : Kind} (isLiteral : kind.isLiteral = true)
    (data : Annotations) :
    textReading.read (leaf options kind data) = Text.withoutBlanks kind.ownText := by
  have single : ∀ node : Html, textReading.read [node] = Text.withoutBlanks node.textContent :=
    fun node => congrArg Text.withoutBlanks (List.append_nil _)
  cases kind with
  | text value => exact single (.text value)
  | code language fence value =>
    have written : textReading.read [codeBlock language value data] =
        Text.withoutBlanks (if value.isEmpty then value else value ++ ['\n']) := by
      rw [single, codeBlock]
      simp only [Html.textContent, Html.textContentList, List.append_nil]
    refine written.trans ?_
    split
    · rfl
    · rw [Text.withoutBlanks_append]
      exact List.append_nil _
  | inlineCode value =>
    rw [leaf, single]
    exact congrArg Text.withoutBlanks (List.append_nil value)
  | html value =>
    rw [leaf]
    split <;> rfl
  | image url alt title => rfl
  | lineBreak => rfl
  | thematicBreak => rfl
  | footnoteDefinition label => rfl
  | _ => cases isLiteral

/-- A node is read as its own text, if it is a leaf or a table of rows. -/
theorem sees_text (options : LoweringOptions) {node : Node} (hasRows : node.HasRows) :
    textReading.Sees (fun node => Text.withoutBlanks node.kind.ownText) options node where
  opens _ _ _ := trivial
  leaf isLiteral := read_leaf options isLiteral node.data
  listed _ _ _ _ child _ isLiteral := read_leaf options isLiteral {}
  reference label kind := by
    rw [kind]
    rfl
  hasRows := hasRows

/-- The texts of the leaves of a document are the text that it shows, if no text is below a leaf. -/
theorem gatherList_ownText {nodes : List Node}
    (leaves : ∀ node ∈ Node.nodesBelow nodes, node.IsLeafIfLiteral)
    (lacks : ∀ node ∈ Node.nodesBelow nodes, node.IsNoFootnote) :
    gatherList (fun node => Text.withoutBlanks node.kind.ownText) nodes =
      Text.withoutBlanks (Node.shownTextList nodes) := by
  have all : (∀ tree : Node, (∀ node ∈ tree.nodes, node.IsLeafIfLiteral) →
        (∀ node ∈ tree.nodes, node.IsNoFootnote) →
        gather (fun node => Text.withoutBlanks node.kind.ownText) tree =
          Text.withoutBlanks tree.shownText) ∧
      ∀ nodes, (∀ node ∈ Node.nodesBelow nodes, node.IsLeafIfLiteral) →
        (∀ node ∈ Node.nodesBelow nodes, node.IsNoFootnote) →
        gatherList (fun node => Text.withoutBlanks node.kind.ownText) nodes =
          Text.withoutBlanks (Node.shownTextList nodes) := by
    refine Node.induction ?_ (fun _ _ => rfl) ?_
    · intro kind children data span below leaves lacks
      obtain ⟨leaf, leavesBelow⟩ := List.forall_mem_cons.1 leaves
      obtain ⟨plain, lacksBelow⟩ := List.forall_mem_cons.1 lacks
      rw [Node.shownText]
      cases literal : kind.isLiteral with
      | true =>
        have nothing : (if kind.isImage then [] else Node.shownTextList children) = [] := by
          split
          · rfl
          · rename_i other
            have empty : children = [] := (leaf literal).resolve_left other
            rw [empty]
            rfl
        rw [gather_of_isClosed (Kind.isClosed_of_isLiteral literal), nothing, List.append_nil]
      | false =>
        have isOpen : kind.isClosed = false := by
          cases kind with
          | footnoteReference label => exact absurd rfl (plain.noReference label)
          | _ => exact literal
        obtain ⟨none, noImage⟩ := Kind.shows_of_not_isLiteral literal
        rw [gather_of_not_isClosed isOpen, none, noImage, List.nil_append,
          if_neg Bool.false_ne_true]
        exact below leavesBelow lacksBelow
    · intro node rest own later leaves lacks
      obtain ⟨here, others⟩ := List.forall_mem_append.1 leaves
      obtain ⟨lacksHere, lacksOthers⟩ := List.forall_mem_append.1 lacks
      rw [gatherList, Node.shownTextList, own here lacksHere, later others lacksOthers,
        Text.withoutBlanks_append]
  exact all.2 nodes leaves lacks

/-- Apart from white space the text of a lowered document is the text that the document shows, in
order, nothing left out and nothing twice, whatever the annotations and the options are. -/
theorem textContent_lowerDocument (options : LoweringOptions) {tree : Node}
    (top : tree.kind.isLiteral = false)
    (leaves : ∀ node ∈ tree.descendants, node.IsLeafIfLiteral)
    (tables : ∀ node ∈ tree.descendants, node.HasRows)
    (footnotes : ∀ node ∈ tree.descendants, node.IsNoFootnote) :
    Text.withoutBlanks (lowerDocument options tree).textContent =
      Text.withoutBlanks tree.shownText := by
  have lacksDefinitions : LacksDefinitions tree.children := fun node member =>
    (footnotes node member).noDefinition
  have lacksReferences : ∀ node ∈ Node.nodesBelow tree.children,
      ∀ label, node.kind ≠ .footnoteReference label := fun node member =>
    (footnotes node member).noReference
  -- A rule that gives nothing for a reference does as well as any other.
  let silent : ReferenceRule Unit := fun _ _ => ([], ())
  have read : textReading.read (lowerList options silent tree.children ()).1 =
      gatherList (fun node => Text.withoutBlanks node.kind.ownText) tree.children :=
    read_lowerList (fun _ _ => rfl) (fun node member => sees_text options (tables node member)) ()
  have shown : tree.shownText = Node.shownTextList tree.children := by
    obtain ⟨kind, children, data, span⟩ := tree
    obtain ⟨own, noImage⟩ := Kind.shows_of_not_isLiteral top
    rw [Node.shownText, own, noImage]
    rfl
  rw [lowerDocument_of_lacksDefinitions options lacksDefinitions,
    lowerList_of_no_references options _ silent lacksReferences [] (), shown,
    ← gatherList_ownText leaves footnotes, ← read, ← textReading.read_separate]
  rfl

/-- A heading, a tight list with a task, code and a table with an image in it. -/
def mixedDocument : Node :=
  let task : Node := ⟨.listItem (some true), [.paragraph [.text "done ".toList]], {}, none⟩
  let picture : Node := ⟨.image "i.png".toList [] none, [.text "unseen".toList], {}, none⟩
  let row (isHead : Bool) (cell : List Node) : Node :=
    ⟨.tableRow isHead, [⟨.tableCell, cell, {}, none⟩], {}, none⟩
  { kind := .root, children :=
      [⟨.heading 1, [.text "To do".toList], { id := some "list".toList }, none⟩,
        ⟨.list false none false, [task], {}, none⟩,
        ⟨.code none none "a b".toList, [], {}, none⟩,
        ⟨.table [.left], [row true [.text "head".toList], row false [picture]], {}, none⟩] }

/-- A document with a task, a code block and a table keeps its text. -/
theorem textContent_lowerDocument_mixedDocument :
    Text.withoutBlanks (lowerDocument {} mixedDocument).textContent =
      "Tododoneabhead".toList := by
  have top : mixedDocument.kind.isLiteral = false := rfl
  refine (textContent_lowerDocument {} top ?_ ?_ ?_).trans (by decide)
  · decide
  · decide
  · decide

end Lowering

end Manuscript
