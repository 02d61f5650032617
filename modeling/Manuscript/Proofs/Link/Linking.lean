import Manuscript.Proofs.Link.Keeping
import Manuscript.Proofs.Link.Token

/-!
# Linking the addresses of a document

The pass over bare links is said by what becomes of siblings (`Linked`): texts are cut at the
addresses of their tokens, links stay as they are, and any other node is gone through. Where texts
are leaves this keeps the text of the document and puts no link into another one, and a second run
changes nothing (`linkTexts_linked`). What kind of node the root is does not matter: only what is
below it is gone through, so that the text of a root that is a link is not left alone
(`rootLink_gets_link`).
-/

namespace Manuscript

namespace Node

mutual

/-- The links of a tree that stand inside another link of it. -/
def innerLinks : Node → List Node
  | ⟨.link _ _, children, _, _⟩ => (nodesBelow children).filter isLink
  | ⟨_, children, _, _⟩ => innerLinkList children

/-- The links of siblings and below them that stand inside another link there. -/
def innerLinkList : List Node → List Node
  | [] => []
  | node :: rest => innerLinks node ++ innerLinkList rest

end

/-- The links in two lists are those in the one and then those in the other. -/
theorem innerLinkList_append (front back : List Node) :
    innerLinkList (front ++ back) = innerLinkList front ++ innerLinkList back := by
  induction front with
  | nil => rfl
  | cons node rest ih => simp [innerLinkList, ih]

/-- A node that is no link has the inner links that are below it. -/
theorem innerLinks_of_other {node : Node} (noLink : node.isLink = false) :
    node.innerLinks = innerLinkList node.children := by
  obtain ⟨kind, children, data, span⟩ := node
  cases kind with
  | link => cases noLink
  | _ => rfl

end Node

namespace BareLink

open Node (innerLinkList)

/-! ## The nodes of a text that is cut -/

/-- The nodes for a text that is cut: the text before each address, a link with the address as
target and as text, and the text behind the last one. -/
def nodesOf (pieces : Pieces) : List Node :=
  pieces.links.flatMap (fun (lead, url) =>
    Node.ofText lead ++ [{ kind := .link url none, children := [Node.text url] }]) ++
      Node.ofText pieces.tail

/-- A text with an address in it is the text before it, a link, and the rest. -/
theorem nodesOf_cons (lead url : Text) (later : List (Text × Text)) (tail : Text) :
    nodesOf ⟨(lead, url) :: later, tail⟩ =
      Node.ofText lead ++ linkNode url :: nodesOf ⟨later, tail⟩ := by
  simp [nodesOf, linkNode]

/-- A text without an address is a text. -/
theorem nodesOf_nil (tail : Text) : nodesOf ⟨[], tail⟩ = Node.ofText tail := by
  simp [nodesOf]

/-- A text with links in it reads as before. -/
theorem plainTextList_nodesOf (links : List (Text × Text)) (tail : Text) :
    Node.plainTextList (nodesOf ⟨links, tail⟩) = joined tail links := by
  induction links with
  | nil => rw [nodesOf_nil, Node.plainTextList_ofText, joined]
  | cons link later ih =>
    have own : (linkNode link.2).plainText = link.2 := by
      simp [linkNode, Node.plainText, Node.plainTextList, Node.text]
    rw [nodesOf_cons, Node.plainTextList_append, Node.plainTextList_ofText, Node.plainTextList, own,
      ih, joined]

/-- There is no link inside another in a text. -/
theorem innerLinkList_ofText (value : Text) : innerLinkList (Node.ofText value) = [] := by
  rw [Node.ofText]
  split <;> rfl

/-- None of the links that are made is inside another. -/
theorem innerLinkList_nodesOf (links : List (Text × Text)) (tail : Text) :
    innerLinkList (nodesOf ⟨links, tail⟩) = [] := by
  induction links with
  | nil => rw [nodesOf_nil, innerLinkList_ofText]
  | cons link later ih =>
    rw [nodesOf_cons, Node.innerLinkList_append, innerLinkList_ofText, innerLinkList, ih]
    rfl

/-! ## Documents -/

/-- What becomes of siblings when the addresses in their texts are linked. -/
inductive Linked : List Node → List Node → Prop
  | nil : Linked [] []
  /-- A text without addresses stays. -/
  | plain {node : Node} {value : Text} {rest others : List Node} (kind : node.kind = .text value)
      (isPlain : IsPlain value) (later : Linked rest others) :
      Linked (node :: rest) (node :: others)
  /-- Any other text is cut at its addresses. -/
  | cut {node : Node} {value : Text} {pieces : Pieces} {rest others : List Node}
      (kind : node.kind = .text value) (cuts : Cuts pieces value) (addressed : ¬ IsPlain value)
      (later : Linked rest others) : Linked (node :: rest) (nodesOf pieces ++ others)
  /-- A link stays with all that is below it. -/
  | link {node : Node} {rest others : List Node} (isLink : node.isLink = true)
      (later : Linked rest others) : Linked (node :: rest) (node :: others)
  /-- The addresses below any other node are linked. -/
  | inside {node : Node} {children rest others : List Node} (noText : node.isText = false)
      (noLink : node.isLink = false) (below : Linked node.children children)
      (later : Linked rest others) : Linked (node :: rest) ({ node with children } :: others)

/-- A text is cut exactly when it is not plain. -/
theorem links_eq_nil_iff {pieces : Pieces} {value : Text} (cuts : Cuts pieces value) :
    pieces.links = [] ↔ IsPlain value := by
  constructor
  · intro none before url address
    have marks := (cuts.exact before url).2 address
    rw [none] at marks
    exact not_marks_nil marks
  · intro isPlain
    by_contra some
    obtain ⟨⟨lead, url⟩, later, whole⟩ := List.exists_cons_of_ne_nil some
    exact isPlain lead url ((cuts.exact lead url).1 ⟨[], lead, later, whole, rfl⟩)

/-- A text without addresses stays as it is. -/
theorem nodes?_of_isPlain {value : Text} (isPlain : IsPlain value) : nodes? value = none := by
  simp [nodes?, (links_eq_nil_iff (cuts_cutFrom value)).2 isPlain]

/-- A text with addresses is cut at each of them. -/
theorem nodes?_of_not_isPlain {value : Text} (addressed : ¬ IsPlain value) :
    nodes? value = some (nodesOf (cutFrom [] value)) := by
  have some : (cutFrom [] value).links ≠ [] :=
    fun none => addressed ((links_eq_nil_iff (cuts_cutFrom value)).1 none)
  simp [nodes?, some, nodesOf, linkNode]

section

variable {node : Node} {rest : List Node}

/-- A text among siblings is cut at its addresses. -/
theorem linkTextList_text {value : Text} (kind : node.kind = .text value) :
    linkTextList (node :: rest) = (nodes? value).getD [node] ++ linkTextList rest := by
  obtain ⟨_, children, data, span⟩ := node
  cases kind
  rw [linkTextList]

/-- A link among siblings stays as it is. -/
theorem linkTextList_link (isLink : node.isLink = true) :
    linkTextList (node :: rest) = node :: linkTextList rest := by
  obtain ⟨kind, children, data, span⟩ := node
  cases kind with
  | link url title => rw [linkTextList]
  | _ => cases isLink

/-- In any other sibling the children are linked. -/
theorem linkTextList_other (noText : node.isText = false) (noLink : node.isLink = false) :
    linkTextList (node :: rest) =
      { node with children := linkTextList node.children } :: linkTextList rest := by
  obtain ⟨kind, children, data, span⟩ := node
  cases kind with
  | text value => cases noText
  | link url title => cases noLink
  | _ => rfl

end

/-- The addresses in a list of siblings are linked. -/
theorem linked_linkTextList (nodes : List Node) : Linked nodes (linkTextList nodes) := by
  refine (Node.induction (P := fun node => Linked node.children (linkTextList node.children))
    (Q := fun nodes => Linked nodes (linkTextList nodes))
    (fun _ _ _ _ below => below) .nil ?_).2 nodes
  intro node rest below later
  cases isText : node.isText with
  | true =>
    obtain ⟨value, own⟩ := Option.isSome_iff_exists.1 isText
    have kind := Node.kind_of_textValue? own
    rw [linkTextList_text kind]
    by_cases isPlain : IsPlain value
    · rw [nodes?_of_isPlain isPlain]
      exact .plain kind isPlain later
    · rw [nodes?_of_not_isPlain isPlain]
      exact .cut kind (cuts_cutFrom value) isPlain later
  | false =>
    cases isLink : node.isLink with
    | true =>
      rw [linkTextList_link isLink]
      exact .link isLink later
    | false =>
      rw [linkTextList_other isText isLink]
      exact .inside isText isLink below later

namespace Linked

variable {nodes others : List Node}

/-- Linking addresses keeps the text of siblings, if texts are leaves. -/
theorem plainTextList_eq (linked : Linked nodes others) (leaves : Node.TextLeaves nodes) :
    Node.plainTextList others = Node.plainTextList nodes := by
  induction linked with
  | nil => rfl
  | plain _ _ _ ih | link _ _ ih =>
    rw [Node.plainTextList, ih (Node.textLeaves_cons.1 leaves).2, Node.plainTextList]
  | @cut node value pieces _ _ kind cuts _ _ ih =>
    obtain ⟨first, others⟩ := Node.textLeaves_cons.1 leaves
    have leaf := (Node.textLeaves_singleton.1 first).1 (Node.isText_of_kind kind)
    rw [Node.plainTextList_append, plainTextList_nodesOf, cuts.whole, ih others, Node.plainTextList,
      Node.plainText_of_kind kind, leaf, Node.plainTextList, List.append_nil]
  | @inside node children _ _ noText _ _ _ ihBelow ihLater =>
    obtain ⟨first, others⟩ := Node.textLeaves_cons.1 leaves
    have inner := ihBelow (Node.textLeaves_singleton.1 first).2
    have same : ({ node with children } : Node).plainText = Node.plainTextList children :=
      Node.plainText_of_not_isText noText
    rw [Node.plainTextList, Node.plainTextList, ihLater others, same, inner,
      Node.plainText_of_not_isText noText]

/-- Linking addresses puts no link into another one, if texts are leaves. -/
theorem innerLinkList_eq (linked : Linked nodes others) (leaves : Node.TextLeaves nodes) :
    innerLinkList others = innerLinkList nodes := by
  induction linked with
  | nil => rfl
  | plain _ _ _ ih | link _ _ ih =>
    rw [innerLinkList, ih (Node.textLeaves_cons.1 leaves).2, innerLinkList]
  | @cut node value pieces _ _ kind _ _ _ ih =>
    obtain ⟨first, others⟩ := Node.textLeaves_cons.1 leaves
    have leaf := (Node.textLeaves_singleton.1 first).1 (Node.isText_of_kind kind)
    have noLink : node.isLink = false := by simp [Node.isLink, kind]
    rw [Node.innerLinkList_append, innerLinkList_nodesOf, ih others, innerLinkList,
      Node.innerLinks_of_other noLink, leaf]
    rfl
  | @inside node children _ _ _ noLink _ _ ihBelow ihLater =>
    obtain ⟨first, others⟩ := Node.textLeaves_cons.1 leaves
    have inner := ihBelow (Node.textLeaves_singleton.1 first).2
    have same : ({ node with children } : Node).innerLinks = innerLinkList children :=
      Node.innerLinks_of_other noLink
    rw [innerLinkList, innerLinkList, ihLater others, same, inner, Node.innerLinks_of_other noLink]

end Linked

/-! ## A second run -/

/-- A plain piece of a text stays. -/
theorem linkTextList_ofText {value : Text} (isPlain : IsPlain value) (rest : List Node) :
    linkTextList (Node.ofText value ++ rest) = Node.ofText value ++ linkTextList rest := by
  rw [Node.ofText]
  split
  · rfl
  · rw [List.singleton_append, linkTextList_text rfl, nodes?_of_isPlain isPlain]
    rfl

/-- What a text is cut into stays. -/
theorem linkTextList_nodesOf {pieces : Pieces} (plain : ∀ link ∈ pieces.links, IsPlain link.1)
    (plainTail : IsPlain pieces.tail) (rest : List Node) :
    linkTextList (nodesOf pieces ++ rest) = nodesOf pieces ++ linkTextList rest := by
  obtain ⟨links, tail⟩ := pieces
  dsimp only at plain plainTail
  induction links with
  | nil =>
    rw [nodesOf_nil]
    exact linkTextList_ofText plainTail rest
  | cons link later ih =>
    obtain ⟨first, others⟩ := List.forall_mem_cons.1 plain
    have isLink : (linkNode link.2).isLink = true := rfl
    rw [nodesOf_cons, List.append_assoc, List.cons_append, linkTextList_ofText first,
      linkTextList_link isLink, ih others, List.append_assoc, List.cons_append]

/-- Linking the addresses again changes nothing. -/
theorem Linked.linkTextList_eq {nodes others : List Node} (linked : Linked nodes others) :
    linkTextList others = others := by
  induction linked with
  | nil => rfl
  | plain kind isPlain _ ih =>
    rw [linkTextList_text kind, nodes?_of_isPlain isPlain, ih]
    rfl
  | cut _ cuts _ _ ih => rw [linkTextList_nodesOf cuts.plain cuts.plainTail, ih]
  | link isLink _ ih => rw [linkTextList_link isLink, ih]
  | @inside node children _ _ noText noLink _ _ ihBelow ihLater =>
    have same {rest : List Node} := @linkTextList_other { node with children } rest noText noLink
    rw [same, ihBelow, ihLater]

/-- The addresses of the tokens below the root of a document are linked where they are in no link,
and exactly these. The text of the document stays the same, no link is put into another one, and
linking again changes nothing. -/
theorem linkTexts_linked (tree : Node) (leaves : Node.TextLeaves tree.children) :
    ∃ children, Linked tree.children children ∧ linkTexts tree = { tree with children } ∧
      (linkTexts tree).plainText = tree.plainText ∧
        innerLinkList children = innerLinkList tree.children ∧
          linkTexts (linkTexts tree) = linkTexts tree := by
  have linked := linked_linkTextList tree.children
  have whole : linkTexts tree = { tree with children := linkTextList tree.children } := by
    obtain ⟨kind, children, data, span⟩ := tree
    rfl
  refine ⟨_, linked, whole, ?_, linked.innerLinkList_eq leaves, ?_⟩
  · have same := linked.plainTextList_eq leaves
    obtain ⟨kind, children, data, span⟩ := tree
    cases kind with
    | text value => exact congrArg (value ++ ·) same
    | _ => exact same
  · rw [whole]
    obtain ⟨kind, children, data, span⟩ := tree
    exact congrArg (Node.mk kind · data span) linked.linkTextList_eq

/-- A document with an address in parentheses at the end of a sentence, and another one in a link.
-/
def parenthesizedDocument : Node :=
  { kind := .root
    children :=
      [ Node.paragraph
          [ Node.text "(see https://a.test/Rust_(language)).".toList,
            { kind := .link "u".toList none, children := [Node.text "https://b.test".toList] } ] ] }

/-- Linking the addresses of a document leaves its text as it is. -/
theorem linkTexts_linked_parenthesizedDocument :
    Node.TextLeaves parenthesizedDocument.children ∧
      ∃ children, Linked parenthesizedDocument.children children ∧
        linkTexts parenthesizedDocument = { parenthesizedDocument with children } ∧
          (linkTexts parenthesizedDocument).plainText = parenthesizedDocument.plainText ∧
            innerLinkList children = innerLinkList parenthesizedDocument.children ∧
              linkTexts (linkTexts parenthesizedDocument) = linkTexts parenthesizedDocument :=
  have leaves : Node.TextLeaves parenthesizedDocument.children := by
    rw [Node.TextLeaves]
    decide
  ⟨leaves, linkTexts_linked parenthesizedDocument leaves⟩

/-- A root that is a link itself, with an address as its text. -/
def rootLink : Node :=
  { kind := .link "u".toList none, children := [Node.text "https://a.test".toList] }

/-- The text of a root that is a link gets a link, so that there is a link inside another one. -/
theorem rootLink_gets_link :
    Node.TextLeaves [rootLink] ∧ innerLinkList [rootLink] = [] ∧
      (innerLinkList [linkTexts rootLink]).map Node.kind =
        [.link "https://a.test".toList none] := by
  refine ⟨?_, rfl, ?_⟩
  · rw [Node.TextLeaves]
    decide
  · decide +kernel

end BareLink

end Manuscript
