import Manuscript.Proofs.Document.Induction
import Manuscript.Proofs.Link.Address
import Mathlib.Data.List.Forall2

/-!
# Addresses and links of a document

The pass over bare links looks at the texts of a document that are in no link (`openTextList`). What
it makes of a document has, in the order of the document, the links that were there and one for each
address in these texts (`links_linkTexts`). That a pass leaves the addresses in place is counted for
each address by itself, together with those that the pass takes away (`Keeps`).
-/

namespace Manuscript

namespace Node

mutual

/-- The values of the texts of a node that are in no link. -/
def openTexts : Node → List Text
  | ⟨.text value, _, _, _⟩ => [value]
  | ⟨.link _ _, _, _, _⟩ => []
  | ⟨_, children, _, _⟩ => openTextList children

/-- The values of the texts of siblings that are in no link, in the order of the document. -/
def openTextList : List Node → List Text
  | [] => []
  | node :: rest => openTexts node ++ openTextList rest

end

/-- Whether a node is a link. -/
def isLink (node : Node) : Bool :=
  match node.kind with
  | .link _ _ => true
  | _ => false

/-- There are no texts among no nodes. -/
@[simp] theorem openTextList_nil : openTextList [] = [] :=
  rfl

/-- The prose of siblings is that of the first and then that of the others. -/
@[simp] theorem openTextList_cons (node : Node) (rest : List Node) :
    openTextList (node :: rest) = node.openTexts ++ openTextList rest :=
  rfl

/-- The prose of two lists is that of the one and then that of the other. -/
@[simp] theorem openTextList_append (front back : List Node) :
    openTextList (front ++ back) = openTextList front ++ openTextList back := by
  induction front with
  | nil => rfl
  | cons node rest ih => simp [ih]

/-- The prose of a text is its value. -/
theorem openTexts_of_kind {node : Node} {value : Text} (kind : node.kind = .text value) :
    node.openTexts = [value] := by
  obtain ⟨_, children, data, span⟩ := node
  cases kind
  rfl

/-- A link has no prose. -/
theorem openTexts_of_isLink {node : Node} (isLink : node.isLink = true) : node.openTexts = [] := by
  obtain ⟨kind, children, data, span⟩ := node
  cases kind with
  | link => rfl
  | _ => cases isLink

/-- The prose of any other node is that of its children. -/
theorem openTexts_of_other {node : Node} (noText : node.isText = false)
    (noLink : node.isLink = false) : node.openTexts = openTextList node.children := by
  obtain ⟨kind, children, data, span⟩ := node
  cases kind with
  | text value => cases noText
  | link => cases noLink
  | _ => rfl

/-- The prose of a node depends on its kind and on the prose of its children. -/
theorem openTexts_congr {node other : Node} (kind : other.kind = node.kind)
    (below : openTextList other.children = openTextList node.children) :
    other.openTexts = node.openTexts := by
  obtain ⟨own, children, data, span⟩ := node
  obtain ⟨_, children', data', span'⟩ := other
  cases kind
  cases own with
  | text value => rfl
  | link => rfl
  | _ => exact below

end Node

namespace BareLink

open Node (openTextList)

/-- The addresses in the prose of siblings. -/
def addressesOf (nodes : List Node) : List Text :=
  (openTextList nodes).flatMap addresses

/-- There are no addresses among no nodes. -/
@[simp] theorem addressesOf_nil : addressesOf [] = [] :=
  rfl

/-- The addresses of siblings are those of the first and then those of the others. -/
theorem addressesOf_cons (node : Node) (rest : List Node) :
    addressesOf (node :: rest) = addressesOf [node] ++ addressesOf rest := by
  simp [addressesOf]

/-- The addresses of two lists are those of the one and then those of the other. -/
@[simp] theorem addressesOf_append (front back : List Node) :
    addressesOf (front ++ back) = addressesOf front ++ addressesOf back := by
  simp [addressesOf]

/-- The addresses in the second part of a list are among those of the list. -/
theorem addressesOf_back (front back : List Node) :
    (addressesOf back).Sublist (addressesOf (front ++ back)) := by
  rw [addressesOf_append]
  exact List.sublist_append_right _ _

/-- The order of siblings does not change how often they have an address. -/
theorem count_addressesOf_reverse (url : Text) (nodes : List Node) :
    (addressesOf nodes.reverse).count url = (addressesOf nodes).count url := by
  induction nodes with
  | nil => rfl
  | cons node rest ih =>
    rw [List.reverse_cons, addressesOf_append, addressesOf_cons node rest, List.count_append,
      List.count_append, ih, Nat.add_comm]

/-- A text has the same addresses as a node or on its own. -/
theorem addressesOf_ofText (value : Text) : addressesOf (Node.ofText value) = addresses value := by
  rw [Node.ofText]
  split
  · rename_i empty
    rw [List.isEmpty_iff.1 empty, addresses_nil, addressesOf_nil]
  · simp [addressesOf, Node.text, Node.openTexts]

/-- The addresses of a text are those in its value. -/
theorem addressesOf_text {node : Node} {value : Text} (kind : node.kind = .text value) :
    addressesOf [node] = addresses value := by
  simp [addressesOf, Node.openTexts_of_kind kind]

/-- The addresses of a node that is no text and no link are those of its children. -/
theorem addressesOf_other {node : Node} (noText : node.isText = false)
    (noLink : node.isLink = false) : addressesOf [node] = addressesOf node.children := by
  simp [addressesOf, Node.openTexts_of_other noText noLink]

/-- A paragraph has the addresses of its children. -/
theorem addressesOf_paragraph {node : Node} (isParagraph : node.isParagraph = true) :
    addressesOf [node] = addressesOf node.children := by
  obtain ⟨kind, children, data, span⟩ := node
  cases of_decide_eq_true isParagraph
  exact addressesOf_other rfl rfl

/-! ## Passes that leave addresses in place -/

/-- Of the places of an address among siblings, each is one among others or is lost. -/
def Keeps (url : Text) (lost : List Text) (nodes others : List Node) : Prop :=
  (addressesOf nodes).count url ≤ (addressesOf others).count url + lost.count url

namespace Keeps

variable {url : Text} {lost lost' : List Text} {nodes others front front' back back' : List Node}
  {node other : Node} {rest rest' : List Node}

/-- Nodes that stay as they are keep the address. -/
theorem refl (nodes : List Node) : Keeps url [] nodes nodes :=
  Nat.le_refl _

/-- Nodes with the same prose keep the address. -/
theorem of_texts (same : openTextList nodes = openTextList others) : Keeps url [] nodes others := by
  rw [Keeps, addressesOf, addressesOf, same]
  exact Nat.le_refl _

/-- What is lost in two steps is what is lost in each of them. -/
theorem trans (once : Keeps url lost nodes others) (again : Keeps url lost' others rest) :
    Keeps url (lost ++ lost') nodes rest := by
  simp only [Keeps, List.count_append] at *
  omega

/-- What is lost in two lists is what is lost in each of them. -/
theorem append (before : Keeps url lost front front') (after : Keeps url lost' back back') :
    Keeps url (lost ++ lost') (front ++ back) (front' ++ back') := by
  simp only [Keeps, addressesOf_append, List.count_append] at *
  omega

/-- A node that becomes one node is looked at apart from the others. -/
theorem cons (own : Keeps url lost [node] [other]) (later : Keeps url lost' rest rest') :
    Keeps url (lost ++ lost') (node :: rest) (other :: rest') :=
  own.append later

/-- The order of siblings does not matter. -/
theorem reverse (keeps : Keeps url lost nodes.reverse others) :
    Keeps url lost nodes others.reverse := by
  rwa [Keeps, count_addressesOf_reverse, ← count_addressesOf_reverse url nodes]

/-- What becomes of the first node does not concern the others. -/
theorem head (own : Keeps url lost [node] others) (rest : List Node) :
    Keeps url lost (node :: rest) (others ++ rest) := by
  have whole := own.append (refl rest)
  rwa [List.append_nil] at whole

/-- Nothing is lost when the text of a node stays, or the node is a link. -/
theorem of_kind (same : other.kind = node.kind) (closed : node.isText = true ∨ node.isLink = true) :
    Keeps url [] [node] [other] := by
  refine of_texts ?_
  rcases closed with isText | isLink
  · obtain ⟨value, own⟩ := Option.isSome_iff_exists.1 isText
    have kind := Node.kind_of_textValue? own
    simp [Node.openTexts_of_kind kind, Node.openTexts_of_kind (same.trans kind)]
  · have isLink' : other.isLink = true := by rw [Node.isLink, same]; exact isLink
    simp [Node.openTexts_of_isLink isLink, Node.openTexts_of_isLink isLink']

/-- A node may be annotated. -/
theorem annotate (node : Node) (data : Annotations) : Keeps url [] [node] [{ node with data }] := by
  refine of_texts ?_
  have same : ({ node with data } : Node).openTexts = node.openTexts := Node.openTexts_congr rfl rfl
  rw [Node.openTextList_cons, Node.openTextList_cons, same]

/-- A text may be rewritten. -/
theorem reword {value left : Text} (kind : node.kind = .text value)
    (kind' : other.kind = .text left)
    (count : (addresses value).count url ≤ (addresses left).count url + lost.count url) :
    Keeps url lost [node] [other] := by
  rwa [Keeps, addressesOf_text kind, addressesOf_text kind']

/-- A text may be removed. -/
theorem emptied {value : Text} (kind : node.kind = .text value)
    (count : (addresses value).count url ≤ (addresses []).count url + lost.count url) :
    Keeps url lost [node] [] := by
  rwa [addresses_nil, ← addressesOf_nil, ← addressesOf_text kind] at count

/-- A node that is neither a text nor a link keeps what its children keep. -/
theorem inside (same : other.kind = node.kind)
    (below : Keeps url lost node.children other.children)
    (closed : node.isText = true ∨ node.isLink = true → lost = []) :
    Keeps url lost [node] [other] := by
  by_cases isClosed : node.isText = true ∨ node.isLink = true
  · rw [closed isClosed]
    exact of_kind same isClosed
  · obtain ⟨noText, noLink⟩ := not_or.1 isClosed
    rw [Bool.not_eq_true] at noText noLink
    have noText' : other.isText = false := by rw [Node.isText, Node.textValue?, same]; exact noText
    have noLink' : other.isLink = false := by rw [Node.isLink, same]; exact noLink
    rwa [Keeps, addressesOf_other noText noLink, addressesOf_other noText' noLink']

/-- What is kept without a loss is kept if more may be lost. -/
theorem widen (keeps : Keeps url [] nodes others) (lost : List Text) :
    Keeps url lost nodes others :=
  Nat.le_trans keeps (Nat.le_add_right _ _)

end Keeps

/-! ## Links -/

/-- A link of a document: where it leads, and its text if it is a single one. -/
structure Link where
  url : Text
  label? : Option Text
deriving DecidableEq

/-- The text of children that are nothing else. -/
def label? : List Node → Option Text
  | [node] => node.textValue?
  | _ => none

/-- Texts stand for no links. -/
def noLinks (_ : Text) : List Link :=
  []

/-- A text stands for the links that the pass makes for its addresses. -/
def madeLinks (value : Text) : List Link :=
  (addresses value).map fun url => ⟨url, some url⟩

mutual

/-- The links of a node, where a text outside links stands for some links itself. -/
def linksNode (own : Text → List Link) : Node → List Link
  | ⟨.text value, _, _, _⟩ => own value
  | ⟨.link url _, children, _, _⟩ => ⟨url, label? children⟩ :: linksList noLinks children
  | ⟨_, children, _, _⟩ => linksList own children

/-- The links of siblings, in the order of the document. -/
def linksList (own : Text → List Link) : List Node → List Link
  | [] => []
  | node :: rest => linksNode own node ++ linksList own rest

end

/-- The links of siblings are those of the first and then those of the others. -/
@[simp] theorem linksList_cons (own : Text → List Link) (node : Node) (rest : List Node) :
    linksList own (node :: rest) = linksNode own node ++ linksList own rest :=
  rfl

/-- The links of two lists are those of the one and then those of the other. -/
@[simp] theorem linksList_append (own : Text → List Link) (front back : List Node) :
    linksList own (front ++ back) = linksList own front ++ linksList own back := by
  induction front with
  | nil => rfl
  | cons node rest ih => simp [ih]

/-- There is no link in a text. -/
@[simp] theorem linksList_ofText (value : Text) : linksList noLinks (Node.ofText value) = [] := by
  rw [Node.ofText]
  split <;> rfl

/-- The links of the pieces that a text is cut into are those to its addresses. -/
theorem linksList_nodes? {value : Text} {node : Node} (kind : node.kind = .text value) :
    linksList noLinks ((nodes? value).getD [node]) = madeLinks value := by
  have cut := links_cutFrom [] value
  rw [nodes?]
  dsimp only
  split
  · rename_i none
    rw [List.isEmpty_iff.1 none] at cut
    obtain ⟨_, children, data, span⟩ := node
    cases kind
    rw [madeLinks, ← cut]
    rfl
  · rw [Option.getD_some, linksList_append, linksList_ofText, List.append_nil, madeLinks, ← cut]
    generalize (cutFrom [] value).links = links
    induction links with
    | nil => rfl
    | cons link rest ih =>
      rw [List.flatMap_cons, linksList_append, ih, linksList_append, linksList_ofText]
      rfl

/-- The pass makes links of the addresses in the prose and keeps the links that were there. -/
theorem links_linkTexts :
    (∀ tree : Node, tree.isText = false → tree.isLink = false →
      linksNode noLinks (linkTexts tree) = linksNode madeLinks tree) ∧
      ∀ nodes, linksList noLinks (linkTextList nodes) = linksList madeLinks nodes := by
  refine Node.induction ?_ rfl ?_
  · intro kind children data span below noText noLink
    cases kind with
    | text value => cases noText
    | link => cases noLink
    | _ => exact below
  · intro node rest own later
    obtain ⟨kind, children, data, span⟩ := node
    rw [linkTextList.eq_def]
    split
    · rename_i equal
      cases equal
    · rename_i value _ _ _ _ equal
      cases equal
      rw [linksList_append, later, linksList_nodes? rfl]
      rfl
    · rename_i equal
      cases equal
      rw [linksList_cons, later]
      rfl
    · rename_i node rest noText noLink equal
      cases equal
      have text : Node.isText ⟨kind, children, data, span⟩ = false := by
        cases kind with
        | text value => exact absurd rfl (noText value children data span)
        | _ => rfl
      have link : Node.isLink ⟨kind, children, data, span⟩ = false := by
        cases kind with
        | link url title => exact absurd rfl (noLink url title children data span)
        | _ => rfl
      rw [linksList_cons, later, own text link, linksList_cons]

end BareLink

end Manuscript
