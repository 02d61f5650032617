import Manuscript.Proofs.Shortcode.Hidden

/-!
# Shortcodes of a document

Each text of a document that stands in no other text is replaced by what becomes of it, or stays if
that is the same (`Reworded`). So the shortcodes that are left in the document are those that were
hidden in these texts (`replaceTexts_leaves`). There are documents in which some are, as there are
names that no emoji has.
-/

namespace Manuscript

namespace Node

mutual

/-- The values of the texts of a node that stand in no other text. -/
def outerTexts : Node → List Text
  | ⟨.text value, _, _, _⟩ => [value]
  | ⟨_, children, _, _⟩ => outerTextList children

/-- The values of the texts of siblings that stand in no other text, in the order of the document.
-/
def outerTextList : List Node → List Text
  | [] => []
  | node :: rest => outerTexts node ++ outerTextList rest

end

/-- The outer text of a text is its value. -/
theorem outerTexts_of_kind {node : Node} {value : Text} (kind : node.kind = .text value) :
    node.outerTexts = [value] := by
  obtain ⟨_, children, data, span⟩ := node
  cases kind
  rfl

/-- The outer texts of any other node are those of its children. -/
theorem outerTexts_of_not_isText {node : Node} (noText : node.isText = false) :
    node.outerTexts = outerTextList node.children := by
  obtain ⟨kind, children, data, span⟩ := node
  cases kind with
  | text value => cases noText
  | _ => rfl

end Node

open Node (outerTextList)

namespace Shortcode

/-- What becomes of siblings when the shortcodes in their texts are replaced. -/
inductive Reworded : List Node → List Node → Prop
  | nil : Reworded [] []
  /-- A text in which nothing is replaced stays with all that belongs to it. -/
  | kept {node : Node} {value : Text} {rest others : List Node} (kind : node.kind = .text value)
      (same : Replaced [] value value) (later : Reworded rest others) :
      Reworded (node :: rest) (node :: others)
  /-- Any other text gives way to a new one. -/
  | text {node : Node} {value out : Text} {rest others : List Node} (kind : node.kind = .text value)
      (replaced : Replaced [] value out) (changed : out ≠ value) (later : Reworded rest others) :
      Reworded (node :: rest) (Node.text out :: others)
  /-- The texts below any other node are reworded. -/
  | inside {node : Node} {children rest others : List Node} (noText : node.isText = false)
      (below : Reworded node.children children) (later : Reworded rest others) :
      Reworded (node :: rest) ({ node with children } :: others)

/-- The replacement of a text, if it changes. -/
def substitute? (value : Text) (_ : Node) : Option (List Node) :=
  let replaced := replace value
  if replaced = value then none else some [Node.text replaced]

/-- Substituting texts rewords the siblings. -/
theorem reworded_substituteTextList (nodes : List Node) :
    Reworded nodes (Node.substituteTextList substitute? nodes) := by
  refine (Node.induction
    (P := fun node => Reworded node.children (Node.substituteTextList substitute? node.children))
    (Q := fun nodes => Reworded nodes (Node.substituteTextList substitute? nodes))
    (fun _ _ _ _ below => below) .nil ?_).2 nodes
  rintro ⟨kind, children, data, span⟩ rest below later
  cases kind with
  | text value =>
    have replaced : Replaced [] value (replace value) := replaced_iff.2 rfl
    rw [Node.substituteTextList, substitute?]
    by_cases same : replace value = value
    · rw [if_pos same]
      rw [same] at replaced
      exact .kept rfl replaced later
    · rw [if_neg same]
      exact .text rfl replaced same later
  | _ => exact .inside rfl below later

/-- Siblings are reworded in one way only, which is what the pass makes of them. -/
theorem Reworded.eq_substituteTextList {nodes others : List Node}
    (reworded : Reworded nodes others) : others = Node.substituteTextList substitute? nodes := by
  induction reworded with
  | nil => rfl
  | @kept node value _ _ kind same _ ih =>
    obtain ⟨_, children, data, span⟩ := node
    cases kind
    rw [Node.substituteTextList, substitute?, ← replaced_iff.1 same, if_pos rfl, ih]
    rfl
  | @text node value _ _ _ kind replaced changed _ ih =>
    obtain ⟨_, children, data, span⟩ := node
    cases kind
    rw [Node.substituteTextList, substitute?, ← replaced_iff.1 replaced, if_neg changed, ih]
    rfl
  | @inside node _ _ _ noText _ _ below ih =>
    obtain ⟨kind, children, data, span⟩ := node
    cases kind with
    | text value => cases noText
    | _ => rw [below, ih]; rfl

/-- The texts are those that were there, each with its shortcodes replaced. -/
theorem Reworded.outerTextList_eq {nodes others : List Node} (reworded : Reworded nodes others) :
    outerTextList others = (outerTextList nodes).map replace := by
  induction reworded with
  | nil => rfl
  | kept kind same _ ih =>
    rw [outerTextList, Node.outerTexts_of_kind kind, ih, outerTextList,
      Node.outerTexts_of_kind kind, List.map_append, List.map_singleton, ← replaced_iff.1 same]
  | text kind replaced _ _ ih =>
    rw [outerTextList, Node.outerTexts_of_kind rfl, ih, outerTextList, Node.outerTexts_of_kind kind,
      List.map_append, List.map_singleton, ← replaced_iff.1 replaced]
  | @inside node children _ _ noText _ _ below ih =>
    have noText' : ({ node with children } : Node).isText = false := noText
    rw [outerTextList, Node.outerTexts_of_not_isText noText', below, ih, outerTextList,
      Node.outerTexts_of_not_isText noText, List.map_append]

/-- A document becomes what it is with each text replaced that stands in no other one, and a text
becomes what it is with the names at free colons replaced. A shortcode is left in a text exactly if
it was hidden, and so one is left in the document exactly if a text hides one. -/
theorem replaceTexts_leaves (tree : Node) :
    (∀ other, other = replaceTexts tree ↔
      ∃ children, Reworded tree.children children ∧ other = { tree with children }) ∧
    outerTextList (replaceTexts tree).children = (outerTextList tree.children).map replace ∧
    (∀ text out, Replaced [] text out ↔ out = replace text) ∧
    (∀ text, HasShortcode (replace text) ↔ HidesShortcode [] text) ∧
    ((∃ text ∈ outerTextList (replaceTexts tree).children, HasShortcode text) ↔
      ∃ text ∈ outerTextList tree.children, HidesShortcode [] text) := by
  obtain ⟨kind, children, data, span⟩ := tree
  have reworded := reworded_substituteTextList children
  have texts : outerTextList (replaceTexts ⟨kind, children, data, span⟩).children =
      (outerTextList children).map replace := reworded.outerTextList_eq
  refine ⟨fun other => ⟨fun same => ⟨_, reworded, same⟩, ?_⟩, texts, fun text out => replaced_iff,
    fun text => hasShortcode_replace_iff, ?_⟩
  · rintro ⟨children', reworded', rfl⟩
    rw [reworded'.eq_substituteTextList]
    rfl
  · rw [texts]
    simp only [List.mem_map, exists_exists_and_eq_and, hasShortcode_replace_iff]

/-! ## A hidden shortcode -/

/-- A name that is longer than all names of a table together. -/
def longName (table : List (Text × Text)) : Text :=
  'a' :: List.replicate (table.map Prod.fst).flatten.length 'a'

/-- The long name is written as names are. -/
theorem isName_longName (table : List (Text × Text)) : IsName (longName table) := by
  refine ⟨List.cons_ne_nil _ _, List.forall_mem_cons.2 ⟨by decide, fun c member => ?_⟩⟩
  rw [List.eq_of_mem_replicate member]
  decide

/-- The long name is in no entry of the table, since it is longer than all of them. -/
theorem longName_notMem (table : List (Text × Text)) (emoji : Text) :
    (longName table, emoji) ∉ table := by
  intro listed
  have inside : longName table ∈ table.map Prod.fst := List.mem_map_of_mem listed
  have short := (List.sublist_flatten_of_mem inside).length_le
  rw [longName, List.length_cons, List.length_replicate] at short
  omega

/-- A name that no emoji has. To unfold it would be to count the characters of the whole table. -/
@[irreducible]
def unknownName : Text :=
  longName Emoji.shortcodeTable

/-- The unknown name is written as names are. -/
theorem isName_unknownName : IsName unknownName := by
  rw [unknownName]
  exact isName_longName _

/-- The unknown name is not known. -/
theorem not_isKnown_unknownName : ¬ IsKnown unknownName := by
  rintro ⟨emoji, known⟩
  rw [unknownName] at known
  exact longName_notMem _ emoji (Emoji.mem_shortcodeTable known)

/-- A name directly behind an unknown one, at the end of a text. -/
theorem replace_hidden {front other name : Text} (absent : ':' ∉ front) (isName : IsName other)
    (unknown : ¬ IsKnown other) (known : IsKnown name) :
    replace (front ++ ':' :: (other ++ ':' :: (name ++ [':']))) =
      front ++ ':' :: (other ++ ':' :: (name ++ [':'])) := by
  obtain ⟨known', _⟩ | ⟨_, same⟩ := image_cases other
  · exact absurd known' unknown
  · have last : replace [':'] = [':'] := rfl
    rw [replace_append absent, replace_name isName, same,
      replace_append (colon_notMem known.isName.2), last]
    simp

/-- A time of day with a name that no emoji has between its colons, and the name of an emoji
directly behind it. -/
@[irreducible]
def timedText : Text :=
  "at 10".toList ++ ':' :: (unknownName ++ ':' :: ("copyright".toList ++ [':']))

/-- A document of this text. -/
def timedDocument : Node :=
  { kind := .root, children := [Node.paragraph [Node.text timedText]] }

/-- The document stays as it is, with the shortcode in its text. -/
theorem timedDocument_keeps_shortcode :
    replaceTexts timedDocument = timedDocument ∧
      timedText ∈ outerTextList timedDocument.children ∧ HasShortcode timedText := by
  have known : IsKnown "copyright".toList := ⟨"©️".toList, by decide +kernel⟩
  have stays : replace timedText = timedText := by
    rw [timedText]
    exact replace_hidden (by decide) isName_unknownName not_isKnown_unknownName known
  refine ⟨?_, List.mem_singleton_self _, ?_⟩
  · simp [replaceTexts, timedDocument, Node.paragraph, Node.text, Node.substituteTexts,
      Node.substituteTextList, stays]
  · rw [timedText]
    refine ⟨"at 10".toList ++ ':' :: unknownName, "copyright".toList ++ [':'], ?_, ?_⟩
    · rw [List.append_assoc, List.cons_append]
    · exact ⟨"copyright".toList, [], rfl, known⟩

end Shortcode

end Manuscript
