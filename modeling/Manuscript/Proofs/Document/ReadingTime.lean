import Manuscript.Document.ReadingTime
import Manuscript.Proofs.Abbreviation.Content
import Manuscript.Proofs.Emoji.Catalogue
import Manuscript.Proofs.Link.Linking
import Manuscript.Proofs.Link.Rewording
import Manuscript.Proofs.Text.Word

/-!
# Reading time and the passes over prose

A pass that cuts a text into pieces keeps its words: a link and an abbreviation join the words that
they stand in, a line break is a gap like the line feed that it replaces, and an emoji is part of a
word like its shortcode. The estimate is the same before and after such a pass; only definitions of
abbreviations, which are removed, are not counted afterwards (`estimate_eq`).
-/

namespace Manuscript

open Text (SameWords)

/-! ## The prose of nodes -/

namespace Node

/-- The prose of two lists is that of the one and then that of the other. -/
theorem proseList_append (front back : List Node) :
    proseList (front ++ back) = proseList front ++ proseList back := by
  induction front with
  | nil => rfl
  | cons node rest ih => rw [List.cons_append, proseList, proseList, ih, List.append_assoc]

/-- The prose of a list of one node is that of the node. -/
theorem proseList_singleton (node : Node) : proseList [node] = node.prose :=
  List.append_nil _

/-- The prose of a text is its value. -/
theorem prose_of_kind {node : Node} {value : Text} (kind : node.kind = .text value) :
    node.prose = value := by
  obtain ⟨_, children, data, span⟩ := node
  cases kind
  rw [prose]

/-- The prose of the node for a text is the text, also if there is no node. -/
theorem proseList_ofText (value : Text) : proseList (ofText value) = value := by
  cases value with
  | nil => rfl
  | cons c rest => exact (List.append_nil _).trans (prose_of_kind rfl)

/-- A node has the same words if the nodes below it have. -/
theorem sameWords_prose (node : Node) {children : List Node}
    (below : SameWords (proseList children) (proseList node.children)) :
    SameWords ({ node with children } : Node).prose node.prose := by
  obtain ⟨kind, own, data, span⟩ := node
  cases kind with
  | text | code | inlineCode | html =>
    simp only [prose]
    exact .refl _
  | _ =>
    simp only [prose]
    exact below.append (.refl _)

/-- Replacing texts by nodes of the same words changes no words. -/
theorem sameWords_substituteTextList {replacement : Text → Node → Option (List Node)}
    (each : ∀ value node nodes, replacement value node = some nodes →
      SameWords (proseList nodes) value) (nodes : List Node) :
    SameWords (proseList (substituteTextList replacement nodes)) (proseList nodes) := by
  refine (induction
    (P := fun node => SameWords (proseList (substituteTextList replacement node.children))
      (proseList node.children))
    (Q := fun nodes => SameWords (proseList (substituteTextList replacement nodes))
      (proseList nodes))
    (fun _ _ _ _ below => below) (.refl _) ?_).2 nodes
  rintro ⟨kind, children, data, span⟩ rest below later
  cases kind with
  | text value =>
    rw [substituteTextList, proseList_append, proseList]
    refine SameWords.append ?_ later
    cases found : replacement value ⟨.text value, children, data, span⟩ with
    | none => exact .of_eq (List.append_nil _)
    | some nodes =>
      rw [Option.getD_some, prose_of_kind rfl]
      exact each value _ nodes found
  | _ => exact (sameWords_prose ⟨_, children, data, span⟩ below).append later

end Node

open Node (proseList)

/-! ## Links -/

namespace BareLink

/-- A text with links in it keeps its prose. -/
theorem proseList_nodesOf (links : List (Text × Text)) (tail : Text) :
    proseList (nodesOf ⟨links, tail⟩) = joined tail links := by
  induction links with
  | nil => rw [nodesOf_nil, Node.proseList_ofText, joined]
  | cons link later ih =>
    have own : (linkNode link.2).prose = link.2 := by
      simp [linkNode, Node.prose, proseList, Node.text, Kind.joinsWords]
    rw [nodesOf_cons, Node.proseList_append, Node.proseList_ofText, proseList, own, ih, joined]

/-- Links join the words that they stand in. -/
theorem Linked.sameWords {nodes others : List Node} (linked : Linked nodes others) :
    SameWords (proseList others) (proseList nodes) := by
  induction linked with
  | nil => exact .refl _
  | plain _ _ _ ih => exact (SameWords.refl _).append ih
  | cut kind cuts _ _ ih =>
    rw [Node.proseList_append, proseList_nodesOf, cuts.whole, proseList, Node.prose_of_kind kind]
    exact (SameWords.refl _).append ih
  | link _ _ ih => exact (SameWords.refl _).append ih
  | inside _ _ _ _ below later => exact (Node.sameWords_prose _ below).append later

end BareLink

/-! ## Line breaks -/

namespace LineBreak

/-- The blanks at the start of a line belong to the gap between two lines. -/
theorem sameWords_dropIndent (line : Text) :
    SameWords (' ' :: dropIndent line) ('\n' :: line) := by
  have split := List.takeWhile_append_dropWhile (p := fun c => c == ' ' || c == '\t') (l := line)
  have blank : Text.isBlankText ('\n' :: line.takeWhile fun c => c == ' ' || c == '\t') = true := by
    refine List.all_eq_true.2 (List.forall_mem_cons.2 ⟨by decide, fun c member => ?_⟩)
    have indent := List.all_eq_true.1 List.all_takeWhile c member
    rcases Bool.or_eq_true_iff.1 indent with same | same <;> rw [eq_of_beq same] <;> decide
  have gap := Text.sameWords_of_isBlankText (List.cons_ne_nil ' ' []) (by decide)
    (List.cons_ne_nil _ _) blank
  have whole := gap.append (SameWords.refl (dropIndent line))
  rwa [List.cons_append, List.cons_append, List.nil_append, dropIndent, split] at whole

/-- The lines of a text are its words, with a gap between each two. -/
theorem sameWords_lines (value : Text) :
    ∃ first lines, Text.splitOnChar '\n' value = first :: lines ∧
      SameWords (first ++ lines.flatMap fun line => ' ' :: dropIndent line) value := by
  induction value with
  | nil => exact ⟨[], [], rfl, .refl _⟩
  | cons c rest ih =>
    obtain ⟨first, lines, split, same⟩ := ih
    rw [Text.splitOnChar, split]
    by_cases feed : c = '\n'
    · subst feed
      refine ⟨[], first :: lines, if_pos rfl, ?_⟩
      rw [List.flatMap_cons, List.nil_append]
      exact ((sameWords_dropIndent first).append (.refl _)).trans
        ((SameWords.refl ['\n']).append same)
    · exact ⟨c :: first, lines, if_neg feed, (SameWords.refl [c]).append same⟩

/-- Line breaks in place of line ends leave the words of a text. -/
theorem sameWords_nodes (value : Text) :
    SameWords (proseList (nodes (Text.splitOnChar '\n' value))) value := by
  obtain ⟨first, lines, split, same⟩ := sameWords_lines value
  have later : proseList (lines.flatMap fun line =>
      { kind := .lineBreak } :: Node.ofText (dropIndent line)) =
        lines.flatMap fun line => ' ' :: dropIndent line := by
    clear split same
    induction lines with
    | nil => rfl
    | cons line rest ih =>
      rw [List.flatMap_cons, List.flatMap_cons, Node.proseList_append, ih, proseList,
        Node.proseList_ofText]
      rfl
  rwa [split, nodes, Node.proseList_append, Node.proseList_ofText, later]

end LineBreak

/-! ## Shortcodes -/

namespace Emoji

/-- An emoji that a shortcode stands for is written without white space. -/
theorem solid_of_ofShortcode? {name emoji : Text} (known : ofShortcode? name = some emoji) :
    emoji ≠ [] ∧ ∀ c ∈ emoji, Text.isBlank c = false := by
  obtain ⟨⟨nonempty, _⟩, parts, _⟩ := isSequence_iff.1 (valid_of_ofShortcode? known).1
  refine ⟨nonempty, fun c member => ?_⟩
  have part := parts c member
  rw [Entry.isSequenceChar, Bool.and_eq_true, Bool.not_eq_true'] at part
  exact part.2

end Emoji

namespace Shortcode

/-- What is written for a name is part of a word like the name between its colons. -/
theorem sameWords_image {name : Text} (isName : IsName name) :
    SameWords (image name) (':' :: (name ++ [':'])) := by
  rw [image]
  cases known : Emoji.ofShortcode? name with
  | none => exact .refl _
  | some emoji =>
    obtain ⟨nonempty, solid⟩ := Emoji.solid_of_ofShortcode? known
    have colon : Text.isBlank ':' = false := by decide
    have solidName : ∀ c ∈ name, Text.isBlank c = false := by
      refine fun c member => Bool.eq_false_iff.2 fun blank => ?_
      have part := isName.2 c member
      rw [not_isNameChar_of_isBlank blank] at part
      cases part
    refine Text.sameWords_of_solid nonempty solid (List.cons_ne_nil _ _) ?_
    refine List.forall_mem_cons.2 ⟨colon, List.forall_mem_append.2 ⟨solidName, ?_⟩⟩
    exact List.forall_mem_singleton.2 colon

/-- Shortcodes are replaced without a change to where words begin and end. -/
theorem Replaced.sameWords {before value out : Text} (replaced : Replaced before value out) :
    SameWords out value := by
  induction replaced with
  | nil => exact .refl _
  | name _ isName _ ih =>
    have whole := (sameWords_image isName).append ih
    simpa using whole
  | plain _ _ ih => exact (SameWords.refl [_]).append ih

/-- Replacing shortcodes keeps the number of words. -/
theorem sameWords_replace (value : Text) : SameWords (replace value) value :=
  (replaced_iff.2 rfl).sameWords

end Shortcode

/-! ## Abbreviations -/

namespace Abbreviation

/-- A text with abbreviations in it keeps its prose. -/
theorem proseList_nodesOf (tail : Text) (marks : List Mark) :
    proseList (nodesOf false tail marks) = textOf tail marks := by
  induction marks with
  | nil => exact Node.proseList_ofText tail
  | cons mark later ih =>
    have own : proseList (mark.written false) = mark.entry.name := by
      simp [Mark.written, Node.prose, proseList, Node.text, Kind.joinsWords]
    rw [nodesOf, Node.proseList_append, Node.proseList_append, Node.proseList_ofText, own, ih,
      textOf]

/-- Abbreviations join the words that they stand in. -/
theorem Splits.sameWords {defined : List Abbreviation} {nodes : List Node} {marks : List Mark}
    {result : Bool → List Node} (splits : Splits defined nodes marks result) :
    SameWords (proseList (result false)) (proseList nodes) := by
  induction splits with
  | nil => exact .refl _
  | kept _ _ ih => exact (SameWords.refl _).append ih
  | split kind isSplit _ _ ih =>
    rw [Node.proseList_append, proseList_nodesOf, isSplit.whole, proseList, Node.prose_of_kind kind]
    exact (SameWords.refl _).append ih
  | inside _ _ _ _ below later => exact (Node.sameWords_prose _ below).append later

end Abbreviation

/-! ## Documents -/

namespace ReadingTime

/-- Documents of the same words take the same time. -/
theorem estimate_congr {tree other : Node} (same : SameWords other.prose tree.prose) (rate : Nat) :
    estimate other rate = estimate tree rate := by
  rw [estimate, estimate, same.length_words_eq]

/-- The estimate for a document does not depend on whether its addresses are linked, its lines are
broken and its shortcodes are replaced, nor on whether its abbreviations are marked, except that
their definitions do not count then. -/
theorem estimate_eq (tree : Node) (rate : Nat) :
    estimate (BareLink.linkTexts tree) rate = estimate tree rate ∧
      estimate (LineBreak.breakLines tree) rate = estimate tree rate ∧
      estimate (Shortcode.replaceTexts tree) rate = estimate tree rate ∧
      ∃ defined left, Abbreviation.WithoutDefinitions tree.children defined left ∧
        estimate (Abbreviation.markDocument false tree) rate =
          estimate { tree with children := left } rate := by
  obtain ⟨kind, children, data, span⟩ := tree
  let tree : Node := ⟨kind, children, data, span⟩
  refine ⟨?_, ?_, ?_, ?_⟩
  · exact estimate_congr
      (Node.sameWords_prose tree (BareLink.linked_linkTextList children).sameWords) rate
  · refine estimate_congr
      (Node.sameWords_prose tree (Node.sameWords_substituteTextList ?_ children)) rate
    intro value _ nodes found
    obtain ⟨_, found⟩ := Option.ite_none_right_eq_some.1 found
    cases found
    exact LineBreak.sameWords_nodes value
  · refine estimate_congr
      (Node.sameWords_prose tree (Node.sameWords_substituteTextList ?_ children)) rate
    intro value _ nodes found
    obtain ⟨_, found⟩ := Option.ite_none_left_eq_some.1 found
    cases found
    rw [Node.proseList_singleton, Node.prose_of_kind rfl]
    exact Shortcode.sameWords_replace value
  · obtain ⟨marks, result, splits, marked, _, _⟩ := Abbreviation.marks_markUseList
      (fun _ => Abbreviation.isNamed_of_mem_ofDocument)
      (fun _ => Abbreviation.isLastDefinition_of_mem_ofDocument)
      (Abbreviation.removeDefinitionList children) []
    refine ⟨_, _, Abbreviation.withoutDefinitions_removeDefinitionList children, ?_⟩
    rw [Abbreviation.markDocument_eq, marked]
    exact estimate_congr (Node.sameWords_prose { tree with children := _ } splits.sameWords) rate

end ReadingTime

end Manuscript
