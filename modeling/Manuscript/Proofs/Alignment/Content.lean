import Manuscript.Proofs.Alignment.Trim

/-!
# The pass over aligned blocks keeps the content

When the wrappers that the pass made are dissolved, the document has the nodes that it had, apart
from texts and paragraphs, and its text has lost nothing but the tags of the ranges and what
`Deletes` lets go with them (`alignDocument_keeps_content`). A step trims the siblings that it comes
to (`Range.TakenFrom.trimmed`, `Trimmed.kept`), and by induction along the walk they are trimmed as
a whole (`trimmed_dissolve`).
-/

namespace Manuscript.Alignment

/-- A document after the pass with the wrappers that it made dissolved. -/
def dissolveDocument (source : Text) (tree : Node) : Node :=
  { tree with children := dissolve source tree.children }

/-- The texts of the paragraphs among nodes have nothing below them. -/
def PlainParagraphs (nodes : List Node) : Prop :=
  ∀ node ∈ nodes, node.isParagraph = true → LeafTexts node.children

variable {source : Text} {paragraphs : List Node}

/-- Taking the tags from a range trims its blocks. -/
theorem Range.TakenFrom.trimmed {range : Range} {taken : List Node} (from' : range.TakenFrom taken)
    (members : taken ⊆ paragraphs) (plain : PlainParagraphs paragraphs) :
    Trimmed paragraphs range.tags taken range.inner := by
  rw [Range.inner, Range.tags]
  cases from' with
  | @one only block met opens closes beside beside' blocks =>
    have member := members List.mem_cons_self
    have isParagraph := met.isParagraph.symm.trans opens.isParagraph
    rw [blocks]
    exact trimmed_dropBoth member (plain only member isParagraph) met opens closes beside beside'
  | @several first first' last last' between between' opens met amid met' closes blocks =>
    have member : first ∈ paragraphs := members (by simp)
    have member' : last ∈ paragraphs := members (by simp)
    have isParagraph := met'.isParagraph.symm.trans closes.isParagraph
    have opened := trimmed_dropOpening member (plain first member opens.isParagraph) opens met
    have closed := trimmed_dropClosing member' (plain last member' isParagraph) met' closes
    rw [blocks, dropBoth_append]
    exact (opened.append (.of_met amid)).append closed

/-- The walk trims siblings that have been met. -/
theorem trimmed_dissolve (plain : PlainParagraphs paragraphs) {nodes originals : List Node}
    (met : List.Forall₂ Met originals nodes) (members : Node.nodesBelow originals ⊆ paragraphs) :
    Trimmed paragraphs (tags source nodes) originals (dissolve source nodes) := by
  induction nodes using visit.induct source generalizing originals with
  | case1 =>
    cases met
    rw [tags, ranges, dissolve, rebuild, visit, visit]
    exact .nil
  | case2 block rest range after found later =>
    obtain ⟨taken, others, rfl, from', metOthers⟩ := taken_of_range found met
    have inTree : taken ⊆ paragraphs := fun node member =>
      members (Node.subset_nodesBelow _ (List.mem_append_left others member))
    have trimmed := from'.trimmed inTree plain
    rw [← range.skipped_append_remaining after] at metOthers
    obtain ⟨skipped, remaining, rfl, metSkipped, metRemaining⟩ := split_forall₂ metOthers
    rw [Node.nodesBelow_append, Node.nodesBelow_append] at members
    obtain ⟨_, membersOthers⟩ := List.append_subset.1 members
    obtain ⟨_, membersRemaining⟩ := List.append_subset.1 membersOthers
    have remains := later metRemaining membersRemaining
    rw [tags, ranges_of_range found, List.flatMap_cons, dissolve_of_range found]
    exact trimmed.append ((Trimmed.of_met metSkipped).append remains)
  | case3 block rest kept left found below later =>
    obtain ⟨metBlock, metLeft⟩ := outcome_kept found
    cases met with
    | @cons original _ others _ own metRest =>
      have metKept := own.trans metBlock
      rw [← List.singleton_append, Node.nodesBelow_append, Node.nodesBelow_singleton] at members
      obtain ⟨membersOwn, membersOthers⟩ := List.append_subset.1 members
      have inside := below metKept.children (List.cons_subset.1 membersOwn).2
      have beside := later (forall₂_trans metRest metLeft Met.trans) membersOthers
      rw [tags, ranges_of_kept found, List.flatMap_append, dissolve_of_kept found]
      exact (Trimmed.kept metKept inside).append beside

/-- The pass over a document puts what is left of each range that it finds into a wrapper, if
anything is left. -/
theorem alignDocument_eq_rebuild (options : AlignOptions) (source : Text) (tree : Node) :
    alignDocument options source tree =
      { tree with
        children := rebuild (fun range => if range.inner.isEmpty then [] else
          [Node.container "div".toList (classes options range.opening range.closing) range.inner])
          source tree.children } := by
  have wrappers : (fun range : Range => (range.wrapper? options).toList) = fun range =>
      if range.inner.isEmpty then [] else [Node.container "div".toList
        (classes options range.opening range.closing) range.inner] := by
    funext range
    rw [range.wrapper?_eq]
    split <;> rfl
  rw [alignDocument, alignList_eq_rebuild, wrappers]

/-- Apart from the wrappers that the pass makes, it loses, doubles and moves nothing. It puts what
is left of each range into a wrapper, if anything is. When the wrappers are dissolved, the nodes
that are neither texts nor paragraphs are those of the tree, in their order, and from the text no
more has gone than the tags of the ranges, the backslash before a tag, and paragraphs that were
blank apart from the tags. -/
theorem alignDocument_keeps_content (options : AlignOptions) (source : Text) (tree : Node)
    (plain : PlainParagraphs tree.nodes) :
    alignDocument options source tree =
        { tree with
          children := rebuild (fun range => if range.inner.isEmpty then [] else
            [Node.container "div".toList (classes options range.opening range.closing) range.inner])
            source tree.children } ∧
      frame [dissolveDocument source tree] = frame [tree] ∧
      Deletes tree.nodes (tags source tree.children) tree.plainText
        (dissolveDocument source tree).plainText := by
  have met : List.Forall₂ Met tree.children tree.children :=
    List.forall₂_same.2 fun node _ => .refl node
  have members : Node.nodesBelow tree.children ⊆ tree.nodes := by
    rw [Node.nodes_eq]
    exact List.subset_cons_self tree _
  have trimmed : Trimmed tree.nodes (tags source tree.children) [tree]
      [dissolveDocument source tree] :=
    .keep (trimmed_dissolve plain met members)
  refine ⟨alignDocument_eq_rebuild options source tree, trimmed.frame_eq.symm, ?_⟩
  have deletes := trimmed.deletes
  rwa [Node.plainTextList_singleton, Node.plainTextList_singleton] at deletes

/-- A paragraph between an opening and a closing tag; there may be nodes below the text with the
opening tag. -/
def centered (below : List Node) : Node where
  kind := .root
  children := [Node.paragraph [{ kind := .text "[center]".toList, children := below }],
    Node.paragraph [Node.text "x".toList], Node.paragraph [Node.text "[/center]".toList]]

/-- The range in such a document. -/
def centeredRange (below : List Node) : Range where
  opening := ⟨⟨.center, .stacked, false⟩, true⟩
  closing := ⟨⟨.center, .stacked, true⟩, true⟩
  blocks := (centered below).children

/-- A centered paragraph that is nothing but tags is a range of its own. -/
theorem outcome_centered (below : List Node) :
    outcome [] (Node.paragraph [{ kind := .text "[center]".toList, children := below }])
      [Node.paragraph [Node.text "x".toList], Node.paragraph [Node.text "[/center]".toList]] =
      .range (centeredRange below) [] :=
  rfl

/-- Nothing is left of the centered paragraph, and the one after it stays. -/
theorem dissolveDocument_centered (below : List Node) :
    dissolveDocument [] (centered below) =
      { kind := .root, children := [Node.paragraph [Node.text "x".toList]] } := by
  have alone : dissolve [] (centered below).children = [Node.paragraph [Node.text "x".toList]] := by
    rw [centered, dissolve_of_range (outcome_centered below), dissolve, rebuild,
      show (centeredRange below).remaining [] = [] from rfl, visit]
    rfl
  rw [dissolveDocument, alone]
  rfl

/-- The document without nodes below its texts keeps its content. -/
theorem centered_keeps_content :
    PlainParagraphs (centered []).nodes ∧
      frame [dissolveDocument [] (centered [])] = frame [centered []] ∧
      Deletes (centered []).nodes [⟨.center, .stacked, false⟩, ⟨.center, .stacked, true⟩]
        "[center]x[/center]".toList "x".toList := by
  have plain : PlainParagraphs (centered []).nodes := by
    simp [PlainParagraphs, LeafTexts, centered, Node.paragraph, Node.text, Node.nodes,
      Node.nodesBelow, Node.isParagraph]
  have tagged : tags [] (centered []).children =
      [⟨.center, .stacked, false⟩, ⟨.center, .stacked, true⟩] := by
    rw [tags, centered, ranges_of_range (outcome_centered []), ranges,
      show (centeredRange []).remaining [] = [] from rfl, visit]
    rfl
  obtain ⟨_, frames, deletes⟩ := alignDocument_keeps_content {} [] (centered []) plain
  rw [tagged, dissolveDocument_centered] at deletes
  exact ⟨plain, frames, deletes⟩

/-- A node below a text that holds nothing but a tag goes with the tag. -/
theorem emphasis_below_tag_is_lost :
    frame [dissolveDocument [] (centered [{ kind := .emphasis }])] ≠
      frame [centered [{ kind := .emphasis }]] := by
  rw [dissolveDocument_centered]
  intro same
  cases congrArg List.length same

end Manuscript.Alignment
