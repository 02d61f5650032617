import Manuscript.Proofs.Document.Edit
import Mathlib.Data.List.Basic

/-!
# The pass over attribute blocks as an edit

A block that is attached disappears from the texts or with its paragraph, and its attributes become
annotations. So the pass makes nothing but edits (`edited_attachDocument`), and the attributes that
it adds have names that a block may give.
-/

namespace Manuscript

namespace AttributeBlock

open Node (Edited)

variable {allowed : Bool}

/-- A block that is put on a node annotates it. -/
theorem IsNamed.annotated {block : AttributeBlock} (named : block.IsNamed) (allowed : Bool)
    (data : Annotations) :
    Annotated allowed data ((block.filterHandlers allowed).apply data) := by
  refine ⟨rfl, fun pair member => (Pairs.mem_setAll member).imp_right fun given => ?_⟩
  obtain ⟨other, inBlock, same⟩ := List.mem_map.1 given
  rw [← same]
  exact named.filterHandlers allowed other inBlock

/-- A block that is put on a code block annotates it. -/
theorem IsNamed.annotatedCode {block : AttributeBlock} (named : block.IsNamed) (allowed : Bool)
    (data : Annotations) :
    Annotated allowed data ((block.filterHandlers allowed).applyToCode data) := by
  refine ⟨rfl, fun pair member => ?_⟩
  rcases List.mem_append.1 member with old | new
  · exact .inl (List.mem_map_of_mem old)
  · exact .inr (named.filterHandlers allowed pair new)

/-- Giving an inline node the block after it is an edit. -/
theorem edited_attachInline (node : Node) (rest : List Node) :
    Edited allowed (node :: rest)
      ((attachInline allowed node rest).1 :: (attachInline allowed node rest).2) := by
  unfold attachInline
  split
  · rename_i value children data span rest
    split
    · rename_i block after read
      have annotated := (isNamed_of_read? read).annotated allowed node.data
      split
      · exact (Edited.annotate annotated).cons ((Edited.removeText rfl).tail rest)
      · exact (Edited.annotate annotated).cons
          ((Edited.rewordText value after children data span).cons (.same rest))
    · exact .same _
  · exact .same _

/-- The block at the end of a title is one that is read. -/
theorem isNamed_of_trailing? {value title : Text} {block : AttributeBlock}
    (found : trailing? value = some (title, block)) : block.IsNamed := by
  have ofOpening : ∀ opening : Text,
      ((Text.splitLast? opening value).bind fun parts =>
        (read? (opening ++ parts.2)).bind fun result =>
          (guard (result.2.isEmpty = true) : Option Unit).bind fun _ =>
            some (Text.trimEnd parts.1, result.1)) = some (title, block) → block.IsNamed := by
    intro opening found
    obtain ⟨_, _, found⟩ := Option.bind_eq_some_iff.1 found
    obtain ⟨_, read, found⟩ := Option.bind_eq_some_iff.1 found
    obtain ⟨_, _, same⟩ := Option.bind_eq_some_iff.1 found
    cases same
    exact isNamed_of_read? read
  unfold trailing? at found
  by_cases braces : Text.endsWith ['\x7d'] value = true
  · rw [if_pos braces] at found
    exact ofOpening _ found
  · rw [if_neg braces] at found
    by_cases brackets : Text.endsWith [']', ']'] value = true
    · rw [if_pos brackets] at found
      exact ofOpening _ found
    · rw [if_neg brackets] at found
      cases found

/-- Giving a heading the block at its end is an edit. -/
theorem edited_attachHeading (source : Text) (heading : Node) :
    Edited allowed [heading] [attachHeading allowed source heading] := by
  unfold attachHeading
  split
  · exact .same _
  · split
    · rename_i value children data span last
      have whole := List.dropLast_append_getLast? _ last
      split
      · rename_i title block found
        have annotated := (isNamed_of_trailing? found).annotated allowed heading.data
        dsimp only
        split
        · have titled : Edited allowed heading.children
              (heading.children.dropLast ++ [⟨.text title, children, data, span⟩]) := by
            conv => arg 2; rw [← whole]
            exact .append (.same _) (.rewordText value title children data span)
          exact (Edited.inside titled).trans (.annotate annotated)
        · split
          · exact .same _
          · have bare : Edited allowed heading.children heading.children.dropLast := by
              conv => arg 2; rw [← whole]
              conv => arg 3; rw [← List.append_nil heading.children.dropLast]
              exact .append (.same _) (.removeText rfl)
            exact (Edited.inside bare).trans (.annotate annotated)
      · exact .same _
    · exact .same _

/-- Giving a heading the block in the paragraph after it is an edit. -/
theorem edited_attachNextLine (heading : Node) (rest : List Node) :
    Edited allowed (heading :: rest)
      ((attachNextLine allowed heading rest).1 :: (attachNextLine allowed heading rest).2) := by
  unfold attachNextLine
  split
  · rename_i value children data span data' span' rest
    split
    · rename_i block after read
      have annotated := (isNamed_of_read? read).annotated allowed heading.data
      split
      · refine (Edited.annotate annotated).cons ?_
        have gone : Edited allowed
            [⟨.paragraph, [⟨.text value, children, data, span⟩], data', span'⟩] [] :=
          .remove rfl fun child member => (List.mem_singleton.1 member) ▸ rfl
        exact gone.tail rest
      · exact .same _
    · exact .same _
  · exact .same _

/-- Giving a code block the block on its fence line is an edit. -/
theorem edited_attachCode (node : Node) : Edited allowed [node] [attachCode allowed node] := by
  unfold attachCode
  split
  · split
    · rename_i read
      exact .annotate ((isNamed_of_read? read).annotatedCode allowed node.data)
    · exact .same _
  · exact .same _

/-- Giving a node the block that belongs to it is an edit. -/
theorem edited_attach (source : Text) (node : Node) (rest : List Node) :
    Edited allowed (node :: rest)
      ((attach allowed source node rest).1 :: (attach allowed source node rest).2) := by
  unfold attach
  split
  · exact ((edited_attachHeading source node).cons (.same rest)).trans
      (edited_attachNextLine _ rest)
  · exact (edited_attachCode node).cons (.same rest)
  · split
    · exact edited_attachInline node rest
    · exact .same _

/-- Attaching the blocks among siblings is an edit. -/
theorem edited_attachList (source : Text) (nodes : List Node) :
    Edited allowed nodes (attachList allowed source nodes) := by
  induction nodes using attachList.induct allowed source with
  | case1 =>
    rw [attachList]
    exact .same []
  | case2 node rest attached below later =>
    rw [attachList]
    exact (edited_attach source node rest).trans ((Edited.inside below).cons later)

/-- Attaching the blocks of a document is an edit. -/
theorem edited_attachDocument (source : Text) (tree : Node) :
    Edited allowed [tree] [attachDocument allowed source tree] :=
  .inside (edited_attachList source tree.children)

end AttributeBlock

end Manuscript
