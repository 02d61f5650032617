import Manuscript.Html.Contents
import Manuscript.Html.HeadingAnchor
import Manuscript.Html.HeadingId
import Manuscript.Proofs.Html.Induction

/-!
# The passes over headings, run again

A heading that has its identifier keeps it, and one that has none after the first run has a text
without a slug, so the second run changes nothing and reports the same headings, whatever slugs are
taken when it begins (`assignTree_assignTree`). The table of contents is found where it was and
takes the place of itself (`fillTree_fillTree`), and an anchor is not put before an anchor
(`anchorTree_anchorTree`).
-/

namespace Manuscript

/-- Whether a text has a slug does not depend on the slugs that are taken. -/
theorem Slugger.next_eq_none_iff {slugger : Slugger} {text : Text} :
    (slugger.next text).1 = none ↔ Slug.slugify text = [] := by
  unfold Slugger.next
  dsimp only
  by_cases empty : Slug.slugify text = []
  · simp [empty]
  · rw [if_neg (mt List.isEmpty_iff.1 empty)]
    split <;> simp [empty]

/-- A heading does not open the section of the footnotes. -/
theorem Html.isFootnoteSection_of_headingLevel? {tag : Tag} {level : Nat}
    (isHeading : headingLevel? tag.name = some level) : isFootnoteSection tag = false := by
  rw [isFootnoteSection, Bool.and_eq_false_iff]
  refine .inl (decide_eq_false fun name => ?_)
  rw [name] at isHeading
  cases isHeading

namespace HeadingId

/-- An identifier keeps the name of a heading. -/
theorem name_assign (tag : Tag) (children : List Html) (level : Nat) (slugger : Slugger) :
    (assign tag children level slugger).1.name = tag.name := by
  unfold assign
  dsimp only
  split
  · rfl
  · split <;> rfl

/-- The heading that is reported for a tag at a level, with an identifier. -/
def reported (children : List Html) (level : Nat) (slug : Text) : Heading :=
  { level, slug, text := (Html.textContentList children).trim }

/-- A heading with an identifier keeps it, and it is reserved. -/
theorem assign_of_attribute? {tag : Tag} {id : Text} (named : tag.attribute? "id".toList = some id)
    (children : List Html) (level : Nat) (slugger : Slugger) :
    assign tag children level slugger =
      (tag, slugger.reserve id, [reported children level id]) := by
  unfold assign
  dsimp only
  rw [named]
  rfl

/-- A heading without an identifier gets the slug that its text is given. -/
theorem assign_of_next {tag : Tag} {children : List Html} {slug : Text} {slugger rest : Slugger}
    (unnamed : tag.attribute? "id".toList = none)
    (given : slugger.next (Html.textContentList children).trim = (some slug, rest)) (level : Nat) :
    assign tag children level slugger =
      (tag.setAttribute "id".toList slug, rest, [reported children level slug]) := by
  unfold assign
  dsimp only
  rw [unnamed, given]
  rfl

/-- A heading without an identifier stays so if its text gives no slug. -/
theorem assign_of_next_none {tag : Tag} {children : List Html} {slugger rest : Slugger}
    (unnamed : tag.attribute? "id".toList = none)
    (given : slugger.next (Html.textContentList children).trim = (none, rest)) (level : Nat) :
    assign tag children level slugger = (tag, rest, []) := by
  unfold assign
  dsimp only
  rw [unnamed, given]

/-- A heading that the pass has come to stays as it is and is reported again, whatever slugs are
taken. -/
theorem assign_assign (tag : Tag) (children : List Html) (level : Nat) (slugger later : Slugger) :
    (assign (assign tag children level slugger).1 children level later).1 =
        (assign tag children level slugger).1 ∧
      (assign (assign tag children level slugger).1 children level later).2.2 =
        (assign tag children level slugger).2.2 := by
  cases named : tag.attribute? "id".toList with
  | some id =>
    rw [assign_of_attribute? named]
    dsimp only
    rw [assign_of_attribute? named]
    exact ⟨rfl, rfl⟩
  | none =>
    rcases given : slugger.next (Html.textContentList children).trim with ⟨_ | slug, rest⟩
    · -- The text has no slug, so it gets none in the second run either.
      have unslugged : (later.next (Html.textContentList children).trim).1 = none :=
        Slugger.next_eq_none_iff.2 (Slugger.next_eq_none_iff.1 (congrArg Prod.fst given))
      rw [assign_of_next_none named given]
      dsimp only
      rw [assign_of_next_none named (Prod.ext unslugged rfl)]
      exact ⟨rfl, rfl⟩
    · rw [assign_of_next named given]
      dsimp only
      rw [assign_of_attribute? (Tag.attribute?_setAttribute_self _ _ _)]
      exact ⟨rfl, rfl⟩

/-- The second run over what the first one made gives the same nodes and reports the same headings,
whatever slugs are taken. -/
theorem assignNode_assignNode :
    (∀ tree : Html, ∀ slugger later : Slugger,
      let first := assignNode tree slugger
      let second := assignNode first.1 later
      second.1 = first.1 ∧ second.2.2 = first.2.2) ∧
    ∀ nodes, ∀ slugger later : Slugger,
      let first := assignList nodes slugger
      let second := assignList first.1 later
      second.1 = first.1 ∧ second.2.2 = first.2.2 := by
  refine Html.induction ?_ ?_ ?_ ?_ ?_ ?_ ?_
  · exact fun children _ slugger later => ⟨rfl, rfl⟩
  · intro tag children below slugger later
    by_cases footnotes : Html.isFootnoteSection tag = true
    · simp [assignNode, footnotes]
    · cases isHeading : Html.headingLevel? tag.name with
      | some level =>
        obtain ⟨same, reported⟩ := assign_assign tag children level slugger later
        have stays := name_assign tag children level slugger
        have plain : Html.isFootnoteSection (assign tag children level slugger).1 = false :=
          Html.isFootnoteSection_of_headingLevel? (stays ▸ isHeading)
        simp only [assignNode, footnotes, isHeading, plain, stays, same, reported,
          Bool.false_eq_true, if_false, and_self]
      | none =>
        obtain ⟨same, reported⟩ := below slugger later
        simp only [assignNode, footnotes, isHeading, same, reported, Bool.false_eq_true, if_false,
          and_self]
  · exact fun value slugger later => ⟨rfl, rfl⟩
  · exact fun value slugger later => ⟨rfl, rfl⟩
  · exact fun value slugger later => ⟨rfl, rfl⟩
  · exact fun slugger later => ⟨rfl, rfl⟩
  · intro node rest own followed slugger later
    obtain ⟨same, reported⟩ := own slugger later
    obtain ⟨sameRest, reportedRest⟩ :=
      followed (assignNode node slugger).2.1 (assignNode (assignNode node slugger).1 later).2.1
    simp only [assignList, same, reported, sameRest, reportedRest, and_self]

/-- Assigning identifiers again changes nothing, and reports the same headings. -/
theorem assignTree_assignTree (tree : Html) : assignTree (assignTree tree).1 = assignTree tree := by
  have below : ∀ children, let first := assignList children {}
      (assignList first.1 {}).1 = first.1 ∧ (assignList first.1 {}).2.2 = first.2.2 :=
    fun children => assignNode_assignNode.2 children {} {}
  cases tree with
  | root children =>
    obtain ⟨same, reported⟩ := below children
    simp only [assignTree, same, reported]
  | element tag children =>
    obtain ⟨same, reported⟩ := below children
    simp only [assignTree, same, reported]
  | text value => rfl
  | comment value => rfl
  | raw value => rfl

end HeadingId

namespace Contents

/-- There are no entries among no nodes. -/
theorem collectList_nil (maxDepth : Nat) : collectList maxDepth [] = [] := by
  rw [collectList]

/-- A section that the list has taken the place of is as long as the list, which takes the place of
itself. -/
theorem fill_fill (maxDepth level : Nat) (siblings : List Html) :
    fill maxDepth level (fill maxDepth level siblings) = fill maxDepth level siblings := by
  generalize after : (siblings.dropWhile fun node => !endsSection level node) = rest
  cases found : collectList maxDepth rest with
  | nil =>
    have stays : fill maxDepth level siblings = siblings := by
      simp only [fill, after, found]
    rw [stays, stays]
  | cons entry entries =>
    -- A heading that is listed follows, so the section ends before the end of the siblings.
    cases rest with
    | nil =>
      rw [collectList_nil] at found
      cases found
    | cons closing others =>
      have ends : endsSection level closing = true := by
        have := List.head?_dropWhile_not (fun node => !endsSection level node) siblings
        rw [after] at this
        simpa using this
      have filled : fill maxDepth level siblings =
          newline :: list (entry :: entries) :: newline :: closing :: others := by
        simp only [fill, after, found, List.isEmpty_cons, Bool.false_eq_true, if_false]
      have again : ((newline :: list (entry :: entries) :: newline :: closing :: others).dropWhile
          fun node => !endsSection level node) = closing :: others := by
        have inside : endsSection level newline = false ∧
            endsSection level (list (entry :: entries)) = false := ⟨rfl, rfl⟩
        simp [inside, ends]
      rw [filled]
      simp only [fill, again, found, List.isEmpty_cons, Bool.false_eq_true, if_false]

/-- A node that is no heading is none with a filled table of contents in it. -/
theorem titleLevel?_of_fillNode? {isTitle : Text → Bool} {maxDepth : Nat} {node filled : Html}
    (found : fillNode? isTitle maxDepth node = some filled) :
    titleLevel? isTitle filled = none := by
  cases node with
  | element tag children =>
    rw [fillNode?] at found
    split at found
    · cases found
    · rename_i inside
      obtain ⟨content, _, rfl⟩ := Option.map_eq_some_iff.1 found
      obtain ⟨outside, plain⟩ := Bool.or_eq_false_iff.1 (Bool.eq_false_iff.2 inside)
      rw [titleLevel?, outside, Option.not_isSome_iff_eq_none.1 (Bool.eq_false_iff.1 plain)]
      rfl
  | root children => cases found
  | text value => cases found
  | comment value => cases found
  | raw value => cases found

/-- The table of contents is found again where it was filled, and is filled with the same. -/
theorem fillNode?_fillNode? (isTitle : Text → Bool) (maxDepth : Nat) :
    (∀ tree : Html, ∀ filled ∈ fillNode? isTitle maxDepth tree,
      fillNode? isTitle maxDepth filled = some filled) ∧
    ∀ nodes, ∀ filled ∈ fillList? isTitle maxDepth nodes,
      fillList? isTitle maxDepth filled = some filled := by
  refine Html.induction ?_ ?_ ?_ ?_ ?_ ?_ ?_
  · exact fun _ _ _ none => nomatch none
  · intro tag children below filled found
    rw [fillNode?] at found
    split at found
    · cases found
    · rename_i inside
      obtain ⟨content, inList, rfl⟩ := Option.map_eq_some_iff.1 found
      rw [fillNode?, if_neg inside, below content inList, Option.map_some]
  · exact fun _ _ none => nomatch none
  · exact fun _ _ none => nomatch none
  · exact fun _ _ none => nomatch none
  · exact fun _ none => nomatch none
  · intro node rest own later filled found
    rw [fillList?] at found
    cases title : titleLevel? isTitle node with
    | some level =>
      rw [title] at found
      cases found
      rw [fillList?, title]
      dsimp only
      rw [fill_fill]
    | none =>
      rw [title] at found
      dsimp only at found
      cases inNode : fillNode? isTitle maxDepth node with
      | some content =>
        rw [inNode] at found
        cases found
        rw [fillList?, titleLevel?_of_fillNode? inNode]
        dsimp only
        rw [own content inNode]
      | none =>
        rw [inNode] at found
        obtain ⟨content, inRest, rfl⟩ := Option.map_eq_some_iff.1 found
        rw [fillList?, title]
        dsimp only
        rw [inNode]
        dsimp only
        rw [later content inRest, Option.map_some]

/-- Filling the table of contents again changes nothing. -/
theorem fillTree_fillTree (isTitle : Text → Bool) (maxDepth : Nat) (tree : Html) :
    fillTree isTitle maxDepth (fillTree isTitle maxDepth tree) =
      fillTree isTitle maxDepth tree := by
  have below : ∀ children, let filled := (fillList? isTitle maxDepth children).getD children
      (fillList? isTitle maxDepth filled).getD filled = filled := by
    intro children filled
    cases found : fillList? isTitle maxDepth children with
    | none => simp only [filled, found, Option.getD_none]
    | some content =>
      have again := (fillNode?_fillNode? isTitle maxDepth).2 children content found
      simp only [filled, found, again, Option.getD_some]
  cases tree with
  | root children => exact congrArg Html.root (below children)
  | element tag children => exact congrArg (Html.element tag) (below children)
  | text value => rfl
  | comment value => rfl
  | raw value => rfl

end Contents

namespace HeadingAnchor

/-- A heading that has its anchor gets no other. -/
theorem withAnchor_withAnchor (tag : Tag) (children : List Html) :
    withAnchor tag (withAnchor tag children) = withAnchor tag children := by
  cases named : tag.attribute? "id".toList with
  | none => simp only [withAnchor, named]
  | some id =>
    by_cases anchored : (children.head?.bind Html.tag?).any isAnchorTag = true
    · simp only [withAnchor, named, anchored, if_true]
    · have first : ((anchor id :: children).head?.bind Html.tag?).any isAnchorTag = true := rfl
      simp only [withAnchor, named, anchored, first, if_true, Bool.false_eq_true, if_false]

/-- Adding anchors again changes nothing. -/
theorem anchorNode_anchorNode :
    (∀ tree : Html, anchorNode (anchorNode tree) = anchorNode tree) ∧
      ∀ nodes, anchorList (anchorList nodes) = anchorList nodes := by
  refine Html.induction ?_ ?_ ?_ ?_ ?_ ?_ ?_
  · exact fun children _ => rfl
  · intro tag children below
    by_cases footnotes : Html.isFootnoteSection tag = true
    · simp only [anchorNode, footnotes, if_true]
    · by_cases heading : (Html.headingLevel? tag.name).isSome = true
      · simp only [anchorNode, footnotes, heading, withAnchor_withAnchor, if_true,
          Bool.false_eq_true, if_false]
      · simp only [anchorNode, footnotes, heading, below, Bool.false_eq_true, if_false]
  · exact fun value => rfl
  · exact fun value => rfl
  · exact fun value => rfl
  · rfl
  · intro node rest own later
    rw [anchorList, anchorList, own, later]

/-- Looking for anchors again changes nothing. -/
theorem anchorTree_anchorTree (tree : Html) : anchorTree (anchorTree tree) = anchorTree tree := by
  cases tree with
  | root children => exact congrArg Html.root (anchorNode_anchorNode.2 children)
  | element tag children => exact congrArg (Html.element tag) (anchorNode_anchorNode.2 children)
  | text value => rfl
  | comment value => rfl
  | raw value => rfl

end HeadingAnchor

end Manuscript
