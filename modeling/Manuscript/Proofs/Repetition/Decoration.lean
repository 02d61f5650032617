import Manuscript.Html.ColorSwatch
import Manuscript.Proofs.Emoji.Piece
import Manuscript.Proofs.Html.UtilityClass

/-!
# The passes over looks, run again

Classes that are there are not added again, a swatch makes the text beside it no text alone, a title
is set to what it is, and a label is left alone: each of these passes leaves alone what it made.
-/

namespace Manuscript

namespace UtilityClass

/-- Utility classes keep the name of an element. -/
theorem isElement_classNode (parent : Option Text) (panel : Nat) (node : Html) (name : Text) :
    (classNode parent panel node).isElement name = node.isElement name := by
  cases node with
  | element tag children => simp only [classNode, Html.isElement, Tag.name_addClasses]
  | root children => rfl
  | text value => rfl
  | comment value => rfl
  | raw value => rfl

/-- Adding classes again changes nothing. -/
theorem classNode_classNode :
    (∀ tree : Html, ∀ parent panel,
      classNode parent panel (classNode parent panel tree) = classNode parent panel tree) ∧
    ∀ siblings, ∀ parent panel,
      classList parent panel (classList parent panel siblings) =
        classList parent panel siblings := by
  refine Html.induction ?_ ?_ ?_ ?_ ?_ ?_ ?_
  · exact fun children _ parent panel => rfl
  · intro tag children below parent panel
    rw [classNode, classNode, classes_addClasses, Tag.addClasses_addClasses, Tag.name_addClasses,
      below]
  · exact fun value parent panel => rfl
  · exact fun value parent panel => rfl
  · exact fun value parent panel => rfl
  · exact fun parent panel => rfl
  · intro node rest own later parent panel
    rw [classList, classList, own, isElement_classNode, later]

/-- Giving utility classes again changes nothing. -/
theorem classTree_classTree (tree : Html) : classTree (classTree tree) = classTree tree := by
  cases tree with
  | root children => exact congrArg Html.root (classNode_classNode.2 children none 0)
  | element tag children => exact classNode_classNode.1 (.element tag children) none 0
  | text value => rfl
  | comment value => rfl
  | raw value => rfl

end UtilityClass

namespace ColorSwatch

/-- Siblings get their swatches apart from those before them. -/
theorem swatchList_append (inPre : Bool) (front back : List Html) :
    swatchList inPre (front ++ back) = swatchList inPre front ++ swatchList inPre back := by
  induction front with
  | nil => rfl
  | cons node rest ih => rw [List.cons_append, swatchList, swatchList, ih, List.cons_append]

/-- Siblings with an element among them are not all texts. -/
theorem textOnly?_append_element (front : List Html) (tag : Tag) (children : List Html) :
    textOnly? (front ++ [.element tag children]) = none := by
  induction front with
  | nil => rfl
  | cons node rest ih =>
    cases node with
    | text value => rw [List.cons_append, textOnly?, ih, Option.map_none]
    | root children => rfl
    | element tag children => rfl
    | comment value => rfl
    | raw value => rfl

/-- A piece of inline code gets a swatch or stays as it is. -/
theorem withSwatch_cases (children : List Html) :
    withSwatch children = children ∨ ∃ color, withSwatch children = children ++ [swatch color] := by
  rw [withSwatch]
  split
  · exact .inl rfl
  · split
    · exact .inr ⟨_, rfl⟩
    · exact .inl rfl

/-- Inline code with a swatch gets no other one. -/
theorem withSwatch_append_swatch (children : List Html) (color : Text) :
    withSwatch (children ++ [swatch color]) = children ++ [swatch color] := by
  rw [withSwatch, swatch, textOnly?_append_element]

/-- Adding swatches again changes nothing. -/
theorem swatchNode_swatchNode :
    (∀ tree : Html, ∀ inPre, swatchNode inPre (swatchNode inPre tree) = swatchNode inPre tree) ∧
      ∀ siblings, ∀ inPre,
        swatchList inPre (swatchList inPre siblings) = swatchList inPre siblings := by
  refine Html.induction ?_ ?_ ?_ ?_ ?_ ?_ ?_
  · exact fun children _ inPre => rfl
  · intro tag children below inPre
    rw [swatchNode]
    split
    · rename_i code
      have again := below (tag.name = "pre".toList)
      obtain same | ⟨color, same⟩ :=
        withSwatch_cases (swatchList (tag.name = "pre".toList) children)
      · rw [same, swatchNode, if_pos code, again, same]
      · rw [same, swatchNode, if_pos code, swatchList_append, again]
        exact congrArg _ (withSwatch_append_swatch _ color)
    · rename_i other
      rw [swatchNode, if_neg other, below]
  · exact fun value inPre => rfl
  · exact fun value inPre => rfl
  · exact fun value inPre => rfl
  · exact fun inPre => rfl
  · intro node rest own later inPre
    rw [swatchList, swatchList, own, later]

/-- Looking for colors again changes nothing. -/
theorem swatchTree_swatchTree (tree : Html) : swatchTree (swatchTree tree) = swatchTree tree := by
  cases tree with
  | root children => exact congrArg Html.root (swatchNode_swatchNode.2 children false)
  | element tag children => exact swatchNode_swatchNode.1 (.element tag children) false
  | text value => rfl
  | comment value => rfl
  | raw value => rfl

end ColorSwatch

namespace BackReferenceTitle

variable (template : Template) (clobberFront : Text)

/-- The title that a tag gets. -/
def title? (tag : Tag) : Option Text :=
  if tag.name = ['a'] && (tag.hasAttribute markName || tag.hasClass markName) then
    ((tag.attribute? "href".toList).bind (identifier? clobberFront)).map (title template)
  else none

/-- The tag with a title, if there is one. -/
def titled (tag : Tag) : Option Text → Tag
  | some title => tag.setAttribute "title".toList title
  | none => tag

/-- A link gets the title that is found for it, if there is one. -/
theorem withTitle_eq_titled (tag : Tag) :
    withTitle template clobberFront tag = titled tag (title? template clobberFront tag) := by
  rw [withTitle, title?]
  split
  · cases (tag.attribute? "href".toList).bind (identifier? clobberFront) <;> rfl
  · rfl

/-- The title does not depend on the title that is there. -/
theorem title?_setAttribute (value : Text) (tag : Tag) :
    title? template clobberFront (tag.setAttribute "title".toList value) =
      title? template clobberFront tag := by
  have href : (tag.setAttribute "title".toList value).attribute? "href".toList =
      tag.attribute? "href".toList := Tag.attribute?_setAttribute_of_ne (by decide) _ _
  have mark : (tag.setAttribute "title".toList value).hasAttribute markName =
      tag.hasAttribute markName :=
    congrArg Option.isSome (Tag.attribute?_setAttribute_of_ne (by decide) _ _)
  rw [title?, title?, href, mark]
  rfl

/-- A link with its title is to get the same one. -/
theorem withTitle_withTitle (tag : Tag) :
    withTitle template clobberFront (withTitle template clobberFront tag) =
      withTitle template clobberFront tag := by
  rw [withTitle_eq_titled template clobberFront tag]
  cases given : title? template clobberFront tag with
  | none =>
    rw [withTitle_eq_titled]
    exact congrArg (titled tag) given
  | some title =>
    have same : title? template clobberFront (titled tag (some title)) = some title :=
      (title?_setAttribute template clobberFront title tag).trans given
    rw [withTitle_eq_titled, same]
    exact Tag.setAttribute_of_attribute? (Tag.attribute?_setAttribute_self _ _ _)

/-- Adding titles again changes nothing. -/
theorem titleNode_titleNode :
    (∀ tree : Html, titleNode template clobberFront (titleNode template clobberFront tree) =
      titleNode template clobberFront tree) ∧
    ∀ siblings, titleList template clobberFront (titleList template clobberFront siblings) =
      titleList template clobberFront siblings := by
  refine Html.induction ?_ ?_ ?_ ?_ ?_ ?_ ?_
  · exact fun children _ => rfl
  · intro tag children below
    rw [titleNode, titleNode, withTitle_withTitle, below]
  · exact fun value => rfl
  · exact fun value => rfl
  · exact fun value => rfl
  · rfl
  · intro node rest own later
    rw [titleList, titleList, own, later]

/-- Giving titles again changes nothing. -/
theorem titleTree_titleTree (options : FootnoteOptions) (tree : Html) :
    titleTree options (titleTree options tree) = titleTree options tree := by
  cases tree with
  | root children => exact congrArg Html.root ((titleNode_titleNode _ _).2 children)
  | element tag children => exact (titleNode_titleNode _ _).1 (.element tag children)
  | text value => rfl
  | comment value => rfl
  | raw value => rfl

end BackReferenceTitle

namespace EmojiLabel

/-- Labelling keeps the tag of an element. -/
theorem labelNode_element (tag : Tag) (children : List Html) :
    ∃ below, labelNode (.element tag children) = .element tag below := by
  rw [labelNode]
  split
  · exact ⟨children, rfl⟩
  · exact ⟨labelList children, rfl⟩

/-- Labelling again changes nothing. -/
theorem labelNode_labelNode :
    (∀ tree : Html, labelNode (labelNode tree) = labelNode tree) ∧
      ∀ siblings, labelList (labelList siblings) = labelList siblings := by
  refine Html.induction ?_ ?_ ?_ ?_ ?_ ?_ ?_
  · exact fun children _ => rfl
  · intro tag children below
    by_cases skipped : isSkipped tag = true
    · rw [labelNode, if_pos skipped, labelNode, if_pos skipped]
    · rw [labelNode, if_neg skipped, labelNode, if_neg skipped, below]
  · exact fun value => rfl
  · exact fun value => rfl
  · exact fun value => rfl
  · rfl
  · intro node rest own later
    have first : labelList (labelled node) = labelled node := by
      cases node with
      | text value => exact labelList_of_isPiece (mem_nodes value)
      | root children => rfl
      | element tag children =>
        obtain ⟨below, same⟩ := labelNode_element tag children
        rw [same] at own
        have labels : labelled (.element tag children) = [.element tag below] :=
          congrArg ([·]) same
        rw [labels]
        exact congrArg ([·]) own
      | comment value => rfl
      | raw value => rfl
    rw [labelList_cons, labelList_append, first, later]

/-- Labelling emoji again changes nothing. -/
theorem labelTree_labelTree (tree : Html) : labelTree (labelTree tree) = labelTree tree := by
  cases tree with
  | root children => exact congrArg Html.root (labelNode_labelNode.2 children)
  | element tag children => exact congrArg (Html.element tag) (labelNode_labelNode.2 children)
  | text value => rfl
  | comment value => rfl
  | raw value => rfl

end EmojiLabel

end Manuscript
