import Manuscript.Proofs.Color.Swatch
import Manuscript.Proofs.Heading.Record
import Manuscript.Proofs.Repetition.Decoration

/-!
# The order of the passes over looks

Utility classes, swatches, titles and labels can be added in any order. What a pass looks at in an
element is left as it is by the other three, and what a pass puts in is left alone by them: a label
gets neither class nor title nor swatch, and a swatch gets neither class nor title nor label. Only
the topmost element is searched for emoji even if it is inline code. Emoji and swatches do not meet
there either, since no emoji is in a text that is a color (`isBare_of_isColor`).
-/

namespace Manuscript

open EmojiLabel (IsPiece IsBare labelList labelNode labelled)
open UtilityClass (classNode classList)
open ColorSwatch (swatchNode swatchList swatch textOnly? withSwatch)
open BackReferenceTitle (titleNode titleList)

/-! ## What a pass leaves as it is -/

/-- An anchor is recognized by its name and its mark. -/
theorem HeadingAnchor.isAnchorTag_congr {tag other : Tag} (name : tag.name = other.name)
    (mark : tag.hasClass anchorClass = other.hasClass anchorClass) :
    isAnchorTag tag = isAnchorTag other := by
  rw [isAnchorTag, isAnchorTag, name, mark]

/-- An element is skipped for its name, its mark and its role. -/
theorem EmojiLabel.isSkipped_congr {tag other : Tag} (name : tag.name = other.name)
    (mark : tag.hasClass HeadingAnchor.anchorClass = other.hasClass HeadingAnchor.anchorClass)
    (role : tag.attribute? "role".toList = other.attribute? "role".toList) :
    isSkipped tag = isSkipped other := by
  rw [isSkipped, isSkipped, name, role, HeadingAnchor.isAnchorTag_congr name mark]

/-- Utility classes neither open nor close an element to labels. -/
theorem EmojiLabel.isSkipped_addClasses (parent : Option Text) (panel : Nat) (tag : Tag) :
    isSkipped (tag.addClasses (UtilityClass.classes parent panel tag)) = isSkipped tag :=
  isSkipped_congr (Tag.name_addClasses _ tag)
    (UtilityClass.hasClass_addClasses_classes (by decide) parent panel tag tag)
    (Tag.attribute?_addClasses _ tag _)

namespace BackReferenceTitle

variable (template : Template) (clobberFront : Text)

/-- Utility classes do not change the title that an element gets. -/
theorem title?_addClasses (parent : Option Text) (panel : Nat) (tag : Tag) :
    title? template clobberFront (tag.addClasses (UtilityClass.classes parent panel tag)) =
      title? template clobberFront tag := by
  have known : markName ∈ UtilityClass.markNames := by decide
  have mark := UtilityClass.hasClass_addClasses_classes known parent panel tag tag
  rw [title?, title?, Tag.name_addClasses, Tag.hasAttribute_addClasses, mark,
    Tag.attribute?_addClasses]

/-- An element keeps its name, its classes and every other attribute when it gets a title. -/
theorem titled_same (tag : Tag) (given : Option Text) :
    (titled tag given).name = tag.name ∧
      (∀ mark, (titled tag given).hasClass mark = tag.hasClass mark) ∧
      (titled tag given).attribute? "role".toList = tag.attribute? "role".toList := by
  cases given with
  | none => exact ⟨rfl, fun _ => rfl, rfl⟩
  | some title =>
    exact ⟨rfl, fun _ => rfl, Tag.attribute?_setAttribute_of_ne (by decide) _ tag⟩

/-- Classes and a title can be added to a tag in either order. -/
theorem addClasses_titled (names : List Text) (tag : Tag) (given : Option Text) :
    (titled tag given).addClasses names = titled (tag.addClasses names) given := by
  cases given with
  | none => rfl
  | some title => exact Tag.addClasses_setAttribute names _ title tag

end BackReferenceTitle

/-! ## What a pass puts in -/

/-- A label gets no class. -/
theorem UtilityClass.classNode_of_isPiece {piece : Html} (is_piece : IsPiece piece)
    (parent : Option Text) (panel : Nat) :
    classNode parent panel piece = piece ∧ piece.isElement "pre".toList = false := by
  cases is_piece with
  | text bare => exact ⟨rfl, rfl⟩
  | label name value => exact ⟨rfl, rfl⟩

/-- Pieces of a text get no classes. -/
theorem UtilityClass.classList_pieces {pieces : List Html} (all : ∀ piece ∈ pieces, IsPiece piece)
    (parent : Option Text) (panel : Nat) (rest : List Html) :
    classList parent panel (pieces ++ rest) = pieces ++ classList parent panel rest := by
  induction pieces with
  | nil => rfl
  | cons piece others ih =>
    obtain ⟨first, later⟩ := List.forall_mem_cons.1 all
    obtain ⟨same, other⟩ := classNode_of_isPiece first parent panel
    rw [List.cons_append, classList, same, other, if_neg Bool.false_ne_true, ih later,
      List.cons_append]

/-- A swatch gets no class. -/
theorem UtilityClass.classList_append_swatch (parent : Option Text) (panel : Nat)
    (siblings : List Html) (color : Text) :
    classList parent panel (siblings ++ [swatch color]) =
      classList parent panel siblings ++ [swatch color] := by
  induction siblings generalizing panel with
  | nil => rfl
  | cons node rest ih => rw [List.cons_append, classList, ih, classList, List.cons_append]

/-- Siblings get their titles apart from those before them. -/
theorem BackReferenceTitle.titleList_append (template : Template) (clobberFront : Text)
    (front back : List Html) : titleList template clobberFront (front ++ back) =
      titleList template clobberFront front ++ titleList template clobberFront back := by
  induction front with
  | nil => rfl
  | cons node rest ih => rw [List.cons_append, titleList, titleList, ih, List.cons_append]

/-- A label gets no title. -/
theorem BackReferenceTitle.titleList_pieces (template : Template) (clobberFront : Text)
    {pieces : List Html} (all : ∀ piece ∈ pieces, IsPiece piece) :
    titleList template clobberFront pieces = pieces := by
  induction pieces with
  | nil => rfl
  | cons piece others ih =>
    obtain ⟨first, later⟩ := List.forall_mem_cons.1 all
    have same : titleNode template clobberFront piece = piece := by
      cases first with
      | text bare => rfl
      | label name value => rfl
    rw [titleList, same, ih later]

/-- A label gets no swatch. -/
theorem ColorSwatch.swatchList_pieces (inPre : Bool) {pieces : List Html}
    (all : ∀ piece ∈ pieces, IsPiece piece) : swatchList inPre pieces = pieces := by
  induction pieces with
  | nil => rfl
  | cons piece others ih =>
    obtain ⟨first, later⟩ := List.forall_mem_cons.1 all
    have same : swatchNode inPre piece = piece := by
      cases first with
      | text bare => rfl
      | label name value => rfl
    rw [swatchList, same, ih later]

/-! ## Pairs of passes -/

/-- Titles and classes. -/
theorem BackReferenceTitle.titleNode_classNode (template : Template) (clobberFront : Text) :
    (∀ tree : Html, ∀ parent panel,
      titleNode template clobberFront (classNode parent panel tree) =
        classNode parent panel (titleNode template clobberFront tree)) ∧
    ∀ siblings, ∀ parent panel,
      titleList template clobberFront (classList parent panel siblings) =
        classList parent panel (titleList template clobberFront siblings) := by
  refine Html.induction ?_ ?_ ?_ ?_ ?_ ?_ ?_
  · exact fun children _ parent panel => rfl
  · intro tag children below parent panel
    obtain ⟨name, marks, _⟩ := titled_same tag (title? template clobberFront tag)
    rw [classNode, titleNode, titleNode, classNode, below, withTitle_eq_titled, withTitle_eq_titled,
      title?_addClasses, name, UtilityClass.classes_congr name (fun mark _ => marks mark),
      addClasses_titled]
  · exact fun value parent panel => rfl
  · exact fun value parent panel => rfl
  · exact fun value parent panel => rfl
  · exact fun parent panel => rfl
  · intro node rest own later parent panel
    have element : (titleNode template clobberFront node).isElement "pre".toList =
        node.isElement "pre".toList := by
      cases node with
      | element tag children =>
        rw [titleNode, Html.isElement, withTitle_eq_titled, (titled_same tag _).1]
        rfl
      | root children => rfl
      | text value => rfl
      | comment value => rfl
      | raw value => rfl
    rw [classList, titleList, titleList, classList, own, later, element]

/-- Whether siblings are all texts, and which, does not depend on classes. -/
theorem ColorSwatch.textOnly?_classList (parent : Option Text) (panel : Nat)
    (siblings : List Html) : textOnly? (classList parent panel siblings) = textOnly? siblings := by
  induction siblings generalizing panel with
  | nil => rfl
  | cons node rest ih =>
    rw [classList]
    cases node with
    | text value =>
      rw [classNode, textOnly?, textOnly?, ih]
      exact fun tag children same => Html.noConfusion same
    | root children => rfl
    | element tag children => rfl
    | comment value => rfl
    | raw value => rfl

/-- Swatches and classes. -/
theorem ColorSwatch.swatchNode_classNode :
    (∀ tree : Html, ∀ inPre parent panel,
      swatchNode inPre (classNode parent panel tree) =
        classNode parent panel (swatchNode inPre tree)) ∧
    ∀ siblings, ∀ inPre parent panel,
      swatchList inPre (classList parent panel siblings) =
        classList parent panel (swatchList inPre siblings) := by
  refine Html.induction ?_ ?_ ?_ ?_ ?_ ?_ ?_
  · exact fun children _ inPre parent panel => rfl
  · intro tag children below inPre parent panel
    rw [classNode, swatchNode, swatchNode, classNode, Tag.name_addClasses, below]
    split
    · rw [withSwatch, withSwatch, textOnly?_classList]
      split
      · rfl
      · split
        · rw [UtilityClass.classList_append_swatch]
        · rfl
    · rfl
  · exact fun value inPre parent panel => rfl
  · exact fun value inPre parent panel => rfl
  · exact fun value inPre parent panel => rfl
  · exact fun inPre parent panel => rfl
  · intro node rest own later inPre parent panel
    have element :
      (swatchNode inPre node).isElement "pre".toList = node.isElement "pre".toList := by
      cases node <;> rfl
    rw [classList, swatchList, swatchList, classList, own, later, element]

/-- Labels and classes. -/
theorem EmojiLabel.labelNode_classNode :
    (∀ tree : Html, ∀ parent panel,
      labelNode (classNode parent panel tree) = classNode parent panel (labelNode tree)) ∧
    ∀ siblings, ∀ parent panel,
      labelList (classList parent panel siblings) =
        classList parent panel (labelList siblings) := by
  refine Html.induction ?_ ?_ ?_ ?_ ?_ ?_ ?_
  · exact fun children _ parent panel => rfl
  · intro tag children below parent panel
    rw [classNode, labelNode, labelNode, isSkipped_addClasses]
    split
    · rfl
    · rw [classNode, below]
  · exact fun value parent panel => rfl
  · exact fun value parent panel => rfl
  · exact fun value parent panel => rfl
  · exact fun parent panel => rfl
  · intro node rest own later parent panel
    rw [labelList_cons, classList, labelList_cons, later]
    cases node with
    | text value => exact (UtilityClass.classList_pieces (mem_nodes value) parent panel _).symm
    | element tag children =>
      obtain ⟨below, same⟩ := labelNode_element tag children
      have element : (labelNode (.element tag children)).isElement "pre".toList =
          (Html.element tag children).isElement "pre".toList := by
        rw [same]
        rfl
      have first : labelled (.element tag children) = [labelNode (.element tag children)] := rfl
      have classed : labelled (classNode parent panel (.element tag children)) =
          [labelNode (classNode parent panel (.element tag children))] := rfl
      rw [first, classed, own, List.singleton_append, List.singleton_append, classList, element]
    | root children => rfl
    | comment value => rfl
    | raw value => rfl

/-- Whether siblings are all texts, and which, does not depend on titles. -/
theorem ColorSwatch.textOnly?_titleList (template : Template) (clobberFront : Text)
    (siblings : List Html) :
    textOnly? (titleList template clobberFront siblings) = textOnly? siblings := by
  induction siblings with
  | nil => rfl
  | cons node rest ih =>
    cases node with
    | text value => exact congrArg (Option.map (value ++ ·)) ih
    | root children => rfl
    | element tag children => rfl
    | comment value => rfl
    | raw value => rfl

/-- Swatches and titles. -/
theorem ColorSwatch.swatchNode_titleNode (template : Template) (clobberFront : Text) :
    (∀ tree : Html, ∀ inPre, swatchNode inPre (titleNode template clobberFront tree) =
      titleNode template clobberFront (swatchNode inPre tree)) ∧
    ∀ siblings, ∀ inPre, swatchList inPre (titleList template clobberFront siblings) =
      titleList template clobberFront (swatchList inPre siblings) := by
  refine Html.induction ?_ ?_ ?_ ?_ ?_ ?_ ?_
  · exact fun children _ inPre => rfl
  · intro tag children below inPre
    have name : (BackReferenceTitle.withTitle template clobberFront tag).name = tag.name := by
      rw [BackReferenceTitle.withTitle_eq_titled, (BackReferenceTitle.titled_same tag _).1]
    rw [titleNode, swatchNode, swatchNode, titleNode, name, below]
    split
    · rw [withSwatch, withSwatch, textOnly?_titleList]
      split
      · rfl
      · split
        · rw [BackReferenceTitle.titleList_append]
          rfl
        · rfl
    · rfl
  · exact fun value inPre => rfl
  · exact fun value inPre => rfl
  · exact fun value inPre => rfl
  · exact fun inPre => rfl
  · intro node rest own later inPre
    rw [titleList, swatchList, swatchList, titleList, own, later]

/-- Labels and titles. -/
theorem EmojiLabel.labelNode_titleNode (template : Template) (clobberFront : Text) :
    (∀ tree : Html, labelNode (titleNode template clobberFront tree) =
      titleNode template clobberFront (labelNode tree)) ∧
    ∀ siblings, labelList (titleList template clobberFront siblings) =
      titleList template clobberFront (labelList siblings) := by
  refine Html.induction ?_ ?_ ?_ ?_ ?_ ?_ ?_
  · exact fun children _ => rfl
  · intro tag children below
    obtain ⟨name, marks, role⟩ :=
      BackReferenceTitle.titled_same tag (BackReferenceTitle.title? template clobberFront tag)
    rw [titleNode, labelNode, labelNode, BackReferenceTitle.withTitle_eq_titled,
      isSkipped_congr name (marks _) role]
    split
    · rw [titleNode, BackReferenceTitle.withTitle_eq_titled]
    · rw [titleNode, BackReferenceTitle.withTitle_eq_titled, below]
  · exact fun value => rfl
  · exact fun value => rfl
  · exact fun value => rfl
  · rfl
  · intro node rest own later
    rw [labelList_cons, titleList, labelList_cons, later, BackReferenceTitle.titleList_append]
    cases node with
    | text value =>
      exact congrArg (· ++ _) (BackReferenceTitle.titleList_pieces _ _ (mem_nodes value)).symm
    | element tag children => exact congrArg (· :: _) own
    | root children => rfl
    | comment value => rfl
    | raw value => rfl

/-- Labels and swatches, below the top. An element whose text is searched for emoji is no inline
code. -/
theorem EmojiLabel.labelNode_swatchNode :
    (∀ tree : Html, ∀ inPre,
      labelNode (swatchNode inPre tree) = swatchNode inPre (labelNode tree)) ∧
    ∀ siblings, ∀ inPre, labelList (swatchList inPre siblings) =
      swatchList inPre (labelList siblings) := by
  refine Html.induction ?_ ?_ ?_ ?_ ?_ ?_ ?_
  · exact fun children _ inPre => rfl
  · intro tag children below inPre
    rw [swatchNode, labelNode, labelNode]
    split
    · rw [swatchNode]
    · rename_i searched
      have noCode : tag.name ≠ "code".toList := fun code => searched (by rw [isSkipped, code]; rfl)
      have plain : ¬((decide (tag.name = "code".toList) && !inPre) = true) := by
        rw [decide_eq_false noCode, Bool.false_and]
        exact Bool.false_ne_true
      rw [swatchNode, if_neg plain, if_neg plain, below]
  · exact fun value inPre => rfl
  · exact fun value inPre => rfl
  · exact fun value inPre => rfl
  · exact fun inPre => rfl
  · intro node rest own later inPre
    rw [labelList_cons, swatchList, labelList_cons, later, ColorSwatch.swatchList_append]
    cases node with
    | text value =>
      exact congrArg (· ++ _) (ColorSwatch.swatchList_pieces inPre (mem_nodes value)).symm
    | element tag children => exact congrArg (· :: _) (own inPre)
    | root children => rfl
    | comment value => rfl
    | raw value => rfl

/-! ## Inline code at the top -/

/-- A character of a color neither begins an emoji nor makes the one before it begin one. -/
theorem ColorSwatch.isCalm_of_isSpellingChar {c : Char} (spelled : isSpellingChar c = true) :
    EmojiLabel.IsCalm c := by
  refine ⟨?_, ?_, ?_⟩
  · rintro rfl
    revert spelled
    decide
  · rintro rfl
    revert spelled
    decide
  · rw [isSpellingChar, Bool.or_eq_true, Bool.or_eq_true, Bool.or_eq_true] at spelled
    obtain ((alphanumeric | sign) | blank) | longS := spelled
    · have ranges := Text.isAlphanum_iff.1 alphanumeric
      exact .inl (by omega)
    · have ascii : ∀ c ∈ "#%(),./+-".toList, c.toNat < 128 := by simp
      exact .inl (ascii c (List.contains_iff_mem.1 sign))
    · refine .inr ?_
      rw [Emoji.Entry.isSequenceChar, blank, Bool.not_true, Bool.and_false]
    · cases eq_of_beq longS
      exact .inr (by decide)

/-- Siblings in two parts are all texts if both parts are. -/
theorem ColorSwatch.textOnly?_append {front back : List Html} {text : Text}
    (only : textOnly? (front ++ back) = some text) :
    ∃ start rest, textOnly? front = some start ∧ textOnly? back = some rest ∧
      text = start ++ rest := by
  induction front generalizing text with
  | nil => exact ⟨[], text, rfl, only, rfl⟩
  | cons node others ih =>
    cases node with
    | text value =>
      obtain ⟨later, isLater, rfl⟩ := Option.map_eq_some_iff.1 only
      obtain ⟨start, rest, isStart, isRest, rfl⟩ := ih isLater
      exact ⟨value ++ start, rest, congrArg (Option.map (value ++ ·)) isStart, isRest,
        (List.append_assoc _ _ _).symm⟩
    | root children => cases only
    | element tag children => cases only
    | comment value => cases only
    | raw value => cases only

/-- Siblings whose texts are calm get no labels if they are all texts. -/
theorem EmojiLabel.labelList_of_isCalm {siblings : List Html} {text : Text}
    (only : textOnly? siblings = some text) (calm : ∀ c ∈ text, IsCalm c) :
    labelList siblings = siblings := by
  induction siblings generalizing text with
  | nil => rfl
  | cons node rest ih =>
    cases node with
    | text value =>
      obtain ⟨later, isLater, rfl⟩ := Option.map_eq_some_iff.1 only
      obtain ⟨calmHere, calmLater⟩ := List.forall_mem_append.1 calm
      have own : labelled (.text value) = [.text value] :=
        nodes_of_isBare (isBare_of_isCalm calmHere)
      rw [labelList_cons, own, ih isLater calmLater, List.singleton_append]
    | root children => cases only
    | element tag children => cases only
    | comment value => cases only
    | raw value => cases only

/-- Siblings that are all texts after labels were added were so before, with the same text. -/
theorem EmojiLabel.textOnly?_labelList {siblings : List Html} {text : Text}
    (only : textOnly? (labelList siblings) = some text) : textOnly? siblings = some text := by
  induction siblings generalizing text with
  | nil => exact only
  | cons node rest ih =>
    rw [labelList_cons] at only
    cases node with
    | text value =>
      obtain ⟨start, later, isStart, isLater, rfl⟩ := ColorSwatch.textOnly?_append only
      have whole : value = start :=
        (textContent_nodes value).symm.trans (ColorSwatch.textOnly?_eq_some_iff.1 isStart).2.symm
      rw [textOnly?, ih isLater, whole]
      rfl
    | root children => cases only
    | element tag children =>
      obtain ⟨below, same⟩ := labelNode_element tag children
      have first : labelled (.element tag children) = [.element tag below] := congrArg ([·]) same
      rw [first] at only
      cases only
    | comment value => cases only
    | raw value => cases only

/-- Labels and swatches in inline code at the top. -/
theorem EmojiLabel.labelList_withSwatch (children : List Html) :
    labelList (withSwatch children) = withSwatch (labelList children) := by
  cases only : textOnly? children with
  | none =>
    have none : textOnly? (labelList children) = none := by
      cases labelled : textOnly? (labelList children) with
      | none => rfl
      | some text => exact absurd (textOnly?_labelList labelled) (by simp [only])
    rw [withSwatch, only, withSwatch, none]
  | some text =>
    by_cases color : ColorSwatch.isColor text = true
    · have calm : ∀ c ∈ text, IsCalm c := fun c member =>
        ColorSwatch.isCalm_of_isSpellingChar (ColorSwatch.isSpellingChar_of_isColor color c member)
      have stays := labelList_of_isCalm only calm
      rw [stays, withSwatch, only]
      dsimp only
      rw [if_pos color, labelList_append, stays]
      rfl
    · have same : withSwatch children = children := by
        rw [withSwatch, only]
        exact if_neg color
      rw [same, withSwatch]
      split
      · rfl
      · rename_i other labelled
        have equal : other = text :=
          Option.some.inj ((textOnly?_labelList labelled).symm.trans only)
        rw [equal, if_neg color]

/-! ## Passes in any order -/

/-- Labels and swatches of a whole tree. -/
theorem EmojiLabel.labelTree_swatchTree (tree : Html) :
    labelTree (ColorSwatch.swatchTree tree) = ColorSwatch.swatchTree (labelTree tree) := by
  cases tree with
  | root children => exact congrArg Html.root (labelNode_swatchNode.2 children false)
  | element tag children =>
    have below := labelNode_swatchNode.2 children (tag.name = "pre".toList)
    change Html.element tag (labelList (if _ then _ else _)) = Html.element tag (if _ then _ else _)
    rw [← below]
    split
    · rw [labelList_withSwatch]
    · rfl
  | text value => rfl
  | comment value => rfl
  | raw value => rfl

namespace HtmlPass

/-- The passes over looks. -/
def decorations : List HtmlPass :=
  [.utilityClasses, .colorSwatch, .footnoteTitles, .accessibleEmoji]

/-- A pass over looks reports no headings. -/
theorem run_of_mem_decorations {pass : HtmlPass} (decorative : pass ∈ decorations)
    (options : Options) (tree : Html) : (pass.run options tree).2 = [] := by
  simp only [decorations, List.mem_cons, List.not_mem_nil, or_false] at decorative
  obtain rfl | rfl | rfl | rfl := decorative <;> rfl

section

variable (options : Options) (tree : Html)

/-- Titles and utility classes can be given in either order. -/
theorem run_footnoteTitles_utilityClasses :
    (footnoteTitles.run options (utilityClasses.run options tree).1).1 =
      (utilityClasses.run options (footnoteTitles.run options tree).1).1 := by
  cases tree with
  | root children =>
    exact congrArg Html.root ((BackReferenceTitle.titleNode_classNode _ _).2 children none 0)
  | element tag children =>
    exact (BackReferenceTitle.titleNode_classNode _ _).1 (.element tag children) none 0
  | text value => rfl
  | comment value => rfl
  | raw value => rfl

/-- Swatches and utility classes can be given in either order. -/
theorem run_colorSwatch_utilityClasses :
    (colorSwatch.run options (utilityClasses.run options tree).1).1 =
      (utilityClasses.run options (colorSwatch.run options tree).1).1 := by
  cases tree with
  | root children =>
    exact congrArg Html.root (ColorSwatch.swatchNode_classNode.2 children false none 0)
  | element tag children =>
    exact ColorSwatch.swatchNode_classNode.1 (.element tag children) false none 0
  | text value => rfl
  | comment value => rfl
  | raw value => rfl

/-- Labels of emoji and utility classes can be given in either order. -/
theorem run_accessibleEmoji_utilityClasses :
    (accessibleEmoji.run options (utilityClasses.run options tree).1).1 =
      (utilityClasses.run options (accessibleEmoji.run options tree).1).1 := by
  cases tree with
  | root children =>
    exact congrArg Html.root (EmojiLabel.labelNode_classNode.2 children none 0)
  | element tag children =>
    exact congrArg (Html.element _) (EmojiLabel.labelNode_classNode.2 children (some tag.name) 0)
  | text value => rfl
  | comment value => rfl
  | raw value => rfl

/-- Swatches and titles can be given in either order. -/
theorem run_colorSwatch_footnoteTitles :
    (colorSwatch.run options (footnoteTitles.run options tree).1).1 =
      (footnoteTitles.run options (colorSwatch.run options tree).1).1 := by
  cases tree with
  | root children =>
    exact congrArg Html.root ((ColorSwatch.swatchNode_titleNode _ _).2 children false)
  | element tag children =>
    exact (ColorSwatch.swatchNode_titleNode _ _).1 (.element tag children) false
  | text value => rfl
  | comment value => rfl
  | raw value => rfl

/-- Labels of emoji and titles can be given in either order. -/
theorem run_accessibleEmoji_footnoteTitles :
    (accessibleEmoji.run options (footnoteTitles.run options tree).1).1 =
      (footnoteTitles.run options (accessibleEmoji.run options tree).1).1 := by
  cases tree with
  | root children => exact congrArg Html.root ((EmojiLabel.labelNode_titleNode _ _).2 children)
  | element tag children =>
    exact congrArg (Html.element _) ((EmojiLabel.labelNode_titleNode _ _).2 children)
  | text value => rfl
  | comment value => rfl
  | raw value => rfl

/-- Labels of emoji and swatches can be given in either order. -/
theorem run_accessibleEmoji_colorSwatch :
    (accessibleEmoji.run options (colorSwatch.run options tree).1).1 =
      (colorSwatch.run options (accessibleEmoji.run options tree).1).1 :=
  EmojiLabel.labelTree_swatchTree tree

/-- Two passes over looks give the same tree in either order. -/
theorem run_comm {first second : HtmlPass} (one : first ∈ decorations)
    (two : second ∈ decorations) :
    first.run options (second.run options tree).1 =
      second.run options (first.run options tree).1 := by
  refine Prod.ext ?_ ((run_of_mem_decorations one _ _).trans (run_of_mem_decorations two _ _).symm)
  simp only [decorations, List.mem_cons, List.not_mem_nil, or_false] at one two
  obtain rfl | rfl | rfl | rfl := one <;> obtain rfl | rfl | rfl | rfl := two
  · rfl
  · exact (run_colorSwatch_utilityClasses options tree).symm
  · exact (run_footnoteTitles_utilityClasses options tree).symm
  · exact (run_accessibleEmoji_utilityClasses options tree).symm
  · exact run_colorSwatch_utilityClasses options tree
  · rfl
  · exact run_colorSwatch_footnoteTitles options tree
  · exact (run_accessibleEmoji_colorSwatch options tree).symm
  · exact run_footnoteTitles_utilityClasses options tree
  · exact (run_colorSwatch_footnoteTitles options tree).symm
  · rfl
  · exact (run_accessibleEmoji_footnoteTitles options tree).symm
  · exact run_accessibleEmoji_utilityClasses options tree
  · exact run_accessibleEmoji_colorSwatch options tree
  · exact run_accessibleEmoji_footnoteTitles options tree
  · rfl

end

/-- Passes over looks give the same in any order. -/
theorem finish_perm (options : Options) {passes others : List HtmlPass}
    (same : passes.Perm others) (decorative : ∀ pass ∈ passes, pass ∈ decorations) (tree : Html) :
    Pipeline.finish options passes tree = Pipeline.finish options others tree := by
  induction same generalizing tree with
  | nil => rfl
  | cons pass _ ih =>
    rw [Pipeline.finish_cons, Pipeline.finish_cons,
      ih fun other member => decorative other (List.mem_cons_of_mem _ member)]
  | swap pass other rest =>
    obtain ⟨isOther, later⟩ := List.forall_mem_cons.1 decorative
    obtain ⟨isPass, _⟩ := List.forall_mem_cons.1 later
    simp only [Pipeline.finish_cons, run_comm options tree isPass isOther,
      run_of_mem_decorations isPass, run_of_mem_decorations isOther]
  | trans one _ ihOne ihTwo =>
    rw [ihOne decorative, ihTwo fun pass member => decorative pass (one.mem_iff.2 member)]

/-- Two passes over looks can run in either order, and any number of them in any order. -/
theorem decorations_commute (options : Options) :
    (∀ first ∈ decorations, ∀ second ∈ decorations, ∀ tree,
      first.run options (second.run options tree).1 =
        second.run options (first.run options tree).1) ∧
    ∀ passes others, passes.Perm others → (∀ pass ∈ passes, pass ∈ decorations) → ∀ tree,
      Pipeline.finish options passes tree = Pipeline.finish options others tree :=
  ⟨fun _ one _ two tree => run_comm options tree one two,
    fun _ _ same decorative tree => finish_perm options same decorative tree⟩

/-- Inline code that is a color, after a back-reference. -/
def colorAndBackReference : Html :=
  .root
    [ .element { name := ['a'], attributes := [("href".toList, "#fnref-1".toList),
        (BackReferenceTitle.markName, [])] } [.text ['↩']],
      .element { name := "code".toList } [.text "#fff".toList] ]

/-- Swatches and titles in either order, and the passes over looks from the last to the first. -/
theorem decorations_commute_colorAndBackReference :
    colorSwatch.run {} (footnoteTitles.run {} colorAndBackReference).1 =
        footnoteTitles.run {} (colorSwatch.run {} colorAndBackReference).1 ∧
      Pipeline.finish {} decorations.reverse colorAndBackReference =
        Pipeline.finish {} decorations colorAndBackReference :=
  ⟨(decorations_commute {}).1 _ (by decide) _ (by decide) _,
    (decorations_commute {}).2 _ _ (List.reverse_perm decorations) (by decide) _⟩

end HtmlPass

end Manuscript
