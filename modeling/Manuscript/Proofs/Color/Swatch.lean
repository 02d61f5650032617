import Manuscript.Proofs.Color.Spelling
import Manuscript.Proofs.Html.Induction
import Manuscript.Proofs.Repetition.Decoration

/-!
# Swatches beside colors

A piece of inline code that spells a color, and nothing else, gets a swatch as its last child
(`Swatched`). That decides the tree with its swatches, and its text content stays. The style of a
swatch holds the color as it is spelled, and no character that could end the declaration or the
attribute it stands in (`swatchTree_spec`).
-/

namespace Manuscript.ColorSwatch

/-! ## Inline code that spells a color -/

/-- An element below this parent is inline code that spells this color: all that is inside are
texts, which together and without the blanks around them are the color. -/
structure IsColorCode (parent : Option Text) (tag : Tag) (children : List Html) (color : Text) :
    Prop where
  code : tag.name = "code".toList
  inline : parent ≠ some "pre".toList
  texts : ∀ child ∈ children, ∃ value, child = .text value
  trimmed : color = Text.trim (Html.textContentList children)
  isColor : isColor color = true

/-- Blanks around a text do not matter for whether it is a color. -/
theorem isColor_trim (text : Text) : isColor (Text.trim text) = isColor text := by
  rw [isColor, isColor, (Text.isTight_trim text).trim_eq]

/-- Siblings that are all texts are read as their text content, and no others are read. -/
theorem textOnly?_eq_some_iff {children : List Html} {text : Text} :
    textOnly? children = some text ↔
      (∀ child ∈ children, ∃ value, child = .text value) ∧
        text = Html.textContentList children := by
  induction children generalizing text with
  | nil => simp [textOnly?, Html.textContentList, eq_comm]
  | cons child rest ih =>
    cases child with
    | text value =>
      simp only [textOnly?, Option.map_eq_some_iff, ih, List.forall_mem_cons, Html.textContentList,
        Html.textContent]
      constructor
      · rintro ⟨_, ⟨texts, rfl⟩, rfl⟩
        exact ⟨⟨⟨value, rfl⟩, texts⟩, rfl⟩
      · rintro ⟨⟨_, texts⟩, rfl⟩
        exact ⟨_, ⟨texts, rfl⟩, rfl⟩
    | root children => simp [textOnly?]
    | element tag children => simp [textOnly?]
    | comment value => simp [textOnly?]
    | raw value => simp [textOnly?]

/-- A node that is no element stays. -/
theorem swatchNode_of_tag?_eq_none {node : Html} (leaf : node.tag? = none) (inPre : Bool) :
    swatchNode inPre node = node := by
  cases node with
  | element tag children => cases leaf
  | root children => rfl
  | text value => rfl
  | comment value => rfl
  | raw value => rfl

/-- Texts stay when swatches are added to their siblings. -/
theorem swatchList_of_texts {children : List Html} (inPre : Bool)
    (texts : ∀ child ∈ children, ∃ value, child = .text value) :
    swatchList inPre children = children := by
  induction children with
  | nil => rfl
  | cons child rest ih =>
    obtain ⟨⟨value, rfl⟩, others⟩ := List.forall_mem_cons.1 texts
    rw [swatchList, swatchNode_of_tag?_eq_none rfl, ih others]

/-- Swatches that are added below siblings do not make them texts. -/
theorem textOnly?_swatchList (inPre : Bool) (children : List Html) :
    textOnly? (swatchList inPre children) = textOnly? children := by
  induction children with
  | nil => rfl
  | cons child rest ih =>
    cases child with
    | text value => rw [swatchList, swatchNode_of_tag?_eq_none rfl, textOnly?, ih, textOnly?]
    | root children => rfl
    | element tag children => rw [swatchList, swatchNode]; rfl
    | comment value => rfl
    | raw value => rfl

/-! ## The relation -/

/-- Siblings below a parent, with swatches added to them and to all that is below. -/
inductive Swatched : Option Text → List Html → List Html → Prop
  | nil {parent : Option Text} : Swatched parent [] []
  /-- A node that is no element stays. -/
  | kept {parent : Option Text} {node : Html} {rest others : List Html} (leaf : node.tag? = none)
      (later : Swatched parent rest others) : Swatched parent (node :: rest) (node :: others)
  /-- Inline code that spells a color gets a swatch at the end. -/
  | color {parent : Option Text} {tag : Tag} {children : List Html} {color : Text}
      {rest others : List Html} (isCode : IsColorCode parent tag children color)
      (later : Swatched parent rest others) :
      Swatched parent (.element tag children :: rest)
        (.element tag (children ++ [swatch color]) :: others)
  /-- Any other element keeps its tag, and swatches are added below it. -/
  | inside {parent : Option Text} {tag : Tag} {children children' rest others : List Html}
      (other : ∀ color, ¬ IsColorCode parent tag children color)
      (below : Swatched (some tag.name) children children') (later : Swatched parent rest others) :
      Swatched parent (.element tag children :: rest) (.element tag children' :: others)

/-- Whether the parent of a node is preformatted. -/
def isPre (parent : Option Text) : Bool :=
  parent = some "pre".toList

/-- A code span that spells a color gets a swatch at its end. -/
theorem swatchNode_of_isColorCode {parent : Option Text} {tag : Tag} {children : List Html}
    {color : Text} (isCode : IsColorCode parent tag children color) :
    swatchNode (isPre parent) (.element tag children) =
      .element tag (children ++ [swatch color]) := by
  have code : (tag.name = "code".toList && !isPre parent) = true := by
    rw [isPre, decide_eq_false isCode.inline, isCode.code]
    rfl
  have read := textOnly?_eq_some_iff.2 ⟨isCode.texts, rfl⟩
  have colored := isCode.isColor
  rw [isCode.trimmed, isColor_trim] at colored
  rw [swatchNode, if_pos code, swatchList_of_texts _ isCode.texts, withSwatch, read]
  dsimp only
  rw [if_pos colored, isCode.trimmed]

/-- Any other element keeps its tag, and the pass goes on below it. -/
theorem swatchNode_of_not_isColorCode {parent : Option Text} {tag : Tag} {children : List Html}
    (other : ∀ color, ¬ IsColorCode parent tag children color) :
    swatchNode (isPre parent) (.element tag children) =
      .element tag (swatchList (isPre (some tag.name)) children) := by
  have below : decide (tag.name = "pre".toList) = isPre (some tag.name) := by simp [isPre]
  rw [swatchNode, below]
  split
  · rename_i isCode
    obtain ⟨code, inline⟩ : tag.name = "code".toList ∧ parent ≠ some "pre".toList := by
      simpa [isPre] using isCode
    rw [withSwatch, textOnly?_swatchList]
    cases read : textOnly? children with
    | none => rfl
    | some text =>
      obtain ⟨texts, rfl⟩ := textOnly?_eq_some_iff.1 read
      have plain : ¬ isColor (Html.textContentList children) = true := fun isColor =>
        other _ ⟨code, inline, texts, rfl, (isColor_trim _).trans isColor⟩
      dsimp only
      rw [if_neg plain]
  · rfl

/-- Siblings with swatches are decided by the siblings and their parent. -/
theorem Swatched.eq_swatchList {parent : Option Text} {siblings others : List Html}
    (swatched : Swatched parent siblings others) :
    others = swatchList (isPre parent) siblings := by
  induction swatched with
  | nil => rfl
  | kept leaf _ ih => rw [swatchList, swatchNode_of_tag?_eq_none leaf, ih]
  | color isCode _ ih => rw [swatchList, swatchNode_of_isColorCode isCode, ih]
  | inside other _ _ inner ih => rw [swatchList, swatchNode_of_not_isColorCode other, inner, ih]

/-- The pass adds swatches to a node in front of others, and to all siblings. -/
theorem swatched_swatchList :
    (∀ node : Html, ∀ parent rest others, Swatched parent rest others →
      Swatched parent (node :: rest) (swatchNode (isPre parent) node :: others)) ∧
    ∀ siblings, ∀ parent, Swatched parent siblings (swatchList (isPre parent) siblings) := by
  refine Html.induction ?_ ?_ ?_ ?_ ?_ ?_ ?_
  · exact fun children _ parent rest others later => .kept rfl later
  · intro tag children below parent rest others later
    by_cases isCode : ∃ color, IsColorCode parent tag children color
    · obtain ⟨color, isCode⟩ := isCode
      rw [swatchNode_of_isColorCode isCode]
      exact .color isCode later
    · have other := not_exists.1 isCode
      rw [swatchNode_of_not_isColorCode other]
      exact .inside other (below _) later
  · exact fun value parent rest others later => .kept rfl later
  · exact fun value parent rest others later => .kept rfl later
  · exact fun value parent rest others later => .kept rfl later
  · exact fun parent => .nil
  · exact fun node rest own later parent => own parent _ _ (later parent)

/-- Siblings are swatched in one way only, which is what the pass makes of them. -/
theorem swatched_iff {parent : Option Text} {siblings others : List Html} :
    Swatched parent siblings others ↔ others = swatchList (isPre parent) siblings :=
  ⟨Swatched.eq_swatchList, fun same => same ▸ swatched_swatchList.2 siblings parent⟩

/-- A tree with swatches: a root has them below it, and any other node is one of its own, without a
parent. -/
def SwatchedTree : Html → Html → Prop
  | .root children, other => ∃ children', other = .root children' ∧ Swatched none children children'
  | node, other => Swatched none [node] [other]

/-- A tree is swatched in one way only, which is what the pass makes of it. -/
theorem swatchedTree_iff {tree other : Html} :
    SwatchedTree tree other ↔ other = swatchTree tree := by
  have alone (node : Html) : Swatched none [node] [other] ↔ other = swatchNode false node := by
    rw [swatched_iff, swatchList, swatchList, List.singleton_inj]
    rfl
  cases tree with
  | root children =>
    have below (children' : List Html) :
        Swatched none children children' ↔ children' = swatchList false children := swatched_iff
    simp only [SwatchedTree, below, exists_eq_right, swatchTree]
  | element tag children => exact alone _
  | text value => exact alone _
  | comment value => exact alone _
  | raw value => exact alone _

/-! ## What stays, and what a swatch holds -/

/-- There is no text in a swatch. -/
theorem textContentList_append_swatch (children : List Html) (color : Text) :
    Html.textContentList (children ++ [swatch color]) = Html.textContentList children := by
  have empty : Html.textContentList [swatch color] = [] := rfl
  rw [Html.textContentList_append, empty, List.append_nil]

/-- Swatches add no text. -/
theorem Swatched.textContentList_eq {parent : Option Text} {siblings others : List Html}
    (swatched : Swatched parent siblings others) :
    Html.textContentList others = Html.textContentList siblings := by
  induction swatched with
  | nil => rfl
  | kept leaf _ ih => rw [Html.textContentList, ih, Html.textContentList]
  | color isCode _ ih =>
    rw [Html.textContentList, Html.textContent, textContentList_append_swatch, ih,
      Html.textContentList, Html.textContent]
  | inside other _ _ inner ih =>
    rw [Html.textContentList, Html.textContent, inner, ih, Html.textContentList, Html.textContent]

/-- The pass keeps the text of a tree. -/
theorem textContent_swatchTree (tree : Html) :
    (swatchTree tree).textContent = tree.textContent := by
  have swatched := swatchedTree_iff.2 (rfl : swatchTree tree = _)
  have alone {node other : Html} (same : Swatched none [node] [other]) :
      other.textContent = node.textContent := by
    have contents := same.textContentList_eq
    simpa only [Html.textContentList, List.append_nil] using contents
  cases tree with
  | root children =>
    obtain ⟨children', same, below⟩ := swatched
    rw [same, Html.textContent, below.textContentList_eq, Html.textContent]
  | element tag children => exact alone swatched
  | text value => exact alone swatched
  | comment value => exact alone swatched
  | raw value => exact alone swatched

/-- The signs that could end a declaration, or the attribute or the tag it stands in. -/
def endingSigns : List Char :=
  [';', ':', '"', '\'', '<', '>', '{', '}']

/-- No sign that ends a declaration stands in a color. -/
theorem not_mem_endingSigns_of_isSpellingChar {c : Char} (spelled : isSpellingChar c = true) :
    c ∉ endingSigns := by
  have none : endingSigns.all (!isSpellingChar ·) = true := by decide
  intro member
  have other := List.all_eq_true.1 none c member
  rw [spelled] at other
  cases other

/-- The styles of the elements just below a node. -/
def styles (node : Html) : List (Option Text) :=
  node.children.map (·.attribute? "style".toList)

/-- A tree with its swatches is decided by which pieces of inline code spell a color, and the text
content of each of these and of the whole tree stays. The style of a swatch is a declaration of the
color as it is spelled, and nothing in the color can end it. -/
theorem swatchTree_spec (tree : Html) :
    (∀ other, other = swatchTree tree ↔ SwatchedTree tree other) ∧
    (swatchTree tree).textContent = tree.textContent ∧
    (∀ children color,
      Html.textContentList (children ++ [swatch color]) = Html.textContentList children) ∧
    ∀ text, isColor text = true →
      styles (swatch (Text.trim text)) =
          [some ("background-color: ".toList ++ Text.trim text ++ [';'])] ∧
        ∀ c ∈ Text.trim text, c ∉ endingSigns := by
  refine ⟨fun other => swatchedTree_iff.symm, textContent_swatchTree tree,
    textContentList_append_swatch, fun text colored => ⟨rfl, fun c member => ?_⟩⟩
  have spelled := isSpellingChar_of_isColor ((isColor_trim text).trans colored)
  exact not_mem_endingSigns_of_isSpellingChar (spelled c member)

/-- A piece of inline code that spells white, with a blank before it. -/
def whiteCode : Html :=
  .element { name := "code".toList } [.text " #fff".toList]

/-- The swatch beside this code has the style of white, without the blank. -/
theorem swatchTree_spec_whiteCode :
    isColor " #fff".toList = true ∧ SwatchedTree whiteCode (swatchTree whiteCode) ∧
      styles (swatch "#fff".toList) = [some "background-color: #fff;".toList] ∧
      ∀ c ∈ "#fff".toList, c ∉ endingSigns := by
  have white : isColor " #fff".toList = true := by decide
  have trimmed : Text.trim " #fff".toList = "#fff".toList := by decide
  obtain ⟨decides, _, _, style⟩ := swatchTree_spec whiteCode
  have written := style " #fff".toList white
  rw [trimmed] at written
  exact ⟨white, (decides _).1 rfl, written⟩

end Manuscript.ColorSwatch
