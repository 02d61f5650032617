import Manuscript.Pass
import Manuscript.Proofs.Contents.Listing
import Manuscript.Proofs.Heading.Kept
import Manuscript.Proofs.Repetition.Heading

/-!
# Where the table of contents is filled

The heading of the table is the first of the outline of a tree with such a text. Its section is what
stands among its siblings up to the next heading of its level or above, and only that is replaced,
by a list for the headings in the siblings after the section (`toc_run`). The list takes the place
of nothing else, and the headings in it are still there.

Roots inside a tree are passed over, as by all passes, so a heading in one is not listed
(`rootedHeading_is_not_listed`). Nor is a heading that is not in the siblings: where the heading of
the table stands in a quotation or in an item, the list lacks all headings after that, or is missing
(`toc_lists_all_iff`, `quotedContents_lists_nothing`).
-/

namespace Manuscript

namespace Contents

/-! ## The outline of a tree -/

/-- A heading of a tree. -/
structure Headline where
  /-- Level of the heading. -/
  level : Nat
  /-- Tag of the heading. -/
  tag : Tag
  /-- What is in the heading. -/
  children : List Html

/-- The text of a heading, without the white space around it. -/
def Headline.text (heading : Headline) : Text :=
  Text.trim (Html.textContentList heading.children)

/-- The entry of a heading that has an identifier and is not too deep. -/
def Headline.listing? (maxDepth : Nat) (heading : Headline) : Option Entry :=
  if heading.level ≤ maxDepth then
    (heading.tag.attribute? "id".toList).map fun id => ⟨heading.level, id, heading.text⟩
  else none

mutual

/-- The headings at any depth of a node, in document order, but for those among the footnotes or in
another heading. -/
def outlineNode : Html → List Headline
  | .element tag children =>
    if Html.isFootnoteSection tag then []
    else
      match Html.headingLevel? tag.name with
      | some level => [⟨level, tag, children⟩]
      | none => outlineList children
  | _ => []

/-- The headings at any depth of a list of siblings, in document order. -/
def outlineList : List Html → List Headline
  | [] => []
  | node :: rest => outlineNode node ++ outlineList rest

end

/-- The entries of the headings of siblings. -/
def listed (maxDepth : Nat) (nodes : List Html) : List Entry :=
  (outlineList nodes).filterMap (Headline.listing? maxDepth)

/-- The headings of two lists are those of the one and then those of the other. -/
theorem outlineList_append (front back : List Html) :
    outlineList (front ++ back) = outlineList front ++ outlineList back := by
  induction front with
  | nil => rfl
  | cons node rest ih => rw [List.cons_append, outlineList, ih, outlineList, List.append_assoc]

/-- The headings listed from two lists are those from the one and then those from the other. -/
theorem listed_append (maxDepth : Nat) (front back : List Html) :
    listed maxDepth (front ++ back) = listed maxDepth front ++ listed maxDepth back := by
  rw [listed, outlineList_append, List.filterMap_append, listed, listed]

/-- A heading is all that is outlined of it. -/
theorem outlineNode_heading {tag : Tag} {level : Nat}
    (isHeading : Html.headingLevel? tag.name = some level) (children : List Html) :
    outlineNode (.element tag children) = [⟨level, tag, children⟩] := by
  rw [outlineNode, Html.isFootnoteSection_of_headingLevel? isHeading, isHeading]
  rfl

/-- Of an element that is no heading and no footnote section, the headings in it are outlined. -/
theorem outlineNode_container {tag : Tag} (notFootnotes : Html.isFootnoteSection tag = false)
    (noHeading : Html.headingLevel? tag.name = none) (children : List Html) :
    outlineNode (.element tag children) = outlineList children := by
  rw [outlineNode, notFootnotes, noHeading]
  rfl

/-- A heading is an entry exactly when it is listed. -/
theorem entry?_eq_listing? (maxDepth level : Nat) (tag : Tag) (children : List Html) :
    entry? maxDepth level tag children =
      [(⟨level, tag, children⟩ : Headline)].filterMap (Headline.listing? maxDepth) := by
  rw [List.filterMap_cons, entry?, Headline.listing?]
  cases tag.attribute? "id".toList with
  | none => split <;> simp_all
  | some id => by_cases shallow : level ≤ maxDepth <;> simp [shallow, Headline.text]

/-- The entries are collected from the headings of the outline. -/
theorem collect_eq_listed (maxDepth : Nat) :
    (∀ tree : Html, collectNode maxDepth tree =
      (outlineNode tree).filterMap (Headline.listing? maxDepth)) ∧
    ∀ nodes, collectList maxDepth nodes = listed maxDepth nodes := by
  refine Html.induction ?_ ?_ ?_ ?_ ?_ ?_ ?_
  · exact fun children _ => rfl
  · intro tag children below
    rw [collectNode, outlineNode]
    split
    · rfl
    · cases Html.headingLevel? tag.name with
      | some level => exact entry?_eq_listing? maxDepth level tag children
      | none => exact below
  · exact fun value => rfl
  · exact fun value => rfl
  · exact fun value => rfl
  · rw [collectList]; rfl
  · intro node rest own later
    rw [collectList, own, later, listed, listed, outlineList, List.filterMap_append]

/-! ## Places in a tree -/

/-- A place among the nodes of a list or deeper in one of them, by what stands around it. -/
inductive Place where
  /-- Behind some nodes of the list. -/
  | here (front : List Html)
  /-- In an element of the list. -/
  | inside (front : List Html) (tag : Tag) (below : Place) (rest : List Html)

namespace Place

/-- The list with the given siblings at a place. -/
def put : Place → List Html → List Html
  | here front, siblings => front ++ siblings
  | inside front tag below rest, siblings => front ++ .element tag (below.put siblings) :: rest

/-- What stands after all siblings at a place, in document order. -/
def outer : Place → List Html
  | here _ => []
  | inside _ _ below rest => below.outer ++ rest

/-- What stands in a place can be told from the whole. -/
theorem put_injective (place : Place) : Function.Injective place.put := by
  intro siblings others same
  induction place with
  | here front => exact List.append_cancel_left same
  | inside front tag below rest ih =>
    have := List.append_cancel_left same
    injection this with element
    injection element with _ children
    exact ih children

/-- A place is right behind the heading of the table: the first in the outline of the list whose
text is that of a table of contents. -/
inductive IsBehindTitle (isTitle : Text → Bool) : Place → Nat → Prop
  | here {front : List Html} {tag : Tag} {children : List Html} {level : Nat}
      (before : ∀ heading ∈ outlineList front, isTitle heading.text = false)
      (isHeading : Html.headingLevel? tag.name = some level)
      (titled : isTitle (Text.trim (Html.textContentList children)) = true) :
      IsBehindTitle isTitle (.here (front ++ [.element tag children])) level
  | inside {front : List Html} {tag : Tag} {below : Place} {rest : List Html} {level : Nat}
      (before : ∀ heading ∈ outlineList front, isTitle heading.text = false)
      (notFootnotes : Html.isFootnoteSection tag = false)
      (noHeading : Html.headingLevel? tag.name = none)
      (isBehind : IsBehindTitle isTitle below level) :
      IsBehindTitle isTitle (.inside front tag below rest) level

end Place

/-! ## The search for the heading -/

section Search

variable {isTitle : Text → Bool}

/-- The heading of a table has its level. -/
theorem titleLevel?_of_title {tag : Tag} {children : List Html} {level : Nat}
    (isHeading : Html.headingLevel? tag.name = some level)
    (titled : isTitle (Text.trim (Html.textContentList children)) = true) :
    titleLevel? isTitle (.element tag children) = some level := by
  rw [titleLevel?, Html.isFootnoteSection_of_headingLevel? isHeading, isHeading, titled]
  rfl

/-- Nothing is filled where the outline has no heading of a table. -/
theorem fill_eq_none (maxDepth : Nat) :
    (∀ tree : Html, (∀ heading ∈ outlineNode tree, isTitle heading.text = false) →
      titleLevel? isTitle tree = none ∧ fillNode? isTitle maxDepth tree = none) ∧
    ∀ nodes, (∀ heading ∈ outlineList nodes, isTitle heading.text = false) →
      fillList? isTitle maxDepth nodes = none := by
  refine Html.induction ?_ ?_ ?_ ?_ ?_ ?_ ?_
  · exact fun children _ _ => ⟨rfl, rfl⟩
  · intro tag children below untitled
    rw [titleLevel?, fillNode?]
    by_cases footnotes : Html.isFootnoteSection tag = true
    · rw [footnotes]
      exact ⟨rfl, rfl⟩
    · rw [Bool.not_eq_true] at footnotes
      cases isHeading : Html.headingLevel? tag.name with
      | some level =>
        rw [outlineNode_heading isHeading] at untitled
        have other := untitled _ List.mem_cons_self
        rw [Headline.text] at other
        simp [footnotes, other]
      | none =>
        rw [outlineNode_container footnotes isHeading] at untitled
        simp [footnotes, below untitled]
  · exact fun value _ => ⟨rfl, rfl⟩
  · exact fun value _ => ⟨rfl, rfl⟩
  · exact fun value _ => ⟨rfl, rfl⟩
  · exact fun _ => rfl
  · intro node rest own later untitled
    obtain ⟨here, behind⟩ := List.forall_mem_append.1 untitled
    obtain ⟨noTitle, unfilled⟩ := own here
    rw [fillList?, noTitle]
    dsimp only
    rw [unfilled, later behind]
    rfl

/-- Nodes without the heading of a table stay as they are. -/
theorem fillList?_append (maxDepth : Nat) {front : List Html}
    (before : ∀ heading ∈ outlineList front, isTitle heading.text = false) (back : List Html) :
    fillList? isTitle maxDepth (front ++ back) =
      (fillList? isTitle maxDepth back).map (front ++ ·) := by
  induction front with
  | nil => simp
  | cons node rest ih =>
    obtain ⟨here, behind⟩ := List.forall_mem_append.1 before
    obtain ⟨noTitle, unfilled⟩ := (fill_eq_none maxDepth).1 node here
    rw [List.cons_append, fillList?, noTitle]
    dsimp only
    rw [unfilled]
    dsimp only
    rw [ih behind, Option.map_map]
    rfl

/-- The table is filled at the place right behind its heading. -/
theorem Place.IsBehindTitle.fillList? {place : Place} {level : Nat}
    (isBehind : place.IsBehindTitle isTitle level) (maxDepth : Nat) (siblings : List Html) :
    Contents.fillList? isTitle maxDepth (place.put siblings) =
      some (place.put (fill maxDepth level siblings)) := by
  induction isBehind with
  | here before isHeading titled =>
    rw [put, put, List.append_assoc, fillList?_append maxDepth before, List.singleton_append,
      Contents.fillList?, titleLevel?_of_title isHeading titled, List.append_assoc]
    rfl
  | inside before notFootnotes noHeading isBehind ih =>
    rw [put, put, fillList?_append maxDepth before, Contents.fillList?, titleLevel?, fillNode?,
      notFootnotes, noHeading, ih]
    rfl

/-- The outline of a list goes on behind the heading of the table with the outline of its siblings
and of what is after them. -/
theorem Place.IsBehindTitle.outlineList_put {place : Place} {level : Nat}
    (isBehind : place.IsBehindTitle isTitle level) (siblings : List Html) :
    ∃ before title, outlineList (place.put siblings) =
        before ++ title :: outlineList (siblings ++ place.outer) ∧
      (∀ heading ∈ before, isTitle heading.text = false) ∧ isTitle title.text = true ∧
      title.level = level := by
  induction isBehind with
  | @here front tag children level before isHeading titled =>
    refine ⟨outlineList front, ⟨level, tag, children⟩, ?_, before, titled, rfl⟩
    rw [put, outer, outlineList_append, outlineList_append, outlineList, List.append_nil,
      outlineNode_heading isHeading]
    simp [outlineList]
  | @inside front tag below rest level untitled notFootnotes noHeading isBehind ih =>
    obtain ⟨before, title, outline, others, titled, ofLevel⟩ := ih
    refine ⟨outlineList front ++ before, title, ?_, List.forall_mem_append.2 ⟨untitled, others⟩,
      titled, ofLevel⟩
    rw [put, outer, outlineList_append, outlineList, outlineNode_container notFootnotes noHeading,
      outline, ← List.append_assoc siblings, outlineList_append (siblings ++ below.outer)]
    simp

/-- A node is the heading of a table, or the first one is inside it. -/
inductive HoldsTitle (isTitle : Text → Bool) : Html → Prop
  | heading {tag : Tag} {children : List Html} {level : Nat}
      (isHeading : Html.headingLevel? tag.name = some level)
      (titled : isTitle (Text.trim (Html.textContentList children)) = true) :
      HoldsTitle isTitle (.element tag children)
  | inside {tag : Tag} {place : Place} {level : Nat} {siblings : List Html}
      (notFootnotes : Html.isFootnoteSection tag = false)
      (noHeading : Html.headingLevel? tag.name = none)
      (isBehind : place.IsBehindTitle isTitle level) :
      HoldsTitle isTitle (.element tag (place.put siblings))

/-- There is a place right behind the heading of the table in the nodes of a list. -/
def HasTitle (isTitle : Text → Bool) (nodes : List Html) : Prop :=
  ∃ (place : Place) (level : Nat) (siblings : List Html),
    nodes = place.put siblings ∧ place.IsBehindTitle isTitle level

/-- The first heading that is a title may have any siblings after it. -/
theorem HoldsTitle.hasTitle {front : List Html} {node : Html} (holds : HoldsTitle isTitle node)
    (before : ∀ heading ∈ outlineList front, isTitle heading.text = false) (rest : List Html) :
    HasTitle isTitle (front ++ node :: rest) := by
  cases holds with
  | @heading tag children level isHeading titled =>
    exact ⟨.here (front ++ [.element tag children]), level, rest, by simp [Place.put],
      .here before isHeading titled⟩
  | @inside tag place level siblings notFootnotes noHeading isBehind =>
    exact ⟨.inside front tag place rest, level, siblings, rfl,
      .inside before notFootnotes noHeading isBehind⟩

/-- An element is or holds the heading of a table if its outline has one. -/
theorem holdsTitle_element (tag : Tag) {children : List Html}
    (below : (∀ heading ∈ outlineList children, isTitle heading.text = false) ∨
      HasTitle isTitle children) :
    (∀ heading ∈ outlineNode (.element tag children), isTitle heading.text = false) ∨
      HoldsTitle isTitle (.element tag children) := by
  by_cases footnotes : Html.isFootnoteSection tag = true
  · refine .inl fun heading member => ?_
    rw [outlineNode, footnotes] at member
    cases member
  · rw [Bool.not_eq_true] at footnotes
    cases isHeading : Html.headingLevel? tag.name with
    | some level =>
      cases titled : isTitle (Text.trim (Html.textContentList children)) with
      | true => exact .inr (.heading isHeading titled)
      | false =>
        rw [outlineNode_heading isHeading]
        exact .inl (List.forall_mem_singleton.2 titled)
    | none =>
      rw [outlineNode_container footnotes isHeading]
      rcases below with untitled | ⟨place, level, siblings, rfl, isBehind⟩
      · exact .inl untitled
      · exact .inr (.inside footnotes isHeading isBehind)

/-- The outline of a list has no heading of a table, or there is a place right behind the first one.
What stands before the list may be left out of the search if it has none. -/
theorem hasTitle_or (isTitle : Text → Bool) :
    (∀ tree : Html, (∀ heading ∈ outlineNode tree, isTitle heading.text = false) ∨
      HoldsTitle isTitle tree) ∧
    ∀ nodes front : List Html, (∀ heading ∈ outlineList front, isTitle heading.text = false) →
      (∀ heading ∈ outlineList nodes, isTitle heading.text = false) ∨
        HasTitle isTitle (front ++ nodes) := by
  refine Html.induction ?_ ?_ ?_ ?_ ?_ ?_ ?_
  · exact fun children _ => .inl fun _ none => nomatch none
  · exact fun tag children below => holdsTitle_element tag (below [] fun _ none => nomatch none)
  · exact fun value => .inl fun _ none => nomatch none
  · exact fun value => .inl fun _ none => nomatch none
  · exact fun value => .inl fun _ none => nomatch none
  · exact fun front _ => .inl fun _ none => nomatch none
  · intro node rest own later front before
    rcases own with untitled | holds
    · have all : ∀ heading ∈ outlineList (front ++ [node]), isTitle heading.text = false := by
        rw [outlineList_append, outlineList, outlineList, List.append_nil]
        exact List.forall_mem_append.2 ⟨before, untitled⟩
      rcases later (front ++ [node]) all with none | found
      · exact .inl (List.forall_mem_append.2 ⟨untitled, none⟩)
      · rw [List.append_assoc] at found
        exact .inr found
    · exact .inr (holds.hasTitle before rest)

end Search

/-! ## The section -/

/-- The section of a heading among the siblings after it, and the siblings after the section: it
goes up to the next heading of the level or above. -/
structure IsSection (level : Nat) (content after : List Html) : Prop where
  /-- No heading that ends the section is in it. -/
  inside : ∀ node ∈ content, endsSection level node = false
  /-- What is after the section begins with the heading that ends it. -/
  ends : ∀ next ∈ after.head?, endsSection level next = true

/-- Every heading has a section, which ends before the next one that is no deeper. -/
theorem exists_isSection (level : Nat) (siblings : List Html) :
    ∃ content after, siblings = content ++ after ∧ IsSection level content after := by
  refine ⟨_, _, (siblings.takeWhile_append_dropWhile
    (p := fun node => !endsSection level node)).symm, ?_, ?_⟩
  · intro node member
    have := List.mem_takeWhile_imp member
    simpa using this
  · intro next isNext
    have := List.head?_dropWhile_not (fun node => !endsSection level node) siblings
    rw [Option.mem_def.1 isNext] at this
    simpa using this

/-- The list takes the place of the section if a heading that can be listed follows. -/
theorem fill_section {level : Nat} {content after : List Html}
    (isSection : IsSection level content after) (maxDepth : Nat) :
    fill maxDepth level (content ++ after) =
      if listed maxDepth after = [] then content ++ after
      else newline :: list (listed maxDepth after) :: newline :: after := by
  have split : (content ++ after).dropWhile (fun node => !endsSection level node) = after := by
    rw [List.dropWhile_append_of_pos fun node member => by simp [isSection.inside node member]]
    cases after with
    | nil => rfl
    | cons next rest => exact List.dropWhile_cons_of_neg (by simp [isSection.ends next rfl])
  rw [fill, split, (collect_eq_listed maxDepth).2]
  cases entries : listed maxDepth after with
  | nil => rfl
  | cons entry rest =>
    have follows : after.isEmpty = false := by
      cases after with
      | nil => cases entries
      | cons next others => rfl
    rw [follows]
    rfl

/-! ## The tree -/

/-- A tree with other nodes below its top. -/
def withChildren : Html → List Html → Html
  | .root _, children => .root children
  | .element tag _, children => .element tag children
  | node, _ => node

/-- A tree with its own children is itself. -/
theorem withChildren_children (tree : Html) : withChildren tree tree.children = tree := by
  cases tree <;> rfl

/-- The pass fills the list of children of a tree, or leaves it as it is. -/
theorem fillTree_eq (isTitle : Text → Bool) (maxDepth : Nat) (tree : Html) :
    fillTree isTitle maxDepth tree =
      withChildren tree ((fillList? isTitle maxDepth tree.children).getD tree.children) := by
  cases tree <;> rfl

/-- The table is filled at the place right behind its heading, and nothing else is. -/
theorem fillTree_put {isTitle : Text → Bool} {place : Place} {level : Nat} {siblings : List Html}
    (tree : Html) (isBehind : place.IsBehindTitle isTitle level)
    (whole : tree.children = place.put siblings) (maxDepth : Nat) :
    fillTree isTitle maxDepth tree =
      withChildren tree (place.put (fill maxDepth level siblings)) := by
  rw [fillTree_eq, whole, isBehind.fillList?, Option.getD_some]

/-- Nodes begin with a list that has the links of entries. -/
def BeginWithList (entries : List Entry) (nodes : List Html) : Prop :=
  ∃ table rest, nodes = newline :: table :: rest ∧ table.isElement "ul".toList = true ∧
    links table = entries.map fun entry =>
      .element { name := ['a'], attributes := [("href".toList, '#' :: entry.id)] }
        [.text entry.text]

/-- When some heading after a section can be listed, be it among the siblings or after all of them,
the list that the section is filled with has all such headings if and only if they are among the
siblings. Where none of them is, nothing is filled. -/
theorem beginWithList_fill_iff {maxDepth level : Nat} {content after outer : List Html}
    (isSection : IsSection level content after) (follow : listed maxDepth (after ++ outer) ≠ []) :
    BeginWithList (listed maxDepth (after ++ outer)) (fill maxDepth level (content ++ after)) ↔
      listed maxDepth outer = [] ∨ listed maxDepth after = [] ∧
        BeginWithList (listed maxDepth (after ++ outer)) (content ++ after) := by
  have parts := listed_append maxDepth after outer
  rw [fill_section isSection]
  constructor
  · intro begins
    by_cases none : listed maxDepth after = []
    · rw [if_pos none] at begins
      exact .inr ⟨none, begins⟩
    · rw [if_neg none] at begins
      obtain ⟨table, rest, same, -, linked⟩ := begins
      injection same with _ tables
      injection tables with ofAfter _
      have count := congrArg List.length linked
      rw [← ofAfter, (lists_list _).links_eq, List.length_map, List.length_map, parts,
        List.length_append] at count
      exact .inl (List.eq_nil_of_length_eq_zero (by omega))
  · rintro (noOuter | ⟨none, begins⟩)
    · rw [noOuter, List.append_nil] at parts
      rw [if_neg (parts ▸ follow), parts]
      exact ⟨_, _, rfl, rfl, (lists_list _).links_eq⟩
    · rwa [if_pos none]

end Contents

namespace HtmlPass

open Contents

/-- The table of contents leaves a tree as it is, or it replaces the section of the first heading of
a table in the outline by one nested list, with line feeds around it. The list is one for the
headings with an identifier and of no greater depth than the options say that are at any depth of
the siblings after the section, and these siblings stay. The tree stays as it is only if there is no
heading of a table or no heading to be listed after its section. -/
theorem toc_run (options : Options) (tree : Html) :
    let isTitle := options.toc.isTitle
    let maxDepth := options.toc.maxDepth
    let filled := (toc.run options tree).1
    ((∀ heading ∈ outlineList tree.children, isTitle heading.text = false) ∧ filled = tree) ∨
      ∃ (place : Place) (level : Nat) (content after : List Html),
        tree.children = place.put (content ++ after) ∧ place.IsBehindTitle isTitle level ∧
        IsSection level content after ∧
        ((listed maxDepth after = [] ∧ filled = tree) ∨
          ∃ table, Lists table (listed maxDepth after) ∧ after ≠ [] ∧
            filled = withChildren tree (place.put (newline :: table :: newline :: after))) := by
  intro isTitle maxDepth filled
  rcases (hasTitle_or isTitle).2 tree.children [] (fun _ none => nomatch none) with
    untitled | ⟨place, level, siblings, whole, isBehind⟩
  · refine .inl ⟨untitled, ?_⟩
    have unfilled := (fill_eq_none maxDepth).2 tree.children untitled
    change fillTree isTitle maxDepth tree = tree
    rw [fillTree_eq, unfilled, Option.getD_none, withChildren_children]
  · obtain ⟨content, after, rfl, isSection⟩ := exists_isSection level siblings
    refine .inr ⟨place, level, content, after, whole, isBehind, isSection, ?_⟩
    have run : filled = _ := fillTree_put tree isBehind whole maxDepth
    rw [run, fill_section isSection]
    by_cases none : listed maxDepth after = []
    · refine .inl ⟨none, ?_⟩
      rw [if_pos none, ← whole, List.nil_append, withChildren_children]
    · refine .inr ⟨_, lists_list _, fun nothing => none ?_, by rw [if_neg none]⟩
      rw [nothing]
      rfl

/-- A heading of the second level. -/
def secondHeading (attributes : List (Text × Text)) (text : Text) : Html :=
  .element { name := "h2".toList, attributes } [.text text]

/-- The place behind the heading of a table, as the options have it at first. -/
def behindContents : Place :=
  .here [secondHeading [] "Contents".toList]

/-- The place is behind a title in a quote, on the second level. -/
theorem isBehindTitle_behindContents :
    behindContents.IsBehindTitle ({} : Options).toc.isTitle 2 :=
  have title : ({} : Options).toc.isTitle "Contents".toList = true := by decide +kernel
  @Place.IsBehindTitle.here _ [] _ _ _ (fun _ none => nomatch none) rfl title

/-- A heading, and another one that stands in a root of its own. -/
def headingsApart : List Html :=
  [secondHeading [("id".toList, ['a'])] ['A'], .root [secondHeading [("id".toList, ['b'])] ['B']]]

/-- The section is empty, since a heading of the same level follows at once. -/
theorem isSection_headingsApart : IsSection 2 [] headingsApart where
  inside := fun _ none => absurd none List.not_mem_nil
  ends := fun next isNext => by cases isNext; rfl

/-- A heading in a root inside the tree is not listed, though it is in the siblings after the
section. -/
theorem rootedHeading_is_not_listed :
    let listedEntry : Entry := ⟨2, ['a'], ['A']⟩
    (toc.run {} (.root (behindContents.put headingsApart))).1 =
        .root (behindContents.put (newline :: list [listedEntry] :: newline :: headingsApart)) ∧
      links (list [listedEntry]) = [link listedEntry] ∧
      (2, some ['b']) ∈ Html.headingsList headingsApart := by
  intro listedEntry
  have entries : listed 6 headingsApart = [listedEntry] := by decide
  refine ⟨?_, (lists_list _).links_eq, by decide⟩
  have run := fillTree_put (.root (behindContents.put headingsApart))
    isBehindTitle_behindContents rfl 6
  rw [← List.nil_append headingsApart, fill_section isSection_headingsApart, entries,
    if_neg (List.cons_ne_nil _ _)] at run
  exact run

/-! ## Headings outside the siblings -/

/-- The headings behind the heading of the table are those in its siblings and those in what is
after all of its siblings. When some heading after the section can be listed, all such headings are
listed behind the heading of the table if and only if they are all in its siblings (or if none of
them is there, nothing is filled, and the very list stands there from the start). -/
theorem toc_lists_all_iff (options : Options) {place : Place} {level : Nat}
    {content after : List Html} (isBehind : place.IsBehindTitle options.toc.isTitle level)
    (isSection : IsSection level content after)
    (follow : listed options.toc.maxDepth (after ++ place.outer) ≠ []) :
    let siblings := content ++ after
    let later := listed options.toc.maxDepth (after ++ place.outer)
    (∃ before title, outlineList (place.put siblings) =
        before ++ title :: (outlineList content ++ outlineList (after ++ place.outer)) ∧
      (∀ heading ∈ before, options.toc.isTitle heading.text = false) ∧
      options.toc.isTitle title.text = true ∧ title.level = level) ∧
    ((∃ nodes, (toc.run options (.root (place.put siblings))).1 = .root (place.put nodes) ∧
        BeginWithList later nodes) ↔
      listed options.toc.maxDepth place.outer = [] ∨
        listed options.toc.maxDepth after = [] ∧ BeginWithList later siblings) := by
  intro siblings later
  constructor
  · obtain ⟨before, title, outline, rest⟩ := isBehind.outlineList_put siblings
    refine ⟨before, title, ?_, rest⟩
    rw [outline, List.append_assoc, outlineList_append]
  · have run : (toc.run options (.root (place.put siblings))).1 =
        .root (place.put (fill options.toc.maxDepth level siblings)) :=
      fillTree_put (.root (place.put siblings)) isBehind rfl options.toc.maxDepth
    rw [← beginWithList_fill_iff isSection follow]
    constructor
    · rintro ⟨nodes, same, begins⟩
      injection run.symm.trans same with children
      rwa [place.put_injective children]
    · exact fun begins => ⟨_, run, begins⟩

/-- A place behind the heading of a table in an element that has another heading before it. -/
def behindInnerContents : Place :=
  .inside [.element { name := "h1".toList } [.text ['T']]] { name := "main".toList } behindContents
    [.element { name := "p".toList } [.text ['p']]]

/-- Two headings, with deeper ones in a quotation and in wrappers between them. -/
def nestedHeadings : List Html :=
  let heading (name : String) (id text : Text) : Html :=
    .element { name := name.toList, attributes := [("id".toList, id)] } [.text text]
  [ heading "h2" ['a'] ['A'],
    .element { name := "blockquote".toList }
      [heading "h3" ['b'] ['B'], .element { name := "p".toList } [.text ['q']]],
    .element { name := "div".toList }
      [.element { name := "div".toList } [heading "h4" ['c'] ['C']]],
    heading "h2" ['d'] ['D'] ]

/-- A table in the siblings of the headings lists them all, however deep they are. -/
theorem toc_lists_all_nestedHeadings :
    listed 6 (nestedHeadings ++ behindInnerContents.outer) =
        [⟨2, ['a'], ['A']⟩, ⟨3, ['b'], ['B']⟩, ⟨4, ['c'], ['C']⟩, ⟨2, ['d'], ['D']⟩] ∧
      ∃ nodes, (toc.run {} (.root (behindInnerContents.put nestedHeadings))).1 =
          .root (behindInnerContents.put nodes) ∧
        BeginWithList (listed 6 (nestedHeadings ++ behindInnerContents.outer)) nodes := by
  have entries : listed 6 (nestedHeadings ++ behindInnerContents.outer) =
      [⟨2, ['a'], ['A']⟩, ⟨3, ['b'], ['B']⟩, ⟨4, ['c'], ['C']⟩, ⟨2, ['d'], ['D']⟩] := by decide
  have untitled : ({} : Options).toc.isTitle ['T'] = false := by decide +kernel
  have isBehind : behindInnerContents.IsBehindTitle ({} : Options).toc.isTitle 2 :=
    .inside (List.forall_mem_singleton.2 untitled) rfl rfl isBehindTitle_behindContents
  have isSection : IsSection 2 [] nestedHeadings :=
    ⟨fun _ none => absurd none List.not_mem_nil, fun next isNext => by cases isNext; rfl⟩
  have follow : listed 6 (nestedHeadings ++ behindInnerContents.outer) ≠ [] := by
    rw [entries]
    exact List.cons_ne_nil _ _
  exact ⟨entries, (toc_lists_all_iff {} isBehind isSection follow).2.2 (.inl rfl)⟩

/-- A quotation that holds the heading of the table, before another heading. -/
def behindQuotedContents : Place :=
  .inside [] { name := "blockquote".toList } behindContents
    [secondHeading [("id".toList, ['a'])] ['A']]

/-- Headings behind the quotation that holds the heading of the table are not listed. -/
theorem quotedContents_lists_nothing :
    ¬∀ (options : Options) (place : Place) (level : Nat) (content after : List Html),
      place.IsBehindTitle options.toc.isTitle level → IsSection level content after →
      listed options.toc.maxDepth (after ++ place.outer) ≠ [] →
      ∃ nodes, (toc.run options (.root (place.put (content ++ after)))).1 =
          .root (place.put nodes) ∧
        BeginWithList (listed options.toc.maxDepth (after ++ place.outer)) nodes := by
  intro all
  have isBehind : behindQuotedContents.IsBehindTitle ({} : Options).toc.isTitle 2 :=
    .inside (fun _ none => nomatch none) rfl rfl isBehindTitle_behindContents
  have isSection : IsSection 2 [] [] :=
    ⟨fun _ none => absurd none List.not_mem_nil, fun _ none => nomatch none⟩
  obtain ⟨nodes, same, table, rest, begins, -⟩ :=
    all {} behindQuotedContents 2 [] [] isBehind isSection (by decide)
  have run := fillTree_put (.root (behindQuotedContents.put [])) isBehind rfl 6
  have kept : Html.root (behindQuotedContents.put []) = .root (behindQuotedContents.put nodes) :=
    run.symm.trans same
  injection kept with children
  cases (behindQuotedContents.put_injective children).trans begins

end HtmlPass

end Manuscript
