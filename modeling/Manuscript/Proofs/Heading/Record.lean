import Manuscript.Pipeline
import Manuscript.Proofs.Heading.Identifier
import Manuscript.Proofs.Heading.Kept
import Manuscript.Proofs.Pipeline.Failure

/-!
# Headings that are reported and headings that are written

The headings are reported when they have their identifiers. After that the table of contents takes
the place of the section below its heading, with the headings in it, and no other pass takes a
heading away. So a reported heading is in the tree that is written unless it is one of that section
(`reported_headings_written`).
-/

namespace Manuscript

/-- One list is another without a stretch of it. -/
def Loses {α : Type} (whole lost left : List α) : Prop :=
  ∃ before after, whole = before ++ lost ++ after ∧ left = before ++ after

namespace Loses

variable {α : Type} {whole lost left : List α}

/-- Nothing may be lost. -/
theorem nothing (whole : List α) : Loses whole [] whole :=
  ⟨whole, [], by simp, by simp⟩

/-- What is lost of the end of a list is lost of the list. -/
theorem append_left (loses : Loses whole lost left) (front : List α) :
    Loses (front ++ whole) lost (front ++ left) := by
  obtain ⟨before, after, rfl, rfl⟩ := loses
  exact ⟨front ++ before, after, by simp, by simp⟩

/-- What is lost of the start of a list is lost of the list. -/
theorem append_right (loses : Loses whole lost left) (back : List α) :
    Loses (whole ++ back) lost (left ++ back) := by
  obtain ⟨before, after, rfl, rfl⟩ := loses
  exact ⟨before, after ++ back, by simp, by simp⟩

/-- What is in the whole is in what is left or in what is lost. -/
theorem mem_iff (loses : Loses whole lost left) (item : α) :
    item ∈ whole ↔ item ∈ left ∨ item ∈ lost := by
  obtain ⟨before, after, rfl, rfl⟩ := loses
  simp only [List.mem_append]
  grind

end Loses

open Html (headingsList)

namespace Contents

/-! ## The section of the table of contents -/

/-- The siblings that the list takes the place of: those up to the end of the section, if a heading
that can be listed follows. -/
def replaced (maxDepth level : Nat) (siblings : List Html) : List Html :=
  if (collectList maxDepth (siblings.dropWhile fun node => !endsSection level node)).isEmpty then []
  else siblings.takeWhile fun node => !endsSection level node

mutual

/-- What the table of contents takes the place of in a node, if the table is there. -/
def sectionNode? (isTitle : Text → Bool) (maxDepth : Nat) : Html → Option (List Html)
  | .element tag children =>
    if Html.isFootnoteSection tag || (Html.headingLevel? tag.name).isSome then none
    else sectionList? isTitle maxDepth children
  | _ => none

/-- What the table of contents takes the place of among siblings, if the table is there. -/
def sectionList? (isTitle : Text → Bool) (maxDepth : Nat) : List Html → Option (List Html)
  | [] => none
  | node :: rest =>
    if (titleLevel? isTitle node).isSome then
      (titleLevel? isTitle node).map fun level => replaced maxDepth level rest
    else (sectionNode? isTitle maxDepth node).or (sectionList? isTitle maxDepth rest)

end

/-- What the table of contents of a tree takes the place of. -/
def sectionOf (isTitle : Text → Bool) (maxDepth : Nat) (tree : Html) : List Html :=
  (sectionList? isTitle maxDepth tree.children).getD []

/-! ## The headings that are lost -/

/-- A table of contents holds no headings. -/
theorem headings_items (entries : List Entry) : headingsList (items entries) = [] := by
  induction entries using items.induct with
  | case1 =>
    rw [items]
    rfl
  | case2 entry rest nested after nestedNone laterNone =>
    have inner : headingsList (if nested.isEmpty then [] else
        [newline, .element { name := "ul".toList } (items nested ++ [newline]), newline]) = [] := by
      split
      · rfl
      · rw [Html.headingsList_cons, Html.headingsList_cons,
          Html.headings_element_of_none (Tag.heading?_eq_none rfl), Html.headingsList_append,
          nestedNone]
        rfl
    rw [items, Html.headingsList_cons, Html.headingsList_cons,
      Html.headings_element_of_none (Tag.heading?_eq_none rfl), Html.headingsList_cons, inner,
      laterNone]
    rfl

/-- A table of contents has no headings. -/
theorem headings_list (entries : List Entry) : (list entries).headings = [] := by
  rw [list, Html.headings_element_of_none (Tag.heading?_eq_none rfl), Html.headingsList_append,
    headings_items]
  rfl

/-- Where the list takes the place of a section, the headings of the section are lost. -/
theorem loses_fill (maxDepth level : Nat) (siblings : List Html) :
    Loses (headingsList siblings) (headingsList (replaced maxDepth level siblings))
      (headingsList (fill maxDepth level siblings)) := by
  unfold fill replaced
  dsimp only
  generalize found : collectList maxDepth (siblings.dropWhile fun node => !endsSection level node) =
    entries
  cases entries with
  | nil => exact .nothing _
  | cons entry entries =>
    have whole := siblings.takeWhile_append_dropWhile (p := fun node => !endsSection level node)
    refine ⟨[], headingsList (siblings.dropWhile fun node => !endsSection level node), ?_, ?_⟩
    · rw [List.nil_append, List.isEmpty_cons, if_neg Bool.false_ne_true, ← Html.headingsList_append,
        whole]
    · rw [List.nil_append, Html.headingsList_cons, Html.headingsList_cons, headings_list]
      cases siblings.dropWhile fun node => !endsSection level node <;> rfl

/-- The headings of what is filled are those of the tree without those of the section. -/
theorem loses_fillNode? (isTitle : Text → Bool) (maxDepth : Nat) :
    (∀ tree : Html,
      (fillNode? isTitle maxDepth tree = none ∧ sectionNode? isTitle maxDepth tree = none) ∨
      ∃ filled content, fillNode? isTitle maxDepth tree = some filled ∧
        sectionNode? isTitle maxDepth tree = some content ∧
        Loses tree.headings (headingsList content) filled.headings) ∧
    ∀ nodes,
      (fillList? isTitle maxDepth nodes = none ∧ sectionList? isTitle maxDepth nodes = none) ∨
      ∃ filled content, fillList? isTitle maxDepth nodes = some filled ∧
        sectionList? isTitle maxDepth nodes = some content ∧
        Loses (headingsList nodes) (headingsList content) (headingsList filled) := by
  refine Html.induction ?_ ?_ ?_ ?_ ?_ ?_ ?_
  · exact fun children _ => .inl ⟨rfl, rfl⟩
  · intro tag children below
    rw [fillNode?, sectionNode?]
    split
    · exact .inl ⟨rfl, rfl⟩
    · rcases below with ⟨unfilled, absent⟩ | ⟨filled, content, here, there, loses⟩
      · exact .inl ⟨by rw [unfilled]; rfl, absent⟩
      · refine .inr ⟨.element tag filled, content, by rw [here]; rfl, there, ?_⟩
        rw [Html.headings_element, Html.headings_element]
        exact loses.append_left _
  · exact fun value => .inl ⟨rfl, rfl⟩
  · exact fun value => .inl ⟨rfl, rfl⟩
  · exact fun value => .inl ⟨rfl, rfl⟩
  · exact .inl ⟨rfl, rfl⟩
  · intro node rest own later
    rw [fillList?, sectionList?]
    cases titleLevel? isTitle node with
    | some level =>
      refine .inr ⟨_, _, rfl, rfl, ?_⟩
      rw [Html.headingsList_cons, Html.headingsList_cons]
      exact (loses_fill maxDepth level rest).append_left _
    | none =>
      rw [Option.isSome_none, if_neg Bool.false_ne_true]
      rcases own with ⟨unfilled, absent⟩ | ⟨filled, content, here, there, loses⟩
      · rw [unfilled, absent]
        rcases later with ⟨unfilled, absent⟩ | ⟨filled, content, here, there, loses⟩
        · exact .inl ⟨by rw [unfilled]; rfl, absent⟩
        · refine .inr ⟨node :: filled, content, by rw [here]; rfl, there, ?_⟩
          rw [Html.headingsList_cons, Html.headingsList_cons]
          exact loses.append_left _
      · rw [here, there]
        refine .inr ⟨filled :: rest, content, rfl, rfl, ?_⟩
        rw [Html.headingsList_cons, Html.headingsList_cons]
        exact loses.append_right _

/-- Filling in the table takes away the headings of the section that it replaces, and no others. -/
theorem loses_fillTree (isTitle : Text → Bool) (maxDepth : Nat) (tree : Html) :
    Loses tree.headings (headingsList (sectionOf isTitle maxDepth tree))
      (fillTree isTitle maxDepth tree).headings := by
  have below : ∀ children, Loses (headingsList children)
      (headingsList ((sectionList? isTitle maxDepth children).getD []))
      (headingsList ((fillList? isTitle maxDepth children).getD children)) := by
    intro children
    rcases (loses_fillNode? isTitle maxDepth).2 children with
      ⟨unfilled, absent⟩ | ⟨filled, content, here, there, loses⟩
    · rw [unfilled, absent]
      exact .nothing _
    · rw [here, there]
      exact loses
  cases tree with
  | root children => exact below children
  | element tag children =>
    rw [fillTree, Html.headings_element, Html.headings_element]
    exact (below children).append_left _
  | text value => exact .nothing _
  | comment value => exact .nothing _
  | raw value => exact .nothing _

end Contents

/-! ## The headings that are reported -/

/-- The heading of a tree that a reported heading names: the one of its level and identifier. -/
def Heading.entry (heading : Heading) : Nat × Option Text :=
  (heading.level, some heading.slug)

namespace HeadingId

/-- A heading is reported with the identifier that it has afterwards. -/
theorem reported_assign (tag : Tag) (children : List Html) {level : Nat}
    (isHeading : Html.headingLevel? tag.name = some level) (slugger : Slugger) :
    ((assign tag children level slugger).2.2.map Heading.entry).Sublist
      (assign tag children level slugger).1.heading?.toList := by
  unfold assign
  dsimp only
  split
  · rename_i id named
    rw [Tag.heading?, isHeading, named]
    exact List.Sublist.refl _
  · split
    · rename_i slug later given
      have name : (tag.setAttribute "id".toList slug).name = tag.name := rfl
      rw [Tag.heading?, name, isHeading, Tag.attribute?_setAttribute_self]
      exact List.Sublist.refl _
    · exact List.nil_sublist _

/-- What is reported are headings of the tree that the pass makes, in order. -/
theorem reported_assignNode :
    (∀ tree : Html, ∀ slugger, ((assignNode tree slugger).2.2.map Heading.entry).Sublist
      (assignNode tree slugger).1.headings) ∧
    ∀ nodes, ∀ slugger, ((assignList nodes slugger).2.2.map Heading.entry).Sublist
      (headingsList (assignList nodes slugger).1) := by
  refine Html.induction ?_ ?_ ?_ ?_ ?_ ?_ ?_
  · exact fun children _ slugger => List.nil_sublist _
  · intro tag children below slugger
    rw [assignNode]
    split
    · exact List.nil_sublist _
    · split
      · rename_i level isHeading
        rw [Html.headings_element]
        exact (reported_assign tag children isHeading slugger).trans (List.sublist_append_left _ _)
      · rw [Html.headings_element]
        exact (below slugger).trans (List.sublist_append_right _ _)
  · exact fun value slugger => List.nil_sublist _
  · exact fun value slugger => List.nil_sublist _
  · exact fun value slugger => List.nil_sublist _
  · exact fun slugger => List.nil_sublist _
  · intro node rest own later slugger
    rw [assignList, List.map_append, Html.headingsList_cons]
    exact (own slugger).append (later _)

/-- The headings that are reported stand in the tree in the same order. -/
theorem reported_assignTree (tree : Html) :
    ((assignTree tree).2.map Heading.entry).Sublist (assignTree tree).1.headings := by
  cases tree with
  | root children => exact reported_assignNode.2 children {}
  | element tag children =>
    rw [assignTree, Html.headings_element]
    exact (reported_assignNode.2 children {}).trans (List.sublist_append_right _ _)
  | text value => exact List.nil_sublist _
  | comment value => exact List.nil_sublist _
  | raw value => exact List.nil_sublist _

end HeadingId

namespace Pipeline

/-! ## A run of the passes over HTML -/

/-- What the given passes make of an HTML tree, and the headings that they report. -/
def finish (options : Options) (html : List HtmlPass) (tree : Html) : Html × List Heading :=
  let stages := runHtml options html tree
  (lastTree tree (stages.map fun stage => (stage.1, stage.2.1)),
    stages.flatMap fun stage => stage.2.2)

/-- The first of the passes runs, then the others; their reports follow its own. -/
theorem finish_cons (options : Options) (pass : HtmlPass) (rest : List HtmlPass) (tree : Html) :
    finish options (pass :: rest) tree =
      ((finish options rest (pass.run options tree).1).1,
        (pass.run options tree).2 ++ (finish options rest (pass.run options tree).1).2) := by
  rw [finish, runHtml]
  dsimp only
  rw [List.map_cons, lastTree_cons, List.flatMap_cons]
  rfl

/-- What is compiled are the tree and the headings of a run of the passes over what a document is
lowered to. -/
theorem trace_eq_finish (pipeline : Pipeline) (source : Text) :
    ∀ trace ∈ pipeline.trace source,
      (lastTree trace.lowered trace.html, trace.headings) =
        finish pipeline.options pipeline.options.passes.html trace.lowered := by
  intro trace member
  obtain ⟨markdown, run, same⟩ := Option.bind_eq_some_iff.1 member
  cases same
  rfl

/-- Passes that neither give identifiers nor fill the table of contents keep the headings and report
none. -/
theorem finish_keeps (options : Options) {html : List HtmlPass} (named : .headingIds ∉ html)
    (filled : .toc ∉ html) (tree : Html) :
    (finish options html tree).1.headings = tree.headings ∧ (finish options html tree).2 = [] := by
  induction html generalizing tree with
  | nil => exact ⟨rfl, rfl⟩
  | cons pass rest ih =>
    obtain ⟨notNaming, unnamed⟩ := List.ne_and_not_mem_of_not_mem_cons named
    obtain ⟨notFilling, unfilled⟩ := List.ne_and_not_mem_of_not_mem_cons filled
    obtain ⟨kept, none⟩ := ih unnamed unfilled (pass.run options tree).1
    rw [finish_cons]
    exact ⟨kept.trans (pass.headings_run notNaming.symm notFilling.symm options tree),
      by rw [HtmlPass.reported_run notNaming.symm, none]; rfl⟩

/-- The default passes over HTML write the headings that have their identifiers, without those of
the section that the table of contents takes the place of. They report such headings in document
order. So a heading that is reported is written, or it is one of that section. A pipeline with these
passes writes and reports what they make of the tree that it lowers a document to. -/
theorem reported_headings_written (options : Options) (tree : Html) :
    let named := (HeadingId.assignTree tree).1
    let lost := headingsList
      (Contents.sectionOf options.toc.isTitle options.toc.maxDepth named)
    let compiled := finish options ({} : PassList).html tree
    Loses named.headings lost compiled.1.headings ∧
      (compiled.2.map Heading.entry).Sublist named.headings ∧
      (∀ heading ∈ compiled.2, heading.entry ∈ compiled.1.headings ∨ heading.entry ∈ lost) ∧
      ∀ (pipeline : Pipeline) (source : Text), pipeline.options = options →
        options.passes.html = ({} : PassList).html → ∀ trace ∈ pipeline.trace source,
          trace.lowered = tree → (lastTree tree trace.html, trace.headings) = compiled := by
  intro named lost compiled
  -- What the passes after the table of contents do.
  let filled := Contents.fillTree options.toc.isTitle options.toc.maxDepth named
  let others : List HtmlPass :=
    [.codeTabs, .utilityClasses, .colorSwatch, .footnoteTitles, .accessibleEmoji]
  have keeps : (finish options others filled).1.headings = filled.headings ∧
      (finish options others filled).2 = [] := finish_keeps options (by decide) (by decide) filled
  obtain ⟨kept, none⟩ := keeps
  have run : compiled = ((finish options others filled).1, (HeadingId.assignTree tree).2) := by
    change finish options (.headingIds :: .toc :: others) tree = _
    rw [finish_cons, finish_cons]
    change ((finish options others filled).1,
      (HeadingId.assignTree tree).2 ++ ([] ++ (finish options others filled).2)) = _
    rw [none, List.append_nil, List.append_nil]
  have loses : Loses named.headings lost compiled.1.headings := by
    rw [run, kept]
    exact Contents.loses_fillTree _ _ named
  have reported : (compiled.2.map Heading.entry).Sublist named.headings := by
    rw [run]
    exact HeadingId.reported_assignTree tree
  refine ⟨loses, reported, fun heading member =>
    (loses.mem_iff _).1 (reported.subset (List.mem_map_of_mem member)), ?_⟩
  rintro pipeline source rfl default trace member rfl
  rw [pipeline.trace_eq_finish source trace member, default]

/-- A document with a heading in the section of its table of contents. -/
def documentWithStaleContents : Node :=
  { kind := .root
    children :=
      [ { kind := .heading 2, children := [Node.text "Contents".toList] },
        { kind := .heading 3, children := [Node.text "Stale".toList] },
        { kind := .heading 2, children := [Node.text "Alpha".toList] } ] }

/-- A heading that is reported need not be written. -/
theorem staleHeading_is_reported :
    ¬∀ (options : Options) (document : Node), options.IsValid →
      let lowered := Lowering.lowerDocument (loweringOptions options) document
      let compiled := finish options ({} : PassList).html lowered
      ∀ heading ∈ compiled.2, heading.entry ∈ compiled.1.headings := by
  intro written
  exact absurd (written {} documentWithStaleContents rfl) (by decide +kernel)

end Pipeline

end Manuscript
