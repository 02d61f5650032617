import Manuscript.Html.HeadingId
import Manuscript.Proofs.Contents.Section
import Mathlib.Data.List.Forall2

/-!
# The headings that are reported are those of the outline

The pass over headings reports the outline of the tree that it makes: a record for every heading
with an identifier, in document order. A heading that had an identifier keeps it, one that had none
gets the slug of its text, with a number if need be, and lacks one only when its text has no slug.
Nothing else in the tree changes (`records_of_outline`).
-/

namespace Manuscript

namespace Contents

/-- The identifier of a heading, if it has one. -/
def Headline.id? (heading : Headline) : Option Text :=
  heading.tag.attribute? "id".toList

/-- The record of a heading, if it has an identifier. -/
def Headline.record? (heading : Headline) : Option Heading :=
  heading.id?.map fun slug => { level := heading.level, slug, text := heading.text }

/-- What becomes of a heading whose identifier is assigned. -/
structure Headline.Gains (before after : Headline) : Prop where
  /-- Its level stays. -/
  level : after.level = before.level
  /-- What is in it stays. -/
  children : after.children = before.children
  /-- The tag stays if it has an identifier. -/
  keeps : ∀ id ∈ before.id?, after.tag = before.tag
  /-- A tag without an identifier stays or gets one: the slug of the text, or this with a number. -/
  sets : before.id? = none → after.tag = before.tag ∨ ∃ slug,
    after.tag = before.tag.setAttribute "id".toList slug ∧
      (slug = Slug.slugify before.text ∨ ∃ n, slug = Slug.numbered (Slug.slugify before.text) n)
  /-- It lacks an identifier exactly when it had none and its text has no slug. -/
  lacks_iff : after.id? = none ↔ before.id? = none ∧ Slug.slugify before.text = []

/-- The outline of a list of one node is that of the node. -/
theorem outlineList_singleton (node : Html) : outlineList [node] = outlineNode node :=
  List.append_nil _

end Contents

open Contents (Headline outlineNode outlineList outlineNode_heading outlineNode_container
  outlineList_singleton)

/-- A slug that is handed out is that of the text, with a number if need be. -/
theorem Slugger.slug_of_next {text slug : Text} {slugger : Slugger}
    (given : (slugger.next text).1 = some slug) :
    slug = Slug.slugify text ∨ ∃ n, slug = Slug.numbered (Slug.slugify text) n := by
  unfold Slugger.next at given
  dsimp only at given
  split at given
  · cases given
  · split at given
    · cases given
      exact .inl rfl
    · cases given
      exact .inr ⟨_, rfl⟩

namespace HeadingId

/-- What becomes of a tree whose headings get their identifiers: only headings outside the footnotes
and outside other headings gain something. -/
inductive Named : Html → Html → Prop
  /-- A heading gains its identifier, and nothing in it changes. -/
  | heading {tag tag' : Tag} {children : List Html} {level : Nat}
      (isHeading : Html.headingLevel? tag.name = some level)
      (gains : Headline.Gains ⟨level, tag, children⟩ ⟨level, tag', children⟩) :
      Named (.element tag children) (.element tag' children)
  /-- The section of the footnotes stays as it is. -/
  | footnotes {tag : Tag} (isFootnotes : Html.isFootnoteSection tag = true)
      (children : List Html) : Named (.element tag children) (.element tag children)
  /-- Any other element stays, and only what is in it may change. -/
  | container {tag : Tag} {children children' : List Html}
      (notFootnotes : Html.isFootnoteSection tag = false)
      (noHeading : Html.headingLevel? tag.name = none)
      (below : List.Forall₂ Named children children') :
      Named (.element tag children) (.element tag children')
  /-- What is no element stays as it is. -/
  | other {node : Html} (noElement : node.tag? = none) : Named node node

/-- A heading gains its identifier. -/
theorem gains_assign (tag : Tag) (children : List Html) (level : Nat) (slugger : Slugger) :
    Headline.Gains ⟨level, tag, children⟩
      ⟨level, (assign tag children level slugger).1, children⟩ := by
  cases named : tag.attribute? "id".toList with
  | some id =>
    have stays : (⟨level, tag, children⟩ : Headline).id? = some id := named
    rw [assign_of_attribute? named]
    refine ⟨rfl, rfl, fun _ _ => rfl, fun _ => .inl rfl, iff_of_false ?_ fun lacks => ?_⟩
    · rw [stays]
      exact Option.some_ne_none id
    · rw [stays] at lacks
      cases lacks.1
  | none =>
    have lacks : (⟨level, tag, children⟩ : Headline).id? = none := named
    have keeps : ∀ after : Tag, ∀ id ∈ (⟨level, tag, children⟩ : Headline).id?, after = tag := by
      rw [lacks]
      exact fun _ _ has => nomatch has
    rcases given : slugger.next (Html.textContentList children).trim with ⟨_ | slug, rest⟩
    · have unslugged : Slug.slugify (Html.textContentList children).trim = [] :=
        Slugger.next_eq_none_iff.1 (congrArg Prod.fst given)
      rw [assign_of_next_none named given]
      exact ⟨rfl, rfl, keeps _, fun _ => .inl rfl, iff_of_true lacks ⟨lacks, unslugged⟩⟩
    · have handedOut : (slugger.next (Html.textContentList children).trim).1 = some slug :=
        congrArg Prod.fst given
      have sluggable : Slug.slugify (Html.textContentList children).trim ≠ [] := by
        refine fun unslugged => Option.some_ne_none slug ?_
        rw [← handedOut, Slugger.next_eq_none_iff.2 unslugged]
      rw [assign_of_next named given]
      refine ⟨rfl, rfl, keeps _, fun _ => .inr ⟨slug, rfl, Slugger.slug_of_next handedOut⟩, ?_⟩
      refine iff_of_false ?_ fun both => sluggable both.2
      rw [Headline.id?, Tag.attribute?_setAttribute_self]
      exact Option.some_ne_none slug

/-- A heading is reported with the identifier that it has afterwards. -/
theorem records_assign (tag : Tag) (children : List Html) (level : Nat) (slugger : Slugger) :
    (assign tag children level slugger).2.2 =
      [(⟨level, (assign tag children level slugger).1, children⟩ : Headline)].filterMap
        Headline.record? := by
  rw [List.filterMap_cons, List.filterMap_nil, Headline.record?, Headline.id?]
  cases named : tag.attribute? "id".toList with
  | some id =>
    rw [assign_of_attribute? named]
    simp only [named, Option.map_some]
    rfl
  | none =>
    rcases given : slugger.next (Html.textContentList children).trim with ⟨_ | slug, rest⟩
    · rw [assign_of_next_none named given]
      simp only [named, Option.map_none]
    · rw [assign_of_next named given]
      simp only [Tag.attribute?_setAttribute_self, Option.map_some]
      rfl

/-- What the pass makes of siblings, and the headings that it reports. -/
structure Reports (before after : List Html) (records : List Heading) : Prop where
  /-- The headings that have an identifier afterwards are reported, in document order. -/
  records : records = (outlineList after).filterMap Headline.record?
  /-- Each heading of the outline gains its identifier, and none comes in or goes. -/
  gains : List.Forall₂ Headline.Gains (outlineList before) (outlineList after)
  /-- Nothing else changes. -/
  named : List.Forall₂ Named before after

namespace Reports

variable {before after rest rest' : List Html} {records later : List Heading} {node node' : Html}

/-- Without headings nothing is reported and nothing lost. -/
theorem nil : Reports [] [] [] :=
  ⟨rfl, .nil, .nil⟩

/-- A node and the siblings after it are reported one after the other. -/
theorem cons (own : Reports [node] [node'] records) (others : Reports rest rest' later) :
    Reports (node :: rest) (node' :: rest') (records ++ later) := by
  obtain ⟨ownRecords, ownGains, ownNamed⟩ := own
  obtain ⟨otherRecords, otherGains, otherNamed⟩ := others
  rw [outlineList_singleton] at ownRecords
  rw [outlineList_singleton, outlineList_singleton] at ownGains
  refine ⟨?_, ?_, .cons (List.forall₂_cons.1 ownNamed).1 otherNamed⟩
  · rw [outlineList, List.filterMap_append, ownRecords, otherRecords]
  · exact List.rel_append ownGains otherGains

/-- A node without headings to the pass stays as it is. -/
theorem of_outlineNode_eq_nil (stays : Named node node) (none : outlineNode node = []) :
    Reports [node] [node] [] := by
  refine ⟨?_, ?_, .cons stays .nil⟩
  · rw [outlineList_singleton, none]
    rfl
  · rw [outlineList_singleton, none]
    exact .nil

end Reports

/-- A heading is reported if it has an identifier afterwards. -/
theorem reports_heading {tag : Tag} {level : Nat}
    (isHeading : Html.headingLevel? tag.name = some level) (children : List Html)
    (slugger : Slugger) :
    Reports [.element tag children] [.element (assign tag children level slugger).1 children]
      (assign tag children level slugger).2.2 := by
  have stillHeading : Html.headingLevel? (assign tag children level slugger).1.name = some level :=
    (name_assign tag children level slugger).symm ▸ isHeading
  have gains := gains_assign tag children level slugger
  refine ⟨?_, ?_, .cons (.heading isHeading gains) .nil⟩
  · rw [outlineList_singleton, outlineNode_heading stillHeading]
    exact records_assign tag children level slugger
  · rw [outlineList_singleton, outlineList_singleton, outlineNode_heading isHeading,
      outlineNode_heading stillHeading]
    exact .cons gains .nil

/-- An element that is no heading reports what is in it. -/
theorem reports_container {tag : Tag} {before after : List Html} {records : List Heading}
    (notFootnotes : Html.isFootnoteSection tag = false)
    (noHeading : Html.headingLevel? tag.name = none) (below : Reports before after records) :
    Reports [.element tag before] [.element tag after] records := by
  have inside : ∀ children, outlineList [.element tag children] = outlineList children := by
    intro children
    rw [outlineList_singleton, outlineNode_container notFootnotes noHeading]
  obtain ⟨reported, gains, named⟩ := below
  refine ⟨?_, ?_, .cons (.container notFootnotes noHeading named) .nil⟩
  · rw [inside, reported]
  · rw [inside, inside]
    exact gains

/-- The pass reports the headings of the outline that it makes. -/
theorem reports_assignNode :
    (∀ tree : Html, ∀ slugger,
      Reports [tree] [(assignNode tree slugger).1] (assignNode tree slugger).2.2) ∧
    ∀ nodes, ∀ slugger,
      Reports nodes (assignList nodes slugger).1 (assignList nodes slugger).2.2 := by
  refine Html.induction ?_ ?_ ?_ ?_ ?_ ?_ ?_
  · exact fun _ _ _ => .of_outlineNode_eq_nil (.other rfl) rfl
  · intro tag children below slugger
    rw [assignNode]
    split
    · rename_i isFootnotes
      refine .of_outlineNode_eq_nil (.footnotes isFootnotes children) ?_
      rw [outlineNode, if_pos isFootnotes]
    · rename_i notFootnotes
      split
      · rename_i level isHeading
        exact reports_heading isHeading children slugger
      · rename_i noHeading
        exact reports_container (Bool.eq_false_iff.2 notFootnotes) noHeading (below slugger)
  · exact fun _ _ => .of_outlineNode_eq_nil (.other rfl) rfl
  · exact fun _ _ => .of_outlineNode_eq_nil (.other rfl) rfl
  · exact fun _ _ => .of_outlineNode_eq_nil (.other rfl) rfl
  · exact fun _ => .nil
  · intro node rest own later slugger
    rw [assignList]
    exact (own slugger).cons (later _)

/-- The pass over headings reports, in document order, the headings of the tree that it makes that
have an identifier and are neither among the footnotes nor in another heading. Each of these
headings was there before, keeps the identifier that it had, and lacks one exactly when it had none
and its text has no slug. Nothing else in the tree changes. -/
theorem records_of_outline (children : List Html) :
    ∃ after records, assignTree (.root children) = (.root after, records) ∧
      Reports children after records :=
  ⟨_, _, rfl, reports_assignNode.2 children {}⟩

/-- A heading with an identifier, one that takes the same slug, and one without a slug. -/
example : (assignTree (.root
    [.element { name := "h2".toList, attributes := [("id".toList, "a".toList)] } [],
      .element { name := "h3".toList } [.text "A ".toList],
      .element { name := "h3".toList } [.text "!".toList]])).2 =
    [⟨2, "a".toList, []⟩, ⟨3, "a-1".toList, "A".toList⟩] := by
  decide +kernel

end HeadingId

end Manuscript
