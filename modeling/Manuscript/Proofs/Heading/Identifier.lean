import Manuscript.Html.HeadingId
import Manuscript.Proofs.Heading.Slugger
import Manuscript.Proofs.Html.Induction

/-!
# Which identifiers collide

The pass over headings comes to the elements of a tree one after the other and keeps the identifiers
of the headings that it has come to. So an identifier that it gives is that of another element
exactly when that element had it before, and is no heading that the pass came to earlier
(`gained_id_collides_iff`): the headings that come later are not looked at, nor are elements that
are no headings.
-/

namespace Manuscript.HeadingId

/-- Name of the attribute for the identifier. -/
abbrev idName : Text := "id".toList

/-- An element of a tree, with its text if the pass comes to it as to a heading. -/
structure Place where
  tag : Tag
  title? : Option Text

mutual

/-- The elements of a node. The pass enters neither the section of the footnotes, nor headings, nor
roots inside a tree; `entered` tells that it has entered what is around the node. -/
def placesNode (entered : Bool) : Html → List Place
  | .root children => placesList false children
  | .element tag children =>
    if entered && !Html.isFootnoteSection tag then
      if (Html.headingLevel? tag.name).isSome then
        ⟨tag, some (Text.trim (Html.textContentList children))⟩ :: placesList false children
      else ⟨tag, none⟩ :: placesList true children
    else ⟨tag, none⟩ :: placesList false children
  | _ => []

/-- The elements of a list of siblings. -/
def placesList (entered : Bool) : List Html → List Place
  | [] => []
  | node :: rest => placesNode entered node ++ placesList entered rest

end

/-- The elements of a tree. Its top is no heading to the pass. -/
def places : Html → List Place
  | .root children => placesList true children
  | .element tag children => ⟨tag, none⟩ :: placesList true children
  | _ => []

/-- What the pass makes of an element. -/
def identify (place : Place) (slugger : Slugger) : Tag × Slugger :=
  match place.title? with
  | none => (place.tag, slugger)
  | some title =>
    match place.tag.attribute? idName with
    | some id => (place.tag, slugger.reserve id)
    | none =>
      match (slugger.next title).1 with
      | some slug => (place.tag.setAttribute idName slug, (slugger.next title).2)
      | none => (place.tag, (slugger.next title).2)

/-- What the pass makes of elements, one after the other. -/
def identifyAll : List Place → Slugger → List Tag × Slugger
  | [], slugger => ([], slugger)
  | place :: rest, slugger =>
    let later := identifyAll rest (identify place slugger).2
    ((identify place slugger).1 :: later.1, later.2)

/-! ## The pass comes to one element after the other -/

/-- Places are given identifiers one after the other, with the slugger left by those before. -/
theorem identifyAll_append (front back : List Place) (slugger : Slugger) :
    identifyAll (front ++ back) slugger =
      ((identifyAll front slugger).1 ++ (identifyAll back (identifyAll front slugger).2).1,
        (identifyAll back (identifyAll front slugger).2).2) := by
  induction front generalizing slugger with
  | nil => rfl
  | cons place rest ih => rw [List.cons_append, identifyAll, ih]; rfl

/-- Where the pass has not entered there are no headings to it. -/
theorem title?_placesNode :
    (∀ tree : Html, ∀ place ∈ placesNode false tree, place.title? = none) ∧
      ∀ nodes, ∀ place ∈ placesList false nodes, place.title? = none := by
  refine Html.induction ?_ ?_ ?_ ?_ ?_ ?_ ?_
  · exact fun children below => below
  · intro tag children below place member
    rw [placesNode, Bool.false_and, if_neg Bool.false_ne_true] at member
    rcases List.mem_cons.1 member with rfl | inside
    · rfl
    · exact below place inside
  · exact fun value place none => absurd none List.not_mem_nil
  · exact fun value place none => absurd none List.not_mem_nil
  · exact fun value place none => absurd none List.not_mem_nil
  · exact fun place none => absurd none List.not_mem_nil
  · intro node rest own later place member
    rcases List.mem_append.1 member with first | following
    · exact own place first
    · exact later place following

/-- Elements that are no headings to the pass stay as they are. -/
theorem identifyAll_of_untitled {places : List Place}
    (untitled : ∀ place ∈ places, place.title? = none) (slugger : Slugger) :
    identifyAll places slugger = (places.map Place.tag, slugger) := by
  induction places with
  | nil => rfl
  | cons place rest ih =>
    obtain ⟨first, others⟩ := List.forall_mem_cons.1 untitled
    have stays : identify place slugger = (place.tag, slugger) := by
      rw [identify, first]
    rw [identifyAll, stays, ih others, List.map_cons]

/-- The elements that are listed are those of the tree. -/
theorem map_tag_placesNode :
    (∀ tree : Html, ∀ entered, (placesNode entered tree).map Place.tag = tree.elements) ∧
      ∀ nodes, ∀ entered, (placesList entered nodes).map Place.tag = Html.elementsList nodes := by
  refine Html.induction ?_ ?_ ?_ ?_ ?_ ?_ ?_
  · exact fun children below _ => below false
  · intro tag children below entered
    rw [placesNode]
    split
    · split
      · rw [List.map_cons, below, Html.elements]
      · rw [List.map_cons, below, Html.elements]
    · rw [List.map_cons, below, Html.elements]
  · exact fun value _ => rfl
  · exact fun value _ => rfl
  · exact fun value _ => rfl
  · exact fun _ => rfl
  · intro node rest own later entered
    rw [placesList, List.map_append, own, later, Html.elementsList]

/-- There is a place for each element of a tree, in document order. -/
theorem map_tag_places (tree : Html) : (places tree).map Place.tag = tree.elements := by
  cases tree with
  | root children => exact map_tag_placesNode.2 children true
  | element tag children =>
    rw [places, List.map_cons, map_tag_placesNode.2, Html.elements]
  | text value => rfl
  | comment value => rfl
  | raw value => rfl

/-- A heading is given its identifier by its tag and its text. -/
theorem assign_eq_identify (tag : Tag) (children : List Html) (level : Nat) (slugger : Slugger) :
    ((assign tag children level slugger).1, (assign tag children level slugger).2.1) =
      identify ⟨tag, some (Text.trim (Html.textContentList children))⟩ slugger := by
  unfold assign identify
  dsimp only
  cases tag.attribute? idName with
  | some id => rfl
  | none =>
    obtain ⟨slug, later⟩ := slugger.next (Text.trim (Html.textContentList children))
    cases slug <;> rfl

/-- The pass over a tree is the one over its elements. -/
theorem elements_assignNode :
    (∀ tree : Html, ∀ slugger, identifyAll (placesNode true tree) slugger =
      ((assignNode tree slugger).1.elements, (assignNode tree slugger).2.1)) ∧
    ∀ nodes, ∀ slugger, identifyAll (placesList true nodes) slugger =
      (Html.elementsList (assignList nodes slugger).1, (assignList nodes slugger).2.1) := by
  -- What the pass does not enter stays as it is.
  have unentered : ∀ (children : List Html) (slugger : Slugger),
      identifyAll (placesList false children) slugger = (Html.elementsList children, slugger) := by
    intro children slugger
    rw [identifyAll_of_untitled (title?_placesNode.2 children), map_tag_placesNode.2]
  refine Html.induction ?_ ?_ ?_ ?_ ?_ ?_ ?_
  · intro children _ slugger
    rw [placesNode, unentered]
    rfl
  · intro tag children below slugger
    rw [placesNode, assignNode, Bool.true_and]
    by_cases footnotes : Html.isFootnoteSection tag = true
    · rw [if_neg (by simp [footnotes]), if_pos footnotes, identifyAll, unentered]
      rfl
    · rw [if_pos (by simpa using footnotes), if_neg footnotes]
      cases found : Html.headingLevel? tag.name with
      | some level =>
        have given := assign_eq_identify tag children level slugger
        rw [Option.isSome_some, if_pos rfl, identifyAll, unentered, ← given]
        rfl
      | none =>
        rw [Option.isSome_none, if_neg Bool.false_ne_true, identifyAll]
        have inside := below slugger
        rw [identify, inside]
        rfl
  · exact fun value slugger => rfl
  · exact fun value slugger => rfl
  · exact fun value slugger => rfl
  · exact fun slugger => rfl
  · intro node rest own later slugger
    rw [placesList, identifyAll_append, own, later]
    rfl

/-- What the pass has made of the elements of a tree. -/
theorem elements_assignTree (tree : Html) :
    (assignTree tree).1.elements = (identifyAll (places tree) {}).1 := by
  cases tree with
  | root children =>
    rw [places, elements_assignNode.2]
    rfl
  | element tag children =>
    rw [places, identifyAll, identify, elements_assignNode.2]
    rfl
  | text value => rfl
  | comment value => rfl
  | raw value => rfl

/-! ## What one step does -/

/-- What the pass makes of an element: it stays, or it is a heading without an identifier and gets
one that was not taken. -/
theorem identify_cases (place : Place) (slugger : Slugger) :
    (identify place slugger).1 = place.tag ∨
      (place.title?.isSome ∧ place.tag.attribute? idName = none ∧
        ∃ slug ∉ slugger.taken,
          (identify place slugger).1 = place.tag.setAttribute idName slug) := by
  unfold identify
  split
  · exact .inl rfl
  · rename_i title titled
    split
    · exact .inl rfl
    · rename_i unnamed
      split
      · rename_i slug found
        exact .inr ⟨by rw [titled]; rfl, unnamed, slug, (Slugger.next_fresh found).1, rfl⟩
      · exact .inl rfl

/-- What is taken stays taken. -/
theorem taken_identify (place : Place) (slugger : Slugger) :
    slugger.taken ⊆ (identify place slugger).2.taken := by
  unfold identify
  split
  · exact List.Subset.refl _
  · split
    · exact (Slugger.taken_reserve _ slugger).1
    · split <;> exact Slugger.taken_next _ slugger

/-- The identifier of a heading that the pass has come to is taken. -/
theorem mem_taken_identify {place : Place} (isHeading : place.title?.isSome) {slugger : Slugger}
    {id : Text} (named : (identify place slugger).1.attribute? idName = some id) :
    id ∈ (identify place slugger).2.taken := by
  unfold identify at named ⊢
  split at named
  · rename_i untitled
    rw [untitled] at isHeading
    cases isHeading
  · rename_i title titled
    split at named
    · rename_i own found
      cases named.symm.trans found
      exact (Slugger.taken_reserve _ slugger).2
    · split at named
      · rename_i slug found
        rw [Tag.attribute?_setAttribute_self] at named
        cases named
        exact (Slugger.next_fresh found).2
      · rename_i unnamed _ _
        cases named.symm.trans unnamed

/-! ## What a run does -/

/-- What a run makes of an element is what a step makes of it, with a slug that was not taken when
the run began. -/
theorem identifyAll_cases {places : List Place} {slugger : Slugger} {i : Nat} {place : Place}
    {tag : Tag} (before : places[i]? = some place)
    (after : (identifyAll places slugger).1[i]? = some tag) :
    tag = place.tag ∨ (place.title?.isSome ∧ place.tag.attribute? idName = none ∧
      ∃ slug ∉ slugger.taken, tag = place.tag.setAttribute idName slug) := by
  induction places generalizing slugger i with
  | nil => cases before
  | cons first rest ih =>
    cases i with
    | zero =>
      cases before
      cases after
      exact identify_cases place slugger
    | succ i =>
      rcases ih before after with same | ⟨isHeading, unnamed, slug, fresh, given⟩
      · exact .inl same
      · exact .inr ⟨isHeading, unnamed, slug,
          fun taken => fresh (taken_identify first slugger taken), given⟩

/-- An identifier that is given differs from those of the headings that the pass came to earlier. -/
theorem ne_of_identified_earlier {places : List Place} {slugger : Slugger} {i j : Nat}
    (earlier : i < j) {first second : Place} {firstTag secondTag : Tag} {id slug : Text}
    (firstBefore : places[i]? = some first) (isHeading : first.title?.isSome)
    (firstAfter : (identifyAll places slugger).1[i]? = some firstTag)
    (firstNamed : firstTag.attribute? idName = some id)
    (secondBefore : places[j]? = some second) (unnamed : second.tag.attribute? idName = none)
    (secondAfter : (identifyAll places slugger).1[j]? = some secondTag)
    (secondNamed : secondTag.attribute? idName = some slug) : id ≠ slug := by
  induction places generalizing slugger i j with
  | nil => cases firstBefore
  | cons place rest ih =>
    obtain ⟨j, rfl⟩ := Nat.exists_eq_add_one_of_ne_zero (Nat.ne_zero_of_lt earlier)
    cases i with
    | succ i =>
      exact ih (Nat.lt_of_succ_lt_succ earlier) firstBefore firstAfter secondBefore secondAfter
    | zero =>
      cases firstBefore
      cases firstAfter
      have taken := mem_taken_identify isHeading firstNamed
      have before : rest[j]? = some second := secondBefore
      have after : (identifyAll rest (identify first slugger).2).1[j]? = some secondTag :=
        secondAfter
      rcases identifyAll_cases before after with same | ⟨_, _, given, fresh, same⟩
      · rw [same, unnamed] at secondNamed
        cases secondNamed
      · rw [same, Tag.attribute?_setAttribute_self] at secondNamed
        cases secondNamed
        exact fun same => fresh (same ▸ taken)

/-! ## Elements by their place in the tree -/

/-- The identifier of the element at a place of the document order. -/
def idAt? (tree : Html) (i : Nat) : Option Text :=
  tree.elements[i]?.bind (·.attribute? idName)

/-- The identifier that the pass gives to the element at a place. -/
def gained? (tree : Html) (i : Nat) : Option Text :=
  if (idAt? tree i).isSome then none else idAt? (assignTree tree).1 i

/-- Whether the pass comes to the element at a place as to a heading. -/
def isReached (tree : Html) (i : Nat) : Prop :=
  ∃ place, (places tree)[i]? = some place ∧ place.title?.isSome

/-- Every place has an outcome. -/
theorem length_identifyAll (places : List Place) (slugger : Slugger) :
    (identifyAll places slugger).1.length = places.length := by
  induction places generalizing slugger with
  | nil => rfl
  | cons place rest ih => rw [identifyAll, List.length_cons, ih, List.length_cons]

/-- Wherever there is an element there was one before, which the pass may have come to. -/
theorem exists_place {tree : Html} {i : Nat} {id : Text}
    (named : idAt? (assignTree tree).1 i = some id) :
    ∃ place tag, (places tree)[i]? = some place ∧ (identifyAll (places tree) {}).1[i]? = some tag ∧
      tag.attribute? idName = some id := by
  obtain ⟨tag, there, found⟩ := Option.bind_eq_some_iff.1 named
  rw [elements_assignTree] at there
  obtain ⟨within, _⟩ := List.getElem?_eq_some_iff.1 there
  rw [length_identifyAll] at within
  exact ⟨_, tag, List.getElem?_eq_getElem within, there, found⟩

/-- The identifier at a place is that of its element. -/
theorem idAt?_of_place {tree : Html} {i : Nat} {place : Place}
    (there : (places tree)[i]? = some place) : idAt? tree i = place.tag.attribute? idName := by
  rw [idAt?, ← map_tag_places, List.getElem?_map, there]
  rfl

/-- An identifier that an element has stays. -/
theorem idAt?_assignTree_of_named {tree : Html} {i : Nat} {id : Text}
    (named : idAt? tree i = some id) : idAt? (assignTree tree).1 i = some id := by
  obtain ⟨tag, there, found⟩ := Option.bind_eq_some_iff.1 named
  rw [← map_tag_places, List.getElem?_map] at there
  obtain ⟨place, placed, rfl⟩ := Option.map_eq_some_iff.1 there
  obtain ⟨within, _⟩ := List.getElem?_eq_some_iff.1 placed
  rw [← length_identifyAll _ {}] at within
  have after := List.getElem?_eq_getElem within
  rw [idAt?, elements_assignTree, after]
  rcases identifyAll_cases placed after with same | ⟨_, unnamed, _⟩
  · rw [same]
    exact found
  · rw [unnamed] at found
    cases found

/-- An element gains an identifier if it had none and has one after the pass. -/
theorem gained?_eq_some_iff {tree : Html} {i : Nat} {slug : Text} :
    gained? tree i = some slug ↔
      idAt? tree i = none ∧ idAt? (assignTree tree).1 i = some slug := by
  unfold gained?
  cases idAt? tree i <;> simp

/-- The pass gives identifiers only to headings that it comes to. -/
theorem isReached_of_gained {tree : Html} {i : Nat} {slug : Text}
    (gained : gained? tree i = some slug) : isReached tree i := by
  obtain ⟨unnamed, named⟩ := gained?_eq_some_iff.1 gained
  obtain ⟨place, tag, before, after, found⟩ := exists_place named
  rw [idAt?_of_place before] at unnamed
  rcases identifyAll_cases before after with same | ⟨isHeading, _⟩
  · rw [same, unnamed] at found
    cases found
  · exact ⟨place, before, isHeading⟩

/-- An identifier that is given is not that of a heading that the pass came to earlier. -/
theorem idAt?_ne_of_earlier {tree : Html} {i j : Nat} {slug : Text}
    (gained : gained? tree j = some slug) (earlier : i < j) (reached : isReached tree i) :
    idAt? (assignTree tree).1 i ≠ some slug := by
  intro shared
  obtain ⟨unnamed, named⟩ := gained?_eq_some_iff.1 gained
  obtain ⟨first, firstTag, firstBefore, firstAfter, firstNamed⟩ := exists_place shared
  obtain ⟨second, secondTag, secondBefore, secondAfter, secondNamed⟩ := exists_place named
  obtain ⟨place, there, isHeading⟩ := reached
  cases firstBefore.symm.trans there
  rw [idAt?_of_place secondBefore] at unnamed
  exact ne_of_identified_earlier earlier firstBefore isHeading firstAfter firstNamed secondBefore
    unnamed secondAfter secondNamed rfl

/-- An identifier that the pass gives is that of another element exactly when that element had it
before and is no heading that the pass came to earlier. -/
theorem gained_id_collides_iff (tree : Html) (i j : Nat) (slug : Text) :
    (gained? tree i = some slug ∧ j ≠ i ∧ idAt? (assignTree tree).1 j = some slug) ↔
      (gained? tree i = some slug ∧ idAt? tree j = some slug ∧ ¬(isReached tree j ∧ j < i)) := by
  constructor
  · rintro ⟨gained, other, shared⟩
    refine ⟨gained, ?_, fun reached => idAt?_ne_of_earlier gained reached.2 reached.1 shared⟩
    refine Classical.byContradiction fun kept => ?_
    -- Then the other element gets the identifier too, and one of the two comes earlier.
    have unnamed : idAt? tree j = none := by
      cases found : idAt? tree j with
      | none => rfl
      | some id =>
        cases (idAt?_assignTree_of_named found).symm.trans shared
        exact absurd found kept
    have both := gained?_eq_some_iff.2 ⟨unnamed, shared⟩
    rcases Nat.lt_or_gt_of_ne other with earlier | later
    · exact idAt?_ne_of_earlier gained earlier (isReached_of_gained both) shared
    · exact idAt?_ne_of_earlier both later (isReached_of_gained gained)
        (gained?_eq_some_iff.1 gained).2
  · rintro ⟨gained, had, _⟩
    refine ⟨gained, ?_, idAt?_assignTree_of_named had⟩
    rintro rfl
    cases (gained?_eq_some_iff.1 gained).1.symm.trans had

/-- A heading without an identifier, and after it a heading that has the identifier that the first
one gets. -/
def headingsOfOneName : Html :=
  .root
    [ .element { name := "h1".toList } [.text ['a']],
      .element { name := "h1".toList, attributes := [(idName, ['a'])] } [.text ['b']] ]

/-- An identifier that is given can be that of a later heading. -/
theorem laterHeading_shares_id :
    ¬∀ (tree : Html) (i j : Nat) (slug : Text), gained? tree i = some slug → j ≠ i →
      idAt? (assignTree tree).1 j ≠ some slug := by
  intro apart
  exact apart headingsOfOneName 0 1 ['a'] (by decide) (by decide) (by decide)

end Manuscript.HeadingId
