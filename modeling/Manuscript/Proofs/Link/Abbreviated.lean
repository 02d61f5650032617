import Manuscript.Proofs.Abbreviation.Wrapping
import Manuscript.Proofs.Link.Rewording

/-!
# Addresses among abbreviations

Marking abbreviations takes the addresses in their definitions and those that a use goes into
(`Abbreviation.taken`). Every other address stays whole in one of the pieces that a text is cut into
(`count_addresses_cut`).
-/

namespace Manuscript

open BareLink (addresses addressesOf sitesAt Site Keeps)
open Node (openTextList)

variable {url : Text}

namespace Abbreviation

/-- Whether a use of an abbreviation goes into an address. -/
def Use.goesInto (use : Use) (site : Site) : Bool :=
  use.start < site.stop && site.start < use.stop

/-- The addresses of a text that a use of an abbreviation goes into. -/
def used (entries : List Abbreviation) (value : Text) : List Text :=
  ((sitesAt 0 value).filter fun site => (uses entries value).any (·.goesInto site)).map Site.url

mutual

/-- The addresses in the definitions below a node. -/
def defined : Node → List Text
  | ⟨.text _, _, _, _⟩ => []
  | ⟨.link _ _, _, _, _⟩ => []
  | ⟨_, children, _, _⟩ => definedList children

/-- The addresses in the definitions in a list of siblings and below them. -/
def definedList : List Node → List Text
  | [] => []
  | node :: rest =>
    (if (ofParagraph? node).isSome then addressesOf [node] else defined node) ++ definedList rest

end

/-- The addresses that are part of a definition or that a use of an abbreviation goes into. -/
def taken (tree : Node) : List Text :=
  definedList tree.children ++
    (openTextList (removeDefinitions tree).children).flatMap (used (ofDocument tree))

/-- Removing definitions takes the addresses in them. -/
theorem keeps_removeDefinitionList (nodes : List Node) :
    Keeps url (definedList nodes) nodes (removeDefinitionList nodes) := by
  have both : (∀ tree : Node, Keeps url (defined tree) [tree] [removeDefinitions tree]) ∧
      ∀ nodes, Keeps url (definedList nodes) nodes (removeDefinitionList nodes) := by
    refine Node.induction ?_ (Keeps.refl []) ?_
    · intro kind children data span below
      rw [removeDefinitions]
      cases kind with
      | text => exact .of_kind rfl (.inl rfl)
      | link => exact .of_kind rfl (.inr rfl)
      | _ => exact .inside rfl below (by rintro (⟨⟨⟩⟩ | ⟨⟨⟩⟩))
    · intro node rest own later
      rw [definedList, removeDefinitionList]
      cases read : ofParagraph? node with
      | none => exact own.append later
      | some entries =>
        have gone : Keeps url (addressesOf [node]) [node] [] := Nat.le_add_left _ _
        exact gone.append later
  exact both.2 nodes

/-- The addresses that no use goes into stay in the pieces of a text that is cut at its uses. -/
theorem count_addresses_cut (url : Text) (expandFirst : Bool) {position : Nat} {uses : List Use}
    (ordered : ∀ use ∈ uses, position ≤ use.start) (apart : Use.Apart uses) (text : Text)
    (expanded : List Text) :
    (((sitesAt position text).filter fun site => !uses.any (·.goesInto site)).map Site.url).count
      url ≤ (addressesOf (cut expandFirst position text uses expanded).1).count url := by
  induction uses generalizing position text expanded with
  | nil =>
    have all : (sitesAt position text).filter (fun site => !List.any [] (Use.goesInto · site)) =
        sitesAt position text := by simp
    refine Nat.le_of_eq ?_
    rw [cut, all, BareLink.addressesOf_ofText, BareLink.map_url_sitesAt]
  | cons use rest ih =>
    obtain ⟨before, apart⟩ := List.pairwise_cons.1 apart
    have begins := ordered use List.mem_cons_self
    have behind : position ≤ use.stop := by
      rw [Use.stop]
      omega
    -- What no use goes into ends before the first use, or begins after it.
    have split := BareLink.count_filter_le url (sitesAt position text)
      (fun site => !(use :: rest).any (·.goesInto site)) (fun site => site.stop ≤ use.start)
      (fun site => !rest.any (·.goesInto site) && use.stop ≤ site.start) fun site _ clear => by
        rw [List.any_cons, Bool.not_or, Bool.and_eq_true, Use.goesInto] at clear
        obtain ⟨outside, clear⟩ := clear
        simp only [Bool.and_eq_true, clear, decide_eq_true_eq, true_and, Bool.not_eq_true',
          Bool.and_eq_false_iff, decide_eq_false_iff_not] at outside ⊢
        omega
    have front := ((BareLink.sites_take position use.start text).map Site.url).count_le url
    have back := (((BareLink.sites_drop behind text).filter fun site =>
      !rest.any (·.goesInto site)).map Site.url).count_le url
    rw [BareLink.map_url_sitesAt] at front
    rw [List.filter_filter] at back
    obtain ⟨written, expanded, _, pieces⟩ :=
      exists_cut_cons expandFirst position text use rest expanded
    have later := ih before apart (text.drop (use.stop - position)) expanded
    have added := (BareLink.addressesOf_back written
      (cut expandFirst use.stop (text.drop (use.stop - position)) rest expanded).1).count_le url
    rw [pieces, BareLink.addressesOf_append, BareLink.addressesOf_ofText, List.count_append]
    omega

/-- Cutting a text at its uses takes the addresses that a use goes into. -/
theorem count_addresses_uses {entries : List Abbreviation}
    (named : ∀ entry ∈ entries, entry.IsNamed) (expandFirst : Bool) (value : Text)
    (expanded : List Text) :
    (addresses value).count url ≤
      (addressesOf (cut expandFirst 0 value (uses entries value) expanded).1).count url +
        (used entries value).count url := by
  obtain ⟨_, apart⟩ := uses_found named value
  have kept := count_addresses_cut url expandFirst (fun _ _ => Nat.zero_le _) apart value
    expanded
  have all : addresses value = ((sitesAt 0 value).filter fun _ => true).map Site.url := by
    rw [List.filter_true]
    rfl
  have split := BareLink.count_filter_le url (sitesAt 0 value) (fun _ => true)
    (fun site => !(uses entries value).any (·.goesInto site))
    (fun site => (uses entries value).any (·.goesInto site)) fun site _ _ => by
      rw [Bool.not_eq_true']
      exact (Bool.eq_false_or_eq_true _).symm
  rw [all, used]
  omega

/-- Marking the uses of abbreviations takes the addresses that a use goes into. -/
theorem keeps_markUseList {entries : List Abbreviation} (named : ∀ entry ∈ entries, entry.IsNamed)
    (expandFirst : Bool) (nodes : List Node) (expanded : List Text) :
    Keeps url ((openTextList nodes).flatMap (used entries)) nodes
      (markUseList expandFirst entries nodes expanded).1 := by
  have both : (∀ tree : Node, ∀ expanded,
      Keeps url ((openTextList tree.children).flatMap (used entries)) tree.children
        (markUses expandFirst entries tree expanded).1.children) ∧
      ∀ nodes, ∀ expanded, Keeps url ((openTextList nodes).flatMap (used entries)) nodes
        (markUseList expandFirst entries nodes expanded).1 := by
    refine Node.induction (fun _ _ _ _ below => below) (fun _ => Keeps.refl []) ?_
    intro node rest own later expanded
    obtain ⟨kind, children, data, span⟩ := node
    rw [Node.openTextList_cons, List.flatMap_append]
    cases kind with
    | text value =>
      rw [markUseList]
      split
      · exact Keeps.cons ((Keeps.refl _).widen _) (later expanded)
      · have marked : Keeps url (used entries value) [⟨.text value, children, data, span⟩]
            (cut expandFirst 0 value (uses entries value) expanded).1 := by
          rw [Keeps, BareLink.addressesOf_text rfl]
          exact count_addresses_uses named expandFirst value expanded
        rw [Node.openTexts_of_kind rfl, List.flatMap_singleton]
        exact marked.append (later _)
    | abbreviation title =>
      exact Keeps.cons ((Keeps.refl _).widen _) (later expanded)
    | _ => exact Keeps.cons (Keeps.of_children rfl rfl (own expanded)) (later _)
  exact both.2 nodes expanded

/-- The pass over abbreviations takes the addresses in definitions and those that a use of an
abbreviation goes into. -/
theorem keeps_markDocument (expandFirst : Bool) (tree : Node) :
    Keeps url (taken tree) tree.children (markDocument expandFirst tree).children := by
  obtain ⟨kind, children, data, span⟩ := tree
  have removed : Keeps url (definedList children) children (removeDefinitionList children) :=
    keeps_removeDefinitionList children
  rw [markDocument, taken]
  split
  · exact removed.trans ((Keeps.refl _).widen _)
  · have named : ∀ entry ∈ ofDocument ⟨kind, children, data, span⟩, entry.IsNamed :=
      fun entry => isNamed_of_mem_ofDocument
    exact removed.trans (keeps_markUseList named expandFirst _ [])

end Abbreviation

end Manuscript
