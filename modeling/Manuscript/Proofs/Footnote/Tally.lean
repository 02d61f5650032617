import Manuscript.Html.Footnote

/-!
# The tally of footnote references

While references are lowered, only a tally of them is kept: which footnotes have been referred to,
in the order of first reference, and how often. `Tally` relates it to the references that have been
lowered so far, and `Tally.citeAll` keeps the relation over any further references, whichever
footnotes can be referred to at the time. The numbers that references get are thus those of the
complete document, although each of them is given out before the rest is known.
-/

namespace Manuscript.Footnote

namespace References

/-- The identifiers in a tally, in the order of first reference. -/
def order (references : References) : List Text :=
  references.map Prod.fst

/-- An empty tally has no footnotes. -/
@[simp] theorem order_nil : order [] = [] := rfl

/-- A tally has one identifier for each footnote in it. -/
@[simp] theorem length_order (references : References) :
    references.order.length = references.length :=
  List.length_map _

/-- Counting a reference puts a footnote at the end, unless it is there. -/
theorem order_add (id : Text) (references : References) :
    (references.add id).order =
      if id ∈ references.order then references.order else references.order ++ [id] := by
  induction references with
  | nil => rfl
  | cons entry rest ih =>
    obtain ⟨other, count⟩ := entry
    by_cases same : other = id
    · simp [add, order, same]
    · have differs : ¬ id = other := fun equal => same equal.symm
      simp only [order] at ih
      simp only [add, order, same, if_false, List.map_cons, ih, List.mem_cons, differs, false_or]
      by_cases known : id ∈ rest.map Prod.fst <;> simp [known]

/-- A reference adds one to the count of its own footnote. -/
theorem count_add (id other : Text) (references : References) :
    (references.add id).count other = references.count other + if other = id then 1 else 0 := by
  induction references with
  | nil =>
    by_cases same : other = id
    · simp [add, count, same]
    · have : (other == id) = false := by simpa using same
      simp [add, count, List.lookup_cons, same, this]
  | cons entry rest ih =>
    obtain ⟨known, number⟩ := entry
    simp only [count] at ih
    by_cases here : known = id
    · subst here
      by_cases same : other = known
      · simp [add, count, same]
      · have : (other == known) = false := by simpa using same
        simp [add, count, List.lookup_cons, same, this]
    · by_cases same : other = known
      · subst same
        simp [add, count, here]
      · have : (other == known) = false := by simpa using same
        simp only [add, here, if_false, count, List.lookup_cons, this]
        exact ih

/-- A footnote that has been referred to stands where its number says. -/
theorem order_number {id : Text} {references : References} (known : id ∈ references.order) :
    references.order[references.number id - 1]? = some id := by
  induction references with
  | nil => cases known
  | cons entry rest ih =>
    obtain ⟨other, count⟩ := entry
    by_cases same : other = id
    · simp [order, number, List.findIdx_cons, same]
    · have later : id ∈ order rest := by
        simp only [order, List.map_cons, List.mem_cons] at known
        exact known.resolve_left fun equal => same equal.symm
      have found := ih later
      simp only [number, Nat.add_sub_cancel] at found ⊢
      simp only [order, List.map_cons, List.findIdx_cons, same, decide_false, cond_false,
        List.getElem?_cons_succ]
      exact found

end References

/-- The references among others that became links to a footnote. -/
def linksTo (id : Text) (citations : List Citation) : List Citation :=
  citations.filter fun citation => citation.isLink && citation.id = id

/-- The footnotes that references were linked to, each once, in the order of the first link. -/
def linkedIds (citations : List Citation) : List Text :=
  ((citations.filter (·.isLink)).map (·.id)).eraseDups

/-- The links to a footnote are those among the first references, then those among the others. -/
theorem linksTo_append (id : Text) (front back : List Citation) :
    linksTo id (front ++ back) = linksTo id front ++ linksTo id back :=
  List.filter_append ..

/-- References that are no links link to nothing. -/
theorem linksTo_eq_nil {id : Text} {citations : List Citation}
    (others : ∀ citation ∈ citations, citation.isLink = true → citation.id ≠ id) :
    linksTo id citations = [] := by
  rw [linksTo, List.filter_eq_nil_iff]
  intro citation member both
  simp only [Bool.and_eq_true, decide_eq_true_eq] at both
  exact others citation member both.1 both.2

/-- One more reference adds its footnote at the end, if it is a link and the first to it. -/
theorem linkedIds_concat (citations : List Citation) (citation : Citation) :
    linkedIds (citations ++ [citation]) =
      if citation.isLink ∧ citation.id ∉ linkedIds citations then
        linkedIds citations ++ [citation.id]
      else linkedIds citations := by
  simp only [linkedIds, List.mem_eraseDups]
  cases link : citation.isLink with
  | false => simp [link]
  | true =>
    by_cases known : citation.id ∈ (citations.filter (·.isLink)).map (·.id) <;>
      simp [link, List.eraseDups_append, List.removeAll, known, List.eraseDups_cons]

/-- What a tally has to do with the references that have been lowered. -/
structure Tally (citations : List Citation) (references : References) : Prop where
  /-- The tally has the footnotes in the order of the first link. -/
  order : references.order = linkedIds citations
  /-- It counts the links to each. -/
  count : ∀ id, references.count id = (linksTo id citations).length
  /-- The links to a footnote are counted up from one. -/
  reuse : ∀ id, (linksTo id citations).map (fun citation => citation.place.map (·.reuse)) =
    (List.range' 1 (references.count id)).map some
  /-- A link shows the number of its footnote. -/
  number : ∀ citation ∈ citations, ∀ place, citation.place = some place →
    0 < place.number ∧ references.order[place.number - 1]? = some citation.id

/-- Nothing has been referred to before the first reference. -/
theorem Tally.empty : Tally [] [] where
  order := rfl
  count _ := rfl
  reuse _ := rfl
  number _ member := by cases member

/-- A reference that is no link leaves the tally as it is. -/
theorem Tally.literal {citations : List Citation} {references : References}
    (tally : Tally citations references) (label : Text) :
    Tally (citations ++ [{ label, place := none }]) references where
  order := by rw [tally.order, linkedIds_concat]; simp [Citation.isLink]
  count id := by rw [tally.count, linksTo_append]; simp [linksTo, Citation.isLink]
  reuse id := by rw [← tally.reuse, linksTo_append]; simp [linksTo, Citation.isLink]
  number citation member place placed := by
    rcases List.mem_append.1 member with earlier | last
    · exact tally.number citation earlier place placed
    · rw [List.mem_singleton.1 last] at placed
      cases placed

/-- A link is counted in the tally, and its place is the one that the tally then gives. -/
theorem Tally.link {citations : List Citation} {references : References}
    (tally : Tally citations references) (label : Text) :
    let id := identifier label
    let later := references.add id
    Tally (citations ++ [{ label, place := some ⟨later.number id, later.count id⟩ }]) later where
  order := by
    rw [linkedIds_concat, References.order_add, tally.order]
    by_cases known : identifier label ∈ linkedIds citations <;>
      simp [Citation.isLink, Citation.id, known]
  count id := by
    rw [References.count_add, tally.count, linksTo_append, List.length_append]
    by_cases same : id = identifier label
    · simp [linksTo, Citation.isLink, Citation.id, same]
    · have differs : ¬ identifier label = id := fun equal => same equal.symm
      simp [linksTo, Citation.isLink, Citation.id, same, differs]
  reuse id := by
    have counted := References.count_add (identifier label) id references
    rw [linksTo_append, List.map_append, tally.reuse]
    by_cases same : id = identifier label
    · rw [if_pos same] at counted
      rw [counted, List.range'_1_concat, List.map_append, same]
      simp [linksTo, Citation.isLink, Citation.id, References.count_add, Nat.add_comm]
    · have differs : ¬ identifier label = id := fun equal => same equal.symm
      rw [if_neg same] at counted
      simp [linksTo, Citation.isLink, Citation.id, differs, counted]
  number citation member place placed := by
    rcases List.mem_append.1 member with earlier | last
    · obtain ⟨positive, found⟩ := tally.number citation earlier place placed
      refine ⟨positive, ?_⟩
      rw [References.order_add]
      split
      · exact found
      · obtain ⟨bound, _⟩ := List.getElem?_eq_some_iff.1 found
        rw [List.getElem?_append_left bound, found]
    · rw [List.mem_singleton.1 last] at placed ⊢
      cases placed
      refine ⟨Nat.succ_pos _, References.order_number ?_⟩
      rw [References.order_add]
      split
      · assumption
      · simp

/-- A reference to a footnote that can be referred to is counted before it gets its place. -/
theorem cite_of_mem {defined : List Text} {label : Text} (known : identifier label ∈ defined)
    (references : References) :
    cite defined label references =
      ({ label,
         place := some ⟨(references.add (identifier label)).number (identifier label),
          (references.add (identifier label)).count (identifier label)⟩ },
        references.add (identifier label)) := by
  simp [cite, known]

/-- Any other reference gets no place. -/
theorem cite_of_not_mem {defined : List Text} {label : Text} (unknown : identifier label ∉ defined)
    (references : References) :
    cite defined label references = ({ label, place := none }, references) := by
  simp [cite, unknown]

/-- Lowering a reference keeps the tally, whether it becomes a link or not. -/
theorem Tally.cite {citations : List Citation} {references : References}
    (tally : Tally citations references) (defined : List Text) (label : Text) :
    Tally (citations ++ [(cite defined label references).1]) (cite defined label references).2 := by
  by_cases known : identifier label ∈ defined
  · rw [cite_of_mem known]
    exact tally.link label
  · rw [cite_of_not_mem known]
    exact tally.literal label

/-- A reference keeps its label. -/
@[simp] theorem label_cite (defined : List Text) (label : Text) (references : References) :
    (cite defined label references).1.label = label := by
  by_cases known : identifier label ∈ defined
  · rw [cite_of_mem known]
  · rw [cite_of_not_mem known]

/-- A reference becomes a link exactly when its footnote can be referred to. -/
theorem isLink_cite (defined : List Text) (label : Text) (references : References) :
    (cite defined label references).1.isLink = true ↔
      (cite defined label references).1.id ∈ defined := by
  by_cases known : identifier label ∈ defined
  · simp [cite_of_mem known, Citation.isLink, Citation.id, known]
  · simp [cite_of_not_mem known, Citation.isLink, Citation.id, known]

/-- A reference puts a footnote at the end of the tally only if it can be referred to. -/
theorem order_cite (defined : List Text) (label : Text) (references : References) :
    ∃ added, (cite defined label references).2.order = references.order ++ added ∧
      ∀ id ∈ added, id ∈ defined := by
  by_cases known : identifier label ∈ defined
  · rw [cite_of_mem known, References.order_add]
    split
    · exact ⟨[], by simp, by simp⟩
    · exact ⟨[identifier label], rfl, by simpa using known⟩
  · rw [cite_of_not_mem known]
    exact ⟨[], by simp, by simp⟩

/-- Lowers references to the same set of footnotes, one after the other. -/
def citeAll (defined : List Text) : List Text → References → List Citation × References
  | [], references => ([], references)
  | label :: labels, references =>
    let (citation, references) := cite defined label references
    let (citations, references) := citeAll defined labels references
    (citation :: citations, references)

/-- Lowering any references keeps the tally. -/
theorem Tally.citeAll {citations : List Citation} {references : References}
    (tally : Tally citations references) (defined labels : List Text) :
    Tally (citations ++ (citeAll defined labels references).1)
      (citeAll defined labels references).2 := by
  induction labels generalizing citations references with
  | nil => simpa [Footnote.citeAll] using tally
  | cons label labels ih => simpa [Footnote.citeAll] using ih (tally.cite defined label)

/-- There is one result for each reference, in order. -/
theorem label_citeAll (defined labels : List Text) (references : References) :
    (citeAll defined labels references).1.map (·.label) = labels := by
  induction labels generalizing references with
  | nil => rfl
  | cons label labels ih => simp [citeAll, ih]

/-- The references that become links are those to footnotes that can be referred to. -/
theorem isLink_citeAll (defined labels : List Text) (references : References) :
    ∀ citation ∈ (citeAll defined labels references).1,
      citation.isLink = true ↔ citation.id ∈ defined := by
  induction labels generalizing references with
  | nil =>
    intro citation member
    cases member
  | cons label labels ih =>
    intro citation member
    rcases List.mem_cons.1 member with rfl | later
    · exact isLink_cite defined label references
    · exact ih _ citation later

/-- References put only footnotes that can be referred to at the end of the tally. -/
theorem order_citeAll (defined labels : List Text) (references : References) :
    ∃ added, (citeAll defined labels references).2.order = references.order ++ added ∧
      ∀ id ∈ added, id ∈ defined := by
  induction labels generalizing references with
  | nil => exact ⟨[], by simp [citeAll], by simp⟩
  | cons label labels ih =>
    obtain ⟨first, orderFirst, knownFirst⟩ := order_cite defined label references
    obtain ⟨others, orderOthers, knownOthers⟩ := ih (cite defined label references).2
    refine ⟨first ++ others, ?_, ?_⟩
    · simp only [citeAll]
      rw [orderOthers, orderFirst, List.append_assoc]
    · intro id member
      rcases List.mem_append.1 member with early | late
      · exact knownFirst id early
      · exact knownOthers id late

end Manuscript.Footnote
