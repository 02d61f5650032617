import Manuscript.Proofs.Heading.Slugger
import Mathlib.Data.List.Nodup
import Mathlib.Data.List.Perm.Subperm
import Mathlib.Data.List.ReduceOption

/-!
# The numbers of repeated slugs

A slugger remembers, for every name in use, the number that it last appended to it, and begins the
next search after that number. `Counted` is what makes this right: all numbers up to the remembered
one are used up, whichever request used them. It is kept by every request, and so each slug is the
one that a search of all numbers from one on would give (`slug_is_smallest`).
-/

namespace Manuscript

namespace Slug

/-- The slug for a text when some names are in use: none if the text has no letters and no numbers,
the slug of the text if that is free, and else that with the smallest number that makes it free. No
more numbers have to be tried than there are names. -/
inductive IsNext (used : List Text) (text : Text) : Option Text → Prop
  | none (empty : slugify text = []) : IsNext used text none
  | plain (nonempty : slugify text ≠ []) (free : slugify text ∉ used) :
      IsNext used text (some (slugify text))
  | numbered (n : Nat) (nonempty : slugify text ≠ []) (taken : slugify text ∈ used)
      (positive : 1 ≤ n) (bounded : n ≤ used.length) (free : numbered (slugify text) n ∉ used)
      (passed : ∀ m, 1 ≤ m → m < n → Slug.numbered (slugify text) m ∈ used) :
      IsNext used text (some (Slug.numbered (slugify text) n))

/-- A slug that is next is not in use. -/
theorem IsNext.not_mem {used : List Text} {text slug : Text} (next : IsNext used text (some slug)) :
    slug ∉ used := by
  cases next with
  | plain _ free => exact free
  | numbered n _ _ _ _ free _ => exact free

/-- Only one slug is next. -/
theorem IsNext.unique {used : List Text} {text : Text} {first second : Option Text}
    (isFirst : IsNext used text first) (isSecond : IsNext used text second) : first = second := by
  cases isFirst with
  | none empty =>
    cases isSecond with
    | none _ => rfl
    | plain nonempty _ => exact absurd empty nonempty
    | numbered _ nonempty _ _ _ _ _ => exact absurd empty nonempty
  | plain nonempty free =>
    cases isSecond with
    | none empty => exact absurd empty nonempty
    | plain _ _ => rfl
    | numbered _ _ taken _ _ _ _ => exact absurd taken free
  | numbered n nonempty taken positive _ free passed =>
    cases isSecond with
    | none empty => exact absurd empty nonempty
    | plain _ other => exact absurd taken other
    | numbered m _ _ otherPositive _ otherFree otherPassed =>
      rcases Nat.lt_trichotomy n m with less | rfl | more
      · exact absurd (otherPassed n positive less) free
      · rfl
      · exact absurd (passed m otherPositive more) otherFree

/-- A slug with a number is longer than without. -/
theorem numbered_ne (base : Text) (n : Nat) : numbered base n ≠ base := by
  intro same
  have longer := congrArg List.length same
  simp [numbered] at longer

/-- The search passes over numbers that are used up. -/
theorem mem_of_lt_firstFree {base : Text} {taken : List Text} {n m : Nat} (from_ : n ≤ m)
    (before : m < firstFree base taken n) : numbered base m ∈ taken := by
  fun_induction firstFree base taken n with
  | case1 taken n used ih =>
    rcases Nat.eq_or_lt_of_le from_ with rfl | later
    · exact used
    · exact List.mem_of_mem_erase (ih later before)
  | case2 taken n _ => omega

/-- If a slug and its numbers before `n` are all in use, there are at least `n` names. -/
theorem le_length_of_passed {base : Text} {used : List Text} {n : Nat} (taken : base ∈ used)
    (passed : ∀ m, 1 ≤ m → m < n → numbered base m ∈ used) : n ≤ used.length := by
  let names := base :: (List.range' 1 (n - 1)).map (numbered base)
  have distinct : names.Nodup := by
    refine List.nodup_cons.2 ⟨?_, List.Nodup.map (fun _ _ => numbered_injective) List.nodup_range'⟩
    rintro member
    obtain ⟨m, _, same⟩ := List.mem_map.1 member
    exact numbered_ne base m same
  have inUse : names ⊆ used := by
    apply List.cons_subset.2
    refine ⟨taken, ?_⟩
    rintro name member
    obtain ⟨m, within, rfl⟩ := List.mem_map.1 member
    rw [List.mem_range'_1] at within
    exact passed m within.1 (by omega)
  have bound := (List.subperm_of_subset distinct inUse).length_le
  simp only [names, List.length_cons, List.length_map, List.length_range'] at bound
  omega

end Slug

namespace Slugger

/-- What a slugger is asked to do. -/
inductive Request where
  | reserve (id : Text)
  | slug (text : Text)
deriving DecidableEq, Repr

/-- Does what is asked, and gives the name that has thereby come into use, if there is one. -/
def serve (slugger : Slugger) : Request → Option Text × Slugger
  | .reserve id => (some id, slugger.reserve id)
  | .slug text => slugger.next text

/-- Does one thing after the other. -/
def serveAll (slugger : Slugger) : List Request → List (Option Text) × Slugger
  | [] => ([], slugger)
  | request :: rest =>
    let (name, slugger) := slugger.serve request
    let (names, slugger) := slugger.serveAll rest
    (name :: names, slugger)

/-- The names that have been reserved or handed out by a new slugger. -/
def used (requests : List Request) : List Text :=
  (serveAll {} requests).1.reduceOption

/-- All numbers up to the one that a slugger remembers for a name are used up. -/
def Passed (slugger : Slugger) (used : List Text) : Prop :=
  ∀ base count, slugger.count? base = some count → ∀ n, 1 ≤ n → n ≤ count →
    Slug.numbered base n ∈ used

/-- More names in use do not free any number. -/
theorem Passed.mono {slugger : Slugger} {used more : List Text} (passed : Passed slugger used)
    (within : used ⊆ more) : Passed slugger more :=
  fun base count found n positive upTo => within (passed base count found n positive upTo)

/-- A number can be remembered for a name if all numbers up to it are used up. -/
theorem Passed.remember {slugger : Slugger} {used : List Text} (passed : Passed slugger used)
    {name : Text} {number : Nat}
    (own : ∀ n, 1 ≤ n → n ≤ number → Slug.numbered name n ∈ used) :
    Passed { seen := (name, number) :: slugger.seen } used := by
  intro base count found
  rw [count?, List.lookup_cons] at found
  split at found
  · rename_i same
    cases found
    rw [beq_iff_eq.1 same]
    exact own
  · exact passed base count found

/-- What a slugger knows when the given names are in use. -/
structure Counted (slugger : Slugger) (used : List Text) : Prop where
  /-- It knows which names they are. -/
  taken : ∀ name, name ∈ slugger.taken ↔ name ∈ used
  /-- It knows numbers that it need not try again. -/
  passed : Passed slugger used

/-- A new slugger knows no names. -/
theorem Counted.empty : Counted {} [] where
  taken _ := Iff.rfl
  passed _ _ found := by cases found

/-- A name that comes into use has no numbers yet. -/
theorem Counted.enter {slugger : Slugger} {used : List Text} (counted : Counted slugger used)
    (name : Text) : Counted { seen := (name, 0) :: slugger.seen } (used ++ [name]) where
  taken other := by
    have before := counted.taken other
    simp only [Slugger.taken] at before
    simp [Slugger.taken, before, or_comm]
  passed := by
    apply (counted.passed.mono (List.subset_append_left used [name])).remember
    intro n positive upTo
    omega

/-- A number is remembered only for a name that is in use. -/
theorem Counted.mem_of_count? {slugger : Slugger} {used : List Text}
    (counted : Counted slugger used) {name : Text} {count : Nat}
    (found : slugger.count? name = some count) : name ∈ used := by
  rw [← counted.taken]
  apply Classical.byContradiction
  intro free
  rw [count?_eq_none_iff.2 free] at found
  cases found

/-- Reserving a name that is in use changes nothing, and any other comes into use. -/
theorem Counted.reserve {slugger : Slugger} {used : List Text} (counted : Counted slugger used)
    (id : Text) : Counted (slugger.reserve id) (used ++ [id]) := by
  unfold Slugger.reserve
  split
  · rename_i count found
    have known : id ∈ used := counted.mem_of_count? found
    constructor
    · intro name
      rw [counted.taken, List.mem_append, List.mem_singleton]
      constructor
      · exact .inl
      · rintro (there | rfl)
        · exact there
        · exact known
    · exact counted.passed.mono (List.subset_append_left used [id])
  · exact counted.enter id

/-- A slug that is in use is given the smallest number that makes it free: the search begins after
the number that is remembered, and all numbers before that are used up. -/
theorem Counted.passed_firstFree {slugger : Slugger} {used : List Text}
    (counted : Counted slugger used) {base : Text} {count : Nat}
    (found : slugger.count? base = some count) {m : Nat} (positive : 1 ≤ m)
    (before : m < Slug.firstFree base slugger.taken (count + 1)) :
    Slug.numbered base m ∈ used := by
  rcases Nat.lt_or_ge count m with later | earlier
  · exact (counted.taken _).1 (Slug.mem_of_lt_firstFree later before)
  · exact counted.passed base count found m positive earlier

/-- The slug that is handed out is the next one. -/
theorem Counted.isNext {slugger : Slugger} {used : List Text} (counted : Counted slugger used)
    (text : Text) : Slug.IsNext used text (slugger.next text).1 := by
  unfold next
  dsimp only
  split
  · rename_i empty
    exact .none (List.isEmpty_iff.1 empty)
  · rename_i nonempty
    have isNonempty : Slug.slugify text ≠ [] := fun empty => nonempty (List.isEmpty_iff.2 empty)
    split
    · rename_i free
      exact .plain isNonempty fun there =>
        count?_eq_none_iff.1 free ((counted.taken _).2 there)
    · rename_i count found
      have taken : Slug.slugify text ∈ used := counted.mem_of_count? found
      have passed := fun m => @counted.passed_firstFree _ _ (Slug.slugify text) count found m
      refine .numbered _ isNonempty taken ?_ (Slug.le_length_of_passed taken passed) ?_ passed
      · exact Nat.le_trans (Nat.le_add_left 1 count) (Slug.le_firstFree _ _ _)
      · exact fun there => Slug.firstFree_not_mem _ _ _ ((counted.taken _).2 there)

/-- Handing out a slug puts it in use, and nothing else. -/
theorem Counted.next {slugger : Slugger} {used : List Text} (counted : Counted slugger used)
    (text : Text) :
    Counted (slugger.next text).2 (used ++ (slugger.next text).1.toList) := by
  unfold Slugger.next
  dsimp only
  split
  · simpa using counted
  · split
    · exact counted.enter _
    · rename_i count found
      have known : Slug.slugify text ∈ used := counted.mem_of_count? found
      constructor
      · intro other
        have before := counted.taken other
        simp only [Slugger.taken] at before
        simp only [Slugger.taken, List.map_cons, List.mem_cons, before, Option.toList_some,
          List.mem_append, List.not_mem_nil, or_false]
        constructor
        · rintro (rfl | rfl | there)
          · exact .inr rfl
          · exact .inl known
          · exact .inl there
        · rintro (there | rfl)
          · exact .inr (.inr there)
          · exact .inl rfl
      · -- Of the numbers up to the one that is remembered now, the last is that of the slug itself.
        have upToSlug : ∀ n, 1 ≤ n →
            n ≤ Slug.firstFree (Slug.slugify text) slugger.taken (count + 1) →
            Slug.numbered (Slug.slugify text) n ∈ used ++ [Slug.numbered (Slug.slugify text)
              (Slug.firstFree (Slug.slugify text) slugger.taken (count + 1))] := by
          intro n positive upTo
          rcases Nat.eq_or_lt_of_le upTo with rfl | before
          · exact List.mem_append_right _ List.mem_cons_self
          · exact List.mem_append_left _ (counted.passed_firstFree found positive before)
        have remembered := (counted.passed.mono (List.subset_append_left used _)).remember upToSlug
        apply remembered.remember
        intro n positive upTo
        omega

/-- Whatever is asked for, the slugger knows the names that are in use. -/
theorem Counted.serve {slugger : Slugger} {used : List Text} (counted : Counted slugger used)
    (request : Request) :
    Counted (slugger.serve request).2 (used ++ (slugger.serve request).1.toList) := by
  cases request with
  | reserve id => exact counted.reserve id
  | slug text => exact counted.next text

/-- It does so after any requests. -/
theorem Counted.serveAll {slugger : Slugger} {used : List Text} (counted : Counted slugger used)
    (requests : List Request) :
    Counted (slugger.serveAll requests).2 (used ++ (slugger.serveAll requests).1.reduceOption) := by
  induction requests generalizing slugger used with
  | nil => simpa [Slugger.serveAll] using counted
  | cons request rest ih =>
    have later := ih (counted.serve request)
    rw [List.append_assoc, ← List.reduceOption_singleton, ← List.reduceOption_append] at later
    exact later

/-- Requests that come later do not change the names that came into use. -/
theorem serveAll_append (slugger : Slugger) (front back : List Request) :
    slugger.serveAll (front ++ back) =
      ((slugger.serveAll front).1 ++ ((slugger.serveAll front).2.serveAll back).1,
        ((slugger.serveAll front).2.serveAll back).2) := by
  induction front generalizing slugger with
  | nil => rfl
  | cons request rest ih => simp [serveAll, ih]

/-- There is one answer for each request. -/
theorem length_serveAll (slugger : Slugger) (requests : List Request) :
    (slugger.serveAll requests).1.length = requests.length := by
  induction requests generalizing slugger with
  | nil => rfl
  | cons request rest ih => simp [serveAll, ih]

/-- However a slugger has been used before, it answers the request for a slug with the smallest one:
the slug of the text, or that with the smallest number from one on, which is not in use; and so no
slug is handed out that was handed out or reserved before. -/
theorem slug_is_smallest (before after : List Request) (text : Text) :
    ∃ answer, (serveAll {} (before ++ .slug text :: after)).1[before.length]? = some answer ∧
      Slug.IsNext (used before) text answer ∧ ∀ slug ∈ answer, slug ∉ used before := by
  have counted := Counted.empty.serveAll before
  rw [List.nil_append] at counted
  have isNext := counted.isNext text
  refine ⟨((serveAll {} before).2.next text).1, ?_, isNext, ?_⟩
  · rw [serveAll_append, List.getElem?_append_right (Nat.le_of_eq (length_serveAll _ _)),
      length_serveAll, Nat.sub_self]
    rfl
  · rintro slug answered
    rw [Option.mem_def] at answered
    rw [answered] at isNext
    exact isNext.not_mem

end Slugger

end Manuscript
