import Manuscript.Prose.SmartPunctuation
import Mathlib.Data.List.Count
import Mathlib.Data.List.Infix

/-!
# Verbatim elements that are open

Only how often a verbatim element is open matters for what comes later, not the order in which the
elements were opened. A run of tags opens an element once more for every opening tag and once less
for every closing one that closes something (`depth`). It leaves the open elements as they were,
whatever they were, exactly when it is balanced: each of its closing tags closes one that it opened
before, and it closes all that it opens (`balanced_iff`).
-/

namespace Manuscript.SmartPunctuation

/-- The open verbatim elements after a run of tags. -/
def trackAll (tags : List RawTag) (names : List Text) : List Text :=
  tags.foldl (fun names tag => track tag names) names

/-- How often a run of tags opens an element. -/
def openings (name : Text) (tags : List RawTag) : Nat :=
  tags.countP fun tag => tag.name = name && !tag.closing && !tag.selfClosing

/-- How often a run of tags closes an element. -/
def closings (name : Text) (tags : List RawTag) : Nat :=
  tags.countP fun tag => tag.name = name && tag.closing && !tag.selfClosing

/-- A run of tags in which the verbatim elements are opened and closed again. -/
structure Balanced (tags : List RawTag) : Prop where
  /-- What is closed has been opened. -/
  ordered : ∀ name ∈ verbatimNames, ∀ front, front <+: tags →
    closings name front ≤ openings name front
  /-- What is opened is closed. -/
  settled : ∀ name ∈ verbatimNames, closings name tags = openings name tags

/-! ## How often one element is open -/

/-- How often an element is open after a tag. -/
def depthAfter (name : Text) (tag : RawTag) (count : Nat) : Nat :=
  if tag.selfClosing || tag.name ≠ name then count
  else if tag.closing then count - 1 else count + 1

/-- How often an element is open after a run of tags. -/
def depth (name : Text) (tags : List RawTag) (count : Nat) : Nat :=
  tags.foldl (fun count tag => depthAfter name tag count) count

section

variable {name : Text} {tags : List RawTag} {names : List Text}

/-- The first tag changes the depth for the others. -/
theorem depth_cons (name : Text) (tag : RawTag) (tags : List RawTag) (count : Nat) :
    depth name (tag :: tags) count = depth name tags (depthAfter name tag count) := rfl

/-- The depth after two stretches of tags is that after the second, begun with the first. -/
theorem depth_append (name : Text) (front back : List RawTag) (count : Nat) :
    depth name (front ++ back) count = depth name back (depth name front count) :=
  List.foldl_append

/-- The first tag is tracked before the others. -/
theorem trackAll_cons (tag : RawTag) (tags : List RawTag) (names : List Text) :
    trackAll (tag :: tags) names = trackAll tags (track tag names) := rfl

/-- Tags are tracked one stretch after the other. -/
theorem trackAll_append (front back : List RawTag) (names : List Text) :
    trackAll (front ++ back) names = trackAll back (trackAll front names) :=
  List.foldl_append

/-- What a tag does to the number of open elements, if one is there to be closed. -/
theorem depthAfter_add (name : Text) (tag : RawTag) (count : Nat) :
    count + openings name [tag] ≤ depthAfter name tag count + closings name [tag] ∧
      (closings name [tag] ≤ count + openings name [tag] →
        depthAfter name tag count + closings name [tag] = count + openings name [tag]) := by
  obtain ⟨own, closing, selfClosing⟩ := tag
  by_cases same : own = name <;> cases closing <;> cases selfClosing <;>
    simp [depthAfter, openings, closings, same]
  omega

/-- The opening tags of two stretches add up. -/
theorem openings_append (name : Text) (front back : List RawTag) :
    openings name (front ++ back) = openings name front + openings name back :=
  List.countP_append

/-- The closing tags of two stretches add up. -/
theorem closings_append (name : Text) (front back : List RawTag) :
    closings name (front ++ back) = closings name front + closings name back :=
  List.countP_append

/-- The opening tags of a stretch are those of the first and of the others. -/
theorem openings_cons (name : Text) (tag : RawTag) (tags : List RawTag) :
    openings name (tag :: tags) = openings name [tag] + openings name tags :=
  openings_append name [tag] tags

/-- The closing tags of a stretch are those of the first and of the others. -/
theorem closings_cons (name : Text) (tag : RawTag) (tags : List RawTag) :
    closings name (tag :: tags) = closings name [tag] + closings name tags :=
  closings_append name [tag] tags

/-- An element is open at least as often as the tags say, for a closing tag may close nothing. -/
theorem le_depth (name : Text) (tags : List RawTag) (count : Nat) :
    count + openings name tags ≤ depth name tags count + closings name tags := by
  induction tags generalizing count with
  | nil => exact Nat.le_refl _
  | cons tag rest ih =>
    have first := (depthAfter_add name tag count).1
    have later := ih (depthAfter name tag count)
    rw [openings_cons, closings_cons, depth_cons]
    omega

/-- It is open just as often as the tags say if each closing tag closes something. -/
theorem depth_eq (name : Text) (tags : List RawTag) (count : Nat)
    (closes : ∀ front, front <+: tags → closings name front ≤ count + openings name front) :
    depth name tags count + closings name tags = count + openings name tags := by
  induction tags generalizing count with
  | nil => rfl
  | cons tag rest ih =>
    have first := (depthAfter_add name tag count).2 (closes [tag] (by simp))
    have later := ih (depthAfter name tag count) fun front isFront => by
      have := closes (tag :: front) (List.cons_prefix_cons.2 ⟨rfl, isFront⟩)
      rw [openings_cons, closings_cons] at this
      omega
    rw [openings_cons, closings_cons, depth_cons]
    omega

/-- A balanced run leaves every verbatim element open as often as it was, and only such a run
does. -/
theorem balanced_iff :
    Balanced tags ↔ ∀ name ∈ verbatimNames, ∀ count, depth name tags count = count := by
  constructor
  · rintro ⟨ordered, settled⟩ name verbatim count
    have same := depth_eq name tags count fun front isFront =>
      Nat.le_trans (ordered name verbatim front isFront) (Nat.le_add_left _ _)
    rw [settled name verbatim] at same
    exact Nat.add_right_cancel same
  · intro stays
    have settled : ∀ name ∈ verbatimNames, closings name tags = openings name tags := by
      intro name verbatim
      -- With as many elements open as there are closing tags, each of these closes something.
      have same := depth_eq name tags (closings name tags) fun front isFront =>
        Nat.le_trans isFront.sublist.countP_le (Nat.le_add_right _ _)
      rw [stays name verbatim] at same
      omega
    refine ⟨fun name verbatim front isFront => ?_, settled⟩
    obtain ⟨back, rfl⟩ := isFront
    have whole := stays name verbatim 0
    have total := settled name verbatim
    have rest := le_depth name back (depth name front 0)
    rw [depth_append] at whole
    rw [openings_append, closings_append] at total
    omega

/-! ## The elements that are open -/

/-- The count of a verbatim element among those that are open after a tag. -/
theorem count_track (verbatim : name ∈ verbatimNames) (tag : RawTag) (names : List Text) :
    (track tag names).count name = depthAfter name tag (names.count name) := by
  obtain ⟨own, closing, selfClosing⟩ := tag
  rw [track, depthAfter]
  cases selfClosing with
  | true => rfl
  | false =>
    by_cases same : own = name
    · subst same
      cases closing <;> simp [verbatim, List.count_erase_self]
    · cases closing with
      | true => simp [same, List.count_erase_of_ne (Ne.symm same)]
      | false =>
        -- A tag of another name may be put there, or none is.
        by_cases other : own ∈ verbatimNames <;> simp [same, other]

/-- The count of a verbatim element among those that are open. -/
theorem count_trackAll (verbatim : name ∈ verbatimNames) :
    (trackAll tags names).count name = depth name tags (names.count name) := by
  induction tags generalizing names with
  | nil => rfl
  | cons tag rest ih => rw [trackAll_cons, ih, count_track verbatim, depth_cons]

/-- A tag opens none but verbatim elements. -/
theorem track_subset (areVerbatim : names ⊆ verbatimNames) (tag : RawTag) :
    track tag names ⊆ verbatimNames := by
  rw [track]
  split
  · exact areVerbatim
  · split
    · exact fun _ member => areVerbatim (List.mem_of_mem_erase member)
    · split
      · rename_i verbatim
        exact List.cons_subset.2 ⟨List.contains_iff_mem.1 verbatim, areVerbatim⟩
      · exact areVerbatim

/-- Only verbatim elements are kept track of. -/
theorem trackAll_subset (areVerbatim : names ⊆ verbatimNames) :
    trackAll tags names ⊆ verbatimNames := by
  induction tags generalizing names with
  | nil => exact areVerbatim
  | cons tag rest ih => exact ih (track_subset areVerbatim tag)

/-- No element is open exactly when each verbatim one is open no time. -/
theorem eq_nil_iff_count (areVerbatim : names ⊆ verbatimNames) :
    names = [] ↔ ∀ name ∈ verbatimNames, names.count name = 0 := by
  constructor
  · rintro rfl name _
    exact List.count_nil
  · intro none
    refine List.eq_nil_iff_forall_not_mem.2 fun name member => ?_
    exact List.count_eq_zero.1 (none name (areVerbatim member)) member

/-- A tag does the same to elements in another order. -/
theorem track_perm {others : List Text} (same : names.Perm others) (tag : RawTag) :
    (track tag names).Perm (track tag others) := by
  unfold track
  split
  · exact same
  · split
    · exact same.erase tag.name
    · split
      · exact same.cons tag.name
      · exact same

/-- The order in which elements were opened stays without effect. -/
theorem trackAll_perm {others : List Text} (same : names.Perm others) (tags : List RawTag) :
    (trackAll tags names).Perm (trackAll tags others) := by
  induction tags generalizing names others with
  | nil => exact same
  | cons tag rest ih => exact ih (track_perm same tag)

/-- A balanced run leaves the open elements as they were. -/
theorem trackAll_of_balanced (balanced : Balanced tags) (areVerbatim : names ⊆ verbatimNames) :
    (trackAll tags names).Perm names := by
  refine List.perm_iff_count.2 fun name => ?_
  by_cases verbatim : name ∈ verbatimNames
  · rw [count_trackAll verbatim, balanced_iff.1 balanced name verbatim]
  · rw [List.count_eq_zero.2 fun member => verbatim (trackAll_subset areVerbatim member),
      List.count_eq_zero.2 fun member => verbatim (areVerbatim member)]

end

/-! ## Tags around others -/

/-- A tag that opens an element. -/
def opening (name : Text) : RawTag :=
  { name, closing := false, selfClosing := false }

/-- A tag that closes an element. -/
def closing (name : Text) : RawTag :=
  { name, closing := true, selfClosing := false }

section

variable {name : Text}

/-- Each of several opening tags goes one deeper. -/
theorem depth_replicate_opening (name : Text) (times count : Nat) :
    depth name (List.replicate times (opening name)) count = count + times := by
  induction times generalizing count with
  | zero => rfl
  | succ times ih =>
    have first : depthAfter name (opening name) count = count + 1 := by
      simp [depthAfter, opening]
    rw [List.replicate_succ, depth_cons, first, ih]
    omega

/-- Each of several closing tags goes one back, until none is open. -/
theorem depth_replicate_closing (name : Text) (times count : Nat) :
    depth name (List.replicate times (closing name)) count = count - times := by
  induction times generalizing count with
  | zero => rfl
  | succ times ih =>
    have first : depthAfter name (closing name) count = count - 1 := by
      simp [depthAfter, closing]
    rw [List.replicate_succ, depth_cons, first, ih]
    omega

/-- Tags of another name do not count. -/
theorem depth_of_ne {tags : List RawTag} (others : ∀ tag ∈ tags, tag.name ≠ name) (count : Nat) :
    depth name tags count = count := by
  induction tags generalizing count with
  | nil => rfl
  | cons tag rest ih =>
    obtain ⟨first, later⟩ := List.forall_mem_cons.1 others
    have same : depthAfter name tag count = count := by
      simp [depthAfter, first]
    rw [depth_cons, same, ih later]

/-- Tags among opening tags before them and closing tags behind them. -/
def around (name : Text) (opened closed : Nat) (tags : List RawTag) : List RawTag :=
  List.replicate opened (opening name) ++ (tags ++ List.replicate closed (closing name))

/-- What is open after tags that have others around them. -/
theorem trackAll_around_eq_nil_iff (verbatim : name ∈ verbatimNames) (opened closed : Nat)
    (tags : List RawTag) :
    trackAll (around name opened closed tags) [] = [] ↔
      depth name tags opened ≤ closed ∧
        ∀ other ∈ verbatimNames, other ≠ name → depth other tags 0 = 0 := by
  have own : depth name (around name opened closed tags) 0 = depth name tags opened - closed := by
    rw [around, depth_append, depth_append, depth_replicate_opening, depth_replicate_closing,
      Nat.zero_add]
  have others : ∀ other, other ≠ name →
      depth other (around name opened closed tags) 0 = depth other tags 0 := by
    intro other different
    have apart : ∀ times, ∀ tag : RawTag, tag.name = name →
        ∀ member ∈ List.replicate times tag, member.name ≠ other := by
      intro times tag isName member inside
      rw [List.eq_of_mem_replicate inside, isName]
      exact different.symm
    rw [around, depth_append, depth_append, depth_of_ne (apart opened _ rfl),
      depth_of_ne (apart closed _ rfl)]
  rw [eq_nil_iff_count (trackAll_subset (List.nil_subset _))]
  constructor
  · intro none
    refine ⟨?_, fun other isVerbatim different => ?_⟩
    · have := none name verbatim
      rw [count_trackAll verbatim, List.count_nil, own] at this
      omega
    · have := none other isVerbatim
      rwa [count_trackAll isVerbatim, List.count_nil, others other different] at this
  · rintro ⟨bound, none⟩ other isVerbatim
    rw [count_trackAll isVerbatim, List.count_nil]
    by_cases same : other = name
    · subst same
      rw [own]
      omega
    · rw [others other same, none other isVerbatim same]

/-- A run of tags is balanced if it makes no difference among opening and closing tags of any
verbatim element whether all of these are closed. -/
theorem balanced_of_around {tags : List RawTag}
    (same : ∀ name ∈ verbatimNames, ∀ opened closed,
      trackAll (around name opened closed tags) [] = [] ↔
        trackAll (around name opened closed []) [] = []) : Balanced tags := by
  have inside : ∀ name ∈ verbatimNames, ∀ opened closed,
      (depth name tags opened ≤ closed ∧
        ∀ other ∈ verbatimNames, other ≠ name → depth other tags 0 = 0) ↔ opened ≤ closed := by
    intro name verbatim opened closed
    rw [← trackAll_around_eq_nil_iff verbatim, same name verbatim,
      trackAll_around_eq_nil_iff verbatim]
    exact and_iff_left fun _ _ _ => rfl
  refine balanced_iff.2 fun name verbatim count => ?_
  have others := ((inside name verbatim 0 0).2 (Nat.le_refl 0)).2
  apply Nat.le_antisymm
  · exact ((inside name verbatim count count).2 (Nat.le_refl _)).1
  · exact (inside name verbatim count (depth name tags count)).1 ⟨Nat.le_refl _, others⟩

end

end Manuscript.SmartPunctuation
