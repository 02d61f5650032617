import Manuscript.Slug

/-!
# Slugs are handed out once

What a slugger has handed out or reserved stays taken, and what it hands out next is not taken
(`next_fresh`).
-/

namespace Manuscript

namespace Slug

/-- Numbers are written differently. -/
theorem ofNat_injective {m n : Nat} (same : Text.ofNat m = Text.ofNat n) : m = n := by
  have read : ∀ k, Nat.ofDigitChars 10 (Text.ofNat k) 0 = k := fun k =>
    Nat.ofDigitChars_toDigits (by decide) (by decide)
  rw [← read m, ← read n, same]

/-- A numbered slug determines its number. -/
theorem numbered_injective {base : Text} {m n : Nat} (same : numbered base m = numbered base n) :
    m = n :=
  ofNat_injective (List.cons.inj (List.append_cancel_left same)).2

/-- The search begins with the given number. -/
theorem le_firstFree (base : Text) (taken : List Text) (n : Nat) : n ≤ firstFree base taken n := by
  fun_induction firstFree base taken n with
  | case1 taken n _ ih => omega
  | case2 taken n _ => exact Nat.le_refl n

/-- The search ends with a slug that is not taken. -/
theorem firstFree_not_mem (base : Text) (taken : List Text) (n : Nat) :
    numbered base (firstFree base taken n) ∉ taken := by
  fun_induction firstFree base taken n with
  | case1 taken n _ ih =>
    intro member
    have later := le_firstFree base (taken.erase (numbered base n)) (n + 1)
    have other : numbered base (firstFree base (taken.erase (numbered base n)) (n + 1)) ≠
        numbered base n := fun same => by
      have := numbered_injective same
      omega
    exact ih ((List.mem_erase_of_ne other).2 member)
  | case2 taken n free => exact free

end Slug

namespace Slugger

/-- A slug has no count exactly when it has not been taken. -/
theorem count?_eq_none_iff {slugger : Slugger} {slug : Text} :
    slugger.count? slug = none ↔ slug ∉ slugger.taken := by
  unfold count? taken
  rw [List.lookup_eq_none_iff]
  constructor
  · intro others member
    obtain ⟨pair, there, same⟩ := List.mem_map.1 member
    exact bne_iff_ne.1 (others pair there) same.symm
  · intro free pair there
    exact bne_iff_ne.2 fun same => free (same ▸ List.mem_map_of_mem there)

/-- What is taken stays taken, and what is reserved is taken. -/
theorem taken_reserve (id : Text) (slugger : Slugger) :
    slugger.taken ⊆ (slugger.reserve id).taken ∧ id ∈ (slugger.reserve id).taken := by
  unfold reserve
  split
  · rename_i count counted
    refine ⟨List.Subset.refl _, Classical.byContradiction fun free => ?_⟩
    cases counted.symm.trans (count?_eq_none_iff.2 free)
  · exact ⟨List.subset_cons_self _ _, List.mem_cons_self⟩

/-- What is taken stays taken when a slug is handed out. -/
theorem taken_next (text : Text) (slugger : Slugger) :
    slugger.taken ⊆ (slugger.next text).2.taken := by
  unfold next
  dsimp only
  split
  · exact List.Subset.refl _
  · split
    · exact List.subset_cons_self _ _
    · exact List.Subset.trans (List.subset_cons_self _ _) (List.subset_cons_self _ _)

/-- A slug that is handed out was not taken before, and is taken from then on. -/
theorem next_fresh {text slug : Text} {slugger : Slugger}
    (found : (slugger.next text).1 = some slug) :
    slug ∉ slugger.taken ∧ slug ∈ (slugger.next text).2.taken := by
  unfold next at found ⊢
  dsimp only at found ⊢
  split at found
  · cases found
  · rename_i nonempty
    rw [if_neg nonempty]
    split at found
    · rename_i free
      cases found
      exact ⟨count?_eq_none_iff.1 free, List.mem_cons_self⟩
    · rename_i count counted
      cases found
      exact ⟨Slug.firstFree_not_mem _ _ _, List.mem_cons_self⟩

end Slugger

end Manuscript
