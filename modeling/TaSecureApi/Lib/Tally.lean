import Mathlib.Algebra.BigOperators.Group.Finset.Piecewise
import Mathlib.Algebra.Order.BigOperators.Group.Finset

namespace Tally
set_option autoImplicit true
open Function

/-- The values of `f` are 0 outside of a finite set, and add up to `n`. -/
def Sums (f : ι → Nat) (n : Nat) : Prop :=
  ∃ s : Finset ι, (∀ i, i ∉ s → f i = 0) ∧ ∑ i ∈ s, f i = n

theorem Sums.zero : Sums (fun _ : ι => 0) 0 :=
  ⟨∅, fun _ _ => rfl, rfl⟩

section Sums

variable {f : ι → Nat} {n : Nat}

theorem Sums.with_mem [DecidableEq ι] (h : Sums f n) (i : ι) :
    ∃ s : Finset ι, i ∈ s ∧ (∀ j, j ∉ s → f j = 0) ∧ ∑ j ∈ s, f j = n := by
  obtain ⟨s, hs, hn⟩ := h
  refine ⟨insert i s, Finset.mem_insert_self i s, fun j hj => ?_, ?_⟩
  · exact hs j fun hjs => hj (Finset.mem_insert_of_mem hjs)
  · rw [Finset.sum_insert_of_eq_zero_if_notMem (hs i), hn]

theorem Sums.le [DecidableEq ι] (h : Sums f n) (i : ι) : f i ≤ n := by
  obtain ⟨s, hi, -, rfl⟩ := h.with_mem i
  exact Finset.single_le_sum (fun _ _ => Nat.zero_le _) hi

theorem Sums.eq_zero [DecidableEq ι] (h : Sums f 0) (i : ι) : f i = 0 :=
  Nat.le_zero.1 (h.le i)

theorem Sums.unique [DecidableEq ι] (h : Sums f n) (h' : Sums f m) : n = m := by
  obtain ⟨s, hs, rfl⟩ := h
  obtain ⟨t, ht, rfl⟩ := h'
  rw [Finset.sum_subset Finset.subset_union_left fun i _ hi => hs i hi]
  exact (Finset.sum_subset Finset.subset_union_right fun i _ hi => ht i hi).symm

theorem Sums.exists_ne_zero (h : Sums f n) (hn : n ≠ 0) : ∃ i, f i ≠ 0 := by
  obtain ⟨s, -, rfl⟩ := h
  obtain ⟨i, -, hi⟩ := Finset.exists_ne_zero_of_sum_ne_zero hn
  exact ⟨i, hi⟩

theorem Sums.update [DecidableEq ι] (h : Sums f n) (i : ι) {k m : Nat} (hk : n + k = m + f i) :
    Sums (update f i k) m := by
  obtain ⟨s, hi, hs, rfl⟩ := h.with_mem i
  refine ⟨s, fun j hj => ?_, ?_⟩
  · have hne : j ≠ i := fun he => hj (he ▸ hi)
    rw [update_of_ne hne, hs j hj]
  · rw [Finset.sum_update_of_mem hi]
    rw [← Finset.add_sum_erase s f hi] at hk
    rw [Finset.sdiff_singleton_eq_erase]
    omega

end Sums

end Tally
