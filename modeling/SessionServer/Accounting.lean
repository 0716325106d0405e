import Mathlib.Algebra.BigOperators.Group.Finset.Basic
import Mathlib.Algebra.Order.BigOperators.Group.Finset
import Mathlib.Data.Fintype.BigOperators
import Mathlib.Tactic

/-!
# Accounting by finite sums

A quantity spread over finitely many holders is a sum of one weight per
holder.  Changing one holder moves the sum by the difference of its weights;
a sum of at most one has at most one holder of positive weight.
-/

namespace Accounting

open Finset

variable {ι β M : Type*} [DecidableEq ι] [AddCommMonoid M]

/-- Replacing one holder exchanges its old weight for its new one. -/
theorem sum_update_add (holders : Finset ι) (weight : β → M) (assigned : ι → β) {index : ι}
    (hindex : index ∈ holders) (value : β) :
    (∑ i ∈ holders, weight (Function.update assigned index value i)) + weight (assigned index) =
      (∑ i ∈ holders, weight (assigned i)) + weight value := by
  have hcompose :
      (fun i => weight (Function.update assigned index value i)) =
        Function.update (fun i => weight (assigned i)) index (weight value) := by
    funext i
    by_cases hi : i = index
    · subst hi
      simp
    · simp [hi]
  rw [hcompose, sum_update_of_mem hindex,
    ← sum_sdiff (singleton_subset_iff.mpr hindex) (f := fun i => weight (assigned i))]
  rw [sum_singleton, add_comm (weight value), add_right_comm]

theorem sum_univ_update_add [Fintype ι]
    (weight : β → ℕ) (assigned : ι → β) (index : ι) (value : β) :
    (∑ i, weight (Function.update assigned index value i)) + weight (assigned index) =
      (∑ i, weight (assigned i)) + weight value :=
  sum_update_add univ weight assigned (mem_univ index) value

omit [DecidableEq ι] in
theorem weight_le_sum [Fintype ι] (weight : β → ℕ) (assigned : ι → β) (index : ι) :
    weight (assigned index) ≤ ∑ i, weight (assigned i) :=
  single_le_sum (f := fun i => weight (assigned i)) (fun _ _ => Nat.zero_le _) (mem_univ index)

/-- Two different holders of positive weight make a sum of at least two. -/
theorem eq_of_sum_le_one [Fintype ι] {weight : β → ℕ} {assigned : ι → β} {first second : ι}
    (hsum : ∑ i, weight (assigned i) ≤ 1) (hfirst : 0 < weight (assigned first))
    (hsecond : 0 < weight (assigned second)) : first = second := by
  by_contra hne
  have hpair : ∑ i ∈ ({first, second} : Finset ι), weight (assigned i) ≤ ∑ i, weight (assigned i) :=
    sum_le_sum_of_subset (subset_univ _)
  rw [sum_pair hne] at hpair
  omega

omit [DecidableEq ι] in
theorem weight_eq_zero_of_sum_eq_zero [Fintype ι] {weight : β → ℕ} {assigned : ι → β}
    (hsum : ∑ i, weight (assigned i) = 0) (index : ι) :
    weight (assigned index) = 0 := by
  have hle := weight_le_sum weight assigned index
  omega

theorem countP_singleton {α : Type*} (predicate : α → Bool) (value : α) :
    [value].countP predicate = (predicate value).toNat := by
  cases hvalue : predicate value <;> simp [hvalue]

end Accounting
