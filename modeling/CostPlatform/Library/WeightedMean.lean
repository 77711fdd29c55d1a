import Mathlib.Algebra.BigOperators.Group.List.Basic
import Mathlib.Algebra.BigOperators.Ring.List
import Mathlib.Algebra.Order.BigOperators.Group.List
import Mathlib.Algebra.Order.Field.Basic
import Mathlib.Tactic.Lemma

/-!
# Weighted means

Values times weights, summed over a list.  If the weights are not negative and sum to one, this is a
mean: it lies between the values of two entries of positive weight (`exists_le_mean`,
`exists_mean_le`).
-/

namespace WeightedMean

variable {α κ : Type*} [Field κ]

/-- Values times weights. -/
def mean (value weight : α → κ) (xs : List α) : κ := (xs.map fun x => value x * weight x).sum

variable {value weight : α → κ} {xs : List α}

/-- A constant value comes out as often as the weights say. -/
lemma mean_const (c : κ) : mean (fun _ => c) weight xs = c * (xs.map weight).sum :=
  List.sum_map_mul_left ..

/-- Only the values on the list matter. -/
lemma mean_congr {other : α → κ} (h : ∀ x ∈ xs, value x = other x) :
    mean value weight xs = mean other weight xs :=
  congrArg List.sum (List.map_congr_left fun x hx => by rw [h x hx])

/-- Negated values have the negated mean. -/
lemma mean_neg : mean (fun x => -value x) weight xs = -mean value weight xs := by
  induction xs with
  | nil => exact neg_zero.symm
  | cons x xs ih =>
      rw [mean] at ih
      simp only [mean, List.map_cons, List.sum_cons, neg_add, neg_mul] at ih ⊢
      rw [ih]

variable [LinearOrder κ] [IsStrictOrderedRing κ]

/-- Something has a weight. -/
lemma exists_pos_weight (hsum : (xs.map weight).sum = 1) : ∃ x ∈ xs, 0 < weight x := by
  by_contra hnone
  have hle : (xs.map weight).sum ≤ 0 := by
    refine (List.sum_le_card_nsmul _ 0 fun w hw => ?_).trans_eq (nsmul_zero _)
    obtain ⟨x, hx, rfl⟩ := List.mem_map.mp hw
    exact not_lt.mp fun hpos => hnone ⟨x, hx, hpos⟩
  rw [hsum] at hle
  exact absurd hle (not_le.mpr one_pos)

/-- Where every value with a weight is above a bound, so is the mean. -/
lemma lt_mean (hweight : ∀ x ∈ xs, 0 ≤ weight x) (hsum : (xs.map weight).sum = 1) {c : κ}
    (h : ∀ x ∈ xs, 0 < weight x → c < value x) : c < mean value weight xs := by
  have hconst : mean (fun _ => c) weight xs = c := by
    rw [mean_const, hsum, mul_one]
  rw [← hconst]
  refine List.sum_lt_sum _ _ (fun x hx => ?_) ?_
  · rcases (hweight x hx).eq_or_lt with hzero | hpos
    · rw [← hzero, mul_zero, mul_zero]
    · exact mul_le_mul_of_nonneg_right (h x hx hpos).le hpos.le
  · obtain ⟨x, hx, hpos⟩ := exists_pos_weight hsum
    exact ⟨x, hx, mul_lt_mul_of_pos_right (h x hx hpos) hpos⟩

variable (value)

/-- **A value with a weight is at most the mean.** -/
theorem exists_le_mean (hweight : ∀ x ∈ xs, 0 ≤ weight x) (hsum : (xs.map weight).sum = 1) :
    ∃ x ∈ xs, 0 < weight x ∧ value x ≤ mean value weight xs := by
  by_contra hnone
  have hlt : mean value weight xs < mean value weight xs := by
    refine lt_mean hweight hsum fun x hx hpos => ?_
    exact not_le.mp fun hle => hnone ⟨x, hx, hpos, hle⟩
  exact lt_irrefl _ hlt

/-- **And a value with a weight is at least the mean.** -/
theorem exists_mean_le (hweight : ∀ x ∈ xs, 0 ≤ weight x) (hsum : (xs.map weight).sum = 1) :
    ∃ x ∈ xs, 0 < weight x ∧ mean value weight xs ≤ value x := by
  obtain ⟨x, hx, hpos, hle⟩ := exists_le_mean (fun x => -value x) hweight hsum
  rw [mean_neg] at hle
  exact ⟨x, hx, hpos, neg_le_neg_iff.mp hle⟩

end WeightedMean
