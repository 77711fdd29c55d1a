import Mathlib.Algebra.BigOperators.Group.List.Basic
import Mathlib.Algebra.BigOperators.Ring.List
import Mathlib.Algebra.Order.BigOperators.Group.List
import Mathlib.Algebra.Order.Field.Basic
import Mathlib.Tactic.Lemma
import Mathlib.Tactic.Ring

/-!
# Least squares

The line of best fit through a list of points.  Points that lie on a line have that line for their
fit, as long as they do not all stand one above the other (`fit_of_onLine`); and the squared error
of the fit is zero exactly where they do lie on a line (`squaredError_eq_zero_iff`).
-/

namespace LeastSquares

variable {κ : Type*} [Field κ]

def mean (values : List κ) : κ := values.sum / values.length

/-- The squared distances of the places from their mean, added up. -/
def spread (points : List (κ × κ)) : κ :=
  (points.map fun point => (point.1 - mean (points.map Prod.fst)) ^ 2).sum

def covariation (points : List (κ × κ)) : κ :=
  (points.map fun point => (point.1 - mean (points.map Prod.fst))
    * (point.2 - mean (points.map Prod.snd))).sum

/-- How much the line rises, and zero where the points are all in one place. -/
def slope (points : List (κ × κ)) : κ := covariation points / spread points

def intercept (points : List (κ × κ)) : κ :=
  mean (points.map Prod.snd) - slope points * mean (points.map Prod.fst)

/-- The squared distances of the points from the line of best fit, added up. -/
def squaredError (points : List (κ × κ)) : κ :=
  (points.map fun point => (point.2 - (intercept points + slope points * point.1)) ^ 2).sum

/-- Every point is on the line. -/
def OnLine (start rise : κ) (points : List (κ × κ)) : Prop :=
  ∀ point ∈ points, point.2 = start + rise * point.1

variable {points : List (κ × κ)} {start rise : κ}

/-- The means of points on a line are on it. -/
lemma mean_of_onLine [CharZero κ] (hnonempty : points ≠ []) (h : OnLine start rise points) :
    mean (points.map Prod.snd) = start + rise * mean (points.map Prod.fst) := by
  have hlength : (points.length : κ) ≠ 0 :=
    Nat.cast_ne_zero.mpr (mt List.eq_nil_of_length_eq_zero hnonempty)
  have hsum : (points.map Prod.snd).sum
      = points.length * start + rise * (points.map Prod.fst).sum := by
    rw [List.map_congr_left h, List.sum_map_add, List.sum_map_mul_left, List.map_const',
      List.sum_replicate, nsmul_eq_mul]
  rw [mean, mean, List.length_map, List.length_map, hsum, add_div, mul_div_cancel_left₀ _ hlength,
    mul_div_assoc]

lemma covariation_of_onLine [CharZero κ] (hnonempty : points ≠ [])
    (h : OnLine start rise points) : covariation points = rise * spread points := by
  rw [covariation, spread, ← List.sum_map_mul_left]
  refine congrArg List.sum (List.map_congr_left fun point hpoint => ?_)
  rw [mean_of_onLine hnonempty h, h point hpoint]
  ring

/-- **Points on a line have that line for their fit.** -/
theorem fit_of_onLine [CharZero κ] (hnonempty : points ≠ [])
    (hspread : spread points ≠ 0) (h : OnLine start rise points) :
    intercept points = start ∧ slope points = rise := by
  have hslope : slope points = rise := by
    rw [slope, covariation_of_onLine hnonempty h, mul_div_cancel_right₀ _ hspread]
  refine ⟨?_, hslope⟩
  rw [intercept, hslope, mean_of_onLine hnonempty h, add_sub_cancel_right]

section Ordered

variable [LinearOrder κ] [IsStrictOrderedRing κ]

lemma sum_sq_eq_zero_iff {α : Type*} {f : α → κ} {xs : List α} :
    (xs.map fun x => f x ^ 2).sum = 0 ↔ ∀ x ∈ xs, f x = 0 := by
  induction xs with
  | nil => simp
  | cons x xs ih =>
      have hrest : 0 ≤ (xs.map fun x => f x ^ 2).sum :=
        List.sum_nonneg fun y hy => by
          obtain ⟨x, -, rfl⟩ := List.mem_map.mp hy
          exact sq_nonneg _
      rw [List.map_cons, List.sum_cons, add_eq_zero_iff_of_nonneg (sq_nonneg _) hrest, ih,
        List.forall_mem_cons, sq_eq_zero_iff]

lemma squaredError_nonneg : 0 ≤ squaredError points :=
  List.sum_nonneg fun y hy => by
    obtain ⟨point, -, rfl⟩ := List.mem_map.mp hy
    exact sq_nonneg _

/-- Two places that differ spread. -/
lemma spread_ne_zero {point other : κ × κ} (hpoint : point ∈ points) (hother : other ∈ points)
    (hne : point.1 ≠ other.1) : spread points ≠ 0 := by
  intro h
  have hmean := sum_sq_eq_zero_iff.mp h
  exact hne ((sub_eq_zero.mp (hmean point hpoint)).trans (sub_eq_zero.mp (hmean other hother)).symm)

/-- **There is no error exactly where the points lie on a line.** -/
theorem squaredError_eq_zero_iff (hnonempty : points ≠ []) (hspread : spread points ≠ 0) :
    squaredError points = 0 ↔ ∃ start rise, OnLine start rise points := by
  rw [squaredError, sum_sq_eq_zero_iff]
  constructor
  · exact fun h => ⟨_, _, fun point hpoint => sub_eq_zero.mp (h point hpoint)⟩
  · rintro ⟨start, rise, h⟩ point hpoint
    obtain ⟨hstart, hrise⟩ := fit_of_onLine hnonempty hspread h
    rw [hstart, hrise, h point hpoint, sub_self]

end Ordered

end LeastSquares
