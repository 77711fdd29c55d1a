import CostPlatform.Library.PyFloat
import Mathlib.Algebra.Order.Field.Power
import Mathlib.Data.Int.Log
import Mathlib.Tactic.FieldSimp
import Mathlib.Tactic.Positivity

/-!
# Binary floating point

A finite `float` is an integer of 53 bits times a power of two.  What an operator returns is the
exact result, rounded: of the floats that are nearest to it the one with the even mantissa.  Finite
results only: overflow is left out.

`round_closest` says that no float is nearer than the rounded one, and that is all the rest needs:
rounding keeps the order (`round_mono`) and leaves floats as they are (`round_eq_self`).
-/

namespace Binary64

open PyJson (PyFloat)

/-- The values of a float, subnormal ones among them. -/
def IsFloat (x : ℚ) : Prop := ∃ m e : ℤ, |m| ≤ 2 ^ 53 ∧ -1074 ≤ e ∧ x = m * 2 ^ e

/-- The exponent of the last place that a float near `x` has. -/
def lastPlace (x : ℚ) : ℤ := max (Int.log 2 |x| - 52) (-1074)

/-- The float nearest to `x`, the even one of two. -/
def round (x : ℚ) : ℚ := PyFloat.nearest (x / 2 ^ lastPlace x) * 2 ^ lastPlace x

variable {x y : ℚ}

lemma two_zpow_pos (e : ℤ) : (0 : ℚ) < 2 ^ e := zpow_pos two_pos e

/-- Two numbers are as far apart in units as they are, in the unit. -/
lemma abs_sub_div (a x : ℚ) (e : ℤ) : |a * 2 ^ e - x| = |a - x / 2 ^ e| * 2 ^ e := by
  have hpos := two_zpow_pos e
  rw [← abs_of_pos hpos, ← abs_mul, abs_of_pos hpos, sub_mul, div_mul_cancel₀ x hpos.ne']

/-! ## Places -/

lemma abs_div_lt (x : ℚ) : |x / 2 ^ lastPlace x| < 2 ^ 53 := by
  have hlog : |x| < (2 : ℚ) ^ (Int.log 2 |x| + 1) := by
    simpa using Int.lt_zpow_succ_log_self Nat.one_lt_two |x|
  have hplace : Int.log 2 |x| + 1 ≤ 53 + lastPlace x := by
    have := le_max_left (Int.log 2 |x| - 52) (-1074)
    rw [lastPlace]
    omega
  rw [abs_div, abs_of_pos (two_zpow_pos _), div_lt_iff₀ (two_zpow_pos _)]
  refine hlog.trans_le ((zpow_le_zpow_right₀ one_le_two hplace).trans ?_)
  rw [zpow_add₀ two_ne_zero]
  rfl

/-- Above the subnormal range the leading bit is one. -/
lemma le_abs_div (hx : x ≠ 0) (hplace : -1074 < lastPlace x) :
    2 ^ 52 ≤ |x / 2 ^ lastPlace x| := by
  have hlog : (2 : ℚ) ^ Int.log 2 |x| ≤ |x| := by
    simpa using Int.zpow_log_le_self Nat.one_lt_two (abs_pos.mpr hx)
  have hnormal : 52 + lastPlace x = Int.log 2 |x| := by
    rw [lastPlace] at hplace ⊢
    omega
  rw [abs_div, abs_of_pos (two_zpow_pos _), le_div_iff₀ (two_zpow_pos _)]
  refine le_trans ?_ hlog
  rw [← hnormal, zpow_add₀ two_ne_zero]
  rfl

/-! ## Rounding -/

lemma isFloat_round (x : ℚ) : IsFloat (round x) := by
  refine ⟨_, _, ?_, le_max_right _ _, rfl⟩
  obtain ⟨hlower, hupper⟩ := abs_lt.mp (abs_div_lt x)
  obtain ⟨hbelow, habove⟩ := abs_le.mp (PyFloat.abs_nearest_sub_le (x / 2 ^ lastPlace x))
  have hle : (PyFloat.nearest (x / 2 ^ lastPlace x) : ℚ) < (2 ^ 53 + 1 : ℤ) := by
    push_cast
    linarith
  have hge : ((-2 ^ 53 - 1 : ℤ) : ℚ) < PyFloat.nearest (x / 2 ^ lastPlace x) := by
    push_cast
    linarith
  have hle' := Int.cast_lt.mp hle
  have hge' := Int.cast_lt.mp hge
  exact abs_le.mpr ⟨by omega, by omega⟩

/-- **No float is nearer** than the rounded value. -/
theorem round_closest (x : ℚ) {f : ℚ} (hf : IsFloat f) : |round x - x| ≤ |f - x| := by
  obtain ⟨m, e, hm, he, rfl⟩ := hf
  rcases eq_or_ne x 0 with rfl | hx
  · have hzero : PyFloat.nearest 0 = 0 := by exact_mod_cast PyFloat.nearest_intCast 0
    rw [show round 0 = 0 by simp [round, hzero], sub_self, abs_zero]
    exact abs_nonneg _
  have hpos := two_zpow_pos (lastPlace x)
  rcases le_or_gt (lastPlace x) e with hplace | hplace
  · -- in units of the last place the float is an integer too
    have hunits : (m : ℚ) * 2 ^ e
        = ((m * 2 ^ (e - lastPlace x).toNat : ℤ) : ℚ) * 2 ^ lastPlace x := by
      have hexponent : e = ((e - lastPlace x).toNat : ℤ) + lastPlace x := by omega
      conv_lhs => rw [hexponent, zpow_add₀ two_ne_zero, zpow_natCast]
      push_cast
      ring
    rw [hunits, round, abs_sub_div, abs_sub_div]
    exact mul_le_mul_of_nonneg_right (PyFloat.nearest_closest _ _) hpos.le
  · -- the float lies beyond the power of two that leads `x`
    have hlead := le_abs_div hx (lt_of_le_of_lt he hplace)
    have hsmall : |(m : ℚ) * 2 ^ e / 2 ^ lastPlace x| ≤ 2 ^ 52 := by
      have hm' : |(m : ℚ)| ≤ 2 ^ 53 := by exact_mod_cast hm
      have hstep : (2 : ℚ) ^ e * 2 ≤ 2 ^ lastPlace x := by
        rw [← zpow_add_one₀ two_ne_zero]
        exact zpow_le_zpow_right₀ one_le_two hplace
      rw [abs_div, abs_mul, abs_of_pos hpos, abs_of_pos (two_zpow_pos e), div_le_iff₀ hpos]
      nlinarith [two_zpow_pos e]
    have hscale : |(m : ℚ) * 2 ^ e - x|
        = |(m : ℚ) * 2 ^ e / 2 ^ lastPlace x - x / 2 ^ lastPlace x| * 2 ^ lastPlace x := by
      rw [← abs_sub_div, div_mul_cancel₀ _ hpos.ne']
    rw [round, abs_sub_div, hscale]
    refine mul_le_mul_of_nonneg_right ?_ hpos.le
    obtain ⟨hsmallLower, hsmallUpper⟩ := abs_le.mp hsmall
    rcases le_abs.mp hlead with hpositive | hnegative
    · refine (PyFloat.nearest_closest _ (2 ^ 52)).trans ?_
      push_cast
      rw [abs_of_nonpos (by linarith), abs_of_nonpos (by linarith)]
      linarith
    · refine (PyFloat.nearest_closest _ (-2 ^ 52)).trans ?_
      push_cast
      rw [abs_of_nonneg (by linarith), abs_of_nonneg (by linarith)]
      linarith

lemma round_eq_self (hx : IsFloat x) : round x = x := by
  have hclosest := round_closest x hx
  rw [sub_self, abs_zero] at hclosest
  exact sub_eq_zero.mp (abs_nonpos_iff.mp hclosest)

/-- **Rounding keeps the order.** -/
theorem round_mono (h : x ≤ y) : round x ≤ round y := by
  rcases h.eq_or_lt with rfl | hlt
  · exact le_rfl
  by_contra hnot
  -- the two results the other way round would each be nearer to the other number
  have hx := round_closest x (isFloat_round y)
  have hy := round_closest y (isFloat_round x)
  rw [not_le] at hnot
  rcases abs_cases (round x - x) with hcase | hcase <;>
    rcases abs_cases (round y - x) with hcase' | hcase' <;>
    rcases abs_cases (round x - y) with hcase'' | hcase'' <;>
    rcases abs_cases (round y - y) with hcase''' | hcase''' <;>
    linarith

/-! ## Operators -/

/-- Floats, and sums of floats, are multiples of the smallest float. -/
def OnGrid (x : ℚ) : Prop := ∃ n : ℤ, x = n * 2 ^ (-1074 : ℤ)

lemma IsFloat.onGrid (hx : IsFloat x) : OnGrid x := by
  obtain ⟨m, e, -, he, rfl⟩ := hx
  refine ⟨m * 2 ^ (e + 1074).toNat, ?_⟩
  have hexponent : e = ((e + 1074).toNat : ℤ) + (-1074) := by omega
  conv_lhs => rw [hexponent, zpow_add₀ two_ne_zero, zpow_natCast]
  rw [Int.cast_mul, Int.cast_pow, Int.cast_ofNat, mul_assoc]

lemma OnGrid.add (hx : OnGrid x) (hy : OnGrid y) : OnGrid (x + y) := by
  obtain ⟨n, rfl⟩ := hx
  obtain ⟨k, rfl⟩ := hy
  exact ⟨n + k, by rw [Int.cast_add, add_mul]⟩

lemma OnGrid.sub (hx : OnGrid x) (hy : OnGrid y) : OnGrid (x - y) := by
  obtain ⟨n, rfl⟩ := hx
  obtain ⟨k, rfl⟩ := hy
  exact ⟨n - k, by rw [Int.cast_sub, sub_mul]⟩

/-- **What rounding is off by**: half a last place, and nothing in the subnormal range. -/
theorem abs_round_sub_le (hx : OnGrid x) : |round x - x| ≤ |x| / 2 ^ 53 := by
  rcases eq_or_ne x 0 with rfl | hne
  · have hzero := round_closest 0 (f := 0) ⟨0, 0, by norm_num, by norm_num, by norm_num⟩
    simpa using hzero
  rcases (le_max_right (Int.log 2 |x| - 52) (-1074)).eq_or_lt with hplace | hplace
  · -- the last place is that of the smallest float, of which `x` is a multiple
    obtain ⟨n, hn⟩ := hx
    have hexact : round x = x := by
      have hunits : x / 2 ^ lastPlace x = (n : ℚ) := by
        rw [lastPlace, ← hplace, hn, mul_div_cancel_right₀ _ (two_zpow_pos _).ne']
      rw [round, hunits, PyFloat.nearest_intCast, ← hunits,
        div_mul_cancel₀ x (two_zpow_pos _).ne']
    rw [hexact, sub_self, abs_zero]
    positivity
  · have hlead := le_abs_div hne hplace
    have hpos := two_zpow_pos (lastPlace x)
    rw [abs_div, abs_of_pos hpos, le_div_iff₀ hpos] at hlead
    rw [round, abs_sub_div, le_div_iff₀ (by positivity)]
    nlinarith [PyFloat.abs_nearest_sub_le (x / 2 ^ lastPlace x)]

end Binary64

/-- A finite float. -/
abbrev Binary64 := {x : ℚ // Binary64.IsFloat x}

namespace Binary64

/-- The float nearest to a rational. -/
def ofRat (x : ℚ) : Binary64 := ⟨round x, isFloat_round x⟩

instance : Zero Binary64 := ⟨⟨0, 0, 0, by decide, by decide, by norm_num⟩⟩

instance : Add Binary64 := ⟨fun a b => ofRat (a + b)⟩

instance : Sub Binary64 := ⟨fun a b => ofRat (a - b)⟩

variable {a b c : Binary64}

lemma coe_add (a b : Binary64) : ((a + b : Binary64) : ℚ) = round (a + b) := rfl

lemma sub_mono (h : a ≤ b) (c : Binary64) : a - c ≤ b - c :=
  Subtype.coe_le_coe.mp (round_mono (sub_le_sub_right (Subtype.coe_le_coe.mpr h) (c : ℚ)))

/-- Nothing is rounded when zero is what a float is taken from. -/
lemma zero_sub_lt (h : 0 < a) : 0 - a < (0 : Binary64) := by
  obtain ⟨m, e, hm, he, hvalue⟩ := a.2
  have hneg : IsFloat (0 - a) := ⟨-m, e, by rwa [abs_neg], he, by rw [hvalue]; push_cast; ring⟩
  have hpos : (0 : ℚ) < a := Subtype.coe_lt_coe.mpr h
  refine Subtype.coe_lt_coe.mp ?_
  show round (0 - a) < 0
  rw [round_eq_self hneg]
  linarith

end Binary64
