import CostPlatform.Library.PyJson
import Mathlib.Algebra.Order.Floor.Ring
import Mathlib.Algebra.Order.Ring.Rat
import Mathlib.Data.Prod.Lex
import Mathlib.Data.Rat.Floor
import Mathlib.Tactic.Linarith

/-!
# Arithmetic on floats

The operators of a `float`, with their special cases.  Finite values are not rounded, so that none
overflows.  A comparison with a NaN is false, and `max` and `min` are the built-in functions: they
keep their first argument unless the second one beats it.
-/

namespace PyJson

namespace PyFloat

def lt : PyFloat → PyFloat → Bool
  | .NaN, _ => false
  | _, .NaN => false
  | .PosInf, _ => false
  | _, .NegInf => false
  | .NegInf, _ => true
  | _, .PosInf => true
  | .Finite a, .Finite b => a < b

def le : PyFloat → PyFloat → Bool
  | .NaN, _ => false
  | _, .NaN => false
  | .NegInf, _ => true
  | _, .PosInf => true
  | .PosInf, _ => false
  | _, .NegInf => false
  | .Finite a, .Finite b => a ≤ b

def neg : PyFloat → PyFloat
  | .Finite a => .Finite (-a)
  | .PosInf => .NegInf
  | .NegInf => .PosInf
  | .NaN => .NaN

def abs : PyFloat → PyFloat
  | .Finite a => .Finite |a|
  | .NaN => .NaN
  | _ => .PosInf

def add : PyFloat → PyFloat → PyFloat
  | .Finite a, .Finite b => .Finite (a + b)
  | .Finite _, b => b
  | a, .Finite _ => a
  | .PosInf, .PosInf => .PosInf
  | .NegInf, .NegInf => .NegInf
  | _, _ => .NaN

def sub (a b : PyFloat) : PyFloat := add a (neg b)

/-- An infinity with the sign of a factor. -/
def infinite (factor : ℚ) : PyFloat :=
  if 0 < factor then .PosInf else if factor < 0 then .NegInf else .NaN

def mul : PyFloat → PyFloat → PyFloat
  | .Finite a, .Finite b => .Finite (a * b)
  | .Finite a, .PosInf => infinite a
  | .PosInf, .Finite b => infinite b
  | .Finite a, .NegInf => infinite (-a)
  | .NegInf, .Finite b => infinite (-b)
  | .PosInf, .PosInf => .PosInf
  | .NegInf, .NegInf => .PosInf
  | .PosInf, .NegInf => .NegInf
  | .NegInf, .PosInf => .NegInf
  | _, _ => .NaN

/-- Times a positive factor. -/
def scale (factor : ℚ) : PyFloat → PyFloat
  | .Finite a => .Finite (a * factor)
  | a => a

/-- Division by what is not zero. -/
def div : PyFloat → PyFloat → PyFloat
  | .Finite a, .Finite b => .Finite (a / b)
  | .PosInf, .Finite b => if b < 0 then .NegInf else .PosInf
  | .NegInf, .Finite b => if b < 0 then .PosInf else .NegInf
  | .Finite _, .PosInf => .Finite 0
  | .Finite _, .NegInf => .Finite 0
  | _, _ => .NaN

/-- `max(a, b)`. -/
def max (a b : PyFloat) : PyFloat := if lt a b then b else a

/-- `min(a, b)`. -/
def min (a b : PyFloat) : PyFloat := if lt b a then b else a

/-- The nearest integer, the even one of two. -/
def nearest (x : ℚ) : ℤ :=
  let below := ⌊x⌋
  let rest := x - below
  if rest < 1 / 2 then below
  else if 1 / 2 < rest then below + 1
  else if below % 2 = 0 then below else below + 1

/-- A value with so many decimals. -/
def roundTo (digits : Nat) (x : ℚ) : ℚ := nearest (x * 10 ^ digits) / 10 ^ digits

/-- `round(a, digits)`. -/
def round (digits : Nat) : PyFloat → PyFloat
  | .Finite a => .Finite (roundTo digits a)
  | a => a

/-- An integer that `float()` takes.  The others overflow. -/
def fits (value : ℤ) : Bool := value.natAbs < 2 ^ 1024 - 2 ^ 970

/-- An integer, taken as a float. -/
def ofInt (value : ℤ) : Except FloatError PyFloat :=
  if fits value then .ok (.Finite value) else .error (.Other "OverflowError")

lemma abs_nearest_sub_le (x : ℚ) : |nearest x - x| ≤ 1 / 2 := by
  have hfloor := Int.floor_le x
  have hnext := Int.lt_floor_add_one x
  simp only [nearest]
  split_ifs <;> push_cast <;> exact abs_le.mpr ⟨by linarith, by linarith⟩

/-- No integer is nearer than the nearest one. -/
lemma nearest_closest (x : ℚ) (n : ℤ) : |nearest x - x| ≤ |n - x| := by
  rcases eq_or_ne n (nearest x) with rfl | hne
  · exact le_rfl
  · have hapart : (1 : ℚ) ≤ |(n : ℚ) - nearest x| := by
      exact_mod_cast Int.one_le_abs (sub_ne_zero.mpr hne)
    have htriangle := abs_sub_le (n : ℚ) x (nearest x)
    rw [abs_sub_comm x] at htriangle
    linarith [abs_nearest_sub_le x]

lemma nearest_intCast (n : ℤ) : nearest n = n := by
  have hclosest := nearest_closest (n : ℚ) n
  rw [sub_self, abs_zero] at hclosest
  exact_mod_cast sub_eq_zero.mp (abs_nonpos_iff.mp hclosest)

lemma nearest_nonneg {x : ℚ} (h : 0 ≤ x) : 0 ≤ nearest x := by
  have hfloor : 0 ≤ ⌊x⌋ := Int.floor_nonneg.mpr h
  simp only [nearest]
  split_ifs <;> omega

lemma roundTo_nonneg (digits : Nat) {x : ℚ} (h : 0 ≤ x) : 0 ≤ roundTo digits x := by
  have hpow : (0 : ℚ) ≤ 10 ^ digits := pow_nonneg (by norm_num) digits
  exact div_nonneg (Int.cast_nonneg (nearest_nonneg (mul_nonneg h hpow))) hpow

/-- **What rounds to an even integer or above** lies half below it or above. -/
lemma le_nearest_iff_of_even {n : ℤ} (heven : n % 2 = 0) {x : ℚ} :
    n ≤ nearest x ↔ (n : ℚ) - 1 / 2 ≤ x := by
  -- the floor is an integer, so comparing it with `n` is comparing integers
  have hsplit : x = ⌊x⌋ + (x - ⌊x⌋) := by ring
  have hfloor : ∀ k : ℤ, n ≤ ⌊x⌋ + k ↔ (n : ℚ) ≤ ⌊x⌋ + k := fun k => by exact_mod_cast Iff.rfl
  have hbelow : ∀ k : ℤ, ⌊x⌋ + k < n → (⌊x⌋ : ℚ) + k + 1 ≤ n := fun k h => by exact_mod_cast h
  have hlt : x - ⌊x⌋ < 1 := by linarith [Int.lt_floor_add_one x]
  have hnonneg : 0 ≤ x - ⌊x⌋ := by linarith [Int.floor_le x]
  have hzero := hfloor 0
  have hone := hfloor 1
  have hbelowZero := hbelow 0
  have hbelowOne := hbelow 1
  simp only [Int.cast_zero, Int.cast_one, add_zero] at hzero hone hbelowZero hbelowOne
  simp only [nearest]
  split_ifs with hless hmore hfloorEven
  · refine ⟨fun h => by linarith [hzero.mp h], fun h => ?_⟩
    by_contra hnot
    linarith [hbelowZero (not_le.mp hnot)]
  · refine ⟨fun h => by linarith [hone.mp h], fun h => ?_⟩
    by_contra hnot
    linarith [hbelowOne (not_le.mp hnot)]
  · refine ⟨fun h => by linarith [hzero.mp h], fun h => ?_⟩
    have hle : n ≤ ⌊x⌋ + 1 := hone.mpr (by linarith)
    omega
  · refine ⟨fun h => by linarith [hone.mp h], fun h => ?_⟩
    exact hone.mpr (by linarith)

/-- `f"{value:,.2f}"`: two decimals, and commas between the thousands. -/
def moneyText (value : ℚ) : String :=
  let cents := (nearest (value * 100)).natAbs
  let rec grouped : List Char → List Char
    | a :: b :: c :: d :: digits => a :: b :: c :: ',' :: grouped (d :: digits)
    | digits => digits
  let units := (toString (cents / 100)).toList.reverse
  (if value < 0 then "-" else "") ++ String.ofList (grouped units).reverse ++ "."
    ++ toString (cents / 10 % 10) ++ toString (cents % 10)

example : moneyText (-2469135 / 2) = "-1,234,567.50" := by decide +kernel

/-- The same of any float. -/
def money : PyFloat → String
  | .Finite value => moneyText value
  | .PosInf => "inf"
  | .NegInf => "-inf"
  | .NaN => "nan"

/-! ## Sums -/

instance : Zero PyFloat := ⟨.Finite 0⟩

instance : Add PyFloat := ⟨add⟩

instance : Sub PyFloat := ⟨sub⟩

instance : Mul PyFloat := ⟨mul⟩

instance : AddCommMonoid PyFloat where
  add_assoc a b c := by
    cases a <;> cases b <;> cases c <;> first | rfl | exact congrArg Finite (add_assoc _ _ _)
  zero_add a := by
    cases a with
    | Finite a => exact congrArg Finite (zero_add a)
    | _ => rfl
  add_zero a := by
    cases a with
    | Finite a => exact congrArg Finite (add_zero a)
    | _ => rfl
  add_comm a b := by
    cases a <;> cases b <;> first | rfl | exact congrArg Finite (add_comm _ _)
  nsmul := nsmulRec

/-- The first summand takes in the second: it is not finite, and the second does not undo that. -/
def Absorbs : PyFloat → PyFloat → Prop
  | .Finite _, _ => False
  | .PosInf, b => b ≠ .NegInf ∧ b ≠ .NaN
  | .NegInf, b => b ≠ .PosInf ∧ b ≠ .NaN
  | .NaN, _ => True

/-- **A summand that changes nothing** is zero or is taken in. -/
lemma add_eq_left_iff {a b : PyFloat} : a + b = a ↔ b = 0 ∨ Absorbs a b := by
  have hadd : a + b = add a b := rfl
  have hzero : (0 : PyFloat) = .Finite 0 := rfl
  rw [hadd, hzero]
  cases a <;> cases b <;> simp [add, Absorbs]

/-! ## Comparisons -/

lemma lt_asymm {a b : PyFloat} (h : lt a b = true) : ¬ lt b a = true := by
  cases a <;> cases b <;> simp_all [lt]
  exact h.le

lemma not_le_of_lt {a b : PyFloat} (h : lt a b = true) : ¬ le b a = true := by
  cases a <;> cases b <;> simp_all [lt, le]

/-- Numbers that are not above each other are below or equal. -/
lemma le_iff {a b : PyFloat} (ha : a ≠ .NaN) : le a b = true ↔ lt a b = true ∨ a = b := by
  cases a <;> cases b <;> simp_all [lt, le, le_iff_lt_or_eq]

/-- Floats in order, and a NaN above all. -/
def rank : PyFloat → ℤ ×ₗ ℚ
  | .NegInf => toLex (-1, 0)
  | .Finite value => toLex (0, value)
  | .PosInf => toLex (1, 0)
  | .NaN => toLex (2, 0)

lemma lt_of_rank_lt {a b : PyFloat} (hb : b ≠ .NaN) (h : a.rank < b.rank) : lt a b = true := by
  cases a <;> cases b <;> simp_all [rank, Prod.Lex.toLex_lt_toLex, lt]

lemma rank_injective : Function.Injective rank := by
  intro a b h
  cases a <;> cases b <;> simp_all [rank]

/-! ## Beating a bound -/

lemma lt_max_of_left {bound a b : PyFloat} (h : lt bound a = true) : lt bound (max a b) = true := by
  rw [max]
  split_ifs with hab
  · cases bound <;> cases a <;> cases b <;> simp_all [lt]
    linarith
  · exact h

/-- What beats a bound makes the maximum beat it, if what was there before is a number. -/
lemma lt_max_of_right {bound a b : PyFloat} (ha : a ≠ .NaN) (h : lt bound b = true) :
    lt bound (max a b) = true := by
  rw [max]
  split_ifs with hab
  · exact h
  · cases bound <;> cases a <;> cases b <;> simp_all [lt]
    linarith

lemma max_ne_nan {a b : PyFloat} (ha : a ≠ .NaN) : max a b ≠ .NaN := by
  rw [max]
  split_ifs with hab
  · cases a <;> cases b <;> simp_all [lt]
  · exact ha

lemma le_max_iff {bound a b : PyFloat} (ha : a ≠ .NaN) :
    le bound (max a b) = true ↔ le bound a = true ∨ le bound b = true := by
  rw [max]
  split_ifs with hab
  · refine ⟨.inr, fun h => h.elim (fun h => ?_) id⟩
    cases bound <;> cases a <;> cases b <;> simp_all [lt, le]
    linarith
  · refine ⟨.inl, fun h => h.elim id fun h => ?_⟩
    cases bound <;> cases a <;> cases b <;> simp_all [lt, le]
    linarith

/-- What the running maximum reaches, its start or some entry reaches.  A NaN is passed over. -/
lemma le_foldl_max_iff {bound least : PyFloat} {xs : List PyFloat} (hleast : least ≠ .NaN) :
    le bound (xs.foldl max least) = true
      ↔ le bound least = true ∨ ∃ x ∈ xs, le bound x = true := by
  induction xs generalizing least with
  | nil => simp
  | cons x xs ih =>
      rw [List.foldl_cons, ih (max_ne_nan hleast), le_max_iff hleast, List.exists_mem_cons_iff,
        or_assoc]

lemma min_of_lt {a b : PyFloat} (h : lt b a = true) : min a b = b := if_pos h

/-- Beyond a positive threshold is more than once the threshold. -/
lemma one_lt_div {value threshold : PyFloat} (hpos : lt (.Finite 0) threshold = true)
    (h : lt threshold value = true) : lt (.Finite 1) (div value threshold) = true := by
  cases threshold with
  | Finite threshold =>
      have hthreshold : 0 < threshold := by simpa [lt] using hpos
      cases value with
      | Finite value =>
          have hvalue : threshold < value := by simpa [lt] using h
          have hone : 1 < value / threshold := (lt_div_iff₀ hthreshold).mpr (by rwa [one_mul])
          simpa [div, lt] using hone
      | PosInf =>
          rw [div, if_neg (not_lt.mpr hthreshold.le)]
          rfl
      | NegInf => cases h
      | NaN => cases h
  | PosInf => cases value <;> cases h
  | NegInf => cases hpos
  | NaN => cases hpos

end PyFloat

end PyJson
