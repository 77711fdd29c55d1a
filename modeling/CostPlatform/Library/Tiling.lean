import Mathlib.Data.Nat.Find
import Mathlib.Order.WellFounded
import Mathlib.Tactic.Lemma

/-!
# Tilings of the natural numbers

A strictly increasing sequence that starts at 0 cuts the natural numbers into blocks, one behind the
other.  Every number lies in exactly one of them (`exists_inBlock`, `inBlock_unique`), and where
one tiling starts blocks only where another does, its blocks are unions of blocks of the other
(`Refines.block_le`).
-/

/-- The starts of the blocks. -/
structure Tiling where
  start : Nat → Nat
  start_zero : start 0 = 0
  strictMono : StrictMono start

namespace Tiling

/-- Every number is a block of its own. -/
def units : Tiling where
  start := id
  start_zero := rfl
  strictMono := strictMono_id

/-- The tiling whose blocks are `n` consecutive blocks each. -/
def every (tiling : Tiling) (n : Nat) (hn : 0 < n) : Tiling where
  start k := tiling.start (n * k)
  start_zero := tiling.start_zero
  strictMono _ _ h := tiling.strictMono (Nat.mul_lt_mul_of_pos_left h hn)

/-- The number lies in the block. -/
def InBlock (tiling : Tiling) (k x : Nat) : Prop := tiling.start k ≤ x ∧ x < tiling.start (k + 1)

variable {tiling : Tiling} {k l x : Nat}

/-- **Every number lies in a block.** -/
theorem exists_inBlock (tiling : Tiling) (x : Nat) : ∃ k, tiling.InBlock k x := by
  have hzero : tiling.start 0 ≤ x := by
    rw [tiling.start_zero]
    exact Nat.zero_le x
  refine ⟨Nat.findGreatest (fun k => tiling.start k ≤ x) x,
    Nat.findGreatest_spec (P := fun k => tiling.start k ≤ x) (Nat.zero_le x) hzero, ?_⟩
  by_contra hstarted
  have hle : tiling.start (Nat.findGreatest (fun k => tiling.start k ≤ x) x + 1) ≤ x :=
    Nat.le_of_not_lt hstarted
  have hbound : Nat.findGreatest (fun k => tiling.start k ≤ x) x + 1 ≤ x :=
    tiling.strictMono.le_apply.trans hle
  exact absurd (Nat.le_findGreatest hbound hle) (Nat.not_succ_le_self _)

/-- A block that starts by a number is not behind the number's own. -/
lemma le_of_start_le (hk : tiling.InBlock k x) (hl : tiling.start l ≤ x) : l ≤ k := by
  have hlt : tiling.start l < tiling.start (k + 1) := Nat.lt_of_le_of_lt hl hk.2
  exact Nat.le_of_lt_succ (tiling.strictMono.lt_iff_lt.mp hlt)

/-- **No number lies in two.** -/
theorem inBlock_unique (hk : tiling.InBlock k x) (hl : tiling.InBlock l x) : k = l :=
  Nat.le_antisymm (le_of_start_le hl hk.1) (le_of_start_le hk hl.1)

/-- The start of a block lies in it. -/
lemma inBlock_start (tiling : Tiling) (k : Nat) : tiling.InBlock k (tiling.start k) :=
  ⟨Nat.le_refl _, tiling.strictMono (Nat.lt_succ_self k)⟩

/-! ## Refinement -/

/-- The coarse tiling starts blocks only where the fine one does. -/
def Refines (fine coarse : Tiling) : Prop := ∀ k, ∃ j, coarse.start k = fine.start j

namespace Refines

variable {fine coarse : Tiling}

lemma units (coarse : Tiling) : Tiling.units.Refines coarse := fun k => ⟨coarse.start k, rfl⟩

lemma every (tiling : Tiling) {n : Nat} (hn : 0 < n) : tiling.Refines (tiling.every n hn) :=
  fun k => ⟨n * k, rfl⟩

lemma every_of_dvd (tiling : Tiling) {m n : Nat} (hm : 0 < m) (hn : 0 < n) (hdvd : m ∣ n) :
    (tiling.every m hm).Refines (tiling.every n hn) := by
  obtain ⟨c, rfl⟩ := hdvd
  refine fun k => ⟨c * k, ?_⟩
  show tiling.start (m * c * k) = tiling.start (m * (c * k))
  rw [Nat.mul_assoc]

/-- **A number's fine block lies in its coarse block.** -/
theorem block_le (h : fine.Refines coarse) {j k x : Nat} (hfine : fine.InBlock j x)
    (hcoarse : coarse.InBlock k x) :
    coarse.start k ≤ fine.start j ∧ fine.start (j + 1) ≤ coarse.start (k + 1) := by
  obtain ⟨first, hfirst⟩ := h k
  obtain ⟨next, hnext⟩ := h (k + 1)
  constructor
  · rw [hfirst]
    refine fine.strictMono.monotone (le_of_start_le hfine ?_)
    rw [← hfirst]
    exact hcoarse.1
  · rw [hnext]
    refine fine.strictMono.monotone (Nat.succ_le_of_lt ?_)
    -- the coarse block ends behind the number, so behind the start of its fine block
    have hlt : fine.start j < fine.start next := by
      rw [← hnext]
      exact Nat.lt_of_le_of_lt hfine.1 hcoarse.2
    exact fine.strictMono.lt_iff_lt.mp hlt

end Refines

end Tiling
