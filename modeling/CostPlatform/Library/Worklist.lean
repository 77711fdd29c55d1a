import Mathlib.Algebra.BigOperators.Group.List.Basic
import Mathlib.Algebra.Ring.Nat
import Mathlib.Logic.Relation
import Mathlib.Order.WellFounded
import Mathlib.Tactic.Lemma

/-!
# Worklists in any order

A worklist holds pending items beside a running total.  A step takes any item off the list, adds
what the item counts for itself, and puts what it expands to back on, wherever it likes.  Where a
measure of an item is what the item counts for itself and the measures of what it expands to,
`finishes_iff` says that every run to the end comes to the sum of the measures; and where each item
weighs more than what it expands to, `wellFounded_step` says that there is no run without an end.
-/

namespace Worklist

variable {α ν : Type*} [AddCommMonoid ν]

/-- Take an item off the list and count it, and put what it expands to anywhere on the list. -/
inductive Step (expand : α → List α) (own : α → ν) : List α × ν → List α × ν → Prop
  | take (before after : List α) (item : α) (next : List α) (total : ν) :
      next.Perm (expand item ++ (before ++ after)) →
        Step expand own (before ++ item :: after, total) (next, total + own item)

/-- The list can be worked off from there, and that is the total it ends with. -/
def Finishes (expand : α → List α) (own : α → ν) (pending : List α) (total final : ν) : Prop :=
  Relation.ReflTransGen (Step expand own) (pending, total) ([], final)

variable {expand : α → List α} {own measure : α → ν}

/-- A step moves a measure from the list to the total. -/
lemma Step.measure_eq (hmeasure : ∀ item, measure item = own item + ((expand item).map measure).sum)
    {state state' : List α × ν} (h : Step expand own state state') :
    state'.2 + (state'.1.map measure).sum = state.2 + (state.1.map measure).sum := by
  cases h with
  | take before after item next total hperm =>
      have hnext : (next.map measure).sum
          = ((expand item).map measure).sum
            + ((before.map measure).sum + (after.map measure).sum) := by
        rw [(hperm.map measure).sum_eq, List.map_append, List.sum_append, List.map_append,
          List.sum_append]
      simp only [hnext, List.map_append, List.map_cons, List.sum_append, List.sum_cons,
        hmeasure item]
      ac_rfl

/-- **A run keeps what is counted and what is pending together.** -/
lemma measure_eq_of_run
    (hmeasure : ∀ item, measure item = own item + ((expand item).map measure).sum)
    {state state' : List α × ν} (h : Relation.ReflTransGen (Step expand own) state state') :
    state'.2 + (state'.1.map measure).sum = state.2 + (state.1.map measure).sum := by
  induction h with
  | refl => rfl
  | tail _ hstep ih => rw [hstep.measure_eq hmeasure, ih]

/-- Where every item weighs more than what it expands to, a step makes the list lighter. -/
lemma Step.weight_lt {weight : α → ℕ}
    (hweight : ∀ item, ((expand item).map weight).sum < weight item) {state state' : List α × ν}
    (h : Step expand own state state') :
    (state'.1.map weight).sum < (state.1.map weight).sum := by
  cases h with
  | take before after item next total hperm =>
      have hitem := hweight item
      simp only [(hperm.map weight).sum_eq, List.map_append, List.map_cons, List.sum_append,
        List.sum_cons]
      omega

/-- **There is no run without an end.** -/
theorem wellFounded_step {weight : α → ℕ}
    (hweight : ∀ item, ((expand item).map weight).sum < weight item) :
    WellFounded fun state' state : List α × ν => Step expand own state state' :=
  Subrelation.wf (fun {_ _} h => h.weight_lt hweight)
    (measure fun state : List α × ν => (state.1.map weight).sum).wf

/-- A list on which something is pending has a step. -/
lemma step_head (item : α) (pending : List α) (total : ν) :
    Step expand own (item :: pending, total) (expand item ++ pending, total + own item) :=
  .take [] pending item _ total (List.Perm.refl _)

/-- Every list is worked off in the end. -/
lemma exists_finishes {weight : α → ℕ}
    (hweight : ∀ item, ((expand item).map weight).sum < weight item) (state : List α × ν) :
    ∃ final, Finishes expand own state.1 state.2 final := by
  have hwf : WellFounded fun state' state : List α × ν => Step expand own state state' :=
    wellFounded_step hweight
  induction state using hwf.induction with
  | _ state ih =>
      obtain ⟨pending, total⟩ := state
      cases pending with
      | nil => exact ⟨total, .refl⟩
      | cons item pending =>
          have hstep : Step expand own (item :: pending, total)
              (expand item ++ pending, total + own item) := step_head item pending total
          obtain ⟨final, hfinal⟩ := ih _ hstep
          exact ⟨final, .head hstep hfinal⟩

/-- **In whatever order the list is worked off, it comes to the sum of the measures.** -/
theorem finishes_iff {weight : α → ℕ}
    (hmeasure : ∀ item, measure item = own item + ((expand item).map measure).sum)
    (hweight : ∀ item, ((expand item).map weight).sum < weight item) {pending : List α}
    {total final : ν} :
    Finishes expand own pending total final ↔ final = total + (pending.map measure).sum := by
  have hsum : ∀ {final}, Finishes expand own pending total final
      → final = total + (pending.map measure).sum := by
    intro final h
    simpa using measure_eq_of_run hmeasure h
  refine ⟨hsum, ?_⟩
  rintro rfl
  obtain ⟨final, hfinal⟩ := exists_finishes hweight (pending, total)
  exact hsum hfinal ▸ hfinal

end Worklist
