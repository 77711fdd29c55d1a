import CostPlatform.Budget.Policy
import Mathlib.Data.List.MinMax
import Mathlib.Order.Basic

/-!
# Composing budget limits

Outcomes are ordered by severity, and a decision over several limits is the worst case of theirs:
`decide_worst_case`.  The order the limits come in is immaterial, as long as no two of them share
a scope and an id.
-/

namespace CostPlatform

/-! ## Outcomes by severity -/

lemma PolicyOutcome.severity_injective : Function.Injective PolicyOutcome.severity := by
  intro a b h
  cases a <;> cases b <;> first | rfl | cases h

/-- Outcomes, the least restrictive first. -/
instance : LinearOrder PolicyOutcome :=
  LinearOrder.lift' PolicyOutcome.severity PolicyOutcome.severity_injective

instance : OrderBot PolicyOutcome where
  bot := .Allow
  bot_le outcome := Nat.zero_le outcome.severity

lemma PolicyOutcome.le_iff {a b : PolicyOutcome} : a ≤ b ↔ a.severity ≤ b.severity := Iff.rfl

/-! ## The worst case -/

/-- The scope of a limit, and its id within the scope. -/
def BudgetLimit.tieKey (limit : BudgetLimit) : BudgetScope × String :=
  (limit.scope, (PyString.truthy limit.budgetId).getD limit.scopeId)

namespace BudgetPolicy

variable (policy : BudgetPolicy) (requestCost : ℚ)

/-- The verdicts on a list of limits, in their order. -/
def evaluations (limits : List BudgetLimit) : List BudgetEvaluation :=
  limits.map fun limit => policy.evaluateLimit limit requestCost

/-- The most severe of some limits' outcomes. -/
def worstOutcome (limits : List BudgetLimit) : PolicyOutcome :=
  ((policy.evaluations requestCost limits).map BudgetEvaluation.outcome).foldr max ⊥

/-- What it means that decisions compose by worst case. -/
structure WorstCase : Prop where
  /-- The outcome is the most severe of the limits' outcomes. -/
  outcome_eq : ∀ limits,
    (policy.decide limits requestCost).outcome = policy.worstOutcome requestCost limits
  /-- The decision does not depend on the order of limits that are told apart. -/
  eq_of_perm : ∀ limits limits' : List BudgetLimit, limits.Perm limits' →
    (limits.map BudgetLimit.tieKey).Nodup →
    policy.decide limits requestCost = policy.decide limits' requestCost
  /-- More limits never loosen it. -/
  le_append : ∀ limits more : List BudgetLimit,
    (policy.decide limits requestCost).outcome
      ≤ (policy.decide (limits ++ more) requestCost).outcome
  /-- It carries the limits' evaluations, each as often as it occurs. -/
  perm_evaluations : ∀ limits, (policy.decide limits requestCost).evaluations.Perm
    (policy.evaluations requestCost limits)
  /-- The most severe come first. -/
  pairwise_evaluations : ∀ limits,
    (policy.decide limits requestCost).evaluations.Pairwise fun a b => b.outcome ≤ a.outcome

variable {policy requestCost}

lemma decide_evaluations (limits : List BudgetLimit) :
    (policy.decide limits requestCost).evaluations
      = Ranking.sortedBy decisionSortKey (policy.evaluations requestCost limits) := by
  simp only [BudgetPolicy.decide, evaluations]
  split
  · next h => exact h.symm
  · next h => exact h.symm

/-- An evaluation keeps the scope and the id of its limit. -/
lemma evaluateLimit_ids (limit : BudgetLimit) :
    (policy.evaluateLimit limit requestCost).scope = limit.scope
      ∧ (policy.evaluateLimit limit requestCost).scopeId = limit.scopeId
      ∧ (policy.evaluateLimit limit requestCost).budgetId = limit.budgetId := by
  simp only [evaluateLimit]
  split
  · exact ⟨rfl, rfl, rfl⟩
  · split
    · exact ⟨rfl, rfl, rfl⟩
    · exact ⟨rfl, rfl, rfl⟩

lemma rank_injective : Function.Injective BudgetScope.rank := by
  intro a b h
  cases a <;> cases b <;> first | rfl | cases h

/-- Limits that are told apart do not tie. -/
lemma nodup_sortKeys {limits : List BudgetLimit} (h : (limits.map BudgetLimit.tieKey).Nodup) :
    ((policy.evaluations requestCost limits).map decisionSortKey).Nodup := by
  rw [evaluations, List.map_map]
  refine List.Nodup.of_map (fun key => (key.2.1, key.2.2)) ?_
  rw [List.map_map]
  have hkeys : limits.map ((fun key : ℤ ×ₗ ℕ ×ₗ String => (key.2.1, key.2.2))
        ∘ (decisionSortKey ∘ fun limit => policy.evaluateLimit limit requestCost))
      = (limits.map BudgetLimit.tieKey).map fun key => (key.1.rank, key.2) := by
    rw [List.map_map]
    refine List.map_congr_left fun limit _ => ?_
    obtain ⟨hscope, hscopeId, hbudgetId⟩ :=
      @evaluateLimit_ids policy requestCost limit
    simp only [Function.comp_apply, decisionSortKey, hscope, hscopeId, hbudgetId]
    rfl
  rw [hkeys]
  refine h.map ?_
  rintro ⟨scope, id⟩ ⟨scope', id'⟩ hsame
  obtain ⟨hrank, hid⟩ := Prod.mk.inj hsame
  exact Prod.ext (rank_injective hrank) hid

lemma decide_outcome_eq (limits : List BudgetLimit) :
    (policy.decide limits requestCost).outcome = policy.worstOutcome requestCost limits := by
  rcases policy.decide_outcome limits requestCost with
    ⟨rfl, hallow⟩ | ⟨limit, hlimit, houtcome, hmost⟩
  · exact hallow
  · have hmem : (policy.decide limits requestCost).outcome
        ∈ (policy.evaluations requestCost limits).map BudgetEvaluation.outcome := by
      rw [houtcome]
      exact List.mem_map_of_mem (List.mem_map_of_mem hlimit)
    refine le_antisymm (List.le_max_of_le hmem le_rfl) (List.max_le_of_forall_le _ _ ?_)
    intro outcome h
    obtain ⟨evaluation, hevaluation, rfl⟩ := List.mem_map.mp h
    obtain ⟨other, hother, rfl⟩ := List.mem_map.mp hevaluation
    exact hmost other hother

/-- The worst case of more limits is no better. -/
lemma worstOutcome_le_append (limits more : List BudgetLimit) :
    policy.worstOutcome requestCost limits ≤ policy.worstOutcome requestCost (limits ++ more) := by
  refine List.max_le_of_forall_le _ _ fun outcome h => List.le_max_of_le ?_ le_rfl
  rw [evaluations, List.map_append, List.map_append]
  exact List.mem_append_left _ h

variable (policy requestCost)

/-- **Decisions compose by worst case.** -/
theorem decide_worst_case : policy.WorstCase requestCost where
  outcome_eq := decide_outcome_eq
  eq_of_perm limits limits' hperm hdistinct := by
    have hsorted := Ranking.sortedBy_eq_of_perm (hperm.map fun limit =>
      policy.evaluateLimit limit requestCost) (nodup_sortKeys hdistinct)
    simp only [BudgetPolicy.decide, hsorted]
  le_append limits more := by
    rw [decide_outcome_eq, decide_outcome_eq]
    exact worstOutcome_le_append limits more
  perm_evaluations limits := by
    rw [decide_evaluations]
    exact Ranking.perm_sortedBy _ _
  pairwise_evaluations limits := by
    rw [decide_evaluations]
    exact (Ranking.pairwise_sortedBy decisionSortKey _).imp fun h => severity_le_of_sortKey_le h

end BudgetPolicy

end CostPlatform
