import CostPlatform.Budget.Service

/-!
# The execution-time budget gate

The orchestrator asks a `RepositoryBudgetEvaluator`, which collects limits scope by scope from a
source.  The execute route wires it to `budgetLimitSource`, and that source has no limits.

`gate_at_least_as_severe_iff` says what the gate is worth next to the budget service: it is as
severe as the service exactly when no budget that applies to the request restricts it.
-/

namespace CostPlatform

open Calendar (Timestamp)

/-! ## The evaluator -/

/-- `limits_for_scope(tenant_id, scope, scope_id)`, or the exception it raises. -/
abbrev LimitSource := String → String → String → Except String (List BudgetLimit)

/-- Loads applicable budgets and evaluates them.  A repository may lack `limits_for_scope`. -/
structure RepositoryBudgetEvaluator where
  limitsForScope : Option LimitSource

namespace RepositoryBudgetEvaluator

variable (evaluator : RepositoryBudgetEvaluator)

def loadLimits (tenantId : String) (scope : BudgetScope) (scopeId : String) :
    Except String (List BudgetLimit) :=
  match evaluator.limitsForScope with
  | none => .ok []
  | some loader => loader tenantId scope.value scopeId

/-- The limits of one scope.  A lookup failure becomes a limit that cannot be evaluated. -/
def collectLimits (tenantId : String) (scope : BudgetScope) (scopeId : String) :
    List BudgetLimit :=
  match evaluator.loadLimits tenantId scope scopeId with
  | .ok limits => limits
  | .error _ =>
      [{ scope := scope, scopeId := scopeId, amount := 0, currency := "",
         unevaluableReason := some "lookup_failed" }]

/-- The scopes of a request, the tenant first. -/
def scopes (tenantId : String) (plantId departmentId workloadId : Option String) :
    List (BudgetScope × String) :=
  let optional : List (BudgetScope × Option String) :=
    [(.Plant, plantId), (.Department, departmentId), (.Workload, workloadId)]
  (.Tenant, tenantId)
    :: optional.filterMap fun (scope, value) => (PyString.truthy value).map fun v => (scope, v)

def evaluate (tenantId : String) (plantId departmentId workloadId : Option String)
    (estimatedCost : ℚ) : BudgetDecision :=
  DEFAULT_BUDGET_POLICY.decide
    ((scopes tenantId plantId departmentId workloadId).flatMap fun (scope, scopeId) =>
      evaluator.collectLimits tenantId scope scopeId)
    estimatedCost

end RepositoryBudgetEvaluator

/-- `_BudgetLimitSource.limits_for_scope`. -/
def budgetLimitSource : LimitSource := fun _ _ _ => .ok []

/-- The evaluator as the execute route wires it. -/
def executeBudgetEvaluator : RepositoryBudgetEvaluator where
  limitsForScope := some budgetLimitSource

/-! ## The gate next to the service -/

/-- The gate's outcome is at least as severe as the service's, for the same scopes, instant and
    cost. -/
def GateAtLeastAsSevere (service : BudgetService) (context : RequestContext) (requestCost : ℚ)
    (now : Timestamp) : Prop :=
  ∀ decision, service.evaluate context requestCost none now = .ok decision →
    decision.outcome.severity
      ≤ (executeBudgetEvaluator.evaluate context.tenantId context.plantId context.departmentId
          context.workloadId requestCost).outcome.severity

/-- No budget that applies restricts the request.  A budget whose period has no window keeps the
    service from answering at all. -/
def NoBudgetRestricts (service : BudgetService) (context : RequestContext) (requestCost : ℚ)
    (now : Timestamp) : Prop :=
  (∀ budget ∈ service.budgets.rows, BudgetService.Applies context budget →
    ∃ window, periodWindow budget.period now = .ok window) →
  ∀ budget ∈ service.budgets.rows, BudgetService.Applies context budget →
    ∀ window, periodWindow budget.period now = .ok window →
      service.Unrestricted budget (service.spend budget window) requestCost

/-- **The gate allows everything**, having no limits to evaluate. -/
lemma executeBudgetEvaluator_allows (tenantId : String)
    (plantId departmentId workloadId : Option String) (estimatedCost : ℚ) :
    (executeBudgetEvaluator.evaluate tenantId plantId departmentId workloadId
      estimatedCost).outcome = .Allow := by
  rw [RepositoryBudgetEvaluator.evaluate, BudgetPolicy.decide_allow_iff]
  intro limit hlimit
  obtain ⟨⟨scope, scopeId⟩, -, hcollected⟩ := List.mem_flatMap.mp hlimit
  exact absurd hcollected List.not_mem_nil

/-- **The gate is as severe as the service exactly when no budget that applies restricts the
    request.** -/
theorem gate_at_least_as_severe_iff (service : BudgetService) (context : RequestContext)
    (requestCost : ℚ) (now : Timestamp) :
    GateAtLeastAsSevere service context requestCost now
      ↔ NoBudgetRestricts service context requestCost now := by
  have hgate : ∀ outcome : PolicyOutcome,
      outcome.severity ≤ (executeBudgetEvaluator.evaluate context.tenantId context.plantId
        context.departmentId context.workloadId requestCost).outcome.severity
        ↔ outcome = .Allow := by
    intro outcome
    rw [executeBudgetEvaluator_allows, ← PolicyOutcome.severity_eq_zero]
    exact Nat.le_zero
  simp only [GateAtLeastAsSevere, NoBudgetRestricts, hgate, ← service.loadLimits_succeeds_iff]
  refine ⟨fun hallowed ⟨limits, hlimits⟩ => ?_, fun hclear decision hdecision => ?_⟩
  · have hdecision : service.evaluate context requestCost none now
        = .ok (service.policy.decide (limits ++ []) requestCost) :=
      Fallible.bind_eq_ok.mpr ⟨limits, hlimits, rfl⟩
    exact (service.evaluate_allow_iff hdecision).mp (hallowed _ hdecision)
  · obtain ⟨limits, hlimits, -⟩ := Fallible.bind_eq_ok.mp hdecision
    exact (service.evaluate_allow_iff hdecision).mpr (hclear ⟨limits, hlimits⟩)

/-- A plant budget of 40 USD a month, already spent. -/
def spentBudgetService : BudgetService where
  budgets :=
    { rows :=
        [ { id := "b1", tenantId := "t1", scopeType := .Plant, scopeId := "p1", amount := 40,
            currency := "USD", period := .Monthly, warningThresholdPercent := 80,
            criticalThresholdPercent := 95, status := .Active,
            scopeTypeValid := by decide,
            amountPositive := by decide +kernel,
            warningThresholdValid := by decide +kernel,
            criticalThresholdValid := by decide +kernel } ]
      nodup := by decide }
  costs := mixedLedger
  converter := usdConverter

/-- **A spent budget blocks in the service and passes the gate.** -/
theorem spent_budget_passes_gate :
    let context : RequestContext := { tenantId := "t1", plantId := some "p1" }
    ((spentBudgetService.evaluate context 0 none 30).toOption.map BudgetDecision.outcome
        = some .Block)
      ∧ (executeBudgetEvaluator.evaluate "t1" (some "p1") none none 0).outcome = .Allow
      ∧ ¬ GateAtLeastAsSevere spentBudgetService context 0 30 := by
  intro context
  have hblock : (spentBudgetService.evaluate context 0 none 30).toOption.map BudgetDecision.outcome
      = some .Block := by
    decide +kernel
  have hallow := executeBudgetEvaluator_allows "t1" (some "p1") none none 0
  refine ⟨hblock, hallow, fun hsevere => ?_⟩
  obtain ⟨decision, hdecision, houtcome⟩ := Fallible.toOption_map_eq_some.mp hblock
  have hle := hsevere decision hdecision
  rw [houtcome, hallow] at hle
  exact absurd hle (by decide)

end CostPlatform
