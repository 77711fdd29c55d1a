import CostPlatform.Budget.Period
import CostPlatform.Budget.Policy
import CostPlatform.Cost.Aggregation
import CostPlatform.Library.Fallible

/-!
# The budget service

The service loads the budgets that apply to a request, measures the spend of each over its
current period, and hands the limits to the policy.
-/

namespace CostPlatform

open Calendar (Timestamp)

/-! ## Budgets -/

inductive BudgetStatus where
  | Active
  | Inactive
  | Exceeded
  deriving DecidableEq, Repr

/-- A row of `budgets`, with its `CHECK` constraints. -/
structure Budget where
  id : String
  tenantId : String
  scopeType : BudgetScope
  scopeId : String
  amount : ℚ
  currency : String
  period : BudgetPeriod
  warningThresholdPercent : ℚ
  criticalThresholdPercent : ℚ
  status : BudgetStatus
  scopeTypeValid : scopeType ≠ .Request
  amountPositive : 0 < amount
  warningThresholdValid : 0 < warningThresholdPercent ∧ warningThresholdPercent ≤ 100
  criticalThresholdValid : 0 < criticalThresholdPercent ∧ criticalThresholdPercent ≤ 100

/-- The scopes one AI execution belongs to. -/
structure RequestContext where
  tenantId : String
  plantId : Option String := none
  departmentId : Option String := none
  workloadId : Option String := none
  agentId : Option String := none
  modelId : Option String := none
  deriving DecidableEq, Repr

/-- The pairs a stored budget could match.  ENTERPRISE and TENANT both key on the tenant. -/
def RequestContext.scopePairs (context : RequestContext) : List (BudgetScope × String) :=
  let optional : List (BudgetScope × Option String) :=
    [ (.Plant, context.plantId),
      (.Department, context.departmentId),
      (.Workload, context.workloadId),
      (.Agent, context.agentId),
      (.Model, context.modelId) ]
  [(.Enterprise, context.tenantId), (.Tenant, context.tenantId)]
    ++ optional.filterMap fun (scope, value) => (PyString.truthy value).map fun v => (scope, v)

/-- ACTIVE budgets of the tenant matching any of the pairs, in a fixed order. -/
def listForScopes (budgets : Table Budget.id) (tenantId : String)
    (scopes : List (BudgetScope × String)) : List Budget :=
  Ranking.sortedBy
    (fun budget => (toLex (budget.scopeType.value, toLex (budget.scopeId, budget.id)) :
      String ×ₗ String ×ₗ String))
    (budgets.rows.filter fun budget =>
      budget.tenantId = tenantId && budget.status = .Active
        && (budget.scopeType, budget.scopeId) ∈ scopes)

/-- A per-request cost ceiling. -/
structure RequestLimit where
  maxCost : ℚ
  currency : String
  source : String := "routing_policy"
  deriving DecidableEq, Repr

/-! ## Evaluation -/

/-- The service, over the stored budgets and the recorded spend. -/
structure BudgetService where
  budgets : Table Budget.id
  costs : CostLedger
  converter : CurrencyConverter
  policy : BudgetPolicy := DEFAULT_BUDGET_POLICY

namespace BudgetService

variable (service : BudgetService)

/-- The spend against a budget within a window. -/
def spend (budget : Budget) (window : PeriodWindow) : ScopeSpend :=
  service.costs.spendForScope budget.tenantId budget.scopeType.value budget.scopeId
    window.start window.stop

/-- The amount in the base currency, or the reason why there is none. -/
def convertAmount (amount : ℚ) (currency : String) : ℚ × Option String :=
  if service.converter.canConvert (some currency) then
    match service.converter.toBase amount (some currency) with
    | .ok converted => (converted, none)
    | .error _ => (amount, some "currency_not_convertible")
  else (amount, some "currency_not_convertible")

def toLimit (budget : Budget) (reference : Timestamp) : Except PeriodError BudgetLimit := do
  let window ← periodWindow budget.period reference
  let spend := service.spend budget window
  let (amount, unevaluable) := service.convertAmount budget.amount budget.currency
  return {
    scope := budget.scopeType
    scopeId := budget.scopeId
    amount := amount
    currency := service.converter.baseCurrency
    consumedActualCost := spend.actualCost
    consumedEstimatedCost := spend.estimatedCost
    warningThresholdPercent := budget.warningThresholdPercent
    criticalThresholdPercent := budget.criticalThresholdPercent
    budgetId := some budget.id
    unevaluableReason := unevaluable }

def loadLimits (context : RequestContext) (reference : Timestamp) :
    Except PeriodError (List BudgetLimit) :=
  (listForScopes service.budgets context.tenantId context.scopePairs).mapM fun budget =>
    service.toLimit budget reference

/-- A per-request ceiling as a limit with no prior consumption. -/
def requestLimitToBudgetLimit (limit : RequestLimit) : BudgetLimit :=
  let (amount, unevaluable) := service.convertAmount limit.maxCost limit.currency
  { scope := .Request
    scopeId := limit.source
    amount := amount
    currency := service.converter.baseCurrency
    unevaluableReason := unevaluable }

/-- Decide whether a request may proceed under every applicable limit. -/
def evaluate (context : RequestContext) (requestCost : ℚ) (requestLimit : Option RequestLimit)
    (now : Timestamp) : Except PeriodError BudgetDecision := do
  let limits ← service.loadLimits context now
  return service.policy.decide
    (limits ++ (requestLimit.map service.requestLimitToBudgetLimit).toList) requestCost

/-! ## Which budgets apply, and when they do not object -/

/-- The budget is in force and is keyed on one of the request's scopes. -/
def Applies (context : RequestContext) (budget : Budget) : Prop :=
  budget.tenantId = context.tenantId ∧ budget.status = .Active
    ∧ (budget.scopeType, budget.scopeId) ∈ context.scopePairs

lemma mem_listForScopes {context : RequestContext} {budget : Budget} :
    budget ∈ listForScopes service.budgets context.tenantId context.scopePairs
      ↔ budget ∈ service.budgets.rows ∧ Applies context budget := by
  simp only [listForScopes, Ranking.mem_sortedBy, List.mem_filter, Bool.and_eq_true,
    decide_eq_true_eq, Applies, and_assoc]

/-- The limits are those of the budgets that apply, one by one. -/
lemma mem_loadLimits {context : RequestContext} {now : Timestamp} {limits : List BudgetLimit}
    (h : service.loadLimits context now = .ok limits) (limit : BudgetLimit) :
    limit ∈ limits ↔ ∃ budget ∈ service.budgets.rows, Applies context budget
      ∧ service.toLimit budget now = .ok limit := by
  simp only [Fallible.mem_of_mapM_eq_ok h, mem_listForScopes, and_assoc]

/-- A budget's limit exists when its period has a window. -/
lemma toLimit_succeeds_iff {budget : Budget} {now : Timestamp} :
    (∃ limit, service.toLimit budget now = .ok limit)
      ↔ ∃ window, periodWindow budget.period now = .ok window := by
  simp only [toLimit, Fallible.bind_eq_ok]
  exact ⟨fun ⟨_, window, hwindow, _⟩ => ⟨window, hwindow⟩,
    fun ⟨window, hwindow⟩ => ⟨_, window, hwindow, rfl⟩⟩

lemma loadLimits_succeeds_iff {context : RequestContext} {now : Timestamp} :
    (∃ limits, service.loadLimits context now = .ok limits)
      ↔ ∀ budget ∈ service.budgets.rows, Applies context budget →
          ∃ window, periodWindow budget.period now = .ok window := by
  simp only [loadLimits, Fallible.mapM_succeeds_iff, mem_listForScopes, and_imp,
    toLimit_succeeds_iff]

/-- The service does not object to a request on account of a budget: the budget is in a
    convertible currency, the policy allows the state its spend is in, and the request's cost does
    not take it over the limit where that calls for approval. -/
def Unrestricted (budget : Budget) (spend : ScopeSpend) (requestCost : ℚ) : Prop :=
  ∃ value, service.converter.unitValue (some budget.currency) = some value
    ∧ service.policy.outcomeFor (classifyState
        (percent (spend.actualCost + spend.estimatedCost) (budget.amount * value))
        budget.warningThresholdPercent budget.criticalThresholdPercent) = .Allow
    ∧ (service.policy.requireApprovalOnProjectedBreach = true →
        percent (spend.actualCost + spend.estimatedCost) (budget.amount * value) < 100 →
        percent (spend.actualCost + spend.estimatedCost + requestCost) (budget.amount * value)
          < 100)

lemma convertAmount_eq (amount : ℚ) (currency : String) :
    (∃ value, service.converter.unitValue (some currency) = some value
      ∧ service.convertAmount amount currency = (amount * value, none))
    ∨ (service.converter.unitValue (some currency) = none
      ∧ service.convertAmount amount currency = (amount, some "currency_not_convertible")) := by
  rcases service.converter.toBase_eq amount (some currency) with
    ⟨hconvert, value, hvalue, hbase⟩ | ⟨hrefuse, hvalue, -⟩
  · exact Or.inl ⟨value, hvalue, by simp only [convertAmount, hconvert, hbase, if_true]⟩
  · exact Or.inr ⟨hvalue, by simp [convertAmount, hrefuse]⟩

/-- The verdict on a stored budget, read off the row. -/
lemma evaluateLimit_toLimit_allow_iff {budget : Budget} {now : Timestamp} {window : PeriodWindow}
    (hwindow : periodWindow budget.period now = .ok window) {limit : BudgetLimit}
    (hlimit : service.toLimit budget now = .ok limit) (requestCost : ℚ) :
    (service.policy.evaluateLimit limit requestCost).outcome = .Allow
      ↔ service.Unrestricted budget (service.spend budget window) requestCost := by
  rw [toLimit, hwindow, Fallible.ok_bind] at hlimit
  rw [BudgetPolicy.evaluateLimit_allow_iff, Unrestricted]
  rcases service.convertAmount_eq budget.amount budget.currency with
    ⟨value, hvalue, hamount⟩ | ⟨hvalue, hamount⟩
  · simp only [hamount] at hlimit
    cases Except.ok.inj hlimit
    simp only [hvalue, BudgetLimit.consumedTotal, true_and, Option.some.injEq, exists_eq_left']
  · simp only [hamount] at hlimit
    cases Except.ok.inj hlimit
    simp only [hvalue, reduceCtorEq, false_and, exists_false]

/-- **The service allows a request exactly when no budget that applies restricts it.** -/
theorem evaluate_allow_iff {context : RequestContext} {requestCost : ℚ} {now : Timestamp}
    {decision : BudgetDecision}
    (h : service.evaluate context requestCost none now = .ok decision) :
    decision.outcome = .Allow
      ↔ ∀ budget ∈ service.budgets.rows, Applies context budget →
          ∀ window, periodWindow budget.period now = .ok window →
            service.Unrestricted budget (service.spend budget window) requestCost := by
  obtain ⟨limits, hlimits, hdecision⟩ := Fallible.bind_eq_ok.mp h
  cases Except.ok.inj hdecision
  simp only [Option.map_none, Option.toList_none, List.append_nil, BudgetPolicy.decide_allow_iff,
    service.mem_loadLimits hlimits]
  refine ⟨fun hall budget hrow happlies window hwindow => ?_, ?_⟩
  · obtain ⟨limit, hlimit⟩ := service.toLimit_succeeds_iff.mpr ⟨window, hwindow⟩
    exact (service.evaluateLimit_toLimit_allow_iff hwindow hlimit requestCost).mp
      (hall limit ⟨budget, hrow, happlies, hlimit⟩)
  · rintro hall limit ⟨budget, hrow, happlies, hlimit⟩
    obtain ⟨window, hwindow⟩ := service.toLimit_succeeds_iff.mp ⟨limit, hlimit⟩
    exact (service.evaluateLimit_toLimit_allow_iff hwindow hlimit requestCost).mpr
      (hall budget hrow happlies window hwindow)

end BudgetService

/-- **Under the default policy a budget restricts nothing while it is below its critical
    threshold and has room for the request.** -/
theorem unrestricted_default_iff {service : BudgetService} (budget : Budget) (spend : ScopeSpend)
    (requestCost : ℚ) (hpolicy : service.policy = DEFAULT_BUDGET_POLICY) :
    service.Unrestricted budget spend requestCost
      ↔ ∃ value, service.converter.unitValue (some budget.currency) = some value ∧ 0 < value
        ∧ (spend.actualCost + spend.estimatedCost) * 100
            < budget.criticalThresholdPercent * (budget.amount * value)
        ∧ spend.actualCost + spend.estimatedCost + requestCost < budget.amount * value := by
  have hcritical := budget.criticalThresholdValid.2
  simp only [BudgetService.Unrestricted, hpolicy, outcomeFor_default_allow_iff]
  refine exists_congr fun value => and_congr_right fun _ => ?_
  by_cases hvalue : 0 < value
  · have hamount : 0 < budget.amount * value := mul_pos budget.amountPositive hvalue
    have hbound := mul_le_mul_of_nonneg_right hcritical hamount.le
    simp only [percent_lt_iff hamount, hvalue, true_and]
    refine ⟨fun ⟨⟨hfull, hbelow⟩, hroom⟩ => ⟨hbelow, ?_⟩, fun ⟨hbelow, hroom⟩ => ⟨⟨?_, hbelow⟩, ?_⟩⟩
    · linarith [hroom rfl hfull]
    · linarith
    · exact fun _ _ => by linarith
  · have hamount : budget.amount * value ≤ 0 :=
      mul_nonpos_of_nonneg_of_nonpos budget.amountPositive.le (not_lt.mp hvalue)
    simp only [percent_of_nonpos hamount, lt_irrefl, hvalue, false_and]

end CostPlatform
