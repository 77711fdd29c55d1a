import CostPlatform.Library.PyString
import CostPlatform.Library.Ranking
import Mathlib.Algebra.Order.Field.Rat
import Mathlib.Tactic.SplitIfs

/-!
# Budget policy: states, outcomes and precedence

A state says how full a budget is, an outcome what to do about a request.  Every limit that
applies to a request is evaluated on its own; `decide` sorts the evaluations, most restrictive
first, and takes the first.

Amounts and percentages are exact rationals; the source computes them in decimals.
-/

namespace CostPlatform

/-! ## States and outcomes -/

inductive BudgetState where
  | Normal
  | Warning
  | Critical
  | Exceeded
  deriving DecidableEq, Repr

/-- `state.lower()`. -/
def BudgetState.lower : BudgetState → String
  | .Normal => "normal"
  | .Warning => "warning"
  | .Critical => "critical"
  | .Exceeded => "exceeded"

inductive PolicyOutcome where
  | Allow
  | Downgrade
  | RequireApproval
  | Block
  deriving DecidableEq, Repr

/-- `_OUTCOME_SEVERITY`.  Higher is more restrictive. -/
def PolicyOutcome.severity : PolicyOutcome → Nat
  | .Allow => 0
  | .Downgrade => 1
  | .RequireApproval => 2
  | .Block => 3

lemma PolicyOutcome.severity_eq_zero {outcome : PolicyOutcome} :
    outcome.severity = 0 ↔ outcome = .Allow := by
  cases outcome <;> decide

/-- Budget scopes.  `Request` is not stored in `budgets`. -/
inductive BudgetScope where
  | Request
  | Model
  | Agent
  | Workload
  | Department
  | Plant
  | Tenant
  | Enterprise
  deriving DecidableEq, Repr

/-- The stored text of a scope. -/
def BudgetScope.value : BudgetScope → String
  | .Request => "REQUEST"
  | .Model => "MODEL"
  | .Agent => "AGENT"
  | .Workload => "WORKLOAD"
  | .Department => "DEPARTMENT"
  | .Plant => "PLANT"
  | .Tenant => "TENANT"
  | .Enterprise => "ENTERPRISE"

/-- `_SCOPE_RANK`: tie-break order, narrowest first. -/
def BudgetScope.rank : BudgetScope → Nat
  | .Request => 0
  | .Model => 1
  | .Agent => 2
  | .Workload => 3
  | .Department => 4
  | .Plant => 5
  | .Tenant => 6
  | .Enterprise => 7

/-- How budget states translate into decisions. -/
structure BudgetPolicy where
  outcomeByState : BudgetState → Option PolicyOutcome := fun
    | .Normal => some .Allow
    | .Warning => some .Allow
    | .Critical => some .Downgrade
    | .Exceeded => some .Block
  requireApprovalOnProjectedBreach : Bool := true

def DEFAULT_BUDGET_POLICY : BudgetPolicy := {}

/-- Outcome for a state.  An unmapped state blocks. -/
def BudgetPolicy.outcomeFor (policy : BudgetPolicy) (state : BudgetState) : PolicyOutcome :=
  (policy.outcomeByState state).getD .Block

/-! ## Limits and evaluations -/

/-- One limit under evaluation, whether stored or request-level. -/
structure BudgetLimit where
  scope : BudgetScope
  scopeId : String
  amount : ℚ
  currency : String
  consumedActualCost : ℚ := 0
  consumedEstimatedCost : ℚ := 0
  warningThresholdPercent : ℚ := 80
  criticalThresholdPercent : ℚ := 95
  budgetId : Option String := none
  unevaluableReason : Option String := none
  deriving DecidableEq, Repr

def BudgetLimit.consumedTotal (limit : BudgetLimit) : ℚ :=
  limit.consumedActualCost + limit.consumedEstimatedCost

/-- The verdict for one limit. -/
structure BudgetEvaluation where
  scope : BudgetScope
  scopeId : String
  budgetId : Option String
  amount : ℚ
  currency : String
  consumedActualCost : ℚ
  consumedEstimatedCost : ℚ
  consumedPercent : ℚ
  projectedPercent : ℚ
  state : Option BudgetState
  outcome : PolicyOutcome
  reason : String
  deriving DecidableEq, Repr

/-- The composed verdict across every applicable limit. -/
structure BudgetDecision where
  outcome : PolicyOutcome
  deciding : Option BudgetEvaluation
  evaluations : List BudgetEvaluation
  deriving DecidableEq, Repr

def BudgetDecision.reason (decision : BudgetDecision) : String :=
  match decision.deciding with
  | some evaluation => evaluation.reason
  | none => "no_budget_configured"

/-- Consumption as a percentage.  A limit that is not positive counts as fully consumed. -/
def percent (consumed amount : ℚ) : ℚ :=
  if amount ≤ 0 then 100 else consumed / amount * 100

/-- Thresholds are inclusive lower bounds. -/
def classifyState (consumedPercent warningThresholdPercent criticalThresholdPercent : ℚ) :
    BudgetState :=
  if 100 ≤ consumedPercent then .Exceeded
  else if criticalThresholdPercent ≤ consumedPercent then .Critical
  else if warningThresholdPercent ≤ consumedPercent then .Warning
  else .Normal

namespace BudgetPolicy

variable (policy : BudgetPolicy)

/-- Evaluate one limit against current spend plus this request's cost. -/
def evaluateLimit (limit : BudgetLimit) (requestCost : ℚ) : BudgetEvaluation :=
  let consumedPercent := percent limit.consumedTotal limit.amount
  let projectedPercent := percent (limit.consumedTotal + requestCost) limit.amount
  let verdict (state : Option BudgetState) (outcome : PolicyOutcome) (reason : String) :
      BudgetEvaluation :=
    { scope := limit.scope
      scopeId := limit.scopeId
      budgetId := limit.budgetId
      amount := limit.amount
      currency := limit.currency
      consumedActualCost := limit.consumedActualCost
      consumedEstimatedCost := limit.consumedEstimatedCost
      consumedPercent := consumedPercent
      projectedPercent := projectedPercent
      state := state
      outcome := outcome
      reason := reason }
  match limit.unevaluableReason with
  | some reason => verdict none .RequireApproval reason
  | none =>
      let state := classifyState consumedPercent limit.warningThresholdPercent
        limit.criticalThresholdPercent
      -- already exceeded stays with the policy's outcome for it
      if policy.requireApprovalOnProjectedBreach ∧ state ≠ .Exceeded ∧ 100 ≤ projectedPercent then
        verdict (some state) .RequireApproval "budget_projected_breach"
      else verdict (some state) (policy.outcomeFor state) ("budget_" ++ state.lower)

/-- Most restrictive first, then narrowest scope, then id. -/
def decisionSortKey (evaluation : BudgetEvaluation) : ℤ ×ₗ ℕ ×ₗ String :=
  toLex (-(evaluation.outcome.severity : ℤ), toLex (evaluation.scope.rank,
    (PyString.truthy evaluation.budgetId).getD evaluation.scopeId))

/-- Evaluate every applicable limit and compose one decision.  No limit is no objection. -/
def decide (limits : List BudgetLimit) (requestCost : ℚ) : BudgetDecision :=
  let ordered := Ranking.sortedBy decisionSortKey
    (limits.map fun limit => policy.evaluateLimit limit requestCost)
  match ordered with
  | [] => { outcome := .Allow, deciding := none, evaluations := [] }
  | deciding :: rest =>
      { outcome := deciding.outcome, deciding := some deciding, evaluations := deciding :: rest }

/-! ## The most restrictive outcome wins -/

lemma severity_le_of_sortKey_le {a b : BudgetEvaluation}
    (h : decisionSortKey a ≤ decisionSortKey b) : b.outcome.severity ≤ a.outcome.severity := by
  rcases Prod.Lex.toLex_le_toLex.mp h with hlt | ⟨heq, -⟩
  · simp only at hlt
    omega
  · simp only at heq
    omega

/-- **The outcome is that of a limit, and no limit is more restrictive.** -/
theorem decide_outcome (limits : List BudgetLimit) (requestCost : ℚ) :
    (limits = [] ∧ (policy.decide limits requestCost).outcome = .Allow)
    ∨ ∃ limit ∈ limits,
        (policy.decide limits requestCost).outcome
            = (policy.evaluateLimit limit requestCost).outcome
        ∧ ∀ other ∈ limits, (policy.evaluateLimit other requestCost).outcome.severity
            ≤ (policy.decide limits requestCost).outcome.severity := by
  cases hordered : Ranking.sortedBy decisionSortKey
      (limits.map fun limit => policy.evaluateLimit limit requestCost) with
  | nil =>
      have hnil := (Ranking.sortedBy_eq_nil _).mp hordered
      exact Or.inl ⟨List.map_eq_nil_iff.mp hnil, by simp only [decide, hordered]⟩
  | cons deciding rest =>
      have hfirst : Ranking.firstBy decisionSortKey
          (limits.map fun limit => policy.evaluateLimit limit requestCost) = some deciding := by
        rw [Ranking.firstBy, hordered, List.head?_cons]
      obtain ⟨limit, hlimit, rfl⟩ := List.mem_map.mp (Ranking.firstBy_mem hfirst)
      have houtcome : (policy.decide limits requestCost).outcome
          = (policy.evaluateLimit limit requestCost).outcome := by
        simp only [decide, hordered]
      refine Or.inr ⟨limit, hlimit, houtcome, fun other hother => ?_⟩
      rw [houtcome]
      exact severity_le_of_sortKey_le
        (Ranking.firstBy_le hfirst _ (List.mem_map_of_mem hother))

/-- A request is allowed exactly when no limit objects. -/
theorem decide_allow_iff (limits : List BudgetLimit) (requestCost : ℚ) :
    (policy.decide limits requestCost).outcome = .Allow
      ↔ ∀ limit ∈ limits, (policy.evaluateLimit limit requestCost).outcome = .Allow := by
  rcases policy.decide_outcome limits requestCost with
    ⟨rfl, hallow⟩ | ⟨limit, hlimit, houtcome, hmost⟩
  · simp only [hallow, List.not_mem_nil, false_imp_iff, implies_true]
  · refine ⟨fun hallow other hother => ?_, fun hall => houtcome.trans (hall limit hlimit)⟩
    have hle := hmost other hother
    rw [hallow] at hle
    exact PolicyOutcome.severity_eq_zero.mp (Nat.le_zero.mp hle)

/-- **When a single limit does not object.** -/
theorem evaluateLimit_allow_iff (limit : BudgetLimit) (requestCost : ℚ) :
    (policy.evaluateLimit limit requestCost).outcome = .Allow
      ↔ limit.unevaluableReason = none
        ∧ policy.outcomeFor (classifyState (percent limit.consumedTotal limit.amount)
            limit.warningThresholdPercent limit.criticalThresholdPercent) = .Allow
        ∧ (policy.requireApprovalOnProjectedBreach = true →
            percent limit.consumedTotal limit.amount < 100 →
            percent (limit.consumedTotal + requestCost) limit.amount < 100) := by
  have hexceeded : classifyState (percent limit.consumedTotal limit.amount)
      limit.warningThresholdPercent limit.criticalThresholdPercent ≠ .Exceeded
        ↔ percent limit.consumedTotal limit.amount < 100 := by
    simp only [classifyState]
    split_ifs <;> simp_all
  cases hreason : limit.unevaluableReason with
  | some reason => simp [evaluateLimit, hreason]
  | none =>
      simp only [evaluateLimit, hreason, hexceeded, true_and]
      split_ifs with hbreach
      · simp only [false_iff, not_and]
        exact fun _ hbelow =>
          absurd (hbelow hbreach.1 hbreach.2.1) (not_lt.mpr hbreach.2.2)
      · refine ⟨fun h => ⟨h, fun hrequire hconsumed => ?_⟩, fun h => h.1⟩
        by_contra hprojected
        exact hbreach ⟨hrequire, hconsumed, not_lt.mp hprojected⟩

end BudgetPolicy

/-- The default policy allows the states below the critical threshold. -/
lemma outcomeFor_default_allow_iff (consumedPercent warning critical : ℚ) :
    DEFAULT_BUDGET_POLICY.outcomeFor (classifyState consumedPercent warning critical) = .Allow
      ↔ consumedPercent < 100 ∧ consumedPercent < critical := by
  simp only [classifyState, BudgetPolicy.outcomeFor, DEFAULT_BUDGET_POLICY]
  split_ifs with hexceeded hcritical
  · simp [hexceeded]
  · simp [hcritical]
  · simp [not_le.mp hexceeded, not_le.mp hcritical]
  · simp [not_le.mp hexceeded, not_le.mp hcritical]

lemma percent_of_nonpos {consumed amount : ℚ} (h : amount ≤ 0) : percent consumed amount = 100 :=
  if_pos h

lemma percent_lt_iff {consumed amount bound : ℚ} (h : 0 < amount) :
    percent consumed amount < bound ↔ consumed * 100 < bound * amount := by
  rw [percent, if_neg (not_le.mpr h), div_mul_eq_mul_div, div_lt_iff₀ h]

end CostPlatform
