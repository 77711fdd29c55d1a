import CostPlatform.Budget.Composition
import CostPlatform.Budget.Gate
import CostPlatform.Budget.Listing

/-!
# The budget status report

`GET /budgets/status` measures every budget of a page by itself, where the evaluation of a request
measures the active budgets of its scopes and composes them.

`decision_reports` is that the two agree: for a request that costs nothing the decision rests on the
reported figures of the budgets that apply, and its outcome is the most severe of what their states
call for.
-/

namespace CostPlatform

open Calendar (Timestamp)

/-! ## The report -/

/-- One budget's current state. -/
structure BudgetStatusResult where
  budget : Budget
  consumedActualCost : ℚ
  consumedEstimatedCost : ℚ
  consumedPercent : ℚ
  state : Option BudgetState
  unevaluableReason : Option String

/-- The reason of an evaluation without a state. -/
def BudgetEvaluation.unevaluableReason (evaluation : BudgetEvaluation) : Option String :=
  if evaluation.state.isSome then none else some evaluation.reason

def BudgetService.statusForBudgets (service : BudgetService) (budgets : List Budget)
    (now : Timestamp) : Except PeriodError (List BudgetStatusResult) :=
  budgets.mapM fun budget => do
    let limit ← service.toLimit budget now
    let evaluation := service.policy.evaluateLimit limit 0
    return {
      budget := budget
      consumedActualCost := evaluation.consumedActualCost
      consumedEstimatedCost := evaluation.consumedEstimatedCost
      consumedPercent := evaluation.consumedPercent
      state := evaluation.state
      unevaluableReason := evaluation.unevaluableReason }

/-- `BudgetStatus` of the API schema. -/
structure BudgetStatusResponse where
  budgetId : String
  scopeType : BudgetScope
  scopeId : String
  amount : ℚ
  consumedActualCost : ℚ
  consumedEstimatedCost : ℚ
  consumedPercent : ℚ
  currency : String
  thresholdState : Option BudgetState
  unevaluableReason : Option String
  deriving DecidableEq, Repr

def BudgetStatusResponse.fromResult (result : BudgetStatusResult) : BudgetStatusResponse where
  budgetId := result.budget.id
  scopeType := result.budget.scopeType
  scopeId := result.budget.scopeId
  amount := result.budget.amount
  consumedActualCost := result.consumedActualCost
  consumedEstimatedCost := result.consumedEstimatedCost
  consumedPercent := result.consumedPercent
  currency := result.budget.currency
  thresholdState := result.state
  unevaluableReason := result.unevaluableReason

/-- `GET /budgets/status`.  A period that has no window is nobody's error to handle. -/
def budgetStatus (database : BudgetDatabase) (service : BudgetService) (principal : Principal)
    (order : TenantOrder database principal.tenantId) (paging : Paging) (now : Timestamp) :
    Except BudgetRouteError (ListResponse BudgetStatusResponse) := do
  requireBudgetRead principal
  let rows := order.listByTenant paging
  let total := database.countByTenant principal.tenantId
  let visible := rows.filter (canRead principal)
  let results ← (service.statusForBudgets visible now).mapError fun _ => .Uncaught "OverflowError"
  return {
    items := results.map BudgetStatusResponse.fromResult
    page := ⟨total, paging.limit, paging.offset⟩ }

/-! ## The report and the decision -/

/-- The figures that both the report and an evaluation state of a budget. -/
structure ReportedFigures where
  budgetId : Option String
  consumedActualCost : ℚ
  consumedEstimatedCost : ℚ
  consumedPercent : ℚ
  state : Option BudgetState
  unevaluableReason : Option String
  deriving DecidableEq, Repr

def BudgetEvaluation.reported (evaluation : BudgetEvaluation) : ReportedFigures where
  budgetId := evaluation.budgetId
  consumedActualCost := evaluation.consumedActualCost
  consumedEstimatedCost := evaluation.consumedEstimatedCost
  consumedPercent := evaluation.consumedPercent
  state := evaluation.state
  unevaluableReason := evaluation.unevaluableReason

def BudgetStatusResult.reported (result : BudgetStatusResult) : ReportedFigures where
  budgetId := some result.budget.id
  consumedActualCost := result.consumedActualCost
  consumedEstimatedCost := result.consumedEstimatedCost
  consumedPercent := result.consumedPercent
  state := result.state
  unevaluableReason := result.unevaluableReason

/-- What a reported state calls for.  Without a state, a human decides. -/
def BudgetPolicy.callsFor (policy : BudgetPolicy) (result : BudgetStatusResult) : PolicyOutcome :=
  match result.state with
  | none => .RequireApproval
  | some state => policy.outcomeFor state

instance (context : RequestContext) : DecidablePred (BudgetService.Applies context) :=
  fun _ => inferInstanceAs (Decidable (_ ∧ _ ∧ _))

/-- The reported budgets that apply to a request. -/
def applying (context : RequestContext) (results : List BudgetStatusResult) :
    List BudgetStatusResult :=
  results.filter fun result => BudgetService.Applies context result.budget

/-- The evaluations of a decision are those of its limits. -/
lemma BudgetPolicy.perm_evaluations (policy : BudgetPolicy) (limits : List BudgetLimit)
    (requestCost : ℚ) :
    (policy.decide limits requestCost).evaluations.Perm
      (policy.evaluations requestCost limits) := by
  refine List.Perm.trans (List.Perm.of_eq ?_) (Ranking.perm_sortedBy decisionSortKey _)
  rw [BudgetPolicy.decide]
  dsimp only [BudgetPolicy.evaluations]
  cases Ranking.sortedBy decisionSortKey
    (limits.map fun limit => policy.evaluateLimit limit requestCost) <;> rfl

namespace BudgetService

variable {service : BudgetService}

/-- What the report says of a budget with this limit. -/
def resultOf (service : BudgetService) (budget : Budget) (limit : BudgetLimit) :
    BudgetStatusResult :=
  let evaluation := service.policy.evaluateLimit limit 0
  { budget := budget
    consumedActualCost := evaluation.consumedActualCost
    consumedEstimatedCost := evaluation.consumedEstimatedCost
    consumedPercent := evaluation.consumedPercent
    state := evaluation.state
    unevaluableReason := evaluation.unevaluableReason }

/-- At no cost a limit calls for what its state does: nothing is projected. -/
lemma callsFor_resultOf (budget : Budget) (limit : BudgetLimit) :
    service.policy.callsFor (service.resultOf budget limit)
      = (service.policy.evaluateLimit limit 0).outcome := by
  simp only [BudgetPolicy.callsFor, resultOf, BudgetPolicy.evaluateLimit, add_zero]
  cases limit.unevaluableReason with
  | some reason => rfl
  | none =>
      have hnever : ¬ (service.policy.requireApprovalOnProjectedBreach = true
          ∧ classifyState (percent limit.consumedTotal limit.amount)
              limit.warningThresholdPercent limit.criticalThresholdPercent ≠ .Exceeded
          ∧ 100 ≤ percent limit.consumedTotal limit.amount) := by
        rintro ⟨-, hstate, hfull⟩
        exact hstate (if_pos hfull)
      simp only [if_neg hnever]

lemma budgetId_of_toLimit {budget : Budget} {now : Timestamp} {limit : BudgetLimit}
    (h : service.toLimit budget now = .ok limit) : limit.budgetId = some budget.id := by
  obtain ⟨window, -, hlimit⟩ := Fallible.bind_eq_ok.mp h
  cases Except.ok.inj hlimit
  rfl

lemma reported_resultOf {budget : Budget} {now : Timestamp} {limit : BudgetLimit}
    (h : service.toLimit budget now = .ok limit) :
    (service.resultOf budget limit).reported
      = (service.policy.evaluateLimit limit 0).reported := by
  obtain ⟨-, -, hid⟩ := @BudgetPolicy.evaluateLimit_ids service.policy 0 limit
  simp only [BudgetStatusResult.reported, BudgetEvaluation.reported, resultOf, hid,
    budgetId_of_toLimit h]

section

variable {context : RequestContext} {listed : List Budget} {now : Timestamp}
  {limitOf : Budget → BudgetLimit}

/-- The budgets that apply, as a request finds them and as the list has them. -/
lemma perm_listForScopes
    (hlisted : listed.Perm (service.budgets.rows.filter fun budget =>
      budget.tenantId = context.tenantId)) :
    (listForScopes service.budgets context.tenantId context.scopePairs).Perm
      (listed.filter fun budget => Applies context budget) := by
  refine (Ranking.perm_sortedBy _ _).trans ?_
  refine List.Perm.trans ?_ (hlisted.symm.filter _)
  rw [List.filter_filter]
  refine List.Perm.of_eq (List.filter_congr fun budget _ => ?_)
  rw [Bool.eq_iff_iff]
  simp only [Bool.and_eq_true, decide_eq_true_eq]
  exact ⟨fun ⟨⟨htenant, hactive⟩, hscope⟩ => ⟨⟨htenant, hactive, hscope⟩, htenant⟩,
    fun ⟨⟨htenant, hactive, hscope⟩, _⟩ => ⟨⟨htenant, hactive⟩, hscope⟩⟩

/-- What is reported has been measured. -/
lemma exists_limitOf {results : List BudgetStatusResult}
    (hresults : service.statusForBudgets listed now = .ok results) :
    ∃ limitOf : Budget → BudgetLimit,
      ∀ budget ∈ listed, service.toLimit budget now = .ok (limitOf budget) := by
  have hmeasured : ∀ budget ∈ listed, ∃ limit, service.toLimit budget now = .ok limit := by
    intro budget hbudget
    obtain ⟨result, hresult⟩ := Fallible.mapM_succeeds_iff.mp ⟨results, hresults⟩ budget hbudget
    obtain ⟨limit, hlimit, -⟩ := Fallible.bind_eq_ok.mp hresult
    exact ⟨limit, hlimit⟩
  have : Nonempty BudgetLimit := ⟨service.requestLimitToBudgetLimit ⟨0, "", ""⟩⟩
  choose! limitOf hlimitOf using hmeasured
  exact ⟨limitOf, hlimitOf⟩

lemma statusForBudgets_eq
    (hlimitOf : ∀ budget ∈ listed, service.toLimit budget now = .ok (limitOf budget)) :
    service.statusForBudgets listed now
      = .ok (listed.map fun budget => service.resultOf budget (limitOf budget)) := by
  refine Fallible.mapM_eq_ok_iff_forall₂.mpr ?_
  refine List.forall₂_map_right_iff.mpr (List.forall₂_same.mpr fun budget hbudget => ?_)
  rw [hlimitOf budget hbudget]
  rfl

lemma loadLimits_eq
    (hlimitOf : ∀ budget ∈ listForScopes service.budgets context.tenantId context.scopePairs,
      service.toLimit budget now = .ok (limitOf budget)) :
    service.loadLimits context now
      = .ok ((listForScopes service.budgets context.tenantId context.scopePairs).map limitOf) := by
  refine Fallible.mapM_eq_ok_iff_forall₂.mpr ?_
  exact List.forall₂_map_right_iff.mpr (List.forall₂_same.mpr hlimitOf)

end

/-- **The decision rests on the report.**  Where every budget of the tenant can be reported, a
    request that costs nothing is decided, on the figures that the report states of the budgets that
    apply to it, and as severely as the worst of their states calls for. -/
theorem decision_reports {context : RequestContext} {listed : List Budget}
    {results : List BudgetStatusResult} {now : Timestamp}
    (hlisted : listed.Perm (service.budgets.rows.filter fun budget =>
      budget.tenantId = context.tenantId))
    (hresults : service.statusForBudgets listed now = .ok results) :
    ∃ decision, service.evaluate context 0 none now = .ok decision
      ∧ (decision.evaluations.map BudgetEvaluation.reported).Perm
        ((applying context results).map BudgetStatusResult.reported)
      ∧ decision.outcome
        = ((applying context results).map service.policy.callsFor).foldr max ⊥ := by
  obtain ⟨limitOf, hlimitOf⟩ := exists_limitOf hresults
  have hall := Except.ok.inj (hresults.symm.trans (statusForBudgets_eq hlimitOf))
  have hfound := perm_listForScopes hlisted
  have happlying : ∀ {γ : Type} (f : BudgetStatusResult → γ),
      (applying context results).map f
        = (listed.filter fun budget => Applies context budget).map fun budget =>
            f (service.resultOf budget (limitOf budget)) := by
    intro γ f
    rw [applying, hall, List.filter_map, List.map_map]
    rfl
  refine ⟨service.policy.decide
    ((listForScopes service.budgets context.tenantId context.scopePairs).map limitOf) 0, ?_, ?_, ?_⟩
  · have hlimits := loadLimits_eq fun budget hbudget =>
      hlimitOf budget (List.mem_filter.mp (hfound.mem_iff.mp hbudget)).1
    rw [evaluate, hlimits, Fallible.ok_bind, Option.map_none, Option.toList_none, List.append_nil]
    rfl
  · rw [happlying]
    refine ((BudgetPolicy.perm_evaluations _ _ _).map _).trans ?_
    rw [BudgetPolicy.evaluations, List.map_map, List.map_map]
    refine (hfound.map _).trans (List.Perm.of_eq (List.map_congr_left fun budget hbudget => ?_))
    exact (reported_resultOf (hlimitOf budget (List.mem_filter.mp hbudget).1)).symm
  · rw [happlying, BudgetPolicy.decide_outcome_eq, BudgetPolicy.worstOutcome,
      BudgetPolicy.evaluations, List.map_map, List.map_map]
    refine (hfound.map _).foldr_eq ⊥ |>.trans (congrArg _ (List.map_congr_left fun budget _ => ?_))
    exact (callsFor_resultOf budget (limitOf budget)).symm

end BudgetService

/-- A page of the report is about the budgets of the same page of the list. -/
theorem listed_of_budgetStatus {database : BudgetDatabase} {service : BudgetService}
    {principal : Principal} {order : TenantOrder database principal.tenantId} {paging : Paging}
    {now : Timestamp} {report : ListResponse BudgetStatusResponse}
    (h : budgetStatus database service principal order paging now = .ok report) :
    ∃ list, listBudgets database principal order paging = .ok list ∧ list.page = report.page
      ∧ list.items.map BudgetResponse.id = report.items.map BudgetStatusResponse.budgetId := by
  obtain ⟨u, hread, hreport⟩ := Fallible.bind_eq_ok.mp h
  obtain ⟨results, hresults, hreport⟩ := Fallible.bind_eq_ok.mp hreport
  cases Except.ok.inj hreport
  refine ⟨_, Fallible.bind_eq_ok.mpr ⟨u, hread, rfl⟩, rfl, ?_⟩
  have hbudgets : (results.map BudgetStatusResult.budget)
      = (order.listByTenant paging).filter (canRead principal) := by
    cases hstatus : service.statusForBudgets ((order.listByTenant paging).filter
        (canRead principal)) now with
    | error e =>
        rw [hstatus] at hresults
        cases hresults
    | ok found =>
        rw [hstatus] at hresults
        cases Except.ok.inj hresults
        have hsame := Fallible.mapM_eq_ok_iff_forall₂.mp hstatus
        refine (List.forall₂_eq_eq_eq ▸ List.forall₂_map_left_iff.mpr ?_ : _ = _)
        refine hsame.flip.imp fun result budget hresult => ?_
        obtain ⟨limit, -, hlimit⟩ := Fallible.bind_eq_ok.mp hresult
        cases Except.ok.inj hlimit
        rfl
  simp only [List.map_map, ← hbudgets]
  rfl

/-- The spent plant budget is reported as exceeded, and the plant's requests are blocked. -/
theorem spent_budget_reported :
    (((spentBudgetService.statusForBudgets spentBudgetService.budgets.rows 30).toOption.map
        (List.map BudgetStatusResult.state)) = some [some .Exceeded])
      ∧ (spentBudgetService.evaluate { tenantId := "t1", plantId := some "p1" } 0 none
          30).toOption.map BudgetDecision.outcome = some .Block := by
  let context : RequestContext := { tenantId := "t1", plantId := some "p1" }
  refine ⟨by decide +kernel, ?_⟩
  have hcalls : (spentBudgetService.statusForBudgets spentBudgetService.budgets.rows
      30).toOption.map (fun results => ((applying context results).map
        spentBudgetService.policy.callsFor).foldr max ⊥) = some .Block := by
    decide +kernel
  obtain ⟨results, hresults, hworst⟩ := Fallible.toOption_map_eq_some.mp hcalls
  have hlisted : spentBudgetService.budgets.rows.Perm
      (spentBudgetService.budgets.rows.filter fun budget => budget.tenantId = context.tenantId) :=
    List.Perm.of_eq rfl
  obtain ⟨decision, hdecision, -, houtcome⟩ :=
    BudgetService.decision_reports hlisted hresults
  exact Fallible.toOption_map_eq_some.mpr ⟨decision, hdecision, houtcome.trans hworst⟩

end CostPlatform
