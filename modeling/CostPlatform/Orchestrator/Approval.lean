import CostPlatform.Budget.Gate
import CostPlatform.Orchestrator.Execute

/-!
# Plans that need approval

A plan that is not executable must not reach a model.  `execute` tests for BLOCK and for a missing
model, and for nothing else: `gateway_only_if_executable_iff` says that the rule fails exactly
where the budget asks for approval and the rest of the request is in order.
-/

namespace CostPlatform

namespace Collaborators

variable (c : Collaborators)

/-- The gateway is called only if the plan that was built is executable. -/
def GatewayOnlyIfExecutable (request : OrchestrationRequest) (principal : Principal)
    (requestId traceId : String) : Prop :=
  ∀ plan, c.plan request principal requestId traceId = .ok plan →
    (∃ event ∈ (c.execute request principal requestId traceId).events,
      event.isModelCall = true) →
    plan.isExecutable = true

/-- The budget asks for approval, a named candidate ranks first, and neither the input guardrail
    nor the building of the request stops the execution. -/
def ApprovalReachesGateway (request : OrchestrationRequest) (principal : Principal) : Prop :=
  (∃ decision, c.checkBudget request principal = .ok decision
    ∧ decision.outcome = .RequireApproval)
  ∧ (∃ found entry, c.candidates request (c.policyFor request principal) = .ok found
    ∧ selectModel found false = some entry ∧ entry.modelName ≠ "")
  ∧ c.InputAccepted request ∧ c.PromptBuilds request

/-- **When an execution calls the gateway.** -/
theorem execute_calls_iff {request : OrchestrationRequest} {principal : Principal}
    {requestId traceId : String} {plan : ExecutionPlan}
    (hplan : c.plan request principal requestId traceId = .ok plan) :
    (∃ event ∈ (c.execute request principal requestId traceId).events,
        event.isModelCall = true)
      ↔ plan.budgetStatus ≠ .Block
        ∧ (∃ model, plan.selectedModelName = some model ∧ model ≠ "")
        ∧ c.InputAccepted request ∧ c.PromptBuilds request := by
  obtain ⟨hworkload, -⟩ := c.plan_cases hplan
  simp only [execute, hplan, Traced.silent_def, Traced.ok_bind, List.nil_append]
  by_cases hblock : plan.budgetStatus = .Block
  · simp only [hblock, if_true, ne_eq, not_true_eq_false, false_and, iff_false]
    rintro ⟨event, hevent, hcall⟩
    rw [mem_refuse hevent] at hcall
    cases hcall
  · rw [if_neg hblock]
    cases hmodel : plan.selectedModelName with
    | none =>
        simp only [reduceCtorEq, false_and, exists_false, and_false, iff_false]
        rintro ⟨event, hevent, hcall⟩
        rw [mem_refuse hevent] at hcall
        cases hcall
    | some model =>
        rw [executePlan_calls_iff, buildModelRequest_succeeds_iff hworkload]
        simp only [ne_eq, hblock, not_false_eq_true, Option.some.injEq, exists_eq_left', true_and]
        exact ⟨fun ⟨haccepted, hbuilds, hname⟩ => ⟨hname, haccepted, hbuilds⟩,
          fun ⟨hname, haccepted, hbuilds⟩ => ⟨haccepted, hbuilds, hname⟩⟩

/-- **The gateway is kept from plans that are not executable exactly unless one that needs
    approval reaches it.** -/
theorem gateway_only_if_executable_iff (request : OrchestrationRequest) (principal : Principal)
    (requestId traceId : String) :
    c.GatewayOnlyIfExecutable request principal requestId traceId
      ↔ ¬ c.ApprovalReachesGateway request principal := by
  refine ⟨fun hkept happroval => ?_, fun hclear plan hplan hcalls => ?_⟩
  · obtain ⟨⟨decision, hdecision, houtcome⟩, ⟨found, entry, hfound, hselected, hname⟩,
      haccepted, hbuilds⟩ := happroval
    have hblock : decision.outcome ≠ .Block := by simp [houtcome]
    have hplan := c.plan_eq_routedPlan requestId traceId hdecision hblock hfound
    have hstatus : (routedPlan (c.basePlan request principal requestId traceId decision)
        (c.policyFor request principal) found).budgetStatus = .RequireApproval := houtcome
    have hmodel : (routedPlan (c.basePlan request principal requestId traceId decision)
        (c.policyFor request principal) found).selectedModelName = some entry.modelName := by
      simp [routedPlan, basePlan, houtcome, hselected]
    have hcalls := (c.execute_calls_iff hplan).mpr
      ⟨by simp [hstatus], ⟨_, hmodel, hname⟩, haccepted, hbuilds⟩
    have hexecutable := hkept _ hplan hcalls
    simp [ExecutionPlan.isExecutable, hstatus] at hexecutable
  · obtain ⟨hblock, ⟨model, hmodel, hname⟩, haccepted, hbuilds⟩ :=
      (c.execute_calls_iff hplan).mp hcalls
    obtain ⟨-, decision, hdecision, hstatus, hcases⟩ := c.plan_cases hplan
    have happroval : decision.outcome ≠ .RequireApproval := by
      intro houtcome
      rcases hcases with ⟨hblocked, -⟩ | ⟨-, found, hfound, selected, hselected, -, hmodelName, -⟩
      · exact hblock (hstatus.trans hblocked)
      · rw [hmodel] at hmodelName
        obtain ⟨entry, hentry, hentryName⟩ := Option.map_eq_some_iff.mp hmodelName.symm
        refine hclear ⟨⟨decision, hdecision, houtcome⟩,
          ⟨found, entry, hfound, ?_, hentryName ▸ hname⟩, haccepted, hbuilds⟩
        rw [houtcome] at hselected
        exact hselected.symm.trans hentry
    rw [← hstatus] at happroval
    simp [ExecutionPlan.isExecutable, hblock, happroval, hmodel]

end Collaborators

/-- The budget evaluator as the orchestrator asks it. -/
def RepositoryBudgetEvaluator.service (evaluator : RepositoryBudgetEvaluator)
    (query : BudgetQuery) : Except Failure BudgetDecision :=
  .ok (evaluator.evaluate query.tenantId query.plantId query.departmentId query.workloadId
    query.estimatedCost)

/-- The small deployment while the budgets cannot be read. -/
def unreadableBudgets : Collaborators where
  __ := smallDeployment
  evaluateBudget :=
    RepositoryBudgetEvaluator.service
      { limitsForScope := some fun _ _ _ => .error "OperationalError" }

/-- **A plan that needs approval is executed.**  A budget that cannot be looked up asks for
    approval, and the model is called all the same. -/
theorem approval_reaches_gateway :
    ((unreadableBudgets.plan supplyChainRequest engineer "r1" "r1").toOption.map fun plan =>
        (plan.budgetStatus, plan.isExecutable)) = some (.RequireApproval, false)
      ∧ (unreadableBudgets.execute supplyChainRequest engineer "r1" "r1").events.any
          ExecutionEvent.isModelCall = true
      ∧ ¬ unreadableBudgets.GatewayOnlyIfExecutable supplyChainRequest engineer "r1" "r1" := by
  have hplan : ((unreadableBudgets.plan supplyChainRequest engineer "r1" "r1").toOption.map
      fun plan => (plan.budgetStatus, plan.isExecutable)) = some (.RequireApproval, false) := by
    decide +kernel
  have hcalls : (unreadableBudgets.execute supplyChainRequest engineer "r1" "r1").events.any
      ExecutionEvent.isModelCall = true := by
    decide +kernel
  refine ⟨hplan, hcalls, fun hkept => ?_⟩
  obtain ⟨plan, hresult, hstatus⟩ := Fallible.toOption_map_eq_some.mp hplan
  have hexecutable := hkept plan hresult (List.any_eq_true.mp hcalls)
  have hrefused : plan.isExecutable = false := congrArg Prod.snd hstatus
  rw [hrefused] at hexecutable
  cases hexecutable

end CostPlatform
