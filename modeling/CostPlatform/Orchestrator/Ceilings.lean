import CostPlatform.Orchestrator.Approval

/-!
# Cost ceilings on a request

A request may cap its own cost, and a routing policy the cost of every request.  Neither figure is
read on the way to the gateway, and there is nothing to compare it with: no plan carries an
estimate (`plan_estimatedCost`).  So a ceiling is enforced only where the gateway is not reached at
all (`ceilingsEnforced_iff`).

The budget is evaluated before the estimate would be known, for a cost of 0.  Every plan is one
whose unknown cost has counted as nothing (`cost_ceilings_iff`).
-/

namespace CostPlatform

namespace Collaborators

variable (c : Collaborators)

/-- The ceilings on a request: its own and that of the policy in force for it. -/
def ceilings (request : OrchestrationRequest) (principal : Principal) : List ℚ :=
  request.maxCost.toList
    ++ ((c.policyFor request principal).bind RoutingPolicy.maxCostPerRequest).toList

/-- A model is called only if the plan's estimate is known and no ceiling is below it.  A fallback
    is called under the plan's own estimate. -/
def CeilingsEnforced (request : OrchestrationRequest) (principal : Principal)
    (requestId traceId : String) : Prop :=
  ∀ plan, c.plan request principal requestId traceId = .ok plan →
    (∃ event ∈ (c.execute request principal requestId traceId).events,
      event.isModelCall = true) →
    ∀ ceiling ∈ c.ceilings request principal, ∃ cost ∈ plan.estimatedCost, cost ≤ ceiling

/-- The budget was not evaluated for a cost of 0 where the plan does not know its cost. -/
def UnknownNotZero (request : OrchestrationRequest) (principal : Principal)
    (requestId traceId : String) : Prop :=
  ∀ plan, c.plan request principal requestId traceId = .ok plan → plan.estimatedCost = none →
    (c.budgetQuery request principal).estimatedCost ≠ 0

/-- What is wanted of the request-level ceilings. -/
structure CostCeilingsHold (request : OrchestrationRequest) (principal : Principal)
    (requestId traceId : String) : Prop where
  enforced : c.CeilingsEnforced request principal requestId traceId
  unknownNotZero : c.UnknownNotZero request principal requestId traceId

/-! ## When a plan is made, and when it reaches the gateway -/

/-- The budget evaluator raises, or it does not block and the registry lookup raises. -/
def PlanningRaises (request : OrchestrationRequest) (principal : Principal) : Prop :=
  match c.checkBudget request principal with
  | .error _ => True
  | .ok decision =>
      decision.outcome ≠ .Block
        ∧ ∀ found, c.candidates request (c.policyFor request principal) ≠ .ok found

lemma planningRaises_iff (request : OrchestrationRequest) (principal : Principal)
    (requestId traceId : String) :
    c.PlanningRaises request principal
      ↔ ∀ plan, c.plan request principal requestId traceId ≠ .ok plan := by
  simp only [PlanningRaises, plan]
  cases hdecision : c.checkBudget request principal with
  | error failure => simp
  | ok decision =>
      simp only [Fallible.ok_bind]
      by_cases hblock : decision.outcome = .Block
      · simp [hblock, pure, Except.pure]
      · simp only [ne_eq, hblock, not_false_eq_true, true_and, if_false]
        cases hfound : c.candidates request (c.policyFor request principal) with
        | error failure => simp
        | ok found => simp [pure, Except.pure]

/-- The budget does not block, a named candidate ranks first, and neither the input guardrail nor
    the building of the request stops the execution. -/
def ReachesGateway (request : OrchestrationRequest) (principal : Principal) : Prop :=
  (∃ decision, c.checkBudget request principal = .ok decision ∧ decision.outcome ≠ .Block
    ∧ ∃ found entry, c.candidates request (c.policyFor request principal) = .ok found
      ∧ selectModel found (decision.outcome = .Downgrade) = some entry ∧ entry.modelName ≠ "")
  ∧ c.InputAccepted request ∧ c.PromptBuilds request

/-- **When an execution calls a model**, in terms of what its collaborators answer. -/
theorem execute_calls_iff_reachesGateway {request : OrchestrationRequest} {principal : Principal}
    {requestId traceId : String} {plan : ExecutionPlan}
    (hplan : c.plan request principal requestId traceId = .ok plan) :
    (∃ event ∈ (c.execute request principal requestId traceId).events,
        event.isModelCall = true)
      ↔ c.ReachesGateway request principal := by
  rw [c.execute_calls_iff hplan, ReachesGateway, ← and_assoc]
  refine and_congr_left fun _ => ?_
  obtain ⟨-, decision, hdecision, hstatus, hcases⟩ := c.plan_cases hplan
  rw [hstatus]
  constructor
  · rintro ⟨hblock, model, hmodel, hname⟩
    rcases hcases with ⟨hblocked, -⟩ | ⟨-, found, hfound, selected, hselected, -, hmodelName, -⟩
    · exact absurd hblocked hblock
    · rw [hmodel] at hmodelName
      obtain ⟨entry, hentry, rfl⟩ := Option.map_eq_some_iff.mp hmodelName.symm
      exact ⟨decision, hdecision, hblock, found, entry, hfound, hselected.symm.trans hentry, hname⟩
  · rintro ⟨decision', hdecision', hblock, found', entry, hfound', hentry, hname⟩
    cases Except.ok.inj (hdecision.symm.trans hdecision')
    refine ⟨hblock, entry.modelName, ?_, hname⟩
    rcases hcases with ⟨hblocked, -⟩ | ⟨-, found, hfound, selected, hselected, -, hmodelName, -⟩
    · exact absurd hblocked hblock
    · cases Except.ok.inj (hfound.symm.trans hfound')
      rw [hmodelName, hselected, hentry, Option.map_some]

/-- A reached gateway has been planned for. -/
lemma exists_plan_of_reachesGateway {request : OrchestrationRequest} {principal : Principal}
    (requestId traceId : String) (h : c.ReachesGateway request principal) :
    ∃ plan, c.plan request principal requestId traceId = .ok plan := by
  obtain ⟨⟨decision, hdecision, hblock, found, entry, hfound, -, -⟩, -⟩ := h
  exact ⟨_, c.plan_eq_routedPlan requestId traceId hdecision hblock hfound⟩

/-! ## Ceilings -/

/-- **Ceilings, exactly.**  A ceiling is enforced exactly where none is set or the gateway is not
    reached. -/
theorem ceilingsEnforced_iff (request : OrchestrationRequest) (principal : Principal)
    (requestId traceId : String) :
    c.CeilingsEnforced request principal requestId traceId
      ↔ c.ceilings request principal = [] ∨ ¬ c.ReachesGateway request principal := by
  constructor
  · intro henforced
    by_contra hignored
    obtain ⟨hceilings, hreaches⟩ := not_or.mp hignored
    obtain ⟨plan, hplan⟩ :=
      c.exists_plan_of_reachesGateway requestId traceId (not_not.mp hreaches)
    obtain ⟨ceiling, hceiling⟩ := List.exists_mem_of_ne_nil _ hceilings
    have hcalls := (c.execute_calls_iff_reachesGateway hplan).mpr (not_not.mp hreaches)
    obtain ⟨cost, hcost, -⟩ := henforced plan hplan hcalls ceiling hceiling
    rw [c.plan_estimatedCost hplan] at hcost
    cases hcost
  · rintro (hnone | hmissed) plan hplan hcalls ceiling hceiling
    · rw [hnone] at hceiling
      cases hceiling
    · exact absurd ((c.execute_calls_iff_reachesGateway hplan).mp hcalls) hmissed

lemma unknownNotZero_iff (request : OrchestrationRequest) (principal : Principal)
    (requestId traceId : String) :
    c.UnknownNotZero request principal requestId traceId
      ↔ c.PlanningRaises request principal := by
  rw [c.planningRaises_iff request principal requestId traceId]
  constructor
  · intro hnonzero plan hplan
    exact hnonzero plan hplan (c.plan_estimatedCost hplan) rfl
  · intro hraises plan hplan
    exact absurd hplan (hraises plan)

/-- **Cost ceilings, exactly.**  They hold only where no plan is made; and the half of them that is
    about the gateway where no ceiling is set or the gateway is not reached. -/
theorem cost_ceilings_iff (request : OrchestrationRequest) (principal : Principal)
    (requestId traceId : String) :
    (c.CostCeilingsHold request principal requestId traceId
        ↔ c.PlanningRaises request principal)
      ∧ (c.CeilingsEnforced request principal requestId traceId
        ↔ c.ceilings request principal = [] ∨ ¬ c.ReachesGateway request principal) := by
  refine ⟨⟨fun h => ?_, fun hraises => ⟨fun plan hplan => ?_, ?_⟩⟩, ?_⟩
  · exact (c.unknownNotZero_iff request principal requestId traceId).mp h.unknownNotZero
  · exact absurd hplan ((c.planningRaises_iff request principal requestId traceId).mp hraises plan)
  · exact (c.unknownNotZero_iff request principal requestId traceId).mpr hraises
  · exact c.ceilingsEnforced_iff request principal requestId traceId

end Collaborators

/-- A request that may cost nothing is sent to a model all the same, at an unknown cost. -/
theorem free_request_reaches_gateway :
    ¬ smallDeployment.CostCeilingsHold { supplyChainRequest with maxCost := some 0 } engineer "r1"
      "r1" := by
  intro hholds
  have hcalls : (smallDeployment.execute { supplyChainRequest with maxCost := some 0 } engineer
      "r1" "r1").events.any ExecutionEvent.isModelCall = true := by
    decide +kernel
  have hestimate : ((smallDeployment.plan { supplyChainRequest with maxCost := some 0 } engineer
      "r1" "r1").toOption.map ExecutionPlan.estimatedCost) = some none := by
    decide +kernel
  obtain ⟨plan, hplan, hunknown⟩ := Fallible.toOption_map_eq_some.mp hestimate
  obtain ⟨cost, hcost, -⟩ :=
    hholds.enforced plan hplan (List.any_eq_true.mp hcalls) 0 List.mem_cons_self
  rw [hunknown] at hcost
  cases hcost

end CostPlatform
