import CostPlatform.Lifecycle.Service
import CostPlatform.Orchestrator.Execute

/-!
# Fallbacks and the routing policy

A fallback should obey the policy and fit the limit the plan was made with.  The fallback is
selected from everything the registry offers for the workload, without the policy, and the plan
keeps the limit computed for its own model.  `fallback_obeys_policy_iff` says what that takes of
the fallback: in particular no fallback obeys a policy that pins a model.
-/

namespace CostPlatform

namespace Collaborators

variable {c : Collaborators}

/-- The collaborators, with the registry service over a given registry. -/
def withRegistry (c : Collaborators) (registry : ModelRegistry) : Collaborators :=
  { c with findForWorkload := registry.service }

/-- A model meets the policy's quality bar and is the one it pins, if it pins one. -/
def SatisfiesPolicy (policy : Option RoutingPolicy) (entry : ModelRegistryEntry) : Prop :=
  (∀ bound ∈ policy.bind RoutingPolicy.minimumQualityScore,
      ∃ score ∈ entry.qualityScore, bound ≤ score)
    ∧ ∀ pinned ∈ pinnedModel policy, entry.id = pinned

/-- A limit does not exceed the window registered for a model. -/
def FitsWindow (limit : Option Int) (entry : ModelRegistryEntry) : Prop :=
  ∀ tokens ∈ limit, ∀ window ∈ entry.maxContextTokens, tokens ≤ window

/-- Whenever a fallback answers, the registered model it names satisfies the policy, and the final
    plan's limit fits its window. -/
def FallbackObeysPolicy (c : Collaborators) (registry : ModelRegistry)
    (request : OrchestrationRequest) (principal : Principal) (requestId traceId : String) : Prop :=
  ∀ result,
    ((c.withRegistry registry).execute request principal requestId traceId).result = .ok result →
    result.fallbackUsed = true →
    ∃ entry ∈ registry.models.rows, result.plan.selectedModelId = some entry.id
      ∧ SatisfiesPolicy (c.policyFor request principal) entry
      ∧ FitsWindow result.plan.maxContextTokens entry

/-! ## When a fallback answers -/

/-- The model ranked first fails in the gateway, and the fallback's answer is accepted. -/
def FallsBack (c : Collaborators) (request : OrchestrationRequest) (principal : Principal)
    (requestId traceId : String) (plan : ExecutionPlan)
    (primary fallback : ModelRegistryEntry) : Prop :=
  c.plan request principal requestId traceId = .ok plan
    ∧ plan.budgetStatus ≠ .Block
    ∧ (∃ found, c.candidates request (c.policyFor request principal) = .ok found
      ∧ selectModel found (plan.budgetStatus = .Downgrade) = some primary)
    ∧ c.InputAccepted request
    ∧ c.fallbackModel request plan = .ok (some fallback)
    ∧ ∃ modelRequest, c.buildModelRequest plan primary.modelName request = .ok modelRequest
      ∧ (∃ code, c.gateway .Primary modelRequest = .error (.ModelGatewayError code))
      ∧ ∃ response,
          c.gateway .Fallback { modelRequest with model := fallback.modelName } = .ok response
          ∧ c.ResponseAccepted request response

/-- The model of a plan that is not blocked is the one ranked first. -/
lemma plan_primary {request : OrchestrationRequest} {principal : Principal}
    {requestId traceId : String} {plan : ExecutionPlan}
    (hplan : c.plan request principal requestId traceId = .ok plan)
    (hblock : plan.budgetStatus ≠ .Block) :
    ∃ found selected, c.candidates request (c.policyFor request principal) = .ok found
      ∧ selectModel found (plan.budgetStatus = .Downgrade) = selected
      ∧ plan.selectedModelId = selected.map ModelRegistryEntry.id
      ∧ plan.selectedModelName = selected.map ModelRegistryEntry.modelName
      ∧ plan.maxContextTokens = contextLimit (c.policyFor request principal) selected := by
  obtain ⟨-, decision, -, hstatus, hcases⟩ := c.plan_cases hplan
  rcases hcases with ⟨hblocked, -⟩ | ⟨-, found, hfound, selected, hselected, hid, hname, hlimit⟩
  · exact absurd (hstatus.trans hblocked) hblock
  · refine ⟨found, selected, hfound, ?_, hid, hname, hlimit⟩
    rw [hselected, hstatus]

/-- An answer by a fallback comes from falling back. -/
lemma fallsBack_of_execute {request : OrchestrationRequest} {principal : Principal}
    {requestId traceId : String} {result : ExecutionResult}
    (hresult : (c.execute request principal requestId traceId).result = .ok result)
    (hused : result.fallbackUsed = true) :
    ∃ plan primary fallback, c.FallsBack request principal requestId traceId plan primary fallback
      ∧ result.plan = withModel plan fallback "fallback" := by
  obtain ⟨plan, hplan, hresult⟩ := Traced.bind_result_eq_ok.mp hresult
  replace hplan : c.plan request principal requestId traceId = .ok plan := hplan
  obtain ⟨hworkload, -⟩ := c.plan_cases hplan
  by_cases hblock : plan.budgetStatus = .Block
  · rw [if_pos hblock] at hresult
    obtain ⟨_, _, hraise⟩ := Traced.bind_result_eq_ok.mp hresult
    cases hraise
  · rw [if_neg hblock] at hresult
    obtain ⟨found, selected, hfound, hselected, -, hname, -⟩ := plan_primary hplan hblock
    cases hmodel : plan.selectedModelName with
    | none =>
        rw [hmodel] at hresult
        obtain ⟨_, _, hraise⟩ := Traced.bind_result_eq_ok.mp hresult
        cases hraise
    | some model =>
        rw [hmodel] at hresult hname
        obtain ⟨primary, rfl, hprimaryName⟩ := Option.map_eq_some_iff.mp hname.symm
        -- the four stages of `executePlan`, each of which succeeded
        obtain ⟨_, hguard, hresult⟩ := Traced.bind_result_eq_ok.mp hresult
        obtain ⟨modelRequest, hbuilt, hresult⟩ := Traced.bind_result_eq_ok.mp hresult
        obtain ⟨answered, hanswered, hdelivered⟩ := Traced.bind_result_eq_ok.mp hresult
        rcases callModel_result_iff.mp hanswered with ⟨response, -, rfl⟩ |
          ⟨code, fallback, response, hprimary, hfallback, hsecond, rfl⟩
        · obtain ⟨-, -, hflag⟩ := deliver_result_cases hworkload hdelivered
          rw [hused] at hflag
          cases hflag
        · obtain ⟨haccepted, hplanEq, -⟩ := deliver_result_cases
            (show (withModel plan fallback "fallback").workloadType = _ from hworkload)
            hdelivered
          refine ⟨plan, primary, fallback, ⟨hplan, hblock, ⟨found, hfound, hselected⟩,
            guardInput_result_ok_iff.mp hguard, hfallback, modelRequest, ?_, ⟨code, hprimary⟩,
            response, hsecond, haccepted⟩, hplanEq⟩
          rw [hprimaryName]
          exact hbuilt

/-- Falling back ends in an answer by the fallback. -/
lemma execute_of_fallsBack {request : OrchestrationRequest} {principal : Principal}
    {requestId traceId : String} {plan : ExecutionPlan} {primary fallback : ModelRegistryEntry}
    (h : c.FallsBack request principal requestId traceId plan primary fallback) :
    ∃ result, (c.execute request principal requestId traceId).result = .ok result
      ∧ result.fallbackUsed = true ∧ result.plan = withModel plan fallback "fallback" := by
  obtain ⟨hplan, hblock, ⟨found, hfound, hselected⟩, haccepted, hfallback, modelRequest, hbuilt,
    ⟨code, hprimary⟩, response, hsecond, hresponse⟩ := h
  obtain ⟨hworkload, -⟩ := c.plan_cases hplan
  obtain ⟨found', selected, hfound', hselected', -, hname, -⟩ := plan_primary hplan hblock
  rw [hfound, Except.ok.injEq] at hfound'
  subst hfound'
  rw [hselected] at hselected'
  subst hselected'
  have hanswered : (c.callModel plan request modelRequest).result
      = .ok ⟨response, withModel plan fallback "fallback", true⟩ :=
    callModel_result_iff.mpr
      (Or.inr ⟨code, fallback, response, hprimary, hfallback, hsecond, rfl⟩)
  obtain ⟨result, hresult⟩ : ∃ result, (c.deliver request
      ⟨response, withModel plan fallback "fallback", true⟩).result = .ok result :=
    deliver_succeeds hworkload hresponse
  obtain ⟨-, hplanEq, hflag⟩ := deliver_result_cases
    (show (withModel plan fallback "fallback").workloadType = _ from hworkload) hresult
  refine ⟨result, ?_, hflag, hplanEq⟩
  refine Traced.bind_result_eq_ok.mpr ⟨plan, hplan, ?_⟩
  rw [if_neg hblock, hname]
  refine Traced.bind_result_eq_ok.mpr ⟨(), guardInput_result_ok_iff.mpr haccepted, ?_⟩
  refine Traced.bind_result_eq_ok.mpr ⟨modelRequest, hbuilt, ?_⟩
  exact Traced.bind_result_eq_ok.mpr ⟨_, hanswered, hresult⟩

/-- **A fallback answers exactly when the execution falls back to it.** -/
theorem execute_fallback_iff {request : OrchestrationRequest} {principal : Principal}
    {requestId traceId : String} {finalPlan : ExecutionPlan} :
    (∃ result, (c.execute request principal requestId traceId).result = .ok result
        ∧ result.fallbackUsed = true ∧ result.plan = finalPlan)
      ↔ ∃ plan primary fallback,
          c.FallsBack request principal requestId traceId plan primary fallback
          ∧ finalPlan = withModel plan fallback "fallback" := by
  constructor
  · rintro ⟨result, hresult, hused, rfl⟩
    exact fallsBack_of_execute hresult hused
  · rintro ⟨plan, primary, fallback, hfalls, rfl⟩
    exact execute_of_fallsBack hfalls

/-! ## What that takes of the fallback -/

lemma fallbackModel_cases {request : OrchestrationRequest} {plan : ExecutionPlan}
    {fallback : ModelRegistryEntry} (h : c.fallbackModel request plan = .ok (some fallback)) :
    some fallback.id ≠ plan.selectedModelId
      ∧ ∃ found, c.findForWorkload .Fallback request.workloadType none = .ok found
        ∧ fallback ∈ found := by
  obtain ⟨found, hfound, h⟩ := Fallible.bind_eq_ok.mp h
  have hmem := selectModel_mem (Except.ok.inj h)
  obtain ⟨hoffered, hother⟩ := List.mem_filter.mp hmem
  exact ⟨of_decide_eq_true hother, found, hfound, hoffered⟩

/-- A fallback over a registry is a registered model other than the plan's. -/
lemma fallsBack_registered {registry : ModelRegistry} {request : OrchestrationRequest}
    {principal : Principal} {requestId traceId : String} {plan : ExecutionPlan}
    {primary fallback : ModelRegistryEntry}
    (h : (c.withRegistry registry).FallsBack request principal requestId traceId plan primary
      fallback) :
    fallback ∈ registry.models.rows ∧ fallback.id ≠ primary.id
      ∧ plan.maxContextTokens = contextLimit (c.policyFor request principal) (some primary) := by
  obtain ⟨hplan, hblock, ⟨found, hfound, hselected⟩, -, hfallback, -⟩ := h
  obtain ⟨found', selected, hfound', hselected', hid, -, hlimit⟩ := plan_primary hplan hblock
  rw [hfound, Except.ok.injEq] at hfound'
  subst hfound'
  rw [hselected] at hselected'
  subst hselected'
  obtain ⟨hother, offered, hoffered, hmem⟩ := fallbackModel_cases hfallback
  cases Except.ok.inj hoffered
  refine ⟨(registry.findForWorkload_sound hmem).1, fun hsame => hother ?_, hlimit⟩
  rw [hid, hsame]
  rfl

/-- Every fallback that answers does so under a policy that pins no model, meets the quality bar,
    and has room for the limit computed for the plan's own model. -/
def FallbacksFit (c : Collaborators) (registry : ModelRegistry) (request : OrchestrationRequest)
    (principal : Principal) (requestId traceId : String) : Prop :=
  ∀ plan primary fallback,
    (c.withRegistry registry).FallsBack request principal requestId traceId plan primary fallback →
    pinnedModel (c.policyFor request principal) = none
      ∧ (∀ bound ∈ (c.policyFor request principal).bind RoutingPolicy.minimumQualityScore,
          ∃ score ∈ fallback.qualityScore, bound ≤ score)
      ∧ FitsWindow (contextLimit (c.policyFor request principal) (some primary)) fallback

/-- The primary of a plan is the model its policy pins. -/
lemma fallsBack_pinned {registry : ModelRegistry} {request : OrchestrationRequest}
    {principal : Principal} {requestId traceId : String} {plan : ExecutionPlan}
    {primary fallback : ModelRegistryEntry}
    (h : (c.withRegistry registry).FallsBack request principal requestId traceId plan primary
      fallback) {pinned : String}
    (hpinned : pinnedModel (c.policyFor request principal) = some pinned) :
    fallback.id ≠ pinned := by
  obtain ⟨-, hother, -⟩ := fallsBack_registered h
  obtain ⟨-, -, ⟨found, hfound, hselected⟩, -⟩ := h
  have hprimary : primary.id = pinned :=
    candidates_pinned _ hfound hpinned primary (selectModel_mem hselected)
  rw [← hprimary]
  exact hother

/-- **Fallbacks obey the policy exactly when every fallback that answers fits.** -/
theorem fallback_obeys_policy_iff (c : Collaborators) (registry : ModelRegistry)
    (request : OrchestrationRequest) (principal : Principal) (requestId traceId : String) :
    c.FallbackObeysPolicy registry request principal requestId traceId
      ↔ c.FallbacksFit registry request principal requestId traceId := by
  refine ⟨fun hobeys plan primary fallback hfalls => ?_, fun hfits result hresult hused => ?_⟩
  · obtain ⟨hrow, -, hlimit⟩ := fallsBack_registered hfalls
    obtain ⟨result, hresult, hused, hfinal⟩ :=
      execute_fallback_iff.mpr ⟨plan, primary, fallback, hfalls, rfl⟩
    obtain ⟨entry, hentry, hid, ⟨hquality, hpin⟩, hwindow⟩ := hobeys result hresult hused
    rw [hfinal] at hid hwindow
    -- ids are unique, so the model the final plan names is the fallback
    cases registry.models.eq_of_key hrow hentry (Option.some.inj hid)
    refine ⟨?_, hquality, ?_⟩
    · cases hpinned : pinnedModel (c.policyFor request principal) with
      | none => rfl
      | some pinned => exact absurd (hpin pinned hpinned) (fallsBack_pinned hfalls hpinned)
    · rw [← hlimit]
      exact hwindow
  · obtain ⟨plan, primary, fallback, hfalls, hfinal⟩ :=
      execute_fallback_iff.mp ⟨result, hresult, hused, rfl⟩
    obtain ⟨hrow, -, hlimit⟩ := fallsBack_registered hfalls
    obtain ⟨hnopin, hquality, hwindow⟩ := hfits plan primary fallback hfalls
    refine ⟨fallback, hrow, by rw [hfinal]; rfl, ⟨hquality, ?_⟩, ?_⟩
    · simp [hnopin]
    · rw [hfinal]
      rw [← hlimit] at hwindow
      exact hwindow

end Collaborators

/-- The small deployment with a policy that pins the better model and asks for its quality, while
    that model's endpoint is down. -/
def pinnedDeployment : Collaborators where
  __ := smallDeployment
  gateway role request :=
    match role with
    | .Primary => .error (.ModelGatewayError "model_gateway_unavailable")
    | .Fallback => .ok (mockResponse request)
  getActivePolicy := some fun key => .ok (some
    { seedPolicy with
      tenantId := key.tenantId
      workloadType := key.workloadType
      complexity := key.complexity
      selectedModelId := some "m1"
      minimumQualityScore := some (4 / 5) })

/-- **A fallback answers against the policy.**  The policy pins `m1` and asks for a quality of 0.8;
    `m2`, with a quality of 0.5, answers under a limit of 8000 tokens and has a window of 4000. -/
theorem fallback_answers_against_policy :
    (((pinnedDeployment.withRegistry twoModels).execute supplyChainRequest engineer "r1"
        "r1").result.toOption.map fun result =>
          (result.fallbackUsed, result.plan.selectedModelId, result.plan.maxContextTokens))
      = some (true, some "m2", some 8000)
      ∧ ¬ pinnedDeployment.FallbackObeysPolicy twoModels supplyChainRequest engineer "r1" "r1" := by
  have hanswer : (((pinnedDeployment.withRegistry twoModels).execute supplyChainRequest engineer
      "r1" "r1").result.toOption.map fun result =>
        (result.fallbackUsed, result.plan.selectedModelId, result.plan.maxContextTokens))
      = some (true, some "m2", some 8000) := by
    decide +kernel
  refine ⟨hanswer, fun hobeys => ?_⟩
  cases hresult : ((pinnedDeployment.withRegistry twoModels).execute supplyChainRequest engineer
      "r1" "r1").result with
  | error failure =>
      rw [hresult] at hanswer
      cases hanswer
  | ok result =>
      rw [hresult] at hanswer
      have hfields := Option.some.inj hanswer
      have hused : result.fallbackUsed = true := congrArg Prod.fst hfields
      have hmodel : result.plan.selectedModelId = some "m2" :=
        congrArg (fun fields => fields.2.1) hfields
      obtain ⟨entry, -, hid, ⟨-, hpin⟩, -⟩ := hobeys result hresult hused
      have hpinned : Collaborators.pinnedModel
          (pinnedDeployment.policyFor supplyChainRequest engineer) = some "m1" := by
        decide +kernel
      rw [hpin "m1" hpinned, hmodel] at hid
      exact absurd hid (by decide)

end CostPlatform
