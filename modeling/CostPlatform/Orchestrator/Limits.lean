import CostPlatform.Orchestrator.Vision

/-!
# The limits of a plan

A plan carries two limits: how many tool calls its execution may make, which a gateway request has
a field for, and how many tokens its prompt may have.  They are computed with the plan, and the
request is built from the plan without them.

`limitsBind_iff` says when they bind all the same: exactly where nothing is sent, or where the plan
limits no tool calls and the prompt happens to fit.
-/

namespace CostPlatform

open PyJson

/-- The texts of a message. -/
def MessageContent.texts : MessageContent → List String
  | .Text text => [text]
  | .Parts parts => parts.filterMap fun
      | .TextPart text => some text
      | .ImagePart _ _ => none

namespace Collaborators

variable {c : Collaborators} {request : OrchestrationRequest} {plan : ExecutionPlan}
  {model : String}

/-! ## What is sent -/

/-- What a built request asks the model: the rendered prompt, without a limit on tool calls. -/
lemma buildModelRequest_sends {sent : ModelRequest}
    (h : c.buildModelRequest plan model request = .ok sent) :
    sent.maxToolCalls = none
      ∧ ∃ text, c.renderPrompt plan.workloadType request.payload = .ok text
        ∧ sent.content.texts = [text] := by
  obtain ⟨text, htext, h⟩ := Fallible.bind_eq_ok.mp h
  obtain ⟨_, -, h⟩ := Fallible.bind_eq_ok.mp h
  obtain ⟨_, -, h⟩ := Fallible.bind_eq_ok.mp h
  cases Except.ok.inj h
  refine ⟨rfl, text, htext, ?_⟩
  cases request.imageBytes with
  | nil => rfl
  | cons image images =>
      simp [MessageContent.texts, List.filterMap_map]

/-- Every call of a plan asks the same, whichever model it goes to. -/
lemma modelCall_sends {role : ModelRole} {modelRequest : ModelRequest}
    (h : .ModelCall role modelRequest ∈ (c.executePlan plan model request).events) :
    c.InputAccepted request
      ∧ ∃ sent, c.buildModelRequest plan model request = .ok sent
        ∧ modelRequest.maxToolCalls = sent.maxToolCalls ∧ modelRequest.content = sent.content := by
  obtain ⟨haccepted, sent, hsent, hcalls⟩ := modelCall_mem_executePlan.mp h
  refine ⟨haccepted, sent, hsent, ?_⟩
  cases role with
  | Primary =>
      rw [show modelRequest = sent from hcalls]
      exact ⟨rfl, rfl⟩
  | Fallback =>
      obtain ⟨-, entry, -, rfl⟩ := hcalls
      exact ⟨rfl, rfl⟩

/-! ## When the limits bind -/

/-- **The plan's limits bind its execution**: every request, the fallback's too, carries the limit
    on tool calls, and none has a prompt of more tokens than the limit on context. -/
def LimitsBind (count : String → ℕ) (plan : ExecutionPlan) (events : List ExecutionEvent) : Prop :=
  ∀ role modelRequest, .ModelCall role modelRequest ∈ events →
    (∀ limit ∈ plan.maxToolCalls, modelRequest.maxToolCalls = some limit)
      ∧ ∀ limit ∈ plan.maxContextTokens, ∀ text ∈ modelRequest.content.texts,
          (count text : Int) ≤ limit

/-- The input is accepted and a request can be built of it. -/
def IsSent (c : Collaborators) (plan : ExecutionPlan) (model : String)
    (request : OrchestrationRequest) : Prop :=
  c.InputAccepted request ∧ ∃ sent, c.buildModelRequest plan model request = .ok sent

/-- The plan limits no tool calls, and the prompt is within its limit on context. -/
def NothingToLimit (c : Collaborators) (count : String → ℕ) (plan : ExecutionPlan)
    (request : OrchestrationRequest) : Prop :=
  plan.maxToolCalls = none
    ∧ ∀ limit ∈ plan.maxContextTokens,
        ∀ text, c.renderPrompt plan.workloadType request.payload = .ok text →
          (count text : Int) ≤ limit

/-- **When the limits of a plan bind, exactly**, for every way to count tokens. -/
theorem limitsBind_iff (c : Collaborators) (count : String → ℕ) (plan : ExecutionPlan)
    (model : String) (request : OrchestrationRequest) :
    LimitsBind count plan (c.executePlan plan model request).events
      ↔ (c.IsSent plan model request → c.NothingToLimit count plan request) := by
  constructor
  · rintro hbind ⟨haccepted, sent, hsent⟩
    obtain ⟨htools, text, htext, htexts⟩ := buildModelRequest_sends hsent
    obtain ⟨hcarries, hfits⟩ := hbind .Primary sent
      (modelCall_mem_executePlan.mpr ⟨haccepted, sent, hsent, rfl⟩)
    refine ⟨?_, fun limit hlimit text' htext' => ?_⟩
    · cases hlimit : plan.maxToolCalls with
      | none => rfl
      | some limit =>
          have hcarried := hcarries limit hlimit
          rw [htools] at hcarried
          cases hcarried
    · cases Except.ok.inj (htext.symm.trans htext')
      exact hfits limit hlimit text (by simp [htexts])
  · intro hnothing role modelRequest hcall
    obtain ⟨haccepted, sent, hsent, htools, hcontent⟩ := modelCall_sends hcall
    obtain ⟨hunlimited, hfits⟩ := hnothing ⟨haccepted, sent, hsent⟩
    obtain ⟨-, text, htext, htexts⟩ := buildModelRequest_sends hsent
    refine ⟨fun limit hlimit => ?_, fun limit hlimit text' htext' => ?_⟩
    · rw [hunlimited] at hlimit
      cases hlimit
    · rw [hcontent, htexts] at htext'
      rw [List.mem_singleton.mp htext']
      exact hfits limit hlimit text htext

/-- The limits of a plan are those of the policy in force, and of the model's own window. -/
theorem plan_limits {principal : Principal} {requestId traceId : String}
    (hplan : c.plan request principal requestId traceId = .ok plan)
    (hblock : plan.budgetStatus ≠ .Block) :
    plan.maxToolCalls = (c.policyFor request principal).bind RoutingPolicy.maxToolCalls
      ∧ ∃ selected, plan.maxContextTokens = contextLimit (c.policyFor request principal) selected
        ∧ plan.selectedModelName = selected.map ModelRegistryEntry.modelName := by
  obtain ⟨decision, -, ⟨hblocked, rfl⟩ | ⟨-, found, -, rfl⟩⟩ := c.plan_eq_ok_iff.mp hplan
  · exact absurd hblocked hblock
  · exact ⟨rfl, _, rfl, rfl⟩

end Collaborators

/-! ## A policy whose limits are ignored -/

lemma noCanary_valid : ∀ percent ∈ (none : Option ℚ), 0 ≤ percent ∧ percent ≤ 100 := nofun

/-- Five tool calls and a single token of context. -/
def tightPolicy : RoutingPolicy where
  id := "policy-9"
  tenantId := "t1"
  workloadType := "supply_chain"
  complexity := .Medium
  businessPriority := none
  selectedModelId := none
  selectedAgentId := none
  maxContextTokens := some 1
  maxToolCalls := some 5
  maxCostPerRequest := none
  maxTotalTokensPerRequest := none
  minimumQualityScore := none
  riskLevel := none
  version := 9
  status := .Active
  canaryTrafficPercent := none
  reason := none
  createdBy := none
  approvedBy := none
  activatedAt := none
  versionPositive := by decide
  canaryTrafficValid := noCanary_valid

/-- The small deployment with that policy in force. -/
def limitedDeployment : Collaborators :=
  { smallDeployment with getActivePolicy := some fun _ => .ok (some tightPolicy) }

/-- A call without a limit on tool calls, whose text is longer than one character. -/
def ExecutionEvent.isUnlimitedCall : ExecutionEvent → Bool
  | .ModelCall _ modelRequest =>
      modelRequest.maxToolCalls = none
        && modelRequest.content.texts.any fun text => 1 < text.length
  | .Record _ => false

/-- **The request is sent without either limit.**  Counted by the character, a prompt of two tokens
    goes out under a limit of one. -/
theorem tight_limits_ignored :
    ∃ plan, limitedDeployment.plan supplyChainRequest engineer "r1" "r1" = .ok plan
      ∧ plan.maxToolCalls = some 5 ∧ plan.maxContextTokens = some 1
      ∧ (limitedDeployment.execute supplyChainRequest engineer "r1" "r1").events.any
          ExecutionEvent.isUnlimitedCall = true
      ∧ ¬ Collaborators.LimitsBind String.length plan
          (limitedDeployment.execute supplyChainRequest engineer "r1" "r1").events := by
  have hplan : ((limitedDeployment.plan supplyChainRequest engineer "r1" "r1").toOption.map
      fun plan => (plan.maxToolCalls, plan.maxContextTokens)) = some (some 5, some 1) := by
    decide +kernel
  have hcall : (limitedDeployment.execute supplyChainRequest engineer "r1" "r1").events.any
      ExecutionEvent.isUnlimitedCall = true := by
    decide +kernel
  obtain ⟨plan, hok, hlimits⟩ := Fallible.toOption_map_eq_some.mp hplan
  obtain ⟨htools, hcontext⟩ := Prod.mk.inj hlimits
  refine ⟨plan, hok, htools, hcontext, hcall, fun hbind => ?_⟩
  obtain ⟨event, hevent, hunlimited⟩ := List.any_eq_true.mp hcall
  cases event with
  | Record record => cases hunlimited
  | ModelCall role modelRequest =>
      obtain ⟨hnone, -⟩ := Bool.and_eq_true_iff.mp hunlimited
      have hcarried := (hbind role modelRequest hevent).1 5 htools
      rw [of_decide_eq_true hnone] at hcarried
      cases hcarried

end CostPlatform
