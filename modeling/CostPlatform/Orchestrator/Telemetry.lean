import CostPlatform.Orchestrator.Execute

/-!
# One record for each execution

An execution that gets past planning should be recorded once, however it ends.  It is never
recorded twice (`execute_records_at_most_once`).  `recorded_once_iff` says when it is recorded at
all: unless it ends in an exception that no branch records, such as a failing fallback.
-/

namespace CostPlatform

namespace Collaborators

variable {c : Collaborators}

/-- How often `record_execution` is called. -/
def recordCount {α : Type} (execution : Execution α) : Nat :=
  execution.events.countP ExecutionEvent.isRecord

/-- The record is called for exactly once. -/
def RecordedOnce (c : Collaborators) (request : OrchestrationRequest) (principal : Principal)
    (requestId traceId : String) : Prop :=
  ∀ plan, c.plan request principal requestId traceId = .ok plan →
    recordCount (c.execute request principal requestId traceId) = 1

/-! ## The ends that are recorded -/

/-- The plan's model or the fallback gives an acceptable answer, or the plan's model fails in the
    gateway and there is nothing to fall back to. -/
def ModelStageRecords (c : Collaborators) (plan : ExecutionPlan) (request : OrchestrationRequest)
    (modelRequest : ModelRequest) : Prop :=
  match c.gateway .Primary modelRequest with
  | .ok response => c.ResponseAccepted request response
  | .error (.ModelGatewayError _) =>
      match c.fallbackModel request plan with
      | .error _ => False
      | .ok none => True
      | .ok (some entry) =>
          match c.gateway .Fallback { modelRequest with model := entry.modelName } with
          | .ok response => c.ResponseAccepted request response
          | .error _ => False
  | .error _ => False

/-- The input guardrail refuses, or the request is built and the model stage ends on record. -/
def ExecutionRecords (c : Collaborators) (plan : ExecutionPlan) (model : String)
    (request : OrchestrationRequest) : Prop :=
  (∃ guardrails ∈ c.guardrails, ∃ code decision,
    guardrails.checkInput request.payload = .error (.GuardrailViolation code decision))
  ∨ (c.InputAccepted request
    ∧ ∃ modelRequest, c.buildModelRequest plan model request = .ok modelRequest
      ∧ c.ModelStageRecords plan request modelRequest)

/-- The plan is refused for its budget or for want of a model, or its execution ends on record. -/
def EveryExitRecords (c : Collaborators) (request : OrchestrationRequest) (principal : Principal)
    (requestId traceId : String) : Prop :=
  ∀ plan, c.plan request principal requestId traceId = .ok plan →
    plan.budgetStatus = .Block ∨ plan.selectedModelName = none
      ∨ ∃ model ∈ plan.selectedModelName, c.ExecutionRecords plan model request

/-! ## Counting the records -/

/-- One record where the condition holds, and none where it does not. -/
def CountsOnceIff (count : Nat) (condition : Prop) : Prop :=
  (condition → count = 1) ∧ (¬ condition → count = 0)

lemma CountsOnceIff.of_true {count : Nat} {condition : Prop} (h : condition)
    (hcount : count = 1) : CountsOnceIff count condition :=
  ⟨fun _ => hcount, fun hnot => absurd h hnot⟩

lemma CountsOnceIff.of_false {count : Nat} {condition : Prop} (h : ¬ condition)
    (hcount : count = 0) : CountsOnceIff count condition :=
  ⟨fun htrue => absurd htrue h, fun _ => hcount⟩

lemma CountsOnceIff.eq_one_iff {count : Nat} {condition : Prop}
    (h : CountsOnceIff count condition) : count = 1 ↔ condition := by
  by_cases hcondition : condition
  · exact ⟨fun _ => hcondition, h.1⟩
  · have hzero := h.2 hcondition
    exact ⟨fun hone => by omega, fun htrue => absurd htrue hcondition⟩

lemma CountsOnceIff.le_one {count : Nat} {condition : Prop}
    (h : CountsOnceIff count condition) : count ≤ 1 := by
  by_cases hcondition : condition
  · exact Nat.le_of_eq (h.1 hcondition)
  · have hzero := h.2 hcondition
    omega

@[simp] lemma recordCount_mk {α : Type} (events : List ExecutionEvent)
    (result : Except Failure α) :
    recordCount ⟨events, result⟩ = events.countP ExecutionEvent.isRecord :=
  rfl

/-- Delivering an answer is recorded when the answer is accepted. -/
lemma deliver_recordCount (htelemetry : c.telemetry = true) {request : OrchestrationRequest}
    {answered : Answered} (hworkload : answered.plan.workloadType = request.workloadType) :
    CountsOnceIff (recordCount (c.deliver request answered))
      (c.ResponseAccepted request answered.response) := by
  rw [responseAccepted_iff hworkload]
  cases hguard : c.guardOutput answered.response with
  | error failure => exact .of_false (by simp) (by simp [deliver, hguard])
  | ok decision =>
      cases hnormal : c.normalize answered request.imageCount decision with
      | error failure =>
          refine .of_false (fun ⟨_, hall⟩ => ?_) (by simp [deliver, hguard, hnormal])
          obtain ⟨result, hresult⟩ := hall decision
          rw [hnormal] at hresult
          cases hresult
      | ok result =>
          have hnormalizes : ∀ other, ∃ result,
              c.normalize answered request.imageCount other = .ok result := by
            intro other
            rw [normalize_succeeds_iff, ← normalize_succeeds_iff]
            exact ⟨result, hnormal⟩
          refine .of_true ⟨⟨decision, rfl⟩, hnormalizes⟩ ?_
          simp [deliver, hguard, hnormal, record, htelemetry, ExecutionEvent.isRecord]

/-- From the model call on. -/
lemma modelStage_recordCount (htelemetry : c.telemetry = true) {plan : ExecutionPlan}
    {request : OrchestrationRequest} (hworkload : plan.workloadType = request.workloadType)
    (modelRequest : ModelRequest) :
    CountsOnceIff
      (recordCount (do
        let answered ← c.callModel plan request modelRequest
        c.deliver request answered))
      (c.ModelStageRecords plan request modelRequest) := by
  cases hprimary : c.gateway .Primary modelRequest with
  | ok response =>
      have hdelivered := deliver_recordCount htelemetry
        (show (Answered.mk response plan false).plan.workloadType = _ from hworkload)
      simpa [callModel, ModelStageRecords, hprimary, recordCount, ExecutionEvent.isRecord]
        using hdelivered
  | error failure =>
      cases failure with
      | ModelGatewayError code =>
          cases hfallback : c.fallbackModel request plan with
          | error lookup =>
              refine .of_false ?_ ?_
              · simp [ModelStageRecords, hprimary, hfallback]
              · simp [callModel, hprimary, hfallback, ExecutionEvent.isRecord]
          | ok found =>
              cases found with
              | none =>
                  refine .of_true ?_ ?_
                  · simp [ModelStageRecords, hprimary, hfallback]
                  · simp [callModel, hprimary, hfallback, record, htelemetry,
                      ExecutionEvent.isRecord]
              | some entry =>
                  cases hsecond : c.gateway .Fallback
                      { modelRequest with model := entry.modelName } with
                  | error second =>
                      refine .of_false ?_ ?_
                      · simp [ModelStageRecords, hprimary, hfallback, hsecond]
                      · simp [callModel, hprimary, hfallback, hsecond, ExecutionEvent.isRecord]
                  | ok response =>
                      have hdelivered := deliver_recordCount htelemetry
                        (show (Answered.mk response (withModel plan entry "fallback")
                          true).plan.workloadType = _ from hworkload)
                      simpa [callModel, ModelStageRecords, hprimary, hfallback, hsecond,
                        recordCount, ExecutionEvent.isRecord] using hdelivered
      | _ =>
          refine .of_false ?_ ?_
          · simp [ModelStageRecords, hprimary]
          · simp [callModel, hprimary, ExecutionEvent.isRecord]

/-- A payload that is not accepted ends the execution, on record if it was refused. -/
lemma refusedInput_recordCount (htelemetry : c.telemetry = true) {plan : ExecutionPlan}
    {request : OrchestrationRequest} (hrefused : ¬ c.InputAccepted request) (model : String) :
    CountsOnceIff (recordCount (c.executePlan plan model request))
      (∃ guardrails ∈ c.guardrails, ∃ code decision,
        guardrails.checkInput request.payload = .error (.GuardrailViolation code decision)) := by
  cases hguardrails : c.guardrails with
  | none => exact absurd (fun _ h => by simp [hguardrails] at h) hrefused
  | some guardrails =>
      cases hcheck : guardrails.checkInput request.payload with
      | ok u =>
          refine absurd (fun other hother => ?_) hrefused
          cases Option.some.inj (hguardrails.symm.trans hother)
          exact hcheck
      | error failure =>
          cases failure with
          | GuardrailViolation code decision =>
              refine .of_true ⟨guardrails, rfl, code, decision, hcheck⟩ ?_
              simp [executePlan, guardInput, hguardrails, hcheck, record, htelemetry,
                ExecutionEvent.isRecord]
          | _ =>
              refine .of_false ?_ ?_
              · simp [hcheck]
              · simp [executePlan, guardInput, hguardrails, hcheck]

/-- From the input guardrail on. -/
lemma executePlan_recordCount (htelemetry : c.telemetry = true) {plan : ExecutionPlan}
    {request : OrchestrationRequest} (hworkload : plan.workloadType = request.workloadType)
    (model : String) :
    CountsOnceIff (recordCount (c.executePlan plan model request))
      (c.ExecutionRecords plan model request) := by
  by_cases haccepted : c.InputAccepted request
  · have hstage : c.ExecutionRecords plan model request
        ↔ ∃ modelRequest, c.buildModelRequest plan model request = .ok modelRequest
          ∧ c.ModelStageRecords plan request modelRequest := by
      simp only [ExecutionRecords, haccepted, true_and, or_iff_right_iff_imp]
      rintro ⟨guardrails, hguardrails, code, decision, hrefused⟩
      rw [haccepted guardrails hguardrails] at hrefused
      cases hrefused
    rw [hstage]
    cases hbuilt : c.buildModelRequest plan model request with
    | error failure =>
        refine .of_false (by simp) ?_
        simp [executePlan, guardInput_of_accepted haccepted, hbuilt]
    | ok modelRequest =>
        have hmodelStage := modelStage_recordCount htelemetry hworkload modelRequest
        simpa [executePlan, guardInput_of_accepted haccepted, hbuilt, recordCount] using hmodelStage
  · have hstage : c.ExecutionRecords plan model request
        ↔ ∃ guardrails ∈ c.guardrails, ∃ code decision,
          guardrails.checkInput request.payload = .error (.GuardrailViolation code decision) := by
      simp only [ExecutionRecords, haccepted, false_and, or_false]
    rw [hstage]
    exact refusedInput_recordCount htelemetry haccepted model

/-! ## Whole executions -/

/-- What an execution past planning records. -/
lemma execute_recordCount (htelemetry : c.telemetry = true) {request : OrchestrationRequest}
    {principal : Principal} {requestId traceId : String} {plan : ExecutionPlan}
    (hplan : c.plan request principal requestId traceId = .ok plan) :
    CountsOnceIff (recordCount (c.execute request principal requestId traceId))
      (plan.budgetStatus = .Block ∨ plan.selectedModelName = none
        ∨ ∃ model ∈ plan.selectedModelName, c.ExecutionRecords plan model request) := by
  obtain ⟨hworkload, -⟩ := c.plan_cases hplan
  by_cases hblock : plan.budgetStatus = .Block
  · refine .of_true (Or.inl hblock) ?_
    simp [execute, hplan, hblock, record, htelemetry, ExecutionEvent.isRecord]
  · cases hmodel : plan.selectedModelName with
    | none =>
        refine .of_true (Or.inr (Or.inl rfl)) ?_
        simp [execute, hplan, hblock, hmodel, record, htelemetry, ExecutionEvent.isRecord]
    | some model =>
        have hexecution := executePlan_recordCount htelemetry hworkload model
        simpa [execute, hplan, hblock, hmodel, recordCount] using hexecution

/-- **No execution is recorded twice.** -/
theorem execute_records_at_most_once (htelemetry : c.telemetry = true)
    (request : OrchestrationRequest) (principal : Principal) (requestId traceId : String) :
    recordCount (c.execute request principal requestId traceId) ≤ 1 := by
  cases hplan : c.plan request principal requestId traceId with
  | error failure => simp [execute, hplan]
  | ok plan => exact (execute_recordCount htelemetry hplan).le_one

/-- **An execution is recorded once exactly when it ends in one of the ways that write a
    record.** -/
theorem recorded_once_iff (htelemetry : c.telemetry = true) (request : OrchestrationRequest)
    (principal : Principal) (requestId traceId : String) :
    c.RecordedOnce request principal requestId traceId
      ↔ c.EveryExitRecords request principal requestId traceId :=
  forall₂_congr fun _ hplan => (execute_recordCount htelemetry hplan).eq_one_iff

/-- The small deployment's answer is recorded. -/
theorem small_deployment_records :
    smallDeployment.EveryExitRecords supplyChainRequest engineer "r1" "r1" :=
  (recorded_once_iff rfl supplyChainRequest engineer "r1" "r1").mp fun _ _ => by decide +kernel

end Collaborators

/-- The small deployment while the provider is down. -/
def providerDown : Collaborators where
  __ := smallDeployment
  gateway _ _ := .error (.ModelGatewayError "model_gateway_unavailable")

/-- **A failed fallback leaves no record.**  Both models are called, both calls fail, and
    telemetry hears of neither. -/
theorem failed_fallback_unrecorded :
    ((providerDown.execute supplyChainRequest engineer "r1" "r1").events.map
        ExecutionEvent.isModelCall) = [true, true]
      ∧ Collaborators.recordCount
          (providerDown.execute supplyChainRequest engineer "r1" "r1") = 0
      ∧ providerDown.telemetry = true
      ∧ ¬ providerDown.RecordedOnce supplyChainRequest engineer "r1" "r1" := by
  have hcount : Collaborators.recordCount
      (providerDown.execute supplyChainRequest engineer "r1" "r1") = 0 := by
    decide +kernel
  have hplanned : (providerDown.plan supplyChainRequest engineer "r1" "r1").toOption.isSome
      = true := by
    decide +kernel
  refine ⟨by decide +kernel, hcount, rfl, fun hrecorded => ?_⟩
  obtain ⟨plan, hplan⟩ := Fallible.toOption_isSome_iff.mp hplanned
  have hone := hrecorded plan hplan
  rw [hcount] at hone
  cases hone

end CostPlatform
