import CostPlatform.Library.Traced
import CostPlatform.Orchestrator.Plan

/-!
# Execution

Steps 21 to 23 of the orchestrator, as a traced computation: its events are the calls to the
gateway and the records handed to telemetry, in order.
-/

namespace CostPlatform

open PyJson

/-! ## Results and events -/

/-- The `result` object of an answer; a quality check adds its parsed fields. -/
structure ResultData where
  content : String
  finishReason : Option String
  quality : Option QualityResult
  deriving DecidableEq, Repr

/-- Normalized outcome returned to the API layer. -/
structure ExecutionResult where
  requestId : String
  traceId : Option String
  plan : ExecutionPlan
  result : ResultData
  inputTokens : Option Int
  outputTokens : Option Int
  totalTokens : Option Int
  usageProvenance : String
  costAmount : Option ℚ
  costCurrency : Option String
  costProvenance : String
  qualityScore : Option ℚ
  fallbackUsed : Bool
  attempts : Int
  imageCount : Int
  toolCalls : Int
  contextTokens : Option Int
  modelLatencyMs : Option ℚ
  retryCount : Int
  guardrailDecision : Option String
  deriving DecidableEq, Repr

/-- What `record_execution` is called with. -/
structure TelemetryRecord where
  plan : ExecutionPlan
  outcome : String
  result : Option ExecutionResult := none
  errorCode : Option String := none
  guardrailDecision : Option String := none
  deriving DecidableEq, Repr

inductive ExecutionEvent where
  | ModelCall (role : ModelRole) (request : ModelRequest)
  | Record (record : TelemetryRecord)
  deriving DecidableEq, Repr

def ExecutionEvent.isModelCall : ExecutionEvent → Bool
  | .ModelCall _ _ => true
  | .Record _ => false

def ExecutionEvent.isRecord : ExecutionEvent → Bool
  | .ModelCall _ _ => false
  | .Record _ => true

abbrev Execution (α : Type) := Traced ExecutionEvent Failure α

namespace Collaborators

variable (c : Collaborators)

/-- Step 22.  A telemetry failure never fails the business call. -/
def record (entry : TelemetryRecord) : Execution Unit :=
  if c.telemetry then Traced.perform (.Record entry) (.ok ()) else pure ()

/-! ## The model request -/

/-- The pattern `^image/[a-zA-Z0-9.+-]+$`. -/
def mediaTypeValid (mediaType : String) : Bool :=
  let subtype := mediaType.toList.drop 6
  "image/".toList.isPrefixOf mediaType.toList && !subtype.isEmpty
    && subtype.all fun c => c.isAlphanum || c = '.' || c = '+' || c = '-'

def renderPrompt (workloadType : String) (payload : List (String × Json)) :
    Except Failure String :=
  if workloadType = "quality_check" then .ok (buildQualityPrompt c.runtime payload)
  else match c.runtime.jsonDumps (.Dict payload) with
    | .ok text => .ok text
    | .error exception => .error (.Other exception)

/-- The request for the plan's model.  Building it validates the media types and the model name. -/
def buildModelRequest (plan : ExecutionPlan) (model : String) (request : OrchestrationRequest) :
    Except Failure ModelRequest := do
  let promptText ← c.renderPrompt plan.workloadType request.payload
  Fallible.require (∀ image ∈ request.imageBytes, mediaTypeValid image.2 = true)
    (.Other "ValidationError")
  Fallible.require (model ≠ "") (.Other "ValidationError")
  return {
    multimodal := !request.imageBytes.isEmpty
    model := model
    content :=
      if request.imageBytes.isEmpty then .Text promptText
      else .Parts (.TextPart promptText
        :: request.imageBytes.map fun (data, mediaType) => .ImagePart data mediaType)
    requestId := plan.requestId
    traceId := plan.traceId
    responseFormat := if plan.workloadType = "quality_check" then .JsonObject else .Text }

/-! ## The stages of an execution -/

/-- Step 19.  A refusal is recorded, any other exception is not. -/
def guardInput (plan : ExecutionPlan) (request : OrchestrationRequest) : Execution Unit :=
  match c.guardrails with
  | none => pure ()
  | some guardrails =>
      Traced.attempt (Traced.silent (guardrails.checkInput request.payload)) fun failure =>
        match failure with
        | .GuardrailViolation code decision => do
            c.record { plan := plan, outcome := "error", errorCode := some code,
                       guardrailDecision := some decision }
            Traced.raise failure
        | _ => Traced.raise failure

/-- The next-best candidate after the one that just failed. -/
def fallbackModel (request : OrchestrationRequest) (plan : ExecutionPlan) :
    Except Failure (Option ModelRegistryEntry) := do
  let candidates ← c.findForWorkload .Fallback request.workloadType none
  let remaining := candidates.filter fun candidate => some candidate.id ≠ plan.selectedModelId
  return selectModel remaining (plan.budgetStatus = .Downgrade)

/-- The plan with another model.  Its limits stay as they are. -/
def withModel (plan : ExecutionPlan) (entry : ModelRegistryEntry) (note : String) :
    ExecutionPlan :=
  { plan with
    selectedModelId := some entry.id
    selectedModelName := some entry.modelName
    decisions := plan.decisions ++ [note ++ "_model=" ++ entry.modelName] }

/-- An answer, the plan it was given under, and whether a fallback gave it. -/
structure Answered where
  response : TextGenerationResponse
  plan : ExecutionPlan
  fallbackUsed : Bool

/-- Step 21.  A gateway failure is answered with one attempt on the fallback, if there is one. -/
def callModel (plan : ExecutionPlan) (request : OrchestrationRequest)
    (modelRequest : ModelRequest) : Execution Answered :=
  Traced.attempt
    (do
      let response ←
        Traced.perform (.ModelCall .Primary modelRequest) (c.gateway .Primary modelRequest)
      return { response := response, plan := plan, fallbackUsed := false })
    fun failure =>
      match failure with
      | .ModelGatewayError code => do
          match ← Traced.silent (c.fallbackModel request plan) with
          | none =>
              c.record { plan := plan, outcome := "error", errorCode := some code }
              Traced.raise failure
          | some entry =>
              let fallbackRequest := { modelRequest with model := entry.modelName }
              let response ← Traced.perform (.ModelCall .Fallback fallbackRequest)
                (c.gateway .Fallback fallbackRequest)
              return { response := response, plan := withModel plan entry "fallback",
                       fallbackUsed := true }
      | _ => Traced.raise failure

/-- Step 19b.  The decision that goes on record, if a guardrail ran. -/
def guardOutput (response : TextGenerationResponse) : Except Failure (Option String) :=
  match c.guardrails with
  | none => .ok none
  | some guardrails => do
      guardrails.checkOutput response.content
      return some "ALLOW"

/-- The parsed fields of a quality check's answer. -/
def parseAnswer (workloadType content : String) : Except Failure (Option QualityResult) :=
  if workloadType = "quality_check" then
    match parseQualityResponse c.runtime content with
    | .ok parsed => .ok (some parsed)
    | .error exception => .error (.Other exception)
  else .ok none

/-- Build the normalized result. -/
def normalize (answered : Answered) (imageCount : Int) (guardrailDecision : Option String) :
    Except Failure ExecutionResult := do
  let plan := answered.plan
  let response := answered.response
  let quality ← c.parseAnswer plan.workloadType response.content
  return {
    requestId := plan.requestId
    traceId := plan.traceId
    plan := plan
    result := { content := response.content, finishReason := response.finishReason,
                quality := quality }
    inputTokens := response.usage.inputTokens
    outputTokens := response.usage.outputTokens
    totalTokens := response.usage.totalTokens
    usageProvenance := response.usage.provenance.value
    costAmount := plan.estimatedCost
    costCurrency := plan.estimatedCostCurrency
    costProvenance := if plan.estimatedCost.isSome then "ESTIMATED" else "UNAVAILABLE"
    qualityScore := quality.bind QualityResult.confidence
    fallbackUsed := answered.fallbackUsed
    attempts := response.attempts
    imageCount := imageCount
    toolCalls := 0
    contextTokens := none
    modelLatencyMs := some response.latencyMs
    retryCount := max (response.attempts - 1) 0
    guardrailDecision := guardrailDecision }

/-- Steps 22 and 23. -/
def deliver (request : OrchestrationRequest) (answered : Answered) : Execution ExecutionResult := do
  let decision ← Traced.silent (c.guardOutput answered.response)
  let result ← Traced.silent (c.normalize answered request.imageCount decision)
  c.record { plan := answered.plan, outcome := "success", result := some result }
  return result

def executePlan (plan : ExecutionPlan) (model : String) (request : OrchestrationRequest) :
    Execution ExecutionResult := do
  c.guardInput plan request
  let modelRequest ← Traced.silent (c.buildModelRequest plan model request)
  let answered ← c.callModel plan request modelRequest
  c.deliver request answered

/-- Run the full pipeline for one request. -/
def execute (request : OrchestrationRequest) (principal : Principal) (requestId traceId : String) :
    Execution ExecutionResult := do
  let plan ← Traced.silent (c.plan request principal requestId traceId)
  if plan.budgetStatus = .Block then
    c.record { plan := plan, outcome := "blocked" }
    Traced.raise (.BudgetBlocked plan.budgetStatus)
  else
    match plan.selectedModelName with
    | none =>
        c.record { plan := plan, outcome := "no_model" }
        Traced.raise .NoCompatibleModel
    | some model => c.executePlan plan model request

/-! ## What each stage does -/

variable {c}

lemma record_result (entry : TelemetryRecord) : (c.record entry).result = .ok () := by
  simp only [record]
  split_ifs <;> rfl

lemma record_events (entry : TelemetryRecord) :
    (c.record entry).events = if c.telemetry then [.Record entry] else [] := by
  simp only [record]
  split_ifs <;> rfl

/-- Recording something and giving up leaves that record at most. -/
lemma mem_refuse {α : Type} {entry : TelemetryRecord} {failure : Failure} {event : ExecutionEvent}
    (h : event ∈ (do c.record entry; Traced.raise failure : Execution α).events) :
    event = .Record entry := by
  rcases Traced.mem_bind_events.mp h with hentry | ⟨_, -, hraise⟩
  · rw [record_events] at hentry
    split_ifs at hentry
    · exact List.mem_singleton.mp hentry
    · cases hentry
  · cases hraise

lemma refuse_result {α : Type} (entry : TelemetryRecord) (failure : Failure) :
    (do c.record entry; Traced.raise failure : Execution α).result = .error failure := by
  simp only [record]
  split_ifs
  · rfl
  · rfl

/-- The input guardrail, where there is one, lets the payload through. -/
def InputAccepted (c : Collaborators) (request : OrchestrationRequest) : Prop :=
  ∀ guardrails ∈ c.guardrails, guardrails.checkInput request.payload = .ok ()

lemma guardInput_result_ok_iff {plan : ExecutionPlan} {request : OrchestrationRequest} :
    (c.guardInput plan request).result = .ok () ↔ c.InputAccepted request := by
  cases hguardrails : c.guardrails with
  | none => simp [guardInput, InputAccepted, hguardrails]
  | some guardrails =>
      cases hcheck : guardrails.checkInput request.payload with
      | ok u => simp [guardInput, InputAccepted, hguardrails, hcheck]
      | error failure =>
          cases failure <;>
            simp [guardInput, InputAccepted, hguardrails, hcheck, Traced.bind_result_eq_ok]

lemma guardInput_of_accepted {plan : ExecutionPlan} {request : OrchestrationRequest}
    (h : c.InputAccepted request) : c.guardInput plan request = ⟨[], .ok ()⟩ := by
  cases hguardrails : c.guardrails with
  | none => simp [guardInput, hguardrails]
  | some guardrails => simp [guardInput, hguardrails, h guardrails hguardrails]

/-- The input guardrail calls no model. -/
lemma guardInput_events_isRecord {plan : ExecutionPlan} {request : OrchestrationRequest}
    {event : ExecutionEvent} (h : event ∈ (c.guardInput plan request).events) :
    event.isModelCall = false := by
  cases hguardrails : c.guardrails with
  | none => simp [guardInput, hguardrails] at h
  | some guardrails =>
      cases hcheck : guardrails.checkInput request.payload with
      | ok u => simp [guardInput, hguardrails, hcheck] at h
      | error failure =>
          cases failure <;>
            simp [guardInput, hguardrails, hcheck, Traced.mem_bind_events, record_events,
              record_result] at h
          case GuardrailViolation code decision =>
            rw [h.2]
            rfl

/-- The prompt renders and every image has a valid media type. -/
def PromptBuilds (c : Collaborators) (request : OrchestrationRequest) : Prop :=
  (∃ text, c.renderPrompt request.workloadType request.payload = .ok text)
    ∧ ∀ image ∈ request.imageBytes, mediaTypeValid image.2 = true

lemma buildModelRequest_succeeds_iff {plan : ExecutionPlan} {model : String}
    {request : OrchestrationRequest} (hworkload : plan.workloadType = request.workloadType) :
    (∃ modelRequest, c.buildModelRequest plan model request = .ok modelRequest)
      ↔ c.PromptBuilds request ∧ model ≠ "" := by
  simp only [buildModelRequest, Fallible.bind_eq_ok, Fallible.require_eq_ok, PromptBuilds,
    hworkload]
  refine ⟨fun h => ?_, fun h => ?_⟩
  · obtain ⟨_, text, htext, _, himages, _, hmodel, _⟩ := h
    exact ⟨⟨⟨text, htext⟩, himages⟩, hmodel⟩
  · obtain ⟨⟨⟨text, htext⟩, himages⟩, hmodel⟩ := h
    exact ⟨_, text, htext, (), himages, (), hmodel, rfl⟩

/-- The first thing the model stage does is call the plan's own model. -/
lemma callModel_calls_primary (plan : ExecutionPlan) (request : OrchestrationRequest)
    (modelRequest : ModelRequest) :
    ExecutionEvent.ModelCall .Primary modelRequest
      ∈ (c.callModel plan request modelRequest).events := by
  cases hgateway : c.gateway .Primary modelRequest with
  | ok response => simp [callModel, hgateway]
  | error failure => simp [callModel, hgateway]

lemma guardOutput_succeeds_iff {response : TextGenerationResponse} :
    (∃ decision, c.guardOutput response = .ok decision)
      ↔ ∀ guardrails ∈ c.guardrails, guardrails.checkOutput response.content = .ok () := by
  cases hguardrails : c.guardrails with
  | none => simp [guardOutput, hguardrails]
  | some guardrails =>
      cases hcheck : guardrails.checkOutput response.content with
      | ok u => simp [guardOutput, hguardrails, hcheck, pure, Except.pure]
      | error failure => simp [guardOutput, hguardrails, hcheck]

/-- Only parsing a quality check's answer can fail. -/
lemma normalize_succeeds_iff {answered : Answered} {imageCount : Int}
    {guardrailDecision : Option String} :
    (∃ result, c.normalize answered imageCount guardrailDecision = .ok result)
      ↔ (answered.plan.workloadType = "quality_check" →
        ∃ parsed, parseQualityResponse c.runtime answered.response.content = .ok parsed) := by
  by_cases hquality : answered.plan.workloadType = "quality_check"
  · cases hparsed : parseQualityResponse c.runtime answered.response.content with
    | ok parsed => simp [normalize, parseAnswer, hquality, hparsed, pure, Except.pure]
    | error failure => simp [normalize, parseAnswer, hquality, hparsed]
  · simp [normalize, parseAnswer, hquality, pure, Except.pure]

/-- The output guardrail, where there is one, lets the answer through, and a quality check's
    answer can be parsed. -/
def ResponseAccepted (c : Collaborators) (request : OrchestrationRequest)
    (response : TextGenerationResponse) : Prop :=
  (∀ guardrails ∈ c.guardrails, guardrails.checkOutput response.content = .ok ())
    ∧ (request.workloadType = "quality_check" →
      ∃ parsed, parseQualityResponse c.runtime response.content = .ok parsed)

/-- An answer is accepted when nothing is left that could fail. -/
lemma responseAccepted_iff {request : OrchestrationRequest} {answered : Answered}
    (hworkload : answered.plan.workloadType = request.workloadType) :
    c.ResponseAccepted request answered.response
      ↔ (∃ decision, c.guardOutput answered.response = .ok decision)
        ∧ ∀ decision, ∃ result,
          c.normalize answered request.imageCount decision = .ok result := by
  simp only [ResponseAccepted, guardOutput_succeeds_iff, normalize_succeeds_iff, hworkload,
    forall_const]

lemma normalize_plan {answered : Answered} {imageCount : Int} {decision : Option String}
    {result : ExecutionResult} (h : c.normalize answered imageCount decision = .ok result) :
    result.plan = answered.plan ∧ result.fallbackUsed = answered.fallbackUsed := by
  obtain ⟨quality, -, h⟩ := Fallible.bind_eq_ok.mp h
  cases Except.ok.inj h
  exact ⟨rfl, rfl⟩

/-- An answer is delivered where its output is let through and it normalizes. -/
lemma deliver_result_eq_ok {request : OrchestrationRequest} {answered : Answered}
    {result : ExecutionResult} :
    (c.deliver request answered).result = .ok result
      ↔ ∃ decision, c.guardOutput answered.response = .ok decision
        ∧ c.normalize answered request.imageCount decision = .ok result := by
  constructor
  · intro h
    obtain ⟨decision, hguard, h⟩ := Traced.bind_result_eq_ok.mp h
    obtain ⟨normalized, hnormal, h⟩ := Traced.bind_result_eq_ok.mp h
    obtain ⟨_, _, h⟩ := Traced.bind_result_eq_ok.mp h
    cases Except.ok.inj h
    exact ⟨decision, hguard, hnormal⟩
  · rintro ⟨decision, hguard, hnormal⟩
    refine Traced.bind_result_eq_ok.mpr ⟨decision, hguard, ?_⟩
    refine Traced.bind_result_eq_ok.mpr ⟨result, hnormal, ?_⟩
    exact Traced.bind_result_eq_ok.mpr ⟨(), record_result _, rfl⟩

/-- A delivered answer was accepted, and names its own plan. -/
lemma deliver_result_cases {request : OrchestrationRequest} {answered : Answered}
    {result : ExecutionResult} (hworkload : answered.plan.workloadType = request.workloadType)
    (h : (c.deliver request answered).result = .ok result) :
    c.ResponseAccepted request answered.response
      ∧ result.plan = answered.plan ∧ result.fallbackUsed = answered.fallbackUsed := by
  obtain ⟨decision, hguard, hnormal⟩ := deliver_result_eq_ok.mp h
  refine ⟨(responseAccepted_iff hworkload).mpr ⟨⟨decision, hguard⟩, fun other => ?_⟩, ?_⟩
  · rw [normalize_succeeds_iff, ← normalize_succeeds_iff]
    exact ⟨result, hnormal⟩
  · exact normalize_plan hnormal

lemma deliver_succeeds {request : OrchestrationRequest} {answered : Answered}
    (hworkload : answered.plan.workloadType = request.workloadType)
    (haccepted : c.ResponseAccepted request answered.response) :
    ∃ result, (c.deliver request answered).result = .ok result := by
  obtain ⟨⟨decision, hguard⟩, hnormal⟩ := (responseAccepted_iff hworkload).mp haccepted
  obtain ⟨result, hresult⟩ := hnormal decision
  exact ⟨result, deliver_result_eq_ok.mpr ⟨decision, hguard, hresult⟩⟩

/-- **Who answers.**  The plan's own model, or the fallback after a gateway failure. -/
theorem callModel_result_iff {plan : ExecutionPlan} {request : OrchestrationRequest}
    {modelRequest : ModelRequest} {answered : Answered} :
    (c.callModel plan request modelRequest).result = .ok answered
      ↔ (∃ response, c.gateway .Primary modelRequest = .ok response
          ∧ answered = ⟨response, plan, false⟩)
        ∨ ∃ code entry response,
          c.gateway .Primary modelRequest = .error (.ModelGatewayError code)
          ∧ c.fallbackModel request plan = .ok (some entry)
          ∧ c.gateway .Fallback { modelRequest with model := entry.modelName } = .ok response
          ∧ answered = ⟨response, withModel plan entry "fallback", true⟩ := by
  cases hprimary : c.gateway .Primary modelRequest with
  | ok response => simp [callModel, hprimary, eq_comm]
  | error failure =>
      cases failure with
      | ModelGatewayError code =>
          cases hfallback : c.fallbackModel request plan with
          | error lookup => simp [callModel, hprimary, hfallback]
          | ok found =>
              cases found with
              | none => simp [callModel, hprimary, hfallback, Traced.bind_result_eq_ok]
              | some entry =>
                  cases hsecond : c.gateway .Fallback
                      { modelRequest with model := entry.modelName } with
                  | error second => simp [callModel, hprimary, hfallback, hsecond]
                  | ok response =>
                      simp [callModel, hprimary, hfallback, hsecond, eq_comm]
      | _ => simp [callModel, hprimary]

/-- **A model is called exactly when the input was accepted and the request could be built.** -/
theorem executePlan_calls_iff {plan : ExecutionPlan} {model : String}
    {request : OrchestrationRequest} :
    (∃ event ∈ (c.executePlan plan model request).events, event.isModelCall = true)
      ↔ c.InputAccepted request
        ∧ ∃ modelRequest, c.buildModelRequest plan model request = .ok modelRequest := by
  refine ⟨fun ⟨event, hevent, hcall⟩ => ?_, fun ⟨haccepted, modelRequest, hbuilt⟩ => ?_⟩
  · rw [executePlan, Traced.mem_bind_events] at hevent
    rcases hevent with hguard | ⟨_, haccepted, hevent⟩
    · rw [guardInput_events_isRecord hguard] at hcall
      cases hcall
    · rw [Traced.mem_bind_events] at hevent
      rcases hevent with hsilent | ⟨modelRequest, hbuilt, -⟩
      · cases hsilent
      · exact ⟨guardInput_result_ok_iff.mp haccepted, modelRequest, hbuilt⟩
  · refine ⟨.ModelCall .Primary modelRequest, ?_, rfl⟩
    refine Traced.mem_bind_events.mpr
      (Or.inr ⟨(), guardInput_result_ok_iff.mpr haccepted, ?_⟩)
    refine Traced.mem_bind_events.mpr (Or.inr ⟨modelRequest, hbuilt, ?_⟩)
    exact Traced.mem_bind_events.mpr (Or.inl (callModel_calls_primary plan request modelRequest))

end Collaborators

/-! ## A small deployment -/

/-- An interpreter that has only empty objects to print. -/
def emptyRuntime : Runtime where
  jsonLoads _ := .error .JSONDecodeError
  jsonDumps _ := .ok "\x7b\x7d"
  float _ := .error .TypeError
  repr _ := "\x7b\x7d"

/-- Two reasoning models, the better of which has the larger window. -/
def twoModels : ModelRegistry where
  models :=
    { rows :=
        [ { id := "m1", modelName := "alpha", capability := .Reasoning,
            qualityScore := some (9 / 10), maxContextTokens := some 8000 },
          { id := "m2", modelName := "beta", capability := .Reasoning,
            qualityScore := some (1 / 2), maxContextTokens := some 4000 } ]
      nodup := by decide }
  namesUnique := by decide

def mockResponse (request : ModelRequest) : TextGenerationResponse where
  model := request.model
  provider := "mock"
  latencyMs := 5
  content := "stock is sufficient"

/-- No budgets, no policies, no guardrails, a gateway that answers, and telemetry. -/
def smallDeployment : Collaborators where
  runtime := emptyRuntime
  gateway _ request := .ok (mockResponse request)
  findForWorkload := twoModels.service
  evaluateBudget _ := .ok { outcome := .Allow, deciding := none, evaluations := [] }
  telemetry := true

def supplyChainRequest : OrchestrationRequest where
  workloadType := "supply_chain"
  businessPriority := .Normal
  payload := []

def engineer : Principal where
  subject := "user-1"
  tenantId := "t1"
  assignments := []

/-- The better model answers, and one record is written. -/
example : ((smallDeployment.execute supplyChainRequest engineer "r1" "r1").events.map
      ExecutionEvent.isModelCall, (smallDeployment.execute supplyChainRequest engineer "r1"
        "r1").result.toOption.map fun result => result.plan.selectedModelName)
    = ([true, false], some (some "alpha")) := by
  decide +kernel

end CostPlatform
