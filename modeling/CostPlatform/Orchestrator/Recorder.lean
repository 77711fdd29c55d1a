import CostPlatform.Cost.CostEngine
import CostPlatform.Orchestrator.Telemetry

/-!
# The telemetry recorder

Every record of an execution becomes a usage event and a linked cost event.  The recorder keeps
what the result tells it of the cost (`carried_buildCostEvent`), but the result never tells it
anything: `normalize` copies the plan's estimate, and no plan has one (`unpriced_of_mem_execute`).
So the cost engine's figure for the same usage and the same model is lost in every execution that
has one (`cost_of_priced_success_lost`).
-/

namespace CostPlatform

open Calendar (Timestamp)

/-! ## The rows -/

/-- A row of `usage_events`. -/
structure UsageEventRow extends UsageEvent where
  requestId : String
  traceId : Option String
  userId : Option String
  inputTokens : Option Int
  outputTokens : Option Int
  contextTokens : Option Int
  imageCount : Option Int
  toolCalls : Option Int
  executionTimeMs : Option Int
  modelLatencyMs : Option Int
  status : String
  errorCode : Option String
  retryCount : Option Int
  fallbackUsed : Bool
  qualityScore : Option ℚ
  businessPriority : String
  riskLevel : String
  routingPolicyVersion : Option Nat
  budgetDecision : String
  guardrailDecision : Option String
  deriving DecidableEq, Repr

/-- A `CostEvent` as it is built.  Its currency may still be missing. -/
structure NewCostEvent where
  id : String
  usageEventId : String
  estimatedCost : Option ℚ
  actualCost : Option ℚ
  currency : Option String
  provenance : Provenance
  deriving DecidableEq, Repr

/-- The `CHECK` constraints on the amounts. -/
def NewCostEvent.AmountsValid (event : NewCostEvent) : Prop :=
  (∀ amount ∈ event.estimatedCost, 0 ≤ amount) ∧ ∀ amount ∈ event.actualCost, 0 ≤ amount

instance (event : NewCostEvent) : Decidable event.AmountsValid :=
  inferInstanceAs (Decidable (_ ∧ _))

/-- The row that is inserted.  A missing currency takes the column's default. -/
def NewCostEvent.insert (event : NewCostEvent) : Option CostEvent :=
  if h : event.AmountsValid then
    some
      { id := event.id
        usageEventId := event.usageEventId
        estimatedCost := event.estimatedCost
        actualCost := event.actualCost
        currency := event.currency.getD "USD"
        provenance := event.provenance
        estimatedNonneg := h.1
        actualNonneg := h.2 }
  else none

/-! ## Building the rows -/

/-- Orchestrator outcome to `usage_events.status`. -/
def statusByOutcome (outcome : String) : String :=
  match outcome with
  | "success" => "SUCCESS"
  | "blocked" => "BLOCKED"
  | "no_model" => "FAILURE"
  | "error" => "FAILURE"
  | _ => "FAILURE"

/-- `int(value)` cuts the fraction off. -/
def asInt (value : ℚ) : Int := value.num.tdiv value.den

def buildUsageEvent (id : String) (timestamp : Timestamp) (durationMs : Option ℚ)
    (record : TelemetryRecord) : UsageEventRow :=
  let plan := record.plan
  let result := record.result
  { id := id
    requestId := plan.requestId
    traceId := plan.traceId
    tenantId := plan.tenantId
    userId := plan.userId
    plantId := plan.plantId
    departmentId := plan.departmentId
    workloadId := plan.workloadId
    agentId := plan.selectedAgentId
    modelId := plan.selectedModelId
    timestamp := timestamp
    inputTokens := result.bind ExecutionResult.inputTokens
    outputTokens := result.bind ExecutionResult.outputTokens
    totalTokens := result.bind ExecutionResult.totalTokens
    -- what was consumed, not the plan's ceiling
    contextTokens := result.bind ExecutionResult.contextTokens
    imageCount := result.map ExecutionResult.imageCount
    toolCalls := result.map ExecutionResult.toolCalls
    executionTimeMs := durationMs.map asInt
    modelLatencyMs := (result.bind ExecutionResult.modelLatencyMs).map asInt
    status := statusByOutcome record.outcome
    errorCode := record.errorCode
    retryCount := result.map ExecutionResult.retryCount
    fallbackUsed := (result.map ExecutionResult.fallbackUsed).getD false
    qualityScore := result.bind ExecutionResult.qualityScore
    businessPriority := plan.businessPriority.value
    riskLevel := plan.riskLevel.value
    routingPolicyVersion := plan.routingPolicyVersion
    budgetDecision := plan.budgetStatus.value
    guardrailDecision := (PyString.truthy record.guardrailDecision).or
      (result.bind ExecutionResult.guardrailDecision) }

/-- A provenance that is not one of the three counts as unavailable. -/
def recordedProvenance (result : Option ExecutionResult) : Provenance :=
  match result.map ExecutionResult.costProvenance with
  | some "ACTUAL" => .Actual
  | some "ESTIMATED" => .Estimated
  | _ => .Unavailable

/-- Written even when nothing could be costed. -/
def buildCostEvent (id usageEventId : String) (record : TelemetryRecord) : NewCostEvent :=
  let provenance := recordedProvenance record.result
  let amount := record.result.bind ExecutionResult.costAmount
  { id := id
    usageEventId := usageEventId
    estimatedCost := if provenance = .Estimated then amount else record.plan.estimatedCost
    actualCost := if provenance = .Actual then amount else none
    currency := (PyString.truthy (record.result.bind ExecutionResult.costCurrency)).or
      record.plan.estimatedCostCurrency
    provenance := provenance }

/-- What the surroundings of a record supply. -/
structure RecordingContext where
  usageEventId : String
  costEventId : String
  now : Timestamp
  durationMs : Option ℚ

/-- Both events or neither. -/
def recordExecution (context : RecordingContext) (record : TelemetryRecord) :
    Option (UsageEventRow × CostEvent) :=
  (buildCostEvent context.costEventId context.usageEventId record).insert.map fun cost =>
    (buildUsageEvent context.usageEventId context.now context.durationMs record, cost)

/-- The rows that an execution leaves. -/
def recordedRows {α : Type} (context : RecordingContext) (execution : Execution α) :
    List (UsageEventRow × CostEvent) :=
  execution.events.filterMap fun event =>
    match event with
    | .ModelCall _ _ => none
    | .Record record => recordExecution context record

lemma mem_recordedRows {α : Type} {context : RecordingContext} {execution : Execution α}
    {row : UsageEventRow × CostEvent} :
    row ∈ recordedRows context execution
      ↔ ∃ record, ExecutionEvent.Record record ∈ execution.events
        ∧ recordExecution context record = some row := by
  rw [recordedRows, List.mem_filterMap]
  constructor
  · rintro ⟨event, hevent, hrow⟩
    cases event with
    | ModelCall role modelRequest => cases hrow
    | Record record => exact ⟨record, hevent, hrow⟩
  · rintro ⟨record, hrecord, hrow⟩
    exact ⟨.Record record, hrecord, hrow⟩

/-- The figure a cost event reports: the column its provenance selects. -/
def CostEvent.carried (cost : CostEvent) : Option ℚ :=
  match cost.provenance with
  | .Actual => cost.actualCost
  | .Estimated => cost.estimatedCost
  | .Unavailable => none

/-! ## What is recorded of an execution -/

namespace Collaborators

variable {c : Collaborators}

/-- A record of an execution of this plan: under the plan or its fallback, and with a result only
    if the gateway gave the answer. -/
structure RecordOf (c : Collaborators) (request : OrchestrationRequest) (plan : ExecutionPlan)
    (record : TelemetryRecord) : Prop where
  plan_eq : record.plan = plan ∨ ∃ entry, record.plan = withModel plan entry "fallback"
  normalized : ∀ result ∈ record.result, ∃ role modelRequest response fallbackUsed decision,
    c.gateway role modelRequest = .ok response
      ∧ c.normalize ⟨response, record.plan, fallbackUsed⟩ request.imageCount decision = .ok result

lemma RecordOf.of_refusal {request : OrchestrationRequest} {plan : ExecutionPlan}
    {record : TelemetryRecord} (hplan : record.plan = plan) (hresult : record.result = none) :
    c.RecordOf request plan record where
  plan_eq := Or.inl hplan
  normalized result h := by
    rw [hresult] at h
    cases h

lemma eq_of_mem_record {entry record : TelemetryRecord}
    (h : ExecutionEvent.Record record ∈ (c.record entry).events) : record = entry := by
  rw [record_events] at h
  split_ifs at h
  · exact ExecutionEvent.Record.inj (List.mem_singleton.mp h)
  · cases h

lemma guardInput_recordOf {request : OrchestrationRequest} {plan : ExecutionPlan}
    {record : TelemetryRecord}
    (h : ExecutionEvent.Record record ∈ (c.guardInput plan request).events) :
    c.RecordOf request plan record := by
  cases hguardrails : c.guardrails with
  | none =>
      rw [guardInput, hguardrails] at h
      cases h
  | some guardrails =>
      simp only [guardInput, hguardrails] at h
      cases hcheck : guardrails.checkInput request.payload with
      | ok u =>
          rw [hcheck] at h
          cases h
      | error failure =>
          rw [hcheck, Traced.silent_def, Traced.attempt_error, List.nil_append] at h
          cases failure with
          | GuardrailViolation code decision =>
              cases mem_refuse h
              exact .of_refusal rfl rfl
          | _ => cases h

lemma callModel_recordOf {request : OrchestrationRequest} {plan : ExecutionPlan}
    {modelRequest : ModelRequest} {record : TelemetryRecord}
    (h : ExecutionEvent.Record record ∈ (c.callModel plan request modelRequest).events) :
    c.RecordOf request plan record := by
  cases hprimary : c.gateway .Primary modelRequest with
  | ok response => simp [callModel, hprimary] at h
  | error failure =>
      cases failure with
      | ModelGatewayError code =>
          cases hfallback : c.fallbackModel request plan with
          | error lookup => simp [callModel, hprimary, hfallback] at h
          | ok found =>
              cases found with
              | none =>
                  simp only [callModel, hprimary, hfallback, Traced.perform_def,
                    Traced.error_bind, Traced.attempt_error, Traced.silent_def, Traced.ok_bind,
                    List.nil_append, List.singleton_append, List.mem_cons, reduceCtorEq,
                    false_or] at h
                  cases mem_refuse h
                  exact .of_refusal rfl rfl
              | some entry =>
                  cases hsecond : c.gateway .Fallback
                      { modelRequest with model := entry.modelName } with
                  | error second => simp [callModel, hprimary, hfallback, hsecond] at h
                  | ok response => simp [callModel, hprimary, hfallback, hsecond] at h
      | _ => simp [callModel, hprimary] at h

/-- Delivering an answer records it, normalized. -/
lemma deliver_recorded {request : OrchestrationRequest} {answered : Answered}
    {record : TelemetryRecord}
    (h : ExecutionEvent.Record record ∈ (c.deliver request answered).events) :
    record.plan = answered.plan
      ∧ ∃ decision result, c.normalize answered request.imageCount decision = .ok result
        ∧ record.result = some result := by
  rcases Traced.mem_bind_events.mp h with hguard | ⟨decision, -, h⟩
  · cases hguard
  rcases Traced.mem_bind_events.mp h with hnormal | ⟨result, hnormal, h⟩
  · cases hnormal
  rcases Traced.mem_bind_events.mp h with hrecord | ⟨_, -, hreturn⟩
  · cases eq_of_mem_record hrecord
    exact ⟨rfl, decision, result, hnormal, rfl⟩
  · cases hreturn

lemma executePlan_recordOf {request : OrchestrationRequest} {plan : ExecutionPlan}
    {model : String} {record : TelemetryRecord}
    (h : ExecutionEvent.Record record ∈ (c.executePlan plan model request).events) :
    c.RecordOf request plan record := by
  rcases Traced.mem_bind_events.mp h with hguard | ⟨_, -, h⟩
  · exact guardInput_recordOf hguard
  rcases Traced.mem_bind_events.mp h with hbuild | ⟨modelRequest, -, h⟩
  · cases hbuild
  rcases Traced.mem_bind_events.mp h with hcall | ⟨answered, hanswered, h⟩
  · exact callModel_recordOf hcall
  obtain ⟨hplan, decision, result, hnormal, hresult⟩ := deliver_recorded h
  rcases callModel_result_iff.mp hanswered with
    ⟨response, hgateway, rfl⟩ | ⟨_, entry, response, -, -, hgateway, rfl⟩
  · refine ⟨Or.inl hplan, fun other hother => ?_⟩
    rw [hresult] at hother
    cases hother
    exact ⟨_, _, response, false, decision, hgateway, hplan ▸ hnormal⟩
  · refine ⟨Or.inr ⟨entry, hplan⟩, fun other hother => ?_⟩
    rw [hresult] at hother
    cases hother
    exact ⟨_, _, response, true, decision, hgateway, hplan ▸ hnormal⟩

/-- **What is recorded of an execution** is recorded under its plan or the fallback of it, and a
    recorded result normalizes an answer of the gateway. -/
theorem execute_recordOf {request : OrchestrationRequest} {principal : Principal}
    {requestId traceId : String} {record : TelemetryRecord}
    (h : ExecutionEvent.Record record ∈ (c.execute request principal requestId traceId).events) :
    ∃ plan, c.plan request principal requestId traceId = .ok plan
      ∧ c.RecordOf request plan record := by
  rcases Traced.mem_bind_events.mp h with hplanned | ⟨plan, hplan, h⟩
  · cases hplanned
  refine ⟨plan, hplan, ?_⟩
  split_ifs at h
  · cases mem_refuse h
    exact .of_refusal rfl rfl
  · cases hmodel : plan.selectedModelName with
    | none =>
        rw [hmodel] at h
        cases mem_refuse h
        exact .of_refusal rfl rfl
    | some model =>
        rw [hmodel] at h
        exact executePlan_recordOf h

/-- A delivered result is on record. -/
lemma deliver_records (htelemetry : c.telemetry = true) {request : OrchestrationRequest}
    {answered : Answered} {result : ExecutionResult}
    (h : (c.deliver request answered).result = .ok result) :
    ∃ event ∈ (c.deliver request answered).events,
      event = .Record { plan := answered.plan, outcome := "success", result := some result } := by
  refine Traced.exists_event_of_bind h fun decision _ h => ?_
  refine Traced.exists_event_of_bind h fun normalized _ h => ?_
  obtain ⟨_, -, hreturn⟩ := Traced.bind_result_eq_ok.mp h
  obtain rfl : normalized = result := Except.ok.inj hreturn
  refine ⟨_, Traced.mem_bind_events.mpr (Or.inl ?_), rfl⟩
  rw [record_events, if_pos htelemetry]
  exact List.mem_singleton.mpr rfl

/-- **A result is recorded before it is returned.** -/
theorem exists_record_of_execute_ok (htelemetry : c.telemetry = true)
    {request : OrchestrationRequest} {principal : Principal} {requestId traceId : String}
    {result : ExecutionResult}
    (h : (c.execute request principal requestId traceId).result = .ok result) :
    ∃ event ∈ (c.execute request principal requestId traceId).events,
      ∃ record, event = .Record record ∧ record.result = some result := by
  refine Traced.exists_event_of_bind h fun plan _ h => ?_
  split_ifs at h ⊢ with hblock
  · rw [refuse_result] at h
    cases h
  · cases hmodel : plan.selectedModelName with
    | none =>
        rw [hmodel] at h
        dsimp only at h
        rw [refuse_result] at h
        cases h
    | some model =>
        rw [hmodel] at h
        refine Traced.exists_event_of_bind h fun _ _ h => ?_
        refine Traced.exists_event_of_bind h fun modelRequest _ h => ?_
        refine Traced.exists_event_of_bind h fun answered _ h => ?_
        obtain ⟨event, hevent, hrecord⟩ := deliver_records htelemetry h
        exact ⟨event, hevent, _, hrecord, rfl⟩

end Collaborators

/-! ## The figure on record -/

/-- **The recorder keeps the figure it is given**, where the provenance says that there is one. -/
theorem carried_buildCostEvent {context : RecordingContext} {record : TelemetryRecord}
    {usage : UsageEventRow} {cost : CostEvent}
    (h : recordExecution context record = some (usage, cost)) :
    cost.provenance = recordedProvenance record.result
      ∧ cost.carried = if cost.provenance = .Unavailable then none
          else record.result.bind ExecutionResult.costAmount := by
  obtain ⟨inserted, hinserted, hrow⟩ := Option.map_eq_some_iff.mp h
  cases hrow
  rw [NewCostEvent.insert] at hinserted
  split_ifs at hinserted
  cases hinserted
  refine ⟨rfl, ?_⟩
  cases hprovenance : recordedProvenance record.result with
  | Actual => simp [CostEvent.carried, buildCostEvent, hprovenance]
  | Estimated => simp [CostEvent.carried, buildCostEvent, hprovenance]
  | Unavailable => simp [CostEvent.carried, buildCostEvent, hprovenance]

namespace Collaborators

variable {c : Collaborators}

/-- A result of an execution comes without a cost. -/
lemma normalize_unpriced {answered : Answered} {imageCount : Int} {decision : Option String}
    {result : ExecutionResult} (hplan : answered.plan.estimatedCost = none)
    (h : c.normalize answered imageCount decision = .ok result) :
    result.costAmount = none ∧ result.costProvenance = "UNAVAILABLE" := by
  obtain ⟨quality, -, h⟩ := Fallible.bind_eq_ok.mp h
  cases Except.ok.inj h
  exact ⟨hplan, by rw [hplan]; rfl⟩

/-- **Every record of an execution is inserted, and its cost event carries no figure.** -/
theorem unpriced_of_mem_execute {request : OrchestrationRequest} {principal : Principal}
    {requestId traceId : String} {record : TelemetryRecord}
    (h : ExecutionEvent.Record record ∈ (c.execute request principal requestId traceId).events)
    (context : RecordingContext) :
    ∃ usage cost, recordExecution context record = some (usage, cost)
      ∧ cost.provenance = .Unavailable ∧ cost.carried = none := by
  obtain ⟨plan, hplan, hrecord⟩ := execute_recordOf h
  have hestimate : record.plan.estimatedCost = none := by
    rcases hrecord.plan_eq with heq | ⟨entry, heq⟩
    · rw [heq, c.plan_estimatedCost hplan]
    · rw [heq]
      show plan.estimatedCost = none
      exact c.plan_estimatedCost hplan
  have hprovenance : recordedProvenance record.result = .Unavailable := by
    cases hresult : record.result with
    | none => rfl
    | some result =>
        obtain ⟨_, _, response, fallbackUsed, decision, -, hnormal⟩ :=
          hrecord.normalized result hresult
        have hunpriced : result.costProvenance = "UNAVAILABLE" :=
          (normalize_unpriced hestimate hnormal).2
        rw [recordedProvenance, Option.map_some, hunpriced]
        rfl
  have hvalid : (buildCostEvent context.costEventId context.usageEventId record).AmountsValid := by
    simp [NewCostEvent.AmountsValid, buildCostEvent, hprovenance, hestimate]
  cases hrow : recordExecution context record with
  | none => simp [recordExecution, NewCostEvent.insert, hvalid] at hrow
  | some row =>
      obtain ⟨usage, cost⟩ := row
      obtain ⟨hcost, hcarried⟩ := carried_buildCostEvent hrow
      rw [hprovenance] at hcost
      rw [if_pos hcost] at hcarried
      exact ⟨usage, cost, rfl, hcost, hcarried⟩

/-- Rows are left exactly where something is recorded. -/
lemma recordedRows_ne_nil_iff {request : OrchestrationRequest} {principal : Principal}
    {requestId traceId : String} (context : RecordingContext) :
    recordedRows context (c.execute request principal requestId traceId) ≠ []
      ↔ 0 < recordCount (c.execute request principal requestId traceId) := by
  rw [recordCount, List.countP_pos_iff]
  constructor
  · intro hrows
    obtain ⟨row, hrow⟩ := List.exists_mem_of_ne_nil _ hrows
    obtain ⟨record, hrecord, -⟩ := mem_recordedRows.mp hrow
    exact ⟨.Record record, hrecord, rfl⟩
  · rintro ⟨event, hevent, hisRecord⟩
    cases event with
    | ModelCall role modelRequest => cases hisRecord
    | Record record =>
        obtain ⟨usage, cost, hrow, -⟩ := unpriced_of_mem_execute hevent context
        exact List.ne_nil_of_mem (mem_recordedRows.mpr ⟨record, hevent, hrow⟩)

/-- **A usage event carries the principal's tenant and the ids of the request.** -/
theorem recordedRows_ids {request : OrchestrationRequest} {principal : Principal}
    {requestId traceId : String} {context : RecordingContext} {row : UsageEventRow × CostEvent}
    (h : row ∈ recordedRows context (c.execute request principal requestId traceId)) :
    row.1.tenantId = some principal.tenantId ∧ row.1.plantId = request.plantId
      ∧ row.1.departmentId = request.departmentId := by
  obtain ⟨record, hrecord, hrow⟩ := mem_recordedRows.mp h
  obtain ⟨plan, hplan, hof⟩ := execute_recordOf hrecord
  have hids := c.plan_ids hplan
  obtain ⟨cost, -, rfl⟩ := Option.map_eq_some_iff.mp hrow
  show record.plan.tenantId = _ ∧ record.plan.plantId = _ ∧ record.plan.departmentId = _
  rcases hof.plan_eq with heq | ⟨entry, heq⟩
  · rw [heq]
    exact hids
  · rw [heq]
    exact hids

/-! ## The cost engine's figure -/

/-- A successful execution that is to be recorded, and the answer it rests on: both counts
    reported, by a model that the registry has a usable price for. -/
structure PricedSuccess (c : Collaborators) (registry : ModelRegistry) (baseCurrency : String)
    (execution : Execution ExecutionResult) (response : TextGenerationResponse)
    (entry : ModelRegistryEntry) (tokensIn tokensOut : Int) : Prop where
  serves : c.findForWorkload = registry.service
  recording : c.telemetry = true
  successful : ∃ result, execution.result = .ok result
  answered : ∃ role modelRequest, ExecutionEvent.ModelCall role modelRequest ∈ execution.events
    ∧ c.gateway role modelRequest = .ok response ∧ modelRequest.model = entry.modelName
  inputReported : response.usage.inputTokens = some tokensIn
  outputReported : response.usage.outputTokens = some tokensOut
  registered : entry ∈ registry.models.rows
  priced : (CostEngine.ModelPricing.fromRegistryEntry entry baseCurrency).isUsable = true

/-- What the cost engine makes of the usage that a provider reported for a registered model. -/
def reportedCost (baseCurrency : String) (entry : ModelRegistryEntry) (tokensIn tokensOut : Int) :
    CostEngine.CostComputation :=
  CostEngine.computeCost ⟨some tokensIn, some tokensOut, .ProviderReported⟩
    (CostEngine.ModelPricing.fromRegistryEntry entry baseCurrency) none none

/-- Total, provenance and currency are the computed ones. -/
structure CarriesComputedCost (cost : CostEvent) (computed : CostEngine.CostComputation) :
    Prop where
  total : cost.carried = computed.totalCost
  provenance : cost.provenance = computed.provenance
  currency : cost.currency = computed.currency

/-- Every priced success is on record with its computed cost. -/
def FaithfulCost (c : Collaborators) (registry : ModelRegistry) (baseCurrency : String)
    (request : OrchestrationRequest) (principal : Principal) (requestId traceId : String) : Prop :=
  ∀ response entry tokensIn tokensOut,
    c.PricedSuccess registry baseCurrency (c.execute request principal requestId traceId) response
      entry tokensIn tokensOut →
    ∀ context, ∀ row ∈ recordedRows context (c.execute request principal requestId traceId),
      CarriesComputedCost row.2 (reportedCost baseCurrency entry tokensIn tokensOut)

/-- **No priced success is on record with its computed cost**, and each is on record. -/
theorem cost_of_priced_success_lost {registry : ModelRegistry} {baseCurrency : String}
    {request : OrchestrationRequest} {principal : Principal} {requestId traceId : String}
    {response : TextGenerationResponse} {entry : ModelRegistryEntry} {tokensIn tokensOut : Int}
    (h : c.PricedSuccess registry baseCurrency (c.execute request principal requestId traceId)
      response entry tokensIn tokensOut)
    (context : RecordingContext) :
    recordedRows context (c.execute request principal requestId traceId) ≠ []
      ∧ ∀ row ∈ recordedRows context (c.execute request principal requestId traceId),
        ¬ CarriesComputedCost row.2 (reportedCost baseCurrency entry tokensIn tokensOut) := by
  constructor
  · obtain ⟨result, hresult⟩ := h.successful
    obtain ⟨event, hevent, record, rfl, -⟩ := exists_record_of_execute_ok h.recording hresult
    rw [recordedRows_ne_nil_iff, recordCount, List.countP_pos_iff]
    exact ⟨.Record record, hevent, rfl⟩
  · intro row hmem hcarries
    obtain ⟨record, hrecord, hrow⟩ := mem_recordedRows.mp hmem
    obtain ⟨usage, cost, hunpriced, hcost, -⟩ := unpriced_of_mem_execute hrecord context
    cases hrow.symm.trans hunpriced
    obtain ⟨_, _, _, -, -, -, _, rfl, hactual, -⟩ :=
      CostEngine.computeCost_reported tokensIn tokensOut h.priced
    have hclaimed := hcost.symm.trans hcarries.provenance
    rw [reportedCost, hactual] at hclaimed
    cases hclaimed

end Collaborators

/-! ## A priced deployment -/

/-- A reasoning model at one and two tenths of a cent for a thousand tokens. -/
def pricedModel : ModelRegistryEntry where
  id := "m1"
  modelName := "alpha"
  capability := .Reasoning
  inputCost := some (1 / 1000)
  outputCost := some (2 / 1000)
  costUnit := some "per_1k_tokens"
  inputCostNonNegative := by simp
  outputCostNonNegative := by norm_num
  maxContextTokensPositive := unknown_pos

def pricedRegistry : ModelRegistry where
  models := { rows := [pricedModel], nodup := by decide }
  namesUnique := by decide

/-- An answer whose usage the provider reports. -/
def reportedResponse (request : ModelRequest) : TextGenerationResponse where
  __ := mockResponse request
  usage :=
    { inputTokens := some 1000
      outputTokens := some 500
      totalTokens := some 1500
      provenance := .Actual }

/-- The small deployment over the priced registry. -/
def pricedDeployment : Collaborators where
  __ := smallDeployment
  gateway _ request := .ok (reportedResponse request)
  findForWorkload := pricedRegistry.service

/-- The request that its model gets. -/
def pricedRequest : ModelRequest where
  multimodal := false
  model := "alpha"
  content := .Text "\x7b\x7d"
  requestId := "r1"
  traceId := "r1"
  responseFormat := .Text

/-- The priced deployment's answer is a priced success. -/
lemma priced_deployment_succeeds :
    pricedDeployment.PricedSuccess pricedRegistry "USD"
      (pricedDeployment.execute supplyChainRequest engineer "r1" "r1")
      (reportedResponse pricedRequest) pricedModel 1000 500 where
  serves := rfl
  recording := rfl
  successful := by
    have hreturned : (pricedDeployment.execute supplyChainRequest engineer "r1"
        "r1").result.toOption.isSome = true := by
      decide +kernel
    exact Fallible.toOption_isSome_iff.mp hreturned
  answered := by
    have hcalled : ExecutionEvent.ModelCall .Primary pricedRequest
        ∈ (pricedDeployment.execute supplyChainRequest engineer "r1" "r1").events := by
      decide +kernel
    exact ⟨.Primary, pricedRequest, hcalled, rfl, rfl⟩
  inputReported := rfl
  outputReported := rfl
  registered := List.mem_singleton.mpr rfl
  priced := by decide +kernel

/-- The context of the records below. -/
def someContext : RecordingContext where
  usageEventId := "u1"
  costEventId := "c1"
  now := 0
  durationMs := none

/-- The priced deployment's cost is lost. -/
theorem priced_deployment_cost_lost :
    recordedRows someContext (pricedDeployment.execute supplyChainRequest engineer "r1" "r1") ≠ []
      ∧ ∀ row ∈ recordedRows someContext
          (pricedDeployment.execute supplyChainRequest engineer "r1" "r1"),
        ¬ Collaborators.CarriesComputedCost row.2
          (Collaborators.reportedCost "USD" pricedModel 1000 500) :=
  Collaborators.cost_of_priced_success_lost priced_deployment_succeeds someContext

/-- **A known cost is not on record.**  A thousand tokens in and five hundred out cost 0.002; the
    cost event has no figure, and a pricing unit for its currency. -/
theorem reported_cost_not_recorded :
    (Collaborators.reportedCost "USD" pricedModel 1000 500).totalCost = some (2 / 1000)
      ∧ (recordedRows someContext (pricedDeployment.execute supplyChainRequest engineer "r1"
          "r1")).map (fun row => (row.2.actualCost, row.2.estimatedCost, row.2.currency))
        = [(none, none, "per_1k_tokens")]
      ∧ ¬ pricedDeployment.FaithfulCost pricedRegistry "USD" supplyChainRequest engineer "r1"
        "r1" := by
  have hcost : (Collaborators.reportedCost "USD" pricedModel 1000 500).currency = "USD" := rfl
  have hrows : (recordedRows someContext (pricedDeployment.execute supplyChainRequest engineer "r1"
      "r1")).map (fun row => (row.2.actualCost, row.2.estimatedCost, row.2.currency))
      = [(none, none, "per_1k_tokens")] := by
    decide +kernel
  refine ⟨by decide +kernel, hrows, fun hfaithful => ?_⟩
  have hmem : (none, none, "per_1k_tokens") ∈ (recordedRows someContext
      (pricedDeployment.execute supplyChainRequest engineer "r1" "r1")).map
        (fun row => (row.2.actualCost, row.2.estimatedCost, row.2.currency)) := by
    rw [hrows]
    exact List.mem_singleton.mpr rfl
  obtain ⟨row, hrow, hfigures⟩ := List.mem_map.mp hmem
  have hcarries := hfaithful _ pricedModel 1000 500 priced_deployment_succeeds someContext row hrow
  have hunit : row.2.currency = "per_1k_tokens" := congrArg (fun figures => figures.2.2) hfigures
  rw [hcarries.currency, hcost] at hunit
  exact absurd hunit (by decide)

end CostPlatform
