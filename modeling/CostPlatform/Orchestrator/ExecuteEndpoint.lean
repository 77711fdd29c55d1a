import CostPlatform.Budget.Gate
import CostPlatform.Orchestrator.Ceilings
import CostPlatform.Orchestrator.Recorder
import CostPlatform.Security.Authorization

/-!
# The execute endpoint

`POST /ai/execute` asks for the permission to execute and for nothing about where it is held.  The
plant and the department of the body go as they are to the budget evaluator, into the plan and from
there onto the usage event (`recordedRows_ids`).  `charged_where_authorized_iff` says what that
makes of the claim to charge a plant or a department: it holds exactly for the bodies whose ids the
caller may charge.
-/

namespace CostPlatform

open PyJson

/-! ## Bodies -/

inductive WorkloadType where
  | QualityCheck
  | PredictiveMaintenance
  | SupplyChain
  deriving DecidableEq, Repr

def WorkloadType.value : WorkloadType → String
  | .QualityCheck => "quality_check"
  | .PredictiveMaintenance => "predictive_maintenance"
  | .SupplyChain => "supply_chain"

def Modality.value : Modality → String
  | .Text => "text"
  | .Image => "image"
  | .Multimodal => "multimodal"
  | .Structured => "structured"

/-- Reference to an input artifact. -/
structure InputRef where
  ref : String
  contentType : String
  deriving DecidableEq, Repr

def InputRef.isImage (input : InputRef) : Bool :=
  "image/".toList.isPrefixOf input.contentType.toList

/-- A validated `AIExecutionRequest`. -/
structure AIExecutionRequest where
  workloadType : WorkloadType
  businessPriority : BusinessPriority
  workloadId : Option String := none
  plantId : Option String := none
  departmentId : Option String := none
  requestPayload : List (String × Json) := []
  inputRefs : List InputRef := []
  modality : Option Modality := none
  qualityRequirement : Option ℚ := none
  maxCost : Option ℚ := none
  qualityRequirementInRange : ∀ quality ∈ qualityRequirement, 0 ≤ quality ∧ quality ≤ 1 := by
    rintro _ ⟨⟩
  maxCostNonneg : ∀ cost ∈ maxCost, 0 ≤ cost := by
    rintro _ ⟨⟩

/-! ## Answers -/

/-- `to_contract_dict`. -/
structure ContractPlan where
  workloadType : String
  complexity : String
  selectedModelId : Option String
  selectedAgentId : Option String
  estimatedCost : Option ℚ
  maxContextTokens : Option Int
  maxToolCalls : Option Int
  routingPolicyVersion : Option Nat
  budgetStatus : String
  riskLevel : String
  deriving DecidableEq, Repr

def ExecutionPlan.toContract (plan : ExecutionPlan) : ContractPlan where
  workloadType := plan.workloadType
  complexity := plan.complexity.value
  selectedModelId := plan.selectedModelId
  selectedAgentId := plan.selectedAgentId
  estimatedCost := plan.estimatedCost
  maxContextTokens := plan.maxContextTokens
  maxToolCalls := plan.maxToolCalls
  routingPolicyVersion := plan.routingPolicyVersion
  budgetStatus := plan.budgetStatus.value
  riskLevel := plan.riskLevel.value

/-- What the caller gets. -/
structure AIExecutionResponse where
  requestId : String
  traceId : Option String
  executionPlan : ContractPlan
  result : ResultData
  inputTokens : Option Int
  outputTokens : Option Int
  totalTokens : Option Int
  costAmount : Option ℚ
  costCurrency : Option String
  costProvenance : String
  qualityScore : Option ℚ
  deriving DecidableEq, Repr

def AIExecutionResponse.ofResult (result : ExecutionResult) : AIExecutionResponse where
  requestId := result.requestId
  traceId := result.traceId
  executionPlan := result.plan.toContract
  result := result.result
  inputTokens := result.inputTokens
  outputTokens := result.outputTokens
  totalTokens := result.totalTokens
  costAmount := result.costAmount
  costCurrency := result.costCurrency
  costProvenance := result.costProvenance
  qualityScore := result.qualityScore

/-! ## The route -/

/-- What the application gives the route. -/
structure ExecuteRoute where
  runtime : Runtime
  gateway : ModelRole → ModelRequest → Except Failure TextGenerationResponse
  findForWorkload : ModelRole → String → Option ℚ → Except Failure (List ModelRegistryEntry)
  getActivePolicy : RoutingKey → Except Failure (Option RoutingPolicy)
  guardrails : Guardrails
  rateLimitEnabled : Bool
  /-- The rate limiter's decision on a key. -/
  rateAllowed : String → Bool
  /-- Whether there is a file at a path.  The file system refuses some names. -/
  isFile : String → Except Failure Bool
  /-- The bytes of a file, unless it cannot be read. -/
  readBytes : String → Option (List UInt8)

namespace ExecuteRoute

variable (route : ExecuteRoute)

/-- The orchestrator of the route.  It gets no workload repository. -/
def getOrchestrator : Collaborators where
  runtime := route.runtime
  gateway := route.gateway
  findForWorkload := route.findForWorkload
  evaluateBudget query :=
    .ok (executeBudgetEvaluator.evaluate query.tenantId query.plantId query.departmentId
      query.workloadId query.estimatedCost)
  getActivePolicy := some route.getActivePolicy
  telemetry := true
  guardrails := some route.guardrails

def rateLimitKey (principal : Principal) : String :=
  let orAnonymous (s : String) := (PyString.truthy (some s)).getD "anonymous"
  orAnonymous principal.tenantId ++ ":" ++ orAnonymous principal.subject ++ ":/ai/execute"

/-- The image at a reference, with the media type of the reference. -/
def readImage (input : InputRef) : Except Failure (Option (List UInt8 × String)) := do
  if ← route.isFile input.ref then
    return (route.readBytes input.ref).map fun data => (data, input.contentType)
  else return none

/-- The images of a body, in the order of their references. -/
def readImages (body : AIExecutionRequest) : Except Failure (List (List UInt8 × String)) := do
  let images ← (body.inputRefs.filter InputRef.isImage).mapM route.readImage
  return images.reduceOption

def orchestrationRequest (body : AIExecutionRequest) (imageBytes : List (List UInt8 × String)) :
    OrchestrationRequest where
  workloadType := body.workloadType.value
  businessPriority := body.businessPriority
  payload := body.requestPayload
  workloadId := body.workloadId
  plantId := body.plantId
  departmentId := body.departmentId
  modality := body.modality.map Modality.value
  qualityRequirement := body.qualityRequirement
  maxCost := body.maxCost
  imageCount := (body.inputRefs.filter InputRef.isImage).length
  imageBytes := imageBytes

/-- The permission guard and the rate limit let the caller through. -/
def Accepted (principal : Principal) : Prop :=
  hasPermission principal .AiExecute = true
    ∧ (route.rateLimitEnabled = true → route.rateAllowed (rateLimitKey principal) = true)

instance (principal : Principal) : Decidable (route.Accepted principal) :=
  inferInstanceAs (Decidable (_ ∧ (_ → _)))

/-- Route and execute one workload. -/
def executeAiWorkload (body : AIExecutionRequest) (principal : Principal)
    (requestId traceId : String) : Execution AIExecutionResponse := do
  Traced.silent (Fallible.require (hasPermission principal .AiExecute = true)
    (.Other "ForbiddenError"))
  Traced.silent (Fallible.require
    (route.rateLimitEnabled = true → route.rateAllowed (rateLimitKey principal) = true)
    (.Other "RateLimitedError"))
  let imageBytes ← Traced.silent (route.readImages body)
  let result ← route.getOrchestrator.execute (orchestrationRequest body imageBytes) principal
    requestId traceId
  return AIExecutionResponse.ofResult result

/-! ## Where usage is charged -/

/-- The ids name nothing below the tenant, or a place where the caller may execute. -/
def MayCharge (principal : Principal) (plantId departmentId : Option String) : Prop :=
  (plantId = none ∧ departmentId = none)
    ∨ ⟨principal.tenantId, plantId, departmentId⟩ ∈ reach principal .AiExecute

/-- The usage that an accepted body leaves on record is charged where the caller may execute. -/
def RecordedWhereAuthorized (body : AIExecutionRequest) (principal : Principal)
    (requestId traceId : String) : Prop :=
  route.Accepted principal →
    ∀ context, ∀ row ∈ recordedRows context
        (route.executeAiWorkload body principal requestId traceId),
      row.1.tenantId = some principal.tenantId
        ∧ MayCharge principal row.1.plantId row.1.departmentId

/-- So is the budget that an accepted body is checked against, if its images do not fail it. -/
def BudgetCheckedWhereAuthorized (body : AIExecutionRequest) (principal : Principal) : Prop :=
  route.Accepted principal → ∀ imageBytes, route.readImages body = .ok imageBytes →
    let query := route.getOrchestrator.budgetQuery (orchestrationRequest body imageBytes) principal
    query.tenantId = principal.tenantId ∧ MayCharge principal query.plantId query.departmentId

/-- No caller charges spend to, or is budget-checked against, a place where it may not execute. -/
structure ChargedWhereAuthorized (body : AIExecutionRequest) (principal : Principal)
    (requestId traceId : String) : Prop where
  recorded : route.RecordedWhereAuthorized body principal requestId traceId
  budgetChecked : route.BudgetCheckedWhereAuthorized body principal

/-- A plan is made, and its execution ends in one of the ways that write a record. -/
def LeavesRecord (body : AIExecutionRequest) (principal : Principal) (requestId traceId : String) :
    Prop :=
  ∃ imageBytes, route.readImages body = .ok imageBytes
    ∧ (∃ plan, route.getOrchestrator.plan (orchestrationRequest body imageBytes) principal
        requestId traceId = .ok plan)
    ∧ route.getOrchestrator.EveryExitRecords (orchestrationRequest body imageBytes) principal
        requestId traceId

/-! ## What is recorded of a body -/

variable {route} {body : AIExecutionRequest} {principal : Principal} {requestId traceId : String}

/-- An accepted body leaves what its execution leaves, and nothing where its images fail it. -/
lemma recordedRows_executeAiWorkload (haccepted : route.Accepted principal)
    (context : RecordingContext) :
    recordedRows context (route.executeAiWorkload body principal requestId traceId)
      = match route.readImages body with
        | .ok imageBytes => recordedRows context (route.getOrchestrator.execute
            (orchestrationRequest body imageBytes) principal requestId traceId)
        | .error _ => [] := by
  obtain ⟨hpermission, hrate⟩ := haccepted
  simp only [executeAiWorkload, Fallible.require, if_pos hpermission, if_pos hrate,
    Traced.silent_def, Traced.ok_bind, List.nil_append]
  cases route.readImages body with
  | error failure => rfl
  | ok imageBytes =>
      rw [Traced.ok_bind, List.nil_append]
      cases hresult : route.getOrchestrator.execute (orchestrationRequest body imageBytes) principal
          requestId traceId with
      | mk events result =>
          cases result with
          | ok result => simp [recordedRows, hresult]
          | error failure => simp [recordedRows, hresult]

/-- What is recorded of an accepted body is recorded of its execution. -/
lemma mem_recordedRows_execute (haccepted : route.Accepted principal) {context : RecordingContext}
    {row : UsageEventRow × CostEvent}
    (h : row ∈ recordedRows context (route.executeAiWorkload body principal requestId traceId)) :
    ∃ imageBytes, route.readImages body = .ok imageBytes
      ∧ row ∈ recordedRows context (route.getOrchestrator.execute
        (orchestrationRequest body imageBytes) principal requestId traceId) := by
  rw [recordedRows_executeAiWorkload haccepted] at h
  cases himages : route.readImages body with
  | error failure => simp [himages] at h
  | ok imageBytes => exact ⟨imageBytes, rfl, by simpa [himages] using h⟩

/-- What is recorded of a body carries the ids of the body. -/
lemma ids_of_recorded (haccepted : route.Accepted principal) {context : RecordingContext}
    {row : UsageEventRow × CostEvent}
    (h : row ∈ recordedRows context (route.executeAiWorkload body principal requestId traceId)) :
    row.1.tenantId = some principal.tenantId ∧ row.1.plantId = body.plantId
      ∧ row.1.departmentId = body.departmentId := by
  obtain ⟨imageBytes, -, hrow⟩ := mem_recordedRows_execute haccepted h
  exact Collaborators.recordedRows_ids hrow

/-- A record is left exactly where the execution gets to one. -/
lemma recordedRows_ne_nil_iff (haccepted : route.Accepted principal) (context : RecordingContext) :
    recordedRows context (route.executeAiWorkload body principal requestId traceId) ≠ []
      ↔ route.LeavesRecord body principal requestId traceId := by
  rw [recordedRows_executeAiWorkload haccepted]
  cases himages : route.readImages body with
  | error failure => simp [LeavesRecord, himages]
  | ok imageBytes =>
      simp only [Collaborators.recordedRows_ne_nil_iff]
      cases hplan : route.getOrchestrator.plan (orchestrationRequest body imageBytes) principal
          requestId traceId with
      | error failure => simp [LeavesRecord, himages, hplan, Collaborators.execute]
      | ok plan =>
          have hcount := Collaborators.execute_recordCount rfl hplan
          have hleaves : route.LeavesRecord body principal requestId traceId
              ↔ (plan.budgetStatus = .Block ∨ plan.selectedModelName = none
                ∨ ∃ model ∈ plan.selectedModelName, route.getOrchestrator.ExecutionRecords plan
                  model (orchestrationRequest body imageBytes)) := by
            simp [LeavesRecord, Collaborators.EveryExitRecords, himages, hplan]
          rw [hleaves, ← hcount.eq_one_iff]
          have hle := hcount.le_one
          omega

/-! ## The two halves -/

variable (route body principal requestId traceId)

lemma budgetChecked_iff :
    route.BudgetCheckedWhereAuthorized body principal
      ↔ (route.Accepted principal → (∃ imageBytes, route.readImages body = .ok imageBytes) →
        MayCharge principal body.plantId body.departmentId) := by
  refine imp_congr_right fun _ => ?_
  rw [forall_exists_index]
  refine forall₂_congr fun imageBytes _ => ?_
  show (principal.tenantId = principal.tenantId ∧ MayCharge principal body.plantId
    body.departmentId) ↔ _
  rw [eq_self_iff_true, true_and]

lemma recorded_iff :
    route.RecordedWhereAuthorized body principal requestId traceId
      ↔ (route.Accepted principal → MayCharge principal body.plantId body.departmentId)
        ∨ ¬ route.LeavesRecord body principal requestId traceId := by
  constructor
  · intro hrecorded
    by_cases hleaves : route.LeavesRecord body principal requestId traceId
    · refine Or.inl fun haccepted => ?_
      let context : RecordingContext := ⟨"", "", 0, none⟩
      obtain ⟨row, hrow⟩ := List.exists_mem_of_ne_nil _
        ((recordedRows_ne_nil_iff haccepted context).mpr hleaves)
      obtain ⟨-, hplant, hdepartment⟩ := ids_of_recorded haccepted hrow
      rw [← hplant, ← hdepartment]
      exact (hrecorded haccepted context row hrow).2
    · exact Or.inr hleaves
  · rintro (hmay | hnone) haccepted context row hrow
    · obtain ⟨htenant, hplant, hdepartment⟩ := ids_of_recorded haccepted hrow
      rw [hplant, hdepartment]
      exact ⟨htenant, hmay haccepted⟩
    · exact absurd ((recordedRows_ne_nil_iff haccepted context).mp (List.ne_nil_of_mem hrow)) hnone

/-- **Charging where the caller may execute, exactly.**  It holds for the bodies that are not
    accepted or whose images fail them, and for those whose ids the caller may charge; for what is
    left on record, also where nothing is. -/
theorem charged_where_authorized_iff :
    (route.ChargedWhereAuthorized body principal requestId traceId
        ↔ (route.Accepted principal → (∃ imageBytes, route.readImages body = .ok imageBytes) →
          MayCharge principal body.plantId body.departmentId))
      ∧ (route.RecordedWhereAuthorized body principal requestId traceId
        ↔ (route.Accepted principal → MayCharge principal body.plantId body.departmentId)
          ∨ ¬ route.LeavesRecord body principal requestId traceId) := by
  refine ⟨⟨fun h => ?_, fun hmay => ⟨?_, ?_⟩⟩, ?_⟩
  · exact (budgetChecked_iff route body principal).mp h.budgetChecked
  · refine (recorded_iff route body principal requestId traceId).mpr ?_
    by_cases himages : ∃ imageBytes, route.readImages body = .ok imageBytes
    · exact Or.inl fun haccepted => hmay haccepted himages
    · exact Or.inr fun ⟨imageBytes, hread, _⟩ => himages ⟨imageBytes, hread⟩
  · exact (budgetChecked_iff route body principal).mpr hmay
  · exact recorded_iff route body principal requestId traceId

end ExecuteRoute

/-! ## Another plant's usage -/

/-- The small deployment behind its route, with guardrails that let everything pass. -/
def smallRoute : ExecuteRoute where
  runtime := emptyRuntime
  gateway _ request := .ok (mockResponse request)
  findForWorkload := twoModels.service
  getActivePolicy _ := .ok none
  guardrails := { checkInput := fun _ => .ok (), checkOutput := fun _ => .ok () }
  rateLimitEnabled := false
  rateAllowed _ := true
  isFile _ := .ok false
  readBytes _ := none

def plantManager : Principal where
  subject := "user-2"
  tenantId := "t1"
  assignments := [⟨.PlantManager, .Plant, "p1"⟩]

/-- A body that claims another plant and one of its departments. -/
def foreignPlantBody : AIExecutionRequest where
  workloadType := .SupplyChain
  businessPriority := .Normal
  plantId := some "p2"
  departmentId := some "d2"
  maxCost := some 1
  maxCostNonneg := by
    rintro _ ⟨⟩
    exact zero_le_one

/-- **A plant manager charges another plant.**  The body is accepted, and the usage event names the
    plant that the caller has no assignment for. -/
theorem foreign_plant_charged :
    smallRoute.Accepted plantManager
      ∧ (recordedRows someContext (smallRoute.executeAiWorkload foreignPlantBody plantManager "r1"
          "r1")).map (fun row => (row.1.plantId, row.1.departmentId)) = [(some "p2", some "d2")]
      ∧ ¬ smallRoute.ChargedWhereAuthorized foreignPlantBody plantManager "r1" "r1" := by
  have haccepted : smallRoute.Accepted plantManager := by decide +kernel
  refine ⟨haccepted, by decide +kernel, fun hcharged => ?_⟩
  have hmay : ExecuteRoute.MayCharge plantManager (some "p2") (some "d2") :=
    (hcharged.budgetChecked haccepted [] rfl).2
  rcases hmay with ⟨hplant, -⟩ | hreach
  · cases hplant
  · rw [← canAccessResourcePermission_iff] at hreach
    revert hreach
    decide +kernel

end CostPlatform
