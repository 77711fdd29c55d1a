import CostPlatform.Budget.Policy
import CostPlatform.Library.Fallible
import CostPlatform.Orchestrator.QualityCheck
import CostPlatform.Orchestrator.Registry
import CostPlatform.Security.Principal
import Mathlib.Order.WithBot

/-!
# The execution plan

Steps 4 to 20 of the orchestrator: classify, check the budget, load the routing policy, query the
registry and select a model.

Everything the orchestrator is given is a collaborator, and may answer or raise.  The registry and
the gateway are asked at most twice in one execution, once for the plan's own model and once for
the fallback, and `ModelRole` tells the two apart.
-/

namespace CostPlatform

open PyJson

/-! ## Requests, plans and failures -/

structure OrchestrationRequest where
  workloadType : String
  businessPriority : BusinessPriority
  payload : List (String × Json)
  workloadId : Option String := none
  plantId : Option String := none
  departmentId : Option String := none
  modality : Option String := none
  qualityRequirement : Option ℚ := none
  maxCost : Option ℚ := none
  imageCount : Int := 0
  imageBytes : List (List UInt8 × String) := []

/-- What the orchestrator decided, and why. -/
structure ExecutionPlan where
  requestId : String
  workloadType : String
  complexity : Complexity
  businessPriority : BusinessPriority
  riskLevel : RiskLevel
  budgetStatus : PolicyOutcome
  selectedModelId : Option String := none
  selectedModelName : Option String := none
  selectedAgentId : Option String := none
  estimatedCost : Option ℚ := none
  estimatedCostCurrency : Option String := none
  maxContextTokens : Option Int := none
  maxToolCalls : Option Int := none
  routingPolicyVersion : Option Nat := none
  tenantId : Option String := none
  userId : Option String := none
  plantId : Option String := none
  departmentId : Option String := none
  workloadId : Option String := none
  traceId : Option String := none
  decisions : List String := []
  deriving DecidableEq, Repr

/-- Whether this plan may proceed to a model call. -/
def ExecutionPlan.isExecutable (plan : ExecutionPlan) : Bool :=
  plan.budgetStatus ∉ [.Block, .RequireApproval] && plan.selectedModelName.isSome

/-- The exceptions of an execution, told apart as far as some handler does. -/
inductive Failure where
  | BudgetBlocked (budgetStatus : PolicyOutcome)
  | NoCompatibleModel
  | ModelGatewayError (code : String)
  | GuardrailViolation (code decision : String)
  | Other (exception : String)
  deriving DecidableEq, Repr

/-- Which model a call is about. -/
inductive ModelRole where
  | Primary
  | Fallback
  deriving DecidableEq, Repr

/-! ## The gateway's requests and answers -/

inductive ContentPart where
  | TextPart (text : String)
  | ImagePart (data : List UInt8) (mediaType : String)
  deriving DecidableEq, Repr

inductive MessageContent where
  | Text (text : String)
  | Parts (parts : List ContentPart)
  deriving DecidableEq, Repr

inductive ResponseFormat where
  | Text
  | JsonObject
  deriving DecidableEq, Repr

/-- A `TextGenerationRequest` with one user message, or a `MultimodalGenerationRequest`. -/
structure ModelRequest where
  multimodal : Bool
  model : String
  content : MessageContent
  maxOutputTokens : Option Int := none
  requestId : Option String
  traceId : Option String
  responseFormat : ResponseFormat
  maxToolCalls : Option Int := none
  deriving DecidableEq, Repr

inductive UsageProvenance where
  | Actual
  | Unavailable
  deriving DecidableEq, Repr

def UsageProvenance.value : UsageProvenance → String
  | .Actual => "ACTUAL"
  | .Unavailable => "UNAVAILABLE"

structure TokenUsage where
  inputTokens : Option Int := none
  outputTokens : Option Int := none
  totalTokens : Option Int := none
  provenance : UsageProvenance := .Unavailable
  deriving DecidableEq, Repr

structure TextGenerationResponse where
  model : String
  provider : String
  usage : TokenUsage := {}
  latencyMs : ℚ
  attempts : Int := 1
  content : String
  finishReason : Option String := none
  deriving DecidableEq, Repr

/-! ## Collaborators -/

structure BudgetQuery where
  tenantId : String
  plantId : Option String
  departmentId : Option String
  workloadId : Option String
  estimatedCost : ℚ
  deriving DecidableEq, Repr

structure Guardrails where
  checkInput : List (String × Json) → Except Failure Unit
  checkOutput : String → Except Failure Unit

/-- What an orchestrator is built from. -/
structure Collaborators where
  runtime : Runtime
  gateway : ModelRole → ModelRequest → Except Failure TextGenerationResponse
  /-- `find_for_workload(workload_type, min_quality_score=…)`. -/
  findForWorkload : ModelRole → String → Option ℚ → Except Failure (List ModelRegistryEntry)
  evaluateBudget : BudgetQuery → Except Failure BudgetDecision
  getActivePolicy : Option (RoutingKey → Except Failure (Option RoutingPolicy)) := none
  getWorkload : Option (String → Except Failure (Option Workload)) := none
  /-- Whether a telemetry recorder was supplied.  What it raises is swallowed. -/
  telemetry : Bool := false
  guardrails : Option Guardrails := none

/-- The registry service over a registry, as the orchestrator asks it. -/
def ModelRegistry.service (registry : ModelRegistry) (_role : ModelRole) (workloadType : String)
    (minQualityScore : Option ℚ) : Except Failure (List ModelRegistryEntry) :=
  .ok (registry.findForWorkload workloadType none none minQualityScore false 50)

namespace Collaborators

variable (c : Collaborators)

/-- A lookup failure counts as no workload. -/
def loadWorkload (request : OrchestrationRequest) : Option Workload :=
  match c.getWorkload, PyString.truthy request.workloadId with
  | some getById, some workloadId =>
      match getById workloadId with
      | .ok workload => workload
      | .error _ => none
  | _, _ => none

/-- The higher of the request's priority and the workload's floor. -/
def effectivePriority (request : OrchestrationRequest) (workload : Option Workload) :
    BusinessPriority :=
  match PyString.truthy (workload.bind Workload.businessPriority) with
  | none => request.businessPriority
  | some declared =>
      match BusinessPriority.ofValue (PyString.upper (PyString.strip declared)) with
      | none => request.businessPriority
      | some floor =>
          if request.businessPriority.index < floor.index then floor else request.businessPriority

/-- A lookup failure counts as no policy. -/
def loadPolicy (tenantId workloadType : String) (complexity : Complexity) :
    Option RoutingPolicy :=
  match c.getActivePolicy with
  | none => none
  | some getActive =>
      match getActive { tenantId, workloadType, complexity } with
      | .ok policy => policy
      | .error _ => none

/-! ## Candidates and selection -/

/-- The model a policy names.  An empty name does not count. -/
def pinnedModel (policy : Option RoutingPolicy) : Option String :=
  PyString.truthy (policy.bind RoutingPolicy.selectedModelId)

/-- Steps 11 to 13.  A pinned model is the only candidate, if it is one at all. -/
def candidates (request : OrchestrationRequest) (policy : Option RoutingPolicy) :
    Except Failure (List ModelRegistryEntry) := do
  let found ← c.findForWorkload .Primary request.workloadType
    (policy.bind RoutingPolicy.minimumQualityScore)
  match pinnedModel policy with
  | some pinned => return found.filter fun candidate => candidate.id = pinned
  | none => return found

/-- Lower cost first; an unknown cost last. -/
def costKey (entry : ModelRegistryEntry) : ℕ ×ₗ WithTop ℚ :=
  match entry.inputCost with
  | some cost => toLex (0, (cost : WithTop ℚ))
  | none => toLex (1, ⊤)

/-- Higher quality first; an unknown quality counts as 0. -/
def qualityKey (entry : ModelRegistryEntry) : ℚ :=
  match entry.qualityScore with
  | some score => -score
  | none => 0

def latencyKey (entry : ModelRegistryEntry) : WithTop ℚ :=
  match entry.latencyScore with
  | some score => (score : WithTop ℚ)
  | none => ⊤

/-- Under budget pressure cost leads. -/
def cheapestKey (entry : ModelRegistryEntry) :
    (ℕ ×ₗ WithTop ℚ) ×ₗ ℚ ×ₗ WithTop ℚ ×ₗ String :=
  toLex (costKey entry, toLex (qualityKey entry, toLex (latencyKey entry, entry.modelName)))

/-- Normal ordering: quality first, then cost, then latency. -/
def bestKey (entry : ModelRegistryEntry) :
    ℚ ×ₗ (ℕ ×ₗ WithTop ℚ) ×ₗ WithTop ℚ ×ₗ String :=
  toLex (qualityKey entry, toLex (costKey entry, toLex (latencyKey entry, entry.modelName)))

/-- Step 15: a deterministic sort over registry metadata. -/
def selectModel (entries : List ModelRegistryEntry) (preferCheapest : Bool) :
    Option ModelRegistryEntry :=
  if preferCheapest then Ranking.firstBy cheapestKey entries
  else Ranking.firstBy bestKey entries

/-- The tighter of the policy limit and the model's own window. -/
def contextLimit (policy : Option RoutingPolicy) (entry : Option ModelRegistryEntry) :
    Option Int :=
  match policy.bind RoutingPolicy.maxContextTokens,
      entry.bind ModelRegistryEntry.maxContextTokens with
  | some policyLimit, some modelLimit => some (min policyLimit modelLimit)
  | some policyLimit, none => some policyLimit
  | none, modelLimit => modelLimit

/-- No figure is computed; known pricing leaves its unit. -/
def estimateCost (entry : Option ModelRegistryEntry) : Option ℚ × Option String :=
  match entry with
  | none => (none, none)
  | some entry => if entry.hasKnownPricing then (none, entry.costUnit) else (none, none)

end Collaborators

/-! ## Planning -/

/-- The text of an outcome in a decision. -/
def PolicyOutcome.value : PolicyOutcome → String
  | .Allow => "ALLOW"
  | .Downgrade => "DOWNGRADE"
  | .RequireApproval => "REQUIRE_APPROVAL"
  | .Block => "BLOCK"

namespace Collaborators

variable (c : Collaborators)

/-- What steps 4 to 9 know about a request. -/
structure Classified where
  workloadId : Option String
  priority : BusinessPriority
  risk : RiskLevel
  complexity : Complexity

def classify (request : OrchestrationRequest) : Classified :=
  let workload := c.loadWorkload request
  let priority := effectivePriority request workload
  let classification : ClassificationInput :=
    { workloadType := request.workloadType
      businessPriority := priority
      payload := request.payload
      imageCount := request.imageCount
      qualityRequirement := request.qualityRequirement
      workloadRiskLevel := workload.bind Workload.riskLevel }
  { workloadId := (PyString.truthy (workload.map Workload.id)).or request.workloadId
    priority := priority
    risk := determineRisk classification
    complexity := classifyComplexity c.runtime classification DEFAULT_THRESHOLDS }

/-- What step 8 asks the budget evaluator.  Nothing is known yet of what the request will cost. -/
def budgetQuery (request : OrchestrationRequest) (principal : Principal) : BudgetQuery where
  tenantId := principal.tenantId
  plantId := request.plantId
  departmentId := request.departmentId
  workloadId := (c.classify request).workloadId
  estimatedCost := 0

/-- Step 8. -/
def checkBudget (request : OrchestrationRequest) (principal : Principal) :
    Except Failure BudgetDecision :=
  c.evaluateBudget (c.budgetQuery request principal)

/-- Step 10, for the complexity the request was classified with. -/
def policyFor (request : OrchestrationRequest) (principal : Principal) : Option RoutingPolicy :=
  c.loadPolicy principal.tenantId request.workloadType (c.classify request).complexity

/-- The plan as far as steps 4 to 9 decide it. -/
def basePlan (request : OrchestrationRequest) (principal : Principal)
    (requestId traceId : String) (budgetDecision : BudgetDecision) : ExecutionPlan :=
  let classified := c.classify request
  { requestId := requestId
    traceId := traceId
    workloadType := request.workloadType
    complexity := classified.complexity
    businessPriority := classified.priority
    riskLevel := classified.risk
    budgetStatus := budgetDecision.outcome
    tenantId := principal.tenantId
    userId := principal.subject
    plantId := request.plantId
    departmentId := request.departmentId
    workloadId := classified.workloadId
    decisions :=
      [ "tenant_from_principal=" ++ principal.tenantId,
        "priority=" ++ classified.priority.value,
        "risk=" ++ classified.risk.value,
        "budget=" ++ budgetDecision.outcome.value ++ ":" ++ budgetDecision.reason,
        "complexity=" ++ classified.complexity.value ] }

/-- Steps 15 to 18 on top of it.  DOWNGRADE changes the ordering, never what is allowed. -/
def routedPlan (base : ExecutionPlan) (policy : Option RoutingPolicy)
    (found : List ModelRegistryEntry) : ExecutionPlan :=
  let preferCheapest : Bool := base.budgetStatus = .Downgrade
  let selected := selectModel found preferCheapest
  { base with
    selectedModelId := selected.map ModelRegistryEntry.id
    selectedModelName := selected.map ModelRegistryEntry.modelName
    selectedAgentId := policy.bind RoutingPolicy.selectedAgentId
    estimatedCost := (estimateCost selected).1
    estimatedCostCurrency := (estimateCost selected).2
    maxContextTokens := contextLimit policy selected
    maxToolCalls := policy.bind RoutingPolicy.maxToolCalls
    routingPolicyVersion := policy.map RoutingPolicy.version
    decisions := base.decisions
      ++ [match policy with
          | some policy => "policy_version=" ++ toString policy.version
          | none => "policy=none:deterministic_fallback"]
      ++ ["candidates=" ++ toString found.length]
      ++ (if preferCheapest then ["downgrade=prefer_lowest_cost"] else [])
      ++ (selected.map fun entry => "selected_model=" ++ entry.modelName).toList }

/-- Produce the plan without executing it. -/
def plan (request : OrchestrationRequest) (principal : Principal) (requestId traceId : String) :
    Except Failure ExecutionPlan := do
  let budgetDecision ← c.checkBudget request principal
  let base := c.basePlan request principal requestId traceId budgetDecision
  if budgetDecision.outcome = .Block then
    -- no policy lookup, no registry query, no model
    return base
  else
    let policy := c.policyFor request principal
    let found ← c.candidates request policy
    return routedPlan base policy found

/-! ## What a plan says -/

/-- What is selected was a candidate. -/
lemma selectModel_mem {entries : List ModelRegistryEntry} {preferCheapest : Bool}
    {entry : ModelRegistryEntry} (h : selectModel entries preferCheapest = some entry) :
    entry ∈ entries := by
  simp only [selectModel] at h
  split_ifs at h
  · exact Ranking.firstBy_mem h
  · exact Ranking.firstBy_mem h

/-- A pinned model has no rival candidates. -/
lemma candidates_pinned {request : OrchestrationRequest} {policy : Option RoutingPolicy}
    {found : List ModelRegistryEntry} (hfound : c.candidates request policy = .ok found)
    {pinned : String} (hpinned : pinnedModel policy = some pinned) :
    ∀ entry ∈ found, entry.id = pinned := by
  obtain ⟨offered, -, h⟩ := Fallible.bind_eq_ok.mp hfound
  rw [hpinned] at h
  cases Except.ok.inj h
  exact fun entry hentry => of_decide_eq_true (List.mem_filter.mp hentry).2

/-- **What planning returns**: what steps 4 to 9 decide, if the budget blocks, and otherwise the
    routed plan on top of it. -/
theorem plan_eq_ok_iff {request : OrchestrationRequest} {principal : Principal}
    {requestId traceId : String} {plan : ExecutionPlan} :
    c.plan request principal requestId traceId = .ok plan
      ↔ ∃ decision, c.checkBudget request principal = .ok decision
        ∧ ((decision.outcome = .Block
            ∧ plan = c.basePlan request principal requestId traceId decision)
          ∨ (decision.outcome ≠ .Block
            ∧ ∃ found, c.candidates request (c.policyFor request principal) = .ok found
              ∧ plan = routedPlan (c.basePlan request principal requestId traceId decision)
                  (c.policyFor request principal) found)) := by
  rw [Collaborators.plan, Fallible.bind_eq_ok]
  refine exists_congr fun decision => and_congr_right fun _ => ?_
  by_cases hblock : decision.outcome = .Block
  · simp only [hblock, if_true, ne_eq, not_true_eq_false, false_and, or_false, true_and]
    exact ⟨fun h => (Except.ok.inj h).symm, fun h => congrArg Except.ok h.symm⟩
  · simp only [hblock, if_false, ne_eq, not_false_eq_true, false_and, false_or, true_and,
      Fallible.bind_eq_ok]
    refine exists_congr fun found => and_congr_right fun _ => ?_
    exact ⟨fun h => (Except.ok.inj h).symm, fun h => congrArg Except.ok h.symm⟩

section Planned

variable {request : OrchestrationRequest} {principal : Principal} {requestId traceId : String}
  {plan : ExecutionPlan} (h : c.plan request principal requestId traceId = .ok plan)

include h

/-- **A plan carries the budget's outcome**, and unless that blocks, the model selected from the
    candidates and the limit computed for it. -/
theorem plan_cases :
    plan.workloadType = request.workloadType
    ∧ ∃ decision, c.checkBudget request principal = .ok decision
      ∧ plan.budgetStatus = decision.outcome
      ∧ ((decision.outcome = .Block ∧ plan.selectedModelName = none)
        ∨ (decision.outcome ≠ .Block
          ∧ ∃ found, c.candidates request (c.policyFor request principal) = .ok found
            ∧ ∃ selected, selected = selectModel found (decision.outcome = .Downgrade)
              ∧ plan.selectedModelId = selected.map ModelRegistryEntry.id
              ∧ plan.selectedModelName = selected.map ModelRegistryEntry.modelName
              ∧ plan.maxContextTokens
                  = contextLimit (c.policyFor request principal) selected)) := by
  obtain ⟨decision, hdecision, ⟨hblock, rfl⟩ | ⟨hblock, found, hfound, rfl⟩⟩ :=
    c.plan_eq_ok_iff.mp h
  · exact ⟨rfl, decision, hdecision, rfl, Or.inl ⟨hblock, rfl⟩⟩
  · exact ⟨rfl, decision, hdecision, rfl, Or.inr ⟨hblock, found, hfound, _, rfl, rfl, rfl, rfl⟩⟩

/-- The risk of a plan is the one its request was classified with. -/
lemma plan_riskLevel : plan.riskLevel = (c.classify request).risk := by
  obtain ⟨decision, -, ⟨-, rfl⟩ | ⟨-, found, -, rfl⟩⟩ := c.plan_eq_ok_iff.mp h
  · rfl
  · rfl

/-- The ids of a plan are the principal's tenant and what the request says of the rest. -/
lemma plan_ids :
    plan.tenantId = some principal.tenantId ∧ plan.plantId = request.plantId
      ∧ plan.departmentId = request.departmentId := by
  obtain ⟨decision, -, ⟨-, rfl⟩ | ⟨-, found, -, rfl⟩⟩ := c.plan_eq_ok_iff.mp h
  · exact ⟨rfl, rfl, rfl⟩
  · exact ⟨rfl, rfl, rfl⟩

/-- No plan carries an estimate. -/
theorem plan_estimatedCost : plan.estimatedCost = none := by
  have hestimate : ∀ entry, (estimateCost entry).1 = none := by
    intro entry
    cases entry with
    | none => rfl
    | some entry =>
        simp only [estimateCost]
        split_ifs
        · rfl
        · rfl
  obtain ⟨decision, -, ⟨-, rfl⟩ | ⟨-, found, -, rfl⟩⟩ := c.plan_eq_ok_iff.mp h
  · rfl
  · exact hestimate _

end Planned

/-- Unless the budget blocks, planning succeeds once the registry has answered. -/
lemma plan_eq_routedPlan {request : OrchestrationRequest} {principal : Principal}
    (requestId traceId : String) {decision : BudgetDecision} {found : List ModelRegistryEntry}
    (hdecision : c.checkBudget request principal = .ok decision)
    (hblock : decision.outcome ≠ .Block)
    (hfound : c.candidates request (c.policyFor request principal) = .ok found) :
    c.plan request principal requestId traceId
      = .ok (routedPlan (c.basePlan request principal requestId traceId decision)
          (c.policyFor request principal) found) :=
  c.plan_eq_ok_iff.mpr ⟨decision, hdecision, Or.inr ⟨hblock, found, hfound, rfl⟩⟩

end Collaborators

end CostPlatform
