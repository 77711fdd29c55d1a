import CostPlatform.Intelligence.SupplierSelection
import CostPlatform.Library.JsonText
import CostPlatform.Library.Traced
import CostPlatform.Workloads.SupplyChainContext

/-!
# The supply chain workflow

The pipeline: budget check, context filters, analysis, reasoning, which asks a model where the
analysis found something short, out of budget or risky, and risk evaluation.

The budget check comes first, and what it says is looked at last.  A budget of nothing makes the
outcome critical (`execute_of_block`), but the model is asked all the same
(`blocked_calls_no_model_iff`).
-/

namespace CostPlatform

open PyJson

/-! ## What goes in and comes out -/

/-- A text generation request, with its system and its user message. -/
structure TradeOffRequest where
  model : String
  system : String
  user : String
  responseFormat : String := "json_object"
  temperature : ℚ := 2 / 10
  maxOutputTokens : Nat := 512
  deriving DecidableEq, Repr

structure TradeOffResponse where
  model : String
  content : String
  inputTokens : Option Int
  outputTokens : Option Int
  totalTokens : Option Int
  latencyMs : ℚ
  deriving DecidableEq, Repr

/-- What the workflow does beside computing. -/
inductive SupplyChainEvent where
  | Emitted (event : String) (payload : Record)
  | ModelCall (request : TradeOffRequest)
  | CostRecorded (costType : String) (amountUsd : ℚ) (description provenance : String)

/-- What the reasoning step returned. -/
structure TradeOff where
  explanation : Json
  modelUsed : String
  promptTokens : Option Int
  completionTokens : Option Int
  totalTokens : Option Int

inductive SupplyChainRisk where
  | Low
  | Medium
  | High
  | Critical
  deriving DecidableEq, Repr

def SupplyChainRisk.value : SupplyChainRisk → String
  | .Low => "low"
  | .Medium => "medium"
  | .High => "high"
  | .Critical => "critical"

/-- One supplier of the allocation summary. -/
structure SupplierAllocation where
  itemId : String
  selectedSupplierId : String
  supplierName : String
  orderQuantity : PyFloat
  unitPrice : PyFloat
  supplierRiskScore : PyFloat
  deriving DecidableEq, Repr

structure LogisticsPlan where
  selectedRouteId : String
  shippingMode : String
  estimatedTransitDays : Int
  logisticsCostUsd : PyFloat
  deriving DecidableEq, Repr

/-- The raw output. -/
structure SupplyChainOutput where
  recommendationType : String
  priority : Json
  status : String := "completed"
  itemsAnalyzed : Nat
  stockoutItems : List String
  totalShortageUnits : PyFloat
  supplierAllocation : List SupplierAllocation
  logisticsPlan : Option LogisticsPlan
  totalEstimatedCostUsd : PyFloat
  budgetStatus : BudgetPreCheck
  budgetPressure : Bool
  budgetOverrunUsd : PyFloat
  totalLeadTimeDays : Int
  riskLevel : SupplyChainRisk
  requiresApproval : Bool
  explanation : Json
  recommendedAction : String
  dataQuality : String
  modelUsed : Option String
  promptTokens : Option Int
  completionTokens : Option Int
  totalTokens : Option Int

structure SupplyChainWorkflow where
  optimizer : SupplyChainOptimizer
  /-- The printed form of a float. -/
  floatText : PyFloat → String
  gateway : TradeOffRequest → Except String TradeOffResponse
  defaultModel : String := "supply-chain-optimizer-model"

namespace SupplyChainWorkflow

/-! ## Risk -/

def HIGH_SUPPLIER_RISK_THRESHOLD : PyFloat := .Finite (4 / 10)

/-- Whether the reasoning takes a model. -/
def isComplex (analysis : SupplyChainAnalysisResult) : Bool :=
  0 < analysis.stockoutItems.length || analysis.budgetPressure
    || PyFloat.le HIGH_SUPPLIER_RISK_THRESHOLD analysis.maxSupplierRisk

/-- Deterministic risk level classification. -/
def evaluateRisk (analysis : SupplyChainAnalysisResult) (budgetStatus : BudgetPreCheck) :
    SupplyChainRisk :=
  if budgetStatus = .Block then .Critical
  else if 3 ≤ analysis.stockoutItems.length
      ∨ PyFloat.lt (.Finite 1000) analysis.totalShortageUnits = true then .Critical
  else if PyFloat.le HIGH_SUPPLIER_RISK_THRESHOLD analysis.maxSupplierRisk then .High
  else if analysis.budgetPressure = true
      ∨ PyFloat.lt (.Finite 0) analysis.budgetOverrunUsd = true then .High
  else if 0 < analysis.stockoutItems.length then .Medium
  else .Low

def requiresApproval (analysis : SupplyChainAnalysisResult) (budgetStatus : BudgetPreCheck) :
    Bool :=
  evaluateRisk analysis budgetStatus = .Critical || evaluateRisk analysis budgetStatus = .High
    || analysis.budgetPressure

/-- Categorize the recommendation type. -/
def determineRecommendationType (analysis : SupplyChainAnalysisResult) : String :=
  if PyFloat.le HIGH_SUPPLIER_RISK_THRESHOLD analysis.maxSupplierRisk then "supplier_switch"
  else if analysis.budgetPressure = true then "inventory_rebalance"
  else if 0 < analysis.stockoutItems.length then "replenishment"
  else "replenishment"

/-- What marks an action as a recommendation only. -/
def RECOMMENDATION_ONLY : String :=
  "RECOMMENDATION ONLY — requires authorized approval before execution. "

/-- Build governance-gated recommended action text. -/
def buildRecommendedAction (analysis : SupplyChainAnalysisResult) (requiresApproval : Bool) :
    String :=
  let actionPrefix := if requiresApproval then RECOMMENDATION_ONLY else ""
  if analysis.stockoutItems.isEmpty && !analysis.budgetPressure then
    actionPrefix ++ "Maintain current inventory levels and monitor scheduled supplier deliveries."
  else
    let orders :=
      if analysis.stockoutItems.isEmpty then []
      else ["Place replenishment purchase orders for "
        ++ ", ".intercalate analysis.stockoutItems]
    let routing := analysis.selectedLogistics.elim []
      fun route => ["route via " ++ route.shippingMode]
    let review :=
      if analysis.budgetPressure then
        ["review budget overrun of $" ++ PyFloat.money analysis.budgetOverrunUsd]
      else []
    actionPrefix ++ "; ".intercalate (orders ++ routing ++ review) ++ "."

variable (workflow : SupplyChainWorkflow)

/-! ## Explanations -/

def number (value : PyFloat) : Json := .Float value (workflow.floatText value)

/-- Deterministic summary for routine replenishment plans. -/
def deterministicExplanation (analysis : SupplyChainAnalysisResult) : String :=
  if analysis.stockoutItems.isEmpty then
    "All inventory items meet target safety stock levels. "
      ++ "No immediate replenishment order required; continue standard monitoring."
  else
    "Replenishment plan computed for items (" ++ ", ".intercalate analysis.stockoutItems
      ++ "). Total order volume: " ++ workflow.floatText analysis.totalShortageUnits
      ++ " units with estimated landed cost $" ++ PyFloat.money analysis.totalLandedCost
      ++ " over " ++ toString analysis.totalLeadTimeDays ++ " days lead time."

def SYSTEM_PROMPT : String :=
  "You are a supply chain optimization specialist. Analyze the provided inventory "
    ++ "deficits, scored supplier options, logistics candidates, and budget constraints. "
    ++ "Return a JSON object with a single key 'explanation' containing a clear, "
    ++ "concise operational summary of the trade-offs (balancing cost, stockout risk, "
    ++ "and lead time) and the rationale for the recommended procurement plan. "
    ++ "Do not execute or invent any external actions."

/-- The summary of the analysis that the model is shown. -/
def userContent (input : Input) (analysis : SupplyChainAnalysisResult) : Json :=
  .Dict
    [("stockout_items", .Items (analysis.stockoutItems.map .Text)),
      ("total_shortage_units", workflow.number analysis.totalShortageUnits),
      ("recommended_orders", .Dict (analysis.recommendedOrderQuantity.map fun (itemId, quantity) =>
        (itemId, workflow.number quantity))),
      ("procurement_cost_usd", workflow.number analysis.totalProcurementCost),
      ("logistics_cost_usd", workflow.number analysis.totalLogisticsCost),
      ("total_landed_cost_usd", workflow.number analysis.totalLandedCost),
      ("budget_limit_usd", input.budgetLimit),
      ("budget_pressure", .Boolean analysis.budgetPressure),
      ("budget_overrun_usd", workflow.number analysis.budgetOverrunUsd),
      ("max_supplier_risk", workflow.number analysis.maxSupplierRisk),
      ("lead_time_days", .Integer analysis.totalLeadTimeDays),
      ("business_priority", input.businessPriority)]

/-- The explanation in the answer, or the answer where there is none in it. -/
def parseExplanation (content : String) : Except FloatError Json :=
  match workflow.optimizer.runtime.jsonLoads content with
  | .ok (.Dict entries) => .ok ((lookup entries "explanation").getD (.Text content))
  | .ok _ => .ok (.Text content)
  | .error .JSONDecodeError => .ok (.Text content)
  | .error (.Other exception) => .error (.Other exception)

def optionalInteger (value : Option Int) : Json := value.elim .Null .Integer

/-- Emit a telemetry event. -/
def emit (event : String) (payload : Record) : Traced SupplyChainEvent FloatError Unit :=
  Traced.perform (.Emitted event payload) (.ok ())

/-- Invoke the gateway for complex multi-objective reasoning. -/
def llmReasoning (input : Input) (analysis : SupplyChainAnalysisResult) :
    Traced SupplyChainEvent FloatError TradeOff := do
  emit "llm.call_started"
    [("model", .Text workflow.defaultModel),
      ("reason", .Text "supply_chain_tradeoff_optimization")]
  let request : TradeOffRequest :=
    { model := workflow.defaultModel
      system := SYSTEM_PROMPT
      user := written ((jsonForm false).pieces (workflow.userContent input analysis)) }
  let response ←
    Traced.perform (.ModelCall request) ((workflow.gateway request).mapError .Other)
  Traced.perform
    (.CostRecorded "llm_inference" 0 "Supply Chain trade-off LLM reasoning" "ESTIMATED") (.ok ())
  emit "llm.call_completed"
    [("model", .Text response.model), ("input_tokens", optionalInteger response.inputTokens),
      ("output_tokens", optionalInteger response.outputTokens),
      ("total_tokens", optionalInteger response.totalTokens),
      ("latency_ms", workflow.number (.Finite response.latencyMs))]
  emit "cost.recorded"
    [("cost_type", .Text "llm_inference"), ("amount_usd", workflow.number (.Finite 0)),
      ("provenance", .Text "ESTIMATED")]
  let explanation ← Traced.silent (workflow.parseExplanation response.content)
  return {
    explanation := explanation
    modelUsed := response.model
    promptTokens := response.inputTokens
    completionTokens := response.outputTokens
    totalTokens := response.totalTokens }

/-! ## The pipeline -/

def supplierAllocation (analysis : SupplyChainAnalysisResult) : List SupplierAllocation :=
  analysis.selectedSuppliers.map fun (itemId, supplier) =>
    { itemId := itemId
      selectedSupplierId := supplier.supplierId
      supplierName := supplier.name
      orderQuantity := (analysis.recommendedOrderQuantity.lookup itemId).getD (.Finite 0)
      unitPrice := supplier.unitPrice
      supplierRiskScore := supplier.riskScore }

def logisticsPlan (analysis : SupplyChainAnalysisResult) : Option LogisticsPlan :=
  analysis.selectedLogistics.map fun route =>
    { selectedRouteId := route.routeId
      shippingMode := route.shippingMode
      estimatedTransitDays := route.transitDays
      logisticsCostUsd := analysis.totalLogisticsCost }

/-- The output, given what the steps before found. -/
def buildOutput (input : Input) (budgetStatus : BudgetPreCheck)
    (analysis : SupplyChainAnalysisResult) (explanation : Json) (tradeOff : Option TradeOff) :
    SupplyChainOutput where
  recommendationType := determineRecommendationType analysis
  priority := input.businessPriority
  itemsAnalyzed := analysis.inventoryItems.length
  stockoutItems := analysis.stockoutItems
  totalShortageUnits := analysis.totalShortageUnits
  supplierAllocation := supplierAllocation analysis
  logisticsPlan := logisticsPlan analysis
  totalEstimatedCostUsd := analysis.totalLandedCost
  budgetStatus := budgetStatus
  budgetPressure := analysis.budgetPressure
  budgetOverrunUsd := analysis.budgetOverrunUsd
  totalLeadTimeDays := analysis.totalLeadTimeDays
  riskLevel := evaluateRisk analysis budgetStatus
  requiresApproval := requiresApproval analysis budgetStatus
  explanation := if explanation.truthy then explanation else .Text ""
  recommendedAction := buildRecommendedAction analysis (requiresApproval analysis budgetStatus)
  dataQuality := if tradeOff.isSome then "ESTIMATED" else "ACTUAL"
  modelUsed := tradeOff.map TradeOff.modelUsed
  promptTokens := tradeOff.bind TradeOff.promptTokens
  completionTokens := tradeOff.bind TradeOff.completionTokens
  totalTokens := tradeOff.bind TradeOff.totalTokens

/-- Step 5: the reasoning of a model, where it takes one. -/
def reason (input : Input) (analysis : SupplyChainAnalysisResult) :
    Traced SupplyChainEvent FloatError (Option TradeOff) := do
  if isComplex analysis then
    let tradeOff ← workflow.llmReasoning input analysis
    return some tradeOff
  else return none

/-- Steps 5 and 6: reasoning and risk evaluation. -/
def recommend (input : Input) (budgetStatus : BudgetPreCheck)
    (analysis : SupplyChainAnalysisResult) :
    Traced SupplyChainEvent FloatError SupplyChainOutput := do
  let tradeOff ← workflow.reason input analysis
  let explanation := tradeOff.elim (.Text (workflow.deterministicExplanation analysis))
    TradeOff.explanation
  emit "workflow.step_completed"
    [("step", .Text "risk_evaluation"),
      ("risk_level", .Text (evaluateRisk analysis budgetStatus).value),
      ("requires_approval", .Boolean (requiresApproval analysis budgetStatus)),
      ("used_llm", .Boolean (isComplex analysis))]
  return buildOutput input budgetStatus analysis explanation tradeOff

/-- Run the end-to-end workflow. -/
def execute (inputData : Record) : Traced SupplyChainEvent FloatError SupplyChainOutput := do
  let input ← Traced.silent (readInput inputData)
  emit "workflow.step_completed"
    [("step", .Text "input_validation"), ("status", .Text "passed")]
  let budgetStatus ← Traced.silent (evaluateBudgetPolicy input.budgetLimit)
  emit "workflow.step_completed"
    [("step", .Text "budget_policy_check"), ("budget_status", .Text budgetStatus.value),
      ("business_priority", input.businessPriority)]
  let suppliers ← Traced.silent (filterSupplierContext input.suppliers)
  let logistics ← Traced.silent (filterLogisticsContext input.logistics)
  let analysis ← Traced.silent (workflow.optimizer.analyze input.inventory input.demand suppliers
    logistics input.budgetLimit)
  emit "workflow.step_completed"
    [("step", .Text "candidate_analysis"),
      ("stockout_items", .Items (analysis.stockoutItems.map .Text)),
      ("total_shortage_units", workflow.number analysis.totalShortageUnits),
      ("total_landed_cost", workflow.number analysis.totalLandedCost),
      ("budget_pressure", .Boolean analysis.budgetPressure)]
  workflow.recommend input budgetStatus analysis

end SupplyChainWorkflow

end CostPlatform
