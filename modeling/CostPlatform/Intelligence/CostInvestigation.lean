import CostPlatform.Intelligence.CostAnomaly
import CostPlatform.Library.Stages

/-!
# The cost investigation

The graph of eight nodes, one after the other, each of which reads the state and sets fields of it.
A node raises where the metrics hold what it cannot compute with, or where the model fails.  The
second node keeps the first anomaly that is detected, and the last one takes the risk from it.

The graph runs under a timeout.  When it strikes is left open: after any number of nodes, or in the
call of the model.  What was found by then is dropped.
-/

namespace CostPlatform

open PyJson CostAnomalyDetector
open Calendar (Timestamp)

/-! ## Collaborators -/

structure HistoryEntry where
  cost : ℚ := 0
  deriving DecidableEq, Repr

/-- What the investigation reads of a cost summary. -/
structure CostSummary where
  averageDailyCost : ℚ
  costStdDev : ℚ
  modelBreakdown : List (String × ℚ)
  workloadBreakdown : List (String × ℚ)
  deriving DecidableEq, Repr

structure CostService where
  /-- `variance**0.5`. -/
  sqrt : ℚ → ℚ
  defaultDailyMean : ℚ := 50
  defaultDailyStd : ℚ := 10

/-- The history that is given, or a representative one of the window. -/
def CostService.historyOf (service : CostService) (timeWindowDays : Int)
    (customHistory : Option (List HistoryEntry)) : List HistoryEntry :=
  match customHistory with
  | some (entry :: entries) => entry :: entries
  | _ =>
      List.replicate timeWindowDays.toNat { cost := PyFloat.roundTo 2 service.defaultDailyMean }

def CostService.getCostHistory (service : CostService) (timeWindowDays : Int)
    (customHistory : Option (List HistoryEntry)) : CostSummary :=
  let costs := (service.historyOf timeWindowDays customHistory).map HistoryEntry.cost
  let totalCost := costs.sum
  let n : ℚ := max 1 costs.length
  let average := totalCost / n
  let variance := (costs.map fun cost => (cost - average) ^ 2).sum / n
  let stdDev := if 0 < variance then service.sqrt variance else service.defaultDailyStd
  { averageDailyCost := PyFloat.roundTo 2 average
    costStdDev := PyFloat.roundTo 2 stdDev
    modelBreakdown :=
      [("gpt-4o-mini", PyFloat.roundTo 2 (totalCost * (60 / 100))),
        ("llama-3-8b", PyFloat.roundTo 2 (totalCost * (25 / 100))),
        ("claude-3-5-sonnet", PyFloat.roundTo 2 (totalCost * (15 / 100)))]
    workloadBreakdown :=
      [("predictive_maintenance", PyFloat.roundTo 2 (totalCost * (45 / 100))),
        ("quality_check", PyFloat.roundTo 2 (totalCost * (35 / 100))),
        ("supply_chain", PyFloat.roundTo 2 (totalCost * (20 / 100)))] }

/-- A proposed non-activated routing policy adjustment. -/
structure PolicyProposal where
  proposalId : String
  workloadType : String
  currentModel : String
  recommendedModel : String
  targetTrafficPercent : ℚ := 100
  estimatedMonthlySavingUsd : PyFloat
  qualityImpactPercent : ℚ
  status : String := "PENDING_APPROVAL"
  requiresApproval : Bool := true
  reason : Json

def proposePolicyChange (proposalId workloadType currentModel recommendedModel : String)
    (estimatedMonthlySaving : PyFloat) (qualityImpact : ℚ) (reason : Json) : PolicyProposal where
  proposalId := proposalId
  workloadType := workloadType
  currentModel := currentModel
  recommendedModel := recommendedModel
  estimatedMonthlySavingUsd := PyFloat.round 2 estimatedMonthlySaving
  qualityImpactPercent := PyFloat.roundTo 2 qualityImpact
  reason :=
    if reason.truthy then reason
    else .Text ("Cost optimization proposal to route " ++ workloadType ++ " to "
      ++ recommendedModel)

/-! ## State -/

/-- The fields of the anomaly that is investigated. -/
structure InvestigatedAnomaly where
  anomalyType : String
  severity : AnomalySeverity
  expectedValue : PyFloat
  actualValue : PyFloat
  deviationPercent : PyFloat
  reason : String
  deriving DecidableEq, Repr

def InvestigatedAnomaly.of (anomaly : DetectedAnomaly) : InvestigatedAnomaly where
  anomalyType := anomaly.anomalyType
  severity := anomaly.severity
  expectedValue := anomaly.expectedValue
  actualValue := anomaly.actualValue
  deviationPercent := anomaly.deviationPercent
  reason := anomaly.reason

structure Driver where
  driverType : String
  name : String
  volume : Json
  impact : String

/-- What a period is compared with. -/
structure UsageComparison where
  baselineBreakdown : List (String × ℚ)
  current : Json
  focus : String

/-- Typed state of the graph. -/
structure InvestigationState where
  requestId : String
  scope : DetectionScope
  timeWindowDays : Int := 30
  customHistory : Option (List HistoryEntry) := none
  currentMetrics : CurrentMetrics := []
  historicalSummary : Option CostSummary := none
  anomaly : Option InvestigatedAnomaly := none
  drivers : List Driver := []
  modelComparison : Option UsageComparison := none
  workloadComparison : Option UsageComparison := none
  rootCause : Json := .Text ""
  recommendation : String := ""
  estimatedSaving : PyFloat := .Finite 0
  qualityImpact : ℚ := 0
  risk : String := "LOW"
  proposedPolicyChange : Option PolicyProposal := none
  status : String := "in_progress"
  iterationCount : Nat := 0

/-- What the model is asked about. -/
structure RootCauseQuestion where
  anomaly : InvestigatedAnomaly
  drivers : List Driver
  modelComparison : Option UsageComparison
  workloadComparison : Option UsageComparison

/-- How a graph fails: with a `TimeoutError`, its own or the gateway's, or another exception. -/
inductive GraphFailure where
  | TimeoutError
  | Raised (exception : String)
  deriving DecidableEq, Repr

/-- The model behind the gateway, and how its answer is decoded. -/
structure RootCauseModel where
  generateText : RootCauseQuestion → Except GraphFailure String
  jsonLoads : String → Except JsonError Json

structure CostInvestigationWorkflow where
  detector : CostAnomalyDetector
  costService : CostService
  float : Json → Except FloatError PyFloat
  newProposalId : String

/-! ## Nodes -/

namespace CostInvestigationWorkflow

variable (workflow : CostInvestigationWorkflow)

def loadHistoricalCost (state : InvestigationState) : Except GraphFailure InvestigationState :=
  .ok { state with
    iterationCount := state.iterationCount + 1
    historicalSummary :=
      some (workflow.costService.getCostHistory state.timeWindowDays state.customHistory) }

/-- The cost of the history, and fixed figures for the rest. -/
def baselineOf (summary : Option CostSummary) : HistoricalBaseline where
  costUsd := some
    { mean := some ((summary.map CostSummary.averageDailyCost).getD 50)
      std := some ((summary.map CostSummary.costStdDev).getD 10) }
  tokenCount := some { mean := some 10000, std := some 2000 }
  latencyMs := some { mean := some 450, std := some 100 }
  requestCount := some { mean := some 100, std := some 20 }

def detectAnomaly (state : InvestigationState) : Except GraphFailure InvestigationState := do
  let anomalies ← (workflow.detector.detectAnomalies state.currentMetrics
    (baselineOf state.historicalSummary) state.scope).mapError .Raised
  return { state with
    iterationCount := state.iterationCount + 1
    anomaly := anomalies.head?.map .of }

/-- The calls of expensive models among the entries of a distribution. -/
def surges : List (String × Json) → Except String (List Driver)
  | [] => .ok []
  | (modelName, calls) :: entries => do
      let more (rest : List Driver) : List Driver :=
        { driverType := "expensive_model_surge", name := modelName, volume := calls,
          impact := "HIGH" } :: rest
      if modelName ∈ EXPENSIVE_MODELS then
        let count ← readCount calls
        let rest ← surges entries
        return if PyFloat.lt (.Finite 0) count then more rest else rest
      else surges entries

/-- The drivers that the metrics show. -/
def driversOf (metrics : CurrentMetrics) : Except String (List Driver) := do
  let distribution := (lookup metrics "model_distribution").getD (.Dict [])
  let surging ←
    if distribution.truthy then
      match distribution with
      | .Dict entries => surges entries
      | _ => .error "AttributeError"
    else .ok []
  let tokens := (lookup metrics "token_count").getD (.Integer 0)
  let tokenCount ← readCount tokens
  let drivers :=
    if PyFloat.lt (.Finite 20000) tokenCount then
      surging ++ [{ driverType := "high_token_volume", name := "large_prompt_contexts",
                    volume := tokens, impact := "MEDIUM" }]
    else surging
  return if drivers.isEmpty then
    [{ driverType := "workload_volume", name := "predictive_maintenance",
       volume := (lookup metrics "request_count").getD (.Integer 100), impact := "LOW" }]
  else drivers

def identifyDrivers (state : InvestigationState) : Except GraphFailure InvestigationState := do
  let drivers ← (driversOf state.currentMetrics).mapError .Raised
  return { state with iterationCount := state.iterationCount + 1, drivers := drivers }

/-- The mix of models, compared with that of the history. -/
def modelComparisonOf (summary : Option CostSummary) (metrics : CurrentMetrics) :
    UsageComparison where
  baselineBreakdown := (summary.map CostSummary.modelBreakdown).getD []
  current := (lookup metrics "model_distribution").getD (.Dict [])
  focus := "claude-3-5-sonnet"

/-- The volume of requests, beside the workloads of the history. -/
def workloadComparisonOf (summary : Option CostSummary) (metrics : CurrentMetrics) :
    UsageComparison where
  baselineBreakdown := (summary.map CostSummary.workloadBreakdown).getD []
  current := (lookup metrics "request_count").getD (.Integer 100)
  focus := "predictive_maintenance"

def compareModelWorkload (state : InvestigationState) : Except GraphFailure InvestigationState :=
  .ok { state with
    iterationCount := state.iterationCount + 1
    modelComparison := some (modelComparisonOf state.historicalSummary state.currentMetrics)
    workloadComparison :=
      some (workloadComparisonOf state.historicalSummary state.currentMetrics) }

/-- The root cause in an answer, or the answer where there is none in it. -/
def parseRootCause (model : RootCauseModel) (content : String) : Except String Json :=
  match model.jsonLoads content with
  | .ok (.Dict entries) => .ok ((lookup entries "root_cause").getD (.Text content))
  | .ok _ => .ok (.Text content)
  | .error .JSONDecodeError => .ok (.Text content)
  | .error (.Other exception) => .error exception

def rootCauseReasoning (model : RootCauseModel) (state : InvestigationState) :
    Except GraphFailure InvestigationState :=
  match state.anomaly with
  | none =>
      .ok { state with
        iterationCount := state.iterationCount + 1
        rootCause := .Text "Cost and usage metrics are within normal historical operating bounds." }
  | some anomaly => do
      let content ← model.generateText
        { anomaly := anomaly, drivers := state.drivers, modelComparison := state.modelComparison,
          workloadComparison := state.workloadComparison }
      let rootCause ← (parseRootCause model content).mapError .Raised
      return { state with iterationCount := state.iterationCount + 1, rootCause := rootCause }

def recommend (state : InvestigationState) : Except GraphFailure InvestigationState :=
  .ok { state with
    iterationCount := state.iterationCount + 1
    recommendation :=
      if state.anomaly.isNone then
        "Maintain current model routing policies and monitor standard operational thresholds."
      else
        "Optimize model routing by directing routine analysis to lightweight models "
          ++ "(e.g., gpt-4o-mini / llama-3-8b) and reserving advanced reasoning models "
          ++ "only for high-severity complex incidents." }

/-- `float(current.get("cost_usd", 50.0))`. -/
def currentCost (metrics : CurrentMetrics) : Except String PyFloat :=
  match workflow.float ((lookup metrics "cost_usd").getD (.Float (.Finite 50) "50.0")) with
  | .ok cost => .ok cost
  | .error .ValueError => .error "ValueError"
  | .error .TypeError => .error "TypeError"
  | .error (.Other exception) => .error exception

def savingsEstimate (state : InvestigationState) : Except GraphFailure InvestigationState := do
  let cost ← (workflow.currentCost state.currentMetrics).mapError .Raised
  return { state with
    iterationCount := state.iterationCount + 1
    estimatedSaving :=
      if state.anomaly.isNone then .Finite 0
      else PyFloat.round 2 (PyFloat.scale (40 / 100) cost)
    qualityImpact := if state.anomaly.isNone then 0 else 1 / 100 }

/-- The risk of what is investigated. -/
def riskOf : Option InvestigatedAnomaly → String
  | none => "LOW"
  | some anomaly =>
      if anomaly.severity = .Low ∨ anomaly.severity = .Medium then "MEDIUM" else "HIGH"

def riskEvaluation (state : InvestigationState) : Except GraphFailure InvestigationState :=
  .ok { state with
    iterationCount := state.iterationCount + 1
    risk := riskOf state.anomaly
    proposedPolicyChange := state.anomaly.map fun _ =>
      proposePolicyChange workflow.newProposalId "predictive_maintenance" "claude-3-5-sonnet"
        "gpt-4o-mini" (PyFloat.scale 30 state.estimatedSaving) state.qualityImpact state.rootCause
    status := "completed" }

/-! ## The graph and its timeout -/

/-- The nodes, from the start of the graph to its end. -/
def graph (model : RootCauseModel) :
    List (InvestigationState → Except GraphFailure InvestigationState) :=
  [workflow.loadHistoricalCost, workflow.detectAnomaly, identifyDrivers, compareModelWorkload,
    rootCauseReasoning model, recommend, workflow.savingsEstimate, workflow.riskEvaluation]

/-- `asyncio.wait_for`, with a timer that fires after so many nodes, if it does. -/
def waitFor (model : RootCauseModel) (timer : Option Nat) (start : InvestigationState) :
    Except GraphFailure InvestigationState :=
  match timer with
  | none => Stages.run (workflow.graph model) start
  | some n => do
      let state ← Stages.run ((workflow.graph model).take n) start
      if n < (workflow.graph model).length then .error .TimeoutError else .ok state

/-- Structured result of the investigation. -/
structure Result where
  requestId : String
  scope : DetectionScope
  anomaly : Option InvestigatedAnomaly
  drivers : List Driver
  rootCause : Json
  recommendation : String
  estimatedSaving : PyFloat
  qualityImpact : ℚ
  risk : String
  proposedPolicyChange : Option PolicyProposal
  status : String

def formatResult (state : InvestigationState) : Result where
  requestId := state.requestId
  scope := state.scope
  anomaly := state.anomaly
  drivers := state.drivers
  rootCause := state.rootCause
  recommendation := state.recommendation
  estimatedSaving := state.estimatedSaving
  qualityImpact := state.qualityImpact
  risk := state.risk
  proposedPolicyChange := state.proposedPolicyChange
  status := state.status

/-- What an investigation is asked for. -/
structure Request where
  requestId : String
  scope : DetectionScope
  timeWindowDays : Int := 30
  currentMetrics : CurrentMetrics := []
  customHistory : Option (List HistoryEntry) := none

def initialState (request : Request) : InvestigationState where
  requestId := request.requestId
  scope := request.scope
  timeWindowDays := request.timeWindowDays
  customHistory := request.customHistory
  currentMetrics := request.currentMetrics

/-- The result of an investigation that ran out of time. -/
def timedOut (request : Request) : Result where
  requestId := request.requestId
  scope := request.scope
  anomaly := none
  drivers := []
  rootCause := .Text "Investigation timed out during analysis."
  recommendation := "Investigate latency on analytics and data retrieval layers."
  estimatedSaving := .Finite 0
  qualityImpact := 0
  risk := "HIGH"
  proposedPolicyChange := none
  status := "timeout"

/-- Run the graph with its timeout. -/
def execute (model : RootCauseModel) (timer : Option Nat) (request : Request) :
    Except String Result :=
  match workflow.waitFor model timer (initialState request) with
  | .ok final => .ok (formatResult final)
  | .error .TimeoutError => .ok (timedOut request)
  | .error (.Raised exception) => .error exception

end CostInvestigationWorkflow

end CostPlatform
