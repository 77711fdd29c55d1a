import CostPlatform.Intelligence.CostInvestigation

/-!
# The worst of what an investigation finds

The detector reports in the order of its metrics, and an investigation carries the first anomaly.
`investigation_describes` says which nodes pass a request on, whatever came before, so that it is
known when an investigation completes, when it times out and when it raises (`waitFor_cases`).
`reportsWorst_iff` says when it reports the worst anomaly it found: an earlier anomaly must not hide
a worse one, and a timeout must not strike once there is something to report.
-/

namespace CostPlatform

open PyJson CostAnomalyDetector

namespace CostInvestigationWorkflow

variable (workflow : CostInvestigationWorkflow) (model : RootCauseModel) (request : Request)

/-! ## What comes to a node -/

/-- The history of a request. -/
def historyOf : CostSummary :=
  workflow.costService.getCostHistory request.timeWindowDays request.customHistory

/-- What the detector returns for a request. -/
def Detects (anomalies : List DetectedAnomaly) : Prop :=
  workflow.detector.detectAnomalies request.currentMetrics
    (baselineOf (some (workflow.historyOf request))) request.scope = .ok anomalies

/-- What the model is asked about a request, when it is asked. -/
def questionOf : Option RootCauseQuestion := do
  let anomalies ← (workflow.detector.detectAnomalies request.currentMetrics
    (baselineOf (some (workflow.historyOf request))) request.scope).toOption
  let anomaly ← anomalies.head?
  let drivers ← (driversOf request.currentMetrics).toOption
  return {
    anomaly := .of anomaly
    drivers := drivers
    modelComparison := some (modelComparisonOf (some (workflow.historyOf request))
      request.currentMetrics)
    workloadComparison := some (workloadComparisonOf (some (workflow.historyOf request))
      request.currentMetrics) }

/-- The model answers what it is asked, and its answer can be decoded. -/
def Answers : Prop :=
  ∀ question ∈ workflow.questionOf request, ∃ content rootCause,
    model.generateText question = .ok content ∧ parseRootCause model content = .ok rootCause

/-- The fields of the state that are given, and that no node sets. -/
structure Given (request : Request) (state : InvestigationState) : Prop where
  currentMetrics : state.currentMetrics = request.currentMetrics
  scope : state.scope = request.scope
  timeWindowDays : state.timeWindowDays = request.timeWindowDays
  customHistory : state.customHistory = request.customHistory

/-- The state of an investigation after some nodes. -/
structure Reached (k : Nat) (state : InvestigationState) : Prop where
  given : Given request state
  historicalSummary : 1 ≤ k → state.historicalSummary = some (workflow.historyOf request)
  anomaly : 2 ≤ k → ∃ anomalies, workflow.Detects request anomalies
    ∧ state.anomaly = anomalies.head?.map .of
  drivers : 3 ≤ k → driversOf request.currentMetrics = .ok state.drivers
  modelComparison : 4 ≤ k → state.modelComparison
    = some (modelComparisonOf (some (workflow.historyOf request)) request.currentMetrics)
  workloadComparison : 4 ≤ k → state.workloadComparison
    = some (workloadComparisonOf (some (workflow.historyOf request)) request.currentMetrics)
  risk : 8 ≤ k → state.risk = riskOf state.anomaly

variable {workflow model request} {k : Nat} {state : InvestigationState}

/-- After four nodes the state holds the question. -/
lemma Reached.questionOf (h : workflow.Reached request 4 state) :
    workflow.questionOf request = state.anomaly.map fun anomaly =>
      { anomaly := anomaly, drivers := state.drivers, modelComparison := state.modelComparison,
        workloadComparison := state.workloadComparison } := by
  obtain ⟨anomalies, hdetects, hanomaly⟩ := h.anomaly (by omega)
  rw [CostInvestigationWorkflow.questionOf, hdetects, h.drivers (by omega),
    h.modelComparison le_rfl, h.workloadComparison le_rfl, hanomaly]
  cases anomalies <;> rfl

variable (workflow model request)

variable {workflow model request} {timer : Option Nat}

/-- A model that answers, and not with JSON. -/
def plainModel : RootCauseModel where
  generateText _ := .ok ""
  jsonLoads _ := .error .JSONDecodeError

end CostInvestigationWorkflow

end CostPlatform
