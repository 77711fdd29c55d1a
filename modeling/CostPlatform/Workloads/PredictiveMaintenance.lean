import CostPlatform.Intelligence.SensorAnomaly
import CostPlatform.Library.JsonText
import CostPlatform.Library.Traced

/-!
# Predictive maintenance

The three steps of the workflow: anomaly detection, root-cause reasoning, which asks a model only
about an anomaly of several metrics, and risk classification.

The classification has branches for a medium and for a high risk.  A flagged anomaly reaches
neither, because its score is always 1 (`classifyRisk_of_anomalous`), so every anomalous machine
waits for an approval (`anomalies_need_approval`).
-/

namespace CostPlatform

open PyJson

/-! ## What goes in and comes out -/

/-- A validated input. -/
structure MaintenanceInput where
  machineId : Json
  sensorReadings : List (String × Json)
  maintenanceHistory : Json := .Items []
  machineType : Json := .Text "unknown"

inductive MaintenanceRisk where
  | Low
  | Medium
  | High
  | Critical
  deriving DecidableEq, Repr

def MaintenanceRisk.value : MaintenanceRisk → String
  | .Low => "low"
  | .Medium => "medium"
  | .High => "high"
  | .Critical => "critical"

/-- A text generation request, with its system and its user message. -/
structure RootCauseRequest where
  model : String
  system : String
  user : String
  responseFormat : String := "json_object"
  temperature : ℚ := 3 / 10
  maxOutputTokens : Nat := 512
  deriving DecidableEq, Repr

structure RootCauseResponse where
  model : String
  content : String
  inputTokens : Option Int
  outputTokens : Option Int
  totalTokens : Option Int
  latencyMs : ℚ
  deriving DecidableEq, Repr

/-- What the workflow does beside computing. -/
inductive MaintenanceEvent where
  | StepCompleted (step : String)
  | LlmCallStarted (model : String)
  | ModelCall (request : RootCauseRequest)
  | CostRecorded (amountUsd : ℚ) (description : String)
  | LlmCallCompleted (response : RootCauseResponse)
  deriving DecidableEq, Repr

structure RootCause where
  explanation : Json
  modelUsed : String
  promptTokens : Option Int
  completionTokens : Option Int
  totalTokens : Option Int

/-- The raw output. -/
structure MaintenanceOutput where
  machineId : Json
  machineType : Json
  recommendationType : String
  priority : MaintenanceRisk
  description : Json
  riskLevel : MaintenanceRisk
  confidenceScore : PyFloat
  recommendedAction : String
  dataQuality : String
  isAnomalous : Bool
  anomalyScore : PyFloat
  anomalousMetrics : List String
  missingMetrics : List String
  requiresApproval : Bool
  modelUsed : Option String := none
  promptTokens : Option Int := none
  completionTokens : Option Int := none
  totalTokens : Option Int := none

structure PredictiveMaintenanceWorkflow where
  runtime : Runtime
  /-- The printed form of a float. -/
  floatText : PyFloat → String
  gateway : RootCauseRequest → Except String RootCauseResponse
  detector : SensorAnomalyDetector
  defaultModel : String := "predictive-maintenance-model"

/-! ## Risk -/

def COMPLEX_ANOMALY_THRESHOLD : Nat := 2

def HIGH_RISK_ANOMALY_SCORE : PyFloat := .Finite (85 / 100)

def CRITICAL_RISK_ANOMALY_SCORE : PyFloat := .Finite (95 / 100)

def classifyRisk (result : AnomalyResult) : MaintenanceRisk :=
  if PyFloat.le CRITICAL_RISK_ANOMALY_SCORE result.anomalyScore
      || decide (4 ≤ result.anomalousMetrics.length) then .Critical
  else if PyFloat.le HIGH_RISK_ANOMALY_SCORE result.anomalyScore
      || decide (3 ≤ result.anomalousMetrics.length) then .High
  else .Medium

def selectRecommendationType (result : AnomalyResult) : String :=
  if 3 ≤ result.anomalousMetrics.length then "corrective"
  else if PyFloat.le HIGH_RISK_ANOMALY_SCORE result.anomalyScore then "corrective"
  else "condition_based"

/-- What marks an action as a recommendation only. -/
def RECOMMENDATION_ONLY : String :=
  "RECOMMENDATION ONLY — requires authorized approval before execution. "

namespace PredictiveMaintenanceWorkflow

variable (workflow : PredictiveMaintenanceWorkflow)

def buildRecommendedAction (result : AnomalyResult) (explanation : Json)
    (riskLevel : MaintenanceRisk) : String :=
  let actionPrefix :=
    if riskLevel = .Critical ∨ riskLevel = .High then RECOMMENDATION_ONLY else ""
  if explanation.truthy && decide (COMPLEX_ANOMALY_THRESHOLD ≤ result.anomalousMetrics.length) then
    actionPrefix ++ ("Schedule urgent inspection. " ++ workflow.runtime.str explanation)
  else
    actionPrefix ++ ("Inspect anomalous sensor(s): "
      ++ ", ".intercalate result.anomalousMetrics ++ ". Schedule condition-based maintenance.")

/-! ## Explanations -/

/-- One metric of the explanation that needs no model. -/
def explainMetric (metricName : String) (detail : MetricDetail) : String :=
  let direction := if PyFloat.lt detail.mean detail.value then "above" else "below"
  metricName ++ " is " ++ direction ++ " normal range (value="
    ++ workflow.floatText detail.value ++ ", expected≈" ++ workflow.floatText detail.mean ++ "±"
    ++ workflow.floatText detail.std ++ ", z-score=" ++ workflow.floatText detail.zScore ++ ")"

def deterministicExplanation (result : AnomalyResult) : String :=
  let parts := result.anomalousMetrics.filterMap fun metricName =>
    (result.metricDetails.lookup metricName).map (workflow.explainMetric metricName)
  if parts.isEmpty then "Anomaly detected in sensor readings. Recommend inspection."
  else "Anomaly detected: " ++ "; ".intercalate parts ++ ". Recommend inspection."

def SYSTEM_PROMPT : String :=
  "You are a manufacturing maintenance expert. Analyse the anomalous "
    ++ "sensor readings and maintenance history provided. Return a JSON object "
    ++ "with a single key 'explanation' containing a concise root-cause "
    ++ "analysis and recommended corrective action. Do not include any "
    ++ "information not derived from the provided data."

/-- `maintenance_history[-10:] if maintenance_history else []`. -/
def filteredHistory (history : Json) : Except String Json :=
  if history.truthy then
    match history with
    | .Items items => .ok (.Items (items.drop (items.length - 10)))
    | .Text text => .ok (.Text (String.ofList (text.toList.drop (text.length - 10))))
    | _ => .error "TypeError"
  else .ok (.Items [])

def floatJson (value : PyFloat) : Json := .Float value (workflow.floatText value)

def userContent (input : MaintenanceInput) (result : AnomalyResult) (history : Json) : Json :=
  .Dict
    [("machine_id", input.machineId), ("machine_type", input.machineType),
      ("anomalous_metrics", .Items (result.anomalousMetrics.map .Text)),
      ("anomaly_score", workflow.floatJson result.anomalyScore),
      ("sensor_analysis", .Dict (result.metricDetails.map fun (metricName, detail) =>
        (metricName, .Dict
          [("value", workflow.floatJson detail.value),
            ("z_score", workflow.floatJson detail.zScore),
            ("threshold", workflow.floatJson detail.zThreshold),
            ("is_anomalous", .Boolean detail.isAnomalous)]))),
      ("recent_maintenance_history", history)]

/-- The explanation in the answer, or the answer where there is none in it. -/
def parseExplanation (content : String) : Except String Json :=
  match workflow.runtime.jsonLoads content with
  | .ok (.Dict entries) => .ok ((lookup entries "explanation").getD (.Text content))
  | .ok _ => .ok (.Text content)
  | .error .JSONDecodeError => .ok (.Text content)
  | .error (.Other exception) => .error exception

/-- Invoke the LLM for complex root-cause reasoning. -/
def llmRootCause (input : MaintenanceInput) (result : AnomalyResult) :
    Traced MaintenanceEvent String RootCause := do
  Traced.perform (.LlmCallStarted workflow.defaultModel) (.ok ())
  let history ← Traced.silent (filteredHistory input.maintenanceHistory)
  let request : RootCauseRequest :=
    { model := workflow.defaultModel
      system := SYSTEM_PROMPT
      user := written ((jsonForm false).pieces (workflow.userContent input result history)) }
  let response ← Traced.perform (.ModelCall request) (workflow.gateway request)
  Traced.perform (.CostRecorded 0
    ("PdM root-cause analysis for machine " ++ workflow.runtime.str input.machineId)) (.ok ())
  Traced.perform (.LlmCallCompleted response) (.ok ())
  let explanation ← Traced.silent (workflow.parseExplanation response.content)
  return {
    explanation := explanation
    modelUsed := response.model
    promptTokens := response.inputTokens
    completionTokens := response.outputTokens
    totalTokens := response.totalTokens }

/-! ## The pipeline -/

def buildNormalResult (input : MaintenanceInput) (result : AnomalyResult) : MaintenanceOutput where
  machineId := input.machineId
  machineType := input.machineType
  recommendationType := "preventive"
  priority := .Low
  description := .Text ("All sensor readings are within normal operating ranges. "
    ++ "Continue routine monitoring and scheduled maintenance.")
  riskLevel := .Low
  confidenceScore := .Finite 1
  recommendedAction := "Continue scheduled preventive maintenance."
  dataQuality := "ACTUAL"
  isAnomalous := false
  anomalyScore := result.anomalyScore
  anomalousMetrics := []
  missingMetrics := result.missingMetrics
  requiresApproval := false

/-- Step C, given what step B found. -/
def buildAnomalyResult (input : MaintenanceInput) (result : AnomalyResult) (explanation : Json)
    (rootCause : Option RootCause) : MaintenanceOutput where
  machineId := input.machineId
  machineType := input.machineType
  recommendationType := selectRecommendationType result
  priority := classifyRisk result
  description := if explanation.truthy then explanation else .Text ""
  riskLevel := classifyRisk result
  confidenceScore :=
    PyFloat.round 4 (PyFloat.sub (.Finite 1) (PyFloat.scale (3 / 10) result.anomalyScore))
  recommendedAction := workflow.buildRecommendedAction result explanation (classifyRisk result)
  dataQuality := if rootCause.isSome then "ESTIMATED" else "ACTUAL"
  isAnomalous := result.isAnomalous
  anomalyScore := result.anomalyScore
  anomalousMetrics := result.anomalousMetrics
  missingMetrics := result.missingMetrics
  requiresApproval := classifyRisk result = .Critical ∨ classifyRisk result = .High
  modelUsed := rootCause.map RootCause.modelUsed
  promptTokens := rootCause.bind RootCause.promptTokens
  completionTokens := rootCause.bind RootCause.completionTokens
  totalTokens := rootCause.bind RootCause.totalTokens

/-- Run the full pipeline. -/
def execute (input : MaintenanceInput) : Traced MaintenanceEvent String MaintenanceOutput := do
  Traced.perform (.StepCompleted "input_validation") (.ok ())
  let result ← Traced.silent (workflow.detector.detect input.sensorReadings)
  Traced.perform (.StepCompleted "anomaly_detection") (.ok ())
  if result.isAnomalous then
    if COMPLEX_ANOMALY_THRESHOLD ≤ result.anomalousMetrics.length then
      let rootCause ← workflow.llmRootCause input result
      Traced.perform (.StepCompleted "risk_classification") (.ok ())
      return workflow.buildAnomalyResult input result rootCause.explanation (some rootCause)
    else
      let explanation := Json.Text (workflow.deterministicExplanation result)
      Traced.perform (.StepCompleted "risk_classification") (.ok ())
      return workflow.buildAnomalyResult input result explanation none
  else return buildNormalResult input result

/-! ## No anomaly without approval -/

variable {workflow}

/-- **A flagged anomaly is critical**, whatever it deviates by. -/
theorem classifyRisk_of_anomalous {detector : SensorAnomalyDetector}
    (hpos : detector.ranges.Positive) {readings : List (String × Json)} {result : AnomalyResult}
    (hdetect : detector.detect readings = .ok result) (hanomalous : result.isAnomalous = true) :
    classifyRisk result = .Critical := by
  have hscore : PyFloat.le CRITICAL_RISK_ANOMALY_SCORE (.Finite 1) = true := by decide +kernel
  rw [classifyRisk, anomalyScore_of_anomalous hpos hdetect hanomalous, hscore, Bool.true_or,
    if_pos rfl]

/-- A critical risk asks for approval, and recommends only. -/
structure RecommendationOnly (output : MaintenanceOutput) : Prop where
  critical : output.riskLevel = .Critical
  approval : output.requiresApproval = true
  recommended : ∃ action, output.recommendedAction = RECOMMENDATION_ONLY ++ action

lemma buildAnomalyResult_recommendationOnly {result : AnomalyResult}
    (hcritical : classifyRisk result = .Critical) (input : MaintenanceInput) (explanation : Json)
    (rootCause : Option RootCause) :
    RecommendationOnly (workflow.buildAnomalyResult input result explanation rootCause) where
  critical := hcritical
  approval := decide_eq_true (.inl hcritical)
  recommended := by
    simp only [buildAnomalyResult, buildRecommendedAction, hcritical, true_or, if_true]
    split_ifs
    · exact ⟨_, rfl⟩
    · exact ⟨_, rfl⟩

/-! ### The root-cause step -/

/-- No history, or one that `maintenance_history[-10:]` can be taken of. -/
def Sliceable (history : Json) : Prop :=
  history.truthy = false ∨ (∃ items, history = .Items items) ∨ ∃ text, history = .Text text

lemma filteredHistory_of_sliceable {history : Json} (h : Sliceable history) :
    ∃ filtered, filteredHistory history = .ok filtered := by
  by_cases hnone : history.truthy = true
  · rcases h with hfalsy | ⟨items, rfl⟩ | ⟨text, rfl⟩
    · exact absurd (hnone.symm.trans hfalsy) (by decide)
    · exact ⟨_, if_pos hnone⟩
    · exact ⟨_, if_pos hnone⟩
  · exact ⟨_, if_neg hnone⟩

variable (workflow) in
/-- The gateway answers a request, with a text that `json.loads` reads or refuses as no JSON. -/
def Answered (request : RootCauseRequest) : Prop :=
  ∃ response, workflow.gateway request = .ok response
    ∧ ∀ exception, workflow.runtime.jsonLoads response.content ≠ .error (.Other exception)

lemma parseExplanation_of_answered {content : String}
    (h : ∀ exception, workflow.runtime.jsonLoads content ≠ .error (.Other exception)) :
    ∃ explanation, workflow.parseExplanation content = .ok explanation := by
  rw [parseExplanation]
  cases hloads : workflow.runtime.jsonLoads content with
  | ok value => cases value <;> exact ⟨_, rfl⟩
  | error failure =>
      cases failure with
      | JSONDecodeError => exact ⟨_, rfl⟩
      | Other exception => exact absurd hloads (h exception)

/-- The root-cause step succeeds when the history is one and the model call is answered. -/
lemma llmRootCause_of_answered {input : MaintenanceInput} {result : AnomalyResult}
    (hhistory : Sliceable input.maintenanceHistory)
    (hanswered : ∀ request, .ModelCall request ∈ (workflow.llmRootCause input result).events →
      workflow.Answered request) :
    ∃ rootCause, (workflow.llmRootCause input result).result = .ok rootCause := by
  obtain ⟨filtered, hfiltered⟩ := filteredHistory_of_sliceable hhistory
  simp only [llmRootCause, hfiltered, Traced.perform_def, Traced.silent_def, Traced.ok_bind]
    at hanswered ⊢
  obtain ⟨response, hresponse, hloads⟩ := hanswered _
    (List.mem_append_right _ (Traced.mem_bind_events.mpr (.inl List.mem_cons_self)))
  obtain ⟨explanation, hexplanation⟩ := parseExplanation_of_answered hloads
  simp only [hresponse, hexplanation, Traced.ok_bind]
  exact ⟨_, rfl⟩

/-- **No anomalous machine is acted on without approval.**  A flagged anomaly scores 1 and is
    critical, and whatever the workflow returns of it is a recommendation that requires approval;
    it does return one, when the model call it makes, if it makes one, is answered and the history
    for it is one.  Where nothing is flagged, no model is called and no approval required. -/
theorem anomalies_need_approval (workflow : PredictiveMaintenanceWorkflow)
    (hpos : workflow.detector.ranges.Positive) (input : MaintenanceInput) (result : AnomalyResult)
    (hdetect : workflow.detector.detect input.sensorReadings = .ok result) :
    (result.isAnomalous = true →
      result.anomalyScore = .Finite 1 ∧ classifyRisk result = .Critical
        ∧ (∀ output, (workflow.execute input).result = .ok output → RecommendationOnly output)
        ∧ ((COMPLEX_ANOMALY_THRESHOLD ≤ result.anomalousMetrics.length →
              Sliceable input.maintenanceHistory) →
            (∀ request, .ModelCall request ∈ (workflow.execute input).events →
              workflow.Answered request) →
            ∃ output, (workflow.execute input).result = .ok output ∧ RecommendationOnly output))
      ∧ (result.isAnomalous = false →
        (∀ request, .ModelCall request ∉ (workflow.execute input).events)
          ∧ ∃ output, (workflow.execute input).result = .ok output
            ∧ output.requiresApproval = false) := by
  constructor
  · intro hanomalous
    have hcritical := classifyRisk_of_anomalous hpos hdetect hanomalous
    have honly : ∀ output, (workflow.execute input).result = .ok output →
        RecommendationOnly output := by
      intro output houtput
      simp only [execute, hdetect, hanomalous, Traced.perform_def, Traced.silent_def,
        Traced.ok_bind, if_true] at houtput
      split_ifs at houtput
      · obtain ⟨rootCause, -, houtput⟩ := Traced.bind_result_eq_ok.mp houtput
        cases houtput
        exact buildAnomalyResult_recommendationOnly hcritical _ _ _
      · cases houtput
        exact buildAnomalyResult_recommendationOnly hcritical _ _ _
    refine ⟨anomalyScore_of_anomalous hpos hdetect hanomalous, hcritical, honly, ?_⟩
    intro hhistory hanswered
    obtain ⟨output, houtput⟩ : ∃ output, (workflow.execute input).result = .ok output := by
      simp only [execute, hdetect, hanomalous, Traced.perform_def, Traced.silent_def,
        Traced.ok_bind, if_true] at hanswered ⊢
      split_ifs at hanswered ⊢ with hcomplex
      · obtain ⟨rootCause, hcause⟩ := llmRootCause_of_answered (hhistory hcomplex) fun request h =>
          hanswered request (List.mem_append_right _ (List.mem_append_right _
            (List.mem_append_right _ (Traced.mem_bind_events.mpr (.inl h)))))
        exact ⟨_, Traced.bind_result_eq_ok.mpr ⟨rootCause, hcause, rfl⟩⟩
      · exact ⟨_, rfl⟩
    exact ⟨output, houtput, honly output houtput⟩
  · intro hnormal
    simp only [execute, hdetect, hnormal, Traced.perform_def, Traced.silent_def, Traced.ok_bind]
    refine ⟨fun request h => ?_, _, rfl, rfl⟩
    simp at h

/-- A workflow with the default ranges and a model that has one answer. -/
def attended : PredictiveMaintenanceWorkflow where
  runtime :=
    { jsonLoads _ := .error .JSONDecodeError
      jsonDumps _ := .ok ""
      float _ := .error .TypeError
      repr _ := "" }
  floatText _ := ""
  gateway request := .ok
    { model := request.model
      content := "Worn bearing."
      inputTokens := none
      outputTokens := none
      totalTokens := none
      latencyMs := 0 }
  detector := .new none

def hotMachine : MaintenanceInput where
  machineId := .Text "press-7"
  sensorReadings :=
    [("temperature", .Float (.Finite 200) "200.0"), ("vibration", .Integer 9),
      ("rpm", .Float .NaN "nan")]

def hotResult : AnomalyResult where
  isAnomalous := true
  anomalyScore := .Finite 1
  anomalousMetrics := ["temperature", "vibration"]
  metricDetails :=
    [("temperature",
      { value := .Finite 200
        zScore := .Finite (27 / 2)
        zThreshold := .Finite (5 / 2)
        isAnomalous := true
        mean := .Finite 65
        std := .Finite 10 }),
      ("vibration",
      { value := .Finite 9
        zScore := .Finite (35 / 4)
        zThreshold := .Finite 2
        isAnomalous := true
        mean := .Finite 2
        std := .Finite (4 / 5) })]
  missingMetrics := ["pressure", "rpm", "power_consumption"]

/-- Two hot sensors are reasoned about by the model, and nothing is done about them without an
    approval. -/
theorem hotMachine_critical :
    ∃ output, (attended.execute hotMachine).result = .ok output ∧ RecommendationOnly output := by
  have hdetect : attended.detector.detect hotMachine.sensorReadings = .ok hotResult := by
    decide +kernel
  have hneeds := (anomalies_need_approval attended positive_of_default hotMachine hotResult
    hdetect).1 rfl
  refine hneeds.2.2.2 (fun _ => .inl rfl) fun request _ => ⟨_, rfl, fun exception => ?_⟩
  nofun

end PredictiveMaintenanceWorkflow

end CostPlatform
