import CostPlatform.Intelligence.Listing
import CostPlatform.Library.Fallible
import CostPlatform.Library.PyFloat

/-!
# Anomalies of cost, tokens, latency, volume and models

The statistical detector for AI telemetry.  Four metrics are compared with a baseline by one
evaluator, and the distribution of models with a share.

The evaluator looks upwards only: it flags what lies more than a threshold above the mean.  That is
what a spike is, and half of what an unusual volume is.  `twoSided_iff` says for which request
counts the difference does not show.
-/

namespace CostPlatform

open PyJson
open Calendar (Timestamp)

def AnomalySeverity.value : AnomalySeverity → String
  | .Low => "LOW"
  | .Medium => "MEDIUM"
  | .High => "HIGH"
  | .Critical => "CRITICAL"

def AnomalySeverity.rank : AnomalySeverity → Nat
  | .Low => 0
  | .Medium => 1
  | .High => 2
  | .Critical => 3

/-- Structured detected anomaly. -/
structure DetectedAnomaly where
  anomalyType : String
  severity : AnomalySeverity
  expectedValue : PyFloat
  actualValue : PyFloat
  deviationPercent : PyFloat
  reason : String
  scopeType : String
  scopeId : String
  timestamp : Timestamp
  status : AnomalyStatus := .Open
  deriving DecidableEq, Repr

/-- Where and when anomalies are looked for. -/
structure DetectionScope where
  scopeType : String := "TENANT"
  scopeId : String := "default"
  timestamp : Timestamp
  deriving DecidableEq, Repr

/-- Baseline statistics of one metric, as far as they are given. -/
structure MetricBaseline where
  mean : Option ℚ := none
  std : Option ℚ := none
  deriving DecidableEq, Repr

structure HistoricalBaseline where
  costUsd : Option MetricBaseline := none
  tokenCount : Option MetricBaseline := none
  latencyMs : Option MetricBaseline := none
  requestCount : Option MetricBaseline := none
  expensiveModels : Option (List String) := none
  deriving DecidableEq, Repr

structure CostAnomalyDetector where
  /-- A float with so many decimals. -/
  formatFixed : Nat → PyFloat → String
  costZ : ℚ := 5 / 2
  tokenZ : ℚ := 5 / 2
  latencyZ : ℚ := 3
  volumeZ : ℚ := 5 / 2

/-- Current observations, whatever the values are. -/
abbrev CurrentMetrics : Type := List (String × Json)

/-! ## One metric -/

/-- `metric_name.replace('_', ' ').title()`. -/
def metricTitle (metricName : String) : String :=
  let step (done : List Char × Bool) (c : Char) : List Char × Bool :=
    if c.isAlpha then (done.1 ++ [if done.2 then c else c.toUpper], true)
    else (done.1 ++ [c], false)
  String.ofList (((PyString.replace metricName '_' ' ').toList.foldl step ([], false)).1)

/-- A baseline that does not vary gets a tenth of its mean, or 1. -/
def effectiveStd (mean std : ℚ) : ℚ := if std ≤ 0 then max 1 (mean / 10) else std

def zScore (actual : PyFloat) (mean std : ℚ) : PyFloat :=
  PyFloat.div (PyFloat.sub actual (.Finite mean)) (.Finite (effectiveStd mean std))

/-- Severity by the magnitude of the z-score. -/
def severityOf (z : PyFloat) (thresholdZ : ℚ) : AnomalySeverity :=
  if PyFloat.le (.Finite (thresholdZ * 2)) z then .Critical
  else if PyFloat.le (.Finite (thresholdZ * (3 / 2))) z then .High
  else if PyFloat.le (.Finite (thresholdZ * (6 / 5))) z then .Medium
  else .Low

/-- What the four metrics differ in. -/
structure Spike where
  key : String
  metricName : String
  unitLabel : String
  defaultMean : ℚ
  defaultStd : ℚ
  deriving DecidableEq, Repr

def costSpike : Spike := ⟨"cost_usd", "cost_spike", "USD", 50, 10⟩

def tokenSpike : Spike := ⟨"token_count", "token_spike", "tokens", 10000, 2000⟩

def latencySpike : Spike := ⟨"latency_ms", "latency_spike", "ms", 450, 100⟩

def unusualVolume : Spike := ⟨"request_count", "unusual_workload_volume", "requests", 100, 20⟩

namespace CostAnomalyDetector

variable (detector : CostAnomalyDetector)

def evaluateMetric (spike : Spike) (actual : PyFloat) (mean std thresholdZ : ℚ)
    (scope : DetectionScope) : Option DetectedAnomaly :=
  let z := zScore actual mean std
  if PyFloat.le z (.Finite thresholdZ) then none
  else
    let deviation := PyFloat.round 2 (PyFloat.scale 100
      (PyFloat.div (PyFloat.sub actual (.Finite mean)) (.Finite (max (1 / 100) mean))))
    let reason := metricTitle spike.metricName ++ " detected: observed "
      ++ detector.formatFixed 2 actual ++ " " ++ spike.unitLabel
      ++ " exceeds historical baseline (" ++ detector.formatFixed 2 (.Finite mean) ++ " ± "
      ++ detector.formatFixed 2 (.Finite (effectiveStd mean std)) ++ " " ++ spike.unitLabel
      ++ ") with z-score of " ++ detector.formatFixed 2 z ++ " (+"
      ++ detector.formatFixed 1 deviation ++ "% deviation)."
    some
      { anomalyType := spike.metricName
        severity := severityOf z thresholdZ
        expectedValue := PyFloat.round 2 (.Finite mean)
        actualValue := PyFloat.round 2 actual
        deviationPercent := deviation
        reason := reason
        scopeType := scope.scopeType
        scopeId := scope.scopeId
        timestamp := scope.timestamp }

/-- A metric as a float, where it is a number. -/
def readMetric : Option Json → Except String (Option PyFloat)
  | some (.Boolean value) => .ok (some (.Finite (if value then 1 else 0)))
  | some (.Integer value) =>
      if PyFloat.fits value then .ok (some (.Finite value)) else .error "OverflowError"
  | some (.Float value _) => .ok (some value)
  | _ => .ok none

def detectSpike (spike : Spike) (thresholdZ : ℚ) (metrics : CurrentMetrics)
    (baseline : Option MetricBaseline) (scope : DetectionScope) :
    Except String (List DetectedAnomaly) := do
  match ← readMetric (lookup metrics spike.key) with
  | none => return []
  | some actual =>
      let mean := (baseline.bind MetricBaseline.mean).getD spike.defaultMean
      let std := (baseline.bind MetricBaseline.std).getD spike.defaultStd
      return (detector.evaluateMetric spike actual mean std thresholdZ scope).toList

/-! ## The distribution of models -/

def EXPENSIVE_MODELS : List String := ["gpt-4o", "claude-3-5-sonnet", "gemini-1.5-pro"]

/-- A value that can be summed. -/
def readCount : Json → Except String PyFloat
  | .Boolean value => .ok (.Finite (if value then 1 else 0))
  | .Integer value => .ok (.Finite value)
  | .Float value _ => .ok value
  | _ => .error "TypeError"

/-- An expensive model of more than two fifths of the calls. -/
def usageSeverity (expensiveModels : List String) (modelName : String) (share : PyFloat) :
    Option AnomalySeverity :=
  if modelName ∈ expensiveModels ∧ PyFloat.lt (.Finite (2 / 5)) share = true then
    some (if PyFloat.lt (.Finite (3 / 5)) share then .High else .Medium)
  else none

def usageAnomaly (scope : DetectionScope) (modelName : String) (share : PyFloat)
    (severity : AnomalySeverity) : DetectedAnomaly :=
  let deviation := PyFloat.round 2 (PyFloat.scale 100 share)
  { anomalyType := "unusual_model_usage"
    severity := severity
    expectedValue := .Finite 10
    actualValue := deviation
    deviationPercent := PyFloat.sub deviation (.Finite 10)
    reason := "Unexpected shift to expensive model '" ++ modelName ++ "' representing "
      ++ detector.formatFixed 1 deviation ++ "% of total calls (expected < 10%)."
    scopeType := scope.scopeType
    scopeId := scope.scopeId
    timestamp := scope.timestamp }

/-- The shares of the models in all calls, if there are any. -/
def modelShares (metrics : CurrentMetrics) : Except String (List (String × PyFloat)) :=
  match lookup metrics "model_distribution" with
  | some (.Dict entries) => do
      let counts ← entries.mapM fun entry => (readCount entry.2).map fun count => (entry.1, count)
      let total := (counts.map Prod.snd).foldl PyFloat.add (.Finite 0)
      return if PyFloat.lt (.Finite 0) total then
        counts.map fun (modelName, count) => (modelName, PyFloat.div count total)
      else []
  | _ => .ok []

def detectUsage (metrics : CurrentMetrics) (expensiveModels : Option (List String))
    (scope : DetectionScope) : Except String (List DetectedAnomaly) := do
  let shares ← modelShares metrics
  return shares.filterMap fun (modelName, share) =>
    (usageSeverity (expensiveModels.getD EXPENSIVE_MODELS) modelName share).map
      (detector.usageAnomaly scope modelName share)

/-- Detect anomalies across cost, token, latency, volume, and model metrics, in this order. -/
def detectAnomalies (metrics : CurrentMetrics) (baseline : HistoricalBaseline)
    (scope : DetectionScope) : Except String (List DetectedAnomaly) := do
  let cost ← detector.detectSpike costSpike detector.costZ metrics baseline.costUsd scope
  let tokens ← detector.detectSpike tokenSpike detector.tokenZ metrics baseline.tokenCount scope
  let latency ← detector.detectSpike latencySpike detector.latencyZ metrics baseline.latencyMs scope
  let volume ←
    detector.detectSpike unusualVolume detector.volumeZ metrics baseline.requestCount scope
  let usage ← detector.detectUsage metrics baseline.expensiveModels scope
  return cost ++ tokens ++ latency ++ volume ++ usage

/-! ## What is detected -/

/-- The severity of a metric beyond its threshold. -/
def excess (z : PyFloat) (thresholdZ : ℚ) : Option AnomalySeverity :=
  if PyFloat.le z (.Finite thresholdZ) then none else some (severityOf z thresholdZ)

variable {detector} {metrics : CurrentMetrics} {baseline : HistoricalBaseline}
  {scope : DetectionScope}

lemma evaluateMetric_severity (spike : Spike) (actual : PyFloat) (mean std thresholdZ : ℚ) :
    (detector.evaluateMetric spike actual mean std thresholdZ scope).map DetectedAnomaly.severity
      = excess (zScore actual mean std) thresholdZ := by
  rw [evaluateMetric, excess]
  split_ifs <;> rfl

lemma evaluateMetric_type {spike : Spike} {actual : PyFloat} {mean std thresholdZ : ℚ}
    {anomaly : DetectedAnomaly}
    (h : anomaly ∈ detector.evaluateMetric spike actual mean std thresholdZ scope) :
    anomaly.anomalyType = spike.metricName := by
  rw [evaluateMetric] at h
  split_ifs at h
  · cases h
  · cases h
    rfl

lemma detectSpike_eq_ok {spike : Spike} {thresholdZ : ℚ} {given : Option MetricBaseline}
    {found : List DetectedAnomaly} :
    detector.detectSpike spike thresholdZ metrics given scope = .ok found
      ↔ ∃ reading, readMetric (lookup metrics spike.key) = .ok reading
        ∧ found = (reading.bind fun actual => detector.evaluateMetric spike actual
            ((given.bind MetricBaseline.mean).getD spike.defaultMean)
            ((given.bind MetricBaseline.std).getD spike.defaultStd) thresholdZ scope).toList := by
  rw [detectSpike, Fallible.bind_eq_ok]
  refine exists_congr fun reading => and_congr_right fun _ => ?_
  cases reading with
  | none => exact ⟨fun h => (Except.ok.inj h).symm, fun h => congrArg Except.ok h.symm⟩
  | some actual => exact ⟨fun h => (Except.ok.inj h).symm, fun h => congrArg Except.ok h.symm⟩

/-- **What is detected is what the five detections find**, one after the other. -/
theorem detectAnomalies_eq_ok {anomalies : List DetectedAnomaly} :
    detector.detectAnomalies metrics baseline scope = .ok anomalies
      ↔ ∃ cost tokens latency volume usage,
        detector.detectSpike costSpike detector.costZ metrics baseline.costUsd scope = .ok cost
        ∧ detector.detectSpike tokenSpike detector.tokenZ metrics baseline.tokenCount scope
          = .ok tokens
        ∧ detector.detectSpike latencySpike detector.latencyZ metrics baseline.latencyMs scope
          = .ok latency
        ∧ detector.detectSpike unusualVolume detector.volumeZ metrics baseline.requestCount scope
          = .ok volume
        ∧ detector.detectUsage metrics baseline.expensiveModels scope = .ok usage
        ∧ anomalies = cost ++ tokens ++ latency ++ volume ++ usage := by
  simp only [detectAnomalies, Fallible.bind_eq_ok]
  constructor
  · rintro ⟨cost, hcost, tokens, htokens, latency, hlatency, volume, hvolume, usage, husage, h⟩
    exact ⟨cost, tokens, latency, volume, usage, hcost, htokens, hlatency, hvolume, husage,
      (Except.ok.inj h).symm⟩
  · rintro ⟨cost, tokens, latency, volume, usage, hcost, htokens, hlatency, hvolume, husage, rfl⟩
    exact ⟨cost, hcost, tokens, htokens, latency, hlatency, volume, hvolume, usage, husage, rfl⟩

lemma detectUsage_type {expensiveModels : Option (List String)} {found : List DetectedAnomaly}
    (h : detector.detectUsage metrics expensiveModels scope = .ok found) {anomaly : DetectedAnomaly}
    (hanomaly : anomaly ∈ found) : anomaly.anomalyType = "unusual_model_usage" := by
  obtain ⟨shares, -, hfound⟩ := Fallible.bind_eq_ok.mp h
  cases Except.ok.inj hfound
  obtain ⟨entry, -, hentry⟩ := List.mem_filterMap.mp hanomaly
  obtain ⟨severity, -, rfl⟩ := Option.map_eq_some_iff.mp hentry
  rfl

lemma detectSpike_type {spike : Spike} {thresholdZ : ℚ} {given : Option MetricBaseline}
    {found : List DetectedAnomaly}
    (h : detector.detectSpike spike thresholdZ metrics given scope = .ok found)
    {anomaly : DetectedAnomaly} (hanomaly : anomaly ∈ found) :
    anomaly.anomalyType = spike.metricName := by
  obtain ⟨reading, -, rfl⟩ := detectSpike_eq_ok.mp h
  obtain ⟨actual, -, hactual⟩ := Option.bind_eq_some_iff.mp (Option.mem_toList.mp hanomaly)
  exact evaluateMetric_type hactual

/-- The metrics hold a request count, and the baseline its mean and standard deviation. -/
structure ObservesVolume (metrics : CurrentMetrics) (baseline : HistoricalBaseline)
    (mean std count : ℚ) : Prop where
  observed : readMetric (lookup metrics "request_count") = .ok (some (.Finite count))
  expected : baseline.requestCount = some ⟨some mean, some std⟩

/-- An unusual volume is among the anomalies, with this severity. -/
def VolumeAmong (anomalies : List DetectedAnomaly) (severity : AnomalySeverity) : Prop :=
  ∃ anomaly ∈ anomalies, anomaly.anomalyType = "unusual_workload_volume"
    ∧ anomaly.severity = severity

/-- **The volume is reported exactly beyond the threshold**, whatever else is detected. -/
theorem volumeAmong_iff {mean std count : ℚ} {anomalies : List DetectedAnomaly}
    (hobserves : ObservesVolume metrics baseline mean std count)
    (hdetect : detector.detectAnomalies metrics baseline scope = .ok anomalies)
    (severity : AnomalySeverity) :
    VolumeAmong anomalies severity
      ↔ excess (zScore (.Finite count) mean std) detector.volumeZ = some severity := by
  obtain ⟨cost, tokens, latency, volume, usage, hcost, htokens, hlatency, hvolume, husage, rfl⟩ :=
    detectAnomalies_eq_ok.mp hdetect
  have hothers : ∀ anomaly ∈ cost ++ tokens ++ latency ++ volume ++ usage,
      anomaly.anomalyType = "unusual_workload_volume" → anomaly ∈ volume := by
    intro anomaly hanomaly htype
    simp only [List.mem_append] at hanomaly
    rcases hanomaly with (((h | h) | h) | h) | h
    · exact absurd ((detectSpike_type hcost h).symm.trans htype) (by decide)
    · exact absurd ((detectSpike_type htokens h).symm.trans htype) (by decide)
    · exact absurd ((detectSpike_type hlatency h).symm.trans htype) (by decide)
    · exact h
    · exact absurd ((detectUsage_type husage h).symm.trans htype) (by decide)
  obtain ⟨reading, hreading, hfound⟩ := detectSpike_eq_ok.mp hvolume
  cases Except.ok.inj (hreading.symm.trans hobserves.observed)
  rw [hobserves.expected] at hfound
  rw [← @evaluateMetric_severity detector scope unusualVolume]
  constructor
  · rintro ⟨anomaly, hanomaly, htype, rfl⟩
    have hmem := hothers anomaly hanomaly htype
    rw [hfound] at hmem
    exact Option.map_eq_some_iff.mpr ⟨anomaly, Option.mem_toList.mp hmem, rfl⟩
  · intro h
    obtain ⟨anomaly, hanomaly, rfl⟩ := Option.map_eq_some_iff.mp h
    refine ⟨anomaly, ?_, evaluateMetric_type hanomaly, rfl⟩
    have hmem : anomaly ∈ volume := by
      rw [hfound]
      exact Option.mem_toList.mpr hanomaly
    simp [hmem]

/-- **Volume anomalies are two-sided** at a request count: beyond the threshold in either direction
    there is one, and of two that are reported the one further from the mean is no less severe. -/
structure TwoSided (detector : CostAnomalyDetector) (mean std count : ℚ) : Prop where
  reported : detector.volumeZ * std < |count - mean| →
    ∀ metrics baseline scope anomalies, ObservesVolume metrics baseline mean std count →
      detector.detectAnomalies metrics baseline scope = .ok anomalies →
      ∃ severity, VolumeAmong anomalies severity
  graded : ∀ metrics baseline scope anomalies, ObservesVolume metrics baseline mean std count →
    detector.detectAnomalies metrics baseline scope = .ok anomalies →
    ∀ metrics' baseline' scope' anomalies' count',
      ObservesVolume metrics' baseline' mean std count' →
      detector.detectAnomalies metrics' baseline' scope' = .ok anomalies' →
      |count - mean| ≤ |count' - mean| →
      ∀ severity severity', VolumeAmong anomalies severity → VolumeAmong anomalies' severity' →
        severity.rank ≤ severity'.rank

lemma severityOf_mono {z z' thresholdZ : ℚ} (h : z ≤ z') :
    (severityOf (.Finite z) thresholdZ).rank ≤ (severityOf (.Finite z') thresholdZ).rank := by
  simp only [severityOf, PyFloat.le, decide_eq_true_eq]
  split_ifs <;> first | decide | (exfalso; linarith)

/-- Below a negative threshold there is no milder severity. -/
lemma severityOf_of_neg {z thresholdZ : ℚ} (hneg : thresholdZ < 0) (h : thresholdZ < z) :
    severityOf (.Finite z) thresholdZ = .Critical := by
  rw [severityOf, if_pos]
  simp only [PyFloat.le, decide_eq_true_eq]
  linarith

lemma excess_eq_some_iff {z thresholdZ : ℚ} {severity : AnomalySeverity} :
    excess (.Finite z) thresholdZ = some severity
      ↔ thresholdZ < z ∧ severity = severityOf (.Finite z) thresholdZ := by
  simp only [excess, PyFloat.le, decide_eq_true_eq, ← not_lt]
  split_ifs with h
  · simp [h, eq_comm]
  · simp [h]

/-- Of two excesses, the one further from the mean is no less severe. -/
lemma excess_graded {z z' thresholdZ : ℚ} {severity severity' : AnomalySeverity}
    (h : excess (.Finite z) thresholdZ = some severity)
    (h' : excess (.Finite z') thresholdZ = some severity') (hfurther : |z| ≤ |z'|) :
    severity.rank ≤ severity'.rank := by
  obtain ⟨hz, rfl⟩ := excess_eq_some_iff.mp h
  obtain ⟨hz', rfl⟩ := excess_eq_some_iff.mp h'
  rcases lt_or_ge thresholdZ 0 with hneg | hnonneg
  · rw [severityOf_of_neg hneg hz, severityOf_of_neg hneg hz']
  · rw [abs_of_nonneg (hnonneg.trans hz.le), abs_of_nonneg (hnonneg.trans hz'.le)] at hfurther
    exact severityOf_mono hfurther

lemma zScore_of_pos {mean std : ℚ} (hstd : 0 < std) (count : ℚ) :
    zScore (.Finite count) mean std = .Finite ((count - mean) / std) := by
  rw [zScore, effectiveStd, if_neg (not_le.mpr hstd)]
  simp [PyFloat.sub, PyFloat.neg, PyFloat.add, PyFloat.div, sub_eq_add_neg]

/-- There is an excess exactly where the count is far enough above the mean. -/
lemma excess_zScore_iff {mean std thresholdZ : ℚ} (hstd : 0 < std) (count : ℚ) :
    (∃ severity, excess (zScore (.Finite count) mean std) thresholdZ = some severity)
      ↔ thresholdZ * std < count - mean := by
  simp only [zScore_of_pos hstd, excess_eq_some_iff, exists_and_left, exists_eq, and_true]
  exact lt_div_iff₀ hstd

/-- **A volume is looked at from both sides exactly when it is no drop beyond the threshold**: it is
    beyond it above the mean, or not beyond it below. -/
theorem twoSided_iff (detector : CostAnomalyDetector) (mean std count : ℚ) (hstd : 0 < std) :
    TwoSided detector mean std count
      ↔ detector.volumeZ * std < count - mean ∨ -(detector.volumeZ * std) ≤ count - mean := by
  constructor
  · intro htwo
    by_contra hdrop
    obtain ⟨hnot, hbelow⟩ := not_or.mp hdrop
    have hbeyond : detector.volumeZ * std < |count - mean| :=
      lt_abs.mpr (.inr (by linarith [not_le.mp hbelow]))
    -- nothing but the count is observed
    have hobserves : ObservesVolume [("request_count", .Float (.Finite count) "")]
        { requestCount := some ⟨some mean, some std⟩ } mean std count := ⟨rfl, rfl⟩
    obtain ⟨anomalies, hdetect⟩ : ∃ anomalies, detector.detectAnomalies
        [("request_count", .Float (.Finite count) "")]
        { requestCount := some ⟨some mean, some std⟩ } { timestamp := 0 } = .ok anomalies :=
      ⟨_, rfl⟩
    obtain ⟨severity, hamong⟩ := htwo.reported hbeyond _ _ _ anomalies hobserves hdetect
    have hsome := (volumeAmong_iff hobserves hdetect severity).mp hamong
    exact hnot ((excess_zScore_iff hstd count).mp ⟨severity, hsome⟩)
  · intro hside
    refine ⟨fun hbeyond metrics baseline scope anomalies hobserves hdetect => ?_, ?_⟩
    · have habove : detector.volumeZ * std < count - mean := by
        rcases lt_abs.mp hbeyond with h | h
        · exact h
        · exact hside.resolve_right (by linarith)
      obtain ⟨severity, hsome⟩ := (excess_zScore_iff hstd count).mpr habove
      exact ⟨severity, (volumeAmong_iff hobserves hdetect severity).mpr hsome⟩
    · intro metrics baseline scope anomalies hobserves hdetect metrics' baseline' scope' anomalies'
        count' hobserves' hdetect' hfurther severity severity' hamong hamong'
      have hsome := (volumeAmong_iff hobserves hdetect severity).mp hamong
      have hsome' := (volumeAmong_iff hobserves' hdetect' severity').mp hamong'
      rw [zScore_of_pos hstd] at hsome hsome'
      refine excess_graded hsome hsome' ?_
      rw [abs_div, abs_div]
      exact div_le_div_of_nonneg_right hfurther (abs_nonneg std)

/-- A detector with the default thresholds. -/
def defaultDetector : CostAnomalyDetector where
  formatFixed _ _ := ""

/-- A burst of requests is reported. -/
theorem burst_twoSided : TwoSided defaultDetector 100 20 500 :=
  (twoSided_iff defaultDetector 100 20 500 (by norm_num)).mpr (.inl (by norm_num [defaultDetector]))

/-- An outage is not: there are no requests at all, five standard deviations below the mean. -/
theorem outage_unreported : ¬ TwoSided defaultDetector 100 20 0 := by
  intro htwo
  obtain ⟨severity, anomaly, hmem, -⟩ := htwo.reported (by norm_num [defaultDetector])
    [("request_count", .Integer 0)] { requestCount := some ⟨some 100, some 20⟩ } { timestamp := 0 }
    [] ⟨by decide +kernel, rfl⟩ (by decide +kernel)
  cases hmem

end CostAnomalyDetector

end CostPlatform
