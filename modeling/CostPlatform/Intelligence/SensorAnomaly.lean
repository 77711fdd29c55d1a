import CostPlatform.Library.Fallible
import CostPlatform.Library.PyFloat

/-!
# Anomalies in sensor readings

The z-score detector for machine sensors.  Each metric is compared with its normal range; what is
missing, not a number or not finite is noted and skipped.

The score is a running maximum over the metrics, clamped to 1, and a metric is anomalous beyond its
threshold, where its own deviation is more than 1.  So a flagged anomaly always scores exactly 1
(`anomalyScore_of_anomalous`), and the score says nothing of how far beyond it lies.
-/

namespace CostPlatform

open PyJson

/-- The operating range of one metric. -/
structure NormalRange where
  mean : PyFloat
  std : PyFloat
  zThreshold : PyFloat
  deriving DecidableEq, Repr

/-- Per-metric anomaly analysis result. -/
structure MetricDetail where
  value : PyFloat
  zScore : PyFloat
  zThreshold : PyFloat
  isAnomalous : Bool
  mean : PyFloat
  std : PyFloat
  deriving DecidableEq, Repr

/-- Complete anomaly detection result. -/
structure AnomalyResult where
  isAnomalous : Bool
  anomalyScore : PyFloat
  anomalousMetrics : List String
  metricDetails : List (String × MetricDetail)
  missingMetrics : List String
  dataQuality : String := "ACTUAL"
  deriving DecidableEq, Repr

/-- Ranges by metric, in order. -/
abbrev NormalRanges : Type := List (String × NormalRange)

def NORMAL_RANGES : NormalRanges :=
  [("temperature", ⟨.Finite 65, .Finite 10, .Finite (5 / 2)⟩),
    ("vibration", ⟨.Finite 2, .Finite (4 / 5), .Finite 2⟩),
    ("pressure", ⟨.Finite 30, .Finite 5, .Finite (5 / 2)⟩),
    ("rpm", ⟨.Finite 1500, .Finite 200, .Finite (5 / 2)⟩),
    ("power_consumption", ⟨.Finite 75, .Finite 15, .Finite (5 / 2)⟩)]

structure SensorAnomalyDetector where
  ranges : NormalRanges

/-- No ranges, or none in them, are the default ones. -/
def SensorAnomalyDetector.new (normalRanges : Option NormalRanges) : SensorAnomalyDetector where
  ranges := (normalRanges.filter fun ranges => !ranges.isEmpty).getD NORMAL_RANGES

/-! ## Detection -/

/-- A reading as a finite number, where it is one. -/
def readSensor : Option Json → Except String (Option ℚ)
  | some (.Boolean value) => .ok (some (if value then 1 else 0))
  | some (.Integer value) => if PyFloat.fits value then .ok (some value) else .error "OverflowError"
  | some (.Float (.Finite value) _) => .ok (some value)
  | _ => .ok none

/-- What has been found so far. -/
structure Detection where
  metricDetails : List (String × MetricDetail) := []
  anomalousMetrics : List String := []
  missingMetrics : List String := []
  maxNormalisedDeviation : PyFloat := .Finite 0
  deriving DecidableEq, Repr

/-- The distance from the mean in standard deviations, where there is one to measure in. -/
def NormalRange.zScore (range : NormalRange) (value : ℚ) : PyFloat :=
  if PyFloat.le range.std (.Finite 0) then .Finite 0
  else PyFloat.div (PyFloat.abs (PyFloat.sub (.Finite value) range.mean)) range.std

def NormalRange.isAnomalous (range : NormalRange) (value : ℚ) : Bool :=
  PyFloat.lt range.zThreshold (range.zScore value)

/-- One metric with a number to look at. -/
def Detection.record (found : Detection) (metricName : String) (range : NormalRange) (value : ℚ) :
    Detection where
  metricDetails := found.metricDetails ++
    [(metricName,
      { value := .Finite value
        zScore := PyFloat.round 4 (range.zScore value)
        zThreshold := range.zThreshold
        isAnomalous := range.isAnomalous value
        mean := range.mean
        std := range.std })]
  anomalousMetrics :=
    if range.isAnomalous value then found.anomalousMetrics ++ [metricName]
    else found.anomalousMetrics
  missingMetrics := found.missingMetrics
  maxNormalisedDeviation :=
    if PyFloat.lt (.Finite 0) range.zThreshold then
      PyFloat.max found.maxNormalisedDeviation
        (PyFloat.div (range.zScore value) range.zThreshold)
    else found.maxNormalisedDeviation

/-- The loop over the metrics. -/
def detectLoop (readings : List (String × Json)) :
    NormalRanges → Detection → Except String Detection
  | [], found => .ok found
  | (metricName, range) :: ranges, found => do
      match ← readSensor (lookup readings metricName) with
      | some value => detectLoop readings ranges (found.record metricName range value)
      | none =>
          detectLoop readings ranges
            { found with missingMetrics := found.missingMetrics ++ [metricName] }

def AnomalyResult.ofDetection (found : Detection) : AnomalyResult where
  isAnomalous := found.anomalousMetrics ≠ []
  anomalyScore := PyFloat.round 4 (PyFloat.min found.maxNormalisedDeviation (.Finite 1))
  anomalousMetrics := found.anomalousMetrics
  metricDetails := found.metricDetails
  missingMetrics := found.missingMetrics

/-- Run anomaly detection on a set of sensor readings. -/
def SensorAnomalyDetector.detect (detector : SensorAnomalyDetector)
    (readings : List (String × Json)) : Except String AnomalyResult := do
  let found ← detectLoop readings detector.ranges {}
  return AnomalyResult.ofDetection found

/-! ## The score of an anomaly -/

/-- Thresholds are positive. -/
def NormalRanges.Positive (ranges : NormalRanges) : Prop :=
  ∀ entry ∈ ranges, PyFloat.lt (.Finite 0) entry.2.zThreshold = true

instance (ranges : NormalRanges) : Decidable ranges.Positive :=
  inferInstanceAs (Decidable (∀ entry ∈ ranges, PyFloat.lt (.Finite 0) entry.2.zThreshold = true))

/-- The default thresholds are. -/
lemma positive_of_default : (SensorAnomalyDetector.new none).ranges.Positive := by decide +kernel

/-- **What the loop keeps**: the maximum is a number, and is more than 1 once there is an
    anomaly. -/
structure Detection.Scored (found : Detection) : Prop where
  isNumber : found.maxNormalisedDeviation ≠ .NaN
  beyond : found.anomalousMetrics ≠ [] →
    PyFloat.lt (.Finite 1) found.maxNormalisedDeviation = true

namespace Detection.Scored

variable {found : Detection}

lemma start : ({} : Detection).Scored where
  isNumber h := by cases h
  beyond h := absurd rfl h

lemma missing (h : found.Scored) (metricNames : List String) :
    Detection.Scored { found with missingMetrics := metricNames } :=
  ⟨h.isNumber, h.beyond⟩

lemma record (h : found.Scored) {range : NormalRange}
    (hpos : PyFloat.lt (.Finite 0) range.zThreshold = true) (metricName : String) (value : ℚ) :
    (found.record metricName range value).Scored where
  isNumber := by
    rw [Detection.record, if_pos hpos]
    exact PyFloat.max_ne_nan h.isNumber
  beyond hanomalous := by
    simp only [Detection.record, if_pos hpos] at hanomalous ⊢
    by_cases hmetric : range.isAnomalous value = true
    · exact PyFloat.lt_max_of_right h.isNumber (PyFloat.one_lt_div hpos hmetric)
    · rw [if_neg hmetric] at hanomalous
      exact PyFloat.lt_max_of_left (h.beyond hanomalous)

end Detection.Scored

lemma detectLoop_scored {readings : List (String × Json)} {ranges : NormalRanges}
    (hpos : ranges.Positive) {found result : Detection} (h : found.Scored)
    (hloop : detectLoop readings ranges found = .ok result) : result.Scored := by
  induction ranges generalizing found with
  | nil =>
      cases Except.ok.inj hloop
      exact h
  | cons entry ranges ih =>
      obtain ⟨metricName, range⟩ := entry
      obtain ⟨hfirst, hrest⟩ := List.forall_mem_cons.mp hpos
      obtain ⟨reading, -, hloop⟩ := Fallible.bind_eq_ok.mp hloop
      cases reading with
      | none => exact ih hrest (h.missing _) hloop
      | some value => exact ih hrest (h.record hfirst metricName value) hloop

/-- **A flagged anomaly scores exactly 1.** -/
theorem anomalyScore_of_anomalous {detector : SensorAnomalyDetector}
    (hpos : detector.ranges.Positive) {readings : List (String × Json)} {result : AnomalyResult}
    (hdetect : detector.detect readings = .ok result) (hanomalous : result.isAnomalous = true) :
    result.anomalyScore = .Finite 1 := by
  obtain ⟨found, hloop, hresult⟩ := Fallible.bind_eq_ok.mp hdetect
  cases Except.ok.inj hresult
  have hbeyond := (detectLoop_scored hpos .start hloop).beyond (of_decide_eq_true hanomalous)
  have hround : PyFloat.round 4 (.Finite 1) = .Finite 1 := by decide +kernel
  rw [AnomalyResult.ofDetection, PyFloat.min_of_lt hbeyond]
  exact hround

end CostPlatform
