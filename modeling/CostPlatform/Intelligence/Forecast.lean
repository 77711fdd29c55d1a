import CostPlatform.Library.Calendar
import CostPlatform.Library.Fallible
import CostPlatform.Library.PyFloat
import Mathlib.Algebra.Order.BigOperators.Group.List
import Mathlib.Data.List.Sort

/-!
# The cost forecast

A line through the daily costs, the days of a horizon on it, and the projection of the month that
today lies in.  Days are numbers, costs are not rounded where they are added, and a square root is
a parameter.

The projection adds what the horizon predicts for the month to what the month has cost, and falls
back to the average where that is nothing.  `projectsMonth_iff` says for which horizons it is what
the prediction of every remaining day makes of the month.
-/

namespace CostPlatform

open PyJson Calendar

/-! ## The history -/

/-- A date as a record of the history has it. -/
inductive HistoryDate where
  | Day (day : Nat)
  | Moment (moment : Timestamp)
  | Text (text : String)
  deriving DecidableEq, Repr

/-- One cost of the history: a pair, or a record with its alternative fields. -/
inductive HistoryItem where
  | Pair (date : Nat) (cost : ℚ)
  | TextPair (date : String) (cost : ℚ)
  | Record (date forecastDate timestamp : Option HistoryDate) (cost amount predictedCost : Option ℚ)
  deriving DecidableEq, Repr

/-- Individual daily cost forecast data point. -/
structure DailyForecastPoint where
  forecastDate : Nat
  predictedCost : ℚ
  lowerBound : ℚ
  upperBound : ℚ
  confidence : ℚ
  provenance : String := "FORECAST"
  deriving DecidableEq, Repr

/-- Complete multi-horizon forecast result. -/
structure ForecastResult where
  horizonDays : Int
  dailyPoints : List DailyForecastPoint
  totalForecastedCost : ℚ
  monthEndForecastCost : ℚ
  averageDailyCost : ℚ
  forecastModelName : String
  forecastModelVersion : String
  provenance : String := "FORECAST"
  historyDataPointsCount : Nat
  confidenceLevel : ℚ
  deriving DecidableEq, Repr

structure CostForecaster where
  sqrt : ℚ → ℚ
  /-- `date.fromisoformat`. -/
  fromIsoFormat : String → Except String Nat
  modelName : String := "baseline_linear_runrate"
  modelVersion : String := "1.0.0"
  defaultDailyCost : ℚ := 10

/-- The costs of the history with their days. -/
abbrev DailyCosts : Type := List (Nat × ℚ)

/-- `bool(value)`: only an absent or empty date is false. -/
def HistoryDate.truthy : Option HistoryDate → Bool
  | none => false
  | some (.Text text) => text ≠ ""
  | some _ => true

/-- `first or second`, on dates. -/
def HistoryDate.or (first second : Option HistoryDate) : Option HistoryDate :=
  if HistoryDate.truthy first then first else second

namespace CostForecaster

variable (forecaster : CostForecaster)

def parseItem : HistoryItem → Except String (Option (Nat × ℚ))
  | .Pair date cost => .ok (some (date, cost))
  | .TextPair date cost => do
      let day ← forecaster.fromIsoFormat date
      return some (day, cost)
  | .Record date forecastDate timestamp cost amount predictedCost => do
      -- a cost of zero gives way to the next field
      let value := ((cost.filter (· ≠ 0)).or (amount.filter (· ≠ 0))).getD (predictedCost.getD 0)
      match HistoryDate.or date (HistoryDate.or forecastDate timestamp) with
      | none => return none
      | some (.Day day) => return some (day, value)
      | some (.Moment moment) => return some (dayOf moment, value)
      | some (.Text text) => do
          let day ← forecaster.fromIsoFormat (String.ofList (text.toList.take 10))
          return some (day, value)

def parseHistory (rawHistory : List HistoryItem) : Except String DailyCosts := do
  let parsed ← rawHistory.mapM forecaster.parseItem
  return parsed.filterMap id

/-- The history in the order of its days. -/
def orderedHistory (rawHistory : List HistoryItem) : Except String DailyCosts := do
  let parsed ← forecaster.parseHistory rawHistory
  return parsed.insertionSort fun entry other => entry.1 ≤ other.1

/-! ## The line -/

/-- `date + timedelta(days)`. -/
def addDays (day days : Nat) : Except String Nat :=
  if day + days < dayCount then .ok (day + days) else .error "OverflowError"

def average (costs : List ℚ) : ℚ := costs.sum / costs.length

/-- The line through the costs, and how far they are from it. -/
structure Trend where
  slope : ℚ
  intercept : ℚ
  stdError : ℚ
  deriving DecidableEq, Repr

def trendOf (costs : List ℚ) : Trend :=
  let xs : List ℚ := (List.range costs.length).map fun x => (x : ℚ)
  let meanX := average xs
  let meanY := average costs
  let numerator := (List.zipWith (fun x y => (x - meanX) * (y - meanY)) xs costs).sum
  let denominator := (xs.map fun x => (x - meanX) ^ 2).sum
  let slope := if denominator ≠ 0 then numerator / denominator else 0
  let intercept := meanY - slope * meanX
  let residuals := List.zipWith (fun x y => y - (intercept + slope * x)) xs costs
  let variance := (residuals.map fun r => r ^ 2).sum / max 1 ((costs.length : ℚ) - 2)
  { slope := slope, intercept := intercept, stdError := forecaster.sqrt variance }

/-- The cost of a day that far ahead, on the line and not below zero. -/
def predicted (costs : List ℚ) (offset : Nat) : ℚ :=
  let trend := forecaster.trendOf costs
  max 0 (trend.intercept + trend.slope * (costs.length + offset))

def trendPoint (costs : List ℚ) (targetDate offset : Nat) : DailyForecastPoint :=
  let predictedCost := forecaster.predicted costs offset
  let horizonSpread : ℚ := 1 + offset / 30 * (1 / 2)
  let margin := 196 / 100 * (forecaster.trendOf costs).stdError * horizonSpread
  { forecastDate := targetDate
    predictedCost := PyFloat.roundTo 2 predictedCost
    lowerBound := PyFloat.roundTo 2 (max 0 (predictedCost - margin))
    upperBound := PyFloat.roundTo 2 (predictedCost + margin)
    confidence := 95 / 100 }

def flatPoint (baseCost confidence : ℚ) (targetDate : Nat) : DailyForecastPoint :=
  let predictedCost := max 0 baseCost
  { forecastDate := targetDate
    predictedCost := PyFloat.roundTo 2 predictedCost
    lowerBound := PyFloat.roundTo 2 (max 0 (predictedCost * (7 / 10)))
    upperBound := PyFloat.roundTo 2 (predictedCost * (13 / 10))
    confidence := confidence }

/-- A point for each day of the horizon. -/
def dailyPoints (startDate : Nat) (horizonDays : Int)
    (point : (targetDate offset : Nat) → DailyForecastPoint) :
    Except String (List DailyForecastPoint) :=
  (List.range horizonDays.toNat).mapM fun offset => do
    let targetDate ← addDays startDate offset
    return point targetDate offset

/-! ## The month -/

/-- A day of the same month of the same year. -/
def inMonth (today day : Nat) : Bool := yearOf day = yearOf today && monthOf day = monthOf today

/-- The days of the month behind today. -/
def remainingDays (today : Nat) : Nat :=
  let dayOfMonth := today - monthStart (yearOf today) (monthOf today) + 1
  daysInMonth (yearOf today) (monthOf today) - dayOfMonth

/-- Project total spend through end of current calendar month. -/
def computeMonthEndProjection (today : Nat) (history : DailyCosts)
    (points : List DailyForecastPoint) (avgDailyCost : ℚ) : ℚ :=
  let monthActual := ((history.filter fun entry => inMonth today entry.1).map Prod.snd).sum
  if remainingDays today = 0 then monthActual
  else
    let futureInMonth := ((points.filter fun point => inMonth today point.forecastDate).map
      DailyForecastPoint.predictedCost).sum
    if 0 < futureInMonth then monthActual + futureInMonth
    else monthActual + avgDailyCost * remainingDays today

/-! ## The forecast -/

/-- Too few costs for a line: the same cost for every day. -/
def fallbackForecast (horizonDays : Int) (today startDate : Nat) (baseCost confidence : ℚ)
    (historyCount : Nat) : Except String ForecastResult := do
  let points ← dailyPoints startDate horizonDays fun targetDate _ =>
    flatPoint baseCost confidence targetDate
  return {
    horizonDays := horizonDays
    dailyPoints := points
    totalForecastedCost := PyFloat.roundTo 2 (horizonDays.toNat * max 0 baseCost)
    monthEndForecastCost :=
      PyFloat.roundTo 2 (baseCost * daysInMonth (yearOf today) (monthOf today))
    averageDailyCost := PyFloat.roundTo 2 baseCost
    forecastModelName := forecaster.modelName
    forecastModelVersion := forecaster.modelVersion
    historyDataPointsCount := historyCount
    confidenceLevel := confidence }

def trendForecast (horizonDays : Int) (today startDate : Nat) (history : DailyCosts) :
    Except String ForecastResult := do
  let costs := history.map Prod.snd
  let points ← dailyPoints startDate horizonDays (forecaster.trendPoint costs)
  let totalForecastCost := ((List.range horizonDays.toNat).map (forecaster.predicted costs)).sum
  return {
    horizonDays := horizonDays
    dailyPoints := points
    totalForecastedCost := PyFloat.roundTo 2 totalForecastCost
    monthEndForecastCost :=
      PyFloat.roundTo 2 (computeMonthEndProjection today history points (average costs))
    averageDailyCost := PyFloat.roundTo 2 (average costs)
    forecastModelName := forecaster.modelName
    forecastModelVersion := forecaster.modelVersion
    historyDataPointsCount := history.length
    confidenceLevel := 95 / 100 }

/-- Daily and cumulative cost forecasts for a horizon, from tomorrow on where no start is given. -/
def generateForecast (historicalDailyCosts : List HistoryItem) (horizonDays : Int) (today : Nat)
    (startDate : Option Nat) : Except String ForecastResult := do
  let history ← forecaster.orderedHistory historicalDailyCosts
  let currentDate ← startDate.elim (addDays today 1) .ok
  if history.length = 0 then
    forecaster.fallbackForecast horizonDays today currentDate forecaster.defaultDailyCost (1 / 2) 0
  else if history.length < 3 then
    forecaster.fallbackForecast horizonDays today currentDate (average (history.map Prod.snd))
      (7 / 10) history.length
  else forecaster.trendForecast horizonDays today currentDate history

/-! ## What the month comes to -/

/-- What the month has cost until today. -/
def spentSoFar (today : Nat) (history : DailyCosts) : ℚ :=
  ((history.filter fun entry => inMonth today entry.1 && entry.1 ≤ today).map Prod.snd).sum

/-- The costs of the history that are dated later in the month. -/
def datedAhead (today : Nat) (history : DailyCosts) : ℚ :=
  ((history.filter fun entry => inMonth today entry.1 && today < entry.1).map Prod.snd).sum

/-- The prediction for a day that far ahead. -/
def prediction (costs : List ℚ) (offset : Nat) : ℚ :=
  PyFloat.roundTo 2 (forecaster.predicted costs offset)

/-- The predictions for all remaining days of the month. -/
def restOfMonth (today : Nat) (costs : List ℚ) : ℚ :=
  ((List.range (remainingDays today)).map (forecaster.prediction costs)).sum

/-- The predictions for the remaining days that a horizon reaches. -/
def covered (today : Nat) (costs : List ℚ) (horizon : Nat) : ℚ :=
  (((List.range (remainingDays today)).filter (· < horizon)).map (forecaster.prediction costs)).sum

/-- The predictions for the remaining days behind a horizon. -/
def leftOut (today : Nat) (costs : List ℚ) (horizon : Nat) : ℚ :=
  (((List.range (remainingDays today)).filter (horizon ≤ ·)).map (forecaster.prediction costs)).sum

variable {forecaster} {today : Nat} {history : DailyCosts} {costs : List ℚ} {horizon : Nat}

lemma prediction_nonneg (offset : Nat) : 0 ≤ forecaster.prediction costs offset :=
  PyFloat.roundTo_nonneg 2 (le_max_left _ _)

lemma covered_nonneg : 0 ≤ forecaster.covered today costs horizon := by
  refine List.sum_nonneg fun cost hcost => ?_
  obtain ⟨offset, -, rfl⟩ := List.mem_map.mp hcost
  exact prediction_nonneg offset

/-- A sum is what one part of the list makes, and the other. -/
lemma sum_filter_add_sum_filter_not {α : Type} (f : α → ℚ) (p : α → Bool) (xs : List α) :
    ((xs.filter p).map f).sum + ((xs.filter fun x => !p x).map f).sum = (xs.map f).sum := by
  rw [← List.sum_append, ← List.map_append]
  exact ((List.filter_append_perm p xs).map f).sum_eq

lemma covered_add_leftOut :
    forecaster.covered today costs horizon + forecaster.leftOut today costs horizon
      = forecaster.restOfMonth today costs := by
  rw [restOfMonth, ← sum_filter_add_sum_filter_not _ fun offset => decide (offset < horizon)]
  simp only [covered, leftOut, ← decide_not, not_lt]

/-- What is recorded of the month is what was spent, and what is dated ahead. -/
lemma monthActual_eq :
    ((history.filter fun entry => inMonth today entry.1).map Prod.snd).sum
      = spentSoFar today history + datedAhead today history := by
  rw [← sum_filter_add_sum_filter_not _ fun entry => decide (entry.1 ≤ today)]
  simp only [spentSoFar, datedAhead, List.filter_filter, ← decide_not, not_le, Bool.and_comm]

/-- A later day is in the month exactly where it is one of the remaining days. -/
lemma inMonth_iff (today offset : Nat) :
    inMonth today (today + 1 + offset) = true ↔ offset < remainingDays today := by
  obtain ⟨hmonth, -, hstarted⟩ := monthStart_monthOf today
  have hsame := @sameMonth_iff today (today + 1 + offset) (by omega)
  rw [monthStart_succ _ hmonth] at hsame
  simp only [inMonth, Bool.and_eq_true, decide_eq_true_eq, hsame, remainingDays]
  omega

/-- On the last day of the month nothing of it is ahead. -/
lemma datedAhead_of_last (h : remainingDays today = 0) : datedAhead today history = 0 := by
  have hnil : (history.filter fun entry => inMonth today entry.1 && today < entry.1) = [] := by
    refine List.filter_eq_nil_iff.mpr fun entry _ hentry => ?_
    rw [Bool.and_eq_true, decide_eq_true_eq] at hentry
    obtain ⟨hmonth, hlater⟩ := hentry
    obtain ⟨offset, hoffset⟩ := Nat.exists_eq_add_of_lt hlater
    have hday : entry.1 = today + 1 + offset := by omega
    rw [hday, inMonth_iff, h] at hmonth
    exact absurd hmonth (Nat.not_lt_zero offset)
  rw [datedAhead, hnil]
  rfl

lemma addDays_eq_ok_iff {day days reached : Nat} :
    addDays day days = .ok reached ↔ day + days < dayCount ∧ reached = day + days := by
  rw [addDays]
  split_ifs with hday
  · simp [hday, eq_comm]
  · simp [hday]

lemma dailyPoints_eq_ok_iff {startDate : Nat}
    {point : (targetDate offset : Nat) → DailyForecastPoint} {points : List DailyForecastPoint} :
    dailyPoints startDate horizon point = .ok points
      ↔ (∀ offset < horizon, startDate + offset < dayCount)
        ∧ points = (List.range horizon).map fun offset => point (startDate + offset) offset := by
  have hstep : ∀ offset reached,
      (addDays startDate offset >>= fun targetDate => .ok (point targetDate offset)) = .ok reached
        ↔ startDate + offset < dayCount ∧ reached = point (startDate + offset) offset := by
    intro offset reached
    simp only [Fallible.bind_eq_ok, addDays_eq_ok_iff]
    constructor
    · rintro ⟨_, ⟨hday, rfl⟩, h⟩
      exact ⟨hday, (Except.ok.inj h).symm⟩
    · rintro ⟨hday, rfl⟩
      exact ⟨_, ⟨hday, rfl⟩, rfl⟩
  rw [dailyPoints, Int.toNat_natCast]
  refine (Fallible.mapM_eq_ok_map hstep).trans ?_
  simp only [List.mem_range]

lemma filter_lt_range (m n : Nat) :
    (List.range m).filter (· < n) = List.range (min m n) := by
  induction m with
  | zero => simp
  | succ m ih =>
      rw [List.range_succ, List.filter_append, ih]
      by_cases hm : m < n
      · rw [Nat.min_eq_left (Nat.succ_le_of_lt hm), Nat.min_eq_left hm.le, List.range_succ]
        simp [hm]
      · rw [Nat.min_eq_right (by omega), Nat.min_eq_right (by omega)]
        simp [hm]

/-- The points of a horizon add up to the remaining days it covers. -/
lemma futureInMonth_eq :
    (((List.range horizon).map fun offset =>
        forecaster.trendPoint costs (today + 1 + offset) offset).filter fun point =>
          inMonth today point.forecastDate).map DailyForecastPoint.predictedCost
      = ((List.range (remainingDays today)).filter (· < horizon)).map
          (forecaster.prediction costs) := by
  have hinside : (fun point => inMonth today (DailyForecastPoint.forecastDate point))
      ∘ (fun offset => forecaster.trendPoint costs (today + 1 + offset) offset)
      = fun offset => decide (offset < remainingDays today) := by
    funext offset
    exact Bool.eq_iff_iff.mpr ((inMonth_iff today offset).trans decide_eq_true_iff.symm)
  rw [List.filter_map, List.map_map, hinside, filter_lt_range, filter_lt_range, Nat.min_comm]
  rfl

/-- **A forecast from tomorrow on is one of the line**, where the calendar reaches to its end. -/
theorem generateForecast_monthEnd_iff {items : List HistoryItem}
    (hhistory : forecaster.orderedHistory items = .ok history) (hthree : 3 ≤ history.length)
    (hhorizon : 1 ≤ horizon) (monthEnd : ℚ) :
    (∃ result, forecaster.generateForecast items horizon today none = .ok result
        ∧ result.monthEndForecastCost = monthEnd)
      ↔ today + horizon < dayCount ∧ PyFloat.roundTo 2 (computeMonthEndProjection today history
          ((List.range horizon).map fun offset =>
            forecaster.trendPoint (history.map Prod.snd) (today + 1 + offset) offset)
          (average (history.map Prod.snd))) = monthEnd := by
  have hnonempty : history.length ≠ 0 := by omega
  simp only [generateForecast, hhistory, Fallible.ok_bind, Option.elim_none, if_neg hnonempty,
    if_neg (Nat.not_lt.mpr hthree), trendForecast, Fallible.bind_eq_ok, dailyPoints_eq_ok_iff,
    addDays_eq_ok_iff]
  constructor
  · rintro ⟨result, ⟨_, ⟨-, rfl⟩, points, ⟨hcalendar, rfl⟩, hresult⟩, hmonthEnd⟩
    cases Except.ok.inj hresult
    have hlast := hcalendar (horizon - 1) (by omega)
    exact ⟨by omega, hmonthEnd⟩
  · rintro ⟨hcalendar, hmonthEnd⟩
    exact ⟨_, ⟨today + 1, ⟨by omega, rfl⟩, _, ⟨fun offset hoffset => by omega, rfl⟩, rfl⟩,
      hmonthEnd⟩

/-- Two amounts that are the same to the cent. -/
def SameCents (a b : ℚ) : Prop := PyFloat.roundTo 2 a = PyFloat.roundTo 2 b

/-- **The projection is what the month comes to**: the spend so far, and the prediction of every
    remaining day. -/
def ProjectsMonth (forecaster : CostForecaster) (items : List HistoryItem) (history : DailyCosts)
    (today horizon : Nat) : Prop :=
  ∃ result, forecaster.generateForecast items horizon today none = .ok result
    ∧ result.monthEndForecastCost = PyFloat.roundTo 2
      (spentSoFar today history + forecaster.restOfMonth today (history.map Prod.snd))

/-- **The projection is what the month comes to** exactly where nothing of the month remains, or
    what it counts beside the predictions it covers makes the same cents as those it leaves out:
    costs that are dated ahead, and the average of all remaining days where it covers nothing. -/
theorem projectsMonth_iff (forecaster : CostForecaster) (items : List HistoryItem)
    (history : DailyCosts) (today horizon : Nat)
    (hhistory : forecaster.orderedHistory items = .ok history) (hthree : 3 ≤ history.length)
    (hhorizon : 1 ≤ horizon) :
    ProjectsMonth forecaster items history today horizon
      ↔ today + horizon < dayCount
        ∧ (remainingDays today = 0
          ∨ 0 < forecaster.covered today (history.map Prod.snd) horizon
            ∧ SameCents (spentSoFar today history
                + forecaster.covered today (history.map Prod.snd) horizon
                + datedAhead today history)
              (spentSoFar today history
                + forecaster.covered today (history.map Prod.snd) horizon
                + forecaster.leftOut today (history.map Prod.snd) horizon)
          ∨ forecaster.covered today (history.map Prod.snd) horizon = 0
            ∧ SameCents (spentSoFar today history + datedAhead today history
                + average (history.map Prod.snd) * remainingDays today)
              (spentSoFar today history
                + forecaster.leftOut today (history.map Prod.snd) horizon)) := by
  rw [ProjectsMonth, generateForecast_monthEnd_iff hhistory hthree hhorizon]
  refine and_congr_right fun _ => ?_
  rw [computeMonthEndProjection, monthActual_eq, futureInMonth_eq, ← covered]
  by_cases hlast : remainingDays today = 0
  · have hrest : forecaster.restOfMonth today (history.map Prod.snd) = 0 := by
      simp [restOfMonth, hlast]
    simp [hlast, datedAhead_of_last hlast, hrest]
  · rw [if_neg hlast, ← @covered_add_leftOut forecaster today (history.map Prod.snd) horizon]
    simp only [hlast, false_or, SameCents]
    by_cases hcovered : 0 < forecaster.covered today (history.map Prod.snd) horizon
    · rw [if_pos hcovered]
      simp only [hcovered, hcovered.ne', true_and, false_and, or_false]
      rw [add_right_comm, add_assoc (spentSoFar today history)
        (forecaster.covered today (history.map Prod.snd) horizon) (forecaster.leftOut _ _ _)]
    · have hzero : forecaster.covered today (history.map Prod.snd) horizon = 0 :=
        le_antisymm (not_lt.mp hcovered) covered_nonneg
      rw [if_neg hcovered]
      simp only [hzero, lt_irrefl, false_and, true_and, false_or, zero_add]

/-- A forecaster that needs no roots but of zero, and no texts read as dates. -/
def plainForecaster : CostForecaster where
  sqrt := id
  fromIsoFormat _ := .error "ValueError"

/-- A day of June 2025. -/
def june (day : Nat) : Nat := monthStart 2025 6 + (day - 1)

/-- Three days at ten a day. -/
def steadyJune : DailyCosts := [(june 8, 10), (june 9, 10), (june 10, 10)]

def steadyItems : List HistoryItem := steadyJune.map fun entry => .Pair entry.1 entry.2

/-- A horizon of thirty days covers the rest of the month. -/
theorem thirtyDays_projects : ProjectsMonth plainForecaster steadyItems steadyJune (june 10) 30 :=
  (projectsMonth_iff plainForecaster steadyItems steadyJune (june 10) 30 (by decide +kernel)
    (by decide) (by decide)).mpr
      ⟨by decide +kernel, .inr (.inl ⟨by decide +kernel, by rw [SameCents]; decide +kernel⟩)⟩

/-- A horizon of one day leaves nineteen days out. -/
theorem oneDay_underprojects :
    ¬ ProjectsMonth plainForecaster steadyItems steadyJune (june 10) 1 := by
  rintro ⟨result, hresult, hmonthEnd⟩
  obtain ⟨_, hresult', hforty⟩ : ∃ result,
      plainForecaster.generateForecast steadyItems 1 (june 10) none = .ok result
        ∧ result.monthEndForecastCost = 40 := Fallible.toOption_map_eq_some.mp (by decide +kernel)
  cases Except.ok.inj (hresult.symm.trans hresult')
  exact absurd (hforty.symm.trans hmonthEnd) (by decide +kernel)

end CostForecaster

end CostPlatform
