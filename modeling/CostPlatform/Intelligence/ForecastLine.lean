import CostPlatform.Intelligence.Forecast
import CostPlatform.Library.LeastSquares
import Mathlib.Data.Finset.Card
import Mathlib.Tactic.LinearCombination
import Mathlib.Tactic.Positivity

/-!
# A trend in the calendar

The forecaster fits a line of costs over their places in the list, and reads it on from there day by
day.  `exactPoints` are the points of a horizon before they are rounded.

Costs on a line over their dates are on one over their places exactly where the dates are evenly
spaced, and `reproducesLine_iff` says when the points of a horizon are on it: the dates have to go
on in the horizon as they came, or the line has to have no rise.
-/

namespace CostPlatform

open PyJson Calendar

/-- A forecast point before it is rounded. -/
structure ExactPoint where
  date : Nat
  predicted : ℚ
  margin : ℚ
  deriving DecidableEq, Repr

def ExactPoint.rounded (point : ExactPoint) : DailyForecastPoint where
  forecastDate := point.date
  predictedCost := PyFloat.roundTo 2 point.predicted
  lowerBound := PyFloat.roundTo 2 (max 0 (point.predicted - point.margin))
  upperBound := PyFloat.roundTo 2 (point.predicted + point.margin)
  confidence := 95 / 100

namespace CostForecaster

variable (forecaster : CostForecaster)

def exactPoint (costs : List ℚ) (targetDate offset : Nat) : ExactPoint where
  date := targetDate
  predicted := forecaster.predicted costs offset
  margin := 196 / 100 * (forecaster.trendOf costs).stdError * (1 + offset / 30 * (1 / 2))

/-- The day a forecast starts with. -/
def firstDay (today : Nat) (startDate : Option Nat) : Nat := startDate.getD (today + 1)

/-- The points of a horizon before they are rounded. -/
def exactPoints (history : DailyCosts) (first horizon : Nat) : List ExactPoint :=
  (List.range horizon).map fun offset =>
    forecaster.exactPoint (history.map Prod.snd) (first + offset) offset

variable {forecaster} {history : DailyCosts} {costs : List ℚ} {items : List HistoryItem}
  {today : Nat} {startDate : Option Nat} {horizonDays : Int} {start rise : ℚ}

lemma generateForecast_of_three (hhistory : forecaster.orderedHistory items = .ok history)
    (hthree : 3 ≤ history.length) :
    forecaster.generateForecast items horizonDays today startDate
      = startDate.elim (addDays today 1) .ok >>= fun first =>
        forecaster.trendForecast horizonDays today first history := by
  have hnonempty : history.length ≠ 0 := by omega
  simp only [generateForecast, hhistory, Fallible.ok_bind, if_neg hnonempty,
    if_neg (Nat.not_lt.mpr hthree)]

lemma eq_firstDay {first : Nat}
    (h : startDate.elim (addDays today 1) .ok = .ok first) : first = firstDay today startDate := by
  cases startDate with
  | none => exact (addDays_eq_ok_iff.mp h).2
  | some day => exact (Except.ok.inj h).symm

/-- **The points of a result** are the exact ones, rounded. -/
lemma dailyPoints_of_result (hhistory : forecaster.orderedHistory items = .ok history)
    (hthree : 3 ≤ history.length) {result : ForecastResult}
    (h : forecaster.generateForecast items horizonDays today startDate = .ok result) :
    result.dailyPoints = (forecaster.exactPoints history (firstDay today startDate)
      horizonDays.toNat).map ExactPoint.rounded := by
  rw [generateForecast_of_three hhistory hthree] at h
  obtain ⟨first, hfirst, hresult⟩ := Fallible.bind_eq_ok.mp h
  obtain ⟨points, hpoints, hrest⟩ := Fallible.bind_eq_ok.mp hresult
  cases Except.ok.inj hrest
  rw [dailyPoints, ← Int.toNat_natCast horizonDays.toNat, ← dailyPoints, dailyPoints_eq_ok_iff]
    at hpoints
  rw [hpoints.2, eq_firstDay hfirst, exactPoints, List.map_map]
  rfl

lemma exists_result_iff (hhistory : forecaster.orderedHistory items = .ok history)
    (hthree : 3 ≤ history.length) (hpos : 0 < horizonDays) :
    (∃ result, forecaster.generateForecast items horizonDays today startDate = .ok result)
      ↔ firstDay today startDate + horizonDays.toNat ≤ dayCount := by
  have hlast : horizonDays.toNat = (horizonDays.toNat - 1) + 1 := by omega
  have hpoints : ∀ first points, dailyPoints first horizonDays
        (forecaster.trendPoint (history.map Prod.snd)) = .ok points
      ↔ (∀ offset < horizonDays.toNat, first + offset < dayCount)
        ∧ points = (List.range horizonDays.toNat).map fun offset =>
          forecaster.trendPoint (history.map Prod.snd) (first + offset) offset := by
    intro first points
    rw [← dailyPoints_eq_ok_iff, dailyPoints, dailyPoints, Int.toNat_natCast]
  simp only [generateForecast_of_three hhistory hthree, trendForecast, Fallible.bind_eq_ok, hpoints]
  constructor
  · rintro ⟨_, first, hfirst, points, ⟨hcalendar, -⟩, -⟩
    have hday := eq_firstDay hfirst
    have hreached := hcalendar (horizonDays.toNat - 1) (by omega)
    omega
  · intro hcalendar
    refine ⟨_, firstDay today startDate, ?_, _, ⟨fun offset hoffset => by omega, rfl⟩, rfl⟩
    cases startDate with
    | none =>
        have hday : firstDay today none = today + 1 := rfl
        exact addDays_eq_ok_iff.mpr ⟨by omega, rfl⟩
    | some day => rfl

/-! ## The line over the places -/

/-- The places of a list, from zero on. -/
def places (n : Nat) : List ℚ := (List.range n).map fun place : Nat => (place : ℚ)

/-- The costs over their places in the list. -/
def placed (costs : List ℚ) : List (ℚ × ℚ) := (places costs.length).zip costs

lemma mem_placed {point : ℚ × ℚ} :
    point ∈ placed costs
      ↔ ∃ (place : Nat) (h : place < costs.length), ((place : ℚ), costs[place]) = point := by
  simp only [placed, places, List.mem_iff_getElem, List.length_zip, List.length_map,
    List.length_range, min_self, List.getElem_zip, List.getElem_map, List.getElem_range]

/-- The trend is the line of best fit through the placed costs. -/
lemma trendOf_eq :
    forecaster.trendOf costs
      = { slope := LeastSquares.slope (placed costs)
          intercept := LeastSquares.intercept (placed costs)
          stdError := forecaster.sqrt
            (LeastSquares.squaredError (placed costs) / max 1 ((costs.length : ℚ) - 2)) } := by
  have hplaces : ((do let a ← List.range costs.length; pure (a : ℚ)) : List ℚ)
      = places costs.length := by
    rw [places, List.map_eq_flatMap]
    rfl
  have hfst : (placed costs).map Prod.fst = places costs.length :=
    List.map_fst_zip (by simp [places])
  have hsnd : (placed costs).map Prod.snd = costs := List.map_snd_zip (by simp [places])
  have hmap : ∀ f : ℚ → ℚ,
      (places costs.length).map f = (placed costs).map fun point => f point.1 := by
    intro f
    rw [← hfst, List.map_map]
    rfl
  have hzip : ∀ f : ℚ → ℚ → ℚ, List.zipWith f (places costs.length) costs
      = (placed costs).map fun point => f point.1 point.2 := by
    intro f
    rw [placed, List.zip_eq_zipWith, List.map_zipWith]
  have hslope : ∀ n d : ℚ, (if d ≠ 0 then n / d else 0) = n / d := by
    intro n d
    split_ifs with hd
    · rfl
    · rw [not_not.mp hd, div_zero]
  simp only [trendOf, hplaces, List.map_id']
  simp only [hzip, hslope, hmap, List.map_map, Function.comp_def]
  simp only [LeastSquares.slope, LeastSquares.intercept, LeastSquares.squaredError,
    LeastSquares.covariation, LeastSquares.spread, LeastSquares.mean, average, hfst, hsnd]

/-- Placed costs are on a line where every cost is what the line has at its place. -/
lemma onLine_placed :
    LeastSquares.OnLine start rise (placed costs)
      ↔ ∀ (place : Nat) (h : place < costs.length), costs[place] = start + rise * place := by
  constructor
  · exact fun h place hplace => h _ (mem_placed.mpr ⟨place, hplace, rfl⟩)
  · intro h point hpoint
    obtain ⟨place, hplace, rfl⟩ := mem_placed.mp hpoint
    exact h place hplace

lemma placed_ne_nil (htwo : 2 ≤ costs.length) : placed costs ≠ [] :=
  List.ne_nil_of_mem (mem_placed.mpr ⟨0, by omega, rfl⟩)

lemma spread_placed (htwo : 2 ≤ costs.length) : LeastSquares.spread (placed costs) ≠ 0 :=
  LeastSquares.spread_ne_zero (mem_placed.mpr ⟨0, by omega, rfl⟩)
    (mem_placed.mpr ⟨1, htwo, rfl⟩) (by norm_num)

/-- Costs on a line over their places are continued on it. -/
lemma predicted_of_onLine (htwo : 2 ≤ costs.length)
    (h : LeastSquares.OnLine start rise (placed costs)) (offset : Nat) :
    forecaster.predicted costs offset = max 0 (start + rise * (costs.length + offset)) := by
  obtain ⟨hstart, hrise⟩ := LeastSquares.fit_of_onLine (placed_ne_nil htwo) (spread_placed htwo) h
  rw [predicted, trendOf_eq, hstart, hrise]

/-- There is no error exactly where the costs are on a line over their places. -/
lemma stdError_eq_zero_iff (hsqrt : ∀ x, 0 ≤ x → (forecaster.sqrt x = 0 ↔ x = 0))
    (htwo : 2 ≤ costs.length) :
    (forecaster.trendOf costs).stdError = 0
      ↔ ∃ start rise, LeastSquares.OnLine start rise (placed costs) := by
  have hfreedom : (0 : ℚ) < max 1 ((costs.length : ℚ) - 2) := lt_max_of_lt_left one_pos
  rw [trendOf_eq, hsqrt _ (div_nonneg LeastSquares.squaredError_nonneg hfreedom.le),
    div_eq_zero_iff, or_iff_left hfreedom.ne',
    LeastSquares.squaredError_eq_zero_iff (placed_ne_nil htwo) (spread_placed htwo)]

lemma exactPoint_margin_eq_zero_iff (targetDate offset : Nat) :
    (forecaster.exactPoint costs targetDate offset).margin = 0
      ↔ (forecaster.trendOf costs).stdError = 0 := by
  have hspread : (0 : ℚ) < 1 + offset / 30 * (1 / 2) := by positivity
  simp only [exactPoint, mul_eq_zero, hspread.ne', or_false]
  norm_num

/-! ## The line over the dates -/

/-- Every date is as many days after the one before it. -/
def EvenlySpaced (history : DailyCosts) (first step : Nat) : Prop :=
  ∀ (place : Nat) (h : place < history.length), history[place].1 = first + step * place

/-- The costs of the history are on a line over their dates. -/
def OnCalendarLine (a b : ℚ) (history : DailyCosts) : Prop :=
  ∀ entry ∈ history, entry.2 = a + b * entry.1

variable {a b : ℚ} {first step : Nat}

lemma orderedHistory_sorted (hhistory : forecaster.orderedHistory items = .ok history) :
    history.Pairwise fun entry other => entry.1 ≤ other.1 := by
  obtain ⟨parsed, -, hsorted⟩ := Fallible.bind_eq_ok.mp hhistory
  cases Except.ok.inj hsorted
  have htotal : Std.Total fun entry other : Nat × ℚ => entry.1 ≤ other.1 :=
    ⟨fun entry other => Nat.le_total entry.1 other.1⟩
  have htrans : IsTrans (Nat × ℚ) fun entry other => entry.1 ≤ other.1 :=
    ⟨fun _ _ _ => Nat.le_trans⟩
  exact List.pairwise_insertionSort _ parsed

/-- Costs on a line over evenly spaced dates are on a line over their places. -/
lemma onLine_of_evenlySpaced (hline : OnCalendarLine a b history)
    (heven : EvenlySpaced history first step) :
    LeastSquares.OnLine (a + b * first) (b * step) (placed (history.map Prod.snd)) := by
  refine onLine_placed.mpr fun place hplace => ?_
  rw [List.length_map] at hplace
  rw [List.getElem_map, hline _ (List.getElem_mem hplace), heven place hplace]
  push_cast
  ring

/-- Costs on a line without a rise are on it over their places. -/
lemma onLine_of_flat (hline : OnCalendarLine a 0 history) :
    LeastSquares.OnLine a 0 (placed (history.map Prod.snd)) := by
  refine onLine_placed.mpr fun place hplace => ?_
  rw [List.length_map] at hplace
  rw [List.getElem_map, hline _ (List.getElem_mem hplace), zero_mul, zero_mul]

/-- Costs that rise on a line over their dates are on one over their places only where the dates are
    evenly spaced. -/
lemma evenlySpaced_of_onLine (hsorted : history.Pairwise fun entry other => entry.1 ≤ other.1)
    (htwo : 2 ≤ history.length) (hline : OnCalendarLine a b history) (hb : b ≠ 0)
    (h : LeastSquares.OnLine start rise (placed (history.map Prod.snd))) :
    ∃ first step, EvenlySpaced history first step := by
  have hplaces : ∀ (place : Nat) (h : place < history.length),
      a + b * history[place].1 = start + rise * place := by
    intro place hplace
    have hcost := onLine_placed.mp h place (by rwa [List.length_map])
    rw [List.getElem_map, hline _ (List.getElem_mem hplace)] at hcost
    exact hcost
  have hzero := hplaces 0 (by omega)
  have hone := hplaces 1 (by omega)
  have hle : history[0].1 ≤ history[1].1 :=
    List.pairwise_iff_getElem.mp hsorted 0 1 (by omega) (by omega) one_pos
  obtain ⟨step, hstep⟩ := Nat.exists_eq_add_of_le hle
  refine ⟨history[0].1, step, fun place hplace => ?_⟩
  have hthere := hplaces place hplace
  rw [hstep] at hone
  push_cast at hzero hone
  have hcast : (history[place].1 : ℚ) = (history[0].1 + step * place : ℕ) := by
    push_cast
    refine mul_left_cancel₀ hb ?_
    linear_combination hthere + (place - 1) * hzero - place * hone
  exact_mod_cast hcast

/-! ## Reproducing a line -/

/-- **Each point of the forecast is on the line at its own date**, and nothing is left open about
    it. -/
def ReproducesLine (forecaster : CostForecaster) (items : List HistoryItem) (history : DailyCosts)
    (horizonDays : Int) (today : Nat) (startDate : Option Nat) (a b : ℚ) : Prop :=
  ∀ result, forecaster.generateForecast items horizonDays today startDate = .ok result →
    result.dailyPoints = (forecaster.exactPoints history (firstDay today startDate)
        horizonDays.toNat).map ExactPoint.rounded
      ∧ ∀ point ∈ forecaster.exactPoints history (firstDay today startDate) horizonDays.toNat,
        point.predicted = max 0 (a + b * point.date) ∧ point.margin = 0

/-- Two days that have the same cost on the line, which is not below zero. -/
def SameOnLine (a b : ℚ) (day other : Nat) : Prop :=
  day = other ∨ a + b * day ≤ 0 ∧ a + b * other ≤ 0

/-- The dates go on in the horizon as they came in the history, as far as the line can tell. -/
def GoesOnEvenly (a b : ℚ) (history : DailyCosts) (firstDay horizon : Nat) : Prop :=
  ∃ first step, EvenlySpaced history first step
    ∧ ∀ offset < horizon, SameOnLine a b (first + step * (history.length + offset))
        (firstDay + offset)

lemma max_line_eq_iff (hb : b ≠ 0) {day other : Nat} :
    max 0 (a + b * day) = max 0 (a + b * other) ↔ SameOnLine a b day other := by
  have hinj : a + b * (day : ℚ) = a + b * other ↔ day = other := by
    rw [add_right_inj, mul_right_inj' hb, Nat.cast_inj]
  rw [SameOnLine, ← hinj]
  constructor
  · intro h
    rcases le_or_gt (a + b * (day : ℚ)) 0 with hday | hday
    · rw [max_eq_left hday] at h
      exact .inr ⟨hday, max_eq_left_iff.mp h.symm⟩
    · rw [max_eq_right hday.le] at h
      refine .inl (h.trans (max_eq_right ?_))
      by_contra hother
      rw [max_eq_left (not_le.mp hother).le] at h
      exact hday.ne' h
  · rintro (h | ⟨hday, hother⟩)
    · rw [h]
    · rw [max_eq_left hday, max_eq_left hother]

lemma forall_exactPoints {P : ExactPoint → Prop} {firstDay horizon : Nat} :
    (∀ point ∈ forecaster.exactPoints history firstDay horizon, P point)
      ↔ ∀ offset < horizon,
        P (forecaster.exactPoint (history.map Prod.snd) (firstDay + offset) offset) := by
  simp only [exactPoints, List.forall_mem_map, List.mem_range]

/-- The exact points are on the line exactly where it is flat or the dates go on evenly. -/
lemma exactPoints_onLine_iff (hsqrt : ∀ x, 0 ≤ x → (forecaster.sqrt x = 0 ↔ x = 0))
    (hsorted : history.Pairwise fun entry other => entry.1 ≤ other.1) (htwo : 2 ≤ history.length)
    (hline : OnCalendarLine a b history) {firstDay horizon : Nat} (hhorizon : 0 < horizon) :
    (∀ point ∈ forecaster.exactPoints history firstDay horizon,
        point.predicted = max 0 (a + b * point.date) ∧ point.margin = 0)
      ↔ b = 0 ∨ GoesOnEvenly a b history firstDay horizon := by
  have htwo' : 2 ≤ (history.map Prod.snd).length := by rwa [List.length_map]
  simp only [forall_exactPoints, exactPoint_margin_eq_zero_iff, stdError_eq_zero_iff hsqrt htwo']
  have hevenly : ∀ first step, EvenlySpaced history first step → ∀ offset,
      forecaster.predicted (history.map Prod.snd) offset
        = max 0 (a + b * (first + step * (history.length + offset) : ℕ)) := by
    intro first step heven offset
    rw [predicted_of_onLine htwo' (onLine_of_evenlySpaced hline heven), List.length_map]
    push_cast
    ring_nf
  constructor
  · intro h
    refine or_iff_not_imp_left.mpr fun hb => ?_
    obtain ⟨-, start, rise, honLine⟩ := h 0 hhorizon
    obtain ⟨first, step, heven⟩ := evenlySpaced_of_onLine hsorted htwo hline hb honLine
    refine ⟨first, step, heven, fun offset hoffset => (max_line_eq_iff hb).mp ?_⟩
    rw [← hevenly first step heven offset]
    exact (h offset hoffset).1
  · intro h offset hoffset
    by_cases hb : b = 0
    · subst hb
      have hflat := onLine_of_flat hline
      refine ⟨?_, _, _, hflat⟩
      show forecaster.predicted _ offset = _
      rw [predicted_of_onLine htwo' hflat, zero_mul, zero_mul]
    · obtain ⟨first, step, heven, hsame⟩ := h.resolve_left hb
      refine ⟨?_, _, _, onLine_of_evenlySpaced hline heven⟩
      exact (hevenly first step heven offset).trans
        ((max_line_eq_iff hb).mpr (hsame offset hoffset))

/-- **A line is reproduced** exactly where there is nothing to forecast or no day for it in the
    calendar, the line has no rise, or the dates go on in the horizon as they came. -/
theorem reproducesLine_iff (forecaster : CostForecaster) (items : List HistoryItem)
    (history : DailyCosts) (horizonDays : Int) (today : Nat) (startDate : Option Nat) (a b : ℚ)
    (hsqrt : ∀ x, 0 ≤ x → (forecaster.sqrt x = 0 ↔ x = 0))
    (hhistory : forecaster.orderedHistory items = .ok history)
    (hdates : 3 ≤ (history.map Prod.fst).toFinset.card) (hline : OnCalendarLine a b history) :
    ReproducesLine forecaster items history horizonDays today startDate a b
      ↔ horizonDays ≤ 0 ∨ dayCount < firstDay today startDate + horizonDays.toNat ∨ b = 0
        ∨ GoesOnEvenly a b history (firstDay today startDate) horizonDays.toNat := by
  have hthree : 3 ≤ history.length := by
    have hcard := (history.map Prod.fst).toFinset_card_le
    rw [List.length_map] at hcard
    exact hdates.trans hcard
  rcases le_or_gt horizonDays 0 with hnone | hpos
  · refine iff_of_true (fun result hresult => ⟨dailyPoints_of_result hhistory hthree hresult, ?_⟩)
      (.inl hnone)
    rw [Int.toNat_of_nonpos hnone]
    exact fun point hpoint => absurd hpoint List.not_mem_nil
  have hsome : 0 < horizonDays.toNat := by omega
  have hcalendar : (∃ result,
        forecaster.generateForecast items horizonDays today startDate = .ok result)
      ↔ firstDay today startDate + horizonDays.toNat ≤ dayCount :=
    exists_result_iff hhistory hthree hpos
  rw [or_iff_right (not_le.mpr hpos), ← exactPoints_onLine_iff hsqrt
    (orderedHistory_sorted hhistory) (by omega) hline hsome]
  constructor
  · intro h
    refine or_iff_not_imp_left.mpr fun hfits => ?_
    obtain ⟨result, hresult⟩ := hcalendar.mpr (not_lt.mp hfits)
    exact (h result hresult).2
  · intro h result hresult
    have hfits := hcalendar.mp ⟨result, hresult⟩
    exact ⟨dailyPoints_of_result hhistory hthree hresult, h.resolve_left (by omega)⟩

/-- A cost of ten on the first of June, and one more on every day after it. -/
def fromTheFirst : ℚ := 10 - june 1

/-- Days of June at what the line has for them. -/
def risingOn (days : List Nat) : DailyCosts :=
  days.map fun day => (june day, fromTheFirst + 1 * june day)

def risingItems (days : List Nat) : List HistoryItem :=
  (risingOn days).map fun entry => .Pair entry.1 entry.2

lemma risingOn_onLine (days : List Nat) : OnCalendarLine fromTheFirst 1 (risingOn days) := by
  intro entry hentry
  obtain ⟨day, -, rfl⟩ := List.mem_map.mp hentry
  rfl

/-- Three days in a row go on with the next one. -/
theorem inARow_reproduces :
    ReproducesLine plainForecaster (risingItems [9, 8, 10]) (risingOn [8, 9, 10]) 1 (june 10) none
      fromTheFirst 1 :=
  (reproducesLine_iff plainForecaster (risingItems [9, 8, 10]) (risingOn [8, 9, 10]) 1 (june 10)
    none fromTheFirst 1 (fun _ _ => Iff.rfl) (by decide +kernel) (by decide +kernel)
    (risingOn_onLine _)).mpr
      (.inr (.inr (.inr ⟨june 8, 1, by rw [EvenlySpaced]; decide +kernel, fun offset hoffset => by
        rw [Nat.lt_one_iff.mp hoffset]
        exact .inl (by decide +kernel)⟩)))

/-- After every other day, the next one is taken for two days on. -/
theorem everyOtherDay_misses :
    plainForecaster.orderedHistory (risingItems [1, 3, 5]) = .ok (risingOn [1, 3, 5])
      ∧ OnCalendarLine fromTheFirst 1 (risingOn [1, 3, 5])
      ∧ ¬ ReproducesLine plainForecaster (risingItems [1, 3, 5]) (risingOn [1, 3, 5]) 1 (june 5)
        (some (june 6)) fromTheFirst 1 := by
  refine ⟨by decide +kernel, risingOn_onLine _, fun h => ?_⟩
  obtain ⟨result, hresult⟩ := Fallible.toOption_isSome_iff.mp (show
    (plainForecaster.generateForecast (risingItems [1, 3, 5]) 1 (june 5)
      (some (june 6))).toOption.isSome = true by decide +kernel)
  have hpoint := (forall_exactPoints.mp (h result hresult).2 0 one_pos).1
  exact absurd hpoint (by decide +kernel)

end CostForecaster

end CostPlatform
