import CostPlatform.Budget.Period
import CostPlatform.Library.Fallible

/-!
# Budget periods tile the timeline

The periods of each kind are the blocks of a tiling of the days (`periodDays_eq`): single days, and
one, three and twelve months.  So a window is shared by all its instants, the next one starts where
it ends, and the shorter periods refine the longer ones (`periods_tile`).

All of it holds where the calendar has room.  A `datetime` need not lie in it once it is normalised
to UTC, and no year follows 9999 (`calendar_runs_out`).
-/

namespace CostPlatform

open Calendar

/-! ## The tiling of a kind of period -/

def BudgetPeriod.tiling : BudgetPeriod → Tiling
  | .Daily => .units
  | .Monthly => months
  | .Quarterly => months.every 3 (by decide)
  | .Annual => months.every 12 (by decide)

/-- **A period is a block** of the tiling of its kind. -/
theorem periodDays_eq (period : BudgetPeriod) (now : Timestamp) :
    ∃ k, periodDays period now = (period.tiling.start k, period.tiling.start (k + 1)) := by
  obtain ⟨hone, -⟩ := yearStart_yearOf (dayOf now)
  obtain ⟨hmonth, htwelve, -⟩ := monthStart_monthOf (dayOf now)
  obtain ⟨years, hyears⟩ : ∃ years, yearOf (dayOf now) = years + 1 := Nat.exists_eq_add_of_le' hone
  obtain ⟨month, hmonths⟩ : ∃ month, monthOf (dayOf now) = month + 1 :=
    Nat.exists_eq_add_of_le' hmonth
  have hlast : month + 1 ≤ 12 := hmonths ▸ htwelve
  cases period with
  | Daily => exact ⟨dayOf now, rfl⟩
  | Monthly =>
      refine ⟨12 * years + month, ?_⟩
      have hfirst := months_start years (Nat.le_of_succ_le hlast)
      have hnext := months_start years hlast
      rw [← Nat.add_assoc] at hnext
      simp only [periodDays, BudgetPeriod.tiling, hyears, hmonths, hfirst, hnext]
      rw [monthStart_succ _ (Nat.succ_pos month)]
  | Quarterly =>
      refine ⟨4 * years + month / 3, ?_⟩
      have hquarter : 3 * (month / 3) + 3 ≤ 12 := by omega
      have hfirst : (BudgetPeriod.Quarterly.tiling).start (4 * years + month / 3)
          = monthStart (years + 1) (3 * (month / 3) + 1) := by
        rw [← months_start years (by omega)]
        exact congrArg months.start (by omega)
      have hnext : (BudgetPeriod.Quarterly.tiling).start (4 * years + month / 3 + 1)
          = monthStart (years + 1) (3 * (month / 3) + 4) := by
        rw [← months_start years hquarter]
        exact congrArg months.start (by omega)
      rw [hfirst, hnext, monthStart_succ _ (Nat.succ_pos _)]
      simp only [periodDays, hyears, hmonths, Nat.add_sub_cancel]
  | Annual =>
      refine ⟨years, ?_⟩
      have hfirst : (BudgetPeriod.Annual.tiling).start years = yearStart (years + 1) :=
        months_start years (Nat.zero_le 12)
      have hnext : (BudgetPeriod.Annual.tiling).start (years + 1) = yearStart (years + 2) := by
        rw [← monthStart_thirteen (Nat.succ_pos years), ← months_start years (Nat.le_refl 12)]
        rfl
      rw [hfirst, hnext]
      simp only [periodDays, hyears]

/-- The days of a period are told by any day of it. -/
lemma periodDays_of_inBlock {period : BudgetPeriod} {k : Nat} {now : Timestamp}
    (h : period.tiling.InBlock k (dayOf now)) :
    periodDays period now = (period.tiling.start k, period.tiling.start (k + 1)) := by
  obtain ⟨l, hl⟩ := periodDays_eq period now
  have hmem := dayOf_mem_periodDays period now
  rw [hl] at hmem
  rw [hl, Tiling.inBlock_unique hmem h]

/-- Shorter periods refine the year. -/
lemma refines_annual (period : BudgetPeriod) :
    period.tiling.Refines BudgetPeriod.Annual.tiling := by
  have htwelve : 0 < 12 := by decide
  cases period with
  | Daily => exact .units _
  | Monthly => exact .every months htwelve
  | Quarterly => exact .every_of_dvd months (by decide) htwelve (by decide)
  | Annual => exact .every_of_dvd months (by decide) htwelve (by decide)

/-- And all but the year itself refine the quarter. -/
lemma refines_quarterly {period : BudgetPeriod} (h : period ≠ .Annual) :
    period.tiling.Refines BudgetPeriod.Quarterly.tiling := by
  have hthree : 0 < 3 := by decide
  cases period with
  | Daily => exact .units _
  | Monthly => exact .every months hthree
  | Quarterly => exact .every_of_dvd months hthree hthree (by decide)
  | Annual => exact absurd rfl h

lemma refines_monthly : BudgetPeriod.Daily.tiling.Refines BudgetPeriod.Monthly.tiling := .units _

/-! ## Windows -/

lemma dayOf_dayStart (day : Nat) : dayOf (dayStart day) = day :=
  Nat.mul_div_cancel day (by decide)

/-- The instants of a block's window are those of its days. -/
lemma inBlock_dayOf_iff {tiling : Tiling} {k : Nat} {instant : Timestamp} :
    tiling.InBlock k (dayOf instant)
      ↔ dayStart (tiling.start k) ≤ instant ∧ instant ≤ dayStart (tiling.start (k + 1)) - 1 := by
  have hpos : 0 < microsecondsPerDay := by decide
  have hstart : 0 < dayStart (tiling.start (k + 1)) :=
    Nat.mul_pos (Nat.lt_of_le_of_lt (Nat.zero_le _) (tiling.inBlock_start k).2) hpos
  rw [Nat.le_sub_one_iff_lt hstart]
  exact and_congr (Nat.le_div_iff_mul_le hpos) (Nat.div_lt_iff_lt_mul hpos)

/-- The window of a block, where the calendar has room for it. -/
lemma periodWindow_of_inBlock {period : BudgetPeriod} {k : Nat} {now : Timestamp}
    (h : period.tiling.InBlock k (dayOf now)) (hroom : period.tiling.start (k + 1) < dayCount) :
    periodWindow period now
      = .ok { start := dayStart (period.tiling.start k),
              stop := dayStart (period.tiling.start (k + 1)) - 1 } := by
  rw [periodWindow, periodDays_of_inBlock h]
  exact if_neg (Nat.not_le.mpr hroom)

lemma annual_start_9998 : BudgetPeriod.Annual.tiling.start 9998 = yearStart 9999 :=
  months_start 9998 (Nat.zero_le 12)

/-- A period with a day before the year 9999 ends by then. -/
lemma start_succ_le {period : BudgetPeriod} {k day : Nat} (h : period.tiling.InBlock k day)
    (hbefore : day < yearStart 9999) : period.tiling.start (k + 1) ≤ yearStart 9999 := by
  obtain ⟨year, hyear⟩ := BudgetPeriod.Annual.tiling.exists_inBlock day
  obtain ⟨-, hend⟩ := (refines_annual period).block_le h hyear
  rw [← annual_start_9998] at hbefore ⊢
  refine hend.trans (BudgetPeriod.Annual.tiling.strictMono.monotone ?_)
  have hlt := Nat.lt_of_le_of_lt hyear.1 hbefore
  exact Nat.succ_le_of_lt (BudgetPeriod.Annual.tiling.strictMono.lt_iff_lt.mp hlt)

/-- Behind a period with a day before 9999 there is room for another, but for the year 9999. -/
lemma next_start_lt {period : BudgetPeriod} {k day : Nat} (h : period.tiling.InBlock k day)
    (hbefore : day < yearStart 9999)
    (hannual : period = .Annual → period.tiling.start (k + 1) < yearStart 9999) :
    period.tiling.start (k + 2) < dayCount := by
  have hnext := period.tiling.inBlock_start (k + 1)
  rcases Nat.lt_or_eq_of_le (start_succ_le h hbefore) with hearly | hnew
  · exact Nat.lt_of_le_of_lt (start_succ_le hnext hearly) (by decide)
  · -- the first period of 9999 ends with its first quarter
    have hne : period ≠ .Annual := fun heq => absurd (hannual heq) (by omega)
    have hquarter : BudgetPeriod.Quarterly.tiling.InBlock 39992 (period.tiling.start (k + 1)) := by
      have hfirst : BudgetPeriod.Quarterly.tiling.start 39992 = yearStart 9999 :=
        months_start 9998 (Nat.zero_le 12)
      rw [hnew, ← hfirst]
      exact Tiling.inBlock_start _ _
    obtain ⟨-, hend⟩ := (refines_quarterly hne).block_le hnext hquarter
    have hlast : BudgetPeriod.Quarterly.tiling.start 39993 < dayCount := by decide
    exact Nat.lt_of_le_of_lt hend hlast

/-! ## Tiling the timeline -/

/-- `period_window`, for an instant on any clock. -/
def periodWindowOf (period : BudgetPeriod) (now : Datetime) : Except PeriodError PeriodWindow := do
  let moment ← Fallible.demand now.inUtc .DateOutOfRange
  periodWindow period moment

lemma periodWindowOf_eq {period : BudgetPeriod} {now : Datetime} {moment : Timestamp}
    (h : now.inUtc = some moment) : periodWindowOf period now = periodWindow period moment := by
  rw [periodWindowOf, h]
  rfl

/-- The year 9999, the last one. -/
def lastYear : Timestamp := dayStart (yearStart 9999)

/-- **A tile of the timeline**: the window holds the instant, is the window of everything in it, and
    is followed by the next one. -/
structure Tile (period : BudgetPeriod) (moment : Timestamp) (window : PeriodWindow) : Prop where
  holds : window.start ≤ moment ∧ moment ≤ window.stop
  shared : ∀ (other : Datetime) instant, other.inUtc = some instant → window.start ≤ instant →
    instant ≤ window.stop → periodWindowOf period other = .ok window
  followed : ∀ next : Datetime, next.inUtc = some (window.stop + 1) →
    (period = .Annual → window.stop + 1 < lastYear) →
    ∃ window', periodWindowOf period next = .ok window' ∧ window'.start = window.stop + 1

/-- One window inside the other. -/
def PeriodWindow.Inside (inner outer : PeriodWindow) : Prop :=
  outer.start ≤ inner.start ∧ inner.stop ≤ outer.stop

/-- The window of a block, before the last year, is a tile. -/
lemma tile_of_inBlock {period : BudgetPeriod} {k : Nat} {moment : Timestamp}
    (h : period.tiling.InBlock k (dayOf moment)) (hbefore : dayOf moment < yearStart 9999) :
    Tile period moment
      { start := dayStart (period.tiling.start k),
        stop := dayStart (period.tiling.start (k + 1)) - 1 } := by
  have hroom : period.tiling.start (k + 1) < dayCount :=
    Nat.lt_of_le_of_lt (start_succ_le h hbefore) (by decide)
  have hpos : 0 < dayStart (period.tiling.start (k + 1)) :=
    Nat.mul_pos (Nat.lt_of_le_of_lt (Nat.zero_le _) h.2) (by decide)
  refine ⟨inBlock_dayOf_iff.mp h, ?_, ?_⟩
  · intro other instant hutc hstart hstop
    rw [periodWindowOf_eq hutc]
    exact periodWindow_of_inBlock (inBlock_dayOf_iff.mpr ⟨hstart, hstop⟩) hroom
  · intro next hutc hannual
    have hnext : dayStart (period.tiling.start (k + 1)) - 1 + 1
        = dayStart (period.tiling.start (k + 1)) := Nat.sub_add_cancel hpos
    have hlast : period = .Annual → period.tiling.start (k + 1) < yearStart 9999 := fun heq =>
      Nat.lt_of_mul_lt_mul_right (hnext ▸ hannual heq)
    rw [periodWindowOf_eq hutc]
    dsimp only
    rw [hnext]
    have hblock : period.tiling.InBlock (k + 1)
        (dayOf (dayStart (period.tiling.start (k + 1)))) := by
      rw [dayOf_dayStart]
      exact period.tiling.inBlock_start _
    exact ⟨_, periodWindow_of_inBlock hblock (next_start_lt h hbefore hlast), rfl⟩

/-- The window of an instant before the last year. -/
lemma exists_window (period : BudgetPeriod) {moment : Timestamp} (hbefore : moment < lastYear) :
    ∃ k, period.tiling.InBlock k (dayOf moment) ∧ dayOf moment < yearStart 9999
      ∧ periodWindow period moment
        = .ok { start := dayStart (period.tiling.start k),
                stop := dayStart (period.tiling.start (k + 1)) - 1 } := by
  have hday : dayOf moment < yearStart 9999 := (Nat.div_lt_iff_lt_mul (by decide)).mpr hbefore
  obtain ⟨k, hk⟩ := period.tiling.exists_inBlock (dayOf moment)
  refine ⟨k, hk, hday, periodWindow_of_inBlock hk ?_⟩
  exact Nat.lt_of_le_of_lt (start_succ_le hk hday) (by decide)

/-- The window of a shorter period lies inside that of a longer one. -/
lemma inside_of_refines {shorter longer : BudgetPeriod}
    (hrefines : shorter.tiling.Refines longer.tiling) {moment : Timestamp}
    (hbefore : moment < lastYear) {inner outer : PeriodWindow}
    (hinner : periodWindow shorter moment = .ok inner)
    (houter : periodWindow longer moment = .ok outer) : inner.Inside outer := by
  obtain ⟨j, hj, -, hfine⟩ := exists_window shorter hbefore
  obtain ⟨k, hk, -, hcoarse⟩ := exists_window longer hbefore
  cases hinner.symm.trans hfine
  cases houter.symm.trans hcoarse
  obtain ⟨hstart, hend⟩ := hrefines.block_le hj hk
  exact ⟨dayStart_mono hstart, Nat.sub_le_sub_right (dayStart_mono hend) 1⟩

/-- **Windows tile the timeline.**  Every instant before the year 9999, on whatever clock, has a
    window of each kind, which is a tile; the day's lies inside the month's, this inside the
    quarter's, and this inside the year's. -/
theorem periods_tile {now : Datetime} {moment : Timestamp} (hutc : now.inUtc = some moment)
    (hbefore : moment < lastYear) :
    (∀ period, ∃ window, periodWindowOf period now = .ok window ∧ Tile period moment window)
      ∧ ∃ daily monthly quarterly annual, periodWindowOf .Daily now = .ok daily
        ∧ periodWindowOf .Monthly now = .ok monthly
        ∧ periodWindowOf .Quarterly now = .ok quarterly
        ∧ periodWindowOf .Annual now = .ok annual
        ∧ daily.Inside monthly ∧ monthly.Inside quarterly ∧ quarterly.Inside annual := by
  simp only [periodWindowOf_eq hutc]
  refine ⟨fun period => ?_, ?_⟩
  · obtain ⟨k, hk, hday, hwindow⟩ := exists_window period hbefore
    exact ⟨_, hwindow, tile_of_inBlock hk hday⟩
  · obtain ⟨_, -, -, hdaily⟩ := exists_window .Daily hbefore
    obtain ⟨_, -, -, hmonthly⟩ := exists_window .Monthly hbefore
    obtain ⟨_, -, -, hquarterly⟩ := exists_window .Quarterly hbefore
    obtain ⟨_, -, -, hannual⟩ := exists_window .Annual hbefore
    have hne : BudgetPeriod.Monthly ≠ .Annual := by decide
    exact ⟨_, _, _, _, hdaily, hmonthly, hquarterly, hannual,
      inside_of_refines refines_monthly hbefore hdaily hmonthly,
      inside_of_refines (refines_quarterly hne) hbefore hmonthly hquarterly,
      inside_of_refines (refines_annual .Quarterly) hbefore hquarterly hannual⟩

/-- Noon of the 29th of February 2024, two hours ahead of UTC. -/
def leapDayNoon : Datetime where
  wall := dayStart (monthStart 2024 2 + 28) + 43200000000
  utcOffset := some 7200000000
  inCalendar := by decide +kernel
  withinDay := by decide

/-- The leap day has its windows. -/
theorem leapDay_tiles :
    (∀ period, ∃ window, periodWindowOf period leapDayNoon = .ok window
        ∧ Tile period (dayStart (monthStart 2024 2 + 28) + 36000000000) window)
      ∧ ∃ daily monthly quarterly annual, periodWindowOf .Daily leapDayNoon = .ok daily
        ∧ periodWindowOf .Monthly leapDayNoon = .ok monthly
        ∧ periodWindowOf .Quarterly leapDayNoon = .ok quarterly
        ∧ periodWindowOf .Annual leapDayNoon = .ok annual
        ∧ daily.Inside monthly ∧ monthly.Inside quarterly ∧ quarterly.Inside annual :=
  periods_tile (by decide +kernel) (by decide +kernel)

/-! ## Where the calendar ends -/

/-- The first instant of year 1, on a clock an hour ahead of UTC. -/
def firstInstant : Datetime where
  wall := 0
  utcOffset := some 3600000000
  inCalendar := by decide +kernel
  withinDay := by decide

/-- Eleven in the evening of the last day of 9998, on a clock five hours behind UTC. -/
def lastEvening : Datetime where
  wall := lastYear - 3600000000
  utcOffset := some (-18000000000)
  inCalendar := by decide +kernel
  withinDay := by decide

/-- The first instant of the year 9999, on a clock that shows UTC. -/
def lastNewYear : Datetime where
  wall := lastYear
  utcOffset := none
  inCalendar := by decide +kernel
  withinDay := by decide

/-- **The calendar runs out.**  On the clocks of the first two, the year is 1 and 9998, and they
    have no window; and the year 9998 has one, but the instant after it has none. -/
theorem calendar_runs_out :
    (firstInstant.wall < lastYear ∧ periodWindowOf .Daily firstInstant = .error .DateOutOfRange)
      ∧ (lastEvening.wall < lastYear
        ∧ periodWindowOf .Annual lastEvening = .error .DateOutOfRange)
      ∧ periodWindow .Annual (lastYear - 1)
        = .ok { start := dayStart (yearStart 9998), stop := lastYear - 1 }
      ∧ lastNewYear.inUtc = some (lastYear - 1 + 1)
      ∧ periodWindowOf .Annual lastNewYear = .error .DateOutOfRange := by
  decide +kernel

end CostPlatform
