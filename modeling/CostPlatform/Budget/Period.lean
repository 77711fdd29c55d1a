import CostPlatform.Library.Calendar

/-!
# Budget periods

A budget's consumption is measured over the UTC calendar period that contains the reference
instant.  The first instant after the period is computed on the way to its end, so a period that
ends with the calendar (in the year 9999) has no window.
-/

namespace CostPlatform

open Calendar

inductive BudgetPeriod where
  | Daily
  | Monthly
  | Quarterly
  | Annual
  deriving DecidableEq, Repr

/-- The first and the last instant a budget is measured over, both included. -/
structure PeriodWindow where
  start : Timestamp
  stop : Timestamp
  deriving DecidableEq, Repr

/-- The period ends after the last representable instant. -/
inductive PeriodError where
  | DateOutOfRange
  deriving DecidableEq, Repr

/-- The first day of the period, and the first day after it. -/
def periodDays (period : BudgetPeriod) (now : Timestamp) : Nat × Nat :=
  let day := dayOf now
  let year := yearOf day
  let month := monthOf day
  match period with
  | .Daily => (day, day + 1)
  | .Monthly => (monthStart year month, monthStart year month + daysInMonth year month)
  | .Quarterly =>
      let firstMonth := 3 * ((month - 1) / 3) + 1
      let endMonth := firstMonth + 2
      (monthStart year firstMonth, monthStart year endMonth + daysInMonth year endMonth)
  | .Annual => (yearStart year, yearStart (year + 1))

def periodWindow (period : BudgetPeriod) (now : Timestamp) : Except PeriodError PeriodWindow :=
  let (first, next) := periodDays period now
  if dayCount ≤ next then .error .DateOutOfRange
  else .ok { start := dayStart first, stop := dayStart next - 1 }

/-- The third quarter of 2024. -/
example : periodDays .Quarterly (dayStart (monthStart 2024 8 + 5))
    = (monthStart 2024 7, monthStart 2024 10) := by
  decide +kernel

/-- The day of an instant lies in its period. -/
lemma dayOf_mem_periodDays (period : BudgetPeriod) (now : Timestamp) :
    (periodDays period now).1 ≤ dayOf now ∧ dayOf now < (periodDays period now).2 := by
  obtain ⟨hmonth, htwelve, hstarted⟩ := monthStart_monthOf (dayOf now)
  have hnext := lt_monthStart_monthOf_succ (dayOf now)
  cases period with
  | Daily => exact ⟨Nat.le_refl _, Nat.lt_succ_self _⟩
  | Monthly =>
      refine ⟨hstarted, ?_⟩
      rw [monthStart_succ _ hmonth] at hnext
      exact hnext
  | Quarterly =>
      simp only [periodDays]
      rw [← monthStart_succ _ (by omega)]
      refine ⟨Nat.le_trans (monthStart_mono _ ?_) hstarted,
        Nat.lt_of_lt_of_le hnext (monthStart_mono _ ?_)⟩
      · omega
      · omega
  | Annual => exact ⟨(yearStart_yearOf _).2, lt_yearStart_yearOf_succ _⟩

lemma dayStart_mono {a b : Nat} (h : a ≤ b) : dayStart a ≤ dayStart b :=
  Nat.mul_le_mul_right _ h

/-- **An instant lies in its period.** -/
theorem mem_periodWindow {period : BudgetPeriod} {now : Timestamp} {window : PeriodWindow}
    (h : periodWindow period now = .ok window) : window.start ≤ now ∧ now ≤ window.stop := by
  obtain ⟨hfirst, hnext⟩ := dayOf_mem_periodDays period now
  obtain ⟨hday, hafter⟩ := dayStart_dayOf now
  simp only [periodWindow] at h
  split_ifs at h
  cases h
  refine ⟨Nat.le_trans (dayStart_mono hfirst) hday, ?_⟩
  have hstop := dayStart_mono (Nat.succ_le_of_lt hnext)
  have hlt : now < dayStart (periodDays period now).2 := Nat.lt_of_lt_of_le hafter hstop
  exact Nat.le_sub_one_of_lt hlt

end CostPlatform
