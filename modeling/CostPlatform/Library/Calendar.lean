import CostPlatform.Library.Tiling

/-!
# The Gregorian calendar

Instants are numbers of microseconds since the first instant of year 1, and days are counted from
the same origin, as `datetime` does in UTC.  Years run from 1; `yearStart` is strictly monotone,
so the year of a day is the last one that has started by then.  The months tile the days (`months`),
and quarters and years are three and twelve of them.
-/

namespace Calendar

/-- Microseconds since the first instant of year 1, in UTC. -/
abbrev Timestamp := Nat

def microsecondsPerDay : Nat := 86400000000

/-- The days of years 1 to 9999. -/
def dayCount : Nat := 3652059

def isLeap (year : Nat) : Bool :=
  year % 4 = 0 && (year % 100 ≠ 0 || year % 400 = 0)

/-- The day a year starts on. -/
def yearStart (year : Nat) : Nat :=
  (year - 1) * 365 + (year - 1) / 4 - (year - 1) / 100 + (year - 1) / 400

def daysInMonth (year month : Nat) : Nat :=
  if month = 2 then (if isLeap year then 29 else 28)
  else if month = 4 ∨ month = 6 ∨ month = 9 ∨ month = 11 then 30
  else 31

/-- The day a month starts on. -/
def monthStart (year : Nat) : Nat → Nat
  | 0 => yearStart year
  | 1 => yearStart year
  | month + 2 => monthStart year (month + 1) + daysInMonth year (month + 1)

/-- The year a day lies in. -/
def yearOf (day : Nat) : Nat := Nat.findGreatest (fun year => yearStart year ≤ day) (day / 365 + 1)

/-- The month a day lies in. -/
def monthOf (day : Nat) : Nat :=
  Nat.findGreatest (fun month => monthStart (yearOf day) month ≤ day) 12

def dayOf (moment : Timestamp) : Nat := moment / microsecondsPerDay

/-- The first instant of a day. -/
def dayStart (day : Nat) : Timestamp := day * microsecondsPerDay

/-- The 29th of February 2024. -/
example : yearOf (monthStart 2024 2 + 28) = 2024 ∧ monthOf (monthStart 2024 2 + 28) = 2 := by
  decide +kernel

lemma yearStart_succ {year : Nat} (hyear : 1 ≤ year) :
    yearStart (year + 1) = yearStart year + (if isLeap year then 366 else 365) := by
  obtain ⟨k, rfl⟩ : ∃ k, year = k + 1 := ⟨year - 1, by omega⟩
  -- every 400th year is a 100th, and every 100th a 4th
  have h100 : (k + 1) % 100 = 0 → (k + 1) % 4 = 0 := fun h => by omega
  have h400 : (k + 1) % 400 = 0 → (k + 1) % 100 = 0 := fun h => by omega
  have hle : k / 100 ≤ k / 4 := Nat.div_le_div_left (by decide) (by decide)
  simp only [yearStart, isLeap, Nat.add_sub_cancel, Nat.succ_div, Nat.dvd_iff_mod_eq_zero]
  generalize k / 4 = fours, k / 100 = hundreds, k / 400 = fourHundreds at hle ⊢
  by_cases hfour : (k + 1) % 4 = 0
  · by_cases hhundred : (k + 1) % 100 = 0
    · by_cases hfourHundred : (k + 1) % 400 = 0
      · simp [hfour, hhundred, hfourHundred]
        omega
      · simp [hfour, hhundred, hfourHundred]
        omega
    · have hnot : (k + 1) % 400 ≠ 0 := fun h => hhundred (h400 h)
      simp [hfour, hhundred, hnot]
      omega
  · have hnot100 : (k + 1) % 100 ≠ 0 := fun h => hfour (h100 h)
    have hnot400 : (k + 1) % 400 ≠ 0 := fun h => hnot100 (h400 h)
    simp [hfour, hnot100, hnot400]
    omega

@[simp] lemma yearStart_one : yearStart 1 = 0 := rfl

lemma monthStart_succ (year : Nat) {month : Nat} (hmonth : 1 ≤ month) :
    monthStart year (month + 1) = monthStart year month + daysInMonth year month := by
  obtain ⟨k, rfl⟩ : ∃ k, month = k + 1 := ⟨month - 1, by omega⟩
  rfl

/-- Twelve months make the year. -/
lemma monthStart_thirteen {year : Nat} (hyear : 1 ≤ year) :
    monthStart year 13 = yearStart (year + 1) := by
  rw [yearStart_succ hyear]
  cases hleap : isLeap year <;> simp [monthStart, daysInMonth, hleap]

lemma monthStart_mono (year : Nat) {a b : Nat} (h : a ≤ b) :
    monthStart year a ≤ monthStart year b := by
  induction h with
  | refl => exact Nat.le_refl _
  | @step b _ ih =>
      cases b with
      | zero => exact ih
      | succ b =>
          exact Nat.le_trans ih (Nat.le_add_right _ (daysInMonth year (b + 1)))

/-! ## Where a day lies -/

/-- The year of a day has started. -/
theorem yearStart_yearOf (day : Nat) : 1 ≤ yearOf day ∧ yearStart (yearOf day) ≤ day := by
  have hone : yearStart 1 ≤ day := Nat.zero_le day
  have hbound : 1 ≤ day / 365 + 1 := by omega
  exact ⟨Nat.le_findGreatest hbound hone,
    Nat.findGreatest_spec (P := fun year => yearStart year ≤ day) hbound hone⟩

/-- The next year has not. -/
theorem lt_yearStart_yearOf_succ (day : Nat) : day < yearStart (yearOf day + 1) := by
  by_contra hstarted
  have hle : yearStart (yearOf day + 1) ≤ day := Nat.le_of_not_lt hstarted
  have hbound : yearOf day + 1 ≤ day / 365 + 1 := by
    simp only [yearStart, Nat.add_sub_cancel] at hle
    omega
  have hgreatest : yearOf day + 1 ≤ yearOf day := Nat.le_findGreatest hbound hle
  omega

/-- The month of a day has started. -/
theorem monthStart_monthOf (day : Nat) :
    1 ≤ monthOf day ∧ monthOf day ≤ 12 ∧ monthStart (yearOf day) (monthOf day) ≤ day := by
  have hone : monthStart (yearOf day) 1 ≤ day := (yearStart_yearOf day).2
  have hbound : 1 ≤ 12 := by omega
  exact ⟨Nat.le_findGreatest hbound hone, Nat.findGreatest_le 12,
    Nat.findGreatest_spec (P := fun month => monthStart (yearOf day) month ≤ day) hbound hone⟩

/-- The next month has not, be it January. -/
theorem lt_monthStart_monthOf_succ (day : Nat) :
    day < monthStart (yearOf day) (monthOf day + 1) := by
  obtain ⟨hyear, -⟩ := yearStart_yearOf day
  obtain ⟨-, hmonth, -⟩ := monthStart_monthOf day
  by_contra hstarted
  have hle : monthStart (yearOf day) (monthOf day + 1) ≤ day := Nat.le_of_not_lt hstarted
  by_cases hlast : monthOf day = 12
  · rw [hlast, monthStart_thirteen hyear] at hle
    exact absurd (lt_yearStart_yearOf_succ day) (by omega)
  · have hgreatest : monthOf day + 1 ≤ monthOf day := Nat.le_findGreatest (by omega) hle
    omega

/-- An instant lies in its day. -/
lemma dayStart_dayOf (moment : Timestamp) :
    dayStart (dayOf moment) ≤ moment ∧ moment < dayStart (dayOf moment + 1) := by
  have hpos : 0 < microsecondsPerDay := by decide
  refine ⟨Nat.div_mul_le_self moment microsecondsPerDay, ?_⟩
  have hlt := Nat.lt_div_mul_add hpos (a := moment)
  rw [dayStart, dayOf, Nat.succ_mul]
  exact hlt

/-! ## The months, one after the other -/

lemma daysInMonth_pos (year month : Nat) : 0 < daysInMonth year month := by
  unfold daysInMonth
  split_ifs <;> decide

/-- After December comes the January of the next year. -/
lemma monthStart_next (k : Nat) :
    monthStart ((k + 1) / 12 + 1) ((k + 1) % 12 + 1)
      = monthStart (k / 12 + 1) (k % 12 + 1) + daysInMonth (k / 12 + 1) (k % 12 + 1) := by
  rw [← monthStart_succ _ (Nat.succ_pos _)]
  by_cases hlast : k % 12 = 11
  · have hyear : (k + 1) / 12 = k / 12 + 1 := by omega
    have hmonth : (k + 1) % 12 = 0 := by omega
    rw [hyear, hmonth, hlast, monthStart_thirteen (Nat.succ_pos _)]
    rfl
  · have hyear : (k + 1) / 12 = k / 12 := by omega
    have hmonth : (k + 1) % 12 = k % 12 + 1 := by omega
    rw [hyear, hmonth]

/-- The months since the January of year 1. -/
def months : Tiling where
  start k := monthStart (k / 12 + 1) (k % 12 + 1)
  start_zero := rfl
  strictMono := strictMono_nat_of_lt_succ fun k => by
    rw [monthStart_next]
    exact Nat.lt_add_of_pos_right (daysInMonth_pos _ _)

lemma months_start (years : Nat) {month : Nat} (hmonth : month ≤ 12) :
    months.start (12 * years + month) = monthStart (years + 1) (month + 1) := by
  show monthStart ((12 * years + month) / 12 + 1) ((12 * years + month) % 12 + 1) = _
  rcases Nat.lt_or_eq_of_le hmonth with hlt | rfl
  · have hyear : (12 * years + month) / 12 = years := by omega
    have hrest : (12 * years + month) % 12 = month := by omega
    rw [hyear, hrest]
  · have hyear : (12 * years + 12) / 12 = years + 1 := by omega
    have hrest : (12 * years + 12) % 12 = 0 := by omega
    rw [hyear, hrest, monthStart_thirteen (Nat.succ_pos _)]
    rfl

/-- A day lies in its own month. -/
lemma inBlock_month (day : Nat) :
    months.InBlock (12 * (yearOf day - 1) + (monthOf day - 1)) day := by
  obtain ⟨hyear, -⟩ := yearStart_yearOf day
  obtain ⟨hmonth, htwelve, hstarted⟩ := monthStart_monthOf day
  have hnext := lt_monthStart_monthOf_succ day
  have hyear' : yearOf day - 1 + 1 = yearOf day := Nat.sub_add_cancel hyear
  have hmonth' : monthOf day - 1 + 1 = monthOf day := Nat.sub_add_cancel hmonth
  constructor
  · rwa [months_start _ (by omega), hyear', hmonth']
  · rwa [Nat.add_assoc, hmonth', months_start _ htwelve, hyear']

/-- **A later day lies in the same month** exactly where the next one has not started. -/
theorem sameMonth_iff {day later : Nat} (h : day ≤ later) :
    yearOf later = yearOf day ∧ monthOf later = monthOf day
      ↔ later < monthStart (yearOf day) (monthOf day + 1) := by
  constructor
  · rintro ⟨hyear, hmonth⟩
    have hnext := lt_monthStart_monthOf_succ later
    rwa [hyear, hmonth] at hnext
  · intro hlater
    obtain ⟨hyear, -⟩ := yearStart_yearOf day
    obtain ⟨hmonth, htwelve, -⟩ := monthStart_monthOf day
    obtain ⟨hyear', -⟩ := yearStart_yearOf later
    obtain ⟨hmonth', htwelve', -⟩ := monthStart_monthOf later
    have hblock : months.InBlock (12 * (yearOf day - 1) + (monthOf day - 1)) later := by
      refine ⟨Nat.le_trans (inBlock_month day).1 h, ?_⟩
      rwa [Nat.add_assoc, Nat.sub_add_cancel hmonth, months_start _ htwelve,
        Nat.sub_add_cancel hyear]
    have hindex := Tiling.inBlock_unique hblock (inBlock_month later)
    omega

/-! ## Instants on a clock -/

/-- The first instant after year 9999. -/
def timestampCount : Nat := dayStart dayCount

/-- A `datetime`: what a clock shows, and how many microseconds it is ahead of UTC, where it
    says. -/
structure Datetime where
  wall : Timestamp
  utcOffset : Option Int
  inCalendar : wall < timestampCount
  withinDay : ∀ offset ∈ utcOffset,
    -(microsecondsPerDay : Int) < offset ∧ offset < microsecondsPerDay

/-- `astimezone(UTC)`, where a clock that says nothing is taken to show UTC.  `none` stands for the
    `OverflowError`. -/
def Datetime.inUtc (now : Datetime) : Option Timestamp :=
  match now.utcOffset with
  | none => some now.wall
  | some offset =>
      let instant : Int := now.wall - offset
      if 0 ≤ instant ∧ instant < timestampCount then some instant.toNat else none

end Calendar
