import CostPlatform.Library.Binary64
import CostPlatform.Library.SlidingWindow
import Mathlib.Logic.Function.Basic

/-!
# Rate limiting

The in-memory limiter: a sliding window of hits for each key.  `check` is one atomic step, since
nothing in it waits.

The hits of a key are a `SlidingWindow` of their own (`run_hits`, `timesOf_allowed`), with a cutoff
that is computed on floats and rounded.  So the limiter is exact up to what its arithmetic is off
by, and exact where nothing is rounded (`limiter_exact`).
-/

namespace CostPlatform

/-- How many requests a key may make in a window. -/
structure RateLimitPolicy where
  maxRequests : Nat
  windowSeconds : Binary64
  maxRequests_pos : 1 ≤ maxRequests
  windowSeconds_pos : 0 < windowSeconds

structure RateLimitDecision where
  allowed : Bool
  remaining : Nat
  retryAfterSeconds : Option Binary64 := none
  deriving DecidableEq, Repr

/-- One call of `check`. -/
structure RateCheck where
  now : Binary64
  key : String
  deriving DecidableEq, Repr

/-- When the checks of a key were made. -/
def timesOf (key : String) (checks : List RateCheck) : List Binary64 :=
  (checks.filter fun check => check.key = key).map RateCheck.now

/-- Sliding-window counter held in this process. -/
structure InMemoryRateLimiter where
  hits : String → List Binary64

namespace InMemoryRateLimiter

/-- A key that was never checked has no hits. -/
def fresh : InMemoryRateLimiter := ⟨fun _ => []⟩

/-- Record an attempt for a key and say whether it may proceed. -/
def check (limiter : InMemoryRateLimiter) (policy : RateLimitPolicy) (now : Binary64)
    (key : String) : RateLimitDecision × InMemoryRateLimiter :=
  let cutoff := now - policy.windowSeconds
  -- everything outside the window is dropped before counting
  let hits := (limiter.hits key).dropWhile fun hit => hit ≤ cutoff
  if policy.maxRequests ≤ hits.length then
    let retryAfter := hits.head?.map fun first => max (first + policy.windowSeconds - now) 0
    ({ allowed := false, remaining := 0, retryAfterSeconds := retryAfter },
      ⟨Function.update limiter.hits key hits⟩)
  else
    ({ allowed := true, remaining := policy.maxRequests - (hits ++ [now]).length },
      ⟨Function.update limiter.hits key (hits ++ [now])⟩)

def step (policy : RateLimitPolicy) (limiter : InMemoryRateLimiter) (check : RateCheck) :
    InMemoryRateLimiter :=
  (limiter.check policy check.now check.key).2

def allowed (policy : RateLimitPolicy) (limiter : InMemoryRateLimiter) (check : RateCheck) :
    List RateCheck :=
  if (limiter.check policy check.now check.key).1.allowed then [check] else []

/-- The limiter after a sequence of checks. -/
abbrev after (policy : RateLimitPolicy) (checks : List RateCheck) : InMemoryRateLimiter :=
  Runs.run (step policy) fresh checks

/-- The checks of a sequence that were allowed. -/
abbrev history (policy : RateLimitPolicy) (checks : List RateCheck) : List RateCheck :=
  Runs.emitted (step policy) (allowed policy) fresh checks

variable (policy : RateLimitPolicy) (limiter : InMemoryRateLimiter)

/-! ## One window for each key -/

/-- Where the window of an instant begins, as it is computed. -/
def cutoff (now : Binary64) : Binary64 := now - policy.windowSeconds

lemma cutoff_mono : Monotone (cutoff policy) := fun _ _ h => Binary64.sub_mono h _

lemma check_allowed (now : Binary64) (key : String) :
    (limiter.check policy now key).1.allowed
      = SlidingWindow.admits policy.maxRequests (cutoff policy) now (limiter.hits key) := by
  simp only [check, SlidingWindow.admits, SlidingWindow.current, cutoff]
  split_ifs with hfull
  · exact (decide_eq_false (not_lt.mpr hfull)).symm
  · exact (decide_eq_true (not_le.mp hfull)).symm

lemma check_hits (now : Binary64) (key : String) :
    (limiter.check policy now key).2.hits
      = Function.update limiter.hits key
          (SlidingWindow.offer policy.maxRequests (cutoff policy) (limiter.hits key) now) := by
  simp only [check, SlidingWindow.offer, SlidingWindow.admits, SlidingWindow.current, cutoff,
    decide_eq_true_eq, ← not_le]
  split_ifs with hfull hfull' hfull'
  · rfl
  · exact absurd hfull hfull'
  · exact absurd hfull' hfull
  · rfl

lemma timesOf_cons (key : String) (check : RateCheck) (checks : List RateCheck) :
    timesOf key (check :: checks)
      = if check.key = key then check.now :: timesOf key checks else timesOf key checks := by
  rw [timesOf, List.filter_cons]
  split_ifs with h h' h'
  · rfl
  · exact absurd (of_decide_eq_true h) h'
  · exact absurd (decide_eq_true h') h
  · rfl

/-- **The hits of a key are moved by its own checks**, as the window they are. -/
theorem run_hits (key : String) (checks : List RateCheck) :
    (Runs.run (step policy) limiter checks).hits key
      = Runs.run (SlidingWindow.offer policy.maxRequests (cutoff policy)) (limiter.hits key)
          (timesOf key checks) := by
  refine @Runs.run_part _ _ _ _ _ (fun limiter => limiter.hits key) _
    (fun check => check.key = key) _ RateCheck.now (fun limiter check => ?_) limiter checks
  rw [step, check_hits]
  split_ifs with hkey
  · rw [← hkey, Function.update_self]
  · rw [Function.update_of_ne (Ne.symm hkey)]

/-- What is allowed of a key is what its window admits. -/
theorem timesOf_allowed (key : String) (checks : List RateCheck) :
    timesOf key (Runs.emitted (step policy) (allowed policy) limiter checks)
      = Runs.emitted (SlidingWindow.offer policy.maxRequests (cutoff policy))
          (SlidingWindow.admitted policy.maxRequests (cutoff policy)) (limiter.hits key)
          (timesOf key checks) := by
  induction checks generalizing limiter with
  | nil => rfl
  | cons check checks ih =>
      have hhead : timesOf key (allowed policy limiter check)
          = if check.key = key then
              SlidingWindow.admitted policy.maxRequests (cutoff policy) (limiter.hits key)
                check.now
            else [] := by
        rw [allowed, check_allowed, SlidingWindow.admitted]
        by_cases hkey : check.key = key
        · rw [hkey, if_pos rfl]
          split_ifs <;> simp [timesOf, hkey]
        · split_ifs <;> simp [timesOf, hkey]
      have happend : ∀ front back : List RateCheck,
          timesOf key (front ++ back) = timesOf key front ++ timesOf key back := by
        simp [timesOf]
      rw [Runs.emitted, happend, ih, hhead, timesOf_cons, step, check_hits]
      split_ifs with hkey
      · rw [Runs.emitted, ← hkey, Function.update_self]
      · rw [Function.update_of_ne (Ne.symm hkey), List.nil_append]

/-- A decision depends on the hits of its own key. -/
lemma check_congr {other : InMemoryRateLimiter} {now : Binary64} {key : String}
    (h : limiter.hits key = other.hits key) :
    (limiter.check policy now key).1 = (other.check policy now key).1 := by
  simp only [check, h]
  split_ifs <;> rfl

/-- Checks of other keys change no decision. -/
theorem check_after_filter (checks : List RateCheck) (now : Binary64) (key : String) :
    ((after policy checks).check policy now key).1
      = ((after policy (checks.filter fun check => check.key = key)).check policy now key).1 := by
  refine check_congr policy _ ?_
  rw [run_hits, run_hits, timesOf, timesOf, List.filter_filter]
  simp only [Bool.and_self]

/-- What is known of a key when the next check comes. -/
lemma recalls_after {checks : List RateCheck} {now : Binary64}
    (hordered : (checks.map RateCheck.now ++ [now]).Pairwise (· ≤ ·)) (key : String) :
    SlidingWindow.Recalls policy.maxRequests (cutoff policy) now
      (timesOf key (history policy checks)) ((after policy checks).hits key) := by
  rw [timesOf_allowed, run_hits]
  refine SlidingWindow.recalls_of_ordered (cutoff_mono policy) (List.Pairwise.sublist ?_ hordered)
  exact (List.filter_sublist.map _).append_right _

/-- Allowed checks were made. -/
lemma mem_timesOf_history {checks : List RateCheck} {key : String} {t : Binary64}
    (h : t ∈ timesOf key (history policy checks)) : t ∈ checks.map RateCheck.now := by
  obtain ⟨check, hcheck, rfl⟩ := List.mem_map.mp h
  obtain ⟨pre, made, post, hsplit, hmem⟩ :=
    Runs.mem_emitted_iff.mp (List.mem_of_mem_filter hcheck)
  rw [allowed] at hmem
  split_ifs at hmem
  · rw [List.mem_singleton.mp hmem, hsplit]
    simp
  · cases hmem

/-! ## Exactness -/

variable {policy}

/-- **The limiter is exact up to an error** after some checks, at an instant of the clock.  Instants
    and intervals are compared as the numbers they are; with the error zero this is exactness. -/
structure ExactWithin (policy : RateLimitPolicy) (clock : Set Binary64) (error : ℚ)
    (checks : List RateCheck) (now : Binary64) : Prop where
  /-- No interval of a window's length holds too many allowed checks, whichever end is left out. -/
  within : ∀ key (start length : ℚ), length + error ≤ policy.windowSeconds →
    (timesOf key (history policy checks)).countP
        (fun t : Binary64 => start ≤ (t : ℚ) ∧ (t : ℚ) < start + length) ≤ policy.maxRequests
      ∧ (timesOf key (history policy checks)).countP
        (fun t : Binary64 => start < (t : ℚ) ∧ (t : ℚ) ≤ start + length) ≤ policy.maxRequests
  /-- A check is denied only when the window ending now is full. -/
  denied : ∀ key, ((after policy checks).check policy now key).1.allowed = false →
    ∃ start : ℚ, |start - (now - policy.windowSeconds)| ≤ error
      ∧ (timesOf key (history policy checks)).countP
          (fun t : Binary64 => start < (t : ℚ) ∧ t ≤ now) = policy.maxRequests
  /-- The wait that is returned is the smallest that helps. -/
  retryAfter : ∀ key, ((after policy checks).check policy now key).1.allowed = false →
    ∃ retryAfter, ((after policy checks).check policy now key).1.retryAfterSeconds = some retryAfter
      ∧ 0 ≤ retryAfter
      ∧ ∀ later ∈ clock, now ≤ later →
        ((retryAfter : ℚ) + 3 * error ≤ later - now →
            (((after policy checks).check policy now key).2.check policy later key).1.allowed
              = true)
          ∧ ((((after policy checks).check policy now key).2.check policy later key).1.allowed
              = true → (retryAfter : ℚ) ≤ later - now + 3 * error)
  /-- The checks of other keys make no difference. -/
  separate : ∀ key, ((after policy checks).check policy now key).1
    = ((after policy (checks.filter fun check => check.key = key)).check policy now key).1

/-- What each float operation of the limiter is off by, on the readings of a clock. -/
structure RoundsWithin (policy : RateLimitPolicy) (clock : Set Binary64) (error : ℚ) : Prop where
  cutoff : ∀ t ∈ clock,
    |((t - policy.windowSeconds : Binary64) : ℚ) - (t - policy.windowSeconds)| ≤ error
  expiry : ∀ t ∈ clock,
    |((t + policy.windowSeconds : Binary64) : ℚ) - (t + policy.windowSeconds)| ≤ error
  wait : ∀ t ∈ clock, ∀ now ∈ clock,
    |((t + policy.windowSeconds - now : Binary64) : ℚ)
      - ((t + policy.windowSeconds : Binary64) - now)| ≤ error

/-- A refusal comes with the time until the first hit leaves the window. -/
lemma exists_first_of_denied {now : Binary64} {key : String}
    (hdenied : (limiter.check policy now key).1.allowed = false) :
    ∃ first, (SlidingWindow.current (cutoff policy) now (limiter.hits key)).head? = some first
      ∧ (limiter.check policy now key).1.retryAfterSeconds
        = some (max (first + policy.windowSeconds - now) 0) := by
  simp only [check] at hdenied ⊢
  split_ifs at hdenied ⊢ with hfull
  show ∃ first, ((limiter.hits key).dropWhile fun hit => hit ≤ now - policy.windowSeconds).head?
    = some first ∧ _
  cases hhits : (limiter.hits key).dropWhile fun hit => hit ≤ now - policy.windowSeconds with
  | nil =>
      rw [hhits] at hfull
      exact absurd hfull (Nat.not_le_of_lt policy.maxRequests_pos)
  | cons first rest => exact ⟨first, rfl, rfl⟩

section Rounding

variable {clock : Set Binary64} {error : ℚ} {checks : List RateCheck} {now : Binary64}

/-- Instants less than a window apart, by the error at least, are in one window. -/
lemma RoundsWithin.cutoff_lt (hrounds : RoundsWithin policy clock error) {s t : Binary64}
    (hs : s ∈ clock) {length : ℚ} (hlength : length + error ≤ policy.windowSeconds)
    (h : (s : ℚ) - t < length) : InMemoryRateLimiter.cutoff policy s < t := by
  have hcutoff := (abs_le.mp (hrounds.cutoff s hs)).2
  refine Subtype.coe_lt_coe.mp ?_
  rw [InMemoryRateLimiter.cutoff]
  linarith

/-- The returned wait is near the time after which the first hit is a window old. -/
lemma RoundsWithin.retryAfter_near (hrounds : RoundsWithin policy clock error) {first : Binary64}
    (hfirst : first ∈ clock) (hnow : now ∈ clock) :
    |((first + policy.windowSeconds - now : Binary64) : ℚ)
      - (first + policy.windowSeconds - now)| ≤ 2 * error := by
  have hexpiry := abs_le.mp (hrounds.expiry first hfirst)
  have hwait := abs_le.mp (hrounds.wait first hfirst now hnow)
  exact abs_le.mpr ⟨by linarith [hexpiry.1, hwait.1], by linarith [hexpiry.2, hwait.2]⟩

/-- The limiter is exact up to what its operations are off by. -/
theorem exactWithin_of_roundsWithin (hrounds : RoundsWithin policy clock error)
    (hordered : (checks.map RateCheck.now ++ [now]).Pairwise (· ≤ ·))
    (hchecks : ∀ t ∈ checks.map RateCheck.now, t ∈ clock) (hnow : now ∈ clock) :
    ExactWithin policy clock error checks now where
  within key start length hlength := by
    have hrecalls := recalls_after policy hordered key
    constructor
    · refine hrecalls.within _ fun s hs hpicked t _ _ hpicked' => ?_
      have hend := (of_decide_eq_true hpicked).2
      have hstart := (of_decide_eq_true hpicked').1
      exact hrounds.cutoff_lt (hchecks s (mem_timesOf_history policy hs)) hlength (by linarith)
    · refine hrecalls.within _ fun s hs hpicked t _ _ hpicked' => ?_
      have hend := (of_decide_eq_true hpicked).2
      have hstart := (of_decide_eq_true hpicked').1
      exact hrounds.cutoff_lt (hchecks s (mem_timesOf_history policy hs)) hlength (by linarith)
  denied key hdenied := by
    have hrecalls := recalls_after policy hordered key
    rw [check_allowed] at hdenied
    refine ⟨cutoff policy now, hrounds.cutoff now hnow, ?_⟩
    by_contra hroom
    rw [(hrecalls.admits_iff (cutoff_mono policy)).mpr hroom] at hdenied
    cases hdenied
  retryAfter key hdenied := by
    have hrecalls := recalls_after policy hordered key
    obtain ⟨first, hfirst, hretry⟩ := exists_first_of_denied _ hdenied
    have hclock : first ∈ clock := by
      have hmem : first ∈ timesOf key (history policy checks) := by
        have := List.mem_of_mem_head? hfirst
        rw [hrecalls.current_eq] at this
        exact List.mem_of_mem_filter this
      exact hchecks first (mem_timesOf_history policy hmem)
    have hnear := abs_le.mp (hrounds.retryAfter_near hclock hnow)
    refine ⟨_, hretry, le_max_right _ _, fun later hlater hle => ?_⟩
    have hcutoff := abs_le.mp (hrounds.cutoff later hlater)
    have hle' : (now : ℚ) ≤ later := Subtype.coe_le_coe.mpr hle
    have herror : 0 ≤ error := (abs_nonneg _).trans (hrounds.cutoff later hlater)
    rw [check_allowed] at hdenied ⊢
    rw [check_hits, Function.update_self,
      hrecalls.admits_later_iff (cutoff_mono policy) hdenied hfirst, ← Subtype.coe_le_coe, cutoff,
      Monotone.map_max (f := ((↑) : Binary64 → ℚ)) fun _ _ h => Subtype.coe_le_coe.mpr h]
    constructor
    · intro hwait
      have hexpired := (le_max_left _ _).trans (le_sub_iff_add_le.mpr hwait)
      linarith [hnear.1, hcutoff.1]
    · intro hexpired
      have hzero : ((0 : Binary64) : ℚ) ≤ later - now + 3 * error := by
        show (0 : ℚ) ≤ later - now + 3 * error
        linarith
      exact max_le (by linarith [hnear.2, hcutoff.2]) hzero
  separate key := check_after_filter policy checks now key

end Rounding

/-! ## What rounding is off by -/

/-- The instants of a clock that ticks in a power of two, as long as sums of three are floats. -/
def ticking (unit : ℤ) : Set Binary64 := {t | ∃ n : ℤ, |n| ≤ 2 ^ 51 ∧ (t : ℚ) = n * 2 ^ unit}

/-- The instants within a span of zero. -/
def spanning (span : ℚ) : Set Binary64 := {t | |(t : ℚ)| ≤ span}

/-- Nothing is rounded on a clock that ticks. -/
lemma roundsWithin_ticking {unit : ℤ} (hunit : -1074 ≤ unit)
    (hwindow : policy.windowSeconds ∈ ticking unit) : RoundsWithin policy (ticking unit) 0 := by
  obtain ⟨w, hw, hwindow⟩ := hwindow
  have hexact : ∀ (x : ℚ) (n : ℤ), |n| ≤ 2 ^ 53 → x = n * 2 ^ unit →
      |Binary64.round x - x| ≤ 0 := by
    intro x n hn hx
    rw [Binary64.round_eq_self ⟨n, unit, hn, hunit, hx⟩, sub_self, abs_zero]
  have hsum : ∀ {n : ℤ}, |n| ≤ 2 ^ 51 → |n + w| ≤ 2 ^ 52 := fun hn =>
    (abs_add_le _ _).trans (by omega)
  refine ⟨fun t ht => ?_, fun t ht => ?_, fun t ht now hnow => ?_⟩
  · obtain ⟨n, hn, ht⟩ := ht
    refine hexact _ (n - w) ((abs_sub _ _).trans (by omega)) ?_
    rw [ht, hwindow]
    push_cast
    ring
  · obtain ⟨n, hn, ht⟩ := ht
    refine hexact _ (n + w) ((hsum hn).trans (by norm_num)) ?_
    rw [ht, hwindow]
    push_cast
    ring
  · obtain ⟨n, hn, ht⟩ := ht
    obtain ⟨k, hk, hnow⟩ := hnow
    have hexpiry : ((t + policy.windowSeconds : Binary64) : ℚ) = ((n + w : ℤ) : ℚ) * 2 ^ unit := by
      have hvalue : (t : ℚ) + policy.windowSeconds = ((n + w : ℤ) : ℚ) * 2 ^ unit := by
        rw [ht, hwindow]
        push_cast
        ring
      rw [Binary64.coe_add, hvalue]
      exact Binary64.round_eq_self ⟨_, unit, (hsum hn).trans (by norm_num), hunit, rfl⟩
    refine hexact _ (n + w - k) ((abs_sub _ _).trans ?_) ?_
    · have := hsum hn
      omega
    · rw [hexpiry, hnow]
      push_cast
      ring

/-- On instants and a window within a span, an operation is off by a `2 ^ 51`st of it at most. -/
lemma roundsWithin_spanning {span : ℚ} (hwindow : policy.windowSeconds ∈ spanning span) :
    RoundsWithin policy (spanning span) (span / 2 ^ 51) := by
  have hsum : ∀ {x y : Binary64}, x ∈ spanning span → y ∈ spanning span →
      |(x : ℚ) + y| ≤ 2 * span ∧ |(x : ℚ) - y| ≤ 2 * span := fun {x y} hx hy => by
    have hx' : |(x : ℚ)| ≤ span := hx
    have hy' : |(y : ℚ)| ≤ span := hy
    exact ⟨(abs_add_le _ _).trans (by linarith), (abs_sub _ _).trans (by linarith)⟩
  have hspan : 0 ≤ span := (abs_nonneg _).trans hwindow
  refine ⟨fun t ht => ?_, fun t ht => ?_, fun t ht now hnow => ?_⟩
  · refine (Binary64.abs_round_sub_le (t.2.onGrid.sub policy.windowSeconds.2.onGrid)).trans ?_
    have := (hsum ht hwindow).2
    linarith
  · refine (Binary64.abs_round_sub_le (t.2.onGrid.add policy.windowSeconds.2.onGrid)).trans ?_
    have := (hsum ht hwindow).1
    linarith
  · refine (Binary64.abs_round_sub_le
      ((t + policy.windowSeconds : Binary64).2.onGrid.sub now.2.onGrid)).trans ?_
    have hround := Binary64.abs_round_sub_le (t.2.onGrid.add policy.windowSeconds.2.onGrid)
    have hexact := (hsum ht hwindow).1
    have hnow' : |(now : ℚ)| ≤ span := hnow
    have hexpiry : |((t + policy.windowSeconds : Binary64) : ℚ)| ≤ 3 * span := by
      have htriangle := abs_sub_abs_le_abs_sub
        (Binary64.round (t + policy.windowSeconds)) ((t : ℚ) + policy.windowSeconds)
      rw [Binary64.coe_add]
      linarith
    have htriangle := abs_sub ((t + policy.windowSeconds : Binary64) : ℚ) now
    linarith

/-! ## The limiter -/

/-- **The sliding-window limiter is exact up to rounding**, for every sequence of checks on a clock
    that does not go back: up to a `2 ^ 51`st of the span of its instants and of the window, and
    without any error where these are ticks of a power of two. -/
theorem limiter_exact (policy : RateLimitPolicy) (checks : List RateCheck) (now : Binary64)
    (hordered : (checks.map RateCheck.now ++ [now]).Pairwise (· ≤ ·)) :
    (∀ span, (∀ t ∈ policy.windowSeconds :: (checks.map RateCheck.now ++ [now]),
        t ∈ spanning span) →
        ExactWithin policy (spanning span) (span / 2 ^ 51) checks now)
      ∧ ∀ unit, -1074 ≤ unit →
        (∀ t ∈ policy.windowSeconds :: (checks.map RateCheck.now ++ [now]), t ∈ ticking unit) →
        ExactWithin policy (ticking unit) 0 checks now := by
  constructor
  · intro span hspan
    obtain ⟨hwindow, hinstants⟩ := List.forall_mem_cons.mp hspan
    obtain ⟨hchecks, hnow⟩ := List.forall_mem_append.mp hinstants
    exact exactWithin_of_roundsWithin (roundsWithin_spanning hwindow) hordered hchecks
      (hnow now List.mem_cons_self)
  · intro unit hunit hticks
    obtain ⟨hwindow, hinstants⟩ := List.forall_mem_cons.mp hticks
    obtain ⟨hchecks, hnow⟩ := List.forall_mem_append.mp hinstants
    exact exactWithin_of_roundsWithin (roundsWithin_ticking hunit hwindow) hordered hchecks
      (hnow now List.mem_cons_self)

/-- One request in so many seconds. -/
def onceIn (seconds : Binary64) (h : 0 < seconds) : RateLimitPolicy where
  maxRequests := 1
  windowSeconds := seconds
  maxRequests_pos := Nat.one_pos
  windowSeconds_pos := h

lemma tenSeconds_pos : 0 < Binary64.ofRat 10 := by decide +kernel

abbrev oncePerTenSeconds : RateLimitPolicy := onceIn (.ofRat 10) tenSeconds_pos

/-- A second request after four seconds is told to wait for six. -/
theorem secondRequest_waits :
    ((after oncePerTenSeconds [⟨0, "key"⟩]).check oncePerTenSeconds (.ofRat 4) "key").1
        = ⟨false, 0, some (.ofRat 6)⟩
      ∧ ExactWithin oncePerTenSeconds (ticking 0) 0 [⟨0, "key"⟩] (.ofRat 4) := by
  refine ⟨by decide +kernel, ?_⟩
  refine (limiter_exact oncePerTenSeconds [⟨0, "key"⟩] (.ofRat 4) (by decide +kernel)).2 0
    (by decide) ?_
  rintro t ht
  rcases List.mem_cons.mp ht with rfl | ht
  · exact ⟨10, by decide, by decide +kernel⟩
  rcases List.mem_cons.mp ht with rfl | ht
  · exact ⟨0, by decide, by decide +kernel⟩
  · rw [List.mem_singleton.mp ht]
    exact ⟨4, by decide, by decide +kernel⟩

lemma sixtySeconds_pos : 0 < Binary64.ofRat 60 := by decide +kernel

abbrev oncePerMinute : RateLimitPolicy := onceIn (.ofRat 60) sixtySeconds_pos

/-- **The wait that is returned may not be enough**: after a hit at 0.3 a check at 1.0 is told to
    wait for 59.3 seconds, and at 60.3 is denied again.  The sum of 0.3 and 60 was rounded down. -/
theorem returnedWait_tooShort :
    ((after oncePerMinute [⟨.ofRat (3 / 10), "key"⟩]).check oncePerMinute (.ofRat 1) "key").1
        = ⟨false, 0, some (.ofRat (593 / 10))⟩
      ∧ ¬ ExactWithin oncePerMinute Set.univ 0 [⟨.ofRat (3 / 10), "key"⟩] (.ofRat 1) := by
  refine ⟨by decide +kernel, fun h => ?_⟩
  obtain ⟨retryAfter, hretry, -, hwait⟩ := h.retryAfter "key" (by decide +kernel)
  obtain rfl : retryAfter = .ofRat (593 / 10) :=
    Option.some.inj (hretry.symm.trans (by decide +kernel))
  have hallowed := (hwait (.ofRat (603 / 10)) (Set.mem_univ _) (by decide +kernel)).1
    (by decide +kernel)
  exact absurd hallowed (by decide +kernel)

end InMemoryRateLimiter

end CostPlatform
