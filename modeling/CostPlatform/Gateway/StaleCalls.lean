import CostPlatform.Gateway.CircuitBreaker

/-!
# Stale calls

An open breaker is meant to close through a probe: a call let through once the timeout is over.
An outcome carries no identity, though, so that of a call let through before the breaker opened
counts like a probe's.

`Watched` adds to the system what the breaker itself does not know, which calls it has let through
since it last opened.  `closesOnlyByProbe_iff` says when only those move the opening: while the
breaker is open, no other call records a success, nor a failure after the instant of opening.
-/

namespace CostPlatform

namespace Breaker

variable {config : BreakerConfig} {now : ℚ} {breaker : Breaker}

/-- A failure opens the breaker now or leaves the moment of opening as it was. -/
lemma recordFailure_openedAt :
    (breaker.recordFailure config now).openedAt = some now
      ∨ (breaker.recordFailure config now).openedAt = breaker.openedAt := by
  simp only [recordFailure]
  by_cases hhalf : breaker.halfOpen = true
  · exact Or.inl (by rw [if_pos hhalf])
  · by_cases hthreshold : config.failureThreshold ≤ breaker.consecutiveFailures + 1
    · exact Or.inl (by rw [if_neg hhalf, if_pos hthreshold])
    · exact Or.inr (by rw [if_neg hhalf, if_neg hthreshold])

end Breaker

namespace GatewaySystem

variable {config : BreakerConfig} {system : GatewaySystem}

/-- The clock of an execution is never behind the moment its breaker opened. -/
theorem openedAt_le_now (config : BreakerConfig) (actions : List GatewayAction) :
    ∀ openedAt ∈ (after config actions).breaker.openedAt,
      openedAt ≤ (after config actions).now := by
  refine breaker_invariant
    (I := fun now breaker => ∀ openedAt ∈ breaker.openedAt, openedAt ≤ now)
    (fun _ => nofun) ?_ ?_ ?_ actions
  · intro now breaker hle openedAt hopen
    exact hle openedAt (Breaker.allow_openedAt.symm.trans hopen)
  · intro now breaker hle openedAt hopen
    rcases Breaker.recordFailure_openedAt with hnow | hsame
    · exact (Option.some.inj (hnow.symm.trans hopen)).ge
    · exact hle openedAt (hsame.symm.trans hopen)
  · intro now later breaker hlater hle openedAt hopen
    exact (hle openedAt hopen).trans hlater

/-- A step that records no outcome leaves the moment of opening as it was. -/
lemma openedAt_of_unrecorded {action : GatewayAction}
    (h : ∀ call probe attempts, system.phase call = .Running probe (attempts + 1) →
      action ≠ .RecordSuccess call ∧ action ≠ .RecordFailure call) :
    (step config system action).breaker.openedAt = system.breaker.openedAt := by
  rcases step_cases config system action with ⟨call, -, -, hstep⟩ | ⟨call, _, _, -, hstep⟩
    | ⟨call, probe, attempts, hphase, hrecord⟩ | ⟨elapsed, -, hstep⟩ | ⟨hstep, -⟩
  · rw [hstep]
    exact Breaker.allow_openedAt
  · rw [hstep]
  · obtain ⟨hsuccess, hfailure⟩ := h call probe attempts hphase
    rcases hrecord with ⟨rfl, -⟩ | ⟨rfl, -⟩
    · exact absurd rfl hsuccess
    · exact absurd rfl hfailure
  · rw [hstep]
  · rw [hstep]

/-- A call that is ready to record closes the breaker with a success. -/
lemma step_recordSuccess {call : Nat} {probe : Bool} {attempts : Nat}
    (hready : system.phase call = .Running probe (attempts + 1)) :
    (step config system (.RecordSuccess call)).breaker = system.breaker.recordSuccess := by
  simp only [step, hready, record]

lemma step_recordFailure {call : Nat} {probe : Bool} {attempts : Nat}
    (hready : system.phase call = .Running probe (attempts + 1)) :
    (step config system (.RecordFailure call)).breaker
      = system.breaker.recordFailure config system.now := by
  simp only [step, hready, record]

/-! ## Which calls are probes -/

/-- The call asks now, and an open breaker lets it through. -/
def letsThrough (config : BreakerConfig) (system : GatewaySystem) (call : Nat) : Bool :=
  system.phase call = .Waiting
    && ((system.breaker.allow config system.now).1 && system.breaker.openedAt.isSome)

lemma letsThrough_iff {call : Nat} :
    letsThrough config system call = true ↔ AdmittedAsProbe config system call := by
  rw [letsThrough, Bool.and_eq_true, Bool.and_eq_true, decide_eq_true_eq]
  constructor
  · rintro ⟨hwaiting, hthrough⟩
    exact (admitted_open_iff hwaiting).mp hthrough
  · intro hadmitted
    exact ⟨hadmitted.1, (admitted_open_iff hadmitted.1).mpr hadmitted⟩

/-- The call that asks. -/
def asks : GatewayAction → Option Nat
  | .Allow call => some call
  | _ => none

/-- A system, and the calls its breaker has let through since it last opened. -/
structure Watched where
  system : GatewaySystem
  probing : Nat → Bool

namespace Watched

def initial : Watched := ⟨GatewaySystem.initial, fun _ => false⟩

/-- The system's step.  With an opening or a closing, the calls let through start over. -/
def step (config : BreakerConfig) (watched : Watched) (action : GatewayAction) : Watched :=
  let next := GatewaySystem.step config watched.system action
  { system := next
    probing := fun call =>
      next.breaker.openedAt = watched.system.breaker.openedAt
        && (watched.probing call
          || (asks action = some call && letsThrough config watched.system call)) }

/-- The watched system after an execution from a fresh breaker. -/
def after (config : BreakerConfig) (actions : List GatewayAction) : Watched :=
  Runs.run (step config) initial actions

/-- Watching changes nothing. -/
@[simp] lemma after_system (config : BreakerConfig) (actions : List GatewayAction) :
    (after config actions).system = GatewaySystem.after config actions := by
  have hrun : ∀ watched : Watched, (Runs.run (step config) watched actions).system
      = Runs.run (GatewaySystem.step config) watched.system actions := by
    induction actions with
    | nil => exact fun watched => rfl
    | cons action actions ih => exact fun watched => ih (step config watched action)
  exact hrun initial

/-- **What is watched is what happened**: a call counted as let through since the opening asked, in
    that opening, with the timeout over. -/
theorem probing_history {actions : List GatewayAction} {call : Nat}
    (h : (after config actions).probing call = true) :
    ∃ pre mid, actions = pre ++ .Allow call :: mid
      ∧ AdmittedAsProbe config (GatewaySystem.after config pre) call
      ∧ (GatewaySystem.after config pre).breaker.openedAt
        = (GatewaySystem.after config actions).breaker.openedAt := by
  induction actions using List.reverseRecOn with
  | nil => cases h
  | append_singleton actions action ih =>
      have hlast : after config (actions ++ [action])
          = step config (after config actions) action := by
        rw [after, Runs.run_append]
        rfl
      have hopening : GatewaySystem.after config (actions ++ [action])
          = GatewaySystem.step config (GatewaySystem.after config actions) action := by
        rw [GatewaySystem.after, Runs.run_append]
        rfl
      rw [hlast, step, after_system] at h
      simp only [Bool.and_eq_true, Bool.or_eq_true, decide_eq_true_eq] at h
      obtain ⟨hsame, hbefore | ⟨hasks, hthrough⟩⟩ := h
      · obtain ⟨pre, mid, rfl, hadmitted, hopen⟩ := ih hbefore
        refine ⟨pre, mid ++ [action], by simp, hadmitted, ?_⟩
        rw [hopening, hsame, hopen]
      · cases action with
        | Allow other =>
            cases hasks
            exact ⟨actions, [], rfl, letsThrough_iff.mp hthrough, by rw [hopening, hsame]⟩
        | _ => cases hasks

/-! ## Who moves the opening -/

variable (config)

/-- A step closes an open breaker only by the success of a call let through since it opened, and
    the failure of any other call never makes the opening later. -/
def RespectsOpening (watched : Watched) (action : GatewayAction) : Prop :=
  ∀ openedAt, watched.system.breaker.openedAt = some openedAt →
    ((GatewaySystem.step config watched.system action).breaker.openedAt = none →
      ∃ call, action = .RecordSuccess call ∧ watched.probing call = true)
    ∧ ∀ call, action = .RecordFailure call → watched.probing call = false →
      ∀ later, (GatewaySystem.step config watched.system action).breaker.openedAt = some later →
        later ≤ openedAt

/-- Every step of an execution respects the opening. -/
def ClosesOnlyByProbe (actions : List GatewayAction) : Prop :=
  ∀ pre action post, actions = pre ++ action :: post →
    (after config pre).RespectsOpening config action

/-- A call that was not let through since the breaker opened records no success while it is open,
    and no failure after the instant of opening. -/
def OutcomesInTurn (watched : Watched) (action : GatewayAction) : Prop :=
  ∀ call probe attempts, watched.system.phase call = .Running probe (attempts + 1) →
    watched.probing call = false →
    (action = .RecordSuccess call → watched.system.breaker.openedAt = none)
    ∧ (action = .RecordFailure call → ∀ openedAt,
        watched.system.breaker.openedAt = some openedAt → watched.system.now = openedAt)

variable {config} {watched : Watched} {action : GatewayAction}

/-- A step that moves no opening respects it. -/
lemma respects_of_same
    (h : (GatewaySystem.step config watched.system action).breaker.openedAt
      = watched.system.breaker.openedAt) : watched.RespectsOpening config action := by
  intro openedAt hopen
  rw [h, hopen]
  exact ⟨nofun, fun _ _ _ later hlater => (Option.some.inj hlater).ge⟩

/-- An outcome is recorded only by the call it belongs to. -/
lemma outcomesInTurn_of_ready {call : Nat} {probe : Bool} {attempts : Nat}
    (hready : watched.system.phase call = .Running probe (attempts + 1)) :
    (watched.OutcomesInTurn (.RecordSuccess call)
        ↔ (watched.probing call = false → watched.system.breaker.openedAt = none))
      ∧ (watched.OutcomesInTurn (.RecordFailure call)
        ↔ (watched.probing call = false → ∀ openedAt,
            watched.system.breaker.openedAt = some openedAt →
              watched.system.now = openedAt)) := by
  constructor
  · constructor
    · exact fun h hstale => (h call probe attempts hready hstale).1 rfl
    · rintro h other _ _ - hstale
      refine ⟨fun haction => ?_, nofun⟩
      cases haction
      exact h hstale
  · constructor
    · exact fun h hstale => (h call probe attempts hready hstale).2 rfl
    · rintro h other _ _ - hstale
      refine ⟨nofun, fun haction => ?_⟩
      cases haction
      exact h hstale

/-- **One step.**  It respects the opening exactly when its outcome is in turn. -/
theorem respectsOpening_iff (hsound : watched.system.breaker.Sound config)
    (hnow : ∀ openedAt ∈ watched.system.breaker.openedAt, openedAt ≤ watched.system.now) :
    watched.RespectsOpening config action ↔ watched.OutcomesInTurn action := by
  by_cases hready : ∃ call probe attempts, watched.system.phase call = .Running probe (attempts + 1)
      ∧ (action = .RecordSuccess call ∨ action = .RecordFailure call)
  · obtain ⟨call, probe, attempts, hphase, rfl | rfl⟩ := hready
    · -- a success always closes
      rw [(outcomesInTurn_of_ready hphase).1, RespectsOpening, step_recordSuccess hphase]
      constructor
      · intro hrespects hstale
        by_contra hne
        obtain ⟨openedAt, hopen⟩ := Option.ne_none_iff_exists'.mp hne
        obtain ⟨other, hother, hprobing⟩ := (hrespects openedAt hopen).1 rfl
        cases hother
        rw [hstale] at hprobing
        cases hprobing
      · intro hturn openedAt hopen
        refine ⟨fun _ => ⟨call, rfl, ?_⟩, nofun⟩
        by_contra hstale
        rw [hturn (Bool.eq_false_of_not_eq_true hstale)] at hopen
        cases hopen
    · -- a failure restarts the clock of an open breaker
      rw [(outcomesInTurn_of_ready hphase).2, RespectsOpening, step_recordFailure hphase]
      have hrestart : ∀ openedAt, watched.system.breaker.openedAt = some openedAt →
          (watched.system.breaker.recordFailure config watched.system.now).openedAt
            = some watched.system.now := by
        intro openedAt hopen
        exact (Breaker.recordFailure_restarts hsound (by simp [hopen])).1
      constructor
      · intro hrespects hstale openedAt hopen
        refine le_antisymm ?_ (hnow openedAt hopen)
        exact (hrespects openedAt hopen).2 call rfl hstale _ (hrestart openedAt hopen)
      · intro hturn openedAt hopen
        rw [hrestart openedAt hopen]
        refine ⟨nofun, fun other hother hstale later hlater => ?_⟩
        cases hother
        rw [← Option.some.inj hlater, hturn hstale openedAt hopen]
  · have hunrecorded : ∀ call probe attempts,
        watched.system.phase call = .Running probe (attempts + 1) →
        action ≠ .RecordSuccess call ∧ action ≠ .RecordFailure call :=
      fun call probe attempts hphase =>
        ⟨fun h => hready ⟨call, probe, attempts, hphase, Or.inl h⟩,
          fun h => hready ⟨call, probe, attempts, hphase, Or.inr h⟩⟩
    refine iff_of_true (respects_of_same (openedAt_of_unrecorded hunrecorded)) ?_
    intro call probe attempts hphase _
    obtain ⟨hsuccess, hfailure⟩ := hunrecorded call probe attempts hphase
    exact ⟨fun h => absurd h hsuccess, fun h => absurd h hfailure⟩

/-- **Only probes move the opening, exactly.**  In an execution the breaker closes only by the
    success of a probe, and no stale failure makes its opening later, exactly when every outcome
    is in turn. -/
theorem closesOnlyByProbe_iff (config : BreakerConfig) (actions : List GatewayAction) :
    ClosesOnlyByProbe config actions
      ↔ Runs.Along (step config) OutcomesInTurn initial actions := by
  rw [Runs.along_iff_forall_split]
  refine forall_congr' fun pre => forall_congr' fun action => forall_congr' fun post =>
    forall_congr' fun _ => respectsOpening_iff ?_ ?_
  · rw [after_system]
    exact sound_after config pre
  · rw [after_system]
    exact openedAt_le_now config pre

/-- Two calls are let through by a closed breaker, and the first one's failure opens it. -/
def openedByFirst : List GatewayAction :=
  [.Allow 0, .Allow 1, .Invoke 0, .Invoke 1, .RecordFailure 0]

/-- Twenty seconds later. -/
def openedTwentyAgo : List GatewayAction := openedByFirst ++ [.Tick ⟨20, by decide +kernel⟩]

/-- **The second call's outcome counts, whatever it is.**  A success closes the breaker in the
    instant it opened; a failure twenty seconds later makes the wait for the probe twenty seconds
    longer. -/
theorem stale_outcomes_count :
    (after strictConfig (openedByFirst ++ [.RecordSuccess 1])).system.breaker.state = .Closed
      ∧ (after strictConfig (openedTwentyAgo ++ [.RecordFailure 1])).system.breaker.openedAt
        = some 20
      ∧ ¬ ClosesOnlyByProbe strictConfig (openedByFirst ++ [.RecordSuccess 1])
      ∧ ¬ ClosesOnlyByProbe strictConfig (openedTwentyAgo ++ [.RecordFailure 1]) := by
  have hopen : (after strictConfig openedByFirst).system.breaker.openedAt = some 0 := by
    decide +kernel
  have hstale : (after strictConfig openedByFirst).probing 1 = false := by
    decide +kernel
  refine ⟨by decide +kernel, by decide +kernel, fun hcloses => ?_, fun hcloses => ?_⟩
  · obtain ⟨hclosing, -⟩ := hcloses openedByFirst (.RecordSuccess 1) [] rfl 0 hopen
    obtain ⟨call, hcall, hprobing⟩ := hclosing (by decide +kernel)
    cases hcall
    rw [hstale] at hprobing
    cases hprobing
  · have hlater := (hcloses openedTwentyAgo (.RecordFailure 1) [] rfl 0 (by decide +kernel)).2 1
      rfl (by decide +kernel) 20 (by decide +kernel)
    exact absurd hlater (by decide +kernel)

end Watched

end GatewaySystem

end CostPlatform
