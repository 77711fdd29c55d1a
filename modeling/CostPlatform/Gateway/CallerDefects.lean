import CostPlatform.Gateway.ResilientGateway
import CostPlatform.Library.Streak

/-!
# Caller-side defects and the shared breaker

A request the provider rejects as invalid, or an answer without what the operation requires, is not
retried, and says little about the provider's health.  The breaker is told of it all the same: it
hears that a call failed, not why.

`closed_iff` is the rule the breaker follows, and `callerDefectsHarmless_iff` what it comes to for
executions in which nothing but such defects goes wrong.
-/

namespace CostPlatform

/-- Caused by one caller's request, or by one response. -/
def GatewayError.callerSide : GatewayError → Bool
  | .BadRequest => true
  | .Response => true
  | _ => false

/-! ## What the breaker counts -/

namespace Breaker

variable {config : BreakerConfig} {now : ℚ} {breaker : Breaker}

@[simp] lemma allow_consecutiveFailures :
    (breaker.allow config now).2.consecutiveFailures = breaker.consecutiveFailures := by
  simp only [allow]
  cases breaker.openedAt with
  | none => rfl
  | some openedAt => by_cases helapsed : config.resetTimeout ≤ now - openedAt <;> simp [helapsed]

@[simp] lemma recordFailure_consecutiveFailures :
    (breaker.recordFailure config now).consecutiveFailures = breaker.consecutiveFailures + 1 := by
  simp only [recordFailure]
  split_ifs <;> rfl

/-- A closed breaker has counted fewer failures than the threshold. -/
def Tight (config : BreakerConfig) (breaker : Breaker) : Prop :=
  breaker.openedAt = none → breaker.consecutiveFailures < config.failureThreshold

lemma tight_fresh : fresh.Tight config := fun _ => config.thresholdPositive

lemma tight_allow (h : breaker.Tight config) : (breaker.allow config now).2.Tight config := by
  intro hclosed
  rw [allow_openedAt] at hclosed
  rw [allow_consecutiveFailures]
  exact h hclosed

lemma tight_recordFailure : (breaker.recordFailure config now).Tight config := by
  intro hclosed
  rw [recordFailure_consecutiveFailures]
  simp only [recordFailure] at hclosed
  split_ifs at hclosed with _ hthreshold
  exact lt_of_not_ge hthreshold

lemma state_eq_closed_iff : breaker.state = .Closed ↔ breaker.openedAt = none := by
  rw [state]
  cases breaker.openedAt with
  | none => simp
  | some openedAt => split_ifs <;> simp

lemma state_eq_halfOpen (h : breaker.state = .HalfOpen) : breaker.halfOpen = true := by
  rw [state] at h
  split at h
  · cases h
  · split_ifs at h with hhalf
    exact hhalf

lemma recordFailure_halfOpen (h : breaker.halfOpen = false) :
    (breaker.recordFailure config now).halfOpen = false := by
  rw [recordFailure, if_neg (Bool.eq_false_iff.mp h)]
  split_ifs
  · exact h
  · exact h

end Breaker

/-- **A breaker is closed exactly while it has counted fewer failures than the threshold.** -/
theorem GatewaySystem.closed_iff (config : BreakerConfig) (actions : List GatewayAction) :
    (after config actions).breaker.openedAt = none
      ↔ (after config actions).breaker.consecutiveFailures < config.failureThreshold := by
  have htight : (after config actions).breaker.Tight config :=
    breaker_invariant (I := fun _ breaker => breaker.Tight config) (fun _ => Breaker.tight_fresh)
      (fun _ _ => Breaker.tight_allow) (fun _ _ _ => Breaker.tight_recordFailure)
      (fun _ _ _ _ h => h) actions
  refine ⟨htight, fun hcount => ?_⟩
  by_contra hopen
  exact absurd ((sound_after config actions).counted hopen) (Nat.not_le_of_lt hcount)

namespace ResilientGateway

variable {config : BreakerConfig} {policy : RetryPolicy}

/-- The outcome a step records: no error, or the one the call ends with. -/
def recordedOutcome (gateway : ResilientGateway) (action : CallAction) :
    Option (Option GatewayError) :=
  match action with
  | .Record call =>
      match gateway.phase call with
      | .Settling _ error => some error
      | _ => none
  | _ => none

lemma recordedOutcome_eq_some {gateway : ResilientGateway} {action : CallAction}
    {outcome : Option GatewayError} :
    recordedOutcome gateway action = some outcome
      ↔ ∃ call attempt, action = .Record call
        ∧ gateway.phase call = .Settling attempt outcome := by
  constructor
  · intro h
    cases action with
    | Record call =>
        simp only [recordedOutcome] at h
        split at h
        next attempt error hphase =>
            cases h
            exact ⟨call, attempt, rfl, hphase⟩
        next => cases h
    | _ => cases h
  · rintro ⟨call, attempt, rfl, hphase⟩
    simp only [recordedOutcome, hphase]

/-- The outcomes recorded in an execution, in order. -/
def recordedOutcomes (config : BreakerConfig) (policy : RetryPolicy) (actions : List CallAction) :
    List (Option GatewayError) :=
  Runs.emitted (step config policy)
    (fun gateway action => (recordedOutcome gateway action).toList) initial actions

/-- **One step counts what it records**, whichever error it is. -/
lemma consecutiveFailures_step (gateway : ResilientGateway) (action : CallAction) :
    (step config policy gateway action).breaker.consecutiveFailures
      = (recordedOutcome gateway action).toList.foldl (Streak.tally Option.isSome)
          gateway.breaker.consecutiveFailures := by
  rcases step_cases config policy gateway action with ⟨call, rfl, -, hstep⟩
    | ⟨call, startedAt, rfl, -, hstep⟩
    | ⟨call, invocation, jitter, startedAt, attempt, notBefore, rfl, -, hstep⟩
    | ⟨call, attempt, error, rfl, hphase, hstep⟩ | ⟨elapsed, rfl, hstep⟩ | ⟨hstep, hready⟩
  · rw [hstep]
    rfl
  · rw [hstep]
    exact Breaker.allow_consecutiveFailures
  · rw [hstep]
    rfl
  · rw [hstep]
    simp only [recordedOutcome, hphase]
    cases error with
    | none => rfl
    | some error => exact Breaker.recordFailure_consecutiveFailures
  · rw [hstep]
    rfl
  · have hnone : recordedOutcome gateway action = none := by
      refine Option.eq_none_iff_forall_ne_some.mpr fun outcome houtcome => ?_
      obtain ⟨call, attempt, haction, hphase⟩ := recordedOutcome_eq_some.mp houtcome
      exact hready call haction attempt outcome hphase
    rw [hstep, hnone]
    rfl

/-- The count after an execution is that of the failures its outcomes end with. -/
theorem consecutiveFailures_after (config : BreakerConfig) (policy : RetryPolicy)
    (actions : List CallAction) :
    (after config policy actions).breaker.consecutiveFailures
      = Streak.trailing Option.isSome (recordedOutcomes config policy actions) := by
  have hrun : ∀ gateway : ResilientGateway,
      (Runs.run (step config policy) gateway actions).breaker.consecutiveFailures
        = (Runs.emitted (step config policy)
            (fun gateway action => (recordedOutcome gateway action).toList) gateway actions).foldl
          (Streak.tally Option.isSome) gateway.breaker.consecutiveFailures := by
    induction actions with
    | nil => exact fun gateway => rfl
    | cons action actions ih =>
        intro gateway
        rw [Runs.run_cons, ih, consecutiveFailures_step, Runs.emitted, List.foldl_append]
  exact hrun initial

/-- **The breaker is closed exactly while the outcomes do not end with a row of failures as long as
    the threshold.** -/
theorem closed_iff (config : BreakerConfig) (policy : RetryPolicy) (actions : List CallAction) :
    (after config policy actions).breaker.state = .Closed
      ↔ Streak.trailing Option.isSome (recordedOutcomes config policy actions)
        < config.failureThreshold := by
  obtain ⟨seen, hrefines⟩ := refines_run config policy actions
  rw [← consecutiveFailures_after, hrefines.breaker, ← GatewaySystem.closed_iff,
    Breaker.state_eq_closed_iff]

/-- No step takes a closed breaker to half-open. -/
lemma not_halfOpen_step {gateway : ResilientGateway} (hsound : gateway.breaker.Sound config)
    (hclosed : gateway.breaker.state = .Closed) (action : CallAction) :
    (step config policy gateway action).breaker.state ≠ .HalfOpen := by
  intro hnext
  have hopened := Breaker.state_eq_closed_iff.mp hclosed
  have hhalf : gateway.breaker.halfOpen = false :=
    Bool.eq_false_of_not_eq_true fun h => hsound.halfOpen_opened h hopened
  refine Bool.eq_false_iff.mp ?_ (Breaker.state_eq_halfOpen hnext)
  rcases step_cases config policy gateway action with ⟨call, -, -, hstep⟩
    | ⟨call, startedAt, -, -, hstep⟩
    | ⟨call, invocation, jitter, startedAt, attempt, notBefore, -, -, hstep⟩
    | ⟨call, attempt, error, -, -, hstep⟩ | ⟨elapsed, -, hstep⟩ | ⟨hstep, -⟩
  · rw [hstep]
    exact hhalf
  · have hallow : (gateway.breaker.allow config gateway.now).2 = gateway.breaker := by
      rw [Breaker.allow, hopened]
    rw [hstep, hallow]
    exact hhalf
  · rw [hstep]
    exact hhalf
  · rw [hstep]
    cases error with
    | none => rfl
    | some error => exact Breaker.recordFailure_halfOpen hhalf
  · rw [hstep]
    exact hhalf
  · rw [hstep]
    exact hhalf

/-- A breaker that is never open is always closed: it is open before it is half-open. -/
theorem never_open_iff_always_closed (config : BreakerConfig) (policy : RetryPolicy)
    (actions : List CallAction) :
    Runs.Throughout (step config policy) (fun gateway => gateway.breaker.state ≠ .Open) initial
        actions
      ↔ Runs.Throughout (step config policy) (fun gateway => gateway.breaker.state = .Closed)
          initial actions := by
  rw [Runs.throughout_iff_forall_prefix, Runs.throughout_iff_forall_prefix]
  refine ⟨fun hnever pre => ?_, fun hclosed pre post hsplit hopen => ?_⟩
  · induction pre using List.reverseRecOn with
    | nil => exact fun _ _ => rfl
    | append_singleton pre action ih =>
        intro post hsplit
        have hclosed := ih (action :: post) (by rw [hsplit, List.append_assoc]; rfl)
        have hopen := hnever (pre ++ [action]) post hsplit
        rw [Runs.run_append, Runs.run_cons, Runs.run_nil] at hopen ⊢
        have hhalf := @not_halfOpen_step config policy _ (sound_after config policy pre) hclosed
          action
        rw [after] at hhalf
        cases hstate : (step config policy (Runs.run (step config policy) initial pre)
            action).breaker.state with
        | Closed => rfl
        | Open => exact absurd hstate hopen
        | HalfOpen => exact absurd hstate hhalf
  · exact absurd ((hclosed pre post hsplit).symm.trans hopen) (by decide)

/-- **Always closed, exactly.**  An execution never opens the breaker exactly when it records no
    row of failures as long as the threshold. -/
theorem always_closed_iff (config : BreakerConfig) (policy : RetryPolicy)
    (actions : List CallAction) :
    Runs.Throughout (step config policy) (fun gateway => gateway.breaker.state = .Closed) initial
        actions
      ↔ ¬ Streak.HasRow Option.isSome config.failureThreshold
          (recordedOutcomes config policy actions) := by
  rw [Runs.throughout_iff_forall_prefix, Streak.hasRow_iff]
  constructor
  · rintro hclosed ⟨reached, later, hsplit, hcount⟩
    obtain ⟨pre, post, rfl, rfl⟩ := Runs.exists_run_of_emitted_eq hsplit
    have hfew := (closed_iff config policy pre).mp (hclosed pre post rfl)
    exact absurd hcount (Nat.not_le_of_lt hfew)
  · rintro hnone pre post rfl
    refine (closed_iff config policy pre).mpr (Nat.lt_of_not_le fun hcount => hnone ?_)
    exact ⟨_, _, Runs.emitted_append _ _ _, hcount⟩

/-! ## Executions with nothing but caller-side defects -/

/-- The invocation succeeds, or fails by a caller-side defect. -/
def onlyCallerSide : Invocation → Bool
  | .Returned => true
  | .Failed error => error.callerSide
  | .Raised => false

/-- Nothing goes wrong in the execution but caller-side defects. -/
def OnlyCallerDefects (actions : List CallAction) : Prop :=
  ∀ call invocation jitter, .Invoke call invocation jitter ∈ actions →
    onlyCallerSide invocation = true

/-- What is about to be recorded is no failure, or a caller-side defect. -/
def SettlesCallerSide (gateway : ResilientGateway) : Prop :=
  ∀ call attempt error, gateway.phase call = .Settling attempt (some error) →
    error.callerSide = true

lemma settlesCallerSide_update {gateway : ResilientGateway} (h : gateway.SettlesCallerSide)
    {call : Nat} {phase : CallPhase}
    (hphase : ∀ attempt error, phase = .Settling attempt (some error) → error.callerSide = true) :
    (gateway.setPhase call phase).SettlesCallerSide := by
  intro other attempt error hsettling
  rw [phase_setPhase] at hsettling
  split_ifs at hsettling
  · exact hphase attempt error hsettling
  · exact h other attempt error hsettling

/-- An invocation settles its call with its own error, if with any. -/
lemma error_of_afterInvoke {now startedAt : ℚ} {attempt attempt' : Nat}
    {jitter : RetryPolicy.Jitter} {invocation : Invocation} {error : GatewayError}
    (h : afterInvoke policy now startedAt attempt jitter invocation
      = .Settling attempt' (some error)) : invocation = .Failed error := by
  cases invocation with
  | Returned => cases h
  | Raised => cases h
  | Failed other =>
      simp only [afterInvoke] at h
      split_ifs at h
      · split at h <;> cases h
      · cases h
        rfl

lemma settlesCallerSide_step {gateway : ResilientGateway} (h : gateway.SettlesCallerSide)
    {action : CallAction} (haction : OnlyCallerDefects [action]) :
    (step config policy gateway action).SettlesCallerSide := by
  rcases step_cases config policy gateway action with ⟨call, -, -, hstep⟩
    | ⟨call, startedAt, -, -, hstep⟩
    | ⟨call, invocation, jitter, startedAt, attempt, notBefore, rfl, -, hstep⟩
    | ⟨call, attempt, error, -, -, hstep⟩ | ⟨elapsed, -, hstep⟩ | ⟨hstep, -⟩
  · rw [hstep]
    exact settlesCallerSide_update h nofun
  · rw [hstep]
    refine settlesCallerSide_update h fun attempt error hsettling => ?_
    split_ifs at hsettling
  · rw [hstep]
    refine settlesCallerSide_update h fun attempt error hsettling => ?_
    have hinvocation := haction call invocation jitter (List.mem_singleton_self _)
    rwa [error_of_afterInvoke hsettling] at hinvocation
  · rw [hstep]
    exact settlesCallerSide_update h nofun
  · rw [hstep]
    exact h
  · rw [hstep]
    exact h

/-- Every failure recorded is then a caller-side defect. -/
lemma recordedOutcomes_callerSide {actions : List CallAction} (h : OnlyCallerDefects actions) :
    ∀ outcome ∈ recordedOutcomes config policy actions,
      outcome.isSome = outcome.any GatewayError.callerSide := by
  have hrun : ∀ gateway : ResilientGateway, gateway.SettlesCallerSide →
      ∀ outcome ∈ Runs.emitted (step config policy)
        (fun gateway action => (recordedOutcome gateway action).toList) gateway actions,
        outcome.isSome = outcome.any GatewayError.callerSide := by
    induction actions with
    | nil => exact fun gateway _ outcome houtcome => absurd houtcome (List.not_mem_nil)
    | cons action actions ih =>
        intro gateway hgateway outcome houtcome
        have hfirst : OnlyCallerDefects [action] := by
          intro call invocation jitter hmem
          rw [List.mem_singleton] at hmem
          exact h call invocation jitter (hmem ▸ List.mem_cons_self ..)
        have hrest : OnlyCallerDefects actions :=
          fun call invocation jitter hmem =>
            h call invocation jitter (List.mem_cons_of_mem _ hmem)
        rcases List.mem_append.mp houtcome with hnow | hlater
        · obtain ⟨call, attempt, rfl, hphase⟩ :=
            recordedOutcome_eq_some.mp (Option.mem_toList.mp hnow)
          cases outcome with
          | none => rfl
          | some error => exact (hgateway call attempt error hphase).symm
        · exact ih hrest _ (settlesCallerSide_step hgateway hfirst) outcome hlater
  exact hrun initial nofun

/-- **Caller-side defects are harmless** to the breaker all callers share: it is never open. -/
def CallerDefectsHarmless (config : BreakerConfig) (policy : RetryPolicy)
    (actions : List CallAction) : Prop :=
  OnlyCallerDefects actions →
    Runs.Throughout (step config policy) (fun gateway => gateway.breaker.state ≠ .Open) initial
      actions

/-- Of nothing but such defects, fewer than the threshold are recorded in a row. -/
def FewInARow (config : BreakerConfig) (policy : RetryPolicy) (actions : List CallAction) : Prop :=
  OnlyCallerDefects actions →
    ¬ Streak.HasRow (fun outcome => outcome.any GatewayError.callerSide) config.failureThreshold
      (recordedOutcomes config policy actions)

/-- **Caller-side defects are harmless exactly while they are few in a row.** -/
theorem callerDefectsHarmless_iff (config : BreakerConfig) (policy : RetryPolicy)
    (actions : List CallAction) :
    CallerDefectsHarmless config policy actions ↔ FewInARow config policy actions := by
  refine forall_congr' fun honly => ?_
  rw [never_open_iff_always_closed, always_closed_iff,
    Streak.hasRow_congr (recordedOutcomes_callerSide honly)]

/-! ## Five malformed requests -/

/-- The thresholds a breaker has by default. -/
def defaultConfig : BreakerConfig where
  failureThreshold := 5
  resetTimeout := 30
  thresholdPositive := by decide

/-- One call whose request the provider rejects. -/
def malformedCall (call : Nat) : List CallAction :=
  [.Begin call, .Allow call, .Invoke call (.Failed .BadRequest) ⟨0, le_refl 0, zero_le_one⟩,
    .Record call]

/-- **Five malformed requests cut everyone off.**  The sixth call, whoever's it is, is refused. -/
theorem malformed_requests_open_breaker :
    (after defaultConfig .default ((List.range 5).flatMap malformedCall)).breaker.state = .Open
      ∧ (after defaultConfig .default ((List.range 5).flatMap malformedCall
          ++ [.Begin 5, .Allow 5])).phase 5 = .Refused
      ∧ ¬ CallerDefectsHarmless defaultConfig .default
          ((List.range 5).flatMap malformedCall) := by
  have hopen : (after defaultConfig .default ((List.range 5).flatMap malformedCall)).breaker.state
      = .Open := by
    decide +kernel
  refine ⟨hopen, by decide +kernel, fun hharmless => ?_⟩
  have honly : OnlyCallerDefects ((List.range 5).flatMap malformedCall) := by
    intro call invocation jitter hmem
    obtain ⟨other, -, hcall⟩ := List.mem_flatMap.mp hmem
    simp only [malformedCall, List.mem_cons, reduceCtorEq, CallAction.Invoke.injEq, false_or,
      List.not_mem_nil, or_false] at hcall
    rw [hcall.2.1]
    rfl
  exact (Runs.throughout_iff_forall_prefix _ _).mp (hharmless honly)
    ((List.range 5).flatMap malformedCall) [] (List.append_nil _).symm hopen

end ResilientGateway

end CostPlatform
