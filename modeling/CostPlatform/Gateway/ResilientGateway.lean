import CostPlatform.Gateway.CircuitBreaker

/-!
# The resilient gateway

`ResilientGateway` is the loop around each gateway call: it asks the breaker once, invokes the
provider, invokes it again after a delay where the error allows, and records the last outcome.  Any
number of calls run at once over one breaker.

`refines_run` connects it to `GatewaySystem`, where a call may invoke any number of times and record
what it likes: every execution of the loop is one of that system, with the same breaker and the same
clock.
-/

namespace CostPlatform

/-! ## Errors and the retry policy -/

/-- What a provider raises, as far as the loop tells it apart. -/
inductive GatewayError where
  | Timeout
  | Unavailable
  | RateLimit (retryAfterSeconds : Option ℚ)
  | Authentication
  | BadRequest
  | Response
  | CircuitOpen
  | Capability
  | Base
  deriving DecidableEq, Repr

def GatewayError.retryable : GatewayError → Bool
  | .Timeout => true
  | .Unavailable => true
  | .RateLimit _ => true
  | _ => false

/-- Bounded exponential backoff with full jitter. -/
structure RetryPolicy where
  maxAttempts : Nat
  baseDelaySeconds : ℚ
  maxDelaySeconds : ℚ
  maxElapsedSeconds : ℚ
  atLeastOne : 1 ≤ maxAttempts

namespace RetryPolicy

/-- Three attempts within a minute. -/
def default : RetryPolicy where
  maxAttempts := 3
  baseDelaySeconds := 1 / 2
  maxDelaySeconds := 8
  maxElapsedSeconds := 60
  atLeastOne := by decide

variable (policy : RetryPolicy)

/-- A draw from the unit interval. -/
abbrev Jitter := {draw : ℚ // 0 ≤ draw ∧ draw ≤ 1}

/-- The backoff after an attempt.  The power is an integer, and the base delay a float: from `2¹⁰²⁴`
    on they cannot be multiplied, and there is no delay. -/
def delayFor (attempt : Nat) (jitter : Jitter) : Option ℚ :=
  if attempt - 1 < 1024 then
    some (jitter.1 * min (policy.baseDelaySeconds * 2 ^ (attempt - 1)) policy.maxDelaySeconds)
  else none

/-- `_retry_delay`: a Retry-After wins over our own backoff. -/
def retryDelay (error : GatewayError) (attempt : Nat) (jitter : Jitter) : Option ℚ :=
  match error with
  | .RateLimit (some retryAfterSeconds) => some (min retryAfterSeconds policy.maxDelaySeconds)
  | _ => policy.delayFor attempt jitter

def shouldRetry (error : GatewayError) (attempt : Nat) (elapsed : ℚ) : Bool :=
  error.retryable && attempt < policy.maxAttempts && elapsed < policy.maxElapsedSeconds

end RetryPolicy

/-! ## The calls -/

/-- What one invocation of the provider comes to.  Anything that is not a gateway error leaves the
    loop at once. -/
inductive Invocation where
  | Returned
  | Failed (error : GatewayError)
  | Raised
  deriving DecidableEq, Repr

/-- Where one call stands in `_call`. -/
inductive CallPhase where
  | Waiting
  | Started (startedAt : ℚ)
  | Refused
  | Attempting (startedAt : ℚ) (attempt : Nat) (notBefore : ℚ)
  | Settling (attempt : Nat) (error : Option GatewayError)
  | Done (attempt : Nat) (error : Option GatewayError)
  | Aborted
  deriving DecidableEq, Repr

structure ResilientGateway where
  breaker : Breaker
  now : ℚ
  phase : Nat → CallPhase

/-- One step of one call, or of the clock. -/
inductive CallAction where
  | Begin (call : Nat)
  | Allow (call : Nat)
  | Invoke (call : Nat) (invocation : Invocation) (jitter : RetryPolicy.Jitter)
  | Record (call : Nat)
  | Tick (elapsed : {d : ℚ // 0 ≤ d})

namespace ResilientGateway

def initial : ResilientGateway := ⟨Breaker.fresh, 0, fun _ => .Waiting⟩

def setPhase (gateway : ResilientGateway) (call : Nat) (phase : CallPhase) : ResilientGateway :=
  { gateway with phase := Function.update gateway.phase call phase }

lemma phase_setPhase (gateway : ResilientGateway) (call : Nat) (phase : CallPhase) (other : Nat) :
    (gateway.setPhase call phase).phase other
      = if other = call then phase else gateway.phase other := by
  simp only [setPhase, Function.update_apply]

lemma phase_setPhase_self (gateway : ResilientGateway) (call : Nat) (phase : CallPhase) :
    (gateway.setPhase call phase).phase call = phase := by
  rw [phase_setPhase, if_pos rfl]

/-- Where an invocation leaves the call: done, or waiting for its next attempt. -/
def afterInvoke (policy : RetryPolicy) (now startedAt : ℚ) (attempt : Nat)
    (jitter : RetryPolicy.Jitter) : Invocation → CallPhase
  | .Returned => .Settling attempt none
  | .Failed error =>
      if policy.shouldRetry error attempt (now - startedAt) then
        match policy.retryDelay error attempt jitter with
        | some delay => .Attempting startedAt (attempt + 1) (now + delay)
        | none => .Aborted
      else .Settling attempt (some error)
  | .Raised => .Aborted

/-- The breaker once the outcome of a call is recorded. -/
def recorded (config : BreakerConfig) (now : ℚ) (breaker : Breaker) (error : Option GatewayError) :
    Breaker :=
  match error with
  | none => breaker.recordSuccess
  | some _ => breaker.recordFailure config now

/-- One atomic step.  A step its call is not ready for does nothing. -/
def step (config : BreakerConfig) (policy : RetryPolicy) (gateway : ResilientGateway)
    (action : CallAction) : ResilientGateway :=
  match action with
  | .Begin call =>
      match gateway.phase call with
      | .Waiting => gateway.setPhase call (.Started gateway.now)
      | _ => gateway
  | .Allow call =>
      match gateway.phase call with
      | .Started startedAt =>
          let answer := gateway.breaker.allow config gateway.now
          { gateway with breaker := answer.2 }.setPhase call
            (if answer.1 then .Attempting startedAt 1 gateway.now else .Refused)
      | _ => gateway
  | .Invoke call invocation jitter =>
      match gateway.phase call with
      | .Attempting startedAt attempt notBefore =>
          if notBefore ≤ gateway.now then
            gateway.setPhase call
              (afterInvoke policy gateway.now startedAt attempt jitter invocation)
          else gateway
      | _ => gateway
  | .Record call =>
      match gateway.phase call with
      | .Settling attempt error =>
          { gateway with breaker := recorded config gateway.now gateway.breaker error }.setPhase
            call (.Done attempt error)
      | _ => gateway
  | .Tick elapsed => { gateway with now := gateway.now + elapsed }

/-- The gateway after an execution from a fresh breaker. -/
def after (config : BreakerConfig) (policy : RetryPolicy) (actions : List CallAction) :
    ResilientGateway :=
  Runs.run (step config policy) initial actions

/-! ## One step -/

variable {config : BreakerConfig} {policy : RetryPolicy} {gateway : ResilientGateway}

/-- **What a step can do**: a call begins, asks, invokes or records, the clock moves, or nothing
    happens. -/
theorem step_cases (config : BreakerConfig) (policy : RetryPolicy) (gateway : ResilientGateway)
    (action : CallAction) :
    (∃ call, action = .Begin call ∧ gateway.phase call = .Waiting
      ∧ step config policy gateway action = gateway.setPhase call (.Started gateway.now))
    ∨ (∃ call startedAt, action = .Allow call ∧ gateway.phase call = .Started startedAt
      ∧ step config policy gateway action
        = { gateway with breaker := (gateway.breaker.allow config gateway.now).2 }.setPhase call
            (if (gateway.breaker.allow config gateway.now).1
              then .Attempting startedAt 1 gateway.now else .Refused))
    ∨ (∃ call invocation jitter startedAt attempt notBefore,
      action = .Invoke call invocation jitter
      ∧ gateway.phase call = .Attempting startedAt attempt notBefore
      ∧ step config policy gateway action = gateway.setPhase call
          (afterInvoke policy gateway.now startedAt attempt jitter invocation))
    ∨ (∃ call attempt error, action = .Record call
      ∧ gateway.phase call = .Settling attempt error
      ∧ step config policy gateway action
        = { gateway with
            breaker := recorded config gateway.now gateway.breaker error }.setPhase call
              (.Done attempt error))
    ∨ (∃ elapsed, action = .Tick elapsed
      ∧ step config policy gateway action = { gateway with now := gateway.now + elapsed })
    ∨ (step config policy gateway action = gateway
      ∧ ∀ call, action = .Record call → ∀ attempt error,
        gateway.phase call ≠ .Settling attempt error) := by
  cases action with
  | Begin call =>
      cases hphase : gateway.phase call with
      | Waiting => exact Or.inl ⟨call, rfl, hphase, by simp only [step, hphase]⟩
      | _ =>
          refine Or.inr (Or.inr (Or.inr (Or.inr (Or.inr ⟨?_, nofun⟩))))
          simp only [step, hphase]
  | Allow call =>
      cases hphase : gateway.phase call with
      | Started startedAt =>
          exact Or.inr (Or.inl ⟨call, startedAt, rfl, hphase, by simp only [step, hphase]⟩)
      | _ =>
          refine Or.inr (Or.inr (Or.inr (Or.inr (Or.inr ⟨?_, nofun⟩))))
          simp only [step, hphase]
  | Invoke call invocation jitter =>
      cases hphase : gateway.phase call with
      | Attempting startedAt attempt notBefore =>
          by_cases hawake : notBefore ≤ gateway.now
          · refine Or.inr (Or.inr (Or.inl
              ⟨call, invocation, jitter, startedAt, attempt, notBefore, rfl, hphase, ?_⟩))
            simp only [step, hphase, if_pos hawake]
          · refine Or.inr (Or.inr (Or.inr (Or.inr (Or.inr ⟨?_, nofun⟩))))
            simp only [step, hphase, if_neg hawake]
      | _ =>
          refine Or.inr (Or.inr (Or.inr (Or.inr (Or.inr ⟨?_, nofun⟩))))
          simp only [step, hphase]
  | Record call =>
      cases hphase : gateway.phase call with
      | Settling attempt error =>
          refine Or.inr (Or.inr (Or.inr (Or.inl ⟨call, attempt, error, rfl, hphase, ?_⟩)))
          simp only [step, hphase]
      | _ =>
          refine Or.inr (Or.inr (Or.inr (Or.inr (Or.inr ⟨by simp only [step, hphase], ?_⟩))))
          rintro other hother attempt error hsettling
          cases hother
          rw [hphase] at hsettling
          cases hsettling
  | Tick elapsed => exact Or.inr (Or.inr (Or.inr (Or.inr (Or.inl ⟨elapsed, rfl, rfl⟩))))

/-! ## The loop refines the calls around the breaker -/

/-- How a call of the loop is seen from the breaker. -/
def PhaseMatches : CallPhase → Phase → Prop
  | .Waiting, phase => phase = .Waiting
  | .Started _, phase => phase = .Waiting
  | .Refused, phase => phase = .Refused
  | .Attempting _ attempt _, phase =>
      ∃ probe attempts, phase = .Running probe attempts ∧ attempt = attempts + 1
  | .Settling attempt _, phase =>
      ∃ probe attempts, phase = .Running probe (attempts + 1) ∧ attempt = attempts + 1
  | .Done _ _, phase => phase = .Recorded
  | .Aborted, phase => ∃ probe attempts, phase = .Running probe attempts

/-- The same breaker, the same clock, and every call seen for what it is. -/
structure Refines (gateway : ResilientGateway) (system : GatewaySystem) : Prop where
  breaker : gateway.breaker = system.breaker
  now : gateway.now = system.now
  phase : ∀ call, PhaseMatches (gateway.phase call) (system.phase call)

lemma refines_initial : Refines initial GatewaySystem.initial := ⟨rfl, rfl, fun _ => rfl⟩

/-- One call moves on, on both sides. -/
lemma phase_update {gateway : ResilientGateway} {system : GatewaySystem}
    (h : ∀ call, PhaseMatches (gateway.phase call) (system.phase call)) {call : Nat}
    {phase : CallPhase} {seen : Phase} (hphase : PhaseMatches phase seen) (other : Nat) :
    PhaseMatches (Function.update gateway.phase call phase other)
      (Function.update system.phase call seen other) := by
  by_cases hsame : other = call
  · subst hsame
    simpa only [Function.update_self] using hphase
  · simpa only [Function.update_of_ne hsame] using h other

/-- One call moves on, and is still seen the same way. -/
lemma phase_update_left {gateway : ResilientGateway} {system : GatewaySystem}
    (h : ∀ call, PhaseMatches (gateway.phase call) (system.phase call)) {call : Nat}
    {phase : CallPhase} (hphase : PhaseMatches phase (system.phase call)) (other : Nat) :
    PhaseMatches (Function.update gateway.phase call phase other) (system.phase other) := by
  have hboth := @phase_update gateway system h call phase _ hphase other
  rwa [Function.update_eq_self] at hboth

/-- **A step of the loop** is a step of the calls around the breaker, or none. -/
theorem refines_step {system : GatewaySystem} (h : Refines gateway system) (action : CallAction) :
    ∃ actions, Refines (step config policy gateway action)
      (Runs.run (GatewaySystem.step config) system actions) := by
  obtain ⟨hbreaker, hnow, hphases⟩ := h
  rcases step_cases config policy gateway action with ⟨call, -, hphase, hstep⟩
    | ⟨call, startedAt, -, hphase, hstep⟩
    | ⟨call, invocation, jitter, startedAt, attempt, notBefore, -, hphase, hstep⟩
    | ⟨call, attempt, error, -, hphase, hstep⟩ | ⟨elapsed, -, hstep⟩ | ⟨hstep, -⟩
  · -- beginning is not seen
    have hseen := hphases call
    rw [hphase] at hseen
    rw [hstep]
    exact ⟨[], hbreaker, hnow, phase_update_left hphases hseen⟩
  · have hseen : system.phase call = .Waiting := by
      have hmatch := hphases call
      rwa [hphase] at hmatch
    refine ⟨[.Allow call], ?_⟩
    rw [hstep, Runs.run_cons, Runs.run_nil, GatewaySystem.step, hseen]
    simp only [GatewaySystem.ask, ← hbreaker, ← hnow]
    refine ⟨rfl, rfl, phase_update hphases ?_⟩
    split_ifs
    · exact ⟨_, 0, rfl, rfl⟩
    · rfl
  · obtain ⟨probe, attempts, hseen, rfl⟩ : ∃ probe attempts,
        system.phase call = .Running probe attempts ∧ attempt = attempts + 1 := by
      have hmatch := hphases call
      rwa [hphase] at hmatch
    refine ⟨[.Invoke call], ?_⟩
    rw [hstep, Runs.run_cons, Runs.run_nil, GatewaySystem.step, hseen]
    refine ⟨hbreaker, hnow, phase_update hphases ?_⟩
    cases invocation with
    | Returned => exact ⟨probe, attempts, rfl, rfl⟩
    | Raised => exact ⟨probe, attempts + 1, rfl⟩
    | Failed error =>
        simp only [afterInvoke]
        split_ifs
        · cases policy.retryDelay error (attempts + 1) jitter with
          | some delay => exact ⟨probe, attempts + 1, rfl, rfl⟩
          | none => exact ⟨probe, attempts + 1, rfl⟩
        · exact ⟨probe, attempts, rfl, rfl⟩
  · obtain ⟨probe, attempts, hseen, -⟩ : ∃ probe attempts,
        system.phase call = .Running probe (attempts + 1) ∧ attempt = attempts + 1 := by
      have hmatch := hphases call
      rwa [hphase] at hmatch
    rw [hstep]
    cases error with
    | none =>
        refine ⟨[.RecordSuccess call], ?_⟩
        rw [Runs.run_cons, Runs.run_nil, GatewaySystem.step, hseen]
        exact ⟨congrArg Breaker.recordSuccess hbreaker, hnow, phase_update hphases rfl⟩
    | some error =>
        refine ⟨[.RecordFailure call], ?_⟩
        rw [Runs.run_cons, Runs.run_nil, GatewaySystem.step, hseen]
        refine ⟨?_, hnow, phase_update hphases rfl⟩
        rw [GatewaySystem.record, ← hbreaker, ← hnow]
        rfl
  · rw [hstep]
    exact ⟨[.Tick elapsed], hbreaker, congrArg (· + elapsed.1) hnow, hphases⟩
  · rw [hstep]
    exact ⟨[], hbreaker, hnow, hphases⟩

/-- **Every execution of the loop is one of the calls around the breaker**, with the same breaker
    and the same clock. -/
theorem refines_run (config : BreakerConfig) (policy : RetryPolicy) (actions : List CallAction) :
    ∃ seen, Refines (after config policy actions) (GatewaySystem.after config seen) := by
  refine Runs.run_invariant
    (I := fun gateway => ∃ seen, Refines gateway (GatewaySystem.after config seen)) ?_ actions
    ⟨[], refines_initial⟩
  rintro gateway action ⟨seen, hrefines⟩
  obtain ⟨next, hnext⟩ := refines_step hrefines action
  refine ⟨seen ++ next, ?_⟩
  rw [GatewaySystem.after, Runs.run_append]
  exact hnext

/-- The breaker of every execution is sound. -/
lemma sound_after (config : BreakerConfig) (policy : RetryPolicy) (actions : List CallAction) :
    (after config policy actions).breaker.Sound config := by
  obtain ⟨seen, hrefines⟩ := refines_run config policy actions
  rw [hrefines.breaker]
  exact GatewaySystem.sound_after config seen

/-! ## The loop ends -/

/-- The attempt a call is at is one the policy allows. -/
def WithinAttempts (policy : RetryPolicy) : CallPhase → Prop
  | .Attempting _ attempt _ => attempt ≤ policy.maxAttempts
  | .Settling attempt _ => attempt ≤ policy.maxAttempts
  | .Done attempt _ => attempt ≤ policy.maxAttempts
  | _ => True

lemma withinAttempts_afterInvoke {now startedAt : ℚ} {attempt : Nat} {jitter : RetryPolicy.Jitter}
    (invocation : Invocation) (h : attempt ≤ policy.maxAttempts) :
    WithinAttempts policy (afterInvoke policy now startedAt attempt jitter invocation) := by
  cases invocation with
  | Returned => exact h
  | Raised => trivial
  | Failed error =>
      simp only [afterInvoke]
      split_ifs with hretry
      · rw [RetryPolicy.shouldRetry, Bool.and_eq_true, Bool.and_eq_true, decide_eq_true_eq]
          at hretry
        cases policy.retryDelay error attempt jitter with
        | some delay => exact hretry.1.2
        | none => trivial
      · exact h

/-- **No call makes more attempts than the policy allows.** -/
theorem attempts_le_maxAttempts (config : BreakerConfig) (policy : RetryPolicy)
    (actions : List CallAction) :
    ∀ call, WithinAttempts policy ((after config policy actions).phase call) := by
  refine Runs.run_invariant
    (I := fun gateway : ResilientGateway => ∀ call, WithinAttempts policy (gateway.phase call))
    ?_ actions fun _ => trivial
  intro gateway action hwithin other
  have hmove : ∀ {breaker call phase}, WithinAttempts policy phase →
      WithinAttempts policy
        (({ gateway with breaker := breaker }.setPhase call phase).phase other) := by
    intro breaker call phase hphase
    rw [phase_setPhase]
    split_ifs
    · exact hphase
    · exact hwithin other
  rcases step_cases config policy gateway action with ⟨call, -, -, hstep⟩
    | ⟨call, startedAt, -, -, hstep⟩
    | ⟨call, invocation, jitter, startedAt, attempt, notBefore, -, hphase, hstep⟩
    | ⟨call, attempt, error, -, hphase, hstep⟩ | ⟨elapsed, -, hstep⟩ | ⟨hstep, -⟩
  · rw [hstep]
    exact hmove trivial
  · rw [hstep]
    refine hmove ?_
    split_ifs
    · exact policy.atLeastOne
    · trivial
  · have hattempt := hwithin call
    rw [hphase] at hattempt
    rw [hstep]
    exact hmove (withinAttempts_afterInvoke invocation hattempt)
  · have hattempt := hwithin call
    rw [hphase] at hattempt
    rw [hstep]
    exact hmove hattempt
  · rw [hstep]
    exact hwithin other
  · rw [hstep]
    exact hwithin other

end ResilientGateway

end CostPlatform
