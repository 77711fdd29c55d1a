import CostPlatform.Library.Runs
import Mathlib.Algebra.Order.Field.Rat
import Mathlib.Algebra.Order.Ring.Rat
import Mathlib.Data.List.Induction
import Mathlib.Logic.Function.Basic
import Mathlib.Tactic.Linarith

/-!
# The circuit breaker under concurrent calls

`Breaker` is the in-memory circuit breaker: it opens after `failureThreshold` consecutive
failures, and once `resetTimeout` has passed since it opened it goes half-open and lets a probe
through.  `GatewaySystem` is what surrounds it: any number of gateway calls, each of which asks
the breaker once, invokes the provider, and records one outcome or none, and a clock that never
goes back.  Every breaker step is atomic, so an execution is an interleaving of the steps.

* `exactlyOneProbe_iff` — an execution admits a single call between the moment a probe is let
  through and the moment its outcome is recorded exactly when every call that asks in between
  finds the breaker cooling down again.
* `asks_admitted_until_record` — and that takes a recorded outcome: until one is recorded, every
  call that asks is let through.
-/

namespace CostPlatform

/-! ## The breaker -/

structure BreakerConfig where
  failureThreshold : Nat
  resetTimeout : ℚ
  thresholdPositive : 1 ≤ failureThreshold

structure Breaker where
  consecutiveFailures : Nat
  openedAt : Option ℚ
  halfOpen : Bool
  deriving DecidableEq, Repr

inductive CircuitState where
  | Closed
  | Open
  | HalfOpen
  deriving DecidableEq, Repr

namespace Breaker

/-- A breaker that has seen nothing. -/
def fresh : Breaker := ⟨0, none, false⟩

def state (breaker : Breaker) : CircuitState :=
  match breaker.openedAt with
  | none => .Closed
  | some _ => if breaker.halfOpen then .HalfOpen else .Open

variable (config : BreakerConfig)

/-- Whether a call may proceed, and the breaker after the question. -/
def allow (now : ℚ) (breaker : Breaker) : Bool × Breaker :=
  match breaker.openedAt with
  | none => (true, breaker)
  | some openedAt =>
      if config.resetTimeout ≤ now - openedAt then
        -- the half-open state is entered again by every call that asks
        (true, { breaker with halfOpen := true })
      else (false, breaker)

def recordSuccess (_breaker : Breaker) : Breaker := ⟨0, none, false⟩

def recordFailure (now : ℚ) (breaker : Breaker) : Breaker :=
  if breaker.halfOpen then
    -- the probe failed: reopen and restart the clock
    ⟨breaker.consecutiveFailures + 1, some now, false⟩
  else if config.failureThreshold ≤ breaker.consecutiveFailures + 1 then
    ⟨breaker.consecutiveFailures + 1, some now, breaker.halfOpen⟩
  else { breaker with consecutiveFailures := breaker.consecutiveFailures + 1 }

/-- Open, with the timeout over. -/
def Elapsed (now : ℚ) (breaker : Breaker) : Prop :=
  ∃ openedAt, breaker.openedAt = some openedAt ∧ config.resetTimeout ≤ now - openedAt

/-- Open, with the timeout still running. -/
def Cooling (now : ℚ) (breaker : Breaker) : Prop :=
  ∃ openedAt, breaker.openedAt = some openedAt ∧ now - openedAt < config.resetTimeout

variable {config} {now : ℚ} {breaker : Breaker}

/-- **A call is refused exactly while the breaker cools down.** -/
theorem allow_refuses_iff : (breaker.allow config now).1 = false ↔ breaker.Cooling config now := by
  simp only [allow, Cooling]
  cases hopen : breaker.openedAt with
  | none => simp
  | some openedAt =>
      by_cases helapsed : config.resetTimeout ≤ now - openedAt
      · simp [helapsed]
      · simpa [helapsed] using lt_of_not_ge helapsed

lemma allow_admits_of_elapsed (h : breaker.Elapsed config now) :
    (breaker.allow config now).1 = true := by
  obtain ⟨openedAt, hopen, helapsed⟩ := h
  simp only [allow, hopen, if_pos helapsed]

/-- Asking never moves the moment of opening. -/
@[simp] lemma allow_openedAt : (breaker.allow config now).2.openedAt = breaker.openedAt := by
  simp only [allow]
  cases hopen : breaker.openedAt with
  | none => simp [hopen]
  | some openedAt =>
      by_cases helapsed : config.resetTimeout ≤ now - openedAt <;> simp [helapsed, hopen]

lemma Elapsed.later {later : ℚ} (h : breaker.Elapsed config now) (hlater : now ≤ later) :
    breaker.Elapsed config later := by
  obtain ⟨openedAt, hopen, helapsed⟩ := h
  exact ⟨openedAt, hopen, by linarith⟩

lemma Elapsed.of_openedAt {other : Breaker} (h : breaker.Elapsed config now)
    (hsame : other.openedAt = breaker.openedAt) : other.Elapsed config now := by
  obtain ⟨openedAt, hopen, helapsed⟩ := h
  exact ⟨openedAt, hsame.trans hopen, helapsed⟩

/-! ### The counter behind an open breaker -/

/-- What holds of the three fields together: only an open breaker is half-open, and an open one
    has counted `failureThreshold` failures since the last success. -/
structure Sound (config : BreakerConfig) (breaker : Breaker) : Prop where
  halfOpen_opened : breaker.halfOpen = true → breaker.openedAt ≠ none
  counted : breaker.openedAt ≠ none → config.failureThreshold ≤ breaker.consecutiveFailures

lemma sound_fresh : fresh.Sound config := ⟨fun h => absurd h (by decide), fun h => absurd rfl h⟩

lemma sound_allow (h : breaker.Sound config) : (breaker.allow config now).2.Sound config := by
  simp only [allow]
  cases hopen : breaker.openedAt with
  | none => exact h
  | some openedAt =>
      have hopened : breaker.openedAt ≠ none := by simp [hopen]
      dsimp only
      by_cases helapsed : config.resetTimeout ≤ now - openedAt
      · rw [if_pos helapsed]
        exact ⟨fun _ => by simp, fun _ => h.counted hopened⟩
      · rw [if_neg helapsed]
        exact h

lemma sound_recordFailure (h : breaker.Sound config) :
    (breaker.recordFailure config now).Sound config := by
  simp only [recordFailure]
  by_cases hhalf : breaker.halfOpen = true
  · rw [if_pos hhalf]
    have hcount := h.counted (h.halfOpen_opened hhalf)
    refine ⟨fun hf => absurd hf Bool.false_ne_true, fun _ => ?_⟩
    show config.failureThreshold ≤ breaker.consecutiveFailures + 1
    omega
  · rw [if_neg hhalf]
    by_cases hthreshold : config.failureThreshold ≤ breaker.consecutiveFailures + 1
    · rw [if_pos hthreshold]
      exact ⟨fun hf => absurd hf hhalf, fun _ => hthreshold⟩
    · rw [if_neg hthreshold]
      refine ⟨fun hf => absurd hf hhalf, fun hopen => ?_⟩
      have hcount := h.counted hopen
      omega

/-- **Every failure recorded while the breaker is open restarts its clock**, the probe's and any
    other call's alike. -/
theorem recordFailure_restarts (h : breaker.Sound config) (hopen : breaker.openedAt ≠ none) :
    (breaker.recordFailure config now).openedAt = some now
      ∧ (breaker.recordFailure config now).halfOpen = false := by
  have hcount := h.counted hopen
  simp only [recordFailure]
  by_cases hhalf : breaker.halfOpen = true
  · simp [hhalf]
  · have hthreshold : config.failureThreshold ≤ breaker.consecutiveFailures + 1 := by omega
    simp [hhalf, hthreshold]

end Breaker

/-! ## The calls around it -/

/-- How far one gateway call has come.  A call let through by an open breaker is a probe. -/
inductive Phase where
  | Waiting
  | Refused
  | Running (probe : Bool) (attempts : Nat)
  | Recorded
  deriving DecidableEq, Repr

structure GatewaySystem where
  breaker : Breaker
  now : ℚ
  phase : Nat → Phase

/-- One step of one call, or of the clock. -/
inductive GatewayAction where
  | Allow (call : Nat)
  | Invoke (call : Nat)
  | RecordSuccess (call : Nat)
  | RecordFailure (call : Nat)
  | Tick (elapsed : {d : ℚ // 0 ≤ d})

namespace GatewaySystem

/-- A breaker just constructed, and calls that have not begun. -/
def initial : GatewaySystem := ⟨Breaker.fresh, 0, fun _ => .Waiting⟩

/-- The call asks the breaker. -/
def ask (config : BreakerConfig) (system : GatewaySystem) (call : Nat) : GatewaySystem :=
  let answer := system.breaker.allow config system.now
  { system with
    breaker := answer.2
    phase := Function.update system.phase call
      (if answer.1 then .Running system.breaker.openedAt.isSome 0 else .Refused) }

/-- The call records its outcome. -/
def record (breaker : Breaker) (system : GatewaySystem) (call : Nat) : GatewaySystem :=
  { system with
    breaker := breaker
    phase := Function.update system.phase call .Recorded }

/-- One atomic step.  A step its call is not ready for does nothing: a call asks once, and records
    one outcome, after at least one invocation. -/
def step (config : BreakerConfig) (system : GatewaySystem) (action : GatewayAction) :
    GatewaySystem :=
  match action with
  | .Allow call =>
      match system.phase call with
      | .Waiting => ask config system call
      | _ => system
  | .Invoke call =>
      match system.phase call with
      | .Running probe attempts =>
          { system with
            phase := Function.update system.phase call (.Running probe (attempts + 1)) }
      | _ => system
  | .RecordSuccess call =>
      match system.phase call with
      | .Running _ (_ + 1) => record system.breaker.recordSuccess system call
      | _ => system
  | .RecordFailure call =>
      match system.phase call with
      | .Running _ (_ + 1) =>
          record (system.breaker.recordFailure config system.now) system call
      | _ => system
  | .Tick elapsed => { system with now := system.now + elapsed }

/-- A probe whose outcome is not recorded. -/
def ProbeOut (system : GatewaySystem) (call : Nat) : Prop :=
  ∃ attempts, system.phase call = .Running true attempts

/-- The call asks now and is let through. -/
def Admitted (config : BreakerConfig) (system : GatewaySystem) (call : Nat) : Prop :=
  system.phase call = .Waiting ∧ (system.breaker.allow config system.now).1 = true

/-- The call asks now, with the timeout of an open breaker over: it is let through to probe. -/
def AdmittedAsProbe (config : BreakerConfig) (system : GatewaySystem) (call : Nat) : Prop :=
  system.phase call = .Waiting ∧ system.breaker.Elapsed config system.now

variable {config : BreakerConfig} {system : GatewaySystem}

/-! ### One step -/

/-- An open breaker that lets a call through makes it a probe. -/
lemma admitted_open_iff {call : Nat} (hwaiting : system.phase call = .Waiting) :
    ((system.breaker.allow config system.now).1 = true
        ∧ system.breaker.openedAt.isSome = true)
      ↔ AdmittedAsProbe config system call := by
  refine ⟨fun ⟨hallow, hopen⟩ => ⟨hwaiting, ?_⟩, fun ⟨_, helapsed⟩ => ?_⟩
  · obtain ⟨openedAt, hopened⟩ := Option.isSome_iff_exists.mp hopen
    refine ⟨openedAt, hopened, ?_⟩
    by_contra hrunning
    have hcooling : system.breaker.Cooling config system.now :=
      ⟨openedAt, hopened, lt_of_not_ge hrunning⟩
    rw [Breaker.allow_refuses_iff.mpr hcooling] at hallow
    exact absurd hallow (by decide)
  · obtain ⟨openedAt, hopened, _⟩ := helapsed
    exact ⟨Breaker.allow_admits_of_elapsed ⟨openedAt, hopened, ‹_›⟩, by simp [hopened]⟩

lemma phase_ask (call other : Nat) :
    (ask config system call).phase other
      = if other = call then
          (if (system.breaker.allow config system.now).1
            then .Running system.breaker.openedAt.isSome 0 else .Refused)
        else system.phase other := by
  simp only [ask, Function.update_apply]

lemma phase_record (breaker : Breaker) (call other : Nat) :
    (record breaker system call).phase other
      = if other = call then .Recorded else system.phase other := by
  simp only [record, Function.update_apply]

/-- **What a step can do**: one call asks, one call invokes, one call records, the clock moves, or
    nothing happens. -/
theorem step_cases (config : BreakerConfig) (system : GatewaySystem) (action : GatewayAction) :
    (∃ call, action = .Allow call ∧ system.phase call = .Waiting
      ∧ step config system action = ask config system call)
    ∨ (∃ call probe attempts, system.phase call = .Running probe attempts
      ∧ step config system action = { system with
          phase := Function.update system.phase call (.Running probe (attempts + 1)) })
    ∨ (∃ call probe attempts, system.phase call = .Running probe (attempts + 1)
      ∧ ((action = .RecordSuccess call
          ∧ step config system action = record system.breaker.recordSuccess system call)
        ∨ (action = .RecordFailure call
          ∧ step config system action
            = record (system.breaker.recordFailure config system.now) system call)))
    ∨ (∃ elapsed, action = .Tick elapsed
      ∧ step config system action = { system with now := system.now + elapsed })
    ∨ (step config system action = system
      ∧ ∀ call, action = .Allow call → system.phase call ≠ .Waiting) := by
  cases action with
  | Allow call =>
      by_cases hwaiting : system.phase call = .Waiting
      · exact Or.inl ⟨call, rfl, hwaiting, by simp only [step, hwaiting]⟩
      · refine Or.inr (Or.inr (Or.inr (Or.inr ⟨?_, fun other hother => ?_⟩)))
        · cases hphase : system.phase call with
          | Waiting => exact absurd hphase hwaiting
          | _ => simp only [step, hphase]
        · cases hother
          exact hwaiting
  | Invoke call =>
      cases hphase : system.phase call with
      | Running probe attempts =>
          exact Or.inr (Or.inl ⟨call, probe, attempts, hphase, by simp only [step, hphase]⟩)
      | _ =>
          refine Or.inr (Or.inr (Or.inr (Or.inr ⟨?_, nofun⟩)))
          simp only [step, hphase]
  | RecordSuccess call =>
      by_cases hready : ∃ probe attempts, system.phase call = .Running probe (attempts + 1)
      · obtain ⟨probe, attempts, hphase⟩ := hready
        refine Or.inr (Or.inr (Or.inl ⟨call, probe, attempts, hphase, Or.inl ⟨rfl, ?_⟩⟩))
        simp only [step, hphase]
      · refine Or.inr (Or.inr (Or.inr (Or.inr ⟨?_, nofun⟩)))
        simp only [step]
        split
        · exact absurd ⟨_, _, ‹_›⟩ hready
        · rfl
  | RecordFailure call =>
      by_cases hready : ∃ probe attempts, system.phase call = .Running probe (attempts + 1)
      · obtain ⟨probe, attempts, hphase⟩ := hready
        refine Or.inr (Or.inr (Or.inl ⟨call, probe, attempts, hphase, Or.inr ⟨rfl, ?_⟩⟩))
        simp only [step, hphase]
      · refine Or.inr (Or.inr (Or.inr (Or.inr ⟨?_, nofun⟩)))
        simp only [step]
        split
        · exact absurd ⟨_, _, ‹_›⟩ hready
        · rfl
  | Tick elapsed => exact Or.inr (Or.inr (Or.inr (Or.inl ⟨elapsed, rfl, rfl⟩)))

/-- **What a step does to one call**: nothing, its answer, one more invocation, or its outcome
    recorded. -/
theorem phase_step (config : BreakerConfig) (system : GatewaySystem) (action : GatewayAction)
    (call : Nat) :
    (step config system action).phase call = system.phase call
    ∨ (action = .Allow call ∧ system.phase call = .Waiting
      ∧ (step config system action).phase call
        = if (system.breaker.allow config system.now).1
            then .Running system.breaker.openedAt.isSome 0 else .Refused)
    ∨ ∃ probe attempts, system.phase call = .Running probe attempts
      ∧ ((step config system action).phase call = .Running probe (attempts + 1)
        ∨ (step config system action).phase call = .Recorded) := by
  rcases step_cases config system action with ⟨other, rfl, hwaiting, hstep⟩
    | ⟨other, probe, attempts, hphase, hstep⟩
    | ⟨other, probe, attempts, hphase, ⟨-, hstep⟩ | ⟨-, hstep⟩⟩
    | ⟨elapsed, -, hstep⟩ | ⟨hstep, -⟩
  · by_cases hcall : call = other
    · subst hcall
      exact Or.inr (Or.inl ⟨rfl, hwaiting, by rw [hstep, phase_ask, if_pos rfl]⟩)
    · exact Or.inl (by rw [hstep, phase_ask, if_neg hcall])
  · by_cases hcall : call = other
    · subst hcall
      refine Or.inr (Or.inr ⟨probe, attempts, hphase, Or.inl ?_⟩)
      simp only [hstep, Function.update_self]
    · exact Or.inl (by simp only [hstep, Function.update_of_ne hcall])
  · by_cases hcall : call = other
    · subst hcall
      refine Or.inr (Or.inr ⟨probe, attempts + 1, hphase, Or.inr ?_⟩)
      rw [hstep, phase_record, if_pos rfl]
    · exact Or.inl (by rw [hstep, phase_record, if_neg hcall])
  · by_cases hcall : call = other
    · subst hcall
      refine Or.inr (Or.inr ⟨probe, attempts + 1, hphase, Or.inr ?_⟩)
      rw [hstep, phase_record, if_pos rfl]
    · exact Or.inl (by rw [hstep, phase_record, if_neg hcall])
  · exact Or.inl (by rw [hstep])
  · exact Or.inl (by rw [hstep])

/-- What is recorded is no longer out. -/
lemma not_recorded_of_probeOut {call : Nat} (h : ProbeOut system call) :
    system.phase call ≠ .Recorded := by
  obtain ⟨attempts, hrunning⟩ := h
  simp [hrunning]

/-- **A probe is let through by asking.**  Only its own ask puts a probe out. -/
theorem probeOut_of_step {action : GatewayAction} {call : Nat}
    (h : ProbeOut (step config system action) call) :
    (action = .Allow call ∧ AdmittedAsProbe config system call) ∨ ProbeOut system call := by
  obtain ⟨n, hrunning⟩ := h
  rcases phase_step config system action call with hsame | ⟨rfl, hwaiting, hanswer⟩
    | ⟨probe, attempts, hphase, hnext | hnext⟩
  · exact Or.inr ⟨n, hsame.symm.trans hrunning⟩
  · rw [hanswer] at hrunning
    refine Or.inl ⟨rfl, (admitted_open_iff hwaiting).mp ?_⟩
    split_ifs at hrunning with hallow
    exact ⟨hallow, (Phase.Running.inj hrunning).1⟩
  · rw [(Phase.Running.inj (hnext.symm.trans hrunning)).1] at hphase
    exact Or.inr ⟨attempts, hphase⟩
  · cases hnext.symm.trans hrunning

/-- A probe stays out until its own outcome is recorded. -/
theorem probeOut_step_of_probeOut {call : Nat} (h : ProbeOut system call)
    (action : GatewayAction) :
    ProbeOut (step config system action) call
      ∨ (step config system action).phase call = .Recorded := by
  obtain ⟨n, hrunning⟩ := h
  rcases phase_step config system action call with hsame | ⟨-, hwaiting, -⟩
    | ⟨probe, attempts, hphase, hnext | hnext⟩
  · exact Or.inl ⟨n, hsame.trans hrunning⟩
  · cases hwaiting.symm.trans hrunning
  · obtain ⟨rfl, -⟩ := Phase.Running.inj (hphase.symm.trans hrunning)
    exact Or.inl ⟨attempts + 1, hnext⟩
  · exact Or.inr hnext

/-- A recorded outcome stays recorded. -/
lemma recorded_step {call : Nat} (h : system.phase call = .Recorded) (action : GatewayAction) :
    (step config system action).phase call = .Recorded := by
  rcases phase_step config system action call with hsame | ⟨-, hwaiting, -⟩
    | ⟨probe, attempts, hphase, -⟩
  · exact hsame.trans h
  · cases hwaiting.symm.trans h
  · cases hphase.symm.trans h

/-! ### Executions -/

/-- The system after an execution from a fresh breaker. -/
def after (config : BreakerConfig) (actions : List GatewayAction) : GatewaySystem :=
  Runs.run (step config) initial actions

/-- **What asking and recording keep holds of the breaker in every execution**, if time alone does
    not end it. -/
theorem breaker_invariant {I : ℚ → Breaker → Prop} (hfresh : ∀ now, I now Breaker.fresh)
    (hallow : ∀ now breaker, I now breaker → I now (breaker.allow config now).2)
    (hfailure : ∀ now breaker, I now breaker → I now (breaker.recordFailure config now))
    (hlater : ∀ now later breaker, now ≤ later → I now breaker → I later breaker)
    (actions : List GatewayAction) :
    I (after config actions).now (after config actions).breaker := by
  refine Runs.run_invariant (I := fun s : GatewaySystem => I s.now s.breaker) ?_ actions (hfresh 0)
  intro system action h
  rcases step_cases config system action with ⟨call, -, -, hstep⟩ | ⟨call, _, _, -, hstep⟩
    | ⟨call, _, _, -, ⟨-, hstep⟩ | ⟨-, hstep⟩⟩ | ⟨elapsed, -, hstep⟩ | ⟨hstep, -⟩
  · rw [hstep]
    exact hallow _ _ h
  · rw [hstep]
    exact h
  · rw [hstep]
    exact hfresh _
  · rw [hstep]
    exact hfailure _ _ h
  · rw [hstep]
    exact hlater _ _ _ (le_add_of_nonneg_right elapsed.2) h
  · rw [hstep]
    exact h

/-- The breaker of every execution is sound. -/
theorem sound_after (config : BreakerConfig) (actions : List GatewayAction) :
    (after config actions).breaker.Sound config :=
  breaker_invariant (I := fun _ breaker => breaker.Sound config) (fun _ => Breaker.sound_fresh)
    (fun _ _ => Breaker.sound_allow) (fun _ _ => Breaker.sound_recordFailure)
    (fun _ _ _ _ h => h) actions

/-- A probe that is out was let through at some point of the execution. -/
theorem probeOut_history {actions : List GatewayAction} {call : Nat}
    (h : ProbeOut (after config actions) call) :
    ∃ pre mid, actions = pre ++ .Allow call :: mid
      ∧ AdmittedAsProbe config (after config pre) call := by
  induction actions using List.reverseRecOn with
  | nil =>
      obtain ⟨n, hrunning⟩ := h
      cases hrunning
  | append_singleton actions action ih =>
      rw [after, Runs.run_append] at h
      rcases probeOut_of_step h with ⟨rfl, hadmitted⟩ | hbefore
      · exact ⟨actions, [], rfl, hadmitted⟩
      · obtain ⟨pre, mid, rfl, hadmitted⟩ := ih hbefore
        exact ⟨pre, mid ++ [action], by simp, hadmitted⟩

/-- Along an execution a probe is out until its outcome is recorded. -/
lemma probeOut_run {call : Nat} (h : ProbeOut system call) (actions : List GatewayAction) :
    ProbeOut (Runs.run (step config) system actions) call
      ∨ (Runs.run (step config) system actions).phase call = .Recorded := by
  refine Runs.run_invariant
    (I := fun s => ProbeOut s call ∨ s.phase call = .Recorded) ?_ actions (Or.inl h)
  intro s action hs
  rcases hs with hout | hrecorded
  · exact probeOut_step_of_probeOut hout action
  · exact Or.inr (recorded_step hrecorded action)

/-- The call that asks after the timeout is out from then on. -/
lemma probeOut_ask {call : Nat} (h : AdmittedAsProbe config system call) :
    ProbeOut (step config system (.Allow call)) call := by
  obtain ⟨hallow, hopen⟩ := (admitted_open_iff h.1).mpr h
  have hstep : step config system (.Allow call) = ask config system call := by
    simp only [step, h.1]
  refine ⟨0, ?_⟩
  rw [hstep, phase_ask, if_pos rfl, if_pos hallow, hopen]

/-- **Exactly one probe.**  A call that asks with the timeout over and no probe out is let
    through; and from the moment a probe is let through until its outcome is recorded, no call
    that asks is. -/
def ExactlyOneProbe (config : BreakerConfig) (actions : List GatewayAction) : Prop :=
  (∀ pre c post, actions = pre ++ .Allow c :: post → (∀ b, ¬ ProbeOut (after config pre) b) →
    AdmittedAsProbe config (after config pre) c → Admitted config (after config pre) c)
  ∧ ∀ pre c mid d post, actions = (pre ++ .Allow c :: mid) ++ .Allow d :: post →
      AdmittedAsProbe config (after config pre) c →
      (after config (pre ++ .Allow c :: mid)).phase c ≠ .Recorded →
      ¬ Admitted config (after config (pre ++ .Allow c :: mid)) d

/-- A call that asks while a probe is out finds the breaker open again and its timeout still
    running. -/
def AsksInTurn (config : BreakerConfig) (system : GatewaySystem) (action : GatewayAction) :
    Prop :=
  ∀ d, action = .Allow d → system.phase d = .Waiting → (∃ c, ProbeOut system c) →
    system.breaker.Cooling config system.now

/-- **When one probe goes out at a time, exactly.**  An execution keeps to one probe exactly when
    every call that asks while a probe is out finds the breaker cooling down again. -/
theorem exactlyOneProbe_iff (config : BreakerConfig) (actions : List GatewayAction) :
    ExactlyOneProbe config actions
      ↔ Runs.Along (step config) (AsksInTurn config) initial actions := by
  rw [Runs.along_iff_forall_split]
  refine ⟨fun ⟨_, hone⟩ pre a post hsplit d ha hwaiting ⟨c, hout⟩ => ?_, fun h => ⟨?_, ?_⟩⟩
  · subst ha
    obtain ⟨before, mid, rfl, hprobe⟩ := probeOut_history hout
    have hrefused := hone before c mid d post hsplit hprobe (not_recorded_of_probeOut hout)
    rw [← Breaker.allow_refuses_iff]
    by_contra hallow
    exact hrefused ⟨hwaiting, Bool.of_not_eq_false hallow⟩
  · intro pre c post _ _ hprobe
    exact ⟨hprobe.1, Breaker.allow_admits_of_elapsed hprobe.2⟩
  · rintro pre c mid d post hsplit hprobe hunrecorded ⟨hwaiting, hallow⟩
    -- the probe is still out when the second call asks
    have hout : ProbeOut (after config (pre ++ .Allow c :: mid)) c := by
      have hrun := @probeOut_run config _ c (probeOut_ask hprobe) mid
      have hafter : after config (pre ++ .Allow c :: mid)
          = Runs.run (step config) (step config (after config pre) (.Allow c)) mid := by
        rw [after, Runs.run_append, Runs.run_cons]
        rfl
      rw [hafter] at hunrecorded ⊢
      exact hrun.resolve_right hunrecorded
    have hcooling := h (pre ++ .Allow c :: mid) (.Allow d) post hsplit d rfl hwaiting ⟨c, hout⟩
    have hrefuses := Breaker.allow_refuses_iff.mpr hcooling
    rw [show (Runs.run (step config) initial (pre ++ .Allow c :: mid)) = after config _ from rfl]
      at hrefuses
    rw [hrefuses] at hallow
    exact absurd hallow (by decide)

/-! ### Who is let through in between -/

/-- A step that records nothing. -/
def Unrecording (_system : GatewaySystem) (action : GatewayAction) : Prop :=
  ∀ call, action ≠ .RecordSuccess call ∧ action ≠ .RecordFailure call

lemma elapsed_step {action : GatewayAction} (h : system.breaker.Elapsed config system.now)
    (hunrecording : Unrecording system action) :
    (step config system action).breaker.Elapsed config (step config system action).now := by
  rcases step_cases config system action with ⟨call, -, -, hstep⟩ | ⟨call, _, _, -, hstep⟩
    | ⟨call, _, _, -, ⟨haction, -⟩ | ⟨haction, -⟩⟩ | ⟨elapsed, -, hstep⟩ | ⟨hstep, -⟩
  · rw [hstep]
    exact h.of_openedAt Breaker.allow_openedAt
  · rw [hstep]
    exact h
  · exact absurd haction (hunrecording call).1
  · exact absurd haction (hunrecording call).2
  · rw [hstep]
    have hlater : system.now ≤ system.now + elapsed := by
      have := elapsed.2
      linarith
    exact h.later hlater
  · rw [hstep]
    exact h

/-- **Until an outcome is recorded, every call is a probe.**  Once the timeout is over, however
    many calls have asked, the next one that asks is let through as well. -/
theorem asks_admitted_until_record {actions : List GatewayAction}
    (h : system.breaker.Elapsed config system.now)
    (hunrecording : Runs.Along (step config) Unrecording system actions) (call : Nat)
    (hwaiting : (Runs.run (step config) system actions).phase call = .Waiting) :
    AdmittedAsProbe config (Runs.run (step config) system actions) call := by
  refine ⟨hwaiting, ?_⟩
  induction actions generalizing system with
  | nil => exact h
  | cons action actions ih =>
      exact ih (elapsed_step h hunrecording.1) hunrecording.2 hwaiting

/-! ### Two probes at once -/

/-- A breaker that opens on the first failure. -/
def strictConfig : BreakerConfig where
  failureThreshold := 1
  resetTimeout := 30
  thresholdPositive := le_refl 1

/-- A failure opens the breaker, and the timeout passes. -/
def openedAndElapsed : List GatewayAction :=
  [.Allow 0, .Invoke 0, .RecordFailure 0, .Tick ⟨31, by decide +kernel⟩]

/-- Two calls ask one after the other before either records: both are let through. -/
theorem two_probes_at_once :
    ¬ ExactlyOneProbe strictConfig (openedAndElapsed ++ [.Allow 1, .Allow 2]) := by
  rintro ⟨-, hone⟩
  refine hone openedAndElapsed 1 [] 2 [] rfl ⟨by decide +kernel, 0, ?_, ?_⟩ ?_
    ⟨by decide +kernel, ?_⟩ <;> decide +kernel

end GatewaySystem

end CostPlatform
