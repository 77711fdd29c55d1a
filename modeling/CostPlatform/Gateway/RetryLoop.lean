import CostPlatform.Gateway.ResilientGateway
import CostPlatform.Library.Traced

/-!
# One operation of the gateway

`call` is one logical operation with the full resilience stack, followed event by event: whether the
breaker lets it through, each invocation of the wrapped call, the sleep before the next, the outcome
recorded in the breaker and the telemetry record.

`call_eq` is what the loop comes to.  It retries a number of attempts, one after the other, and then
makes a last one, and everything below is read off that: what an operation invokes, records and
emits (`retryDiscipline_iff`), and that it is an execution of the loop that `ResilientGateway` runs
beside other calls (`call_refines`).
-/

namespace CostPlatform

/-- The `code` of each error class. -/
def GatewayError.code : GatewayError → String
  | .Timeout => "model_gateway_timeout"
  | .Unavailable => "model_gateway_unavailable"
  | .RateLimit _ => "model_gateway_rate_limited"
  | .Authentication => "model_gateway_authentication_failed"
  | .BadRequest => "model_gateway_bad_request"
  | .Response => "model_gateway_invalid_response"
  | .CircuitOpen => "model_gateway_circuit_open"
  | .Capability => "model_capability_unsupported"
  | .Base => "model_gateway_error"

/-- What `_emit` says of an operation. -/
structure GatewayCallTelemetry where
  outcome : String
  attempts : Nat
  retryCount : Nat
  errorCode : Option String
  circuitOpen : Bool
  deriving DecidableEq, Repr

/-- One thing an operation does. -/
inductive OperationEvent where
  | Invoked (attempt : Nat) (startedAt : ℚ) (outcome : Invocation)
  | Slept (delay : ℚ)
  | Recorded (failed : Bool)
  | Emitted (record : GatewayCallTelemetry)
  deriving DecidableEq, Repr

/-- What leaves an operation that does not return. -/
inductive Escaped where
  | Gateway (error : GatewayError)
  | Overflow
  | Other
  deriving DecidableEq, Repr

/-- The wrapped call, by attempt: how long it takes, what it comes to, and what is drawn for the
    backoff after it. -/
structure WrappedCall where
  duration : Nat → {d : ℚ // 0 ≤ d}
  outcome : Nat → Invocation
  jitter : Nat → RetryPolicy.Jitter

namespace Operation

/-! ## The loop -/

def record (failed : Bool) : Traced OperationEvent Escaped Unit :=
  .perform (.Recorded failed) (.ok ())

/-- `_emit`. -/
def emit (outcome : String) (attempts : Nat) (errorCode : Option String) (circuitOpen : Bool) :
    Traced OperationEvent Escaped Unit :=
  .perform (.Emitted ⟨outcome, attempts, attempts - 1, errorCode, circuitOpen⟩) (.ok ())

/-- The attempts from the given one on, with the number of those that remain and the time since the
    operation started. -/
def attempts (policy : RetryPolicy) (wrapped : WrappedCall) :
    Nat → Nat → ℚ → Traced OperationEvent Escaped Unit
  | 0, _, _ => .raise (.Gateway .Base)
  | remaining + 1, attempt, startedAt => do
      .perform (.Invoked attempt startedAt (wrapped.outcome attempt)) (.ok ())
      match wrapped.outcome attempt with
      | .Returned => do
          record false
          emit "success" attempt none false
      | .Raised => .raise .Other
      | .Failed error =>
          let elapsed := startedAt + (wrapped.duration attempt).1
          if policy.shouldRetry error attempt elapsed then
            match policy.retryDelay error attempt (wrapped.jitter attempt) with
            | some delay => do
                .perform (.Slept delay) (.ok ())
                -- a delay that is not positive is none
                attempts policy wrapped remaining (attempt + 1) (elapsed + max 0 delay)
            | none => .raise .Overflow
          else do
            record true
            emit "error" attempt (some error.code) false
            .raise (.Gateway error)

/-- `_call`, with the breaker's answer. -/
def call (policy : RetryPolicy) (wrapped : WrappedCall) (allowed : Bool) :
    Traced OperationEvent Escaped Unit :=
  if allowed then attempts policy wrapped policy.maxAttempts 1 0
  else do
    emit "error" 0 (some GatewayError.CircuitOpen.code) true
    .raise (.Gateway .CircuitOpen)

/-! ## What the loop comes to -/

variable (policy : RetryPolicy) (wrapped : WrappedCall)

/-- The delay chosen after an attempt that starts at the given time, if another one follows. -/
def chosenDelay (attempt : Nat) (startedAt : ℚ) : Option ℚ :=
  match wrapped.outcome attempt with
  | .Failed error =>
      if policy.shouldRetry error attempt (startedAt + (wrapped.duration attempt).1) then
        policy.retryDelay error attempt (wrapped.jitter attempt)
      else none
  | _ => none

/-- When an operation starts the next attempt, having retried `made` of them. -/
def startOf : Nat → ℚ
  | 0 => 0
  | made + 1 =>
      startOf made + (wrapped.duration (made + 1)).1
        + max 0 ((chosenDelay policy wrapped (made + 1) (startOf made)).getD 0)

/-- The attempt after `made` others is retried. -/
def Retried (made : Nat) : Prop :=
  (chosenDelay policy wrapped (made + 1) (startOf policy wrapped made)).isSome = true

/-- An attempt that is retried, and the sleep after it. -/
def retriedEvents (made : Nat) : List OperationEvent :=
  [.Invoked (made + 1) (startOf policy wrapped made) (wrapped.outcome (made + 1)),
    .Slept ((chosenDelay policy wrapped (made + 1) (startOf policy wrapped made)).getD 0)]

/-- An attempt that is not retried, and how the operation ends after it. -/
def lastAttempt (made : Nat) : Traced OperationEvent Escaped Unit :=
  let invoked :=
    .Invoked (made + 1) (startOf policy wrapped made) (wrapped.outcome (made + 1))
  match wrapped.outcome (made + 1) with
  | .Returned =>
      ⟨[invoked, .Recorded false, .Emitted ⟨"success", made + 1, made, none, false⟩], .ok ()⟩
  | .Raised => ⟨[invoked], .error .Other⟩
  | .Failed error =>
      if policy.shouldRetry error (made + 1)
          (startOf policy wrapped made + (wrapped.duration (made + 1)).1) then
        ⟨[invoked], .error .Overflow⟩
      else
        ⟨[invoked, .Recorded true, .Emitted ⟨"error", made + 1, made, some error.code, false⟩],
          .error (.Gateway error)⟩

variable {policy wrapped}

/-- No attempt is retried that is the last one allowed. -/
lemma lt_of_retried {made : Nat} (h : Retried policy wrapped made) :
    made + 1 < policy.maxAttempts := by
  rw [Retried, chosenDelay] at h
  split at h
  · split_ifs at h with hretry
    rw [RetryPolicy.shouldRetry, Bool.and_eq_true, Bool.and_eq_true, decide_eq_true_eq] at hretry
    · exact hretry.1.2
    · cases h
  · cases h

/-- An attempt that is not retried is the last. -/
lemma attempts_of_not_retried {made : Nat} (h : ¬ Retried policy wrapped made) (remaining : Nat) :
    attempts policy wrapped (remaining + 1) (made + 1) (startOf policy wrapped made)
      = lastAttempt policy wrapped made := by
  rw [Retried, chosenDelay] at h
  rw [attempts, lastAttempt]
  cases houtcome : wrapped.outcome (made + 1) with
  | Returned => rfl
  | Raised => rfl
  | Failed error =>
      simp only [houtcome] at h
      simp only [Traced.perform_def, Traced.ok_bind]
      split_ifs at h ⊢ with hretry
      · cases hdelay : policy.retryDelay error (made + 1) (wrapped.jitter (made + 1)) with
        | none => rfl
        | some delay => exact absurd (by rw [hdelay]; rfl) h
      · rfl

/-- After one that is, the loop goes on. -/
lemma attempts_of_retried {made : Nat} (h : Retried policy wrapped made) (remaining : Nat) :
    attempts policy wrapped (remaining + 1) (made + 1) (startOf policy wrapped made)
      = let later :=
          attempts policy wrapped remaining (made + 2) (startOf policy wrapped (made + 1))
        ⟨retriedEvents policy wrapped made ++ later.events, later.result⟩ := by
  have hstart : startOf policy wrapped (made + 1) = startOf policy wrapped made
      + (wrapped.duration (made + 1)).1
      + max 0 ((chosenDelay policy wrapped (made + 1) (startOf policy wrapped made)).getD 0) := rfl
  rw [hstart, retriedEvents]
  rw [Retried] at h
  revert h
  rw [attempts, chosenDelay]
  cases houtcome : wrapped.outcome (made + 1) with
  | Returned => exact nofun
  | Raised => exact nofun
  | Failed error =>
      simp only [Traced.perform_def, Traced.ok_bind]
      split_ifs with hretry
      · cases hdelay : policy.retryDelay error (made + 1) (wrapped.jitter (made + 1)) with
        | none => exact nofun
        | some delay => exact fun _ => rfl
      · exact nofun

/-- **What the loop comes to**: retried attempts, one after the other, and a last one. -/
theorem attempts_eq {made : Nat} (hmade : made < policy.maxAttempts) :
    ∃ last, made ≤ last ∧ last < policy.maxAttempts
      ∧ (∀ i, made ≤ i → i < last → Retried policy wrapped i) ∧ ¬ Retried policy wrapped last
      ∧ attempts policy wrapped (policy.maxAttempts - made) (made + 1)
          (startOf policy wrapped made)
        = ⟨(List.range' made (last - made)).flatMap (retriedEvents policy wrapped)
            ++ (lastAttempt policy wrapped last).events,
          (lastAttempt policy wrapped last).result⟩ := by
  obtain ⟨remaining, hremaining⟩ := Nat.exists_eq_add_of_lt hmade
  have hleft : policy.maxAttempts - made = remaining + 1 := by omega
  clear hremaining
  induction remaining generalizing made with
  | zero =>
      have hnot : ¬ Retried policy wrapped made := fun h => by
        have := lt_of_retried h
        omega
      refine ⟨made, le_refl _, hmade, fun i hi hlt => absurd hlt (Nat.not_lt.mpr hi), hnot, ?_⟩
      rw [hleft, attempts_of_not_retried hnot, Nat.sub_self]
      rfl
  | succ remaining ih =>
      by_cases hretried : Retried policy wrapped made
      · obtain ⟨last, hle, hlast, hbefore, hnot, heq⟩ :=
          ih (lt_of_retried hretried) (by omega)
        refine ⟨last, by omega, hlast, fun i hi hlt => ?_, hnot, ?_⟩
        · rcases Nat.eq_or_lt_of_le hi with rfl | hlater
          · exact hretried
          · exact hbefore i hlater hlt
        · have hnext : policy.maxAttempts - (made + 1) = remaining + 1 := by omega
          have hrange : List.range' made (last - made)
              = made :: List.range' (made + 1) (last - (made + 1)) := by
            rw [show last - made = (last - (made + 1)) + 1 by omega, List.range'_succ]
          rw [hnext] at heq
          rw [hleft, attempts_of_retried hretried, heq, hrange]
          simp only [List.flatMap_cons, List.append_assoc]
      · have hnone : ∀ i, made ≤ i → i < made → Retried policy wrapped i := fun i hi hlt =>
          absurd hlt (Nat.not_lt.mpr hi)
        refine ⟨made, le_refl _, hmade, hnone, hretried, ?_⟩
        rw [hleft, attempts_of_not_retried hretried, Nat.sub_self]
        rfl

variable (policy wrapped)

/-- **What an operation comes to**, once it is let through. -/
theorem call_eq :
    ∃ last < policy.maxAttempts, (∀ i < last, Retried policy wrapped i)
      ∧ ¬ Retried policy wrapped last
      ∧ call policy wrapped true
        = ⟨(List.range last).flatMap (retriedEvents policy wrapped)
            ++ (lastAttempt policy wrapped last).events,
          (lastAttempt policy wrapped last).result⟩ := by
  obtain ⟨last, -, hlast, hbefore, hnot, heq⟩ :=
    @attempts_eq policy wrapped 0 policy.atLeastOne
  rw [Nat.sub_zero, Nat.sub_zero, ← List.range_eq_range'] at heq
  exact ⟨last, hlast, fun i hi => hbefore i (Nat.zero_le i) hi, hnot, heq⟩

variable {policy wrapped}

/-- The last attempt is the first that is not retried. -/
theorem call_eq_of_last {last : Nat} (hbefore : ∀ i < last, Retried policy wrapped i)
    (hnot : ¬ Retried policy wrapped last) :
    call policy wrapped true
      = ⟨(List.range last).flatMap (retriedEvents policy wrapped)
          ++ (lastAttempt policy wrapped last).events,
        (lastAttempt policy wrapped last).result⟩ := by
  obtain ⟨other, -, hother, hnotOther, heq⟩ := call_eq policy wrapped
  rcases Nat.lt_trichotomy last other with hlt | rfl | hgt
  · exact absurd (hother last hlt) hnot
  · exact heq
  · exact absurd (hbefore other hgt) hnotOther

/-! ## What an operation invokes, records and emits -/

/-- The attempts invoked, in order. -/
def invocations (events : List OperationEvent) : List Nat :=
  events.filterMap fun
    | .Invoked attempt _ _ => some attempt
    | _ => none

/-- The outcomes recorded in the breaker, in order. -/
def recorded (events : List OperationEvent) : List Bool :=
  events.filterMap fun
    | .Recorded failed => some failed
    | _ => none

/-- The telemetry records emitted, in order. -/
def emitted (events : List OperationEvent) : List GatewayCallTelemetry :=
  events.filterMap fun
    | .Emitted record => some record
    | _ => none

/-- An invocation that no other may follow: it succeeded, or failed with an error that is not
    retryable. -/
def Final : OperationEvent → Prop
  | .Invoked _ _ .Returned => True
  | .Invoked _ _ (.Failed error) => error.retryable = false
  | _ => False

def IsInvocation : OperationEvent → Prop
  | .Invoked _ _ _ => True
  | _ => False

/-- **Retry discipline**, of one operation. -/
structure RetryDiscipline (policy : RetryPolicy) (events : List OperationEvent) (allowed : Bool) :
    Prop where
  bounded : (invocations events).length ≤ policy.maxAttempts
  final : events.Pairwise fun earlier later => Final earlier → ¬ IsInvocation later
  refused : allowed = false → invocations events = []
  recorded : (recorded events).length = if allowed then 1 else 0
  emitted : ∃ record, emitted events = [record] ∧ record.attempts = (invocations events).length

/-- The attempt after `made` others is to be retried on our own backoff, and there is none. -/
def Overflows (policy : RetryPolicy) (wrapped : WrappedCall) (made : Nat) : Prop :=
  ∃ error, wrapped.outcome (made + 1) = .Failed error
    ∧ policy.shouldRetry error (made + 1)
        (startOf policy wrapped made + (wrapped.duration (made + 1)).1) = true
    ∧ 1024 ≤ made ∧ ∀ seconds, error ≠ .RateLimit (some seconds)

/-- No attempt the operation comes to is. -/
def NeverOverflows (policy : RetryPolicy) (wrapped : WrappedCall) (allowed : Bool) : Prop :=
  allowed = true → ∀ made, (∀ i < made, Retried policy wrapped i) → ¬ Overflows policy wrapped made

lemma retryDelay_eq_none_iff {error : GatewayError} {made : Nat} {jitter : RetryPolicy.Jitter} :
    policy.retryDelay error (made + 1) jitter = none
      ↔ 1024 ≤ made ∧ ∀ seconds, error ≠ .RateLimit (some seconds) := by
  unfold RetryPolicy.retryDelay
  split
  · simp
  · next hother =>
      rw [RetryPolicy.delayFor, Nat.add_sub_cancel]
      split_ifs with hfits
      · simp [Nat.not_le.mpr hfits]
      · simp only [true_iff]
        exact ⟨Nat.le_of_not_lt hfits, fun seconds h => hother seconds h⟩

lemma not_retried_of_overflows {made : Nat} (h : Overflows policy wrapped made) :
    ¬ Retried policy wrapped made := by
  obtain ⟨error, houtcome, hretry, hnone⟩ := h
  rw [Retried, chosenDelay, houtcome]
  simp only [if_pos hretry, retryDelay_eq_none_iff.mpr hnone]
  exact Bool.false_ne_true

/-- An operation never overflows exactly when its last attempt does not. -/
lemma neverOverflows_iff {last : Nat} (hbefore : ∀ i < last, Retried policy wrapped i)
    (hnot : ¬ Retried policy wrapped last) :
    NeverOverflows policy wrapped true ↔ ¬ Overflows policy wrapped last := by
  refine ⟨fun h => h rfl last hbefore, fun h _ made hmade hover => ?_⟩
  have hsame : made = last := by
    rcases Nat.lt_trichotomy made last with hlt | heq | hgt
    · exact absurd (hbefore made hlt) (not_retried_of_overflows hover)
    · exact heq
    · exact absurd (hmade last hgt) hnot
  exact h (hsame ▸ hover)

lemma not_final_of_retried {made : Nat} (h : Retried policy wrapped made) :
    ∀ event ∈ retriedEvents policy wrapped made, ¬ Final event := by
  rw [Retried, chosenDelay] at h
  rw [retriedEvents]
  cases houtcome : wrapped.outcome (made + 1) with
  | Returned => simp [houtcome] at h
  | Raised => simp [houtcome] at h
  | Failed error =>
      rw [houtcome] at h
      dsimp only at h
      split_ifs at h with hretry
      · rw [RetryPolicy.shouldRetry, Bool.and_eq_true, Bool.and_eq_true] at hretry
        simp [Final, hretry.1.1]
      · cases h

/-- What the retried attempts leave: an invocation each, and nothing else that counts. -/
lemma invocations_retried (made : Nat) :
    invocations ((List.range made).flatMap (retriedEvents policy wrapped))
      = (List.range made).map (· + 1) := by
  simp [invocations, retriedEvents, List.filterMap_flatMap, List.map_eq_flatMap]

lemma recorded_retried (made : Nat) :
    recorded ((List.range made).flatMap (retriedEvents policy wrapped)) = [] := by
  simp [recorded, retriedEvents, List.filterMap_flatMap]

lemma emitted_retried (made : Nat) :
    emitted ((List.range made).flatMap (retriedEvents policy wrapped)) = [] := by
  simp [emitted, retriedEvents, List.filterMap_flatMap]

/-- The last attempt is one invocation. -/
lemma invocations_lastAttempt (made : Nat) :
    invocations (lastAttempt policy wrapped made).events = [made + 1] := by
  rw [lastAttempt]
  cases wrapped.outcome (made + 1) with
  | Returned => rfl
  | Raised => rfl
  | Failed error => dsimp only; split_ifs <;> rfl

lemma final_lastAttempt (made : Nat) :
    (lastAttempt policy wrapped made).events.Pairwise
      fun earlier later => Final earlier → ¬ IsInvocation later := by
  rw [lastAttempt]
  cases wrapped.outcome (made + 1) with
  | Returned => simp [IsInvocation]
  | Raised => simp
  | Failed error => dsimp only; split_ifs <;> simp [IsInvocation]

/-- A last attempt that overflows leaves neither an outcome nor a record. -/
lemma lastAttempt_of_overflows {made : Nat} (h : Overflows policy wrapped made) :
    recorded (lastAttempt policy wrapped made).events = [] := by
  obtain ⟨error, houtcome, hretry, -⟩ := h
  rw [lastAttempt, houtcome]
  simp only [if_pos hretry]
  rfl

/-- Any other that comes to a success or a gateway error leaves one of each. -/
lemma lastAttempt_of_not_overflows {made : Nat} (hnot : ¬ Retried policy wrapped made)
    (hover : ¬ Overflows policy wrapped made) (hraised : wrapped.outcome (made + 1) ≠ .Raised) :
    (∃ failed, recorded (lastAttempt policy wrapped made).events = [failed])
      ∧ ∃ record, emitted (lastAttempt policy wrapped made).events = [record]
        ∧ record.attempts = made + 1 := by
  rw [lastAttempt]
  cases houtcome : wrapped.outcome (made + 1) with
  | Returned => exact ⟨⟨_, rfl⟩, _, rfl, rfl⟩
  | Raised => exact absurd houtcome hraised
  | Failed error =>
      dsimp only
      split_ifs with hretry
      · refine absurd ⟨error, houtcome, hretry, ?_⟩ hover
        rw [Retried, chosenDelay, houtcome] at hnot
        simp only [if_pos hretry, Bool.not_eq_true, Option.isSome_eq_false_iff,
          Option.isNone_iff_eq_none] at hnot
        exact retryDelay_eq_none_iff.mp hnot
      · exact ⟨⟨_, rfl⟩, _, rfl, rfl⟩

lemma invocations_call {last : Nat} (hbefore : ∀ i < last, Retried policy wrapped i)
    (hnot : ¬ Retried policy wrapped last) :
    invocations (call policy wrapped true).events
      = (List.range last).map (· + 1) ++ [last + 1] := by
  rw [call_eq_of_last hbefore hnot, invocations, List.filterMap_append]
  exact congrArg₂ _ (invocations_retried last) (invocations_lastAttempt last)

lemma recorded_call {last : Nat} (hbefore : ∀ i < last, Retried policy wrapped i)
    (hnot : ¬ Retried policy wrapped last) :
    recorded (call policy wrapped true).events
      = recorded (lastAttempt policy wrapped last).events := by
  rw [call_eq_of_last hbefore hnot, recorded, List.filterMap_append]
  exact congrArg₂ _ (recorded_retried last) rfl

lemma emitted_call {last : Nat} (hbefore : ∀ i < last, Retried policy wrapped i)
    (hnot : ¬ Retried policy wrapped last) :
    emitted (call policy wrapped true).events
      = emitted (lastAttempt policy wrapped last).events := by
  rw [call_eq_of_last hbefore hnot, emitted, List.filterMap_append]
  exact congrArg₂ _ (emitted_retried last) rfl

/-- An operation that overflows records no outcome. -/
theorem recorded_of_overflows {made : Nat} (hbefore : ∀ i < made, Retried policy wrapped i)
    (hover : Overflows policy wrapped made) :
    recorded (call policy wrapped true).events = [] := by
  rw [recorded_call hbefore (not_retried_of_overflows hover)]
  exact lastAttempt_of_overflows hover

/-- No invocation of an operation follows one that is final. -/
lemma final_call {last : Nat} (hbefore : ∀ i < last, Retried policy wrapped i)
    (hnot : ¬ Retried policy wrapped last) :
    (call policy wrapped true).events.Pairwise
      fun earlier later => Final earlier → ¬ IsInvocation later := by
  have hretried : ∀ event ∈ (List.range last).flatMap (retriedEvents policy wrapped),
      ¬ Final event := by
    intro event hevent
    obtain ⟨i, hi, hmem⟩ := List.mem_flatMap.mp hevent
    exact not_final_of_retried (hbefore i (List.mem_range.mp hi)) event hmem
  rw [call_eq_of_last hbefore hnot]
  refine List.pairwise_append.mpr ⟨?_, final_lastAttempt last, ?_⟩
  · refine List.Pairwise.imp_of_mem ?_ (List.pairwise_of_forall fun _ _ => trivial)
    exact fun hearlier _ _ hfinal => absurd hfinal (hretried _ hearlier)
  · exact fun earlier hearlier _ _ hfinal => absurd hfinal (hretried earlier hearlier)

/-- **The retry discipline, exactly.**  Over every sequence of successes and gateway errors, an
    operation keeps it exactly when it never comes to an attempt whose backoff overflows. -/
theorem retryDiscipline_iff (policy : RetryPolicy) (wrapped : WrappedCall) (allowed : Bool)
    (honly : ∀ attempt, wrapped.outcome attempt ≠ .Raised) :
    RetryDiscipline policy (call policy wrapped allowed).events allowed
      ↔ NeverOverflows policy wrapped allowed := by
  cases allowed with
  | false =>
      refine iff_of_true ⟨Nat.zero_le _, ?_, fun _ => rfl, rfl, _, rfl, rfl⟩ nofun
      exact List.pairwise_singleton _ _
  | true =>
      obtain ⟨last, hlast, hbefore, hnot, -⟩ := call_eq policy wrapped
      rw [neverOverflows_iff hbefore hnot]
      constructor
      · intro h hover
        have hone := h.recorded
        rw [recorded_of_overflows hbefore hover] at hone
        cases hone
      · intro hover
        obtain ⟨⟨failed, hfailed⟩, record, hrecord, hattempts⟩ :=
          lastAttempt_of_not_overflows hnot hover (honly _)
        refine ⟨?_, final_call hbefore hnot, nofun, ?_, record, ?_, ?_⟩
        · rw [invocations_call hbefore hnot, List.length_append, List.length_map,
            List.length_range]
          exact hlast
        · rw [recorded_call hbefore hnot, hfailed]
          rfl
        · rw [emitted_call hbefore hnot, hrecord]
        · rw [invocations_call hbefore hnot, hattempts]
          simp

/-- A policy of at most 1025 attempts never comes to one. -/
theorem neverOverflows_of_few (h : policy.maxAttempts ≤ 1025) (wrapped : WrappedCall)
    (allowed : Bool) : NeverOverflows policy wrapped allowed := by
  rintro - made - ⟨error, -, hretry, hmade, -⟩
  rw [RetryPolicy.shouldRetry, Bool.and_eq_true, Bool.and_eq_true, decide_eq_true_eq] at hretry
  have hattempt := hretry.1.2
  omega

/-- The longest backoff is drawn. -/
def highestDraw : RetryPolicy.Jitter := ⟨1, zero_le_one, le_refl 1⟩

/-- A call that times out after ten seconds, and then returns. -/
def timesOutOnce : WrappedCall where
  duration _ := ⟨10, by norm_num⟩
  outcome attempt := if attempt = 1 then .Failed .Timeout else .Returned
  jitter _ := highestDraw

/-- The default policy keeps the discipline over it. -/
theorem timesOutOnce_disciplined :
    RetryDiscipline .default (call .default timesOutOnce true).events true := by
  refine (retryDiscipline_iff .default timesOutOnce true fun attempt => ?_).mpr
    (neverOverflows_of_few (by decide) timesOutOnce true)
  simp only [timesOutOnce]
  split_ifs <;> exact nofun

/-! ### A provider that stays down -/

/-- More attempts than a float has binary orders of magnitude. -/
def stubbornPolicy : RetryPolicy where
  maxAttempts := 1026
  baseDelaySeconds := 1 / 2
  maxDelaySeconds := 0
  maxElapsedSeconds := 60
  atLeastOne := by decide

lemma lowestDraw : (0 : ℚ) ≤ 0 ∧ (0 : ℚ) ≤ 1 := ⟨le_refl 0, zero_le_one⟩

/-- Every attempt is turned away after ten milliseconds. -/
def unreachable : WrappedCall where
  duration _ := ⟨1 / 100, by norm_num⟩
  outcome _ := .Failed .Unavailable
  jitter _ := ⟨0, lowestDraw⟩

lemma chosenDelay_unreachable (attempt : Nat) (startedAt : ℚ) :
    (chosenDelay stubbornPolicy unreachable attempt startedAt).getD 0 = 0 := by
  simp only [chosenDelay, unreachable, RetryPolicy.retryDelay, RetryPolicy.delayFor, zero_mul]
  split_ifs <;> rfl

lemma startOf_unreachable (made : Nat) :
    startOf stubbornPolicy unreachable made = made * (1 / 100) := by
  induction made with
  | zero => simp [startOf]
  | succ made ih =>
      rw [startOf, ih, chosenDelay_unreachable, max_self, add_zero]
      simp only [unreachable]
      push_cast
      linarith

lemma shouldRetry_unreachable {made : Nat} (hmade : made < 1025) :
    stubbornPolicy.shouldRetry .Unavailable (made + 1)
      (startOf stubbornPolicy unreachable made + (unreachable.duration (made + 1)).1) = true := by
  have hcast : (made : ℚ) < 1025 := by exact_mod_cast hmade
  have helapsed : startOf stubbornPolicy unreachable made
      + (unreachable.duration (made + 1)).1 < stubbornPolicy.maxElapsedSeconds := by
    rw [startOf_unreachable]
    simp only [unreachable, stubbornPolicy]
    linarith
  have hattempt : made + 1 < stubbornPolicy.maxAttempts := Nat.succ_lt_succ hmade
  rw [RetryPolicy.shouldRetry, Bool.and_eq_true, Bool.and_eq_true]
  exact ⟨⟨rfl, decide_eq_true hattempt⟩, decide_eq_true helapsed⟩

/-- **The 1025th failure is lost.**  Its backoff cannot be computed; the operation ends without an
    outcome for the breaker and without a record. -/
theorem stubborn_policy_overflows :
    ¬ RetryDiscipline stubbornPolicy (call stubbornPolicy unreachable true).events true := by
  intro h
  have hbefore : ∀ i < 1024, Retried stubbornPolicy unreachable i := by
    intro i hi
    rw [Retried, chosenDelay]
    have hretry := @shouldRetry_unreachable i (by omega)
    rw [show unreachable.outcome (i + 1) = .Failed .Unavailable from rfl]
    simp only [if_pos hretry, RetryPolicy.retryDelay, RetryPolicy.delayFor, Nat.add_sub_cancel,
      if_pos hi, Option.isSome_some]
  have hover : Overflows stubbornPolicy unreachable 1024 :=
    ⟨.Unavailable, rfl, shouldRetry_unreachable (by decide), le_refl _, nofun⟩
  have hone := h.recorded
  rw [recorded_of_overflows hbefore hover] at hone
  cases hone

/-! ## The operation beside other calls -/

open ResilientGateway (step)

/-- The steps of the gateway that an event of one of its calls stands for. -/
def scheduled (wrapped : WrappedCall) (caller : Nat) : OperationEvent → List CallAction
  | .Invoked attempt _ outcome =>
      [.Tick (wrapped.duration attempt), .Invoke caller outcome (wrapped.jitter attempt)]
  | .Slept delay => [.Tick ⟨max 0 delay, le_max_left 0 delay⟩]
  | .Recorded _ => [.Record caller]
  | .Emitted _ => []

/-- Where an operation leaves its call. -/
def settled (x : Traced OperationEvent Escaped Unit) : CallPhase :=
  match x.result with
  | .ok _ => .Done (invocations x.events).length none
  | .error (.Gateway error) => .Done (invocations x.events).length (some error)
  | .error _ => .Aborted

/-- The call is about to make the attempt after `made` others, at its time. -/
def AboutTo (policy : RetryPolicy) (wrapped : WrappedCall) (caller made : Nat)
    (gateway : ResilientGateway) : Prop :=
  ∃ startedAt notBefore, gateway.phase caller = .Attempting startedAt (made + 1) notBefore
    ∧ notBefore ≤ gateway.now ∧ gateway.now - startedAt = startOf policy wrapped made

variable {config : BreakerConfig} {gateway : ResilientGateway} {caller : Nat}

/-- The next invocation, once its time has passed. -/
lemma run_invoked {made : Nat} {startedAt notBefore : ℚ}
    (hphase : gateway.phase caller = .Attempting startedAt (made + 1) notBefore)
    (hawake : notBefore ≤ gateway.now)
    (hnow : gateway.now - startedAt = startOf policy wrapped made) :
    ∃ later, later = gateway.now + (wrapped.duration (made + 1)).1
      ∧ later - startedAt = startOf policy wrapped made + (wrapped.duration (made + 1)).1
      ∧ Runs.run (step config policy) gateway (scheduled wrapped caller
          (.Invoked (made + 1) (startOf policy wrapped made) (wrapped.outcome (made + 1))))
        = { gateway with now := later }.setPhase caller
            (ResilientGateway.afterInvoke policy later startedAt (made + 1)
              (wrapped.jitter (made + 1)) (wrapped.outcome (made + 1))) := by
  have hpositive := (wrapped.duration (made + 1)).2
  refine ⟨_, rfl, by linarith, ?_⟩
  simp only [scheduled, Runs.run_cons, Runs.run_nil, step, hphase]
  rw [if_pos (by linarith)]

/-- **A retried attempt** takes the call to its next. -/
lemma aboutTo_retried {made : Nat} (hretried : Retried policy wrapped made)
    (h : AboutTo policy wrapped caller made gateway) :
    AboutTo policy wrapped caller (made + 1) (Runs.run (step config policy) gateway
      ((retriedEvents policy wrapped made).flatMap (scheduled wrapped caller))) := by
  obtain ⟨startedAt, notBefore, hphase, hawake, hnow⟩ := h
  obtain ⟨later, -, helapsed, hrun⟩ :=
    @run_invoked policy wrapped config _ _ _ _ _ hphase hawake hnow
  obtain ⟨delay, hdelay⟩ := Option.isSome_iff_exists.mp hretried
  have hnext : ResilientGateway.afterInvoke policy later startedAt (made + 1)
      (wrapped.jitter (made + 1)) (wrapped.outcome (made + 1))
        = .Attempting startedAt (made + 2) (later + delay) := by
    rw [chosenDelay] at hdelay
    split at hdelay
    · next error houtcome =>
        split_ifs at hdelay with hretry
        rw [houtcome, ResilientGateway.afterInvoke, helapsed, if_pos hretry, hdelay]
    · cases hdelay
  rw [retriedEvents, List.flatMap_cons, Runs.run_append, hrun, hnext, hdelay]
  have hnotBefore : later + delay ≤ later + max 0 delay := by
    have := le_max_right 0 delay
    linarith
  refine ⟨startedAt, later + delay, ?_, hnotBefore, ?_⟩
  · exact ResilientGateway.phase_setPhase_self _ _ _
  · show later + max 0 delay - startedAt = _
    rw [startOf, hdelay, Option.getD_some]
    linarith

/-- The retried attempts, one after the other. -/
lemma aboutTo_run {made : Nat} (hbefore : ∀ i < made, Retried policy wrapped i)
    (h : AboutTo policy wrapped caller 0 gateway) :
    AboutTo policy wrapped caller made (Runs.run (step config policy) gateway
      (((List.range made).flatMap (retriedEvents policy wrapped)).flatMap
        (scheduled wrapped caller))) := by
  induction made with
  | zero => exact h
  | succ made ih =>
      rw [List.range_succ, List.flatMap_append, List.flatMap_append, Runs.run_append,
        List.flatMap_singleton]
      exact aboutTo_retried (hbefore made (Nat.lt_succ_self made))
        (ih fun i hi => hbefore i (Nat.lt_succ_of_lt hi))

/-- **The last attempt** ends the call. -/
lemma settled_lastAttempt {made : Nat} (hnot : ¬ Retried policy wrapped made)
    (h : AboutTo policy wrapped caller made gateway) :
    (Runs.run (step config policy) gateway
        ((lastAttempt policy wrapped made).events.flatMap (scheduled wrapped caller))).phase caller
      = match (lastAttempt policy wrapped made).result with
        | .ok _ => .Done (made + 1) none
        | .error (.Gateway error) => .Done (made + 1) (some error)
        | .error _ => .Aborted := by
  obtain ⟨startedAt, notBefore, hphase, hawake, hnow⟩ := h
  obtain ⟨later, -, helapsed, hrun⟩ :=
    @run_invoked policy wrapped config _ _ _ _ _ hphase hawake hnow
  have hself (phase) : ({ gateway with now := later }.setPhase caller phase).phase caller = phase :=
    ResilientGateway.phase_setPhase_self _ _ _
  have hdone : ∀ error, (step config policy ({ gateway with now := later }.setPhase caller
      (.Settling (made + 1) error)) (.Record caller)).phase caller = .Done (made + 1) error := by
    intro error
    simp only [step, hself]
    exact ResilientGateway.phase_setPhase_self _ _ _
  rw [lastAttempt]
  rw [Retried, chosenDelay] at hnot
  cases houtcome : wrapped.outcome (made + 1) with
  | Returned =>
      rw [houtcome] at hrun
      dsimp only
      rw [List.flatMap_cons, Runs.run_append, hrun]
      exact hdone none
  | Raised =>
      rw [houtcome] at hrun
      dsimp only
      rw [List.flatMap_cons, Runs.run_append, hrun]
      exact hself .Aborted
  | Failed error =>
      rw [houtcome] at hrun
      simp only [houtcome] at hnot
      rw [ResilientGateway.afterInvoke, helapsed] at hrun
      dsimp only
      split_ifs at hnot hrun ⊢ with hretry
      · have hnone : policy.retryDelay error (made + 1) (wrapped.jitter (made + 1)) = none := by
          simpa using hnot
        rw [List.flatMap_cons, Runs.run_append, hrun, hnone]
        exact hself .Aborted
      · rw [List.flatMap_cons, Runs.run_append, hrun]
        exact hdone (some error)

/-- **An operation is an execution of the gateway.**  A call that waits, with the breaker's own
    answer, ends as the operation does. -/
theorem call_refines (config : BreakerConfig) (policy : RetryPolicy) (wrapped : WrappedCall)
    (hwaiting : gateway.phase caller = .Waiting) :
    (Runs.run (step config policy) gateway (.Begin caller :: .Allow caller ::
        (call policy wrapped (gateway.breaker.allow config gateway.now).1).events.flatMap
          (scheduled wrapped caller))).phase caller
      = if (gateway.breaker.allow config gateway.now).1
          then settled (call policy wrapped true) else .Refused := by
  rw [Runs.run_cons, Runs.run_cons]
  have hself : ∀ (g : ResilientGateway) phase, (g.setPhase caller phase).phase caller = phase :=
    fun g phase => g.phase_setPhase_self caller phase
  have hbegun : step config policy gateway (.Begin caller)
      = gateway.setPhase caller (.Started gateway.now) := by
    simp only [step, hwaiting]
  have hasked : step config policy (gateway.setPhase caller (.Started gateway.now)) (.Allow caller)
      = { gateway.setPhase caller (.Started gateway.now) with
            breaker := (gateway.breaker.allow config gateway.now).2 }.setPhase caller
          (if (gateway.breaker.allow config gateway.now).1
            then .Attempting gateway.now 1 gateway.now else .Refused) := by
    simp only [step, hself]
    rfl
  rw [hbegun, hasked]
  cases (gateway.breaker.allow config gateway.now).1 with
  | false => exact hself _ .Refused
  | true =>
      obtain ⟨last, -, hbefore, hnot, heq⟩ := call_eq policy wrapped
      have hinvocations := invocations_call hbefore hnot
      have hattempts : (invocations (call policy wrapped true).events).length = last + 1 := by
        rw [hinvocations]
        simp
      rw [settled, hattempts, heq, List.flatMap_append, Runs.run_append, if_pos rfl, if_pos rfl]
      refine settled_lastAttempt hnot (aboutTo_run hbefore ?_)
      exact ⟨gateway.now, gateway.now, hself _ _, le_refl _, sub_self _⟩

end Operation

end CostPlatform
