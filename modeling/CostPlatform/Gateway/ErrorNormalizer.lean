import CostPlatform.Gateway.RetryLoop

/-!
# Normalized provider errors

The adapter translates what the provider's client raises into a gateway error, and the loop around
it retries some of these.  The client's classes inherit from each other, so an exception passes
several of the tests, and the first one that it passes decides.  Which ones it passes is the
client's own: what its documentation says of that is `Documented`.

`retried_only_if_transient` is what the two come to: a call is repeated after a timeout, a lost
connection, a rate limit or a failure of the server, and after nothing else.
-/

namespace CostPlatform

/-! ## The client's exceptions -/

/-- The classes that the adapter tests for: the built-in timeout and those of the client. -/
inductive ExceptionClass where
  | TimeoutError
  | APITimeoutError
  | APIConnectionError
  | APIStatusError
  | BadRequestError
  | AuthenticationError
  | PermissionDeniedError
  | NotFoundError
  | UnprocessableEntityError
  | RateLimitError
  | InternalServerError
  deriving DecidableEq, Repr

/-- What a call of the client raises, with what is read of it. -/
structure ProviderException where
  /-- `isinstance(exc, cls)`. -/
  isInstance : ExceptionClass → Bool
  statusCode : Option Int := none
  /-- The seconds of its Retry-After header, where there are any to read. -/
  retryAfter : Option ℚ := none
  /-- The gateway error that it is, if it is one. -/
  gatewayError : Option GatewayError := none

namespace ProviderException

variable (exc : ProviderException)

/-- `_translate`. -/
def translate : GatewayError :=
  if exc.isInstance .APITimeoutError then .Timeout
  else if exc.isInstance .AuthenticationError || exc.isInstance .PermissionDeniedError then
    .Authentication
  else if exc.isInstance .RateLimitError then .RateLimit exc.retryAfter
  else if exc.isInstance .BadRequestError || exc.isInstance .UnprocessableEntityError then
    .BadRequest
  else if exc.isInstance .NotFoundError then .BadRequest
  else if exc.isInstance .APIConnectionError || exc.isInstance .InternalServerError then
    .Unavailable
  else if exc.isInstance .APIStatusError then
    if exc.statusCode.any fun status => 500 ≤ status && status < 600 then .Unavailable
    else .BadRequest
  else if exc.isInstance .TimeoutError then .Timeout
  else .Base

/-- What leaves the normalizer.  A gateway error passes as it is. -/
def normalized : GatewayError := exc.gatewayError.getD exc.translate

/-- The status that stands behind a class of its own. -/
def namedStatuses : List (ExceptionClass × Int) :=
  [(.BadRequestError, 400), (.AuthenticationError, 401), (.PermissionDeniedError, 403),
    (.NotFoundError, 404), (.UnprocessableEntityError, 422), (.RateLimitError, 429)]

/-- What the client documents of its exceptions: a timeout is a lost connection, what has a status
    is a status error, and the classes for single statuses are raised for these only. -/
structure Documented : Prop where
  timeout_isConnection :
    exc.isInstance .APITimeoutError = true → exc.isInstance .APIConnectionError = true
  connection_noStatus : exc.isInstance .APIConnectionError = true → exc.statusCode = none
  builtin_noStatus : exc.isInstance .TimeoutError = true → exc.statusCode = none
  named_status : ∀ named ∈ namedStatuses, exc.isInstance named.1 = true →
    exc.statusCode = some named.2
  server_status : exc.isInstance .InternalServerError = true →
    ∃ status, exc.statusCode = some status ∧ 500 ≤ status
  statusError_iff : exc.isInstance .APIStatusError = true ↔ exc.statusCode.isSome = true

/-- A failure that may be gone at the next try. -/
def Transient : Prop :=
  match exc.gatewayError with
  | some error => error.retryable = true
  | none =>
      exc.isInstance .TimeoutError = true ∨ exc.isInstance .APIConnectionError = true
        ∨ exc.isInstance .RateLimitError = true ∨ exc.isInstance .InternalServerError = true
        ∨ ∃ status, exc.statusCode = some status ∧ 500 ≤ status ∧ status < 600

variable {exc}

/-- What has no status, or another one, is none of the classes for single statuses. -/
lemma Documented.not_named (h : exc.Documented) {named : ExceptionClass × Int}
    (hnamed : named ∈ namedStatuses) (hstatus : exc.statusCode ≠ some named.2) :
    exc.isInstance named.1 = false :=
  Bool.eq_false_iff.mpr fun hinstance => hstatus (h.named_status named hnamed hinstance)

lemma transient_of_retryable (h : exc.Documented) (hgateway : exc.gatewayError = none)
    (hretryable : exc.translate.retryable = true) : exc.Transient := by
  rw [Transient, hgateway]
  rw [translate] at hretryable
  split_ifs at hretryable with htimeout _ hrate _ _ hfailed _ hstatus hbuiltin
  · exact .inr (.inl (h.timeout_isConnection htimeout))
  · cases hretryable
  · exact .inr (.inr (.inl hrate))
  · cases hretryable
  · cases hretryable
  · rcases (Bool.or_eq_true _ _).mp hfailed with hconnection | hserver
    · exact .inr (.inl hconnection)
    · exact .inr (.inr (.inr (.inl hserver)))
  · obtain ⟨status, hcode, hrange⟩ := (Option.any_eq_true _ _).mp hstatus
    simp only [Bool.and_eq_true, decide_eq_true_eq] at hrange
    exact .inr (.inr (.inr (.inr ⟨status, hcode, hrange⟩)))
  · cases hretryable
  · exact .inl hbuiltin
  · cases hretryable

/-- A transient failure is no error of the caller. -/
lemma not_caller_of_transient (h : exc.Documented) (hgateway : exc.gatewayError = none)
    (htransient : exc.Transient) (named : ExceptionClass × Int) (hnamed : named ∈ namedStatuses)
    (hcaller : named.2 < 429) : exc.isInstance named.1 = false := by
  refine h.not_named hnamed fun hstatus => ?_
  rw [Transient, hgateway] at htransient
  rcases htransient with hbuiltin | hconnection | hrate | hserver | ⟨status, hcode, hserver, -⟩
  · cases (h.builtin_noStatus hbuiltin).symm.trans hstatus
  · cases (h.connection_noStatus hconnection).symm.trans hstatus
  · have hsame := (h.named_status (.RateLimitError, 429) (by decide) hrate).symm.trans hstatus
    exact absurd hcaller (by simp [← Option.some.inj hsame])
  · obtain ⟨status, hcode, hserver⟩ := h.server_status hserver
    cases hcode.symm.trans hstatus
    omega
  · cases hcode.symm.trans hstatus
    omega

/-- **The normalized error is retryable exactly for a transient failure.** -/
theorem retryable_normalized_iff (h : exc.Documented) :
    exc.normalized.retryable = true ↔ exc.Transient := by
  cases hgateway : exc.gatewayError with
  | some error => simp [normalized, Transient, hgateway]
  | none =>
      rw [normalized, hgateway, Option.getD_none]
      refine ⟨transient_of_retryable h hgateway, fun htransient => ?_⟩
      have hcaller := not_caller_of_transient h hgateway htransient
      have hauthentication := hcaller (.AuthenticationError, 401) (by decide) (by decide)
      have hpermission := hcaller (.PermissionDeniedError, 403) (by decide) (by decide)
      have hrequest := hcaller (.BadRequestError, 400) (by decide) (by decide)
      have hentity := hcaller (.UnprocessableEntityError, 422) (by decide) (by decide)
      have hfound := hcaller (.NotFoundError, 404) (by decide) (by decide)
      simp only [Transient, hgateway] at htransient
      rw [translate, hauthentication, hpermission, hrequest, hentity, hfound]
      simp only [Bool.or_false, Bool.false_eq_true, if_false]
      split_ifs with _ hrate hfailed hstatusError hstatus hbuiltin
      · rfl
      · rfl
      · rfl
      · rfl
      · -- what is left of a transient failure is the built-in timeout or a status of the server
        simp only [Bool.or_eq_true, not_or] at hfailed
        simp only [hrate, hfailed.1, hfailed.2, Bool.false_eq_true, false_or] at htransient
        have hcoded := h.statusError_iff.mp hstatusError
        rcases htransient with hbuiltin | ⟨status, hcode, hserver⟩
        · simp [h.builtin_noStatus hbuiltin] at hcoded
        · exact absurd (by simp [hcode, hserver]) hstatus
      · rfl
      · simp only [Bool.or_eq_true, not_or] at hfailed
        simp only [hrate, hfailed.1, hfailed.2, hbuiltin, Bool.false_eq_true, false_or]
          at htransient
        obtain ⟨status, hcode, -⟩ := htransient
        exact absurd (h.statusError_iff.mpr (by simp [hcode])) hstatusError

end ProviderException

/-! ## The loop around the adapter -/

/-- What one attempt comes to at the provider. -/
inductive ProviderOutcome where
  | Returned
  | Raised (exc : ProviderException)

/-- A call of the client, by attempt: how long it takes, what it comes to, and what is drawn for the
    backoff after it. -/
structure ProviderCall where
  duration : Nat → {d : ℚ // 0 ≤ d}
  outcome : Nat → ProviderOutcome
  jitter : Nat → RetryPolicy.Jitter

/-- The call as the loop sees it. -/
def ProviderCall.wrapped (call : ProviderCall) : WrappedCall where
  duration := call.duration
  outcome attempt :=
    match call.outcome attempt with
    | .Returned => .Returned
    | .Raised exc => .Failed exc.normalized
  jitter := call.jitter

/-- How often an operation invokes the provider. -/
def ProviderCall.invocations (call : ProviderCall) (policy : RetryPolicy) : Nat :=
  (Operation.invocations (Operation.call policy call.wrapped true).events).length

lemma ProviderCall.invocations_eq {call : ProviderCall} {policy : RetryPolicy} {last : Nat}
    (hbefore : ∀ made < last, Operation.Retried policy call.wrapped made)
    (hnot : ¬ Operation.Retried policy call.wrapped last) :
    call.invocations policy = last + 1 := by
  rw [invocations, Operation.invocations_call hbefore hnot, List.length_append, List.length_map,
    List.length_range, List.length_singleton]

/-- An attempt that is retried failed with a retryable error. -/
lemma ProviderCall.retryable_of_retried {call : ProviderCall} {policy : RetryPolicy} {made : Nat}
    (h : Operation.Retried policy call.wrapped made) :
    ∃ exc, call.outcome (made + 1) = .Raised exc ∧ exc.normalized.retryable = true := by
  rw [Operation.Retried, Operation.chosenDelay] at h
  cases houtcome : call.outcome (made + 1) with
  | Returned => simp [wrapped, houtcome] at h
  | Raised exc =>
      refine ⟨exc, rfl, ?_⟩
      have hfailed : call.wrapped.outcome (made + 1) = .Failed exc.normalized := by
        simp only [wrapped, houtcome]
      rw [hfailed] at h
      dsimp only at h
      split_ifs at h with hretry
      · rw [RetryPolicy.shouldRetry, Bool.and_eq_true, Bool.and_eq_true] at hretry
        exact hretry.1.1
      · cases h

/-- A retryable failure is retried, where neither the attempts nor the time have run out and its
    backoff can be computed. -/
lemma ProviderCall.retried_of_retryable {call : ProviderCall} {policy : RetryPolicy} {made : Nat}
    {exc : ProviderException} (houtcome : call.outcome (made + 1) = .Raised exc)
    (hretryable : exc.normalized.retryable = true) (hleft : made + 1 < policy.maxAttempts)
    (hfew : made < 1024)
    (htime : Operation.startOf policy call.wrapped made + (call.duration (made + 1)).1
      < policy.maxElapsedSeconds) : Operation.Retried policy call.wrapped made := by
  have hfailed : call.wrapped.outcome (made + 1) = .Failed exc.normalized := by
    simp only [wrapped, houtcome]
  have hretry : policy.shouldRetry exc.normalized (made + 1)
      (Operation.startOf policy call.wrapped made + (call.wrapped.duration (made + 1)).1)
        = true := by
    rw [RetryPolicy.shouldRetry, Bool.and_eq_true, Bool.and_eq_true, decide_eq_true_eq,
      decide_eq_true_eq]
    exact ⟨⟨hretryable, hleft⟩, htime⟩
  rw [Operation.Retried, Operation.chosenDelay, hfailed]
  simp only [if_pos hretry]
  by_contra hnone
  have hoverflows := Operation.retryDelay_eq_none_iff.mp
    (Option.not_isSome_iff_eq_none.mp hnone)
  exact absurd hfew (Nat.not_lt.mpr hoverflows.1)

/-- Everything that a call raises is documented. -/
def ProviderCall.Documented (call : ProviderCall) : Prop :=
  ∀ attempt exc, call.outcome attempt = .Raised exc → exc.Documented

/-- **A call is repeated after transient failures only.**  Whatever the policy, every attempt before
    the last failed with one, so any other failure is the last attempt; a transient failure is the
    last only where the attempts or the time have run out, or no backoff can be computed; and an
    operation that raises a gateway error raises that of its last attempt. -/
theorem retried_only_if_transient (policy : RetryPolicy) (call : ProviderCall)
    (hclient : call.Documented) :
    (∀ made, made + 1 < call.invocations policy →
        ∃ exc, call.outcome (made + 1) = .Raised exc ∧ exc.Transient)
      ∧ (∀ made exc, call.outcome (made + 1) = .Raised exc → ¬ exc.Transient →
        call.invocations policy ≤ made + 1)
      ∧ (∀ made exc, call.invocations policy = made + 1 → call.outcome (made + 1) = .Raised exc →
        exc.Transient → policy.maxAttempts ≤ made + 1 ∨ 1024 ≤ made
          ∨ policy.maxElapsedSeconds ≤ Operation.startOf policy call.wrapped made
            + (call.duration (made + 1)).1)
      ∧ ∀ error, (Operation.call policy call.wrapped true).result = .error (.Gateway error) →
        ∃ exc, call.outcome (call.invocations policy) = .Raised exc ∧ error = exc.normalized := by
  obtain ⟨last, -, hbefore, hnot, heq⟩ := Operation.call_eq policy call.wrapped
  have htransient : ∀ made < last, ∃ exc, call.outcome (made + 1) = .Raised exc
      ∧ exc.Transient := by
    intro made hmade
    obtain ⟨exc, hraised, hretryable⟩ := ProviderCall.retryable_of_retried (hbefore made hmade)
    exact ⟨exc, hraised,
      (ProviderException.retryable_normalized_iff (hclient _ exc hraised)).mp hretryable⟩
  rw [ProviderCall.invocations_eq hbefore hnot]
  refine ⟨fun made hmade => htransient made (by omega), fun made exc hraised hlasting => ?_,
    fun made exc hmade hraised hpassing => ?_, fun error herror => ?_⟩
  · by_contra hlater
    obtain ⟨other, hother, hpassing⟩ := htransient made (by omega)
    cases hraised.symm.trans hother
    exact hlasting hpassing
  · obtain rfl : last = made := by omega
    by_contra hwithin
    simp only [not_or, not_le] at hwithin
    obtain ⟨hleft, hfew, htime⟩ := hwithin
    have hretryable :=
      (ProviderException.retryable_normalized_iff (hclient _ exc hraised)).mpr hpassing
    exact hnot (ProviderCall.retried_of_retryable hraised hretryable hleft hfew htime)
  · rw [heq, Operation.lastAttempt] at herror
    cases houtcome : call.outcome (last + 1) with
    | Returned => simp [ProviderCall.wrapped, houtcome] at herror
    | Raised exc =>
        simp only [ProviderCall.wrapped, houtcome] at herror
        split_ifs at herror
        · cases herror
        · cases herror
          exact ⟨exc, rfl, rfl⟩

/-- A timeout of the client. -/
def clientTimeout : ProviderException where
  isInstance cls := cls ∈ [.APITimeoutError, .APIConnectionError]

/-- A model that the provider does not know. -/
def unknownModel : ProviderException where
  isInstance cls := cls ∈ [.NotFoundError, .APIStatusError]
  statusCode := some 404

lemma clientTimeout_documented : clientTimeout.Documented where
  timeout_isConnection _ := rfl
  connection_noStatus _ := rfl
  builtin_noStatus _ := rfl
  named_status := by decide
  server_status := by decide
  statusError_iff := by decide

lemma unknownModel_documented : unknownModel.Documented where
  timeout_isConnection := by decide
  connection_noStatus := by decide
  builtin_noStatus := by decide
  named_status := by decide
  server_status := by decide
  statusError_iff := by decide

lemma tenSeconds_nonneg : (0 : ℚ) ≤ 10 := by norm_num

/-- A call that times out at first, and then is told that there is no such model. -/
def timesOutThenFails : ProviderCall where
  duration _ := ⟨10, tenSeconds_nonneg⟩
  outcome attempt := .Raised (if attempt = 1 then clientTimeout else unknownModel)
  jitter _ := Operation.highestDraw

/-- It is made twice: the timeout is retried, and the other failure is not. -/
theorem timesOutThenFails_twice : timesOutThenFails.invocations .default = 2 := by
  have hdocumented : timesOutThenFails.Documented := by
    intro attempt exc hraised
    cases hraised
    split_ifs
    · exact clientTimeout_documented
    · exact unknownModel_documented
  obtain ⟨-, hlasting, hpassing, -⟩ :=
    retried_only_if_transient .default timesOutThenFails hdocumented
  have hunknown : ¬ unknownModel.Transient := by
    simp [ProviderException.Transient, unknownModel]
  have hfew : timesOutThenFails.invocations .default ≤ 2 := hlasting 1 unknownModel rfl hunknown
  -- it is not made once, for neither the attempts nor the time have run out
  have hmore : timesOutThenFails.invocations .default ≠ 1 := by
    intro hone
    have htimeout : clientTimeout.Transient := by
      simp [ProviderException.Transient, clientTimeout]
    rcases hpassing 0 clientTimeout hone rfl htimeout with hleft | hcomputed | htime
    · exact absurd hleft (by decide)
    · exact absurd hcomputed (by decide)
    · exact absurd htime (by decide +kernel)
  obtain ⟨last, -, hbefore, hnot, -⟩ := Operation.call_eq .default timesOutThenFails.wrapped
  rw [ProviderCall.invocations_eq hbefore hnot] at hfew hmore ⊢
  omega

end CostPlatform
