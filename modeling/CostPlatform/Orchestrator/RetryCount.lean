import CostPlatform.Gateway.RetryLoop
import CostPlatform.Orchestrator.Recorder
import CostPlatform.Orchestrator.Vision

/-!
# Retry counts

A retry is counted twice: by the gateway, whose telemetry says how often it invoked the wrapped
call, and by the orchestrator, which takes the count from the response.  The gateway hands the
response on as the wrapped call made it, and the wrapped call cannot know of the attempts before it.

`callReturning` is the operation of `RetryLoop` with what it returns, and `retriesReach_iff` says
when the two counts agree.
-/

namespace CostPlatform

namespace Operation

variable {α : Type}

/-! ## What an operation returns -/

/-- The attempts, as in `attempts`; the last one returns its answer. -/
def attemptsReturning (policy : RetryPolicy) (wrapped : WrappedCall) (answer : Nat → α) :
    Nat → Nat → ℚ → Traced OperationEvent Escaped α
  | 0, _, _ => .raise (.Gateway .Base)
  | remaining + 1, attempt, startedAt => do
      .perform (.Invoked attempt startedAt (wrapped.outcome attempt)) (.ok ())
      match wrapped.outcome attempt with
      | .Returned => do
          record false
          emit "success" attempt none false
          return answer attempt
      | .Raised => .raise .Other
      | .Failed error =>
          let elapsed := startedAt + (wrapped.duration attempt).1
          if policy.shouldRetry error attempt elapsed then
            match policy.retryDelay error attempt (wrapped.jitter attempt) with
            | some delay => do
                .perform (.Slept delay) (.ok ())
                attemptsReturning policy wrapped answer remaining (attempt + 1)
                  (elapsed + max 0 delay)
            | none => .raise .Overflow
          else do
            record true
            emit "error" attempt (some error.code) false
            .raise (.Gateway error)

/-- `_call`, with the answers of the wrapped call. -/
def callReturning (policy : RetryPolicy) (wrapped : WrappedCall) (answer : Nat → α)
    (allowed : Bool) : Traced OperationEvent Escaped α :=
  if allowed then attemptsReturning policy wrapped answer policy.maxAttempts 1 0
  else do
    emit "error" 0 (some GatewayError.CircuitOpen.code) true
    .raise (.Gateway .CircuitOpen)

/-- The operation without what it returns. -/
def erase (x : Traced OperationEvent Escaped α) : Traced OperationEvent Escaped Unit :=
  ⟨x.events, x.result.map fun _ => ()⟩

variable {policy : RetryPolicy} {wrapped : WrappedCall} {answer : Nat → α}

lemma erase_attemptsReturning (remaining attempt : Nat) (startedAt : ℚ) :
    erase (attemptsReturning policy wrapped answer remaining attempt startedAt)
      = attempts policy wrapped remaining attempt startedAt := by
  induction remaining generalizing attempt startedAt with
  | zero => rfl
  | succ remaining ih =>
      rw [attemptsReturning, attempts]
      cases wrapped.outcome attempt with
      | Returned => rfl
      | Raised => rfl
      | Failed error =>
          dsimp only
          split_ifs
          · cases policy.retryDelay error attempt (wrapped.jitter attempt) with
            | none => rfl
            | some delay =>
                simp only [Traced.perform_def, Traced.ok_bind, ← ih]
                rfl
          · rfl

/-- **The same operation**, but for what it returns. -/
theorem erase_callReturning (allowed : Bool) :
    erase (callReturning policy wrapped answer allowed) = call policy wrapped allowed := by
  cases allowed with
  | false => rfl
  | true => exact erase_attemptsReturning ..

lemma events_callReturning (allowed : Bool) :
    (callReturning policy wrapped answer allowed).events = (call policy wrapped allowed).events :=
  congrArg Traced.events (erase_callReturning allowed)

/-- A retried attempt returns nothing. -/
lemma attemptsReturning_of_retried {made : Nat} (h : Retried policy wrapped made)
    (remaining : Nat) :
    (attemptsReturning policy wrapped answer (remaining + 1) (made + 1)
        (startOf policy wrapped made)).result
      = (attemptsReturning policy wrapped answer remaining (made + 2)
          (startOf policy wrapped (made + 1))).result := by
  have hstart : startOf policy wrapped (made + 1) = startOf policy wrapped made
      + (wrapped.duration (made + 1)).1
      + max 0 ((chosenDelay policy wrapped (made + 1) (startOf policy wrapped made)).getD 0) := rfl
  rw [hstart]
  rw [Retried] at h
  revert h
  rw [attemptsReturning, chosenDelay]
  cases wrapped.outcome (made + 1) with
  | Returned => exact fun h => absurd h Bool.false_ne_true
  | Raised => exact fun h => absurd h Bool.false_ne_true
  | Failed error =>
      simp only [Traced.perform_def, Traced.ok_bind]
      split_ifs
      · cases policy.retryDelay error (made + 1) (wrapped.jitter (made + 1)) with
        | none => exact fun h => absurd h Bool.false_ne_true
        | some delay => exact fun _ => rfl
      · exact fun h => absurd h Bool.false_ne_true

/-- After any number of them, the attempt that succeeds returns its own answer. -/
lemma attemptsReturning_of_returned {last : Nat} (hbefore : ∀ i < last, Retried policy wrapped i)
    (hreturned : wrapped.outcome (last + 1) = .Returned) (made : Nat) (hmade : made ≤ last)
    (remaining : Nat) (hremaining : last < made + remaining) :
    (attemptsReturning policy wrapped answer remaining (made + 1)
      (startOf policy wrapped made)).result = .ok (answer (last + 1)) := by
  induction remaining generalizing made with
  | zero => omega
  | succ remaining ih =>
      rcases Nat.eq_or_lt_of_le hmade with rfl | hlt
      · rw [attemptsReturning, hreturned]
        rfl
      · rw [attemptsReturning_of_retried (hbefore made hlt)]
        exact ih (made + 1) hlt (by omega)

lemma not_retried_of_returned {last : Nat} (hreturned : wrapped.outcome (last + 1) = .Returned) :
    ¬ Retried policy wrapped last := by
  rw [Retried, chosenDelay, hreturned]
  exact Bool.false_ne_true

/-- **An operation that succeeds after retries**: its answer is that of the last invocation, and the
    one record it emits counts the others. -/
theorem callReturning_of_returned {last : Nat} (hbefore : ∀ i < last, Retried policy wrapped i)
    (hreturned : wrapped.outcome (last + 1) = .Returned) :
    (callReturning policy wrapped answer true).result = .ok (answer (last + 1))
      ∧ (invocations (callReturning policy wrapped answer true).events).length = last + 1
      ∧ emitted (callReturning policy wrapped answer true).events
        = [⟨"success", last + 1, last, none, false⟩] := by
  have hnot := @not_retried_of_returned policy _ _ hreturned
  obtain ⟨other, hother, hretried, hnotOther, -⟩ := call_eq policy wrapped
  have hlast : last < policy.maxAttempts := by
    rcases Nat.lt_or_ge other last with hlt | hge
    · exact absurd (hbefore other hlt) hnotOther
    · exact hge.trans_lt hother
  refine ⟨?_, ?_, ?_⟩
  · exact attemptsReturning_of_returned hbefore hreturned 0 (Nat.zero_le last) policy.maxAttempts
      (by omega)
  · rw [events_callReturning, invocations_call hbefore hnot]
    simp
  · rw [events_callReturning, emitted_call hbefore hnot, lastAttempt, hreturned]
    rfl

end Operation

/-! ## The resilient gateway of an orchestrator -/

/-- One operation of the gateway: the wrapped call, its answers by attempt, and whether the breaker
    lets it through. -/
structure GatewayOperation where
  wrapped : WrappedCall
  answer : Nat → TextGenerationResponse
  allowed : Bool := true

/-- The operation with the full resilience stack. -/
def GatewayOperation.run (policy : RetryPolicy) (operation : GatewayOperation) :
    Traced OperationEvent Escaped TextGenerationResponse :=
  Operation.callReturning policy operation.wrapped operation.answer operation.allowed

/-- What leaves an operation, as the orchestrator tells it apart. -/
def Escaped.toFailure : Escaped → Failure
  | .Gateway error => .ModelGatewayError error.code
  | .Overflow => .Other "OverflowError"
  | .Other => .Other "Exception"

namespace Collaborators

/-- The orchestrator with a resilient gateway around what its calls come to. -/
def resilient (c : Collaborators) (policy : RetryPolicy)
    (operations : ModelRole → ModelRequest → GatewayOperation) : Collaborators :=
  { c with
    gateway := fun role modelRequest =>
      match ((operations role modelRequest).run policy).result with
      | .ok response => .ok response
      | .error escaped => .error escaped.toFailure }

/-! ## The answer of an execution -/

variable {c : Collaborators} {request : OrchestrationRequest} {principal : Principal}
  {requestId traceId : String} {result : ExecutionResult}

/-- Where a model answers, nothing is on record yet. -/
lemma callModel_events_of_ok {plan : ExecutionPlan} {modelRequest : ModelRequest}
    {answered : Answered} (h : (c.callModel plan request modelRequest).result = .ok answered)
    {record : TelemetryRecord} :
    ExecutionEvent.Record record ∉ (c.callModel plan request modelRequest).events := by
  rcases callModel_result_iff.mp h with
    ⟨response, hprimary, -⟩ | ⟨code, entry, response, hprimary, hfallback, hsecond, -⟩
  · simp [callModel, hprimary]
  · simp [callModel, hprimary, hfallback, hsecond]

/-- A delivered result normalizes the answer, and is the one that is recorded. -/
lemma deliver_of_ok {answered : Answered} (h : (c.deliver request answered).result = .ok result) :
    (∃ decision, c.normalize answered request.imageCount decision = .ok result)
      ∧ ∀ record, ExecutionEvent.Record record ∈ (c.deliver request answered).events →
        record.result = some result := by
  obtain ⟨decision, hguard, hnormal⟩ := deliver_result_eq_ok.mp h
  refine ⟨⟨decision, hnormal⟩, fun record hrecord => ?_⟩
  simp only [deliver, hguard, Traced.silent_def, Traced.ok_bind, hnormal, List.nil_append]
    at hrecord
  rcases Traced.mem_bind_events.mp hrecord with hrecord | ⟨_, -, hreturn⟩
  · rw [eq_of_mem_record hrecord]
  · cases hreturn

/-- A call that the gateway answers is the one that answers the model stage. -/
lemma response_of_calls {plan : ExecutionPlan} {primaryRequest modelRequest : ModelRequest}
    {role : ModelRole} {answered : Answered} {response : TextGenerationResponse}
    (hcalls : c.Calls request plan primaryRequest role modelRequest)
    (hanswered : (c.callModel plan request primaryRequest).result = .ok answered)
    (hanswer : c.gateway role modelRequest = .ok response) : answered.response = response := by
  rcases callModel_result_iff.mp hanswered with
    ⟨first, hprimary, rfl⟩ | ⟨code, entry, second, hprimary, hfallback, hsecond, rfl⟩
  · cases role with
    | Primary =>
        obtain rfl : modelRequest = primaryRequest := hcalls
        exact Except.ok.inj (hprimary.symm.trans hanswer)
    | Fallback =>
        obtain ⟨⟨code, hfailed⟩, -⟩ := hcalls
        cases hprimary.symm.trans hfailed
  · cases role with
    | Primary =>
        obtain rfl : modelRequest = primaryRequest := hcalls
        cases hprimary.symm.trans hanswer
    | Fallback =>
        obtain ⟨-, other, hother, rfl⟩ := hcalls
        cases hfallback.symm.trans hother
        exact Except.ok.inj (hsecond.symm.trans hanswer)

/-- **Who answered an execution.**  A call of it that the gateway answers is the one its result
    normalizes, and the result is on every record. -/
theorem result_of_modelCall {role : ModelRole} {modelRequest : ModelRequest}
    {response : TextGenerationResponse}
    (hresult : (c.execute request principal requestId traceId).result = .ok result)
    (hcalled : .ModelCall role modelRequest
      ∈ (c.execute request principal requestId traceId).events)
    (hanswer : c.gateway role modelRequest = .ok response) :
    (∃ plan fallbackUsed decision,
        c.normalize ⟨response, plan, fallbackUsed⟩ request.imageCount decision = .ok result)
      ∧ ∀ record, .Record record ∈ (c.execute request principal requestId traceId).events →
        record.result = some result := by
  obtain ⟨plan, hplan, hblock, model, hmodel, haccepted, primaryRequest, hbuilt, hcalls⟩ :=
    modelCall_mem_execute.mp hcalled
  have hplan : c.plan request principal requestId traceId = .ok plan := hplan
  simp only [execute, executePlan, hplan, Traced.silent_def, Traced.ok_bind, if_neg hblock, hmodel,
    guardInput_of_accepted haccepted, hbuilt, List.nil_append] at hresult ⊢
  obtain ⟨answered, hanswered, hdeliver⟩ := Traced.bind_result_eq_ok.mp hresult
  obtain ⟨⟨decision, hnormal⟩, hrecorded⟩ := deliver_of_ok hdeliver
  refine ⟨⟨answered.plan, answered.fallbackUsed, decision, ?_⟩, fun record hrecord => ?_⟩
  · rw [← response_of_calls hcalls hanswered hanswer]
    exact hnormal
  · rcases Traced.mem_bind_events.mp hrecord with hcall | ⟨other, hother, hrecord⟩
    · exact absurd hcall (callModel_events_of_ok hanswered)
    · cases hanswered.symm.trans hother
      exact hrecorded record hrecord

/-! ## The two counts -/

lemma normalize_retryCount {answered : Answered} {imageCount : Int} {decision : Option String}
    (h : c.normalize answered imageCount decision = .ok result) :
    result.retryCount = max (answered.response.attempts - 1) 0 := by
  obtain ⟨quality, -, h⟩ := Fallible.bind_eq_ok.mp h
  cases Except.ok.inj h
  rfl

/-- A usage event counts the retries of the recorded result. -/
lemma retryCount_of_recorded {context : RecordingContext} {record : TelemetryRecord}
    {row : UsageEventRow × CostEvent} (h : recordExecution context record = some row) :
    row.1.retryCount = record.result.map ExecutionResult.retryCount := by
  obtain ⟨cost, -, rfl⟩ := Option.map_eq_some_iff.mp h
  rfl

/-- The result and the recorded usage of an execution count the attempts of its answer. -/
lemma retryCounts_of_modelCall {role : ModelRole} {modelRequest : ModelRequest}
    {response : TextGenerationResponse}
    (hresult : (c.execute request principal requestId traceId).result = .ok result)
    (hcalled : .ModelCall role modelRequest
      ∈ (c.execute request principal requestId traceId).events)
    (hanswer : c.gateway role modelRequest = .ok response) :
    result.retryCount = max (response.attempts - 1) 0
      ∧ ∀ context, ∀ row ∈ recordedRows context (c.execute request principal requestId traceId),
        row.1.retryCount = some result.retryCount := by
  obtain ⟨⟨plan, fallbackUsed, decision, hnormal⟩, hrecorded⟩ :=
    result_of_modelCall hresult hcalled hanswer
  refine ⟨normalize_retryCount hnormal, fun context row hrow => ?_⟩
  obtain ⟨record, hrecord, hrow⟩ := mem_recordedRows.mp hrow
  rw [retryCount_of_recorded hrow, hrecorded record hrecord, Option.map_some]

/-- **Retries reach the usage record**, for one operation of the gateway: its response carries the
    number of its invocations, and where the operation answers an execution, the result and the
    recorded usage count its retries as its own telemetry does. -/
structure RetriesReach (c : Collaborators) (policy : RetryPolicy)
    (operations : ModelRole → ModelRequest → GatewayOperation) (role : ModelRole)
    (modelRequest : ModelRequest) : Prop where
  returned : ∀ response, ((operations role modelRequest).run policy).result = .ok response →
    response.attempts
      = (Operation.invocations ((operations role modelRequest).run policy).events).length
  reported : ∀ request principal requestId traceId result,
    ((c.resilient policy operations).execute request principal requestId traceId).result
        = .ok result →
    .ModelCall role modelRequest
        ∈ ((c.resilient policy operations).execute request principal requestId traceId).events →
    ∀ call ∈ Operation.emitted ((operations role modelRequest).run policy).events,
      result.retryCount = call.retryCount
        ∧ ∀ context, ∀ row ∈ recordedRows context
            ((c.resilient policy operations).execute request principal requestId traceId),
          row.1.retryCount = some (call.retryCount : Int)

/-- **Retries reach the usage record exactly when the answer already carries their number.**  An
    adapter's answer carries one attempt, so they do exactly when there are none. -/
theorem retriesReach_iff (c : Collaborators) (policy : RetryPolicy)
    (operations : ModelRole → ModelRequest → GatewayOperation) (role : ModelRole)
    (modelRequest : ModelRequest) (last : Nat)
    (hallowed : (operations role modelRequest).allowed = true)
    (hretried : ∀ i < last, Operation.Retried policy (operations role modelRequest).wrapped i)
    (hreturned : (operations role modelRequest).wrapped.outcome (last + 1) = .Returned) :
    (c.RetriesReach policy operations role modelRequest
        ↔ ((operations role modelRequest).answer (last + 1)).attempts = last + 1)
      ∧ (((operations role modelRequest).answer (last + 1)).attempts = 1 →
        (c.RetriesReach policy operations role modelRequest ↔ last = 0)) := by
  have hrun : (operations role modelRequest).run policy
      = Operation.callReturning policy (operations role modelRequest).wrapped
          (operations role modelRequest).answer true := by
    rw [GatewayOperation.run, hallowed]
  obtain ⟨hresult, hlength, hemitted⟩ := @Operation.callReturning_of_returned _ policy
    (operations role modelRequest).wrapped (operations role modelRequest).answer last hretried
    hreturned
  rw [← hrun] at hresult hlength hemitted
  have hiff : c.RetriesReach policy operations role modelRequest
      ↔ ((operations role modelRequest).answer (last + 1)).attempts = last + 1 := by
    constructor
    · intro hreach
      have hattempts := hreach.returned _ hresult
      rw [hlength] at hattempts
      exact_mod_cast hattempts
    · intro hattempts
      refine ⟨fun response hresponse => ?_, ?_⟩
      · cases hresult.symm.trans hresponse
        rw [hattempts, hlength]
        norm_cast
      · intro request principal requestId traceId result hexecuted hcalled call hcall
        rw [hemitted, List.mem_singleton] at hcall
        subst hcall
        have hanswer : (c.resilient policy operations).gateway role modelRequest
            = .ok ((operations role modelRequest).answer (last + 1)) := by
          simp only [resilient, hresult]
        obtain ⟨hcount, hrows⟩ := retryCounts_of_modelCall hexecuted hcalled hanswer
        have hlast : result.retryCount = (last : Int) := by
          rw [hcount, hattempts]
          omega
        exact ⟨hlast, fun context row hrow => hlast ▸ hrows context row hrow⟩
  refine ⟨hiff, fun hdefault => hiff.trans ?_⟩
  rw [hdefault]
  omega

end Collaborators

/-! ## A call that is retried once -/

lemma timesOutOnce_retried : ∀ i < 1, Operation.Retried .default Operation.timesOutOnce i := by
  intro i hi
  obtain rfl : i = 0 := by omega
  rw [Operation.Retried]
  decide +kernel

/-- A gateway whose calls time out once, around an adapter that counts the attempts itself. -/
def countingAdapter (_role : ModelRole) (modelRequest : ModelRequest) : GatewayOperation where
  wrapped := Operation.timesOutOnce
  answer attempt := { mockResponse modelRequest with attempts := attempt }

/-- The counts of such an adapter agree. -/
theorem countingAdapter_reaches :
    smallDeployment.RetriesReach .default countingAdapter .Primary pricedRequest :=
  (Collaborators.retriesReach_iff smallDeployment .default countingAdapter .Primary pricedRequest 1
    rfl timesOutOnce_retried rfl).1.mpr rfl

/-- The same around an adapter that leaves the count at its default. -/
def plainAdapter (_role : ModelRole) (modelRequest : ModelRequest) : GatewayOperation where
  wrapped := Operation.timesOutOnce
  answer _ := mockResponse modelRequest

/-- The execution over it. -/
def retriedExecution : Execution ExecutionResult :=
  (smallDeployment.resilient .default plainAdapter).execute supplyChainRequest engineer "r1" "r1"

/-- **A retry that is not on record.**  The gateway's telemetry counts one; the result and the usage
    event of the execution that it answers count none. -/
theorem retry_not_recorded :
    .ModelCall .Primary pricedRequest ∈ retriedExecution.events
      ∧ (Operation.emitted ((plainAdapter .Primary pricedRequest).run .default).events).map
          GatewayCallTelemetry.retryCount = [1]
      ∧ (retriedExecution.result.toOption.map ExecutionResult.retryCount) = some 0
      ∧ (recordedRows someContext retriedExecution).map (fun row => row.1.retryCount) = [some 0]
      ∧ ¬ smallDeployment.RetriesReach .default plainAdapter .Primary pricedRequest := by
  refine ⟨by decide +kernel, by decide +kernel, by decide +kernel, by decide +kernel, ?_⟩
  intro hreach
  obtain ⟨hresult, hlength, -⟩ := @Operation.callReturning_of_returned _ .default
    Operation.timesOutOnce (fun _ => mockResponse pricedRequest) 1 timesOutOnce_retried rfl
  have hattempts := hreach.returned _ hresult
  exact absurd (hattempts.trans (congrArg Nat.cast hlength)) (by decide)

end CostPlatform
