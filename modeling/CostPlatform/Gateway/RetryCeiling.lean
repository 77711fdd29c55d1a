import CostPlatform.Gateway.RetryLoop

/-!
# The wall-clock ceiling of an operation

`maxElapsedSeconds` is meant as the ceiling across all attempts.  The loop looks at it when an
attempt has failed, and chooses the delay before the next one afterwards.

`startsWithinCeiling_iff` says when no attempt starts behind the ceiling: exactly when every delay
fits in what is left of it.  Whatever the delays, an attempt starts at most the longest delay late
(`startOf_lt`).
-/

namespace CostPlatform

namespace Operation

variable {policy : RetryPolicy} {wrapped : WrappedCall}

/-! ## When attempts start -/

/-- The invocations of an operation are its attempts up to the last, each at its time. -/
lemma mem_call_invoked {last : Nat} (hbefore : ∀ i < last, Retried policy wrapped i)
    (hnot : ¬ Retried policy wrapped last) {attempt : Nat} {startedAt : ℚ} {outcome : Invocation} :
    .Invoked attempt startedAt outcome ∈ (call policy wrapped true).events
      ↔ ∃ made ≤ last, attempt = made + 1 ∧ startedAt = startOf policy wrapped made
        ∧ outcome = wrapped.outcome (made + 1) := by
  have hlast : .Invoked attempt startedAt outcome ∈ (lastAttempt policy wrapped last).events
      ↔ attempt = last + 1 ∧ startedAt = startOf policy wrapped last
        ∧ outcome = wrapped.outcome (last + 1) := by
    rw [lastAttempt]
    cases wrapped.outcome (last + 1) with
    | Returned => simp
    | Raised => simp
    | Failed error => dsimp only; split_ifs <;> simp
  rw [call_eq_of_last hbefore hnot]
  simp only [List.mem_append, List.mem_flatMap, List.mem_range, retriedEvents, List.mem_cons,
    List.not_mem_nil, or_false, reduceCtorEq, OperationEvent.Invoked.injEq, hlast]
  constructor
  · rintro (⟨made, hmade, hsame⟩ | hsame)
    · exact ⟨made, Nat.le_of_lt hmade, hsame⟩
    · exact ⟨last, le_refl _, hsame⟩
  · rintro ⟨made, hmade, hsame⟩
    rcases Nat.eq_or_lt_of_le hmade with rfl | hlt
    · exact Or.inr hsame
    · exact Or.inl ⟨made, hlt, hsame⟩

/-- No delay is longer than the policy's longest. -/
lemma retryDelay_le {error : GatewayError} {attempt : Nat} {jitter : RetryPolicy.Jitter} {delay : ℚ}
    (h : policy.retryDelay error attempt jitter = some delay) :
    delay ≤ max 0 policy.maxDelaySeconds := by
  unfold RetryPolicy.retryDelay at h
  split at h
  · cases h
    exact (min_le_right _ _).trans (le_max_right _ _)
  · rw [RetryPolicy.delayFor] at h
    split_ifs at h
    cases h
    obtain ⟨draw, hpositive, hle⟩ := jitter
    have hceiling := min_le_right (policy.baseDelaySeconds * 2 ^ (attempt - 1))
      policy.maxDelaySeconds
    rcases le_total 0 (min (policy.baseDelaySeconds * 2 ^ (attempt - 1)) policy.maxDelaySeconds)
      with hnonneg | hneg
    · exact ((mul_le_of_le_one_left hnonneg hle).trans hceiling).trans (le_max_right _ _)
    · exact (mul_nonpos_of_nonneg_of_nonpos hpositive hneg).trans (le_max_left _ _)

/-- **How late an attempt starts at most**: the longest delay behind the ceiling. -/
theorem startOf_lt {made : Nat} (h : Retried policy wrapped made) :
    startOf policy wrapped (made + 1)
      < policy.maxElapsedSeconds + max 0 policy.maxDelaySeconds := by
  obtain ⟨delay, hdelay⟩ := Option.isSome_iff_exists.mp h
  rw [startOf, hdelay, Option.getD_some]
  rw [chosenDelay] at hdelay
  split at hdelay
  · split_ifs at hdelay with hretry
    rw [RetryPolicy.shouldRetry, Bool.and_eq_true, decide_eq_true_eq] at hretry
    have hlongest := max_le (le_max_left 0 policy.maxDelaySeconds) (retryDelay_le hdelay)
    linarith [hretry.2]
  · cases hdelay

/-! ## When they start in time -/

/-- **The ceiling**: no attempt starts later than `maxElapsedSeconds` after the operation. -/
def StartsWithinCeiling (policy : RetryPolicy) (events : List OperationEvent) : Prop :=
  ∀ attempt startedAt outcome, .Invoked attempt startedAt outcome ∈ events →
    startedAt ≤ policy.maxElapsedSeconds

/-- There is a ceiling to speak of, and every delay chosen fits in what is left of it. -/
def DelaysFit (policy : RetryPolicy) (wrapped : WrappedCall) (allowed : Bool) : Prop :=
  allowed = true → 0 ≤ policy.maxElapsedSeconds
    ∧ ∀ made, (∀ i < made, Retried policy wrapped i) →
      ∀ delay ∈ chosenDelay policy wrapped (made + 1) (startOf policy wrapped made),
        startOf policy wrapped made + (wrapped.duration (made + 1)).1 + max 0 delay
          ≤ policy.maxElapsedSeconds

/-- **Every attempt starts within the ceiling exactly when every delay fits.** -/
theorem startsWithinCeiling_iff (policy : RetryPolicy) (wrapped : WrappedCall) (allowed : Bool) :
    StartsWithinCeiling policy (call policy wrapped allowed).events
      ↔ DelaysFit policy wrapped allowed := by
  cases allowed with
  | false =>
      refine iff_of_true (fun attempt startedAt outcome hmem => ?_) nofun
      cases List.mem_singleton.mp hmem
  | true =>
      obtain ⟨last, -, hbefore, hnot, -⟩ := call_eq policy wrapped
      constructor
      · intro h _
        have hstart : ∀ made ≤ last, startOf policy wrapped made ≤ policy.maxElapsedSeconds :=
          fun made hmade =>
            h _ _ _ ((mem_call_invoked hbefore hnot).mpr ⟨made, hmade, rfl, rfl, rfl⟩)
        refine ⟨hstart 0 (Nat.zero_le _), fun made hmade delay hdelay => ?_⟩
        have hretried : Retried policy wrapped made := Option.isSome_of_mem hdelay
        have hlt : made < last := by
          rcases Nat.lt_trichotomy made last with hlt | rfl | hgt
          · exact hlt
          · exact absurd hretried hnot
          · exact absurd (hmade last hgt) hnot
        have hnext := hstart (made + 1) hlt
        rwa [startOf, Option.mem_def.mp hdelay, Option.getD_some] at hnext
      · intro h attempt startedAt outcome hmem
        obtain ⟨hceiling, hfits⟩ := h rfl
        obtain ⟨made, hmade, -, rfl, -⟩ := (mem_call_invoked hbefore hnot).mp hmem
        cases made with
        | zero => exact hceiling
        | succ made =>
            obtain ⟨delay, hdelay⟩ := Option.isSome_iff_exists.mp (hbefore made hmade)
            have hfit := hfits made (fun i hi => hbefore i (hi.trans hmade)) delay hdelay
            rwa [startOf, hdelay, Option.getD_some]

/-- A provider that is rate limited after 59 seconds, asks for eight more, and then returns. -/
def rateLimitedLate : WrappedCall where
  duration _ := ⟨59, by norm_num⟩
  outcome attempt := if attempt = 1 then .Failed (.RateLimit (some 8)) else .Returned
  jitter _ := highestDraw

/-- **The second attempt starts after 67 seconds**, seven behind the ceiling. -/
theorem retry_starts_late :
    ¬ StartsWithinCeiling .default (call .default rateLimitedLate true).events := by
  intro h
  have hlate : .Invoked 2 67 .Returned ∈ (call .default rateLimitedLate true).events := by
    decide +kernel
  exact absurd (h 2 67 .Returned hlate) (by decide +kernel)

end Operation

end CostPlatform
