import CostPlatform.Gateway.CallerDefects

/-!
# The breaker's representation

The breaker keeps its state in three fields, each written by some of its operations and read by
others.  Here it is taken by itself, used in any order and with any clock, and the fields are tied
to what they stand for: the failures recorded since the last success.

`representation_invariant` says what the fields mean after every sequence of uses, and that a
breaker leaves the closed state at one step only, the one that records the failure that makes the
threshold.  `after_uses` carries this to the breaker behind every gateway.
-/

namespace CostPlatform

namespace Breaker

/-- One use of the breaker, with what its clock reads. -/
inductive Use where
  | Allow (now : ℚ)
  | RecordSuccess
  | RecordFailure (now : ℚ)
  deriving DecidableEq, Repr

/-- Whether the outcome a use records is a failure, if it records one. -/
def Use.recorded : Use → Option Bool
  | .Allow _ => none
  | .RecordSuccess => some false
  | .RecordFailure _ => some true

def use (config : BreakerConfig) (breaker : Breaker) : Use → Breaker
  | .Allow now => (breaker.allow config now).2
  | .RecordSuccess => breaker.recordSuccess
  | .RecordFailure now => breaker.recordFailure config now

/-- The breaker after a sequence of uses. -/
def after (config : BreakerConfig) (uses : List Use) : Breaker :=
  Runs.run (use config) fresh uses

/-- The failures recorded since the last recorded success. -/
def failuresSinceSuccess (uses : List Use) : Nat :=
  Streak.trailing (fun failed : Bool => failed) (uses.filterMap Use.recorded)

variable {config : BreakerConfig} {breaker : Breaker}

/-! ## What one use keeps -/

lemma sound_use (h : breaker.Sound config) (next : Use) :
    (use config breaker next).Sound config := by
  cases next with
  | Allow now => exact sound_allow h
  | RecordSuccess => exact sound_fresh
  | RecordFailure now => exact sound_recordFailure h

lemma tight_use (h : breaker.Tight config) (next : Use) :
    (use config breaker next).Tight config := by
  cases next with
  | Allow now => exact tight_allow h
  | RecordSuccess => exact tight_fresh
  | RecordFailure now => exact tight_recordFailure

/-- **One use counts what it records.** -/
lemma consecutiveFailures_use (next : Use) :
    (use config breaker next).consecutiveFailures
      = next.recorded.toList.foldl (Streak.tally fun failed => failed)
          breaker.consecutiveFailures := by
  cases next with
  | Allow now => exact allow_consecutiveFailures
  | RecordSuccess => rfl
  | RecordFailure now => exact recordFailure_consecutiveFailures

/-! ## What a sequence of uses keeps -/

lemma after_append (config : BreakerConfig) (uses : List Use) (next : Use) :
    after config (uses ++ [next]) = use config (after config uses) next := by
  rw [after, Runs.run_append]
  rfl

lemma sound_uses (config : BreakerConfig) (uses : List Use) : (after config uses).Sound config :=
  Runs.run_invariant (I := Sound config) (fun _ next h => sound_use h next) uses sound_fresh

lemma tight_uses (config : BreakerConfig) (uses : List Use) : (after config uses).Tight config :=
  Runs.run_invariant (I := Tight config) (fun _ next h => tight_use h next) uses tight_fresh

lemma failuresSinceSuccess_append (uses : List Use) (next : Use) :
    failuresSinceSuccess (uses ++ [next])
      = next.recorded.toList.foldl (Streak.tally fun failed => failed)
          (failuresSinceSuccess uses) := by
  rw [failuresSinceSuccess, List.filterMap_append, Streak.trailing, List.foldl_append]
  cases hrecorded : next.recorded with
  | none => simp [hrecorded, failuresSinceSuccess, Streak.trailing]
  | some failed => simp [hrecorded, failuresSinceSuccess, Streak.trailing]

/-- **The counter is the failures since the last success**, whatever the state. -/
theorem consecutiveFailures_uses (config : BreakerConfig) (uses : List Use) :
    (after config uses).consecutiveFailures = failuresSinceSuccess uses := by
  induction uses using List.reverseRecOn with
  | nil => rfl
  | append_singleton uses next ih =>
      rw [after_append, consecutiveFailures_use, ih, failuresSinceSuccess_append]

/-- **Closed, exactly while the failures since the last success are below the threshold.** -/
theorem state_closed_iff (config : BreakerConfig) (uses : List Use) :
    (after config uses).state = .Closed
      ↔ failuresSinceSuccess uses < config.failureThreshold := by
  rw [state_eq_closed_iff, ← consecutiveFailures_uses config]
  refine ⟨tight_uses config uses, fun hfew => ?_⟩
  by_contra hopen
  exact absurd ((sound_uses config uses).counted hopen) (Nat.not_le_of_lt hfew)

/-- **A closed breaker opens at the failure that makes the threshold**, and at no other use. -/
theorem leaves_closed_iff (config : BreakerConfig) (uses : List Use) (next : Use) :
    ((after config uses).state = .Closed ∧ (after config (uses ++ [next])).state ≠ .Closed)
      ↔ (∃ now, next = .RecordFailure now)
        ∧ failuresSinceSuccess (uses ++ [next]) = config.failureThreshold := by
  have hpositive := config.thresholdPositive
  rw [Ne, state_closed_iff, state_closed_iff, failuresSinceSuccess_append]
  cases next with
  | Allow now =>
      simp only [Use.recorded, Option.toList_none, List.foldl_nil, reduceCtorEq, exists_false,
        false_and, iff_false]
      exact fun h => h.2 h.1
  | RecordSuccess =>
      simp only [Use.recorded, Option.toList_some, List.foldl_cons, List.foldl_nil, Streak.tally,
        reduceCtorEq, exists_false, false_and, iff_false]
      exact fun h => h.2 hpositive
  | RecordFailure now =>
      simp only [Use.recorded, Option.toList_some, List.foldl_cons, List.foldl_nil, Streak.tally,
        if_true, Use.RecordFailure.injEq, exists_eq', true_and]
      omega

/-- **The representation invariant.**  After every sequence of uses: a closed breaker has counted
    fewer failures than the threshold, a half-open one knows when it opened, and it left the closed
    state exactly where the failure was recorded that is the threshold-th since the last success. -/
theorem representation_invariant (config : BreakerConfig) (uses : List Use) :
    ((after config uses).state = .Closed →
        (after config uses).consecutiveFailures < config.failureThreshold)
      ∧ ((after config uses).state = .HalfOpen ∨ (after config uses).halfOpen = true →
          ∃ openedAt, (after config uses).openedAt = some openedAt)
      ∧ ∀ next, ((after config uses).state = .Closed
            ∧ (use config (after config uses) next).state ≠ .Closed)
          ↔ (∃ now, next = .RecordFailure now)
            ∧ failuresSinceSuccess (uses ++ [next]) = config.failureThreshold := by
  refine ⟨fun hclosed => ?_, fun hhalf => ?_, fun next => ?_⟩
  · exact tight_uses config uses (state_eq_closed_iff.mp hclosed)
  · have hflag : (after config uses).halfOpen = true := hhalf.elim state_eq_halfOpen id
    exact Option.ne_none_iff_exists'.mp ((sound_uses config uses).halfOpen_opened hflag)
  · rw [← after_append]
    exact leaves_closed_iff config uses next

end Breaker

/-! ## The breaker behind the gateway -/

/-- **What the calls of an execution do to their breaker is to use it**, one use after the other. -/
theorem GatewaySystem.after_uses (config : BreakerConfig) (actions : List GatewayAction) :
    ∃ uses, (after config actions).breaker = Breaker.after config uses := by
  refine breaker_invariant (I := fun _ breaker => ∃ uses, breaker = Breaker.after config uses)
    (fun _ => ⟨[], rfl⟩) ?_ ?_ (fun _ _ _ _ h => h) actions
  · rintro now _ ⟨uses, rfl⟩
    refine ⟨uses ++ [.Allow now], ?_⟩
    rw [Breaker.after_append]
    rfl
  · rintro now _ ⟨uses, rfl⟩
    refine ⟨uses ++ [.RecordFailure now], ?_⟩
    rw [Breaker.after_append]
    rfl

/-- **The breaker behind every gateway** is one that has been used. -/
theorem ResilientGateway.after_uses (config : BreakerConfig) (policy : RetryPolicy)
    (actions : List CallAction) :
    ∃ uses, (after config policy actions).breaker = Breaker.after config uses := by
  obtain ⟨seen, hrefines⟩ := refines_run config policy actions
  obtain ⟨uses, huses⟩ := GatewaySystem.after_uses config seen
  exact ⟨uses, hrefines.breaker.trans huses⟩

end CostPlatform
