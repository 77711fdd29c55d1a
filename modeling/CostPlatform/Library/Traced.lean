import Mathlib.Data.List.Count
import Mathlib.Tactic.Lemma

/-!
# Traced computations

A traced computation performs events one after another, and then returns or fails.  Failing does
not undo the events.  `attempt` is `try … except`: the handler carries on after the events of the
computation that failed.
-/

/-- What a computation did, and what came of it. -/
structure Traced (ω ε α : Type) where
  events : List ω
  result : Except ε α

namespace Traced

variable {ω ε α β : Type}

def bind (x : Traced ω ε α) (f : α → Traced ω ε β) : Traced ω ε β :=
  match x.result with
  | .ok a => ⟨x.events ++ (f a).events, (f a).result⟩
  | .error e => ⟨x.events, .error e⟩

instance : Monad (Traced ω ε) where
  pure a := ⟨[], .ok a⟩
  bind := bind

/-- A step that leaves no trace. -/
def silent (result : Except ε α) : Traced ω ε α := ⟨[], result⟩

def raise (e : ε) : Traced ω ε α := ⟨[], .error e⟩

/-- Perform an event, and take what comes of it. -/
def perform (event : ω) (result : Except ε α) : Traced ω ε α := ⟨[event], result⟩

/-- Go on where the condition holds, and take the step where it does not. -/
def require (c : Prop) [Decidable c] (x : Traced ω ε Unit) : Traced ω ε Unit :=
  if c then ⟨[], .ok ()⟩ else x

/-- Carry on with the handler where the computation fails. -/
def attempt (x : Traced ω ε α) (handler : ε → Traced ω ε α) : Traced ω ε α :=
  match x.result with
  | .ok _ => x
  | .error e => ⟨x.events ++ (handler e).events, (handler e).result⟩

/-! ## Running the steps -/

@[simp] lemma pure_def (a : α) : (pure a : Traced ω ε α) = ⟨[], .ok a⟩ := rfl

@[simp] lemma silent_def (result : Except ε α) : (silent result : Traced ω ε α) = ⟨[], result⟩ :=
  rfl

@[simp] lemma raise_def (e : ε) : (raise e : Traced ω ε α) = ⟨[], .error e⟩ := rfl

@[simp] lemma perform_def (event : ω) (result : Except ε α) :
    perform event result = ⟨[event], result⟩ :=
  rfl

@[simp] lemma ok_bind (events : List ω) (a : α) (f : α → Traced ω ε β) :
    ((⟨events, .ok a⟩ : Traced ω ε α) >>= f) = ⟨events ++ (f a).events, (f a).result⟩ :=
  rfl

@[simp] lemma error_bind (events : List ω) (e : ε) (f : α → Traced ω ε β) :
    ((⟨events, .error e⟩ : Traced ω ε α) >>= f) = ⟨events, .error e⟩ :=
  rfl

@[simp] lemma attempt_ok (events : List ω) (a : α) (handler : ε → Traced ω ε α) :
    attempt ⟨events, .ok a⟩ handler = ⟨events, .ok a⟩ :=
  rfl

@[simp] lemma attempt_error (events : List ω) (e : ε) (handler : ε → Traced ω ε α) :
    attempt ⟨events, .error e⟩ handler
      = ⟨events ++ (handler e).events, (handler e).result⟩ :=
  rfl

/-! ## What a sequence did -/

/-- **The events of a sequence** are those of the first step and, where it returned, those of the
    second. -/
theorem mem_bind_events {x : Traced ω ε α} {f : α → Traced ω ε β} {event : ω} :
    event ∈ (x >>= f).events
      ↔ event ∈ x.events ∨ ∃ a, x.result = .ok a ∧ event ∈ (f a).events := by
  obtain ⟨events, result⟩ := x
  cases result with
  | ok a => simp
  | error e => simp

/-- A sequence returns exactly when both steps do. -/
theorem bind_result_eq_ok {x : Traced ω ε α} {f : α → Traced ω ε β} {b : β} :
    (x >>= f).result = .ok b ↔ ∃ a, x.result = .ok a ∧ (f a).result = .ok b := by
  obtain ⟨events, result⟩ := x
  cases result with
  | ok a => simp
  | error e => simp

/-- A check that refuses is passed exactly where its condition holds. -/
lemma require_bind_result_eq_ok {c : Prop} [Decidable c] {events : List ω} {e : ε}
    {f : Unit → Traced ω ε β} {b : β} :
    (require c ⟨events, .error e⟩ >>= f).result = .ok b ↔ c ∧ (f ()).result = .ok b := by
  rw [require]
  split_ifs with hc
  · simp [hc]
  · simp [hc]

@[simp] lemma require_result_eq_ok {c : Prop} [Decidable c] {events : List ω} {e : ε} :
    (require c (⟨events, .error e⟩ : Traced ω ε Unit)).result = .ok () ↔ c := by
  rw [require]
  split_ifs with hc
  · simp [hc]
  · simp [hc]

/-- **What the rest of a sequence leaves whenever it returns**, the sequence leaves. -/
theorem exists_event_of_bind {x : Traced ω ε α} {f : α → Traced ω ε β} {b : β} {P : ω → Prop}
    (h : (x >>= f).result = .ok b)
    (hrest : ∀ a, x.result = .ok a → (f a).result = .ok b → ∃ event ∈ (f a).events, P event) :
    ∃ event ∈ (x >>= f).events, P event := by
  obtain ⟨a, hfirst, hsecond⟩ := bind_result_eq_ok.mp h
  obtain ⟨event, hevent, hP⟩ := hrest a hfirst hsecond
  exact ⟨event, mem_bind_events.mpr (Or.inr ⟨a, hfirst, hevent⟩), hP⟩

/-! ## Failures that leave a trace -/

/-- A computation does not fail without an event, but for the failures that may be quiet. -/
def Recorded (quiet : ε → Prop) (x : Traced ω ε α) : Prop :=
  ∀ e, x.result = .error e → quiet e ∨ x.events ≠ []

variable {quiet : ε → Prop}

lemma recorded_pure (a : α) : Recorded quiet (pure a : Traced ω ε α) :=
  fun e h => absurd h (by simp)

lemma recorded_perform (event : ω) (result : Except ε α) :
    Recorded quiet (perform event result) :=
  fun _ _ => .inr (List.cons_ne_nil _ _)

lemma recorded_raise {e : ε} (h : quiet e) : Recorded quiet (raise e : Traced ω ε α) := by
  intro e' he
  cases he
  exact .inl h

lemma Recorded.require {x : Traced ω ε Unit} (c : Prop) [Decidable c] (h : Recorded quiet x) :
    Recorded quiet (Traced.require c x) := by
  rw [Traced.require]
  split_ifs
  · exact recorded_pure ()
  · exact h

/-- A sequence records what its steps record. -/
theorem Recorded.bind {x : Traced ω ε α} {f : α → Traced ω ε β} (hx : Recorded quiet x)
    (hf : ∀ a, Recorded quiet (f a)) : Recorded quiet (x >>= f) := by
  intro e he
  obtain ⟨events, result⟩ := x
  cases result with
  | ok a => exact (hf a e he).imp_right fun hne hnil => hne (List.append_eq_nil_iff.mp hnil).2
  | error e' =>
      cases he
      exact hx e rfl

end Traced
