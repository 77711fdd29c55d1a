import CostPlatform.Library.Traced
import Mathlib.Data.List.TakeDrop

/-!
# Monitors of traced computations

A monitor reads events one by one and refuses those that are out of turn.  `Guides step s x returned
failed` is a triple: from `s` the monitor accepts all that `x` does, and it ends where `returned`
says if `x` returned, and where `failed` says if it failed.  The rules follow the computation, so a
proof of a triple has the shape of the program.

What a monitor accepts it accepts up to any point (`exists_run_take`), so a triple of a whole
computation says something of one that was cut short.
-/

namespace Monitor

variable {σ ω ψ ε α β : Type}

/-- Where the monitor is after the events, if it refused none. -/
def run (step : σ → ω → Option σ) (s : σ) (events : List ω) : Option σ := events.foldlM step s

variable {step : σ → ω → Option σ} {s t : σ}

@[simp] lemma run_nil (step : σ → ω → Option σ) (s : σ) : run step s [] = some s := rfl

@[simp] lemma run_cons (step : σ → ω → Option σ) (s : σ) (event : ω) (events : List ω) :
    run step s (event :: events) = (step s event).bind fun t => run step t events :=
  List.foldlM_cons ..

lemma run_append (step : σ → ω → Option σ) (s : σ) (events later : List ω) :
    run step s (events ++ later) = (run step s events).bind fun t => run step t later :=
  List.foldlM_append ..

/-- **Acceptance is prefix closed.** -/
theorem exists_run_take {events : List ω} (h : run step s events = some t) (n : Nat) :
    ∃ u, run step s (events.take n) = some u ∧ run step u (events.drop n) = some t := by
  rw [← List.take_append_drop n events, run_append] at h
  exact Option.bind_eq_some_iff.mp h

/-- A monitor of the pieces of events is one of the events. -/
lemma run_flatMap (step : σ → ω → Option σ) (pieces : ψ → List ω) (s : σ) (events : List ψ) :
    run step s (events.flatMap pieces)
      = run (fun s event => run step s (pieces event)) s events := by
  induction events generalizing s with
  | nil => rfl
  | cons event events ih =>
      rw [List.flatMap_cons, run_append, run_cons]
      exact congrArg _ (funext ih)

/-- **One monitor simulates another** where it can follow each step, and then follows every run. -/
theorem run_simulates {τ : Type} {follow : τ → ψ → Option τ} {view : σ → τ} {pieces : ω → List ψ}
    (hstep : ∀ s event t, step s event = some t →
      run follow (view s) (pieces event) = some (view t))
    {events : List ω} (h : run step s events = some t) :
    run follow (view s) (events.flatMap pieces) = some (view t) := by
  induction events generalizing s with
  | nil =>
      cases h
      rfl
  | cons event events ih =>
      rw [run_cons] at h
      obtain ⟨next, hnext, hrest⟩ := Option.bind_eq_some_iff.mp h
      rw [List.flatMap_cons, run_append, hstep s event next hnext]
      exact ih hrest

/-! ## Triples -/

/-- The monitor accepts what the computation does, and ends as its outcome says. -/
def Guides (step : σ → ω → Option σ) (s : σ) (x : Traced ω ε α) (returned : α → σ → Prop)
    (failed : ε → σ → Prop) : Prop :=
  ∃ t, run step s x.events = some t ∧ (∀ a, x.result = .ok a → returned a t)
    ∧ ∀ e, x.result = .error e → failed e t

variable {x : Traced ω ε α} {f : α → Traced ω ε β} {returned : α → σ → Prop}
  {failed : ε → σ → Prop} {finished : β → σ → Prop}

lemma guides_pure {a : α} (h : returned a s) :
    Guides step s (pure a : Traced ω ε α) returned failed := by
  refine ⟨s, rfl, fun b hb => ?_, nofun⟩
  cases hb
  exact h

lemma guides_silent {result : Except ε α} (hok : ∀ a, result = .ok a → returned a s)
    (herror : ∀ e, result = .error e → failed e s) :
    Guides step s (Traced.silent result) returned failed :=
  ⟨s, rfl, hok, herror⟩

lemma guides_perform {event : ω} {result : Except ε α} (hstep : step s event = some t)
    (hok : ∀ a, result = .ok a → returned a t) (herror : ∀ e, result = .error e → failed e t) :
    Guides step s (Traced.perform event result) returned failed := by
  refine ⟨t, ?_, hok, herror⟩
  rw [Traced.perform_def, run_cons, hstep]
  rfl

/-- **Sequences.** -/
theorem Guides.bind (hx : Guides step s x returned failed)
    (hf : ∀ a t, returned a t → Guides step t (f a) finished failed) :
    Guides step s (x >>= f) finished failed := by
  obtain ⟨t, hrun, hreturned, hfailed⟩ := hx
  obtain ⟨events, result⟩ := x
  cases result with
  | ok a =>
      obtain ⟨u, hrest, hfinished, hfailed'⟩ := hf a t (hreturned a rfl)
      refine ⟨u, ?_, hfinished, hfailed'⟩
      rw [Traced.ok_bind, run_append, show run step s events = some t from hrun]
      exact hrest
  | error e =>
      refine ⟨t, hrun, nofun, fun e' he => ?_⟩
      cases he
      exact hfailed e rfl

/-- A sequence that starts with an event. -/
theorem guides_perform_bind {event : ω} {result : Except ε α} (hstep : step s event = some t)
    (herror : ∀ e, result = .error e → failed e t)
    (hok : ∀ a, result = .ok a → Guides step t (f a) finished failed) :
    Guides step s (Traced.perform event result >>= f) finished failed := by
  refine (guides_perform hstep (fun a ha => ⟨rfl, ha⟩) herror :
    Guides step s _ (fun a u => u = t ∧ result = .ok a) failed).bind ?_
  rintro a u ⟨rfl, ha⟩
  exact hok a ha

/-- A sequence that starts with an event that does nothing else. -/
lemma guides_emit_bind {event : ω} {f : Unit → Traced ω ε β} (hstep : step s event = some t)
    (hf : Guides step t (f ()) finished failed) :
    Guides step s (Traced.perform event (.ok ()) >>= f) finished failed :=
  guides_perform_bind hstep nofun fun _ _ => hf

/-- A sequence that starts without an event. -/
theorem guides_silent_bind {result : Except ε α} (herror : ∀ e, result = .error e → failed e s)
    (hok : ∀ a, result = .ok a → Guides step s (f a) finished failed) :
    Guides step s (Traced.silent result >>= f) finished failed := by
  refine (guides_silent (fun a ha => ⟨rfl, ha⟩) herror :
    Guides step s _ (fun a u => u = s ∧ result = .ok a) failed).bind ?_
  rintro a u ⟨rfl, ha⟩
  exact hok a ha

/-- **A computation in other words**: each event in pieces, and the outcome as something else. -/
theorem Guides.translate {δ : Type} {pieces : ψ → List ω} {x : Traced ψ ε α} {value : α → β}
    {error : ε → δ} {failed' : δ → σ → Prop}
    (hx : Guides (fun s event => run step s (pieces event)) s x
      (fun a t => finished (value a) t) fun e t => failed' (error e) t) :
    Guides step s
      (⟨x.events.flatMap pieces, (x.result.map value).mapError error⟩ : Traced ω δ β) finished
      failed' := by
  obtain ⟨t, hrun, hreturned, hfailed⟩ := hx
  obtain ⟨events, result⟩ := x
  refine ⟨t, (run_flatMap ..).trans hrun, ?_, ?_⟩
  · intro b hb
    cases result with
    | ok a =>
        cases hb
        exact hreturned a rfl
    | error e => cases hb
  · intro d hd
    cases result with
    | ok a => cases hd
    | error e =>
        cases hd
        exact hfailed e rfl

end Monitor
