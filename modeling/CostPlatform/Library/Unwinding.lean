import CostPlatform.Library.Runs

/-!
# Unwinding

Two runs of one machine side by side: one takes the actions of everybody, the other those of an
observer alone.  A relation unwinds if every action keeps it, one of the observer's where both
machines take it and one of anybody else's where only the first does.  It then holds all along the
two runs (`Unwinds.run`).  Where it makes the observer's answers the same, the observer is told in
the first run what they are told in the second (`Unwinds.told`).

The relation may speak of the actions that are still to come.
-/

namespace Runs

variable {σ α β : Type*} {step : σ → α → σ} {own : α → Prop} {R : List α → σ → σ → Prop}

/-- Every action keeps the relation. -/
structure Unwinds (step : σ → α → σ) (own : α → Prop) (R : List α → σ → σ → Prop) : Prop where
  shared : ∀ {a as s s'}, own a → R (a :: as) s s' → R as (step s a) (step s' a)
  foreign : ∀ {a as s s'}, ¬ own a → R (a :: as) s s' → R as (step s a) s'

variable [DecidablePred own]

theorem Unwinds.run (h : Unwinds step own R) (as rest : List α) {s s' : σ}
    (hR : R (as ++ rest) s s') :
    R rest (Runs.run step s as) (Runs.run step s' (as.filter own)) := by
  induction as generalizing s s' with
  | nil => exact hR
  | cons a as ih =>
      by_cases hown : own a
      · rw [List.filter_cons_of_pos (by simpa using hown)]
        exact ih (h.shared hown hR)
      · rw [List.filter_cons_of_neg (by simpa using hown)]
        exact ih (h.foreign hown hR)

/-- What the observer is told: the answers to their own actions, in order. -/
def told (step : σ → α → σ) (own : α → Prop) [DecidablePred own] (answer : σ → α → β) :
    σ → List α → List β :=
  emitted step fun s a => if own a then [answer s a] else []

/-- **An observer is told nothing of the others.** -/
theorem Unwinds.told {answer : σ → α → β} (h : Unwinds step own R)
    (hanswer : ∀ {a as s s'}, own a → R (a :: as) s s' → answer s a = answer s' a) (as : List α)
    {s s' : σ} (hR : R as s s') :
    Runs.told step own answer s as = Runs.told step own answer s' (as.filter own) := by
  induction as generalizing s s' with
  | nil => rfl
  | cons a as ih =>
      rw [Runs.told, emitted]
      by_cases hown : own a
      · rw [List.filter_cons_of_pos (by simpa using hown), emitted, if_pos hown,
          if_pos hown, hanswer hown hR]
        exact congrArg _ (ih (h.shared hown hR))
      · rw [List.filter_cons_of_neg (by simpa using hown), if_neg hown]
        exact ih (h.foreign hown hR)

end Runs
