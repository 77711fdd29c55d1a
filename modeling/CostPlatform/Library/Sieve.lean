import Mathlib.Data.List.Basic
import Mathlib.Data.List.Perm.Basic
import Mathlib.Tactic.Lemma

/-!
# Sieves

A pass over a list that keeps an entry or drops it for a reason.  What it decides depends on a
state, and the state on what was kept so far.

`run` marks each entry with the reason it was dropped for, so nothing is lost or moved
(`kept_sublist`, `dropped_sublist`, `kept_append_dropped_perm`), `verdict_of_run` says what each
mark was decided on, and `foldl_kept_run` carries an invariant of the state.
-/

namespace Sieve

variable {α ρ σ : Type*}

/-! ## Marks -/

/-- The entries without a reason to drop them. -/
def kept (marks : List (α × Option ρ)) : List α :=
  marks.filterMap fun mark => if mark.2.isNone then some mark.1 else none

/-- The other ones, with the reason. -/
def dropped (marks : List (α × Option ρ)) : List (α × ρ) :=
  marks.filterMap fun mark => mark.2.map fun reason => (mark.1, reason)

@[simp] lemma kept_cons_none (x : α) (marks : List (α × Option ρ)) :
    kept ((x, none) :: marks) = x :: kept marks := rfl

@[simp] lemma kept_cons_some (x : α) (reason : ρ) (marks : List (α × Option ρ)) :
    kept ((x, some reason) :: marks) = kept marks := rfl

@[simp] lemma dropped_cons_none (x : α) (marks : List (α × Option ρ)) :
    dropped ((x, none) :: marks) = dropped marks := rfl

@[simp] lemma dropped_cons_some (x : α) (reason : ρ) (marks : List (α × Option ρ)) :
    dropped ((x, some reason) :: marks) = (x, reason) :: dropped marks := rfl

lemma kept_sublist (marks : List (α × Option ρ)) :
    (kept marks).Sublist (marks.map Prod.fst) := by
  induction marks with
  | nil => exact List.Sublist.slnil
  | cons mark marks ih =>
      obtain ⟨x, _ | reason⟩ := mark
      · exact ih.cons_cons x
      · exact ih.cons x

lemma dropped_sublist (marks : List (α × Option ρ)) :
    ((dropped marks).map Prod.fst).Sublist (marks.map Prod.fst) := by
  induction marks with
  | nil => exact List.Sublist.slnil
  | cons mark marks ih =>
      obtain ⟨x, _ | reason⟩ := mark
      · exact ih.cons x
      · exact ih.cons_cons x

/-- Every entry is kept or dropped, and once. -/
lemma kept_append_dropped_perm (marks : List (α × Option ρ)) :
    (kept marks ++ (dropped marks).map Prod.fst).Perm (marks.map Prod.fst) := by
  induction marks with
  | nil => exact List.Perm.nil
  | cons mark marks ih =>
      obtain ⟨x, _ | reason⟩ := mark
      · exact ih.cons x
      · exact List.perm_middle.trans (ih.cons x)

/-! ## Runs -/

variable (verdict : σ → α → Option ρ) (keep : σ → α → σ)

/-- The marks of a pass that starts in a state. -/
def run (s : σ) : List α → List (α × Option ρ)
  | [] => []
  | x :: xs =>
      match verdict s x with
      | some reason => (x, some reason) :: run s xs
      | none => (x, none) :: run (keep s x) xs

variable {verdict keep} {s : σ} {x : α} {xs : List α}

lemma run_cons_some {reason : ρ} (h : verdict s x = some reason) :
    run verdict keep s (x :: xs) = (x, some reason) :: run verdict keep s xs := by
  rw [run, h]

lemma run_cons_none (h : verdict s x = none) :
    run verdict keep s (x :: xs) = (x, none) :: run verdict keep (keep s x) xs := by
  rw [run, h]

/-- The entries stay where they are. -/
lemma map_fst_run : (run verdict keep s xs).map Prod.fst = xs := by
  induction xs generalizing s with
  | nil => rfl
  | cons x xs ih =>
      cases h : verdict s x with
      | none => rw [run_cons_none h, List.map_cons, ih]
      | some reason => rw [run_cons_some h, List.map_cons, ih]

/-- **Each mark was decided on what had been kept before.** -/
theorem verdict_of_run {before after : List (α × Option ρ)} {mark : Option ρ}
    (h : run verdict keep s xs = before ++ (x, mark) :: after) :
    verdict ((kept before).foldl keep s) x = mark := by
  induction xs generalizing s before with
  | nil => simp [run] at h
  | cons y ys ih =>
      cases hy : verdict s y with
      | none =>
          rw [run_cons_none hy] at h
          cases before with
          | nil =>
              cases h
              exact hy
          | cons first before =>
              obtain ⟨rfl, hrest⟩ := List.cons.inj h
              rw [kept_cons_none, List.foldl_cons]
              exact ih hrest
      | some reason =>
          rw [run_cons_some hy] at h
          cases before with
          | nil =>
              cases h
              exact hy
          | cons first before =>
              obtain ⟨rfl, hrest⟩ := List.cons.inj h
              rw [kept_cons_some]
              exact ih hrest

/-- An invariant of the state holds where the pass ends. -/
theorem foldl_kept_run {I : σ → Prop} (hstart : I s)
    (hkeep : ∀ s x, I s → verdict s x = none → I (keep s x)) :
    I ((kept (run verdict keep s xs)).foldl keep s) := by
  induction xs generalizing s with
  | nil => exact hstart
  | cons x xs ih =>
      cases h : verdict s x with
      | none =>
          rw [run_cons_none h, kept_cons_none, List.foldl_cons]
          exact ih (hkeep s x hstart h)
      | some reason =>
          rw [run_cons_some h, kept_cons_some]
          exact ih hstart

/-- What is kept was not objected to in some state. -/
lemma verdict_of_mem_kept (hx : x ∈ kept (run verdict keep s xs)) : ∃ s', verdict s' x = none := by
  induction xs generalizing s with
  | nil => cases hx
  | cons y ys ih =>
      cases h : verdict s y with
      | none =>
          rw [run_cons_none h, kept_cons_none, List.mem_cons] at hx
          rcases hx with rfl | hx
          · exact ⟨s, h⟩
          · exact ih hx
      | some reason =>
          rw [run_cons_some h, kept_cons_some] at hx
          exact ih hx

/-- What is not objected to in any state that the pass can be in is kept. -/
lemma mem_kept_run {I : σ → Prop} (hstart : I s)
    (hkeep : ∀ s x, I s → verdict s x = none → I (keep s x)) (hx : x ∈ xs)
    (hpasses : ∀ s, I s → verdict s x = none) : x ∈ kept (run verdict keep s xs) := by
  induction xs generalizing s with
  | nil => cases hx
  | cons y ys ih =>
      cases h : verdict s y with
      | none =>
          rw [run_cons_none h, kept_cons_none, List.mem_cons]
          exact (List.mem_cons.mp hx).imp_right (ih (hkeep s y hstart h))
      | some reason =>
          rw [run_cons_some h, kept_cons_some]
          rcases List.mem_cons.mp hx with rfl | hx
          · exact absurd ((hpasses s hstart).symm.trans h) nofun
          · exact ih hstart hx

end Sieve
