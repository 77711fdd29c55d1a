import CostPlatform.Library.Runs
import Mathlib.Data.List.Count
import Mathlib.Data.List.TakeWhile
import Mathlib.Order.Lattice
import Mathlib.Order.Monotone.Defs

/-!
# Sliding windows

A queue of instants admits an attempt when fewer than `limit` of them are still in its window: later
than `cutoff now`, whatever the arithmetic is that finds the cutoff.  Those that are not are dropped
from the front, and an admitted attempt goes to the end.

`Recalls` says what such a queue knows: the attempts admitted in the past, but for some that have
left the window, of which no window ever held more than `limit`.  Every offer keeps it
(`Recalls.offer`), and so does a run of them on a clock that does not go back (`recalls_run`), as
long as the cutoff does not go back either.  It follows that an attempt is refused exactly when the
window ending now is full (`Recalls.admits_iff`), and until when (`Recalls.admits_later_iff`).
-/

namespace SlidingWindow

/-- Dropping the small elements off the front of an ordered list drops all of them. -/
lemma dropWhile_le_eq_filter {α : Type*} [LinearOrder α] {hits : List α}
    (h : hits.Pairwise (· ≤ ·)) (cutoff : α) :
    hits.dropWhile (fun t => t ≤ cutoff) = hits.filter fun t => cutoff < t := by
  induction hits with
  | nil => rfl
  | cons first hits ih =>
      obtain ⟨hfirst, hrest⟩ := List.pairwise_cons.mp h
      by_cases hle : first ≤ cutoff
      · rw [List.dropWhile_cons_of_pos (by simpa using hle), ih hrest,
          List.filter_cons_of_neg (by simpa using hle)]
      · have hlater : ∀ t ∈ first :: hits, cutoff < t := by
          intro t ht
          rcases List.mem_cons.mp ht with rfl | ht
          · exact not_le.mp hle
          · exact (not_le.mp hle).trans_le (hfirst t ht)
        rw [List.dropWhile_cons_of_neg (by simpa using hle)]
        exact (List.filter_eq_self.mpr fun t ht => by simpa using hlater t ht).symm

variable {α : Type*} [LinearOrder α]

section Queue

variable (limit : Nat) (cutoff : α → α)

/-- What of a queue still counts at an instant. -/
def current (now : α) (hits : List α) : List α := hits.dropWhile fun t => t ≤ cutoff now

def admits (now : α) (hits : List α) : Bool := (current cutoff now hits).length < limit

/-- The queue after an attempt. -/
def offer (hits : List α) (now : α) : List α :=
  if admits limit cutoff now hits then current cutoff now hits ++ [now]
  else current cutoff now hits

/-- The attempts among one that are admitted. -/
def admitted (hits : List α) (now : α) : List α :=
  if admits limit cutoff now hits then [now] else []

/-- Of the instants picked, each is in the window of every later one. -/
def FitsWindow (past : List α) (picked : α → Bool) : Prop :=
  ∀ s ∈ past, picked s = true → ∀ t ∈ past, t ≤ s → picked t = true → cutoff s < t

/-- **What a queue knows** of the attempts admitted by an instant. -/
structure Recalls (clock : α) (past hits : List α) : Prop where
  /-- The others have left the window. -/
  latest : ∃ old, past = old ++ hits ∧ ∀ t ∈ old, t ≤ cutoff clock
  ordered : past.Pairwise (· ≤ ·)
  elapsed : ∀ t ∈ past, t ≤ clock
  within : ∀ picked, FitsWindow cutoff past picked → past.countP picked ≤ limit

end Queue

variable {limit : Nat} {cutoff : α → α}

lemma recalls_nil (limit : Nat) (cutoff : α → α) (clock : α) :
    Recalls limit cutoff clock [] [] where
  latest := ⟨[], rfl, fun _ h => absurd h List.not_mem_nil⟩
  ordered := .nil
  elapsed _ h := absurd h List.not_mem_nil
  within _ _ := Nat.zero_le limit

namespace Recalls

variable {clock now : α} {past hits : List α}

lemma advance (hmono : Monotone cutoff) (h : Recalls limit cutoff clock past hits)
    (hnow : clock ≤ now) : Recalls limit cutoff now past hits where
  latest := by
    obtain ⟨old, hpast, hold⟩ := h.latest
    exact ⟨old, hpast, fun t ht => (hold t ht).trans (hmono hnow)⟩
  ordered := h.ordered
  elapsed t ht := (h.elapsed t ht).trans hnow
  within := h.within

/-- What counts are the admissions in the window. -/
lemma current_eq (h : Recalls limit cutoff now past hits) :
    current cutoff now hits = past.filter fun t => cutoff now < t := by
  obtain ⟨old, hpast, hold⟩ := h.latest
  have hordered := h.ordered
  rw [hpast] at hordered ⊢
  have hnone : old.filter (fun t => cutoff now < t) = [] :=
    List.filter_eq_nil_iff.mpr fun t ht => by simpa using hold t ht
  rw [current, dropWhile_le_eq_filter (List.pairwise_append.mp hordered).2.1, List.filter_append,
    hnone, List.nil_append]

lemma length_current (h : Recalls limit cutoff now past hits) :
    (current cutoff now hits).length = past.countP fun t => cutoff now < t ∧ t ≤ now := by
  rw [h.current_eq, ← List.countP_eq_length_filter]
  refine List.countP_congr fun t ht => ?_
  simp [h.elapsed t ht]

lemma length_current_le (hmono : Monotone cutoff) (h : Recalls limit cutoff now past hits) :
    (current cutoff now hits).length ≤ limit := by
  rw [h.current_eq, ← List.countP_eq_length_filter]
  refine h.within _ fun s hs _ t _ _ ht => ?_
  exact (hmono (h.elapsed s hs)).trans_lt (of_decide_eq_true ht)

/-- **An attempt is admitted unless the window ending now is full.** -/
theorem admits_iff (hmono : Monotone cutoff) (h : Recalls limit cutoff now past hits) :
    admits limit cutoff now hits = true
      ↔ past.countP (fun t => cutoff now < t ∧ t ≤ now) ≠ limit := by
  have hle := h.length_current_le hmono
  rw [h.length_current] at hle
  rw [admits, decide_eq_true_eq, h.length_current]
  exact ⟨Nat.ne_of_lt, Nat.lt_of_le_of_ne hle⟩

/-- An admission adds to no window more than it has room for. -/
lemma countP_append_le (h : Recalls limit cutoff now past hits)
    (hadmits : admits limit cutoff now hits = true) {picked : α → Bool}
    (hpicked : FitsWindow cutoff (past ++ [now]) picked) :
    (past ++ [now]).countP picked ≤ limit := by
  rw [List.countP_append, List.countP_singleton]
  split_ifs with hnow
  · have hroom : (current cutoff now hits).length < limit := by simpa [admits] using hadmits
    rw [h.current_eq, ← List.countP_eq_length_filter] at hroom
    have hle : past.countP picked ≤ past.countP fun t => cutoff now < t :=
      List.countP_mono_left fun t ht hin => decide_eq_true <|
        hpicked now (List.mem_append_right _ List.mem_cons_self) hnow t
          (List.mem_append_left _ ht) (h.elapsed t ht) hin
    omega
  · refine h.within picked fun s hs hin t ht => ?_
    exact hpicked s (List.mem_append_left _ hs) hin t (List.mem_append_left _ ht)

/-- **Every offer keeps what the queue knows.** -/
theorem offer (h : Recalls limit cutoff now past hits) :
    Recalls limit cutoff now (past ++ admitted limit cutoff hits now)
      (SlidingWindow.offer limit cutoff hits now) := by
  obtain ⟨old, hpast, hold⟩ := h.latest
  have hlatest : past = (old ++ hits.takeWhile fun t => t ≤ cutoff now)
        ++ current cutoff now hits
      ∧ ∀ t ∈ old ++ hits.takeWhile (fun t => t ≤ cutoff now), t ≤ cutoff now := by
    refine ⟨?_, fun t ht => ?_⟩
    · rw [List.append_assoc, current, List.takeWhile_append_dropWhile]
      exact hpast
    · rcases List.mem_append.mp ht with ht | ht
      · exact hold t ht
      · simpa using List.mem_takeWhile_imp ht
  rw [SlidingWindow.offer, admitted]
  split_ifs with hadmits
  · refine ⟨⟨_, ?_, hlatest.2⟩, ?_, ?_, fun picked hpicked => ?_⟩
    · rw [← List.append_assoc, ← hlatest.1]
    · refine List.pairwise_append.mpr ⟨h.ordered, List.pairwise_singleton _ _, ?_⟩
      intro t ht last hlast
      rw [List.mem_singleton.mp hlast]
      exact h.elapsed t ht
    · intro t ht
      rcases List.mem_append.mp ht with ht | ht
      · exact h.elapsed t ht
      · exact (List.mem_singleton.mp ht).le
    · exact h.countP_append_le hadmits hpicked
  · rw [List.append_nil]
    exact ⟨⟨_, hlatest.1, hlatest.2⟩, h.ordered, h.elapsed, h.within⟩

/-- **How long a refusal lasts.**  With no attempt in between, a later one is admitted exactly when
    the first that counted has left its window. -/
theorem admits_later_iff (hmono : Monotone cutoff) (h : Recalls limit cutoff now past hits)
    (hrefused : admits limit cutoff now hits = false) {first : α}
    (hfirst : (current cutoff now hits).head? = some first) (later : α) :
    admits limit cutoff later (SlidingWindow.offer limit cutoff hits now) = true
      ↔ first ≤ cutoff later := by
  have hfull : (current cutoff now hits).length = limit := by
    refine Nat.le_antisymm (h.length_current_le hmono) ?_
    simpa [admits] using hrefused
  rw [SlidingWindow.offer, if_neg (by simp [hrefused]), admits, decide_eq_true_eq]
  obtain ⟨rest, hcounted⟩ : ∃ rest, current cutoff now hits = first :: rest := by
    cases hcounted : current cutoff now hits with
    | nil => simp [hcounted] at hfirst
    | cons t rest =>
        rw [hcounted] at hfirst
        cases Option.some.inj hfirst
        exact ⟨rest, rfl⟩
  rw [hcounted] at hfull ⊢
  rw [current]
  constructor
  · intro hroom
    by_contra hstays
    rw [List.dropWhile_cons_of_neg (by simpa using hstays), hfull] at hroom
    exact lt_irrefl limit hroom
  · intro hle
    rw [List.dropWhile_cons_of_pos (by simpa using hle)]
    have hshorter := (List.dropWhile_sublist (fun t => decide (t ≤ cutoff later))
      (l := rest)).length_le
    rw [List.length_cons] at hfull
    omega

end Recalls

/-! ## Runs of attempts -/

section Run

variable {clock now : α} {past hits attempts : List α}

/-- What is hit at an instant counts at it. -/
lemma current_replicate (hcutoff : cutoff now < now) (n : Nat) :
    current cutoff now (List.replicate n now) = List.replicate n now := by
  cases n with
  | zero => rfl
  | succ n =>
      rw [current, List.replicate_succ, List.dropWhile_cons_of_neg (by simpa using hcutoff)]

/-- **A run of attempts keeps what the queue knows**, when the clock does not go back. -/
theorem recalls_run (hmono : Monotone cutoff) (h : Recalls limit cutoff clock past hits)
    (hordered : (clock :: (attempts ++ [now])).Pairwise (· ≤ ·)) :
    Recalls limit cutoff now
      (past ++ Runs.emitted (offer limit cutoff) (admitted limit cutoff) hits attempts)
      (Runs.run (offer limit cutoff) hits attempts) := by
  induction attempts generalizing clock past hits with
  | nil =>
      rw [Runs.emitted, List.append_nil]
      exact h.advance hmono (List.rel_of_pairwise_cons hordered List.mem_cons_self)
  | cons attempt attempts ih =>
      obtain ⟨hclock, hrest⟩ := List.pairwise_cons.mp hordered
      have hnext := (h.advance hmono (hclock attempt List.mem_cons_self)).offer
      rw [Runs.run_cons, Runs.emitted, ← List.append_assoc]
      exact ih hnext hrest

/-- A queue that starts empty knows every admission. -/
theorem recalls_of_ordered (hmono : Monotone cutoff)
    (hordered : (attempts ++ [now]).Pairwise (· ≤ ·)) :
    Recalls limit cutoff now
      (Runs.emitted (offer limit cutoff) (admitted limit cutoff) [] attempts)
      (Runs.run (offer limit cutoff) [] attempts) := by
  cases attempts with
  | nil => exact recalls_nil limit cutoff now
  | cons attempt attempts =>
      have hfirst : (attempt :: (attempt :: attempts ++ [now])).Pairwise (· ≤ ·) := by
        refine List.pairwise_cons.mpr ⟨fun t ht => ?_, hordered⟩
        rcases List.mem_cons.mp ht with rfl | ht
        · exact le_refl _
        · exact List.rel_of_pairwise_cons hordered ht
      rw [← List.nil_append (Runs.emitted _ _ _ _)]
      exact recalls_run hmono (recalls_nil limit cutoff attempt) hfirst

/-- Attempts at one instant fill a queue that was empty. -/
lemma run_replicate (hcutoff : cutoff now < now) {n : Nat} (hn : n ≤ limit) :
    Runs.run (offer limit cutoff) [] (List.replicate n now) = List.replicate n now := by
  induction n with
  | zero => rfl
  | succ n ih =>
      rw [List.replicate_succ', Runs.run_append, ih (Nat.le_of_succ_le hn), Runs.run_cons,
        Runs.run_nil, offer, admits, current_replicate hcutoff, List.length_replicate,
        if_pos (decide_eq_true (Nat.lt_of_succ_le hn))]

end Run

end SlidingWindow
