import Mathlib.Data.List.Induction
import Mathlib.Tactic.Lemma

/-!
# Hits in a row

`trailing hit xs` counts the hits that end a list: a hit adds one, and anything else starts over.
A list has `n` hits in a row somewhere exactly when the count reaches `n` at some point of it.
-/

namespace Streak

variable {α : Type*} (hit : α → Bool)

/-- The count after one more entry. -/
def tally (count : Nat) (x : α) : Nat := if hit x then count + 1 else 0

/-- The hits in a row that end a list. -/
def trailing (xs : List α) : Nat := xs.foldl (tally hit) 0

/-- Somewhere in the list, `n` hits in a row. -/
def HasRow (n : Nat) (xs : List α) : Prop :=
  ∃ before row later, xs = before ++ row ++ later ∧ row.length = n ∧ ∀ x ∈ row, hit x = true

variable {hit}

/-- The count has reached `n` exactly when the last `n` entries are hits. -/
lemma le_trailing_iff {n : Nat} {xs : List α} :
    n ≤ trailing hit xs
      ↔ ∃ before row, xs = before ++ row ∧ row.length = n ∧ ∀ x ∈ row, hit x = true := by
  induction xs using List.reverseRecOn generalizing n with
  | nil =>
      constructor
      · intro h
        exact ⟨[], [], rfl, (Nat.le_zero.mp h).symm, by simp⟩
      · rintro ⟨before, row, hsplit, rfl, -⟩
        rw [(List.append_eq_nil_iff.mp hsplit.symm).2]
        exact Nat.zero_le _
  | append_singleton xs x ih =>
      have hlast : trailing hit (xs ++ [x]) = if hit x then trailing hit xs + 1 else 0 := by
        rw [trailing, List.foldl_append]
        rfl
      rw [hlast]
      cases n with
      | zero => exact iff_of_true (Nat.zero_le _) ⟨xs ++ [x], [], by simp, rfl, by simp⟩
      | succ n =>
          constructor
          · intro h
            split_ifs at h with hx
            · obtain ⟨before, row, rfl, hlength, hrow⟩ := ih.mp (Nat.le_of_succ_le_succ h)
              refine ⟨before, row ++ [x], by simp, by simp [hlength], fun y hy => ?_⟩
              rcases List.mem_append.mp hy with hold | hnew
              · exact hrow y hold
              · rw [List.mem_singleton.mp hnew]
                exact hx
            · exact absurd h (Nat.not_succ_le_zero n)
          · rintro ⟨before, row, hsplit, hlength, hrow⟩
            -- a row that is not empty ends with the last entry
            have hne : row ≠ [] := List.ne_nil_of_length_eq_add_one hlength
            obtain ⟨front, y, rfl⟩ := (List.eq_nil_or_concat row).resolve_left hne
            rw [List.concat_eq_append] at hsplit hlength hrow
            rw [← List.append_assoc] at hsplit
            obtain ⟨rfl, hxy⟩ := List.append_inj' hsplit rfl
            cases List.singleton_inj.mp hxy
            rw [if_pos (hrow x (by simp))]
            refine Nat.succ_le_succ (ih.mpr ⟨before, front, rfl, ?_, fun y hy => ?_⟩)
            · simpa using hlength
            · exact hrow y (List.mem_append_left _ hy)

/-- **There are `n` hits in a row exactly when the count reaches `n`.** -/
theorem hasRow_iff {n : Nat} {xs : List α} :
    HasRow hit n xs ↔ ∃ before later, xs = before ++ later ∧ n ≤ trailing hit before := by
  constructor
  · rintro ⟨before, row, later, rfl, hlength, hrow⟩
    exact ⟨before ++ row, later, rfl, le_trailing_iff.mpr ⟨before, row, rfl, hlength, hrow⟩⟩
  · rintro ⟨reached, later, rfl, hcount⟩
    obtain ⟨before, row, rfl, hlength, hrow⟩ := le_trailing_iff.mp hcount
    exact ⟨before, row, later, rfl, hlength, hrow⟩

/-- Two notions of a hit that agree on the list have the same rows in it. -/
lemma hasRow_congr {hit' : α → Bool} {n : Nat} {xs : List α} (h : ∀ x ∈ xs, hit x = hit' x) :
    HasRow hit n xs ↔ HasRow hit' n xs := by
  have hrow : ∀ before row later, xs = before ++ row ++ later →
      ((∀ x ∈ row, hit x = true) ↔ ∀ x ∈ row, hit' x = true) := by
    rintro before row later rfl
    refine forall₂_congr fun x hx => ?_
    rw [h x (by simp [hx])]
  refine exists_congr fun before => exists_congr fun row => exists_congr fun later => ?_
  exact and_congr_right fun hsplit => and_congr_right fun _ => hrow before row later hsplit

end Streak
