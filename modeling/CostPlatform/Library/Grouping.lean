import CostPlatform.Library.Ranking
import Mathlib.Algebra.BigOperators.Group.List.Basic
import Mathlib.Data.List.Dedup

/-!
# Grouping by a key

`groupKeys rank key xs` lists the keys that occur in `xs`, each once and in the order of `rank`,
and `group key xs k` the entries whose key is `k`.  The groups partition the list, so a sum over
the list is the sum over its groups: `sum_groups`.
-/

namespace Grouping

variable {α κ ρ : Type*} [DecidableEq κ]

/-- The entries with one key. -/
def group (key : α → κ) (xs : List α) (k : κ) : List α := xs.filter fun x => key x = k

@[simp] lemma group_nil (key : α → κ) (k : κ) : group key [] k = [] := rfl

/-- An entry joins the group of its key and no other. -/
lemma group_cons (key : α → κ) (x : α) (xs : List α) (k : κ) :
    group key (x :: xs) k = if key x = k then x :: group key xs k else group key xs k := by
  simp only [group, List.filter_cons, decide_eq_true_eq]

section Keys

variable [LinearOrder ρ] (rank : κ → ρ) (key : α → κ)

/-- The keys that occur, each once, in the order of `rank`. -/
def groupKeys (xs : List α) : List κ := Ranking.sortedBy rank (xs.map key).dedup

lemma mem_groupKeys {xs : List α} {k : κ} : k ∈ groupKeys rank key xs ↔ ∃ x ∈ xs, key x = k := by
  simp only [groupKeys, Ranking.mem_sortedBy, List.mem_dedup, List.mem_map]

lemma nodup_groupKeys (xs : List α) : (groupKeys rank key xs).Nodup :=
  (Ranking.perm_sortedBy rank _).nodup_iff.mpr (List.nodup_dedup _)

end Keys

section Sums

variable {M : Type*} [AddCommMonoid M]

/-- Among distinct keys, one entry is counted under its own key only. -/
lemma sum_at_key (keys : List κ) (hnodup : keys.Nodup) (own : κ) (hown : own ∈ keys) (weight : M)
    (rest : κ → M) :
    (keys.map fun k => if own = k then weight + rest k else rest k).sum
      = weight + (keys.map rest).sum := by
  induction keys with
  | nil => cases hown
  | cons k keys ih =>
      obtain ⟨hk, hkeys⟩ := List.nodup_cons.mp hnodup
      simp only [List.map_cons, List.sum_cons]
      by_cases hsame : own = k
      · have htail : (keys.map fun k' => if own = k' then weight + rest k' else rest k')
            = keys.map rest := by
          refine List.map_congr_left fun k' hk' => if_neg ?_
          rintro rfl
          exact hk (hsame ▸ hk')
        rw [if_pos hsame, htail, add_assoc]
      · have hmem := (List.mem_cons.mp hown).resolve_left hsame
        rw [if_neg hsame, ih hkeys hmem, add_left_comm]

/-- **A sum over the entries is the sum over the groups of any keys that cover them.** -/
theorem sum_groups {key : α → κ} {keys : List κ} (hnodup : keys.Nodup) (weight : α → M)
    (xs : List α) (hcover : ∀ x ∈ xs, key x ∈ keys) :
    (keys.map fun k => ((group key xs k).map weight).sum).sum = (xs.map weight).sum := by
  induction xs with
  | nil => simp
  | cons x xs ih =>
      obtain ⟨hx, hxs⟩ := List.forall_mem_cons.mp hcover
      have hsplit : (keys.map fun k => ((group key (x :: xs) k).map weight).sum)
          = keys.map fun k => if key x = k then weight x + ((group key xs k).map weight).sum
              else ((group key xs k).map weight).sum := by
        refine List.map_congr_left fun k _ => ?_
        rw [group_cons]
        split_ifs
        · rw [List.map_cons, List.sum_cons]
        · rfl
      rw [hsplit, sum_at_key keys hnodup (key x) hx, ih hxs, List.map_cons, List.sum_cons]

end Sums

end Grouping
