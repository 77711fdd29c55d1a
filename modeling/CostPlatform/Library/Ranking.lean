import Mathlib.Data.List.Forall2
import Mathlib.Data.List.Sort
import Mathlib.Data.Prod.Lex
import Mathlib.Data.String.Basic
import Mathlib.Tactic.Lemma

/-!
# Ranking by a key

`sortedBy key xs` is the stable sort of a list by a key, and `firstBy key xs` the entry it puts
first.  Composite keys are lexicographic products.  Where no two entries tie, an entry is among the
first `n` exactly when fewer than `n` rank before it, and a selection that keeps those has the same
first `n`.  `le_foldl_max` bounds a list by its running maximum.
-/

namespace Ranking

variable {α κ : Type*} [LinearOrder κ] (key : α → κ)

/-- Sort by a key.  Entries with equal keys keep the order they came in. -/
def sortedBy (xs : List α) : List α := xs.insertionSort fun a b => key a ≤ key b

/-- The entry that sorts first. -/
def firstBy (xs : List α) : Option α := (sortedBy key xs).head?

instance totalByKey : Std.Total fun a b : α => key a ≤ key b :=
  ⟨fun a b => le_total (key a) (key b)⟩

instance transByKey : IsTrans α fun a b => key a ≤ key b := ⟨fun _ _ _ => le_trans⟩

lemma perm_sortedBy (xs : List α) : (sortedBy key xs).Perm xs := List.perm_insertionSort _ xs

@[simp] lemma mem_sortedBy {xs : List α} {a : α} : a ∈ sortedBy key xs ↔ a ∈ xs :=
  (perm_sortedBy key xs).mem_iff

lemma pairwise_sortedBy (xs : List α) : (sortedBy key xs).Pairwise fun a b => key a ≤ key b :=
  List.pairwise_insertionSort _ xs

@[simp] lemma sortedBy_eq_nil {xs : List α} : sortedBy key xs = [] ↔ xs = [] := by
  refine ⟨fun h => ?_, fun h => ?_⟩
  · exact List.Perm.nil_eq (h ▸ perm_sortedBy key xs) |>.symm
  · rw [h]
    rfl

variable {key}

/-- **Where no two entries tie, the order they came in does not matter.** -/
theorem sortedBy_eq_of_perm {xs ys : List α} (h : xs.Perm ys) (hkeys : (xs.map key).Nodup) :
    sortedBy key xs = sortedBy key ys := by
  refine List.Perm.eq_of_pairwise ?_ (pairwise_sortedBy key xs) (pairwise_sortedBy key ys) ?_
  · intro a b ha hb hab hba
    have ha' := (mem_sortedBy key).mp ha
    have hb' := h.mem_iff.mpr ((mem_sortedBy key).mp hb)
    exact List.inj_on_of_nodup_map hkeys ha' hb' (le_antisymm hab hba)
  · exact (perm_sortedBy key xs).trans (h.trans (perm_sortedBy key ys).symm)

/-- Where no two entries tie, each ranks strictly before the next. -/
lemma pairwise_lt_sortedBy {xs : List α} (hkeys : (xs.map key).Nodup) :
    (sortedBy key xs).Pairwise fun a b => key a < key b := by
  have hnodup : ((sortedBy key xs).map key).Nodup :=
    ((perm_sortedBy key xs).map key).nodup_iff.mpr hkeys
  have hne : (sortedBy key xs).Pairwise fun a b => key a ≠ key b := List.pairwise_map.mp hnodup
  exact (pairwise_sortedBy key xs).imp₂ (fun a b hle hne => lt_of_le_of_ne hle hne) hne

lemma mem_take_iff {xs : List α} (hsorted : xs.Pairwise fun a b => key a < key b) {n : ℕ} {a : α} :
    a ∈ xs.take n ↔ a ∈ xs ∧ xs.countP (fun b => key b < key a) < n := by
  induction xs generalizing n with
  | nil => simp
  | cons x xs ih =>
      obtain ⟨hfirst, hrest⟩ := List.pairwise_cons.mp hsorted
      cases n with
      | zero => simp
      | succ n =>
          rw [List.take_succ_cons, List.mem_cons, List.mem_cons, ih hrest]
          constructor
          · rintro (rfl | ⟨ha, hcount⟩)
            · -- nothing that follows ranks before the head
              have hnone : xs.countP (fun b => decide (key b < key a)) = 0 := by
                refine List.countP_eq_zero.mpr fun b hb => ?_
                simpa using (hfirst b hb).le
              refine ⟨Or.inl rfl, ?_⟩
              rw [List.countP_cons_of_neg (by simp), hnone]
              exact Nat.succ_pos n
            · refine ⟨Or.inr ha, ?_⟩
              rw [List.countP_cons_of_pos (by simpa using hfirst a ha)]
              exact Nat.succ_lt_succ hcount
          · rintro ⟨rfl | ha, hcount⟩
            · exact Or.inl rfl
            · rw [List.countP_cons_of_pos (by simpa using hfirst a ha)] at hcount
              exact Or.inr ⟨ha, Nat.lt_of_succ_lt_succ hcount⟩

/-- **An entry is among the first `n` exactly when fewer than `n` rank before it.** -/
theorem mem_take_sortedBy {xs : List α} (hkeys : (xs.map key).Nodup) {n : ℕ} {a : α} :
    a ∈ (sortedBy key xs).take n ↔ a ∈ xs ∧ xs.countP (fun b => key b < key a) < n := by
  rw [mem_take_iff (pairwise_lt_sortedBy hkeys), mem_sortedBy,
    (perm_sortedBy key xs).countP_eq]

lemma take_eq_take {xs ys : List α} (hxs : xs.Pairwise fun a b => key a < key b)
    (hys : ys.Pairwise fun a b => key a < key b) (hsub : ∀ y ∈ ys, y ∈ xs) {n : ℕ}
    (hkept : ∀ x ∈ xs.take n, x ∈ ys) : ys.take n = xs.take n := by
  induction n generalizing xs ys with
  | zero => rfl
  | succ n ih =>
      cases xs with
      | nil =>
          rw [List.eq_nil_iff_forall_not_mem.mpr fun y hy => List.not_mem_nil (hsub y hy)]
      | cons x xs =>
          have hx : x ∈ ys := hkept x (List.mem_cons_self ..)
          cases ys with
          | nil => cases hx
          | cons y ys =>
              obtain ⟨hfirst, hrest⟩ := List.pairwise_cons.mp hxs
              obtain ⟨hfirst', hrest'⟩ := List.pairwise_cons.mp hys
              -- both lists start with their least entry, which is the same one
              have hhead : y = x := by
                rcases List.mem_cons.mp hx with heq | hlater
                · exact heq.symm
                · rcases List.mem_cons.mp (hsub y (List.mem_cons_self ..)) with heq | hlater'
                  · exact heq
                  · exact absurd (hfirst y hlater') (hfirst' x hlater).le.not_gt
              subst hhead
              rw [List.take_succ_cons, List.take_succ_cons, ih hrest hrest' ?_ ?_]
              · intro a ha
                rcases List.mem_cons.mp (hsub a (List.mem_cons_of_mem _ ha)) with rfl | htail
                · exact absurd (hfirst' a ha) (lt_irrefl _)
                · exact htail
              · intro a ha
                rcases List.mem_cons.mp (hkept a (List.mem_cons_of_mem _ ha)) with rfl | htail
                · exact absurd (hfirst a (List.mem_of_mem_take ha)) (lt_irrefl _)
                · exact htail

/-- **A selection that keeps the first `n` entries has the same first `n`.** -/
theorem take_sortedBy_eq {xs ys : List α} (hxs : (xs.map key).Nodup) (hys : (ys.map key).Nodup)
    (hsub : ∀ y ∈ ys, y ∈ xs) {n : ℕ} (hkept : ∀ x ∈ (sortedBy key xs).take n, x ∈ ys) :
    (sortedBy key ys).take n = (sortedBy key xs).take n := by
  refine take_eq_take (pairwise_lt_sortedBy hxs) (pairwise_lt_sortedBy hys) ?_ ?_
  · exact fun y hy => (mem_sortedBy key).mpr (hsub y ((mem_sortedBy key).mp hy))
  · exact fun x hx => (mem_sortedBy key).mpr (hkept x hx)

lemma firstBy_mem {xs : List α} {a : α} (h : firstBy key xs = some a) : a ∈ xs :=
  (mem_sortedBy key).mp (List.mem_of_head? h)

/-- **Nothing ranks before the first entry.** -/
theorem firstBy_le {xs : List α} {a : α} (h : firstBy key xs = some a) :
    ∀ b ∈ xs, key a ≤ key b := by
  intro b hb
  have hsorted := pairwise_sortedBy key xs
  obtain ⟨rest, hrest⟩ := List.head?_eq_some_iff.mp h
  have hmem := (mem_sortedBy key).mpr hb
  rw [hrest] at hsorted hmem
  rcases List.mem_cons.mp hmem with rfl | htail
  · exact le_refl _
  · exact (List.pairwise_cons.mp hsorted).1 b htail

/-- There is a first entry wherever there is one at all. -/
lemma firstBy_eq_none {xs : List α} : firstBy key xs = none ↔ xs = [] := by
  rw [firstBy, List.head?_eq_none_iff, sortedBy_eq_nil]

/-- Where no two entries tie, the first entry is the one before all others. -/
lemma firstBy_eq_some {xs : List α} (hkeys : (xs.map key).Nodup) {a : α} :
    firstBy key xs = some a ↔ a ∈ xs ∧ ∀ b ∈ xs, key a ≤ key b := by
  refine ⟨fun h => ⟨firstBy_mem h, firstBy_le h⟩, fun ⟨hmem, hle⟩ => ?_⟩
  cases hfirst : firstBy key xs with
  | none =>
      rw [firstBy_eq_none.mp hfirst] at hmem
      cases hmem
  | some b =>
      have hb := firstBy_mem hfirst
      have hkey := le_antisymm (firstBy_le hfirst a hmem) (hle b hb)
      rw [List.inj_on_of_nodup_map hkeys hb hmem hkey]

/-- The first entry of a longer list is the new one, unless an entry ranks before it. -/
lemma firstBy_cons (x : α) (xs : List α) :
    firstBy key (x :: xs)
      = match firstBy key xs with
        | none => some x
        | some y => if key x ≤ key y then some x else some y := by
  simp only [firstBy, sortedBy, List.insertionSort_cons]
  cases xs.insertionSort fun a b => key a ≤ key b with
  | nil => rfl
  | cons y ys =>
      rw [List.orderedInsert_cons]
      split_ifs <;> simp_all

/-- The entry that ranks before all entries ahead of it and after none of the others is first. -/
lemma firstBy_append_cons {before after : List α} {a : α} (hbefore : ∀ b ∈ before, key a < key b)
    (hafter : ∀ b ∈ after, key a ≤ key b) : firstBy key (before ++ a :: after) = some a := by
  induction before with
  | nil =>
      rw [List.nil_append, firstBy_cons]
      cases hfirst : firstBy key after with
      | none => rfl
      | some y =>
          have hle : key a ≤ key y := hafter y (firstBy_mem hfirst)
          exact if_pos hle
  | cons b before ih =>
      have hlt : key a < key b := hbefore b (List.mem_cons_self ..)
      rw [List.cons_append, firstBy_cons, ih fun c hc => hbefore c (List.mem_cons_of_mem _ hc)]
      exact if_neg (not_le.mpr hlt)

/-- What stands ahead of the first entry, and what behind it. -/
lemma split_of_firstBy {xs : List α} {a : α} (h : firstBy key xs = some a) :
    ∃ before after, xs = before ++ a :: after ∧ (∀ b ∈ before, key a < key b)
      ∧ ∀ b ∈ after, key a ≤ key b := by
  induction xs with
  | nil => simp [firstBy, sortedBy] at h
  | cons x xs ih =>
      rw [firstBy_cons] at h
      cases hfirst : firstBy key xs with
      | none =>
          rw [hfirst] at h
          cases h
          rw [firstBy_eq_none.mp hfirst]
          exact ⟨[], [], rfl, by simp, by simp⟩
      | some y =>
          rw [hfirst] at h
          dsimp only at h
          split_ifs at h with hxy
          · cases h
            exact ⟨[], xs, rfl, by simp, fun b hb => hxy.trans (firstBy_le hfirst b hb)⟩
          · rw [Option.some.injEq] at h
            subst h
            obtain ⟨before, after, rfl, hbefore, hafter⟩ := ih hfirst
            refine ⟨x :: before, after, rfl, fun b hb => ?_, hafter⟩
            rcases List.mem_cons.mp hb with rfl | hb
            · exact lt_of_not_ge hxy
            · exact hbefore b hb

/-- **The first entry, ties or not**: everything before it in the list ranks after it, and nothing
behind it ranks before. -/
theorem firstBy_eq_some_iff {xs : List α} {a : α} :
    firstBy key xs = some a
      ↔ ∃ before after, xs = before ++ a :: after ∧ (∀ b ∈ before, key a < key b)
        ∧ ∀ b ∈ after, key a ≤ key b := by
  constructor
  · exact split_of_firstBy
  · rintro ⟨before, after, rfl, hbefore, hafter⟩
    exact firstBy_append_cons hbefore hafter

/-- A list that is split comes of one that is split at the same place. -/
lemma split_of_forall₂ {β : Type*} {P : β → α → Prop} {rs : List β} {before after : List α} {a : α}
    (h : List.Forall₂ P rs (before ++ a :: after)) :
    ∃ earlier r later, rs = earlier ++ r :: later ∧ List.Forall₂ P earlier before ∧ P r a
      ∧ List.Forall₂ P later after := by
  induction before generalizing rs with
  | nil =>
      obtain ⟨r, later, hr, hlater, rfl⟩ := List.forall₂_cons_right_iff.mp h
      exact ⟨[], r, later, rfl, .nil, hr, hlater⟩
  | cons b before ih =>
      obtain ⟨s, rest, hs, hrest, rfl⟩ := List.forall₂_cons_right_iff.mp h
      obtain ⟨earlier, r, later, rfl, hearlier, hr, hlater⟩ := ih hrest
      exact ⟨s :: earlier, r, later, rfl, .cons hs hearlier, hr, hlater⟩

/-- The running maximum is above its start and above every entry. -/
lemma le_foldl_max (xs : List κ) (least : κ) :
    least ≤ xs.foldl max least ∧ ∀ x ∈ xs, x ≤ xs.foldl max least := by
  induction xs generalizing least with
  | nil => simp
  | cons x xs ih =>
      obtain ⟨hstart, hrest⟩ := ih (max least x)
      simp only [List.foldl_cons, List.mem_cons, forall_eq_or_imp]
      exact ⟨(le_max_left least x).trans hstart, (le_max_right least x).trans hstart, hrest⟩

end Ranking
