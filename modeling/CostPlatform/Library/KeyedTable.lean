import Mathlib.Data.List.Basic
import Mathlib.Data.List.Nodup
import Mathlib.Tactic.Lemma

/-!
# Tables with a primary key

`Table key` is a list of rows in which no key occurs twice.  The uniqueness is a field, so every
operation that returns a table has shown that it keeps it: `modify` may only apply functions that
leave the key alone, and `insert?` refuses a row whose key is already there.
-/

/-- Rows with pairwise distinct keys. -/
structure Table {κ ρ : Type*} (key : ρ → κ) where
  rows : List ρ
  nodup : (rows.map key).Nodup

namespace Table

variable {κ ρ : Type*} {key : ρ → κ}

/-- A table is its rows. -/
@[ext] lemma ext {t u : Table key} (h : t.rows = u.rows) : t = u := by
  cases t
  cases u
  subst h
  rfl

lemma eq_of_key (t : Table key) {r r' : ρ} (hr : r ∈ t.rows) (hr' : r' ∈ t.rows)
    (hkey : key r = key r') : r = r' :=
  List.inj_on_of_nodup_map t.nodup hr hr' hkey

/-- The rows satisfying `p`. -/
def filter (t : Table key) (p : ρ → Bool) : Table key where
  rows := t.rows.filter p
  nodup := t.nodup.sublist (List.filter_sublist.map key)

variable [DecidableEq κ]

/-- The row with the given key, if there is one. -/
def get (t : Table key) (k : κ) : Option ρ := t.rows.find? fun r => key r = k

/-- Apply `f` to the row with the given key.  A key that names no row changes nothing. -/
def modify (t : Table key) (k : κ) (f : ρ → ρ) (hf : ∀ r, key (f r) = key r) : Table key where
  rows := t.rows.map fun r => if key r = k then f r else r
  nodup := by
    have hkeys : (t.rows.map fun r => if key r = k then f r else r).map key
        = t.rows.map key := by
      rw [List.map_map]
      refine List.map_congr_left fun r _ => ?_
      simp only [Function.comp_apply]
      split_ifs with h
      · exact hf r
      · rfl
    rw [hkeys]
    exact t.nodup

/-- Append a row, unless its key is taken. -/
def insert? (t : Table key) (r : ρ) : Option (Table key) :=
  if h : key r ∈ t.rows.map key then none
  else some {
    rows := t.rows ++ [r]
    nodup := by
      rw [List.map_append, List.map_singleton]
      exact t.nodup.append (List.nodup_singleton _) (by simpa using h) }

theorem get_eq_some {t : Table key} {k : κ} {r : ρ} :
    t.get k = some r ↔ r ∈ t.rows ∧ key r = k := by
  constructor
  · intro h
    exact ⟨List.mem_of_find?_eq_some h, by simpa using List.find?_some h⟩
  · rintro ⟨hr, hk⟩
    cases hget : t.get k with
    | none =>
        have := List.find?_eq_none.mp hget r hr
        simp [hk] at this
    | some r' =>
        have hr' : r' ∈ t.rows := List.mem_of_find?_eq_some hget
        have hk' : key r' = k := by simpa using List.find?_some hget
        rw [t.eq_of_key hr' hr (hk'.trans hk.symm)]

lemma get_eq_none {t : Table key} {k : κ} :
    t.get k = none ↔ ∀ r ∈ t.rows, key r ≠ k := by
  simp [get]

theorem mem_modify {t : Table key} {k : κ} {f : ρ → ρ} {hf : ∀ r, key (f r) = key r} {r : ρ} :
    r ∈ (t.modify k f hf).rows
      ↔ (∃ r₀ ∈ t.rows, key r₀ = k ∧ f r₀ = r) ∨ (r ∈ t.rows ∧ key r ≠ k) := by
  simp only [modify, List.mem_map]
  constructor
  · rintro ⟨r₀, hr₀, rfl⟩
    split_ifs with h
    · exact Or.inl ⟨r₀, hr₀, h, rfl⟩
    · exact Or.inr ⟨hr₀, h⟩
  · rintro (⟨r₀, hr₀, hk, rfl⟩ | ⟨hr, hk⟩)
    · exact ⟨r₀, hr₀, by rw [if_pos hk]⟩
    · exact ⟨r, hr, by rw [if_neg hk]⟩

/-- Reading after writing: the written row changes, every other row stays. -/
theorem get_modify {t : Table key} {k k' : κ} {f : ρ → ρ} {hf : ∀ r, key (f r) = key r} :
    (t.modify k f hf).get k' = if k' = k then (t.get k).map f else t.get k' := by
  by_cases hk : k' = k
  · subst hk
    rw [if_pos rfl]
    cases hget : t.get k' with
    | none =>
        refine get_eq_none.mpr fun r hr => ?_
        rcases mem_modify.mp hr with ⟨r₀, hr₀, hk₀, -⟩ | ⟨-, hne⟩
        · exact absurd hk₀ (get_eq_none.mp hget r₀ hr₀)
        · exact hne
    | some r =>
        obtain ⟨hr, hkr⟩ := get_eq_some.mp hget
        refine get_eq_some.mpr ⟨mem_modify.mpr (Or.inl ⟨r, hr, hkr, rfl⟩), ?_⟩
        rw [hf, hkr]
  · rw [if_neg hk]
    cases hget : t.get k' with
    | none =>
        refine get_eq_none.mpr fun r hr hkr => ?_
        rcases mem_modify.mp hr with ⟨r₀, -, hk₀, rfl⟩ | ⟨hr, -⟩
        · rw [hf, hk₀] at hkr
          exact hk hkr.symm
        · exact get_eq_none.mp hget r hr hkr
    | some r =>
        obtain ⟨hr, hkr⟩ := get_eq_some.mp hget
        exact get_eq_some.mpr
          ⟨mem_modify.mpr (Or.inr ⟨hr, fun h => hk (hkr.symm.trans h)⟩), hkr⟩

/-- The row that was written, read from the table after the write. -/
lemma get_of_eq_modify {t u : Table key} {k : κ} {f : ρ → ρ} {hf : ∀ r, key (f r) = key r}
    {r : ρ} (h : u = t.modify k f hf) (hget : t.get k = some r) : u.get k = some (f r) := by
  rw [h, get_modify, if_pos rfl, hget, Option.map_some]

/-- Writing is a no-op exactly when it writes what is there. -/
theorem modify_eq_self_iff {t : Table key} {k : κ} {f : ρ → ρ} {hf : ∀ r, key (f r) = key r}
    {r : ρ} (hget : t.get k = some r) : t.modify k f hf = t ↔ f r = r := by
  constructor
  · intro hsame
    have hread : (t.modify k f hf).get k = some (f r) := by
      rw [get_modify, if_pos rfl, hget, Option.map_some]
    rw [hsame, hget] at hread
    exact (Option.some.inj hread).symm
  · intro hfix
    obtain ⟨hr, hk⟩ := get_eq_some.mp hget
    refine ext ((List.map_congr_left fun r' hr' => ?_).trans (List.map_id _))
    split_ifs with hk'
    · rw [t.eq_of_key hr' hr (hk'.trans hk.symm), hfix]
      rfl
    · rfl

lemma length_modify (t : Table key) (k : κ) (f : ρ → ρ) (hf : ∀ r, key (f r) = key r) :
    (t.modify k f hf).rows.length = t.rows.length := by
  simp [modify]

/-- A write that takes its row out of a query's answer leaves the rest of the answer. -/
lemma filter_modify (t : Table key) (k : κ) (f : ρ → ρ) (hf : ∀ r, key (f r) = key r)
    (p : ρ → Bool) (hout : ∀ r, p (f r) = false) :
    (t.modify k f hf).rows.filter p = (t.rows.filter p).filter fun r => key r ≠ k := by
  simp only [modify]
  induction t.rows with
  | nil => rfl
  | cons r rows ih =>
      by_cases hk : key r = k
      · by_cases hp : p r = true
        · simp [hk, hout, hp, ih]
        · simp [hk, hout, hp, ih]
      · by_cases hp : p r = true
        · simp [hk, hp, ih]
        · simp [hk, hp, ih]

lemma rows_of_insert? {t u : Table key} {r : ρ} (h : t.insert? r = some u) :
    u.rows = t.rows ++ [r] := by
  simp only [insert?] at h
  split_ifs at h
  rw [← Option.some.inj h]

/-- **An insert succeeds exactly on a new key.** -/
theorem insert?_succeeds_iff {t : Table key} {r : ρ} :
    (∃ u, t.insert? r = some u) ↔ key r ∉ t.rows.map key := by
  simp only [insert?]
  split_ifs with h
  · simp [h]
  · simp [h]

/-- What was inserted is there. -/
lemma get_of_insert? {t u : Table key} {r : ρ} (h : t.insert? r = some u) :
    u.get (key r) = some r := by
  refine get_eq_some.mpr ⟨?_, rfl⟩
  rw [rows_of_insert? h]
  exact List.mem_append_right _ (List.mem_singleton.mpr rfl)

/-- What was there before an insert still is. -/
lemma get_insert?_of_get {t u : Table key} {r r' : ρ} {k : κ} (h : t.insert? r = some u)
    (hget : t.get k = some r') : u.get k = some r' := by
  obtain ⟨hrow, hkey⟩ := get_eq_some.mp hget
  refine get_eq_some.mpr ⟨?_, hkey⟩
  rw [rows_of_insert? h]
  exact List.mem_append_left _ hrow

end Table
