import Mathlib.Algebra.BigOperators.Group.List.Basic
import Mathlib.Data.List.Nodup
import Mathlib.Tactic.Lemma

/-!
# Dictionaries in insertion order

A `Dict` keeps its entries in the order their keys were first set in, and each key once.  Setting a
key again replaces the value where the key is.  `ofPairs` sets one pair after the other, so that of
several pairs with one key the last one is kept (`get?_ofPairs`).  `perm_entries_filter` says when
the entries that count are the pairs that do: each key has one such pair, and it is the last one.
`sum_join` adds up what two dictionaries make of the keys they share, from either side.
-/

/-- Entries with pairwise distinct keys. -/
structure Dict (κ α : Type*) where
  entries : List (κ × α)
  nodup : (entries.map Prod.fst).Nodup

namespace Dict

variable {κ α : Type*}

def keys (d : Dict κ α) : List κ := d.entries.map Prod.fst

def values (d : Dict κ α) : List α := d.entries.map Prod.snd

def empty : Dict κ α := ⟨[], List.nodup_nil⟩

/-- The values replaced, under the same keys. -/
def map {β : Type*} (f : α → β) (d : Dict κ α) : Dict κ β where
  entries := d.entries.map fun entry => (entry.1, f entry.2)
  nodup := by
    rw [List.map_map]
    exact d.nodup

variable [DecidableEq κ]

def get? (d : Dict κ α) (key : κ) : Option α :=
  (d.entries.find? fun entry => entry.1 = key).map Prod.snd

def setEntry : List (κ × α) → κ → α → List (κ × α)
  | [], key, value => [(key, value)]
  | entry :: entries, key, value =>
      if entry.1 = key then (key, value) :: entries else entry :: setEntry entries key value

lemma map_fst_setEntry (entries : List (κ × α)) (key : κ) (value : α) :
    (setEntry entries key value).map Prod.fst
      = if key ∈ entries.map Prod.fst then entries.map Prod.fst
        else entries.map Prod.fst ++ [key] := by
  induction entries with
  | nil => simp [setEntry]
  | cons entry entries ih =>
      rw [setEntry]
      by_cases hkey : entry.1 = key
      · simp [hkey]
      · rw [if_neg hkey, List.map_cons, ih]
        have hmem : key ∈ (entry :: entries).map Prod.fst ↔ key ∈ entries.map Prod.fst := by
          rw [List.map_cons, List.mem_cons, or_iff_right (Ne.symm hkey)]
        simp only [hmem]
        split_ifs
        · rfl
        · rfl

/-- `d[key] = value`. -/
def set (d : Dict κ α) (key : κ) (value : α) : Dict κ α where
  entries := setEntry d.entries key value
  nodup := by
    rw [map_fst_setEntry]
    split_ifs with hkey
    · exact d.nodup
    · exact d.nodup.append (List.nodup_singleton key) (by simpa using hkey)

/-- Set one pair after the other. -/
def setAll (d : Dict κ α) (pairs : List (κ × α)) : Dict κ α :=
  pairs.foldl (fun d pair => d.set pair.1 pair.2) d

def ofPairs (pairs : List (κ × α)) : Dict κ α := empty.setAll pairs

lemma setAll_cons (d : Dict κ α) (pair : κ × α) (pairs : List (κ × α)) :
    d.setAll (pair :: pairs) = (d.set pair.1 pair.2).setAll pairs := rfl

variable {d : Dict κ α} {key : κ} {value : α} {pairs : List (κ × α)}

lemma fst_of_find? {entries : List (κ × α)} {entry : κ × α}
    (h : (entries.find? fun entry => entry.1 = key) = some entry) : entry.1 = key := by
  simpa using List.find?_some h

lemma get?_eq_some : d.get? key = some value ↔ (key, value) ∈ d.entries := by
  rw [get?, Option.map_eq_some_iff]
  constructor
  · rintro ⟨entry, hfind, rfl⟩
    exact fst_of_find? hfind ▸ List.mem_of_find?_eq_some hfind
  · intro hmem
    cases hfind : d.entries.find? fun entry => entry.1 = key with
    | none =>
        have hne := List.find?_eq_none.mp hfind _ hmem
        simp at hne
    | some entry =>
        have hentry := List.inj_on_of_nodup_map d.nodup (List.mem_of_find?_eq_some hfind) hmem
          (fst_of_find? hfind)
        exact ⟨entry, rfl, congrArg Prod.snd hentry⟩

lemma mem_keys : key ∈ d.keys ↔ ∃ value, d.get? key = some value := by
  simp [keys, get?_eq_some]

/-- **Reading after writing.** -/
lemma get?_set (d : Dict κ α) (key : κ) (value : α) (other : κ) :
    (d.set key value).get? other = if other = key then some value else d.get? other := by
  have hentries : ∀ entries : List (κ × α),
      ((setEntry entries key value).find? fun entry => entry.1 = other).map Prod.snd
        = if other = key then some value
          else (entries.find? fun entry => entry.1 = other).map Prod.snd := by
    intro entries
    induction entries with
    | nil =>
        by_cases h : other = key
        · simp [setEntry, h]
        · simp [setEntry, h, Ne.symm h]
    | cons entry entries ih =>
        rw [setEntry]
        by_cases hkey : entry.1 = key
        · by_cases h : other = key
          · simp [hkey, h]
          · simp [hkey, h, Ne.symm h]
        · rw [if_neg hkey]
          by_cases hother : entry.1 = other
          · have h : other ≠ key := fun h => hkey (hother.trans h)
            simp [hother, h]
          · simp only [List.find?_cons, hother, decide_false, ih]
  exact hentries d.entries

@[simp] lemma get?_empty : (empty : Dict κ α).get? key = none := rfl

/-- **The last pair of a key is kept.** -/
theorem get?_setAll (d : Dict κ α) (pairs : List (κ × α)) (key : κ) :
    (d.setAll pairs).get? key
      = ((pairs.reverse.find? fun pair => pair.1 = key).map Prod.snd).or (d.get? key) := by
  induction pairs generalizing d with
  | nil => rfl
  | cons pair pairs ih =>
      rw [setAll_cons, ih, get?_set, List.reverse_cons, List.find?_append]
      cases hfind : pairs.reverse.find? fun pair => pair.1 = key with
      | some later => simp
      | none =>
          by_cases hkey : pair.1 = key
          · simp [hkey]
          · simp [hkey, Ne.symm hkey]

lemma get?_ofPairs (pairs : List (κ × α)) (key : κ) :
    (ofPairs pairs).get? key = (pairs.reverse.find? fun pair => pair.1 = key).map Prod.snd := by
  rw [ofPairs, get?_setAll, get?_empty, Option.or_none]

lemma mem_keys_ofPairs : key ∈ (ofPairs pairs).keys ↔ key ∈ pairs.map Prod.fst := by
  rw [mem_keys]
  simp only [get?_ofPairs, Option.map_eq_some_iff, List.mem_map]
  constructor
  · rintro ⟨value, pair, hfind, -⟩
    exact ⟨pair, List.mem_reverse.mp (List.mem_of_find?_eq_some hfind), fst_of_find? hfind⟩
  · rintro ⟨pair, hpair, hkey⟩
    cases hfind : pairs.reverse.find? fun pair => pair.1 = key with
    | none =>
        have hne := List.find?_eq_none.mp hfind pair (List.mem_reverse.mpr hpair)
        exact absurd (decide_eq_true hkey) hne
    | some last => exact ⟨last.2, last, rfl, rfl⟩

/-- What is kept was set. -/
lemma mem_of_get?_ofPairs (h : (ofPairs pairs).get? key = some value) : (key, value) ∈ pairs := by
  rw [get?_ofPairs, Option.map_eq_some_iff] at h
  obtain ⟨pair, hfind, rfl⟩ := h
  exact fst_of_find? hfind ▸ List.mem_reverse.mp (List.mem_of_find?_eq_some hfind)

/-- What is kept of a key is set by its last pair. -/
theorem get?_ofPairs_eq_some_iff : (ofPairs pairs).get? key = some value
    ↔ ∃ before after, pairs = before ++ (key, value) :: after ∧ key ∉ after.map Prod.fst := by
  rw [get?_ofPairs, Option.map_eq_some_iff]
  constructor
  · rintro ⟨pair, hfind, rfl⟩
    obtain ⟨hkey, later, earlier, hsplit, hlater⟩ := List.find?_eq_some_iff_append.mp hfind
    obtain rfl : pair.1 = key := by simpa using hkey
    refine ⟨earlier.reverse, later.reverse, ?_, fun hmem => ?_⟩
    · rw [← List.reverse_reverse pairs, hsplit]
      simp
    · obtain ⟨other, hother, hsame⟩ := List.mem_map.mp hmem
      have hne := hlater other (List.mem_reverse.mp hother)
      simp [hsame] at hne
  · rintro ⟨before, after, rfl, hlast⟩
    refine ⟨(key, value), List.find?_eq_some_iff_append.mpr ⟨by simp, ?_⟩, rfl⟩
    refine ⟨after.reverse, before.reverse, by simp, fun other hother => ?_⟩
    have hne : other.1 ≠ key := fun hsame =>
      hlast (hsame ▸ List.mem_map_of_mem (List.mem_reverse.mp hother))
    simp [hne]

/-- Pairs with distinct keys are the entries. -/
lemma perm_entries_of_nodup (hnodup : (pairs.map Prod.fst).Nodup) :
    (ofPairs pairs).entries.Perm pairs := by
  refine (List.perm_ext_iff_of_nodup (List.Nodup.of_map _ (ofPairs pairs).nodup)
    (List.Nodup.of_map _ hnodup)).mpr fun pair => ⟨fun hentry => ?_, fun hpair => ?_⟩
  · exact mem_of_get?_ofPairs (get?_eq_some.mpr hentry)
  · obtain ⟨value, hget⟩ := mem_keys.mp (mem_keys_ofPairs.mpr (List.mem_map_of_mem hpair))
    have hsame : (pair.1, value) = pair :=
      List.inj_on_of_nodup_map hnodup (mem_of_get?_ofPairs hget) hpair rfl
    exact hsame ▸ get?_eq_some.mp hget

/-- **The entries that count are the pairs that count**, where each key has one such pair and it is
    the last one. -/
theorem perm_entries_filter {counts : α → Bool}
    (honce : ((pairs.filter fun pair => counts pair.2).map Prod.fst).Nodup)
    (hlast : ∀ pair ∈ pairs, counts pair.2 = true →
      ∃ value, (ofPairs pairs).get? pair.1 = some value ∧ counts value = true) :
    ((ofPairs pairs).entries.filter fun entry => counts entry.2).Perm
      (pairs.filter fun pair => counts pair.2) := by
  have hentries : ((ofPairs pairs).entries.filter fun entry => counts entry.2).Nodup :=
    (List.Nodup.of_map _ (ofPairs pairs).nodup).filter _
  refine (List.perm_ext_iff_of_nodup hentries (List.Nodup.of_map _ honce)).mpr fun pair => ?_
  simp only [List.mem_filter]
  refine and_congr_left fun hcounts => ⟨fun hentry => ?_, fun hpair => ?_⟩
  · exact mem_of_get?_ofPairs (get?_eq_some.mpr hentry)
  · obtain ⟨value, hget, hvalue⟩ := hlast pair hpair hcounts
    -- the pair that is kept counts too, so it is this one
    have hsame : (pair.1, value) = pair :=
      List.inj_on_of_nodup_map honce
        (List.mem_filter.mpr ⟨mem_of_get?_ofPairs hget, hvalue⟩)
        (List.mem_filter.mpr ⟨hpair, hcounts⟩) rfl
    exact hsame ▸ get?_eq_some.mp hget

/-! ## Sums over the keys of two dictionaries -/

section Sums

variable {β M : Type*} [AddCommMonoid M]

/-- What a key has, as a sum over the entries. -/
lemma elim_get?_eq_sum (d : Dict κ α) (key : κ) (g : α → M) :
    (d.get? key).elim 0 g
      = (d.entries.map fun entry => if entry.1 = key then g entry.2 else 0).sum := by
  have hentries : ∀ entries : List (κ × α), (entries.map Prod.fst).Nodup →
      ((entries.find? fun entry => entry.1 = key).map Prod.snd).elim 0 g
        = (entries.map fun entry => if entry.1 = key then g entry.2 else 0).sum := by
    intro entries hnodup
    induction entries with
    | nil => rfl
    | cons entry entries ih =>
        obtain ⟨hhead, htail⟩ := List.nodup_cons.mp hnodup
        rw [List.map_cons, List.sum_cons]
        by_cases hkey : entry.1 = key
        · have hrest :
              (entries.map fun entry => if entry.1 = key then g entry.2 else 0).sum = 0 := by
            refine List.sum_eq_zero fun x hx => ?_
            obtain ⟨other, hother, rfl⟩ := List.mem_map.mp hx
            refine if_neg fun hsame => hhead ?_
            exact hkey ▸ hsame ▸ List.mem_map_of_mem hother
          simp [hkey, hrest]
        · simp only [List.find?_cons, hkey, decide_false, if_false, zero_add]
          exact ih htail
  exact hentries d.entries d.nodup

/-- **What two dictionaries make of the keys they share** adds up to the same from either side. -/
theorem sum_join (d : Dict κ α) (e : Dict κ β) (f : κ → α → β → M) :
    (d.entries.map fun entry => (e.get? entry.1).elim 0 (f entry.1 entry.2)).sum
      = (e.entries.map fun entry =>
          (d.get? entry.1).elim 0 fun value => f entry.1 value entry.2).sum := by
  have hswap : ∀ xs : List (κ × α),
      (xs.map fun x => (e.entries.map fun y => if y.1 = x.1 then f x.1 x.2 y.2 else 0).sum).sum
        = (e.entries.map fun y =>
            (xs.map fun x => if x.1 = y.1 then f y.1 x.2 y.2 else 0).sum).sum := by
    intro xs
    induction xs with
    | nil => simp
    | cons x xs ih =>
        simp only [List.map_cons, List.sum_cons, ih, List.sum_map_add]
        refine congrArg (· + _) (congrArg List.sum (List.map_congr_left fun y _ => ?_))
        by_cases hkey : x.1 = y.1
        · simp [hkey]
        · simp [hkey, Ne.symm hkey]
  simp only [elim_get?_eq_sum]
  exact hswap d.entries

end Sums

end Dict
