import CostPlatform.Library.Ranking

/-!
# Listings that are read page by page

A query with an order, a limit and an offset.  The order is by a key; where two rows tie, each query
may put them either way.  Of every page the reader sees the rows that are shown.

`pages_perm_iff` says when the pages of any such queries together hold every shown row once: no two
rows that tie are parted by the end of a page.
-/

namespace Pages

variable {α κ : Type*} [LinearOrder κ] (key : α → κ)

/-- The rows in an order that the key allows. -/
structure Arranges (rows arranged : List α) : Prop where
  perm : arranged.Perm rows
  sorted : arranged.Pairwise fun a b => key a ≤ key b

lemma arranges_sortedBy (rows : List α) : Arranges key rows (Ranking.sortedBy key rows) :=
  ⟨Ranking.perm_sortedBy key rows, Ranking.pairwise_sortedBy key rows⟩

/-- Some of the rows with the key come before the place and some after it. -/
def Splits (rows : List α) (place : Nat) (k : κ) : Prop :=
  rows.countP (fun row => key row < k) < place ∧ place < rows.countP fun row => key row ≤ k

instance (rows : List α) (place : Nat) (k : κ) : Decidable (Splits key rows place k) :=
  inferInstanceAs (Decidable (_ ∧ _))

def page (arranged : List α) (limit number : Nat) : List α :=
  (arranged.drop (limit * number)).take limit

/-- The first pages, each from the answer to its own query. -/
def pages (answers : Nat → List α) (limit count : Nat) : List α :=
  (List.range count).flatMap fun number => page (answers number) limit number

variable {key} {rows arranged front back : List α} {a b : α}

/-- What ranks before an entry of an ordered list stands before it. -/
lemma countP_lt_le (h : (front ++ a :: back).Pairwise fun a b => key a ≤ key b) :
    (front ++ a :: back).countP (fun row => key row < key a) ≤ front.length := by
  obtain ⟨-, hlater, -⟩ := List.pairwise_append.mp h
  have hnone : (a :: back).countP (fun row => decide (key row < key a)) = 0 := by
    refine List.countP_eq_zero.mpr fun row hrow => ?_
    rcases List.mem_cons.mp hrow with rfl | hrow
    · simp
    · simpa using List.rel_of_pairwise_cons hlater hrow
  rw [List.countP_append, hnone, add_zero]
  exact List.countP_le_length

/-- Up to an entry nothing ranks behind it. -/
lemma lt_countP_le (h : (front ++ a :: back).Pairwise fun a b => key a ≤ key b) :
    front.length < (front ++ a :: back).countP (fun row => key row ≤ key a) := by
  obtain ⟨-, -, hbefore⟩ := List.pairwise_append.mp h
  have hall : front.countP (fun row => decide (key row ≤ key a)) = front.length :=
    List.countP_eq_length.mpr fun row hrow => by simpa using hbefore row hrow a List.mem_cons_self
  rw [List.countP_append, hall, List.countP_cons_of_pos (by simp)]
  omega

/-- Where the ranks of a key are, the entry has the key. -/
lemma key_eq_of_count (h : (front ++ a :: back).Pairwise fun a b => key a ≤ key b) {k : κ}
    (hbefore : (front ++ a :: back).countP (fun row => key row < k) ≤ front.length)
    (hbehind : front.length < (front ++ a :: back).countP (fun row => key row ≤ k)) :
    key a = k := by
  refine le_antisymm (not_lt.mp fun hlt => ?_) (not_lt.mp fun hlt => ?_)
  · -- everything up to the key ranks before the entry
    refine absurd hbehind (not_lt.mpr (le_trans ?_ (countP_lt_le h)))
    refine List.countP_mono_left fun row _ hrow => ?_
    simpa using lt_of_le_of_lt (by simpa using hrow) hlt
  · refine absurd (lt_countP_le h) (not_lt.mpr (le_trans ?_ hbefore))
    refine List.countP_mono_left fun row _ hrow => ?_
    simpa using lt_of_le_of_lt (by simpa using hrow) hlt

section Complete

variable {shown : α → Bool} {place limit count : Nat} {answers : Nat → List α}

/-- **What is shown of the first rows**, where the place parts no shown rows that tie: those that
    are no more than the place with all that rank with them. -/
lemma filter_take (h : Arranges key rows arranged)
    (hwhole : ∀ row ∈ rows, shown row = true → ¬ Splits key rows place (key row)) :
    (arranged.take place).filter shown = arranged.filter fun row =>
      shown row && rows.countP (fun other => key other ≤ key row) ≤ place := by
  have hcount : ∀ p : α → Bool, rows.countP p = arranged.countP p :=
    fun p => (h.perm.countP_eq p).symm
  have hfirst : ∀ row ∈ arranged.take place, shown row = true →
      rows.countP (fun other => key other ≤ key row) ≤ place := by
    intro row hrow hshown
    have hmem := h.perm.mem_iff.mp (List.mem_of_mem_take hrow)
    obtain ⟨front, back, heq⟩ := List.append_of_mem hrow
    have hsplit : arranged = front ++ row :: (back ++ arranged.drop place) := by
      conv_lhs => rw [← List.take_append_drop place arranged, heq]
      simp
    have hlength : front.length < place := by
      have hlen := congrArg List.length heq
      rw [List.length_take, List.length_append, List.length_cons] at hlen
      omega
    have hbefore := countP_lt_le (hsplit ▸ h.sorted)
    rw [← hsplit, ← hcount] at hbefore
    exact not_lt.mp fun hlt => hwhole row hmem hshown ⟨hbefore.trans_lt hlength, hlt⟩
  have hrest : ∀ row ∈ arranged.drop place,
      place < rows.countP (fun other => key other ≤ key row) := by
    intro row hrow
    obtain ⟨front, back, heq⟩ := List.append_of_mem hrow
    have hsplit : arranged = (arranged.take place ++ front) ++ row :: back := by
      conv_lhs => rw [← List.take_append_drop place arranged, heq]
      simp
    have hlength : place ≤ (arranged.take place ++ front).length := by
      have hplace : place ≤ arranged.length := by
        by_contra hshort
        rw [List.drop_eq_nil_of_le (by omega)] at hrow
        cases hrow
      rw [List.length_append, List.length_take]
      omega
    have hbehind := lt_countP_le (hsplit ▸ h.sorted)
    rw [← hsplit, ← hcount] at hbehind
    exact hlength.trans_lt hbehind
  have hnone : ((arranged.drop place).filter fun row =>
      shown row && rows.countP (fun other => key other ≤ key row) ≤ place) = [] :=
    List.filter_eq_nil_iff.mpr fun row hrow => by simpa using fun _ => hrest row hrow
  conv_rhs => rw [← List.take_append_drop place arranged, List.filter_append, hnone,
    List.append_nil]
  refine List.filter_congr fun row hrow => ?_
  cases hshown : shown row with
  | false => rfl
  | true => simpa using hfirst row hrow hshown

/-- Pages that end between ties come to the first rows of any order. -/
lemma pages_perm_take (hanswers : ∀ number, Arranges key rows (answers number))
    (hwhole : ∀ number < count, ∀ row ∈ rows, shown row = true →
      ¬ Splits key rows (limit * (number + 1)) (key row))
    (harranged : Arranges key rows arranged) :
    ((pages answers limit count).filter shown).Perm
      ((arranged.take (limit * count)).filter shown) := by
  induction count generalizing arranged with
  | zero => simp [pages]
  | succ count ih =>
      have hfirst := ih (fun number hnumber => hwhole number (by omega)) (hanswers count)
      have hboth : ((answers count).take (limit * (count + 1))).filter shown
          = ((answers count).take (limit * count)).filter shown
            ++ (page (answers count) limit count).filter shown := by
        rw [Nat.mul_succ, List.take_add, List.filter_append, page]
      have hsame : (((answers count).take (limit * (count + 1))).filter shown).Perm
          ((arranged.take (limit * (count + 1))).filter shown) := by
        rw [filter_take (hanswers count) (hwhole count (by omega)),
          filter_take harranged (hwhole count (by omega))]
        exact ((hanswers count).perm.trans harranged.perm.symm).filter _
      rw [pages, List.range_succ, List.flatMap_append, List.filter_append, ← pages]
      refine List.Perm.trans ?_ hsame
      rw [hboth]
      exact hfirst.append (by simp)

lemma mem_take_of_mem_page {number other : Nat} (h : a ∈ page arranged limit other)
    (hle : other ≤ number) : a ∈ arranged.take (limit * (number + 1)) := by
  have hend : limit * other + limit ≤ limit * (number + 1) := by
    rw [← Nat.mul_succ]
    exact Nat.mul_le_mul_left _ (by omega)
  rw [page, List.take_drop] at h
  exact (List.take_sublist_take_left hend).subset (List.mem_of_mem_drop h)

lemma mem_drop_of_mem_page {number other : Nat} (h : a ∈ page arranged limit other)
    (hlt : number < other) : a ∈ arranged.drop (limit * (number + 1)) :=
  (List.drop_sublist_drop_left arranged (Nat.mul_le_mul_left _ (by omega))).subset
    (List.mem_of_mem_take h)

/-- Two neighbours that tie, at a place that parts them. -/
lemma exists_tied_of_splits (h : Arranges key rows arranged) {k : κ}
    (hsplits : Splits key rows place k) :
    ∃ front a b back, arranged = front ++ a :: b :: back ∧ front.length + 1 = place
      ∧ key a = k ∧ key b = k := by
  have hcount : ∀ p : α → Bool, rows.countP p = arranged.countP p :=
    fun p => (h.perm.countP_eq p).symm
  obtain ⟨hbefore, hbehind⟩ := hsplits
  rw [hcount] at hbefore hbehind
  have hlt : place < arranged.length := hbehind.trans_le List.countP_le_length
  obtain ⟨last, rfl⟩ : ∃ last, place = last + 1 := ⟨place - 1, by omega⟩
  have heq : arranged = arranged.take last ++ arranged[last] :: arranged[last + 1]
      :: arranged.drop (last + 2) := by
    conv_lhs => rw [← List.take_append_drop last arranged]
    rw [List.drop_eq_getElem_cons (by omega), List.drop_eq_getElem_cons hlt]
  have hlast : (arranged.take last).length = last := List.length_take_of_le (by omega)
  refine ⟨arranged.take last, arranged[last], arranged[last + 1], arranged.drop (last + 2), heq,
    by rw [hlast], key_eq_of_count (heq ▸ h.sorted) ?_ ?_, ?_⟩
  · rw [← heq, hlast]
    omega
  · rw [← heq, hlast]
    omega
  · have heq' : arranged = (arranged.take last ++ [arranged[last]]) ++ arranged[last + 1]
        :: arranged.drop (last + 2) := by
      rw [List.append_assoc]
      exact heq
    have hlength : (arranged.take last ++ [arranged[last]]).length = last + 1 := by
      rw [List.length_append, hlast, List.length_singleton]
    refine key_eq_of_count (heq' ▸ h.sorted) ?_ ?_
    · rw [← heq', hlength]
      omega
    · rw [← heq', hlength]
      omega

/-- Two neighbours that tie may as well stand the other way. -/
lemma Arranges.swap (h : Arranges key rows (front ++ a :: b :: back)) (htied : key b = key a) :
    Arranges key rows (front ++ b :: a :: back) := by
  refine ⟨((List.Perm.swap a b back).append_left front).trans h.perm, ?_⟩
  have hpairs := h.sorted
  simp only [List.pairwise_append, List.pairwise_cons, List.mem_cons, forall_eq_or_imp]
    at hpairs ⊢
  obtain ⟨hfront, ⟨⟨-, hafter⟩, hbafter, hback⟩, hbetween⟩ := hpairs
  exact ⟨hfront, ⟨⟨htied.le, hbafter⟩, hafter, hback⟩, fun row hrow =>
    ⟨(hbetween row hrow).2.1, (hbetween row hrow).1, (hbetween row hrow).2.2⟩⟩

/-- The place that parts two neighbours. -/
lemma parted_at (hplace : front.length + 1 = place) (a b : α) (back : List α) :
    (front ++ a :: b :: back).take place = front ++ [a]
      ∧ (front ++ a :: b :: back).drop place = b :: back := by
  have hlength : (front ++ [a]).length = place := by
    rw [List.length_append, List.length_singleton, hplace]
  rw [show front ++ a :: b :: back = (front ++ [a]) ++ b :: back by simp]
  exact ⟨List.take_left' hlength, List.drop_left' hlength⟩

/-- Where the later queries put two rows the other way that stand around the end of a page, the
    second one is on no page. -/
lemma notMem_pages_of_swapped {number : Nat} (hnodup : (front ++ a :: b :: back).Nodup)
    (hplace : front.length + 1 = limit * (number + 1)) :
    b ∉ pages (fun other => if other ≤ number then front ++ a :: b :: back
      else front ++ b :: a :: back) limit count := by
  simp only [List.nodup_append, List.nodup_cons, List.mem_cons, not_or] at hnodup
  obtain ⟨-, ⟨⟨hab, -⟩, hbback, -⟩, hfront⟩ := hnodup
  intro hmem
  obtain ⟨other, -, hpage⟩ := List.mem_flatMap.mp hmem
  dsimp only at hpage
  split_ifs at hpage with hearlier
  · have htake := mem_take_of_mem_page hpage hearlier
    rw [(parted_at hplace a b back).1, List.mem_append, List.mem_singleton] at htake
    rcases htake with hbfront | hba
    · exact (hfront b hbfront b (Or.inr (Or.inl rfl))) rfl
    · exact hab hba.symm
  · have hdrop := mem_drop_of_mem_page hpage (not_le.mp hearlier)
    rw [(parted_at hplace b a back).2, List.mem_cons] at hdrop
    exact hdrop.elim (fun hba => hab hba.symm) hbback

/-- **When pages are complete.**  Whatever order each query puts its ties in, the pages show every
    row once, exactly if no page ends between two shown rows that tie. -/
theorem pages_perm_iff (hnodup : rows.Nodup)
    (hshown : ∀ row ∈ rows, ∀ other ∈ rows, key row = key other → shown row = shown other)
    (hall : rows.length ≤ limit * count) :
    (∀ answers : Nat → List α, (∀ number, Arranges key rows (answers number)) →
        ((pages answers limit count).filter shown).Perm (rows.filter shown))
      ↔ ∀ number < count, ∀ row ∈ rows, shown row = true →
          ¬ Splits key rows (limit * (number + 1)) (key row) := by
  constructor
  · intro hcomplete number hnumber row hrow hseen hsplits
    have hsorted := arranges_sortedBy key rows
    obtain ⟨front, a, b, back, heq, hplace, ha, hb⟩ := exists_tied_of_splits hsorted hsplits
    rw [heq] at hsorted
    have hswapped := hsorted.swap (hb.trans ha.symm)
    have hmem : b ∈ rows := hsorted.perm.mem_iff.mp (by simp)
    have hb' : b ∈ rows.filter shown :=
      List.mem_filter.mpr ⟨hmem, (hshown b hmem row hrow hb).trans hseen⟩
    have hperm := hcomplete (fun other => if other ≤ number then front ++ a :: b :: back
      else front ++ b :: a :: back) fun other => by split_ifs <;> assumption
    exact notMem_pages_of_swapped (hsorted.perm.nodup_iff.mpr hnodup) hplace
      (List.mem_filter.mp (hperm.mem_iff.mpr hb')).1
  · intro hwhole answers hanswers
    have hpages := pages_perm_take hanswers hwhole (arranges_sortedBy key rows)
    rw [List.take_of_length_le (by rwa [(Ranking.perm_sortedBy key rows).length_eq])] at hpages
    exact hpages.trans ((Ranking.perm_sortedBy key rows).filter _)

end Complete

end Pages
