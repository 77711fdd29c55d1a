import CostPlatform.Intelligence.SupplyChain

/-!
# Which supplier is selected

A candidate carries its capacity, and the ranking does not look at it.  `selects_highest` says what
the selection is: of all eligible suppliers, the first one with the highest composite score, as long
as every score is a number.  So the supplier that is selected can fill the order exactly where a
supplier that can outranks all that cannot.
-/

namespace CostPlatform

open PyJson

/-- The first candidate with the highest score. -/
def FirstBest (eligible : List SupplierCandidate) (best : SupplierCandidate) : Prop :=
  ∃ before after, eligible = before ++ best :: after
    ∧ (∀ candidate ∈ before, PyFloat.lt candidate.compositeScore best.compositeScore = true)
    ∧ ∀ candidate ∈ after, PyFloat.le candidate.compositeScore best.compositeScore = true

/-- The candidate has the capacity for an order. -/
def SupplierCandidate.CanFill (candidate : SupplierCandidate) (quantity : PyFloat) : Prop :=
  PyFloat.le quantity candidate.capacity = true

/-- A candidate that can fill the order outranks all that cannot: its score is higher, or it is as
    high and the candidate listed earlier. -/
def AbleOutranks (eligible : List SupplierCandidate) (quantity : PyFloat) : Prop :=
  ∃ before able after, eligible = before ++ able :: after ∧ able.CanFill quantity
    ∧ (∀ candidate ∈ before, ¬ candidate.CanFill quantity →
      PyFloat.lt candidate.compositeScore able.compositeScore = true)
    ∧ ∀ candidate ∈ after, ¬ candidate.CanFill quantity →
      PyFloat.le candidate.compositeScore able.compositeScore = true

variable {eligible : List SupplierCandidate} {best : SupplierCandidate} {quantity : PyFloat}

/-- The best candidate can fill the order exactly where one that can outranks all that cannot. -/
lemma FirstBest.canFill_iff (h : FirstBest eligible best) :
    best.CanFill quantity ↔ AbleOutranks eligible quantity := by
  obtain ⟨before, after, heligible, hbefore, hafter⟩ := h
  constructor
  · exact fun hfill => ⟨before, best, after, heligible, hfill, fun candidate hmem _ =>
      hbefore candidate hmem, fun candidate hmem _ => hafter candidate hmem⟩
  · rintro ⟨before', able, after', heligible', hable, hbefore', hafter'⟩
    by_contra hunable
    -- whichever of the two is listed first, each is said to outrank the other
    rcases List.append_eq_append_iff.mp (heligible.symm.trans heligible') with
      ⟨between, rfl, hsplit⟩ | ⟨between, rfl, hsplit⟩
    · cases between with
      | nil =>
          obtain ⟨rfl, -⟩ := List.cons.inj hsplit
          exact hunable hable
      | cons first between =>
          obtain ⟨rfl, rfl⟩ := List.cons.inj hsplit
          have hlow := hbefore' best (by simp) hunable
          exact PyFloat.not_le_of_lt hlow (hafter able (by simp))
    · cases between with
      | nil =>
          obtain ⟨rfl, -⟩ := List.cons.inj hsplit
          exact hunable hable
      | cons first between =>
          obtain ⟨rfl, rfl⟩ := List.cons.inj hsplit
          have hlow := hbefore able (by simp)
          exact PyFloat.not_le_of_lt hlow (hafter' best (by simp) hunable)

namespace SupplyChainOptimizer

variable (optimizer : SupplyChainOptimizer)

/-- The candidate that sorts first by its score. -/
def RanksFirst (eligible : List SupplierCandidate) (best : SupplierCandidate) : Prop :=
  (optimizer.ranked eligible).head? = some best

lemma ranked_eq_nil : optimizer.ranked eligible = [] ↔ eligible = [] :=
  optimizer.sort.sorted_eq_nil SupplierCandidate.compositeScore

/-- What ranks first is one of the candidates, and something does where there is one. -/
lemma ranksFirst_eligible :
    (∀ best, optimizer.RanksFirst eligible best → best ∈ eligible)
      ∧ ((∃ best, optimizer.RanksFirst eligible best) ↔ eligible ≠ []) := by
  refine ⟨fun best h => (optimizer.sort.perm_sorted _ _).mem_iff.mp (List.mem_of_head? h), ?_⟩
  have hhead : (optimizer.ranked eligible).head? = none ↔ eligible = [] :=
    List.head?_eq_none_iff.trans optimizer.ranked_eq_nil
  rw [ne_eq, ← hhead]
  exact Option.ne_none_iff_exists'.symm

/-- **Where every score is a number**, the first one with the highest score ranks first. -/
theorem ranksFirst_iff_firstBest
    (hnumbers : ∀ candidate ∈ eligible, candidate.compositeScore ≠ .NaN) :
    optimizer.RanksFirst eligible best ↔ FirstBest eligible best := by
  rw [RanksFirst, ranked, optimizer.sort.head?_sorted_iff SupplierCandidate.compositeScore
    (fun _ _ => PyFloat.lt_asymm) hnumbers, FirstBest]
  refine exists₂_congr fun before after => and_congr_right fun hsplit => and_congr_right fun _ => ?_
  refine forall₂_congr fun candidate hmem => (PyFloat.le_iff (hnumbers candidate ?_)).symm
  rw [hsplit]
  exact List.mem_append_right _ (List.mem_cons_of_mem _ hmem)

/-- The candidates for an item of the inventory, in the order of their suppliers. -/
def eligibleFor (inventory demand : Json) (suppliers : List Json) (itemId : String) :
    Except FloatError (List SupplierCandidate) := do
  let figures ← optimizer.readInventory inventory demand
  match (inventoryPass figures).invStatusMap.get? itemId with
  | none => return []
  | some item => optimizer.candidates suppliers itemId item

/-- **Orders go to a supplier that can fill them**, to the best of those, wherever there is one. -/
def OrdersFeasible (inventory demand : Json) (suppliers logistics : List Json)
    (budgetLimit : Json) : Prop :=
  ∀ result eligible itemId quantity,
    optimizer.analyze inventory demand suppliers logistics budgetLimit = .ok result →
    (itemId, quantity) ∈ result.recommendedOrderQuantity → PyFloat.lt (.Finite 0) quantity = true →
    optimizer.eligibleFor inventory demand suppliers itemId = .ok eligible →
    (∃ able ∈ eligible, able.CanFill quantity) →
      ∃ best, (itemId, best) ∈ result.selectedSuppliers ∧ best.CanFill quantity
        ∧ ∀ able ∈ eligible, able.CanFill quantity →
          PyFloat.le able.compositeScore best.compositeScore = true

variable {optimizer} {inventory demand : Json} {suppliers logistics : List Json}

lemma map_fst_rankSuppliers {items : Dict String ItemFigures}
    {found : List (String × List SupplierCandidate)}
    (h : optimizer.rankSuppliers items suppliers = .ok found) :
    found.map Prod.fst = items.keys := by
  have hentries := Fallible.mapM_eq_ok_iff_forall₂.mp h
  rw [Dict.keys]
  generalize items.entries = entries at hentries
  clear h
  induction hentries with
  | nil => rfl
  | cons hentry _ ih =>
      obtain ⟨candidates, -, hranked⟩ := Fallible.bind_eq_ok.mp hentry
      cases Except.ok.inj hranked
      rw [List.map_cons, List.map_cons, ih]

lemma sublist_selectSuppliers (found : List (String × List SupplierCandidate)) :
    ((selectSuppliers found).map Prod.fst).Sublist (found.map Prod.fst) := by
  induction found with
  | nil => exact List.Sublist.refl _
  | cons entry found ih =>
      obtain ⟨itemId, candidates⟩ := entry
      cases candidates with
      | nil => exact ih.cons _
      | cons best candidates => exact ih.cons_cons _

/-- At most one supplier is selected for an item. -/
lemma nodup_selectedSuppliers {exact : ExactAnalysis}
    (h : optimizer.analyzeExactly inventory demand suppliers logistics = .ok exact) :
    (exact.selectedSuppliers.map Prod.fst).Nodup := by
  obtain ⟨-, hfound, -⟩ := analyzeExactly_eq_ok.mp h
  refine List.Nodup.sublist (sublist_selectSuppliers exact.supplierCandidates) ?_
  rw [map_fst_rankSuppliers hfound]
  exact Dict.nodup _

lemma mem_selectSuppliers {found : List (String × List SupplierCandidate)} {itemId : String} :
    (itemId, best) ∈ selectSuppliers found
      ↔ ∃ candidates, (itemId, candidates) ∈ found ∧ candidates.head? = some best := by
  simp only [selectSuppliers, List.mem_filterMap, Prod.exists, Option.map_eq_some_iff,
    Prod.mk.injEq]
  constructor
  · rintro ⟨_, candidates, hmem, _, hhead, rfl, rfl⟩
    exact ⟨candidates, hmem, hhead⟩
  · rintro ⟨candidates, hmem, hhead⟩
    exact ⟨itemId, candidates, hmem, best, hhead, rfl, rfl⟩

/-- **The ranked candidates of an item** are those that are eligible for it. -/
lemma mem_supplierCandidates {exact : ExactAnalysis} {itemId : String} {item : ItemFigures}
    (h : optimizer.analyzeExactly inventory demand suppliers logistics = .ok exact)
    (hitem : exact.pass.invStatusMap.get? itemId = some item) :
    ∃ eligible, optimizer.eligibleFor inventory demand suppliers itemId = .ok eligible
      ∧ ∀ candidates, (itemId, candidates) ∈ exact.supplierCandidates
        ↔ candidates = optimizer.ranked eligible := by
  obtain ⟨hfigures, hfound, -⟩ := analyzeExactly_eq_ok.mp h
  have hentry := Dict.get?_eq_some.mp hitem
  obtain ⟨_, hread⟩ := Fallible.mapM_succeeds_iff.mp ⟨_, hfound⟩ (itemId, item) hentry
  obtain ⟨eligible, heligible, -⟩ := Fallible.bind_eq_ok.mp hread
  rw [ExactAnalysis.pass] at hitem
  refine ⟨eligible, ?_, fun candidates => ?_⟩
  · simp only [eligibleFor, hfigures, Fallible.ok_bind, hitem, heligible]
  rw [Fallible.mem_of_mapM_eq_ok hfound]
  constructor
  · rintro ⟨⟨other, otherItem⟩, hother, hranked⟩
    obtain ⟨otherEligible, hotherEligible, hsame⟩ := Fallible.bind_eq_ok.mp hranked
    cases Except.ok.inj hsame
    cases (Dict.get?_eq_some.mpr hother).symm.trans hitem
    cases Except.ok.inj (heligible.symm.trans hotherEligible)
    rfl
  · rintro rfl
    refine ⟨(itemId, item), hentry, ?_⟩
    simp only [heligible, Fallible.ok_bind]
    rfl

/-- **What is selected for an item** is what ranks first of those that are eligible for it. -/
lemma mem_selectedSuppliers {exact : ExactAnalysis}
    (h : optimizer.analyzeExactly inventory demand suppliers logistics = .ok exact)
    (itemId : String) :
    ∃ eligible, optimizer.eligibleFor inventory demand suppliers itemId = .ok eligible
      ∧ ∀ best, (itemId, best) ∈ exact.selectedSuppliers
        ↔ optimizer.RanksFirst eligible best := by
  simp only [ExactAnalysis.selectedSuppliers, mem_selectSuppliers, RanksFirst]
  cases hitem : exact.pass.invStatusMap.get? itemId with
  | some item =>
      obtain ⟨eligible, heligible, hranked⟩ := mem_supplierCandidates h hitem
      exact ⟨eligible, heligible, fun best => by simp only [hranked, exists_eq_left]⟩
  | none =>
      -- an item that is not in the inventory has no candidates
      obtain ⟨hfigures, hfound, -⟩ := analyzeExactly_eq_ok.mp h
      have hmissing : itemId ∉ exact.supplierCandidates.map Prod.fst := by
        rw [map_fst_rankSuppliers hfound, Dict.mem_keys, hitem]
        simp
      rw [ExactAnalysis.pass] at hitem
      have hnil : optimizer.ranked [] = [] := optimizer.ranked_eq_nil.mpr rfl
      refine ⟨[], ?_, fun best => ⟨?_, fun hnone => by simp [hnil] at hnone⟩⟩
      · simp only [eligibleFor, hfigures, Fallible.ok_bind, hitem]
        rfl
      · rintro ⟨candidates, hmem, -⟩
        exact absurd (List.mem_map_of_mem hmem) hmissing

/-- **The selected supplier is the first with the highest score** of all that are eligible, whatever
    their capacities, where all the scores are numbers.  So it can fill the order exactly where one
    that can outranks all that cannot.  In any case one that is eligible is selected, if there is
    any. -/
theorem selects_highest (optimizer : SupplyChainOptimizer) (inventory demand : Json)
    (suppliers logistics : List Json) (budgetLimit : Json) (result : SupplyChainAnalysisResult)
    (itemId : String) (quantity : PyFloat)
    (hresult : optimizer.analyze inventory demand suppliers logistics budgetLimit = .ok result)
    (hordered : (itemId, quantity) ∈ result.recommendedOrderQuantity) :
    ∃ eligible, optimizer.eligibleFor inventory demand suppliers itemId = .ok eligible
      ∧ (∀ best, (itemId, best) ∈ result.selectedSuppliers → best ∈ eligible)
      ∧ ((∃ best, (itemId, best) ∈ result.selectedSuppliers) ↔ eligible ≠ [])
      ∧ ((∀ candidate ∈ eligible, candidate.compositeScore ≠ .NaN) →
        (∀ best, (itemId, best) ∈ result.selectedSuppliers ↔ FirstBest eligible best)
        ∧ ((∃ best, (itemId, best) ∈ result.selectedSuppliers ∧ best.CanFill quantity)
          ↔ AbleOutranks eligible quantity)) := by
  obtain ⟨exact, hexact, overrun, -, rfl⟩ := analyze_eq_ok.mp hresult
  obtain ⟨eligible, heligible, hselected⟩ := mem_selectedSuppliers hexact itemId
  obtain ⟨hmem, hsome⟩ := @ranksFirst_eligible eligible optimizer
  refine ⟨eligible, heligible, ?_⟩
  simp only [ExactAnalysis.result, hselected]
  refine ⟨hmem, hsome, fun hnumbers => ⟨fun best => ranksFirst_iff_firstBest optimizer hnumbers,
    ?_⟩⟩
  simp only [ranksFirst_iff_firstBest optimizer hnumbers] at hsome ⊢
  constructor
  · rintro ⟨best, hbest, hfill⟩
    exact hbest.canFill_iff.mp hfill
  · intro hable
    have hne : eligible ≠ [] := by
      obtain ⟨before, able, after, rfl, -⟩ := hable
      exact List.append_ne_nil_of_right_ne_nil before (List.cons_ne_nil able after)
    obtain ⟨best, hbest⟩ := hsome.mpr hne
    exact ⟨best, hbest, hbest.canFill_iff.mpr hable⟩

/-- A supplier with a price and a capacity. -/
def supplierRecord (supplierId : String) (price capacity : Int) : Json :=
  .Dict [("supplier_id", .Text supplierId), ("unit_price", .Integer price),
    ("capacity", .Integer capacity)]

/-- Ten valves short, so fifteen to order. -/
def shortOfValves : Json := .Items [stockRecord "valve" 0 10]

/-- A supplier that is cheap and small, and one that can fill the order. -/
def smallAndLarge : List Json :=
  [supplierRecord "corner shop" 1 5, supplierRecord "foundry" 2 100]

lemma smallAndLarge_analyze : ∃ result,
    plainOptimizer.analyze shortOfValves (.Dict []) smallAndLarge [] .Null = .ok result
      ∧ ("valve", .Finite 15) ∈ result.recommendedOrderQuantity
      ∧ ∀ entry ∈ result.selectedSuppliers, entry.2.capacity = .Finite 5 :=
  Fallible.exists_ok_and (by decide +kernel)

/-- At these suppliers the selected one cannot fill the order, for the small one outscores. -/
theorem smallAndLarge_selects : ∃ result,
    plainOptimizer.analyze shortOfValves (.Dict []) smallAndLarge [] .Null = .ok result
      ∧ ∃ eligible, plainOptimizer.eligibleFor shortOfValves (.Dict []) smallAndLarge "valve"
          = .ok eligible
        ∧ (∀ best, ("valve", best) ∈ result.selectedSuppliers ↔ FirstBest eligible best)
        ∧ ((∃ best, ("valve", best) ∈ result.selectedSuppliers ∧ best.CanFill (.Finite 15))
          ↔ AbleOutranks eligible (.Finite 15)) := by
  obtain ⟨result, hresult, hordered, -⟩ := smallAndLarge_analyze
  obtain ⟨eligible, heligible, -, -, hhighest⟩ := selects_highest plainOptimizer shortOfValves
    (.Dict []) smallAndLarge [] .Null result "valve" (.Finite 15) hresult hordered
  have hscored : ∃ eligible,
      plainOptimizer.eligibleFor shortOfValves (.Dict []) smallAndLarge "valve" = .ok eligible
        ∧ ∀ candidate ∈ eligible, candidate.compositeScore ≠ .NaN :=
    Fallible.exists_ok_and (by decide +kernel)
  obtain ⟨same, hsame, hnumbers⟩ := hscored
  cases Except.ok.inj (heligible.symm.trans hsame)
  exact ⟨result, hresult, eligible, heligible, hhighest hnumbers⟩

/-- An order of fifteen goes to a supplier of five, where another could fill it. -/
theorem smallAndLarge_infeasible :
    ¬ plainOptimizer.OrdersFeasible shortOfValves (.Dict []) smallAndLarge [] .Null := by
  intro h
  obtain ⟨result, hresult, hordered, hsmall⟩ := smallAndLarge_analyze
  obtain ⟨eligible, heligible, hable⟩ : ∃ eligible,
      plainOptimizer.eligibleFor shortOfValves (.Dict []) smallAndLarge "valve" = .ok eligible
        ∧ ∃ able ∈ eligible, PyFloat.le (.Finite 15) able.capacity = true :=
    Fallible.exists_ok_and (by decide +kernel)
  obtain ⟨best, hbest, hfill, -⟩ :=
    h result eligible "valve" (.Finite 15) hresult hordered (by decide) heligible hable
  rw [SupplierCandidate.CanFill, hsmall _ hbest] at hfill
  exact absurd hfill (by decide)

end SupplyChainOptimizer

end CostPlatform
