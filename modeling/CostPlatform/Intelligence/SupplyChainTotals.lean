import CostPlatform.Intelligence.SupplierSelection
import CostPlatform.Library.Runs

/-!
# Totals of the supply chain

The list of what is out of stock and the totals run beside the maps of the items.  A record that
repeats an item replaces its status and is added to the rest.

`totalsAgree_iff` says when the two agree: no item has two records that are short, the last record
of an item that is short somewhere is short, and the orders that are not positive, which are not
paid for, would cost nothing or what an infinite total takes in.
-/

namespace CostPlatform

open PyJson SupplyChainOptimizer

namespace SupplyChainOptimizer

/-! ## What the pass accumulates -/

variable (inventory : List ItemFigures)

/-- The records that are short or out of stock. -/
def shortRecords : List ItemFigures := inventory.filter ItemFigures.isShort

variable {inventory}

/-- What only short records move runs through them. -/
lemma part_inventoryPass {τ β : Type} {part : InventoryPass → τ} {move : τ → β → τ}
    (read : ItemFigures → β)
    (hstep : ∀ pass figures, part (InventoryPass.add pass figures)
      = if figures.isShort = true then move (part pass) (read figures) else part pass) :
    part (inventoryPass inventory)
      = Runs.run move (part {}) ((shortRecords inventory).map read) := by
  refine (Runs.run_part (fun figures => figures.isShort = true) read hstep {} inventory).trans ?_
  simp only [Bool.decide_eq_true]
  rfl

/-- The map has the last record of each item. -/
lemma invStatusMap_eq :
    (inventoryPass inventory).invStatusMap
      = Dict.ofPairs (inventory.map fun figures => (figures.itemId, figures)) := by
  have hadd : ∀ pass figures, (InventoryPass.add pass figures).invStatusMap
      = pass.invStatusMap.set figures.itemId figures := by
    intro pass figures
    rw [InventoryPass.add]
    split_ifs <;> rfl
  have hpass : ∀ pass, (Runs.run InventoryPass.add pass inventory).invStatusMap
      = pass.invStatusMap.setAll (inventory.map fun figures => (figures.itemId, figures)) := by
    intro pass
    induction inventory generalizing pass with
    | nil => rfl
    | cons figures inventory ih => rw [Runs.run_cons, ih, hadd, List.map_cons, Dict.setAll_cons]
  exact hpass {}

lemma stockoutItems_eq :
    (inventoryPass inventory).stockoutItems
      = (shortRecords inventory).map ItemFigures.itemId := by
  have happend : ∀ xs ys : List String,
      Runs.run (fun items itemId => items ++ [itemId]) xs ys = xs ++ ys := by
    intro xs ys
    induction ys generalizing xs with
    | nil => simp
    | cons y ys ih => rw [Runs.run_cons, ih, List.append_assoc, List.singleton_append]
  refine (part_inventoryPass ItemFigures.itemId fun pass figures => ?_).trans
    ((happend _ _).trans (List.nil_append _))
  rw [InventoryPass.add]
  split_ifs <;> rfl

lemma totalShortage_eq :
    (inventoryPass inventory).totalShortage
      = ((shortRecords inventory).map ItemFigures.shortage).sum := by
  refine (part_inventoryPass ItemFigures.shortage fun pass figures => ?_).trans
    List.sum_eq_foldl.symm
  rw [InventoryPass.add]
  split_ifs <;> rfl

/-- The orders have the last short record of each item. -/
lemma reorderQuantities_eq :
    (inventoryPass inventory).reorderQuantities
      = Dict.ofPairs ((shortRecords inventory).map fun figures =>
          (figures.itemId, figures.reorderQuantity)) := by
  refine part_inventoryPass (fun figures => (figures.itemId, figures.reorderQuantity))
    fun pass figures => ?_
  rw [InventoryPass.add]
  split_ifs <;> rfl

lemma find?_reverse_map (itemId : String) :
    ((inventory.map fun figures => (figures.itemId, figures)).reverse.find? fun pair =>
        pair.1 = itemId).map Prod.snd
      = inventory.reverse.find? fun figures => figures.itemId = itemId := by
  rw [← List.map_reverse, List.find?_map, Option.map_map]
  exact Option.map_id' ..

/-- The map of the items has the last record of each. -/
lemma get?_invStatusMap (itemId : String) :
    (inventoryPass inventory).invStatusMap.get? itemId
      = inventory.reverse.find? fun figures => figures.itemId = itemId := by
  rw [invStatusMap_eq, Dict.get?_ofPairs, find?_reverse_map]

/-- No item has two records that are short. -/
def OncePerItem (inventory : List ItemFigures) : Prop :=
  ((shortRecords inventory).map ItemFigures.itemId).Nodup

/-- An item with a short record is short in its last one. -/
def LastIsShort (inventory : List ItemFigures) : Prop :=
  ∀ figures ∈ shortRecords inventory, ∃ last,
    (inventory.reverse.find? fun other => other.itemId = figures.itemId) = some last
      ∧ last.isShort = true

lemma mem_shortRecords {figures : ItemFigures} :
    figures ∈ shortRecords inventory ↔ figures ∈ inventory ∧ figures.isShort = true :=
  List.mem_filter

/-- What the orders of the short records cost whose quantity counts. -/
def costOf (cost : String → PyFloat → PyFloat) (counts : PyFloat → Bool)
    (inventory : List ItemFigures) : PyFloat :=
  (((shortRecords inventory).filter fun figures => counts figures.reorderQuantity).map
    fun figures => cost figures.itemId figures.reorderQuantity).sum

/-- Orders that are not positive, which are not paid for, would cost nothing, or the others cost so
    much (an infinity, or no number) that they make no difference. -/
def UnpaidOrdersFree (cost : String → PyFloat → PyFloat) (inventory : List ItemFigures) : Prop :=
  costOf cost (fun quantity => !PyFloat.lt (.Finite 0) quantity) inventory = 0
    ∨ PyFloat.Absorbs (costOf cost (PyFloat.lt (.Finite 0)) inventory)
      (costOf cost (fun quantity => !PyFloat.lt (.Finite 0) quantity) inventory)

/-- **The list of what is short is that of the map** exactly where the last records decide. -/
lemma mem_stockoutItems_iff_lastIsShort :
    (∀ itemId, itemId ∈ (inventoryPass inventory).stockoutItems ↔ ∃ figures,
        (inventoryPass inventory).invStatusMap.get? itemId = some figures
          ∧ figures.isShort = true)
      ↔ LastIsShort inventory := by
  simp only [stockoutItems_eq, get?_invStatusMap, List.mem_map]
  constructor
  · exact fun h figures hfigures => (h figures.itemId).mp ⟨figures, hfigures, rfl⟩
  · refine fun h itemId => ⟨?_, ?_⟩
    · rintro ⟨figures, hfigures, rfl⟩
      exact h figures hfigures
    · rintro ⟨figures, hfind, hshort⟩
      have hmem := List.mem_reverse.mp (List.mem_of_find?_eq_some hfind)
      have hitem : figures.itemId = itemId := by simpa using List.find?_some hfind
      exact ⟨figures, mem_shortRecords.mpr ⟨hmem, hshort⟩, hitem⟩

/-- Where each item is short in one record and in its last one, the total is that of the map. -/
lemma totalShortage_of_once (honce : OncePerItem inventory) (hlast : LastIsShort inventory) :
    (inventoryPass inventory).totalShortage
      = (((inventoryPass inventory).invStatusMap.entries.filter fun entry =>
          entry.2.isShort).map fun entry => entry.2.shortage).sum := by
  have hpairs : (inventory.map fun figures => (figures.itemId, figures)).filter
        (fun pair => pair.2.isShort)
      = (shortRecords inventory).map fun figures => (figures.itemId, figures) := by
    rw [List.filter_map]
    rfl
  have hperm := @Dict.perm_entries_filter String ItemFigures _
    (inventory.map fun figures => (figures.itemId, figures)) ItemFigures.isShort
    (by rw [hpairs, List.map_map]; exact honce) (by
      intro pair hpair hshort
      obtain ⟨figures, hfigures, rfl⟩ := List.mem_map.mp hpair
      rw [← invStatusMap_eq, get?_invStatusMap]
      exact hlast figures (mem_shortRecords.mpr ⟨hfigures, hshort⟩))
  rw [invStatusMap_eq, (hperm.map _).sum_eq, hpairs, List.map_map, totalShortage_eq]
  rfl

end SupplyChainOptimizer

/-! ## What is ordered -/

namespace ExactAnalysis

variable (exact : ExactAnalysis)

/-- The supplier selected for an item. -/
def selectedFor (itemId : String) : Option SupplierCandidate :=
  (exact.selectedSuppliers.find? fun entry => entry.1 = itemId).map Prod.snd

/-- What a quantity costs at the supplier selected for its item. -/
def orderCost (itemId : String) (quantity : PyFloat) : PyFloat :=
  (exact.selectedFor itemId).elim 0 fun best => best.unitPrice * quantity

/-- **The totals agree with the items.** -/
structure TotalsAgree : Prop where
  nodup : exact.pass.stockoutItems.Nodup
  mem_stockoutItems : ∀ itemId, itemId ∈ exact.pass.stockoutItems ↔ ∃ figures,
    exact.pass.invStatusMap.get? itemId = some figures ∧ figures.isShort = true
  totalShortage : exact.pass.totalShortage
    = ((exact.pass.invStatusMap.entries.filter fun entry => entry.2.isShort).map
        fun entry => entry.2.shortage).sum
  keys : ∀ itemId, itemId ∈ exact.pass.reorderQuantities.keys
    ↔ itemId ∈ exact.pass.stockoutItems
  procurement : exact.totalProcurementCost
    = (exact.pass.reorderQuantities.entries.map fun order =>
        exact.orderCost order.1 order.2).sum

variable {exact}

/-- What is paid is what the positive orders cost. -/
lemma totalProcurementCost_eq (hselected : (exact.selectedSuppliers.map Prod.fst).Nodup) :
    exact.totalProcurementCost
      = (exact.pass.reorderQuantities.entries.map fun order =>
          if PyFloat.lt (.Finite 0) order.2 then exact.orderCost order.1 order.2 else 0).sum := by
  have hjoin := Dict.sum_join ⟨exact.selectedSuppliers, hselected⟩ exact.pass.reorderQuantities
    fun _ best quantity =>
      if PyFloat.lt (.Finite 0) quantity then best.unitPrice * quantity else 0
  have hpaid : ∀ entry : String × SupplierCandidate,
      (if PyFloat.lt (.Finite 0) (exact.pass.orderQuantity entry.1) then
        entry.2.unitPrice * exact.pass.orderQuantity entry.1 else 0)
      = (exact.pass.reorderQuantities.get? entry.1).elim 0 fun quantity =>
          if PyFloat.lt (.Finite 0) quantity then entry.2.unitPrice * quantity else 0 := by
    intro entry
    rw [InventoryPass.orderQuantity]
    cases exact.pass.reorderQuantities.get? entry.1 with
    | none => simp [PyFloat.lt]
    | some quantity => rfl
  have hcost : ∀ order : String × PyFloat,
      ((exact.selectedFor order.1).elim 0 fun best =>
        if PyFloat.lt (.Finite 0) order.2 then best.unitPrice * order.2 else 0)
      = if PyFloat.lt (.Finite 0) order.2 then exact.orderCost order.1 order.2 else 0 := by
    intro order
    rw [orderCost]
    cases exact.selectedFor order.1 with
    | none => simp
    | some best => rfl
  rw [totalProcurementCost, procurementCost, List.map_congr_left fun entry _ => hpaid entry]
  refine hjoin.trans (congrArg List.sum (List.map_congr_left fun order _ => ?_))
  exact hcost order

variable {cost : String → PyFloat → PyFloat}

/-- Where each item is short once, the orders that count are those of the short records that do. -/
lemma sum_orders (honce : OncePerItem exact.inventory) (counts : PyFloat → Bool) :
    (exact.pass.reorderQuantities.entries.map fun order =>
        if counts order.2 then cost order.1 order.2 else 0).sum
      = costOf cost counts exact.inventory := by
  have hperm : exact.pass.reorderQuantities.entries.Perm
      ((shortRecords exact.inventory).map fun figures =>
        (figures.itemId, figures.reorderQuantity)) := by
    rw [pass, reorderQuantities_eq]
    refine Dict.perm_entries_of_nodup ?_
    rw [List.map_map]
    exact honce
  rw [(hperm.map _).sum_eq, List.map_map, costOf]
  refine (List.sum_map_ite (fun figures : ItemFigures => counts figures.reorderQuantity = true) _ _
    _).trans ?_
  simp only [Bool.decide_eq_true, List.map_const', List.sum_replicate, nsmul_zero, add_zero]

/-- The orders cost what is paid exactly where those that are not paid for would add nothing. -/
lemma procurement_iff (hselected : (exact.selectedSuppliers.map Prod.fst).Nodup)
    (honce : OncePerItem exact.inventory) :
    exact.totalProcurementCost
        = (exact.pass.reorderQuantities.entries.map fun order =>
            exact.orderCost order.1 order.2).sum
      ↔ UnpaidOrdersFree exact.orderCost exact.inventory := by
  have hall : (exact.pass.reorderQuantities.entries.map fun order =>
        exact.orderCost order.1 order.2).sum
      = costOf exact.orderCost (PyFloat.lt (.Finite 0)) exact.inventory
        + costOf exact.orderCost (fun quantity => !PyFloat.lt (.Finite 0) quantity)
          exact.inventory := by
    rw [← sum_orders honce, ← sum_orders honce, ← List.sum_map_add]
    refine congrArg List.sum (List.map_congr_left fun order _ => ?_)
    cases PyFloat.lt (.Finite 0) order.2 with
    | true => exact (add_zero _).symm
    | false => exact (zero_add _).symm
  rw [hall, totalProcurementCost_eq hselected, sum_orders honce, eq_comm, PyFloat.add_eq_left_iff,
    UnpaidOrdersFree]

/-- **When the totals agree with the items.** -/
lemma agrees_iff (hselected : (exact.selectedSuppliers.map Prod.fst).Nodup) :
    exact.TotalsAgree
      ↔ OncePerItem exact.inventory ∧ LastIsShort exact.inventory
        ∧ UnpaidOrdersFree exact.orderCost exact.inventory := by
  constructor
  · intro h
    have honce : OncePerItem exact.inventory := by
      have hnodup := h.nodup
      rwa [pass, stockoutItems_eq] at hnodup
    exact ⟨honce, mem_stockoutItems_iff_lastIsShort.mp h.mem_stockoutItems,
      (procurement_iff hselected honce).mp h.procurement⟩
  · rintro ⟨honce, hlast, hunpaid⟩
    refine ⟨?_, mem_stockoutItems_iff_lastIsShort.mpr hlast, totalShortage_of_once honce hlast,
      fun itemId => ?_, (procurement_iff hselected honce).mpr hunpaid⟩
    · rw [pass, stockoutItems_eq]
      exact honce
    · rw [pass, reorderQuantities_eq, Dict.mem_keys_ofPairs, stockoutItems_eq, List.map_map]
      rfl

end ExactAnalysis

/-! ## The analysis -/

namespace SupplyChainOptimizer

/-- What a quantity of an item costs at the supplier that ranks first of those eligible for it. -/
def costAtBest (optimizer : SupplyChainOptimizer) (inventory demand : Json) (suppliers : List Json)
    (itemId : String) (quantity : PyFloat) : PyFloat :=
  match optimizer.eligibleFor inventory demand suppliers itemId with
  | .ok eligible =>
      (optimizer.ranked eligible).head?.elim 0 fun best => best.unitPrice * quantity
  | .error _ => 0

variable {optimizer : SupplyChainOptimizer} {inventory demand : Json}
  {suppliers logistics : List Json}

/-- The price of an order is that of the supplier that ranks first. -/
lemma orderCost_eq {exact : ExactAnalysis}
    (h : optimizer.analyzeExactly inventory demand suppliers logistics = .ok exact) :
    exact.orderCost = optimizer.costAtBest inventory demand suppliers := by
  funext itemId quantity
  obtain ⟨eligible, heligible, hselected⟩ := mem_selectedSuppliers h itemId
  have hbest : exact.selectedFor itemId = (optimizer.ranked eligible).head? := by
    refine Option.ext fun best => ?_
    rw [← RanksFirst, ← hselected]
    exact @Dict.get?_eq_some String SupplierCandidate _
      ⟨exact.selectedSuppliers, nodup_selectedSuppliers h⟩ itemId best
  rw [ExactAnalysis.orderCost, hbest, costAtBest, heligible]

/-- The totals of every result agree with its items. -/
def TotalsAgree (optimizer : SupplyChainOptimizer) (inventory demand : Json)
    (suppliers logistics : List Json) (budgetLimit : Json) : Prop :=
  ∀ result, optimizer.analyze inventory demand suppliers logistics budgetLimit = .ok result →
    ∃ exact, optimizer.analyzeExactly inventory demand suppliers logistics = .ok exact
      ∧ (∃ overrun, exact.overrun budgetLimit = .ok overrun ∧ result = exact.result overrun)
      ∧ exact.TotalsAgree

/-- **The totals agree with the items** exactly where no item has two records that are short, an
    item with a short record is short in its last one, and the orders that are not positive would
    cost nothing or what an infinite total takes in.  An analysis that fails has no totals. -/
theorem totalsAgree_iff (optimizer : SupplyChainOptimizer) (inventory demand : Json)
    (suppliers logistics : List Json) (budgetLimit : Json) :
    optimizer.TotalsAgree inventory demand suppliers logistics budgetLimit
      ↔ ∀ figures, optimizer.readInventory inventory demand = .ok figures →
        (∃ result, optimizer.analyze inventory demand suppliers logistics budgetLimit
          = .ok result) →
        OncePerItem figures ∧ LastIsShort figures
          ∧ UnpaidOrdersFree (optimizer.costAtBest inventory demand suppliers) figures := by
  constructor
  · rintro h figures hfigures ⟨result, hresult⟩
    obtain ⟨exact, hexact, -, hagree⟩ := h result hresult
    obtain ⟨hfigures', -, -⟩ := analyzeExactly_eq_ok.mp hexact
    cases Except.ok.inj (hfigures.symm.trans hfigures')
    rw [← orderCost_eq hexact]
    exact (ExactAnalysis.agrees_iff (nodup_selectedSuppliers hexact)).mp hagree
  · intro h result hresult
    obtain ⟨exact, hexact, overrun, hoverrun, heq⟩ := analyze_eq_ok.mp hresult
    obtain ⟨hfigures, -, -⟩ := analyzeExactly_eq_ok.mp hexact
    have hitems := h exact.inventory hfigures ⟨result, hresult⟩
    rw [← orderCost_eq hexact] at hitems
    exact ⟨exact, hexact, ⟨overrun, hoverrun, heq.symm⟩,
      (ExactAnalysis.agrees_iff (nodup_selectedSuppliers hexact)).mpr hitems⟩

/-- One item, recorded twice. -/
def recordedTwice : Json := .Items [stockRecord "valve" 0 10, stockRecord "valve" 0 10]

/-- An item that is short in two records is listed twice. -/
theorem recordedTwice_disagrees :
    ¬ plainOptimizer.TotalsAgree recordedTwice (.Dict []) [] [] .Null := by
  intro h
  obtain ⟨result, hresult, hitems⟩ : ∃ result,
      plainOptimizer.analyze recordedTwice (.Dict []) [] [] .Null = .ok result
        ∧ result.stockoutItems = ["valve", "valve"] :=
    Fallible.toOption_map_eq_some.mp (by decide +kernel)
  obtain ⟨exact, -, ⟨overrun, -, rfl⟩, hagree⟩ := h result hresult
  have hnodup : exact.pass.stockoutItems = ["valve", "valve"] := hitems
  exact absurd (hnodup ▸ hagree.nodup) (by decide)

end SupplyChainOptimizer

end CostPlatform
