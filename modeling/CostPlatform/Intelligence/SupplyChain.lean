import CostPlatform.Library.Dict
import CostPlatform.Library.Fallible
import CostPlatform.Library.PyFloat
import CostPlatform.Library.StableSort

/-!
# The supply chain optimizer

Three passes: over the inventory, which finds what is short and what to order of it; over the
suppliers of each item, which are ranked by a composite score; and over the logistics routes.  The
records are JSON objects with optional keys, and amounts are exact until the result is put together.
A reading may come to an infinity or a NaN, as `float()` does.

A record of the inventory that repeats an item replaces its status, while the list of what is out of
stock and the total of what is short keep what they had of it.
-/

namespace CostPlatform

open PyJson

/-! ## Records -/

abbrev Record : Type := List (String × Json)

/-- `value.get(...)` needs an object. -/
def asRecord : Json → Except FloatError Record
  | .Dict entries => .ok entries
  | _ => .error (.Other "AttributeError")

/-- How numbers are read, and how lists are sorted by them. -/
structure SupplyChainOptimizer where
  runtime : Runtime
  /-- `float(value)`. -/
  float : Json → Except FloatError PyFloat
  /-- `int(value)`. -/
  int : Json → Except FloatError Int
  /-- `list.sort(key=..., reverse=True)`.  A NaN compares with nothing, so that it is open where one
      ends up and what it does to the others. -/
  sort : StableSort PyFloat (fun a b => PyFloat.lt a b = true) (· ≠ .NaN)
  float_null : float .Null = .error .TypeError
  int_null : int .Null = .error .TypeError
  float_float : ∀ value text, float (.Float value text) = .ok value

namespace SupplyChainOptimizer

variable (optimizer : SupplyChainOptimizer)

/-- `float(record.get(key, default))`. -/
def floatOr (record : Record) (key : String) (default : PyFloat) : Except FloatError PyFloat :=
  match lookup record key with
  | none => .ok default
  | some value => optimizer.float value

/-- `int(record.get(key, default))`. -/
def intOr (record : Record) (key : String) (default : Int) : Except FloatError Int :=
  match lookup record key with
  | none => .ok default
  | some value => optimizer.int value

/-- `str(record.get(key, default))`. -/
def strOr (record : Record) (key : String) (default : String) : String :=
  ((lookup record key).map optimizer.runtime.str).getD default

/-! ## Inventory and demand -/

/-- A record of the inventory, and its stock where that was read with it. -/
structure InventoryEntry where
  fields : Record
  currentStock : Option PyFloat := none

/-- `_normalize_list_or_dict(inventory, "item_id")`. -/
def normalizeInventory : Json → Except FloatError (List InventoryEntry)
  | .Items items => items.mapM fun item => do
      let fields ← asRecord item
      return { fields := fields }
  | .Dict entries => entries.mapM fun (itemId, value) =>
      match value with
      | .Dict fields =>
          .ok { fields := if (lookup fields "item_id").isSome then fields
                  else setItem fields "item_id" (.Text itemId) }
      | value => do
          let stock ← optimizer.float value
          return { fields := [("item_id", .Text itemId)], currentStock := some stock }
  | _ => .ok []

/-- `float(d.get("forecast_demand", d.get("demand_units", d.get("quantity", 0.0))))`. -/
def demandOf (record : Record) : Except FloatError PyFloat :=
  match ((lookup record "forecast_demand").or (lookup record "demand_units")).or
      (lookup record "quantity") with
  | none => .ok (.Finite 0)
  | some value => optimizer.float value

/-- `isinstance(value, (int, float))`. -/
def isNumber : Json → Bool
  | .Boolean _ | .Integer _ | .Float _ _ => true
  | _ => false

/-- `_normalize_demand(demand)`. -/
def normalizeDemand : Json → Except FloatError (Dict String PyFloat)
  | .Dict entries => do
      let pairs ← (entries.filter fun entry => isNumber entry.2).mapM fun (itemId, value) => do
        let quantity ← optimizer.float value
        return (itemId, quantity)
      return Dict.ofPairs pairs
  | .Items items => do
      let pairs ← items.mapM fun item => do
        let record ← asRecord item
        let quantity ← optimizer.demandOf record
        return (optimizer.strOr record "item_id" "default_item", quantity)
      return Dict.ofPairs pairs
  | _ => .ok Dict.empty

/-- What an inventory record says of its item, with the demand for it. -/
structure ItemFigures where
  itemId : String
  name : String
  currentStock : PyFloat
  safetyStock : PyFloat
  reorderPoint : PyFloat
  unitCost : PyFloat
  demandUnits : PyFloat
  deriving DecidableEq, Repr

def readItem (demand : Dict String PyFloat) (entry : InventoryEntry) :
    Except FloatError ItemFigures := do
  let itemId := optimizer.strOr entry.fields "item_id" "default_item"
  let current ←
    entry.currentStock.elim (optimizer.floatOr entry.fields "current_stock" (.Finite 0)) .ok
  let safety ← optimizer.floatOr entry.fields "safety_stock" (.Finite 0)
  let reorderPoint ← optimizer.floatOr entry.fields "reorder_point" safety
  let unitCost ← optimizer.floatOr entry.fields "unit_cost" (.Finite 1)
  let requiredDemand ←
    (demand.get? itemId).elim (optimizer.floatOr entry.fields "forecast_demand" (.Finite 0)) .ok
  return {
    itemId := itemId
    name := optimizer.strOr entry.fields "name" itemId
    currentStock := current
    safetyStock := safety
    reorderPoint := reorderPoint
    unitCost := unitCost
    demandUnits := requiredDemand }

/-- The inventory, read record by record. -/
def readInventory (inventory demand : Json) : Except FloatError (List ItemFigures) := do
  let entries ← optimizer.normalizeInventory inventory
  let demanded ← optimizer.normalizeDemand demand
  entries.mapM (optimizer.readItem demanded)

end SupplyChainOptimizer

/-- Evaluation of an individual inventory item. -/
structure ItemInventoryStatus where
  itemId : String
  name : String
  currentStock : PyFloat
  safetyStock : PyFloat
  reorderPoint : PyFloat
  unitCost : PyFloat
  demandUnits : PyFloat
  netStock : PyFloat
  shortageUnits : PyFloat
  isStockout : Bool
  stockoutRisk : PyFloat
  deriving DecidableEq, Repr

namespace SupplyChainOptimizer

namespace ItemFigures

variable (figures : ItemFigures)

def net : PyFloat := figures.currentStock - figures.demandUnits

/-- How far the net stock is below the safety stock. -/
def shortage : PyFloat := PyFloat.max (.Finite 0) (figures.safetyStock - figures.net)

def isStockout : Bool :=
  PyFloat.le figures.net (.Finite 0) || PyFloat.le figures.currentStock (.Finite 0)

def stockoutRisk : PyFloat :=
  if figures.isStockout then .Finite 1
  else if PyFloat.lt (.Finite 0) figures.safetyStock then
    PyFloat.max (.Finite 0) (PyFloat.min (.Finite 1)
      (.Finite 1 - PyFloat.div figures.net (figures.safetyStock * .Finite 2)))
  else .Finite 0

/-- Short or out of stock. -/
def isShort : Bool := PyFloat.lt (.Finite 0) figures.shortage || figures.isStockout

/-- What to order: the shortage, and half of the safety stock. -/
def reorderQuantity : PyFloat :=
  PyFloat.round 2 (figures.shortage + figures.safetyStock * .Finite (1 / 2))

def status : ItemInventoryStatus where
  itemId := figures.itemId
  name := figures.name
  currentStock := figures.currentStock
  safetyStock := figures.safetyStock
  reorderPoint := figures.reorderPoint
  unitCost := figures.unitCost
  demandUnits := figures.demandUnits
  netStock := PyFloat.round 2 figures.net
  shortageUnits := PyFloat.round 2 figures.shortage
  isStockout := figures.isStockout
  stockoutRisk := PyFloat.round 3 figures.stockoutRisk

end ItemFigures

/-- What the pass over the inventory accumulates. -/
structure InventoryPass where
  invStatusMap : Dict String ItemFigures := Dict.empty
  stockoutItems : List String := []
  totalShortage : PyFloat := .Finite 0
  reorderQuantities : Dict String PyFloat := Dict.empty

/-- One record of the inventory. -/
def InventoryPass.add (pass : InventoryPass) (figures : ItemFigures) : InventoryPass :=
  let counted := { pass with invStatusMap := pass.invStatusMap.set figures.itemId figures }
  if figures.isShort then
    { counted with
      stockoutItems := counted.stockoutItems ++ [figures.itemId]
      totalShortage := counted.totalShortage + figures.shortage
      reorderQuantities := counted.reorderQuantities.set figures.itemId figures.reorderQuantity }
  else counted

def inventoryPass (inventory : List ItemFigures) : InventoryPass :=
  inventory.foldl InventoryPass.add {}

end SupplyChainOptimizer

/-! ## Suppliers -/

/-- Scored supplier candidate for procurement. -/
structure SupplierCandidate where
  supplierId : String
  name : String
  itemId : String
  unitPrice : PyFloat
  leadTimeDays : Int
  reliabilityScore : PyFloat
  riskScore : PyFloat
  capacity : PyFloat
  isPrimary : Bool
  compositeScore : PyFloat
  deriving DecidableEq, Repr

/-- Higher is better, to two decimals: reliability and a primary supplier count for a candidate, and
    price, lead time and risk against it. -/
def SupplierCandidate.composite (unitCost price leadTime reliability risk : PyFloat)
    (isPrimary : Bool) : PyFloat :=
  let priceFactor := PyFloat.div (.Finite 1)
    (PyFloat.max (.Finite (1 / 10)) (PyFloat.div price (PyFloat.max (.Finite (1 / 10)) unitCost)))
  let leadTimeFactor := PyFloat.div (.Finite 1) (PyFloat.max (.Finite 1) leadTime)
  let composite := reliability * .Finite 40 + priceFactor * .Finite 25
    + leadTimeFactor * .Finite 15 - risk * .Finite 30
  PyFloat.round 2 (if isPrimary then composite + .Finite 10 else composite)

namespace SupplyChainOptimizer

/-- `value == text`. -/
def isText (value : Option Json) (text : String) : Bool :=
  match value with
  | some (.Text value) => value = text
  | _ => false

/-- `itemId in supplied`, where there is something in `supplied`. -/
def names (supplied : Json) (itemId : String) : Except FloatError Bool :=
  match supplied with
  | .Items items => .ok (items.any fun item => isText (some item) itemId)
  | .Text text => .ok (PyString.contains text itemId)
  | .Dict entries => .ok (entries.any fun entry => entry.1 = itemId)
  | _ => .error .TypeError

/-- Whether a supplier is considered for an item: it names none, it names this one, or it is
    recorded under this one. -/
def considers (itemId : String) (supplier : Record) : Except FloatError Bool := do
  let supplied := (lookup supplier "items_supplied").getD (.Items [])
  if supplied.truthy then
    let named ← names supplied itemId
    return named || isText (lookup supplier "item_id") itemId
  else return true

variable (optimizer : SupplyChainOptimizer)

def candidateFor (item : ItemFigures) (supplier : Record) :
    Except FloatError SupplierCandidate := do
  let supplierId := optimizer.strOr supplier "supplier_id" "sup_unknown"
  let price ← optimizer.floatOr supplier "unit_price" item.unitCost
  let leadTimeDays ← optimizer.intOr supplier "lead_time_days" 7
  let reliability ← optimizer.floatOr supplier "reliability_score" (.Finite (9 / 10))
  let risk ← optimizer.floatOr supplier "risk_score" (.Finite (1 / 10))
  let capacity ← optimizer.floatOr supplier "capacity" (.Finite 10000)
  let isPrimary := ((lookup supplier "is_primary").map Json.truthy).getD false
  let leadTime ← PyFloat.ofInt leadTimeDays
  return {
    supplierId := supplierId
    name := optimizer.strOr supplier "name" supplierId
    itemId := item.itemId
    unitPrice := price
    leadTimeDays := leadTimeDays
    reliabilityScore := reliability
    riskScore := risk
    capacity := capacity
    isPrimary := isPrimary
    compositeScore :=
      SupplierCandidate.composite item.unitCost price leadTime reliability risk isPrimary }

/-- What a supplier comes to for an item: nothing, where it is not considered. -/
def consider (itemId : String) (item : ItemFigures) (supplier : Json) :
    Except FloatError (Option SupplierCandidate) := do
  let supplier ← asRecord supplier
  if ← considers itemId supplier then
    let candidate ← optimizer.candidateFor item supplier
    return some candidate
  else return none

/-- The candidates for an item, in the order of their suppliers. -/
def candidates (suppliers : List Json) (itemId : String) (item : ItemFigures) :
    Except FloatError (List SupplierCandidate) := do
  let considered ← suppliers.mapM (optimizer.consider itemId item)
  return considered.filterMap id

/-- `item_candidates.sort(key=..., reverse=True)`. -/
def ranked (candidates : List SupplierCandidate) : List SupplierCandidate :=
  optimizer.sort.sorted SupplierCandidate.compositeScore candidates

/-- The ranked candidates of each item of the inventory. -/
def rankSuppliers (items : Dict String ItemFigures) (suppliers : List Json) :
    Except FloatError (List (String × List SupplierCandidate)) :=
  items.entries.mapM fun (itemId, item) => do
    let found ← optimizer.candidates suppliers itemId item
    return (itemId, optimizer.ranked found)

/-- The first candidate of each item that has one. -/
def selectSuppliers (supplierCandidates : List (String × List SupplierCandidate)) :
    List (String × SupplierCandidate) :=
  supplierCandidates.filterMap fun (itemId, found) => found.head?.map fun best => (itemId, best)

/-- `reorder_quantities.get(item_id, 0.0)`. -/
def InventoryPass.orderQuantity (pass : InventoryPass) (itemId : String) : PyFloat :=
  (pass.reorderQuantities.get? itemId).getD (.Finite 0)

/-- Only positive orders are paid for. -/
def procurementCost (pass : InventoryPass) (selected : List (String × SupplierCandidate)) :
    PyFloat :=
  (selected.map fun (itemId, best) =>
    if PyFloat.lt (.Finite 0) (pass.orderQuantity itemId) then
      best.unitPrice * pass.orderQuantity itemId
    else 0).sum

def maxRisk (selected : List (String × SupplierCandidate)) : PyFloat :=
  (selected.map fun entry => entry.2.riskScore).foldl PyFloat.max (.Finite 0)

end SupplyChainOptimizer

/-! ## Logistics -/

/-- Scored logistics route candidate. -/
structure LogisticsCandidate where
  routeId : String
  origin : String
  destination : String
  shippingMode : String
  costPerUnit : PyFloat
  transitDays : Int
  reliability : PyFloat
  riskScore : PyFloat
  deriving DecidableEq, Repr

/-- Reliability against cost, time and risk. -/
def LogisticsCandidate.score (candidate : LogisticsCandidate) : Except FloatError PyFloat := do
  let transit ← PyFloat.ofInt candidate.transitDays
  return candidate.reliability * .Finite 50 - candidate.costPerUnit * .Finite 5
    - transit * .Finite 3 - candidate.riskScore * .Finite 20

namespace SupplyChainOptimizer

variable (optimizer : SupplyChainOptimizer)

def readRoute (route : Json) : Except FloatError LogisticsCandidate := do
  let route ← asRecord route
  let costPerUnit ← optimizer.floatOr route "cost_per_unit" (.Finite 2)
  let transitDays ← optimizer.intOr route "transit_days" 3
  let reliability ← optimizer.floatOr route "reliability" (.Finite (95 / 100))
  let risk ← optimizer.floatOr route "risk_score" (.Finite (5 / 100))
  return {
    routeId := optimizer.strOr route "route_id" "route_default"
    origin := optimizer.strOr route "origin" "hub_a"
    destination := optimizer.strOr route "destination" "plant"
    shippingMode := optimizer.strOr route "shipping_mode" "standard_ground"
    costPerUnit := costPerUnit
    transitDays := transitDays
    reliability := reliability
    riskScore := risk }

def scoreRoute (route : Json) : Except FloatError (PyFloat × LogisticsCandidate) := do
  let candidate ← optimizer.readRoute route
  let score ← candidate.score
  return (score, candidate)

/-- The route that sorts first by its score. -/
def selectRoute (logistics : List Json) : Except FloatError (Option LogisticsCandidate) := do
  let scored ← logistics.mapM optimizer.scoreRoute
  return (optimizer.sort.sorted Prod.fst scored).head?.map Prod.snd

end SupplyChainOptimizer

/-! ## The result -/

/-- What the passes found, before anything is rounded. -/
structure ExactAnalysis where
  inventory : List SupplyChainOptimizer.ItemFigures
  supplierCandidates : List (String × List SupplierCandidate)
  selectedLogistics : Option LogisticsCandidate
  deriving DecidableEq, Repr

/-- Aggregated optimization and candidate analysis result. -/
structure SupplyChainAnalysisResult where
  inventoryItems : List (String × ItemInventoryStatus)
  stockoutItems : List String
  totalShortageUnits : PyFloat
  recommendedOrderQuantity : List (String × PyFloat)
  supplierCandidates : List (String × List SupplierCandidate)
  selectedSuppliers : List (String × SupplierCandidate)
  selectedLogistics : Option LogisticsCandidate
  totalProcurementCost : PyFloat
  totalLogisticsCost : PyFloat
  totalLandedCost : PyFloat
  totalLeadTimeDays : Int
  maxSupplierRisk : PyFloat
  budgetPressure : Bool
  budgetOverrunUsd : PyFloat
  dataQuality : String := "ACTUAL"
  deriving DecidableEq, Repr

open SupplyChainOptimizer

namespace SupplyChainOptimizer

/-- The budget as it is compared, where there is one. -/
def budgetAmount : Json → Except FloatError (Option PyFloat)
  | .Null => .ok none
  | .Boolean value => .ok (some (.Finite (if value then 1 else 0)))
  | .Integer value => .ok (some (.Finite value))
  | .Float value _ => .ok (some value)
  | _ => .error .TypeError

/-- The budget as it is subtracted. -/
def asFloat (budgetLimit : Json) (amount : PyFloat) : Except FloatError PyFloat :=
  match budgetLimit with
  | .Integer value => PyFloat.ofInt value
  | _ => .ok amount

end SupplyChainOptimizer

namespace ExactAnalysis

variable (exact : ExactAnalysis)

def pass : InventoryPass := inventoryPass exact.inventory

def selectedSuppliers : List (String × SupplierCandidate) :=
  selectSuppliers exact.supplierCandidates

def totalProcurementCost : PyFloat := procurementCost exact.pass exact.selectedSuppliers

/-- `sum(reorder_quantities.values())`. -/
def totalOrderedUnits : PyFloat := exact.pass.reorderQuantities.values.sum

def totalLogisticsCost : PyFloat :=
  exact.selectedLogistics.elim (.Finite 0) fun route =>
    if PyFloat.lt (.Finite 0) exact.totalOrderedUnits then
      route.costPerUnit * exact.totalOrderedUnits
    else .Finite 0

def totalLandedCost : PyFloat := exact.totalProcurementCost + exact.totalLogisticsCost

def totalLeadTimeDays : Int :=
  let leadTimes := exact.selectedSuppliers.map fun entry => entry.2.leadTimeDays
  (leadTimes.max?).getD 0 + (exact.selectedLogistics.map LogisticsCandidate.transitDays).getD 0

/-- By how much a budget is overrun, where there is a positive one.  A budget that is no number is
    not compared. -/
def overrun (budgetLimit : Json) : Except FloatError (Option PyFloat) := do
  match (← budgetAmount budgetLimit).filter fun limit =>
      PyFloat.lt (.Finite 0) limit && PyFloat.lt limit exact.totalLandedCost with
  | none => return none
  | some limit =>
      -- an integer is subtracted as a float
      let limit ← asFloat budgetLimit limit
      return some (exact.totalLandedCost - limit)

def result (overrun : Option PyFloat) : SupplyChainAnalysisResult where
  inventoryItems := (exact.pass.invStatusMap.map ItemFigures.status).entries
  stockoutItems := exact.pass.stockoutItems
  totalShortageUnits := PyFloat.round 2 exact.pass.totalShortage
  recommendedOrderQuantity := exact.pass.reorderQuantities.entries
  supplierCandidates := exact.supplierCandidates
  selectedSuppliers := exact.selectedSuppliers
  selectedLogistics := exact.selectedLogistics
  totalProcurementCost := PyFloat.round 2 exact.totalProcurementCost
  totalLogisticsCost := PyFloat.round 2 exact.totalLogisticsCost
  totalLandedCost := PyFloat.round 2 exact.totalLandedCost
  totalLeadTimeDays := exact.totalLeadTimeDays
  maxSupplierRisk := PyFloat.round 3 (maxRisk exact.selectedSuppliers)
  budgetPressure := overrun.isSome
  budgetOverrunUsd := (overrun.map (PyFloat.round 2)).getD (.Finite 0)

/-- The result, with the budget held against the landed cost. -/
def report (budgetLimit : Json) : Except FloatError SupplyChainAnalysisResult := do
  let overrun ← exact.overrun budgetLimit
  return exact.result overrun

end ExactAnalysis

namespace SupplyChainOptimizer

variable (optimizer : SupplyChainOptimizer)

/-- The passes over the inventory, the suppliers and the logistics. -/
def analyzeExactly (inventory demand : Json) (suppliers logistics : List Json) :
    Except FloatError ExactAnalysis := do
  let figures ← optimizer.readInventory inventory demand
  let supplierCandidates ←
    optimizer.rankSuppliers (inventoryPass figures).invStatusMap suppliers
  let selectedLogistics ← optimizer.selectRoute logistics
  return {
    inventory := figures
    supplierCandidates := supplierCandidates
    selectedLogistics := selectedLogistics }

/-- Run candidate analysis and multi-objective optimization. -/
def analyze (inventory demand : Json) (suppliers logistics : List Json)
    (budgetLimit : Json) : Except FloatError SupplyChainAnalysisResult := do
  let exact ← optimizer.analyzeExactly inventory demand suppliers logistics
  exact.report budgetLimit

variable {optimizer} {inventory demand : Json} {suppliers logistics : List Json}

/-- **The passes succeed** exactly where each of them does. -/
theorem analyzeExactly_eq_ok {exact : ExactAnalysis} :
    optimizer.analyzeExactly inventory demand suppliers logistics = .ok exact
      ↔ optimizer.readInventory inventory demand = .ok exact.inventory
        ∧ optimizer.rankSuppliers exact.pass.invStatusMap suppliers = .ok exact.supplierCandidates
        ∧ optimizer.selectRoute logistics = .ok exact.selectedLogistics := by
  constructor
  · intro h
    obtain ⟨figures, hfigures, hrest⟩ := Fallible.bind_eq_ok.mp h
    obtain ⟨found, hfound, hrest⟩ := Fallible.bind_eq_ok.mp hrest
    obtain ⟨route, hroute, hexact⟩ := Fallible.bind_eq_ok.mp hrest
    cases Except.ok.inj hexact
    exact ⟨hfigures, hfound, hroute⟩
  · rintro ⟨hfigures, hfound, hroute⟩
    refine Fallible.bind_eq_ok.mpr ⟨_, hfigures, Fallible.bind_eq_ok.mpr ⟨_, hfound, ?_⟩⟩
    exact Fallible.bind_eq_ok.mpr ⟨_, hroute, rfl⟩

lemma report_eq_ok {exact : ExactAnalysis} {budgetLimit : Json}
    {result : SupplyChainAnalysisResult} :
    exact.report budgetLimit = .ok result
      ↔ ∃ overrun, exact.overrun budgetLimit = .ok overrun ∧ exact.result overrun = result := by
  simp only [ExactAnalysis.report, Fallible.bind_eq_ok, pure, Except.pure, Except.ok.injEq]

lemma analyze_eq_ok {budgetLimit : Json} {result : SupplyChainAnalysisResult} :
    optimizer.analyze inventory demand suppliers logistics budgetLimit = .ok result
      ↔ ∃ exact, optimizer.analyzeExactly inventory demand suppliers logistics = .ok exact
        ∧ ∃ overrun, exact.overrun budgetLimit = .ok overrun ∧ exact.result overrun = result := by
  simp only [analyze, Fallible.bind_eq_ok, report_eq_ok]

/-! ## Plain records -/

def plainFloat : Json → Except FloatError PyFloat
  | .Boolean value => .ok (.Finite (if value then 1 else 0))
  | .Integer value => PyFloat.ofInt value
  | .Float value _ => .ok value
  | .Text _ => .error .ValueError
  | _ => .error .TypeError

def plainInt : Json → Except FloatError Int
  | .Boolean value => .ok (if value then 1 else 0)
  | .Integer value => .ok value
  | .Float (.Finite value) _ => .ok (value.num.tdiv value.den)
  | .Float .NaN _ => .error .ValueError
  | .Float _ _ => .error (.Other "OverflowError")
  | .Text _ => .error .ValueError
  | _ => .error .TypeError

/-- The sort that takes a NaN for the highest of all. -/
def plainSort : StableSort PyFloat (fun a b => PyFloat.lt a b = true) (· ≠ .NaN) :=
  .ofRank PyFloat.rank (fun _ _ => PyFloat.lt_of_rank_lt) PyFloat.rank_injective

/-- An optimizer that reads no numbers from texts and prints no containers. -/
def plainOptimizer : SupplyChainOptimizer where
  runtime :=
    { jsonLoads _ := .error .JSONDecodeError
      jsonDumps _ := .ok ""
      float _ := .error .TypeError
      repr _ := "" }
  float := plainFloat
  int := plainInt
  sort := plainSort
  float_null := rfl
  int_null := rfl
  float_float _ _ := rfl

/-- An inventory record with a stock and a safety stock. -/
def stockRecord (itemId : String) (current safety : Int) : Json :=
  .Dict [("item_id", .Text itemId), ("current_stock", .Integer current),
    ("safety_stock", .Integer safety)]

end SupplyChainOptimizer

end CostPlatform
