import CostPlatform.Intelligence.SupplyChain

/-!
# What the supply chain workflow is given

The validation of an input, the check of its budget and the filters of its context.  A filter takes
the first few records of a list and rebuilds each one with a fixed list of keys, where a key that
the record lacks gets a default of the filter's own.
-/

namespace CostPlatform

open PyJson SupplyChainOptimizer

/-! ## Validation -/

/-- What the validation of a supply chain input returned. -/
structure SupplyChainValidation where
  isValid : Bool
  errors : List String := []
  deriving DecidableEq, Repr

namespace SupplyChainWorkflow

def requiredFields : List String := ["inventory", "demand", "suppliers", "logistics", "lead_time"]

/-- A required field is there and is not null. -/
def requiredError (inputData : Record) (fieldName : String) : Option String :=
  match lookup inputData fieldName with
  | none => some (fieldName ++ " is required")
  | some .Null => some (fieldName ++ " must not be null")
  | some _ => none

/-- A field that is there and is not null is a container of the kind expected, and not empty. -/
def containerError (inputData : Record) (fieldName expected : String) (len : Json → Option Nat) :
    Option String :=
  match lookup inputData fieldName with
  | none => none
  | some .Null => none
  | some value =>
      match len value with
      | none => some (fieldName ++ " must be " ++ expected)
      | some 0 => some (fieldName ++ " must not be empty")
      | some _ => none

def listLength : Json → Option Nat
  | .Items items => some items.length
  | _ => none

def listOrDictLength : Json → Option Nat
  | .Items items => some items.length
  | .Dict entries => some entries.length
  | _ => none

def inventoryError (inputData : Record) : Option String :=
  containerError inputData "inventory" "a list or dict" listOrDictLength

def suppliersError (inputData : Record) : Option String :=
  containerError inputData "suppliers" "a list" listLength

def logisticsError (inputData : Record) : Option String :=
  containerError inputData "logistics" "a list" listLength

/-- Validate that all required supply chain inputs are provided. -/
def validateInput : Option Record → SupplyChainValidation
  | none => { isValid := false, errors := ["input_data is required"] }
  | some inputData =>
      let errors := requiredFields.filterMap (requiredError inputData)
        ++ [inventoryError inputData, suppliersError inputData,
          logisticsError inputData].filterMap id
      if errors.isEmpty then { isValid := true } else { isValid := false, errors := errors }

/-- What the workflow reads of its input. -/
structure Input where
  inventory : Json
  demand : Json
  suppliers : Json
  logistics : Json
  leadTime : Json
  budgetLimit : Json
  businessPriority : Json

/-- `input_data[key]`. -/
def item (inputData : Record) (key : String) : Except FloatError Json :=
  Fallible.demand (lookup inputData key) (.Other "KeyError")

def readInput (inputData : Record) : Except FloatError Input := do
  let inventory ← item inputData "inventory"
  let demand ← item inputData "demand"
  let suppliers ← item inputData "suppliers"
  let logistics ← item inputData "logistics"
  return {
    inventory := inventory
    demand := demand
    suppliers := suppliers
    logistics := logistics
    leadTime := (lookup inputData "lead_time").getD .Null
    budgetLimit := (lookup inputData "budget_limit").getD .Null
    businessPriority := (lookup inputData "business_priority").getD (.Text "NORMAL") }

end SupplyChainWorkflow

/-! ## Budget policy -/

inductive BudgetPreCheck where
  | Allow
  | Block
  deriving DecidableEq, Repr

def BudgetPreCheck.value : BudgetPreCheck → String
  | .Allow => "ALLOW"
  | .Block => "BLOCK"

namespace SupplyChainWorkflow

def blockIf (c : Prop) [Decidable c] : BudgetPreCheck := if c then .Block else .Allow

/-- Deterministic budget policy evaluation.  A budget that is no number is not compared with 0. -/
def evaluateBudgetPolicy : Json → Except FloatError BudgetPreCheck
  | .Null => .ok .Allow
  | .Boolean value => .ok (blockIf (value = false))
  | .Integer value => .ok (blockIf (value ≤ 0))
  | .Float value _ => .ok (blockIf (PyFloat.le value (.Finite 0) = true))
  | _ => .error .TypeError

/-- A budget that blocks is not positive. -/
lemma budgetAmount_of_block {budgetLimit : Json}
    (h : evaluateBudgetPolicy budgetLimit = .ok .Block) :
    ∃ limit, budgetAmount budgetLimit = .ok (some limit)
      ∧ PyFloat.lt (.Finite 0) limit = false := by
  have hblock : ∀ c : Prop, [Decidable c] → (.ok (blockIf c) : Except FloatError BudgetPreCheck)
      = .ok .Block → c := by
    intro c _ hc
    by_contra hnot
    simp [blockIf, hnot] at hc
  cases budgetLimit with
  | Boolean value =>
      cases hblock _ h
      exact ⟨_, rfl, rfl⟩
  | Integer value =>
      have hle : value ≤ 0 := hblock _ h
      exact ⟨_, rfl, by simpa [PyFloat.lt] using hle⟩
  | Float value text =>
      have hle := hblock _ h
      exact ⟨value, rfl, Bool.eq_false_iff.mpr fun hlt => PyFloat.not_le_of_lt hlt hle⟩
  | Null => cases h
  | Text value => cases h
  | Items items => cases h
  | Dict entries => cases h

/-- **A budget that blocks is none to the analysis**, which looks at positive ones only. -/
lemma overrun_of_block (exact : ExactAnalysis) {budgetLimit : Json}
    (h : evaluateBudgetPolicy budgetLimit = .ok .Block) : exact.overrun budgetLimit = .ok none := by
  obtain ⟨limit, hlimit, hnot⟩ := budgetAmount_of_block h
  rw [ExactAnalysis.overrun, hlimit, Fallible.ok_bind, Option.filter_some, hnot, Bool.false_and]
  rfl

/-! ## Context filters -/

/-- A record, rebuilt with these keys.  Those it lacks get the default that stands beside them. -/
def filterFields (fields record : Record) : Record :=
  fields.map fun (key, default) => (key, (lookup record key).getD default)

def supplierFields : Record :=
  [("supplier_id", .Null), ("name", .Null), ("items_supplied", .Items []), ("unit_price", .Null),
    ("lead_time_days", .Null), ("reliability_score", .Float (.Finite (9 / 10)) "0.9"),
    ("risk_score", .Float (.Finite (1 / 10)) "0.1"),
    ("capacity", .Float (.Finite 10000) "10000.0"), ("is_primary", .Boolean false)]

def logisticsFields : Record :=
  [("route_id", .Null), ("origin", .Null), ("destination", .Null), ("shipping_mode", .Null),
    ("cost_per_unit", .Null), ("transit_days", .Null),
    ("reliability", .Float (.Finite (95 / 100)) "0.95"),
    ("risk_score", .Float (.Finite (5 / 100)) "0.05")]

/-- `value[:bound]`.  A text has characters, and an object no slice. -/
def sliced (bound : Nat) : Json → Except FloatError (List Json)
  | .Items items => .ok (items.take bound)
  | .Text text => .ok ((text.toList.take bound).map fun character =>
      .Text (String.singleton character))
  | .Dict _ => .error (.Other "KeyError")
  | _ => .error .TypeError

def filterRecord (fields : Record) (value : Json) : Except FloatError Json := do
  let record ← asRecord value
  return .Dict (filterFields fields record)

def filterContext (bound : Nat) (fields : Record) (value : Json) :
    Except FloatError (List Json) := do
  let kept ← sliced bound value
  kept.mapM (filterRecord fields)

/-- Context guardrail: sanitize and bound supplier data. -/
def filterSupplierContext (suppliers : Json) : Except FloatError (List Json) :=
  filterContext 10 supplierFields suppliers

/-- Context guardrail: sanitize and bound logistics data. -/
def filterLogisticsContext (logistics : Json) : Except FloatError (List Json) :=
  filterContext 5 logisticsFields logistics

end SupplyChainWorkflow

end CostPlatform
