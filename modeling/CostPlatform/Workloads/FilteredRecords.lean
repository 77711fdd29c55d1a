import CostPlatform.Workloads.SupplyChainContext

/-!
# Reading filtered records

The analysis reads a record with defaults of its own.  A filter that ran before has put others in
their place, and where that was null there is no number left to read and the text `None` to show.

A supplier record also loses its own item, so that it is considered for an item only by what it
supplies.
-/

namespace CostPlatform

open PyJson SupplyChainOptimizer

namespace SupplyChainWorkflow

variable {optimizer : SupplyChainOptimizer}

/-! ## Keys with a default -/

section Keys

variable {fields record : Record} {key : String}

end Keys

/-! ## Suppliers -/

variable {supplier : Record} {itemId : String} {item : ItemFigures}

/-- The numbers of a supplier that the filter has no default for are there. -/
def Priced (supplier : Record) : Prop :=
  (lookup supplier "unit_price").isSome = true ∧ (lookup supplier "lead_time_days").isSome = true

/-- Whether a supplier is a primary one. -/
def primary (supplier : Record) : Bool :=
  ((lookup supplier "is_primary").map Json.truthy).getD false

variable {route : Record}

end SupplyChainWorkflow

end CostPlatform
