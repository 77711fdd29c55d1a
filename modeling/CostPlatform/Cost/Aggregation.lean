import CostPlatform.Cost.Currency
import CostPlatform.Library.Calendar
import CostPlatform.Library.KeyedTable
import CostPlatform.Security.ScopeFilter
import Mathlib.Algebra.BigOperators.Group.List.Basic
import Mathlib.Algebra.Order.BigOperators.Group.List
import Mathlib.Algebra.Order.Field.Rat
import Mathlib.Tactic.Linarith
import Mathlib.Tactic.Ring

/-!
# Spend aggregation

Cost events carry money, usage events carry who spent it and when; the repository joins the two,
filters, and sums.  The sums add the stored amounts as they are, whatever currency each event is
in.

`currencyCorrect_iff` measures that against the reporting rule, which wants every amount
converted to the base currency first and an amount that cannot be converted left out.  A figure
obeys the rule exactly when nothing unconvertible was counted and the conversions cancel out.
-/

namespace CostPlatform

open Calendar (Timestamp)

/-! ## Events -/

/-- The columns of `usage_events` an aggregate reads. -/
structure UsageEvent where
  id : String
  tenantId : Option String
  plantId : Option String
  departmentId : Option String
  workloadId : Option String
  agentId : Option String
  modelId : Option String
  timestamp : Timestamp
  totalTokens : Option Int
  deriving DecidableEq, Repr

inductive Provenance where
  | Actual
  | Estimated
  | Unavailable
  deriving DecidableEq, Repr

/-- A row of `cost_events`, with the `CHECK` constraints on its amounts. -/
structure CostEvent where
  id : String
  usageEventId : String
  estimatedCost : Option ℚ
  actualCost : Option ℚ
  currency : String
  provenance : Provenance
  estimatedNonneg : ∀ amount ∈ estimatedCost, 0 ≤ amount
  actualNonneg : ∀ amount ∈ actualCost, 0 ≤ amount

/-- The two tables; a usage event has at most one cost event. -/
structure CostLedger where
  usageEvents : Table UsageEvent.id
  costEvents : Table CostEvent.id
  oneCostPerUsage : (costEvents.rows.map CostEvent.usageEventId).Nodup

/-- A cost event joined to its usage event. -/
abbrev SpendRow := CostEvent × UsageEvent

def joinUsage (usageEvents : Table UsageEvent.id) (cost : CostEvent) : Option SpendRow :=
  (usageEvents.get cost.usageEventId).map fun usage => (cost, usage)

def CostLedger.joined (ledger : CostLedger) : List SpendRow :=
  ledger.costEvents.rows.filterMap (joinUsage ledger.usageEvents)

/-! ## Sums -/

/-- The two figures that are reported, each with its provenance and its column. -/
inductive Figure where
  | Actual
  | Estimated
  deriving DecidableEq, Repr

def Figure.provenance : Figure → Provenance
  | .Actual => .Actual
  | .Estimated => .Estimated

def Figure.column : Figure → CostEvent → Option ℚ
  | .Actual, cost => cost.actualCost
  | .Estimated, cost => cost.estimatedCost

/-- What a row contributes to a figure: `CASE WHEN provenance = … THEN column END`. -/
def counted (figure : Figure) (row : SpendRow) : Option ℚ :=
  if row.1.provenance = figure.provenance then figure.column row.1 else none

/-- `_sum_where`: the sum of the contributions, 0 when there are none. -/
def sumWhere (figure : Figure) (rows : List SpendRow) : ℚ := (rows.filterMap (counted figure)).sum

def unavailableCostEvents (rows : List SpendRow) : Nat :=
  rows.countP fun row => row.1.provenance ≠ .Actual ∧ row.1.provenance ≠ .Estimated

/-- Aggregate figures for one group of cost events. -/
structure CostTotals where
  actualCost : ℚ
  estimatedCost : ℚ
  unavailableCostEvents : Nat
  totalRequests : Nat
  totalTokens : Int
  deriving DecidableEq, Repr

def totals (rows : List SpendRow) : CostTotals where
  actualCost := sumWhere .Actual rows
  estimatedCost := sumWhere .Estimated rows
  unavailableCostEvents := unavailableCostEvents rows
  totalRequests := (rows.map fun row => row.2.id).eraseDups.length
  totalTokens := (rows.filterMap fun row => row.2.totalTokens).sum

/-- Spend recorded against one budget scope in a period. -/
structure ScopeSpend where
  actualCost : ℚ
  estimatedCost : ℚ
  unavailableCostEvents : Nat
  deriving DecidableEq, Repr

/-! ## Queries -/

def usageColumns : OwnershipColumns UsageEvent where
  tenantColumn usage := usage.tenantId
  plantColumn usage := usage.plantId
  departmentColumn usage := usage.departmentId

/-- The rows of `_base_select`: within the authorized scope, and within the bounds given. -/
def CostLedger.authorizedRows (ledger : CostLedger) (scope : AuthorizedScope)
    (fromTs toTs : Option Timestamp) : List SpendRow :=
  ledger.joined.filter fun row =>
    (authorizedScopeFilter scope usageColumns).selects row.2
      && (fromTs.all fun bound => bound ≤ row.2.timestamp)
      && (toTs.all fun bound => row.2.timestamp ≤ bound)

def CostLedger.summary (ledger : CostLedger) (scope : AuthorizedScope)
    (fromTs toTs : Option Timestamp) : CostTotals :=
  totals (ledger.authorizedRows scope fromTs toTs)

/-- The column a budget scope is matched on.  ENTERPRISE has none of its own. -/
def columnByScope (scopeType : String) : Option (UsageEvent → Option String) :=
  match scopeType with
  | "TENANT" => some UsageEvent.tenantId
  | "PLANT" => some UsageEvent.plantId
  | "DEPARTMENT" => some UsageEvent.departmentId
  | "WORKLOAD" => some UsageEvent.workloadId
  | "AGENT" => some UsageEvent.agentId
  | "MODEL" => some UsageEvent.modelId
  | _ => none

/-- The rows counted against a budget scope between two instants, both included. -/
def CostLedger.scopeRows (ledger : CostLedger) (tenantId scopeType scopeId : String)
    (fromTs toTs : Timestamp) : List SpendRow :=
  ledger.joined.filter fun row =>
    row.2.tenantId = some tenantId
      && ((columnByScope scopeType).all fun column => column row.2 = some scopeId)
      && fromTs ≤ row.2.timestamp && row.2.timestamp ≤ toTs

def CostLedger.spendForScope (ledger : CostLedger) (tenantId scopeType scopeId : String)
    (fromTs toTs : Timestamp) : ScopeSpend :=
  let rows := ledger.scopeRows tenantId scopeType scopeId fromTs toTs
  { actualCost := sumWhere .Actual rows
    estimatedCost := sumWhere .Estimated rows
    unavailableCostEvents := unavailableCostEvents rows }

/-! ## The reporting rule -/

/-- A reported figure: of a budget scope, or of everything a caller may see. -/
inductive SpendQuery where
  | Scope (tenantId scopeType scopeId : String) (fromTs toTs : Timestamp)
  | Summary (scope : AuthorizedScope) (fromTs toTs : Option Timestamp)

def SpendQuery.rows (ledger : CostLedger) : SpendQuery → List SpendRow
  | .Scope tenantId scopeType scopeId fromTs toTs =>
      ledger.scopeRows tenantId scopeType scopeId fromTs toTs
  | .Summary scope fromTs toTs => ledger.authorizedRows scope fromTs toTs

/-- What the repository reports. -/
def SpendQuery.reported (ledger : CostLedger) (figure : Figure) : SpendQuery → ℚ
  | .Scope tenantId scopeType scopeId fromTs toTs =>
      let spend := ledger.spendForScope tenantId scopeType scopeId fromTs toTs
      match figure with
      | .Actual => spend.actualCost
      | .Estimated => spend.estimatedCost
  | .Summary scope fromTs toTs =>
      let summary := ledger.summary scope fromTs toTs
      match figure with
      | .Actual => summary.actualCost
      | .Estimated => summary.estimatedCost

def convertible (converter : CurrencyConverter) (row : SpendRow) : Bool :=
  converter.canConvert (some row.1.currency)

/-- What a row is worth in the base currency, where that is known. -/
def converted (converter : CurrencyConverter) (figure : Figure) (row : SpendRow) : Option ℚ :=
  (counted figure row).bind fun amount =>
    (converter.toBase amount (some row.1.currency)).toOption

/-- The ledger without the events whose currency cannot be converted. -/
def CostLedger.dropUnconvertible (ledger : CostLedger) (converter : CurrencyConverter) :
    CostLedger where
  usageEvents := ledger.usageEvents
  costEvents := ledger.costEvents.filter fun cost => converter.canConvert (some cost.currency)
  oneCostPerUsage :=
    ledger.oneCostPerUsage.sublist (List.filter_sublist.map CostEvent.usageEventId)

/-- **The rule.**  The figure is the sum of the converted amounts, and leaving out the events
    that cannot be converted would not have changed it. -/
def CurrencyCorrect (converter : CurrencyConverter) (ledger : CostLedger) (query : SpendQuery)
    (figure : Figure) : Prop :=
  query.reported ledger figure
      = ((query.rows ledger).filterMap (converted converter figure)).sum
    ∧ query.reported ledger figure
      = query.reported (ledger.dropUnconvertible converter) figure

/-! ## Where the sums and the rule part -/

/-- What conversion would add to a row. -/
def conversionGain (converter : CurrencyConverter) (figure : Figure) (row : SpendRow) :
    Option ℚ :=
  (counted figure row).bind fun amount =>
    (converter.unitValue (some row.1.currency)).map fun value => amount * (value - 1)

/-- Nothing unconvertible is counted, and over the rest the conversions cancel out. -/
def CurrencyNeutral (converter : CurrencyConverter) (figure : Figure) (rows : List SpendRow) :
    Prop :=
  (∀ row ∈ rows, convertible converter row = false →
    ∀ amount ∈ counted figure row, amount = 0)
  ∧ (rows.filterMap (conversionGain converter figure)).sum = 0

variable {converter : CurrencyConverter} {figure : Figure} {ledger : CostLedger}

lemma reported_eq (query : SpendQuery) :
    query.reported ledger figure = sumWhere figure (query.rows ledger) := by
  cases query <;> cases figure <;> rfl

lemma counted_nonneg {row : SpendRow} {amount : ℚ} (h : counted figure row = some amount) :
    0 ≤ amount := by
  simp only [counted] at h
  split_ifs at h
  cases figure with
  | Actual => exact row.1.actualNonneg amount h
  | Estimated => exact row.1.estimatedNonneg amount h

lemma joined_dropUnconvertible :
    (ledger.dropUnconvertible converter).joined
      = ledger.joined.filter (convertible converter) := by
  simp only [CostLedger.joined, CostLedger.dropUnconvertible, Table.filter]
  induction ledger.costEvents.rows with
  | nil => rfl
  | cons cost costs ih =>
      have hrow : ∀ row, joinUsage ledger.usageEvents cost = some row →
          convertible converter row = converter.canConvert (some cost.currency) := by
        intro row hjoin
        obtain ⟨usage, -, rfl⟩ := Option.map_eq_some_iff.mp hjoin
        rfl
      cases hjoin : joinUsage ledger.usageEvents cost with
      | none => by_cases h : converter.canConvert (some cost.currency) <;> simp [h, hjoin, ih]
      | some row =>
          have hconvertible := hrow row hjoin
          by_cases h : converter.canConvert (some cost.currency) <;>
            simp [h, hjoin, hconvertible, ih]

lemma rows_dropUnconvertible (query : SpendQuery) :
    query.rows (ledger.dropUnconvertible converter)
      = (query.rows ledger).filter (convertible converter) := by
  cases query <;>
    simp only [SpendQuery.rows, CostLedger.scopeRows, CostLedger.authorizedRows,
      joined_dropUnconvertible, List.filter_filter, Bool.and_comm]

/-- The counted amounts split into what is convertible and what is not. -/
lemma sumWhere_split (rows : List SpendRow) :
    sumWhere figure rows
      = sumWhere figure (rows.filter (convertible converter))
        + sumWhere figure (rows.filter fun row => !convertible converter row) := by
  induction rows with
  | nil => simp [sumWhere]
  | cons row rows ih =>
      simp only [sumWhere] at ih ⊢
      cases hcounted : counted figure row with
      | none => by_cases h : convertible converter row <;> simp [h, hcounted, ih]
      | some amount =>
          by_cases h : convertible converter row <;> simp [h, hcounted, ih] <;> ring

/-- Converting the convertible amounts adds the gains. -/
lemma converted_sum (rows : List SpendRow) :
    (rows.filterMap (converted converter figure)).sum
      = sumWhere figure (rows.filter (convertible converter))
        + (rows.filterMap (conversionGain converter figure)).sum := by
  induction rows with
  | nil => simp [sumWhere]
  | cons row rows ih =>
      simp only [sumWhere] at ih ⊢
      cases hcounted : counted figure row with
      | none =>
          by_cases h : convertible converter row <;>
            simp [h, hcounted, ih, converted, conversionGain]
      | some amount =>
          rcases converter.toBase_eq amount (some row.1.currency) with
            ⟨hconvert, value, hvalue, hbase⟩ | ⟨hrefuse, hvalue, e, hbase⟩
          · have h : convertible converter row = true := hconvert
            simp [h, hcounted, ih, converted, conversionGain, hbase, hvalue, Except.toOption]
            ring
          · have h : convertible converter row = false := hrefuse
            simp [h, hcounted, ih, converted, conversionGain, hbase, hvalue, Except.toOption]

/-- Amounts are never negative, so nothing cancels inside a sum of them. -/
lemma sumWhere_eq_zero_iff (rows : List SpendRow) :
    sumWhere figure rows = 0 ↔ ∀ row ∈ rows, ∀ amount ∈ counted figure row, amount = 0 := by
  have hnonneg : ∀ amount ∈ rows.filterMap (counted figure), 0 ≤ amount := by
    intro amount h
    obtain ⟨row, -, hcounted⟩ := List.mem_filterMap.mp h
    exact counted_nonneg hcounted
  refine ⟨fun hzero row hrow amount hcounted => ?_, fun hzero => ?_⟩
  · exact List.all_zero_of_le_zero_le_of_sum_eq_zero hnonneg hzero
      (List.mem_filterMap.mpr ⟨row, hrow, hcounted⟩)
  · refine List.sum_eq_zero fun amount h => ?_
    obtain ⟨row, hrow, hcounted⟩ := List.mem_filterMap.mp h
    exact hzero row hrow amount hcounted

/-- Leaving the unconvertible events out changes a figure unless they counted nothing. -/
lemma reported_dropUnconvertible_iff (query : SpendQuery) :
    query.reported ledger figure = query.reported (ledger.dropUnconvertible converter) figure
      ↔ ∀ row ∈ query.rows ledger, convertible converter row = false →
          ∀ amount ∈ counted figure row, amount = 0 := by
  have hsplit := @sumWhere_split converter figure (query.rows ledger)
  rw [reported_eq, reported_eq, rows_dropUnconvertible, hsplit, add_eq_left, sumWhere_eq_zero_iff]
  simp only [List.mem_filter, Bool.not_eq_true', and_imp]

/-- **A figure obeys the rule exactly when its rows are currency neutral.** -/
theorem currencyCorrect_iff (converter : CurrencyConverter) (ledger : CostLedger)
    (query : SpendQuery) (figure : Figure) :
    CurrencyCorrect converter ledger query figure
      ↔ CurrencyNeutral converter figure (query.rows ledger) := by
  have hconverted := @converted_sum converter figure (query.rows ledger)
  have hdropped := @reported_eq figure (ledger.dropUnconvertible converter) query
  rw [rows_dropUnconvertible] at hdropped
  rw [CurrencyCorrect, CurrencyNeutral, reported_dropUnconvertible_iff]
  refine ⟨fun ⟨hsum, hnone⟩ => ⟨hnone, ?_⟩, fun ⟨hnone, hgain⟩ => ⟨?_, hnone⟩⟩
  all_goals
    have hsame := (reported_dropUnconvertible_iff query).mpr hnone
    linarith

lemma nonneg_of_none : ∀ amount ∈ (none : Option ℚ), 0 ≤ amount := by simp

/-- A plant that spent 50 USD and 100 INR within one tenant. -/
def mixedLedger : CostLedger where
  usageEvents :=
    { rows :=
        [ { id := "u1", tenantId := some "t1", plantId := some "p1", departmentId := none,
            workloadId := none, agentId := none, modelId := some "m1", timestamp := 10,
            totalTokens := some 900 },
          { id := "u2", tenantId := some "t1", plantId := some "p1", departmentId := none,
            workloadId := none, agentId := none, modelId := some "m2", timestamp := 20,
            totalTokens := none } ]
      nodup := by decide }
  costEvents :=
    { rows :=
        [ { id := "c1", usageEventId := "u1", estimatedCost := none, actualCost := some 50,
            currency := "USD", provenance := .Actual, estimatedNonneg := nonneg_of_none,
            actualNonneg := by simp },
          { id := "c2", usageEventId := "u2", estimatedCost := none, actualCost := some 100,
            currency := "INR", provenance := .Actual, estimatedNonneg := nonneg_of_none,
            actualNonneg := by simp } ]
      nodup := by decide }
  oneCostPerUsage := by decide

def usdConverter : CurrencyConverter where
  baseCurrency := "USD"
  rates code := if code = "INR" then some (12 / 1000) else none

/-- **The rupees are added as if they were dollars.**  The plant's budget and the tenant's
    summary both report 150 where 51.2 was spent. -/
theorem rupees_added_as_dollars :
    let plant := SpendQuery.Scope "t1" "PLANT" "p1" 0 100
    let tenant := SpendQuery.Summary ⟨"t1", [⟨"t1", none, none⟩], by decide⟩ none none
    (plant.reported mixedLedger .Actual = 150 ∧ tenant.reported mixedLedger .Actual = 150)
      ∧ ((plant.rows mixedLedger).filterMap (converted usdConverter .Actual)).sum = 512 / 10
      ∧ ¬ CurrencyCorrect usdConverter mixedLedger plant .Actual
      ∧ ¬ CurrencyCorrect usdConverter mixedLedger tenant .Actual := by
  simp only [CurrencyCorrect]
  decide +kernel

/-! ## Rates on one side of the base -/

lemma CurrencyConverter.unitValue_isSome_iff (source : Option String) :
    (converter.unitValue source).isSome = converter.canConvert source := by
  rcases converter.toBase_eq 1 source with ⟨hconvert, value, hvalue, -⟩ | ⟨hrefuse, hvalue, -⟩
  · simp only [hconvert, hvalue, Option.isSome_some]
  · simp only [hrefuse, hvalue, Option.isSome_none]

/-- **Where no currency is worth more than the base, nothing cancels.**  The figure then obeys
    the rule exactly when each amount counted is zero or in a currency at par. -/
theorem currencyNeutral_iff_of_unitValue_le_one (rows : List SpendRow)
    (hrates : ∀ source value, converter.unitValue source = some value → value ≤ 1) :
    CurrencyNeutral converter figure rows
      ↔ ∀ row ∈ rows, ∀ amount ∈ counted figure row,
          amount = 0 ∨ converter.unitValue (some row.1.currency) = some 1 := by
  have hgain : ∀ gain ∈ rows.filterMap (conversionGain converter figure), gain ≤ 0 := by
    intro gain h
    obtain ⟨row, -, hrow⟩ := List.mem_filterMap.mp h
    obtain ⟨amount, hcounted, hgain⟩ := Option.bind_eq_some_iff.mp hrow
    obtain ⟨value, hvalue, rfl⟩ := Option.map_eq_some_iff.mp hgain
    have hamount := counted_nonneg hcounted
    have hle := hrates _ _ hvalue
    exact mul_nonpos_of_nonneg_of_nonpos hamount (by linarith)
  refine ⟨fun ⟨hnone, hsum⟩ row hrow amount hcounted => ?_, fun hrows => ⟨?_, ?_⟩⟩
  · cases hvalue : converter.unitValue (some row.1.currency) with
    | none =>
        have hconvert := converter.unitValue_isSome_iff (some row.1.currency)
        rw [hvalue, Option.isSome_none] at hconvert
        exact Or.inl (hnone row hrow hconvert.symm amount hcounted)
    | some value =>
        have hmem : amount * (value - 1) ∈ rows.filterMap (conversionGain converter figure) :=
          List.mem_filterMap.mpr ⟨row, hrow, by
            have hc : counted figure row = some amount := hcounted
            simp only [conversionGain, hc, hvalue, Option.bind_some, Option.map_some]⟩
        -- the gains are the non-negative elements of the opposite order
        have hzero : amount * (value - 1) = 0 :=
          @List.all_zero_of_le_zero_le_of_sum_eq_zero ℚᵒᵈ _ _ _ _ hgain hsum _ hmem
        rcases mul_eq_zero.mp hzero with h | h
        · exact Or.inl h
        · exact Or.inr (by rw [sub_eq_zero.mp h])
  · intro row hrow hconvert amount hcounted
    rcases hrows row hrow amount hcounted with h | h
    · exact h
    · have hsome := converter.unitValue_isSome_iff (some row.1.currency)
      rw [h, show converter.canConvert (some row.1.currency) = false from hconvert] at hsome
      cases hsome
  · refine List.sum_eq_zero fun gain h => ?_
    obtain ⟨row, hrow, hgain⟩ := List.mem_filterMap.mp h
    obtain ⟨amount, hcounted, hgain⟩ := Option.bind_eq_some_iff.mp hgain
    obtain ⟨value, hvalue, rfl⟩ := Option.map_eq_some_iff.mp hgain
    rcases hrows row hrow amount hcounted with h | h
    · rw [h, zero_mul]
    · rw [hvalue, Option.some.injEq] at h
      rw [h, sub_self, mul_zero]

end CostPlatform
