import CostPlatform.Cost.Aggregation
import CostPlatform.Library.Fallible
import CostPlatform.Library.Grouping

/-!
# Breakdowns and trends

The repository answers three aggregate queries over the rows a caller may see: one summary, a
breakdown by model, agent or plant, and a trend in time buckets.  The database's own date functions
and its place for NULL in an ordering are parameters.

`reporting_conserves` says that nothing is lost or counted twice on the way: the rows of every
breakdown and the buckets of every trend add up to the summary, and the summary adds up what each
event stands for under its provenance.
-/

namespace CostPlatform

open Calendar (Timestamp)
open Grouping (group groupKeys)

/-! ## The queries -/

inductive BreakdownDimension where
  | Model
  | Agent
  | Plant
  deriving DecidableEq, Repr

/-- `_DIMENSION_COLUMN`. -/
def BreakdownDimension.column : BreakdownDimension → UsageEvent → Option String
  | .Model, usage => usage.modelId
  | .Agent, usage => usage.agentId
  | .Plant, usage => usage.plantId

/-- Trend bucket sizes. -/
inductive Granularity where
  | Hour
  | Day
  | Week
  | Month
  deriving DecidableEq, Repr

def Granularity.value : Granularity → String
  | .Hour => "hour"
  | .Day => "day"
  | .Week => "week"
  | .Month => "month"

/-- `_SQLITE_BUCKET_FORMAT`. -/
def Granularity.sqliteBucketFormat : Granularity → String
  | .Hour => "%Y-%m-%dT%H:00:00"
  | .Day => "%Y-%m-%dT00:00:00"
  | .Week => "%Y-W%W"
  | .Month => "%Y-%m-01T00:00:00"

/-- One grouped row, keyed by the dimension's id. -/
structure BreakdownRow where
  id : Option String
  totals : CostTotals
  deriving DecidableEq, Repr

/-- One time bucket. -/
structure TrendRow where
  bucketKey : String
  totals : CostTotals
  deriving DecidableEq, Repr

/-- What a session's database does for itself. -/
structure ReportDatabase where
  /-- `session.bind.dialect.name`, when the session is bound. -/
  bind : Option String
  nullsFirst : Bool
  strftime : String → Timestamp → String
  dateTrunc : String → Timestamp → Timestamp
  toChar : Timestamp → String → String

namespace ReportDatabase

variable (database : ReportDatabase)

def dialect : String := database.bind.getD "sqlite"

/-- Raised on a dialect with no implemented bucketing. -/
structure NotImplementedError where
  dialect : String
  deriving DecidableEq, Repr

/-- `_bucket_expression`: the bucket label of a timestamp. -/
def bucketExpression (granularity : Granularity) :
    Except NotImplementedError (Timestamp → String) :=
  if database.dialect = "sqlite" then
    .ok (database.strftime granularity.sqliteBucketFormat)
  else if database.dialect = "postgresql" then
    .ok fun timestamp => database.toChar (database.dateTrunc granularity.value timestamp)
      "YYYY-MM-DD\"T\"HH24:MI:SS"
  else
    .error ⟨database.dialect⟩

/-- Where an ordered query puts a nullable id. -/
def nullableOrder (id : Option String) : Bool ×ₗ String :=
  toLex (id.isSome == database.nullsFirst, id.getD "")

end ReportDatabase

namespace CostLedger

variable (ledger : CostLedger)

/-- Aggregate grouped by model, agent or plant, ordered by the grouping id. -/
def breakdown (database : ReportDatabase) (scope : AuthorizedScope)
    (dimension : BreakdownDimension) (fromTs toTs : Option Timestamp) : List BreakdownRow :=
  let groupColumn (row : SpendRow) := dimension.column row.2
  let rows := ledger.authorizedRows scope fromTs toTs
  (groupKeys database.nullableOrder groupColumn rows).map fun id =>
    { id := id, totals := totals (group groupColumn rows id) }

/-- Aggregate into time buckets, in the order of their labels. -/
def trend (database : ReportDatabase) (scope : AuthorizedScope) (granularity : Granularity)
    (fromTs toTs : Option Timestamp) :
    Except ReportDatabase.NotImplementedError (List TrendRow) := do
  let bucket ← database.bucketExpression granularity
  let bucketColumn (row : SpendRow) := bucket row.2.timestamp
  let rows := ledger.authorizedRows scope fromTs toTs
  return (groupKeys id bucketColumn rows).map fun bucketKey =>
    { bucketKey := bucketKey, totals := totals (group bucketColumn rows bucketKey) }

end CostLedger

/-! ## Totals add up -/

namespace CostTotals

/-- Two groups together: every figure is added. -/
instance : Add CostTotals where
  add a b :=
    { actualCost := a.actualCost + b.actualCost
      estimatedCost := a.estimatedCost + b.estimatedCost
      unavailableCostEvents := a.unavailableCostEvents + b.unavailableCostEvents
      totalRequests := a.totalRequests + b.totalRequests
      totalTokens := a.totalTokens + b.totalTokens }

instance : Zero CostTotals where
  zero := ⟨0, 0, 0, 0, 0⟩

/-- Totals are equal when all five figures are. -/
@[ext] lemma ext {a b : CostTotals} (hactual : a.actualCost = b.actualCost)
    (hestimated : a.estimatedCost = b.estimatedCost)
    (hunavailable : a.unavailableCostEvents = b.unavailableCostEvents)
    (hrequests : a.totalRequests = b.totalRequests)
    (htokens : a.totalTokens = b.totalTokens) : a = b := by
  cases a
  cases b
  simp_all

section Figures

variable (a b : CostTotals)

@[simp] lemma actualCost_add : (a + b).actualCost = a.actualCost + b.actualCost := rfl

@[simp] lemma estimatedCost_add : (a + b).estimatedCost = a.estimatedCost + b.estimatedCost := rfl

@[simp] lemma unavailableCostEvents_add :
    (a + b).unavailableCostEvents = a.unavailableCostEvents + b.unavailableCostEvents := rfl

@[simp] lemma totalRequests_add : (a + b).totalRequests = a.totalRequests + b.totalRequests := rfl

@[simp] lemma totalTokens_add : (a + b).totalTokens = a.totalTokens + b.totalTokens := rfl

end Figures

@[simp] lemma zero_eq : (0 : CostTotals) = ⟨0, 0, 0, 0, 0⟩ := rfl

instance : AddCommMonoid CostTotals where
  add_assoc a b c := by ext <;> simp [add_assoc]
  zero_add a := by ext <;> simp
  add_zero a := by ext <;> simp
  add_comm a b := by ext <;> simp [add_comm]
  nsmul := nsmulRec

end CostTotals

/-- What one event stands for: its amount under the heading its provenance names, or one cost that
    is not known, and with it one request and its tokens. -/
def provenanceShare (row : SpendRow) : CostTotals :=
  let request : CostTotals := ⟨0, 0, 0, 1, row.2.totalTokens.getD 0⟩
  match row.1.provenance with
  | .Actual => { request with actualCost := row.1.actualCost.getD 0 }
  | .Estimated => { request with estimatedCost := row.1.estimatedCost.getD 0 }
  | .Unavailable => { request with unavailableCostEvents := 1 }

/-- Distinct events are counted as they are. -/
lemma eraseDups_of_nodup {α : Type*} [DecidableEq α] {xs : List α} (h : xs.Nodup) :
    xs.eraseDups = xs := by
  induction xs with
  | nil => rfl
  | cons x xs ih =>
      obtain ⟨hx, hxs⟩ := List.nodup_cons.mp h
      have hkept : xs.filter (fun y => !(y == x)) = xs := by
        refine List.filter_eq_self.mpr fun y hy => ?_
        simpa using fun heq : y = x => hx (heq ▸ hy)
      rw [List.eraseDups_cons, hkept, ih hxs]

/-- `SUM` takes a missing value for 0. -/
lemma sum_filterMap_cons {α M : Type*} [AddMonoid M] (f : α → Option M) (x : α) (xs : List α) :
    ((x :: xs).filterMap f).sum = (f x).getD 0 + (xs.filterMap f).sum := by
  cases h : f x with
  | none => rw [List.filterMap_cons_none h, Option.getD_none, zero_add]
  | some amount => rw [List.filterMap_cons_some h, List.sum_cons, Option.getD_some]

/-- **An aggregate is the sum of what its events stand for**, when no event occurs twice. -/
theorem totals_eq_sum {rows : List SpendRow} (h : (rows.map fun row => row.2.id).Nodup) :
    totals rows = (rows.map provenanceShare).sum := by
  have hcount : totals rows
      = { totals rows with totalRequests := rows.length } := by
    simp only [totals, eraseDups_of_nodup h, List.length_map]
  rw [hcount]
  clear h hcount
  induction rows with
  | nil => rfl
  | cons row rows ih =>
      rw [List.map_cons, List.sum_cons, ← ih]
      cases hprovenance : row.1.provenance <;> ext <;>
        simp [totals, sumWhere, sum_filterMap_cons, counted, Figure.provenance, Figure.column,
          provenanceShare, unavailableCostEvents, hprovenance, Nat.add_comm]

namespace CostLedger

variable {ledger : CostLedger} {scope : AuthorizedScope} {fromTs toTs : Option Timestamp}

lemma usageId_of_join {usageEvents : Table UsageEvent.id} {cost : CostEvent} {row : SpendRow}
    (h : joinUsage usageEvents cost = some row) :
    row.1 = cost ∧ row.2 ∈ usageEvents.rows ∧ row.2.id = cost.usageEventId := by
  obtain ⟨usage, hget, rfl⟩ := Option.map_eq_some_iff.mp h
  exact ⟨rfl, Table.get_eq_some.mp hget⟩

/-- The unique key on `usage_event_id` keeps an event from being joined twice. -/
lemma nodup_joined (ledger : CostLedger) : (ledger.joined.map fun row => row.2.id).Nodup := by
  have hsub : ∀ costs : List CostEvent, List.Sublist
      ((costs.filterMap (joinUsage ledger.usageEvents)).map fun row => row.2.id)
      (costs.map CostEvent.usageEventId) := by
    intro costs
    induction costs with
    | nil => exact List.Sublist.slnil
    | cons cost costs ih =>
        cases hjoin : joinUsage ledger.usageEvents cost with
        | none =>
            rw [List.filterMap_cons_none hjoin, List.map_cons]
            exact ih.cons _
        | some row =>
            obtain ⟨-, -, hid⟩ := usageId_of_join hjoin
            rw [List.filterMap_cons_some hjoin, List.map_cons, List.map_cons, hid]
            exact ih.cons_cons _
  exact ledger.oneCostPerUsage.sublist (hsub ledger.costEvents.rows)

lemma nodup_authorizedRows (ledger : CostLedger) (scope : AuthorizedScope)
    (fromTs toTs : Option Timestamp) :
    ((ledger.authorizedRows scope fromTs toTs).map fun row => row.2.id).Nodup :=
  ledger.nodup_joined.sublist (List.filter_sublist.map _)

/-- The row is a cost event with the usage event it prices; the usage event is the scope's
    tenant's, in the plant and the department of some branch, and in the window. -/
structure Counts (ledger : CostLedger) (scope : AuthorizedScope) (fromTs toTs : Option Timestamp)
    (row : SpendRow) : Prop where
  cost : row.1 ∈ ledger.costEvents.rows
  usage : row.2 ∈ ledger.usageEvents.rows
  priced : row.2.id = row.1.usageEventId
  tenant : row.2.tenantId = some scope.tenantId
  branch : ∃ branch ∈ scope.branches,
    (∀ id, branch.plantId = some id → row.2.plantId = some id)
      ∧ ∀ id, branch.departmentId = some id → row.2.departmentId = some id
  notBefore : ∀ bound ∈ fromTs, bound ≤ row.2.timestamp
  notAfter : ∀ bound ∈ toTs, row.2.timestamp ≤ bound

lemma mem_joined {row : SpendRow} :
    row ∈ ledger.joined ↔ row.1 ∈ ledger.costEvents.rows
      ∧ row.2 ∈ ledger.usageEvents.rows ∧ row.2.id = row.1.usageEventId := by
  simp only [joined, List.mem_filterMap]
  constructor
  · rintro ⟨cost, hcost, hjoin⟩
    obtain ⟨rfl, husage, hid⟩ := usageId_of_join hjoin
    exact ⟨hcost, husage, hid⟩
  · rintro ⟨hcost, husage, hid⟩
    refine ⟨row.1, hcost, Option.map_eq_some_iff.mpr ⟨row.2, ?_, rfl⟩⟩
    exact Table.get_eq_some.mpr ⟨husage, hid⟩

/-- **An aggregate query reads the rows that count**, and no others. -/
theorem mem_authorizedRows {row : SpendRow} :
    row ∈ ledger.authorizedRows scope fromTs toTs ↔ ledger.Counts scope fromTs toTs row := by
  simp only [authorizedRows, List.mem_filter, mem_joined, Bool.and_eq_true, Option.all_eq_true,
    decide_eq_true_eq, authorizedScopeFilter_selects, branchConditions_select]
  constructor
  · rintro ⟨⟨hcost, husage, hpriced⟩, ⟨⟨htenant, hbranch⟩, hfrom⟩, hto⟩
    exact ⟨hcost, husage, hpriced, htenant, hbranch, hfrom, hto⟩
  · rintro ⟨hcost, husage, hpriced, htenant, hbranch, hfrom, hto⟩
    exact ⟨⟨hcost, husage, hpriced⟩, ⟨⟨htenant, hbranch⟩, hfrom⟩, hto⟩

/-- **A breakdown has one row for each id that occurs, NULL among them.** -/
theorem mem_breakdown_ids {database : ReportDatabase} {dimension : BreakdownDimension}
    {id : Option String} :
    id ∈ (ledger.breakdown database scope dimension fromTs toTs).map BreakdownRow.id
      ↔ ∃ row ∈ ledger.authorizedRows scope fromTs toTs, dimension.column row.2 = id := by
  simp only [breakdown, List.map_map, Function.comp_def, List.map_id']
  exact Grouping.mem_groupKeys _ _

lemma nodup_breakdown_ids (database : ReportDatabase) (dimension : BreakdownDimension) :
    ((ledger.breakdown database scope dimension fromTs toTs).map BreakdownRow.id).Nodup := by
  simp only [breakdown, List.map_map, Function.comp_def, List.map_id']
  exact Grouping.nodup_groupKeys _ _ _

/-- **Grouping conserves the totals**, whatever the rows are grouped by. -/
theorem sum_totals_groups {κ ρ : Type*} [DecidableEq κ] [LinearOrder ρ] (rank : κ → ρ)
    (key : SpendRow → κ) :
    ((groupKeys rank key (ledger.authorizedRows scope fromTs toTs)).map fun k =>
        totals (group key (ledger.authorizedRows scope fromTs toTs) k)).sum
      = ledger.summary scope fromTs toTs := by
  have hnodup := ledger.nodup_authorizedRows scope fromTs toTs
  have hshares : ∀ k, totals (group key (ledger.authorizedRows scope fromTs toTs) k)
      = ((group key (ledger.authorizedRows scope fromTs toTs) k).map provenanceShare).sum :=
    fun k => totals_eq_sum (hnodup.sublist (List.filter_sublist.map _))
  simp only [hshares, summary, totals_eq_sum hnodup]
  refine Grouping.sum_groups (Grouping.nodup_groupKeys rank key _) provenanceShare _ ?_
  exact fun row hrow => (Grouping.mem_groupKeys rank key).mpr ⟨row, hrow, rfl⟩

/-- Bucketing fails on a dialect it was not written for, and on no other. -/
lemma bucketExpression_succeeds (database : ReportDatabase) (granularity : Granularity)
    (h : database.dialect = "sqlite" ∨ database.dialect = "postgresql") :
    ∃ bucket, database.bucketExpression granularity = .ok bucket := by
  rcases h with h | h
  · exact ⟨_, by rw [ReportDatabase.bucketExpression, if_pos h]⟩
  · exact ⟨_, by
      rw [ReportDatabase.bucketExpression, if_neg (by rw [h]; decide), if_pos h]⟩

/-- **Reporting conserves spend.**  The rows of a breakdown, and the buckets of a trend wherever
    buckets are implemented, add up to the summary; and the summary counts each priced usage event
    of the scope and the window once, under its provenance, and nothing else. -/
theorem reporting_conserves (ledger : CostLedger) (database : ReportDatabase)
    (scope : AuthorizedScope) (fromTs toTs : Option Timestamp) :
    (∀ dimension, ((ledger.breakdown database scope dimension fromTs toTs).map
        BreakdownRow.totals).sum = ledger.summary scope fromTs toTs)
      ∧ (∀ granularity,
          if database.dialect = "sqlite" ∨ database.dialect = "postgresql" then
            ∃ buckets, ledger.trend database scope granularity fromTs toTs = .ok buckets
              ∧ (buckets.map TrendRow.totals).sum = ledger.summary scope fromTs toTs
          else
            ledger.trend database scope granularity fromTs toTs = .error ⟨database.dialect⟩)
      ∧ ∃ rows : List SpendRow, (rows.map fun row => row.2.id).Nodup
          ∧ (∀ row, row ∈ rows ↔ ledger.Counts scope fromTs toTs row)
          ∧ ledger.summary scope fromTs toTs = (rows.map provenanceShare).sum := by
  refine ⟨fun dimension => ?_, fun granularity => ?_, ?_⟩
  · simp only [breakdown, List.map_map, Function.comp_def]
    exact sum_totals_groups _ _
  · split_ifs with hdialect
    · obtain ⟨bucket, hbucket⟩ := bucketExpression_succeeds database granularity hdialect
      refine ⟨_, Fallible.bind_eq_ok.mpr ⟨bucket, hbucket, rfl⟩, ?_⟩
      simp only [List.map_map, Function.comp_def]
      exact sum_totals_groups _ _
    · obtain ⟨hsqlite, hpostgresql⟩ := not_or.mp hdialect
      rw [trend, ReportDatabase.bucketExpression, if_neg hsqlite, if_neg hpostgresql]
      rfl
  · have hnodup := ledger.nodup_authorizedRows scope fromTs toTs
    exact ⟨_, hnodup, fun _ => mem_authorizedRows, totals_eq_sum hnodup⟩

end CostLedger

end CostPlatform
