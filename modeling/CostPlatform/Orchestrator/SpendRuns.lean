import CostPlatform.Budget.Service
import CostPlatform.Library.Runs
import CostPlatform.Orchestrator.ExecuteEndpoint

/-!
# What executions do to the reported spend

The recorder's rows, inserted into the tables that the reports and the budgets read.  An insert adds
its own row to the join and nothing else: a cost event left without its usage event would already
hold the id that the new pair needs (`joined_record`).

Every row that an execution leaves is unavailable, so over any run of calls no reported figure moves
and no budget decision changes; what grows is the count of events without a cost
(`spend_unmoved`).
-/

namespace CostPlatform

open Calendar (Timestamp)

/-! ## Inserting rows -/

/-- No row of the ledger has an id of the new pair. -/
def CostLedger.Fresh (ledger : CostLedger) (row : UsageEventRow × CostEvent) : Prop :=
  row.1.id ∉ ledger.usageEvents.rows.map UsageEvent.id
    ∧ row.2.id ∉ ledger.costEvents.rows.map CostEvent.id
    ∧ row.2.usageEventId ∉ ledger.costEvents.rows.map CostEvent.usageEventId

instance (ledger : CostLedger) (row : UsageEventRow × CostEvent) : Decidable (ledger.Fresh row) :=
  inferInstanceAs (Decidable (_ ∧ _ ∧ _))

/-- A list of distinct keys, with one more. -/
lemma nodup_map_append {α β : Type} {key : α → β} {rows : List α} {row : α}
    (hrows : (rows.map key).Nodup) (hfresh : key row ∉ rows.map key) :
    ((rows ++ [row]).map key).Nodup := by
  rw [List.map_append, List.map_singleton]
  exact hrows.append (List.nodup_singleton _) (by simpa using hfresh)

/-- Both rows in one transaction.  An id that is taken rolls both back, and the recorder goes on
    without them. -/
def CostLedger.record (ledger : CostLedger) (row : UsageEventRow × CostEvent) : CostLedger :=
  if h : ledger.Fresh row then
    { usageEvents :=
        { rows := ledger.usageEvents.rows ++ [row.1.toUsageEvent]
          nodup := nodup_map_append ledger.usageEvents.nodup h.1 }
      costEvents :=
        { rows := ledger.costEvents.rows ++ [row.2]
          nodup := nodup_map_append ledger.costEvents.nodup h.2.1 }
      oneCostPerUsage := nodup_map_append ledger.oneCostPerUsage h.2.2 }
  else ledger

/-- One call of the execute endpoint, and what the application and its surroundings supply. -/
structure RecordedCall where
  route : ExecuteRoute
  body : AIExecutionRequest
  principal : Principal
  requestId : String
  traceId : String
  context : RecordingContext

/-- The rows that a call leaves. -/
def RecordedCall.rows (call : RecordedCall) : List (UsageEventRow × CostEvent) :=
  recordedRows call.context
    (call.route.executeAiWorkload call.body call.principal call.requestId call.traceId)

def CostLedger.afterCall (ledger : CostLedger) (call : RecordedCall) : CostLedger :=
  call.rows.foldl CostLedger.record ledger

/-- Which joined rows a figure is summed over. -/
def SpendQuery.covers : SpendQuery → SpendRow → Bool
  | .Scope tenantId scopeType scopeId fromTs toTs, row =>
      row.2.tenantId = some tenantId
        && ((columnByScope scopeType).all fun column => column row.2 = some scopeId)
        && fromTs ≤ row.2.timestamp && row.2.timestamp ≤ toTs
  | .Summary scope fromTs toTs, row =>
      (authorizedScopeFilter scope usageColumns).selects row.2
        && (fromTs.all fun bound => bound ≤ row.2.timestamp)
        && (toTs.all fun bound => row.2.timestamp ≤ bound)

lemma SpendQuery.rows_eq (query : SpendQuery) (ledger : CostLedger) :
    query.rows ledger = ledger.joined.filter query.covers := by
  cases query <;> rfl

/-! ## What an insert adds to the join -/

/-- **A pair of new rows adds itself to the join**, and joins nothing that was there before. -/
theorem joined_record {ledger : CostLedger} {row : UsageEventRow × CostEvent}
    (hlinked : row.2.usageEventId = row.1.id) :
    (ledger.record row).joined
      = ledger.joined ++ if ledger.Fresh row then [(row.2, row.1.toUsageEvent)] else [] := by
  rw [CostLedger.record]
  split_ifs with hfresh
  · obtain ⟨husage, -, hcost⟩ := hfresh
    have hold : ∀ cost ∈ ledger.costEvents.rows,
        joinUsage
          { rows := ledger.usageEvents.rows ++ [row.1.toUsageEvent]
            nodup := nodup_map_append ledger.usageEvents.nodup husage } cost
          = joinUsage ledger.usageEvents cost := by
      intro cost hmem
      -- an older cost event is not linked to the new usage event
      have hne : row.1.toUsageEvent.id ≠ cost.usageEventId := by
        rintro heq
        refine hcost ?_
        rw [hlinked]
        exact List.mem_map.mpr ⟨cost, hmem, heq.symm⟩
      simp [joinUsage, Table.get, List.find?_append, hne]
    have hnew : joinUsage
        { rows := ledger.usageEvents.rows ++ [row.1.toUsageEvent]
          nodup := nodup_map_append ledger.usageEvents.nodup husage } row.2
        = some (row.2, row.1.toUsageEvent) := by
      refine Option.map_eq_some_iff.mpr ⟨row.1.toUsageEvent, ?_, rfl⟩
      exact Table.get_eq_some.mpr ⟨by simp, hlinked.symm⟩
    simp only [CostLedger.joined, List.filterMap_append]
    rw [List.filterMap_congr hold, List.filterMap_cons_some hnew, List.filterMap_nil]
  · rw [List.append_nil]

/-! ## What a call leaves -/

/-- A call that is not accepted leaves nothing. -/
lemma rows_of_not_accepted {call : RecordedCall} (h : ¬ call.route.Accepted call.principal) :
    call.rows = [] := by
  rw [RecordedCall.rows, ExecuteRoute.executeAiWorkload]
  by_cases hpermission : hasPermission call.principal .AiExecute = true
  · have hrate : ¬ (call.route.rateLimitEnabled = true →
        call.route.rateAllowed (ExecuteRoute.rateLimitKey call.principal) = true) :=
      fun hrate => h ⟨hpermission, hrate⟩
    simp only [Fallible.require, if_pos hpermission, if_neg hrate, Traced.silent_def,
      Traced.ok_bind, Traced.error_bind]
    rfl
  · simp only [Fallible.require, if_neg hpermission, Traced.silent_def, Traced.error_bind]
    rfl

/-- **What a call leaves is linked, and carries no figure.** -/
theorem rows_unpriced {call : RecordedCall} {row : UsageEventRow × CostEvent}
    (h : row ∈ call.rows) :
    row.2.usageEventId = row.1.id ∧ row.2.provenance = .Unavailable := by
  have haccepted : call.route.Accepted call.principal := by
    by_contra hnot
    rw [rows_of_not_accepted hnot] at h
    cases h
  obtain ⟨imageBytes, -, hexecuted⟩ := ExecuteRoute.mem_recordedRows_execute haccepted h
  obtain ⟨record, hrecord, hrow⟩ := mem_recordedRows.mp hexecuted
  obtain ⟨usage, cost, hunpriced, hprovenance, -⟩ :=
    Collaborators.unpriced_of_mem_execute hrecord call.context
  cases hrow.symm.trans hunpriced
  refine ⟨?_, hprovenance⟩
  obtain ⟨inserted, hinserted, hpair⟩ := Option.map_eq_some_iff.mp hunpriced
  cases hpair
  rw [NewCostEvent.insert] at hinserted
  split_ifs at hinserted
  cases hinserted
  rfl

/-- Recorded for one of the calls, and without a figure. -/
structure UnpricedRowOf (calls : List RecordedCall) (row : SpendRow) : Prop where
  unavailable : row.1.provenance = .Unavailable
  recorded : ∃ call ∈ calls, ∃ usage, (usage, row.1) ∈ call.rows ∧ usage.toUsageEvent = row.2

/-- The rows of one ledger's join are those of another one and unpriced rows of the calls. -/
def Extends (calls : List RecordedCall) (before after : CostLedger) : Prop :=
  ∃ added, after.joined = before.joined ++ added ∧ ∀ row ∈ added, UnpricedRowOf calls row

lemma extends_record {calls : List RecordedCall} {call : RecordedCall} (hcall : call ∈ calls)
    {ledger : CostLedger} {row : UsageEventRow × CostEvent} (h : row ∈ call.rows) :
    Extends calls ledger (ledger.record row) := by
  obtain ⟨hlinked, hunavailable⟩ := rows_unpriced h
  refine ⟨_, joined_record hlinked, fun added hadded => ?_⟩
  split_ifs at hadded
  · cases List.mem_singleton.mp hadded
    exact ⟨hunavailable, call, hcall, row.1, h, rfl⟩
  · cases hadded

lemma Extends.trans {calls : List RecordedCall} {first second third : CostLedger}
    (h : Extends calls first second) (h' : Extends calls second third) :
    Extends calls first third := by
  obtain ⟨added, hjoined, hadded⟩ := h
  obtain ⟨added', hjoined', hadded'⟩ := h'
  refine ⟨added ++ added', by rw [hjoined', hjoined, List.append_assoc], fun row hrow => ?_⟩
  exact (List.mem_append.mp hrow).elim (hadded row) (hadded' row)

lemma extends_refl (calls : List RecordedCall) (ledger : CostLedger) :
    Extends calls ledger ledger :=
  ⟨[], (List.append_nil _).symm, fun _ h => absurd h List.not_mem_nil⟩

/-- Whatever a run of calls inserts is an unpriced row of one of them. -/
lemma extends_run (ledger : CostLedger) (calls : List RecordedCall) :
    Extends calls ledger (Runs.run CostLedger.afterCall ledger calls) := by
  have hcall : ∀ call ∈ calls, ∀ (rows : List (UsageEventRow × CostEvent)) (now : CostLedger),
      (∀ row ∈ rows, row ∈ call.rows) → Extends calls now (rows.foldl CostLedger.record now) := by
    intro call hmem rows
    induction rows with
    | nil => exact fun now _ => extends_refl calls now
    | cons row rows ih =>
        intro now hrows
        obtain ⟨hrow, hrest⟩ := List.forall_mem_cons.mp hrows
        exact (extends_record hmem hrow).trans (ih _ hrest)
  have hrun : ∀ rest, (∀ call ∈ rest, call ∈ calls) → ∀ now,
      Extends calls now (Runs.run CostLedger.afterCall now rest) := by
    intro rest
    induction rest with
    | nil => exact fun _ now => extends_refl calls now
    | cons call rest ih =>
        intro hrest now
        obtain ⟨hmem, hrest⟩ := List.forall_mem_cons.mp hrest
        exact (hcall call hmem call.rows now fun _ h => h).trans (ih hrest _)
  exact hrun calls (fun _ h => h) ledger

/-! ## What is reported afterwards -/

section

variable {calls : List RecordedCall} {before after : CostLedger}

lemma counted_unavailable {row : SpendRow} (h : row.1.provenance = .Unavailable)
    (figure : Figure) : counted figure row = none := by
  cases figure <;> simp [counted, h, Figure.provenance]

/-- No figure moves. -/
lemma Extends.reported_eq (h : Extends calls before after) (query : SpendQuery) (figure : Figure) :
    query.reported after figure = query.reported before figure := by
  obtain ⟨added, hjoined, hadded⟩ := h
  have hnone : (added.filter query.covers).filterMap (counted figure) = [] := by
    refine List.filterMap_eq_nil_iff.mpr fun row hrow => ?_
    exact counted_unavailable (hadded row (List.mem_filter.mp hrow).1).unavailable figure
  rw [CostPlatform.reported_eq, CostPlatform.reported_eq, query.rows_eq, query.rows_eq, hjoined,
    List.filter_append, sumWhere, List.filterMap_append, hnone, List.append_nil, sumWhere]

/-- A budget decision rests on the spend of its scopes alone. -/
lemma Extends.evaluate_eq (h : Extends calls before after) (service : BudgetService)
    (context : RequestContext) (requestCost : ℚ) (requestLimit : Option RequestLimit)
    (now : Timestamp) :
    { service with costs := after }.evaluate context requestCost requestLimit now
      = { service with costs := before }.evaluate context requestCost requestLimit now := by
  have hlimit : ({ service with costs := after } : BudgetService).toLimit
      = ({ service with costs := before } : BudgetService).toLimit := by
    funext budget reference
    have hspend : ∀ (window : PeriodWindow) (figure : Figure),
        (SpendQuery.Scope budget.tenantId budget.scopeType.value budget.scopeId
            window.start window.stop).reported after figure
          = (SpendQuery.Scope budget.tenantId budget.scopeType.value budget.scopeId
            window.start window.stop).reported before figure :=
      fun window figure => h.reported_eq _ figure
    have hactual := fun window => hspend window .Actual
    have hestimated := fun window => hspend window .Estimated
    simp only [SpendQuery.reported] at hactual hestimated
    simp only [BudgetService.toLimit, BudgetService.spend, hactual, hestimated,
      BudgetService.convertAmount]
  simp only [BudgetService.evaluate, BudgetService.loadLimits, hlimit]
  -- a ceiling of the request has no spend behind it
  rfl

/-- What grows is the count of events without a cost. -/
lemma unavailable_eq {added : List SpendRow} (hjoined : after.joined = before.joined ++ added)
    (hadded : ∀ row ∈ added, UnpricedRowOf calls row) (query : SpendQuery) :
    unavailableCostEvents (query.rows after)
      = unavailableCostEvents (query.rows before) + added.countP query.covers := by
  have hall : unavailableCostEvents (added.filter query.covers)
      = (added.filter query.covers).length := by
    refine List.countP_eq_length.mpr fun row hrow => ?_
    have hunavailable := (hadded row (List.mem_filter.mp hrow).1).unavailable
    simp [hunavailable]
  rw [query.rows_eq, query.rows_eq, hjoined, List.filter_append, unavailableCostEvents,
    List.countP_append, List.countP_eq_length_filter (p := query.covers), ← hall]
  rfl

end

/-- **Executions never move the reported spend.**  Over any run of calls, whoever makes them and
    whatever the models answer, every figure of every scope and summary stays what it was, and so
    does every decision of the budget service.  The run adds unpriced rows of its calls to the join,
    and each figure counts those it covers as events without a cost. -/
theorem spend_unmoved (ledger : CostLedger) (calls : List RecordedCall) :
    let after := Runs.run CostLedger.afterCall ledger calls
    (∀ (query : SpendQuery) figure, query.reported after figure = query.reported ledger figure)
      ∧ (∀ (service : BudgetService) context requestCost requestLimit now,
        { service with costs := after }.evaluate context requestCost requestLimit now
          = { service with costs := ledger }.evaluate context requestCost requestLimit now)
      ∧ ∃ added, after.joined = ledger.joined ++ added ∧ (∀ row ∈ added, UnpricedRowOf calls row)
        ∧ ∀ query : SpendQuery, unavailableCostEvents (query.rows after)
          = unavailableCostEvents (query.rows ledger) + added.countP query.covers := by
  intro after
  have hextends := extends_run ledger calls
  refine ⟨fun query figure => hextends.reported_eq query figure,
    fun service context requestCost requestLimit now =>
      hextends.evaluate_eq service context requestCost requestLimit now, ?_⟩
  obtain ⟨added, hjoined, hadded⟩ := hextends
  exact ⟨added, hjoined, hadded, fun query => unavailable_eq hjoined hadded query⟩

end CostPlatform
