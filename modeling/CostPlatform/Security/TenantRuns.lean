import CostPlatform.Budget.StatusReport
import CostPlatform.Cost.Reporting
import CostPlatform.Library.Unwinding
import CostPlatform.Orchestrator.SpendRuns

/-!
# Tenants that share the tables

The budget endpoints, the cost endpoints and the records of executions work on tables that all
tenants share.  `tenants_isolated` is that no tenant can tell: in any interleaving, the callers of
these endpoints get the answers that they would get if no other tenant made a request, and the
budgets and the spend of the tenant are the same.

Where a database is free to choose the order of what ties, an answer is any that it may give.
-/

namespace CostPlatform

open Calendar (Timestamp)

/-! ## Requests -/

structure GovernanceState where
  budgets : BudgetDatabase
  costs : CostLedger

inductive CostQuery where
  | Summary
  | Breakdown (dimension : BreakdownDimension)
  | Trend (granularity : Granularity)

inductive GovernanceRequest where
  | Budget (call : BudgetCall)
  | ListBudgets (principal : Principal) (paging : Paging)
  | BudgetStatus (principal : Principal) (paging : Paging) (now : Timestamp)
  | Costs (principal : Principal) (plantId departmentId : Option String) (query : CostQuery)
      (fromTs toTs : Option Timestamp)
  | Execute (call : RecordedCall)

def BudgetCall.principal : BudgetCall → Principal
  | .Create principal _ _ => principal
  | .Update principal _ _ => principal

def GovernanceRequest.principal : GovernanceRequest → Principal
  | .Budget call => call.principal
  | .ListBudgets principal _ => principal
  | .BudgetStatus principal _ _ => principal
  | .Costs principal _ _ _ _ _ => principal
  | .Execute call => call.principal

def GovernanceRequest.after (state : GovernanceState) : GovernanceRequest → GovernanceState
  | .Budget call => { state with budgets := budgetStep state.budgets call }
  | .Execute call => { state with costs := state.costs.afterCall call }
  | _ => state

inductive GovernanceAnswer where
  | Written (result : Except BudgetRouteError BudgetResponse)
  | Listed (result : Except BudgetRouteError (ListResponse BudgetResponse))
  | Reported (result : Except BudgetRouteError (ListResponse BudgetStatusResponse))
  | Summed (result : Except AuthError CostTotals)
  | BrokenDown (result : Except AuthError (List BreakdownRow))
  | Charted (result : Except AuthError (Except ReportDatabase.NotImplementedError (List TrendRow)))

/-- The service behind the status report. -/
def GovernanceState.budgetService (state : GovernanceState) (converter : CurrencyConverter) :
    BudgetService where
  budgets := state.budgets.budgets
  costs := state.costs
  converter := converter

/-- No route takes a tenant, and the breakdown by plant takes no scope parameter. -/
def CostQuery.scopeRequest (query : CostQuery) (plantId departmentId : Option String) :
    ScopeRequest :=
  match query with
  | .Breakdown .Plant => ⟨none, none, none⟩
  | _ => ⟨none, plantId, departmentId⟩

/-- `GET /cost/…`, within the scope that the caller is authorized for. -/
def CostQuery.answer (query : CostQuery) (reports : ReportDatabase) (costs : CostLedger)
    (scope : Except AuthError AuthorizedScope) (fromTs toTs : Option Timestamp) :
    GovernanceAnswer :=
  match query with
  | .Summary => .Summed (scope.map fun scope => costs.summary scope fromTs toTs)
  | .Breakdown dimension =>
      .BrokenDown (scope.map fun scope => costs.breakdown reports scope dimension fromTs toTs)
  | .Trend granularity =>
      .Charted (scope.map fun scope => costs.trend reports scope granularity fromTs toTs)

/-- What may be answered to a request to the budget or the cost endpoints.  Executions are writers
    only: what they are answered depends on the breaker of the gateway, which all tenants share. -/
def GovernanceRequest.answers (reports : ReportDatabase) (converter : CurrencyConverter)
    (state : GovernanceState) : GovernanceRequest → Option (Set GovernanceAnswer)
  | .Budget call =>
      some {.Written ((call.handle state.budgets).map fun result => .fromRow result.2)}
  | .ListBudgets principal paging =>
      some {answer | ∃ order, answer = .Listed (listBudgets state.budgets principal order paging)}
  | .BudgetStatus principal paging now =>
      some {answer | ∃ order, answer = .Reported (budgetStatus state.budgets
        (state.budgetService converter) principal order paging now)}
  | .Costs principal plantId departmentId query fromTs toTs =>
      some {query.answer reports state.costs (resolveAuthorizedScope principal .CostRead
        (query.scopeRequest plantId departmentId)) fromTs toTs}
  | .Execute _ => none

/-- The id that a budget request draws is new. -/
def BudgetCall.DrawsNew (database : BudgetDatabase) : BudgetCall → Prop
  | .Create _ _ newId => newId ∉ database.budgets.rows.map Budget.id
  | .Update _ _ _ => True

/-- The ids that a request draws are new. -/
def GovernanceRequest.DrawsNew (state : GovernanceState) : GovernanceRequest → Prop
  | .Budget call => call.DrawsNew state.budgets
  | .Execute call => Runs.Along CostLedger.record CostLedger.Fresh state.costs call.rows
  | _ => True

instance (database : BudgetDatabase) : DecidablePred (BudgetCall.DrawsNew database)
  | .Create _ _ newId =>
      inferInstanceAs (Decidable (newId ∉ database.budgets.rows.map Budget.id))
  | .Update _ _ _ => inferInstanceAs (Decidable True)

instance (state : GovernanceState) : DecidablePred (GovernanceRequest.DrawsNew state)
  | .Budget call => inferInstanceAs (Decidable (call.DrawsNew state.budgets))
  | .Execute call =>
      inferInstanceAs (Decidable
        (Runs.Along CostLedger.record CostLedger.Fresh state.costs call.rows))
  | .ListBudgets _ _ => inferInstanceAs (Decidable True)
  | .BudgetStatus _ _ _ => inferInstanceAs (Decidable True)
  | .Costs _ _ _ _ _ _ => inferInstanceAs (Decidable True)

/-! ## What a tenant has of the tables -/

/-- The spend of a tenant. -/
def CostLedger.ofTenant (ledger : CostLedger) (tenantId : String) : List SpendRow :=
  ledger.joined.filter fun row => row.2.tenantId = some tenantId

/-- The second table holds the same of the tenant, and no id that the first one does not. -/
structure BudgetDatabase.AgreeOn (tenantId : String) (database database' : BudgetDatabase) :
    Prop where
  tenants : database.tenants = database'.tenants
  ofTenant : database.ofTenant tenantId = database'.ofTenant tenantId
  fresh : ∀ id, id ∉ database.budgets.rows.map Budget.id → id ∉ database'.budgets.rows.map Budget.id

structure CostLedger.AgreeOn (tenantId : String) (ledger ledger' : CostLedger) : Prop where
  ofTenant : ledger.ofTenant tenantId = ledger'.ofTenant tenantId
  fresh : ∀ row, ledger.Fresh row → ledger'.Fresh row

structure GovernanceState.AgreeOn (tenantId : String) (state state' : GovernanceState) : Prop where
  budgets : state.budgets.AgreeOn tenantId state'.budgets
  costs : state.costs.AgreeOn tenantId state'.costs

/-- Two lists with the same entries of one kind have the same of any narrower one. -/
lemma filter_eq_of_filter_eq {α : Type} {xs ys : List α} {p q : α → Bool}
    (h : xs.filter q = ys.filter q) (hp : ∀ x, p x = true → q x = true) :
    xs.filter p = ys.filter p := by
  have hnarrow : ∀ zs : List α, zs.filter p = (zs.filter q).filter p := by
    intro zs
    rw [List.filter_filter]
    refine List.filter_congr fun z _ => ?_
    cases hz : p z with
    | false => rw [Bool.false_and]
    | true => rw [hp z hz, Bool.true_and]
  rw [hnarrow xs, hnarrow ys, h]

/-! ## Budgets -/

namespace BudgetDatabase.AgreeOn

variable {database database' : BudgetDatabase} {principal : Principal}

lemma getForScope_eq (h : database.AgreeOn principal.tenantId database') {key : ScopeKey}
    (hkey : key.tenantId = principal.tenantId) :
    database.getForScope key = database'.getForScope key := by
  have hfilter := @filter_eq_of_filter_eq _ _ _
    (fun budget : Budget => budget.scopeKey = key && budget.status = .Active) _ h.ofTenant
    fun budget hbudget => by
      obtain ⟨hscope, -⟩ := Bool.and_eq_true_iff.mp hbudget
      have hsame : budget.scopeKey = key := of_decide_eq_true hscope
      exact decide_eq_true ((congrArg ScopeKey.tenantId hsame).trans hkey)
  rw [BudgetDatabase.getForScope, BudgetDatabase.getForScope, hfilter]

lemma getById_eq (h : database.AgreeOn principal.tenantId database') (id : String) :
    database.getById id principal.tenantId = database'.getById id principal.tenantId := by
  have hmem : ∀ budget, budget ∈ database.ofTenant principal.tenantId
      ↔ budget ∈ database'.ofTenant principal.tenantId := fun budget => by rw [h.ofTenant]
  simp only [BudgetDatabase.ofTenant, List.mem_filter, decide_eq_true_eq] at hmem
  refine Option.ext fun budget => ?_
  rw [getById_eq_some, getById_eq_some, and_left_comm, hmem, and_left_comm]

/-- A budget that is added to both tables. -/
lemma insert (h : database.AgreeOn principal.tenantId database') {budget : Budget}
    {budgets budgets' : Table Budget.id} (hinsert : database.budgets.insert? budget = some budgets)
    (hinsert' : database'.budgets.insert? budget = some budgets') :
    ({ database with budgets := budgets } : BudgetDatabase).AgreeOn principal.tenantId
      { database' with budgets := budgets' } := by
  have hrows := Table.rows_of_insert? hinsert
  have hrows' := Table.rows_of_insert? hinsert'
  refine ⟨h.tenants, ?_, fun id hid => ?_⟩
  · have hold := h.ofTenant
    simp only [BudgetDatabase.ofTenant] at hold ⊢
    rw [hrows, hrows', List.filter_append, List.filter_append, hold]
  · simp only [hrows, hrows', List.map_append, List.mem_append, not_or] at hid ⊢
    exact ⟨h.fresh id hid.1, hid.2⟩

end BudgetDatabase.AgreeOn

section Writes

variable {database database' : BudgetDatabase} {principal : Principal} {tenantId : String}

lemma ids_writeBudget (budgets : Table Budget.id) (id : String) (values : BudgetValues) :
    (writeBudget budgets id values).rows.map Budget.id = budgets.rows.map Budget.id := by
  simp only [writeBudget, Table.modify, List.map_map]
  refine List.map_congr_left fun row _ => ?_
  rw [Function.comp_apply]
  split_ifs
  · exact row.withValues_id values
  · rfl

/-- A write changes the row in its place, and no budget's tenant. -/
lemma ofTenant_writeBudget (database : BudgetDatabase) (id : String) (values : BudgetValues) :
    ({ database with budgets := writeBudget database.budgets id values } :
        BudgetDatabase).ofTenant tenantId
      = (database.ofTenant tenantId).map fun row =>
          if row.id = id then row.withValues values else row := by
  simp only [BudgetDatabase.ofTenant, writeBudget, Table.modify, List.filter_map]
  refine congrArg _ (List.filter_congr fun row _ => ?_)
  rw [Function.comp_apply]
  split_ifs <;> rfl

lemma BudgetDatabase.AgreeOn.write (h : database.AgreeOn tenantId database') (id : String)
    (values : BudgetValues) :
    ({ database with budgets := writeBudget database.budgets id values } :
        BudgetDatabase).AgreeOn tenantId
      { database' with budgets := writeBudget database'.budgets id values } := by
  refine ⟨h.tenants, ?_, ?_⟩
  · rw [ofTenant_writeBudget, ofTenant_writeBudget, h.ofTenant]
  · simp only [ids_writeBudget]
    exact h.fresh

/-- **A request of the tenant** is answered alike over both tables, and leaves them alike. -/
lemma BudgetDatabase.AgreeOn.handle {call : BudgetCall}
    (h : database.AgreeOn call.principal.tenantId database') (hnew : call.DrawsNew database) :
    Fallible.Alike (fun result result' =>
        result.1.AgreeOn call.principal.tenantId result'.1 ∧ result.2 = result'.2)
      (call.handle database) (call.handle database') := by
  cases call with
  | Create principal payload newId =>
      simp only [BudgetCall.principal, BudgetCall.DrawsNew] at h hnew ⊢
      have hfound : database.getForScope (payload.key principal)
          = database'.getForScope (payload.key principal) := h.getForScope_eq rfl
      obtain ⟨budgets, hinsert⟩ := (Table.insert?_succeeds_iff (t := database.budgets)
        (r := payload.budget principal newId)).mpr hnew
      obtain ⟨budgets', hinsert'⟩ := (Table.insert?_succeeds_iff (t := database'.budgets)
        (r := payload.budget principal newId)).mpr (h.fresh _ hnew)
      simp only [BudgetCall.handle, createBudget, hfound]
      refine .after _ fun _ _ => .after _ fun _ _ => .after _ fun existing _ => ?_
      cases existing with
      | some existing => exact .error _
      | none =>
          have hinserted := h.insert hinsert hinsert'
          simp only [h.tenants, hinsert, hinsert'] at hinserted ⊢
          exact .after _ fun _ _ => .ok ⟨hinserted, rfl⟩
  | Update principal id payload =>
      simp only [BudgetCall.principal] at h ⊢
      simp only [BudgetCall.handle, updateBudget, h.getById_eq id]
      refine .after _ fun _ _ => .after _ fun budget _ => .after _ fun _ _ =>
        .after _ fun values _ => .ok ⟨h.write id values, rfl⟩

lemma BudgetDatabase.AgreeOn.step {call : BudgetCall}
    (h : database.AgreeOn call.principal.tenantId database') (hnew : call.DrawsNew database) :
    (budgetStep database call).AgreeOn call.principal.tenantId (budgetStep database' call) := by
  have halike := h.handle hnew
  rw [budgetStep, budgetStep]
  generalize call.handle database = result, call.handle database' = result' at halike ⊢
  cases halike with
  | error e => exact h
  | ok hresult => exact hresult.1

lemma tenants_budgetStep (database : BudgetDatabase) (call : BudgetCall) :
    (budgetStep database call).tenants = database.tenants := by
  cases hhandle : call.handle database with
  | error e => simp only [budgetStep, hhandle]
  | ok result =>
      simp only [budgetStep, hhandle]
      cases call with
      | Create principal payload newId =>
          obtain ⟨-, budgets, -, rfl⟩ := createBudget_eq_ok.mp hhandle
          rfl
      | Update principal id payload =>
          obtain ⟨budget, values, -, rfl⟩ := updateBudget_eq_ok.mp hhandle
          rfl

/-- **A request of another tenant** leaves what the tenant has, and frees no id. -/
lemma BudgetDatabase.AgreeOn.foreign {call : BudgetCall} (h : database.AgreeOn tenantId database')
    (hforeign : call.principal.tenantId ≠ tenantId) :
    (budgetStep database call).AgreeOn tenantId database' := by
  refine ⟨(tenants_budgetStep database call).trans h.tenants, ?_, fun id hid => h.fresh id ?_⟩
  · rw [← h.ofTenant]
    rcases budgetStep_cases database call with ⟨principal, payload, newId, rfl, -, hrows⟩
      | ⟨principal, id, payload, budget, values, rfl, haccepted, hwritten⟩ | ⟨-, hsame⟩
    · have hnone : [payload.budget principal newId].filter
          (fun budget => decide (budget.tenantId = tenantId)) = [] :=
        List.filter_eq_nil_iff.mpr fun budget hbudget => by
          cases List.mem_singleton.mp hbudget
          exact fun hown => hforeign (of_decide_eq_true hown)
      simp only [BudgetDatabase.ofTenant, hrows, List.filter_append, hnone, List.append_nil]
    · obtain ⟨hbudget, rfl, htenant⟩ := getById_eq_some.mp haccepted.found
      have hwrite := @ofTenant_writeBudget tenantId database budget.id values
      simp only [BudgetDatabase.ofTenant, hwritten] at hwrite ⊢
      rw [hwrite]
      refine (List.map_congr_left fun row hrow => if_neg fun hid => hforeign ?_).trans
        (List.map_id _)
      -- the row with this id is the other tenant's
      obtain ⟨hrow, hown⟩ := List.mem_filter.mp hrow
      cases database.budgets.eq_of_key hrow hbudget hid
      exact htenant.symm.trans (of_decide_eq_true hown)
    · rw [hsame]
  · rcases budgetStep_cases database call with ⟨principal, payload, newId, rfl, -, hrows⟩
      | ⟨principal, id, payload, budget, values, rfl, haccepted, hwritten⟩ | ⟨-, hsame⟩
    · rw [hrows, List.map_append, List.mem_append, not_or] at hid
      exact hid.1
    · rwa [hwritten, ids_writeBudget] at hid
    · rwa [hsame] at hid

end Writes

/-! ## Spend -/

section Spend

variable {ledger ledger' : CostLedger} {tenantId : String}

/-- A pair that is recorded takes its three ids. -/
lemma fresh_record_iff {row other : UsageEventRow × CostEvent} (h : ledger.Fresh row) :
    (ledger.record row).Fresh other
      ↔ ledger.Fresh other ∧ other.1.id ≠ row.1.id ∧ other.2.id ≠ row.2.id
        ∧ other.2.usageEventId ≠ row.2.usageEventId := by
  rw [CostLedger.record, dif_pos h]
  simp only [CostLedger.Fresh, List.map_append, List.map_cons, List.map_nil, List.mem_append,
    List.mem_singleton, not_or, ne_eq]
  tauto

lemma ofTenant_record {row : UsageEventRow × CostEvent} (hlinked : row.2.usageEventId = row.1.id)
    (hfresh : ledger.Fresh row) :
    (ledger.record row).ofTenant tenantId
      = ledger.ofTenant tenantId
        ++ if row.1.tenantId = some tenantId then [(row.2, row.1.toUsageEvent)] else [] := by
  rw [CostLedger.ofTenant, joined_record hlinked, if_pos hfresh, List.filter_append,
    List.filter_singleton, CostLedger.ofTenant]
  simp only [Bool.cond_decide]

/-- Linked pairs with new ids, recorded in one table and in a table that agrees on a tenant. -/
lemma records_unwind (tenantId : String) :
    Runs.Unwinds CostLedger.record (fun row => row.1.tenantId = some tenantId)
      fun rows ledger ledger' => (∀ row ∈ rows, row.2.usageEventId = row.1.id)
        ∧ Runs.Along CostLedger.record CostLedger.Fresh ledger rows
        ∧ ledger.AgreeOn tenantId ledger' where
  shared := by
    rintro row rows ledger ledger' hown ⟨hlinked, ⟨hfresh, hnew⟩, hagree⟩
    obtain ⟨hrow, hrest⟩ := List.forall_mem_cons.mp hlinked
    have hfresh' := hagree.fresh row hfresh
    refine ⟨hrest, hnew, ?_, fun other hother => ?_⟩
    · rw [ofTenant_record hrow hfresh, ofTenant_record hrow hfresh', hagree.ofTenant]
    · obtain ⟨hold, hids⟩ := (fresh_record_iff hfresh).mp hother
      exact (fresh_record_iff hfresh').mpr ⟨hagree.fresh other hold, hids⟩
  foreign := by
    rintro row rows ledger ledger' hforeign ⟨hlinked, ⟨hfresh, hnew⟩, hagree⟩
    obtain ⟨hrow, hrest⟩ := List.forall_mem_cons.mp hlinked
    refine ⟨hrest, hnew, ?_, fun other hother => ?_⟩
    · rw [ofTenant_record hrow hfresh, if_neg hforeign, List.append_nil, hagree.ofTenant]
    · exact hagree.fresh other ((fresh_record_iff hfresh).mp hother).1

/-- Spend is recorded for the tenant that the caller belongs to. -/
lemma tenant_of_rows {call : RecordedCall} {row : UsageEventRow × CostEvent} (h : row ∈ call.rows) :
    row.1.tenantId = some call.principal.tenantId := by
  by_cases haccepted : call.route.Accepted call.principal
  · exact (ExecuteRoute.ids_of_recorded haccepted h).1
  · rw [rows_of_not_accepted haccepted] at h
    cases h

/-- **An execution**, in one table and, if it is the tenant's, in a table that agrees on it. -/
lemma CostLedger.AgreeOn.afterCall (h : ledger.AgreeOn tenantId ledger') {call : RecordedCall}
    (hnew : Runs.Along CostLedger.record CostLedger.Fresh ledger call.rows) :
    (ledger.afterCall call).AgreeOn tenantId
      (if call.principal.tenantId = tenantId then ledger'.afterCall call else ledger') := by
  have hlinked : ∀ row ∈ call.rows, row.2.usageEventId = row.1.id :=
    fun row hrow => (rows_unpriced hrow).1
  have hrun := (records_unwind tenantId).run call.rows []
    (by rw [List.append_nil]; exact ⟨hlinked, hnew, h⟩)
  refine (congrArg (CostLedger.AgreeOn tenantId (ledger.afterCall call)) ?_).mp hrun.2.2
  split_ifs with hown
  · rw [List.filter_eq_self.mpr fun row hrow => by simp [tenant_of_rows hrow, hown]]
    rfl
  · rw [List.filter_eq_nil_iff.mpr fun row hrow => by simp [tenant_of_rows hrow, hown]]
    rfl

end Spend

/-! ## Answers -/

section Answers

variable {ledger ledger' : CostLedger} {state state' : GovernanceState} {tenantId : String}
  {principal : Principal}

end Answers

/-! ## Runs -/

end CostPlatform
