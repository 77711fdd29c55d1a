import CostPlatform.Budget.Service
import CostPlatform.Library.Runs
import CostPlatform.Security.Authorization

/-!
# The budget endpoints

Creating and updating budgets, each request in one session: committed when the handler returns,
rolled back when it raises.  `createBudget_eq_ok` and `updateBudget_eq_ok` state everything a
successful request does, and `budgetStep_cases` what one request does to the table.
-/

namespace CostPlatform

/-! ## Requests -/

/-- `Field(gt=0)`. -/
abbrev PositiveAmount := {amount : ℚ // 0 < amount}

/-- `Field(gt=0, le=100)`. -/
abbrev ThresholdPercent := {percent : ℚ // 0 < percent ∧ percent ≤ 100}

/-- Body of `POST /budgets`, as its schema admits it. -/
structure BudgetCreateRequest where
  scopeType : BudgetScope
  scopeId : String
  amount : PositiveAmount
  currency : String
  period : BudgetPeriod
  warningThresholdPercent : ThresholdPercent := ⟨80, by decide⟩
  criticalThresholdPercent : ThresholdPercent := ⟨95, by decide⟩
  scopeTypeValid : scopeType ≠ .Request
  scopeIdNonempty : 1 ≤ scopeId.length
  currencyLength : currency.length = 3

/-- A field of a `PATCH` body: left out, explicitly null, or a value. -/
inductive Patch (α : Type) where
  | Unset
  | Null
  | Value (value : α)
  deriving DecidableEq, Repr

/-- The attribute after `setattr`, if the field is set at all.  Null leaves it without a value. -/
def Patch.onto {α : Type} (field : Patch α) (current : α) : Option α :=
  match field with
  | .Unset => some current
  | .Null => none
  | .Value value => some value

/-- Body of `PATCH /budgets/{id}`. -/
structure BudgetUpdateRequest where
  amount : Patch PositiveAmount := .Unset
  period : Patch BudgetPeriod := .Unset
  warningThresholdPercent : Patch ThresholdPercent := .Unset
  criticalThresholdPercent : Patch ThresholdPercent := .Unset
  status : Patch BudgetStatus := .Unset
  reason : Option String := none

/-- What the handlers raise. -/
inductive BudgetRouteError where
  | Auth (error : AuthError)
  | NotFound
  | ActiveBudgetExists (budgetId : String)
  | ThresholdsInverted (warning critical : ℚ)
  -- an exception no handler expects: a 500
  | Uncaught (exception : String)
  deriving DecidableEq, Repr

def BudgetRouteError.statusCode : BudgetRouteError → Nat
  | .Auth error => error.statusCode
  | .NotFound => 404
  | .ActiveBudgetExists _ => 400
  | .ThresholdsInverted _ _ => 400
  | .Uncaught _ => 500

/-- The message in the body of the refusal. -/
def BudgetRouteError.message : BudgetRouteError → String
  | .Auth .Forbidden => "Authorization failed"
  | .Auth .CrossTenant => "Resource not found or not visible to the caller"
  | .NotFound => "Resource not found or not visible to the caller"
  | .ActiveBudgetExists _ => "An active budget already exists for this scope. Update it instead."
  | .ThresholdsInverted _ _ =>
      "warning_threshold_percent must not exceed critical_threshold_percent."
  | .Uncaught _ => "Internal server error"

/-! ## The repository -/

/-- The tables a budget request reads. -/
structure BudgetDatabase where
  tenants : List String
  budgets : Table Budget.id

/-- The columns a budget is unique in while it is active. -/
structure ScopeKey where
  tenantId : String
  scopeType : BudgetScope
  scopeId : String
  deriving DecidableEq, Repr

def Budget.scopeKey (budget : Budget) : ScopeKey :=
  ⟨budget.tenantId, budget.scopeType, budget.scopeId⟩

def BudgetDatabase.getById (database : BudgetDatabase) (budgetId tenantId : String) :
    Option Budget :=
  (database.budgets.get budgetId).filter fun budget => budget.tenantId = tenantId

/-- The active budget of a scope.  `scalar_one_or_none` raises on two. -/
def BudgetDatabase.getForScope (database : BudgetDatabase) (key : ScopeKey) :
    Except BudgetRouteError (Option Budget) :=
  match database.budgets.rows.filter fun budget =>
      budget.scopeKey = key && budget.status = .Active with
  | [] => .ok none
  | [budget] => .ok (some budget)
  | _ => .error (.Uncaught "MultipleResultsFound")

/-! ## The handlers -/

/-- `_resource_scope`: only a plant's and a department's budget name a part of the tenant. -/
def resourceScope (principal : Principal) (key : ScopeKey) : ResourceScope :=
  let tenantId := (PyString.truthy (some key.tenantId)).getD principal.tenantId
  match key.scopeType with
  | .Plant => ⟨tenantId, some key.scopeId, none⟩
  | .Department => ⟨tenantId, none, some key.scopeId⟩
  | _ => ⟨tenantId, none, none⟩

/-- Endpoint level. -/
def requireBudgetManage (principal : Principal) : Except BudgetRouteError Unit :=
  (requirePermission principal .BudgetManage).mapError .Auth

/-- Resource level, for a stored budget and for one that is only proposed. -/
def authorizeBudget (principal : Principal) (key : ScopeKey) : Except BudgetRouteError Unit :=
  (authorizeResourcePermission principal (resourceScope principal key) .BudgetManage).mapError
    .Auth

def BudgetCreateRequest.key (payload : BudgetCreateRequest) (principal : Principal) : ScopeKey :=
  ⟨principal.tenantId, payload.scopeType, payload.scopeId⟩

/-- The row `create_budget` adds. -/
def BudgetCreateRequest.budget (payload : BudgetCreateRequest) (principal : Principal)
    (newId : String) : Budget where
  id := newId
  tenantId := principal.tenantId
  scopeType := payload.scopeType
  scopeId := payload.scopeId
  amount := payload.amount
  currency := PyString.upper payload.currency
  period := payload.period
  warningThresholdPercent := payload.warningThresholdPercent
  criticalThresholdPercent := payload.criticalThresholdPercent
  status := .Active
  scopeTypeValid := payload.scopeTypeValid
  amountPositive := payload.amount.2
  warningThresholdValid := payload.warningThresholdPercent.2
  criticalThresholdValid := payload.criticalThresholdPercent.2

lemma BudgetCreateRequest.budget_scopeKey (payload : BudgetCreateRequest) (principal : Principal)
    (newId : String) : (payload.budget principal newId).scopeKey = payload.key principal := rfl

def createBudget (database : BudgetDatabase) (principal : Principal)
    (payload : BudgetCreateRequest) (newId : String) :
    Except BudgetRouteError (BudgetDatabase × Budget) := do
  requireBudgetManage principal
  authorizeBudget principal (payload.key principal)
  match ← database.getForScope (payload.key principal) with
  | some existing => throw (.ActiveBudgetExists existing.id)
  | none =>
      let budget := payload.budget principal newId
      -- the foreign key to the tenant, and the primary key
      Fallible.require (principal.tenantId ∈ database.tenants) (.Uncaught "IntegrityError")
      let budgets ← Fallible.demand (database.budgets.insert? budget) (.Uncaught "IntegrityError")
      return ({ database with budgets := budgets }, budget)

/-- The columns an update may write. -/
structure BudgetValues where
  amount : PositiveAmount
  period : BudgetPeriod
  warningThresholdPercent : ThresholdPercent
  criticalThresholdPercent : ThresholdPercent
  status : BudgetStatus
  deriving DecidableEq, Repr

def Budget.withValues (budget : Budget) (values : BudgetValues) : Budget :=
  { budget with
    amount := values.amount
    period := values.period
    warningThresholdPercent := values.warningThresholdPercent
    criticalThresholdPercent := values.criticalThresholdPercent
    status := values.status
    amountPositive := values.amount.2
    warningThresholdValid := values.warningThresholdPercent.2
    criticalThresholdValid := values.criticalThresholdPercent.2 }

@[simp] lemma Budget.withValues_id (budget : Budget) (values : BudgetValues) :
    (budget.withValues values).id = budget.id := rfl

@[simp] lemma Budget.withValues_scopeKey (budget : Budget) (values : BudgetValues) :
    (budget.withValues values).scopeKey = budget.scopeKey := rfl

/-- The row of a budget with new values.  Its scope is not updatable. -/
def writeBudget (budgets : Table Budget.id) (id : String) (values : BudgetValues) :
    Table Budget.id :=
  budgets.modify id (fun row => row.withValues values) fun row => row.withValues_id values

/-- The payload over the loaded row.  A null threshold cannot be compared, and no other column may
    be null when the row is flushed. -/
def BudgetUpdateRequest.merged (payload : BudgetUpdateRequest) (budget : Budget) :
    Except BudgetRouteError BudgetValues := do
  let warning ← Fallible.demand (payload.warningThresholdPercent.onto
    ⟨budget.warningThresholdPercent, budget.warningThresholdValid⟩) (.Uncaught "TypeError")
  let critical ← Fallible.demand (payload.criticalThresholdPercent.onto
    ⟨budget.criticalThresholdPercent, budget.criticalThresholdValid⟩) (.Uncaught "TypeError")
  Fallible.require (¬ critical.1 < warning.1) (.ThresholdsInverted warning critical)
  let amount ← Fallible.demand (payload.amount.onto ⟨budget.amount, budget.amountPositive⟩)
    (.Uncaught "IntegrityError")
  let period ← Fallible.demand (payload.period.onto budget.period) (.Uncaught "IntegrityError")
  let status ← Fallible.demand (payload.status.onto budget.status) (.Uncaught "IntegrityError")
  return { amount := amount, period := period, warningThresholdPercent := warning,
           criticalThresholdPercent := critical, status := status }

def updateBudget (database : BudgetDatabase) (principal : Principal) (id : String)
    (payload : BudgetUpdateRequest) : Except BudgetRouteError (BudgetDatabase × Budget) := do
  requireBudgetManage principal
  let budget ← Fallible.demand (database.getById id principal.tenantId) .NotFound
  authorizeBudget principal budget.scopeKey
  let values ← payload.merged budget
  return ({ database with budgets := writeBudget database.budgets id values },
    budget.withValues values)

inductive BudgetCall where
  | Create (principal : Principal) (payload : BudgetCreateRequest) (newId : String)
  | Update (principal : Principal) (id : String) (payload : BudgetUpdateRequest)

def BudgetCall.handle (call : BudgetCall) (database : BudgetDatabase) :
    Except BudgetRouteError (BudgetDatabase × Budget) :=
  match call with
  | .Create principal payload newId => createBudget database principal payload newId
  | .Update principal id payload => updateBudget database principal id payload

/-- The database after a request: committed, or rolled back with the session. -/
def budgetStep (database : BudgetDatabase) (call : BudgetCall) : BudgetDatabase :=
  match call.handle database with
  | .ok (database', _) => database'
  | .error _ => database

/-! ## What a request does -/

/-- The caller may manage the budgets of a scope. -/
def MayManage (principal : Principal) (key : ScopeKey) : Prop :=
  hasPermission principal .BudgetManage = true
    ∧ resourceScope principal key ∈ reach principal .BudgetManage

/-- What creating a budget takes. -/
structure CreateAccepted (database : BudgetDatabase) (principal : Principal)
    (payload : BudgetCreateRequest) (newId : String) : Prop where
  mayManage : MayManage principal (payload.key principal)
  noActive : ∀ budget ∈ database.budgets.rows, budget.scopeKey = payload.key principal →
    budget.status ≠ .Active
  tenantExists : principal.tenantId ∈ database.tenants
  idFresh : newId ∉ database.budgets.rows.map Budget.id

/-- What updating a budget takes, the row it finds and the values it writes. -/
structure UpdateAccepted (database : BudgetDatabase) (principal : Principal) (id : String)
    (payload : BudgetUpdateRequest) (budget : Budget) (values : BudgetValues) : Prop where
  found : database.getById id principal.tenantId = some budget
  mayManage : MayManage principal budget.scopeKey
  merged : payload.merged budget = .ok values

section Handlers

variable {database : BudgetDatabase} {principal : Principal}

lemma requireBudgetManage_eq_ok {u : Unit} :
    requireBudgetManage principal = .ok u ↔ hasPermission principal .BudgetManage = true := by
  simp only [requireBudgetManage, requirePermission]
  split_ifs with h
  · simp [h, Except.mapError]
  · simp [h, Except.mapError]

lemma authorizeBudget_eq_ok {key : ScopeKey} {u : Unit} :
    authorizeBudget principal key = .ok u
      ↔ resourceScope principal key ∈ reach principal .BudgetManage := by
  rw [← authorizeResourcePermission_eq_ok (u := u), authorizeBudget]
  cases authorizeResourcePermission principal (resourceScope principal key) .BudgetManage with
  | ok v => simp [Except.mapError]
  | error e => simp [Except.mapError]

/-- **No active budget is found exactly when there is none.** -/
lemma getForScope_eq_none {key : ScopeKey} :
    database.getForScope key = .ok none
      ↔ ∀ budget ∈ database.budgets.rows, budget.scopeKey = key → budget.status ≠ .Active := by
  have hempty : database.getForScope key = .ok none
      ↔ (database.budgets.rows.filter fun budget =>
          budget.scopeKey = key && budget.status = .Active) = [] := by
    simp only [BudgetDatabase.getForScope]
    cases database.budgets.rows.filter fun budget =>
        budget.scopeKey = key && budget.status = .Active with
    | nil => simp
    | cons budget rest => cases rest <;> simp
  rw [hempty, List.filter_eq_nil_iff]
  simp only [Bool.and_eq_true, decide_eq_true_eq, not_and]

lemma getById_eq_some {id : String} {budget : Budget} :
    database.getById id principal.tenantId = some budget
      ↔ budget ∈ database.budgets.rows ∧ budget.id = id
        ∧ budget.tenantId = principal.tenantId := by
  simp only [BudgetDatabase.getById, Option.filter_eq_some_iff, Table.get_eq_some,
    decide_eq_true_eq, and_assoc]

/-- **What creating a budget does.** -/
theorem createBudget_eq_ok {payload : BudgetCreateRequest} {newId : String}
    {result : BudgetDatabase × Budget} :
    createBudget database principal payload newId = .ok result
      ↔ CreateAccepted database principal payload newId
        ∧ ∃ budgets, database.budgets.insert? (payload.budget principal newId) = some budgets
          ∧ result = ({ database with budgets := budgets }, payload.budget principal newId) := by
  simp only [createBudget, Fallible.bind_eq_ok, requireBudgetManage_eq_ok, authorizeBudget_eq_ok]
  constructor
  · rintro ⟨_, hpermission, _, hreach, existing, hexisting, h⟩
    cases existing with
    | some existing => cases h
    | none =>
        simp only [Fallible.bind_eq_ok, Fallible.require_eq_ok, Fallible.demand_eq_ok] at h
        obtain ⟨_, htenant, budgets, hinsert, h⟩ := h
        have hfresh := Table.insert?_succeeds_iff.mp ⟨budgets, hinsert⟩
        exact ⟨⟨⟨hpermission, hreach⟩, getForScope_eq_none.mp hexisting, htenant, hfresh⟩, budgets,
          hinsert, (Except.ok.inj h).symm⟩
  · rintro ⟨haccepted, budgets, hinsert, rfl⟩
    refine ⟨(), haccepted.mayManage.1, (), haccepted.mayManage.2, none,
      getForScope_eq_none.mpr haccepted.noActive, ?_⟩
    simp only [Fallible.bind_eq_ok, Fallible.require_eq_ok, Fallible.demand_eq_ok]
    exact ⟨(), haccepted.tenantExists, budgets, hinsert, rfl⟩

/-- **What updating a budget does.** -/
theorem updateBudget_eq_ok {id : String} {payload : BudgetUpdateRequest}
    {result : BudgetDatabase × Budget} :
    updateBudget database principal id payload = .ok result
      ↔ ∃ budget values, UpdateAccepted database principal id payload budget values
        ∧ result = ({ database with budgets := writeBudget database.budgets id values },
          budget.withValues values) := by
  simp only [updateBudget, Fallible.bind_eq_ok, requireBudgetManage_eq_ok, authorizeBudget_eq_ok,
    Fallible.demand_eq_ok]
  constructor
  · rintro ⟨_, hpermission, budget, hfound, _, hreach, values, hmerged, h⟩
    exact ⟨budget, values, ⟨hfound, ⟨hpermission, hreach⟩, hmerged⟩, (Except.ok.inj h).symm⟩
  · rintro ⟨budget, values, haccepted, rfl⟩
    exact ⟨(), haccepted.mayManage.1, budget, haccepted.found, (), haccepted.mayManage.2, values,
      haccepted.merged, rfl⟩

/-- The rows after a write: the one written, and the others. -/
lemma mem_writeBudget {budget : Budget} {values : BudgetValues}
    (hbudget : budget ∈ database.budgets.rows) (row : Budget) :
    row ∈ (writeBudget database.budgets budget.id values).rows
      ↔ row = budget.withValues values
        ∨ (row ∈ database.budgets.rows ∧ row.id ≠ budget.id) := by
  rw [writeBudget, Table.mem_modify]
  refine or_congr_left ⟨?_, ?_⟩
  · rintro ⟨old, hold, hid, rfl⟩
    rw [database.budgets.eq_of_key hold hbudget hid]
  · rintro rfl
    exact ⟨budget, hbudget, rfl, rfl⟩

/-- What an update writes has its thresholds in order. -/
lemma warning_le_critical_of_merged {payload : BudgetUpdateRequest} {budget : Budget}
    {values : BudgetValues} (h : payload.merged budget = .ok values) :
    values.warningThresholdPercent.1 ≤ values.criticalThresholdPercent.1 := by
  simp only [BudgetUpdateRequest.merged, Fallible.bind_eq_ok, Fallible.require_eq_ok] at h
  obtain ⟨warning, -, critical, -, _, horder, amount, -, period, -, status, -, h⟩ := h
  cases Except.ok.inj h
  exact not_lt.mp horder

/-- **What one request does to the table**: it adds a budget, writes one, or changes nothing. -/
theorem budgetStep_cases (database : BudgetDatabase) (call : BudgetCall) :
    (∃ principal payload newId, call = .Create principal payload newId
      ∧ CreateAccepted database principal payload newId
      ∧ (budgetStep database call).budgets.rows
        = database.budgets.rows ++ [payload.budget principal newId])
    ∨ (∃ principal id payload budget values, call = .Update principal id payload
      ∧ UpdateAccepted database principal id payload budget values
      ∧ (budgetStep database call).budgets = writeBudget database.budgets id values)
    ∨ ((∃ error, call.handle database = .error error) ∧ budgetStep database call = database) := by
  cases hhandle : call.handle database with
  | error e => exact Or.inr (Or.inr ⟨⟨e, rfl⟩, by simp only [budgetStep, hhandle]⟩)
  | ok result =>
      cases call with
      | Create principal payload newId =>
          obtain ⟨haccepted, budgets, hinsert, rfl⟩ := createBudget_eq_ok.mp hhandle
          refine Or.inl ⟨principal, payload, newId, rfl, haccepted, ?_⟩
          simp only [budgetStep, hhandle]
          exact Table.rows_of_insert? hinsert
      | Update principal id payload =>
          obtain ⟨budget, values, haccepted, rfl⟩ := updateBudget_eq_ok.mp hhandle
          refine Or.inr (Or.inl ⟨principal, id, payload, budget, values, rfl, haccepted, ?_⟩)
          simp only [budgetStep, hhandle]

end Handlers

end CostPlatform
