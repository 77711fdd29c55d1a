import CostPlatform.Budget.Endpoints

/-!
# Invariants of the budgets table

Two properties of the table over runs of create and update requests, and which requests keep them.

* `one_active_iff` — each scope has at most one active budget, as the lookup of a scope's budget
  expects.  Creating one looks for an active budget first, updating one does not.
* `thresholds_iff` — the warning threshold does not exceed the critical one.  Updating a budget
  compares them, creating one does not.
-/

namespace CostPlatform

/-! ## One active budget per scope -/

/-- No two active budgets share a scope. -/
def OneActivePerScope (database : BudgetDatabase) : Prop :=
  ∀ budget ∈ database.budgets.rows, ∀ other ∈ database.budgets.rows,
    budget.status = .Active → other.status = .Active → budget.scopeKey = other.scopeKey →
    budget.id = other.id

/-- If the request updates a budget and leaves it active, no other budget of its scope is. -/
def BudgetCall.KeepsOneActive (database : BudgetDatabase) (call : BudgetCall) : Prop :=
  match call with
  | .Create _ _ _ => True
  | .Update principal id payload =>
      ∀ budget values, UpdateAccepted database principal id payload budget values →
        values.status = .Active → ∀ other ∈ database.budgets.rows,
          other.scopeKey = budget.scopeKey → other.status = .Active → other.id = id

instance : DecidablePred OneActivePerScope := fun database =>
  inferInstanceAs (Decidable (∀ budget ∈ database.budgets.rows,
    ∀ other ∈ database.budgets.rows, budget.status = .Active → other.status = .Active →
      budget.scopeKey = other.scopeKey → budget.id = other.id))

variable {database : BudgetDatabase}

/-- A budget can be added to a scope that has no active one. -/
lemma oneActive_insert {database' : BudgetDatabase} {budget : Budget}
    (hone : OneActivePerScope database)
    (hnone : ∀ other ∈ database.budgets.rows, other.scopeKey = budget.scopeKey →
      other.status ≠ .Active)
    (hrows : database'.budgets.rows = database.budgets.rows ++ [budget]) :
    OneActivePerScope database' := by
  intro b hb b' hb' hactive hactive' hkey
  rw [hrows] at hb hb'
  simp only [List.mem_append, List.mem_singleton] at hb hb'
  rcases hb with hb | rfl
  · rcases hb' with hb' | rfl
    · exact hone b hb b' hb' hactive hactive' hkey
    · exact absurd hactive (hnone b hb hkey)
  · rcases hb' with hb' | rfl
    · exact absurd hactive' (hnone b' hb' hkey.symm)
    · rfl

/-- A budget can be written exactly when that leaves it alone as the active one of its scope. -/
lemma oneActive_modify_iff {database' : BudgetDatabase} {budget : Budget} {values : BudgetValues}
    (hone : OneActivePerScope database) (hbudget : budget ∈ database.budgets.rows)
    (hwritten : database'.budgets = writeBudget database.budgets budget.id values) :
    OneActivePerScope database'
      ↔ (values.status = .Active → ∀ other ∈ database.budgets.rows,
          other.scopeKey = budget.scopeKey → other.status = .Active → other.id = budget.id) := by
  have hmem : ∀ row, row ∈ database'.budgets.rows
      ↔ row = budget.withValues values
        ∨ (row ∈ database.budgets.rows ∧ row.id ≠ budget.id) := by
    rw [hwritten]
    exact mem_writeBudget hbudget
  constructor
  · intro hone' hactive other hother hkey hstatus
    by_contra hne
    exact hne (hone' other ((hmem other).mpr (Or.inr ⟨hother, hne⟩)) (budget.withValues values)
      ((hmem _).mpr (Or.inl rfl)) hstatus hactive hkey)
  · intro halone b hb b' hb' hactive hactive' hkey
    rcases (hmem b).mp hb with rfl | ⟨hold, hne⟩
    · rcases (hmem b').mp hb' with rfl | ⟨hold', -⟩
      · rfl
      · exact (halone hactive b' hold' hkey.symm hactive').symm
    · rcases (hmem b').mp hb' with rfl | ⟨hold', -⟩
      · exact halone hactive' b hold hkey hactive
      · exact hone b hold b' hold' hactive hactive' hkey

/-- **One request.** -/
lemma oneActive_step_iff (call : BudgetCall) (hone : OneActivePerScope database) :
    OneActivePerScope (budgetStep database call) ↔ call.KeepsOneActive database := by
  rcases budgetStep_cases database call with ⟨principal, payload, newId, rfl, haccepted, hrows⟩
    | ⟨principal, id, payload, budget, values, rfl, haccepted, hwritten⟩
    | ⟨⟨error, hrefused⟩, hsame⟩
  · refine iff_of_true (oneActive_insert hone ?_ hrows) trivial
    rw [payload.budget_scopeKey]
    exact haccepted.noActive
  · obtain ⟨hbudget, rfl, -⟩ := getById_eq_some.mp haccepted.found
    rw [oneActive_modify_iff hone hbudget hwritten]
    refine ⟨fun halone budget' values' haccepted' => ?_, fun halone => halone _ _ haccepted⟩
    -- the row found and the values written are determined by the request
    cases Option.some.inj (haccepted.found.symm.trans haccepted'.found)
    cases Except.ok.inj (haccepted.merged.symm.trans haccepted'.merged)
    exact halone
  · rw [hsame]
    refine iff_of_true hone ?_
    cases call with
    | Create principal payload newId => trivial
    | Update principal id payload =>
        intro budget values haccepted
        have hok : updateBudget database principal id payload = .ok _ :=
          updateBudget_eq_ok.mpr ⟨budget, values, haccepted, rfl⟩
        cases hok.symm.trans hrefused

/-- **A run keeps one active budget per scope exactly when each of its updates does.** -/
theorem one_active_iff (database : BudgetDatabase) (calls : List BudgetCall)
    (hone : OneActivePerScope database) :
    Runs.Throughout budgetStep OneActivePerScope database calls
      ↔ Runs.Along budgetStep (fun database call => call.KeepsOneActive database) database
          calls :=
  Runs.throughout_iff_along (fun _ call h => oneActive_step_iff call h) hone

/-- A tenant without budgets. -/
def noBudgets : BudgetDatabase where
  tenants := ["t1"]
  budgets := { rows := [], nodup := List.nodup_nil }

def budgetAdmin : Principal where
  subject := "admin-1"
  tenantId := "t1"
  assignments := [⟨.Admin, .Tenant, "t1"⟩]

/-- A monthly budget of 100 USD for a department. -/
def departmentBudget : BudgetCreateRequest where
  scopeType := .Department
  scopeId := "d1"
  amount := ⟨100, by decide⟩
  currency := "USD"
  period := .Monthly
  warningThresholdPercent := ⟨70, by decide⟩
  criticalThresholdPercent := ⟨90, by decide⟩
  scopeTypeValid := by decide
  scopeIdNonempty := by decide
  currencyLength := by decide

/-- A budget is created, deactivated and replaced by another. -/
def replaceBudget : List BudgetCall :=
  [ .Create budgetAdmin departmentBudget "b1",
    .Update budgetAdmin "b1" { status := .Value .Inactive },
    .Create budgetAdmin departmentBudget "b2" ]

/-- Replacing a budget keeps one of them active. -/
theorem replaced_budget_keeps_one_active :
    Runs.Along budgetStep (fun database call => call.KeepsOneActive database) noBudgets
      replaceBudget :=
  (one_active_iff noBudgets replaceBudget (by decide +kernel)).mp (by decide +kernel)

/-- **Reactivating the first budget leaves two active.**  The next request to create one fails on
    reading them. -/
theorem reactivation_leaves_two_active :
    ¬ Runs.Throughout budgetStep OneActivePerScope noBudgets
        (replaceBudget ++ [.Update budgetAdmin "b1" { status := .Value .Active }])
      ∧ ((BudgetCall.Create budgetAdmin departmentBudget "b3").handle (Runs.run budgetStep noBudgets
          (replaceBudget ++ [.Update budgetAdmin "b1" { status := .Value .Active }]))).map
            (fun _ => ())
        = .error (.Uncaught "MultipleResultsFound") := by
  decide +kernel

/-! ## Thresholds -/

/-- What is expected of the figures of a stored budget. -/
def Budget.ThresholdsValid (budget : Budget) : Prop :=
  0 < budget.warningThresholdPercent
    ∧ budget.warningThresholdPercent ≤ budget.criticalThresholdPercent
    ∧ budget.criticalThresholdPercent ≤ 100 ∧ 0 < budget.amount

def ThresholdsValid (database : BudgetDatabase) : Prop :=
  ∀ budget ∈ database.budgets.rows, budget.ThresholdsValid

instance : DecidablePred ThresholdsValid := fun database =>
  inferInstanceAs (Decidable (∀ budget ∈ database.budgets.rows,
    0 < budget.warningThresholdPercent
      ∧ budget.warningThresholdPercent ≤ budget.criticalThresholdPercent
      ∧ budget.criticalThresholdPercent ≤ 100 ∧ 0 < budget.amount))

/-- If the request creates a budget, its warning threshold does not exceed its critical one. -/
def BudgetCall.CreatesOrdered (database : BudgetDatabase) (call : BudgetCall) : Prop :=
  match call with
  | .Create principal payload newId => CreateAccepted database principal payload newId →
      payload.warningThresholdPercent.1 ≤ payload.criticalThresholdPercent.1
  | .Update _ _ _ => True

/-- The `CHECK` constraints leave open only how the two thresholds compare. -/
lemma thresholdsValid_iff (budget : Budget) : budget.ThresholdsValid
    ↔ budget.warningThresholdPercent ≤ budget.criticalThresholdPercent := by
  refine ⟨fun h => h.2.1, fun h => ?_⟩
  exact ⟨budget.warningThresholdValid.1, h, budget.criticalThresholdValid.2, budget.amountPositive⟩

lemma thresholds_step_iff (call : BudgetCall) (hvalid : ThresholdsValid database) :
    ThresholdsValid (budgetStep database call) ↔ call.CreatesOrdered database := by
  rcases budgetStep_cases database call with ⟨principal, payload, newId, rfl, haccepted, hrows⟩
    | ⟨principal, id, payload, budget, values, rfl, haccepted, hwritten⟩
    | ⟨⟨error, hrefused⟩, hsame⟩
  · simp only [ThresholdsValid, hrows, List.forall_mem_append, List.forall_mem_singleton]
    rw [thresholdsValid_iff]
    exact ⟨fun h _ => h.2, fun h => ⟨hvalid, h haccepted⟩⟩
  · refine iff_of_true (fun row hrow => ?_) trivial
    obtain ⟨hbudget, rfl, -⟩ := getById_eq_some.mp haccepted.found
    rw [hwritten] at hrow
    rcases (mem_writeBudget hbudget row).mp hrow with rfl | ⟨hold, -⟩
    · exact (thresholdsValid_iff _).mpr (warning_le_critical_of_merged haccepted.merged)
    · exact hvalid row hold
  · rw [hsame]
    refine iff_of_true hvalid ?_
    cases call with
    | Create principal payload newId =>
        intro haccepted
        obtain ⟨budgets, hinsert⟩ := (Table.insert?_succeeds_iff (t := database.budgets)
          (r := payload.budget principal newId)).mpr haccepted.idFresh
        have hok : createBudget database principal payload newId = .ok _ :=
          createBudget_eq_ok.mpr ⟨haccepted, budgets, hinsert, rfl⟩
        cases hok.symm.trans hrefused
    | Update principal id payload => trivial

/-- A request that is refused changes nothing, wherever it stands in a run. -/
def RefusalsKeepRows (database : BudgetDatabase) (calls : List BudgetCall) : Prop :=
  ∀ pre call post, calls = pre ++ call :: post →
    ∀ error, call.handle (Runs.run budgetStep database pre) = .error error →
      Runs.run budgetStep database (pre ++ [call]) = Runs.run budgetStep database pre

lemma refusals_keep_rows (database : BudgetDatabase) (calls : List BudgetCall) :
    RefusalsKeepRows database calls := by
  rintro pre call post rfl error hrefused
  rw [Runs.run_append]
  simp only [Runs.run_cons, Runs.run_nil, budgetStep, hrefused]

/-- **A run keeps the thresholds of every budget valid exactly when each budget it creates has them
    in order.**  Requests that are refused change nothing in any run. -/
theorem thresholds_iff (database : BudgetDatabase) (calls : List BudgetCall)
    (hvalid : ThresholdsValid database) :
    (Runs.Throughout budgetStep ThresholdsValid database calls ∧ RefusalsKeepRows database calls)
      ↔ Runs.Along budgetStep (fun database call => call.CreatesOrdered database) database
          calls := by
  rw [and_iff_left (refusals_keep_rows database calls)]
  exact Runs.throughout_iff_along (fun _ call h => thresholds_step_iff call h) hvalid

/-- Lowering the warning threshold of a budget. -/
def lowerWarning : List BudgetCall :=
  [ .Create budgetAdmin departmentBudget "b1",
    .Update budgetAdmin "b1" { warningThresholdPercent := .Value ⟨50, by decide⟩ } ]

/-- Every request of that run creates no budget or one with ordered thresholds. -/
theorem lowered_warning_ordered :
    Runs.Along budgetStep (fun database call => call.CreatesOrdered database) noBudgets
      lowerWarning := by
  have hthroughout : Runs.Throughout budgetStep ThresholdsValid noBudgets lowerWarning := by
    decide +kernel
  exact (thresholds_iff noBudgets lowerWarning (by decide +kernel)).mp
    ⟨hthroughout, refusals_keep_rows _ _⟩

/-- **A budget is created that warns at 95 percent and is critical at 50.**  The same pair of
    thresholds is refused in an update. -/
theorem inverted_thresholds_created :
    ¬ Runs.Throughout budgetStep ThresholdsValid noBudgets
        [.Create budgetAdmin { departmentBudget with
          warningThresholdPercent := ⟨95, by decide⟩
          criticalThresholdPercent := ⟨50, by decide⟩ } "b1"]
      ∧ ((BudgetCall.Update budgetAdmin "b1" {
          warningThresholdPercent := .Value ⟨95, by decide⟩
          criticalThresholdPercent := .Value ⟨50, by decide⟩ }).handle
            (budgetStep noBudgets (.Create budgetAdmin departmentBudget "b1"))).map (fun _ => ())
        = .error (.ThresholdsInverted 95 50) := by
  decide +kernel

end CostPlatform
