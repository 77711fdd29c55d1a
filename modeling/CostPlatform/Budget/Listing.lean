import CostPlatform.Budget.Invariants
import CostPlatform.Intelligence.Listing
import CostPlatform.Library.Pages

/-!
# The budget list

`GET /budgets` reads a page of the tenant's budgets in the order of their scopes and leaves out
those that the caller may not read.  Budgets of one scope tie in that order: a scope may have any
number of budgets beside the active one.

`listing_complete_iff` says when the pages come to every readable budget once, whatever the database
does with ties: no page ends between two readable budgets of one scope.
-/

namespace CostPlatform

/-! ## The repository -/

/-- `ORDER BY scope_type, scope_id`. -/
def Budget.listKey (budget : Budget) : String ×ₗ String :=
  toLex (budget.scopeType.value, budget.scopeId)

def BudgetDatabase.ofTenant (database : BudgetDatabase) (tenantId : String) : List Budget :=
  database.budgets.rows.filter fun budget => budget.tenantId = tenantId

/-- An order of the tenant's budgets that a query may answer in. -/
structure TenantOrder (database : BudgetDatabase) (tenantId : String) where
  rows : List Budget
  arranges : Pages.Arranges Budget.listKey (database.ofTenant tenantId) rows

namespace TenantOrder

variable {database : BudgetDatabase} {tenantId : String}

def listByTenant (order : TenantOrder database tenantId) (paging : Paging) : List Budget :=
  (order.rows.drop paging.offset).take paging.limit

end TenantOrder

def BudgetDatabase.countByTenant (database : BudgetDatabase) (tenantId : String) : Nat :=
  (database.ofTenant tenantId).length

/-! ## The endpoint -/

/-- `Budget` of the API schema. -/
structure BudgetResponse where
  id : String
  scopeType : BudgetScope
  scopeId : String
  amount : ℚ
  currency : String
  period : BudgetPeriod
  warningThresholdPercent : ℚ
  criticalThresholdPercent : ℚ
  status : BudgetStatus
  deriving DecidableEq, Repr

def BudgetResponse.fromRow (budget : Budget) : BudgetResponse where
  id := budget.id
  scopeType := budget.scopeType
  scopeId := budget.scopeId
  amount := budget.amount
  currency := budget.currency
  period := budget.period
  warningThresholdPercent := budget.warningThresholdPercent
  criticalThresholdPercent := budget.criticalThresholdPercent
  status := budget.status

/-- Resource-level visibility of one row. -/
def canRead (principal : Principal) (budget : Budget) : Bool :=
  canAccessResourcePermission principal (resourceScope principal budget.scopeKey) .BudgetRead

/-- The caller is a `BudgetReader`. -/
def requireBudgetRead (principal : Principal) : Except BudgetRouteError Unit :=
  (requirePermission principal .BudgetRead).mapError .Auth

/-- `GET /budgets`.  The total counts the rows before the ones that are left out. -/
def listBudgets (database : BudgetDatabase) (principal : Principal)
    (order : TenantOrder database principal.tenantId) (paging : Paging) :
    Except BudgetRouteError (ListResponse BudgetResponse) := do
  requireBudgetRead principal
  let rows := order.listByTenant paging
  let total := database.countByTenant principal.tenantId
  let visible := rows.filter (canRead principal)
  return {
    items := visible.map BudgetResponse.fromRow
    page := ⟨total, paging.limit, paging.offset⟩ }

/-! ## All the pages -/

section

variable (database : BudgetDatabase) (principal : Principal)

/-- What the caller may read of the tenant's budgets. -/
def readableBudgets : List Budget :=
  (database.ofTenant principal.tenantId).filter (canRead principal)

/-- A page size, within the bounds of the query parameter. -/
abbrev PageSize := {limit : Nat // 1 ≤ limit ∧ limit ≤ 200}

def pageOf (limit : PageSize) (number : Nat) : Paging := ⟨limit, limit * number, limit.2⟩

/-- How many pages the total takes. -/
def pageCount (total : Nat) (limit : PageSize) : Nat := (total + limit - 1) / limit

/-- The pages up to the total, each from its own query. -/
def allPages (limit : PageSize) (orders : Nat → TenantOrder database principal.tenantId) :
    Except BudgetRouteError (List (ListResponse BudgetResponse)) :=
  (List.range (pageCount (database.countByTenant principal.tenantId) limit)).mapM fun number =>
    listBudgets database principal (orders number) (pageOf limit number)

variable {database principal}

lemma requireBudgetRead_eq_ok (h : hasPermission principal .BudgetRead = true) :
    requireBudgetRead principal = .ok () := by
  simp only [requireBudgetRead, requirePermission, h, if_true]
  rfl

lemma canRead_congr {budget other : Budget} (htenant : budget.tenantId = other.tenantId)
    (hkey : budget.listKey = other.listKey) :
    canRead principal budget = canRead principal other := by
  have hvalue : Function.Injective BudgetScope.value := by
    intro scope scope' h
    cases scope <;> cases scope' <;> first | rfl | exact absurd h (by decide)
  obtain ⟨htype, hid⟩ := Prod.ext_iff.mp (toLex.injective hkey)
  have hscope : budget.scopeKey = other.scopeKey := by
    simp only [Budget.scopeKey, htenant, hvalue htype, show budget.scopeId = other.scopeId from hid]
  rw [canRead, canRead, hscope]

lemma le_limit_mul_pageCount (total : Nat) (limit : PageSize) :
    total ≤ limit * pageCount total limit := by
  obtain ⟨limit, hpos, -⟩ := limit
  have hdiv := Nat.div_add_mod (total + limit - 1) limit
  have hmod := Nat.mod_lt (total + limit - 1) hpos
  rw [pageCount]
  dsimp only
  omega

/-- The items of all the pages are what is readable of them. -/
lemma allPages_eq (hread : hasPermission principal .BudgetRead = true) (limit : PageSize)
    (orders : Nat → TenantOrder database principal.tenantId) :
    ∃ pages, allPages database principal limit orders = .ok pages
      ∧ pages.flatMap ListResponse.items
        = ((Pages.pages (fun number => (orders number).rows) limit
            (pageCount (database.countByTenant principal.tenantId) limit)).filter
              (canRead principal)).map BudgetResponse.fromRow := by
  let response (number : Nat) : ListResponse BudgetResponse :=
    { items := ((Pages.page (orders number).rows limit number).filter (canRead principal)).map
        BudgetResponse.fromRow
      page := ⟨database.countByTenant principal.tenantId, limit, limit * number⟩ }
  have hpage : ∀ number, listBudgets database principal (orders number) (pageOf limit number)
      = pure (response number) := by
    intro number
    rw [listBudgets, requireBudgetRead_eq_ok hread]
    rfl
  have hok : allPages database principal limit orders
      = .ok ((List.range (pageCount (database.countByTenant principal.tenantId) limit)).map
          response) := by
    rw [allPages, funext hpage]
    exact List.mapM_pure
  refine ⟨_, hok, ?_⟩
  rw [Pages.pages, List.filter_flatMap, List.map_flatMap, List.flatMap_map]

/-- A budget is known by its id, which is in the response. -/
lemma recovered_eq {budgets : List Budget}
    (h : ∀ budget ∈ budgets, budget ∈ database.budgets.rows) :
    (budgets.map BudgetResponse.fromRow).filterMap (fun response =>
      database.budgets.get response.id) = budgets := by
  rw [List.filterMap_map]
  conv_rhs => rw [← @List.filterMap_some _ budgets]
  exact List.filterMap_congr fun budget hbudget => Table.get_eq_some.mpr ⟨h budget hbudget, rfl⟩

/-- So responses tell budgets apart. -/
lemma perm_of_perm_fromRow {budgets budgets' : List Budget}
    (h : ∀ budget ∈ budgets, budget ∈ database.budgets.rows)
    (h' : ∀ budget ∈ budgets', budget ∈ database.budgets.rows)
    (hperm : (budgets.map BudgetResponse.fromRow).Perm (budgets'.map BudgetResponse.fromRow)) :
    budgets.Perm budgets' := by
  have hrecovered := hperm.filterMap fun response => database.budgets.get response.id
  rwa [recovered_eq h, recovered_eq h'] at hrecovered

lemma mem_rows_of_mem_ofTenant {tenantId : String} {budget : Budget}
    (h : budget ∈ database.ofTenant tenantId) : budget ∈ database.budgets.rows :=
  (List.mem_filter.mp h).1

lemma mem_ofTenant_of_mem_pages {tenantId : String} {answers : Nat → List Budget}
    (hanswers : ∀ number, Pages.Arranges Budget.listKey (database.ofTenant tenantId)
      (answers number)) {limit count : Nat} {budget : Budget}
    (h : budget ∈ Pages.pages answers limit count) : budget ∈ database.ofTenant tenantId := by
  obtain ⟨number, -, hpage⟩ := List.mem_flatMap.mp h
  exact (hanswers number).perm.mem_iff.mp (List.mem_of_mem_drop (List.mem_of_mem_take hpage))

/-- Who may read a budget of the tenant may read those that tie with it. -/
lemma canRead_of_tied : ∀ budget ∈ database.ofTenant principal.tenantId,
    ∀ other ∈ database.ofTenant principal.tenantId, budget.listKey = other.listKey →
      canRead principal budget = canRead principal other := by
  have htenant : ∀ budget ∈ database.ofTenant principal.tenantId,
      budget.tenantId = principal.tenantId :=
    fun budget hbudget => by simpa using (List.mem_filter.mp hbudget).2
  exact fun budget hbudget other hother =>
    canRead_congr ((htenant budget hbudget).trans (htenant other hother).symm)

/-- **When the list is complete.**  However the database orders what ties, a caller who goes through
    the pages finds every budget that they may read, once, exactly if no page ends between two such
    budgets of one scope. -/
theorem listing_complete_iff (hread : hasPermission principal .BudgetRead = true)
    (limit : PageSize) :
    (∀ orders, ∃ pages, allPages database principal limit orders = .ok pages
        ∧ (pages.flatMap ListResponse.items).Perm
          ((readableBudgets database principal).map BudgetResponse.fromRow))
      ↔ ∀ number < pageCount (database.countByTenant principal.tenantId) limit,
          ∀ budget ∈ readableBudgets database principal,
            ¬ Pages.Splits Budget.listKey (database.ofTenant principal.tenantId)
              (limit * (number + 1)) budget.listKey := by
  have hnodup : (database.ofTenant principal.tenantId).Nodup :=
    (database.budgets.nodup.of_map _).filter _
  have hcomplete := Pages.pages_perm_iff hnodup canRead_of_tied
    (le_limit_mul_pageCount (database.countByTenant principal.tenantId) limit)
  have hmem : ∀ budget, budget ∈ readableBudgets database principal
      ↔ budget ∈ database.ofTenant principal.tenantId ∧ canRead principal budget = true :=
    fun budget => List.mem_filter
  simp only [hmem, and_imp]
  rw [← hcomplete]
  constructor
  · intro hpages answers hanswers
    obtain ⟨pages, hok, hperm⟩ := hpages fun number => ⟨answers number, hanswers number⟩
    obtain ⟨pages', hok', heq⟩ := allPages_eq hread limit fun number =>
      (⟨answers number, hanswers number⟩ : TenantOrder database principal.tenantId)
    cases hok.symm.trans hok'
    rw [heq] at hperm
    refine @perm_of_perm_fromRow database _ _ (fun budget hbudget => ?_) (fun budget hbudget => ?_)
      hperm
    · exact mem_rows_of_mem_ofTenant
        (mem_ofTenant_of_mem_pages hanswers (List.mem_filter.mp hbudget).1)
    · exact mem_rows_of_mem_ofTenant (List.mem_filter.mp hbudget).1
  · intro hpages orders
    obtain ⟨pages, hok, heq⟩ := allPages_eq hread limit orders
    refine ⟨pages, hok, ?_⟩
    rw [heq]
    exact (hpages _ fun number => (orders number).arranges).map _

end

/-- **A budget that was replaced ties with its successor.**  One to a page, either may be listed
    twice and the other not at all. -/
theorem replaced_budget_listed_twice :
    ¬ ∀ orders, ∃ pages,
      allPages (Runs.run budgetStep noBudgets replaceBudget) budgetAdmin ⟨1, by decide⟩ orders
          = .ok pages
        ∧ (pages.flatMap ListResponse.items).Perm
          ((readableBudgets (Runs.run budgetStep noBudgets replaceBudget) budgetAdmin).map
            BudgetResponse.fromRow) := by
  rw [listing_complete_iff (by decide)]
  decide +kernel

end CostPlatform
