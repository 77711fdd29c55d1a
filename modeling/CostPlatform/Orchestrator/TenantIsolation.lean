import CostPlatform.Orchestrator.Execute
import Mathlib.Data.Fintype.EquivFin

/-!
# Other tenants' workloads

Planning looks the workload of a request up by its id alone, whoever asks.  Whose workload it is
can be told from its plant, and planning does not ask.

Another tenant's row moves the priority and the risk of a plan and nothing else
(`plan_up_to_classification`).  It does move them: `plan_isolated_iff` says that the plan depends on
the tenant's own rows only exactly where the request names no workload or one of the tenant's own,
or the budget evaluator raises.
-/

namespace CostPlatform

/-! ## The tables that planning reads -/

/-- A row of `plants`. -/
structure Plant where
  id : String
  tenantId : String
  deriving DecidableEq, Repr

/-- A row of `workloads`, which belongs to a plant. -/
structure WorkloadRow extends Workload where
  plantId : String
  deriving DecidableEq, Repr

structure PlanningDatabase where
  plants : Table Plant.id
  workloads : Table fun row : WorkloadRow => row.id
  policies : PolicyTable
  registry : ModelRegistry
  /-- `plant_id` is a foreign key. -/
  plantOfWorkload : ∀ row ∈ workloads.rows, ∃ plant ∈ plants.rows, plant.id = row.plantId

namespace PlanningDatabase

variable (database : PlanningDatabase)

/-- `WorkloadRepository.get_by_id`. -/
def getById (workloadId : String) : Except Failure (Option Workload) :=
  .ok ((database.workloads.get workloadId).map WorkloadRow.toWorkload)

/-- `RoutingPolicyRepository.get_active`. -/
def getActive (key : RoutingKey) : Except Failure (Option RoutingPolicy) :=
  match CostPlatform.getActive database.policies key with
  | .ok policy => .ok policy
  | .error _ => .error (.Other "MultipleResultsFound")

/-- An orchestrator over the database, with a workload repository.  Whatever else it is built from
    is given. -/
def orchestrator (c : Collaborators) : Collaborators where
  __ := c
  findForWorkload := database.registry.service
  getActivePolicy := some database.getActive
  getWorkload := some database.getById

/-! ## A tenant's rows -/

/-- The tenant of a workload is that of its plant. -/
def tenantOf (row : WorkloadRow) : Option String :=
  (database.plants.get row.plantId).map Plant.tenantId

def ownWorkloads (tenantId : String) : List WorkloadRow :=
  database.workloads.rows.filter fun row => database.tenantOf row = some tenantId

/-- Two databases agree on a tenant's rows and on the registry. -/
structure AgreeOn (tenantId : String) (left right : PlanningDatabase) : Prop where
  plants : left.plants.rows.filter (fun plant => plant.tenantId = tenantId)
    = right.plants.rows.filter fun plant => plant.tenantId = tenantId
  workloads : left.ownWorkloads tenantId = right.ownWorkloads tenantId
  policies : left.policies.rows.filter (fun policy => policy.tenantId = tenantId)
    = right.policies.rows.filter fun policy => policy.tenantId = tenantId
  registry : left.registry = right.registry

/-- Plans are the same over all databases that have the tenant's rows and the registry of this
    one. -/
def PlanIsolated (c : Collaborators) (request : OrchestrationRequest) (principal : Principal)
    (requestId traceId : String) : Prop :=
  ∀ left right, AgreeOn principal.tenantId database left →
    AgreeOn principal.tenantId database right →
    (left.orchestrator c).plan request principal requestId traceId
      = (right.orchestrator c).plan request principal requestId traceId

/-- The budget evaluator raises on the request. -/
def BudgetRaises (c : Collaborators) (request : OrchestrationRequest) (principal : Principal) :
    Prop :=
  ∃ failure, c.evaluateBudget
    { tenantId := principal.tenantId
      plantId := request.plantId
      departmentId := request.departmentId
      workloadId := request.workloadId
      estimatedCost := 0 } = .error failure

variable {database} {left right : PlanningDatabase} {c : Collaborators}
  {request : OrchestrationRequest} {principal : Principal} {requestId traceId : String}

namespace AgreeOn

lemma symm {tenantId : String} (h : AgreeOn tenantId left right) : AgreeOn tenantId right left where
  plants := h.plants.symm
  workloads := h.workloads.symm
  policies := h.policies.symm
  registry := h.registry.symm

lemma trans {tenantId : String} {other : PlanningDatabase} (h : AgreeOn tenantId left right)
    (h' : AgreeOn tenantId right other) : AgreeOn tenantId left other where
  plants := h.plants.trans h'.plants
  workloads := h.workloads.trans h'.workloads
  policies := h.policies.trans h'.policies
  registry := h.registry.trans h'.registry

/-- The policy lookup asks for the tenant, and so reads its rows only. -/
lemma getActive_eq {key : RoutingKey} (h : AgreeOn key.tenantId left right) :
    left.getActive key = right.getActive key := by
  have hown : ∀ policies : PolicyTable, activeRows policies key
      = (policies.rows.filter fun policy => policy.tenantId = key.tenantId).filter
        fun policy => policy.key = key ∧ policy.status = .Active := by
    intro policies
    rw [activeRows, List.filter_filter]
    refine List.filter_congr fun policy _ => ?_
    by_cases hkey : policy.key = key
    · simp [← hkey, RoutingPolicy.key]
    · simp [hkey]
  simp only [PlanningDatabase.getActive, CostPlatform.getActive, hown, h.policies]

end AgreeOn

/-! ## What a foreign row can move -/

lemma loadWorkload_eq (database : PlanningDatabase) (c : Collaborators)
    (request : OrchestrationRequest) :
    (database.orchestrator c).loadWorkload request
      = (PyString.truthy request.workloadId).bind fun workloadId =>
          (database.workloads.get workloadId).map WorkloadRow.toWorkload := by
  simp only [Collaborators.loadWorkload, orchestrator]
  cases PyString.truthy request.workloadId with
  | none => rfl
  | some workloadId => rfl

/-- The workload of a plan is the one the request names. -/
lemma classify_workloadId (database : PlanningDatabase) (c : Collaborators)
    (request : OrchestrationRequest) :
    ((database.orchestrator c).classify request).workloadId = request.workloadId := by
  simp only [Collaborators.classify, loadWorkload_eq]
  cases hid : PyString.truthy request.workloadId with
  | none => rfl
  | some workloadId =>
      obtain ⟨hrequest, -⟩ := PyString.truthy_eq_some.mp hid
      cases hrow : database.workloads.get workloadId with
      | none => simp [hrow, PyString.truthy]
      | some row =>
          have hkey : row.id = workloadId := (Table.get_eq_some.mp hrow).2
          rw [Option.bind_some, hrow, Option.map_some, Option.map_some, hkey, ← hrequest, hid,
            hrequest]
          rfl

lemma checkBudget_orchestrator (database : PlanningDatabase) (c : Collaborators)
    (request : OrchestrationRequest) (principal : Principal) :
    (database.orchestrator c).checkBudget request principal
      = c.evaluateBudget
          { tenantId := principal.tenantId
            plantId := request.plantId
            departmentId := request.departmentId
            workloadId := request.workloadId
            estimatedCost := 0 } := by
  rw [Collaborators.checkBudget, Collaborators.budgetQuery, classify_workloadId]
  rfl

/-- The complexity of a request is measured on the request. -/
lemma classify_complexity (left right : PlanningDatabase) (c : Collaborators)
    (request : OrchestrationRequest) :
    ((left.orchestrator c).classify request).complexity
      = ((right.orchestrator c).classify request).complexity :=
  rfl

lemma loadPolicy_orchestrator (database : PlanningDatabase) (c : Collaborators)
    (tenantId workloadType : String) (complexity : Complexity) :
    (database.orchestrator c).loadPolicy tenantId workloadType complexity
      = (database.getActive ⟨tenantId, workloadType, complexity⟩).toOption.join := by
  simp only [Collaborators.loadPolicy, orchestrator]
  cases database.getActive ⟨tenantId, workloadType, complexity⟩ with
  | error failure => rfl
  | ok policy => rfl

lemma AgreeOn.policyFor_eq (h : AgreeOn principal.tenantId left right) (c : Collaborators)
    (request : OrchestrationRequest) :
    (left.orchestrator c).policyFor request principal
      = (right.orchestrator c).policyFor request principal := by
  let key : RoutingKey := ⟨principal.tenantId, request.workloadType,
    ((right.orchestrator c).classify request).complexity⟩
  have hlookup : left.getActive key = right.getActive key := h.getActive_eq
  rw [Collaborators.policyFor, Collaborators.policyFor, classify_complexity left right,
    loadPolicy_orchestrator, loadPolicy_orchestrator, hlookup]

lemma AgreeOn.candidates_eq {tenantId : String} (h : AgreeOn tenantId left right)
    (c : Collaborators) (request : OrchestrationRequest) (policy : Option RoutingPolicy) :
    (left.orchestrator c).candidates request policy
      = (right.orchestrator c).candidates request policy := by
  simp only [Collaborators.candidates, orchestrator, h.registry]

/-- What of a plan its workload has no part in. -/
def unclassified (plan : ExecutionPlan) : ExecutionPlan :=
  { plan with
    businessPriority := .Low
    riskLevel := .Low
    decisions := [] }

lemma unclassified_basePlan (left right : PlanningDatabase) (c : Collaborators)
    (request : OrchestrationRequest) (principal : Principal) (requestId traceId : String)
    (decision : BudgetDecision) :
    unclassified ((left.orchestrator c).basePlan request principal requestId traceId decision)
      = unclassified
          ((right.orchestrator c).basePlan request principal requestId traceId decision) := by
  simp only [unclassified, Collaborators.basePlan, classify_workloadId,
    classify_complexity left right]

/-- **A foreign row moves the priority and the risk of a plan, and nothing else.** -/
theorem plan_up_to_classification (h : AgreeOn principal.tenantId left right) (c : Collaborators)
    (request : OrchestrationRequest) (requestId traceId : String) :
    ((left.orchestrator c).plan request principal requestId traceId).map unclassified
      = ((right.orchestrator c).plan request principal requestId traceId).map unclassified := by
  have hbase := unclassified_basePlan left right c request principal requestId traceId
  simp only [Collaborators.plan, checkBudget_orchestrator, h.policyFor_eq, h.candidates_eq]
  cases c.evaluateBudget _ with
  | error failure => rfl
  | ok decision =>
      simp only [Fallible.ok_bind]
      by_cases hblock : decision.outcome = .Block
      · simp only [if_pos hblock]
        exact congrArg Except.ok (hbase decision)
      · simp only [if_neg hblock]
        cases (right.orchestrator c).candidates request
            ((right.orchestrator c).policyFor request principal) with
        | error failure => rfl
        | ok found =>
            -- what is routed depends on the base plan up to its classification
            have hrouted : ∀ base policy,
                unclassified (Collaborators.routedPlan base policy found)
                  = unclassified (Collaborators.routedPlan (unclassified base) policy found) :=
              fun _ _ => rfl
            refine congrArg Except.ok ?_
            rw [hrouted, hbase decision, ← hrouted]

/-- Where the workload is the same, so is the plan. -/
lemma plan_eq_of_workload (h : AgreeOn principal.tenantId left right)
    (hworkload : (left.orchestrator c).loadWorkload request
      = (right.orchestrator c).loadWorkload request) :
    (left.orchestrator c).plan request principal requestId traceId
      = (right.orchestrator c).plan request principal requestId traceId := by
  have hclassify : (left.orchestrator c).classify request
      = (right.orchestrator c).classify request := by
    rw [Collaborators.classify, Collaborators.classify, hworkload]
    rfl
  have hbase : ∀ decision, (left.orchestrator c).basePlan request principal requestId traceId
      decision = (right.orchestrator c).basePlan request principal requestId traceId decision := by
    intro decision
    rw [Collaborators.basePlan, Collaborators.basePlan, hclassify]
  simp only [Collaborators.plan, checkBudget_orchestrator, h.policyFor_eq, h.candidates_eq, hbase]

/-! ## Databases with and without a foreign row -/

variable (database)

/-- The database without a workload that is not the tenant's. -/
lemma exists_without {tenantId workloadId : String}
    (hforeign : ∀ row ∈ database.ownWorkloads tenantId, row.id ≠ workloadId) :
    ∃ left, AgreeOn tenantId database left ∧ left.plants = database.plants
      ∧ left.workloads.get workloadId = none := by
  let left : PlanningDatabase :=
    { database with
      workloads := database.workloads.filter fun row => row.id ≠ workloadId
      plantOfWorkload := fun row hrow =>
        database.plantOfWorkload row (List.mem_of_mem_filter hrow) }
  refine ⟨left, ⟨rfl, ?_, rfl, rfl⟩, rfl, ?_⟩
  · show database.ownWorkloads tenantId
      = (database.workloads.rows.filter fun row => row.id ≠ workloadId).filter
          fun row => database.tenantOf row = some tenantId
    rw [List.filter_comm]
    refine (List.filter_eq_self.mpr fun row hrow => ?_).symm
    exact decide_eq_true (hforeign row hrow)
  · refine Table.get_eq_none.mpr fun row hrow => ?_
    exact of_decide_eq_true (List.mem_filter.mp hrow).2

/-- The database with one more workload, in a new plant of another tenant. -/
lemma exists_with_foreign (tenantId : String) (workload : Workload)
    (habsent : database.workloads.get workload.id = none) :
    ∃ right row, AgreeOn tenantId database right
      ∧ right.workloads.get workload.id = some row ∧ row.toWorkload = workload := by
  obtain ⟨plantId, hfresh⟩ :=
    Infinite.exists_notMem_finset (database.plants.rows.map Plant.id).toFinset
  obtain ⟨other, hother⟩ := exists_ne tenantId
  let plant : Plant := ⟨plantId, other⟩
  let row : WorkloadRow := { workload with plantId := plantId }
  have hrow : row.id ∉ database.workloads.rows.map fun row : WorkloadRow => row.id := by
    simpa using Table.get_eq_none.mp habsent
  obtain ⟨plants, hplants⟩ := Table.insert?_succeeds_iff.mpr
    (show plant.id ∉ database.plants.rows.map Plant.id by simpa using hfresh)
  obtain ⟨workloads, hworkloads⟩ := Table.insert?_succeeds_iff.mpr hrow
  have hplantRows := Table.rows_of_insert? hplants
  have hworkloadRows := Table.rows_of_insert? hworkloads
  let right : PlanningDatabase :=
    { database with
      plants := plants
      workloads := workloads
      plantOfWorkload := by
        intro row' hrow'
        rw [hworkloadRows] at hrow'
        rw [hplantRows]
        rcases List.mem_append.mp hrow' with hold | hnew
        · obtain ⟨plant', hplant', hid⟩ := database.plantOfWorkload row' hold
          exact ⟨plant', List.mem_append_left _ hplant', hid⟩
        · refine ⟨plant, List.mem_append_right _ (List.mem_singleton.mpr rfl), ?_⟩
          rw [List.mem_singleton.mp hnew] }
  -- the foreign key keeps the owners of the old workloads as they are
  have howner : ∀ row' ∈ database.workloads.rows, right.tenantOf row' = database.tenantOf row' := by
    intro row' hrow'
    obtain ⟨plant', hplant', hid⟩ := database.plantOfWorkload row' hrow'
    have hget : database.plants.get row'.plantId = some plant' :=
      Table.get_eq_some.mpr ⟨hplant', hid⟩
    have hget' : plants.get row'.plantId = some plant' := Table.get_insert?_of_get hplants hget
    rw [tenantOf, tenantOf, hget]
    exact congrArg (Option.map Plant.tenantId) hget'
  have hstranger : right.tenantOf row ≠ some tenantId := by
    have hget : right.tenantOf row = some other :=
      congrArg (Option.map Plant.tenantId) (Table.get_of_insert? hplants)
    rw [hget]
    exact fun hsame => hother (Option.some.inj hsame)
  refine ⟨right, row, ⟨?_, ?_, rfl, rfl⟩, Table.get_of_insert? hworkloads, rfl⟩
  · show _ = plants.rows.filter fun plant => plant.tenantId = tenantId
    rw [hplantRows, List.filter_append, List.filter_singleton]
    simp [plant, hother]
  · show database.ownWorkloads tenantId
      = workloads.rows.filter fun row => right.tenantOf row = some tenantId
    rw [hworkloadRows, List.filter_append, List.filter_singleton]
    simp only [hstranger, decide_false, cond_false, List.append_nil]
    refine (List.filter_congr fun row' hrow' => ?_).symm
    rw [howner row' hrow']

/-! ## Isolation -/

/-- A workload that is declared critical makes the plan critical. -/
lemma risk_of_critical {workload : Workload} (hrisk : workload.riskLevel = some "CRITICAL")
    (hworkload : (database.orchestrator c).loadWorkload request = some workload) :
    ((database.orchestrator c).classify request).risk = .Critical := by
  have hdeclared : PyString.truthy (some "CRITICAL") = some "CRITICAL"
      ∧ RiskLevel.ofValue (PyString.upper (PyString.strip "CRITICAL")) = some .Critical := by
    decide +kernel
  rw [Collaborators.classify, hworkload]
  simp only [determineRisk, Option.bind_some, hrisk, hdeclared, Option.getD_some]

/-- Without a workload no plan is critical. -/
lemma risk_of_none (hworkload : (database.orchestrator c).loadWorkload request = none) :
    ((database.orchestrator c).classify request).risk ≠ .Critical := by
  rw [Collaborators.classify, hworkload]
  have hundeclared : PyString.truthy none = none := rfl
  simp only [determineRisk, Option.bind_none, hundeclared]
  split
  · decide
  · decide
  · decide
  · decide

/-- A plan is made unless the budget evaluator raises. -/
lemma exists_plan (hbudget : ¬ BudgetRaises c request principal) (requestId traceId : String) :
    ∃ plan, (database.orchestrator c).plan request principal requestId traceId = .ok plan := by
  simp only [Collaborators.plan, checkBudget_orchestrator]
  cases hdecision : c.evaluateBudget _ with
  | error failure => exact absurd ⟨failure, hdecision⟩ hbudget
  | ok decision =>
      rw [Fallible.ok_bind]
      split_ifs
      · exact ⟨_, rfl⟩
      · simp only [Collaborators.candidates, orchestrator, ModelRegistry.service, Fallible.ok_bind]
        split
        · exact ⟨_, rfl⟩
        · exact ⟨_, rfl⟩

/-- **Isolation, exactly.**  Plans depend on the tenant's own rows only exactly where the request
    names no workload or one of the tenant's own, or the budget evaluator raises. -/
theorem plan_isolated_iff (database : PlanningDatabase) (c : Collaborators)
    (request : OrchestrationRequest) (principal : Principal) (requestId traceId : String) :
    database.PlanIsolated c request principal requestId traceId
      ↔ (∀ workloadId, PyString.truthy request.workloadId = some workloadId →
          ∃ row ∈ database.ownWorkloads principal.tenantId, row.id = workloadId)
        ∨ BudgetRaises c request principal := by
  constructor
  · intro hisolated
    by_contra hleak
    obtain ⟨hnamed, hbudget⟩ := not_or.mp hleak
    simp only [not_forall, not_exists, not_and] at hnamed
    obtain ⟨workloadId, hid, hforeign⟩ := hnamed
    obtain ⟨left, hleft, -, hnone⟩ := database.exists_without hforeign
    let workload : Workload :=
      { id := workloadId, workloadType := "supply_chain", riskLevel := some "CRITICAL" }
    obtain ⟨right, row, hright, hrow, hsame⟩ :=
      left.exists_with_foreign principal.tenantId workload hnone
    obtain ⟨plan, hplan⟩ := left.exists_plan hbudget requestId traceId
    have hplan' := (hisolated left right hleft (hleft.trans hright)).symm.trans hplan
    have hleftNone : (left.orchestrator c).loadWorkload request = none := by
      rw [loadWorkload_eq, hid, Option.bind_some, hnone, Option.map_none]
    have hrightSome : (right.orchestrator c).loadWorkload request = some workload := by
      rw [loadWorkload_eq, hid, Option.bind_some, hrow, Option.map_some, hsame]
    have hcritical := right.risk_of_critical rfl hrightSome
    rw [← Collaborators.plan_riskLevel _ hplan'] at hcritical
    rw [Collaborators.plan_riskLevel _ hplan] at hcritical
    exact left.risk_of_none hleftNone hcritical
  · intro hcondition left right hleft hright
    have hagree := hleft.symm.trans hright
    rcases hcondition with hown | ⟨failure, hfailure⟩
    · refine plan_eq_of_workload hagree ?_
      rw [loadWorkload_eq, loadWorkload_eq]
      cases hid : PyString.truthy request.workloadId with
      | none => rfl
      | some workloadId =>
          obtain ⟨row, hrow, hkey⟩ := hown workloadId hid
          -- the tenant's row is in both databases, under its id
          have hget : ∀ other, AgreeOn principal.tenantId database other →
              other.workloads.get workloadId = some row := by
            intro other hother
            rw [hother.workloads] at hrow
            exact Table.get_eq_some.mpr ⟨List.mem_of_mem_filter hrow, hkey⟩
          rw [Option.bind_some, Option.bind_some, hget left hleft, hget right hright]
    · simp only [Collaborators.plan, checkBudget_orchestrator, hfailure, Fallible.error_bind]

end PlanningDatabase

/-! ## A stranger's workload -/

/-- A database whose only tenant is another one than the engineer's. -/
def foreignDatabase (workloads : Table fun row : WorkloadRow => row.id)
    (hplant : ∀ row ∈ workloads.rows, row.plantId = "p9") : PlanningDatabase where
  plants := ⟨[⟨"p9", "t2"⟩], List.nodup_singleton _⟩
  workloads := workloads
  policies := ⟨[], List.nodup_nil⟩
  registry := twoModels
  plantOfWorkload row hrow :=
    ⟨⟨"p9", "t2"⟩, List.mem_singleton.mpr rfl, (hplant row hrow).symm⟩

def emptyWorkloads : PlanningDatabase :=
  foreignDatabase ⟨[], List.nodup_nil⟩ (by simp)

def strangersWorkload : PlanningDatabase :=
  foreignDatabase
    ⟨[{ id := "w9", workloadType := "supply_chain", riskLevel := some "CRITICAL",
        plantId := "p9" }], List.nodup_singleton _⟩ (by simp)

/-- **Another tenant's workload makes a plan critical.** -/
theorem strangers_workload_moves_risk :
    ¬ emptyWorkloads.PlanIsolated smallDeployment
      { supplyChainRequest with workloadId := some "w9" } engineer "r1" "r1" := by
  intro hisolated
  have hagree : PlanningDatabase.AgreeOn engineer.tenantId emptyWorkloads strangersWorkload :=
    ⟨rfl, by decide +kernel, rfl, rfl⟩
  have hsame := hisolated _ _ ⟨rfl, rfl, rfl, rfl⟩ hagree
  have hlow : (((emptyWorkloads.orchestrator smallDeployment).plan
      { supplyChainRequest with workloadId := some "w9" } engineer "r1" "r1").toOption.map
        ExecutionPlan.riskLevel) = some .Low := by
    decide +kernel
  rw [hsame] at hlow
  exact absurd hlow (by decide +kernel)

end CostPlatform
