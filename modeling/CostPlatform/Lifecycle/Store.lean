import CostPlatform.Library.Calendar
import CostPlatform.Library.KeyedTable
import CostPlatform.Library.PyString
import Mathlib.Algebra.Order.Field.Rat
import Mathlib.Data.List.MinMax
import Mathlib.Data.Rat.Defs

/-!
# The policy store

The tables the policy lifecycle reads and writes — recommendations, routing policies, workloads
and the audit log — and the repository queries over them.

* The `CHECK` constraints of `routing_policies` are fields of `RoutingPolicy`, so a row that
  violates one cannot be built.
* `getActive` is the orchestrator's lookup, which raises when two rows match.
  `getActive_never_raises_iff` says that it never raises exactly when every routing key has at
  most one `ACTIVE` policy.

Timestamps are numbers of microseconds; money and percentages are rationals.
-/

namespace CostPlatform

open Calendar (Timestamp)

inductive PolicyStatus where
  | Draft
  | PendingApproval
  | Canary
  | Active
  | Superseded
  | RolledBack
  deriving DecidableEq, Repr

inductive PolicyComplexity where
  | Simple
  | Medium
  | Complex
  deriving DecidableEq, Repr

/-- A versioned routing policy. -/
structure RoutingPolicy where
  id : String
  tenantId : String
  workloadType : String
  complexity : PolicyComplexity
  businessPriority : Option String
  selectedModelId : Option String
  selectedAgentId : Option String
  maxContextTokens : Option Int
  maxToolCalls : Option Int
  maxCostPerRequest : Option ℚ
  maxTotalTokensPerRequest : Option Int
  minimumQualityScore : Option ℚ
  riskLevel : Option String
  version : Nat
  status : PolicyStatus
  canaryTrafficPercent : Option ℚ
  reason : Option String
  createdBy : Option String
  approvedBy : Option String
  activatedAt : Option Timestamp
  versionPositive : 1 ≤ version
  canaryTrafficValid : ∀ percent ∈ canaryTrafficPercent, 0 ≤ percent ∧ percent ≤ 100
  deriving DecidableEq

/-- What a routing lookup is keyed by. -/
structure RoutingKey where
  tenantId : String
  workloadType : String
  complexity : PolicyComplexity
  deriving DecidableEq, Repr

def RoutingPolicy.key (policy : RoutingPolicy) : RoutingKey where
  tenantId := policy.tenantId
  workloadType := policy.workloadType
  complexity := policy.complexity

inductive OptimizationStatus where
  | Draft
  | PendingApproval
  | Approved
  | Rejected
  | Applied
  | RolledBack
  deriving DecidableEq, Repr

def OptimizationStatus.value : OptimizationStatus → String
  | .Draft => "DRAFT"
  | .PendingApproval => "PENDING_APPROVAL"
  | .Approved => "APPROVED"
  | .Rejected => "REJECTED"
  | .Applied => "APPLIED"
  | .RolledBack => "ROLLED_BACK"

inductive OptimizationRiskLevel where
  | Low
  | Medium
  | High
  | Critical
  deriving DecidableEq, Repr

def OptimizationRiskLevel.value : OptimizationRiskLevel → String
  | .Low => "LOW"
  | .Medium => "MEDIUM"
  | .High => "HIGH"
  | .Critical => "CRITICAL"

/-- A row of `optimization_recommendations`. -/
structure OptimizationRecommendation where
  id : String
  tenantId : String
  workloadId : Option String
  currentStrategy : Option String
  recommendedStrategy : Option String
  estimatedSaving : Option ℚ
  estimatedSavingPercent : Option ℚ
  qualityImpactPercent : Option ℚ
  latencyImpactPercent : Option ℚ
  riskLevel : Option OptimizationRiskLevel
  recommendationReason : Option String
  status : OptimizationStatus
  appliedPolicyId : Option String
  supersededPolicyId : Option String
  createdAt : Option Timestamp
  approvedAt : Option Timestamp
  appliedAt : Option Timestamp
  rolledBackAt : Option Timestamp
  approvedBy : Option String
  deriving DecidableEq, Repr

structure Workload where
  id : String
  workloadType : String
  businessPriority : Option String := none
  riskLevel : Option String := none
  deriving DecidableEq, Repr

inductive AuditAction where
  | OptimizationApproved
  | OptimizationRejected
  | OptimizationApplied
  | OptimizationRolledBack
  deriving DecidableEq, Repr

/-- One audit record of the lifecycle. -/
structure AuditEvent where
  action : AuditAction
  tenantId : String
  resourceType : String
  resourceId : String
  userId : Option String
  afterStatus : OptimizationStatus
  afterRiskLevel : Option OptimizationRiskLevel
  reason : Option String
  deriving DecidableEq, Repr

abbrev PolicyTable := Table RoutingPolicy.id

abbrev RecommendationTable := Table OptimizationRecommendation.id

structure Store where
  recommendations : RecommendationTable
  policies : PolicyTable
  workloads : Table Workload.id
  audit : List AuditEvent

/-! ## Queries -/

/-- More than one row where the query allows at most one. -/
inductive QueryError where
  | MultipleResultsFound
  deriving DecidableEq, Repr

/-- The rows the orchestrator's lookup selects. -/
def activeRows (policies : PolicyTable) (key : RoutingKey) : List RoutingPolicy :=
  policies.rows.filter fun policy => policy.key = key ∧ policy.status = .Active

/-- `RoutingPolicyRepository.get_active`, which reads with `scalar_one_or_none`. -/
def getActive (policies : PolicyTable) (key : RoutingKey) :
    Except QueryError (Option RoutingPolicy) :=
  match activeRows policies key with
  | [] => .ok none
  | [policy] => .ok (some policy)
  | _ => .error .MultipleResultsFound

/-- `RoutingPolicyRepository.get_active_policy`: among the ACTIVE and CANARY rows of the key, the
    first one of the highest version. -/
def getActivePolicy (policies : PolicyTable) (key : RoutingKey) : Option RoutingPolicy :=
  (policies.rows.filter fun policy =>
    policy.key = key ∧ (policy.status = .Active ∨ policy.status = .Canary)).argmax
      RoutingPolicy.version

/-- Highest version number for a workload, over every complexity. -/
def getLatestVersionNumber (policies : PolicyTable) (workloadType tenantId : String) : Nat :=
  ((policies.rows.filter fun policy =>
    policy.workloadType = workloadType ∧ policy.tenantId = tenantId).map
      RoutingPolicy.version).foldl max 0

/-- Update the status column only. -/
def setStatus (policies : PolicyTable) (policyId : String) (status : PolicyStatus) :
    PolicyTable :=
  policies.modify policyId (fun policy => { policy with status := status }) fun _ => rfl

lemma mem_activeRows {policies : PolicyTable} {key : RoutingKey} {policy : RoutingPolicy} :
    policy ∈ activeRows policies key
      ↔ policy ∈ policies.rows ∧ policy.key = key ∧ policy.status = .Active := by
  simp [activeRows]

lemma mem_of_getActivePolicy {policies : PolicyTable} {key : RoutingKey}
    {policy : RoutingPolicy} (h : getActivePolicy policies key = some policy) :
    policy ∈ policies.rows ∧ policy.key = key
      ∧ (policy.status = .Active ∨ policy.status = .Canary) := by
  simpa using List.argmax_mem h

/-- No live policy of the key has a higher version than the selected one. -/
lemma version_le_of_getActivePolicy {policies : PolicyTable} {key : RoutingKey}
    {policy other : RoutingPolicy} (h : getActivePolicy policies key = some policy)
    (hmem : other ∈ policies.rows) (hkey : other.key = key)
    (hlive : other.status = .Active ∨ other.status = .Canary) :
    other.version ≤ policy.version :=
  List.le_of_mem_argmax (f := RoutingPolicy.version) (by simp [hmem, hkey, hlive]) h

lemma mem_setStatus {policies : PolicyTable} {policyId : String} {status : PolicyStatus}
    {policy : RoutingPolicy} :
    policy ∈ (setStatus policies policyId status).rows
      ↔ (∃ old ∈ policies.rows, old.id = policyId ∧ { old with status := status } = policy)
          ∨ (policy ∈ policies.rows ∧ policy.id ≠ policyId) :=
  Table.mem_modify

/-! ## At most one active policy per key -/

/-- Every routing key has at most one ACTIVE policy. -/
def UniqueActive (policies : PolicyTable) : Prop :=
  ∀ p ∈ policies.rows, ∀ q ∈ policies.rows,
    p.status = .Active → q.status = .Active → p.key = q.key → p.id = q.id

instance (policies : PolicyTable) : Decidable (UniqueActive policies) :=
  inferInstanceAs (Decidable (∀ p ∈ policies.rows, ∀ q ∈ policies.rows,
    p.status = .Active → q.status = .Active → p.key = q.key → p.id = q.id))

lemma nodup_activeRows (policies : PolicyTable) (key : RoutingKey) :
    ((activeRows policies key).map RoutingPolicy.id).Nodup :=
  policies.nodup.sublist (List.filter_sublist.map RoutingPolicy.id)

/-- **What uniqueness is for.**  The orchestrator's lookup never raises, whatever key it is asked
    for, exactly when every key has at most one ACTIVE policy. -/
theorem getActive_never_raises_iff (policies : PolicyTable) :
    (∀ key, getActive policies key ≠ .error .MultipleResultsFound) ↔ UniqueActive policies := by
  constructor
  · intro h p hp q hq hpActive hqActive hkey
    have hpRow : p ∈ activeRows policies p.key := mem_activeRows.mpr ⟨hp, rfl, hpActive⟩
    have hqRow : q ∈ activeRows policies p.key := mem_activeRows.mpr ⟨hq, hkey.symm, hqActive⟩
    have hraise := h p.key
    simp only [getActive] at hraise
    match hrows : activeRows policies p.key with
    | [] =>
        rw [hrows] at hpRow
        exact absurd hpRow List.not_mem_nil
    | [only] =>
        rw [hrows, List.mem_singleton] at hpRow hqRow
        rw [hpRow, hqRow]
    | _ :: _ :: _ =>
        rw [hrows] at hraise
        exact absurd rfl hraise
  · intro hunique key hraise
    simp only [getActive] at hraise
    match hrows : activeRows policies key with
    | [] =>
        rw [hrows] at hraise
        cases hraise
    | [_] =>
        rw [hrows] at hraise
        cases hraise
    | p :: q :: rest =>
        obtain ⟨hp, hpKey, hpActive⟩ := mem_activeRows.mp (hrows ▸ List.mem_cons_self)
        obtain ⟨hq, hqKey, hqActive⟩ :=
          mem_activeRows.mp (hrows ▸ List.mem_cons_of_mem _ List.mem_cons_self)
        -- two rows of the table would share an id
        have hnodup := nodup_activeRows policies key
        rw [hrows, List.map_cons, List.nodup_cons] at hnodup
        refine hnodup.1 (List.mem_map.mpr ⟨q, List.mem_cons_self, ?_⟩)
        exact (hunique p hp q hq hpActive hqActive (hpKey.trans hqKey.symm)).symm

end CostPlatform
