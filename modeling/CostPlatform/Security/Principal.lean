import Mathlib.Data.Finset.Union
import Mathlib.Tactic.Lemma

/-!
# Principals, roles and permissions

The authenticated caller, the scoped role assignments it carries, and the grant table from roles
to permissions.

Every assignment is held at one scope: the tenant, one plant or one department.  Holding a
permission *at all* (`hasPermission`) and holding it *over a record* are different questions; the
bridge between them is `assignmentsGranting`, the assignments whose role grants the permission.
`hasPermission_iff` says that the first question is whether that list is non-empty.
-/

namespace CostPlatform

inductive Role where
  | Admin
  | FinopsManager
  | AiEngineer
  | PlantManager
  | Analyst
  | Viewer
  deriving DecidableEq, Repr

inductive ScopeType where
  | Tenant
  | Plant
  | Department
  deriving DecidableEq, Repr

/-- One role held at one scope. -/
structure RoleAssignment where
  role : Role
  scopeType : ScopeType
  scopeId : String
  deriving DecidableEq, Repr

/-- Ownership of the resource being accessed.  The plant and the department are absent on a
    tenant-wide resource, and `NULL` in its row. -/
structure ResourceScope where
  tenantId : String
  plantId : Option String
  departmentId : Option String
  deriving DecidableEq, Repr

/-- The authenticated caller. -/
structure Principal where
  subject : String
  tenantId : String
  assignments : List RoleAssignment
  deriving DecidableEq, Repr

inductive Permission where
  | AiExecute
  | CostRead
  | BudgetRead
  | BudgetManage
  | ForecastRead
  | AnomalyRead
  | OptimizationRead
  | OptimizationAnalyze
  | OptimizationApprove
  | OptimizationApply
  | ModelRead
  | ModelManage
  | WorkloadRead
  | OrganizationRead
  | PolicyRead
  | ApprovalRead
  | ApprovalDecide
  | AuditRead
  deriving DecidableEq, Repr

/-- The enumeration, in the order of the source. -/
def Permission.all : List Permission :=
  [.AiExecute, .CostRead, .BudgetRead, .BudgetManage, .ForecastRead, .AnomalyRead,
    .OptimizationRead, .OptimizationAnalyze, .OptimizationApprove, .OptimizationApply,
    .ModelRead, .ModelManage, .WorkloadRead, .OrganizationRead, .PolicyRead, .ApprovalRead,
    .ApprovalDecide, .AuditRead]

/-! ## The grant table -/

/-- Read-only visibility, shared by every role. -/
def readOnly : Finset Permission :=
  {.CostRead, .BudgetRead, .ForecastRead, .AnomalyRead, .OptimizationRead, .ModelRead,
    .WorkloadRead, .OrganizationRead, .PolicyRead}

/-- `ROLE_PERMISSIONS`.  `ADMIN` holds every permission; no other role both approves an
    optimization and applies it. -/
def rolePermissions : Role → Finset Permission
  | .Admin => Permission.all.toFinset
  | .FinopsManager =>
      readOnly ∪ {.BudgetManage, .OptimizationAnalyze, .OptimizationApprove, .ApprovalRead,
        .ApprovalDecide, .AuditRead}
  | .AiEngineer =>
      readOnly ∪ {.AiExecute, .ModelManage, .OptimizationAnalyze, .OptimizationApply,
        .ApprovalRead}
  | .PlantManager => readOnly ∪ {.AiExecute, .ApprovalRead, .ApprovalDecide}
  | .Analyst => readOnly ∪ {.OptimizationAnalyze, .ApprovalRead}
  | .Viewer => readOnly

/-- Union of the permissions granted by the roles. -/
def permissionsFor (roles : Finset Role) : Finset Permission := roles.biUnion rolePermissions

/-- **Separation of duties.**  Only `ADMIN` may both approve and apply. -/
theorem approve_and_apply_is_admin (role : Role)
    (happrove : .OptimizationApprove ∈ rolePermissions role)
    (happly : .OptimizationApply ∈ rolePermissions role) : role = .Admin := by
  cases role <;> revert happrove happly <;> decide

/-- The read-only permissions are the ones every role holds. -/
theorem mem_readOnly_iff (permission : Permission) :
    permission ∈ readOnly ↔ ∀ role, permission ∈ rolePermissions role := by
  constructor
  · intro h role
    cases role with
    | Admin => cases permission <;> decide
    | _ => simp [rolePermissions, h]
  · intro h
    exact h .Viewer

/-! ## What a principal holds -/

def Principal.roles (principal : Principal) : Finset Role :=
  (principal.assignments.map RoleAssignment.role).toFinset

/-- Does the caller hold any of these roles, at any scope? -/
def Principal.hasRole (principal : Principal) (roles : Finset Role) : Bool :=
  decide (principal.roles ∩ roles).Nonempty

def principalPermissions (principal : Principal) : Finset Permission :=
  permissionsFor principal.roles

/-- Endpoint-level test. -/
def hasPermission (principal : Principal) (permission : Permission) : Bool :=
  decide (permission ∈ principalPermissions principal)

/-- The assignments whose role grants the permission. -/
def assignmentsGranting (principal : Principal) (permission : Permission) :
    List RoleAssignment :=
  principal.assignments.filter fun assignment => permission ∈ rolePermissions assignment.role

@[simp] lemma mem_assignmentsGranting {principal : Principal} {permission : Permission}
    {assignment : RoleAssignment} :
    assignment ∈ assignmentsGranting principal permission
      ↔ assignment ∈ principal.assignments
          ∧ permission ∈ rolePermissions assignment.role := by
  simp [assignmentsGranting]

theorem hasPermission_iff {principal : Principal} {permission : Permission} :
    hasPermission principal permission = true
      ↔ assignmentsGranting principal permission ≠ [] := by
  rw [hasPermission, decide_eq_true_iff]
  simp only [principalPermissions, permissionsFor, Principal.roles, Finset.mem_biUnion,
    List.mem_toFinset, List.mem_map]
  constructor
  · rintro ⟨_, ⟨assignment, hmem, rfl⟩, hgrant⟩
    exact List.ne_nil_of_mem (mem_assignmentsGranting.mpr ⟨hmem, hgrant⟩)
  · intro hne
    obtain ⟨assignment, h⟩ := List.exists_mem_of_ne_nil _ hne
    obtain ⟨hmem, hgrant⟩ := mem_assignmentsGranting.mp h
    exact ⟨_, ⟨assignment, hmem, rfl⟩, hgrant⟩

end CostPlatform
