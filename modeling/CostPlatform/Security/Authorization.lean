import CostPlatform.Security.Principal

/-!
# Record-level authorization

`authorizeResourcePermission` decides whether a caller may touch one loaded record: the tenant
first, so that a probe across tenants is a 404 whatever the caller's role, then the permission,
then the scope of the assignments that grant it.

`reach` is what the check is for: the set of records a principal may touch under a permission.
`canAccessResourcePermission_iff` states that the check decides membership in it.
-/

namespace CostPlatform

/-- The two refusals an authorization check raises. -/
inductive AuthError where
  | Forbidden
  | CrossTenant
  deriving DecidableEq, Repr

/-- `ForbiddenError` is a 403; `CrossTenantAccessError` is deliberately a 404. -/
def AuthError.statusCode : AuthError → Nat
  | .Forbidden => 403
  | .CrossTenant => 404

def requireTenant (principal : Principal) (tenantId : String) : Except AuthError Unit :=
  if tenantId ≠ principal.tenantId then .error .CrossTenant else .ok ()

def requirePermission (principal : Principal) (permission : Permission) :
    Except AuthError Unit :=
  if hasPermission principal permission then .ok () else .error .Forbidden

/-- Does this assignment's scope contain the resource? -/
def assignmentCovers (assignment : RoleAssignment) (resource : ResourceScope) : Bool :=
  match assignment.scopeType with
  | .Tenant => assignment.scopeId = resource.tenantId
  | .Plant => resource.plantId = some assignment.scopeId
  | .Department => resource.departmentId = some assignment.scopeId

def authorizeResourcePermission (principal : Principal) (resource : ResourceScope)
    (permission : Permission) : Except AuthError Unit := do
  requireTenant principal resource.tenantId
  requirePermission principal permission
  let candidates := assignmentsGranting principal permission
  if candidates.any fun a => assignmentCovers a resource then
    return ()
  else
    throw .Forbidden

/-- Non-raising form of `authorizeResourcePermission`. -/
def canAccessResourcePermission (principal : Principal) (resource : ResourceScope)
    (permission : Permission) : Bool :=
  (authorizeResourcePermission principal resource permission).toBool

/-! ## The records a principal reaches -/

/-- The records of the principal's tenant that some granting assignment covers. -/
def reach (principal : Principal) (permission : Permission) : Set ResourceScope :=
  {resource | resource.tenantId = principal.tenantId
    ∧ ∃ a ∈ assignmentsGranting principal permission, assignmentCovers a resource = true}

lemma requireTenant_eq_ok {principal : Principal} {tenantId : String} {u : Unit} :
    requireTenant principal tenantId = .ok u ↔ tenantId = principal.tenantId := by
  simp only [requireTenant]
  split_ifs with h
  · simp [h]
  · simpa using h

lemma requireTenant_eq_error {principal : Principal} {tenantId : String} {e : AuthError} :
    requireTenant principal tenantId = .error e
      ↔ e = .CrossTenant ∧ tenantId ≠ principal.tenantId := by
  simp only [requireTenant]
  split_ifs with h
  · simp [h, eq_comm]
  · simp [h]

/-- **The record check decides membership in the reach.** -/
theorem authorizeResourcePermission_eq_ok {principal : Principal} {resource : ResourceScope}
    {permission : Permission} {u : Unit} :
    authorizeResourcePermission principal resource permission = .ok u
      ↔ resource ∈ reach principal permission := by
  simp only [authorizeResourcePermission, requireTenant, requirePermission]
  by_cases htenant : resource.tenantId = principal.tenantId
  · by_cases hperm : hasPermission principal permission = true
    · simp only [htenant, ne_eq, not_true_eq_false, if_false, hperm, if_true, reach,
        Set.mem_ofPred_eq, true_and, bind, Except.bind, ← List.any_eq_true]
      split_ifs with hany
      · simp [hany, pure, Except.pure]
      · simp [hany]
    · -- no granting assignment, so nothing is reached
      have hnone : assignmentsGranting principal permission = [] := by
        by_contra hne
        exact hperm (hasPermission_iff.mpr hne)
      simp [htenant, hperm, reach, hnone, bind, Except.bind]
  · simp [htenant, reach, bind, Except.bind]

theorem canAccessResourcePermission_iff {principal : Principal} {resource : ResourceScope}
    {permission : Permission} :
    canAccessResourcePermission principal resource permission = true
      ↔ resource ∈ reach principal permission := by
  rw [← authorizeResourcePermission_eq_ok (u := ())]
  simp only [canAccessResourcePermission]
  cases authorizeResourcePermission principal resource permission with
  | ok u => simp [Except.toBool]
  | error e => simp [Except.toBool]

/-- A record of another tenant is reported as not found, whatever the caller holds. -/
theorem authorizeResourcePermission_crossTenant {principal : Principal}
    {resource : ResourceScope} (permission : Permission)
    (htenant : resource.tenantId ≠ principal.tenantId) :
    authorizeResourcePermission principal resource permission = .error .CrossTenant := by
  simp [authorizeResourcePermission, requireTenant, htenant, bind, Except.bind]

end CostPlatform
