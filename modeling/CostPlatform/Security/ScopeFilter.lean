import CostPlatform.Security.Scope

/-!
# Resolving a scope, and querying with it

`resolveAuthorizedScope` builds the branches from the granting assignments alone and then lets
the client's filters narrow them.  `authorizedScopeFilter` is the predicate a repository puts in
its `WHERE` clause, evaluated in SQL's three-valued logic.

The four pieces that speak about authorization — the resolution, `AuthorizedScope.covers`, the
query predicate and the record-level check — are all characterised by `reach`, which is how
`query_agrees_with_record_check` compares them.
-/

namespace CostPlatform

open ThreeValued (Pred)

/-! ## Resolution -/

/-- The branch one granting assignment contributes.  A tenant assignment naming another tenant
    contributes none. -/
def grantBranch (tenantId : String) (assignment : RoleAssignment) : Option ScopeConstraint :=
  match assignment.scopeType with
  | .Tenant => if assignment.scopeId = tenantId then some ⟨tenantId, none, none⟩ else none
  | .Plant => some ⟨tenantId, some assignment.scopeId, none⟩
  | .Department => some ⟨tenantId, none, some assignment.scopeId⟩

/-- A tenant-wide branch subsumes the others. -/
def subsume (tenantId : String) (branches : List ScopeConstraint) : List ScopeConstraint :=
  if branches.any ScopeConstraint.isTenantWide then [⟨tenantId, none, none⟩] else branches

lemma subsume_ne_nil (tenantId : String) {branches : List ScopeConstraint}
    (h : branches ≠ []) : subsume tenantId branches ≠ [] := by
  simp only [subsume]
  split_ifs
  · simp
  · exact h

/-- The scope the granting assignments amount to, before any client filter. -/
def AuthorizedScope.ofBranches (tenantId : String) (branches : List ScopeConstraint)
    (h : branches ≠ []) : AuthorizedScope where
  tenantId := tenantId
  branches := (subsume tenantId branches).eraseDups
  nonempty := by
    obtain ⟨branch, hmem⟩ := List.exists_mem_of_ne_nil _ (subsume_ne_nil tenantId h)
    exact List.ne_nil_of_mem (List.mem_eraseDups.mpr hmem)

/-- A filter the client did not send narrows nothing. -/
def narrowedToRequested (level : Level) (scope : AuthorizedScope) (requested : Option String) :
    Except AuthError AuthorizedScope :=
  match requested with
  | none => .ok scope
  | some id => AuthorizedScope.narrowedTo level scope id

/-- The query parameters by which a client asks for less than it may see. -/
structure ScopeRequest where
  tenantId : Option String
  plantId : Option String
  departmentId : Option String
  deriving DecidableEq, Repr

def requireRequestedTenant (principal : Principal) (requested : Option String) :
    Except AuthError Unit :=
  match requested with
  | none => .ok ()
  | some tenantId => requireTenant principal tenantId

def resolveAuthorizedScope (principal : Principal) (permission : Permission)
    (request : ScopeRequest) : Except AuthError AuthorizedScope := do
  requireRequestedTenant principal request.tenantId
  let grants := assignmentsGranting principal permission
  if grants = [] then
    throw .Forbidden
  else
    let branches := grants.filterMap (grantBranch principal.tenantId)
    if h : branches = [] then
      throw .Forbidden
    else
      let scope := AuthorizedScope.ofBranches principal.tenantId branches h
      let scope ← narrowedToRequested .Plant scope request.plantId
      narrowedToRequested .Department scope request.departmentId

/-! ## The query predicate -/

/-- Ownership columns of a table.  The comparison is against whatever the row holds, `NULL`
    included. -/
structure OwnershipColumns (ρ : Type*) where
  tenantColumn : ρ → Option String
  plantColumn : ρ → Option String
  departmentColumn : ρ → Option String

/-- The conditions of one branch below the tenant. -/
def branchConditions {ρ : Type*} (columns : OwnershipColumns ρ) (branch : ScopeConstraint) :
    List (Pred ρ) :=
  (branch.plantId.map (Pred.eq columns.plantColumn)).toList
    ++ (branch.departmentId.map (Pred.eq columns.departmentColumn)).toList

/-- The branch predicates, or nothing once a branch has no conditions of its own. -/
def branchPredicates {ρ : Type*} (columns : OwnershipColumns ρ) :
    List ScopeConstraint → Option (List (Pred ρ))
  | [] => some []
  | branch :: branches =>
      match branchConditions columns branch with
      | [] => none
      | condition :: conditions =>
          (branchPredicates columns branches).map (conditions.foldl Pred.and condition :: ·)

def authorizedScopeFilter {ρ : Type*} (scope : AuthorizedScope) (columns : OwnershipColumns ρ) :
    Pred ρ :=
  let tenant := Pred.eq columns.tenantColumn scope.tenantId
  match branchPredicates columns scope.branches with
  | none => tenant
  | some predicates => Pred.and tenant (Pred.any predicates)

/-! ## What a resolved scope covers -/

/-- The rows a client asked for. -/
def ScopeRequest.matches (request : ScopeRequest) (resource : ResourceScope) : Prop :=
  (∀ id, request.tenantId = some id → resource.tenantId = id)
    ∧ (∀ id, request.plantId = some id → resource.plantId = some id)
    ∧ (∀ id, request.departmentId = some id → resource.departmentId = some id)

lemma grantBranch_tenantId {tenantId : String} {assignment : RoleAssignment}
    {branch : ScopeConstraint} (h : grantBranch tenantId assignment = some branch) :
    branch.tenantId = tenantId := by
  simp only [grantBranch] at h
  split at h
  · split_ifs at h
    rw [← Option.some.inj h]
  · rw [← Option.some.inj h]
  · rw [← Option.some.inj h]

/-- Inside the principal's tenant, a branch covers what its assignment covers. -/
lemma grantBranch_covers {tenantId : String} {assignment : RoleAssignment}
    {resource : ResourceScope} :
    (∃ branch, grantBranch tenantId assignment = some branch ∧ branch.covers resource = true)
      ↔ resource.tenantId = tenantId ∧ assignmentCovers assignment resource = true := by
  simp only [grantBranch, assignmentCovers]
  cases assignment.scopeType with
  | Tenant =>
      by_cases h : assignment.scopeId = tenantId
      · subst h
        simp only [if_true, Option.some.injEq, exists_eq_left', ScopeConstraint.covers]
        simpa using fun htenant => htenant.symm
      · simp only [h, if_false, decide_eq_true_eq]
        constructor
        · rintro ⟨_, hnone, -⟩
          cases hnone
        · rintro ⟨htenant, hscope⟩
          exact absurd (hscope.trans htenant) h
  | Plant => simp [ScopeConstraint.covers]
  | Department => simp [ScopeConstraint.covers]

lemma exists_grantBranch_iff {tenantId : String} {grants : List RoleAssignment}
    {resource : ResourceScope} :
    (∃ branch ∈ grants.filterMap (grantBranch tenantId), branch.covers resource = true)
      ↔ resource.tenantId = tenantId
          ∧ ∃ a ∈ grants, assignmentCovers a resource = true := by
  simp only [List.mem_filterMap]
  constructor
  · rintro ⟨branch, ⟨a, ha, hbranch⟩, hcovers⟩
    obtain ⟨htenant, hcovered⟩ := grantBranch_covers.mp ⟨branch, hbranch, hcovers⟩
    exact ⟨htenant, a, ha, hcovered⟩
  · rintro ⟨htenant, a, ha, hcovered⟩
    obtain ⟨branch, hbranch, hcovers⟩ := grantBranch_covers.mpr ⟨htenant, hcovered⟩
    exact ⟨branch, ⟨a, ha, hbranch⟩, hcovers⟩

/-- Dropping what a tenant-wide branch subsumes loses no row. -/
lemma exists_subsume_iff {tenantId : String} {branches : List ScopeConstraint}
    {resource : ResourceScope} (hown : ∀ branch ∈ branches, branch.tenantId = tenantId) :
    (∃ branch ∈ subsume tenantId branches, branch.covers resource = true)
      ↔ ∃ branch ∈ branches, branch.covers resource = true := by
  simp only [subsume]
  split_ifs with hwide
  · obtain ⟨wide, hmem, hnone⟩ := List.any_eq_true.mp hwide
    simp only [ScopeConstraint.isTenantWide, Bool.and_eq_true, decide_eq_true_eq] at hnone
    constructor
    · rintro ⟨branch, hbranch, hcovers⟩
      obtain rfl := List.mem_singleton.mp hbranch
      refine ⟨wide, hmem, ?_⟩
      simpa [ScopeConstraint.covers, hnone, hown wide hmem] using hcovers
    · rintro ⟨branch, hbranch, hcovers⟩
      refine ⟨⟨tenantId, none, none⟩, List.mem_singleton_self _, ?_⟩
      have htenant := (ScopeConstraint.covers_iff.mp hcovers).1
      simp [ScopeConstraint.covers, htenant, hown branch hbranch]
  · rfl

lemma mem_subsume_tenantId {tenantId : String} {branches : List ScopeConstraint}
    (hown : ∀ branch ∈ branches, branch.tenantId = tenantId) :
    ∀ branch ∈ subsume tenantId branches, branch.tenantId = tenantId := by
  intro branch hmem
  simp only [subsume] at hmem
  split_ifs at hmem
  · rw [List.mem_singleton.mp hmem]
  · exact hown branch hmem

lemma ofBranches_covers {tenantId : String} {branches : List ScopeConstraint}
    {h : branches ≠ []} {resource : ResourceScope}
    (hown : ∀ branch ∈ branches, branch.tenantId = tenantId) :
    (AuthorizedScope.ofBranches tenantId branches h).covers resource = true
      ↔ ∃ branch ∈ branches, branch.covers resource = true := by
  rw [AuthorizedScope.covers_iff, ← exists_subsume_iff hown]
  simp [AuthorizedScope.ofBranches]

lemma ofBranches_ownTenant {tenantId : String} {branches : List ScopeConstraint}
    {h : branches ≠ []} (hown : ∀ branch ∈ branches, branch.tenantId = tenantId) :
    (AuthorizedScope.ofBranches tenantId branches h).OwnTenant := by
  intro branch hmem
  exact mem_subsume_tenantId hown branch (List.mem_eraseDups.mp hmem)

lemma narrowedToRequested_ok {level : Level} {scope scope' : AuthorizedScope}
    {requested : Option String} (h : narrowedToRequested level scope requested = .ok scope')
    (resource : ResourceScope) :
    scope'.covers resource = true
      ↔ scope.covers resource = true
          ∧ ∀ id, requested = some id → resource.owner level = some id := by
  cases requested with
  | none =>
      obtain rfl := Except.ok.inj h
      simp
  | some id => simpa using AuthorizedScope.narrowedTo_ok h resource

lemma narrowedToRequested_error {level : Level} {scope : AuthorizedScope}
    {requested : Option String} {e : AuthError}
    (h : narrowedToRequested level scope requested = .error e) :
    e = .Forbidden
      ∧ ∀ resource, scope.covers resource = true →
          ¬ ∀ id, requested = some id → resource.owner level = some id := by
  cases requested with
  | none => cases h
  | some id => simpa using AuthorizedScope.narrowedTo_error h

lemma narrowedToRequested_ownTenant {level : Level} {scope scope' : AuthorizedScope}
    {requested : Option String} (h : narrowedToRequested level scope requested = .ok scope')
    (hown : scope.OwnTenant) : scope'.tenantId = scope.tenantId ∧ scope'.OwnTenant := by
  cases requested with
  | none =>
      obtain rfl := Except.ok.inj h
      exact ⟨rfl, hown⟩
  | some id => exact AuthorizedScope.narrowedTo_ownTenant h hown

lemma requireRequestedTenant_eq_ok {principal : Principal} {requested : Option String}
    {u : Unit} :
    requireRequestedTenant principal requested = .ok u
      ↔ ∀ id, requested = some id → id = principal.tenantId := by
  cases requested with
  | none => simp [requireRequestedTenant]
  | some id => simp [requireRequestedTenant, requireTenant_eq_ok]

/-- The branches of the grants, where there are any. -/
def grantScope (principal : Principal) (permission : Permission)
    (h : (assignmentsGranting principal permission).filterMap (grantBranch principal.tenantId)
      ≠ []) : AuthorizedScope :=
  AuthorizedScope.ofBranches principal.tenantId _ h

lemma grantScope_covers {principal : Principal} {permission : Permission}
    {h : (assignmentsGranting principal permission).filterMap (grantBranch principal.tenantId)
      ≠ []} {resource : ResourceScope} :
    (grantScope principal permission h).covers resource = true
      ↔ resource ∈ reach principal permission := by
  rw [grantScope, ofBranches_covers, exists_grantBranch_iff]
  · rfl
  · intro branch hmem
    obtain ⟨_, _, hbranch⟩ := List.mem_filterMap.mp hmem
    exact grantBranch_tenantId hbranch

/-- The resolution, with its three stages laid out. -/
lemma resolve_eq_ok {principal : Principal} {permission : Permission} {request : ScopeRequest}
    {scope : AuthorizedScope} :
    resolveAuthorizedScope principal permission request = .ok scope
      ↔ (∀ id, request.tenantId = some id → id = principal.tenantId)
          ∧ ∃ (h : _) (narrowed : AuthorizedScope),
            narrowedToRequested .Plant (grantScope principal permission h) request.plantId
                = .ok narrowed
              ∧ narrowedToRequested .Department narrowed request.departmentId = .ok scope := by
  simp only [resolveAuthorizedScope]
  rw [Fallible.bind_eq_ok]
  simp only [requireRequestedTenant_eq_ok, exists_and_left]
  refine and_congr_right fun _ => ?_
  by_cases hgrants : assignmentsGranting principal permission = []
  · simp [hgrants]
  · by_cases hbranches :
      (assignmentsGranting principal permission).filterMap (grantBranch principal.tenantId) = []
    · simp [hgrants, hbranches]
    · simp only [hgrants, hbranches, if_false, dite_false, Fallible.bind_eq_ok, grantScope,
        not_false_eq_true, exists_const, ne_eq, exists_true_left]

/-- **A resolved scope covers the part of the reach the client asked for.** -/
theorem resolveAuthorizedScope_ok {principal : Principal} {permission : Permission}
    {request : ScopeRequest} {scope : AuthorizedScope}
    (h : resolveAuthorizedScope principal permission request = .ok scope)
    (resource : ResourceScope) :
    scope.covers resource = true
      ↔ resource ∈ reach principal permission ∧ request.matches resource := by
  obtain ⟨htenant, hbranches, narrowed, hplant, hdepartment⟩ := resolve_eq_ok.mp h
  rw [narrowedToRequested_ok hdepartment, narrowedToRequested_ok hplant, grantScope_covers]
  constructor
  · rintro ⟨⟨hreach, hp⟩, hd⟩
    exact ⟨hreach, fun id hid => hreach.1.trans (htenant id hid).symm, hp, hd⟩
  · rintro ⟨hreach, -, hp, hd⟩
    exact ⟨⟨hreach, hp⟩, hd⟩

/-- **A 403 hides nothing.**  If the resolution refuses with `Forbidden`, no record is both
    within the caller's reach and among those asked for. -/
theorem resolveAuthorizedScope_forbidden {principal : Principal} {permission : Permission}
    {request : ScopeRequest}
    (h : resolveAuthorizedScope principal permission request = .error .Forbidden)
    {resource : ResourceScope} (hreach : resource ∈ reach principal permission) :
    ¬ request.matches resource := by
  rintro ⟨htenant, hplant, hdepartment⟩
  -- the request names the caller's own tenant, since the record lies in it
  have hok : requireRequestedTenant principal request.tenantId = .ok () :=
    requireRequestedTenant_eq_ok.mpr fun id hid => (htenant id hid).symm.trans hreach.1
  have hbranch := exists_grantBranch_iff.mpr hreach
  obtain ⟨_, a, ha, _⟩ := hreach
  have hgrants : assignmentsGranting principal permission ≠ [] := List.ne_nil_of_mem ha
  obtain ⟨branch, hmem, -⟩ := hbranch
  have hbranches := List.ne_nil_of_mem hmem
  simp only [resolveAuthorizedScope] at h
  rw [hok, Fallible.ok_bind] at h
  simp only [hgrants, hbranches, if_false, dite_false] at h
  have hcovers := (grantScope_covers (h := hbranches)).mpr ⟨‹_›, a, ha, ‹_›⟩
  rcases Fallible.bind_eq_error.mp h with hfail | ⟨narrowed, hnarrowed, hfail⟩
  · exact (narrowedToRequested_error hfail).2 resource hcovers hplant
  · exact (narrowedToRequested_error hfail).2 resource
      ((narrowedToRequested_ok hnarrowed resource).mpr ⟨hcovers, hplant⟩) hdepartment

/-- Past the tenant check no refusal is a 404. -/
lemma resolve_ne_crossTenant {principal : Principal} {permission : Permission}
    {request : ScopeRequest}
    (hok : requireRequestedTenant principal request.tenantId = .ok ()) :
    resolveAuthorizedScope principal permission request ≠ .error .CrossTenant := by
  rw [resolveAuthorizedScope]
  rw [hok, Fallible.ok_bind]
  dsimp only
  split_ifs with hgrants hbranches
  · nofun
  · nofun
  · intro h
    rcases Fallible.bind_eq_error.mp h with hfail | ⟨_, -, hfail⟩
    · cases (narrowedToRequested_error hfail).1
    · cases (narrowedToRequested_error hfail).1

/-- The only other refusal is the 404 of a request for another tenant. -/
theorem resolveAuthorizedScope_crossTenant {principal : Principal} {permission : Permission}
    {request : ScopeRequest} :
    resolveAuthorizedScope principal permission request = .error .CrossTenant
      ↔ ∃ id, request.tenantId = some id ∧ id ≠ principal.tenantId := by
  constructor
  · intro h
    by_contra hsame
    push Not at hsame
    exact resolve_ne_crossTenant (requireRequestedTenant_eq_ok.mpr hsame) h
  · rintro ⟨id, hid, hne⟩
    have hrefused : requireRequestedTenant principal request.tenantId = .error .CrossTenant := by
      rw [hid]
      exact requireTenant_eq_error.mpr ⟨rfl, hne⟩
    simp only [resolveAuthorizedScope]
    rw [hrefused, Fallible.error_bind]

/-! ## What the query predicate selects -/

/-- The ownership a row states.  A row without a tenant belongs to nobody. -/
def OwnershipColumns.resource {ρ : Type*} (columns : OwnershipColumns ρ) (row : ρ) :
    Option ResourceScope :=
  (columns.tenantColumn row).map fun tenantId =>
    ⟨tenantId, columns.plantColumn row, columns.departmentColumn row⟩

section Predicate

variable {ρ : Type*} {columns : OwnershipColumns ρ} {row : ρ}

lemma foldl_and_selects (condition : Pred ρ) (conditions : List (Pred ρ)) :
    (conditions.foldl Pred.and condition).selects row = true
      ↔ ∀ p ∈ condition :: conditions, p.selects row = true := by
  induction conditions generalizing condition with
  | nil => simp
  | cons p ps ih =>
      rw [List.foldl_cons, ih]
      simp [and_assoc]

/-- The conditions of a branch compare the columns it has an id for. -/
lemma branchConditions_select {branch : ScopeConstraint} :
    (∀ p ∈ branchConditions columns branch, p.selects row = true)
      ↔ (∀ id, branch.plantId = some id → columns.plantColumn row = some id)
        ∧ ∀ id, branch.departmentId = some id → columns.departmentColumn row = some id := by
  cases hp : branch.plantId <;> cases hd : branch.departmentId <;>
    simp [branchConditions, hp, hd]

/-- Below the tenant, the conditions of a branch are its demands. -/
lemma branchConditions_select_iff {branch : ScopeConstraint} {resource : ResourceScope}
    (hrow : columns.resource row = some resource) :
    (∀ p ∈ branchConditions columns branch, p.selects row = true)
      ↔ ∀ level id, branch.demands level = some id → resource.owner level = some id := by
  obtain ⟨tenantId, -, rfl⟩ := Option.map_eq_some_iff.mp hrow
  rw [branchConditions_select]
  constructor
  · rintro ⟨hplant, hdepartment⟩ level id hdemand
    cases level with
    | Plant => exact hplant id hdemand
    | Department => exact hdepartment id hdemand
  · intro h
    exact ⟨h .Plant, h .Department⟩

/-- The disjunction over the branches.  When some branch has no conditions the disjunction is
    dropped, and that branch accepts every row of the tenant. -/
lemma branchPredicates_select_iff {branches : List ScopeConstraint} :
    (match branchPredicates columns branches with
      | none => True
      | some predicates => ∃ p ∈ predicates, p.selects row = true)
      ↔ ∃ branch ∈ branches,
          ∀ p ∈ branchConditions columns branch, p.selects row = true := by
  induction branches with
  | nil => simp [branchPredicates]
  | cons branch branches ih =>
      simp only [branchPredicates]
      cases hconditions : branchConditions columns branch with
      | nil => simp [hconditions]
      | cons condition conditions =>
          simp only [List.exists_mem_cons_iff, hconditions, ← ih, ← foldl_and_selects]
          cases branchPredicates columns branches with
          | none => simp
          | some predicates => simp

/-- A row is selected when it is the scope's tenant's and meets the conditions of some branch. -/
lemma authorizedScopeFilter_selects {scope : AuthorizedScope} :
    (authorizedScopeFilter scope columns).selects row = true
      ↔ columns.tenantColumn row = some scope.tenantId
        ∧ ∃ branch ∈ scope.branches,
            ∀ p ∈ branchConditions columns branch, p.selects row = true := by
  rw [← branchPredicates_select_iff]
  simp only [authorizedScopeFilter]
  cases branchPredicates columns scope.branches with
  | none => simp
  | some predicates => simp [ThreeValued.Pred.selects_any]

/-- **The query predicate is `covers`.**  On a row that states an owner, the predicate is true
    exactly when the scope covers that owner. -/
theorem authorizedScopeFilter_selects_iff {scope : AuthorizedScope} {resource : ResourceScope}
    (hown : scope.OwnTenant) (hrow : columns.resource row = some resource) :
    (authorizedScopeFilter scope columns).selects row = true
      ↔ scope.covers resource = true := by
  have htenant : columns.tenantColumn row = some scope.tenantId
      ↔ resource.tenantId = scope.tenantId := by
    obtain ⟨tenantId, htenant, rfl⟩ := Option.map_eq_some_iff.mp hrow
    rw [htenant, Option.some.injEq]
  rw [authorizedScopeFilter_selects, htenant, AuthorizedScope.covers_iff]
  simp only [branchConditions_select_iff hrow]
  constructor
  · rintro ⟨hsame, branch, hmem, hdemands⟩
    exact ⟨branch, hmem, ScopeConstraint.covers_iff.mpr
      ⟨hsame.trans (hown branch hmem).symm, hdemands⟩⟩
  · rintro ⟨branch, hmem, hcovers⟩
    obtain ⟨hsame, hdemands⟩ := ScopeConstraint.covers_iff.mp hcovers
    exact ⟨hsame.trans (hown branch hmem), branch, hmem, hdemands⟩

end Predicate

/-- A resolved scope is a scope of the principal's tenant. -/
lemma resolveAuthorizedScope_ownTenant {principal : Principal} {permission : Permission}
    {request : ScopeRequest} {scope : AuthorizedScope}
    (h : resolveAuthorizedScope principal permission request = .ok scope) :
    scope.tenantId = principal.tenantId ∧ scope.OwnTenant := by
  obtain ⟨-, hbranches, narrowed, hplant, hdepartment⟩ := resolve_eq_ok.mp h
  have hgrants : (grantScope principal permission hbranches).OwnTenant := by
    refine ofBranches_ownTenant fun branch hmem => ?_
    obtain ⟨_, _, hbranch⟩ := List.mem_filterMap.mp hmem
    exact grantBranch_tenantId hbranch
  obtain ⟨htenant, hown⟩ := narrowedToRequested_ownTenant hplant hgrants
  obtain ⟨htenant', hown'⟩ := narrowedToRequested_ownTenant hdepartment hown
  exact ⟨htenant'.trans htenant, hown'⟩

/-! ## The four implementations agree -/

/-- The ownership columns of a resource row. -/
def resourceColumns : OwnershipColumns ResourceScope where
  tenantColumn row := some row.tenantId
  plantColumn row := row.plantId
  departmentColumn row := row.departmentId

/-- Is the row returned by a query filtered with the resolved scope? -/
def queryReturns (principal : Principal) (permission : Permission) (request : ScopeRequest)
    (row : ResourceScope) : Bool :=
  match resolveAuthorizedScope principal permission request with
  | .ok scope => (authorizedScopeFilter scope resourceColumns).selects row
  | .error _ => false

/-- **The query agrees with the record check.**  A row is returned exactly when the resolution
    succeeds with a scope covering it, the record-level check admits it and it is among the rows
    asked for; and a 403 is raised only when no row passes the record-level check and the
    client's filters. -/
theorem query_agrees_with_record_check (principal : Principal) (permission : Permission)
    (request : ScopeRequest) (row : ResourceScope) :
    (queryReturns principal permission request row = true
      ↔ ∃ scope, resolveAuthorizedScope principal permission request = .ok scope
          ∧ scope.covers row = true
          ∧ canAccessResourcePermission principal row permission = true
          ∧ request.matches row)
    ∧ (∀ e, resolveAuthorizedScope principal permission request = .error e →
        e.statusCode = 403 →
        ¬ (canAccessResourcePermission principal row permission = true
            ∧ request.matches row)) := by
  constructor
  · simp only [queryReturns]
    cases hresolve : resolveAuthorizedScope principal permission request with
    | error e => simp
    | ok scope =>
        simp only [Except.ok.injEq, exists_eq_left']
        have hrow : resourceColumns.resource row = some row := rfl
        rw [authorizedScopeFilter_selects_iff (resolveAuthorizedScope_ownTenant hresolve).2 hrow,
          canAccessResourcePermission_iff, resolveAuthorizedScope_ok hresolve row]
        tauto
  · rintro e hresolve hstatus ⟨haccess, hmatches⟩
    cases e with
    | CrossTenant => simp [AuthError.statusCode] at hstatus
    | Forbidden =>
        exact resolveAuthorizedScope_forbidden hresolve
          (canAccessResourcePermission_iff.mp haccess) hmatches

end CostPlatform
