import CostPlatform.Library.Fallible
import CostPlatform.Library.ThreeValued
import CostPlatform.Security.Authorization

/-!
# Authorized scopes

The other half of authorization: instead of asking whether one loaded record may be touched,
`resolveAuthorizedScope` computes the records a caller may see, as a disjunction of branches, and
`authorizedScopeFilter` turns that into a query predicate.

* An `AuthorizedScope` has at least one branch.  Denial is an error, never an empty scope.
* A client's plant or department filter narrows a scope and never widens it.  The two filters
  differ only in the level of ownership they name, so `narrowedTo` takes the level.

Everything is measured against `reach`, the set the record-level check decides:
`resolveAuthorizedScope_ok` says that a resolved scope covers the part of the reach the client's
filters select, and `resolveAuthorizedScope_forbidden` that a 403 means this part is empty.
-/

namespace CostPlatform

open ThreeValued (Pred)

/-- The two levels below the tenant. -/
inductive Level where
  | Plant
  | Department
  deriving DecidableEq, Repr

/-- The owner of a resource at a level. -/
def ResourceScope.owner (resource : ResourceScope) : Level → Option String
  | .Plant => resource.plantId
  | .Department => resource.departmentId

/-- One branch of an authorized scope: tenant AND plant AND department.  `none` leaves the level
    unconstrained. -/
structure ScopeConstraint where
  tenantId : String
  plantId : Option String
  departmentId : Option String
  deriving DecidableEq, Repr

namespace ScopeConstraint

/-- Would a record with this ownership satisfy the branch? -/
def covers (branch : ScopeConstraint) (resource : ResourceScope) : Bool :=
  resource.tenantId = branch.tenantId
    && (branch.plantId = none || resource.plantId = branch.plantId)
    && (branch.departmentId = none || resource.departmentId = branch.departmentId)

def isTenantWide (branch : ScopeConstraint) : Bool :=
  branch.plantId = none && branch.departmentId = none

/-- What the branch demands at a level. -/
def demands (branch : ScopeConstraint) : Level → Option String
  | .Plant => branch.plantId
  | .Department => branch.departmentId

/-- The branch with one level pinned. -/
def pin (branch : ScopeConstraint) (level : Level) (id : String) : ScopeConstraint :=
  match level with
  | .Plant => { branch with plantId := some id }
  | .Department => { branch with departmentId := some id }

lemma covers_iff {branch : ScopeConstraint} {resource : ResourceScope} :
    branch.covers resource = true
      ↔ resource.tenantId = branch.tenantId
          ∧ ∀ level id, branch.demands level = some id → resource.owner level = some id := by
  simp only [covers, Bool.and_eq_true, Bool.or_eq_true, decide_eq_true_eq, and_assoc]
  refine and_congr_right fun _ => ?_
  constructor
  · rintro ⟨hplant, hdepartment⟩ level id hdemand
    cases level with
    | Plant =>
        rcases hplant with h | h
        · simp [demands, h] at hdemand
        · exact h.trans hdemand
    | Department =>
        rcases hdepartment with h | h
        · simp [demands, h] at hdemand
        · exact h.trans hdemand
  · intro h
    have hplant := h .Plant
    have hdepartment := h .Department
    simp only [demands, ResourceScope.owner] at hplant hdepartment
    constructor
    · cases hp : branch.plantId with
      | none => exact Or.inl rfl
      | some id => exact Or.inr (hplant id hp)
    · cases hd : branch.departmentId with
      | none => exact Or.inl rfl
      | some id => exact Or.inr (hdepartment id hd)

@[simp] lemma pin_tenantId (branch : ScopeConstraint) (level : Level) (id : String) :
    (branch.pin level id).tenantId = branch.tenantId := by
  cases level <;> rfl

@[simp] lemma demands_pin (branch : ScopeConstraint) (level level' : Level) (id : String) :
    (branch.pin level id).demands level'
      = if level' = level then some id else branch.demands level' := by
  cases level <;> cases level' <;> rfl

/-- Pinning an unconstrained level adds exactly that demand. -/
lemma covers_pin {branch : ScopeConstraint} {level : Level} {id : String}
    {resource : ResourceScope} (hfree : branch.demands level = none) :
    (branch.pin level id).covers resource = true
      ↔ branch.covers resource = true ∧ resource.owner level = some id := by
  simp only [covers_iff, pin_tenantId, demands_pin]
  constructor
  · rintro ⟨htenant, h⟩
    refine ⟨⟨htenant, fun level' id' hdemand => ?_⟩, h level id (if_pos rfl)⟩
    by_cases hlevel : level' = level
    · subst hlevel
      simp [hfree] at hdemand
    · exact h level' id' (by rw [if_neg hlevel]; exact hdemand)
  · rintro ⟨⟨htenant, h⟩, howner⟩
    refine ⟨htenant, fun level' id' hdemand => ?_⟩
    split_ifs at hdemand with hlevel
    · subst hlevel
      rw [howner, ← hdemand]
    · exact h level' id' hdemand

end ScopeConstraint

/-- The rows a caller may see. -/
structure AuthorizedScope where
  tenantId : String
  branches : List ScopeConstraint
  nonempty : branches ≠ []

namespace AuthorizedScope

/-- Would a row with this ownership survive the filter? -/
def covers (scope : AuthorizedScope) (resource : ResourceScope) : Bool :=
  scope.branches.any fun branch => branch.covers resource

def isTenantWide (scope : AuthorizedScope) : Bool :=
  scope.branches.any ScopeConstraint.isTenantWide

/-- Every branch is a branch of the scope's own tenant. -/
def OwnTenant (scope : AuthorizedScope) : Prop :=
  ∀ branch ∈ scope.branches, branch.tenantId = scope.tenantId

lemma covers_iff {scope : AuthorizedScope} {resource : ResourceScope} :
    scope.covers resource = true
      ↔ ∃ branch ∈ scope.branches, branch.covers resource = true := by
  simp [covers]

/-- What a client filter leaves of one branch. -/
def narrowBranch (level : Level) (id : String) (branch : ScopeConstraint) :
    Option ScopeConstraint :=
  if branch.demands level = none then some (branch.pin level id)
  else if branch.demands level = some id then some branch
  -- a branch pinned elsewhere cannot satisfy the filter
  else none

/-- Apply a client-supplied filter. -/
def narrowedTo (level : Level) (scope : AuthorizedScope) (id : String) :
    Except AuthError AuthorizedScope :=
  if h : scope.branches.filterMap (narrowBranch level id) = [] then .error .Forbidden
  else .ok ⟨scope.tenantId, scope.branches.filterMap (narrowBranch level id), h⟩

def narrowedToPlant := narrowedTo .Plant

def narrowedToDepartment := narrowedTo .Department

lemma narrowBranch_eq_some {level : Level} {id : String} {branch branch' : ScopeConstraint} :
    narrowBranch level id branch = some branch'
      ↔ (branch.demands level = none ∧ branch' = branch.pin level id)
          ∨ (branch.demands level = some id ∧ branch' = branch) := by
  simp only [narrowBranch]
  split_ifs with hnone hid
  · simp [hnone, eq_comm]
  · simp [hid, eq_comm]
  · simp [hnone, hid]

/-- The branches a filter leaves cover what the old branches covered, at the named owner. -/
lemma exists_narrowed_iff {level : Level} {scope : AuthorizedScope} {id : String}
    {resource : ResourceScope} :
    (∃ branch ∈ scope.branches.filterMap (narrowBranch level id), branch.covers resource = true)
      ↔ scope.covers resource = true ∧ resource.owner level = some id := by
  simp only [List.mem_filterMap, narrowBranch_eq_some, covers_iff]
  constructor
  · rintro ⟨_, ⟨branch, hmem, ⟨hfree, rfl⟩ | ⟨hpinned, rfl⟩⟩, hcovers⟩
    · obtain ⟨hbranch, howner⟩ := (ScopeConstraint.covers_pin hfree).mp hcovers
      exact ⟨⟨branch, hmem, hbranch⟩, howner⟩
    · exact ⟨⟨_, hmem, hcovers⟩, (ScopeConstraint.covers_iff.mp hcovers).2 level id hpinned⟩
  · rintro ⟨⟨branch, hmem, hcovers⟩, howner⟩
    cases hdemand : branch.demands level with
    | none =>
        exact ⟨_, ⟨branch, hmem, Or.inl ⟨hdemand, rfl⟩⟩,
          (ScopeConstraint.covers_pin hdemand).mpr ⟨hcovers, howner⟩⟩
    | some id' =>
        have hsame : some id' = some id :=
          ((ScopeConstraint.covers_iff.mp hcovers).2 level id' hdemand).symm.trans howner
        exact ⟨_, ⟨branch, hmem, Or.inr ⟨hdemand.trans hsame, rfl⟩⟩, hcovers⟩

theorem narrowedTo_ok {level : Level} {scope scope' : AuthorizedScope} {id : String}
    (h : narrowedTo level scope id = .ok scope') (resource : ResourceScope) :
    scope'.covers resource = true
      ↔ scope.covers resource = true ∧ resource.owner level = some id := by
  simp only [narrowedTo] at h
  split_ifs at h with hempty
  obtain rfl := Except.ok.inj h
  rw [covers_iff, exists_narrowed_iff]

theorem narrowedTo_error {level : Level} {scope : AuthorizedScope} {id : String}
    {e : AuthError} (h : narrowedTo level scope id = .error e) :
    e = .Forbidden
      ∧ ∀ resource, scope.covers resource = true → resource.owner level ≠ some id := by
  simp only [narrowedTo] at h
  split_ifs at h with hempty
  refine ⟨(Except.error.inj h).symm, fun resource hcovers howner => ?_⟩
  obtain ⟨branch, hmem, -⟩ := exists_narrowed_iff.mpr ⟨hcovers, howner⟩
  rw [hempty] at hmem
  exact absurd hmem List.not_mem_nil

lemma narrowedTo_ownTenant {level : Level} {scope scope' : AuthorizedScope} {id : String}
    (h : narrowedTo level scope id = .ok scope') (hown : scope.OwnTenant) :
    scope'.tenantId = scope.tenantId ∧ scope'.OwnTenant := by
  simp only [narrowedTo] at h
  split_ifs at h with hempty
  obtain rfl := Except.ok.inj h
  refine ⟨rfl, fun branch' hmem => ?_⟩
  obtain ⟨branch, hbranch, hnarrow⟩ := List.mem_filterMap.mp hmem
  rcases narrowBranch_eq_some.mp hnarrow with ⟨-, rfl⟩ | ⟨-, rfl⟩
  · rw [ScopeConstraint.pin_tenantId]
    exact hown branch hbranch
  · exact hown _ hbranch

end AuthorizedScope

end CostPlatform
