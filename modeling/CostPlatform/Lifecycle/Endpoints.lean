import CostPlatform.Lifecycle.Service
import CostPlatform.Security.Authorization
import Mathlib.Tactic.NormNum

/-!
# The approve, apply and rollback endpoints

Each endpoint authenticates its caller, calls the service inside one database session and builds
the response inside it too, so that a response that fails its schema takes the session down with
it.  None of them checks a permission or the tenant of the recommendation; the only check is the
role test of `approve_recommendation`, which looks at neither the scope of the role nor the
tenant.

`changesTables_iff` says when a request changes the recommendation or the policy table, and
`changes_only_authorized_iff` compares that with the authorization the permission table asks for.
-/

namespace CostPlatform

open Calendar (Timestamp)

/-! ## Requests and responses -/

inductive Decision where
  | Approved
  | Rejected
  deriving DecidableEq, Repr

/-- Body of `POST /optimization/{id}/approve`. -/
structure ApprovalDecision where
  decision : Decision
  comments : Option String
  deriving DecidableEq, Repr

def ApprovalDecision.approved (body : ApprovalDecision) : Bool := body.decision = .Approved

def ApprovalDecision.reason (body : ApprovalDecision) : String :=
  (PyString.truthy body.comments).getD ""

inductive ActivationMode where
  | Canary
  | Full
  deriving DecidableEq, Repr

def ActivationMode.value : ActivationMode → String
  | .Canary => "CANARY"
  | .Full => "FULL"

/-- Body of `POST /optimization/{id}/apply`, as its schema admits it. -/
structure OptimizationApplyRequest where
  activationMode : ActivationMode
  canaryTrafficPercent : Option ℚ
  reason : String
  percentValid : ∀ p ∈ canaryTrafficPercent, 0 ≤ p ∧ p ≤ 100

/-- What the endpoint assumes when there is no body. -/
def OptimizationApplyRequest.default : OptimizationApplyRequest where
  activationMode := .Canary
  canaryTrafficPercent := some 10
  reason := ""
  percentValid := by
    intro p hp
    obtain rfl := Option.some.inj hp
    norm_num

def OptimizationApplyRequest.activation (body : OptimizationApplyRequest) : Activation where
  activationMode := body.activationMode.value
  canaryTrafficPercent := body.canaryTrafficPercent
  reason := body.reason

/-- `OptimizationRecommendation` of the API schema: most columns may not be null in it. -/
structure RecommendationResponse where
  id : String
  workloadId : String
  currentStrategy : String
  recommendedStrategy : String
  estimatedSaving : ℚ
  estimatedSavingPercent : ℚ
  qualityImpactPercent : ℚ
  latencyImpactPercent : ℚ
  riskLevel : OptimizationRiskLevel
  recommendationReason : String
  status : OptimizationStatus
  provenance : String
  appliedPolicyId : Option String
  supersededPolicyId : Option String
  createdAt : Timestamp
  approvedAt : Option Timestamp
  appliedAt : Option Timestamp
  rolledBackAt : Option Timestamp
  approvedBy : Option String
  deriving DecidableEq, Repr

/-- Schema validation of a row. -/
def recommendationResponse? (row : OptimizationRecommendation) :
    Option RecommendationResponse := do
  let workloadId ← row.workloadId
  let currentStrategy ← row.currentStrategy
  let recommendedStrategy ← row.recommendedStrategy
  let estimatedSaving ← row.estimatedSaving
  let estimatedSavingPercent ← row.estimatedSavingPercent
  let qualityImpactPercent ← row.qualityImpactPercent
  let latencyImpactPercent ← row.latencyImpactPercent
  let riskLevel ← row.riskLevel
  let recommendationReason ← row.recommendationReason
  let createdAt ← row.createdAt
  return {
    id := row.id
    workloadId := workloadId
    currentStrategy := currentStrategy
    recommendedStrategy := recommendedStrategy
    estimatedSaving := estimatedSaving
    estimatedSavingPercent := estimatedSavingPercent
    qualityImpactPercent := qualityImpactPercent
    latencyImpactPercent := latencyImpactPercent
    riskLevel := riskLevel
    recommendationReason := recommendationReason
    status := row.status
    provenance := "ESTIMATED"
    appliedPolicyId := row.appliedPolicyId
    supersededPolicyId := row.supersededPolicyId
    createdAt := createdAt
    approvedAt := row.approvedAt
    appliedAt := row.appliedAt
    rolledBackAt := row.rolledBackAt
    approvedBy := row.approvedBy }

structure OptimizationApplyResult where
  recommendationId : String
  status : String
  appliedPolicyId : String
  appliedPolicyVersion : Nat
  supersededPolicyId : Option String
  activationMode : ActivationMode
  canaryTrafficPercent : Option ℚ
  deriving DecidableEq, Repr

structure OptimizationRollbackResult where
  recommendationId : String
  status : String
  rolledBackPolicyId : String
  reactivatedPolicyId : Option String
  reactivatedPolicyVersion : Option Nat
  deriving DecidableEq, Repr

inductive Response where
  | Recommendation (body : RecommendationResponse)
  | Applied (body : OptimizationApplyResult)
  | RolledBack (body : OptimizationRollbackResult)
  deriving DecidableEq, Repr

/-- A refusal: a status with its detail, or an exception nobody caught. -/
inductive HttpError where
  | Http (statusCode : Nat) (detail : String)
  | Uncaught
  deriving DecidableEq, Repr

/-- How a route maps what the service raises.  An integrity error is not caught. -/
def LifecycleError.toHttp : LifecycleError → HttpError
  | .NotFound message => .Http 404 message
  | .PolicyAuthorization message => .Http 403 message
  | .PolicyConflict message => .Http 409 message
  | .Integrity => .Uncaught

/-! ## The endpoints -/

def approveEndpoint (store : Store) (principal : Principal) (id : String)
    (body : ApprovalDecision) (now : Timestamp) : Except HttpError (Store × Response) := do
  let (store', row) ← (routeService.approveRecommendation store id (some principal)
    body.approved body.reason false now).mapError LifecycleError.toHttp
  let response ← Fallible.demand (recommendationResponse? row) .Uncaught
  return (store', .Recommendation response)

def applyEndpoint (store : Store) (principal : Principal) (id : String)
    (body : Option OptimizationApplyRequest) (newId : String) (now : Timestamp) :
    Except HttpError (Store × Response) := do
  let request := body.getD .default
  let (store', row, policy) ← (routeService.applyPolicy store id (some principal)
    request.activation newId now).mapError LifecycleError.toHttp
  return (store', .Applied {
    recommendationId := row.id
    status := "APPLIED"
    appliedPolicyId := policy.id
    appliedPolicyVersion := policy.version
    supersededPolicyId := row.supersededPolicyId
    activationMode := request.activationMode
    canaryTrafficPercent :=
      if request.activationMode = .Canary then request.canaryTrafficPercent else none })

def rollbackEndpoint (store : Store) (id : String) (now : Timestamp) :
    Except HttpError (Store × Response) := do
  let (store', row, reactivated) ←
    (routeService.rollbackPolicy store id now).mapError LifecycleError.toHttp
  return (store', .RolledBack {
    recommendationId := row.id
    status := "ROLLED_BACK"
    rolledBackPolicyId := (PyString.truthy row.appliedPolicyId).getD ""
    reactivatedPolicyId := reactivated.map RoutingPolicy.id
    reactivatedPolicyVersion := reactivated.map RoutingPolicy.version })

inductive EndpointBody where
  | Approve (body : ApprovalDecision)
  | Apply (body : Option OptimizationApplyRequest) (newId : String)
  | Rollback

/-- One authenticated request to one of the three endpoints. -/
structure EndpointRequest where
  principal : Principal
  recommendationId : String
  now : Timestamp
  body : EndpointBody

def EndpointRequest.handle (request : EndpointRequest) (store : Store) :
    Except HttpError (Store × Response) :=
  match request.body with
  | .Approve body =>
      approveEndpoint store request.principal request.recommendationId body request.now
  | .Apply body newId =>
      applyEndpoint store request.principal request.recommendationId body newId request.now
  | .Rollback => rollbackEndpoint store request.recommendationId request.now

/-- The store after the request: committed, or rolled back with the session. -/
def EndpointRequest.after (request : EndpointRequest) (store : Store) : Store :=
  match request.handle store with
  | .ok (store', _) => store'
  | .error _ => store

/-! ## What a request may change -/

/-- The recommendation and policy tables are as they were. -/
def TablesUnchanged (store store' : Store) : Prop :=
  store'.recommendations = store.recommendations ∧ store'.policies = store.policies

def EndpointRequest.permission (request : EndpointRequest) : Permission :=
  match request.body with
  | .Approve _ => .OptimizationApprove
  | .Apply _ _ => .OptimizationApply
  | .Rollback => .OptimizationApply

/-- The caller belongs to the recommendation's tenant and holds the permission at a scope
    covering it. -/
def EndpointRequest.Authorized (request : EndpointRequest) (store : Store) : Prop :=
  ∃ recommendation, store.recommendations.get request.recommendationId = some recommendation
    ∧ canAccessResourcePermission request.principal ⟨recommendation.tenantId, none, none⟩
        request.permission = true

/-- Every column the response schema wants is there.  The reason is written by a rejection. -/
def Reportable (recommendation : OptimizationRecommendation) (approved : Bool) : Prop :=
  recommendation.workloadId ≠ none ∧ recommendation.currentStrategy ≠ none
    ∧ recommendation.recommendedStrategy ≠ none ∧ recommendation.estimatedSaving ≠ none
    ∧ recommendation.estimatedSavingPercent ≠ none
    ∧ recommendation.qualityImpactPercent ≠ none
    ∧ recommendation.latencyImpactPercent ≠ none ∧ recommendation.riskLevel ≠ none
    ∧ (approved = true → recommendation.recommendationReason ≠ none)
    ∧ recommendation.createdAt ≠ none

/-- The guards the endpoints do have, read off the store the request arrives at. -/
def EndpointRequest.Accepted (request : EndpointRequest) (store : Store) : Prop :=
  ∃ recommendation, store.recommendations.get request.recommendationId = some recommendation
    ∧ match request.body with
      | .Approve body =>
          hasApprovalRole request.principal = true
            ∧ Reportable recommendation body.approved
            -- a repeated approval at the same instant by the same caller writes what is there
            ∧ ¬ (body.approved = true ∧ recommendation.status = .Approved
              ∧ recommendation.approvedAt = some request.now
              ∧ recommendation.approvedBy = some request.principal.subject)
      | .Apply _ newId =>
          recommendation.status = .Approved ∧ validatePolicy recommendation = .ok ()
            ∧ FreshId store.policies newId
      | .Rollback => recommendation.status = .Applied

/-! ## When a request changes something -/

lemma recommendationResponse_isSome {row : OptimizationRecommendation} :
    (∃ response, recommendationResponse? row = some response) ↔ Reportable row true := by
  simp only [recommendationResponse?, Reportable]
  simp only [Option.bind_eq_bind, Option.bind_eq_some_iff, Option.pure_def, Option.some.injEq,
    Option.ne_none_iff_exists', true_imp_iff]
  constructor
  · rintro ⟨_, a, ha, b, hb, c, hc, d, hd, e, he, f, hf, g, hg, h, hh, i, hi, j, hj, -⟩
    exact ⟨⟨a, ha⟩, ⟨b, hb⟩, ⟨c, hc⟩, ⟨d, hd⟩, ⟨e, he⟩, ⟨f, hf⟩, ⟨g, hg⟩, ⟨h, hh⟩, ⟨i, hi⟩,
      ⟨j, hj⟩⟩
  · rintro ⟨⟨a, ha⟩, ⟨b, hb⟩, ⟨c, hc⟩, ⟨d, hd⟩, ⟨e, he⟩, ⟨f, hf⟩, ⟨g, hg⟩, ⟨h, hh⟩, ⟨i, hi⟩,
      ⟨j, hj⟩⟩
    exact ⟨_, a, ha, b, hb, c, hc, d, hd, e, he, f, hf, g, hg, h, hh, i, hi, j, hj, rfl⟩

lemma reportable_decided {row : OptimizationRecommendation} {approver reason : String}
    {approved : Bool} {now : Timestamp} :
    Reportable (decided row approver approved reason now) true ↔ Reportable row approved := by
  cases approved <;> simp [Reportable, decided]

/-- A decision writes what is already there only when it repeats an approval exactly: a
    rejection always lengthens the reason. -/
lemma decided_eq_self_iff {row : OptimizationRecommendation} {approver reason : String}
    {approved : Bool} {now : Timestamp} :
    decided row approver approved reason now = row
      ↔ approved = true ∧ row.status = .Approved ∧ row.approvedAt = some now
          ∧ row.approvedBy = some approver := by
  cases approved with
  | true =>
      constructor
      · intro h
        rw [← h]
        exact ⟨rfl, rfl, rfl, rfl⟩
      · rintro ⟨-, hstatus, hat, hby⟩
        simp only [decided, if_true]
        rw [← hstatus, ← hat, ← hby]
  | false =>
      simp only [Bool.false_eq_true, false_and, iff_false]
      intro h
      have hreason := congrArg OptimizationRecommendation.recommendationReason h
      simp only [decided, Bool.false_eq_true, if_false] at hreason
      have hlength := congrArg (fun r => (formatOptional r).length) hreason
      simp only [formatOptional, Option.getD_some, String.length_append] at hlength
      have hmark : 0 < " [REJECTED: ".length := by decide
      omega

lemma authorizeDecision_route {recommendation : OptimizationRecommendation}
    {principal : Principal} {u : Unit} :
    routeService.authorizeDecision recommendation (some principal) false = .ok u
      ↔ hasApprovalRole principal = true := by
  simp only [PolicyLifecycleService.authorizeDecision, PolicyLifecycleService.canAutoApprove]
  simp only [routeService, Bool.or_self, Bool.false_and, Bool.false_eq_true, if_false]
  split_ifs with hrole <;> simp [hrole]

section Changes

variable {store store' : Store} {principal : Principal} {id : String} {now : Timestamp}
  {response : Response}

/-- What an accepted decision leaves behind. -/
theorem approveEndpoint_eq_ok {body : ApprovalDecision} :
    approveEndpoint store principal id body now = .ok (store', response)
      → ∃ recommendation, store.recommendations.get id = some recommendation
          ∧ hasApprovalRole principal = true ∧ Reportable recommendation body.approved
          ∧ store'.policies = store.policies
          ∧ store'.recommendations = store.recommendations.modify id
              (fun r => decided r principal.subject body.approved body.reason now)
              fun r => decided_id r _ _ _ _ := by
  intro h
  simp only [approveEndpoint] at h
  obtain ⟨⟨_, row⟩, hservice, h⟩ := Fallible.bind_eq_ok.mp h
  obtain ⟨_, hresponse, h⟩ := Fallible.bind_eq_ok.mp h
  cases h
  obtain ⟨recommendation, hget, hauth, rfl, rfl⟩ :=
    approveRecommendation_eq_ok.mp (Fallible.mapError_eq_ok.mp hservice)
  refine ⟨recommendation, hget, authorizeDecision_route.mp hauth, ?_, rfl, rfl⟩
  exact reportable_decided.mp
    (recommendationResponse_isSome.mp ⟨_, Fallible.demand_eq_ok.mp hresponse⟩)

/-- An approver's decision on a reportable row is accepted. -/
theorem approveEndpoint_accepts {body : ApprovalDecision}
    {recommendation : OptimizationRecommendation}
    (hget : store.recommendations.get id = some recommendation)
    (hrole : hasApprovalRole principal = true)
    (hreportable : Reportable recommendation body.approved) :
    ∃ result, approveEndpoint store principal id body now = .ok result := by
  obtain ⟨response, hresponse⟩ : ∃ response, recommendationResponse?
      (decided recommendation principal.subject body.approved body.reason now)
        = some response :=
    recommendationResponse_isSome.mpr (reportable_decided.mpr hreportable)
  have hservice : routeService.approveRecommendation store id (some principal) body.approved
      body.reason false now = .ok _ :=
    approveRecommendation_eq_ok.mpr
      ⟨recommendation, hget, authorizeDecision_route.mpr hrole, rfl, rfl⟩
  simp only [approveEndpoint]
  exact ⟨_, Fallible.bind_eq_ok.mpr ⟨_, Fallible.mapError_eq_ok.mpr hservice,
    Fallible.bind_eq_ok.mpr ⟨response, Fallible.demand_eq_ok.mpr hresponse, rfl⟩⟩⟩

/-- What an accepted activation or rollback leaves behind. -/
theorem applyEndpoint_eq_ok {body : Option OptimizationApplyRequest} {newId : String} :
    applyEndpoint store principal id body newId now = .ok (store', response)
      → ∃ recommendation f hf, store.recommendations.get id = some recommendation
          ∧ recommendation.status = .Approved ∧ validatePolicy recommendation = .ok ()
          ∧ FreshId store.policies newId
          ∧ (f recommendation).status = .Applied
          ∧ store'.recommendations = store.recommendations.modify id f hf := by
  intro h
  simp only [applyEndpoint] at h
  obtain ⟨⟨_, row, policy⟩, hservice, h⟩ := Fallible.bind_eq_ok.mp h
  cases h
  obtain ⟨recommendation, policies, ⟨hget, hstatus, hvalid⟩, hpolicy, hinsert, -, rfl⟩ :=
    applyPolicy_eq_ok.mp (Fallible.mapError_eq_ok.mp hservice)
  have hfresh : FreshId store.policies policy.id := insert_supersede_isSome.mp ⟨_, hinsert⟩
  rw [(newPolicy_spec hpolicy).1] at hfresh
  exact ⟨recommendation,
    applied policy.id
      (getActivePolicy store.policies (routeService.targetKey store recommendation)) now,
    fun _ => rfl, hget, hstatus, hvalid, hfresh, rfl, rfl⟩

theorem applyEndpoint_accepts {body : Option OptimizationApplyRequest} {newId : String}
    {recommendation : OptimizationRecommendation}
    (hget : store.recommendations.get id = some recommendation)
    (hstatus : recommendation.status = .Approved)
    (hvalid : validatePolicy recommendation = .ok ()) (hfresh : FreshId store.policies newId) :
    ∃ result, applyEndpoint store principal id body newId now = .ok result := by
  obtain ⟨policy, hpolicy⟩ :
      ∃ policy, newPolicy? store recommendation (routeService.targetKey store recommendation)
        (creatorSubject (some principal)) (body.getD .default).activation newId now
          = some policy :=
    newPolicy_isSome fun _ => (body.getD .default).percentValid
  rw [← (newPolicy_spec hpolicy).1] at hfresh
  obtain ⟨policies, hinsert⟩ := insert_supersede_isSome.mpr hfresh
  have hservice : routeService.applyPolicy store id (some principal)
      (body.getD .default).activation newId now = .ok _ :=
    applyPolicy_eq_ok.mpr
      ⟨recommendation, policies, ⟨hget, hstatus, hvalid⟩, hpolicy, hinsert, rfl, rfl⟩
  simp only [applyEndpoint]
  exact ⟨_, Fallible.bind_eq_ok.mpr ⟨_, Fallible.mapError_eq_ok.mpr hservice, rfl⟩⟩

theorem rollbackEndpoint_eq_ok :
    rollbackEndpoint store id now = .ok (store', response)
      → ∃ recommendation, store.recommendations.get id = some recommendation
          ∧ recommendation.status = .Applied
          ∧ store'.recommendations = store.recommendations.modify id (rolledBack now)
              fun _ => rfl := by
  intro h
  simp only [rollbackEndpoint] at h
  obtain ⟨⟨_, row, reactivated⟩, hservice, h⟩ := Fallible.bind_eq_ok.mp h
  cases h
  obtain ⟨recommendation, hget, hstatus, -, -, rfl⟩ :=
    rollbackPolicy_eq_ok.mp (Fallible.mapError_eq_ok.mp hservice)
  exact ⟨recommendation, hget, hstatus, rfl⟩

theorem rollbackEndpoint_accepts {recommendation : OptimizationRecommendation}
    (hget : store.recommendations.get id = some recommendation)
    (hstatus : recommendation.status = .Applied) :
    ∃ result, rollbackEndpoint store id now = .ok result := by
  have hservice : routeService.rollbackPolicy store id now = .ok _ :=
    rollbackPolicy_eq_ok.mpr ⟨recommendation, hget, hstatus, rfl, rfl, rfl⟩
  simp only [rollbackEndpoint]
  exact ⟨_, Fallible.bind_eq_ok.mpr ⟨_, Fallible.mapError_eq_ok.mpr hservice, rfl⟩⟩

/-- Moving a recommendation to another status changes the tables. -/
lemma changed_of_status {recommendation : OptimizationRecommendation}
    {f : OptimizationRecommendation → OptimizationRecommendation}
    {hf : ∀ r, (f r).id = r.id} (hget : store.recommendations.get id = some recommendation)
    (hrecommendations : store'.recommendations = store.recommendations.modify id f hf)
    (hstatus : (f recommendation).status ≠ recommendation.status) :
    ¬ TablesUnchanged store store' := by
  rintro ⟨hsame, -⟩
  have hfix := (Table.modify_eq_self_iff hget).mp (hrecommendations.symm.trans hsame)
  exact hstatus (congrArg OptimizationRecommendation.status hfix)

end Changes

/-- A refused request rolls its session back. -/
lemma unchanged_of_refused {store : Store} {request : EndpointRequest} {e : HttpError}
    (h : request.handle store = .error e) : TablesUnchanged store (request.after store) := by
  simp only [EndpointRequest.after]
  rw [h]
  exact ⟨rfl, rfl⟩

/-- What a handled request leaves behind. -/
lemma after_of_handled {store store' : Store} {request : EndpointRequest} {response : Response}
    (h : request.handle store = .ok (store', response)) : request.after store = store' := by
  simp only [EndpointRequest.after]
  rw [h]

/-- The guards are the only ones: a request that passes them is handled. -/
lemma handle_of_accepted {store : Store} {request : EndpointRequest}
    (h : request.Accepted store) : ∃ result, request.handle store = .ok result := by
  obtain ⟨recommendation, hget, hguards⟩ := h
  simp only [EndpointRequest.handle]
  cases hbody : request.body with
  | Approve body =>
      rw [hbody] at hguards
      exact approveEndpoint_accepts hget hguards.1 hguards.2.1
  | Apply body newId =>
      rw [hbody] at hguards
      exact applyEndpoint_accepts hget hguards.1 hguards.2.1 hguards.2.2
  | Rollback =>
      rw [hbody] at hguards
      exact rollbackEndpoint_accepts hget hguards

/-- A handled request changes the tables exactly when it passes the guards. -/
lemma changesTables_of_handled {store store' : Store} {request : EndpointRequest}
    {response : Response} (hresult : request.handle store = .ok (store', response)) :
    ¬ TablesUnchanged store store' ↔ request.Accepted store := by
  simp only [EndpointRequest.handle] at hresult
  simp only [EndpointRequest.Accepted]
  cases hbody : request.body with
  | Approve body =>
      rw [hbody] at hresult
      obtain ⟨recommendation, hget, hrole, hreportable, hpolicies, hrecommendations⟩ :=
        approveEndpoint_eq_ok hresult
      have hsame : TablesUnchanged store store'
          ↔ decided recommendation request.principal.subject body.approved body.reason
              request.now = recommendation := by
        rw [TablesUnchanged, hrecommendations, Table.modify_eq_self_iff hget]
        exact and_iff_left hpolicies
      rw [hsame, decided_eq_self_iff]
      refine ⟨fun hchanged => ⟨recommendation, hget, hrole, hreportable, hchanged⟩, ?_⟩
      rintro ⟨recommendation', hget', -, -, hchanged⟩
      obtain rfl : recommendation' = recommendation := Option.some.inj (hget'.symm.trans hget)
      exact hchanged
  | Apply body newId =>
      rw [hbody] at hresult
      obtain ⟨recommendation, f, hf, hget, hstatus, hvalid, hfresh, happlied,
        hrecommendations⟩ := applyEndpoint_eq_ok hresult
      refine iff_of_true (changed_of_status hget hrecommendations ?_)
        ⟨recommendation, hget, hstatus, hvalid, hfresh⟩
      rw [happlied, hstatus]
      decide
  | Rollback =>
      rw [hbody] at hresult
      obtain ⟨recommendation, hget, hstatus, hrecommendations⟩ := rollbackEndpoint_eq_ok hresult
      refine iff_of_true (changed_of_status hget hrecommendations ?_)
        ⟨recommendation, hget, hstatus⟩
      rw [hstatus]
      show OptimizationStatus.RolledBack ≠ .Applied
      decide

/-- **When a request changes the tables.**  Exactly when it passes the guards the endpoints do
    have. -/
theorem changesTables_iff (store : Store) (request : EndpointRequest) :
    ¬ TablesUnchanged store (request.after store) ↔ request.Accepted store := by
  cases hresult : request.handle store with
  | error e =>
      refine iff_of_false (not_not.mpr (unchanged_of_refused hresult)) fun haccepted => ?_
      obtain ⟨result, hok⟩ := handle_of_accepted haccepted
      rw [hok] at hresult
      cases hresult
  | ok result =>
      rw [after_of_handled hresult]
      exact changesTables_of_handled hresult

/-- **Authorization of the three endpoints, exactly.**  A request changes the tables only for a
    caller of the tenant who holds its permission there, exactly when the caller is one or the
    request fails the guards the endpoints do have. -/
theorem changes_only_authorized_iff (store : Store) (request : EndpointRequest) :
    (¬ TablesUnchanged store (request.after store) → request.Authorized store)
      ↔ request.Authorized store ∨ ¬ request.Accepted store := by
  rw [changesTables_iff, imp_iff_or_not]

/-- A viewer of another tenant. -/
def foreignViewer : Principal where
  subject := "mallory"
  tenantId := "tenant-2"
  assignments := [⟨.Viewer, .Tenant, "tenant-2"⟩]

/-- The request by which the viewer activates the first recommendation. -/
def foreignApply : EndpointRequest where
  principal := foreignViewer
  recommendationId := "rec-a"
  now := 5
  body := .Apply none "policy-1"

/-- **A stranger activates a policy.**  The viewer's request changes the tables, in a tenant that
    is not the viewer's. -/
theorem foreign_viewer_applies :
    ¬ (¬ TablesUnchanged sampleStore (foreignApply.after sampleStore)
        → foreignApply.Authorized sampleStore) := by
  rw [changesTables_iff]
  intro h
  have haccepted : foreignApply.Accepted sampleStore := by
    refine ⟨sampleRecommendation "rec-a" .Approved, by decide +kernel, rfl, by decide +kernel, ?_⟩
    show ∀ p ∈ [seedPolicy], p.id ≠ "policy-1"
    decide
  obtain ⟨recommendation, hget, haccess⟩ := h haccepted
  obtain rfl : sampleRecommendation "rec-a" .Approved = recommendation :=
    Option.some.inj ((show sampleStore.recommendations.get "rec-a" = some _ by
      decide +kernel).symm.trans hget)
  revert haccess
  decide

end CostPlatform
