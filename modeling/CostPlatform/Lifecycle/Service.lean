import CostPlatform.Library.Fallible
import CostPlatform.Library.Runs
import CostPlatform.Lifecycle.Store
import CostPlatform.Security.Principal

/-!
# The policy lifecycle service

`approve_recommendation`, `apply_policy` and `rollback_policy`, each a function from the store to
an error or to the new store with the records the service returns.  An error leaves no trace: a
call runs in one session, which is rolled back when the call raises.

The three `…_eq_ok` lemmas state everything a successful call does — its guards, the row it
writes and the rows it leaves alone.  Every later fact about the lifecycle goes through them.
-/

namespace CostPlatform

open Calendar (Timestamp)

/-- What the service raises. -/
inductive LifecycleError where
  | NotFound (message : String)
  | PolicyConflict (message : String)
  | PolicyAuthorization (message : String)
  -- the database refused the insert
  | Integrity
  deriving DecidableEq, Repr

/-- How a service instance is configured. -/
structure PolicyLifecycleService where
  autoApproveLowRisk : Bool
  hasAuditService : Bool
  hasWorkloadRepository : Bool
  deriving DecidableEq, Repr

/-- An optional value in an f-string. -/
def formatOptional (value : Option String) : String := value.getD "None"

def notFoundMessage (recommendationId : String) : String :=
  "Recommendation '" ++ recommendationId ++ "' not found"

/-! ## Validation -/

/-- Validate recommendation parameters prior to activation. -/
def validatePolicy (recommendation : OptimizationRecommendation) : Except String Unit :=
  match PyString.truthy recommendation.recommendedStrategy with
  | none => .error "Missing recommended strategy"
  | some _ =>
      match recommendation.estimatedSaving with
      | none => .error "Estimated saving is unknown; cannot validate the change"
      | some saving => if saving < 0 then .error "Negative savings invalid" else .ok ()

/-! ## Approval -/

def PolicyLifecycleService.canAutoApprove (service : PolicyLifecycleService)
    (recommendation : OptimizationRecommendation) (autoApproveOverride : Bool) : Bool :=
  (service.autoApproveLowRisk || autoApproveOverride) && recommendation.riskLevel = some .Low

/-- The roles that may decide a recommendation. -/
def approverRoles : Finset Role := {.FinopsManager, .Admin}

def hasApprovalRole (principal : Principal) : Bool :=
  principal.assignments.any fun assignment => assignment.role ∈ approverRoles

/-- Authorization of a decision. -/
def PolicyLifecycleService.authorizeDecision (service : PolicyLifecycleService)
    (recommendation : OptimizationRecommendation) (principal : Option Principal)
    (autoApproveOverride : Bool) : Except LifecycleError Unit :=
  if service.canAutoApprove recommendation autoApproveOverride then .ok ()
  else match principal with
    | none => .error (.PolicyAuthorization "Authentication required for policy approval")
    | some principal =>
        if hasApprovalRole principal then .ok ()
        else .error (.PolicyAuthorization
          ("Principal '" ++ principal.subject
            ++ "' lacks FINOPS_MANAGER or ADMIN role to approve "
            ++ formatOptional (recommendation.riskLevel.map OptimizationRiskLevel.value)
            ++ " risk policy"))

def approverSubject (principal : Option Principal) : String :=
  match principal with
  | some principal => principal.subject
  | none => "system_auto_approver"

/-- The recommendation after the decision. -/
def decided (recommendation : OptimizationRecommendation) (approver : String) (approved : Bool)
    (reason : String) (now : Timestamp) : OptimizationRecommendation :=
  if approved then
    { recommendation with
      status := .Approved
      approvedAt := some now
      approvedBy := some approver }
  else
    { recommendation with
      status := .Rejected
      recommendationReason := some
        (formatOptional recommendation.recommendationReason ++ " [REJECTED: " ++ reason ++ "]") }

/-- The audit record of a decision. -/
def auditDecision (recommendation : OptimizationRecommendation) (approved : Bool)
    (actor : String) (reason : String) : AuditEvent where
  action := if approved then .OptimizationApproved else .OptimizationRejected
  tenantId := recommendation.tenantId
  resourceType := "optimization_recommendation"
  resourceId := recommendation.id
  userId := some actor
  afterStatus := recommendation.status
  afterRiskLevel := recommendation.riskLevel
  reason := PyString.truthy (some reason)

@[simp] lemma decided_id (recommendation : OptimizationRecommendation) (approver : String)
    (approved : Bool) (reason : String) (now : Timestamp) :
    (decided recommendation approver approved reason now).id = recommendation.id := by
  cases approved <;> rfl

@[simp] lemma decided_status (recommendation : OptimizationRecommendation) (approver : String)
    (approved : Bool) (reason : String) (now : Timestamp) :
    (decided recommendation approver approved reason now).status
      = if approved then .Approved else .Rejected := by
  cases approved <;> rfl

/-- `approve_recommendation`.  The status of the recommendation is not looked at. -/
def PolicyLifecycleService.approveRecommendation (service : PolicyLifecycleService)
    (store : Store) (recommendationId : String) (principal : Option Principal)
    (approved : Bool) (reason : String) (autoApproveOverride : Bool) (now : Timestamp) :
    Except LifecycleError (Store × OptimizationRecommendation) := do
  let recommendation ← Fallible.demand (store.recommendations.get recommendationId)
    (.NotFound (notFoundMessage recommendationId))
  service.authorizeDecision recommendation principal autoApproveOverride
  let approver := approverSubject principal
  let updated := decided recommendation approver approved reason now
  return ({ store with
      recommendations := store.recommendations.modify recommendationId
        (fun r => decided r approver approved reason now) fun r => decided_id r _ _ _ _
      audit :=
        if service.hasAuditService then
          store.audit ++ [auditDecision updated approved approver reason]
        else store.audit },
    updated)

/-! ## Activation -/

/-- Map a workload id to its type.  Without a repository, and for an unknown workload, the id
    itself is used. -/
def PolicyLifecycleService.resolveWorkloadType (service : PolicyLifecycleService)
    (store : Store) (workloadId : Option String) : String :=
  match PyString.truthy workloadId with
  | none => ""
  | some id =>
      if service.hasWorkloadRepository then
        match store.workloads.get id with
        | some workload => workload.workloadType
        | none => id
      else id

/-- The routing key an activation replaces.  New policies are created at medium complexity. -/
def PolicyLifecycleService.targetKey (service : PolicyLifecycleService) (store : Store)
    (recommendation : OptimizationRecommendation) : RoutingKey where
  tenantId := recommendation.tenantId
  workloadType := service.resolveWorkloadType store recommendation.workloadId
  complexity := .Medium

def isCanary (activationMode : String) : Bool := PyString.upper activationMode = "CANARY"

/-- Mark the policy being replaced. -/
def supersede (policies : PolicyTable) (current : Option RoutingPolicy) : PolicyTable :=
  match current with
  | none => policies
  | some policy => setStatus policies policy.id .Superseded

/-- What a caller of `apply_policy` chooses. -/
structure Activation where
  activationMode : String
  canaryTrafficPercent : Option ℚ
  reason : String
  deriving DecidableEq, Repr

/-- The new policy version, unless the traffic share violates its `CHECK`. -/
def newPolicy? (store : Store) (recommendation : OptimizationRecommendation) (key : RoutingKey)
    (creator : String) (activation : Activation) (newId : String) (now : Timestamp) :
    Option RoutingPolicy :=
  let canary := isCanary activation.activationMode
  let percent := if canary then activation.canaryTrafficPercent else none
  if h : ∀ p ∈ percent, 0 ≤ p ∧ p ≤ 100 then
    some {
      id := newId
      tenantId := key.tenantId
      workloadType := key.workloadType
      complexity := key.complexity
      businessPriority := some "NORMAL"
      selectedModelId := none
      selectedAgentId := none
      maxContextTokens := none
      maxToolCalls := none
      maxCostPerRequest := none
      maxTotalTokensPerRequest := none
      minimumQualityScore := none
      riskLevel := none
      version := getLatestVersionNumber store.policies key.workloadType key.tenantId + 1
      status := if canary then .Canary else .Active
      canaryTrafficPercent := percent
      reason := (PyString.truthy (some activation.reason)).orElse
        fun _ => recommendation.recommendationReason
      createdBy := some creator
      approvedBy := recommendation.approvedBy
      activatedAt := some now
      versionPositive := by omega
      canaryTrafficValid := h }
  else none

/-- The recommendation after its activation. -/
def applied (policyId : String) (superseded : Option RoutingPolicy) (now : Timestamp)
    (recommendation : OptimizationRecommendation) : OptimizationRecommendation :=
  { recommendation with
    status := .Applied
    appliedPolicyId := some policyId
    supersededPolicyId := superseded.map RoutingPolicy.id
    appliedAt := some now }

def creatorSubject (principal : Option Principal) : String :=
  match principal with
  | some principal => principal.subject
  | none => "system"

/-- `apply_policy`.  `newId` is the identifier the insert generates. -/
def PolicyLifecycleService.applyPolicy (service : PolicyLifecycleService) (store : Store)
    (recommendationId : String) (principal : Option Principal) (activation : Activation)
    (newId : String) (now : Timestamp) :
    Except LifecycleError (Store × OptimizationRecommendation × RoutingPolicy) := do
  let recommendation ← Fallible.demand (store.recommendations.get recommendationId)
    (.NotFound (notFoundMessage recommendationId))
  Fallible.require (recommendation.status = .Approved) (.PolicyConflict
    ("Cannot apply recommendation with status '" ++ recommendation.status.value
      ++ "'. Recommendation must be APPROVED first."))
  (validatePolicy recommendation).mapError fun message =>
    .PolicyConflict ("Policy validation failed: " ++ message)
  let key := service.targetKey store recommendation
  let current := getActivePolicy store.policies key
  let policy ← Fallible.demand
    (newPolicy? store recommendation key (creatorSubject principal) activation newId now)
    .Integrity
  let policies ← Fallible.demand ((supersede store.policies current).insert? policy) .Integrity
  return ({ store with
      policies := policies
      recommendations := store.recommendations.modify recommendationId
        (applied policy.id current now) fun _ => rfl },
    applied policy.id current now recommendation, policy)

/-! ## Rollback -/

/-- Set the status of the policy an optional column names, if it names one that exists. -/
def setStatusIfNamed (policies : PolicyTable) (policyId : Option String)
    (status : PolicyStatus) : PolicyTable :=
  match PyString.truthy policyId with
  | none => policies
  | some id => setStatus policies id status

/-- The policy table after a rollback. -/
def rolledBackPolicies (policies : PolicyTable) (recommendation : OptimizationRecommendation) :
    PolicyTable :=
  setStatusIfNamed (setStatusIfNamed policies recommendation.appliedPolicyId .RolledBack)
    recommendation.supersededPolicyId .Active

/-- The recommendation after its rollback. -/
def rolledBack (now : Timestamp) (recommendation : OptimizationRecommendation) :
    OptimizationRecommendation :=
  { recommendation with
    status := .RolledBack
    rolledBackAt := some now }

/-- `rollback_policy`. -/
def PolicyLifecycleService.rollbackPolicy (_service : PolicyLifecycleService) (store : Store)
    (recommendationId : String) (now : Timestamp) :
    Except LifecycleError (Store × OptimizationRecommendation × Option RoutingPolicy) := do
  let recommendation ← Fallible.demand (store.recommendations.get recommendationId)
    (.NotFound (notFoundMessage recommendationId))
  Fallible.require (recommendation.status = .Applied) (.PolicyConflict
    ("Cannot roll back recommendation with status '" ++ recommendation.status.value
      ++ "'. Must be APPLIED."))
  let policies := rolledBackPolicies store.policies recommendation
  return ({ store with
      policies := policies
      recommendations := store.recommendations.modify recommendationId (rolledBack now)
        fun _ => rfl },
    rolledBack now recommendation,
    (PyString.truthy recommendation.supersededPolicyId).bind policies.get)

/-! ## What a successful call does -/

section Inversion

variable {service : PolicyLifecycleService} {store store' : Store} {recommendationId : String}
  {principal : Option Principal} {now : Timestamp}

theorem approveRecommendation_eq_ok {approved autoApproveOverride : Bool} {reason : String}
    {result : OptimizationRecommendation} :
    service.approveRecommendation store recommendationId principal approved reason
        autoApproveOverride now = .ok (store', result)
      ↔ ∃ recommendation, store.recommendations.get recommendationId = some recommendation
          ∧ service.authorizeDecision recommendation principal autoApproveOverride = .ok ()
          ∧ result = decided recommendation (approverSubject principal) approved reason now
          ∧ store' = { store with
              recommendations := store.recommendations.modify recommendationId
                (fun r => decided r (approverSubject principal) approved reason now)
                fun r => decided_id r _ _ _ _
              audit :=
                if service.hasAuditService then
                  store.audit
                    ++ [auditDecision result approved (approverSubject principal) reason]
                else store.audit } := by
  simp only [PolicyLifecycleService.approveRecommendation]
  simp only [Fallible.bind_eq_ok, Fallible.demand_eq_ok]
  constructor
  · rintro ⟨recommendation, hget, ⟨⟩, hauth, hresult⟩
    cases hresult
    exact ⟨recommendation, hget, hauth, rfl, rfl⟩
  · rintro ⟨recommendation, hget, hauth, rfl, rfl⟩
    exact ⟨recommendation, hget, (), hauth, rfl⟩

/-- A decision is refused only for lack of authority. -/
lemma authorizeDecision_of_refused {approved autoApproveOverride : Bool} {reason : String}
    {e : LifecycleError} {recommendation : OptimizationRecommendation}
    (h : service.approveRecommendation store recommendationId principal approved reason
      autoApproveOverride now = .error e)
    (hget : store.recommendations.get recommendationId = some recommendation) :
    service.authorizeDecision recommendation principal autoApproveOverride ≠ .ok () := by
  intro hauth
  rw [approveRecommendation_eq_ok.mpr ⟨recommendation, hget, hauth, rfl, rfl⟩] at h
  cases h

/-- The guards of an activation: the row exists, is approved and valid. -/
def Activatable (store : Store) (recommendationId : String)
    (recommendation : OptimizationRecommendation) : Prop :=
  store.recommendations.get recommendationId = some recommendation
    ∧ recommendation.status = .Approved
    ∧ validatePolicy recommendation = .ok ()

theorem applyPolicy_eq_ok {activation : Activation} {newId : String}
    {result : OptimizationRecommendation} {policy : RoutingPolicy} :
    service.applyPolicy store recommendationId principal activation newId now
        = .ok (store', result, policy)
      ↔ ∃ recommendation policies,
          Activatable store recommendationId recommendation
          ∧ newPolicy? store recommendation (service.targetKey store recommendation)
              (creatorSubject principal) activation newId now = some policy
          ∧ (supersede store.policies
              (getActivePolicy store.policies (service.targetKey store recommendation))).insert?
                policy = some policies
          ∧ result = applied policy.id
              (getActivePolicy store.policies (service.targetKey store recommendation)) now
              recommendation
          ∧ store' = { store with
              policies := policies
              recommendations := store.recommendations.modify recommendationId
                (applied policy.id
                  (getActivePolicy store.policies (service.targetKey store recommendation)) now)
                fun _ => rfl } := by
  simp only [PolicyLifecycleService.applyPolicy, Activatable]
  simp only [Fallible.bind_eq_ok, Fallible.demand_eq_ok, Fallible.require_eq_ok,
    Fallible.mapError_eq_ok]
  constructor
  · rintro ⟨recommendation, hget, ⟨⟩, hstatus, ⟨⟩, hvalid, policy', hpolicy, policies, hinsert,
      hresult⟩
    cases hresult
    exact ⟨recommendation, policies, ⟨hget, hstatus, hvalid⟩, hpolicy, hinsert, rfl, rfl⟩
  · rintro ⟨recommendation, policies, ⟨hget, hstatus, hvalid⟩, hpolicy, hinsert, rfl, rfl⟩
    exact ⟨recommendation, hget, (), hstatus, (), hvalid, policy, hpolicy, policies, hinsert,
      rfl⟩

theorem rollbackPolicy_eq_ok {result : OptimizationRecommendation}
    {reactivated : Option RoutingPolicy} :
    service.rollbackPolicy store recommendationId now = .ok (store', result, reactivated)
      ↔ ∃ recommendation, store.recommendations.get recommendationId = some recommendation
          ∧ recommendation.status = .Applied
          ∧ result = rolledBack now recommendation
          ∧ reactivated = (PyString.truthy recommendation.supersededPolicyId).bind
              (rolledBackPolicies store.policies recommendation).get
          ∧ store' = { store with
              policies := rolledBackPolicies store.policies recommendation
              recommendations := store.recommendations.modify recommendationId (rolledBack now)
                fun _ => rfl } := by
  simp only [PolicyLifecycleService.rollbackPolicy]
  simp only [Fallible.bind_eq_ok, Fallible.demand_eq_ok, Fallible.require_eq_ok]
  constructor
  · rintro ⟨recommendation, hget, ⟨⟩, hstatus, hresult⟩
    cases hresult
    exact ⟨recommendation, hget, hstatus, rfl, rfl, rfl⟩
  · rintro ⟨recommendation, hget, hstatus, rfl, rfl, rfl⟩
    exact ⟨recommendation, hget, (), hstatus, rfl⟩

end Inversion

/-! ## When an activation goes through -/

/-- Is the identifier still free? -/
def FreshId (policies : PolicyTable) (newId : String) : Prop :=
  ∀ p ∈ policies.rows, p.id ≠ newId

lemma mem_supersede_id {policies : PolicyTable} {current : Option RoutingPolicy} {id : String} :
    (∃ p ∈ (supersede policies current).rows, p.id = id) ↔ ∃ p ∈ policies.rows, p.id = id := by
  cases current with
  | none => rfl
  | some policy =>
      constructor
      · rintro ⟨p, hp, rfl⟩
        rcases mem_setStatus.mp hp with ⟨old, hold, -, rfl⟩ | ⟨hold, -⟩
        · exact ⟨old, hold, rfl⟩
        · exact ⟨p, hold, rfl⟩
      · rintro ⟨p, hp, rfl⟩
        by_cases hid : p.id = policy.id
        · exact ⟨{ p with status := .Superseded }, mem_setStatus.mpr (Or.inl ⟨p, hp, hid, rfl⟩),
            rfl⟩
        · exact ⟨p, mem_setStatus.mpr (Or.inr ⟨hp, hid⟩), rfl⟩

/-- An insert succeeds exactly on a fresh identifier. -/
lemma insert_supersede_isSome {policies : PolicyTable} {current : Option RoutingPolicy}
    {policy : RoutingPolicy} :
    (∃ policies', (supersede policies current).insert? policy = some policies')
      ↔ FreshId policies policy.id := by
  have hfresh : policy.id ∈ (supersede policies current).rows.map RoutingPolicy.id
      ↔ ¬ FreshId policies policy.id := by
    rw [List.mem_map, mem_supersede_id]
    simp [FreshId]
  rw [Table.insert?_succeeds_iff, hfresh, not_not]

lemma newPolicy_spec {store : Store} {recommendation : OptimizationRecommendation}
    {key : RoutingKey} {creator newId : String} {activation : Activation} {now : Timestamp}
    {policy : RoutingPolicy}
    (h : newPolicy? store recommendation key creator activation newId now = some policy) :
    policy.id = newId ∧ policy.key = key
      ∧ policy.status = if isCanary activation.activationMode then .Canary else .Active := by
  unfold newPolicy? at h
  dsimp only at h
  split_ifs at h with hcanary hpercent
  · obtain rfl := Option.some.inj h
    exact ⟨rfl, rfl, by simp [hcanary]⟩
  · obtain rfl := Option.some.inj h
    exact ⟨rfl, rfl, by simp [hcanary]⟩

/-- Only a canary can be refused, for its traffic share. -/
lemma newPolicy_isSome {store : Store} {recommendation : OptimizationRecommendation}
    {key : RoutingKey} {creator newId : String} {activation : Activation} {now : Timestamp}
    (hpercent : isCanary activation.activationMode = true →
      ∀ p ∈ activation.canaryTrafficPercent, 0 ≤ p ∧ p ≤ 100) :
    ∃ policy,
      newPolicy? store recommendation key creator activation newId now = some policy := by
  have hvalid : ∀ p ∈ (if isCanary activation.activationMode = true
      then activation.canaryTrafficPercent else none), 0 ≤ p ∧ p ≤ 100 := by
    split_ifs with hcanary
    · exact hpercent hcanary
    · simp
  exact ⟨_, dif_pos hvalid⟩

lemma newPolicy_percent {store : Store} {recommendation : OptimizationRecommendation}
    {key : RoutingKey} {creator newId : String} {activation : Activation} {now : Timestamp}
    {policy : RoutingPolicy}
    (h : newPolicy? store recommendation key creator activation newId now = some policy)
    (hcanary : isCanary activation.activationMode = true) :
    ∀ p ∈ activation.canaryTrafficPercent, 0 ≤ p ∧ p ≤ 100 := by
  unfold newPolicy? at h
  dsimp only at h
  split_ifs at h with hvalid
  simpa [hcanary] using hvalid

/-- What stands between an approved recommendation and its activation. -/
def ActivationAccepted (store : Store) (recommendation : OptimizationRecommendation)
    (activation : Activation) (newId : String) : Prop :=
  validatePolicy recommendation = .ok ()
    ∧ (isCanary activation.activationMode = true →
      ∀ p ∈ activation.canaryTrafficPercent, 0 ≤ p ∧ p ≤ 100)
    ∧ FreshId store.policies newId

/-! ## Calls and runs -/

/-- One call of the service, with the arguments its caller chose. -/
inductive Operation where
  | Approve (principal : Option Principal) (approved : Bool) (reason : String)
      (autoApproveOverride : Bool)
  | Apply (principal : Option Principal) (activation : Activation) (newId : String)
  | Rollback
  deriving DecidableEq

structure Call where
  service : PolicyLifecycleService
  recommendationId : String
  now : Timestamp
  operation : Operation
  deriving DecidableEq

/-- The store a call commits, or the error it raises. -/
def Call.execute (call : Call) (store : Store) : Except LifecycleError Store :=
  match call.operation with
  | .Approve principal approved reason autoApproveOverride =>
      (call.service.approveRecommendation store call.recommendationId principal approved reason
        autoApproveOverride call.now).map Prod.fst
  | .Apply principal activation newId =>
      (call.service.applyPolicy store call.recommendationId principal activation newId
        call.now).map Prod.fst
  | .Rollback =>
      (call.service.rollbackPolicy store call.recommendationId call.now).map Prod.fst

/-- A call run to completion in its own session: committed, or rolled back. -/
def callStep (store : Store) (call : Call) : Store :=
  match call.execute store with
  | .ok store' => store'
  | .error _ => store

section Cases

variable (store : Store) {call : Call} {principal : Option Principal}

/-- A decision rewrites one recommendation, or is refused. -/
theorem callStep_approve_cases {approved override : Bool} {reason : String}
    (h : call.operation = .Approve principal approved reason override) :
    (∃ recommendation,
      store.recommendations.get call.recommendationId = some recommendation
      ∧ call.service.authorizeDecision recommendation principal override = .ok ()
      ∧ (callStep store call).recommendations
          = store.recommendations.modify call.recommendationId
              (fun r => decided r (approverSubject principal) approved reason call.now)
              (fun r => decided_id r _ _ _ _)
      ∧ (callStep store call).policies = store.policies)
    ∨ (callStep store call = store
      ∧ ∀ recommendation,
          store.recommendations.get call.recommendationId = some recommendation →
          call.service.authorizeDecision recommendation principal override ≠ .ok ()) := by
  simp only [callStep, Call.execute]
  rw [h]
  dsimp only
  cases hresult : call.service.approveRecommendation store call.recommendationId principal
    approved reason override call.now with
  | error e => exact Or.inr ⟨rfl, fun _ hget => authorizeDecision_of_refused hresult hget⟩
  | ok result =>
      obtain ⟨store', updated⟩ := result
      obtain ⟨recommendation, hget, hauth, -, rfl⟩ := approveRecommendation_eq_ok.mp hresult
      exact Or.inl ⟨recommendation, hget, hauth, rfl, rfl⟩

/-- What an activation leaves: the policy that was active is superseded, the new one added and the
    recommendation rewritten. -/
def LeavesActivated (store : Store) (call : Call) (recommendation : OptimizationRecommendation)
    (policy : RoutingPolicy) : Prop :=
  (supersede store.policies
      (getActivePolicy store.policies (call.service.targetKey store recommendation))).insert? policy
      = some (callStep store call).policies
    ∧ (callStep store call).recommendations
        = store.recommendations.modify call.recommendationId
            (applied policy.id
              (getActivePolicy store.policies (call.service.targetKey store recommendation))
              call.now) fun _ => rfl

/-- An activation supersedes one policy, adds one and rewrites one recommendation, or is
    refused. -/
theorem callStep_apply_cases {activation : Activation} {newId : String}
    (h : call.operation = .Apply principal activation newId) :
    (∃ recommendation policy,
      Activatable store call.recommendationId recommendation
      ∧ newPolicy? store recommendation (call.service.targetKey store recommendation)
          (creatorSubject principal) activation newId call.now = some policy
      ∧ LeavesActivated store call recommendation policy)
    ∨ (callStep store call = store
      ∧ ∀ recommendation policy policies,
          Activatable store call.recommendationId recommendation →
          newPolicy? store recommendation (call.service.targetKey store recommendation)
            (creatorSubject principal) activation newId call.now = some policy →
          (supersede store.policies
            (getActivePolicy store.policies
              (call.service.targetKey store recommendation))).insert? policy
            ≠ some policies) := by
  simp only [LeavesActivated, callStep, Call.execute]
  rw [h]
  dsimp only
  cases hresult : call.service.applyPolicy store call.recommendationId principal activation
    newId call.now with
  | error e =>
      refine Or.inr ⟨rfl, fun recommendation policy policies hactivatable hpolicy hinsert => ?_⟩
      rw [applyPolicy_eq_ok.mpr
        ⟨recommendation, policies, hactivatable, hpolicy, hinsert, rfl, rfl⟩] at hresult
      cases hresult
  | ok result =>
      obtain ⟨store', updated, policy⟩ := result
      obtain ⟨recommendation, policies, hactivatable, hpolicy, hinsert, -, rfl⟩ :=
        applyPolicy_eq_ok.mp hresult
      exact Or.inl ⟨recommendation, policy, hactivatable, hpolicy, hinsert, rfl⟩

/-- A rollback rewrites one recommendation and the statuses of the two policies it names, or is
    refused. -/
theorem callStep_rollback_cases (h : call.operation = .Rollback) :
    (∃ recommendation,
      store.recommendations.get call.recommendationId = some recommendation
      ∧ recommendation.status = .Applied
      ∧ (callStep store call).policies = rolledBackPolicies store.policies recommendation
      ∧ (callStep store call).recommendations
          = store.recommendations.modify call.recommendationId (rolledBack call.now)
              fun _ => rfl)
    ∨ (callStep store call = store
      ∧ ∀ recommendation,
          store.recommendations.get call.recommendationId = some recommendation →
          recommendation.status ≠ .Applied) := by
  simp only [callStep, Call.execute]
  rw [h]
  dsimp only
  cases hresult : call.service.rollbackPolicy store call.recommendationId call.now with
  | error e =>
      refine Or.inr ⟨rfl, fun recommendation hget hstatus => ?_⟩
      have hok : call.service.rollbackPolicy store call.recommendationId call.now = .ok _ :=
        rollbackPolicy_eq_ok.mpr ⟨recommendation, hget, hstatus, rfl, rfl, rfl⟩
      rw [hok] at hresult
      cases hresult
  | ok result =>
      obtain ⟨store', updated, reactivated⟩ := result
      obtain ⟨recommendation, hget, hstatus, -, -, rfl⟩ := rollbackPolicy_eq_ok.mp hresult
      exact Or.inl ⟨recommendation, hget, hstatus, rfl, rfl⟩

/-- **When an approved recommendation is activated, and what follows.** -/
theorem callStep_apply_approved {activation : Activation} {newId : String}
    {recommendation : OptimizationRecommendation}
    (h : call.operation = .Apply principal activation newId)
    (hget : store.recommendations.get call.recommendationId = some recommendation)
    (happroved : recommendation.status = .Approved) :
    (ActivationAccepted store recommendation activation newId
      ∧ ∃ policy,
        newPolicy? store recommendation (call.service.targetKey store recommendation)
          (creatorSubject principal) activation newId call.now = some policy
        ∧ LeavesActivated store call recommendation policy)
    ∨ (¬ ActivationAccepted store recommendation activation newId
      ∧ callStep store call = store) := by
  rcases callStep_apply_cases store h with
    ⟨found, policy, hactivatable, hpolicy, hinsert, hrecommendations⟩ | ⟨hrefused, hnever⟩
  · obtain rfl : found = recommendation := Option.some.inj (hactivatable.1.symm.trans hget)
    have hfresh := insert_supersede_isSome.mp ⟨_, hinsert⟩
    rw [(newPolicy_spec hpolicy).1] at hfresh
    exact Or.inl ⟨⟨hactivatable.2.2, newPolicy_percent hpolicy, hfresh⟩, policy, hpolicy, hinsert,
      hrecommendations⟩
  · refine Or.inr ⟨fun ⟨hvalid, hpercent, hfresh⟩ => ?_, hrefused⟩
    obtain ⟨policy, hpolicy⟩ : ∃ policy,
        newPolicy? store recommendation (call.service.targetKey store recommendation)
          (creatorSubject principal) activation newId call.now = some policy :=
      newPolicy_isSome hpercent
    rw [← (newPolicy_spec hpolicy).1] at hfresh
    obtain ⟨policies, hinsert⟩ := insert_supersede_isSome.mpr hfresh
    exact hnever recommendation policy policies ⟨hget, happroved, hvalid⟩ hpolicy hinsert

end Cases

/-! ## A small store -/

/-- A service as the routes construct it. -/
def routeService : PolicyLifecycleService where
  autoApproveLowRisk := false
  hasAuditService := true
  hasWorkloadRepository := true

/-- A live policy for quality checks, as the seed data has it. -/
def seedPolicy : RoutingPolicy where
  id := "policy-0"
  tenantId := "tenant-1"
  workloadType := "quality_check"
  complexity := .Medium
  businessPriority := some "NORMAL"
  selectedModelId := none
  selectedAgentId := none
  maxContextTokens := none
  maxToolCalls := none
  maxCostPerRequest := none
  maxTotalTokensPerRequest := none
  minimumQualityScore := none
  riskLevel := none
  version := 1
  status := .Active
  canaryTrafficPercent := none
  reason := none
  createdBy := none
  approvedBy := none
  activatedAt := none
  versionPositive := by decide
  canaryTrafficValid := by simp

/-- A complete recommendation for the quality checks of one workload. -/
def sampleRecommendation (id : String) (status : OptimizationStatus) :
    OptimizationRecommendation where
  id := id
  tenantId := "tenant-1"
  workloadId := some "wl-1"
  currentStrategy := some "large model"
  recommendedStrategy := some "small model"
  estimatedSaving := some 100
  estimatedSavingPercent := some 20
  qualityImpactPercent := some 0
  latencyImpactPercent := some 0
  riskLevel := some .Low
  recommendationReason := some "cheaper"
  status := status
  appliedPolicyId := none
  supersededPolicyId := none
  createdAt := some 0
  approvedAt := some 1
  appliedAt := none
  rolledBackAt := none
  approvedBy := some "finops"

/-- Two approved recommendations over the one live policy. -/
def sampleStore : Store where
  recommendations :=
    ⟨[sampleRecommendation "rec-a" .Approved, sampleRecommendation "rec-b" .Approved],
      by decide⟩
  policies := ⟨[seedPolicy], by decide⟩
  workloads := ⟨[{ id := "wl-1", workloadType := "quality_check" }], by decide⟩
  audit := []

/-- An activation in full. -/
def applyFull (recommendationId newId : String) : Call where
  service := routeService
  recommendationId := recommendationId
  now := 2
  operation := .Apply none ⟨"FULL", none, ""⟩ newId

/-- An activation for a tenth of the traffic. -/
def applyCanary (recommendationId newId : String) : Call where
  service := routeService
  recommendationId := recommendationId
  now := 2
  operation := .Apply none ⟨"CANARY", some 10, ""⟩ newId

/-- A rollback. -/
def rollback (recommendationId : String) : Call where
  service := routeService
  recommendationId := recommendationId
  now := 3
  operation := .Rollback

/-- A decision by the finance lead of the tenant. -/
def decideAs (approved : Bool) (recommendationId : String) : Call where
  service := routeService
  recommendationId := recommendationId
  now := 4
  operation := .Approve
    (some ⟨"finops", "tenant-1", [⟨.FinopsManager, .Tenant, "tenant-1"⟩]⟩) approved "" false

end CostPlatform
