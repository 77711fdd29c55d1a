import CostPlatform.Lifecycle.Service

/-!
# What a rollback does to the statuses of policies

A policy table is read here as the partial map `policyStatus` from identifiers to statuses.  Every
operation of the service is a short sequence of updates of that map, and the lemmas
`policyStatus_…` say which.

A rollback writes two of its entries: the applied policy becomes ROLLED_BACK and the superseded one
ACTIVE, whatever either was in the meantime.  Two facts about runs depend on it.

* A ROLLED_BACK policy becomes ACTIVE again exactly when some rollback of the run restores a policy
  that was itself rolled back since (`withdrawn_stays_withdrawn_iff`).
* Activating and rolling back at once gives every policy its status back, unless the activation
  replaced a policy that was not ACTIVE (`rollback_restores_iff`).
-/

namespace CostPlatform

open Calendar (Timestamp)

/-- The status of a policy, where it exists. -/
def policyStatus (policies : PolicyTable) (id : String) : Option PolicyStatus :=
  (policies.get id).map RoutingPolicy.status

lemma policyStatus_eq_some {policies : PolicyTable} {id : String} {status : PolicyStatus} :
    policyStatus policies id = some status
      ↔ ∃ policy ∈ policies.rows, policy.id = id ∧ policy.status = status := by
  simp only [policyStatus, Option.map_eq_some_iff, Table.get_eq_some, and_assoc]

lemma policyStatus_of_mem {policies : PolicyTable} {policy : RoutingPolicy}
    (h : policy ∈ policies.rows) : policyStatus policies policy.id = some policy.status :=
  policyStatus_eq_some.mpr ⟨policy, h, rfl, rfl⟩

lemma policyStatus_eq_none {policies : PolicyTable} {id : String} :
    policyStatus policies id = none ↔ FreshId policies id := by
  simp only [policyStatus, Option.map_eq_none_iff, Table.get_eq_none, FreshId]

/-! ## The updates of the map -/

lemma policyStatus_setStatus (policies : PolicyTable) (policyId id : String)
    (status : PolicyStatus) :
    policyStatus (setStatus policies policyId status) id
      = if id = policyId then (policyStatus policies id).map fun _ => status
        else policyStatus policies id := by
  simp only [policyStatus, setStatus, Table.get_modify]
  split_ifs with hid
  · subst hid
    simp only [Option.map_map]
    rfl
  · rfl

lemma policyStatus_setStatusIfNamed (policies : PolicyTable) (policyId : Option String)
    (id : String) (status : PolicyStatus) :
    policyStatus (setStatusIfNamed policies policyId status) id
      = if PyString.truthy policyId = some id then (policyStatus policies id).map fun _ => status
        else policyStatus policies id := by
  simp only [setStatusIfNamed]
  cases PyString.truthy policyId with
  | none => simp
  | some named =>
      rw [policyStatus_setStatus]
      simp only [Option.some.injEq, eq_comm]

lemma policyStatus_supersede (policies : PolicyTable) (current : Option RoutingPolicy)
    (id : String) :
    policyStatus (supersede policies current) id
      = if current.map RoutingPolicy.id = some id
        then (policyStatus policies id).map fun _ => .Superseded
        else policyStatus policies id := by
  cases current with
  | none => simp [supersede]
  | some policy =>
      rw [supersede, policyStatus_setStatus]
      simp only [Option.map_some, Option.some.injEq, eq_comm]

/-- A new row brings its own status and leaves the others alone. -/
lemma policyStatus_insert {policies policies' : PolicyTable} {policy : RoutingPolicy}
    (h : policies.insert? policy = some policies') (id : String) :
    policyStatus policies' id
      = if id = policy.id then some policy.status else policyStatus policies id := by
  have hrows := Table.rows_of_insert? h
  split_ifs with hid
  · subst hid
    exact policyStatus_of_mem (by simp [hrows])
  · cases hstatus : policyStatus policies id with
    | none =>
        refine policyStatus_eq_none.mpr fun p hp => ?_
        rw [hrows, List.mem_append, List.mem_singleton] at hp
        rcases hp with hold | rfl
        · exact policyStatus_eq_none.mp hstatus p hold
        · exact Ne.symm hid
    | some status =>
        obtain ⟨p, hp, hpId, hpStatus⟩ := policyStatus_eq_some.mp hstatus
        refine policyStatus_eq_some.mpr ⟨p, ?_, hpId, hpStatus⟩
        rw [hrows]
        exact List.mem_append_left _ hp

/-- A rollback writes the entry of the applied policy first and that of the superseded one
    last. -/
lemma policyStatus_rolledBackPolicies (policies : PolicyTable)
    (recommendation : OptimizationRecommendation) (id : String) :
    policyStatus (rolledBackPolicies policies recommendation) id
      = if PyString.truthy recommendation.supersededPolicyId = some id
        then (policyStatus policies id).map fun _ => .Active
        else if PyString.truthy recommendation.appliedPolicyId = some id
          then (policyStatus policies id).map fun _ => .RolledBack
          else policyStatus policies id := by
  rw [rolledBackPolicies, policyStatus_setStatusIfNamed, policyStatus_setStatusIfNamed]
  split_ifs
  · rw [Option.map_map]
    rfl
  · rfl
  · rfl
  · rfl

/-- An activation supersedes one policy and adds another. -/
lemma policyStatus_activation {policies policies' : PolicyTable}
    {current : Option RoutingPolicy} {policy : RoutingPolicy}
    (h : (supersede policies current).insert? policy = some policies') (id : String) :
    policyStatus policies' id
      = if id = policy.id then some policy.status
        else if current.map RoutingPolicy.id = some id
          then (policyStatus policies id).map fun _ => .Superseded
          else policyStatus policies id := by
  rw [policyStatus_insert h, policyStatus_supersede]

/-! ## Withdrawn policies -/

/-- A rollback that gets past its guards restores no policy that was rolled back itself. -/
def Call.RestoresStanding (store : Store) (call : Call) : Prop :=
  match call.operation with
  | .Approve _ _ _ _ => True
  | .Apply _ _ _ => True
  | .Rollback =>
      ∀ recommendation, store.recommendations.get call.recommendationId = some recommendation →
        recommendation.status = .Applied →
        ∀ superseded, PyString.truthy recommendation.supersededPolicyId = some superseded →
          policyStatus store.policies superseded ≠ some .RolledBack

def Withdrawn (id : String) (store : Store) : Prop :=
  policyStatus store.policies id = some .RolledBack

def InForce (id : String) (store : Store) : Prop :=
  policyStatus store.policies id = some .Active

/-- A call that restores no withdrawn policy leaves the withdrawn ones withdrawn. -/
lemma withdrawn_callStep {store : Store} {call : Call} (h : call.RestoresStanding store)
    {id : String} (hwithdrawn : Withdrawn id store) : Withdrawn id (callStep store call) := by
  simp only [Withdrawn] at hwithdrawn ⊢
  cases hoperation : call.operation with
  | Approve principal approved reason override =>
      rcases callStep_approve_cases store hoperation with
        ⟨_, _, _, _, hpolicies⟩ | ⟨hrefused, _⟩
      · rw [hpolicies, hwithdrawn]
      · rw [hrefused, hwithdrawn]
  | Apply principal activation newId =>
      rcases callStep_apply_cases store hoperation with
        ⟨recommendation, policy, -, -, hinsert, -⟩ | ⟨hrefused, _⟩
      · -- neither the new policy nor the superseded one is withdrawn
        have hfresh := insert_supersede_isSome.mp ⟨_, hinsert⟩
        obtain ⟨p, hp, rfl, hpStatus⟩ := policyStatus_eq_some.mp hwithdrawn
        rw [policyStatus_activation hinsert, if_neg (hfresh p hp), if_neg, hwithdrawn]
        intro hcurrent
        obtain ⟨q, hq, hqId⟩ := Option.map_eq_some_iff.mp hcurrent
        obtain ⟨hqMem, -, hqLive⟩ := mem_of_getActivePolicy hq
        rw [store.policies.eq_of_key hqMem hp hqId, hpStatus] at hqLive
        simp at hqLive
      · rw [hrefused, hwithdrawn]
  | Rollback =>
      rcases callStep_rollback_cases store hoperation with
        ⟨recommendation, hget, happlied, hpolicies, -⟩ | ⟨hrefused, _⟩
      · simp only [Call.RestoresStanding, hoperation] at h
        rw [hpolicies, policyStatus_rolledBackPolicies, hwithdrawn, if_neg]
        · simp
        · intro hsuperseded
          exact h recommendation hget happlied id hsuperseded hwithdrawn
      · rw [hrefused, hwithdrawn]

/-- A rollback that restores a withdrawn policy puts it in force at once. -/
lemma inForce_of_not_restoresStanding {store : Store} {call : Call}
    (h : ¬ call.RestoresStanding store) :
    ∃ id, Withdrawn id store ∧ InForce id (callStep store call) := by
  simp only [Call.RestoresStanding] at h
  cases hoperation : call.operation with
  | Approve principal approved reason override => simp [hoperation] at h
  | Apply principal activation newId => simp [hoperation] at h
  | Rollback =>
      simp only [hoperation, not_forall, not_not] at h
      obtain ⟨recommendation, hget, happlied, superseded, hsuperseded, hwithdrawn⟩ := h
      refine ⟨superseded, hwithdrawn, ?_⟩
      rcases callStep_rollback_cases store hoperation with
        ⟨recommendation', hget', -, hpolicies, -⟩ | ⟨-, hnever⟩
      · obtain rfl : recommendation' = recommendation :=
          Option.some.inj (hget'.symm.trans hget)
        rw [InForce, hpolicies, policyStatus_rolledBackPolicies, if_pos hsuperseded, hwithdrawn]
        rfl
      · exact absurd happlied (hnever recommendation hget)

/-- **Withdrawn policies, exactly.**  No policy that has been rolled back becomes ACTIVE again
    exactly when every rollback of the run that takes effect restores a policy that is not rolled
    back at that moment. -/
theorem withdrawn_stays_withdrawn_iff (store : Store) (calls : List Call) :
    Runs.NeverAfter callStep Withdrawn InForce store calls
      ↔ Runs.Along callStep (fun s call => call.RestoresStanding s) store calls := by
  refine Runs.neverAfter_iff_along ?_ ?_ ?_ store calls
  · intro id s hwithdrawn hactive
    rw [InForce, hwithdrawn] at hactive
    simp at hactive
  · intro s call hstanding id hwithdrawn
    exact withdrawn_callStep hstanding hwithdrawn
  · intro s call hnot
    exact inForce_of_not_restoresStanding hnot

/-- Two activations taken back in the order they were made: the first new version is rolled back,
    and the second rollback makes it ACTIVE again. -/
theorem rollback_first_in_first_out_resurrects :
    ¬ Runs.NeverAfter callStep Withdrawn InForce sampleStore
        [applyFull "rec-a" "policy-1", applyFull "rec-b" "policy-2", rollback "rec-a",
          rollback "rec-b"] := by
  intro hnever
  refine hnever
    [applyFull "rec-a" "policy-1", applyFull "rec-b" "policy-2", rollback "rec-a"]
    [rollback "rec-b"] [] rfl "policy-1" ?_ ?_
  · simp only [Withdrawn]
    decide +kernel
  · simp only [InForce]
    decide +kernel

/-! ## Activation taken back at once -/

/-- Every policy there was still has the status it had. -/
def KeepsStatuses (store store' : Store) : Prop :=
  ∀ policy ∈ store.policies.rows,
    policyStatus store'.policies policy.id = some policy.status

instance decidableKeepsStatuses (store store' : Store) : Decidable (KeepsStatuses store store') :=
  inferInstanceAs (Decidable (∀ policy ∈ store.policies.rows,
    policyStatus store'.policies policy.id = some policy.status))

section Restore

variable {store : Store} {apply undo : Call} {principal : Option Principal}
  {activation : Activation} {newId : String} {recommendation : OptimizationRecommendation}

/-- What the two calls leave of the statuses when the activation goes through. -/
lemma policyStatus_apply_rollback
    (happly : apply.operation = .Apply principal activation newId)
    (hundo : undo.operation = .Rollback) (hsame : undo.recommendationId = apply.recommendationId)
    (hget : store.recommendations.get apply.recommendationId = some recommendation)
    (happroved : recommendation.status = .Approved)
    (haccepted : ActivationAccepted store recommendation activation newId)
    {policy : RoutingPolicy} (hpolicy : policy ∈ store.policies.rows) :
    policyStatus (callStep (callStep store apply) undo).policies policy.id
      = if getActivePolicy store.policies (apply.service.targetKey store recommendation)
            = some policy
        then some (if policy.id = "" then .Superseded else .Active)
        else some policy.status := by
  rcases callStep_apply_approved store happly hget happroved with
    ⟨-, added, hadded, hinsert, hrecommendations⟩ | ⟨hnot, -⟩
  · have hfresh : policy.id ≠ added.id := by
      rw [(newPolicy_spec hadded).1]
      exact haccepted.2.2 policy hpolicy
    have hcurrent : (getActivePolicy store.policies
          (apply.service.targetKey store recommendation)).map RoutingPolicy.id = some policy.id
        ↔ getActivePolicy store.policies (apply.service.targetKey store recommendation)
          = some policy := by
      constructor
      · intro hid
        obtain ⟨p, hp, hpId⟩ := Option.map_eq_some_iff.mp hid
        rw [hp, store.policies.eq_of_key (mem_of_getActivePolicy hp).1 hpolicy hpId]
      · intro hp
        rw [hp, Option.map_some]
    have hget' := Table.get_of_eq_modify hrecommendations hget
    rcases callStep_rollback_cases (callStep store apply) hundo with
      ⟨found, hfound, -, hpolicies, -⟩ | ⟨-, hnever⟩
    · rw [hsame] at hfound
      obtain rfl := Option.some.inj (hget'.symm.trans hfound)
      rw [hpolicies, policyStatus_rolledBackPolicies, policyStatus_activation hinsert,
        policyStatus_of_mem hpolicy]
      simp only [applied, PyString.truthy_eq_some, Option.some.injEq, hfresh, hfresh.symm,
        false_and, if_false, hcurrent]
      by_cases hreplaced : getActivePolicy store.policies
          (apply.service.targetKey store recommendation) = some policy
      · by_cases hid : policy.id = ""
        · simp [hreplaced, hid]
        · simp [hreplaced, hid]
      · simp [hreplaced]
    · rw [hsame] at hnever
      exact absurd rfl (hnever _ hget')
  · exact absurd haccepted hnot

/-- The policy an activation would replace is ACTIVE, and has an identifier to be found by. -/
def ReplacesActive (store : Store) (service : PolicyLifecycleService)
    (recommendation : OptimizationRecommendation) : Prop :=
  ∀ policy, getActivePolicy store.policies (service.targetKey store recommendation) = some policy →
    policy.status = .Active ∧ policy.id ≠ ""

/-- **Activation taken back at once, exactly.**  Every policy there was has its status back exactly
    when the activation was refused or the policy it replaced, if any, was ACTIVE. -/
theorem rollback_restores_iff (happly : apply.operation = .Apply principal activation newId)
    (hundo : undo.operation = .Rollback) (hsame : undo.recommendationId = apply.recommendationId)
    (hget : store.recommendations.get apply.recommendationId = some recommendation)
    (happroved : recommendation.status = .Approved) :
    KeepsStatuses store (callStep (callStep store apply) undo)
      ↔ (ActivationAccepted store recommendation activation newId →
        ReplacesActive store apply.service recommendation) := by
  by_cases haccepted : ActivationAccepted store recommendation activation newId
  · simp only [haccepted, true_imp_iff, KeepsStatuses, ReplacesActive]
    constructor
    · intro hkeeps policy hreplaced
      obtain ⟨hmem, -, hlive⟩ := mem_of_getActivePolicy hreplaced
      have hstatus := hkeeps policy hmem
      rw [policyStatus_apply_rollback happly hundo hsame hget happroved haccepted hmem,
        if_pos hreplaced, Option.some.injEq] at hstatus
      split_ifs at hstatus with hid
      · rw [← hstatus] at hlive
        simp at hlive
      · exact ⟨hstatus.symm, hid⟩
    · intro hactive policy hmem
      rw [policyStatus_apply_rollback happly hundo hsame hget happroved haccepted hmem]
      split_ifs with hreplaced hid
      · exact absurd hid (hactive policy hreplaced).2
      · rw [(hactive policy hreplaced).1]
      · rfl
  · simp only [haccepted, false_imp_iff, iff_true]
    rcases callStep_apply_approved store happly hget happroved with
      ⟨hyes, -⟩ | ⟨-, hrefused⟩
    · exact absurd hyes haccepted
    · -- the recommendation is still APPROVED, so the rollback is refused as well
      rw [hrefused]
      rcases callStep_rollback_cases store hundo with
        ⟨found, hfound, happlied, -⟩ | ⟨hidle, -⟩
      · rw [hsame] at hfound
        obtain rfl := Option.some.inj (hget.symm.trans hfound)
        rw [happroved] at happlied
        simp at happlied
      · rw [hidle]
        exact fun policy hmem => policyStatus_of_mem hmem

end Restore

/-- Over an ACTIVE predecessor, the sample activation is undone completely. -/
theorem rollback_restores_active :
    KeepsStatuses sampleStore
      (callStep (callStep sampleStore (applyFull "rec-a" "policy-1")) (rollback "rec-a")) := by
  have hcurrent : getActivePolicy sampleStore.policies (routeService.targetKey sampleStore
      (sampleRecommendation "rec-a" .Approved)) = some seedPolicy := by
    decide +kernel
  have hget : sampleStore.recommendations.get (applyFull "rec-a" "policy-1").recommendationId
      = some (sampleRecommendation "rec-a" .Approved) := by
    decide +kernel
  have happly : (applyFull "rec-a" "policy-1").operation
      = .Apply none ⟨"FULL", none, ""⟩ "policy-1" := rfl
  have hundo : (rollback "rec-a").operation = .Rollback := rfl
  refine (rollback_restores_iff happly hundo rfl hget rfl).mpr ?_
  intro _ policy hpolicy
  obtain rfl := Option.some.inj (hcurrent.symm.trans hpolicy)
  decide

/-- Over a canary it is not: the canary, superseded and brought back, is ACTIVE for all of the
    traffic. -/
theorem rollback_promotes_canary :
    ((callStep sampleStore (applyCanary "rec-a" "policy-1")).recommendations.get "rec-b").map
        OptimizationRecommendation.status = some .Approved
      ∧ ¬ KeepsStatuses (callStep sampleStore (applyCanary "rec-a" "policy-1"))
        (Runs.run callStep (callStep sampleStore (applyCanary "rec-a" "policy-1"))
          [applyFull "rec-b" "policy-2", rollback "rec-b"]) := by
  decide +kernel

end CostPlatform
