import CostPlatform.Library.Ranking
import CostPlatform.Lifecycle.Service

/-!
# Policy versions are append-only

`contents` reads a policy table without the statuses.  A run of the service only ever appends to
it, one row for each activation whose guards hold (`insertsNext_callStep`), and the appended
versions climb: each is above every version its tenant and workload type had before
(`versions_append_only`).
-/

namespace CostPlatform

/-- A policy but for its status: what a version is, once and for all. -/
def RoutingPolicy.content (policy : RoutingPolicy) : RoutingPolicy :=
  { policy with status := .Draft }

def contents (policies : PolicyTable) : List RoutingPolicy :=
  policies.rows.map RoutingPolicy.content

/-- Two policies of one tenant and one workload type. -/
def SameLine (p q : RoutingPolicy) : Prop :=
  p.tenantId = q.tenantId ∧ p.workloadType = q.workloadType

/-! ## What each operation does to the contents -/

@[simp] lemma contents_setStatus (policies : PolicyTable) (policyId : String)
    (status : PolicyStatus) :
    contents (setStatus policies policyId status) = contents policies := by
  simp only [contents, setStatus, Table.modify, List.map_map]
  refine List.map_congr_left fun policy _ => ?_
  simp only [Function.comp_apply]
  split_ifs
  · rfl
  · rfl

@[simp] lemma contents_setStatusIfNamed (policies : PolicyTable) (policyId : Option String)
    (status : PolicyStatus) :
    contents (setStatusIfNamed policies policyId status) = contents policies := by
  simp only [setStatusIfNamed]
  cases PyString.truthy policyId with
  | none => rfl
  | some named => exact contents_setStatus policies named status

@[simp] lemma contents_supersede (policies : PolicyTable) (current : Option RoutingPolicy) :
    contents (supersede policies current) = contents policies := by
  cases current with
  | none => rfl
  | some policy => exact contents_setStatus policies policy.id .Superseded

lemma contents_insert {policies policies' : PolicyTable} {policy : RoutingPolicy}
    (h : policies.insert? policy = some policies') :
    contents policies' = contents policies ++ [policy.content] := by
  simp [contents, Table.rows_of_insert? h]

/-! ## Versions climb -/

/-- No version of the line is above the latest. -/
lemma version_le_latest {policies : PolicyTable} {policy : RoutingPolicy}
    (h : policy ∈ policies.rows) :
    policy.version ≤ getLatestVersionNumber policies policy.workloadType policy.tenantId := by
  refine (Ranking.le_foldl_max _ 0).2 _ (List.mem_map_of_mem ?_)
  simp [h]

lemma newPolicy_version {store : Store} {recommendation : OptimizationRecommendation}
    {key : RoutingKey} {creator newId : String} {activation : Activation}
    {now : Calendar.Timestamp} {policy : RoutingPolicy}
    (h : newPolicy? store recommendation key creator activation newId now = some policy) :
    policy.version
      = getLatestVersionNumber store.policies policy.workloadType policy.tenantId + 1 := by
  unfold newPolicy? at h
  dsimp only at h
  split_ifs at h
  · obtain rfl := Option.some.inj h
    rfl
  · obtain rfl := Option.some.inj h
    rfl

/-! ## One call -/

/-- The policy version a call creates: the one a successful activation returns. -/
def Call.created (store : Store) (call : Call) : Option RoutingPolicy :=
  match call.operation with
  | .Approve _ _ _ _ => none
  | .Apply principal activation newId =>
      match call.service.applyPolicy store call.recommendationId principal activation newId
        call.now with
      | .ok (_, _, policy) => some policy.content
      | .error _ => none
  | .Rollback => none

/-- What is created was activated: it is the row the activation inserts. -/
lemma mem_created {store : Store} {call : Call} {content : RoutingPolicy}
    (h : content ∈ call.created store) :
    ∃ recommendation creator activation newId policy,
      newPolicy? store recommendation (call.service.targetKey store recommendation) creator
          activation newId call.now = some policy
        ∧ content = policy.content := by
  simp only [Call.created] at h
  cases hoperation : call.operation with
  | Approve principal approved reason override => simp [hoperation] at h
  | Apply principal activation newId =>
      cases hresult : call.service.applyPolicy store call.recommendationId principal activation
        newId call.now with
      | error e => simp [hoperation, hresult] at h
      | ok result =>
          obtain ⟨store', updated, policy⟩ := result
          simp only [hoperation, hresult, Option.mem_def, Option.some.injEq] at h
          obtain ⟨recommendation, policies, -, hpolicy, -⟩ := applyPolicy_eq_ok.mp hresult
          exact ⟨recommendation, _, activation, newId, policy, hpolicy, h.symm⟩
  | Rollback => simp [hoperation] at h

/-- A call appends the version it creates, and changes nothing in the others. -/
theorem contents_callStep (store : Store) (call : Call) :
    contents (callStep store call).policies
      = contents store.policies ++ (call.created store).toList := by
  simp only [Call.created]
  cases hoperation : call.operation with
  | Approve principal approved reason override =>
      rcases callStep_approve_cases store hoperation with
        ⟨_, _, _, _, hpolicies⟩ | ⟨hrefused, _⟩
      · rw [hpolicies, Option.toList_none, List.append_nil]
      · rw [hrefused, Option.toList_none, List.append_nil]
  | Apply principal activation newId =>
      simp only [callStep, Call.execute, hoperation]
      cases hresult : call.service.applyPolicy store call.recommendationId principal activation
        newId call.now with
      | error e => exact (List.append_nil _).symm
      | ok result =>
          obtain ⟨store', updated, policy⟩ := result
          obtain ⟨recommendation, policies, -, -, hinsert, -, rfl⟩ :=
            applyPolicy_eq_ok.mp hresult
          show contents policies = contents store.policies ++ [policy.content]
          rw [contents_insert hinsert, contents_supersede]
  | Rollback =>
      rcases callStep_rollback_cases store hoperation with
        ⟨recommendation, _, _, hpolicies, _⟩ | ⟨hrefused, _⟩
      · rw [hpolicies, rolledBackPolicies, contents_setStatusIfNamed, contents_setStatusIfNamed,
          Option.toList_none, List.append_nil]
      · rw [hrefused, Option.toList_none, List.append_nil]

/-- What a call creates is above every version its line has had. -/
theorem created_version_lt (store : Store) (call : Call) {p q : RoutingPolicy}
    (hp : p ∈ contents store.policies) (hq : q ∈ call.created store) (hline : SameLine p q) :
    p.version < q.version := by
  obtain ⟨old, hold, rfl⟩ := List.mem_map.mp hp
  obtain ⟨recommendation, creator, activation, newId, policy, hpolicy, rfl⟩ := mem_created hq
  obtain ⟨htenant, hworkload⟩ := hline
  have hlatest := version_le_latest hold
  have hversion := newPolicy_version hpolicy
  show old.version < policy.version
  rw [show old.tenantId = policy.tenantId from htenant,
    show old.workloadType = policy.workloadType from hworkload] at hlatest
  omega

/-! ## When a call creates a version -/

/-- The call activates an approved recommendation, and nothing stands in its way. -/
def Call.Activates (store : Store) (call : Call) (recommendation : OptimizationRecommendation)
    (newId : String) : Prop :=
  ∃ principal activation, call.operation = .Apply principal activation newId
    ∧ store.recommendations.get call.recommendationId = some recommendation
    ∧ recommendation.status = .Approved
    ∧ ActivationAccepted store recommendation activation newId

/-- The row is the next version of the recommendation's tenant and workload type. -/
structure NextVersion (store : Store) (call : Call) (recommendation : OptimizationRecommendation)
    (newId : String) (row : RoutingPolicy) : Prop where
  id : row.id = newId
  tenantId : row.tenantId = recommendation.tenantId
  workloadType :
    row.workloadType = call.service.resolveWorkloadType store recommendation.workloadId
  version : row.version = getLatestVersionNumber store.policies row.workloadType row.tenantId + 1

/-- What a call inserts: one row if it activates, and that the next version; no row if it does
    not. -/
structure Call.InsertsNext (store : Store) (call : Call) : Prop where
  activated : ∀ recommendation newId, call.Activates store recommendation newId →
    ∃ row, NextVersion store call recommendation newId row
      ∧ contents (callStep store call).policies = contents store.policies ++ [row.content]
  otherwise : (∀ recommendation newId, ¬ call.Activates store recommendation newId) →
    contents (callStep store call).policies = contents store.policies

/-- **An activation inserts the next version**, and no other call inserts a row. -/
theorem insertsNext_callStep (store : Store) (call : Call) : call.InsertsNext store where
  activated := by
    rintro recommendation newId ⟨principal, activation, hoperation, hget, happroved, haccepted⟩
    rcases callStep_apply_approved store hoperation hget happroved with
      ⟨-, policy, hpolicy, hinsert, -⟩ | ⟨hrefused, -⟩
    · obtain ⟨hid, hkey, -⟩ := newPolicy_spec hpolicy
      refine ⟨policy, ⟨hid, congrArg RoutingKey.tenantId hkey,
        congrArg RoutingKey.workloadType hkey, newPolicy_version hpolicy⟩, ?_⟩
      rw [contents_insert hinsert, contents_supersede]
    · exact absurd haccepted hrefused
  otherwise := by
    intro hnever
    have hcontents := contents_callStep store call
    cases hcreated : call.created store with
    | none => rwa [hcreated, Option.toList_none, List.append_nil] at hcontents
    | some content =>
        exfalso
        simp only [Call.created] at hcreated
        cases hoperation : call.operation with
        | Approve principal approved reason override =>
            rw [hoperation] at hcreated
            cases hcreated
        | Rollback =>
            rw [hoperation] at hcreated
            cases hcreated
        | Apply principal activation newId =>
            rw [hoperation] at hcreated
            cases hresult : call.service.applyPolicy store call.recommendationId principal
              activation newId call.now with
            | error e => simp [hresult] at hcreated
            | ok result =>
                obtain ⟨store', updated, policy⟩ := result
                obtain ⟨recommendation, policies, ⟨hget, happroved, hvalid⟩, hpolicy, hinsert, -⟩ :=
                  applyPolicy_eq_ok.mp hresult
                have hfresh := insert_supersede_isSome.mp ⟨_, hinsert⟩
                rw [(newPolicy_spec hpolicy).1] at hfresh
                exact hnever recommendation newId ⟨principal, activation, hoperation, hget,
                  happroved, hvalid, newPolicy_percent hpolicy, hfresh⟩

/-! ## Whole runs -/

/-- The versions the calls of a run create, in order. -/
def createdVersions (store : Store) (calls : List Call) : List RoutingPolicy :=
  Runs.emitted callStep (fun s call => (call.created s).toList) store calls

/-- **Policy versions are append-only.**  Over every run, each activation whose guards hold inserts
    exactly one row, the next version of its tenant and workload type, and no other call inserts
    any.  What is appended is what the activations return, nothing is deleted or changed but
    statuses, and every appended version is above all that its tenant and workload type had before
    it. -/
theorem versions_append_only (store : Store) (calls : List Call) :
    contents (Runs.run callStep store calls).policies
        = contents store.policies ++ createdVersions store calls
      ∧ (∀ p ∈ contents store.policies, ∀ q ∈ createdVersions store calls,
          SameLine p q → p.version < q.version)
      ∧ (createdVersions store calls).Pairwise
          (fun p q => SameLine p q → p.version < q.version)
      ∧ Runs.Along callStep (fun s call => call.InsertsNext s) store calls := by
  have hview : ∀ (s : Store) (call : Call), contents (callStep s call).policies
      = contents s.policies ++ (call.created s).toList := contents_callStep
  have hnext : Runs.Along callStep (fun s call => call.InsertsNext s) store calls :=
    (Runs.along_iff_forall_split store calls).mpr fun _ call _ _ => insertsNext_callStep _ call
  refine ⟨Runs.view_run (V := fun s => contents s.policies) hview store calls,
    and_assoc.mp ⟨?_, hnext⟩⟩
  refine Runs.emitted_ordered (V := fun s => contents s.policies) hview ?_ ?_ store calls
  · intro s call p hp q hq hline
    exact created_version_lt s call hp (Option.mem_toList.mp hq) hline
  · intro s call
    cases call.created s with
    | none => exact List.Pairwise.nil
    | some policy => exact List.pairwise_singleton _ policy

end CostPlatform
