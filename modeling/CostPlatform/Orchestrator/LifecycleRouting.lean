import CostPlatform.Lifecycle.ActiveUnique
import CostPlatform.Lifecycle.Canary
import CostPlatform.Lifecycle.Versions
import CostPlatform.Orchestrator.Execute

/-!
# What an applied recommendation changes in the plans

The lifecycle writes the policies that planning reads.  An activation creates a policy without a
model, an agent, a limit or a quality floor, and nothing in the lifecycle fills them in later.  A
plan under such a policy is the plan that is made without any, but for the version it names
(`plan_under_bare`).

So a run of the lifecycle routes a request either as if there were no policy or by a policy that
was there before it (`lifecycle_routes_nothing_new`), and a full activation takes the policy of its
key out of the plans and leaves every other key as it was (`full_activation_unroutes`).
-/

namespace CostPlatform

open Calendar (Timestamp)

/-! ## Plans over a policy table -/

/-- A plan without the traces of its policy's version. -/
def ExecutionPlan.unversioned (plan : ExecutionPlan) : ExecutionPlan :=
  { plan with
    routingPolicyVersion := none
    decisions := [] }

namespace Collaborators

variable (c : Collaborators)

/-- The orchestrator over a policy table. -/
def governed (policies : PolicyTable) : Collaborators where
  __ := c
  getActivePolicy := some fun key =>
    match getActive policies key with
    | .ok policy => .ok policy
    | .error _ => .error (.Other "MultipleResultsFound")

/-- The orchestrator that finds this policy, whatever it asks for. -/
def under (policy : Option RoutingPolicy) : Collaborators where
  __ := c
  getActivePolicy := some fun _ => .ok policy

/-- What planning asks the policy lookup for. -/
def routingKey (request : OrchestrationRequest) (principal : Principal) : RoutingKey where
  tenantId := principal.tenantId
  workloadType := request.workloadType
  complexity := (c.classify request).complexity

variable {c} {policies : PolicyTable} {request : OrchestrationRequest} {principal : Principal}
  {requestId traceId : String}

/-- Of the policy table, planning sees one policy. -/
lemma plan_governed (policies : PolicyTable) (request : OrchestrationRequest)
    (principal : Principal) (requestId traceId : String) :
    (c.governed policies).plan request principal requestId traceId
      = (c.under ((c.governed policies).policyFor request principal)).plan request principal
          requestId traceId := rfl

lemma loadPolicy_eq {get : RoutingKey → Except Failure (Option RoutingPolicy)}
    (h : c.getActivePolicy = some get) (tenantId workloadType : String) (complexity : Complexity) :
    c.loadPolicy tenantId workloadType complexity
      = (get { tenantId, workloadType, complexity := complexity }).toOption.join := by
  rw [loadPolicy, h]
  dsimp only
  cases get { tenantId, workloadType, complexity := complexity } <;> rfl

/-- The policy found is the ACTIVE one of the request's key. -/
lemma policyFor_governed :
    (c.governed policies).policyFor request principal
      = ((getActive policies (c.routingKey request principal)).toOption).join := by
  refine (@loadPolicy_eq (c.governed policies) _ rfl _ _ _).trans ?_
  simp only [routingKey]
  rw [show (c.governed policies).classify request = c.classify request from rfl]
  cases getActive policies _ <;> rfl

end Collaborators

/-! ## Bare policies -/

/-- The policy decides nothing that planning asks a policy for. -/
structure Bare (policy : RoutingPolicy) : Prop where
  noModel : policy.selectedModelId = none
  noAgent : policy.selectedAgentId = none
  noContextLimit : policy.maxContextTokens = none
  noToolLimit : policy.maxToolCalls = none
  noQualityFloor : policy.minimumQualityScore = none

/-- **A plan under a bare policy is the plan under none**, but for the version. -/
theorem Collaborators.plan_under_bare {c : Collaborators} {policy : RoutingPolicy}
    (h : Bare policy) (request : OrchestrationRequest) (principal : Principal)
    (requestId traceId : String) :
    ((c.under (some policy)).plan request principal requestId traceId).map
        ExecutionPlan.unversioned
      = ((c.under none).plan request principal requestId traceId).map
          ExecutionPlan.unversioned := by
  have hcandidates : (c.under (some policy)).candidates request (some policy)
      = (c.under none).candidates request none := by
    simp only [Collaborators.candidates, Collaborators.pinnedModel, Option.bind_some,
      Option.bind_none, h.noModel, h.noQualityFloor]
    rfl
  have hrouted : ∀ base found, (routedPlan base (some policy) found).unversioned
      = (routedPlan base none found).unversioned := by
    intro base found
    simp [routedPlan, ExecutionPlan.unversioned, contextLimit, h.noAgent, h.noContextLimit,
      h.noToolLimit]
  show ((c.checkBudget request principal >>= fun decision => _) : Except _ _).map _
    = ((c.checkBudget request principal >>= fun decision => _) : Except _ _).map _
  cases c.checkBudget request principal with
  | error failure => rfl
  | ok decision =>
      simp only [Fallible.ok_bind]
      split_ifs with hblock
      · rfl
      · show ((c.under (some policy)).candidates request (some policy) >>= fun found => _).map _
          = ((c.under none).candidates request none >>= fun found => _).map _
        rw [hcandidates]
        cases (c.under none).candidates request none with
        | error failure => rfl
        | ok found => exact congrArg Except.ok (hrouted _ found)

/-- An activation creates a bare policy. -/
lemma bare_newPolicy {store : Store} {recommendation : OptimizationRecommendation}
    {key : RoutingKey} {creator newId : String} {activation : Activation} {now : Timestamp}
    {policy : RoutingPolicy}
    (h : newPolicy? store recommendation key creator activation newId now = some policy) :
    Bare policy := by
  simp only [newPolicy?] at h
  split_ifs at h <;> cases h <;> exact ⟨rfl, rfl, rfl, rfl, rfl⟩

/-! ## Runs of the lifecycle -/

/-- A status is nothing that planning reads. -/
lemma plan_under_content {c : Collaborators} {p q : RoutingPolicy} (h : q.content = p.content) :
    (c.under (some p)).plan = (c.under (some q)).plan := by
  have hp : p = { q with status := p.status } := by
    have hcontent := congrArg (fun policy : RoutingPolicy => { policy with status := p.status }) h
    exact hcontent.symm
  rw [hp]
  rfl

lemma bare_of_content {p : RoutingPolicy} (h : Bare p.content) : Bare p :=
  ⟨h.noModel, h.noAgent, h.noContextLimit, h.noToolLimit, h.noQualityFloor⟩

/-- **After a run every policy was there before it or is bare.** -/
theorem mem_run_cases {store : Store} {calls : List Call} {policy : RoutingPolicy}
    (h : policy ∈ (Runs.run callStep store calls).policies.rows) :
    (∃ old ∈ store.policies.rows, old.content = policy.content) ∨ Bare policy := by
  have hcontents := Runs.view_run (V := fun s : Store => contents s.policies) contents_callStep
    store calls
  have hmem : policy.content ∈ contents (Runs.run callStep store calls).policies :=
    List.mem_map_of_mem h
  rw [hcontents] at hmem
  rcases List.mem_append.mp hmem with hold | hcreated
  · obtain ⟨old, hrow, heq⟩ := List.mem_map.mp hold
    exact Or.inl ⟨old, hrow, heq⟩
  · obtain ⟨s, call, -, hcall⟩ := Runs.mem_emitted hcreated
    obtain ⟨_, _, _, _, created, hcreation, heq⟩ := mem_created (Option.mem_toList.mp hcall)
    refine Or.inr (bare_of_content ?_)
    have hbare := bare_newPolicy hcreation
    rw [heq]
    exact ⟨hbare.noModel, hbare.noAgent, hbare.noContextLimit, hbare.noToolLimit,
      hbare.noQualityFloor⟩

/-- **The lifecycle routes by nothing new.**  After any run of decisions, activations and rollbacks
    a request is planned as if there were no policy, but for the version, or exactly by a policy of
    its key that was there before the run. -/
theorem lifecycle_routes_nothing_new (store : Store) (calls : List Call) (c : Collaborators)
    (request : OrchestrationRequest) (principal : Principal) (requestId traceId : String) :
    let after := (Runs.run callStep store calls).policies
    ((c.governed after).plan request principal requestId traceId).map ExecutionPlan.unversioned
        = ((c.under none).plan request principal requestId traceId).map ExecutionPlan.unversioned
      ∨ ∃ policy ∈ store.policies.rows, policy.key = c.routingKey request principal
        ∧ (c.governed after).plan request principal requestId traceId
          = (c.under (some policy)).plan request principal requestId traceId := by
  intro after
  rw [Collaborators.plan_governed, Collaborators.policyFor_governed]
  cases hactive : getActive after (c.routingKey request principal) with
  | error e => exact Or.inl rfl
  | ok found =>
      cases found with
      | none => exact Or.inl rfl
      | some policy =>
          have hrows := getActive_eq_some.mp hactive
          obtain ⟨hrow, hkey, -⟩ := mem_activeRows.mp
            (hrows.symm ▸ List.mem_singleton_self policy :
              policy ∈ activeRows after (c.routingKey request principal))
          rcases mem_run_cases hrow with ⟨old, hold, hcontent⟩ | hbare
          · have hsame := congrArg RoutingPolicy.key hcontent
            refine Or.inr ⟨old, hold, hsame.trans hkey, ?_⟩
            show (c.under (some policy)).plan request principal requestId traceId = _
            rw [plan_under_content hcontent]
          · exact Or.inl (Collaborators.plan_under_bare hbare request principal requestId traceId)

/-! ## One activation -/

section Activation

variable {store : Store} {call : Call} {principal : Option Principal} {activation : Activation}
  {newId : String} {recommendation : OptimizationRecommendation}

/-- What a full activation leaves ACTIVE at each key. -/
lemma activeRows_activation {policy : RoutingPolicy}
    (hleaves : LeavesActivated store call recommendation policy)
    (hkey : policy.key = call.service.targetKey store recommendation)
    (hactive : policy.status = .Active) :
    (∃ front, activeRows (callStep store call).policies
        (call.service.targetKey store recommendation) = front ++ [policy])
      ∧ ∀ key, key ≠ call.service.targetKey store recommendation →
        activeRows (callStep store call).policies key = activeRows store.policies key := by
  have hrows := Table.rows_of_insert? hleaves.1
  constructor
  · refine ⟨activeRows (supersede store.policies (getActivePolicy store.policies
      (call.service.targetKey store recommendation)))
        (call.service.targetKey store recommendation), ?_⟩
    rw [activeRows, hrows, List.filter_append, List.filter_cons_of_pos, List.filter_nil]
    · rfl
    · simp [hkey, hactive]
  · intro key hne
    rw [activeRows, hrows, List.filter_append, List.filter_cons_of_neg, List.filter_nil,
      List.append_nil]
    · show activeRows (supersede _ _) key = _
      rw [activeRows_supersede, List.filter_eq_self]
      intro p hp
      cases hcurrent : getActivePolicy store.policies
          (call.service.targetKey store recommendation) with
      | none => simp
      | some current =>
          -- what is superseded is of the other key
          obtain ⟨hmem, hcurrentKey, -⟩ := mem_of_getActivePolicy hcurrent
          obtain ⟨hprow, hpkey, -⟩ := mem_activeRows.mp hp
          have hid : current.id ≠ p.id := fun hid => hne <| by
            rw [← hpkey, ← store.policies.eq_of_key hmem hprow hid, hcurrentKey]
          simpa using hid
    · simp [hkey, Ne.symm hne]

/-- **A full activation takes its key out of the plans.**  Once an approved recommendation is
    activated in full, requests of its key are planned as if there were no policy, but for the
    version; the limits of the policy that it replaces are gone.  Requests of every other key are
    planned as before. -/
theorem full_activation_unroutes (happly : call.operation = .Apply principal activation newId)
    (hfull : isCanary activation.activationMode = false)
    (hget : store.recommendations.get call.recommendationId = some recommendation)
    (happroved : recommendation.status = .Approved)
    (haccepted : ActivationAccepted store recommendation activation newId)
    (c : Collaborators) (request : OrchestrationRequest) (caller : Principal)
    (requestId traceId : String) :
    (c.routingKey request caller = call.service.targetKey store recommendation →
      ((c.governed (callStep store call).policies).plan request caller requestId traceId).map
          ExecutionPlan.unversioned
        = ((c.under none).plan request caller requestId traceId).map ExecutionPlan.unversioned)
      ∧ (c.routingKey request caller ≠ call.service.targetKey store recommendation →
        (c.governed (callStep store call).policies).plan request caller requestId traceId
          = (c.governed store.policies).plan request caller requestId traceId) := by
  obtain ⟨-, policy, hpolicy, hleaves⟩ :=
    (callStep_apply_approved store happly hget happroved).resolve_right fun h => h.1 haccepted
  obtain ⟨-, hkey, hstatus⟩ := newPolicy_spec hpolicy
  rw [if_neg (by simp [hfull])] at hstatus
  obtain ⟨⟨front, hown⟩, hother⟩ := activeRows_activation hleaves hkey hstatus
  constructor
  · intro hrequest
    rw [Collaborators.plan_governed, Collaborators.policyFor_governed, hrequest, getActive, hown]
    -- two rows or more are a failure of the query, and planning goes on without a policy
    rcases front with _ | ⟨first, _ | ⟨second, rest⟩⟩
    · exact Collaborators.plan_under_bare (bare_newPolicy hpolicy) request caller _ _
    · rfl
    · rfl
  · intro hrequest
    rw [Collaborators.plan_governed, Collaborators.policyFor_governed, Collaborators.plan_governed,
      Collaborators.policyFor_governed, getActive, hother _ hrequest, ← getActive]

end Activation

/-- The live policy, with a limit on the context. -/
def limitedStore : Store where
  __ := sampleStore
  policies := ⟨[{ seedPolicy with maxContextTokens := some 1000 }], by decide⟩

/-- A quality check of one image. -/
def imageRequest : OrchestrationRequest where
  workloadType := "quality_check"
  businessPriority := .Normal
  payload := []
  imageCount := 1

def inspector : Principal where
  subject := "user-2"
  tenantId := "tenant-1"
  assignments := []

/-- **Applying a recommendation lifts the limit.**  A context of a thousand tokens was planned; once
    the recommendation is applied, the request is planned as if there were no policy. -/
theorem activation_lifts_limit :
    ((smallDeployment.governed limitedStore.policies).plan imageRequest inspector "r1"
        "r1").toOption.map ExecutionPlan.maxContextTokens = some (some 1000)
      ∧ ((smallDeployment.governed
            (callStep limitedStore (applyFull "rec-a" "policy-1")).policies).plan
          imageRequest inspector "r1" "r1").map ExecutionPlan.unversioned
        = ((smallDeployment.under none).plan imageRequest inspector "r1" "r1").map
          ExecutionPlan.unversioned := by
  have happly : (applyFull "rec-a" "policy-1").operation
      = .Apply none ⟨"FULL", none, ""⟩ "policy-1" := rfl
  have hget : limitedStore.recommendations.get (applyFull "rec-a" "policy-1").recommendationId
      = some (sampleRecommendation "rec-a" .Approved) := by decide +kernel
  have haccepted : ActivationAccepted limitedStore (sampleRecommendation "rec-a" .Approved)
      ⟨"FULL", none, ""⟩ "policy-1" :=
    ⟨by decide +kernel, by decide +kernel, by simp [FreshId, limitedStore, seedPolicy]⟩
  have hunrouted := full_activation_unroutes happly (by decide +kernel) hget rfl haccepted
    smallDeployment imageRequest inspector "r1" "r1"
  exact ⟨by decide +kernel, hunrouted.1 (by decide +kernel)⟩

end CostPlatform
