import CostPlatform.Lifecycle.Service

/-!
# What a canary leaves in force

The write side and the read side of a canary do not agree.  An activation replaces the policy that
`get_active_policy` selects among the ACTIVE and CANARY ones, and `get_active`, which the
orchestrator asks, reads ACTIVE rows only.  So a canary that replaces the ACTIVE policy of its key
leaves the orchestrator with none (`canary_keeps_coverage_iff`).
-/

namespace CostPlatform

/-- Superseding takes one policy out of what the orchestrator's lookup selects. -/
lemma activeRows_supersede (policies : PolicyTable) (current : Option RoutingPolicy)
    (key : RoutingKey) :
    activeRows (supersede policies current) key
      = (activeRows policies key).filter fun p => current.map RoutingPolicy.id ≠ some p.id := by
  cases current with
  | none => simp [supersede]
  | some policy =>
      simp only [activeRows, supersede, setStatus, Option.map_some]
      rw [Table.filter_modify _ _ _ _ _ fun _ => by simp]
      simp only [ne_eq, Option.some.injEq, eq_comm]

/-- A new canary adds nothing to it. -/
lemma activeRows_insert_of_not_active {policies policies' : PolicyTable} {policy : RoutingPolicy}
    (h : policies.insert? policy = some policies') (hstatus : policy.status ≠ .Active)
    (key : RoutingKey) : activeRows policies' key = activeRows policies key := by
  simp [activeRows, Table.rows_of_insert? h, hstatus]

lemma getActive_eq_some {policies : PolicyTable} {key : RoutingKey} {policy : RoutingPolicy} :
    getActive policies key = .ok (some policy) ↔ activeRows policies key = [policy] := by
  simp only [getActive]
  rcases activeRows policies key with _ | ⟨only, _ | ⟨second, rest⟩⟩
  · simp
  · simp
  · simp

/-- Where the orchestrator's lookup found a policy, it still finds one. -/
def KeepsCoverage (store store' : Store) : Prop :=
  ∀ key policy, getActive store.policies key = .ok (some policy) →
    ∃ policy', getActive store'.policies key = .ok (some policy')

section Coverage

variable {store : Store} {call : Call} {principal : Option Principal} {activation : Activation}
  {newId : String} {recommendation : OptimizationRecommendation}

/-- The policy the orchestrator uses for the key of the activation is not the one the activation
    would replace. -/
def SparesActive (store : Store) (service : PolicyLifecycleService)
    (recommendation : OptimizationRecommendation) : Prop :=
  ∀ policy,
    getActive store.policies (service.targetKey store recommendation) = .ok (some policy) →
    getActivePolicy store.policies (service.targetKey store recommendation) ≠ some policy

/-- **Coverage under a canary, exactly.**  A canary leaves every key that had a policy with one
    exactly when it is refused, or the policy in force at its own key is not the one it
    replaces. -/
theorem canary_keeps_coverage_iff (happly : call.operation = .Apply principal activation newId)
    (hcanary : isCanary activation.activationMode = true)
    (hget : store.recommendations.get call.recommendationId = some recommendation)
    (happroved : recommendation.status = .Approved) :
    KeepsCoverage store (callStep store call)
      ↔ (ActivationAccepted store recommendation activation newId →
        SparesActive store call.service recommendation) := by
  rcases callStep_apply_approved store happly hget happroved with
    ⟨haccepted, added, hadded, hinsert, -⟩ | ⟨hnot, hrefused⟩
  · simp only [haccepted, true_imp_iff]
    have hstatus : added.status ≠ .Active := by
      rw [(newPolicy_spec hadded).2.2, if_pos hcanary]
      decide
    have hrows : ∀ key, activeRows (callStep store call).policies key
        = (activeRows store.policies key).filter fun p =>
          (getActivePolicy store.policies
            (call.service.targetKey store recommendation)).map RoutingPolicy.id ≠ some p.id := by
      intro key
      rw [activeRows_insert_of_not_active hinsert hstatus, activeRows_supersede]
    constructor
    · intro hkeeps policy hactive hreplaced
      obtain ⟨policy', hactive'⟩ := hkeeps _ policy hactive
      rw [getActive_eq_some, hrows, getActive_eq_some.mp hactive, hreplaced] at hactive'
      simp at hactive'
    · intro hspares key policy hactive
      refine ⟨policy, ?_⟩
      rw [getActive_eq_some, hrows, getActive_eq_some.mp hactive, List.filter_eq_self]
      intro p hp
      obtain rfl := List.mem_singleton.mp hp
      refine decide_eq_true fun hreplaced => ?_
      -- the replaced policy is the one in force at the key of the activation
      obtain ⟨current, hcurrent, hid⟩ := Option.map_eq_some_iff.mp hreplaced
      obtain ⟨hmem, hkey, -⟩ := mem_of_getActivePolicy hcurrent
      have hrow : p ∈ activeRows store.policies key := by
        rw [getActive_eq_some.mp hactive]
        exact hp
      obtain ⟨hpolicy, hpolicyKey, -⟩ := mem_activeRows.mp hrow
      obtain rfl := store.policies.eq_of_key hmem hpolicy hid
      rw [← hpolicyKey, hkey] at hactive
      exact hspares current hactive hcurrent
  · simp only [hnot, false_imp_iff, iff_true]
    rw [hrefused]
    exact fun _ policy hactive => ⟨policy, hactive⟩

end Coverage

/-- A canary on trial beside the policy in force. -/
def trialPolicy : RoutingPolicy :=
  { seedPolicy with
    id := "policy-t"
    version := 2
    status := .Canary
    versionPositive := by decide }

def trialStore : Store :=
  { sampleStore with policies := ⟨[seedPolicy, trialPolicy], by decide⟩ }

/-- A second canary replaces the one on trial, and the policy in force stays. -/
theorem canary_replaces_canary :
    KeepsCoverage trialStore (callStep trialStore (applyCanary "rec-a" "policy-1")) := by
  have hget : trialStore.recommendations.get (applyCanary "rec-a" "policy-1").recommendationId
      = some (sampleRecommendation "rec-a" .Approved) := by
    decide +kernel
  have hreplaced : getActivePolicy trialStore.policies (routeService.targetKey trialStore
      (sampleRecommendation "rec-a" .Approved)) = some trialPolicy := by
    decide +kernel
  have hactive : getActive trialStore.policies (routeService.targetKey trialStore
      (sampleRecommendation "rec-a" .Approved)) = .ok (some seedPolicy) := by
    rw [getActive_eq_some]
    decide +kernel
  have happly : (applyCanary "rec-a" "policy-1").operation
      = .Apply none ⟨"CANARY", some 10, ""⟩ "policy-1" := rfl
  refine (canary_keeps_coverage_iff happly (by decide) hget rfl).mpr ?_
  intro _ policy hpolicy hcurrent
  obtain rfl := Option.some.inj (Except.ok.inj (hactive.symm.trans hpolicy))
  obtain hsame := Option.some.inj (hreplaced.symm.trans hcurrent)
  exact absurd (congrArg RoutingPolicy.id hsame) (by decide)

/-- A canary over the ACTIVE policy leaves the orchestrator without one. -/
theorem canary_removes_coverage :
    ¬ KeepsCoverage sampleStore (callStep sampleStore (applyCanary "rec-a" "policy-1")) := by
  intro hkeeps
  have hbefore : getActive sampleStore.policies ⟨"tenant-1", "quality_check", .Medium⟩
      = .ok (some seedPolicy) := by
    rw [getActive_eq_some]
    decide +kernel
  obtain ⟨policy, hafter⟩ := hkeeps _ _ hbefore
  have hnone : activeRows (callStep sampleStore (applyCanary "rec-a" "policy-1")).policies
      ⟨"tenant-1", "quality_check", .Medium⟩ = [] := by
    decide +kernel
  rw [getActive_eq_some, hnone] at hafter
  cases hafter

end CostPlatform
