import CostPlatform.Lifecycle.Service
import Mathlib.Data.Set.Insert
import Mathlib.Order.SetNotation

/-!
# How many policies are active

A policy table is read here as the map `activeIds` from routing keys to the set of identifiers of
their ACTIVE policies; `UniqueActive` says that no such set has two elements.  The lifecycle
touches the map in three ways — it retires an identifier, it brings one back at its own key, it
adds a fresh one — and `activeIds_setStatus`, `activeIds_insert` say so.

With them a step keeps uniqueness exactly when what it activates is alone at its key
(`uniqueActive_callStep_iff`):

* activating in full supersedes one policy, the one `getActivePolicy` selects, so any other
  ACTIVE policy of the key stays beside the new one;
* a rollback brings back the policy remembered at activation time, whatever became ACTIVE at
  that key since then.
-/

namespace CostPlatform

/-- The identifiers of the ACTIVE policies of a key. -/
def activeIds (policies : PolicyTable) (key : RoutingKey) : Set String :=
  {id | ∃ policy ∈ policies.rows, policy.key = key ∧ policy.status = .Active ∧ policy.id = id}

theorem uniqueActive_iff {policies : PolicyTable} :
    UniqueActive policies ↔ ∀ key, (activeIds policies key).Subsingleton := by
  constructor
  · rintro h key _ ⟨p, hp, hpKey, hpActive, rfl⟩ _ ⟨q, hq, hqKey, hqActive, rfl⟩
    exact h p hp q hq hpActive hqActive (hpKey.trans hqKey.symm)
  · intro h p hp q hq hpActive hqActive hkey
    exact h q.key ⟨p, hp, hkey, hpActive, rfl⟩ ⟨q, hq, rfl, hqActive, rfl⟩

/-! ## The three ways the map changes -/

/-- Any status but ACTIVE retires the policy. -/
lemma activeIds_setStatus_retire {policies : PolicyTable} {policyId : String}
    {status : PolicyStatus} (hstatus : status ≠ .Active) (key : RoutingKey) :
    activeIds (setStatus policies policyId status) key = activeIds policies key \ {policyId} := by
  ext id
  constructor
  · rintro ⟨policy, hmem, hkey, hactive, rfl⟩
    rcases mem_setStatus.mp hmem with ⟨old, -, -, rfl⟩ | ⟨hold, hne⟩
    · exact absurd hactive hstatus
    · exact ⟨⟨policy, hold, hkey, hactive, rfl⟩, hne⟩
  · rintro ⟨⟨policy, hmem, hkey, hactive, rfl⟩, hne⟩
    exact ⟨policy, mem_setStatus.mpr (Or.inr ⟨hmem, hne⟩), hkey, hactive, rfl⟩

/-- ACTIVE brings the policy in at its own key. -/
lemma activeIds_setStatus_active {policies : PolicyTable} {policy : RoutingPolicy}
    (hmem : policy ∈ policies.rows) (key : RoutingKey) :
    activeIds (setStatus policies policy.id .Active) key
      = activeIds policies key ∪ {id | id = policy.id ∧ policy.key = key} := by
  ext id
  constructor
  · rintro ⟨p, hp, hkey, hactive, rfl⟩
    rcases mem_setStatus.mp hp with ⟨old, hold, hid, rfl⟩ | ⟨hold, -⟩
    · obtain rfl := policies.eq_of_key hold hmem hid
      exact Or.inr ⟨rfl, hkey⟩
    · exact Or.inl ⟨p, hold, hkey, hactive, rfl⟩
  · rintro (⟨p, hp, hkey, hactive, rfl⟩ | ⟨rfl, hkey⟩)
    · by_cases hid : p.id = policy.id
      · refine ⟨{ p with status := .Active }, mem_setStatus.mpr ?_, hkey, rfl, rfl⟩
        exact Or.inl ⟨p, hp, hid, rfl⟩
      · exact ⟨p, mem_setStatus.mpr (Or.inr ⟨hp, hid⟩), hkey, hactive, rfl⟩
    · refine ⟨{ policy with status := .Active }, mem_setStatus.mpr ?_, hkey, rfl, rfl⟩
      exact Or.inl ⟨policy, hmem, rfl, rfl⟩

lemma setStatus_of_missing {policies : PolicyTable} {policyId : String} {status : PolicyStatus}
    (hmissing : ∀ p ∈ policies.rows, p.id ≠ policyId) :
    setStatus policies policyId status = policies := by
  refine Table.ext ?_
  simp only [setStatus, Table.modify]
  refine (List.map_congr_left fun p hp => ?_).trans (List.map_id _)
  exact if_neg (hmissing p hp)

lemma activeIds_insert {policies policies' : PolicyTable} {policy : RoutingPolicy}
    (h : policies.insert? policy = some policies') (key : RoutingKey) :
    activeIds policies' key
      = activeIds policies key
          ∪ {id | id = policy.id ∧ policy.key = key ∧ policy.status = .Active} := by
  ext id
  simp only [activeIds, Set.mem_ofPred_eq, Table.rows_of_insert? h, List.mem_append,
    List.mem_singleton, Set.mem_union]
  constructor
  · rintro ⟨p, hp | rfl, hkey, hactive, rfl⟩
    · exact Or.inl ⟨p, hp, hkey, hactive, rfl⟩
    · exact Or.inr ⟨rfl, hkey, hactive⟩
  · rintro (⟨p, hp, hkey, hactive, rfl⟩ | ⟨rfl, hkey, hactive⟩)
    · exact ⟨p, Or.inl hp, hkey, hactive, rfl⟩
    · exact ⟨policy, Or.inr rfl, hkey, hactive, rfl⟩

/-- Adding one element to a set leaves at most one element exactly when nothing else was there. -/
lemma subsingleton_union_singleton {α : Type*} {s : Set α} {a : α} :
    (s ∪ {a}).Subsingleton ↔ ∀ x ∈ s, x = a := by
  constructor
  · intro h x hx
    exact h (Or.inl hx) (Or.inr rfl)
  · rintro h x (hx | rfl) y (hy | rfl)
    · exact (h x hx).trans (h y hy).symm
    · exact h x hx
    · exact (h y hy).symm
    · rfl

/-- The same, for a map that changes at one key. -/
lemma forall_subsingleton_union_iff {κ α : Type*} {s : κ → Set α} {k : κ} {a : α}
    (hs : ∀ key, (s key).Subsingleton) :
    (∀ key, (s key ∪ {x | x = a ∧ k = key}).Subsingleton) ↔ ∀ x ∈ s k, x = a := by
  constructor
  · intro h
    have hk : (s k ∪ {a}).Subsingleton := by simpa using h k
    exact subsingleton_union_singleton.mp hk
  · intro h key
    by_cases hkey : k = key
    · subst hkey
      simpa using subsingleton_union_singleton.mpr h
    · simpa [hkey] using hs key

/-! ## What a rollback and an activation make active -/

/-- The policies live at a key once the superseded one is out. -/
lemma activeIds_supersede (policies : PolicyTable) (current : Option RoutingPolicy)
    (key : RoutingKey) :
    activeIds (supersede policies current) key
      = {id ∈ activeIds policies key | ∀ policy ∈ current, id ≠ policy.id} := by
  cases current with
  | none => simp [supersede]
  | some policy =>
      rw [supersede, activeIds_setStatus_retire (by decide)]
      ext id
      simp

lemma activeIds_setStatusIfNamed_retire {policies : PolicyTable} {policyId : Option String}
    {status : PolicyStatus} (hstatus : status ≠ .Active) (key : RoutingKey) :
    activeIds (setStatusIfNamed policies policyId status) key
      = {id ∈ activeIds policies key | PyString.truthy policyId ≠ some id} := by
  simp only [setStatusIfNamed]
  cases PyString.truthy policyId with
  | none => simp
  | some named =>
      dsimp only
      rw [activeIds_setStatus_retire hstatus]
      ext id
      simp [eq_comm]

/-- Setting a status neither adds nor removes rows, and leaves every key where it was. -/
lemma mem_setStatusIfNamed_iff {policies : PolicyTable} {policyId : Option String}
    {status : PolicyStatus} {id : String} {key : RoutingKey} :
    (∃ p ∈ (setStatusIfNamed policies policyId status).rows, p.id = id ∧ p.key = key)
      ↔ ∃ p ∈ policies.rows, p.id = id ∧ p.key = key := by
  simp only [setStatusIfNamed]
  cases PyString.truthy policyId with
  | none => rfl
  | some named =>
      dsimp only
      constructor
      · rintro ⟨p, hp, hid, hkey⟩
        rcases mem_setStatus.mp hp with ⟨old, hold, -, rfl⟩ | ⟨hold, -⟩
        · exact ⟨old, hold, hid, hkey⟩
        · exact ⟨p, hold, hid, hkey⟩
      · rintro ⟨p, hp, hid, hkey⟩
        by_cases hnamed : p.id = named
        · exact ⟨{ p with status := status }, mem_setStatus.mpr (Or.inl ⟨p, hp, hnamed, rfl⟩),
            hid, hkey⟩
        · exact ⟨p, mem_setStatus.mpr (Or.inr ⟨hp, hnamed⟩), hid, hkey⟩

/-! ## One call -/

/-- **What a call must find to keep every key at one ACTIVE policy.**

    * An activation in full that gets past its guards: no ACTIVE policy of its key but the one
      it supersedes.
    * A rollback that brings a policy back: no ACTIVE policy at that one's key but itself and
      the policy being rolled back.
    * Any other call: nothing. -/
def Call.LeavesOneActive (store : Store) (call : Call) : Prop :=
  match call.operation with
  | .Approve _ _ _ _ => True
  | .Apply _ activation newId =>
      ∀ recommendation, Activatable store call.recommendationId recommendation →
        isCanary activation.activationMode = false → FreshId store.policies newId →
        ∀ p ∈ store.policies.rows, p.status = .Active →
          p.key = call.service.targetKey store recommendation →
          getActivePolicy store.policies (call.service.targetKey store recommendation) = some p
  | .Rollback =>
      ∀ recommendation, store.recommendations.get call.recommendationId = some recommendation →
        recommendation.status = .Applied →
        ∀ superseded,
          (PyString.truthy recommendation.supersededPolicyId).bind store.policies.get
              = some superseded →
          ∀ p ∈ store.policies.rows, p.status = .Active → p.key = superseded.key →
            p.id = superseded.id
              ∨ PyString.truthy recommendation.appliedPolicyId = some p.id

/-- After an activation, a key holds what it held, less the superseded policy, and the new one
    if it is in full. -/
lemma uniqueActive_activation_iff {policies policies' : PolicyTable} {policy : RoutingPolicy}
    (hunique : UniqueActive policies)
    (hinsert : (supersede policies (getActivePolicy policies policy.key)).insert? policy
      = some policies') :
    UniqueActive policies'
      ↔ (policy.status = .Active → ∀ p ∈ policies.rows, p.status = .Active →
          p.key = policy.key → getActivePolicy policies policy.key = some p) := by
  have hfresh : FreshId policies policy.id := insert_supersede_isSome.mp ⟨_, hinsert⟩
  have hrest : ∀ key, (activeIds (supersede policies (getActivePolicy policies policy.key))
      key).Subsingleton := by
    intro key
    rw [activeIds_supersede]
    exact (uniqueActive_iff.mp hunique key).anti (Set.sep_subset _ _)
  rw [uniqueActive_iff]
  simp only [activeIds_insert hinsert]
  by_cases hactive : policy.status = .Active
  · simp only [hactive, and_true, true_imp_iff]
    refine (forall_subsingleton_union_iff hrest).trans ?_
    rw [activeIds_supersede]
    constructor
    · -- an ACTIVE policy that is not superseded would have to be the new one
      intro h p hp hpActive hpKey
      by_contra hother
      have hlive : p.id ∈ {id ∈ activeIds policies policy.key |
          ∀ q ∈ getActivePolicy policies policy.key, id ≠ q.id} := by
        refine ⟨⟨p, hp, hpKey, hpActive, rfl⟩, fun q hq hid => hother ?_⟩
        rw [policies.eq_of_key hp (mem_of_getActivePolicy hq).1 hid]
        exact hq
      exact hfresh p hp (h p.id hlive)
    · rintro h _ ⟨⟨p, hp, hpKey, hpActive, rfl⟩, hout⟩
      exact absurd rfl (hout p (h p hp hpActive hpKey))
  · simp only [hactive, and_false, Set.ofPred_false, Set.union_empty, false_imp_iff, iff_true]
    exact hrest

/-- After a rollback, a key holds what it held, less the applied policy, and the superseded one
    if it exists. -/
lemma uniqueActive_rollback_iff {policies : PolicyTable}
    {recommendation : OptimizationRecommendation} (hunique : UniqueActive policies) :
    UniqueActive (rolledBackPolicies policies recommendation)
      ↔ ∀ superseded,
          (PyString.truthy recommendation.supersededPolicyId).bind policies.get
              = some superseded →
          ∀ p ∈ policies.rows, p.status = .Active → p.key = superseded.key →
            p.id = superseded.id
              ∨ PyString.truthy recommendation.appliedPolicyId = some p.id := by
  simp only [rolledBackPolicies]
  set retired := setStatusIfNamed policies recommendation.appliedPolicyId .RolledBack
    with hretired
  have hactive : ∀ key, activeIds retired key
      = {id ∈ activeIds policies key |
          PyString.truthy recommendation.appliedPolicyId ≠ some id} :=
    activeIds_setStatusIfNamed_retire (by decide)
  have hrest : ∀ key, (activeIds retired key).Subsingleton := by
    intro key
    rw [hactive]
    exact (uniqueActive_iff.mp hunique key).anti (Set.sep_subset _ _)
  cases hnamed : PyString.truthy recommendation.supersededPolicyId with
  | none =>
      simp only [setStatusIfNamed, hnamed, Option.bind_none, reduceCtorEq, false_imp_iff]
      exact iff_of_true (uniqueActive_iff.mpr hrest) fun _ => trivial
  | some named =>
      simp only [setStatusIfNamed, hnamed, Option.bind_some]
      cases hget : policies.get named with
      | none =>
          -- the named policy is gone, so nothing is brought back
          have hmissing : ∀ p ∈ retired.rows, p.id ≠ named := by
            intro p hp hid
            obtain ⟨old, hold, holdId, -⟩ := mem_setStatusIfNamed_iff.mp ⟨p, hp, hid, rfl⟩
            exact Table.get_eq_none.mp hget old hold holdId
          rw [setStatus_of_missing hmissing]
          simp only [reduceCtorEq, false_imp_iff]
          exact iff_of_true (uniqueActive_iff.mpr hrest) fun _ => trivial
      | some superseded =>
          obtain ⟨hmem, rfl⟩ := Table.get_eq_some.mp hget
          obtain ⟨kept, hkept, hkeptId, hkeptKey⟩ :
              ∃ p ∈ retired.rows, p.id = superseded.id ∧ p.key = superseded.key :=
            mem_setStatusIfNamed_iff.mpr ⟨superseded, hmem, rfl, rfl⟩
          rw [← hkeptId, uniqueActive_iff]
          simp only [activeIds_setStatus_active hkept]
          refine (forall_subsingleton_union_iff hrest).trans ?_
          simp only [hactive, Option.some.injEq, forall_eq', hkeptKey, hkeptId]
          constructor
          · intro h p hp hpActive hpKey
            by_cases hid : PyString.truthy recommendation.appliedPolicyId = some p.id
            · exact Or.inr hid
            · exact Or.inl (h p.id ⟨⟨p, hp, hpKey, hpActive, rfl⟩, hid⟩)
          · rintro h _ ⟨⟨p, hp, hpKey, hpActive, rfl⟩, hid⟩
            exact (h p hp hpActive hpKey).resolve_right hid

/-- **One call, exactly.**  From a store with at most one ACTIVE policy per key, a call leaves
    at most one per key exactly when it finds what `LeavesOneActive` says. -/
theorem uniqueActive_callStep_iff {store : Store} (call : Call)
    (hunique : UniqueActive store.policies) :
    UniqueActive (callStep store call).policies ↔ call.LeavesOneActive store := by
  simp only [Call.LeavesOneActive]
  cases hoperation : call.operation with
  | Approve principal approved reason override =>
      rcases callStep_approve_cases store hoperation with
        ⟨_, _, _, _, hpolicies⟩ | ⟨hrefused, _⟩
      · rw [hpolicies]
        exact iff_of_true hunique trivial
      · rw [hrefused]
        exact iff_of_true hunique trivial
  | Apply principal activation newId =>
      rcases callStep_apply_cases store hoperation with
        ⟨recommendation, policy, hactivatable, hpolicy, hinsert, -⟩ | ⟨hrefused, hnever⟩
      · obtain ⟨hid, hkey, hstatus⟩ := newPolicy_spec hpolicy
        have hfresh : FreshId store.policies newId := by
          rw [← hid]
          exact insert_supersede_isSome.mp ⟨_, hinsert⟩
        rw [← hkey] at hinsert
        rw [uniqueActive_activation_iff hunique hinsert, hkey, hstatus]
        constructor
        · intro h recommendation' hactivatable' hfull hfresh
          obtain rfl : recommendation' = recommendation :=
            Option.some.inj (hactivatable'.1.symm.trans hactivatable.1)
          exact h (by simp [hfull])
        · intro h hactive
          refine h recommendation hactivatable ?_ hfresh
          by_contra hcanary
          simp [hcanary] at hactive
      · rw [hrefused]
        refine iff_of_true hunique fun recommendation hactivatable hfull hfresh => ?_
        -- nothing could have refused it
        obtain ⟨policy, hpolicy⟩ :
            ∃ policy, newPolicy? store recommendation
              (call.service.targetKey store recommendation) (creatorSubject principal)
              activation newId call.now = some policy :=
          newPolicy_isSome fun hcanary => by simp [hfull] at hcanary
        rw [← (newPolicy_spec hpolicy).1] at hfresh
        obtain ⟨policies, hinsert⟩ := insert_supersede_isSome.mpr hfresh
        exact absurd hinsert (hnever recommendation policy policies hactivatable hpolicy)
  | Rollback =>
      rcases callStep_rollback_cases store hoperation with
        ⟨recommendation, hget, hstatus, hpolicies, -⟩ | ⟨hrefused, hnever⟩
      · rw [hpolicies, uniqueActive_rollback_iff hunique]
        constructor
        · intro h recommendation' hget' _
          obtain rfl : recommendation' = recommendation :=
            Option.some.inj (hget'.symm.trans hget)
          exact h
        · intro h
          exact h recommendation hget hstatus
      · rw [hrefused]
        refine iff_of_true hunique fun recommendation hget hstatus => ?_
        exact absurd hstatus (hnever recommendation hget)

/-! ## Whole runs -/

/-- **Every interleaving, exactly.**  A run of approvals, activations and rollbacks keeps every
    key at one ACTIVE policy in every store it visits exactly when each of its calls finds what
    `LeavesOneActive` asks for. -/
theorem run_keeps_one_active_iff (store : Store) (calls : List Call)
    (hunique : UniqueActive store.policies) :
    Runs.Throughout callStep (fun s => UniqueActive s.policies) store calls
      ↔ Runs.Along callStep (fun s call => call.LeavesOneActive s) store calls :=
  Runs.throughout_iff_along (I := fun s : Store => UniqueActive s.policies)
    (fun _ call h => uniqueActive_callStep_iff call h) hunique

/-! ## A run that breaks it -/

/-- Two activations taken back in the wrong order: rolling the first one back reactivates the
    seed policy beside the second one's. -/
theorem rollback_out_of_order_leaves_two_active :
    UniqueActive sampleStore.policies
      ∧ ¬ Runs.Throughout callStep (fun s => UniqueActive s.policies) sampleStore
          [applyFull "rec-a" "policy-1", applyFull "rec-b" "policy-2", rollback "rec-a"] := by
  decide +kernel

/-- Taken back in the right order, they keep the invariant and meet the condition. -/
theorem rollback_in_order_leaves_one_active :
    Runs.Along callStep (fun s call => call.LeavesOneActive s) sampleStore
      [applyFull "rec-a" "policy-1", applyFull "rec-b" "policy-2", rollback "rec-b",
        rollback "rec-a"] :=
  (run_keeps_one_active_iff sampleStore _ (by decide +kernel)).mp (by decide +kernel)

end CostPlatform
