import CostPlatform.Lifecycle.Service

/-!
# The life of a recommendation

The status graph a recommendation is meant to follow, and the runs that follow it.

    DRAFT / PENDING_APPROVAL  ->  APPROVED  ->  APPLIED  ->  ROLLED_BACK
                              \->  REJECTED

Activation and rollback check the status they start from; a decision does not.  So a call
follows the graph exactly when a decision that gets past its authorization finds the
recommendation still undecided, or repeats the decision it already carries
(`legalStep_callStep_iff`).

`creations` counts the policy versions one recommendation has brought into being.  On a legal run
it stays at one or below, because the number of activations still open to a recommendation,
`openActivations`, pays for every version and never grows.
-/

namespace CostPlatform

/-- The edges of the graph. -/
def OptimizationStatus.mayBecome : OptimizationStatus → OptimizationStatus → Bool
  | .Draft, .Approved | .Draft, .Rejected => true
  | .PendingApproval, .Approved | .PendingApproval, .Rejected => true
  | .Approved, .Applied => true
  | .Applied, .RolledBack => true
  | _, _ => false

/-- The status of a recommendation, where it exists. -/
def statusOf (store : Store) (id : String) : Option OptimizationStatus :=
  (store.recommendations.get id).map OptimizationRecommendation.status

/-- Every recommendation stays where it was or moves along an edge. -/
def LegalStep (store store' : Store) : Prop :=
  ∀ id, statusOf store' id = statusOf store id
    ∨ ∃ before after, statusOf store id = some before ∧ statusOf store' id = some after
        ∧ before.mayBecome after = true

/-! ## One call -/

/-- A decision that gets past its authorization finds the recommendation undecided, or repeats
    the decision it carries. -/
def Call.DecidesPending (store : Store) (call : Call) : Prop :=
  match call.operation with
  | .Approve principal approved _ override =>
      ∀ recommendation, store.recommendations.get call.recommendationId = some recommendation →
        call.service.authorizeDecision recommendation principal override = .ok () →
        recommendation.status = .Draft ∨ recommendation.status = .PendingApproval
          ∨ recommendation.status = if approved then .Approved else .Rejected
  | .Apply _ _ _ => True
  | .Rollback => True

lemma statusOf_modify {store store' : Store} {recommendationId : String}
    {f : OptimizationRecommendation → OptimizationRecommendation}
    {hf : ∀ r, (f r).id = r.id} {status : OptimizationStatus}
    (h : store'.recommendations = store.recommendations.modify recommendationId f hf)
    (hstatus : ∀ r, (f r).status = status) (id : String) :
    statusOf store' id
      = if id = recommendationId then (statusOf store id).map fun _ => status
        else statusOf store id := by
  simp only [statusOf]
  rw [h, Table.get_modify]
  split_ifs with hid
  · subst hid
    cases store.recommendations.get id <;> simp [hstatus]
  · rfl

/-- Rewriting the status of one existing recommendation is legal exactly when the new status is
    the old one or the end of an edge. -/
lemma legalStep_of_modify {store store' : Store} {recommendationId : String}
    {f : OptimizationRecommendation → OptimizationRecommendation}
    {hf : ∀ r, (f r).id = r.id} {status : OptimizationStatus}
    {recommendation : OptimizationRecommendation}
    (h : store'.recommendations = store.recommendations.modify recommendationId f hf)
    (hstatus : ∀ r, (f r).status = status)
    (hget : store.recommendations.get recommendationId = some recommendation) :
    LegalStep store store'
      ↔ status = recommendation.status ∨ recommendation.status.mayBecome status = true := by
  have hbefore : statusOf store recommendationId = some recommendation.status := by
    rw [statusOf, hget, Option.map_some]
  have hafter : statusOf store' recommendationId = some status := by
    rw [statusOf_modify h hstatus, if_pos rfl, hbefore, Option.map_some]
  constructor
  · intro hlegal
    rcases hlegal recommendationId with hsame | ⟨before, after, hb, ha, hedge⟩
    · rw [hafter, hbefore] at hsame
      exact Or.inl (Option.some.inj hsame)
    · rw [hbefore] at hb
      rw [hafter] at ha
      rw [Option.some.inj hb, Option.some.inj ha]
      exact Or.inr hedge
  · intro hmove id
    by_cases hid : id = recommendationId
    · subst hid
      rw [hafter, hbefore]
      rcases hmove with rfl | hedge
      · exact Or.inl rfl
      · exact Or.inr ⟨_, _, rfl, rfl, hedge⟩
    · exact Or.inl (by rw [statusOf_modify h hstatus, if_neg hid])

lemma legalStep_refl (store : Store) : LegalStep store store := fun _ => Or.inl rfl

/-- **One call, exactly.**  A call follows the status graph exactly when it decides nothing that
    is already decided otherwise. -/
theorem legalStep_callStep_iff (store : Store) (call : Call) :
    LegalStep store (callStep store call) ↔ call.DecidesPending store := by
  simp only [Call.DecidesPending]
  cases hoperation : call.operation with
  | Approve principal approved reason override =>
      rcases callStep_approve_cases store hoperation with
        ⟨recommendation, hget, hauth, hrecommendations, -⟩ | ⟨hrefused, hnever⟩
      · rw [legalStep_of_modify hrecommendations (fun r => decided_status r _ _ _ _) hget]
        have hedge : recommendation.status.mayBecome (if approved then .Approved else .Rejected)
              = true
            ↔ recommendation.status = .Draft ∨ recommendation.status = .PendingApproval := by
          cases approved <;> cases recommendation.status <;> decide
        rw [hedge]
        constructor
        · intro h recommendation' hget' _
          obtain rfl : recommendation' = recommendation :=
            Option.some.inj (hget'.symm.trans hget)
          rcases h with hsame | hdraft | hpending
          · exact Or.inr (Or.inr hsame.symm)
          · exact Or.inl hdraft
          · exact Or.inr (Or.inl hpending)
        · intro h
          rcases h recommendation hget hauth with hdraft | hpending | hsame
          · exact Or.inr (Or.inl hdraft)
          · exact Or.inr (Or.inr hpending)
          · exact Or.inl hsame.symm
      · rw [hrefused]
        refine iff_of_true (legalStep_refl store) fun recommendation hget hauth => ?_
        exact absurd hauth (hnever recommendation hget)
  | Apply principal activation newId =>
      refine iff_of_true ?_ trivial
      rcases callStep_apply_cases store hoperation with
        ⟨recommendation, policy, ⟨hget, hstatus, -⟩, -, -, hrecommendations⟩ | ⟨hrefused, -⟩
      · rw [legalStep_of_modify hrecommendations (fun _ => rfl) hget, hstatus]
        exact Or.inr rfl
      · rw [hrefused]
        exact legalStep_refl store
  | Rollback =>
      refine iff_of_true ?_ trivial
      rcases callStep_rollback_cases store hoperation with
        ⟨recommendation, hget, hstatus, -, hrecommendations⟩ | ⟨hrefused, -⟩
      · rw [legalStep_of_modify hrecommendations (fun _ => rfl) hget, hstatus]
        exact Or.inr rfl
      · rw [hrefused]
        exact legalStep_refl store

/-! ## How many versions a recommendation creates -/

/-- The policy versions one call on the recommendation adds. -/
def stepCreations (id : String) (store : Store) (call : Call) : Nat :=
  if call.recommendationId = id then
    (callStep store call).policies.rows.length - store.policies.rows.length
  else 0

/-- The policy versions the calls on a recommendation add along a run. -/
def creations (id : String) : Store → List Call → Nat
  | _, [] => 0
  | store, call :: calls =>
      stepCreations id store call + creations id (callStep store call) calls

/-- The activations a status still leaves open. -/
def openActivations : Option OptimizationStatus → Nat
  | some .Draft | some .PendingApproval | some .Approved => 1
  | _ => 0

lemma openActivations_le_one (status : Option OptimizationStatus) :
    openActivations status ≤ 1 := by
  cases status with
  | none => decide
  | some status => cases status <;> decide

/-- Moving along an edge opens no activation, and the one into APPLIED uses one up. -/
lemma openActivations_of_mayBecome {before after : OptimizationStatus}
    (h : before.mayBecome after = true) :
    openActivations (some after) + (if after = .Applied then 1 else 0)
      ≤ openActivations (some before) := by
  cases before <;> cases after <;> simp_all [OptimizationStatus.mayBecome, openActivations]

lemma openActivations_legal {store store' : Store} (hlegal : LegalStep store store')
    (id : String) : openActivations (statusOf store' id) ≤ openActivations (statusOf store id) := by
  rcases hlegal id with hsame | ⟨before, after, hb, ha, hedge⟩
  · rw [hsame]
  · rw [hb, ha]
    have := openActivations_of_mayBecome hedge
    omega

lemma length_setStatus (policies : PolicyTable) (policyId : String) (status : PolicyStatus) :
    (setStatus policies policyId status).rows.length = policies.rows.length :=
  Table.length_modify _ _ _ _

lemma length_setStatusIfNamed (policies : PolicyTable) (policyId : Option String)
    (status : PolicyStatus) :
    (setStatusIfNamed policies policyId status).rows.length = policies.rows.length := by
  simp only [setStatusIfNamed]
  cases PyString.truthy policyId with
  | none => rfl
  | some named => exact length_setStatus policies named status

lemma length_supersede (policies : PolicyTable) (current : Option RoutingPolicy) :
    (supersede policies current).rows.length = policies.rows.length := by
  cases current with
  | none => rfl
  | some policy => exact length_setStatus policies policy.id .Superseded

/-- **Every version is paid for.**  What a legal call adds to the versions of a recommendation
    it takes from the activations still open to it. -/
lemma stepCreations_add_open_le {store : Store} {call : Call}
    (hlegal : LegalStep store (callStep store call)) (id : String) :
    stepCreations id store call + openActivations (statusOf (callStep store call) id)
      ≤ openActivations (statusOf store id) := by
  have hopen := openActivations_legal hlegal id
  simp only [stepCreations]
  split_ifs with hid
  · cases hoperation : call.operation with
    | Approve principal approved reason override =>
        rcases callStep_approve_cases store hoperation with
          ⟨_, _, _, _, hpolicies⟩ | ⟨hrefused, _⟩
        · rw [hpolicies]
          omega
        · rw [hrefused]
          omega
    | Apply principal activation newId =>
        rcases callStep_apply_cases store hoperation with
          ⟨recommendation, policy, ⟨hget, hstatus, -⟩, -, hinsert, hrecommendations⟩
            | ⟨hrefused, _⟩
        · have hlength : (callStep store call).policies.rows.length
              = store.policies.rows.length + 1 := by
            rw [Table.rows_of_insert? hinsert, List.length_append, length_supersede,
              List.length_singleton]
          have hbefore : statusOf store id = some .Approved := by
            rw [← hid, statusOf, hget, Option.map_some, hstatus]
          have hafter : statusOf (callStep store call) id = some .Applied := by
            rw [statusOf_modify hrecommendations (fun _ => rfl), if_pos hid.symm, hbefore,
              Option.map_some]
          rw [hlength, hbefore, hafter]
          simp [openActivations]
        · rw [hrefused]
          omega
    | Rollback =>
        rcases callStep_rollback_cases store hoperation with
          ⟨recommendation, _, _, hpolicies, _⟩ | ⟨hrefused, _⟩
        · rw [hpolicies, rolledBackPolicies, length_setStatusIfNamed, length_setStatusIfNamed]
          omega
        · rw [hrefused]
          omega
  · omega

/-- A legal run creates at most the versions that were open at its start. -/
theorem creations_le_open {store : Store} {calls : List Call}
    (hlegal : Runs.Along callStep (fun s call => LegalStep s (callStep s call)) store calls)
    (id : String) : creations id store calls ≤ openActivations (statusOf store id) := by
  induction calls generalizing store with
  | nil => exact Nat.zero_le _
  | cons call calls ih =>
      have hstep := stepCreations_add_open_le hlegal.1 id
      have hrest := ih hlegal.2
      simp only [creations]
      omega

/-! ## Whole runs -/

/-- **The lifecycle of every run, exactly.**  Every recommendation moves along the status graph
    and creates at most one policy version exactly when every authorized decision of the run is
    taken on an undecided recommendation or repeats the decision it carries. -/
theorem run_follows_lifecycle_iff (store : Store) (calls : List Call) :
    (Runs.Along callStep (fun s call => LegalStep s (callStep s call)) store calls
      ∧ ∀ id, creations id store calls ≤ 1)
      ↔ Runs.Along callStep (fun s call => call.DecidesPending s) store calls := by
  rw [← Runs.along_congr legalStep_callStep_iff]
  constructor
  · exact And.left
  · intro hlegal
    exact ⟨hlegal, fun id =>
      (creations_le_open hlegal id).trans (openActivations_le_one _)⟩

/-! ## A run that leaves the graph -/

/-- An applied recommendation is approved a second time and creates a second version. -/
theorem applied_recommendation_approved_again :
    ¬ (Runs.Along callStep (fun s call => LegalStep s (callStep s call)) sampleStore
          [applyFull "rec-a" "policy-1", decideAs true "rec-a", applyFull "rec-a" "policy-2"]
        ∧ ∀ id, creations id sampleStore
          [applyFull "rec-a" "policy-1", decideAs true "rec-a", applyFull "rec-a" "policy-2"]
            ≤ 1) := by
  rintro ⟨-, hcreations⟩
  exact absurd (hcreations "rec-a") (by decide +kernel)

/-- An applied recommendation is rejected: its policy stays ACTIVE and can no longer be rolled
    back. -/
example :
    let rejected := Runs.run callStep sampleStore
      [applyFull "rec-a" "policy-1", decideAs false "rec-a"]
    statusOf rejected "rec-a" = some .Rejected
      ∧ (callStep rejected (rollback "rec-a")).policies.rows = rejected.policies.rows := by
  decide +kernel

end CostPlatform
