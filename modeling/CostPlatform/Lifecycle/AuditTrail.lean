import CostPlatform.Lifecycle.Status

/-!
# The audit trail of the lifecycle

Every change of a recommendation's status should leave one audit record that names the action, the
actor and the recommendation.  `Call.statusChange` is the change a call makes and `Call.recorded`
the record it writes; a run is audited when the two match up one to one.

Decisions write a record whether or not they change anything, and activations and rollbacks never
write one.  So a run is audited exactly when its decisions all change a status and nothing else
does (`every_change_audited_iff`).
-/

namespace CostPlatform

/-! ## Changes and records -/

/-- The action a call should be recorded under. -/
def Operation.auditAction : Operation → AuditAction
  | .Approve _ approved _ _ => if approved then .OptimizationApproved else .OptimizationRejected
  | .Apply _ _ _ => .OptimizationApplied
  | .Rollback => .OptimizationRolledBack

/-- Who acts.  A rollback does not look at its principal, so any actor would do. -/
def Operation.actor : Operation → Option String
  | .Approve principal _ _ _ => some (approverSubject principal)
  | .Apply principal _ _ => some (creatorSubject principal)
  | .Rollback => none

/-- A status change, as the audit trail should tell it. -/
structure StatusChange where
  recommendationId : String
  action : AuditAction
  actor : Option String

/-- The record carries the action, the recommendation and, where it is known, the actor. -/
def StatusChange.RecordedBy (change : StatusChange) (event : AuditEvent) : Prop :=
  event.action = change.action ∧ event.resourceId = change.recommendationId
    ∧ ∀ actor ∈ change.actor, event.userId = some actor

/-- The change a call makes to the status of its recommendation, if it makes one. -/
def Call.statusChange (store : Store) (call : Call) : Option StatusChange :=
  if statusOf (callStep store call) call.recommendationId = statusOf store call.recommendationId
  then none
  else some
    { recommendationId := call.recommendationId
      action := call.operation.auditAction
      actor := call.operation.actor }

/-- The record a call writes. -/
def Call.recorded (store : Store) (call : Call) : Option AuditEvent :=
  match call.operation with
  | .Approve principal approved reason override =>
      match call.service.approveRecommendation store call.recommendationId principal approved
        reason override call.now with
      | .ok (_, updated) =>
          if call.service.hasAuditService then
            some (auditDecision updated approved (approverSubject principal) reason)
          else none
      | .error _ => none
  | .Apply _ _ _ => none
  | .Rollback => none

/-- The log grows by what is recorded. -/
theorem audit_callStep (store : Store) (call : Call) :
    (callStep store call).audit = store.audit ++ (call.recorded store).toList := by
  simp only [callStep, Call.execute, Call.recorded]
  cases hoperation : call.operation with
  | Approve principal approved reason override =>
      dsimp only
      cases hresult : call.service.approveRecommendation store call.recommendationId principal
        approved reason override call.now with
      | error e => exact (List.append_nil _).symm
      | ok result =>
          obtain ⟨store', updated⟩ := result
          obtain ⟨recommendation, -, -, -, rfl⟩ := approveRecommendation_eq_ok.mp hresult
          simp only [Except.map]
          split_ifs
          · rfl
          · exact (List.append_nil _).symm
  | Apply principal activation newId =>
      dsimp only
      cases hresult : call.service.applyPolicy store call.recommendationId principal activation
        newId call.now with
      | error e => exact (List.append_nil _).symm
      | ok result =>
          obtain ⟨store', updated, policy⟩ := result
          obtain ⟨recommendation, policies, -, -, -, -, rfl⟩ := applyPolicy_eq_ok.mp hresult
          exact (List.append_nil _).symm
  | Rollback =>
      dsimp only
      cases hresult : call.service.rollbackPolicy store call.recommendationId call.now with
      | error e => exact (List.append_nil _).symm
      | ok result =>
          obtain ⟨store', updated, reactivated⟩ := result
          obtain ⟨recommendation, -, -, -, -, rfl⟩ := rollbackPolicy_eq_ok.mp hresult
          exact (List.append_nil _).symm

/-- A call changes no status but that of its own recommendation. -/
theorem statusOf_callStep_of_ne (store : Store) (call : Call) {id : String}
    (hid : id ≠ call.recommendationId) :
    statusOf (callStep store call) id = statusOf store id := by
  cases hoperation : call.operation with
  | Approve principal approved reason override =>
      rcases callStep_approve_cases store hoperation with ⟨_, _, _, hrec, _⟩ | ⟨hrefused, _⟩
      · rw [statusOf_modify hrec (fun r => decided_status r _ _ _ _), if_neg hid]
      · rw [hrefused]
  | Apply principal activation newId =>
      rcases callStep_apply_cases store hoperation with ⟨_, _, _, _, _, hrec⟩ | ⟨hrefused, _⟩
      · rw [statusOf_modify hrec (fun _ => rfl), if_neg hid]
      · rw [hrefused]
  | Rollback =>
      rcases callStep_rollback_cases store hoperation with ⟨_, _, _, _, hrec⟩ | ⟨hrefused, _⟩
      · rw [statusOf_modify hrec (fun _ => rfl), if_neg hid]
      · rw [hrefused]

/-! ## One call -/

section Step

variable {store : Store} {call : Call}

lemma statusChange_of_idle (h : callStep store call = store) : call.statusChange store = none := by
  rw [Call.statusChange, h, if_pos rfl]

/-- A call that rewrites the status of its recommendation changes it unless it was the same. -/
lemma statusChange_of_modify {f : OptimizationRecommendation → OptimizationRecommendation}
    {hf : ∀ r, (f r).id = r.id} {status : OptimizationStatus}
    {recommendation : OptimizationRecommendation}
    (h : (callStep store call).recommendations
      = store.recommendations.modify call.recommendationId f hf)
    (hstatus : ∀ r, (f r).status = status)
    (hget : store.recommendations.get call.recommendationId = some recommendation) :
    call.statusChange store
      = if recommendation.status = status then none
        else some ⟨call.recommendationId, call.operation.auditAction, call.operation.actor⟩ := by
  have hbefore : statusOf store call.recommendationId = some recommendation.status := by
    rw [statusOf, hget, Option.map_some]
  rw [Call.statusChange, statusOf_modify h hstatus, if_pos rfl, hbefore, Option.map_some]
  simp only [Option.some.injEq, eq_comm]

/-- A decision with an audit service is recorded when it gets past its authorization. -/
lemma recorded_decision {principal : Option Principal} {approved override : Bool} {reason : String}
    (hoperation : call.operation = .Approve principal approved reason override)
    (haudit : call.service.hasAuditService = true) :
    (∃ recommendation,
      store.recommendations.get call.recommendationId = some recommendation
      ∧ call.service.authorizeDecision recommendation principal override = .ok ()
      ∧ call.recorded store = some (auditDecision
          (decided recommendation (approverSubject principal) approved reason call.now) approved
          (approverSubject principal) reason))
    ∨ (call.recorded store = none
      ∧ ∀ recommendation,
          store.recommendations.get call.recommendationId = some recommendation →
          call.service.authorizeDecision recommendation principal override ≠ .ok ()) := by
  simp only [Call.recorded, hoperation]
  cases hresult : call.service.approveRecommendation store call.recommendationId principal
    approved reason override call.now with
  | error e => exact Or.inr ⟨rfl, fun _ hget => authorizeDecision_of_refused hresult hget⟩
  | ok result =>
      obtain ⟨store', updated⟩ := result
      obtain ⟨recommendation, hget, hauth, rfl, -⟩ := approveRecommendation_eq_ok.mp hresult
      exact Or.inl ⟨recommendation, hget, hauth, if_pos haudit⟩

/-- What the record of a decision says. -/
lemma decision_recordedBy {recommendation : OptimizationRecommendation}
    {principal : Option Principal} {approved override : Bool} {reason : String}
    (hoperation : call.operation = .Approve principal approved reason override)
    (hid : recommendation.id = call.recommendationId) :
    StatusChange.RecordedBy
      ⟨call.recommendationId, call.operation.auditAction, call.operation.actor⟩
      (auditDecision
        (decided recommendation (approverSubject principal) approved reason call.now) approved
        (approverSubject principal) reason) := by
  refine ⟨?_, ?_, ?_⟩
  · rw [hoperation]
    rfl
  · show (decided _ _ _ _ _).id = _
    rw [decided_id, hid]
  · rw [hoperation]
    rintro actor ⟨⟩
    rfl

/-- A decision that gets past its authorization changes the status, and no activation or rollback
    goes through. -/
def Call.ChangesOnRecord (store : Store) (call : Call) : Prop :=
  match call.operation with
  | .Approve principal approved _ override =>
      ∀ recommendation, store.recommendations.get call.recommendationId = some recommendation →
        call.service.authorizeDecision recommendation principal override = .ok () →
        recommendation.status ≠ if approved then .Approved else .Rejected
  | .Apply _ activation newId =>
      ∀ recommendation, store.recommendations.get call.recommendationId = some recommendation →
        recommendation.status = .Approved →
        ¬ ActivationAccepted store recommendation activation newId
  | .Rollback =>
      ∀ recommendation, store.recommendations.get call.recommendationId = some recommendation →
        recommendation.status ≠ .Applied

/-- **A call that meets the condition** changes a status and records it, or does neither. -/
theorem changes_recorded (haudit : call.service.hasAuditService = true)
    (h : call.ChangesOnRecord store) :
    Option.Rel StatusChange.RecordedBy (call.statusChange store) (call.recorded store) := by
  simp only [Call.ChangesOnRecord] at h
  cases hoperation : call.operation with
  | Approve principal approved reason override =>
      simp only [hoperation] at h
      rcases recorded_decision hoperation haudit with
        ⟨recommendation, hget, hauth, hrecorded⟩ | ⟨hrecorded, hnever⟩
      · rcases callStep_approve_cases store hoperation with
          ⟨_, _, _, hrec, _⟩ | ⟨_, hidle⟩
        · rw [hrecorded, statusChange_of_modify hrec (fun r => decided_status r _ _ _ _) hget,
            if_neg (h recommendation hget hauth)]
          exact .some (decision_recordedBy hoperation (Table.get_eq_some.mp hget).2)
        · exact absurd hauth (hidle recommendation hget)
      · rcases callStep_approve_cases store hoperation with
          ⟨recommendation, hget, hauth, _⟩ | ⟨hidle, _⟩
        · exact absurd hauth (hnever recommendation hget)
        · rw [hrecorded, statusChange_of_idle hidle]
          exact .none
  | Apply principal activation newId =>
      simp only [hoperation] at h
      have hrecorded : call.recorded store = none := by simp [Call.recorded, hoperation]
      rcases callStep_apply_cases store hoperation with
        ⟨recommendation, _, ⟨hget, happroved, _⟩, _⟩ | ⟨hidle, _⟩
      · rcases callStep_apply_approved store hoperation hget happroved with
          ⟨haccepted, _⟩ | ⟨_, hidle⟩
        · exact absurd haccepted (h recommendation hget happroved)
        · rw [hrecorded, statusChange_of_idle hidle]
          exact .none
      · rw [hrecorded, statusChange_of_idle hidle]
        exact .none
  | Rollback =>
      simp only [hoperation] at h
      have hrecorded : call.recorded store = none := by simp [Call.recorded, hoperation]
      rcases callStep_rollback_cases store hoperation with
        ⟨recommendation, hget, happlied, _⟩ | ⟨hidle, _⟩
      · exact absurd happlied (h recommendation hget)
      · rw [hrecorded, statusChange_of_idle hidle]
        exact .none

def AuditAction.isDecision : AuditAction → Bool
  | .OptimizationApproved | .OptimizationRejected => true
  | .OptimizationApplied | .OptimizationRolledBack => false

/-- Only decisions are ever recorded. -/
lemma recorded_isDecision {event : AuditEvent} (h : call.recorded store = some event) :
    event.action.isDecision = true := by
  simp only [Call.recorded] at h
  split at h
  · split at h
    · split_ifs at h
      cases Option.some.inj h
      simp only [auditDecision]
      split_ifs
      · rfl
      · rfl
    · cases h
  · cases h
  · cases h

/-- **A call that does not** makes a change that no record can be of, or records none. -/
theorem change_or_record_alone (haudit : call.service.hasAuditService = true)
    (h : ¬ call.ChangesOnRecord store) :
    (∃ change, call.statusChange store = some change ∧ change.action.isDecision = false)
      ∨ (call.statusChange store = none ∧ (call.recorded store).isSome = true) := by
  simp only [Call.ChangesOnRecord] at h
  cases hoperation : call.operation with
  | Approve principal approved reason override =>
      simp only [hoperation, not_forall, ne_eq, not_not] at h
      obtain ⟨recommendation, hget, hauth, hsame⟩ := h
      refine Or.inr ?_
      rcases recorded_decision hoperation haudit with ⟨_, _, _, hrecorded⟩ | ⟨_, hnever⟩
      · rcases callStep_approve_cases store hoperation with ⟨_, _, _, hrec, _⟩ | ⟨_, hidle⟩
        · rw [hrecorded, statusChange_of_modify hrec (fun r => decided_status r _ _ _ _) hget,
            if_pos hsame]
          exact ⟨rfl, rfl⟩
        · exact absurd hauth (hidle recommendation hget)
      · exact absurd hauth (hnever recommendation hget)
  | Apply principal activation newId =>
      simp only [hoperation, not_forall, not_not] at h
      obtain ⟨recommendation, hget, happroved, haccepted⟩ := h
      refine Or.inl ?_
      rcases callStep_apply_approved store hoperation hget happroved with
        ⟨_, _, _, _, hrec⟩ | ⟨hnot, _⟩
      · rw [statusChange_of_modify hrec (fun _ => rfl) hget, if_neg (by simp [happroved])]
        exact ⟨_, rfl, by simp [hoperation, Operation.auditAction, AuditAction.isDecision]⟩
      · exact absurd haccepted hnot
  | Rollback =>
      simp only [hoperation, not_forall, ne_eq, not_not] at h
      obtain ⟨recommendation, hget, happlied⟩ := h
      refine Or.inl ?_
      rcases callStep_rollback_cases store hoperation with ⟨_, _, _, _, hrec⟩ | ⟨_, hnever⟩
      · rw [statusChange_of_modify hrec (fun _ => rfl) hget, if_neg (by simp [happlied])]
        exact ⟨_, rfl, by simp [hoperation, Operation.auditAction, AuditAction.isDecision]⟩
      · exact absurd happlied (hnever recommendation hget)

end Step

/-! ## Whole runs -/

/-- The status changes of a run, in order. -/
def statusChanges (store : Store) (calls : List Call) : List StatusChange :=
  Runs.emitted callStep (fun s call => (call.statusChange s).toList) store calls

/-- The audit records a run writes. -/
def recordsWritten (store : Store) (calls : List Call) : List AuditEvent :=
  (Runs.run callStep store calls).audit.drop store.audit.length

lemma recordsWritten_eq (store : Store) (calls : List Call) :
    recordsWritten store calls
      = Runs.emitted callStep (fun s call => (call.recorded s).toList) store calls := by
  have hlog := Runs.view_run (V := Store.audit) audit_callStep store calls
  rw [recordsWritten, hlog, List.drop_left]

/-- Each status change of the run has one record of its own, and there are no other records. -/
def EveryChangeAudited (store : Store) (calls : List Call) : Prop :=
  Runs.Matched StatusChange.RecordedBy (statusChanges store calls) (recordsWritten store calls)

/-- **Audited runs, exactly.**  With an audit service supplied, every status change of a run has
    its own record, and every record its change, exactly when no activation or rollback of the run
    goes through and every decision that gets past its authorization changes the status. -/
theorem every_change_audited_iff {store : Store} {calls : List Call}
    (haudit : ∀ call ∈ calls, call.service.hasAuditService = true) :
    EveryChangeAudited store calls
      ↔ Runs.Along callStep (fun s call => call.ChangesOnRecord s) store calls := by
  rw [EveryChangeAudited, recordsWritten_eq]
  refine Runs.matched_iff_along ?_ ?_ store
  · intro s call hcall hchanges
    exact changes_recorded (haudit call hcall) hchanges
  · intro s call hcall hnot
    rcases change_or_record_alone (haudit call hcall) hnot with ⟨change, hchange, haction⟩ | halone
    · refine Or.inl ⟨change, hchange, fun s' call' event hevent hrecorded => ?_⟩
      have hdecision := recorded_isDecision hevent
      rw [hrecorded.1, haction] at hdecision
      cases hdecision
    · exact Or.inr halone

/-- A recommendation is rejected: one change, one record. -/
theorem rejection_audited : EveryChangeAudited sampleStore [decideAs false "rec-a"] := by
  refine (every_change_audited_iff (by decide)).mpr ⟨fun recommendation hget _ => ?_, trivial⟩
  have hfound : sampleStore.recommendations.get (decideAs false "rec-a").recommendationId
      = some (sampleRecommendation "rec-a" .Approved) := by
    decide +kernel
  obtain rfl := Option.some.inj (hfound.symm.trans hget)
  decide

/-- An activation and its rollback change the status twice and write no record. -/
theorem activation_unaudited :
    ¬ EveryChangeAudited sampleStore [applyFull "rec-a" "policy-1", rollback "rec-a"] := by
  rintro ⟨matched, hperm, hforall⟩
  have hwritten : (recordsWritten sampleStore
      [applyFull "rec-a" "policy-1", rollback "rec-a"]).length = 0 := by
    decide +kernel
  have hchanges : (statusChanges sampleStore
      [applyFull "rec-a" "policy-1", rollback "rec-a"]).length = 2 := by
    decide +kernel
  rw [← hperm.length_eq, ← hforall.length_eq, hchanges] at hwritten
  cases hwritten

end CostPlatform
