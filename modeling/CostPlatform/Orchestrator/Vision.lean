import CostPlatform.Orchestrator.Selection

/-!
# Images and vision

A request with images is sent as a multimodal one, to the plan's own model and, after a gateway
failure, to the fallback.  Vision is asked of a model by the workload's profile; the images play no
part in it.

`images_only_to_vision_iff` says when every model that is sent an image is known to accept images:
the first choice for the request must be, and where the gateway fails it, so must the second.  For a
quality check that always holds.
-/

namespace CostPlatform

namespace Collaborators

variable {c : Collaborators} {registry : ModelRegistry} {request : OrchestrationRequest}
  {principal : Principal} {requestId traceId : String}

/-! ## The calls of an execution -/

/-- What a plan's request leads to: the request itself, and after a gateway failure the same one
    for the fallback. -/
def Calls (c : Collaborators) (request : OrchestrationRequest) (plan : ExecutionPlan)
    (primaryRequest : ModelRequest) : ModelRole → ModelRequest → Prop
  | .Primary, modelRequest => modelRequest = primaryRequest
  | .Fallback, modelRequest =>
      (∃ code, c.gateway .Primary primaryRequest = .error (.ModelGatewayError code))
        ∧ ∃ entry, c.fallbackModel request plan = .ok (some entry)
          ∧ modelRequest = { primaryRequest with model := entry.modelName }

/-- Delivering an answer calls no model. -/
lemma deliver_events_isRecord {answered : Answered} {event : ExecutionEvent}
    (h : event ∈ (c.deliver request answered).events) : event.isModelCall = false := by
  simp only [deliver, Traced.mem_bind_events, Traced.silent_def, Traced.pure_def, record_events,
    List.not_mem_nil, false_or, or_false, and_false, exists_const] at h
  obtain ⟨_, -, _, -, h⟩ := h
  split_ifs at h
  · rw [List.mem_singleton.mp h]
    rfl
  · cases h

/-- **The calls of the model stage.** -/
lemma modelCall_mem_callModel {plan : ExecutionPlan} {primaryRequest modelRequest : ModelRequest}
    {role : ModelRole} :
    .ModelCall role modelRequest ∈ (c.callModel plan request primaryRequest).events
      ↔ c.Calls request plan primaryRequest role modelRequest := by
  cases hprimary : c.gateway .Primary primaryRequest with
  | ok response => cases role <;> simp [callModel, Calls, hprimary]
  | error failure =>
      cases failure with
      | ModelGatewayError code =>
          cases hfallback : c.fallbackModel request plan with
          | error lookup => cases role <;> simp [callModel, Calls, hprimary, hfallback]
          | ok found =>
              cases found with
              | none =>
                  have hrecord : ExecutionEvent.ModelCall role modelRequest
                      ∉ (c.record { plan := plan, outcome := "error",
                                    errorCode := some code }).events := by
                    rw [record_events]
                    split_ifs <;> simp
                  cases role <;>
                    simp [callModel, Calls, hprimary, hfallback, Traced.mem_bind_events, hrecord]
              | some entry =>
                  cases hsecond : c.gateway .Fallback
                      { primaryRequest with model := entry.modelName } <;>
                    cases role <;> simp [callModel, Calls, hprimary, hfallback, hsecond]
      | _ => cases role <;> simp [callModel, Calls, hprimary]

/-- The calls a plan is executed with. -/
lemma modelCall_mem_executePlan {plan : ExecutionPlan} {model : String} {role : ModelRole}
    {modelRequest : ModelRequest} :
    .ModelCall role modelRequest ∈ (c.executePlan plan model request).events
      ↔ c.InputAccepted request
        ∧ ∃ primaryRequest, c.buildModelRequest plan model request = .ok primaryRequest
          ∧ c.Calls request plan primaryRequest role modelRequest := by
  simp only [executePlan, Traced.mem_bind_events, Traced.silent_def, List.not_mem_nil, false_or,
    modelCall_mem_callModel]
  constructor
  · rintro (hguard | ⟨_, haccepted, primaryRequest, hbuilt, hcalls | ⟨_, -, hdeliver⟩⟩)
    · exact Bool.noConfusion (guardInput_events_isRecord hguard)
    · exact ⟨guardInput_result_ok_iff.mp haccepted, primaryRequest, hbuilt, hcalls⟩
    · exact Bool.noConfusion (deliver_events_isRecord hdeliver)
  · rintro ⟨haccepted, primaryRequest, hbuilt, hcalls⟩
    exact Or.inr ⟨(), guardInput_result_ok_iff.mpr haccepted, primaryRequest, hbuilt,
      Or.inl hcalls⟩

/-- **The calls of an execution**: those of the request built for the model its plan selects. -/
theorem modelCall_mem_execute {role : ModelRole} {modelRequest : ModelRequest} :
    .ModelCall role modelRequest ∈ (c.execute request principal requestId traceId).events
      ↔ ∃ plan, c.plan request principal requestId traceId = .ok plan
        ∧ plan.budgetStatus ≠ .Block
        ∧ ∃ model, plan.selectedModelName = some model ∧ c.InputAccepted request
          ∧ ∃ primaryRequest, c.buildModelRequest plan model request = .ok primaryRequest
            ∧ c.Calls request plan primaryRequest role modelRequest := by
  rw [execute, Traced.mem_bind_events]
  simp only [Traced.silent_def, List.not_mem_nil, false_or]
  refine exists_congr fun plan => and_congr_right fun _ => ?_
  by_cases hblock : plan.budgetStatus = .Block
  · simp only [hblock, if_true, ne_eq, not_true_eq_false, false_and, iff_false]
    exact fun h => ExecutionEvent.noConfusion (mem_refuse h)
  · simp only [hblock, if_false, ne_eq, not_false_eq_true, true_and]
    cases hmodel : plan.selectedModelName with
    | none =>
        simp only [reduceCtorEq, false_and, exists_false, iff_false]
        exact fun h => ExecutionEvent.noConfusion (mem_refuse h)
    | some model =>
        simp only [modelCall_mem_executePlan, Option.some.injEq, exists_eq_left']

/-! ## First and second choice -/

/-- Models the plan may select: they fit, are named early, and are the pinned one if one is. -/
def Candidate (c : Collaborators) (registry : ModelRegistry) (request : OrchestrationRequest)
    (principal : Principal) (entry : ModelRegistryEntry) : Prop :=
  (entry ∈ registry.fitting request.workloadType (minimumQuality (c.policyFor request principal))
      ∧ c.NamedEarly registry request principal entry)
    ∧ ∀ pinned ∈ pinnedModel (c.policyFor request principal), entry.id = pinned

/-- The candidate that no other is preferred to. -/
def FirstChoice (c : Collaborators) (registry : ModelRegistry) (request : OrchestrationRequest)
    (principal : Principal) (preferCheapest : Bool) (primary : ModelRegistryEntry) : Prop :=
  c.Candidate registry request principal primary
    ∧ ∀ other, c.Candidate registry request principal other →
        Preferred preferCheapest primary other

/-- Models a fallback may go to: the policy is not asked again, but it is another model. -/
def Alternative (registry : ModelRegistry) (workloadType : String)
    (primary entry : ModelRegistryEntry) : Prop :=
  (entry ∈ registry.fitting workloadType none
      ∧ (registry.fitting workloadType none).countP
          (fun other => other.modelName < entry.modelName) < 50)
    ∧ entry.id ≠ primary.id

/-- The alternative that no other is preferred to. -/
def SecondChoice (registry : ModelRegistry) (workloadType : String) (preferCheapest : Bool)
    (primary fallback : ModelRegistryEntry) : Prop :=
  Alternative registry workloadType primary fallback
    ∧ ∀ other, Alternative registry workloadType primary other →
        Preferred preferCheapest fallback other

/-- The plan selects the first choice. -/
lemma selectModel_eq_firstChoice {found : List ModelRegistryEntry} {preferCheapest : Bool}
    {primary : ModelRegistryEntry}
    (hfound : (c.withRegistry registry).candidates request (c.policyFor request principal)
      = .ok found) :
    selectModel found preferCheapest = some primary
      ↔ c.FirstChoice registry request principal preferCheapest primary := by
  cases Except.ok.inj (candidates_withRegistry.symm.trans hfound)
  cases hpinned : pinnedModel (c.policyFor request principal) with
  | none =>
      rw [selectModel_eq_some nodup_names_page]
      simp only [FirstChoice, Candidate, mem_page, hpinned, Option.mem_def, reduceCtorEq,
        false_implies, implies_true, and_true]
  | some pinned =>
      rw [selectModel_eq_some (nodup_names_page.sublist (List.filter_sublist.map _))]
      simp only [FirstChoice, Candidate, mem_page, hpinned, Option.mem_def, Option.some.injEq,
        forall_eq', List.mem_filter, decide_eq_true_eq]

/-- The fallback is the second choice. -/
lemma fallbackModel_eq_secondChoice {plan : ExecutionPlan} {primary fallback : ModelRegistryEntry}
    (hplan : plan.selectedModelId = some primary.id) :
    (c.withRegistry registry).fallbackModel request plan = .ok (some fallback)
      ↔ SecondChoice registry request.workloadType (plan.budgetStatus = .Downgrade) primary
          fallback := by
  have hanswer : (c.withRegistry registry).fallbackModel request plan
      = .ok (selectModel ((registry.findForWorkload request.workloadType none none none false
          50).filter fun candidate => some candidate.id ≠ plan.selectedModelId)
            (plan.budgetStatus = .Downgrade)) :=
    rfl
  rw [hanswer, hplan, Except.ok.injEq, selectModel_eq_some
    (registry.nodup_names_findForWorkload.sublist (List.filter_sublist.map _))]
  simp only [SecondChoice, Alternative, List.mem_filter, registry.mem_findForWorkload,
    decide_eq_true_eq, ne_eq, Option.some.injEq]

/-! ## Images -/

/-- Every multimodal request that is sent names a registered model known to accept images. -/
def ImagesOnlyToVision (c : Collaborators) (registry : ModelRegistry)
    (request : OrchestrationRequest) (principal : Principal) (requestId traceId : String) : Prop :=
  ∀ role modelRequest, ExecutionEvent.ModelCall role modelRequest
      ∈ ((c.withRegistry registry).execute request principal requestId traceId).events →
    modelRequest.multimodal = true →
    ∃ entry ∈ registry.models.rows, entry.modelName = modelRequest.model
      ∧ entry.supportsVision = some true

/-- There are no images, or the first choice is known to accept them, and so is the second where
    the gateway fails on the first. -/
def ChoicesSee (c : Collaborators) (registry : ModelRegistry) (request : OrchestrationRequest)
    (principal : Principal) (requestId traceId : String) : Prop :=
  request.imageBytes = []
    ∨ ∀ decision, c.checkBudget request principal = .ok decision → decision.outcome ≠ .Block →
        c.InputAccepted request →
        ∀ primary, c.FirstChoice registry request principal (decision.outcome = .Downgrade)
            primary →
        ∀ sent, c.buildModelRequest (c.basePlan request principal requestId traceId decision)
            primary.modelName request = .ok sent →
          primary.supportsVision = some true
          ∧ ((∃ code, c.gateway .Primary sent = .error (.ModelGatewayError code)) →
            ∀ fallback, SecondChoice registry request.workloadType
                (decision.outcome = .Downgrade) primary fallback →
              fallback.supportsVision = some true)

/-- The model a call names is a registered one; names are unique. -/
lemma sees_iff {entry : ModelRegistryEntry} (hrow : entry ∈ registry.models.rows) :
    (∃ other ∈ registry.models.rows, other.modelName = entry.modelName
        ∧ other.supportsVision = some true)
      ↔ entry.supportsVision = some true := by
  refine ⟨fun ⟨other, hother, hname, hvision⟩ => ?_, fun h => ⟨entry, hrow, rfl, h⟩⟩
  rwa [← List.inj_on_of_nodup_map registry.namesUnique hother hrow hname]

/-- What a built request says of itself. -/
lemma buildModelRequest_eq_ok {plan : ExecutionPlan} {model : String} {sent : ModelRequest}
    (h : c.buildModelRequest plan model request = .ok sent) :
    sent.model = model ∧ (sent.multimodal = true ↔ request.imageBytes ≠ []) := by
  obtain ⟨text, -, h⟩ := Fallible.bind_eq_ok.mp h
  obtain ⟨_, -, h⟩ := Fallible.bind_eq_ok.mp h
  obtain ⟨_, -, h⟩ := Fallible.bind_eq_ok.mp h
  cases Except.ok.inj h
  simp

/-- **The calls over a registry**, by first and second choice. -/
theorem modelCall_mem_withRegistry {role : ModelRole} {modelRequest : ModelRequest} :
    .ModelCall role modelRequest
        ∈ ((c.withRegistry registry).execute request principal requestId traceId).events
      ↔ ∃ decision, c.checkBudget request principal = .ok decision ∧ decision.outcome ≠ .Block
        ∧ c.InputAccepted request
        ∧ ∃ primary, c.FirstChoice registry request principal (decision.outcome = .Downgrade)
            primary
        ∧ ∃ sent, c.buildModelRequest (c.basePlan request principal requestId traceId decision)
            primary.modelName request = .ok sent
        ∧ ((role = .Primary ∧ modelRequest = sent)
          ∨ (role = .Fallback
            ∧ (∃ code, c.gateway .Primary sent = .error (.ModelGatewayError code))
            ∧ ∃ fallback, SecondChoice registry request.workloadType
                (decision.outcome = .Downgrade) primary fallback
              ∧ modelRequest = { sent with model := fallback.modelName })) := by
  rw [modelCall_mem_execute]
  constructor
  · rintro ⟨plan, hplan, hstatus, model, hmodel, haccepted, sent, hsent, hcalls⟩
    obtain ⟨decision, hdecision, ⟨hblock, rfl⟩ | ⟨hblock, found, hfound, rfl⟩⟩ :=
      (c.withRegistry registry).plan_eq_ok_iff.mp hplan
    · exact absurd hblock hstatus
    · obtain ⟨primary, hprimary, rfl⟩ := Option.map_eq_some_iff.mp hmodel
      have hfirst := (selectModel_eq_firstChoice hfound).mp hprimary
      refine ⟨decision, hdecision, hblock, haccepted, primary, hfirst, sent, hsent, ?_⟩
      cases role with
      | Primary => exact Or.inl ⟨rfl, hcalls⟩
      | Fallback =>
          obtain ⟨hfails, fallback, hfallback, hrequest⟩ := hcalls
          have hid := congrArg (Option.map ModelRegistryEntry.id) hprimary
          exact Or.inr ⟨rfl, hfails, fallback,
            (fallbackModel_eq_secondChoice hid).mp hfallback, hrequest⟩
  · rintro ⟨decision, hdecision, hblock, haccepted, primary, hfirst, sent, hsent, hcalls⟩
    obtain ⟨found, hfound⟩ : ∃ found, (c.withRegistry registry).candidates request
        (c.policyFor request principal) = .ok found :=
      ⟨_, candidates_withRegistry⟩
    have hprimary := (selectModel_eq_firstChoice hfound).mpr hfirst
    have hid := congrArg (Option.map ModelRegistryEntry.id) hprimary
    refine ⟨_, (c.withRegistry registry).plan_eq_routedPlan requestId traceId hdecision hblock
      hfound, hblock, primary.modelName, congrArg (Option.map _) hprimary, haccepted, sent, hsent,
      ?_⟩
    rcases hcalls with ⟨rfl, hrequest⟩ | ⟨rfl, hfails, fallback, hsecond, hrequest⟩
    · exact hrequest
    · exact ⟨hfails, fallback, (fallbackModel_eq_secondChoice hid).mpr hsecond, hrequest⟩

/-- A call goes to the first or to the second choice. -/
lemma imagesOnlyToVision_of_choicesSee
    (hsee : c.ChoicesSee registry request principal requestId traceId) :
    c.ImagesOnlyToVision registry request principal requestId traceId := by
  intro role modelRequest hmem hmulti
  obtain ⟨decision, hdecision, hblock, haccepted, primary, hfirst, sent, hsent, hcalls⟩ :=
    modelCall_mem_withRegistry.mp hmem
  obtain ⟨hmodel, hmultimodal⟩ := buildModelRequest_eq_ok hsent
  have hsame : modelRequest.multimodal = sent.multimodal := by
    rcases hcalls with ⟨-, rfl⟩ | ⟨-, -, fallback, -, rfl⟩
    · rfl
    · rfl
  have himages : request.imageBytes ≠ [] := hmultimodal.mp (hsame.symm.trans hmulti)
  obtain ⟨hprimary, hfallback⟩ := hsee.resolve_left himages decision hdecision hblock haccepted
    primary hfirst sent hsent
  rcases hcalls with ⟨-, rfl⟩ | ⟨-, hfails, fallback, hsecond, rfl⟩
  · rw [hmodel]
    exact ⟨primary, (registry.mem_fitting.mp hfirst.1.1.1).1, rfl, hprimary⟩
  · exact ⟨fallback, (registry.mem_fitting.mp hsecond.1.1.1).1, rfl,
      hfallback hfails fallback hsecond⟩

/-- **Images only go to models that accept them exactly when the choices see.** -/
theorem images_only_to_vision_iff (c : Collaborators) (registry : ModelRegistry)
    (request : OrchestrationRequest) (principal : Principal) (requestId traceId : String) :
    c.ImagesOnlyToVision registry request principal requestId traceId
      ↔ c.ChoicesSee registry request principal requestId traceId := by
  refine ⟨fun honly => ?_, imagesOnlyToVision_of_choicesSee⟩
  by_cases himages : request.imageBytes = []
  · exact Or.inl himages
  · refine Or.inr fun decision hdecision hblock haccepted primary hfirst sent hsent => ?_
    obtain ⟨hmodel, hmultimodal⟩ := buildModelRequest_eq_ok hsent
    have hcall := fun role modelRequest hcalls => honly role modelRequest
      (modelCall_mem_withRegistry.mpr
        ⟨decision, hdecision, hblock, haccepted, primary, hfirst, sent, hsent, hcalls⟩)
    constructor
    · have hsees := hcall .Primary sent (Or.inl ⟨rfl, rfl⟩) (hmultimodal.mpr himages)
      rw [hmodel] at hsees
      exact (sees_iff (registry.mem_fitting.mp hfirst.1.1.1).1).mp hsees
    · intro hfails fallback hsecond
      have hsees := hcall .Fallback { sent with model := fallback.modelName }
        (Or.inr ⟨rfl, hfails, fallback, hsecond, rfl⟩) (hmultimodal.mpr himages)
      exact (sees_iff (registry.mem_fitting.mp hsecond.1.1.1).1).mp hsees

/-- A model that fits a quality check is known to accept images. -/
lemma supportsVision_of_fitting {minQualityScore : Option ℚ} {entry : ModelRegistryEntry}
    (h : entry ∈ registry.fitting "quality_check" minQualityScore) :
    entry.supportsVision = some true := by
  obtain ⟨-, hcompatible, -⟩ := registry.mem_fitting.mp h
  simp only [ModelRegistry.isCompatible, WORKLOAD_PROFILES, Bool.and_eq_true, Bool.not_true,
    Bool.false_or, decide_eq_true_eq] at hcompatible
  exact hcompatible.1.2

/-- **The images of a quality check only go to models known to accept them.** -/
theorem quality_check_images_seen (h : request.workloadType = "quality_check") :
    c.ImagesOnlyToVision registry request principal requestId traceId := by
  refine imagesOnlyToVision_of_choicesSee ?_
  refine Or.inr fun decision _ _ _ primary hfirst sent _ => ⟨?_, fun _ fallback hsecond => ?_⟩
  · exact supportsVision_of_fitting (h ▸ hfirst.1.1.1)
  · exact supportsVision_of_fitting (h ▸ hsecond.1.1.1)

end Collaborators

/-- A multimodal request to the model of a given name. -/
def ExecutionEvent.sendsImagesTo (model : String) : ExecutionEvent → Bool
  | .ModelCall _ modelRequest => modelRequest.multimodal && modelRequest.model = model
  | .Record _ => false

/-- A supply-chain request that carries a photograph. -/
def photographRequest : OrchestrationRequest :=
  { supplyChainRequest with imageCount := 1, imageBytes := [([137], "image/png")] }

/-- **A photograph goes to a model whose vision nobody has told us of.** -/
theorem photograph_sent_blind :
    ((smallDeployment.withRegistry twoModels).execute photographRequest engineer "r1"
        "r1").events.any (ExecutionEvent.sendsImagesTo "alpha") = true
      ∧ (∀ entry ∈ twoModels.models.rows, entry.supportsVision = none)
      ∧ ¬ smallDeployment.ImagesOnlyToVision twoModels photographRequest engineer "r1" "r1" := by
  have hsent : ((smallDeployment.withRegistry twoModels).execute photographRequest engineer "r1"
      "r1").events.any (ExecutionEvent.sendsImagesTo "alpha") = true := by
    decide +kernel
  have hblind : ∀ entry ∈ twoModels.models.rows, entry.supportsVision = none := by
    simp [twoModels]
  refine ⟨hsent, hblind, fun honly => ?_⟩
  obtain ⟨event, hevent, hcall⟩ := List.any_eq_true.mp hsent
  cases event with
  | Record record => cases hcall
  | ModelCall role modelRequest =>
      obtain ⟨hmulti, -⟩ := Bool.and_eq_true_iff.mp hcall
      obtain ⟨entry, hentry, -, hvision⟩ := honly role modelRequest hevent hmulti
      rw [hblind entry hentry] at hvision
      cases hvision

end CostPlatform
