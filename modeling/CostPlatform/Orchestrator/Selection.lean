import CostPlatform.Orchestrator.FallbackPolicy

/-!
# Selection over the whole registry

The registry answers a workload with a page: the first 50 fitting models by name.  The pin of a
policy and the ranking are applied to that page.

`findForWorkload_eq_take` says what the page is, and `selection_complete_iff` when looking no
further than the page makes no difference: the model that ought to be selected has fewer than 50
fitting models before it by name.
-/

namespace CostPlatform

/-! ## What fits a workload -/

/-- An unknown quality meets no minimum. -/
def ModelRegistryEntry.meetsQuality (minQualityScore : Option ℚ) (entry : ModelRegistryEntry) :
    Bool :=
  minQualityScore.all fun bound => entry.qualityScore.any (bound ≤ ·)

namespace ModelRegistry

variable (registry : ModelRegistry) {workloadType : String} {minQualityScore : Option ℚ}

/-- Every model of the registry that fits a workload and a minimum quality. -/
def fitting (workloadType : String) (minQualityScore : Option ℚ) : List ModelRegistryEntry :=
  registry.models.rows.filter fun entry =>
    isCompatible entry workloadType none && entry.meetsQuality minQualityScore

lemma mem_fitting {entry : ModelRegistryEntry} :
    entry ∈ registry.fitting workloadType minQualityScore
      ↔ entry ∈ registry.models.rows ∧ isCompatible entry workloadType none = true
        ∧ entry.meetsQuality minQualityScore = true := by
  simp only [fitting, List.mem_filter, Bool.and_eq_true]

lemma nodup_names_fitting :
    ((registry.fitting workloadType minQualityScore).map ModelRegistryEntry.modelName).Nodup :=
  registry.namesUnique.sublist (List.filter_sublist.map _)

/-- The query one capability of a profile is looked up with. -/
def capabilityQuery (profile : WorkloadCapabilityProfile) (minQualityScore : Option ℚ)
    (limit : Nat) (capability : Capability) : ModelQuery :=
  { capability := some capability
    requiresVision := profile.requiresVision
    minQualityScore := minQualityScore
    limit := limit }

/-- A model fits when the query for its own capability selects it. -/
lemma fits_iff {profile : WorkloadCapabilityProfile}
    (hprofile : WORKLOAD_PROFILES workloadType = some profile) (modality : Option Modality)
    (limit : Nat) (capability : Capability) (entry : ModelRegistryEntry) :
    ModelQuery.selects { capabilityQuery profile minQualityScore limit capability with
        modality := modality, enabled := some true, offset := 0 } entry = true
      ∧ capability ∈ profile.capabilities
      ↔ entry.capability = capability ∧ isCompatible entry workloadType modality = true
        ∧ entry.meetsQuality minQualityScore = true := by
  simp only [ModelQuery.selects, capabilityQuery, isCompatible, hprofile,
    ModelRegistryEntry.meetsQuality, Option.all_some, Option.all_none, Bool.and_true,
    Bool.not_false, Bool.true_or, Bool.and_eq_true, decide_eq_true_eq]
  constructor
  · rintro ⟨⟨⟨⟨⟨rfl, hmodality⟩, henabled⟩, hvision⟩, hquality⟩, hcapability⟩
    exact ⟨rfl, ⟨⟨⟨henabled, hcapability⟩, hvision⟩, hmodality⟩, hquality⟩
  · rintro ⟨rfl, ⟨⟨⟨henabled, hcapability⟩, hvision⟩, hmodality⟩, hquality⟩
    exact ⟨⟨⟨⟨⟨rfl, hmodality⟩, henabled⟩, hvision⟩, hquality⟩, hcapability⟩

/-- Registered models are told apart by their ids. -/
lemma map_id_eq_iff {a b : Option ModelRegistryEntry}
    (ha : ∀ entry ∈ a, entry ∈ registry.models.rows)
    (hb : ∀ entry ∈ b, entry ∈ registry.models.rows) :
    a.map ModelRegistryEntry.id = b.map ModelRegistryEntry.id ↔ a = b := by
  refine ⟨fun h => ?_, fun h => congrArg _ h⟩
  cases a with
  | none => exact (Option.map_eq_none_iff.mp h.symm).symm
  | some entry =>
      obtain ⟨other, hother, hid⟩ := Option.map_eq_some_iff.mp h.symm
      rw [hother, registry.models.eq_of_key (ha entry rfl) (hb other hother) hid.symm]

/-! ## The page -/

/-- The page of one capability holds models that fit. -/
lemma mem_filter_of_mem_findCandidates {profile : WorkloadCapabilityProfile}
    (hprofile : WORKLOAD_PROFILES workloadType = some profile) {modality : Option Modality}
    {limit : Nat} {capability : Capability} (hcapability : capability ∈ profile.capabilities)
    {entry : ModelRegistryEntry}
    (h : entry ∈ registry.findCandidates
      { capabilityQuery profile minQualityScore limit capability with modality := modality }) :
    entry ∈ registry.models.rows.filter fun entry =>
      isCompatible entry workloadType modality && entry.meetsQuality minQualityScore := by
  obtain ⟨hrow, hselects⟩ := registry.mem_findCandidates h
  obtain ⟨-, hfits⟩ :=
    (fits_iff hprofile modality limit capability entry).mp ⟨hselects, hcapability⟩
  exact List.mem_filter.mpr ⟨hrow, Bool.and_eq_true_iff.mpr hfits⟩

/-- A fitting model with fewer than `limit` before it is on the page of its own capability, since
    the models of one capability are among the fitting ones. -/
lemma exists_mem_findCandidates {profile : WorkloadCapabilityProfile}
    (hprofile : WORKLOAD_PROFILES workloadType = some profile) {modality : Option Modality}
    {limit : Nat} {entry : ModelRegistryEntry}
    (h : entry ∈ registry.models.rows.filter fun entry =>
      isCompatible entry workloadType modality && entry.meetsQuality minQualityScore)
    (hcount : (registry.models.rows.filter fun entry =>
        isCompatible entry workloadType modality && entry.meetsQuality minQualityScore).countP
          (fun other => other.modelName < entry.modelName) < limit) :
    ∃ capability ∈ profile.capabilities, entry ∈ registry.findCandidates
      { capabilityQuery profile minQualityScore limit capability with modality := modality } := by
  obtain ⟨hrow, hcompatible⟩ := List.mem_filter.mp h
  obtain ⟨hselects, hcapability⟩ := (fits_iff hprofile modality limit entry.capability
    entry).mpr ⟨rfl, Bool.and_eq_true_iff.mp hcompatible⟩
  refine ⟨entry.capability, hcapability, ?_⟩
  refine (Ranking.mem_take_sortedBy
    (registry.namesUnique.sublist (List.filter_sublist.map _))).mpr
      ⟨List.mem_filter.mpr ⟨hrow, hselects⟩, lt_of_le_of_lt ?_ hcount⟩
  refine List.Sublist.countP_le (List.monotone_filter_right _ fun other hother => ?_)
  obtain ⟨-, hfits⟩ :=
    (fits_iff hprofile modality limit entry.capability other).mp ⟨hother, hcapability⟩
  exact Bool.and_eq_true_iff.mpr hfits

/-- **The page is the first `limit` of all models that fit, by name**: cutting each capability's
    query at the same limit takes nothing from it. -/
theorem findForWorkload_eq_take (modality : Option Modality) (limit : Nat) :
    registry.findForWorkload workloadType modality none minQualityScore false limit
      = (Ranking.sortedBy ModelRegistryEntry.modelName
          (registry.models.rows.filter fun entry =>
            isCompatible entry workloadType modality
              && entry.meetsQuality minQualityScore)).take limit := by
  simp only [findForWorkload]
  split
  next hprofile =>
      have hnone : (registry.models.rows.filter fun entry =>
          isCompatible entry workloadType modality
            && entry.meetsQuality minQualityScore) = [] := by
        refine List.filter_eq_nil_iff.mpr fun entry _ => ?_
        simp only [isCompatible, hprofile, Bool.false_and, Bool.false_eq_true, not_false_eq_true]
      rw [hnone]
      simp [Ranking.sortedBy]
  next profile hprofile =>
      have hnames : ((registry.models.rows.filter fun entry =>
          isCompatible entry workloadType modality
            && entry.meetsQuality minQualityScore).map ModelRegistryEntry.modelName).Nodup :=
        registry.namesUnique.sublist (List.filter_sublist.map _)
      obtain ⟨⟨hrows, hids⟩, hseen⟩ := @foldl_queries registry profile.capabilities []
        (fun capability => registry.findCandidates
          { capabilityQuery profile minQualityScore limit capability with modality := modality })
        seen_nil (fun capability entry h => (registry.mem_findCandidates h).1)
      refine Ranking.take_sortedBy_eq hnames ?_ ?_ ?_
      · refine (List.Nodup.of_map _ hids).map_on fun a ha b hb hname => ?_
        exact List.inj_on_of_nodup_map registry.namesUnique (hrows a ha) (hrows b hb) hname
      · intro entry hentry
        obtain ⟨capability, hcapability, hquery⟩ := ((hseen entry).mp hentry).resolve_left (by simp)
        exact registry.mem_filter_of_mem_findCandidates hprofile hcapability hquery
      · intro entry hentry
        obtain ⟨hfits, hcount⟩ := (Ranking.mem_take_sortedBy hnames).mp hentry
        exact (hseen entry).mpr (Or.inr (registry.exists_mem_findCandidates hprofile hfits hcount))

/-- Without a modality asked for, they are the models that fit the workload. -/
theorem findForWorkload_eq (limit : Nat) :
    registry.findForWorkload workloadType none none minQualityScore false limit
      = (Ranking.sortedBy ModelRegistryEntry.modelName
          (registry.fitting workloadType minQualityScore)).take limit :=
  registry.findForWorkload_eq_take none limit

/-- A fitting model is on the page when fewer than `limit` come before it by name. -/
lemma mem_findForWorkload {limit : Nat} {entry : ModelRegistryEntry} :
    entry ∈ registry.findForWorkload workloadType none none minQualityScore false limit
      ↔ entry ∈ registry.fitting workloadType minQualityScore
        ∧ (registry.fitting workloadType minQualityScore).countP
            (fun other => other.modelName < entry.modelName) < limit := by
  rw [findForWorkload_eq, Ranking.mem_take_sortedBy registry.nodup_names_fitting]

lemma nodup_names_findForWorkload {limit : Nat} :
    ((registry.findForWorkload workloadType none none minQualityScore false limit).map
      ModelRegistryEntry.modelName).Nodup := by
  rw [findForWorkload_eq]
  refine List.Nodup.sublist ((List.take_sublist _ _).map _) ?_
  exact ((Ranking.perm_sortedBy _ _).map _).nodup_iff.mpr registry.nodup_names_fitting

end ModelRegistry

namespace Collaborators

/-! ## The order of preference -/

/-- `_select_model` never puts the second model before the first. -/
def Preferred (preferCheapest : Bool) (a b : ModelRegistryEntry) : Prop :=
  if preferCheapest then cheapestKey a ≤ cheapestKey b else bestKey a ≤ bestKey b

/-- Both orders end with the name, so models of different names never tie. -/
lemma nodup_keys {entries : List ModelRegistryEntry}
    (hnames : (entries.map ModelRegistryEntry.modelName).Nodup) :
    (entries.map cheapestKey).Nodup ∧ (entries.map bestKey).Nodup := by
  have hsame : ∀ a ∈ entries, ∀ b ∈ entries, a.modelName = b.modelName → a = b :=
    fun a ha b hb h => List.inj_on_of_nodup_map hnames ha hb h
  constructor
  · refine (List.Nodup.of_map _ hnames).map_on fun a ha b hb hkey => hsame a ha b hb ?_
    exact congrArg (fun key => (ofLex (ofLex (ofLex key).2).2).2) hkey
  · refine (List.Nodup.of_map _ hnames).map_on fun a ha b hb hkey => hsame a ha b hb ?_
    exact congrArg (fun key => (ofLex (ofLex (ofLex key).2).2).2) hkey

section Select

variable {entries : List ModelRegistryEntry} {preferCheapest : Bool}

/-- **What is selected is the best**: the candidate that no other is preferred to. -/
theorem selectModel_eq_some (hnames : (entries.map ModelRegistryEntry.modelName).Nodup)
    {entry : ModelRegistryEntry} :
    selectModel entries preferCheapest = some entry
      ↔ entry ∈ entries ∧ ∀ other ∈ entries, Preferred preferCheapest entry other := by
  obtain ⟨hcheapest, hbest⟩ := nodup_keys hnames
  cases preferCheapest with
  | true => simpa [selectModel, Preferred] using Ranking.firstBy_eq_some hcheapest
  | false => simpa [selectModel, Preferred] using Ranking.firstBy_eq_some hbest

lemma selectModel_eq_none : selectModel entries preferCheapest = none ↔ entries = [] := by
  cases preferCheapest with
  | true => simpa [selectModel] using Ranking.firstBy_eq_none
  | false => simpa [selectModel] using Ranking.firstBy_eq_none

/-- Selecting among fewer gives the same model exactly when the best of all is among them. -/
lemma selectModel_eq_iff {page : List ModelRegistryEntry} (hsub : ∀ entry ∈ page, entry ∈ entries)
    (hpage : (page.map ModelRegistryEntry.modelName).Nodup)
    (hnames : (entries.map ModelRegistryEntry.modelName).Nodup) :
    selectModel page preferCheapest = selectModel entries preferCheapest
      ↔ ∀ best ∈ selectModel entries preferCheapest, best ∈ page := by
  constructor
  · intro h best hbest
    exact selectModel_mem (h.trans hbest)
  · intro h
    cases hbest : selectModel entries preferCheapest with
    | none =>
        rw [selectModel_eq_none] at hbest ⊢
        subst hbest
        exact List.eq_nil_iff_forall_not_mem.mpr fun entry hentry =>
          List.not_mem_nil (hsub entry hentry)
    | some best =>
        obtain ⟨-, hfirst⟩ := (selectModel_eq_some hnames).mp hbest
        refine (selectModel_eq_some hpage).mpr ⟨h best hbest, fun other hother => ?_⟩
        exact hfirst other (hsub other hother)

end Select

/-! ## Completeness -/

variable {c : Collaborators} {registry : ModelRegistry} {request : OrchestrationRequest}
  {principal : Principal} {requestId traceId : String}

/-- What a policy asks of a model's quality. -/
def minimumQuality (policy : Option RoutingPolicy) : Option ℚ :=
  policy.bind RoutingPolicy.minimumQualityScore

/-- **Selection looks at the whole registry.**  Unless the budget blocks, the plan names the model
    the policy pins, if that one fits, and without a pin the best of all that fit. -/
def SelectionComplete (c : Collaborators) (registry : ModelRegistry)
    (request : OrchestrationRequest) (principal : Principal) (requestId traceId : String) : Prop :=
  ∀ decision, c.checkBudget request principal = .ok decision → decision.outcome ≠ .Block →
    ∃ plan, (c.withRegistry registry).plan request principal requestId traceId = .ok plan
      ∧ match pinnedModel (c.policyFor request principal) with
        | some pinned => ∀ entry ∈ registry.models.rows, entry.id = pinned →
            ModelRegistry.isCompatible entry request.workloadType none = true →
            entry.meetsQuality (minimumQuality (c.policyFor request principal)) = true →
            plan.selectedModelId = some entry.id
        | none =>
            plan.selectedModelId = (selectModel (registry.fitting request.workloadType
              (minimumQuality (c.policyFor request principal)))
                (decision.outcome = .Downgrade)).map ModelRegistryEntry.id

/-- Fewer than 50 fitting models come before this one by name. -/
def NamedEarly (c : Collaborators) (registry : ModelRegistry) (request : OrchestrationRequest)
    (principal : Principal) (entry : ModelRegistryEntry) : Prop :=
  (registry.fitting request.workloadType
      (minimumQuality (c.policyFor request principal))).countP
    (fun other => other.modelName < entry.modelName) < 50

/-- The model that ought to be selected is named early. -/
def WithinPage (c : Collaborators) (registry : ModelRegistry) (request : OrchestrationRequest)
    (principal : Principal) : Prop :=
  ∀ decision, c.checkBudget request principal = .ok decision → decision.outcome ≠ .Block →
    match pinnedModel (c.policyFor request principal) with
    | some pinned => ∀ entry ∈ registry.fitting request.workloadType
        (minimumQuality (c.policyFor request principal)), entry.id = pinned →
          c.NamedEarly registry request principal entry
    | none => ∀ best ∈ selectModel (registry.fitting request.workloadType
        (minimumQuality (c.policyFor request principal))) (decision.outcome = .Downgrade),
          c.NamedEarly registry request principal best

/-- The page the plan selects from. -/
def page (c : Collaborators) (registry : ModelRegistry) (request : OrchestrationRequest)
    (principal : Principal) : List ModelRegistryEntry :=
  registry.findForWorkload request.workloadType none none
    (minimumQuality (c.policyFor request principal)) false 50

lemma mem_page {entry : ModelRegistryEntry} :
    entry ∈ c.page registry request principal
      ↔ entry ∈ registry.fitting request.workloadType
          (minimumQuality (c.policyFor request principal))
        ∧ c.NamedEarly registry request principal entry :=
  registry.mem_findForWorkload

lemma nodup_names_page :
    ((c.page registry request principal).map ModelRegistryEntry.modelName).Nodup :=
  registry.nodup_names_findForWorkload

/-- The candidates are the page, or what the pin leaves of it. -/
lemma candidates_withRegistry :
    (c.withRegistry registry).candidates request (c.policyFor request principal)
      = .ok (match pinnedModel (c.policyFor request principal) with
        | some pinned => (c.page registry request principal).filter
            fun candidate => candidate.id = pinned
        | none => c.page registry request principal) := by
  simp only [candidates, withRegistry, ModelRegistry.service, Fallible.ok_bind]
  cases pinnedModel (c.policyFor request principal) <;> rfl

/-- A model pinned on the page is the one selected. -/
lemma selectModel_pinned {preferCheapest : Bool} {entry : ModelRegistryEntry}
    (hrow : entry ∈ registry.models.rows) :
    (selectModel ((c.page registry request principal).filter
        fun candidate => candidate.id = entry.id) preferCheapest).map ModelRegistryEntry.id
          = some entry.id
      ↔ entry ∈ c.page registry request principal := by
  constructor
  · intro h
    obtain ⟨selected, hselected, hid⟩ := Option.map_eq_some_iff.mp h
    obtain ⟨hmem, -⟩ := List.mem_filter.mp (selectModel_mem hselected)
    have hselectedRow := (registry.mem_fitting.mp (mem_page.mp hmem).1).1
    rwa [registry.models.eq_of_key hrow hselectedRow hid.symm]
  · intro hentry
    cases hselected : selectModel ((c.page registry request principal).filter
        fun candidate => candidate.id = entry.id) preferCheapest with
    | none =>
        have hmem : entry ∈ (c.page registry request principal).filter
            fun candidate => candidate.id = entry.id :=
          List.mem_filter.mpr ⟨hentry, decide_eq_true rfl⟩
        rw [selectModel_eq_none.mp hselected] at hmem
        cases hmem
    | some selected =>
        obtain ⟨-, hid⟩ := List.mem_filter.mp (selectModel_mem hselected)
        rw [Option.map_some, of_decide_eq_true hid]

/-- Without a pin, the page gives the model the registry would. -/
lemma selectModel_unpinned {preferCheapest : Bool} :
    (selectModel (c.page registry request principal) preferCheapest).map ModelRegistryEntry.id
        = (selectModel (registry.fitting request.workloadType
            (minimumQuality (c.policyFor request principal))) preferCheapest).map
              ModelRegistryEntry.id
      ↔ ∀ best ∈ selectModel (registry.fitting request.workloadType
          (minimumQuality (c.policyFor request principal))) preferCheapest,
            best ∈ c.page registry request principal := by
  rw [registry.map_id_eq_iff
      (fun entry h => (registry.mem_fitting.mp (mem_page.mp (selectModel_mem h)).1).1)
      (fun entry h => (registry.mem_fitting.mp (selectModel_mem h)).1),
    selectModel_eq_iff (fun entry h => (mem_page.mp h).1) nodup_names_page
      registry.nodup_names_fitting]

/-- Unless the budget blocks, the plan names what is selected from the page. -/
lemma plan_selectedModelId {decision : BudgetDecision}
    (hdecision : c.checkBudget request principal = .ok decision)
    (hblock : decision.outcome ≠ .Block) :
    ((c.withRegistry registry).plan request principal requestId traceId).toOption.map
        ExecutionPlan.selectedModelId
      = some ((selectModel (match pinnedModel (c.policyFor request principal) with
          | some pinned => (c.page registry request principal).filter
              fun candidate => candidate.id = pinned
          | none => c.page registry request principal)
            (decision.outcome = .Downgrade)).map ModelRegistryEntry.id) := by
  rw [(c.withRegistry registry).plan_eq_routedPlan requestId traceId hdecision hblock
    candidates_withRegistry]
  rfl

/-- **Selection looks at the whole registry exactly when the right model is within the page.** -/
theorem selection_complete_iff (c : Collaborators) (registry : ModelRegistry)
    (request : OrchestrationRequest) (principal : Principal) (requestId traceId : String) :
    c.SelectionComplete registry request principal requestId traceId
      ↔ c.WithinPage registry request principal := by
  refine forall_congr' fun decision => forall_congr' fun hdecision =>
    forall_congr' fun hblock => ?_
  have hplan := (c.withRegistry registry).plan_eq_routedPlan requestId traceId hdecision hblock
    candidates_withRegistry
  cases hpinned : pinnedModel (c.policyFor request principal) with
  | some pinned =>
      rw [hpinned] at hplan
      constructor
      · rintro ⟨plan, hok, hselects⟩ entry hentry rfl
        obtain ⟨hrow, hcompatible, hquality⟩ := registry.mem_fitting.mp hentry
        have hselected := hselects entry hrow rfl hcompatible hquality
        cases Except.ok.inj (hplan.symm.trans hok)
        exact (mem_page.mp ((selectModel_pinned hrow).mp hselected)).2
      · intro hearly
        refine ⟨_, hplan, ?_⟩
        rintro entry hrow rfl hcompatible hquality
        have hfits := registry.mem_fitting.mpr ⟨hrow, hcompatible, hquality⟩
        exact (selectModel_pinned hrow).mpr (mem_page.mpr ⟨hfits, hearly entry hfits rfl⟩)
  | none =>
      rw [hpinned] at hplan
      constructor
      · rintro ⟨plan, hok, hselects⟩ best hbest
        cases Except.ok.inj (hplan.symm.trans hok)
        exact (mem_page.mp (selectModel_unpinned.mp hselects best hbest)).2
      · intro hearly
        refine ⟨_, hplan, selectModel_unpinned.mpr fun best hbest => ?_⟩
        exact mem_page.mpr ⟨selectModel_mem hbest, hearly best hbest⟩

end Collaborators

def moderateModel (n : Nat) : ModelRegistryEntry where
  id := String.ofList (List.replicate (n + 1) 'a')
  modelName := String.ofList (List.replicate (n + 1) 'a')
  capability := .Reasoning
  qualityScore := some (4 / 5)
  inputCostNonNegative := unknown_nonneg
  outputCostNonNegative := unknown_nonneg
  maxContextTokensPositive := unknown_pos

def flagship : ModelRegistryEntry where
  id := "m1"
  modelName := "flagship"
  capability := .Reasoning
  qualityScore := some (9 / 10)
  inputCostNonNegative := unknown_nonneg
  outputCostNonNegative := unknown_nonneg
  maxContextTokensPositive := unknown_pos

/-- Fifty models of moderate quality, named before a better one. -/
def crowdedRegistry : ModelRegistry where
  models :=
    { rows := (List.range 50).map moderateModel ++ [flagship]
      nodup := by decide +kernel }
  namesUnique := by decide +kernel

lemma mem_crowdedRegistry {entry : ModelRegistryEntry} :
    entry ∈ crowdedRegistry.models.rows
      ↔ (∃ n < 50, moderateModel n = entry) ∨ entry = flagship := by
  simp [crowdedRegistry]

/-- The whole crowd fits, at a quality of 0.8 as without a minimum. -/
lemma fitting_crowdedRegistry {minQualityScore : Option ℚ}
    (h : ∀ bound ∈ minQualityScore, bound = 4 / 5) :
    crowdedRegistry.fitting "supply_chain" minQualityScore = crowdedRegistry.models.rows := by
  refine List.filter_eq_self.mpr fun entry hentry => Bool.and_eq_true_iff.mpr ?_
  rcases mem_crowdedRegistry.mp hentry with ⟨n, -, rfl⟩ | rfl
  · refine ⟨rfl, (Option.all_eq_true ..).mpr fun bound hbound => ?_⟩
    rw [h bound hbound]
    simp [moderateModel]
  · refine ⟨rfl, (Option.all_eq_true ..).mpr fun bound hbound => ?_⟩
    rw [h bound hbound]
    simp [flagship]
    norm_num

/-- The flagship is the fifty-first by name. -/
lemma fifty_before_flagship : crowdedRegistry.models.rows.countP
    (fun other => other.modelName < flagship.modelName) = 50 := by
  have hnames : ∀ n, (moderateModel n).modelName < flagship.modelName := by
    intro n
    rw [String.lt_iff_toList_lt]
    simp only [moderateModel, flagship, String.toList_ofList, List.replicate_succ]
    exact List.Lex.rel (by decide)
  have hmoderate : ((List.range 50).map moderateModel).countP
      (fun other => other.modelName < flagship.modelName) = 50 := by
    rw [List.countP_eq_length.mpr, List.length_map, List.length_range]
    simpa using fun n _ => hnames n
  have hself : [flagship].countP (fun other => other.modelName < flagship.modelName) = 0 :=
    List.countP_eq_zero.mpr (by simp only [List.mem_singleton, forall_eq, lt_irrefl, decide_false,
      Bool.false_eq_true, not_false_eq_true])
  rw [crowdedRegistry, List.countP_append, hmoderate, hself]

/-- No name comes before the first. -/
lemma first_by_name : ∀ other ∈ crowdedRegistry.models.rows,
    (moderateModel 0).modelName ≤ other.modelName := by
  intro other hother
  rw [← not_lt, String.lt_iff_toList_lt]
  rcases mem_crowdedRegistry.mp hother with ⟨n, -, rfl⟩ | rfl
  · simp [moderateModel, List.replicate_succ]
  · decide

lemma none_before_first : crowdedRegistry.models.rows.countP
    (fun other => other.modelName < (moderateModel 0).modelName) = 0 := by
  refine List.countP_eq_zero.mpr fun other hother h => ?_
  exact (first_by_name other hother).not_gt (of_decide_eq_true h)

/-- The flagship is preferred to all of them, and the first by name to all but the flagship. -/
lemma preferred_in_crowd : ∀ other ∈ crowdedRegistry.models.rows,
    Collaborators.Preferred false flagship other
      ∧ (other = flagship ∨ Collaborators.Preferred false (moderateModel 0) other) := by
  intro other hother
  have hfirst := first_by_name other hother
  rcases mem_crowdedRegistry.mp hother with ⟨n, -, rfl⟩ | rfl
  · have hquality : Collaborators.qualityKey flagship
        < Collaborators.qualityKey (moderateModel n) := by
      simp [Collaborators.qualityKey, flagship, moderateModel]
      norm_num
    refine ⟨?_, Or.inr ?_⟩
    · exact (Prod.Lex.le_iff ..).mpr (Or.inl hquality)
    · simp only [Collaborators.Preferred, Collaborators.bestKey, Bool.false_eq_true, if_false]
      exact Prod.Lex.toLex_le_toLex.mpr (Or.inr ⟨rfl, Prod.Lex.toLex_le_toLex.mpr (Or.inr ⟨rfl,
        Prod.Lex.toLex_le_toLex.mpr (Or.inr ⟨rfl, hfirst⟩)⟩)⟩)
  · exact ⟨le_rfl, Or.inl rfl⟩

lemma flagship_not_early {c : Collaborators}
    (h : ∀ bound ∈ Collaborators.minimumQuality (c.policyFor supplyChainRequest engineer),
      bound = 4 / 5) :
    ¬ c.NamedEarly crowdedRegistry supplyChainRequest engineer flagship := fun hearly =>
  hearly.ne ((congrArg (List.countP _) (fitting_crowdedRegistry h)).trans fifty_before_flagship)

lemma flagship_mem : flagship ∈ crowdedRegistry.models.rows := mem_crowdedRegistry.mpr (Or.inr rfl)

lemma pinnedModel_pinnedDeployment : Collaborators.pinnedModel
    (pinnedDeployment.policyFor supplyChainRequest engineer) = some "m1" := by
  decide +kernel

/-- Whatever the pin leaves is the flagship, and the page ends before it. -/
lemma pinned_selects_none :
    ((pinnedDeployment.withRegistry crowdedRegistry).plan supplyChainRequest engineer "r1"
      "r1").toOption.map ExecutionPlan.selectedModelId = some none := by
  rw [Collaborators.plan_selectedModelId rfl (by decide), pinnedModel_pinnedDeployment]
  refine congrArg some (Option.map_eq_none_iff.mpr (Option.eq_none_iff_forall_not_mem.mpr ?_))
  intro selected hselected
  obtain ⟨hpage, hid⟩ := List.mem_filter.mp (Collaborators.selectModel_mem hselected)
  obtain ⟨hfits, hearly⟩ := Collaborators.mem_page.mp hpage
  cases crowdedRegistry.models.eq_of_key (crowdedRegistry.mem_fitting.mp hfits).1 flagship_mem
    (of_decide_eq_true hid)
  exact flagship_not_early (by rintro bound ⟨⟩; rfl) hearly

/-- On the page, nothing is preferred to its first model. -/
lemma unpinned_selects_first :
    ((smallDeployment.withRegistry crowdedRegistry).plan supplyChainRequest engineer "r1"
      "r1").toOption.map ExecutionPlan.selectedModelId = some (some "a") := by
  have hfitting : crowdedRegistry.fitting "supply_chain" none = crowdedRegistry.models.rows :=
    fitting_crowdedRegistry (by simp)
  have hselected : Collaborators.selectModel
      (smallDeployment.page crowdedRegistry supplyChainRequest engineer) false
        = some (moderateModel 0) := by
    refine (Collaborators.selectModel_eq_some Collaborators.nodup_names_page).mpr
      ⟨Collaborators.mem_page.mpr ⟨?_, ?_⟩, fun other hother => ?_⟩
    · exact hfitting ▸ mem_crowdedRegistry.mpr (Or.inl ⟨0, by decide, rfl⟩)
    · exact ((congrArg (List.countP _) hfitting).trans none_before_first).trans_lt (by decide)
    · obtain ⟨hfits, hearly⟩ := Collaborators.mem_page.mp hother
      have hother' := (crowdedRegistry.mem_fitting.mp hfits).1
      refine (preferred_in_crowd other hother').2.resolve_left ?_
      rintro rfl
      exact flagship_not_early (by rintro bound ⟨⟩) hearly
  rw [Collaborators.plan_selectedModelId rfl (by decide)]
  exact congrArg some (congrArg (Option.map ModelRegistryEntry.id) hselected)

/-- Of all that fit, the flagship is the best. -/
lemma flagship_best :
    Collaborators.selectModel (crowdedRegistry.fitting "supply_chain" none) false
      = some flagship := by
  refine (Collaborators.selectModel_eq_some crowdedRegistry.nodup_names_fitting).mpr ?_
  rw [fitting_crowdedRegistry (by simp)]
  exact ⟨flagship_mem, fun other hother => (preferred_in_crowd other hother).1⟩

/-- **The fifty-first model is never found.**  A policy that pins it gets no model at all, and
    without a policy a worse model is selected. -/
theorem flagship_beyond_page :
    ((pinnedDeployment.withRegistry crowdedRegistry).plan supplyChainRequest engineer "r1"
        "r1").toOption.map ExecutionPlan.selectedModelId = some none
      ∧ ((smallDeployment.withRegistry crowdedRegistry).plan supplyChainRequest engineer "r1"
        "r1").toOption.map ExecutionPlan.selectedModelId = some (some "a")
      ∧ ¬ pinnedDeployment.SelectionComplete crowdedRegistry supplyChainRequest engineer "r1" "r1"
      ∧ ¬ smallDeployment.SelectionComplete crowdedRegistry supplyChainRequest engineer "r1"
        "r1" := by
  have hpin := pinned_selects_none
  have hbest := unpinned_selects_first
  refine ⟨hpin, hbest, fun hcomplete => ?_, fun hcomplete => ?_⟩
  · obtain ⟨plan, hplan, hselects⟩ := hcomplete _ rfl (by decide)
    rw [hplan] at hpin
    rw [pinnedModel_pinnedDeployment] at hselects
    obtain ⟨-, hcompatible, hquality⟩ := crowdedRegistry.mem_fitting.mp
      ((@fitting_crowdedRegistry (some (4 / 5)) (by simp)).symm ▸ flagship_mem)
    have hselected := hselects flagship flagship_mem rfl hcompatible hquality
    rw [Option.some.inj hpin] at hselected
    cases hselected
  · obtain ⟨plan, hplan, hselects⟩ := hcomplete _ rfl (by decide)
    rw [hplan] at hbest
    have hworse : plan.selectedModelId = some "a" := Option.some.inj hbest
    have hbetter : plan.selectedModelId = some "m1" :=
      hselects.trans (congrArg (Option.map ModelRegistryEntry.id) flagship_best)
    exact absurd (hworse.symm.trans hbetter) (by decide)

end CostPlatform
