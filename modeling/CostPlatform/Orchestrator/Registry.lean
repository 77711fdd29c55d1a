import CostPlatform.Library.KeyedTable
import CostPlatform.Library.Ranking
import CostPlatform.Orchestrator.Classification

/-!
# The model registry

Nullable metadata means that nobody has told us, and a requirement is only met by a value that
demonstrably meets it: `findForWorkload_sound` says that whatever the registry offers for a
workload is a registered, enabled model that is known to meet every requirement.
-/

namespace CostPlatform

/-! ## Entries -/

inductive Capability where
  | Text
  | Vision
  | Multimodal
  | Embedding
  | Speech
  | Coding
  | Reasoning
  deriving DecidableEq, Repr

inductive Modality where
  | Text
  | Image
  | Multimodal
  | Structured
  deriving DecidableEq, Repr

/-- One registered model, with the `CHECK` constraints of `models`. -/
structure ModelRegistryEntry where
  id : String
  modelName : String
  provider : Option String := none
  capability : Capability
  modality : Option Modality := none
  inputCost : Option ℚ := none
  outputCost : Option ℚ := none
  costUnit : Option String := none
  maxContextTokens : Option Int := none
  supportsVision : Option Bool := none
  supportsTools : Option Bool := none
  supportsStructuredOutput : Option Bool := none
  supportsEmbeddings : Option Bool := none
  qualityScore : Option ℚ := none
  latencyScore : Option ℚ := none
  riskLevel : Option RiskLevel := none
  enabled : Bool := true
  inputCostNonNegative : ∀ cost ∈ inputCost, 0 ≤ cost := by simp
  outputCostNonNegative : ∀ cost ∈ outputCost, 0 ≤ cost := by simp
  maxContextTokensPositive : ∀ tokens ∈ maxContextTokens, 0 < tokens := by simp

/-- What is not known is not out of bounds. -/
lemma unknown_nonneg : ∀ cost ∈ (none : Option ℚ), 0 ≤ cost := by simp

lemma unknown_pos : ∀ tokens ∈ (none : Option Int), 0 < tokens := by simp

/-- Both rates and the unit must be present. -/
def ModelRegistryEntry.hasKnownPricing (entry : ModelRegistryEntry) : Bool :=
  entry.inputCost.isSome && entry.outputCost.isSome && (PyString.truthy entry.costUnit).isSome

/-- The `models` table.  Names are unique as well as ids. -/
structure ModelRegistry where
  models : Table ModelRegistryEntry.id
  namesUnique : (models.rows.map ModelRegistryEntry.modelName).Nodup

/-! ## Queries -/

/-- Filter criteria for a registry lookup. -/
structure ModelQuery where
  capability : Option Capability := none
  modality : Option Modality := none
  enabled : Option Bool := none
  requiresVision : Bool := false
  requiresTools : Bool := false
  requiresStructuredOutput : Bool := false
  requiresEmbeddings : Bool := false
  minContextTokens : Option Int := none
  minQualityScore : Option ℚ := none
  requireKnownPricing : Bool := false
  limit : Nat := 50
  offset : Nat := 0

/-- `_apply_filters`.  No requirement is met by a `NULL`. -/
def ModelQuery.selects (query : ModelQuery) (model : ModelRegistryEntry) : Bool :=
  query.capability.all (model.capability = ·)
    && query.modality.all (model.modality = some ·)
    && query.enabled.all (model.enabled = ·)
    && (!query.requiresVision || model.supportsVision = some true)
    && (!query.requiresTools || model.supportsTools = some true)
    && (!query.requiresStructuredOutput || model.supportsStructuredOutput = some true)
    && (!query.requiresEmbeddings || model.supportsEmbeddings = some true)
    && query.minContextTokens.all (fun bound => model.maxContextTokens.any (bound ≤ ·))
    && query.minQualityScore.all (fun bound => model.qualityScore.any (bound ≤ ·))
    && (!query.requireKnownPricing
      || model.inputCost.isSome && model.outputCost.isSome && model.costUnit.isSome)

namespace ModelRegistry

variable (registry : ModelRegistry)

/-- A page of matching models by name, and the total match count. -/
def list (query : ModelQuery) : List ModelRegistryEntry × Nat :=
  let rows := registry.models.rows.filter query.selects
  (((Ranking.sortedBy ModelRegistryEntry.modelName rows).drop query.offset).take query.limit,
    rows.length)

/-- Models that can serve a request, always among the enabled ones. -/
def findCandidates (query : ModelQuery) : List ModelRegistryEntry :=
  (registry.list { query with enabled := some true, offset := 0 }).1

end ModelRegistry

/-! ## Workloads -/

/-- Capability requirements implied by a workload type. -/
structure WorkloadCapabilityProfile where
  capabilities : List Capability
  requiresVision : Bool := false

def WORKLOAD_PROFILES (workloadType : String) : Option WorkloadCapabilityProfile :=
  match workloadType with
  | "quality_check" => some { capabilities := [.Vision, .Multimodal], requiresVision := true }
  | "predictive_maintenance" => some { capabilities := [.Reasoning, .Text] }
  | "supply_chain" => some { capabilities := [.Reasoning, .Text] }
  | _ => none

/-- `seen[entry.id] = entry`, on the entries seen so far. -/
def remember (seen : List ModelRegistryEntry) (entry : ModelRegistryEntry) :
    List ModelRegistryEntry :=
  if seen.any fun other => other.id = entry.id then
    seen.map fun other => if other.id = entry.id then entry else other
  else seen ++ [entry]

namespace ModelRegistry

variable (registry : ModelRegistry)

/-- Enabled models compatible with a workload type; none for an unknown type. -/
def findForWorkload (workloadType : String) (modality : Option Modality)
    (minContextTokens : Option Int) (minQualityScore : Option ℚ) (requireKnownPricing : Bool)
    (limit : Nat) : List ModelRegistryEntry :=
  match WORKLOAD_PROFILES workloadType with
  | none => []
  | some profile =>
      let seen := profile.capabilities.foldl (fun seen capability =>
        (registry.findCandidates
          { capability := some capability
            modality := modality
            requiresVision := profile.requiresVision
            minContextTokens := minContextTokens
            minQualityScore := minQualityScore
            requireKnownPricing := requireKnownPricing
            limit := limit }).foldl remember seen) []
      (Ranking.sortedBy ModelRegistryEntry.modelName seen).take limit

/-- In-memory compatibility check. -/
def isCompatible (entry : ModelRegistryEntry) (workloadType : String)
    (modality : Option Modality) : Bool :=
  match WORKLOAD_PROFILES workloadType with
  | none => false
  | some profile =>
      entry.enabled
        && entry.capability ∈ profile.capabilities
        && (!profile.requiresVision || entry.supportsVision = some true)
        && modality.all (entry.modality = some ·)

/-! ## What the queries have seen -/

section Seen

variable {registry}

lemma mem_remember {seen : List ModelRegistryEntry} {entry other : ModelRegistryEntry}
    (h : other ∈ remember seen entry) : other ∈ seen ∨ other = entry := by
  simp only [remember] at h
  split_ifs at h
  · obtain ⟨old, hold, rfl⟩ := List.mem_map.mp h
    split_ifs
    · exact Or.inr rfl
    · exact Or.inl hold
  · simpa using h

/-- Registered models that share an id are the same model, so remembering one forgets none. -/
lemma subset_remember {seen : List ModelRegistryEntry} {entry other : ModelRegistryEntry}
    (hseen : ∀ model ∈ seen, model ∈ registry.models.rows) (hentry : entry ∈ registry.models.rows)
    (h : other ∈ seen ∨ other = entry) : other ∈ remember seen entry := by
  simp only [remember]
  split_ifs with hany
  · obtain ⟨same, hsame, hid⟩ := List.any_eq_true.mp hany
    have heq : same = entry :=
      registry.models.eq_of_key (hseen same hsame) hentry (of_decide_eq_true hid)
    rcases h with h | rfl
    · refine List.mem_map.mpr ⟨other, h, ?_⟩
      split_ifs with hkey
      · exact registry.models.eq_of_key hentry (hseen other h) hkey.symm
      · rfl
    · exact List.mem_map.mpr ⟨same, hsame, by rw [heq, if_pos rfl]⟩
  · simpa using h

/-- No id is seen twice. -/
lemma nodup_remember {seen : List ModelRegistryEntry} (entry : ModelRegistryEntry)
    (h : (seen.map ModelRegistryEntry.id).Nodup) :
    ((remember seen entry).map ModelRegistryEntry.id).Nodup := by
  simp only [remember]
  split_ifs with hany
  · have hids : (seen.map fun other => if other.id = entry.id then entry else other).map
        ModelRegistryEntry.id = seen.map ModelRegistryEntry.id := by
      rw [List.map_map]
      refine List.map_congr_left fun other _ => ?_
      simp only [Function.comp_apply]
      split_ifs with hid
      · exact hid.symm
      · rfl
    rw [hids]
    exact h
  · rw [List.map_append, List.map_singleton]
    refine h.append (List.nodup_singleton _) ?_
    simpa using hany

/-- What has been seen so far: registered models, each once. -/
def Seen (registry : ModelRegistry) (seen : List ModelRegistryEntry) : Prop :=
  (∀ model ∈ seen, model ∈ registry.models.rows) ∧ (seen.map ModelRegistryEntry.id).Nodup

lemma seen_nil : registry.Seen [] := ⟨by simp, List.nodup_nil⟩

/-- Remembering registered models adds them and keeps what was seen. -/
lemma foldl_remember {entries seen : List ModelRegistryEntry} (hseen : registry.Seen seen)
    (hentries : ∀ entry ∈ entries, entry ∈ registry.models.rows) :
    registry.Seen (entries.foldl remember seen)
      ∧ ∀ other, other ∈ entries.foldl remember seen ↔ other ∈ seen ∨ other ∈ entries := by
  induction entries generalizing seen with
  | nil => exact ⟨hseen, fun other => by simp⟩
  | cons entry entries ih =>
      obtain ⟨hentry, hrest⟩ := List.forall_mem_cons.mp hentries
      have hstep : ∀ other, other ∈ remember seen entry ↔ other ∈ seen ∨ other = entry :=
        fun other => ⟨mem_remember, subset_remember hseen.1 hentry⟩
      have hnext : registry.Seen (remember seen entry) := by
        refine ⟨fun model hmodel => ?_, nodup_remember entry hseen.2⟩
        rcases (hstep model).mp hmodel with hold | rfl
        · exact hseen.1 model hold
        · exact hentry
      obtain ⟨hdone, hmem⟩ := ih hnext hrest
      refine ⟨hdone, fun other => ?_⟩
      rw [List.foldl_cons, hmem, hstep, List.mem_cons, or_assoc]

lemma foldl_queries {capabilities : List Capability} {seen : List ModelRegistryEntry}
    {query : Capability → List ModelRegistryEntry} (hseen : registry.Seen seen)
    (hquery : ∀ capability, ∀ entry ∈ query capability, entry ∈ registry.models.rows) :
    registry.Seen (capabilities.foldl
        (fun seen capability => (query capability).foldl remember seen) seen)
      ∧ ∀ other, other ∈ capabilities.foldl
          (fun seen capability => (query capability).foldl remember seen) seen
        ↔ other ∈ seen ∨ ∃ capability ∈ capabilities, other ∈ query capability := by
  induction capabilities generalizing seen with
  | nil => exact ⟨hseen, fun other => by simp⟩
  | cons capability capabilities ih =>
      obtain ⟨hnext, hstep⟩ := foldl_remember hseen (hquery capability)
      obtain ⟨hdone, hmem⟩ := ih hnext
      refine ⟨hdone, fun other => ?_⟩
      rw [List.foldl_cons, hmem, hstep, List.exists_mem_cons_iff, or_assoc]

end Seen

/-! ## What is offered is known to fit -/

lemma mem_findCandidates {query : ModelQuery} {entry : ModelRegistryEntry}
    (h : entry ∈ registry.findCandidates query) :
    entry ∈ registry.models.rows
      ∧ ModelQuery.selects { query with enabled := some true, offset := 0 } entry = true := by
  have hrows := List.mem_of_mem_drop (List.mem_of_mem_take h)
  exact List.mem_filter.mp ((Ranking.mem_sortedBy _).mp hrows)

/-- **Whatever is offered for a workload is registered, compatible and known to meet the
    bounds.** -/
theorem findForWorkload_sound {workloadType : String} {modality : Option Modality}
    {minContextTokens : Option Int} {minQualityScore : Option ℚ} {requireKnownPricing : Bool}
    {limit : Nat} {entry : ModelRegistryEntry}
    (h : entry ∈ registry.findForWorkload workloadType modality minContextTokens minQualityScore
      requireKnownPricing limit) :
    entry ∈ registry.models.rows
      ∧ isCompatible entry workloadType modality = true
      ∧ (∀ bound ∈ minContextTokens, ∃ window ∈ entry.maxContextTokens, bound ≤ window)
      ∧ (∀ bound ∈ minQualityScore, ∃ score ∈ entry.qualityScore, bound ≤ score) := by
  simp only [findForWorkload] at h
  split at h
  · cases h
  next profile hprofile =>
      have hseen := (Ranking.mem_sortedBy _).mp (List.mem_of_mem_take h)
      obtain ⟨-, hmem⟩ := foldl_queries (@seen_nil registry)
        (fun capability entry h => (registry.mem_findCandidates h).1)
      rcases (hmem entry).mp hseen with hnil | ⟨capability, hcapability, hquery⟩
      · cases hnil
      · obtain ⟨hrow, hselects⟩ := registry.mem_findCandidates hquery
        simp only [ModelQuery.selects, Bool.and_eq_true] at hselects
        -- the ten conditions of the query, in the order it tests them
        obtain ⟨⟨hselects, hquality⟩, -⟩ := hselects
        obtain ⟨⟨⟨⟨hselects, -⟩, -⟩, -⟩, hcontext⟩ := hselects
        obtain ⟨⟨⟨hsame, hmodality⟩, henabled⟩, hvision⟩ := hselects
        have hcap : entry.capability = capability := of_decide_eq_true hsame
        have hon : entry.enabled = true := of_decide_eq_true henabled
        refine ⟨hrow, ?_, ?_, ?_⟩
        · simp only [isCompatible, hprofile, hon, hcap, hcapability, decide_true, hvision,
            hmodality, Bool.and_self]
        · rintro bound rfl
          obtain ⟨window, hwindow, hle⟩ := (Option.any_eq_true ..).mp hcontext
          exact ⟨window, hwindow, of_decide_eq_true hle⟩
        · rintro bound rfl
          obtain ⟨score, hscore, hle⟩ := (Option.any_eq_true ..).mp hquality
          exact ⟨score, hscore, of_decide_eq_true hle⟩

end ModelRegistry

end CostPlatform
