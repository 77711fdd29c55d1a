import CostPlatform.Intelligence.Listing
import CostPlatform.Library.ThreeValued
import CostPlatform.Orchestrator.Selection

/-!
# Listing the compatible models

The registry says in two ways which models are compatible with a workload: by queries, one for each
capability, and by a test in memory.  They agree on every model (`compatibility_agrees`), `NULL`s
included: a query keeps the rows on which its conditions are true (`selects_eq_conditions`).

`GET /models` pages through the result of the queries.  It passes its limit on to them, so that all
pages but the first are cut off before they are reached: the pages are complete exactly when there
is one (`paging_complete_iff`).
-/

namespace CostPlatform

open ThreeValued (Truth)

/-! ## The queries -/

/-- The conditions that `_apply_filters` adds to the statement. -/
def ModelQuery.conditions (query : ModelQuery) (model : ModelRegistryEntry) : List Truth :=
  query.capability.toList.map (fun capability =>
      Truth.compare (· = capability) (some model.capability))
    ++ query.modality.toList.map (fun modality => Truth.compare (· = modality) model.modality)
    ++ query.enabled.toList.map (fun enabled => Truth.ofBool (model.enabled = enabled))
    ++ (if query.requiresVision then [Truth.ofBool (model.supportsVision = some true)] else [])
    ++ (if query.requiresTools then [Truth.ofBool (model.supportsTools = some true)] else [])
    ++ (if query.requiresStructuredOutput then
          [Truth.ofBool (model.supportsStructuredOutput = some true)] else [])
    ++ (if query.requiresEmbeddings then
          [Truth.ofBool (model.supportsEmbeddings = some true)] else [])
    ++ query.minContextTokens.toList.flatMap (fun bound =>
          [Truth.ofBool model.maxContextTokens.isSome,
            Truth.compare (bound ≤ ·) model.maxContextTokens])
    ++ query.minQualityScore.toList.flatMap (fun bound =>
          [Truth.ofBool model.qualityScore.isSome, Truth.compare (bound ≤ ·) model.qualityScore])
    ++ (if query.requireKnownPricing then
          [Truth.ofBool model.inputCost.isSome, Truth.ofBool model.outputCost.isSome,
            Truth.ofBool model.costUnit.isSome] else [])

/-- **What a query selects** is what its conditions are true of. -/
theorem selects_eq_conditions (query : ModelQuery) (model : ModelRegistryEntry) :
    query.selects model = (Truth.all (query.conditions model)).isTrue := by
  have hoption {α : Type} (given : Option α) (condition : α → Truth) :
      (given.toList.map condition).all Truth.isTrue
        = given.all fun value => (condition value).isTrue := by
    cases given <;> simp
  have hrequired (required : Bool) (conditions : List Truth) :
      (if required then conditions else []).all Truth.isTrue
        = (!required || conditions.all Truth.isTrue) := by
    cases required <;> rfl
  have hbound {α : Type} (given column : Option α) (least : α → α → Bool) :
      (given.toList.flatMap fun bound =>
          [Truth.ofBool column.isSome, Truth.compare (least bound) column]).all Truth.isTrue
        = given.all fun bound => column.any (least bound) := by
    cases given <;> cases column <;> simp
  have hequal (modality : Modality) :
      (model.modality.any fun value => decide (value = modality))
        = decide (model.modality = some modality) := by
    cases model.modality <;> simp
  rw [Truth.isTrue_all, ModelQuery.conditions, ModelQuery.selects]
  simp only [List.all_append, hoption, hrequired, hbound, List.all_cons, List.all_nil,
    Truth.isTrue_ofBool, Truth.isTrue_compare, Option.any_some, Bool.and_true, Bool.and_assoc,
    hequal]

/-! ## The two compatibility tests -/

namespace ModelRegistry

variable (registry : ModelRegistry) (workloadType : String) (modality : Option Modality)

/-- The registered models that are compatible in memory. -/
def compatible : List ModelRegistryEntry :=
  registry.models.rows.filter fun entry => isCompatible entry workloadType modality

/-- The compatible models by name. -/
def compatibleByName : List ModelRegistryEntry :=
  Ranking.sortedBy ModelRegistryEntry.modelName (registry.compatible workloadType modality)

lemma findForWorkload_eq_compatible (limit : Nat) :
    registry.findForWorkload workloadType modality none none false limit
      = (registry.compatibleByName workloadType modality).take limit := by
  have hquality : ∀ entry : ModelRegistryEntry,
      (isCompatible entry workloadType modality && entry.meetsQuality none)
        = isCompatible entry workloadType modality := fun entry => Bool.and_true _
  rw [findForWorkload_eq_take]
  simp only [hquality]
  rfl

lemma length_compatibleByName :
    (registry.compatibleByName workloadType modality).length
      = (registry.compatible workloadType modality).length :=
  (Ranking.perm_sortedBy _ _).length_eq

/-- **The queries and the test in memory agree.**  With a limit the registry does not exceed, the
    queries find exactly the compatible models, each once, by name. -/
theorem compatibility_agrees {limit : Nat} (hlimit : registry.models.rows.length ≤ limit) :
    (∀ entry, entry ∈ registry.findForWorkload workloadType modality none none false limit
        ↔ entry ∈ registry.models.rows ∧ isCompatible entry workloadType modality = true)
      ∧ (registry.findForWorkload workloadType modality none none false limit).Nodup
      ∧ (registry.findForWorkload workloadType modality none none false limit).Pairwise
          fun a b => a.modelName < b.modelName := by
  have hfits : (registry.compatibleByName workloadType modality).length ≤ limit := by
    rw [length_compatibleByName]
    exact (List.length_filter_le _ _).trans hlimit
  have hnames : ((registry.compatible workloadType modality).map
      ModelRegistryEntry.modelName).Nodup :=
    registry.namesUnique.sublist (List.filter_sublist.map _)
  rw [findForWorkload_eq_compatible, List.take_of_length_le hfits]
  refine ⟨fun entry => ?_, ?_, Ranking.pairwise_lt_sortedBy hnames⟩
  · rw [compatibleByName, Ranking.mem_sortedBy, compatible, List.mem_filter]
  · exact (Ranking.perm_sortedBy _ _).nodup_iff.mpr (List.Nodup.of_map _ hnames)

/-- Both models of the small deployment. -/
theorem twoModels_compatibility_agrees :
    (∀ entry, entry ∈ twoModels.findForWorkload "supply_chain" none none none false 2
        ↔ entry ∈ twoModels.models.rows ∧ isCompatible entry "supply_chain" none = true)
      ∧ (twoModels.findForWorkload "supply_chain" none none none false 2).Nodup
      ∧ (twoModels.findForWorkload "supply_chain" none none none false 2).Pairwise
          fun a b => a.modelName < b.modelName :=
  twoModels.compatibility_agrees "supply_chain" none (by decide)

end ModelRegistry

/-! ## The endpoint -/

/-- One registry entry, as it is answered. -/
structure ModelResponse where
  id : String
  modelName : String
  provider : Option String
  capability : Capability
  modality : Option Modality
  inputCost : Option ℚ
  outputCost : Option ℚ
  costUnit : Option String
  hasKnownPricing : Bool
  maxContextTokens : Option Int
  supportsVision : Option Bool
  supportsTools : Option Bool
  supportsStructuredOutput : Option Bool
  supportsEmbeddings : Option Bool
  qualityScore : Option ℚ
  latencyScore : Option ℚ
  riskLevel : Option RiskLevel
  enabled : Bool
  deriving DecidableEq, Repr

def ModelResponse.fromEntry (entry : ModelRegistryEntry) : ModelResponse where
  id := entry.id
  modelName := entry.modelName
  provider := entry.provider
  capability := entry.capability
  modality := entry.modality
  inputCost := entry.inputCost
  outputCost := entry.outputCost
  costUnit := entry.costUnit
  hasKnownPricing := entry.hasKnownPricing
  maxContextTokens := entry.maxContextTokens
  supportsVision := entry.supportsVision
  supportsTools := entry.supportsTools
  supportsStructuredOutput := entry.supportsStructuredOutput
  supportsEmbeddings := entry.supportsEmbeddings
  qualityScore := entry.qualityScore
  latencyScore := entry.latencyScore
  riskLevel := entry.riskLevel
  enabled := entry.enabled

abbrev ModelListResponse := ListResponse ModelResponse

/-- What `GET /models` is asked. -/
structure ModelListRequest where
  capability : Option Capability := none
  modality : Option Modality := none
  enabled : Option Bool := none
  workloadType : Option String := none

/-- `GET /models`. -/
def listModels (registry : ModelRegistry) (request : ModelListRequest) (paging : Paging) :
    ModelListResponse :=
  match request.workloadType with
  | some workloadType =>
      let entries := registry.findForWorkload workloadType request.modality none none false
        paging.limit
      let window := (entries.drop paging.offset).take paging.limit
      { items := window.map ModelResponse.fromEntry
        page := ⟨entries.length, paging.limit, paging.offset⟩ }
  | none =>
      let (items, total) := registry.list
        { capability := request.capability
          modality := request.modality
          enabled := request.enabled
          limit := paging.limit
          offset := paging.offset }
      { items := items.map ModelResponse.fromEntry
        page := ⟨total, paging.limit, paging.offset⟩ }

/-! ## Going through the pages -/

/-- The page at an offset. -/
def pageAt {α : Type} (answer : Paging → ListResponse α) (limit : {n : Nat // 1 ≤ n ∧ n ≤ 200})
    (offset : Nat) : ListResponse α :=
  answer ⟨limit, offset, limit.2⟩

/-- **Paging is complete**: as many pages as there is need for, one behind the other, are all the
    items in order, and every page says how many these are. -/
structure PagingComplete {α : Type} (answer : Paging → ListResponse α)
    (limit : {n : Nat // 1 ≤ n ∧ n ≤ 200}) (all : List α) : Prop where
  items : ∀ count, all.length ≤ count * limit →
    (List.range count).flatMap (fun k => (pageAt answer limit (k * limit)).items) = all
  total : ∀ k, (pageAt answer limit (k * limit)).page.total = all.length

/-- Pages of one list, one behind the other, are what the list starts with. -/
lemma flatMap_pages {α : Type} (xs : List α) (limit count : Nat) :
    (List.range count).flatMap (fun k => (xs.drop (k * limit)).take limit)
      = xs.take (count * limit) := by
  induction count with
  | zero => rw [Nat.zero_mul, List.take_zero, List.range_zero, List.flatMap_nil]
  | succ count ih =>
      rw [List.range_succ, List.flatMap_append, ih, List.flatMap_singleton, Nat.succ_mul,
        List.take_add]

variable (registry : ModelRegistry) (request : ModelListRequest)
  (limit : {n : Nat // 1 ≤ n ∧ n ≤ 200})

/-- Without a workload the pages are complete. -/
theorem listed_paging_complete (hworkload : request.workloadType = none) :
    PagingComplete (listModels registry request) limit
      ((Ranking.sortedBy ModelRegistryEntry.modelName
        (registry.models.rows.filter (ModelQuery.selects
          { capability := request.capability
            modality := request.modality
            enabled := request.enabled }))).map ModelResponse.fromEntry) where
  items count hcount := by
    simp only [pageAt, listModels, hworkload, ModelRegistry.list]
    rw [← List.take_of_length_le hcount, ← flatMap_pages]
    simp only [List.map_take, List.map_drop]
    rfl
  total k := by
    simp only [pageAt, listModels, hworkload, ModelRegistry.list, List.length_map]
    rw [(Ranking.perm_sortedBy _ _).length_eq]
    rfl

/-- **With a workload they are complete exactly when one page is enough.** -/
theorem paging_complete_iff (workloadType : String) :
    PagingComplete (listModels registry { request with workloadType := some workloadType }) limit
        ((registry.compatibleByName workloadType request.modality).map ModelResponse.fromEntry)
      ↔ (registry.compatible workloadType request.modality).length ≤ limit := by
  have hlength := registry.length_compatibleByName workloadType request.modality
  have htotal (offset : Nat) : (pageAt (listModels registry
      { request with workloadType := some workloadType }) limit offset).page.total
        = min limit.1 (registry.compatible workloadType request.modality).length := by
    simp only [pageAt, listModels, ModelRegistry.findForWorkload_eq_compatible, List.length_take,
      hlength]
  constructor
  · intro hcomplete
    have hfirst := hcomplete.total 0
    rw [htotal, List.length_map, hlength] at hfirst
    exact min_eq_right_iff.mp hfirst
  · intro hfits
    have hpage : (registry.compatibleByName workloadType request.modality).length ≤ limit := by
      rw [hlength]
      exact hfits
    refine ⟨fun count hcount => ?_, fun k => ?_⟩
    · simp only [pageAt, listModels, ModelRegistry.findForWorkload_eq_compatible,
        List.take_of_length_le hpage]
      rw [← List.take_of_length_le hcount, ← flatMap_pages]
      simp only [List.map_take, List.map_drop]
    · rw [htotal, List.length_map, hlength, Nat.min_eq_right hfits]

/-- **The second page is empty.**  Of two compatible models, pages of one answer the first only,
    and say that it is the only one. -/
theorem second_page_empty :
    (twoModels.compatible "supply_chain" none).length = 2
      ∧ (pageAt (listModels twoModels { workloadType := some "supply_chain" }) ⟨1, by decide⟩
          0).items.map ModelResponse.modelName = ["alpha"]
      ∧ (pageAt (listModels twoModels { workloadType := some "supply_chain" }) ⟨1, by decide⟩
          1).items = []
      ∧ (pageAt (listModels twoModels { workloadType := some "supply_chain" }) ⟨1, by decide⟩
          0).page.total = 1
      ∧ ¬ PagingComplete (listModels twoModels { workloadType := some "supply_chain" })
          ⟨1, by decide⟩
          ((twoModels.compatibleByName "supply_chain" none).map ModelResponse.fromEntry) := by
  have htotal : (pageAt (listModels twoModels { workloadType := some "supply_chain" })
      ⟨1, by decide⟩ 0).page.total = 1 := by
    decide +kernel
  have hboth : ((twoModels.compatibleByName "supply_chain" none).map
      ModelResponse.fromEntry).length = 2 := by
    decide +kernel
  refine ⟨by decide +kernel, by decide +kernel, by decide +kernel, htotal, fun hcomplete => ?_⟩
  have hfirst := hcomplete.total 0
  rw [Nat.zero_mul, htotal, hboth] at hfirst
  exact absurd hfirst (by decide)

end CostPlatform
