import CostPlatform.Library.Fallible
import CostPlatform.Library.Runs
import CostPlatform.Orchestrator.Registry

/-!
# Seeding the model registry

At every start the application registers the models of a seed file that are not registered yet, in
one transaction: one record that cannot be inserted leaves the registry as it was, and the start
goes on without it.  Between the starts an operator fills in what the seed does not know.

No start changes a registered model (`registered_model_kept`), and a file that went in once never
changes anything again (`seed_settles`).  A file that renames a model and keeps its id does not go
in at all (`renamed_model_blocks_seed`).
-/

namespace CostPlatform

/-! ## Seed records -/

inductive SeedError where
  | KeyError
  | IntegrityError
  deriving DecidableEq, Repr

/-- One record of the seed file.  A missing key and a null differ for the capability only: an insert
    leaves out a null where the column has a default. -/
structure SeedRecord where
  id : Option String := none
  modelName : Option String := none
  provider : Option String := none
  capability : Option (Option String) := none
  modality : Option String := none
  inputCost : Option ℚ := none
  outputCost : Option ℚ := none
  costUnit : Option String := none
  maxContextTokens : Option Int := none
  supportsVision : Option Bool := none
  supportsTools : Option Bool := none
  supportsStructuredOutput : Option Bool := none
  supportsEmbeddings : Option Bool := none
  qualityScore : Option ℚ := none
  latencyScore : Option ℚ := none
  riskLevel : Option String := none
  enabled : Option Bool := none
  deriving DecidableEq, Repr

/-- The seed file, as far as it can be read. -/
inductive SeedFile where
  | Missing
  | Unreadable
  | Records (records : List SeedRecord)

def Capability.ofValue : String → Option Capability
  | "text" => some .Text
  | "vision" => some .Vision
  | "multimodal" => some .Multimodal
  | "embedding" => some .Embedding
  | "speech" => some .Speech
  | "coding" => some .Coding
  | "reasoning" => some .Reasoning
  | _ => none

def Modality.ofValue : String → Option Modality
  | "text" => some .Text
  | "image" => some .Image
  | "multimodal" => some .Multimodal
  | "structured" => some .Structured
  | _ => none

/-- A nullable column with a `CHECK` on its values. -/
def checkedColumn {α : Type} (ofValue : String → Option α) (column : Option String) :
    Except SeedError (Option α) :=
  match column with
  | none => .ok none
  | some value => (Fallible.demand (ofValue value) .IntegrityError).map some

namespace SeedRecord

variable (record : SeedRecord)

/-- The figures meet the `CHECK` constraints of the table. -/
def FiguresValid : Prop :=
  (∀ cost ∈ record.inputCost, 0 ≤ cost) ∧ (∀ cost ∈ record.outputCost, 0 ≤ cost)
    ∧ ∀ tokens ∈ record.maxContextTokens, 0 < tokens

instance : Decidable record.FiguresValid :=
  decidable_of_iff (record.inputCost.all (0 ≤ ·) = true ∧ record.outputCost.all (0 ≤ ·) = true
    ∧ record.maxContextTokens.all (0 < ·) = true) (by simp [FiguresValid, Option.all_eq_true])

/-- `_entry_from_seed`, with the checks of the insert.  An id is drawn where the seed has none. -/
def entry (name newId : String) : Except SeedError ModelRegistryEntry := do
  let capability ← Fallible.demand record.capability .KeyError
  let capability ← Fallible.demand (capability.bind Capability.ofValue) .IntegrityError
  let modality ← checkedColumn Modality.ofValue record.modality
  let riskLevel ← checkedColumn RiskLevel.ofValue record.riskLevel
  if h : record.FiguresValid then
    return {
      id := (PyString.truthy record.id).getD newId
      modelName := name
      provider := record.provider
      capability := capability
      modality := modality
      inputCost := record.inputCost
      outputCost := record.outputCost
      costUnit := record.costUnit
      maxContextTokens := record.maxContextTokens
      supportsVision := record.supportsVision
      supportsTools := record.supportsTools
      supportsStructuredOutput := record.supportsStructuredOutput
      supportsEmbeddings := record.supportsEmbeddings
      qualityScore := record.qualityScore
      latencyScore := record.latencyScore
      riskLevel := riskLevel
      enabled := record.enabled.getD true
      inputCostNonNegative := h.1
      outputCostNonNegative := h.2.1
      maxContextTokensPositive := h.2.2 }
  else throw .IntegrityError

/-- The name of the model, unless the record has none. -/
def name? : Option String := PyString.truthy record.modelName

end SeedRecord

/-! ## Registration -/

namespace ModelRegistry

def names (registry : ModelRegistry) : List String :=
  registry.models.rows.map ModelRegistryEntry.modelName

/-- `exists`. -/
def registered (registry : ModelRegistry) (name : String) : Bool := name ∈ registry.names

/-- Insert a row.  Neither its id nor its name may be taken. -/
def add (registry : ModelRegistry) (entry : ModelRegistryEntry) : Except SeedError ModelRegistry :=
  if h : entry.id ∉ registry.models.rows.map ModelRegistryEntry.id
      ∧ entry.modelName ∉ registry.names then
    .ok {
      models :=
        { rows := registry.models.rows ++ [entry]
          nodup := by
            rw [List.map_append, List.map_singleton]
            exact registry.models.nodup.append (List.nodup_singleton _) (by simpa using h.1) }
      namesUnique := by
        rw [List.map_append, List.map_singleton]
        exact registry.namesUnique.append (List.nodup_singleton _)
          (List.disjoint_singleton.mpr h.2) }
  else .error .IntegrityError

/-- One record of the seed, with the number of models inserted so far: skipped without a name, and
    where its name is registered.  Records that are inserted differ in their names, so the ids that
    are drawn go by the record. -/
def registerRecord (draw : SeedRecord → String) (seeded : ModelRegistry × Nat)
    (record : SeedRecord) : Except SeedError (ModelRegistry × Nat) :=
  match record.name? with
  | none => .ok seeded
  | some name =>
      if seeded.1.registered name then .ok seeded
      else do
        let entry ← record.entry name (draw record)
        let registry ← seeded.1.add entry
        return (registry, seeded.2 + 1)

/-- `register_from_seed` over the records of the file. -/
def registerFromSeed (registry : ModelRegistry) (records : List SeedRecord)
    (draw : SeedRecord → String) : Except SeedError (ModelRegistry × Nat) :=
  records.foldlM (registerRecord draw) (registry, 0)

/-- `_register_seed_models`: what fails is rolled back and does not prevent the start. -/
def start (registry : ModelRegistry) (file : SeedFile) (draw : SeedRecord → String) :
    ModelRegistry :=
  match file with
  | .Missing => registry
  | .Unreadable => registry
  | .Records records =>
      match registry.registerFromSeed records draw with
      | .ok (registry', _) => registry'
      | .error _ => registry

end ModelRegistry

/-! ## Starts and edits -/

/-- What an operator fills in.  The id and the name of a model are not touched. -/
structure ModelEdit where
  apply : ModelRegistryEntry → ModelRegistryEntry
  keepsId : ∀ entry, (apply entry).id = entry.id
  keepsName : ∀ entry, (apply entry).modelName = entry.modelName

inductive RegistryAction where
  | Start (file : SeedFile) (draw : SeedRecord → String)
  | Edit (modelId : String) (edit : ModelEdit)

namespace ModelRegistry

def edit (registry : ModelRegistry) (modelId : String) (edit : ModelEdit) : ModelRegistry where
  models := registry.models.modify modelId edit.apply edit.keepsId
  namesUnique := by
    have hnames : (registry.models.modify modelId edit.apply edit.keepsId).rows.map
        ModelRegistryEntry.modelName = registry.names := by
      rw [Table.modify, List.map_map]
      refine List.map_congr_left fun entry _ => ?_
      simp only [Function.comp_apply]
      split_ifs
      · exact edit.keepsName entry
      · rfl
    rw [hnames]
    exact registry.namesUnique

def step (registry : ModelRegistry) : RegistryAction → ModelRegistry
  | .Start file draw => registry.start file draw
  | .Edit modelId edit => registry.edit modelId edit

/-- The registry after starts and edits. -/
abbrev after (registry : ModelRegistry) (actions : List RegistryAction) : ModelRegistry :=
  Runs.run step registry actions

/-! ## What a seed adds -/

variable {registry registry' : ModelRegistry} {draw : SeedRecord → String}
  {records : List SeedRecord} {record : SeedRecord} {seeded seeded' : ModelRegistry × Nat}

lemma rows_of_add {entry : ModelRegistryEntry} (h : registry.add entry = .ok registry') :
    registry'.models.rows = registry.models.rows ++ [entry]
      ∧ entry.id ∉ registry.models.rows.map ModelRegistryEntry.id := by
  rw [add] at h
  split_ifs at h with hfresh
  cases h
  exact ⟨rfl, hfresh.1⟩

lemma modelName_of_entry {name newId : String} {entry : ModelRegistryEntry}
    (h : record.entry name newId = .ok entry) :
    entry.modelName = name ∧ entry.id = (PyString.truthy record.id).getD newId := by
  simp only [SeedRecord.entry, Fallible.bind_eq_ok] at h
  obtain ⟨_, -, _, -, _, -, _, -, h⟩ := h
  split_ifs at h
  cases h
  exact ⟨rfl, rfl⟩

/-- **What one record does**: nothing, where it has no name or a registered one, or else it adds a
    model of its name. -/
lemma registerRecord_eq_ok (h : registerRecord draw seeded record = .ok seeded') :
    ((∀ name, record.name? = some name → name ∈ seeded.1.names) ∧ seeded' = seeded)
      ∨ ∃ name entry, record.name? = some name ∧ name ∉ seeded.1.names
        ∧ entry.modelName = name ∧ entry.id = (PyString.truthy record.id).getD (draw record)
        ∧ entry.id ∉ seeded.1.models.rows.map ModelRegistryEntry.id
        ∧ seeded'.1.models.rows = seeded.1.models.rows ++ [entry]
        ∧ seeded'.2 = seeded.2 + 1 := by
  rw [registerRecord] at h
  cases hname : record.name? with
  | none =>
      rw [hname] at h
      exact Or.inl ⟨nofun, (Except.ok.inj h).symm⟩
  | some name =>
      rw [hname] at h
      dsimp only at h
      split_ifs at h with hregistered
      · rw [registered, decide_eq_true_eq] at hregistered
        exact Or.inl ⟨fun _ heq => Option.some.inj heq ▸ hregistered, (Except.ok.inj h).symm⟩
      · rw [registered, decide_eq_true_eq] at hregistered
        obtain ⟨entry, hentry, h⟩ := Fallible.bind_eq_ok.mp h
        obtain ⟨registry', hadd, h⟩ := Fallible.bind_eq_ok.mp h
        cases Except.ok.inj h
        obtain ⟨hrows, hfresh⟩ := rows_of_add hadd
        obtain ⟨hentryName, hid⟩ := modelName_of_entry hentry
        exact Or.inr ⟨name, entry, rfl, hregistered, hentryName, hid, hfresh, hrows, rfl⟩

lemma names_append {added : List ModelRegistryEntry}
    (h : registry'.models.rows = registry.models.rows ++ added) :
    registry'.names = registry.names ++ added.map ModelRegistryEntry.modelName := by
  rw [names, h, List.map_append]
  rfl

/-- **What a seed adds**: models behind the rows that were there, until every name of the seed is
    registered. -/
theorem foldlM_registerRecord_eq_ok
    (h : records.foldlM (registerRecord draw) seeded = .ok seeded') :
    ∃ added, seeded'.1.models.rows = seeded.1.models.rows ++ added
      ∧ seeded'.2 = seeded.2 + added.length
      ∧ ∀ record ∈ records, ∀ name, record.name? = some name → name ∈ seeded'.1.names := by
  induction records generalizing seeded with
  | nil =>
      cases Except.ok.inj h
      exact ⟨[], (List.append_nil _).symm, rfl, fun _ h => absurd h List.not_mem_nil⟩
  | cons record records ih =>
      rw [List.foldlM_cons] at h
      obtain ⟨next, hnext, hrest⟩ := Fallible.bind_eq_ok.mp h
      obtain ⟨added, hrows, hcount, hnames⟩ := ih hrest
      rcases registerRecord_eq_ok hnext with
        ⟨hregistered, rfl⟩ | ⟨name, entry, hname, -, hentry, -, -, hrow, hone⟩
      · refine ⟨added, hrows, hcount, List.forall_mem_cons.mpr ⟨fun name hname => ?_, hnames⟩⟩
        rw [names_append hrows]
        exact List.mem_append_left _ (hregistered name hname)
      · refine ⟨entry :: added, by rw [hrows, hrow, List.append_assoc]; rfl, ?_,
          List.forall_mem_cons.mpr ⟨fun other hother => ?_, hnames⟩⟩
        · rw [hcount, hone, List.length_cons]
          omega
        · cases hname.symm.trans hother
          rw [names_append hrows, names_append hrow, hentry.symm]
          simp

/-- A seed of which every name is registered adds nothing. -/
lemma foldlM_registerRecord_of_registered
    (h : ∀ record ∈ records, ∀ name, record.name? = some name → name ∈ seeded.1.names) :
    records.foldlM (registerRecord draw) seeded = .ok seeded := by
  induction records with
  | nil => rfl
  | cons record records ih =>
      obtain ⟨hrecord, hrecords⟩ := List.forall_mem_cons.mp h
      have hskip : registerRecord draw seeded record = .ok seeded := by
        rw [registerRecord]
        cases hname : record.name? with
        | none => rfl
        | some name => exact if_pos (decide_eq_true (hrecord name hname))
      rw [List.foldlM_cons, hskip, Fallible.ok_bind]
      exact ih hrecords

/-- A start adds rows behind those that were there. -/
lemma exists_rows_start (registry : ModelRegistry) (file : SeedFile) (draw : SeedRecord → String) :
    ∃ added, (registry.start file draw).models.rows = registry.models.rows ++ added := by
  cases file with
  | Missing => exact ⟨[], (List.append_nil _).symm⟩
  | Unreadable => exact ⟨[], (List.append_nil _).symm⟩
  | Records records =>
      rw [start]
      cases hseed : registry.registerFromSeed records draw with
      | error e => exact ⟨[], (List.append_nil _).symm⟩
      | ok seeded =>
          obtain ⟨added, hrows, -⟩ := foldlM_registerRecord_eq_ok hseed
          exact ⟨added, hrows⟩

/-- A registered name stays registered. -/
lemma mem_names_step {name : String} (h : name ∈ registry.names) (action : RegistryAction) :
    name ∈ (registry.step action).names := by
  cases action with
  | Start file draw =>
      obtain ⟨added, hrows⟩ := exists_rows_start registry file draw
      rw [step, names_append hrows]
      exact List.mem_append_left _ h
  | Edit modelId edit =>
      obtain ⟨entry, hentry, rfl⟩ := List.mem_map.mp h
      by_cases hid : entry.id = modelId
      · have hmem : edit.apply entry ∈ (registry.edit modelId edit).models.rows :=
          (@Table.mem_modify _ _ _ _ _ _ _ edit.keepsId _).mpr (Or.inl ⟨entry, hentry, hid, rfl⟩)
        exact List.mem_map.mpr ⟨_, hmem, edit.keepsName entry⟩
      · have hmem : entry ∈ (registry.edit modelId edit).models.rows :=
          (@Table.mem_modify _ _ _ _ _ _ _ edit.keepsId _).mpr (Or.inr ⟨hentry, hid⟩)
        exact List.mem_map.mpr ⟨_, hmem, rfl⟩

/-! ## What stays -/

/-- What the operator makes of a model over some actions. -/
def edited (modelId : String) (entry : ModelRegistryEntry) : List RegistryAction →
    ModelRegistryEntry
  | [] => entry
  | .Edit id edit :: actions =>
      edited modelId (if modelId = id then edit.apply entry else entry) actions
  | .Start _ _ :: actions => edited modelId entry actions

/-- **A registered model is what the operator made of it.**  Whatever files the application is
    started with, and however often, only the operator's edits of a model change it. -/
theorem registered_model_kept {modelId : String} {entry : ModelRegistryEntry}
    (h : registry.models.get modelId = some entry) (actions : List RegistryAction) :
    (registry.after actions).models.get modelId = some (edited modelId entry actions) := by
  induction actions generalizing registry entry with
  | nil => exact h
  | cons action actions ih =>
      rw [after, Runs.run_cons]
      cases action with
      | Start file draw =>
          refine ih ?_
          obtain ⟨added, hrows⟩ := exists_rows_start registry file draw
          obtain ⟨hmem, hid⟩ := Table.get_eq_some.mp h
          exact Table.get_eq_some.mpr ⟨by rw [step, hrows]; exact List.mem_append_left _ hmem, hid⟩
      | Edit id edit =>
          refine ih ?_
          rw [step, ModelRegistry.edit, Table.get_modify]
          split_ifs with hid
          · rw [← hid, h]
            rfl
          · exact h

/-- **A seed settles.**  Once the records of a file are in, no later start with them changes
    anything, whatever happened in between. -/
theorem seed_settles {inserted : Nat}
    (h : registry.registerFromSeed records draw = .ok (registry', inserted))
    (actions : List RegistryAction) (redraw : SeedRecord → String) :
    (registry'.after actions).registerFromSeed records redraw
      = .ok (registry'.after actions, 0) := by
  obtain ⟨-, -, -, hnames⟩ := foldlM_registerRecord_eq_ok h
  refine foldlM_registerRecord_of_registered fun record hrecord name hname => ?_
  exact Runs.run_invariant (I := fun registry : ModelRegistry => name ∈ registry.names)
    (fun _ action hname => mem_names_step hname action) actions (hnames record hrecord name hname)

/-- A record of a new name whose id is taken stops the seed. -/
lemma foldlM_registerRecord_fails {name id : String} (hrecord : record ∈ records)
    (hname : record.name? = some name) (hid : PyString.truthy record.id = some id)
    (hnew : name ∉ seeded.1.names)
    (honly : ∀ other ∈ records, other.name? = some name → other = record)
    (htaken : id ∈ seeded.1.models.rows.map ModelRegistryEntry.id) :
    ∃ e, records.foldlM (registerRecord draw) seeded = .error e := by
  cases hseed : records.foldlM (registerRecord draw) seeded with
  | error e => exact ⟨e, rfl⟩
  | ok seeded' =>
      exfalso
      induction records generalizing seeded with
      | nil => cases hrecord
      | cons first rest ih =>
          rw [List.foldlM_cons] at hseed
          obtain ⟨next, hnext, hrest⟩ := Fallible.bind_eq_ok.mp hseed
          obtain ⟨honlyFirst, honlyRest⟩ := List.forall_mem_cons.mp honly
          rcases registerRecord_eq_ok hnext with
            ⟨hregistered, rfl⟩ | ⟨other, entry, hother, -, hentry, hentryId, hfresh, hrow, -⟩
          · rcases List.mem_cons.mp hrecord with rfl | hlater
            · exact hnew (hregistered name hname)
            · exact ih hlater hnew honlyRest htaken hrest
          · by_cases hsame : other = name
            · obtain rfl := honlyFirst (hsame ▸ hother)
              rw [hentryId, hid] at hfresh
              exact hfresh htaken
            · rcases List.mem_cons.mp hrecord with rfl | hlater
              · exact hsame (Option.some.inj (hother.symm.trans hname))
              · refine ih hlater ?_ honlyRest ?_ hrest
                · rw [names_append hrow]
                  simp [hnew, hentry, Ne.symm hsame]
                · rw [hrow, List.map_append]
                  exact List.mem_append_left _ htaken

/-- **A renamed model blocks its file.**  As long as a record gives a new name to an id that is
    registered, no start with the file registers anything. -/
theorem renamed_model_blocks_seed {name id : String} (hrecord : record ∈ records)
    (hname : record.name? = some name) (hid : PyString.truthy record.id = some id)
    (hnew : name ∉ registry.names)
    (honly : ∀ other ∈ records, other.name? = some name → other = record)
    (htaken : id ∈ registry.models.rows.map ModelRegistryEntry.id)
    (draws : List (SeedRecord → String)) :
    registry.after (draws.map (RegistryAction.Start (.Records records))) = registry := by
  have hstart : ∀ draw, registry.start (.Records records) draw = registry := by
    intro draw
    obtain ⟨e, hfails⟩ :=
      @foldlM_registerRecord_fails draw records record (registry, 0) name id hrecord hname hid hnew
        honly htaken
    rw [start, registerFromSeed, hfails]
  induction draws with
  | nil => rfl
  | cons draw draws ih => rw [List.map_cons, after, Runs.run_cons, step, hstart draw]; exact ih

end ModelRegistry

/-! ## A seed of one model -/

def emptyRegistry : ModelRegistry := ⟨⟨[], List.nodup_nil⟩, List.nodup_nil⟩

/-- A vision model of which nothing else is known. -/
def visionRecord (modelName : String) : SeedRecord where
  id := some "model-vision"
  modelName := some modelName
  capability := some (some "vision")
  supportsVision := some true

/-- The registry after the first start. -/
def seededRegistry : ModelRegistry :=
  emptyRegistry.start (.Records [visionRecord "llama"]) fun _ => "drawn"

/-- The operator fills in a price. -/
def priceEdit : ModelEdit where
  apply entry := { entry with inputCost := some 5, inputCostNonNegative := by simp }
  keepsId _ := rfl
  keepsName _ := rfl

/-- The price survives a restart. -/
theorem price_survives_restart :
    ((seededRegistry.after [.Edit "model-vision" priceEdit,
        .Start (.Records [visionRecord "llama"]) fun _ => "drawn"]).models.get
      "model-vision").bind ModelRegistryEntry.inputCost = some 5 := by
  have hget : (seededRegistry.models.get "model-vision").isSome = true := by decide +kernel
  obtain ⟨entry, hentry⟩ := Option.isSome_iff_exists.mp hget
  rw [ModelRegistry.registered_model_kept hentry]
  rfl

/-- A second start adds nothing. -/
theorem second_start_settled :
    seededRegistry.registerFromSeed [visionRecord "llama"] (fun _ => "other")
      = .ok (seededRegistry, 0) := by
  have hseed : (emptyRegistry.registerFromSeed [visionRecord "llama"]
      fun _ => "drawn").toOption.isSome = true := by decide +kernel
  obtain ⟨⟨registry, inserted⟩, hok⟩ := Fallible.toOption_isSome_iff.mp hseed
  have hsame : seededRegistry = registry := by
    rw [seededRegistry, ModelRegistry.start, hok]
  rw [hsame]
  exact ModelRegistry.seed_settles hok [] _

/-- Under another name the model's file registers nothing any more. -/
theorem renamed_llama_blocks :
    seededRegistry.after [.Start (.Records [visionRecord "llama-4"]) fun _ => "drawn"]
      = seededRegistry :=
  ModelRegistry.renamed_model_blocks_seed List.mem_cons_self rfl rfl (by decide +kernel)
    (fun _ hother _ => List.mem_singleton.mp hother) (by decide +kernel) [fun _ => "drawn"]

end CostPlatform
