import CostPlatform.Optimization.Simulation

/-!
# The risk of a mix

A mix is as risky as the riskiest of its models, and a model whose risk is not known counts as
MEDIUM.  The loop over the mix counts a registered model so (`le_mixRisk`), but passes over a model
that is not registered at all: `riskCounted_iff` says when this lowers the risk reported for the
mix.
-/

namespace CostPlatform

namespace Simulation

variable {mix : List ModelMixEntry} {registry : Registry}

/-- The risk that is declared for the model of an entry, if any is. -/
def declaredRisk (registry : Registry) (entry : ModelMixEntry) : Option RiskLevel :=
  (registry entry.modelId).bind CandidateModel.declaredRisk

/-- **The worst case, unknowns counted**: the reported risk is at least every declared one, and at
    least MEDIUM if one is not declared. -/
structure RiskCounted (mix : List ModelMixEntry) (registry : Registry) (reported : RiskLevel) :
    Prop where
  declared : ∀ entry ∈ mix, ∀ level ∈ declaredRisk registry entry,
    riskIndex level ≤ riskIndex reported
  unknown : (∃ entry ∈ mix, declaredRisk registry entry = none) →
    riskIndex .Medium ≤ riskIndex reported

/-! ## The loop -/

/-- One step raises the risk to that of its model, if the model is registered. -/
lemma riskStep_spec (highest : RiskLevel) (entry : ModelMixEntry) :
    riskIndex highest ≤ riskIndex (riskStep registry highest entry)
      ∧ (∀ model ∈ registry entry.modelId,
          riskIndex model.riskOf ≤ riskIndex (riskStep registry highest entry))
      ∧ (riskStep registry highest entry = highest
        ∨ ∃ model ∈ registry entry.modelId, riskStep registry highest entry = model.riskOf) := by
  rw [riskStep]
  cases registry entry.modelId with
  | none => exact ⟨le_refl _, by simp, Or.inl rfl⟩
  | some model =>
      dsimp only
      split_ifs with hraise
      · exact ⟨hraise.le, by simp, Or.inr ⟨model, rfl, rfl⟩⟩
      · exact ⟨le_refl _, by simpa using hraise, Or.inl rfl⟩

/-- The loop raises it to that of every registered model, and to nothing else. -/
lemma foldl_riskStep (highest : RiskLevel) :
    riskIndex highest ≤ riskIndex (mix.foldl (riskStep registry) highest)
      ∧ (∀ entry ∈ mix, ∀ model ∈ registry entry.modelId,
          riskIndex model.riskOf ≤ riskIndex (mix.foldl (riskStep registry) highest))
      ∧ (mix.foldl (riskStep registry) highest = highest
        ∨ ∃ entry ∈ mix, ∃ model ∈ registry entry.modelId,
            mix.foldl (riskStep registry) highest = model.riskOf) := by
  induction mix generalizing highest with
  | nil => exact ⟨le_refl _, by simp, Or.inl rfl⟩
  | cons entry mix ih =>
      obtain ⟨hstep, hraised, hsource⟩ := @riskStep_spec registry highest entry
      obtain ⟨hrest, hlater, hlast⟩ := ih (riskStep registry highest entry)
      rw [List.foldl_cons]
      refine ⟨hstep.trans hrest, ?_, ?_⟩
      · rw [List.forall_mem_cons]
        exact ⟨fun model hmodel => (hraised model hmodel).trans hrest, hlater⟩
      · rcases hlast with hsame | ⟨other, hother, model, hmodel, heq⟩
        · rw [hsame]
          rcases hsource with hkept | ⟨model, hmodel, heq⟩
          · exact Or.inl hkept
          · exact Or.inr ⟨entry, List.mem_cons_self .., model, hmodel, heq⟩
        · exact Or.inr ⟨other, List.mem_cons_of_mem _ hother, model, hmodel, heq⟩

/-- **Every registered model is counted.** -/
theorem le_mixRisk {entry : ModelMixEntry} (hentry : entry ∈ mix) {model : CandidateModel}
    (hmodel : registry entry.modelId = some model) :
    riskIndex model.riskOf ≤ riskIndex (mixRisk mix registry) :=
  (foldl_riskStep .Low).2.1 entry hentry model hmodel

/-- A mix is risky because of one of its registered models. -/
theorem medium_le_mixRisk_iff :
    riskIndex .Medium ≤ riskIndex (mixRisk mix registry)
      ↔ ∃ entry ∈ mix, ∃ model ∈ registry entry.modelId,
          riskIndex .Medium ≤ riskIndex model.riskOf := by
  constructor
  · intro h
    rcases (@foldl_riskStep mix registry .Low).2.2 with hlow | ⟨entry, hentry, model, hmodel, heq⟩
    · rw [mixRisk, hlow] at h
      exact absurd h (by decide)
    · exact ⟨entry, hentry, model, hmodel, by rw [← heq]; exact h⟩
  · rintro ⟨entry, hentry, model, hmodel, h⟩
    exact h.trans (le_mixRisk hentry hmodel)

/-! ## Models that are not registered -/

/-- Where a model of the mix is not registered, a registered one is at least MEDIUM. -/
def AbsenceCovered (mix : List ModelMixEntry) (registry : Registry) : Prop :=
  (∃ entry ∈ mix, registry entry.modelId = none) →
    ∃ entry ∈ mix, ∃ model ∈ registry entry.modelId, riskIndex .Medium ≤ riskIndex model.riskOf

/-- **Unknowns are counted exactly when nothing hides behind the absence of a model.** -/
theorem riskCounted_iff (input : SimulationInput) (baseline : Baseline) (registry : Registry)
    (baselineQuality : Option ℚ) :
    RiskCounted input.modelMix registry
        (simulate input baseline registry baselineQuality).riskLevel
      ↔ AbsenceCovered input.modelMix registry := by
  have hreported : (simulate input baseline registry baselineQuality).riskLevel
      = mixRisk input.modelMix registry := rfl
  rw [hreported, AbsenceCovered, ← medium_le_mixRisk_iff]
  constructor
  · rintro hcounted ⟨entry, hentry, habsent⟩
    exact hcounted.unknown ⟨entry, hentry, by rw [declaredRisk, habsent]; rfl⟩
  · intro hcovered
    refine ⟨fun entry hentry level hlevel => ?_, fun ⟨entry, hentry, hunknown⟩ => ?_⟩
    · obtain ⟨model, hmodel, hdeclared⟩ := Option.bind_eq_some_iff.mp hlevel
      have hcounts : model.riskOf = level := by rw [CandidateModel.riskOf, hdeclared]; rfl
      rw [← hcounts]
      exact le_mixRisk hentry hmodel
    · cases hmodel : registry entry.modelId with
      | none => exact hcovered ⟨entry, hentry, hmodel⟩
      | some model =>
          -- a registered model whose risk is not known counts as MEDIUM
          rw [declaredRisk, hmodel, Option.bind_some] at hunknown
          have hcounts : model.riskOf = .Medium := by rw [CandidateModel.riskOf, hunknown]; rfl
          rw [← hcounts]
          exact le_mixRisk hentry hmodel

/-- **All traffic to a model nobody has registered is reported as LOW risk.** -/
theorem ghost_is_low_risk :
    (simulate { requestVolume := 1000, modelMix := [⟨"ghost", 100⟩] } ⟨100, 0, 1000, "USD"⟩
        (fun _ => none) none).riskLevel = .Low
      ∧ ¬ RiskCounted [⟨"ghost", 100⟩] (fun _ => none)
        (simulate { requestVolume := 1000, modelMix := [⟨"ghost", 100⟩] } ⟨100, 0, 1000, "USD"⟩
          (fun _ => none) none).riskLevel := by
  refine ⟨rfl, fun hcounted => ?_⟩
  have hmedium := hcounted.unknown ⟨_, List.mem_singleton.mpr rfl, rfl⟩
  exact absurd hmedium (by decide)

end Simulation

end CostPlatform
