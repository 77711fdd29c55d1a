import CostPlatform.Cost.Dominance
import CostPlatform.Optimization.Simulation
import Mathlib.Logic.Function.Basic

/-!
# Pricing units in a mix

The registry quotes a model in a unit, and the cost engine converts.  The blended rate does not: it
adds the rates as they are quoted, and the unit of the first model is its label.  So the same price
in another unit (`Requoted`) is another price, and `unitInvariant_iff` says when this does not show.
-/

namespace CostPlatform

namespace Simulation

open CostEngine (CostUnit ModelPricing parseCostUnit ratesPerToken tokensPerUnit tokensPerUnit_pos)

/-! ## Quoting a price -/

/-- The pricing of a candidate, as the cost engine reads it. -/
def CandidateModel.pricing (model : CandidateModel) : ModelPricing where
  inputCost := model.inputCost
  outputCost := model.outputCost
  costUnit := model.costUnit
  currency := ""

/-- **The same model at the same price**, both in a recognised unit, though maybe not in one. -/
structure Requoted (model other : CandidateModel) : Prop where
  usable : model.pricing.isUsable = true
  price : ratesPerToken other.pricing = ratesPerToken model.pricing
  quality : other.qualityScore = model.qualityScore
  risk : other.riskLevel = model.riskLevel

/-- The price of a model in another unit. -/
def CandidateModel.quotedIn (model : CandidateModel) (unit : CostUnit) : CandidateModel :=
  let rates := (ratesPerToken model.pricing).getD (0, 0)
  { model with
    inputCost := some (rates.1 * tokensPerUnit unit)
    outputCost := some (rates.2 * tokensPerUnit unit)
    costUnit := some unit.value }

lemma parseCostUnit_value (unit : CostUnit) : parseCostUnit (some unit.value) = some unit := by
  cases unit <;> decide +kernel

/-- A usable price is a rate per token, times the tokens of a unit. -/
lemma rate_of_ratesPerToken {model : CandidateModel} {rates : ℚ × ℚ}
    (h : ratesPerToken model.pricing = some rates) :
    model.hasKnownPricing = true
      ∧ ∃ unit, parseCostUnit model.costUnit = some unit
        ∧ model.rate = (rates.1 + rates.2) * tokensPerUnit unit := by
  obtain ⟨unit, hunit, hinput, houtput⟩ := CostEngine.ratesPerToken_eq_some_iff.mp h
  have hunit : parseCostUnit model.costUnit = some unit := hunit
  have hinput : model.inputCost = some (rates.1 * tokensPerUnit unit) := hinput
  have houtput : model.outputCost = some (rates.2 * tokensPerUnit unit) := houtput
  refine ⟨?_, unit, hunit, ?_⟩
  · obtain ⟨written, hwritten, -⟩ := Option.bind_eq_some_iff.mp hunit
    rw [CandidateModel.hasKnownPricing, hinput, houtput, hwritten]
    rfl
  · rw [CandidateModel.rate, hinput, houtput, Option.getD_some, Option.getD_some, add_mul]

lemma Requoted.exists_rates {model other : CandidateModel} (h : Requoted model other) :
    ∃ rates, ratesPerToken model.pricing = some rates
      ∧ ratesPerToken other.pricing = some rates := by
  obtain ⟨rates, hrates⟩ := Option.isSome_iff_exists.mp
    ((CostEngine.ratesPerToken_isSome _).trans h.usable)
  exact ⟨rates, hrates, h.price.trans hrates⟩

/-- What is quoted in another unit is the same price. -/
lemma requoted_quotedIn {model : CandidateModel} (husable : model.pricing.isUsable = true)
    (unit : CostUnit) : Requoted model (model.quotedIn unit) := by
  obtain ⟨rates, hrates⟩ := Option.isSome_iff_exists.mp
    ((CostEngine.ratesPerToken_isSome _).trans husable)
  refine ⟨husable, ?_, rfl, rfl⟩
  rw [hrates, CostEngine.ratesPerToken_eq_some_iff]
  refine ⟨unit, parseCostUnit_value unit, ?_⟩
  rw [CandidateModel.quotedIn, hrates]
  exact ⟨rfl, rfl⟩

/-! ## Another quote for one model -/

variable {mix : List ModelMixEntry} {registry : Registry} {input : SimulationInput}
  {baseline : Baseline} {baselineQuality : Option ℚ} {id : String} {model other : CandidateModel}

/-- The share of one model in a mix, which may list it more than once. -/
def shareOf (id : String) (mix : List ModelMixEntry) : ℚ :=
  ((mix.filter fun entry => entry.modelId = id).map ModelMixEntry.sharePercent).sum

/-- The registry with another entry for one model. -/
def Registry.replace (registry : Registry) (id : String) (model : CandidateModel) : Registry :=
  Function.update registry id (some model)

lemma replace_self : registry.replace id model id = some model := Function.update_self ..

lemma replace_of_ne {entry : ModelMixEntry} (h : entry.modelId ≠ id) :
    registry.replace id model entry.modelId = registry entry.modelId :=
  Function.update_of_ne h ..

/-- What the blended rate becomes with another rate for one model. -/
lemma weightedRate_replace (hmodel : registry id = some model) :
    weightedRate mix (registry.replace id other)
      = weightedRate mix registry + (other.rate - model.rate) * (shareOf id mix / 100) := by
  induction mix with
  | nil => simp [weightedRate, shareOf]
  | cons entry mix ih =>
      rw [weightedRate, List.map_cons, List.sum_cons, ← weightedRate, ih, weightedRate,
        weightedRate, List.map_cons, List.sum_cons]
      by_cases hentry : entry.modelId = id
      · have hrate : rateOf registry entry = model.rate := by
          rw [rateOf, hentry, hmodel, Option.map_some, Option.getD_some]
        have hother : rateOf (registry.replace id other) entry = other.rate := by
          rw [rateOf, hentry, replace_self, Option.map_some, Option.getD_some]
        have hshare : shareOf id (entry :: mix) = entry.sharePercent + shareOf id mix := by
          rw [shareOf, List.filter_cons_of_pos (by simpa using hentry), List.map_cons,
            List.sum_cons, shareOf]
        rw [hrate, hother, hshare]
        ring
      · have hrate : rateOf (registry.replace id other) entry = rateOf registry entry := by
          rw [rateOf, replace_of_ne hentry, rateOf]
        have hshare : shareOf id (entry :: mix) = shareOf id mix := by
          rw [shareOf, List.filter_cons_of_neg (by simpa using hentry), shareOf]
        rw [hrate, hshare]
        ring

/-- A price for a price leaves what is priced as it is. -/
lemma priced_replace (hmodel : registry id = some model) (hknown : model.hasKnownPricing = true)
    (hother : other.hasKnownPricing = true) (entry : ModelMixEntry) :
    Priced (registry.replace id other) entry = Priced registry entry := by
  by_cases hentry : entry.modelId = id
  · rw [Priced, Priced, hentry, replace_self, hmodel, Option.any_some, Option.any_some, hknown,
      hother]
  · rw [Priced, Priced, replace_of_ne hentry]

/-- Nothing is reported for a mix with a model that has no price, or without shares. -/
def Reported (mix : List ModelMixEntry) (registry : Registry) : Prop :=
  (∀ entry ∈ mix, Priced registry entry = true) ∧ 0 < totalShare mix

/-- **When another rate for one model does not show in the optimized cost**. -/
lemma optimizedCost_replace_iff (hmodel : registry id = some model)
    (hknown : model.hasKnownPricing = true) (hother : other.hasKnownPricing = true) :
    (simulate input baseline (registry.replace id other) baselineQuality).optimizedCost.amount
        = (simulate input baseline registry baselineQuality).optimizedCost.amount
      ↔ (Reported input.modelMix registry → input.requestVolume ≠ 0 →
          other.rate = model.rate ∨ shareOf id input.modelMix = 0) := by
  rw [optimizedCost_amount, optimizedCost_amount, (blendedRate_eq _ _).1, (blendedRate_eq _ _).1]
  simp only [priced_replace hmodel hknown hother]
  by_cases hreported : Reported input.modelMix registry
  · have hvolume : (input.requestVolume : ℚ) = 0 ↔ input.requestVolume = 0 := Int.cast_eq_zero
    have hshare : shareOf id input.modelMix / 100 = 0 ↔ shareOf id input.modelMix = 0 :=
      div_eq_zero_iff.trans (or_iff_left (by norm_num))
    rw [Reported] at hreported
    rw [if_pos hreported, if_pos hreported, Option.map_some, Option.map_some, Option.some.injEq,
      weightedRate_replace hmodel, add_mul, add_eq_left, mul_eq_zero, mul_eq_zero, hvolume,
      sub_eq_zero, hshare, or_comm, or_iff_not_imp_left]
    exact ⟨fun h _ => h, fun h => h hreported⟩
  · rw [Reported] at hreported
    rw [if_neg hreported, if_neg hreported]
    exact iff_of_true rfl fun h => absurd h hreported

/-! ## Invariance -/

/-- **The choice of units does not matter**: the cost figures stay, whichever model is quoted in
    another unit. -/
def UnitInvariant (input : SimulationInput) (baseline : Baseline) (registry : Registry)
    (baselineQuality : Option ℚ) : Prop :=
  ∀ id model other, registry id = some model → Requoted model other →
    let result := simulate input baseline registry baselineQuality
    let requoted := simulate input baseline (registry.replace id other) baselineQuality
    requoted.optimizedCost = result.optimizedCost
      ∧ requoted.estimatedSaving = result.estimatedSaving
      ∧ requoted.withinBudget = result.withinBudget

/-- A result is figured from the optimized cost. -/
lemma figures_congr {other : Registry}
    (h : (simulate input baseline other baselineQuality).optimizedCost.amount
      = (simulate input baseline registry baselineQuality).optimizedCost.amount) :
    let result := simulate input baseline registry baselineQuality
    let requoted := simulate input baseline other baselineQuality
    requoted.optimizedCost = result.optimizedCost
      ∧ requoted.estimatedSaving = result.estimatedSaving
      ∧ requoted.withinBudget = result.withinBudget := by
  have hfigure : ∀ blended : Option ℚ × List String × Option String,
      (optimizedFigure input baseline blended).1
        = (optimizedFigure input baseline blended).1.amount.elim Figure.unavailable
            fun amount => ⟨some amount, some baseline.currency, .Simulated⟩ := by
    rintro ⟨_ | rate, unpriced, costUnit⟩ <;> rfl
  have hoptimized : (simulate input baseline other baselineQuality).optimizedCost
      = (simulate input baseline registry baselineQuality).optimizedCost := by
    have hamount : (optimizedFigure input baseline (blendedRate input.modelMix other)).1.amount
        = (optimizedFigure input baseline (blendedRate input.modelMix registry)).1.amount := h
    show (optimizedFigure input baseline (blendedRate input.modelMix other)).1
      = (optimizedFigure input baseline (blendedRate input.modelMix registry)).1
    rw [hfigure (blendedRate input.modelMix other), hfigure (blendedRate input.modelMix registry),
      hamount]
  refine ⟨hoptimized, ?_, ?_⟩
  · exact congrArg (fun optimized => (savingFigure baseline.currency
      (forecastFigure input baseline).1 optimized).1) hoptimized
  · rw [withinBudget_eq, withinBudget_eq, h]

/-- Nothing is reported, for no requests, or at no cost: every model with a share that is quoted in
    a recognised unit is free. -/
def UnitsIrrelevant (input : SimulationInput) (registry : Registry) : Prop :=
  Reported input.modelMix registry → input.requestVolume ≠ 0 →
    ∀ id model, registry id = some model → model.pricing.isUsable = true →
      model.rate = 0 ∨ shareOf id input.modelMix = 0

/-- Every price can be quoted differently. -/
lemma exists_other_rate (husable : model.pricing.isUsable = true) (hrate : model.rate ≠ 0) :
    ∃ other, Requoted model other ∧ other.rate ≠ model.rate := by
  obtain ⟨rates, hrates⟩ := Option.isSome_iff_exists.mp
    ((CostEngine.ratesPerToken_isSome _).trans husable)
  obtain ⟨-, unit, -, hmodel⟩ := rate_of_ratesPerToken hrates
  have hsum : rates.1 + rates.2 ≠ 0 := fun hzero => hrate (by rw [hmodel, hzero, zero_mul])
  have hdiffers : ∃ unit' : CostUnit, tokensPerUnit unit' ≠ tokensPerUnit unit := by
    cases unit with
    | PerToken => exact ⟨.Per1kTokens, by norm_num [tokensPerUnit]⟩
    | Per1kTokens => exact ⟨.PerToken, by norm_num [tokensPerUnit]⟩
    | Per1mTokens => exact ⟨.PerToken, by norm_num [tokensPerUnit]⟩
  obtain ⟨unit', hdiffers⟩ := hdiffers
  refine ⟨model.quotedIn unit', requoted_quotedIn husable unit', fun hsame => hdiffers ?_⟩
  have hother : (model.quotedIn unit').rate = (rates.1 + rates.2) * tokensPerUnit unit' := by
    rw [CandidateModel.rate, CandidateModel.quotedIn, hrates]
    exact (add_mul ..).symm
  rw [hother, hmodel] at hsame
  exact mul_left_cancel₀ hsum hsame

/-- **A simulation does not depend on the units of its prices exactly when these do not show**. -/
theorem unitInvariant_iff (input : SimulationInput) (baseline : Baseline) (registry : Registry)
    (baselineQuality : Option ℚ) :
    UnitInvariant input baseline registry baselineQuality ↔ UnitsIrrelevant input registry := by
  constructor
  · intro hinvariant hreported hvolume id model hmodel husable
    by_contra hnone
    obtain ⟨hrate, hshare⟩ := not_or.mp hnone
    obtain ⟨other, hrequoted, hdiffers⟩ := exists_other_rate husable hrate
    obtain ⟨rates, hrates, hother⟩ := hrequoted.exists_rates
    have hsame := congrArg Figure.amount (hinvariant id model other hmodel hrequoted).1
    rcases (optimizedCost_replace_iff hmodel (rate_of_ratesPerToken hrates).1
        (rate_of_ratesPerToken hother).1).mp hsame hreported hvolume with h | h
    · exact hdiffers h
    · exact hshare h
  · intro hirrelevant id model other hmodel hrequoted
    obtain ⟨rates, hrates, hother⟩ := hrequoted.exists_rates
    obtain ⟨hknown, unit, -, hrate⟩ := rate_of_ratesPerToken hrates
    obtain ⟨hknown', unit', -, hrate'⟩ := rate_of_ratesPerToken hother
    refine figures_congr ((optimizedCost_replace_iff hmodel hknown hknown').mpr
      fun hreported hvolume => ?_)
    refine (hirrelevant hreported hvolume id model hmodel hrequoted.usable).imp_left fun hfree => ?_
    -- a rate of nothing is nothing in every unit
    rw [hrate] at hfree
    have hsum : rates.1 + rates.2 = 0 :=
      (mul_eq_zero.mp hfree).resolve_right (tokensPerUnit_pos unit).ne'
    rw [hrate, hrate', hsum, zero_mul, zero_mul]

/-- One per thousand tokens, and the same as a thousand per million. -/
def perThousand : CandidateModel where
  inputCost := some 1
  outputCost := some 0
  costUnit := some "per_1k_tokens"

def perMillion : CandidateModel where
  inputCost := some 1000
  outputCost := some 0
  costUnit := some "per_1m_tokens"

/-- A thousand requests to one model, for at most 5000. -/
def allToOneModel : SimulationInput where
  requestVolume := 1000
  budgetAmount := some 5000
  modelMix := [⟨"m", 100⟩]

/-- **Quoted per million, a model is a thousand times as expensive**, and over the budget. -/
theorem perMillion_is_dearer :
    Requoted perThousand perMillion
      ∧ ¬ UnitInvariant allToOneModel ⟨2000, 0, 1000, "USD"⟩ (fun _ => some perThousand) none := by
  have hrequoted : Requoted perThousand perMillion :=
    ⟨by decide +kernel, by decide +kernel, rfl, rfl⟩
  refine ⟨hrequoted, fun hinvariant => ?_⟩
  have hbudget := (hinvariant "m" perThousand perMillion rfl hrequoted).2.2
  exact absurd hbudget (by decide +kernel)

end Simulation

end CostPlatform
