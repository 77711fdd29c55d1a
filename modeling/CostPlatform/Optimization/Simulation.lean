import CostPlatform.Cost.CostEngine

/-!
# What-if simulation

Volume, budget and model mix are varied, and the current, the forecast and the optimized cost
compared.  The arithmetic is over measured spend and registry pricing, and its rule is that unknown
is never zero: `unknowns_propagate` says where each figure is missing, and what says so.

`blendedRate_eq` is what the loop over the mix comes to: the entries without known pricing, and
where there are none, the sum of rates times shares.
-/

namespace CostPlatform

namespace Simulation

/-! ## Figures -/

inductive Provenance where
  | Actual
  | Estimated
  | Forecast
  | Simulated
  | Unavailable
  deriving DecidableEq, Repr

/-- One monetary figure with its provenance.  Without an amount it could not be computed. -/
structure Figure where
  amount : Option ℚ
  currency : Option String
  provenance : Provenance
  deriving DecidableEq, Repr

def Figure.unavailable : Figure := ⟨none, none, .Unavailable⟩

/-- A figure without an amount is labelled UNAVAILABLE, and no other is. -/
def Figure.Honest (figure : Figure) : Prop :=
  figure.amount = none ↔ figure.provenance = .Unavailable

lemma Figure.honest_unavailable : Figure.unavailable.Honest := iff_of_true rfl rfl

lemma Figure.honest_some {amount : ℚ} {currency : Option String} {provenance : Provenance}
    (h : provenance ≠ .Unavailable) : Figure.Honest ⟨some amount, currency, provenance⟩ :=
  iff_of_false (Option.some_ne_none amount) h

/-! ## Inputs -/

structure ModelMixEntry where
  modelId : String
  sharePercent : ℚ
  deriving DecidableEq, Repr

/-- The assumptions being simulated. -/
structure SimulationInput where
  requestVolume : Int
  productionVolume : Option Int := none
  imageVolume : Option Int := none
  budgetAmount : Option ℚ := none
  modelMix : List ModelMixEntry := []
  horizonDays : Int := 30
  workloadId : Option String := none
  deriving DecidableEq, Repr

/-- Measured spend over the observed window. -/
structure Baseline where
  actualCost : ℚ
  estimatedCost : ℚ
  totalRequests : Int
  currency : String
  deriving DecidableEq, Repr

def Baseline.knownSpend (baseline : Baseline) : ℚ := baseline.actualCost + baseline.estimatedCost

/-- Mean spend per request, if there is traffic to average. -/
def Baseline.costPerRequest (baseline : Baseline) : Option ℚ :=
  if baseline.totalRequests ≤ 0 then none else some (baseline.knownSpend / baseline.totalRequests)

/-- What a simulation reads of a registered model, whatever the columns hold. -/
structure CandidateModel where
  inputCost : Option ℚ := none
  outputCost : Option ℚ := none
  costUnit : Option String := none
  qualityScore : Option ℚ := none
  riskLevel : Option String := none
  deriving DecidableEq, Repr

/-- Both rates and the unit must be present. -/
def CandidateModel.hasKnownPricing (model : CandidateModel) : Bool :=
  model.inputCost.isSome && model.outputCost.isSome && (PyString.truthy model.costUnit).isSome

/-- `input_cost + output_cost`, in whatever unit. -/
def CandidateModel.rate (model : CandidateModel) : ℚ :=
  model.inputCost.getD 0 + model.outputCost.getD 0

/-- A row of the registry, as a simulation reads it. -/
def CandidateModel.fromEntry (entry : ModelRegistryEntry) : CandidateModel where
  inputCost := entry.inputCost
  outputCost := entry.outputCost
  costUnit := entry.costUnit
  qualityScore := entry.qualityScore
  riskLevel := entry.riskLevel.map RiskLevel.value

/-- Candidate models by id. -/
abbrev Registry := String → Option CandidateModel

/-! ## The mix -/

/-- What the loop over the mix has come to. -/
structure Blend where
  unpriced : List String
  weighted : ℚ
  totalShare : ℚ
  costUnit : Option String

def blendStep (registry : Registry) (blend : Blend) (entry : ModelMixEntry) : Blend :=
  match registry entry.modelId with
  | none => { blend with unpriced := blend.unpriced ++ [entry.modelId] }
  | some model =>
      if model.hasKnownPricing then
        { unpriced := blend.unpriced
          weighted := blend.weighted + model.rate * (entry.sharePercent / 100)
          totalShare := blend.totalShare + entry.sharePercent
          costUnit := (PyString.truthy blend.costUnit).or model.costUnit }
      else { blend with unpriced := blend.unpriced ++ [entry.modelId] }

/-- `_blended_rate`: the rate, the models without pricing, and the unit. -/
def blendedRate (mix : List ModelMixEntry) (registry : Registry) :
    Option ℚ × List String × Option String :=
  if mix = [] then (none, [], none)
  else
    let blend := mix.foldl (blendStep registry) ⟨[], 0, 0, none⟩
    if blend.unpriced ≠ [] ∨ blend.totalShare ≤ 0 then (none, blend.unpriced, blend.costUnit)
    else (some blend.weighted, [], blend.costUnit)

/-- One model of the mix, if its quality is measured. -/
def qualityStep (registry : Registry) (sums : ℚ × ℚ) (entry : ModelMixEntry) : Option (ℚ × ℚ) := do
  let model ← registry entry.modelId
  let score ← model.qualityScore
  return (sums.1 + score * (entry.sharePercent / 100), sums.2 + entry.sharePercent)

/-- `_quality_impact`: weighted quality against the baseline, in percent.  One model without a
    measured score, and there is none. -/
def qualityImpact (mix : List ModelMixEntry) (registry : Registry) (baselineQuality : Option ℚ) :
    Option ℚ := do
  let quality ← baselineQuality
  if mix = [] ∨ quality ≤ 0 then none
  else
    let (weighted, totalShare) ← mix.foldlM (qualityStep registry) (0, 0)
    if totalShare ≤ 0 then none
    else some ((weighted - quality) / quality * 100)

/-- `_RISK_ORDER.index`. -/
def riskIndex : RiskLevel → Nat
  | .Low => 0
  | .Medium => 1
  | .High => 2
  | .Critical => 3

/-- The risk level a model declares, if it is one. -/
def CandidateModel.declaredRisk (model : CandidateModel) : Option RiskLevel :=
  RiskLevel.ofValue (PyString.upper (PyString.strip (model.riskLevel.getD "")))

/-- What a registered model counts as.  An undeclared risk is MEDIUM, not LOW. -/
def CandidateModel.riskOf (model : CandidateModel) : RiskLevel := model.declaredRisk.getD .Medium

/-- One model of the mix; an id that the registry does not have is passed over. -/
def riskStep (registry : Registry) (highest : RiskLevel) (entry : ModelMixEntry) : RiskLevel :=
  match registry entry.modelId with
  | none => highest
  | some model => if riskIndex highest < riskIndex model.riskOf then model.riskOf else highest

/-- `_mix_risk`: the highest risk level present in the mix. -/
def mixRisk (mix : List ModelMixEntry) (registry : Registry) : RiskLevel :=
  mix.foldl (riskStep registry) .Low

/-! ## The comparison -/

/-- `f"{x:.6f}"`. -/
def sixDecimals (x : ℚ) : String :=
  let millionths := (CostEngine.roundHalfEven (|x| * 10 ^ 6)).natAbs
  let fraction := toString (millionths % 10 ^ 6)
  (if x < 0 then "-" else "") ++ toString (millionths / 10 ^ 6) ++ "."
    ++ String.ofList (List.replicate (6 - fraction.length) '0') ++ fraction

/-- Every figure is labelled; none is a commitment. -/
structure SimulationResult where
  horizonDays : Int
  currentCost : Figure
  forecastCost : Figure
  optimizedCost : Figure
  estimatedSaving : Figure
  estimatedSavingPercent : Option ℚ
  qualityImpactPercent : Option ℚ
  riskLevel : RiskLevel
  withinBudget : Option Bool
  unpricedModelIds : List String
  assumptions : List String
  provenance : Provenance := .Simulated
  deriving DecidableEq, Repr

/-- What has actually been spent, labelled as the weaker of what went into it. -/
def currentFigure (baseline : Baseline) : Figure where
  amount := some baseline.knownSpend
  currency := some baseline.currency
  provenance := if baseline.estimatedCost = 0 then .Actual else .Estimated

/-- The measured rate, applied to the assumed volume. -/
def forecastFigure (input : SimulationInput) (baseline : Baseline) : Figure × String :=
  match baseline.costPerRequest with
  | none =>
      (.unavailable,
        "No recorded traffic in the baseline window, so no per-request rate "
          ++ "could be derived and the forecast is unavailable.")
  | some rate =>
      ({ amount := some (rate * input.requestVolume)
         currency := some baseline.currency
         provenance := .Forecast },
        "Forecast projects the measured rate of " ++ sixDecimals rate ++ " " ++ baseline.currency
          ++ " per request across " ++ toString input.requestVolume ++ " requests.")

/-- The proposed mix at registry pricing. -/
def optimizedFigure (input : SimulationInput) (baseline : Baseline)
    (blended : Option ℚ × List String × Option String) : Figure × List String :=
  match blended with
  | (none, unpriced, _) =>
      (.unavailable,
        if unpriced ≠ [] then
          ["Optimized cost is unavailable: " ++ toString unpriced.length
            ++ " model(s) in the mix have no registry pricing. "
            ++ "An unpriced model is not free, so no blended rate was computed."]
        else if input.modelMix = [] then
          ["No model mix supplied, so no optimized cost was computed."]
        else [])
  | (some rate, _, costUnit) =>
      ({ amount := some (rate * input.requestVolume)
         currency := some baseline.currency
         provenance := .Simulated },
        ["Optimized cost applies the proposed mix at a blended rate of " ++ sixDecimals rate ++ " "
          ++ baseline.currency ++ " per " ++ (PyString.truthy costUnit).getD "unit" ++ "."])

/-- Only when both sides are known: the saving, and its share of the forecast. -/
def savingFigure (currency : String) (forecast optimized : Figure) :
    Figure × Option ℚ × List String :=
  match forecast.amount, optimized.amount with
  | some before, some after =>
      ({ amount := some (before - after), currency := some currency, provenance := .Simulated },
        if before = 0 then none else some ((before - after) / before * 100), [])
  | _, _ =>
      (.unavailable, none,
        ["Savings cannot be computed without both a forecast and an optimized cost."])

/-- Volumes that inform but do not drive the cost. -/
def volumeAssumptions (input : SimulationInput) : List String :=
  (match input.imageVolume.filter (· ≠ 0) with
    | some images =>
        [toString images ++ " images assumed. Image handling is "
          ++ "priced per request by the registry, not per image, so image volume "
          ++ "is recorded but does not independently scale cost."]
    | none => [])
    ++ match input.productionVolume.filter (· ≠ 0) with
      | some units =>
          [toString units ++ " production units assumed, for "
            ++ "context only — cost scales with AI request volume."]
      | none => []

/-- Compare current, forecast and optimized cost under the given assumptions. -/
def simulate (input : SimulationInput) (baseline : Baseline) (registry : Registry)
    (baselineQuality : Option ℚ) : SimulationResult :=
  let blended := blendedRate input.modelMix registry
  let (forecast, forecastAssumption) := forecastFigure input baseline
  let (optimized, optimizedAssumptions) := optimizedFigure input baseline blended
  let (saving, savingPercent, savingAssumptions) :=
    savingFigure baseline.currency forecast optimized
  { horizonDays := input.horizonDays
    currentCost := currentFigure baseline
    forecastCost := forecast
    optimizedCost := optimized
    estimatedSaving := saving
    estimatedSavingPercent := savingPercent
    qualityImpactPercent := qualityImpact input.modelMix registry baselineQuality
    riskLevel := mixRisk input.modelMix registry
    withinBudget :=
      match input.budgetAmount, optimized.amount with
      | some budget, some amount => some (decide (amount ≤ budget))
      | _, _ => none
    unpricedModelIds := blended.2.1
    assumptions := forecastAssumption :: optimizedAssumptions ++ savingAssumptions
      ++ volumeAssumptions input
      ++ ["Every figure is a projection, not a commitment. Applying any change "
        ++ "requires the normal recommendation lifecycle: validation, approval and "
        ++ "a versioned policy."] }

/-! ## What the loop comes to -/

variable {mix : List ModelMixEntry} {registry : Registry} {input : SimulationInput}
  {baseline : Baseline} {baselineQuality : Option ℚ}

/-- The registry has a price for the entry's model. -/
def Priced (registry : Registry) (entry : ModelMixEntry) : Bool :=
  (registry entry.modelId).any CandidateModel.hasKnownPricing

/-- The rate of the entry's model. -/
def rateOf (registry : Registry) (entry : ModelMixEntry) : ℚ :=
  ((registry entry.modelId).map CandidateModel.rate).getD 0

/-- The shares of a mix, together. -/
def totalShare (mix : List ModelMixEntry) : ℚ := (mix.map ModelMixEntry.sharePercent).sum

/-- Rates times shares. -/
def weightedRate (mix : List ModelMixEntry) (registry : Registry) : ℚ :=
  (mix.map fun entry => rateOf registry entry * (entry.sharePercent / 100)).sum

lemma blendStep_of_priced {blend : Blend} {entry : ModelMixEntry}
    (h : Priced registry entry = true) :
    (blendStep registry blend entry).unpriced = blend.unpriced
      ∧ (blendStep registry blend entry).weighted
        = blend.weighted + rateOf registry entry * (entry.sharePercent / 100)
      ∧ (blendStep registry blend entry).totalShare = blend.totalShare + entry.sharePercent := by
  obtain ⟨model, hmodel, hpricing⟩ := (Option.any_eq_true ..).mp h
  have hfound : registry entry.modelId = some model := hmodel
  simp only [blendStep, rateOf, hfound, if_pos hpricing, Option.map_some, Option.getD_some,
    and_self]

lemma blendStep_of_not_priced {blend : Blend} {entry : ModelMixEntry}
    (h : Priced registry entry = false) :
    blendStep registry blend entry
      = { blend with unpriced := blend.unpriced ++ [entry.modelId] } := by
  rw [Priced] at h
  rw [blendStep]
  cases hmodel : registry entry.modelId with
  | none => rfl
  | some model =>
      rw [hmodel, Option.any_some] at h
      simp only [h, Bool.false_eq_true, if_false]

/-- The entries without a price are kept, in their order. -/
lemma foldl_unpriced (blend : Blend) :
    (mix.foldl (blendStep registry) blend).unpriced
      = blend.unpriced
        ++ (mix.filter fun entry => !Priced registry entry).map ModelMixEntry.modelId := by
  induction mix generalizing blend with
  | nil => exact (List.append_nil _).symm
  | cons entry mix ih =>
      rw [List.foldl_cons, ih]
      cases hpriced : Priced registry entry with
      | true =>
          rw [(blendStep_of_priced hpriced).1, List.filter_cons_of_neg (by simp [hpriced])]
      | false =>
          rw [blendStep_of_not_priced hpriced, List.filter_cons_of_pos (by simp [hpriced]),
            List.map_cons, List.append_assoc, List.singleton_append]

/-- Where all have a price, rates times shares and the shares are summed. -/
lemma foldl_priced (hpriced : ∀ entry ∈ mix, Priced registry entry = true) (blend : Blend) :
    (mix.foldl (blendStep registry) blend).weighted = blend.weighted + weightedRate mix registry
      ∧ (mix.foldl (blendStep registry) blend).totalShare
        = blend.totalShare + totalShare mix := by
  induction mix generalizing blend with
  | nil => exact ⟨(add_zero _).symm, (add_zero _).symm⟩
  | cons entry mix ih =>
      obtain ⟨hentry, hrest⟩ := List.forall_mem_cons.mp hpriced
      obtain ⟨-, hweighted, hshare⟩ := @blendStep_of_priced registry blend entry hentry
      obtain ⟨ihweighted, ihshare⟩ := ih hrest (blendStep registry blend entry)
      rw [List.foldl_cons, ihweighted, ihshare, hweighted, hshare]
      simp only [weightedRate, totalShare, List.map_cons, List.sum_cons, add_assoc, and_self]

/-- **What the loop comes to**: the entries without a price, and without any, and with a share to
    blend, the sum of rates times shares. -/
theorem blendedRate_eq (mix : List ModelMixEntry) (registry : Registry) :
    (blendedRate mix registry).1
        = (if (∀ entry ∈ mix, Priced registry entry = true) ∧ 0 < totalShare mix
            then some (weightedRate mix registry) else none)
      ∧ (blendedRate mix registry).2.1
        = (mix.filter fun entry => !Priced registry entry).map ModelMixEntry.modelId := by
  have hunpriced := @foldl_unpriced mix registry ⟨[], 0, 0, none⟩
  rw [List.nil_append] at hunpriced
  rw [blendedRate]
  by_cases hempty : mix = []
  · subst hempty
    simp [totalShare]
  rw [if_neg hempty]
  dsimp only
  by_cases hall : ∀ entry ∈ mix, Priced registry entry = true
  · have hnone : (mix.filter fun entry => !Priced registry entry) = [] :=
      List.filter_eq_nil_iff.mpr fun entry hentry => by simp [hall entry hentry]
    obtain ⟨hweighted, hshare⟩ := foldl_priced hall ⟨[], 0, 0, none⟩
    dsimp only at hweighted hshare
    rw [zero_add] at hweighted hshare
    rw [hunpriced, hnone, hweighted, hshare]
    by_cases hpositive : 0 < totalShare mix
    · rw [if_neg (by simpa using hpositive), if_pos ⟨hall, hpositive⟩]
      exact ⟨rfl, rfl⟩
    · rw [if_pos (Or.inr (not_lt.mp hpositive)), if_neg fun h => hpositive h.2]
      exact ⟨rfl, rfl⟩
  · have hsome : (mix.foldl (blendStep registry) ⟨[], 0, 0, none⟩).unpriced ≠ [] := by
      rw [hunpriced, ne_eq, List.map_eq_nil_iff, List.filter_eq_nil_iff]
      simpa using hall
    rw [if_pos (Or.inl hsome), if_neg fun h => hall h.1]
    exact ⟨rfl, hunpriced⟩

/-- There is a blended rate exactly when every model of the mix has a price and something is
    shared out. -/
lemma blendedRate_isSome_iff :
    (blendedRate mix registry).1.isSome = true
      ↔ (∀ entry ∈ mix, Priced registry entry = true) ∧ 0 < totalShare mix := by
  rw [(blendedRate_eq mix registry).1]
  split_ifs with h
  · exact iff_of_true rfl h
  · exact iff_of_false nofun h

lemma blendedRate_eq_some_iff {rate : ℚ} :
    (blendedRate mix registry).1 = some rate
      ↔ ((∀ entry ∈ mix, Priced registry entry = true) ∧ 0 < totalShare mix)
        ∧ weightedRate mix registry = rate := by
  rw [(blendedRate_eq mix registry).1, Option.ite_none_right_eq_some, Option.some.injEq]

/-! ## Unknowns -/

/-- The figures of a result. -/
def SimulationResult.figures (result : SimulationResult) : List Figure :=
  [result.currentCost, result.forecastCost, result.optimizedCost, result.estimatedSaving]

lemma currentFigure_honest (baseline : Baseline) : (currentFigure baseline).Honest := by
  refine Figure.honest_some ?_
  split_ifs <;> decide

lemma forecastFigure_honest (input : SimulationInput) (baseline : Baseline) :
    (forecastFigure input baseline).1.Honest := by
  rw [forecastFigure]
  cases baseline.costPerRequest with
  | none => exact Figure.honest_unavailable
  | some rate => exact Figure.honest_some (by decide)

/-- The optimized cost is the blended rate, applied to the volume. -/
lemma optimizedFigure_amount (input : SimulationInput) (baseline : Baseline)
    (blended : Option ℚ × List String × Option String) :
    (optimizedFigure input baseline blended).1.amount
        = blended.1.map (fun rate : ℚ => rate * input.requestVolume)
      ∧ (optimizedFigure input baseline blended).1.Honest := by
  obtain ⟨rate, unpriced, costUnit⟩ := blended
  cases rate with
  | none => exact ⟨rfl, Figure.honest_unavailable⟩
  | some rate => exact ⟨rfl, Figure.honest_some (by decide)⟩

lemma optimizedCost_amount :
    (simulate input baseline registry baselineQuality).optimizedCost.amount
      = (blendedRate input.modelMix registry).1.map (fun rate : ℚ => rate * input.requestVolume) :=
  (optimizedFigure_amount input baseline _).1

/-- **What a saving needs**: a forecast and an optimized cost, and then it is their difference. -/
lemma savingFigure_cases (currency : String) (forecast optimized : Figure) :
    (∃ before after, forecast.amount = some before ∧ optimized.amount = some after
        ∧ (savingFigure currency forecast optimized).1.amount = some (before - after))
      ∨ (forecast.amount = none ∨ optimized.amount = none)
        ∧ (savingFigure currency forecast optimized).1.amount = none
        ∧ (savingFigure currency forecast optimized).2.1 = none := by
  rw [savingFigure]
  cases hforecast : forecast.amount with
  | none => exact Or.inr ⟨Or.inl rfl, rfl, rfl⟩
  | some before =>
      cases hoptimized : optimized.amount with
      | none => exact Or.inr ⟨Or.inr rfl, rfl, rfl⟩
      | some after => exact Or.inl ⟨before, after, rfl, rfl, rfl⟩

/-- A saving is what the optimized cost takes off the forecast. -/
lemma estimatedSaving_eq_some_iff {saving : ℚ} :
    (simulate input baseline registry baselineQuality).estimatedSaving.amount = some saving
      ↔ ∃ perRequest ∈ baseline.costPerRequest,
          ∃ rate ∈ (blendedRate input.modelMix registry).1,
            saving = perRequest * input.requestVolume - rate * input.requestVolume := by
  have hforecast : (forecastFigure input baseline).1.amount
      = baseline.costPerRequest.map (fun rate : ℚ => rate * input.requestVolume) := by
    rw [forecastFigure]
    cases baseline.costPerRequest <;> rfl
  have hsaving : (simulate input baseline registry baselineQuality).estimatedSaving
      = (savingFigure baseline.currency (forecastFigure input baseline).1
          (optimizedFigure input baseline (blendedRate input.modelMix registry)).1).1 := rfl
  rw [hsaving, savingFigure, hforecast, (optimizedFigure_amount input baseline _).1]
  cases baseline.costPerRequest with
  | none => simp [Figure.unavailable]
  | some perRequest =>
      cases (blendedRate input.modelMix registry).1 with
      | none => simp [Figure.unavailable]
      | some rate => simp [eq_comm]

lemma savingFigure_honest (currency : String) (forecast optimized : Figure) :
    (savingFigure currency forecast optimized).1.Honest := by
  rw [savingFigure]
  split
  · exact Figure.honest_some (by decide)
  · exact Figure.honest_unavailable

/-- Every figure of a result is labelled for what it is. -/
lemma simulate_honest (input : SimulationInput) (baseline : Baseline) (registry : Registry)
    (baselineQuality : Option ℚ) :
    ∀ figure ∈ (simulate input baseline registry baselineQuality).figures, figure.Honest := by
  rw [SimulationResult.figures, List.forall_mem_cons, List.forall_mem_cons, List.forall_mem_cons,
    List.forall_mem_singleton]
  exact ⟨currentFigure_honest baseline, forecastFigure_honest input baseline,
    (optimizedFigure_amount input baseline _).2, savingFigure_honest _ _ _⟩

lemma withinBudget_eq :
    (simulate input baseline registry baselineQuality).withinBudget
      = match input.budgetAmount,
          (simulate input baseline registry baselineQuality).optimizedCost.amount with
        | some budget, some amount => some (decide (amount ≤ budget))
        | _, _ => none := rfl

/-- A cost is compared with a budget where there are both. -/
lemma withinBudget_eq_none
    (h : input.budgetAmount = none
      ∨ (simulate input baseline registry baselineQuality).optimizedCost.amount = none) :
    (simulate input baseline registry baselineQuality).withinBudget = none := by
  rw [withinBudget_eq]
  rcases h with h | h
  · rw [h]
  · rw [h]
    cases input.budgetAmount <;> rfl

lemma priced_iff {entry : ModelMixEntry} :
    Priced registry entry = true
      ↔ ∃ model, registry entry.modelId = some model ∧ model.hasKnownPricing = true :=
  Option.any_eq_true ..

/-- A saving, and its share, is there exactly when what it is the difference of is. -/
lemma saving_propagates (input : SimulationInput) (baseline : Baseline) (registry : Registry)
    (baselineQuality : Option ℚ) :
    let result := simulate input baseline registry baselineQuality
    (result.estimatedSaving.amount.isSome = true
        ↔ result.forecastCost.amount.isSome = true ∧ result.optimizedCost.amount.isSome = true)
      ∧ (∀ before ∈ result.forecastCost.amount, ∀ after ∈ result.optimizedCost.amount,
          result.estimatedSaving.amount = some (before - after))
      ∧ (result.forecastCost.amount = none ∨ result.optimizedCost.amount = none →
          result.estimatedSavingPercent = none) := by
  intro result
  have hsaving : result.estimatedSaving
      = (savingFigure baseline.currency result.forecastCost result.optimizedCost).1 := rfl
  have hpercent : result.estimatedSavingPercent
      = (savingFigure baseline.currency result.forecastCost result.optimizedCost).2.1 := rfl
  rw [hsaving, hpercent]
  rcases savingFigure_cases baseline.currency result.forecastCost result.optimizedCost with
    ⟨before, after, hbefore, hafter, hdifference⟩ | ⟨hmissing, hnone, hnoPercent⟩
  · rw [hbefore, hafter, hdifference]
    simp
  · rw [hnone, hnoPercent]
    rcases hmissing with h | h
    · rw [h]
      simp
    · rw [h]
      simp

/-- **Unknowns propagate.**  Without a mix, or with a model in it that has no known pricing, there
    is no optimized cost, and the models without are named in their order; a saving is there
    exactly when what it is the difference of is; and what is missing is labelled so. -/
theorem unknowns_propagate (input : SimulationInput) (baseline : Baseline) (registry : Registry)
    (baselineQuality : Option ℚ) :
    let result := simulate input baseline registry baselineQuality
    (result.optimizedCost.amount.isSome = true → input.modelMix ≠ []
        ∧ ∀ entry ∈ input.modelMix,
          ∃ model, registry entry.modelId = some model ∧ model.hasKnownPricing = true)
      ∧ result.unpricedModelIds
        = (input.modelMix.filter fun entry => !Priced registry entry).map ModelMixEntry.modelId
      ∧ (result.estimatedSaving.amount.isSome = true
        ↔ result.forecastCost.amount.isSome = true ∧ result.optimizedCost.amount.isSome = true)
      ∧ (∀ before ∈ result.forecastCost.amount, ∀ after ∈ result.optimizedCost.amount,
          result.estimatedSaving.amount = some (before - after))
      ∧ (result.forecastCost.amount = none ∨ result.optimizedCost.amount = none →
          result.estimatedSavingPercent = none)
      ∧ (input.budgetAmount = none ∨ result.optimizedCost.amount = none →
          result.withinBudget = none)
      ∧ ∀ figure ∈ result.figures, figure.Honest := by
  intro result
  have hmix : (blendedRate input.modelMix registry).1.isSome = true
      ↔ result.optimizedCost.amount.isSome = true := by
    rw [optimizedCost_amount, Option.isSome_map]
  refine ⟨fun h => ?_, (blendedRate_eq _ _).2, ?_⟩
  · obtain ⟨hpriced, hshared⟩ := blendedRate_isSome_iff.mp (hmix.mpr h)
    refine ⟨fun hempty => ?_, fun entry hentry => priced_iff.mp (hpriced entry hentry)⟩
    rw [hempty] at hshared
    exact absurd hshared (lt_irrefl 0)
  obtain ⟨hiff, hdifference, hpercent⟩ :=
    saving_propagates input baseline registry baselineQuality
  exact ⟨hiff, hdifference, hpercent, withinBudget_eq_none,
    simulate_honest input baseline registry baselineQuality⟩

end Simulation

end CostPlatform
