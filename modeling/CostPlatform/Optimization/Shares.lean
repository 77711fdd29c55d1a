import CostPlatform.Library.WeightedMean
import CostPlatform.Optimization.Simulation

/-!
# The shares of a mix

A simulated mix is meant to be a mean over its models, weighted with their shares.  A request is
checked share by share, and the loops over the mix multiply with shares as they are: nothing checks
or divides by what they come to together.  `trueMean_iff` says that a hundred is the total for which
the mix is a mean.
-/

namespace CostPlatform

namespace Simulation

/-! ## The request -/

/-- An entry of the mix as the request schema accepts it. -/
structure MixEntryRequest where
  modelId : String
  sharePercent : ℚ
  modelId_ne : modelId ≠ ""
  share_nonneg : 0 ≤ sharePercent
  share_le : sharePercent ≤ 100

/-- The assumptions to simulate, as the request schema accepts them. -/
structure SimulationRequest where
  requestVolume : ℕ
  workloadId : Option String := none
  productionVolume : Option ℕ := none
  imageVolume : Option ℕ := none
  budgetAmount : Option {amount : ℚ // 0 ≤ amount} := none
  modelMix : List MixEntryRequest := []
  horizonDays : ℕ := 30
  horizon_pos : 1 ≤ horizonDays
  horizon_le : horizonDays ≤ 365

def MixEntryRequest.toDomain (entry : MixEntryRequest) : ModelMixEntry :=
  ⟨entry.modelId, entry.sharePercent⟩

/-- What the endpoint hands to `simulate`. -/
def SimulationRequest.toInput (request : SimulationRequest) : SimulationInput where
  requestVolume := request.requestVolume
  productionVolume := request.productionVolume.map Int.ofNat
  imageVolume := request.imageVolume.map Int.ofNat
  budgetAmount := request.budgetAmount.map Subtype.val
  modelMix := request.modelMix.map MixEntryRequest.toDomain
  horizonDays := request.horizonDays
  workloadId := request.workloadId

/-! ## Means -/

/-- The measured quality of the entry's model. -/
def scoreOf (registry : Registry) (entry : ModelMixEntry) : Option ℚ :=
  (registry entry.modelId).bind CandidateModel.qualityScore

/-- Qualities times shares. -/
def weightedQuality (mix : List ModelMixEntry) (registry : Registry) : ℚ :=
  (mix.map fun entry => (scoreOf registry entry).getD 0 * (entry.sharePercent / 100)).sum

/-- No less than the smallest and no more than the largest value of the entries with a share. -/
def Between (value : ModelMixEntry → ℚ) (mix : List ModelMixEntry) (x : ℚ) : Prop :=
  (∃ entry ∈ mix, 0 < entry.sharePercent ∧ value entry ≤ x)
    ∧ ∃ entry ∈ mix, 0 < entry.sharePercent ∧ x ≤ value entry

/-- **What a simulation reports is a mean**: the blended rate and the quality behind the impact are
    between those of the models, and models that are as the baseline is change nothing. -/
structure IsMean (input : SimulationInput) (baseline : Baseline) (registry : Registry)
    (baselineQuality : Option ℚ) (result : SimulationResult) : Prop where
  rate : ∀ amount ∈ result.optimizedCost.amount,
    ∃ rate ∈ (blendedRate input.modelMix registry).1, amount = rate * input.requestVolume
      ∧ Between (rateOf registry) input.modelMix rate
  quality : ∀ impact ∈ result.qualityImpactPercent,
    ∃ before ∈ baselineQuality, ∃ after, impact = (after - before) / before * 100
      ∧ Between (fun entry => (scoreOf registry entry).getD 0) input.modelMix after
  noSaving : (∀ entry ∈ input.modelMix,
      baseline.costPerRequest = some (rateOf registry entry)) →
    ∀ saving ∈ result.estimatedSaving.amount, saving = 0
  noImpact : (∀ entry ∈ input.modelMix, baselineQuality = scoreOf registry entry) →
    ∀ impact ∈ result.qualityImpactPercent, impact = 0

/-- A mix of which every simulation is a mean. -/
def TrueMean (mix : List MixEntryRequest) : Prop :=
  ∀ (request : SimulationRequest) (baseline : Baseline) (registry : Registry)
    (baselineQuality : Option ℚ), request.modelMix = mix →
      IsMean request.toInput baseline registry baselineQuality
        (simulate request.toInput baseline registry baselineQuality)

variable {mix : List ModelMixEntry} {registry : Registry} {input : SimulationInput}
  {baseline : Baseline} {baselineQuality : Option ℚ}

/-! ## The quality of a mix -/

lemma qualityStep_eq (sums : ℚ × ℚ) (entry : ModelMixEntry) :
    qualityStep registry sums entry = (scoreOf registry entry).map fun score =>
      (sums.1 + score * (entry.sharePercent / 100), sums.2 + entry.sharePercent) := by
  rw [qualityStep, scoreOf]
  cases registry entry.modelId with
  | none => rfl
  | some model => cases h : model.qualityScore <;> simp [h]

/-- The loop gives up at a model without a score, and sums where there is none. -/
lemma foldlM_qualityStep {sums after : ℚ × ℚ} :
    mix.foldlM (qualityStep registry) sums = some after
      ↔ (∀ entry ∈ mix, (scoreOf registry entry).isSome = true)
        ∧ after = (sums.1 + weightedQuality mix registry, sums.2 + totalShare mix) := by
  induction mix generalizing sums with
  | nil =>
      simpa [weightedQuality, totalShare] using eq_comm
  | cons entry mix ih =>
      rw [List.foldlM_cons, qualityStep_eq, List.forall_mem_cons]
      cases hscore : scoreOf registry entry with
      | none => simp
      | some score =>
          rw [Option.map_some, Option.bind_eq_bind, Option.bind_some, ih, weightedQuality,
            totalShare]
          simp only [weightedQuality, totalShare, List.map_cons, List.sum_cons, hscore,
            Option.getD_some, Option.isSome_some, true_and, add_assoc]

/-- **The quality impact of a mix**, where it is reported. -/
lemma qualityImpact_eq_some_iff {impact : ℚ} :
    qualityImpact mix registry baselineQuality = some impact
      ↔ ∃ before, baselineQuality = some before ∧ 0 < before
        ∧ (∀ entry ∈ mix, (scoreOf registry entry).isSome = true) ∧ 0 < totalShare mix
        ∧ impact = (weightedQuality mix registry - before) / before * 100 := by
  constructor
  · intro h
    obtain ⟨before, hbefore, h⟩ := Option.bind_eq_some_iff.mp h
    split_ifs at h with hnone
    obtain ⟨hmix, hpositive⟩ := not_or.mp hnone
    obtain ⟨sums, hsums, h⟩ := Option.bind_eq_some_iff.mp h
    obtain ⟨hscored, rfl⟩ := foldlM_qualityStep.mp hsums
    rw [zero_add, zero_add] at h
    dsimp only at h
    split_ifs at h with hshare
    exact ⟨before, hbefore, not_le.mp hpositive, hscored, not_le.mp hshare,
      (Option.some.inj h).symm⟩
  · rintro ⟨before, rfl, hpositive, hscored, hshare, rfl⟩
    have hmix : mix ≠ [] := by
      rintro rfl
      exact absurd hshare (lt_irrefl 0)
    have hsums : mix.foldlM (qualityStep registry) (0, 0)
        = some (weightedQuality mix registry, totalShare mix) :=
      foldlM_qualityStep.mpr ⟨hscored, by rw [zero_add, zero_add]⟩
    rw [qualityImpact, Option.bind_eq_bind, Option.bind_some,
      if_neg (not_or.mpr ⟨hmix, not_le.mpr hpositive⟩), hsums, Option.bind_eq_bind,
      Option.bind_some]
    exact if_neg (not_le.mpr hshare)

/-! ## A hundred -/

/-- Shares of a hundred are weights of one. -/
lemma weights_sum : (mix.map fun entry => entry.sharePercent / 100).sum = totalShare mix / 100 := by
  simp only [div_eq_mul_inv]
  exact List.sum_map_mul_right ..

lemma between_of_hundred (hnonneg : ∀ entry ∈ mix, 0 ≤ entry.sharePercent)
    (htotal : totalShare mix = 100) (value : ModelMixEntry → ℚ) :
    Between value mix (WeightedMean.mean value (fun entry => entry.sharePercent / 100) mix) := by
  have hweight : ∀ entry ∈ mix, 0 ≤ entry.sharePercent / 100 := fun entry hentry =>
    div_nonneg (hnonneg entry hentry) (by norm_num)
  have hsum : (mix.map fun entry => entry.sharePercent / 100).sum = 1 := by
    rw [weights_sum, htotal, div_self (by norm_num)]
  have hshare : ∀ share : ℚ, 0 < share / 100 → 0 < share := fun share h => by linarith
  obtain ⟨low, hlow, hlowShare, hle⟩ := WeightedMean.exists_le_mean value hweight hsum
  obtain ⟨high, hhigh, hhighShare, hge⟩ := WeightedMean.exists_mean_le value hweight hsum
  exact ⟨⟨low, hlow, hshare _ hlowShare, hle⟩, ⟨high, hhigh, hshare _ hhighShare, hge⟩⟩

/-- Models that are all worth the same are worth that, a hundredth for each share. -/
lemma mean_of_const {value : ModelMixEntry → ℚ} {c : ℚ} (h : ∀ entry ∈ mix, value entry = c) :
    WeightedMean.mean value (fun entry => entry.sharePercent / 100) mix
      = c * (totalShare mix / 100) := by
  rw [WeightedMean.mean_congr h, WeightedMean.mean_const, weights_sum]

/-- **Shares of a hundred make a mean**, and no shares make nothing at all. -/
lemma isMean_of_hundred (hnonneg : ∀ entry ∈ input.modelMix, 0 ≤ entry.sharePercent)
    (htotal : totalShare input.modelMix = 100 ∨ totalShare input.modelMix = 0) :
    IsMean input baseline registry baselineQuality
      (simulate input baseline registry baselineQuality) := by
  have hhundred : 0 < totalShare input.modelMix → totalShare input.modelMix = 100 := fun hpos =>
    htotal.resolve_right hpos.ne'
  have hrate : ∀ rate ∈ (blendedRate input.modelMix registry).1,
      totalShare input.modelMix = 100 ∧ weightedRate input.modelMix registry = rate := by
    intro rate h
    obtain ⟨⟨-, hpos⟩, heq⟩ := blendedRate_eq_some_iff.mp h
    exact ⟨hhundred hpos, heq⟩
  have hquality : ∀ impact ∈ qualityImpact input.modelMix registry baselineQuality,
      totalShare input.modelMix = 100 ∧ ∃ before ∈ baselineQuality, 0 < before
        ∧ impact = (weightedQuality input.modelMix registry - before) / before * 100 := by
    intro impact h
    obtain ⟨before, hbefore, hpositive, -, hpos, heq⟩ := qualityImpact_eq_some_iff.mp h
    exact ⟨hhundred hpos, before, hbefore, hpositive, heq⟩
  refine ⟨fun amount h => ?_, fun impact h => ?_, fun hsame saving h => ?_,
    fun hsame impact h => ?_⟩
  · rw [optimizedCost_amount] at h
    obtain ⟨rate, hblended, rfl⟩ := Option.map_eq_some_iff.mp h
    obtain ⟨htotal, rfl⟩ := hrate rate hblended
    exact ⟨_, hblended, rfl, between_of_hundred hnonneg htotal _⟩
  · obtain ⟨htotal, before, hbefore, -, rfl⟩ := hquality impact h
    exact ⟨before, hbefore, _, rfl, between_of_hundred hnonneg htotal _⟩
  · obtain ⟨perRequest, hmeasured, rate, hblended, rfl⟩ := estimatedSaving_eq_some_iff.mp h
    obtain ⟨htotal, rfl⟩ := hrate rate hblended
    have hconst : weightedRate input.modelMix registry = perRequest := by
      refine (mean_of_const fun entry hentry => ?_).trans (by rw [htotal]; ring)
      exact Option.some.inj ((hsame entry hentry).symm.trans hmeasured)
    rw [hconst, sub_self]
  · obtain ⟨htotal, before, hbefore, hpositive, rfl⟩ := hquality impact h
    have hconst : weightedQuality input.modelMix registry = before := by
      refine (mean_of_const (c := before) fun entry hentry => ?_).trans (by rw [htotal]; ring)
      rw [← hsame entry hentry, hbefore, Option.getD_some]
    rw [hconst, sub_self, zero_div, zero_mul]

/-- A model that costs one and scores one. -/
def flatModel : CandidateModel where
  inputCost := some 1
  outputCost := some 0
  costUnit := some "per_1k_tokens"
  qualityScore := some 1

lemma rateOf_flat (entry : ModelMixEntry) : rateOf (fun _ => some flatModel) entry = 1 := by
  norm_num [rateOf, flatModel, CandidateModel.rate]

/-- The blended rate of a mix of such models is a hundredth of its shares. -/
lemma weightedRate_flat (mix : List ModelMixEntry) :
    weightedRate mix (fun _ => some flatModel) = totalShare mix / 100 :=
  (mean_of_const fun entry _ => rateOf_flat entry).trans (one_mul _)

/-- **A mix is a mean exactly when its shares total a hundred**, or nothing is shared out and
    nothing is reported. -/
theorem trueMean_iff (mix : List MixEntryRequest) :
    TrueMean mix ↔ totalShare (mix.map MixEntryRequest.toDomain) = 100
      ∨ totalShare (mix.map MixEntryRequest.toDomain) = 0 := by
  have hnonneg : ∀ entry ∈ mix.map MixEntryRequest.toDomain, 0 ≤ entry.sharePercent := by
    intro entry hentry
    obtain ⟨accepted, -, rfl⟩ := List.mem_map.mp hentry
    exact accepted.share_nonneg
  constructor
  · intro hmean
    rcases (List.sum_nonneg (List.forall_mem_map.mpr hnonneg)).eq_or_lt with hzero | hpos
    · exact Or.inr hzero.symm
    -- all models cost one, so the blended rate has to be one as well
    · have hpriced : ∀ entry ∈ mix.map MixEntryRequest.toDomain,
          Priced (fun _ => some flatModel) entry = true := fun _ _ => rfl
      have hblended := blendedRate_eq_some_iff.mpr
        ⟨⟨hpriced, hpos⟩, weightedRate_flat (mix.map MixEntryRequest.toDomain)⟩
      obtain ⟨rate, hrate, -, ⟨low, -, -, hlow⟩, high, -, -, hhigh⟩ :=
        (hmean ⟨1, none, none, none, none, mix, 30, by decide, by decide⟩ ⟨0, 0, 0, "USD"⟩
          (fun _ => some flatModel) none rfl).rate _
          (by rw [optimizedCost_amount]; exact congrArg (Option.map _) hblended)
      obtain rfl := Option.some.inj (hblended.symm.trans hrate)
      rw [rateOf_flat] at hlow hhigh
      exact Or.inl (by linarith)
  · rintro htotal request baseline registry baselineQuality rfl
    exact isMean_of_hundred hnonneg htotal

/-- Half the traffic of a model that costs and scores what the baseline does. -/
def halfShare : SimulationRequest where
  requestVolume := 1000
  modelMix := [⟨"same", 50, by decide, by norm_num, by norm_num⟩]
  horizon_pos := by decide
  horizon_le := by decide

/-- **Half a share of the very same model halves the cost and the quality.** -/
theorem halfShare_not_trueMean :
    (simulate halfShare.toInput ⟨1000, 0, 1000, "USD"⟩ (fun _ => some flatModel)
          (some 1)).estimatedSaving.amount = some 500
      ∧ (simulate halfShare.toInput ⟨1000, 0, 1000, "USD"⟩ (fun _ => some flatModel)
          (some 1)).qualityImpactPercent = some (-50)
      ∧ ¬ TrueMean halfShare.modelMix := by
  refine ⟨by decide +kernel, by decide +kernel, fun hmean => ?_⟩
  have hsaving := (hmean halfShare ⟨1000, 0, 1000, "USD"⟩ (fun _ => some flatModel) none
    rfl).noSaving (by decide +kernel) 500 (by decide +kernel)
  exact absurd hsaving (by norm_num)

end Simulation

end CostPlatform
