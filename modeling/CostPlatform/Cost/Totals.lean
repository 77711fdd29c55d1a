import CostPlatform.Cost.CostEngine

/-!
# What the cost engine reports

The branches of `computeCost` come down to two (`computeCost_cases`): the rates are usable and both
counts known, and there is a total; or there is none, and the result says so.  From there,
`computeCost_honest` says what the total is, what its label means and that the unit a rate is quoted
in does not matter, and `computeCost_unpriced` what becomes of tool calls at an unknown price.
-/

namespace CostPlatform

namespace CostEngine

/-! ## The two ways a computation ends -/

/-- The model's own cost, exactly: tokens over tokens per unit, times the rate. -/
def modelCost (unit : CostUnit) (tokensIn tokensOut : Int) (inputRate outputRate : ℚ) : ℚ :=
  tokensIn / tokensPerUnit unit * inputRate + tokensOut / tokensPerUnit unit * outputRate

/-- The cost of the tool calls at a known price. -/
def pricedToolCost (tools : Option ToolUsage) : ℚ :=
  match tools with
  | some ⟨calls, some rate⟩ => if 0 < calls then calls * rate else 0
  | _ => 0

/-- Tool calls were made, at a known price. -/
def HasPricedTools (tools : Option ToolUsage) : Prop :=
  ∃ calls rate, tools = some ⟨calls, some rate⟩ ∧ 0 < calls

lemma toolCost_isSome_iff (tools : Option ToolUsage) :
    (toolCost (tools.getD {})).isSome = true ↔ HasPricedTools tools := by
  rcases tools with _ | ⟨calls, _ | rate⟩
  · simp [toolCost, ToolUsage.isPriced, HasPricedTools]
  · simp [toolCost, ToolUsage.isPriced, HasPricedTools]
  · by_cases hcalls : 0 < calls
    · simp [toolCost, ToolUsage.isPriced, HasPricedTools, hcalls]
    · simp [toolCost, ToolUsage.isPriced, HasPricedTools, hcalls]

lemma toolCost_getD (tools : Option ToolUsage) :
    (toolCost (tools.getD {})).getD 0 = pricedToolCost tools := by
  rcases tools with _ | ⟨calls, _ | rate⟩
  · rfl
  · simp [toolCost, ToolUsage.isPriced, pricedToolCost]
  · by_cases hcalls : 0 < calls
    · simp [toolCost, ToolUsage.isPriced, pricedToolCost, hcalls]
    · simp [toolCost, ToolUsage.isPriced, pricedToolCost, hcalls]

/-- Provider-reported tokens and nothing else are ACTUAL, everything else is an estimate. -/
lemma resolveProvenance_eq (usageSource : UsageSource) (hasToolCost hasInfrastructure : Bool) :
    resolveProvenance usageSource hasToolCost hasInfrastructure
      = if usageSource = .ProviderReported ∧ hasToolCost = false ∧ hasInfrastructure = false
          then .Actual else .Estimated := by
  cases usageSource <;> cases hasToolCost <;> cases hasInfrastructure <;> rfl

variable (usage : TokenUsage) (pricing : ModelPricing) (tools : Option ToolUsage)
  (infrastructureCost : Option ℚ)

/-- **How a computation ends**: with a total and its label, or with neither. -/
theorem computeCost_cases :
    (∃ tokensIn tokensOut inputRate outputRate unit, usage.inputTokens = some tokensIn
        ∧ usage.outputTokens = some tokensOut ∧ pricing.inputCost = some inputRate
        ∧ pricing.outputCost = some outputRate ∧ pricing.unit = some unit
        ∧ (computeCost usage pricing tools infrastructureCost).totalCost
          = some (quantize (modelCost unit tokensIn tokensOut inputRate outputRate
              + pricedToolCost tools + infrastructureCost.getD 0))
        ∧ (computeCost usage pricing tools infrastructureCost).provenance
          = resolveProvenance usage.source (toolCost (tools.getD {})).isSome
              infrastructureCost.isSome)
      ∨ (computeCost usage pricing tools infrastructureCost).totalCost = none
        ∧ (computeCost usage pricing tools infrastructureCost).provenance = .Unavailable := by
  by_cases husable : pricing.isUsable = true
  · obtain ⟨inputRate, outputRate, unit, hinput, houtput, hunit⟩ :=
      (isUsable_iff pricing).mp husable
    cases htokensIn : usage.inputTokens with
    | none =>
        right
        simp [computeCost, husable, hunit, tokenCost, htokensIn]
    | some tokensIn =>
        cases htokensOut : usage.outputTokens with
        | none =>
            right
            simp [computeCost, husable, hunit, tokenCost, htokensOut]
        | some tokensOut =>
            left
            refine ⟨tokensIn, tokensOut, inputRate, outputRate, unit, rfl, rfl, hinput, houtput,
              hunit, ?_, ?_⟩
            · simp only [computeCost, husable, if_true, hunit, hinput, houtput, htokensIn,
                htokensOut, tokenCost, modelCost, toolCost_getD]
            · simp only [computeCost, husable, if_true, hunit, hinput, houtput, htokensIn,
                htokensOut, tokenCost]
  · right
    simp [computeCost, husable]

/-! ## What a total and its label say -/

/-- A result is UNAVAILABLE exactly when it has no total. -/
theorem provenance_unavailable_iff :
    (computeCost usage pricing tools infrastructureCost).provenance = .Unavailable
      ↔ (computeCost usage pricing tools infrastructureCost).totalCost = none := by
  rcases computeCost_cases usage pricing tools infrastructureCost with
    ⟨_, _, _, _, _, -, -, -, -, -, htotal, hprovenance⟩ | ⟨htotal, hprovenance⟩
  · rw [htotal, hprovenance, resolveProvenance_eq]
    refine iff_of_false ?_ nofun
    split_ifs <;> exact nofun
  · exact iff_of_true hprovenance htotal

/-- A result is ACTUAL exactly when it is a total of provider-reported tokens and nothing else. -/
theorem provenance_actual_iff :
    (computeCost usage pricing tools infrastructureCost).provenance = .Actual
      ↔ (computeCost usage pricing tools infrastructureCost).totalCost.isSome = true
        ∧ usage.source = .ProviderReported ∧ ¬ HasPricedTools tools
        ∧ infrastructureCost = none := by
  rcases computeCost_cases usage pricing tools infrastructureCost with
    ⟨_, _, _, _, _, -, -, -, -, -, htotal, hprovenance⟩ | ⟨htotal, hprovenance⟩
  · rw [htotal, hprovenance, resolveProvenance_eq, ← toolCost_isSome_iff]
    simp
  · rw [htotal, hprovenance]
    simp

/-- A result is ESTIMATED exactly when it is a total of any other kind. -/
theorem provenance_estimated_iff :
    (computeCost usage pricing tools infrastructureCost).provenance = .Estimated
      ↔ (computeCost usage pricing tools infrastructureCost).totalCost.isSome = true
        ∧ ¬ (usage.source = .ProviderReported ∧ ¬ HasPricedTools tools
          ∧ infrastructureCost = none) := by
  have hactual := provenance_actual_iff usage pricing tools infrastructureCost
  have hunavailable := provenance_unavailable_iff usage pricing tools infrastructureCost
  cases htotal : (computeCost usage pricing tools infrastructureCost).totalCost with
  | none =>
      rw [hunavailable.mpr htotal]
      simp
  | some total =>
      rw [htotal] at hactual hunavailable
      cases hprovenance : (computeCost usage pricing tools infrastructureCost).provenance with
      | Actual =>
          exact iff_of_false (by simp) fun h => h.2 (hactual.mp hprovenance).2
      | Estimated =>
          refine iff_of_true rfl ⟨rfl, fun h => ?_⟩
          cases hprovenance.symm.trans (hactual.mpr ⟨rfl, h⟩)
      | Unavailable => cases hunavailable.mp hprovenance

/-- Exactly one of the two columns is filled when there is a total, with the total. -/
theorem one_column_of_total
    (h : (computeCost usage pricing tools infrastructureCost).totalCost.isSome = true) :
    let computed := computeCost usage pricing tools infrastructureCost
    (computed.actualCost = computed.totalCost ∧ computed.estimatedCost = none)
      ∨ (computed.actualCost = none ∧ computed.estimatedCost = computed.totalCost) := by
  dsimp only [CostComputation.actualCost, CostComputation.estimatedCost]
  cases hprovenance : (computeCost usage pricing tools infrastructureCost).provenance with
  | Actual => exact Or.inl ⟨rfl, rfl⟩
  | Estimated => exact Or.inr ⟨rfl, rfl⟩
  | Unavailable =>
      rw [(provenance_unavailable_iff usage pricing tools infrastructureCost).mp hprovenance] at h
      cases h

/-- The rate for a thousand tokens that a rate for a million comes to. -/
def per1k (pricing : ModelPricing) (unit : String) : ModelPricing where
  inputCost := pricing.inputCost.map (· / 1000)
  outputCost := pricing.outputCost.map (· / 1000)
  costUnit := some unit
  currency := pricing.currency

/-- A token costs the same whichever of the two units its rate is quoted in. -/
lemma tokenCost_per1k (tokens : Option Int) (rate : Option ℚ) :
    tokenCost tokens (rate.map (· / 1000)) .Per1kTokens = tokenCost tokens rate .Per1mTokens := by
  cases tokens with
  | none => rfl
  | some tokens =>
      cases rate with
      | none => rfl
      | some rate =>
          simp only [tokenCost, tokensPerUnit, Option.map_some, Option.some.injEq]
          linarith

/-- **A rate r for a million tokens is the rate r/1000 for a thousand.** -/
theorem computeCost_per1k {unit : String} (hmillion : pricing.unit = some .Per1mTokens)
    (hthousand : parseCostUnit (some unit) = some .Per1kTokens) :
    computeCost usage (per1k pricing unit) tools infrastructureCost
      = computeCost usage pricing tools infrastructureCost := by
  have hunit : (per1k pricing unit).unit = some .Per1kTokens := hthousand
  have husable : (per1k pricing unit).isUsable = pricing.isUsable := by
    rw [ModelPricing.isUsable, ModelPricing.isUsable, hunit, hmillion]
    simp [per1k]
  have hgap : pricingGap (per1k pricing unit) = pricingGap pricing := by
    simp [pricingGap, per1k]
  have hinput : tokenCost usage.inputTokens (per1k pricing unit).inputCost .Per1kTokens
      = tokenCost usage.inputTokens pricing.inputCost .Per1mTokens := tokenCost_per1k _ _
  have houtput : tokenCost usage.outputTokens (per1k pricing unit).outputCost .Per1kTokens
      = tokenCost usage.outputTokens pricing.outputCost .Per1mTokens := tokenCost_per1k _ _
  by_cases h : pricing.isUsable = true
  · simp only [computeCost, husable, h, if_true, hunit, hmillion, hinput, houtput]
    rfl
  · simp only [computeCost, husable, h, hgap]
    rfl

/-- **Computed correctly and labelled honestly.**  There is a total exactly when the rates are
    usable and both counts known; it is the exact sum, rounded once, and so within half of the last
    place of it; its label says what went into it; one of the two columns takes it; and the unit the
    rates are quoted in does not matter. -/
theorem computeCost_honest (usage : TokenUsage) (pricing : ModelPricing) (tools : Option ToolUsage)
    (infrastructureCost : Option ℚ) :
    let computed := computeCost usage pricing tools infrastructureCost
    (computed.totalCost.isSome = true ↔ pricing.isUsable = true ∧ usage.isComplete = true)
      ∧ (∀ tokensIn tokensOut inputRate outputRate unit, usage.inputTokens = some tokensIn →
          usage.outputTokens = some tokensOut → pricing.inputCost = some inputRate →
          pricing.outputCost = some outputRate → pricing.unit = some unit →
          let exact := tokensIn / tokensPerUnit unit * inputRate
            + tokensOut / tokensPerUnit unit * outputRate
            + pricedToolCost tools + infrastructureCost.getD 0
          computed.totalCost = some (quantize exact) ∧ |quantize exact - exact| ≤ 1 / 2 / 10 ^ 10)
      ∧ (computed.provenance = .Actual ↔ computed.totalCost.isSome = true
          ∧ usage.source = .ProviderReported ∧ ¬ HasPricedTools tools ∧ infrastructureCost = none)
      ∧ (computed.provenance = .Estimated ↔ computed.totalCost.isSome = true
          ∧ ¬ (usage.source = .ProviderReported ∧ ¬ HasPricedTools tools
            ∧ infrastructureCost = none))
      ∧ (computed.provenance = .Unavailable ↔ computed.totalCost = none)
      ∧ (computed.totalCost.isSome = true →
          (computed.actualCost = computed.totalCost ∧ computed.estimatedCost = none)
            ∨ (computed.actualCost = none ∧ computed.estimatedCost = computed.totalCost))
      ∧ ∀ unit, pricing.unit = some .Per1mTokens → parseCostUnit (some unit) = some .Per1kTokens →
          computeCost usage (per1k pricing unit) tools infrastructureCost = computed := by
  dsimp only
  refine ⟨totalCost_isSome_iff usage pricing tools infrastructureCost, ?_,
    provenance_actual_iff usage pricing tools infrastructureCost,
    provenance_estimated_iff usage pricing tools infrastructureCost,
    provenance_unavailable_iff usage pricing tools infrastructureCost,
    one_column_of_total usage pricing tools infrastructureCost,
    fun unit => computeCost_per1k usage pricing tools infrastructureCost⟩
  intro tokensIn tokensOut inputRate outputRate unit htokensIn htokensOut hinput houtput hunit
  have husable : pricing.isUsable = true :=
    (isUsable_iff pricing).mpr ⟨inputRate, outputRate, unit, hinput, houtput, hunit⟩
  refine ⟨?_, abs_quantize_sub_le _⟩
  simp only [computeCost, husable, if_true, hunit, hinput, houtput, htokensIn, htokensOut,
    tokenCost, toolCost_getD]

/-! ## Tool calls at an unknown price -/

/-- Every result reports the tool cost that is known. -/
lemma computeCost_toolCost :
    (computeCost usage pricing tools infrastructureCost).toolCost
      = (toolCost (tools.getD {})).map quantize := by
  unfold computeCost
  dsimp only
  split
  · rfl
  · split <;> rfl

/-- **Tool calls at an unknown price add nothing**: no tool cost is reported for them, and the
    result is that of the execution without them.  An unknown price of the model itself leaves no
    total. -/
theorem computeCost_unpriced (usage : TokenUsage) (pricing : ModelPricing) (calls : Int)
    (infrastructureCost : Option ℚ) :
    let computed := computeCost usage pricing (some ⟨calls, none⟩) infrastructureCost
    computed.toolCost = none ∧ computed = computeCost usage pricing none infrastructureCost
      ∧ (pricing.isUsable = false ∨ usage.isComplete = false →
          computed.totalCost = none ∧ computed.provenance = .Unavailable) := by
  have hnone : toolCost ⟨calls, none⟩ = none := by
    simp [toolCost, ToolUsage.isPriced]
  have hsame : computeCost usage pricing (some ⟨calls, none⟩) infrastructureCost
      = computeCost usage pricing none infrastructureCost := by
    simp only [computeCost, Option.getD_some, Option.getD_none, hnone]
    rfl
  refine ⟨?_, hsame, fun hunknown => ?_⟩
  · rw [computeCost_toolCost, Option.getD_some, hnone]
    rfl
  · have htotal : (computeCost usage pricing (some ⟨calls, none⟩) infrastructureCost).totalCost
        = none := by
      refine Option.not_isSome_iff_eq_none.mp fun htotal => ?_
      obtain ⟨husable, hcomplete⟩ := (totalCost_isSome_iff _ _ _ _).mp htotal
      rcases hunknown with h | h
      · exact Bool.false_ne_true (h.symm.trans husable)
      · exact Bool.false_ne_true (h.symm.trans hcomplete)
    exact ⟨htotal, (provenance_unavailable_iff _ _ _ _).mpr htotal⟩

/-- Five calls of tools without a price leave a total, and an ACTUAL one. -/
theorem unpriced_tools_in_actual_total :
    ¬ ∀ usage pricing calls infrastructureCost, 0 < calls →
      (computeCost usage pricing (some ⟨calls, none⟩) infrastructureCost).totalCost = none
        ∧ (computeCost usage pricing (some ⟨calls, none⟩) infrastructureCost).provenance
          ≠ .Actual := by
  intro h
  have hlost := h ⟨some 1000, some 500, .ProviderReported⟩
    ⟨some 1, some 2, some "per_1m_tokens", "USD"⟩ 5 none (by decide)
  exact absurd hlost.2 (by decide +kernel)

end CostEngine

end CostPlatform
