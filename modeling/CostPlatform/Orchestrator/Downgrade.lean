import CostPlatform.Cost.Dominance
import CostPlatform.Orchestrator.Execute

/-!
# What a downgrade picks

Under budget pressure the candidates are sorted by their input rate as it stands in the registry.
What a model costs depends on two rates and on the unit they are quoted in, so the first of that
order need not be the cheapest, and may cost more than another candidate whatever is used.

`downgrade_undominated_iff` says when it does not: exactly when every candidate that another one
dominates per token comes behind some candidate in the sort.
-/

namespace CostPlatform

open CostEngine

namespace Collaborators

variable (currency : String)

/-- The pricing a candidate is charged at. -/
def pricingOf (entry : ModelRegistryEntry) : ModelPricing :=
  .fromRegistryEntry entry currency

/-- **Nothing dominates what is selected.** -/
def Undominated (found : List ModelRegistryEntry) (selected : Option ModelRegistryEntry) : Prop :=
  ∀ entry ∈ selected, ∀ other ∈ found,
    ¬ Dominates (pricingOf currency other) (pricingOf currency entry)

/-- Per token, a candidate is charged less than another for one kind and no more for the other. -/
def CheaperPerToken (entry other : ModelRegistryEntry) : Prop :=
  ∃ rates ∈ ratesPerToken (pricingOf currency entry),
    ∃ rates' ∈ ratesPerToken (pricingOf currency other), rates < rates'

/-- Every candidate that another is cheaper than per token comes behind some candidate in the sort,
    which keeps candidates of equal keys in the order they came in. -/
def DominatedComeLater (found : List ModelRegistryEntry) : Prop :=
  ∀ before entry after, found = before ++ entry :: after →
    (∃ other ∈ found, CheaperPerToken currency other entry) →
      (∃ b ∈ before, cheapestKey b ≤ cheapestKey entry)
        ∨ ∃ b ∈ after, cheapestKey b < cheapestKey entry

variable {currency}

/-- A candidate at usable rates dominates another exactly when it is cheaper per token. -/
lemma dominates_iff_cheaperPerToken {entry other : ModelRegistryEntry}
    (hentry : (pricingOf currency entry).isUsable = true)
    (hother : (pricingOf currency other).isUsable = true) :
    Dominates (pricingOf currency entry) (pricingOf currency other)
      ↔ CheaperPerToken currency entry other := by
  rw [← ratesPerToken_isSome] at hentry hother
  obtain ⟨rates, hrates⟩ := Option.isSome_iff_exists.mp hentry
  obtain ⟨rates', hrates'⟩ := Option.isSome_iff_exists.mp hother
  rw [dominates_iff hrates hrates', CheaperPerToken, hrates, hrates']
  simp

/-- **The cheapest by the sort is dominated exactly where the sort puts a dominated one first.** -/
theorem undominated_iff {found : List ModelRegistryEntry}
    (husable : ∀ entry ∈ found, (pricingOf currency entry).isUsable = true) :
    Undominated currency found (selectModel found true) ↔ DominatedComeLater currency found := by
  constructor
  · intro h before entry after hsplit ⟨other, hother, hcheaper⟩
    have hentry : entry ∈ found := by
      rw [hsplit]
      simp
    by_contra hfirst
    obtain ⟨hbefore, hafter⟩ := not_or.mp hfirst
    have hselected : selectModel found true = some entry := by
      refine Ranking.firstBy_eq_some_iff.mpr ⟨before, after, hsplit, fun b hb => ?_, fun b hb => ?_⟩
      · exact lt_of_not_ge fun hle => hbefore ⟨b, hb, hle⟩
      · exact le_of_not_gt fun hlt => hafter ⟨b, hb, hlt⟩
    exact h entry hselected other hother
      ((dominates_iff_cheaperPerToken (husable other hother) (husable entry hentry)).mpr hcheaper)
  · intro h entry hselected other hother hdominates
    obtain ⟨before, after, hsplit, hbefore, hafter⟩ :=
      Ranking.firstBy_eq_some_iff.mp (show Ranking.firstBy cheapestKey found = some entry from
        hselected)
    have hcheaper := (dominates_iff_cheaperPerToken (husable other hother)
      (husable entry (selectModel_mem hselected))).mp hdominates
    rcases h before entry after hsplit ⟨other, hother, hcheaper⟩ with ⟨b, hb, hle⟩ | ⟨b, hb, hlt⟩
    · exact absurd (hbefore b hb) (not_lt.mpr hle)
    · exact absurd (hafter b hb) (not_le.mpr hlt)

lemma inputRate_of_mem {entry : ModelRegistryEntry} {unit : CostUnit} {rates : ℚ × ℚ}
    (hunit : parseCostUnit entry.costUnit = some unit)
    (hrates : rates ∈ ratesPerToken (pricingOf currency entry)) :
    entry.inputCost = some (rates.1 * tokensPerUnit unit) := by
  obtain ⟨quoted, hquoted, hinput, -⟩ := CostEngine.ratesPerToken_eq_some_iff.mp hrates
  have hsame : (pricingOf currency entry).unit = some unit := hunit
  cases hsame.symm.trans hquoted
  exact hinput

/-- **Candidates quoted in one unit, at input rates of their own**, are in the order of their
    dominance. -/
theorem dominatedComeLater_of_one_unit {found : List ModelRegistryEntry} {unit : CostUnit}
    (hunit : ∀ entry ∈ found, parseCostUnit entry.costUnit = some unit)
    (hdistinct : ∀ entry ∈ found, ∀ other ∈ found, entry.inputCost = other.inputCost →
      entry = other) :
    DominatedComeLater currency found := by
  rintro before entry after hsplit ⟨other, hother, rates, hrates, rates', hrates', hlt⟩
  have hentry : entry ∈ found := by
    rw [hsplit]
    simp
  have hinput := inputRate_of_mem (hunit other hother) hrates
  have hinput' := inputRate_of_mem (hunit entry hentry) hrates'
  have hpositive := CostEngine.tokensPerUnit_pos unit
  have hless : cheapestKey other < cheapestKey entry := by
    rcases lt_or_eq_of_le (mul_le_mul_of_nonneg_right hlt.le.1 hpositive.le) with hcost | hcost
    · refine Prod.Lex.toLex_lt_toLex.mpr (Or.inl ?_)
      rw [costKey, costKey, hinput, hinput']
      exact Prod.Lex.toLex_lt_toLex.mpr (Or.inr ⟨rfl, WithTop.coe_lt_coe.mpr hcost⟩)
    · rw [hcost, ← hinput'] at hinput
      cases hdistinct other hother entry hentry hinput
      cases Option.mem_unique hrates hrates'
      exact absurd hlt (lt_irrefl _)
  rw [hsplit] at hother
  rcases List.mem_append.mp hother with hbefore | hafter
  · exact Or.inl ⟨other, hbefore, hless.le⟩
  · rcases List.mem_cons.mp hafter with rfl | hafter
    · exact absurd hless (lt_irrefl _)
    · exact Or.inr ⟨other, hafter, hless⟩

/-! ## The plan under a downgrade -/

variable {c : Collaborators} {request : OrchestrationRequest} {principal : Principal}
  {decision : BudgetDecision} {found : List ModelRegistryEntry}

/-- **A downgrade never picks a dominated model**: what the plan selects from the candidates is
    dominated by none of them. -/
def DowngradeUndominated (c : Collaborators) (request : OrchestrationRequest)
    (principal : Principal) (requestId traceId currency : String)
    (found : List ModelRegistryEntry) : Prop :=
  ∃ plan selected, c.plan request principal requestId traceId = .ok plan
    ∧ selected = selectModel found true
    ∧ plan.selectedModelId = selected.map ModelRegistryEntry.id
    ∧ plan.selectedModelName = selected.map ModelRegistryEntry.modelName
    ∧ Undominated currency found selected

/-- **When a downgrade picks no dominated model, exactly.** -/
theorem downgrade_undominated_iff (requestId traceId : String)
    (hdecision : c.checkBudget request principal = .ok decision)
    (hdowngrade : decision.outcome = .Downgrade)
    (hfound : c.candidates request (c.policyFor request principal) = .ok found)
    (husable : ∀ entry ∈ found, (pricingOf currency entry).isUsable = true) :
    c.DowngradeUndominated request principal requestId traceId currency found
      ↔ DominatedComeLater currency found := by
  have hblock : decision.outcome ≠ .Block := by
    rw [hdowngrade]
    exact nofun
  have hplan := c.plan_eq_routedPlan requestId traceId hdecision hblock hfound
  have hcheapest : decide ((c.basePlan request principal requestId traceId decision).budgetStatus
      = .Downgrade) = true := decide_eq_true hdowngrade
  rw [← undominated_iff husable]
  constructor
  · rintro ⟨plan, selected, -, rfl, -, -, hundominated⟩
    exact hundominated
  · intro hundominated
    refine ⟨_, _, hplan, rfl, ?_, ?_, hundominated⟩
    · simp only [routedPlan, hcheapest]
    · simp only [routedPlan, hcheapest]

end Collaborators

/-! ## A small deployment under budget pressure -/

/-- A deployment whose budget asks for a downgrade, with the given candidates. -/
def pressedDeployment (found : List ModelRegistryEntry) : Collaborators :=
  { smallDeployment with
    findForWorkload := fun _ _ _ => .ok found
    evaluateBudget := fun _ => .ok { outcome := .Downgrade, deciding := none, evaluations := [] } }

/-- Three hundred for a million input tokens. -/
def thriftyModel : ModelRegistryEntry where
  id := "m1"
  modelName := "thrifty"
  capability := .Reasoning
  inputCost := some 300
  outputCost := some 600
  costUnit := some "per_1m_tokens"
  maxContextTokensPositive := unknown_pos

/-- Two for a thousand. -/
def costlyModel : ModelRegistryEntry where
  id := "m2"
  modelName := "costly"
  capability := .Reasoning
  inputCost := some 2
  outputCost := some 4
  costUnit := some "per_1k_tokens"
  maxContextTokensPositive := unknown_pos

/-- Four hundred for a million. -/
def plainModel : ModelRegistryEntry where
  id := "m3"
  modelName := "plain"
  capability := .Reasoning
  inputCost := some 400
  outputCost := some 800
  costUnit := some "per_1m_tokens"
  maxContextTokensPositive := unknown_pos

namespace Collaborators

lemma rates_thriftyModel :
    ratesPerToken (pricingOf "USD" thriftyModel) = some (300 / 1000000, 600 / 1000000) := by
  decide +kernel

lemma rates_costlyModel :
    ratesPerToken (pricingOf "USD" costlyModel) = some (2 / 1000, 4 / 1000) := by
  decide +kernel

lemma isUsable_of_rates {entry : ModelRegistryEntry} {rates : ℚ × ℚ}
    (h : ratesPerToken (pricingOf currency entry) = some rates) :
    (pricingOf currency entry).isUsable = true := by
  rw [← ratesPerToken_isSome, h]
  rfl

/-- Where both are quoted in one unit, the cheaper one is picked. -/
theorem downgrade_picks_thrifty :
    (pressedDeployment [plainModel, thriftyModel]).DowngradeUndominated supplyChainRequest engineer
      "r1" "r1" "USD" [plainModel, thriftyModel] := by
  have hmillion : parseCostUnit (some "per_1m_tokens") = some .Per1mTokens := by decide +kernel
  have hinput : plainModel.inputCost ≠ thriftyModel.inputCost := by decide
  have hplain : (pricingOf "USD" plainModel).isUsable = true := by decide +kernel
  have heither : ∀ entry ∈ [plainModel, thriftyModel],
      entry = plainModel ∨ entry = thriftyModel := by simp
  refine (downgrade_undominated_iff "r1" "r1" rfl rfl rfl fun entry hentry => ?_).mpr
    (@dominatedComeLater_of_one_unit _ _ .Per1mTokens (fun entry hentry => ?_) ?_)
  · rcases heither entry hentry with rfl | rfl
    · exact hplain
    · exact isUsable_of_rates rates_thriftyModel
  · rcases heither entry hentry with rfl | rfl
    · exact hmillion
    · exact hmillion
  · intro entry hentry other hother hsame
    rcases heither entry hentry with rfl | rfl <;> rcases heither other hother with rfl | rfl
    · rfl
    · exact absurd hsame hinput
    · exact absurd hsame.symm hinput
    · rfl

/-- **Two for a thousand is picked over three hundred for a million**: it is the smaller number, and
    the thrifty model dominates it. -/
theorem downgrade_picks_costly :
    ¬ (pressedDeployment [costlyModel, thriftyModel]).DowngradeUndominated supplyChainRequest
      engineer "r1" "r1" "USD" [costlyModel, thriftyModel] := by
  rintro ⟨plan, selected, -, hselected, -, -, hundominated⟩
  have hfirst : cheapestKey costlyModel ≤ cheapestKey thriftyModel := by decide +kernel
  have hcostly : selectModel [costlyModel, thriftyModel] true = some costlyModel := by
    rw [selectModel, if_pos rfl, Ranking.firstBy_cons, Ranking.firstBy_cons]
    exact if_pos hfirst
  have hless : ((300 / 1000000, 600 / 1000000) : ℚ × ℚ) < (2 / 1000, 4 / 1000) :=
    Prod.mk_lt_mk.mpr (Or.inl ⟨by norm_num, by norm_num⟩)
  have hcheaper : CheaperPerToken "USD" thriftyModel costlyModel :=
    ⟨_, rates_thriftyModel, _, rates_costlyModel, hless⟩
  refine hundominated costlyModel (hselected.trans hcostly) thriftyModel ?_
    ((dominates_iff_cheaperPerToken ?_ ?_).mpr hcheaper)
  · exact List.mem_cons_of_mem _ (List.mem_singleton_self _)
  · exact isUsable_of_rates rates_thriftyModel
  · exact isUsable_of_rates rates_costlyModel

end Collaborators

end CostPlatform
