import CostPlatform.Cost.Totals
import Mathlib.Algebra.Order.Archimedean.Basic

/-!
# Which pricing is cheaper

Two pricings quoted in different units are compared by what they charge for a token.  One dominates
another when it never costs more, whatever is used, and sometimes less.  Although totals are rounded
before they are compared, that is the order of the rates per token (`dominates_iff`): a difference
in a rate shows once enough tokens are used.
-/

namespace CostPlatform

namespace CostEngine

/-! ## Rounding -/

/-- The rounded value is the integer below or the one after. -/
lemma roundHalfEven_mem (x : ℚ) : roundHalfEven x = ⌊x⌋ ∨ roundHalfEven x = ⌊x⌋ + 1 := by
  unfold roundHalfEven
  dsimp only
  split_ifs <;> simp

theorem roundHalfEven_mono {x y : ℚ} (h : x ≤ y) : roundHalfEven x ≤ roundHalfEven y := by
  have hfloor := Int.floor_le_floor h
  rcases lt_or_eq_of_le hfloor with hlt | heq
  · rcases roundHalfEven_mem x with hx | hx <;> rcases roundHalfEven_mem y with hy | hy <;> omega
  · -- between the same two integers, what is nearer to the upper one stays so
    have hxrest : x - (⌊x⌋ : ℚ) ≤ y - (⌊y⌋ : ℚ) := by
      rw [heq]
      linarith
    unfold roundHalfEven
    dsimp only
    rw [heq] at hxrest ⊢
    split_ifs <;> first | omega | (exfalso; linarith)

lemma quantize_mono {x y : ℚ} (h : x ≤ y) : quantize x ≤ quantize y := by
  have hscaled : x * 10 ^ 10 ≤ y * 10 ^ 10 := mul_le_mul_of_nonneg_right h (by norm_num)
  have hround : ((roundHalfEven (x * 10 ^ 10) : ℤ) : ℚ) ≤ roundHalfEven (y * 10 ^ 10) := by
    exact_mod_cast roundHalfEven_mono hscaled
  exact div_le_div_of_nonneg_right hround (by norm_num)

/-- A difference of one survives the rounding. -/
lemma quantize_lt {x y : ℚ} (h : x + 1 ≤ y) : quantize x < quantize y := by
  have hx := (roundHalfEven_near (x * 10 ^ 10)).2
  have hy := (roundHalfEven_near (y * 10 ^ 10)).1
  have hgap : x * 10 ^ 10 + 1 / 2 < y * 10 ^ 10 - 1 / 2 := by linarith
  have hround : ((roundHalfEven (x * 10 ^ 10) : ℤ) : ℚ) < roundHalfEven (y * 10 ^ 10) :=
    hx.trans_lt (hgap.trans_le hy)
  exact div_lt_div_of_pos_right hround (by norm_num)

/-! ## Rates per token -/

/-- What usable pricing charges for an input token and for an output token. -/
def ratesPerToken (pricing : ModelPricing) : Option (ℚ × ℚ) :=
  match pricing.inputCost, pricing.outputCost, pricing.unit with
  | some input, some output, some unit =>
      some (input / tokensPerUnit unit, output / tokensPerUnit unit)
  | _, _, _ => none

lemma tokensPerUnit_pos (unit : CostUnit) : 0 < tokensPerUnit unit := by
  cases unit <;> norm_num [tokensPerUnit]

/-- A pricing quotes its rates per token, times the tokens of its unit. -/
lemma ratesPerToken_eq_some_iff {pricing : ModelPricing} {rates : ℚ × ℚ} :
    ratesPerToken pricing = some rates
      ↔ ∃ unit, pricing.unit = some unit
        ∧ pricing.inputCost = some (rates.1 * tokensPerUnit unit)
        ∧ pricing.outputCost = some (rates.2 * tokensPerUnit unit) := by
  obtain ⟨inputRate, outputRate⟩ := rates
  rw [ratesPerToken]
  cases pricing.inputCost with
  | none => simp
  | some input =>
      cases pricing.outputCost with
      | none => simp
      | some output =>
          cases pricing.unit with
          | none => simp
          | some unit =>
              have htokens := (tokensPerUnit_pos unit).ne'
              simp only [Option.some.injEq, Prod.mk.injEq, exists_eq_left', div_eq_iff htokens]

lemma ratesPerToken_isSome (pricing : ModelPricing) :
    (ratesPerToken pricing).isSome = pricing.isUsable := by
  rw [ratesPerToken, ModelPricing.isUsable]
  cases pricing.inputCost <;> cases pricing.outputCost <;> cases pricing.unit <;> rfl

/-- What the model alone costs, rounded: the total of an execution without tools or allocation. -/
lemma totalCost_eq {pricing : ModelPricing} {rates : ℚ × ℚ}
    (hrates : ratesPerToken pricing = some rates) (usage : TokenUsage) (total : ℚ) :
    (computeCost usage pricing none none).totalCost = some total
      ↔ ∃ tokensIn tokensOut, usage.inputTokens = some tokensIn
        ∧ usage.outputTokens = some tokensOut
        ∧ total = quantize (tokensIn * rates.1 + tokensOut * rates.2) := by
  have husable : pricing.isUsable = true := by
    rw [← ratesPerToken_isSome, hrates]
    rfl
  obtain ⟨unit, hunit, hinput, houtput⟩ := ratesPerToken_eq_some_iff.mp hrates
  rcases computeCost_cases usage pricing none none with
    ⟨tokensIn, tokensOut, _, _, _, htokensIn, htokensOut, hinput', houtput', hunit', htotal, -⟩
    | ⟨htotal, -⟩
  · cases hinput.symm.trans hinput'
    cases houtput.symm.trans houtput'
    cases hunit.symm.trans hunit'
    have hexact : modelCost unit tokensIn tokensOut (rates.1 * tokensPerUnit unit)
        (rates.2 * tokensPerUnit unit) + pricedToolCost none + (none : Option ℚ).getD 0
          = tokensIn * rates.1 + tokensOut * rates.2 := by
      have htokens := (tokensPerUnit_pos unit).ne'
      simp only [modelCost, pricedToolCost, Option.getD_none]
      field_simp
      ring
    rw [htotal, hexact, htokensIn, htokensOut]
    simp only [Option.some.injEq]
    constructor
    · rintro rfl
      exact ⟨tokensIn, tokensOut, rfl, rfl, rfl⟩
    · rintro ⟨_, _, rfl, rfl, rfl⟩
      rfl
  · rw [htotal]
    refine iff_of_false (by simp) ?_
    rintro ⟨tokensIn, tokensOut, htokensIn, htokensOut, -⟩
    have hsome := (totalCost_isSome_iff usage pricing none none).mpr
      ⟨husable, by rw [TokenUsage.isComplete, htokensIn, htokensOut]; rfl⟩
    rw [htotal] at hsome
    cases hsome

/-! ## Dominance -/

/-- Token counts that are known are not negative. -/
def TokenUsage.Counted (usage : TokenUsage) : Prop :=
  (∀ tokens ∈ usage.inputTokens, 0 ≤ tokens) ∧ ∀ tokens ∈ usage.outputTokens, 0 ≤ tokens

/-- **Dominance**: for every usage the total is at most the other one, and for some it is less. -/
def Dominates (pricing other : ModelPricing) : Prop :=
  (∀ usage : TokenUsage, usage.Counted →
      ∀ total ∈ (computeCost usage pricing none none).totalCost,
        ∀ total' ∈ (computeCost usage other none none).totalCost, total ≤ total')
    ∧ ∃ usage : TokenUsage, usage.Counted ∧
      ∃ total ∈ (computeCost usage pricing none none).totalCost,
        ∃ total' ∈ (computeCost usage other none none).totalCost, total < total'

/-- As many input and output tokens. -/
def usageOf (tokensIn tokensOut : ℕ) : TokenUsage := ⟨some tokensIn, some tokensOut, .Estimated⟩

lemma counted_usageOf (tokensIn tokensOut : ℕ) : (usageOf tokensIn tokensOut).Counted := by
  constructor
  · intro tokens htokens
    cases htokens
    exact Int.natCast_nonneg tokensIn
  · intro tokens htokens
    cases htokens
    exact Int.natCast_nonneg tokensOut

section Rates

variable {pricing other : ModelPricing} {rates rates' : ℚ × ℚ}
  (hrates : ratesPerToken pricing = some rates) (hrates' : ratesPerToken other = some rates')

include hrates in
lemma totalCost_usageOf (tokensIn tokensOut : ℕ) :
    (computeCost (usageOf tokensIn tokensOut) pricing none none).totalCost
      = some (quantize (tokensIn * rates.1 + tokensOut * rates.2)) := by
  refine (totalCost_eq hrates _ _).mpr ⟨tokensIn, tokensOut, rfl, rfl, ?_⟩
  push_cast
  rfl

/-- A higher rate costs more once enough tokens are used. -/
lemma exists_tokens {low high : ℚ} (h : low < high) :
    ∃ tokens : ℕ, tokens * low + 1 ≤ tokens * high := by
  obtain ⟨tokens, htokens⟩ := exists_nat_gt (1 / (high - low))
  refine ⟨tokens, ?_⟩
  have hpositive : 0 < high - low := by linarith
  have hmul := (div_lt_iff₀ hpositive).mp htokens
  linarith

include hrates hrates' in
/-- What never costs more has no higher rate. -/
lemma rates_le_of_totals_le
    (h : ∀ tokensIn tokensOut : ℕ,
      ∀ total ∈ (computeCost (usageOf tokensIn tokensOut) pricing none none).totalCost,
        ∀ total' ∈ (computeCost (usageOf tokensIn tokensOut) other none none).totalCost,
          total ≤ total') :
    rates ≤ rates' := by
  have hle : ∀ tokensIn tokensOut : ℕ,
      quantize (tokensIn * rates.1 + tokensOut * rates.2)
        ≤ quantize (tokensIn * rates'.1 + tokensOut * rates'.2) := fun tokensIn tokensOut =>
    h tokensIn tokensOut _ (totalCost_usageOf hrates _ _) _ (totalCost_usageOf hrates' _ _)
  constructor
  · by_contra hgt
    obtain ⟨tokens, htokens⟩ := exists_tokens (lt_of_not_ge hgt)
    refine absurd (hle tokens 0) (not_le.mpr (quantize_lt ?_))
    simpa using htokens
  · by_contra hgt
    obtain ⟨tokens, htokens⟩ := exists_tokens (lt_of_not_ge hgt)
    refine absurd (hle 0 tokens) (not_le.mpr (quantize_lt ?_))
    simpa using htokens

include hrates hrates' in
/-- **Dominance is the order of the rates per token**: neither is higher, and one is lower. -/
theorem dominates_iff : Dominates pricing other ↔ rates < rates' := by
  constructor
  · rintro ⟨hnever, usage, -, total, htotal, total', htotal', hless⟩
    have hle : rates ≤ rates' := rates_le_of_totals_le hrates hrates' fun tokensIn tokensOut =>
      hnever _ (counted_usageOf tokensIn tokensOut)
    refine lt_of_le_of_ne hle fun hsame => ?_
    obtain ⟨tokensIn, tokensOut, hin, hout, rfl⟩ := (totalCost_eq hrates _ _).mp htotal
    obtain ⟨_, _, hin', hout', rfl⟩ := (totalCost_eq hrates' _ _).mp htotal'
    cases hin.symm.trans hin'
    cases hout.symm.trans hout'
    rw [hsame] at hless
    exact lt_irrefl _ hless
  · intro hlt
    constructor
    · intro usage hcounted total htotal total' htotal'
      obtain ⟨tokensIn, tokensOut, hin, hout, rfl⟩ := (totalCost_eq hrates _ _).mp htotal
      obtain ⟨_, _, hin', hout', rfl⟩ := (totalCost_eq hrates' _ _).mp htotal'
      cases hin.symm.trans hin'
      cases hout.symm.trans hout'
      have hinNonneg : (0 : ℚ) ≤ tokensIn := by exact_mod_cast hcounted.1 tokensIn hin
      have houtNonneg : (0 : ℚ) ≤ tokensOut := by exact_mod_cast hcounted.2 tokensOut hout
      exact quantize_mono (add_le_add (mul_le_mul_of_nonneg_left hlt.le.1 hinNonneg)
        (mul_le_mul_of_nonneg_left hlt.le.2 houtNonneg))
    · have hless : ∃ tokensIn tokensOut : ℕ,
          tokensIn * rates.1 + tokensOut * rates.2 + 1
            ≤ tokensIn * rates'.1 + tokensOut * rates'.2 := by
        rcases Prod.lt_iff.mp hlt with ⟨hinput, -⟩ | ⟨-, houtput⟩
        · obtain ⟨tokens, htokens⟩ := exists_tokens hinput
          exact ⟨tokens, 0, by simpa using htokens⟩
        · obtain ⟨tokens, htokens⟩ := exists_tokens houtput
          exact ⟨0, tokens, by simpa using htokens⟩
      obtain ⟨tokensIn, tokensOut, htokens⟩ := hless
      exact ⟨usageOf tokensIn tokensOut, counted_usageOf _ _, _, totalCost_usageOf hrates _ _, _,
        totalCost_usageOf hrates' _ _, quantize_lt htokens⟩

end Rates

end CostEngine

end CostPlatform
