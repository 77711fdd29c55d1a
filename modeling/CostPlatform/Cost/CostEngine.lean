import CostPlatform.Cost.Aggregation
import CostPlatform.Library.PyString
import CostPlatform.Orchestrator.Registry
import Mathlib.Data.Rat.Floor

/-!
# The cost engine

Token usage and configured pricing in, a cost breakdown with an honest provenance label out.
Missing pricing does not become zero: without usable rates and both token counts there is no total
(`totalCost_isSome_iff`), and a total is ACTUAL only if the provider counted the tokens and nothing
estimated went into it (`computeCost_reported`).

Rates, counts and amounts are exact rationals.  Every reported amount is rounded once, to ten
decimals, half to even.
-/

namespace CostPlatform

namespace CostEngine

/-! ## Provenance -/

def provenanceRank : Provenance → Nat
  | .Actual => 2
  | .Estimated => 1
  | .Unavailable => 0

/-- The least trustworthy provenance among the values. -/
def weakest (values : List Provenance) : Provenance :=
  (Ranking.firstBy provenanceRank values).getD .Unavailable

inductive UsageSource where
  | ProviderReported
  | Estimated
  deriving DecidableEq, Repr

/-! ## Pricing units -/

inductive CostUnit where
  | PerToken
  | Per1kTokens
  | Per1mTokens
  deriving DecidableEq, Repr

def CostUnit.value : CostUnit → String
  | .PerToken => "per_token"
  | .Per1kTokens => "per_1k_tokens"
  | .Per1mTokens => "per_1m_tokens"

/-- `CostUnit(value)`. -/
def CostUnit.ofValue (value : String) : Option CostUnit :=
  [CostUnit.PerToken, .Per1kTokens, .Per1mTokens].find? fun unit => unit.value = value

def tokensPerUnit : CostUnit → ℚ
  | .PerToken => 1
  | .Per1kTokens => 1000
  | .Per1mTokens => 1000000

/-- Map a stored unit onto a recognised one.  Case, hyphens and blanks do not matter; an unknown
    unit is not guessed. -/
def parseCostUnit (value : Option String) : Option CostUnit := do
  let value ← PyString.truthy value
  let lowered := PyString.lower (PyString.strip value)
  CostUnit.ofValue (PyString.replace (PyString.replace lowered '-' '_') ' ' '_')

/-! ## Usage, pricing and tools -/

/-- Token counts for one execution; an absent count is not known, which is not zero. -/
structure TokenUsage where
  inputTokens : Option Int := none
  outputTokens : Option Int := none
  source : UsageSource := .Estimated
  deriving DecidableEq, Repr

def TokenUsage.isComplete (usage : TokenUsage) : Bool :=
  usage.inputTokens.isSome && usage.outputTokens.isSome

/-- Configured rates for one model. -/
structure ModelPricing where
  inputCost : Option ℚ
  outputCost : Option ℚ
  costUnit : Option String
  currency : String
  deriving DecidableEq, Repr

def ModelPricing.unit (pricing : ModelPricing) : Option CostUnit := parseCostUnit pricing.costUnit

/-- Both rates present and a recognised unit. -/
def ModelPricing.isUsable (pricing : ModelPricing) : Bool :=
  pricing.inputCost.isSome && pricing.outputCost.isSome && pricing.unit.isSome

def ModelPricing.fromRegistryEntry (entry : ModelRegistryEntry) (currency : String) :
    ModelPricing where
  inputCost := entry.inputCost
  outputCost := entry.outputCost
  costUnit := entry.costUnit
  currency := currency

/-- Tool invocations billed at the registry's estimate. -/
structure ToolUsage where
  calls : Int := 0
  estimatedCostPerCall : Option ℚ := none
  deriving DecidableEq, Repr

def ToolUsage.isPriced (tools : ToolUsage) : Bool :=
  0 < tools.calls && tools.estimatedCostPerCall.isSome

/-! ## The computation -/

/-- The engine's result. -/
structure CostComputation where
  inputCost : Option ℚ
  outputCost : Option ℚ
  toolCost : Option ℚ
  infrastructureCost : Option ℚ
  totalCost : Option ℚ
  currency : String
  provenance : Provenance
  unavailableReason : Option String := none
  deriving DecidableEq, Repr

/-- The value to store as an actual cost. -/
def CostComputation.actualCost (computed : CostComputation) : Option ℚ :=
  if computed.provenance = .Actual then computed.totalCost else none

/-- The value to store as an estimated cost. -/
def CostComputation.estimatedCost (computed : CostComputation) : Option ℚ :=
  if computed.provenance = .Estimated then computed.totalCost else none

/-- The nearest integer, the even one of two. -/
def roundHalfEven (x : ℚ) : ℤ :=
  let below := ⌊x⌋
  let rest := x - below
  if rest < 1 / 2 then below
  else if 1 / 2 < rest then below + 1
  else if below % 2 = 0 then below else below + 1

/-- `COST_QUANTUM` is the tenth decimal. -/
def quantize (value : ℚ) : ℚ := roundHalfEven (value * 10 ^ 10) / 10 ^ 10

lemma roundHalfEven_near (x : ℚ) :
    x - 1 / 2 ≤ roundHalfEven x ∧ (roundHalfEven x : ℚ) ≤ x + 1 / 2 := by
  have hfloor := Int.floor_le x
  have hnext := Int.lt_floor_add_one x
  unfold roundHalfEven
  dsimp only
  split_ifs <;> push_cast <;> constructor <;> linarith

/-- Half of the last place is all that the rounding adds or takes. -/
lemma abs_quantize_sub_le (x : ℚ) : |quantize x - x| ≤ 1 / 2 / 10 ^ 10 := by
  obtain ⟨hbelow, habove⟩ := roundHalfEven_near (x * 10 ^ 10)
  rw [quantize, abs_le]
  constructor <;> linarith

/-- Tokens over tokens per unit, times the rate. -/
def tokenCost (tokens : Option Int) (rate : Option ℚ) (unit : CostUnit) : Option ℚ :=
  match tokens, rate with
  | some tokens, some rate => some (tokens / tokensPerUnit unit * rate)
  | _, _ => none

def toolCost (tools : ToolUsage) : Option ℚ :=
  if tools.isPriced then tools.estimatedCostPerCall.map fun rate => tools.calls * rate else none

/-- Tools and infrastructure are estimates by definition. -/
def resolveProvenance (usageSource : UsageSource) (hasToolCost hasInfrastructure : Bool) :
    Provenance :=
  weakest
    ([if usageSource = .ProviderReported then .Actual else .Estimated]
      ++ (if hasToolCost then [.Estimated] else [])
      ++ (if hasInfrastructure then [.Estimated] else []))

/-- Name the missing piece. -/
def pricingGap (pricing : ModelPricing) : String :=
  if pricing.inputCost.isNone || pricing.outputCost.isNone then "pricing_not_configured"
  else "cost_unit_unrecognised"

/-- Compute the cost of one execution. -/
def computeCost (usage : TokenUsage) (pricing : ModelPricing) (tools : Option ToolUsage)
    (infrastructureCost : Option ℚ) : CostComputation :=
  let toolCost := toolCost (tools.getD {})
  match if pricing.isUsable then pricing.unit else none with
  | none =>
      -- what is known is reported, but there is no total
      { inputCost := none
        outputCost := none
        toolCost := toolCost.map quantize
        infrastructureCost := infrastructureCost.map quantize
        totalCost := none
        currency := pricing.currency
        provenance := .Unavailable
        unavailableReason := some (pricingGap pricing) }
  | some unit =>
      let inputCost := tokenCost usage.inputTokens pricing.inputCost unit
      let outputCost := tokenCost usage.outputTokens pricing.outputCost unit
      match inputCost, outputCost with
      | some input, some output =>
          { inputCost := some (quantize input)
            outputCost := some (quantize output)
            toolCost := toolCost.map quantize
            infrastructureCost := infrastructureCost.map quantize
            totalCost := some (quantize
              (input + output + toolCost.getD 0 + infrastructureCost.getD 0))
            currency := pricing.currency
            provenance :=
              resolveProvenance usage.source toolCost.isSome infrastructureCost.isSome }
      | _, _ =>
          { inputCost := inputCost.map quantize
            outputCost := outputCost.map quantize
            toolCost := toolCost.map quantize
            infrastructureCost := infrastructureCost.map quantize
            totalCost := none
            currency := pricing.currency
            provenance := .Unavailable
            unavailableReason := some "incomplete_token_usage" }

/-! ## What a total means -/

lemma isUsable_iff (pricing : ModelPricing) :
    pricing.isUsable = true
      ↔ ∃ inputRate outputRate unit, pricing.inputCost = some inputRate
        ∧ pricing.outputCost = some outputRate ∧ pricing.unit = some unit := by
  simp [ModelPricing.isUsable, Option.isSome_iff_exists, and_assoc]

/-- **A total is there exactly when the rates are usable and both counts are known.** -/
theorem totalCost_isSome_iff (usage : TokenUsage) (pricing : ModelPricing)
    (tools : Option ToolUsage) (infrastructureCost : Option ℚ) :
    (computeCost usage pricing tools infrastructureCost).totalCost.isSome = true
      ↔ pricing.isUsable = true ∧ usage.isComplete = true := by
  by_cases husable : pricing.isUsable = true
  · obtain ⟨inputRate, outputRate, unit, hinput, houtput, hunit⟩ :=
      (isUsable_iff pricing).mp husable
    cases htokensIn : usage.inputTokens with
    | none => simp [computeCost, husable, hunit, tokenCost, htokensIn, TokenUsage.isComplete]
    | some tokensIn =>
        cases htokensOut : usage.outputTokens with
        | none =>
            simp [computeCost, husable, hunit, tokenCost, htokensOut, TokenUsage.isComplete]
        | some tokensOut =>
            simp [computeCost, husable, hunit, tokenCost, hinput, houtput, htokensIn, htokensOut,
              TokenUsage.isComplete]
  · simp [computeCost, husable]

/-- **Provider-reported usage at usable rates costs an actual amount**, rounded once. -/
theorem computeCost_reported (tokensIn tokensOut : Int) {pricing : ModelPricing}
    (husable : pricing.isUsable = true) :
    ∃ inputRate outputRate unit, pricing.inputCost = some inputRate
      ∧ pricing.outputCost = some outputRate ∧ pricing.unit = some unit
      ∧ ∃ computed,
        computed = computeCost ⟨some tokensIn, some tokensOut, .ProviderReported⟩ pricing none none
          ∧ computed.provenance = .Actual
          ∧ computed.totalCost = some (quantize (tokensIn / tokensPerUnit unit * inputRate
              + tokensOut / tokensPerUnit unit * outputRate)) := by
  obtain ⟨inputRate, outputRate, unit, hinput, houtput, hunit⟩ := (isUsable_iff pricing).mp husable
  refine ⟨inputRate, outputRate, unit, hinput, houtput, hunit, _, rfl, ?_, ?_⟩
  · simp only [computeCost, husable, hunit, hinput, houtput, tokenCost, if_true]
    rfl
  · simp [computeCost, husable, hunit, hinput, houtput, tokenCost, toolCost, ToolUsage.isPriced]

end CostEngine

end CostPlatform
