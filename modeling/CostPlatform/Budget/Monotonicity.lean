import CostPlatform.Budget.Composition
import Mathlib.Order.Monotone.Basic
import Mathlib.Tactic.Linarith

/-!
# Monotonicity of a single limit

More spend or a costlier request should never loosen the outcome of a limit.  Two rules decide
that outcome: the policy's outcome for the state the spend is in, and the approval a projected
breach asks for, which replaces the first one while the budget is not exceeded.

`never_loosens_iff` says when the two fit together: approval must be at least as severe as what
the policy says just below the limit, and no more severe than what it says at the limit.
-/

namespace CostPlatform

/-! ## States by fullness -/

def BudgetState.index : BudgetState → Nat
  | .Normal => 0
  | .Warning => 1
  | .Critical => 2
  | .Exceeded => 3

lemma BudgetState.index_injective : Function.Injective BudgetState.index := by
  intro a b h
  cases a <;> cases b <;> first | rfl | cases h

/-- States, the emptiest first. -/
instance : LinearOrder BudgetState :=
  LinearOrder.lift' BudgetState.index BudgetState.index_injective

lemma BudgetState.le_iff {a b : BudgetState} : a ≤ b ↔ a.index ≤ b.index := Iff.rfl

lemma percent_mono {consumed consumed' amount : ℚ} (hamount : 0 < amount)
    (h : consumed ≤ consumed') : percent consumed amount ≤ percent consumed' amount := by
  rw [percent, percent, if_neg (not_le.mpr hamount), if_neg (not_le.mpr hamount)]
  exact mul_le_mul_of_nonneg_right (div_le_div_of_nonneg_right h hamount.le) (by decide)

/-- Any share of an amount can be spent. -/
lemma percent_share {amount : ℚ} (hamount : 0 < amount) (share : ℚ) :
    percent (share / 100 * amount) amount = share := by
  rw [percent, if_neg (not_le.mpr hamount), mul_div_assoc, div_self hamount.ne', mul_one,
    div_mul_cancel₀ share (by decide)]

/-- Spending more never empties a budget. -/
lemma classifyState_mono {consumed consumed' : ℚ} (warning critical : ℚ)
    (h : consumed ≤ consumed') :
    classifyState consumed warning critical ≤ classifyState consumed' warning critical := by
  rw [BudgetState.le_iff]
  simp only [classifyState]
  split_ifs <;> first | decide | exact absurd h (by linarith)

/-! ## The rule -/

/-- The limit with other spend against it. -/
def BudgetLimit.withConsumed (limit : BudgetLimit) (actual estimated : ℚ) : BudgetLimit :=
  { limit with consumedActualCost := actual, consumedEstimatedCost := estimated }

/-- The state of a budget that is all but spent. -/
def BudgetLimit.stateBelowFull (limit : BudgetLimit) : BudgetState :=
  if limit.criticalThresholdPercent < 100 then .Critical
  else if limit.warningThresholdPercent < 100 then .Warning
  else .Normal

namespace BudgetPolicy

variable (policy : BudgetPolicy) (limit : BudgetLimit)

/-- More spend, or a costlier request, never changes the outcome to a less severe one. -/
def NeverLoosens : Prop :=
  ∀ actual estimated actual' estimated' cost cost' : ℚ,
    0 ≤ actual → 0 ≤ estimated → 0 ≤ actual' → 0 ≤ estimated' → 0 ≤ cost →
    actual + estimated ≤ actual' + estimated' → cost ≤ cost' →
    (policy.evaluateLimit (limit.withConsumed actual estimated) cost).outcome
      ≤ (policy.evaluateLimit (limit.withConsumed actual' estimated') cost').outcome

/-- If a projected breach asks for approval, that is no less severe than the policy's outcome just
    below the limit and no more severe than its outcome at the limit. -/
def ApprovalFits : Prop :=
  policy.requireApprovalOnProjectedBreach = true →
    policy.outcomeFor limit.stateBelowFull ≤ .RequireApproval
      ∧ .RequireApproval ≤ policy.outcomeFor .Exceeded

/-! ## The outcome as a function of two percentages -/

/-- The outcome of an evaluable limit that is `consumed` percent full, for a request that would
    fill it to `projected` percent. -/
def outcomeAt (consumed projected : ℚ) : PolicyOutcome :=
  if policy.requireApprovalOnProjectedBreach = true ∧ consumed < 100 ∧ 100 ≤ projected then
    .RequireApproval
  else policy.outcomeFor (classifyState consumed limit.warningThresholdPercent
    limit.criticalThresholdPercent)

variable {policy limit}

lemma classifyState_exceeded_iff (consumed warning critical : ℚ) :
    classifyState consumed warning critical = .Exceeded ↔ 100 ≤ consumed := by
  simp only [classifyState]
  split_ifs <;> simp_all

lemma evaluateLimit_outcome (hevaluable : limit.unevaluableReason = none)
    (actual estimated cost : ℚ) :
    (policy.evaluateLimit (limit.withConsumed actual estimated) cost).outcome
      = policy.outcomeAt limit (percent (actual + estimated) limit.amount)
          (percent (actual + estimated + cost) limit.amount) := by
  simp only [evaluateLimit, BudgetLimit.withConsumed, BudgetLimit.consumedTotal, hevaluable,
    outcomeAt, ne_eq, classifyState_exceeded_iff, not_le]
  split_ifs
  · rfl
  · rfl

/-- Below the limit no state is fuller than the one just below it. -/
lemma classifyState_le_stateBelowFull {consumed : ℚ} (h : consumed < 100) :
    classifyState consumed limit.warningThresholdPercent limit.criticalThresholdPercent
      ≤ limit.stateBelowFull := by
  rw [BudgetState.le_iff]
  simp only [classifyState, BudgetLimit.stateBelowFull]
  split_ifs <;> first | decide | exact absurd h (by linarith)

/-- Some share below the limit is in that state. -/
lemma exists_stateBelowFull : ∃ share : ℚ, 0 ≤ share ∧ share < 100
    ∧ classifyState share limit.warningThresholdPercent limit.criticalThresholdPercent
      = limit.stateBelowFull := by
  simp only [classifyState, BudgetLimit.stateBelowFull]
  split_ifs with hcritical hwarning
  · refine ⟨max 0 limit.criticalThresholdPercent, le_max_left _ _, max_lt (by decide) hcritical, ?_⟩
    rw [if_neg (not_le.mpr (max_lt (by decide) hcritical)), if_pos (le_max_right _ _)]
  · have hshare : max 0 limit.warningThresholdPercent < 100 := max_lt (by decide) hwarning
    refine ⟨max 0 limit.warningThresholdPercent, le_max_left _ _, hshare, ?_⟩
    rw [if_neg (not_le.mpr hshare), if_neg (by linarith), if_pos (le_max_right _ _)]
  · refine ⟨0, le_rfl, by decide, ?_⟩
    rw [if_neg (by decide), if_neg (by linarith), if_neg (by linarith)]

/-- **More of either percentage never loosens the outcome**, where approval fits. -/
lemma outcomeAt_mono (hmonotone : Monotone policy.outcomeFor) (hfits : policy.ApprovalFits limit)
    {consumed projected consumed' projected' : ℚ} (hconsumed : consumed ≤ consumed')
    (hprojected : projected ≤ projected') :
    policy.outcomeAt limit consumed projected ≤ policy.outcomeAt limit consumed' projected' := by
  have hstates := hmonotone (classifyState_mono limit.warningThresholdPercent
    limit.criticalThresholdPercent hconsumed)
  simp only [outcomeAt]
  by_cases hbreach : policy.requireApprovalOnProjectedBreach = true ∧ consumed < 100
      ∧ 100 ≤ projected
  · rw [if_pos hbreach]
    obtain ⟨hrequire, -, hover⟩ := hbreach
    by_cases hfull : consumed' < 100
    · rw [if_pos ⟨hrequire, hfull, hover.trans hprojected⟩]
    · rw [if_neg fun h => hfull h.2.1,
        (classifyState_exceeded_iff consumed' _ _).mpr (not_lt.mp hfull)]
      exact (hfits hrequire).2
  · rw [if_neg hbreach]
    by_cases hbreach' : policy.requireApprovalOnProjectedBreach = true ∧ consumed' < 100
        ∧ 100 ≤ projected'
    · rw [if_pos hbreach']
      obtain ⟨hrequire, hbelow, -⟩ := hbreach'
      have hstate := @classifyState_le_stateBelowFull limit _ (hconsumed.trans_lt hbelow)
      exact (hmonotone hstate).trans (hfits hrequire).1
    · rw [if_neg hbreach']
      exact hstates

section Loosening

variable (hevaluable : limit.unevaluableReason = none) (hamount : 0 < limit.amount)
  (hnever : policy.NeverLoosens limit) (hrequire : policy.requireApprovalOnProjectedBreach = true)

include hevaluable hamount hnever hrequire

/-- A budget just below its limit, a free request, and one that costs as much as the budget. -/
lemma outcome_below_full_le : policy.outcomeFor limit.stateBelowFull ≤ .RequireApproval := by
  obtain ⟨share, hnonneg, hshare, hstate⟩ := @exists_stateBelowFull limit
  have hspent : 0 ≤ share / 100 * limit.amount :=
    mul_nonneg (div_nonneg hnonneg (by decide)) hamount.le
  have hover : 100 ≤ percent (share / 100 * limit.amount + limit.amount) limit.amount := by
    have h := percent_share hamount (share + 100)
    rw [add_div, div_self (by decide), add_mul, one_mul] at h
    rw [h]
    linarith
  have hall := hnever (share / 100 * limit.amount) 0 (share / 100 * limit.amount) 0 0
    limit.amount hspent le_rfl hspent le_rfl le_rfl le_rfl hamount.le
  simp only [evaluateLimit_outcome hevaluable, add_zero, percent_share hamount, outcomeAt] at hall
  rwa [if_neg fun h => absurd h.2.2 (not_le.mpr hshare), hstate,
    if_pos ⟨hrequire, hshare, hover⟩] at hall

/-- The same costly request on an untouched budget and on a spent one. -/
lemma le_outcome_exceeded : .RequireApproval ≤ policy.outcomeFor .Exceeded := by
  have hempty : percent 0 limit.amount = 0 := by
    have h := percent_share hamount 0
    rwa [zero_div, zero_mul] at h
  have hfull : percent limit.amount limit.amount = 100 := by
    have h := percent_share hamount 100
    rwa [div_self (by decide), one_mul] at h
  have hall := hnever 0 0 limit.amount 0 limit.amount limit.amount le_rfl le_rfl hamount.le
    le_rfl hamount.le (by linarith) le_rfl
  simp only [evaluateLimit_outcome hevaluable, add_zero, zero_add, hempty, hfull, outcomeAt] at hall
  rwa [if_pos ⟨hrequire, by decide, le_rfl⟩, if_neg fun h => absurd h.2.1 (lt_irrefl _),
    (classifyState_exceeded_iff 100 _ _).mpr le_rfl] at hall

end Loosening

/-- **When a limit never loosens.** -/
theorem never_loosens_iff (policy : BudgetPolicy) (limit : BudgetLimit)
    (hmonotone : Monotone policy.outcomeFor) (hevaluable : limit.unevaluableReason = none)
    (hamount : 0 < limit.amount) :
    policy.NeverLoosens limit ↔ policy.ApprovalFits limit := by
  refine ⟨fun hnever hrequire => ⟨?_, ?_⟩, fun hfits => ?_⟩
  · exact outcome_below_full_le hevaluable hamount hnever hrequire
  · exact le_outcome_exceeded hevaluable hamount hnever hrequire
  · intro actual estimated actual' estimated' cost cost' _ _ _ _ _ hspend hcost
    rw [evaluateLimit_outcome hevaluable, evaluateLimit_outcome hevaluable]
    refine outcomeAt_mono hmonotone hfits ?_ ?_
    · exact percent_mono hamount hspend
    · exact percent_mono hamount (add_le_add hspend hcost)

end BudgetPolicy

/-! ## Policies that fit and policies that do not -/

/-- A limit of 100 with the usual thresholds. -/
def hundredLimit : BudgetLimit where
  scope := .Tenant
  scopeId := "t1"
  amount := 100
  currency := "USD"

/-- The default policy never loosens such a limit. -/
theorem default_never_loosens : DEFAULT_BUDGET_POLICY.NeverLoosens hundredLimit := by
  refine (BudgetPolicy.never_loosens_iff DEFAULT_BUDGET_POLICY hundredLimit ?_ rfl
    (by decide)).mpr fun _ => ?_
  · intro a b h
    cases a <;> cases b <;> revert h <;> decide
  · decide

/-- Blocks from the critical threshold on. -/
def strictPolicy : BudgetPolicy where
  outcomeByState
    | .Normal => some .Allow
    | .Warning => some .Downgrade
    | .Critical => some .Block
    | .Exceeded => some .Block

/-- **A costlier request turns a refusal into a question.**  At 96 of 100 spent the strict policy
    blocks a free request and asks for approval of one that costs 10. -/
theorem breach_loosens_block :
    Monotone strictPolicy.outcomeFor
      ∧ (strictPolicy.evaluateLimit (hundredLimit.withConsumed 96 0) 0).outcome = .Block
      ∧ (strictPolicy.evaluateLimit (hundredLimit.withConsumed 96 0) 10).outcome
        = .RequireApproval
      ∧ ¬ strictPolicy.NeverLoosens hundredLimit := by
  have hblock : (strictPolicy.evaluateLimit (hundredLimit.withConsumed 96 0) 0).outcome = .Block :=
    by decide +kernel
  have happroval : (strictPolicy.evaluateLimit (hundredLimit.withConsumed 96 0) 10).outcome
      = .RequireApproval := by
    decide +kernel
  refine ⟨fun a b h => ?_, hblock, happroval, fun hnever => ?_⟩
  · cases a <;> cases b <;> revert h <;> decide
  · have hle := hnever 96 0 96 0 0 10 (by decide) le_rfl (by decide) le_rfl le_rfl le_rfl
      (by decide)
    rw [hblock, happroval] at hle
    exact absurd hle (by decide)

end CostPlatform
