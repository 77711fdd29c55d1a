import CostPlatform.Library.Runs
import Mathlib.Algebra.BigOperators.Group.List.Basic
import Mathlib.Algebra.Order.Field.Rat
import Mathlib.Tactic.Linarith
import Mathlib.Tactic.NormNum

/-!
# The allowance of an execution

An execution spends steps, tool calls and tokens from one budget, in any order and as often as it
likes.  A step or a tool call that does not fit is refused and costs nothing; tokens are charged
first and refused afterwards, since they have been spent by then.

`accepts_iff_room` says what is accepted after any spending, `within_limits` what all that is
accepted comes to, and `refused_for_good` that a loop which is refused once is not let on later.
-/

namespace CostPlatform

/-- What an execution is given, as `__post_init__` lets it be. -/
structure ExecutionLimits where
  maxIterations : Int := 25
  maxToolCalls : Int := 10
  maxTotalTokens : Option Int := none
  maxDurationSeconds : ℚ := 300
  startedAt : ℚ
  one_le_maxIterations : 1 ≤ maxIterations := by decide
  maxToolCalls_nonneg : 0 ≤ maxToolCalls := by decide
  one_le_maxTotalTokens : ∀ ceiling ∈ maxTotalTokens, 1 ≤ ceiling := by rintro _ ⟨⟩

/-- A consumable allowance for one execution. -/
structure ExecutionBudget extends ExecutionLimits where
  iterationsUsed : Int := 0
  toolCallsUsed : Int := 0
  tokensUsed : Int := 0

/-- The exceptions, each with its reason and its details. -/
inductive LimitError where
  | IterationLimitExceeded (reason : String) (details : List (String × ℚ))
  | ToolCallLimitExceeded (reason : String) (details : List (String × ℚ))
  | TokenLimitExceeded (reason : String) (details : List (String × ℚ))
  | ValueError (message : String)
  deriving DecidableEq, Repr

/-- One thing that is spent. -/
inductive Spend where
  | Iteration
  | ToolCall (count : Int)
  | Tokens (count : Int)
  deriving DecidableEq, Repr

/-- A call on the budget, and when it is made. -/
structure Spending where
  now : ℚ
  spend : Spend
  deriving DecidableEq, Repr

namespace ExecutionBudget

/-- Nothing is spent yet. -/
def ofLimits (limits : ExecutionLimits) : ExecutionBudget where
  toExecutionLimits := limits

variable (budget : ExecutionBudget)

def isExpired (now : ℚ) : Bool := budget.maxDurationSeconds ≤ now - budget.startedAt

/-- Record one workflow step. -/
def consumeIteration (now : ℚ) : Except LimitError Unit × ExecutionBudget :=
  if budget.isExpired now then
    (.error (.IterationLimitExceeded "duration_exceeded"
      [("max_duration_seconds", budget.maxDurationSeconds)]), budget)
  else if budget.maxIterations ≤ budget.iterationsUsed then
    (.error (.IterationLimitExceeded "max_iterations"
      [("max_iterations", budget.maxIterations)]), budget)
  else
    (.ok (), { budget with iterationsUsed := budget.iterationsUsed + 1 })

/-- Record tool calls, refusing those that would exceed the ceiling. -/
def consumeToolCall (count : Int) : Except LimitError Unit × ExecutionBudget :=
  if count < 0 then
    (.error (.ValueError "count cannot be negative"), budget)
  else if budget.maxToolCalls < budget.toolCallsUsed + count then
    (.error (.ToolCallLimitExceeded "max_tool_calls"
      [("max_tool_calls", budget.maxToolCalls), ("tool_calls_used", budget.toolCallsUsed)]),
      budget)
  else
    (.ok (), { budget with toolCallsUsed := budget.toolCallsUsed + count })

/-- Record token spend against the ceiling, when there is one. -/
def consumeTokens (count : Int) : Except LimitError Unit × ExecutionBudget :=
  if count < 0 then
    (.error (.ValueError "count cannot be negative"), budget)
  else
    -- what is refused here has been charged
    let charged := { budget with tokensUsed := budget.tokensUsed + count }
    match budget.maxTotalTokens with
    | none => (.ok (), charged)
    | some ceiling =>
        if ceiling < charged.tokensUsed then
          (.error (.TokenLimitExceeded "max_total_tokens" [("max_total_tokens", ceiling)]), charged)
        else (.ok (), charged)

def consume (spending : Spending) : Except LimitError Unit × ExecutionBudget :=
  match spending.spend with
  | .Iteration => budget.consumeIteration spending.now
  | .ToolCall count => budget.consumeToolCall count
  | .Tokens count => budget.consumeTokens count

/-! ## Spending -/

def step (spending : Spending) : ExecutionBudget := (budget.consume spending).2

def Accepts (spending : Spending) : Prop := (budget.consume spending).1 = .ok ()

instance (spending : Spending) : Decidable (budget.Accepts spending) :=
  inferInstanceAs (Decidable (_ = _))

def accepted (spending : Spending) : List Spending :=
  if budget.Accepts spending then [spending] else []

/-- The budget after some spending. -/
abbrev after (limits : ExecutionLimits) (spendings : List Spending) : ExecutionBudget :=
  Runs.run step (ofLimits limits) spendings

/-- What of it was accepted. -/
abbrev history (limits : ExecutionLimits) (spendings : List Spending) : List Spending :=
  Runs.emitted step accepted (ofLimits limits) spendings

end ExecutionBudget

namespace Spending

def steps (spending : Spending) : Int :=
  match spending.spend with
  | .Iteration => 1
  | _ => 0

def toolCalls (spending : Spending) : Int :=
  match spending.spend with
  | .ToolCall count => count
  | _ => 0

/-- Tokens that are charged: those of a count that makes sense. -/
def tokens (spending : Spending) : Int :=
  match spending.spend with
  | .Tokens count => max count 0
  | _ => 0

end Spending

/-- What a list of spendings comes to. -/
def total (measure : Spending → Int) (spendings : List Spending) : Int :=
  (spendings.map measure).sum

/-- There is room for a spending after `spendings`, of which `history` was accepted. -/
def Room (limits : ExecutionLimits) (spendings history : List Spending) (spending : Spending) :
    Prop :=
  match spending.spend with
  | .Iteration => spending.now - limits.startedAt < limits.maxDurationSeconds
      ∧ total Spending.steps history < limits.maxIterations
  | .ToolCall count => 0 ≤ count ∧ total Spending.toolCalls history + count ≤ limits.maxToolCalls
  | .Tokens count => 0 ≤ count ∧ ∀ ceiling ∈ limits.maxTotalTokens,
      total Spending.tokens spendings + count ≤ ceiling

/-- All of it stays within the limits. -/
structure WithinLimits (limits : ExecutionLimits) (history : List Spending) : Prop where
  steps : total Spending.steps history ≤ limits.maxIterations
  inTime : ∀ spending ∈ history, spending.spend = .Iteration →
    spending.now - limits.startedAt < limits.maxDurationSeconds
  toolCalls : total Spending.toolCalls history ≤ limits.maxToolCalls
  tokens : ∀ ceiling ∈ limits.maxTotalTokens, total Spending.tokens history ≤ ceiling

lemma total_nil (measure : Spending → Int) : total measure [] = 0 := rfl

lemma total_cons (measure : Spending → Int) (spending : Spending) (spendings : List Spending) :
    total measure (spending :: spendings) = measure spending + total measure spendings := by
  simp [total]

lemma total_append (measure : Spending → Int) (spendings later : List Spending) :
    total measure (spendings ++ later) = total measure spendings + total measure later := by
  simp [total]

lemma Spending.tokens_nonneg (spending : Spending) : 0 ≤ spending.tokens := by
  rw [Spending.tokens]
  split
  · exact le_max_right _ _
  · exact le_refl 0

namespace ExecutionBudget

variable {budget : ExecutionBudget} {limits : ExecutionLimits}

/-! ## What is accepted, and what it changes -/

lemma accepts_iteration {now : ℚ} :
    budget.Accepts ⟨now, .Iteration⟩
      ↔ now - budget.startedAt < budget.maxDurationSeconds
        ∧ budget.iterationsUsed < budget.maxIterations := by
  simp only [Accepts, consume, consumeIteration, isExpired, decide_eq_true_eq]
  split_ifs with hexpired hspent
  · simp [not_lt.mpr hexpired]
  · simp [not_lt.mpr hspent]
  · simp [not_le.mp hexpired, not_le.mp hspent]

lemma accepts_toolCall {now : ℚ} {count : Int} :
    budget.Accepts ⟨now, .ToolCall count⟩
      ↔ 0 ≤ count ∧ budget.toolCallsUsed + count ≤ budget.maxToolCalls := by
  simp only [Accepts, consume, consumeToolCall]
  split_ifs with hnegative hover
  · simp [not_le.mpr hnegative]
  · simp [not_le.mpr hover]
  · simp [not_lt.mp hnegative, not_lt.mp hover]

lemma accepts_tokens {now : ℚ} {count : Int} :
    budget.Accepts ⟨now, .Tokens count⟩
      ↔ 0 ≤ count ∧ ∀ ceiling ∈ budget.maxTotalTokens, budget.tokensUsed + count ≤ ceiling := by
  simp only [Accepts, consume, consumeTokens]
  split_ifs with hnegative
  · simp [not_le.mpr hnegative]
  · cases hceiling : budget.maxTotalTokens with
    | none => simp [not_lt.mp hnegative]
    | some ceiling =>
        dsimp only
        split_ifs with hover
        · simp [not_le.mpr hover]
        · simp [not_lt.mp hnegative, not_lt.mp hover]

/-- A spending moves the counters and nothing else; tokens are charged in any case. -/
lemma step_eq (spending : Spending) :
    budget.step spending =
      { budget with
        iterationsUsed := budget.iterationsUsed + total Spending.steps (budget.accepted spending)
        toolCallsUsed := budget.toolCallsUsed + total Spending.toolCalls (budget.accepted spending)
        tokensUsed := budget.tokensUsed + spending.tokens } := by
  obtain ⟨now, spend⟩ := spending
  cases spend with
  | Iteration =>
      simp only [step, accepted, Accepts, consume, consumeIteration]
      split_ifs <;> simp_all [total, Spending.steps, Spending.toolCalls, Spending.tokens]
  | ToolCall count =>
      simp only [step, accepted, Accepts, consume, consumeToolCall]
      split_ifs <;> simp_all [total, Spending.steps, Spending.toolCalls, Spending.tokens]
  | Tokens count =>
      have hsteps : total Spending.steps (budget.accepted ⟨now, .Tokens count⟩) = 0 := by
        rw [accepted]
        split_ifs <;> simp [total, Spending.steps]
      have htools : total Spending.toolCalls (budget.accepted ⟨now, .Tokens count⟩) = 0 := by
        rw [accepted]
        split_ifs <;> simp [total, Spending.toolCalls]
      rw [hsteps, htools, add_zero, add_zero]
      simp only [step, consume, consumeTokens, Spending.tokens]
      split_ifs with hnegative
      · rw [max_eq_right hnegative.le, add_zero]
      · rw [max_eq_left (not_lt.mp hnegative)]
        cases budget.maxTotalTokens with
        | none => rfl
        | some ceiling =>
            dsimp only
            split_ifs <;> rfl

@[simp] lemma toExecutionLimits_step (spending : Spending) :
    (budget.step spending).toExecutionLimits = budget.toExecutionLimits := by
  rw [step_eq]

/-- **The counters after some spending** are what was accepted, and for tokens what was charged. -/
theorem run_eq (spendings : List Spending) :
    Runs.run step budget spendings =
      { budget with
        iterationsUsed := budget.iterationsUsed
          + total Spending.steps (Runs.emitted step accepted budget spendings)
        toolCallsUsed := budget.toolCallsUsed
          + total Spending.toolCalls (Runs.emitted step accepted budget spendings)
        tokensUsed := budget.tokensUsed + total Spending.tokens spendings } := by
  induction spendings generalizing budget with
  | nil => simp [Runs.emitted, total_nil]
  | cons spending spendings ih =>
      rw [Runs.run_cons, ih, Runs.emitted, total_append, total_append, total_cons]
      simp only [step_eq spending, ← add_assoc]

lemma after_eq (limits : ExecutionLimits) (spendings : List Spending) :
    after limits spendings =
      { toExecutionLimits := limits
        iterationsUsed := total Spending.steps (history limits spendings)
        toolCallsUsed := total Spending.toolCalls (history limits spendings)
        tokensUsed := total Spending.tokens spendings } := by
  rw [after, run_eq]
  simp only [ofLimits, history, zero_add]

/-- **What is accepted, exactly.**  After any spending a step is accepted in time and while steps
    are left, a tool call where it fits on what was accepted, and tokens where they fit on all that
    was charged, the tokens of refused spendings included. -/
theorem accepts_iff_room (limits : ExecutionLimits) (spendings : List Spending)
    (spending : Spending) :
    (after limits spendings).Accepts spending
      ↔ Room limits spendings (history limits spendings) spending := by
  obtain ⟨now, spend⟩ := spending
  rw [after_eq]
  cases spend with
  | Iteration => exact accepts_iteration
  | ToolCall count => exact accepts_toolCall
  | Tokens count => exact accepts_tokens

/-! ## What all that is accepted comes to -/

lemma mem_accepted {spending other : Spending} (h : other ∈ budget.accepted spending) :
    other = spending ∧ budget.Accepts spending := by
  rw [accepted] at h
  split_ifs at h with haccepts
  · exact ⟨List.mem_singleton.mp h, haccepts⟩
  · cases h

/-- No counter that refuses before it counts gets past its limit. -/
lemma counters_within (spending : Spending)
    (h : budget.iterationsUsed ≤ budget.maxIterations
      ∧ budget.toolCallsUsed ≤ budget.maxToolCalls) :
    (budget.step spending).iterationsUsed ≤ (budget.step spending).maxIterations
      ∧ (budget.step spending).toolCallsUsed ≤ (budget.step spending).maxToolCalls := by
  rw [step_eq, accepted]
  split_ifs with haccepts
  · obtain ⟨now, spend⟩ := spending
    cases spend with
    | Iteration =>
        have hsteps := (accepts_iteration.mp haccepts).2
        simpa [total, Spending.steps, Spending.toolCalls] using ⟨by omega, h.2⟩
    | ToolCall count =>
        have hfits := (accepts_toolCall.mp haccepts).2
        simpa [total, Spending.steps, Spending.toolCalls] using ⟨h.1, hfits⟩
    | Tokens count => simpa [total, Spending.steps, Spending.toolCalls] using h
  · simpa [total] using h

/-- The tokens accepted from here on fit on what is used already, or are none. -/
lemma tokens_within {ceiling : Int} (spendings : List Spending)
    (h : ceiling ∈ budget.maxTotalTokens) :
    total Spending.tokens (Runs.emitted step accepted budget spendings) = 0
      ∨ budget.tokensUsed + total Spending.tokens (Runs.emitted step accepted budget spendings)
        ≤ ceiling := by
  induction spendings generalizing budget with
  | nil => exact Or.inl rfl
  | cons spending spendings ih =>
      have hrest := @ih (budget.step spending) (by rwa [toExecutionLimits_step])
      have hused : (budget.step spending).tokensUsed = budget.tokensUsed + spending.tokens := by
        rw [step_eq]
      have hnonneg := spending.tokens_nonneg
      rw [hused] at hrest
      rw [Runs.emitted, total_append]
      rw [accepted]
      split_ifs with haccepts
      · rw [total_cons, total_nil, add_zero]
        have hfits : spending.tokens = 0 ∨ budget.tokensUsed + spending.tokens ≤ ceiling := by
          obtain ⟨now, spend⟩ := spending
          cases spend with
          | Iteration => exact Or.inl rfl
          | ToolCall count => exact Or.inl rfl
          | Tokens count =>
              obtain ⟨hcount, hceiling⟩ := accepts_tokens.mp haccepts
              have htokens : (⟨now, .Tokens count⟩ : Spending).tokens = count := max_eq_left hcount
              rw [htokens]
              exact Or.inr (hceiling ceiling h)
        omega
      · rw [total_nil, zero_add]
        omega

/-- **An execution stays within its limits**, in whatever order and as often as it spends: the steps
    and the tool calls it is granted are no more than the maximum, no step is granted after the
    deadline, and the tokens granted do not exceed the ceiling. -/
theorem within_limits (limits : ExecutionLimits) (spendings : List Spending) :
    WithinLimits limits (history limits spendings) := by
  have hcounters : (after limits spendings).iterationsUsed
        ≤ (after limits spendings).maxIterations
      ∧ (after limits spendings).toolCallsUsed ≤ (after limits spendings).maxToolCalls :=
    Runs.run_invariant
      (I := fun budget : ExecutionBudget => budget.iterationsUsed ≤ budget.maxIterations
        ∧ budget.toolCallsUsed ≤ budget.maxToolCalls)
      (fun _ spending => counters_within spending) spendings
      ⟨le_trans zero_le_one limits.one_le_maxIterations, limits.maxToolCalls_nonneg⟩
  rw [after_eq] at hcounters
  refine ⟨hcounters.1, fun spending hspending hstep => ?_, hcounters.2, fun ceiling hceiling => ?_⟩
  · obtain ⟨pre, asked, post, -, hgranted⟩ := Runs.mem_emitted_iff.mp hspending
    obtain ⟨rfl, haccepts⟩ := mem_accepted hgranted
    have hroom := (accepts_iff_room limits pre spending).mp haccepts
    rw [Room, hstep] at hroom
    exact hroom.1
  · have htokens := @tokens_within (ofLimits limits) ceiling spendings hceiling
    rcases htokens with hnone | hsome
    · exact hnone.le.trans (le_trans zero_le_one (limits.one_le_maxTotalTokens ceiling hceiling))
    · exact (zero_add (total Spending.tokens (history limits spendings))) ▸ hsome

/-! ## Refusals that are final -/

/-- The later spending asks for no less than the earlier one, and is not made before it. -/
def NoLess (earlier later : Spending) : Prop :=
  match earlier.spend, later.spend with
  | .Iteration, .Iteration => earlier.now ≤ later.now
  | .ToolCall count, .ToolCall laterCount => 0 ≤ count ∧ count ≤ laterCount
  | .Tokens count, .Tokens _ => 0 ≤ count
  | _, _ => False

/-- What is used is not given back. -/
lemma used_mono (spendings : List Spending) :
    budget.iterationsUsed ≤ (Runs.run step budget spendings).iterationsUsed
      ∧ budget.toolCallsUsed ≤ (Runs.run step budget spendings).toolCallsUsed
      ∧ budget.tokensUsed ≤ (Runs.run step budget spendings).tokensUsed := by
  refine Runs.run_invariant
    (I := fun later : ExecutionBudget => budget.iterationsUsed ≤ later.iterationsUsed
      ∧ budget.toolCallsUsed ≤ later.toolCallsUsed ∧ budget.tokensUsed ≤ later.tokensUsed)
    (fun later spending h => ?_) spendings ⟨le_refl _, le_refl _, le_refl _⟩
  have hcounts : 0 ≤ total Spending.steps (later.accepted spending)
      ∧ 0 ≤ total Spending.toolCalls (later.accepted spending) := by
    rw [accepted]
    split_ifs with haccepts
    · obtain ⟨now, spend⟩ := spending
      cases spend with
      | Iteration => simp [total, Spending.steps, Spending.toolCalls]
      | ToolCall count =>
          simpa [total, Spending.steps, Spending.toolCalls]
            using (accepts_toolCall.mp haccepts).1
      | Tokens count => simp [total, Spending.steps, Spending.toolCalls]
    · simp [total]
  have htokens := spending.tokens_nonneg
  rw [step_eq]
  exact ⟨by dsimp only; omega, by dsimp only; omega, by dsimp only; omega⟩

/-- What is refused is refused where no less has been used, the refused tokens among it. -/
lemma not_accepts_of_used {budget later : ExecutionBudget} {refused next : Spending}
    (hlimits : later.toExecutionLimits = budget.toExecutionLimits)
    (hiterations : budget.iterationsUsed ≤ later.iterationsUsed)
    (htools : budget.toolCallsUsed ≤ later.toolCallsUsed)
    (htokens : budget.tokensUsed + refused.tokens ≤ later.tokensUsed)
    (hrefused : ¬ budget.Accepts refused) (hnoLess : NoLess refused next) :
    ¬ later.Accepts next := by
  obtain ⟨t, spend⟩ := refused
  obtain ⟨t', spend'⟩ := next
  cases spend with
  | Iteration =>
      cases spend' with
      | Iteration =>
          rw [accepts_iteration, not_and_or, not_lt, not_lt] at hrefused ⊢
          rw [hlimits]
          have hlater : t ≤ t' := hnoLess
          exact hrefused.imp (fun hlate => by linarith) fun hspent => le_trans hspent hiterations
      | _ => cases hnoLess
  | ToolCall count =>
      cases spend' with
      | ToolCall laterCount =>
          obtain ⟨hcount, hmore⟩ : 0 ≤ count ∧ count ≤ laterCount := hnoLess
          rw [accepts_toolCall] at hrefused ⊢
          rw [hlimits]
          rintro ⟨-, hfits⟩
          exact hrefused ⟨hcount, by omega⟩
      | _ => cases hnoLess
  | Tokens count =>
      cases spend' with
      | Tokens laterCount =>
          have hcount : 0 ≤ count := hnoLess
          have hcharged : (⟨t, .Tokens count⟩ : Spending).tokens = count := max_eq_left hcount
          rw [accepts_tokens] at hrefused ⊢
          rw [hlimits]
          rw [hcharged] at htokens
          rintro ⟨hlaterCount, hfits⟩
          refine hrefused ⟨hcount, fun ceiling hceiling => ?_⟩
          have hfit := hfits ceiling hceiling
          omega
      | _ => cases hnoLess

/-- **A refusal is final.**  Once a step, a tool call or some tokens have been refused, whatever is
    spent in between, no later step is granted, no tool call for as many calls and no tokens at
    all. -/
theorem refused_for_good {limits : ExecutionLimits} {spendings between : List Spending}
    {earlier later : Spending} (hrefused : ¬ (after limits spendings).Accepts earlier)
    (hnoLess : NoLess earlier later) :
    ¬ (after limits (spendings ++ earlier :: between)).Accepts later := by
  rw [after, Runs.run_append, Runs.run_cons]
  change ¬ (Runs.run step ((after limits spendings).step earlier) between).Accepts later
  obtain ⟨hiterations, htools, htokens⟩ :=
    @used_mono ((after limits spendings).step earlier) between
  have hlimits : (Runs.run step ((after limits spendings).step earlier) between).toExecutionLimits
      = (after limits spendings).toExecutionLimits := by
    rw [run_eq, toExecutionLimits_step]
  have hcounted : (after limits spendings).accepted earlier = [] := if_neg hrefused
  rw [step_eq, hcounted] at hiterations htools htokens hlimits ⊢
  simp only [total_nil, add_zero] at hiterations htools htokens hlimits ⊢
  exact not_accepts_of_used hlimits hiterations htools htokens hrefused hnoLess

/-- The default allowance, from the start of the clock, with one step. -/
def oneStep : ExecutionLimits where
  maxIterations := 1
  startedAt := 0

/-- The second step is refused, and stays so. -/
theorem second_step_refused :
    ¬ (after oneStep ([⟨0, .Iteration⟩] ++ ⟨1, .Iteration⟩ :: [⟨2, .ToolCall 3⟩])).Accepts
      ⟨3, .Iteration⟩ :=
  refused_for_good (by decide +kernel) (show (1 : ℚ) ≤ 3 by norm_num)

end ExecutionBudget

end CostPlatform
