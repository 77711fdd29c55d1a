import CostPlatform.Budget.Composition
import CostPlatform.Budget.Gate

/-!
# Marking a budget as exceeded

A budget has a lifecycle status besides the state its spend is in, and `PATCH /budgets/{id}` can
set that status to EXCEEDED.  The evaluation reads ACTIVE budgets only, so a budget that is marked
drops out of it.

`exceeded_keeps_control_iff` says when that leaves the outcome as severe as it was: the budget did
not apply, or it allowed the request anyway, or another limit is at least as severe.
-/

namespace CostPlatform

open Calendar (Timestamp)

namespace BudgetPolicy

variable {policy : BudgetPolicy} {requestCost : ℚ}

/-- An outcome no more severe than the worst case is that of no objection, or some limit matches
    it. -/
lemma le_worstOutcome_iff {limits : List BudgetLimit} {outcome : PolicyOutcome} :
    outcome ≤ policy.worstOutcome requestCost limits
      ↔ outcome = .Allow
        ∨ ∃ limit ∈ limits, outcome ≤ (policy.evaluateLimit limit requestCost).outcome := by
  rw [← decide_outcome_eq]
  constructor
  · intro h
    rcases policy.decide_outcome limits requestCost with
      ⟨-, hallow⟩ | ⟨limit, hlimit, houtcome, -⟩
    · rw [hallow] at h
      exact Or.inl (le_bot_iff.mp h)
    · exact Or.inr ⟨limit, hlimit, houtcome ▸ h⟩
  · rintro (rfl | ⟨limit, hlimit, h⟩)
    · exact bot_le
    · rw [decide_outcome_eq]
      exact List.le_max_of_le (List.mem_map_of_mem (List.mem_map_of_mem hlimit)) h

/-- The worst case is no more severe than an outcome when no limit is. -/
lemma worstOutcome_le_iff {limits : List BudgetLimit} {outcome : PolicyOutcome} :
    policy.worstOutcome requestCost limits ≤ outcome
      ↔ ∀ limit ∈ limits, (policy.evaluateLimit limit requestCost).outcome ≤ outcome := by
  constructor
  · intro h limit hlimit
    exact (le_worstOutcome_iff.mpr (Or.inr ⟨limit, hlimit, le_rfl⟩)).trans h
  · intro h
    refine List.max_le_of_forall_le _ _ fun x hx => ?_
    obtain ⟨evaluation, hevaluation, rfl⟩ := List.mem_map.mp hx
    obtain ⟨limit, hlimit, rfl⟩ := List.mem_map.mp hevaluation
    exact h limit hlimit

end BudgetPolicy

namespace BudgetService

variable (service : BudgetService)

/-- The service over the table in which one budget has another status. -/
def withStatus (id : String) (status : BudgetStatus) : BudgetService :=
  { service with
    budgets := service.budgets.modify id (fun budget => { budget with status := status })
      fun _ => rfl }

/-- One request to authorize: its scopes, its cost, its own ceiling and the instant. -/
structure EvaluationRequest where
  context : RequestContext
  requestCost : ℚ
  requestLimit : Option RequestLimit
  now : Timestamp

def answer (request : EvaluationRequest) : Except PeriodError BudgetDecision :=
  service.evaluate request.context request.requestCost request.requestLimit request.now

/-- Marking an active budget as exceeded never makes the outcome less severe. -/
def ExceededKeepsControl (id : String) (request : EvaluationRequest) : Prop :=
  ∀ budget, service.budgets.get id = some budget → budget.status = .Active →
    ∀ before after, service.answer request = .ok before →
      (service.withStatus id .Exceeded).answer request = .ok after →
      before.outcome ≤ after.outcome

/-- Every budget that applies can be measured. -/
def Measurable (request : EvaluationRequest) : Prop :=
  ∀ budget ∈ service.budgets.rows, Applies request.context budget →
    ∃ window, periodWindow budget.period request.now = .ok window

/-- The verdict on a budget is that of another budget that applies, or of the request's own
    ceiling, or a less severe one. -/
def Outweighed (id : String) (request : EvaluationRequest) (outcome : PolicyOutcome) : Prop :=
  (∃ other ∈ service.budgets.rows, other.id ≠ id ∧ Applies request.context other
      ∧ ∃ limit, service.toLimit other request.now = .ok limit
        ∧ outcome ≤ (service.policy.evaluateLimit limit request.requestCost).outcome)
    ∨ ∃ ceiling ∈ request.requestLimit, outcome ≤ (service.policy.evaluateLimit
        (service.requestLimitToBudgetLimit ceiling) request.requestCost).outcome

/-- If the budget applies to a request that can be evaluated, it allows it or is outweighed. -/
def Dispensable (id : String) (request : EvaluationRequest) : Prop :=
  service.Measurable request →
    ∀ budget, service.budgets.get id = some budget → Applies request.context budget →
      ∀ limit, service.toLimit budget request.now = .ok limit →
        (service.policy.evaluateLimit limit request.requestCost).outcome = .Allow
          ∨ service.Outweighed id request
            (service.policy.evaluateLimit limit request.requestCost).outcome

variable {service} {request : EvaluationRequest} {id : String}

/-- **The outcome is the worst case of the budgets that apply and the request's ceiling.** -/
theorem answer_eq_ok {decision : BudgetDecision} (h : service.answer request = .ok decision) :
    ∃ limits : List BudgetLimit,
      (∀ limit, limit ∈ limits ↔ (∃ budget ∈ service.budgets.rows, Applies request.context budget
          ∧ service.toLimit budget request.now = .ok limit)
        ∨ ∃ ceiling ∈ request.requestLimit, limit = service.requestLimitToBudgetLimit ceiling)
      ∧ decision.outcome = service.policy.worstOutcome request.requestCost limits := by
  obtain ⟨limits, hlimits, hdecision⟩ := Fallible.bind_eq_ok.mp h
  cases Except.ok.inj hdecision
  refine ⟨_, fun limit => ?_, BudgetPolicy.decide_outcome_eq _⟩
  rw [List.mem_append, service.mem_loadLimits hlimits, Option.mem_toList,
    Option.map_eq_some_iff]
  exact or_congr_right (exists_congr fun ceiling => and_congr_right fun _ => eq_comm)

/-- It is there when every budget that applies can be measured. -/
lemma answer_succeeds (h : service.Measurable request) :
    ∃ decision, service.answer request = .ok decision := by
  obtain ⟨limits, hlimits⟩ := service.loadLimits_succeeds_iff.mpr h
  exact ⟨_, Fallible.bind_eq_ok.mpr ⟨limits, hlimits, rfl⟩⟩

lemma measurable_of_answer {decision : BudgetDecision}
    (h : service.answer request = .ok decision) : service.Measurable request := by
  obtain ⟨limits, hlimits, -⟩ := Fallible.bind_eq_ok.mp h
  exact service.loadLimits_succeeds_iff.mp ⟨limits, hlimits⟩

/-- A marked budget applies to nothing; every other one applies as before. -/
lemma applies_withStatus (budget : Budget) :
    (budget ∈ (service.withStatus id .Exceeded).budgets.rows ∧ Applies request.context budget)
      ↔ budget ∈ service.budgets.rows ∧ budget.id ≠ id ∧ Applies request.context budget := by
  simp only [withStatus, Table.mem_modify]
  constructor
  · rintro ⟨⟨old, -, -, rfl⟩ | ⟨hold, hne⟩, happlies⟩
    · exact absurd (show BudgetStatus.Exceeded = .Active from happlies.2.1) (by decide)
    · exact ⟨hold, hne, happlies⟩
  · rintro ⟨hold, hne, happlies⟩
    exact ⟨Or.inr ⟨hold, hne⟩, happlies⟩

lemma measurable_withStatus (h : service.Measurable request) :
    (service.withStatus id .Exceeded).Measurable request := by
  intro budget hrow happlies
  obtain ⟨hold, -, -⟩ := (applies_withStatus budget).mp ⟨hrow, happlies⟩
  exact h budget hold happlies

/-- **Marking keeps control exactly when the budget is dispensable.** -/
theorem exceeded_keeps_control_iff (service : BudgetService) (id : String)
    (request : EvaluationRequest) :
    service.ExceededKeepsControl id request ↔ service.Dispensable id request := by
  constructor
  · intro hkeeps hmeasurable budget hget happlies limit hlimit
    obtain ⟨hrow, hid⟩ := Table.get_eq_some.mp hget
    obtain ⟨before, hbefore⟩ := answer_succeeds hmeasurable
    obtain ⟨after, hafter⟩ :=
      answer_succeeds (@measurable_withStatus service request id hmeasurable)
    have hle := hkeeps budget hget happlies.2.1 before after hbefore hafter
    obtain ⟨limits, hlimits, houtcome⟩ := answer_eq_ok hbefore
    obtain ⟨limits', hlimits', houtcome'⟩ := answer_eq_ok hafter
    rw [houtcome, houtcome', BudgetPolicy.worstOutcome_le_iff] at hle
    have hown := hle limit ((hlimits limit).mpr (Or.inl ⟨budget, hrow, happlies, hlimit⟩))
    refine (BudgetPolicy.le_worstOutcome_iff.mp hown).imp_right ?_
    rintro ⟨other, hother, hmost⟩
    rcases (hlimits' other).mp hother with ⟨row, hrow', happlies', hlimit'⟩ |
      ⟨ceiling, hceiling, rfl⟩
    · obtain ⟨hold, hne, -⟩ := (applies_withStatus row).mp ⟨hrow', happlies'⟩
      exact Or.inl ⟨row, hold, hne, happlies', other, hlimit', hmost⟩
    · exact Or.inr ⟨ceiling, hceiling, hmost⟩
  · intro hdispensable budget hget _ before after hbefore hafter
    obtain ⟨hrow, hid⟩ := Table.get_eq_some.mp hget
    have hmeasurable := measurable_of_answer hbefore
    obtain ⟨limits, hlimits, houtcome⟩ := answer_eq_ok hbefore
    obtain ⟨limits', hlimits', houtcome'⟩ := answer_eq_ok hafter
    rw [houtcome, houtcome', BudgetPolicy.worstOutcome_le_iff]
    intro limit hlimit
    refine BudgetPolicy.le_worstOutcome_iff.mpr ?_
    rcases (hlimits limit).mp hlimit with ⟨row, hrow', happlies, htoLimit⟩ |
      ⟨ceiling, hceiling, rfl⟩
    · by_cases hsame : row.id = id
      · -- the marked budget's own limit
        cases service.budgets.eq_of_key hrow' hrow (hsame.trans hid.symm)
        rcases hdispensable hmeasurable budget hget happlies limit htoLimit with hallow |
          ⟨other, hother, hne, happlies', otherLimit, hlimit', hle⟩ | ⟨ceiling, hceiling, hle⟩
        · exact Or.inl hallow
        · have hkept := (@applies_withStatus service request id other).mpr ⟨hother, hne, happlies'⟩
          exact Or.inr ⟨otherLimit, (hlimits' otherLimit).mpr
            (Or.inl ⟨other, hkept.1, happlies', hlimit'⟩), hle⟩
        · exact Or.inr ⟨_, (hlimits' _).mpr (Or.inr ⟨ceiling, hceiling, rfl⟩), hle⟩
      · have hkept := (@applies_withStatus service request id row).mpr ⟨hrow', hsame, happlies⟩
        exact Or.inr ⟨limit, (hlimits' limit).mpr
          (Or.inl ⟨row, hkept.1, happlies, htoLimit⟩), le_rfl⟩
    · exact Or.inr ⟨_, (hlimits' _).mpr (Or.inr ⟨ceiling, hceiling, rfl⟩), le_rfl⟩

end BudgetService

/-- **A spent budget blocks until it is marked as exceeded.** -/
theorem marking_exceeded_unblocks :
    let request : BudgetService.EvaluationRequest :=
      { context := { tenantId := "t1", plantId := some "p1" }, requestCost := 0,
        requestLimit := none, now := 30 }
    (spentBudgetService.answer request).toOption.map BudgetDecision.outcome = some .Block
      ∧ ((spentBudgetService.withStatus "b1" .Exceeded).answer request).toOption.map
          BudgetDecision.outcome = some .Allow
      ∧ ¬ spentBudgetService.ExceededKeepsControl "b1" request := by
  intro request
  have hblock : (spentBudgetService.answer request).toOption.map BudgetDecision.outcome
      = some .Block := by
    decide +kernel
  have hallow : ((spentBudgetService.withStatus "b1" .Exceeded).answer request).toOption.map
      BudgetDecision.outcome = some .Allow := by
    decide +kernel
  refine ⟨hblock, hallow, fun hkeeps => ?_⟩
  obtain ⟨before, hbefore, houtcome⟩ := Fallible.toOption_map_eq_some.mp hblock
  obtain ⟨after, hafter, houtcome'⟩ := Fallible.toOption_map_eq_some.mp hallow
  obtain ⟨budget, hget, hactive⟩ : ∃ budget, spentBudgetService.budgets.get "b1" = some budget
      ∧ budget.status = .Active :=
    ⟨_, rfl, rfl⟩
  have hle := hkeeps budget hget hactive before after hbefore hafter
  rw [houtcome, houtcome'] at hle
  exact absurd hle (by decide)

end CostPlatform
