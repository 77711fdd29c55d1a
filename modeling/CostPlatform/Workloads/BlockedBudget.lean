import CostPlatform.Intelligence.SupplyChainTotals
import CostPlatform.Workloads.SupplyChain

/-!
# Runs under a blocked budget

The budget check of the supply chain workflow says `BLOCK` of a budget that is not positive.  Such a
budget is no pressure on the analysis, and it marks the outcome as critical, but nothing between the
check and the reasoning looks at it.  So a blocked run calls the model wherever the analysis finds
something short or a risky supplier.
-/

namespace CostPlatform

open PyJson SupplyChainOptimizer

namespace SupplyChainWorkflow

/-! ## Which runs call the model -/

section Calls

variable {α β : Type}

def CallsModel (x : Traced SupplyChainEvent FloatError α) : Prop :=
  ∃ request, .ModelCall request ∈ x.events

lemma callsModel_bind {x : Traced SupplyChainEvent FloatError α}
    {f : α → Traced SupplyChainEvent FloatError β} :
    CallsModel (x >>= f) ↔ CallsModel x ∨ ∃ a, x.result = .ok a ∧ CallsModel (f a) := by
  simp only [CallsModel, Traced.mem_bind_events]
  constructor
  · rintro ⟨request, hfirst | ⟨a, ha, hrest⟩⟩
    · exact .inl ⟨request, hfirst⟩
    · exact .inr ⟨a, ha, request, hrest⟩
  · rintro (⟨request, hfirst⟩ | ⟨a, ha, request, hrest⟩)
    · exact ⟨request, .inl hfirst⟩
    · exact ⟨request, .inr ⟨a, ha, hrest⟩⟩

lemma callsModel_silent_bind {x : Except FloatError α}
    {f : α → Traced SupplyChainEvent FloatError β} :
    CallsModel (Traced.silent x >>= f) ↔ ∃ a, x = .ok a ∧ CallsModel (f a) := by
  rw [callsModel_bind]
  simp [CallsModel]

lemma callsModel_emit_bind {event : String} {payload : Record}
    {f : Unit → Traced SupplyChainEvent FloatError β} :
    CallsModel (emit event payload >>= f) ↔ CallsModel (f ()) := by
  rw [callsModel_bind]
  simp [CallsModel, emit, Unique.exists_iff]

lemma not_callsModel_pure (a : α) :
    ¬ CallsModel (pure a : Traced SupplyChainEvent FloatError α) := by
  simp [CallsModel]

end Calls

variable {workflow : SupplyChainWorkflow}

lemma callsModel_llmReasoning (input : Input) (analysis : SupplyChainAnalysisResult) :
    CallsModel (workflow.llmReasoning input analysis) := by
  rw [llmReasoning, callsModel_emit_bind, callsModel_bind]
  exact .inl ⟨_, List.mem_singleton_self _⟩

/-- Past the analysis, what is complex calls the model. -/
lemma callsModel_recommend {input : Input} {budgetStatus : BudgetPreCheck}
    {analysis : SupplyChainAnalysisResult} :
    CallsModel (workflow.recommend input budgetStatus analysis) ↔ isComplex analysis = true := by
  rw [recommend, callsModel_bind]
  simp only [callsModel_emit_bind, not_callsModel_pure, and_false, exists_false, or_false]
  rw [reason]
  split_ifs with hcomplex
  · exact iff_of_true (callsModel_bind.mpr (.inl (callsModel_llmReasoning input analysis))) hcomplex
  · exact iff_of_false (not_callsModel_pure none) hcomplex

/-- **A run calls the model** exactly where nothing on the way to the analysis fails and the
    analysis is complex. -/
theorem callsModel_execute {inputData : Record} :
    CallsModel (workflow.execute inputData)
      ↔ ∃ input budgetStatus suppliers logistics analysis, readInput inputData = .ok input
        ∧ evaluateBudgetPolicy input.budgetLimit = .ok budgetStatus
        ∧ filterSupplierContext input.suppliers = .ok suppliers
        ∧ filterLogisticsContext input.logistics = .ok logistics
        ∧ workflow.optimizer.analyze input.inventory input.demand suppliers logistics
            input.budgetLimit = .ok analysis
        ∧ isComplex analysis = true := by
  simp only [execute, callsModel_silent_bind, callsModel_emit_bind, callsModel_recommend,
    exists_and_left]

/-! ## What is complex without a budget -/

/-- What is left to reason about where no budget presses: a record of the inventory that is short or
    out of stock, or a selected supplier whose risk rounds to the threshold or above. -/
def NeedsReasoning (optimizer : SupplyChainOptimizer) (inventory demand : Json)
    (suppliers : List Json) : Prop :=
  (∃ figures, optimizer.readInventory inventory demand = .ok figures
      ∧ ∃ item ∈ figures, item.isShort = true)
    ∨ ∃ itemId eligible best,
      optimizer.eligibleFor inventory demand suppliers itemId = .ok eligible
        ∧ optimizer.RanksFirst eligible best
        ∧ PyFloat.le (.Finite (3995 / 10000)) best.riskScore = true

/-- A risk rounds to the threshold from half a thousandth below it. -/
lemma threshold_le_round_iff {risk : PyFloat} :
    PyFloat.le HIGH_SUPPLIER_RISK_THRESHOLD (PyFloat.round 3 risk) = true
      ↔ PyFloat.le (.Finite (3995 / 10000)) risk = true := by
  cases risk with
  | Finite risk =>
      have hnearest := PyFloat.le_nearest_iff_of_even (n := 400) rfl (x := risk * 10 ^ 3)
      have hcast : (4 / 10 * 10 ^ 3 : ℚ) ≤ (PyFloat.nearest (risk * 10 ^ 3) : ℚ)
          ↔ (400 : ℤ) ≤ PyFloat.nearest (risk * 10 ^ 3) := by
        rw [← Int.cast_le (R := ℚ)]
        norm_num
      simp only [HIGH_SUPPLIER_RISK_THRESHOLD, PyFloat.round, PyFloat.le, decide_eq_true_iff]
      rw [PyFloat.roundTo, le_div_iff₀ (by norm_num), hcast, hnearest]
      constructor
      · intro h
        norm_num at h ⊢
        linarith
      · intro h
        norm_num at h ⊢
        linarith
  | _ => simp [HIGH_SUPPLIER_RISK_THRESHOLD, PyFloat.round, PyFloat.le]

lemma threshold_le_maxRisk_iff {selected : List (String × SupplierCandidate)} :
    PyFloat.le HIGH_SUPPLIER_RISK_THRESHOLD (PyFloat.round 3 (maxRisk selected)) = true
      ↔ ∃ entry ∈ selected, PyFloat.le (.Finite (3995 / 10000)) entry.2.riskScore = true := by
  have hzero : PyFloat.le (.Finite (3995 / 10000)) (.Finite 0) = false := by
    norm_num [PyFloat.le]
  have hstart : PyFloat.Finite 0 ≠ .NaN := by simp
  rw [threshold_le_round_iff, maxRisk, PyFloat.le_foldl_max_iff hstart]
  simp only [hzero, Bool.false_eq_true, false_or, List.mem_map, exists_exists_and_eq_and]

/-- **Without a budget that presses**, an analysis is complex exactly where there is something to
    reason about. -/
lemma isComplex_result_iff {optimizer : SupplyChainOptimizer} {inventory demand : Json}
    {suppliers logistics : List Json} {exact : ExactAnalysis}
    (h : optimizer.analyzeExactly inventory demand suppliers logistics = .ok exact) :
    isComplex (exact.result none) = true
      ↔ NeedsReasoning optimizer inventory demand suppliers := by
  obtain ⟨hfigures, -, -⟩ := analyzeExactly_eq_ok.mp h
  have hshort : 0 < exact.pass.stockoutItems.length ↔ ∃ figures,
      optimizer.readInventory inventory demand = .ok figures
        ∧ ∃ item ∈ figures, item.isShort = true := by
    simp only [ExactAnalysis.pass, stockoutItems_eq, List.length_map,
      List.length_pos_iff_exists_mem, mem_shortRecords, hfigures, Except.ok.injEq,
      exists_eq_left']
  have hrisk : (∃ entry ∈ exact.selectedSuppliers,
        PyFloat.le (.Finite (3995 / 10000)) entry.2.riskScore = true)
      ↔ ∃ itemId eligible best,
        optimizer.eligibleFor inventory demand suppliers itemId = .ok eligible
          ∧ optimizer.RanksFirst eligible best
          ∧ PyFloat.le (.Finite (3995 / 10000)) best.riskScore = true := by
    constructor
    · rintro ⟨⟨itemId, best⟩, hmem, hhigh⟩
      obtain ⟨eligible, heligible, hselected⟩ := mem_selectedSuppliers h itemId
      exact ⟨itemId, eligible, best, heligible, (hselected best).mp hmem, hhigh⟩
    · rintro ⟨itemId, eligible, best, heligible, hfirst, hhigh⟩
      obtain ⟨eligible', heligible', hselected⟩ := mem_selectedSuppliers h itemId
      cases Except.ok.inj (heligible.symm.trans heligible')
      exact ⟨(itemId, best), (hselected best).mpr hfirst, hhigh⟩
  rw [NeedsReasoning, ← hshort, ← hrisk, ← threshold_le_maxRisk_iff]
  simp only [isComplex, Bool.or_eq_true, decide_eq_true_iff]
  simp [ExactAnalysis.result]

/-! ## Blocked runs -/

/-- Whether the analysis of an input gets to its end. -/
def Analyzable (workflow : SupplyChainWorkflow) (input : Input) (suppliers : List Json) : Prop :=
  filterSupplierContext input.suppliers = .ok suppliers
    ∧ ∃ logistics exact, filterLogisticsContext input.logistics = .ok logistics
      ∧ workflow.optimizer.analyzeExactly input.inventory input.demand suppliers logistics
          = .ok exact

/-- The budget check of a run says `BLOCK`. -/
def Blocked (inputData : Record) : Prop :=
  evaluateBudgetPolicy ((lookup inputData "budget_limit").getD .Null) = .ok .Block

/-- A budget `BLOCK` makes no model call. -/
def BlockMakesNoCall (workflow : SupplyChainWorkflow) (inputData : Record) : Prop :=
  Blocked inputData → ∀ request, .ModelCall request ∉ (workflow.execute inputData).events

lemma budgetLimit_of_readInput {inputData : Record} {input : Input}
    (h : readInput inputData = .ok input) :
    input.budgetLimit = (lookup inputData "budget_limit").getD .Null := by
  obtain ⟨inventory, -, hrest⟩ := Fallible.bind_eq_ok.mp h
  obtain ⟨demand, -, hrest⟩ := Fallible.bind_eq_ok.mp hrest
  obtain ⟨suppliers, -, hrest⟩ := Fallible.bind_eq_ok.mp hrest
  obtain ⟨logistics, -, hinput⟩ := Fallible.bind_eq_ok.mp hrest
  cases Except.ok.inj hinput
  rfl

/-- What requires approval is recommended only. -/
lemma buildRecommendedAction_of_approval (analysis : SupplyChainAnalysisResult) :
    ∃ action, buildRecommendedAction analysis true = RECOMMENDATION_ONLY ++ action := by
  simp only [buildRecommendedAction, if_true]
  by_cases hquiet : (analysis.stockoutItems.isEmpty && !analysis.budgetPressure) = true
  · exact ⟨_, if_pos hquiet⟩
  · exact ⟨_, (if_neg hquiet).trans String.append_assoc⟩

/-- **What a blocked run returns** is critical and waits for an approval. -/
theorem execute_of_block {inputData : Record} {output : SupplyChainOutput}
    (hblocked : Blocked inputData) (h : (workflow.execute inputData).result = .ok output) :
    output.budgetStatus = .Block ∧ output.riskLevel = .Critical ∧ output.requiresApproval = true
      ∧ ∃ action, output.recommendedAction = RECOMMENDATION_ONLY ++ action := by
  simp only [execute, recommend, Traced.bind_result_eq_ok, Traced.silent_def] at h
  obtain ⟨input, hread, -, -, status, hstatus, -, -, suppliers, -, logistics, -, analysis, -,
    -, -, tradeOff, -, -, -, houtput⟩ := h
  cases Except.ok.inj houtput
  rw [budgetLimit_of_readInput hread] at hstatus
  cases Except.ok.inj (hblocked.symm.trans hstatus)
  exact ⟨rfl, rfl, rfl, buildRecommendedAction_of_approval analysis⟩

/-- **A blocked run calls no model** exactly where it does not get through the analysis, or nothing
    is short and no selected supplier risky. -/
theorem blocked_calls_no_model_iff (workflow : SupplyChainWorkflow) (inputData : Record) :
    workflow.BlockMakesNoCall inputData
      ↔ (Blocked inputData → ∀ input suppliers, readInput inputData = .ok input →
        workflow.Analyzable input suppliers →
          ¬ NeedsReasoning workflow.optimizer input.inventory input.demand suppliers) := by
  refine imp_congr_right fun hblocked => ?_
  have hcalls : (∀ request, .ModelCall request ∉ (workflow.execute inputData).events)
      ↔ ¬ CallsModel (workflow.execute inputData) := not_exists.symm
  rw [hcalls, callsModel_execute]
  constructor
  · rintro hquiet input suppliers hread ⟨hsuppliers, logistics, exact, hlogistics, hexact⟩ hneeds
    have hblock : evaluateBudgetPolicy input.budgetLimit = .ok .Block :=
      budgetLimit_of_readInput hread ▸ hblocked
    refine hquiet ⟨input, .Block, suppliers, logistics, _, hread, hblock, hsuppliers, hlogistics,
      analyze_eq_ok.mpr ⟨exact, hexact, none, overrun_of_block exact hblock, rfl⟩, ?_⟩
    exact (isComplex_result_iff hexact).mpr hneeds
  · rintro hnone ⟨input, status, suppliers, logistics, analysis, hread, -, hsuppliers, hlogistics,
      hanalysis, hcomplex⟩
    have hblock : evaluateBudgetPolicy input.budgetLimit = .ok .Block :=
      budgetLimit_of_readInput hread ▸ hblocked
    obtain ⟨exact, hexact, overrun, hoverrun, rfl⟩ := analyze_eq_ok.mp hanalysis
    cases Except.ok.inj ((overrun_of_block exact hblock).symm.trans hoverrun)
    exact hnone input suppliers hread ⟨hsuppliers, logistics, exact, hlogistics, hexact⟩
      ((isComplex_result_iff hexact).mp hcomplex)

def isModelCall : SupplyChainEvent → Bool
  | .ModelCall _ => true
  | .Emitted _ _ => false
  | .CostRecorded _ _ _ _ => false

/-- A workflow without a model behind it. -/
def modelless : SupplyChainWorkflow where
  optimizer := plainOptimizer
  floatText _ := ""
  gateway _ := .error "ModelGatewayError"

/-- Ten valves short, a supplier of them and a route, and nothing to spend. -/
def nothingToSpend : Record :=
  [("inventory", shortOfValves), ("demand", .Dict []),
    ("suppliers", .Items [.Dict [("supplier_id", .Text "foundry"), ("unit_price", .Integer 2),
      ("lead_time_days", .Integer 7)]]),
    ("logistics", .Items [.Dict [("cost_per_unit", .Integer 1), ("transit_days", .Integer 2)]]),
    ("lead_time", .Integer 7), ("budget_limit", .Integer 0)]

/-- A budget of nothing does not keep the model from being asked. -/
theorem nothingToSpend_calls : ¬ modelless.BlockMakesNoCall nothingToSpend := by
  intro h
  have hsome : (modelless.execute nothingToSpend).events.any isModelCall = true := by
    decide +kernel
  obtain ⟨event, hevent, hcall⟩ := List.any_eq_true.mp hsome
  cases event with
  | ModelCall request => exact h rfl request hevent
  | Emitted event payload => cases hcall
  | CostRecorded costType amountUsd description provenance => cases hcall

end SupplyChainWorkflow

end CostPlatform
