import CostPlatform.Library.Runs
import CostPlatform.Lifecycle.Endpoints
import CostPlatform.Optimization.Engine

/-!
# Analyses on request

`POST /optimization/analyze` runs the engine for a workload and stores what it recommends.  It hands
the engine the workload's id and a target, and neither moves a figure; the rest of the arguments are
defaults.  So all recommendations that the API ever stores carry the same figures, and what is
decided about them later does not touch these (`analyses_alike`).
-/

namespace CostPlatform

open Calendar (Timestamp)

/-! ## The endpoint -/

/-- Body of `POST /optimization/analyze`. -/
structure OptimizationAnalyzeRequest where
  workloadId : String
  simulationOnly : Bool := true
  targetSavingPercent : Option ℚ := none
  targetValid : ∀ target ∈ targetSavingPercent, 0 ≤ target ∧ target ≤ 100

structure OptimizationAnalyzeAccepted where
  requestId : String
  recommendationId : String
  status : String := "PENDING_APPROVAL"
  deriving DecidableEq, Repr

/-- The identifiers that a request draws. -/
structure DrawnIds where
  requestId : String
  recommendationId : String
  policyId : String → String

/-- The row of an analysis. -/
def analyzedRow (analysis : OptimizationAnalysisResult) (id tenantId workloadId : String)
    (now : Timestamp) : OptimizationRecommendation where
  id := id
  tenantId := tenantId
  workloadId := some workloadId
  currentStrategy := some analysis.currentStrategy
  recommendedStrategy := some analysis.recommendedStrategy
  estimatedSaving := some analysis.estimatedSaving
  estimatedSavingPercent := some analysis.estimatedSavingPercent
  qualityImpactPercent := some analysis.qualityImpact
  latencyImpactPercent := some analysis.latencyImpact
  riskLevel := some analysis.risk
  recommendationReason := some analysis.reasoning
  status := .PendingApproval
  appliedPolicyId := none
  supersededPolicyId := none
  createdAt := some now
  approvedAt := none
  appliedAt := none
  rolledBackAt := none
  approvedBy := none

/-- `POST /optimization/analyze`, where `tenants` are the ids of the table of tenants. -/
def analyzeEndpoint (store : Store) (tenants : List String) (principal : Principal)
    (body : OptimizationAnalyzeRequest) (drawn : DrawnIds) (now : Timestamp) :
    Except HttpError (Store × OptimizationAnalyzeAccepted) := do
  Fallible.require (body.workloadId = "" ∨ (store.workloads.get body.workloadId).isSome = true)
    (.Http 404 "Unknown workload_id")
  let analysis ← Fallible.demand
    (OptimizationEngine.analyze drawn.policyId
      { workloadId := body.workloadId, targetSavingPercent := body.targetSavingPercent }) .Uncaught
  let tenantId := (PyString.truthy (some principal.tenantId)).getD "tenant-1"
  let row := analyzedRow analysis drawn.recommendationId tenantId body.workloadId now
  -- the foreign keys of the row
  Fallible.require (tenantId ∈ tenants ∧ (store.workloads.get body.workloadId).isSome = true)
    .Uncaught
  let recommendations ← Fallible.demand (store.recommendations.insert? row) .Uncaught
  return ({ store with recommendations := recommendations },
    { requestId := drawn.requestId, recommendationId := drawn.recommendationId })

/-! ## Any order of requests -/

inductive OptimizationCall where
  | Analyze (tenants : List String) (principal : Principal) (body : OptimizationAnalyzeRequest)
      (drawn : DrawnIds) (now : Timestamp)
  | Decide (request : EndpointRequest)

/-- The store after the request: committed, or rolled back with the session. -/
def OptimizationCall.after (call : OptimizationCall) (store : Store) : Store :=
  match call with
  | .Analyze tenants principal body drawn now =>
      ((analyzeEndpoint store tenants principal body drawn now).map Prod.fst).toOption.getD store
  | .Decide request => request.after store

abbrev afterCalls (store : Store) (calls : List OptimizationCall) : Store :=
  Runs.run (fun store call => call.after store) store calls

/-! ## Figures -/

/-- What a recommendation says of what it recommends. -/
structure RecommendationFigures where
  currentStrategy : Option String
  recommendedStrategy : Option String
  estimatedSaving : Option ℚ
  estimatedSavingPercent : Option ℚ
  qualityImpactPercent : Option ℚ
  latencyImpactPercent : Option ℚ
  riskLevel : Option OptimizationRiskLevel
  deriving DecidableEq, Repr

def OptimizationRecommendation.figures (row : OptimizationRecommendation) :
    RecommendationFigures where
  currentStrategy := row.currentStrategy
  recommendedStrategy := row.recommendedStrategy
  estimatedSaving := row.estimatedSaving
  estimatedSavingPercent := row.estimatedSavingPercent
  qualityImpactPercent := row.qualityImpactPercent
  latencyImpactPercent := row.latencyImpactPercent
  riskLevel := row.riskLevel

/-- 450 a month, which is 45 percent of what an analysis assumes. -/
def routingFigures : RecommendationFigures where
  currentStrategy := some "STATIC_ADVANCED_PRIMARY (claude-3-5-sonnet 100%)"
  recommendedStrategy := some "Model Routing: Tiered Mini Routing"
  estimatedSaving := some 450
  estimatedSavingPercent := some 45
  qualityImpactPercent := some (1 / 2)
  latencyImpactPercent := some (-35)
  riskLevel := some .Low

lemma figures_decided (row : OptimizationRecommendation) (approver reason : String)
    (approved : Bool) (now : Timestamp) :
    (decided row approver approved reason now).figures = row.figures := by
  cases approved <;> rfl

/-- The row was there before, with the figures that it has. -/
def KeptFrom (store : Store) (row : OptimizationRecommendation) : Prop :=
  ∃ earlier ∈ store.recommendations.rows, earlier.id = row.id ∧ earlier.figures = row.figures

lemma keptFrom_modify {store : Store} {id : String}
    {f : OptimizationRecommendation → OptimizationRecommendation} {hf : ∀ r, (f r).id = r.id}
    (hfigures : ∀ r, (f r).figures = r.figures) {row : OptimizationRecommendation}
    (h : row ∈ (store.recommendations.modify id f hf).rows) : KeptFrom store row := by
  rcases Table.mem_modify.mp h with ⟨earlier, hearlier, -, rfl⟩ | ⟨hrow, -⟩
  · exact ⟨earlier, hearlier, (hf earlier).symm, (hfigures earlier).symm⟩
  · exact ⟨row, hrow, rfl, rfl⟩

lemma figures_applied (row : OptimizationRecommendation) (policyId : String)
    (superseded : Option RoutingPolicy) (now : Timestamp) :
    (applied policyId superseded now row).figures = row.figures :=
  rfl

lemma figures_rolledBack (row : OptimizationRecommendation) (now : Timestamp) :
    (rolledBack now row).figures = row.figures :=
  rfl

lemma keptFrom_apply {store store' : Store} {principal : Principal} {id newId : String}
    {body : Option OptimizationApplyRequest} {now : Timestamp} {response : Response}
    (h : applyEndpoint store principal id body newId now = .ok (store', response))
    {row : OptimizationRecommendation} (hrow : row ∈ store'.recommendations.rows) :
    KeptFrom store row := by
  obtain ⟨⟨_, recommendation, policy⟩, hservice, hresult⟩ := Fallible.bind_eq_ok.mp h
  obtain ⟨_, _, -, -, -, -, hstore⟩ := applyPolicy_eq_ok.mp (Fallible.mapError_eq_ok.mp hservice)
  cases hresult
  rw [hstore] at hrow
  exact @keptFrom_modify _ _ (applied _ _ _) (fun _ => rfl)
    (fun r => figures_applied r _ _ _) _ hrow

/-- **A decision leaves the figures alone.** -/
theorem keptFrom_decide (store : Store) (request : EndpointRequest)
    {row : OptimizationRecommendation} (h : row ∈ (request.after store).recommendations.rows) :
    KeptFrom store row := by
  cases hresult : request.handle store with
  | error e =>
      rw [(unchanged_of_refused hresult).1] at h
      exact ⟨row, h, rfl, rfl⟩
  | ok result =>
      obtain ⟨store', response⟩ := result
      rw [after_of_handled hresult] at h
      rw [EndpointRequest.handle] at hresult
      cases hbody : request.body with
      | Approve body =>
          rw [hbody] at hresult
          obtain ⟨-, -, -, -, -, hrecommendations⟩ := approveEndpoint_eq_ok hresult
          rw [hrecommendations] at h
          exact keptFrom_modify (fun r => figures_decided r _ _ _ _) h
      | Apply body newId =>
          rw [hbody] at hresult
          exact keptFrom_apply hresult h
      | Rollback =>
          rw [hbody] at hresult
          obtain ⟨-, -, -, hrecommendations⟩ := rollbackEndpoint_eq_ok hresult
          rw [hrecommendations] at h
          exact keptFrom_modify (fun r => figures_rolledBack r _) h

/-! ## What analyses store -/

/-- What an accepted analysis leaves behind. -/
theorem analyzeEndpoint_eq_ok {store store' : Store} {tenants : List String} {principal : Principal}
    {body : OptimizationAnalyzeRequest} {drawn : DrawnIds} {now : Timestamp}
    {accepted : OptimizationAnalyzeAccepted}
    (h : analyzeEndpoint store tenants principal body drawn now = .ok (store', accepted)) :
    ∃ row, store'.recommendations.rows = store.recommendations.rows ++ [row]
      ∧ row.figures = routingFigures ∧ row.status = .PendingApproval
      ∧ row.id = accepted.recommendationId := by
  obtain ⟨_, -, h⟩ := Fallible.bind_eq_ok.mp h
  obtain ⟨analysis, hanalysis, h⟩ := Fallible.bind_eq_ok.mp h
  obtain ⟨_, -, h⟩ := Fallible.bind_eq_ok.mp h
  obtain ⟨recommendations, hinsert, h⟩ := Fallible.bind_eq_ok.mp h
  cases h
  obtain ⟨result, hresult, hcurrent, hrecommended, hsaving, hpercent, hquality, hlatency, hrisk,
    -⟩ := OptimizationEngine.analyze_eq drawn.policyId
      { workloadId := body.workloadId, targetSavingPercent := body.targetSavingPercent }
  cases hresult.symm.trans (Fallible.demand_eq_ok.mp hanalysis)
  refine ⟨_, Table.rows_of_insert? (Fallible.demand_eq_ok.mp hinsert), ?_, rfl, rfl⟩
  have hsaved : OptimizationEngine.savingUsd 1000 45 = 450 := by decide +kernel
  simp only [OptimizationRecommendation.figures, analyzedRow, routingFigures, hcurrent,
    hrecommended, hsaving, hpercent, hquality, hlatency, hrisk, hsaved]
  norm_num

/-- What a request leaves of the table: rows that were there with their figures, and, from an
    analysis, one with the figures of model routing. -/
lemma keptFrom_after (store : Store) (call : OptimizationCall) {row : OptimizationRecommendation}
    (h : row ∈ (call.after store).recommendations.rows) :
    KeptFrom store row ∨ row.figures = routingFigures := by
  cases call with
  | Decide request => exact .inl (keptFrom_decide store request h)
  | Analyze tenants principal body drawn now =>
      rw [OptimizationCall.after] at h
      cases hresult : analyzeEndpoint store tenants principal body drawn now with
      | error e =>
          rw [hresult] at h
          exact .inl ⟨row, h, rfl, rfl⟩
      | ok result =>
          rw [hresult] at h
          obtain ⟨added, hrows, hfigures, -⟩ := analyzeEndpoint_eq_ok hresult
          have hmem : row ∈ store.recommendations.rows ++ [added] := hrows ▸ h
          rcases List.mem_append.mp hmem with hearlier | hadded
          · exact .inl ⟨row, hearlier, rfl, rfl⟩
          · rw [List.mem_singleton.mp hadded]
            exact .inr hfigures

/-- **All analyses are alike.**  Whatever workloads are analyzed for whatever targets, and whatever
    is decided about the recommendations in between, each one that was not there at first recommends
    model routing with a saving of 450 a month; and those that were there keep the figures that they
    had. -/
theorem analyses_alike (store : Store) (calls : List OptimizationCall)
    (row : OptimizationRecommendation)
    (h : row ∈ (afterCalls store calls).recommendations.rows) :
    KeptFrom store row ∨ row.figures = routingFigures := by
  induction calls generalizing store with
  | nil => exact .inl ⟨row, h, rfl, rfl⟩
  | cons call calls ih =>
      rcases ih (call.after store) h with ⟨earlier, hearlier, hid, hfigures⟩ | hrouting
      · rcases keptFrom_after store call hearlier with ⟨first, hfirst, hid', hfigures'⟩ | hrouting
        · exact .inl ⟨first, hfirst, hid'.trans hid, hfigures'.trans hfigures⟩
        · exact .inr (hfigures.symm.trans hrouting)
      · exact .inr hrouting

/-! ## Two workloads -/

/-- A press and a paint shop, and nothing analyzed yet. -/
def plantStore : Store where
  recommendations := ⟨[], List.nodup_nil⟩
  policies := ⟨[], List.nodup_nil⟩
  workloads := ⟨[⟨"press", "predictive_maintenance", none, none⟩,
    ⟨"paint", "quality_check", none, none⟩], by decide⟩
  audit := []

def plantAnalyst : Principal where
  subject := "analyst"
  tenantId := "acme"
  assignments := []

/-- An analysis with a target. -/
def analysisOf (workloadId recommendationId : String) (target : ℚ)
    (h : 0 ≤ target ∧ target ≤ 100) : OptimizationCall :=
  .Analyze ["acme"] plantAnalyst
    { workloadId := workloadId
      targetSavingPercent := some target
      targetValid := fun _ htarget => Option.some.inj htarget ▸ h }
    ⟨"opt-req", recommendationId, id⟩ 0

lemma low_target : (0 : ℚ) ≤ 5 ∧ (5 : ℚ) ≤ 100 := by norm_num

lemma high_target : (0 : ℚ) ≤ 90 ∧ (90 : ℚ) ≤ 100 := by norm_num

/-- Hardly anything is asked of the press, and nearly all of the paint shop. -/
def plantCalls : List OptimizationCall :=
  [analysisOf "press" "rec-1" 5 low_target, analysisOf "paint" "rec-2" 90 high_target]

/-- The paint shop is told to route for 450 a month. -/
theorem plant_analyzed :
    ∃ row, (afterCalls plantStore plantCalls).recommendations.get "rec-2" = some row
      ∧ row.figures = routingFigures := by
  have hsome : ((afterCalls plantStore plantCalls).recommendations.get "rec-2").isSome = true := by
    decide +kernel
  obtain ⟨row, hrow⟩ := Option.isSome_iff_exists.mp hsome
  refine ⟨row, hrow, (analyses_alike _ _ row (Table.get_eq_some.mp hrow).1).resolve_left ?_⟩
  rintro ⟨earlier, hearlier, -⟩
  exact absurd hearlier List.not_mem_nil

end CostPlatform
