import CostPlatform.Library.PyFloat
import CostPlatform.Library.Ranking
import CostPlatform.Lifecycle.Store

/-!
# The optimization engine

An analysis scores six candidate strategies by weights that depend on the business priority, and
recommends the first of the best score.

The candidates have fixed figures, and the figures settle the matter: under the weights of every
priority it is model routing that wins (`routing_wins`), so that an analysis recommends it for every
workload (`analyze_recommends_routing`).
-/

namespace CostPlatform

open PyJson (PyFloat)

/-! ## What is asked and answered -/

/-- The arguments of an analysis. -/
structure AnalysisRequest where
  workloadId : String := "predictive_maintenance"
  historicalCost : ℚ := 1000
  qualityScore : ℚ := 95 / 100
  latencyMs : ℚ := 800
  budget : Option ℚ := none
  businessPriority : String := "NORMAL"
  currentStrategy : String := "STATIC_ADVANCED_PRIMARY (claude-3-5-sonnet 100%)"
  modelRegistry : Option (List (List (String × PyJson.Json))) := none
  routingPolicy : Option (List (String × PyJson.Json)) := none
  workloadCharacteristics : Option (List (String × PyJson.Json)) := none
  targetSavingPercent : Option ℚ := none

/-- A proposal is not active. -/
structure ProposedPolicy where
  policyId : String
  workloadId : String
  strategy : String
  primaryModel : String
  fallbackModel : String
  estimatedMonthlySavingUsd : ℚ
  status : OptimizationStatus := .PendingApproval
  requiresApproval : Bool := true
  deriving DecidableEq, Repr

structure OptimizationCandidate where
  strategyType : String
  name : String
  description : String
  estimatedSavingUsd : ℚ
  estimatedSavingPercent : ℚ
  qualityImpactPercent : ℚ
  /-- Negative where the strategy is faster. -/
  latencyImpactPercent : ℚ
  riskLevel : OptimizationRiskLevel
  compositeScore : ℚ := 0
  proposedPolicy : ProposedPolicy
  deriving DecidableEq, Repr

structure OptimizationAnalysisResult where
  workloadId : String
  currentStrategy : String
  recommendedStrategy : String
  estimatedSaving : ℚ
  estimatedSavingPercent : ℚ
  qualityImpact : ℚ
  latencyImpact : ℚ
  risk : OptimizationRiskLevel
  reasoning : String
  proposedPolicy : ProposedPolicy
  allCandidates : List OptimizationCandidate
  deriving DecidableEq, Repr

namespace OptimizationEngine

/-! ## Candidates -/

/-- `f"{value:.1f}"`. -/
def tenthsText (value : ℚ) : String :=
  let tenths := (PyFloat.nearest (value * 10)).natAbs
  (if value < 0 then "-" else "") ++ toString (tenths / 10) ++ "." ++ toString (tenths % 10)

/-- What a strategy saves of a cost. -/
def savingUsd (historicalCost percent : ℚ) : ℚ :=
  PyFloat.roundTo 2 (historicalCost * (percent / 100))

/-- `newId` is the identifier drawn for the proposal of a strategy. -/
def buildProposedPolicy (newId : String → String)
    (workloadId strategy primaryModel fallbackModel : String) (saving : ℚ) : ProposedPolicy where
  policyId := newId strategy
  workloadId := workloadId
  strategy := strategy
  primaryModel := primaryModel
  fallbackModel := fallbackModel
  estimatedMonthlySavingUsd := saving

section Candidates

variable (newId : String → String) (workloadId : String) (historicalCost : ℚ)

/-- Strategy 1: route routine inference to a lightweight model. -/
def modelRouting : OptimizationCandidate where
  strategyType := "model_routing"
  name := "Model Routing: Tiered Mini Routing"
  description := "Route standard classification queries to gpt-4o-mini and reserve advanced "
    ++ "models for complex reasoning."
  estimatedSavingUsd := savingUsd historicalCost 45
  estimatedSavingPercent := 45
  qualityImpactPercent := 5 / 10
  latencyImpactPercent := -35
  riskLevel := .Low
  proposedPolicy := buildProposedPolicy newId workloadId "TIERED_MODEL_ROUTING" "gpt-4o-mini"
    "claude-3-5-sonnet" (savingUsd historicalCost 45)

/-- Strategy 2: compress and trim historical prompt tokens. -/
def contextReduction : OptimizationCandidate where
  strategyType := "context_reduction"
  name := "Context Reduction: Sliding Window & Summarization"
  description := "Trim prompt context from 20 events to last 5 recent events with structured "
    ++ "summaries."
  estimatedSavingUsd := savingUsd historicalCost 25
  estimatedSavingPercent := 25
  qualityImpactPercent := 2 / 10
  latencyImpactPercent := -20
  riskLevel := .Low
  proposedPolicy := buildProposedPolicy newId workloadId "CONTEXT_WINDOW_REDUCTION"
    "claude-3-5-sonnet" "gpt-4o-mini" (savingUsd historicalCost 25)

/-- Strategy 3: flatten the subagent hierarchy. -/
def agentReduction : OptimizationCandidate where
  strategyType := "agent_reduction"
  name := "Agent Reduction: Single-Pass Orchestration"
  description := "Consolidate multi-agent review loops into a single optimized prompt pass."
  estimatedSavingUsd := savingUsd historicalCost 30
  estimatedSavingPercent := 30
  qualityImpactPercent := 1
  latencyImpactPercent := -40
  riskLevel := .Medium
  proposedPolicy := buildProposedPolicy newId workloadId "SINGLE_PASS_AGENT_REDUCTION"
    "gpt-4o-mini" "claude-3-5-sonnet" (savingUsd historicalCost 30)

/-- Strategy 4: cache responses and bound the iterations. -/
def toolCallReduction : OptimizationCandidate where
  strategyType := "tool_call_reduction"
  name := "Tool-Call Reduction: Caching & Bound Limits"
  description := "Cache repeated sensor/supplier queries and cap tool iteration loops at 3 calls."
  estimatedSavingUsd := savingUsd historicalCost 20
  estimatedSavingPercent := 20
  qualityImpactPercent := 1 / 10
  latencyImpactPercent := -25
  riskLevel := .Low
  proposedPolicy := buildProposedPolicy newId workloadId "TOOL_CACHE_AND_BOUND"
    "claude-3-5-sonnet" "gpt-4o-mini" (savingUsd historicalCost 20)

/-- Strategy 5: batch off-peak, which a critical workload risks. -/
def workloadScheduling (businessPriority : String) : OptimizationCandidate where
  strategyType := "workload_scheduling"
  name := "Workload Scheduling: Off-Peak Batching"
  description := "Batch non-urgent inventory/logistics calculations into off-peak windows."
  estimatedSavingUsd := savingUsd historicalCost 15
  estimatedSavingPercent := 15
  qualityImpactPercent := 0
  latencyImpactPercent := 50
  riskLevel := if businessPriority ≠ "CRITICAL" then .Low else .High
  proposedPolicy := buildProposedPolicy newId workloadId "OFF_PEAK_BATCH_SCHEDULE" "gpt-4o-mini"
    "claude-3-5-sonnet" (savingUsd historicalCost 15)

/-- Strategy 6: split the traffic. -/
def modelMix : OptimizationCandidate where
  strategyType := "model_mix"
  name := "Model Mix: 80/20 Hybrid Traffic Split"
  description := "Route 80% of traffic to lightweight models and 20% of edge cases to frontier "
    ++ "reasoning models."
  estimatedSavingUsd := savingUsd historicalCost 40
  estimatedSavingPercent := 40
  qualityImpactPercent := 3 / 10
  latencyImpactPercent := -30
  riskLevel := .Low
  proposedPolicy := buildProposedPolicy newId workloadId "HYBRID_80_20_SPLIT" "gpt-4o-mini (80%)"
    "claude-3-5-sonnet (20%)" (savingUsd historicalCost 40)

def generateCandidates (businessPriority : String) : List OptimizationCandidate :=
  [modelRouting newId workloadId historicalCost, contextReduction newId workloadId historicalCost,
    agentReduction newId workloadId historicalCost,
    toolCallReduction newId workloadId historicalCost,
    workloadScheduling newId workloadId historicalCost businessPriority,
    modelMix newId workloadId historicalCost]

end Candidates

/-! ## Scores -/

/-- How much cost, quality, latency and risk weigh. -/
structure Weights where
  cost : ℚ
  quality : ℚ
  latency : ℚ
  risk : ℚ
  deriving DecidableEq, Repr

def weightsFor (businessPriority : String) : Weights :=
  if businessPriority = "CRITICAL" then ⟨30 / 100, 40 / 100, 20 / 100, 10 / 100⟩
  else if businessPriority = "HIGH" then ⟨40 / 100, 30 / 100, 20 / 100, 10 / 100⟩
  else if businessPriority = "LOW" then ⟨65 / 100, 15 / 100, 10 / 100, 10 / 100⟩
  else ⟨50 / 100, 25 / 100, 15 / 100, 10 / 100⟩

def riskPenalty : OptimizationRiskLevel → ℚ
  | .Low => 0
  | .Medium => 15
  | .High => 35
  | .Critical => 70

/-- The composite score, from the figures that it reads. -/
def composite (weights : Weights) (savingPercent qualityImpact latencyImpact : ℚ)
    (risk : OptimizationRiskLevel) : ℚ :=
  let costScore := min 100 (savingPercent * 2)
  let qualityPenalty := qualityImpact * 20
  let latencyScore := -latencyImpact
  PyFloat.roundTo 2 (weights.cost * costScore - weights.quality * qualityPenalty
    + weights.latency * latencyScore - weights.risk * riskPenalty risk)

def scoreCandidate (businessPriority : String) (candidate : OptimizationCandidate) :
    OptimizationCandidate :=
  { candidate with
    compositeScore := composite (weightsFor businessPriority) candidate.estimatedSavingPercent
      candidate.qualityImpactPercent candidate.latencyImpactPercent candidate.riskLevel }

/-- The candidates with their scores, best first. -/
def scoredCandidates (newId : String → String) (request : AnalysisRequest) :
    List OptimizationCandidate :=
  Ranking.sortedBy (fun candidate => -candidate.compositeScore)
    ((generateCandidates newId request.workloadId request.historicalCost
      request.businessPriority).map (scoreCandidate request.businessPriority))

def reasoning (best : OptimizationCandidate) (businessPriority : String) : String :=
  "Recommended strategy '" ++ best.name ++ "' achieves "
    ++ tenthsText best.estimatedSavingPercent ++ "% estimated savings ($"
    ++ PyFloat.moneyText best.estimatedSavingUsd ++ "/mo) with minimal quality impact ("
    ++ tenthsText best.qualityImpactPercent ++ "%) and " ++ tenthsText |best.latencyImpactPercent|
    ++ "% latency improvement while honoring " ++ businessPriority ++ " priority constraints."

/-- Generate and score candidate strategies. -/
def analyze (newId : String → String) (request : AnalysisRequest) :
    Option OptimizationAnalysisResult := do
  let best ← (scoredCandidates newId request).head?
  return {
    workloadId := request.workloadId
    currentStrategy := request.currentStrategy
    recommendedStrategy := best.name
    estimatedSaving := best.estimatedSavingUsd
    estimatedSavingPercent := best.estimatedSavingPercent
    qualityImpact := best.qualityImpactPercent
    latencyImpact := best.latencyImpactPercent
    risk := best.riskLevel
    reasoning := reasoning best request.businessPriority
    proposedPolicy := best.proposedPolicy
    allCandidates := scoredCandidates newId request }

/-! ## The winner -/

/-- The score of a strategy other than model routing. -/
def otherScores (weights : Weights) (scheduling : OptimizationRiskLevel) : List ℚ :=
  [composite weights 25 (2 / 10) (-20) .Low, composite weights 30 1 (-40) .Medium,
    composite weights 20 (1 / 10) (-25) .Low, composite weights 15 0 50 scheduling,
    composite weights 40 (3 / 10) (-30) .Low]

/-- **Model routing wins** under the weights of every priority. -/
theorem routing_wins (businessPriority : String) (scheduling : OptimizationRiskLevel) :
    ∀ score ∈ otherScores (weightsFor businessPriority) scheduling,
      score < composite (weightsFor businessPriority) 45 (5 / 10) (-35) .Low := by
  rw [weightsFor]
  split_ifs
  · cases scheduling <;> decide +kernel
  · cases scheduling <;> decide +kernel
  · cases scheduling <;> decide +kernel
  · cases scheduling <;> decide +kernel

/-- No candidate scores better than model routing. -/
lemma score_le_routing (newId : String → String) (request : AnalysisRequest) :
    ∀ candidate ∈ (generateCandidates newId request.workloadId request.historicalCost
        request.businessPriority).tail,
      (scoreCandidate request.businessPriority candidate).compositeScore
        < (scoreCandidate request.businessPriority
          (modelRouting newId request.workloadId request.historicalCost)).compositeScore := by
  intro candidate hcandidate
  refine routing_wins request.businessPriority
    (if request.businessPriority ≠ "CRITICAL" then .Low else .High) _ ?_
  simp only [generateCandidates, List.tail_cons, List.mem_cons, List.not_mem_nil, or_false]
    at hcandidate
  simp only [otherScores, List.mem_cons]
  rcases hcandidate with rfl | rfl | rfl | rfl | rfl
  · exact .inl rfl
  · exact .inr (.inl rfl)
  · exact .inr (.inr (.inl rfl))
  · exact .inr (.inr (.inr (.inl rfl)))
  · exact .inr (.inr (.inr (.inr (.inl rfl))))

lemma head_scoredCandidates (newId : String → String) (request : AnalysisRequest) :
    (scoredCandidates newId request).head?
      = some (scoreCandidate request.businessPriority
        (modelRouting newId request.workloadId request.historicalCost)) := by
  have hwins := score_le_routing newId request
  refine @Ranking.firstBy_append_cons _ _ _ _ [] _ _ (fun _ h => absurd h List.not_mem_nil) ?_
  intro scored hscored
  obtain ⟨candidate, hcandidate, rfl⟩ := List.mem_map.mp hscored
  exact neg_le_neg (hwins candidate hcandidate).le

/-- What an analysis recommends is model routing. -/
lemma analyze_eq (newId : String → String) (request : AnalysisRequest) :
    ∃ result, analyze newId request = some result
      ∧ result.currentStrategy = request.currentStrategy
      ∧ result.recommendedStrategy = "Model Routing: Tiered Mini Routing"
      ∧ result.estimatedSaving = savingUsd request.historicalCost 45
      ∧ result.estimatedSavingPercent = 45 ∧ result.qualityImpact = 5 / 10
      ∧ result.latencyImpact = -35 ∧ result.risk = .Low
      ∧ result.allCandidates = scoredCandidates newId request := by
  rw [analyze, head_scoredCandidates]
  exact ⟨_, rfl, rfl, rfl, rfl, rfl, rfl, rfl, rfl, rfl⟩

/-- **Every analysis recommends model routing**, whatever is known of the workload, and estimates
    the same share of its cost.  The six candidates come back ranked, and all they propose waits for
    an approval. -/
theorem analyze_recommends_routing (newId : String → String) (request : AnalysisRequest) :
    ∃ result, analyze newId request = some result
      ∧ result.currentStrategy = request.currentStrategy
      ∧ result.recommendedStrategy = "Model Routing: Tiered Mini Routing"
      ∧ result.estimatedSaving = savingUsd request.historicalCost 45
      ∧ result.estimatedSavingPercent = 45 ∧ result.qualityImpact = 5 / 10
      ∧ result.latencyImpact = -35 ∧ result.risk = .Low
      ∧ (result.allCandidates.map OptimizationCandidate.strategyType).Perm
        ["model_routing", "context_reduction", "agent_reduction", "tool_call_reduction",
          "workload_scheduling", "model_mix"]
      ∧ (result.allCandidates.Pairwise fun candidate next =>
        next.compositeScore ≤ candidate.compositeScore)
      ∧ ∀ candidate ∈ result.allCandidates,
        candidate.proposedPolicy.status = .PendingApproval
          ∧ candidate.proposedPolicy.requiresApproval = true := by
  have hperm : (scoredCandidates newId request).Perm _ := Ranking.perm_sortedBy _ _
  obtain ⟨result, hresult, hcurrent, hrecommended, hsaving, hpercent, hquality, hlatency, hrisk,
    hall⟩ := analyze_eq newId request
  refine ⟨result, hresult, hcurrent, hrecommended, hsaving, hpercent, hquality, hlatency, hrisk, ?_⟩
  rw [hall]
  refine ⟨hperm.map _, ?_, fun candidate hcandidate => ?_⟩
  · exact (Ranking.pairwise_sortedBy _ _).imp neg_le_neg_iff.mp
  · obtain ⟨proposed, hproposed, rfl⟩ := List.mem_map.mp (hperm.mem_iff.mp hcandidate)
    simp only [generateCandidates, List.mem_cons, List.not_mem_nil, or_false] at hproposed
    rcases hproposed with rfl | rfl | rfl | rfl | rfl | rfl <;> exact ⟨rfl, rfl⟩

end OptimizationEngine

end CostPlatform
