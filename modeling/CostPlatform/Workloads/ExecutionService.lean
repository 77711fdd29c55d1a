import CostPlatform.Workloads.PredictiveMaintenance
import CostPlatform.Workloads.SupplyChain

/-!
# The execution service

One execution of a registered workflow: look the workflow up, validate its input, run it, and return
its formatted output with what it cost.  What an execution does to the telemetry and the cost
tracker is a list of tasks; `Complete` is the one that reads the tracker.
-/

namespace CostPlatform

open PyJson

/-! ## Tasks -/

/-- What an execution does beside computing. -/
inductive ServiceTask where
  | Emit (eventType : String) (data : Record)
  | RecordCost (costType : String) (amountUsd : ℚ) (description provenance : String)
  | CallModel
  /-- Emit `workflow.completed`, given the total cost of the execution so far. -/
  | Complete (data : ℚ → Record)

inductive WorkflowError where
  | Maintenance (exception : String)
  | SupplyChain (exception : FloatError)
  deriving DecidableEq, Repr

inductive ServiceError where
  | ValueError (message : String)
  | Workflow (error : WorkflowError)
  deriving DecidableEq, Repr

/-- What the service reads of a raw output, besides the formatted one. -/
structure RawOutput where
  formatted : Record
  modelUsed : Option String
  promptTokens : Option Int
  completionTokens : Option Int
  totalTokens : Option Int

inductive ExecutionResponse where
  | Failed (executionId workflowType error : String)
  | Completed (executionId workflowType : String) (raw : RawOutput) (costUsd executionTime : ℚ)

structure AIExecutionService where
  runtime : Runtime
  /-- The printed form of a float. -/
  floatText : PyFloat → String
  optimizer : SupplyChainOptimizer
  /-- `str(e)`. -/
  errorText : WorkflowError → String
  rootCauseGateway : RootCauseRequest → Except String RootCauseResponse
  tradeOffGateway : TradeOffRequest → Except String TradeOffResponse
  defaultModel : String := "predictive-maintenance-model"

/-! ## Predictive maintenance -/

namespace PredictiveMaintenanceWorkflow

/-- What the validation of a maintenance input returned. -/
structure Validation where
  isValid : Bool
  errors : List String := []
  deriving DecidableEq, Repr

/-- What is wrong with the sensor readings, if anything. -/
def readingsError (inputData : Record) : Option String :=
  match lookup inputData "sensor_readings" with
  | none => some "sensor_readings is required"
  | some .Null => some "sensor_readings is required"
  | some (.Dict entries) =>
      if entries.isEmpty then some "sensor_readings must not be empty" else none
  | some _ => some "sensor_readings must be a dict"

def machineError (inputData : Record) : Option String :=
  if ((lookup inputData "machine_id").getD .Null).truthy then none
  else some "machine_id is required"

/-- Validate that the input contains the minimum required fields. -/
def validateInput : Option Record → Validation
  | none => { isValid := false, errors := ["input_data is required"] }
  | some inputData =>
      let errors := (machineError inputData).toList ++ (readingsError inputData).toList
      if errors.isEmpty then { isValid := true } else { isValid := false, errors := errors }

/-- What the workflow reads of its input. -/
def readInput (inputData : Record) : Except String MaintenanceInput := do
  let machineId ← Fallible.demand (lookup inputData "machine_id") "KeyError"
  let sensorReadings ← Fallible.demand (lookup inputData "sensor_readings") "KeyError"
  let entries ← match sensorReadings with
    | .Dict entries => .ok entries
    | _ => .error "AttributeError"
  return {
    machineId := machineId
    sensorReadings := entries
    maintenanceHistory := (lookup inputData "maintenance_history").getD (.Items [])
    machineType := (lookup inputData "machine_type").getD (.Text "unknown") }

variable (workflow : PredictiveMaintenanceWorkflow)

/-- What the event of a completed step carries. -/
def stepData (input : MaintenanceInput) (step : String) : Record :=
  match step, workflow.detector.detect input.sensorReadings with
  | "anomaly_detection", .ok result =>
      [("step", .Text step), ("is_anomalous", .Boolean result.isAnomalous),
        ("anomaly_score", workflow.floatJson result.anomalyScore),
        ("anomalous_metrics", .Items (result.anomalousMetrics.map .Text))]
  | "risk_classification", .ok result =>
      [("step", .Text step), ("risk_level", .Text (classifyRisk result).value),
        ("requires_approval",
          .Boolean (decide (classifyRisk result = .Critical ∨ classifyRisk result = .High))),
        ("used_llm",
          .Boolean (decide (COMPLEX_ANOMALY_THRESHOLD ≤ result.anomalousMetrics.length)))]
  | _, _ => [("step", .Text step), ("status", .Text "passed")]

/-- The tasks of the service behind an event of the workflow.  The event of the tracker follows that
    of the completed call. -/
def tasks (input : MaintenanceInput) : MaintenanceEvent → List ServiceTask
  | .StepCompleted step => [.Emit "workflow.step_completed" (workflow.stepData input step)]
  | .LlmCallStarted model =>
      [.Emit "llm.call_started"
        [("model", .Text model), ("reason", .Text "complex_root_cause")]]
  | .ModelCall _ => [.CallModel]
  | .CostRecorded amountUsd description =>
      [.RecordCost "llm_inference" amountUsd description "ESTIMATED"]
  | .LlmCallCompleted response =>
      [.Emit "llm.call_completed"
          [("model", .Text response.model),
            ("input_tokens", SupplyChainWorkflow.optionalInteger response.inputTokens),
            ("output_tokens", SupplyChainWorkflow.optionalInteger response.outputTokens),
            ("total_tokens", SupplyChainWorkflow.optionalInteger response.totalTokens),
            ("latency_ms", workflow.floatJson (.Finite response.latencyMs))],
        .Emit "cost.recorded"
          [("cost_type", .Text "llm_inference"), ("amount_usd", workflow.floatJson (.Finite 0)),
            ("provenance", .Text "ESTIMATED")]]

/-- Format the raw output into the shape of the response. -/
def formatOutput (output : MaintenanceOutput) : Record :=
  [("machine_id", output.machineId), ("recommendation_type", .Text output.recommendationType),
    ("priority", .Text output.priority.value), ("description", output.description),
    ("estimated_cost_usd", .Null), ("estimated_downtime_hours", .Null),
    ("risk_level", .Text output.riskLevel.value),
    ("confidence_score", workflow.floatJson output.confidenceScore),
    ("recommended_action", .Text output.recommendedAction),
    ("data_quality", .Text output.dataQuality),
    ("anomaly_details",
      .Dict [("is_anomalous", .Boolean output.isAnomalous),
        ("anomaly_score", workflow.floatJson output.anomalyScore),
        ("anomalous_metrics", .Items (output.anomalousMetrics.map .Text)),
        ("missing_metrics", .Items (output.missingMetrics.map .Text))]),
    ("requires_approval", .Boolean output.requiresApproval)]

def rawOutput (output : MaintenanceOutput) : RawOutput where
  formatted := workflow.formatOutput output
  modelUsed := output.modelUsed
  promptTokens := output.promptTokens
  completionTokens := output.completionTokens
  totalTokens := output.totalTokens

/-- The workflow as the service runs it. -/
def run (inputData : Record) : Traced ServiceTask WorkflowError RawOutput :=
  match readInput inputData with
  | .error exception => Traced.raise (.Maintenance exception)
  | .ok input =>
      let execution := workflow.execute input
      ⟨execution.events.flatMap (workflow.tasks input),
        (execution.result.map workflow.rawOutput).mapError .Maintenance⟩

end PredictiveMaintenanceWorkflow

/-! ## Supply chain -/

namespace SupplyChainWorkflow

variable (workflow : SupplyChainWorkflow)

/-- The task of the service behind an event of the workflow. -/
def task : SupplyChainEvent → ServiceTask
  | .Emitted event payload => .Emit event payload
  | .ModelCall _ => .CallModel
  | .CostRecorded costType amountUsd description provenance =>
      .RecordCost costType amountUsd description provenance

def allocationJson (allocation : SupplierAllocation) : Json :=
  .Dict [("item_id", .Text allocation.itemId),
    ("selected_supplier_id", .Text allocation.selectedSupplierId),
    ("supplier_name", .Text allocation.supplierName),
    ("order_quantity", workflow.number allocation.orderQuantity),
    ("unit_price", workflow.number allocation.unitPrice),
    ("supplier_risk_score", workflow.number allocation.supplierRiskScore)]

def logisticsJson (plan : LogisticsPlan) : Json :=
  .Dict [("selected_route_id", .Text plan.selectedRouteId),
    ("shipping_mode", .Text plan.shippingMode),
    ("estimated_transit_days", .Integer plan.estimatedTransitDays),
    ("logistics_cost_usd", workflow.number plan.logisticsCostUsd)]

/-- Format the output. -/
def formatOutput (output : SupplyChainOutput) : Record :=
  [("workflow_type", .Text "supply_chain"),
    ("recommendation_type", .Text output.recommendationType), ("priority", output.priority),
    ("status", .Text output.status),
    ("inventory_status",
      .Dict [("items_analyzed", .Integer output.itemsAnalyzed),
        ("stockout_items", .Items (output.stockoutItems.map .Text)),
        ("total_shortage_units", workflow.number output.totalShortageUnits)]),
    ("supplier_allocation", .Items (output.supplierAllocation.map workflow.allocationJson)),
    ("logistics_plan", output.logisticsPlan.elim .Null workflow.logisticsJson),
    ("total_estimated_cost_usd", workflow.number output.totalEstimatedCostUsd),
    ("budget_status", .Text output.budgetStatus.value),
    ("budget_pressure", .Boolean output.budgetPressure),
    ("budget_overrun_usd", workflow.number output.budgetOverrunUsd),
    ("total_lead_time_days", .Integer output.totalLeadTimeDays),
    ("risk_level", .Text output.riskLevel.value),
    ("requires_approval", .Boolean output.requiresApproval),
    ("explanation", output.explanation), ("recommended_action", .Text output.recommendedAction),
    ("data_quality", .Text output.dataQuality)]

def rawOutput (output : SupplyChainOutput) : RawOutput where
  formatted := workflow.formatOutput output
  modelUsed := output.modelUsed
  promptTokens := output.promptTokens
  completionTokens := output.completionTokens
  totalTokens := output.totalTokens

/-- The workflow as the service runs it. -/
def run (inputData : Record) : Traced ServiceTask WorkflowError RawOutput :=
  let execution := workflow.execute inputData
  ⟨execution.events.map task, (execution.result.map workflow.rawOutput).mapError .SupplyChain⟩

end SupplyChainWorkflow

/-! ## The service -/

namespace AIExecutionService

variable (service : AIExecutionService)

/-- The workflows get the service's default model, in place of their own. -/
def maintenance : PredictiveMaintenanceWorkflow where
  runtime := service.runtime
  floatText := service.floatText
  gateway := service.rootCauseGateway
  detector := .new none
  defaultModel := service.defaultModel

def supplyChain : SupplyChainWorkflow where
  optimizer := service.optimizer
  floatText := service.floatText
  gateway := service.tradeOffGateway
  defaultModel := service.defaultModel

def secondsJson (seconds : ℚ) : Json :=
  .Float (PyFloat.round 4 (.Finite seconds)) (service.floatText (PyFloat.round 4 (.Finite seconds)))

/-- Steps after the lookup, for a workflow with its validation and its run. -/
def executeWorkflow (executionId workflowType : String) (seconds : ℚ) (isValid : Bool)
    (errors : List String) (run : Traced ServiceTask WorkflowError RawOutput) :
    Traced ServiceTask ServiceError (ℚ → ExecutionResponse) :=
  if !isValid then
    Traced.perform
      (.Emit "workflow.failed"
        [("workflow_type", .Text workflowType), ("reason", .Text "validation_failed"),
          ("errors", .Items (errors.map .Text))])
      (.ok fun _ => .Failed executionId workflowType
        ("Validation failed: " ++ ", ".intercalate errors))
  else do
    Traced.perform (.Emit "workflow.started" [("workflow_type", .Text workflowType)]) (.ok ())
    match run.result with
    | .ok raw =>
        ⟨run.events ++ [.Complete fun totalCost =>
            [("workflow_type", .Text workflowType),
              ("execution_time_seconds", service.secondsJson seconds),
              ("cost_usd", .Float (.Finite totalCost) (service.floatText (.Finite totalCost)))]],
          .ok fun totalCost =>
            .Completed executionId workflowType raw totalCost (PyFloat.roundTo 4 seconds)⟩
    | .error error =>
        ⟨run.events ++ [.Emit "workflow.failed"
            [("workflow_type", .Text workflowType), ("reason", .Text "execution_error"),
              ("error", .Text (service.errorText error)),
              ("execution_time_seconds", service.secondsJson seconds)]],
          .error (.Workflow error)⟩

/-- Execute an AI workflow.  What it returns takes the total cost that `Complete` reads. -/
def execute (executionId workflowType : String) (inputData : Option Record) (seconds : ℚ) :
    Traced ServiceTask ServiceError (ℚ → ExecutionResponse) :=
  match workflowType with
  | "predictive_maintenance" =>
      service.executeWorkflow executionId workflowType seconds
        (PredictiveMaintenanceWorkflow.validateInput inputData).isValid
        (PredictiveMaintenanceWorkflow.validateInput inputData).errors
        (service.maintenance.run (inputData.getD []))
  | "supply_chain" =>
      service.executeWorkflow executionId workflowType seconds
        (SupplyChainWorkflow.validateInput inputData).isValid
        (SupplyChainWorkflow.validateInput inputData).errors
        (service.supplyChain.run (inputData.getD []))
  | _ =>
      Traced.raise (.ValueError ("Unknown workflow type: " ++ workflowType
        ++ ". Supported types: predictive_maintenance, supply_chain"))

end AIExecutionService

end CostPlatform
