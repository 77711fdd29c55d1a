import CostPlatform.Library.Runs
import CostPlatform.Library.TraceMonitor
import CostPlatform.Workloads.ExecutionService

/-!
# Executions side by side

The service has one telemetry emitter and one cost tracker, which all executions write to, each one
whenever it is its turn.  Whatever the turns are, what the sinks hold of an execution is what it
leaves alone (`executions_isolated`), and it is a conversation in order, cut short where the
execution was (`executions_converse`).

The tracker cannot tell what an execution cost: both workflows record a model call with an amount of
zero (`executions_free`).
-/

namespace CostPlatform

open PyJson

/-! ## The sinks -/

structure TelemetryEvent where
  eventType : String
  executionId : String
  data : Record

structure TelemetryEmitter where
  events : List TelemetryEvent

namespace TelemetryEmitter

/-- An event type that is not recognised is recorded all the same. -/
def emit (emitter : TelemetryEmitter) (eventType executionId : String) (data : Record) :
    TelemetryEmitter where
  events := emitter.events ++ [⟨eventType, executionId, data⟩]

def getEvents (emitter : TelemetryEmitter) (executionId : Option String) : List TelemetryEvent :=
  match executionId with
  | none => emitter.events
  | some executionId => emitter.events.filter fun event => event.executionId = executionId

end TelemetryEmitter

structure CostRecord where
  executionId : String
  costType : String
  amountUsd : ℚ
  description : String
  provenance : String
  deriving DecidableEq, Repr

structure CostTracker where
  records : List CostRecord

namespace CostTracker

def recordCost (tracker : CostTracker) (executionId costType : String) (amountUsd : ℚ)
    (description provenance : String) : CostTracker where
  records := tracker.records ++ [⟨executionId, costType, amountUsd, description, provenance⟩]

def getRecords (tracker : CostTracker) (executionId : Option String) : List CostRecord :=
  match executionId with
  | none => tracker.records
  | some executionId => tracker.records.filter fun record => record.executionId = executionId

/-- Total cost of an execution, all provenances. -/
def getTotalCost (tracker : CostTracker) (executionId : String) : ℚ :=
  ((tracker.getRecords (some executionId)).map CostRecord.amountUsd).sum

end CostTracker

/-! ## The system -/

/-- One call of the service.  The answers that it gets are its own. -/
structure ServiceCall where
  service : AIExecutionService
  workflowType : String
  inputData : Option Record
  seconds : ℚ

def ServiceCall.execution (call : ServiceCall) (executionId : String) :
    Traced ServiceTask ServiceError (ℚ → ExecutionResponse) :=
  call.service.execute executionId call.workflowType call.inputData call.seconds

/-- The sinks, and for each execution the tasks left and the cost that it read. -/
structure ServiceState where
  telemetry : TelemetryEmitter
  costTracker : CostTracker
  remaining : String → List ServiceTask
  totalCost : String → ℚ

namespace ServiceState

def start (calls : String → ServiceCall) : ServiceState where
  telemetry := ⟨[]⟩
  costTracker := ⟨[]⟩
  remaining executionId := ((calls executionId).execution executionId).events
  totalCost _ := 0

def perform (state : ServiceState) (executionId : String) : ServiceTask → ServiceState
  | .Emit eventType data =>
      { state with telemetry := state.telemetry.emit eventType executionId data }
  | .RecordCost costType amountUsd description provenance =>
      { state with
        costTracker :=
          state.costTracker.recordCost executionId costType amountUsd description provenance }
  | .CallModel => state
  | .Complete data =>
      let totalCost := state.costTracker.getTotalCost executionId
      { state with
        telemetry := state.telemetry.emit "workflow.completed" executionId (data totalCost)
        totalCost := Function.update state.totalCost executionId totalCost }

/-- The turn of an execution: it performs its next task. -/
def step (state : ServiceState) (executionId : String) : ServiceState :=
  match state.remaining executionId with
  | [] => state
  | task :: tasks =>
      { state.perform executionId task with
        remaining := Function.update state.remaining executionId tasks }

/-- The service after the turns. -/
abbrev after (calls : String → ServiceCall) (turns : List String) : ServiceState :=
  Runs.run step (start calls) turns

/-- What the caller of an execution got, once there is nothing left to do. -/
def response (state : ServiceState) (calls : String → ServiceCall) (executionId : String) :
    Option (Except ServiceError ExecutionResponse) :=
  if (state.remaining executionId).isEmpty then
    some (((calls executionId).execution executionId).result.map fun response =>
      response (state.totalCost executionId))
  else none

end ServiceState

/-! ## One execution by itself -/

/-- What a task leaves in the telemetry. -/
def ServiceTask.emitted (executionId : String) (totalCost : ℚ) : ServiceTask → List TelemetryEvent
  | .Emit eventType data => [⟨eventType, executionId, data⟩]
  | .Complete data => [⟨"workflow.completed", executionId, data totalCost⟩]
  | _ => []

/-- What a task leaves in the tracker. -/
def ServiceTask.recorded (executionId : String) : ServiceTask → List CostRecord
  | .RecordCost costType amountUsd description provenance =>
      [⟨executionId, costType, amountUsd, description, provenance⟩]
  | _ => []

def ServiceTask.eventTypes : ServiceTask → List String
  | .Emit eventType _ => [eventType]
  | .Complete _ => ["workflow.completed"]
  | _ => []

/-- What there is of one execution. -/
structure ExecutionView where
  events : List TelemetryEvent
  records : List CostRecord
  remaining : List ServiceTask
  totalCost : ℚ

def ServiceState.view (state : ServiceState) (executionId : String) : ExecutionView where
  events := state.telemetry.getEvents (some executionId)
  records := state.costTracker.getRecords (some executionId)
  remaining := state.remaining executionId
  totalCost := state.totalCost executionId

namespace ExecutionView

def costSoFar (view : ExecutionView) : ℚ := (view.records.map CostRecord.amountUsd).sum

/-- What `Complete` read. -/
def readCost (view : ExecutionView) : ServiceTask → ℚ
  | .Complete _ => view.costSoFar
  | _ => view.totalCost

def step (executionId : String) (view : ExecutionView) : ExecutionView :=
  match view.remaining with
  | [] => view
  | task :: tasks =>
      { events := view.events ++ task.emitted executionId view.costSoFar
        records := view.records ++ task.recorded executionId
        remaining := tasks
        totalCost := view.readCost task }

end ExecutionView

namespace ServiceState

variable {state : ServiceState} {executionId other : String}

lemma getEvents_emit (emitter : TelemetryEmitter) (eventType : String) (data : Record) :
    (emitter.emit eventType other data).getEvents (some executionId)
      = emitter.getEvents (some executionId)
        ++ if other = executionId then [⟨eventType, other, data⟩] else [] := by
  simp only [TelemetryEmitter.getEvents, TelemetryEmitter.emit, List.filter_append]
  split_ifs with h <;> simp [h]

lemma getRecords_recordCost (tracker : CostTracker) (costType : String) (amountUsd : ℚ)
    (description provenance : String) :
    (tracker.recordCost other costType amountUsd description provenance).getRecords
        (some executionId)
      = tracker.getRecords (some executionId)
        ++ if other = executionId then [⟨other, costType, amountUsd, description, provenance⟩]
          else [] := by
  simp only [CostTracker.getRecords, CostTracker.recordCost, List.filter_append]
  split_ifs with h <;> simp [h]

/-- **A turn moves the view of its own execution**, and leaves the views of the others. -/
lemma view_step (state : ServiceState) (turn executionId : String) :
    (state.step turn).view executionId
      = if turn = executionId then (state.view executionId).step executionId
        else state.view executionId := by
  split_ifs with h
  · subst h
    cases htasks : state.remaining turn with
    | nil => simp only [step, ExecutionView.step, view, htasks]
    | cons task tasks =>
        cases task <;>
          simp [step, ExecutionView.step, view, htasks, perform, getEvents_emit,
            getRecords_recordCost, ServiceTask.emitted, ServiceTask.recorded,
            ExecutionView.readCost, ExecutionView.costSoFar, CostTracker.getTotalCost]
  · cases htasks : state.remaining turn with
    | nil => simp only [step, htasks]
    | cons task tasks =>
        cases task <;>
          simp [step, view, htasks, perform, getEvents_emit, getRecords_recordCost, h, Ne.symm h]

/-- An execution is where its own turns took it. -/
lemma view_run (state : ServiceState) (turns : List String) (executionId : String) :
    (Runs.run step state turns).view executionId
      = Runs.run (fun view (_ : Unit) => view.step executionId) (state.view executionId)
        (List.replicate (turns.count executionId) ()) := by
  have hpart := @Runs.run_part _ _ step _ _ (fun state : ServiceState => state.view executionId)
    (fun view (_ : Unit) => view.step executionId) (· = executionId) _ (fun _ => ())
    (fun state turn => view_step state turn executionId) state turns
  have hturns : (turns.filter (· = executionId)).map (fun _ => ())
      = List.replicate (turns.count executionId) () := by
    rw [List.map_const', ← List.countP_eq_length_filter]
    rfl
  rw [← hturns]
  exact hpart

lemma view_start (calls : String → ServiceCall) (executionId : String) :
    (start calls).view executionId
      = ⟨[], [], ((calls executionId).execution executionId).events, 0⟩ :=
  rfl

/-- **Executions do not see each other.**  Whatever the turns, the events and the cost records of an
    execution, and what its caller gets, are those of a service that runs nothing else for as many
    turns. -/
theorem executions_isolated (calls : String → ServiceCall) (turns : List String)
    (executionId : String) :
    let alone := after (fun _ => calls executionId)
      (List.replicate (turns.count executionId) executionId)
    (after calls turns).telemetry.getEvents (some executionId)
        = alone.telemetry.getEvents (some executionId)
      ∧ (after calls turns).costTracker.getRecords (some executionId)
        = alone.costTracker.getRecords (some executionId)
      ∧ (after calls turns).response calls executionId
        = alone.response (fun _ => calls executionId) executionId := by
  intro alone
  have hview : (after calls turns).view executionId = alone.view executionId := by
    rw [after, view_run, view_run, List.count_replicate_self]
    rfl
  refine ⟨congrArg ExecutionView.events hview, congrArg ExecutionView.records hview, ?_⟩
  have hremaining : (after calls turns).remaining executionId = alone.remaining executionId :=
    congrArg ExecutionView.remaining hview
  have hcost : (after calls turns).totalCost executionId = alone.totalCost executionId :=
    congrArg ExecutionView.totalCost hview
  rw [response, response, hremaining, hcost]

end ServiceState

/-! ## The conversation of an execution -/

/-- Where an execution stands in what it tells. -/
inductive ExecutionPhase where
  | Fresh
  | Running
  /-- A model is being asked. -/
  | Calling
  /-- The cost of the call is in the tracker, and nothing is told of it yet. -/
  | Recorded
  | Answered
  | Reasoned
  | Ended (asked : Bool)
  deriving DecidableEq, Repr

/-- The events of an execution in order: it starts or is refused; it asks a model once at most, and
    what it completed it reports; nothing comes after its end. -/
def conversation : ExecutionPhase → String → Option ExecutionPhase
  | .Fresh, "workflow.started" => some .Running
  | .Fresh, "workflow.failed" => some (.Ended false)
  | .Running, "workflow.step_completed" => some .Running
  | .Running, "llm.call_started" => some .Calling
  | .Running, "workflow.completed" => some (.Ended false)
  | .Running, "workflow.failed" => some (.Ended false)
  | .Calling, "llm.call_completed" => some .Answered
  | .Calling, "workflow.failed" => some (.Ended false)
  | .Answered, "cost.recorded" => some .Reasoned
  | .Reasoned, "workflow.step_completed" => some .Reasoned
  | .Reasoned, "workflow.completed" => some (.Ended true)
  | .Reasoned, "workflow.failed" => some (.Ended true)
  | _, _ => none

/-- The tasks of an execution in order: between asking and the answer, its cost is recorded. -/
def follow : ExecutionPhase → ServiceTask → Option ExecutionPhase
  | .Recorded, .Emit eventType _ =>
      if eventType = "llm.call_completed" then some .Answered else none
  | .Calling, .Emit eventType _ =>
      if eventType = "llm.call_completed" then none else conversation .Calling eventType
  | .Calling, .CallModel => some .Calling
  | .Calling, .RecordCost costType amountUsd _ provenance =>
      if costType = "llm_inference" ∧ amountUsd = 0 ∧ provenance = "ESTIMATED" then some .Recorded
      else none
  | phase, .Emit eventType _ => conversation phase eventType
  | phase, .Complete _ => conversation phase "workflow.completed"
  | _, _ => none

namespace ExecutionPhase

/-- What the events tell of the phase. -/
def told : ExecutionPhase → ExecutionPhase
  | .Recorded => .Calling
  | phase => phase

/-- How many cost records there are. -/
def records : ExecutionPhase → Nat
  | .Recorded => 1
  | .Answered => 1
  | .Reasoned => 1
  | .Ended asked => asked.toNat
  | _ => 0

end ExecutionPhase

/-- **What a task may be**: an event of the conversation, the answer once its cost is in the
    tracker, the record of that cost, or the call itself. -/
lemma follow_cases {phase next : ExecutionPhase} {task : ServiceTask}
    (h : follow phase task = some next) :
    (∃ eventType, task.eventTypes = [eventType] ∧ (∀ executionId, task.recorded executionId = [])
        ∧ phase.told = phase ∧ (phase = .Calling → eventType ≠ "llm.call_completed")
        ∧ conversation phase eventType = some next)
      ∨ (∃ data, phase = .Recorded ∧ task = .Emit "llm.call_completed" data ∧ next = .Answered)
      ∨ (∃ description, phase = .Calling
        ∧ task = .RecordCost "llm_inference" 0 description "ESTIMATED" ∧ next = .Recorded)
      ∨ phase = .Calling ∧ task = .CallModel ∧ next = .Calling := by
  cases task with
  | Emit eventType data =>
      cases phase with
      | Recorded =>
          simp only [follow] at h
          split_ifs at h with htype
          cases h
          exact .inr (.inl ⟨data, rfl, by rw [htype], rfl⟩)
      | Calling =>
          simp only [follow] at h
          split_ifs at h with htype
          exact .inl ⟨eventType, rfl, fun _ => rfl, rfl, fun _ => htype, h⟩
      | _ => exact .inl ⟨eventType, rfl, fun _ => rfl, rfl, nofun, h⟩
  | RecordCost costType amountUsd description provenance =>
      cases phase with
      | Calling =>
          simp only [follow] at h
          split_ifs at h with hcost
          obtain ⟨rfl, rfl, rfl⟩ := hcost
          cases h
          exact .inr (.inr (.inl ⟨description, rfl, rfl, rfl⟩))
      | _ => cases h
  | CallModel =>
      cases phase with
      | Calling =>
          cases h
          exact .inr (.inr (.inr ⟨rfl, rfl, rfl⟩))
      | _ => cases h
  | Complete data =>
      cases phase with
      | Recorded => cases h
      | _ =>
          exact .inl ⟨"workflow.completed", rfl, fun _ => rfl, rfl, fun _ => by decide, h⟩

/-- No event tells that a cost is recorded before the answer is. -/
lemma told_of_conversation {phase next : ExecutionPhase} {eventType : String}
    (h : conversation phase eventType = some next) : next.told = next := by
  unfold conversation at h
  split at h <;> cases h <;> rfl

lemma records_of_conversation {phase next : ExecutionPhase} {eventType : String}
    (h : conversation phase eventType = some next)
    (hcalling : phase = .Calling → eventType ≠ "llm.call_completed") :
    next.records = phase.records := by
  unfold conversation at h
  split at h <;> cases h <;> first | rfl | exact absurd rfl (hcalling rfl)

/-- **What the events tell is a conversation** where the tasks are in order. -/
lemma conversation_of_follow {phase next : ExecutionPhase} {task : ServiceTask}
    (h : follow phase task = some next) :
    Monitor.run conversation phase.told task.eventTypes = some next.told := by
  rcases follow_cases h with ⟨eventType, hevents, -, hphase, -, hnext⟩ | ⟨data, rfl, rfl, rfl⟩ |
    ⟨description, rfl, rfl, rfl⟩ | ⟨rfl, rfl, rfl⟩
  · rw [hevents, hphase, told_of_conversation hnext, Monitor.run_cons, hnext]
    rfl
  · rfl
  · rfl
  · rfl

/-- **The tracker is told of each answer**, and of an amount of zero. -/
lemma records_of_follow {phase next : ExecutionPhase} {task : ServiceTask} (executionId : String)
    (h : follow phase task = some next) :
    phase.records + (task.recorded executionId).length = next.records
      ∧ ∀ record ∈ task.recorded executionId, record.amountUsd = 0 := by
  rcases follow_cases h with ⟨eventType, -, hrecorded, -, hcalling, hnext⟩ | ⟨data, rfl, rfl, rfl⟩ |
    ⟨description, rfl, rfl, rfl⟩ | ⟨rfl, rfl, rfl⟩
  · rw [hrecorded, records_of_conversation hnext hcalling]
    exact ⟨rfl, nofun⟩
  · exact ⟨rfl, nofun⟩
  · refine ⟨rfl, fun record hrecord => ?_⟩
    rw [List.mem_singleton.mp hrecord]
  · exact ⟨rfl, nofun⟩

/-! ## The workflows -/

/-- Where a workflow returns: it used a model where it asked one. -/
def Returned (raw : RawOutput) (phase : ExecutionPhase) : Prop :=
  (phase = .Running ∧ raw.modelUsed = none)
    ∨ (phase = .Reasoned ∧ raw.modelUsed.isSome = true)

/-- Where a workflow fails. -/
def CanFail (phase : ExecutionPhase) : Prop :=
  phase = .Running ∨ phase = .Calling ∨ phase = .Reasoned

namespace PredictiveMaintenanceWorkflow

variable (workflow : PredictiveMaintenanceWorkflow) (input : MaintenanceInput)

/-- The phases, as the events of the workflow move them. -/
def phaseStep (phase : ExecutionPhase) (event : MaintenanceEvent) : Option ExecutionPhase :=
  Monitor.run follow phase (workflow.tasks input event)

lemma guides_llmRootCause (result : AnomalyResult) :
    Monitor.Guides (workflow.phaseStep input) .Running (workflow.llmRootCause input result)
      (fun _ phase => phase = .Reasoned) (fun _ phase => CanFail phase) := by
  rw [llmRootCause]
  refine Monitor.guides_emit_bind rfl ?_
  refine Monitor.guides_silent_bind (fun _ _ => .inr (.inl rfl)) fun history _ => ?_
  refine Monitor.guides_perform_bind rfl (fun _ _ => .inr (.inl rfl)) fun response _ => ?_
  refine Monitor.guides_emit_bind rfl ?_
  refine Monitor.guides_emit_bind rfl ?_
  refine Monitor.guides_silent_bind (fun _ _ => .inr (.inr rfl)) fun explanation _ => ?_
  exact Monitor.guides_pure rfl

theorem guides_execute :
    Monitor.Guides (workflow.phaseStep input) .Running (workflow.execute input)
      (fun output phase => Returned (workflow.rawOutput output) phase)
      (fun _ phase => CanFail phase) := by
  rw [execute]
  refine Monitor.guides_emit_bind rfl ?_
  refine Monitor.guides_silent_bind (fun _ _ => .inl rfl) fun result _ => ?_
  refine Monitor.guides_emit_bind rfl ?_
  split_ifs
  · refine (workflow.guides_llmRootCause input result).bind ?_
    rintro rootCause phase rfl
    refine Monitor.guides_emit_bind rfl ?_
    exact Monitor.guides_pure (.inr ⟨rfl, rfl⟩)
  · refine Monitor.guides_emit_bind rfl ?_
    exact Monitor.guides_pure (.inl ⟨rfl, rfl⟩)
  · exact Monitor.guides_pure (.inl ⟨rfl, rfl⟩)

lemma guides_run (inputData : Record) :
    Monitor.Guides follow .Running (workflow.run inputData) Returned
      (fun _ phase => CanFail phase) := by
  rw [run]
  cases readInput inputData with
  | error exception => exact ⟨.Running, rfl, nofun, fun _ _ => .inl rfl⟩
  | ok input => exact (workflow.guides_execute input).translate

end PredictiveMaintenanceWorkflow

namespace SupplyChainWorkflow

variable (workflow : SupplyChainWorkflow)

/-- The phases, as the events of the workflow move them. -/
def phaseStep (phase : ExecutionPhase) (event : SupplyChainEvent) : Option ExecutionPhase :=
  Monitor.run follow phase [task event]

lemma guides_llmReasoning (input : Input) (analysis : SupplyChainAnalysisResult) :
    Monitor.Guides phaseStep .Running (workflow.llmReasoning input analysis)
      (fun _ phase => phase = .Reasoned) (fun _ phase => CanFail phase) := by
  rw [llmReasoning]
  refine Monitor.guides_emit_bind rfl ?_
  refine Monitor.guides_perform_bind rfl (fun _ _ => .inr (.inl rfl)) fun response _ => ?_
  refine Monitor.guides_emit_bind rfl ?_
  refine Monitor.guides_emit_bind rfl ?_
  refine Monitor.guides_emit_bind rfl ?_
  refine Monitor.guides_silent_bind (fun _ _ => .inr (.inr rfl)) fun explanation _ => ?_
  exact Monitor.guides_pure rfl

lemma guides_reason (input : Input) (analysis : SupplyChainAnalysisResult) :
    Monitor.Guides phaseStep .Running (workflow.reason input analysis)
      (fun tradeOff phase => (phase = .Running ∧ tradeOff = none)
        ∨ (phase = .Reasoned ∧ tradeOff.isSome = true))
      (fun _ phase => CanFail phase) := by
  rw [reason]
  split_ifs
  · refine (workflow.guides_llmReasoning input analysis).bind ?_
    rintro tradeOff phase rfl
    exact Monitor.guides_pure (.inr ⟨rfl, rfl⟩)
  · exact Monitor.guides_pure (.inl ⟨rfl, rfl⟩)

theorem guides_execute (inputData : Record) :
    Monitor.Guides phaseStep .Running (workflow.execute inputData)
      (fun output phase => Returned (workflow.rawOutput output) phase)
      (fun _ phase => CanFail phase) := by
  rw [execute]
  refine Monitor.guides_silent_bind (fun _ _ => .inl rfl) fun input _ => ?_
  refine Monitor.guides_emit_bind rfl ?_
  refine Monitor.guides_silent_bind (fun _ _ => .inl rfl) fun budgetStatus _ => ?_
  refine Monitor.guides_emit_bind rfl ?_
  refine Monitor.guides_silent_bind (fun _ _ => .inl rfl) fun suppliers _ => ?_
  refine Monitor.guides_silent_bind (fun _ _ => .inl rfl) fun logistics _ => ?_
  refine Monitor.guides_silent_bind (fun _ _ => .inl rfl) fun analysis _ => ?_
  refine Monitor.guides_emit_bind rfl ?_
  rw [recommend]
  refine (workflow.guides_reason input analysis).bind ?_
  rintro tradeOff phase (⟨rfl, rfl⟩ | ⟨rfl, hsome⟩)
  · refine Monitor.guides_emit_bind rfl ?_
    exact Monitor.guides_pure (.inl ⟨rfl, rfl⟩)
  · refine Monitor.guides_emit_bind rfl ?_
    refine Monitor.guides_pure (.inr ⟨rfl, ?_⟩)
    obtain ⟨_, rfl⟩ := Option.isSome_iff_exists.mp hsome
    rfl

lemma guides_run (inputData : Record) :
    Monitor.Guides follow .Running (workflow.run inputData) Returned
      (fun _ phase => CanFail phase) := by
  rw [run, List.map_eq_flatMap]
  exact (workflow.guides_execute inputData).translate

end SupplyChainWorkflow

/-! ## The service -/

namespace ExecutionResponse

/-- Whether the answer names a model. -/
def asked : ExecutionResponse → Bool
  | .Failed .. => false
  | .Completed _ _ raw _ _ => raw.modelUsed.isSome

def costUsd : ExecutionResponse → Option ℚ
  | .Failed .. => none
  | .Completed _ _ _ costUsd _ => some costUsd

end ExecutionResponse

/-- Where the service answers: it was refused, or it completed, with a model where it asked one. -/
def Answers (response : ℚ → ExecutionResponse) (phase : ExecutionPhase) : Prop :=
  (phase = .Ended false ∧ ∃ executionId workflowType error,
      response = fun _ => .Failed executionId workflowType error)
    ∨ ∃ executionId workflowType raw executionTime, phase = .Ended raw.modelUsed.isSome
      ∧ response = fun totalCost =>
        .Completed executionId workflowType raw totalCost executionTime

/-- Where the service raises: an unknown workflow is not told of. -/
def Raises : ServiceError → ExecutionPhase → Prop
  | .ValueError _, phase => phase = .Fresh
  | .Workflow _, phase => ∃ asked, phase = .Ended asked

namespace AIExecutionService

variable (service : AIExecutionService)

lemma guides_executeWorkflow (executionId workflowType : String) (seconds : ℚ) (isValid : Bool)
    (errors : List String) {run : Traced ServiceTask WorkflowError RawOutput}
    (hrun : Monitor.Guides follow .Running run Returned fun _ phase => CanFail phase) :
    Monitor.Guides follow .Fresh
      (service.executeWorkflow executionId workflowType seconds isValid errors run) Answers
      Raises := by
  rw [executeWorkflow]
  split_ifs
  · refine Monitor.guides_perform rfl (fun response hresponse => ?_) nofun
    cases hresponse
    exact .inl ⟨rfl, _, _, _, rfl⟩
  · refine Monitor.guides_emit_bind rfl ?_
    obtain ⟨phase, hphase, hreturned, hfailed⟩ := hrun
    cases hresult : run.result with
    | ok raw =>
        rcases hreturned raw hresult with ⟨rfl, hmodel⟩ | ⟨rfl, hmodel⟩
        · refine ⟨.Ended false, by rw [Monitor.run_append, hphase]; rfl,
            fun response h => ?_, nofun⟩
          cases h
          exact .inr ⟨_, _, raw, _, by rw [hmodel]; rfl, rfl⟩
        · refine ⟨.Ended true, by rw [Monitor.run_append, hphase]; rfl,
            fun response h => ?_, nofun⟩
          cases h
          exact .inr ⟨_, _, raw, _, by rw [hmodel], rfl⟩
    | error error =>
        rcases hfailed error hresult with rfl | rfl | rfl
        · refine ⟨.Ended false, by rw [Monitor.run_append, hphase]; rfl, nofun, fun e h => ?_⟩
          cases h
          exact ⟨_, rfl⟩
        · refine ⟨.Ended false, by rw [Monitor.run_append, hphase]; rfl, nofun, fun e h => ?_⟩
          cases h
          exact ⟨_, rfl⟩
        · refine ⟨.Ended true, by rw [Monitor.run_append, hphase]; rfl, nofun, fun e h => ?_⟩
          cases h
          exact ⟨_, rfl⟩

/-- **Every execution is a conversation**, from its first task to its last. -/
theorem guides_execute (executionId workflowType : String) (inputData : Option Record)
    (seconds : ℚ) :
    Monitor.Guides follow .Fresh (service.execute executionId workflowType inputData seconds)
      Answers Raises := by
  unfold execute
  split
  · exact service.guides_executeWorkflow _ _ _ _ _ (service.maintenance.guides_run _)
  · exact service.guides_executeWorkflow _ _ _ _ _ (service.supplyChain.guides_run _)
  · refine ⟨.Fresh, rfl, nofun, fun e h => ?_⟩
    cases h
    rfl

end AIExecutionService

/-! ## Any turns -/

lemma conversation_of_run {phase next : ExecutionPhase} {tasks : List ServiceTask}
    (h : Monitor.run follow phase tasks = some next) :
    Monitor.run conversation phase.told (tasks.flatMap ServiceTask.eventTypes) = some next.told :=
  Monitor.run_simulates (fun _ _ _ => conversation_of_follow) h

lemma records_of_run {phase next : ExecutionPhase} {tasks : List ServiceTask}
    (executionId : String) (h : Monitor.run follow phase tasks = some next) :
    phase.records + (tasks.flatMap (ServiceTask.recorded executionId)).length = next.records
      ∧ ∀ record ∈ tasks.flatMap (ServiceTask.recorded executionId), record.amountUsd = 0 := by
  induction tasks generalizing phase with
  | nil =>
      cases h
      exact ⟨rfl, fun _ h => absurd h List.not_mem_nil⟩
  | cons task tasks ih =>
      rw [Monitor.run_cons] at h
      obtain ⟨middle, htask, hrest⟩ := Option.bind_eq_some_iff.mp h
      obtain ⟨hfirst, hzero⟩ := records_of_follow executionId htask
      obtain ⟨hlater, hzeros⟩ := ih hrest
      rw [List.flatMap_cons]
      refine ⟨by rw [List.length_append]; omega, fun record hrecord => ?_⟩
      rcases List.mem_append.mp hrecord with hnow | hlater
      · exact hzero record hnow
      · exact hzeros record hlater

namespace ExecutionView

/-- What an execution left after some turns, and what is left of it. -/
lemma run_eq (executionId : String) (view : ExecutionView) (turns : Nat) :
    let moved := Runs.run (fun view (_ : Unit) => view.step executionId) view
      (List.replicate turns ())
    moved.remaining = view.remaining.drop turns
      ∧ moved.records = view.records
        ++ (view.remaining.take turns).flatMap (ServiceTask.recorded executionId)
      ∧ moved.events.map TelemetryEvent.eventType = view.events.map TelemetryEvent.eventType
        ++ (view.remaining.take turns).flatMap ServiceTask.eventTypes := by
  induction turns generalizing view with
  | zero => simp
  | succ turns ih =>
      intro moved
      obtain ⟨hremaining, hrecords, hevents⟩ := ih (view.step executionId)
      obtain ⟨events, records, remaining, totalCost⟩ := view
      cases remaining with
      | nil =>
          refine ⟨hremaining.trans ?_, hrecords.trans ?_, hevents.trans ?_⟩
          · simp only [step, List.drop_nil]
          · simp only [step, List.take_nil]
          · simp only [step, List.take_nil]
      | cons task tasks =>
          have htypes : (task.emitted executionId (costSoFar ⟨events, records, task :: tasks,
              totalCost⟩)).map TelemetryEvent.eventType = task.eventTypes := by
            cases task <;> rfl
          refine ⟨hremaining, hrecords.trans ?_, hevents.trans ?_⟩
          · simp only [step, List.take_succ_cons, List.flatMap_cons, List.append_assoc]
          · simp only [step, List.take_succ_cons, List.flatMap_cons, List.append_assoc,
              List.map_append, htypes]

/-- What is recorded of an execution, or will be, is nothing. -/
structure Free (executionId : String) (view : ExecutionView) : Prop where
  recorded : ∀ record ∈ view.records, record.amountUsd = 0
  toRecord : ∀ task ∈ view.remaining, ∀ record ∈ task.recorded executionId, record.amountUsd = 0
  totalCost : view.totalCost = 0

variable {executionId : String} {view : ExecutionView}

lemma costSoFar_of_free (h : Free executionId view) : view.costSoFar = 0 := by
  refine List.sum_eq_zero fun amount hamount => ?_
  obtain ⟨record, hrecord, rfl⟩ := List.mem_map.mp hamount
  exact h.recorded record hrecord

lemma free_step (h : Free executionId view) : Free executionId (view.step executionId) := by
  rw [step]
  cases htasks : view.remaining with
  | nil => exact h
  | cons task tasks =>
      have hto := h.toRecord
      rw [htasks] at hto
      refine ⟨fun record hrecord => ?_, fun later hlater => ?_, ?_⟩
      · rcases List.mem_append.mp hrecord with hbefore | hnow
        · exact h.recorded record hbefore
        · exact hto task List.mem_cons_self record hnow
      · exact hto later (List.mem_cons_of_mem task hlater)
      · cases task with
        | Complete data => exact costSoFar_of_free h
        | _ => exact h.totalCost

lemma free_run (executionId : String) (h : Free executionId view) (turns : List Unit) :
    Free executionId (Runs.run (fun view (_ : Unit) => view.step executionId) view turns) :=
  Runs.run_invariant (fun _ _ => free_step) turns h

end ExecutionView

namespace ServiceState

/-- What an execution did by now is a conversation, and what is left of it goes on from there. -/
lemma view_after (calls : String → ServiceCall) (turns : List String) (executionId : String) :
    ∃ phase last, Monitor.run conversation .Fresh
          (((after calls turns).telemetry.getEvents (some executionId)).map
            TelemetryEvent.eventType) = some (ExecutionPhase.told phase)
      ∧ ((after calls turns).costTracker.getRecords (some executionId)).length = phase.records
      ∧ (∀ record ∈ (after calls turns).costTracker.getRecords (some executionId),
        record.amountUsd = 0)
      ∧ Monitor.run follow phase ((after calls turns).remaining executionId) = some last
      ∧ (∀ response, ((calls executionId).execution executionId).result = .ok response →
        Answers response last)
      ∧ ∀ e, ((calls executionId).execution executionId).result = .error e → Raises e last := by
  let call := calls executionId
  obtain ⟨last, hrun, hanswers, hraises⟩ :=
    call.service.guides_execute executionId call.workflowType call.inputData call.seconds
  obtain ⟨phase, hdone, hleft⟩ := Monitor.exists_run_take hrun (turns.count executionId)
  obtain ⟨hremaining, hrecords, hevents⟩ :=
    ExecutionView.run_eq executionId ((start calls).view executionId) (turns.count executionId)
  rw [← view_run, view_start, List.nil_append] at hrecords
  rw [← view_run, view_start, List.map_nil, List.nil_append] at hevents
  rw [← view_run] at hremaining
  obtain ⟨hlength, hzero⟩ := records_of_run executionId hdone
  refine ⟨phase, last, ?_, ?_, ?_, ?_, hanswers, hraises⟩
  · exact (congrArg _ hevents).trans (conversation_of_run hdone)
  · exact (congrArg List.length hrecords).trans ((Nat.zero_add _).symm.trans hlength)
  · intro record hrecord
    exact hzero record ((congrArg (record ∈ ·) hrecords).mp hrecord)
  · exact (congrArg _ hremaining).trans hleft

/-- What an execution read of the tracker is nothing. -/
lemma totalCost_after (calls : String → ServiceCall) (turns : List String) (executionId : String) :
    (after calls turns).totalCost executionId = 0 := by
  let call := calls executionId
  obtain ⟨last, hrun, -⟩ :=
    call.service.guides_execute executionId call.workflowType call.inputData call.seconds
  have hcost := congrArg ExecutionView.totalCost (view_run (start calls) turns executionId)
  refine hcost.trans (ExecutionView.free_run executionId ?_ _).totalCost
  refine ⟨fun _ h => absurd h List.not_mem_nil, ?_, rfl⟩
  exact fun task htask record hrecord =>
    (records_of_run executionId hrun).2 record (List.mem_flatMap.mpr ⟨task, htask, hrecord⟩)

lemma response_eq_some {calls : String → ServiceCall} {state : ServiceState} {executionId : String}
    {answer : Except ServiceError ExecutionResponse}
    (h : state.response calls executionId = some answer) :
    state.remaining executionId = []
      ∧ ((calls executionId).execution executionId).result.map
        (fun response => response (state.totalCost executionId)) = answer := by
  rw [response] at h
  split_ifs at h with hempty
  exact ⟨List.isEmpty_iff.mp hempty, Option.some.inj h⟩

/-- An execution has its answer after as many turns as it has tasks. -/
lemma response_isSome_iff (calls : String → ServiceCall) (turns : List String)
    (executionId : String) :
    ((after calls turns).response calls executionId).isSome = true
      ↔ ((calls executionId).execution executionId).events.length ≤ turns.count executionId := by
  have hremaining : (after calls turns).remaining executionId
      = ((calls executionId).execution executionId).events.drop (turns.count executionId) :=
    (congrArg ExecutionView.remaining (view_run (start calls) turns executionId)).trans
      (ExecutionView.run_eq executionId ((start calls).view executionId) _).1
  rw [response, hremaining]
  split_ifs with hempty
  · exact iff_of_true rfl (List.drop_eq_nil_iff.mp (List.isEmpty_iff.mp hempty))
  · exact iff_of_false Bool.false_ne_true fun h =>
      hempty (List.isEmpty_iff.mpr (List.drop_eq_nil_iff.mpr h))

/-- What the caller got says where the execution ended. -/
lemma ended_of_response {calls : String → ServiceCall} {turns : List String} {executionId : String}
    {last : ExecutionPhase}
    (hanswers : ∀ response, ((calls executionId).execution executionId).result = .ok response →
      Answers response last)
    {response : ExecutionResponse}
    (h : (after calls turns).response calls executionId = some (.ok response)) :
    last = .Ended response.asked
      ∧ ∀ costUsd, response.costUsd = some costUsd → costUsd = 0 := by
  obtain ⟨-, hresult⟩ := response_eq_some h
  rw [totalCost_after] at hresult
  cases hexecution : ((calls executionId).execution executionId).result with
  | error e =>
      rw [hexecution] at hresult
      cases hresult
  | ok answer =>
      rw [hexecution] at hresult
      cases hresult
      rcases hanswers answer hexecution with ⟨rfl, _, _, _, rfl⟩ | ⟨_, _, raw, _, rfl, rfl⟩
      · exact ⟨rfl, nofun⟩
      · exact ⟨rfl, fun costUsd hcost => (Option.some.inj hcost).symm⟩

/-- **An execution tells its story in order, and to the end.**  At any time the events that the sink
    holds of an execution are a conversation.  The caller has an answer once the execution had its
    turns, and the conversation has ended then, with a model asked where the answer names one; only
    of a workflow that is not known nothing is told. -/
theorem executions_converse (calls : String → ServiceCall) (turns : List String)
    (executionId : String) :
    ∃ phase, Monitor.run conversation .Fresh
          (((after calls turns).telemetry.getEvents (some executionId)).map
            TelemetryEvent.eventType) = some phase
      ∧ (((after calls turns).response calls executionId).isSome = true
        ↔ ((calls executionId).execution executionId).events.length ≤ turns.count executionId)
      ∧ (∀ response, (after calls turns).response calls executionId = some (.ok response) →
        phase = .Ended response.asked)
      ∧ ∀ e, (after calls turns).response calls executionId = some (.error e) →
        Raises e phase := by
  obtain ⟨phase, last, htold, -, -, hleft, hanswers, hraises⟩ := view_after calls turns executionId
  refine ⟨phase.told, htold, response_isSome_iff calls turns executionId,
    fun response hresponse => ?_, fun e he => ?_⟩
  · obtain ⟨hremaining, -⟩ := response_eq_some hresponse
    rw [hremaining] at hleft
    cases hleft
    rw [(ended_of_response hanswers hresponse).1]
    rfl
  · obtain ⟨hremaining, hresult⟩ := response_eq_some he
    rw [hremaining] at hleft
    cases hleft
    cases hexecution : ((calls executionId).execution executionId).result with
    | ok answer =>
        rw [hexecution] at hresult
        cases hresult
    | error e' =>
        rw [hexecution] at hresult
        cases hresult
        have hend := hraises e hexecution
        cases e with
        | ValueError message =>
            cases hend
            rfl
        | Workflow error =>
            obtain ⟨asked, rfl⟩ := hend
            exact ⟨asked, rfl⟩

/-- **The tracker knows of no cost.**  At any time the total cost of every execution is zero, and so
    is what a completed execution reports, though there is one record for each model asked. -/
theorem executions_free (calls : String → ServiceCall) (turns : List String)
    (executionId : String) :
    (after calls turns).costTracker.getTotalCost executionId = 0
      ∧ ∀ response, (after calls turns).response calls executionId = some (.ok response) →
        (∀ costUsd, response.costUsd = some costUsd → costUsd = 0)
          ∧ ((after calls turns).costTracker.getRecords (some executionId)).length
            = response.asked.toNat := by
  obtain ⟨phase, last, -, hlength, hzero, hleft, hanswers, -⟩ := view_after calls turns executionId
  constructor
  · refine List.sum_eq_zero fun amount hamount => ?_
    obtain ⟨record, hrecord, rfl⟩ := List.mem_map.mp hamount
    exact hzero record hrecord
  · intro response hresponse
    obtain ⟨hremaining, -⟩ := response_eq_some hresponse
    obtain ⟨hended, hcost⟩ := ended_of_response hanswers hresponse
    rw [hremaining] at hleft
    cases hleft
    refine ⟨hcost, ?_⟩
    rw [hlength, hended]
    rfl

end ServiceState

end CostPlatform
