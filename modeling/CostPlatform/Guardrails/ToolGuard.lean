import CostPlatform.Guardrails.InputScan
import CostPlatform.Library.Traced
import CostPlatform.Security.Identity

/-!
# The tool guard

The tool layer of the guardrails.  A name that the model produced is a key of the registry, and five
checks stand between the row that is found there and the call.  `authorize_eq_ok_iff` says what has
passed when a call is authorized.

The rows are free text.  What is not recognised in the column of the roles is dropped, and a risk
level that is not recognised is the highest.  The column of the workloads has one more reading: a
list of nothing is no restriction.  `neverWidens_iff` says which calls that lets through.
-/

namespace CostPlatform

open PyJson

/-! ## The registry -/

inductive ToolRisk where
  | Low
  | Medium
  | High
  | Critical
  deriving DecidableEq, Repr

def ToolRisk.value : ToolRisk → String
  | .Low => "LOW"
  | .Medium => "MEDIUM"
  | .High => "HIGH"
  | .Critical => "CRITICAL"

/-- `ToolRisk(text)`, or `none` for the `ValueError`. -/
def ToolRisk.ofValue (text : String) : Option ToolRisk :=
  [.Low, .Medium, .High, .Critical].find? fun risk => ToolRisk.value risk = text

/-- Risk levels that require a human decision before the tool runs. -/
def REQUIRES_APPROVAL : Finset ToolRisk := {.High, .Critical}

/-- A tool call the model asked for. -/
structure ToolCallRequest where
  name : String
  parameters : List (String × Json)

/-- One row of the `tools` table. -/
structure ToolRecord where
  id : String
  name : String
  allowedRoles : String
  allowedWorkloads : Option String
  riskLevel : String
  enabled : Bool
  estimatedCost : Option PyFloat := none
  deriving DecidableEq, Repr

/-- A registry row, decoded. -/
structure RegisteredTool where
  id : String
  name : String
  allowedRoles : Finset Role
  allowedWorkloads : Option (Finset String)
  riskLevel : ToolRisk
  enabled : Bool
  estimatedCost : Option PyFloat := none
  /-- Parameter names the tool accepts.  It accepts nothing where they are not declared. -/
  parameterNames : Option (Finset String) := none
  deriving DecidableEq

/-- The parts between commas, trimmed, without the blank ones. -/
def commaParts (text : String) : List String :=
  ((text.toList.splitOn ',').map fun part => PyString.strip (String.ofList part)).filter (· ≠ "")

/-- A serialized list column, as JSON or with commas. -/
def decodeList (runtime : Runtime) (raw : Option String) : Except String (List String) :=
  match raw with
  | none => .ok []
  | some column =>
      let text := PyString.strip column
      if text = "" then .ok []
      else if text.toList.head? = some '[' then
        match runtime.jsonLoads text with
        | .ok (.Items items) => .ok (items.map runtime.str)
        | .ok _ => .ok []
        | .error .JSONDecodeError => .ok []
        | .error (.Other exception) => .error exception
      else .ok (commaParts text)

/-- `Role(raw.strip().upper())`, or `none` for the `ValueError`. -/
def decodeRole (raw : String) : Option Role := Role.ofValue (PyString.upper (PyString.strip raw))

def decodeRisk (raw : String) : Option ToolRisk :=
  ToolRisk.ofValue (PyString.upper (PyString.strip raw))

/-- Decode a `tools` row. -/
def RegisteredTool.fromRecord (runtime : Runtime) (record : ToolRecord) :
    Except String RegisteredTool := do
  let rawRoles ← decodeList runtime (some record.allowedRoles)
  let rawWorkloads ← decodeList runtime record.allowedWorkloads
  return {
    id := record.id
    name := record.name
    allowedRoles := (rawRoles.filterMap decodeRole).toFinset
    allowedWorkloads := if rawWorkloads = [] then none else some rawWorkloads.toFinset
    -- the most restrictive level stands for one that is not recognised
    riskLevel := (decodeRisk record.riskLevel).getD .Critical
    enabled := record.enabled
    estimatedCost := record.estimatedCost }

/-! ## Refusals and security events -/

/-- What the tool layer raises. -/
inductive ToolViolation where
  | ToolNotRegistered (reason : String)
  | ToolNotAuthorized (reason : String)
  | ToolParametersInvalid (unexpected : List String)
  | ToolRequiresApproval (tool riskLevel : String)
  deriving DecidableEq, Repr

namespace ToolViolation

def statusCode : ToolViolation → Nat
  | .ToolNotRegistered _ => 403
  | .ToolNotAuthorized _ => 403
  | .ToolParametersInvalid _ => 422
  | .ToolRequiresApproval _ _ => 202

def code : ToolViolation → String
  | .ToolNotRegistered _ => "tool_not_registered"
  | .ToolNotAuthorized _ => "tool_not_authorized"
  | .ToolParametersInvalid _ => "tool_parameters_invalid"
  | .ToolRequiresApproval _ _ => "tool_requires_approval"

def message : ToolViolation → String
  | .ToolNotRegistered _ => "The requested tool is not registered"
  | .ToolNotAuthorized _ => "The caller may not use the requested tool"
  | .ToolParametersInvalid _ => "Tool parameters failed server-side validation"
  | .ToolRequiresApproval _ _ => "The requested tool requires human approval"

def reason : ToolViolation → String
  | .ToolNotRegistered reason => reason
  | .ToolNotAuthorized reason => reason
  | .ToolParametersInvalid _ => "unexpected_parameters"
  | .ToolRequiresApproval _ _ => "high_risk_tool"

/-- What is reported beside the layer and the reason. -/
def details : ToolViolation → List (String × Json)
  | .ToolNotRegistered _ => []
  | .ToolNotAuthorized _ => []
  | .ToolParametersInvalid unexpected => [("unexpected", .Items (unexpected.map .Text))]
  | .ToolRequiresApproval tool riskLevel =>
      [("tool", .Text tool), ("risk_level", .Text riskLevel)]

/-- Value for `usage_events.guardrail_decision`. -/
def decision (violation : ToolViolation) : String := "TOOL:" ++ violation.reason

end ToolViolation

/-- The security events that the tool layer records. -/
inductive ToolEvent where
  | ToolDenied (reason tool : String) (heldRoles : List String)
  | HighRiskApprovalRequired (reason tool riskLevel : String)
  deriving DecidableEq, Repr

def ToolEvent.value : ToolEvent → String
  | .ToolDenied _ _ _ => "security.tool_denied"
  | .HighRiskApprovalRequired _ _ _ => "security.high_risk_approval_required"

/-! ## Authorization -/

/-- Outcome of authorizing one tool call. -/
structure ToolAuthorization where
  tool : RegisteredTool
  requiresApproval : Bool
  deriving DecidableEq

/-- The registry, by the names that the model refers to. -/
structure ToolGuard where
  registry : String → Option RegisteredTool

namespace ToolGuard

/-- Record the denial, and refuse. -/
def deny {α : Type} (toolName : String) (principal : Principal) (reason : String)
    (violation : ToolViolation) : Traced ToolEvent ToolViolation α :=
  .perform (.ToolDenied reason toolName (sortedSet (principal.assignments.map fun assignment =>
    assignment.role.value))) (.error violation)

/-- The parameters of a call that its tool does not declare. -/
def unexpectedParameters (tool : RegisteredTool) (call : ToolCallRequest) : List String :=
  (call.parameters.map Prod.fst).filter fun parameter => parameter ∉ tool.parameterNames.getD ∅

def validateParameters (tool : RegisteredTool) (call : ToolCallRequest) :
    Traced ToolEvent ToolViolation Unit :=
  .require (unexpectedParameters tool call = [])
    (.raise (.ToolParametersInvalid (sortedSet (unexpectedParameters tool call))))

/-- A tool that is restricted is for its own workloads, and for a call that names none. -/
def workloadPermitted (tool : RegisteredTool) (workloadType : Option String) : Bool :=
  tool.allowedWorkloads.all fun allowed => workloadType.all fun workload => workload ∈ allowed

/-- The five checks, in order. -/
def authorize (toolGuard : ToolGuard) (call : ToolCallRequest) (principal : Principal)
    (workloadType : Option String) (approvedToolIds : Finset String) :
    Traced ToolEvent ToolViolation ToolAuthorization :=
  match toolGuard.registry call.name with
  | none => deny call.name principal "not_registered" (.ToolNotRegistered "not_registered")
  | some tool => do
      .require (tool.enabled = true)
        (deny call.name principal "disabled" (.ToolNotRegistered "disabled"))
      .require (principal.hasRole tool.allowedRoles = true)
        (deny call.name principal "role_not_permitted" (.ToolNotAuthorized "role_not_permitted"))
      .require (workloadPermitted tool workloadType = true)
        (deny call.name principal "workload_not_permitted"
          (.ToolNotAuthorized "workload_not_permitted"))
      validateParameters tool call
      let requiresApproval := decide (tool.riskLevel ∈ REQUIRES_APPROVAL)
      .require (requiresApproval = true → tool.id ∈ approvedToolIds)
        (.perform (.HighRiskApprovalRequired "high_risk_tool" tool.name tool.riskLevel.value)
          (.error (.ToolRequiresApproval tool.name tool.riskLevel.value)))
      return { tool := tool, requiresApproval := requiresApproval }

/-! ## What passes the checks -/

variable {toolGuard : ToolGuard} {call : ToolCallRequest} {principal : Principal}
  {workloadType : Option String} {approvedToolIds : Finset String}

lemma unexpectedParameters_eq_nil_iff {tool : RegisteredTool} :
    unexpectedParameters tool call = []
      ↔ ∀ parameter ∈ call.parameters, parameter.1 ∈ tool.parameterNames.getD ∅ := by
  simp [unexpectedParameters, List.filter_eq_nil_iff]

/-- **A call that is authorized has passed five checks**: its tool is registered and enabled, for a
    role of the caller and for the workload if one is named, declares the parameters, and needs no
    approval that it does not have. -/
theorem authorize_eq_ok_iff {authorization : ToolAuthorization} :
    (toolGuard.authorize call principal workloadType approvedToolIds).result = .ok authorization
      ↔ ∃ tool, toolGuard.registry call.name = some tool
        ∧ tool.enabled = true
        ∧ principal.hasRole tool.allowedRoles = true
        ∧ workloadPermitted tool workloadType = true
        ∧ (∀ parameter ∈ call.parameters, parameter.1 ∈ tool.parameterNames.getD ∅)
        ∧ (tool.riskLevel ∈ REQUIRES_APPROVAL → tool.id ∈ approvedToolIds)
        ∧ authorization
          = { tool := tool, requiresApproval := decide (tool.riskLevel ∈ REQUIRES_APPROVAL) } := by
  rw [authorize]
  cases toolGuard.registry call.name with
  | none => simp [deny]
  | some tool =>
      simp only [validateParameters, Option.some.injEq, exists_eq_left', deny, Traced.perform,
        Traced.raise, Traced.require_bind_result_eq_ok, unexpectedParameters_eq_nil_iff,
        decide_eq_true_eq, Traced.pure_def, Except.ok.injEq, @eq_comm _ _ authorization]

/-- **No refusal goes unrecorded**, but that of parameters. -/
theorem authorize_recorded :
    (toolGuard.authorize call principal workloadType approvedToolIds).Recorded
      fun violation => ∃ unexpected, violation = .ToolParametersInvalid unexpected := by
  rw [authorize]
  cases toolGuard.registry call.name with
  | none => exact Traced.recorded_perform _ _
  | some tool =>
      refine (Traced.Recorded.require _ (Traced.recorded_perform _ _)).bind fun _ => ?_
      refine (Traced.Recorded.require _ (Traced.recorded_perform _ _)).bind fun _ => ?_
      refine (Traced.Recorded.require _ (Traced.recorded_perform _ _)).bind fun _ => ?_
      refine (Traced.Recorded.require _ (Traced.recorded_raise ⟨_, rfl⟩)).bind fun _ => ?_
      refine (Traced.Recorded.require _ (Traced.recorded_perform _ _)).bind fun _ => ?_
      exact Traced.recorded_pure _

end ToolGuard

/-! ## What a row grants -/

/-- A column lists a text. -/
def Lists (runtime : Runtime) (column : Option String) (text : String) : Prop :=
  ∃ items, decodeList runtime column = .ok items ∧ text ∈ items

/-- A risk level that is high, critical, or not recognised. -/
def DemandsApproval (riskLevel : String) : Prop :=
  ∀ risk, decodeRisk riskLevel = some risk → risk ∈ REQUIRES_APPROVAL

/-- **A call is within what a row grants**: a role of the caller and the workload of the call are
    listed, where there is a list of workloads at all; the parameters are declared; and a high risk
    is approved. -/
structure Granted (runtime : Runtime) (record : ToolRecord) (tool : RegisteredTool)
    (call : ToolCallRequest) (principal : Principal) (workloadType : Option String)
    (approvedToolIds : Finset String) : Prop where
  role : ∃ role ∈ principal.roles, ∃ text, Lists runtime (some record.allowedRoles) text
    ∧ NamesRole text role
  workload : record.allowedWorkloads = none
    ∨ ∃ workload, workloadType = some workload ∧ Lists runtime record.allowedWorkloads workload
  parameters : ∀ parameter ∈ call.parameters, ∃ declared, tool.parameterNames = some declared
    ∧ parameter.1 ∈ declared
  approval : DemandsApproval record.riskLevel → record.id ∈ approvedToolIds

/-- **A row never widens access**: the call is authorized for the tool of the row only within what
    the row grants. -/
def NeverWidens (runtime : Runtime) (record : ToolRecord) (toolGuard : ToolGuard)
    (call : ToolCallRequest) (principal : Principal) (workloadType : Option String)
    (approvedToolIds : Finset String) : Prop :=
  ∀ tool authorization, RegisteredTool.fromRecord runtime record = .ok tool →
    toolGuard.registry call.name = some tool →
    (toolGuard.authorize call principal workloadType approvedToolIds).result = .ok authorization →
    Granted runtime record tool call principal workloadType approvedToolIds

/-- Everything but the workload of a call is within what its row grants, and the tool is there. -/
structure OtherwiseGranted (runtime : Runtime) (record : ToolRecord) (toolGuard : ToolGuard)
    (call : ToolCallRequest) (principal : Principal) (approvedToolIds : Finset String) : Prop where
  registered : ∃ tool, RegisteredTool.fromRecord runtime record = .ok tool
    ∧ toolGuard.registry call.name = some tool
  enabled : record.enabled = true
  role : ∃ role ∈ principal.roles, ∃ text, Lists runtime (some record.allowedRoles) text
    ∧ NamesRole text role
  parameters : call.parameters = []
  approval : DemandsApproval record.riskLevel → record.id ∈ approvedToolIds

variable {runtime : Runtime} {record : ToolRecord} {tool : RegisteredTool} {toolGuard : ToolGuard}
  {call : ToolCallRequest} {principal : Principal} {workloadType : Option String}
  {approvedToolIds : Finset String}

lemma decodeRole_eq_some_iff {raw : String} {role : Role} :
    decodeRole raw = some role ↔ NamesRole raw role := by
  rw [decodeRole, Role.ofValue_eq_some_iff, NamesRole]

lemma RegisteredTool.fromRecord_eq_ok_iff :
    fromRecord runtime record = .ok tool
      ↔ ∃ roles workloads, decodeList runtime (some record.allowedRoles) = .ok roles
        ∧ decodeList runtime record.allowedWorkloads = .ok workloads
        ∧ tool =
          { id := record.id
            name := record.name
            allowedRoles := (roles.filterMap decodeRole).toFinset
            allowedWorkloads := if workloads = [] then none else some workloads.toFinset
            riskLevel := (decodeRisk record.riskLevel).getD .Critical
            enabled := record.enabled
            estimatedCost := record.estimatedCost } := by
  simp only [fromRecord, Fallible.bind_eq_ok]
  constructor
  · rintro ⟨roles, hroles, workloads, hworkloads, h⟩
    exact ⟨roles, workloads, hroles, hworkloads, (Except.ok.inj h).symm⟩
  · rintro ⟨roles, workloads, hroles, hworkloads, rfl⟩
    exact ⟨roles, hroles, workloads, hworkloads, rfl⟩

/-- The roles of a tool are those that its row names: what is not recognised is dropped. -/
lemma hasRole_fromRecord_iff (h : RegisteredTool.fromRecord runtime record = .ok tool) :
    principal.hasRole tool.allowedRoles = true
      ↔ ∃ role ∈ principal.roles, ∃ text, Lists runtime (some record.allowedRoles) text
        ∧ NamesRole text role := by
  obtain ⟨roles, workloads, hroles, -, rfl⟩ := RegisteredTool.fromRecord_eq_ok_iff.mp h
  rw [Principal.hasRole, decide_eq_true_iff]
  simp only [Finset.Nonempty, Finset.mem_inter, List.mem_toFinset, List.mem_filterMap,
    decodeRole_eq_some_iff, Lists, hroles, Except.ok.injEq, exists_eq_left']

/-- What is not recognised demands an approval. -/
lemma demandsApproval_iff (riskLevel : String) :
    DemandsApproval riskLevel ↔ (decodeRisk riskLevel).getD .Critical ∈ REQUIRES_APPROVAL := by
  rw [DemandsApproval]
  cases decodeRisk riskLevel with
  | none => simp [REQUIRES_APPROVAL]
  | some risk => simp

/-- A workload passes where the row lists nothing, the call names none, or one that is listed. -/
lemma workloadPermitted_fromRecord_iff (h : RegisteredTool.fromRecord runtime record = .ok tool) :
    ToolGuard.workloadPermitted tool workloadType = true
      ↔ (∃ text, Lists runtime record.allowedWorkloads text) →
        ∀ workload ∈ workloadType, Lists runtime record.allowedWorkloads workload := by
  obtain ⟨roles, workloads, -, hworkloads, rfl⟩ := RegisteredTool.fromRecord_eq_ok_iff.mp h
  simp only [ToolGuard.workloadPermitted, Lists, hworkloads, Except.ok.injEq, exists_eq_left']
  split_ifs with hnil
  · simp [hnil]
  · simp [List.exists_mem_of_ne_nil workloads hnil, Option.all_eq_true]

/-- A row declares no parameters. -/
lemma fromRecord_accepts_iff (h : RegisteredTool.fromRecord runtime record = .ok tool) :
    (∀ parameter ∈ call.parameters, parameter.1 ∈ tool.parameterNames.getD ∅)
      ↔ call.parameters = [] := by
  obtain ⟨_, _, -, -, rfl⟩ := RegisteredTool.fromRecord_eq_ok_iff.mp h
  exact ⟨fun hall => List.eq_nil_iff_forall_not_mem.mpr fun parameter hparameter =>
    Finset.notMem_empty _ (hall parameter hparameter), fun hnil => by simp [hnil]⟩

/-- **A call for the tool of a row is authorized** where it is granted everything but the workload,
    and the workload passes. -/
theorem authorize_fromRecord_iff (hdecode : RegisteredTool.fromRecord runtime record = .ok tool)
    (hregistered : toolGuard.registry call.name = some tool) :
    (∃ authorization, (toolGuard.authorize call principal workloadType approvedToolIds).result
        = .ok authorization)
      ↔ OtherwiseGranted runtime record toolGuard call principal approvedToolIds
        ∧ ((∃ text, Lists runtime record.allowedWorkloads text) →
          ∀ workload ∈ workloadType, Lists runtime record.allowedWorkloads workload) := by
  have hfields : tool.enabled = record.enabled ∧ tool.id = record.id
      ∧ tool.riskLevel = (decodeRisk record.riskLevel).getD .Critical := by
    obtain ⟨_, _, -, -, rfl⟩ := RegisteredTool.fromRecord_eq_ok_iff.mp hdecode
    simp only [and_self]
  obtain ⟨henabled, hid, hrisk⟩ := hfields
  simp only [ToolGuard.authorize_eq_ok_iff, hregistered, Option.some.injEq, exists_eq_left',
    hasRole_fromRecord_iff hdecode, workloadPermitted_fromRecord_iff hdecode,
    fromRecord_accepts_iff hdecode, henabled, hid, hrisk, ← demandsApproval_iff]
  constructor
  · rintro ⟨_, henabled, hrole, hworkload, hparameters, happroval, -⟩
    exact ⟨⟨⟨tool, hdecode, hregistered⟩, henabled, hrole, hparameters, happroval⟩, hworkload⟩
  · rintro ⟨hother, hworkload⟩
    exact ⟨_, hother.enabled, hother.role, hworkload, hother.parameters, hother.approval, rfl⟩

/-- **A row does not widen access exactly when its workloads are no list, or list something that
    the call is held to**: of the calls that are within it otherwise, one that names no workload
    passes, and every one does where the column is there and lists nothing. -/
theorem neverWidens_iff (runtime : Runtime) (record : ToolRecord) (toolGuard : ToolGuard)
    (call : ToolCallRequest) (principal : Principal) (workloadType : Option String)
    (approvedToolIds : Finset String) :
    NeverWidens runtime record toolGuard call principal workloadType approvedToolIds
      ↔ (OtherwiseGranted runtime record toolGuard call principal approvedToolIds →
        record.allowedWorkloads = none
          ∨ workloadType ≠ none ∧ ∃ text, Lists runtime record.allowedWorkloads text) := by
  constructor
  · intro hnever hother
    obtain ⟨tool, hdecode, hregistered⟩ := hother.registered
    by_cases hpasses : (∃ text, Lists runtime record.allowedWorkloads text) →
        ∀ workload ∈ workloadType, Lists runtime record.allowedWorkloads workload
    · obtain ⟨authorization, hok⟩ :=
        (authorize_fromRecord_iff hdecode hregistered).mpr ⟨hother, hpasses⟩
      rcases (hnever tool authorization hdecode hregistered hok).workload with
        hnull | ⟨workload, hsome, hlists⟩
      · exact .inl hnull
      · exact .inr ⟨by simp [hsome], workload, hlists⟩
    · -- a workload that is refused was named, and the row lists another one
      push Not at hpasses
      obtain ⟨hlists, workload, hsome, -⟩ := hpasses
      exact .inr ⟨by simp [Option.mem_def.mp hsome], hlists⟩
  · intro hcondition tool authorization hdecode hregistered hok
    obtain ⟨hother, hpasses⟩ :=
      (authorize_fromRecord_iff hdecode hregistered).mp ⟨authorization, hok⟩
    refine ⟨hother.role, ?_, by simp [hother.parameters], hother.approval⟩
    refine (hcondition hother).imp_right fun ⟨hnamed, hlists⟩ => ?_
    obtain ⟨workload, hsome⟩ := Option.ne_none_iff_exists'.mp hnamed
    exact ⟨workload, hsome, hpasses hlists workload hsome⟩

/-- A row whose list of workloads was cut off. -/
def cutOffRecord : ToolRecord where
  id := "tool-1"
  name := "lookup_maintenance_history"
  allowedRoles := "AI_ENGINEER"
  allowedWorkloads := some "[\"quality_check\""
  riskLevel := "LOW"
  enabled := true

/-- The tool of that row: for every workload. -/
def unrestrictedTool : RegisteredTool where
  id := "tool-1"
  name := "lookup_maintenance_history"
  allowedRoles := {.AiEngineer}
  allowedWorkloads := none
  riskLevel := .Low
  enabled := true

/-- A caller with the role of that row. -/
def aiEngineer : Principal where
  subject := "ann"
  tenantId := "acme"
  assignments := [{ role := .AiEngineer, scopeType := .Tenant, scopeId := "acme" }]

/-- Another workload than the one in the row is given the tool. -/
theorem cutOffRecord_widens :
    ¬ NeverWidens emptyRuntime cutOffRecord { registry := fun _ => some unrestrictedTool }
      { name := "lookup_maintenance_history", parameters := [] } aiEngineer (some "supply_chain")
      ∅ := by
  intro hnever
  have hgranted := hnever unrestrictedTool { tool := unrestrictedTool, requiresApproval := false }
    (by decide +kernel) rfl (by decide +kernel)
  have hlists : decodeList emptyRuntime cutOffRecord.allowedWorkloads = .ok [] := by decide +kernel
  rcases hgranted.workload with hnull | ⟨workload, -, items, hitems, hmem⟩
  · cases hnull
  · cases hlists.symm.trans hitems
    cases hmem

end CostPlatform
