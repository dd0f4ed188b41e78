import Hivra.AgentAuthority.AuthorityTables

/-!
# Agent operations

The functions that claim a provider operation, delete an agent and record what a
provider answered, with the two triggers that run when a row of an agent is written.
Each function is one transaction.  `now()` and `gen_random_uuid()` are parameters.
-/

namespace Hivra.AgentAuthority

open Hivra.Library
open Hivra.AgentNetwork (Uuid Raised raise refuseIf orUniqueViolation checkViolation)

/-- What `now()` and `gen_random_uuid()` answer in a transaction. -/
structure Moment where
  now : Int
  newId : Uuid

def notInPrerequisiteState : String := "55000"

def invalidParameterValue : String := "22023"

def tenMinutes : Int := 600000000

def compatibilityPayload : Json :=
  .object [("compatibility", .string "n_minus_one")]

def Agent.withCompatibleOperation (agent : Agent) (kind : OperationKind) (moment : Moment) : Agent :=
  { agent with
    operation :=
      some
        { id := moment.newId
          kind
          startedAt := moment.now
          payload := some compatibilityPayload }
    desiredState := .running }

def keepsOperation (old new : Option Operation) : Bool :=
  match old, new with
  | some old, some new =>
    (old.kind == .provision || old.kind == .start || old.kind == .restart ||
        old.kind == .resize) &&
      new.id == old.id && new.kind == old.kind
  | _, _ => false

def AgentStatus.isResult : AgentStatus → Bool
  | .provisioning => false
  | _ => true

/-- `normalize_hivra_agent_operation_compatibility`; `old` is missing for an insert. -/
def normalizeOperationCompatibility (old : Option Agent) (new : Agent) (moment : Moment) :
    Except Raised Agent :=
  match old with
  | none =>
    if new.deploymentMode = .hivraManaged ∧ new.status = .provisioning ∧
        new.operation.isNone = true then
      .ok (new.withCompatibleOperation .provision moment)
    else .ok new
  | some old =>
    if old.deploymentMode = .hivraManaged ∧ old.operation.isNone = true ∧
        new.operation.isNone = true ∧
        (old.status = .running ∨ old.status = .stopped ∨ old.status = .error) ∧
        new.status = .provisioning then
      .ok (new.withCompatibleOperation .start moment)
    else if old.deploymentMode = .hivraManaged ∧
        keepsOperation old.operation new.operation = true ∧ new.status.isResult = true then
      if old.desiredState = .deleted ∧ new.status ≠ .deleted then
        raise notInPrerequisiteState "legacy provision result was superseded by delete"
      else
        .ok
          { new with
            desiredState := if new.status = .deleted then .deleted else new.desiredState
            operation := none }
    else .ok new

section Authority

variable (db : Database)

def Database.connectionOf (binding : Binding) (userId : String) : Option Connection :=
  db.connections.find? fun connection =>
    connection.id == binding.connectionId && connection.userId == userId

def Database.targetOf (binding : Binding) (userId : String) : Option DeploymentTarget :=
  db.targets.find? fun target =>
    target.id == binding.targetId && target.connectionId == binding.connectionId &&
      target.userId == userId

end Authority

def keepsOrClears (old new : Option Operation) : Bool :=
  new.isNone ||
    match old, new with
    | some old, some new => new.id == old.id && new.kind == old.kind
    | _, _ => false

/-- `v_credential_recovery_completion` of an update: `none` is null, which neither
guard below refuses. -/
def credentialRecoveryCompletion (connection : Connection) (binding : Binding) (old new : Agent) :
    Option Bool :=
  if old.deploymentMode ≠ .selfManaged ∨ old.operation.isNone = true ∨
      keepsOrClears old.operation new.operation = false ∨
      (connection.status ≠ .pending ∧ connection.status ≠ .error) then
    some false
  else
    match old.binding with
    | none => none
    | some held =>
      if binding ≠ held ∨ connection.revision ≤ held.revision then some false
      else connection.pendingBindingRebindFromRevision.map fun from_ => from_ == held.revision

def TargetEvidence.carries (evidence : TargetEvidence) (revision : Nat) : Bool :=
  evidence.evidenceConnectionRevision == revision && evidence.status == .ready &&
    evidence.launchReady && evidence.isolationClass.all (fun found => found == .hardwareVm)

def staleConnection : Except Raised Unit :=
  raise notInPrerequisiteState
    "self-managed Hivra connection revision is stale or unavailable"

def staleTarget : Except Raised Unit :=
  raise notInPrerequisiteState
    "self-managed Hivra deployment target evidence is stale or unavailable"

def enforceBinding (db : Database) (old : Option Agent) (new : Agent) (binding : Binding) :
    Except Raised Unit :=
  match db.connectionOf binding new.userId with
  | none => staleConnection
  | some connection =>
    let recovers :=
      match old with
      | none => some false
      | some old => credentialRecoveryCompletion connection binding old new
    if recovers = some false ∧
        (connection.status ≠ .ready ∨ connection.revision ≠ binding.revision) then
      staleConnection
    else
      match db.targetOf binding new.userId with
      | none => staleTarget
      | some target =>
        if (recovers = some true ∧
              target.evidence.evidenceConnectionRevision ≠ binding.revision) ∨
            (recovers = some false ∧ target.evidence.carries binding.revision = false) then
          staleTarget
        else .ok ()

/-- `enforce_hivra_agent_deployment_authority`. -/
def enforceDeploymentAuthority (db : Database) (old : Option Agent) (new : Agent) :
    Except Raised Unit :=
  match new.deploymentMode with
  | .hivraManaged =>
    refuseIf (new.binding.isSome = true ∨ new.proxmoxHost = noAmbientAuthority) checkViolation
      "managed Hivra agent carries self-managed authority"
  | .selfManaged =>
    if new.proxmoxHost ≠ noAmbientAuthority then
      raise checkViolation "self-managed Hivra agent lacks rollback authority fuse"
    else if new.status = .deleted then
      refuseIf (new.binding.isSome = true) checkViolation
        "deleted self-managed Hivra agent retained provider authority"
    else
      match new.binding with
      | none => raise checkViolation "self-managed Hivra authority binding is incomplete"
      | some binding => enforceBinding db old new binding

inductive Columns
  | status
  | other

/-- The `before update` triggers, in the order of their names. -/
def beforeUpdate (db : Database) (moment : Moment) (columns : Columns) (old new : Agent) :
    Except Raised Agent :=
  match columns with
  | .other => .ok new
  | .status => do
    let normalized ← normalizeOperationCompatibility (some old) new moment
    enforceDeploymentAuthority db (some old) normalized
    .ok normalized

/-- `update public.hivra_agents set ... where id = p_agent_id and user_id = p_user_id
and ...`: whether a row was found, and the rows after it. -/
def Database.updateAgent (db : Database) (userId : String) (agentId : Uuid) (moment : Moment)
    (selected : Agent → Bool) (columns : Columns) (change : Agent → Agent) :
    Except Raised (Bool × Database) :=
  match db.agents.find? (fun row => row.id == agentId && row.userId == userId && selected row) with
  | none => .ok (false, db)
  | some old => do
    let new ← beforeUpdate db moment columns old (change old)
    refuseIf (new.checked = false) checkViolation
      "new row violates hivra_agents_deployment_authority_matrix_check"
    let agents ← orUniqueViolation
      (db.agents.update (fun row => row.id == agentId) (fun _ => new))
    .ok (true, { db with agents })

structure Launch where
  id : Uuid
  userId : String
  deploymentMode : DeploymentMode
  proxmoxHost : String
  cpu : Rat
  ram : Int
  /-- The id and payload of the provision operation; older writers leave it out. -/
  operation : Option (Uuid × Option Json)
  allocationOperationId : Option Uuid
  infrastructureBindingTokenEnforced : Bool
  binding : Option Binding

def Launch.row (launch : Launch) (moment : Moment) : Agent :=
  { id := launch.id
    userId := launch.userId
    status := .provisioning
    desiredState := .running
    deploymentMode := launch.deploymentMode
    proxmoxHost := launch.proxmoxHost
    vmid := none
    ip := none
    chatUrl := none
    apiToken := none
    cfTunnelId := none
    cfHostname := none
    cpu := launch.cpu
    ram := launch.ram
    error := none
    provisionedAt := none
    operation := launch.operation.map fun provision =>
      { id := provision.1, kind := .provision, startedAt := moment.now, payload := provision.2 }
    allocationOperationId := launch.allocationOperationId
    infrastructureBindingTokenEnforced := launch.infrastructureBindingTokenEnforced
    binding := launch.binding }

def launchAgent (launch : Launch) (moment : Moment) (db : Database) : Except Raised Database := do
  let new ← normalizeOperationCompatibility none (launch.row moment) moment
  enforceDeploymentAuthority db none new
  refuseIf (new.checked = false) checkViolation
    "new row violates hivra_agents_deployment_authority_matrix_check"
  let agents ← orUniqueViolation (db.agents.insert new)
  .ok { db with agents }

def refusesAmount (payload : Json) (key : String) (whole : Bool) : Bool :=
  match payload.member? key with
  | none => false
  | some (.number value text) =>
    value ≤ 0 || (whole && ((Json.number value text).integer?.all fun given => 2147483647 < given))
  | some _ => true

def refusesPayload (kind : OperationKind) (payload : Option Json) : Bool :=
  match kind, payload with
  | .resize, none => true
  | .resize, some payload =>
    !payload.isRecord || refusesAmount payload "cpu" false || refusesAmount payload "ram" true
  | _, payload => payload.isSome

def Database.carriesBinding (db : Database) (agent : Agent) : Bool :=
  match agent.binding with
  | none => false
  | some binding =>
    (db.connectionOf binding agent.userId).any (fun connection =>
      connection.status == .ready && connection.revision == binding.revision) &&
    (db.targetOf binding agent.userId).any (fun target =>
      target.evidence.carries binding.revision)

def claimHivraAgentOperation (userId : String) (agentId : Uuid) (operationId : Option Uuid)
    (operationKind : OperationKind) (desiredState : DesiredState) (operationPayload : Option Json)
    (moment : Moment) (db : Database) : Except Raised (Bool × Database) :=
  match operationId with
  | none => raise invalidParameterValue "invalid Hivra operation claim"
  | some operationId => do
    refuseIf (operationKind = .provision ∨ operationKind = .delete ∨ desiredState = .deleted)
      invalidParameterValue "invalid Hivra operation claim"
    refuseIf (refusesPayload operationKind operationPayload = true)
      invalidParameterValue "invalid Hivra operation payload"
    match db.agents.find? (fun row => row.id == agentId && row.userId == userId) with
    | none => .ok (false, db)
    | some agent =>
      if agent.status = .deleted ∨ agent.desiredState = .deleted ∨
          agent.operation.isSome = true then
        .ok (false, db)
      else if agent.deploymentMode = .selfManaged ∧ db.carriesBinding agent = false then
        .ok (false, db)
      else
        db.updateAgent userId agentId moment (fun _ => true) .other fun row =>
          { row with
            desiredState
            operation :=
              some
                { id := operationId
                  kind := operationKind
                  startedAt := moment.now
                  payload := operationPayload } }

inductive DeleteAnswer
  | claimed
  | pending
  | deleted
  | notFound

def requestHivraAgentDelete (userId : String) (agentId : Uuid) (operationId : Option Uuid)
    (moment : Moment) (db : Database) : Except Raised (DeleteAnswer × Database) :=
  match operationId with
  | none => raise invalidParameterValue "delete operation id is required"
  | some operationId =>
    match db.agents.find? (fun row => row.id == agentId && row.userId == userId) with
    | none => .ok (.notFound, db)
    | some agent =>
      if agent.status = .deleted then .ok (.deleted, db)
      else if agent.operation.isSome = true then do
        let (_, next) ← db.updateAgent userId agentId moment (fun _ => true) .other fun row =>
          { row with desiredState := .deleted }
        .ok (.pending, next)
      else do
        let (_, next) ← db.updateAgent userId agentId moment (fun _ => true) .other fun row =>
          { row with
            desiredState := .deleted
            operation :=
              some
                { id := operationId
                  kind := .delete
                  startedAt := moment.now
                  payload := none } }
        .ok (.claimed, next)

/-- `operation_id = p_operation_id`, and more of the operation. -/
def Agent.holds (agent : Agent) (operationId : Uuid) (more : Operation → Bool) : Bool :=
  agent.operation.any fun operation => operation.id == operationId && more operation

def checkpointHivraAgentOperation (userId : String) (agentId operationId : Uuid)
    (expectedDesiredState : DesiredState) (db : Database) : Bool :=
  db.agents.rows.any fun row =>
    row.id == agentId && row.userId == userId && row.holds operationId (fun _ => true) &&
      row.desiredState == expectedDesiredState && row.status != .deleted

def claimHivraAgentOperationRecovery (userId : String) (agentId operationId : Uuid)
    (expectedOperationStartedAt recoveredAt : Option Int) (moment : Moment) (db : Database) :
    Except Raised (Bool × Database) :=
  match expectedOperationStartedAt, recoveredAt with
  | some expected, some recoveredAt =>
    if recoveredAt < expected + tenMinutes then .ok (false, db)
    else
      db.updateAgent userId agentId moment
        (fun row =>
          row.holds operationId (fun operation => operation.startedAt == expected) &&
            row.status != .deleted)
        .other fun row =>
        { row with
          operation := row.operation.map fun operation =>
            { operation with startedAt := recoveredAt } }
  | _, _ => .ok (false, db)

def persistHivraAgentProvisionIdentity (userId : String) (agentId operationId : Uuid)
    (vmid : Option Int) (ip : Option String) (moment : Moment) (db : Database) :
    Except Raised (Bool × Database) :=
  db.updateAgent userId agentId moment
    (fun row =>
      row.holds operationId (fun operation => operation.kind == .provision) &&
        (row.desiredState == .running || row.desiredState == .deleted) &&
        row.status == .provisioning)
    .other fun row =>
    { row with
      vmid
      ip
      allocationOperationId :=
        if row.infrastructureBindingTokenEnforced then some operationId else none }

/-- `(operation_payload ->> 'cpu')::numeric = p_cpu` and the same of `ram`. -/
def Operation.asksFor (operation : Operation) (cpu : Option Rat) (ram : Option Int) : Bool :=
  match operation.payload, cpu, ram with
  | some payload, some cpu, some ram =>
    (payload.member? "cpu").any (fun value => value.number? == some cpu) &&
      (payload.member? "ram").any (fun value => value.integer? == some ram)
  | _, _, _ => false

def completeHivraAgentOperation (userId : String) (agentId operationId : Uuid)
    (expectedDesiredState : DesiredState) (status : AgentStatus) (cpu : Option Rat)
    (ram : Option Int) (moment : Moment) (db : Database) : Except Raised (Bool × Database) := do
  refuseIf (status = .provisioning ∨ status = .deleted) invalidParameterValue
    "invalid synchronous Hivra operation completion status"
  db.updateAgent userId agentId moment
    (fun row =>
      row.holds operationId (fun operation =>
          operation.kind != .resize || (cpu.isNone && ram.isNone) || operation.asksFor cpu ram) &&
        row.desiredState == expectedDesiredState && row.status != .deleted)
    .status fun row =>
    { row with
      status
      desiredState :=
        if status = .running then .running
        else if status = .stopped then .stopped
        else row.desiredState
      cpu := cpu.getD row.cpu
      ram := ram.getD row.ram
      error := none
      operation := none }

def continueHivraAgentOperation (userId : String) (agentId operationId : Uuid)
    (expectedDesiredState : DesiredState) (status : AgentStatus) (cpu : Option Rat)
    (ram : Option Int) (moment : Moment) (db : Database) : Except Raised (Bool × Database) :=
  db.updateAgent userId agentId moment
    (fun row =>
      row.holds operationId (fun operation =>
          (operation.kind == .start || operation.kind == .restart || operation.kind == .resize) &&
            (operation.kind != .resize || operation.asksFor cpu ram)) &&
        row.desiredState == expectedDesiredState && row.status != .deleted)
    .status fun row =>
    { row with
      status
      cpu := cpu.getD row.cpu
      ram := ram.getD row.ram
      error := none }

def completeHivraAgentRunning (userId : String) (agentId operationId : Uuid)
    (operationKind : OperationKind) (chatUrl ip apiToken : Option String)
    (provisionedAt : Option Int) (moment : Moment) (db : Database) :
    Except Raised (Bool × Database) := do
  refuseIf (operationKind = .stop ∨ operationKind = .delete) invalidParameterValue
    "invalid running convergence operation"
  db.updateAgent userId agentId moment
    (fun row =>
      row.holds operationId (fun operation => operation.kind == operationKind) &&
        row.desiredState == .running && row.status == .provisioning)
    .status fun row =>
    { row with
      status := .running
      chatUrl
      ip := ip.or row.ip
      apiToken := apiToken.or row.apiToken
      provisionedAt := row.provisionedAt.or provisionedAt
      error := none
      operation := none }

/-- `left(coalesce(p_error, otherwise), 300)`. -/
def errorText (error : Option String) (otherwise : String) : String :=
  String.ofList ((error.getD otherwise).toList.take 300)

def releaseHivraAgentOperation (userId : String) (agentId operationId : Uuid)
    (error : Option String) (markError : Bool) (moment : Moment) (db : Database) :
    Except Raised (Bool × Database) :=
  db.updateAgent userId agentId moment (fun row => row.holds operationId (fun _ => true))
    .status fun row =>
    { row with
      status := if markError = true ∧ row.desiredState ≠ .deleted then .error else row.status
      error := if markError then some (errorText error "operation failed") else row.error
      operation := none }

def recordHivraAgentOperationFailure (userId : String) (agentId operationId : Uuid)
    (error : Option String) (moment : Moment) (db : Database) : Except Raised (Bool × Database) :=
  db.updateAgent userId agentId moment (fun row => row.holds operationId (fun _ => true))
    .other fun row =>
    { row with error := some (errorText error "provider operation outcome is unknown") }

def completeHivraAgentDelete (userId : String) (agentId operationId : Uuid) (moment : Moment)
    (db : Database) : Except Raised (Bool × Database) :=
  db.updateAgent userId agentId moment
    (fun row =>
      row.holds operationId (fun operation =>
          operation.kind == .delete || operation.kind == .provision) &&
        row.desiredState == .deleted)
    .status fun row =>
    { row with
      status := .deleted
      desiredState := .deleted
      operation := none
      binding := none
      allocationOperationId := none
      vmid := none
      ip := none
      chatUrl := none
      apiToken := none
      cfTunnelId := none
      cfHostname := none
      error := none }

end Hivra.AgentAuthority
