import Hivra.Library.Typestates
import Hivra.Launches.LaunchJournal

/-!
# Launch requests

What the dashboard does with one launch request of one owner: the launches on Proxmox that are
posted with its id, and the lookups of its receipt.  Every statement is one step.  Its answer may
come back as an error, or not at all and then the client throws; the statement may have had its
effect all the same, or have it later.  Digests are computed from the settings a request carries,
so a run holds one scope throughout.
-/

namespace Hivra.Launches

open Hivra.Library

inductive Trouble
  | error (code : Option String)
  | thrown

/-- Managed rows are written by `insert_hivra_managed_agent`, the others directly. -/
inductive DeploymentMode
  | hivraManaged
  | selfManaged

inductive InsertReply
  | inserted (row : AgentRow)
  | planAgentLimit
  | invalidRequest
  /-- No row is represented. -/
  | absent

inductive LaunchCall
  /-- `select * from hivra_launch_operations` -/
  | byRequest
  | reserve (scope : LaunchScope)
  | insertAgentRow (deploymentMode : DeploymentMode) (scope : LaunchScope)
  | update (moves : LaunchUpdate)
  | agentById (agentId : String)
  | agentByOperation (operationId : String) (runtimeId : RuntimeId)
  | agentByAllocation (operationId : String) (runtimeId : RuntimeId)
  /-- Access, allocation and the start of the computer. -/
  | kickOff

abbrev LaunchCall.Answer : LaunchCall → Type
  | .byRequest => Option LaunchOperation
  | .reserve _ => ReserveResult
  | .insertAgentRow _ _ => InsertReply
  | .update _ => Option LaunchOperation
  | .agentById _ => Option AgentRow
  | .agentByOperation _ _ => Option AgentRow
  | .agentByAllocation _ _ => Option AgentRow
  | .kickOff => Bool

abbrev LaunchCall.Reply (call : LaunchCall) : Type := Except Trouble call.Answer

def LaunchCall.isInsert : LaunchCall → Bool
  | .insertAgentRow _ _ => true
  | _ => false

def LaunchCall.isFail : LaunchCall → Bool
  | .update moves => moves.isFail
  | _ => false

inductive LaunchFailure
  /-- `HivraLaunchOperationRequestError` -/
  | invalidRequest
  | requestConflict
  /-- `HivraLaunchOperationStoreError` -/
  | unconfirmed
  /-- `LaunchPlanAgentLimitError` -/
  | planAgentLimit
  | transport
  | kickOffFailed

abbrev LaunchScript (Outcome : Type) : Type :=
  Script LaunchCall LaunchCall.Reply LaunchFailure Outcome

namespace JournalStore

def byRequest : LaunchScript (Option LaunchOperation) := do
  let reply : Except Trouble (Option LaunchOperation) ← Script.request LaunchCall.byRequest
  match reply with
  | .ok saved => pure saved
  | .error _ => throw .unconfirmed

/-- `none` where the request is new and its row was created. -/
def reserve (scope : LaunchScope) : LaunchScript (Option LaunchOperation) := do
  let reply : Except Trouble ReserveResult ← Script.request (LaunchCall.reserve scope)
  match reply with
  | .error _ => do
    let saved ← byRequest
    match saved with
    | none => throw .unconfirmed
    | some operation =>
      if operation.scope.requestDigest = scope.requestDigest then pure (some operation)
      else throw .requestConflict
  | .ok .invalidRequest => throw .invalidRequest
  | .ok .requestConflict => throw .requestConflict
  | .ok (.existing operation) =>
    if operation.scope.requestDigest = scope.requestDigest then pure (some operation)
    else throw .unconfirmed
  | .ok (.reserved operation) =>
    if operation.scope = scope then pure none else throw .unconfirmed

def confirm (update : LaunchUpdate) (answers readsBack : LaunchOperation → Bool) :
    LaunchScript (Option LaunchOperation) := do
  let reply : Except Trouble (Option LaunchOperation) ← Script.request (LaunchCall.update update)
  match reply with
  | .ok answer => pure (answer.filter answers)
  | .error _ => do
    let saved ← byRequest
    pure (saved.filter readsBack)

def isBoundTo (scope : LaunchScope) (agentId : String) (operation : LaunchOperation) : Bool :=
  operation.scope == scope && operation.phase.agentId == some agentId

def bindAgent (scope : LaunchScope) (agentId : String) : LaunchScript (Option LaunchOperation) :=
  confirm (.bindAgent scope agentId) (isBoundTo scope agentId)
    fun saved => isBoundTo scope agentId saved && saved.phase.isBound

def isAcceptedAs (scope : LaunchScope) (agentId : String) (responseStatus : ResponseStatus)
    (operation : LaunchOperation) : Bool :=
  isBoundTo scope agentId operation && operation.phase.isAccepted &&
    match responseStatus with
    | .accepted => operation.phase.responseStatus.isSome
    | .created => operation.phase.responseStatus == some .created

def accept (scope : LaunchScope) (agentId : String) (responseStatus : ResponseStatus) :
    LaunchScript (Option LaunchOperation) :=
  let isAccepted := isAcceptedAs scope agentId responseStatus
  confirm (.accept scope agentId responseStatus) isAccepted isAccepted

def isReconciled (scope : LaunchScope) (operation : LaunchOperation) : Bool :=
  operation.scope == scope && (operation.phase == .reconciling || operation.phase.isBound)

def markReconciling (scope : LaunchScope) : LaunchScript (Option LaunchOperation) :=
  confirm (.reconcile scope) (isReconciled scope) (isReconciled scope)

def isFailedAs (scope : LaunchScope) (failureStatus : Nat) (failureCode : String)
    (operation : LaunchOperation) : Bool :=
  operation.scope == scope && operation.phase == .failed failureStatus failureCode

def fail (scope : LaunchScope) (failureStatus : Nat) (failureCode : String) :
    LaunchScript (Option LaunchOperation) :=
  if failureStatus < 400 ∨ 599 < failureStatus ∨ isFailureCode failureCode = false then
    throw .unconfirmed
  else
    let isFailed := isFailedAs scope failureStatus failureCode
    confirm (.fail scope failureStatus failureCode) isFailed isFailed

end JournalStore

/-- `HivraLaunchOperationReplay` -/
inductive LaunchReplay
  | accepted (responseStatus : ResponseStatus) (agent : AgentRow)
  | reconciling (phase : LaunchPhase)
  | failed (failureStatus : Nat) (failureCode : String)

def exactAgent (operation : LaunchOperation) (agent : Option AgentRow) : LaunchScript AgentRow :=
  match agent with
  | none => throw .unconfirmed
  | some agent =>
    if agent.isOfKind operation.scope.kind = false ∨
        (operation.phase.agentId ≠ none ∧ operation.phase.agentId ≠ some agent.id) then
      throw .unconfirmed
    else pure agent

/-- A row that is there; `none` where it is not the row that was asked for. -/
def readAgent (agentId : String) : LaunchScript (Option AgentRow) := do
  let reply : Except Trouble (Option AgentRow) ← Script.request (LaunchCall.agentById agentId)
  match reply with
  | .ok (some agent) => pure (if agent.id = agentId then some agent else none)
  | _ => throw .unconfirmed

def readAgentByOperation (operationId : String) (runtimeId : RuntimeId) :
    LaunchScript (Option AgentRow) := do
  let reply : Except Trouble (Option AgentRow) ←
    Script.request (LaunchCall.agentByOperation operationId runtimeId)
  let carries (agent : AgentRow) : Bool :=
    agent.runtimeId == runtimeId && (agent.operationId == some operationId ||
      (agent.computerSubstrate == .providerVm && agent.allocationOperationId == some operationId))
  match reply with
  | .error _ => throw .unconfirmed
  | .ok (some agent) => pure (if carries agent then some agent else none)
  | .ok none => do
    let second : Except Trouble (Option AgentRow) ←
      Script.request (LaunchCall.agentByAllocation operationId runtimeId)
    match second with
    | .error _ => throw .unconfirmed
    | .ok found => pure (found.filter carries)

def acceptedReplay (operation : LaunchOperation) (agent : AgentRow) : LaunchScript LaunchReplay :=
  match operation.phase with
  | .accepted _ responseStatus => pure (.accepted responseStatus agent)
  | _ => throw .unconfirmed

def orUnconfirmed (method : LaunchScript (Option LaunchOperation)) :
    LaunchScript LaunchOperation := do
  let answer ← method
  match answer with
  | none => throw .unconfirmed
  | some operation => pure operation

section Service

-- Whether an interrupted launch on a provider's computer can be taken up.
variable (recoverableProvider : LaunchOperation → AgentRow → Bool)

def acceptRecovered (operation : LaunchOperation) (agent : AgentRow) :
    LaunchScript LaunchReplay := do
  let _ ← orUnconfirmed (JournalStore.bindAgent operation.scope agent.id)
  let accepted ← orUnconfirmed (JournalStore.accept operation.scope agent.id .accepted)
  acceptedReplay accepted agent

def isRecoverable (operation : LaunchOperation) (agent : AgentRow) : Bool :=
  if agent.computerSubstrate = .providerVm then recoverableProvider operation agent
  else agent.operationId == some operation.scope.operationId

def replay (operation : LaunchOperation) : LaunchScript LaunchReplay :=
  match operation.phase with
  | .failed failureStatus failureCode => pure (.failed failureStatus failureCode)
  | .accepted agentId _ => do
    let found ← readAgent agentId
    let agent ← exactAgent operation found
    acceptedReplay operation agent
  | .bound agentId => do
    let found ← readAgent agentId
    let agent ← exactAgent operation found
    let accepted ← orUnconfirmed (JournalStore.accept operation.scope agentId .accepted)
    acceptedReplay accepted agent
  | phase => do
    let recovered ← readAgentByOperation operation.scope.operationId
      operation.scope.kind.runtimeId
    match recovered with
    | none => pure (.reconciling phase)
    | some _ => do
      let agent ← exactAgent operation recovered
      if isRecoverable recoverableProvider operation agent then acceptRecovered operation agent
      else throw .unconfirmed

def original : LaunchScript (Option LaunchReplay) := do
  let existing ← JournalStore.byRequest
  match existing with
  | none => pure none
  | some operation => do
    let saved ← replay recoverableProvider operation
    pure (some saved)

/-- `lookup`, and the first half of `prepare`. -/
def lookup (requestDigest : String) : LaunchScript (Option LaunchReplay) := do
  let existing ← JournalStore.byRequest
  match existing with
  | none => pure none
  | some operation =>
    if operation.scope.requestDigest = requestDigest then do
      let saved ← replay recoverableProvider operation
      pure (some saved)
    else throw .requestConflict

/-- `none` where the caller created the row. -/
def reserve (scope : LaunchScope) : LaunchScript (Option LaunchReplay) := do
  let existing ← JournalStore.reserve scope
  match existing with
  | none => pure none
  | some operation => do
    let saved ← replay recoverableProvider operation
    pure (some saved)

def bindAgent (scope : LaunchScope) (agentId : String) : LaunchScript LaunchOperation :=
  orUnconfirmed (JournalStore.bindAgent scope agentId)

def accept (scope : LaunchScope) (agentId : String) (responseStatus : ResponseStatus) :
    LaunchScript LaunchReplay := do
  let operation ← orUnconfirmed (JournalStore.accept scope agentId responseStatus)
  replay recoverableProvider operation

def markReconciling (scope : LaunchScope) : LaunchScript LaunchReplay := do
  let operation ← orUnconfirmed (JournalStore.markReconciling scope)
  replay recoverableProvider operation

def fail (scope : LaunchScope) (failureStatus : Nat) (failureCode : String) :
    LaunchScript LaunchReplay := do
  let operation ← orUnconfirmed (JournalStore.fail scope failureStatus failureCode)
  replay recoverableProvider operation

end Service

inductive LaunchAnswer
  | accepted (responseStatus : ResponseStatus) (agentId : String)
  | reconciling (phase : LaunchPhase)
  | failed (failureStatus : Nat) (failureCode : String)
  /-- No receipt of this kind. -/
  | notFound
  deriving DecidableEq

def launchOperationReplayResponse : LaunchReplay → LaunchAnswer
  | .accepted responseStatus agent => .accepted responseStatus agent.id
  | .reconciling phase => .reconciling phase
  | .failed failureStatus failureCode => .failed failureStatus failureCode

/-- `insertAgentRow` throws where the client throws, and at the limit of the plan. -/
structure InsertResult where
  agent : Option AgentRow
  error : Option (Option String)

def insertAgentRow (deploymentMode : DeploymentMode) (scope : LaunchScope) :
    LaunchScript InsertResult := do
  let reply : Except Trouble InsertReply ←
    Script.request (LaunchCall.insertAgentRow deploymentMode scope)
  match reply with
  | .error .thrown => throw .transport
  | .error (.error code) => pure { agent := none, error := some code }
  | .ok .planAgentLimit => throw .planAgentLimit
  | .ok .invalidRequest => pure { agent := none, error := some (some "22023") }
  | .ok .absent => pure { agent := none, error := none }
  | .ok (.inserted row) => pure { agent := some row, error := none }

def isHivraAgentAuthorityConflict (code : Option String) : Bool :=
  match code with
  | some code => ["23503", "23505", "23514", "55000", "55006"].contains code
  | none => false

/-- A posted launch.  `operationId` is the id that `prepare` draws. -/
structure LaunchPost where
  operationId : String
  requestDigest : String
  intentDigest : String
  kind : LaunchKind
  deploymentMode : DeploymentMode

def LaunchPost.scope (post : LaunchPost) : LaunchScope :=
  { operationId := post.operationId
    requestDigest := post.requestDigest
    intentDigest := post.intentDigest
    kind := post.kind }

section Routes

variable (recoverableProvider : LaunchOperation → AgentRow → Bool)

def responseOf (service : LaunchScript LaunchReplay) : LaunchScript LaunchAnswer := do
  let saved ← service
  pure (launchOperationReplayResponse saved)

def planLimitResponse (scope : LaunchScope) : LaunchScript LaunchAnswer := do
  let _ ← fail recoverableProvider scope 403 "plan_agent_limit"
  pure (.failed 403 "plan_agent_limit")

def launchBound (scope : LaunchScope) (agentId : String) : LaunchScript LaunchAnswer := do
  let _ ← bindAgent scope agentId
  let _ ← accept recoverableProvider scope agentId .accepted
  let kickedOff : Except Trouble Bool ← Script.request LaunchCall.kickOff
  match kickedOff with
  | .ok true => do
    let _ ← accept recoverableProvider scope agentId .created
    pure (.accepted .created agentId)
  | _ => throw .kickOffFailed

def launchInserted (scope : LaunchScope) (result : InsertResult) : LaunchScript LaunchAnswer :=
  match result.error, result.agent with
  | some code, _ =>
    if isHivraAgentAuthorityConflict code then
      responseOf (fail recoverableProvider scope 409 "agent_insert_conflict")
    else responseOf (fail recoverableProvider scope 500 "agent_insert_failed")
  | none, none => responseOf (markReconciling recoverableProvider scope)
  | none, some agent => launchBound recoverableProvider scope agent.id

def attemptInsert (deploymentMode : DeploymentMode) (scope : LaunchScope) :
    LaunchScript (Except LaunchFailure InsertResult) :=
  tryCatch
    (do
      let result ← insertAgentRow deploymentMode scope
      pure (.ok result))
    (fun failure => pure (.error failure))

def launchReserved (post : LaunchPost) : LaunchScript LaunchAnswer := do
  let attempt ← attemptInsert post.deploymentMode post.scope
  match attempt with
  | .error .planAgentLimit => planLimitResponse recoverableProvider post.scope
  | .error _ => responseOf (markReconciling recoverableProvider post.scope)
  | .ok result => launchInserted recoverableProvider post.scope result

/-- `POST /api/hivra/agents` -/
def postLaunch (post : LaunchPost) : LaunchScript LaunchAnswer := do
  let early ← lookup recoverableProvider post.requestDigest
  match early with
  | some saved => pure (launchOperationReplayResponse saved)
  | none => do
    let prepared ← lookup recoverableProvider post.requestDigest
    match prepared with
    | some saved => pure (launchOperationReplayResponse saved)
    | none => do
      let reserved ← reserve recoverableProvider post.scope
      match reserved with
      | some saved => pure (launchOperationReplayResponse saved)
      | none => launchReserved recoverableProvider post

/-- `GET /api/hivra/agent-launches/[requestId]` -/
def getLaunch : LaunchScript LaunchAnswer := do
  let saved ← original recoverableProvider
  match saved with
  | some saved => pure (launchOperationReplayResponse saved)
  | none => pure .notFound

end Routes

structure LaunchStore where
  operation : Option LaunchOperation
  /-- The agent rows that were inserted for the request and are still there. -/
  agents : List AgentRow
  /-- Statements that go on without their caller. -/
  late : List LaunchCall
  /-- The id of every row that was ever inserted for the request; nothing reads it. -/
  created : List String

inductive LaunchFault
  | none_
  /-- It had no effect. -/
  | failed (trouble : Trouble)
  /-- It had its effect, and the answer was lost. -/
  | lost (trouble : Trouble)
  /-- It goes on. -/
  | late (trouble : Trouble)

/-- What `insert_hivra_managed_agent` finds. -/
inductive SlotVerdict
  | fits
  | full
  | invalid
  deriving DecidableEq

structure LaunchTurn where
  fault : LaunchFault
  verdict : SlotVerdict
  /-- The inserted row is represented. -/
  represented : Bool
  /-- The id of a new row. -/
  agentId : String
  kickedOff : Bool

def newAgentRow (scope : LaunchScope) (agentId : String) : AgentRow :=
  { id := agentId
    runtimeId := scope.kind.runtimeId
    computerProfile := scope.kind.computerProfile
    computerSubstrate := .proxmoxKvm
    operationId := some scope.operationId
    allocationOperationId := none }

def LaunchTurn.slotVerdict (turn : LaunchTurn) : DeploymentMode → SlotVerdict
  | .hivraManaged => turn.verdict
  | .selfManaged => .fits

namespace LaunchStore

def insertRow (store : LaunchStore) (scope : LaunchScope) (agentId : String) : LaunchStore :=
  { store with
    agents := newAgentRow scope agentId :: store.agents
    created := agentId :: store.created }

def insertAgent (store : LaunchStore) (deploymentMode : DeploymentMode) (scope : LaunchScope)
    (turn : LaunchTurn) : LaunchStore × InsertReply :=
  match turn.slotVerdict deploymentMode with
  | .full => (store, .planAgentLimit)
  | .invalid => (store, .invalidRequest)
  | .fits =>
    (store.insertRow scope turn.agentId,
      if turn.represented then .inserted (newAgentRow scope turn.agentId) else .absent)

end LaunchStore

def maybeSingle : List AgentRow → Except Trouble (Option AgentRow)
  | [] => .ok none
  | [agent] => .ok (some agent)
  | _ => .error (.error (some "PGRST116"))

def answerLaunch (call : LaunchCall) (turn : LaunchTurn) (store : LaunchStore) :
    LaunchStore × call.Reply :=
  match call with
  | .byRequest => (store, .ok store.operation)
  | .reserve scope =>
    let reserved := reserveHivraLaunchOperation scope store.operation
    ({ store with operation := reserved.1 }, .ok reserved.2)
  | .insertAgentRow deploymentMode scope =>
    let inserted := store.insertAgent deploymentMode scope turn
    (inserted.1, .ok inserted.2)
  | .update moves =>
    let updated := moves.apply store.agents store.operation
    ({ store with operation := updated.1 }, .ok updated.2)
  | .agentById agentId => (store, maybeSingle (store.agents.filter (·.id == agentId)))
  | .agentByOperation operationId runtimeId =>
    (store, maybeSingle (store.agents.filter fun agent =>
      agent.operationId == some operationId && agent.runtimeId == runtimeId))
  | .agentByAllocation operationId runtimeId =>
    (store, maybeSingle (store.agents.filter fun agent =>
      agent.allocationOperationId == some operationId && agent.runtimeId == runtimeId &&
        agent.computerSubstrate == .providerVm))
  | .kickOff => (store, .ok turn.kickedOff)

def performLaunch (call : LaunchCall) (turn : LaunchTurn) (store : LaunchStore) :
    LaunchStore × call.Reply :=
  match turn.fault with
  | .none_ => answerLaunch call turn store
  | .failed trouble => (store, .error trouble)
  | .lost trouble => ((answerLaunch call turn store).1, .error trouble)
  | .late trouble => ({ store with late := call :: store.late }, .error trouble)

/-- What happens besides the runs: other code writes to the agent rows and removes them, and a
statement that was given up has its effect. -/
inductive LaunchChange
  | rewriteAgent (index : Nat) (agent : AgentRow)
  | removeAgent (index : Nat)
  | finish (index : Nat) (turn : LaunchTurn)

def LaunchStore.change (change : LaunchChange) (store : LaunchStore) : LaunchStore :=
  match change with
  | .rewriteAgent index agent => { store with agents := store.agents.set index agent }
  | .removeAgent index => { store with agents := store.agents.eraseIdx index }
  | .finish index turn =>
    match store.late[index]? with
    | some call => (answerLaunch call turn { store with late := store.late.eraseIdx index }).1
    | none => store

inductive LaunchJob
  | post (launch : LaunchPost)
  | lookUp

def LaunchJob.script (recoverableProvider : LaunchOperation → AgentRow → Bool) :
    LaunchJob → LaunchScript LaunchAnswer
  | .post launch => postLaunch recoverableProvider launch
  | .lookUp => getLaunch recoverableProvider

def launchSystem (recoverableProvider : LaunchOperation → AgentRow → Bool) :
    System LaunchJob LaunchCall LaunchCall.Reply LaunchFailure LaunchAnswer LaunchStore LaunchTurn
      LaunchChange :=
  { program := LaunchJob.script recoverableProvider
    perform := fun _ call turn store => performLaunch call turn store
    change := LaunchStore.change }

end Hivra.Launches
