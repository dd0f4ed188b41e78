import Hivra.AgentAuthority.AuthorityRuns
import Hivra.Library.Readings
import Hivra.ProviderPower.PowerGuards

/-!
# Power operations

The functions that claim, dispatch, record, verify and cancel a power operation, and
the shared functions that end an operation or ask to delete the computer.  Each holds
the computer's row, so it is one step; `clock_timestamp()` moves on while it runs.
-/

namespace Hivra.ProviderPower

open Hivra.Library
open Hivra.AgentNetwork (Uuid Raised raise refuseIf orUniqueViolation)
open Hivra.AgentAuthority (AgentStatus DesiredState OperationKind DeleteAnswer ResultCall
  objectInUse invalidParameterValue tenMinutes errorText)

/-- When a call begins, and its readings: for a check, a write and the guard of the write. -/
structure PowerClock extends Readings where
  start : Int

namespace PowerClock

variable (clock : PowerClock)

def check : Int := clock.toReadings.clock clock.start 0

def write : Int := clock.toReadings.clock clock.start 1

def guard : Int := clock.toReadings.clock clock.start 2

end PowerClock

section Statements

variable (db : PowerDatabase)

/-- An update of the computer's row.  `admitted`: the other triggers of the row, which
change nothing of what is written, let it through. -/
def PowerDatabase.writeComputer (change : ProviderComputer → ProviderComputer) (admitted : Bool)
    (now : Int) : Except Raised PowerDatabase := do
  let new := change db.computer
  guardPowerLifecycle db.journal db.computer new now
  refuseIf (admitted = false) objectInUse "Provider computer row is guarded"
  .ok { db with computer := new }

theorem PowerOperation.entries_change {change : PowerOperation → PowerOperation}
    (keeps : ∀ row, (change row).operationId = row.operationId) (row : PowerOperation) :
    (change row).entries = row.entries := by
  unfold PowerOperation.entries
  rw [keeps]

def PowerDatabase.writeJournal (operationId : Uuid) (change : PowerOperation → PowerOperation)
    (keeps : ∀ row, (change row).operationId = row.operationId) (now : Int) :
    Except Raised PowerDatabase :=
  match db.operation? operationId with
  | none => .ok db
  | some old => do
    guardPowerUpdate db.computer old (change old) now
    .ok
      { db with
        journal :=
          db.journal.rewrite (fun row => row.operationId == operationId) change
            (PowerOperation.entries_change keeps) }

def ProviderComputer.isRow (computer : ProviderComputer) (userId : String) (agentId : Uuid) : Bool :=
  computer.id == agentId && computer.userId == userId

/-- `where id = p_agent_id and user_id = p_user_id and operation_id = p_operation_id and
status = 'provisioning'`. -/
def ProviderComputer.operates (computer : ProviderComputer) (userId : String)
    (agentId operationId : Uuid) : Bool :=
  computer.isRow userId agentId &&
    computer.operation.any (fun operation => operation.id == operationId) &&
    computer.status == .provisioning

end Statements

def reservedOperation (computer : ProviderComputer) (identity : PowerIdentity) (operationId : Uuid)
    (kind : PowerKind) (now : Int) : PowerOperation :=
  { operationId
    userId := computer.userId
    kind
    identity
    originalStatus := computer.status
    createdAt := now
    dispatchIntentAt := none
    beforeBootId := none
    actionReceipt := none
    verifiedAt := none
    verifiedStatus := none
    verifiedBootId := none
    cancelledAt := none }

def ProviderComputer.claimed (computer : ProviderComputer) (operationId : Uuid) (kind : PowerKind)
    (now : Int) : ProviderComputer :=
  { computer with
    status := .provisioning
    desiredState := kind.desiredState
    operation :=
      some { id := operationId, kind := kind.operationKind, startedAt := now, payload := none }
    error := none }

/-- `claim_hivra_provider_power_operation`; `parents` are the parents' rows as they were
found ready and locked, for the binding the row had before. -/
def claimHivraProviderPowerOperation (userId : String) (agentId : Uuid) (operationId : Option Uuid)
    (kind : Option PowerKind) (parents : Option ParentRows) (admitted : Bool) (clock : PowerClock)
    (db : PowerDatabase) : Except Raised (Bool × PowerDatabase) :=
  match operationId, kind with
  | some operationId, some kind =>
    let computer := db.computer
    if computer.isRow userId agentId = false ∨ parents.isNone = true then .ok (false, db)
    else if computer.desiredState = .deleted ∨ computer.parents? ≠ parents ∨
        computer.installSucceeded = false then
      .ok (false, db)
    else
      match computer.operation with
      | some held =>
        .ok
          (held.id == operationId && held.kind == kind.operationKind &&
            (db.operation? operationId).any (fun row => row.kind == kind), db)
      | none =>
        if computer.status ≠ kind.startsFrom ∨ (db.operation? operationId).isSome = true then
          .ok (false, db)
        else
          match computer.identity? with
          | none => raise "23502" "null value in column violates not-null constraint"
          | some identity => do
            let reserved := reservedOperation computer identity operationId kind clock.write
            guardPowerInsert computer reserved clock.guard
            let journal ← orUniqueViolation (db.journal.insert reserved)
            let next ← ({ db with journal } : PowerDatabase).writeComputer
              (fun row => row.claimed operationId kind clock.write) admitted clock.guard
            .ok (true, next)
  | _, _ => .ok (false, db)

inductive DispatchAnswer
  | dispatch
  | observe
  | rejected

def beginHivraProviderPowerDispatch (userId : String) (agentId operationId : Uuid)
    (beforeBootId : Option Uuid) (clock : PowerClock) (db : PowerDatabase) :
    Except Raised (DispatchAnswer × PowerDatabase) :=
  if db.computer.operates userId agentId operationId = false then .ok (.rejected, db)
  else
    match db.operation? operationId with
    | none => .ok (.rejected, db)
    | some row =>
      if db.computer.operation.map HeldOperation.kind ≠ some row.kind.operationKind ∨
          row.cancelledAt.isSome = true then
        .ok (.rejected, db)
      else if row.dispatchIntentAt.isSome = true then .ok (.observe, db)
      else if db.computer.desiredState = .deleted ∨ row.dispatchNotAfter ≤ clock.check ∨
          ¬(row.kind = .restart ↔ beforeBootId.isSome = true) then
        .ok (.rejected, db)
      else do
        let next ← db.writeJournal operationId
          (fun row => { row with dispatchIntentAt := some clock.write, beforeBootId })
          (fun _ => rfl) clock.guard
        .ok (.dispatch, next)

/-- `record_hivra_provider_power_action`; an action of another shape is none. -/
def recordHivraProviderPowerAction (userId : String) (agentId operationId : Uuid)
    (action : Option ProviderAction) (clock : PowerClock) (db : PowerDatabase) :
    Except Raised (Bool × PowerDatabase) :=
  if db.computer.operates userId agentId operationId = false then .ok (false, db)
  else
    match db.operation? operationId, action with
    | some row, some action =>
      if row.dispatchIntentAt.isNone = true ∨ row.cancelledAt.isSome = true ∨
          action.valid row.identity.serverId row.kind = false then
        .ok (false, db)
      else if row.actionReceipt.any (fun receipt => receipt.id != action.id) = true then
        .ok (false, db)
      else if row.actionReceipt.any (fun receipt => receipt.status != .running) = true then
        .ok (row.actionReceipt == some action, db)
      else do
        let next ← db.writeJournal operationId
          (fun row => { row with actionReceipt := some action }) (fun _ => rfl) clock.guard
        .ok (true, next)
    | _, _ => .ok (false, db)

def observes (row : PowerOperation) (status : Option VerifiedStatus) (bootId : Option Uuid)
    (runtimeReady publicReady : Option Bool) : Bool :=
  match row.kind with
  | .stop =>
    status == some .off && bootId.isNone && runtimeReady == some false &&
      publicReady == some false
  | .start =>
    status == some .running && bootId.isSome && runtimeReady == some true &&
      publicReady == some true
  | .restart =>
    status == some .running && bootId.isSome && runtimeReady == some true &&
      publicReady == some true && bootId != row.beforeBootId

def verifyHivraProviderPowerResult (userId : String) (agentId operationId : Uuid)
    (observedAt : Option Int) (status : Option VerifiedStatus) (bootId : Option Uuid)
    (runtimeReady publicReady : Option Bool) (clock : PowerClock) (db : PowerDatabase) :
    Except Raised (Bool × PowerDatabase) :=
  if db.computer.operates userId agentId operationId = false ∨
      db.computer.desiredState = .deleted then
    .ok (false, db)
  else
    match db.operation? operationId, observedAt with
    | some row, some observedAt =>
      if row.receiptStatus? ≠ some .success ∨ observedAt < clock.check - seconds 30 ∨
          clock.check + seconds 5 < observedAt ∨
          row.verifiedAt.any (fun earlier => observedAt < earlier) = true then
        .ok (false, db)
      else if observes row status bootId runtimeReady publicReady = false then .ok (false, db)
      else do
        let next ← db.writeJournal operationId
          (fun row =>
            { row with
              verifiedAt := some observedAt
              verifiedStatus := status
              verifiedBootId := bootId })
          (fun _ => rfl) clock.guard
        .ok (true, next)
    | _, _ => .ok (false, db)

def ProviderComputer.cancelled (computer : ProviderComputer) (originalStatus : AgentStatus) :
    ProviderComputer :=
  { computer with
    status := originalStatus
    desiredState :=
      if computer.desiredState = .deleted then .deleted else desiredOf originalStatus
    operation := none }

def cancelHivraProviderPowerBeforeDispatch (userId : String) (agentId operationId : Uuid)
    (admitted : Bool) (clock : PowerClock) (db : PowerDatabase) :
    Except Raised (Bool × PowerDatabase) :=
  if db.computer.operates userId agentId operationId = false then .ok (false, db)
  else
    match db.operation? operationId with
    | none => .ok (false, db)
    | some row =>
      if row.dispatchIntentAt.isSome = true then .ok (false, db)
      else do
        let marked ← db.writeJournal operationId
          (fun row => { row with cancelledAt := some clock.write }) (fun _ => rfl) clock.guard
        let next ← marked.writeComputer (fun computer => computer.cancelled row.originalStatus)
          admitted clock.guard
        .ok (true, next)

def requestHivraAgentDelete (userId : String) (agentId : Uuid) (operationId : Option Uuid)
    (admitted : Bool) (clock : PowerClock) (db : PowerDatabase) :
    Except Raised (DeleteAnswer × PowerDatabase) :=
  match operationId with
  | none => raise invalidParameterValue "delete operation id is required"
  | some operationId =>
    if db.computer.isRow userId agentId = false then .ok (.notFound, db)
    else if db.computer.status = .deleted then .ok (.deleted, db)
    else if db.computer.operation.isSome = true then do
      let next ← db.writeComputer (fun row => { row with desiredState := .deleted }) admitted
        clock.guard
      .ok (.pending, next)
    else do
      let next ← db.writeComputer
        (fun row =>
          { row with
            desiredState := .deleted
            operation :=
              some { id := operationId, kind := .delete, startedAt := clock.check, payload := none } })
        admitted clock.guard
      .ok (.claimed, next)

/-- `operation_id = p_operation_id`, and more of the operation. -/
def ProviderComputer.holds (computer : ProviderComputer) (operationId : Uuid)
    (more : HeldOperation → Bool) : Bool :=
  computer.operation.any fun operation => operation.id == operationId && more operation

/-- `(operation_payload ->> 'cpu')::numeric = p_cpu` and the same of `ram`. -/
def HeldOperation.asksFor (operation : HeldOperation) (cpu : Option Rat) (ram : Option Int) : Bool :=
  match operation.payload, cpu, ram with
  | some payload, some cpu, some ram => payload.cpu == some cpu && payload.ram == some ram
  | _, _, _ => false

def refusesResult : ResultCall → Bool
  | .complete _ status _ _ => status == .provisioning || status == .deleted
  | .completeRunning operationKind _ _ _ _ => operationKind == .stop || operationKind == .delete
  | _ => false

/-- `where` of the update each shared function is. -/
def ProviderComputer.selectedBy (computer : ProviderComputer) (operationId : Uuid) :
    ResultCall → Bool
  | .recover expectedOperationStartedAt recoveredAt =>
    match expectedOperationStartedAt, recoveredAt with
    | some expected, some recoveredAt =>
      decide (expected + tenMinutes ≤ recoveredAt) &&
        computer.holds operationId (fun operation => operation.startedAt == expected) &&
        computer.status != .deleted
    | _, _ => false
  | .persistIdentity _ _ =>
    computer.holds operationId (fun operation => operation.kind == .provision) &&
      (computer.desiredState == .running || computer.desiredState == .deleted) &&
      computer.status == .provisioning
  | .complete expected _ cpu ram =>
    computer.holds operationId (fun operation =>
        operation.kind != .resize || (cpu.isNone && ram.isNone) || operation.asksFor cpu ram) &&
      computer.desiredState == expected.state && computer.status != .deleted
  | .proceed expected _ cpu ram =>
    computer.holds operationId (fun operation =>
        (operation.kind == .start || operation.kind == .restart || operation.kind == .resize) &&
          (operation.kind != .resize || operation.asksFor cpu ram)) &&
      computer.desiredState == expected.state && computer.status != .deleted
  | .completeRunning operationKind _ _ _ _ =>
    computer.holds operationId (fun operation => operation.kind == operationKind) &&
      computer.desiredState == .running && computer.status == .provisioning
  | .release _ _ => computer.holds operationId (fun _ => true)
  | .recordFailure _ => computer.holds operationId (fun _ => true)
  | .completeDelete =>
    computer.holds operationId (fun operation =>
        operation.kind == .delete || operation.kind == .provision) &&
      computer.desiredState == .deleted

/-- `set` of the update each shared function is; the VMID of a provider's server is
none, and its allocation is the operation that provisioned it. -/
def ProviderComputer.changedBy (computer : ProviderComputer) : ResultCall → ProviderComputer
  | .recover _ recoveredAt =>
    { computer with
      operation := computer.operation.map fun operation =>
        { operation with startedAt := recoveredAt.getD operation.startedAt } }
  | .persistIdentity _ ip => { computer with ip }
  | .complete _ status cpu ram =>
    { computer with
      status
      desiredState :=
        if status = .running then .running
        else if status = .stopped then .stopped
        else computer.desiredState
      cpu := cpu.getD computer.cpu
      ram := ram.getD computer.ram
      error := none
      operation := none }
  | .proceed _ status cpu ram =>
    { computer with
      status
      cpu := cpu.getD computer.cpu
      ram := ram.getD computer.ram
      error := none }
  | .completeRunning _ chatUrl ip apiToken provisionedAt =>
    { computer with
      status := .running
      chatUrl
      ip := ip.or computer.ip
      apiToken := apiToken.or computer.apiToken
      provisionedAt := computer.provisionedAt.or provisionedAt
      error := none
      operation := none }
  | .release error markError =>
    { computer with
      status :=
        if markError = true ∧ computer.desiredState ≠ .deleted then .error else computer.status
      error := if markError then some (errorText error "operation failed") else computer.error
      operation := none }
  | .recordFailure error =>
    { computer with error := some (errorText error "provider operation outcome is unknown") }
  | .completeDelete =>
    { computer with
      status := .deleted
      desiredState := .deleted
      operation := none
      binding := none
      ip := none
      chatUrl := none
      apiToken := none
      error := none }

def runResult (userId : String) (agentId operationId : Uuid) (call : ResultCall) (admitted : Bool)
    (clock : PowerClock) (db : PowerDatabase) : Except Raised (Bool × PowerDatabase) :=
  if refusesResult call = true then
    raise invalidParameterValue "invalid Hivra operation result"
  else if db.computer.isRow userId agentId = false ∨
      db.computer.selectedBy operationId call = false then
    .ok (false, db)
  else do
    let next ← db.writeComputer (fun computer => computer.changedBy call) admitted clock.guard
    .ok (true, next)

inductive PowerCall
  | claim (userId : String) (agentId : Uuid) (operationId : Option Uuid) (kind : Option PowerKind)
      (parents : Option ParentRows)
  | beginDispatch (userId : String) (agentId operationId : Uuid) (beforeBootId : Option Uuid)
  | recordAction (userId : String) (agentId operationId : Uuid) (action : Option ProviderAction)
  | verifyResult (userId : String) (agentId operationId : Uuid) (observedAt : Option Int)
      (status : Option VerifiedStatus) (bootId : Option Uuid)
      (runtimeReady publicReady : Option Bool)
  | cancelBeforeDispatch (userId : String) (agentId operationId : Uuid)
  | requestDelete (userId : String) (agentId : Uuid) (operationId : Option Uuid)
  | result (userId : String) (agentId operationId : Uuid) (call : ResultCall)

inductive PowerAnswer
  | raised (raised : Raised)
  | found (found : Bool)
  | dispatch (answer : DispatchAnswer)
  | delete (answer : DeleteAnswer)

structure PowerEvent where
  clock : PowerClock
  admitted : Bool
  call : PowerCall

def PowerEvent.run (event : PowerEvent) (db : PowerDatabase) :
    Except Raised (PowerAnswer × PowerDatabase) :=
  match event.call with
  | .claim userId agentId operationId kind parents =>
    (claimHivraProviderPowerOperation userId agentId operationId kind parents event.admitted
      event.clock db).map (Prod.map .found id)
  | .beginDispatch userId agentId operationId beforeBootId =>
    (beginHivraProviderPowerDispatch userId agentId operationId beforeBootId event.clock
      db).map (Prod.map .dispatch id)
  | .recordAction userId agentId operationId action =>
    (recordHivraProviderPowerAction userId agentId operationId action event.clock db).map
      (Prod.map .found id)
  | .verifyResult userId agentId operationId observedAt status bootId runtimeReady publicReady =>
    (verifyHivraProviderPowerResult userId agentId operationId observedAt status bootId
      runtimeReady publicReady event.clock db).map (Prod.map .found id)
  | .cancelBeforeDispatch userId agentId operationId =>
    (cancelHivraProviderPowerBeforeDispatch userId agentId operationId event.admitted event.clock
      db).map (Prod.map .found id)
  | .requestDelete userId agentId operationId =>
    (requestHivraAgentDelete userId agentId operationId event.admitted event.clock db).map
      (Prod.map .delete id)
  | .result userId agentId operationId call =>
    (runResult userId agentId operationId call event.admitted event.clock db).map
      (Prod.map .found id)

/-- What the caller gets, and the rows after the call; a call that raises leaves them. -/
def PowerDatabase.perform (db : PowerDatabase) (event : PowerEvent) : PowerAnswer × PowerDatabase :=
  match event.run db with
  | .ok answered => answered
  | .error raised => (.raised raised, db)

def PowerDatabase.step (db : PowerDatabase) (event : PowerEvent) : PowerDatabase :=
  (db.perform event).2

def PowerDatabase.after (db : PowerDatabase) (history : List PowerEvent) : PowerDatabase :=
  history.foldl PowerDatabase.step db

end Hivra.ProviderPower
