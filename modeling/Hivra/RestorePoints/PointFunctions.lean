import Hivra.RestorePoints.PointTables

/-!
# Restore-point functions

The functions that begin, complete and fail a snapshot or a restore, with the operation
functions they go through and those that claim, recover and delete a computer.  Each is
one transaction that holds the computer's row; one that raises returns no store.
-/

namespace Hivra.RestorePoints

open Hivra.Library
open Hivra.AgentNetwork (Uuid Raised raise refuseIf orUniqueViolation checkViolation
  notNullViolation)
open Hivra.AgentAuthority (DeploymentMode AgentStatus DesiredState Binding Connection
  DeploymentTarget Moment noAmbientAuthority notInPrerequisiteState invalidParameterValue
  tenMinutes compatibilityPayload refusesAmount errorText)

def Computer.withCompatibleOperation (computer : Computer) (kind : OperationKind)
    (moment : Moment) : Computer :=
  { computer with
    operation :=
      some
        { id := moment.newId
          kind
          startedAt := moment.now
          payload := some compatibilityPayload }
    desiredState := .running }

def keepsOperation (old new : Option Operation) : Bool :=
  match old, new with
  | some old, some new =>
    (old.kind == .provision || old.kind == .start || old.kind == .restart ||
        old.kind == .resize) &&
      new.id == old.id && new.kind == old.kind
  | _, _ => false

/-- `normalize_hivra_agent_operation_compatibility` of an update. -/
def normalizeOperationCompatibility (old new : Computer) (moment : Moment) :
    Except Raised Computer :=
  if old.deploymentMode = .hivraManaged ∧ old.operation.isNone = true ∧
      new.operation.isNone = true ∧
      (old.status = .running ∨ old.status = .stopped ∨ old.status = .error) ∧
      new.status = .provisioning then
    .ok (new.withCompatibleOperation .start moment)
  else if old.deploymentMode = .hivraManaged ∧
      keepsOperation old.operation new.operation = true ∧ new.status.isResult = true then
    if old.desiredState = .deleted ∧ new.status ≠ .deleted then
      raise notInPrerequisiteState "legacy provision result was superseded by delete"
    else
      .ok
        { new with
          desiredState := if new.status = .deleted then .deleted else new.desiredState
          operation := none }
  else .ok new

/-- The row as the trigger lets it be written; it runs where an update sets `status`. -/
def beforeUpdate (setsStatus : Bool) (old new : Computer) (moment : Moment) :
    Except Raised Computer :=
  if setsStatus then normalizeOperationCompatibility old new moment else .ok new

/-- `update public.hivra_agents` of the computer. -/
def PointStore.updateComputer (store : PointStore) (userId : String) (moment : Moment)
    (selected : Computer → Bool) (setsStatus : Bool) (change : Computer → Computer) :
    Except Raised (Bool × PointStore) :=
  if store.computer.userId = userId ∧ selected store.computer = true then do
    let computer ← beforeUpdate setsStatus store.computer (change store.computer) moment
    .ok (true, { store with computer })
  else .ok (false, store)

/-- `coalesce(payload ->> key, '')` matches. -/
def memberMatches (payload : Json) (key : String) (pattern : String → Bool) : Bool :=
  match payload.member? key with
  | some (.string text) => pattern text
  | _ => false

def refusesPayload (kind : OperationKind) (payload : Option Json) : Bool :=
  match kind, payload with
  | .resize, none => true
  | .resize, some payload =>
    !payload.isRecord || refusesAmount payload "cpu" false || refusesAmount payload "ram" true
  | .snapshot, none => true
  | .restore, none => true
  | .snapshot, some payload | .restore, some payload =>
    !payload.isRecord || !memberMatches payload "snapshotId" isSnapshotId ||
      !memberMatches payload "providerSnapshotId" isProviderSnapshotId
  | _, payload => payload.isSome

def PointStore.carriesBinding (store : PointStore) : Bool :=
  match store.computer.binding with
  | none => false
  | some binding =>
    (store.connections.find? fun connection =>
        connection.id == binding.connectionId &&
          connection.userId == store.computer.userId).any (fun connection =>
      connection.status == .ready && connection.revision == binding.revision) &&
    (store.targets.find? fun target =>
        target.id == binding.targetId && target.connectionId == binding.connectionId &&
          target.userId == store.computer.userId).any (fun target =>
      target.evidence.carries binding.revision)

def Computer.admits (computer : Computer) (kind : OperationKind) (desiredState : DesiredState) :
    Bool :=
  match kind with
  | .snapshot =>
    (computer.status == .running || computer.status == .stopped) &&
      desiredState == computer.desiredState
  | .restore =>
    (computer.status == .running || computer.status == .stopped) && desiredState == .stopped
  | _ => true

def claimHivraAgentOperation (userId : String) (operationId : Option Uuid)
    (operationKind : OperationKind) (desiredState : DesiredState) (operationPayload : Option Json)
    (moment : Moment) (store : PointStore) : Except Raised (Bool × PointStore) :=
  match operationId with
  | none => raise invalidParameterValue "invalid Hivra operation claim"
  | some operationId => do
    refuseIf (operationKind = .provision ∨ operationKind = .delete ∨ desiredState = .deleted)
      invalidParameterValue "invalid Hivra operation claim"
    refuseIf (refusesPayload operationKind operationPayload = true)
      invalidParameterValue "invalid Hivra operation payload"
    if store.computer.userId ≠ userId ∨ store.computer.status = .deleted ∨
        store.computer.desiredState = .deleted ∨ store.computer.operation.isSome = true then
      .ok (false, store)
    else if store.computer.admits operationKind desiredState = false then
      .ok (false, store)
    else if store.computer.deploymentMode = .selfManaged ∧ store.carriesBinding = false then
      .ok (false, store)
    else
      store.updateComputer userId moment (fun _ => true) false fun row =>
        { row with
          desiredState
          operation :=
            some
              { id := operationId
                kind := operationKind
                startedAt := moment.now
                payload := operationPayload } }

def claimHivraAgentOperationRecovery (userId : String) (operationId : Uuid)
    (expectedOperationStartedAt recoveredAt : Option Int) (moment : Moment) (store : PointStore) :
    Except Raised (Bool × PointStore) :=
  match expectedOperationStartedAt, recoveredAt with
  | some expected, some recoveredAt =>
    if recoveredAt < expected + tenMinutes then .ok (false, store)
    else
      store.updateComputer userId moment
        (fun row =>
          row.holds operationId (fun operation => operation.startedAt == expected) &&
            row.status != .deleted)
        false fun row =>
        { row with
          operation := row.operation.map fun operation =>
            { operation with startedAt := recoveredAt } }
  | _, _ => .ok (false, store)

/-- `(operation_payload ->> 'cpu')::numeric = p_cpu` and the same of `ram`. -/
def Operation.asksFor (operation : Operation) (cpu : Option Rat) (ram : Option Int) : Bool :=
  match operation.payload, cpu, ram with
  | some payload, some cpu, some ram =>
    (payload.member? "cpu").any (fun value => value.number? == some cpu) &&
      (payload.member? "ram").any (fun value => value.integer? == some ram)
  | _, _, _ => false

def completeHivraAgentOperation (userId : String) (operationId : Uuid)
    (expectedDesiredState : DesiredState) (status : AgentStatus) (cpu : Option Rat)
    (ram : Option Int) (moment : Moment) (store : PointStore) :
    Except Raised (Bool × PointStore) := do
  refuseIf (status = .provisioning ∨ status = .deleted) invalidParameterValue
    "invalid synchronous Hivra operation completion status"
  store.updateComputer userId moment
    (fun row =>
      row.holds operationId (fun operation =>
          operation.kind != .resize || (cpu.isNone && ram.isNone) || operation.asksFor cpu ram) &&
        row.desiredState == expectedDesiredState && row.status != .deleted)
    true fun row =>
    { row with
      status
      desiredState :=
        if status = .running then .running
        else if status = .stopped then .stopped
        else row.desiredState
      cpu := cpu.getD row.cpu
      ram := ram.getD row.ram
      error := none
      operation := none }

def releaseHivraAgentOperation (userId : String) (operationId : Uuid) (error : Option String)
    (markError : Bool) (moment : Moment) (store : PointStore) : Except Raised (Bool × PointStore) :=
  store.updateComputer userId moment (fun row => row.holds operationId (fun _ => true))
    true fun row =>
    { row with
      status := if markError = true ∧ row.desiredState ≠ .deleted then .error else row.status
      error := if markError then some (errorText error "operation failed") else row.error
      operation := none }

/-- `p_provider_status` as the desired state it is compared with. -/
def desiredOf (status : AgentStatus) : DesiredState :=
  match status with
  | .running => .running
  | _ => .stopped

/-- `p_provider_status not in ('running', 'stopped')`. -/
def refuseProviderStatus (status : AgentStatus) (message : String) : Except Raised Unit :=
  refuseIf (status ≠ .running ∧ status ≠ .stopped) invalidParameterValue message

def pointPayload (pointId : Uuid) (providerSnapshotId : String) : Json :=
  .object
    [("snapshotId", .string pointId.text), ("providerSnapshotId", .string providerSnapshotId)]

def PointStore.undeleted (store : PointStore) : Nat :=
  (store.points.rows.filter fun point => point.status != .deleted).length

def Computer.source (computer : Computer) (vmid : Int) : Except Raised PointSource :=
  match computer.infrastructureBindingTokenHash with
  | none => raise notNullViolation "null value in column source_binding_token_hash"
  | some bindingTokenHash =>
    .ok
      { deploymentMode := computer.deploymentMode
        proxmoxHost := computer.proxmoxHost
        binding := computer.binding
        bindingTokenHash
        vmid
        cpu := computer.cpu
        ram := computer.ram }

def PointStore.insertPoint (store : PointStore) (computer : Computer) (vmid : Int)
    (operationId pointId : Uuid) (providerSnapshotId : String) : Except Raised PointStore := do
  let source ← computer.source vmid
  refuseIf (isProviderSnapshotId providerSnapshotId = false ∨ source.checked = false)
    checkViolation "new row violates a check constraint of hivra_agent_snapshots"
  let points ← orUniqueViolation
    (store.points.insert
      { id := pointId
        providerSnapshotId
        status := .creating
        source
        createOperationId := operationId
        restoreOperationId := none
        snapshotConfigSha256 := none
        restoreCount := 0
        lastError := none })
  .ok { store with points }

def beginHivraAgentSnapshot (userId : String) (operationId : Option Uuid) (pointId : Uuid)
    (providerSnapshotId : String) (moment : Moment) (store : PointStore) :
    Except Raised (Bool × PointStore) :=
  let computer := store.computer
  match computer.vmid with
  | none => .ok (false, store)
  | some vmid =>
    if computer.userId ≠ userId ∨ computer.substrate ≠ some .proxmoxKvm ∨
        computer.infrastructureBindingTokenEnforced = false ∨
        (computer.status ≠ .running ∧ computer.status ≠ .stopped) ∨
        computer.desiredState ≠ desiredOf computer.status ∨
        providerSnapshotId ≠ providerSnapshotIdOf pointId ∨ 5 ≤ store.undeleted then
      .ok (false, store)
    else do
      let (claimed, next) ← claimHivraAgentOperation userId operationId .snapshot
        computer.desiredState (some (pointPayload pointId providerSnapshotId)) moment store
      match claimed, operationId with
      | true, some operationId => do
        let last ← next.insertPoint computer vmid operationId pointId providerSnapshotId
        .ok (true, last)
      | _, _ => .ok (false, next)

def PointStore.endPoint (store : PointStore) (pointId : Uuid) (selected : RestorePoint → Bool)
    (change : RestorePoint → RestorePoint)
    (keeps : ∀ point, (change point).entries = point.entries) (message : String) :
    Except Raised PointStore :=
  match store.point? pointId with
  | none => raise notInPrerequisiteState message
  | some point => do
    refuseIf (selected point = false) notInPrerequisiteState message
    .ok (store.setPoint pointId change keeps)

def RestorePoint.createdBy (point : RestorePoint) (operationId : Uuid) : Bool :=
  point.createOperationId == operationId && point.status == .creating

def RestorePoint.restoredBy (point : RestorePoint) (operationId : Uuid) : Bool :=
  point.restoreOperationId == some operationId && point.status == .restoring

def completeHivraAgentSnapshot (userId : String) (operationId pointId : Uuid)
    (providerStatus : AgentStatus) (snapshotConfigSha256 : String) (moment : Moment)
    (store : PointStore) : Except Raised (Bool × PointStore) := do
  refuseProviderStatus providerStatus "invalid Hivra snapshot completion evidence"
  refuseIf (isSha256 snapshotConfigSha256 = false) invalidParameterValue
    "invalid Hivra snapshot completion evidence"
  let (completed, next) ← completeHivraAgentOperation userId operationId (desiredOf providerStatus)
    providerStatus none none moment store
  if completed then do
    let last ← next.endPoint pointId (fun point => point.createdBy operationId)
      (fun point =>
        { point with
          status := .ready
          snapshotConfigSha256 := some snapshotConfigSha256
          lastError := none })
      (fun _ => rfl) "snapshot completion lost its durable identity"
    .ok (true, last)
  else .ok (false, next)

def failHivraAgentSnapshot (userId : String) (operationId pointId : Uuid)
    (providerStatus : AgentStatus) (error : Option String) (moment : Moment) (store : PointStore) :
    Except Raised (Bool × PointStore) := do
  refuseProviderStatus providerStatus "invalid Hivra snapshot provider status"
  if store.computer.userId ≠ userId ∨
      store.computer.holds operationId (fun operation => operation.kind == .snapshot) = false then
    .ok (false, store)
  else do
    let (completed, next) ← completeHivraAgentOperation userId operationId
      store.computer.desiredState providerStatus none none moment store
    if completed then do
      let last ← next.endPoint pointId (fun point => point.createdBy operationId)
        (fun point =>
          { point with
            status := .failed
            lastError := some (errorText error "snapshot failed") })
        (fun _ => rfl) "snapshot failure lost its durable identity"
      .ok (true, last)
    else .ok (false, next)

/-- The point is ready and was made of the computer as it stands.  A comparison with a
missing column is null, which refuses nothing. -/
def RestorePoint.restores (point : RestorePoint) (computer : Computer) : Bool :=
  point.status == .ready && point.snapshotConfigSha256.isSome &&
    point.source.deploymentMode == computer.deploymentMode &&
    point.source.proxmoxHost == computer.proxmoxHost &&
    point.source.binding == computer.binding &&
    computer.infrastructureBindingTokenHash.all (fun hash => point.source.bindingTokenHash == hash) &&
    computer.vmid.all (fun vmid => point.source.vmid == vmid)

def beginHivraAgentSnapshotRestore (userId : String) (operationId : Option Uuid) (pointId : Uuid)
    (moment : Moment) (store : PointStore) : Except Raised (Bool × PointStore) :=
  if store.computer.userId ≠ userId ∨
      (store.computer.status ≠ .running ∧ store.computer.status ≠ .stopped) then
    .ok (false, store)
  else
    match store.point? pointId with
    | none => .ok (false, store)
    | some point =>
      if point.restores store.computer = false then .ok (false, store)
      else do
        let (claimed, next) ← claimHivraAgentOperation userId operationId .restore .stopped
          (some (pointPayload pointId point.providerSnapshotId)) moment store
        if claimed then
          .ok
            (true,
              next.setPoint pointId
                (fun point =>
                  { point with
                    status := .restoring
                    restoreOperationId := operationId
                    lastError := none })
                (fun _ => rfl))
        else .ok (false, next)

def completeHivraAgentSnapshotRestore (userId : String) (operationId pointId : Uuid)
    (snapshotConfigSha256 : String) (moment : Moment) (store : PointStore) :
    Except Raised (Bool × PointStore) := do
  refuseIf (isSha256 snapshotConfigSha256 = false) invalidParameterValue
    "invalid Hivra restore completion evidence"
  match store.point? pointId with
  | none => .ok (false, store)
  | some point =>
    if store.computer.userId ≠ userId ∨ point.restoredBy operationId = false ∨
        point.snapshotConfigSha256 ≠ some snapshotConfigSha256 then
      .ok (false, store)
    else do
      let (completed, next) ← completeHivraAgentOperation userId operationId .stopped .stopped
        (some point.source.cpu) (some point.source.ram) moment store
      if completed then do
        let last ← next.endPoint pointId (fun point => point.restoredBy operationId)
          (fun point =>
            { point with
              status := .ready
              restoreOperationId := none
              restoreCount := point.restoreCount + 1
              lastError := none })
          (fun _ => rfl) "restore completion lost its durable identity"
        .ok (true, last)
      else .ok (false, next)

def failHivraAgentSnapshotRestore (userId : String) (operationId pointId : Uuid)
    (providerStatus : AgentStatus) (error : Option String) (moment : Moment) (store : PointStore) :
    Except Raised (Bool × PointStore) := do
  refuseProviderStatus providerStatus "invalid Hivra restore provider status"
  match store.point? pointId with
  | none => .ok (false, store)
  | some point =>
    if store.computer.userId ≠ userId ∨ point.restoredBy operationId = false then
      .ok (false, store)
    else do
      let (completed, next) ← completeHivraAgentOperation userId operationId .stopped
        providerStatus none none moment store
      if completed then do
        let last ← next.endPoint pointId (fun point => point.restoredBy operationId)
          (fun point =>
            { point with
              status := .ready
              restoreOperationId := none
              lastError := some (errorText error "restore failed") })
          (fun _ => rfl) "restore failure lost its durable identity"
        .ok (true, last)
      else .ok (false, next)

inductive DeleteAnswer
  | claimed
  | pending
  | deleted
  | notFound

def requestHivraAgentDelete (userId : String) (operationId : Option Uuid) (moment : Moment)
    (store : PointStore) : Except Raised (DeleteAnswer × PointStore) :=
  match operationId with
  | none => raise invalidParameterValue "delete operation id is required"
  | some operationId =>
    if store.computer.userId ≠ userId then .ok (.notFound, store)
    else if store.computer.status = .deleted then .ok (.deleted, store)
    else if store.computer.operation.isSome = true then do
      let (_, next) ← store.updateComputer userId moment (fun _ => true) false fun row =>
        { row with desiredState := .deleted }
      .ok (.pending, next)
    else do
      let (_, next) ← store.updateComputer userId moment (fun _ => true) false fun row =>
        { row with
          desiredState := .deleted
          operation :=
            some
              { id := operationId
                kind := .delete
                startedAt := moment.now
                payload := none } }
      .ok (.claimed, next)

def completeHivraAgentDelete (userId : String) (operationId : Uuid) (moment : Moment)
    (store : PointStore) : Except Raised (Bool × PointStore) := do
  let (updated, next) ← store.updateComputer userId moment
    (fun row =>
      row.holds operationId (fun operation =>
          operation.kind == .delete || operation.kind == .provision) &&
        row.desiredState == .deleted)
    true fun row =>
    { row with
      status := .deleted
      desiredState := .deleted
      operation := none
      binding := none
      vmid := none
      error := none }
  if updated then
    .ok
      (true,
        { next with
          points := next.points.rewrite (fun point => point.status != .deleted)
            (fun point =>
              { point with
                status := .deleted
                restoreOperationId := none
                lastError := none })
            (fun _ => rfl) })
  else .ok (false, next)

end Hivra.RestorePoints
