import Hivra.AgentAuthority.AgentOperations

/-!
# Connection functions

The functions that create, edit, prepare, check and delete a connection.  Each holds
the connection's row, so it is one step.  A function that changes the evidence of a
connection's targets first asks for the lease or looks for agents in its way.
-/

namespace Hivra.AgentAuthority

open Hivra.Library
open Hivra.AgentNetwork (Uuid Raised raise refuseIf orUniqueViolation checkViolation)

def objectInUse : String := "55006"

def noData : String := "P0002"

def foreignKeyViolation : String := "23503"

theorem Connection.entries_change (connection : Connection) (status : ConnectionStatus)
    (lease : Option PreflightLease) (lastCheckedAt : Option Int) (lastErrorCode : Option String)
    (pendingBindingRebindFromRevision : Option Nat) : Connection.entries
        { connection with
          status, lease, lastCheckedAt, lastErrorCode, pendingBindingRebindFromRevision } =
      connection.entries := rfl

theorem DeploymentTarget.entries_change (target : DeploymentTarget) (displayName : String)
    (evidence : TargetEvidence) :
    DeploymentTarget.entries { target with displayName, evidence } = target.entries := rfl

theorem Agent.entries_rebind (agent : Agent) (revision : Nat) : Agent.entries
        { agent with binding := agent.binding.map fun binding => { binding with revision } } =
      agent.entries := by
  unfold Agent.entries
  cases agent.binding <;> rfl

section Rows

variable (db : Database) (userId : String) (connectionId : Uuid)

/-- `where id = p_connection_id and user_id = p_user_id and revision =
p_expected_revision`. -/
def Database.connectionAt (expectedRevision : Nat) : Option Connection :=
  db.connections.find? fun connection =>
    connection.id == connectionId && connection.userId == userId &&
      connection.revision == expectedRevision

def Agent.boundTo (agent : Agent) : Bool :=
  agent.binding.any (fun binding => binding.connectionId == connectionId) &&
    agent.userId == userId && agent.status != .deleted

def Database.setConnection (status : ConnectionStatus) (lease : Option PreflightLease)
    (lastCheckedAt : Option Int) (lastErrorCode : Option String) : Database :=
  { db with
    connections :=
      db.connections.rewrite
        (fun connection => connection.id == connectionId && connection.userId == userId)
        (fun connection => { connection with status, lease, lastCheckedAt, lastErrorCode })
        (fun connection => connection.entries_change status lease lastCheckedAt lastErrorCode _) }

def Database.revokeTargets (lastErrorCode : Option String) : Database :=
  { db with
    targets :=
      db.targets.rewrite
        (fun target => target.connectionId == connectionId && target.userId == userId)
        (fun target => { target with evidence := target.evidence.revoked lastErrorCode })
        (fun target => target.entries_change _ _) }

end Rows

def superseded : Option String := some "PREFLIGHT_SUPERSEDED"

structure ConnectionInput where
  name : String
  setupMode : SetupMode
  sshHost : String
  sshPort : Int
  sshUser : String
  sshHostFingerprintSha256 : String
  config : Option Json
  encryptedBundle : String
  keyVersion : Int

def createInfrastructureConnection (userId : String) (input : ConnectionInput) (moment : Moment)
    (db : Database) : Except Raised Database := do
  let connection : Connection :=
    { id := moment.newId
      userId
      name := input.name
      setupMode := input.setupMode
      sshHost := input.sshHost
      sshPort := input.sshPort
      sshUser := input.sshUser
      sshHostFingerprintSha256 := input.sshHostFingerprintSha256
      config := input.config.getD (.object [])
      status := .pending
      revision := 1
      lease := none
      lastCheckedAt := none
      lastErrorCode := none
      pendingBindingRebindFromRevision := none
      secret := some { encryptedBundle := input.encryptedBundle, keyVersion := input.keyVersion } }
  refuseIf (connection.checked = false ∨ btrim input.encryptedBundle = "" ∨ input.keyVersion ≤ 0)
    checkViolation "new row violates check constraint"
  let connections ← orUniqueViolation (db.connections.insert connection)
  .ok { db with connections }

structure ConnectionPatch where
  name : Option String
  setupMode : Option SetupMode
  sshHost : Option String
  sshPort : Option Int
  sshUser : Option String
  sshHostFingerprintSha256 : Option String
  config : Option Json

/-- `(patch - 'name') = '\x7b\x7d'`. -/
def ConnectionPatch.namesOnly (patch : ConnectionPatch) : Bool :=
  patch.setupMode.isNone && patch.sshHost.isNone && patch.sshPort.isNone && patch.sshUser.isNone &&
    patch.sshHostFingerprintSha256.isNone && patch.config.isNone

structure RotatedCredentials where
  encryptedBundle : String
  keyVersion : Int

/-- `left(text, 128)`. -/
def left128 (text : String) : String :=
  String.ofList (text.toList.take 128)

def Connection.patched (connection : Connection) (patch : ConnectionPatch)
    (operationalChange : Bool) (rotated : Option RotatedCredentials) : Connection :=
  { connection with
    name := patch.name.getD connection.name
    setupMode := patch.setupMode.getD connection.setupMode
    sshHost := patch.sshHost.getD connection.sshHost
    sshPort := patch.sshPort.getD connection.sshPort
    sshUser := patch.sshUser.getD connection.sshUser
    sshHostFingerprintSha256 :=
      patch.sshHostFingerprintSha256.getD connection.sshHostFingerprintSha256
    config := patch.config.getD connection.config
    status := if operationalChange then .pending else connection.status
    lastCheckedAt := if operationalChange then none else connection.lastCheckedAt
    lastErrorCode := if operationalChange then none else connection.lastErrorCode
    revision := if operationalChange then connection.revision + 1 else connection.revision
    secret :=
      match rotated with
      | some rotated =>
        some { encryptedBundle := rotated.encryptedBundle, keyVersion := rotated.keyVersion }
      | none => connection.secret }

/-- `update_infrastructure_connection`; `rotated` is what `p_rotate_credentials` writes.
The lease that an operational change clears is none here: a held one is refused. -/
def updateInfrastructureConnection (userId : String) (connectionId : Uuid) (expectedRevision : Nat)
    (patch : ConnectionPatch) (operationalChange : Bool) (rotated : Option RotatedCredentials)
    (db : Database) : Except Raised Database :=
  match db.connectionAt userId connectionId expectedRevision with
  | none => .ok db
  | some connection => do
    refuseIf (connection.lease.isSome = true) objectInUse
      "infrastructure connection has an active preparation or preflight lease"
    refuseIf (rotated.isSome = true ∧ operationalChange = false) invalidParameterValue
      "credential rotation must be operational"
    refuseIf (operationalChange = false ∧ patch.namesOnly = false) invalidParameterValue
      "non-operational connection update may only change name"
    refuseIf (operationalChange = true ∧
        ∃ agent ∈ db.agents.rows,
          agent.boundTo userId connectionId = true ∧ agent.deploymentMode = .selfManaged)
      objectInUse "infrastructure connection is bound to active Hivra agents"
    let next := connection.patched patch operationalChange rotated
    refuseIf (next.checked = false) checkViolation "new row violates check constraint"
    refuseIf (rotated.isSome = true ∧ connection.secret.isNone = true) noData
      "infrastructure credential row missing"
    refuseIf ((rotated.any fun given =>
        btrim given.encryptedBundle == "" || given.keyVersion ≤ 0) = true)
      checkViolation "new row violates check constraint"
    let connections ← orUniqueViolation
      (db.connections.update (fun row => row.id == connectionId) (fun _ => next))
    let written : Database := { db with connections }
    if operationalChange then .ok (written.revokeTargets userId connectionId superseded)
    else if patch.name.isSome then
      .ok
        { written with
          targets :=
            db.targets.rewrite
              (fun target => target.connectionId == connectionId && target.userId == userId)
              (fun target =>
                { target with displayName := left128 (next.name ++ " / " ++ target.externalId) })
              (fun target => target.entries_change _ _) }
    else .ok written

inductive ConnectionDeleteAnswer
  | deleted
  | blocked
  | notFound

/-- `delete from`: the rows that stay. -/
def keepRows {Row Key : Type} {entries : Row → List Key} (table : Table entries)
    (kept : Row → Bool) : Table entries :=
  { rows := table.rows.filter kept
    unique := table.unique.filter _ }

/-- `delete_infrastructure_connection`: targets go with the connection, and the
foreign key of a bound agent restricts it. -/
def deleteInfrastructureConnection (userId : String) (connectionId : Uuid) (db : Database) :
    Except Raised (ConnectionDeleteAnswer × Database) :=
  match db.connections.find? (fun connection =>
      connection.id == connectionId && connection.userId == userId) with
  | none => .ok (.notFound, db)
  | some connection =>
    if connection.lease.isSome = true then .ok (.blocked, db)
    else do
      refuseIf (∃ agent ∈ db.agents.rows,
          (agent.binding.any fun binding => binding.connectionId == connectionId) = true)
        foreignKeyViolation "violates foreign key constraint hivra_agents_self_managed_target_fk"
      .ok
        (.deleted,
          { db with
            connections := keepRows db.connections fun row => row.id != connectionId
            targets := keepRows db.targets fun target => target.connectionId != connectionId })

def Connection.leasedToOther (connection : Connection) (runId : Uuid) (startedAt : Int) : Bool :=
  connection.lease.any fun lease => lease.runId != runId && startedAt ≤ lease.expiresAt

def Database.beginRun (db : Database) (userId : String) (connectionId runId : Uuid)
    (startedAt : Int) : Database :=
  (db.setConnection userId connectionId .checking
    (some { runId, expiresAt := startedAt + tenMinutes }) (some startedAt) none).revokeTargets
      userId connectionId superseded

def beginInfrastructureConnectionPreparation (userId : String) (connectionId : Uuid)
    (expectedRevision : Nat) (runId : Uuid) (startedAt : Int) (db : Database) : Bool × Database :=
  match db.connectionAt userId connectionId expectedRevision with
  | none => (false, db)
  | some connection =>
    if connection.leasedToOther runId startedAt = true then (false, db)
    else if db.agents.rows.any (fun agent => agent.boundTo userId connectionId) = true then
      (false, db)
    else (true, db.beginRun userId connectionId runId startedAt)

def beginInfrastructureConnectionPreflight (userId : String) (connectionId : Uuid)
    (expectedRevision : Nat) (runId : Uuid) (startedAt : Int) (db : Database) : Bool × Database :=
  match db.connectionAt userId connectionId expectedRevision with
  | none => (false, db)
  | some connection =>
    if connection.leasedToOther runId startedAt = true then (false, db)
    else if db.agents.rows.any (fun agent =>
        agent.boundTo userId connectionId && agent.operation.isSome) = true then
      (false, db)
    else (true, db.beginRun userId connectionId runId startedAt)

def invalidateInfrastructureConnectionPreflight (userId : String) (connectionId : Uuid)
    (expectedRevision : Nat) (checkedAt : Option Int) (lastErrorCode : Option String)
    (db : Database) : Bool × Database :=
  match db.connectionAt userId connectionId expectedRevision with
  | none => (false, db)
  | some connection =>
    if connection.lease.isSome = true then (false, db)
    else if db.agents.rows.any (fun agent =>
        agent.boundTo userId connectionId && agent.operation.isSome) = true then
      (false, db)
    else
      (true,
        (db.setConnection userId connectionId .error none checkedAt lastErrorCode).revokeTargets
          userId connectionId lastErrorCode)

def recoverExpiredInfrastructureConnectionRun (userId : String) (connectionId : Uuid)
    (expectedRevision : Nat) (expectedRunId : Uuid) (recoveredAt : Int) (db : Database) :
    Bool × Database :=
  match db.connectionAt userId connectionId expectedRevision with
  | none => (false, db)
  | some connection =>
    if connection.lease.any (fun lease =>
        lease.runId == expectedRunId && lease.expiresAt < recoveredAt) = true then
      (true,
        (db.setConnection userId connectionId .error none (some recoveredAt)
          superseded).revokeTargets userId connectionId superseded)
    else (false, db)

/-- The members of `p_target`. -/
structure FoundTarget where
  externalId : String
  status : TargetStatus
  capacity : Option Json
  capabilities : Option Json
  supportedIsolationDrivers : Option (List String)
  isolationClass : Option IsolationClass
  lastErrorCode : Option String

def FoundTarget.evidence (found : FoundTarget) (checkedAt : Option Int) (revision : Nat) :
    TargetEvidence :=
  { status := found.status
    capacity := found.capacity.getD (.object [])
    capabilities := found.capabilities.getD (.object [])
    supportedIsolationDrivers := found.supportedIsolationDrivers.getD []
    isolationClass := found.isolationClass
    lastPreflightAt := checkedAt
    lastErrorCode := found.lastErrorCode
    evidenceConnectionRevision := revision }

/-- `insert into ... on conflict (connection_id, external_id) do update`. -/
def Database.writeTarget (db : Database) (connection : Connection) (found : FoundTarget)
    (checkedAt : Option Int) (revision : Nat) (moment : Moment) : Except Raised Database := do
  let displayName := left128 (connection.name ++ " / " ++ found.externalId)
  let evidence := found.evidence checkedAt revision
  let target : DeploymentTarget :=
    { id := moment.newId
      userId := connection.userId
      connectionId := connection.id
      externalId := found.externalId
      displayName
      evidence }
  refuseIf (target.checked = false) checkViolation "new row violates check constraint"
  if db.targets.rows.any (fun held =>
      held.connectionId == connection.id && held.externalId == found.externalId) = true then
    .ok
      { db with
        targets :=
          db.targets.rewrite
            (fun held =>
              held.connectionId == connection.id && held.externalId == found.externalId)
            (fun held => { held with userId := connection.userId, displayName, evidence })
            (fun _ => rfl) }
  else do
    let targets ← orUniqueViolation (db.targets.insert target)
    .ok { db with targets }

def Database.writeFound (db : Database) (connection : Connection) (target : Option FoundTarget)
    (checkedAt : Option Int) (revision : Nat) (moment : Moment) : Except Raised Database :=
  match target with
  | none => .ok db
  | some found => db.writeTarget connection found checkedAt revision moment

def Agent.boundAt (agent : Agent) (userId : String) (connectionId : Uuid) (revision : Nat) : Bool :=
  agent.boundTo userId connectionId && agent.deploymentMode == .selfManaged &&
    agent.binding.any (fun binding => binding.revision == revision)

def Agent.rebound (agent : Agent) (revision : Nat) : Agent :=
  { agent with binding := agent.binding.map fun binding => { binding with revision } }

def Database.rebindAgents (db : Database) (userId : String) (connectionId : Uuid)
    (rebindFrom revision : Nat) : Except Raised Database := do
  refuseIf (∃ agent ∈ db.agents.rows, agent.boundAt userId connectionId rebindFrom = true ∧
      ((enforceDeploymentAuthority db (some agent) (agent.rebound revision)).isOk = false ∨
        (agent.rebound revision).checked = false))
    notInPrerequisiteState "self-managed Hivra connection revision is stale or unavailable"
  let rebound : Database :=
    { db with
      agents :=
        db.agents.rewrite (fun agent => agent.boundAt userId connectionId rebindFrom)
          (fun agent => agent.rebound revision) (fun agent => agent.entries_rebind revision) }
  refuseIf (∃ agent ∈ rebound.agents.rows, agent.boundTo userId connectionId = true ∧
      agent.deploymentMode = .selfManaged ∧
      agent.boundAt userId connectionId revision = false)
    notInPrerequisiteState "not all Hivra bindings could be rebound safely"
  .ok
    { rebound with
      connections :=
        rebound.connections.rewrite
          (fun connection => connection.id == connectionId && connection.userId == userId)
          (fun connection => { connection with pendingBindingRebindFromRevision := none })
          (fun connection => connection.entries_change _ _ _ _ none) }

def completeInfrastructureConnectionPreflight (userId : String) (connectionId : Uuid)
    (expectedRevision : Nat) (runId : Uuid) (connectionStatus : ConnectionStatus)
    (checkedAt : Option Int) (lastErrorCode : Option String) (target : Option FoundTarget)
    (moment : Moment) (db : Database) : Except Raised (Bool × Database) :=
  match db.connectionAt userId connectionId expectedRevision with
  | none => .ok (false, db)
  | some connection =>
    if connection.lease.any (fun lease => lease.runId == runId) = false then .ok (false, db)
    else if connectionStatus = .ready ∧ target.isNone = true then .ok (false, db)
    else do
      let revoked := db.revokeTargets userId connectionId (lastErrorCode.or superseded)
      let found ← revoked.writeFound connection target checkedAt expectedRevision moment
      let checked :=
        found.setConnection userId connectionId connectionStatus none checkedAt lastErrorCode
      match connection.pendingBindingRebindFromRevision with
      | some rebindFrom =>
        if connectionStatus = .ready then do
          let rebound ← checked.rebindAgents userId connectionId rebindFrom expectedRevision
          .ok (true, rebound)
        else .ok (true, checked)
      | none => .ok (true, checked)

end Hivra.AgentAuthority
