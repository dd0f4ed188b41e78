import Hivra.AgentAuthority.AuthorityRuns

/-!
# Credential recovery

New credentials for a connection whose endpoint stays.  The revision rises and the
readiness goes; agents that are bound stay bound at the revision they know, which the
connection remembers until a preflight has moved them.
-/

namespace Hivra.AgentAuthority

open Hivra.Library
open Hivra.AgentNetwork (Uuid Raised raise refuseIf checkViolation)

def Agent.freshlyOperated (agent : Agent) (userId : String) (connectionId : Uuid) (now : Int) :
    Bool :=
  agent.boundTo userId connectionId &&
    agent.operation.any fun operation => now - tenMinutes < operation.startedAt

/-- `v_has_bindings`. -/
def Database.hasBindings (db : Database) (userId : String) (connectionId : Uuid) : Bool :=
  db.agents.rows.any fun agent =>
    agent.boundTo userId connectionId && agent.deploymentMode == .selfManaged

def Connection.recovered (connection : Connection) (hasBindings : Bool)
    (rotated : RotatedCredentials) : Connection :=
  { connection with
    revision := connection.revision + 1
    status := .pending
    lastCheckedAt := none
    lastErrorCode := none
    pendingBindingRebindFromRevision :=
      if hasBindings then
        some (connection.pendingBindingRebindFromRevision.getD connection.revision)
      else none
    secret :=
      some { encryptedBundle := rotated.encryptedBundle, keyVersion := rotated.keyVersion } }

def recoverInfrastructureConnectionCredentials (userId : String) (connectionId : Uuid)
    (expectedRevision : Nat) (rotated : RotatedCredentials) (moment : Moment) (db : Database) :
    Except Raised Database :=
  match db.connectionAt userId connectionId expectedRevision with
  | none => .ok db
  | some connection => do
    refuseIf (connection.lease.isSome = true) objectInUse
      "infrastructure connection has an active preparation or preflight lease"
    refuseIf (db.agents.rows.any (fun agent =>
        agent.freshlyOperated userId connectionId moment.now) = true)
      objectInUse "infrastructure connection has a fresh Hivra operation"
    refuseIf (btrim rotated.encryptedBundle = "" ∨ rotated.keyVersion ≤ 0)
      checkViolation "new row violates check constraint"
    refuseIf (connection.secret.isNone = true) noData "infrastructure credential row missing"
    let hasBindings := db.hasBindings userId connectionId
    let written : Database :=
      { db with
        connections :=
          db.connections.rewrite
            (fun row =>
              row.id == connectionId && row.userId == userId && row.revision == expectedRevision)
            (fun row => row.recovered hasBindings rotated)
            (fun _ => rfl) }
    .ok (written.revokeTargets userId connectionId superseded)

inductive RecoveryCall
  | authority (call : AuthorityCall)
  | recoverCredentials (userId : String) (connectionId : Uuid) (expectedRevision : Nat)
      (rotated : RotatedCredentials)

def RecoveryCall.run (moment : Moment) (db : Database) : RecoveryCall → Except Raised Database
  | .authority call => call.run moment db
  | .recoverCredentials userId connectionId expectedRevision rotated =>
    recoverInfrastructureConnectionCredentials userId connectionId expectedRevision rotated
      moment db

structure RecoveryEvent where
  moment : Moment
  call : RecoveryCall

def Database.recoveryStep (db : Database) (event : RecoveryEvent) : Database :=
  match event.call.run event.moment db with
  | .ok next => next
  | .error _ => db

def Database.recoveryAfter (db : Database) (history : List RecoveryEvent) : Database :=
  history.foldl Database.recoveryStep db

def RecoveryCall.advances (call : RecoveryCall) (connectionId : Uuid) : Prop :=
  match call with
  | .authority (.updateConnection _ updated _ _ operationalChange _) =>
    updated = connectionId ∧ operationalChange = true
  | .recoverCredentials _ recovered _ _ => recovered = connectionId
  | _ => False

end Hivra.AgentAuthority
