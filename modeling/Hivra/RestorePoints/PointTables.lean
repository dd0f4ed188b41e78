import Hivra.AgentAuthority.AgentOperations

/-!
# A computer and its restore points

One row of `hivra_agents` and the rows of `hivra_agent_snapshots` that name it, with the
connections and targets a claim reads.  Columns that a deletion only clears, and the
timestamps of a point, are left out.

A call that another constraint or another trigger of the row refuses raises, and what
raises changes nothing.
-/

namespace Hivra.RestorePoints

open Hivra.Library
open Hivra.AgentNetwork (Uuid Raised raise refuseIf orUniqueViolation checkViolation
  notNullViolation)
open Hivra.AgentAuthority (DeploymentMode AgentStatus DesiredState Binding Connection
  DeploymentTarget noAmbientAuthority)

/-- The kinds since restore points: `hivra_agents_operation_shape_check`. -/
inductive OperationKind
  | provision
  | start
  | stop
  | restart
  | resize
  | snapshot
  | restore
  | delete
  deriving DecidableEq

structure Operation where
  id : Uuid
  kind : OperationKind
  startedAt : Int
  payload : Option Json

inductive ComputerSubstrate
  | proxmoxKvm
  | providerVm
  | gvisor
  | doManagedSession
  deriving DecidableEq

structure Computer where
  userId : String
  status : AgentStatus
  desiredState : DesiredState
  deploymentMode : DeploymentMode
  substrate : Option ComputerSubstrate
  proxmoxHost : String
  vmid : Option Int
  cpu : Rat
  ram : Int
  error : Option String
  operation : Option Operation
  binding : Option Binding
  infrastructureBindingTokenEnforced : Bool
  infrastructureBindingTokenHash : Option String

/-- `operation_id = p_operation_id`, and more of the operation. -/
def Computer.holds (computer : Computer) (operationId : Uuid) (more : Operation → Bool) : Bool :=
  computer.operation.any fun operation => operation.id == operationId && more operation

inductive PointStatus
  | creating
  | ready
  | restoring
  | failed
  | deleted
  deriving DecidableEq

/-- What a point was made of: the `source_` columns. -/
structure PointSource where
  deploymentMode : DeploymentMode
  proxmoxHost : String
  binding : Option Binding
  bindingTokenHash : String
  vmid : Int
  cpu : Rat
  ram : Int

structure RestorePoint where
  id : Uuid
  providerSnapshotId : String
  status : PointStatus
  source : PointSource
  createOperationId : Uuid
  restoreOperationId : Option Uuid
  snapshotConfigSha256 : Option String
  restoreCount : Nat
  lastError : Option String

inductive PointKey
  | id (id : Uuid)
  | providerSnapshot (providerSnapshotId : String)
  deriving DecidableEq

/-- The primary key and `unique (agent_id, provider_snapshot_id)`. -/
def RestorePoint.entries (point : RestorePoint) : List PointKey :=
  [.id point.id, .providerSnapshot point.providerSnapshotId]

theorem RestorePoint.entries_id (point : RestorePoint) : PointKey.id point.id ∈ point.entries :=
  List.mem_cons_self

/-- `text ~ '^[0-9a-f]{64}$'`. -/
def isSha256 (text : String) : Bool :=
  text.length == 64 && text.toList.all isLowerHexDigit

/-- `text ~ '^hivra_[0-9a-f]{32}$'`. -/
def isProviderSnapshotId (text : String) : Bool :=
  text.length == 38 && "hivra_".toList.isPrefixOf text.toList &&
    (text.toList.drop 6).all isLowerHexDigit

/-- `'hivra_' || replace(id::text, '-', '')`. -/
def providerSnapshotIdOf (id : Uuid) : String :=
  "hivra_" ++ String.ofList (id.text.toList.filter fun char => char != '-')

/-- A `uuid` of a version from 1 to 5 and of the standard variant. -/
def isSnapshotId (text : String) : Bool :=
  Hivra.AgentNetwork.isUuid text &&
    ['1', '2', '3', '4', '5'].contains (text.toList.getD 14 ' ') &&
    ['8', '9', 'a', 'b'].contains (text.toList.getD 19 ' ')

def PointSource.checked (source : PointSource) : Bool :=
  isSha256 source.bindingTokenHash && decide (0 < source.cpu) && decide (0 < source.ram) &&
    match source.deploymentMode with
    | .hivraManaged => source.binding.isNone && source.proxmoxHost != noAmbientAuthority
    | .selfManaged =>
      source.binding.any (fun binding => 0 < binding.revision) &&
        source.proxmoxHost == noAmbientAuthority

structure PointStore where
  computer : Computer
  points : Table RestorePoint.entries
  connections : Table Connection.entries
  targets : Table DeploymentTarget.entries
  /-- The operations that the recovery sweep has read while a deletion was pending. -/
  superseded : List Uuid

def PointStore.of (computer : Computer) (connections : Table Connection.entries)
    (targets : Table DeploymentTarget.entries) : PointStore :=
  { computer, points := .empty, connections, targets, superseded := [] }

def PointStore.point? (store : PointStore) (pointId : Uuid) : Option RestorePoint :=
  store.points.find? fun point => point.id == pointId

def PointStore.setPoint (store : PointStore) (pointId : Uuid) (change : RestorePoint → RestorePoint)
    (keeps : ∀ point, (change point).entries = point.entries) : PointStore :=
  { store with
    points := store.points.rewrite (fun point => point.id == pointId) change keeps }

end Hivra.RestorePoints
