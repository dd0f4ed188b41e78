import Hivra.AgentAuthority.ConnectionFunctions

/-!
# Provider computers and their power journal

The row of one provider computer and the journal of its power operations.  A journal
row is written before a request is sent and holds what came back: the provider's
receipt of the action, an observation of the server, or that nothing was sent.

Times are microseconds.
-/

namespace Hivra.ProviderPower

open Hivra.Library
open Hivra.AgentNetwork (Uuid)
open Hivra.AgentAuthority (AgentStatus DesiredState OperationKind)

inductive PowerKind
  | start
  | stop
  | restart
  deriving DecidableEq

def PowerKind.operationKind : PowerKind → OperationKind
  | .start => .start
  | .stop => .stop
  | .restart => .restart

def powerKind? : OperationKind → Option PowerKind
  | .start => some .start
  | .stop => some .stop
  | .restart => some .restart
  | _ => none

def PowerKind.status : PowerKind → AgentStatus
  | .stop => .stopped
  | _ => .running

def PowerKind.desiredState : PowerKind → DesiredState
  | .stop => .stopped
  | _ => .running

def PowerKind.startsFrom : PowerKind → AgentStatus
  | .start => .stopped
  | _ => .running

def desiredOf : AgentStatus → DesiredState
  | .stopped => .stopped
  | _ => .running

/-- The column `operation_payload`: its text, and the numbers that are read of it. -/
structure OperationPayload where
  text : String
  cpu : Option Rat
  ram : Option Int
  deriving DecidableEq

structure HeldOperation where
  id : Uuid
  kind : OperationKind
  startedAt : Int
  payload : Option OperationPayload
  deriving DecidableEq

structure ComputerBinding where
  connectionId : Uuid
  targetId : Uuid
  connectionRevision : Nat
  allocationOperationId : Uuid

structure ProviderComputer where
  id : Uuid
  userId : String
  status : AgentStatus
  desiredState : DesiredState
  operation : Option HeldOperation
  binding : Option ComputerBinding
  capacityOrderId : Uuid
  serverId : String
  /-- `provider_install_outcome` is `succeeded` and the installer has stopped. -/
  installSucceeded : Bool
  cpu : Rat
  ram : Int
  ip : Option String
  chatUrl : Option String
  apiToken : Option String
  provisionedAt : Option Int
  error : Option String

structure PowerIdentity where
  connectionId : Uuid
  connectionRevision : Nat
  capacityOrderId : Uuid
  serverId : String
  allocationOperationId : Uuid
  deriving DecidableEq

def ProviderComputer.identity? (computer : ProviderComputer) : Option PowerIdentity :=
  computer.binding.map fun binding =>
    { connectionId := binding.connectionId
      connectionRevision := binding.connectionRevision
      capacityOrderId := computer.capacityOrderId
      serverId := computer.serverId
      allocationOperationId := binding.allocationOperationId }

structure ParentRows where
  connectionId : Uuid
  connectionRevision : Nat
  targetId : Uuid
  capacityOrderId : Uuid
  serverId : String
  deriving DecidableEq

def ProviderComputer.parents? (computer : ProviderComputer) : Option ParentRows :=
  computer.binding.map fun binding =>
    { connectionId := binding.connectionId
      connectionRevision := binding.connectionRevision
      targetId := binding.targetId
      capacityOrderId := computer.capacityOrderId
      serverId := computer.serverId }

def ProviderComputer.power? (computer : ProviderComputer) : Option (HeldOperation × PowerKind) :=
  computer.operation.bind fun operation =>
    (powerKind? operation.kind).map fun kind => (operation, kind)

inductive ActionStatus
  | running
  | success
  | error
  deriving DecidableEq

structure ActionResource where
  id : Rat
  type : String
  deriving DecidableEq

structure ProviderAction where
  id : Rat
  command : String
  status : ActionStatus
  resources : List ActionResource
  deriving DecidableEq

def PowerKind.command : PowerKind → String
  | .start => "start_server"
  | .stop => "shutdown_server"
  | .restart => "reboot_server"

/-- `^[1-9][0-9]\x7b0,15\x7d$`. -/
def isServerId (serverId : String) : Bool :=
  match serverId.toList with
  | [] => false
  | first :: rest =>
    first.isDigit && first != '0' && decide (rest.length ≤ 15) && rest.all Char.isDigit

def serverNumber (serverId : String) : Nat :=
  serverId.toList.foldl (fun number digit => number * 10 + (digit.toNat - '0'.toNat)) 0

def isResourceNumber (number : Rat) : Bool :=
  decide (0 < number) && decide (number ≤ Json.maxSafeInteger) && number.den == 1

/-- `hivra_provider_power_action_valid`. -/
def ProviderAction.valid (action : ProviderAction) (serverId : String) (kind : PowerKind) : Bool :=
  action.command == kind.command && isServerId serverId &&
    match action.resources with
    | [resource] =>
      resource.type == "server" && isResourceNumber action.id && isResourceNumber resource.id &&
        resource.id == (serverNumber serverId : Rat)
    | _ => false

inductive VerifiedStatus
  | running
  | off
  deriving DecidableEq

structure PowerOperation where
  operationId : Uuid
  userId : String
  kind : PowerKind
  identity : PowerIdentity
  originalStatus : AgentStatus
  createdAt : Int
  dispatchIntentAt : Option Int
  beforeBootId : Option Uuid
  actionReceipt : Option ProviderAction
  verifiedAt : Option Int
  verifiedStatus : Option VerifiedStatus
  verifiedBootId : Option Uuid
  cancelledAt : Option Int
  deriving DecidableEq

def PowerOperation.entries (operation : PowerOperation) : List Uuid :=
  [operation.operationId]

def seconds (count : Int) : Int := count * 1000000

/-- `dispatch_not_after`, which a column check ties to `created_at`. -/
def PowerOperation.dispatchNotAfter (operation : PowerOperation) : Int :=
  operation.createdAt + seconds 45

/-- `action_receipt ->> 'status'`. -/
def PowerOperation.receiptStatus? (operation : PowerOperation) : Option ActionStatus :=
  operation.actionReceipt.map ProviderAction.status

structure PowerDatabase where
  computer : ProviderComputer
  journal : Table PowerOperation.entries

def PowerDatabase.of (computer : ProviderComputer) : PowerDatabase :=
  { computer, journal := .empty }

def PowerDatabase.operation? (db : PowerDatabase) (operationId : Uuid) : Option PowerOperation :=
  db.journal.find? fun row => row.operationId == operationId

end Hivra.ProviderPower
