import Hivra.AgentNetwork.NetworkFunctions
import Hivra.Library.Json

/-!
# Agents, connections and targets

The rows on which provider operations are decided: the agents, the connections to
their owners' infrastructure and the deployment targets found there.  Column checks
that tie columns together are types here: an operation has its id, kind and start, a
binding its three columns, a lease its run and its end.

Times are microseconds.
-/

namespace Hivra.AgentAuthority

open Hivra.Library
open Hivra.AgentNetwork (Uuid Raised)

inductive DeploymentMode
  | hivraManaged
  | selfManaged
  deriving DecidableEq

inductive AgentStatus
  | provisioning
  | running
  | stopped
  | error
  | deleted
  deriving DecidableEq

inductive DesiredState
  | running
  | stopped
  | deleted
  deriving DecidableEq

inductive OperationKind
  | provision
  | start
  | stop
  | restart
  | resize
  | delete
  deriving DecidableEq

/-- The four operation columns: `hivra_agents_operation_shape_check`. -/
structure Operation where
  id : Uuid
  kind : OperationKind
  startedAt : Int
  payload : Option Json

/-- The three binding columns: `hivra_agents_self_managed_binding_complete_check`. -/
structure Binding where
  connectionId : Uuid
  targetId : Uuid
  revision : Nat
  deriving DecidableEq

structure Agent where
  id : Uuid
  userId : String
  status : AgentStatus
  desiredState : DesiredState
  deploymentMode : DeploymentMode
  proxmoxHost : String
  vmid : Option Int
  ip : Option String
  chatUrl : Option String
  apiToken : Option String
  cfTunnelId : Option String
  cfHostname : Option String
  cpu : Rat
  ram : Int
  error : Option String
  provisionedAt : Option Int
  operation : Option Operation
  allocationOperationId : Option Uuid
  infrastructureBindingTokenEnforced : Bool
  binding : Option Binding

def noAmbientAuthority : String := "__hivra_self_managed_no_ambient_authority__"

/-- `coalesce(nullif(proxmox_host, ''), '__legacy__')`. -/
def hostKey (proxmoxHost : String) : String :=
  if proxmoxHost = "" then "__legacy__" else proxmoxHost

inductive AgentKey
  | id (id : Uuid)
  | hostVmid (host : String) (vmid : Int)
  | targetVmid (targetId : Uuid) (vmid : Int)
  deriving DecidableEq

/-- The primary key, `hivra_agents_active_proxmox_host_vmid_idx` and
`hivra_agents_active_self_managed_target_vmid_idx`. -/
def Agent.entries (agent : Agent) : List AgentKey :=
  .id agent.id ::
    match agent.vmid with
    | none => []
    | some vmid =>
      if agent.status = .deleted then []
      else
        match agent.binding with
        | none => [.hostVmid (hostKey agent.proxmoxHost) vmid]
        | some binding => [.targetVmid binding.targetId vmid]

theorem Agent.entries_id (agent : Agent) : AgentKey.id agent.id ∈ agent.entries :=
  List.mem_cons_self

/-- `hivra_agents_deployment_authority_matrix_check`, and that a bound revision is
positive. -/
def Agent.checked (agent : Agent) : Bool :=
  agent.binding.all (fun binding => 0 < binding.revision) &&
    match agent.deploymentMode with
    | .hivraManaged => agent.binding.isNone && agent.proxmoxHost != noAmbientAuthority
    | .selfManaged =>
      agent.proxmoxHost == noAmbientAuthority &&
        if agent.status = .deleted then agent.binding.isNone
        else agent.infrastructureBindingTokenEnforced && agent.binding.isSome

inductive SetupMode
  | simple
  | advanced

inductive ConnectionStatus
  | pending
  | checking
  | ready
  | error
  | disabled
  deriving DecidableEq

/-- The lease of a preparation or a preflight:
`infrastructure_connections_preflight_lease_shape_check`. -/
structure PreflightLease where
  runId : Uuid
  expiresAt : Int

/-- The connection's row of `infrastructure_connection_secrets`. -/
structure ConnectionSecret where
  encryptedBundle : String
  keyVersion : Int

structure Connection where
  id : Uuid
  userId : String
  name : String
  setupMode : SetupMode
  sshHost : String
  sshPort : Int
  sshUser : String
  sshHostFingerprintSha256 : String
  config : Json
  status : ConnectionStatus
  revision : Nat
  lease : Option PreflightLease
  lastCheckedAt : Option Int
  lastErrorCode : Option String
  pendingBindingRebindFromRevision : Option Nat
  secret : Option ConnectionSecret

inductive ConnectionKey
  | id (id : Uuid)
  | userName (userId name : String)
  deriving DecidableEq

/-- The primary key and `infrastructure_connections_user_name_key`. -/
def Connection.entries (connection : Connection) : List ConnectionKey :=
  [.id connection.id, .userName connection.userId (lower connection.name)]

theorem Connection.entries_id (connection : Connection) :
    ConnectionKey.id connection.id ∈ connection.entries :=
  List.mem_cons_self

def Connection.checked (connection : Connection) : Bool :=
  btrim connection.userId != "" && btrim connection.name != "" &&
    btrim connection.sshHost != "" && btrim connection.sshUser != "" &&
    1 ≤ connection.sshPort && connection.sshPort ≤ 65535 &&
    connection.sshHostFingerprintSha256.length == 64 &&
    connection.sshHostFingerprintSha256.toList.all isLowerHexDigit &&
    connection.config.isRecord && 0 < connection.revision

inductive TargetStatus
  | pending
  | ready
  | unavailable
  | error
  | disabled
  deriving DecidableEq

inductive IsolationClass
  | hardwareVm
  deriving DecidableEq

structure TargetEvidence where
  status : TargetStatus
  capacity : Json
  capabilities : Json
  supportedIsolationDrivers : List String
  isolationClass : Option IsolationClass
  lastPreflightAt : Option Int
  lastErrorCode : Option String
  evidenceConnectionRevision : Nat

structure DeploymentTarget where
  id : Uuid
  userId : String
  connectionId : Uuid
  externalId : String
  displayName : String
  evidence : TargetEvidence

inductive TargetKey
  | id (id : Uuid)
  | connectionExternal (connectionId : Uuid) (externalId : String)
  deriving DecidableEq

/-- The primary key and `deployment_targets_connection_external_key`. -/
def DeploymentTarget.entries (target : DeploymentTarget) : List TargetKey :=
  [.id target.id, .connectionExternal target.connectionId target.externalId]

def DeploymentTarget.checked (target : DeploymentTarget) : Bool :=
  btrim target.externalId != "" && btrim target.displayName != "" &&
    target.evidence.capacity.isRecord && target.evidence.capabilities.isRecord &&
    target.evidence.supportedIsolationDrivers.all (fun driver => driver == "proxmox-kvm") &&
    0 < target.evidence.evidenceConnectionRevision

/-- `capabilities @> '\x7b"launchReady": true\x7d'`. -/
def TargetEvidence.launchReady (evidence : TargetEvidence) : Bool :=
  match evidence.capabilities.member? "launchReady" with
  | some (.bool ready) => ready
  | _ => false

def TargetEvidence.revoked (evidence : TargetEvidence) (lastErrorCode : Option String) :
    TargetEvidence :=
  { evidence with
    status := .unavailable
    capabilities := evidence.capabilities.set "launchReady" (.bool false)
    supportedIsolationDrivers := []
    isolationClass := none
    lastErrorCode }

structure Database where
  agents : Table Agent.entries
  connections : Table Connection.entries
  targets : Table DeploymentTarget.entries

def Database.empty : Database :=
  { agents := .empty
    connections := .empty
    targets := .empty }

end Hivra.AgentAuthority
