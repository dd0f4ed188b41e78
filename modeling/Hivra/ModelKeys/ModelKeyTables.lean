import Hivra.AgentAuthority.AuthorityTables

/-!
# Model keys of one agent

The agent's row with its model settings, the journal of the changes of these settings,
and the proxy keys that pay for its calls.  One change may be pending and one is
current; both are unique indexes of the journal.

Times are microseconds; `digest` stands for the hexadecimal SHA-256 of a text.
-/

namespace Hivra.ModelKeys

open Hivra.Library
open Hivra.AgentNetwork (Uuid Raised isUuid)
open Hivra.AgentAuthority (AgentStatus DesiredState DeploymentMode)

/-- A record of model settings: a null member is none, and `others` is the text of
whatever else the record holds. -/
structure LlmConfig where
  provider : Option String
  mode : Option String
  model : Option String
  proxyKeyId : Option String
  keyPrefix : Option String
  walletType : Option String
  enabledAt : Option Int
  others : String
  deriving DecidableEq

structure ModelPayload where
  provider : Option String
  baseUrl : Option String
  model : Option String
  others : String
  deriving DecidableEq

structure ModelReceipt where
  protocol : Option String
  operationId : Option String
  stateDigest : Option String
  payloadDigest : Option String
  provider : Option String
  model : Option String
  others : String
  deriving DecidableEq

structure ManagedKey where
  id : Option String
  accountId : Option String
  hash : Option String
  keyPrefix : Option String
  others : String

structure ModelRequest where
  /-- `octet_length(p_request::text)`. -/
  octets : Nat
  requestDigest : Option String
  config : Option LlmConfig
  payload : Option ModelPayload
  managedKey : Option ManagedKey
  encryptedKey : Option String
  expectedStateDigest : Option String
  expectedReceipt : ModelReceipt
  others : String

inductive Substrate
  | proxmoxKvm
  | providerVm
  deriving DecidableEq

structure Recipient where
  runtime : String
  deploymentMode : DeploymentMode
  substrate : Substrate
  allocationId : Option Uuid
  host : String
  vmid : Option Int
  connectionId : Option Uuid
  targetId : Option Uuid
  orderId : Option Uuid
  enrollmentId : Option Uuid
  serverId : Option String
  hostname : Option String
  tunnelId : Option String
  chatUrl : Option String
  deriving DecidableEq

structure ModelAgent where
  id : Uuid
  userId : String
  recipient : Recipient
  apiToken : Option String
  connectionRevision : Option Nat
  status : AgentStatus
  desiredState : DesiredState
  operationId : Option Uuid
  /-- The held operation is a deletion or a provision. -/
  mayDelete : Bool
  llmConfig : Option LlmConfig
  llmApiKeyEncrypted : Option String

structure ModelBinding where
  agentId : Uuid
  userId : String
  recipient : Recipient
  tokenDigest : Option String
  deriving DecidableEq

/-- `hivra_model_key_binding`. -/
def modelKeyBinding (digest : String → String) (agent : ModelAgent) : ModelBinding :=
  { agentId := agent.id
    userId := agent.userId
    recipient := agent.recipient
    tokenDigest := agent.apiToken.map digest }

inductive Phase
  | pending
  | applied
  | deleted
  deriving DecidableEq

structure DeliveryLease where
  id : Uuid
  expiresAt : Int

structure ModelKeyOperation where
  operationId : Uuid
  userId : String
  requestDigest : String
  binding : ModelBinding
  admissionConnectionRevision : Option Nat
  previousConfig : Option LlmConfig
  previousCipherDigest : Option String
  config : Option LlmConfig
  payload : Option ModelPayload
  encryptedKey : Option String
  cipherDigest : Option String
  expectedStateDigest : String
  expectedReceipt : ModelReceipt
  managedKeyId : Option Uuid
  phase : Phase
  isCurrent : Bool
  lease : Option DeliveryLease
  dispatchIntentAt : Option Int
  observedReceipt : Option ModelReceipt
  appliedAt : Option Int
  deletedAt : Option Int

inductive OperationKey
  | id (operationId : Uuid)
  | pending
  | current
  | managedKey (keyId : Uuid)
  deriving DecidableEq

/-- The primary key, `hivra_model_key_pending`, `hivra_model_key_current` and the unique
key; the agent of the two partial indexes is one. -/
def ModelKeyOperation.entries (operation : ModelKeyOperation) : List OperationKey :=
  .id operation.operationId ::
    ((if operation.phase = .pending then [OperationKey.pending] else []) ++
      (if operation.isCurrent then [OperationKey.current] else []) ++
        operation.managedKeyId.toList.map OperationKey.managedKey)

theorem entries_id (operation : ModelKeyOperation) :
    OperationKey.id operation.operationId ∈ operation.entries :=
  List.mem_cons_self

theorem entries_pending {operation : ModelKeyOperation} (pending : operation.phase = .pending) :
    OperationKey.pending ∈ operation.entries := by
  simp [ModelKeyOperation.entries, pending]

theorem entries_current {operation : ModelKeyOperation} (current : operation.isCurrent = true) :
    OperationKey.current ∈ operation.entries := by
  simp [ModelKeyOperation.entries, current]

theorem entries_managed_key {operation : ModelKeyOperation} {keyId : Uuid}
    (managed : operation.managedKeyId = some keyId) :
    OperationKey.managedKey keyId ∈ operation.entries := by
  simp [ModelKeyOperation.entries, managed]

inductive KeyStatus
  | active
  | revoked
  | paused
  deriving DecidableEq

structure KeyIdentity where
  id : Uuid
  userId : String
  accountId : Uuid
  keyHash : String
  keyPrefix : String
  metadata : String
  deriving DecidableEq

structure ProxyKey where
  identity : KeyIdentity
  name : String
  status : KeyStatus
  pausedReason : Option String
  revokedAt : Option Int

inductive ProxyKeyEntry
  | id (id : Uuid)
  | hash (hash : String)
  deriving DecidableEq

def ProxyKey.entries (key : ProxyKey) : List ProxyKeyEntry :=
  [.id key.identity.id, .hash key.identity.keyHash]

theorem key_entries_id (key : ProxyKey) : ProxyKeyEntry.id key.identity.id ∈ key.entries :=
  List.mem_cons_self

structure ModelDatabase where
  agent : ModelAgent
  operations : Table ModelKeyOperation.entries
  keys : Table ProxyKey.entries

def ModelDatabase.of (agent : ModelAgent) (keys : Table ProxyKey.entries) : ModelDatabase :=
  { agent, operations := .empty, keys }

def ModelDatabase.operation? (db : ModelDatabase) (operationId : Uuid) : Option ModelKeyOperation :=
  db.operations.find? fun row => row.operationId == operationId

def ModelDatabase.current? (db : ModelDatabase) : Option ModelKeyOperation :=
  db.operations.find? fun row => row.isCurrent

def ModelDatabase.hasKey (db : ModelDatabase) (keyId : String) (userId : String) : Bool :=
  db.keys.rows.any fun key => key.identity.id.text == keyId && key.identity.userId == userId

/-- `previous_config ->> 'proxyKeyId'`. -/
def ModelKeyOperation.previousKeyId? (operation : ModelKeyOperation) : Option String :=
  operation.previousConfig.bind LlmConfig.proxyKeyId

end Hivra.ModelKeys
