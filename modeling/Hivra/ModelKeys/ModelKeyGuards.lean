import Hivra.ModelKeys.ModelKeyTables
import Hivra.AgentAuthority.ConnectionFunctions

/-!
# Guards of model keys

The triggers of the agent's row and of a proxy key, and the writes they stand before.
The credentials' trigger erases the settings of a row that becomes deleted; the
clean-up runs after that write, in the same transaction.
-/

namespace Hivra.ModelKeys

open Hivra.Library
open Hivra.AgentNetwork (Uuid Raised raise refuseIf orUniqueViolation)
open Hivra.AgentAuthority (AgentStatus DesiredState objectInUse notInPrerequisiteState)

inductive Columns
  | status
  | credentials
  | other
  deriving DecidableEq

def ModelDatabase.revocationMissing (db : ModelDatabase) (old : ModelAgent) (config : LlmConfig) :
    Bool :=
  config.proxyKeyId.any fun keyId =>
    (db.keys.rows.find? fun key =>
      key.identity.id.text == keyId && key.identity.userId == old.userId).all fun key =>
        key.status != .revoked

def refuseUnrevoked (db : ModelDatabase) (old : ModelAgent) : Except Raised Unit :=
  match old.status, old.llmConfig with
  | .deleted, _ => .ok ()
  | _, none => .ok ()
  | _, some config => do
    refuseIf
      (config.provider ≠ some "venice" ∨
        (config.mode ≠ some "managed" ∧ config.mode ≠ some "byok"))
      notInPrerequisiteState "agent key revocation metadata is incomplete"
    refuseIf
      (config.mode = some "managed" ∧ (config.proxyKeyId = none ∨ config.proxyKeyId = some ""))
      notInPrerequisiteState "agent managed key identity is missing"
    refuseIf (db.revocationMissing old config = true) notInPrerequisiteState
      "agent managed key revocation is not verified"

/-- `guard_hivra_agent_delete_credentials`. -/
def guardDeleteCredentials (db : ModelDatabase) (old new : ModelAgent) :
    Except Raised ModelAgent := do
  refuseIf
    (old.desiredState = .deleted ∧
      (new.llmConfig ≠ old.llmConfig ∨ new.llmApiKeyEncrypted ≠ old.llmApiKeyEncrypted) ∧
      ¬(new.status = .deleted ∧ new.llmConfig = none ∧ new.llmApiKeyEncrypted = none))
    notInPrerequisiteState "agent credentials are frozen after delete intent"
  if new.status = .deleted then do
    refuseUnrevoked db old
    .ok { new with llmConfig := none, llmApiKeyEncrypted := none }
  else .ok new

def ModelDatabase.delivering (db : ModelDatabase) (now : Int) : Bool :=
  db.operations.rows.any fun row => row.lease.any fun lease => decide (now < lease.expiresAt)

def ModelKeyOperation.carries (digest : String → String) (operation : ModelKeyOperation)
    (agent : ModelAgent) : Bool :=
  operation.config == agent.llmConfig &&
    operation.cipherDigest == agent.llmApiKeyEncrypted.map digest &&
    operation.phase == .applied && operation.observedReceipt == some operation.expectedReceipt

/-- `guard_hivra_model_key_agent`. -/
def guardModelKeyAgent (digest : String → String) (db : ModelDatabase) (old new : ModelAgent)
    (now : Int) : Except Raised Unit :=
  if db.operations.rows = [] then .ok ()
  else if new.status = .deleted then
    refuseIf (db.delivering now = true) objectInUse
      "Wait for bounded model delivery before completing deletion"
  else do
    refuseIf (modelKeyBinding digest new ≠ modelKeyBinding digest old) notInPrerequisiteState
      "Model settings are bound to the original computer"
    refuseIf
      ((new.operationId, new.status, new.desiredState) ≠
          (old.operationId, old.status, old.desiredState) ∧
        new.desiredState ≠ .deleted ∧ db.delivering now = true)
      objectInUse "A bounded model delivery is in progress"
    refuseIf
      ((new.llmConfig ≠ old.llmConfig ∨ new.llmApiKeyEncrypted ≠ old.llmApiKeyEncrypted) ∧
        db.current?.any (fun operation => operation.carries digest new) = false)
      notInPrerequisiteState "Apply model settings through the durable operation"

def ModelDatabase.replaces (db : ModelDatabase) (key : ProxyKey) (phase : Phase → Bool) : Bool :=
  db.operations.rows.any fun row =>
    phase row.phase && row.previousKeyId? == some key.identity.id.text &&
      row.userId == key.identity.userId

def revokes (old new : ProxyKey) : Bool :=
  new.revokedAt != old.revokedAt || (new.status == .revoked && old.status != .revoked)

/-- `guard_hivra_pending_model_proxy_key` of an update. -/
def guardKeyUpdate (db : ModelDatabase) (old new : ProxyKey) : Except Raised Unit := do
  refuseIf
    (db.replaces old (fun _ => true) = true ∧
      (new.identity ≠ old.identity ∨ (old.status = .revoked ∧ new.status ≠ .revoked) ∨
        (db.replaces old (fun phase => phase == .pending) = true ∧
          db.agent.desiredState ≠ .deleted ∧ revokes old new = true)))
    notInPrerequisiteState "The pending model change retains its predecessor key"
  match db.operations.find? fun row => row.managedKeyId == some old.identity.id with
  | none => .ok ()
  | some operation =>
    refuseIf
      (new.identity ≠ old.identity ∨
        (operation.phase = .pending ∧
          (new.status, new.pausedReason, new.revokedAt) ≠
            (old.status, old.pausedReason, old.revokedAt)) ∨
        (operation.isCurrent = true ∧ db.agent.desiredState ≠ .deleted ∧
          revokes old new = true) ∨
        (old.status = .revoked ∧ new.status ≠ .revoked) ∨
        (operation.phase = .deleted ∧ new.status ≠ .revoked))
      notInPrerequisiteState "Pending model key custody is owned by its agent operation"

/-- `guard_hivra_pending_model_proxy_key` of a deletion. -/
def guardKeyDelete (db : ModelDatabase) (old : ProxyKey) : Except Raised Unit := do
  refuseIf (db.replaces old (fun _ => true) = true) notInPrerequisiteState
    "Retain predecessor key evidence until model cleanup"
  refuseIf
    (db.operations.rows.any (fun row => row.managedKeyId == some old.identity.id) = true)
    notInPrerequisiteState "Retain model operation key identity"

section Writes

variable (digest : String → String) (db : ModelDatabase)

def ModelDatabase.updateKeys (selected : ProxyKey → Bool) (change : ProxyKey → ProxyKey) :
    Except Raised ModelDatabase := do
  (db.keys.rows.filter selected).forM fun key => guardKeyUpdate db key (change key)
  let keys ← orUniqueViolation (db.keys.update selected change)
  .ok { db with keys }

def ModelDatabase.updateOperations (selected : ModelKeyOperation → Bool)
    (change : ModelKeyOperation → ModelKeyOperation) : Except Raised ModelDatabase := do
  let operations ← orUniqueViolation (db.operations.update selected change)
  .ok { db with operations }

def ModelKeyOperation.cleaned (operation : ModelKeyOperation) (now : Int) : ModelKeyOperation :=
  { operation with
    phase := .deleted
    isCurrent := false
    encryptedKey := none
    lease := none
    deletedAt := some now }

def ProxyKey.revoked (key : ProxyKey) (now : Int) : ProxyKey :=
  { key with status := .revoked, revokedAt := key.revokedAt.or (some now) }

/-- `clean_hivra_deleted_model_keys`. -/
def ModelDatabase.cleanDeletedModelKeys (now : Int) : Except Raised ModelDatabase :=
  if db.operations.rows = [] then .ok db
  else do
    let cleaned ← db.updateOperations (fun row => row.phase != .deleted)
      (fun row => row.cleaned now)
    cleaned.updateKeys
      (fun key =>
        cleaned.operations.rows.any fun row =>
          row.managedKeyId == some key.identity.id && row.userId == key.identity.userId)
      (fun key => key.revoked now)

def ModelDatabase.beforeAgentUpdate (columns : Columns) (new : ModelAgent) :
    Except Raised ModelAgent :=
  match columns with
  | .other => .ok new
  | _ => guardDeleteCredentials db db.agent new

/-- An update of the agent's row, its triggers before and after it.  `admitted`: the
other triggers of the row, which change nothing of these columns, let it through. -/
def ModelDatabase.updateAgent (columns : Columns) (change : ModelAgent → ModelAgent)
    (admitted : Bool) (now : Int) : Except Raised ModelDatabase := do
  let old := db.agent
  let new ← db.beforeAgentUpdate columns (change old)
  guardModelKeyAgent digest db old new now
  refuseIf (admitted = false) objectInUse "agent row is guarded"
  let written : ModelDatabase := { db with agent := new }
  if columns = .status ∧ new.status = .deleted ∧ old.status ≠ .deleted then
    written.cleanDeletedModelKeys now
  else .ok written

end Writes

end Hivra.ModelKeys
