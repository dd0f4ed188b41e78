import Hivra.Library.FollowedRows
import Hivra.ModelKeys.ModelKeyFunctions

/-!
# What a model key call does

Every write that went through, said once: an operation is admitted with its key,
leased, settled or cleaned up, the agent's row is written, or keys are.
-/

namespace Hivra.ModelKeys

variable {row : ModelKeyOperation}

open Hivra.Library
open Hivra.AgentNetwork (Uuid Raised raise refuseIf orUniqueViolation raise_ne_ok refuse_if_ok
  bind_ok or_unique_violation_ok)
open Hivra.AgentAuthority (AgentStatus DesiredState keepRows)

section Rows

variable {db : ModelDatabase}

section

variable {left right : ModelKeyOperation}
variable (leftHeld : left ∈ db.operations) (rightHeld : right ∈ db.operations)
include leftHeld rightHeld

theorem same_operation (same : left.operationId = right.operationId) : left = right := by
  apply Table.eq_of_shared_entry leftHeld rightHeld (entries_id left)
  rw [same]
  exact entries_id right

theorem same_pending (leftPending : left.phase = .pending)
    (rightPending : right.phase = .pending) : left = right :=
  Table.eq_of_shared_entry leftHeld rightHeld (entries_pending leftPending)
    (entries_pending rightPending)

theorem same_current (leftCurrent : left.isCurrent = true)
    (rightCurrent : right.isCurrent = true) : left = right :=
  Table.eq_of_shared_entry leftHeld rightHeld (entries_current leftCurrent)
    (entries_current rightCurrent)

theorem same_managed_key {keyId : Uuid} (leftManaged : left.managedKeyId = some keyId)
    (rightManaged : right.managedKeyId = some keyId) : left = right :=
  Table.eq_of_shared_entry leftHeld rightHeld (entries_managed_key leftManaged)
    (entries_managed_key rightManaged)

end

theorem operation_some {operationId : Uuid} (found : db.operation? operationId = some row) :
    row ∈ db.operations ∧ row.operationId = operationId := by
  have ⟨held, chosen⟩ := Table.find_mem found
  exact ⟨held, by simpa using chosen⟩

theorem current_some (held : row ∈ db.operations)
    (current : row.isCurrent = true) : db.current? = some row :=
  Table.find_of_entry .current held current fun _ chosen => entries_current chosen

theorem managed_some {keyId : Uuid} (held : row ∈ db.operations)
    (managed : row.managedKeyId = some keyId) :
    db.operations.find? (fun row => row.managedKeyId == some keyId) = some row :=
  Table.find_of_entry (.managedKey keyId) held (by simpa using managed)
    fun _ chosen => entries_managed_key (by simpa using chosen)

end Rows

theorem for_each_ok {Row : Type} {rows : List Row} {check : Row → Except Raised Unit}
    (passes : rows.forM check = .ok ()) : ∀ row ∈ rows, check row = .ok () := by
  induction rows with
  | nil =>
    intro row there
    cases there
  | cons first rest ih =>
    change (check first >>= fun _ => rest.forM check) = .ok () at passes
    have ⟨_, here, others⟩ := bind_ok passes
    intro row there
    cases List.mem_cons.mp there with
    | inl isFirst =>
      rw [isFirst]
      exact here
    | inr later => exact ih others row later

structure KeysWritten (db next : ModelDatabase) (selected : ProxyKey → Bool)
    (change : ProxyKey → ProxyKey) : Prop where
  guarded : ∀ key ∈ db.keys, selected key = true → guardKeyUpdate db key (change key) = .ok ()
  keys : next.keys.rows = db.keys.rows.map fun key => if selected key then change key else key
  agent : next.agent = db.agent
  operations : next.operations = db.operations

structure OperationsWritten (db next : ModelDatabase) (selected : ModelKeyOperation → Bool)
    (change : ModelKeyOperation → ModelKeyOperation) : Prop where
  operations : next.operations.rows =
    db.operations.rows.map fun row => if selected row then change row else row
  agent : next.agent = db.agent
  keys : next.keys = db.keys

section Writes

variable {digest : String → String} {db next : ModelDatabase}

theorem update_keys_ok {selected : ProxyKey → Bool} {change : ProxyKey → ProxyKey}
    (returned : db.updateKeys selected change = .ok next) :
    KeysWritten db next selected change := by
  have ⟨_, guards, rest⟩ := bind_ok returned
  have ⟨keys, updated, rest⟩ := bind_ok rest
  cases rest
  constructor
  · intro key there chosen
    exact for_each_ok guards key (List.mem_filter.mpr ⟨there, chosen⟩)
  · exact Table.update_rows (or_unique_violation_ok updated)
  · rfl
  · rfl

theorem update_operations_ok {selected : ModelKeyOperation → Bool}
    {change : ModelKeyOperation → ModelKeyOperation}
    (returned : db.updateOperations selected change = .ok next) :
    OperationsWritten db next selected change := by
  have ⟨operations, updated, rest⟩ := bind_ok returned
  cases rest
  constructor
  · exact Table.update_rows (or_unique_violation_ok updated)
  · rfl
  · rfl

structure Cleaned (db next : ModelDatabase) (now : Int) : Prop where
  agent : next.agent = db.agent
  operations : next.operations.rows = db.operations.rows.map fun row =>
    if row.phase != .deleted then row.cleaned now else row
  keys : next.keys.rows = db.keys.rows.map fun key =>
    if db.operations.rows.any (fun row =>
        row.managedKeyId == some key.identity.id && row.userId == key.identity.userId) then
      key.revoked now
    else key

theorem clean_ok {now : Int} (returned : db.cleanDeletedModelKeys now = .ok next) :
    Cleaned db next now := by
  unfold ModelDatabase.cleanDeletedModelKeys at returned
  split at returned
  · rename_i none
    cases returned
    constructor
    · rfl
    · rw [none]
      rfl
    · simp [none]
  · have ⟨cleaned, cleans, rest⟩ := bind_ok returned
    have cleans := update_operations_ok cleans
    have revokes := update_keys_ok rest
    -- The clean-up changes neither which key an operation has nor its owner.
    have sameAny (key : ProxyKey) :
        cleaned.operations.rows.any (fun row =>
            row.managedKeyId == some key.identity.id && row.userId == key.identity.userId) =
          db.operations.rows.any fun row =>
            row.managedKeyId == some key.identity.id && row.userId == key.identity.userId := by
      rw [cleans.operations, List.any_map]
      congr 1
      funext row
      rw [Function.comp_apply]
      split <;> rfl
    constructor
    · exact revokes.agent.trans cleans.agent
    · rw [revokes.operations]
      exact cleans.operations
    · rw [revokes.keys, cleans.keys]
      simp only [sameAny]

structure AgentWritten (digest : String → String) (db : ModelDatabase) (change : ModelAgent)
    (new : ModelAgent) (now : Int) : Prop where
  guard : guardModelKeyAgent digest db db.agent new now = .ok ()
  written : new = change ∨
    change.status = .deleted ∧
      new = { change with llmConfig := none, llmApiKeyEncrypted := none }

theorem update_agent_ok {columns : Columns} {change : ModelAgent → ModelAgent} {admitted : Bool}
    {now : Int} (returned : db.updateAgent digest columns change admitted now = .ok next) :
    ∃ new, AgentWritten digest db (change db.agent) new now ∧
      (columns ≠ .other → new.status = .deleted →
        new.llmConfig = none ∧ new.llmApiKeyEncrypted = none) ∧
      (next = { db with agent := new } ∧
          (columns = .status → new.status = .deleted → db.agent.status = .deleted) ∨
        new.status = .deleted ∧ Cleaned { db with agent := new } next now) := by
  have ⟨new, credentials, rest⟩ := bind_ok returned
  have ⟨_, guard, rest⟩ := bind_ok rest
  have ⟨_, _, rest⟩ := bind_ok rest
  have triggered (watched : guardDeleteCredentials db db.agent (change db.agent) = .ok new) :
      (new = change db.agent ∧ new.status ≠ .deleted) ∨
        ((change db.agent).status = .deleted ∧
          new = { change db.agent with llmConfig := none, llmApiKeyEncrypted := none }) := by
    have ⟨_, _, rest⟩ := bind_ok watched
    split at rest
    · rename_i deletes
      have ⟨_, _, rest⟩ := bind_ok rest
      cases rest
      exact .inr ⟨deletes, rfl⟩
    · rename_i stays
      cases rest
      exact .inl ⟨rfl, stays⟩
  have written : AgentWritten digest db (change db.agent) new now ∧
      (columns ≠ .other → new.status = .deleted →
        new.llmConfig = none ∧ new.llmApiKeyEncrypted = none) := by
    cases columns with
    | other =>
      cases credentials
      exact ⟨⟨guard, .inl rfl⟩, fun other => absurd rfl other⟩
    | status =>
      cases triggered credentials with
      | inl same => exact ⟨⟨guard, .inl same.1⟩, fun _ deletes => absurd deletes same.2⟩
      | inr erased => exact ⟨⟨guard, .inr erased⟩, fun _ _ => by rw [erased.2]; exact ⟨rfl, rfl⟩⟩
    | credentials =>
      cases triggered credentials with
      | inl same => exact ⟨⟨guard, .inl same.1⟩, fun _ deletes => absurd deletes same.2⟩
      | inr erased => exact ⟨⟨guard, .inr erased⟩, fun _ _ => by rw [erased.2]; exact ⟨rfl, rfl⟩⟩
  refine ⟨new, written.1, written.2, ?_⟩
  split at rest
  · rename_i deletes
    exact .inr ⟨deletes.2.1, clean_ok rest⟩
  · rename_i stays
    cases rest
    left
    refine ⟨rfl, ?_⟩
    intro isStatus deleted
    by_contra alive
    exact stays ⟨isStatus, deleted, alive⟩

end Writes

structure Admitted (digest : String → String) (db next : ModelDatabase)
    (operation : ModelKeyOperation) : Prop where
  agent : next.agent = db.agent
  running : db.agent.status = .running
  owner : operation.userId = db.agent.userId
  pending : operation.phase = .pending
  notCurrent : operation.isCurrent = false
  cipher : operation.cipherDigest = operation.encryptedKey.map digest
  operations : db.operations.insert operation = some next.operations
  keys : (operation.managedKeyId = none ∧ next.keys = db.keys) ∨
    ∃ key, db.keys.insert key = some next.keys ∧ operation.managedKeyId = some key.identity.id ∧
      key.identity.userId = operation.userId ∧ key.status = .paused ∧
        operation.config.bind LlmConfig.proxyKeyId = some key.identity.id.text
  previous : ∀ keyId, operation.previousKeyId? = some keyId →
    db.hasKey keyId operation.userId = true

structure FromRequest (digest : String → String) (event : ModelEvent)
    (operation : ModelKeyOperation) (request : ModelRequest) : Prop where
  call : ∃ userId agentId binding wallets,
    event.call =
      .admission userId agentId (some operation.operationId) binding (some request) wallets
  config : operation.config =
    request.config.map fun config => { config with enabledAt := some event.moment.write }
  cipher : operation.cipherDigest = request.encryptedKey.map digest

def ModelKeyOperation.settled (operation : ModelKeyOperation) (operationId : Uuid)
    (receipt : ModelReceipt) (now : Int) : ModelKeyOperation :=
  if operation.operationId = operationId then
    { operation.applied receipt now with encryptedKey := none }
  else { operation with isCurrent := false }

def ProxyKey.settled (key : ProxyKey) (row : ModelKeyOperation) (now : Int) : ProxyKey :=
  let activated :=
    if row.managedKeyId == some key.identity.id && key.identity.userId == row.userId then
      { key with status := .active, pausedReason := none }
    else key
  if row.previousKeyId? == some key.identity.id.text && key.identity.userId == row.userId then
    activated.revoked now
  else activated

structure Settled (db next : ModelDatabase) (row : ModelKeyOperation) (leaseId : Option Uuid)
    (receipt : ModelReceipt) (moment : ModelMoment) : Prop where
  held : row ∈ db.operations
  pending : row.phase = .pending
  owner : row.userId = db.agent.userId
  running : db.agent.status = .running ∧ db.agent.desiredState = .running
  expected : row.expectedReceipt = receipt
  leased : ∃ lease, row.lease = some lease ∧ leaseId = some lease.id ∧
    moment.check < lease.expiresAt
  stands : row.previousConfig = db.agent.llmConfig
  agent : next.agent =
    { db.agent with llmConfig := row.config, llmApiKeyEncrypted := row.encryptedKey }
  operations : next.operations.rows =
    db.operations.rows.map fun other => other.settled row.operationId receipt moment.write
  keys : next.keys.rows = db.keys.rows.map fun key => key.settled row moment.write

structure AgentMoved (digest : String → String) (db : ModelDatabase) (new : ModelAgent)
    (now : Int) : Prop where
  guard : guardModelKeyAgent digest db db.agent new now = .ok ()
  user : new.userId = db.agent.userId
  intent : db.agent.desiredState = .deleted → new.desiredState = .deleted
  gone : db.agent.status = .deleted → new.status = .deleted
  erased : new.status = .deleted → db.agent.status = .deleted ∧ new.llmApiKeyEncrypted = none

structure AgentDeleted (db next : ModelDatabase) (new : ModelAgent) (now : Int) : Prop where
  user : new.userId = db.agent.userId
  intent : new.desiredState = db.agent.desiredState
  status : new.status = .deleted
  erased : new.llmApiKeyEncrypted = none
  cleaned : Cleaned { db with agent := new } next now

inductive ModelEffect (digest : String → String) (event : ModelEvent) (db next : ModelDatabase) :
    Prop
  | same (unchanged : next = db)
  | admitted (operation : ModelKeyOperation) (request : ModelRequest)
      (admitted : Admitted digest db next operation)
      (given : FromRequest digest event operation request)
  | leased (operationId : Uuid) (lease : DeliveryLease) (intent : Int)
      (written : OperationsWritten db next (fun row => row.operationId == operationId)
        (fun row =>
          { row with
            lease := some lease, dispatchIntentAt := row.dispatchIntentAt.or (some intent) }))
  | settled (userId : String) (agentId operationId : Uuid) (leaseId : Option Uuid)
      (receipt : ModelReceipt)
      (call : event.call = .settle userId agentId operationId leaseId receipt)
      (row : ModelKeyOperation) (id : row.operationId = operationId)
      (settled : Settled db next row leaseId receipt event.moment)
  | agent (new : ModelAgent) (moved : AgentMoved digest db new event.moment.write)
      (isNext : next = { db with agent := new })
  | deleted (new : ModelAgent) (deleted : AgentDeleted db next new event.moment.write)
  | keys (selected : ProxyKey → Bool) (change : ProxyKey → ProxyKey)
      (written : KeysWritten db next selected change)
  | keyInserted (key : ProxyKey) (keys : db.keys.insert key = some next.keys)
      (agent : next.agent = db.agent) (operations : next.operations = db.operations)
  | keyDeleted (keyId : Uuid)
      (guarded : ∀ key ∈ db.keys, key.identity.id = keyId → guardKeyDelete db key = .ok ())
      (keys : next.keys = keepRows db.keys fun key => key.identity.id != keyId)
      (agent : next.agent = db.agent) (operations : next.operations = db.operations)

section Calls

variable {digest : String → String} {event : ModelEvent} {db next : ModelDatabase}

variable {config : LlmConfig} {keyId accountId operationId : Uuid} {hash keyPrefix : String}
    {wallets : Uuid → Bool}

theorem candidate_some {candidate : ManagedKey}
    (found : candidate.candidate? config = some (keyId, accountId, hash, keyPrefix)) :
    config.proxyKeyId = some keyId.text := by
  unfold ManagedKey.candidate? at found
  split at found
  · rename_i id _ _ _ isId _ _ _
    split at found
    · rename_i checks
      cases found
      rw [checks.2.2.2.1]
      have ⟨text, isText, issued⟩ := Option.bind_eq_some_iff.mp isId
      unfold issuedUuid? at issued
      split at issued
      · split at issued
        · cases issued
          exact isText
        · cases issued
      · cases issued
    · cases found
  · cases found

theorem admission_managed {request : ModelRequest}
    (admits : request.admission wallets = .managed config keyId accountId hash keyPrefix) :
    request.config = some config ∧ config.proxyKeyId = some keyId.text := by
  unfold ModelRequest.admission at admits
  split at admits
  · split at admits <;> cases admits
  · rename_i isConfig
    split at admits
    · cases admits
    split at admits
    · split at admits <;> cases admits
    split at admits
    · cases admits
    · rename_i found
      split at admits
      · cases admits
      · cases admits
        have ⟨candidate, _, isCandidate⟩ := Option.bind_eq_some_iff.mp found
        exact ⟨isConfig, candidate_some isCandidate⟩

theorem insert_admitted_ok {key : Option ProxyKey} {operation : ModelKeyOperation}
    (returned : db.insertAdmitted key operation = .ok next) :
    next.agent = db.agent ∧ db.operations.insert operation = some next.operations ∧
      match key with
      | none => next.keys = db.keys
      | some key => db.keys.insert key = some next.keys := by
  cases key with
  | none =>
    have ⟨keys, same, rest⟩ := bind_ok returned
    have ⟨operations, inserted, rest⟩ := bind_ok rest
    cases same
    cases rest
    exact ⟨rfl, or_unique_violation_ok inserted, rfl⟩
  | some key =>
    have ⟨keys, insertedKey, rest⟩ := bind_ok returned
    have ⟨operations, inserted, rest⟩ := bind_ok rest
    cases rest
    exact ⟨rfl, or_unique_violation_ok inserted, or_unique_violation_ok insertedKey⟩

theorem takes_model_running {agent : ModelAgent} (takes : agent.takesModel = true) :
    agent.status = .running := by
  unfold ModelAgent.takesModel at takes
  simp only [Bool.and_eq_true, beq_iff_eq] at takes
  exact takes.1.1.1.1.1.1.1.2

theorem admit_effect {userId : String} {agentId : Uuid} {operationId : Option Uuid}
    {binding : ModelBinding} {request : Option ModelRequest} {wallets : Uuid → Bool}
    {answer : String}
    (call : event.call = .admission userId agentId operationId binding request wallets)
    (returned : admitHivraModelKeyOperation digest userId agentId operationId binding request
      wallets event.moment db = .ok (answer, next)) :
    ModelEffect digest event db next := by
  unfold admitHivraModelKeyOperation at returned
  split at returned
  · rename_i operationId request
    dsimp only at returned
    iterate 3
      split at returned
      · cases returned
        exact .same rfl
    split at returned
    · split at returned
      · cases returned
        exact .same rfl
      · cases returned
        exact .same rfl
    split at returned
    · cases returned
      exact .same rfl
    rename_i takes
    iterate 4
      split at returned
      · cases returned
        exact .same rfl
    rename_i admission _ replaceable
    have running := takes_model_running (by simpa using takes)
    have previous : ∀ keyId, db.agent.llmConfig.bind LlmConfig.proxyKeyId = some keyId →
        db.hasKey keyId db.agent.userId = true := by
      intro keyId isKey
      simp only [isKey, Bool.not_eq_false, Bool.and_eq_true, Option.all_some] at replaceable
      exact replaceable.2
    split at returned
    · rename_i admits
      have ⟨last, inserts, rest⟩ := bind_ok returned
      cases rest
      have ⟨agent, operations, keys⟩ := insert_admitted_ok inserts
      have ⟨isConfig, named⟩ := admission_managed admits
      refine .admitted _ request ⟨agent, running, rfl, rfl, rfl, rfl, operations, .inr ⟨_, keys, rfl, rfl,
        rfl, ?_⟩, previous⟩ ⟨⟨userId, agentId, binding, wallets, call⟩, rfl, rfl⟩
      simp only [admittedOperation, isConfig, Option.map_some, Option.bind_some, named]
      rfl
    · have ⟨last, inserts, rest⟩ := bind_ok returned
      cases rest
      have ⟨agent, operations, keys⟩ := insert_admitted_ok inserts
      exact .admitted _ request ⟨agent, running, rfl, rfl, rfl, rfl, operations, .inl ⟨rfl, keys⟩,
        previous⟩ ⟨⟨userId, agentId, binding, wallets, call⟩, rfl, rfl⟩
  · cases returned
    exact .same rfl

theorem claim_effect {userId : String} {agentId operationId : Uuid}
    {answer : Option ModelKeyOperation}
    (returned : claimHivraModelKeyDelivery digest userId agentId operationId event.moment db =
      .ok (answer, next)) :
    ModelEffect digest event db next := by
  unfold claimHivraModelKeyDelivery at returned
  dsimp only at returned
  iterate 3
    split at returned
    · cases returned
      exact .same rfl
  have ⟨last, writes, rest⟩ := bind_ok returned
  cases rest
  exact .leased operationId _ event.moment.write (update_operations_ok writes)

/-- A row that is not deleted passes the triggers as it is, and nothing is cleaned up. -/
theorem update_alive_ok {columns : Columns} {change : ModelAgent → ModelAgent} {admitted : Bool}
    {now : Int} (returned : db.updateAgent digest columns change admitted now = .ok next)
    (alive : (change db.agent).status ≠ .deleted) :
    next = { db with agent := change db.agent } := by
  have ⟨new, written, _, rest⟩ := update_agent_ok returned
  have isNew : new = change db.agent := by
    cases written.written with
    | inl same => exact same
    | inr erased => exact absurd erased.1 alive
  rw [isNew] at rest
  cases rest with
  | inl same => exact same.1
  | inr cleaned => exact absurd cleaned.1 alive

theorem settled_row (row : ModelKeyOperation) (operationId : Uuid) (receipt : ModelReceipt)
    (now : Int) : row.settled operationId receipt now =
      let superseded := if row.isCurrent then { row with isCurrent := false } else row
      let applied :=
        if superseded.operationId == operationId then superseded.applied receipt now
        else superseded
      if applied.operationId == operationId then { applied with encryptedKey := none }
      else applied := by
  have superseded : (if row.isCurrent then { row with isCurrent := false } else row) =
      { row with isCurrent := false } := by
    cases current : row.isCurrent with
    | true => rfl
    | false =>
      cases row
      cases current
      rfl
  rw [superseded]
  unfold ModelKeyOperation.settled
  by_cases here : row.operationId = operationId
  · simp [here, ModelKeyOperation.applied]
  · simp [here]

/-- The updates of a settlement, one after the other. -/
theorem settle_writes {operationId : Uuid} {receipt : ModelReceipt} {admitted : Bool} {now : Int}
    {superseded applied adopted activated revoked : ModelDatabase}
    (supersedes : OperationsWritten db superseded (fun row => row.isCurrent)
      (fun row => { row with isCurrent := false }))
    (applies : OperationsWritten superseded applied (fun row => row.operationId == operationId)
      (fun row => row.applied receipt now))
    (adopts : applied.updateAgent digest .credentials
      (fun agent => { agent with llmConfig := row.config, llmApiKeyEncrypted := row.encryptedKey })
      admitted now = .ok adopted)
    (activates : KeysWritten adopted activated
      (fun key => row.managedKeyId == some key.identity.id && key.identity.userId == row.userId)
      (fun key => { key with status := .active, pausedReason := none }))
    (revokes : KeysWritten activated revoked
      (fun key =>
        row.previousKeyId? == some key.identity.id.text && key.identity.userId == row.userId)
      (fun key => key.revoked now))
    (clears : OperationsWritten revoked next (fun row => row.operationId == operationId)
      (fun row => { row with encryptedKey := none }))
    (running : db.agent.status = .running) :
    next.agent =
        { db.agent with llmConfig := row.config, llmApiKeyEncrypted := row.encryptedKey } ∧
      next.operations.rows =
        db.operations.rows.map (fun other => other.settled operationId receipt now) ∧
      next.keys.rows = db.keys.rows.map fun key => key.settled row now := by
  have isRunning : applied.agent = db.agent := applies.agent.trans supersedes.agent
  have isAdopted := update_alive_ok adopts (by simp [isRunning, running])
  refine ⟨?_, ?_, ?_⟩
  · rw [clears.agent, revokes.agent, activates.agent, isAdopted, isRunning]
  · rw [clears.operations, revokes.operations, activates.operations, isAdopted]
    change applied.operations.rows.map _ = _
    rw [applies.operations, supersedes.operations, List.map_map, List.map_map]
    apply List.map_congr_left
    intro other _
    exact (settled_row other operationId receipt now).symm
  · rw [clears.keys, revokes.keys, activates.keys, isAdopted]
    change List.map _ (List.map _ applied.keys.rows) = _
    rw [applies.keys, supersedes.keys, List.map_map]
    apply List.map_congr_left
    intro key _
    rw [Function.comp_apply]
    unfold ProxyKey.settled
    split <;> rfl

theorem settle_effect {userId : String} {agentId operationId : Uuid} {leaseId : Option Uuid}
    {receipt : ModelReceipt} {answer : Bool}
    (call : event.call = .settle userId agentId operationId leaseId receipt)
    (returned : settleHivraModelKeyOperation digest userId agentId operationId leaseId receipt
      event.admitted event.moment db = .ok (answer, next)) :
    ModelEffect digest event db next := by
  unfold settleHivraModelKeyOperation at returned
  dsimp only at returned
  split at returned
  · cases returned
    exact .same rfl
  rename_i free
  push Not at free
  split at returned
  · cases returned
    exact .same rfl
  rename_i row search
  have ⟨held, id⟩ := operation_some search
  split at returned
  · cases returned
    exact .same rfl
  rename_i fits
  push Not at fits
  iterate 2
    split at returned
    · cases returned
      exact .same rfl
  rename_i allowed
  push Not at allowed
  iterate 2
    split at returned
    · cases returned
      exact .same rfl
  have ⟨superseded, supersedes, rest⟩ := bind_ok returned
  have ⟨applied, applies, rest⟩ := bind_ok rest
  have ⟨adopted, adopts, rest⟩ := bind_ok rest
  have ⟨activated, activates, rest⟩ := bind_ok rest
  have ⟨revoked, revokes, rest⟩ := bind_ok rest
  have ⟨last, clears, rest⟩ := bind_ok rest
  cases rest
  have ⟨agent, operations, keys⟩ := settle_writes (update_operations_ok supersedes)
    (update_operations_ok applies) adopts (update_keys_ok activates) (update_keys_ok revokes)
    (update_operations_ok clears) free.2.2.2.1
  have ⟨pending, given, sameLease, unexpired, _, stands⟩ := allowed
  refine .settled userId agentId operationId leaseId receipt call row id ?_
  constructor
  · exact held
  · exact pending
  · exact fits.1
  · exact ⟨free.2.2.2.1, free.2.2.1⟩
  · exact fits.2.2
  · cases lease : row.lease with
    | none =>
      rw [lease] at sameLease
      exact absurd sameLease.symm given
    | some lease' =>
      rw [lease] at sameLease unexpired
      refine ⟨lease', rfl, sameLease.symm, ?_⟩
      simpa using unexpired
  · simp only [ModelKeyOperation.stands, ne_eq, Bool.not_eq_false, Bool.and_eq_true,
      beq_iff_eq] at stands
    exact stands.1
  · exact agent
  · rw [id]
    exact operations
  · exact keys

theorem agent_effect {columns : Columns} {change : ModelAgent → ModelAgent}
    (returned : db.updateAgent digest columns change event.admitted event.moment.write = .ok next)
    (user : ∀ agent, (change agent).userId = agent.userId)
    (intent : (change db.agent).desiredState = db.agent.desiredState ∨
      db.agent.desiredState ≠ .deleted ∧ (change db.agent).status ≠ .deleted ∧
        db.agent.status ≠ .deleted)
    (status : (change db.agent).status = db.agent.status ∨ columns = .status)
    (gone : db.agent.status = .deleted → (change db.agent).status = .deleted)
    (watched : columns ≠ .other ∨ db.agent.status ≠ .deleted) :
    ModelEffect digest event db next := by
  have ⟨new, written, erases, outcome⟩ := update_agent_ok returned
  have ⟨sameUser, sameDesired, sameStatus⟩ : new.userId = db.agent.userId ∧
      new.desiredState = (change db.agent).desiredState ∧
        new.status = (change db.agent).status := by
    cases written.written with
    | inl same =>
      rw [same]
      exact ⟨user _, rfl, rfl⟩
    | inr erased =>
      rw [erased.2]
      exact ⟨user _, rfl, rfl⟩
  have wasDeleted (deleted : new.status = .deleted) (other : columns ≠ .status) :
      db.agent.status = .deleted := by
    cases status with
    | inl same => exact same.symm.trans (sameStatus.symm.trans deleted)
    | inr isStatus => exact absurd isStatus other
  have notOther (deleted : new.status = .deleted) : columns ≠ .other := by
    intro isOther
    have was := wasDeleted deleted (by rw [isOther]; simp)
    cases watched with
    | inl other => exact other isOther
    | inr alive => exact alive was
  cases outcome with
  | inl kept =>
    refine .agent new ⟨written.guard, sameUser, ?_, ?_, ?_⟩ kept.1
    · intro wanted
      cases intent with
      | inl same => exact sameDesired.trans (same.trans wanted)
      | inr free => exact absurd wanted free.1
    · intro deleted
      exact sameStatus.trans (gone deleted)
    · intro deleted
      refine ⟨?_, (erases (notOther deleted) deleted).2⟩
      by_cases isStatus : columns = .status
      · exact kept.2 isStatus deleted
      · exact wasDeleted deleted isStatus
  | inr cleaned =>
    refine .deleted new ⟨sameUser, ?_, cleaned.1, (erases (notOther cleaned.1) cleaned.1).2,
      cleaned.2⟩
    cases intent with
    | inl same => exact sameDesired.trans same
    | inr free => exact absurd (sameStatus.symm.trans cleaned.1) free.2.1

theorem map_snd_ok {Answer State : Type} {returned : Except Raised (Answer × State)} {next : State}
    (done : returned.map Prod.snd = .ok next) : ∃ answer, returned = .ok (answer, next) := by
  cases returned with
  | error raised => cases done
  | ok pair =>
    cases done
    exact ⟨pair.1, rfl⟩

theorem run_effect (returned : event.run digest db = .ok next) :
    ModelEffect digest event db next := by
  unfold ModelEvent.run at returned
  cases call : event.call with
  | admission userId agentId operationId binding request wallets =>
    rw [call] at returned
    have ⟨answer, admits⟩ := map_snd_ok returned
    exact admit_effect call admits
  | claimDelivery userId agentId operationId =>
    rw [call] at returned
    have ⟨answer, claims⟩ := map_snd_ok returned
    exact claim_effect claims
  | settle userId agentId operationId leaseId receipt =>
    rw [call] at returned
    have ⟨answer, settles⟩ := map_snd_ok returned
    exact settle_effect call settles
  | writeSettings llmConfig llmApiKeyEncrypted =>
    rw [call] at returned
    exact agent_effect returned (fun _ => rfl) (.inl rfl) (.inl rfl) id (.inl (by simp))
  | requestDelete operationId =>
    rw [call] at returned
    dsimp only [requestDelete] at returned
    split at returned
    · cases returned
      exact .same rfl
    rename_i alive
    have ⟨new, written, _, outcome⟩ := update_agent_ok returned
    have ⟨sameStatus, wanted, user⟩ := wanted_deleted_same db.agent operationId
    have isNew : new.status = db.agent.status ∧ new.desiredState = .deleted ∧
        new.userId = db.agent.userId := by
      cases written.written with
      | inl same =>
        rw [same]
        exact ⟨sameStatus, wanted, user⟩
      | inr erased => exact absurd (sameStatus.symm.trans erased.1) alive
    have stillAlive : new.status ≠ .deleted := by
      rw [isNew.1]
      exact alive
    cases outcome with
    | inl kept =>
      exact .agent new
        ⟨written.guard, isNew.2.2, fun _ => isNew.2.1, fun gone => absurd gone alive,
          fun gone => absurd gone stillAlive⟩ kept.1
    | inr cleaned => exact absurd cleaned.1 stillAlive
  | completeDelete operationId =>
    rw [call] at returned
    dsimp only [completeDelete] at returned
    split at returned
    · cases returned
      exact .same rfl
    · exact agent_effect returned (fun _ => rfl) (.inl rfl) (.inr rfl) (fun _ => rfl)
        (.inl (by simp))
  | writeLifecycle status desiredState operationId mayDelete =>
    rw [call] at returned
    dsimp only [writeLifecycle] at returned
    split at returned
    · cases returned
      exact .same rfl
    rename_i free
    push Not at free
    exact agent_effect returned (fun _ => rfl) (.inr ⟨free.2.2.2, free.1, free.2.2.1⟩) (.inr rfl)
      (fun gone => absurd gone free.2.2.1) (.inl (by simp))
  | writeKey keyId new =>
    rw [call] at returned
    exact .keys _ _ (update_keys_ok returned)
  | insertKey key =>
    rw [call] at returned
    have ⟨keys, inserted, rest⟩ := bind_ok returned
    cases rest
    exact .keyInserted key (or_unique_violation_ok inserted) rfl rfl
  | deleteKey keyId =>
    rw [call] at returned
    have ⟨_, guards, rest⟩ := bind_ok returned
    cases rest
    refine .keyDeleted keyId ?_ rfl rfl rfl
    intro key there id
    exact for_each_ok guards key (List.mem_filter.mpr ⟨there, by simpa using id⟩)

theorem step_effect (digest : String → String) (db : ModelDatabase) (event : ModelEvent) :
    ModelEffect digest event db (db.step digest event) := by
  unfold ModelDatabase.step
  cases returned : event.run digest db with
  | error raised => exact .same rfl
  | ok next => exact run_effect returned

end Calls

end Hivra.ModelKeys
