import Hivra.ModelKeys.ModelKeyGuards

/-!
# Model key operations

The functions that admit a change of an agent's model, lease its delivery and settle
it, and the other writes of the same rows: older writers of the settings, billing and
others on the keys, a request to delete and the deletion.
-/

namespace Hivra.ModelKeys

open Hivra.Library
open Hivra.AgentNetwork (Uuid Raised raise refuseIf orUniqueViolation isUuid)
open Hivra.AgentAuthority (AgentStatus DesiredState objectInUse)

/-- What the clock shows at a function's check and at its writes, and
`gen_random_uuid()`. -/
structure ModelMoment where
  check : Int
  write : Int
  newId : Uuid

def microseconds (seconds : Int) : Int := seconds * 1000000

def isDigestText (text : Option String) : Bool :=
  text.any fun text => text.length == 64 && text.toList.all isLowerHexDigit

def issuedUuid? (text : String) : Option Uuid :=
  if valid : isUuid text = true then
    if (text.toList[14]?.any fun digit => ['1', '2', '3', '4', '5'].contains digit) &&
        (text.toList[19]?.any fun digit => ['8', '9', 'a', 'b'].contains digit) then
      some { text, valid }
    else none
  else none

/-- 1 to 64 characters of the pattern of `model`. -/
def isModelName (text : String) : Bool :=
  1 ≤ text.length && text.length ≤ 64 &&
    text.toList.all fun char =>
      char.isAlphanum || ['.', '_', ':', '/', '[', ']', '-'].contains char

def isCiphertext (text : String) : Bool :=
  let body := text.toList.takeWhile fun char => char != '='
  let padding := text.toList.dropWhile fun char => char != '='
  48 ≤ text.length && text.length ≤ 384 && body != [] &&
    body.all (fun char => char.isAlphanum || char == '+' || char == '/') &&
    padding.length ≤ 2 && padding.all (fun char => char == '=')

/-- `hven_live_` and 1 to 16 characters after it. -/
def isLiveKeyPrefix (text : String) : Bool :=
  let lead := "hven_live_".toList
  let rest := text.toList.drop lead.length
  text.toList.take lead.length == lead && 1 ≤ rest.length && rest.length ≤ 16 &&
    rest.all fun char => char.isAlphanum || char == '_' || char == '-'

/-- `https://`, a host of letters, digits, dots and hyphens, then a port and a path if
there are any; the pattern of `baseUrl`. -/
def isBaseUrl (text : String) : Bool :=
  let lead := "https://".toList
  let isHost := fun (char : Char) => char.isAlphanum || char == '.' || char == '-'
  let rest := text.toList.drop lead.length
  let host := rest.takeWhile isHost
  let beyond := rest.dropWhile isHost
  let afterPort :=
    match beyond with
    | ':' :: digits =>
      if (digits.takeWhile Char.isDigit).isEmpty then beyond else digits.dropWhile Char.isDigit
    | _ => beyond
  text.toList.take lead.length == lead && !host.isEmpty &&
    match afterPort with
    | [] => true
    | '/' :: path =>
      path.all fun char =>
        char.isAlphanum || char == '.' || char == '_' || char == '/' || char == '-'
    | _ => false

def expectedReceiptOf (operationId : Uuid) (request : ModelRequest) : ModelReceipt :=
  { protocol := some "hivra-llm-apply-v1"
    operationId := some operationId.text
    stateDigest := request.expectedReceipt.stateDigest
    payloadDigest := request.expectedReceipt.payloadDigest
    provider := request.payload.bind ModelPayload.provider
    model := request.payload.bind ModelPayload.model
    others := "" }

def byokConfig (model : Option String) : LlmConfig :=
  { provider := some "venice"
    mode := some "byok"
    model
    proxyKeyId := none
    keyPrefix := none
    walletType := none
    enabledAt := none
    others := "" }

def managedConfig (config : LlmConfig) (candidate : ManagedKey) : LlmConfig :=
  { provider := some "venice"
    mode := some "managed"
    model := config.model
    proxyKeyId := candidate.id
    keyPrefix := candidate.keyPrefix
    walletType := config.walletType
    enabledAt := none
    others := "" }

def ModelRequest.wellFormed (request : ModelRequest) (operationId : Uuid) : Bool :=
  request.others == "" && isDigestText request.requestDigest &&
    isDigestText request.expectedStateDigest &&
    request.expectedReceipt == expectedReceiptOf operationId request &&
    isDigestText request.expectedReceipt.stateDigest &&
    isDigestText request.expectedReceipt.payloadDigest

def ModelRequest.configured (request : ModelRequest) (config : LlmConfig) : Bool :=
  config.provider == some "venice" &&
    (config.mode == some "byok" || config.mode == some "managed") &&
    config.model.any isModelName && request.encryptedKey.any isCiphertext &&
    request.payload.any fun payload =>
      payload ==
          { provider := some "venice", baseUrl := payload.baseUrl, model := config.model,
            others := "" } &&
        payload.baseUrl.any isBaseUrl

def ManagedKey.candidate? (candidate : ManagedKey) (config : LlmConfig) :
    Option (Uuid × Uuid × String × String) :=
  match candidate.id.bind issuedUuid?, candidate.accountId.bind issuedUuid?, candidate.hash,
      candidate.keyPrefix with
  | some keyId, some accountId, some hash, some keyPrefix =>
    if candidate.others = "" ∧ isDigestText (some hash) = true ∧
        isLiveKeyPrefix keyPrefix = true ∧ config = managedConfig config candidate ∧
        (config.walletType = some "card" ∨ config.walletType = some "hermesos") then
      some (keyId, accountId, hash, keyPrefix)
    else none
  | _, _, _, _ => none

inductive Admission
  | refused (answer : String)
  | cleared
  | own (config : LlmConfig)
  | managed (config : LlmConfig) (keyId accountId : Uuid) (hash keyPrefix : String)

/-- The checks of `config`, `payload`, `managedKey` and `encryptedKey`; `wallets` are the
owner's accounts. -/
def ModelRequest.admission (request : ModelRequest) (wallets : Uuid → Bool) : Admission :=
  match request.config with
  | none =>
    if request.payload.isSome = true ∨ request.managedKey.isSome = true ∨
        request.encryptedKey.isSome = true then
      .refused "invalid_request"
    else .cleared
  | some config =>
    if request.configured config = false then .refused "invalid_request"
    else if config.mode = some "byok" then
      if config ≠ byokConfig config.model ∨ request.managedKey.isSome = true ∨
          request.payload.bind ModelPayload.baseUrl ≠ some "https://api.venice.ai/api/v1" then
        .refused "invalid_request"
      else .own config
    else
      match request.managedKey.bind fun candidate => candidate.candidate? config with
      | none => .refused "invalid_request"
      | some (keyId, accountId, hash, keyPrefix) =>
        if wallets accountId = false then .refused "invalid_wallet"
        else .managed config keyId accountId hash keyPrefix

def ModelAgent.takesModel (agent : ModelAgent) : Bool :=
  agent.recipient.runtime == "codex" && agent.status == .running &&
    agent.desiredState == .running && agent.operationId.isNone &&
    isDigestText agent.apiToken && agent.recipient.hostname.isSome &&
    agent.recipient.tunnelId.isSome &&
    agent.recipient.chatUrl == agent.recipient.hostname.map (fun host => "https://" ++ host) &&
    (agent.recipient.substrate != .proxmoxKvm || agent.recipient.vmid.isSome)

def LlmConfig.replaceable (config : LlmConfig) : Bool :=
  config.provider == some "venice" &&
    (config.mode == some "byok" || config.mode == some "managed") &&
    (config.mode != some "managed" || config.proxyKeyId.isSome)

def awaitingApplication : String := "Awaiting agent application"

def pausedKey (agent : ModelAgent) (keyId accountId : Uuid) (hash keyPrefix : String)
    (walletType : Option String) : ProxyKey :=
  { identity :=
      { id := keyId
        userId := agent.userId
        accountId
        keyHash := hash
        keyPrefix
        metadata := walletType.getD "" }
    name := "Agent model key"
    status := .paused
    pausedReason := some awaitingApplication
    revokedAt := none }

def admittedOperation (digest : String → String) (agent : ModelAgent) (operationId : Uuid)
    (binding : ModelBinding) (requestDigest stateDigest : String) (request : ModelRequest)
    (managedKeyId : Option Uuid) (now : Int) : ModelKeyOperation :=
  { operationId
    userId := agent.userId
    requestDigest
    binding
    admissionConnectionRevision := agent.connectionRevision
    previousConfig := agent.llmConfig
    previousCipherDigest := agent.llmApiKeyEncrypted.map digest
    config := request.config.map fun config => { config with enabledAt := some now }
    payload := request.payload
    encryptedKey := request.encryptedKey
    cipherDigest := request.encryptedKey.map digest
    expectedStateDigest := stateDigest
    expectedReceipt := request.expectedReceipt
    managedKeyId
    phase := .pending
    isCurrent := false
    lease := none
    dispatchIntentAt := none
    observedReceipt := none
    appliedAt := none
    deletedAt := none }

def Phase.text : Phase → String
  | .pending => "pending"
  | .applied => "applied"
  | .deleted => "deleted"

def ModelDatabase.insertAdmitted (db : ModelDatabase) (key : Option ProxyKey)
    (operation : ModelKeyOperation) : Except Raised ModelDatabase := do
  let keys ←
    match key with
    | none => .ok db.keys
    | some key => orUniqueViolation (db.keys.insert key)
  let operations ← orUniqueViolation (db.operations.insert operation)
  .ok { db with keys, operations }

def admitHivraModelKeyOperation (digest : String → String) (userId : String) (agentId : Uuid)
    (operationId : Option Uuid) (binding : ModelBinding) (request : Option ModelRequest)
    (wallets : Uuid → Bool) (moment : ModelMoment) (db : ModelDatabase) :
    Except Raised (String × ModelDatabase) :=
  match operationId, request with
  | some operationId, some request =>
    let agent := db.agent
    if 8192 < request.octets then .ok ("invalid_request", db)
    else if agent.id ≠ agentId ∨ agent.userId ≠ userId then .ok ("not_found", db)
    else if modelKeyBinding digest agent ≠ binding then .ok ("target_changed", db)
    else
      match db.operation? operationId with
      | some held =>
        if held.userId = agent.userId ∧ held.binding = binding ∧
            request.requestDigest = some held.requestDigest then
          .ok (held.phase.text, db)
        else .ok ("operation_conflict", db)
      | none =>
        if agent.takesModel = false then .ok ("not_ready", db)
        else if db.operations.rows.any (fun row => row.phase == .pending) = true then
          .ok ("pending_conflict", db)
        else if request.wellFormed operationId = false then .ok ("invalid_request", db)
        else
          match request.admission wallets with
          | .refused answer => .ok (answer, db)
          | admission =>
            if (agent.llmConfig.all LlmConfig.replaceable &&
                (agent.llmConfig.bind LlmConfig.proxyKeyId).all fun keyId =>
                  db.hasKey keyId agent.userId) = false then
              .ok ("legacy_config_invalid", db)
            else
              let operation := fun (keyId : Option Uuid) =>
                admittedOperation digest agent operationId binding
                  (request.requestDigest.getD "") (request.expectedStateDigest.getD "")
                  request keyId moment.write
              match admission with
              | .managed config keyId accountId hash keyPrefix => do
                let next ← db.insertAdmitted
                  (some (pausedKey agent keyId accountId hash keyPrefix config.walletType))
                  (operation (some keyId))
                .ok ("pending", next)
              | _ => do
                let next ← db.insertAdmitted none (operation none)
                .ok ("pending", next)
  | _, _ => .ok ("invalid_request", db)

def ModelKeyOperation.stands (digest : String → String) (operation : ModelKeyOperation)
    (agent : ModelAgent) : Bool :=
  operation.previousConfig == agent.llmConfig &&
    operation.previousCipherDigest == agent.llmApiKeyEncrypted.map digest

/-- `claim_hivra_model_key_delivery`: the leased operation. -/
def claimHivraModelKeyDelivery (digest : String → String) (userId : String) (agentId : Uuid)
    (operationId : Uuid) (moment : ModelMoment) (db : ModelDatabase) :
    Except Raised (Option ModelKeyOperation × ModelDatabase) :=
  let agent := db.agent
  if agent.id ≠ agentId ∨ agent.userId ≠ userId ∨ agent.status ≠ .running ∨
      agent.desiredState ≠ .running ∨ agent.operationId.isSome = true then
    .ok (none, db)
  else
    match db.operation? operationId with
    | none => .ok (none, db)
    | some row =>
      if row.userId ≠ agent.userId ∨ row.phase ≠ .pending ∨
          row.binding ≠ modelKeyBinding digest agent ∨ row.stands digest agent = false ∨
          row.lease.any (fun lease => decide (moment.check < lease.expiresAt)) = true then
        .ok (none, db)
      else do
        let leased : ModelKeyOperation → ModelKeyOperation := fun row =>
          { row with
            lease :=
              some { id := moment.newId, expiresAt := moment.write + microseconds 20 }
            dispatchIntentAt := row.dispatchIntentAt.or (some moment.write) }
        let next ← db.updateOperations (fun row => row.operationId == operationId) leased
        .ok (some (leased row), next)

def ModelKeyOperation.applied (operation : ModelKeyOperation) (receipt : ModelReceipt) (now : Int) :
    ModelKeyOperation :=
  { operation with
    phase := .applied
    isCurrent := true
    appliedAt := some now
    observedReceipt := some receipt
    lease := none }

def settleHivraModelKeyOperation (digest : String → String) (userId : String) (agentId : Uuid)
    (operationId : Uuid) (leaseId : Option Uuid) (receipt : ModelReceipt) (admitted : Bool)
    (moment : ModelMoment) (db : ModelDatabase) : Except Raised (Bool × ModelDatabase) :=
  let agent := db.agent
  if agent.id ≠ agentId ∨ agent.userId ≠ userId ∨ agent.desiredState ≠ .running ∨
      agent.status ≠ .running ∨ agent.operationId.isSome = true then
    .ok (false, db)
  else
    match db.operation? operationId with
    | none => .ok (false, db)
    | some row =>
      if row.userId ≠ agent.userId ∨ row.binding ≠ modelKeyBinding digest agent ∨
          row.expectedReceipt ≠ receipt then
        .ok (false, db)
      else if row.phase = .applied then
        .ok (row.isCurrent && row.observedReceipt == some receipt, db)
      else if row.phase ≠ .pending ∨ leaseId = none ∨
          row.lease.map DeliveryLease.id ≠ leaseId ∨
          row.lease.any (fun lease => decide (lease.expiresAt ≤ moment.check)) = true ∨
          row.dispatchIntentAt.isNone = true ∨ row.stands digest agent = false then
        .ok (false, db)
      else if row.managedKeyId.any (fun keyId =>
          !(db.keys.rows.any fun key =>
            key.identity.id == keyId && key.identity.userId == row.userId &&
              key.status == .paused && key.pausedReason == some awaitingApplication)) = true then
        .ok (false, db)
      else if row.previousKeyId?.any (fun keyId => !(db.hasKey keyId row.userId)) = true then
        .ok (false, db)
      else do
        let superseded ← db.updateOperations (fun row => row.isCurrent)
          (fun row => { row with isCurrent := false })
        let applied ← superseded.updateOperations (fun row => row.operationId == operationId)
          (fun row => row.applied receipt moment.write)
        let adopted ← applied.updateAgent digest .credentials
          (fun agent =>
            { agent with llmConfig := row.config, llmApiKeyEncrypted := row.encryptedKey })
          admitted moment.write
        let activated ← adopted.updateKeys
          (fun key =>
            row.managedKeyId == some key.identity.id && key.identity.userId == row.userId)
          (fun key => { key with status := .active, pausedReason := none })
        let revoked ← activated.updateKeys
          (fun key =>
            row.previousKeyId? == some key.identity.id.text &&
              key.identity.userId == row.userId)
          (fun key => key.revoked moment.write)
        let next ← revoked.updateOperations (fun row => row.operationId == operationId)
          (fun row => { row with encryptedKey := none })
        .ok (true, next)

def writeSettings (digest : String → String) (llmConfig : Option LlmConfig)
    (llmApiKeyEncrypted : Option String) (admitted : Bool) (moment : ModelMoment)
    (db : ModelDatabase) : Except Raised ModelDatabase :=
  db.updateAgent digest .credentials
    (fun agent => { agent with llmConfig, llmApiKeyEncrypted }) admitted moment.write

def ModelAgent.wantedDeleted (agent : ModelAgent) (operationId : Uuid) : ModelAgent :=
  if agent.operationId.isSome then { agent with desiredState := .deleted }
  else
    { agent with
      desiredState := .deleted, operationId := some operationId, mayDelete := true }

theorem wanted_deleted_same (agent : ModelAgent) (operationId : Uuid) :
    (agent.wantedDeleted operationId).status = agent.status ∧
      (agent.wantedDeleted operationId).desiredState = .deleted ∧
        (agent.wantedDeleted operationId).userId = agent.userId := by
  unfold ModelAgent.wantedDeleted
  split <;> exact ⟨rfl, rfl, rfl⟩

/-- `request_hivra_agent_delete`. -/
def requestDelete (digest : String → String) (operationId : Uuid) (admitted : Bool)
    (moment : ModelMoment) (db : ModelDatabase) : Except Raised ModelDatabase :=
  if db.agent.status = .deleted then .ok db
  else
    db.updateAgent digest .other (fun agent => agent.wantedDeleted operationId) admitted moment.write

/-- `complete_hivra_agent_delete`. -/
def completeDelete (digest : String → String) (operationId : Uuid) (admitted : Bool)
    (moment : ModelMoment) (db : ModelDatabase) : Except Raised ModelDatabase :=
  if db.agent.operationId ≠ some operationId ∨ db.agent.mayDelete = false ∨
      db.agent.desiredState ≠ .deleted then
    .ok db
  else
    db.updateAgent digest .status
      (fun agent =>
        { agent with
          status := .deleted
          operationId := none
          apiToken := none
          recipient :=
            { agent.recipient with
              allocationId := none
              vmid := none
              connectionId := none
              targetId := none
              hostname := none
              tunnelId := none
              chatUrl := none } })
      admitted moment.write

def writeLifecycle (digest : String → String) (status : AgentStatus) (desiredState : DesiredState)
    (operationId : Option Uuid) (mayDelete admitted : Bool) (moment : ModelMoment)
    (db : ModelDatabase) : Except Raised ModelDatabase :=
  if status = .deleted ∨ desiredState = .deleted ∨ db.agent.status = .deleted ∨
      db.agent.desiredState = .deleted then
    .ok db
  else
    db.updateAgent digest .status
      (fun agent => { agent with status, desiredState, operationId, mayDelete }) admitted
      moment.write

def writeKey (keyId : Uuid) (new : ProxyKey) (db : ModelDatabase) : Except Raised ModelDatabase :=
  db.updateKeys (fun key => key.identity.id == keyId) (fun _ => new)

def insertKey (key : ProxyKey) (db : ModelDatabase) : Except Raised ModelDatabase := do
  let keys ← orUniqueViolation (db.keys.insert key)
  .ok { db with keys }

def deleteKey (keyId : Uuid) (db : ModelDatabase) : Except Raised ModelDatabase := do
  (db.keys.rows.filter fun key => key.identity.id == keyId).forM fun key => guardKeyDelete db key
  .ok
    { db with
      keys :=
        Hivra.AgentAuthority.keepRows db.keys fun key => key.identity.id != keyId }

inductive ModelCall
  | admission (userId : String) (agentId : Uuid) (operationId : Option Uuid) (binding : ModelBinding)
      (request : Option ModelRequest) (wallets : Uuid → Bool)
  | claimDelivery (userId : String) (agentId operationId : Uuid)
  | settle (userId : String) (agentId operationId : Uuid) (leaseId : Option Uuid)
      (receipt : ModelReceipt)
  | writeSettings (llmConfig : Option LlmConfig) (llmApiKeyEncrypted : Option String)
  | requestDelete (operationId : Uuid)
  | completeDelete (operationId : Uuid)
  | writeLifecycle (status : AgentStatus) (desiredState : DesiredState) (operationId : Option Uuid)
      (mayDelete : Bool)
  | writeKey (keyId : Uuid) (new : ProxyKey)
  | insertKey (key : ProxyKey)
  | deleteKey (keyId : Uuid)

structure ModelEvent where
  moment : ModelMoment
  admitted : Bool
  call : ModelCall

def ModelEvent.run (digest : String → String) (event : ModelEvent) (db : ModelDatabase) :
    Except Raised ModelDatabase :=
  match event.call with
  | .admission userId agentId operationId binding request wallets =>
    (admitHivraModelKeyOperation digest userId agentId operationId binding request wallets
      event.moment db).map Prod.snd
  | .claimDelivery userId agentId operationId =>
    (claimHivraModelKeyDelivery digest userId agentId operationId event.moment db).map Prod.snd
  | .settle userId agentId operationId leaseId receipt =>
    (settleHivraModelKeyOperation digest userId agentId operationId leaseId receipt
      event.admitted event.moment db).map Prod.snd
  | .writeSettings llmConfig llmApiKeyEncrypted =>
    writeSettings digest llmConfig llmApiKeyEncrypted event.admitted event.moment db
  | .requestDelete operationId => requestDelete digest operationId event.admitted event.moment db
  | .completeDelete operationId => completeDelete digest operationId event.admitted event.moment db
  | .writeLifecycle status desiredState operationId mayDelete =>
    writeLifecycle digest status desiredState operationId mayDelete event.admitted event.moment db
  | .writeKey keyId new => writeKey keyId new db
  | .insertKey key => insertKey key db
  | .deleteKey keyId => deleteKey keyId db

def ModelDatabase.step (digest : String → String) (db : ModelDatabase) (event : ModelEvent) :
    ModelDatabase :=
  match event.run digest db with
  | .ok next => next
  | .error _ => db

def ModelDatabase.after (digest : String → String) (db : ModelDatabase)
    (history : List ModelEvent) : ModelDatabase :=
  history.foldl (ModelDatabase.step digest) db

end Hivra.ModelKeys
