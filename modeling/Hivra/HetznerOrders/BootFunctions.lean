import Hivra.HetznerOrders.BootGuards

/-!
# First-boot functions

The functions that stage a first boot, bind it to its server, lease and checkpoint its
operation, pin its identity, release and abandon it, and what follows a change of the order
or of the connection.  Each holds its locks to its end, so it is one step in their order;
what it raises undoes it.
-/

namespace Hivra.HetznerOrders

open Hivra.Library
open Hivra.AgentNetwork (Uuid Raised raise refuseIf checkViolation)

/-! ## What the functions select -/

structure BootTarget where
  userId : String
  connectionId : Uuid
  revision : Int
  orderId : Uuid
  attemptId : Uuid
  quote : String
  server : String

def BootStore.hasConnection (store : BootStore) (userId : String) (connectionId : Uuid)
    (revision : Int) : Bool :=
  store.connections.rows.any fun connection =>
    connection.id == connectionId && connection.userId == userId &&
      connection.provider == "hetzner-cloud" && connection.revision == revision

def BootStore.hasReadyConnection (store : BootStore) (userId : String) (connectionId : Uuid)
    (revision : Int) : Bool :=
  store.connections.rows.any fun connection =>
    connection.id == connectionId && connection.userId == userId &&
      connection.provider == "hetzner-cloud" && connection.status == "ready" &&
      connection.revision == revision

def CapacityOrder.isFor (order : CapacityOrder) (userId : String) (connectionId orderId : Uuid)
    (revision : Int) : Bool :=
  order.id == orderId && order.userId == userId && order.connectionId == connectionId &&
    order.activeConnectionId == some connectionId && order.connectionRevision == revision

def CapacityOrder.isServer (order : CapacityOrder) (server : String) : Bool :=
  order.providerResourceId == some server &&
    order.providerCreationReceipt.any fun receipt => receipt.serverId == server

def BootOperation.isFor (operation : BootOperation) (target : BootTarget) : Bool :=
  operation.orderId == target.orderId && operation.attemptId == target.attemptId &&
    operation.userId == target.userId && operation.connectionId == target.connectionId &&
    operation.connectionRevision == target.revision &&
    operation.quoteFingerprintSha256 == target.quote &&
    operation.providerServerId == target.server

/-! ## Staging and binding -/

structure StageRequest where
  userId : String
  connectionId : Uuid
  revision : Int
  orderId : Uuid
  capacityKey : Uuid
  attemptId : Uuid
  quoteFingerprint : String
  recipeVersion : String
  issuedAt : Int
  expiresAt : Int
  verifier : String
  encryptedToken : String
  confirmation : String
  /-- The row of another order holds the attempt. -/
  attemptTaken : Bool

inductive BootAnswer
  | rejected
  | staged (record : Enrollment)
  | flag (accepted : Bool)
  | enrolled
  | acknowledgementReplay
  | identityChanged
  | busy
  | claimed (record : BootOperation)
  | written

/-- The record `stage_hetzner_first_boot` inserts. -/
def StageRequest.enrollment (request : StageRequest) (recipe : Recipe) : Enrollment :=
  { orderId := request.orderId
    userId := request.userId
    connectionId := request.connectionId
    connectionRevision := request.revision
    quoteFingerprintSha256 := request.quoteFingerprint
    attemptId := request.attemptId
    capacityIdempotencyKey := request.capacityKey
    recipe
    phase := .staged
    issuedAt := request.issuedAt
    expiresAt := request.expiresAt
    verifierSha256 := request.verifier
    encryptedToken := some request.encryptedToken
    providerServerId := none
    identity := none
    armed := none }

def stageHetznerFirstBoot (readings : Readings) (request : StageRequest) (store : BootStore) :
    Except Raised (BootAnswer × BootStore) :=
  let now := readings.clock store.clock
  match Recipe.ofText? request.recipeVersion with
  | none => raise "22023" "Invalid first-boot intent"
  | some recipe =>
    if request.confirmation ≠ "Prepare this computer for agent launch" ∨
        request.expiresAt ≠ request.issuedAt + 15 * oneMinute ∨
        now 0 + 5 * oneSecond < request.issuedAt ∨ isSha256 request.verifier = false ∨
        isToken request.encryptedToken = false then
      raise "22023" "Invalid first-boot intent"
    else if store.hasReadyConnection request.userId request.connectionId request.revision =
        false then
      .ok (.rejected, store)
    else if store.order.isFor request.userId request.connectionId request.orderId
          request.revision = false ∨
        store.order.idempotencyKey ≠ some request.capacityKey ∨
        store.order.quoteFingerprintSha256 ≠ request.quoteFingerprint then
      .ok (.rejected, store)
    else
      match store.enrollment with
      | some record =>
        if record.attemptId = request.attemptId ∧ record.verifierSha256 = request.verifier ∧
            record.recipe = recipe ∧ record.issuedAt = request.issuedAt ∧
            record.expiresAt = request.expiresAt ∧ record.phase = .staged ∧
            now 1 < record.expiresAt ∧ store.order.status = .creating ∧
            store.order.serverPostAttemptedAt = none then
          .ok (.staged record, store)
        else .ok (.rejected, store)
      | none =>
        if store.order.status ≠ .creating ∨ store.order.serverPostAttemptedAt ≠ none ∨
            request.issuedAt < now 2 - oneMinute then
          .ok (.rejected, store)
        else do
          refuseIf (request.attemptTaken = true) "23505"
            "duplicate key value violates unique constraint"
          refuseIf ((request.enrollment recipe).checks = false) checkViolation
            "new row violates check constraint"
          .ok (.staged (request.enrollment recipe),
            { store with enrollment := some (request.enrollment recipe) })

structure ArmRequest where
  userId : String
  connectionId : Uuid
  revision : Int
  orderId : Uuid
  attemptId : Uuid
  capacityKey : Uuid
  serverId : String
  creationReceipt : Option CreationReceipt

def armHetznerFirstBoot (readings : Readings) (request : ArmRequest) (store : BootStore) :
    Except Raised (BootAnswer × BootStore) :=
  let now := readings.clock store.clock
  if store.hasReadyConnection request.userId request.connectionId request.revision = false then
    .ok (.flag false, store)
  else if store.order.isFor request.userId request.connectionId request.orderId
        request.revision = false ∨
      store.order.idempotencyKey ≠ some request.capacityKey ∨
      store.order.status ≠ .createdOff ∨ store.order.providerCreationReceipt = none ∨
      store.order.providerCreationReceipt ≠ request.creationReceipt ∨
      store.order.isServer request.serverId = false then
    .ok (.flag false, store)
  else
    match store.enrollment with
    | none => .ok (.flag false, store)
    | some record =>
      if record.attemptId ≠ request.attemptId ∨ record.overBy (now 0) = true then
        .ok (.flag false, store)
      else if record.phase = .awaitingIdentity then
        .ok (.flag (record.providerServerId == some request.serverId), store)
      else if record.phase ≠ .staged then .ok (.flag false, store)
      else do
        let next ← store.updateEnrollment false (now 1) record
          { record with
            phase := .awaitingIdentity
            providerServerId := some request.serverId }
        .ok (.flag true, next)

/-! ## Pinning the identity -/

structure ConsumeRequest where
  userId : String
  connectionId : Uuid
  revision : Int
  orderId : Uuid
  attemptId : Uuid
  serverId : String
  verifier : String
  /-- The key and its fingerprint, where they are an identity. -/
  host : Option HostIdentity
  providerObservedAt : Option Int

/-- The columns `consume_hetzner_first_boot` selects its record by. -/
def Enrollment.isConsumedBy (record : Enrollment) (request : ConsumeRequest) : Bool :=
  record.orderId == request.orderId && record.userId == request.userId &&
    record.connectionId == request.connectionId &&
    record.connectionRevision == request.revision && record.attemptId == request.attemptId &&
    record.providerServerId == some request.serverId &&
    record.verifierSha256 == request.verifier

def consumeHetznerFirstBoot (readings : Readings) (request : ConsumeRequest)
    (store : BootStore) : Except Raised (BootAnswer × BootStore) :=
  let now := readings.clock store.clock
  match request.host, request.providerObservedAt, store.enrollment with
  | some host, some observedAt, some record =>
    if store.hasReadyConnection request.userId request.connectionId request.revision = false ∨
        store.order.isFor request.userId request.connectionId request.orderId
          request.revision = false ∨
        store.order.status ≠ .createdOff ∨ store.order.isServer request.serverId = false then
      .ok (.rejected, store)
    else if record.isConsumedBy request = false ∨ record.windowContains (now 0) = false ∨
        observedAt < now 0 - 30 * oneSecond ∨ now 0 + 5 * oneSecond < observedAt then
      .ok (.rejected, store)
    else if record.phase = .enrolled then
      if record.identity.map PinnedIdentity.host = some host then
        .ok (.acknowledgementReplay, store)
      else .ok (.identityChanged, store)
    else if record.phase ≠ .awaitingIdentity then .ok (.rejected, store)
    else do
      let next ← store.updateEnrollment false (now 1) record
        { record with
          phase := .enrolled
          encryptedToken := none
          identity := some { host, providerObservedAt := observedAt, enrolledAt := now 0 } }
      .ok (.enrolled, next)
  | _, _, _ => .ok (.rejected, store)

/-! ## Leases -/

/-- `least(moment, deadline)`. -/
def earlier (moment : Int) : Option Int → Int
  | none => moment
  | some deadline => min moment deadline

def BootTarget.operation (target : BootTarget) (lease : Lease) : BootOperation :=
  { orderId := target.orderId
    attemptId := target.attemptId
    userId := target.userId
    connectionId := target.connectionId
    connectionRevision := target.revision
    quoteFingerprintSha256 := target.quote
    providerServerId := target.server
    lease := some lease
    firewallPostAttemptedAt := none
    firewallReceipt := none
    firewallVerifiedAt := none
    powerOnPostAttemptedAt := none
    powerOnAction := none
    abandonedAt := none }

def BootOperation.references (operation : BootOperation) (enrollment : Enrollment) : Bool :=
  operation.orderId == enrollment.orderId && operation.attemptId == enrollment.attemptId &&
    operation.userId == enrollment.userId &&
    operation.connectionId == enrollment.connectionId &&
    operation.connectionRevision == enrollment.connectionRevision &&
    operation.quoteFingerprintSha256 == enrollment.quoteFingerprintSha256

def CapacityOrder.claimable (order : CapacityOrder) (target : BootTarget) : Bool :=
  order.isFor target.userId target.connectionId target.orderId target.revision &&
    order.quoteFingerprintSha256 == target.quote && order.status == .createdOff &&
    order.isServer target.server && order.providerSshKeyId.isSome &&
    order.providerSshKeyStatus == some .accepted

def Enrollment.claimable (enrollment : Enrollment) (order : CapacityOrder) (target : BootTarget)
    (now : Int) : Bool :=
  enrollment.attemptId == target.attemptId &&
    order.idempotencyKey == some enrollment.capacityIdempotencyKey &&
    (enrollment.phase == .staged || enrollment.phase == .awaitingIdentity ||
      enrollment.phase == .enrolled) &&
    !enrollment.overBy (now + oneMinute) &&
    enrollment.providerServerId.all fun server => server == target.server

/-- `claim_hetzner_first_boot_operation`; `leaseId` is its random id. -/
def claimHetznerFirstBootOperation (readings : Readings) (target : BootTarget) (leaseId : Uuid)
    (store : BootStore) : Except Raised (BootAnswer × BootStore) :=
  let now := readings.clock store.clock
  if store.hasReadyConnection target.userId target.connectionId target.revision = false ∨
      store.order.claimable target = false then
    .ok (.rejected, store)
  else
    match store.enrollment with
    | none => .ok (.rejected, store)
    | some enrollment =>
      if enrollment.claimable store.order target (now 0) = false then .ok (.rejected, store)
      else
        let lease : Lease :=
          { id := leaseId
            expiresAt := earlier (now 2 + 2 * oneMinute) enrollment.deadline }
        match store.operation with
        | some operation =>
          if operation.abandonedAt ≠ none then .ok (.rejected, store)
          else if operation.leased (now 1) = true then .ok (.busy, store)
          else do
            let next ← store.updateOperation (now 3) (now 4) operation
              { operation with lease := some lease }
            .ok (.claimed { operation with lease := some lease }, next)
        | none => do
          refuseIf ((target.operation lease).references enrollment = false)
            foreignKeyViolation "insert violates foreign key constraint"
          refuseIf ((target.operation lease).checks = false) checkViolation
            "new row violates check constraint"
          .ok (.claimed (target.operation lease),
            { store with operation := some (target.operation lease) })

/-! ## Checkpoints -/

inductive BootCheckpoint
  | firewallDispatch
  | firewallReceipt
  | firewallVerified
  | powerDispatch
  | powerReceipt

structure CheckpointRequest where
  target : BootTarget
  leaseId : Uuid
  checkpoint : BootCheckpoint
  evidence : Option Evidence
  observedAt : Option Int

def BootCheckpoint.dispatches : BootCheckpoint → Bool
  | .firewallDispatch => true
  | .powerDispatch => true
  | _ => false

/-- The `firewall_dispatch` of `checkpoint_hetzner_first_boot_operation`. -/
def firewallDispatch (now : Nat → Int) (enrollment : Enrollment) (operation : BootOperation)
    (store : BootStore) : Except Raised (BootAnswer × BootStore) :=
  if operation.firewallPostAttemptedAt ≠ none ∨ enrollment.phase = .enrolled then
    .ok (.flag false, store)
  else do
    let next ← store.updateOperation (now 5) (now 6) operation
      { operation with firewallPostAttemptedAt := some (now 3) }
    .ok (.flag true, next)

def firewallReceipt (now : Nat → Int) (request : CheckpointRequest) (operation : BootOperation)
    (store : BootStore) : Except Raised (BootAnswer × BootStore) :=
  match request.evidence with
  | some (.firewall receipt) =>
    if request.observedAt ≠ none ∨ operation.firewallPostAttemptedAt = none ∨
        isValidFirstBootFirewallReceipt receipt request.target.orderId
          request.target.attemptId operation.quoteFingerprintSha256
          operation.providerServerId = false then
      .ok (.flag false, store)
    else
      match operation.firewallReceipt with
      | some recorded => .ok (.flag (recorded == receipt), store)
      | none => do
        let next ← store.updateOperation (now 5) (now 6) operation
          { operation with firewallReceipt := some receipt }
        .ok (.flag true, next)
  | _ => .ok (.flag false, store)

def firewallVerified (now : Nat → Int) (request : CheckpointRequest) (operation : BootOperation)
    (store : BootStore) : Except Raised (BootAnswer × BootStore) :=
  match request.evidence, request.observedAt with
  | some (.firewall receipt), some observedAt =>
    if operation.firewallReceipt ≠ some receipt ∨ observedAt < now 3 - 30 * oneSecond ∨
        now 4 + 5 * oneSecond < observedAt ∨
        (operation.firewallPostAttemptedAt.any fun at' => decide (observedAt < at')) = true ∨
        (operation.firewallVerifiedAt.any fun at' => decide (observedAt < at')) = true ∨
        operation.powerOnPostAttemptedAt ≠ none then
      .ok (.flag false, store)
    else do
      let next ← store.updateOperation (now 5) (now 6) operation
        { operation with firewallVerifiedAt := some observedAt }
      .ok (.flag true, next)
  | _, _ => .ok (.flag false, store)

def windowAt (now : Int) : SetupWindow :=
  { armedAt := now, armedExpiresAt := now + 17 * oneMinute }

/-- Its `power_dispatch`: the checkpoint of the current recipe opens the window first. -/
def powerDispatch (now : Nat → Int) (enrollment : Enrollment) (operation : BootOperation)
    (store : BootStore) : Except Raised (BootAnswer × BootStore) :=
  if operation.powerOnPostAttemptedAt ≠ none ∨
      (operation.firewallVerifiedAt.all fun verifiedAt =>
        decide (verifiedAt < now 3 - 30 * oneSecond)) = true ∨
      enrollment.phase ≠ .awaitingIdentity ∨
      enrollment.providerServerId ≠ some operation.providerServerId then
    .ok (.flag false, store)
  else
    match enrollment.recipe with
    | .legacy => do
      let next ← store.updateOperation (now 5) (now 6) operation
        { operation with powerOnPostAttemptedAt := some (now 4) }
      .ok (.flag true, next)
    | .armAtStart =>
      if enrollment.armed ≠ none then .ok (.flag false, store)
      else do
        let opened ← store.updateEnrollment true (now 4) enrollment
          { enrollment with armed := some (windowAt (now 4)) }
        let next ← opened.updateOperation (now 5) (now 6) operation
          { operation with powerOnPostAttemptedAt := some (now 4) }
        .ok (.flag true, next)

def BootOperation.refusesAction (operation : BootOperation) (action : PowerAction) : Bool :=
  operation.powerOnAction.any fun recorded =>
    recorded.unfinished != action.unfinished ||
      (recorded.status != .running && recorded != action)

def powerReceipt (now : Nat → Int) (request : CheckpointRequest) (operation : BootOperation)
    (store : BootStore) : Except Raised (BootAnswer × BootStore) :=
  match request.evidence with
  | some (.power action) =>
    if request.observedAt ≠ none ∨ operation.powerOnPostAttemptedAt = none ∨
        isValidFirstBootPowerAction action operation.providerServerId = false ∨
        operation.refusesAction action = true then
      .ok (.flag false, store)
    else do
      let next ← store.updateOperation (now 5) (now 6) operation
        { operation with powerOnAction := some action }
      .ok (.flag true, next)
  | _ => .ok (.flag false, store)

def checkpointHetznerFirstBootOperation (readings : Readings) (request : CheckpointRequest)
    (store : BootStore) : Except Raised (BootAnswer × BootStore) :=
  let now := readings.clock store.clock
  let target := request.target
  if store.hasReadyConnection target.userId target.connectionId target.revision = false ∨
      store.order.isFor target.userId target.connectionId target.orderId target.revision =
        false ∨
      store.order.status ≠ .createdOff then
    .ok (.flag false, store)
  else
    match store.enrollment, store.operation with
    | some enrollment, some operation =>
      if enrollment.attemptId ≠ target.attemptId ∨ enrollment.phase = .revoked ∨
          enrollment.phase = .failed ∨ enrollment.overBy (now 0) = true then
        .ok (.flag false, store)
      else if operation.isFor target = false ∨
          operation.lease.map Lease.id ≠ some request.leaseId ∨
          operation.abandonedAt ≠ none ∨ operation.leased (now 1) = false then
        .ok (.flag false, store)
      else if request.checkpoint.dispatches = true ∧
          (request.evidence ≠ none ∨ request.observedAt ≠ none ∨
            operation.leased (now 2 + 30 * oneSecond) = false) then
        .ok (.flag false, store)
      else
        match request.checkpoint with
        | .firewallDispatch => firewallDispatch now enrollment operation store
        | .firewallReceipt => firewallReceipt now request operation store
        | .firewallVerified => firewallVerified now request operation store
        | .powerDispatch => powerDispatch now enrollment operation store
        | .powerReceipt => powerReceipt now request operation store
    | _, _ => .ok (.flag false, store)

/-! ## Releasing and abandoning -/

def releaseHetznerFirstBootOperation (readings : Readings) (target : BootTarget)
    (leaseId : Uuid) (store : BootStore) : Except Raised (BootAnswer × BootStore) :=
  let now := readings.clock store.clock
  match store.operation with
  | none => .ok (.flag false, store)
  | some operation =>
    if operation.isFor target = false ∨ operation.lease.map Lease.id ≠ some leaseId then
      .ok (.flag false, store)
    else do
      let next ← store.updateOperation (now 0) (now 1) operation { operation with lease := none }
      .ok (.flag true, next)

def BootStore.revokeEnrollment (store : BootStore) (now : Int) : Except Raised BootStore :=
  match store.enrollment with
  | none => .ok store
  | some record =>
    if record.phase = .revoked ∨ record.phase = .failed then .ok store
    else
      store.updateEnrollment false now record
        { record with phase := .revoked, encryptedToken := none }

def abandonHetznerFirstBootOperation (readings : Readings) (target : BootTarget)
    (serverName confirmation : String) (store : BootStore) :
    Except Raised (BootAnswer × BootStore) :=
  let now := readings.clock store.clock
  if confirmation ≠ "Stop setup; provider resources and billing remain" ∨
      store.hasConnection target.userId target.connectionId target.revision = false ∨
      store.order.id ≠ target.orderId ∨ store.order.userId ≠ target.userId ∨
      store.order.activeConnectionId ≠ some target.connectionId ∨
      store.order.connectionRevision ≠ target.revision ∨ store.order.serverName ≠ serverName ∨
      store.order.quoteFingerprintSha256 ≠ target.quote ∨
      store.order.providerResourceId ≠ some target.server ∨
      store.order.status ≠ .createdOff then
    .ok (.flag false, store)
  else
    match store.operation with
    | none => .ok (.flag false, store)
    | some operation =>
      if operation.attemptId ≠ target.attemptId ∨ operation.leased (now 0) = true then
        .ok (.flag false, store)
      else if operation.abandonedAt ≠ none then .ok (.flag true, store)
      else do
        let left ← store.updateOperation (now 2) (now 3) operation
          { operation with abandonedAt := some (now 1), lease := none }
        let next ← left.revokeEnrollment (now 4)
        .ok (.flag true, next)

/-! ## The enrolled guest -/

def CapacityOrder.guestClaimable (order : CapacityOrder) (target : BootTarget) : Bool :=
  order.claimable target && order.providerServerStatus == some .accepted &&
    order.encryptedBootstrapBundle.isSome && order.bootstrapKeyVersion == some 2

def Enrollment.guestClaimable (enrollment : Enrollment) (order : CapacityOrder)
    (target : BootTarget) : Bool :=
  enrollment.attemptId == target.attemptId && enrollment.userId == target.userId &&
    enrollment.connectionId == target.connectionId &&
    enrollment.connectionRevision == target.revision &&
    enrollment.quoteFingerprintSha256 == target.quote &&
    order.idempotencyKey == some enrollment.capacityIdempotencyKey &&
    enrollment.phase == .enrolled && enrollment.providerServerId == some target.server &&
    enrollment.encryptedToken.isNone &&
    enrollment.identity.any fun pinned => enrollment.windowContains pinned.enrolledAt

def BootOperation.guestClaimable (operation : BootOperation) (target : BootTarget) : Bool :=
  operation.isFor target && operation.abandonedAt.isNone && operation.firewallReceipt.isSome &&
    operation.firewallVerifiedAt.isSome && operation.powerOnPostAttemptedAt.isSome &&
    operation.powerOnAction.any fun action => action.status != .error

def claimHetznerEnrolledGuestOperation (readings : Readings) (target : BootTarget)
    (leaseId : Uuid) (store : BootStore) : Except Raised (BootAnswer × BootStore) :=
  let now := readings.clock store.clock
  if store.hasReadyConnection target.userId target.connectionId target.revision = false ∨
      store.order.guestClaimable target = false then
    .ok (.rejected, store)
  else
    match store.enrollment, store.operation with
    | some enrollment, some operation =>
      if enrollment.guestClaimable store.order target = false ∨
          operation.guestClaimable target = false then
        .ok (.rejected, store)
      else if operation.leased (now 1) = true then .ok (.busy, store)
      else do
        let claimed : BootOperation :=
          { operation with
            lease := some { id := leaseId, expiresAt := now 2 + 2 * oneMinute } }
        let next ← store.updateOperation (now 3) (now 4) operation claimed
        .ok (.claimed claimed, next)
    | _, _ => .ok (.rejected, store)

/-! ## Changes of the order and of the connection -/

def BootOperation.retains (operation : BootOperation) (now : Int) : Bool :=
  operation.abandonedAt.isNone &&
    (operation.leased now || operation.firewallPostAttemptedAt.isSome)

def OrderStatus.cleaned : OrderStatus → Bool
  | .cleaning => true
  | .deleted => true
  | .cleanupAbandoned => true
  | _ => false

def CapacityOrder.withObservation (order other : CapacityOrder) : CapacityOrder :=
  { order with
    providerObservedAt := other.providerObservedAt
    observedServerStatus := other.observedServerStatus
    lastErrorCode := other.lastErrorCode }

def CapacityOrder.publishesShape (old new : CapacityOrder) : Bool :=
  old.status == .createdOff && new.status == .createdOff && new.currentServerShape.isSome &&
    new.currentServerShapeFingerprintSha256.isSome &&
    (old.currentServerShape != new.currentServerShape ||
      old.currentServerShapeFingerprintSha256 != new.currentServerShapeFingerprintSha256) &&
    { new with
      currentServerShape := old.currentServerShape
      currentServerShapeFingerprintSha256 := old.currentServerShapeFingerprintSha256 } == old

/-- `guard_first_boot_operation_order` of an update. -/
def guardFirstBootOperationOrder (old new : CapacityOrder) (operation : Option BootOperation)
    (now : Nat → Int) : Except Raised Unit :=
  match operation with
  | none =>
    refuseIf (new.cleanupFirewallReceipt ≠ none) objectNotInState "No owned first-boot firewall"
  | some operation =>
    if new.status.cleaned = true then do
      refuseIf (operation.leased (now 0) = true) objectNotInState
        "First-boot setup is still leased"
      refuseIf
        (operation.firewallPostAttemptedAt ≠ none ∧
          (operation.firewallReceipt = none ∨
            new.cleanupFirewallReceipt ≠ operation.firewallReceipt))
        objectNotInState "First-boot firewall requires complete resource cleanup"
      refuseIf
        (operation.firewallPostAttemptedAt = none ∧ new.cleanupFirewallReceipt ≠ none)
        objectNotInState "No owned first-boot firewall"
      refuseIf
        (old.status = .createdOff ∧
          (new.status ≠ .cleaning ∨
            (new.cleanupLease.all fun lease => !lease.live (now 1)) = true))
        objectNotInState "First-boot cleanup requires an owned lease"
    else if operation.leased (now 0) = false ∧ old.publishesShape new = true then .ok ()
    else
      refuseIf
        (operation.retains (now 1) = true ∧ new.withObservation old ≠ old)
        objectNotInState "First-boot setup owns the capacity order"

def CapacityOrder.sameKey (order other : CapacityOrder) : Bool :=
  order.id == other.id && order.userId == other.userId &&
    order.connectionId == other.connectionId &&
    order.connectionRevision == other.connectionRevision &&
    order.quoteFingerprintSha256 == other.quoteFingerprintSha256

/-- The condition of `revoke_first_boot_on_order_change`. -/
def CapacityOrder.revokesBoot (order : CapacityOrder) : Bool :=
  (order.status != .creating && order.status != .createdOff) ||
    order.activeConnectionId.isNone || order.encryptedBootstrapBundle.isNone

def BootStore.withOrder (store : BootStore) (order : CapacityOrder) : BootStore :=
  { store with order }

def BootStore.updateOrder (store : BootStore) (now : Nat → Int) (new : CapacityOrder) :
    Except Raised BootStore := do
  refuseIf (store.enrollment ≠ none ∧ store.order.sameKey new = false) foreignKeyViolation
    "update violates foreign key constraint"
  guardFirstBootOperationOrder store.order new store.operation now
  if new.revokesBoot = true then (store.withOrder new).revokeEnrollment (now 2)
  else .ok (store.withOrder new)

/-- `first_boot_retains_connection`. -/
def BootStore.retainsConnection (store : BootStore) (connectionId : Uuid) (now : Int) : Bool :=
  store.operation.any fun operation =>
    operation.connectionId == connectionId && operation.retains now &&
      store.order.status != .deleted && store.order.status != .cleanupAbandoned

def BootStore.revokeByConnection (store : BootStore) (connectionId : Uuid) (now : Int) :
    Except Raised BootStore :=
  if (store.enrollment.any fun record => record.connectionId == connectionId) = true then
    store.revokeEnrollment now
  else .ok store

/-- `revoke_first_boot_on_connection_change` of an update. -/
def BootStore.revokeByChange (store : BootStore) (connectionId : Uuid) (now : Int)
    (old new : Connection) : Except Raised BootStore :=
  if new.userId ≠ old.userId ∨ new.provider ≠ old.provider ∨ new.revision ≠ old.revision then
    store.revokeByConnection connectionId now
  else .ok store

def Connection.updated (old new : Connection) : Connection := { new with id := old.id }

def Connection.unchecked (old new : Connection) : Connection :=
  { old.updated new with status := old.status }

def BootStore.writeConnection (store : BootStore) (now : Nat → Int) (connectionId : Uuid)
    (new : Option Connection) : Except Raised BootStore :=
  match store.connections.find? (fun connection => connection.id == connectionId), new with
  | none, none => .ok store
  | none, some connection =>
    match store.connections.insert connection with
    | none => raise "23505" "duplicate key value violates unique constraint"
    | some connections => .ok { store with connections }
  | some _, none =>
    if store.retainsConnection connectionId (now 0) = true then
      raise objectNotInState
        "Finish or explicitly abandon first-boot setup before disconnecting"
    else do
      let revoked ← store.revokeByConnection connectionId (now 1)
      .ok
        { revoked with
          connections :=
            revoked.connections.delete fun connection => connection.id == connectionId }
  | some old, some connection =>
    if store.retainsConnection connectionId (now 0) = true ∧
        old.unchecked connection ≠ old then
      raise objectNotInState
        "Finish or explicitly abandon first-boot setup before disconnecting"
    else do
      let revoked ← store.revokeByChange connectionId (now 1) old connection
      .ok
        { revoked with
          connections :=
            revoked.connections.rewrite (fun row => row.id == connectionId)
              (fun row => row.updated connection) (fun _ => rfl) }

/-- The secret of a connection is changed or deleted; `swapped` says that a token of the
same project takes its place. -/
def BootStore.writeSecret (store : BootStore) (now : Nat → Int) (connectionId : Uuid)
    (swapped : Bool) : Except Raised BootStore :=
  if swapped = true then
    if (store.operation.any fun operation =>
        operation.connectionId == connectionId && operation.abandonedAt.isNone &&
          operation.leased (now 0)) = true then
      raise objectNotInState "First-boot setup retains provider access"
    else .ok store
  else if store.retainsConnection connectionId (now 0) = true then
    raise objectNotInState "First-boot setup retains provider access"
  else store.revokeByConnection connectionId (now 1)

end Hivra.HetznerOrders
