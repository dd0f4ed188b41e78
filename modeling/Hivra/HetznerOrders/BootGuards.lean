import Hivra.HetznerOrders.OrderTables

/-!
# Guards of a first boot

The triggers on the enrollment and on the operation, and the updates that pass them and the
checks of the row.  What they raise undoes the call.
-/

namespace Hivra.HetznerOrders

open Hivra.Library
open Hivra.AgentNetwork (Uuid Raised raise refuseIf checkViolation)

structure BootStore where
  connections : Table Connection.entries
  order : CapacityOrder
  enrollment : Option Enrollment
  operation : Option BootOperation
  /-- What the database clock has reached. -/
  clock : Int

def objectNotInState : String := "55006"

def foreignKeyViolation : String := "23503"

/-- The transitions `guard_first_boot_enrollment` knows. -/
def BootPhase.mayBecome : BootPhase → BootPhase → Bool
  | .staged, .awaitingIdentity => true
  | .staged, .revoked => true
  | .staged, .failed => true
  | .awaitingIdentity, .enrolled => true
  | .awaitingIdentity, .revoked => true
  | .awaitingIdentity, .failed => true
  | .enrolled, .revoked => true
  | _, _ => false

def Enrollment.unwritten (old new : Enrollment) : Enrollment :=
  { new with
    phase := old.phase
    encryptedToken := old.encryptedToken
    armed := old.armed
    providerServerId :=
      if old.phase = .staged ∧ new.phase = .awaitingIdentity then old.providerServerId
      else new.providerServerId
    identity :=
      if old.phase = .awaitingIdentity ∧ new.phase = .enrolled then old.identity
      else new.identity }

/-- `guard_first_boot_enrollment`; `marked` is the marker of the power-on checkpoint. -/
def guardFirstBootEnrollment (old new : Enrollment) (marked : Bool)
    (operation : Option BootOperation) : Except Raised Unit := do
  refuseIf ((old.phase = .revoked ∨ old.phase = .failed) ∧ new.phase ≠ old.phase)
    objectNotInState "First-boot authority is terminal"
  refuseIf (new.phase ≠ old.phase ∧ old.phase.mayBecome new.phase = false)
    objectNotInState "Invalid first-boot transition"
  refuseIf
    (new.encryptedToken ≠ old.encryptedToken ∧
      ¬(new.encryptedToken = none ∧ new.phase.closed = true))
    objectNotInState "First-boot secret cannot be replaced"
  refuseIf
    (new.armed ≠ old.armed ∧
      (old.armed ≠ none ∨ new.armed = none ∨ old.recipe ≠ .armAtStart ∨
        old.phase ≠ .awaitingIdentity ∨ new.phase ≠ .awaitingIdentity ∨ marked = false ∨
        (operation.any fun operation => operation.powerOnPostAttemptedAt.isSome) = true))
    objectNotInState "The setup window opens once, only with Hivra's recorded setup power-on"
  refuseIf (old.unwritten new ≠ old)
    objectNotInState "First-boot binding and pinned identity are immutable"

def guardFirstBootOperationRevocation (old new : Enrollment) (operation : Option BootOperation)
    (now : Int) : Except Raised Unit :=
  refuseIf
    ((new.phase = .revoked ∨ new.phase = .failed) ∧ new.phase ≠ old.phase ∧
      (operation.any fun operation =>
        operation.abandonedAt.isNone && operation.leased now) = true)
    objectNotInState "First-boot setup is still leased"

def BootOperation.withCheckpoints (operation other : BootOperation) : BootOperation :=
  { operation with
    firewallPostAttemptedAt := other.firewallPostAttemptedAt
    firewallReceipt := other.firewallReceipt
    firewallVerifiedAt := other.firewallVerifiedAt
    powerOnPostAttemptedAt := other.powerOnPostAttemptedAt
    powerOnAction := other.powerOnAction }

def BootOperation.withLease (operation other : BootOperation) : BootOperation :=
  { operation with lease := other.lease, abandonedAt := other.abandonedAt }

def BootOperation.rewritesAction (old new : BootOperation) : Bool :=
  old.powerOnAction.any fun action =>
    match new.powerOnAction with
    | none => true
    | some later =>
      action.unfinished != later.unfinished || (action.status != .running && later != action)

def BootOperation.unverifies (old new : BootOperation) : Bool :=
  old.firewallVerifiedAt.any fun verifiedAt =>
    new.firewallVerifiedAt.all fun later => decide (later < verifiedAt)

/-- `guard_first_boot_operation`, with its two readings of the clock. -/
def guardFirstBootOperation (old new : BootOperation) (early late : Int) : Except Raised Unit := do
  refuseIf
    ((new.withLease old).withCheckpoints old ≠ old ∨ (old.abandonedAt ≠ none ∧ new ≠ old) ∨
      (old.firewallPostAttemptedAt ≠ none ∧
        new.firewallPostAttemptedAt ≠ old.firewallPostAttemptedAt) ∨
      (old.firewallReceipt ≠ none ∧ new.firewallReceipt ≠ old.firewallReceipt) ∨
      (old.powerOnPostAttemptedAt ≠ none ∧
        new.powerOnPostAttemptedAt ≠ old.powerOnPostAttemptedAt) ∨
      old.unverifies new = true ∨ old.rewritesAction new = true)
    objectNotInState "First-boot mutation binding is immutable"
  refuseIf
    (old.lease.isSome ∧ old.lease.map Lease.id = new.lease.map Lease.id ∧
      new.lease ≠ old.lease)
    objectNotInState "First-boot lease cannot be extended"
  refuseIf
    (old.leased early = true ∧
      ((new.lease.isSome ∧ new.lease.map Lease.id ≠ old.lease.map Lease.id) ∨
        new.abandonedAt ≠ none))
    objectNotInState "First-boot operation is still leased"
  refuseIf
    (new.withLease old ≠ old ∧ (old.leased late = false ∨ old.abandonedAt ≠ none))
    objectNotInState "First-boot checkpoint requires a live lease"

def guardFirstBootPowerOnArming (old : Option BootOperation) (new : BootOperation)
    (enrollment : Option Enrollment) : Except Raised Unit :=
  refuseIf
    (new.powerOnPostAttemptedAt ≠ none ∧
      (old.bind BootOperation.powerOnPostAttemptedAt) = none ∧
      (enrollment.any fun enrollment =>
        enrollment.attemptId == new.attemptId && enrollment.recipe == .armAtStart &&
          enrollment.armed.map SetupWindow.armedAt != new.powerOnPostAttemptedAt) = true)
    objectNotInState "A setup power-on must open the setup window in the same step"

def BootStore.updateEnrollment (store : BootStore) (marked : Bool) (now : Int)
    (old new : Enrollment) : Except Raised BootStore := do
  guardFirstBootEnrollment old new marked store.operation
  guardFirstBootOperationRevocation old new store.operation now
  refuseIf (new.checks = false) checkViolation "new row violates check constraint"
  .ok { store with enrollment := some new }

def BootStore.updateOperation (store : BootStore) (early late : Int)
    (old new : BootOperation) : Except Raised BootStore := do
  guardFirstBootPowerOnArming (some old) new store.enrollment
  guardFirstBootOperation old new early late
  refuseIf (new.checks = false) checkViolation "new row violates check constraint"
  .ok { store with operation := some new }

/-- `assert_first_boot_armed_with_power_on`, as the transaction commits. -/
def BootStore.armedWithPowerOn (store : BootStore) : Bool :=
  store.enrollment.all fun enrollment =>
    enrollment.armed.all fun window =>
      store.operation.any fun operation =>
        operation.attemptId == enrollment.attemptId &&
          operation.powerOnPostAttemptedAt == some window.armedAt

def commit {Answer : Type} (result : Except Raised (Answer × BootStore)) :
    Except Raised (Answer × BootStore) :=
  match result with
  | .ok (answer, store) =>
    if store.armedWithPowerOn = true then .ok (answer, store)
    else
      raise objectNotInState
        "The setup window opens only in the transaction that records the setup power-on"
  | .error raised => .error raised

end Hivra.HetznerOrders
