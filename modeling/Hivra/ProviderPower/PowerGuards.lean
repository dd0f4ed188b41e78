import Hivra.ProviderPower.PowerTables

/-!
# The two guards

The trigger of the journal and the trigger of the computer's row.  Neither changes
what is written: it lets the row through or raises.
-/

namespace Hivra.ProviderPower

open Hivra.Library
open Hivra.AgentNetwork (Uuid Raised raise refuseIf refuse_if_ok bind_ok raise_ne_ok)
open Hivra.AgentAuthority (AgentStatus DesiredState OperationKind objectInUse)

def refuseIdentity (computer : ProviderComputer) (new : PowerOperation) : Except Raised Unit :=
  refuseIf (new.userId ≠ computer.userId ∨ computer.identity? ≠ some new.identity) objectInUse
    "Provider power identity changed"

/-- `guard_hivra_provider_power_journal` of an insert. -/
def guardPowerInsert (computer : ProviderComputer) (new : PowerOperation) (now : Int) :
    Except Raised Unit := do
  refuseIdentity computer new
  refuseIf
    (computer.operation.isSome = true ∨
      (computer.status ≠ .running ∧ computer.status ≠ .stopped) ∨
      computer.desiredState = .deleted ∨ computer.status ≠ new.kind.startsFrom ∨
      new.originalStatus ≠ computer.status ∨ new.createdAt < now - seconds 5 ∨
      now < new.createdAt ∨ new.dispatchIntentAt.isSome = true ∨
      new.beforeBootId.isSome = true ∨ new.actionReceipt.isSome = true ∨
      new.verifiedAt.isSome = true ∨ new.verifiedStatus.isSome = true ∨
      new.verifiedBootId.isSome = true ∨ new.cancelledAt.isSome = true)
    objectInUse "Reserve original power intent before dispatch"

def PowerOperation.fixed (operation : PowerOperation) :
    Uuid × String × PowerKind × PowerIdentity × AgentStatus × Int :=
  (operation.operationId, operation.userId, operation.kind, operation.identity,
    operation.originalStatus, operation.createdAt)

def refuseDispatch (computer : ProviderComputer) (old new : PowerOperation) (now : Int) :
    Except Raised Unit :=
  match old.dispatchIntentAt, new.dispatchIntentAt with
  | none, some intent =>
    refuseIf
      (old.dispatchNotAfter ≤ now ∨ intent < now - seconds 5 ∨ now < intent ∨
        computer.desiredState = .deleted ∨ old.cancelledAt.isSome = true ∨
        ¬(new.kind = .restart ↔ new.beforeBootId.isSome = true))
      objectInUse "Provider power dispatch window expired"
  | _, _ =>
    refuseIf (new.dispatchIntentAt ≠ old.dispatchIntentAt ∨ new.beforeBootId ≠ old.beforeBootId)
      objectInUse "Do not renew power dispatch authority"

def refuseReceipt (old new : PowerOperation) : Except Raised Unit :=
  refuseIf
    (new.actionReceipt ≠ old.actionReceipt ∧
      (new.dispatchIntentAt.isNone = true ∨ new.cancelledAt.isSome = true ∨
        new.actionReceipt.all (fun action =>
          action.valid new.identity.serverId new.kind) = false ∨
        new.actionReceipt.isNone = true ∨
        old.actionReceipt.any (fun receipt =>
          new.actionReceipt.map ProviderAction.id ≠ some receipt.id ||
            receipt.status != .running) = true))
    objectInUse "Provider power action receipt changed"

def PowerOperation.misses (operation : PowerOperation) : Prop :=
  match operation.kind with
  | .stop => operation.verifiedStatus ≠ some .off ∨ operation.verifiedBootId.isSome = true
  | .start => operation.verifiedStatus ≠ some .running ∨ operation.verifiedBootId = none
  | .restart =>
    operation.verifiedStatus ≠ some .running ∨ operation.verifiedBootId = none ∨
      operation.verifiedBootId = operation.beforeBootId

instance (operation : PowerOperation) : Decidable operation.misses := by
  unfold PowerOperation.misses
  cases operation.kind <;> exact inferInstance

def refuseVerification (old new : PowerOperation) (now : Int) : Except Raised Unit :=
  if (new.verifiedAt, new.verifiedStatus, new.verifiedBootId) =
      (old.verifiedAt, old.verifiedStatus, old.verifiedBootId) then
    .ok ()
  else
    match new.verifiedAt with
    | none => raise objectInUse "Provider power result is not verified"
    | some verifiedAt =>
      refuseIf
        (new.receiptStatus? ≠ some .success ∨ verifiedAt < now - seconds 30 ∨
          now + seconds 5 < verifiedAt ∨
          new.dispatchIntentAt.any (fun intent => verifiedAt < intent - seconds 5) = true ∨
          old.verifiedAt.any (fun earlier => verifiedAt < earlier) = true ∨ new.misses)
        objectInUse "Provider power result is not verified"

def refuseCancellation (old new : PowerOperation) (now : Int) : Except Raised Unit :=
  if new.cancelledAt = old.cancelledAt then .ok ()
  else
    match new.cancelledAt with
    | none =>
      raise objectInUse "A dispatched power request cannot be cancelled as unstarted"
    | some cancelledAt =>
      refuseIf
        (old.cancelledAt.isSome = true ∨ new.dispatchIntentAt.isSome = true ∨
          cancelledAt < now - seconds 5 ∨ now < cancelledAt)
        objectInUse "A dispatched power request cannot be cancelled as unstarted"

/-- `guard_hivra_provider_power_journal` of an update. -/
def guardPowerUpdate (computer : ProviderComputer) (old new : PowerOperation) (now : Int) :
    Except Raised Unit := do
  refuseIdentity computer new
  refuseIf
    (new.fixed ≠ old.fixed ∨ computer.operation.map HeldOperation.id ≠ some old.operationId ∨
      computer.operation.map HeldOperation.kind ≠ some old.kind.operationKind ∨
      computer.status ≠ .provisioning)
    objectInUse "Retain original provider power operation"
  refuseIf (old.cancelledAt.isSome = true ∧ new ≠ old) objectInUse
    "Retain cancelled power evidence"
  refuseDispatch computer old new now
  refuseReceipt old new
  refuseVerification old new now
  refuseCancellation old new now

inductive Release (journal : PowerOperation) (old new : ProviderComputer) (now : Int) : Prop
  | cancelled (cancelled : journal.cancelledAt.isSome = true)
      (undispatched : journal.dispatchIntentAt = none) (status : new.status = journal.originalStatus)
      (desired : new.desiredState =
        if old.desiredState = .deleted then .deleted else desiredOf journal.originalStatus)
  | deleting (wanted : old.desiredState = .deleted) (stays : new.desiredState = .deleted)
      (status : new.status = old.status)
      (finished : journal.receiptStatus? = some .success ∨ journal.receiptStatus? = some .error)
  | failed (status : new.status = .error) (desired : new.desiredState = old.desiredState)
      (receipt : journal.receiptStatus? = some .error)
  | verified (observed : journal.verifiedAt.any (fun verifiedAt =>
      decide (now - seconds 30 ≤ verifiedAt)) = true)
    (receipt : journal.receiptStatus? = some .success) (wanted : old.desiredState ≠ .deleted)
    (status : new.status = journal.kind.status) (desired : new.desiredState = journal.kind.desiredState)

/-- `Release` as the trigger tests it, one `if` after another. -/
def releases (journal : PowerOperation) (old new : ProviderComputer) (now : Int) : Bool :=
  (journal.cancelledAt.isSome && journal.dispatchIntentAt.isNone &&
      new.status == journal.originalStatus &&
      new.desiredState ==
        (if old.desiredState = .deleted then .deleted else desiredOf journal.originalStatus)) ||
    (old.desiredState == .deleted && new.desiredState == .deleted && new.status == old.status &&
      (journal.receiptStatus? == some .success || journal.receiptStatus? == some .error)) ||
    (new.status == .error && new.desiredState == old.desiredState &&
      journal.receiptStatus? == some .error) ||
    (journal.verifiedAt.any (fun verifiedAt => decide (now - seconds 30 ≤ verifiedAt)) &&
      journal.receiptStatus? == some .success && old.desiredState != .deleted &&
      new.status == journal.kind.status && new.desiredState == journal.kind.desiredState)

theorem release_of {journal : PowerOperation} {old new : ProviderComputer} {now : Int}
    (lets : releases journal old new now = true) : Release journal old new now := by
  simp only [releases, Bool.or_eq_true, Bool.and_eq_true, beq_iff_eq, bne_iff_ne,
    Option.isNone_iff_eq_none] at lets
  obtain ((cancelled | deleting) | failed) | verified := lets
  · exact .cancelled cancelled.1.1.1 cancelled.1.1.2 cancelled.1.2 cancelled.2
  · exact .deleting deleting.1.1.1 deleting.1.1.2 deleting.1.2 deleting.2
  · exact .failed failed.1.1 failed.1.2 failed.2
  · exact .verified verified.1.1.1.1 verified.1.1.1.2 verified.1.1.2 verified.1.2 verified.2

/-- `guard_hivra_provider_power_lifecycle`. -/
def guardPowerLifecycle (journal : Table PowerOperation.entries) (old new : ProviderComputer)
    (now : Int) : Except Raised Unit :=
  match old.power? with
  | some (operation, _) =>
    match journal.find? fun row => row.operationId == operation.id with
    | none => raise objectInUse "Provider power journal is required"
    | some row => do
      refuseIf
        (new.cpu ≠ old.cpu ∨ new.ram ≠ old.ram ∨
          (old.desiredState = .deleted ∧ new.desiredState ≠ .deleted))
        objectInUse "Power cannot resize or override deletion"
      if new.operation.isSome = true then
        refuseIf
          (new.operation ≠ old.operation ∨ new.status ≠ old.status ∨
            (new.desiredState ≠ old.desiredState ∧ new.desiredState ≠ .deleted))
          objectInUse "Retain active provider power operation"
      else
        refuseIf (releases row old new now = false) objectInUse
          "Verify actual power result before releasing the operation"
  | none =>
    match new.power? with
    | none => .ok ()
    | some (operation, kind) =>
      match journal.find? fun row => row.operationId == operation.id with
      | none => raise objectInUse "Claim provider power atomically before dispatch"
      | some row =>
        refuseIf
          (row.userId ≠ new.userId ∨ row.kind ≠ kind ∨ row.originalStatus ≠ old.status ∨
            row.createdAt ≠ operation.startedAt ∨ old.operation.isSome = true ∨
            old.desiredState = .deleted ∨ new.status ≠ .provisioning ∨
            operation.payload.isSome = true ∨ row.dispatchIntentAt.isSome = true ∨
            row.cancelledAt.isSome = true ∨ new.desiredState ≠ kind.desiredState)
          objectInUse "Claim provider power atomically before dispatch"

end Hivra.ProviderPower
