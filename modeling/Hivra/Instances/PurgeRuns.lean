import Hivra.Library.Typestates
import Hivra.StripeSubscriptions.BillingScripts

/-!
# Purging an instance

A cron destroys the instances whose deletion is due: it claims the row by stamping `deleted_at`,
asks whether the owner pays, and destroys or hands the row back.  A payment restores a scheduled
row, a lapse schedules one.  Every database statement is one request, on one row.  Times are
milliseconds; the audit trail, and what happens at the providers besides the teardown, are left
out.
-/

namespace Hivra.Instances

open Hivra.Library
open Hivra.StripeSubscriptions (InstanceStatus EntitlementReason paymentGrace)

/-- `hermes_instances_lifecycle_state_check` -/
inductive LifecycleState
  | pending
  | provisioning
  | active
  | paused
  | suspended
  | deleting
  | deleted
  | failed
  | archiving
  | coldArchived
  | restoring
  | pendingDeletion
  deriving DecidableEq

structure InstanceRow where
  userId : String
  status : InstanceStatus
  lifecycleState : LifecycleState
  entitlementReason : Option EntitlementReason
  scheduledDeletionAt : Option Int
  deletedAt : Option Int
  proxmoxVmid : Option Nat
  hetznerServerId : Option Nat

def selfHostUserId : String := "hivra-local-operator"

/-- `CLERK_USER_ID_PATTERN` -/
def isClerkUserId (userId : String) : Bool :=
  "user_".toList.isPrefixOf userId.toList && decide (5 < userId.length) &&
    (userId.toList.drop 5).all Char.isAlphanum

def isPlatformAccountId (localAuthMode : Bool) (userId : String) : Bool :=
  isClerkUserId userId || localAuthMode && userId == selfHostUserId

namespace InstanceRow

def isDue (row : InstanceRow) (now : Int) : Bool :=
  row.status == .scheduledForDeletion &&
    row.scheduledDeletionAt.any fun deadline => decide (deadline ≤ now)

def isStranded (row : InstanceRow) : Bool :=
  row.status == .deleted && row.lifecycleState != .deleted &&
    (row.proxmoxVmid.isSome || row.hetznerServerId.isSome)

/-- The filters of `claimPurgeCandidate`. -/
def matchesClaim (row selected : InstanceRow) (dueBefore : Int) : Bool :=
  row.status == selected.status && row.lifecycleState == selected.lifecycleState &&
    row.deletedAt == selected.deletedAt &&
      (selected.status != .scheduledForDeletion ||
        row.scheduledDeletionAt.any fun deadline => decide (deadline ≤ dueBefore))

/-- The filters of `restoreScheduledDeletions` and of its write. -/
def isRestorable (row : InstanceRow) : Bool :=
  row.status == .scheduledForDeletion && row.deletedAt.isNone

def isResumable (row : InstanceRow) : Bool :=
  row.lifecycleState == .suspended && row.entitlementReason.any EntitlementReason.billing &&
    row.deletedAt.isNone

def isSchedulable (row : InstanceRow) : Bool :=
  row.status != .deleted && row.status != .scheduledForDeletion

def isSuspendable (row : InstanceRow) : Bool :=
  row.lifecycleState != .suspended && row.lifecycleState != .deleted &&
    row.lifecycleState != .deleting && row.status != .deleted &&
      row.status != .scheduledForDeletion && row.deletedAt.isNone

def isStale (row : InstanceRow) : Bool :=
  row.lifecycleState == .suspended && row.scheduledDeletionAt.isNone

def claimed (row : InstanceRow) (claimedAt : Int) : InstanceRow :=
  { row with deletedAt := some claimedAt }

def released (row selected : InstanceRow) : InstanceRow :=
  { row with deletedAt := selected.deletedAt }

def handedOff (row : InstanceRow) : InstanceRow :=
  { row with
    status := .stopped
    lifecycleState := .pendingDeletion }

def markedDeleted (row : InstanceRow) (deletedAt : Int) : InstanceRow :=
  { row with
    status := .deleted
    lifecycleState := .deleted
    proxmoxVmid := none
    scheduledDeletionAt := none
    deletedAt := some deletedAt }

def restored (row : InstanceRow) : InstanceRow :=
  { row with
    status := .running
    scheduledDeletionAt := none }

def resumed (row : InstanceRow) : InstanceRow :=
  { row with
    status := .running
    lifecycleState := .active
    entitlementReason := some .subscriptionReactivated
    scheduledDeletionAt := none }

def scheduled (row : InstanceRow) (deadline : Int) : InstanceRow :=
  { row with
    status := .scheduledForDeletion
    scheduledDeletionAt := some deadline }

def suspended (row : InstanceRow) (reason : EntitlementReason) : InstanceRow :=
  { row with
    status := .stopped
    lifecycleState := .suspended
    entitlementReason := some reason }

end InstanceRow

inductive PurgeCall
  | readClock
  | selectExpired (now : Int)
  | selectStranded
  /-- Whether the owner's row in `hermes_subscriptions` gives plan access. -/
  | readPlanAccess
  | handOff
  | claim (selected : InstanceRow) (dueBefore claimedAt : Int)
  | insertArchive (selected : InstanceRow)
  /-- `ownerPaysNow` -/
  | ownerPaysNow
  | release (selected : InstanceRow) (claimedAt : Int)
  | teardown
  | markDeleted (deletedAt : Int)
  | selectRestorable
  | restore
  | resume
  | selectSchedulable
  | schedule (deadline : Int)
  | selectStale
  | scheduleStale (deadline : Int)
  | suspend (reason : EntitlementReason)

/-- An outer `none` and a `false` are errors, the inner option or Boolean says whether the
statement found the row. -/
@[reducible]
def PurgeCall.Reply : PurgeCall → Type
  | .readClock => Int
  | .selectExpired _ => Option (Option InstanceRow)
  | .selectStranded => Option (Option InstanceRow)
  | .readPlanAccess => Option Bool
  | .handOff => Bool
  | .claim _ _ _ => Option Bool
  | .insertArchive _ => Bool
  | .ownerPaysNow => Option Bool
  | .release _ _ => Option Bool
  | .teardown => Bool
  | .markDeleted _ => Bool
  | .selectRestorable => Option Bool
  | .restore => Bool
  | .resume => Bool
  | .selectSchedulable => Option Bool
  | .schedule _ => Bool
  | .selectStale => Option Bool
  | .scheduleStale _ => Bool
  | .suspend _ => Bool

abbrev PurgeScript (Outcome : Type) : Type := Script PurgeCall PurgeCall.Reply String Outcome

/-- `runLifecycleStatusWriteWithRetry`: the second error is logged. -/
def restoreWithRetry : PurgeScript Unit := do
  let written : Bool ← Script.request PurgeCall.restore
  if written = true then pure ()
  else do
    let _ : Bool ← Script.request PurgeCall.restore
    pure ()

def restoreScheduledDeletions : PurgeScript Unit := do
  let pending : Option Bool ← Script.request PurgeCall.selectRestorable
  if pending = some true then restoreWithRetry else pure ()

def resumeBillingSuspendedInstances : PurgeScript Unit := do
  let _ : Bool ← Script.request PurgeCall.resume
  pure ()

def restoreForPayment : PurgeScript Unit := do
  restoreScheduledDeletions
  resumeBillingSuspendedInstances

def scheduleWithRetry (deadline : Int) : PurgeScript Unit := do
  let written : Bool ← Script.request (PurgeCall.schedule deadline)
  if written = true then pure ()
  else do
    let _ : Bool ← Script.request (PurgeCall.schedule deadline)
    pure ()

def scheduleInstancesForDeletion : PurgeScript Unit := do
  let now : Int ← Script.request PurgeCall.readClock
  let found : Option Bool ← Script.request PurgeCall.selectSchedulable
  if found = some true then scheduleWithRetry (now + paymentGrace) else pure ()

def suspendInstancesForBilling (reason : EntitlementReason) : PurgeScript Unit := do
  let _ : Bool ← Script.request (PurgeCall.suspend reason)
  pure ()

def dayMs : Int := 24 * 60 * 60 * 1000

/-- `runStaleSuspendedSweep`; the warning is out before the row is scheduled. -/
def staleSuspendedSweep (graceDays : Nat) : PurgeScript Unit := do
  let found : Option Bool ← Script.request PurgeCall.selectStale
  if found = some true then do
    let now : Int ← Script.request PurgeCall.readClock
    let _ : Bool ← Script.request (PurgeCall.scheduleStale (now + graceDays * dayMs))
    pure ()
  else pure ()

/-- An entry of `results`. -/
inductive PurgeResult
  | purged
  | skipped (error : String)
  | failed

def restoreReleased (released : Option Bool) : PurgeScript Unit :=
  if released = some true then restoreForPayment else pure ()

def handBack (selected : InstanceRow) (claimedAt : Int) (pays : Option Bool) :
    PurgeScript PurgeResult := do
  let released : Option Bool ← Script.request (PurgeCall.release selected claimedAt)
  if pays = some true then do
    restoreReleased released
    pure (.skipped "skipped: owner pays now")
  else pure (.skipped "skipped: subscription lookup failed")

def tearDown (selected : InstanceRow) : PurgeScript PurgeResult := do
  let gone : Bool ← Script.request PurgeCall.teardown
  if gone = true then do
    let deletedAt : Int ← Script.request PurgeCall.readClock
    let marked : Bool ← Script.request (PurgeCall.markDeleted deletedAt)
    if marked = true then
      if selected.status = .scheduledForDeletion then do
        let _ : Option Bool ← Script.request PurgeCall.ownerPaysNow
        pure .purged
      else pure .purged
    else throw "Failed to mark instance deleted after teardown"
  else throw "teardown failed"

def destroy (selected : InstanceRow) (claimedAt : Int) : PurgeScript PurgeResult :=
  (tearDown selected).handle fun _ => do
    let _ : Option Bool ← Script.request (PurgeCall.release selected claimedAt)
    pure .failed

def purgeClaimed (selected : InstanceRow) (claimedAt : Int) : PurgeScript PurgeResult := do
  let _ : Bool ← Script.request (PurgeCall.insertArchive selected)
  if selected.status = .scheduledForDeletion then do
    let pays : Option Bool ← Script.request PurgeCall.ownerPaysNow
    if pays = some false then destroy selected claimedAt else handBack selected claimedAt pays
  else destroy selected claimedAt

def claimAndPurge (selected : InstanceRow) (now : Int) : PurgeScript PurgeResult := do
  let claimedAt : Int ← Script.request PurgeCall.readClock
  let claimed : Option Bool ← Script.request (PurgeCall.claim selected now claimedAt)
  match claimed with
  | none => pure .failed
  | some false => pure (.skipped "skipped: instance changed after selection")
  | some true => purgeClaimed selected claimedAt

/-- The body of the loop; `access` is the allow-list, which is read for stranded rows. -/
def purgeCandidate (localAuthMode : Bool) (now : Int) (access : Option Bool)
    (selected : InstanceRow) : PurgeScript PurgeResult :=
  if isPlatformAccountId localAuthMode selected.userId = false then
    pure (.skipped "skipped: owner is not a known account")
  else if selected.status = .deleted ∧ access = none then
    pure (.skipped "skipped: subscription allow-list lookup failed (fail-closed)")
  else if selected.status = .deleted ∧ access = some true then
    pure (.skipped "skipped: owner has active subscription")
  else if selected.lifecycleState = .coldArchived then do
    let handed : Bool ← Script.request PurgeCall.handOff
    pure (if handed = true then .purged else .failed)
  else claimAndPurge selected now

def purgeFound (localAuthMode : Bool) (now : Int) (selected : InstanceRow) :
    PurgeScript PurgeResult :=
  if selected.status = .deleted then do
    let access : Option Bool ← Script.request PurgeCall.readPlanAccess
    purgeCandidate localAuthMode now access selected
  else purgeCandidate localAuthMode now none selected

/-- `GET`; a row found twice is the one found last. -/
def purgeExpired (localAuthMode : Bool) : PurgeScript (Option PurgeResult) := do
  let now : Int ← Script.request PurgeCall.readClock
  let expired : Option (Option InstanceRow) ← Script.request (PurgeCall.selectExpired now)
  let stranded : Option (Option InstanceRow) ← Script.request PurgeCall.selectStranded
  match expired, stranded with
  | some expired, some stranded =>
    match stranded.or expired with
    | none => pure none
    | some selected => do
      let result ← purgeFound localAuthMode now selected
      pure (some result)
  | _, _ => throw "Failed to query instances"

inductive PurgeJob
  | purgeExpired (localAuthMode : Bool)
  | restoreForPayment
  | scheduleInstancesForDeletion
  | suspendInstancesForBilling (reason : EntitlementReason)
  | staleSuspendedSweep (graceDays : Nat)

def PurgeJob.script : PurgeJob → PurgeScript Unit
  | .purgeExpired localAuthMode => do
    let _ ← Hivra.Instances.purgeExpired localAuthMode
    pure ()
  | .restoreForPayment => Hivra.Instances.restoreForPayment
  | .scheduleInstancesForDeletion => Hivra.Instances.scheduleInstancesForDeletion
  | .suspendInstancesForBilling reason => Hivra.Instances.suspendInstancesForBilling reason
  | .staleSuspendedSweep graceDays => Hivra.Instances.staleSuspendedSweep graceDays

structure PurgeProgress where
  /-- The row as the run selected it, and the time it had to be due by. -/
  selected : Option InstanceRow
  dueBefore : Int
  /-- The row was restored after the run selected it and before it claimed it. -/
  restored : Bool
  /-- The row as the claim found it. -/
  matched : Option InstanceRow
  /-- What the run read of the owner after its claim, the first time. -/
  pays : Option Bool
  destroyed : Bool
  /-- One of its statements failed. -/
  failed : Bool
  released : Bool
  /-- The row was restored after the run released it. -/
  handedBack : Bool

namespace PurgeProgress

def initial : PurgeProgress :=
  { selected := none
    dueBefore := 0
    restored := false
    matched := none
    pays := none
    destroyed := false
    failed := false
    released := false
    handedBack := false }

def picks (held : PurgeProgress) (row : InstanceRow) (dueBefore : Int) : PurgeProgress :=
  { held with
    selected := some row
    dueBefore
    restored := false }

def claims (held : PurgeProgress) (row : InstanceRow) : PurgeProgress :=
  { held with matched := some row }

def asks (held : PurgeProgress) (pays : Bool) : PurgeProgress :=
  if held.matched.isSome && held.pays.isNone then { held with pays := some pays } else held

def destroys (held : PurgeProgress) : PurgeProgress := { held with destroyed := true }

def fails (held : PurgeProgress) : PurgeProgress := { held with failed := true }

def releases (held : PurgeProgress) : PurgeProgress := { held with released := true }

def broughtBack (held : PurgeProgress) : PurgeProgress :=
  { held with
    restored := held.restored || held.matched.isNone
    handedBack := held.handedBack || held.released }

end PurgeProgress

structure PurgeStore where
  row : InstanceRow
  clock : Int
  /-- The owner's effective subscription is not Free. -/
  entitled : Bool
  planAccess : Bool
  progress : Nat → PurgeProgress

/-- What goes wrong with a request, and whether the stale-suspended sweep would take the row by
its provider, its age, its entitlement and its owner's address. -/
structure PurgeTurn where
  fails : Bool
  eligible : Bool

namespace PurgeStore

def note (store : PurgeStore) (number : Nat) (noted : PurgeProgress → PurgeProgress) : PurgeStore :=
  { store with
    progress := fun other =>
      if other = number then noted (store.progress number) else store.progress other }

def write (store : PurgeStore) (row : InstanceRow) : PurgeStore := { store with row }

def bringBack (store : PurgeStore) (row : InstanceRow) : PurgeStore :=
  { store with
    row
    progress := fun number => (store.progress number).broughtBack }

def fail (store : PurgeStore) (number : Nat) : PurgeStore :=
  store.note number PurgeProgress.fails

def writeWhere (store : PurgeStore) (found : Bool) (row : InstanceRow) : PurgeStore :=
  if found then store.write row else store

end PurgeStore

def answerPurge (number : Nat) (call : PurgeCall) (eligible : Bool) (store : PurgeStore) :
    PurgeStore × call.Reply :=
  match call with
  | .readClock => (store, store.clock)
  | .selectExpired now =>
    if store.row.isDue now then
      (store.note number fun held => held.picks store.row now, some (some store.row))
    else (store, some none)
  | .selectStranded =>
    (store, some (if store.row.isStranded then some store.row else none))
  | .readPlanAccess => (store, some store.planAccess)
  | .handOff =>
    (store.writeWhere (store.row.lifecycleState == .coldArchived) store.row.handedOff, true)
  | .claim selected dueBefore claimedAt =>
    if store.row.matchesClaim selected dueBefore then
      ((store.note number fun held => held.claims store.row).write (store.row.claimed claimedAt),
        some true)
    else (store, some false)
  | .insertArchive _ => (store, true)
  | .ownerPaysNow =>
    (store.note number fun held => held.asks store.entitled, some store.entitled)
  | .release selected claimedAt =>
    if store.row.deletedAt = some claimedAt then
      ((store.note number PurgeProgress.releases).write (store.row.released selected), some true)
    else (store, some false)
  | .teardown => (store.note number PurgeProgress.destroys, true)
  | .markDeleted deletedAt => (store.write (store.row.markedDeleted deletedAt), true)
  | .selectRestorable => (store, some store.row.isRestorable)
  | .restore =>
    (if store.row.isRestorable then store.bringBack store.row.restored else store, true)
  | .resume =>
    (if store.row.isResumable then store.bringBack store.row.resumed else store, true)
  | .selectSchedulable => (store, some store.row.isSchedulable)
  | .schedule deadline => (store.write (store.row.scheduled deadline), true)
  | .selectStale => (store, some (eligible && store.row.isStale && store.row.deletedAt.isNone))
  | .scheduleStale deadline =>
    (store.writeWhere store.row.isStale (store.row.scheduled deadline), true)
  | .suspend reason =>
    (store.writeWhere store.row.isSuspendable (store.row.suspended reason), true)

def failPurge (number : Nat) (call : PurgeCall) (store : PurgeStore) : PurgeStore × call.Reply :=
  match call with
  | .readClock => (store, store.clock)
  | .selectExpired _ => (store.fail number, none)
  | .selectStranded => (store.fail number, none)
  | .readPlanAccess => (store.fail number, none)
  | .handOff => (store.fail number, false)
  | .claim _ _ _ => (store.fail number, none)
  | .insertArchive _ => (store.fail number, false)
  | .ownerPaysNow => (store.fail number, none)
  | .release _ _ => (store.fail number, none)
  | .teardown => ((store.fail number).note number PurgeProgress.destroys, false)
  | .markDeleted _ => (store.fail number, false)
  | .selectRestorable => (store.fail number, none)
  | .restore => (store.fail number, false)
  | .resume => (store.fail number, false)
  | .selectSchedulable => (store.fail number, none)
  | .schedule _ => (store.fail number, false)
  | .selectStale => (store.fail number, none)
  | .scheduleStale _ => (store.fail number, false)
  | .suspend _ => (store.fail number, false)

def performPurge (number : Nat) (call : PurgeCall) (turn : PurgeTurn) (store : PurgeStore) :
    PurgeStore × call.Reply :=
  if turn.fails then failPurge number call store
  else answerPurge number call turn.eligible store

inductive PurgeChange
  | tick (elapsed : Nat)
  | entitle (entitled : Bool)
  | access (planAccess : Bool)

def PurgeStore.change (change : PurgeChange) (store : PurgeStore) : PurgeStore :=
  match change with
  | .tick elapsed => { store with clock := store.clock + elapsed }
  | .entitle entitled => { store with entitled }
  | .access planAccess => { store with planAccess }

def purgeSystem :
    System PurgeJob PurgeCall PurgeCall.Reply String Unit PurgeStore PurgeTurn PurgeChange :=
  { program := PurgeJob.script
    perform := performPurge
    change := PurgeStore.change }

end Hivra.Instances
