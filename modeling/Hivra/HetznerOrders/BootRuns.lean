import Hivra.HetznerOrders.BootFunctions

/-!
# What a call does to a first boot

A call writes the enrollment and the operation in a few ways, each of them past the guards
and the checks: `Written` lists them.  From there it is a matter of the rows: what they keep,
and what holds of them in every state that calls reach.
-/

namespace Hivra.HetznerOrders

open Hivra.Library
open Hivra.AgentNetwork (Uuid Raised refuse_if_ok bind_ok raise_ne_ok)

inductive BootCall
  | stage (request : StageRequest)
  | arm (request : ArmRequest)
  | consume (request : ConsumeRequest)
  | claim (target : BootTarget) (leaseId : Uuid)
  | checkpoint (request : CheckpointRequest)
  | release (target : BootTarget) (leaseId : Uuid)
  | abandon (target : BootTarget) (serverName confirmation : String)
  | claimGuest (target : BootTarget) (leaseId : Uuid)
  | writeOrder (new : CapacityOrder)
  | writeConnection (connectionId : Uuid) (new : Option Connection)
  | writeSecret (connectionId : Uuid) (swapped : Bool)

structure BootEvent where
  readings : Readings
  call : BootCall

def written (result : Except Raised BootStore) : Except Raised (BootAnswer × BootStore) :=
  result.map fun store => (.written, store)

def BootEvent.perform (event : BootEvent) (store : BootStore) :
    Except Raised (BootAnswer × BootStore) :=
  match event.call with
  | .stage request => stageHetznerFirstBoot event.readings request store
  | .arm request => armHetznerFirstBoot event.readings request store
  | .consume request => consumeHetznerFirstBoot event.readings request store
  | .claim target leaseId => claimHetznerFirstBootOperation event.readings target leaseId store
  | .checkpoint request => checkpointHetznerFirstBootOperation event.readings request store
  | .release target leaseId =>
    releaseHetznerFirstBootOperation event.readings target leaseId store
  | .abandon target serverName confirmation =>
    abandonHetznerFirstBootOperation event.readings target serverName confirmation store
  | .claimGuest target leaseId =>
    claimHetznerEnrolledGuestOperation event.readings target leaseId store
  | .writeOrder new => written (store.updateOrder (event.readings.clock store.clock) new)
  | .writeConnection connectionId new =>
    written (store.writeConnection (event.readings.clock store.clock) connectionId new)
  | .writeSecret connectionId swapped =>
    written (store.writeSecret (event.readings.clock store.clock) connectionId swapped)

def BootEvent.result (event : BootEvent) (store : BootStore) :
    Except Raised (BootAnswer × BootStore) :=
  commit (event.perform store)

def BootEvent.finish (event : BootEvent) (store : BootStore) : Int :=
  event.readings.clock store.clock 8

def BootStore.step (store : BootStore) (event : BootEvent) : BootStore :=
  match event.result store with
  | .ok (_, next) => { next with clock := event.finish store }
  | .error _ => { store with clock := event.finish store }

def BootStore.after (store : BootStore) (history : List BootEvent) : BootStore :=
  history.foldl BootStore.step store

def BootStore.unbooted (connections : Table Connection.entries) (order : CapacityOrder)
    (clock : Int) : BootStore :=
  { connections, order, enrollment := none, operation := none, clock }

def Allows (store : BootStore) (event : BootEvent) (checkpoint : BootCheckpoint) : Prop :=
  ∃ request next, event.call = .checkpoint request ∧ request.checkpoint = checkpoint ∧
    event.result store = .ok (.flag true, next)

def BootCall.claims : BootCall → Bool
  | .claim _ _ => true
  | .claimGuest _ _ => true
  | _ => false

def Grants (store : BootStore) (event : BootEvent) (lease : Lease) : Prop :=
  event.call.claims = true ∧
    ∃ operation next, event.result store = .ok (.claimed operation, next) ∧
      operation.lease = some lease

def Releases (store : BootStore) (event : BootEvent) (leaseId : Uuid) : Prop :=
  ∃ target next, event.call = .release target leaseId ∧
    event.result store = .ok (.flag true, next)

structure EnrollmentUpdate (store : BootStore) (old new : Enrollment) : Prop where
  checks : new.checks = true
  frozen : old.unwritten new = old
  phase : new.phase = old.phase ∨ old.phase.mayBecome new.phase = true
  armed : new.armed = old.armed ∨
    (old.armed = none ∧ old.phase = .awaitingIdentity ∧ new.phase = .awaitingIdentity)

variable {store next : BootStore} {old new : Enrollment} {first second third : BootOperation}

theorem update_enrollment_ok {marked : Bool} {now : Int}
    (updated : store.updateEnrollment marked now old new = .ok next) :
    next = { store with enrollment := some new } ∧ EnrollmentUpdate store old new := by
  unfold BootStore.updateEnrollment at updated
  have ⟨_, guarded, afterGuard⟩ := bind_ok updated
  have ⟨_, _, afterRevocation⟩ := bind_ok afterGuard
  have ⟨_, checked, isNext⟩ := bind_ok afterRevocation
  cases isNext
  unfold guardFirstBootEnrollment at guarded
  have ⟨_, _, rest⟩ := bind_ok guarded
  have ⟨_, transition, rest⟩ := bind_ok rest
  have ⟨_, _, rest⟩ := bind_ok rest
  have ⟨_, window, frozen⟩ := bind_ok rest
  have moves := refuse_if_ok transition
  have opens := refuse_if_ok window
  have unwritten := refuse_if_ok frozen
  have passes := refuse_if_ok checked
  refine ⟨rfl, ?_⟩
  constructor
  · simpa using passes
  · simpa using unwritten
  · by_cases same : new.phase = old.phase
    · exact .inl same
    · right
      simpa [same] using moves
  · by_cases same : new.armed = old.armed
    · exact .inl same
    · right
      push Not at opens
      have facts := opens same
      exact ⟨facts.1, facts.2.2.2.1, facts.2.2.2.2.1⟩

structure OperationUpdate (store : BootStore) (old new : BootOperation) (early late : Int) :
    Prop where
  checks : new.checks = true
  bound : (new.withLease old).withCheckpoints old = old
  abandoned : old.abandonedAt ≠ none → new = old
  firewallPost : old.firewallPostAttemptedAt ≠ none →
    new.firewallPostAttemptedAt = old.firewallPostAttemptedAt
  powerOnPost : old.powerOnPostAttemptedAt ≠ none →
    new.powerOnPostAttemptedAt = old.powerOnPostAttemptedAt
  leased : new.withLease old ≠ old → old.leased late = true
  arming : new.powerOnPostAttemptedAt ≠ none → old.powerOnPostAttemptedAt = none →
    ∀ enrollment, store.enrollment = some enrollment → enrollment.attemptId = new.attemptId →
      enrollment.recipe = .armAtStart →
      enrollment.armed.map SetupWindow.armedAt = new.powerOnPostAttemptedAt

theorem update_operation_ok {early late : Int} {old new : BootOperation}
    (updated : store.updateOperation early late old new = .ok next) :
    next = { store with operation := some new } ∧ OperationUpdate store old new early late := by
  unfold BootStore.updateOperation at updated
  have ⟨_, arming, afterArming⟩ := bind_ok updated
  have ⟨_, guarded, afterGuard⟩ := bind_ok afterArming
  have ⟨_, checked, isNext⟩ := bind_ok afterGuard
  cases isNext
  unfold guardFirstBootOperation at guarded
  have ⟨_, binding, rest⟩ := bind_ok guarded
  have ⟨_, _, rest⟩ := bind_ok rest
  have ⟨_, _, checkpoint⟩ := bind_ok rest
  have immutable := refuse_if_ok binding
  have live := refuse_if_ok checkpoint
  have passes := refuse_if_ok checked
  have opens := refuse_if_ok arming
  push Not at immutable live
  refine ⟨rfl, ?_⟩
  constructor
  · simpa using passes
  · exact immutable.1
  · exact immutable.2.1
  · exact immutable.2.2.1
  · exact immutable.2.2.2.2.1
  · intro differs
    simpa using (live differs).1
  · intro powered unpowered enrollment found sameAttempt current
    push Not at opens
    have opened := opens powered unpowered
    simpa [found, sameAttempt, current] using opened

structure Enrollment.Follows (old new : Enrollment) : Prop where
  attempt : new.attemptId = old.attemptId
  order : new.orderId = old.orderId
  user : new.userId = old.userId
  connection : new.connectionId = old.connectionId
  revision : new.connectionRevision = old.connectionRevision
  quote : new.quoteFingerprintSha256 = old.quoteFingerprintSha256
  recipe : new.recipe = old.recipe
  issued : new.issuedAt = old.issuedAt
  expires : new.expiresAt = old.expiresAt
  armed : ∀ window, old.armed = some window → new.armed = some window
  identity : ∀ pinned, old.identity = some pinned → new.identity = some pinned

theorem Enrollment.follows_refl (enrollment : Enrollment) : enrollment.Follows enrollment := by
  constructor <;> simp

theorem Enrollment.follows_trans {first second third : Enrollment}
    (early : first.Follows second) (late : second.Follows third) : first.Follows third := by
  constructor
  · exact late.attempt.trans early.attempt
  · exact late.order.trans early.order
  · exact late.user.trans early.user
  · exact late.connection.trans early.connection
  · exact late.revision.trans early.revision
  · exact late.quote.trans early.quote
  · exact late.recipe.trans early.recipe
  · exact late.issued.trans early.issued
  · exact late.expires.trans early.expires
  · intro window opened
    exact late.armed window (early.armed window opened)
  · intro pinned found
    exact late.identity pinned (early.identity pinned found)

theorem unpinned_awaiting {enrollment : Enrollment} (checks : enrollment.checks = true)
    (awaiting : enrollment.phase = .awaitingIdentity) : enrollment.identity = none := by
  simp only [Enrollment.checks, Enrollment.phaseState, awaiting, Bool.and_eq_true,
    Option.isNone_iff_eq_none] at checks
  exact checks.1.2.2

theorem EnrollmentUpdate.follows (update : EnrollmentUpdate store old new)
    (checks : old.checks = true) : old.Follows new := by
  have frozen := update.frozen
  constructor
  · exact (congrArg Enrollment.attemptId frozen :)
  · exact (congrArg Enrollment.orderId frozen :)
  · exact (congrArg Enrollment.userId frozen :)
  · exact (congrArg Enrollment.connectionId frozen :)
  · exact (congrArg Enrollment.connectionRevision frozen :)
  · exact (congrArg Enrollment.quoteFingerprintSha256 frozen :)
  · exact (congrArg Enrollment.recipe frozen :)
  · exact (congrArg Enrollment.issuedAt frozen :)
  · exact (congrArg Enrollment.expiresAt frozen :)
  · intro window opened
    cases update.armed with
    | inl same => rw [same, opened]
    | inr opens =>
      rw [opened] at opens
      cases opens.1
  · intro pinned found
    have identity := congrArg Enrollment.identity frozen
    simp only [Enrollment.unwritten] at identity
    by_cases pins : old.phase = .awaitingIdentity ∧ new.phase = .enrolled
    · have unpinned := unpinned_awaiting checks pins.1
      rw [found] at unpinned
      cases unpinned
    · rw [if_neg pins] at identity
      rw [identity, found]

structure BootOperation.Follows (old new : BootOperation) : Prop where
  bound : (new.withLease old).withCheckpoints old = old
  abandoned : old.abandonedAt ≠ none → new = old
  firewallPost : old.firewallPostAttemptedAt ≠ none →
    new.firewallPostAttemptedAt = old.firewallPostAttemptedAt
  powerOnPost : old.powerOnPostAttemptedAt ≠ none →
    new.powerOnPostAttemptedAt = old.powerOnPostAttemptedAt

theorem BootOperation.follows_refl (operation : BootOperation) : operation.Follows operation := by
  constructor <;> simp [withLease, withCheckpoints]

theorem BootOperation.rebound (early : (second.withLease first).withCheckpoints first = first)
    (late : (third.withLease second).withCheckpoints second = second) :
    (third.withLease first).withCheckpoints first = first := by
  have sameRow : (third.withLease first).withCheckpoints first =
      ((((third.withLease second).withCheckpoints second).withLease first).withCheckpoints
        first) := rfl
  rw [sameRow, late, early]

theorem BootOperation.follows_trans (early : first.Follows second) (late : second.Follows third) :
    first.Follows third := by
  constructor
  · exact BootOperation.rebound early.bound late.bound
  · intro abandoned
    have same := early.abandoned abandoned
    rw [← same] at abandoned
    rw [late.abandoned abandoned, same]
  · intro posted
    have same := early.firewallPost posted
    rw [← same] at posted
    rw [late.firewallPost posted, same]
  · intro posted
    have same := early.powerOnPost posted
    rw [← same] at posted
    rw [late.powerOnPost posted, same]

theorem OperationUpdate.follows {old new : BootOperation} {early late : Int}
    (update : OperationUpdate store old new early late) : old.Follows new :=
  ⟨update.bound, update.abandoned, update.firewallPost, update.powerOnPost⟩

/-- The ways a call writes the two rows.  A lease it takes away has expired by `bound`, or
is `released`. -/
inductive Written (bound : Int) (released : Uuid → Prop) : BootStore → BootStore → Prop
  | same {store next : BootStore} (enrollment : next.enrollment = store.enrollment)
      (operation : next.operation = store.operation) : Written bound released store next
  | staged {store : BootStore} {enrollment : Enrollment} (vacant : store.enrollment = none)
      (checks : enrollment.checks = true) (unpinned : enrollment.identity = none)
      (unarmed : enrollment.armed = none) :
      Written bound released store { store with enrollment := some enrollment }
  | claimed {store : BootStore} {operation : BootOperation} {enrollment : Enrollment}
      (vacant : store.operation = none) (found : store.enrollment = some enrollment)
      (references : operation.references enrollment = true) (checks : operation.checks = true)
      (unpowered : operation.powerOnPostAttemptedAt = none) :
      Written bound released store { store with operation := some operation }
  | enrollment {store : BootStore} {old new : Enrollment} (found : store.enrollment = some old)
      (update : EnrollmentUpdate store old new)
      (pins : ∀ pinned, new.identity = some pinned → old.identity = some pinned ∨
        old.windowContains pinned.enrolledAt = true) :
      Written bound released store { store with enrollment := some new }
  | operation {store : BootStore} {old new : BootOperation} {early late : Int}
      (found : store.operation = some old) (update : OperationUpdate store old new early late)
      (keeps : new.lease = old.lease ∨ ∀ lease, old.lease = some lease →
        lease.expiresAt ≤ bound ∨ released lease.id) :
      Written bound released store { store with operation := some new }
  | trans {first second third : BootStore} (early : Written bound released first second)
      (late : Written bound released second third) : Written bound released first third

theorem written_refl {bound : Int} {released : Uuid → Prop} (store : BootStore) :
    Written bound released store store := .same rfl rfl

end Hivra.HetznerOrders
