import Hivra.HetznerOrders.BootSteps
import Hivra.Library.FollowedRows

/-!
# What a run keeps of a first boot

In every state that calls reach, the enrollment and the operation pass their checks, the
operation belongs to the enrollment, a pinned identity was pinned inside its window, and the
window of the current recipe is open from the recorded power-on.  The rows only move forward,
so that a POST that went out, an identity, a window or an abandonment stays.
-/

namespace Hivra.HetznerOrders

open Hivra.Library
open Hivra.AgentNetwork (Uuid Raised refuse_if_ok bind_ok raise_ne_ok)

/-- What every call keeps of the enrollment and its operation. -/
structure BootSound (store : BootStore) : Prop where
  checks : ∀ enrollment, store.enrollment = some enrollment → enrollment.checks = true
  pinned : ∀ enrollment pinned, store.enrollment = some enrollment →
    enrollment.identity = some pinned → enrollment.windowContains pinned.enrolledAt = true
  operations : ∀ operation, store.operation = some operation → operation.checks = true
  references : ∀ operation, store.operation = some operation →
    ∃ enrollment, store.enrollment = some enrollment ∧ operation.references enrollment = true
  powered : ∀ operation enrollment moment, store.operation = some operation →
    store.enrollment = some enrollment → enrollment.recipe = .armAtStart →
    operation.powerOnPostAttemptedAt = some moment →
    enrollment.armed.map SetupWindow.armedAt = some moment

/-- Neither row goes, and each changes as its guard allows. -/
structure Moves (store next : BootStore) : Prop where
  enrollment : ∀ enrollment, store.enrollment = some enrollment →
    ∃ later, next.enrollment = some later ∧ enrollment.Follows later
  operation : ∀ operation, store.operation = some operation →
    ∃ later, next.operation = some later ∧ operation.Follows later

theorem moves_refl (store : BootStore) : Moves store store := by
  constructor
  · intro enrollment found
    exact ⟨enrollment, found, enrollment.follows_refl⟩
  · intro operation found
    exact ⟨operation, found, operation.follows_refl⟩

theorem moves_trans {first second third : BootStore} (early : Moves first second)
    (late : Moves second third) : Moves first third := by
  constructor
  · intro enrollment found
    have ⟨middle, there, moved⟩ := early.enrollment enrollment found
    have ⟨last, lastThere, lastMoved⟩ := late.enrollment middle there
    exact ⟨last, lastThere, Enrollment.follows_trans moved lastMoved⟩
  · intro operation found
    have ⟨middle, there, moved⟩ := early.operation operation found
    have ⟨last, lastThere, lastMoved⟩ := late.operation middle there
    exact ⟨last, lastThere, BootOperation.follows_trans moved lastMoved⟩

variable {old new : Enrollment}

theorem Enrollment.Follows.contains (follows : old.Follows new)
    {moment : Int} (inside : old.windowContains moment = true) :
    new.windowContains moment = true := by
  unfold Enrollment.windowContains at inside ⊢
  rw [follows.recipe]
  cases recipe : old.recipe with
  | legacy =>
    rw [recipe] at inside
    rw [follows.issued, follows.expires]
    exact inside
  | armAtStart =>
    rw [recipe] at inside
    cases armed : old.armed with
    | none => simp [armed] at inside
    | some window =>
      rw [armed] at inside
      rw [follows.armed window armed]
      exact inside

variable {enrollment : Enrollment}

theorem BootOperation.Follows.references {old new : BootOperation} (follows : old.Follows new)
    (references : old.references enrollment = true) :
    new.references enrollment = true := by
  have order : new.orderId = old.orderId := (congrArg BootOperation.orderId follows.bound :)
  have attempt : new.attemptId = old.attemptId := (congrArg BootOperation.attemptId follows.bound :)
  have user : new.userId = old.userId := (congrArg BootOperation.userId follows.bound :)
  have connection : new.connectionId = old.connectionId :=
    (congrArg BootOperation.connectionId follows.bound :)
  have revision : new.connectionRevision = old.connectionRevision :=
    (congrArg BootOperation.connectionRevision follows.bound :)
  have quote : new.quoteFingerprintSha256 = old.quoteFingerprintSha256 :=
    (congrArg BootOperation.quoteFingerprintSha256 follows.bound :)
  simpa [BootOperation.references, order, attempt, user, connection, revision, quote]
    using references

variable {operation : BootOperation}

theorem Enrollment.Follows.referenced (follows : old.Follows new)
    (references : operation.references old = true) :
    operation.references new = true := by
  simpa [BootOperation.references, follows.order, follows.attempt, follows.user,
    follows.connection, follows.revision, follows.quote] using references

theorem referenced_attempt (references : operation.references enrollment = true) :
    enrollment.attemptId = operation.attemptId := by
  simp only [BootOperation.references, Bool.and_eq_true, beq_iff_eq] at references
  exact references.1.1.1.1.2.symm

section Writes

variable {bound : Int} {released : Uuid → Prop} {store next : BootStore}

theorem staged_sound (sound : BootSound store)
    (vacant : store.enrollment = none) (checks : enrollment.checks = true)
    (unpinned : enrollment.identity = none) :
    BootSound { store with enrollment := some enrollment } := by
  have unclaimed : store.operation = none := by
    cases found : store.operation with
    | none => rfl
    | some operation =>
      have ⟨_, there, _⟩ := sound.references operation found
      rw [vacant] at there
      cases there
  constructor
  · intro other found
    cases found
    exact checks
  · intro other pinned found held
    cases found
    rw [unpinned] at held
    cases held
  · exact sound.operations
  · intro operation found
    rw [unclaimed] at found
    cases found
  · intro operation other moment found
    rw [unclaimed] at found
    cases found

theorem claimed_sound (sound : BootSound store) (found : store.enrollment = some enrollment)
    (references : operation.references enrollment = true) (checks : operation.checks = true)
    (unpowered : operation.powerOnPostAttemptedAt = none) :
    BootSound { store with operation := some operation } := by
  constructor
  · exact sound.checks
  · exact sound.pinned
  · intro other there
    cases there
    exact checks
  · intro other there
    cases there
    exact ⟨enrollment, found, references⟩
  · intro other enrolled moment there _ _ powered
    cases there
    rw [unpowered] at powered
    cases powered

theorem enrollment_update_sound (sound : BootSound store)
    (found : store.enrollment = some old) (update : EnrollmentUpdate store old new)
    (pins : ∀ pinned, new.identity = some pinned → old.identity = some pinned ∨
      old.windowContains pinned.enrolledAt = true) :
    BootSound { store with enrollment := some new } := by
  have follows := update.follows (sound.checks old found)
  constructor
  · intro other there
    cases there
    exact update.checks
  · intro other pinned there held
    cases there
    apply follows.contains
    cases pins pinned held with
    | inl before => exact sound.pinned old pinned found before
    | inr inside => exact inside
  · exact sound.operations
  · intro operation there
    have ⟨enrollment, enrolled, references⟩ := sound.references operation there
    rw [found] at enrolled
    cases enrolled
    exact ⟨new, rfl, follows.referenced references⟩
  · intro operation other moment there isNew current powered
    cases isNew
    have opened := sound.powered operation old moment there found
      (follows.recipe.symm.trans current) powered
    cases armed : old.armed with
    | none =>
      rw [armed] at opened
      cases opened
    | some window =>
      rw [armed] at opened
      rw [follows.armed window armed]
      exact opened

theorem operation_update_sound (sound : BootSound store) {old new : BootOperation}
    {early late : Int} (found : store.operation = some old)
    (update : OperationUpdate store old new early late) :
    BootSound { store with operation := some new } := by
  have follows := update.follows
  have ⟨holder, enrolled, references⟩ := sound.references old found
  constructor
  · exact sound.checks
  · exact sound.pinned
  · intro other there
    cases there
    exact update.checks
  · intro other there
    cases there
    exact ⟨holder, enrolled, follows.references references⟩
  · intro other enrollment moment there isHolder current powered
    cases there
    cases before : old.powerOnPostAttemptedAt with
    | none =>
      have attempt := referenced_attempt (follows.references references)
      have isSome : new.powerOnPostAttemptedAt ≠ none := by simp [powered]
      change store.enrollment = some enrollment at isHolder
      have same : enrollment = holder := by
        rw [enrolled] at isHolder
        exact (Option.some.inj isHolder).symm
      rw [← same] at attempt
      rw [update.arming isSome before enrollment isHolder attempt current, powered]
    | some earlierMoment =>
      have kept := update.powerOnPost (by simp [before])
      rw [kept] at powered
      exact sound.powered old enrollment moment found isHolder current powered

section

variable (writes : Written bound released store next)
include writes

theorem written_sound (sound : BootSound store) : BootSound next ∧ Moves store next := by
  induction writes with
  | @same store next enrollment operation =>
    have sameRows : BootSound next := by
      constructor
      · rw [enrollment]
        exact sound.checks
      · rw [enrollment]
        exact sound.pinned
      · rw [operation]
        exact sound.operations
      · rw [enrollment, operation]
        exact sound.references
      · rw [enrollment, operation]
        exact sound.powered
    refine ⟨sameRows, ?_⟩
    constructor
    · rw [enrollment]
      exact (moves_refl store).enrollment
    · rw [operation]
      exact (moves_refl store).operation
  | @staged store enrollment vacant checks unpinned unarmed =>
    refine ⟨staged_sound sound vacant checks unpinned, ?_⟩
    constructor
    · intro other found
      rw [vacant] at found
      cases found
    · exact (moves_refl store).operation
  | @claimed store operation enrollment vacant found references checks unpowered =>
    refine ⟨claimed_sound sound found references checks unpowered, ?_⟩
    constructor
    · exact (moves_refl store).enrollment
    · intro other there
      rw [vacant] at there
      cases there
  | @enrollment store old new found update pins =>
    refine ⟨enrollment_update_sound sound found update pins, ?_⟩
    constructor
    · intro other there
      rw [found] at there
      cases there
      exact ⟨new, rfl, update.follows (sound.checks old found)⟩
    · exact (moves_refl store).operation
  | @operation store old new _ _ found update _ =>
    refine ⟨operation_update_sound sound found update, ?_⟩
    constructor
    · exact (moves_refl store).enrollment
    · intro other there
      rw [found] at there
      cases there
      exact ⟨new, rfl, update.follows⟩
  | trans _ _ early late =>
    have ⟨middleSound, firstMoves⟩ := early sound
    have ⟨lastSound, secondMoves⟩ := late middleSound
    exact ⟨lastSound, moves_trans firstMoves secondMoves⟩

theorem written_lease (found : store.operation = some operation)
    {lease : Lease} (held : operation.lease = some lease) :
    (∃ later, next.operation = some later ∧ later.lease = some lease) ∨
      lease.expiresAt ≤ bound ∨ released lease.id := by
  induction writes generalizing operation with
  | same enrollment same => exact .inl ⟨operation, by rw [same, found], held⟩
  | staged => exact .inl ⟨operation, found, held⟩
  | claimed vacant =>
    rw [vacant] at found
    cases found
  | enrollment => exact .inl ⟨operation, found, held⟩
  | @operation store old new _ _ there _ keeps =>
    rw [there] at found
    cases found
    cases keeps with
    | inl same => exact .inl ⟨new, rfl, by rw [same, held]⟩
    | inr ended => exact .inr (ended lease held)
  | trans _ _ early late =>
    cases early found held with
    | inl kept =>
      have ⟨middle, there, stillHeld⟩ := kept
      exact late there stillHeld
    | inr ended => exact .inr ended

theorem written_mono {other : Int} (order : bound ≤ other) : Written other released store next := by
  induction writes with
  | same enrollment operation => exact .same enrollment operation
  | staged vacant checks unpinned unarmed => exact .staged vacant checks unpinned unarmed
  | claimed vacant found references checks unpowered =>
    exact .claimed vacant found references checks unpowered
  | enrollment found update pins => exact .enrollment found update pins
  | operation found update keeps =>
    apply Written.operation found update
    cases keeps with
    | inl same => exact .inl same
    | inr ended =>
      right
      intro lease held
      cases ended lease held with
      | inl expired => exact .inl (by omega)
      | inr isReleased => exact .inr isReleased
  | trans _ _ early late => exact .trans early late

end

end Writes

section Runs

variable {store next : BootStore} {event : BootEvent} {answer : BootAnswer}

theorem commit_ok {result : Except Raised (BootAnswer × BootStore)}
    (committed : commit result = .ok (answer, next)) :
    result = .ok (answer, next) ∧ next.armedWithPowerOn = true := by
  unfold commit at committed
  split at committed
  · split at committed
    · rename_i armed
      cases committed
      exact ⟨rfl, armed⟩
    · exact absurd committed raise_ne_ok
  · cases committed

theorem written_ok {result : Except Raised BootStore}
    (answered : written result = .ok (answer, next)) : result = .ok next := by
  cases result with
  | error raised => cases answered
  | ok reached =>
    cases answered
    rfl

theorem result_written (answered : event.result store = .ok (answer, next)) :
    Written (event.finish store) (Releases store event) store next := by
  have ⟨performed, _⟩ := commit_ok answered
  have order : event.readings.clock store.clock 1 ≤ event.finish store :=
    event.readings.clock_mono store.clock (by omega)
  unfold BootEvent.perform at performed
  split at performed
  · exact stage_written performed
  · exact arm_written performed
  · exact consume_written performed
  · exact written_mono (claim_written performed) order
  · exact checkpoint_written performed
  · rename_i target leaseId isRelease
    apply release_written performed
    intro isTrue
    rw [isTrue] at answered
    exact ⟨target, next, isRelease, answered⟩
  · exact written_mono (abandon_written performed) order
  · exact written_mono (claim_guest_written performed) order
  · exact update_order_written (written_ok performed)
  · exact write_connection_written (written_ok performed)
  · exact write_secret_written (written_ok performed)

structure AtRest (store : BootStore) : Prop where
  sound : BootSound store
  armed : store.armedWithPowerOn = true

theorem step_moves (rest : AtRest store) (event : BootEvent) :
    AtRest (store.step event) ∧ Moves store (store.step event) := by
  unfold BootStore.step
  split
  · rename_i answer next answered
    have ⟨sound, moves⟩ := written_sound (result_written answered) rest.sound
    have armed := (commit_ok answered).2
    refine ⟨⟨?_, armed⟩, ?_⟩
    · exact ⟨sound.checks, sound.pinned, sound.operations, sound.references, sound.powered⟩
    · exact ⟨moves.enrollment, moves.operation⟩
  · have sound := rest.sound
    refine ⟨⟨?_, rest.armed⟩, ?_⟩
    · exact ⟨sound.checks, sound.pinned, sound.operations, sound.references, sound.powered⟩
    · exact ⟨(moves_refl store).enrollment, (moves_refl store).operation⟩

theorem unbooted_at_rest (connections : Table Connection.entries) (order : CapacityOrder)
    (clock : Int) : AtRest (.unbooted connections order clock) := by
  constructor
  · constructor <;> simp [BootStore.unbooted]
  · rfl

theorem after_at_rest (rest : AtRest store) (history : List BootEvent) :
    AtRest (store.after history) :=
  fold_keeps history rest fun _ event rest => (step_moves rest event).1

theorem after_moves (rest : AtRest store) (history : List BootEvent) :
    Moves store (store.after history) :=
  fold_related history rest (fun _ event rest => (step_moves rest event).1) moves_refl
    (fun _ _ _ => moves_trans) fun _ event rest => (step_moves rest event).2

theorem after_append (early late : List BootEvent) :
    store.after (early ++ late) = (store.after early).after late :=
  List.foldl_append

theorem after_cons (event : BootEvent) (late : List BootEvent) :
    store.after (event :: late) = (store.step event).after late := rfl

theorem step_ok (answered : event.result store = .ok (answer, next)) :
    store.step event = { next with clock := event.finish store } := by
  unfold BootStore.step
  rw [answered]

theorem step_clock (store : BootStore) (event : BootEvent) :
    (store.step event).clock = event.finish store := by
  unfold BootStore.step
  split <;> rfl

theorem clock_le_step (store : BootStore) (event : BootEvent) :
    store.clock ≤ (store.step event).clock := by
  rw [step_clock]
  exact event.readings.start_le_clock store.clock 8

end Runs

end Hivra.HetznerOrders
