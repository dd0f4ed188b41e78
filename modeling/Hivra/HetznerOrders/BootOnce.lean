import Hivra.HetznerOrders.BootKept

/-!
# A first boot is done once

What a call that grants a lease, lets a POST go out or consumes a proof has checked, and what
it leaves.  Since the rows only move forward, none of it happens twice.
-/

namespace Hivra.HetznerOrders

open Hivra.Library
open Hivra.AgentNetwork (Uuid Raised refuse_if_ok bind_ok raise_ne_ok)

variable {operation : BootOperation} {request : ConsumeRequest} {enrollment : Enrollment}

variable {lease : Lease} {readings : Readings}

section Runs

variable {store next : BootStore} {event : BootEvent} {answer : BootAnswer}

/-! ## Leases -/

theorem step_lease (event : BootEvent)
    (found : store.operation = some operation) (held : operation.lease = some lease) :
    (∃ later, (store.step event).operation = some later ∧ later.lease = some lease) ∨
      lease.expiresAt ≤ (store.step event).clock ∨ Releases store event lease.id := by
  rw [step_clock]
  unfold BootStore.step
  split
  · rename_i answer next answered
    exact written_lease (result_written answered) found held
  · exact .inl ⟨operation, found, held⟩

theorem lease_kept (history : List BootEvent)
    (found : store.operation = some operation) (held : operation.lease = some lease) :
    (∃ later, (store.after history).operation = some later ∧ later.lease = some lease) ∨
      lease.expiresAt ≤ (store.after history).clock ∨
      ∃ before release rest, history = before ++ release :: rest ∧
        Releases (store.after before) release lease.id := by
  induction history using List.reverseRecOn with
  | nil => exact .inl ⟨operation, found, held⟩
  | append_singleton history event ih =>
    rw [after_append]
    rcases ih with ⟨later, there, stillHeld⟩ | expired | ⟨before, release, rest, split, ends⟩
    · rcases step_lease event there stillHeld with kept | expired | ends
      · exact .inl kept
      · exact .inr (.inl expired)
      · exact .inr (.inr ⟨history, event, [], rfl, ends⟩)
    · have order := clock_le_step (store.after history) event
      right
      left
      change lease.expiresAt ≤ ((store.after history).step event).clock
      omega
    · right
      right
      refine ⟨before, release, rest ++ [event], ?_, ends⟩
      rw [split, List.append_assoc, List.cons_append]

def ClaimedFree (store next : BootStore) (claimed : BootOperation) (now : Int) : Prop :=
  next.operation = some claimed ∧
    ∀ operation lease, store.operation = some operation → operation.lease = some lease →
      lease.expiresAt ≤ now

theorem update_claimed_free {operation claimed : BootOperation} {now early late : Int}
    (found : store.operation = some operation) (free : operation.leased now = false)
    (updated : store.updateOperation early late operation claimed = .ok next) :
    ClaimedFree store next claimed now := by
  have ⟨isNext, _⟩ := update_operation_ok updated
  constructor
  · rw [isNext]
  · intro other lease there held
    rw [found] at there
    cases there
    exact unleased_expired free held

theorem claim_free {target : BootTarget} {leaseId : Uuid} {claimed : BootOperation}
    (answered : claimHetznerFirstBootOperation readings target leaseId store =
      .ok (.claimed claimed, next)) :
    ClaimedFree store next claimed (readings.clock store.clock 1) := by
  unfold claimHetznerFirstBootOperation at answered
  dsimp only at answered
  iterate 3
    split at answered
    · cases answered
  split at answered
  · rename_i operation found
    iterate 2
      split at answered
      · cases answered
    rename_i free
    obtain ⟨_, updated, isNext⟩ := bind_ok answered
    cases isNext
    exact update_claimed_free found (by simpa using free) updated
  · rename_i vacant
    obtain ⟨_, _, rest⟩ := bind_ok answered
    obtain ⟨_, _, isNext⟩ := bind_ok rest
    cases isNext
    constructor
    · rfl
    · intro other lease there
      rw [vacant] at there
      cases there

theorem claim_guest_free {target : BootTarget} {leaseId : Uuid} {claimed : BootOperation}
    (answered : claimHetznerEnrolledGuestOperation readings target leaseId store =
      .ok (.claimed claimed, next)) :
    ClaimedFree store next claimed (readings.clock store.clock 1) := by
  unfold claimHetznerEnrolledGuestOperation at answered
  dsimp only at answered
  split at answered
  · cases answered
  split at answered
  · rename_i enrollment operation enrolled found
    iterate 2
      split at answered
      · cases answered
    rename_i free
    have ⟨_, updated, isNext⟩ := bind_ok answered
    cases isNext
    exact update_claimed_free found (by simpa using free) updated
  · cases answered

theorem granted_free (grants : Grants store event lease) :
    (∃ operation, (store.step event).operation = some operation ∧
        operation.lease = some lease) ∧
      ∀ operation held, store.operation = some operation → operation.lease = some held →
        held.expiresAt ≤ event.readings.clock store.clock 1 := by
  have ⟨claims, claimed, next, answered, leased⟩ := grants
  have ⟨performed, _⟩ := commit_ok answered
  rw [step_ok answered]
  have free : ClaimedFree store next claimed (event.readings.clock store.clock 1) := by
    unfold BootEvent.perform at performed
    cases call : event.call with
    | claim target leaseId =>
      rw [call] at performed
      exact claim_free performed
    | claimGuest target leaseId =>
      rw [call] at performed
      exact claim_guest_free performed
    | _ =>
      rw [call] at claims
      cases claims
  exact ⟨⟨claimed, free.1, leased⟩, free.2⟩

/-! ## The POSTs -/

theorem allowed_branch {checkpoint : BootCheckpoint} (allows : Allows store event checkpoint) :
    ∃ request enrollment operation next, event.call = .checkpoint request ∧
      request.checkpoint = checkpoint ∧ event.result store = .ok (.flag true, next) ∧
      CheckpointAdmitted event.readings request store enrollment operation ∧
      (match request.checkpoint with
        | .firewallDispatch =>
          firewallDispatch (event.readings.clock store.clock) enrollment operation store
        | .firewallReceipt =>
          firewallReceipt (event.readings.clock store.clock) request operation store
        | .firewallVerified =>
          firewallVerified (event.readings.clock store.clock) request operation store
        | .powerDispatch =>
          powerDispatch (event.readings.clock store.clock) enrollment operation store
        | .powerReceipt =>
          powerReceipt (event.readings.clock store.clock) request operation store) =
        .ok (.flag true, next) := by
  have ⟨request, next, call, kind, answered⟩ := allows
  have ⟨performed, _⟩ := commit_ok answered
  unfold BootEvent.perform at performed
  rw [call] at performed
  rcases checkpoint_cases performed with ⟨refused, _⟩ | ⟨enrollment, operation, admitted, branch⟩
  · cases refused
  · exact ⟨request, enrollment, operation, next, call, kind, answered, admitted, branch⟩

theorem firewall_allowed (allows : Allows store event .firewallDispatch) :
    ∃ operation later, store.operation = some operation ∧
      operation.firewallPostAttemptedAt = none ∧ (store.step event).operation = some later ∧
      later.firewallPostAttemptedAt = some (event.readings.clock store.clock 3) := by
  have ⟨request, enrollment, operation, next, _, kind, answered, admitted, branch⟩ :=
    allowed_branch allows
  rw [step_ok answered]
  rw [kind] at branch
  dsimp only at branch
  unfold firewallDispatch at branch
  split at branch
  · cases branch
  · rename_i unattempted
    push Not at unattempted
    have ⟨_, updated, isNext⟩ := bind_ok branch
    cases isNext
    have ⟨isNext, _⟩ := update_operation_ok updated
    refine ⟨operation, _, admitted.found, unattempted.1, by rw [isNext], rfl⟩

/-- The power-on of the call goes out under a live lease of an operation that was not
abandoned, with thirty seconds left, a receipt, and a verification no older than thirty
seconds. -/
def PowerOnProtected (store : BootStore) (event : BootEvent) : Prop :=
  ∃ operation lease receipt verifiedAt, store.operation = some operation ∧
    operation.lease = some lease ∧ operation.abandonedAt = none ∧
    event.readings.clock store.clock 2 + 30 * oneSecond < lease.expiresAt ∧
    event.readings.clock store.clock 6 < lease.expiresAt ∧
    operation.firewallReceipt = some receipt ∧
    operation.firewallVerifiedAt = some verifiedAt ∧
    event.readings.clock store.clock 3 - 30 * oneSecond ≤ verifiedAt

theorem leased_live {now : Int} (leased : operation.leased now = true) :
    ∃ lease, operation.lease = some lease ∧ now < lease.expiresAt := by
  cases held : operation.lease with
  | none => simp [BootOperation.leased, held] at leased
  | some lease => exact ⟨lease, rfl, by simpa [BootOperation.leased, held, Lease.live] using leased⟩

theorem verified_receipted (checks : operation.checks = true)
    {verifiedAt : Int} (verified : operation.firewallVerifiedAt = some verifiedAt) :
    ∃ receipt, operation.firewallReceipt = some receipt := by
  simp only [BootOperation.checks, verified, Option.isNone_some, Bool.false_or,
    Bool.and_eq_true] at checks
  exact Option.isSome_iff_exists.mp checks.1.1.2

structure PowerOnBranch (now : Nat → Int) (store next : BootStore) (operation : BootOperation) :
    Prop where
  unpowered : operation.powerOnPostAttemptedAt = none
  verified : ∃ verifiedAt, operation.firewallVerifiedAt = some verifiedAt ∧
    now 3 - 30 * oneSecond ≤ verifiedAt
  live : operation.leased (now 6) = true
  recorded : ∃ later, next.operation = some later ∧
    later.powerOnPostAttemptedAt = some (now 4)

theorem power_update_live {now : Nat → Int} (unpowered : operation.powerOnPostAttemptedAt = none)
    (updated : store.updateOperation (now 5) (now 6) operation
      { operation with powerOnPostAttemptedAt := some (now 4) } = .ok next) :
    operation.leased (now 6) = true ∧ ∃ later, next.operation = some later ∧
      later.powerOnPostAttemptedAt = some (now 4) := by
  have ⟨isNext, update⟩ := update_operation_ok updated
  constructor
  · apply update.leased
    intro same
    have wasPowered := congrArg BootOperation.powerOnPostAttemptedAt same
    simp [BootOperation.withLease, unpowered] at wasPowered
  · exact ⟨_, by rw [isNext], rfl⟩

theorem power_dispatch_branch {now : Nat → Int}
    (answered : powerDispatch now enrollment operation store = .ok (.flag true, next)) :
    PowerOnBranch now store next operation := by
  unfold powerDispatch at answered
  split at answered
  · cases answered
  rename_i admitted
  push Not at admitted
  have unpowered := admitted.1
  have verified : ∃ verifiedAt, operation.firewallVerifiedAt = some verifiedAt ∧
      now 3 - 30 * oneSecond ≤ verifiedAt := by
    have fresh := admitted.2.1
    cases held : operation.firewallVerifiedAt with
    | none => simp [held] at fresh
    | some verifiedAt => exact ⟨verifiedAt, rfl, by simpa [held] using fresh⟩
  split at answered
  · have ⟨_, updated, isNext⟩ := bind_ok answered
    cases isNext
    have ⟨live, recorded⟩ := power_update_live unpowered updated
    exact ⟨unpowered, verified, live, recorded⟩
  · split at answered
    · cases answered
    · have ⟨_, _, rest⟩ := bind_ok answered
      have ⟨_, updated, isNext⟩ := bind_ok rest
      cases isNext
      have ⟨live, recorded⟩ := power_update_live unpowered updated
      exact ⟨unpowered, verified, live, recorded⟩

theorem power_allowed (sound : BootSound store) (allows : Allows store event .powerDispatch) :
    PowerOnProtected store event ∧
      ∃ operation later, store.operation = some operation ∧
        operation.powerOnPostAttemptedAt = none ∧ (store.step event).operation = some later ∧
        later.powerOnPostAttemptedAt = some (event.readings.clock store.clock 4) := by
  have ⟨request, enrollment, operation, next, _, kind, answered, admitted, branch⟩ :=
    allowed_branch allows
  rw [step_ok answered]
  rw [kind] at branch
  have powered := power_dispatch_branch branch
  have ⟨verifiedAt, verified, fresh⟩ := powered.verified
  have ⟨receipt, receipted⟩ :=
    verified_receipted (sound.operations operation admitted.found) verified
  have ⟨lease, held, live⟩ := leased_live powered.live
  have thirty := admitted.thirtySeconds (by rw [kind]; rfl)
  have ⟨sameLease, sameHeld, left⟩ := leased_live thirty
  rw [held] at sameHeld
  cases sameHeld
  have ⟨later, there, recorded⟩ := powered.recorded
  constructor
  · exact ⟨operation, lease, receipt, verifiedAt, admitted.found, held, admitted.unabandoned,
      left, live, receipted, verified, fresh⟩
  · exact ⟨operation, later, admitted.found, powered.unpowered, there, recorded⟩

/-! ## The window -/

theorem any_found {Row : Type} {row : Option Row} {test : Row → Bool}
    (passes : row.any test = true) : ∃ found, row = some found ∧ test found = true := by
  cases row with
  | none => cases passes
  | some found => exact ⟨found, rfl, passes⟩

theorem armed_at_power_on (rest : AtRest store)
    (found : store.enrollment = some enrollment) (current : enrollment.recipe = .armAtStart) :
    enrollment.armed =
      (store.operation.bind BootOperation.powerOnPostAttemptedAt).map windowAt := by
  cases armed : enrollment.armed with
  | some window =>
    have opened := rest.armed
    simp only [BootStore.armedWithPowerOn, found, armed, Option.all_some] at opened
    have ⟨operation, there, powered⟩ := any_found opened
    simp only [Bool.and_eq_true, beq_iff_eq] at powered
    have checks := rest.sound.checks enrollment found
    simp only [Enrollment.checks, Enrollment.armedState, armed, Option.all_some,
      Bool.and_eq_true, beq_iff_eq] at checks
    have ends := checks.2.1.2
    have isWindow : windowAt window.armedAt = window := by
      unfold windowAt
      rw [← ends]
    simp [there, powered.2, isWindow]
  | none =>
    cases there : store.operation with
    | none => rfl
    | some operation =>
      cases powered : operation.powerOnPostAttemptedAt with
      | none => simp [powered]
      | some moment =>
        have opened :=
          rest.sound.powered operation enrollment moment there found current powered
        rw [armed] at opened
        cases opened

/-! ## The identity -/

theorem consumed_cases
    (answered : consumeHetznerFirstBoot readings request store = .ok (answer, next)) :
    answer = .rejected ∨
      ∃ enrollment, store.enrollment = some enrollment ∧
        enrollment.windowContains (readings.clock store.clock 0) = true ∧
        ((answer = .enrolled ∧ enrollment.phase = .awaitingIdentity ∧
            ∃ later pinned, next.enrollment = some later ∧ later.identity = some pinned ∧
              request.host = some pinned.host ∧
              pinned.enrolledAt = readings.clock store.clock 0) ∨
          (enrollment.phase = .enrolled ∧
            (answer = .identityChanged ∨
              (answer = .acknowledgementReplay ∧
                ∃ pinned, enrollment.identity = some pinned ∧
                  request.host = some pinned.host)))) := by
  unfold consumeHetznerFirstBoot at answered
  dsimp only at answered
  split at answered
  · rename_i host observedAt record isHost _ found
    split at answered
    · cases answered
      exact .inl rfl
    split at answered
    · cases answered
      exact .inl rfl
    rename_i admitted
    push Not at admitted
    have inside : record.windowContains (readings.clock store.clock 0) = true := by
      simpa using admitted.2.1
    split at answered
    · rename_i isEnrolled
      right
      refine ⟨record, found, inside, .inr ⟨isEnrolled, ?_⟩⟩
      split at answered
      · rename_i same
        cases answered
        right
        have ⟨pinned, held, isSame⟩ := Option.map_eq_some_iff.mp same
        exact ⟨rfl, pinned, held, isHost.trans (congrArg some isSame.symm)⟩
      · cases answered
        exact .inl rfl
    split at answered
    · cases answered
      exact .inl rfl
    · rename_i awaiting
      have ⟨_, updated, isNext⟩ := bind_ok answered
      cases isNext
      have ⟨isNext, _⟩ := update_enrollment_ok updated
      right
      refine ⟨record, found, inside, .inl ⟨rfl, by simpa using awaiting, ?_⟩⟩
      exact ⟨_, _, by rw [isNext], rfl, isHost, rfl⟩
  · cases answered
    exact .inl rfl

def Consumes (store : BootStore) (event : BootEvent) (request : ConsumeRequest)
    (answer : BootAnswer) : Prop :=
  ∃ next, event.call = .consume request ∧ event.result store = .ok (answer, next)

theorem consumed_result (consumes : Consumes store event request answer) :
    ∃ next, event.result store = .ok (answer, next) ∧
      consumeHetznerFirstBoot event.readings request store = .ok (answer, next) := by
  have ⟨next, call, answered⟩ := consumes
  have ⟨performed, _⟩ := commit_ok answered
  unfold BootEvent.perform at performed
  rw [call] at performed
  exact ⟨next, answered, performed⟩

theorem pinned_consumed (sound : BootSound store)
    {pinned : PinnedIdentity} (found : store.enrollment = some enrollment)
    (held : enrollment.identity = some pinned) (consumes : Consumes store event request answer) :
    (answer = .acknowledgementReplay ∧ request.host = some pinned.host) ∨
      answer = .identityChanged ∨ answer = .rejected := by
  have ⟨next, _, performed⟩ := consumed_result consumes
  rcases consumed_cases performed with rejected | ⟨record, there, _, cases⟩
  · exact .inr (.inr rejected)
  rw [found] at there
  cases there
  rcases cases with ⟨_, awaiting, _⟩ | ⟨_, changed | ⟨replayed, same, isHeld, isHost⟩⟩
  · rw [unpinned_awaiting (sound.checks enrollment found) awaiting] at held
    cases held
  · exact .inr (.inl changed)
  · rw [held] at isHeld
    cases isHeld
    exact .inl ⟨replayed, isHost⟩

/-! ## Abandonment -/

theorem abandoned_unleased (checks : operation.checks = true)
    (abandoned : operation.abandonedAt ≠ none) : operation.lease = none := by
  simp only [BootOperation.checks, Bool.and_eq_true, Bool.or_eq_true,
    Option.isNone_iff_eq_none] at checks
  exact checks.1.1.1.1.2.resolve_left abandoned

theorem abandoned_stays (rest : AtRest store) (history : List BootEvent)
    (found : store.operation = some operation)
    (abandoned : operation.abandonedAt ≠ none) :
    (store.after history).operation = some operation := by
  have ⟨later, there, follows⟩ := (after_moves rest history).operation operation found
  rw [there, follows.abandoned abandoned]

theorem abandoned_refuses (sound : BootSound store)
    (found : store.operation = some operation) (abandoned : operation.abandonedAt ≠ none)
    (step : (store.step event).operation = some operation) :
    (∀ lease, ¬Grants store event lease) ∧ ∀ checkpoint, ¬Allows store event checkpoint := by
  have unleased := abandoned_unleased (sound.operations operation found) abandoned
  constructor
  · intro lease grants
    have ⟨⟨later, there, held⟩, _⟩ := granted_free grants
    rw [step] at there
    cases there
    rw [unleased] at held
    cases held
  · intro checkpoint allows
    have ⟨_, _, _, _, _, _, _, admitted, _⟩ := allowed_branch allows
    have isFound := admitted.found
    rw [found] at isFound
    cases isFound
    exact abandoned admitted.unabandoned

/-! ## The secret -/

theorem closed_untold (sound : BootSound store)
    (found : store.enrollment = some enrollment) (closed : enrollment.phase.closed = true) :
    enrollment.encryptedToken = none := by
  have checks := sound.checks enrollment found
  simp only [Enrollment.checks, Enrollment.secretState, closed, if_true, Bool.and_eq_true,
    Option.isNone_iff_eq_none] at checks
  exact checks.1.1.2

end Runs

/-! ## The first boot, over a whole run -/

structure ProtectedBoot (start : BootStore) (history : List BootEvent) : Prop where
  /-- When a lease is granted, each one granted before has expired or was released. -/
  one_lease : ∀ early first middle second late lease other,
    history = early ++ first :: (middle ++ second :: late) →
    Grants (start.after early) first lease →
    Grants (start.after (early ++ first :: middle)) second other →
    lease.expiresAt ≤
        second.readings.clock (start.after (early ++ first :: middle)).clock 1 ∨
      ∃ before release rest, middle = before ++ release :: rest ∧
        Releases (start.after (early ++ first :: before)) release lease.id
  /-- Each POST is allowed at most once. -/
  once : ∀ checkpoint early first middle second late, checkpoint.dispatches = true →
    history = early ++ first :: (middle ++ second :: late) →
    Allows (start.after early) first checkpoint →
    ¬Allows (start.after (early ++ first :: middle)) second checkpoint
  /-- No server is powered on unprotected. -/
  protected_power_on : ∀ early event late, history = early ++ event :: late →
    Allows (start.after early) event .powerDispatch →
    PowerOnProtected (start.after early) event
  /-- The window of the current recipe is open exactly from the recorded power-on. -/
  armed_at_power_on : ∀ enrollment, (start.after history).enrollment = some enrollment →
    enrollment.recipe = .armAtStart →
    enrollment.armed =
      ((start.after history).operation.bind BootOperation.powerOnPostAttemptedAt).map windowAt
  /-- It is opened at most once. -/
  armed_once : ∀ early late enrollment window, history = early ++ late →
    (start.after early).enrollment = some enrollment → enrollment.armed = some window →
    ∃ later, (start.after history).enrollment = some later ∧ later.armed = some window
  /-- An identity is enrolled inside the window only. -/
  enrolled_inside : ∀ enrollment pinned, (start.after history).enrollment = some enrollment →
    enrollment.identity = some pinned → enrollment.windowContains pinned.enrolledAt = true
  /-- An enrolled boot has its identity. -/
  enrolled_pinned : ∀ enrollment, (start.after history).enrollment = some enrollment →
    enrollment.phase = .enrolled → ∃ pinned, enrollment.identity = some pinned
  /-- A proof that is accepted enrolls its identity; from then on that identity stays, and
  every proof is told that it is that one, or is refused. -/
  enrolled_once : ∀ early first middle request,
    history = early ++ first :: middle → Consumes (start.after early) first request .enrolled →
    ∃ enrollment pinned, (start.after history).enrollment = some enrollment ∧
      enrollment.identity = some pinned ∧ request.host = some pinned.host ∧
      ∀ event other answer, Consumes (start.after history) event other answer →
        (answer = .acknowledgementReplay ∧ other.host = some pinned.host) ∨
          answer = .identityChanged ∨ answer = .rejected
  /-- What is abandoned stays so, and nothing is granted or allowed any more. -/
  abandoned_final : ∀ early late operation, history = early ++ late →
    (start.after early).operation = some operation → operation.abandonedAt ≠ none →
    (start.after history).operation = some operation ∧
      ∀ event, (∀ lease, ¬Grants (start.after history) event lease) ∧
        ∀ checkpoint, ¬Allows (start.after history) event checkpoint
  /-- The secret is gone once the boot is enrolled, revoked or failed. -/
  secret_gone : ∀ enrollment, (start.after history).enrollment = some enrollment →
    enrollment.phase.closed = true → enrollment.encryptedToken = none

section Boots

variable {start : BootStore} {history : List BootEvent}

theorem after_middle (early middle : List BootEvent) (first : BootEvent) :
    start.after (early ++ first :: middle) =
      ((start.after early).step first).after middle := by
  rw [after_append, after_cons]

theorem leases_apart {early middle : List BootEvent} {first second : BootEvent} {other : Lease}
    (granted : Grants (start.after early) first lease)
    (again : Grants (start.after (early ++ first :: middle)) second other) : lease.expiresAt ≤
        second.readings.clock (start.after (early ++ first :: middle)).clock 1 ∨
      ∃ before release rest, middle = before ++ release :: rest ∧
        Releases (start.after (early ++ first :: before)) release lease.id := by
  have ⟨⟨operation, found, held⟩, _⟩ := granted_free granted
  rw [after_middle] at again ⊢
  rcases lease_kept middle found held with ⟨later, there, stillHeld⟩ | expired |
    ⟨before, release, rest, split, ends⟩
  · exact .inl ((granted_free again).2 later lease there stillHeld)
  · have order := second.readings.start_le_clock
      (((start.after early).step first).after middle).clock 1
    exact .inl (by omega)
  · refine .inr ⟨before, release, rest, split, ?_⟩
    rw [after_middle]
    exact ends

theorem dispatched_once (rest : AtRest start) {checkpoint : BootCheckpoint}
    {early middle : List BootEvent} {first second : BootEvent}
    (dispatches : checkpoint.dispatches = true)
    (allowed : Allows (start.after early) first checkpoint) :
    ¬Allows (start.after (early ++ first :: middle)) second checkpoint := by
  intro again
  have earlyRest := after_at_rest rest early
  have firstRest := (step_moves earlyRest first).1
  have lastRest := after_at_rest firstRest middle
  rw [after_middle] at again
  cases checkpoint with
  | firewallDispatch =>
    have ⟨_, attempted, _, _, found, posted⟩ := firewall_allowed allowed
    have ⟨later, there, follows⟩ := (after_moves firstRest middle).operation attempted found
    have kept := follows.firewallPost (by simp [posted])
    have ⟨operation, _, isLater, unattempted, _⟩ := firewall_allowed again
    rw [there] at isLater
    cases isLater
    rw [kept, posted] at unattempted
    cases unattempted
  | powerDispatch =>
    have ⟨_, _, attempted, _, _, found, posted⟩ := power_allowed earlyRest.sound allowed
    have ⟨later, there, follows⟩ := (after_moves firstRest middle).operation attempted found
    have kept := follows.powerOnPost (by simp [posted])
    have ⟨_, operation, _, isLater, unattempted, _⟩ := power_allowed lastRest.sound again
    rw [there] at isLater
    cases isLater
    rw [kept, posted] at unattempted
    cases unattempted
  | _ => cases dispatches

theorem enrolled_kept (rest : AtRest start) {early : List BootEvent} {first : BootEvent}
    (middle : List BootEvent)
    (enrolls : Consumes (start.after early) first request .enrolled) : ∃ enrollment pinned,
      (start.after (early ++ first :: middle)).enrollment = some enrollment ∧
      enrollment.identity = some pinned ∧ request.host = some pinned.host := by
  have firstRest := (step_moves (after_at_rest rest early) first).1
  have ⟨next, answered, performed⟩ := consumed_result enrolls
  rcases consumed_cases performed with rejected | ⟨_, _, _, cases⟩
  · cases rejected
  rcases cases with ⟨_, _, later, pinned, found, held, isHost, _⟩ | ⟨_, changed | ⟨replayed, _⟩⟩
  · have stepped : ((start.after early).step first).enrollment = some later := by
      rw [step_ok answered]
      exact found
    have ⟨last, there, follows⟩ := (after_moves firstRest middle).enrollment later stepped
    rw [after_middle]
    exact ⟨last, pinned, there, follows.identity pinned held, isHost⟩
  · cases changed
  · cases replayed

/-- A first boot is done once and never unprotected. -/
theorem first_boot_protected (connections : Table Connection.entries) (order : CapacityOrder)
    (clock : Int) (history : List BootEvent) :
    ProtectedBoot (.unbooted connections order clock) history := by
  have rest := unbooted_at_rest connections order clock
  have last := after_at_rest rest history
  constructor
  · intro early first middle second late lease other _ granted again
    exact leases_apart granted again
  · intro checkpoint early first middle second late dispatches _ allowed
    exact dispatched_once rest dispatches allowed
  · intro early event late _ allowed
    exact (power_allowed (after_at_rest rest early).sound allowed).1
  · intro enrollment found current
    exact armed_at_power_on last found current
  · intro early late enrollment window split found armed
    obtain ⟨later, there, follows⟩ :=
      (after_moves (after_at_rest rest early) late).enrollment enrollment found
    rw [split, after_append]
    exact ⟨later, there, follows.armed window armed⟩
  · intro enrollment pinned found held
    exact last.sound.pinned enrollment pinned found held
  · intro enrollment found enrolled
    have checks := last.sound.checks enrollment found
    simp only [Enrollment.checks, Enrollment.phaseState, enrolled, Bool.and_eq_true] at checks
    exact Option.isSome_iff_exists.mp checks.1.2.2
  · intro early first middle request split enrolls
    obtain ⟨enrollment, pinned, found, held, isHost⟩ :=
      enrolled_kept rest middle enrolls
    rw [← split] at found
    refine ⟨enrollment, pinned, found, held, isHost, ?_⟩
    intro event other answer consumes
    exact pinned_consumed last.sound found held consumes
  · intro early late operation split found abandoned
    have stays := abandoned_stays (after_at_rest rest early) late found abandoned
    rw [← after_append, ← split] at stays
    refine ⟨stays, ?_⟩
    intro event
    exact abandoned_refuses last.sound stays abandoned
      (abandoned_stays last [event] stays abandoned)
  · intro enrollment found closed
    exact closed_untold last.sound found closed

end Boots

end Hivra.HetznerOrders
