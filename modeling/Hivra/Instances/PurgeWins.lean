import Hivra.Instances.PurgeFits
import Hivra.Library.FollowedRows

/-!
# Purge and payment never both win

While runs keep apart, a machine is destroyed only by a run that claimed the row as it selected
it and read that the owner does not pay, one run at a time is past its claim, and a run that finds
a payer hands the row back.
-/

namespace Hivra.Instances

open Hivra.Library Typestate

structure OneWins (world : PurgeWorld) : Prop where
  /-- A machine is destroyed by a run that claimed its row so and found no payer. -/
  destroyed : ∀ number, (world.store.store.progress number).destroyed = true →
    (world.store.store.progress number).pays = some false ∧
      ∃ selected, ClaimedAs (world.store.store.progress number) selected
  exclusive : ∀ first second, pastClaim world first = true → pastClaim world second = true →
    first = second
  /-- A run that found a payer has ended with the row restored. -/
  handedBack : ∀ number, world.ended number = true →
    (world.store.store.progress number).pays = some true →
      (world.store.store.progress number).failed = false →
        (world.store.store.progress number).handedBack = true

structure PurgeSound (world : PurgeWorld) : Prop where
  keeps : purgeTypestate.AllKeep Over Over world
  shut : Shut world.store.store.row
  fits : ∀ number, Fits (world.store.states number) (world.store.store.progress number)
    world.store.store.row (world.lives number)
  exclusive : ∀ first second, pastClaim world first = true → pastClaim world second = true →
    first = second

variable {number : Nat} {call : PurgeCall} {turn : PurgeTurn} {stage : PurgeStage} {other : Nat}

def NotDueAgain (call : PurgeCall) (turn : PurgeTurn) (row : InstanceRow)
    (held : PurgeProgress) : Prop :=
  held.overtaken = true → ∀ deadline, turn.fails = false →
    call = .schedule deadline ∨ call = .scheduleStale deadline ∧ row.isStale = true →
      held.dueBefore < deadline

section Own

variable {store : PurgeStore}

theorem plain_leaves (quiet : call.isQuiet = true) (plain : call.isPlain = true)
    (fits : Fits stage (store.progress number) store.row true)
    (later : NotDueAgain call turn store.row (store.progress number))
    (still : stage.moved call (performPurge number call turn store).2 = stage) :
    Leaves number call stage (performPurge number call turn store) := by
  have ⟨back, steps⟩ := perform_steps number call turn store
  have next := fits_quiet fits steps.row quiet later
  rw [Leaves, still]
  cases steps.own plain with
  | inl same =>
    rw [same]
    exact next
  | inr failed =>
    rw [failed]
    exact fits_fails next

theorem own_leaves (permitted : call.permitted stage) (shut : Shut store.row)
    (fits : Fits stage (store.progress number) store.row true)
    (later : NotDueAgain call turn store.row (store.progress number))
    (unstamped : call = .ownerPaysNow → turn.fails = false → store.entitled = true →
      ∀ claim ∈ stage.claim, claim.1.deletedAt = none) :
    Leaves number call stage (performPurge number call turn store) := by
  have failed : ∀ other : PurgeCall, stage.moved other (failPurge number other store).2 = stage →
      (failPurge number other store).1 = store.fail number →
        Leaves number other stage (failPurge number other store) := by
    intro other still isFail
    rw [Leaves, still, isFail, PurgeStore.fail, noted_own]
    exact fits_fails fits
  cases call with
  | claim selected dueBefore claimedAt =>
    cases permitted with
    | inl stranded =>
      rw [stranded] at fits
      cases fits
    | inr picked =>
      rw [picked.1] at fits ⊢
      exact leaves_performed (failed_claim_leaves fits)
        (fun _ => claim_leaves fits picked.2)
  | release selected claimedAt =>
    cases permitted with
    | inl stranded =>
      rw [stranded] at fits
      cases fits
    | inr past =>
      exact leaves_performed (failed_release_leaves past fits)
        (fun _ => release_leaves past fits)
  | ownerPaysNow =>
    obtain stranded | marked | ⟨selected, claimedAt, claimed⟩ := permitted
    · rw [stranded] at fits
      cases fits
    · apply leaves_performed
      · apply failed
        · rw [marked]
          rfl
        · rfl
      · intro _
        rw [marked] at fits ⊢
        exact marked_leaves fits
    · apply leaves_performed
      · rw [claimed] at fits ⊢
        exact failed_ask_leaves fits
      · intro succeeds
        have none := unstamped rfl succeeds
        rw [claimed] at fits none ⊢
        apply ask_leaves fits
        intro entitled
        exact none entitled (selected, claimedAt) rfl
  | teardown =>
    cases stage with
    | unpaid selected claimedAt =>
      exact leaves_performed (failed_teardown_leaves fits) (fun _ => teardown_leaves fits)
    | stranded => cases fits
    | _ => cases permitted
  | markDeleted deletedAt =>
    cases stage with
    | unpaid selected claimedAt =>
      exact leaves_performed (failed _ rfl rfl) (fun _ => mark_leaves fits)
    | stranded => cases fits
    | _ => cases permitted
  | selectExpired now =>
    change stage = .fresh at permitted
    rw [permitted] at fits ⊢
    rw [permitted] at failed
    exact leaves_performed (failed _ rfl rfl) (fun _ => select_leaves fits)
  | selectStranded =>
    exact leaves_performed (failed _ rfl rfl) (fun _ => stranded_leaves shut fits)
  | selectRestorable =>
    cases stage with
    | released =>
      exact leaves_performed (failed_seek_leaves fits) (fun _ => seek_leaves fits)
    | _ => exact plain_leaves rfl rfl fits later rfl
  | restore =>
    cases stage with
    | sought =>
      exact leaves_performed (failed_restore_leaves fits) (fun _ => restore_leaves fits)
    | _ => exact plain_leaves rfl rfl fits later rfl
  | readClock | readPlanAccess | handOff | insertArchive _ | resume | selectSchedulable
    | schedule _ | selectStale | scheduleStale _ | suspend _ =>
      exact plain_leaves rfl rfl fits later rfl

end Own

section Worlds

variable {world : PurgeWorld}

theorem running_of {script : PurgeScript Unit} (current : world.runs[number]? = some (some script)) :
    world.lives number = true := by
  simp [World.lives, current]

section

variable (sound : PurgeSound world)
include sound

theorem past_claim_stamped (past : pastClaim world number = true) :
    ∃ claimedAt, Stamped world.store.store.row claimedAt := by
  simp only [pastClaim, PurgeStage.isPast, Bool.and_eq_true] at past
  have ⟨⟨selected, claimedAt⟩, claim⟩ := Option.isSome_iff_exists.mp past.2
  have fits := sound.fits number
  rw [past.1] at fits
  exact ⟨claimedAt, past_stamped claim fits⟩

theorem claim_alone {selected : InstanceRow} {dueBefore claimedAt : Int}
    (found : world.store.store.row.matchesClaim selected dueBefore = true)
    (orderly : (PurgeCall.claim selected dueBefore claimedAt).Orderly number world) :
    pastClaim world other = false := by
  rw [← Bool.not_eq_true]
  intro past
  have ⟨stampedAt, stamped⟩ := past_claim_stamped sound past
  have inside : other ∈ List.range world.runs.length := by
    simp only [pastClaim, World.lives, Bool.and_eq_true] at past
    rw [List.mem_range]
    by_contra beyond
    rw [List.getElem?_eq_none (by omega)] at past
    cases past.1
  have same : world.store.store.row.deletedAt = selected.deletedAt := by
    simp only [InstanceRow.matchesClaim, Bool.and_eq_true, beq_iff_eq] at found
    exact found.1.2
  have none := (orderly found other inside).2 (by rw [← same, stamped.stamp]; rfl)
  rw [past] at none
  cases none

theorem not_due_again (other : Nat) (orderly : turn.fails = false → call.Orderly number world) :
    NotDueAgain call turn world.store.store.row (world.store.store.progress other) := by
  intro overtaken deadline succeeds scheduling
  have inside : other ∈ List.range world.runs.length := by
    rw [List.mem_range]
    by_contra beyond
    have fits := sound.fits other
    rw [sound.keeps.unstarted other (by omega)] at fits
    simp [PurgeProgress.overtaken, fits.2] at overtaken
  have held := orderly succeeds
  cases scheduling with
  | inl schedule =>
    subst schedule
    exact held other inside overtaken
  | inr stale =>
    obtain ⟨isStale, found⟩ := stale
    subst isStale
    exact held found other inside overtaken

theorem bystander_fits (apart : other ≠ number) (live : world.lives number = true)
    (permitted : call.permitted (world.store.states number))
    (orderly : turn.fails = false → call.Orderly number world) (loud : call.isQuiet = false)
    {after : InstanceRow} {back : Bool}
    (step : RowStep world.store.store.row turn.fails call after back) :
    Fits (world.store.states other) ((world.store.store.progress other).after back) after
      (world.lives other) := by
  have fits := sound.fits other
  -- a run past its claim leaves room for no other
  have owned : pastClaim world number = true →
      Fits (world.store.states other) ((world.store.store.progress other).after back) after
        (world.lives other) := by
    intro past
    have ⟨stampedAt, stamped⟩ := past_claim_stamped sound past
    apply fits_bystander fits step loud
    · intro isLive otherPast
      have otherPasts : pastClaim world other = true := by
        simp [pastClaim, isLive, otherPast]
      exact absurd (sound.exclusive other number otherPasts past) apart
    · intro _ _ _ waiting
      have stamp := stamped.stamp
      rw [waiting.open_] at stamp
      cases stamp
  cases step with
  | same => exact fits
  | claimed selected dueBefore claimedAt succeeds found =>
    have held := orderly succeeds
    have alone : pastClaim world other = false := claim_alone sound found held
    have step := RowStep.claimed selected dueBefore claimedAt succeeds found
    apply fits_bystander fits step rfl
    · intro isLive otherPast
      simp [pastClaim, isLive, otherPast] at alone
    · intro isLive hands still _
      have inside : other ∈ List.range world.runs.length := by
        rw [List.mem_range]
        by_contra beyond
        rw [sound.keeps.unstarted other (by omega)] at hands
        cases hands
      have none := (held found other inside).1
      simp [handing, isLive, hands, still] at none
  | released selected claimedAt found =>
    apply owned
    cases permitted with
    | inl stranded =>
      have own := sound.fits number
      rw [stranded] at own
      cases own
    | inr past => simp [pastClaim, live, PurgeStage.isPast, past]
  | marked deletedAt =>
    apply owned
    have own := sound.fits number
    change (world.store.states number).mayTearDown = true at permitted
    cases stage : world.store.states number with
    | unpaid _ _ => simp [pastClaim, live, PurgeStage.isPast, PurgeStage.claim, stage]
    | stranded =>
      rw [stage] at own
      cases own
    | _ =>
      rw [stage] at permitted
      cases permitted
  | restored | resumed | scheduled | stale | suspended | handedOff => cases loud

theorem other_fits (apart : other ≠ number) (live : world.lives number = true)
    (permitted : call.permitted (world.store.states number))
    (orderly : turn.fails = false → call.Orderly number world) : Fits (world.store.states other)
      ((performPurge number call turn world.store.store).1.progress other)
      (performPurge number call turn world.store.store).1.row (world.lives other) := by
  have ⟨back, steps⟩ := perform_steps number call turn world.store.store
  rw [steps.others other apart]
  cases quiet : call.isQuiet with
  | true => exact fits_quiet (sound.fits other) steps.row quiet (not_due_again sound other orderly)
  | false => exact bystander_fits sound apart live permitted orderly quiet steps.row

end

theorem claim_reply {store : PurgeStore} {selected : InstanceRow} {dueBefore claimedAt : Int}
    (matched : (performPurge number (.claim selected dueBefore claimedAt) turn store).2 = some true) :
    turn.fails = false ∧ store.row.matchesClaim selected dueBefore = true := by
  rw [performPurge] at matched
  cases fails : turn.fails with
  | true =>
    rw [fails] at matched
    cases matched
  | false =>
    rw [fails] at matched
    simp only [answerPurge] at matched
    by_cases found : store.row.matchesClaim selected dueBefore = true
    · exact ⟨rfl, found⟩
    · rw [if_neg found] at matched
      cases matched

theorem moved_past {reply : call.Reply} (past : (stage.moved call reply).isPast = true) :
    stage.isPast = true ∨ ∃ selected dueBefore claimedAt,
      call = .claim selected dueBefore claimedAt := by
  cases call with
  | claim selected dueBefore claimedAt => exact .inr ⟨selected, dueBefore, claimedAt, rfl⟩
  | selectExpired now =>
    left
    simp only [PurgeStage.moved, PurgeStage.afterSelect] at past
    split at past
    · split at past <;> cases past
    · exact past
  | selectStranded =>
    left
    simp only [PurgeStage.moved, PurgeStage.afterStranded] at past
    split at past
    · cases past
    · exact past
  | ownerPaysNow =>
    left
    cases stage <;> first | exact past | rfl
  | release selected claimedAt =>
    left
    cases stage <;> first | rfl | cases past
  | markDeleted deletedAt =>
    left
    cases stage <;> first | exact past | rfl
  | selectRestorable =>
    left
    cases stage with
    | released =>
      simp only [PurgeStage.moved, PurgeStage.afterSeek] at past
      split at past <;> cases past
    | _ => exact past
  | restore =>
    left
    cases stage with
    | sought =>
      simp only [PurgeStage.moved, PurgeStage.afterRestore] at past
      split at past <;> cases past
    | _ => exact past
  | readClock | readPlanAccess | handOff | insertArchive _ | teardown | resume
    | selectSchedulable | schedule _ | selectStale | scheduleStale _ | suspend _ =>
      exact .inl past

theorem arrives_alone (sound : PurgeSound world) (apart : other ≠ number)
    (orderly : turn.fails = false → call.Orderly number world) (live : world.lives number = true)
    (past : (PurgeStage.moved call (performPurge number call turn world.store.store).2
      (world.store.states number)).isPast = true)
    (otherPast : pastClaim world other = true) : False := by
  cases own : (world.store.states number).isPast with
  | true =>
    have pasts : pastClaim world number = true := by simp [pastClaim, live, own]
    exact apart (sound.exclusive other number otherPast pasts)
  | false =>
    cases moved_past past with
    | inl already =>
      rw [own] at already
      cases already
    | inr claims =>
      have ⟨selected, dueBefore, claimedAt, isClaim⟩ := claims
      subst isClaim
      by_cases matched :
          (performPurge number (.claim selected dueBefore claimedAt) turn
            world.store.store).2 = some true
      · have ⟨succeeds, found⟩ := claim_reply matched
        have none : pastClaim world other = false :=
          claim_alone sound found (orderly succeeds)
        rw [otherPast] at none
        cases none
      · simp only [PurgeStage.moved, PurgeStage.afterClaim] at past
        split at past
        · rw [if_neg matched] at past
          cases past
        · rw [own] at past
          cases past

theorem advance_sound {fault : PurgeTurn} {next : call.Reply → PurgeScript Unit}
    (sound : PurgeSound world) (current : world.runs[number]? = some (some (.call call next)))
    (orderly : fault.fails = false → call.Orderly number world) :
    PurgeSound (stepPurge world (.advance number fault)) := by
  have keeps := keep_step purge_job_keeps (.advance number fault) sound.keeps
  have permitted : call.permitted (world.store.states number) :=
    (sound.keeps.keeps number _ current).1
  have live : world.lives number = true := running_of current
  have inside : number < world.runs.length := (List.getElem?_eq_some_iff.mp current).1
  have own : Leaves number call (world.store.states number)
      (performPurge number call fault world.store.store) := by
    have fits := sound.fits number
    rw [live] at fits
    apply own_leaves permitted sound.shut fits (not_due_again sound number orderly)
    intro asks succeeds
    subst asks
    exact orderly succeeds
  have ⟨back, steps⟩ := perform_steps number call fault world.store.store
  have stepped : stepPurge world (.advance number fault) = _ := step_advance current fault
  have runs : ∀ other, (stepPurge world (.advance number fault)).lives other =
      world.lives other := by
    intro other
    rw [World.lives, stepped]
    dsimp only
    rw [List.getElem?_set]
    by_cases isOwn : number = other
    · rw [if_pos isOwn, ← isOwn, if_pos inside]
      exact live.symm
    · rw [if_neg isOwn]
      rfl
  have states : ∀ other, (stepPurge world (.advance number fault)).store.states other =
      if other = number then
        PurgeStage.moved call (performPurge number call fault world.store.store).2
          (world.store.states number)
      else world.store.states other := by
    intro other
    rw [stepped]
    rfl
  have store : (stepPurge world (.advance number fault)).store.store =
      (performPurge number call fault world.store.store).1 := by
    rw [stepped]
    rfl
  constructor
  · exact keeps
  · rw [store]
    exact step_keeps_shut steps.row sound.shut
  · intro other
    rw [runs, states, store]
    by_cases isOwn : other = number
    · rw [if_pos isOwn, isOwn, live]
      exact own
    · rw [if_neg isOwn]
      exact other_fits sound isOwn live permitted orderly
  · intro first second firstPast secondPast
    simp only [pastClaim, runs, states, Bool.and_eq_true] at firstPast secondPast
    by_cases isFirst : first = number
    · by_cases isSecond : second = number
      · rw [isFirst, isSecond]
      · rw [if_pos isFirst] at firstPast
        rw [if_neg isSecond] at secondPast
        have otherPast : pastClaim world second = true := by
          simp [pastClaim, secondPast.1, secondPast.2]
        exact (arrives_alone sound isSecond orderly live firstPast.2 otherPast).elim
    · rw [if_neg isFirst] at firstPast
      have otherPast : pastClaim world first = true := by
        simp [pastClaim, firstPast.1, firstPast.2]
      by_cases isSecond : second = number
      · rw [if_pos isSecond] at secondPast
        exact (arrives_alone sound isFirst orderly live secondPast.2 otherPast).elim
      · rw [if_neg isSecond] at secondPast
        apply sound.exclusive first second otherPast
        simp [pastClaim, secondPast.1, secondPast.2]

theorem sound_step (event : PurgeEvent) (apart : Apart world event) (sound : PurgeSound world) :
    PurgeSound (stepPurge world event) := by
  have keeps := keep_step purge_job_keeps event sound.keeps
  cases event with
  | start job =>
    have runs : ∀ other, other ≠ world.runs.length →
        (stepPurge world (.start job)).lives other = world.lives other := by
      intro other apart
      have there : (stepPurge world (.start job)).runs[other]? = world.runs[other]? := by
        simp only [stepPurge, System.step, List.getElem?_append]
        split
        · rfl
        · rw [List.getElem?_singleton, if_neg (by omega), List.getElem?_eq_none (by omega)]
      rw [World.lives, there]
      rfl
    constructor
    · exact keeps
    · exact sound.shut
    · intro other
      by_cases isNew : other = world.runs.length
      · have fits := sound.fits other
        have fresh : world.store.states other = .fresh :=
          sound.keeps.unstarted other (by omega)
        change Fits (world.store.states other) (world.store.store.progress other)
          world.store.store.row _
        rw [fresh] at fits ⊢
        exact fits
      · rw [runs other isNew]
        exact sound.fits other
    · intro first second firstPast secondPast
      have older : ∀ other, pastClaim (stepPurge world (.start job)) other = true →
          pastClaim world other = true := by
        intro other past
        simp only [pastClaim, Bool.and_eq_true] at past ⊢
        by_cases isNew : other = world.runs.length
        · have fresh : world.store.states other = .fresh :=
            sound.keeps.unstarted other (by omega)
          have stage : (stepPurge world (.start job)).store.states other = .fresh := fresh
          rw [stage] at past
          cases past.2
        · rw [runs other isNew] at past
          exact past
      exact sound.exclusive first second (older first firstPast) (older second secondPast)
  | stop number =>
    have runs : ∀ other, (stepPurge world (.stop number)).lives other =
        (world.lives other && !decide (number = other)) := by
      intro other
      have there : (stepPurge world (.stop number)).runs = world.runs.set number none := rfl
      rw [World.lives, there, List.getElem?_set]
      by_cases isOwn : number = other
      · rw [if_pos isOwn]
        simp [isOwn]
      · rw [if_neg isOwn]
        simp [World.lives, isOwn]
    constructor
    · exact keeps
    · exact sound.shut
    · intro other
      have fits := sound.fits other
      rw [runs]
      by_cases isOwn : number = other
      · simp only [isOwn, decide_true, Bool.not_true, Bool.and_false]
        exact fits_stopped fits
      · simp only [isOwn, decide_false, Bool.not_false, Bool.and_true]
        exact fits
    · intro first second firstPast secondPast
      have older : ∀ other, pastClaim (stepPurge world (.stop number)) other = true →
          pastClaim world other = true := by
        intro other past
        simp only [pastClaim, runs, Bool.and_eq_true] at past ⊢
        exact ⟨past.1.1, past.2⟩
      exact sound.exclusive first second (older first firstPast) (older second secondPast)
  | outside change =>
    constructor
    · exact keeps
    · cases change <;> exact sound.shut
    · cases change <;> exact sound.fits
    · exact sound.exclusive
  | advance number fault =>
    apply System.advance_cases _ PurgeSound sound
    intro call next current
    apply advance_sound sound current
    simpa [Apart, current] using apart

section

variable {held : PurgeProgress} {row : InstanceRow} {live : Bool} (fits : Fits stage held row live)
include fits

theorem fits_destroyed (destroyed : held.destroyed = true) :
    held.pays = some false ∧ ∃ selected, ClaimedAs held selected := by
  have absurd_of : held.destroyed = false → False := by
    intro undestroyed
    rw [undestroyed] at destroyed
    cases destroyed
  cases stage with
  | fresh => exact (absurd_of fits.1.undestroyed).elim
  | stranded => exact fits.elim
  | picked selected dueBefore => exact (absurd_of fits.1.undestroyed).elim
  | claimed selected claimedAt => exact (absurd_of fits.1).elim
  | unread selected claimedAt => exact (absurd_of fits.1).elim
  | unpaid selected claimedAt => exact ⟨fits.pays, selected, fits.claimed⟩
  | payer selected claimedAt => exact (absurd_of fits.1).elim
  | marked => exact fits
  | released => exact (absurd_of fits.undestroyed).elim
  | sought => exact (absurd_of fits.undestroyed).elim
  | handed => exact (absurd_of fits.1).elim
  | gaveUp => exact (absurd_of fits.1).elim
  | closed => exact fits.1 destroyed

theorem fits_over (finished : stage.isOver = true) (pays : held.pays = some true)
    (unfailed : held.failed = false) : held.handedBack = true := by
  have absurd_of : ∀ {answer : Option Bool}, held.pays = answer → answer ≠ some true → False := by
    intro answer same apart
    exact apart (same.symm.trans pays)
  cases stage with
  | fresh => exact (absurd_of fits.1.unread (by simp)).elim
  | stranded => exact fits.elim
  | picked selected dueBefore => exact (absurd_of fits.1.unread (by simp)).elim
  | marked => exact (absurd_of fits.1 (by simp)).elim
  | handed => exact fits.2
  | gaveUp =>
    rw [fits.2] at unfailed
    cases unfailed
  | closed =>
    rw [fits.2 pays] at unfailed
    cases unfailed
  | claimed _ _ | unread _ _ | unpaid _ _ | payer _ _ | released | sought => cases finished

end

theorem sound_wins (sound : PurgeSound world) : OneWins world := by
  constructor
  · intro other destroyed
    exact fits_destroyed (sound.fits other) destroyed
  · exact sound.exclusive
  · intro other ended pays unfailed
    apply fits_over (sound.fits other) _ pays unfailed
    simp only [World.ended] at ended
    split at ended
    · rename_i current
      exact sound.keeps.keeps other _ current
    · rename_i current
      exact sound.keeps.keeps other _ current
    · cases ended

theorem sound_start {store : PurgeStore} (scheduled : store.row.status = .scheduledForDeletion)
    (new : store.progress = fun _ => PurgeProgress.initial) :
    PurgeSound (purgeTypestate.start store) := by
  constructor
  · exact start_keeps store
  · intro deleted
    rw [show (purgeTypestate.start store : PurgeWorld).store.store.row.status =
      .scheduledForDeletion from scheduled] at deleted
    cases deleted
  · intro number
    have held : (purgeTypestate.start store : PurgeWorld).store.store.progress number =
        PurgeProgress.initial := by
      rw [show (purgeTypestate.start store : PurgeWorld).store.store.progress = store.progress
        from rfl, new]
    rw [held]
    exact ⟨⟨rfl, rfl, rfl, rfl⟩, rfl⟩
  · intro first second past
    cases past

end Worlds

/-- While runs keep apart, only one of purge and payment wins, in every state that is reached. -/
theorem one_wins_apart (store : PurgeStore) (history : List PurgeEvent)
    (scheduled : store.row.status = .scheduledForDeletion)
    (new : store.progress = fun _ => PurgeProgress.initial)
    (apart : Meets stepPurge Apart (purgeTypestate.start store) history) :
    OneWins (history.foldl stepPurge (purgeTypestate.start store)) := by
  apply sound_wins
  apply meets_keeps apart (sound_start scheduled new)
  intro world event isApart sound
  exact sound_step event isApart sound

def dueRow : InstanceRow :=
  { userId := "user_1"
    status := .scheduledForDeletion
    lifecycleState := .suspended
    entitlementReason := some .subscriptionCanceled
    scheduledDeletionAt := some 0
    deletedAt := none
    proxmoxVmid := some 7
    hetznerServerId := none }

def dueStore : PurgeStore :=
  { row := dueRow
    clock := 1
    entitled := false
    planAccess := false
    progress := fun _ => .initial }

def well : PurgeTurn := { fails := false, eligible := true }

def advances (number count : Nat) : List PurgeEvent :=
  List.replicate count (.advance number well)

/-- A run stops right after its claim, and the owner pays; another run comes to the row. -/
def stoppedClaim : List PurgeEvent :=
  .start (.purgeExpired false) :: advances 0 5 ++
    .stop 0 :: .outside (.entitle true) :: .start (.purgeExpired false) :: advances 1 10

def crossedClaims : List PurgeEvent :=
  .start (.purgeExpired false) :: advances 0 5 ++
    .start (.purgeExpired false) :: advances 1 5

def wholePurge : List PurgeEvent := .start (.purgeExpired false) :: advances 0 11

theorem one_wins_apart_purge :
    OneWins (wholePurge.foldl stepPurge (purgeTypestate.start dueStore)) ∧
      (wholePurge.foldl stepPurge (purgeTypestate.start dueStore)).store.store.row.status =
        .deleted :=
  ⟨one_wins_apart dueStore wholePurge rfl rfl (by decide +kernel), by decide +kernel⟩

/-- After a stopped claim a payer's row is not handed back, and a second run can claim the row
over the first. -/
theorem a_stamp_outlives_its_run :
    ¬OneWins (stoppedClaim.foldl stepPurge (purgeTypestate.start dueStore)) ∧
      ¬OneWins (crossedClaims.foldl stepPurge (purgeTypestate.start dueStore)) := by
  constructor
  · intro wins
    have handed := wins.handedBack 1 (by decide +kernel) (by decide +kernel) (by decide +kernel)
    revert handed
    decide +kernel
  · intro wins
    have same := wins.exclusive 0 1 (by decide +kernel) (by decide +kernel)
    cases same

end Hivra.Instances
