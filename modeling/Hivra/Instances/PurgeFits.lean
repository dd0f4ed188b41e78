import Hivra.Instances.PurgeClaims

/-!
# What a purge has come to

What holds of a run, of its progress and of the row, at every stage of the run: a run that is past
its claim has stamped the row, and one that has released the row of a payer finds it open or
restored.  Its own requests take it from stage to stage, those of the others leave it there.
-/

namespace Hivra.Instances

open Hivra.Library Typestate
open Hivra.StripeSubscriptions (InstanceStatus)

structure ClaimedAs (held : PurgeProgress) (selected : InstanceRow) : Prop where
  selects : held.selected = some selected
  due : selected.isDue held.dueBefore = true
  matched : ∃ row, held.matched = some row ∧ row.isDue held.dueBefore = true ∧
    row.lifecycleState = selected.lifecycleState ∧ row.deletedAt = selected.deletedAt
  unrestored : held.restored = false

structure Unclaimed (held : PurgeProgress) : Prop where
  matched : held.matched = none
  undestroyed : held.destroyed = false
  unread : held.pays = none
  unreleased : held.released = false

/-- The run is past its claim; `pays` is what it read. -/
structure Claiming (selected : InstanceRow) (claimedAt : Int) (pays : Option Bool)
    (held : PurgeProgress) (row : InstanceRow) (live : Bool) : Prop where
  claimed : ClaimedAs held selected
  pays : held.pays = pays
  stamped : live = true → Stamped row claimedAt

structure Handing (held : PurgeProgress) (row : InstanceRow) (live : Bool) : Prop where
  undestroyed : held.destroyed = false
  released : held.released = true
  waiting : live = true → held.handedBack = false → Waiting row

def Fits (stage : PurgeStage) (held : PurgeProgress) (row : InstanceRow) (live : Bool) : Prop :=
  match stage with
  | .fresh => Unclaimed held ∧ held.selected = none
  | .stranded => False
  | .picked selected dueBefore =>
    Unclaimed held ∧ held.selected = some selected ∧ held.dueBefore = dueBefore ∧
      selected.isDue dueBefore = true ∧
        (held.restored = true → row.isDue held.dueBefore = false)
  | .claimed selected claimedAt =>
    held.destroyed = false ∧ Claiming selected claimedAt none held row live
  | .unread selected claimedAt =>
    held.destroyed = false ∧ Claiming selected claimedAt none held row live
  | .unpaid selected claimedAt => Claiming selected claimedAt (some false) held row live
  | .payer selected claimedAt =>
    held.destroyed = false ∧ selected.deletedAt = none ∧
      Claiming selected claimedAt (some true) held row live
  | .marked => held.pays = some false ∧ ∃ selected, ClaimedAs held selected
  | .released => Handing held row live
  | .sought => Handing held row live
  | .handed => held.destroyed = false ∧ held.handedBack = true
  | .gaveUp => held.destroyed = false ∧ held.failed = true
  | .closed =>
    (held.destroyed = true → held.pays = some false ∧ ∃ selected, ClaimedAs held selected) ∧
      (held.pays = some true → held.failed = true)

variable {row selected : InstanceRow} {held : PurgeProgress}

variable {pays : Option Bool}

section Frames

variable {stage : PurgeStage} {held : PurgeProgress} {before after : InstanceRow} {live : Bool}

theorem claiming_frame {claimedAt : Int}
    (claiming : Claiming selected claimedAt pays held before live)
    (stamped : live = true → ∀ claimedAt, Stamped before claimedAt → Stamped after claimedAt) :
    Claiming selected claimedAt pays held after live :=
  ⟨claiming.claimed, claiming.pays, fun isLive => stamped isLive _ (claiming.stamped isLive)⟩

theorem handing_frame (handing : Handing held before live)
    (waiting : live = true → held.handedBack = false → Waiting before → Waiting after) :
    Handing held after live :=
  ⟨handing.undestroyed, handing.released,
    fun isLive still => waiting isLive still (handing.waiting isLive still)⟩

theorem fits_frame (fits : Fits stage held before live)
    (undue : held.overtaken = true → before.isDue held.dueBefore = false →
      after.isDue held.dueBefore = false)
    (stamped : live = true → stage.isPast = true →
      ∀ claimedAt, Stamped before claimedAt → Stamped after claimedAt)
    (waiting : live = true → stage.isHanding = true → held.handedBack = false →
      Waiting before → Waiting after) :
    Fits stage held after live := by
  cases stage with
  | fresh => exact fits
  | stranded => exact fits
  | picked selected dueBefore =>
    have ⟨unclaimed, isSelected, isDue, due, restored⟩ := fits
    refine ⟨unclaimed, isSelected, isDue, due, ?_⟩
    intro isRestored
    apply undue
    · simp [PurgeProgress.overtaken, isSelected, unclaimed.matched, isRestored]
    · exact restored isRestored
  | claimed selected claimedAt =>
    exact ⟨fits.1, claiming_frame fits.2 fun isLive => stamped isLive rfl⟩
  | unread selected claimedAt =>
    exact ⟨fits.1, claiming_frame fits.2 fun isLive => stamped isLive rfl⟩
  | unpaid selected claimedAt => exact claiming_frame fits fun isLive => stamped isLive rfl
  | payer selected claimedAt =>
    exact ⟨fits.1, fits.2.1, claiming_frame fits.2.2 fun isLive => stamped isLive rfl⟩
  | marked => exact fits
  | released => exact handing_frame fits fun isLive => waiting isLive rfl
  | sought => exact handing_frame fits fun isLive => waiting isLive rfl
  | handed => exact fits
  | gaveUp => exact fits
  | closed => exact fits

theorem claimed_as_back (claimed : ClaimedAs held selected) :
    ClaimedAs held.broughtBack selected := by
  have ⟨isSelected, due, matched, unrestored⟩ := claimed
  have ⟨row, isRow, _⟩ := matched
  constructor
  · exact isSelected
  · exact due
  · exact matched
  · simp [PurgeProgress.broughtBack, unrestored, isRow]

theorem claiming_back {claimedAt : Int}
    (claiming : Claiming selected claimedAt pays held before live)
    (unstamped : live = true → ∀ claimedAt, ¬Stamped before claimedAt) :
    Claiming selected claimedAt pays held.broughtBack after live :=
  ⟨claimed_as_back claiming.claimed, claiming.pays,
    fun isLive => absurd (claiming.stamped isLive) (unstamped isLive _)⟩

theorem handing_back (handing : Handing held before live) :
    Handing held.broughtBack after live := by
  constructor
  · exact handing.undestroyed
  · exact handing.released
  · intro _ still
    simp [PurgeProgress.broughtBack, handing.released] at still

theorem fits_back (fits : Fits stage held before live)
    (undue : ∀ dueBefore, after.isDue dueBefore = false)
    (unstamped : live = true → ∀ claimedAt, ¬Stamped before claimedAt) :
    Fits stage held.broughtBack after live := by
  cases stage with
  | fresh =>
    have ⟨unclaimed, unselected⟩ := fits
    exact ⟨⟨unclaimed.matched, unclaimed.undestroyed, unclaimed.unread,
      unclaimed.unreleased⟩, unselected⟩
  | stranded => exact fits
  | picked selected dueBefore =>
    have ⟨unclaimed, isSelected, isDue, due, restored⟩ := fits
    have still : Unclaimed held.broughtBack :=
      ⟨unclaimed.matched, unclaimed.undestroyed, unclaimed.unread, unclaimed.unreleased⟩
    exact ⟨still, isSelected, isDue, due, fun _ => undue _⟩
  | claimed selected claimedAt => exact ⟨fits.1, claiming_back fits.2 unstamped⟩
  | unread selected claimedAt => exact ⟨fits.1, claiming_back fits.2 unstamped⟩
  | unpaid selected claimedAt => exact claiming_back fits unstamped
  | payer selected claimedAt => exact ⟨fits.1, fits.2.1, claiming_back fits.2.2 unstamped⟩
  | marked =>
    have ⟨unpaid, selected, claimed⟩ := fits
    exact ⟨unpaid, selected, claimed_as_back claimed⟩
  | released => exact handing_back fits
  | sought => exact handing_back fits
  | handed =>
    constructor
    · exact fits.1
    · simp [PurgeProgress.broughtBack, fits.2]
  | gaveUp => exact fits
  | closed =>
    constructor
    · intro destroyed
      have ⟨unpaid, selected, claimed⟩ := fits.1 destroyed
      exact ⟨unpaid, selected, claimed_as_back claimed⟩
    · exact fits.2

theorem fits_fails (fits : Fits stage held before live) : Fits stage held.fails before live := by
  have claimed_as : ∀ {selected}, ClaimedAs held selected → ClaimedAs held.fails selected :=
    fun claimed => ⟨claimed.selects, claimed.due, claimed.matched, claimed.unrestored⟩
  cases stage with
  | fresh =>
    have ⟨unclaimed, unselected⟩ := fits
    exact ⟨⟨unclaimed.matched, unclaimed.undestroyed, unclaimed.unread,
      unclaimed.unreleased⟩, unselected⟩
  | stranded => exact fits
  | picked selected dueBefore =>
    have ⟨unclaimed, rest⟩ := fits
    exact ⟨⟨unclaimed.matched, unclaimed.undestroyed, unclaimed.unread,
      unclaimed.unreleased⟩, rest⟩
  | claimed selected claimedAt =>
    exact ⟨fits.1, claimed_as fits.2.claimed, fits.2.pays, fits.2.stamped⟩
  | unread selected claimedAt =>
    exact ⟨fits.1, claimed_as fits.2.claimed, fits.2.pays, fits.2.stamped⟩
  | unpaid selected claimedAt => exact ⟨claimed_as fits.claimed, fits.pays, fits.stamped⟩
  | payer selected claimedAt =>
    exact ⟨fits.1, fits.2.1, claimed_as fits.2.2.claimed, fits.2.2.pays, fits.2.2.stamped⟩
  | marked =>
    have ⟨unpaid, selected, claimed⟩ := fits
    exact ⟨unpaid, selected, claimed_as claimed⟩
  | released => exact ⟨fits.undestroyed, fits.released, fits.waiting⟩
  | sought => exact ⟨fits.undestroyed, fits.released, fits.waiting⟩
  | handed => exact fits
  | gaveUp => exact ⟨fits.1, rfl⟩
  | closed =>
    constructor
    · intro destroyed
      have ⟨unpaid, selected, claimed⟩ := fits.1 destroyed
      exact ⟨unpaid, selected, claimed_as claimed⟩
    · intro _
      rfl

theorem claiming_stopped {claimedAt : Int}
    (claiming : Claiming selected claimedAt pays held before live) :
    Claiming selected claimedAt pays held after false :=
  ⟨claiming.claimed, claiming.pays, fun isLive => by cases isLive⟩

theorem handing_stopped (handing : Handing held before live) : Handing held after false :=
  ⟨handing.undestroyed, handing.released, fun isLive => by cases isLive⟩

theorem fits_stopped (fits : Fits stage held before live) : Fits stage held before false := by
  cases stage with
  | fresh => exact fits
  | stranded => exact fits
  | picked selected dueBefore => exact fits
  | claimed selected claimedAt => exact ⟨fits.1, claiming_stopped fits.2⟩
  | unread selected claimedAt => exact ⟨fits.1, claiming_stopped fits.2⟩
  | unpaid selected claimedAt => exact claiming_stopped fits
  | payer selected claimedAt => exact ⟨fits.1, fits.2.1, claiming_stopped fits.2.2⟩
  | marked => exact fits
  | released => exact handing_stopped fits
  | sought => exact handing_stopped fits
  | handed => exact fits
  | gaveUp => exact fits
  | closed => exact fits

variable {call : PurgeCall} {fails back : Bool}

theorem back_unstamped (step : RowStep before fails call after true) (claimedAt : Int) :
    ¬Stamped before claimedAt := by
  intro stamped
  cases step with
  | restored found => simp [InstanceRow.isRestorable, stamped.stamp] at found
  | resumed found => simp [InstanceRow.isResumable, stamped.stamp] at found

theorem fits_quiet (fits : Fits stage held before live)
    (step : RowStep before fails call after back) (quiet : call.isQuiet = true)
    (later : held.overtaken = true → ∀ deadline, fails = false →
      call = .schedule deadline ∨ call = .scheduleStale deadline ∧ before.isStale = true →
        held.dueBefore < deadline) :
    Fits stage (held.after back) after live := by
  cases back with
  | true => exact fits_back fits (restored_undue step) fun _ => back_unstamped step
  | false =>
    apply fits_frame fits
    · intro overtaken undue
      exact step_keeps_undue step undue (later overtaken)
    · intro _ _ claimedAt stamped
      exact (step_keeps_stamp step quiet stamped).1
    · intro _ _ _ waiting
      cases step_keeps_waiting step quiet waiting with
      | inl still => exact still
      | inr impossible => cases impossible

theorem fits_bystander (fits : Fits stage held before live)
    (step : RowStep before fails call after back) (loud : call.isQuiet = false)
    (unclaimed : live = true → stage.isPast = true → ∀ claimedAt, ¬Stamped before claimedAt)
    (unwaiting : live = true → stage.isHanding = true → held.handedBack = false →
      ¬Waiting before) :
    Fits stage (held.after back) after live := by
  have calm : back = false := by
    cases step <;> first | rfl | cases loud
  rw [calm]
  apply fits_frame fits
  · intro _ undue
    apply step_keeps_undue step undue
    intro deadline _ scheduling
    cases scheduling with
    | inl schedule => rw [schedule] at loud; cases loud
    | inr stale => rw [stale.1] at loud; cases loud
  · intro isLive past claimedAt stamped
    exact absurd stamped (unclaimed isLive past claimedAt)
  · intro isLive hands still waiting
    exact absurd waiting (unwaiting isLive hands still)

end Frames

section Own

variable {number : Nat} {turn : PurgeTurn} {store : PurgeStore}
variable {selected : InstanceRow} {dueBefore claimedAt : Int}

theorem noted_own {noted : PurgeProgress → PurgeProgress} :
    (store.note number noted).progress number = noted (store.progress number) := by
  simp [PurgeStore.note]

theorem claim_matches (fits : Fits (.picked selected dueBefore) held row true)
    (found : row.matchesClaim selected dueBefore = true) :
    ClaimedAs (held.claims row) selected ∧ row.status = .scheduledForDeletion ∧
      row.lifecycleState = selected.lifecycleState := by
  have ⟨unclaimed, isSelected, isDue, due, restored⟩ := fits
  simp only [InstanceRow.matchesClaim, Bool.and_eq_true, beq_iff_eq] at found
  have ⟨⟨⟨status, lifecycle⟩, deletedAt⟩, deadline⟩ := found
  have scheduled : selected.status = .scheduledForDeletion := by
    simp only [InstanceRow.isDue, Bool.and_eq_true, beq_iff_eq] at due
    exact due.1
  have rowDue : row.isDue dueBefore = true := by
    simpa [InstanceRow.isDue, status, scheduled] using deadline
  refine ⟨?_, status.trans scheduled, lifecycle⟩
  constructor
  · exact isSelected
  · rw [show (held.claims row).dueBefore = dueBefore from isDue]
    exact due
  · exact ⟨row, rfl, by rw [show (held.claims row).dueBefore = dueBefore from isDue]; exact rowDue,
      lifecycle, deletedAt⟩
  · cases isRestored : held.restored with
    | false => exact isRestored
    | true =>
      have undue := restored isRestored
      rw [isDue, rowDue] at undue
      cases undue

def Leaves (number : Nat) (call : PurgeCall) (stage : PurgeStage)
    (answer : PurgeStore × call.Reply) : Prop :=
  Fits (stage.moved call answer.2) (answer.1.progress number) answer.1.row true

theorem leaves_performed {call : PurgeCall} {stage : PurgeStage}
    (failed : Leaves number call stage (failPurge number call store))
    (answered : turn.fails = false →
      Leaves number call stage (answerPurge number call turn.eligible store)) :
    Leaves number call stage (performPurge number call turn store) := by
  rw [performPurge]
  cases fails : turn.fails with
  | true => exact failed
  | false => exact answered fails

theorem unclaimed_closed {live : Bool}
    (undestroyed : held.destroyed = false) (unread : held.pays = none) :
    Fits .closed held row live := by
  constructor
  · intro destroyed
    rw [undestroyed] at destroyed
    cases destroyed
  · intro pays
    rw [unread] at pays
    cases pays

theorem claim_leaves {eligible : Bool}
    (fits : Fits (.picked selected dueBefore) (store.progress number) store.row true)
    (warm : selected.lifecycleState ≠ .coldArchived) :
    Leaves number (.claim selected dueBefore claimedAt) (.picked selected dueBefore)
      (answerPurge number (.claim selected dueBefore claimedAt) eligible store) := by
  obtain ⟨unclaimed, _⟩ := id fits
  rw [answerPurge]
  split
  · rename_i found
    obtain ⟨claimed, scheduled, lifecycle⟩ := claim_matches fits found
    have own : ((store.note number fun held => held.claims store.row).write
        (store.row.claimed claimedAt)).progress number =
          (store.progress number).claims store.row := by
      simp [PurgeStore.write, PurgeStore.note]
    rw [Leaves, own]
    rw [← lifecycle] at warm
    exact ⟨unclaimed.undestroyed, claimed, unclaimed.unread, fun _ => ⟨rfl, scheduled, warm⟩⟩
  · exact unclaimed_closed unclaimed.undestroyed unclaimed.unread

theorem failed_claim_leaves
    (fits : Fits (.picked selected dueBefore) (store.progress number) store.row true) :
    Leaves number (.claim selected dueBefore claimedAt) (.picked selected dueBefore)
      (failPurge number (.claim selected dueBefore claimedAt) store) := by
  have ⟨unclaimed, _⟩ := fits
  have own : (store.fail number).progress number = (store.progress number).fails := noted_own
  apply unclaimed_closed
  · exact (congrArg PurgeProgress.destroyed own).trans unclaimed.undestroyed
  · exact (congrArg PurgeProgress.pays own).trans unclaimed.unread

theorem claiming_closed (claiming : Claiming selected claimedAt pays held row true)
    (unread : pays = none → held.destroyed = false) (unpaid : pays ≠ some true)
    {later : PurgeProgress} {next : InstanceRow}
    (same : later.destroyed = held.destroyed ∧ later.pays = held.pays ∧
      (ClaimedAs held selected → ClaimedAs later selected)) :
    Fits .closed later next true := by
  constructor
  · intro destroyed
    rw [same.1] at destroyed
    match pays with
    | none =>
      rw [unread rfl] at destroyed
      cases destroyed
    | some false =>
      exact ⟨same.2.1.trans claiming.pays, selected, same.2.2 claiming.claimed⟩
    | some true => exact absurd rfl unpaid
  · intro isPaid
    rw [same.2.1, claiming.pays] at isPaid
    exact absurd isPaid unpaid

variable {stage : PurgeStage} {eligible : Bool}

section

variable (past : stage.claim = some (selected, claimedAt))
include past

section

variable (fits : Fits stage (store.progress number) store.row true)
include fits

theorem claim_of_past :
    (∃ pays, Claiming selected claimedAt pays (store.progress number) store.row true ∧
      (pays = none → (store.progress number).destroyed = false) ∧ pays ≠ some true ∧
        ∀ done, stage.afterRelease done = .closed) ∨
      stage = .payer selected claimedAt := by
  cases stage with
  | claimed _ _ | unread _ _ =>
    cases past
    left
    exact ⟨none, fits.2, fun _ => fits.1, by simp, fun _ => rfl⟩
  | unpaid _ _ =>
    cases past
    left
    exact ⟨some false, fits, by simp, by simp, fun _ => rfl⟩
  | payer _ _ =>
    cases past
    exact .inr rfl
  | _ => cases past

theorem past_stamped : Stamped store.row claimedAt := by
  cases claim_of_past past fits with
  | inl open_ =>
    have ⟨_, claiming, _⟩ := open_
    exact claiming.stamped rfl
  | inr payer =>
    rw [payer] at fits
    exact fits.2.2.stamped rfl

theorem release_leaves : Leaves number (.release selected claimedAt) stage
      (answerPurge number (.release selected claimedAt) eligible store) := by
  have stamped := past_stamped past fits
  have own : ((store.note number PurgeProgress.releases).write
      (store.row.released selected)).progress number =
        (store.progress number).releases := by
    simp [PurgeStore.write, PurgeStore.note]
  simp only [answerPurge, if_pos stamped.stamp]
  rw [Leaves, own]
  cases claim_of_past past fits with
  | inl given =>
    obtain ⟨pays, claiming, unread, unpaid, closes⟩ := given
    change Fits (stage.afterRelease (some true)) _ _ true
    rw [closes]
    apply claiming_closed claiming unread unpaid
    exact ⟨rfl, rfl, fun claimed =>
      ⟨claimed.selects, claimed.due, claimed.matched, claimed.unrestored⟩⟩
  | inr payer =>
    subst payer
    obtain ⟨undestroyed, unstamped, _⟩ := fits
    exact ⟨undestroyed, rfl, fun _ _ => ⟨unstamped, stamped.scheduled, stamped.warm⟩⟩

theorem failed_release_leaves : Leaves number (.release selected claimedAt) stage
      (failPurge number (.release selected claimedAt) store) := by
  have own : (store.fail number).progress number = (store.progress number).fails := noted_own
  simp only [failPurge]
  rw [Leaves, own]
  cases claim_of_past past fits with
  | inl given =>
    have ⟨pays, claiming, unread, unpaid, closes⟩ := given
    change Fits (stage.afterRelease none) _ _ true
    rw [closes]
    apply claiming_closed claiming unread unpaid
    exact ⟨rfl, rfl, fun claimed =>
      ⟨claimed.selects, claimed.due, claimed.matched, claimed.unrestored⟩⟩
  | inr payer =>
    subst payer
    have ⟨undestroyed, _⟩ := fits
    constructor
    · intro destroyed
      rw [show (store.progress number).fails.destroyed = false from undestroyed] at destroyed
      cases destroyed
    · intro _
      rfl

end

end

theorem destroys_claiming (claiming : Claiming selected claimedAt pays held row true) :
    Claiming selected claimedAt pays held.destroys row true := by
  have ⟨claimed, isPays, stamped⟩ := claiming
  exact ⟨⟨claimed.selects, claimed.due, claimed.matched, claimed.unrestored⟩, isPays, stamped⟩

section

variable (fits : Fits (.unpaid selected claimedAt) (store.progress number) store.row true)
include fits

theorem teardown_leaves : Leaves number .teardown (.unpaid selected claimedAt)
      (answerPurge number .teardown eligible store) := by
  simp only [answerPurge]
  rw [Leaves, noted_own]
  exact destroys_claiming fits

theorem failed_teardown_leaves :
    Leaves number .teardown (.unpaid selected claimedAt) (failPurge number .teardown store) := by
  simp only [failPurge]
  rw [Leaves, noted_own, PurgeStore.fail, noted_own]
  exact destroys_claiming (fits_fails fits)

theorem mark_leaves {deletedAt : Int} :
    Leaves number (.markDeleted deletedAt) (.unpaid selected claimedAt)
      (answerPurge number (.markDeleted deletedAt) eligible store) :=
  ⟨fits.pays, selected, fits.claimed⟩

end

theorem ask_leaves
    (fits : Fits (.claimed selected claimedAt) (store.progress number) store.row true)
    (unstamped : store.entitled = true → selected.deletedAt = none) :
    Leaves number .ownerPaysNow (.claimed selected claimedAt)
      (answerPurge number .ownerPaysNow eligible store) := by
  have ⟨undestroyed, claiming⟩ := fits
  have ⟨row, matched, _⟩ := claiming.claimed.matched
  have unread := claiming.pays
  have asks : (store.progress number).asks store.entitled =
      { store.progress number with pays := some store.entitled } := by
    simp [PurgeProgress.asks, matched, unread]
  have ⟨claimed, _, stamped⟩ := claiming
  have still : ClaimedAs { store.progress number with pays := some store.entitled } selected :=
    ⟨claimed.selects, claimed.due, claimed.matched, claimed.unrestored⟩
  simp only [answerPurge]
  rw [Leaves, noted_own, asks]
  cases entitled : store.entitled with
  | false =>
    rw [entitled] at still
    exact ⟨still, rfl, stamped⟩
  | true =>
    rw [entitled] at still
    exact ⟨undestroyed, unstamped entitled, still, rfl, stamped⟩

theorem select_leaves {now : Int} (fits : Fits .fresh (store.progress number) store.row true) :
    Leaves number (.selectExpired now) .fresh
      (answerPurge number (.selectExpired now) eligible store) := by
  simp only [answerPurge]
  split
  · rename_i due
    have scheduled : store.row.status = .scheduledForDeletion := by
      simp only [InstanceRow.isDue, Bool.and_eq_true, beq_iff_eq] at due
      exact due.1
    rw [Leaves, noted_own]
    simp only [PurgeStage.moved, PurgeStage.afterSelect, if_pos scheduled]
    have unclaimed := fits.1
    refine ⟨⟨unclaimed.matched, unclaimed.undestroyed, unclaimed.unread,
      unclaimed.unreleased⟩, rfl, rfl, due, ?_⟩
    intro impossible
    cases impossible
  · exact fits

theorem stranded_leaves (shut : Shut store.row)
    (fits : Fits stage (store.progress number) store.row true) :
    Leaves number .selectStranded stage (answerPurge number .selectStranded eligible store) := by
  have none : store.row.isStranded = false := by
    cases deleted : store.row.status == InstanceStatus.deleted with
    | false => simp [InstanceRow.isStranded, deleted]
    | true => simp [InstanceRow.isStranded, shut (eq_of_beq deleted)]
  simp only [answerPurge, none]
  exact fits

theorem waiting_restorable (waiting : Waiting row) : row.isRestorable = true := by
  simp [InstanceRow.isRestorable, waiting.open_, waiting.scheduled]

theorem seek_leaves (fits : Fits .released (store.progress number) store.row true) :
    Leaves number .selectRestorable .released
      (answerPurge number .selectRestorable eligible store) := by
  simp only [answerPurge]
  rw [Leaves]
  cases found : store.row.isRestorable with
  | true => exact fits
  | false =>
    constructor
    · exact fits.undestroyed
    · cases handed : (store.progress number).handedBack with
      | true => rfl
      | false =>
        rw [waiting_restorable (fits.waiting rfl handed)] at found
        cases found

theorem restore_leaves (fits : Fits .sought (store.progress number) store.row true) :
    Leaves number .restore .sought (answerPurge number .restore eligible store) := by
  simp only [answerPurge]
  split
  · constructor
    · exact fits.undestroyed
    · simp [PurgeStore.bringBack, PurgeProgress.broughtBack, fits.released]
  · rename_i missed
    constructor
    · exact fits.undestroyed
    · cases handed : (store.progress number).handedBack with
      | true => rfl
      | false => exact absurd (waiting_restorable (fits.waiting rfl handed)) missed

theorem marked_leaves (fits : Fits .marked (store.progress number) store.row true) :
    Leaves number .ownerPaysNow .marked (answerPurge number .ownerPaysNow eligible store) := by
  have asks : (store.progress number).asks store.entitled = store.progress number := by
    simp [PurgeProgress.asks, fits.1]
  simp only [answerPurge]
  rw [Leaves, noted_own, asks]
  exact fits

theorem failed_ask_leaves
    (fits : Fits (.claimed selected claimedAt) (store.progress number) store.row true) :
    Leaves number .ownerPaysNow (.claimed selected claimedAt)
      (failPurge number .ownerPaysNow store) := by
  simp only [failPurge]
  rw [Leaves, PurgeStore.fail, noted_own]
  have stage : Fits (.unread selected claimedAt) (store.progress number) store.row true := fits
  exact fits_fails stage

theorem failed_seek_leaves (fits : Fits .released (store.progress number) store.row true) :
    Leaves number .selectRestorable .released (failPurge number .selectRestorable store) := by
  simp only [failPurge]
  rw [Leaves, PurgeStore.fail, noted_own]
  exact ⟨fits.undestroyed, rfl⟩

theorem failed_restore_leaves (fits : Fits .sought (store.progress number) store.row true) :
    Leaves number .restore .sought (failPurge number .restore store) := by
  simp only [failPurge]
  rw [Leaves, PurgeStore.fail, noted_own]
  exact ⟨fits.undestroyed, rfl⟩

end Own

end Hivra.Instances
