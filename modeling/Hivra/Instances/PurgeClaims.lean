import Hivra.Instances.PurgeStages

/-!
# A claimed row is left alone

What one step of a run does to the row, and what that leaves of the claims of the other runs: a
stamped row keeps its stamp, a released one stays open until it is restored, and a row that was
restored after a run selected it is not due for that run again.
-/

namespace Hivra.Instances

open Hivra.Library Typestate
open Hivra.StripeSubscriptions (EntitlementReason)

abbrev PurgeEvent : Type := Event PurgeJob PurgeTurn PurgeChange

def stepPurge : PurgeWorld → PurgeEvent → PurgeWorld :=
  (purgeTypestate.watch purgeSystem).step

def pastClaim (world : PurgeWorld) (number : Nat) : Bool :=
  world.lives number && (world.store.states number).isPast

def handing (world : PurgeWorld) (number : Nat) : Bool :=
  world.lives number && (world.store.states number).isHanding &&
    !(world.store.store.progress number).handedBack

def PurgeProgress.overtaken (held : PurgeProgress) : Bool :=
  held.selected.isSome && held.matched.isNone && held.restored

def PurgeCall.Orderly (call : PurgeCall) (number : Nat) (world : PurgeWorld) : Prop :=
  match call with
  | .claim selected dueBefore _ =>
    world.store.store.row.matchesClaim selected dueBefore = true →
      ∀ other ∈ List.range world.runs.length,
        handing world other = false ∧
          (selected.deletedAt.isSome = true → pastClaim world other = false)
  | .ownerPaysNow =>
    world.store.store.entitled = true →
      ∀ claim ∈ (world.store.states number).claim, claim.1.deletedAt = none
  | .schedule deadline =>
    ∀ other ∈ List.range world.runs.length,
      (world.store.store.progress other).overtaken = true →
        (world.store.store.progress other).dueBefore < deadline
  | .scheduleStale deadline =>
    world.store.store.row.isStale = true →
      ∀ other ∈ List.range world.runs.length,
        (world.store.store.progress other).overtaken = true →
          (world.store.store.progress other).dueBefore < deadline
  | _ => True

instance (call : PurgeCall) (number : Nat) (world : PurgeWorld) :
    Decidable (call.Orderly number world) := by
  unfold PurgeCall.Orderly
  cases call <;> infer_instance

/-- No run claims the row over the stamp of one that is at work, or while one hands it back; none
that claimed it over a stamp finds a payer; and a lapse does not make the row due again for a run
that had selected it before it was restored. -/
def Apart (world : PurgeWorld) (event : PurgeEvent) : Prop :=
  match event with
  | .advance number turn =>
    match world.runs[number]? with
    | some (some (.call call _)) => turn.fails = false → call.Orderly number world
    | _ => True
  | _ => True

instance (world : PurgeWorld) (event : PurgeEvent) : Decidable (Apart world event) := by
  unfold Apart
  cases event with
  | advance number turn =>
    dsimp only
    split <;> infer_instance
  | start job | stop number | outside change => infer_instance

inductive RowStep (row : InstanceRow) (fails : Bool) : PurgeCall → InstanceRow → Bool → Prop
  | same (call : PurgeCall) : RowStep row fails call row false
  | claimed (selected : InstanceRow) (dueBefore claimedAt : Int) (succeeds : fails = false)
      (found : row.matchesClaim selected dueBefore = true) :
      RowStep row fails (.claim selected dueBefore claimedAt) (row.claimed claimedAt) false
  | released (selected : InstanceRow) (claimedAt : Int)
      (found : row.deletedAt = some claimedAt) :
      RowStep row fails (.release selected claimedAt) (row.released selected) false
  | marked (deletedAt : Int) :
      RowStep row fails (.markDeleted deletedAt) (row.markedDeleted deletedAt) false
  | restored (found : row.isRestorable = true) : RowStep row fails .restore row.restored true
  | resumed (found : row.isResumable = true) : RowStep row fails .resume row.resumed true
  | scheduled (deadline : Int) (succeeds : fails = false) :
      RowStep row fails (.schedule deadline) (row.scheduled deadline) false
  | stale (deadline : Int) (succeeds : fails = false) (found : row.isStale = true) :
      RowStep row fails (.scheduleStale deadline) (row.scheduled deadline) false
  | suspended (reason : EntitlementReason) (found : row.isSuspendable = true) :
      RowStep row fails (.suspend reason) (row.suspended reason) false
  | handedOff (found : row.lifecycleState = .coldArchived) :
      RowStep row fails .handOff row.handedOff false

def PurgeCall.isPlain : PurgeCall → Bool
  | .selectExpired _ => false
  | .claim _ _ _ => false
  | .ownerPaysNow => false
  | .release _ _ => false
  | .teardown => false
  | _ => true

def PurgeProgress.after (held : PurgeProgress) (back : Bool) : PurgeProgress :=
  if back = true then held.broughtBack else held

structure Steps (number : Nat) (call : PurgeCall) (fails : Bool) (before after : PurgeStore)
    (back : Bool) : Prop where
  row : RowStep before.row fails call after.row back
  others : ∀ other, other ≠ number →
    after.progress other = (before.progress other).after back
  own : call.isPlain = true →
    after.progress number = (before.progress number).after back ∨
      after.progress number = ((before.progress number).after back).fails

variable {number : Nat} {call : PurgeCall} {turn : PurgeTurn} {store : PurgeStore}

theorem idle_steps (fails : Bool) : Steps number call fails store store false :=
  ⟨.same _, fun _ _ => rfl, fun _ => .inl rfl⟩

theorem noted_other {noted : PurgeProgress → PurgeProgress} {other : Nat} (apart : other ≠ number) :
    (store.note number noted).progress other = store.progress other := by
  simp [PurgeStore.note, apart]

theorem failed_steps (fails : Bool) : Steps number call fails store (store.fail number) false := by
  constructor
  · exact .same _
  · intro other apart
    exact noted_other apart
  · intro _
    right
    simp [PurgeStore.fail, PurgeStore.note, PurgeProgress.after]

theorem fail_steps : Steps number call true store (failPurge number call store).1 false := by
  cases call with
  | readClock => exact idle_steps true
  | teardown =>
    constructor
    · exact .same _
    · intro other apart
      exact (noted_other apart).trans (noted_other apart)
    · intro plain
      cases plain
  | _ => exact failed_steps true

variable {row : InstanceRow}

theorem write_where_steps {found : Bool} {fails : Bool}
    (step : found = true → RowStep store.row fails call row false) :
    Steps number call fails store (store.writeWhere found row) false := by
  cases found with
  | true => exact ⟨step rfl, fun _ _ => rfl, fun _ => .inl rfl⟩
  | false => exact idle_steps fails

theorem note_steps {fails : Bool} (noted : PurgeProgress → PurgeProgress)
    (step : RowStep store.row fails call row false) (loud : call.isPlain = false) :
    Steps number call fails store ((store.note number noted).write row) false := by
  constructor
  · exact step
  · intro other apart
    exact noted_other apart
  · intro plain
    rw [loud] at plain
    cases plain

theorem bring_back_steps {fails : Bool} (step : RowStep store.row fails call row true) :
    Steps number call fails store (store.bringBack row) true :=
  ⟨step, fun _ _ => rfl, fun _ => .inl rfl⟩

theorem answer_steps (eligible : Bool) :
    ∃ back, Steps number call false store (answerPurge number call eligible store).1 back := by
  cases call with
  | selectExpired now =>
    simp only [answerPurge]
    split
    · exact ⟨false, note_steps (fun held => held.picks store.row now) (.same _) rfl⟩
    · exact ⟨false, idle_steps false⟩
  | handOff =>
    exact ⟨false, write_where_steps fun found => .handedOff (eq_of_beq found)⟩
  | claim selected dueBefore claimedAt =>
    simp only [answerPurge]
    split
    · rename_i found
      have step := RowStep.claimed selected dueBefore claimedAt rfl found
      exact ⟨false, note_steps (fun held => held.claims store.row) step rfl⟩
    · exact ⟨false, idle_steps false⟩
  | ownerPaysNow =>
    exact ⟨false, note_steps (fun held => held.asks store.entitled) (.same _) rfl⟩
  | release selected claimedAt =>
    simp only [answerPurge]
    split
    · rename_i found
      have step : RowStep store.row false (.release selected claimedAt) _ false :=
        .released selected claimedAt found
      exact ⟨false, note_steps PurgeProgress.releases step rfl⟩
    · exact ⟨false, idle_steps false⟩
  | teardown => exact ⟨false, note_steps PurgeProgress.destroys (.same _) rfl⟩
  | markDeleted deletedAt => exact ⟨false, .marked deletedAt, fun _ _ => rfl, fun _ => .inl rfl⟩
  | restore =>
    simp only [answerPurge]
    split
    · rename_i found
      exact ⟨true, bring_back_steps (.restored found)⟩
    · exact ⟨false, idle_steps false⟩
  | resume =>
    simp only [answerPurge]
    split
    · rename_i found
      exact ⟨true, bring_back_steps (.resumed found)⟩
    · exact ⟨false, idle_steps false⟩
  | schedule deadline =>
    exact ⟨false, .scheduled deadline rfl, fun _ _ => rfl, fun _ => .inl rfl⟩
  | scheduleStale deadline =>
    exact ⟨false, write_where_steps fun found => .stale deadline rfl found⟩
  | suspend reason => exact ⟨false, write_where_steps fun found => .suspended reason found⟩
  | readClock | selectStranded | readPlanAccess | insertArchive selected | selectRestorable |
    selectSchedulable | selectStale => exact ⟨false, idle_steps false⟩

theorem perform_steps (number : Nat) (call : PurgeCall) (turn : PurgeTurn) (store : PurgeStore) :
    ∃ back, Steps number call turn.fails store (performPurge number call turn store).1 back := by
  rw [performPurge]
  cases fails : turn.fails with
  | true => exact ⟨false, fail_steps⟩
  | false => exact answer_steps turn.eligible

structure Stamped (row : InstanceRow) (claimedAt : Int) : Prop where
  stamp : row.deletedAt = some claimedAt
  scheduled : row.status = .scheduledForDeletion
  warm : row.lifecycleState ≠ .coldArchived

structure Waiting (row : InstanceRow) : Prop where
  open_ : row.deletedAt = none
  scheduled : row.status = .scheduledForDeletion
  warm : row.lifecycleState ≠ .coldArchived

def PurgeCall.isQuiet : PurgeCall → Bool
  | .claim _ _ _ => false
  | .release _ _ => false
  | .markDeleted _ => false
  | _ => true

section Rows

variable {before after : InstanceRow} {fails back : Bool} {claimedAt : Int}

theorem suspendable_unscheduled (found : row.isSuspendable = true) :
    row.status ≠ .scheduledForDeletion := by
  simp [InstanceRow.isSuspendable] at found
  exact found.1.2

section

variable (step : RowStep before fails call after back)
include step

theorem step_keeps_stamp (quiet : call.isQuiet = true) (stamped : Stamped before claimedAt) :
    Stamped after claimedAt ∧ back = false := by
  cases step with
  | same => exact ⟨stamped, rfl⟩
  | claimed | released | marked => cases quiet
  | restored found => simp [InstanceRow.isRestorable, stamped.stamp] at found
  | resumed found => simp [InstanceRow.isResumable, stamped.stamp] at found
  | scheduled deadline => exact ⟨⟨stamped.stamp, rfl, stamped.warm⟩, rfl⟩
  | stale deadline => exact ⟨⟨stamped.stamp, rfl, stamped.warm⟩, rfl⟩
  | suspended reason found => exact absurd stamped.scheduled (suspendable_unscheduled found)
  | handedOff found => exact absurd found stamped.warm

theorem step_keeps_waiting
    (quiet : call.isQuiet = true) (waiting : Waiting before) : Waiting after ∨ back = true := by
  cases step with
  | same => exact .inl waiting
  | claimed | released | marked => cases quiet
  | restored found => exact .inr rfl
  | resumed found => exact .inr rfl
  | scheduled deadline => exact .inl ⟨waiting.open_, rfl, waiting.warm⟩
  | stale deadline => exact .inl ⟨waiting.open_, rfl, waiting.warm⟩
  | suspended reason found => exact absurd waiting.scheduled (suspendable_unscheduled found)
  | handedOff found => exact absurd found waiting.warm

def Shut (row : InstanceRow) : Prop :=
  row.status = .deleted → row.lifecycleState = .deleted

theorem step_keeps_shut (shut : Shut before) : Shut after := by
  cases step with
  | same | claimed | released => exact shut
  | marked =>
    intro _
    rfl
  | restored | resumed | scheduled | stale | suspended | handedOff =>
    intro deleted
    cases deleted

theorem step_keeps_undue {dueBefore : Int}
    (undue : before.isDue dueBefore = false) (later : ∀ deadline, fails = false →
      call = .schedule deadline ∨ call = .scheduleStale deadline ∧ before.isStale = true →
        dueBefore < deadline) :
    after.isDue dueBefore = false := by
  cases step with
  | same | claimed | released => exact undue
  | marked | restored | resumed | suspended | handedOff => rfl
  | scheduled deadline succeeds =>
    have := later deadline succeeds (.inl rfl)
    simp [InstanceRow.isDue, InstanceRow.scheduled]
    omega
  | stale deadline succeeds found =>
    have := later deadline succeeds (.inr ⟨rfl, found⟩)
    simp [InstanceRow.isDue, InstanceRow.scheduled]
    omega

end

theorem restored_undue (step : RowStep before fails call after true) (dueBefore : Int) :
    after.isDue dueBefore = false := by
  cases step with
  | restored | resumed => rfl

end Rows

end Hivra.Instances
