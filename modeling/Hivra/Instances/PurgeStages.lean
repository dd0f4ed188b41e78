import Hivra.Instances.PurgeRuns

/-!
# How far a purge has come

What a run has learnt from its replies: the row it selected, its claim, what it read of the
owner, and whether it has given the row back.  A run tears the machine down only after it read
that the owner does not pay, and ends only once its claim is given up or the row is marked.
-/

namespace Hivra.Instances

open Hivra.Library Typestate

/-- How far a purge has come, by the answers it got. -/
inductive PurgeStage
  | fresh
  /-- It found a row that was not scheduled. -/
  | stranded
  | picked (selected : InstanceRow) (dueBefore : Int)
  | claimed (selected : InstanceRow) (claimedAt : Int)
  /-- The owner could not be read. -/
  | unread (selected : InstanceRow) (claimedAt : Int)
  | unpaid (selected : InstanceRow) (claimedAt : Int)
  | payer (selected : InstanceRow) (claimedAt : Int)
  /-- It marked the row deleted. -/
  | marked
  /-- It released the row of a payer. -/
  | released
  /-- It found that row still scheduled. -/
  | sought
  /-- That row is restored. -/
  | handed
  /-- A statement of the restore failed. -/
  | gaveUp
  | closed

namespace PurgeStage

def claim : PurgeStage → Option (InstanceRow × Int)
  | .claimed selected claimedAt => some (selected, claimedAt)
  | .unread selected claimedAt => some (selected, claimedAt)
  | .unpaid selected claimedAt => some (selected, claimedAt)
  | .payer selected claimedAt => some (selected, claimedAt)
  | _ => none

def isPast (stage : PurgeStage) : Bool := stage.claim.isSome

def isHanding : PurgeStage → Bool
  | .released => true
  | .sought => true
  | _ => false

def isOver : PurgeStage → Bool
  | .fresh => true
  | .stranded => true
  | .picked _ _ => true
  | .marked => true
  | .handed => true
  | .gaveUp => true
  | .closed => true
  | _ => false

def mayTearDown : PurgeStage → Bool
  | .stranded => true
  | .unpaid _ _ => true
  | _ => false

def afterSelect (now : Int) (stage : PurgeStage) : Option (Option InstanceRow) → PurgeStage
  | some (some row) =>
    if row.status = .scheduledForDeletion then .picked row now else .stranded
  | _ => stage

def afterStranded (stage : PurgeStage) : Option (Option InstanceRow) → PurgeStage
  | some (some _) => .stranded
  | _ => stage

def afterClaim (claimedAt : Int) (matched : Option Bool) : PurgeStage → PurgeStage
  | .picked selected _ => if matched = some true then .claimed selected claimedAt else .closed
  | stage => stage

def afterRead (pays : Option Bool) : PurgeStage → PurgeStage
  | .claimed selected claimedAt =>
    match pays with
    | none => .unread selected claimedAt
    | some false => .unpaid selected claimedAt
    | some true => .payer selected claimedAt
  | stage => stage

def afterRelease (done : Option Bool) : PurgeStage → PurgeStage
  | .payer _ _ => if done = some true then .released else .closed
  | .stranded => .stranded
  | _ => .closed

def afterMark (marked : Bool) : PurgeStage → PurgeStage
  | .unpaid selected claimedAt => if marked then .marked else .unpaid selected claimedAt
  | stage => stage

def afterSeek (pending : Option Bool) : PurgeStage → PurgeStage
  | .released =>
    match pending with
    | none => .gaveUp
    | some false => .handed
    | some true => .sought
  | stage => stage

def afterRestore (written : Bool) : PurgeStage → PurgeStage
  | .sought => if written then .handed else .gaveUp
  | stage => stage

def moved (call : PurgeCall) (reply : call.Reply) (stage : PurgeStage) : PurgeStage :=
  match call with
  | .selectExpired now => stage.afterSelect now reply
  | .selectStranded => stage.afterStranded reply
  | .claim _ _ claimedAt => stage.afterClaim claimedAt reply
  | .ownerPaysNow => stage.afterRead reply
  | .release _ _ => stage.afterRelease reply
  | .markDeleted _ => stage.afterMark reply
  | .selectRestorable => stage.afterSeek reply
  | .restore => stage.afterRestore reply
  | _ => stage

end PurgeStage

def PurgeCall.permitted (call : PurgeCall) (stage : PurgeStage) : Prop :=
  match call with
  | .selectExpired _ => stage = .fresh
  | .selectStranded =>
    stage = .fresh ∨ stage = .stranded ∨
      ∃ selected dueBefore, stage = .picked selected dueBefore
  | .claim selected dueBefore _ =>
    stage = .stranded ∨
      stage = .picked selected dueBefore ∧ selected.lifecycleState ≠ .coldArchived
  | .ownerPaysNow =>
    stage = .stranded ∨ stage = .marked ∨
      ∃ selected claimedAt, stage = .claimed selected claimedAt
  | .release selected claimedAt =>
    stage = .stranded ∨ stage.claim = some (selected, claimedAt)
  | .teardown => stage.mayTearDown = true
  | .markDeleted _ => stage.mayTearDown = true
  | _ => True

def purgeTypestate : Typestate PurgeCall PurgeCall.Reply PurgeStage :=
  { fresh := .fresh
    permits := PurgeCall.permitted
    moves := PurgeStage.moved }

abbrev PurgeWorld : Type :=
  World PurgeCall PurgeCall.Reply String Unit (Watched PurgeStore PurgeStage)

def Over {Outcome : Type} (_ : Outcome) (stage : PurgeStage) : Prop := stage.isOver = true

section Keeps

variable {Failure Outcome : Type} {stage : PurgeStage}

def Stays (stage : PurgeStage) {Outcome : Type} (_ : Outcome) (next : PurgeStage) : Prop :=
  next = stage

theorem request_stays (call : PurgeCall) (stage : PurgeStage) (permitted : call.permitted stage)
    (stays : ∀ reply, PurgeStage.moved call reply stage = stage)
    {failed : String → PurgeStage → Prop} : purgeTypestate.Keeps (Stays stage) failed
      (Script.request call : PurgeScript call.Reply) stage := by
  apply keeps_request permitted
  intro reply
  exact stays reply

theorem restore_keeps {failed : String → PurgeStage → Prop}
    (finished : stage.isOver = true ∨ stage = .released) :
    purgeTypestate.Keeps Over failed restoreForPayment stage := by
  apply keeps_bind Over
  · apply keeps_bind
      (fun pending next => next.isOver = true ∨ pending = some true ∧ next = .sought)
    · apply keeps_request trivial
      intro pending
      cases finished with
      | inl finished =>
        left
        cases stage <;> first | exact finished | cases finished
      | inr released =>
        subst released
        match pending with
        | none => exact .inl rfl
        | some false => exact .inl rfl
        | some true => exact .inr ⟨rfl, rfl⟩
    · intro pending next stands
      by_cases found : pending = some true
      · rw [if_pos found]
        apply keeps_bind (fun written later => later.isOver = true)
        · apply keeps_request trivial
          intro written
          cases stands with
          | inl finished => cases next <;> first | exact finished | cases finished
          | inr sought =>
            rw [sought.2]
            cases written <;> rfl
        · intro written later finished
          by_cases done : written = true
          · rw [if_pos done]
            exact finished
          · rw [if_neg done]
            apply keeps_bind Over
            · apply keeps_request trivial
              intro again
              cases later <;> first | exact finished | cases finished
            · intro _ last finished
              exact finished
      · rw [if_neg found]
        cases stands with
        | inl finished => exact finished
        | inr sought => exact absurd sought.1 found
  · intro _ next finished
    apply keeps_bind Over
    · apply keeps_request trivial
      intro _
      exact finished
    · intro _ last finished
      exact finished

def Claims (selected : InstanceRow) (claimedAt : Int) (stage : PurgeStage) : Prop :=
  stage = .stranded ∨ stage.claim = some (selected, claimedAt)

variable {selected : InstanceRow} {claimedAt : Int} {failed : String → PurgeStage → Prop}

theorem release_keeps (claims : Claims selected claimedAt stage) : purgeTypestate.Keeps
      (fun done next => next.isOver = true ∨
        done = some true ∧ next = .released ∧ stage = .payer selected claimedAt) failed
      (Script.request (PurgeCall.release selected claimedAt) : PurgeScript (Option Bool))
      stage := by
  apply keeps_request claims
  intro done
  cases claims with
  | inl stranded =>
    subst stranded
    exact .inl rfl
  | inr held =>
    cases stage with
    | payer _ _ =>
      cases held
      by_cases given : done = some true
      · right
        simp [purgeTypestate, PurgeStage.moved, PurgeStage.afterRelease, given]
      · left
        simp [purgeTypestate, PurgeStage.moved, PurgeStage.afterRelease, given,
          PurgeStage.isOver]
    | claimed _ _ | unread _ _ | unpaid _ _ => exact .inl rfl
    | _ => cases held

theorem hand_back_keeps {pays : Option Bool} (claims : Claims selected claimedAt stage)
    (payer : stage = .payer selected claimedAt → pays = some true) :
    purgeTypestate.Keeps Over failed (handBack selected claimedAt pays) stage := by
  apply keeps_bind _ (release_keeps claims)
  intro done next given
  by_cases entitled : pays = some true
  · rw [if_pos entitled]
    apply keeps_bind Over
    · by_cases isGiven : done = some true
      · rw [restoreReleased, if_pos isGiven]
        apply restore_keeps
        cases given with
        | inl finished => exact .inl finished
        | inr released => exact .inr released.2.1
      · rw [restoreReleased, if_neg isGiven]
        cases given with
        | inl finished => exact finished
        | inr released => exact absurd released.1 isGiven
    · intro _ last finished
      exact finished
  · rw [if_neg entitled]
    cases given with
    | inl finished => exact finished
    | inr released => exact absurd (payer released.2.2) entitled

theorem tear_down_keeps (stands : stage = .stranded ∨ stage = .unpaid selected claimedAt)
    (row : InstanceRow) :
    purgeTypestate.Keeps Over (fun _ next => next = stage) (tearDown row) stage := by
  have may : stage.mayTearDown = true := by
    cases stands with
    | inl stranded => rw [stranded]; rfl
    | inr unpaid => rw [unpaid]; rfl
  apply keeps_bind (Stays stage)
  · exact request_stays .teardown stage may fun _ => rfl
  · intro gone next still
    rw [show next = stage from still]
    by_cases isGone : gone = true
    · rw [if_pos isGone]
      apply keeps_bind (Stays stage)
      · exact request_stays .readClock stage trivial fun _ => rfl
      · intro deletedAt next still
        rw [show next = stage from still]
        apply keeps_bind (fun (marked : Bool) next =>
          if marked = true then next = .stranded ∨ next = .marked else next = stage)
        · apply keeps_request may
          intro marked
          cases stands with
          | inl stranded =>
            rw [stranded]
            cases marked with
            | false => rfl
            | true => exact .inl rfl
          | inr unpaid =>
            rw [unpaid]
            cases marked with
            | false => rfl
            | true => exact .inr rfl
        · intro marked next after
          by_cases isMarked : marked = true
          · rw [if_pos isMarked] at after ⊢
            by_cases scheduled : row.status = .scheduledForDeletion
            · rw [if_pos scheduled]
              apply keeps_bind Over
              · cases after with
                | inl stranded =>
                  rw [stranded]
                  exact keeps_request (.inl rfl) fun _ => rfl
                | inr isMarked =>
                  rw [isMarked]
                  exact keeps_request (.inr (.inl rfl)) fun _ => rfl
              · intro _ last finished
                exact finished
            · rw [if_neg scheduled]
              cases after with
              | inl stranded => rw [stranded]; rfl
              | inr isMarked => rw [isMarked]; rfl
          · rw [if_neg isMarked] at after ⊢
            exact after
    · rw [if_neg isGone]
      rfl

theorem destroy_keeps (stands : stage = .stranded ∨ stage = .unpaid selected claimedAt) :
    purgeTypestate.Keeps Over failed (destroy selected claimedAt) stage := by
  apply keeps_handle (tear_down_keeps stands selected)
  intro _ next still
  rw [show next = stage from still]
  have claims : Claims selected claimedAt stage := by
    cases stands with
    | inl stranded => exact .inl stranded
    | inr unpaid => exact .inr (by rw [unpaid]; rfl)
  apply keeps_bind _ (release_keeps claims)
  intro _ last given
  cases given with
  | inl finished => exact finished
  | inr released =>
    cases stands with
    | inl stranded => rw [stranded] at released; cases released.2.2
    | inr unpaid => rw [unpaid] at released; cases released.2.2

theorem purge_claimed_keeps (stands : stage = .stranded ∨
      stage = .claimed selected claimedAt ∧ selected.status = .scheduledForDeletion) :
    purgeTypestate.Keeps Over failed (purgeClaimed selected claimedAt) stage := by
  apply keeps_bind (Stays stage)
  · exact request_stays (.insertArchive selected) stage trivial fun _ => rfl
  · intro _ next still
    rw [show next = stage from still]
    by_cases scheduled : selected.status = .scheduledForDeletion
    · rw [if_pos scheduled]
      apply keeps_bind (fun pays next => next = .stranded ∨
        next = PurgeStage.afterRead pays (.claimed selected claimedAt))
      · cases stands with
        | inl stranded =>
          rw [stranded]
          exact keeps_request (.inl rfl) fun _ => .inl rfl
        | inr claimed =>
          rw [claimed.1]
          exact keeps_request (.inr (.inr ⟨_, _, rfl⟩)) fun _ => .inr rfl
      · intro pays next after
        match pays with
        | some false => exact destroy_keeps after
        | none =>
          apply hand_back_keeps
          · cases after with
            | inl stranded => exact .inl stranded
            | inr unread => exact .inr (by rw [unread]; rfl)
          · intro payer
            cases after with
            | inl stranded => rw [stranded] at payer; cases payer
            | inr unread => rw [unread] at payer; cases payer
        | some true =>
          apply hand_back_keeps
          · cases after with
            | inl stranded => exact .inl stranded
            | inr payer => exact .inr (by rw [payer]; rfl)
          · intro _
            rfl
    · rw [if_neg scheduled]
      cases stands with
      | inl stranded => exact destroy_keeps (.inl stranded)
      | inr claimed => exact absurd claimed.2 scheduled

def Found (selected : InstanceRow) (now : Int) (stage : PurgeStage) : Prop :=
  stage = .stranded ∨
    stage = .picked selected now ∧ selected.status = .scheduledForDeletion

theorem claim_and_purge_keeps {now : Int}
    (found : Found selected now stage) (warm : selected.lifecycleState ≠ .coldArchived) :
    purgeTypestate.Keeps Over failed (claimAndPurge selected now) stage := by
  apply keeps_bind (Stays stage)
  · exact request_stays .readClock stage trivial fun _ => rfl
  · intro claimedAt next still
    rw [show next = stage from still]
    apply keeps_bind (fun matched next => next = .stranded ∨
      next = PurgeStage.afterClaim claimedAt matched (.picked selected now) ∧
        selected.status = .scheduledForDeletion)
    · cases found with
      | inl stranded =>
        rw [stranded]
        apply keeps_request (Or.inl rfl)
        intro matched
        exact .inl rfl
      | inr picked =>
        rw [picked.1]
        apply keeps_request (Or.inr ⟨rfl, warm⟩)
        intro matched
        exact .inr ⟨rfl, picked.2⟩
    · intro matched next after
      match matched with
      | none =>
        cases after with
        | inl stranded => rw [stranded]; rfl
        | inr closed => rw [closed.1]; rfl
      | some false =>
        cases after with
        | inl stranded => rw [stranded]; rfl
        | inr closed => rw [closed.1]; rfl
      | some true => exact purge_claimed_keeps after

theorem purge_candidate_keeps {now : Int}
    (localAuthMode : Bool) (access : Option Bool) (found : Found selected now stage) :
    purgeTypestate.Keeps Over failed (purgeCandidate localAuthMode now access selected) stage := by
  have finished : stage.isOver = true := by
    cases found with
    | inl stranded => rw [stranded]; rfl
    | inr picked => rw [picked.1]; rfl
  simp only [purgeCandidate]
  split
  · exact finished
  · split
    · exact finished
    · split
      · exact finished
      · split
        · apply keeps_bind Over
          · apply keeps_request trivial
            intro _
            exact finished
          · intro _ last finished
            exact finished
        · rename_i warm
          exact claim_and_purge_keeps found warm

theorem purge_found_keeps {now : Int} (localAuthMode : Bool) (found : Found selected now stage) :
    purgeTypestate.Keeps Over failed (purgeFound localAuthMode now selected) stage := by
  by_cases deleted : selected.status = .deleted
  · rw [purgeFound, if_pos deleted]
    apply keeps_bind (Stays stage)
    · exact request_stays .readPlanAccess stage trivial fun _ => rfl
    · intro access next still
      rw [show next = stage from still]
      exact purge_candidate_keeps localAuthMode access found
  · rw [purgeFound, if_neg deleted]
    exact purge_candidate_keeps localAuthMode none found

def Read (now : Int) (expired stranded : Option (Option InstanceRow)) (stage : PurgeStage) : Prop :=
  stage.isOver = true ∧
    ∀ first second selected, expired = some first → stranded = some second →
      second.or first = some selected → Found selected now stage

theorem reads_leave (now : Int) (expired stranded : Option (Option InstanceRow)) :
    Read now expired stranded
      ((PurgeStage.fresh.afterSelect now expired).afterStranded stranded) := by
  match expired, stranded with
  | none, none => exact ⟨rfl, by intro _ _ _ impossible; cases impossible⟩
  | none, some none => exact ⟨rfl, by intro _ _ _ impossible; cases impossible⟩
  | none, some (some row) => exact ⟨rfl, by intro _ _ _ impossible; cases impossible⟩
  | some none, none => exact ⟨rfl, by intro _ _ _ _ impossible; cases impossible⟩
  | some none, some none =>
    constructor
    · rfl
    · intro first second selected isFirst isSecond found
      cases isFirst
      cases isSecond
      cases found
  | some first, some (some row) =>
    constructor
    · rfl
    · intro _ _ _ _ _ _
      exact .inl rfl
  | some (some row), none =>
    constructor
    · simp only [PurgeStage.afterStranded, PurgeStage.afterSelect]
      split <;> rfl
    · intro _ _ _ _ impossible
      cases impossible
  | some (some row), some none =>
    simp only [PurgeStage.afterStranded, PurgeStage.afterSelect]
    constructor
    · split <;> rfl
    · intro first second selected isFirst isSecond found
      cases isFirst
      cases isSecond
      cases found
      by_cases scheduled : row.status = .scheduledForDeletion
      · rw [if_pos scheduled]
        exact .inr ⟨rfl, scheduled⟩
      · rw [if_neg scheduled]
        exact .inl rfl

theorem purge_expired_keeps (localAuthMode : Bool) :
    purgeTypestate.Keeps Over Over (purgeExpired localAuthMode) .fresh := by
  apply keeps_bind (Stays .fresh)
  · exact request_stays .readClock .fresh trivial fun _ => rfl
  · intro now next still
    rw [show next = PurgeStage.fresh from still]
    apply keeps_bind (fun expired next => next = PurgeStage.fresh.afterSelect now expired)
    · apply keeps_request rfl
      intro expired
      rfl
    · intro expired next isNext
      rw [isNext]
      apply keeps_bind (fun stranded => Read now expired stranded)
      · apply keeps_request
        · match expired with
          | none => exact .inl rfl
          | some none => exact .inl rfl
          | some (some row) =>
            simp only [PurgeStage.afterSelect]
            split
            · exact .inr (.inr ⟨row, now, rfl⟩)
            · exact .inr (.inl rfl)
        · intro stranded
          exact reads_leave now expired stranded
      · intro stranded last read
        match expired, stranded with
        | none, _ => exact read.1
        | some _, none => exact read.1
        | some first, some second =>
          cases selected : second.or first with
          | none =>
            simp only [selected]
            exact read.1
          | some row =>
            simp only [selected]
            apply keeps_bind Over
            · exact purge_found_keeps localAuthMode (read.2 first second row rfl rfl selected)
            · intro _ _ finished
              exact finished

theorem keeps_other (call : PurgeCall) {next : call.Reply → PurgeScript Unit}
    (permitted : call.permitted .fresh)
    (stays : ∀ reply, PurgeStage.moved call reply .fresh = .fresh)
    (rest : ∀ reply, purgeTypestate.Keeps Over failed (next reply) .fresh) :
    purgeTypestate.Keeps Over failed (Script.bind (Script.request call) next) .fresh := by
  apply keeps_bind _ (request_stays call .fresh permitted stays)
  intro reply later still
  rw [show later = PurgeStage.fresh from still]
  exact rest reply

theorem schedule_keeps : purgeTypestate.Keeps Over failed scheduleInstancesForDeletion .fresh := by
  apply keeps_other .readClock trivial (fun _ => rfl)
  intro now
  apply keeps_other .selectSchedulable trivial (fun _ => rfl)
  intro found
  split
  · apply keeps_other (.schedule _) trivial (fun _ => rfl)
    intro written
    split
    · rfl
    · apply keeps_other (.schedule _) trivial (fun _ => rfl)
      intro _
      rfl
  · rfl

theorem stale_keeps (graceDays : Nat) :
    purgeTypestate.Keeps Over failed (staleSuspendedSweep graceDays) .fresh := by
  apply keeps_other .selectStale trivial (fun _ => rfl)
  intro found
  split
  · apply keeps_other .readClock trivial (fun _ => rfl)
    intro now
    apply keeps_other (.scheduleStale _) trivial (fun _ => rfl)
    intro _
    rfl
  · rfl

theorem purge_job_keeps (job : PurgeJob) :
    purgeTypestate.Keeps Over Over (purgeSystem.program job) .fresh := by
  cases job with
  | purgeExpired localAuthMode =>
    apply keeps_bind Over (purge_expired_keeps localAuthMode)
    intro _ _ finished
    exact finished
  | restoreForPayment => exact restore_keeps (.inl rfl)
  | scheduleInstancesForDeletion => exact schedule_keeps
  | suspendInstancesForBilling reason =>
    apply keeps_other (.suspend reason) trivial (fun _ => rfl)
    intro _
    rfl
  | staleSuspendedSweep graceDays => exact stale_keeps graceDays

end Keeps

end Hivra.Instances
