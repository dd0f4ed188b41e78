import Hivra.Instances.ColdPurges

/-!
# A purge spares live and returning machines

While every purge fetches a row that still waits and no restore locks a row that a purge is at, no
purge takes a machine that lives or comes back.  Without that a purge does.
-/

namespace Hivra.Instances

open Hivra.Library Typestate

section Replies

variable {instanceId : String} {store : ColdStore} {states : Nat → ColdStage} {live : Nat → Bool}
variable {number : Nat} {stage : ColdStage} {held : ColdProgress} {isLive : Bool}

theorem failed_relies (call : ColdCall) (relies : Relies stage held isLive store) :
    Relies (ColdStage.moved instanceId call (failCold call) stage) held isLive store := by
  cases call with
  | lockArchiving | archiveScript _ | fetchManifest _ | markColdArchived _ _ | destroyMachine _
    | findDestination | lockRestoring _ | selectDue | readArchive _ _ =>
      cases stage <;> exact relies
  | moveArchive parent | markPurged => cases stage <;> first | exact relies | trivial
  | _ => exact relies

theorem fetched_relies (relies : Relies stage held isLive store) (row : Option ColdRow)
    (isRow : ∀ found, row = some found → found = store.row)
    (waits : stage = .chosen → row ≠ none → store.row.archiveUri ≠ none →
      store.row.lifecycleState = .pendingDeletion) :
    Relies (stage.afterFetch (some row)) held isLive store := by
  cases row with
  | none => exact relies
  | some found =>
    rw [isRow found rfl]
    cases stage with
    | chosen =>
      simp only [ColdStage.afterFetch]
      split
      · rename_i archiveUri isUri
        intro _
        exact .inl ⟨waits rfl (by simp) (by simp [isUri]), isUri⟩
      · trivial
    | fresh | placed _ => trivial
    | _ => exact relies

theorem answered_relies (before : Spared store states live) {call : ColdCall}
    (isIn : call.isIn .retention) (permitted : call.permitted instanceId (states number))
    (turn : ColdTurn)
    (waits : call = .fetchInstance → states number = .chosen → store.row.isDeleted = false →
      store.row.archiveUri ≠ none → store.row.lifecycleState = .pendingDeletion)
    (spared : Spared (answerCold number call turn store).1 states live) :
    Relies (ColdStage.moved instanceId call (answerCold number call turn store).2 (states number))
      ((answerCold number call turn store).1.progress number) (live number)
      (answerCold number call turn store).1 := by
  have relies := spared.relies number
  cases call with
  | fetchInstance =>
    apply fetched_relies relies
    · intro found isFound
      split at isFound
      · cases isFound
      · exact (Option.some.inj isFound).symm
    · intro chosen present has
      apply waits rfl chosen _ has
      cases deleted : store.row.isDeleted with
      | false => rfl
      | true =>
        rw [if_pos deleted] at present
        exact absurd rfl present
  | readArchive archiveUri archiveSha256 =>
    obtain ⟨destination, previous, stands⟩ := permitted
    rw [stands]
    simp only [answerCold]
    split
    · rename_i there
      have untrashed : archiveUri ∉ store.trash := by
        intro inTrash
        exact before.trash archiveUri inTrash archiveSha256 there
      change ((store.note number fun held => held.reads _).progress number).readTrashed = _
      simp [ColdStore.note, ColdProgress.reads, untrashed]
    · trivial
  | findDestination =>
    rw [show states number = .fresh from permitted]
    simp only [ColdStage.moved, ColdStage.afterPlace]
    split <;> trivial
  | lockRestoring previous =>
    obtain ⟨destination, row, stands, _⟩ := permitted
    rw [stands]
    simp only [ColdStage.moved, ColdStage.afterHold]
    split <;> trivial
  | selectDue =>
    revert relies
    cases states number with
    | fresh =>
      intro _
      simp only [ColdStage.moved, ColdStage.afterDue]
      split <;> trivial
    | _ => exact fun relies => relies
  | moveArchive parent =>
    obtain ⟨archiveUri, stands, isParent⟩ := permitted
    subst isParent
    revert relies
    rw [stands]
    simp only [answerCold]
    split
    · intro awaits isLive
      exact ⟨awaits isLive, under_after_trash store number _⟩
    · intro _
      trivial
  | markPurged =>
    obtain ⟨archiveUri, stands⟩ := permitted
    rw [stands]
    trivial
  | lockArchiving | archiveScript _ | fetchManifest _ | markColdArchived _ _ | destroyMachine _
    | revertToPaused _ | recoverArchiving => cases isIn
  | _ => exact relies

end Replies

section Requests

variable {instanceId : String} {store : ColdStore} {states : Nat → ColdStage} {live : Nat → Bool}
variable {number : Nat}

theorem spared_stage (spared : Spared store states live) {stage : ColdStage}
    (relies : Relies stage (store.progress number) (live number) store) :
    Spared store (fun other => if other = number then stage else states other) live := by
  constructor
  · exact spared.trash
  · exact spared.substate
  · exact spared.trashed
  · exact spared.purged
  · exact spared.restored
  · intro other
    by_cases own : other = number
    · rw [if_pos own, own]
      exact relies
    · rw [if_neg own]
      exact spared.relies other

theorem spared_late (spared : Spared store states live) (late : List LateScript) :
    Spared { store with late } states live :=
  ⟨spared.trash, spared.substate, spared.trashed, spared.purged, spared.restored, spared.relies⟩

theorem performed_spared (spared : Spared store states live) {call : ColdCall}
    (isIn : call.isIn .retention) (permitted : call.permitted instanceId (states number))
    (isLive : live number = true) (turn : ColdTurn)
    (waits : call = .fetchInstance → turn.fault = .none_ → states number = .chosen →
      store.row.isDeleted = false → store.row.archiveUri ≠ none →
        store.row.lifecycleState = .pendingDeletion)
    (alone : ∀ previous, call = .lockRestoring previous →
      turn.fault = .none_ ∨ turn.fault = .lost →
        store.row.lifecycleState = previous → store.row.isDeleted = false →
          ∀ other, live other = true → (states other).purging = none) :
    Spared (performCold number call turn store).1
      (fun other => if other = number then
        ColdStage.moved instanceId call (performCold number call turn store).2 (states number)
        else states other) live := by
  have failed : Relies (ColdStage.moved instanceId call (failCold call) (states number))
      (store.progress number) (live number) store := failed_relies call (spared.relies number)
  cases fault : turn.fault with
  | none_ =>
    have effect := answer_spared spared isIn permitted isLive
      (fun previous isLock => alone previous isLock (.inl fault)) turn
    have told := answered_relies spared isIn permitted turn
      (fun isFetch => waits isFetch fault) effect
    simp only [performCold, fault]
    exact spared_stage effect told
  | failed =>
    simp only [performCold, fault]
    exact spared_stage spared failed
  | lost =>
    have effect := answer_spared spared isIn permitted isLive
      (fun previous isLock => alone previous isLock (.inr fault)) turn
    simp only [performCold, fault]
    exact spared_stage effect (failed_relies call (effect.relies number))
  | late =>
    simp only [performCold, fault]
    split
    · rename_i script isLate
      exact spared_stage (spared_late spared _) (failed_relies call (spared.relies number))
    · exact spared_stage spared failed

end Requests

section Runs

variable {instanceId : String} {world : ColdWorld}

structure RetentionSound (instanceId : String) (world : ColdWorld) : Prop where
  keeps : (coldTypestate instanceId .retention).AllKeep Anywhere Anywhere world
  spared : Spared world.store.store world.store.states world.lives

theorem spared_live {store : ColdStore} {states : Nat → ColdStage} {live later : Nat → Bool}
    (spared : Spared store states live)
    (same : ∀ number, later number = true → live number = true ∨ states number = .fresh) :
    Spared store states later := by
  constructor
  · exact spared.trash
  · exact spared.substate
  · exact spared.trashed
  · exact spared.purged
  · exact spared.restored
  · intro number
    have relies := spared.relies number
    cases stage : states number with
    | picked archiveUri | trashed archiveUri =>
      intro isLater
      rw [stage] at relies
      cases same number isLater with
      | inl isLive => exact relies isLive
      | inr fresh =>
        rw [stage] at fresh
        cases fresh
    | loaded destination previous =>
      rw [stage] at relies
      exact relies
    | _ => trivial

theorem advance_spared {number : Nat} {call : ColdCall} {turn : ColdTurn}
    {next : call.Reply → ColdScript Unit} (sound : RetentionSound instanceId world)
    (current : world.runs[number]? = some (some (.call call next)))
    (guarded : call.Guarded turn.fault number world) :
    RetentionSound instanceId (stepRetention instanceId world (.advance number turn)) := by
  have keeps := keep_step retention_job_keeps (.advance number turn) sound.keeps
  have ⟨isIn, permitted⟩ := (sound.keeps.keeps number _ current).1
  have running : world.lives number = true := by simp [World.lives, current]
  have stepped : stepRetention instanceId world (.advance number turn) = _ :=
    step_advance current turn
  have lives : ∀ other, (stepRetention instanceId world (.advance number turn)).lives other =
      world.lives other := by
    intro other
    rw [World.lives, stepped]
    dsimp only
    rw [List.getElem?_set]
    by_cases own : number = other
    · rw [if_pos own, ← own, if_pos (lives_inside running)]
      exact running.symm
    · rw [if_neg own]
      rfl
  constructor
  · exact keeps
  · rw [show (stepRetention instanceId world (.advance number turn)).lives = world.lives from
      funext lives, stepped]
    apply performed_spared sound.spared isIn permitted running turn
    · intro isFetch
      subst isFetch
      exact guarded
    · intro previous isLock effective isPrevious undeleted other isOther
      subst isLock
      have idle := guarded effective isPrevious undeleted other
        (List.mem_range.mpr (lives_inside isOther))
      simpa [atWork, isOther] using idle

theorem retention_sound_step (event : RetentionEvent) (guarded : Guarded world event)
    (sound : RetentionSound instanceId world) :
    RetentionSound instanceId (stepRetention instanceId world event) := by
  have keeps := keep_step retention_job_keeps event sound.keeps
  cases event with
  | outside change => exact nomatch change
  | start job =>
    constructor
    · exact keeps
    · apply spared_live sound.spared
      intro number isLater
      by_cases new : number < world.runs.length
      · left
        have there : (stepRetention instanceId world (.start job)).runs[number]? =
            world.runs[number]? := by
          simp [stepRetention, System.step, List.getElem?_append_left new]
        rw [World.lives, there] at isLater
        exact isLater
      · right
        exact sound.keeps.unstarted number (by omega)
  | stop number =>
    constructor
    · exact keeps
    · apply spared_live sound.spared
      intro other isLater
      left
      have there : (stepRetention instanceId world (.stop number)).runs =
          world.runs.set number none := rfl
      rw [World.lives, there, List.getElem?_set] at isLater
      by_cases own : number = other
      · rw [if_pos own] at isLater
        split at isLater
        · rename_i script isSome
          split at isSome <;> cases isSome
        · cases isLater
      · rw [if_neg own] at isLater
        exact isLater
  | advance number turn =>
    apply System.advance_cases _ (RetentionSound instanceId) sound
    intro call next current
    apply advance_spared sound current
    simpa [Guarded, current] using guarded

theorem sound_spares (sound : RetentionSound instanceId world) : SparesTenants world := by
  constructor
  · exact sound.spared.trashed
  · intro number state isPurged
    cases sound.spared.purged number state isPurged with
    | inl pending =>
      rw [pending]
      decide
    | inr deleted =>
      rw [deleted]
      decide
  · exact sound.spared.restored

structure LaidDown (store : ColdStore) : Prop where
  new : store.progress = fun _ => ColdProgress.initial
  trash : store.trash = []
  /-- Only a restore writes `restoring_starting`, and it goes when the row is given back. -/
  substate : store.row.isLaid = true → store.row.lifecycleSubstate ≠ some .restoringStarting

theorem retention_sound_start {store : ColdStore} (laid : LaidDown store) :
    RetentionSound instanceId ((coldTypestate instanceId .retention).start store) := by
  have progress : ∀ number, ((coldTypestate instanceId .retention).start store :
      ColdWorld).store.store.progress number = ColdProgress.initial := by
    intro number
    exact congrFun laid.new number
  constructor
  · exact start_keeps store
  · constructor
    · intro path there
      rw [show ((coldTypestate instanceId .retention).start store : ColdWorld).store.store.trash =
        [] from laid.trash] at there
      cases there
    · exact laid.substate
    · intro number state isTrashed
      rw [progress] at isTrashed
      cases isTrashed
    · intro number state isPurged
      rw [progress] at isPurged
      cases isPurged
    · intro number isRestored
      rw [progress] at isRestored
      cases isRestored
    · intro number
      trivial

end Runs

/-- While the steps are guarded, a purge spares live and returning machines, in every state that is
reached. -/
theorem guarded_purge_spares (instanceId : String) (store : ColdStore) (laid : LaidDown store)
    (history : List RetentionEvent) (guarded : Meets (stepRetention instanceId) Guarded
      ((coldTypestate instanceId .retention).start store) history) :
    SparesTenants (history.foldl (stepRetention instanceId)
      ((coldTypestate instanceId .retention).start store)) := by
  apply sound_spares
  apply meets_keeps guarded (retention_sound_start laid)
  intro world event isGuarded sound
  exact retention_sound_step event isGuarded sound

def tenantInstance : String := "0a1b2c3d-0a1b-4c3d-8a1b-0a1b2c3d4e5f"

def tenantSha256 : String := "0123456789abcdef0123456789abcdef0123456789abcdef0123456789abcdef"

def tenantArchive : String := archivePath tenantInstance "20260501T000000Z"

def tenantRow : ColdRow :=
  { lifecycleState := .pendingDeletion
    lifecycleSubstate := none
    pausedReason := some "cold_archived"
    proxmoxNode := none
    proxmoxVmid := none
    archiveUri := some tenantArchive
    archiveSha256 := some tenantSha256
    archiveSizeBytes := some 12
    archivedAt := some "2026-05-01T00:00:00.000Z"
    archiveCount := some 1
    isDeleted := false }

def tenantStore : ColdStore :=
  { row := tenantRow
    manifests := fun _ => .unreadable
    files := [(tenantArchive, tenantSha256)]
    source := { node := "pve-1", vmid := 105 }
    stands := false
    late := []
    read := []
    trash := []
    progress := fun _ => .initial }

/-- Nothing goes wrong, and the restore script ends with a machine that answers. -/
def tenantTurn : ColdTurn :=
  { fault := .none_
    due := true
    answers := true
    host :=
      { ok := true
        stdout := "RESULT status=ok instance=" ++ tenantInstance ++ " vmid=106 host=pve-2 ip=10.0.0.6"
        stderr := "" }
    destination :=
      { machine := { node := "pve-2", vmid := 106 }
        templateVmid := 9007
        targetDiskGb := 30 }
    discovery := .noClone }

def tenantAdvances (number count : Nat) : List RetentionEvent :=
  List.replicate count (.advance number tenantTurn)

/-- The script of a restore fails, the row is given back, and the sweep purges it. -/
def revertedRestore : List RetentionEvent :=
  .start .restoreInstance :: List.replicate 8 (.advance 0 { tenantTurn with host := .failed }) ++
    .start (.coldRetentionSweep (some "pve-1")) :: tenantAdvances 1 6

theorem guarded_purge_spares_sweep :
    SparesTenants (revertedRestore.foldl (stepRetention tenantInstance)
        ((coldTypestate tenantInstance .retention).start tenantStore)) ∧
      (revertedRestore.foldl (stepRetention tenantInstance)
        ((coldTypestate tenantInstance .retention).start tenantStore)).store.store.row.lifecycleState =
          .deleted :=
  ⟨guarded_purge_spares tenantInstance tenantStore ⟨rfl, rfl, by decide⟩ revertedRestore
    (by decide +kernel), by decide +kernel⟩

def lateLock : List RetentionEvent :=
  .start (.coldRetentionSweep (some "pve-1")) :: tenantAdvances 0 2 ++
    .start .restoreInstance :: tenantAdvances 1 3 ++ tenantAdvances 0 4

def lateRestore : List RetentionEvent :=
  .start (.coldRetentionSweep (some "pve-1")) :: tenantAdvances 0 3 ++
    .start .restoreInstance :: tenantAdvances 1 5 ++ tenantAdvances 0 2 ++ tenantAdvances 1 2 ++
      tenantAdvances 0 1

/-- The archive of a row that is being restored is moved away, and a restored row is deleted. -/
theorem a_purge_takes_a_returning_machine :
    ¬SparesTenants (lateLock.foldl (stepRetention tenantInstance)
        ((coldTypestate tenantInstance .retention).start tenantStore)) ∧
      ¬SparesTenants (lateRestore.foldl (stepRetention tenantInstance)
        ((coldTypestate tenantInstance .retention).start tenantStore)) := by
  constructor
  · intro spares
    have waits := spares.trashed 0 .restoring (by decide +kernel)
    cases waits
  · intro spares
    have live := spares.purged 0 .active (by decide +kernel)
    exact live.1 rfl

end Hivra.Instances
