import Hivra.Instances.ColdRuns

/-!
# How far a run has come with an archive

What a run knows of the row from its replies.  An archive run destroys the machine only after its
own transition of the row was answered, with the archive that its own manifest confirmed; a restore
writes a machine down only after it read the archive; a purge marks the row only after it moved
the archive away.
-/

namespace Hivra.Instances

open Hivra.Library Typestate

inductive ColdStage
  | fresh
  /-- An archive run: the row as it fetched it. -/
  | fetched (row : ColdRow)
  | archiving (machine : Machine)
  | reported (machine : Machine) (report : ArchiveReport)
  | confirmed (machine : Machine) (archive : Archive)
  /-- The row went cold. -/
  | retiring (machine : Machine)
  /-- A restore: where the machine goes. -/
  | placed (destination : Destination)
  | seen (destination : Destination) (row : ColdRow)
  | holding (destination : Destination) (previous : LifecycleState)
  /-- It read the archive. -/
  | loaded (destination : Destination) (previous : LifecycleState)
  /-- A purge: the row was due. -/
  | chosen
  | picked (archiveUri : String)
  | trashed (archiveUri : String)
  | closed
  deriving DecidableEq

def archiveOf (instanceId : String) (report : ArchiveReport) (manifest : Manifest) : Archive :=
  { uri := archivePath instanceId report.ts
    sha256 := report.sha256
    sizeBytes := report.sizeBytes
    archivedAt := manifest.archivedAt }

namespace ColdStage

def hold : ColdStage → Option (Destination × LifecycleState)
  | .holding destination previous => some (destination, previous)
  | .loaded destination previous => some (destination, previous)
  | _ => none

def purging : ColdStage → Option String
  | .picked archiveUri => some archiveUri
  | .trashed archiveUri => some archiveUri
  | _ => none

def afterFetch (stage : ColdStage) : Option (Option ColdRow) → ColdStage
  | some (some row) =>
    match stage with
    | .fresh => .fetched row
    | .placed destination => .seen destination row
    | .chosen =>
      match row.archiveUri with
      | some archiveUri => .picked archiveUri
      | none => .closed
    | stage => stage
  | _ => stage

def afterLock (locked : Option Bool) : ColdStage → ColdStage
  | .fetched row =>
    if locked = some true then
      match row.archivable with
      | some machine => .archiving machine
      | none => .closed
    else .closed
  | stage => stage

def afterArchive (instanceId : String) (result : HostResult) : ColdStage → ColdStage
  | .archiving machine =>
    match readArchiveReport instanceId result with
    | .ok report => .reported machine report
    | .error _ => .closed
  | stage => stage

def afterManifest (instanceId : String) (reply : ManifestReply) : ColdStage → ColdStage
  | .reported machine report =>
    match checkManifest report reply with
    | .ok manifest => .confirmed machine (archiveOf instanceId report manifest)
    | .error _ => .closed
  | stage => stage

def afterMark (moved : Option Bool) : ColdStage → ColdStage
  | .confirmed machine _ => if moved = some true then .retiring machine else .closed
  | stage => stage

def afterDestroy : ColdStage → ColdStage
  | .retiring _ => .closed
  | stage => stage

def afterPlace (destination : Option Destination) : ColdStage → ColdStage
  | .fresh =>
    match destination with
    | some destination => .placed destination
    | none => .closed
  | stage => stage

def afterHold (previous : LifecycleState) (locked : Option Bool) : ColdStage → ColdStage
  | .seen destination _ => if locked = some true then .holding destination previous else .closed
  | stage => stage

def afterRead (verified : Bool) : ColdStage → ColdStage
  | .holding destination previous =>
    if verified then .loaded destination previous else .holding destination previous
  | stage => stage

def afterDue (due : Option Bool) : ColdStage → ColdStage
  | .fresh => if due = some true then .chosen else .closed
  | stage => stage

def afterTrash (gone : Bool) : ColdStage → ColdStage
  | .picked archiveUri => if gone then .trashed archiveUri else .closed
  | stage => stage

def afterPurge : ColdStage → ColdStage
  | .trashed _ => .closed
  | stage => stage

def moved (instanceId : String) (call : ColdCall) (reply : call.Reply) (stage : ColdStage) :
    ColdStage :=
  match call with
  | .fetchInstance => stage.afterFetch reply
  | .lockArchiving => stage.afterLock reply
  | .archiveScript _ => stage.afterArchive instanceId reply
  | .fetchManifest _ => stage.afterManifest instanceId reply
  | .markColdArchived _ _ => stage.afterMark reply
  | .destroyMachine _ => stage.afterDestroy
  | .findDestination => stage.afterPlace reply
  | .lockRestoring previous => stage.afterHold previous reply
  | .readArchive _ _ => stage.afterRead reply
  | .selectDue => stage.afterDue reply
  | .moveArchive _ => stage.afterTrash reply
  | .markPurged => stage.afterPurge
  | _ => stage

end ColdStage

def ColdCall.permitted (instanceId : String) (call : ColdCall) (stage : ColdStage) : Prop :=
  match call with
  | .lockArchiving =>
    ∃ row machine, stage = .fetched row ∧ row.lifecycleState = .paused ∧
      row.archivable = some machine
  | .archiveScript machine => stage = .archiving machine
  | .fetchManifest path =>
    ∃ machine report, stage = .reported machine report ∧ path = manifestPath instanceId report.ts
  | .markColdArchived archive _ => ∃ machine, stage = .confirmed machine archive
  | .destroyMachine machine => stage = .retiring machine
  | .findDestination => stage = .fresh
  | .lockRestoring previous =>
    ∃ destination row, stage = .seen destination row ∧ row.lifecycleState = previous ∧
      row.isRestorable = true ∧ row.hasArchive = true
  | .readArchive _ _ => ∃ destination previous, stage = .holding destination previous
  | .tearDownClone destination => ∃ previous, stage.hold = some (destination, previous)
  | .markActive _ => ∃ destination previous, stage = .loaded destination previous
  | .parkHealthPending _ => ∃ destination previous, stage = .loaded destination previous
  | .revertRestoring previous => ∃ destination, stage.hold = some (destination, previous)
  | .moveArchive parent => ∃ archiveUri, stage = .picked archiveUri ∧ parent = parentPath archiveUri
  | .markPurged => ∃ archiveUri, stage = .trashed archiveUri
  | _ => True

inductive Lane
  | archiving
  | retention

def ColdCall.lane : ColdCall → Option Lane
  | .lockArchiving => some .archiving
  | .archiveScript _ => some .archiving
  | .fetchManifest _ => some .archiving
  | .markColdArchived _ _ => some .archiving
  | .destroyMachine _ => some .archiving
  | .revertToPaused _ => some .archiving
  | .recoverArchiving => some .archiving
  | .selectRestoring => some .retention
  | .probeHealth => some .retention
  | .promoteRestored => some .retention
  | .selectOrphan => some .retention
  | .discoverClones => some .retention
  | .resetToCold => some .retention
  | .adoptKeeper _ => some .retention
  | .applyRouting => some .retention
  | .selectMarkable => some .retention
  | .markPending => some .retention
  | .selectDue => some .retention
  | .moveArchive _ => some .retention
  | .markPurged => some .retention
  | _ => none

def ColdCall.isIn (lane : Lane) (call : ColdCall) : Prop :=
  match call.lane with
  | some only => only = lane
  | none => True

def coldTypestate (instanceId : String) (lane : Lane) :
    Typestate ColdCall ColdCall.Reply ColdStage :=
  { fresh := .fresh
    permits := fun call stage => call.isIn lane ∧ call.permitted instanceId stage
    moves := ColdStage.moved instanceId }

abbrev ColdWorld : Type :=
  World ColdCall ColdCall.Reply String Unit (Watched ColdStore ColdStage)

variable {failed : String → ColdStage → Prop} {row : ColdRow} {machine : Machine}

def Anywhere {Outcome : Type} (_ : Outcome) (_ : ColdStage) : Prop := True

section Keeps

variable {instanceId : String} {lane : Lane} {stage : ColdStage}

theorem ask_keeps (call : ColdCall) {done : call.Reply → ColdStage → Prop} (isIn : call.isIn lane)
    (permitted : call.permitted instanceId stage)
    (ends : ∀ reply, done reply (ColdStage.moved instanceId call reply stage)) :
    (coldTypestate instanceId lane).Keeps done failed
      (Script.request call : ColdScript call.Reply) stage :=
  keeps_request ⟨isIn, permitted⟩ ends

theorem keeps_last {Outcome : Type} (call : ColdCall)
    {next : call.Reply → ColdScript Outcome} (isIn : call.isIn lane)
    (permitted : call.permitted instanceId stage)
    (ends : ∀ reply, ∃ outcome, next reply = pure outcome) :
    (coldTypestate instanceId lane).Keeps Anywhere failed
      (Script.bind (Script.request call) next) stage := by
  apply keeps_bind Anywhere
  · exact ask_keeps call isIn permitted fun _ => trivial
  · intro reply later _
    have ⟨outcome, isEnd⟩ := ends reply
    rw [isEnd]
    trivial

theorem revert_archive_keeps (row : ColdRow) (refusal : ArchiveRefusal) :
    (coldTypestate instanceId .archiving).Keeps Anywhere failed (revertArchive row refusal) stage :=
  keeps_last (.revertToPaused _) rfl trivial fun _ => ⟨_, rfl⟩

theorem retire_keeps {archive : Archive} (stands : stage = .confirmed machine archive) :
    (coldTypestate instanceId .archiving).Keeps Anywhere Anywhere (retireMachine row machine archive)
      stage := by
  subst stands
  apply keeps_bind (fun moved next => moved = some true → next = .retiring machine)
  · apply ask_keeps (.markColdArchived archive _) rfl ⟨machine, rfl⟩
    intro moved isMoved
    exact if_pos isMoved
  · intro moved next after
    by_cases isMoved : moved = some true
    · rw [if_pos isMoved]
      exact keeps_last (.destroyMachine machine) rfl (after isMoved) fun _ => ⟨_, rfl⟩
    · rw [if_neg isMoved]
      exact revert_archive_keeps row _

theorem confirm_keeps {report : ArchiveReport} (stands : stage = .reported machine report) :
    (coldTypestate instanceId .archiving).Keeps Anywhere Anywhere
      (confirmArchive instanceId row machine report) stage := by
  subst stands
  apply keeps_bind (fun reply next => ∀ manifest, checkManifest report reply = .ok manifest →
    next = .confirmed machine (archiveOf instanceId report manifest))
  · apply ask_keeps (.fetchManifest _) rfl ⟨machine, report, rfl, rfl⟩
    intro reply manifest checked
    change ColdStage.afterManifest instanceId reply (.reported machine report) = _
    simp [ColdStage.afterManifest, checked]
  · intro reply next after
    split
    · exact revert_archive_keeps row _
    · rename_i manifest checked
      exact retire_keeps (after manifest checked)

theorem archive_after_lock_keeps (stands : stage = .archiving machine) :
    (coldTypestate instanceId .archiving).Keeps Anywhere Anywhere
      (archiveInstanceAfterLock instanceId row machine) stage := by
  subst stands
  apply keeps_bind (fun _ next => next = .archiving machine)
  · exact ask_keeps (.resolveHostEnv _) trivial trivial fun _ => rfl
  · intro configured next still
    subst still
    by_cases isConfigured : configured = true
    · rw [if_pos isConfigured]
      apply keeps_bind (fun result next => ∀ report,
        readArchiveReport instanceId result = .ok report → next = .reported machine report)
      · apply ask_keeps (.archiveScript machine) rfl rfl
        intro result report isReport
        change ColdStage.afterArchive instanceId result (.archiving machine) = _
        simp [ColdStage.afterArchive, isReport]
      · intro result next after
        split
        · exact revert_archive_keeps row _
        · rename_i report isReport
          exact confirm_keeps (after report isReport)
    · rw [if_neg isConfigured]
      trivial

theorem lock_and_archive_keeps
    (stands : stage = .fetched row) (paused : row.lifecycleState = .paused)
    (archivable : row.archivable = some machine) :
    (coldTypestate instanceId .archiving).Keeps Anywhere Anywhere (lockAndArchive instanceId row machine)
      stage := by
  subst stands
  apply keeps_bind (fun locked next => locked = some true → next = .archiving machine)
  · apply ask_keeps .lockArchiving rfl ⟨row, machine, rfl, paused, archivable⟩
    intro locked isLocked
    change ColdStage.afterLock locked (.fetched row) = _
    simp [ColdStage.afterLock, isLocked, archivable]
  · intro locked next after
    match locked with
    | none | some false => trivial
    | some true =>
      apply keeps_handle (archive_after_lock_keeps (after rfl))
      intro _ later _
      exact revert_archive_keeps row _

theorem archive_keeps :
    (coldTypestate instanceId .archiving).Keeps Anywhere Anywhere (archiveInstance instanceId) .fresh := by
  rw [archiveInstance]
  split
  · trivial
  · apply keeps_bind (fun found next => ∀ row, found = some (some row) → next = .fetched row)
    · apply ask_keeps .fetchInstance trivial trivial
      intro found row isFound
      rw [isFound]
      rfl
    · intro found next after
      match found with
      | none | some none => trivial
      | some (some row) =>
        simp only [archiveFetched]
        split
        · trivial
        · rename_i paused
          split
          · trivial
          · rename_i machine archivable
            exact lock_and_archive_keeps (after row rfl) (not_not.mp paused) archivable

variable {destination : Destination} {previous : LifecycleState}
variable {failed : String → ColdStage → Prop}

theorem revert_restore_keeps (refusal : RestoreRefusal)
    (holds : stage.hold = some (destination, previous)) :
    (coldTypestate instanceId lane).Keeps Anywhere failed (revertRestore previous refusal) stage :=
  keeps_last (.revertRestoring previous) trivial ⟨destination, holds⟩ fun _ => ⟨_, rfl⟩

def Held (destination : Destination) (previous : LifecycleState) {Outcome : Type} (_ : Outcome)
    (stage : ColdStage) : Prop :=
  stage.hold = some (destination, previous)

theorem tear_down_clone_keeps (result : HostResult)
    (holds : stage.hold = some (destination, previous)) :
    (coldTypestate instanceId lane).Keeps (Held destination previous) failed
      (tearDownFailedClone instanceId destination result) stage := by
  rw [tearDownFailedClone]
  split
  · exact holds
  · split
    · exact holds
    · apply keeps_bind (Held destination previous)
      · exact ask_keeps (.tearDownClone destination) trivial ⟨previous, holds⟩ fun _ => holds
      · intro _ next held
        exact held

theorem record_restored_keeps (found : Restored) (loaded : stage = .loaded destination previous) :
    (coldTypestate instanceId lane).Keeps Anywhere failed (recordRestored found) stage := by
  rw [recordRestored]
  split
  · exact keeps_last (.parkHealthPending _) trivial ⟨destination, previous, loaded⟩ fun _ => ⟨_, rfl⟩
  · exact keeps_last (.markActive _) trivial ⟨destination, previous, loaded⟩ fun _ => ⟨_, rfl⟩

def Loaded (instanceId : String) (destination : Destination) (previous : LifecycleState)
    (result : HostResult) (stage : ColdStage) : Prop :=
  stage.hold = some (destination, previous) ∧
    ∀ found, readRestoreResult instanceId result = .ok found → stage = .loaded destination previous

theorem failed_names_nothing (found : Restored) :
    readRestoreResult instanceId .failed ≠ .ok found := by
  have tokens : parseTokenLine HostResult.failed.stdout "RESULT" = [] := by decide +kernel
  have fails : HostResult.failed.ok = false := rfl
  simp [readRestoreResult, tokens, fails, restoredOf, tokenOf]

theorem restore_script_keeps (archiveUri archiveSha256 : String) :
    (coldTypestate instanceId lane).Keeps (Loaded instanceId destination previous) failed
      (restoreScript archiveUri archiveSha256 destination) (.holding destination previous) := by
  apply keeps_bind (fun (verified : Bool) next =>
    next = if verified then .loaded destination previous else .holding destination previous)
  · apply ask_keeps (.readArchive archiveUri archiveSha256) trivial ⟨destination, previous, rfl⟩
    intro verified
    rfl
  · intro verified next after
    cases verified with
    | true =>
      rw [if_pos rfl] at after ⊢
      subst after
      apply ask_keeps (.bootClone destination) trivial trivial
      intro result
      exact ⟨rfl, fun _ _ => rfl⟩
    | false =>
      rw [if_neg (by decide)] at after ⊢
      subst after
      exact ⟨rfl, fun found impossible => absurd impossible (failed_names_nothing found)⟩

theorem finish_restore_keeps {result : HostResult}
    (loaded : Loaded instanceId destination previous result stage) :
    (coldTypestate instanceId lane).Keeps Anywhere failed
      (finishRestore instanceId previous destination result) stage := by
  rw [finishRestore]
  split
  · rename_i found isFound
    exact record_restored_keeps found (loaded.2 found isFound)
  · apply keeps_bind _ (tear_down_clone_keeps result loaded.1)
    intro _ next held
    exact revert_restore_keeps _ held

theorem restore_after_lock_keeps (archiveUri archiveSha256 : String)
    (stands : stage = .holding destination previous) :
    (coldTypestate instanceId lane).Keeps Anywhere (Held destination previous)
      (restoreInstanceAfterLock instanceId archiveUri archiveSha256 previous destination)
      stage := by
  subst stands
  rw [restoreInstanceAfterLock]
  split
  · exact revert_restore_keeps _ rfl
  · apply keeps_bind (fun _ next => next = .holding destination previous)
    · exact ask_keeps (.resolveHostEnv _) trivial trivial fun _ => rfl
    · intro configured next still
      subst still
      by_cases isConfigured : configured = true
      · rw [if_pos isConfigured]
        apply keeps_bind _ (restore_script_keeps archiveUri archiveSha256)
        intro result next loaded
        exact finish_restore_keeps loaded
      · rw [if_neg isConfigured]
        exact rfl

theorem lock_and_restore_keeps (archiveUri archiveSha256 : String)
    (stands : stage = .seen destination row) (restorable : row.isRestorable = true)
    (hasArchive : row.hasArchive = true) : (coldTypestate instanceId lane).Keeps Anywhere Anywhere
      (lockAndRestore instanceId archiveUri archiveSha256 row.lifecycleState destination)
      stage := by
  subst stands
  apply keeps_bind (fun locked next =>
    locked = some true → next = .holding destination row.lifecycleState)
  · apply ask_keeps (.lockRestoring _) trivial ⟨destination, row, rfl, rfl, restorable, hasArchive⟩
    intro locked isLocked
    exact if_pos isLocked
  · intro locked next after
    match locked with
    | none | some false => trivial
    | some true =>
      apply keeps_handle (restore_after_lock_keeps archiveUri archiveSha256 (after rfl))
      intro _ later held
      exact revert_restore_keeps _ held

theorem restore_instance_keeps (stands : stage = .placed destination) :
    (coldTypestate instanceId lane).Keeps Anywhere Anywhere (restoreInstance instanceId destination)
      stage := by
  subst stands
  apply keeps_bind (fun found next => ∀ row, found = some (some row) → next = .seen destination row)
  · apply ask_keeps .fetchInstance trivial trivial
    intro found row isFound
    rw [isFound]
    rfl
  · intro found next after
    match found with
    | none | some none => trivial
    | some (some row) =>
      simp only [restoreFetched]
      split
      · trivial
      · rename_i restorable
        split
        · split
          · trivial
          · rename_i hasArchive
            split
            · trivial
            · rw [Bool.not_eq_false] at restorable hasArchive
              exact lock_and_restore_keeps _ _ (after row rfl) restorable hasArchive
        · trivial

theorem orchestrate_keeps :
    (coldTypestate instanceId lane).Keeps Anywhere Anywhere (orchestrateColdRestore instanceId)
      .fresh := by
  apply keeps_bind (fun found next => ∀ destination, found = some destination →
    next = .placed destination)
  · apply ask_keeps .findDestination trivial rfl
    intro found destination isFound
    rw [isFound]
    rfl
  · intro found next after
    match found with
    | none => trivial
    | some destination =>
      apply keeps_bind Anywhere (restore_instance_keeps (after destination rfl))
      intro _ _ _
      trivial

theorem archive_job_keeps (job : ArchiveJob) :
    (coldTypestate instanceId .archiving).Keeps Anywhere Anywhere ((archiveSystem instanceId).program job)
      .fresh := by
  cases job with
  | archiveInstance =>
    apply keeps_bind Anywhere archive_keeps
    intro _ _ _
    trivial
  | recoverStuckArchiving => exact keeps_last .recoverArchiving rfl trivial fun _ => ⟨_, rfl⟩
  | restoreInstance => exact orchestrate_keeps

theorem trash_keeps {archiveUri : String} (hostSlug : String) (stands : stage = .picked archiveUri) :
    (coldTypestate instanceId .retention).Keeps Anywhere Anywhere (trashArchive archiveUri hostSlug)
      stage := by
  subst stands
  apply keeps_bind (fun _ next => next = .picked archiveUri)
  · exact ask_keeps (.resolveHostEnv _) trivial trivial fun _ => rfl
  · intro configured next still
    subst still
    by_cases isConfigured : configured = true
    · rw [if_pos isConfigured]
      apply keeps_bind (fun (gone : Bool) next => gone = true → next = .trashed archiveUri)
      · apply ask_keeps (.moveArchive _) rfl ⟨archiveUri, rfl, rfl⟩
        intro gone isGone
        exact if_pos isGone
      · intro gone next after
        by_cases isGone : gone = true
        · rw [if_pos isGone]
          exact keeps_last .markPurged rfl ⟨archiveUri, after isGone⟩ fun _ => ⟨_, rfl⟩
        · rw [if_neg isGone]
          trivial
    · rw [if_neg isConfigured]
      trivial

theorem purge_archive_keeps (hostSlug : String) :
    (coldTypestate instanceId .retention).Keeps Anywhere Anywhere (purgeArchive instanceId hostSlug)
      .chosen := by
  apply keeps_bind (fun found next => ∀ row archiveUri, found = some (some row) →
    row.archiveUri = some archiveUri → next = .picked archiveUri)
  · apply ask_keeps .fetchInstance trivial trivial
    intro found row archiveUri isFound isUri
    change ColdStage.afterFetch .chosen found = _
    simp [ColdStage.afterFetch, isFound, isUri]
  · intro found next after
    match found with
    | none | some none => trivial
    | some (some row) =>
      dsimp only
      split
      · trivial
      · rename_i archiveUri isUri
        split
        · trivial
        · split
          · trivial
          · exact trash_keeps hostSlug (after row archiveUri rfl isUri)

theorem keeps_fresh {Outcome : Type} (call : ColdCall)
    {next : call.Reply → ColdScript Outcome} (isIn : call.isIn .retention)
    (permitted : call.permitted instanceId .fresh)
    (still : ∀ reply, ColdStage.moved instanceId call reply .fresh = .fresh)
    {done : Outcome → ColdStage → Prop}
    (rest : ∀ reply, (coldTypestate instanceId .retention).Keeps done failed (next reply) .fresh) :
    (coldTypestate instanceId .retention).Keeps done failed
      (Script.bind (Script.request call) next) .fresh := by
  apply keeps_bind (fun _ next => next = .fresh)
  · exact ask_keeps call isIn permitted still
  · intro reply later isFresh
    subst isFresh
    exact rest reply

theorem mark_for_deletion_keeps :
    (coldTypestate instanceId .retention).Keeps (fun _ next => next = .fresh) Anywhere markForDeletion
      .fresh := by
  apply keeps_fresh .selectMarkable rfl trivial (fun _ => rfl)
  intro found
  match found with
  | none => trivial
  | some false => exact rfl
  | some true =>
    apply keeps_fresh .markPending rfl trivial (fun _ => rfl)
    intro _
    exact rfl

theorem purge_due_keeps (purgeHost : Option String) :
    (coldTypestate instanceId .retention).Keeps Anywhere Anywhere (purgeDue instanceId purgeHost)
      .fresh := by
  apply keeps_bind (fun due next => due = some true → next = .chosen)
  · apply ask_keeps .selectDue rfl trivial
    intro due isDue
    exact if_pos isDue
  · intro due next after
    match due, purgeHost with
    | none, _ | some false, _ | some true, none => trivial
    | some true, some hostSlug =>
      rw [after rfl]
      apply keeps_bind Anywhere (purge_archive_keeps hostSlug)
      intro _ _ _
      trivial

theorem recover_restoring_keeps :
    (coldTypestate instanceId .retention).Keeps Anywhere Anywhere recoverStuckRestoring .fresh := by
  apply keeps_fresh .selectRestoring rfl trivial (fun _ => rfl)
  intro found
  match found with
  | none | some false => trivial
  | some true =>
    apply keeps_fresh .probeHealth rfl trivial (fun _ => rfl)
    intro healthy
    split
    · exact keeps_last .promoteRestored rfl trivial fun _ => ⟨_, rfl⟩
    · trivial

theorem adopt_keeps :
    (coldTypestate instanceId .retention).Keeps Anywhere Anywhere adoptOrphanRestore .fresh := by
  apply keeps_fresh .selectOrphan rfl trivial (fun _ => rfl)
  intro found
  match found with
  | none | some false => trivial
  | some true =>
    apply keeps_fresh .discoverClones rfl trivial (fun _ => rfl)
    intro discovery
    match discovery with
    | .incomplete | .notServing => trivial
    | .noClone => exact keeps_last .resetToCold rfl trivial fun _ => ⟨_, rfl⟩
    | .keeper machine =>
      apply keeps_fresh (.adoptKeeper machine) rfl trivial (fun _ => rfl)
      intro claimed
      split
      · apply keeps_fresh .applyRouting rfl trivial (fun _ => rfl)
        intro routed
        split
        · exact keeps_last .promoteRestored rfl trivial fun _ => ⟨_, rfl⟩
        · trivial
      · trivial

theorem retention_job_keeps (job : RetentionJob) :
    (coldTypestate instanceId .retention).Keeps Anywhere Anywhere
      ((retentionSystem instanceId).program job)
      .fresh := by
  cases job with
  | coldRetentionSweep purgeHost =>
    apply keeps_bind _ mark_for_deletion_keeps
    intro _ next isFresh
    rw [show next = ColdStage.fresh from isFresh]
    exact purge_due_keeps purgeHost
  | restoreInstance => exact orchestrate_keeps
  | recoverStuckRestoring => exact recover_restoring_keeps
  | adoptOrphanRestore => exact adopt_keeps

end Keeps

end Hivra.Instances
