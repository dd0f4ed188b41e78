import Hivra.Instances.ColdCopies
import Hivra.Library.FollowedRows

/-!
# Archiving never destroys the only copy

However archive runs, the recovery of stuck rows and restores fall between each other: the machine
of a row is destroyed once, by the run that moved the row to `cold_archived` with an archive that
its own manifest confirmed.
-/

namespace Hivra.Instances

open Hivra.Library Typestate

abbrev ArchiveEvent : Type := Event ArchiveJob ColdTurn ColdChange

def stepArchive (instanceId : String) : ColdWorld → ArchiveEvent → ColdWorld :=
  ((coldTypestate instanceId .archiving).watch (archiveSystem instanceId)).step

structure Begins (instanceId : String) (store : ColdStore) : Prop where
  new : store.progress = fun _ => ColdProgress.initial
  idle : store.late = []
  /-- The archive script writes a manifest beside its archive. -/
  manifests : ∀ ts manifest, store.manifests (manifestPath instanceId ts) = .parsed manifest →
    manifest.archiveUri = archivePath instanceId ts
  warm : store.row.isWarm = true → store.row.machine = some store.source ∧ store.stands = true
  archive : store.row.archiveUri ≠ none → ∃ manifest ∈ store.read, Names store.row manifest
  cold : store.row.isKept = true → store.row.archiveUri ≠ none

/-- The only copy of a machine is never destroyed; `stood` says whether it stood at the start. -/
structure KeepsOneCopy (stood : Bool) (world : ColdWorld) : Prop where
  gone : stood = true → world.store.store.stands = false →
    ∃ number, (world.store.store.progress number).destroyed = true
  /-- A run that destroyed the machine moved the row with an archive that its manifest confirmed. -/
  destroyed : ∀ number, (world.store.store.progress number).destroyed = true →
    Moved (world.store.store.progress number)
  once : ∀ first second, (world.store.store.progress first).destroyed = true →
    (world.store.store.progress second).destroyed = true → first = second
  /-- A paused row names a machine that no run has destroyed, and for which no run has moved the
  row. -/
  paused : world.store.store.row.lifecycleState = .paused →
    world.store.store.row.machine = some world.store.store.source ∧
      world.store.store.stands = true ∧
        ∀ number, (world.store.store.progress number).destroyed = false ∧
          (world.store.store.progress number).moved = none
  cold : world.store.store.row.lifecycleState = .coldArchived →
    ∃ manifest ∈ world.store.store.read, Names world.store.store.row manifest

section Replies

variable {instanceId : String} {stood : Bool} {store : ColdStore} {states : Nat → ColdStage}
variable {number : Nat} {stage : ColdStage} {held : ColdProgress}

theorem closed_knows (knows : Knows stage held store) : Knows .closed held store :=
  fun destroyed => knows_destroyed knows destroyed

theorem failed_knows (call : ColdCall) (knows : Knows stage held store) :
    Knows (ColdStage.moved instanceId call (failCold call) stage) held store := by
  have closes := closed_knows knows
  cases call with
  | lockArchiving =>
    cases stage with
    | fetched row => exact closes
    | _ => exact knows
  | archiveScript machine =>
    cases stage with
    | archiving machine => exact closes
    | _ => exact knows
  | fetchManifest path =>
    cases stage with
    | reported machine report => exact closes
    | _ => exact knows
  | markColdArchived archive archiveCount =>
    cases stage with
    | confirmed machine archive => exact closes
    | _ => exact knows
  | destroyMachine machine =>
    cases stage with
    | retiring machine => exact closes
    | _ => exact knows
  | findDestination =>
    cases stage with
    | fresh => exact closes
    | _ => exact knows
  | lockRestoring previous =>
    cases stage with
    | seen destination row => exact closes
    | _ => exact knows
  | readArchive archiveUri archiveSha256 => cases stage <;> exact knows
  | selectDue =>
    cases stage with
    | fresh => exact closes
    | _ => exact knows
  | moveArchive parent =>
    cases stage with
    | picked archiveUri => exact closes
    | _ => exact knows
  | markPurged =>
    cases stage with
    | trashed archiveUri => exact closes
    | _ => exact knows
  | _ => exact knows

theorem archivable_machine {row : ColdRow} {machine : Machine}
    (archivable : row.archivable = some machine) : row.machine = some machine := by
  rw [ColdRow.archivable, Option.filter_eq_some_iff] at archivable
  exact archivable.1

theorem has_archive_uri {row : ColdRow} (has : row.hasArchive = true) : row.archiveUri ≠ none := by
  intro none
  simp [ColdRow.hasArchive, none] at has

theorem restorable_state {row : ColdRow} (restorable : row.isRestorable = true) :
    row.lifecycleState ≠ .paused ∧ row.lifecycleState ≠ .archiving ∧
      row.lifecycleState ≠ .active := by
  refine ⟨?_, ?_, ?_⟩ <;> intro state <;>
    simp [ColdRow.isRestorable, ColdRow.isFailedButRestorable, state] at restorable

section

variable (kept : Kept instanceId stood store states)
include kept

theorem fetched_knows (row : Option ColdRow)
    (isRow : ∀ found, row = some found → found = store.row) :
    Knows ((states number).afterFetch (some row)) (store.progress number) store := by
  have knows := kept.knows number
  cases row with
  | none => exact knows
  | some found =>
    rw [isRow found rfl]
    cases stage : states number with
    | fresh =>
      rw [stage] at knows
      refine ⟨knows, ?_⟩
      intro paused
      exact (kept.warm (by simp [ColdRow.isWarm, paused])).1
    | placed destination =>
      rw [stage] at knows
      exact ⟨knows.1, knows.2, fun has => .inl (has_archive_uri has)⟩
    | chosen =>
      rw [stage] at knows
      exact knows.elim
    | _ =>
      rw [stage] at knows
      exact knows

theorem locked_knows (permitted : ColdCall.lockArchiving.permitted instanceId (states number))
    (locked : Option Bool) :
    Knows ((states number).afterLock locked) (store.progress number) store := by
  have ⟨row, machine, stands, paused, archivable⟩ := permitted
  have knows := kept.knows number
  rw [stands] at knows ⊢
  simp only [ColdStage.afterLock]
  split
  · have named := knows.2 paused
    rw [archivable_machine archivable] at named
    rw [archivable]
    exact ⟨knows.1, Option.some.inj named⟩
  · exact closed_knows knows

theorem reported_knows (result : HostResult) :
    Knows ((states number).afterArchive instanceId result) (store.progress number) store := by
  have knows := kept.knows number
  cases stage : states number with
  | archiving machine =>
    rw [stage] at knows
    simp only [ColdStage.afterArchive]
    split
    · exact knows
    · exact closed_knows knows
  | _ =>
    rw [stage] at knows
    exact knows

omit kept in
theorem confirmed_knows (before : Kept instanceId stood store states) {path : String}
    (permitted : (ColdCall.fetchManifest path).permitted instanceId (states number))
    (kept : Kept instanceId stood (store.fetch number path) states) :
    Knows ((states number).afterManifest instanceId (store.manifests path))
      ((store.fetch number path).progress number) (store.fetch number path) := by
  obtain ⟨machine, report, stands, isPath⟩ := permitted
  have knows := kept.knows number
  rw [stands] at knows ⊢
  simp only [ColdStage.afterManifest]
  split
  · rename_i manifest checked
    obtain ⟨isParsed, sha256, sizeBytes⟩ := check_manifest_ok checked
    refine ⟨knows.1, knows.2, manifest, ?_, ?_⟩
    · simp [ColdStore.fetch, isParsed, ColdStore.note, ColdProgress.fetches]
    · rw [isPath] at isParsed
      exact ⟨(before.manifests report.ts manifest isParsed).symm, sha256.symm, sizeBytes.symm⟩
  · exact closed_knows knows

omit kept in
theorem marked_knows (before : Kept instanceId stood store states) {archive : Archive}
    {archiveCount : Nat} {turn : ColdTurn}
    (permitted : (ColdCall.markColdArchived archive archiveCount).permitted instanceId
      (states number))
    (kept : Kept instanceId stood
      (answerCold number (.markColdArchived archive archiveCount) turn store).1 states) :
    Knows ((states number).afterMark
        (answerCold number (.markColdArchived archive archiveCount) turn store).2)
      ((answerCold number (.markColdArchived archive archiveCount) turn store).1.progress number)
      (answerCold number (.markColdArchived archive archiveCount) turn store).1 := by
  have ⟨machine, stands⟩ := permitted
  have knows := kept.knows number
  have own := before.knows number
  rw [stands] at own knows ⊢
  have ⟨_, isSource, manifest, fetched, confirms⟩ := own
  revert knows
  simp only [answerCold]
  split
  · intro _
    refine ⟨isSource, manifest, archive, ?_, ?_, confirms⟩
    · simpa [ColdStore.write, ColdStore.note, ColdProgress.moves] using fetched
    · simp [ColdStore.write, ColdStore.note, ColdProgress.moves]
  · intro knows
    exact closed_knows knows

theorem placed_knows (turn : ColdTurn) :
    Knows ((states number).afterPlace (answerCold number .findDestination turn store).2)
      (store.progress number) store := by
  have knows := kept.knows number
  cases stage : states number with
  | fresh =>
    rw [stage] at knows
    cases taken : store.isTaken turn.destination.machine with
    | true =>
      simp only [answerCold, taken]
      exact closed_knows knows
    | false =>
      simp only [answerCold, taken]
      refine ⟨knows, ?_⟩
      intro isSource
      simpa [ColdStore.isTaken, isSource] using taken
  | _ =>
    rw [stage] at knows
    exact knows

theorem held_knows {previous : LifecycleState}
    (permitted : (ColdCall.lockRestoring previous).permitted instanceId (states number))
    (locked : Option Bool) :
    Knows ((states number).afterHold previous locked) (store.progress number) store := by
  have ⟨destination, row, stands, isPrevious, restorable, _⟩ := permitted
  have knows := kept.knows number
  rw [stands] at knows ⊢
  simp only [ColdStage.afterHold]
  split
  · have state := restorable_state restorable
    rw [isPrevious] at state
    exact ⟨knows.1, knows.2.1, state⟩
  · exact closed_knows knows

theorem loaded_knows (verified : Bool) :
    Knows ((states number).afterRead verified) (store.progress number) store := by
  have knows := kept.knows number
  cases stage : states number with
  | holding destination previous =>
    rw [stage] at knows
    cases verified <;> exact knows
  | _ =>
    rw [stage] at knows
    exact knows

end

theorem answered_knows (before : Kept instanceId stood store states) {call : ColdCall}
    (isIn : call.isIn .archiving) (permitted : call.permitted instanceId (states number))
    (turn : ColdTurn) (kept : Kept instanceId stood (answerCold number call turn store).1 states) :
    Knows (ColdStage.moved instanceId call (answerCold number call turn store).2 (states number))
      ((answerCold number call turn store).1.progress number)
      (answerCold number call turn store).1 := by
  cases call with
  | fetchInstance =>
    apply fetched_knows kept
    intro found isFound
    split at isFound
    · cases isFound
    · exact (Option.some.inj isFound).symm
  | lockArchiving => exact locked_knows kept permitted _
  | archiveScript machine => exact reported_knows kept _
  | fetchManifest path => exact confirmed_knows before permitted kept
  | markColdArchived archive archiveCount => exact marked_knows before permitted kept
  | destroyMachine machine =>
    have knows := kept.knows number
    rw [show states number = .retiring machine from permitted] at knows ⊢
    exact closed_knows knows
  | findDestination => exact placed_knows kept turn
  | lockRestoring previous => exact held_knows kept permitted _
  | readArchive archiveUri archiveSha256 => exact loaded_knows kept _
  | selectDue | moveArchive _ | markPurged => cases isIn
  | _ => exact kept.knows number

end Replies

def stagesAfter (states : Nat → ColdStage) (number : Nat) (stage : ColdStage) : Nat → ColdStage :=
  fun other => if other = number then stage else states other

section Requests

variable {instanceId : String} {stood : Bool} {store : ColdStore} {states : Nat → ColdStage}
variable {number : Nat}

section

variable (kept : Kept instanceId stood store states)
include kept

theorem kept_stage {stage : ColdStage} (knows : Knows stage (store.progress number) store)
    (done : (states number).isDone = true → stage.isDone = true) :
    Kept instanceId stood store (stagesAfter states number stage) := by
  constructor
  · exact kept.manifests
  · exact kept.warm
  · exact kept.single
  · exact kept.fetched
  · exact kept.archive
  · exact kept.cold
  · intro script there
    have rightful := kept.late script there
    cases script with
    | destroyMachine other machine =>
      refine ⟨?_, rightful.2⟩
      by_cases own : other = number
      · rw [stagesAfter, if_pos own]
        have wasDone := rightful.1
        rw [own] at wasDone
        exact done wasDone
      · rw [stagesAfter, if_neg own]
        exact rightful.1
    | tearDownClone other destination => exact rightful
  · exact kept.stands
  · intro other
    by_cases own : other = number
    · rw [stagesAfter, if_pos own, own]
      exact knows
    · rw [stagesAfter, if_neg own]
      exact kept.knows other

omit kept in
theorem done_stays {call : ColdCall} (reply : call.Reply) {stage : ColdStage}
    (done : stage.isDone = true) : (ColdStage.moved instanceId call reply stage).isDone = true := by
  cases stage with
  | retiring machine =>
    cases call with
    | fetchInstance =>
      match reply with
      | none | some none | some (some _) => rfl
    | _ => rfl
  | closed =>
    cases call with
    | fetchInstance =>
      match reply with
      | none | some none | some (some _) => rfl
    | _ => rfl
  | _ => cases done

theorem performed_kept {call : ColdCall}
    (isIn : call.isIn .archiving) (permitted : call.permitted instanceId (states number))
    (turn : ColdTurn) : Kept instanceId stood (performCold number call turn store).1
      (stagesAfter states number (ColdStage.moved instanceId call
        (performCold number call turn store).2 (states number))) := by
  have effect := answer_kept kept isIn permitted turn
  apply kept_stage
  · rw [performCold]
    split
    · exact effect
    · exact kept
    · exact effect
    · split
      · rename_i script isLate
        apply kept_late kept
        cases call with
        | destroyMachine machine =>
          cases isLate
          have knows := kept.knows number
          rw [show states number = .retiring machine from permitted] at knows
          exact ⟨by rw [show states number = .retiring machine from permitted]; rfl, knows.2⟩
        | tearDownClone destination =>
          cases isLate
          have ⟨previous, holds⟩ := permitted
          exact (hold_clear (kept.knows number) holds).1
        | _ => cases isLate
      · exact kept
  · rw [performCold]
    split
    · exact answered_knows kept isIn permitted turn effect
    · exact failed_knows call (kept.knows number)
    · exact failed_knows call (effect.knows number)
    · split
      · exact failed_knows call (kept.knows number)
      · exact failed_knows call (kept.knows number)
  · exact done_stays _

theorem kept_manifest (ts : String) (reply : ManifestReply)
    (placed : ∀ manifest, reply = .parsed manifest → manifest.archiveUri = archivePath instanceId ts) :
    Kept instanceId stood (store.putManifest (manifestPath instanceId ts) reply) states := by
  constructor
  · intro other manifest there
    simp only [ColdStore.putManifest] at there
    split at there
    · rename_i same
      rw [manifest_path_injective same]
      exact placed manifest there
    · exact kept.manifests other manifest there
  · exact kept.warm
  · exact kept.single
  · exact kept.fetched
  · exact kept.archive
  · exact kept.cold
  · exact kept.late
  · exact kept.stands
  · exact kept.knows

theorem kept_unlate (index : Nat) :
    Kept instanceId stood { store with late := store.late.eraseIdx index } states := by
  constructor
  · exact kept.manifests
  · exact kept.warm
  · exact kept.single
  · exact kept.fetched
  · exact kept.archive
  · exact kept.cold
  · intro script there
    exact kept.late script (List.mem_of_mem_eraseIdx there)
  · exact kept.stands
  · exact kept.knows

theorem changed_kept (change : ColdChange) :
    Kept instanceId stood (store.change instanceId change) states := by
  cases change with
  | writeFile ts sha256 =>
    exact ⟨kept.manifests, kept.warm, kept.single, kept.fetched, kept.archive, kept.cold,
      kept.late, kept.stands, kept.knows⟩
  | writeManifest ts sha256 sizeBytes archivedAt =>
    apply kept_manifest kept
    intro manifest isParsed
    cases isParsed
    rfl
  | garbleManifest ts =>
    apply kept_manifest kept
    intro manifest impossible
    cases impossible
  | finish index =>
    simp only [ColdStore.change]
    split
    · rename_i script there
      have rightful := kept.late script (List.mem_of_getElem? there)
      have erased := kept_unlate kept index
      cases script with
      | destroyMachine number machine =>
        exact kept_destroy erased rightful.1 rightful.2 machine
      | tearDownClone number destination =>
        have clear : Clear { store with late := store.late.eraseIdx index } destination :=
          rightful
        simp only [LateScript.run]
        rw [clear_destroy clear]
        exact erased
    · exact kept

end

end Requests

section Runs

variable {instanceId : String} {stood : Bool} {world : ColdWorld}

structure ColdSound (instanceId : String) (stood : Bool) (world : ColdWorld) : Prop where
  keeps : (coldTypestate instanceId .archiving).AllKeep Anywhere Anywhere world
  kept : Kept instanceId stood world.store.store world.store.states

theorem archive_sound_step (event : ArchiveEvent) (sound : ColdSound instanceId stood world) :
    ColdSound instanceId stood (stepArchive instanceId world event) := by
  have keeps := keep_step archive_job_keeps event sound.keeps
  constructor
  · exact keeps
  · cases event with
    | start job => exact sound.kept
    | stop number => exact sound.kept
    | outside change => exact changed_kept sound.kept change
    | advance number turn =>
      apply System.advance_cases _ (fun later : ColdWorld =>
        Kept instanceId stood later.store.store later.store.states) sound.kept
      intro call next current
      have ⟨isIn, permitted⟩ := (sound.keeps.keeps number _ current).1
      rw [step_advance current turn]
      exact performed_kept sound.kept isIn permitted turn

theorem archive_sound_start {store : ColdStore} (begins : Begins instanceId store) :
    ColdSound instanceId store.stands ((coldTypestate instanceId .archiving).start store) := by
  have progress : ∀ number, store.progress number = ColdProgress.initial := by
    intro number
    rw [begins.new]
  constructor
  · exact start_keeps store
  · constructor
    · exact begins.manifests
    · intro warm
      have ⟨names, stands⟩ := begins.warm warm
      refine ⟨names, stands, ?_⟩
      intro number
      exact congrArg ColdProgress.moved (progress number)
    · intro first second isFirst
      exact absurd (congrArg ColdProgress.moved (progress first)) isFirst
    · intro number manifest fetched
      rw [show ((coldTypestate instanceId .archiving).start store : ColdWorld).store.store.progress
        number = ColdProgress.initial from progress number] at fetched
      cases fetched
    · exact begins.archive
    · exact begins.cold
    · intro script there
      rw [show ((coldTypestate instanceId .archiving).start store : ColdWorld).store.store.late =
        [] from begins.idle] at there
      cases there
    · intro stands
      exact .inl stands
    · intro number
      exact congrArg ColdProgress.destroyed (progress number)

theorem sound_keeps_one_copy (sound : ColdSound instanceId stood world) :
    KeepsOneCopy stood world := by
  have moved : ∀ number, (world.store.store.progress number).destroyed = true →
      Moved (world.store.store.progress number) :=
    fun number destroyed => knows_destroyed (sound.kept.knows number) destroyed
  constructor
  · intro began gone
    cases sound.kept.stands began with
    | inl stands =>
      rw [gone] at stands
      cases stands
    | inr destroyed => exact destroyed
  · exact moved
  · intro first second isFirst isSecond
    exact sound.kept.single first second (moved_some (moved first isFirst))
      (moved_some (moved second isSecond))
  · intro paused
    have ⟨names, stands, unmoved⟩ := sound.kept.warm (by simp [ColdRow.isWarm, paused])
    refine ⟨names, stands, ?_⟩
    intro number
    refine ⟨?_, unmoved number⟩
    cases destroyed : (world.store.store.progress number).destroyed with
    | false => rfl
    | true => exact absurd (unmoved number) (moved_some (moved number destroyed))
  · intro cold
    exact sound.kept.archive (sound.kept.cold (by simp [ColdRow.isKept, cold]))

theorem destroy_moved (store : ColdStore) (number other : Nat) (machine : Machine) :
    ((store.destroy number machine).progress other).moved = (store.progress other).moved := by
  rw [ColdStore.destroy]
  split
  · by_cases own : other = number
    · simp [ColdStore.note, own, ColdProgress.destroys]
    · simp [ColdStore.note, own]
  · rfl

theorem note_moved (store : ColdStore) (number other : Nat) (noted : ColdProgress → ColdProgress)
    (same : ∀ held, (noted held).moved = held.moved) :
    ((store.note number noted).progress other).moved = (store.progress other).moved := by
  by_cases own : other = number
  · simp [ColdStore.note, own, same]
  · simp [ColdStore.note, own]

theorem write_where_moved (store : ColdStore) (found : Bool) (row : ColdRow) (other : Nat) :
    ((store.writeWhere found row).progress other).moved = (store.progress other).moved := by
  cases found <;> rfl

theorem answer_moves_archiving (number : Nat) (call : ColdCall) (turn : ColdTurn)
    (store : ColdStore) (other : Nat) :
    ((answerCold number call turn store).1.progress other).moved = (store.progress other).moved ∨
      store.row.lifecycleState = .archiving := by
  cases call with
  | markColdArchived archive archiveCount =>
    simp only [answerCold]
    split
    · rename_i archiving
      exact .inr archiving
    · exact .inl rfl
  | fetchManifest path =>
    left
    simp only [answerCold, ColdStore.fetch]
    split
    · rename_i manifest there
      exact note_moved store number other (fun held => held.fetches manifest) fun _ => rfl
    · rfl
  | destroyMachine machine => exact .inl (destroy_moved store number other machine)
  | tearDownClone destination =>
    exact .inl (destroy_moved store number other destination.machine)
  | readArchive archiveUri archiveSha256 =>
    left
    simp only [answerCold]
    split
    · exact note_moved store number other (fun held => held.reads _) fun _ => rfl
    · rfl
  | markActive machine | parkHealthPending machine =>
    left
    simp only [answerCold]
    split
    · exact note_moved store number other ColdProgress.restores fun _ => rfl
    · rfl
  | moveArchive parent =>
    left
    simp only [answerCold]
    split
    · exact note_moved store number other (fun held => held.trashes _) fun _ => rfl
    · rfl
  | markPurged =>
    exact .inl (note_moved store number other (fun held => held.purges _) fun _ => rfl)
  | lockArchiving | revertToPaused _ | recoverArchiving | lockRestoring _ | revertRestoring _
    | promoteRestored | resetToCold | adoptKeeper _ | markPending =>
      exact .inl (write_where_moved store _ _ other)
  | fetchInstance | resolveHostEnv _ | archiveScript _ | findDestination | bootClone _
    | selectRestoring | probeHealth | selectOrphan | discoverClones | applyRouting
    | selectMarkable | selectDue => exact .inl rfl

theorem perform_moves_archiving (number : Nat) (call : ColdCall) (turn : ColdTurn)
    (store : ColdStore) (other : Nat) :
    ((performCold number call turn store).1.progress other).moved = (store.progress other).moved ∨
      store.row.lifecycleState = .archiving := by
  have answered := answer_moves_archiving number call turn store other
  rw [performCold]
  split
  · exact answered
  · exact .inl rfl
  · exact answered
  · split <;> exact .inl rfl

theorem change_moves (instanceId : String) (change : ColdChange) (store : ColdStore) (other : Nat) :
    ((store.change instanceId change).progress other).moved = (store.progress other).moved := by
  cases change with
  | writeFile | writeManifest | garbleManifest => rfl
  | finish index =>
    simp only [ColdStore.change]
    split
    · rename_i script there
      cases script <;> exact destroy_moved _ _ other _
    · rfl

/-- The run has moved the row to `cold_archived`. -/
def MovedBy (number : Nat) (world : ColdWorld) : Prop :=
  (world.store.store.progress number).moved ≠ none

theorem step_moves_archiving (event : ArchiveEvent) (number : Nat)
    (moved : MovedBy number (stepArchive instanceId world event)) :
    MovedBy number world ∨ world.store.store.row.lifecycleState = .archiving := by
  cases event with
  | start job => exact .inl moved
  | stop stopped => exact .inl moved
  | outside change =>
    left
    rw [MovedBy, ← change_moves instanceId change world.store.store number]
    exact moved
  | advance run turn =>
    have still : MovedBy number world → MovedBy number world ∨
        world.store.store.row.lifecycleState = .archiving := .inl
    revert moved
    apply System.advance_cases _ (fun later : ColdWorld => MovedBy number later →
      MovedBy number world ∨ world.store.store.row.lifecycleState = .archiving) still
    intro call next current moved
    rw [step_advance current turn] at moved
    cases perform_moves_archiving run call turn world.store.store number with
    | inl same =>
      left
      rw [MovedBy, ← same]
      exact moved
    | inr archiving => exact .inr archiving

end Runs

/-- The only copy is never destroyed, in every state that is reached; and from a state in which the
row is paused, no run comes to destroy the machine without the row being in `archiving` again. -/
theorem archiving_keeps_one_copy (instanceId : String) (store : ColdStore)
    (begins : Begins instanceId store) (history : List ArchiveEvent) :
    KeepsOneCopy store.stands (history.foldl (stepArchive instanceId)
        ((coldTypestate instanceId .archiving).start store)) ∧
      ∀ (later : List ArchiveEvent) (number : Nat),
        (history.foldl (stepArchive instanceId)
          ((coldTypestate instanceId .archiving).start store)).store.store.row.lifecycleState =
            .paused →
          (((history ++ later).foldl (stepArchive instanceId)
            ((coldTypestate instanceId .archiving).start store)).store.store.progress
              number).destroyed = true →
            ∃ early late, later = early ++ late ∧
              ((history ++ early).foldl (stepArchive instanceId)
                ((coldTypestate instanceId .archiving).start store)).store.store.row.lifecycleState =
                  .archiving := by
  have sound : ∀ events : List ArchiveEvent, ColdSound instanceId store.stands
      (events.foldl (stepArchive instanceId) ((coldTypestate instanceId .archiving).start store)) :=
    fun events => fold_keeps events (archive_sound_start begins)
      fun _ event held => archive_sound_step event held
  constructor
  · exact sound_keeps_one_copy (sound history)
  · intro later number paused destroyed
    have unmoved := ((sound_keeps_one_copy (sound history)).paused paused).2.2 number
    have moved := moved_some ((sound_keeps_one_copy (sound (history ++ later))).destroyed number
      destroyed)
    rw [List.foldl_append] at moved
    have steps : ∀ (world : ColdWorld) (event : ArchiveEvent), True →
        MovedBy number (stepArchive instanceId world event) →
          MovedBy number world ∨ world.store.store.row.lifecycleState = .archiving :=
      fun _ event _ isMoved => step_moves_archiving event number isMoved
    have ⟨early, event, late, split, archiving⟩ :=
      fold_caused (fun _ _ _ => trivial) steps trivial (not_not.mpr unmoved.2) later moved
    refine ⟨early, event :: late, split, ?_⟩
    rw [List.foldl_append]
    exact archiving

def someInstance : String := "0a1b2c3d-0a1b-4c3d-8a1b-0a1b2c3d4e5f"

def someSha256 : String := "0123456789abcdef0123456789abcdef0123456789abcdef0123456789abcdef"

def pausedRow : ColdRow :=
  { lifecycleState := .paused
    lifecycleSubstate := none
    pausedReason := some "inactivity"
    proxmoxNode := some "pve-1"
    proxmoxVmid := some 105
    archiveUri := none
    archiveSha256 := none
    archiveSizeBytes := none
    archivedAt := none
    archiveCount := none
    isDeleted := false }

def pausedStore : ColdStore :=
  { row := pausedRow
    manifests := fun _ => .unreadable
    files := []
    source := { node := "pve-1", vmid := 105 }
    stands := true
    late := []
    read := []
    trash := []
    progress := fun _ => .initial }

def manifestLine : String :=
  "MANIFEST sha256=" ++ someSha256 ++ " size=12 iid=" ++ someInstance ++ " ts=20260501T000000Z"

def goodTurn : ColdTurn :=
  { fault := .none_
    due := true
    answers := true
    host := { ok := true, stdout := manifestLine, stderr := "" }
    destination :=
      { machine := { node := "pve-2", vmid := 106 }, templateVmid := 9007, targetDiskGb := 30 }
    discovery := .noClone }

def wholeArchive : List ArchiveEvent :=
  .start .archiveInstance :: (List.replicate 4 (.advance 0 goodTurn) : List ArchiveEvent) ++
    (.outside (.writeManifest "20260501T000000Z" someSha256 12 "2026-05-01T00:00:00.000Z") ::
      List.replicate 3 (.advance 0 goodTurn) : List ArchiveEvent)

theorem archiving_keeps_one_copy_run :
    KeepsOneCopy true (wholeArchive.foldl (stepArchive someInstance)
        ((coldTypestate someInstance .archiving).start pausedStore)) ∧
      ((wholeArchive.foldl (stepArchive someInstance)
        ((coldTypestate someInstance .archiving).start pausedStore)).store.store.progress
          0).destroyed = true := by
  have begins : Begins someInstance pausedStore :=
    { new := rfl
      idle := rfl
      manifests := fun _ _ impossible => by cases impossible
      warm := fun _ => ⟨rfl, rfl⟩
      archive := fun has => absurd rfl has
      cold := fun isKept => by cases isKept }
  exact ⟨(archiving_keeps_one_copy someInstance pausedStore begins wholeArchive).1,
    by decide +kernel⟩

end Hivra.Instances
