import Hivra.Instances.ColdStages
import Hivra.Library.FollowedRows

/-!
# Purging an archive beside a restore

The purge checks the state of the row when it selects it and never again.  While no purge fetches a
row that has left `pending_deletion`, and no restore takes the lock of a row that a purge is at, the
archive is moved only under a row that waits for its deletion.
-/

namespace Hivra.Instances

open Hivra.Library Typestate

abbrev RetentionEvent : Type := Event RetentionJob ColdTurn Empty

def stepRetention (instanceId : String) : ColdWorld → RetentionEvent → ColdWorld :=
  ((coldTypestate instanceId .retention).watch (retentionSystem instanceId)).step

def atWork (world : ColdWorld) (number : Nat) : Bool :=
  world.lives number && (world.store.states number).purging.isSome

/-- A purge fetches a row that still waits for its deletion, and a restore locks a row that no
purge is at. -/
def ColdCall.Guarded (call : ColdCall) (fault : ColdFault) (number : Nat) (world : ColdWorld) :
    Prop :=
  match call with
  | .fetchInstance =>
    fault = .none_ → world.store.states number = .chosen →
      world.store.store.row.isDeleted = false → world.store.store.row.archiveUri ≠ none →
        world.store.store.row.lifecycleState = .pendingDeletion
  | .lockRestoring previous =>
    fault = .none_ ∨ fault = .lost →
      world.store.store.row.lifecycleState = previous →
        world.store.store.row.isDeleted = false →
          ∀ other ∈ List.range world.runs.length, atWork world other = false
  | _ => True

instance (call : ColdCall) (fault : ColdFault) (number : Nat) (world : ColdWorld) :
    Decidable (call.Guarded fault number world) := by
  unfold ColdCall.Guarded
  cases call <;> infer_instance

def Guarded (world : ColdWorld) (event : RetentionEvent) : Prop :=
  match event with
  | .advance number turn =>
    match world.runs[number]? with
    | some (some (.call call _)) => call.Guarded turn.fault number world
    | _ => True
  | _ => True

instance (world : ColdWorld) (event : RetentionEvent) : Decidable (Guarded world event) := by
  unfold Guarded
  cases event with
  | advance number turn =>
    dsimp only
    split <;> infer_instance
  | start job | stop number | outside change => infer_instance

structure SparesTenants (world : ColdWorld) : Prop where
  /-- An archive is moved away only under a row that waits for its deletion. -/
  trashed : ∀ number state, (world.store.store.progress number).trashedFrom = some state →
    state = .pendingDeletion
  /-- A row that is restored, or is being restored, is not marked deleted. -/
  purged : ∀ number state, (world.store.store.progress number).purgedFrom = some state →
    state ≠ .active ∧ state ≠ .restoring
  /-- A restore that succeeded read an archive that had not been moved away. -/
  restored : ∀ number, (world.store.store.progress number).restored = true →
    (world.store.store.progress number).readTrashed = some false

def Awaits (store : ColdStore) (archiveUri : String) : Prop :=
  store.row.lifecycleState = .pendingDeletion ∧ store.row.archiveUri = some archiveUri ∨
    store.row.lifecycleState = .deleted ∧ store.hasUnder (parentPath archiveUri) = false

def Relies (stage : ColdStage) (held : ColdProgress) (live : Bool) (store : ColdStore) : Prop :=
  match stage with
  | .picked archiveUri => live = true → Awaits store archiveUri
  | .trashed archiveUri =>
    live = true → Awaits store archiveUri ∧ store.hasUnder (parentPath archiveUri) = false
  | .loaded _ _ => held.readTrashed = some false
  | _ => True

def ColdRow.isLaid (row : ColdRow) : Bool :=
  row.lifecycleState == .coldArchived || row.lifecycleState == .pendingDeletion ||
    row.lifecycleState == .deleted

structure Spared (store : ColdStore) (states : Nat → ColdStage) (live : Nat → Bool) : Prop where
  trash : ∀ path ∈ store.trash, ∀ sha256, (path, sha256) ∉ store.files
  substate : store.row.isLaid = true → store.row.lifecycleSubstate ≠ some .restoringStarting
  trashed : ∀ number state, (store.progress number).trashedFrom = some state →
    state = .pendingDeletion
  purged : ∀ number state, (store.progress number).purgedFrom = some state →
    state = .pendingDeletion ∨ state = .deleted
  restored : ∀ number, (store.progress number).restored = true →
    (store.progress number).readTrashed = some false
  relies : ∀ number, Relies (states number) (store.progress number) (live number) store

section Spared

variable {instanceId : String} {store : ColdStore} {states : Nat → ColdStage} {live : Nat → Bool}
variable {number : Nat}

section

variable (spared : Spared store states live)
include spared

theorem nobody_purges (waits : store.row.lifecycleState ≠ .pendingDeletion)
    (deleted : store.row.lifecycleState ≠ .deleted) (other : Nat) (isLive : live other = true) :
    (states other).purging = none := by
  have relies := spared.relies other
  have none : ∀ archiveUri, ¬Awaits store archiveUri := by
    intro archiveUri awaits
    cases awaits with
    | inl pending => exact waits pending.1
    | inr gone => exact deleted gone.1
  cases stage : states other with
  | picked archiveUri =>
    rw [stage] at relies
    exact absurd (relies isLive) (none archiveUri)
  | trashed archiveUri =>
    rw [stage] at relies
    exact absurd (relies isLive).1 (none archiveUri)
  | _ => rfl

theorem spared_write
    (nobody : ∀ other, live other = true → (states other).purging = none) (row : ColdRow)
    (substate : row.isLaid = true → row.lifecycleSubstate ≠ some .restoringStarting) :
    Spared (store.write row) states live := by
  constructor
  · exact spared.trash
  · exact substate
  · exact spared.trashed
  · exact spared.purged
  · exact spared.restored
  · intro other
    have relies := spared.relies other
    cases stage : states other with
    | picked archiveUri | trashed archiveUri =>
      intro isLive
      have none := nobody other isLive
      rw [stage] at none
      cases none
    | loaded destination previous =>
      rw [stage] at relies
      exact relies
    | _ => trivial

theorem spared_write_where {found : Bool} {row : ColdRow}
    (written : found = true → Spared (store.write row) states live) :
    Spared (store.writeWhere found row) states live := by
  cases found with
  | true => exact written rfl
  | false => exact spared

theorem spared_restoring (restoring : store.row.lifecycleState = .restoring) (row : ColdRow)
    (substate : row.lifecycleSubstate ≠ some .restoringStarting) :
    Spared (store.write row) states live := by
  apply spared_write spared _ row (fun _ => substate)
  apply nobody_purges spared <;> simp [restoring]

theorem spared_stranded
    (stranded : store.row.lifecycleSubstate = some .restoringStarting) (row : ColdRow)
    (substate : row.lifecycleSubstate ≠ some .restoringStarting) :
    Spared (store.write row) states live := by
  have unlaid : store.row.isLaid = false := by
    cases laid : store.row.isLaid with
    | false => rfl
    | true => exact absurd stranded (spared.substate laid)
  apply spared_write spared _ row (fun _ => substate)
  apply nobody_purges spared
  · intro pending
    simp [ColdRow.isLaid, pending] at unlaid
  · intro deleted
    simp [ColdRow.isLaid, deleted] at unlaid

theorem spared_note (number : Nat) (noted : ColdProgress → ColdProgress)
    (same : ∀ held, (noted held).trashedFrom = held.trashedFrom ∧
      (noted held).purgedFrom = held.purgedFrom)
    (restored : (noted (store.progress number)).restored = true →
      (noted (store.progress number)).readTrashed = some false)
    (loaded : (store.progress number).readTrashed = some false →
      (noted (store.progress number)).readTrashed = some false) :
    Spared (store.note number noted) states live := by
  have apart : ∀ other, other ≠ number →
      (store.note number noted).progress other = store.progress other := by
    intro other isOther
    simp [ColdStore.note, isOther]
  have self : (store.note number noted).progress number = noted (store.progress number) := by
    simp [ColdStore.note]
  constructor
  · exact spared.trash
  · exact spared.substate
  · intro other state isTrashed
    by_cases own : other = number
    · rw [own, self, (same _).1] at isTrashed
      exact spared.trashed number state isTrashed
    · rw [apart other own] at isTrashed
      exact spared.trashed other state isTrashed
  · intro other state isPurged
    by_cases own : other = number
    · rw [own, self, (same _).2] at isPurged
      exact spared.purged number state isPurged
    · rw [apart other own] at isPurged
      exact spared.purged other state isPurged
  · intro other isRestored
    by_cases own : other = number
    · rw [own, self] at isRestored ⊢
      exact restored isRestored
    · rw [apart other own] at isRestored ⊢
      exact spared.restored other isRestored
  · intro other
    have relies := spared.relies other
    by_cases own : other = number
    · rw [own] at relies ⊢
      rw [self]
      cases stage : states number with
      | loaded destination previous =>
        rw [stage] at relies
        exact loaded relies
      | picked archiveUri | trashed archiveUri =>
        rw [stage] at relies
        exact relies
      | _ => trivial
    · rw [apart other own]
      exact relies

theorem spared_destroy (number : Nat) (machine : Machine) :
    Spared (store.destroy number machine) states live := by
  rw [ColdStore.destroy]
  split
  · have noted := spared_note spared number ColdProgress.destroys (fun _ => ⟨rfl, rfl⟩)
      (spared.restored number) (fun loaded => loaded)
    exact ⟨noted.trash, noted.substate, noted.trashed, noted.purged, noted.restored, noted.relies⟩
  · exact spared

omit spared in
theorem under_after_trash (store : ColdStore) (number : Nat) (parent : String) :
    (store.trashUnder number parent).hasUnder parent = false := by
  simp [ColdStore.trashUnder, ColdStore.hasUnder, ColdStore.note]

omit spared in
theorem not_under_trash {store : ColdStore} {number : Nat} {parent other : String}
    (none : store.hasUnder other = false) :
    (store.trashUnder number parent).hasUnder other = false := by
  simp only [ColdStore.hasUnder, List.any_eq_false] at none ⊢
  intro file there
  exact none file (List.mem_of_mem_filter there)

theorem spared_trash {archiveUri : String}
    (stands : states number = .picked archiveUri) (isLive : live number = true)
    (there : store.hasUnder (parentPath archiveUri) = true) :
    Spared (store.trashUnder number (parentPath archiveUri)) states live := by
  have awaits := spared.relies number
  rw [stands] at awaits
  have pending : store.row.lifecycleState = .pendingDeletion := by
    cases awaits isLive with
    | inl pending => exact pending.1
    | inr gone =>
      rw [gone.2] at there
      cases there
  have progress : ∀ other, (store.trashUnder number (parentPath archiveUri)).progress other =
      if other = number then (store.progress number).trashes store.row.lifecycleState
      else store.progress other := fun _ => rfl
  constructor
  · intro path inTrash sha256 inFiles
    simp only [ColdStore.trashUnder, List.mem_append, List.mem_map, List.mem_filter] at inTrash
    have ⟨wasFile, apart⟩ := List.mem_filter.mp inFiles
    cases inTrash with
    | inl before => exact spared.trash path before sha256 wasFile
    | inr moved =>
      have ⟨file, isFile, isPath⟩ := moved
      rw [← isPath, isFile.2] at apart
      cases apart
  · exact spared.substate
  · intro other state isTrashed
    rw [progress] at isTrashed
    split at isTrashed
    · cases isTrashed
      exact pending
    · exact spared.trashed other state isTrashed
  · intro other state isPurged
    rw [progress] at isPurged
    split at isPurged
    · exact spared.purged number state isPurged
    · exact spared.purged other state isPurged
  · intro other isRestored
    rw [progress] at isRestored ⊢
    split at isRestored
    · rename_i own
      rw [if_pos own]
      exact spared.restored number isRestored
    · rename_i own
      rw [if_neg own]
      exact spared.restored other isRestored
  · have awaiting : ∀ uri, Awaits store uri →
        Awaits (store.trashUnder number (parentPath archiveUri)) uri := by
      intro uri awaits
      cases awaits with
      | inl pending => exact .inl pending
      | inr gone => exact .inr ⟨gone.1, not_under_trash gone.2⟩
    intro other
    have relies := spared.relies other
    cases stage : states other with
    | picked uri =>
      rw [stage] at relies
      exact fun isLive => awaiting uri (relies isLive)
    | trashed uri =>
      rw [stage] at relies
      exact fun isLive => ⟨awaiting uri (relies isLive).1, not_under_trash (relies isLive).2⟩
    | loaded destination previous =>
      rw [stage] at relies
      simp only [Relies]
      rw [progress]
      split
      · rename_i own
        rw [own] at relies
        exact relies
      · exact relies
    | _ => trivial

theorem spared_purge {archiveUri : String}
    (stands : states number = .trashed archiveUri) (isLive : live number = true) :
    Spared ((store.note number fun held => held.purges store.row.lifecycleState).write
      store.row.purged) states live := by
  have own := spared.relies number
  rw [stands] at own
  have ⟨awaits, clean⟩ := own isLive
  have state : store.row.lifecycleState = .pendingDeletion ∨
      store.row.lifecycleState = .deleted := by
    cases awaits with
    | inl pending => exact .inl pending.1
    | inr gone => exact .inr gone.1
  have progress : ∀ other, (((store.note number fun held =>
      held.purges store.row.lifecycleState).write store.row.purged)).progress other =
        if other = number then (store.progress number).purges store.row.lifecycleState
        else store.progress other := fun _ => rfl
  constructor
  · exact spared.trash
  · intro _ impossible
    cases impossible
  · intro other state isTrashed
    rw [progress] at isTrashed
    split at isTrashed
    · exact spared.trashed number state isTrashed
    · exact spared.trashed other state isTrashed
  · intro other found isPurged
    rw [progress] at isPurged
    split at isPurged
    · cases isPurged
      exact state
    · exact spared.purged other found isPurged
  · intro other isRestored
    rw [progress] at isRestored ⊢
    split at isRestored
    · rename_i own
      rw [if_pos own]
      exact spared.restored number isRestored
    · rename_i own
      rw [if_neg own]
      exact spared.restored other isRestored
  · have through : ∀ uri, Awaits store uri → store.hasUnder (parentPath uri) = false := by
      intro uri otherAwaits
      cases otherAwaits with
      | inr gone => exact gone.2
      | inl pending =>
        cases awaits with
        | inr gone =>
          rw [pending.1] at gone
          cases gone.1
        | inl same =>
          rw [same.2] at pending
          cases pending.2
          exact clean
    intro other
    have relies := spared.relies other
    cases stage : states other with
    | picked uri =>
      rw [stage] at relies
      exact fun isLive => .inr ⟨rfl, through uri (relies isLive)⟩
    | trashed uri =>
      rw [stage] at relies
      exact fun isLive => ⟨.inr ⟨rfl, (relies isLive).2⟩, (relies isLive).2⟩
    | loaded destination previous =>
      rw [stage] at relies
      simp only [Relies]
      rw [progress]
      split
      · rename_i own
        rw [own] at relies
        exact relies
      · exact relies
    | _ => trivial

theorem answer_spared {call : ColdCall}
    (isIn : call.isIn .retention) (permitted : call.permitted instanceId (states number))
    (isLive : live number = true) (alone : ∀ previous, call = .lockRestoring previous →
      store.row.lifecycleState = previous → store.row.isDeleted = false →
        ∀ other, live other = true → (states other).purging = none)
    (turn : ColdTurn) : Spared (answerCold number call turn store).1 states live := by
  cases call with
  | lockRestoring previous =>
    apply spared_write_where spared
    intro found
    simp only [Bool.and_eq_true, beq_iff_eq, Bool.not_eq_true'] at found
    apply spared_write spared (alone previous rfl found.1 found.2)
    intro impossible
    cases impossible
  | readArchive archiveUri archiveSha256 =>
    simp only [answerCold]
    split
    · rename_i there
      have untrashed : archiveUri ∉ store.trash := by
        intro inTrash
        exact spared.trash archiveUri inTrash archiveSha256 there
      rw [decide_eq_false untrashed]
      exact spared_note spared number (fun held => held.reads false) (fun _ => ⟨rfl, rfl⟩)
        (fun _ => rfl) (fun _ => rfl)
    · exact spared
  | tearDownClone destination => exact spared_destroy spared number destination.machine
  | markActive machine =>
    have ⟨destination, previous, stands⟩ := permitted
    have loaded := spared.relies number
    rw [stands] at loaded
    simp only [answerCold]
    split
    · rename_i restoring
      have noted := spared_note spared number ColdProgress.restores (fun _ => ⟨rfl, rfl⟩)
        (fun _ => loaded) (fun loaded => loaded)
      exact spared_restoring noted restoring _ (by simp [ColdRow.restored])
    · exact spared
  | parkHealthPending machine =>
    have ⟨destination, previous, stands⟩ := permitted
    have loaded := spared.relies number
    rw [stands] at loaded
    simp only [answerCold]
    split
    · rename_i restoring
      have noted := spared_note spared number ColdProgress.restores (fun _ => ⟨rfl, rfl⟩)
        (fun _ => loaded) (fun loaded => loaded)
      exact spared_restoring noted restoring _ (by simp [ColdRow.parked])
    · exact spared
  | revertRestoring previous =>
    apply spared_write_where spared
    intro found
    exact spared_restoring spared (eq_of_beq found) _ (by simp [ColdRow.revertedTo])
  | promoteRestored =>
    apply spared_write_where spared
    intro found
    exact spared_restoring spared (eq_of_beq found) _ (by simp [ColdRow.promoted])
  | resetToCold =>
    apply spared_write_where spared
    intro found
    exact spared_stranded spared (eq_of_beq found) _ (by simp [ColdRow.resetToCold])
  | adoptKeeper machine =>
    apply spared_write_where spared
    intro found
    simp only [Bool.and_eq_true, beq_iff_eq] at found
    exact spared_stranded spared found.1 _ (by simp [ColdRow.adopted])
  | markPending =>
    apply spared_write_where spared
    intro found
    have cold := eq_of_beq found
    apply spared_write spared
    · apply nobody_purges spared <;> simp [cold]
    · intro _
      exact spared.substate (by simp [ColdRow.isLaid, cold])
  | moveArchive parent =>
    have ⟨archiveUri, stands, isParent⟩ := permitted
    subst isParent
    simp only [answerCold]
    split
    · rename_i there
      exact spared_trash spared stands isLive there
    · exact spared
  | markPurged =>
    have ⟨archiveUri, stands⟩ := permitted
    exact spared_purge spared stands isLive
  | fetchInstance | resolveHostEnv _ | findDestination | bootClone _ | selectRestoring
    | probeHealth | selectOrphan | discoverClones | applyRouting | selectMarkable | selectDue =>
      exact spared
  | lockArchiving | archiveScript _ | fetchManifest _ | markColdArchived _ _ | destroyMachine _
    | revertToPaused _ | recoverArchiving => cases isIn

end

end Spared

end Hivra.Instances
