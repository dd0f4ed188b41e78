import Hivra.Instances.ColdStages

/-!
# What an archive run leaves behind

What holds of the row, of the storage box and of every run while a row is archived and restored: a
row that still has to be archived names the first machine, nobody has moved it yet, and a row that
has an archive names one that a manifest confirmed.  Every effect of a request keeps it, and so
does every reply.
-/

namespace Hivra.Instances

open Hivra.Library

structure Confirms (manifest : Manifest) (archive : Archive) : Prop where
  uri : archive.uri = manifest.archiveUri
  sha256 : archive.sha256 = manifest.archiveSha256
  sizeBytes : archive.sizeBytes = manifest.archiveSizeBytes

structure Names (row : ColdRow) (manifest : Manifest) : Prop where
  uri : row.archiveUri = some manifest.archiveUri
  sha256 : row.archiveSha256 = some manifest.archiveSha256
  sizeBytes : row.archiveSizeBytes = some manifest.archiveSizeBytes

namespace ColdRow

def isWarm (row : ColdRow) : Bool :=
  row.lifecycleState == .paused || row.lifecycleState == .archiving

def isKept (row : ColdRow) : Bool :=
  row.lifecycleState == .coldArchived || row.lifecycleState == .pendingDeletion ||
    row.lifecycleState == .restoring

def Backed (row : ColdRow) : Prop := row.archiveUri ≠ none ∨ row.lifecycleState = .active

end ColdRow

def Moved (held : ColdProgress) : Prop :=
  ∃ manifest archive, held.fetched = some manifest ∧ held.moved = some archive ∧
    Confirms manifest archive

def Clear (store : ColdStore) (destination : Destination) : Prop :=
  destination.machine = store.source → store.stands = false

def Knows (stage : ColdStage) (held : ColdProgress) (store : ColdStore) : Prop :=
  match stage with
  | .fresh => held.destroyed = false
  | .fetched row =>
    held.destroyed = false ∧
      (row.lifecycleState = .paused → row.machine = some store.source)
  | .archiving machine => held.destroyed = false ∧ machine = store.source
  | .reported machine _ => held.destroyed = false ∧ machine = store.source
  | .confirmed machine archive =>
    held.destroyed = false ∧ machine = store.source ∧
      ∃ manifest, held.fetched = some manifest ∧ Confirms manifest archive
  | .retiring machine => machine = store.source ∧ Moved held
  | .placed destination => held.destroyed = false ∧ Clear store destination
  | .seen destination row =>
    held.destroyed = false ∧ Clear store destination ∧
      (row.hasArchive = true → store.row.Backed)
  | .holding destination previous =>
    held.destroyed = false ∧ Clear store destination ∧ previous ≠ .paused ∧
      previous ≠ .archiving ∧ previous ≠ .active
  | .loaded destination previous =>
    held.destroyed = false ∧ Clear store destination ∧ previous ≠ .paused ∧
      previous ≠ .archiving ∧ previous ≠ .active
  | .chosen => False
  | .picked _ => False
  | .trashed _ => False
  | .closed => held.destroyed = true → Moved held

def ColdStage.isDone : ColdStage → Bool
  | .retiring _ => true
  | .closed => true
  | _ => false

def LateScript.Rightful (script : LateScript) (store : ColdStore) (states : Nat → ColdStage) :
    Prop :=
  match script with
  | .destroyMachine number _ =>
    (states number).isDone = true ∧ Moved (store.progress number)
  | .tearDownClone _ destination => Clear store destination

structure Kept (instanceId : String) (stood : Bool) (store : ColdStore)
    (states : Nat → ColdStage) : Prop where
  manifests : ∀ ts manifest, store.manifests (manifestPath instanceId ts) = .parsed manifest →
    manifest.archiveUri = archivePath instanceId ts
  warm : store.row.isWarm = true → store.row.machine = some store.source ∧
    store.stands = true ∧ ∀ number, (store.progress number).moved = none
  single : ∀ first second, (store.progress first).moved ≠ none →
    (store.progress second).moved ≠ none → first = second
  fetched : ∀ number manifest, (store.progress number).fetched = some manifest →
    manifest ∈ store.read
  archive : store.row.archiveUri ≠ none → ∃ manifest ∈ store.read, Names store.row manifest
  cold : store.row.isKept = true → store.row.archiveUri ≠ none
  late : ∀ script ∈ store.late, script.Rightful store states
  stands : stood = true → store.stands = true ∨ ∃ number, (store.progress number).destroyed = true
  knows : ∀ number, Knows (states number) (store.progress number) store

variable {destination : Destination}

section Kept

variable {instanceId : String} {stood : Bool} {store : ColdStore} {states : Nat → ColdStage}
variable {number : Nat} {stage : ColdStage} {held : ColdProgress}

theorem knows_destroyed (knows : Knows stage held store) (destroyed : held.destroyed = true) :
    Moved held := by
  have absurd_of : held.destroyed = false → Moved held := by
    intro undestroyed
    rw [undestroyed] at destroyed
    cases destroyed
  cases stage with
  | fresh => exact absurd_of knows
  | fetched _ | archiving _ | reported _ _ | confirmed _ _ | placed _ | seen _ _
    | holding _ _ | loaded _ _ => exact absurd_of knows.1
  | retiring _ => exact knows.2
  | chosen | picked _ | trashed _ => exact knows.elim
  | closed => exact knows destroyed

theorem moved_some (moved : Moved held) : held.moved ≠ none := by
  have ⟨_, _, _, isMoved, _⟩ := moved
  simp [isMoved]

section

variable (kept : Kept instanceId stood store states)
include kept

theorem moved_not_warm (moved : Moved (store.progress number)) : store.row.isWarm = false := by
  cases warm : store.row.isWarm with
  | false => rfl
  | true => exact absurd ((kept.warm warm).2.2 number) (moved_some moved)

omit kept in
theorem knows_frame {after : ColdStore} (knows : Knows stage held store)
    (source : after.source = store.source) (stands : after.stands = true → store.stands = true)
    (backed : store.row.Backed → after.row.Backed) : Knows stage held after := by
  have clear : ∀ {destination}, Clear store destination → Clear after destination := by
    intro destination free isSource
    rw [source] at isSource
    have gone := free isSource
    cases still : after.stands with
    | false => rfl
    | true =>
      rw [stands still] at gone
      cases gone
  cases stage with
  | fresh | closed => exact knows
  | fetched _ | archiving _ | reported _ _ | confirmed _ _ | retiring _ =>
    simp only [Knows] at knows ⊢
    rw [source]
    exact knows
  | placed destination => exact ⟨knows.1, clear knows.2⟩
  | seen destination row => exact ⟨knows.1, clear knows.2.1, fun has => backed (knows.2.2 has)⟩
  | holding destination previous => exact ⟨knows.1, clear knows.2.1, knows.2.2⟩
  | loaded destination previous => exact ⟨knows.1, clear knows.2.1, knows.2.2⟩
  | chosen | picked _ | trashed _ => exact knows.elim

omit kept in
theorem rightful_frame {script : LateScript} {after : ColdStore}
    (rightful : script.Rightful store states) (source : after.source = store.source)
    (stands : after.stands = true → store.stands = true)
    (moved : ∀ other, (states other).isDone = true → Moved (store.progress other) →
      Moved (after.progress other)) : script.Rightful after states := by
  cases script with
  | destroyMachine other machine => exact ⟨rightful.1, moved other rightful.1 rightful.2⟩
  | tearDownClone other destination =>
    intro isSource
    rw [source] at isSource
    have gone := rightful isSource
    cases still : after.stands with
    | false => rfl
    | true =>
      rw [stands still] at gone
      cases gone

theorem kept_write {row : ColdRow}
    (warm : row.isWarm = true → store.row.isWarm = true ∧ row.machine = store.row.machine)
    (names : row.archiveUri ≠ none → store.row.archiveUri ≠ none ∧
      ∀ manifest, Names store.row manifest → Names row manifest)
    (cold : row.isKept = true → row.archiveUri ≠ none)
    (backed : store.row.Backed → row.Backed) : Kept instanceId stood (store.write row) states := by
  constructor
  · exact kept.manifests
  · intro isWarm
    have ⟨wasWarm, machine⟩ := warm isWarm
    have ⟨names, rest⟩ := kept.warm wasWarm
    exact ⟨machine.trans names, rest⟩
  · exact kept.single
  · exact kept.fetched
  · intro hasArchive
    have ⟨had, same⟩ := names hasArchive
    have ⟨manifest, fetched, named⟩ := kept.archive had
    exact ⟨manifest, fetched, same manifest named⟩
  · exact cold
  · intro script there
    exact rightful_frame (kept.late script there) rfl (fun still => still) fun _ _ moved => moved
  · exact kept.stands
  · intro other
    exact knows_frame (kept.knows other) rfl (fun still => still) backed

theorem kept_write_where {found : Bool} {row : ColdRow}
    (written : found = true → Kept instanceId stood (store.write row) states) :
    Kept instanceId stood (store.writeWhere found row) states := by
  cases found with
  | true => exact written rfl
  | false => exact kept

theorem kept_note (number : Nat) (noted : ColdProgress → ColdProgress)
    (same : ∀ held, (noted held).fetched = held.fetched ∧ (noted held).moved = held.moved ∧
      (noted held).destroyed = held.destroyed) :
    Kept instanceId stood (store.note number noted) states := by
  have progress : ∀ other, ((store.note number noted).progress other).fetched =
      (store.progress other).fetched ∧ ((store.note number noted).progress other).moved =
        (store.progress other).moved ∧ ((store.note number noted).progress other).destroyed =
          (store.progress other).destroyed := by
    intro other
    by_cases own : other = number
    · subst own
      simpa [ColdStore.note] using same (store.progress other)
    · simp [ColdStore.note, own]
  have moved : ∀ other, Moved (store.progress other) →
      Moved ((store.note number noted).progress other) := by
    intro other isMoved
    have ⟨fetched, movedSame, _⟩ := progress other
    rw [Moved, fetched, movedSame]
    exact isMoved
  constructor
  · exact kept.manifests
  · intro isWarm
    have ⟨names, standing, unmoved⟩ := kept.warm isWarm
    exact ⟨names, standing, fun other => (progress other).2.1.trans (unmoved other)⟩
  · intro first second isFirst isSecond
    rw [(progress first).2.1] at isFirst
    rw [(progress second).2.1] at isSecond
    exact kept.single first second isFirst isSecond
  · intro other manifest isFetched
    rw [(progress other).1] at isFetched
    exact kept.fetched other manifest isFetched
  · exact kept.archive
  · exact kept.cold
  · intro script there
    exact rightful_frame (kept.late script there) rfl (fun still => still) fun other _ => moved other
  · intro began
    cases kept.stands began with
    | inl standing => exact .inl standing
    | inr gone =>
      have ⟨other, destroyed⟩ := gone
      exact .inr ⟨other, (progress other).2.2.trans destroyed⟩
  · intro other
    have knows := kept.knows other
    have ⟨fetched, _, destroyed⟩ := progress other
    revert knows
    cases states other <;> simp only [Knows, fetched, destroyed] <;>
      first
        | exact fun knows => knows
        | exact fun knows => ⟨knows.1, moved other knows.2⟩
        | exact fun knows isDestroyed => moved other (knows isDestroyed)

theorem kept_state (row : ColdRow) (uri : row.archiveUri = store.row.archiveUri)
    (sha256 : row.archiveSha256 = store.row.archiveSha256)
    (sizeBytes : row.archiveSizeBytes = store.row.archiveSizeBytes)
    (warm : row.isWarm = true → store.row.isWarm = true ∧ row.machine = store.row.machine)
    (cold : row.isKept = true → store.row.archiveUri ≠ none)
    (backed : store.row.lifecycleState ≠ .active) :
    Kept instanceId stood (store.write row) states := by
  apply kept_write kept warm
  · intro has
    rw [uri] at has
    refine ⟨has, ?_⟩
    intro manifest names
    exact ⟨uri.trans names.uri, sha256.trans names.sha256, sizeBytes.trans names.sizeBytes⟩
  · intro isKept
    rw [uri]
    exact cold isKept
  · intro isBacked
    cases isBacked with
    | inl has => exact .inl (by rw [uri]; exact has)
    | inr active => exact absurd active backed

theorem kept_lock (paused : store.row.lifecycleState = .paused) :
    Kept instanceId stood (store.write store.row.lockedArchiving) states := by
  apply kept_state kept store.row.lockedArchiving rfl rfl rfl
  · intro _
    exact ⟨by simp [ColdRow.isWarm, paused], rfl⟩
  · intro impossible
    cases impossible
  · simp [paused]

theorem kept_pause
    (archiving : store.row.lifecycleState = .archiving) (pausedReason : Option String) :
    Kept instanceId stood
      (store.write { store.row.recoveredPaused with pausedReason }) states := by
  apply kept_state kept { store.row.recoveredPaused with pausedReason } rfl rfl rfl
  · intro _
    exact ⟨by simp [ColdRow.isWarm, archiving], rfl⟩
  · intro impossible
    cases impossible
  · simp [archiving]

theorem kept_hold {row : ColdRow} (stands : states number = .seen destination row)
    (previous : store.row.lifecycleState = row.lifecycleState)
    (restorable : row.isRestorable = true) (hasArchive : row.hasArchive = true) :
    Kept instanceId stood (store.write store.row.lockedRestoring) states := by
  have inactive : store.row.lifecycleState ≠ .active := by
    rw [previous]
    intro active
    simp [ColdRow.isRestorable, ColdRow.isFailedButRestorable, active] at restorable
  have knows := kept.knows number
  rw [stands] at knows
  apply kept_state kept store.row.lockedRestoring rfl rfl rfl
  · intro impossible
    cases impossible
  · intro _
    cases knows.2.2 hasArchive with
    | inl has => exact has
    | inr active => exact absurd active inactive
  · exact inactive

theorem kept_unhold {previous : LifecycleState} (restoring : store.row.lifecycleState = .restoring)
    (paused : previous ≠ .paused) (archiving : previous ≠ .archiving) :
    Kept instanceId stood (store.write (store.row.revertedTo previous)) states := by
  apply kept_state kept (store.row.revertedTo previous) rfl rfl rfl
  · intro warm
    simp [ColdRow.isWarm, ColdRow.revertedTo, paused, archiving] at warm
  · intro _
    exact kept.cold (by simp [ColdRow.isKept, restoring])
  · simp [restoring]

theorem kept_park (machine : Machine) (restoring : store.row.lifecycleState = .restoring) :
    Kept instanceId stood (store.write (store.row.parked machine)) states := by
  apply kept_state kept (store.row.parked machine) rfl rfl rfl
  · intro impossible
    cases impossible
  · intro _
    exact kept.cold (by simp [ColdRow.isKept, restoring])
  · simp [restoring]

theorem kept_restore (machine : Machine) :
    Kept instanceId stood (store.write (store.row.restored machine)) states := by
  apply kept_write kept
  · intro impossible
    cases impossible
  · intro has
    exact absurd rfl has
  · intro impossible
    cases impossible
  · intro _
    exact .inr rfl

theorem kept_fetch {machine : Machine}
    {report : ArchiveReport} (stands : states number = .reported machine report) (path : String) :
    Kept instanceId stood (store.fetch number path) states := by
  rw [ColdStore.fetch]
  split
  · rename_i manifest there
    have apart : ∀ other, (states other).isDone = true → other ≠ number := by
      intro other done own
      rw [own, stands] at done
      cases done
    have moved : ∀ other, ((store.note number fun held => held.fetches manifest).progress
        other).moved = (store.progress other).moved := by
      intro other
      by_cases own : other = number
      · simp [ColdStore.note, own, ColdProgress.fetches]
      · simp [ColdStore.note, own]
    have destroyed : ∀ other, ((store.note number fun held => held.fetches manifest).progress
        other).destroyed = (store.progress other).destroyed := by
      intro other
      by_cases own : other = number
      · simp [ColdStore.note, own, ColdProgress.fetches]
      · simp [ColdStore.note, own]
    constructor
    · exact kept.manifests
    · intro isWarm
      have ⟨names, standing, unmoved⟩ := kept.warm isWarm
      exact ⟨names, standing, fun other => (moved other).trans (unmoved other)⟩
    · intro first second isFirst isSecond
      rw [moved] at isFirst isSecond
      exact kept.single first second isFirst isSecond
    · intro other found isFetched
      change ((store.note number fun held => held.fetches manifest).progress other).fetched = _
        at isFetched
      by_cases own : other = number
      · simp only [ColdStore.note, own, if_true, ColdProgress.fetches, Option.some.injEq]
          at isFetched
        rw [← isFetched]
        exact List.mem_cons_self
      · simp only [ColdStore.note, own, if_false] at isFetched
        exact List.mem_cons_of_mem _ (kept.fetched other found isFetched)
    · intro has
      have ⟨known, fetched, named⟩ := kept.archive has
      exact ⟨known, List.mem_cons_of_mem _ fetched, named⟩
    · exact kept.cold
    · intro script late
      apply rightful_frame (kept.late script late)
      · rfl
      · exact fun still => still
      intro other done isMoved
      have unchanged : (store.note number fun held => held.fetches manifest).progress other =
          store.progress other := by
        simp [ColdStore.note, apart other done]
      change Moved ((store.note number fun held => held.fetches manifest).progress other)
      rw [unchanged]
      exact isMoved
    · intro began
      cases kept.stands began with
      | inl standing => exact .inl standing
      | inr gone =>
        have ⟨other, isDestroyed⟩ := gone
        exact .inr ⟨other, (destroyed other).trans isDestroyed⟩
    · intro other
      have knows := kept.knows other
      change Knows (states other)
        ((store.note number fun held => held.fetches manifest).progress other) _
      by_cases own : other = number
      · subst own
        rw [stands] at knows ⊢
        exact ⟨(destroyed other).trans knows.1, knows.2⟩
      · have unchanged : (store.note number fun held => held.fetches manifest).progress other =
            store.progress other := by
          simp [ColdStore.note, own]
        rw [unchanged]
        exact knows_frame knows rfl (fun still => still) fun backed => backed
  · exact kept

theorem kept_mark {machine : Machine}
    {archive : Archive} (stands : states number = .confirmed machine archive)
    (archiving : store.row.lifecycleState = .archiving) (archiveCount : Nat) :
    Kept instanceId stood ((store.note number fun held => held.moves archive).write
      (store.row.coldArchived archive archiveCount)) states := by
  have own := kept.knows number
  rw [stands] at own
  have ⟨undestroyed, isSource, manifest, isFetched, confirms⟩ := own
  have ⟨_, _, unmoved⟩ := kept.warm (by simp [ColdRow.isWarm, archiving])
  have apart : ∀ other, other ≠ number →
      (store.note number fun held => held.moves archive).progress other = store.progress other := by
    intro other isOther
    simp [ColdStore.note, isOther]
  have self : (store.note number fun held => held.moves archive).progress number =
      (store.progress number).moves archive := by
    simp [ColdStore.note]
  constructor
  · exact kept.manifests
  · intro impossible
    cases impossible
  · intro first second isFirst isSecond
    have owner : ∀ other, ((store.note number fun held => held.moves archive).progress
        other).moved ≠ none → other = number := by
      intro other isMoved
      by_contra isOther
      rw [apart other isOther] at isMoved
      exact isMoved (unmoved other)
    exact (owner first isFirst).trans (owner second isSecond).symm
  · intro other found wasFetched
    change ((store.note number fun held => held.moves archive).progress other).fetched = _
      at wasFetched
    by_cases isOwn : other = number
    · rw [isOwn, self] at wasFetched
      exact kept.fetched number found wasFetched
    · rw [apart other isOwn] at wasFetched
      exact kept.fetched other found wasFetched
  · intro _
    refine ⟨manifest, kept.fetched number manifest isFetched, ?_⟩
    exact ⟨congrArg some confirms.uri, congrArg some confirms.sha256,
      congrArg some confirms.sizeBytes⟩
  · intro _ impossible
    cases impossible
  · intro script late
    apply rightful_frame (kept.late script late)
    · rfl
    · exact fun still => still
    intro other _ isMoved
    exact absurd (unmoved other) (moved_some isMoved)
  · intro began
    cases kept.stands began with
    | inl standing => exact .inl standing
    | inr gone =>
      have ⟨other, destroyed⟩ := gone
      exact absurd (unmoved other) (moved_some (knows_destroyed (kept.knows other) destroyed))
  · intro other
    change Knows (states other) ((store.note number fun held => held.moves archive).progress other) _
    by_cases isOwn : other = number
    · rw [isOwn, stands, self]
      exact ⟨undestroyed, isSource, manifest, isFetched, confirms⟩
    · rw [apart other isOwn]
      apply knows_frame (kept.knows other)
      · rfl
      · exact fun still => still
      · intro _
        left
        exact Option.some_ne_none archive.uri

theorem kept_destroy (done : (states number).isDone = true) (moved : Moved (store.progress number))
    (machine : Machine) : Kept instanceId stood (store.destroy number machine) states := by
  rw [ColdStore.destroy]
  split
  · have cool := moved_not_warm kept moved
    have apart : ∀ other, other ≠ number →
        (store.note number ColdProgress.destroys).progress other = store.progress other := by
      intro other isOther
      simp [ColdStore.note, isOther]
    have self : (store.note number ColdProgress.destroys).progress number =
        (store.progress number).destroys := by
      simp [ColdStore.note]
    have movedSame : ∀ other, ((store.note number ColdProgress.destroys).progress other).moved =
        (store.progress other).moved := by
      intro other
      by_cases own : other = number
      · rw [own, self]
        rfl
      · rw [apart other own]
    constructor
    · exact kept.manifests
    · intro warm
      change store.row.isWarm = true at warm
      rw [cool] at warm
      cases warm
    · intro first second isFirst isSecond
      rw [movedSame] at isFirst isSecond
      exact kept.single first second isFirst isSecond
    · intro other manifest isFetched
      change ((store.note number ColdProgress.destroys).progress other).fetched = _ at isFetched
      by_cases own : other = number
      · rw [own, self] at isFetched
        exact kept.fetched number manifest isFetched
      · rw [apart other own] at isFetched
        exact kept.fetched other manifest isFetched
    · exact kept.archive
    · exact kept.cold
    · intro script late
      apply rightful_frame (kept.late script late)
      · rfl
      · intro impossible
        cases impossible
      · intro other _ isMoved
        change Moved ((store.note number ColdProgress.destroys).progress other)
        by_cases own : other = number
        · rw [own, self]
          exact moved
        · rw [apart other own]
          exact isMoved
    · intro _
      right
      refine ⟨number, ?_⟩
      change ((store.note number ColdProgress.destroys).progress number).destroyed = true
      rw [self]
      rfl
    · intro other
      have knows := kept.knows other
      change Knows (states other) ((store.note number ColdProgress.destroys).progress other) _
      by_cases own : other = number
      · rw [own] at knows ⊢
        rw [self]
        cases stage : states number with
        | retiring machine =>
          rw [stage] at knows
          exact ⟨knows.1, moved⟩
        | closed =>
          intro _
          exact moved
        | fresh | fetched _ | archiving _ | reported _ _ | confirmed _ _ | placed _ | seen _ _
          | holding _ _ | loaded _ _ | chosen | picked _ | trashed _ =>
            rw [stage] at done
            cases done
      · rw [apart other own]
        apply knows_frame knows
        · rfl
        · intro impossible
          cases impossible
        · exact fun backed => backed
  · exact kept

omit kept in
theorem clear_destroy (clear : Clear store destination) (number : Nat) :
    store.destroy number destination.machine = store := by
  rw [ColdStore.destroy]
  split
  · rename_i there
    rw [clear there.1] at there
    cases there.2
  · rfl

theorem kept_late {script : LateScript} (rightful : script.Rightful store states) :
    Kept instanceId stood { store with late := script :: store.late } states := by
  constructor
  · exact kept.manifests
  · exact kept.warm
  · exact kept.single
  · exact kept.fetched
  · exact kept.archive
  · exact kept.cold
  · intro other there
    cases there with
    | head => exact rightful
    | tail _ there => exact kept.late other there
  · exact kept.stands
  · exact kept.knows

omit kept in
theorem hold_clear {previous : LifecycleState} (knows : Knows stage held store)
    (holds : stage.hold = some (destination, previous)) :
    Clear store destination ∧ previous ≠ .paused ∧ previous ≠ .archiving := by
  cases stage with
  | holding _ _ | loaded _ _ =>
    cases holds
    exact ⟨knows.2.1, knows.2.2.1, knows.2.2.2.1⟩
  | _ => cases holds

theorem kept_restoring (number : Nat) :
    Kept instanceId stood (store.note number ColdProgress.restores) states :=
  kept_note kept number ColdProgress.restores fun _ => ⟨rfl, rfl, rfl⟩

theorem answer_kept {call : ColdCall}
    (isIn : call.isIn .archiving) (permitted : call.permitted instanceId (states number))
    (turn : ColdTurn) : Kept instanceId stood (answerCold number call turn store).1 states := by
  cases call with
  | lockArchiving =>
    apply kept_write_where kept
    intro found
    simp only [Bool.and_eq_true, beq_iff_eq] at found
    exact kept_lock kept found.1
  | fetchManifest path =>
    have ⟨machine, report, stands, _⟩ := permitted
    exact kept_fetch kept stands path
  | markColdArchived archive archiveCount =>
    have ⟨machine, stands⟩ := permitted
    simp only [answerCold]
    split
    · rename_i archiving
      exact kept_mark kept stands archiving archiveCount
    · exact kept
  | destroyMachine machine =>
    have stands : states number = .retiring machine := permitted
    have knows := kept.knows number
    rw [stands] at knows
    exact kept_destroy kept (by rw [stands]; rfl) knows.2 machine
  | revertToPaused pausedReason =>
    apply kept_write_where kept
    intro found
    exact kept_pause kept (eq_of_beq found) (some pausedReason)
  | recoverArchiving =>
    apply kept_write_where kept
    intro found
    simp only [Bool.and_eq_true, beq_iff_eq] at found
    exact kept_pause kept found.1.1 store.row.pausedReason
  | lockRestoring previous =>
    have ⟨destination, row, stands, isPrevious, restorable, hasArchive⟩ := permitted
    apply kept_write_where kept
    intro found
    simp only [Bool.and_eq_true, beq_iff_eq] at found
    exact kept_hold kept stands (found.1.trans isPrevious.symm) restorable hasArchive
  | readArchive archiveUri archiveSha256 =>
    simp only [answerCold]
    split
    · exact kept_note kept number (fun held => held.reads _) fun _ => ⟨rfl, rfl, rfl⟩
    · exact kept
  | tearDownClone destination =>
    have ⟨previous, holds⟩ := permitted
    simp only [answerCold]
    rw [clear_destroy (hold_clear (kept.knows number) holds).1]
    exact kept
  | markActive machine =>
    simp only [answerCold]
    split
    · exact kept_restore (kept_restoring kept number) machine
    · exact kept
  | parkHealthPending machine =>
    simp only [answerCold]
    split
    · rename_i restoring
      exact kept_park (kept_restoring kept number) machine restoring
    · exact kept
  | revertRestoring previous =>
    have ⟨destination, holds⟩ := permitted
    have ⟨_, paused, archiving⟩ := hold_clear (kept.knows number) holds
    apply kept_write_where kept
    intro found
    exact kept_unhold kept (eq_of_beq found) paused archiving
  | fetchInstance | resolveHostEnv _ | archiveScript _ | findDestination | bootClone _ =>
    exact kept
  | selectRestoring | probeHealth | promoteRestored | selectOrphan | discoverClones | resetToCold
    | adoptKeeper _ | applyRouting | selectMarkable | markPending | selectDue | moveArchive _
    | markPurged => cases isIn

end

end Kept

end Hivra.Instances
