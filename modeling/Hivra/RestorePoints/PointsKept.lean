import Hivra.RestorePoints.PointSteps

/-!
# Restore points belong to the running operation

A point is being made, or rolled back to, only by the operation the computer runs, and
what has been made stays as it was made.  A deletion that was asked for stands, as long as
no failed snapshot is recorded in the meantime: that puts the observed power state in the
place of the intent.
-/

namespace Hivra.RestorePoints

open Hivra.Library
open Hivra.AgentNetwork (Uuid Raised refuse_if_ok bind_ok)
open Hivra.AgentAuthority (AgentStatus DesiredState Connection DeploymentTarget Moment
  noAmbientAuthority)

def RestorePoint.Busy (point : RestorePoint) : Prop :=
  point.status = .creating ∨ point.status = .restoring

def RestorePoint.operationKey (point : RestorePoint) : Option (Uuid × OperationKind) :=
  match point.status with
  | .creating => some (point.createOperationId, .snapshot)
  | .restoring => point.restoreOperationId.map fun id => (id, .restore)
  | _ => none

structure PointsKept (store : PointStore) : Prop where
  paired : store.computer.desiredState ≠ .deleted → ∀ point ∈ store.points, point.Busy →
    ∃ operation, store.computer.operation = some operation ∧
      point.operationKey = some operation.key
  alone : store.computer.desiredState ≠ .deleted → ∀ point ∈ store.points,
    ∀ other ∈ store.points, point.Busy → other.Busy → point = other
  limit : store.undeleted ≤ 5
  read : store.superseded ≠ [] → store.computer.desiredState = .deleted

section Step

variable {store next : PointStore}

theorem none_busy (kept : PointsKept store) (wanted : store.computer.desiredState ≠ .deleted)
    (free : store.computer.operation = none) : ∀ point ∈ store.points, ¬point.Busy := by
  intro point there busy
  have ⟨operation, held, _⟩ := kept.paired wanted point there busy
  rw [free] at held
  cases held

theorem idle_point {point : RestorePoint} (idle : point.status = .ready ∨ point.status = .failed) :
    ¬point.Busy := by
  intro busy
  cases idle with
  | inl isReady => simp [RestorePoint.Busy, isReady] at busy
  | inr isFailed => simp [RestorePoint.Busy, isFailed] at busy

theorem key_some {computer : Computer} {key : Uuid × OperationKind}
    (isKey : computer.operation.map Operation.key = some key) :
    ∃ operation, computer.operation = some operation ∧ operation.key = key :=
  Option.map_eq_some_iff.mp isKey

theorem undeleted_same (points : next.points = store.points) :
    next.undeleted = store.undeleted := by
  unfold PointStore.undeleted
  rw [points]

theorem kept_idle (idle : ∀ point ∈ next.points, ¬point.Busy) (limit : next.undeleted ≤ 5)
    (read : next.superseded ≠ [] → next.computer.desiredState = .deleted) : PointsKept next := by
  constructor
  · intro _ point there busy
    exact absurd busy (idle point there)
  · intro _ point there _ _ busy
    exact absurd busy (idle point there)
  · exact limit
  · exact read

theorem kept_pending (pending : next.computer.desiredState = .deleted)
    (limit : next.undeleted ≤ 5) : PointsKept next := by
  constructor
  · intro wanted
    exact absurd pending wanted
  · intro wanted
    exact absurd pending wanted
  · exact limit
  · intro _
    exact pending

theorem kept_one {point : RestorePoint} (others : ∀ other ∈ next.points, other.Busy → other = point)
    (operation : ∃ operation, next.computer.operation = some operation ∧
      point.operationKey = some operation.key)
    (limit : next.undeleted ≤ 5)
    (read : next.superseded ≠ [] → next.computer.desiredState = .deleted) : PointsKept next := by
  constructor
  · intro _ other there busy
    rw [others other there busy]
    exact operation
  · intro _ left leftThere right rightThere leftBusy rightBusy
    rw [others left leftThere leftBusy, others right rightThere rightBusy]
  · exact limit
  · exact read

theorem change_keeps (kept : PointsKept store) (change : PointChange store next) :
    PointsKept next := by
  cases change with
  | kept desired status operation points superseded =>
    constructor
    · intro wanted point there busy
      rw [desired] at wanted
      rw [points] at there
      have ⟨held, isHeld, key⟩ := kept.paired wanted point there busy
      rw [isHeld] at operation
      have ⟨current, isCurrent, same⟩ := key_some operation
      exact ⟨current, isCurrent, by rw [key, same]⟩
    · rw [desired, points]
      exact kept.alone
    · rw [undeleted_same points]
      exact kept.limit
    · rw [desired, superseded]
      exact kept.read
  | swept pending computer points =>
    apply kept_pending
    · rw [computer]
      exact pending
    · rw [undeleted_same points]
      exact kept.limit
  | claimed kind operationId takes points superseded =>
    apply kept_idle
    · rw [points]
      exact none_busy kept takes.wanted takes.free
    · rw [undeleted_same points]
      exact kept.limit
    · rw [superseded]
      intro read
      exact absurd (kept.read read) takes.wanted
  | snapshotBegun point takes status room points superseded =>
    apply kept_one
    · intro other there busy
      cases (Table.mem_insert points).mp there with
      | inl old => exact absurd busy (none_busy kept takes.wanted takes.free other old)
      | inr new => exact new
    · have ⟨operation, held, key⟩ := key_some takes.operation
      exact ⟨operation, held, by simp [RestorePoint.operationKey, status, key]⟩
    · unfold PointStore.undeleted at room ⊢
      rw [Table.insert_rows points, List.filter_append, List.length_append]
      have single := List.length_filter_le (fun row : RestorePoint => row.status != .deleted)
        [point]
      simp only [List.length_singleton] at single
      omega
    · rw [superseded]
      intro read
      exact absurd (kept.read read) takes.wanted
  | restoreBegun operationId old new takes set follows restoring restoreId superseded =>
    apply kept_one
    · intro other there busy
      cases (set.members other).mp there with
      | inl unchanged =>
        exact absurd busy (none_busy kept takes.wanted takes.free other unchanged.1)
      | inr isNew => exact isNew
    · have ⟨operation, held, key⟩ := key_some takes.operation
      exact ⟨operation, held, by simp [RestorePoint.operationKey, restoring, restoreId, key]⟩
    · rw [set.undeleted]
      exact kept.limit
    · rw [superseded]
      intro read
      exact absurd (kept.read read) takes.wanted
  | ended operationId old new ends wanted set point superseded =>
    apply kept_idle
    · intro other there busy
      cases (set.members other).mp there with
      | inl unchanged =>
        have oldBusy : old.Busy := by
          cases point.busy with
          | inl created => exact .inl (created_status created).2
          | inr restored => exact .inr (restored_status restored).2
        have same := kept.alone wanted other unchanged.1 old set.there busy oldBusy
        exact unchanged.2 (by rw [same])
      | inr isNew =>
        rw [isNew] at busy
        exact idle_point point.idle busy
    · rw [set.undeleted]
      exact kept.limit
    · rw [superseded]
      intro read
      exact absurd (kept.read read) wanted
  | requested desired status points superseded =>
    apply kept_pending desired
    rw [undeleted_same points]
    exact kept.limit
  | released read desired status points superseded =>
    apply kept_pending
    · rw [desired]
      exact kept.read read
    · rw [undeleted_same points]
      exact kept.limit
  | erased pending desired status points superseded =>
    apply kept_pending desired
    have gone : next.undeleted = 0 := by
      unfold PointStore.undeleted
      rw [points, List.length_eq_zero_iff, List.filter_eq_nil_iff]
      intro point there
      have ⟨row, _, isPoint⟩ := List.mem_map.mp there
      rw [← isPoint]
      split
      · simp
      · assumption
    omega

def PointStore.Deleting (store : PointStore) : Prop :=
  store.computer.desiredState = .deleted ∨ store.computer.status = .deleted

theorem change_deleting (deleting : store.Deleting) (change : PointChange store next) :
    next.Deleting := by
  unfold PointStore.Deleting at deleting ⊢
  cases change with
  | kept desired status operation points superseded => rwa [desired, status]
  | swept pending computer points => rwa [computer]
  | claimed kind operationId takes points superseded =>
    exact absurd deleting (not_or.mpr ⟨takes.wanted, takes.alive⟩)
  | snapshotBegun point takes status room points superseded =>
    exact absurd deleting (not_or.mpr ⟨takes.wanted, takes.alive⟩)
  | restoreBegun operationId old new takes set follows restoring restoreId superseded =>
    exact absurd deleting (not_or.mpr ⟨takes.wanted, takes.alive⟩)
  | ended operationId old new ends wanted set point superseded =>
    exact absurd deleting (not_or.mpr ⟨wanted, ends.alive⟩)
  | requested desired status points superseded => exact .inl desired
  | released read desired status points superseded => rwa [desired, status]
  | erased pending desired status points superseded => exact .inl desired

theorem point_follows_refl (point : RestorePoint) : PointFollows point point :=
  ⟨rfl, rfl, fun made => ⟨made, rfl⟩⟩

theorem point_follows_trans (first second third : RestorePoint) (early : PointFollows first second)
    (late : PointFollows second third) : PointFollows first third := by
  constructor
  · exact late.id.trans early.id
  · exact late.source.trans early.source
  · intro made
    have ⟨stillMade, hash⟩ := early.made made
    have ⟨lastMade, lastHash⟩ := late.made stillMade
    exact ⟨lastMade, lastHash.trans hash⟩

theorem set_followed {old new : RestorePoint} (set : PointSet store next old new)
    (follows : PointFollows old new) : Followed PointFollows store.points next.points := by
  intro point there
  by_cases same : point.id = old.id
  · have isOld := same_point there set.there same
    rw [isOld]
    exact ⟨new, (set.members new).mpr (.inr rfl), follows⟩
  · exact ⟨point, (set.members point).mpr (.inl ⟨there, same⟩), point_follows_refl point⟩

theorem change_followed (change : PointChange store next) :
    Followed PointFollows store.points next.points := by
  have same (points : next.points = store.points) :
      Followed PointFollows store.points next.points := by
    rw [points]
    exact followed_refl point_follows_refl store.points
  cases change with
  | kept desired status operation points superseded => exact same points
  | swept pending computer points => exact same points
  | claimed kind operationId takes points superseded => exact same points
  | snapshotBegun point takes status room points superseded =>
    exact followed_insert point_follows_refl points
  | restoreBegun operationId old new takes set follows restoring restoreId superseded =>
    exact set_followed set follows
  | ended operationId old new ends wanted set point superseded =>
    exact set_followed set point.follows
  | requested desired status points superseded => exact same points
  | released read desired status points superseded => exact same points
  | erased pending desired status points superseded =>
    apply followed_map points
    intro point there
    split
    · exact ⟨rfl, rfl, fun _ => ⟨by simp, rfl⟩⟩
    · exact point_follows_refl point

end Step

theorem restore_resources {userId : String} {operationId pointId : Uuid} {hash : String}
    {moment : Moment} {store next : PointStore}
    (returned : completeHivraAgentSnapshotRestore userId operationId pointId hash moment store =
      .ok (true, next)) :
    ∃ point ∈ store.points, point.id = pointId ∧ next.computer.cpu = point.source.cpu ∧
      next.computer.ram = point.source.ram := by
  obtain ⟨_, _, rest⟩ := bind_ok returned
  cases found : store.point? pointId with
  | none =>
    rw [found] at rest
    cases rest
  | some point =>
    rw [found] at rest
    simp only at rest
    split at rest
    · cases rest
    · obtain ⟨⟨completed, ran⟩, completes, rest⟩ := bind_ok rest
      cases complete_operation_ok completes with
      | inl same =>
        rw [same.1] at rest
        cases rest
      | inr same =>
        obtain ⟨isCompleted, _, computer, isRan, completion⟩ := same
        rw [isCompleted, isRan] at rest
        obtain ⟨last, ended, rest⟩ := bind_ok rest
        cases rest
        obtain ⟨_, _, _, isNext⟩ := end_point_ok ended
        obtain ⟨there, isId⟩ := point_there found
        refine ⟨point, there, isId, ?_, ?_⟩
        · rw [isNext]
          exact completion.cpu
        · rw [isNext]
          exact completion.ram

section Runs

variable {start : PointStore} {history : List PointEvent}

theorem after_kept (kept : PointsKept start)
    (spares : Meets PointStore.step SparesDelete start history) :
    PointsKept (start.after history) :=
  meets_keeps spares kept fun store event spare kept =>
    change_keeps kept (step_change store event spare)

theorem after_deleting (deleting : start.Deleting)
    (spares : Meets PointStore.step SparesDelete start history) : (start.after history).Deleting :=
  meets_keeps spares deleting fun store event spare deleting =>
    change_deleting deleting (step_change store event spare)

theorem after_followed (spares : Meets PointStore.step SparesDelete start history) :
    Followed PointFollows start.points (start.after history).points :=
  @meets_keeps _ _ PointStore.step SparesDelete
    (fun store => Followed PointFollows start.points store.points) start history spares
    (followed_refl point_follows_refl start.points)
    fun store event spare followed =>
      followed_trans point_follows_trans followed (change_followed (step_change store event spare))

theorem of_kept (computer : Computer) (connections : Table Connection.entries)
    (targets : Table DeploymentTarget.entries) : PointsKept (.of computer connections targets) := by
  apply kept_idle
  · intro point there
    exact absurd there (Table.not_mem_empty point)
  · exact Nat.zero_le 5
  · intro read
    exact absurd rfl read

/-- In every run in which no failed snapshot is recorded while a deletion is pending: a
point is busy only with the operation the computer runs, and one at most is; no more than
five are kept; an answered delete request stands; a ready point stays what it was made of;
and a completed restore sets the resources its point recorded. -/
theorem restore_points_kept (computer : Computer) (connections : Table Connection.entries)
    (targets : Table DeploymentTarget.entries) (history : List PointEvent)
    (spares : Meets PointStore.step SparesDelete (.of computer connections targets) history) :
    (((PointStore.of computer connections targets).after history).computer.desiredState ≠ .deleted →
      (∀ point ∈ ((PointStore.of computer connections targets).after history).points,
        point.Busy → ∃ operation,
          ((PointStore.of computer connections targets).after history).computer.operation =
            some operation ∧ point.operationKey = some operation.key) ∧
      ∀ point ∈ ((PointStore.of computer connections targets).after history).points,
        ∀ other ∈ ((PointStore.of computer connections targets).after history).points,
          point.Busy → other.Busy → point = other) ∧
    ((PointStore.of computer connections targets).after history).undeleted ≤ 5 ∧
    (∀ early late userId moment operationId answer next,
      history = early ++ .requestDelete userId moment operationId :: late →
      requestHivraAgentDelete userId operationId moment
        ((PointStore.of computer connections targets).after early) = .ok (answer, next) →
      answer ≠ .notFound → ((PointStore.of computer connections targets).after history).Deleting) ∧
    (∀ early late, history = early ++ late →
      ∀ point ∈ ((PointStore.of computer connections targets).after early).points,
        point.status = .ready →
        ∃ later ∈ ((PointStore.of computer connections targets).after history).points,
          later.id = point.id ∧ later.source = point.source ∧
            later.snapshotConfigSha256 = point.snapshotConfigSha256) ∧
    (∀ userId operationId pointId hash moment next,
      completeHivraAgentSnapshotRestore userId operationId pointId hash moment
        ((PointStore.of computer connections targets).after history) = .ok (true, next) →
      ∃ point ∈ ((PointStore.of computer connections targets).after history).points,
        point.id = pointId ∧ next.computer.cpu = point.source.cpu ∧
          next.computer.ram = point.source.ram) := by
  have kept := after_kept (of_kept computer connections targets) spares
  refine ⟨fun wanted => ⟨kept.paired wanted, kept.alone wanted⟩, kept.limit, ?_, ?_, ?_⟩
  · intro early late userId moment operationId answer next split requested answered
    rw [split] at spares ⊢
    obtain ⟨_, spared⟩ := meets_append spares
    have reached : ((PointStore.of computer connections targets).after early).step
        (.requestDelete userId moment operationId) = next := by
      simp only [PointStore.step, requested, settle]
    have deleting := (request_delete_change requested).2 answered
    unfold PointStore.after
    rw [fold_split rfl]
    unfold PointStore.after at reached
    rw [reached]
    apply after_deleting deleting
    have later := spared.2
    rw [reached] at later
    exact later
  · intro early late split point there ready
    rw [split] at spares ⊢
    obtain ⟨later, laterThere, follows⟩ := after_followed (meets_append spares).2 point there
    refine ⟨later, ?_, follows.id, follows.source, (follows.made (by simp [ready])).2⟩
    unfold PointStore.after
    rw [List.foldl_append]
    exact laterThere
  · intro userId operationId pointId hash moment next returned
    exact restore_resources returned

end Runs

def firstId : Uuid := ⟨"55555555-5555-4555-8555-555555555555", by decide +kernel⟩

def secondId : Uuid := ⟨"44444444-4444-4444-8444-444444444444", by decide +kernel⟩

def runningComputer : Computer :=
  { userId := "user"
    status := .running
    desiredState := .running
    deploymentMode := .hivraManaged
    substrate := some .proxmoxKvm
    proxmoxHost := "host"
    vmid := some 100
    cpu := 2
    ram := 4096
    error := none
    operation := none
    binding := none
    infrastructureBindingTokenEnforced := true
    infrastructureBindingTokenHash :=
      some "0000000000000000000000000000000000000000000000000000000000000000" }

def noon : Moment := { now := 0, newId := secondId }

def snapshotThenDelete : List PointEvent :=
  [.call "user" noon
      (.beginSnapshot (some firstId) firstId "hivra_55555555555545558555555555555555"),
    .requestDelete "user" noon (some secondId)]

def snapshotFails : PointEvent :=
  .call "user" noon (.failSnapshot firstId firstId .running none)

/-- The request has answered, the snapshot is recorded as failed, and the computer is
wanted running again. -/
theorem failed_snapshot_cancels_delete :
    (∃ next, requestHivraAgentDelete "user" (some secondId) noon
      ((PointStore.of runningComputer .empty .empty).after (snapshotThenDelete.take 1)) =
        .ok (.pending, next)) ∧
    ((PointStore.of runningComputer .empty .empty).after snapshotThenDelete).computer.desiredState =
      .deleted ∧
    ((PointStore.of runningComputer .empty .empty).after
      (snapshotThenDelete ++ [snapshotFails])).computer.desiredState = .running ∧
    ((PointStore.of runningComputer .empty .empty).after
      (snapshotThenDelete ++ [snapshotFails])).computer.status = .running := by
  refine ⟨⟨_, rfl⟩, ?_, ?_, ?_⟩ <;> decide +kernel

theorem restore_points_kept_running :
    ((PointStore.of runningComputer .empty .empty).after snapshotThenDelete).Deleting :=
  (restore_points_kept runningComputer .empty .empty snapshotThenDelete
    ⟨trivial, trivial, trivial⟩).2.2.1 [_] [] "user" noon (some secondId) .pending _ rfl rfl
    (by simp)

end Hivra.RestorePoints
