import Hivra.RestorePoints.PointFunctions
import Hivra.Library.FollowedRows

/-!
# Runs of one computer

Any order of calls, of the recovery sweep's reads and releases, and of changes to the
connections and targets.  What a step can do to the computer and its points is said once,
in `PointChange`.
-/

namespace Hivra.RestorePoints

open Hivra.Library
open Hivra.AgentNetwork (Uuid Raised raise refuseIf refuse_if_ok raise_ne_ok bind_ok
  or_unique_violation_ok)
open Hivra.AgentAuthority (AgentStatus DesiredState Connection DeploymentTarget Moment)

inductive PointCall
  | beginSnapshot (operationId : Option Uuid) (pointId : Uuid) (providerSnapshotId : String)
  | completeSnapshot (operationId pointId : Uuid) (providerStatus : AgentStatus)
      (snapshotConfigSha256 : String)
  | failSnapshot (operationId pointId : Uuid) (providerStatus : AgentStatus)
      (error : Option String)
  | beginRestore (operationId : Option Uuid) (pointId : Uuid)
  | completeRestore (operationId pointId : Uuid) (snapshotConfigSha256 : String)
  | failRestore (operationId pointId : Uuid) (providerStatus : AgentStatus)
      (error : Option String)
  | claim (operationId : Option Uuid) (kind : OperationKind) (desiredState : DesiredState)
      (payload : Option Json)
  | claimRecovery (operationId : Uuid) (expectedOperationStartedAt recoveredAt : Option Int)
  | completeDelete (operationId : Uuid)

def PointCall.run (call : PointCall) (userId : String) (moment : Moment) (store : PointStore) :
    Except Raised (Bool × PointStore) :=
  match call with
  | .beginSnapshot operationId pointId providerSnapshotId =>
    beginHivraAgentSnapshot userId operationId pointId providerSnapshotId moment store
  | .completeSnapshot operationId pointId providerStatus hash =>
    completeHivraAgentSnapshot userId operationId pointId providerStatus hash moment store
  | .failSnapshot operationId pointId providerStatus error =>
    failHivraAgentSnapshot userId operationId pointId providerStatus error moment store
  | .beginRestore operationId pointId =>
    beginHivraAgentSnapshotRestore userId operationId pointId moment store
  | .completeRestore operationId pointId hash =>
    completeHivraAgentSnapshotRestore userId operationId pointId hash moment store
  | .failRestore operationId pointId providerStatus error =>
    failHivraAgentSnapshotRestore userId operationId pointId providerStatus error moment store
  | .claim operationId kind desiredState payload =>
    claimHivraAgentOperation userId operationId kind desiredState payload moment store
  | .claimRecovery operationId expected recoveredAt =>
    claimHivraAgentOperationRecovery userId operationId expected recoveredAt moment store
  | .completeDelete operationId => completeHivraAgentDelete userId operationId moment store

inductive PointEvent
  | call (userId : String) (moment : Moment) (call : PointCall)
  | requestDelete (userId : String) (moment : Moment) (operationId : Option Uuid)
  /-- The sweep reads the computer's row. -/
  | sweepReads
  /-- The sweep releases an operation it has read as superseded. -/
  | sweepReleases (moment : Moment) (operationId : Uuid)
  | outside (connections : Table Connection.entries) (targets : Table DeploymentTarget.entries)

def Computer.superseded? (computer : Computer) : Option Uuid :=
  if computer.desiredState = .deleted then
    (computer.operation.filter fun operation =>
      operation.kind == .snapshot || operation.kind == .restore).map Operation.id
  else none

def settle {Answer : Type} (store : PointStore) : Except Raised (Answer × PointStore) → PointStore
  | .ok (_, next) => next
  | .error _ => store

def PointStore.step (store : PointStore) : PointEvent → PointStore
  | .call userId moment call => settle store (call.run userId moment store)
  | .requestDelete userId moment operationId =>
    settle store (requestHivraAgentDelete userId operationId moment store)
  | .sweepReads =>
    { store with superseded := store.superseded ++ store.computer.superseded?.toList }
  | .sweepReleases moment operationId =>
    if store.superseded.contains operationId then
      settle store
        (releaseHivraAgentOperation store.computer.userId operationId
          (some "Lifecycle operation was superseded by delete.") false moment store)
    else store
  | .outside connections targets => { store with connections, targets }

def PointStore.after (store : PointStore) (history : List PointEvent) : PointStore :=
  history.foldl PointStore.step store

def Operation.key (operation : Operation) : Uuid × OperationKind :=
  (operation.id, operation.kind)

structure Takes (kind : OperationKind) (operationId : Uuid) (old new : Computer) : Prop where
  free : old.operation = none
  alive : old.status ≠ .deleted
  wanted : old.desiredState ≠ .deleted
  status : new.status = old.status
  desired : new.desiredState ≠ .deleted
  operation : new.operation.map Operation.key = some (operationId, kind)

structure Ends (operationId : Uuid) (old new : Computer) : Prop where
  held : ∃ kind, old.operation.map Operation.key = some (operationId, kind)
  alive : old.status ≠ .deleted
  operation : new.operation = none
  desired : new.desiredState ≠ .deleted
  status : new.status ≠ .deleted

structure PointSet (store next : PointStore) (old new : RestorePoint) : Prop where
  there : old ∈ store.points
  members : ∀ point, point ∈ next.points ↔ point ∈ store.points ∧ point.id ≠ old.id ∨ point = new
  undeleted : next.undeleted = store.undeleted

structure PointFollows (old new : RestorePoint) : Prop where
  id : new.id = old.id
  source : new.source = old.source
  made : old.status ≠ .creating →
    new.status ≠ .creating ∧ new.snapshotConfigSha256 = old.snapshotConfigSha256

structure PointEnds (operationId : Uuid) (old new : RestorePoint) : Prop where
  follows : PointFollows old new
  busy : old.createdBy operationId = true ∨ old.restoredBy operationId = true
  idle : new.status = .ready ∨ new.status = .failed

inductive PointChange (store next : PointStore) : Prop
  | kept (desired : next.computer.desiredState = store.computer.desiredState)
      (status : next.computer.status = store.computer.status)
      (operation : next.computer.operation.map Operation.key =
        store.computer.operation.map Operation.key)
      (points : next.points = store.points) (superseded : next.superseded = store.superseded)
  | swept (pending : store.computer.desiredState = .deleted)
      (computer : next.computer = store.computer) (points : next.points = store.points)
  | claimed (kind : OperationKind) (operationId : Uuid)
      (takes : Takes kind operationId store.computer next.computer)
      (points : next.points = store.points) (superseded : next.superseded = store.superseded)
  | snapshotBegun (point : RestorePoint)
      (takes : Takes .snapshot point.createOperationId store.computer next.computer)
      (status : point.status = .creating) (room : store.undeleted < 5)
      (points : store.points.insert point = some next.points)
      (superseded : next.superseded = store.superseded)
  | restoreBegun (operationId : Uuid) (old new : RestorePoint)
      (takes : Takes .restore operationId store.computer next.computer)
      (set : PointSet store next old new) (follows : PointFollows old new)
      (restoring : new.status = .restoring) (restoreId : new.restoreOperationId = some operationId)
      (superseded : next.superseded = store.superseded)
  | ended (operationId : Uuid) (old new : RestorePoint)
      (ends : Ends operationId store.computer next.computer)
      (wanted : store.computer.desiredState ≠ .deleted)
      (set : PointSet store next old new) (point : PointEnds operationId old new)
      (superseded : next.superseded = store.superseded)
  | requested (desired : next.computer.desiredState = .deleted)
      (status : next.computer.status = store.computer.status)
      (points : next.points = store.points) (superseded : next.superseded = store.superseded)
  | released (read : store.superseded ≠ [])
      (desired : next.computer.desiredState = store.computer.desiredState)
      (status : next.computer.status = store.computer.status)
      (points : next.points = store.points) (superseded : next.superseded = store.superseded)
  | erased (pending : store.computer.desiredState = .deleted)
      (desired : next.computer.desiredState = .deleted)
      (status : next.computer.status = .deleted)
      (points : next.points.rows = store.points.rows.map fun point =>
        if point.status != .deleted then
          { point with status := .deleted, restoreOperationId := none, lastError := none }
        else point)
      (superseded : next.superseded = store.superseded)

/-- A failed snapshot is not recorded while a deletion is pending: not for the computer's
snapshot operation with the point it is creating. -/
def SparesDelete (store : PointStore) : PointEvent → Prop
  | .call userId _ (.failSnapshot operationId pointId providerStatus _) =>
    ¬(store.computer.desiredState = .deleted ∧ store.computer.status ≠ .deleted ∧
      store.computer.userId = userId ∧
      (providerStatus = .running ∨ providerStatus = .stopped) ∧
      store.computer.holds operationId (fun operation => operation.kind == .snapshot) = true ∧
      (store.point? pointId).any (fun point => point.createdBy operationId) = true)
  | _ => True

section Specs

variable {store next : PointStore} {userId : String} {moment : Moment}

theorem update_computer_ok {selected : Computer → Bool} {setsStatus : Bool}
    {change : Computer → Computer} {answer : Bool}
    (returned : store.updateComputer userId moment selected setsStatus change =
      .ok (answer, next)) :
    answer = false ∧ next = store ∨
      answer = true ∧ store.computer.userId = userId ∧ selected store.computer = true ∧
        ∃ computer, next = { store with computer } ∧
          beforeUpdate setsStatus store.computer (change store.computer) moment = .ok computer := by
  unfold PointStore.updateComputer at returned
  by_cases chosen : store.computer.userId = userId ∧ selected store.computer = true
  · rw [if_pos chosen] at returned
    have ⟨computer, normalized, rest⟩ := bind_ok returned
    cases rest
    exact .inr ⟨rfl, chosen.1, chosen.2, computer, rfl, normalized⟩
  · rw [if_neg chosen] at returned
    cases returned
    exact .inl ⟨rfl, rfl⟩

variable {old new computer : Computer} {operationId pointId : Uuid} {expected : DesiredState}

theorem normalize_clears (held : old.operation.isSome = true) (clears : new.operation = none)
    (normalized : normalizeOperationCompatibility old new moment = .ok computer) :
    computer = new := by
  unfold normalizeOperationCompatibility at normalized
  have busy : old.operation.isNone = false := by
    cases operation : old.operation with
    | none => simp [operation] at held
    | some operation => rfl
  have ends : keepsOperation old.operation new.operation = false := by
    rw [clears]
    cases old.operation <;> rfl
  simp only [busy, ends, Bool.false_eq_true, false_and, and_false, if_false] at normalized
  cases normalized
  rfl

theorem holds_key {more : Operation → Bool} (holds : computer.holds operationId more = true) :
    ∃ operation, computer.operation = some operation ∧ operation.id = operationId ∧
      more operation = true := by
  unfold Computer.holds at holds
  cases held : computer.operation with
  | none => simp [held] at holds
  | some operation =>
    simp only [held, Option.any_some, Bool.and_eq_true, beq_iff_eq] at holds
    exact ⟨operation, rfl, holds⟩

structure Completed (operationId : Uuid) (expected : DesiredState) (reached : AgentStatus)
    (cpu : Option Rat) (ram : Option Int) (old new : Computer) : Prop where
  held : ∃ kind, old.operation.map Operation.key = some (operationId, kind)
  expected : old.desiredState = expected
  alive : old.status ≠ .deleted
  operation : new.operation = none
  status : new.status = reached
  desired : reached = .running ∨ reached = .stopped → new.desiredState = desiredOf reached
  cpu : new.cpu = cpu.getD old.cpu
  ram : new.ram = ram.getD old.ram

theorem complete_operation_ok {operationId : Uuid} {expected : DesiredState}
    {status : AgentStatus} {cpu : Option Rat} {ram : Option Int} {answer : Bool}
    (returned : completeHivraAgentOperation userId operationId expected status cpu ram moment store =
      .ok (answer, next)) :
    answer = false ∧ next = store ∨
      answer = true ∧ store.computer.userId = userId ∧ ∃ computer,
        next = { store with computer } ∧
        Completed operationId expected status cpu ram store.computer computer := by
  have ⟨_, _, rest⟩ := bind_ok returned
  cases update_computer_ok rest with
  | inl same => exact .inl same
  | inr updated =>
    have ⟨answered, owner, chosen, computer, isNext, normalized⟩ := updated
    simp only [Bool.and_eq_true, beq_iff_eq, bne_iff_ne] at chosen
    have ⟨⟨holds, wanted⟩, alive⟩ := chosen
    have ⟨operation, held, isId, _⟩ := holds_key holds
    have written := normalize_clears (by simp [held]) rfl normalized
    refine .inr ⟨answered, owner, computer, isNext, ?_⟩
    subst written
    constructor
    · exact ⟨operation.kind, by rw [held, ← isId]; rfl⟩
    · exact wanted
    · exact alive
    · rfl
    · rfl
    · intro sync
      cases sync with
      | inl isRunning =>
        rw [isRunning]
        rfl
      | inr isStopped =>
        rw [isStopped]
        rfl
    · rfl
    · rfl

theorem Completed.ends {status : AgentStatus} {cpu : Option Rat} {ram : Option Int}
    (completed : Completed operationId expected status cpu ram old new)
    (sync : status = .running ∨ status = .stopped) : Ends operationId old new := by
  constructor
  · exact completed.held
  · exact completed.alive
  · exact completed.operation
  · rw [completed.desired sync]
    cases sync with
    | inl isRunning => simp [isRunning, desiredOf]
    | inr isStopped => simp [isStopped, desiredOf]
  · rw [completed.status]
    cases sync with
    | inl isRunning => simp [isRunning]
    | inr isStopped => simp [isStopped]

theorem claim_ok {operationId : Option Uuid} {kind : OperationKind} {desiredState : DesiredState}
    {payload : Option Json} {answer : Bool}
    (returned : claimHivraAgentOperation userId operationId kind desiredState payload moment store =
      .ok (answer, next)) :
    answer = false ∧ next = store ∨
      answer = true ∧ ∃ claimed computer, operationId = some claimed ∧
        next = { store with computer } ∧ Takes kind claimed store.computer computer := by
  unfold claimHivraAgentOperation at returned
  cases operationId with
  | none => exact absurd returned raise_ne_ok
  | some claimed =>
    have ⟨_, allowed, rest⟩ := bind_ok returned
    have ⟨_, _, rest⟩ := bind_ok rest
    have allowed := refuse_if_ok allowed
    by_cases taken : store.computer.userId ≠ userId ∨ store.computer.status = .deleted ∨
        store.computer.desiredState = .deleted ∨ store.computer.operation.isSome = true
    · rw [if_pos taken] at rest
      cases rest
      exact .inl ⟨rfl, rfl⟩
    rw [if_neg taken] at rest
    by_cases unfit : store.computer.admits kind desiredState = false
    · rw [if_pos unfit] at rest
      cases rest
      exact .inl ⟨rfl, rfl⟩
    rw [if_neg unfit] at rest
    by_cases stale : store.computer.deploymentMode = .selfManaged ∧ store.carriesBinding = false
    · rw [if_pos stale] at rest
      cases rest
      exact .inl ⟨rfl, rfl⟩
    rw [if_neg stale] at rest
    cases update_computer_ok rest with
    | inl same => exact .inl same
    | inr updated =>
      have ⟨answered, _, _, computer, isNext, normalized⟩ := updated
      refine .inr ⟨answered, claimed, computer, rfl, isNext, ?_⟩
      cases normalized
      push Not at taken allowed
      constructor
      · exact Option.not_isSome_iff_eq_none.mp taken.2.2.2
      · exact taken.2.1
      · exact taken.2.2.1
      · rfl
      · exact allowed.2.2
      · rfl

theorem point_there {point : RestorePoint} (found : store.point? pointId = some point) :
    point ∈ store.points ∧ point.id = pointId := by
  have ⟨there, isId⟩ := Table.find_mem found
  exact ⟨there, beq_iff_eq.mp isId⟩

theorem same_point {left right : RestorePoint} (leftThere : left ∈ store.points)
    (rightThere : right ∈ store.points) (same : left.id = right.id) : left = right := by
  have entry : PointKey.id left.id ∈ right.entries := by
    rw [same]
    exact right.entries_id
  exact Table.eq_of_shared_entry leftThere rightThere left.entries_id entry

theorem set_point_ok {pointId : Uuid} {old : RestorePoint} {change : RestorePoint → RestorePoint}
    {keeps : ∀ point, (change point).entries = point.entries}
    (found : store.point? pointId = some old) (lives : old.status ≠ .deleted)
    (stays : (change old).status ≠ .deleted) :
    PointSet store (store.setPoint pointId change keeps) old (change old) := by
  obtain ⟨there, isId⟩ := point_there found
  constructor
  · exact there
  · intro point
    simp only [PointStore.setPoint, Table.mem_rewrite]
    constructor
    · intro rewritten
      obtain ⟨row, held, isPoint⟩ := rewritten
      by_cases chosen : row.id = pointId
      · have same := same_point held there (chosen.trans isId.symm)
        rw [if_pos (beq_iff_eq.mpr chosen), same] at isPoint
        exact .inr isPoint.symm
      · rw [if_neg (by simpa using chosen)] at isPoint
        rw [← isPoint, isId]
        exact .inl ⟨held, chosen⟩
    · intro isPoint
      cases isPoint with
      | inl other =>
        rw [isId] at other
        exact ⟨point, other.1, if_neg (by simpa using other.2)⟩
      | inr new => exact ⟨old, there, by rw [if_pos (beq_iff_eq.mpr isId), new]⟩
  · unfold PointStore.undeleted
    simp only [PointStore.setPoint, Table.rewrite_rows, List.filter_map, List.length_map]
    congr 1
    apply List.filter_congr
    intro row held
    by_cases chosen : row.id = pointId
    · have same := same_point held there (chosen.trans isId.symm)
      subst same
      have isDeleted : ((change row).status != .deleted) = true := by simpa using stays
      simp [chosen, isDeleted, lives]
    · simp [chosen]

theorem end_point_ok {selected : RestorePoint → Bool} {change : RestorePoint → RestorePoint}
    {keeps : ∀ point, (change point).entries = point.entries} {message : String}
    (returned : store.endPoint pointId selected change keeps message = .ok next) :
    ∃ old, store.point? pointId = some old ∧ selected old = true ∧
      next = store.setPoint pointId change keeps := by
  unfold PointStore.endPoint at returned
  cases found : store.point? pointId with
  | none =>
    rw [found] at returned
    exact absurd returned raise_ne_ok
  | some old =>
    rw [found] at returned
    have ⟨_, allowed, rest⟩ := bind_ok returned
    have chosen := refuse_if_ok allowed
    cases rest
    exact ⟨old, rfl, by simpa using chosen, rfl⟩

end Specs

end Hivra.RestorePoints
