import Hivra.RestorePoints.PointRuns

/-!
# The change each call makes

Every call that returns, and every step, is one of the changes of `PointChange`.
-/

namespace Hivra.RestorePoints

open Hivra.Library
open Hivra.AgentNetwork (Uuid Raised raise refuseIf refuse_if_ok raise_ne_ok bind_ok
  or_unique_violation_ok)
open Hivra.AgentAuthority (AgentStatus DesiredState Moment)

variable {pointId : Uuid}

section Calls

variable {store next : PointStore} {userId : String} {moment : Moment} {answer : Bool}

theorem change_same (same : next = store) : PointChange store next := by
  subst same
  exact .kept rfl rfl rfl rfl rfl

variable {operationId : Uuid}

theorem created_status {point : RestorePoint} (created : point.createdBy operationId = true) :
    point.createOperationId = operationId ∧ point.status = .creating := by
  simpa [RestorePoint.createdBy] using created

theorem restored_status {point : RestorePoint} (restored : point.restoredBy operationId = true) :
    point.restoreOperationId = some operationId ∧ point.status = .restoring := by
  simpa [RestorePoint.restoredBy] using restored

variable {status : AgentStatus}

theorem sync_status {message : String} {answer : Unit}
    (passed : refuseProviderStatus status message = .ok answer) :
    status = .running ∨ status = .stopped := by
  have allowed := refuse_if_ok passed
  push Not at allowed
  by_cases isRunning : status = .running
  · exact .inl isRunning
  · exact .inr (allowed isRunning)

/-- A completion and the end of the point that it was of. -/
theorem completion_change {expected : DesiredState}
    {cpu : Option Rat} {ram : Option Int} {completed : Bool} {ran : PointStore}
    {selected : RestorePoint → Bool} {change : RestorePoint → RestorePoint}
    {keeps : ∀ point, (change point).entries = point.entries} {message : String}
    (sync : status = .running ∨ status = .stopped)
    (completes : completeHivraAgentOperation userId operationId expected status cpu ram moment
      store = .ok (completed, ran))
    (ends : (if completed then do
        let last ← ran.endPoint pointId selected change keeps message
        .ok (true, last)
      else .ok (false, ran)) = (Except.ok (answer, next) : Except Raised (Bool × PointStore)))
    (wanted : ∀ computer old, Completed operationId expected status cpu ram store.computer computer →
      store.point? pointId = some old → selected old = true → store.computer.desiredState ≠ .deleted)
    (busy : ∀ point, selected point = true →
      point.createdBy operationId = true ∨ point.restoredBy operationId = true)
    (follows : ∀ point, selected point = true → PointFollows point (change point))
    (idle : ∀ point, (change point).status = .ready ∨ (change point).status = .failed) :
    PointChange store next := by
  cases complete_operation_ok completes with
  | inl same =>
    rw [same.1] at ends
    cases ends
    exact change_same same.2
  | inr same =>
    have ⟨isCompleted, _, computer, isRan, completion⟩ := same
    rw [isCompleted, isRan] at ends
    have ⟨last, ended, rest⟩ := bind_ok ends
    cases rest
    have ⟨old, found, chosen, isNext⟩ := end_point_ok ended
    have lives : old.status ≠ .deleted := by
      cases busy old chosen with
      | inl created => simp [(created_status created).2]
      | inr restored => simp [(restored_status restored).2]
    have stays : (change old).status ≠ .deleted := by
      cases idle old with
      | inl isReady => simp [isReady]
      | inr isFailed => simp [isFailed]
    subst isNext
    have set := @set_point_ok { store with computer } pointId old change keeps found lives stays
    apply PointChange.ended operationId old (change old)
    · exact completion.ends sync
    · exact wanted computer old completion found chosen
    · exact ⟨set.there, set.members, set.undeleted⟩
    · exact ⟨follows old chosen, busy old chosen, idle old⟩
    · rfl

theorem desired_of_ne_deleted (status : AgentStatus) : desiredOf status ≠ .deleted := by
  cases status <;> simp [desiredOf]

theorem begin_snapshot_change {operationId : Option Uuid} {providerSnapshotId : String}
    (returned : beginHivraAgentSnapshot userId operationId pointId providerSnapshotId moment store =
      .ok (answer, next)) : PointChange store next := by
  simp only [beginHivraAgentSnapshot] at returned
  cases isVmid : store.computer.vmid with
  | none =>
    rw [isVmid] at returned
    cases returned
    exact change_same rfl
  | some vmid =>
    simp only [isVmid] at returned
    split at returned
    · cases returned
      exact change_same rfl
    · rename_i admitted
      push Not at admitted
      have ⟨(claimed, taken), claims, rest⟩ := bind_ok returned
      cases claim_ok claims with
      | inl same =>
        rw [same.1] at rest
        cases rest
        exact change_same same.2
      | inr same =>
        have ⟨isClaimed, claimedId, computer, isId, isTaken, takes⟩ := same
        rw [isClaimed, isId] at rest
        have ⟨last, inserted, rest⟩ := bind_ok rest
        cases rest
        have ⟨source, _, inserted⟩ := bind_ok inserted
        have ⟨_, _, inserted⟩ := bind_ok inserted
        have ⟨points, adds, isNext⟩ := bind_ok inserted
        cases isNext
        have added := or_unique_violation_ok adds
        subst isTaken
        exact .snapshotBegun _ takes rfl admitted.2.2.2.2.2.2 added rfl

theorem complete_snapshot_change {hash : String}
    (returned : completeHivraAgentSnapshot userId operationId pointId status hash moment store =
      .ok (answer, next)) : PointChange store next := by
  have ⟨_, sync, rest⟩ := bind_ok returned
  have ⟨_, _, rest⟩ := bind_ok rest
  have ⟨(completed, ran), completes, rest⟩ := bind_ok rest
  apply completion_change (sync_status sync) completes rest
  · intro computer old completion _ _
    rw [completion.expected]
    exact desired_of_ne_deleted status
  · intro point created
    exact .inl created
  · intro point created
    exact ⟨rfl, rfl, fun made => absurd (created_status created).2 made⟩
  · intro point
    exact .inl rfl

theorem fail_snapshot_change {error : Option String}
    (spares : SparesDelete store (.call userId moment
      (.failSnapshot operationId pointId status error)))
    (returned : failHivraAgentSnapshot userId operationId pointId status error moment store =
      .ok (answer, next)) : PointChange store next := by
  have ⟨_, sync, rest⟩ := bind_ok returned
  have sync := sync_status sync
  by_cases foreign : store.computer.userId ≠ userId ∨
      store.computer.holds operationId (fun operation => operation.kind == .snapshot) = false
  · rw [if_pos foreign] at rest
    cases rest
    exact change_same rfl
  rw [if_neg foreign] at rest
  push Not at foreign
  have ⟨(completed, ran), completes, rest⟩ := bind_ok rest
  apply completion_change sync completes rest
  · intro computer old completion found created pending
    apply spares
    refine ⟨pending, completion.alive, foreign.1, sync, by simpa using foreign.2, ?_⟩
    rw [found]
    exact created
  · intro point created
    exact .inl created
  · intro point created
    exact ⟨rfl, rfl, fun made => absurd (created_status created).2 made⟩
  · intro point
    exact .inr rfl

theorem begin_restore_change {operationId : Option Uuid}
    (returned : beginHivraAgentSnapshotRestore userId operationId pointId moment store =
      .ok (answer, next)) : PointChange store next := by
  unfold beginHivraAgentSnapshotRestore at returned
  split at returned
  · cases returned
    exact change_same rfl
  · cases found : store.point? pointId with
    | none =>
      rw [found] at returned
      cases returned
      exact change_same rfl
    | some point =>
      rw [found] at returned
      simp only at returned
      split at returned
      · cases returned
        exact change_same rfl
      · rename_i restores
        have ⟨(claimed, taken), claims, rest⟩ := bind_ok returned
        cases claim_ok claims with
        | inl same =>
          rw [same.1] at rest
          cases rest
          exact change_same same.2
        | inr same =>
          have ⟨isClaimed, claimedId, computer, isId, isTaken, takes⟩ := same
          rw [isClaimed, isTaken] at rest
          simp only [if_true] at rest
          cases rest
          have ready : point.status = .ready ∧ point.snapshotConfigSha256.isSome = true := by
            simp only [RestorePoint.restores, Bool.and_eq_true, beq_iff_eq,
              Bool.not_eq_false] at restores
            exact ⟨restores.1.1.1.1.1.1, restores.1.1.1.1.1.2⟩
          have set := @set_point_ok { store with computer } pointId point
            (fun point =>
              { point with
                status := .restoring
                restoreOperationId := operationId
                lastError := none })
            (fun _ => rfl) found (by simp [ready.1]) (by simp)
          apply PointChange.restoreBegun claimedId point
          · exact takes
          · exact ⟨set.there, set.members, set.undeleted⟩
          · constructor
            · rfl
            · rfl
            · intro _
              exact ⟨by simp, rfl⟩
          · rfl
          · exact isId
          · rfl

theorem complete_restore_change {hash : String}
    (returned : completeHivraAgentSnapshotRestore userId operationId pointId hash moment store =
      .ok (answer, next)) : PointChange store next := by
  have ⟨_, _, rest⟩ := bind_ok returned
  cases found : store.point? pointId with
  | none =>
    rw [found] at rest
    cases rest
    exact change_same rfl
  | some point =>
    rw [found] at rest
    simp only at rest
    split at rest
    · cases rest
      exact change_same rfl
    · have ⟨(completed, ran), completes, rest⟩ := bind_ok rest
      apply completion_change (.inr rfl) completes rest
      · intro computer old completion _ _
        simp [completion.expected]
      · intro point restored
        exact .inr restored
      · intro point _
        exact ⟨rfl, rfl, fun _ => ⟨by simp, rfl⟩⟩
      · intro point
        exact .inl rfl

theorem fail_restore_change {error : Option String}
    (returned : failHivraAgentSnapshotRestore userId operationId pointId status error moment store =
      .ok (answer, next)) : PointChange store next := by
  have ⟨_, sync, rest⟩ := bind_ok returned
  cases found : store.point? pointId with
  | none =>
    rw [found] at rest
    cases rest
    exact change_same rfl
  | some point =>
    rw [found] at rest
    simp only at rest
    split at rest
    · cases rest
      exact change_same rfl
    · have ⟨(completed, ran), completes, rest⟩ := bind_ok rest
      apply completion_change (sync_status sync) completes rest
      · intro computer old completion _ _
        simp [completion.expected]
      · intro point restored
        exact .inr restored
      · intro point _
        exact ⟨rfl, rfl, fun _ => ⟨by simp, rfl⟩⟩
      · intro point
        exact .inl rfl

theorem claim_change {operationId : Option Uuid} {kind : OperationKind}
    {desiredState : DesiredState} {payload : Option Json}
    (returned : claimHivraAgentOperation userId operationId kind desiredState payload moment store =
      .ok (answer, next)) : PointChange store next := by
  cases claim_ok returned with
  | inl same => exact change_same same.2
  | inr same =>
    have ⟨_, claimedId, computer, _, isNext, takes⟩ := same
    subst isNext
    exact .claimed kind claimedId takes rfl rfl

theorem claim_recovery_change {expected recoveredAt : Option Int}
    (returned : claimHivraAgentOperationRecovery userId operationId expected recoveredAt moment
      store = .ok (answer, next)) : PointChange store next := by
  unfold claimHivraAgentOperationRecovery at returned
  split at returned
  · split at returned
    · cases returned
      exact change_same rfl
    · cases update_computer_ok returned with
      | inl same => exact change_same same.2
      | inr updated =>
        have ⟨_, _, _, computer, isNext, normalized⟩ := updated
        cases normalized
        subst isNext
        apply PointChange.kept
        · rfl
        · rfl
        · simp only [Option.map_map]
          rfl
        · rfl
        · rfl
  · cases returned
    exact change_same rfl

theorem request_delete_change {operationId : Option Uuid} {answer : DeleteAnswer}
    (returned : requestHivraAgentDelete userId operationId moment store = .ok (answer, next)) :
    PointChange store next ∧ (answer ≠ .notFound →
      next.computer.desiredState = .deleted ∨ next.computer.status = .deleted) := by
  unfold requestHivraAgentDelete at returned
  cases operationId with
  | none => exact absurd returned raise_ne_ok
  | some operationId =>
    simp only at returned
    by_cases foreign : store.computer.userId ≠ userId
    · rw [if_pos foreign] at returned
      cases returned
      exact ⟨change_same rfl, fun answered => absurd rfl answered⟩
    rw [if_neg foreign] at returned
    by_cases gone : store.computer.status = .deleted
    · rw [if_pos gone] at returned
      cases returned
      exact ⟨change_same rfl, fun _ => .inr gone⟩
    rw [if_neg gone] at returned
    have owner : store.computer.userId = userId := not_not.mp foreign
    -- both branches write the row, and it is the owner's
    have writes {change : Computer → Computer} {found : Bool} {ran : PointStore}
        (updates : store.updateComputer userId moment (fun _ => true) false change =
          .ok (found, ran)) : ran = { store with computer := change store.computer } := by
      rw [PointStore.updateComputer, if_pos ⟨owner, rfl⟩] at updates
      cases updates
      rfl
    by_cases busy : store.computer.operation.isSome = true
    · rw [if_pos busy] at returned
      have ⟨(found, ran), updates, rest⟩ := bind_ok returned
      cases rest
      rw [writes updates]
      exact ⟨.requested rfl rfl rfl rfl, fun _ => .inl rfl⟩
    · rw [if_neg busy] at returned
      have ⟨(found, ran), updates, rest⟩ := bind_ok returned
      cases rest
      rw [writes updates]
      exact ⟨.requested rfl rfl rfl rfl, fun _ => .inl rfl⟩

theorem complete_delete_change
    (returned : completeHivraAgentDelete userId operationId moment store = .ok (answer, next)) :
    PointChange store next := by
  obtain ⟨⟨updated, ran⟩, updates, rest⟩ := bind_ok returned
  cases update_computer_ok updates with
  | inl same =>
    rw [same.1] at rest
    cases rest
    exact change_same same.2
  | inr written =>
    obtain ⟨isUpdated, _, chosen, computer, isRan, normalized⟩ := written
    rw [isUpdated, isRan] at rest
    simp only [if_true] at rest
    cases rest
    simp only [Bool.and_eq_true, beq_iff_eq] at chosen
    obtain ⟨operation, held, _, _⟩ := holds_key chosen.1
    have cleared := normalize_clears (by simp [held]) rfl normalized
    subst cleared
    exact .erased chosen.2 rfl rfl rfl rfl

theorem release_change {error : Option String} (read : store.superseded ≠ [])
    (returned : releaseHivraAgentOperation userId operationId error false moment store =
      .ok (answer, next)) : PointChange store next := by
  cases update_computer_ok returned with
  | inl same => exact change_same same.2
  | inr updated =>
    have ⟨_, _, chosen, computer, isNext, normalized⟩ := updated
    have ⟨operation, held, _, _⟩ := holds_key chosen
    have cleared := normalize_clears (by simp [held]) rfl normalized
    subst isNext cleared
    exact .released read rfl (by simp) rfl rfl

end Calls

theorem step_change (store : PointStore) (event : PointEvent) (spares : SparesDelete store event) :
    PointChange store (store.step event) := by
  cases event with
  | call userId moment call =>
    simp only [PointStore.step]
    cases returned : call.run userId moment store with
    | error raised => exact change_same rfl
    | ok result =>
      obtain ⟨answer, next⟩ := result
      cases call with
      | beginSnapshot operationId pointId providerSnapshotId =>
        exact begin_snapshot_change returned
      | completeSnapshot operationId pointId status hash =>
        exact complete_snapshot_change returned
      | failSnapshot operationId pointId status error =>
        exact fail_snapshot_change spares returned
      | beginRestore operationId pointId => exact begin_restore_change returned
      | completeRestore operationId pointId hash => exact complete_restore_change returned
      | failRestore operationId pointId status error => exact fail_restore_change returned
      | claim operationId kind desiredState payload => exact claim_change returned
      | claimRecovery operationId expected recoveredAt =>
        exact claim_recovery_change returned
      | completeDelete operationId => exact complete_delete_change returned
  | requestDelete userId moment operationId =>
    simp only [PointStore.step]
    cases returned : requestHivraAgentDelete userId operationId moment store with
    | error raised => exact change_same rfl
    | ok result =>
      obtain ⟨answer, next⟩ := result
      exact (request_delete_change returned).1
  | sweepReads =>
    simp only [PointStore.step]
    unfold Computer.superseded?
    split
    · rename_i pending
      exact .swept pending rfl rfl
    · exact .kept rfl rfl rfl rfl (List.append_nil _)
  | sweepReleases moment operationId =>
    simp only [PointStore.step]
    split
    · rename_i read
      have isRead : store.superseded ≠ [] := by
        intro empty
        rw [empty] at read
        cases read
      cases returned : releaseHivraAgentOperation store.computer.userId operationId
          (some "Lifecycle operation was superseded by delete.") false moment store with
      | error raised => exact change_same rfl
      | ok result =>
        obtain ⟨answer, next⟩ := result
        exact release_change isRead returned
    · exact change_same rfl
  | outside connections targets => exact .kept rfl rfl rfl rfl rfl

end Hivra.RestorePoints
