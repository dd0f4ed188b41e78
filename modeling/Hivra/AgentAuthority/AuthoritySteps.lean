import Hivra.AgentAuthority.ConnectionSpecs

/-!
# What one step can do

Everything a step does to the database, once: it launches an agent, writes one row for
a claim, a request to delete or a result, or changes one connection.  What every run
keeps follows by cases.
-/

namespace Hivra.AgentAuthority

open Hivra.Library
open Hivra.AgentNetwork (Uuid Raised raise refuseIf raise_ne_ok refuse_if_ok bind_ok)

/-- What a call can do to the three tables. -/
inductive StepEffect (call : AuthorityCall) (db next : Database) : Prop
  | same (unchanged : next = db)
  | launched (launch : Launch) (new : Agent) (isCall : call = .launch launch)
      (launched : Launched db next launch new)
  | claimed (userId : String) (agentId operationId : Uuid) (operationKind : OperationKind)
      (desiredState : DesiredState) (payload : Option Json)
      (isCall : call =
        .claim userId agentId (some operationId) operationKind desiredState payload)
      (old new : Agent) (written : RowWritten db next old new)
      (names : old.id = agentId ∧ old.userId = userId) (claimed : Claimed db operationId old new)
  | deleteRequested (userId : String) (agentId operationId : Uuid)
      (isCall : call = .requestDelete userId agentId (some operationId))
      (old new : Agent) (written : RowWritten db next old new)
      (names : old.id = agentId ∧ old.userId = userId)
      (requested : DeleteRequested operationId old new)
  | resulted (userId : String) (agentId operationId : Uuid) (result : ResultCall)
      (isCall : call = .result userId agentId operationId result)
      (old new : Agent) (written : RowWritten db next old new) (names : old.id = agentId)
      (resulted : Resulted operationId old new)
  | connection (connectionId : Uuid) (stepped : ConnectionStep connectionId db next)

theorem run_effect {db next : Database} {moment : Moment} {call : AuthorityCall}
    (kept : AuthorityKept db) (returned : call.run moment db = .ok next) :
    StepEffect call db next := by
  cases call with
  | launch launch =>
    have ⟨new, launched⟩ := launch_ok returned
    exact .launched launch new rfl launched
  | claim userId agentId operationId operationKind desiredState payload =>
    have ⟨answer, claimed⟩ := map_snd_ok returned
    obtain ⟨_, unchanged⟩ | ⟨operationId', rfl, old, new, written, id, user, claimed⟩ :=
      claim_ok claimed
    · exact .same unchanged
    · exact .claimed userId agentId operationId' operationKind desiredState payload rfl old new
        written ⟨id, user⟩ claimed
  | requestDelete userId agentId operationId =>
    have ⟨answer, requested⟩ := map_snd_ok returned
    obtain ⟨unchanged, _⟩ | ⟨operationId', rfl, old, new, written, id, user, requested⟩ :=
      request_delete_ok requested
    · exact .same unchanged
    · exact .deleteRequested userId agentId operationId' rfl old new written ⟨id, user⟩ requested
  | result userId agentId operationId result =>
    have ⟨answer, resulted⟩ := map_snd_ok returned
    cases result_ok resulted with
    | same unchanged => exact .same unchanged
    | row old new written change =>
      exact .resulted userId agentId operationId result rfl old new written change.1 change.2
  | createConnection userId input =>
    exact .connection _ (create_connection_step kept returned)
  | updateConnection userId connectionId expectedRevision patch operationalChange rotated =>
    exact .connection _ (update_connection_step kept returned)
  | deleteConnection userId connectionId =>
    have ⟨answer, deleted⟩ := map_snd_ok returned
    exact .connection _ (delete_connection_step kept deleted)
  | beginPreparation userId connectionId expectedRevision runId startedAt =>
    cases returned
    exact .connection _ (begin_preparation_step kept)
  | beginPreflight userId connectionId expectedRevision runId startedAt =>
    cases returned
    exact .connection _ (begin_preflight_step kept)
  | completePreflight userId connectionId expectedRevision runId connectionStatus checkedAt
      lastErrorCode target =>
      have ⟨answer, completed⟩ := map_snd_ok returned
      exact .connection _ (complete_preflight_step kept completed)
  | invalidatePreflight userId connectionId expectedRevision checkedAt lastErrorCode =>
    cases returned
    exact .connection _ (invalidate_step kept)
  | recoverExpiredRun userId connectionId expectedRevision expectedRunId recoveredAt =>
    cases returned
    exact .connection _ (recover_expired_step kept)

variable {old new row : Agent}

theorem step_effect {db : Database} (kept : AuthorityKept db) (event : AuthorityEvent) :
    StepEffect event.call db (db.step event) := by
  unfold Database.step
  cases returned : event.call.run event.moment db with
  | error raised => exact .same rfl
  | ok next => exact run_effect kept returned

section Rows

variable {db next : Database} {old new : Agent}

theorem mem_written (written : RowWritten db next old new) (there : row ∈ next.agents) :
    row = new ∨ row ∈ db.agents ∧ row.id ≠ old.id := by
  rw [Table.mem_rows, written.agents, List.mem_map] at there
  obtain ⟨before, held, isRow⟩ := there
  split at isRow
  · exact .inl isRow.symm
  · rename_i other
    rw [isRow] at held other
    exact .inr ⟨held, by simpa using other⟩

theorem new_written (written : RowWritten db next old new) : new ∈ next.agents := by
  rw [Table.mem_rows, written.agents, List.mem_map]
  exact ⟨old, written.held, by rw [if_pos (by simp)]⟩

theorem other_written (written : RowWritten db next old new) (held : row ∈ db.agents)
    (other : row.id ≠ old.id) : row ∈ next.agents := by
  rw [Table.mem_rows, written.agents, List.mem_map]
  exact ⟨row, held, by rw [if_neg (by simpa using other)]⟩

theorem mem_launched {launch : Launch} (launched : Launched db next launch new) :
    row ∈ next.agents ↔ row ∈ db.agents ∨ row = new := by
  rw [Table.mem_rows, launched.agents, List.mem_append, List.mem_singleton]
  exact Iff.rfl

theorem authority_bound {agent : Agent} (checked : agent.checked = true)
    (authority : enforceDeploymentAuthority db none agent = .ok ()) (alive : agent.status ≠ .deleted)
    {binding : Binding} (isBound : agent.binding = some binding) :
    ∃ connection ∈ db.connections, connection.id = binding.connectionId ∧
      connection.userId = agent.userId ∧ connection.status = .ready ∧
        connection.revision = binding.revision := by
  unfold enforceDeploymentAuthority at authority
  cases mode : agent.deploymentMode with
  | hivraManaged =>
    unfold Agent.checked at checked
    simp [mode, isBound] at checked
  | selfManaged =>
    rw [mode] at authority
    dsimp only at authority
    split at authority
    · exact absurd authority raise_ne_ok
    rw [isBound] at authority
    dsimp only [enforceBinding] at authority
    cases search : db.connectionOf binding agent.userId with
    | none =>
      rw [search] at authority
      exact absurd authority raise_ne_ok
    | some connection =>
      rw [search] at authority
      obtain ⟨held, chosen⟩ := Table.find_mem search
      simp only [Bool.and_eq_true, beq_iff_eq] at chosen
      refine ⟨connection, held, chosen.1, chosen.2, ?_⟩
      by_contra stale
      rw [not_and_or] at stale
      dsimp only at authority
      rw [if_pos ⟨rfl, stale⟩] at authority
      exact absurd authority raise_ne_ok

end Rows

section Kept

variable {db next : Database}

theorem written_sound (kept : AuthorityKept db) (written : RowWritten db next old new)
    (gone : new.status = .deleted → new.desiredState = .deleted)
    (there : row ∈ next.agents) : AgentSound row := by
  cases mem_written written there with
  | inl isNew => exact ⟨isNew ▸ written.checked, isNew ▸ gone⟩
  | inr other => exact kept.sound row other.1

theorem written_kept (kept : AuthorityKept db) (written : RowWritten db next old new)
    (gone : new.status = .deleted → new.desiredState = .deleted) (user : new.userId = old.userId)
    (binding : new.binding = old.binding ∨ new.binding = none) : AuthorityKept next := by
  constructor
  · intro row there
    exact written_sound kept written gone there
  · intro row there held isBound
    rw [written.connections]
    cases mem_written written there with
    | inr other => exact kept.bound row other.1 held isBound
    | inl isNew =>
      subst isNew
      cases binding with
      | inl same =>
        rw [user]
        exact kept.bound old written.held held (same.symm.trans isBound)
      | inr cleared =>
        rw [cleared] at isBound
        cases isBound
  · rw [written.connections]
    exact kept.checking
  · rw [written.connections]
    exact kept.notRebinding

theorem claimed_same {operationId : Uuid} (claimed : Claimed db operationId old new) :
    new.id = old.id ∧ new.userId = old.userId ∧ new.binding = old.binding ∧
      new.status = old.status ∧ new.operationId? = some operationId := by
  obtain ⟨_, operation, _, named, rfl⟩ := claimed.written
  exact ⟨rfl, rfl, rfl, rfl, by rw [← named]; rfl⟩

theorem requested_same {operationId : Uuid} (requested : DeleteRequested operationId old new) :
    new.id = old.id ∧ new.userId = old.userId ∧ new.binding = old.binding ∧
      new.status = old.status ∧ new.desiredState = .deleted := by
  obtain ⟨operation, rfl, _⟩ := requested.written
  exact ⟨rfl, rfl, rfl, rfl, rfl⟩

theorem other_connection {connectionId : Uuid} (others : OthersSame connectionId db next)
    {connection : Connection} (other : connection.id ≠ connectionId) :
    connection ∈ next.connections ↔ connection ∈ db.connections := by
  have same := others.connections
  have later : connection ∈ next.connections ↔ connection ∈
      next.connections.rows.filter fun connection => connection.id != connectionId := by
    simp [Table.mem_rows, other]
  have before : connection ∈ db.connections ↔ connection ∈
      db.connections.rows.filter fun connection => connection.id != connectionId := by
    simp [Table.mem_rows, other]
  rw [later, before, same]

theorem connection_kept {connectionId : Uuid} (kept : AuthorityKept db)
    (stepped : ConnectionStep connectionId db next) : AuthorityKept next := by
  constructor
  · rw [stepped.agents]
    exact kept.sound
  · rw [stepped.agents]
    intro agent there binding isBound
    obtain ⟨connection, held, id, user⟩ := kept.bound agent there binding isBound
    by_cases here : connection.id = connectionId
    · obtain ⟨later, laterHeld, laterId, laterUser⟩ := stepped.stays
        ⟨agent, there, binding, isBound, id.symm.trans here⟩ connection held here
      exact ⟨later, laterHeld, laterId.trans (here.symm.trans id), laterUser.trans user⟩
    · exact ⟨connection, (other_connection stepped.others here).mpr held, id, user⟩
  · intro later there isSome
    by_cases here : later.id = connectionId
    · exact (stepped.checking later there here isSome).1
    · exact kept.checking later ((other_connection stepped.others here).mp there) isSome
  · intro later there
    by_cases here : later.id = connectionId
    · exact stepped.notRebinding later there here
    · exact kept.notRebinding later ((other_connection stepped.others here).mp there)

theorem launched_kept {launch : Launch} {new : Agent} (kept : AuthorityKept db)
    (launched : Launched db next launch new) : AuthorityKept next := by
  have alive : new.status ≠ .deleted := by
    rw [launched.status]
    exact AgentStatus.noConfusion
  constructor
  · intro row there
    cases (mem_launched launched).mp there with
    | inl old => exact kept.sound row old
    | inr isNew =>
      subst isNew
      exact ⟨launched.checked, fun gone => absurd gone alive⟩
  · rw [launched.connections]
    intro row there binding isBound
    cases (mem_launched launched).mp there with
    | inl old => exact kept.bound row old binding isBound
    | inr isNew =>
      subst isNew
      have ⟨connection, held, id, user, _⟩ :=
        authority_bound launched.checked launched.authority alive isBound
      exact ⟨connection, held, id, user⟩
  · rw [launched.connections]
    exact kept.checking
  · rw [launched.connections]
    exact kept.notRebinding

theorem effect_kept {call : AuthorityCall} (kept : AuthorityKept db)
    (effect : StepEffect call db next) : AuthorityKept next := by
  cases effect with
  | same unchanged =>
    rw [unchanged]
    exact kept
  | launched launch new isCall launched => exact launched_kept kept launched
  | claimed _ _ _ _ _ _ isCall old new written names claimed =>
    have ⟨_, user, binding, status, _⟩ := claimed_same claimed
    apply written_kept kept written _ user (.inl binding)
    intro gone
    exact absurd (status.symm.trans gone) claimed.alive
  | deleteRequested _ _ _ isCall old new written names requested =>
    have ⟨_, user, binding, _, desired⟩ := requested_same requested
    exact written_kept kept written (fun _ => desired) user (.inl binding)
  | resulted _ _ _ result isCall old new written names resulted =>
    exact written_kept kept written (resulted.gone (kept.sound old written.held)) resulted.userId
      (resulted.binding.imp id And.left)
  | connection connectionId stepped => exact connection_kept kept stepped

end Kept

theorem reached_kept (history : List AuthorityEvent) : AuthorityKept (Database.empty.after history) :=
  fold_keeps history kept_empty fun _ event kept => effect_kept kept (step_effect kept event)

end Hivra.AgentAuthority
