import Hivra.AgentAuthority.AuthoritySteps
import Hivra.AgentAuthority.CredentialRecovery

/-!
# Bound revisions

An agent is bound at the revision its connection has, or, after a recovery of the
credentials, at the one the connection remembers.  Recoveries keep the oldest, and a
preflight moves every bound agent or none.
-/

namespace Hivra.AgentAuthority

open Hivra.Library
open Hivra.AgentNetwork (Uuid Raised raise refuseIf orUniqueViolation raise_ne_ok refuse_if_ok
  or_unique_violation_ok bind_ok)

def Connection.boundRevision (connection : Connection) : Nat :=
  connection.pendingBindingRebindFromRevision.getD connection.revision

structure InStep (db : Database) : Prop where
  checked : ∀ agent ∈ db.agents, agent.checked = true
  bound : ∀ agent ∈ db.agents, ∀ binding, agent.binding = some binding →
    ∃ connection ∈ db.connections, connection.id = binding.connectionId ∧
      connection.userId = agent.userId ∧ binding.revision = connection.boundRevision
  ready : ∀ connection ∈ db.connections, connection.status = .ready →
    connection.pendingBindingRebindFromRevision = none

theorem in_step_empty : InStep .empty where
  checked := fun _ there => absurd there (Table.not_mem_empty _)
  bound := fun _ there => absurd there (Table.not_mem_empty _)
  ready := fun _ there => absurd there (Table.not_mem_empty _)

structure ConnectionWritten (db next : Database) (old new : Connection) : Prop where
  held : old ∈ db.connections
  rows : ∀ row, row ∈ next.connections ↔ row = new ∨ row ∈ db.connections ∧ row.id ≠ old.id
  id : new.id = old.id
  userId : new.userId = old.userId

inductive ConnectionEffect (advances : Uuid → Prop) (db next : Database) : Prop
  | same (unchanged : next = db)
  | written (old new : Connection) (written : ConnectionWritten db next old new)
      (agents : next.agents = db.agents)
      (bound : (∃ agent ∈ db.agents, agent.isBoundTo old.id) →
        new.boundRevision = old.boundRevision)
      (ready : new.status = .ready → new.pendingBindingRebindFromRevision = none)
      (revision : new.revision = old.revision ∨
        new.revision = old.revision + 1 ∧ advances old.id)
  | rebound (old new : Connection) (written : ConnectionWritten db next old new)
      (rebindFrom : Nat)
      (agents : next.agents.rows = db.agents.rows.map fun agent =>
        if agent.boundAt old.userId old.id rebindFrom then agent.rebound new.revision else agent)
      (checked : ∀ agent ∈ next.agents, agent.checked = true)
      (moved : ∀ agent ∈ next.agents, agent.boundTo old.userId old.id = true →
        agent.deploymentMode = .selfManaged →
          agent.boundAt old.userId old.id new.revision = true)
      (settled : new.pendingBindingRebindFromRevision = none)
      (revision : new.revision = old.revision)
  | created (new : Connection) (agents : next.agents = db.agents)
      (rows : ∀ row, row ∈ next.connections ↔ row ∈ db.connections ∨ row = new)
      (fresh : ∀ row ∈ db.connections, row.id ≠ new.id)
      (settled : new.pendingBindingRebindFromRevision = none)
  | deleted (connectionId : Uuid) (agents : next.agents = db.agents)
      (rows : ∀ row, row ∈ next.connections ↔ row ∈ db.connections ∧ row.id ≠ connectionId)
      (unbound : ∀ agent ∈ db.agents, ¬agent.isBoundTo connectionId)

section Rows

variable {db next : Database} {connection : Connection}

theorem rewritten_rows {rows : List Connection} (held : connection ∈ rows)
    {selected : Connection → Bool} {change : Connection → Connection}
    (only : ∀ row ∈ rows, selected row = true ↔ row.id = connection.id)
    (same : ∀ row ∈ rows, row.id = connection.id → row = connection) (row : Connection) :
    (row ∈ rows.map fun row => if selected row then change row else row) ↔
      row = change connection ∨ row ∈ rows ∧ row.id ≠ connection.id := by
  rw [List.mem_map]
  constructor
  · intro ⟨before, there, isRow⟩
    by_cases here : before.id = connection.id
    · rw [if_pos ((only before there).mpr here), same before there here] at isRow
      exact .inl isRow.symm
    · rw [if_neg (fun chosen => here ((only before there).mp chosen))] at isRow
      rw [isRow] at there here
      exact .inr ⟨there, here⟩
  · intro after
    cases after with
    | inl isNew =>
      exact ⟨connection, held, by rw [if_pos ((only connection held).mpr rfl), isNew]⟩
    | inr other =>
      refine ⟨row, other.1, ?_⟩
      rw [if_neg (fun chosen => other.2 ((only row other.1).mp chosen))]

theorem connection_rows (held : connection ∈ db.connections) {selected : Connection → Bool}
    {change : Connection → Connection}
    (only : ∀ row ∈ db.connections, selected row = true ↔ row.id = connection.id)
    (rows : next.connections.rows =
      db.connections.rows.map fun row => if selected row then change row else row)
    (id : (change connection).id = connection.id)
    (userId : (change connection).userId = connection.userId) :
    ConnectionWritten db next connection (change connection) where
  held := held
  rows := by
    intro row
    rw [Table.mem_rows, rows]
    exact rewritten_rows held only (fun row there id => same_connection there held id) row
  id := id
  userId := userId

theorem connection_chosen (held : connection ∈ db.connections) {row : Connection}
    (there : row ∈ db.connections) :
    (row.id == connection.id && row.userId == connection.userId) = true ↔
      row.id = connection.id := by
  rw [Bool.and_eq_true, beq_iff_eq, beq_iff_eq]
  constructor
  · intro chosen
    exact chosen.1
  · intro same
    rw [same_connection there held same]
    exact ⟨rfl, rfl⟩

theorem in_step_owner (inStep : InStep db) (held : connection ∈ db.connections) {agent : Agent}
    (there : agent ∈ db.agents) (bound : agent.isBoundTo connection.id) :
    agent.boundTo connection.userId connection.id = true ∧ agent.deploymentMode = .selfManaged := by
  have checked := inStep.checked agent there
  refine ⟨bound_owner held checked ?_ bound, (bound_alive checked bound).2⟩
  intro binding isBound
  have ⟨connection, held, id, user, _⟩ := inStep.bound agent there binding isBound
  exact ⟨connection, held, id, user⟩

end Rows

variable {expectedRevision rebindFrom : Nat} {runId : Uuid} {moment : Moment}

section Calls

variable {advances : Uuid → Prop} {db next : Database} {userId : String} {connectionId : Uuid}
variable {connection : Connection} {status : ConnectionStatus} {lease : Option PreflightLease}
variable {lastCheckedAt : Option Int} {lastErrorCode : Option String}

theorem set_connection_written (held : connection ∈ db.connections)
    (connections : next.connections = (db.setConnection connection.userId connection.id status lease
      lastCheckedAt lastErrorCode).connections) :
    ConnectionWritten db next connection
      { connection with status, lease, lastCheckedAt, lastErrorCode } := by
  refine @connection_rows db next connection held _
    (fun row => { row with status, lease, lastCheckedAt, lastErrorCode })
    (fun row there => connection_chosen held there) ?_ rfl rfl
  rw [connections]
  rfl

theorem set_connection_effect (held : connection ∈ db.connections)
    (agents : next.agents = db.agents)
    (connections : next.connections = (db.setConnection connection.userId connection.id status lease
      lastCheckedAt lastErrorCode).connections)
    (ready : status = .ready → connection.pendingBindingRebindFromRevision = none) :
    ConnectionEffect advances db next :=
  .written connection _ (set_connection_written held connections) agents (fun _ => rfl) ready
    (.inl rfl)

/-- A call that writes an idle connection, and refuses a leased or a busy one. -/
theorem guarded_effect {leased : Connection → Bool} {busy : Bool} {written : Database}
    (writes : ∀ connection ∈ db.connections, connection.userId = userId →
      connection.id = connectionId → ConnectionEffect advances db written) :
    ConnectionEffect advances db
      (match db.connectionAt userId connectionId expectedRevision with
      | none => (false, db)
      | some connection =>
        if leased connection = true then (false, db)
        else if busy = true then (false, db)
        else (true, written)).2 := by
  cases search : db.connectionAt userId connectionId expectedRevision with
  | none => exact .same rfl
  | some connection =>
    obtain ⟨held, id, user, _⟩ := connection_at_some search
    dsimp only
    split_ifs
    · exact .same rfl
    · exact .same rfl
    · exact writes connection held user id

theorem begin_preparation_effect {startedAt : Int} :
    ConnectionEffect advances db (beginInfrastructureConnectionPreparation userId connectionId
      expectedRevision runId startedAt db).2 := by
  apply guarded_effect
  rintro connection held rfl rfl
  exact set_connection_effect held rfl rfl (fun isReady => by cases isReady)

theorem begin_preflight_effect {startedAt : Int} :
    ConnectionEffect advances db (beginInfrastructureConnectionPreflight userId connectionId
      expectedRevision runId startedAt db).2 := by
  apply guarded_effect
  rintro connection held rfl rfl
  exact set_connection_effect held rfl rfl (fun isReady => by cases isReady)

theorem invalidate_effect {checkedAt : Option Int} :
    ConnectionEffect advances db (invalidateInfrastructureConnectionPreflight userId connectionId
      expectedRevision checkedAt lastErrorCode db).2 := by
  apply guarded_effect
  rintro connection held rfl rfl
  exact set_connection_effect held rfl rfl (fun isReady => by cases isReady)

theorem recover_expired_effect {expectedRunId : Uuid} {recoveredAt : Int} :
    ConnectionEffect advances db (recoverExpiredInfrastructureConnectionRun userId connectionId
      expectedRevision expectedRunId recoveredAt db).2 := by
  unfold recoverExpiredInfrastructureConnectionRun
  cases search : db.connectionAt userId connectionId expectedRevision with
  | none => exact .same rfl
  | some connection =>
    obtain ⟨held, rfl, rfl, _⟩ := connection_at_some search
    dsimp only
    split
    · exact set_connection_effect held rfl rfl (fun isReady => by cases isReady)
    · exact .same rfl

theorem rebind_agents_ok {revision : Nat}
    (returned : db.rebindAgents userId connectionId rebindFrom revision = .ok next) :
    next.agents.rows = (db.agents.rows.map fun agent =>
        if agent.boundAt userId connectionId rebindFrom then agent.rebound revision else agent) ∧
      (∀ agent ∈ db.agents, agent.boundAt userId connectionId rebindFrom = true →
        (agent.rebound revision).checked = true) ∧
      (∀ agent ∈ next.agents, agent.boundTo userId connectionId = true →
        agent.deploymentMode = .selfManaged →
          agent.boundAt userId connectionId revision = true) ∧
      next.connections.rows = db.connections.rows.map fun connection =>
        if connection.id == connectionId && connection.userId == userId then
          { connection with pendingBindingRebindFromRevision := none }
        else connection := by
  have ⟨_, refused, rest⟩ := bind_ok returned
  have ⟨_, left, rest⟩ := bind_ok rest
  have refused := refuse_if_ok refused
  have left := refuse_if_ok left
  cases rest
  refine ⟨rfl, ?_, ?_, rfl⟩
  · intro agent there here
    by_contra unchecked
    exact refused ⟨agent, there, here, .inr (by simpa using unchecked)⟩
  · intro agent there bound mode
    by_contra behind
    exact left ⟨agent, there, bound, mode, by simpa using behind⟩

theorem complete_preflight_effect (inStep : InStep db) {checkedAt : Option Int}
    {target : Option FoundTarget} {answer : Bool}
    (returned : completeInfrastructureConnectionPreflight userId connectionId expectedRevision runId
      status checkedAt lastErrorCode target moment db = .ok (answer, next)) :
    ConnectionEffect advances db next := by
  obtain unchanged | ⟨connection, held, rfl, rfl, revision, _, found, agents, connections, _,
    written⟩ := complete_preflight_ok returned
  · exact .same unchanged
  have connectionsSame : (found.setConnection connection.userId connection.id status none checkedAt
      lastErrorCode).connections = (db.setConnection connection.userId connection.id status none
      checkedAt lastErrorCode).connections := by
    unfold Database.setConnection
    simp only [connections]
  obtain ⟨ready, isNext⟩ | ⟨rebindFrom, _, _, rebound⟩ := written
  · rw [isNext]
    exact set_connection_effect held agents connectionsSame ready
  · obtain ⟨moved, checks, all, rows⟩ := rebind_agents_ok rebound
    have agentsSame : (found.setConnection connection.userId connection.id status none checkedAt
        lastErrorCode).agents = db.agents := agents
    rw [agentsSame] at moved checks
    have settled := @set_connection_written db (found.setConnection connection.userId connection.id
      status none checkedAt lastErrorCode) connection status none checkedAt lastErrorCode held
      connectionsSame
    have there := (settled.rows _).mpr (.inl rfl)
    have again := @connection_rows _ next _ there _
      (fun row => { row with pendingBindingRebindFromRevision := none })
      (fun row held => connection_chosen there held) rows rfl rfl
    let new : Connection :=
      { connection with
        status, lease := none, lastCheckedAt := checkedAt, lastErrorCode,
        pendingBindingRebindFromRevision := none }
    refine .rebound connection new ⟨held, ?_, rfl, rfl⟩ rebindFrom ?_ ?_ ?_ rfl rfl
    · intro row
      rw [again.rows row, settled.rows row]
      constructor
      · intro after
        obtain isNew | ⟨isSet | other, apart⟩ := after
        · exact .inl isNew
        · rw [isSet] at apart
          exact absurd rfl apart
        · exact .inr other
      · intro after
        exact after.imp_right fun other => ⟨.inr other, other.2⟩
    · rw [moved, ← revision]
    · intro agent later
      rw [Table.mem_rows, moved, List.mem_map] at later
      obtain ⟨before, beforeHeld, isAgent⟩ := later
      rw [← isAgent]
      by_cases here : before.boundAt connection.userId connection.id rebindFrom = true
      · rw [if_pos here]
        exact checks before beforeHeld here
      · rw [if_neg here]
        exact inStep.checked before beforeHeld
    · rw [← revision] at all
      exact all

theorem update_connection_effect (inStep : InStep db) {patch : ConnectionPatch}
    {operationalChange : Bool} {rotated : Option RotatedCredentials}
    (returned : updateInfrastructureConnection userId connectionId expectedRevision patch
      operationalChange rotated db = .ok next) :
    ConnectionEffect
      (RecoveryCall.authority (.updateConnection userId connectionId expectedRevision patch
        operationalChange rotated)).advances db next := by
  obtain unchanged | ⟨connection, held, rfl, rfl, _, notBound, agents, rows, _, _⟩ :=
    update_connection_ok returned
  · exact .same unchanged
  have written := @connection_rows db next connection held (fun row => row.id == connection.id)
    (fun _ => connection.patched patch operationalChange rotated)
    (fun row _ => beq_iff_eq) rows rfl rfl
  refine .written connection _ written agents ?_ ?_ ?_
  · intro ⟨agent, there, bound⟩
    cases operationalChange with
    | true => exact absurd ⟨agent, there, in_step_owner inStep held there bound⟩ (notBound rfl)
    | false => rfl
  · intro isReady
    cases operationalChange with
    | true => cases isReady
    | false => exact inStep.ready connection held isReady
  · cases operationalChange with
    | true => exact .inr ⟨rfl, rfl, rfl⟩
    | false => exact .inl rfl

theorem recover_credentials_effect (inStep : InStep db) {rotated : RotatedCredentials}
    (returned : recoverInfrastructureConnectionCredentials userId connectionId expectedRevision
      rotated moment db = .ok next) :
    ConnectionEffect
      (RecoveryCall.recoverCredentials userId connectionId expectedRevision rotated).advances
      db next := by
  unfold recoverInfrastructureConnectionCredentials at returned
  cases search : db.connectionAt userId connectionId expectedRevision with
  | none =>
    rw [search] at returned
    cases returned
    exact .same rfl
  | some connection =>
    rw [search] at returned
    obtain ⟨held, rfl, rfl, rfl⟩ := connection_at_some search
    have ⟨_, _, rest⟩ := bind_ok returned
    have ⟨_, _, rest⟩ := bind_ok rest
    have ⟨_, _, rest⟩ := bind_ok rest
    have ⟨_, _, rest⟩ := bind_ok rest
    have agents : next.agents = db.agents := by
      cases rest
      rfl
    have rows : next.connections.rows = db.connections.rows.map fun row =>
        if row.id == connection.id && row.userId == connection.userId &&
            row.revision == connection.revision then
          row.recovered (db.hasBindings connection.userId connection.id) rotated
        else row := by
      cases rest
      rfl
    have written := @connection_rows db next connection held
      (fun row => row.id == connection.id && row.userId == connection.userId &&
        row.revision == connection.revision)
      (fun row =>
        row.recovered (db.hasBindings connection.userId connection.id) rotated)
      (by
        intro row there
        rw [Bool.and_eq_true, connection_chosen held there, beq_iff_eq]
        constructor
        · intro chosen
          exact chosen.1
        · intro same
          exact ⟨same, by rw [same_connection there held same]⟩)
      rows rfl rfl
    refine .written connection _ written agents ?_ ?_ (.inr ⟨rfl, rfl⟩)
    · intro ⟨agent, there, bound⟩
      have ⟨owner, mode⟩ := in_step_owner inStep held there bound
      have hasBindings : db.hasBindings connection.userId connection.id = true := by
        unfold Database.hasBindings
        rw [List.any_eq_true]
        exact ⟨agent, there, by rw [owner, mode]; rfl⟩
      unfold Connection.recovered Connection.boundRevision
      rw [hasBindings]
      rfl
    · intro isReady
      cases isReady

theorem delete_connection_effect {answer : ConnectionDeleteAnswer}
    (returned : deleteInfrastructureConnection userId connectionId db = .ok (answer, next)) :
    ConnectionEffect advances db next := by
  unfold deleteInfrastructureConnection at returned
  cases search : db.connections.find? (fun connection =>
      connection.id == connectionId && connection.userId == userId) with
  | none =>
    rw [search] at returned
    cases returned
    exact .same rfl
  | some connection =>
    rw [search] at returned
    dsimp only at returned
    split at returned
    · cases returned
      exact .same rfl
    obtain ⟨_, unbound, rest⟩ := bind_ok returned
    have unbound := refuse_if_ok unbound
    cases rest
    refine .deleted connectionId rfl ?_ ?_
    · intro row
      rw [Table.mem_rows, Table.mem_rows]
      simp [keepRows]
    · intro agent there bound
      obtain ⟨binding, isBound, names⟩ := bound
      exact unbound ⟨agent, there, by simp [isBound, names]⟩

theorem create_connection_effect {input : ConnectionInput}
    (returned : createInfrastructureConnection userId input moment db = .ok next) :
    ConnectionEffect advances db next := by
  have ⟨_, _, rest⟩ := bind_ok returned
  have ⟨connections, inserted, rest⟩ := bind_ok rest
  cases rest
  have inserted := or_unique_violation_ok inserted
  refine .created _ rfl (fun row => Table.mem_insert inserted) ?_ rfl
  intro row held same
  apply Table.insert_apart inserted held (.id row.id) row.entries_id
  rw [same]
  exact List.mem_cons_self

end Calls

inductive RecoveryEffect (call : RecoveryCall) (db next : Database) : Prop
  | launched (launch : Launch) (new : Agent) (launched : Launched db next launch new)
  | row (old new : Agent) (written : RowWritten db next old new) (user : new.userId = old.userId)
      (binding : new.binding = old.binding ∨ new.binding = none)
  | connection (effect : ConnectionEffect call.advances db next)

theorem authority_recovery_effect {db next : Database} {call : AuthorityCall} (inStep : InStep db)
    (returned : call.run moment db = .ok next) : RecoveryEffect (.authority call) db next := by
  cases call with
  | launch launch =>
    have ⟨new, launched⟩ := launch_ok returned
    exact .launched launch new launched
  | claim userId agentId operationId operationKind desiredState payload =>
    have ⟨answer, claimed⟩ := map_snd_ok returned
    obtain ⟨_, unchanged⟩ | ⟨_, _, old, new, written, _, _, claimed⟩ := claim_ok claimed
    · exact .connection (.same unchanged)
    · have ⟨_, user, binding, _⟩ := claimed_same claimed
      exact .row old new written user (.inl binding)
  | requestDelete userId agentId operationId =>
    have ⟨answer, requested⟩ := map_snd_ok returned
    obtain ⟨unchanged, _⟩ | ⟨_, _, old, new, written, _, _, requested⟩ :=
      request_delete_ok requested
    · exact .connection (.same unchanged)
    · have ⟨_, user, binding, _⟩ := requested_same requested
      exact .row old new written user (.inl binding)
  | result userId agentId operationId result =>
    have ⟨answer, resulted⟩ := map_snd_ok returned
    cases result_ok resulted with
    | same unchanged => exact .connection (.same unchanged)
    | row old new written change =>
      exact .row old new written change.2.userId (change.2.binding.imp id And.left)
  | createConnection userId input => exact .connection (create_connection_effect returned)
  | updateConnection userId connectionId expectedRevision patch operationalChange rotated =>
    exact .connection (update_connection_effect inStep returned)
  | deleteConnection userId connectionId =>
    have ⟨answer, deleted⟩ := map_snd_ok returned
    exact .connection (delete_connection_effect deleted)
  | beginPreparation userId connectionId expectedRevision runId startedAt =>
    cases returned
    exact .connection begin_preparation_effect
  | beginPreflight userId connectionId expectedRevision runId startedAt =>
    cases returned
    exact .connection begin_preflight_effect
  | completePreflight userId connectionId expectedRevision runId connectionStatus checkedAt
      lastErrorCode target =>
      have ⟨answer, completed⟩ := map_snd_ok returned
      exact .connection (complete_preflight_effect inStep completed)
  | invalidatePreflight userId connectionId expectedRevision checkedAt lastErrorCode =>
    cases returned
    exact .connection invalidate_effect
  | recoverExpiredRun userId connectionId expectedRevision expectedRunId recoveredAt =>
    cases returned
    exact .connection recover_expired_effect

theorem recovery_effect {db : Database} (inStep : InStep db) (event : RecoveryEvent) :
    RecoveryEffect event.call db (db.recoveryStep event) := by
  unfold Database.recoveryStep
  cases returned : event.call.run event.moment db with
  | error raised => exact .connection (.same rfl)
  | ok next =>
    cases call : event.call with
    | authority call =>
      rw [call] at returned
      exact authority_recovery_effect inStep returned
    | recoverCredentials userId connectionId expectedRevision rotated =>
      rw [call] at returned
      exact .connection (recover_credentials_effect inStep returned)

section Kept

variable {db next : Database}

theorem written_in_step {old new : Connection} (inStep : InStep db)
    (written : ConnectionWritten db next old new) (agents : next.agents = db.agents)
    (bound : (∃ agent ∈ db.agents, agent.isBoundTo old.id) →
      new.boundRevision = old.boundRevision)
    (ready : new.status = .ready → new.pendingBindingRebindFromRevision = none) : InStep next := by
  constructor
  · rw [agents]
    exact inStep.checked
  · rw [agents]
    intro agent there binding isBound
    have ⟨connection, held, id, user, revision⟩ := inStep.bound agent there binding isBound
    by_cases here : connection.id = old.id
    · have same := same_connection held written.held here
      rw [same] at id user revision
      refine ⟨new, (written.rows new).mpr (.inl rfl), written.id.trans id,
        written.userId.trans user, ?_⟩
      rw [bound ⟨agent, there, binding, isBound, id.symm⟩]
      exact revision
    · exact ⟨connection, (written.rows connection).mpr (.inr ⟨held, here⟩), id, user, revision⟩
  · intro connection there isReady
    cases (written.rows connection).mp there with
    | inl isNew =>
      rw [isNew] at isReady ⊢
      exact ready isReady
    | inr other => exact inStep.ready connection other.1 isReady

theorem rebound_same {revision : Nat} {userId : String} {connectionId : Uuid} {before : Agent}
    {binding : Binding}
    (isBound : (if before.boundAt userId connectionId rebindFrom then before.rebound revision
      else before).binding = some binding) :
    ∃ held, before.binding = some held ∧ held.connectionId = binding.connectionId ∧
      (held.connectionId ≠ connectionId → held = binding) := by
  by_cases here : before.boundAt userId connectionId rebindFrom = true
  · rw [if_pos here] at isBound
    obtain ⟨held, isHeld, rfl⟩ := Option.map_eq_some_iff.mp isBound
    refine ⟨held, isHeld, rfl, ?_⟩
    intro apart
    simp [Agent.boundAt, Agent.boundTo, isHeld, apart] at here
  · rw [if_neg here] at isBound
    exact ⟨binding, isBound, rfl, fun _ => rfl⟩

theorem rebound_in_step {old new : Connection} (inStep : InStep db)
    (written : ConnectionWritten db next old new)
    (agents : next.agents.rows = db.agents.rows.map fun agent =>
      if agent.boundAt old.userId old.id rebindFrom then agent.rebound new.revision else agent)
    (checked : ∀ agent ∈ next.agents, agent.checked = true)
    (moved : ∀ agent ∈ next.agents, agent.boundTo old.userId old.id = true →
      agent.deploymentMode = .selfManaged → agent.boundAt old.userId old.id new.revision = true)
    (settled : new.pendingBindingRebindFromRevision = none) : InStep next := by
  constructor
  · exact checked
  · intro agent there binding isBound
    have later := there
    rw [Table.mem_rows, agents, List.mem_map] at later
    obtain ⟨before, beforeHeld, isAgent⟩ := later
    have user : agent.userId = before.userId := by
      rw [← isAgent]
      split <;> rfl
    have before_bound := isBound
    rw [← isAgent] at before_bound
    have ⟨held, isHeld, names, apart⟩ := rebound_same before_bound
    have ⟨connection, there', id, owner, revision⟩ := inStep.bound before beforeHeld held isHeld
    by_cases here : connection.id = old.id
    · have same := same_connection there' written.held here
      rw [same] at id owner
      refine ⟨new, (written.rows new).mpr (.inl rfl), written.id.trans (id.trans names),
        written.userId.trans (owner.trans user.symm), ?_⟩
      have bound : agent.isBoundTo old.id := ⟨binding, isBound, names.symm.trans id.symm⟩
      have ⟨alive, mode⟩ := bound_alive (checked agent there) bound
      have isOwned : agent.boundTo old.userId old.id = true := by
        simp [Agent.boundTo, isBound, ← names, ← id, user, ← owner, alive]
      have arrived := moved agent there isOwned mode
      unfold Agent.boundAt at arrived
      rw [isBound] at arrived
      simp only [Bool.and_eq_true, Option.any_some, beq_iff_eq] at arrived
      unfold Connection.boundRevision
      rw [settled]
      exact arrived.2
    · have same := apart (fun isOld => here (id.trans isOld))
      refine ⟨connection, (written.rows connection).mpr (.inr ⟨there', here⟩), id.trans names,
        owner.trans user.symm, ?_⟩
      rw [← same]
      exact revision
  · intro connection there isReady
    cases (written.rows connection).mp there with
    | inl isNew => rw [isNew, settled]
    | inr other => exact inStep.ready connection other.1 isReady

theorem connection_effect_in_step {advances : Uuid → Prop} (inStep : InStep db)
    (effect : ConnectionEffect advances db next) : InStep next := by
  cases effect with
  | same unchanged =>
    rw [unchanged]
    exact inStep
  | written old new written agents bound ready revision =>
    exact written_in_step inStep written agents bound ready
  | rebound old new written rebindFrom agents checked moved settled revision =>
    exact rebound_in_step inStep written agents checked moved settled
  | created new agents rows fresh settled =>
    constructor
    · rw [agents]
      exact inStep.checked
    · rw [agents]
      intro agent there binding isBound
      have ⟨connection, held, rest⟩ := inStep.bound agent there binding isBound
      exact ⟨connection, (rows connection).mpr (.inl held), rest⟩
    · intro connection there isReady
      cases (rows connection).mp there with
      | inl old => exact inStep.ready connection old isReady
      | inr isNew => rw [isNew, settled]
  | deleted connectionId agents rows unbound =>
    constructor
    · rw [agents]
      exact inStep.checked
    · rw [agents]
      intro agent there binding isBound
      have ⟨connection, held, id, rest⟩ := inStep.bound agent there binding isBound
      refine ⟨connection, (rows connection).mpr ⟨held, ?_⟩, id, rest⟩
      intro gone
      exact unbound agent there ⟨binding, isBound, id.symm.trans gone⟩
    · intro connection there isReady
      exact inStep.ready connection ((rows connection).mp there).1 isReady

theorem row_in_step {old new : Agent} (inStep : InStep db) (written : RowWritten db next old new)
    (user : new.userId = old.userId)
    (binding : new.binding = old.binding ∨ new.binding = none) : InStep next := by
  constructor
  · intro agent there
    cases mem_written written there with
    | inl isNew => rw [isNew, written.checked]
    | inr other => exact inStep.checked agent other.1
  · rw [written.connections]
    intro agent there held isBound
    cases mem_written written there with
    | inr other => exact inStep.bound agent other.1 held isBound
    | inl isNew =>
      rw [isNew] at isBound ⊢
      cases binding with
      | inl same =>
        rw [user]
        exact inStep.bound old written.held held (same.symm.trans isBound)
      | inr cleared =>
        rw [cleared] at isBound
        cases isBound
  · rw [written.connections]
    exact inStep.ready

theorem launched_in_step {launch : Launch} {new : Agent} (inStep : InStep db)
    (launched : Launched db next launch new) : InStep next := by
  constructor
  · intro agent there
    cases (mem_launched launched).mp there with
    | inl old => exact inStep.checked agent old
    | inr isNew => rw [isNew, launched.checked]
  · rw [launched.connections]
    intro agent there binding isBound
    cases (mem_launched launched).mp there with
    | inl old => exact inStep.bound agent old binding isBound
    | inr isNew =>
      rw [isNew] at isBound ⊢
      have alive : new.status ≠ .deleted := by
        rw [launched.status]
        exact AgentStatus.noConfusion
      have ⟨connection, held, id, user, isReady, revision⟩ :=
        authority_bound launched.checked launched.authority alive isBound
      refine ⟨connection, held, id, user, ?_⟩
      unfold Connection.boundRevision
      rw [inStep.ready connection held isReady]
      exact revision.symm
  · rw [launched.connections]
    exact inStep.ready

theorem effect_in_step {call : RecoveryCall} (inStep : InStep db)
    (effect : RecoveryEffect call db next) : InStep next := by
  cases effect with
  | launched launch new launched => exact launched_in_step inStep launched
  | row old new written user binding => exact row_in_step inStep written user binding
  | connection effect => exact connection_effect_in_step inStep effect

theorem effect_revision {call : RecoveryCall} (effect : RecoveryEffect call db next)
    {before after : Connection} (held : before ∈ db.connections) (there : after ∈ next.connections)
    (id : after.id = before.id) : after.revision = before.revision ∨
      after.revision = before.revision + 1 ∧ call.advances before.id := by
  have unchanged (same : next.connections = db.connections) : after.revision = before.revision := by
    rw [same] at there
    rw [same_connection there held id]
  cases effect with
  | launched launch new launched => exact .inl (unchanged launched.connections)
  | row old new written user binding => exact .inl (unchanged written.connections)
  | connection effect =>
    -- The row of another connection is the one it was.
    have other (still : after ∈ db.connections) : after.revision = before.revision := by
      rw [same_connection still held id]
    cases effect with
    | same isSame => exact .inl (unchanged (by rw [isSame]))
    | written old new written agents bound ready revision =>
      cases (written.rows after).mp there with
      | inr still => exact .inl (other still.1)
      | inl isNew =>
        rw [isNew] at id ⊢
        have same := same_connection held written.held (id.symm.trans written.id)
        rw [same]
        exact revision
    | rebound old new written rebindFrom agents checked moved settled revision =>
      cases (written.rows after).mp there with
      | inr still => exact .inl (other still.1)
      | inl isNew =>
        rw [isNew] at id ⊢
        have same := same_connection held written.held (id.symm.trans written.id)
        rw [same]
        exact .inl revision
    | created new agents rows fresh settled =>
      cases (rows after).mp there with
      | inl still => exact .inl (other still)
      | inr isNew =>
        rw [isNew] at id
        exact absurd id.symm (fresh before held)
    | deleted connectionId agents rows unbound =>
      exact .inl (other ((rows after).mp there).1)

end Kept

theorem reached_in_step (history : List RecoveryEvent) :
    InStep (Database.empty.recoveryAfter history) :=
  fold_keeps history in_step_empty fun _ event inStep =>
    effect_in_step inStep (recovery_effect inStep event)

/-- Live agents are bound at their connection's revision or at the one it waits to
rebind, and a ready connection waits for none. -/
structure RevisionsInStep (db : Database) : Prop where
  bound : ∀ connection ∈ db.connections, ∀ agent ∈ db.agents,
    agent.deploymentMode = .selfManaged → agent.status ≠ .deleted →
      ∀ binding, agent.binding = some binding → binding.connectionId = connection.id →
        binding.revision = connection.revision ∨
          connection.pendingBindingRebindFromRevision = some binding.revision ∧
            connection.status ≠ .ready
  ready : ∀ connection ∈ db.connections, connection.status = .ready →
    connection.pendingBindingRebindFromRevision = none

/-- In every state a run reaches, revisions are in step; and in every step from there a
connection's revision stays, or rises by one for an operational update or a recovery. -/
theorem bound_revisions_stay_in_step (history : List RecoveryEvent) :
    RevisionsInStep (Database.empty.recoveryAfter history) ∧
      ∀ event : RecoveryEvent,
        ∀ before ∈ (Database.empty.recoveryAfter history).connections,
          ∀ after ∈ ((Database.empty.recoveryAfter history).recoveryStep event).connections,
            after.id = before.id →
              after.revision = before.revision ∨
                after.revision = before.revision + 1 ∧ event.call.advances before.id := by
  have inStep := reached_in_step history
  constructor
  · constructor
    · intro connection held agent there _ _ binding isBound names
      have ⟨owner, ownerHeld, id, _, revision⟩ := inStep.bound agent there binding isBound
      have same := same_connection ownerHeld held (id.trans names)
      rw [same] at revision
      unfold Connection.boundRevision at revision
      cases rebind : connection.pendingBindingRebindFromRevision with
      | none =>
        rw [rebind] at revision
        exact .inl revision
      | some rebindFrom =>
        rw [rebind] at revision
        refine .inr ⟨by rw [revision]; rfl, ?_⟩
        intro isReady
        rw [inStep.ready connection held isReady] at rebind
        cases rebind
    · exact inStep.ready
  · intro event before held after there id
    exact effect_revision (recovery_effect inStep event) held there id

end Hivra.AgentAuthority
