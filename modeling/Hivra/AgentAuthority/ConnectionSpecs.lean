import Hivra.AgentAuthority.AuthorityRuns

/-!
# What a call does to a connection

A call on a connection leaves the agents and all other connections with their
targets.  It changes the revision or the evidence of its own connection only when no
bound agent holds an operation, or while it holds the connection's lease.
-/

namespace Hivra.AgentAuthority

open Hivra.Library
open Hivra.AgentNetwork (Uuid Raised raise refuseIf orUniqueViolation raise_ne_ok refuse_if_ok
  or_unique_violation_ok bind_ok)

def Agent.isBoundTo (agent : Agent) (connectionId : Uuid) : Prop :=
  ∃ binding, agent.binding = some binding ∧ binding.connectionId = connectionId

structure AuthorityKept (db : Database) : Prop where
  sound : ∀ agent ∈ db.agents, AgentSound agent
  bound : ∀ agent ∈ db.agents, ∀ binding, agent.binding = some binding →
    ∃ connection ∈ db.connections, connection.id = binding.connectionId ∧
      connection.userId = agent.userId
  checking : ∀ connection ∈ db.connections, connection.lease.isSome = true →
    connection.status = .checking
  notRebinding : ∀ connection ∈ db.connections, connection.pendingBindingRebindFromRevision = none

theorem kept_empty : AuthorityKept .empty where
  sound := fun _ there => absurd there (Table.not_mem_empty _)
  bound := fun _ there => absurd there (Table.not_mem_empty _)
  checking := fun _ there => absurd there (Table.not_mem_empty _)
  notRebinding := fun _ there => absurd there (Table.not_mem_empty _)

theorem same_connection {db : Database} {left right : Connection} (leftHeld : left ∈ db.connections)
    (rightHeld : right ∈ db.connections) (same : left.id = right.id) : left = right := by
  apply Table.eq_of_shared_entry leftHeld rightHeld left.entries_id
  rw [same]
  exact right.entries_id

theorem same_agent {db : Database} {left right : Agent} (leftHeld : left ∈ db.agents)
    (rightHeld : right ∈ db.agents) (same : left.id = right.id) : left = right := by
  apply Table.eq_of_shared_entry leftHeld rightHeld left.entries_id
  rw [same]
  exact right.entries_id

theorem bound_alive {agent : Agent} (checked : agent.checked = true) {connectionId : Uuid}
    (bound : agent.isBoundTo connectionId) :
    agent.status ≠ .deleted ∧ agent.deploymentMode = .selfManaged := by
  obtain ⟨binding, isBound, _⟩ := bound
  cases mode : agent.deploymentMode with
  | hivraManaged =>
    unfold Agent.checked at checked
    simp [mode, isBound] at checked
  | selfManaged =>
    apply And.intro _ rfl
    apply (checked_bound checked mode).mp
    rw [isBound]
    rfl

def Database.readiness (db : Database) (connectionId : Uuid) :
    List Nat × List (Uuid × TargetEvidence) :=
  ((db.connections.rows.filter fun connection => connection.id == connectionId).map
      Connection.revision,
    (db.targets.rows.filter fun target => target.connectionId == connectionId).map
      fun target => (target.id, target.evidence))

def Database.idle (db : Database) (connectionId : Uuid) : Prop :=
  ∀ agent ∈ db.agents, agent.isBoundTo connectionId → agent.operation = none

def Database.leased (db : Database) (connectionId : Uuid) : Prop :=
  ∃ connection ∈ db.connections, connection.id = connectionId ∧ connection.lease.isSome = true

structure OthersSame (connectionId : Uuid) (db next : Database) : Prop where
  connections : next.connections.rows.filter (fun connection => connection.id != connectionId) =
    db.connections.rows.filter fun connection => connection.id != connectionId
  targets : next.targets.rows.filter (fun target => target.connectionId != connectionId) =
    db.targets.rows.filter fun target => target.connectionId != connectionId

/-- What a call about one connection leaves as it is, and when it may take a lease. -/
structure ConnectionStep (connectionId : Uuid) (db next : Database) : Prop where
  agents : next.agents = db.agents
  others : OthersSame connectionId db next
  stays : (∃ agent ∈ db.agents, agent.isBoundTo connectionId) →
    ∀ connection ∈ db.connections, connection.id = connectionId →
      ∃ later ∈ next.connections, later.id = connectionId ∧ later.userId = connection.userId
  checking : ∀ later ∈ next.connections, later.id = connectionId → later.lease.isSome = true →
    later.status = .checking ∧ (db.idle connectionId ∨ db.leased connectionId)
  notRebinding : ∀ later ∈ next.connections, later.id = connectionId →
    later.pendingBindingRebindFromRevision = none
  ready : next.readiness connectionId = db.readiness connectionId ∨ db.idle connectionId ∨
    db.leased connectionId

variable {expectedRevision : Nat} {runId : Uuid} {checkedAt : Option Int} {moment : Moment}

section Calls

variable {db next : Database} {userId : String} {connectionId : Uuid} {connection : Connection}

theorem unchanged_step (kept : AuthorityKept db) (connectionId : Uuid) :
    ConnectionStep connectionId db db where
  agents := rfl
  others := ⟨rfl, rfl⟩
  stays := fun _ connection held id => ⟨connection, held, id, rfl⟩
  checking := fun later held id lease => ⟨kept.checking later held lease, .inr ⟨later, held, id, lease⟩⟩
  notRebinding := fun later held _ => kept.notRebinding later held
  ready := .inl rfl

theorem connection_at_some
    (found : db.connectionAt userId connectionId expectedRevision = some connection) :
    connection ∈ db.connections ∧ connection.id = connectionId ∧ connection.userId = userId ∧
      connection.revision = expectedRevision := by
  have ⟨held, chosen⟩ := Table.find_mem found
  simp only [Bool.and_eq_true, beq_iff_eq] at chosen
  exact ⟨held, chosen.1.1, chosen.1.2, chosen.2⟩

theorem bound_owner (held : connection ∈ db.connections) {agent : Agent}
    (checked : agent.checked = true) (owned : ∀ binding, agent.binding = some binding →
      ∃ connection ∈ db.connections, connection.id = binding.connectionId ∧
        connection.userId = agent.userId)
    (bound : agent.isBoundTo connection.id) :
    agent.boundTo connection.userId connection.id = true := by
  have alive := (bound_alive checked bound).1
  obtain ⟨binding, isBound, names⟩ := bound
  obtain ⟨other, otherHeld, otherId, otherUser⟩ := owned binding isBound
  have same := same_connection otherHeld held (otherId.trans names)
  subst same
  simp [Agent.boundTo, isBound, names, otherUser, alive]

theorem idle_of_none (kept : AuthorityKept db) (held : connection ∈ db.connections)
    (none : ¬db.agents.rows.any (fun agent =>
      agent.boundTo connection.userId connection.id && agent.operation.isSome) = true) :
    db.idle connection.id := by
  intro agent there bound
  have owner := bound_owner held (kept.sound agent there).checked (kept.bound agent there) bound
  simp only [List.any_eq_true, not_exists, not_and, Bool.and_eq_true] at none
  simpa using none agent there owner

section Checked

variable {status : ConnectionStatus} {lease : Option PreflightLease} {lastCheckedAt : Option Int}
variable {lastErrorCode : Option String}

theorem mem_set_connection {later : Connection} :
    later ∈ (db.setConnection userId connectionId status lease lastCheckedAt
        lastErrorCode).connections ↔
      ∃ old ∈ db.connections,
        (if old.id == connectionId && old.userId == userId then
          { old with status, lease, lastCheckedAt, lastErrorCode }
        else old) = later :=
  List.mem_map

theorem set_connection_row (held : connection ∈ db.connections) {later : Connection}
    (written : later ∈ (db.setConnection connection.userId connection.id status lease lastCheckedAt
      lastErrorCode).connections) (id : later.id = connection.id) :
    later = { connection with status, lease, lastCheckedAt, lastErrorCode } := by
  obtain ⟨old, oldHeld, isLater⟩ := mem_set_connection.mp written
  have sameId : old.id = connection.id := by
    rw [← id, ← isLater]
    split <;> rfl
  have same := same_connection oldHeld held sameId
  subst same
  rw [← isLater, if_pos (by simp)]

theorem checked_step (kept : AuthorityKept db) (held : connection ∈ db.connections)
    (agents : next.agents = db.agents)
    (connections : next.connections = (db.setConnection connection.userId connection.id status lease
      lastCheckedAt lastErrorCode).connections)
    (targets : next.targets.rows.filter (fun target => target.connectionId != connection.id) =
      db.targets.rows.filter fun target => target.connectionId != connection.id)
    (leaseChecks : lease.isSome = true → status = .checking)
    (free : db.idle connection.id ∨ db.leased connection.id) :
    ConnectionStep connection.id db next := by
  constructor
  · exact agents
  · constructor
    · rw [connections]
      apply Table.filter_rewritten_others
      intro row chosen
      simp only [Bool.and_eq_true, beq_iff_eq] at chosen
      simp [chosen.1]
    · exact targets
  · intro _ old oldHeld id
    have same := same_connection oldHeld held id
    subst same
    refine ⟨{ old with status, lease, lastCheckedAt, lastErrorCode }, ?_, rfl, rfl⟩
    rw [connections]
    exact mem_set_connection.mpr ⟨old, held, by rw [if_pos (by simp)]⟩
  · intro later written id isSome
    rw [connections] at written
    rw [set_connection_row held written id] at isSome ⊢
    exact ⟨leaseChecks isSome, free⟩
  · intro later written id
    rw [connections] at written
    rw [set_connection_row held written id]
    exact kept.notRebinding connection held
  · exact .inr free

theorem revoked_others (db : Database) (userId : String) (connectionId : Uuid)
    (lastErrorCode : Option String) :
    (db.revokeTargets userId connectionId lastErrorCode).targets.rows.filter
        (fun target => target.connectionId != connectionId) =
      db.targets.rows.filter fun target => target.connectionId != connectionId := by
  apply Table.filter_rewritten_others
  intro row chosen
  simp only [Bool.and_eq_true, beq_iff_eq] at chosen
  simp [chosen.1]

theorem revoking_step (kept : AuthorityKept db) (held : connection ∈ db.connections)
    (leaseChecks : lease.isSome = true → status = .checking)
    (free : db.idle connection.id ∨ db.leased connection.id) {code : Option String} :
    ConnectionStep connection.id db
      ((db.setConnection connection.userId connection.id status lease lastCheckedAt
        lastErrorCode).revokeTargets connection.userId connection.id code) :=
  checked_step kept held rfl rfl
    (revoked_others (db.setConnection connection.userId connection.id status lease lastCheckedAt
      lastErrorCode) _ _ _)
    leaseChecks free

end Checked

section

variable (kept : AuthorityKept db)
include kept

theorem begin_preparation_step {startedAt : Int} :
    ConnectionStep connectionId db (beginInfrastructureConnectionPreparation userId connectionId
      expectedRevision runId startedAt db).2 := by
  unfold beginInfrastructureConnectionPreparation
  cases search : db.connectionAt userId connectionId expectedRevision with
  | none => exact unchanged_step kept connectionId
  | some connection =>
    obtain ⟨held, rfl, rfl, _⟩ := connection_at_some search
    dsimp only
    iterate 2
      split
      · exact unchanged_step kept _
    · rename_i _ none
      apply revoking_step kept held (fun _ => rfl)
      apply Or.inl
      apply idle_of_none kept held
      intro some
      apply none
      simp only [List.any_eq_true, Bool.and_eq_true] at some ⊢
      have ⟨agent, there, bound, _⟩ := some
      exact ⟨agent, there, bound⟩

theorem begin_preflight_step {startedAt : Int} :
    ConnectionStep connectionId db (beginInfrastructureConnectionPreflight userId connectionId
      expectedRevision runId startedAt db).2 := by
  unfold beginInfrastructureConnectionPreflight
  cases search : db.connectionAt userId connectionId expectedRevision with
  | none => exact unchanged_step kept connectionId
  | some connection =>
    obtain ⟨held, rfl, rfl, _⟩ := connection_at_some search
    dsimp only
    iterate 2
      split
      · exact unchanged_step kept _
    · rename_i _ none
      exact revoking_step kept held (fun _ => rfl)
        (.inl (idle_of_none kept held none))

theorem invalidate_step {lastErrorCode : Option String} :
    ConnectionStep connectionId db (invalidateInfrastructureConnectionPreflight userId connectionId
      expectedRevision checkedAt lastErrorCode db).2 := by
  unfold invalidateInfrastructureConnectionPreflight
  cases search : db.connectionAt userId connectionId expectedRevision with
  | none => exact unchanged_step kept connectionId
  | some connection =>
    obtain ⟨held, rfl, rfl, _⟩ := connection_at_some search
    dsimp only
    iterate 2
      split
      · exact unchanged_step kept _
    · rename_i _ none
      exact revoking_step kept held (fun isSome => by cases isSome)
        (.inl (idle_of_none kept held none))

theorem recover_expired_step {expectedRunId : Uuid} {recoveredAt : Int} :
    ConnectionStep connectionId db (recoverExpiredInfrastructureConnectionRun userId connectionId
      expectedRevision expectedRunId recoveredAt db).2 := by
  unfold recoverExpiredInfrastructureConnectionRun
  cases search : db.connectionAt userId connectionId expectedRevision with
  | none => exact unchanged_step kept connectionId
  | some connection =>
    obtain ⟨held, rfl, rfl, _⟩ := connection_at_some search
    dsimp only
    split
    · rename_i expired
      rw [Option.any_eq_true] at expired
      have ⟨lease, isLease, _⟩ := expired
      exact revoking_step kept held (fun isSome => by cases isSome)
        (.inr ⟨connection, held, rfl, by rw [isLease]; rfl⟩)
    · exact unchanged_step kept _

omit kept in
theorem write_target_ok {found : FoundTarget} {revision : Nat}
    (written : db.writeTarget connection found checkedAt revision moment = .ok next) :
    next.agents = db.agents ∧ next.connections = db.connections ∧
      next.targets.rows.filter (fun target => target.connectionId != connection.id) =
        db.targets.rows.filter fun target => target.connectionId != connection.id := by
  obtain ⟨_, _, rest⟩ := bind_ok written
  split at rest
  · cases rest
    refine ⟨rfl, rfl, ?_⟩
    apply Table.filter_rewritten_others
    intro row chosen
    simp only [Bool.and_eq_true, beq_iff_eq] at chosen
    simp [chosen.1]
  · obtain ⟨targets, inserted, rest⟩ := bind_ok rest
    cases rest
    refine ⟨rfl, rfl, ?_⟩
    rw [Table.insert_rows (or_unique_violation_ok inserted), List.filter_append]
    simp

omit kept in
theorem complete_preflight_ok {connectionStatus : ConnectionStatus} {lastErrorCode : Option String}
    {target : Option FoundTarget} {answer : Bool}
    (returned : completeInfrastructureConnectionPreflight userId connectionId expectedRevision runId
      connectionStatus checkedAt lastErrorCode target moment db = .ok (answer, next)) :
    next = db ∨
      ∃ connection ∈ db.connections, connection.id = connectionId ∧ connection.userId = userId ∧
        connection.revision = expectedRevision ∧ connection.lease.isSome = true ∧
        ∃ found : Database, found.agents = db.agents ∧ found.connections = db.connections ∧
          found.targets.rows.filter (fun target => target.connectionId != connectionId) =
            (db.targets.rows.filter fun target => target.connectionId != connectionId) ∧
          ((connectionStatus = .ready → connection.pendingBindingRebindFromRevision = none) ∧
              next = found.setConnection userId connectionId connectionStatus none checkedAt
                lastErrorCode ∨
            ∃ rebindFrom, connectionStatus = .ready ∧
              connection.pendingBindingRebindFromRevision = some rebindFrom ∧
              (found.setConnection userId connectionId connectionStatus none checkedAt
                lastErrorCode).rebindAgents userId connectionId rebindFrom expectedRevision =
                  .ok next) := by
  unfold completeInfrastructureConnectionPreflight at returned
  cases search : db.connectionAt userId connectionId expectedRevision with
  | none =>
    rw [search] at returned
    cases returned
    exact .inl rfl
  | some connection =>
    rw [search] at returned
    have ⟨held, id, user, revision⟩ := connection_at_some search
    dsimp only at returned
    by_cases otherRun : connection.lease.any (fun lease => lease.runId == runId) = false
    · rw [if_pos otherRun] at returned
      cases returned
      exact .inl rfl
    rw [if_neg otherRun] at returned
    by_cases noTarget : connectionStatus = .ready ∧ target.isNone = true
    · rw [if_pos noTarget] at returned
      cases returned
      exact .inl rfl
    rw [if_neg noTarget] at returned
    have ⟨found, wrote, rest⟩ := bind_ok returned
    have isLeased : connection.lease.isSome = true := by
      rw [Bool.not_eq_false, Option.any_eq_true] at otherRun
      have ⟨lease, isLease, _⟩ := otherRun
      rw [isLease]
      rfl
    have ⟨agents, connections, targets⟩ : found.agents = db.agents ∧
        found.connections = db.connections ∧
        found.targets.rows.filter (fun target => target.connectionId != connectionId) =
          db.targets.rows.filter fun target => target.connectionId != connectionId := by
      have revoked := revoked_others db userId connectionId (lastErrorCode.or superseded)
      cases target with
      | none =>
        cases wrote
        exact ⟨rfl, rfl, revoked⟩
      | some target =>
        have ⟨agents, connections, targets⟩ := write_target_ok wrote
        rw [id] at targets
        exact ⟨agents, connections, targets.trans revoked⟩
    refine .inr ⟨connection, held, id, user, revision, isLeased, found, agents, connections,
      targets, ?_⟩
    cases rebind : connection.pendingBindingRebindFromRevision with
    | none =>
      rw [rebind] at rest
      cases rest
      exact .inl ⟨fun _ => rfl, rfl⟩
    | some rebindFrom =>
      rw [rebind] at rest
      dsimp only at rest
      by_cases isReady : connectionStatus = .ready
      · rw [if_pos isReady] at rest
        have ⟨rebound, done, rest⟩ := bind_ok rest
        cases rest
        exact .inr ⟨rebindFrom, isReady, rfl, done⟩
      · rw [if_neg isReady] at rest
        cases rest
        exact .inl ⟨fun ready => absurd ready isReady, rfl⟩

theorem complete_preflight_step {connectionStatus : ConnectionStatus}
    {lastErrorCode : Option String} {target : Option FoundTarget} {answer : Bool}
    (returned : completeInfrastructureConnectionPreflight userId connectionId expectedRevision runId
      connectionStatus checkedAt lastErrorCode target moment db = .ok (answer, next)) :
    ConnectionStep connectionId db next := by
  obtain unchanged | ⟨connection, held, rfl, rfl, _, leased, found, agents, connections, targets,
    written⟩ := complete_preflight_ok returned
  · rw [unchanged]
    exact unchanged_step kept connectionId
  obtain ⟨_, isNext⟩ | ⟨rebindFrom, _, rebinds, _⟩ := written
  · rw [isNext]
    have agentsSame : (found.setConnection connection.userId connection.id connectionStatus none
        checkedAt lastErrorCode).agents = db.agents := agents
    have connectionsSame : (found.setConnection connection.userId connection.id connectionStatus
        none checkedAt lastErrorCode).connections = (db.setConnection connection.userId
        connection.id connectionStatus none checkedAt lastErrorCode).connections := by
      unfold Database.setConnection
      simp only [connections]
    exact checked_step kept held agentsSame connectionsSame targets (fun isSome => by cases isSome)
      (.inr ⟨connection, held, rfl, leased⟩)
  · rw [kept.notRebinding connection held] at rebinds
    cases rebinds

theorem edited_step (held : connection ∈ db.connections)
    (patched : Connection) (id : patched.id = connection.id)
    (user : patched.userId = connection.userId) (notLeased : patched.lease = none)
    (pending : patched.pendingBindingRebindFromRevision =
      connection.pendingBindingRebindFromRevision)
    (agents : next.agents = db.agents) (rows : next.connections.rows =
      db.connections.rows.map fun row => if row.id == connection.id then patched else row)
    (targets : next.targets.rows.filter (fun target => target.connectionId != connection.id) =
      db.targets.rows.filter fun target => target.connectionId != connection.id)
    (ready : next.readiness connection.id = db.readiness connection.id ∨ db.idle connection.id) :
    ConnectionStep connection.id db next := by
  have patchedRow : ∀ later ∈ next.connections, later.id = connection.id → later = patched := by
    intro later there isId
    rw [Table.mem_rows, rows, List.mem_map] at there
    obtain ⟨row, _, isLater⟩ := there
    split at isLater
    · exact isLater.symm
    · rename_i other
      rw [isLater, isId] at other
      simp at other
  constructor
  · exact agents
  · constructor
    · rw [rows]
      apply Table.filter_rewritten_others
      intro row chosen
      rw [beq_iff_eq] at chosen
      simp [chosen, id]
    · exact targets
  · intro _ old oldHeld oldId
    have same := same_connection oldHeld held oldId
    subst same
    refine ⟨patched, ?_, id, user⟩
    rw [Table.mem_rows, rows, List.mem_map]
    exact ⟨old, held, by rw [if_pos (by simp)]⟩
  · intro later there isId isSome
    rw [patchedRow later there isId, notLeased] at isSome
    cases isSome
  · intro later there isId
    rw [patchedRow later there isId, pending]
    exact kept.notRebinding connection held
  · exact ready.imp_right .inl

omit kept in
theorem update_connection_ok {patch : ConnectionPatch} {operationalChange : Bool}
    {rotated : Option RotatedCredentials}
    (returned : updateInfrastructureConnection userId connectionId expectedRevision patch
      operationalChange rotated db = .ok next) :
    next = db ∨
      ∃ connection ∈ db.connections, connection.id = connectionId ∧ connection.userId = userId ∧
        connection.lease = none ∧
        (operationalChange = true → ¬∃ agent ∈ db.agents,
          agent.boundTo userId connectionId = true ∧ agent.deploymentMode = .selfManaged) ∧
        next.agents = db.agents ∧
        next.connections.rows =
          (db.connections.rows.map fun row =>
            if row.id == connectionId then connection.patched patch operationalChange rotated
            else row) ∧
        next.targets.rows.filter (fun target => target.connectionId != connectionId) =
          (db.targets.rows.filter fun target => target.connectionId != connectionId) ∧
        (operationalChange = false → ∀ id,
          (next.targets.rows.filter fun target => target.connectionId == id).map
              (fun target => (target.id, target.evidence)) =
            (db.targets.rows.filter fun target => target.connectionId == id).map
              fun target => (target.id, target.evidence)) := by
  unfold updateInfrastructureConnection at returned
  cases search : db.connectionAt userId connectionId expectedRevision with
  | none =>
    rw [search] at returned
    cases returned
    exact .inl rfl
  | some connection =>
    rw [search] at returned
    have ⟨held, id, user, _⟩ := connection_at_some search
    have ⟨_, notLeased, rest⟩ := bind_ok returned
    have ⟨_, _, rest⟩ := bind_ok rest
    have ⟨_, _, rest⟩ := bind_ok rest
    have ⟨_, notBound, rest⟩ := bind_ok rest
    have ⟨_, _, rest⟩ := bind_ok rest
    have ⟨_, _, rest⟩ := bind_ok rest
    have ⟨_, _, rest⟩ := bind_ok rest
    have ⟨connections, updated, rest⟩ := bind_ok rest
    have notLeased := refuse_if_ok notLeased
    have notBound := refuse_if_ok notBound
    have rows := Table.update_rows (or_unique_violation_ok updated)
    refine .inr ⟨connection, held, id, user, by simpa using notLeased, ?_⟩
    cases operationalChange with
    | true =>
      cases rest
      refine ⟨fun _ bound => notBound ⟨rfl, bound⟩, rfl, rows, ?_, ?_⟩
      · exact revoked_others { db with connections } _ _ _
      · intro isFalse
        cases isFalse
    | false =>
      refine ⟨(fun isTrue => by cases isTrue), ?_⟩
      cases named : patch.name.isSome with
      | false =>
        rw [named] at rest
        cases rest
        exact ⟨rfl, rows, rfl, fun _ _ => rfl⟩
      | true =>
        rw [named] at rest
        cases rest
        refine ⟨rfl, rows, ?_, ?_⟩
        · apply Table.filter_rewritten_others
          intro target chosen
          simp only [Bool.and_eq_true, beq_iff_eq] at chosen
          simp [chosen.1]
        · intro _ _
          apply Table.map_rewritten_same
          intro target there chosen
          exact ⟨rfl, rfl⟩

theorem update_connection_step {patch : ConnectionPatch}
    {operationalChange : Bool} {rotated : Option RotatedCredentials}
    (returned : updateInfrastructureConnection userId connectionId expectedRevision patch
      operationalChange rotated db = .ok next) : ConnectionStep connectionId db next := by
  obtain unchanged | ⟨connection, held, rfl, rfl, notLeased, notBound, agents, rows, targets,
    evidence⟩ := update_connection_ok returned
  · rw [unchanged]
    exact unchanged_step kept connectionId
  refine edited_step kept held (connection.patched patch operationalChange rotated) rfl rfl notLeased
    rfl agents rows targets ?_
  cases operationalChange with
  | true =>
    -- No agent is bound at all.
    right
    intro agent there bound
    exfalso
    have checked := (kept.sound agent there).checked
    exact notBound rfl ⟨agent, there, bound_owner held checked (kept.bound agent there) bound,
      (bound_alive checked bound).2⟩
  | false =>
    left
    have revisions : (next.connections.rows.filter fun row => row.id == connection.id).map
        Connection.revision =
          (db.connections.rows.filter fun row => row.id == connection.id).map
            Connection.revision := by
      rw [rows]
      apply Table.map_rewritten_same
      intro row there chosen
      have same := same_connection there held (by simpa using chosen)
      subst same
      exact ⟨by simp [Connection.patched], rfl⟩
    unfold Database.readiness
    rw [revisions, evidence rfl]

theorem delete_connection_step {answer : ConnectionDeleteAnswer}
    (returned : deleteInfrastructureConnection userId connectionId db = .ok (answer, next)) :
    ConnectionStep connectionId db next := by
  unfold deleteInfrastructureConnection at returned
  cases search : db.connections.find? (fun connection =>
      connection.id == connectionId && connection.userId == userId) with
  | none =>
    rw [search] at returned
    cases returned
    exact unchanged_step kept connectionId
  | some connection =>
    rw [search] at returned
    dsimp only at returned
    split at returned
    · cases returned
      exact unchanged_step kept connectionId
    have ⟨_, unbound, rest⟩ := bind_ok returned
    have unbound := refuse_if_ok unbound
    cases rest
    have noneBound : ∀ agent ∈ db.agents, ¬agent.isBoundTo connectionId := by
      intro agent there bound
      obtain ⟨binding, isBound, names⟩ := bound
      exact unbound ⟨agent, there, by simp [isBound, names]⟩
    have gone : ∀ later, later ∈ keepRows db.connections (fun row => row.id != connectionId) →
        later.id ≠ connectionId := by
      intro later there
      have kept := (List.mem_filter.mp there).2
      simpa using kept
    constructor
    · rfl
    · constructor
      · exact List.filter_filter.trans (List.filter_congr fun row _ => Bool.and_self _)
      · exact List.filter_filter.trans (List.filter_congr fun row _ => Bool.and_self _)
    · intro ⟨agent, there, bound⟩
      exact absurd bound (noneBound agent there)
    · intro later there id
      exact absurd id (gone later there)
    · intro later there id
      exact absurd id (gone later there)
    · right
      left
      intro agent there bound
      exact absurd bound (noneBound agent there)

theorem create_connection_step {input : ConnectionInput}
    (returned : createInfrastructureConnection userId input moment db = .ok next) :
    ConnectionStep moment.newId db next := by
  have ⟨_, _, rest⟩ := bind_ok returned
  have ⟨connections, inserted, rest⟩ := bind_ok rest
  cases rest
  have inserted := or_unique_violation_ok inserted
  have fresh : ∀ row ∈ db.connections, row.id ≠ moment.newId := by
    intro row held same
    apply Table.insert_apart inserted held (.id row.id) row.entries_id
    rw [same]
    exact List.mem_cons_self
  have noneBound : ∀ agent ∈ db.agents, ¬agent.isBoundTo moment.newId := by
    intro agent there bound
    obtain ⟨binding, isBound, names⟩ := bound
    obtain ⟨connection, held, id, _⟩ := kept.bound agent there binding isBound
    exact fresh connection held (id.trans names)
  constructor
  · rfl
  · constructor
    · rw [Table.insert_rows inserted, List.filter_append]
      simp
    · rfl
  · intro _ connection held id
    exact absurd id (fresh connection held)
  · intro later there id isSome
    cases (Table.mem_insert inserted).mp there with
    | inl old => exact absurd id (fresh later old)
    | inr new =>
      rw [new] at isSome
      cases isSome
  · intro later there id
    cases (Table.mem_insert inserted).mp there with
    | inl old => exact absurd id (fresh later old)
    | inr new => rw [new]
  · right
    left
    intro agent there bound
    exact absurd bound (noneBound agent there)

end

end Calls

end Hivra.AgentAuthority
