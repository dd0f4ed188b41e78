import Hivra.AgentAuthority.AuthoritySteps

/-!
# Delete intent and operation leases

An operation that a row holds is ended before another begins, and only the calls that
name it end it.  Once a delete was requested the row stays wanted deleted, nothing
claims it, and its status changes to deleted only.
-/

namespace Hivra.AgentAuthority

open Hivra.Library
open Hivra.AgentNetwork (Uuid Raised)

structure AgentFollows (call : AuthorityCall) (old new : Agent) : Prop where
  id : new.id = old.id
  /-- A held operation is kept or cleared, not replaced. -/
  exclusive : ∀ held, old.operationId? = some held →
    new.operationId? = some held ∨ new.operationId? = none
  /-- A result changes the row only while its operation is the row's. -/
  result : ∀ userId agentId operationId result,
    call = .result userId agentId operationId result → new ≠ old →
      old.operationId? = some operationId
  /-- A claim changes a row only when it is idle. -/
  claim : ∀ userId agentId operationId operationKind desiredState payload,
    call = .claim userId agentId operationId operationKind desiredState payload → new ≠ old →
      old.operationId? = none ∧ new.operationId? = operationId
  /-- A request to delete takes an idle row, and of a held one sets what is wanted. -/
  request : ∀ userId agentId operationId,
    call = .requestDelete userId agentId operationId → new ≠ old →
      old.operationId? = none ∧ new.operationId? = operationId ∨
        new = { old with desiredState := .deleted }
  intent : old.desiredState = .deleted →
    new.desiredState = .deleted ∧ (new.status = old.status ∨ new.status = .deleted)

variable {agentId operationId : Uuid} {userId : String} {call : AuthorityCall}

theorem agent_follows_refl (call : AuthorityCall) (agent : Agent) : AgentFollows call agent agent where
  id := rfl
  exclusive := fun _ held => .inl held
  result := fun _ _ _ _ _ changed => absurd rfl changed
  claim := fun _ _ _ _ _ _ _ changed => absurd rfl changed
  request := fun _ _ _ _ changed => absurd rfl changed
  intent := fun wanted => ⟨wanted, .inl rfl⟩

section Rows

variable {db next : Database} {old new : Agent}

theorem written_follows (written : RowWritten db next old new)
    (follows : AgentFollows call old new) {row : Agent} (there : row ∈ db.agents) :
    ∃ later ∈ next.agents, AgentFollows call row later := by
  by_cases here : row.id = old.id
  · have same := same_agent there written.held here
    subst same
    exact ⟨new, new_written written, follows⟩
  · exact ⟨row, other_written written there here, agent_follows_refl call row⟩

theorem claimed_follows
    {operationKind : OperationKind} {desiredState : DesiredState} {payload : Option Json}
    (claimed : Claimed db operationId old new) :
    AgentFollows (.claim userId agentId (some operationId) operationKind desiredState payload)
      old new := by
  have idle : old.operationId? = none := by
    unfold Agent.operationId?
    rw [claimed.idle, Option.map_none]
  have ⟨id, _, _, _, taken⟩ := claimed_same claimed
  constructor
  · exact id
  · intro held isHeld
    rw [idle] at isHeld
    cases isHeld
  · intro _ _ _ _ isCall
    cases isCall
  · intro _ _ _ _ _ _ isCall _
    cases isCall
    exact ⟨idle, taken⟩
  · intro _ _ _ isCall
    cases isCall
  · intro wanted
    exact absurd wanted claimed.wanted

theorem requested_follows (requested : DeleteRequested operationId old new) :
    AgentFollows (.requestDelete userId agentId (some operationId)) old new := by
  have ⟨id, _, _, status, desired⟩ := requested_same requested
  obtain ⟨operation, rfl, busy | idle⟩ := requested.written
  · obtain ⟨_, rfl⟩ := busy
    constructor
    · exact id
    · intro held isHeld
      exact .inl isHeld
    · intro _ _ _ _ isCall
      cases isCall
    · intro _ _ _ _ _ _ isCall
      cases isCall
    · intro _ _ _ isCall _
      exact .inr rfl
    · intro _
      exact ⟨desired, .inl status⟩
  · have isIdle : old.operationId? = none := by
      unfold Agent.operationId?
      rw [idle.1, Option.map_none]
    constructor
    · exact id
    · intro held isHeld
      rw [isIdle] at isHeld
      cases isHeld
    · intro _ _ _ _ isCall
      cases isCall
    · intro _ _ _ _ _ _ isCall
      cases isCall
    · intro _ _ _ isCall _
      cases isCall
      exact .inl ⟨isIdle, idle.2⟩
    · intro _
      exact ⟨desired, .inl status⟩

theorem resulted_follows {result : ResultCall} (resulted : Resulted operationId old new) :
    AgentFollows (.result userId agentId operationId result) old new := by
  constructor
  · exact resulted.id
  · intro held isHeld
    rw [resulted.held] at isHeld
    cases isHeld
    apply resulted.operation.imp id
    intro cleared
    unfold Agent.operationId?
    rw [cleared, Option.map_none]
  · intro _ _ _ _ isCall _
    cases isCall
    exact resulted.held
  · intro _ _ _ _ _ _ isCall
    cases isCall
  · intro _ _ _ isCall
    cases isCall
  · exact resulted.intent

theorem effect_follows (effect : StepEffect call db next) {row : Agent}
    (there : row ∈ db.agents) : ∃ later ∈ next.agents, AgentFollows call row later := by
  cases effect with
  | same unchanged =>
    rw [unchanged]
    exact ⟨row, there, agent_follows_refl call row⟩
  | launched launch new isCall launched =>
    exact ⟨row, (mem_launched launched).mpr (.inl there), agent_follows_refl call row⟩
  | claimed _ _ _ _ _ _ isCall old new written names claimed =>
    rw [isCall]
    exact written_follows written (claimed_follows claimed) there
  | deleteRequested _ _ _ isCall old new written names requested =>
    rw [isCall]
    exact written_follows written (requested_follows requested) there
  | resulted _ _ _ result isCall old new written names resulted =>
    rw [isCall]
    exact written_follows written (resulted_follows resulted) there
  | connection connectionId stepped =>
    rw [stepped.agents]
    exact ⟨row, there, agent_follows_refl call row⟩

end Rows

def WantedDeleted (agentId : Uuid) (db : Database) : Prop :=
  ∃ row ∈ db.agents, row.id = agentId ∧ row.desiredState = .deleted

/-- What holds of an agent whose delete was requested: nothing claims it, no worker's
checkpoint passes, and its status changes to deleted only. -/
structure DeleteFinal (agentId : Uuid) (db : Database) : Prop where
  wanted : WantedDeleted agentId db
  noClaim : ∀ userId operationId operationKind desiredState payload moment next,
    claimHivraAgentOperation userId agentId operationId operationKind desiredState payload moment
      db ≠ .ok (true, next)
  noCheckpoint : ∀ userId operationId (expected : ExpectedState),
    checkpointHivraAgentOperation userId agentId operationId expected.state db = false
  status : ∀ event : AuthorityEvent, ∀ row ∈ db.agents, row.id = agentId →
    ∃ later ∈ (db.step event).agents, later.id = agentId ∧
      (later.status = row.status ∨ later.status = .deleted)

section Final

variable {db next : Database} {agentId : Uuid}

theorem wanted_follows (effect : StepEffect call db next)
    (wanted : WantedDeleted agentId db) : WantedDeleted agentId next := by
  obtain ⟨row, there, id, desired⟩ := wanted
  have ⟨later, laterThere, follows⟩ := effect_follows effect there
  exact ⟨later, laterThere, follows.id.trans id, (follows.intent desired).1⟩

theorem wanted_unique (wanted : WantedDeleted agentId db) {row : Agent} (there : row ∈ db.agents)
    (id : row.id = agentId) : row.desiredState = .deleted := by
  obtain ⟨other, otherThere, otherId, desired⟩ := wanted
  rw [same_agent there otherThere (id.trans otherId.symm)]
  exact desired

theorem wanted_final (kept : AuthorityKept db) (wanted : WantedDeleted agentId db) :
    DeleteFinal agentId db := by
  constructor
  · exact wanted
  · intro userId operationId operationKind desiredState payload moment next returned
    obtain ⟨impossible, _⟩ | ⟨_, _, old, new, written, id, _, claimed⟩ := claim_ok returned
    · cases impossible
    · exact claimed.wanted (wanted_unique wanted written.held id)
  · intro userId operationId expected
    rw [Bool.eq_false_iff]
    intro passes
    unfold checkpointHivraAgentOperation at passes
    simp only [List.any_eq_true, Bool.and_eq_true, beq_iff_eq] at passes
    obtain ⟨row, there, ⟨⟨⟨id, _⟩, _⟩, isExpected⟩, _⟩ := passes
    exact expected.notDeleted (isExpected.symm.trans (wanted_unique wanted there id))
  · intro event row there id
    have ⟨later, laterThere, follows⟩ := effect_follows (step_effect kept event) there
    exact ⟨later, laterThere, follows.id.trans id,
      (follows.intent (wanted_unique wanted there id)).2⟩

theorem requested_wanted (kept : AuthorityKept db) {operationId : Option Uuid}
    {moment : Moment} {answer : DeleteAnswer}
    (returned : requestHivraAgentDelete userId agentId operationId moment db = .ok (answer, next))
    (found : answer ≠ .notFound) : WantedDeleted agentId next := by
  obtain ⟨unchanged, missing | gone⟩ | ⟨_, _, old, new, written, id, _, requested⟩ :=
    request_delete_ok returned
  · exact absurd missing found
  · obtain ⟨_, row, there, id, status⟩ := gone
    rw [unchanged]
    exact ⟨row, there, id, (kept.sound row there).gone status⟩
  · have ⟨sameId, _, _, _, desired⟩ := requested_same requested
    exact ⟨new, new_written written, sameId.trans id, desired⟩

theorem final_after (kept : AuthorityKept db) (wanted : WantedDeleted agentId db)
    (later : List AuthorityEvent) : DeleteFinal agentId (db.after later) := by
  have ⟨keptAfter, wantedAfter⟩ : AuthorityKept (db.after later) ∧
      WantedDeleted agentId (db.after later) := by
    apply @fold_keeps _ _ Database.step (fun db => AuthorityKept db ∧ WantedDeleted agentId db) _
      later ⟨kept, wanted⟩
    intro db event ⟨kept, wanted⟩
    have effect := step_effect kept event
    exact ⟨effect_kept kept effect, wanted_follows effect wanted⟩
  exact wanted_final keptAfter wantedAfter

end Final

/-- In every state a run reaches, operations are exclusive and delete intent is final. -/
theorem delete_intent_is_final (history : List AuthorityEvent) :
    (∀ event : AuthorityEvent, ∀ old ∈ (Database.empty.after history).agents,
        ∃ new ∈ ((Database.empty.after history).step event).agents,
          AgentFollows event.call old new) ∧
      ∀ userId agentId operationId moment answer next,
        requestHivraAgentDelete userId agentId operationId moment (Database.empty.after history) =
            .ok (answer, next) →
          answer ≠ .notFound → ∀ later, DeleteFinal agentId (next.after later) := by
  have kept := reached_kept history
  constructor
  · intro event old there
    exact effect_follows (step_effect kept event) there
  · intro userId agentId operationId moment answer next returned found later
    have called : (AuthorityCall.requestDelete userId agentId operationId).run moment
        (Database.empty.after history) = .ok next := by
      change (requestHivraAgentDelete userId agentId operationId moment
        (Database.empty.after history)).map Prod.snd = .ok next
      rw [returned]
      rfl
    exact final_after (effect_kept kept (run_effect kept called))
      (requested_wanted kept returned found) later

end Hivra.AgentAuthority
