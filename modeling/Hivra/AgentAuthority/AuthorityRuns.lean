import Hivra.AgentAuthority.ConnectionFunctions
import Hivra.Library.FollowedRows

/-!
# Runs of agents and connections

One call after another changes the database; a call that raises leaves it as it was.
A call on an agent changes one row at most, and what it may make of the row is said
once here: for a claim, for a request to delete, and for the results that name the
operation they end.
-/

namespace Hivra.AgentAuthority

open Hivra.Library
open Hivra.AgentNetwork (Uuid Raised raise refuseIf orUniqueViolation raise_ne_ok refuse_if_ok
  or_unique_violation_ok bind_ok)

structure ExpectedState where
  state : DesiredState
  notDeleted : state ≠ .deleted

inductive ResultCall
  | recover (expectedOperationStartedAt recoveredAt : Option Int)
  | persistIdentity (vmid : Option Int) (ip : Option String)
  | complete (expected : ExpectedState) (status : AgentStatus) (cpu : Option Rat) (ram : Option Int)
  | proceed (expected : ExpectedState) (status : AgentStatus) (cpu : Option Rat) (ram : Option Int)
  | completeRunning (operationKind : OperationKind) (chatUrl ip apiToken : Option String)
      (provisionedAt : Option Int)
  | release (error : Option String) (markError : Bool)
  | recordFailure (error : Option String)
  | completeDelete

inductive AuthorityCall
  | launch (launch : Launch)
  | claim (userId : String) (agentId : Uuid) (operationId : Option Uuid)
      (operationKind : OperationKind) (desiredState : DesiredState) (operationPayload : Option Json)
  | requestDelete (userId : String) (agentId : Uuid) (operationId : Option Uuid)
  | result (userId : String) (agentId operationId : Uuid) (call : ResultCall)
  | createConnection (userId : String) (input : ConnectionInput)
  | updateConnection (userId : String) (connectionId : Uuid) (expectedRevision : Nat)
      (patch : ConnectionPatch) (operationalChange : Bool) (rotated : Option RotatedCredentials)
  | deleteConnection (userId : String) (connectionId : Uuid)
  | beginPreparation (userId : String) (connectionId : Uuid) (expectedRevision : Nat)
      (runId : Uuid) (startedAt : Int)
  | beginPreflight (userId : String) (connectionId : Uuid) (expectedRevision : Nat)
      (runId : Uuid) (startedAt : Int)
  | completePreflight (userId : String) (connectionId : Uuid) (expectedRevision : Nat)
      (runId : Uuid) (connectionStatus : ConnectionStatus) (checkedAt : Option Int)
      (lastErrorCode : Option String) (target : Option FoundTarget)
  | invalidatePreflight (userId : String) (connectionId : Uuid) (expectedRevision : Nat)
      (checkedAt : Option Int) (lastErrorCode : Option String)
  | recoverExpiredRun (userId : String) (connectionId : Uuid) (expectedRevision : Nat)
      (expectedRunId : Uuid) (recoveredAt : Int)

def ResultCall.run (userId : String) (agentId operationId : Uuid) (moment : Moment)
    (db : Database) : ResultCall → Except Raised (Bool × Database)
  | .recover expectedOperationStartedAt recoveredAt =>
    claimHivraAgentOperationRecovery userId agentId operationId expectedOperationStartedAt
      recoveredAt moment db
  | .persistIdentity vmid ip =>
    persistHivraAgentProvisionIdentity userId agentId operationId vmid ip moment db
  | .complete expected status cpu ram =>
    completeHivraAgentOperation userId agentId operationId expected.state status cpu ram moment db
  | .proceed expected status cpu ram =>
    continueHivraAgentOperation userId agentId operationId expected.state status cpu ram moment db
  | .completeRunning operationKind chatUrl ip apiToken provisionedAt =>
    completeHivraAgentRunning userId agentId operationId operationKind chatUrl ip apiToken
      provisionedAt moment db
  | .release error markError =>
    releaseHivraAgentOperation userId agentId operationId error markError moment db
  | .recordFailure error =>
    recordHivraAgentOperationFailure userId agentId operationId error moment db
  | .completeDelete => completeHivraAgentDelete userId agentId operationId moment db

def AuthorityCall.run (moment : Moment) (db : Database) : AuthorityCall → Except Raised Database
  | .launch input => launchAgent input moment db
  | .claim userId agentId operationId operationKind desiredState operationPayload =>
    (claimHivraAgentOperation userId agentId operationId operationKind desiredState
      operationPayload moment db).map Prod.snd
  | .requestDelete userId agentId operationId =>
    (requestHivraAgentDelete userId agentId operationId moment db).map Prod.snd
  | .result userId agentId operationId call =>
    (call.run userId agentId operationId moment db).map Prod.snd
  | .createConnection userId input => createInfrastructureConnection userId input moment db
  | .updateConnection userId connectionId expectedRevision patch operationalChange rotated =>
    updateInfrastructureConnection userId connectionId expectedRevision patch operationalChange
      rotated db
  | .deleteConnection userId connectionId =>
    (deleteInfrastructureConnection userId connectionId db).map Prod.snd
  | .beginPreparation userId connectionId expectedRevision runId startedAt =>
    .ok (beginInfrastructureConnectionPreparation userId connectionId expectedRevision runId
      startedAt db).2
  | .beginPreflight userId connectionId expectedRevision runId startedAt =>
    .ok (beginInfrastructureConnectionPreflight userId connectionId expectedRevision runId
      startedAt db).2
  | .completePreflight userId connectionId expectedRevision runId connectionStatus checkedAt
      lastErrorCode target =>
      (completeInfrastructureConnectionPreflight userId connectionId expectedRevision runId
        connectionStatus checkedAt lastErrorCode target moment db).map Prod.snd
  | .invalidatePreflight userId connectionId expectedRevision checkedAt lastErrorCode =>
    .ok (invalidateInfrastructureConnectionPreflight userId connectionId expectedRevision
      checkedAt lastErrorCode db).2
  | .recoverExpiredRun userId connectionId expectedRevision expectedRunId recoveredAt =>
    .ok (recoverExpiredInfrastructureConnectionRun userId connectionId expectedRevision
      expectedRunId recoveredAt db).2

structure AuthorityEvent where
  moment : Moment
  call : AuthorityCall

def Database.step (db : Database) (event : AuthorityEvent) : Database :=
  match event.call.run event.moment db with
  | .ok next => next
  | .error _ => db

def Database.after (db : Database) (history : List AuthorityEvent) : Database :=
  history.foldl Database.step db

theorem after_append (db : Database) (early late : List AuthorityEvent) :
    db.after (early ++ late) = (db.after early).after late :=
  List.foldl_append

theorem map_snd_ok {Answer : Type} {returned : Except Raised (Answer × Database)} {next : Database}
    (done : returned.map Prod.snd = .ok next) : ∃ answer, returned = .ok (answer, next) := by
  cases returned with
  | error raised => cases done
  | ok pair =>
    cases done
    exact ⟨pair.1, rfl⟩

structure RowWritten (db next : Database) (old new : Agent) : Prop where
  held : old ∈ db.agents
  agents : next.agents.rows = db.agents.rows.map fun row => if row.id == old.id then new else row
  connections : next.connections = db.connections
  targets : next.targets = db.targets
  checked : new.checked = true

inductive RowStep (changes : Agent → Agent → Prop) (db next : Database) : Prop
  | same (unchanged : next = db)
  | row (old new : Agent) (written : RowWritten db next old new) (change : changes old new)

theorem row_step_imp {changes weaker : Agent → Agent → Prop} {db next : Database}
    (implies : ∀ old new, changes old new → weaker old new) (step : RowStep changes db next) :
    RowStep weaker db next := by
  cases step with
  | same unchanged => exact .same unchanged
  | row old new written change => exact .row old new written (implies _ _ change)

section Update

variable {db next : Database} {userId : String} {agentId : Uuid} {moment : Moment}
variable {selected : Agent → Bool} {columns : Columns} {change : Agent → Agent} {found : Bool}

structure Updated (userId : String) (agentId : Uuid) (moment : Moment) (selected : Agent → Bool)
    (columns : Columns) (change : Agent → Agent) (db : Database) (old new : Agent) : Prop where
  id : old.id = agentId
  user : old.userId = userId
  chosen : selected old = true
  triggers : beforeUpdate db moment columns old (change old) = .ok new

theorem update_found_row {old : Agent} (search : db.agents.find? (fun row =>
      row.id == agentId && row.userId == userId && selected row) = some old)
    (returned : db.updateAgent userId agentId moment selected columns change = .ok (found, next)) :
    found = true ∧ ∃ new, RowWritten db next old new ∧
      Updated userId agentId moment selected columns change db old new := by
  unfold Database.updateAgent at returned
  rw [search] at returned
  have ⟨new, triggers, rest⟩ := bind_ok returned
  have ⟨_, checks, rest⟩ := bind_ok rest
  have ⟨agents, written, rest⟩ := bind_ok rest
  cases rest
  have ⟨held, chosen⟩ := Table.find_mem search
  simp only [Bool.and_eq_true, beq_iff_eq] at chosen
  obtain ⟨⟨isAgent, isUser⟩, chosen⟩ := chosen
  refine ⟨rfl, new, ?_, isAgent, isUser, chosen, triggers⟩
  constructor
  · exact held
  · rw [isAgent]
    exact Table.update_rows (or_unique_violation_ok written)
  · rfl
  · rfl
  · simpa using refuse_if_ok checks

theorem update_agent_step
    (returned : db.updateAgent userId agentId moment selected columns change = .ok (found, next)) :
    RowStep (Updated userId agentId moment selected columns change db) db next := by
  cases search : db.agents.find?
      (fun row => row.id == agentId && row.userId == userId && selected row) with
  | none =>
    unfold Database.updateAgent at returned
    rw [search] at returned
    cases returned
    exact .same rfl
  | some old =>
    have ⟨_, new, written, updated⟩ := update_found_row search returned
    exact .row old new written updated

theorem update_read_row {agent : Agent}
    (search : db.agents.find? (fun row => row.id == agentId && row.userId == userId) = some agent)
    (returned : db.updateAgent userId agentId moment (fun _ => true) columns change =
      .ok (found, next)) :
    ∃ new, RowWritten db next agent new ∧
      Updated userId agentId moment (fun _ => true) columns change db agent new := by
  have whole : db.agents.find? (fun row => row.id == agentId && row.userId == userId && true) =
      some agent := by
    simpa using search
  exact (update_found_row whole returned).2

end Update

variable {old changed new : Agent}

theorem clears_operation {db : Database} {moment : Moment} (held : old.operation.isSome = true)
    (clears : changed.operation = none)
    (triggers : beforeUpdate db moment .status old changed = .ok new) : new = changed := by
  have ⟨normalized, compatible, rest⟩ := bind_ok triggers
  have ⟨_, _, rest⟩ := bind_ok rest
  cases rest
  unfold normalizeOperationCompatibility at compatible
  cases operation : old.operation with
  | none =>
    rw [operation] at held
    cases held
  | some held =>
    simp only [operation, clears, keepsOperation] at compatible
    simpa using compatible.symm

/-- An update that keeps a held operation keeps what it sets, or ends the operation
with a host's result; a result that is not a deletion is refused after a request to
delete. -/
theorem keeps_operation {db : Database} {moment : Moment} (held : old.operation.isSome = true)
    (triggers : beforeUpdate db moment .status old changed = .ok new) :
    (new = changed ∧ ¬(old.deploymentMode = .hivraManaged ∧
        keepsOperation old.operation changed.operation = true ∧
        changed.status.isResult = true)) ∨
      (old.desiredState = .deleted → changed.status = .deleted) ∧
        new =
          { changed with
            desiredState := if changed.status = .deleted then .deleted else changed.desiredState
            operation := none } := by
  have ⟨normalized, compatible, rest⟩ := bind_ok triggers
  have ⟨_, _, rest⟩ := bind_ok rest
  cases rest
  have notIdle : old.operation.isNone ≠ true := by
    cases operation : old.operation with
    | none =>
      rw [operation] at held
      cases held
    | some held => simp
  simp only [normalizeOperationCompatibility] at compatible
  rw [if_neg (fun idle => notIdle idle.2.1)] at compatible
  by_cases ends : old.deploymentMode = .hivraManaged ∧
      keepsOperation old.operation changed.operation = true ∧ changed.status.isResult = true
  · rw [if_pos ends] at compatible
    by_cases superseded : old.desiredState = .deleted ∧ changed.status ≠ .deleted
    · rw [if_pos superseded] at compatible
      exact absurd compatible raise_ne_ok
    · rw [if_neg superseded] at compatible
      cases compatible
      right
      constructor
      · intro wanted
        by_contra other
        exact superseded ⟨wanted, other⟩
      · rfl
  · rw [if_neg ends] at compatible
    cases compatible
    exact .inl ⟨rfl, ends⟩

def Agent.operationId? (agent : Agent) : Option Uuid :=
  agent.operation.map Operation.id

structure AgentSound (agent : Agent) : Prop where
  checked : agent.checked = true
  gone : agent.status = .deleted → agent.desiredState = .deleted

structure Claimed (db : Database) (operationId : Uuid) (old new : Agent) : Prop where
  alive : old.status ≠ .deleted
  wanted : old.desiredState ≠ .deleted
  idle : old.operation = none
  carries : old.deploymentMode = .selfManaged → db.carriesBinding old = true
  written : ∃ desiredState operation, desiredState ≠ DesiredState.deleted ∧
    operation.id = operationId ∧ new = { old with desiredState, operation := some operation }

structure DeleteRequested (operationId : Uuid) (old new : Agent) : Prop where
  alive : old.status ≠ .deleted
  written : ∃ operation, new = { old with desiredState := .deleted, operation } ∧
    (old.operation.isSome = true ∧ operation = old.operation ∨
      old.operation = none ∧ operation.map Operation.id = some operationId)

structure Resulted (operationId : Uuid) (old new : Agent) : Prop where
  id : new.id = old.id
  userId : new.userId = old.userId
  deploymentMode : new.deploymentMode = old.deploymentMode
  held : old.operationId? = some operationId
  operation : new.operationId? = some operationId ∨ new.operation = none
  binding : new.binding = old.binding ∨ new.binding = none ∧ new.operation = none
  intent : old.desiredState = .deleted →
    new.desiredState = .deleted ∧ (new.status = old.status ∨ new.status = .deleted)
  gone : AgentSound old → new.status = .deleted → new.desiredState = .deleted

section Specs

variable {db next : Database} {userId : String} {agentId operationId : Uuid} {moment : Moment}

variable {agent : Agent} {more : Operation → Bool}

theorem agent_holds (holds : agent.holds operationId more = true) :
    ∃ operation, agent.operation = some operation ∧ operation.id = operationId ∧
      more operation = true := by
  unfold Agent.holds at holds
  rw [Option.any_eq_true] at holds
  obtain ⟨operation, isOperation, named⟩ := holds
  simp only [Bool.and_eq_true, beq_iff_eq] at named
  exact ⟨operation, isOperation, named⟩

theorem claim_ok {operationId : Option Uuid} {operationKind : OperationKind}
    {desiredState : DesiredState} {operationPayload : Option Json} {claimed : Bool}
    (returned : claimHivraAgentOperation userId agentId operationId operationKind desiredState
      operationPayload moment db = .ok (claimed, next)) :
    claimed = false ∧ next = db ∨
      ∃ operationId', operationId = some operationId' ∧ ∃ old new, RowWritten db next old new ∧
        old.id = agentId ∧ old.userId = userId ∧ Claimed db operationId' old new := by
  unfold claimHivraAgentOperation at returned
  cases operationId with
  | none => exact absurd returned raise_ne_ok
  | some operationId =>
    have ⟨_, allowed, rest⟩ := bind_ok returned
    have ⟨_, _, rest⟩ := bind_ok rest
    have allowed := refuse_if_ok allowed
    cases search : db.agents.find? (fun row => row.id == agentId && row.userId == userId) with
    | none =>
      rw [search] at rest
      cases rest
      exact .inl ⟨rfl, rfl⟩
    | some agent =>
      rw [search] at rest
      dsimp only at rest
      by_cases taken : agent.status = .deleted ∨ agent.desiredState = .deleted ∨
          agent.operation.isSome = true
      · rw [if_pos taken] at rest
        cases rest
        exact .inl ⟨rfl, rfl⟩
      rw [if_neg taken] at rest
      by_cases stale : agent.deploymentMode = .selfManaged ∧ db.carriesBinding agent = false
      · rw [if_pos stale] at rest
        cases rest
        exact .inl ⟨rfl, rfl⟩
      rw [if_neg stale] at rest
      have ⟨new, written, updated⟩ := update_read_row search rest
      push Not at taken stale
      refine .inr ⟨operationId, rfl, agent, new, written, updated.id, updated.user, ?_⟩
      constructor
      · exact taken.1
      · exact taken.2.1
      · simpa using taken.2.2
      · intro selfManaged
        simpa using stale selfManaged
      · cases updated.triggers
        exact ⟨desiredState, _, fun isDeleted => allowed (.inr (.inr isDeleted)), rfl, rfl⟩

theorem request_delete_ok {operationId : Option Uuid} {answer : DeleteAnswer}
    (returned : requestHivraAgentDelete userId agentId operationId moment db =
      .ok (answer, next)) :
    next = db ∧ (answer = .notFound ∨
        answer = .deleted ∧ ∃ old ∈ db.agents, old.id = agentId ∧ old.status = .deleted) ∨
      ∃ operationId', operationId = some operationId' ∧ ∃ old new, RowWritten db next old new ∧
        old.id = agentId ∧ old.userId = userId ∧ DeleteRequested operationId' old new := by
  unfold requestHivraAgentDelete at returned
  cases operationId with
  | none => exact absurd returned raise_ne_ok
  | some operationId =>
    cases search : db.agents.find? (fun row => row.id == agentId && row.userId == userId) with
    | none =>
      rw [search] at returned
      cases returned
      exact .inl ⟨rfl, .inl rfl⟩
    | some agent =>
      rw [search] at returned
      dsimp only at returned
      by_cases gone : agent.status = .deleted
      · rw [if_pos gone] at returned
        cases returned
        have ⟨held, chosen⟩ := Table.find_mem search
        simp only [Bool.and_eq_true, beq_iff_eq] at chosen
        exact .inl ⟨rfl, .inr ⟨rfl, agent, held, chosen.1, gone⟩⟩
      rw [if_neg gone] at returned
      by_cases busy : agent.operation.isSome = true
      · rw [if_pos busy] at returned
        have ⟨pair, wrote, rest⟩ := bind_ok returned
        cases rest
        have ⟨new, written, updated⟩ := update_read_row search wrote
        cases updated.triggers
        exact .inr ⟨operationId, rfl, agent, _, written, updated.id, updated.user, gone, _, rfl,
          .inl ⟨busy, rfl⟩⟩
      · rw [if_neg busy] at returned
        have ⟨pair, wrote, rest⟩ := bind_ok returned
        cases rest
        have ⟨new, written, updated⟩ := update_read_row search wrote
        cases updated.triggers
        exact .inr ⟨operationId, rfl, agent, _, written, updated.id, updated.user, gone, _, rfl,
          .inr ⟨by simpa using busy, rfl⟩⟩

theorem held_some (held : agent.operationId? = some operationId) :
    agent.operation.isSome = true := by
  unfold Agent.operationId? at held
  have ⟨operation, isOperation, _⟩ := Option.map_eq_some_iff.mp held
  rw [isOperation]
  rfl

theorem result_keeps {selected : Agent → Bool} {change : Agent → Agent} {found : Bool}
    (returned : db.updateAgent userId agentId moment selected .other change = .ok (found, next))
    (named : ∀ row, selected row = true → row.operationId? = some operationId)
    (keeps : ∀ row, (change row).id = row.id ∧ (change row).userId = row.userId ∧
      (change row).deploymentMode = row.deploymentMode ∧ (change row).binding = row.binding ∧
      (change row).status = row.status ∧ (change row).desiredState = row.desiredState ∧
      (change row).operationId? = row.operationId?) :
    RowStep (fun old new => old.id = agentId ∧ Resulted operationId old new) db next := by
  apply row_step_imp _ (update_agent_step returned)
  intro old new updated
  apply And.intro updated.id
  cases updated.triggers
  have ⟨id, user, mode, binding, status, desired, operation⟩ := keeps old
  have held := named old updated.chosen
  constructor
  · exact id
  · exact user
  · exact mode
  · exact held
  · exact .inl (operation.trans held)
  · exact .inl binding
  · intro wanted
    exact ⟨desired.trans wanted, .inl status⟩
  · intro sound isDeleted
    rw [desired]
    exact sound.gone (status.symm.trans isDeleted)

theorem result_ends {selected : Agent → Bool} {change : Agent → Agent} {found : Bool}
    (returned : db.updateAgent userId agentId moment selected .status change = .ok (found, next))
    (named : ∀ row, selected row = true → row.operationId? = some operationId)
    (ends : ∀ row, (change row).id = row.id ∧ (change row).userId = row.userId ∧
      (change row).deploymentMode = row.deploymentMode ∧
      ((change row).binding = row.binding ∨ (change row).binding = none) ∧
      (change row).operation = none)
    (intent : ∀ row, selected row = true → row.desiredState = .deleted →
      (change row).desiredState = .deleted ∧
        ((change row).status = row.status ∨ (change row).status = .deleted))
    (gone : ∀ row, selected row = true → (change row).status = .deleted →
      (change row).desiredState = .deleted ∨
        row.status = .deleted ∧ (change row).desiredState = row.desiredState) :
    RowStep (fun old new => old.id = agentId ∧ Resulted operationId old new) db next := by
  apply row_step_imp _ (update_agent_step returned)
  intro old new updated
  apply And.intro updated.id
  have held := named old updated.chosen
  have ⟨sameId, user, mode, binding, clears⟩ := ends old
  have written := clears_operation (held_some held) clears updated.triggers
  rw [written]
  constructor
  · exact sameId
  · exact user
  · exact mode
  · exact held
  · exact .inr clears
  · exact binding.imp id (fun missing => ⟨missing, clears⟩)
  · exact intent old updated.chosen
  · intro sound isDeleted
    cases gone old updated.chosen isDeleted with
    | inl desired => exact desired
    | inr same => exact same.2.trans (sound.gone same.1)

theorem holds_named (holds : agent.holds operationId more = true) :
    agent.operationId? = some operationId := by
  obtain ⟨operation, isOperation, named, _⟩ := agent_holds holds
  unfold Agent.operationId?
  rw [isOperation, Option.map_some, named]

theorem checked_bound (checked : agent.checked = true)
    (selfManaged : agent.deploymentMode = .selfManaged) :
    agent.binding.isSome = true ↔ agent.status ≠ .deleted := by
  unfold Agent.checked at checked
  rw [selfManaged] at checked
  by_cases gone : agent.status = .deleted
  · simp [gone] at checked
    simp [gone, checked]
  · simp [gone] at checked
    simp [gone, checked]

/-- `continue_hivra_agent_operation` keeps the operation, or a host's result ends it. -/
theorem proceed_ok {expected : ExpectedState} {status : AgentStatus} {cpu : Option Rat}
    {ram : Option Int} {answer : Bool}
    (returned : continueHivraAgentOperation userId agentId operationId expected.state status cpu ram
      moment db = .ok (answer, next)) :
    RowStep (fun old new => old.id = agentId ∧ Resulted operationId old new) db next := by
  cases update_agent_step returned with
  | same unchanged => exact .same unchanged
  | row old new written updated =>
    have chosen := updated.chosen
    simp only [Bool.and_eq_true, beq_iff_eq, bne_iff_ne] at chosen
    obtain ⟨⟨holds, wanted⟩, alive⟩ := chosen
    have held := holds_named holds
    have notDeleted : old.desiredState ≠ .deleted := by
      rw [wanted]
      exact expected.notDeleted
    apply RowStep.row old new written
    apply And.intro updated.id
    obtain ⟨kept, notEnded⟩ | ⟨_, ended⟩ :=
      keeps_operation (held_some held) updated.triggers
    · subst kept
      constructor
      · rfl
      · rfl
      · rfl
      · exact held
      · exact .inl held
      · exact .inl rfl
      · intro isDeleted
        exact absurd isDeleted notDeleted
      · -- A deletion without a binding to release ends a managed row's operation.
        intro sound isDeleted
        exfalso
        cases mode : old.deploymentMode with
        | selfManaged =>
          have bound := (checked_bound sound.checked mode).mpr alive
          exact (checked_bound written.checked mode).mp bound isDeleted
        | hivraManaged =>
          apply notEnded
          obtain ⟨operation, isOperation, _, more⟩ := agent_holds holds
          simp only [Bool.and_eq_true, Bool.or_eq_true, beq_iff_eq] at more
          dsimp only at isDeleted
          refine ⟨mode, ?_, by rw [isDeleted]; rfl⟩
          simp only [isOperation, keepsOperation, beq_self_eq_true, Bool.and_true,
            Bool.or_eq_true, beq_iff_eq]
          obtain (isStart | isRestart) | isResize := more.1
          · exact .inl (.inl (.inr isStart))
          · exact .inl (.inr isRestart)
          · exact .inr isResize
    · subst ended
      constructor
      · rfl
      · rfl
      · rfl
      · exact held
      · exact .inr rfl
      · exact .inl rfl
      · intro isDeleted
        exact absurd isDeleted notDeleted
      · intro _ isDeleted
        dsimp only at isDeleted ⊢
        rw [if_pos isDeleted]

theorem result_ok {call : ResultCall} {answer : Bool}
    (returned : call.run userId agentId operationId moment db = .ok (answer, next)) :
    RowStep (fun old new => old.id = agentId ∧ Resulted operationId old new) db next := by
  cases call with
  | recover expectedOperationStartedAt recoveredAt =>
    change claimHivraAgentOperationRecovery _ _ _ _ _ _ _ = _ at returned
    unfold claimHivraAgentOperationRecovery at returned
    split at returned
    · split at returned
      · cases returned
        exact .same rfl
      · apply result_keeps returned
        · intro row chosen
          rw [Bool.and_eq_true] at chosen
          exact holds_named chosen.1
        · intro row
          refine ⟨rfl, rfl, rfl, rfl, rfl, rfl, ?_⟩
          unfold Agent.operationId?
          cases row.operation <;> rfl
    · cases returned
      exact .same rfl
  | persistIdentity vmid ip =>
    apply result_keeps returned
    · intro row chosen
      simp only [Bool.and_eq_true] at chosen
      exact holds_named chosen.1.1
    · intro row
      exact ⟨rfl, rfl, rfl, rfl, rfl, rfl, rfl⟩
  | complete expected status cpu ram =>
    have ⟨_, allowed, rest⟩ := bind_ok returned
    have allowed := refuse_if_ok allowed
    apply result_ends rest
    · intro row chosen
      simp only [Bool.and_eq_true] at chosen
      exact holds_named chosen.1.1
    · intro row
      exact ⟨rfl, rfl, rfl, .inl rfl, rfl⟩
    · intro row chosen wanted
      simp only [Bool.and_eq_true, beq_iff_eq] at chosen
      exact absurd (chosen.1.2.symm.trans wanted) expected.notDeleted
    · intro row chosen isDeleted
      exact absurd (.inr isDeleted) allowed
  | proceed expected status cpu ram => exact proceed_ok returned
  | completeRunning operationKind chatUrl ip apiToken provisionedAt =>
    have ⟨_, _, rest⟩ := bind_ok returned
    apply result_ends rest
    · intro row chosen
      simp only [Bool.and_eq_true] at chosen
      exact holds_named chosen.1.1
    · intro row
      exact ⟨rfl, rfl, rfl, .inl rfl, rfl⟩
    · intro row chosen wanted
      simp only [Bool.and_eq_true, beq_iff_eq] at chosen
      rw [chosen.1.2] at wanted
      cases wanted
    · intro row chosen isDeleted
      cases isDeleted
  | release error markError =>
    apply result_ends returned
    · intro row chosen
      exact holds_named chosen
    · intro row
      exact ⟨rfl, rfl, rfl, .inl rfl, rfl⟩
    · intro row chosen wanted
      refine ⟨wanted, .inl ?_⟩
      dsimp only
      rw [if_neg (fun marks => marks.2 wanted)]
    · intro row chosen isDeleted
      dsimp only at isDeleted ⊢
      split at isDeleted
      · cases isDeleted
      · exact .inr ⟨isDeleted, rfl⟩
  | recordFailure error =>
    apply result_keeps returned
    · intro row chosen
      exact holds_named chosen
    · intro row
      exact ⟨rfl, rfl, rfl, rfl, rfl, rfl, rfl⟩
  | completeDelete =>
    apply result_ends returned
    · intro row chosen
      simp only [Bool.and_eq_true] at chosen
      exact holds_named chosen.1
    · intro row
      exact ⟨rfl, rfl, rfl, .inr rfl, rfl⟩
    · intro row chosen wanted
      exact ⟨rfl, .inr rfl⟩
    · intro row chosen isDeleted
      exact .inl rfl

structure Launched (db next : Database) (launch : Launch) (new : Agent) : Prop where
  agents : next.agents.rows = db.agents.rows ++ [new]
  connections : next.connections = db.connections
  targets : next.targets = db.targets
  fresh : ∀ row ∈ db.agents, row.id ≠ new.id
  checked : new.checked = true
  authority : enforceDeploymentAuthority db none new = .ok ()
  userId : new.userId = launch.userId
  status : new.status = .provisioning
  desiredState : new.desiredState = .running
  binding : new.binding = launch.binding

theorem launch_ok {launch : Launch} (returned : launchAgent launch moment db = .ok next) :
    ∃ new, Launched db next launch new := by
  have ⟨new, normalized, rest⟩ := bind_ok returned
  have ⟨_, authority, rest⟩ := bind_ok rest
  have ⟨_, checks, rest⟩ := bind_ok rest
  have ⟨agents, inserted, rest⟩ := bind_ok rest
  cases rest
  have inserted := or_unique_violation_ok inserted
  have ⟨user, status, desired, binding⟩ : new.userId = launch.userId ∧ new.status = .provisioning ∧
      new.desiredState = .running ∧ new.binding = launch.binding := by
    simp only [normalizeOperationCompatibility] at normalized
    split at normalized
    · cases normalized
      exact ⟨rfl, rfl, rfl, rfl⟩
    · cases normalized
      exact ⟨rfl, rfl, rfl, rfl⟩
  refine ⟨new, ?_⟩
  constructor
  · exact Table.insert_rows inserted
  · rfl
  · rfl
  · intro row held same
    apply Table.insert_apart inserted held (.id row.id) row.entries_id
    rw [same]
    exact new.entries_id
  · simpa using refuse_if_ok checks
  · exact authority
  · exact user
  · exact status
  · exact desired
  · exact binding

end Specs

end Hivra.AgentAuthority
