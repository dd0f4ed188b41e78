import Hivra.AgentAuthority.DeleteIntent

/-!
# Leases against operations

A connection that is prepared or checked holds a lease, and no bound agent holds an
operation then; so nothing changes the evidence under an operation.  A launch and a
claim look for this at the connection, and a preparation and a preflight at its
agents.  A request to delete an idle agent does not look, so this holds of the runs in
which such requests wait for the lease.
-/

namespace Hivra.AgentAuthority

open Hivra.Library
open Hivra.AgentNetwork (Uuid Raised)

/-- No connection holds a lease while an agent that is bound to it and not deleted holds
an operation. -/
def LeaseExclusive (db : Database) : Prop :=
  ∀ connection ∈ db.connections, connection.lease.isSome = true →
    ∀ agent ∈ db.agents, agent.isBoundTo connection.id → agent.status ≠ .deleted →
      agent.operation = none

def DeleteWaits (db : Database) (call : AuthorityCall) : Prop :=
  ∀ userId agentId operationId, call = .requestDelete userId agentId (some operationId) →
    ∀ agent ∈ db.agents, agent.id = agentId → agent.userId = userId → agent.operation = none →
      ∀ connection ∈ db.connections, agent.isBoundTo connection.id → connection.lease = none

def DeletesWait (db : Database) (history : List AuthorityEvent) : Prop :=
  Meets Database.step (fun db event => DeleteWaits db event.call) db history

section Steps

variable {db next : Database} {call : AuthorityCall}

theorem ready_not_leased (kept : AuthorityKept db) {connection ready : Connection}
    (held : connection ∈ db.connections) (isSome : connection.lease.isSome = true)
    (readyHeld : ready ∈ db.connections) (same : ready.id = connection.id)
    (isReady : ready.status = .ready) : False := by
  have one := same_connection readyHeld held same
  subst one
  rw [kept.checking ready held isSome] at isReady
  cases isReady

theorem carries_ready {agent : Agent} (carries : db.carriesBinding agent = true)
    {connectionId : Uuid} (bound : agent.isBoundTo connectionId) :
    ∃ connection ∈ db.connections, connection.id = connectionId ∧ connection.status = .ready := by
  obtain ⟨binding, isBound, names⟩ := bound
  unfold Database.carriesBinding at carries
  rw [isBound] at carries
  simp only [Bool.and_eq_true, Option.any_eq_true, beq_iff_eq] at carries
  obtain ⟨⟨connection, found, isReady, _⟩, _⟩ := carries
  have ⟨held, chosen⟩ := Table.find_mem found
  simp only [Bool.and_eq_true, beq_iff_eq] at chosen
  exact ⟨connection, held, chosen.1.trans names, isReady⟩

theorem written_exclusive {old new : Agent} (exclusive : LeaseExclusive db)
    (written : RowWritten db next old new)
    (waits : ∀ connection ∈ db.connections, connection.lease.isSome = true →
      new.isBoundTo connection.id → new.operation = none) : LeaseExclusive next := by
  intro connection held isSome agent there bound alive
  rw [written.connections] at held
  cases mem_written written there with
  | inl isNew =>
    subst isNew
    exact waits connection held isSome bound
  | inr other => exact exclusive connection held isSome agent other.1 bound alive

theorem bound_same {left right : Agent} (same : left.binding = right.binding) {connectionId : Uuid}
    (bound : left.isBoundTo connectionId) : right.isBoundTo connectionId := by
  unfold Agent.isBoundTo at bound ⊢
  rw [← same]
  exact bound

theorem effect_exclusive (kept : AuthorityKept db) (exclusive : LeaseExclusive db)
    (waits : DeleteWaits db call) (effect : StepEffect call db next) : LeaseExclusive next := by
  cases effect with
  | same unchanged =>
    rw [unchanged]
    exact exclusive
  | launched launch new isCall launched =>
    intro connection held isSome agent there bound alive
    rw [launched.connections] at held
    cases (mem_launched launched).mp there with
    | inl old => exact exclusive connection held isSome agent old bound alive
    | inr isNew =>
      subst isNew
      obtain ⟨binding, isBound, names⟩ := bound
      have ⟨ready, readyHeld, id, _, isReady, _⟩ :=
        authority_bound launched.checked launched.authority alive isBound
      exact (ready_not_leased kept held isSome readyHeld (id.trans names) isReady).elim
  | claimed _ _ _ _ _ _ isCall old new written names claimed =>
    apply written_exclusive exclusive written
    intro connection held isSome bound
    have ⟨_, _, binding, _⟩ := claimed_same claimed
    have oldBound := bound_same binding bound
    have selfManaged := (bound_alive (kept.sound old written.held).checked oldBound).2
    have ⟨ready, readyHeld, id, isReady⟩ := carries_ready (claimed.carries selfManaged) oldBound
    exact (ready_not_leased kept held isSome readyHeld id isReady).elim
  | deleteRequested userId agentId operationId isCall old new written names requested =>
    apply written_exclusive exclusive written
    intro connection held isSome bound
    have ⟨_, _, binding, _⟩ := requested_same requested
    have oldBound := bound_same binding bound
    obtain ⟨operation, rfl, busy | idle⟩ := requested.written
    · have none := exclusive connection held isSome old written.held oldBound requested.alive
      exact busy.2.trans none
    · have free := waits userId agentId operationId isCall old written.held names.1 names.2 idle.1
        connection held oldBound
      rw [free] at isSome
      cases isSome
  | resulted _ _ operationId result isCall old new written names resulted =>
    apply written_exclusive exclusive written
    intro connection held isSome bound
    cases resulted.binding with
    | inr cleared => exact cleared.2
    | inl binding =>
      have oldBound := bound_same binding bound
      have alive := (bound_alive (kept.sound old written.held).checked oldBound).1
      have none := exclusive connection held isSome old written.held oldBound alive
      have busy := held_some resulted.held
      rw [none] at busy
      cases busy
  | connection connectionId stepped =>
    intro connection held isSome agent there bound alive
    rw [stepped.agents] at there
    by_cases here : connection.id = connectionId
    · rw [here] at bound
      cases (stepped.checking connection held here isSome).2 with
      | inl idle => exact idle agent there bound
      | inr leased =>
        obtain ⟨before, beforeHeld, id, isLeased⟩ := leased
        exact exclusive before beforeHeld isLeased agent there (id ▸ bound) alive
    · exact exclusive connection ((other_connection stepped.others here).mp held) isSome agent
        there bound alive

theorem filter_named_apart {Row : Type} {key : Row → Uuid} {named other : Uuid}
    (apart : named ≠ other) (rows : List Row) : (rows.filter fun row => key row == named) =
      (rows.filter fun row => key row != other).filter fun row => key row == named := by
  rw [List.filter_filter]
  apply List.filter_congr
  intro row _
  by_cases here : key row = named
  · simp [here, apart]
  · simp [here]

theorem other_readiness {connectionId other : Uuid} (others : OthersSame other db next)
    (apart : connectionId ≠ other) : next.readiness connectionId = db.readiness connectionId := by
  have connections := @filter_named_apart _ Connection.id _ _ apart
  have targets := @filter_named_apart _ DeploymentTarget.connectionId _ _ apart
  unfold Database.readiness
  rw [connections next.connections.rows, connections db.connections.rows,
    targets next.targets.rows, targets db.targets.rows, others.connections, others.targets]

theorem effect_ready (exclusive : LeaseExclusive db) (kept : AuthorityKept db)
    (effect : StepEffect call db next) {agent : Agent} (there : agent ∈ db.agents)
    (busy : agent.operation.isSome = true) {connectionId : Uuid}
    (bound : agent.isBoundTo connectionId) :
    next.readiness connectionId = db.readiness connectionId := by
  cases effect with
  | same unchanged => rw [unchanged]
  | launched launch new isCall launched =>
    unfold Database.readiness
    rw [launched.connections, launched.targets]
  | claimed _ _ _ _ _ _ isCall old new written names claimed =>
    unfold Database.readiness
    rw [written.connections, written.targets]
  | deleteRequested _ _ _ isCall old new written names requested =>
    unfold Database.readiness
    rw [written.connections, written.targets]
  | resulted _ _ _ result isCall old new written names resulted =>
    unfold Database.readiness
    rw [written.connections, written.targets]
  | connection changed stepped =>
    by_cases here : connectionId = changed
    · subst here
      have notIdle : agent.operation ≠ none := by
        intro none
        rw [none] at busy
        cases busy
      obtain same | idle | leased := stepped.ready
      · exact same
      · exact absurd (idle agent there bound) notIdle
      · obtain ⟨connection, held, id, isSome⟩ := leased
        have alive := (bound_alive (kept.sound agent there).checked bound).1
        exact absurd (exclusive connection held isSome agent there (id ▸ bound) alive) notIdle
    · exact other_readiness stepped.others here

theorem effect_bound (effect : StepEffect call db next) {agent later : Agent}
    (there : agent ∈ db.agents) (laterThere : later ∈ next.agents) (same : later.id = agent.id)
    (busy : later.operation.isSome = true) {connectionId : Uuid}
    (bound : agent.isBoundTo connectionId) : later.isBoundTo connectionId := by
  have stays : agent ∈ next.agents → later.isBoundTo connectionId := by
    intro kept
    rw [same_agent laterThere kept same]
    exact bound
  have writes : ∀ old new, RowWritten db next old new → new.id = old.id →
      (new.binding = old.binding ∨ new.operation = none) → later.isBoundTo connectionId := by
    intro old new written id binding
    by_cases here : agent.id = old.id
    · have isOld := same_agent there written.held here
      have isNew := same_agent laterThere (new_written written) (same.trans (here.trans id.symm))
      subst isOld isNew
      cases binding with
      | inl sameBinding => exact bound_same sameBinding.symm bound
      | inr none =>
        rw [none] at busy
        cases busy
    · exact stays (other_written written there here)
  cases effect with
  | same unchanged =>
    apply stays
    rw [unchanged]
    exact there
  | launched launch new isCall launched => exact stays ((mem_launched launched).mpr (.inl there))
  | claimed _ _ _ _ _ _ isCall old new written names claimed =>
    have ⟨id, _, binding, _⟩ := claimed_same claimed
    exact writes old new written id (.inl binding)
  | deleteRequested _ _ _ isCall old new written names requested =>
    have ⟨id, _, binding, _⟩ := requested_same requested
    exact writes old new written id (.inl binding)
  | resulted _ _ _ result isCall old new written names resulted =>
    exact writes old new written resulted.id (resulted.binding.imp_right And.right)
  | connection changed stepped =>
    apply stays
    rw [stepped.agents]
    exact there

end Steps

def HeldThrough (agentId operationId : Uuid) (db : Database) : List AuthorityEvent → Prop
  | [] => True
  | event :: rest =>
    (∃ agent ∈ db.agents, agent.id = agentId ∧ agent.operationId? = some operationId) ∧
      HeldThrough agentId operationId (db.step event) rest

theorem run_exclusive (history : List AuthorityEvent) {db : Database} (kept : AuthorityKept db)
    (exclusive : LeaseExclusive db) (waits : DeletesWait db history) :
    LeaseExclusive (db.after history) := by
  have both : AuthorityKept (db.after history) ∧ LeaseExclusive (db.after history) := by
    apply @meets_keeps _ _ Database.step _ (fun db => AuthorityKept db ∧ LeaseExclusive db) _ _
      waits ⟨kept, exclusive⟩
    intro db event wait before
    have effect := step_effect before.1 event
    exact ⟨effect_kept before.1 effect, effect_exclusive before.1 before.2 wait effect⟩
  exact both.2

theorem run_ready (history : List AuthorityEvent) {db : Database} (kept : AuthorityKept db)
    (exclusive : LeaseExclusive db) (waits : DeletesWait db history) {agentId operationId : Uuid}
    (through : HeldThrough agentId operationId db history) {agent : Agent} (there : agent ∈ db.agents)
    (id : agent.id = agentId) {connectionId : Uuid} (bound : agent.isBoundTo connectionId) :
    (db.after history).readiness connectionId = db.readiness connectionId := by
  induction history generalizing db agent with
  | nil => rfl
  | cons event rest ih =>
    obtain ⟨⟨held, heldThere, heldId, busy⟩, through⟩ := through
    have same := same_agent heldThere there (heldId.trans id.symm)
    subst same
    have effect := step_effect kept event
    have ready := effect_ready exclusive kept effect there (held_some busy) bound
    cases rest with
    | nil => exact ready
    | cons following rest =>
      obtain ⟨later, laterThere, laterId, laterBusy⟩ := through.1
      have laterBound := effect_bound effect there laterThere (laterId.trans id.symm)
        (held_some laterBusy) bound
      exact (ih (effect_kept kept effect) (effect_exclusive kept exclusive waits.1 effect)
        waits.2 through laterThere laterId laterBound).trans ready

theorem empty_exclusive : LeaseExclusive .empty :=
  fun _ there => absurd there (Table.not_mem_empty _)

/-- In every run in which requests to delete wait for leases, leases and operations
exclude each other, and from an operation's claim to its release the revision and the
evidence of its connection stay. -/
theorem evidence_is_locked (early late : List AuthorityEvent)
    (waits : DeletesWait .empty (early ++ late)) :
    LeaseExclusive (Database.empty.after (early ++ late)) ∧
      ∀ agent ∈ (Database.empty.after early).agents, ∀ operationId connectionId,
        HeldThrough agent.id operationId (Database.empty.after early) late →
          agent.isBoundTo connectionId →
            (Database.empty.after (early ++ late)).readiness connectionId =
              (Database.empty.after early).readiness connectionId := by
  have ⟨earlyWaits, lateWaits⟩ := meets_append waits
  have kept := reached_kept early
  constructor
  · exact run_exclusive (early ++ late) kept_empty empty_exclusive waits
  · intro agent there operationId connectionId through bound
    rw [after_append]
    exact run_ready late kept (run_exclusive early kept_empty empty_exclusive earlyWaits) lateWaits
      through there rfl bound

def connectionId : Uuid := ⟨"00000000-0000-4000-8000-000000000010", by decide +kernel⟩

def targetId : Uuid := ⟨"00000000-0000-4000-8000-000000000020", by decide +kernel⟩

def agentId : Uuid := ⟨"00000000-0000-4000-8000-000000000030", by decide +kernel⟩

def firstId : Uuid := ⟨"00000000-0000-4000-8000-000000000001", by decide +kernel⟩

def secondId : Uuid := ⟨"00000000-0000-4000-8000-000000000002", by decide +kernel⟩

def provisionId : Uuid := ⟨"00000000-0000-4000-8000-000000000003", by decide +kernel⟩

def eventAt (now : Int) (newId : Uuid) (call : AuthorityCall) : AuthorityEvent :=
  { moment := { now, newId }, call }

def homeServer : ConnectionInput :=
  { name := "home"
    setupMode := .simple
    sshHost := "203.0.113.7"
    sshPort := 22
    sshUser := "root"
    sshHostFingerprintSha256 := String.ofList (List.replicate 64 'a')
    config := none
    encryptedBundle := "bundle"
    keyVersion := 1 }

def readyNode : FoundTarget :=
  { externalId := "pve"
    status := .ready
    capacity := none
    capabilities := some (.object [("launchReady", .bool true)])
    supportedIsolationDrivers := some ["proxmox-kvm"]
    isolationClass := some .hardwareVm
    lastErrorCode := none }

def homeLaunch : Launch :=
  { id := agentId
    userId := "bob"
    deploymentMode := .selfManaged
    proxmoxHost := noAmbientAuthority
    cpu := 2
    ram := 4
    operation := some (provisionId, none)
    allocationOperationId := none
    infrastructureBindingTokenEnforced := true
    binding := some { connectionId, targetId, revision := 1 } }

def launchHistory : List AuthorityEvent :=
  [eventAt 0 connectionId (.createConnection "bob" homeServer),
    eventAt 1 targetId (.beginPreflight "bob" connectionId 1 firstId 1),
    eventAt 2 targetId
      (.completePreflight "bob" connectionId 1 firstId .ready (some 2) none (some readyNode)),
    eventAt 3 targetId (.launch homeLaunch)]

/-- The provider has created the agent, its connection is checked again, and its owner
deletes it meanwhile. -/
def deleteHistory : List AuthorityEvent :=
  launchHistory ++
    [eventAt 4 targetId
        (.result "bob" agentId provisionId (.completeRunning .provision none none none none)),
      eventAt 5 targetId (.beginPreflight "bob" connectionId 1 secondId 5),
      eventAt 6 targetId (.requestDelete "bob" agentId (some firstId))]

theorem no_delete_waits (history : List AuthorityEvent) (db : Database)
    (none : ∀ event ∈ history, ∀ userId agentId operationId,
      event.call ≠ .requestDelete userId agentId operationId) : DeletesWait db history := by
  induction history generalizing db with
  | nil => trivial
  | cons event rest ih =>
    constructor
    · intro userId agentId operationId isCall
      exact absurd isCall (none event List.mem_cons_self userId agentId (some operationId))
    · exact ih _ fun later there => none later (List.mem_cons_of_mem _ there)

/-- While the agent is created, a check of its connection changes nothing. -/
theorem provision_keeps_evidence : ∃ agent ∈ (Database.empty.after launchHistory).agents,
      agent.operationId? = some provisionId ∧ agent.isBoundTo connectionId ∧
        (Database.empty.after (launchHistory ++
            [eventAt 4 targetId (.beginPreflight "bob" connectionId 1 secondId 4)])).readiness
              connectionId =
          (Database.empty.after launchHistory).readiness connectionId := by
  have launched : ∃ agent ∈ (Database.empty.after launchHistory).agents.rows,
      agent.id = agentId ∧ agent.operationId? = some provisionId ∧
        agent.binding = some { connectionId, targetId, revision := 1 } := by
    decide +kernel
  obtain ⟨agent, there, id, busy, isBound⟩ := launched
  have bound : agent.isBoundTo connectionId := ⟨_, isBound, rfl⟩
  refine ⟨agent, there, busy, bound, ?_⟩
  have waits := no_delete_waits (launchHistory ++
      [eventAt 4 targetId (.beginPreflight "bob" connectionId 1 secondId 4)]) .empty (by
    simp [launchHistory, eventAt])
  exact (evidence_is_locked launchHistory _ waits).2 agent there provisionId connectionId
    ⟨⟨agent, there, rfl, busy⟩, trivial⟩ bound

/-- A request to delete takes an operation under the lease of a preflight. -/
theorem delete_under_lease : ¬LeaseExclusive (Database.empty.after deleteHistory) := by
  intro exclusive
  have both : ∃ connection ∈ (Database.empty.after deleteHistory).connections.rows,
      connection.lease.isSome = true ∧ connection.id = connectionId ∧
        ∃ agent ∈ (Database.empty.after deleteHistory).agents.rows,
          agent.binding = some { connectionId, targetId, revision := 1 } ∧
            agent.status ≠ .deleted ∧ agent.operation.isSome = true := by
    decide +kernel
  obtain ⟨connection, held, isSome, id, agent, there, isBound, alive, busy⟩ := both
  have none := exclusive connection held isSome agent there ⟨_, isBound, id.symm⟩ alive
  rw [none] at busy
  cases busy

end Hivra.AgentAuthority
