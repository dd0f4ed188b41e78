import Hivra.ModelKeys.ModelKeySpecs

/-!
# Custody of model keys

The agent's settings are those of its current operation, and the key of every
operation is in the state its phase calls for: paused while it is pending, alive while
it is current and nobody wants the agent deleted, and revoked ever after.
-/

namespace Hivra.ModelKeys

open Hivra.Library
open Hivra.AgentNetwork (Uuid Raised raise refuseIf raise_ne_ok refuse_if_ok bind_ok)
open Hivra.AgentAuthority (AgentStatus DesiredState keepRows)

def KeyState (desired : DesiredState) (operation : ModelKeyOperation) (status : KeyStatus) : Prop :=
  match operation.phase with
  | .pending => status = .paused
  | .applied =>
    if operation.isCurrent then desired ≠ .deleted → status ≠ .revoked else status = .revoked
  | .deleted => status = .revoked

def Kept (db : ModelDatabase) (operation : ModelKeyOperation) (keyId : Uuid) : Prop :=
  ∃ key ∈ db.keys, key.identity.id = keyId ∧ key.identity.userId = operation.userId ∧
    KeyState db.agent.desiredState operation key.status

structure CustodyKept (digest : String → String) (db : ModelDatabase) : Prop where
  owner : ∀ operation ∈ db.operations, operation.userId = db.agent.userId
  pending : ∀ operation ∈ db.operations, operation.phase = .pending →
    operation.isCurrent = false ∧ operation.cipherDigest = operation.encryptedKey.map digest
  current : ∀ operation ∈ db.operations, operation.isCurrent = true →
    operation.phase = .applied ∧ (db.agent.status ≠ .deleted →
      db.agent.llmConfig = operation.config ∧
        db.agent.llmApiKeyEncrypted.map digest = operation.cipherDigest)
  cleared : ∀ operation ∈ db.operations, operation.phase ≠ .pending → operation.encryptedKey = none
  named : ∀ operation ∈ db.operations, ∀ keyId, operation.managedKeyId = some keyId →
    operation.config.bind LlmConfig.proxyKeyId = some keyId.text ∧
      operation.previousKeyId? ≠ some keyId.text
  kept : ∀ operation ∈ db.operations, ∀ keyId, operation.managedKeyId = some keyId →
    Kept db operation keyId
  gone : db.agent.status = .deleted →
    (∀ operation ∈ db.operations, operation.phase = .deleted) ∧
      (db.operations.rows ≠ [] → db.agent.llmApiKeyEncrypted = none)

variable {row : ModelKeyOperation}

theorem custody_of (digest : String → String) (agent : ModelAgent) (keys : Table ProxyKey.entries) :
    CustodyKept digest (.of agent keys) where
  owner := fun _ there => absurd there (Table.not_mem_empty _)
  pending := fun _ there => absurd there (Table.not_mem_empty _)
  current := fun _ there => absurd there (Table.not_mem_empty _)
  cleared := fun _ there => absurd there (Table.not_mem_empty _)
  named := fun _ there => absurd there (Table.not_mem_empty _)
  kept := fun _ there => absurd there (Table.not_mem_empty _)
  gone := fun _ => ⟨fun _ there => absurd there (Table.not_mem_empty _), fun some => absurd rfl some⟩

section Steps

variable {digest : String → String} {event : ModelEvent} {db next : ModelDatabase}

theorem uuid_of_text {left right : Uuid} (same : left.text = right.text) : left = right :=
  Uuid.ext same

theorem admitted_kept {operation : ModelKeyOperation} (custody : CustodyKept digest db)
    (admitted : Admitted digest db next operation) : CustodyKept digest next := by
  have mem (other : ModelKeyOperation) :
      other ∈ next.operations ↔ other ∈ db.operations ∨ other = operation :=
    Table.mem_insert admitted.operations
  have oldKeys : ∀ key ∈ db.keys, key ∈ next.keys := by
    intro key there
    obtain ⟨_, same⟩ | ⟨new, inserted, _⟩ := admitted.keys
    · rw [same]
      exact there
    · exact (Table.mem_insert inserted).mpr (.inl there)
  have alive : next.agent.status ≠ .deleted := by
    rw [admitted.agent, admitted.running]
    simp
  constructor
  · intro other there
    rw [admitted.agent]
    cases (mem other).mp there with
    | inl held => exact custody.owner other held
    | inr isNew => rw [isNew, admitted.owner]
  · intro other there isPending
    cases (mem other).mp there with
    | inl held => exact custody.pending other held isPending
    | inr isNew =>
      rw [isNew]
      exact ⟨admitted.notCurrent, admitted.cipher⟩
  · intro other there isCurrent
    rw [admitted.agent]
    cases (mem other).mp there with
    | inl held => exact custody.current other held isCurrent
    | inr isNew =>
      rw [isNew, admitted.notCurrent] at isCurrent
      cases isCurrent
  · intro other there notPending
    cases (mem other).mp there with
    | inl held => exact custody.cleared other held notPending
    | inr isNew =>
      rw [isNew] at notPending
      exact absurd admitted.pending notPending
  · intro other there keyId managed
    cases (mem other).mp there with
    | inl held => exact custody.named other held keyId managed
    | inr isNew =>
      rw [isNew] at managed ⊢
      obtain ⟨none, _⟩ | ⟨key, inserted, isKey, _, _, links⟩ := admitted.keys
      · rw [none] at managed
        cases managed
      · rw [isKey] at managed
        cases managed
        refine ⟨links, ?_⟩
        -- The key that is replaced was there before the new one came.
        intro same
        have held := admitted.previous _ same
        simp only [ModelDatabase.hasKey, List.any_eq_true, Bool.and_eq_true,
          beq_iff_eq] at held
        have ⟨old, oldThere, sameText, _⟩ := held
        have sameId := uuid_of_text sameText
        apply Table.insert_apart inserted oldThere (.id old.identity.id) (key_entries_id old)
        rw [sameId]
        exact key_entries_id key
  · intro other there keyId managed
    unfold Kept
    rw [admitted.agent]
    cases (mem other).mp there with
    | inl held =>
      have ⟨key, keyThere, rest⟩ := custody.kept other held keyId managed
      exact ⟨key, oldKeys key keyThere, rest⟩
    | inr isNew =>
      rw [isNew] at managed ⊢
      obtain ⟨none, _⟩ | ⟨key, inserted, isKey, user, paused, _⟩ := admitted.keys
      · rw [none] at managed
        cases managed
      · rw [isKey] at managed
        cases managed
        refine ⟨key, (Table.mem_insert inserted).mpr (.inr rfl), rfl, user, ?_⟩
        unfold KeyState
        rw [admitted.pending]
        exact paused
  · intro deleted
    exact absurd deleted alive

theorem leased_kept {operationId : Uuid} {lease : DeliveryLease} {intent : Int}
    (custody : CustodyKept digest db)
    (written : OperationsWritten db next (fun row => row.operationId == operationId)
      (fun row =>
        { row with
          lease := some lease, dispatchIntentAt := row.dispatchIntentAt.or (some intent) })) :
    CustodyKept digest next := by
  -- A lease changes nothing of an operation that its custody depends on.
  have mem : ∀ operation ∈ next.operations, ∃ before ∈ db.operations,
      operation = before ∨ operation =
        { before with
          lease := some lease, dispatchIntentAt := before.dispatchIntentAt.or (some intent) } := by
    intro operation there
    rw [Table.mem_rows, written.operations, List.mem_map] at there
    obtain ⟨before, held, isOperation⟩ := there
    refine ⟨before, held, ?_⟩
    split at isOperation
    · exact .inr isOperation.symm
    · exact .inl isOperation.symm
  constructor
  · intro operation there
    rw [written.agent]
    obtain ⟨before, held, rfl | rfl⟩ := mem operation there
    · exact custody.owner operation held
    · exact custody.owner before held
  · intro operation there
    obtain ⟨before, held, rfl | rfl⟩ := mem operation there
    · exact custody.pending operation held
    · exact custody.pending before held
  · intro operation there
    rw [written.agent]
    obtain ⟨before, held, rfl | rfl⟩ := mem operation there
    · exact custody.current operation held
    · exact custody.current before held
  · intro operation there
    obtain ⟨before, held, rfl | rfl⟩ := mem operation there
    · exact custody.cleared operation held
    · exact custody.cleared before held
  · intro operation there
    obtain ⟨before, held, rfl | rfl⟩ := mem operation there
    · exact custody.named operation held
    · exact custody.named before held
  · intro operation there keyId managed
    unfold Kept
    rw [written.agent, written.keys]
    obtain ⟨before, held, rfl | rfl⟩ := mem operation there
    · exact custody.kept operation held keyId managed
    · exact custody.kept before held keyId managed
  · rw [written.agent]
    intro deleted
    have ⟨phases, erased⟩ := custody.gone deleted
    constructor
    · intro operation there
      obtain ⟨before, held, rfl | rfl⟩ := mem operation there
      · exact phases operation held
      · exact phases before held
    · intro some
      apply erased
      intro none
      rw [written.operations, none] at some
      exact some rfl

variable {leaseId : Option Uuid} {moment : ModelMoment} {now : Int}

theorem settled_mem {receipt : ModelReceipt}
    (settled : Settled db next row leaseId receipt moment) {operation : ModelKeyOperation}
    (there : operation ∈ next.operations) :
    operation = { row.applied receipt moment.write with encryptedKey := none } ∨
      ∃ before ∈ db.operations, before.operationId ≠ row.operationId ∧
        operation = { before with isCurrent := false } := by
  rw [Table.mem_rows, settled.operations, List.mem_map] at there
  obtain ⟨before, held, isOperation⟩ := there
  unfold ModelKeyOperation.settled at isOperation
  split at isOperation
  · rename_i here
    rw [same_operation held settled.held here] at isOperation
    exact .inl isOperation.symm
  · rename_i other
    exact .inr ⟨before, held, other, isOperation.symm⟩

theorem settled_key_same (key : ProxyKey) (row : ModelKeyOperation) (now : Int) :
    (key.settled row now).identity = key.identity := by
  unfold ProxyKey.settled
  dsimp only
  split <;> split <;> rfl

theorem settled_key_revoked {key : ProxyKey}
    (replaced : row.previousKeyId? = some key.identity.id.text)
    (user : key.identity.userId = row.userId) : (key.settled row now).status = .revoked := by
  unfold ProxyKey.settled
  simp [replaced, user, ProxyKey.revoked]

theorem settled_key_other {key : ProxyKey}
    (other : row.managedKeyId ≠ some key.identity.id) (was : key.status = .revoked) :
    (key.settled row now).status = .revoked := by
  unfold ProxyKey.settled
  have notMine : (row.managedKeyId == some key.identity.id &&
      key.identity.userId == row.userId) = false := by
    simp [other]
  rw [notMine]
  dsimp only
  split
  · rfl
  · exact was

theorem settled_key_mine {key : ProxyKey}
    (mine : row.managedKeyId = some key.identity.id) (user : key.identity.userId = row.userId)
    (apart : row.previousKeyId? ≠ some key.identity.id.text) :
    (key.settled row now).status = .active := by
  unfold ProxyKey.settled
  simp [mine, user, apart]

section

variable (custody : CustodyKept digest db)
include custody

theorem settled_kept {receipt : ModelReceipt}
    (settled : Settled db next row leaseId receipt moment) :
    CustodyKept digest next := by
  have user : next.agent.userId = db.agent.userId := by rw [settled.agent]
  have desired : next.agent.desiredState = db.agent.desiredState := by rw [settled.agent]
  have alive : next.agent.status ≠ .deleted := by
    rw [settled.agent]
    dsimp only
    rw [settled.running.1]
    simp
  have keyThere {key : ProxyKey} (there : key ∈ db.keys) :
      key.settled row moment.write ∈ next.keys := by
    rw [Table.mem_rows, settled.keys, List.mem_map]
    exact ⟨key, there, rfl⟩
  constructor
  · intro operation there
    rw [user]
    obtain rfl | ⟨before, held, _, rfl⟩ := settled_mem settled there
    · exact settled.owner
    · exact custody.owner before held
  · intro operation there isPending
    obtain rfl | ⟨before, held, other, rfl⟩ := settled_mem settled there
    · cases isPending
    · have same := same_pending held settled.held isPending settled.pending
      rw [same] at other
      exact absurd rfl other
  · intro operation there isCurrent
    obtain rfl | ⟨before, held, other, rfl⟩ := settled_mem settled there
    · refine ⟨rfl, fun _ => ?_⟩
      rw [settled.agent]
      exact ⟨rfl, (custody.pending row settled.held settled.pending).2.symm⟩
    · cases isCurrent
  · intro operation there notPending
    obtain rfl | ⟨before, held, other, rfl⟩ := settled_mem settled there
    · rfl
    · exact custody.cleared before held notPending
  · intro operation there keyId managed
    obtain rfl | ⟨before, held, other, rfl⟩ := settled_mem settled there
    · exact custody.named row settled.held keyId managed
    · exact custody.named before held keyId managed
  · intro operation there keyId managed
    unfold Kept
    rw [desired]
    obtain rfl | ⟨before, held, other, rfl⟩ := settled_mem settled there
    · have ⟨key, keyHeld, id, owner, _⟩ := custody.kept row settled.held keyId managed
      have ⟨_, apart⟩ := custody.named row settled.held keyId managed
      change row.managedKeyId = some keyId at managed
      rw [← id] at managed apart
      refine ⟨key.settled row moment.write, keyThere keyHeld, ?_, ?_, ?_⟩
      · rw [settled_key_same]
        exact id
      · rw [settled_key_same]
        exact owner
      · intro _
        rw [settled_key_mine managed owner apart]
        simp
    · have ⟨key, keyHeld, id, owner, state⟩ := custody.kept before held keyId managed
      change before.managedKeyId = some keyId at managed
      refine ⟨key.settled row moment.write, keyThere keyHeld, ?_, ?_, ?_⟩
      · rw [settled_key_same]
        exact id
      · rw [settled_key_same]
        exact owner
      · have notMine : row.managedKeyId ≠ some key.identity.id := by
          intro mine
          rw [id] at mine
          have same := same_managed_key held settled.held managed mine
          rw [same] at other
          exact other rfl
        unfold KeyState at state ⊢
        dsimp only
        cases phase : before.phase with
        | pending =>
          have same := same_pending held settled.held phase settled.pending
          rw [same] at other
          exact absurd rfl other
        | deleted =>
          rw [phase] at state
          exact settled_key_other notMine state
        | applied =>
          rw [phase] at state
          dsimp only at state ⊢
          rw [if_neg (by simp)]
          cases current : before.isCurrent with
          | false =>
            rw [current] at state
            exact settled_key_other notMine state
          | true =>
            -- The agent's settings were this operation's, and named its key.
            have isAlive : db.agent.status ≠ .deleted := by
              rw [settled.running.1]
              simp
            have ⟨config, _⟩ := (custody.current before held current).2 isAlive
            have ⟨links, _⟩ := custody.named before held keyId managed
            apply settled_key_revoked
            · unfold ModelKeyOperation.previousKeyId?
              rw [settled.stands, config, links, id]
            · rw [owner, custody.owner before held, settled.owner]
  · intro deleted
    exact absurd deleted alive

theorem moved_kept {new : ModelAgent}
    (moved : AgentMoved digest db new now) : CustodyKept digest { db with agent := new } := by
  constructor
  · intro operation there
    exact (custody.owner operation there).trans moved.user.symm
  · exact custody.pending
  · intro operation there isCurrent
    have ⟨applied, settings⟩ := custody.current operation there isCurrent
    refine ⟨applied, ?_⟩
    intro alive
    change new.status ≠ .deleted at alive
    have wasAlive : db.agent.status ≠ .deleted := fun gone => alive (moved.gone gone)
    have same := settings wasAlive
    have guard := moved.guard
    unfold guardModelKeyAgent at guard
    rw [if_neg (List.ne_nil_of_mem there), if_neg alive] at guard
    have ⟨_, _, rest⟩ := bind_ok guard
    have ⟨_, _, rest⟩ := bind_ok rest
    have allowed := refuse_if_ok rest
    rw [@current_some operation db there isCurrent, Option.any_some] at allowed
    by_cases unchanged : new.llmConfig = db.agent.llmConfig ∧
        new.llmApiKeyEncrypted = db.agent.llmApiKeyEncrypted
    · change new.llmConfig = _ ∧ new.llmApiKeyEncrypted.map digest = _
      rw [unchanged.1, unchanged.2]
      exact same
    · have changed : new.llmConfig ≠ db.agent.llmConfig ∨
          new.llmApiKeyEncrypted ≠ db.agent.llmApiKeyEncrypted := by
        by_cases config : new.llmConfig = db.agent.llmConfig
        · exact .inr fun cipher => unchanged ⟨config, cipher⟩
        · exact .inl config
      have carries : operation.carries digest new = true := by
        by_contra notCarried
        exact allowed ⟨changed, by simpa using notCarried⟩
      simp only [ModelKeyOperation.carries, Bool.and_eq_true, beq_iff_eq] at carries
      exact ⟨carries.1.1.1.symm, carries.1.1.2.symm⟩
  · exact custody.cleared
  · exact custody.named
  · intro operation there keyId managed
    have ⟨key, keyThere, id, owner, state⟩ := custody.kept operation there keyId managed
    refine ⟨key, keyThere, id, owner, ?_⟩
    unfold KeyState at state ⊢
    cases phase : operation.phase with
    | pending =>
      rw [phase] at state
      exact state
    | deleted =>
      rw [phase] at state
      exact state
    | applied =>
      rw [phase] at state
      dsimp only at state ⊢
      cases current : operation.isCurrent with
      | false =>
        rw [current] at state
        exact state
      | true =>
        rw [current] at state
        intro wanted
        exact state fun gone => wanted (moved.intent gone)
  · intro deleted
    have ⟨was, erased⟩ := moved.erased deleted
    exact ⟨(custody.gone was).1, fun _ => erased⟩

theorem deleted_kept {new : ModelAgent}
    (deleted : AgentDeleted db next new now) : CustodyKept digest next := by
  have agent : next.agent = new := deleted.cleaned.agent
  have mem : ∀ operation ∈ next.operations, ∃ before ∈ db.operations,
      operation.phase = .deleted ∧ operation.isCurrent = false ∧ operation.encryptedKey = none ∧
        operation.userId = before.userId ∧ operation.managedKeyId = before.managedKeyId ∧
          operation.config = before.config ∧ operation.previousConfig = before.previousConfig := by
    intro operation there
    rw [Table.mem_rows, deleted.cleaned.operations, List.mem_map] at there
    obtain ⟨before, held, rfl⟩ := there
    refine ⟨before, held, ?_⟩
    by_cases phase : before.phase = .deleted
    · rw [if_neg (by simp [phase])]
      refine ⟨phase, ?_, custody.cleared before held (by simp [phase]), rfl, rfl, rfl, rfl⟩
      by_contra current
      have applied := (custody.current before held (by simpa using current)).1
      rw [phase] at applied
      cases applied
    · rw [if_pos (by simpa using phase)]
      exact ⟨rfl, rfl, rfl, rfl, rfl, rfl, rfl⟩
  constructor
  · intro operation there
    have ⟨before, held, _, _, _, user, _⟩ := mem operation there
    rw [agent, deleted.user, user]
    exact custody.owner before held
  · intro operation there isPending
    have ⟨_, _, phase, _⟩ := mem operation there
    rw [phase] at isPending
    cases isPending
  · intro operation there isCurrent
    have ⟨_, _, _, notCurrent, _⟩ := mem operation there
    rw [notCurrent] at isCurrent
    cases isCurrent
  · intro operation there _
    have ⟨_, _, _, _, cleared, _⟩ := mem operation there
    exact cleared
  · intro operation there keyId managed
    have ⟨before, held, _, _, _, _, sameKey, config, previous⟩ := mem operation there
    rw [sameKey] at managed
    unfold ModelKeyOperation.previousKeyId?
    rw [config, previous]
    exact custody.named before held keyId managed
  · intro operation there keyId managed
    have ⟨before, held, phase, _, _, user, sameKey, _⟩ := mem operation there
    rw [sameKey] at managed
    have ⟨key, keyThere, id, owner, _⟩ := custody.kept before held keyId managed
    have chosen : db.operations.rows.any (fun row =>
        row.managedKeyId == some key.identity.id && row.userId == key.identity.userId) = true := by
      rw [List.any_eq_true]
      exact ⟨before, held, by simp [managed, id, owner]⟩
    refine ⟨key.revoked now, ?_, id, owner.trans user.symm, ?_⟩
    · rw [Table.mem_rows, deleted.cleaned.keys, List.mem_map]
      exact ⟨key, keyThere, if_pos chosen⟩
    · unfold KeyState
      rw [phase]
      rfl
  · intro _
    constructor
    · intro operation there
      have ⟨_, _, phase, _⟩ := mem operation there
      exact phase
    · intro _
      rw [agent]
      exact deleted.erased

omit custody in
theorem guarded_key_state {operation : ModelKeyOperation} {key : ProxyKey} {new : ProxyKey}
    (there : operation ∈ db.operations) (managed : operation.managedKeyId = some key.identity.id)
    (guard : guardKeyUpdate db key new = .ok ())
    (state : KeyState db.agent.desiredState operation key.status) :
    new.identity = key.identity ∧ KeyState db.agent.desiredState operation new.status := by
  have ⟨_, _, rest⟩ := bind_ok guard
  rw [managed_some there managed] at rest
  have allowed := refuse_if_ok rest
  simp only [not_or, not_and, ne_eq, not_not, Prod.mk.injEq] at allowed
  obtain ⟨identity, frozen, alive, revoked, deleted⟩ := allowed
  refine ⟨identity, ?_⟩
  unfold KeyState at state ⊢
  cases phase : operation.phase with
  | pending =>
    rw [phase] at state
    have same : new.status = key.status := by
      by_contra changed
      exact frozen phase fun unchanged => absurd unchanged changed
    exact same.trans state
  | deleted => exact deleted phase
  | applied =>
    rw [phase] at state
    dsimp only at state ⊢
    cases current : operation.isCurrent with
    | false =>
      rw [current] at state
      exact revoked state
    | true =>
      rw [current] at state
      intro wanted isRevoked
      have was := state wanted
      have stays := alive current wanted
      apply stays
      simp [revokes, isRevoked, was]

/-- What becomes of the keys changes only what is kept of them. -/
theorem custody_of_keys (agent : next.agent = db.agent)
    (operations : next.operations = db.operations)
    (kept : ∀ operation ∈ db.operations, ∀ keyId, operation.managedKeyId = some keyId →
      Kept next operation keyId) : CustodyKept digest next := by
  constructor
  · rw [agent, operations]
    exact custody.owner
  · rw [operations]
    exact custody.pending
  · rw [agent, operations]
    exact custody.current
  · rw [operations]
    exact custody.cleared
  · rw [operations]
    exact custody.named
  · rw [operations]
    exact kept
  · rw [agent, operations]
    exact custody.gone

theorem keys_kept {selected : ProxyKey → Bool} {change : ProxyKey → ProxyKey}
    (written : KeysWritten db next selected change) :
    CustodyKept digest next := by
  apply custody_of_keys custody written.agent written.operations
  intro operation there keyId managed
  have ⟨key, keyThere, id, owner, state⟩ := custody.kept operation there keyId managed
  unfold Kept
  rw [written.agent]
  by_cases chosen : selected key = true
  · rw [← id] at managed
    have ⟨identity, state⟩ :=
      guarded_key_state there managed (written.guarded key keyThere chosen) state
    refine ⟨change key, ?_, by rw [identity]; exact id, by rw [identity]; exact owner, state⟩
    rw [Table.mem_rows, written.keys, List.mem_map]
    exact ⟨key, keyThere, if_pos chosen⟩
  · refine ⟨key, ?_, id, owner, state⟩
    rw [Table.mem_rows, written.keys, List.mem_map]
    exact ⟨key, keyThere, if_neg chosen⟩

theorem keys_changed_kept (agent : next.agent = db.agent)
    (operations : next.operations = db.operations)
    (stays : ∀ operation ∈ db.operations, ∀ key ∈ db.keys,
      operation.managedKeyId = some key.identity.id → key ∈ next.keys) :
    CustodyKept digest next := by
  apply custody_of_keys custody agent operations
  intro operation there keyId managed
  have ⟨key, keyThere, id, owner, state⟩ := custody.kept operation there keyId managed
  unfold Kept
  rw [agent]
  rw [← id] at managed
  exact ⟨key, stays operation there key keyThere managed, id, owner, state⟩

theorem effect_kept (effect : ModelEffect digest event db next) : CustodyKept digest next := by
  cases effect with
  | same unchanged =>
    rw [unchanged]
    exact custody
  | admitted operation request admitted given => exact admitted_kept custody admitted
  | leased operationId lease intent written => exact leased_kept custody written
  | settled userId agentId operationId leaseId receipt call row id settled =>
    exact settled_kept custody settled
  | agent new moved isNext =>
    rw [isNext]
    exact moved_kept custody moved
  | deleted new deleted => exact deleted_kept custody deleted
  | keys selected change written => exact keys_kept custody written
  | keyInserted key inserted agent operations =>
    apply keys_changed_kept custody agent operations
    intro _ _ other there _
    exact (Table.mem_insert inserted).mpr (.inl there)
  | keyDeleted keyId guarded keys agent operations =>
    apply keys_changed_kept custody agent operations
    intro operation there key keyThere managed
    rw [keys]
    apply List.mem_filter.mpr
    refine ⟨keyThere, ?_⟩
    rw [bne_iff_ne]
    intro isDeleted
    have ⟨_, _, rest⟩ := bind_ok (guarded key keyThere isDeleted)
    apply refuse_if_ok rest
    rw [List.any_eq_true]
    exact ⟨operation, there, by simp [managed]⟩

end

end Steps

end Hivra.ModelKeys
