import Hivra.ModelKeys.KeyCustody

/-!
# Settings and keys stay in step

In every run that starts without operations the agent's settings are those of its one
current operation, every operation was applied at most once and as it was delivered,
and its key is paused, alive or revoked as its place in the journal says.
-/

namespace Hivra.ModelKeys

open Hivra.Library
open Hivra.AgentNetwork (Uuid)
open Hivra.AgentAuthority (AgentStatus DesiredState keepRows)

def ModelKeyOperation.fixed (operation : ModelKeyOperation) :=
  (operation.operationId, operation.config, operation.cipherDigest, operation.managedKeyId)

structure OperationFollows (old new : ModelKeyOperation) : Prop where
  fixed : new.fixed = old.fixed
  started : old.phase ≠ .pending → new.phase ≠ .pending
  superseded : old.phase ≠ .pending → old.isCurrent = false → new.isCurrent = false

theorem operation_follows_refl (operation : ModelKeyOperation) :
    OperationFollows operation operation where
  fixed := rfl
  started := id
  superseded := fun _ => id

theorem operation_follows_trans (first second third : ModelKeyOperation)
    (early : OperationFollows first second) (late : OperationFollows second third) :
    OperationFollows first third where
  fixed := late.fixed.trans early.fixed
  started := fun started => late.started (early.started started)
  superseded := fun started superseded =>
    late.superseded (early.started started) (early.superseded started superseded)

theorem follows_fixed {old new : ModelKeyOperation} (follows : OperationFollows old new) :
    new.operationId = old.operationId ∧ new.config = old.config ∧
      new.cipherDigest = old.cipherDigest ∧ new.managedKeyId = old.managedKeyId := by
  have fixed := follows.fixed
  simp only [ModelKeyOperation.fixed, Prod.mk.injEq] at fixed
  exact fixed

section Effects

variable {digest : String → String} {event : ModelEvent} {db next : ModelDatabase}

theorem settled_follows {row : ModelKeyOperation} {leaseId : Option Uuid} {receipt : ModelReceipt}
    {moment : ModelMoment} (settled : Settled db next row leaseId receipt moment)
    {operation : ModelKeyOperation} (held : operation ∈ db.operations) :
    OperationFollows operation (operation.settled row.operationId receipt moment.write) := by
  unfold ModelKeyOperation.settled
  split
  · rename_i same
    have pending : operation.phase = .pending := by
      rw [same_operation held settled.held same]
      exact settled.pending
    constructor
    · rfl
    · intro started
      exact absurd pending started
    · intro started
      exact absurd pending started
  · constructor
    · rfl
    · exact id
    · intro _ _
      rfl

theorem cleaned_follows (operation : ModelKeyOperation) (now : Int) : OperationFollows operation
      (if operation.phase != .deleted then operation.cleaned now else operation) := by
  split
  · constructor
    · rfl
    · intro _
      simp [ModelKeyOperation.cleaned]
    · intro _ _
      rfl
  · exact operation_follows_refl operation

inductive JournalEffect (digest : String → String) (event : ModelEvent) (db next : ModelDatabase) :
    Prop
  | same (operations : next.operations = db.operations)
  | admitted (operation : ModelKeyOperation) (request : ModelRequest)
      (given : FromRequest digest event operation request)
      (operations : db.operations.insert operation = some next.operations)
  | rewritten (change : ModelKeyOperation → ModelKeyOperation)
      (rows : next.operations.rows = db.operations.rows.map change)
      (moves : ∀ operation ∈ db.operations, OperationFollows operation (change operation))

theorem journal_effect (effect : ModelEffect digest event db next) :
    JournalEffect digest event db next := by
  cases effect with
  | same unchanged => exact .same (by rw [unchanged])
  | admitted operation request admitted given =>
    exact .admitted operation request given admitted.operations
  | leased operationId lease intent written =>
    refine .rewritten _ written.operations ?_
    intro operation _
    split
    · exact ⟨rfl, id, fun _ => id⟩
    · exact operation_follows_refl operation
  | settled userId agentId operationId leaseId receipt call row id settled =>
    exact .rewritten _ settled.operations fun operation held => settled_follows settled held
  | agent new moved isNext => exact .same (by rw [isNext])
  | deleted new deleted =>
    exact .rewritten _ deleted.cleaned.operations fun operation _ => cleaned_follows operation _
  | keys selected change written => exact .same written.operations
  | keyInserted key inserted agent operations => exact .same operations
  | keyDeleted keyId guarded keys agent operations => exact .same operations

theorem journal_followed (journal : JournalEffect digest event db next) :
    Followed OperationFollows db.operations next.operations := by
  cases journal with
  | same operations =>
    rw [operations]
    exact followed_refl operation_follows_refl db.operations
  | admitted operation request given operations =>
    exact followed_insert operation_follows_refl operations
  | rewritten change rows moves => exact followed_map rows moves

theorem journal_preceded (journal : JournalEffect digest event db next) :
    ∀ operation ∈ next.operations,
      (∃ before ∈ db.operations, OperationFollows before operation) ∨
        ∃ request, FromRequest digest event operation request := by
  intro operation there
  cases journal with
  | same operations =>
    rw [operations] at there
    exact .inl ⟨operation, there, operation_follows_refl operation⟩
  | admitted admitted request given operations =>
    cases (Table.mem_insert operations).mp there with
    | inl held => exact .inl ⟨operation, held, operation_follows_refl operation⟩
    | inr isNew =>
      rw [isNew]
      exact .inr ⟨request, given⟩
  | rewritten change rows moves => exact .inl (preceded_map rows moves operation there)

end Effects

def Applies (digest : String → String) (db : ModelDatabase) (event : ModelEvent)
    (operationId : Uuid) : Prop :=
  (∃ row ∈ db.operations, row.operationId = operationId ∧ row.phase = .pending) ∧
    ∃ row ∈ (db.step digest event).operations, row.operationId = operationId ∧
      row.phase = .applied

def DeliveredAs (db : ModelDatabase) (event : ModelEvent) (operationId : Uuid) : Prop :=
  ∃ userId agentId leaseId receipt,
    event.call = .settle userId agentId operationId (some leaseId) receipt ∧
      ∃ row ∈ db.operations, row.operationId = operationId ∧ row.expectedReceipt = receipt ∧
        ∃ lease, row.lease = some lease ∧ lease.id = leaseId ∧
          event.moment.check < lease.expiresAt

section Applications

variable {digest : String → String} {event : ModelEvent} {db : ModelDatabase} {operationId : Uuid}

theorem applies_delivered (applies : Applies digest db event operationId) :
    DeliveredAs db event operationId := by
  have ⟨⟨row, held, id, pending⟩, applied, there, appliedId, isApplied⟩ := applies
  -- No other write makes a row applied that was pending.
  have unapplied (kept : applied ∈ db.operations) : False := by
    have same := same_operation kept held (appliedId.trans id.symm)
    rw [same, pending] at isApplied
    cases isApplied
  cases step_effect digest db event with
  | same unchanged =>
    rw [unchanged] at there
    exact (unapplied there).elim
  | admitted operation request admitted given =>
    cases (Table.mem_insert admitted.operations).mp there with
    | inl kept => exact (unapplied kept).elim
    | inr isNew =>
      rw [isNew, admitted.pending] at isApplied
      cases isApplied
  | leased leasedId lease intent written =>
    rw [Table.mem_rows, written.operations, List.mem_map] at there
    obtain ⟨before, kept, isRow⟩ := there
    split at isRow
    · rw [← isRow] at appliedId isApplied
      have same := same_operation kept held (appliedId.trans id.symm)
      rw [same] at isApplied
      exact absurd (pending.symm.trans isApplied) (by simp)
    · rw [isRow] at kept
      exact (unapplied kept).elim
  | settled userId agentId settledId leaseId receipt call settledRow settledRowId settled =>
    obtain rfl | ⟨before, kept, other, rfl⟩ := settled_mem settled there
    · obtain ⟨lease, leased, isLease, unexpired⟩ := settled.leased
      change settledRow.operationId = operationId at appliedId
      refine ⟨userId, agentId, lease.id, receipt, ?_, settledRow, settled.held, appliedId,
        settled.expected, lease, leased, rfl, unexpired⟩
      rw [call, ← settledRowId, appliedId, isLease]
    · have same := same_operation kept held (appliedId.trans id.symm)
      rw [same] at isApplied
      exact absurd (pending.symm.trans isApplied) (by simp)
  | agent new moved isNext =>
    rw [isNext] at there
    exact (unapplied there).elim
  | deleted new deleted =>
    rw [Table.mem_rows, deleted.cleaned.operations, List.mem_map] at there
    obtain ⟨before, kept, isRow⟩ := there
    split at isRow
    · rw [← isRow] at isApplied
      cases isApplied
    · rw [isRow] at kept
      exact (unapplied kept).elim
  | keys selected change written =>
    rw [written.operations] at there
    exact (unapplied there).elim
  | keyInserted key inserted agent operations =>
    rw [operations] at there
    exact (unapplied there).elim
  | keyDeleted keyId guarded keys agent operations =>
    rw [operations] at there
    exact (unapplied there).elim

end Applications

section Runs

variable {digest : String → String} {start : ModelDatabase}

theorem after_kept (custody : CustodyKept digest start) (history : List ModelEvent) :
    CustodyKept digest (start.after digest history) :=
  fold_keeps history custody fun db event kept => effect_kept kept (step_effect digest db event)

theorem after_followed (start : ModelDatabase) (history : List ModelEvent) :
    Followed OperationFollows start.operations (start.after digest history).operations :=
  @fold_related _ _ (ModelDatabase.step digest) (fun _ => True)
    (fun early late => Followed OperationFollows early.operations late.operations)
    start history trivial (fun _ _ kept => kept)
    (fun db => followed_refl operation_follows_refl db.operations)
    (fun _ _ _ => followed_trans operation_follows_trans)
    fun db event _ => journal_followed (journal_effect (step_effect digest db event))

theorem operation_admitted (agent : ModelAgent) (keys : Table ProxyKey.entries)
    (history : List ModelEvent) :
    ∀ operation ∈ ((ModelDatabase.of agent keys).after digest history).operations,
      ∃ event ∈ history, ∃ admitted request, FromRequest digest event admitted request ∧
        OperationFollows admitted operation := by
  intro operation there
  have steps (db : ModelDatabase) (event : ModelEvent) (_ : True) :=
    journal_preceded (journal_effect (step_effect digest db event))
  have ⟨early, event, late, admitted, split, ⟨request, given⟩, follows⟩ :=
    @fold_inserted _ _ (ModelDatabase.step digest) _ _ _ _
      (fun _ event row => ∃ request, FromRequest digest event row request) (fun _ => True)
      (fun db => db.operations) operation_follows_refl operation_follows_trans
      (fun _ _ kept => kept) steps _ trivial Table.not_mem_empty history operation there
  refine ⟨event, ?_, admitted, request, given, follows⟩
  rw [split]
  simp

def KeyIs (db : ModelDatabase) (keyId : Uuid) (status : KeyStatus) : Prop :=
  ∃ key ∈ db.keys, key.identity.id = keyId ∧ key.status = status

def SameCipher (digest : String → String) (cipher given : Option String) : Prop :=
  cipher = given ∨ ∃ left right, cipher = some left ∧ given = some right ∧ left ≠ right ∧
    digest left = digest right

theorem same_cipher_of_digest {cipher given : Option String}
    (same : cipher.map digest = given.map digest) : SameCipher digest cipher given := by
  cases cipher with
  | none =>
    cases given with
    | none => exact .inl rfl
    | some right => cases same
  | some left =>
    cases given with
    | none => cases same
    | some right =>
      by_cases equal : left = right
      · rw [equal]
        exact .inl rfl
      · exact .inr ⟨left, right, rfl, rfl, equal, by simpa using same⟩

theorem superseded_revoked {db : ModelDatabase} (custody : CustodyKept digest db)
    {operation : ModelKeyOperation} (held : operation ∈ db.operations)
    (started : operation.phase ≠ .pending) (superseded : operation.isCurrent = false)
    {keyId : Uuid} (managed : operation.managedKeyId = some keyId) : KeyIs db keyId .revoked := by
  have ⟨key, there, id, _, state⟩ := custody.kept operation held keyId managed
  refine ⟨key, there, id, ?_⟩
  unfold KeyState at state
  cases phase : operation.phase with
  | pending => exact absurd phase started
  | deleted =>
    rw [phase] at state
    exact state
  | applied =>
    rw [phase, superseded] at state
    exact state

structure SettingsInStep (digest : String → String) (start : ModelDatabase)
    (history : List ModelEvent) : Prop where
  pendingOnce : ∀ left ∈ (start.after digest history).operations,
    ∀ right ∈ (start.after digest history).operations,
      left.phase = .pending → right.phase = .pending → left = right
  currentOnce : ∀ left ∈ (start.after digest history).operations,
    ∀ right ∈ (start.after digest history).operations,
      left.isCurrent = true → right.isCurrent = true → left = right
  /-- The settings and the ciphertext are those of the current operation. -/
  settings : ∀ operation ∈ (start.after digest history).operations, operation.isCurrent = true →
    (start.after digest history).agent.status ≠ .deleted →
      (start.after digest history).agent.llmConfig = operation.config ∧
        (start.after digest history).agent.llmApiKeyEncrypted.map digest = operation.cipherDigest ∧
          ∃ event ∈ history, ∃ userId agentId binding request wallets,
            event.call = .admission userId agentId (some operation.operationId) binding (some request)
              wallets ∧
              operation.config =
                request.config.map (fun config =>
                  { config with enabledAt := some event.moment.write }) ∧
                SameCipher digest (start.after digest history).agent.llmApiKeyEncrypted
                  request.encryptedKey
  /-- An operation is applied once, as it was delivered. -/
  applied : ∀ event operationId, Applies digest (start.after digest history) event operationId →
    DeliveredAs (start.after digest history) event operationId ∧
      ∀ early first late, history = early ++ first :: late →
        ¬Applies digest (start.after digest early) first operationId
  paused : ∀ operation ∈ (start.after digest history).operations, operation.phase = .pending →
    ∀ keyId, operation.managedKeyId = some keyId →
      KeyIs (start.after digest history) keyId .paused
  /-- The key of what was replaced is revoked, whatever happens after. -/
  superseded : ∀ operation ∈ (start.after digest history).operations,
    operation.phase ≠ .pending → operation.isCurrent = false →
      ∀ keyId, operation.managedKeyId = some keyId →
        ∀ later, KeyIs (start.after digest (history ++ later)) keyId .revoked
  alive : ∀ operation ∈ (start.after digest history).operations, operation.isCurrent = true →
    (start.after digest history).agent.desiredState ≠ .deleted →
      ∀ keyId, operation.managedKeyId = some keyId →
        ∃ key ∈ (start.after digest history).keys, key.identity.id = keyId ∧ key.status ≠ .revoked
  /-- A deleted agent's keys are revoked, and none of its ciphertexts is kept. -/
  deleted : (start.after digest history).agent.status = .deleted →
    ∀ operation ∈ (start.after digest history).operations,
      operation.encryptedKey = none ∧ (start.after digest history).agent.llmApiKeyEncrypted = none ∧
        ∀ keyId, operation.managedKeyId = some keyId →
          KeyIs (start.after digest history) keyId .revoked

theorem settings_stay_in_step (digest : String → String) (agent : ModelAgent)
    (keys : Table ProxyKey.entries) (history : List ModelEvent) :
    SettingsInStep digest (.of agent keys) history := by
  have custody := after_kept (custody_of digest agent keys) history
  constructor
  · intro left leftHeld right rightHeld leftPending rightPending
    exact same_pending leftHeld rightHeld leftPending rightPending
  · intro left leftHeld right rightHeld leftCurrent rightCurrent
    exact same_current leftHeld rightHeld leftCurrent rightCurrent
  · intro operation held current alive
    have ⟨config, cipher⟩ := (custody.current operation held current).2 alive
    have ⟨event, there, admitted, request, given, follows⟩ :=
      operation_admitted agent keys history operation held
    have ⟨sameId, sameConfig, sameDigest, _⟩ := follows_fixed follows
    have ⟨userId, agentId, binding, wallets, call⟩ := given.call
    refine ⟨config, cipher, event, there, userId, agentId, binding, request, wallets, ?_, ?_, ?_⟩
    · rw [sameId]
      exact call
    · exact sameConfig.trans given.config
    · exact same_cipher_of_digest (cipher.trans (sameDigest.trans given.cipher))
  · intro event operationId applies
    refine ⟨applies_delivered applies, ?_⟩
    intro early first late split appliesFirst
    have ⟨applied, there, appliedId, isApplied⟩ := appliesFirst.2
    have ⟨later, laterThere, follows⟩ := @after_followed digest
      (((ModelDatabase.of agent keys).after digest early).step digest first) late applied there
    have reached : (ModelDatabase.of agent keys).after digest history =
        ModelDatabase.after digest
          (((ModelDatabase.of agent keys).after digest early).step digest first) late :=
      fold_split split
    rw [← reached] at laterThere
    have ⟨row, held, rowId, pending⟩ := applies.1
    have laterId := (follows_fixed follows).1
    have same := same_operation held laterThere
      (rowId.trans (appliedId.symm.trans laterId.symm))
    have started := follows.started (by simp [isApplied])
    rw [← same] at started
    exact started pending
  · intro operation held pending keyId managed
    have ⟨key, there, id, _, state⟩ := custody.kept operation held keyId managed
    unfold KeyState at state
    rw [pending] at state
    exact ⟨key, there, id, state⟩
  · intro operation held started superseded keyId managed later
    have ⟨last, lastHeld, follows⟩ := @after_followed digest
      ((ModelDatabase.of agent keys).after digest history) later operation held
    have reached : (ModelDatabase.of agent keys).after digest (history ++ later) =
        ModelDatabase.after digest ((ModelDatabase.of agent keys).after digest history) later :=
      List.foldl_append
    rw [reached]
    have sameKey := (follows_fixed follows).2.2.2
    exact superseded_revoked (after_kept custody later) lastHeld (follows.started started)
      (follows.superseded started superseded) (sameKey.trans managed)
  · intro operation held current wanted keyId managed
    have ⟨key, there, id, _, state⟩ := custody.kept operation held keyId managed
    have applied := (custody.current operation held current).1
    unfold KeyState at state
    rw [applied, current] at state
    exact ⟨key, there, id, state wanted⟩
  · intro deleted operation held
    have ⟨phases, erased⟩ := custody.gone deleted
    have phase := phases operation held
    have started : operation.phase ≠ .pending := by
      rw [phase]
      simp
    refine ⟨custody.cleared operation held started, erased (List.ne_nil_of_mem held), ?_⟩
    intro keyId managed
    have ⟨key, there, id, _, state⟩ := custody.kept operation held keyId managed
    unfold KeyState at state
    rw [phase] at state
    exact ⟨key, there, id, state⟩

end Runs

end Hivra.ModelKeys
