import Hivra.Library.FollowedRows
import Hivra.ProviderPower.PowerFunctions

/-!
# What a power call does

What the guards let through, said once: of a journal row that is updated, and of an
operation that leaves the computer's row.  A call inserts a row, updates one, changes
the computer, or does the second and the third, and each such write passed its guard.
-/

namespace Hivra.ProviderPower

open Hivra.Library
open Hivra.AgentNetwork (Uuid Raised raise refuseIf raise_ne_ok refuse_if_ok bind_ok
  or_unique_violation_ok)
open Hivra.AgentAuthority (AgentStatus DesiredState OperationKind ResultCall)

structure JournalAllowed (computer : ProviderComputer) (old new : PowerOperation) (now : Int) :
    Prop where
  fixed : new.fixed = old.fixed
  frozen : old.cancelledAt.isSome = true → new = old
  dispatch :
    (old.dispatchIntentAt = none ∧ now < old.dispatchNotAfter ∧
        computer.desiredState ≠ .deleted ∧ old.cancelledAt = none) ∨
      (new.dispatchIntentAt = old.dispatchIntentAt ∧ new.beforeBootId = old.beforeBootId)
  receipt : new.actionReceipt = old.actionReceipt ∨
    (new.dispatchIntentAt.isSome = true ∧
      ∃ action, new.actionReceipt = some action ∧ ∀ receipt, old.actionReceipt = some receipt →
        action.id = receipt.id ∧ receipt.status = .running)
  verification :
    (new.verifiedAt = old.verifiedAt ∧ new.verifiedStatus = old.verifiedStatus ∧
        new.verifiedBootId = old.verifiedBootId) ∨
      (new.receiptStatus? = some .success ∧ ¬new.misses)
  cancellation : new.cancelledAt = old.cancelledAt ∨ new.dispatchIntentAt = none

section Guard

variable {computer : ProviderComputer} {old new : PowerOperation} {now : Int}

theorem refuse_dispatch_ok (passes : refuseDispatch computer old new now = .ok ()) :
    (old.dispatchIntentAt = none ∧ now < old.dispatchNotAfter ∧
        computer.desiredState ≠ .deleted ∧ old.cancelledAt = none) ∨
      (new.dispatchIntentAt = old.dispatchIntentAt ∧ new.beforeBootId = old.beforeBootId) := by
  unfold refuseDispatch at passes
  split at passes
  · rename_i _ _ undispatched _
    have allowed := refuse_if_ok passes
    push Not at allowed
    left
    refine ⟨undispatched, by omega, allowed.2.2.2.1, ?_⟩
    simpa using allowed.2.2.2.2.1
  · have allowed := refuse_if_ok passes
    push Not at allowed
    exact .inr allowed

theorem refuse_receipt_ok (passes : refuseReceipt old new = .ok ()) :
    new.actionReceipt = old.actionReceipt ∨
      (new.dispatchIntentAt.isSome = true ∧
        ∃ action, new.actionReceipt = some action ∧ ∀ receipt, old.actionReceipt = some receipt →
          action.id = receipt.id ∧ receipt.status = .running) := by
  have allowed := refuse_if_ok passes
  by_cases same : new.actionReceipt = old.actionReceipt
  · exact .inl same
  right
  push Not at allowed
  have ⟨dispatched, _, _, given, follows⟩ := allowed same
  constructor
  · cases intent : new.dispatchIntentAt <;> simp [intent] at dispatched ⊢
  · cases isAction : new.actionReceipt with
    | none => simp [isAction] at given
    | some action =>
      refine ⟨action, rfl, ?_⟩
      intro receipt isReceipt
      simpa [isAction, isReceipt] using follows

theorem refuse_verification_ok (passes : refuseVerification old new now = .ok ()) :
    (new.verifiedAt = old.verifiedAt ∧ new.verifiedStatus = old.verifiedStatus ∧
        new.verifiedBootId = old.verifiedBootId) ∨
      (new.receiptStatus? = some .success ∧ ¬new.misses) := by
  unfold refuseVerification at passes
  split at passes
  · rename_i same
    simp only [Prod.mk.injEq] at same
    exact .inl same
  · split at passes
    · exact absurd passes raise_ne_ok
    · have allowed := refuse_if_ok passes
      simp only [not_or, not_not] at allowed
      exact .inr ⟨allowed.1, allowed.2.2.2.2.2⟩

theorem refuse_cancellation_ok (passes : refuseCancellation old new now = .ok ()) :
    new.cancelledAt = old.cancelledAt ∨ new.dispatchIntentAt = none := by
  unfold refuseCancellation at passes
  split at passes
  · rename_i same
    exact .inl same
  · split at passes
    · exact absurd passes raise_ne_ok
    · have allowed := refuse_if_ok passes
      simp only [not_or] at allowed
      right
      simpa using allowed.2.1

theorem guard_update_ok (passes : guardPowerUpdate computer old new now = .ok ()) :
    JournalAllowed computer old new now := by
  have ⟨_, _, rest⟩ := bind_ok passes
  have ⟨_, fixed, rest⟩ := bind_ok rest
  have ⟨_, frozen, rest⟩ := bind_ok rest
  have ⟨_, dispatch, rest⟩ := bind_ok rest
  have ⟨_, receipt, rest⟩ := bind_ok rest
  have ⟨_, verification, cancellation⟩ := bind_ok rest
  have fixed := refuse_if_ok fixed
  have frozen := refuse_if_ok frozen
  push Not at fixed frozen
  constructor
  · exact fixed.1
  · exact frozen
  · exact refuse_dispatch_ok dispatch
  · exact refuse_receipt_ok receipt
  · exact refuse_verification_ok verification
  · exact refuse_cancellation_ok cancellation

end Guard

structure OperationKept (row : PowerOperation) : Prop where
  receipt : row.actionReceipt.isSome = true → row.dispatchIntentAt.isSome = true
  verified : row.verifiedAt.isSome = true → row.receiptStatus? = some .success ∧ ¬row.misses
  cancelled : row.cancelledAt.isSome = true → row.dispatchIntentAt = none

structure PowerFollows (old new : PowerOperation) : Prop where
  fixed : new.fixed = old.fixed
  dispatched : old.dispatchIntentAt.isSome = true → new.dispatchIntentAt = old.dispatchIntentAt
  cancelled : old.cancelledAt.isSome = true → new = old
  receipt : ∀ receipt, old.actionReceipt = some receipt →
    ∃ later, new.actionReceipt = some later ∧ later.id = receipt.id ∧
      (receipt.status ≠ .running → later = receipt)

theorem power_follows_refl (row : PowerOperation) : PowerFollows row row where
  fixed := rfl
  dispatched := fun _ => rfl
  cancelled := fun _ => rfl
  receipt := fun receipt held => ⟨receipt, held, rfl, fun _ => rfl⟩

theorem power_follows_trans (first second third : PowerOperation) (early : PowerFollows first second)
    (late : PowerFollows second third) : PowerFollows first third := by
  constructor
  · exact late.fixed.trans early.fixed
  · intro dispatched
    have same := early.dispatched dispatched
    rw [← same] at dispatched ⊢
    exact late.dispatched dispatched
  · intro cancelled
    have same := early.cancelled cancelled
    rw [← same] at cancelled ⊢
    exact late.cancelled cancelled
  · intro receipt held
    have ⟨next, isNext, nextId, nextSame⟩ := early.receipt receipt held
    have ⟨last, isLast, lastId, lastSame⟩ := late.receipt next isNext
    refine ⟨last, isLast, lastId.trans nextId, ?_⟩
    intro finished
    have same := nextSame finished
    rw [same] at lastSame
    exact lastSame finished

section Allowed

variable {computer : ProviderComputer} {old new : PowerOperation} {now : Int}

section

variable (allowed : JournalAllowed computer old new now)
include allowed

theorem allowed_dispatched (dispatched : old.dispatchIntentAt.isSome = true) :
    new.dispatchIntentAt = old.dispatchIntentAt ∧ new.beforeBootId = old.beforeBootId := by
  cases allowed.dispatch with
  | inl opens =>
    rw [opens.1] at dispatched
    cases dispatched
  | inr same => exact same

theorem allowed_follows : PowerFollows old new := by
  constructor
  · exact allowed.fixed
  · intro dispatched
    exact (allowed_dispatched allowed dispatched).1
  · exact allowed.frozen
  · intro receipt held
    cases allowed.receipt with
    | inl same => exact ⟨receipt, same.trans held, rfl, fun _ => rfl⟩
    | inr renewed =>
      have ⟨action, isAction, moves⟩ := renewed.2
      have ⟨id, running⟩ := moves receipt held
      exact ⟨action, isAction, id, fun finished => absurd running finished⟩

theorem allowed_kept (kept : OperationKept old) : OperationKept new := by
  constructor
  · intro given
    cases allowed.receipt with
    | inl same =>
      rw [same] at given
      have dispatched := kept.receipt given
      rw [(allowed_dispatched allowed dispatched).1]
      exact dispatched
    | inr renewed => exact renewed.1
  · intro verified
    cases allowed.verification with
    | inr shown => exact shown
    | inl same =>
      rw [same.1] at verified
      have ⟨success, shows⟩ := kept.verified verified
      -- A finished receipt stays, and with it the boot that was noted before.
      have ⟨receipt, isReceipt, isSuccess⟩ := Option.map_eq_some_iff.mp success
      have sameReceipt : new.actionReceipt = old.actionReceipt := by
        cases allowed.receipt with
        | inl same => exact same
        | inr renewed =>
          have ⟨action, _, moves⟩ := renewed.2
          have running := (moves receipt isReceipt).2
          rw [isSuccess] at running
          cases running
      have dispatched := kept.receipt (by simp [isReceipt])
      have boot := (allowed_dispatched allowed dispatched).2
      have kind : new.kind = old.kind := by
        have fixed := allowed.fixed
        simp only [PowerOperation.fixed, Prod.mk.injEq] at fixed
        exact fixed.2.2.1
      constructor
      · unfold PowerOperation.receiptStatus?
        rw [sameReceipt]
        exact success
      · unfold PowerOperation.misses at shows ⊢
        rw [kind, same.2.1, same.2.2, boot]
        exact shows
  · intro cancelled
    cases allowed.cancellation with
    | inr undispatched => exact undispatched
    | inl same =>
      rw [same] at cancelled
      rw [allowed.frozen cancelled]
      exact kept.cancelled cancelled

end

end Allowed

structure Reserved (db next : PowerDatabase) (row : PowerOperation) (now : Int) : Prop where
  guard : guardPowerInsert db.computer row now = .ok ()
  journal : db.journal.insert row = some next.journal
  computer : next.computer = db.computer

structure JournalWritten (db next : PowerDatabase) (old new : PowerOperation) (now : Int) : Prop where
  held : old ∈ db.journal
  allowed : JournalAllowed db.computer old new now
  rows : ∀ row, row ∈ next.journal ↔
    row = new ∨ row ∈ db.journal ∧ row.operationId ≠ old.operationId
  computer : next.computer = db.computer

structure ComputerWritten (db next : PowerDatabase) (now : Int) : Prop where
  guard : guardPowerLifecycle db.journal db.computer next.computer now = .ok ()
  journal : next.journal = db.journal
  intent : db.computer.desiredState = .deleted → next.computer.desiredState = .deleted

section Writes

variable {db next : PowerDatabase} {operationId : Uuid} {old : PowerOperation} {now : Int}

theorem same_operation {left right : PowerOperation} (leftHeld : left ∈ db.journal)
    (rightHeld : right ∈ db.journal) (same : left.operationId = right.operationId) :
    left = right := by
  apply Table.eq_of_shared_entry leftHeld rightHeld (List.mem_singleton_self left.operationId)
  rw [same]
  exact List.mem_singleton_self _

theorem operation_some (found : db.operation? operationId = some old) :
    old ∈ db.journal ∧ old.operationId = operationId := by
  have ⟨held, chosen⟩ := Table.find_mem found
  exact ⟨held, by simpa using chosen⟩

theorem write_journal_ok {change : PowerOperation → PowerOperation}
    {keeps : ∀ row, (change row).operationId = row.operationId}
    (found : db.operation? operationId = some old)
    (returned : db.writeJournal operationId change keeps now = .ok next) :
    JournalWritten db next old (change old) now := by
  have ⟨held, id⟩ := operation_some found
  unfold PowerDatabase.writeJournal at returned
  rw [found] at returned
  have ⟨_, guard, rest⟩ := bind_ok returned
  cases rest
  constructor
  · exact held
  · exact guard_update_ok guard
  · intro row
    rw [Table.mem_rewrite]
    constructor
    · intro ⟨before, there, isRow⟩
      by_cases here : before.operationId = operationId
      · rw [if_pos (by simpa using here)] at isRow
        have same := same_operation there held (here.trans id.symm)
        rw [same] at isRow
        exact .inl isRow.symm
      · rw [if_neg (by simpa using here)] at isRow
        rw [isRow, ← id] at here
        rw [isRow] at there
        exact .inr ⟨there, here⟩
    · intro after
      cases after with
      | inl isNew => exact ⟨old, held, by rw [if_pos (by simpa using id), isNew]⟩
      | inr other =>
        refine ⟨row, other.1, ?_⟩
        rw [id] at other
        rw [if_neg (by simpa using other.2)]
  · rfl

theorem write_computer_ok {change : ProviderComputer → ProviderComputer} {admitted : Bool}
    (returned : db.writeComputer change admitted now = .ok next)
    (intent : db.computer.desiredState = .deleted →
      (change db.computer).desiredState = .deleted) :
    ComputerWritten db next now ∧ next.computer = change db.computer := by
  have ⟨_, guard, rest⟩ := bind_ok returned
  have ⟨_, _, rest⟩ := bind_ok rest
  cases rest
  exact ⟨⟨guard, rfl, intent⟩, rfl⟩

end Writes

def PowerCall.dispatches (call : PowerCall) (operationId : Uuid) : Prop :=
  ∃ userId agentId bootId, call = .beginDispatch userId agentId operationId bootId

def PowerCall.cancels (call : PowerCall) (operationId : Uuid) : Prop :=
  ∃ userId agentId, call = .cancelBeforeDispatch userId agentId operationId

def Silent (call : PowerCall) (answer : PowerAnswer) : Prop :=
  answer ≠ .dispatch .dispatch ∧ ((∃ operationId, call.cancels operationId) → answer ≠ .found true)

variable {found : Bool}

/-- What a call can do, and what it answers then. -/
inductive PowerEffect (event : PowerEvent) (answer : PowerAnswer) (db next : PowerDatabase) : Prop
  | same (unchanged : next = db) (silent : Silent event.call answer)
  | claimed (userId : String) (agentId operationId : Uuid) (kind : PowerKind)
      (parents : Option ParentRows) (identity : PowerIdentity)
      (call : event.call = .claim userId agentId (some operationId) (some kind) parents)
      (answered : answer = .found true) (fresh : db.operation? operationId = none)
      (middle : PowerDatabase)
      (reserved : Reserved db middle
        (reservedOperation db.computer identity operationId kind event.clock.write)
        event.clock.guard)
      (written : ComputerWritten middle next event.clock.guard)
  | dispatched (operationId : Uuid) (call : event.call.dispatches operationId)
      (answered : answer = .dispatch .dispatch) (old new : PowerOperation)
      (id : old.operationId = operationId)
      (written : JournalWritten db next old new event.clock.guard)
      (before : old.dispatchIntentAt = none) (after : new.dispatchIntentAt.isSome = true)
  | noted (silent : Silent event.call answer) (old new : PowerOperation)
      (written : JournalWritten db next old new event.clock.guard)
  | cancelled (operationId : Uuid) (call : event.call.cancels operationId)
      (answered : answer = .found true) (old new : PowerOperation)
      (id : old.operationId = operationId) (middle : PowerDatabase)
      (marked : JournalWritten db middle old new event.clock.guard)
      (cancels : new.cancelledAt.isSome = true)
      (written : ComputerWritten middle next event.clock.guard)
  | changed (silent : Silent event.call answer)
      (written : ComputerWritten db next event.clock.guard)

section Calls

variable {event : PowerEvent} {answer : PowerAnswer} {db next : PowerDatabase}

theorem silent_found {call : PowerCall} (isCall : event.call = call)
    (notCancel : ∀ operationId, ¬call.cancels operationId) (found : Bool) :
    Silent event.call (.found found) := by
  constructor
  · simp
  · intro ⟨operationId, cancels⟩
    rw [isCall] at cancels
    exact absurd cancels (notCancel operationId)

theorem silent_not_found {call : PowerCall} : Silent call (.found false) := by
  constructor
  · simp
  · intro _
    simp

theorem claim_effect {userId : String} {agentId : Uuid} {operationId : Option Uuid}
    {kind : Option PowerKind} {parents : Option ParentRows}
    (call : event.call = .claim userId agentId operationId kind parents)
    (returned : claimHivraProviderPowerOperation userId agentId operationId kind parents
      event.admitted event.clock db = .ok (found, next)) :
    PowerEffect event (.found found) db next := by
  have silent := silent_found call nofun
  unfold claimHivraProviderPowerOperation at returned
  split at returned
  · rename_i operationId kind
    dsimp only at returned
    iterate 2
      split at returned
      · cases returned
        exact .same rfl (silent _)
    rename_i _ refused
    push Not at refused
    iterate 2
      split at returned
      · cases returned
        exact .same rfl (silent _)
    rename_i _ fresh
    push Not at fresh
    split at returned
    · exact absurd returned raise_ne_ok
    · rename_i identity _
      have ⟨_, guard, rest⟩ := bind_ok returned
      have ⟨journal, inserted, rest⟩ := bind_ok rest
      have ⟨last, wrote, rest⟩ := bind_ok rest
      cases rest
      have written := (write_computer_ok wrote (fun wanted => absurd wanted refused.1)).1
      exact .claimed userId agentId operationId kind parents identity call rfl (by simpa using fresh.2)
        { db with journal } ⟨guard, or_unique_violation_ok inserted, rfl⟩ written
  · cases returned
    exact .same rfl (silent _)

variable {agentId operationId : Uuid} {userId : String}

theorem dispatch_effect {bootId : Option Uuid} {answered : DispatchAnswer}
    (call : event.call = .beginDispatch userId agentId operationId bootId)
    (returned : beginHivraProviderPowerDispatch userId agentId operationId bootId event.clock db =
      .ok (answered, next)) :
    PowerEffect event (.dispatch answered) db next := by
  have silent (other : DispatchAnswer) (notDispatch : other ≠ .dispatch) :
      Silent event.call (.dispatch other) := by
    constructor
    · simpa using notDispatch
    · intro _
      simp
  unfold beginHivraProviderPowerDispatch at returned
  split at returned
  · cases returned
    exact .same rfl (silent .rejected (by simp))
  cases search : db.operation? operationId with
  | none =>
    rw [search] at returned
    cases returned
    exact .same rfl (silent .rejected (by simp))
  | some row =>
    rw [search] at returned
    dsimp only at returned
    split at returned
    · cases returned
      exact .same rfl (silent .rejected (by simp))
    split at returned
    · cases returned
      exact .same rfl (silent .observe (by simp))
    rename_i undispatched
    split at returned
    · cases returned
      exact .same rfl (silent .rejected (by simp))
    have ⟨last, wrote, rest⟩ := bind_ok returned
    cases rest
    exact .dispatched operationId ⟨userId, agentId, bootId, call⟩ rfl row _
      (operation_some search).2 (write_journal_ok search wrote) (by simpa using undispatched) rfl

theorem record_effect {action : Option ProviderAction}
    (call : event.call = .recordAction userId agentId operationId action)
    (returned : recordHivraProviderPowerAction userId agentId operationId action event.clock db =
      .ok (found, next)) :
    PowerEffect event (.found found) db next := by
  have silent := silent_found call nofun
  unfold recordHivraProviderPowerAction at returned
  split at returned
  · cases returned
    exact .same rfl (silent _)
  split at returned
  · rename_i search
    iterate 3
      split at returned
      · cases returned
        exact .same rfl (silent _)
    have ⟨last, wrote, rest⟩ := bind_ok returned
    cases rest
    exact .noted (silent _) _ _ (write_journal_ok search wrote)
  · cases returned
    exact .same rfl (silent _)

theorem verify_effect {observedAt : Option Int}
    {status : Option VerifiedStatus} {bootId : Option Uuid} {runtimeReady publicReady : Option Bool}
    (call : event.call = .verifyResult userId agentId operationId observedAt status bootId
      runtimeReady publicReady)
    (returned : verifyHivraProviderPowerResult userId agentId operationId observedAt status bootId
      runtimeReady publicReady event.clock db = .ok (found, next)) :
    PowerEffect event (.found found) db next := by
  have silent := silent_found call nofun
  unfold verifyHivraProviderPowerResult at returned
  split at returned
  · cases returned
    exact .same rfl (silent _)
  split at returned
  · rename_i search
    iterate 2
      split at returned
      · cases returned
        exact .same rfl (silent _)
    have ⟨last, wrote, rest⟩ := bind_ok returned
    cases rest
    exact .noted (silent _) _ _ (write_journal_ok search wrote)
  · cases returned
    exact .same rfl (silent _)

theorem cancel_effect (call : event.call = .cancelBeforeDispatch userId agentId operationId)
    (returned : cancelHivraProviderPowerBeforeDispatch userId agentId operationId event.admitted
      event.clock db = .ok (found, next)) :
    PowerEffect event (.found found) db next := by
  unfold cancelHivraProviderPowerBeforeDispatch at returned
  split at returned
  · cases returned
    exact .same rfl silent_not_found
  cases search : db.operation? operationId with
  | none =>
    rw [search] at returned
    cases returned
    exact .same rfl silent_not_found
  | some row =>
    rw [search] at returned
    dsimp only at returned
    split at returned
    · cases returned
      exact .same rfl silent_not_found
    have ⟨marked, marks, rest⟩ := bind_ok returned
    have ⟨last, wrote, rest⟩ := bind_ok rest
    cases rest
    have intent : marked.computer.desiredState = .deleted →
        (marked.computer.cancelled row.originalStatus).desiredState = .deleted := by
      intro wanted
      simp [ProviderComputer.cancelled, wanted]
    exact .cancelled operationId ⟨userId, agentId, call⟩ rfl row _ (operation_some search).2 marked
      (write_journal_ok search marks) rfl (write_computer_ok wrote intent).1

theorem request_delete_effect {agentId : Uuid} {operationId : Option Uuid}
    {answered : Hivra.AgentAuthority.DeleteAnswer}
    (returned : requestHivraAgentDelete userId agentId operationId event.admitted event.clock db =
      .ok (answered, next)) :
    PowerEffect event (.delete answered) db next := by
  have silent (answered : Hivra.AgentAuthority.DeleteAnswer) :
      Silent event.call (.delete answered) := by
    constructor
    · simp
    · intro _
      simp
  unfold requestHivraAgentDelete at returned
  cases operationId with
  | none => exact absurd returned raise_ne_ok
  | some operationId =>
    dsimp only at returned
    iterate 2
      split at returned
      · cases returned
        exact .same rfl (silent _)
    split at returned
    · have ⟨last, wrote, rest⟩ := bind_ok returned
      cases rest
      exact .changed (silent _) (write_computer_ok wrote (fun _ => rfl)).1
    · have ⟨last, wrote, rest⟩ := bind_ok returned
      cases rest
      exact .changed (silent _) (write_computer_ok wrote (fun _ => rfl)).1

theorem changed_intent {computer : ProviderComputer} {operationId : Uuid} {call : ResultCall}
    (selected : computer.selectedBy operationId call = true)
    (wanted : computer.desiredState = .deleted) :
    (computer.changedBy call).desiredState = .deleted := by
  cases call with
  | complete expected status cpu ram =>
    simp only [ProviderComputer.selectedBy, Bool.and_eq_true, beq_iff_eq] at selected
    exact absurd (selected.1.2.symm.trans wanted) expected.notDeleted
  | completeRunning operationKind chatUrl ip apiToken provisionedAt =>
    simp only [ProviderComputer.selectedBy, Bool.and_eq_true, beq_iff_eq] at selected
    rw [wanted] at selected
    exact absurd selected.1.2 (by simp)
  | completeDelete => rfl
  | _ => exact wanted

theorem result_effect {result : ResultCall}
    (call : event.call = .result userId agentId operationId result)
    (returned : runResult userId agentId operationId result event.admitted event.clock db =
      .ok (found, next)) :
    PowerEffect event (.found found) db next := by
  have silent := silent_found call nofun
  unfold runResult at returned
  split at returned
  · exact absurd returned raise_ne_ok
  split at returned
  · cases returned
    exact .same rfl (silent _)
  rename_i selected
  push Not at selected
  have ⟨last, wrote, rest⟩ := bind_ok returned
  cases rest
  have isSelected : db.computer.selectedBy operationId result = true := by
    simpa using selected.2
  exact .changed (silent _) (write_computer_ok wrote (changed_intent isSelected)).1

theorem map_answer_ok {Answer Other State : Type} {wrap : Answer → Other}
    {returned : Except Raised (Answer × State)} {answer : Other} {next : State}
    (done : returned.map (Prod.map wrap id) = .ok (answer, next)) :
    ∃ given, returned = .ok (given, next) ∧ answer = wrap given := by
  cases returned with
  | error raised => cases done
  | ok pair =>
    cases done
    exact ⟨pair.1, rfl, rfl⟩

theorem run_effect (returned : event.run db = .ok (answer, next)) :
    PowerEffect event answer db next := by
  unfold PowerEvent.run at returned
  cases call : event.call with
  | claim userId agentId operationId kind parents =>
    rw [call] at returned
    have ⟨found, claims, isAnswer⟩ := map_answer_ok returned
    rw [isAnswer]
    exact claim_effect call claims
  | beginDispatch userId agentId operationId bootId =>
    rw [call] at returned
    have ⟨found, begins, isAnswer⟩ := map_answer_ok returned
    rw [isAnswer]
    exact dispatch_effect call begins
  | recordAction userId agentId operationId action =>
    rw [call] at returned
    have ⟨found, records, isAnswer⟩ := map_answer_ok returned
    rw [isAnswer]
    exact record_effect call records
  | verifyResult userId agentId operationId observedAt status bootId runtimeReady publicReady =>
    rw [call] at returned
    have ⟨found, verifies, isAnswer⟩ := map_answer_ok returned
    rw [isAnswer]
    exact verify_effect call verifies
  | cancelBeforeDispatch userId agentId operationId =>
    rw [call] at returned
    have ⟨found, cancels, isAnswer⟩ := map_answer_ok returned
    rw [isAnswer]
    exact cancel_effect call cancels
  | requestDelete userId agentId operationId =>
    rw [call] at returned
    have ⟨found, requests, isAnswer⟩ := map_answer_ok returned
    rw [isAnswer]
    exact request_delete_effect requests
  | result userId agentId operationId result =>
    rw [call] at returned
    have ⟨found, results, isAnswer⟩ := map_answer_ok returned
    rw [isAnswer]
    exact result_effect call results

theorem perform_effect (db : PowerDatabase) (event : PowerEvent) :
    PowerEffect event (db.perform event).1 db (db.step event) := by
  unfold PowerDatabase.step PowerDatabase.perform
  cases returned : event.run db with
  | error raised =>
    apply PowerEffect.same rfl
    constructor
    · simp
    · intro _
      simp
  | ok answered => exact run_effect returned

end Calls

end Hivra.ProviderPower
