import Hivra.ManagedVenice.SettlementScripts

/-!
# What a run owes for the hold it closed

The run whose capture closed a hold goes on to debit its overage, or to file the
overage it could not debit.  A duty says what such a script is to achieve and
what answers of the database it may rely on; the two captures and every script
made of them are checked against it.
-/

namespace Hivra.ManagedVenice

open Hivra.Library
open Hivra.Library.Contract

def Statement.isNeeded (path : SettlementPath) : Statement → Bool
  | .loadWalletAccount purpose _ =>
    purpose == .reconciliationItem overageUncoveredReason ||
      (path == .chatUsage && purpose == .usageRecord)
  | .upsertWalletAccount purpose _ =>
    purpose == .reconciliationItem overageUncoveredReason ||
      (path == .chatUsage && purpose == .usageRecord)
  | .insertReconciliationItem item => item.reason == overageUncoveredReason
  | .insertUsageEvent _ => path == .chatUsage
  | .loadFinancialEvent _ => path == .chatUsage
  | .insertFinancialEvent _ => path == .chatUsage
  | _ => false

def Answered (number : Nat) (statement : Statement) (turn : Turn) (store : SettlementStore) :
    Prop :=
  ∃ answer, (performStatement number statement turn store).2 = .ok answer

def TookOrRefused (number : Nat) (statement : Statement) (turn : Turn) (store : SettlementStore) :
    Prop :=
  (turn.delivery ≠ .refused ∧ ∃ result, statement.execute number turn store = .ok result) ∨
    (performStatement number statement turn store).2 = .error .insufficientBalance

/-- What counts as paid for the overage of a closing, and what it takes to get there:
a debit or an item on record, and a database that answers what the settlement
needs. -/
structure Accounting (hold : Reservation)
    (performs : Nat → Statement → Turn → SettlementStore → Prop) (number : Nat)
    (paid : Closing → SettlementStore → Prop) : Prop where
  kept : ∀ closing who before after, StepAllowed hold who before after → paid closing before →
    paid closing after
  debited : ∀ closing store (debit : Debit), debit ∈ store.wallets.debits →
    debit.amountMicroUsd = closing.overageMicroUsd →
      debit.referenceId = overageReference hold.referenceId → paid closing store
  filed : ∀ closing store item, item ∈ store.reconciliationItems →
    item.reason = overageUncoveredReason → item.metadata.referenceId = some hold.referenceId →
      item.metadata.overageMicroUsd = some closing.overageMicroUsd → paid closing store
  delivered : ∀ path costMicroUsd userId captureMicroUsd turn store,
    performs number (.captureReservation path costMicroUsd userId hold.referenceId captureMicroUsd)
        turn store → captureMicroUsd < costMicroUsd →
      turn.delivery ≠ .replyLost ∨ ∀ closing later, paid closing later
  answered : ∀ closing statement turn store,
    closing ∈ store.closingsOf hold.referenceId → closing.caller = number →
      0 < closing.overageMicroUsd → ¬ paid closing store →
        statement.isNeeded closing.path = true → performs number statement turn store →
          Answered number statement turn store
  tolerated : ∀ closing userId walletType turn store,
    closing ∈ store.closingsOf hold.referenceId → closing.caller = number →
      0 < closing.overageMicroUsd → ¬ paid closing store → closing.path = .chatUsage →
        performs number
          (.debitWallet userId walletType closing.overageMicroUsd
            (overageReference hold.referenceId)) turn store →
          TookOrRefused number
            (.debitWallet userId walletType closing.overageMicroUsd
              (overageReference hold.referenceId)) turn store

def SettledUp (hold : Reservation) (number : Nat) (paid : Closing → SettlementStore → Prop)
    (store : SettlementStore) : Prop :=
  ∀ closing ∈ store.closingsOf hold.referenceId, closing.caller = number →
    0 < closing.overageMicroUsd → paid closing store

variable {store : SettlementStore} {userId : String}

structure Duty (hold : Reservation)
    (performs : Nat → Statement → Turn → SettlementStore → Prop) (number : Nat)
    (path : SettlementPath) (referenceId : String) (overageMicroUsd : Nat)
    (assertion goal : SettlementStore → Prop) : Prop where
  steady : Steady hold performs number assertion
  goalKept : ∀ who before after, StepAllowed hold who before after → goal before → goal after
  debited : ∀ store (debit : Debit), debit ∈ store.wallets.debits →
    debit.amountMicroUsd = overageMicroUsd →
      debit.referenceId = overageReference referenceId → goal store
  filed : ∀ store item, item ∈ store.reconciliationItems →
    item.reason = overageUncoveredReason → item.metadata.referenceId = some referenceId →
      item.metadata.overageMicroUsd = some overageMicroUsd → goal store
  answered : ∀ statement turn store, assertion store → 0 < overageMicroUsd → ¬ goal store →
    statement.isNeeded path = true → performs number statement turn store →
      Answered number statement turn store
  tolerated : ∀ userId walletType turn store, assertion store → 0 < overageMicroUsd →
    ¬ goal store → path = .chatUsage →
      performs number
        (.debitWallet userId walletType overageMicroUsd (overageReference referenceId)) turn store →
        TookOrRefused number
          (.debitWallet userId walletType overageMicroUsd (overageReference referenceId)) turn store

section Duties

variable {hold : Reservation}
variable {performs : Nat → Statement → Turn → SettlementStore → Prop}
variable {number : Nat}

variable {paid : Closing → SettlementStore → Prop}

theorem settled_up_steady (accounting : Accounting hold performs number paid) :
    Steady hold performs number (SettledUp hold number paid) where
  stable := by
    rintro before next ⟨_, _, other, apart, allowed⟩ settled closing member own owed
    have step : StepAllowed hold other before next := allowed
    rcases mem_closings_of.mp member with ⟨listed, reference⟩
    rcases step.closingsOwn closing listed with old | new
    · exact accounting.kept closing other before next step
        (settled closing (mem_closings_of.mpr ⟨old, reference⟩) own owed)
    · exact absurd (new.trans (congrArg some own)) apart
  kept := by
    intro before after allowed same settled closing member own owed
    rw [same] at member
    exact accounting.kept closing _ before after allowed (settled closing member own owed)

theorem own_duty (accounting : Accounting hold performs number paid) {closing : Closing}
    (own : closing.caller = number) :
    Duty hold performs number closing.path hold.referenceId closing.overageMicroUsd
      (fun store => store.closingsOf hold.referenceId = [closing]) (paid closing) where
  steady := closing_steady closing
  goalKept := accounting.kept closing
  debited := accounting.debited closing
  filed := accounting.filed closing
  answered := by
    intro statement turn store closings owed unpaid
    apply accounting.answered closing statement turn store _ own owed unpaid
    rw [closings]
    exact List.mem_singleton_self _
  tolerated := by
    intro userId walletType turn store closings owed unpaid
    apply accounting.tolerated closing userId walletType turn store _ own owed unpaid
    rw [closings]
    exact List.mem_singleton_self _

theorem other_duty {assertion : SettlementStore → Prop}
    (steady : Steady hold performs number assertion)
    (path : SettlementPath) (referenceId : String) (overageMicroUsd : Nat) :
    Duty hold performs number path referenceId overageMicroUsd assertion (fun _ => True) where
  steady := steady
  goalKept := fun _ _ _ _ _ => trivial
  debited := fun _ _ _ _ _ => trivial
  filed := fun _ _ _ _ _ _ => trivial
  answered := fun _ _ _ _ _ unpaid => absurd trivial unpaid
  tolerated := fun _ _ _ _ _ _ unpaid => absurd trivial unpaid

theorem settled_up_of_paid
    (paid : Closing → SettlementStore → Prop) {closing : Closing}
    (closings : store.closingsOf hold.referenceId = [closing])
    (paidFor : 0 < closing.overageMicroUsd → paid closing store) :
    SettledUp hold number paid store := by
  intro other otherMem _ owed
  rw [closings, List.mem_singleton] at otherMem
  subst otherMem
  exact paidFor owed

section Script

variable {path : SettlementPath} {referenceId : String} {overageMicroUsd : Nat}
variable {assertion goal : SettlementStore → Prop}

theorem goal_stable
    (duty : Duty hold performs number path referenceId overageMicroUsd assertion goal) :
    (settlementContract hold performs).Stable number goal := by
  rintro before next ⟨_, _, other, _, allowed⟩ met
  exact duty.goalKept other before next allowed met

theorem duty_met_steady
    (duty : Duty hold performs number path referenceId overageMicroUsd assertion goal) :
    Steady hold performs number (fun store => assertion store ∧ goal store) where
  stable := stable_and duty.steady.stable (goal_stable duty)
  kept := by
    intro before after allowed same held
    exact ⟨duty.steady.kept before after allowed same held.1,
      duty.goalKept _ before after allowed held.2⟩

def Certain (hold : Reservation)
    (performs : Nat → Statement → Turn → SettlementStore → Prop) (number : Nat)
    (assertion goal : SettlementStore → Prop) {Outcome : Type} (script : Settlement Outcome) :
    Prop :=
  ∀ store, LedgerInvariant hold store → assertion store →
    (settlementContract hold performs).Safe number (fun _ => assertion)
      (fun _ later => assertion later ∧ goal later) script store

theorem certain_bind
    {Middle Outcome : Type} {first : Settlement Middle} {next : Middle → Settlement Outcome}
    (certain : Certain hold performs number assertion goal first)
    (continued : ∀ outcome, Certain hold performs number assertion goal (next outcome)) :
    Certain hold performs number assertion goal (first.bind next) := by
  intro store invariant held
  apply safe_bind invariant (certain store invariant held)
  intro outcome later invariantLater heldLater
  exact continued outcome later invariantLater heldLater

variable {store : SettlementStore}

theorem certain_of_met {Outcome : Type} {script : Settlement Outcome}
    (keeps : (settlementContract hold performs).Keeps number
      (fun store => assertion store ∧ goal store) script)
    (invariant : LedgerInvariant hold store) (held : assertion store) (met : goal store) :
    (settlementContract hold performs).Safe number (fun _ => assertion)
      (fun _ later => assertion later ∧ goal later) script store := by
  apply safe_weaken (keeps store invariant ⟨held, met⟩)
  · intro _ later both
    exact both.1
  · intro _ later both
    exact both

section Needed

variable (duty : Duty hold performs number path referenceId overageMicroUsd assertion goal)
  (owed : 0 < overageMicroUsd) (statement : Statement) (quiet : statement.isQuiet = true)
  (needed : statement.isNeeded path = true) (known : SettlementStore → Prop)
  (knownStable : (settlementContract hold performs).Stable number known)
  (knownKept : ∀ turn store next answer, known store →
    statement.execute number turn store = .ok (next, answer) → known next)
  (done : statement.Answer → SettlementStore → Prop)
  (doneStable : ∀ answer, (settlementContract hold performs).Stable number (done answer))
  (effect : ∀ turn store next answer, known store →
    statement.execute number turn store = .ok (next, answer) → done answer next)
include duty owed quiet needed knownStable knownKept doneStable effect

theorem safe_needed_request (held : assertion store) (knows : known store) :
    (settlementContract hold performs).Safe number
      (fun reply later => (assertion later ∧ known later) ∧
        match reply with
        | .ok answer => done answer later
        | .error _ => goal later)
      (fun _ later => assertion later ∧ goal later)
      (Script.request statement : Settlement statement.Reply) store := by
  apply safe_request (fun later => assertion later ∧ known later) ⟨held, knows⟩
  · exact stable_and duty.steady.stable knownStable
  · intro reply
    apply stable_and (stable_and duty.steady.stable knownStable)
    cases reply with
    | ok answer => exact doneStable answer
    | error _ => exact goal_stable duty
  · intro later turn invariant heldLater performed
    rcases heldLater with ⟨heldLater, knowsLater⟩
    have onExecution : ∀ next answer, statement.execute number turn later = .ok (next, answer) →
        LedgerInvariant hold next ∧ StepAllowed hold (some number) later next ∧
          (assertion next ∧ known next) ∧ done answer next := by
      intro next answer ok
      have unaltered : Untouched hold (some number) later next ∧
          next.wallets.reservations = later.wallets.reservations := execute_quiet quiet ok
      have allowed := unaltered.1.toStepAllowed
      exact ⟨same_holds_invariant unaltered.1 unaltered.2 invariant, allowed,
        ⟨duty.steady.kept later next allowed unaltered.1.closings heldLater,
          knownKept turn later next answer knowsLater ok⟩,
        effect turn later next answer knowsLater ok⟩
    have errorMet : ∀ failure, (performStatement number statement turn later).2 =
        .error failure → goal later := by
      intro failure failed
      by_contra unmet
      rcases duty.answered statement turn later heldLater owed unmet needed performed with
        ⟨answer, answered⟩
      rw [answered] at failed
      cases failed
    change LedgerInvariant hold (performStatement number statement turn later).1 ∧
      StepAllowed hold (some number) later (performStatement number statement turn later).1 ∧
        (assertion (performStatement number statement turn later).1 ∧
          known (performStatement number statement turn later).1) ∧
          match (performStatement number statement turn later).2 with
          | .ok answer => done answer (performStatement number statement turn later).1
          | .error _ => goal (performStatement number statement turn later).1
    cases reply : (performStatement number statement turn later).2 with
    | ok answer => exact onExecution _ answer (perform_statement_answer reply)
    | error failure =>
      have met := errorMet failure reply
      rcases perform_statement_store number statement turn later with same | ⟨answer, ok⟩
      · rw [same]
        exact ⟨invariant, step_allowed_refl hold _ later, ⟨heldLater, knowsLater⟩, met⟩
      · rcases onExecution _ answer ok with ⟨kept, allowed, both, _⟩
        exact ⟨kept, allowed, both, duty.goalKept _ _ _ allowed met⟩

theorem safe_needed_ask
    (invariant : LedgerInvariant hold store) (held : assertion store) (knows : known store) :
    (settlementContract hold performs).Safe number
      (fun answer later => assertion later ∧ done answer later)
      (fun _ later => assertion later ∧ goal later) (ask statement) store := by
  apply safe_bind invariant
    (safe_needed_request duty owed statement quiet needed known knownStable knownKept done doneStable effect
      held knows)
  intro reply later _ after
  cases reply with
  | ok answer =>
    intro last interference
    exact ⟨stable_interference duty.steady.stable interference after.1.1,
      stable_interference (doneStable answer) interference after.2⟩
  | error failure =>
    exact safe_raise (duty_met_steady duty).stable ⟨after.1.1, after.2⟩

end Needed

theorem certain_ask
    (duty : Duty hold performs number path referenceId overageMicroUsd assertion goal)
    (owed : 0 < overageMicroUsd) {statement : Statement} (quiet : statement.isQuiet = true)
    (needed : statement.isNeeded path = true) :
    Certain hold performs number assertion goal (ask statement) := by
  intro store invariant held
  have asked := safe_needed_ask duty owed statement quiet needed
    (fun _ => True) (stable_true number) (fun _ _ _ _ _ _ => trivial)
    (fun _ _ => True) (fun _ => stable_true number) (fun _ _ _ _ _ _ => trivial)
    invariant held trivial
  apply safe_weaken asked
  · intro _ later after
    exact after.1
  · intro _ later after
    exact after

theorem require_user_id_named (named : isEmptyText userId = false) :
    requireUserId userId = .ret () := by
  simp [requireUserId, named]

theorem require_reference_id_named {referenceId : String}
    (named : isEmptyText referenceId = false) : requireReferenceId referenceId = .ret () := by
  simp [requireReferenceId, named]

theorem is_empty_text_append (left right : String) :
    isEmptyText (left ++ right) = (isEmptyText left && isEmptyText right) := by
  simp [isEmptyText, String.toList_append]

theorem overage_reference_named (referenceId : String) :
    isEmptyText (overageReference referenceId) = false := by
  rw [overageReference, is_empty_text_append, show isEmptyText ":overage" = false by decide,
    Bool.and_false]

theorem certain_ensure_wallet_account
    (duty : Duty hold performs number path referenceId overageMicroUsd assertion goal)
    (owed : 0 < overageMicroUsd) {purpose : AccountUse}
    (loadNeeded : (Statement.loadWalletAccount purpose userId).isNeeded path = true)
    (upsertNeeded : (Statement.upsertWalletAccount purpose userId).isNeeded path = true)
    (named : isEmptyText userId = false) : Certain hold performs number assertion goal
      (ensureManagedVeniceWalletAccount purpose userId) := by
  unfold ensureManagedVeniceWalletAccount
  simp only [Script.bind_eq, require_user_id_named named, Script.bind_ret]
  apply certain_bind (certain_ask duty owed rfl loadNeeded)
  intro account store invariant held
  cases account with
  | some account => exact safe_ret duty.steady.stable held
  | none =>
    let opened : SettlementStore → Prop := fun store =>
      ∃ account, account ∈ store.wallets.accounts ∧ account.userId = userId
    have openedStable : (settlementContract hold performs).Stable number opened := by
      rintro before next ⟨_, _, other, _, allowed⟩ ⟨account, member, user⟩
      have step : StepAllowed hold other before next := allowed
      exact ⟨account, step.accountsKept account member, user⟩
    have upserted := safe_needed_ask duty owed _ rfl upsertNeeded
      (fun _ => True) (stable_true number) (fun _ _ _ _ _ _ => trivial)
      (fun _ => opened) (fun _ => openedStable)
      (by
        intro turn before next answer _ ok
        simp only [Statement.execute] at ok
        split_ifs at ok with found
        · cases ok
          rcases Option.isSome_iff_exists.mp found with ⟨account, foundEq⟩
          rcases Table.find_mem foundEq with ⟨member, selected⟩
          exact ⟨account, member, by simpa using selected⟩
        · cases inserted : before.wallets.accounts.insert { id := turn.newId, userId } with
          | none => simp [inserted] at ok
          | some accounts =>
            simp only [inserted] at ok
            cases ok
            exact ⟨_, (Table.mem_insert inserted).mpr (.inr rfl), rfl⟩)
      invariant held trivial
    apply safe_bind invariant upserted
    intro _ later invariantLater after
    have loaded := safe_needed_ask duty owed _ rfl loadNeeded
      opened openedStable
      (by
        intro turn before next answer exists_ ok
        cases ok
        exact exists_)
      (fun answer _ => answer.isSome = true) (fun _ _ _ _ some_ => some_)
      (by
        intro turn before next answer exists_ ok
        cases ok
        rcases exists_ with ⟨account, member, user⟩
        cases found : before.wallets.accounts.find? fun row => row.userId == userId with
        | some account => rfl
        | none =>
          have unselected := Table.find_none found member
          simp [user] at unselected)
      invariantLater after.1 after.2
    apply safe_bind invariantLater loaded
    intro account last _ found
    cases account with
    | some account => exact safe_ret duty.steady.stable found.1
    | none => cases found.2

theorem certain_append_financial_event
    (duty : Duty hold performs number .chatUsage referenceId overageMicroUsd assertion goal)
    (owed : 0 < overageMicroUsd) (event : FinancialEvent)
    (userNamed : isEmptyText event.userId = false)
    (referenceNamed : isEmptyText event.referenceId = false)
    (keyNamed : isEmptyText event.idempotencyKey = false) :
    Certain hold performs number assertion goal (appendManagedVeniceFinancialEvent event) := by
  unfold appendManagedVeniceFinancialEvent
  simp only [Script.bind_eq, require_user_id_named userNamed,
    require_reference_id_named referenceNamed, require_reference_id_named keyNamed,
    Script.bind_ret]
  apply certain_bind (certain_ask duty owed rfl rfl)
  intro existing store invariant held
  cases existing with
  | some existing => exact safe_ret duty.steady.stable held
  | none =>
    have inserted := safe_needed_request duty owed
      (Statement.insertFinancialEvent event) rfl rfl
      (fun _ => True) (stable_true number) (fun _ _ _ _ _ _ => trivial)
      (fun _ _ => True) (fun _ => stable_true number) (fun _ _ _ _ _ _ => trivial)
      held trivial
    apply safe_bind invariant inserted
    intro reply later invariantLater after
    cases reply with
    | ok _ => exact safe_ret duty.steady.stable after.1.1
    | error failure =>
      exact certain_of_met
        (keeps_appended_financial_event (duty_met_steady duty) event (.error failure))
        invariantLater after.1.1 after.2

theorem safe_file_uncovered_overage
    (duty : Duty hold performs number path referenceId overageMicroUsd assertion goal)
    (owed : 0 < overageMicroUsd) (named : isEmptyText userId = false)
    (proxyKeyId model : Option String) (reservedMicroUsd : Option Nat) (costMicroUsd : Nat)
    (walletType : WalletType) (pauseKey : Bool) (cause : Option String)
    (invariant : LedgerInvariant hold store) (held : assertion store) :
    (settlementContract hold performs).Safe number
      (fun _ later => assertion later ∧ goal later)
      (fun _ later => assertion later ∧ goal later)
      (fileManagedVeniceUncoveredOverage userId proxyKeyId referenceId model reservedMicroUsd
        costMicroUsd overageMicroUsd walletType pauseKey cause) store := by
  have loadNeeded : (Statement.loadWalletAccount (.reconciliationItem overageUncoveredReason)
      userId).isNeeded path = true := by simp [Statement.isNeeded]
  have upsertNeeded : (Statement.upsertWalletAccount (.reconciliationItem overageUncoveredReason)
      userId).isNeeded path = true := by simp [Statement.isNeeded]
  apply safe_bind invariant
    (certain_ensure_wallet_account duty owed loadNeeded upsertNeeded named store invariant held)
  intro account later invariantLater heldLater
  have inserted := safe_needed_ask duty owed
    (Statement.insertReconciliationItem
      { userId
        accountId := account.id
        proxyKeyId
        reason := overageUncoveredReason
        metadata :=
          { referenceId := some referenceId
            model
            reservedMicroUsd
            actualCostMicroUsd := some costMicroUsd
            overageMicroUsd := some overageMicroUsd
            walletType := some walletType
            cause } })
    rfl (by simp [Statement.isNeeded])
    (fun _ => True) (stable_true number) (fun _ _ _ _ _ _ => trivial)
    (fun _ => goal) (fun _ => goal_stable duty)
    (by
      intro turn before next answer _ ok
      simp only [Statement.execute] at ok
      split at ok
      · cases ok
      · rename_i items insertedRow
        cases ok
        exact duty.filed _ _ ((Table.mem_insert insertedRow).mpr (.inr rfl)) rfl rfl rfl)
    invariantLater heldLater trivial
  apply safe_bind invariantLater inserted
  intro _ last invariantLast met
  have steady := duty_met_steady duty
  cases pauseKey with
  | false => exact safe_ret steady.stable met
  | true =>
    cases proxyKeyId with
    | none => exact safe_ret steady.stable met
    | some proxyKeyId =>
      have paused : (settlementContract hold performs).Keeps number
          (fun store => assertion store ∧ goal store)
          ((ask (.pauseProxyKey proxyKeyId userId overageUncoveredReason)).bind
            fun _ => .ret true) := by
        exact keeps_then_ret steady (keeps_ask_quiet steady rfl) _
      exact paused last invariantLast met

theorem perform_took {statement : Statement} {turn : Turn}
    {result : SettlementStore × statement.Answer} (delivered : turn.delivery ≠ .refused)
    (ok : statement.execute number turn store = .ok result) :
    (performStatement number statement turn store).1 = result.1 := by
  unfold performStatement
  cases delivery : turn.delivery with
  | answered => simp [ok]
  | refused => exact absurd delivery delivered
  | replyLost => simp [ok]

def DebitOutcome (overageMicroUsd : Nat) (goal : SettlementStore → Prop) :
    OverageStatus → SettlementStore → Prop
  | .none, _ => overageMicroUsd = 0
  | .captured, store => goal store
  | .reconciliationRequired, _ => 0 < overageMicroUsd
  | .debitFailed, _ => 0 < overageMicroUsd

def DebitAnswered (path : SettlementPath) (goal : SettlementStore → Prop) :
    Except SqlError Unit → SettlementStore → Prop
  | .ok _, store => goal store
  | .error failure, store => failure ≠ .insufficientBalance → path = .chatUsage → goal store

section

variable (duty : Duty hold performs number path referenceId overageMicroUsd assertion goal)
include duty

theorem debit_answered_stable (reply : Except SqlError Unit) :
    (settlementContract hold performs).Stable number (DebitAnswered path goal reply) := by
  cases reply with
  | ok _ => exact goal_stable duty
  | error failure =>
    intro before next disturbs answered other chat
    exact goal_stable duty before next disturbs (answered other chat)

theorem safe_debit_request (owed : 0 < overageMicroUsd) (userId : String) (walletType : WalletType)
    {failed : SettlementError → SettlementStore → Prop} (held : assertion store)
    (may : MayDebitOverage hold number referenceId overageMicroUsd store) :
    (settlementContract hold performs).Safe number
      (fun reply later => assertion later ∧ DebitAnswered path goal reply later) failed
      (Script.request (Statement.debitWallet userId walletType overageMicroUsd
          (overageReference referenceId)) :
        Settlement (Statement.debitWallet userId walletType overageMicroUsd
          (overageReference referenceId)).Reply) store := by
  apply safe_request
    (fun later => assertion later ∧ MayDebitOverage hold number referenceId overageMicroUsd later)
    ⟨held, may⟩
  · exact stable_and duty.steady.stable (may_debit_overage_stable _ _)
  · intro reply
    exact stable_and duty.steady.stable (debit_answered_stable duty reply)
  · intro later turn invariant known performed
    rcases known with ⟨heldLater, mayLater⟩
    let statement := Statement.debitWallet userId walletType overageMicroUsd
      (overageReference referenceId)
    have onExecution : ∀ next answer, statement.execute number turn later = .ok (next, answer) →
        LedgerInvariant hold next ∧ StepAllowed hold (some number) later next ∧
          assertion next ∧ goal next := by
      intro next answer ok
      rcases execute_overage_debit mayLater ok invariant with
        ⟨allowed, kept, closings, debit, member, amount, reference⟩
      have sameClosings : next.closingsOf hold.referenceId = later.closingsOf hold.referenceId := by
        rw [SettlementStore.closingsOf, closings, SettlementStore.closingsOf]
      exact ⟨kept, allowed, duty.steady.kept later next allowed sameClosings heldLater,
        duty.debited next debit member amount reference⟩
    change LedgerInvariant hold (performStatement number statement turn later).1 ∧
      StepAllowed hold (some number) later (performStatement number statement turn later).1 ∧
        assertion (performStatement number statement turn later).1 ∧
          DebitAnswered path goal (performStatement number statement turn later).2
            (performStatement number statement turn later).1
    rcases perform_statement_store number statement turn later with same | ⟨answer, ok⟩
    · cases reply : (performStatement number statement turn later).2 with
      | ok answer =>
        rcases onExecution _ answer (perform_statement_answer reply) with
          ⟨kept, allowed, after, met⟩
        exact ⟨kept, allowed, after, met⟩
      | error failure =>
        rw [same]
        refine ⟨invariant, step_allowed_refl hold _ later, heldLater, ?_⟩
        intro other chat
        by_contra unmet
        rcases duty.tolerated userId walletType turn later heldLater owed unmet chat performed with
          ⟨delivered, result, ok⟩ | refused
        · have stays : result.1 = later := (perform_took delivered ok).symm.trans same
          exact unmet (stays ▸ (onExecution result.1 result.2 ok).2.2.2)
        · have sameReply := refused.symm.trans reply
          exact other (Except.error.inj sameReply).symm
    · rcases onExecution _ answer ok with ⟨kept, allowed, after, met⟩
      refine ⟨kept, allowed, after, ?_⟩
      cases reply : (performStatement number statement turn later).2 with
      | ok _ => exact met
      | error failure => exact fun _ _ => met

def DebitThrew (path : SettlementPath) (goal : SettlementStore → Prop)
    (failure : SettlementError) (store : SettlementStore) : Prop :=
  failure.isInsufficientBalance = false → path = .chatUsage → goal store

theorem safe_debit_call (owed : 0 < overageMicroUsd) (userId : String) (walletType : WalletType)
    (invariant : LedgerInvariant hold store) (held : assertion store)
    (may : MayDebitOverage hold number referenceId overageMicroUsd store) :
    (settlementContract hold performs).Safe number
      (fun _ later => assertion later ∧ goal later)
      (fun failure later => assertion later ∧ DebitThrew path goal failure later)
      (callWalletFunction (.debitWallet userId walletType overageMicroUsd
        (overageReference referenceId))) store := by
  apply safe_bind invariant (safe_debit_request duty owed userId walletType held may)
  intro reply later _ after
  cases reply with
  | ok _ => exact safe_ret (duty_met_steady duty).stable after
  | error failure =>
    intro last interference
    constructor
    · exact stable_interference duty.steady.stable interference after.1
    · intro other chat
      have unlike : failure ≠ .insufficientBalance := by
        intro same
        rw [same] at other
        cases other
      exact stable_interference (goal_stable duty) interference (after.2 unlike chat)

theorem safe_debit_wallet (owed : 0 < overageMicroUsd)
    (named : isEmptyText userId = false) (walletType : WalletType)
    (invariant : LedgerInvariant hold store) (held : assertion store)
    (may : MayDebitOverage hold number referenceId overageMicroUsd store) :
    (settlementContract hold performs).Safe number
      (fun _ later => assertion later ∧ goal later)
      (fun failure later => assertion later ∧ DebitThrew path goal failure later)
      (Settlement.debitManagedVeniceWallet userId walletType overageMicroUsd
        (overageReference referenceId)) store := by
  have positive : ¬ overageMicroUsd = 0 := Nat.ne_of_gt owed
  unfold Settlement.debitManagedVeniceWallet
  simp only [Script.bind_eq, require_user_id_named named,
    require_reference_id_named (overage_reference_named referenceId), if_neg positive,
    Script.bind_ret]
  apply safe_bind invariant (safe_debit_call duty owed userId walletType invariant held may)
  intro _ later invariantLater met
  apply safe_weaken (keeps_wallet_summary (duty_met_steady duty) userId later invariantLater met)
  · intro _ last both
    exact both
  · intro _ last both
    exact ⟨both.1, fun _ _ => both.2⟩

theorem safe_overage_debit (named : isEmptyText userId = false)
    (walletType : WalletType) (invariant : LedgerInvariant hold store) (held : assertion store)
    (may : MayDebitOverage hold number referenceId overageMicroUsd store) :
    (settlementContract hold performs).Safe number
      (fun status later => assertion later ∧ status ≠ .debitFailed ∧
        DebitOutcome overageMicroUsd goal status later)
      (fun _ later => assertion later ∧ 0 < overageMicroUsd ∧ (path = .chatUsage → goal later))
      (debitManagedVeniceOverage userId walletType referenceId overageMicroUsd) store := by
  unfold debitManagedVeniceOverage
  by_cases nothing : overageMicroUsd = 0
  · rw [if_pos nothing]
    intro later interference
    exact ⟨stable_interference duty.steady.stable interference held, by simp, nothing⟩
  · have owed : 0 < overageMicroUsd := Nat.pos_of_ne_zero nothing
    rw [if_neg nothing]
    have body : (settlementContract hold performs).Safe number
        (fun status later => assertion later ∧ status ≠ .debitFailed ∧
          DebitOutcome overageMicroUsd goal status later)
        (fun failure later => assertion later ∧ DebitThrew path goal failure later)
        ((Settlement.debitManagedVeniceWallet userId walletType overageMicroUsd
          (overageReference referenceId)).bind fun _ => .ret .captured) store := by
      apply safe_bind invariant
        (safe_debit_wallet duty owed named walletType invariant held may)
      intro _ later _ met last interference
      exact ⟨stable_interference duty.steady.stable interference met.1, by simp,
        stable_interference (goal_stable duty) interference met.2⟩
    apply safe_handle invariant body
    intro failure later _ threw
    split_ifs with refused
    · intro last interference
      exact ⟨stable_interference duty.steady.stable interference threw.1, by simp, owed⟩
    · intro last interference
      refine ⟨stable_interference duty.steady.stable interference threw.1, owed, ?_⟩
      intro chat
      exact stable_interference (goal_stable duty) interference
        (threw.2 (Bool.eq_false_iff.mpr refused) chat)

end

end Script

end Duties

end Hivra.ManagedVenice
