import Hivra.ManagedVenice.SettledOnce

/-!
# No overage is lost, if the database lets a settlement finish

The run that closed a hold debits its overage in a second step.  A run whose debit
fails files the overage as an item, except that `captureManagedVeniceChatUsage`
throws when the debit fails for anything but the balance: the item its caller then
files does not hold the overage, and a sweep closes it because the hold is captured.
-/

namespace Hivra.ManagedVenice

open Hivra.Library
open Hivra.Library.Contract

def OverageRecorded (hold : Reservation) (closing : Closing) (store : SettlementStore) : Prop :=
  (∃ debit ∈ store.wallets.debits, debit.amountMicroUsd = closing.overageMicroUsd ∧
    debit.referenceId = overageReference hold.referenceId) ∨
  ∃ item, item ∈ store.reconciliationItems ∧ item.reason = overageUncoveredReason ∧
    item.metadata.referenceId = some hold.referenceId ∧
    item.metadata.overageMicroUsd = some closing.overageMicroUsd

variable {hold : Reservation}

theorem overage_recorded_kept {closing : Closing} {who : Option Nat}
    {before after : SettlementStore} (allowed : StepAllowed hold who before after)
    (recorded : OverageRecorded hold closing before) : OverageRecorded hold closing after := by
  rcases recorded with ⟨debit, member, amount, reference⟩ | ⟨item, member, reason, fields⟩
  · exact .inl ⟨debit, allowed.debitsKept debit member, amount, reference⟩
  · right
    rcases allowed.itemsKept item member with ⟨later, laterMem, same⟩
    have sameReason : later.core.reason = item.core.reason := by rw [same]
    have sameReference : later.core.metadata.referenceId = item.core.metadata.referenceId := by
      rw [same]
    have sameOverage : later.core.metadata.overageMicroUsd = item.core.metadata.overageMicroUsd := by
      rw [same]
    exact ⟨later, laterMem, sameReason.trans reason, sameReference.trans fields.1,
      sameOverage.trans fields.2⟩

/-- The database lets the run that closes the hold get its overage on record: it answers
the capture, then what the settlement needs to file the overage, and the debit a
usage settlement makes takes effect or is refused for the balance. -/
structure LetsFinish (hold : Reservation) (number : Nat) (statement : Statement) (turn : Turn)
    (store : SettlementStore) : Prop where
  captureDelivered : ∀ path costMicroUsd userId captureMicroUsd,
    statement = .captureReservation path costMicroUsd userId hold.referenceId captureMicroUsd →
      captureMicroUsd < costMicroUsd → turn.delivery ≠ .replyLost
  answered : ∀ closing ∈ store.closingsOf hold.referenceId, closing.caller = number →
    0 < closing.overageMicroUsd → ¬ OverageRecorded hold closing store →
      statement.isNeeded closing.path = true → Answered number statement turn store
  tolerated : ∀ closing ∈ store.closingsOf hold.referenceId, closing.caller = number →
    0 < closing.overageMicroUsd → ¬ OverageRecorded hold closing store →
      closing.path = .chatUsage → ∀ userId walletType,
        statement = .debitWallet userId walletType closing.overageMicroUsd
          (overageReference hold.referenceId) →
            TookOrRefused number statement turn store

theorem overage_accounting (hold : Reservation) (number : Nat) :
    Accounting hold (LetsFinish hold) number (OverageRecorded hold) where
  kept := fun _ _ _ _ allowed recorded => overage_recorded_kept allowed recorded
  debited := fun _ _ debit member amount reference => .inl ⟨debit, member, amount, reference⟩
  filed := fun _ _ item member reason reference overage =>
    .inr ⟨item, member, reason, reference, overage⟩
  delivered := by
    intro path costMicroUsd userId captureMicroUsd turn store lets short
    exact .inl (lets.captureDelivered path costMicroUsd userId captureMicroUsd rfl short)
  answered := by
    intro closing statement turn store member own owed unrecorded needed lets
    exact lets.answered closing member own owed unrecorded needed
  tolerated := by
    intro closing userId walletType turn store member own owed unrecorded chat lets
    exact lets.tolerated closing member own owed unrecorded chat userId walletType rfl

def OverageDebitedOrFiled (hold : Reservation) (closing : Closing) (store : SettlementStore) :
    Prop :=
  (∃ debit : Debit, store.debitsUnder (overageReference hold.referenceId) = [debit] ∧
    debit.amountMicroUsd = closing.overageMicroUsd) ∨
  ∃ item ∈ store.reconciliationItems.rows, item.reason = overageUncoveredReason ∧
    item.metadata.referenceId = some hold.referenceId ∧
    item.metadata.overageMicroUsd = some closing.overageMicroUsd

theorem debited_or_filed_of_recorded {closing : Closing} {store : SettlementStore}
    (invariant : LedgerInvariant hold store) (recorded : OverageRecorded hold closing store) :
    OverageDebitedOrFiled hold closing store := by
  rcases recorded with ⟨debit, member, amount, reference⟩ | filed
  · left
    have listed : debit ∈ store.debitsUnder (overageReference hold.referenceId) :=
      mem_debits_under.mpr ⟨member, reference⟩
    rcases invariant.overage with none | ⟨_, _, only, debits, _, _⟩
    · rw [none] at listed
      cases listed
    · rw [debits, List.mem_singleton] at listed
      subst listed
      exact ⟨debit, debits, amount⟩
  · exact .inr filed

/-- In every schedule in which the database lets settlements finish, a settlement that
has ended has its overage debited once or on record as uncovered. -/
theorem overage_is_debited_or_filed (hold : Reservation) (store : SettlementStore)
    (unsettled : Unsettled hold store) (events : List (Event SettlementJob Turn WalletChange))
    (finish : (settlementContract hold (LetsFinish hold)).toConditions.AdmitsAll
      (System.initial store) events)
    (number : Nat)
    (ended : (settlementSystem.after (System.initial store) events).ended number = true) :
    ∀ closing ∈ (settlementSystem.after (System.initial store) events).store.closingsOf
        hold.referenceId,
      closing.caller = number → 0 < closing.overageMicroUsd →
        OverageDebitedOrFiled hold closing
          (settlementSystem.after (System.initial store) events).store := by
  have holds := contract_holds_after (overage_accounting hold) unsettled events finish
  intro closing member own owed
  apply debited_or_filed_of_recorded holds.invariant
  rcases holds_ended holds ended with ⟨_, settled⟩ | ⟨_, settled⟩
  · exact settled closing member own owed
  · exact settled closing member own owed

theorem lets_finish_of_answered {number : Nat} {statement : Statement} {turn : Turn}
    {store : SettlementStore} (answered : Answered number statement turn store) :
    LetsFinish hold number statement turn store := by
  rcases answered with ⟨answer, reply⟩
  have executes := perform_statement_answer reply
  have delivered : turn.delivery = .answered := by
    unfold performStatement at reply
    rw [executes] at reply
    cases delivery : turn.delivery with
    | answered => rfl
    | refused => simp [delivery] at reply
    | replyLost => simp [delivery] at reply
  constructor
  · intro _ _ _ _ _ _
    rw [delivered]
    exact fun impossible => by cases impossible
  · intro _ _ _ _ _ _
    exact ⟨answer, reply⟩
  · intro _ _ _ _ _ _ _ _ _
    left
    constructor
    · rw [delivered]
      exact fun impossible => by cases impossible
    · exact ⟨_, executes⟩

def isAnswered (world : World Statement Statement.Reply SettlementError Unit SettlementStore) :
    Event SettlementJob Turn WalletChange → Bool
  | .start _ => true
  | .advance run turn =>
    match world.runs[run]? with
    | some (some (.call statement _)) => (performStatement run statement turn world.store).2.isOk
    | _ => true
  | .stop _ => true
  | .outside _ => false

def allAnswered (world : World Statement Statement.Reply SettlementError Unit SettlementStore) :
    List (Event SettlementJob Turn WalletChange) → Bool
  | [] => true
  | event :: events =>
    isAnswered world event && allAnswered (settlementSystem.step world event) events

theorem admits_of_is_answered (hold : Reservation) (event : Event SettlementJob Turn WalletChange)
    (world : World Statement Statement.Reply SettlementError Unit SettlementStore)
    (answered : isAnswered world event = true) :
    (settlementContract hold (LetsFinish hold)).toConditions.Admits world event := by
  cases event with
  | start job => trivial
  | advance run turn =>
    intro statement next running
    apply lets_finish_of_answered
    simp only [isAnswered, running] at answered
    cases reply : (performStatement run statement turn world.store).2 with
    | ok answer => exact ⟨answer, reply⟩
    | error failure =>
      rw [reply] at answered
      cases answered
  | stop run => trivial
  | outside change => cases answered

theorem admits_all_answered
    (hold : Reservation) (events : List (Event SettlementJob Turn WalletChange))
    (world : World Statement Statement.Reply SettlementError Unit SettlementStore)
    (answered : allAnswered world events = true) :
    (settlementContract hold (LetsFinish hold)).toConditions.AdmitsAll world events := by
  induction events generalizing world with
  | nil => trivial
  | cons event events ih =>
    rw [allAnswered, Bool.and_eq_true] at answered
    constructor
    · exact admits_of_is_answered hold event world answered.1
    · exact ih _ answered.2

def coveredOverage : List (Event SettlementJob Turn WalletChange) :=
  .start (.settleStream streamedUsage "managed_venice_stream_settlement_failed" 100) ::
    List.replicate 12 (.advance 0 answeredTurn)

theorem covered_overage_is_debited :
    ((settlementSystem.after (System.initial heldWallet) coveredOverage).store.closingsOf
        "request").map Closing.overageMicroUsd = [415] ∧
      ∀ closing ∈ (settlementSystem.after (System.initial heldWallet) coveredOverage).store.closingsOf
          "request",
        closing.caller = 0 → 0 < closing.overageMicroUsd →
          OverageDebitedOrFiled (newHold "hold" "user" .card "request" 400) closing
            (settlementSystem.after (System.initial heldWallet) coveredOverage).store :=
  ⟨by decide +kernel, overage_is_debited_or_filed _ _ held_wallet_unsettled coveredOverage
    (admits_all_answered _ _ _ (by decide +kernel)) 0 (by decide +kernel)⟩

/-- The stream is captured, the debit of its overage fails for another reason than the
balance, the stream's item is filed, and a sweep a day later closes the item. -/
def lostOverage : List (Event SettlementJob Turn WalletChange) :=
  ([.start (.settleStream streamedUsage "managed_venice_stream_settlement_failed" 100),
    .advance 0 answeredTurn, .advance 0 answeredTurn,
    .advance 0 { delivery := .refused, newId := "row", now := 1000 }] :
      List (Event SettlementJob Turn WalletChange)) ++
    List.replicate 4 (.advance 0 answeredTurn) ++
    [.start (.sweep { now := 86400000 })] ++ List.replicate 6 (.advance 1 answeredTurn)

def lostOverageWorld : World Statement Statement.Reply SettlementError Unit SettlementStore :=
  settlementSystem.after (System.initial heldWallet) lostOverage

/-- The cost was 815 and the hold paid 400: the other 415 are neither debited nor in any
item. -/
theorem overage_is_lost : lostOverageWorld.ended 0 = true ∧ lostOverageWorld.ended 1 = true ∧
      lostOverageWorld.store.closingsOf "request" =
        [{ caller := 0
           referenceId := "request"
           path := .chatUsage
           costMicroUsd := 815
           capturedMicroUsd := 400 }] ∧
      lostOverageWorld.store.debitsUnder (overageReference "request") = [] ∧
      ∀ item ∈ lostOverageWorld.store.reconciliationItems.rows,
        item.reason ≠ overageUncoveredReason ∧ item.metadata.overageMicroUsd = none ∧
          item.status = .ignored := by
  decide +kernel

end Hivra.ManagedVenice
