import Hivra.ManagedVenice.SettlementSafety

/-!
# A hold is settled at most once

Usage settlements, observed-output and sweep charges and releases race over one
hold, any number of each, each of them stopping anywhere.  Whatever the schedule,
one of them closes the hold, and what the wallet paid for it is what that one run
computed.
-/

namespace Hivra.ManagedVenice

open Hivra.Library
open Hivra.Library.Contract
open Hivra.Venice

section Sound

variable {hold : Reservation}
variable {performs : Nat → Statement → Turn → SettlementStore → Prop}
variable {paid : Closing → SettlementStore → Prop}

theorem wallet_change_rows (change : WalletChange) (store : SettlementStore) :
    (change.apply store).wallets.debits = store.wallets.debits ∧
      (change.apply store).wallets.accounts = store.wallets.accounts ∧
      ((change.apply store).wallets.reservations = store.wallets.reservations ∨
        ∃ row, change = .createHold row ∧
          store.wallets.reservations.insert row =
            some (change.apply store).wallets.reservations) := by
  unfold WalletChange.apply Wallets.after
  dsimp only
  cases executed : store.wallets.execute _ with
  | error failure => exact ⟨rfl, rfl, .inl rfl⟩
  | ok next =>
    cases change with
    | createHold row =>
      rcases insert_reservation_ok executed with ⟨rows, inserted, nextEq, _⟩
      subst nextEq
      exact ⟨rfl, rfl, .inr ⟨row, rfl, inserted⟩⟩
    | creditCard credit =>
      rcases insert_card_ledger_entry_ok executed with ⟨_, _, nextEq⟩
      subst nextEq
      exact ⟨rfl, rfl, .inl rfl⟩
    | depositLot lot =>
      rcases insert_token_lot_ok executed with ⟨_, _, nextEq⟩
      subst nextEq
      exact ⟨rfl, rfl, .inl rfl⟩

theorem wallet_change_keeps (change : WalletChange) (store : SettlementStore)
    (invariant : LedgerInvariant hold store) (plain : change.KeepsPlain hold) :
    LedgerInvariant hold (change.apply store) ∧
      StepAllowed hold none store (change.apply store) := by
  rcases wallet_change_rows change store with ⟨debits, accounts, rows⟩
  have untouched : Untouched hold none store (change.apply store) := by
    apply untouched_of_same debits
    · rfl
    · rw [accounts]
      exact fun _ member => member
    · exact fun item member => ⟨item, member, rfl⟩
  constructor
  · rcases rows with same | ⟨row, isCreated, inserted⟩
    · exact same_holds_invariant untouched same invariant
    · subst isCreated
      apply untouched_invariant untouched invariant
      · intro old member
        exact ⟨old, (Table.mem_insert inserted).mpr (.inl member), rfl⟩
      · intro later laterMem
        rcases (Table.mem_insert inserted).mp laterMem with old | new
        · constructor
          · exact invariant.plain later old
          · intro reference
            exact ⟨invariant.reserved later old reference,
              fun captured => captured later old reference⟩
        · subst new
          constructor
          · exact plain
          · intro reference
            exfalso
            rcases invariant.present with ⟨held, heldMem, heldReference⟩
            apply Table.insert_apart inserted heldMem (.reference held.referenceId)
            · exact reference_mem_reservation_entries.mpr rfl
            · exact reference_mem_reservation_entries.mpr (reference.trans heldReference.symm)
  · exact untouched.toStepAllowed

theorem settlement_sound (accounting : ∀ number, Accounting hold performs number paid) :
    (settlementContract hold performs).Sound
      (fun number _ => SettledUp hold number paid)
      (fun number _ => SettledUp hold number paid) where
  program_safe := by
    intro job number store invariant _ fresh
    apply keeps_job (accounting number) job store invariant
    intro closing member own
    exact absurd own (fresh closing (mem_closings_of.mp member).1)
  change_keeps := wallet_change_keeps
  fresh_kept := by
    intro number other before next apart allowed fresh closing member
    have step : StepAllowed hold other before next := allowed
    rcases step.closingsOwn closing member with old | new
    · exact fresh closing old
    · intro own
      exact apart (new.trans (congrArg some own))

end Sound

/-- A hold nothing has been settled of yet, whatever its status; no other hold has its
overage reference. -/
structure Unsettled (hold : Reservation) (store : SettlementStore) : Prop where
  member : hold ∈ store.wallets.reservations
  plain : ∀ row, row ∈ store.wallets.reservations → Plain hold row
  unclosed : store.closings = []
  undebited : store.debitsUnder hold.referenceId = []
  unspent : store.debitsUnder (overageReference hold.referenceId) = []

theorem unsettled_invariant
    {hold : Reservation} {store : SettlementStore} (unsettled : Unsettled hold store) :
    LedgerInvariant hold store := by
  have unclosed : store.closingsOf hold.referenceId = [] := by
    rw [SettlementStore.closingsOf, unsettled.unclosed, List.filter_nil]
  exact
    { present := ⟨hold, unsettled.member, rfl⟩
      reserved := by
        intro row member reference
        rw [hold_eq_of_reference member unsettled.member reference]
      plain := unsettled.plain
      closedOnce := by
        rw [unclosed]
        exact Nat.zero_le 1
      closed := by
        rw [unclosed]
        exact fun _ impossible => by cases impossible
      debited := .inl unsettled.undebited
      overage := .inl unsettled.unspent }

theorem contract_holds_after
    {hold : Reservation} {performs : Nat → Statement → Turn → SettlementStore → Prop}
    {paid : Closing → SettlementStore → Prop}
    (accounting : ∀ number, Accounting hold performs number paid)
    {store : SettlementStore} (unsettled : Unsettled hold store)
    (events : List (Event SettlementJob Turn WalletChange))
    (admitted : (settlementContract hold performs).toConditions.AdmitsAll
      (System.initial store) events) :
    (settlementContract hold performs).Holds
      (settlementSystem.after (System.initial store) events)
      (fun number _ => SettledUp hold number paid)
      (fun number _ => SettledUp hold number paid) := by
  apply holds_after_events (settlement_sound accounting) events _ admitted
  apply holds_initial
  · exact unsettled_invariant unsettled
  · intro number closing member
    rw [unsettled.unclosed] at member
    cases member

def sumOf (debits : List Debit) : Nat :=
  (debits.map Debit.amountMicroUsd).sum

/-- What the ledger shows of a hold that is settled at most once: one capture at most,
one overage debit at most, both by the run that closed the hold. -/
structure SettledAtMostOnce (hold : Reservation) (store : SettlementStore) : Prop where
  closedOnce : (store.closingsOf hold.referenceId).length ≤ 1
  captured : store.debitsUnder hold.referenceId = [] ∨
    ∃ closing ∈ store.closingsOf hold.referenceId, ∃ debit : Debit,
      store.debitsUnder hold.referenceId = [debit] ∧ debit.caller = closing.caller ∧
        debit.amountMicroUsd = closing.capturedMicroUsd ∧
          debit.amountMicroUsd ≤ hold.reservedMicroUsd
  overage : store.debitsUnder (overageReference hold.referenceId) = [] ∨
    ∃ closing ∈ store.closingsOf hold.referenceId, ∃ debit : Debit,
      store.debitsUnder (overageReference hold.referenceId) = [debit] ∧
        debit.caller = closing.caller ∧
          debit.amountMicroUsd = closing.costMicroUsd - closing.capturedMicroUsd
  released : ∀ row, row ∈ store.wallets.reservations → row.referenceId = hold.referenceId →
    row.status = .released →
      store.debitsUnder hold.referenceId = [] ∧
        store.debitsUnder (overageReference hold.referenceId) = []
  withinCost :
    sumOf (store.debitsUnder hold.referenceId) +
        sumOf (store.debitsUnder (overageReference hold.referenceId)) ≤
      ((store.closingsOf hold.referenceId).map Closing.costMicroUsd).sum

section Ledger

variable {hold : Reservation} {store : SettlementStore}

theorem undebited_of_not_captured (invariant : LedgerInvariant hold store)
    {row : Reservation} (member : row ∈ store.wallets.reservations)
    (reference : row.referenceId = hold.referenceId) (notCaptured : row.status ≠ .captured) :
    store.debitsUnder hold.referenceId = [] ∧
      store.debitsUnder (overageReference hold.referenceId) = [] := by
  have unclosed : ∀ closing, closing ∉ store.closingsOf hold.referenceId := by
    intro closing closingMem
    exact notCaptured ((invariant.closed closing closingMem).1 row member reference)
  constructor
  · rcases invariant.debited with none | ⟨closing, closingMem, _⟩
    · exact none
    · exact absurd closingMem (unclosed closing)
  · rcases invariant.overage with none | ⟨closing, closingMem, _⟩
    · exact none
    · exact absurd closingMem (unclosed closing)

theorem debits_within_cost (invariant : LedgerInvariant hold store) :
    sumOf (store.debitsUnder hold.referenceId) +
        sumOf (store.debitsUnder (overageReference hold.referenceId)) ≤
      ((store.closingsOf hold.referenceId).map Closing.costMicroUsd).sum := by
  cases closings : store.closingsOf hold.referenceId with
  | nil =>
    have undebited : store.debitsUnder hold.referenceId = [] := by
      rcases invariant.debited with none | ⟨closing, member, _⟩
      · exact none
      · rw [closings] at member
        cases member
    have unspent : store.debitsUnder (overageReference hold.referenceId) = [] := by
      rcases invariant.overage with none | ⟨closing, member, _⟩
      · exact none
      · rw [closings] at member
        cases member
    rw [undebited, unspent]
    exact Nat.le_refl _
  | cons closing rest =>
    have listed : closing ∈ store.closingsOf hold.referenceId := by
      rw [closings]
      exact List.mem_cons_self
    have covered := (invariant.closed closing listed).2.2
    have captured : sumOf (store.debitsUnder hold.referenceId) ≤ closing.capturedMicroUsd := by
      rcases invariant.debited with none | ⟨other, member, debit, debits, _, amount⟩
      · rw [none]
        exact Nat.zero_le _
      · rw [closed_once invariant listed member, debits, ← amount]
        exact Nat.le_refl _
    have overage : sumOf (store.debitsUnder (overageReference hold.referenceId)) ≤
        closing.overageMicroUsd := by
      rcases invariant.overage with none | ⟨other, member, debit, debits, _, amount⟩
      · rw [none]
        exact Nat.zero_le _
      · rw [closed_once invariant listed member, debits, ← amount]
        exact Nat.le_refl _
    rw [Closing.overageMicroUsd] at overage
    rw [List.map_cons, List.sum_cons]
    omega

theorem settled_at_most_once_of_invariant (invariant : LedgerInvariant hold store) :
    SettledAtMostOnce hold store where
  closedOnce := invariant.closedOnce
  captured := by
    rcases invariant.debited with none | ⟨closing, member, debit, debits, callerEq, amount⟩
    · exact .inl none
    · right
      refine ⟨closing, member, debit, debits, callerEq, amount, ?_⟩
      rw [amount]
      exact (invariant.closed closing member).2.1
  overage := invariant.overage
  released := by
    intro row member reference released
    apply undebited_of_not_captured invariant member reference
    rw [released]
    exact fun impossible => by cases impossible
  withinCost := debits_within_cost invariant

end Ledger

theorem no_accounting (hold : Reservation) (number : Nat) :
    Accounting hold (fun _ _ _ _ => True) number (fun _ _ => True) where
  kept := fun _ _ _ _ _ _ => trivial
  debited := fun _ _ _ _ _ _ => trivial
  filed := fun _ _ _ _ _ _ _ => trivial
  delivered := fun _ _ _ _ _ _ _ _ => .inr fun _ _ => trivial
  answered := fun _ _ _ _ _ _ _ unpaid => absurd trivial unpaid
  tolerated := fun _ _ _ _ _ _ _ _ unpaid => absurd trivial unpaid

/-- Over every schedule of any number of settlements, sweeps and releases, each lost,
refused or stopped anywhere, a hold is settled at most once. -/
theorem hold_is_settled_at_most_once (hold : Reservation) (store : SettlementStore)
    (unsettled : Unsettled hold store) (events : List (Event SettlementJob Turn WalletChange))
    (plain : ∀ change, Event.outside change ∈ events → change.KeepsPlain hold) :
    SettledAtMostOnce hold
      (settlementSystem.after (System.initial store) events).store := by
  have admitted : (settlementContract hold fun _ _ _ _ => True).toConditions.AdmitsAll
      (System.initial store) events := by
    apply Conditions.admits_all_of_always
    intro event member world
    cases event with
    | start job => trivial
    | advance run turn => exact fun _ _ _ => trivial
    | stop run => trivial
    | outside change => exact plain change member
  have holds := contract_holds_after (no_accounting hold) unsettled events admitted
  exact settled_at_most_once_of_invariant holds.invariant

def heldWallet : SettlementStore :=
  (performStatement 0 (.upsertWalletAccount .walletSummary "user") (Turn.at "account" 0)
    (.ofWallets (Wallets.empty.run
      [.creditCard
          { accountId := "account", userId := "user", amountMicroUsd := 1000, source := .stripe
            reason := .stripeTopup, referenceId := "session" },
        .insertReservation (newHold "hold" "user" .card "request" 400)]))).1

theorem held_wallet_unsettled : Unsettled (newHold "hold" "user" .card "request" 400) heldWallet where
  member := by decide
  plain := by
    intro row member
    have only : heldWallet.wallets.reservations.rows =
        [newHold "hold" "user" .card "request" 400] := by decide
    have same : row = newHold "hold" "user" .card "request" 400 :=
      List.mem_singleton.mp (only ▸ member)
    subst same
    exact ⟨by decide, by decide⟩
  unclosed := rfl
  undebited := by decide
  unspent := by decide

def streamedUsage : ChatUsage :=
  { userId := "user"
    proxyKeyId := "key"
    walletType := .card
    referenceId := "request"
    model := "zai-org-glm-4.7"
    upstreamStatus := 200
    usage := chatUsage 1000 100 0
    endpoint := .chatCompletions
    book := cachedRateBook
    surchargeEvidence := none }

def answeredTurn : Turn := Turn.at "row" 1000

/-- A stream and a sweep's charge race for the hold, and a release comes between the
capture and the overage debit. -/
def racingSettlements : List (Event SettlementJob Turn WalletChange) :=
  [.start (.settleStream streamedUsage "managed_venice_stream_settlement_failed" 100),
    .start (.holdCost (newHold "hold" "user" .card "request" 400) none 500 "cancelled"),
    .start (.release "user" "request"),
    .advance 0 answeredTurn, .advance 2 answeredTurn, .advance 0 answeredTurn,
    .advance 1 answeredTurn, .advance 2 answeredTurn, .advance 0 answeredTurn]

theorem racing_settlements_settle_once :
    SettledAtMostOnce (newHold "hold" "user" .card "request" 400)
      (settlementSystem.after (System.initial heldWallet) racingSettlements).store := by
  apply hold_is_settled_at_most_once _ _ held_wallet_unsettled
  intro change member
  simp [racingSettlements] at member

end Hivra.ManagedVenice
