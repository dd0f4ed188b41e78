import Hivra.ManagedVenice.WalletTables
import Mathlib.Data.List.Sort
import Mathlib.Algebra.Order.BigOperators.Group.List

/-!
# Managed-Venice wallet database functions

The statements that move managed-Venice money, each one transaction: the three
functions of the atomic wallet debit migration, the two balance triggers on the
inserts they guard, the conditional release update, and the inserts of lots,
credits and holds.  A statement that raises returns an error and no wallets, so
nothing it did survives.

A transaction takes the per-user wallet lock before it reads a balance, so each
statement is one step here.
-/

namespace Hivra.ManagedVenice

open Hivra.Library

/-- `order by created_at, id`. -/
def notNewer (left right : TokenLot) : Prop :=
  left.createdAt < right.createdAt ∨ left.createdAt = right.createdAt ∧ left.id ≤ right.id

instance : DecidableRel notNewer := fun left right =>
  inferInstanceAs (Decidable
    (left.createdAt < right.createdAt ∨ left.createdAt = right.createdAt ∧ left.id ≤ right.id))

/-- The lots a debit of `userId` may draw on, oldest first. -/
def lotsOldestFirst (userId : String) (lots : Table TokenLot.entries) : List TokenLot :=
  (lots.selectWhere fun lot =>
    spendableLot userId lot && decide (0 < lot.remainingValueMicroUsd)).insertionSort notNewer

/-- Set the value left in a lot; its token amount shrinks in proportion, rounded
down.  `read` is the row as the loop read it. -/
def spendLot (read : TokenLot) (left : Nat) (row : TokenLot) : TokenLot :=
  { row with
    remainingValueMicroUsd := left
    remainingTokenAmountRaw :=
      if left = 0 then 0
      else read.remainingTokenAmountRaw * left / read.remainingValueMicroUsd
    status := if left = 0 then .depleted else .active }

/-- The loop over the lots: the table with the lots drawn down, and what is still
owed after the last one. -/
def debitLots : List TokenLot → Nat → Table TokenLot.entries → Table TokenLot.entries × Nat
  | [], owed, lots => (lots, owed)
  | lot :: queue, owed, lots =>
    if owed = 0 then (lots, owed)
    else
      let take := min lot.remainingValueMicroUsd owed
      let left := lot.remainingValueMicroUsd - take
      debitLots queue (owed - take)
        (lots.rewrite (fun row => row.id == lot.id) (spendLot lot left) (fun _ => rfl))

/-- `enforce_managed_venice_card_balance`, the trigger on card ledger inserts. -/
def enforceManagedVeniceCardBalance (entry : CardLedgerEntry) (wallets : Wallets) :
    Except SqlError Unit :=
  if 0 ≤ entry.amountMicroUsd then .ok ()
  else if wallets.cardLedger.rows.any (fun held =>
      held.source == entry.source && held.referenceId == entry.referenceId &&
        held.reason == entry.reason) then
    -- an idempotent duplicate is left to the unique constraint
    .ok ()
  else if wallets.cardBalance entry.userId + entry.amountMicroUsd < 0 then
    .error .insufficientBalance
  else .ok ()

/-- `insert into managed_venice_card_ledger_entries`. -/
def insertCardLedgerEntry (entry : CardLedgerEntry) (wallets : Wallets) :
    Except SqlError Wallets := do
  enforceManagedVeniceCardBalance entry wallets
  if entry.amountMicroUsd = 0 ∨ isBlank entry.userId ∨ isBlank entry.referenceId then
    throw .checkViolation
  match wallets.cardLedger.insert entry with
  | none => throw .uniqueViolation
  | some cardLedger => return { wallets with cardLedger }

/-- The card branch of `managed_venice_debit_wallet_locked`: every other active
card hold stays covered. -/
def debitCardLedger (caller : Nat) (userId : String) (amountMicroUsd : Int) (referenceId : String)
    (accountId excludeReservationId : Option String) (wallets : Wallets) :
    Except SqlError Wallets := do
  let account : Option String :=
    match accountId with
    | some account => some account
    | none => (wallets.accounts.find? fun row => row.userId == userId).map WalletAccount.id
  let available : Int :=
    wallets.cardBalance userId -
      (wallets.reservations.sumWhere
        (fun hold => activeCardHold userId hold && some hold.id != excludeReservationId)
        (·.reservedMicroUsd) : Nat)
  match account with
  | none => throw .insufficientBalance
  | some account =>
    if available < amountMicroUsd then throw .insufficientBalance
    let wallets ← insertCardLedgerEntry
      { accountId := account
        userId
        amountMicroUsd := -amountMicroUsd
        source := .system
        reason := .managedVeniceDebit
        referenceId }
      wallets
    return { wallets with
      debits :=
        { caller, userId, walletType := .card, amountMicroUsd := amountMicroUsd.toNat,
          referenceId } :: wallets.debits }

/-- The token branch of `managed_venice_debit_wallet_locked`: the whole amount off
the lots, oldest first, or nothing. -/
def debitTokenLots (caller : Nat) (userId : String) (token : WalletType) (amountMicroUsd : Int)
    (referenceId : String) (wallets : Wallets) : Except SqlError Wallets :=
  let drawn := debitLots (lotsOldestFirst userId wallets.tokenLots) amountMicroUsd.toNat
    wallets.tokenLots
  if 0 < drawn.2 then .error .insufficientBalance
  else
    .ok { wallets with
      tokenLots := drawn.1
      debits :=
        { caller, userId, walletType := token, amountMicroUsd := amountMicroUsd.toNat,
          referenceId } :: wallets.debits }

/-- `managed_venice_debit_wallet_locked`.  `walletType` is `none` for a text that
names no wallet; `caller` is the run the call belongs to. -/
def managedVeniceDebitWalletLocked
    (caller : Nat) (userId : String) (walletType : Option WalletType) (amountMicroUsd : Int)
    (referenceId : String) (accountId excludeReservationId : Option String)
    (wallets : Wallets) : Except SqlError Wallets :=
  if isBlank userId then .error .debitInvalid
  else if isBlank referenceId then .error .debitInvalid
  else if amountMicroUsd ≤ 0 then .error .debitInvalid
  else
    match walletType with
    | some .hermesos =>
      debitTokenLots caller userId .hermesos amountMicroUsd referenceId wallets
    | some .hivra =>
      debitTokenLots caller userId .hivra amountMicroUsd referenceId wallets
    | some .card =>
      debitCardLedger caller userId amountMicroUsd referenceId accountId excludeReservationId
        wallets
    | none => .error .debitInvalid

/-- `debit_managed_venice_wallet`: a debit with no hold behind it. -/
def debitManagedVeniceWallet
    (caller : Nat) (userId : String) (walletType : Option WalletType) (amountMicroUsd : Int)
    (referenceId : String) (wallets : Wallets) : Except SqlError Wallets :=
  managedVeniceDebitWalletLocked caller userId walletType amountMicroUsd referenceId none none
    wallets

/-- What `capture_managed_venice_reservation` reports. -/
structure CaptureReply where
  captured : Bool
  status : HoldStatus
  walletType : WalletType
  reservedMicroUsd : Nat
  capturedMicroUsd : Nat
  releasedMicroUsd : Nat
  deriving DecidableEq

def Reservation.capture (capturedMicroUsd releasedMicroUsd : Nat) (hold : Reservation) :
    Reservation :=
  { hold with status := .captured, capturedMicroUsd, releasedMicroUsd }

def Reservation.release (releasedMicroUsd : Nat) (hold : Reservation) : Reservation :=
  { hold with status := .released, releasedMicroUsd }

/-- `where user_id = ... and reference_id = ...`. -/
def Wallets.findReservation (wallets : Wallets) (userId referenceId : String) :
    Option Reservation :=
  wallets.reservations.find? fun hold => hold.userId == userId && hold.referenceId == referenceId

/-- `capture_managed_venice_reservation`: debit the wallet of an active hold and
close the hold.  A hold that is no longer active is reported and moves nothing. -/
def captureManagedVeniceReservation
    (caller : Nat) (userId referenceId : String) (captureMicroUsd : Int) (wallets : Wallets) :
    Except SqlError (Wallets × CaptureReply) := do
  if captureMicroUsd < 0 then throw .captureInvalid
  match wallets.findReservation userId referenceId with
  | none => throw .reservationNotFound
  | some hold =>
    if hold.status ≠ .active then
      return (wallets,
        { captured := false
          status := hold.status
          walletType := hold.walletType
          reservedMicroUsd := hold.reservedMicroUsd
          capturedMicroUsd := hold.capturedMicroUsd
          releasedMicroUsd := hold.releasedMicroUsd })
    if (hold.reservedMicroUsd : Int) < captureMicroUsd then throw .captureExceedsReservation
    let wallets ←
      if 0 < captureMicroUsd then
        managedVeniceDebitWalletLocked caller userId (some hold.walletType) captureMicroUsd
          referenceId (some hold.accountId) (some hold.id) wallets
      else pure wallets
    let captured := captureMicroUsd.toNat
    let released := hold.reservedMicroUsd - captured
    return ({ wallets with
        reservations := wallets.reservations.rewrite (fun row => row.id == hold.id)
          (Reservation.capture captured released) (fun _ => rfl) },
      { captured := true
        status := .captured
        walletType := hold.walletType
        reservedMicroUsd := hold.reservedMicroUsd
        capturedMicroUsd := captured
        releasedMicroUsd := released })

/-- The release update of `releaseManagedVeniceReservation`: only a hold that is
still active.  The answer is whether a row changed. -/
def releaseActiveReservation (id : String) (releasedMicroUsd : Nat) (wallets : Wallets) :
    Except SqlError (Wallets × Bool) :=
  match wallets.reservations.find? fun hold => hold.id == id && hold.status == .active with
  | none => .ok (wallets, false)
  | some hold =>
    if hold.capturedMicroUsd + releasedMicroUsd ≤ hold.reservedMicroUsd then
      .ok ({ wallets with
          reservations := wallets.reservations.rewrite
            (fun hold => hold.id == id && hold.status == .active)
            (Reservation.release releasedMicroUsd) (fun _ => rfl) }, true)
    else .error .checkViolation

/-- `enforce_managed_venice_reservation_balance`, the trigger on hold inserts. -/
def enforceManagedVeniceReservationBalance (hold : Reservation) (wallets : Wallets) :
    Except SqlError Unit :=
  if hold.status ≠ .active then .ok ()
  else if wallets.reservations.rows.any (fun held => held.referenceId == hold.referenceId) then
    .ok ()
  else
    let available : Int :=
      if hold.walletType.isToken then
        (wallets.lotValue hold.userId : Int) - wallets.tokenReserved hold.userId
      else
        wallets.cardBalance hold.userId - wallets.cardReserved hold.userId
    if available < hold.reservedMicroUsd then .error .insufficientBalance else .ok ()

/-- `insert into managed_venice_reservations`. -/
def insertReservation (hold : Reservation) (wallets : Wallets) : Except SqlError Wallets := do
  enforceManagedVeniceReservationBalance hold wallets
  if isBlank hold.userId ∨ isBlank hold.referenceId ∨ hold.reservedMicroUsd = 0 ∨
      hold.reservedMicroUsd < hold.capturedMicroUsd + hold.releasedMicroUsd then
    throw .checkViolation
  match wallets.reservations.insert hold with
  | none => throw .uniqueViolation
  | some reservations => return { wallets with reservations }

/-- `insert into managed_venice_token_lots`. -/
def insertTokenLot (lot : TokenLot) (wallets : Wallets) : Except SqlError Wallets := do
  if isBlank lot.userId ∨ lot.tokenAmountRaw = 0 ∨ lot.originalValueMicroUsd = 0 ∨
      lot.tokenAmountRaw < lot.remainingTokenAmountRaw ∨
      lot.originalValueMicroUsd < lot.remainingValueMicroUsd then
    throw .checkViolation
  match wallets.tokenLots.insert lot with
  | none => throw .uniqueViolation
  | some tokenLots => return { wallets with tokenLots }

end Hivra.ManagedVenice
