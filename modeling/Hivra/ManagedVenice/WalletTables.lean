import Hivra.Library.Tables

/-!
# Managed-Venice wallet tables

The rows of the managed-Venice wallet schema that the database functions and the
settlement code read or write, with the unique indexes and checks of the
migrations.  Amounts are micro-USD and token counts are raw units, both unbounded
here.  Columns nothing modelled reads (timestamps kept for display, notes) are
left out.

A user's wallet has two sides: token lots, drawn on by holds of either platform
token, and a card ledger of signed entries.  `Wallets.debits` is not a column of
the schema: the database keeps no reference on a token debit, so the model notes
each debit where the debit function moves the money.
-/

namespace Hivra.ManagedVenice

open Hivra.Library

inductive WalletType
  | hermesos
  | hivra
  | card
  deriving DecidableEq

/-- `wallet_type in ('hermesos', 'hivra')`: both platform tokens draw on the one
pool of lots. -/
def WalletType.isToken : WalletType → Bool
  | .hermesos => true
  | .hivra => true
  | .card => false

inductive LotStatus
  | active
  | depleted
  | voided
  | manualReview
  deriving DecidableEq

inductive LotSource
  | hermesosDeposit
  | hivraDeposit
  | launchPromo
  | refund
  | admin
  deriving DecidableEq

/-- `source in ('hermesos_deposit', 'hivra_deposit')`. -/
def LotSource.isDeposit : LotSource → Bool
  | .hermesosDeposit => true
  | .hivraDeposit => true
  | _ => false

/-- A row of `managed_venice_token_lots`. -/
structure TokenLot where
  id : String
  userId : String
  quoteId : Option String
  source : LotSource
  tokenAmountRaw : Nat
  remainingTokenAmountRaw : Nat
  originalValueMicroUsd : Nat
  remainingValueMicroUsd : Nat
  transactionHash : Option String
  status : LotStatus
  createdAt : Nat
  deriving DecidableEq

inductive LotKey
  | id (id : String)
  | depositQuote (quoteId : String)
  deriving DecidableEq

/-- The primary key, and `uq_managed_venice_token_lots_token_deposit_quote`. -/
def TokenLot.entries (lot : TokenLot) : List LotKey :=
  .id lot.id ::
    match lot.quoteId with
    | some quoteId => if lot.source.isDeposit then [.depositQuote quoteId] else []
    | none => []

inductive LedgerSource
  | stripe
  | admin
  | refund
  | system
  deriving DecidableEq

inductive LedgerReason
  | stripeTopup
  | adminAdjustment
  | refund
  | managedVeniceDebit
  deriving DecidableEq

/-- A row of `managed_venice_card_ledger_entries`; credits are positive. -/
structure CardLedgerEntry where
  accountId : String
  userId : String
  amountMicroUsd : Int
  source : LedgerSource
  reason : LedgerReason
  referenceId : String
  deriving DecidableEq

/-- `unique (source, reference_id, reason)`. -/
def CardLedgerEntry.entries (entry : CardLedgerEntry) :
    List (LedgerSource × String × LedgerReason) :=
  [(entry.source, entry.referenceId, entry.reason)]

inductive HoldStatus
  | active
  | captured
  | released
  | expired
  | reconciliationRequired
  deriving DecidableEq

inductive WebSearch
  | on
  | auto
  deriving DecidableEq

/-- `ManagedChatSurchargePlan`: the options a hold was made for. -/
structure SurchargePlan where
  webSearch : Option WebSearch
  scrapeUrls : Option Nat
  xSearch : Bool
  deriving DecidableEq

/-- The metadata of a hold, as its readers accept it: a field that is absent or
malformed is `none`. -/
structure HoldMetadata where
  proxyKeyId : Option String := none
  inputEstimateMicroUsd : Option Nat := none
  outputMicroUsdPerMillion : Option Nat := none
  sweepEstimateMicroUsd : Option Nat := none
  captureOnSuccessMicroUsd : Option Nat := none
  captureOnSuccessListMicroUsd : Option Nat := none
  surchargePlan : Option SurchargePlan := none
  surchargeEstimateMicroUsd : Option Nat := none
  deriving DecidableEq

/-- A row of `managed_venice_reservations`. -/
structure Reservation where
  id : String
  accountId : String
  userId : String
  walletType : WalletType
  status : HoldStatus
  referenceId : String
  estimatedCostMicroUsd : Nat
  reservedMicroUsd : Nat
  capturedMicroUsd : Nat
  releasedMicroUsd : Nat
  model : Option String
  endpoint : String
  expiresAt : Option Nat
  metadata : HoldMetadata
  deriving DecidableEq

inductive ReservationKey
  | id (id : String)
  | reference (referenceId : String)
  deriving DecidableEq

def Reservation.entries (hold : Reservation) : List ReservationKey :=
  [.id hold.id, .reference hold.referenceId]

/-- A row of `managed_venice_wallet_accounts`. -/
structure WalletAccount where
  id : String
  userId : String
  deriving DecidableEq

inductive AccountKey
  | id (id : String)
  | user (userId : String)
  deriving DecidableEq

def WalletAccount.entries (account : WalletAccount) : List AccountKey :=
  [.id account.id, .user account.userId]

structure Debit where
  caller : Nat
  userId : String
  walletType : WalletType
  amountMicroUsd : Nat
  referenceId : String
  deriving DecidableEq

structure Wallets where
  accounts : Table WalletAccount.entries
  tokenLots : Table TokenLot.entries
  cardLedger : Table CardLedgerEntry.entries
  reservations : Table Reservation.entries
  debits : List Debit
  deriving DecidableEq

def Wallets.empty : Wallets :=
  { accounts := .empty
    tokenLots := .empty
    cardLedger := .empty
    reservations := .empty
    debits := [] }

/-- What a statement raises.  `unavailable` is any failure that is not the
database's answer to the statement: a lost connection, a timeout. -/
inductive SqlError
  | debitInvalid
  | captureInvalid
  | insufficientBalance
  | reservationNotFound
  | captureExceedsReservation
  | uniqueViolation
  | checkViolation
  | unavailable
  deriving DecidableEq

/-- `btrim(text) = ''`. -/
def isBlank (text : String) : Bool :=
  text.toList.all (· == ' ')

def spendableLot (userId : String) (lot : TokenLot) : Bool :=
  lot.userId == userId && lot.status == .active

def activeTokenHold (userId : String) (hold : Reservation) : Bool :=
  hold.userId == userId && hold.status == .active && hold.walletType.isToken

def activeCardHold (userId : String) (hold : Reservation) : Bool :=
  hold.userId == userId && hold.status == .active && hold.walletType == .card

def Wallets.lotValue (wallets : Wallets) (userId : String) : Nat :=
  wallets.tokenLots.sumWhere (spendableLot userId) (·.remainingValueMicroUsd)

def Wallets.tokenReserved (wallets : Wallets) (userId : String) : Nat :=
  wallets.reservations.sumWhere (activeTokenHold userId) (·.reservedMicroUsd)

def Wallets.cardBalance (wallets : Wallets) (userId : String) : Int :=
  wallets.cardLedger.sumWhere (fun entry => entry.userId == userId) (·.amountMicroUsd)

def Wallets.cardReserved (wallets : Wallets) (userId : String) : Nat :=
  wallets.reservations.sumWhere (activeCardHold userId) (·.reservedMicroUsd)

end Hivra.ManagedVenice
