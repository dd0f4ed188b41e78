import Hivra.Library.Journals

/-!
# Rows owed to the treasury

The sweep columns that `yearly_token_subscriptions` and `managed_venice_token_quotes` share,
with what each of the two tables has besides, and every request of a sweep to the database,
the chain or Bankr.  A row's id is its position in its table.

Addresses and transaction hashes are numbers, so two spellings of one are the same.
-/

namespace Hivra.TreasurySweep

open Hivra.Library

abbrev Address : Type := Nat
abbrev TxHash : Type := Nat

inductive SweepStatus
  | pending
  | sweeping
  | swept
  | failed
  | skipped
  | needsOperator
  deriving DecidableEq

/-- A row; `facts` are the columns that a sweep only reads. -/
structure SweepRow (Facts : Type) where
  facts : Facts
  sweepStatus : SweepStatus
  sweepAttemptedAt : Option Int
  sweepSubmittedAt : Option Int
  sweepError : Option String
  sweepTxHash : Option TxHash
  sweepDestinationAddress : Option Address

structure SweepGuard where
  source : SweepStatus
  attemptedAt : Option Int
  submittedIsNull : Bool

def SweepGuard.admits {Facts : Type} (guard : SweepGuard) (row : SweepRow Facts) : Bool :=
  row.sweepStatus == guard.source && row.sweepAttemptedAt == guard.attemptedAt &&
    (!guard.submittedIsNull || row.sweepSubmittedAt.isNone)

/-- The values a transition writes; a missing `destination` is not written. -/
inductive SweepPatch
  | release (error : String) (attemptedAt : Int) (destination : Option (Option Address))
  | skip (reason : String) (attemptedAt : Int) (destination : Address)
  | recover (error : String)
  | park (reason : String)
  | submit (submittedAt : Int) (destination : Option Address)
  | succeed (txHash : Option TxHash) (destination : Option Address)

def SweepPatch.apply {Facts : Type} (patch : SweepPatch) (row : SweepRow Facts) : SweepRow Facts :=
  match patch with
  | .release error attemptedAt destination =>
    { row with
      sweepStatus := .failed
      sweepError := some error
      sweepSubmittedAt := none
      sweepAttemptedAt := some attemptedAt
      sweepDestinationAddress := destination.getD row.sweepDestinationAddress }
  | .skip reason attemptedAt destination =>
    { row with
      sweepStatus := .skipped
      sweepError := some reason
      sweepSubmittedAt := none
      sweepAttemptedAt := some attemptedAt
      sweepDestinationAddress := some destination }
  | .recover error => { row with sweepStatus := .failed, sweepError := some error }
  | .park reason => { row with sweepStatus := .needsOperator, sweepError := some reason }
  | .submit submittedAt destination =>
    { row with
      sweepSubmittedAt := some submittedAt
      sweepDestinationAddress := destination <|> row.sweepDestinationAddress }
  | .succeed txHash destination =>
    { row with
      sweepStatus := .swept
      sweepTxHash := txHash
      sweepError := none
      sweepDestinationAddress := destination <|> row.sweepDestinationAddress }

inductive PlatformTokenKey
  | hermesos
  | hivra

structure PlatformToken where
  key : PlatformTokenKey
  address : Address
  decimals : Nat

def hermesosToken : PlatformToken :=
  { key := .hermesos, address := 0x95ccfd2b81a9667b0cc979992632f98fc853eba3, decimals := 18 }

/-- `hivra` is the configured $HIVRA token, if it is configured. -/
def platformTokenByAddress (hivra : Option PlatformToken) (address : Address) :
    Option PlatformToken :=
  if address = hermesosToken.address then some hermesosToken
  else hivra.filter fun token => token.address == address

def formatRawTokenBalance (raw : Int) (decimals : Nat) : String :=
  let digits := (toString raw.natAbs).toList
  let padded := List.replicate (decimals + 1 - digits.length) '0' ++ digits
  let whole := padded.take (padded.length - decimals)
  let fractional :=
    ((padded.drop (padded.length - decimals)).reverse.dropWhile (· == '0')).reverse
  (if raw < 0 then "-" else "") ++ String.ofList whole ++
    (if fractional.isEmpty then "" else "." ++ String.ofList fractional)

inductive DepositPurpose
  | creditDeposit
  | hermesosLock
  | yearlySubscription
  | managedVeniceInference
  deriving DecidableEq

structure DepositCredential where
  purpose : DepositPurpose
  /-- Missing where it is empty. -/
  bankrWalletId : Option String
  evmAddress : Address

inductive GasStatus
  | ready
  | treasuryDrained (reason : Option String)

/-- An answer of Bankr; `accepted` is a 2xx, with the hash of its body if there is one. -/
inductive BankrAnswer
  | accepted (txHash : Option TxHash)
  | httpError (status : Nat) (message : String)

/-- `isDefiniteTransferRejection`, of a status. -/
def isDefiniteTransferRejection (status : Nat) : Bool :=
  decide (400 ≤ status) && decide (status < 500) && status != 408 && status != 409

/-- A row of `managed_venice_financial_events`, as a sweep writes it. -/
structure TreasurySweepEvent where
  userId : Nat
  accountId : Option Nat
  walletType : PlatformTokenKey
  referenceId : Nat
  txHash : Option TxHash
  tokenAmountRaw : Int
  amountMicroUsd : Int
  token : PlatformToken
  amountDisplay : String
  destinationAddress : Address

def TreasurySweepEvent.sameKey (event other : TreasurySweepEvent) : Bool :=
  event.referenceId == other.referenceId && event.txHash == other.txHash

/-- A request; `id` of a transfer is the row it is for, which Bankr is not told. -/
inductive SweepCall (Facts : Type)
  | load (id : Nat) (status : SweepStatus)
  | claim (id : Nat) (now : Int)
  | transition (id : Nat) (guard : SweepGuard) (patch : SweepPatch)
  | credentialForAddress (address : Address)
  | credentialForUser (userId : Nat) (purpose : DepositPurpose)
  | depositLot (quoteId : Nat)
  | tokenBalance (wallet token : Address)
  | ensureWalletHasGas (wallet : Address)
  | mintScopedTransferApiKey (bankrWalletId : String) (recipient : Address)
  | submitBankrTransfer (id : Nat) (token recipient : Address) (amountDisplay : String)
  | recordEvent (event : TreasurySweepEvent)

variable {Facts : Type}

@[reducible]
def SweepCall.Answer : SweepCall Facts → Type
  | .load .. => Option (SweepRow Facts)
  | .claim .. => Option (SweepRow Facts)
  | .transition .. => Bool
  | .credentialForAddress _ => Option DepositCredential
  | .credentialForUser .. => Option DepositCredential
  | .depositLot _ => Option Int
  | .tokenBalance .. => Int
  | .ensureWalletHasGas _ => GasStatus
  | .mintScopedTransferApiKey .. => Bool
  | .submitBankrTransfer .. => BankrAnswer
  | .recordEvent _ => Unit

abbrev SweepCall.Reply (call : SweepCall Facts) : Type := Except String call.Answer

structure SweepTurn where
  failure : Option String
  carriedOut : Bool
  credential : Option DepositCredential
  lot : Option Int
  balance : Int
  gas : GasStatus
  keyMinted : Bool
  bankr : BankrAnswer

structure SweepStore (Facts : Type) where
  rows : List (SweepRow Facts)
  events : List TreasurySweepEvent

def SweepRow.claimed (row : SweepRow Facts) (now : Int) : SweepRow Facts :=
  { row with
    sweepStatus := .sweeping
    sweepAttemptedAt := some now
    sweepError := none }

def SweepRow.claimable (settled : Facts → Bool) (row : SweepRow Facts) : Bool :=
  settled row.facts && (row.sweepStatus == .pending || row.sweepStatus == .failed) &&
    row.sweepSubmittedAt.isNone

def claimRow (settled : Facts → Bool) (rows : List (SweepRow Facts)) (id : Nat) (now : Int) :
    List (SweepRow Facts) × Option (SweepRow Facts) :=
  match rows[id]? with
  | some row =>
    if row.claimable settled then (rows.set id (row.claimed now), some (row.claimed now))
    else (rows, none)
  | none => (rows, none)

def transitionRow (rows : List (SweepRow Facts)) (id : Nat) (guard : SweepGuard)
    (patch : SweepPatch) : List (SweepRow Facts) × Bool :=
  match rows[id]? with
  | some row =>
    if guard.admits row then (rows.set id (patch.apply row), true) else (rows, false)
  | none => (rows, false)

/-- A request that is answered; `settled` is what a claim asks of the row besides. -/
def SweepCall.execute (settled : Facts → Bool) (turn : SweepTurn) (store : SweepStore Facts) :
    (call : SweepCall Facts) → SweepStore Facts × call.Reply
  | .load id status =>
    (store, .ok (store.rows[id]?.filter fun row => row.sweepStatus == status))
  | .claim id now =>
    let (rows, claimed) := claimRow settled store.rows id now
    ({ store with rows }, .ok claimed)
  | .transition id guard patch =>
    let (rows, affected) := transitionRow store.rows id guard patch
    ({ store with rows }, .ok affected)
  | .credentialForAddress _ => (store, .ok turn.credential)
  | .credentialForUser .. => (store, .ok turn.credential)
  | .depositLot _ => (store, .ok turn.lot)
  | .tokenBalance .. => (store, .ok turn.balance)
  | .ensureWalletHasGas _ => (store, .ok turn.gas)
  | .mintScopedTransferApiKey .. => (store, .ok turn.keyMinted)
  | .submitBankrTransfer .. => (store, .ok turn.bankr)
  | .recordEvent event =>
    if store.events.any event.sameKey then (store, .error "duplicate key value")
    else ({ store with events := store.events ++ [event] }, .ok ())

def performSweep (settled : Facts → Bool) (call : SweepCall Facts) (turn : SweepTurn)
    (store : SweepStore Facts) : SweepStore Facts × call.Reply :=
  match turn.failure with
  | some message =>
    (if turn.carriedOut then (call.execute settled turn store).1 else store, .error message)
  | none => call.execute settled turn store

inductive SweepChange (Facts : Type)
  | arrive (facts : Facts)
  | rewrite (id : Nat) (facts : Facts)

def pendingRow (facts : Facts) : SweepRow Facts :=
  { facts
    sweepStatus := .pending
    sweepAttemptedAt := none
    sweepSubmittedAt := none
    sweepError := none
    sweepTxHash := none
    sweepDestinationAddress := none }

def applySweepChange (change : SweepChange Facts) (store : SweepStore Facts) : SweepStore Facts :=
  match change with
  | .arrive facts => { store with rows := store.rows ++ [pendingRow facts] }
  | .rewrite id facts => { store with rows := store.rows.modify id fun row => { row with facts } }

end Hivra.TreasurySweep
