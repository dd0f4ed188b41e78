import Hivra.Library.Scripts
import Mathlib.Data.List.Sort

/-!
# Settled deposits, the chain and Bankr

The sweep columns of `crypto_deposit_receipts`, the chain the evidence is read from, and
every request of a sweep to one of the three.  A receipt's id is its position in the table,
and only receipts that are settled and owed a sweep are in it.

Addresses and transaction hashes are numbers, so two spellings of one are the same.
-/

namespace Hivra.DepositSweep

open Hivra.Library

abbrev Address : Type := Nat
abbrev TxHash : Type := Nat

def baseChainId : Nat := 8453
def usdcBaseTokenAddress : Address := 0x833589fcd6edb6e08f4c7c32d4f71b54bda02913
def sweepMinConfirmations : Nat := 3
def claimLeaseMs : Int := 15 * 60000
def evidenceWindowBlocks : Nat := 1800

inductive SweepStatus
  | pending
  | submitted
  | confirmed
  | failed
  | skipped
  deriving DecidableEq

structure SweepReceipt where
  userId : Nat
  amountMinor : Nat
  chainId : Nat
  tokenAddress : Address
  normalizedDepositAddress : Address
  sweepStatus : SweepStatus
  sweepAttempts : Nat
  sweepAttemptedAt : Option Int
  sweepClaimBlock : Option Nat
  sweepDestinationAddress : Option Address
  sweepTransferRequestedAt : Option Int
  sweepSubmittedAt : Option Int
  sweepConfirmedAt : Option Int
  sweepTxHash : Option TxHash
  sweepError : Option String

/-- What a transition compares.  `unrequested` asks for no transfer request, and
`txHash` for the recorded hash, or for none. -/
structure TransitionGuard where
  statuses : List SweepStatus
  attempts : Nat
  unrequested : Bool
  txHash : Option (Option TxHash)

def TransitionGuard.admits (guard : TransitionGuard) (row : SweepReceipt) : Bool :=
  guard.statuses.contains row.sweepStatus && row.sweepAttempts == guard.attempts &&
    (!guard.unrequested || row.sweepTransferRequestedAt.isNone) &&
    guard.txHash.all fun txHash => row.sweepTxHash == txHash

inductive SweepValues
  | unclaimed (status : SweepStatus) (error : String) (attemptedAt : Int)
  | claimed (attempt : Nat) (attemptedAt : Int) (claimBlock : Nat) (destination : Address)
  | ended (status : SweepStatus) (error : String)
  | requested (requestedAt : Int)
  | noted (error : String)
  | hash (txHash : TxHash) (submittedAt : Int)
  | confirmed (confirmedAt : Int)

def SweepValues.apply (values : SweepValues) (row : SweepReceipt) : SweepReceipt :=
  match values with
  | .unclaimed status error attemptedAt =>
    { row with
      sweepStatus := status
      sweepError := some error
      sweepAttemptedAt := some attemptedAt }
  | .claimed attempt attemptedAt claimBlock destination =>
    { row with
      sweepStatus := .submitted
      sweepAttempts := attempt
      sweepAttemptedAt := some attemptedAt
      sweepClaimBlock := some claimBlock
      sweepDestinationAddress := some destination
      sweepTransferRequestedAt := none
      sweepSubmittedAt := none
      sweepConfirmedAt := none
      sweepTxHash := none
      sweepError := none }
  | .ended status error => { row with sweepStatus := status, sweepError := some error }
  | .requested requestedAt => { row with sweepTransferRequestedAt := some requestedAt }
  | .noted error => { row with sweepError := some error }
  | .hash txHash submittedAt =>
    { row with
      sweepTxHash := some txHash
      sweepSubmittedAt := some submittedAt
      sweepError := none }
  | .confirmed confirmedAt =>
    { row with
      sweepStatus := .confirmed
      sweepConfirmedAt := some confirmedAt
      sweepError := none }

def SweepReceipt.checks (row : SweepReceipt) : Bool :=
  (row.sweepStatus != .confirmed || row.sweepTxHash.isSome) &&
    (row.sweepStatus != .submitted ||
      (decide (0 < row.sweepAttempts) && row.sweepAttemptedAt.isSome &&
        row.sweepClaimBlock.isSome && row.sweepDestinationAddress.isSome))

structure SettledDeposit where
  userId : Nat
  amountMinor : Nat
  chainId : Nat
  tokenAddress : Address
  normalizedDepositAddress : Address

def SettledDeposit.receipt (deposit : SettledDeposit) : SweepReceipt :=
  { userId := deposit.userId
    amountMinor := deposit.amountMinor
    chainId := deposit.chainId
    tokenAddress := deposit.tokenAddress
    normalizedDepositAddress := deposit.normalizedDepositAddress
    sweepStatus := .pending
    sweepAttempts := 0
    sweepAttemptedAt := none
    sweepClaimBlock := none
    sweepDestinationAddress := none
    sweepTransferRequestedAt := none
    sweepSubmittedAt := none
    sweepConfirmedAt := none
    sweepTxHash := none
    sweepError := none }

structure TransferLog where
  token : Address
  source : Address
  recipient : Address
  value : Nat
  logIndex : Nat
  deriving DecidableEq

/-- A mined transaction; one that reverted left no logs.  `origin` is the request, by
receipt and attempt, that Bankr broadcast it for, if it is one of Bankr's for the sweep:
nobody can read it off the chain. -/
structure ChainTransaction where
  hash : TxHash
  block : Nat
  succeeded : Bool
  transfers : List TransferLog
  origin : Option (Nat × Nat)
  deriving DecidableEq

def ChainTransaction.logs (transaction : ChainTransaction) : List TransferLog :=
  if transaction.succeeded then transaction.transfers else []

structure Chain where
  head : Nat
  transactions : List ChainTransaction

structure RpcLog where
  transfer : TransferLog
  transactionHash : TxHash
  blockNumber : Nat
  deriving DecidableEq

def ChainTransaction.rpcLogs (transaction : ChainTransaction) : List RpcLog :=
  transaction.logs.map fun transfer =>
    { transfer, transactionHash := transaction.hash, blockNumber := transaction.block }

/-- `eth_getLogs` for USDC transfers between two addresses. -/
def Chain.usdcTransfers (chain : Chain) (source recipient : Address) (fromBlock toBlock : Nat) :
    List RpcLog :=
  (chain.transactions.flatMap ChainTransaction.rpcLogs).filter fun log =>
    log.transfer.token == usdcBaseTokenAddress && log.transfer.source == source &&
      log.transfer.recipient == recipient && decide (fromBlock ≤ log.blockNumber) &&
      decide (log.blockNumber ≤ toBlock)

def isSweepTransferLog (receipt : SweepReceipt) (entry : TransferLog) : Bool :=
  entry.token == usdcBaseTokenAddress && entry.source == receipt.normalizedDepositAddress &&
    receipt.sweepDestinationAddress == some entry.recipient && entry.value == receipt.amountMinor

inductive DepositPurpose
  | creditDeposit
  | hermesosLock
  | yearlySubscription
  | managedVeniceInference
  deriving DecidableEq

def DepositPurpose.name : DepositPurpose → String
  | .creditDeposit => "credit_deposit"
  | .hermesosLock => "hermesos_lock"
  | .yearlySubscription => "yearly_subscription"
  | .managedVeniceInference => "managed_venice_inference"

structure DepositCredential where
  userId : Nat
  purpose : DepositPurpose
  bankrWalletId : Option String
  normalizedEvmAddress : Address

inductive BankrAnswer
  | hash (txHash : TxHash)
  | noHash
  | httpError (status : Nat)
  | noAnswer

def isTransferRefusal (status : Nat) : Bool :=
  decide (400 ≤ status) && decide (status < 500) && status != 408 && status != 409

inductive SweepCall
  | load (id : Nat) (statuses : List SweepStatus)
  | transition (id : Nat) (guard : TransitionGuard) (values : SweepValues)
  | recordedHashes (hashes : List TxHash)
  | credential (address : Address)
  | blockNumber
  | usdcBalance (wallet : Address)
  | transactionReceipt (txHash : TxHash)
  | usdcTransfers (source recipient : Address) (fromBlock toBlock : Nat)
  | ensureWalletHasGas (wallet : Address)
  | mintScopedTransferApiKey (bankrWalletId : String) (recipient : Address)
  | submitBankrTransfer (id attempt : Nat) (wallet recipient : Address) (amount : Nat)

@[reducible]
def SweepCall.Answer : SweepCall → Type
  | .load .. => Option SweepReceipt
  | .transition .. => Bool
  | .recordedHashes _ => List TxHash
  | .credential _ => Option DepositCredential
  | .blockNumber => Nat
  | .usdcBalance _ => Nat
  | .transactionReceipt _ => Option ChainTransaction
  | .usdcTransfers .. => List RpcLog
  | .ensureWalletHasGas _ => Bool
  | .mintScopedTransferApiKey .. => Bool
  | .submitBankrTransfer .. => BankrAnswer

abbrev SweepCall.Reply (call : SweepCall) : Type := Option call.Answer

structure SweepTurn where
  fails : Bool
  credential : Option DepositCredential
  balance : Nat
  treasuryDrained : Bool
  keyMinted : Bool
  bankr : BankrAnswer

structure SweepStore where
  receipts : List SweepReceipt
  chain : Chain

def recordedElsewhere (receipts : List SweepReceipt) (id : Nat) (txHash : TxHash) : Bool :=
  (List.range receipts.length).any fun other =>
    other != id && (receipts[other]?.bind SweepReceipt.sweepTxHash) == some txHash

def transitionRow (receipts : List SweepReceipt) (id : Nat) (guard : TransitionGuard)
    (values : SweepValues) : Option (List SweepReceipt × Bool) :=
  match receipts[id]? with
  | none => some (receipts, false)
  | some row =>
    if guard.admits row then
      let next := values.apply row
      if next.checks && next.sweepTxHash.all fun txHash => !recordedElsewhere receipts id txHash
      then some (receipts.set id next, true)
      else none
    else some (receipts, false)

def SweepCall.execute (turn : SweepTurn) (store : SweepStore) :
    (call : SweepCall) → Option (SweepStore × call.Answer)
  | .load id statuses =>
    some (store, store.receipts[id]?.filter fun row => statuses.contains row.sweepStatus)
  | .transition id guard values =>
    (transitionRow store.receipts id guard values).map fun (receipts, affected) =>
      ({ store with receipts }, affected)
  | .recordedHashes hashes =>
    some (store, (store.receipts.filterMap SweepReceipt.sweepTxHash).filter hashes.contains)
  | .credential _ => some (store, turn.credential)
  | .blockNumber => some (store, store.chain.head)
  | .usdcBalance _ => some (store, turn.balance)
  | .transactionReceipt txHash =>
    some (store, store.chain.transactions.find? fun transaction => transaction.hash == txHash)
  | .usdcTransfers source recipient fromBlock toBlock =>
    some (store, store.chain.usdcTransfers source recipient fromBlock toBlock)
  | .ensureWalletHasGas _ => some (store, turn.treasuryDrained)
  | .mintScopedTransferApiKey .. => some (store, turn.keyMinted)
  | .submitBankrTransfer .. => some (store, turn.bankr)

def performSweep (call : SweepCall) (turn : SweepTurn) (store : SweepStore) :
    SweepStore × call.Reply :=
  if turn.fails then (store, none)
  else
    match call.execute turn store with
    | none => (store, none)
    | some (next, answer) => (next, some answer)

structure Broadcast where
  hash : TxHash
  succeeded : Bool
  transfers : List TransferLog
  origin : Option (Nat × Nat)

/-- What changes the receipts and the chain beside the sweeps: a receipt is settled, or
blocks are mined, the last of them with these transactions. -/
inductive SweepChange
  | settle (deposit : SettledDeposit)
  | mine (blocks : Nat) (broadcasts : List Broadcast)

def Chain.mine (chain : Chain) (blocks : Nat) (broadcasts : List Broadcast) : Chain :=
  let head := chain.head + blocks + 1
  { head
    transactions := chain.transactions ++ broadcasts.map fun broadcast =>
      { hash := broadcast.hash
        block := head
        succeeded := broadcast.succeeded
        transfers := broadcast.transfers
        origin := broadcast.origin } }

def applySweepChange (change : SweepChange) (store : SweepStore) : SweepStore :=
  match change with
  | .settle deposit => { store with receipts := store.receipts ++ [deposit.receipt] }
  | .mine blocks broadcasts => { store with chain := store.chain.mine blocks broadcasts }

end Hivra.DepositSweep
