import Hivra.DepositSweep.SweepTables
import Hivra.Library.Journals

/-!
# Sweeping a receipt

`settleSubmittedSweep` and `sweepReceipt`, each of a receipt it was given as a pass
loaded it.  Reports to ops and the log change nothing a sweep reads and are left out.
-/

namespace Hivra.DepositSweep

open Hivra.Library

inductive SweepOutcome
  | submitted
  | confirmed
  | awaitingConfirmation
  | inDoubt
  | claimedElsewhere
  | released
  | heldForReview
  | noTreasuryConfigured
  | noCredentials
  | gasTopupFailed
  | transferFailed
  | error

structure CreditDepositSweepResult where
  receiptId : Nat
  userId : Nat
  outcome : SweepOutcome
  txHash : Option TxHash
  error : Option String

abbrev Sweeping (Outcome : Type) : Type :=
  Script SweepCall SweepCall.Reply String Outcome

def ask (call : SweepCall) (failure : String) : Sweeping call.Answer :=
  .call call fun
    | some answer => .ret answer
    | none => .raise failure

def transition (id : Nat) (guard : TransitionGuard) (values : SweepValues) : Sweeping Bool :=
  ask (.transition id guard values) "Failed to update credit-deposit sweep state"

def sweepResult (id : Nat) (receipt : SweepReceipt) (outcome : SweepOutcome)
    (txHash : Option TxHash) (error : Option String) : CreditDepositSweepResult :=
  { receiptId := id, userId := receipt.userId, outcome, txHash, error }

def claimGuard (attempts : Nat) : TransitionGuard :=
  { statuses := [.submitted], attempts, unrequested := false, txHash := none }

/-- The last block of a receipt's evidence window that the chain has at `head`. -/
def evidenceEnd (receipt : SweepReceipt) (head : Nat) : Nat :=
  min head (receipt.sweepClaimBlock.getD 0 + evidenceWindowBlocks - 1)

def sweepMatches (receipt : SweepReceipt) (logs : List RpcLog) : List RpcLog :=
  (logs.filter fun log => isSweepTransferLog receipt log.transfer).insertionSort fun first second =>
    first.blockNumber < second.blockNumber ∨
      first.blockNumber = second.blockNumber ∧
        first.transfer.logIndex ≤ second.transfer.logIndex

def findSweepTransfer (receipt : SweepReceipt) (head : Nat) : Sweeping (Option RpcLog) :=
  let fromBlock := receipt.sweepClaimBlock.getD 0
  let toBlock := evidenceEnd receipt head
  match receipt.sweepDestinationAddress with
  | none => .ret none
  | some destination =>
    if toBlock < fromBlock then .ret none
    else do
      let logs ←
        ask (.usdcTransfers receipt.normalizedDepositAddress destination fromBlock toBlock)
          "Base RPC eth_getLogs failed"
      let found := sweepMatches receipt logs
      if found.isEmpty then return none
      else
        let recorded ←
          ask (.recordedHashes (found.map RpcLog.transactionHash).dedup)
            "Failed to load recorded credit-deposit sweep transfers"
        return found.find? fun candidate => !recorded.contains candidate.transactionHash

def confirmMined (id : Nat) (receipt : SweepReceipt) (now : Int) (head : Nat) (txHash : TxHash)
    (minedAt : Nat) : Sweeping CreditDepositSweepResult :=
  if head + 1 < minedAt + sweepMinConfirmations then
    .ret (sweepResult id receipt .awaitingConfirmation (some txHash) none)
  else do
    let confirmed ←
      transition id { claimGuard receipt.sweepAttempts with txHash := some (some txHash) }
        (.confirmed now)
    return sweepResult id receipt (if confirmed then .confirmed else .claimedElsewhere)
      (some txHash) none

def settleFromChain (id : Nat) (receipt : SweepReceipt) (now : Int) (head : Nat)
    (revertedTxHash : Option TxHash) : Sweeping CreditDepositSweepResult := do
  let guard := { claimGuard receipt.sweepAttempts with txHash := some revertedTxHash }
  match ← findSweepTransfer receipt head with
  | none =>
    match revertedTxHash with
    | some txHash => do
      let error := s!"sweep tx {txHash} reverted; nothing moved"
      let _ ← transition id guard (.ended .failed error)
      return sweepResult id receipt .transferFailed (some txHash) (some error)
    | none => return sweepResult id receipt .inDoubt none none
  | some proof => do
    let adopted ←
      transition id guard (.hash proof.transactionHash (receipt.sweepSubmittedAt.getD now))
    if adopted then confirmMined id receipt now head proof.transactionHash proof.blockNumber
    else return sweepResult id receipt .claimedElsewhere none none

def settleRequested (id : Nat) (receipt : SweepReceipt) (now : Int) :
    Sweeping CreditDepositSweepResult := do
  let head ← ask .blockNumber "Base RPC eth_blockNumber failed"
  match receipt.sweepTxHash with
  | none => settleFromChain id receipt now head none
  | some txHash => do
    match ← ask (.transactionReceipt txHash) "Base RPC eth_getTransactionReceipt failed" with
    | none => return sweepResult id receipt .awaitingConfirmation (some txHash) none
    | some mined =>
      if mined.succeeded then
        if mined.logs.any (isSweepTransferLog receipt) then
          confirmMined id receipt now head txHash mined.block
        else
          return sweepResult id receipt .inDoubt (some txHash)
            (some s!"sweep tx {txHash} was mined without the expected USDC transfer")
      else settleFromChain id receipt now head (some txHash)

def settleSubmittedSweep (id : Nat) (receipt : SweepReceipt) (now : Int) :
    Sweeping CreditDepositSweepResult :=
  match receipt.sweepTransferRequestedAt with
  | some _ => settleRequested id receipt now
  | none =>
    if receipt.sweepAttemptedAt.any fun claimedAt => decide (now - claimedAt < claimLeaseMs) then
      .ret (sweepResult id receipt .claimedElsewhere none none)
    else do
      let released ←
        transition id { claimGuard receipt.sweepAttempts with unrequested := true }
          (.ended .failed
            "claim abandoned before a transfer was requested; released for retry")
      return sweepResult id receipt (if released then .released else .claimedElsewhere) none none

structure SweepContext where
  now : Int
  treasury : Option Address
  partnerKey : Bool

def unclaimedGuard (attempts : Nat) : TransitionGuard :=
  { statuses := [.pending, .failed], attempts, unrequested := false, txHash := none }

def recordUnclaimed (id : Nat) (receipt : SweepReceipt) (ctx : SweepContext)
    (status : SweepStatus) (error : String) : Sweeping Bool :=
  transition id (unclaimedGuard receipt.sweepAttempts) (.unclaimed status error ctx.now)

def release (id attempt : Nat) (receipt : SweepReceipt) (status : SweepStatus)
    (outcome : SweepOutcome) (error : String) : Sweeping CreditDepositSweepResult := do
  let _ ← transition id { claimGuard attempt with unrequested := true } (.ended status error)
  return sweepResult id receipt outcome none (some error)

def recordTransfer (id attempt : Nat) (receipt : SweepReceipt) (ctx : SweepContext) :
    Option BankrAnswer → Sweeping CreditDepositSweepResult
  | some (.hash txHash) =>
    -- a lost claim and a database error end alike: the hash stays unrecorded
    .call (.transition id { claimGuard attempt with txHash := some none } (.hash txHash ctx.now))
      fun _ => .ret (sweepResult id receipt .submitted (some txHash) none)
  | some .noHash => do
    let error := "Bankr accepted the transfer without a tx hash; awaiting on-chain evidence"
    let _ ← transition id { claimGuard attempt with txHash := some none } (.noted error)
    return sweepResult id receipt .inDoubt none (some error)
  | some (.httpError status) =>
    if isTransferRefusal status then do
      let _ ←
        transition id { claimGuard attempt with txHash := some none }
          (.ended .failed "transfer failed")
      return sweepResult id receipt .transferFailed none (some "transfer failed")
    else do
      let _ ←
        transition id { claimGuard attempt with txHash := some none }
          (.noted "transfer failed (outcome unknown; awaiting on-chain evidence)")
      return sweepResult id receipt .inDoubt none (some "transfer failed")
  | _ => do
    let _ ←
      transition id { claimGuard attempt with txHash := some none }
        (.noted "transfer failed (outcome unknown; awaiting on-chain evidence)")
    return sweepResult id receipt .inDoubt none (some "transfer failed")

def requestTransfer (id attempt : Nat) (receipt : SweepReceipt) (ctx : SweepContext)
    (wallet treasury : Address) : Sweeping CreditDepositSweepResult :=
  .call (.transition id { claimGuard attempt with unrequested := true } (.requested ctx.now)) fun
    | none => release id attempt receipt .failed .error "could not record the transfer request"
    | some false => .ret (sweepResult id receipt .claimedElsewhere none none)
    | some true =>
      .call (.submitBankrTransfer id attempt wallet treasury receipt.amountMinor)
        (recordTransfer id attempt receipt ctx)

def sweepClaimed (id attempt : Nat) (receipt : SweepReceipt) (ctx : SweepContext)
    (wallet treasury : Address) (bankrWalletId : String) : Sweeping CreditDepositSweepResult :=
  .call (.usdcBalance wallet) fun
    | none => release id attempt receipt .failed .transferFailed "balance read failed"
    | some balance =>
      if balance < receipt.amountMinor then
        release id attempt receipt .skipped .heldForReview
          s!"wallet holds {balance} USDC minor units, receipt needs {receipt.amountMinor}"
      else
        .call (.ensureWalletHasGas wallet) fun
          | none => release id attempt receipt .failed .gasTopupFailed "gas top-up failed"
          | some true => release id attempt receipt .failed .gasTopupFailed "gas top-up failed"
          | some false =>
            .call (.mintScopedTransferApiKey bankrWalletId treasury) fun
              | none =>
                release id attempt receipt .failed .noCredentials "Bankr API key mint failed"
              | some false =>
                release id attempt receipt .failed .noCredentials
                  (if ctx.partnerKey then
                    "Bankr API key mint returned null (likely per-wallet 20-key cap — " ++
                      "revoke stale keys on Bankr)"
                  else
                    "Bankr partner key not configured (BANKR_PARTNER_KEY env var missing)")
              | some true => requestTransfer id attempt receipt ctx wallet treasury

def sweepReceipt (id : Nat) (receipt : SweepReceipt) (ctx : SweepContext) :
    Sweeping CreditDepositSweepResult :=
  match ctx.treasury with
  | none => do
    let error := "HERMES_TREASURY_ADDRESS missing or invalid"
    let _ ← recordUnclaimed id receipt ctx .failed error
    return sweepResult id receipt .noTreasuryConfigured none (some error)
  | some treasury =>
    if receipt.chainId ≠ baseChainId ∨ receipt.tokenAddress ≠ usdcBaseTokenAddress then do
      let _ ← recordUnclaimed id receipt ctx .skipped "not a Base USDC receipt"
      return sweepResult id receipt .heldForReview none (some "not a Base USDC receipt")
    else do
      let credential ←
        ask (.credential receipt.normalizedDepositAddress)
          "Failed to load Bankr deposit wallet credential"
      match credential, credential.bind DepositCredential.bankrWalletId with
      | some credential, some bankrWalletId =>
        if credential.userId ≠ receipt.userId ∨ credential.purpose ≠ .creditDeposit then do
          let error :=
            if credential.userId ≠ receipt.userId then
              "deposit address belongs to another user's wallet"
            else
              s!"deposit address is a {credential.purpose.name} wallet, not credit_deposit"
          let _ ← recordUnclaimed id receipt ctx .skipped error
          return sweepResult id receipt .heldForReview none (some error)
        else
          .call .blockNumber fun
            | none => do
              let _ ← recordUnclaimed id receipt ctx .failed "Base RPC unavailable"
              return sweepResult id receipt .transferFailed none
                (some "Base RPC unavailable")
            | some claimBlock => do
              let attempt := receipt.sweepAttempts + 1
              let claimed ←
                transition id (unclaimedGuard receipt.sweepAttempts)
                  (.claimed attempt ctx.now claimBlock treasury)
              if claimed then
                sweepClaimed id attempt receipt ctx credential.normalizedEvmAddress treasury
                  bankrWalletId
              else return sweepResult id receipt .claimedElsewhere none none
      | _, _ => do
        let error := "no Bankr credential for the receipt's deposit address"
        let _ ← recordUnclaimed id receipt ctx .failed error
        return sweepResult id receipt .noCredentials none (some error)

inductive SweepJob
  | settle (id : Nat) (now : Int)
  | sweep (id : Nat) (ctx : SweepContext)

def SweepJob.script : SweepJob → Sweeping (Option CreditDepositSweepResult)
  | .settle id now => do
    match ← ask (.load id [.submitted]) "Failed to load credit-deposit sweeps" with
    | none => return none
    | some receipt => return some (← settleSubmittedSweep id receipt now)
  | .sweep id ctx => do
    match ← ask (.load id [.pending, .failed]) "Failed to load credit-deposit sweeps" with
    | none => return none
    | some receipt => return some (← sweepReceipt id receipt ctx)

def sweepSystem : System SweepJob SweepCall SweepCall.Reply String (Option CreditDepositSweepResult)
      SweepStore SweepTurn SweepChange :=
  { program := SweepJob.script
    perform := fun _ => performSweep
    change := applySweepChange }

abbrev SweepSchedule : Type := List (Event SweepJob SweepTurn SweepChange)

abbrev SweepLog : Type :=
  Logged SweepCall SweepCall.Reply String (Option CreditDepositSweepResult) SweepStore

abbrev SweepJournal : Type := Journal SweepCall SweepCall.Reply

def startSweeps : SweepLog :=
  Logged.initial { receipts := [], chain := { head := 0, transactions := [] } }

def afterSweeps (schedule : SweepSchedule) : SweepLog :=
  schedule.foldl sweepSystem.log startSweeps

end Hivra.DepositSweep
