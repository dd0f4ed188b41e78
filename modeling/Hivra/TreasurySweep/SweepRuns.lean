import Hivra.TreasurySweep.SweepTables

/-!
# Two treasury sweeps

The sweep of one yearly subscription and of one managed Venice quote, and what a pass does
before it with the rows it has loaded.  A pass is any number of these runs; reports to ops
and the log change nothing a sweep reads and are left out.
-/

namespace Hivra.TreasurySweep

open Hivra.Library

inductive SweepOutcome
  | swept
  | claimedElsewhere
  | needsOperator
  | noBalance
  | noTreasuryConfigured
  | noCredentials
  | transferFailed
  | gasTopupFailed

structure SweepResult where
  id : Nat
  userId : Nat
  outcome : SweepOutcome
  txHash : Option TxHash
  amountSweptDisplay : Option String
  destinationAddress : Option Address
  error : Option String

def sweepResult (id userId : Nat) (outcome : SweepOutcome) (destinationAddress : Option Address)
    (error : Option String) : SweepResult :=
  { id
    userId
    outcome
    txHash := none
    amountSweptDisplay := none
    destinationAddress
    error }

abbrev Sweeping (Facts Outcome : Type) : Type :=
  Script (SweepCall Facts) SweepCall.Reply String Outcome

section Requests

variable {Facts : Type}

/-- A request whose error is thrown, with `context` before its message. -/
def ask (call : SweepCall Facts) (context : String) : Sweeping Facts call.Answer :=
  .call call fun
    | .ok answer => .ret answer
    | .error message => .raise (context ++ message)

def claimGuard (claimedAt : Int) : SweepGuard :=
  { source := .sweeping, attemptedAt := some claimedAt, submittedIsNull := false }

def finish (id : Nat) (guard : SweepGuard) (patch : SweepPatch) (context : String)
    (result : SweepResult) : Sweeping Facts SweepResult := do
  let _ ← ask (.transition id guard patch) context
  return result

/-- What a pass does with a stale claim it has loaded: retry it if no transfer was
submitted under it, and otherwise hand it to an operator. -/
def recoverStaleClaim (staleMs : Int) (loadFailed updateFailed : String) (id : Nat) (now : Int) :
    Sweeping Facts Unit := do
  let loaded ← ask (.load id .sweeping) loadFailed
  match loaded.filter fun row => row.sweepAttemptedAt.any fun attemptedAt =>
      decide (attemptedAt < now - staleMs) with
  | none => return ()
  | some row => do
    let stale : SweepGuard :=
      { source := .sweeping
        attemptedAt := row.sweepAttemptedAt
        submittedIsNull := row.sweepSubmittedAt.isNone }
    let patch : SweepPatch :=
      if row.sweepSubmittedAt.isSome then
        .park "sweep claim went stale after a treasury transfer was submitted"
      else .recover "sweep claim went stale before a transfer was submitted"
    let _ ← ask (.transition id stale patch) updateFailed
    return ()

/-- A failed row that still carries a submit marker is never retried.  `retryable` is what
a pass asks of the failed rows it takes up. -/
def parkSubmittedFailed (retryable : SweepRow Facts → Bool) (loadFailed updateFailed : String)
    (id : Nat) : Sweeping Facts Unit := do
  let loaded ← ask (.load id .failed) loadFailed
  match loaded.filter fun row => retryable row && row.sweepSubmittedAt.isSome with
  | none => return ()
  | some row => do
    let guard : SweepGuard :=
      { source := .failed, attemptedAt := row.sweepAttemptedAt, submittedIsNull := false }
    let _ ←
      ask (.transition id guard (.park "failed sweep carries a submitted treasury transfer"))
        updateFailed
    return ()

end Requests

def yearlySweepRetryBackoffMs : Int := 30 * 60000
def yearlySweepClaimStaleMs : Int := 15 * 60000

structure YearlySubscription where
  amountReceivedRaw : Int
  depositAddress : Option Address
  metadataDepositAddress : Option Address
  depositTxHash : Option TxHash
  depositLogIndex : Option Nat
  tokenAddress : Option Address

structure YearlyContext where
  now : Int
  treasury : Option Address
  partnerKey : Bool
  hivra : Option PlatformToken

abbrev YearlySweeping (Outcome : Type) : Type := Sweeping YearlySubscription Outcome

namespace Yearly

def loadFailed : String := "Failed to load yearly sweep queue: "

def updateFailed (id : Nat) : String := s!"Failed to update yearly sweep {id}: "

/-- `releaseAsFailed`, and the result the sweep ends with. -/
def release (id userId : Nat) (now : Int) (outcome : SweepOutcome)
    (message : String) : YearlySweeping SweepResult :=
  finish id (claimGuard now) (.release message now none) (updateFailed id)
    (sweepResult id userId outcome none (some message))

/-- `parkForOperator`, and the result the sweep ends with. -/
def park (id userId : Nat) (now : Int) (reason : String) : YearlySweeping SweepResult :=
  finish id (claimGuard now) (.park reason) (updateFailed id)
    (sweepResult id userId .needsOperator none (some reason))

def recordTransfer (id userId : Nat) (now : Int) (amountDisplay : String) :
    Except String BankrAnswer → YearlySweeping SweepResult
  | .ok (.accepted txHash) =>
    finish id (claimGuard now) (.succeed txHash none) (updateFailed id)
      { sweepResult id userId .swept none none with
        txHash
        amountSweptDisplay := some amountDisplay }
  | .ok (.httpError status message) =>
    let error := "transfer failed: " ++ message
    if isDefiniteTransferRejection status then release id userId now .transferFailed error
    else park id userId now s!"treasury transfer outcome unknown ({error})"
  | .error message =>
    park id userId now s!"treasury transfer outcome unknown (transfer failed: {message})"

def requestTransfer (id userId : Nat) (row : YearlySubscription) (ctx : YearlyContext)
    (token : PlatformToken) (treasury : Address) : YearlySweeping SweepResult := do
  let stillClaimed ←
    ask (.transition id (claimGuard ctx.now) (.submit ctx.now none)) (updateFailed id)
  if stillClaimed then
    let amountDisplay := formatRawTokenBalance row.amountReceivedRaw token.decimals
    .call (.submitBankrTransfer id token.address treasury amountDisplay)
      (recordTransfer id userId ctx.now amountDisplay)
  else return sweepResult id userId .claimedElsewhere none none

def sweepFunded (id userId : Nat) (row : YearlySubscription) (ctx : YearlyContext)
    (token : PlatformToken) (treasury wallet : Address) (bankrWalletId : String) :
    YearlySweeping SweepResult :=
  .call (.ensureWalletHasGas wallet) fun
    | .error message =>
      release id userId ctx.now .gasTopupFailed ("gas top-up failed: " ++ message)
    | .ok (.treasuryDrained reason) =>
      release id userId ctx.now .gasTopupFailed
        ("gas top-up treasury_drained: " ++ reason.getD "treasury hot wallet drained")
    | .ok .ready => do
      let apiKey ← ask (.mintScopedTransferApiKey bankrWalletId treasury) ""
      if apiKey then requestTransfer id userId row ctx token treasury
      else
        release id userId ctx.now .noCredentials
          (if ctx.partnerKey then
            "Bankr API key mint returned null (likely per-wallet 20-key cap — revoke stale " ++
              "keys on Bankr)"
          else "Bankr partner key not configured (BANKR_PARTNER_KEY env var missing)")

def sweepClaimed (id userId : Nat) (row : YearlySubscription) (ctx : YearlyContext) :
    YearlySweeping SweepResult :=
  match ctx.treasury with
  | none =>
    release id userId ctx.now .noTreasuryConfigured "HERMES_TREASURY_ADDRESS missing or invalid"
  | some treasury =>
    match row.depositTxHash, row.depositLogIndex,
        row.depositAddress <|> row.metadataDepositAddress with
    | some _, some _, some depositAddress =>
      if row.amountReceivedRaw ≤ 0 then
        park id userId ctx.now "no attributed token deposit transfer recorded for this subscription"
      else
        let tokenAddress := row.tokenAddress.getD hermesosToken.address
        match platformTokenByAddress ctx.hivra tokenAddress with
        | none =>
          park id userId ctx.now s!"unknown payment token {tokenAddress} on this subscription"
        | some token => do
          let credential ← ask (.credentialForAddress depositAddress) ""
          match credential, credential.bind DepositCredential.bankrWalletId with
          | some credential, some bankrWalletId =>
            if credential.purpose = .hermesosLock then
              park id userId ctx.now "refused to sweep a hermesos_lock wallet"
            else
              .call (.tokenBalance credential.evmAddress token.address) fun
                | .error message =>
                  release id userId ctx.now .transferFailed
                    ("balance read failed: " ++ message)
                | .ok balance =>
                  if balance < row.amountReceivedRaw then
                    park id userId ctx.now
                      (s!"live balance {balance} < subscription amount " ++
                        s!"{row.amountReceivedRaw}")
                  else
                    sweepFunded id userId row ctx token treasury credential.evmAddress
                      bankrWalletId
          | _, _ =>
            park id userId ctx.now s!"no Bankr credential for deposit wallet {depositAddress}"
    | _, _, _ =>
      park id userId ctx.now "no attributed token deposit transfer recorded for this subscription"

end Yearly

def sweepYearlyTokenSubscription (id userId : Nat) (ctx : YearlyContext) :
    YearlySweeping SweepResult := do
  match ← ask (.claim id ctx.now) "Failed to claim yearly sweep: " with
  | none => return sweepResult id userId .claimedElsewhere none none
  | some row => Yearly.sweepClaimed id userId row.facts ctx

def managedVeniceSweepClaimStaleMs : Int := 15 * 60000

structure ManagedVeniceQuote where
  /-- The quote's `status`. -/
  settled : Bool
  userId : Nat
  accountId : Option Nat
  tokenAddress : Option Address
  tokenAmountRaw : Int
  lockedValueMicroUsd : Nat
  depositAddress : Option Address

/-- `treasury` is the error of an invalid address, or the address if one is configured. -/
structure ManagedVeniceContext where
  now : Int
  treasury : Except String (Option Address)
  hivra : Option PlatformToken

abbrev ManagedVeniceSweeping (Outcome : Type) : Type := Sweeping ManagedVeniceQuote Outcome

namespace ManagedVenice

def updateFailed (id : Nat) : String := s!"Failed to update managed Venice token sweep {id}: "

/-- `release`, and the result the sweep ends with. -/
def release (id userId : Nat) (now : Int) (destination : Option Address) (outcome : SweepOutcome)
    (message : String) : ManagedVeniceSweeping SweepResult :=
  finish id (claimGuard now) (.release message now (some destination)) (updateFailed id)
    (sweepResult id userId outcome destination (some message))

def park (id userId : Nat) (now : Int) (treasury : Address) (reason : String) :
    ManagedVeniceSweeping SweepResult :=
  finish id (claimGuard now) (.park reason) (updateFailed id)
    (sweepResult id userId .needsOperator (some treasury) (some reason))

def sweptValueMicroUsd (quote : ManagedVeniceQuote) (amountRaw : Int) : Int :=
  if quote.tokenAmountRaw ≤ 0 ∨ amountRaw = quote.tokenAmountRaw then quote.lockedValueMicroUsd
  else (quote.lockedValueMicroUsd * amountRaw).tdiv quote.tokenAmountRaw

/-- `markSweepSucceeded`: the event is written whether the claim still holds or not, and an
error of it is only logged. -/
def markSweepSucceeded (id : Nat) (quote : ManagedVeniceQuote) (now : Int)
    (token : PlatformToken) (txHash : Option TxHash) (amountRaw : Int) (amountDisplay : String)
    (destinationAddress : Address) : ManagedVeniceSweeping Bool := do
  let recorded ←
    ask (.transition id (claimGuard now) (.succeed txHash (some destinationAddress))) (updateFailed id)
  .call
    (.recordEvent
      { userId := quote.userId
        accountId := quote.accountId
        walletType := token.key
        referenceId := id
        txHash
        tokenAmountRaw := amountRaw
        amountMicroUsd := sweptValueMicroUsd quote amountRaw
        token
        amountDisplay
        destinationAddress })
    fun _ => .ret recorded

def recordTransfer (id userId : Nat) (quote : ManagedVeniceQuote) (now : Int)
    (token : PlatformToken) (expectedRaw : Int) (amountDisplay : String) (treasury : Address) :
    Except String BankrAnswer → ManagedVeniceSweeping SweepResult
  | .ok (.accepted txHash) => do
    let recorded ←
      markSweepSucceeded id quote now token txHash expectedRaw amountDisplay treasury
    let outcome : SweepOutcome := if recorded then .swept else .needsOperator
    let error :=
      if recorded then none else some "transfer sent after the claim was recovered as stale"
    let result := sweepResult id userId outcome (some treasury) error
    return { result with txHash, amountSweptDisplay := some amountDisplay }
  | .ok (.httpError status message) =>
    let error := "transfer failed: " ++ message
    if isDefiniteTransferRejection status then
      release id userId now (some treasury) .transferFailed error
    else park id userId now treasury s!"treasury transfer outcome unknown ({error})"
  | .error message =>
    park id userId now treasury
      s!"treasury transfer outcome unknown (transfer failed: {message})"

def requestTransfer (id userId : Nat) (quote : ManagedVeniceQuote) (now : Int)
    (token : PlatformToken) (expectedRaw : Int) (treasury : Address) :
    ManagedVeniceSweeping SweepResult := do
  let stillClaimed ←
    ask
      (.transition id { claimGuard now with submittedIsNull := true }
        (.submit now (some treasury)))
      (updateFailed id)
  if stillClaimed then
    let amountDisplay := formatRawTokenBalance expectedRaw token.decimals
    .call (.submitBankrTransfer id token.address treasury amountDisplay)
      (recordTransfer id userId quote now token expectedRaw amountDisplay treasury)
  else return sweepResult id userId .claimedElsewhere (some treasury) none

def sweepFunded (id userId : Nat) (quote : ManagedVeniceQuote) (now : Int)
    (token : PlatformToken) (expectedRaw : Int) (treasury wallet : Address)
    (bankrWalletId : String) : ManagedVeniceSweeping SweepResult :=
  .call (.ensureWalletHasGas wallet) fun
    | .error message =>
      release id userId now (some treasury) .gasTopupFailed ("gas top-up failed: " ++ message)
    | .ok (.treasuryDrained reason) =>
      release id userId now (some treasury) .gasTopupFailed
        ("gas top-up treasury_drained: " ++ reason.getD "treasury hot wallet drained")
    | .ok .ready => do
      let apiKey ← ask (.mintScopedTransferApiKey bankrWalletId treasury) ""
      if apiKey then requestTransfer id userId quote now token expectedRaw treasury
      else
        release id userId now (some treasury) .noCredentials
          "Bankr scoped transfer API key unavailable"

def sweepWallet (id userId : Nat) (quote : ManagedVeniceQuote) (now : Int)
    (token : PlatformToken) (treasury wallet : Address) (bankrWalletId : String) :
    ManagedVeniceSweeping SweepResult :=
  .call (.depositLot id) fun
    | .error message =>
      release id userId now (some treasury) .transferFailed
        ("deposit lot read failed: " ++ message)
    | .ok lot =>
      let expectedRaw := lot.getD quote.tokenAmountRaw
      .call (.tokenBalance wallet token.address) fun
        | .error message =>
          release id userId now (some treasury) .transferFailed
            ("balance read failed: " ++ message)
        | .ok balance =>
          if balance < expectedRaw then
            let reason := s!"live balance {balance} < expected {expectedRaw}"
            finish id (claimGuard now) (.skip reason now treasury) (updateFailed id)
              (sweepResult id userId .noBalance (some treasury) (some reason))
          else
            sweepFunded id userId quote now token expectedRaw treasury wallet bankrWalletId

def depositCredential (userId : Nat) (quote : ManagedVeniceQuote) :
    ManagedVeniceSweeping (Option DepositCredential) := do
  let ofAddress ←
    match quote.depositAddress with
    | some address => ask (.credentialForAddress address) ""
    | none => pure none
  match ofAddress with
  | some credential => return some credential
  | none => do
    match ← ask (.credentialForUser userId .creditDeposit) "" with
    | some credential => return some credential
    | none => ask (.credentialForUser userId .managedVeniceInference) ""

def sweepClaimed (id userId : Nat) (quote : ManagedVeniceQuote) (ctx : ManagedVeniceContext) :
    ManagedVeniceSweeping SweepResult :=
  let tokenAddress := quote.tokenAddress.getD hermesosToken.address
  match platformTokenByAddress ctx.hivra tokenAddress with
  | none => .raise s!"Unknown platform token {tokenAddress}"
  | some token =>
    match ctx.treasury with
    | .error message =>
      release id userId ctx.now none .noTreasuryConfigured
        ("invalid managed Venice treasury address: " ++ message)
    | .ok none =>
      release id userId ctx.now none .noTreasuryConfigured
        ("MANAGED_VENICE_TREASURY_BASE_ADDRESS not configured; " ++
          "fallback HERMES_TREASURY_ADDRESS/HERMES_TREASURY_BASE_ADDRESS also unavailable")
    | .ok (some treasury) => do
      let credential ← depositCredential userId quote
      match credential with
      | none =>
        release id userId ctx.now (some treasury) .noCredentials
          "Bankr deposit wallet credential missing for managed Venice sweep"
      | some credential =>
        if credential.purpose = .hermesosLock then
          release id userId ctx.now (some treasury) .noCredentials
            "refused to sweep hermesos_lock wallet for managed Venice quote"
        else
          match credential.bankrWalletId with
          | none =>
            release id userId ctx.now (some treasury) .noCredentials
              "Bankr deposit wallet credential missing for managed Venice sweep"
          | some bankrWalletId =>
            sweepWallet id userId quote ctx.now token treasury credential.evmAddress
              bankrWalletId

end ManagedVenice

def sweepManagedVeniceTokenQuote (id userId : Nat) (ctx : ManagedVeniceContext) :
    ManagedVeniceSweeping SweepResult := do
  match ← ask (.claim id ctx.now) "Failed to claim managed Venice token sweep: " with
  | none => return sweepResult id userId .claimedElsewhere none none
  | some row => ManagedVenice.sweepClaimed id userId row.facts ctx

inductive SweepJob (Context : Type)
  | recover (id : Nat) (now : Int)
  | parkFailed (id : Nat) (now : Int)
  | sweep (id userId : Nat) (ctx : Context)

abbrev SweepSystem (Context Facts : Type) : Type :=
  System (SweepJob Context) (SweepCall Facts) SweepCall.Reply String (Option SweepResult)
    (SweepStore Facts) SweepTurn (SweepChange Facts)

def YearlySubscription.retryable (now : Int) (row : SweepRow YearlySubscription) : Bool :=
  row.sweepAttemptedAt.all fun attemptedAt => decide (attemptedAt < now - yearlySweepRetryBackoffMs)

def yearlyScript : SweepJob YearlyContext → YearlySweeping (Option SweepResult)
  | .recover id now => do
    recoverStaleClaim yearlySweepClaimStaleMs Yearly.loadFailed (Yearly.updateFailed id) id now
    return none
  | .parkFailed id now => do
    parkSubmittedFailed (YearlySubscription.retryable now) Yearly.loadFailed
      (Yearly.updateFailed id) id
    return none
  | .sweep id userId ctx => do return some (← sweepYearlyTokenSubscription id userId ctx)

def yearlySystem : SweepSystem YearlyContext YearlySubscription :=
  { program := yearlyScript
    perform := fun _ => performSweep fun _ => true
    change := applySweepChange }

def managedVeniceScript : SweepJob ManagedVeniceContext → ManagedVeniceSweeping (Option SweepResult)
  | .recover id now => do
    recoverStaleClaim managedVeniceSweepClaimStaleMs "" (ManagedVenice.updateFailed id) id now
    return none
  | .parkFailed id _ => do
    parkSubmittedFailed (fun row => row.facts.settled) "" (ManagedVenice.updateFailed id) id
    return none
  | .sweep id userId ctx => do return some (← sweepManagedVeniceTokenQuote id userId ctx)

def managedVeniceSystem : SweepSystem ManagedVeniceContext ManagedVeniceQuote :=
  { program := managedVeniceScript
    perform := fun _ => performSweep ManagedVeniceQuote.settled
    change := applySweepChange }

end Hivra.TreasurySweep
