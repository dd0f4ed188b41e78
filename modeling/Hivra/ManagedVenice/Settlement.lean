import Hivra.ManagedVenice.SettlementStore

/-!
# Settling a hold

The settlement code as scripts over the settlement database: the wallet helpers,
the capture of reported usage, the capture of a cost, the charge for observed
output, the release, and the callers that file an item when a settlement throws.
Log lines are left out.
-/

namespace Hivra.ManagedVenice

open Hivra.Library
open Hivra.Venice

/-- `ManagedVeniceWalletBalance`. -/
structure WalletBalance where
  totalValueMicroUsd : Int
  reservedMicroUsd : Nat
  availableMicroUsd : Nat
  deriving DecidableEq

/-- What the settlement and reservation code throws.  A balance refusal carries the
balance it was judged against, unless the database made it. -/
inductive SettlementError
  | userIdRequired
  | referenceIdRequired
  | amountNotPositive
  | shareOutOfRange
  | insufficientBalance (balance : Option WalletBalance)
  | balanceHeld (balance : WalletBalance)
  | spendCapReached (capMicroUsd spentMicroUsd : Nat)
  | reservationNotFound
  | captureExceedsReservation
  | accountMissing
  | unsupportedResponses (message : String)
  | statement (failure : SqlError)
  | venice (failure : VeniceError)
  deriving DecidableEq

/-- `instanceof ManagedVeniceInsufficientBalanceError`, of which the held-balance error
is a subclass. -/
def SettlementError.isInsufficientBalance : SettlementError → Bool
  | .insufficientBalance _ => true
  | .balanceHeld _ => true
  | _ => false

abbrev Settlement (Outcome : Type) : Type :=
  Script Statement Statement.Reply SettlementError Outcome

/-- White space as `String.prototype.trim` takes it off. -/
def isTrimmed (char : Char) : Bool :=
  let code := char.toNat
  (9 ≤ code && code ≤ 13) || code == 32 || code == 0xA0 || code == 0x1680 ||
    (0x2000 ≤ code && code ≤ 0x200A) || code == 0x2028 || code == 0x2029 || code == 0x202F ||
    code == 0x205F || code == 0x3000 || code == 0xFEFF

/-- `!text.trim()`. -/
def isEmptyText (text : String) : Bool :=
  text.toList.all isTrimmed

def ask (statement : Statement) : Settlement statement.Answer := do
  match ← (Script.request statement : Settlement statement.Reply) with
  | .ok answer => pure answer
  | .error failure => throw (.statement failure)

def requireUserId (userId : String) : Settlement Unit :=
  if isEmptyText userId then throw .userIdRequired else pure ()

def requireReferenceId (referenceId : String) : Settlement Unit :=
  if isEmptyText referenceId then throw .referenceIdRequired else pure ()

/-! ## Wallet helpers -/

def ensureManagedVeniceWalletAccount (purpose : AccountUse) (userId : String) :
    Settlement WalletAccount := do
  requireUserId userId
  match ← ask (.loadWalletAccount purpose userId) with
  | some account => pure account
  | none =>
    ask (.upsertWalletAccount purpose userId)
    match ← ask (.loadWalletAccount purpose userId) with
    | some account => pure account
    | none => throw .accountMissing

structure WalletSummary where
  hermesos : WalletBalance
  remainingTokenAmountRaw : Nat
  card : WalletBalance

def reservedUnder (walletType : WalletType) (holds : List Reservation) : Nat :=
  ((holds.filter fun hold => hold.walletType == walletType).map (·.reservedMicroUsd)).sum

def walletBalance (totalValueMicroUsd : Int) (reservedMicroUsd : Nat) : WalletBalance :=
  { totalValueMicroUsd
    reservedMicroUsd
    availableMicroUsd := (totalValueMicroUsd - reservedMicroUsd).toNat }

def getManagedVeniceWalletSummary (userId : String) : Settlement WalletSummary := do
  requireUserId userId
  let _ ← ensureManagedVeniceWalletAccount .walletSummary userId
  let lots ← ask (.selectActiveLots userId)
  let entries ← ask (.selectCardEntries userId)
  let holds ← ask (.selectActiveReservations userId)
  pure
    { hermesos :=
        walletBalance ((lots.map (·.remainingValueMicroUsd)).sum : Nat)
          (reservedUnder .hermesos holds)
      remainingTokenAmountRaw := (lots.map (·.remainingTokenAmountRaw)).sum
      card := walletBalance (entries.map (·.amountMicroUsd)).sum (reservedUnder .card holds) }

/-- How `callWalletFunction` reads a database error back. -/
def walletFailure : SqlError → SettlementError
  | .insufficientBalance => .insufficientBalance none
  | .reservationNotFound => .reservationNotFound
  | .captureExceedsReservation => .captureExceedsReservation
  | failure => .statement failure

def callWalletFunction (statement : Statement) : Settlement statement.Answer := do
  match ← (Script.request statement : Settlement statement.Reply) with
  | .ok answer => pure answer
  | .error failure => throw (walletFailure failure)

def Settlement.debitManagedVeniceWallet (userId : String) (walletType : WalletType)
    (amountMicroUsd : Nat) (referenceId : String) : Settlement WalletSummary := do
  requireUserId userId
  if amountMicroUsd = 0 then throw .amountNotPositive
  requireReferenceId referenceId
  let _ ← callWalletFunction (.debitWallet userId walletType amountMicroUsd referenceId)
  getManagedVeniceWalletSummary userId

def Settlement.captureManagedVeniceReservation (path : SettlementPath) (costMicroUsd : Nat)
    (userId referenceId : String) (captureMicroUsd : Nat) : Settlement CaptureReply := do
  requireUserId userId
  requireReferenceId referenceId
  callWalletFunction (.captureReservation path costMicroUsd userId referenceId captureMicroUsd)

/-- `releaseManagedVeniceReservation`: the amount released, `none` when nothing
was. -/
def releaseManagedVeniceReservation (userId referenceId : String) : Settlement (Option Nat) := do
  requireUserId userId
  match ← ask (.loadReservation userId referenceId) with
  | none => pure none
  | some hold =>
    if hold.status = .active then
      let released := hold.reservedMicroUsd - hold.capturedMicroUsd
      let changed ← ask (.releaseReservation hold.id released)
      pure (if changed then some released else none)
    else pure none

def appendedFinancialEvent (event : FinancialEvent) :
    Except SqlError Unit → Settlement FinancialEvent
  | .ok _ => pure event
  | .error .uniqueViolation => do
    match ← ask (.loadFinancialEvent event.idempotencyKey) with
    | some raced => pure raced
    | none => throw (.statement .uniqueViolation)
  | .error failure => throw (.statement failure)

def appendManagedVeniceFinancialEvent (event : FinancialEvent) : Settlement FinancialEvent := do
  requireUserId event.userId
  requireReferenceId event.referenceId
  requireReferenceId event.idempotencyKey
  match ← ask (.loadFinancialEvent event.idempotencyKey) with
  | some existing => pure existing
  | none =>
    let reply ← (Script.request (Statement.insertFinancialEvent event) :
      Settlement (Statement.insertFinancialEvent event).Reply)
    appendedFinancialEvent event reply

/-! ## Reconciliation items -/

def overageUncoveredReason : String := "managed_venice_overage_uncovered"

/-- File an item; with `pauseKey` a key that is still active is paused too.  The
answer is whether it asked to. -/
def markManagedVeniceReconciliationRequired
    (userId : String) (proxyKeyId : Option String) (referenceId reason : String)
    (metadata : ItemMetadata) (pauseKey : Bool) : Settlement Bool := do
  let account ← ensureManagedVeniceWalletAccount (.reconciliationItem reason) userId
  ask (.insertReconciliationItem
    { userId
      accountId := account.id
      proxyKeyId
      reason
      metadata := { metadata with referenceId := some referenceId } })
  match pauseKey, proxyKeyId with
  | true, some proxyKeyId =>
    ask (.pauseProxyKey proxyKeyId userId reason)
    pure true
  | _, _ => pure false

/-! ## Overages -/

def overageReference (referenceId : String) : String := referenceId ++ ":overage"

inductive OverageStatus
  | none
  | captured
  | reconciliationRequired
  | debitFailed
  deriving DecidableEq

def debitManagedVeniceOverage (userId : String) (walletType : WalletType) (referenceId : String)
    (overageMicroUsd : Nat) : Settlement OverageStatus := do
  if overageMicroUsd = 0 then pure .none
  else
    tryCatch
      (do
        let _ ← Settlement.debitManagedVeniceWallet userId walletType overageMicroUsd
          (overageReference referenceId)
        pure .captured)
      (fun failure =>
        if failure.isInsufficientBalance then pure .reconciliationRequired else throw failure)

def fileManagedVeniceUncoveredOverage
    (userId : String) (proxyKeyId : Option String) (referenceId : String) (model : Option String)
    (reservedMicroUsd : Option Nat) (actualCostMicroUsd overageMicroUsd : Nat)
    (walletType : WalletType) (pauseKey : Bool) (cause : Option String) : Settlement Bool :=
  markManagedVeniceReconciliationRequired userId proxyKeyId referenceId overageUncoveredReason
    { model
      reservedMicroUsd
      actualCostMicroUsd := some actualCostMicroUsd
      overageMicroUsd := some overageMicroUsd
      walletType := some walletType
      cause }
    pauseKey

/-! ## Capturing a cost -/

/-- `ManagedVeniceHoldCostCapture`, when it captured. -/
structure HoldCostCapture where
  capturedMicroUsd : Nat
  overageMicroUsd : Nat
  overageStatus : OverageStatus
  chargedMicroUsd : Nat

def settleHoldCostOverage (hold : Reservation) (proxyKeyId : Option String)
    (costMicroUsd overageMicroUsd : Nat) (cause : String) : Settlement OverageStatus := do
  let overageStatus ←
    tryCatch
      (debitManagedVeniceOverage hold.userId hold.walletType hold.referenceId overageMicroUsd)
      (fun _ => pure .debitFailed)
  if overageStatus = .reconciliationRequired ∨ overageStatus = .debitFailed then
    tryCatch
      (do
        let _ ← fileManagedVeniceUncoveredOverage hold.userId proxyKeyId hold.referenceId hold.model
          (some hold.reservedMicroUsd) costMicroUsd overageMicroUsd hold.walletType
          (overageStatus == .reconciliationRequired) (some cause)
        pure overageStatus)
      (fun _ => pure overageStatus)
  else pure overageStatus

/-- Charge a hold what its request cost when the usage is not in hand; `none` when
the hold was already settled. -/
def captureManagedVeniceHoldCost (hold : Reservation) (proxyKeyId : Option String)
    (costMicroUsd : Nat) (cause : String) : Settlement (Option HoldCostCapture) := do
  let capturedMicroUsd := min hold.reservedMicroUsd costMicroUsd
  let overageMicroUsd := costMicroUsd - capturedMicroUsd
  let capture ← Settlement.captureManagedVeniceReservation .holdCost costMicroUsd hold.userId
    hold.referenceId capturedMicroUsd
  if capture.captured then
    let overageStatus ← settleHoldCostOverage hold proxyKeyId costMicroUsd overageMicroUsd cause
    pure (some
      { capturedMicroUsd
        overageMicroUsd
        overageStatus
        chargedMicroUsd :=
          capturedMicroUsd + (if overageStatus = .captured then overageMicroUsd else 0) })
  else pure none

/-! ## Capturing reported usage -/

def chatEndpoint : String := "/api/v1/chat/completions"

def usagePricingPolicy : String := "provider_rate_credits_no_usage_discount"

def Endpoint.path : Endpoint → String
  | .chatCompletions => chatEndpoint
  | .responses => "/api/v1/responses"

/-- The parameters of `captureManagedVeniceChatUsage`. -/
structure ChatUsage where
  userId : String
  proxyKeyId : String
  walletType : WalletType
  referenceId : String
  model : String
  upstreamStatus : Nat
  usage : Json
  endpoint : Endpoint
  book : PriceBook
  surchargeEvidence : Option SurchargeEvidence

structure ChatUsageCost where
  tokens : UsageTokens
  actual : ActualChatCost
  surchargePlan : Option SurchargePlan
  surcharge : Option SurchargeCharge

def ChatUsageCost.actualCostMicroUsd (cost : ChatUsageCost) : Nat :=
  cost.actual.actualCostMicroUsd +
    (cost.surcharge.map SurchargeCharge.surchargeMicroUsd).getD 0

def ChatUsage.price (request : ChatUsage) : Except VeniceError (UsageTokens × ActualChatCost) := do
  let tokens ← settlementUsageTokens request.endpoint request.usage
  let actual ← calculateActualChatCost request.book request.model tokens
  return (tokens, actual)

def ChatUsage.cost (request : ChatUsage) (priced : UsageTokens × ActualChatCost)
    (hold : Option Reservation) : ChatUsageCost :=
  let surchargePlan := hold.bind fun hold => readSurchargePlan hold.metadata
  { tokens := priced.1
    actual := priced.2
    surchargePlan
    surcharge := surchargePlan.map fun plan =>
      settleManagedChatSurcharge plan (request.surchargeEvidence.getD noSurchargeEvidence)
        priced.2.actualCostMicroUsd }

def cappedCapture (hold : Option Reservation) (actualCostMicroUsd : Nat) : Nat :=
  match hold with
  | none => actualCostMicroUsd
  | some hold => min actualCostMicroUsd hold.reservedMicroUsd

structure ChatUsageCharge where
  referenceId : String
  actualCostMicroUsd : Nat
  chargedMicroUsd : Nat
  overageMicroUsd : Nat
  overageStatus : OverageStatus
  alreadySettled : Bool

def ChatUsage.usageEvent (request : ChatUsage) (cost : ChatUsageCost) (accountId : String)
    (chargedMicroUsd : Nat) : UsageEvent :=
  let promptTokens := cost.tokens.totalInputTokens.getD cost.actual.promptTokens
  { accountId
    userId := request.userId
    proxyKeyId := some request.proxyKeyId
    walletType := request.walletType
    endpoint := Endpoint.path request.endpoint
    model := request.model
    promptTokens := some promptTokens
    completionTokens := some cost.actual.completionTokens
    totalTokens := some (promptTokens + cost.actual.completionTokens)
    estimatedCostMicroUsd := 0
    actualCostMicroUsd := cost.actualCostMicroUsd
    chargedMicroUsd
    upstreamStatus := some request.upstreamStatus
    referenceId := request.referenceId
    pricingPolicy := usagePricingPolicy }

def ChatUsage.financialEvent (request : ChatUsage) (cost : ChatUsageCost) (accountId : String)
    (chargedMicroUsd : Nat) : FinancialEvent :=
  { userId := request.userId
    accountId := some accountId
    walletType := request.walletType
    eventType := "usage_capture"
    amountMicroUsd := chargedMicroUsd
    veniceCostMicroUsd := cost.actualCostMicroUsd
    referenceId := request.referenceId
    idempotencyKey := "managed_venice_usage_capture:" ++ request.referenceId
    pricingPolicy := usagePricingPolicy }

def ChatUsage.fileSurcharge (request : ChatUsage) (cost : ChatUsageCost) : Settlement Unit :=
  match cost.surcharge with
  | some surcharge =>
    match surcharge.reconciliationReason with
    | some reason =>
      tryCatch
        (do
          let _ ← markManagedVeniceReconciliationRequired request.userId
            (some request.proxyKeyId) request.referenceId reason
            { model := some request.model
              surchargeMicroUsd := some surcharge.surchargeMicroUsd
              surchargeCeilingMicroUsd := some surcharge.ceilingMicroUsd
              veniceCostMicroUsd :=
                request.surchargeEvidence.bind SurchargeEvidence.veniceCostMicroUsd
              tokenCostMicroUsd := some cost.actual.actualCostMicroUsd }
            false
          pure ())
        (fun _ => pure ())
    | none => pure ()
  | none => pure ()

def ChatUsage.record (request : ChatUsage) (cost : ChatUsageCost) (hold : Option Reservation)
    (overageStatus : OverageStatus) : Settlement ChatUsageCharge := do
  let actualCostMicroUsd := cost.actualCostMicroUsd
  let cappedCaptureMicroUsd := cappedCapture hold actualCostMicroUsd
  let overageMicroUsd := actualCostMicroUsd - cappedCaptureMicroUsd
  let chargedMicroUsd :=
    if overageStatus = .reconciliationRequired then cappedCaptureMicroUsd
    else cappedCaptureMicroUsd + overageMicroUsd
  let account ← ensureManagedVeniceWalletAccount .usageRecord request.userId
  ask (.insertUsageEvent (request.usageEvent cost account.id chargedMicroUsd))
  let _ ← appendManagedVeniceFinancialEvent
    (request.financialEvent cost account.id chargedMicroUsd)
  request.fileSurcharge cost
  if overageStatus = .reconciliationRequired then
    let _ ← fileManagedVeniceUncoveredOverage request.userId (some request.proxyKeyId)
      request.referenceId (some request.model) (hold.map Reservation.reservedMicroUsd)
      actualCostMicroUsd overageMicroUsd request.walletType true none
  pure
    { referenceId := request.referenceId
      actualCostMicroUsd
      chargedMicroUsd
      overageMicroUsd
      overageStatus
      alreadySettled := false }

def captureManagedVeniceChatUsage (request : ChatUsage) : Settlement ChatUsageCharge := do
  match request.price with
  | .error failure => throw (.venice failure)
  | .ok priced =>
    let hold ← ask (.loadReservation request.userId request.referenceId)
    let cost := request.cost priced hold
    let actualCostMicroUsd := cost.actualCostMicroUsd
    let cappedCaptureMicroUsd := cappedCapture hold actualCostMicroUsd
    let capture ← Settlement.captureManagedVeniceReservation .chatUsage actualCostMicroUsd
      request.userId request.referenceId cappedCaptureMicroUsd
    if capture.captured then
      let overageStatus ← debitManagedVeniceOverage request.userId request.walletType
        request.referenceId (actualCostMicroUsd - cappedCaptureMicroUsd)
      request.record cost hold overageStatus
    else
      pure
        { referenceId := request.referenceId
          actualCostMicroUsd
          chargedMicroUsd := 0
          overageMicroUsd := 0
          overageStatus := .none
          alreadySettled := true }

/-- What reported usage costs, for the item of a capture that failed; `none` when it
cannot be priced. -/
def managedVeniceUsageCostMicroUsd (book : PriceBook) (model : String) (endpoint : Endpoint)
    (usage : Json) : Option Nat :=
  match settlementTokenCost book model endpoint usage with
  | .ok cost => some cost
  | .error _ => none

/-! ## Charging observed output -/

def observedOutputCapturePolicy : String := "managed_venice_observed_output_capture"

def recordManagedVeniceEstimatedCapture
    (hold : Reservation) (proxyKeyId : Option String) (amountMicroUsd listMicroUsd : Nat)
    (pricingPolicy : String) (upstreamStatus : Option Nat) (idempotencyKey : String) :
    Settlement Unit :=
  tryCatch
    (do
      ask (.insertUsageEvent
        { accountId := hold.accountId
          userId := hold.userId
          proxyKeyId
          walletType := hold.walletType
          endpoint := if hold.endpoint = "" then chatEndpoint else hold.endpoint
          model :=
            match hold.model with
            | some model => if model = "" then "unknown" else model
            | none => "unknown"
          promptTokens := none
          completionTokens := none
          totalTokens := none
          estimatedCostMicroUsd := hold.reservedMicroUsd
          actualCostMicroUsd := listMicroUsd
          chargedMicroUsd := amountMicroUsd
          upstreamStatus
          referenceId := hold.referenceId
          pricingPolicy })
      let _ ← appendManagedVeniceFinancialEvent
        { userId := hold.userId
          accountId := some hold.accountId
          walletType := if hold.walletType = .card then .card else .hermesos
          eventType := "usage_capture"
          amountMicroUsd
          veniceCostMicroUsd := listMicroUsd
          referenceId := hold.referenceId
          idempotencyKey
          pricingPolicy }
      pure ())
    (fun _ => pure ())

inductive ObservedOutputOutcome
  | captured
  | alreadySettled
  | reservationNotFound
  | filedForSweep
  | unfiled

/-- The parameters of `captureManagedVeniceObservedOutput`. -/
structure ObservedOutput where
  userId : String
  proxyKeyId : String
  referenceId : String
  model : String
  upstreamStatus : Nat
  observedOutputTokens : Nat
  cause : String
  reconciliationReason : String

def ObservedOutput.counted (request : ObservedOutput) : Nat :=
  if request.observedOutputTokens ≤ Json.maxSafeInteger then request.observedOutputTokens else 0

def captureManagedVeniceObservedOutput (request : ObservedOutput) :
    Settlement (ObservedOutputOutcome × Nat) :=
  tryCatch
    (do
      match ← ask (.loadReservation request.userId request.referenceId) with
      | none => pure (.reservationNotFound, 0)
      | some hold =>
        if hold.status = .active then
          let costMicroUsd :=
            (observedOutputCostMicroUsd hold request.counted).getD
              (holdEstimateMicroUsd hold)
          match ← captureManagedVeniceHoldCost hold (some request.proxyKeyId) costMicroUsd
            request.cause with
          | none => pure (.alreadySettled, 0)
          | some charge =>
            recordManagedVeniceEstimatedCapture hold (some request.proxyKeyId)
              charge.chargedMicroUsd costMicroUsd observedOutputCapturePolicy
              (some request.upstreamStatus)
              ("managed_venice_usage_capture:" ++ request.referenceId)
            pure (.captured, charge.chargedMicroUsd)
        else pure (.alreadySettled, 0))
    (fun _ =>
      tryCatch
        (do
          let _ ← markManagedVeniceReconciliationRequired request.userId (some request.proxyKeyId)
            request.referenceId request.reconciliationReason
            { model := some request.model
              upstreamStatus := some request.upstreamStatus
              cause := some request.cause
              observedOutputTokens := some request.counted }
            false
          pure (.filedForSweep, 0))
        (fun _ => pure (.unfiled, 0)))

/-! ## Releasing -/

/-- The parameters of `releaseManagedVeniceChatReservationOrFile`. -/
structure Release where
  userId : String
  proxyKeyId : Option String
  referenceId : String
  cause : String
  upstreamStatus : Option Nat
  model : Option String

inductive ReleaseOutcome
  | released
  | nothingToRelease
  | filed
  | failed

def releaseManagedVeniceChatReservationOrFile (request : Release) : Settlement ReleaseOutcome :=
  tryCatch
    (do
      match ← releaseManagedVeniceReservation request.userId request.referenceId with
      | some _ => pure .released
      | none => pure .nothingToRelease)
    (fun _ =>
      tryCatch
        (do
          let _ ← markManagedVeniceReconciliationRequired request.userId request.proxyKeyId
            request.referenceId chatReleaseFailedReconciliationReason
            { cause := some request.cause
              upstreamStatus := request.upstreamStatus
              model := request.model }
            false
          pure .filed)
        (fun _ => pure .failed))

/-! ## The callers of a usage capture -/

def fileCaptureFailure (request : ChatUsage) (reason cause : String)
    (observedOutputTokens : Option Nat) : Settlement Bool :=
  markManagedVeniceReconciliationRequired request.userId (some request.proxyKeyId)
    request.referenceId reason
    { model := some request.model
      upstreamStatus := some request.upstreamStatus
      cause := some cause
      usageCostMicroUsd :=
        managedVeniceUsageCostMicroUsd request.book request.model .chatCompletions request.usage
      observedOutputTokens }
    false

/-- `settle` of a stream whose usage frame arrived: a capture that throws files
`captureFailed` and never fails the stream.  The answer is the error. -/
def settleStream (request : ChatUsage) (captureFailed : String) (observedOutputTokens : Nat) :
    Settlement (Option SettlementError) :=
  tryCatch
    (do
      let _ ← captureManagedVeniceChatUsage request
      pure none)
    (fun failure =>
      tryCatch
        (do
          let _ ← fileCaptureFailure request captureFailed "settlement_failed"
            (some observedOutputTokens)
          pure (some failure))
        (fun _ => pure (some failure)))

/-- `settleManagedVeniceChatUsage` with a usage block: settled, or reconciled through
an item.  It throws when even the item cannot be written. -/
def settleManagedVeniceChatUsage (request : ChatUsage) (cause : String)
    (observedOutputTokens : Option Nat) : Settlement (Bool × Bool) :=
  tryCatch
    (do
      let _ ← captureManagedVeniceChatUsage request
      pure (true, false))
    (fun _ => do
      let _ ← fileCaptureFailure request "managed_venice_stream_settlement_failed" cause
        observedOutputTokens
      pure (false, true))

end Hivra.ManagedVenice
