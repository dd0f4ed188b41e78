import Hivra.ManagedVenice.Settlement
import Hivra.Library.Traces
import Hivra.Venice.ResponsesProtocol

/-!
# Reserving for a chat request

The insert of a hold with its balance pre-check, the monthly spend cap, and the
hold of a chat request: what its estimate and its billed options cost.
-/

namespace Hivra.ManagedVenice

open Hivra.Library
open Hivra.Venice

/-- The parameters of `createManagedVeniceReservation`. -/
structure CreateReservation where
  userId : String
  walletType : WalletType
  amountMicroUsd : Nat
  referenceId : String
  estimatedCostMicroUsd : Nat
  model : Option String
  endpoint : String
  expiresAt : Option Nat
  maxShareOfAvailableBps : Option Nat
  metadata : HoldMetadata

structure ReservationReceipt where
  id : String
  status : HoldStatus
  reservedMicroUsd : Nat

def Reservation.receipt (hold : Reservation) : ReservationReceipt :=
  { id := hold.id, status := hold.status, reservedMicroUsd := hold.reservedMicroUsd }

def shareOutOfRange (share : Option Nat) : Bool :=
  share.any fun bps => bps == 0 || decide (10000 < bps)

def overShare (share : Option Nat) (amountMicroUsd availableMicroUsd : Nat) : Bool :=
  share.any fun bps => decide (availableMicroUsd * bps < amountMicroUsd * 10000)

def CreateReservation.newReservation (params : CreateReservation) (accountId : String) :
    NewReservation :=
  { accountId
    userId := params.userId
    walletType := params.walletType
    referenceId := params.referenceId
    estimatedCostMicroUsd := params.estimatedCostMicroUsd
    reservedMicroUsd := params.amountMicroUsd
    model := params.model
    endpoint := params.endpoint
    expiresAt := params.expiresAt
    metadata := params.metadata }

def insertReservationRow (hold : NewReservation) : Settlement ReservationReceipt := do
  match ← (Script.request (Statement.insertReservation hold) :
    Settlement (Statement.insertReservation hold).Reply) with
  | .ok row => pure row.receipt
  | .error .insufficientBalance => throw (.insufficientBalance none)
  | .error failure => throw (.statement failure)

def WalletSummary.reservable (summary : WalletSummary) (walletType : WalletType) : WalletBalance :=
  if walletType = .hermesos then summary.hermesos else summary.card

def createNewReservation (params : CreateReservation) : Settlement ReservationReceipt := do
  let summary ← getManagedVeniceWalletSummary params.userId
  let balance := summary.reservable params.walletType
  if balance.availableMicroUsd < params.amountMicroUsd ∨
      overShare params.maxShareOfAvailableBps params.amountMicroUsd balance.availableMicroUsd then
    throw (.insufficientBalance (some balance))
  else
    let account ← ensureManagedVeniceWalletAccount .walletSummary params.userId
    insertReservationRow (params.newReservation account.id)

def createManagedVeniceReservation (params : CreateReservation) :
    Settlement ReservationReceipt := do
  requireUserId params.userId
  if params.amountMicroUsd = 0 then throw .amountNotPositive
  else if shareOutOfRange params.maxShareOfAvailableBps then throw .shareOutOfRange
  else
    requireReferenceId params.referenceId
    match ← ask (.loadReservation params.userId params.referenceId) with
    | some existing => pure existing.receipt
    | none => createNewReservation params

/-- The configured cap with the clock's month; `none` when caps are off. -/
structure SpendCap where
  capMicroUsd : Nat
  monthStart : Nat

def assertManagedVeniceWithinSpendCap (spendCap : Option SpendCap) (userId : String)
    (addMicroUsd : Nat) : Settlement Unit :=
  match spendCap with
  | none => pure ()
  | some cap => do
    let charges ← ask (.selectMonthlyCharges userId cap.monthStart)
    if cap.capMicroUsd < charges.sum + addMicroUsd then
      throw (.spendCapReached cap.capMicroUsd charges.sum)
    else pure ()

def sweepOutputTokensPerChoice : Nat := 4096

def chatHoldTtlMs : Nat := 24 * 60 * 60 * 1000

/-- The parameters of `reserveManagedVeniceChatRequest`, with the clock and the spend
cap it reads. -/
structure ChatHold where
  userId : String
  proxyKeyId : String
  walletType : WalletType
  referenceId : String
  requestBody : Json
  endpoint : Endpoint
  book : PriceBook
  surcharge : Option SurchargePlan
  maxShareOfAvailableBps : Option Nat
  spendCap : Option SpendCap
  now : Nat

structure ChatReservation where
  referenceId : String
  reservationId : String
  walletType : WalletType
  model : String
  estimatedCostMicroUsd : Nat
  reservedCostMicroUsd : Nat
  reservedMicroUsd : Nat
  discountMicroUsd : Nat
  deriving DecidableEq

def sweepEstimateMicroUsd (estimate : ChatCostEstimate) (surcharge : Option SurchargePlan) : Nat :=
  let sweepOutputTokens :=
    min estimate.outputTokens (sweepOutputTokensPerChoice * estimate.outputChoices)
  min (estimate.estimatedCostMicroUsd + surchargeHoldMicroUsd surcharge)
    (estimate.inputCostMicroUsd +
      (if 0 < estimate.outputTokens then
        ceilQuotient (doubleProduct estimate.outputCostMicroUsd sweepOutputTokens)
          estimate.outputTokens
      else 0) +
      surchargeFallbackChargeMicroUsd surcharge)

def outputMicroUsdPerMillion (book : PriceBook) (model : String) : Except VeniceError Nat := do
  let actual ← calculateActualChatCost book model
    { promptTokens := some (.ofNat 0)
      completionTokens := some (.ofNat 1000000)
      cacheReadTokens := .ofNat 0
      cacheWriteTokens := .ofNat 0
      totalInputTokens := none }
  return actual.completionCostMicroUsd

/-- The hold `reserveManagedVeniceChatRequest` asks for. -/
def ChatHold.createReservation (hold : ChatHold) (estimate : ChatCostEstimate)
    (perMillion : Nat) : CreateReservation :=
  { userId := hold.userId
    walletType := hold.walletType
    amountMicroUsd := estimate.reservedCostMicroUsd + surchargeHoldMicroUsd hold.surcharge
    referenceId := hold.referenceId
    estimatedCostMicroUsd := estimate.estimatedCostMicroUsd + surchargeHoldMicroUsd hold.surcharge
    model := some (memberText "model" hold.requestBody)
    endpoint := Endpoint.path hold.endpoint
    expiresAt := some (hold.now + chatHoldTtlMs)
    maxShareOfAvailableBps := hold.maxShareOfAvailableBps
    metadata :=
      { proxyKeyId := some hold.proxyKeyId
        inputEstimateMicroUsd := some estimate.inputCostMicroUsd
        outputMicroUsdPerMillion := some perMillion
        sweepEstimateMicroUsd := some (sweepEstimateMicroUsd estimate hold.surcharge)
        surchargePlan := hold.surcharge
        surchargeEstimateMicroUsd :=
          hold.surcharge.map fun plan => surchargeFallbackChargeMicroUsd (some plan) } }

def orThrow {Outcome : Type} (result : Except VeniceError Outcome) : Settlement Outcome :=
  match result with
  | .ok outcome => pure outcome
  | .error failure => throw (.venice failure)

def reserveManagedVeniceChatRequest (hold : ChatHold) : Settlement ChatReservation := do
  let estimate ← orThrow (estimateChatCompletionCost hold.book hold.requestBody)
  let surchargeHold := surchargeHoldMicroUsd hold.surcharge
  assertManagedVeniceWithinSpendCap hold.spendCap hold.userId
    (estimate.estimatedCostMicroUsd + surchargeHold)
  let perMillion ← orThrow
    (outputMicroUsdPerMillion hold.book (memberText "model" hold.requestBody))
  let reservation ← createManagedVeniceReservation (hold.createReservation estimate perMillion)
  pure
    { referenceId := hold.referenceId
      reservationId := reservation.id
      walletType := hold.walletType
      model := memberText "model" hold.requestBody
      estimatedCostMicroUsd := estimate.estimatedCostMicroUsd + surchargeHold
      reservedCostMicroUsd := estimate.reservedCostMicroUsd + surchargeHold
      reservedMicroUsd := estimate.reservedCostMicroUsd + surchargeHold
      discountMicroUsd := 0 }

end Hivra.ManagedVenice
