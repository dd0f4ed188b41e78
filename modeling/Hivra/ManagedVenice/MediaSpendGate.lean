import Hivra.ManagedVenice.ChatReservation
import Hivra.Venice.MultimodalPricing

/-!
# The spend gate of media requests

A media request is held at a ceiling before it is forwarded, and what a success costs is noted on
the hold.  A 2xx is settled at the catalog price of the tier that was sent, anything else is
released.  What cannot be captured is filed for the sweep.  Log lines and the texts of the
refusals are left out.
-/

namespace Hivra.ManagedVenice

open Hivra.Library
open Hivra.Venice

def mediaHoldTtlMs : Nat := 60 * 60 * 1000

def mediaCaptureFailedReason : String := "managed_venice_media_capture_failed"

def mediaReleaseFailedReason : String := "managed_venice_media_release_failed"

structure MediaKey where
  id : String
  userId : String
  defaultWalletType : Option WalletType

def MediaKey.walletType (key : MediaKey) : WalletType :=
  if key.defaultWalletType = some .card then .card else .hermesos

structure MediaOperation where
  endpoint : String
  model : String
  metadata : Json
  metadataIsRecord : metadata.isRecord = true

/-- The parameters of `holdManagedVeniceMediaSpend`, with the catalog, the clock and the spend
cap it reads. -/
structure MediaRequest where
  key : MediaKey
  operation : MediaOperation
  referenceId : String
  catalog : MultimodalCatalog
  spendCap : Option SpendCap
  now : Nat

inductive MediaRefusal
  | invalidTier
  | unpriced
  | tooLarge
  | insufficientBalance
  | spendCapReached
  | billingUnavailable

def SettlementError.mediaRefusal (failure : SettlementError) : MediaRefusal :=
  if failure.isInsufficientBalance then .insufficientBalance
  else
    match failure with
    | .spendCapReached _ _ => .spendCapReached
    | _ => .billingUnavailable

def MediaOperation.settledCost (operation : MediaOperation) (catalog : MultimodalCatalog)
    (metadata : Json) : Except MultimodalSkipReason MultimodalCost :=
  computeVeniceMultimodalCost catalog operation.endpoint operation.model metadata

def MediaRequest.listCost (request : MediaRequest) (estimate : MultimodalCost) (metadata : Json) :
    Nat :=
  match request.operation.settledCost request.catalog metadata with
  | .ok cost => cost.listCostMicroUsd
  | .error _ => estimate.listCostMicroUsd

def MediaRequest.heldMicroUsd (request : MediaRequest) (estimate : MultimodalCost) : Nat :=
  applyVeniceMultimodalMarkup request.catalog estimate.listCostMicroUsd

def MediaRequest.charge (request : MediaRequest) (estimate : MultimodalCost) (metadata : Json) :
    Nat :=
  min (request.heldMicroUsd estimate)
    (applyVeniceMultimodalMarkup request.catalog (request.listCost estimate metadata))

def MediaRequest.createReservation (request : MediaRequest) (estimate : MultimodalCost) :
    CreateReservation :=
  { userId := request.key.userId
    walletType := request.key.walletType
    amountMicroUsd := request.heldMicroUsd estimate
    referenceId := request.referenceId
    estimatedCostMicroUsd := request.heldMicroUsd estimate
    model := some request.operation.model
    endpoint := request.operation.endpoint
    expiresAt := some (request.now + mediaHoldTtlMs)
    maxShareOfAvailableBps := none
    metadata :=
      { proxyKeyId := some request.key.id
        captureOnSuccessMicroUsd := some (request.charge estimate request.operation.metadata)
        captureOnSuccessListMicroUsd :=
          some (request.listCost estimate request.operation.metadata) } }

def holdManagedVeniceMediaSpend (request : MediaRequest) :
    Settlement (Except MediaRefusal MultimodalCost) :=
  match computeVeniceMultimodalHoldCost request.catalog request.operation.endpoint
      request.operation.model request.operation.metadata with
  | .error .invalidTier => pure (.error .invalidTier)
  | .error _ => pure (.error .unpriced)
  | .ok estimate =>
    if Json.maxSafeInteger < estimate.listCostMicroUsd ∨
        Json.maxSafeInteger < request.heldMicroUsd estimate ∨
        request.heldMicroUsd estimate = 0 then
      pure (.error .tooLarge)
    else
      tryCatch
        (do
          assertManagedVeniceWithinSpendCap request.spendCap request.key.userId
            (request.heldMicroUsd estimate)
          let _ ← createManagedVeniceReservation (request.createReservation estimate)
          pure (.ok estimate))
        (fun failure => pure (.error failure.mediaRefusal))

inductive MediaAnswer
  | plain
  | bodyUnreadable
  | embeddings (promptTokens totalTokens : Json)

def MediaAnswer.entries : MediaAnswer → List (String × Json)
  | .plain => []
  | .bodyUnreadable => [("upstreamBodyUnreadable", .bool true)]
  | .embeddings promptTokens totalTokens =>
    [("promptTokens", promptTokens), ("totalTokens", totalTokens)]

/-- `{ ...metadata, ...outcome.metadata }`. -/
def MediaOperation.rowMetadata (operation : MediaOperation) (answer : MediaAnswer) : Json :=
  answer.entries.foldl (fun metadata entry => metadata.set entry.1 entry.2) operation.metadata

def MediaRequest.record (request : MediaRequest) (estimate : MultimodalCost)
    (chargeMicroUsd listCostMicroUsd upstreamStatus : Nat) : Settlement Unit :=
  tryCatch
    (do
      let account ← ensureManagedVeniceWalletAccount .usageRecord request.key.userId
      ask (.insertUsageEvent
        { accountId := account.id
          userId := request.key.userId
          proxyKeyId := some request.key.id
          walletType := request.key.walletType
          endpoint := request.operation.endpoint
          model := request.operation.model
          promptTokens := none
          completionTokens := none
          totalTokens := none
          estimatedCostMicroUsd := request.heldMicroUsd estimate
          actualCostMicroUsd := listCostMicroUsd
          chargedMicroUsd := chargeMicroUsd
          upstreamStatus := some upstreamStatus
          referenceId := request.referenceId
          pricingPolicy := "multimodal_in_request_capture" })
      let _ ← appendManagedVeniceFinancialEvent
        { userId := request.key.userId
          accountId := some account.id
          walletType := request.key.walletType
          eventType := "usage_capture"
          amountMicroUsd := chargeMicroUsd
          veniceCostMicroUsd := listCostMicroUsd
          referenceId := request.referenceId
          idempotencyKey := "managed_venice_multimodal_capture:" ++ request.referenceId
          pricingPolicy := "multimodal_in_request_capture" }
      pure ())
    (fun _ => pure ())

def MediaRequest.fileCaptureFailure (request : MediaRequest)
    (chargeMicroUsd listCostMicroUsd upstreamStatus : Nat) : Settlement Unit :=
  tryCatch
    (do
      let _ ← markManagedVeniceReconciliationRequired request.key.userId (some request.key.id)
        request.referenceId mediaCaptureFailedReason
        { model := some request.operation.model
          chargeMicroUsd := some chargeMicroUsd
          listCostMicroUsd := some listCostMicroUsd
          walletType := some request.key.walletType
          upstreamStatus := some upstreamStatus }
        false
      pure ())
    (fun _ => pure ())

/-- `settle`: whether the hold was there to be captured is not asked. -/
def MediaRequest.settle (request : MediaRequest) (estimate : MultimodalCost)
    (answer : MediaAnswer) (upstreamStatus : Nat) : Settlement Unit := do
  let metadata := request.operation.rowMetadata answer
  let listCostMicroUsd := request.listCost estimate metadata
  let chargeMicroUsd := request.charge estimate metadata
  let captured : Bool ←
    tryCatch
      (do
        let _ ← Settlement.captureManagedVeniceReservation .holdCost chargeMicroUsd
          request.key.userId request.referenceId chargeMicroUsd
        pure true)
      (fun _ => do
        request.fileCaptureFailure chargeMicroUsd listCostMicroUsd upstreamStatus
        pure false)
  if captured then request.record estimate chargeMicroUsd listCostMicroUsd upstreamStatus
  else pure ()

/-- `release`, without the reason it notes. -/
def MediaRequest.release (request : MediaRequest) (upstreamStatus : Option Nat) : Settlement Unit :=
  tryCatch
    (do
      let _ ← releaseManagedVeniceReservation request.key.userId request.referenceId
      pure ())
    (fun _ =>
      tryCatch
        (do
          let _ ← markManagedVeniceReconciliationRequired request.key.userId
            (some request.key.id) request.referenceId mediaReleaseFailedReason
            { model := some request.operation.model
              walletType := some request.key.walletType
              upstreamStatus }
            false
          pure ())
        (fun _ => pure ()))

/-- `complete`: a 2xx is settled, anything else released. -/
def MediaRequest.complete (request : MediaRequest) (estimate : MultimodalCost)
    (answer : MediaAnswer) (upstreamStatus : Nat) : Settlement Unit :=
  if 200 ≤ upstreamStatus ∧ upstreamStatus < 300 then
    request.settle estimate answer upstreamStatus
  else request.release (some upstreamStatus)

theorem answer_adds_no_price (operation : MediaOperation) (answer : MediaAnswer) :
    ∀ key ∈ pricingMembers,
      (operation.rowMetadata answer).member? key = operation.metadata.member? key := by
  have apart : ∀ (name : String) (value metadata : Json), metadata.isRecord = true →
      name ∉ pricingMembers → ∀ key ∈ pricingMembers,
        (metadata.set name value).member? key = metadata.member? key := by
    intro name value metadata isRecord free key priced
    rw [Json.member_set isRecord]
    apply if_neg
    intro same
    exact free (same ▸ priced)
  have isRecord := operation.metadataIsRecord
  intro key priced
  cases answer with
  | plain => rfl
  | bodyUnreadable =>
    exact apart "upstreamBodyUnreadable" (.bool true) _ isRecord (by decide) key priced
  | embeddings promptTokens totalTokens =>
    have first := apart "promptTokens" promptTokens _ isRecord (by decide) key priced
    have stillRecord : (operation.metadata.set "promptTokens" promptTokens).isRecord = true := by
      rw [Json.is_record_set, isRecord]
    have second := apart "totalTokens" totalTokens _ stillRecord (by decide) key priced
    exact second.trans first

theorem charge_of_answer (request : MediaRequest) (estimate : MultimodalCost)
    (answer : MediaAnswer) : request.charge estimate (request.operation.rowMetadata answer) =
      request.charge estimate request.operation.metadata := by
  have same := cost_of_pricing_members request.catalog request.operation.endpoint
    request.operation.model (answer_adds_no_price request.operation answer)
  unfold MediaRequest.charge MediaRequest.listCost MediaOperation.settledCost
  rw [same]

theorem charge_within_hold (request : MediaRequest) (estimate : MultimodalCost) (metadata : Json) :
    request.charge estimate metadata ≤ request.heldMicroUsd estimate :=
  Nat.min_le_left _ _

end Hivra.ManagedVenice
