import Hivra.ManagedVenice.Settlement

/-!
# The stale-hold sweep

The hourly sweep settles the holds the request path left active: open items of a
known reason once they are old enough, then expired holds no open item decides.
-/

namespace Hivra.ManagedVenice

open Hivra.Library

def sweepCapturePolicy : String := "managed_venice_hold_sweep_capture"

def ItemMetadata.readReferenceId (metadata : ItemMetadata) : Option String :=
  metadata.referenceId.filter fun referenceId => !isEmptyText referenceId

def isUnknownOutcome (item : ReconciliationItem) : Bool :=
  item.reason == responsesReconciliationReason &&
    item.metadata.cause.any (fun cause => responsesUnknownOutcomeCauses.contains cause)

def isReleaseItem (item : ReconciliationItem) : Bool :=
  sweepReleaseReasons.contains item.reason || isUnknownOutcome item

structure SweepResult where
  itemId : Option String
  userId : String
  reason : Option String
  referenceId : Option String
  disposition : SweepDisposition
  capturedMicroUsd : Nat
  releasedMicroUsd : Nat
  basis : Option SweepCaptureBasis
  overageMicroUsd : Nat

structure SweepPrice where
  costMicroUsd : Nat
  listMicroUsd : Nat
  basis : SweepCaptureBasis

/-- `readMicroUsd` and `readObservedOutputTokens` of a number in an item: one past the exact range
is not read. -/
def readCount (stored : Option Nat) : Option Nat :=
  stored.filter fun count => decide (count ≤ Json.maxSafeInteger)

/-- `captureAmount`: the catalog price when the hold covers it, else the reported
usage with the held options, else the observed output, else the estimate. -/
def captureAmount (hold : Reservation) (item : Option ReconciliationItem) : SweepPrice :=
  let itemMetadata := (item.map ReconciliationItem.metadata).getD {}
  let catalog :=
    hold.metadata.captureOnSuccessMicroUsd.orElse fun _ => readCount itemMetadata.chargeMicroUsd
  match catalog.filter fun catalog => decide (catalog ≤ hold.reservedMicroUsd) with
  | some catalog =>
    { costMicroUsd := catalog
      listMicroUsd :=
        (hold.metadata.captureOnSuccessListMicroUsd.orElse fun _ =>
          readCount itemMetadata.listCostMicroUsd).getD catalog
      basis := .catalogPrice }
  | none =>
    match readCount itemMetadata.usageCostMicroUsd with
    | some usageCost =>
      let withOptions := usageCost + hold.metadata.surchargeEstimateMicroUsd.getD 0
      { costMicroUsd := withOptions, listMicroUsd := withOptions, basis := .reportedUsage }
    | none =>
      match (readCount itemMetadata.observedOutputTokens).bind
          (observedOutputCostMicroUsd hold) with
      | some observed =>
        { costMicroUsd := observed, listMicroUsd := observed, basis := .observedOutput }
      | none =>
        let amount := holdEstimateMicroUsd hold
        { costMicroUsd := amount, listMicroUsd := amount, basis := .preRequestEstimate }

def SweepCaptureBasis.cause : SweepCaptureBasis → String
  | .catalogPrice => "sweep_catalog_price"
  | .reportedUsage => "sweep_reported_usage"
  | .observedOutput => "sweep_observed_output"
  | .preRequestEstimate => "sweep_pre_request_estimate"

structure SweepSettlement where
  disposition : SweepDisposition
  capturedMicroUsd : Nat := 0
  releasedMicroUsd : Nat := 0
  basis : Option SweepCaptureBasis := none
  overageMicroUsd : Nat := 0

/-- `captureHold`: a capture that throws leaves the item or hold for a later run. -/
def captureHold (hold : Reservation) (item : Option ReconciliationItem)
    (disposition : SweepDisposition) : Settlement SweepSettlement := do
  let price := captureAmount hold item
  let proxyKeyId :=
    ((item.bind ReconciliationItem.proxyKeyId).filter (· ≠ "")).orElse fun _ =>
      hold.metadata.proxyKeyId
  let charge : Except Unit (Option HoldCostCapture) ←
    tryCatch
      (do
        let charge ← captureManagedVeniceHoldCost hold proxyKeyId price.costMicroUsd
          price.basis.cause
        pure (.ok charge))
      (fun _ => pure (.error ()))
  match charge with
  | .error _ => pure { disposition := .captureFailed, basis := some price.basis }
  | .ok none => pure { disposition := .reservationAlreadyCaptured }
  | .ok (some charge) =>
    recordManagedVeniceEstimatedCapture hold proxyKeyId charge.chargedMicroUsd
      price.listMicroUsd sweepCapturePolicy
      (item.bind fun item => item.metadata.upstreamStatus)
      ("managed_venice_hold_sweep_capture:" ++ hold.referenceId)
    pure
      { disposition
        capturedMicroUsd := charge.chargedMicroUsd
        basis := some price.basis
        overageMicroUsd := charge.overageMicroUsd }

/-- `releaseHold`: a release that throws leaves the item for a later run. -/
def releaseHold (item : ReconciliationItem) (referenceId : String)
    (disposition : SweepDisposition) : Settlement SweepSettlement :=
  tryCatch
    (do
      match ← releaseManagedVeniceReservation item.userId referenceId with
      | some released => pure { disposition, releasedMicroUsd := released }
      | none => pure { disposition := .reservationAlreadyReleased })
    (fun _ => pure { disposition := .releaseFailed })

def settleItemHold (item : ReconciliationItem) (referenceId : String)
    (unknownOutcomeCutoff : Nat) (hold : Reservation) : Settlement SweepSettlement :=
  match hold.status with
  | .captured => pure { disposition := .reservationAlreadyCaptured }
  | .active =>
    if isUnknownOutcome item then
      if item.createdAt ≤ unknownOutcomeCutoff then
        releaseHold item referenceId .releasedUnknownOutcome
      else pure { disposition := .waitingForUnknownOutcome }
    else if isReleaseItem item then
      releaseHold item referenceId .releasedFailedRequest
    else captureHold hold (some item) .capturedHold
  | _ => pure { disposition := .reservationAlreadyReleased }

def SweepSettlement.result (settlement : SweepSettlement) (itemId : Option String)
    (userId : String) (reason referenceId : Option String) : SweepResult :=
  { itemId
    userId
    reason
    referenceId
    disposition := settlement.disposition
    capturedMicroUsd := settlement.capturedMicroUsd
    releasedMicroUsd := settlement.releasedMicroUsd
    basis := settlement.basis
    overageMicroUsd := settlement.overageMicroUsd }

def settleItemReference (item : ReconciliationItem) (unknownOutcomeCutoff : Nat) :
    Option String → Settlement SweepSettlement
  | none => pure { disposition := .missingReferenceId }
  | some referenceId => do
    match ← ask (.loadReservation item.userId referenceId) with
    | none => pure { disposition := .reservationNotFound }
    | some hold => settleItemHold item referenceId unknownOutcomeCutoff hold

def settleItem (item : ReconciliationItem) (unknownOutcomeCutoff : Nat) :
    Settlement SweepResult := do
  let referenceId := item.metadata.readReferenceId
  let settlement ← settleItemReference item unknownOutcomeCutoff referenceId
  pure (settlement.result (some item.id) item.userId (some item.reason) referenceId)

/-- `OPEN_DISPOSITIONS`: these keep their item open for a later run. -/
def SweepDisposition.keepsOpen : SweepDisposition → Bool
  | .captureFailed => true
  | .releaseFailed => true
  | .waitingForUnknownOutcome => true
  | _ => false

def SweepDisposition.isSettled : SweepDisposition → Bool
  | .capturedHold => true
  | .releasedFailedRequest => true
  | .releasedUnknownOutcome => true
  | _ => false

/-- `closeItem`: a settled item is resolved, any other one ignored. -/
def closeItem (item : ReconciliationItem) (result : SweepResult) : Settlement Unit :=
  ask (.closeItem item.id
    (if result.disposition.isSettled then .resolved else .ignored)
    { item.metadata with
      sweep := some
        { disposition := result.disposition
          basis := result.basis
          capturedMicroUsd := result.capturedMicroUsd
          overageMicroUsd := result.overageMicroUsd
          releasedMicroUsd := result.releasedMicroUsd
          referenceId := result.referenceId } })

def closeSettledItem (item : ReconciliationItem) (result : SweepResult) : Settlement Nat :=
  if result.disposition.keepsOpen then pure 0
  else do
    closeItem item result
    pure 1

def settleItems (unknownOutcomeCutoff : Nat) :
    List ReconciliationItem → Settlement (List SweepResult × Nat)
  | [] => pure ([], 0)
  | item :: items => do
    let result ← settleItem item unknownOutcomeCutoff
    let closed ← closeSettledItem item result
    let rest ← settleItems unknownOutcomeCutoff items
    pure (result :: rest.1, closed + rest.2)

def settleUndecidedHold (hold : Reservation) (waiting : Bool) : Settlement SweepSettlement :=
  if waiting then pure { disposition := .leftForOpenItem }
  else captureHold hold none .capturedExpiredHold

def settleExpiredHold (hold : Reservation) : Settlement SweepResult := do
  let waiting ← ask (.hasOpenItem hold.userId hold.referenceId)
  let settlement ← settleUndecidedHold hold waiting
  pure (settlement.result none hold.userId none (some hold.referenceId))

def settleExpiredHolds : List Reservation → Settlement (List SweepResult)
  | [] => pure []
  | hold :: holds => do
    let result ← settleExpiredHold hold
    let rest ← settleExpiredHolds holds
    pure (result :: rest)

structure Sweep where
  now : Nat
  ageMs : Nat := 900000
  unknownOutcomeAgeMs : Nat := 3600000
  limit : Nat := 500
  expiredHoldLimit : Nat := 500

/-- The counters of the source's summary are sums over `results`. -/
structure SweepSummary where
  scanned : Nat
  closed : Nat
  results : List SweepResult

/-- `loadItems` within a budget. -/
def loadItems (query : ItemQuery) (cutoff limit : Nat) : Settlement (List ReconciliationItem) :=
  if limit = 0 then pure [] else ask (.loadOpenItems query cutoff limit)

def loadExpiredHolds (now limit : Nat) : Settlement (List Reservation) :=
  if limit = 0 then pure [] else ask (.loadExpiredHolds now limit)

def sweepStaleManagedVeniceReservations (sweep : Sweep) : Settlement SweepSummary := do
  let staleCutoff := sweep.now - sweep.ageMs
  let unknownOutcomeCutoff := sweep.now - sweep.unknownOutcomeAgeMs
  let sweepable ← loadItems .sweepable staleCutoff sweep.limit
  let known ← loadItems .responsesKnownOutcome staleCutoff (sweep.limit - sweepable.length)
  let unknown ← loadItems .responsesUnknownOutcome unknownOutcomeCutoff
    (sweep.limit - sweepable.length - known.length)
  let items := sweepable ++ known ++ unknown
  let settled ← settleItems unknownOutcomeCutoff items
  let expired ← loadExpiredHolds sweep.now sweep.expiredHoldLimit
  let settledHolds ← settleExpiredHolds expired
  pure
    { scanned := items.length + expired.length
      closed := settled.2
      results := settled.1 ++ settledHolds }

end Hivra.ManagedVenice
