import Hivra.ManagedVenice.MediaSpendGate

/-!
# Who settles a hold

The settlements of a chat hold by the route that read Venice's answer: a stream, the settle route
of the proxy Worker, a chat or Anthropic answer in one piece, a Responses answer.  Each charges the
usage Venice reported or the output that was read, and files an item for a charge that cannot be
written.  Log lines and the replies to the client are left out.
-/

namespace Hivra.ManagedVenice

open Hivra.Library
open Hivra.Venice

structure SettledRequest where
  userId : String
  proxyKeyId : String
  walletType : WalletType
  referenceId : String
  model : String
  upstreamStatus : Nat
  book : PriceBook

def SettledRequest.reported (request : SettledRequest) (endpoint : Endpoint) (usage : Json)
    (surchargeEvidence : Option SurchargeEvidence) : ChatUsage :=
  { userId := request.userId
    proxyKeyId := request.proxyKeyId
    walletType := request.walletType
    referenceId := request.referenceId
    model := request.model
    upstreamStatus := request.upstreamStatus
    usage
    endpoint
    book := request.book
    surchargeEvidence }

def SettledRequest.observed (request : SettledRequest) (observedOutputTokens : Nat)
    (cause reconciliationReason : String) : ObservedOutput :=
  { userId := request.userId
    proxyKeyId := request.proxyKeyId
    referenceId := request.referenceId
    model := request.model
    upstreamStatus := request.upstreamStatus
    observedOutputTokens
    cause
    reconciliationReason }

/-- `createManagedVeniceStreamSettlement` once its stream has been read: the reasons of the
outcome, the usage that was truthy, the evidence and the meter. -/
structure StreamSettlement where
  request : SettledRequest
  outcome : String
  usageMissing : String
  captureFailed : String
  usage : Option Json
  /-- Kept only for a request held for billed options. -/
  surchargeEvidence : Option SurchargeEvidence
  observedOutputTokens : Nat

def StreamSettlement.settle (stream : StreamSettlement) : Settlement (Option SettlementError) :=
  match stream.usage with
  | some usage =>
    settleStream (stream.request.reported .chatCompletions usage stream.surchargeEvidence)
      stream.captureFailed stream.observedOutputTokens
  | none => do
    let _ ← captureManagedVeniceObservedOutput
      (stream.request.observed stream.observedOutputTokens stream.outcome stream.usageMissing)
    pure none

/-- The parameters of `settleManagedVeniceChatUsage`; a usage of `null` is `none`. -/
structure WorkerSettlement where
  request : SettledRequest
  usage : Option Json
  observedOutputTokens : Option Nat
  cause : Option String
  surchargeEvidence : Option SurchargeEvidence

def WorkerSettlement.causeText (worker : WorkerSettlement) : String :=
  match worker.cause with
  | some cause => if cause = "" then "completed" else cause
  | none => "completed"

def WorkerSettlement.reconciliationReason (worker : WorkerSettlement) : String :=
  if worker.causeText = "completed" then "managed_venice_missing_stream_usage"
  else "managed_venice_stream_settlement_failed"

/-- `settleManagedVeniceChatUsage`: whether it settled and whether it reconciled, `none` for the
error it throws when it could neither charge nor file observed output. -/
def WorkerSettlement.settle (worker : WorkerSettlement) : Settlement (Option (Bool × Bool)) :=
  match worker.usage, worker.observedOutputTokens with
  | some usage, _ => do
    let reply ← settleManagedVeniceChatUsage
      (worker.request.reported .chatCompletions usage worker.surchargeEvidence)
      worker.causeText worker.observedOutputTokens
    pure (some reply)
  | none, some observedOutputTokens => do
    let observed ← captureManagedVeniceObservedOutput
      (worker.request.observed observedOutputTokens worker.causeText
        worker.reconciliationReason)
    match observed.1 with
    | .unfiled => pure none
    | .captured => pure (some (true, false))
    | .alreadySettled => pure (some (true, false))
    | .filedForSweep => pure (some (false, true))
    | .reservationNotFound => pure (some (false, false))
  | none, none => do
    let _ ← markManagedVeniceReconciliationRequired worker.request.userId
      (some worker.request.proxyKeyId) worker.request.referenceId worker.reconciliationReason
      { model := some worker.request.model
        upstreamStatus := some worker.request.upstreamStatus
        cause := some worker.causeText }
      false
    pure (some (false, true))

/-- `instanceof MissingVeniceUsageError`. -/
def SettlementError.isMissingUsage : SettlementError → Bool
  | .venice (.missingUsage _) => true
  | _ => false

def settleChatAnswer (request : SettledRequest) (usage : Json)
    (surchargeEvidence : Option SurchargeEvidence) (observedOutputTokens : Nat) : Settlement Unit :=
  tryCatch
    (do
      let _ ← captureManagedVeniceChatUsage
        (request.reported .chatCompletions usage surchargeEvidence)
      pure ())
    (fun failure =>
      if failure.isMissingUsage then do
        let _ ← captureManagedVeniceObservedOutput
          (request.observed observedOutputTokens "missing_usage" "managed_venice_missing_usage")
        pure ()
      else do
        let _ ← markManagedVeniceReconciliationRequired request.userId (some request.proxyKeyId)
          request.referenceId "managed_venice_stream_settlement_failed"
          { model := some request.model
            upstreamStatus := some request.upstreamStatus
            cause := some "settlement_failed"
            usageCostMicroUsd :=
              managedVeniceUsageCostMicroUsd request.book request.model .chatCompletions usage }
          false
        pure ())

def settleAnthropicAnswer (request : SettledRequest) (usage : Json)
    (observedOutputTokens : Nat) : Settlement Unit :=
  tryCatch
    (do
      let _ ← captureManagedVeniceChatUsage (request.reported .chatCompletions usage none)
      pure ())
    (fun failure =>
      if failure.isMissingUsage then do
        let _ ← captureManagedVeniceObservedOutput
          (request.observed observedOutputTokens "missing_usage"
            "managed_venice_anthropic_missing_usage")
        pure ()
      else
        tryCatch
          (do
            let _ ← markManagedVeniceReconciliationRequired request.userId
              (some request.proxyKeyId) request.referenceId
              "managed_venice_anthropic_capture_failed"
              { model := some request.model
                usageCostMicroUsd :=
                  managedVeniceUsageCostMicroUsd request.book request.model .chatCompletions
                    usage }
              false
            pure ())
          (fun _ => pure ()))

/-- `reconcile`: an item that cannot be written is logged. -/
def reconcileResponses (request : SettledRequest) (metadata : ItemMetadata) : Settlement Unit :=
  tryCatch
    (do
      let _ ← markManagedVeniceReconciliationRequired request.userId (some request.proxyKeyId)
        request.referenceId responsesReconciliationReason
        { metadata with model := some request.model } false
      pure ())
    (fun _ => pure ())

/-- `finish`; a falsy usage is `none`. -/
def finishResponses (request : SettledRequest) (usage : Option Json) (cause : String)
    (observedOutputTokens : Nat) : Settlement Unit :=
  match usage with
  | some usage =>
    tryCatch
      (do
        let _ ← captureManagedVeniceChatUsage (request.reported .responses usage none)
        pure ())
      (fun _ => reconcileResponses request
        { cause := some "settlement_failed"
          observedOutputTokens := some observedOutputTokens
          usageCostMicroUsd :=
            managedVeniceUsageCostMicroUsd request.book request.model .responses usage })
  | none =>
    if responsesUnknownOutcomeCauses.contains cause then
      reconcileResponses request { cause := some cause }
    else do
      let _ ← captureManagedVeniceObservedOutput
        (request.observed observedOutputTokens cause responsesReconciliationReason)
      pure ()

end Hivra.ManagedVenice
