import Hivra.ManagedVenice.ChatReservation

/-!
# Reserve what you forward

The hold of a chat or Responses request covers the worst case of the body as it is
forwarded.  Where the body may be rewritten, the cap the hold covers is written
into it, lowered to half of the wallet when the worst case is larger; where it may
not, the worst case of the body as sent is held.  Log lines are left out.
-/

namespace Hivra.ManagedVenice

open Hivra.Library
open Hivra.Venice

inductive ChatProtocol
  | chat
  | responses
  deriving DecidableEq

def minClampedOutputTokens : Nat := 4096

def maxHoldShareBps : Nat := 5000

inductive OutputCapField
  | maxCompletionTokens
  | maxTokens
  | maxOutputTokens
  deriving DecidableEq

def OutputCapField.name : OutputCapField → String
  | .maxCompletionTokens => "max_completion_tokens"
  | .maxTokens => "max_tokens"
  | .maxOutputTokens => "max_output_tokens"

def capFields : ChatProtocol → List OutputCapField
  | .chat => [.maxCompletionTokens, .maxTokens]
  | .responses => [.maxOutputTokens]

def injectedField : ChatProtocol → OutputCapField
  | .chat => .maxCompletionTokens
  | .responses => .maxOutputTokens

abbrev OutputCapPatch : Type := List (OutputCapField × Nat)

/-- `{ ...body, ...patch }`. -/
def applyPatch (body : Json) (patch : OutputCapPatch) : Json :=
  patch.foldl (fun body entry => body.set entry.1.name (.ofNat entry.2)) body

def OutputCapPatch.maxOutputTokens? (patch : OutputCapPatch) : Option Nat :=
  (patch.find? fun entry => entry.1 == .maxOutputTokens).map Prod.snd

def managedVeniceChatEstimateBody (protocol : ChatProtocol) (body : Json)
    (patch : OutputCapPatch) : Except String Json :=
  match protocol with
  | .responses => do
    let estimate ← responsesEstimateRequest body
    match patch.maxOutputTokens? with
    | none => return estimate
    | some cap => return estimate.set "max_completion_tokens" (.ofNat cap)
  | .chat => .ok (applyPatch body patch)

def readOutputCap (body : Json) (field : OutputCapField) : Except VeniceError (Option Nat) :=
  readVeniceChatPositiveInteger (body.member? field.name) field.name

def requestedOutputCap (protocol : ChatProtocol) (body : Json) :
    Except VeniceError (Option Nat) := do
  let values ← (capFields protocol).mapM (readOutputCap body)
  return values.findSome? id

def outputMaximumConfirmed (price : VeniceChatModelPrice) : Bool :=
  price.maxOutputTokensSource == .veniceLive

/-- `body[field] === cap`. -/
def isSameCap (value : Option Json) (cap : Nat) : Bool :=
  value.any fun value => value.number? == some (cap : Rat)

/-- Every cap field sent becomes `cap`; when none was sent, one is added unless `cap`
is the published maximum. -/
def managedVeniceOutputCapPatch (protocol : ChatProtocol) (body : Json) (cap : Nat)
    (price : VeniceChatModelPrice) : OutputCapPatch :=
  let sent := (capFields protocol).filter fun field => isSent (body.member? field.name)
  if sent.isEmpty && (decide (cap < price.maxOutputTokens) || !outputMaximumConfirmed price) then
    [(injectedField protocol, cap)]
  else
    (sent.filter fun field => !isSameCap (body.member? field.name) cap).map fun field => (field, cap)

/-- The price row to hold a request by whose body cannot be changed: a maximum of the
catalog is replaced by the context window, if that is larger. -/
def unpatchedPrice (price : VeniceChatModelPrice) : VeniceChatModelPrice :=
  if outputMaximumConfirmed price then price
  else { price with maxOutputTokens := max price.maxOutputTokens price.contextWindow }

/-- `unpatchedRequestPricing`: the prices with that row in them. -/
def unpatchedRequestPricing (modelId : String) (price : VeniceChatModelPrice)
    (book : PriceBook) : PriceBook :=
  if outputMaximumConfirmed price then book
  else
    { book with
      pricingMap := some fun model =>
        if model = modelId then some (unpatchedPrice price) else book.pricingMap.bind (· model) }

/-- The parameters of `reserveManagedVeniceChatWithinBalance`, with the clock and the
spend cap it reads. -/
structure ChatBudget where
  userId : String
  proxyKeyId : String
  walletType : WalletType
  referenceId : String
  protocol : ChatProtocol
  body : Json
  bodyIsRecord : body.isRecord = true
  book : PriceBook
  allowBodyRewrite : Bool
  surcharge : Option SurchargePlan
  spendCap : Option SpendCap
  now : Nat

/-- `ManagedVeniceChatBudgetedReservation`. -/
structure BudgetedReservation where
  reservation : ChatReservation
  bodyPatch : OutputCapPatch
  outputCap : Nat
  modelMaxOutputTokens : Nat
  clampedToBalance : Bool
  deriving DecidableEq

def readWalletBalance (userId : String) (walletType : WalletType) : Settlement WalletBalance := do
  let summary ← getManagedVeniceWalletSummary userId
  pure (if walletType = .card then summary.card else summary.hermesos)

def refusal (balance : WalletBalance) (minimumHoldMicroUsd : Nat) : SettlementError :=
  if 0 < balance.reservedMicroUsd ∧ (minimumHoldMicroUsd : Int) ≤ balance.totalValueMicroUsd then
    .balanceHeld balance
  else .insufficientBalance (some balance)

def SettlementError.balance? : SettlementError → Option WalletBalance
  | .insufficientBalance balance => balance
  | .balanceHeld balance => some balance
  | _ => none

def balanceOf (request : ChatBudget) (failure : SettlementError) : Settlement WalletBalance :=
  match failure.balance? with
  | some balance => pure balance
  | none => readWalletBalance request.userId request.walletType

def orRefuse {Outcome : Type} (result : Except String Outcome) : Settlement Outcome :=
  match result with
  | .ok outcome => pure outcome
  | .error message => throw (.unsupportedResponses message)

def ChatBudget.endpoint (request : ChatBudget) : Endpoint :=
  match request.protocol with
  | .chat => .chatCompletions
  | .responses => .responses

def reserve (request : ChatBudget) (patch : OutputCapPatch) (holdPricing : PriceBook)
    (share : Option Nat) : Settlement ChatReservation := do
  let requestBody ← orRefuse (managedVeniceChatEstimateBody request.protocol request.body patch)
  reserveManagedVeniceChatRequest
    { userId := request.userId
      proxyKeyId := request.proxyKeyId
      walletType := request.walletType
      referenceId := request.referenceId
      requestBody
      endpoint := request.endpoint
      book := holdPricing
      surcharge := request.surcharge
      maxShareOfAvailableBps := share
      spendCap := request.spendCap
      now := request.now }

def reserveOrRefused (request : ChatBudget) (patch : OutputCapPatch) (share : Option Nat) :
    Settlement (Except SettlementError ChatReservation) :=
  tryCatch
    (do
      let reservation ← reserve request patch request.book share
      pure (.ok reservation))
    (fun failure =>
      if failure.isInsufficientBalance then pure (.error failure) else throw failure)

def reserveUnpatched (request : ChatBudget) (price : VeniceChatModelPrice) :
    Settlement BudgetedReservation :=
  let book := unpatchedRequestPricing (memberText "model" request.body) price request.book
  tryCatch
    (do
      let reservation ← reserve request [] book none
      let estimateBody ← orRefuse (managedVeniceChatEstimateBody request.protocol request.body [])
      let outputCap ← orThrow (worstCaseVeniceChatOutputCap estimateBody (unpatchedPrice price))
      pure
        { reservation
          bodyPatch := []
          outputCap
          modelMaxOutputTokens := (unpatchedPrice price).maxOutputTokens
          clampedToBalance := false })
    (fun failure =>
      if failure.isInsufficientBalance then do
        let estimateBody ← orRefuse (managedVeniceChatEstimateBody request.protocol request.body [])
        let worstCase ← orThrow (estimateChatCompletionCost book estimateBody)
        let balance ← balanceOf request failure
        throw (refusal balance
          (worstCase.reservedCostMicroUsd + surchargeHoldMicroUsd request.surcharge))
      else throw failure)

def reserveLowered (request : ChatBudget) (price : VeniceChatModelPrice)
    (fullCap outputCap floorHoldMicroUsd : Nat) : Settlement BudgetedReservation := do
  let bodyPatch := managedVeniceOutputCapPatch request.protocol request.body outputCap price
  match ← reserveOrRefused request bodyPatch none with
  | .ok reservation =>
    pure
      { reservation
        bodyPatch
        outputCap
        modelMaxOutputTokens := price.maxOutputTokens
        clampedToBalance := decide (outputCap < fullCap) }
  | .error failure => do
    -- a request running at the same time took the balance first
    let balance ← balanceOf request failure
    throw (refusal balance floorHoldMicroUsd)

def lowerToBalance (request : ChatBudget) (price : VeniceChatModelPrice) (fullCap : Nat)
    (refused : SettlementError) : Settlement BudgetedReservation := do
  let surchargeMicroUsd := surchargeHoldMicroUsd request.surcharge
  let fullPatch := managedVeniceOutputCapPatch request.protocol request.body fullCap price
  let balance ← balanceOf request refused
  let estimateBody ← orRefuse
    (managedVeniceChatEstimateBody request.protocol request.body fullPatch)
  let floorCap := min minClampedOutputTokens fullCap
  let floor ← orThrow (estimateChatCompletionCost request.book
    ((estimateBody.set "max_completion_tokens" (.ofNat floorCap)).erase "max_tokens"))
  let floorHoldMicroUsd := floor.reservedCostMicroUsd + surchargeMicroUsd
  let affordable ← orThrow (maxAffordableVeniceChatOutputCap request.book estimateBody
    ((balance.availableMicroUsd : Int) - surchargeMicroUsd))
  if affordable < floorCap then throw (refusal balance floorHoldMicroUsd)
  else
    let affordableShare ← orThrow (maxAffordableVeniceChatOutputCap request.book estimateBody
      ((floorQuotient (doubleProduct balance.availableMicroUsd maxHoldShareBps) 10000 : Int) -
        surchargeMicroUsd))
    reserveLowered request price fullCap (min fullCap (max affordableShare floorCap))
      floorHoldMicroUsd

def reservePatched (request : ChatBudget) (price : VeniceChatModelPrice) :
    Settlement BudgetedReservation := do
  let requested ← orThrow (requestedOutputCap request.protocol request.body)
  let fullCap := min (requested.getD price.maxOutputTokens) price.maxOutputTokens
  let fullPatch := managedVeniceOutputCapPatch request.protocol request.body fullCap price
  match ← reserveOrRefused request fullPatch (some maxHoldShareBps) with
  | .ok reservation =>
    pure
      { reservation
        bodyPatch := fullPatch
        outputCap := fullCap
        modelMaxOutputTokens := price.maxOutputTokens
        clampedToBalance := false }
  | .error refused => lowerToBalance request price fullCap refused

def reserveManagedVeniceChatWithinBalance (request : ChatBudget) :
    Settlement BudgetedReservation := do
  let price ← orThrow (resolvePrice request.book (memberText "model" request.body))
  if request.allowBodyRewrite then reservePatched request price
  else reserveUnpatched request price

end Hivra.ManagedVenice
