import Hivra.Library.Typestates
import Hivra.ManagedVenice.ChatOutputBudget
import Hivra.ManagedVenice.MediaSpendGate

/-!
# The holds a reservation makes

Whatever the database answers, every hold a chat reservation inserts carries the options of its
request and what they cost at the published rates, and every hold of a media request carries the
price of a success, which the hold covers.
-/

namespace Hivra.ManagedVenice

open Hivra.Library
open Hivra.Library.Typestate
open Hivra.Venice

def insertions (madeWith : NewReservation → Prop) : Typestate Statement Statement.Reply Unit :=
  { fresh := ()
    permits := fun statement _ => ∀ hold, statement = .insertReservation hold → madeWith hold
    moves := fun _ _ state => state }

def Makes {Outcome : Type} (madeWith : NewReservation → Prop) (script : Settlement Outcome) :
    Prop :=
  (insertions madeWith).Keeps (fun _ _ => True) (fun _ _ => True) script ()

variable {madeWith : NewReservation → Prop} {Outcome Result : Type}

theorem makes_bind {script : Settlement Outcome} {next : Outcome → Settlement Result}
    (first : Makes madeWith script) (rest : ∀ outcome, Makes madeWith (next outcome)) :
    Makes madeWith (script.bind next) := by
  apply keeps_bind _ first
  intro outcome _ _
  exact rest outcome

theorem makes_handle {script : Settlement Outcome}
    {handler : SettlementError → Settlement Outcome} (body : Makes madeWith script)
    (handles : ∀ failure, Makes madeWith (handler failure)) :
    Makes madeWith (script.handle handler) := by
  apply keeps_handle body
  intro failure _ _
  exact handles failure

theorem makes_request {statement : Statement}
    (permitted : ∀ hold, statement = .insertReservation hold → madeWith hold) :
    Makes madeWith (Script.request statement) :=
  ⟨permitted, fun _ => trivial⟩

theorem makes_ret (outcome : Outcome) : Makes madeWith (Script.ret outcome : Settlement Outcome) :=
  trivial

theorem makes_raise (failure : SettlementError) :
    Makes madeWith (Script.raise failure : Settlement Outcome) :=
  trivial

theorem makes_ask {statement : Statement}
    (other : ∀ hold, statement ≠ .insertReservation hold) : Makes madeWith (ask statement) := by
  apply makes_bind
  · apply makes_request
    intro hold same
    exact absurd same (other hold)
  · intro reply
    cases reply with
    | ok answer => exact makes_ret answer
    | error failure => exact makes_raise _

theorem makes_require_user_id (userId : String) : Makes madeWith (requireUserId userId) := by
  unfold requireUserId
  split
  · exact makes_raise _
  · exact makes_ret _

theorem makes_require_reference_id (referenceId : String) :
    Makes madeWith (requireReferenceId referenceId) := by
  unfold requireReferenceId
  split
  · exact makes_raise _
  · exact makes_ret _

theorem makes_ensure_account (purpose : AccountUse) (userId : String) :
    Makes madeWith (ensureManagedVeniceWalletAccount purpose userId) := by
  apply makes_bind (makes_require_user_id userId)
  intro _
  apply makes_bind (makes_ask (by intro hold; simp))
  intro found
  cases found with
  | some account => exact makes_ret account
  | none =>
    apply makes_bind (makes_ask (by intro hold; simp))
    intro _
    apply makes_bind (makes_ask (by intro hold; simp))
    intro again
    cases again with
    | some account => exact makes_ret account
    | none => exact makes_raise _

theorem makes_wallet_summary (userId : String) :
    Makes madeWith (getManagedVeniceWalletSummary userId) := by
  apply makes_bind (makes_require_user_id userId)
  intro _
  apply makes_bind (makes_ensure_account .walletSummary userId)
  intro _
  apply makes_bind (makes_ask (by intro hold; simp))
  intro lots
  apply makes_bind (makes_ask (by intro hold; simp))
  intro entries
  apply makes_bind (makes_ask (by intro hold; simp))
  intro holds
  exact makes_ret _

theorem makes_spend_cap (spendCap : Option SpendCap) (userId : String) (addMicroUsd : Nat) :
    Makes madeWith (assertManagedVeniceWithinSpendCap spendCap userId addMicroUsd) := by
  unfold assertManagedVeniceWithinSpendCap
  cases spendCap with
  | none => exact makes_ret _
  | some cap =>
    apply makes_bind (makes_ask (by intro hold; simp))
    intro charges
    split
    · exact makes_raise _
    · exact makes_ret _

theorem makes_insert_row {hold : NewReservation} (made : madeWith hold) :
    Makes madeWith (insertReservationRow hold) := by
  apply makes_bind
  · apply makes_request
    intro other same
    rw [Statement.insertReservation.injEq] at same
    exact same ▸ made
  · intro reply
    cases reply with
    | ok row => exact makes_ret _
    | error failure => cases failure <;> exact makes_raise _

theorem makes_create_reservation {params : CreateReservation}
    (made : ∀ accountId, madeWith (params.newReservation accountId)) :
    Makes madeWith (createManagedVeniceReservation params) := by
  apply makes_bind (makes_require_user_id params.userId)
  intro _
  split
  · exact makes_raise _
  · split
    · exact makes_raise _
    · apply makes_bind (makes_require_reference_id params.referenceId)
      intro _
      apply makes_bind (makes_ask (by intro hold; simp))
      intro found
      cases found with
      | some existing => exact makes_ret _
      | none =>
        apply makes_bind (makes_wallet_summary params.userId)
        intro summary
        dsimp only
        split
        · exact makes_raise _
        · apply makes_bind (makes_ensure_account .walletSummary params.userId)
          intro account
          exact makes_insert_row (made account.id)

structure ChatHoldMade (surcharge : Option SurchargePlan) (hold : NewReservation) : Prop where
  noCatalogPrice : hold.metadata.captureOnSuccessMicroUsd = none
  plan : hold.metadata.surchargePlan = surcharge
  estimate : hold.metadata.surchargeEstimateMicroUsd =
    surcharge.map fun plan => surchargeFallbackChargeMicroUsd (some plan)

theorem makes_or_throw (result : Except VeniceError Outcome) : Makes madeWith (orThrow result) := by
  cases result with
  | ok outcome => exact makes_ret outcome
  | error failure => exact makes_raise _

theorem makes_or_refuse (result : Except String Outcome) : Makes madeWith (orRefuse result) := by
  cases result with
  | ok outcome => exact makes_ret outcome
  | error message => exact makes_raise _

theorem makes_chat_request (hold : ChatHold) :
    Makes (ChatHoldMade hold.surcharge) (reserveManagedVeniceChatRequest hold) := by
  apply makes_bind (makes_or_throw _)
  intro estimate
  apply makes_bind (makes_spend_cap _ _ _)
  intro _
  apply makes_bind (makes_or_throw _)
  intro perMillion
  have created : Makes (ChatHoldMade hold.surcharge)
      (createManagedVeniceReservation (hold.createReservation estimate perMillion)) := by
    apply makes_create_reservation
    intro accountId
    exact ⟨rfl, rfl, rfl⟩
  apply makes_bind created
  intro reservation
  exact makes_ret _

section

variable (request : ChatBudget)
include request

theorem makes_reserve (patch : OutputCapPatch) (holdPricing : PriceBook) (share : Option Nat) :
    Makes (ChatHoldMade request.surcharge) (reserve request patch holdPricing share) := by
  apply makes_bind (makes_or_refuse _)
  intro requestBody
  exact makes_chat_request
    { userId := request.userId
      proxyKeyId := request.proxyKeyId
      walletType := request.walletType
      referenceId := request.referenceId
      requestBody
      endpoint := request.endpoint
      book := holdPricing
      surcharge := request.surcharge
      maxShareOfAvailableBps := share
      spendCap := request.spendCap
      now := request.now }

theorem makes_reserve_or_refused (patch : OutputCapPatch) (share : Option Nat) :
    Makes (ChatHoldMade request.surcharge) (reserveOrRefused request patch share) := by
  apply makes_handle
  · apply makes_bind (makes_reserve request patch request.book share)
    intro reservation
    exact makes_ret _
  · intro failure
    split
    · exact makes_ret _
    · exact makes_raise _

theorem makes_balance_of (failure : SettlementError) :
    Makes madeWith (balanceOf request failure) := by
  unfold balanceOf
  cases failure.balance? with
  | some balance => exact makes_ret balance
  | none =>
    apply makes_bind (makes_wallet_summary request.userId)
    intro summary
    exact makes_ret _

theorem makes_reserve_unpatched (price : VeniceChatModelPrice) :
    Makes (ChatHoldMade request.surcharge) (reserveUnpatched request price) := by
  apply makes_handle
  · apply makes_bind (makes_reserve request _ _ _)
    intro reservation
    apply makes_bind (makes_or_refuse _)
    intro estimateBody
    apply makes_bind (makes_or_throw _)
    intro outputCap
    exact makes_ret _
  · intro failure
    split
    · apply makes_bind (makes_or_refuse _)
      intro estimateBody
      apply makes_bind (makes_or_throw _)
      intro worstCase
      apply makes_bind (makes_balance_of request failure)
      intro balance
      exact makes_raise _
    · exact makes_raise _

theorem makes_reserve_lowered (price : VeniceChatModelPrice)
    (fullCap outputCap floorHoldMicroUsd : Nat) : Makes (ChatHoldMade request.surcharge)
      (reserveLowered request price fullCap outputCap floorHoldMicroUsd) := by
  apply makes_bind (makes_reserve_or_refused request _ _)
  intro tried
  cases tried with
  | ok reservation => exact makes_ret _
  | error failure =>
    apply makes_bind (makes_balance_of request failure)
    intro balance
    exact makes_raise _

theorem makes_lower_to_balance (price : VeniceChatModelPrice) (fullCap : Nat)
    (refused : SettlementError) :
    Makes (ChatHoldMade request.surcharge) (lowerToBalance request price fullCap refused) := by
  apply makes_bind (makes_balance_of request refused)
  intro balance
  apply makes_bind (makes_or_refuse _)
  intro estimateBody
  apply makes_bind (makes_or_throw _)
  intro floor
  apply makes_bind (makes_or_throw _)
  intro affordable
  split
  · exact makes_raise _
  · apply makes_bind (makes_or_throw _)
    intro affordableShare
    exact makes_reserve_lowered request price fullCap _ _

theorem makes_reserve_patched (price : VeniceChatModelPrice) :
    Makes (ChatHoldMade request.surcharge) (reservePatched request price) := by
  apply makes_bind (makes_or_throw _)
  intro requested
  apply makes_bind (makes_reserve_or_refused request _ _)
  intro tried
  cases tried with
  | ok reservation => exact makes_ret _
  | error refused => exact makes_lower_to_balance request price _ refused

theorem chat_hold_made :
    Makes (ChatHoldMade request.surcharge) (reserveManagedVeniceChatWithinBalance request) := by
  apply makes_bind (makes_or_throw _)
  intro price
  split
  · exact makes_reserve_patched request price
  · exact makes_reserve_unpatched request price

end

structure MediaHoldMade (request : MediaRequest) (hold : NewReservation) : Prop where
  priced : ∃ estimate,
    computeVeniceMultimodalHoldCost request.catalog request.operation.endpoint
        request.operation.model request.operation.metadata = .ok estimate ∧
      hold.metadata.captureOnSuccessMicroUsd =
        some (request.charge estimate request.operation.metadata) ∧
      hold.reservedMicroUsd = request.heldMicroUsd estimate

theorem media_hold_made (request : MediaRequest) :
    Makes (MediaHoldMade request) (holdManagedVeniceMediaSpend request) := by
  unfold holdManagedVeniceMediaSpend
  cases estimated : computeVeniceMultimodalHoldCost request.catalog request.operation.endpoint
      request.operation.model request.operation.metadata with
  | error reason => cases reason <;> exact makes_ret _
  | ok estimate =>
    dsimp only
    split
    · exact makes_ret _
    · apply makes_handle
      · apply makes_bind (makes_spend_cap _ _ _)
        intro _
        have created : Makes (MediaHoldMade request)
            (createManagedVeniceReservation (request.createReservation estimate)) := by
          apply makes_create_reservation
          intro accountId
          exact ⟨estimate, estimated, rfl, rfl⟩
        apply makes_bind created
        intro receipt
        exact makes_ret _
      · intro failure
        exact makes_ret _

end Hivra.ManagedVenice
