import Hivra.ManagedVenice.ChatHolds
import Hivra.ManagedVenice.HoldsMade
import Hivra.ManagedVenice.ReservationSweep
import Hivra.ManagedVenice.SettlementEnds

/-!
# What the sweep charges for a failed settlement

The sweep recomputes, from the item and the hold, the cost a failed settlement had computed from
the answer.  Observed output and the price of a media success come to the same.  Reported usage
comes to the tokens and the published rates of the options the hold was made for: what Venice's
answer said of the options is not in the item.
-/

namespace Hivra.ManagedVenice

open Hivra.Library
open Hivra.Library.Typestate
open Hivra.Venice

variable {hold : Reservation}

def LeavesPrice (request : MediaRequest) (estimate : MultimodalCost) (answer : MediaAnswer)
    (trail : Trail) : Prop :=
  ∀ costMicroUsd item, trail = .filed (some costMicroUsd) item →
    costMicroUsd = request.charge estimate (request.operation.rowMetadata answer)

variable {estimate : MultimodalCost} {request : MediaRequest} {answer : MediaAnswer}

theorem uncosted_leaves_price {next : Trail}
    (noCost : ∀ costMicroUsd item, next ≠ .filed (some costMicroUsd) item) :
    LeavesPrice request estimate answer next := by
  intro costMicroUsd item filed
  exact absurd filed (noCost costMicroUsd item)

theorem filing_leaves_price {failure : SettlementError} {item : ItemMetadata} {trail next : Trail}
    (failed : CaptureFailed failure request.key.userId request.referenceId
      (request.charge estimate (request.operation.rowMetadata answer)) trail)
    (filing : Filing request.key.userId item trail next) :
    LeavesPrice request estimate answer next := by
  intro costMicroUsd metadata filed
  obtain same | ⟨same, _⟩ := failed.cases <;> subst same <;>
    obtain same | same | ⟨same, _⟩ := filing <;> subst same <;> cases filed
  rfl

def MediaRequest.item (request : MediaRequest)
    (chargeMicroUsd listCostMicroUsd upstreamStatus : Nat) : ItemMetadata :=
  { referenceId := some request.referenceId
    model := some request.operation.model
    chargeMicroUsd := some chargeMicroUsd
    listCostMicroUsd := some listCostMicroUsd
    walletType := some request.key.walletType
    upstreamStatus := some upstreamStatus }

theorem files_media_failure (request : MediaRequest)
    (chargeMicroUsd listCostMicroUsd upstreamStatus : Nat) :
    Files hold request.key.userId (request.item chargeMicroUsd listCostMicroUsd upstreamStatus)
      (request.fileCaptureFailure chargeMicroUsd listCostMicroUsd upstreamStatus) :=
  files_guarded
    (files_then
      (files_mark request.key.userId (some request.key.id) request.referenceId
        mediaCaptureFailedReason
        { request.item chargeMicroUsd listCostMicroUsd upstreamStatus with referenceId := none }
        false)
      fun _ => ())
    fun _ => ()

theorem media_settle_leaves_price (request : MediaRequest) (estimate : MultimodalCost)
    (answer : MediaAnswer) (upstreamStatus : Nat) :
    EndsOn hold (LeavesPrice request estimate answer)
      (request.settle estimate answer upstreamStatus) .untouched := by
  have captures : (settlementTrail hold).Keeps
      (fun captured next => LeavesPrice request estimate answer next ∧
        (captured = true → next.ended = true))
      (fun failure next => CaptureFailed failure request.key.userId request.referenceId
        (request.charge estimate (request.operation.rowMetadata answer)) next)
      ((Settlement.captureManagedVeniceReservation .holdCost
        (request.charge estimate (request.operation.rowMetadata answer)) request.key.userId
        request.referenceId
        (request.charge estimate (request.operation.rowMetadata answer))).bind fun _ => .ret true)
      .untouched := by
    apply keeps_bind _ (trail_capture .holdCost _ _ _ _)
    intro reply next isNext
    subst isNext
    cases reply.captured with
    | true =>
      rw [if_pos rfl]
      exact ⟨uncosted_leaves_price (by simp), fun _ => rfl⟩
    | false =>
      rw [if_neg Bool.false_ne_true]
      exact ⟨uncosted_leaves_price (by simp), fun _ => rfl⟩
  apply keeps_bind (fun captured next => LeavesPrice request estimate answer next ∧
    (captured = true → next.ended = true))
  · apply keeps_handle captures
    intro failure trail failed
    apply keeps_bind (fun _ next => LeavesPrice request estimate answer next)
    · apply ends_on_mono (files_media_failure request _ _ upstreamStatus trail)
      intro next filing
      exact filing_leaves_price failed filing
    · intro _ next leaves
      exact ⟨leaves, fun isTrue => by cases isTrue⟩
  · intro captured next leaves
    cases captured with
    | false => exact leaves.1
    | true =>
      apply ends_on_mono (trail_ended (leaves.2 rfl) _)
      intro later same
      rw [same]
      exact leaves.1

def Uncosted (trail : Trail) : Prop :=
  trail = .untouched ∨ trail = .astray

theorem trail_release (userId referenceId : String) : EndsOn hold Uncosted
      (releaseManagedVeniceReservation userId referenceId) .untouched := by
  apply keeps_bind (fun _ next => next = .untouched)
  · apply keeps_mono (trail_require_user_id userId)
    · intro _ _ required
      exact required.1
    · intro _ _ required
      exact .inl required.1
  · intro _ next same
    subst same
    apply keeps_bind (fun _ next => Uncosted next)
    · apply keeps_mono (trail_load_reservation userId referenceId)
      · intro _ _ loaded
        obtain ⟨_, same⟩ | strays := loaded
        · exact .inl same
        · exact .inr strays
      · intro _ _ strays
        exact .inr strays
    · intro found next uncosted
      cases found with
      | none => exact uncosted
      | some row =>
        dsimp only
        split
        · apply keeps_bind (fun _ next => Uncosted next)
          · apply keeps_mono (trail_ask_aside rfl)
            · intro _ _ same
              exact same ▸ uncosted
            · intro _ _ strays
              subst strays
              obtain same | same := uncosted <;> subst same <;> exact .inr rfl
          · intro _ _ uncosted
            exact uncosted
        · exact uncosted

theorem files_leave_price {userId : String}
    {item : ItemMetadata} {script : Settlement Unit} {trail : Trail}
    (files : Files hold userId item script) (uncosted : Uncosted trail) :
    EndsOn hold (LeavesPrice request estimate answer) script trail := by
  have leaves : ∀ next, Filing userId item trail next →
      LeavesPrice request estimate answer next := by
    intro next filing
    apply uncosted_leaves_price
    intro costMicroUsd metadata filed
    obtain same | same := uncosted <;> subst same <;>
      obtain same | same | ⟨same, _⟩ := filing <;> subst same <;> cases filed
  apply ends_on_mono (files trail)
  intro next filing
  exact leaves next filing

theorem media_leaves_price (request : MediaRequest) (estimate : MultimodalCost)
    (answer : MediaAnswer) (upstreamStatus : Nat) :
    EndsOn hold (LeavesPrice request estimate answer)
      (request.complete estimate answer upstreamStatus) .untouched := by
  have leaves : ∀ next, Uncosted next → LeavesPrice request estimate answer next := by
    intro next uncosted
    obtain same | same := uncosted <;> subst same <;> exact uncosted_leaves_price (by simp)
  unfold MediaRequest.complete
  split
  · exact media_settle_leaves_price request estimate answer upstreamStatus
  · have releases : (settlementTrail hold).Keeps
        (fun _ next => LeavesPrice request estimate answer next) (fun _ next => Uncosted next)
        ((releaseManagedVeniceReservation request.key.userId request.referenceId).bind
          fun _ => .ret ()) .untouched := by
      apply keeps_bind _ (trail_release _ _)
      intro _ next uncosted
      exact leaves next uncosted
    apply keeps_handle releases
    intro _ trail uncosted
    exact files_leave_price
      (files_guarded
        (files_then
          (files_mark request.key.userId (some request.key.id) request.referenceId
            mediaReleaseFailedReason
            { model := some request.operation.model
              walletType := some request.key.walletType
              upstreamStatus } false)
          fun _ => ())
        fun _ => ())
      uncosted

theorem held_estimate {Fault Store : Type}
    {perform : Answering Statement Statement.Reply Fault Store}
    {exchanges : List (Exchange Statement Fault Store)}
    (ends : Ends perform (holdManagedVeniceMediaSpend request) exchanges (.ok (.ok estimate))) :
    computeVeniceMultimodalHoldCost request.catalog request.operation.endpoint
      request.operation.model request.operation.metadata = .ok estimate := by
  unfold holdManagedVeniceMediaSpend at ends
  cases estimated : computeVeniceMultimodalHoldCost request.catalog request.operation.endpoint
      request.operation.model request.operation.metadata with
  | error reason =>
    rw [estimated] at ends
    cases reason <;> cases (ends_ret ends).1
  | ok held =>
    simp only [estimated] at ends
    split at ends
    · cases (ends_ret ends).1
    · obtain returned | ⟨_, _, failure, _, _, handled⟩ := ends_handle ends
      · obtain ⟨_, _, _, _, _, rest⟩ := ends_bind returned
        obtain ⟨_, _, _, _, _, returns⟩ := ends_bind rest
        cases (ends_ret returns).1
        rfl
      · cases (ends_ret handled).1

def LinksWithin (surcharge : Option SurchargePlan) : Prop :=
  ∀ plan count, surcharge = some plan → plan.scrapeUrls = some count →
    count ≤ veniceWebScrapeMaxUrls

/-- The options come to the published rates: Venice reported no cost of its own, and no search
that found nothing; or what it reported comes to just those rates. -/
def AtPublishedRates (plan : SurchargePlan) (evidence : SurchargeEvidence)
    (tokenCostMicroUsd : Nat) : Prop :=
  match evidence.veniceCostMicroUsd with
  | none => ¬ (plan.webSearch = some .auto ∧ evidence.webSearchCitations = some 0)
  | some veniceCost =>
    min (surchargeCeilingMicroUsd plan)
        (max (if plan.webSearch = some .on then veniceWebSearchMicroUsd else 0)
          (veniceCost - tokenCostMicroUsd)) =
      surchargeFallbackChargeMicroUsd (some plan)

theorem at_published_rates_iff (plan : SurchargePlan) (evidence : SurchargeEvidence)
    (tokenCostMicroUsd : Nat) :
    (settleManagedChatSurcharge plan evidence tokenCostMicroUsd).surchargeMicroUsd =
        surchargeFallbackChargeMicroUsd (some plan) ↔
      AtPublishedRates plan evidence tokenCostMicroUsd := by
  unfold AtPublishedRates settleManagedChatSurcharge
  cases evidence.veniceCostMicroUsd with
  | some veniceCost =>
    dsimp only
    generalize max (if plan.webSearch = some .on then veniceWebSearchMicroUsd else 0)
      (veniceCost - tokenCostMicroUsd) = reported
    by_cases above : surchargeCeilingMicroUsd plan < reported
    · rw [if_pos above, Nat.min_eq_left (Nat.le_of_lt above)]
    · rw [if_neg above, Nat.min_eq_right (Nat.le_of_not_lt above)]
  | none =>
    have positive : veniceWebSearchMicroUsd ≠ 0 := by decide
    simp only [surchargeFallbackChargeMicroUsd, settleManagedChatSurcharge, noSurchargeEvidence]
    cases plan.webSearch with
    | none => simp
    | some mode =>
      cases mode with
      | on => simp
      | auto =>
        by_cases noHit : evidence.webSearchCitations = some 0
        · simp [noHit, positive]
        · simp [noHit]

theorem read_plan_published {surcharge : Option SurchargePlan} {metadata : HoldMetadata}
    (links : LinksWithin surcharge) (kept : metadata.surchargePlan = surcharge) :
    surchargeFallbackChargeMicroUsd (readSurchargePlan metadata) =
      (surcharge.map fun plan => surchargeFallbackChargeMicroUsd (some plan)).getD 0 := by
  unfold readSurchargePlan
  rw [kept]
  cases surcharge with
  | none => rfl
  | some plan =>
    have same : plan.scrapeUrls.map (min · veniceWebScrapeMaxUrls) = plan.scrapeUrls := by
      cases counted : plan.scrapeUrls with
      | none => rfl
      | some count => simp [Nat.min_eq_left (links plan count rfl counted)]
    simp only [same]
    split
    · rfl
    · rename_i off
      simp only [Bool.or_eq_true, not_or, Option.isSome_iff_ne_none, ne_eq, not_not] at off
      simp [surchargeFallbackChargeMicroUsd, settleManagedChatSurcharge, noSurchargeEvidence, off]

theorem cost_without_options {request : ChatUsage} {priced : UsageTokens × ActualChatCost}
    (read : readSurchargePlan hold.metadata = none) :
    request.costOn hold priced = priced.2.actualCostMicroUsd := by
  have noSurcharge : (request.cost priced (some hold)).surcharge = none := by
    simp [ChatUsage.cost, read]
  simp [ChatUsage.costOn, ChatUsageCost.actualCostMicroUsd, noSurcharge]
  rfl

theorem cost_with_options {request : ChatUsage} {priced : UsageTokens × ActualChatCost}
    {plan : SurchargePlan} (read : readSurchargePlan hold.metadata = some plan) :
    request.costOn hold priced =
      priced.2.actualCostMicroUsd +
        (settleManagedChatSurcharge plan (request.surchargeEvidence.getD noSurchargeEvidence)
          priced.2.actualCostMicroUsd).surchargeMicroUsd := by
  simp [ChatUsage.costOn, ChatUsageCost.actualCostMicroUsd, ChatUsage.cost, read]

def sweptCostMicroUsd (hold : Reservation) (item : ReconciliationItem) : Nat :=
  (captureAmount hold (some item)).costMicroUsd

theorem read_count_exact {count : Nat} (exactRange : count ≤ Json.maxSafeInteger) :
    readCount (some count) = some count :=
  if_pos (decide_eq_true exactRange)

theorem swept_output (request : ObservedOutput) {item : ReconciliationItem}
    (noCatalog : hold.metadata.captureOnSuccessMicroUsd = none)
    (isItem : item.metadata = request.item) :
    sweptCostMicroUsd hold item = request.costOn hold := by
  have counted : readCount request.item.observedOutputTokens = some request.counted := by
    apply read_count_exact
    unfold ObservedOutput.counted
    split
    · assumption
    · exact Nat.zero_le _
  have noCharge : readCount request.item.chargeMicroUsd = none := rfl
  have noUsage : readCount request.item.usageCostMicroUsd = none := rfl
  unfold sweptCostMicroUsd captureAmount ObservedOutput.costOn
  simp only [Option.map_some, Option.getD_some, isItem, noCatalog, noCharge, noUsage, counted,
    Option.orElse_none, Option.filter_none, Option.bind_some]
  cases observedOutputCostMicroUsd hold request.counted <;> rfl

theorem swept_usage {item : ReconciliationItem} {usageCostMicroUsd : Nat}
    (noCatalog : hold.metadata.captureOnSuccessMicroUsd = none)
    (noCharge : item.metadata.chargeMicroUsd = none)
    (usageCost : item.metadata.usageCostMicroUsd = some usageCostMicroUsd)
    (exactRange : usageCostMicroUsd ≤ Json.maxSafeInteger) : sweptCostMicroUsd hold item =
      usageCostMicroUsd + hold.metadata.surchargeEstimateMicroUsd.getD 0 := by
  have noneRead : readCount none = none := rfl
  unfold sweptCostMicroUsd captureAmount
  simp only [Option.map_some, Option.getD_some, noCatalog, noCharge, usageCost, noneRead,
    read_count_exact exactRange, Option.orElse_none, Option.filter_none]

theorem swept_price {item : ReconciliationItem} {chargeMicroUsd : Nat}
    (catalog : hold.metadata.captureOnSuccessMicroUsd = some chargeMicroUsd)
    (covered : chargeMicroUsd ≤ hold.reservedMicroUsd) :
    sweptCostMicroUsd hold item = chargeMicroUsd := by
  have kept : (some chargeMicroUsd).filter (fun catalog => decide (catalog ≤ hold.reservedMicroUsd))
      = some chargeMicroUsd := if_pos (decide_eq_true covered)
  unfold sweptCostMicroUsd captureAmount
  simp only [catalog, Option.orElse_some, kept]

inductive HoldSettlement
  | chat (settlement : ChatSettlement)
  | media (request : MediaRequest) (estimate : MultimodalCost) (answer : MediaAnswer)
      (upstreamStatus : Nat)

def HoldSettlement.script : HoldSettlement → Settlement Unit
  | .chat settlement => settlement.script
  | .media request estimate answer upstreamStatus =>
    request.complete estimate answer upstreamStatus

def HoldSettlement.priced : HoldSettlement → Option (ChatUsage × UsageTokens × ActualChatCost)
  | .chat settlement => settlement.priced
  | .media .. => none

section Runs

variable {Fault Store : Type} (perform : Answering Statement Statement.Reply Fault Store)

def Inserted (hold : Reservation) (exchanges : List (Exchange Statement Fault Store)) : Prop :=
  ∃ exchange ∈ exchanges, ∃ new id,
    exchange.request = .insertReservation new ∧ hold = new.row id

def HoldSettlement.HasHold (hold : Reservation) : HoldSettlement → Prop
  | .chat _ => ∃ request exchanges result, LinksWithin request.surcharge ∧
      Ends perform (reserveManagedVeniceChatWithinBalance request) exchanges result ∧
        Inserted hold exchanges
  | .media request estimate _ _ => ∃ exchanges,
      Ends perform (holdManagedVeniceMediaSpend request) exchanges (.ok (.ok estimate)) ∧
        Inserted hold exchanges

variable {perform}

theorem inserted_is_made {Outcome : Type} {madeWith : NewReservation → Prop}
    {script : Settlement Outcome} {result : Except SettlementError Outcome}
    {exchanges : List (Exchange Statement Fault Store)} (makes : Makes madeWith script)
    (ends : Ends perform script exchanges result) (inserted : Inserted hold exchanges) :
    ∃ new id, madeWith new ∧ hold = new.row id := by
  obtain ⟨exchange, made, new, id, isInsert, isHold⟩ := inserted
  obtain ⟨_, permitted⟩ := keeps_permits makes ends made
  exact ⟨new, id, permitted new isInsert, isHold⟩

/-- The sweep charges what the failed settlement had computed for observed output and for the
price of a media success.  For reported usage it charges the tokens and the published rates of
the options: that is what the settlement had computed exactly when it charged the options at
those rates. -/
theorem sweep_charges_failed_settlement (settlement : HoldSettlement) (hold : Reservation)
    (hasHold : settlement.HasHold perform hold)
    (exchanges : List (Exchange Statement Fault Store)) (result : Except SettlementError Unit)
    (ends : Ends perform settlement.script exchanges result) (costMicroUsd : Nat)
    (metadata : ItemMetadata) (filed : (settlementTrail hold).follow perform exchanges .untouched =
      .filed (some costMicroUsd) metadata)
    (item : ReconciliationItem) (isItem : item.metadata = metadata) :
    (settlement.priced = none → (captureAmount hold (some item)).costMicroUsd = costMicroUsd) ∧
      ∀ request priced, settlement.priced = some (request, priced) →
        priced.2.actualCostMicroUsd ≤ Json.maxSafeInteger →
          (captureAmount hold (some item)).costMicroUsd =
              priced.2.actualCostMicroUsd +
                surchargeFallbackChargeMicroUsd (readSurchargePlan hold.metadata) ∧
            ((captureAmount hold (some item)).costMicroUsd = costMicroUsd ↔
              ∀ plan, readSurchargePlan hold.metadata = some plan →
                AtPublishedRates plan (request.surchargeEvidence.getD noSurchargeEvidence)
                  priced.2.actualCostMicroUsd) := by
  subst isItem
  cases settlement with
  | media request estimate answer upstreamStatus =>
    obtain ⟨reserving, held, inserted⟩ := hasHold
    obtain ⟨new, id, made, isHold⟩ := inserted_is_made (media_hold_made request) held inserted
    obtain ⟨estimate', estimated, catalog, reserved⟩ := made.priced
    have same : estimate' = estimate :=
      Except.ok.inj (estimated.symm.trans (held_estimate held))
    subst same isHold
    have isCost := keeps_ends (media_leaves_price request estimate' answer upstreamStatus) ends
      costMicroUsd item.metadata filed
    rw [charge_of_answer] at isCost
    have swept : sweptCostMicroUsd (new.row id) item = costMicroUsd := by
      rw [isCost]
      apply swept_price catalog
      exact le_of_le_of_eq (charge_within_hold request estimate' _) reserved.symm
    constructor
    · intro _
      exact swept
    · intro _ _ isPriced
      cases isPriced
  | chat settlement =>
    obtain ⟨request, reserving, reserved, links, held, inserted⟩ := hasHold
    obtain ⟨new, id, made, isHold⟩ := inserted_is_made (chat_hold_made request) held inserted
    have noCatalog : hold.metadata.captureOnSuccessMicroUsd = none := by
      rw [isHold]
      exact made.noCatalogPrice
    have published : hold.metadata.surchargeEstimateMicroUsd.getD 0 =
        surchargeFallbackChargeMicroUsd (readSurchargePlan hold.metadata) := by
      have kept : hold.metadata = new.metadata := by rw [isHold]; rfl
      rw [kept, made.estimate, read_plan_published links made.plan]
    have left := keeps_ends (settlement_leaves_cost settlement) ends costMicroUsd item.metadata
      filed
    generalize isItem : item.metadata = metadata at left
    cases left with
    | output request noPrice =>
      constructor
      · intro _
        exact swept_output request noCatalog isItem
      · intro _ _ isPriced
        rw [HoldSettlement.priced, noPrice] at isPriced
        cases isPriced
    | usage request priced _ isPrice usageCost noCharge =>
      constructor
      · intro noPrice
        rw [HoldSettlement.priced, isPrice] at noPrice
        cases noPrice
      · intro other priced' isPriced exactRange
        rw [HoldSettlement.priced, isPrice] at isPriced
        cases isPriced
        have swept : (captureAmount hold (some item)).costMicroUsd =
            priced.2.actualCostMicroUsd +
              surchargeFallbackChargeMicroUsd (readSurchargePlan hold.metadata) := by
          rw [← published]
          exact swept_usage noCatalog (isItem ▸ noCharge) (isItem ▸ usageCost) exactRange
        constructor
        · exact swept
        · rw [swept]
          cases read : readSurchargePlan hold.metadata with
          | none =>
            rw [cost_without_options read]
            simp [surchargeFallbackChargeMicroUsd]
          | some plan =>
            rw [cost_with_options read, Nat.add_left_cancel_iff, eq_comm,
              at_published_rates_iff]
            simp

end Runs

def searchRequest : ChatBudget :=
  { cappedRequest true with
    surcharge := some { webSearch := some .auto, scrapeUrls := none, xSearch := false } }

def searchHold : NewReservation :=
  { accountId := "account"
    userId := "user"
    walletType := .card
    referenceId := "request"
    estimatedCostMicroUsd := 28181
    reservedMicroUsd := 30000
    model := some "zai-org-glm-4.7"
    endpoint := chatEndpoint
    expiresAt := some chatHoldTtlMs
    metadata :=
      { proxyKeyId := some "key"
        inputEstimateMicroUsd := some 2
        outputMicroUsdPerMillion := some 2650000
        sweepEstimateMicroUsd := some 20857
        surchargePlan := searchRequest.surcharge
        surchargeEstimateMicroUsd := some veniceWebSearchMicroUsd } }

def searchStream (webSearchCitations : Option Nat) : StreamSettlement :=
  { request :=
      { userId := "user"
        proxyKeyId := "key"
        walletType := .card
        referenceId := "request"
        model := "zai-org-glm-4.7"
        upstreamStatus := 200
        book := publishedBook }
    outcome := "completed"
    usageMissing := "managed_venice_missing_stream_usage"
    captureFailed := "managed_venice_stream_settlement_failed"
    usage := some (chatUsage 1000 100 0)
    surchargeEvidence := some { veniceCostMicroUsd := none, webSearchCitations }
    observedOutputTokens := 100 }

def settleSearch (webSearchCitations : Option Nat) :
    List (Exchange Statement Turn SettlementStore) × Option (Except SettlementError Unit) :=
  traced (performStatement 0)
    (HoldSettlement.chat (.stream (searchStream webSearchCitations))).script
    [Turn.at "" 2000, { Turn.at "" 2000 with delivery := .refused }, Turn.at "" 2000,
      Turn.at "item" 2000]
    (creditedWallet [searchHold.row "row"])

def searchItem : ReconciliationItem :=
  { id := "item"
    userId := "user"
    accountId := some "account"
    proxyKeyId := some "key"
    status := .open
    reason := "managed_venice_stream_settlement_failed"
    metadata :=
      { referenceId := some "request"
        model := some "zai-org-glm-4.7"
        upstreamStatus := some 200
        cause := some "settlement_failed"
        usageCostMicroUsd := some 815
        observedOutputTokens := some 100 }
    createdAt := 2000 }

theorem search_has_hold (webSearchCitations : Option Nat) :
    (HoldSettlement.chat (.stream (searchStream webSearchCitations))).HasHold
      (performStatement 0) (searchHold.row "row") := by
  have links : LinksWithin searchRequest.surcharge := by
    intro plan count isPlan counted
    cases isPlan
    cases counted
  have reserved : ∃ result, (reserveAlone searchRequest (creditedWallet [])).2 = some result :=
    Option.isSome_iff_exists.mp (by decide +kernel)
  obtain ⟨result, finished⟩ := reserved
  have made : ∃ exchange ∈ (reserveAlone searchRequest (creditedWallet [])).1,
      exchange.request = .insertReservation searchHold := by
    decide +kernel
  obtain ⟨exchange, inside, isInsert⟩ := made
  unfold reserveAlone at finished inside
  exact ⟨searchRequest, _, result, links, ends_traced finished, exchange, inside, searchHold, "row",
    isInsert, rfl⟩

def LeftCost (webSearchCitations : Option Nat) (costMicroUsd : Nat) : Prop :=
  (settleSearch webSearchCitations).2 = some (.ok ()) ∧
    (settlementTrail (searchHold.row "row")).follow (performStatement 0)
      (settleSearch webSearchCitations).1 .untouched = .filed (some costMicroUsd) searchItem.metadata

instance (webSearchCitations : Option Nat) (costMicroUsd : Nat) :
    Decidable (LeftCost webSearchCitations costMicroUsd) :=
  inferInstanceAs (Decidable (_ ∧ _))

/-- A search nothing is known of is charged alike. -/
theorem sweep_charges_failed_search : LeftCost none 10815 ∧
      (captureAmount (searchHold.row "row") (some searchItem)).costMicroUsd = 10815 := by
  have left : LeftCost none 10815 := by decide +kernel
  have charges := sweep_charges_failed_settlement _ _ (search_has_hold none) _ _
    (ends_traced left.1) 10815 searchItem.metadata left.2 searchItem rfl
  have costs : (HoldSettlement.chat (.stream (searchStream none))).priced.map
      (fun priced => priced.2.2.actualCostMicroUsd) = some 815 := by
    decide +kernel
  obtain ⟨⟨request, priced⟩, isPriced, cost⟩ := Option.map_eq_some_iff.mp costs
  have exactRange : priced.2.actualCostMicroUsd ≤ Json.maxSafeInteger := by
    rw [cost]
    decide
  constructor
  · exact left
  · rw [(charges.2 request priced isPriced exactRange).1, cost]
    decide

/-- Venice said that its search found nothing: the settlement had not charged for one, and the
sweep does. -/
theorem sweep_charges_a_search_without_citations :
    (HoldSettlement.chat (.stream (searchStream (some 0)))).HasHold (performStatement 0)
        (searchHold.row "row") ∧
      LeftCost (some 0) 815 ∧
      (captureAmount (searchHold.row "row") (some searchItem)).costMicroUsd = 10815 := by
  constructor
  · exact search_has_hold (some 0)
  · decide +kernel

end Hivra.ManagedVenice
