import Hivra.ManagedVenice.SettlementRoutes
import Hivra.ManagedVenice.SettlementTrails

/-!
# How a settlement ends

The usage Venice reported, or the output that was read, is captured from the hold or is left to
the sweep in an item.  What the item says of a cost that was not captured is known for each of
the two, whatever the statements answer.
-/

namespace Hivra.ManagedVenice

open Hivra.Library
open Hivra.Library.Typestate
open Hivra.Venice

variable {hold : Reservation} {Outcome : Type} {trail : Trail}

theorem stray_of_ended (ended : trail.ended = true) : trail.stray = trail :=
  if_pos ended

theorem file_of_ended (ended : trail.ended = true) (metadata : ItemMetadata) :
    trail.file metadata = trail := by
  cases trail with
  | untouched | failed _ => cases ended
  | closed _ | filed _ _ | astray => rfl

theorem trail_load_reservation (userId referenceId : String) : (settlementTrail hold).Keeps
      (fun found next => found = some hold ∧ next = trail ∨ next = trail.stray)
      (fun _ next => next = trail.stray) (ask (.loadReservation userId referenceId)) trail := by
  apply trail_ask
  · intro found
    by_cases same : found = some hold
    · left
      constructor
      · exact same
      · cases trail <;> exact if_pos same
    · right
      cases trail <;> exact if_neg same
  · intro failure
    cases trail <;> rfl

def ChatUsage.costOn (request : ChatUsage) (hold : Reservation)
    (priced : UsageTokens × ActualChatCost) : Nat :=
  (request.cost priced (some hold)).actualCostMicroUsd

inductive UsageCaptured (request : ChatUsage) (hold : Reservation) : Trail → Prop
  | closed (priced : UsageTokens × ActualChatCost) (isPrice : request.price = .ok priced) :
      UsageCaptured request hold (.closed (request.costOn hold priced))
  | astray : UsageCaptured request hold .astray

inductive UsageThrown (request : ChatUsage) (hold : Reservation) : SettlementError → Trail → Prop
  | unpriced (reason : VeniceError) (isFailure : request.price = .error reason) :
      UsageThrown request hold (.venice reason) .untouched
  | uncaptured (failure : SettlementError) (priced : UsageTokens × ActualChatCost)
      (isPrice : request.price = .ok priced) (notVenice : ∀ reason, failure ≠ .venice reason) :
      UsageThrown request hold failure (.failed (request.costOn hold priced))
  | unnamed (failure : SettlementError) (priced : UsageTokens × ActualChatCost)
      (isPrice : request.price = .ok priced) (notVenice : ∀ reason, failure ≠ .venice reason)
      (isEmpty : isEmptyText request.userId = true ∨ isEmptyText request.referenceId = true) :
      UsageThrown request hold failure .untouched
  | after (failure : SettlementError) {trail : Trail} (captured : UsageCaptured request hold trail) :
      UsageThrown request hold failure trail

variable {request : ChatUsage}

theorem usage_captured_ended (captured : UsageCaptured request hold trail) :
    trail.ended = true := by
  cases captured with
  | closed priced isPrice => rfl
  | astray => rfl

theorem trail_after_capture (captured : UsageCaptured request hold trail)
    (script : Settlement Outcome) :
    (settlementTrail hold).Keeps (fun _ next => UsageCaptured request hold next)
      (fun failure next => UsageThrown request hold failure next) script trail := by
  apply keeps_mono (trail_ended (usage_captured_ended captured) script)
  · intro _ next same
    rw [same]
    exact captured
  · intro failure next same
    rw [same]
    exact .after failure captured

theorem trail_chat_usage (request : ChatUsage) :
    (settlementTrail hold).Keeps (fun _ next => UsageCaptured request hold next)
      (fun failure next => UsageThrown request hold failure next)
      (captureManagedVeniceChatUsage request) .untouched := by
  unfold captureManagedVeniceChatUsage
  cases isPrice : request.price with
  | error reason => exact UsageThrown.unpriced reason isPrice
  | ok priced =>
    dsimp only
    apply keeps_bind (fun found next =>
      found = some hold ∧ next = .untouched ∨ next = Trail.untouched.stray)
    · apply keeps_mono (trail_load_reservation request.userId request.referenceId)
      · intro _ _ loaded
        exact loaded
      · intro failure next strays
        rw [strays]
        exact .after failure .astray
    · intro found next loaded
      obtain ⟨isFound, same⟩ | strays := loaded
      · subst isFound same
        apply keeps_bind (fun (reply : CaptureReply) next =>
          next = if reply.captured then .closed (request.costOn hold priced) else .astray)
        · apply keeps_mono (trail_capture .chatUsage (request.costOn hold priced)
            request.userId request.referenceId _)
          · intro _ _ captured
            exact captured
          · intro failure next failed
            obtain same | ⟨same, isEmpty⟩ := failed.cases
            · rw [same]
              exact .uncaptured failure priced isPrice failed.notVenice
            · rw [same]
              exact .unnamed failure priced isPrice failed.notVenice isEmpty
        · intro reply next isNext
          cases captured : reply.captured with
          | true =>
            rw [captured, if_pos rfl] at isNext
            subst isNext
            exact trail_after_capture (.closed priced isPrice) _
          | false =>
            rw [captured, if_neg Bool.false_ne_true] at isNext
            subst isNext
            exact trail_after_capture .astray _
      · subst strays
        exact trail_after_capture .astray _

def Filing (userId : String) (item : ItemMetadata) (trail next : Trail) : Prop :=
  next = trail.file item ∨ next = trail.stray ∨ next = trail ∧ isEmptyText userId = true

def Files (hold : Reservation) (userId : String) (item : ItemMetadata)
    (script : Settlement Outcome) : Prop :=
  ∀ trail, EndsOn hold (Filing userId item trail) script trail

theorem files_mark (userId : String) (proxyKeyId : Option String) (referenceId reason : String)
    (metadata : ItemMetadata) (pauseKey : Bool) :
    Files hold userId { metadata with referenceId := some referenceId }
      (markManagedVeniceReconciliationRequired userId proxyKeyId referenceId reason metadata
        pauseKey) := by
  intro trail
  apply keeps_mono (trail_mark userId proxyKeyId referenceId reason metadata pauseKey)
  · intro _ next filed
    obtain same | strays := filed
    · exact .inl same
    · exact .inr (.inl strays)
  · intro _ next filed
    exact filed

section

variable {userId : String} {item : ItemMetadata} {script : Settlement Outcome}
    (files : Files hold userId item script)
include files

theorem files_then {Result : Type} (reply : Outcome → Result) :
    Files hold userId item (script.bind fun outcome => .ret (reply outcome)) := by
  intro trail
  apply keeps_bind _ (files trail)
  intro outcome next filing
  exact filing

theorem files_guarded (reply : SettlementError → Outcome) :
    Files hold userId item (script.handle fun failure => .ret (reply failure)) := by
  intro trail
  apply keeps_handle (files trail)
  intro failure next filing
  exact filing

end

inductive UsageEnd (request : ChatUsage) (hold : Reservation) (item : ItemMetadata) : Trail → Prop
  | captured {trail : Trail} (captured : UsageCaptured request hold trail) :
      UsageEnd request hold item trail
  | uncaptured (priced : UsageTokens × ActualChatCost) (isPrice : request.price = .ok priced) :
      UsageEnd request hold item (.filed (some (request.costOn hold priced)) item)
  | unpriced (reason : VeniceError) (isFailure : request.price = .error reason) :
      UsageEnd request hold item (.filed none item)
  | unnamed {trail : Trail} (noCost : ∀ costMicroUsd metadata,
      trail ≠ .filed (some costMicroUsd) metadata)
      (isEmpty : isEmptyText request.userId = true ∨ isEmptyText request.referenceId = true) :
      UsageEnd request hold item trail

theorem usage_end_of_filing {item : ItemMetadata}
    {failure : SettlementError} {next : Trail} (thrown : UsageThrown request hold failure trail)
    (filing : Filing request.userId item trail next) : UsageEnd request hold item next := by
  obtain same | same | ⟨same, isEmpty⟩ := filing
  · subst same
    cases thrown with
    | unpriced reason isFailure => exact .unpriced reason isFailure
    | uncaptured failure priced isPrice _ => exact .uncaptured priced isPrice
    | unnamed failure priced _ _ isEmpty =>
      apply UsageEnd.unnamed _ isEmpty
      intro costMicroUsd metadata same
      cases same
    | after failure captured =>
      rw [file_of_ended (usage_captured_ended captured)]
      exact .captured captured
  · subst same
    cases thrown with
    | unpriced | uncaptured | unnamed => exact .captured .astray
    | after failure captured =>
      rw [stray_of_ended (usage_captured_ended captured)]
      exact .captured captured
  · subst same
    cases thrown with
    | after failure captured => exact .captured captured
    | unpriced | uncaptured | unnamed =>
      apply UsageEnd.unnamed _ (.inl isEmpty)
      intro costMicroUsd metadata same
      cases same

theorem usage_or_item {item : ItemMetadata} (reply : Outcome)
    {handler : SettlementError → Settlement Outcome}
    (files : ∀ failure, Files hold request.userId item (handler failure)) :
    EndsOn hold (UsageEnd request hold item)
      (Script.handle ((captureManagedVeniceChatUsage request).bind fun _ => .ret reply) handler)
      .untouched := by
  have captures : (settlementTrail hold).Keeps (fun _ next => UsageEnd request hold item next)
      (fun failure next => UsageThrown request hold failure next)
      ((captureManagedVeniceChatUsage request).bind fun _ => .ret reply) .untouched := by
    apply keeps_bind _ (trail_chat_usage request)
    intro _ next captured
    exact .captured captured
  apply keeps_handle captures
  intro failure trail thrown
  apply ends_on_mono (files failure trail)
  intro next filing
  exact usage_end_of_filing thrown filing

def ObservedOutput.costOn (request : ObservedOutput) (hold : Reservation) : Nat :=
  (observedOutputCostMicroUsd hold request.counted).getD (holdEstimateMicroUsd hold)

def ObservedOutput.item (request : ObservedOutput) : ItemMetadata :=
  { referenceId := some request.referenceId
    model := some request.model
    upstreamStatus := some request.upstreamStatus
    cause := some request.cause
    observedOutputTokens := some request.counted }

inductive OutputEnd (request : ObservedOutput) (hold : Reservation) : Trail → Prop
  | captured : OutputEnd request hold (.closed (request.costOn hold))
  | astray : OutputEnd request hold .astray
  | uncaptured : OutputEnd request hold (.filed (some (request.costOn hold)) request.item)
  | settled (notActive : hold.status ≠ .active) : OutputEnd request hold .untouched
  | unnamed {trail : Trail} (noCost : ∀ costMicroUsd metadata,
      trail ≠ .filed (some costMicroUsd) metadata)
      (isEmpty : isEmptyText hold.userId = true ∨ isEmptyText hold.referenceId = true ∨
        isEmptyText request.userId = true) :
      OutputEnd request hold trail

inductive CostThrown (hold : Reservation) (costMicroUsd : Nat) : Trail → Prop
  | uncaptured : CostThrown hold costMicroUsd (.failed costMicroUsd)
  | unnamed (isEmpty : isEmptyText hold.userId = true ∨ isEmptyText hold.referenceId = true) :
      CostThrown hold costMicroUsd .untouched
  | closed : CostThrown hold costMicroUsd (.closed costMicroUsd)
  | astray : CostThrown hold costMicroUsd .astray

theorem trail_hold_cost (proxyKeyId : Option String) (costMicroUsd : Nat) (cause : String) :
    (settlementTrail hold).Keeps
      (fun _ next => next = .closed costMicroUsd ∨ next = .astray)
      (fun _ next => CostThrown hold costMicroUsd next)
      (captureManagedVeniceHoldCost hold proxyKeyId costMicroUsd cause) .untouched := by
  apply keeps_bind (fun (reply : CaptureReply) next =>
    next = if reply.captured then .closed costMicroUsd else .astray)
  · apply keeps_mono (trail_capture .holdCost costMicroUsd hold.userId hold.referenceId _)
    · intro _ _ captured
      exact captured
    · intro failure next failed
      obtain same | ⟨same, isEmpty⟩ := failed.cases
      · rw [same]
        exact .uncaptured
      · rw [same]
        exact .unnamed isEmpty
  · intro reply next isNext
    cases captured : reply.captured with
    | true =>
      rw [captured, if_pos rfl] at isNext
      subst isNext
      apply keeps_mono (trail_ended rfl _)
      · intro _ _ same
        exact .inl same
      · intro _ _ same
        rw [same]
        exact .closed
    | false =>
      rw [captured, if_neg Bool.false_ne_true] at isNext
      subst isNext
      apply keeps_mono (trail_ended rfl _)
      · intro _ _ same
        exact .inr same
      · intro _ _ same
        rw [same]
        exact .astray

theorem output_end_of_filing {request : ObservedOutput} {next : Trail}
    (thrown : CostThrown hold (request.costOn hold) trail)
    (filing : Filing request.userId request.item trail next) : OutputEnd request hold next := by
  obtain same | same | ⟨same, isEmpty⟩ := filing
  · subst same
    cases thrown with
    | uncaptured => exact .uncaptured
    | unnamed isEmpty =>
      apply OutputEnd.unnamed
      · intro costMicroUsd metadata same
        cases same
      · obtain isEmpty | isEmpty := isEmpty
        · exact .inl isEmpty
        · exact .inr (.inl isEmpty)
    | closed => exact .captured
    | astray => exact .astray
  · subst same
    cases thrown with
    | uncaptured | unnamed | astray => exact .astray
    | closed => exact .captured
  · subst same
    cases thrown with
    | closed => exact .captured
    | astray => exact .astray
    | uncaptured | unnamed =>
      apply OutputEnd.unnamed
      · intro costMicroUsd metadata same
        cases same
      · exact .inr (.inr isEmpty)

theorem output_or_item {request : ObservedOutput} {script : Settlement Outcome}
    {handler : SettlementError → Settlement Outcome}
    (files : ∀ failure, Files hold request.userId request.item (handler failure))
    (charges : (settlementTrail hold).Keeps (fun _ next => OutputEnd request hold next)
      (fun _ next => CostThrown hold (request.costOn hold) next) script .untouched) :
    EndsOn hold (OutputEnd request hold) (script.handle handler) .untouched := by
  apply keeps_handle charges
  intro failure trail thrown
  apply ends_on_mono (files failure trail)
  intro next filing
  exact output_end_of_filing thrown filing

theorem trail_observed_output (request : ObservedOutput) : EndsOn hold (OutputEnd request hold)
      (captureManagedVeniceObservedOutput request) .untouched := by
  apply output_or_item
  · intro failure
    apply files_guarded
    apply files_then
    exact files_mark request.userId (some request.proxyKeyId) request.referenceId
      request.reconciliationReason
      { model := some request.model
        upstreamStatus := some request.upstreamStatus
        cause := some request.cause
        observedOutputTokens := some request.counted } false
  · apply keeps_bind (fun found next =>
      found = some hold ∧ next = .untouched ∨ next = Trail.untouched.stray)
    · apply keeps_mono (trail_load_reservation request.userId request.referenceId)
      · intro _ _ loaded
        exact loaded
      · intro failure next strays
        rw [strays]
        exact .astray
    · intro found next loaded
      obtain ⟨isFound, same⟩ | strays := loaded
      · subst isFound same
        dsimp only
        split
        · apply keeps_bind _
            (trail_hold_cost (some request.proxyKeyId) (request.costOn hold) request.cause)
          intro reply next isNext
          obtain same | same := isNext
          · subst same
            apply keeps_mono (trail_ended rfl _)
            · intro _ _ same
              rw [same]
              exact .captured
            · intro _ _ same
              rw [same]
              exact .closed
          · subst same
            apply keeps_mono (trail_ended rfl _)
            · intro _ _ same
              rw [same]
              exact .astray
            · intro _ _ same
              rw [same]
              exact .astray
        · rename_i notActive
          exact OutputEnd.settled notActive
      · subst strays
        apply keeps_mono (trail_ended rfl _)
        · intro _ _ same
          rw [same]
          exact .astray
        · intro _ _ same
          rw [same]
          exact .astray

inductive ChatSettlement
  | stream (settlement : StreamSettlement)
  | worker (settlement : WorkerSettlement)
  | chatAnswer (request : SettledRequest) (usage : Json)
      (surchargeEvidence : Option SurchargeEvidence) (observedOutputTokens : Nat)
  | anthropicAnswer (request : SettledRequest) (usage : Json) (observedOutputTokens : Nat)
  | responses (request : SettledRequest) (usage : Option Json) (cause : String)
      (observedOutputTokens : Nat)

def ChatSettlement.script : ChatSettlement → Settlement Unit
  | .stream settlement => do
    let _ ← settlement.settle
    pure ()
  | .worker settlement => do
    let _ ← settlement.settle
    pure ()
  | .chatAnswer request usage surchargeEvidence observedOutputTokens =>
    settleChatAnswer request usage surchargeEvidence observedOutputTokens
  | .anthropicAnswer request usage observedOutputTokens =>
    settleAnthropicAnswer request usage observedOutputTokens
  | .responses request usage cause observedOutputTokens =>
    finishResponses request usage cause observedOutputTokens

def ChatSettlement.reported : ChatSettlement → Option ChatUsage
  | .stream settlement => settlement.usage.map fun usage =>
    settlement.request.reported .chatCompletions usage settlement.surchargeEvidence
  | .worker settlement => settlement.usage.map fun usage =>
    settlement.request.reported .chatCompletions usage settlement.surchargeEvidence
  | .chatAnswer request usage surchargeEvidence _ =>
    some (request.reported .chatCompletions usage surchargeEvidence)
  | .anthropicAnswer request usage _ => some (request.reported .chatCompletions usage none)
  | .responses request usage _ _ => usage.map fun usage => request.reported .responses usage none

def ChatSettlement.priced (settlement : ChatSettlement) :
    Option (ChatUsage × UsageTokens × ActualChatCost) :=
  settlement.reported.bind fun request =>
    match request.price with
    | .ok priced => some (request, priced)
    | .error _ => none

inductive CostLeft (settlement : ChatSettlement) (hold : Reservation) :
    Nat → ItemMetadata → Prop
  | usage (request : ChatUsage) (priced : UsageTokens × ActualChatCost) (item : ItemMetadata)
      (isPrice : settlement.priced = some (request, priced))
      (usageCost : item.usageCostMicroUsd = some priced.2.actualCostMicroUsd)
      (noCharge : item.chargeMicroUsd = none) :
      CostLeft settlement hold (request.costOn hold priced) item
  | output (request : ObservedOutput) (noPrice : settlement.priced = none) :
      CostLeft settlement hold (request.costOn hold) request.item

def LeavesCost (settlement : ChatSettlement) (hold : Reservation) (trail : Trail) : Prop :=
  ∀ costMicroUsd item, trail = .filed (some costMicroUsd) item →
    CostLeft settlement hold costMicroUsd item

theorem usage_cost_of_price {priced : UsageTokens × ActualChatCost}
    (isPrice : request.price = .ok priced) :
    managedVeniceUsageCostMicroUsd request.book request.model request.endpoint request.usage =
      some priced.2.actualCostMicroUsd := by
  unfold ChatUsage.price at isPrice
  unfold managedVeniceUsageCostMicroUsd settlementTokenCost
  cases read : settlementUsageTokens request.endpoint request.usage with
  | error reason => simp [read, bind, Except.bind] at isPrice
  | ok tokens =>
    cases actual : calculateActualChatCost request.book request.model tokens with
    | error reason => simp [read, actual, bind, Except.bind] at isPrice
    | ok cost =>
      simp only [read, actual, bind, Except.bind, pure, Except.pure, Except.ok.injEq]
        at isPrice ⊢
      rw [← isPrice]

variable {settlement : ChatSettlement}

theorem captured_leaves_cost (captured : UsageCaptured request hold trail) :
    LeavesCost settlement hold trail := by
  intro costMicroUsd metadata filed
  cases captured with
  | closed => cases filed
  | astray => cases filed

theorem usage_end_leaves_cost {item : ItemMetadata}
    (isReported : settlement.reported = some request) (usageCost : item.usageCostMicroUsd =
      managedVeniceUsageCostMicroUsd request.book request.model request.endpoint request.usage)
    (noCharge : item.chargeMicroUsd = none) (ends : UsageEnd request hold item trail) :
    LeavesCost settlement hold trail := by
  intro costMicroUsd metadata filed
  cases ends with
  | captured captured => exact captured_leaves_cost captured costMicroUsd metadata filed
  | uncaptured priced isPrice =>
    cases filed
    apply CostLeft.usage request priced item
    · rw [ChatSettlement.priced, isReported, Option.bind_some, isPrice]
    · rw [usageCost, usage_cost_of_price isPrice]
    · exact noCharge
  | unpriced reason isFailure => cases filed
  | unnamed noCost _ => exact absurd filed (noCost costMicroUsd metadata)

theorem output_end_leaves_cost {request : ObservedOutput} (noPrice : settlement.priced = none)
    (ends : OutputEnd request hold trail) : LeavesCost settlement hold trail := by
  intro costMicroUsd metadata filed
  cases ends with
  | captured | astray | settled => cases filed
  | uncaptured =>
    cases filed
    exact .output request noPrice
  | unnamed noCost _ => exact absurd filed (noCost costMicroUsd metadata)

theorem missing_usage_is_venice {failure : SettlementError}
    (missing : failure.isMissingUsage = true) : ∃ reason, failure = .venice reason := by
  unfold SettlementError.isMissingUsage at missing
  split at missing
  · exact ⟨_, rfl⟩
  · cases missing

theorem not_priced {reason : VeniceError}
    (isReported : settlement.reported = some request) (isFailure : request.price = .error reason) :
    settlement.priced = none := by
  rw [ChatSettlement.priced, isReported, Option.bind_some, isFailure]

theorem observed_leaves_cost (request : ObservedOutput) (noPrice : settlement.priced = none) :
    EndsOn hold (LeavesCost settlement hold)
      (captureManagedVeniceObservedOutput request) .untouched := by
  apply ends_on_mono (trail_observed_output request)
  intro _ ends
  exact output_end_leaves_cost noPrice ends

theorem trail_output_leaves_cost {Result : Type} (request : ObservedOutput)
    (noPrice : settlement.priced = none) (reply : ObservedOutputOutcome × Nat → Result) :
    EndsOn hold (LeavesCost settlement hold)
      ((captureManagedVeniceObservedOutput request).bind fun outcome => .ret (reply outcome))
      .untouched := by
  apply keeps_bind _ (observed_leaves_cost request noPrice)
  intro _ _ leaves
  exact leaves

theorem trail_usage_leaves_cost {item : ItemMetadata}
    (isReported : settlement.reported = some request) (usageCost : item.usageCostMicroUsd =
      managedVeniceUsageCostMicroUsd request.book request.model request.endpoint request.usage)
    (noCharge : item.chargeMicroUsd = none) (reply : Outcome)
    {handler : SettlementError → Settlement Outcome}
    (files : ∀ failure, Files hold request.userId item (handler failure)) :
    EndsOn hold (LeavesCost settlement hold)
      (Script.handle ((captureManagedVeniceChatUsage request).bind fun _ => .ret reply) handler)
      .untouched := by
  apply ends_on_mono (usage_or_item reply files)
  intro _ ends
  exact usage_end_leaves_cost isReported usageCost noCharge ends

theorem trail_answer_leaves_cost {item : ItemMetadata}
    (isReported : settlement.reported = some request) (usageCost : item.usageCostMicroUsd =
      managedVeniceUsageCostMicroUsd request.book request.model request.endpoint request.usage)
    (noCharge : item.chargeMicroUsd = none) (observed : ObservedOutput) {filing : Settlement Unit}
    (files : Files hold request.userId item filing) : EndsOn hold (LeavesCost settlement hold)
      (Script.handle ((captureManagedVeniceChatUsage request).bind fun _ => .ret ())
        fun failure =>
          if failure.isMissingUsage then
            (captureManagedVeniceObservedOutput observed).bind fun _ => .ret ()
          else filing)
      .untouched := by
  have captures : (settlementTrail hold).Keeps (fun _ next => LeavesCost settlement hold next)
      (fun failure next => UsageThrown request hold failure next)
      ((captureManagedVeniceChatUsage request).bind fun _ => .ret ()) .untouched := by
    apply keeps_bind _ (trail_chat_usage request)
    intro _ next captured
    exact captured_leaves_cost captured
  apply keeps_handle captures
  intro failure trail thrown
  cases missing : failure.isMissingUsage with
  | false =>
    rw [if_neg Bool.false_ne_true]
    apply ends_on_mono (files trail)
    intro next filed
    exact usage_end_leaves_cost isReported usageCost noCharge (usage_end_of_filing thrown filed)
  | true =>
    rw [if_pos rfl]
    obtain ⟨reason, isVenice⟩ := missing_usage_is_venice missing
    cases thrown with
    | unpriced _ isFailure =>
      exact trail_output_leaves_cost observed (not_priced isReported isFailure) fun _ => ()
    | uncaptured _ _ _ notVenice => exact absurd isVenice (notVenice reason)
    | unnamed _ _ _ notVenice _ => exact absurd isVenice (notVenice reason)
    | after _ captured =>
      apply ends_on_mono (trail_ended (usage_captured_ended captured) _)
      intro next same
      rw [same]
      exact captured_leaves_cost captured

theorem files_leave_cost {userId : String} {item : ItemMetadata} {script : Settlement Outcome}
    (files : Files hold userId item script) :
    EndsOn hold (LeavesCost settlement hold) script .untouched := by
  have leaves : ∀ next, Filing userId item .untouched next →
      LeavesCost settlement hold next := by
    intro next filing costMicroUsd metadata isNext
    obtain same | same | ⟨same, _⟩ := filing <;> (subst same; cases isNext)
  apply ends_on_mono (files .untouched)
  intro next filing
  exact leaves next filing

theorem keeps_unit {script : Settlement Outcome}
    (keeps : EndsOn hold (LeavesCost settlement hold) script .untouched) :
    EndsOn hold (LeavesCost settlement hold) (script.bind fun _ => .ret ())
      .untouched := by
  apply keeps_bind _ keeps
  intro _ _ leaves
  exact leaves

def ChatUsage.item (request : ChatUsage) (cause : String) (observedOutputTokens : Option Nat) :
    ItemMetadata :=
  { referenceId := some request.referenceId
    model := some request.model
    upstreamStatus := some request.upstreamStatus
    cause := some cause
    usageCostMicroUsd :=
      managedVeniceUsageCostMicroUsd request.book request.model .chatCompletions request.usage
    observedOutputTokens }

theorem files_capture_failure (request : ChatUsage) (reason cause : String)
    (observedOutputTokens : Option Nat) :
    Files hold request.userId (request.item cause observedOutputTokens)
      (fileCaptureFailure request reason cause observedOutputTokens) :=
  files_mark request.userId (some request.proxyKeyId) request.referenceId reason
    { request.item cause observedOutputTokens with referenceId := none } false

theorem stream_leaves_cost (stream : StreamSettlement) :
    EndsOn hold (LeavesCost (.stream stream) hold) stream.settle .untouched := by
  unfold StreamSettlement.settle
  cases reported : stream.usage with
  | some usage =>
    have isReported : (ChatSettlement.stream stream).reported =
        some (stream.request.reported .chatCompletions usage stream.surchargeEvidence) := by
      simp [ChatSettlement.reported, reported]
    exact trail_usage_leaves_cost isReported rfl rfl none fun failure =>
      files_guarded
        (files_then (files_capture_failure _ stream.captureFailed "settlement_failed"
          (some stream.observedOutputTokens)) fun _ => some failure)
        fun _ => some failure
  | none =>
    apply trail_output_leaves_cost
    simp [ChatSettlement.priced, ChatSettlement.reported, reported]

theorem worker_leaves_cost (worker : WorkerSettlement) :
    EndsOn hold (LeavesCost (.worker worker) hold) worker.settle .untouched := by
  unfold WorkerSettlement.settle
  cases reported : worker.usage with
  | some usage =>
    have isReported : (ChatSettlement.worker worker).reported =
        some (worker.request.reported .chatCompletions usage worker.surchargeEvidence) := by
      simp [ChatSettlement.reported, reported]
    have settles : EndsOn hold (LeavesCost (.worker worker) hold)
        (settleManagedVeniceChatUsage
          (worker.request.reported .chatCompletions usage worker.surchargeEvidence)
          worker.causeText worker.observedOutputTokens) .untouched :=
      trail_usage_leaves_cost isReported rfl rfl (true, false) fun _ =>
        files_then (files_capture_failure _ "managed_venice_stream_settlement_failed"
          worker.causeText worker.observedOutputTokens) fun _ => (false, true)
    apply keeps_bind _ settles
    intro _ _ leaves
    exact leaves
  | none =>
    have noPrice : (ChatSettlement.worker worker).priced = none := by
      simp [ChatSettlement.priced, ChatSettlement.reported, reported]
    cases worker.observedOutputTokens with
    | some observedOutputTokens =>
      apply keeps_bind _ (observed_leaves_cost _ noPrice)
      intro observed next leaves
      split <;> exact leaves
    | none =>
      exact files_leave_cost (files_then (files_mark _ _ _ _ _ _) fun _ => some (false, true))

theorem chat_answer_leaves_cost (request : SettledRequest) (usage : Json)
    (surchargeEvidence : Option SurchargeEvidence) (observedOutputTokens : Nat) : EndsOn hold
      (LeavesCost (.chatAnswer request usage surchargeEvidence observedOutputTokens) hold)
      (settleChatAnswer request usage surchargeEvidence observedOutputTokens) .untouched :=
  trail_answer_leaves_cost rfl rfl rfl _
    (files_then
      (files_mark request.userId (some request.proxyKeyId) request.referenceId
        "managed_venice_stream_settlement_failed"
        { model := some request.model
          upstreamStatus := some request.upstreamStatus
          cause := some "settlement_failed"
          usageCostMicroUsd :=
            managedVeniceUsageCostMicroUsd request.book request.model .chatCompletions usage }
        false)
      fun _ => ())

theorem anthropic_answer_leaves_cost (request : SettledRequest) (usage : Json)
    (observedOutputTokens : Nat) :
    EndsOn hold (LeavesCost (.anthropicAnswer request usage observedOutputTokens) hold)
      (settleAnthropicAnswer request usage observedOutputTokens) .untouched :=
  trail_answer_leaves_cost rfl rfl rfl _
    (files_guarded
      (files_then
        (files_mark request.userId (some request.proxyKeyId) request.referenceId
          "managed_venice_anthropic_capture_failed"
          { model := some request.model
            usageCostMicroUsd :=
              managedVeniceUsageCostMicroUsd request.book request.model .chatCompletions usage }
          false)
        fun _ => ())
      fun _ => ())

theorem files_reconcile_responses (request : SettledRequest) (metadata : ItemMetadata) :
    Files hold request.userId
      { metadata with model := some request.model, referenceId := some request.referenceId }
      (reconcileResponses request metadata) :=
  files_guarded
    (files_then
      (files_mark request.userId (some request.proxyKeyId) request.referenceId
        responsesReconciliationReason { metadata with model := some request.model } false)
      fun _ => ())
    fun _ => ()

theorem responses_leaves_cost (request : SettledRequest) (usage : Option Json) (cause : String)
    (observedOutputTokens : Nat) :
    EndsOn hold (LeavesCost (.responses request usage cause observedOutputTokens) hold)
      (finishResponses request usage cause observedOutputTokens) .untouched := by
  unfold finishResponses
  cases usage with
  | some usage =>
    exact trail_usage_leaves_cost rfl rfl rfl () fun _ => files_reconcile_responses request _
  | none =>
    dsimp only
    split
    · exact files_leave_cost (files_reconcile_responses request _)
    · exact trail_output_leaves_cost _ rfl fun _ => ()

/-- Whatever the statements answer, the item of a chat settlement says of the cost that was not
captured what the usage came to, or how much output there was. -/
theorem settlement_leaves_cost (settlement : ChatSettlement) :
    EndsOn hold (LeavesCost settlement hold) settlement.script .untouched := by
  cases settlement with
  | stream settlement => exact keeps_unit (stream_leaves_cost settlement)
  | worker settlement => exact keeps_unit (worker_leaves_cost settlement)
  | chatAnswer request usage surchargeEvidence observedOutputTokens =>
    exact chat_answer_leaves_cost request usage surchargeEvidence observedOutputTokens
  | anthropicAnswer request usage observedOutputTokens =>
    exact anthropic_answer_leaves_cost request usage observedOutputTokens
  | responses request usage cause observedOutputTokens =>
    exact responses_leaves_cost request usage cause observedOutputTokens

end Hivra.ManagedVenice
