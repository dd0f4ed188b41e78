import Hivra.Library.Undisturbed
import Hivra.StripeSubscriptions.BillingScripts

/-!
# What one handler leaves

A handler that runs alone, its database calls succeeding and each endpoint of Stripe up or down
while it runs, leaves a store that is said here once for every handler: which rows and instances
it writes, and under which conditions on the event and on the store before it.
-/

namespace Hivra.StripeSubscriptions

open Hivra.Library

/-! ## Runs alone -/

inductive StripeEndpoint
  | customers
  | list
  | retrieve
  | cancel
  | invoices
  | refunds

def BillingCall.endpoint : BillingCall → Option StripeEndpoint
  | .retrieveCustomer _ => some .customers
  | .listActive _ => some .list
  | .retrieve _ => some .retrieve
  | .cancel _ => some .cancel
  | .retrieveInvoice _ => some .invoices
  | .refund _ _ => some .refunds
  | _ => none

abbrev Outage : Type := StripeEndpoint → Bool

def answerBilling (outage : Outage) (call : BillingCall) (store : BillingStore) :
    BillingStore × call.Reply :=
  performBilling call { fails := call.endpoint.any outage } store

def handled (config : BillingConfig) (outage : Outage) (event : StripeEvent)
    (store : BillingStore) : BillingStore :=
  ((event.handler config).played (answerBilling outage) store).1

structure SameBilling (before after : BillingStore) : Prop where
  rows : after.rows = before.rows
  instances : after.instances = before.instances

theorem same_refl (store : BillingStore) : SameBilling store store := ⟨rfl, rfl⟩

variable {config : BillingConfig} {outage : Outage} {store : BillingStore}
variable {userId : UserId} {subscription : StripeSubscription}

/-! ## Refunds -/

theorem same_trans {middle last : BillingStore} (first : SameBilling store middle)
    (second : SameBilling middle last) : SameBilling store last :=
  ⟨second.rows.trans first.rows, second.instances.trans first.instances⟩

variable (outage store) in
theorem stripe_same (call : BillingCall) (atStripe : call.endpoint.isSome = true) :
    SameBilling store (answerBilling outage call store).1 := by
  cases call with
  | retrieveCustomer | listActive | retrieve | retrieveInvoice => exact same_refl store
  | cancel id =>
    simp only [answerBilling, performBilling]
    split
    · exact same_refl store
    · exact ⟨rfl, rfl⟩
  | refund id intent =>
    simp only [answerBilling, performBilling, BillingStore.recordRefund]
    split
    · exact same_refl store
    · split
      · exact same_refl store
      · exact ⟨rfl, rfl⟩
  | _ => cases atStripe

variable (outage store) in
theorem refund_same (subscription : StripeSubscription) : SameBilling store
      ((refundDuplicateSubscriptionCharge subscription).played (answerBilling outage) store).1 := by
  unfold refundDuplicateSubscriptionCharge
  cases subscription.latestInvoice with
  | none => exact same_refl store
  | some invoice =>
    have asked := stripe_same outage store (.retrieveInvoice invoice) rfl
    simp only [Script.bind_eq, Script.played_bind, Script.played_request]
    generalize answerBilling outage (.retrieveInvoice invoice) store = answer at asked ⊢
    obtain ⟨later, retrieved⟩ := answer
    cases retrieved with
    | none => exact asked
    | some intent =>
      cases intent with
      | none => exact asked
      | some intent => exact same_trans asked (stripe_same outage _ (.refund subscription.id intent) rfl)

variable (outage store) in
theorem ensureRefund_same (subscription : StripeSubscription) :
    SameBilling store ((ensureRefund subscription).played (answerBilling outage) store).1 ∧
      ((ensureRefund subscription).played (answerBilling outage) store).2 = .ok () := by
  have same := refund_same outage store subscription
  unfold ensureRefund
  rw [Script.played_handle]
  generalize (refundDuplicateSubscriptionCharge subscription).played (answerBilling outage)
    store = ended at same ⊢
  obtain ⟨later, ending⟩ := ended
  cases ending with
  | ok outcome => exact ⟨same, rfl⟩
  | error failure => exact ⟨same, rfl⟩

variable (outage store) in
theorem cancelDuplicate_same (subscription : StripeSubscription) :
    SameBilling store ((cancelDuplicate subscription).played (answerBilling outage) store).1 ∧
      ((cancelDuplicate subscription).played (answerBilling outage) store).2 = .ok () := by
  unfold cancelDuplicate
  rw [Script.played_handle]
  simp only [Script.bind_eq, Script.played_bind, Script.played_request]
  have kept := stripe_same outage store (.cancel subscription.id) rfl
  generalize answerBilling outage (.cancel subscription.id) store = answer at kept ⊢
  obtain ⟨later, canceled⟩ := answer
  cases canceled with
  | false => exact ⟨kept, rfl⟩
  | true =>
    have same := refund_same outage later subscription
    simp only [if_true]
    generalize (refundDuplicateSubscriptionCharge subscription).played (answerBilling outage)
      later = ended at same ⊢
    obtain ⟨last, ending⟩ := ended
    cases ending with
    | ok outcome => exact ⟨same_trans kept same, rfl⟩
    | error failure => exact ⟨same_trans kept same, rfl⟩

/-! ## The check of an active subscription -/

def EndedLive (outage : Outage) (store : BillingStore) (id : SubscriptionId) : Prop :=
  outage .retrieve = false ∧
    (store.account.find id).any (fun live => live.status.terminal) = true

instance (outage : Outage) (store : BillingStore) (id : SubscriptionId) :
    Decidable (EndedLive outage store id) :=
  inferInstanceAs (Decidable (_ ∧ _))

def ActiveProceeds (outage : Outage) (store : BillingStore) (userId : UserId)
    (subscription : StripeSubscription) : Prop :=
  outage .list = false ∧
    survivorOf userId subscription.id (store.account.listActive subscription.customer) = none ∧
    (((store.account.listActive subscription.customer).any
        fun other => other.id = subscription.id) = true ∨
      ¬EndedLive outage store subscription.id)

theorem confirmLive_proceeds (alive : ¬EndedLive outage store subscription.id) :
    (confirmLive subscription).played (answerBilling outage) store = (store, .ok true) := by
  unfold confirmLive
  cases retrieve : outage .retrieve with
  | true => simp [answerBilling, performBilling, BillingCall.endpoint, retrieve]
  | false =>
    cases found : store.account.find subscription.id with
    | none => simp [answerBilling, performBilling, BillingCall.endpoint, retrieve, found]
    | some live =>
      have open_ : live.status.terminal = false := by
        simpa [EndedLive, retrieve, found] using alive
      simp [answerBilling, performBilling, BillingCall.endpoint, retrieve, found, open_]

theorem confirmLive_ends (ended : EndedLive outage store subscription.id) :
    SameBilling store ((confirmLive subscription).played (answerBilling outage) store).1 ∧
      ((confirmLive subscription).played (answerBilling outage) store).2 = .ok false := by
  have ⟨retrieve, terminal⟩ := ended
  cases found : store.account.find subscription.id with
  | none => simp [found] at terminal
  | some live =>
    have ends : live.status.terminal = true := by simpa [found] using terminal
    have refund := ensureRefund_same outage store subscription
    unfold confirmLive
    have replies : answerBilling outage (.retrieve subscription.id) store =
        (store, some live) := by
      simp [answerBilling, performBilling, BillingCall.endpoint, retrieve, found]
    simp only [Script.bind_eq, Script.played_bind, Script.played_request, replies, ends, if_true]
    generalize (ensureRefund subscription).played (answerBilling outage) store = ended at refund ⊢
    obtain ⟨later, ending⟩ := ended
    have ending : ending = .ok () := refund.2
    subst ending
    exact ⟨refund.1, rfl⟩

theorem resolveDuplicate_stops (subscription survivor : StripeSubscription) : SameBilling store
        ((resolveDuplicate userId subscription survivor).played (answerBilling outage) store).1 ∧
      ((resolveDuplicate userId subscription survivor).played (answerBilling outage) store).2 ≠
        .ok true := by
  unfold resolveDuplicate
  simp only [Script.bind_eq, Script.played_bind, Script.played_request]
  have replies : (answerBilling outage (.findSurvivor userId survivor.id) store).1 = store := rfl
  generalize answerBilling outage (.findSurvivor userId survivor.id) store = answer at replies ⊢
  obtain ⟨later, present⟩ := answer
  have replies : later = store := replies
  subst replies
  cases present with
  | false => exact ⟨same_refl later, by simp⟩
  | true =>
    have canceled := cancelDuplicate_same outage later subscription
    simp only [if_true, Script.played_bind]
    generalize (cancelDuplicate subscription).played (answerBilling outage) later = ended
      at canceled ⊢
    obtain ⟨last, ending⟩ := ended
    have ending : ending = .ok () := canceled.2
    subst ending
    exact ⟨canceled.1, by simp⟩

theorem checkActive_proceeds (proceeds : ActiveProceeds outage store userId subscription) :
    (checkActive userId subscription).played (answerBilling outage) store =
      (store, .ok true) := by
  have ⟨list, single, listed⟩ := proceeds
  unfold checkActive
  simp only [Script.bind_eq, Script.played_bind, Script.played_request, answerBilling,
    performBilling, BillingCall.endpoint, Option.any_some, list, Bool.false_eq_true, if_false,
    single]
  split
  · rfl
  · rename_i unlisted
    exact confirmLive_proceeds (listed.resolve_left unlisted)

theorem checkActive_stops (stops : ¬ActiveProceeds outage store userId subscription) :
    SameBilling store
        ((checkActive userId subscription).played (answerBilling outage) store).1 ∧
      ((checkActive userId subscription).played (answerBilling outage) store).2 ≠ .ok true := by
  unfold checkActive
  simp only [Script.bind_eq, Script.played_bind, Script.played_request]
  cases list : outage .list with
  | true =>
    have replies : answerBilling outage (.listActive subscription) store =
        (store, none) := by
      simp [answerBilling, performBilling, BillingCall.endpoint, list]
    rw [replies]
    exact ⟨same_refl store, by simp⟩
  | false =>
    have replies : answerBilling outage (.listActive subscription) store =
        (store, some (store.account.listActive subscription.customer)) := by
      simp [answerBilling, performBilling, BillingCall.endpoint, list]
    rw [replies]
    cases found :
        survivorOf userId subscription.id (store.account.listActive subscription.customer) with
    | some survivor =>
      simp only [found]
      exact resolveDuplicate_stops subscription survivor
    | none =>
      have ended : EndedLive outage store subscription.id := by
        by_contra alive
        exact stops ⟨list, found, .inr alive⟩
      by_cases listed : ((store.account.listActive subscription.customer).any
          fun other => other.id = subscription.id) = true
      · exact absurd ⟨list, found, .inl listed⟩ stops
      · have ⟨same, outcome⟩ := confirmLive_ends ended
        simp only [found, if_neg listed]
        exact ⟨same, by simp [outcome]⟩

/-! ## Instances -/

def BillingStore.resumed (store : BillingStore) (userId : UserId) : BillingStore :=
  (store.updateInstances (fun one => one.restorable userId) Instance.restore).updateInstances
    (fun one => one.resumable userId) Instance.resume

def BillingStore.lapsed (store : BillingStore) (config : BillingConfig) (userId : UserId)
    (reason : EntitlementReason) : BillingStore :=
  if store.otherLane userId then store
  else if config.legacyHardDelete then
    store.updateInstances (fun one => one.schedulable userId) Instance.schedule
  else store.updateInstances (fun one => one.suspendable userId) (Instance.suspend reason)

theorem resumeInstances_played : (resumeInstances userId).played (answerBilling outage) store =
      (store.resumed userId, .ok ()) := by
  simp [resumeInstances, answerBilling, performBilling, BillingCall.endpoint, BillingStore.resumed]

theorem lapseInstances_played (reason : EntitlementReason) :
    (lapseInstances config userId reason).played (answerBilling outage) store =
      (store.lapsed config userId reason, .ok ()) := by
  unfold lapseInstances BillingStore.lapsed
  cases other : store.otherLane userId with
  | true => simp [answerBilling, performBilling, BillingCall.endpoint, other]
  | false =>
    cases legacy : config.legacyHardDelete with
    | true => simp [answerBilling, performBilling, BillingCall.endpoint, other]
    | false => simp [answerBilling, performBilling, BillingCall.endpoint, other]

/-! ## Changes of a subscription -/

def BillingStore.applied (store : BillingStore) (config : BillingConfig) (userId : UserId)
    (planKey : PlanKey) (plan : Plan) (subscription : StripeSubscription) : BillingStore :=
  let resumed := if subscription.status = .active then store.resumed userId else store
  let lapsed :=
    if subscription.status.lapsed then
      resumed.lapsed config userId subscription.status.lapseReason
    else resumed
  lapsed.upsert userId subscription.id planKey subscription.status.nextStatus plan.maxAgents

theorem applySubscription_played (planKey : PlanKey) (plan : Plan) :
    (applySubscription config userId planKey plan subscription).played (answerBilling outage)
        store =
      (store.applied config userId planKey plan subscription, .ok ()) := by
  unfold applySubscription writeSubscription BillingStore.applied
  by_cases active : subscription.status = .active
  · simp [active, resumeInstances_played, StripeStatus.lapsed, answerBilling, performBilling,
      BillingCall.endpoint]
  · by_cases lapsed : subscription.status.lapsed = true
    · simp [active, lapsed, lapseInstances_played, answerBilling, performBilling,
        BillingCall.endpoint]
    · simp [active, lapsed, answerBilling, performBilling, BillingCall.endpoint]

def Heard (config : BillingConfig) (outage : Outage) (store : BillingStore)
    (subscription : StripeSubscription) (userId : UserId) (planKey : PlanKey) (plan : Plan) :
    Prop :=
  subscription.userId = some userId ∧ config.planOf subscription = some (planKey, plan) ∧
    plan.mismatches subscription = false ∧
    (outage .customers = false → (store.account.customers subscription.customer).all
      (fun customer => customer.accepts userId) = true)

def Proceeds (outage : Outage) (store : BillingStore) (userId : UserId)
    (subscription : StripeSubscription) : Prop :=
  subscription.status = .active → ActiveProceeds outage store userId subscription

theorem crossCheckCustomer_played :
    (crossCheckCustomer userId subscription).played (answerBilling outage) store =
      (store, .ok (outage .customers || (store.account.customers subscription.customer).all
        fun customer => customer.accepts userId)) := by
  unfold crossCheckCustomer
  cases down : outage .customers with
  | true => simp [answerBilling, performBilling, BillingCall.endpoint, down]
  | false => simp [answerBilling, performBilling, BillingCall.endpoint, down]

theorem change_applied {planKey : PlanKey} {plan : Plan}
    (heard : Heard config outage store subscription userId planKey plan)
    (proceeds : Proceeds outage store userId subscription) :
    ((handleSubscriptionChange config subscription).played (answerBilling outage) store).1 =
      store.applied config userId planKey plan subscription := by
  have ⟨isUser, isPlan, priced, customer⟩ := heard
  have accepted : (outage .customers || (store.account.customers subscription.customer).all
      fun customer => customer.accepts userId) = true := by
    cases down : outage .customers with
    | true => rfl
    | false => simpa using customer down
  unfold handleSubscriptionChange
  simp only [isUser, isPlan, priced, Bool.false_eq_true, if_false, Script.bind_eq,
    Script.played_bind, crossCheckCustomer_played, accepted, if_true]
  by_cases active : subscription.status = .active
  · simp only [if_pos active, Script.played_bind, checkActive_proceeds (proceeds active), if_true,
      applySubscription_played]
  · simp only [if_neg active, Script.pure_eq_ret, Script.bind_ret, if_true,
      applySubscription_played]

theorem change_same (ignored : ∀ userId planKey plan,
      Heard config outage store subscription userId planKey plan →
        ¬Proceeds outage store userId subscription) :
    SameBilling store
      ((handleSubscriptionChange config subscription).played (answerBilling outage) store).1 := by
  unfold handleSubscriptionChange
  split
  · rename_i userId planKey plan isUser isPlan
    cases priced : plan.mismatches subscription with
    | true => exact same_refl store
    | false =>
      simp only [Bool.false_eq_true, if_false, Script.bind_eq, Script.played_bind,
        crossCheckCustomer_played]
      cases accepted : (outage .customers ||
          (store.account.customers subscription.customer).all
            fun customer => customer.accepts userId) with
      | false => exact same_refl store
      | true =>
        have heard : Heard config outage store subscription userId planKey plan := by
          have customer : outage .customers = false →
              (store.account.customers subscription.customer).all
                (fun customer => customer.accepts userId) = true := by
            intro up
            simpa [up] using accepted
          exact ⟨isUser, isPlan, priced, customer⟩
        have stops := ignored userId planKey plan heard
        have active : subscription.status = .active := by
          by_contra inactive
          exact stops fun active => absurd active inactive
        have ⟨same, outcome⟩ := checkActive_stops fun proceeds => stops fun _ => proceeds
        simp only [if_true, if_pos active, Script.played_bind]
        generalize (checkActive userId subscription).played (answerBilling outage) store =
          ended at same outcome ⊢
        obtain ⟨later, ending⟩ := ended
        cases ending with
        | error failure => exact same
        | ok goes =>
          cases goes with
          | false => exact same
          | true => exact absurd rfl outcome
  · exact same_refl store

/-! ## Bound rows -/

variable {id : SubscriptionId}

theorem updateBound_some {row : BillingRow} {selected : BillingRow → Bool}
    (bound : store.boundRow userId id = some row) (isSelected : selected row = true)
    (change : BillingRow → BillingRow) :
    store.updateBound userId id selected change = (store.writeRow userId (change row), 1) := by
  simp [BillingStore.updateBound, bound, Option.filter_some, isSelected]

theorem updateBound_none (unbound : store.boundRow userId id = none)
    (selected : BillingRow → Bool) (change : BillingRow → BillingRow) :
    store.updateBound userId id selected change = (store, 0) := by
  simp [BillingStore.updateBound, unbound]

theorem boundRow_some {row : BillingRow} : store.boundRow userId id = some row ↔
      store.rows userId = some row ∧ row.stripeSubscriptionId = some id := by
  simp [BillingStore.boundRow, Option.filter_eq_some_iff]

/-! ## Deletions -/

def BillingStore.deletedOf (store : BillingStore) (config : BillingConfig) (userId : UserId)
    (id : SubscriptionId) : BillingStore :=
  match store.rows userId with
  | none => store.lapsed config userId .subscriptionCanceled
  | some row =>
    if row.stripeSubscriptionId = some id then
      (store.writeRow userId { row with status := .canceled, instanceLimit := 0 }).lapsed config
        userId .subscriptionCanceled
    else store

theorem deleted_played (isUser : subscription.userId = some userId) :
    ((handleSubscriptionDeleted config subscription).played (answerBilling outage) store).1 =
      store.deletedOf config userId subscription.id := by
  unfold handleSubscriptionDeleted endSubscription BillingStore.deletedOf
  cases stored : store.rows userId with
  | none =>
    have unbound : store.boundRow userId subscription.id = none := by
      simp [BillingStore.boundRow, stored]
    simp [isUser, answerBilling, performBilling, BillingCall.endpoint, stored,
      updateBound_none unbound, lapseInstances_played]
  | some row =>
    by_cases isBound : row.stripeSubscriptionId = some subscription.id
    · have bound := boundRow_some.mpr ⟨stored, isBound⟩
      simp [isUser, answerBilling, performBilling, BillingCall.endpoint, stored, isBound,
        updateBound_some bound, lapseInstances_played]
    · simp [isUser, answerBilling, performBilling, BillingCall.endpoint, stored, isBound]

/-! ## Invoices -/

/-- The subscription of the invoice is retrieved, and is a Hivra subscription of the user. -/
structure InvoiceOf (outage : Outage) (store : BillingStore) (id : SubscriptionId)
    (live : StripeSubscription) (userId : UserId) : Prop where
  up : outage .retrieve = false
  found : store.account.find id = some live
  hivra : live.workspaceCloud = false
  isUser : live.userId = some userId

def BillingStore.paidOf (store : BillingStore) (config : BillingConfig) (userId : UserId)
    (live : StripeSubscription) (id : SubscriptionId) : BillingStore :=
  match store.boundRow userId id with
  | none => store
  | some row =>
    if live.status.terminal ∨ row.planDiffers config live then store
    else
      (store.writeRow userId
        { row with status := .active, gracePeriodEndsAt := none }).resumed userId

def BillingStore.failedOf (store : BillingStore) (config : BillingConfig) (userId : UserId)
    (id : SubscriptionId) : BillingStore :=
  match store.boundRow userId id with
  | none => store
  | some row =>
    (store.writeRow userId
      { row with
        status := .pastDue
        gracePeriodEndsAt := some (row.anchor.getD (store.clock + paymentGrace)) }).lapsed config
      userId .subscriptionPastDue

variable {id : SubscriptionId} {live : StripeSubscription}

theorem boundRow_played :
    (findRowBoundToSubscription userId id).played (answerBilling outage) store =
      (store, .ok (store.boundRow userId id)) := by
  simp [findRowBoundToSubscription, answerBilling, performBilling, BillingCall.endpoint,
    BillingStore.boundRow]

theorem paid_played (invoice : InvoiceOf outage store id live userId) :
    ((handleInvoicePaid config (some id)).played (answerBilling outage) store).1 =
      store.paidOf config userId live id := by
  have ⟨up, found, hivra, isUser⟩ := invoice
  unfold handleInvoicePaid BillingStore.paidOf
  cases ended : live.status.terminal with
  | true =>
    simp [answerBilling, performBilling, BillingCall.endpoint, up, found, hivra, isUser, ended]
    cases store.boundRow userId id <;> rfl
  | false =>
    cases bound : store.boundRow userId id with
    | none =>
      simp [answerBilling, performBilling, BillingCall.endpoint, up, found, hivra, isUser,
        ended, boundRow_played, bound]
    | some row =>
      by_cases differs : row.planDiffers config live = true
      · simp [answerBilling, performBilling, BillingCall.endpoint, up, found, hivra, isUser,
          ended, boundRow_played, bound, differs]
      · simp [answerBilling, performBilling, BillingCall.endpoint, up, found, hivra, isUser,
          ended, boundRow_played, bound, differs, updateBound_some bound,
          resumeInstances_played]

theorem failed_played (invoice : InvoiceOf outage store id live userId) :
    ((handlePaymentFailed config (some id)).played (answerBilling outage) store).1 =
      if live.status.terminal then store.deletedOf config userId live.id
      else store.failedOf config userId id := by
  have ⟨up, found, hivra, isUser⟩ := invoice
  unfold handlePaymentFailed BillingStore.failedOf
  cases ended : live.status.terminal with
  | true =>
    simp [answerBilling, performBilling, BillingCall.endpoint, up, found, hivra, isUser, ended]
    exact deleted_played isUser
  | false =>
    cases bound : store.boundRow userId id with
    | none =>
      simp [answerBilling, performBilling, BillingCall.endpoint, up, found, hivra, isUser,
        ended, boundRow_played, bound]
    | some row =>
      simp [answerBilling, performBilling, BillingCall.endpoint, up, found, hivra, isUser,
        ended, boundRow_played, bound, updateBound_some bound, lapseInstances_played]

variable (config outage store) in
theorem invoice_ignored (event : Option SubscriptionId)
    (ignored : ∀ id live userId, event = some id → ¬InvoiceOf outage store id live userId) :
    ((handleInvoicePaid config event).played (answerBilling outage) store).1 = store ∧
      ((handlePaymentFailed config event).played (answerBilling outage) store).1 = store := by
  cases event with
  | none => exact ⟨rfl, rfl⟩
  | some id =>
    unfold handleInvoicePaid handlePaymentFailed
    cases up : outage .retrieve with
    | true => simp [answerBilling, performBilling, BillingCall.endpoint, up]
    | false =>
      cases found : store.account.find id with
      | none => simp [answerBilling, performBilling, BillingCall.endpoint, up, found]
      | some live =>
        cases hivra : live.workspaceCloud with
        | true =>
          simp [answerBilling, performBilling, BillingCall.endpoint, up, found, hivra]
        | false =>
          cases isUser : live.userId with
          | none =>
            simp [answerBilling, performBilling, BillingCall.endpoint, up, found, hivra,
              isUser]
          | some userId =>
            exact absurd ⟨up, found, hivra, isUser⟩ (ignored id live userId rfl)

end Hivra.StripeSubscriptions
