import Mathlib.Data.List.MinMax
import Mathlib.Data.List.Nodup
import Hivra.Library.Scripts

/-!
# The subscription handlers of the Stripe webhook

Two of the handlers are given a subscription as it was when the event was made, the other two
retrieve the one an invoice is of.  All four write the row of a user, keyed by the user, and
suspend or resume the user's instances.  Credits, resource pools, tier changes, emails, billing
periods and the conversion stamp decide nothing here and are left out.  Times are milliseconds.
-/

namespace Hivra.StripeSubscriptions

open Hivra.Library

abbrev UserId : Type := String
abbrev SubscriptionId : Type := String
abbrev CustomerId : Type := String
abbrev InvoiceId : Type := String
abbrev PaymentIntentId : Type := String
abbrev PlanKey : Type := String
abbrev PriceId : Type := String

/-! ## Stripe -/

inductive StripeStatus
  | incomplete
  | incompleteExpired
  | trialing
  | active
  | pastDue
  | canceled
  | unpaid
  | paused
  deriving DecidableEq

structure StripeSubscription where
  id : SubscriptionId
  customer : CustomerId
  /-- `user_id` of the metadata, where it is not empty. -/
  userId : Option UserId
  /-- `plan` of the metadata. -/
  plan : Option PlanKey
  /-- `isWorkspaceCloudSubscription`, which the metadata says. -/
  workspaceCloud : Bool
  status : StripeStatus
  created : Nat
  latestInvoice : Option InvoiceId
  /-- The price of its first item. -/
  priceId : Option PriceId
  deriving DecidableEq

structure StripeCustomer where
  deleted : Bool
  clerkUserId : Option UserId

structure StripeAccount where
  /-- Newest first, as Stripe lists them. -/
  subscriptions : List StripeSubscription
  customers : CustomerId → Option StripeCustomer
  /-- The payment intent of an invoice, if it has one. -/
  paymentIntents : InvoiceId → Option (Option PaymentIntentId)
  distinct : (subscriptions.map StripeSubscription.id).Nodup

def StripeAccount.find (account : StripeAccount) (id : SubscriptionId) :
    Option StripeSubscription :=
  account.subscriptions.find? fun subscription => subscription.id = id

def StripeAccount.listActive (account : StripeAccount) (customer : CustomerId) :
    List StripeSubscription :=
  (account.subscriptions.filter fun subscription =>
    subscription.customer = customer ∧ subscription.status = .active).take 10

variable {subscription : StripeSubscription} {id : SubscriptionId}

theorem find_some {account : StripeAccount} : account.find id = some subscription ↔
      subscription ∈ account.subscriptions ∧ subscription.id = id := by
  constructor
  · intro found
    exact ⟨List.mem_of_find?_eq_some found, by simpa using List.find?_some found⟩
  · intro ⟨held, isId⟩
    cases found : account.find id with
    | none =>
      have absent := List.find?_eq_none.mp found subscription held
      simp [isId] at absent
    | some first =>
      have firstHeld := List.mem_of_find?_eq_some found
      have firstId : first.id = id := by simpa using List.find?_some found
      rw [List.inj_on_of_nodup_map account.distinct firstHeld held (firstId.trans isId.symm)]

theorem listed_active {account : StripeAccount} {customer : CustomerId}
    (listed : subscription ∈ account.listActive customer) :
    subscription ∈ account.subscriptions ∧ subscription.customer = customer ∧
      subscription.status = .active := by
  have ⟨held, chosen⟩ := List.mem_filter.mp (List.mem_of_mem_take listed)
  simp only [decide_eq_true_eq] at chosen
  exact ⟨held, chosen⟩

def StripeStatus.terminal (status : StripeStatus) : Bool :=
  status == .canceled || status == .incompleteExpired

/-! ## The database -/

inductive RowStatus
  | pending
  | active
  | trialing
  | pastDue
  | canceled
  | inactive
  deriving DecidableEq

/-- A row of `hermes_subscriptions`, which is keyed by the user. -/
structure BillingRow where
  stripeSubscriptionId : Option SubscriptionId
  plan : PlanKey
  status : RowStatus
  instanceLimit : Nat
  gracePeriodEndsAt : Option Int
  deriving DecidableEq

inductive InstanceStatus
  | provisioning
  | running
  | stopped
  | failed
  | error
  | deleted
  | redeploying
  | scheduledForDeletion
  deriving DecidableEq

inductive LifecycleState
  | active
  | suspended
  | deleting
  | deleted
  /-- Pending, provisioning, paused, failed, archiving, archived or restoring. -/
  | other
  deriving DecidableEq

inductive EntitlementReason
  | subscriptionPastDue
  | subscriptionCanceled
  | subscriptionGraceExpired
  | subscriptionReactivated
  | other
  deriving DecidableEq

structure Instance where
  userId : UserId
  status : InstanceStatus
  lifecycleState : LifecycleState
  entitlementReason : Option EntitlementReason
  /-- `deleted_at` is set. -/
  deleted : Bool
  deriving DecidableEq

/-! ## Requests -/

inductive BillingCall
  /-- The customer of the subscription. -/
  | retrieveCustomer (subscription : StripeSubscription)
  /-- The active subscriptions of the subscription's customer. -/
  | listActive (subscription : StripeSubscription)
  | retrieve (id : SubscriptionId)
  | cancel (id : SubscriptionId)
  | retrieveInvoice (invoice : InvoiceId)
  /-- The idempotency key is made of the subscription's id. -/
  | refund (id : SubscriptionId) (intent : PaymentIntentId)
  | findSurvivor (userId : UserId) (id : SubscriptionId)
  | readRow (userId : UserId)
  | upsertRow (userId : UserId) (id : SubscriptionId) (plan : PlanKey) (status : RowStatus)
      (instanceLimit : Nat)
  | cancelRow (userId : UserId) (id : SubscriptionId)
  | activateRow (userId : UserId) (id : SubscriptionId) (plan : PlanKey)
  | markPastDue (userId : UserId) (id : SubscriptionId) (gracePeriodEnd : Int)
  /-- The lookup of `findOtherLaneEntitlement`. -/
  | readOtherLane (userId : UserId)
  | restoreScheduledDeletions (userId : UserId)
  | resumeBillingSuspendedInstances (userId : UserId)
  | scheduleInstancesForDeletion (userId : UserId)
  | suspendInstancesForBilling (userId : UserId) (reason : EntitlementReason)
  | readClock

/-- The outer `none` of a reply, and the `false` of a write, are errors.  The survivor is not
there where the read fails. -/
@[reducible]
def BillingCall.Reply : BillingCall → Type
  | .retrieveCustomer _ => Option StripeCustomer
  | .listActive _ => Option (List StripeSubscription)
  | .retrieve _ => Option StripeSubscription
  | .cancel _ => Bool
  | .retrieveInvoice _ => Option (Option PaymentIntentId)
  | .refund _ _ => Bool
  | .findSurvivor _ _ => Bool
  | .readRow _ => Option (Option BillingRow)
  | .upsertRow _ _ _ _ _ => Bool
  | .cancelRow _ _ => Option Nat
  | .activateRow _ _ _ => Option Nat
  | .markPastDue _ _ _ => Bool
  | .readOtherLane _ => Option Bool
  | .restoreScheduledDeletions _ => Unit
  | .resumeBillingSuspendedInstances _ => Unit
  | .scheduleInstancesForDeletion _ => Unit
  | .suspendInstancesForBilling _ _ => Unit
  | .readClock => Int

abbrev BillingScript (Outcome : Type) : Type :=
  Script BillingCall BillingCall.Reply String Outcome

/-! ## Configuration -/

structure Plan where
  maxAgents : Nat
  /-- `getConfiguredStripePriceIds`. -/
  priceIds : List PriceId

structure BillingConfig where
  plans : PlanKey → Option Plan
  /-- `isBillingLegacyHardDelete`. -/
  legacyHardDelete : Bool

def paymentGraceHours : Int := 48

def paymentGrace : Int := paymentGraceHours * 60 * 60 * 1000

def Plan.mismatches (plan : Plan) (subscription : StripeSubscription) : Bool :=
  subscription.priceId.any fun price =>
    !plan.priceIds.isEmpty && !plan.priceIds.contains price

def BillingConfig.planOf (config : BillingConfig) (subscription : StripeSubscription) :
    Option (PlanKey × Plan) :=
  subscription.plan.bind fun key => (config.plans key).map fun plan => (key, plan)

/-! ## Duplicates -/

def refundDuplicateSubscriptionCharge (subscription : StripeSubscription) : BillingScript Unit :=
  match subscription.latestInvoice with
  | none => pure ()
  | some invoice => do
    let retrieved : Option (Option PaymentIntentId) ←
      Script.request (BillingCall.retrieveInvoice invoice)
    match retrieved with
    | none => throw "invoice could not be retrieved"
    | some none => pure ()
    | some (some intent) => do
      let _refunded : Bool ← Script.request (BillingCall.refund subscription.id intent)
      pure ()

def ensureRefund (subscription : StripeSubscription) : BillingScript Unit :=
  (refundDuplicateSubscriptionCharge subscription).handle fun _ => .ret ()

def cancelDuplicate (subscription : StripeSubscription) : BillingScript Unit :=
  Script.handle
    (do
      let canceled : Bool ← Script.request (BillingCall.cancel subscription.id)
      if canceled then refundDuplicateSubscriptionCharge subscription
      else throw "subscription could not be canceled")
    fun _ => .ret ()

def hermesSubs (userId : UserId) (activeSubs : List StripeSubscription) : List StripeSubscription :=
  activeSubs.filter fun subscription =>
    subscription.userId = some userId ∧ subscription.workspaceCloud = false

def survivorOf (userId : UserId) (id : SubscriptionId) (activeSubs : List StripeSubscription) :
    Option StripeSubscription :=
  if 1 < (hermesSubs userId activeSubs).length then
    ((hermesSubs userId activeSubs).argmin StripeSubscription.created).filter
      fun oldest => oldest.id ≠ id
  else none

def confirmLive (subscription : StripeSubscription) : BillingScript Bool := do
  let live : Option StripeSubscription ← Script.request (BillingCall.retrieve subscription.id)
  match live with
  | none => pure true
  | some live =>
    if live.status.terminal then do
      ensureRefund subscription
      pure false
    else pure true

def resolveDuplicate (userId : UserId) (subscription survivor : StripeSubscription) :
    BillingScript Bool := do
  let present : Bool ← Script.request (BillingCall.findSurvivor userId survivor.id)
  if present then do
    cancelDuplicate subscription
    pure false
  else throw "survivor subscription row not yet present"

def checkActive (userId : UserId) (subscription : StripeSubscription) : BillingScript Bool := do
  let listed : Option (List StripeSubscription) ←
    Script.request (BillingCall.listActive subscription)
  match listed with
  | none => throw "active subscriptions could not be listed"
  | some activeSubs =>
    match survivorOf userId subscription.id activeSubs with
    | some survivor => resolveDuplicate userId subscription survivor
    | none =>
      if (activeSubs.any fun other => other.id = subscription.id) = true then pure true
      else confirmLive subscription

/-! ## Instances -/

def resumeInstances (userId : UserId) : BillingScript Unit := do
  let _restored : Unit ← Script.request (BillingCall.restoreScheduledDeletions userId)
  let _resumed : Unit ← Script.request (BillingCall.resumeBillingSuspendedInstances userId)
  pure ()

def lapseInstances (config : BillingConfig) (userId : UserId) (reason : EntitlementReason) :
    BillingScript Unit := do
  let other : Option Bool ← Script.request (BillingCall.readOtherLane userId)
  match other with
  | none => throw "stripe lapse entitlement cross-check failed"
  | some true => pure ()
  | some false =>
    if config.legacyHardDelete then do
      let _scheduled : Unit ← Script.request (BillingCall.scheduleInstancesForDeletion userId)
      pure ()
    else do
      let _suspended : Unit ←
        Script.request (BillingCall.suspendInstancesForBilling userId reason)
      pure ()

/-! ## `handleSubscriptionChange` -/

def StripeCustomer.accepts (customer : StripeCustomer) (userId : UserId) : Bool :=
  !customer.deleted && customer.clerkUserId.all fun clerkUserId => clerkUserId == userId

def crossCheckCustomer (userId : UserId) (subscription : StripeSubscription) :
    BillingScript Bool := do
  let customer : Option StripeCustomer ←
    Script.request (BillingCall.retrieveCustomer subscription)
  pure (customer.all fun customer => customer.accepts userId)

def StripeStatus.lapsed (status : StripeStatus) : Bool :=
  status == .pastDue || status == .canceled || status == .unpaid

def StripeStatus.lapseReason (status : StripeStatus) : EntitlementReason :=
  if status = .canceled then .subscriptionCanceled else .subscriptionPastDue

def StripeStatus.nextStatus : StripeStatus → RowStatus
  | .active => .active
  | .trialing => .active
  | .pastDue => .pastDue
  | .incomplete => .pending
  | _ => .inactive

def writeSubscription (userId : UserId) (planKey : PlanKey) (plan : Plan)
    (subscription : StripeSubscription) : BillingScript Unit := do
  let _upserted : Bool ← Script.request (BillingCall.upsertRow userId subscription.id planKey
    subscription.status.nextStatus plan.maxAgents)
  pure ()

def applySubscription (config : BillingConfig) (userId : UserId) (planKey : PlanKey) (plan : Plan)
    (subscription : StripeSubscription) : BillingScript Unit := do
  let _resumed : Unit ←
    if subscription.status = .active then resumeInstances userId else pure ()
  let _lapsed : Unit ←
    if subscription.status.lapsed then
      lapseInstances config userId subscription.status.lapseReason
    else pure ()
  writeSubscription userId planKey plan subscription

def handleSubscriptionChange (config : BillingConfig) (subscription : StripeSubscription) :
    BillingScript Unit :=
  match subscription.userId, config.planOf subscription with
  | some userId, some (planKey, plan) =>
    if plan.mismatches subscription then pure ()
    else do
      let accepted ← crossCheckCustomer userId subscription
      if accepted then do
        let proceeds ←
          if subscription.status = .active then checkActive userId subscription else pure true
        if proceeds then applySubscription config userId planKey plan subscription
        else pure ()
      else pure ()
  | _, _ => pure ()

/-! ## `handleSubscriptionDeleted` -/

def endSubscription (config : BillingConfig) (userId : UserId) (id : SubscriptionId)
    (currentSub : Option BillingRow) : BillingScript Unit := do
  let canceled : Option Nat ← Script.request (BillingCall.cancelRow userId id)
  match canceled with
  | none => throw "failed to cancel hermes_subscriptions for subscription.deleted"
  | some count =>
    if currentSub.isSome ∧ count = 0 then pure ()
    else lapseInstances config userId .subscriptionCanceled

def handleSubscriptionDeleted (config : BillingConfig) (subscription : StripeSubscription) :
    BillingScript Unit :=
  match subscription.userId with
  | none => pure ()
  | some userId => do
    let read : Option (Option BillingRow) ← Script.request (BillingCall.readRow userId)
    -- The error of the read is not looked at.
    let currentSub : Option BillingRow := read.getD none
    if (currentSub.any fun row => row.stripeSubscriptionId ≠ some subscription.id) = true then
      pure ()
    else endSubscription config userId subscription.id currentSub

/-! ## The invoice handlers -/

def findRowBoundToSubscription (userId : UserId) (id : SubscriptionId) :
    BillingScript (Option BillingRow) := do
  let read : Option (Option BillingRow) ← Script.request (BillingCall.readRow userId)
  match read with
  | none => throw "failed to read hermes_subscriptions for invoice event"
  | some row => pure (row.filter fun row => row.stripeSubscriptionId = some id)

def BillingRow.planDiffers (row : BillingRow) (config : BillingConfig)
    (subscription : StripeSubscription) : Bool :=
  (config.planOf subscription).any fun named => named.1 != row.plan

def handleInvoicePaid (config : BillingConfig) (invoiceSubscription : Option SubscriptionId) :
    BillingScript Unit :=
  match invoiceSubscription with
  | none => pure ()
  | some id => do
    let retrieved : Option StripeSubscription ← Script.request (BillingCall.retrieve id)
    match retrieved with
    | none => throw "subscription could not be retrieved"
    | some subscription =>
      if subscription.workspaceCloud then pure ()
      else
        match subscription.userId with
        | none => pure ()
        | some userId =>
          if subscription.status.terminal then pure ()
          else do
            let boundRow ← findRowBoundToSubscription userId id
            match boundRow with
            | none => pure ()
            | some row =>
              if row.planDiffers config subscription then pure ()
              else do
                let activated : Option Nat ←
                  Script.request (BillingCall.activateRow userId id row.plan)
                match activated with
                | none => throw "failed to activate hermes_subscriptions for invoice.paid"
                | some 0 => pure ()
                | some _ => resumeInstances userId

def BillingRow.anchor (row : BillingRow) : Option Int :=
  if row.status = .pastDue then row.gracePeriodEndsAt else none

def handlePaymentFailed (config : BillingConfig) (invoiceSubscription : Option SubscriptionId) :
    BillingScript Unit :=
  match invoiceSubscription with
  | none => pure ()
  | some id => do
    let retrieved : Option StripeSubscription ← Script.request (BillingCall.retrieve id)
    match retrieved with
    | none => throw "subscription could not be retrieved"
    | some subscription =>
      if subscription.workspaceCloud then pure ()
      else
        match subscription.userId with
        | none => pure ()
        | some userId =>
          if subscription.status.terminal then
            handleSubscriptionDeleted config subscription
          else do
            let existingSub ← findRowBoundToSubscription userId id
            match existingSub with
            | none => pure ()
            | some row => do
              let now : Int ← Script.request BillingCall.readClock
              let _marked : Bool ← Script.request (BillingCall.markPastDue userId id
                (row.anchor.getD (now + paymentGrace)))
              lapseInstances config userId .subscriptionPastDue

/-! ## Events -/

inductive StripeEvent
  /-- `customer.subscription.created` and `customer.subscription.updated`. -/
  | subscriptionChanged (subscription : StripeSubscription)
  | subscriptionDeleted (subscription : StripeSubscription)
  /-- The invoice events, with what `getInvoiceSubscriptionId` finds. -/
  | invoicePaid (subscription : Option SubscriptionId)
  | paymentFailed (subscription : Option SubscriptionId)

def StripeEvent.handler (config : BillingConfig) : StripeEvent → BillingScript Unit
  | .subscriptionChanged subscription =>
    if subscription.workspaceCloud then pure ()
    else handleSubscriptionChange config subscription
  | .subscriptionDeleted subscription =>
    if subscription.workspaceCloud then pure ()
    else handleSubscriptionDeleted config subscription
  | .invoicePaid subscription => handleInvoicePaid config subscription
  | .paymentFailed subscription => handlePaymentFailed config subscription

/-! ## The store -/

structure BillingStore where
  account : StripeAccount
  rows : UserId → Option BillingRow
  instances : List Instance
  /-- Another lane grants the user seats. -/
  otherLane : UserId → Bool
  /-- What the handlers have canceled at Stripe. -/
  cancellations : List SubscriptionId
  /-- Refunds, by the subscription that makes their idempotency key. -/
  refunds : List (SubscriptionId × PaymentIntentId)
  clock : Int

def StripeAccount.amend (account : StripeAccount) (change : StripeSubscription → StripeSubscription)
    (keeps : ∀ subscription, (change subscription).id = subscription.id) : StripeAccount :=
  { account with
    subscriptions := account.subscriptions.map change
    distinct := by
      have ids : (account.subscriptions.map change).map StripeSubscription.id =
          account.subscriptions.map StripeSubscription.id := by
        rw [List.map_map]
        apply List.map_congr_left
        intro subscription _
        exact keeps subscription
      rw [ids]
      exact account.distinct }

def StripeAccount.cancel (account : StripeAccount) (id : SubscriptionId) : StripeAccount :=
  account.amend
    (fun subscription =>
      if subscription.id = id then { subscription with status := .canceled } else subscription)
    (fun subscription => by split <;> rfl)

def StripeAccount.cancelable (account : StripeAccount) (id : SubscriptionId) : Bool :=
  (account.find id).any fun subscription => !subscription.status.terminal

def BillingStore.writeRow (store : BillingStore) (userId : UserId) (row : BillingRow) :
    BillingStore :=
  { store with rows := fun other => if other = userId then some row else store.rows other }

def BillingStore.boundRow (store : BillingStore) (userId : UserId) (id : SubscriptionId) :
    Option BillingRow :=
  (store.rows userId).filter fun row => row.stripeSubscriptionId = some id

def Instance.schedulable (one : Instance) (userId : UserId) : Bool :=
  one.userId == userId && one.status != .deleted && one.status != .scheduledForDeletion

def Instance.restorable (one : Instance) (userId : UserId) : Bool :=
  one.userId == userId && one.status == .scheduledForDeletion && !one.deleted

def Instance.suspendable (one : Instance) (userId : UserId) : Bool :=
  one.userId == userId && one.lifecycleState != .suspended && one.lifecycleState != .deleted &&
    one.lifecycleState != .deleting && one.status != .deleted &&
    one.status != .scheduledForDeletion && !one.deleted

def EntitlementReason.billing (reason : EntitlementReason) : Bool :=
  reason == .subscriptionPastDue || reason == .subscriptionCanceled ||
    reason == .subscriptionGraceExpired

def Instance.resumable (one : Instance) (userId : UserId) : Bool :=
  one.userId == userId && one.lifecycleState == .suspended &&
    one.entitlementReason.any EntitlementReason.billing && !one.deleted

def updateAll (instances : List Instance) (selected : Instance → Bool)
    (change : Instance → Instance) : List Instance :=
  instances.map fun one => if selected one then change one else one

def BillingStore.updateInstances (store : BillingStore) (selected : Instance → Bool)
    (change : Instance → Instance) : BillingStore :=
  { store with instances := updateAll store.instances selected change }

def Instance.suspend (reason : EntitlementReason) (one : Instance) : Instance :=
  { one with
    status := .stopped
    lifecycleState := .suspended
    entitlementReason := some reason }

def Instance.resume (one : Instance) : Instance :=
  { one with
    status := .running
    lifecycleState := .active
    entitlementReason := some .subscriptionReactivated }

def Instance.schedule (one : Instance) : Instance :=
  { one with status := .scheduledForDeletion }

def Instance.restore (one : Instance) : Instance :=
  { one with status := .running }

structure BillingTurn where
  fails : Bool

def BillingStore.recordRefund (store : BillingStore) (id : SubscriptionId)
    (intent : PaymentIntentId) : BillingStore :=
  if id ∈ store.refunds.map Prod.fst then store
  else { store with refunds := store.refunds ++ [(id, intent)] }

def BillingStore.upsert (store : BillingStore) (userId : UserId) (id : SubscriptionId)
    (plan : PlanKey) (status : RowStatus) (instanceLimit : Nat) : BillingStore :=
  store.writeRow userId
    { stripeSubscriptionId := some id
      plan
      status
      instanceLimit
      gracePeriodEndsAt := (store.rows userId).bind BillingRow.gracePeriodEndsAt }

def BillingStore.updateBound (store : BillingStore) (userId : UserId) (id : SubscriptionId)
    (selected : BillingRow → Bool) (change : BillingRow → BillingRow) : BillingStore × Nat :=
  match (store.boundRow userId id).filter selected with
  | none => (store, 0)
  | some row => (store.writeRow userId (change row), 1)

def performBilling (call : BillingCall) (turn : BillingTurn) (store : BillingStore) :
    BillingStore × call.Reply :=
  match call with
  | .retrieveCustomer subscription =>
    (store, if turn.fails then none else store.account.customers subscription.customer)
  | .listActive subscription =>
    (store,
      if turn.fails then none else some (store.account.listActive subscription.customer))
  | .retrieve id => (store, if turn.fails then none else store.account.find id)
  | .cancel id =>
    if turn.fails ∨ store.account.cancelable id = false then (store, false)
    else
      ({ store with
          account := store.account.cancel id
          cancellations := store.cancellations ++ [id] }, true)
  | .retrieveInvoice invoice =>
    (store, if turn.fails then none else store.account.paymentIntents invoice)
  | .refund id intent =>
    if turn.fails then (store, false) else (store.recordRefund id intent, true)
  | .findSurvivor userId id => (store, !turn.fails && (store.boundRow userId id).isSome)
  | .readRow userId => (store, if turn.fails then none else some (store.rows userId))
  | .upsertRow userId id plan status instanceLimit =>
    if turn.fails then (store, false)
    else (store.upsert userId id plan status instanceLimit, true)
  | .cancelRow userId id =>
    if turn.fails then (store, none)
    else
      let updated := store.updateBound userId id (fun _ => true) fun row =>
        { row with status := .canceled, instanceLimit := 0 }
      (updated.1, some updated.2)
  | .activateRow userId id plan =>
    if turn.fails then (store, none)
    else
      let updated := store.updateBound userId id (fun row => row.plan = plan) fun row =>
        { row with status := .active, gracePeriodEndsAt := none }
      (updated.1, some updated.2)
  | .markPastDue userId id gracePeriodEnd =>
    if turn.fails then (store, false)
    else
      ((store.updateBound userId id (fun _ => true) fun row =>
        { row with status := .pastDue, gracePeriodEndsAt := some gracePeriodEnd }).1, true)
  | .readOtherLane userId =>
    (store, if turn.fails then none else some (store.otherLane userId))
  | .restoreScheduledDeletions userId =>
    (if turn.fails then store
      else store.updateInstances (fun one => one.restorable userId) Instance.restore, ())
  | .resumeBillingSuspendedInstances userId =>
    (if turn.fails then store
      else store.updateInstances (fun one => one.resumable userId) Instance.resume, ())
  | .scheduleInstancesForDeletion userId =>
    (if turn.fails then store
      else store.updateInstances (fun one => one.schedulable userId) Instance.schedule, ())
  | .suspendInstancesForBilling userId reason =>
    (if turn.fails then store
      else store.updateInstances (fun one => one.suspendable userId) (Instance.suspend reason),
      ())
  | .readClock => (store, store.clock)

end Hivra.StripeSubscriptions
