import Hivra.Library.Typestates
import Hivra.StripeSubscriptions.BillingScripts

/-!
# Subscription events at once

Any number of deliveries of subscription events run at once, each request a step, while Stripe
makes and changes subscriptions and other code writes rows.  What a run has come to know of the
subscription of its event says what it may do next: cancel it beside a survivor, refund it once
it is canceled or found to have ended, and write it as active unless it was found to have ended.
-/

namespace Hivra.StripeSubscriptions

open Hivra.Library

structure Amendment where
  status : StripeStatus
  plan : Option PlanKey
  latestInvoice : Option InvoiceId
  priceId : Option PriceId

inductive AccountChange
  | create (subscription : StripeSubscription)
  | update (id : SubscriptionId) (amendment : Amendment)
  | setCustomer (customer : CustomerId) (state : Option StripeCustomer)
  | setInvoice (invoice : InvoiceId) (intent : Option (Option PaymentIntentId))

def Amendment.apply (amendment : Amendment) (subscription : StripeSubscription) :
    StripeSubscription :=
  { subscription with
    status := amendment.status
    plan := amendment.plan
    latestInvoice := amendment.latestInvoice
    priceId := amendment.priceId }

def StripeAccount.create (account : StripeAccount) (subscription : StripeSubscription) :
    StripeAccount :=
  if fresh : subscription.id ∉ account.subscriptions.map StripeSubscription.id ∧
      ∀ older ∈ account.subscriptions, older.created < subscription.created then
    { account with
      subscriptions := subscription :: account.subscriptions
      distinct := List.nodup_cons.mpr ⟨fresh.1, account.distinct⟩ }
  else account

def StripeAccount.update (account : StripeAccount) (id : SubscriptionId) (amendment : Amendment) :
    StripeAccount :=
  account.amend
    (fun subscription =>
      if subscription.id = id ∧ subscription.status.terminal = false then
        amendment.apply subscription
      else subscription)
    (fun subscription => by split <;> rfl)

def StripeAccount.change (account : StripeAccount) : AccountChange → StripeAccount
  | .create subscription => account.create subscription
  | .update id amendment => account.update id amendment
  | .setCustomer customer state =>
    { account with
      customers := fun other => if other = customer then state else account.customers other }
  | .setInvoice invoice intent =>
    { account with
      paymentIntents := fun other =>
        if other = invoice then intent else account.paymentIntents other }

inductive BillingChange
  | stripe (change : AccountChange)
  | elsewhere (rows : UserId → Option BillingRow) (instances : List Instance)
      (otherLane : UserId → Bool) (clock : Int)

def BillingStore.change (store : BillingStore) : BillingChange → BillingStore
  | .stripe change => { store with account := store.account.change change }
  | .elsewhere rows instances otherLane clock => { store with rows, instances, otherLane, clock }

inductive SubscriptionEvent
  | changed (subscription : StripeSubscription)
  | deleted (subscription : StripeSubscription)

def SubscriptionEvent.event : SubscriptionEvent → StripeEvent
  | .changed subscription => .subscriptionChanged subscription
  | .deleted subscription => .subscriptionDeleted subscription

def billingSystem (config : BillingConfig) :
    System SubscriptionEvent BillingCall BillingCall.Reply String Unit BillingStore BillingTurn
      BillingChange :=
  { program := fun event => event.event.handler config
    perform := fun _ => performBilling
    change := fun change store => store.change change }

inductive RunState
  | unchecked
  /-- The customer was asked for. -/
  | checked (subscription : StripeSubscription)
  /-- The list shows an older one, and the subscription itself or not. -/
  | doomed (subscription survivor : StripeSubscription) (shown : Bool)
  | canceled (subscription : StripeSubscription)
  /-- The list shows neither an older one nor the subscription itself. -/
  | unlisted (subscription : StripeSubscription)
  /-- Seen active in the list, or retrieved and not ended. -/
  | seen (subscription : StripeSubscription)
  /-- Retrieved, and ended. -/
  | ended (subscription : StripeSubscription)
  /-- It could not be retrieved. -/
  | unread (subscription : StripeSubscription)

def StripeSubscription.shownIn (subscription : StripeSubscription)
    (activeSubs : List StripeSubscription) : Bool :=
  subscription.userId.any fun userId =>
    (hermesSubs userId activeSubs).any fun other => other.id = subscription.id

def survivorFor (subscription : StripeSubscription) (activeSubs : List StripeSubscription) :
    Option StripeSubscription :=
  subscription.userId.bind fun userId => survivorOf userId subscription.id activeSubs

def RunState.ofList (subscription : StripeSubscription) (activeSubs : List StripeSubscription) :
    RunState :=
  match survivorFor subscription activeSubs with
  | some survivor => .doomed subscription survivor (subscription.shownIn activeSubs)
  | none =>
    if (activeSubs.any fun other => other.id = subscription.id) = true then .seen subscription
    else .unlisted subscription

def RunState.afterRetrieve (state : RunState) (reply : Option StripeSubscription) : RunState :=
  match state with
  | .unlisted subscription =>
    match reply with
    | none => .unread subscription
    | some live => if live.status.terminal then .ended subscription else .seen subscription
  | state => state

def RunState.afterCancel (state : RunState) (canceled : Bool) : RunState :=
  match state with
  | .doomed subscription _ _ => if canceled then .canceled subscription else state
  | state => state

def RunState.moved (call : BillingCall) (reply : call.Reply) (state : RunState) : RunState :=
  match call with
  | .retrieveCustomer subscription => .checked subscription
  | .listActive subscription =>
    match (reply : Option (List StripeSubscription)) with
    | none => state
    | some activeSubs => .ofList subscription activeSubs
  | .retrieve _ => state.afterRetrieve reply
  | .cancel _ => state.afterCancel reply
  | _ => state

def RunState.cancels (state : RunState) (id : SubscriptionId) : Prop :=
  ∃ subscription survivor shown,
    state = .doomed subscription survivor shown ∧ subscription.id = id

def RunState.refunds (state : RunState) (id : SubscriptionId) : Prop :=
  ∃ subscription, (state = .canceled subscription ∨ state = .ended subscription) ∧
    subscription.id = id

def RunState.activates (state : RunState) (id : SubscriptionId) : Prop :=
  ∃ subscription, subscription.id = id ∧
    (state = .seen subscription ∨ state = .unread subscription ∨
      state = .checked subscription ∧ subscription.status = .trialing)

def BillingCall.permitted (call : BillingCall) (state : RunState) : Prop :=
  match call with
  | .listActive subscription => state = .checked subscription
  | .retrieve id => ∃ subscription, state = .unlisted subscription ∧ subscription.id = id
  | .cancel id => state.cancels id
  | .refund id _ => state.refunds id
  | .upsertRow _ id _ status _ => status = .active → state.activates id
  | _ => True

def billingTypestate : Typestate BillingCall BillingCall.Reply RunState :=
  { fresh := .unchecked
    permits := BillingCall.permitted
    moves := RunState.moved }

open Typestate

variable {config : BillingConfig} {subscription : StripeSubscription} {state : RunState}

def Anyhow {Outcome : Type} (_ : Outcome) (_ : RunState) : Prop := True

def Still {Outcome : Type} (state : RunState) (_ : Outcome) (next : RunState) : Prop :=
  next = state

theorem resume_stages (userId : UserId) (state : RunState) :
    billingTypestate.Keeps (Still state) Anyhow (resumeInstances userId) state :=
  ⟨trivial, fun _ => ⟨trivial, fun _ => rfl⟩⟩

theorem lapse_stages (userId : UserId) (reason : EntitlementReason) (state : RunState) :
    billingTypestate.Keeps (Still state) Anyhow (lapseInstances config userId reason) state := by
  constructor
  · trivial
  · intro other
    cases other with
    | none => trivial
    | some paid =>
      cases paid with
      | true => rfl
      | false =>
        cases legacy : config.legacyHardDelete with
        | true => exact ⟨trivial, fun _ => rfl⟩
        | false => exact ⟨trivial, fun _ => rfl⟩

theorem refund_stages (refunds : state.refunds subscription.id) :
    billingTypestate.Keeps Anyhow Anyhow (refundDuplicateSubscriptionCharge subscription) state := by
  unfold refundDuplicateSubscriptionCharge
  cases subscription.latestInvoice with
  | none => trivial
  | some invoice =>
    constructor
    · trivial
    · intro retrieved
      cases retrieved with
      | none => trivial
      | some intent =>
        cases intent with
        | none => trivial
        | some intent => exact ⟨refunds, fun _ => trivial⟩

theorem ensure_stages (refunds : state.refunds subscription.id) :
    billingTypestate.Keeps Anyhow Anyhow (ensureRefund subscription) state := by
  apply keeps_handle (refund_stages refunds)
  intro _ _ _
  trivial

theorem cancel_stages {survivor : StripeSubscription} {shown : Bool} :
    billingTypestate.Keeps Anyhow Anyhow (cancelDuplicate subscription)
      (.doomed subscription survivor shown) := by
  have body : billingTypestate.Keeps Anyhow Anyhow
      (do
        let canceled : Bool ← Script.request (BillingCall.cancel subscription.id)
        if canceled then refundDuplicateSubscriptionCharge subscription
        else throw "subscription could not be canceled")
      (.doomed subscription survivor shown) := by
    constructor
    · exact ⟨subscription, survivor, shown, rfl, rfl⟩
    · intro canceled
      cases canceled with
      | false => trivial
      | true => exact refund_stages ⟨subscription, .inl rfl, rfl⟩
  apply keeps_handle body
  intro _ _ _
  trivial

def MayApply (subscription : StripeSubscription) (goes : Bool) (state : RunState) : Prop :=
  goes = true → state = .seen subscription ∨ state = .unread subscription

theorem confirm_stages :
    billingTypestate.Keeps (MayApply subscription) Anyhow (confirmLive subscription)
      (.unlisted subscription) := by
  constructor
  · exact ⟨subscription, rfl, rfl⟩
  · intro live
    cases live with
    | none =>
      intro _
      exact .inr rfl
    | some live =>
      change billingTypestate.Keeps (MayApply subscription) Anyhow
        (if live.status.terminal = true then
          (ensureRefund subscription).bind fun _ => .ret false
        else .ret true)
        (if live.status.terminal = true then .ended subscription else .seen subscription)
      cases ended : live.status.terminal with
      | true =>
        rw [if_pos rfl, if_pos rfl]
        apply keeps_bind Anyhow
        · exact ensure_stages ⟨subscription, .inr rfl, rfl⟩
        · intro _ _ _ goes
          cases goes
      | false =>
        rw [if_neg Bool.false_ne_true, if_neg Bool.false_ne_true]
        intro _
        exact .inl rfl

theorem resolve_stages (userId : UserId) {survivor : StripeSubscription} {shown : Bool} :
    billingTypestate.Keeps (MayApply subscription) Anyhow
      (resolveDuplicate userId subscription survivor) (.doomed subscription survivor shown) := by
  constructor
  · trivial
  · intro present
    cases present with
    | false => trivial
    | true =>
      apply keeps_bind Anyhow cancel_stages
      intro _ _ _ goes
      cases goes

theorem check_stages {userId : UserId} (isUser : subscription.userId = some userId) :
    billingTypestate.Keeps (MayApply subscription) Anyhow (checkActive userId subscription)
      (.checked subscription) := by
  constructor
  · rfl
  · intro listed
    cases listed with
    | none => trivial
    | some activeSubs =>
      have survivors : survivorFor subscription activeSubs =
          survivorOf userId subscription.id activeSubs := by
        simp [survivorFor, isUser]
      change billingTypestate.Keeps (MayApply subscription) Anyhow
        (match survivorOf userId subscription.id activeSubs with
        | some survivor => resolveDuplicate userId subscription survivor
        | none =>
          if (activeSubs.any fun other => other.id = subscription.id) = true then .ret true
          else confirmLive subscription)
        (RunState.ofList subscription activeSubs)
      unfold RunState.ofList
      rw [survivors]
      cases survivorOf userId subscription.id activeSubs with
      | some survivor => exact resolve_stages userId
      | none =>
        by_cases shown : (activeSubs.any fun other => other.id = subscription.id) = true
        · simp only [if_pos shown]
          intro _
          exact .inl rfl
        · simp only [if_neg shown]
          exact confirm_stages

theorem apply_stages {userId : UserId} {planKey : PlanKey} {plan : Plan}
    (may : subscription.status.nextStatus = .active → state.activates subscription.id) :
    billingTypestate.Keeps Anyhow Anyhow
      (applySubscription config userId planKey plan subscription) state := by
  have write : billingTypestate.Keeps Anyhow Anyhow
      (writeSubscription userId planKey plan subscription) state :=
    ⟨may, fun _ => trivial⟩
  have lapse : billingTypestate.Keeps Anyhow Anyhow
      (if subscription.status.lapsed = true then
        (lapseInstances config userId subscription.status.lapseReason).bind fun _ =>
          writeSubscription userId planKey plan subscription
      else writeSubscription userId planKey plan subscription) state := by
    split
    · apply keeps_bind _ (lapse_stages userId _ state)
      intro _ next still
      subst still
      exact write
    · exact write
  by_cases active : subscription.status = .active
  · unfold applySubscription
    simp only [if_pos active]
    apply keeps_bind _ (resume_stages userId state)
    intro _ next still
    subst still
    exact lapse
  · unfold applySubscription
    simp only [if_neg active]
    exact lapse

theorem change_stages (subscription : StripeSubscription) :
    billingTypestate.Keeps Anyhow Anyhow (handleSubscriptionChange config subscription)
      .unchecked := by
  unfold handleSubscriptionChange
  split
  · rename_i userId planKey plan isUser _
    split
    · trivial
    · constructor
      · trivial
      · intro customer
        change billingTypestate.Keeps Anyhow Anyhow
          (if (customer.all fun customer => customer.accepts userId) = true then
            if subscription.status = .active then
              (checkActive userId subscription).bind fun goes =>
                if goes = true then applySubscription config userId planKey plan subscription
                else .ret ()
            else applySubscription config userId planKey plan subscription
          else .ret ()) (.checked subscription)
        split
        · split
          · apply keeps_bind _ (check_stages isUser)
            intro goes state may
            cases goes with
            | false => trivial
            | true =>
              apply apply_stages
              intro _
              cases may rfl with
              | inl seen => exact ⟨subscription, rfl, .inl seen⟩
              | inr unread => exact ⟨subscription, rfl, .inr (.inl unread)⟩
          · rename_i inactive
            apply apply_stages
            intro becomes
            refine ⟨subscription, rfl, .inr (.inr ⟨rfl, ?_⟩)⟩
            cases status : subscription.status with
            | trialing => rfl
            | active => exact absurd status inactive
            | incomplete | incompleteExpired | pastDue | canceled | unpaid | paused =>
              rw [status] at becomes
              cases becomes
        · trivial
  · trivial

theorem end_stages (userId : UserId) (id : SubscriptionId) (currentSub : Option BillingRow)
    (state : RunState) :
    billingTypestate.Keeps Anyhow Anyhow (endSubscription config userId id currentSub) state := by
  constructor
  · trivial
  · intro canceled
    cases canceled with
    | none => trivial
    | some count =>
      change billingTypestate.Keeps Anyhow Anyhow
        (if currentSub.isSome = true ∧ count = 0 then .ret ()
        else lapseInstances config userId .subscriptionCanceled) state
      split
      · trivial
      · apply keeps_mono (lapse_stages userId _ state)
        · intro _ _ _
          trivial
        · intro _ _ _
          trivial

theorem deleted_stages (subscription : StripeSubscription) :
    billingTypestate.Keeps Anyhow Anyhow (handleSubscriptionDeleted config subscription)
      .unchecked := by
  unfold handleSubscriptionDeleted
  split
  · trivial
  · rename_i userId _
    constructor
    · trivial
    · intro read
      have tail : ∀ currentSub : Option BillingRow, billingTypestate.Keeps Anyhow Anyhow
          (if (currentSub.any fun row => row.stripeSubscriptionId ≠ some subscription.id) = true then
            .ret ()
          else endSubscription config userId subscription.id currentSub) .unchecked := by
        intro currentSub
        split
        · trivial
        · exact end_stages userId subscription.id currentSub .unchecked
      exact tail (Option.getD read none)

theorem event_stages (config : BillingConfig) (event : SubscriptionEvent) :
    billingTypestate.Keeps Anyhow Anyhow (event.event.handler config) .unchecked := by
  cases event with
  | changed subscription =>
    cases lane : subscription.workspaceCloud with
    | true =>
      simp only [SubscriptionEvent.event, StripeEvent.handler, lane, if_true]
      trivial
    | false =>
      simp only [SubscriptionEvent.event, StripeEvent.handler, lane, Bool.false_eq_true,
        if_false]
      exact change_stages subscription
  | deleted subscription =>
    cases lane : subscription.workspaceCloud with
    | true =>
      simp only [SubscriptionEvent.event, StripeEvent.handler, lane, if_true]
      trivial
    | false =>
      simp only [SubscriptionEvent.event, StripeEvent.handler, lane, Bool.false_eq_true,
        if_false]
      exact deleted_stages subscription

end Hivra.StripeSubscriptions
