import Hivra.StripeSubscriptions.BillingScripts

/-!
# The reconciler of subscription rows

A cron compares each paid row with what Stripe knows of its customer.  It leaves the row, applies
a live subscription to a pending one, cancels it, or resets it to Free.  The lists it reads are
one page long and begin with the newest.  The choice of the rows, what a call answers, counters
and the details of the entries are left out.  Times are milliseconds.
-/

namespace Hivra.StripeSubscriptions

def paidPlans : List PlanKey := ["operator", "fleet", "command"]

def stalePendingCheckoutWindowMs : Int := 60 * 60 * 1000

def StripeStatus.grants : StripeStatus → Bool
  | .active => true
  | .trialing => true
  | .pastDue => true
  | _ => false

inductive CheckoutStatus
  | open
  | complete
  | expired
  deriving DecidableEq

structure CheckoutSession where
  customer : CustomerId
  status : CheckoutStatus

structure StripeState where
  account : StripeAccount
  /-- Newest first, as Stripe lists them. -/
  checkoutSessions : List CheckoutSession

inductive StripeRead
  | retrieve
  | listSubscriptions
  | listSessions

/-- A read that threw anything but `resource_missing`. -/
structure StripeFailure where
  read : StripeRead

/-- The reads of the reconciler; `none` is `resource_missing`. -/
structure StripeApi where
  retrieve : SubscriptionId → Except StripeFailure (Option StripeSubscription)
  listSubscriptions : CustomerId → Nat → Except StripeFailure (List StripeSubscription)
  listSessions : CustomerId → Nat → Except StripeFailure (List CheckoutSession)

def StripeState.subscriptionPage (state : StripeState) (customer : CustomerId) (limit : Nat) :
    List StripeSubscription :=
  (state.account.subscriptions.filter fun subscription => subscription.customer = customer).take
    limit

def StripeState.sessionPage (state : StripeState) (customer : CustomerId) (limit : Nat) :
    List CheckoutSession :=
  (state.checkoutSessions.filter fun session => session.customer = customer).take limit

def answered {Answer : Type} (down : StripeRead → Bool) (read : StripeRead) (answer : Answer) :
    Except StripeFailure Answer :=
  if down read then .error { read } else .ok answer

def StripeState.api (state : StripeState) (down : StripeRead → Bool) : StripeApi :=
  { retrieve := fun id => answered down .retrieve (state.account.find id)
    listSubscriptions := fun customer limit =>
      answered down .listSubscriptions (state.subscriptionPage customer limit)
    listSessions := fun customer limit =>
      answered down .listSessions (state.sessionPage customer limit) }

/-- `SubscriptionStateRow`: an id is `none` where it is missing or empty, the time where it
cannot be read. -/
structure StateRow where
  userId : UserId
  plan : PlanKey
  status : RowStatus
  stripeSubscriptionId : Option SubscriptionId
  stripeCustomerId : Option CustomerId
  updatedAt : Option Int

def isManualSubscriptionId (id : Option SubscriptionId) : Bool :=
  id.any fun id => "manual_".toList.isPrefixOf id.toList

def isStalePending (row : StateRow) (now : Int) : Bool :=
  row.status == .pending &&
    match row.updatedAt with
    | none => true
    | some updatedAt => decide (stalePendingCheckoutWindowMs < now - updatedAt)

def subscriptionBelongsToRow (subscription : StripeSubscription) (row : StateRow) : Bool :=
  subscription.userId.all (fun userId => userId == row.userId) &&
    row.stripeCustomerId.all fun customer => customer == subscription.customer

def pendingGrantCanBeApplied (subscription : StripeSubscription) (row : StateRow) : Bool :=
  subscription.userId == some row.userId &&
    subscription.plan.any fun plan => paidPlans.contains plan

def hasOpenCheckout (stripe : StripeApi) (row : StateRow) : Except StripeFailure Bool :=
  match row.stripeCustomerId with
  | none => .ok false
  | some customer => do
    let sessions ← stripe.listSessions customer 20
    return sessions.any fun session => session.status == .open

structure StripeGrantLookup where
  live : Option StripeSubscription
  terminal : Option StripeSubscription

def retrieveOwn (stripe : StripeApi) (row : StateRow) :
    Except StripeFailure (Option StripeSubscription) :=
  match row.stripeSubscriptionId with
  | none => .ok none
  | some id => do
    let subscription ← stripe.retrieve id
    return subscription.filter fun subscription => subscriptionBelongsToRow subscription row

def findListed (stripe : StripeApi) (row : StateRow) :
    Except StripeFailure (Option StripeSubscription) :=
  match row.stripeCustomerId with
  | none => .ok none
  | some customer => do
    let subscriptions ← stripe.listSubscriptions customer 100
    return subscriptions.find? fun subscription =>
      subscription.status.grants && subscriptionBelongsToRow subscription row

def lookupStripeGrant (stripe : StripeApi) (row : StateRow) :
    Except StripeFailure StripeGrantLookup :=
  if isManualSubscriptionId row.stripeSubscriptionId then .ok { live := none, terminal := none }
  else do
    let own ← retrieveOwn stripe row
    if own.any fun subscription => subscription.status.grants then
      return { live := own, terminal := none }
    else
      match ← findListed stripe row with
      | some live => return { live := some live, terminal := none }
      | none => return { live := none, terminal := own }

inductive ReconcileAction
  | resetPendingAbandoned
  | resetTerminalStripe
  | canceledTerminalStripe
  | activatedStripeGrant
  | skippedOpenCheckout
  | skippedRecentPending
  | skippedStripeGrant
  | manualReview

inductive RowCall
  /-- `reconcile_stale_subscription_state_to_free`. -/
  | reconcileRowToFree
  | handleSubscriptionChange (subscription : StripeSubscription)
  | handleSubscriptionDeleted (subscription : StripeSubscription)
  deriving DecidableEq

inductive Decision
  | leave (action : ReconcileAction)
  | change (call : RowCall) (action : ReconcileAction)

def activatePendingStripeGrant (row : StateRow) (subscription : StripeSubscription) : Decision :=
  if pendingGrantCanBeApplied subscription row then
    .change (.handleSubscriptionChange subscription) .activatedStripeGrant
  else .leave .manualReview

def decidePending (stripe : StripeApi) (row : StateRow) (now : Int) :
    Except StripeFailure Decision :=
  if !isStalePending row now then .ok (.leave .skippedRecentPending)
  else do
    match (← lookupStripeGrant stripe row).live with
    | some pendingGrant => return activatePendingStripeGrant row pendingGrant
    | none =>
      if ← hasOpenCheckout stripe row then return .leave .skippedOpenCheckout
      else return .change .reconcileRowToFree .resetPendingAbandoned

def cancelsOwn (row : StateRow) (terminal : Option StripeSubscription) :
    Option StripeSubscription :=
  terminal.filter fun subscription =>
    some subscription.id == row.stripeSubscriptionId && subscription.userId == some row.userId

def decidePaid (stripe : StripeApi) (row : StateRow) : Except StripeFailure Decision :=
  if row.stripeSubscriptionId.isNone || isManualSubscriptionId row.stripeSubscriptionId then
    .ok (.leave .manualReview)
  else do
    let lookup ← lookupStripeGrant stripe row
    match lookup.live, cancelsOwn row lookup.terminal with
    | some _, _ => return .leave .skippedStripeGrant
    | none, some terminal =>
      return .change (.handleSubscriptionDeleted terminal) .canceledTerminalStripe
    | none, none => return .change .reconcileRowToFree .resetTerminalStripe

def decideRow (stripe : StripeApi) (row : StateRow) (now : Int) : Except StripeFailure Decision :=
  if row.status = .pending then decidePending stripe row now else decidePaid stripe row

def calledFor (stripe : StripeApi) (row : StateRow) (now : Int) : Option RowCall :=
  match decideRow stripe row now with
  | .ok (.change call _) => some call
  | _ => none

end Hivra.StripeSubscriptions
