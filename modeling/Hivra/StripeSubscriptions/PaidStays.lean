import Hivra.Library.FollowedRows
import Hivra.StripeSubscriptions.HandlerOutcomes
import Hivra.StripeSubscriptions.InstanceLapses

/-!
# A paid subscription stays

While a row is bound to a subscription that is active at Stripe, the invoice of any subscription
being paid leaves it bound and active, and so does everything that happens to a subscription of
another user.  The change handler does not ask which subscription the row is bound to, and only
an event that still says active is compared with Stripe, so every other change of a second
subscription of the user takes the row over.  A late change of the paid subscription itself, or
the late failure of one of its payments, lapses it.
-/

namespace Hivra.StripeSubscriptions

open Hivra.Library

/-! ## Instances -/

def Stops (config : BillingConfig) (store : BillingStore) (userId : UserId) : Prop :=
  store.otherLane userId = false ∧
    ∃ one ∈ store.instances, one.userId = userId ∧ one.lapsed = false ∧
      (if config.legacyHardDelete then one.schedulable userId else one.suspendable userId) = true

variable {config : BillingConfig} {outage : Outage} {store : BillingStore}
variable {userId other : UserId} {id : SubscriptionId} {row : BillingRow}

variable (store) in
theorem resumed_spares (other : UserId) :
    NoneSuspended userId store.instances (store.resumed other).instances :=
  resume_spares store.instances other

variable (store) in
theorem lapsed_spares_iff (reason : EntitlementReason) :
    NoneSuspended userId store.instances (store.lapsed config userId reason).instances ↔
      ¬Stops config store userId := by
  unfold BillingStore.lapsed Stops
  cases otherLane : store.otherLane userId with
  | true => simp [none_suspended_refl]
  | false =>
    cases legacy : config.legacyHardDelete with
    | true =>
      simp only [Bool.false_eq_true, if_false, if_true, true_and]
      constructor
      · rintro spares ⟨one, held, isUser, going, chosen⟩
        have stops : one.schedule.lapsed = true := by simp [Instance.lapsed, Instance.schedule]
        exact update_stops held isUser going chosen stops spares
      · intro never
        apply update_spares
        · intro one
          rfl
        · intro one held isUser going chosen
          exact absurd ⟨one, held, isUser, going, chosen⟩ never
    | false =>
      simp only [Bool.false_eq_true, if_false, true_and]
      constructor
      · rintro spares ⟨one, held, isUser, going, chosen⟩
        have stops : (one.suspend reason).lapsed = true := rfl
        exact update_stops held isUser going chosen stops spares
      · intro never
        apply update_spares
        · intro one
          rfl
        · intro one held isUser going chosen
          exact absurd ⟨one, held, isUser, going, chosen⟩ never

variable (store) in
theorem lapsed_spares_others (reason : EntitlementReason) (apart : userId ≠ other) :
    NoneSuspended userId store.instances (store.lapsed config other reason).instances := by
  unfold BillingStore.lapsed
  split
  · exact none_suspended_refl store.instances
  · split
    · apply update_spares
      · intro one
        rfl
      · intro one _ isUser _ chosen
        exact absurd (isUser.symm.trans (schedulable_user chosen)) apart
    · apply update_spares
      · intro one
        rfl
      · intro one _ isUser _ chosen
        exact absurd (isUser.symm.trans (suspendable_user chosen)) apart

/-! ## Rows -/

@[simp]
theorem resumed_rows : (store.resumed userId).rows = store.rows := rfl

@[simp]
theorem lapsed_rows (reason : EntitlementReason) :
    (store.lapsed config userId reason).rows = store.rows := by
  unfold BillingStore.lapsed
  split
  · rfl
  · split <;> rfl

@[simp]
theorem writeRow_rows_self : (store.writeRow userId row).rows userId = some row := by
  simp [BillingStore.writeRow]

theorem writeRow_rows_other (apart : userId ≠ other) :
    (store.writeRow other row).rows userId = store.rows userId := by
  simp [BillingStore.writeRow, apart]

/-! ## Paid subscriptions -/

/-- The row is bound to a subscription of the user that is active at Stripe, the only one of the
user's that is. -/
structure Paid (store : BillingStore) (userId : UserId) (id : SubscriptionId) (row : BillingRow) :
    Prop where
  stored : store.rows userId = some row
  bound : row.stripeSubscriptionId = some id
  live : ∃ live, store.account.find id = some live ∧ live.userId = some userId ∧
    live.workspaceCloud = false ∧ live.status = .active
  sole : ∀ other ∈ store.account.subscriptions, other.userId = some userId →
    other.workspaceCloud = false → other.status = .active → other.id = id

/-- The row is still bound to the subscription, with status active or as it was, and none of the
user's instances was suspended. -/
def Keeps (before after : BillingStore) (userId : UserId) (id : SubscriptionId)
    (row : BillingRow) : Prop :=
  (∃ later, after.rows userId = some later ∧ later.stripeSubscriptionId = some id ∧
    (later.status = .active ∨ later.status = row.status)) ∧
    NoneSuspended userId before.instances after.instances

def LeavesPaid (config : BillingConfig) (outage : Outage) (event : StripeEvent)
    (store : BillingStore) : Prop :=
  ∀ userId id row, Paid store userId id row →
    Keeps store (handled config outage event store) userId id row

structure Apart (userId : UserId) (before after : BillingStore) : Prop where
  rows : after.rows userId = before.rows userId
  spares : NoneSuspended userId before.instances after.instances

/-- What the change of a subscription must say to leave the paid one: of the paid one itself,
that it is active or in the state of the row, with nothing to suspend; of another one, that it
is active, and then that the list cannot be read or the other one is found to have ended. -/
def ChangeSpares (config : BillingConfig) (outage : Outage) (store : BillingStore)
    (userId : UserId) (id : SubscriptionId) (row : BillingRow)
    (subscription : StripeSubscription) : Prop :=
  if subscription.id = id then
    (subscription.status.nextStatus = .active ∨ subscription.status.nextStatus = row.status) ∧
      ¬(subscription.status.lapsed = true ∧ Stops config store userId)
  else
    subscription.status = .active ∧
      (outage .list = true ∨ EndedLive outage store subscription.id)

def EventSpares (config : BillingConfig) (outage : Outage) (store : BillingStore)
    (userId : UserId) (id : SubscriptionId) (row : BillingRow) : StripeEvent → Prop
  | .subscriptionChanged subscription =>
    ∀ planKey plan, subscription.workspaceCloud = false →
      Heard config outage store subscription userId planKey plan →
      ChangeSpares config outage store userId id row subscription
  | .subscriptionDeleted subscription =>
    subscription.workspaceCloud = false → subscription.userId = some userId →
      subscription.id = id → row.status = .canceled ∧ ¬Stops config store userId
  | .invoicePaid _ => True
  | .paymentFailed subscription =>
    subscription = some id → outage .retrieve = false →
      row.status = .pastDue ∧ ¬Stops config store userId

def Spares (config : BillingConfig) (outage : Outage) (event : StripeEvent)
    (store : BillingStore) : Prop :=
  ∀ userId id row, Paid store userId id row →
    EventSpares config outage store userId id row event

/-! ## What is kept -/

variable {subscription : StripeSubscription} {planKey : PlanKey} {plan : Plan}

theorem keeps_of_same {after : BillingStore} (paid : Paid store userId id row)
    (same : SameBilling store after) : Keeps store after userId id row := by
  constructor
  · refine ⟨row, ?_, paid.bound, .inr rfl⟩
    rw [same.rows]
    exact paid.stored
  · rw [same.instances]
    exact none_suspended_refl store.instances

theorem keeps_of_apart {after : BillingStore} (paid : Paid store userId id row)
    (apart : Apart userId store after) : Keeps store after userId id row :=
  ⟨⟨row, apart.rows.trans paid.stored, paid.bound, .inr rfl⟩, apart.spares⟩

theorem applied_row : (store.applied config userId planKey plan subscription).rows userId =
      some
        { stripeSubscriptionId := some subscription.id
          plan := planKey
          status := subscription.status.nextStatus
          instanceLimit := plan.maxAgents
          gracePeriodEndsAt := (store.rows userId).bind BillingRow.gracePeriodEndsAt } := by
  unfold BillingStore.applied BillingStore.upsert
  by_cases active : subscription.status = .active
  · simp [active, StripeStatus.lapsed]
  · by_cases lapsed : subscription.status.lapsed = true
    · simp [active, lapsed]
    · simp [active, lapsed]

theorem applied_instances : (store.applied config userId planKey plan subscription).instances =
      if subscription.status = .active then (store.resumed userId).instances
      else if subscription.status.lapsed then
        (store.lapsed config userId subscription.status.lapseReason).instances
      else store.instances := by
  unfold BillingStore.applied BillingStore.upsert
  by_cases active : subscription.status = .active
  · simp [active, StripeStatus.lapsed, BillingStore.writeRow]
  · by_cases lapsed : subscription.status.lapsed = true
    · simp [active, lapsed, BillingStore.writeRow]
    · simp [active, lapsed, BillingStore.writeRow]

theorem applied_spares_iff : NoneSuspended userId store.instances
        (store.applied config userId planKey plan subscription).instances ↔
      ¬(subscription.status.lapsed = true ∧ Stops config store userId) := by
  rw [applied_instances]
  by_cases active : subscription.status = .active
  · rw [if_pos active]
    simp [active, StripeStatus.lapsed, resumed_spares store]
  · rw [if_neg active]
    by_cases lapsed : subscription.status.lapsed = true
    · rw [if_pos lapsed, lapsed_spares_iff]
      simp [lapsed]
    · rw [if_neg lapsed]
      simp [lapsed, none_suspended_refl]

theorem applied_apart (apart : userId ≠ other) :
    Apart userId store (store.applied config other planKey plan subscription) := by
  constructor
  · unfold BillingStore.applied BillingStore.upsert
    rw [writeRow_rows_other apart]
    by_cases active : subscription.status = .active
    · simp [active, StripeStatus.lapsed]
    · by_cases lapsed : subscription.status.lapsed = true
      · simp [active, lapsed]
      · simp [active, lapsed]
  · rw [applied_instances]
    split
    · exact resumed_spares store other
    · split
      · exact lapsed_spares_others store _ apart
      · exact none_suspended_refl store.instances

/-! ## Events of a change -/

theorem heard_unique {planKey' : PlanKey} {plan' : Plan}
    (heard : Heard config outage store subscription userId planKey plan)
    (again : Heard config outage store subscription other planKey' plan') : other = userId := by
  have same := heard.1.symm.trans again.1
  cases same
  rfl

theorem ended_unlisted {customer : CustomerId} (ended : EndedLive outage store id) :
    ¬((store.account.listActive customer).any fun other => other.id = id) = true := by
  intro listed
  have ⟨one, inPage, isOne⟩ := List.any_eq_true.mp listed
  have ⟨held, _, active⟩ := listed_active inPage
  have found : store.account.find id = some one :=
    find_some.mpr ⟨held, by simpa using isOne⟩
  have terminal := ended.2
  simp [found, active, StripeStatus.terminal] at terminal

theorem survivor_none (paid : Paid store userId id row) (self : SubscriptionId)
    (customer : CustomerId) :
    survivorOf userId self (store.account.listActive customer) = none := by
  let hermes := hermesSubs userId (store.account.listActive customer)
  have all : ∀ one ∈ hermes.map StripeSubscription.id, one = id := by
    intro one there
    have ⟨held, inList, isOne⟩ := List.mem_map.mp there
    have ⟨listed, chosen⟩ := List.mem_filter.mp inList
    have ⟨inAccount, _, active⟩ := listed_active listed
    simp only [decide_eq_true_eq] at chosen
    rw [← isOne]
    exact paid.sole held inAccount chosen.1 chosen.2 active
  have part : hermes.Sublist store.account.subscriptions :=
    (List.filter_sublist.trans (List.take_sublist 10 _)).trans List.filter_sublist
  have nodup : (hermes.map StripeSubscription.id).Nodup :=
    store.account.distinct.sublist (part.map StripeSubscription.id)
  rw [List.eq_replicate_of_mem all, List.nodup_replicate, List.length_map] at nodup
  have few : (hermesSubs userId (store.account.listActive customer)).length ≤ 1 := nodup
  unfold survivorOf
  exact if_neg (by omega)

theorem change_keeps_iff (paid : Paid store userId id row) : Keeps store
        ((handleSubscriptionChange config subscription).played (answerBilling outage) store).1
        userId id row ↔
      ∀ planKey plan, Heard config outage store subscription userId planKey plan →
        ChangeSpares config outage store userId id row subscription := by
  by_cases applies : ∃ other planKey plan,
      Heard config outage store subscription other planKey plan ∧
        Proceeds outage store other subscription
  · have ⟨other, planKey, plan, heard, proceeds⟩ := applies
    rw [change_applied heard proceeds]
    by_cases isUser : userId = other
    · subst isUser
      have only : (∀ planKey plan, Heard config outage store subscription userId planKey plan →
          ChangeSpares config outage store userId id row subscription) ↔
          ChangeSpares config outage store userId id row subscription :=
        ⟨fun spares => spares planKey plan heard, fun spares _ _ _ => spares⟩
      rw [only]
      unfold Keeps ChangeSpares
      rw [applied_row, applied_spares_iff]
      by_cases own : subscription.id = id
      · simp [own]
      · rw [if_neg own]
        constructor
        · intro ⟨⟨later, isLater, bound, _⟩, _⟩
          cases isLater
          simp [own] at bound
        · intro ⟨active, ends⟩
          have ⟨up, _, alive⟩ := proceeds active
          cases ends with
          | inl down => simp [up] at down
          | inr ended =>
            cases alive with
            | inl listed => exact absurd listed (ended_unlisted ended)
            | inr alive => exact absurd ended alive
    · constructor
      · intro _ planKey plan isHeard
        exact absurd (heard_unique heard isHeard) isUser
      · intro _
        exact keeps_of_apart paid (applied_apart isUser)
  · have same : SameBilling store
        ((handleSubscriptionChange config subscription).played (answerBilling outage) store).1 := by
      apply change_same
      intro other planKey plan heard proceeds
      exact applies ⟨other, planKey, plan, heard, proceeds⟩
    constructor
    · intro _ planKey plan heard
      have stops : ¬Proceeds outage store userId subscription := by
        intro proceeds
        exact applies ⟨userId, planKey, plan, heard, proceeds⟩
      have active : subscription.status = .active := by
        by_contra inactive
        exact stops fun active => absurd active inactive
      unfold ChangeSpares
      split
      · simp [active, StripeStatus.nextStatus, StripeStatus.lapsed]
      · refine ⟨active, ?_⟩
        by_contra neither
        rw [not_or] at neither
        apply stops
        intro _
        exact ⟨by simpa using neither.1, survivor_none paid _ _, .inr neither.2⟩
    · intro _
      exact keeps_of_same paid same

/-! ## Deletions and invoices -/

theorem written_lapsed_apart (written : BillingRow) (reason : EntitlementReason)
    (apart : userId ≠ other) :
    Apart userId store ((store.writeRow other written).lapsed config other reason) := by
  constructor
  · rw [lapsed_rows, writeRow_rows_other apart]
  · exact lapsed_spares_others (store.writeRow other written) reason apart

theorem deletedOf_apart (apart : userId ≠ other) :
    Apart userId store (store.deletedOf config other id) := by
  unfold BillingStore.deletedOf
  split
  · exact ⟨by rw [lapsed_rows], lapsed_spares_others store _ apart⟩
  · split
    · exact written_lapsed_apart _ _ apart
    · exact ⟨rfl, none_suspended_refl store.instances⟩

theorem paidOf_apart (live : StripeSubscription) (apart : userId ≠ other) :
    Apart userId store (store.paidOf config other live id) := by
  unfold BillingStore.paidOf
  split
  · exact ⟨rfl, none_suspended_refl store.instances⟩
  · split
    · exact ⟨rfl, none_suspended_refl store.instances⟩
    · exact ⟨writeRow_rows_other apart, resumed_spares _ other⟩

theorem failedOf_apart (apart : userId ≠ other) :
    Apart userId store (store.failedOf config other id) := by
  unfold BillingStore.failedOf
  split
  · exact ⟨rfl, none_suspended_refl store.instances⟩
  · exact written_lapsed_apart _ _ apart

theorem written_lapsed_iff (written : BillingRow) (reason : EntitlementReason) :
    NoneSuspended userId store.instances
        ((store.writeRow userId written).lapsed config userId reason).instances ↔
      ¬Stops config store userId :=
  lapsed_spares_iff (store.writeRow userId written) reason

section

variable (paid : Paid store userId id row)
include paid

theorem paid_boundRow : store.boundRow userId id = some row :=
  boundRow_some.mpr ⟨paid.stored, paid.bound⟩

theorem paid_boundRow_other {second : SubscriptionId} (apart : second ≠ id) :
    store.boundRow userId second = none := by
  cases bound : store.boundRow userId second with
  | none => rfl
  | some held =>
    have ⟨stored, isBound⟩ := boundRow_some.mp bound
    have same := stored.symm.trans paid.stored
    cases same
    have ids := isBound.symm.trans paid.bound
    cases ids
    exact absurd rfl apart

theorem deleted_keeps_iff : Keeps store
        ((handleSubscriptionDeleted config subscription).played (answerBilling outage) store).1
        userId id row ↔
      (subscription.userId = some userId → subscription.id = id →
        row.status = .canceled ∧ ¬Stops config store userId) := by
  cases owner : subscription.userId with
  | none =>
    have ignored : ((handleSubscriptionDeleted config subscription).played
        (answerBilling outage) store).1 = store := by
      simp [handleSubscriptionDeleted, owner]
    rw [ignored]
    simp [keeps_of_same paid (same_refl store)]
  | some other =>
    rw [deleted_played owner]
    by_cases isUser : userId = other
    · subst isUser
      unfold BillingStore.deletedOf
      rw [paid.stored]
      by_cases own : subscription.id = id
      · have bound : row.stripeSubscriptionId = some subscription.id := own ▸ paid.bound
        simp only [if_pos bound]
        unfold Keeps
        rw [lapsed_rows, writeRow_rows_self, written_lapsed_iff]
        simp [own, paid.bound, eq_comm]
      · have elsewhere : row.stripeSubscriptionId ≠ some subscription.id := by
          rw [paid.bound]
          intro same
          cases same
          exact own rfl
        simp only [if_neg elsewhere]
        simp [own, keeps_of_same paid (same_refl store)]
    · have kept : Keeps store (store.deletedOf config other subscription.id) userId id row :=
        keeps_of_apart paid (deletedOf_apart isUser)
      have differs : other ≠ userId := fun same => isUser same.symm
      simp [differs, kept]

theorem paid_keeps (event : Option SubscriptionId) :
    Keeps store ((handleInvoicePaid config event).played (answerBilling outage) store).1
      userId id row := by
  by_cases concerns : ∃ second live other, event = some second ∧
      InvoiceOf outage store second live other
  · have ⟨second, live, other, isEvent, invoice⟩ := concerns
    rw [isEvent, paid_played invoice]
    by_cases isUser : userId = other
    · subst isUser
      by_cases own : second = id
      · subst own
        unfold BillingStore.paidOf
        simp only [paid_boundRow paid]
        split
        · exact keeps_of_same paid (same_refl store)
        · constructor
          · exact ⟨_, writeRow_rows_self, paid.bound, .inl rfl⟩
          · exact resumed_spares (store.writeRow userId _) userId
      · unfold BillingStore.paidOf
        rw [paid_boundRow_other paid own]
        exact keeps_of_same paid (same_refl store)
    · exact keeps_of_apart paid (paidOf_apart live isUser)
  · have ignored := invoice_ignored config outage store event
      fun second live other isEvent invoice =>
        concerns ⟨second, live, other, isEvent, invoice⟩
    rw [ignored.1]
    exact keeps_of_same paid (same_refl store)

theorem failed_keeps_iff (event : Option SubscriptionId) :
    Keeps store ((handlePaymentFailed config event).played (answerBilling outage) store).1
        userId id row ↔
      (event = some id → outage .retrieve = false →
        row.status = .pastDue ∧ ¬Stops config store userId) := by
  have ⟨own, ownFound, ownUser, ownHivra, ownActive⟩ := paid.live
  by_cases concerns : ∃ second live other, event = some second ∧
      InvoiceOf outage store second live other
  · have ⟨second, live, other, isEvent, invoice⟩ := concerns
    rw [isEvent, failed_played invoice]
    by_cases same : second = id
    · subst same
      have isLive : live = own := Option.some.inj (invoice.found.symm.trans ownFound)
      subst isLive
      have isUser : other = userId := Option.some.inj (invoice.isUser.symm.trans ownUser)
      subst isUser
      have going : ¬live.status.terminal = true := by simp [ownActive, StripeStatus.terminal]
      rw [if_neg going]
      unfold BillingStore.failedOf Keeps
      simp only [paid_boundRow paid, lapsed_rows, writeRow_rows_self, written_lapsed_iff]
      simp [invoice.up, paid.bound, eq_comm]
    · have kept : Keeps store
          (if live.status.terminal then store.deletedOf config other live.id
            else store.failedOf config other second) userId id row := by
        by_cases isUser : userId = other
        · subst isUser
          have isId : live.id = second := (find_some.mp invoice.found).2
          have elsewhere : row.stripeSubscriptionId ≠ some second := by
            rw [paid.bound]
            intro ids
            exact same (Option.some.inj ids).symm
          unfold BillingStore.failedOf BillingStore.deletedOf
          simp only [paid_boundRow_other paid same, paid.stored, isId, if_neg elsewhere, ite_self]
          exact keeps_of_same paid (same_refl store)
        · split
          · exact keeps_of_apart paid (deletedOf_apart isUser)
          · exact keeps_of_apart paid (failedOf_apart isUser)
      simp [kept, same]
  · have ignored := invoice_ignored config outage store event
      fun second live other isEvent invoice =>
        concerns ⟨second, live, other, isEvent, invoice⟩
    rw [ignored.2]
    constructor
    · intro _ isEvent up
      exact absurd ⟨id, own, userId, isEvent, up, ownFound, ownHivra, ownUser⟩ concerns
    · intro _
      exact keeps_of_same paid (same_refl store)

/-! ## Runs -/

/-- A handler runs alone, or Stripe, the user and the rest of the platform leave any store. -/
inductive BillingStep
  | handle (event : StripeEvent) (outage : Outage)
  | elsewhere (store : BillingStore)

def stepBilling (config : BillingConfig) (store : BillingStore) : BillingStep → BillingStore
  | .handle event outage => handled config outage event store
  | .elsewhere next => next

def AtHandlers (condition : Outage → StripeEvent → BillingStore → Prop) (store : BillingStore) :
    BillingStep → Prop
  | .handle event outage => condition outage event store
  | .elsewhere _ => True

theorem event_keeps_iff (event : StripeEvent) :
    Keeps store (handled config outage event store) userId id row ↔
      EventSpares config outage store userId id row event := by
  cases event with
  | subscriptionChanged subscription =>
    cases lane : subscription.workspaceCloud with
    | true => simp [handled, StripeEvent.handler, EventSpares, lane,
        keeps_of_same paid (same_refl store)]
    | false => simpa [handled, StripeEvent.handler, EventSpares, lane] using
        change_keeps_iff paid
  | subscriptionDeleted subscription =>
    cases lane : subscription.workspaceCloud with
    | true => simp [handled, StripeEvent.handler, EventSpares, lane,
        keeps_of_same paid (same_refl store)]
    | false => simpa [handled, StripeEvent.handler, EventSpares, lane] using
        deleted_keeps_iff paid
  | invoicePaid subscription => simp [EventSpares, handled, StripeEvent.handler, paid_keeps paid]
  | paymentFailed subscription => exact failed_keeps_iff paid subscription

end

theorem leaves_iff_spares (outage : Outage) (event : StripeEvent) (store : BillingStore) :
    LeavesPaid config outage event store ↔ Spares config outage event store := by
  constructor
  · intro leaves userId id row paid
    exact (event_keeps_iff paid event).mp (leaves userId id row paid)
  · intro spares userId id row paid
    exact (event_keeps_iff paid event).mpr (spares userId id row paid)

/-- In every run, no handler lapses a paid subscription exactly if every handler that runs is
given an event that spares it. -/
theorem paid_stays_iff_spared (config : BillingConfig) (start : BillingStore)
    (history : List BillingStep) :
    Meets (stepBilling config) (AtHandlers (LeavesPaid config)) start history ↔
      Meets (stepBilling config) (AtHandlers (Spares config)) start history := by
  apply meets_congr
  intro store step
  cases step with
  | handle event outage => exact leaves_iff_spares outage event store
  | elsewhere next => exact Iff.rfl

/-! ## A second subscription -/

def proConfig : BillingConfig :=
  { plans := fun key => if key = "pro" then some { maxAgents := 4, priceIds := [] } else none
    legacyHardDelete := false }

def proSubscription (id : SubscriptionId) (status : StripeStatus) (created : Nat) :
    StripeSubscription :=
  { id
    customer := "cus_1"
    userId := some "user_1"
    plan := some "pro"
    workspaceCloud := false
    status
    created
    latestInvoice := some "in_1"
    priceId := none }

def boundRow (id : SubscriptionId) (status : RowStatus) (anchor : Option Int) : BillingRow :=
  { stripeSubscriptionId := some id
    plan := "pro"
    status
    instanceLimit := 4
    gracePeriodEndsAt := anchor }

def runningInstance : Instance :=
  { userId := "user_1"
    status := .running
    lifecycleState := .active
    entitlementReason := none
    deleted := false }

def storeOf (first second : StripeStatus) (row : BillingRow) : BillingStore :=
  { account :=
      { subscriptions := [proSubscription "sub_2" second 2, proSubscription "sub_1" first 1]
        customers := fun _ => some { deleted := false, clerkUserId := some "user_1" }
        paymentIntents := fun _ => some (some "pi_1")
        distinct := by simp [proSubscription] }
    rows := fun userId => if userId = "user_1" then some row else none
    instances := [runningInstance]
    otherLane := fun _ => false
    cancellations := []
    refunds := []
    clock := 0 }

/-- The row is bound to the second subscription, which is active.  A payment of the first one
fails, and the change Stripe reports of it takes the row and suspends the instance. -/
theorem second_subscription_lapses :
    let store := storeOf .pastDue .active (boundRow "sub_2" .active none)
    let event := StripeEvent.subscriptionChanged (proSubscription "sub_1" .pastDue 1)
    let after := handled proConfig (fun _ => false) event store
    Paid store "user_1" "sub_2" (boundRow "sub_2" .active none) ∧
      after.rows "user_1" = some (boundRow "sub_1" .pastDue none) ∧
      after.instances = [runningInstance.suspend .subscriptionPastDue] ∧
      ¬Keeps store after "user_1" "sub_2" (boundRow "sub_2" .active none) := by
  intro store event after
  have rows : after.rows "user_1" = some (boundRow "sub_1" .pastDue none) := by decide +kernel
  have instances : after.instances = [runningInstance.suspend .subscriptionPastDue] := by
    decide +kernel
  have paid : Paid store "user_1" "sub_2" (boundRow "sub_2" .active none) := by
    constructor
    · decide +kernel
    · rfl
    · exact ⟨proSubscription "sub_2" .active 2, by decide +kernel, rfl, rfl, rfl⟩
    · intro other held _ _ active
      simp [store, storeOf] at held
      cases held with
      | inl second => rw [second]; rfl
      | inr first => rw [first] at active; cases active
  have taken : ¬Keeps store after "user_1" "sub_2" (boundRow "sub_2" .active none) := by
    intro ⟨⟨later, stored, bound, _⟩, _⟩
    rw [rows] at stored
    cases stored
    simp [boundRow] at bound
  exact ⟨paid, rows, instances, taken⟩

end Hivra.StripeSubscriptions
