import Hivra.StripeSubscriptions.PaidStays

/-!
# The cutoff after a failed payment

The first failed payment of a subscription anchors the end of its grace in the row.  From there
the subscription's own events are handled in any order, each as often as it is delivered.  A
later failure keeps the anchor only while the row is past due, the payment of an older invoice
clears it, and the change handler writes active what an old event says is active or trialing,
asking Stripe only whether the subscription has ended.
-/

namespace Hivra.StripeSubscriptions

open Hivra.Library

def RowStatus.stripeAccess (status : RowStatus) : Bool :=
  status == .active || status == .pastDue || status == .trialing

def BillingRow.graceExpired (row : BillingRow) (now : Int) : Bool :=
  row.status == .pastDue && row.gracePeriodEndsAt.any fun gracePeriodEndsAt =>
    gracePeriodEndsAt ≤ now

/-- The Stripe plan that `resolveEffectiveSubscription` reports. -/
def stripePlan (store : BillingStore) (userId : UserId) (now : Int) : Option PlanKey :=
  (store.rows userId).bind fun row =>
    if (row.status.stripeAccess && !row.graceExpired now) = true ∧ row.plan ≠ "free" ∧
        0 < row.instanceLimit then
      some row.plan
    else none

structure Lapse where
  id : SubscriptionId
  customer : CustomerId
  userId : UserId
  created : Nat

structure Version where
  status : StripeStatus
  plan : Option PlanKey
  latestInvoice : Option InvoiceId
  priceId : Option PriceId

def Lapse.subscription (lapse : Lapse) (version : Version) : StripeSubscription :=
  { id := lapse.id
    customer := lapse.customer
    userId := some lapse.userId
    plan := version.plan
    workspaceCloud := false
    status := version.status
    created := lapse.created
    latestInvoice := version.latestInvoice
    priceId := version.priceId }

inductive LapseEvent
  | changed (version : Version)
  | deleted (version : Version)
  | invoicePaid
  | paymentFailed

def LapseEvent.event (lapse : Lapse) : LapseEvent → StripeEvent
  | .changed version => .subscriptionChanged (lapse.subscription version)
  | .deleted version => .subscriptionDeleted (lapse.subscription version)
  | .invoicePaid => .invoicePaid (some lapse.id)
  | .paymentFailed => .paymentFailed (some lapse.id)

/-- A handler of one of its events runs alone; or time passes, and whatever else happens leaves
the rows. -/
inductive LapseStep
  | handle (event : LapseEvent) (outage : Outage)
  | elsewhere (next : BillingStore) (elapsed : Nat)

def stepLapse (config : BillingConfig) (lapse : Lapse) (store : BillingStore) :
    LapseStep → BillingStore
  | .handle event outage => handled config outage (event.event lapse) store
  | .elsewhere next elapsed => { next with rows := store.rows, clock := store.clock + elapsed }

structure CutOff (store : BillingStore) (lapse : Lapse) (anchor : Int) (row : BillingRow) :
    Prop where
  stored : store.rows lapse.userId = some row
  bound : row.stripeSubscriptionId = some lapse.id
  anchored : row.gracePeriodEndsAt = some anchor
  inactive : row.status ≠ .active ∧ row.status ≠ .trialing

def IsCutOff (lapse : Lapse) (anchor : Int) (store : BillingStore) : Prop :=
  ∃ row, CutOff store lapse anchor row

/-- The event neither moves nor clears the anchor, and does not make the row active: a change
that says active or trialing does not get through, an invoice is paid only of a subscription
that has ended or whose plan differs from the row's, and a payment fails only while the row is
past due or at the instant of the first failure. -/
def KeepsCutOff (config : BillingConfig) (lapse : Lapse) (anchor : Int) (store : BillingStore) :
    LapseStep → Prop
  | .elsewhere _ _ => True
  | .handle (.changed version) outage =>
    ∀ planKey plan,
      Heard config outage store (lapse.subscription version) lapse.userId planKey plan →
      version.status.nextStatus = .active →
      ¬Proceeds outage store lapse.userId (lapse.subscription version)
  | .handle (.deleted _) _ => True
  | .handle .invoicePaid outage =>
    ∀ live row, InvoiceOf outage store lapse.id live lapse.userId →
      store.rows lapse.userId = some row →
      live.status.terminal = true ∨ row.planDiffers config live = true
  | .handle .paymentFailed outage =>
    ∀ live row, InvoiceOf outage store lapse.id live lapse.userId →
      store.rows lapse.userId = some row → live.status.terminal = false →
      row.status = .pastDue ∨ store.clock + paymentGrace = anchor

variable {config : BillingConfig} {outage : Outage} {store : BillingStore}
variable {lapse : Lapse} {anchor : Int} {row : BillingRow}

section

variable (cut : IsCutOff lapse anchor store)
include cut

theorem stripePlan_cut_off {now : Int} (late : anchor ≤ now) :
    stripePlan store lapse.userId now = none := by
  have ⟨row, stored, _, anchored, inactive⟩ := cut
  unfold stripePlan
  rw [stored, Option.bind_some]
  apply if_neg
  intro ⟨access, _⟩
  cases status : row.status with
  | active => exact inactive.1 status
  | trialing => exact inactive.2 status
  | pastDue => simp [BillingRow.graceExpired, anchored, status, late] at access
  | pending | canceled | inactive => simp [RowStatus.stripeAccess, status] at access

omit cut in
theorem cut_off_of_row {after : BillingStore} {later : BillingRow}
    (stored : after.rows lapse.userId = some later) : IsCutOff lapse anchor after ↔
      later.stripeSubscriptionId = some lapse.id ∧ later.gracePeriodEndsAt = some anchor ∧
        later.status ≠ .active ∧ later.status ≠ .trialing := by
  constructor
  · intro ⟨other, isOther, bound, anchored, inactive⟩
    have same : other = later := Option.some.inj (isOther.symm.trans stored)
    subst same
    exact ⟨bound, anchored, inactive⟩
  · intro ⟨bound, anchored, inactive⟩
    exact ⟨later, stored, bound, anchored, inactive⟩

theorem cut_off_of_rows {after : BillingStore}
    (rows : after.rows lapse.userId = store.rows lapse.userId) : IsCutOff lapse anchor after := by
  have ⟨row, stored, bound, anchored, inactive⟩ := cut
  exact ⟨row, rows.trans stored, bound, anchored, inactive⟩

omit cut in
theorem nextStatus_trialing (status : StripeStatus) : status.nextStatus ≠ .trialing := by
  cases status <;> simp [StripeStatus.nextStatus]

theorem changed_cut_off_iff (version : Version) : IsCutOff lapse anchor
        ((handleSubscriptionChange config (lapse.subscription version)).played
          (answerBilling outage) store).1 ↔
      ∀ planKey plan,
        Heard config outage store (lapse.subscription version) lapse.userId planKey plan →
        version.status.nextStatus = .active →
        ¬Proceeds outage store lapse.userId (lapse.subscription version) := by
  by_cases applies : ∃ planKey plan,
      Heard config outage store (lapse.subscription version) lapse.userId planKey plan ∧
        Proceeds outage store lapse.userId (lapse.subscription version)
  · have ⟨planKey, plan, heard, proceeds⟩ := applies
    have ⟨row, stored, _, anchored, _⟩ := cut
    rw [change_applied heard proceeds, cut_off_of_row applied_row]
    constructor
    · intro ⟨_, _, inactive, _⟩ _ _ _ active
      exact absurd active inactive
    · intro holds
      have inactive : version.status.nextStatus ≠ .active := by
        intro active
        exact holds planKey plan heard active proceeds
      refine ⟨rfl, ?_, inactive, nextStatus_trialing version.status⟩
      simp [stored, anchored]
  · have same : SameBilling store
        ((handleSubscriptionChange config (lapse.subscription version)).played
          (answerBilling outage) store).1 := by
      apply change_same
      intro other planKey plan heard proceeds
      have isUser : other = lapse.userId := (Option.some.inj heard.1).symm
      subst isUser
      exact applies ⟨planKey, plan, heard, proceeds⟩
    constructor
    · intro _ planKey plan heard _ proceeds
      exact applies ⟨planKey, plan, heard, proceeds⟩
    · intro _
      exact cut_off_of_rows cut (by rw [same.rows])

theorem deleted_cut_off : IsCutOff lapse anchor (store.deletedOf config lapse.userId lapse.id) := by
  have ⟨row, stored, bound, anchored, _⟩ := cut
  unfold BillingStore.deletedOf
  simp only [stored, if_pos bound]
  have written : ((store.writeRow lapse.userId
      { row with status := .canceled, instanceLimit := 0 }).lapsed config lapse.userId
        .subscriptionCanceled).rows lapse.userId =
      some { row with status := .canceled, instanceLimit := 0 } := by
    rw [lapsed_rows, writeRow_rows_self]
  rw [cut_off_of_row written]
  exact ⟨bound, anchored, by simp, by simp⟩

omit cut in
theorem cut_boundRow (cut : CutOff store lapse anchor row) :
    store.boundRow lapse.userId lapse.id = some row :=
  boundRow_some.mpr ⟨cut.stored, cut.bound⟩

omit cut in
theorem invoice_cases (id : SubscriptionId) (userId : UserId) :
    (∃ live, InvoiceOf outage store id live userId) ∨
      (∃ live other, userId ≠ other ∧ InvoiceOf outage store id live other) ∨
      ∀ second live other, some id = some second → ¬InvoiceOf outage store second live other := by
  by_cases concerns : ∃ live other, InvoiceOf outage store id live other
  · have ⟨live, other, invoice⟩ := concerns
    by_cases isUser : userId = other
    · exact .inl ⟨live, isUser ▸ invoice⟩
    · exact .inr (.inl ⟨live, other, isUser, invoice⟩)
  · right
    right
    intro second live other same invoice
    have isId : id = second := Option.some.inj same
    exact concerns ⟨live, other, isId ▸ invoice⟩

omit cut in
theorem invoice_unique {id : SubscriptionId} {live again : StripeSubscription}
    {userId other : UserId} (invoice : InvoiceOf outage store id live userId)
    (second : InvoiceOf outage store id again other) : again = live ∧ other = userId := by
  have same : live = again := Option.some.inj (invoice.found.symm.trans second.found)
  subst same
  exact ⟨rfl, Option.some.inj (second.isUser.symm.trans invoice.isUser)⟩

theorem paid_cut_off_iff : IsCutOff lapse anchor
        ((handleInvoicePaid config (some lapse.id)).played (answerBilling outage) store).1 ↔
      ∀ live row, InvoiceOf outage store lapse.id live lapse.userId →
        store.rows lapse.userId = some row →
        live.status.terminal = true ∨ row.planDiffers config live = true := by
  have ⟨row, isRow⟩ := cut
  obtain ⟨live, invoice⟩ | ⟨live, other, apart, invoice⟩ | ignored :=
    invoice_cases lapse.id lapse.userId
  · rw [paid_played invoice]
    unfold BillingStore.paidOf
    simp only [cut_boundRow isRow]
    by_cases skipped : live.status.terminal = true ∨ row.planDiffers config live = true
    · rw [if_pos skipped]
      constructor
      · intro _ again later second stored
        have ⟨same, _⟩ := invoice_unique invoice second
        have sameRow : row = later := Option.some.inj (isRow.stored.symm.trans stored)
        exact same ▸ sameRow ▸ skipped
      · intro _
        exact cut
    · rw [if_neg skipped, cut_off_of_row (resumed_rows ▸ writeRow_rows_self)]
      constructor
      · intro ⟨_, cleared, _⟩
        cases cleared
      · intro holds
        exact absurd (holds live row invoice isRow.stored) skipped
  · rw [paid_played invoice]
    constructor
    · intro _ again later second
      exact absurd (invoice_unique invoice second).2 apart
    · intro _
      exact cut_off_of_rows cut (paidOf_apart live apart).rows
  · rw [(invoice_ignored config outage store (some lapse.id) ignored).1]
    constructor
    · intro _ live later invoice
      exact absurd invoice (ignored lapse.id live lapse.userId rfl)
    · intro _
      exact cut

omit cut in
theorem failedOf_row (isRow : CutOff store lapse anchor row) :
    (store.failedOf config lapse.userId lapse.id).rows lapse.userId =
      some
        { row with
          status := .pastDue
          gracePeriodEndsAt := some (row.anchor.getD (store.clock + paymentGrace)) } := by
  unfold BillingStore.failedOf
  simp only [cut_boundRow isRow]
  rw [lapsed_rows, writeRow_rows_self]

theorem failed_cut_off_iff : IsCutOff lapse anchor
        ((handlePaymentFailed config (some lapse.id)).played (answerBilling outage) store).1 ↔
      ∀ live row, InvoiceOf outage store lapse.id live lapse.userId →
        store.rows lapse.userId = some row → live.status.terminal = false →
        row.status = .pastDue ∨ store.clock + paymentGrace = anchor := by
  have ⟨row, isRow⟩ := cut
  obtain ⟨live, invoice⟩ | ⟨live, other, apart, invoice⟩ | ignored :=
    invoice_cases lapse.id lapse.userId
  · rw [failed_played invoice]
    have isId : live.id = lapse.id := (find_some.mp invoice.found).2
    cases ended : live.status.terminal with
    | true =>
      simp only [if_true, isId]
      constructor
      · intro _ again later second _ going
        have ⟨same, _⟩ := invoice_unique invoice second
        rw [same, ended] at going
        cases going
      · intro _
        exact deleted_cut_off cut
    | false =>
      rw [if_neg (by simp), cut_off_of_row (failedOf_row isRow)]
      have anchored : row.anchor = if row.status = .pastDue then some anchor else none := by
        unfold BillingRow.anchor
        rw [isRow.anchored]
      constructor
      · intro ⟨_, kept, _⟩ again later second stored _
        have sameRow : row = later := Option.some.inj (isRow.stored.symm.trans stored)
        rw [← sameRow]
        by_cases pastDue : row.status = .pastDue
        · exact .inl pastDue
        · rw [anchored, if_neg pastDue] at kept
          exact .inr (Option.some.inj kept)
      · intro holds
        refine ⟨isRow.bound, ?_, by simp, by simp⟩
        by_cases pastDue : row.status = .pastDue
        · rw [anchored, if_pos pastDue]
          rfl
        · have instant := (holds live row invoice isRow.stored ended).resolve_left pastDue
          rw [anchored, if_neg pastDue]
          exact congrArg some instant
  · rw [failed_played invoice]
    constructor
    · intro _ again later second
      exact absurd (invoice_unique invoice second).2 apart
    · intro _
      split
      · exact cut_off_of_rows cut (deletedOf_apart apart).rows
      · exact cut_off_of_rows cut (failedOf_apart apart).rows
  · rw [(invoice_ignored config outage store (some lapse.id) ignored).2]
    constructor
    · intro _ live later invoice
      exact absurd invoice (ignored lapse.id live lapse.userId rfl)
    · intro _
      exact cut

end

theorem step_cut_off_iff (store : BillingStore) (step : LapseStep)
    (cut : IsCutOff lapse anchor store) :
    IsCutOff lapse anchor (stepLapse config lapse store step) ↔
      KeepsCutOff config lapse anchor store step := by
  cases step with
  | elsewhere next elapsed => exact ⟨fun _ => trivial, fun _ => cut_off_of_rows cut rfl⟩
  | handle event outage =>
    cases event with
    | changed version => exact changed_cut_off_iff cut version
    | deleted version =>
      constructor
      · intro _
        trivial
      · intro _
        have isUser : (lapse.subscription version).userId = some lapse.userId := rfl
        have played : stepLapse config lapse store (.handle (.deleted version) outage) =
            store.deletedOf config lapse.userId lapse.id := deleted_played isUser
        rw [played]
        exact deleted_cut_off cut
    | invoicePaid => exact paid_cut_off_iff cut
    | paymentFailed => exact failed_cut_off_iff cut

variable (config) in
theorem first_failure_anchors {live : StripeSubscription}
    (bound : store.boundRow lapse.userId lapse.id = some row) (unanchored : row.anchor = none)
    (invoice : InvoiceOf outage store lapse.id live lapse.userId)
    (going : live.status.terminal = false) : IsCutOff lapse (store.clock + paymentGrace)
      (handled config outage (.paymentFailed (some lapse.id)) store) := by
  have ⟨stored, isBound⟩ := boundRow_some.mp bound
  have played : handled config outage (.paymentFailed (some lapse.id)) store =
      store.failedOf config lapse.userId lapse.id := by
    have played : handled config outage (.paymentFailed (some lapse.id)) store = _ :=
      failed_played invoice
    rw [if_neg (by simp [going])] at played
    exact played
  rw [played]
  have written : (store.failedOf config lapse.userId lapse.id).rows lapse.userId =
      some
        { row with
          status := .pastDue
          gracePeriodEndsAt := some (store.clock + paymentGrace) } := by
    unfold BillingStore.failedOf
    simp only [bound, unanchored]
    rw [lapsed_rows, writeRow_rows_self]
    rfl
  rw [cut_off_of_row written]
  exact ⟨isBound, rfl, by simp, by simp⟩

/-- From the first failed payment on, the row keeps its anchor and is not active, and from the
anchor on the Stripe plan is not reported, exactly if every event that is handled keeps the
cutoff. -/
theorem cut_off_iff_kept (config : BillingConfig) (lapse : Lapse) (start : BillingStore)
    (outage : Outage) (row : BillingRow) (live : StripeSubscription)
    (bound : start.boundRow lapse.userId lapse.id = some row) (unanchored : row.anchor = none)
    (invoice : InvoiceOf outage start lapse.id live lapse.userId)
    (going : live.status.terminal = false) (history : List LapseStep) :
    (∀ early, early <+: history →
      IsCutOff lapse (start.clock + paymentGrace)
          (early.foldl (stepLapse config lapse)
            (handled config outage (.paymentFailed (some lapse.id)) start)) ∧
        ∀ now, start.clock + paymentGrace ≤ now →
          stripePlan
            (early.foldl (stepLapse config lapse)
              (handled config outage (.paymentFailed (some lapse.id)) start))
            lapse.userId now = none) ↔
      Meets (stepLapse config lapse)
        (KeepsCutOff config lapse (start.clock + paymentGrace))
        (handled config outage (.paymentFailed (some lapse.id)) start) history := by
  have anchored := first_failure_anchors config bound unanchored invoice going
  rw [← always_iff_meets history anchored fun store step cut => step_cut_off_iff store step cut]
  constructor
  · intro always early isPart
    exact (always early isPart).1
  · intro always early isPart
    have cut := always early isPart
    exact ⟨cut, fun now late => stripePlan_cut_off cut late⟩

def proLapse : Lapse :=
  { id := "sub_1"
    customer := "cus_1"
    userId := "user_1"
    created := 1 }

def proVersion (status : StripeStatus) : Version :=
  { status
    plan := some "pro"
    latestInvoice := some "in_1"
    priceId := none }

def lapsedStore : BillingStore := storeOf .pastDue .canceled (boundRow "sub_1" .active none)

theorem lapsed_invoice :
    InvoiceOf (fun _ => false) lapsedStore "sub_1" (proSubscription "sub_1" .pastDue 1) "user_1" := by
  constructor
  · rfl
  · decide +kernel
  · rfl
  · rfl

/-- An event that says the subscription is past due keeps the cutoff of its failed payment. -/
theorem past_due_kept : IsCutOff proLapse paymentGrace
      (handled proConfig (fun _ => false) (.subscriptionChanged (proSubscription "sub_1" .pastDue 1))
        (handled proConfig (fun _ => false) (.paymentFailed (some "sub_1")) lapsedStore)) := by
  have kept := (cut_off_iff_kept proConfig proLapse lapsedStore (fun _ => false)
    (boundRow "sub_1" .active none) (proSubscription "sub_1" .pastDue 1) (by decide +kernel) rfl
    lapsed_invoice rfl [.handle (.changed (proVersion .pastDue)) fun _ => false]).mpr (by
      constructor
      · intro planKey plan _ active
        cases active
      · trivial) _ (List.prefix_refl _)
  exact kept.1

/-- The payment fails, and an event from when the subscription was active is delivered again:
the row is active, and the Stripe plan is reported long after the end of the grace. -/
theorem old_event_revives :
    let failed := handled proConfig (fun _ => false) (.paymentFailed (some "sub_1")) lapsedStore
    let revived := stepLapse proConfig proLapse failed
      (.handle (.changed (proVersion .active)) fun _ => false)
    (lapsedStore.account.find "sub_1").map StripeSubscription.status = some .pastDue ∧
      failed.rows "user_1" = some (boundRow "sub_1" .pastDue (some paymentGrace)) ∧
      revived.rows "user_1" = some (boundRow "sub_1" .active (some paymentGrace)) ∧
      stripePlan failed "user_1" (2 * paymentGrace) = none ∧
      stripePlan revived "user_1" (2 * paymentGrace) = some "pro" := by
  decide +kernel

end Hivra.StripeSubscriptions
