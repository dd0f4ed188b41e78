import Mathlib.Data.List.Induction
import Mathlib.Data.List.Infix
import Mathlib.Data.List.Nodup
import Hivra.Library.FollowedRows
import Hivra.StripeSubscriptions.DuplicateRuns
import Hivra.StripeSubscriptions.PaidStays

/-!
# Only duplicates are canceled

A run cancels the subscription of its event beside an older one it saw active, and refunds it
once it is canceled.  Three things lie outside what a run can see.  The subscription itself may
not be active when an old event of it is handled.  What it relies on, that the survivor is active
or that the subscription is not canceled, may change before it acts on it.  And a subscription
that is found to have ended need not have been a duplicate.
-/

namespace Hivra.StripeSubscriptions

open Hivra.Library Typestate

abbrev BillingWorld : Type :=
  World BillingCall BillingCall.Reply String Unit (Watched BillingStore RunState)

abbrev BillingEvent : Type := Event SubscriptionEvent BillingTurn BillingChange

abbrev watchedBilling (config : BillingConfig) :
    System SubscriptionEvent BillingCall BillingCall.Reply String Unit
      (Watched BillingStore RunState) BillingTurn BillingChange :=
  billingTypestate.watch (billingSystem config)

def emptyStore : BillingStore :=
  { account :=
      { subscriptions := []
        customers := fun _ => none
        paymentIntents := fun _ => none
        distinct := List.nodup_nil }
    rows := fun _ => none
    instances := []
    otherLane := fun _ => false
    cancellations := []
    refunds := []
    clock := 0 }

def startBilling : BillingWorld := billingTypestate.start emptyStore

/-! ## What a run relies on -/

def StripeAccount.isActive (account : StripeAccount) (id : SubscriptionId) : Bool :=
  (account.find id).any fun live => live.status == .active

def StripeAccount.isCanceled (account : StripeAccount) (id : SubscriptionId) : Bool :=
  (account.find id).any fun live => live.status == .canceled

def RunState.relies (state : RunState) (account : StripeAccount) : Bool :=
  match state with
  | .doomed _ survivor _ => account.isActive survivor.id
  | .seen subscription => !account.isCanceled subscription.id
  | .checked subscription =>
    subscription.status != .trialing || !account.isCanceled subscription.id
  | _ => true

/-! ## The condition -/

def Unharmed (world : BillingWorld) (after : StripeAccount) (own : Option Nat) : Prop :=
  ∀ number < world.runs.length, own ≠ some number → world.waits number = true →
    (world.store.states number).relies world.store.store.account = true →
      (world.store.states number).relies after = true

def RunState.isShown (state : RunState) : Bool :=
  match state with
  | .doomed _ _ shown => shown
  | _ => true

def RunState.repairs (state : RunState) (cancellations : List SubscriptionId) : Bool :=
  match state with
  | .ended subscription => cancellations.contains subscription.id
  | _ => true

/-- A trialing subscription is not canceled yet, a subscription that is canceled was itself in
the list, and one that is refunded because it has ended was canceled by a run. -/
def BillingCall.fair (call : BillingCall) (turn : BillingTurn) (store : BillingStore)
    (state : RunState) : Bool :=
  match call with
  | .retrieveCustomer subscription =>
    subscription.status != .trialing || !store.account.isCanceled subscription.id
  | .cancel id => turn.fails || !store.account.cancelable id || state.isShown
  | .refund _ _ => turn.fails || state.repairs store.cancellations
  | _ => true

def fairAt (world : BillingWorld) (number : Nat) (turn : BillingTurn) : Bool :=
  match world.runs[number]? with
  | some (some (.call request _)) =>
    request.fair turn world.store.store (world.store.states number)
  | _ => true

def Orderly (config : BillingConfig) (world : BillingWorld) (event : BillingEvent) : Prop :=
  match event with
  | .start _ => True
  | .stop _ => True
  | .outside _ =>
    Unharmed world ((watchedBilling config).step world event).store.store.account none
  | .advance number turn =>
    fairAt world number turn = true ∧
      Unharmed world ((watchedBilling config).step world event).store.store.account
        (some number)

instance (world : BillingWorld) (after : StripeAccount) (own : Option Nat) :
    Decidable (Unharmed world after own) :=
  inferInstanceAs (Decidable (∀ number < world.runs.length, _ → _ → _ → _))

instance (config : BillingConfig) (world : BillingWorld) (event : BillingEvent) :
    Decidable (Orderly config world event) :=
  match event with
  | .start _ => instDecidableTrue
  | .stop _ => instDecidableTrue
  | .outside _ => inferInstanceAs (Decidable (Unharmed _ _ _))
  | .advance _ _ => inferInstanceAs (Decidable (_ ∧ Unharmed _ _ _))

/-! ## The properties -/

def StripeSubscription.activeOf (subscription : StripeSubscription) (userId : UserId) : Prop :=
  subscription.userId = some userId ∧ subscription.workspaceCloud = false ∧
    subscription.status = .active

def Doubled (account : StripeAccount) (id : SubscriptionId) : Prop :=
  ∃ userId, ∃ newer ∈ account.subscriptions, ∃ older ∈ account.subscriptions,
    newer.id = id ∧ newer.activeOf userId ∧ older.activeOf userId ∧
      older.created < newer.created

def OldestActive (account : StripeAccount) (id : SubscriptionId) : Prop :=
  ∃ userId, ∃ oldest ∈ account.subscriptions, oldest.id = id ∧ oldest.activeOf userId ∧
    ∀ other ∈ account.subscriptions, other.activeOf userId → oldest.created ≤ other.created

def CancelsOldest (world : BillingWorld) : BillingEvent → Prop
  | .advance number turn =>
    ∃ id next, world.runs[number]? = some (some (.call (.cancel id) next)) ∧
      turn.fails = false ∧ OldestActive world.store.store.account id
  | _ => False

/-- The step writes a subscription as active that is canceled, and the run was not refused its
live status. -/
def RevivesCanceled (world : BillingWorld) : BillingEvent → Prop
  | .advance number turn =>
    ∃ userId id plan instanceLimit next,
      world.runs[number]? =
        some (some (.call (.upsertRow userId id plan .active instanceLimit) next)) ∧
      turn.fails = false ∧ world.store.store.account.isCanceled id = true ∧
      ∀ subscription, world.store.states number ≠ .unread subscription
  | _ => False

/-! ## Accounts -/

def Evolves (account after : StripeAccount) : Prop :=
  ∀ subscription ∈ account.subscriptions, ∃ later ∈ after.subscriptions,
    later.id = subscription.id ∧ later.userId = subscription.userId ∧
      later.workspaceCloud = subscription.workspaceCloud ∧ later.created = subscription.created

def Ordered (account : StripeAccount) : Prop :=
  account.subscriptions.Pairwise fun newer older => older.created < newer.created

variable {account after : StripeAccount} {subscription survivor : StripeSubscription}
variable {store : BillingStore} {turn : BillingTurn} {state : RunState}

theorem evolves_refl (account : StripeAccount) : Evolves account account := by
  intro subscription there
  exact ⟨subscription, there, rfl, rfl, rfl, rfl⟩

theorem amend_evolves {change : StripeSubscription → StripeSubscription}
    {keeps : ∀ subscription, (change subscription).id = subscription.id}
    (same : ∀ subscription, (change subscription).userId = subscription.userId ∧
      (change subscription).workspaceCloud = subscription.workspaceCloud ∧
      (change subscription).created = subscription.created) :
    Evolves account (account.amend change keeps) := by
  intro subscription there
  exact ⟨change subscription, List.mem_map_of_mem there, keeps subscription, same subscription⟩

theorem amend_ordered {change : StripeSubscription → StripeSubscription}
    {keeps : ∀ subscription, (change subscription).id = subscription.id}
    (same : ∀ subscription, (change subscription).created = subscription.created)
    (ordered : Ordered account) : Ordered (account.amend change keeps) := by
  unfold Ordered StripeAccount.amend
  rw [List.pairwise_map]
  apply List.Pairwise.imp _ ordered
  intro newer older before
  rw [same newer, same older]
  exact before

theorem cancel_evolves (id : SubscriptionId) : Evolves account (account.cancel id) := by
  apply amend_evolves
  intro subscription
  split <;> exact ⟨rfl, rfl, rfl⟩

theorem cancel_ordered (id : SubscriptionId) (ordered : Ordered account) :
    Ordered (account.cancel id) := by
  apply amend_ordered _ ordered
  intro subscription
  split <;> rfl

theorem change_evolves (change : AccountChange) : Evolves account (account.change change) := by
  cases change with
  | create subscription =>
    simp only [StripeAccount.change, StripeAccount.create]
    split
    · intro held there
      exact ⟨held, List.mem_cons_of_mem subscription there, rfl, rfl, rfl, rfl⟩
    · exact evolves_refl account
  | update id amendment =>
    change Evolves account (account.update id amendment)
    unfold StripeAccount.update
    apply amend_evolves
    intro subscription
    split <;> exact ⟨rfl, rfl, rfl⟩
  | setCustomer customer state => exact evolves_refl account
  | setInvoice invoice intent => exact evolves_refl account

theorem change_ordered (change : AccountChange) (ordered : Ordered account) :
    Ordered (account.change change) := by
  cases change with
  | create subscription =>
    simp only [StripeAccount.change, StripeAccount.create]
    split
    · rename_i fresh
      exact List.pairwise_cons.mpr ⟨fresh.2, ordered⟩
    · exact ordered
  | update id amendment =>
    change Ordered (account.update id amendment)
    unfold StripeAccount.update
    apply amend_ordered _ ordered
    intro subscription
    split <;> rfl
  | setCustomer customer state => exact ordered
  | setInvoice invoice intent => exact ordered

theorem created_distinct {other : StripeSubscription} (ordered : Ordered account)
    (there : subscription ∈ account.subscriptions) (otherThere : other ∈ account.subscriptions)
    (same : subscription.created = other.created) : subscription = other := by
  have distinct : (account.subscriptions.map StripeSubscription.created).Nodup := by
    unfold List.Nodup
    rw [List.pairwise_map]
    apply List.Pairwise.imp _ ordered
    intro newer older before
    omega
  exact List.inj_on_of_nodup_map distinct there otherThere same

variable {id : SubscriptionId} {customer : CustomerId}

theorem isActive_iff : account.isActive id = true ↔
      ∃ live ∈ account.subscriptions, live.id = id ∧ live.status = .active := by
  unfold StripeAccount.isActive
  rw [Option.any_eq_true]
  constructor
  · intro ⟨live, found, active⟩
    have ⟨there, isId⟩ := find_some.mp found
    exact ⟨live, there, isId, by simpa using active⟩
  · intro ⟨live, there, isId, active⟩
    exact ⟨live, find_some.mpr ⟨there, isId⟩, by simpa using active⟩

theorem not_canceled_of (found : account.find id = some subscription)
    (status : subscription.status ≠ .canceled) : account.isCanceled id = false := by
  simp [StripeAccount.isCanceled, found, status]

/-! ## What a run knows -/

def Elder (account : StripeAccount) (id elderId : SubscriptionId) : Prop :=
  ∃ userId, ∃ live ∈ account.subscriptions, ∃ elder ∈ account.subscriptions,
    live.id = id ∧ elder.id = elderId ∧ live.userId = some userId ∧
      elder.userId = some userId ∧ elder.workspaceCloud = false ∧
      elder.created < live.created

theorem elder_evolves {elderId : SubscriptionId} (evolves : Evolves account after)
    (elder : Elder account id elderId) : Elder after id elderId := by
  have ⟨userId, live, liveThere, elder, elderThere, isLive, isElder, liveUser, elderUser,
    hivra, before⟩ := elder
  have ⟨nextLive, nextThere, liveId, nextUser, _, nextCreated⟩ := evolves live liveThere
  have ⟨nextElder, nextElderThere, elderId, nextElderUser, nextHivra, nextElderCreated⟩ :=
    evolves elder elderThere
  refine ⟨userId, nextLive, nextThere, nextElder, nextElderThere, liveId.trans isLive,
    elderId.trans isElder, nextUser.trans liveUser, nextElderUser.trans elderUser,
    nextHivra.trans hivra, ?_⟩
  rw [nextCreated, nextElderCreated]
  exact before

def RunState.Known (was : SubscriptionId → Prop) (account : StripeAccount)
    (state : RunState) : Prop :=
  match state with
  | .doomed subscription survivor shown =>
    shown = true → was subscription.id ∧ Elder account subscription.id survivor.id
  | .canceled subscription => was subscription.id
  | _ => True

variable {was : SubscriptionId → Prop}

theorem known_evolves (evolves : Evolves account after)
    (known : state.Known was account) : state.Known was after := by
  cases state with
  | doomed subscription survivor shown =>
    intro isShown
    have ⟨doubled, elder⟩ := known isShown
    exact ⟨doubled, elder_evolves evolves elder⟩
  | canceled subscription => exact known
  | unchecked | checked _ | unlisted _ | seen _ | ended _ | unread _ => trivial

theorem known_mono {was later : SubscriptionId → Prop} (mono : ∀ id, was id → later id)
    (known : state.Known was account) : state.Known later account := by
  cases state with
  | doomed subscription survivor shown =>
    intro isShown
    have ⟨doubled, elder⟩ := known isShown
    exact ⟨mono _ doubled, elder⟩
  | canceled subscription => exact mono _ known
  | unchecked | checked _ | unlisted _ | seen _ | ended _ | unread _ => trivial

theorem list_doomed (ordered : Ordered account)
    (found : survivorFor subscription (account.listActive customer) = some survivor) :
    account.isActive survivor.id = true ∧
      (subscription.shownIn (account.listActive customer) = true →
        Doubled account subscription.id ∧ Elder account subscription.id survivor.id) := by
  unfold survivorFor at found
  have ⟨userId, isUser, survives⟩ := Option.bind_eq_some_iff.mp found
  unfold survivorOf at survives
  split at survives
  · have ⟨least, apart⟩ := Option.filter_eq_some_iff.mp survives
    have inHermes := List.argmin_mem least
    have ⟨listed, chosen⟩ := List.mem_filter.mp inHermes
    have ⟨there, _, active⟩ := listed_active listed
    simp only [decide_eq_true_eq] at chosen
    refine ⟨isActive_iff.mpr ⟨survivor, there, rfl, active⟩, ?_⟩
    intro shown
    simp only [StripeSubscription.shownIn, isUser, Option.any_some] at shown
    have ⟨live, liveHermes, isLive⟩ := List.any_eq_true.mp shown
    have ⟨liveListed, liveChosen⟩ := List.mem_filter.mp liveHermes
    have ⟨liveThere, _, liveActive⟩ := listed_active liveListed
    simp only [decide_eq_true_eq] at liveChosen isLive apart
    have atMost := List.le_of_mem_argmin liveHermes least
    have before : survivor.created < live.created := by
      apply Nat.lt_of_le_of_ne atMost
      intro same
      have isOne := created_distinct ordered there liveThere same
      exact apart (isOne ▸ isLive)
    constructor
    · exact ⟨userId, live, liveThere, survivor, there, isLive,
        ⟨liveChosen.1, liveChosen.2, liveActive⟩, ⟨chosen.1, chosen.2, active⟩, before⟩
    · exact ⟨userId, live, liveThere, survivor, there, isLive, rfl, liveChosen.1, chosen.1,
        chosen.2, before⟩
  · cases survives

/-! ## Requests -/

inductive AtStripe (call : BillingCall) (turn : BillingTurn) (store : BillingStore) :
    BillingStore → Prop
  | same (after : BillingStore) (account : after.account = store.account)
      (cancellations : after.cancellations = store.cancellations)
      (refunds : after.refunds = store.refunds) : AtStripe call turn store after
  | canceled (id : SubscriptionId) (isCall : call = .cancel id) (succeeds : turn.fails = false)
      (cancelable : store.account.cancelable id = true) :
      AtStripe call turn store
        { store with
          account := store.account.cancel id
          cancellations := store.cancellations ++ [id] }
  | refunded (id : SubscriptionId) (intent : PaymentIntentId) (isCall : call = .refund id intent)
      (succeeds : turn.fails = false) (first : id ∉ store.refunds.map Prod.fst) :
      AtStripe call turn store { store with refunds := store.refunds ++ [(id, intent)] }

theorem updateBound_at_stripe (call : BillingCall) (userId : UserId) (id : SubscriptionId)
    (selected : BillingRow → Bool) (change : BillingRow → BillingRow) :
    AtStripe call turn store (store.updateBound userId id selected change).1 := by
  unfold BillingStore.updateBound
  split
  · exact .same store rfl rfl rfl
  · exact .same _ rfl rfl rfl

theorem perform_at_stripe (call : BillingCall) (turn : BillingTurn) (store : BillingStore) :
    AtStripe call turn store (performBilling call turn store).1 := by
  cases call with
  | upsertRow | restoreScheduledDeletions | resumeBillingSuspendedInstances
  | scheduleInstancesForDeletion | suspendInstancesForBilling =>
    cases fails : turn.fails with
    | true =>
      simp only [performBilling, fails, if_true]
      exact .same store rfl rfl rfl
    | false =>
      simp only [performBilling, fails, Bool.false_eq_true, if_false]
      exact .same _ rfl rfl rfl
  | cancelRow userId id | markPastDue userId id anchor | activateRow userId id plan =>
    cases fails : turn.fails with
    | true =>
      simp only [performBilling, fails, if_true]
      exact .same store rfl rfl rfl
    | false =>
      simp only [performBilling, fails, Bool.false_eq_true, if_false]
      apply updateBound_at_stripe
  | cancel id =>
    simp only [performBilling]
    split
    · exact .same store rfl rfl rfl
    · rename_i succeeds
      rw [not_or] at succeeds
      exact .canceled id rfl (by simpa using succeeds.1) (by simpa using succeeds.2)
  | refund id intent =>
    cases fails : turn.fails with
    | true =>
      simp only [performBilling, fails, if_true]
      exact .same store rfl rfl rfl
    | false =>
      simp only [performBilling, fails, Bool.false_eq_true, if_false,
        BillingStore.recordRefund]
      split
      · exact .same store rfl rfl rfl
      · rename_i first
        exact .refunded id intent rfl fails first
  | _ => exact .same store rfl rfl rfl

theorem perform_account {call : BillingCall} (keeps : ∀ id, call ≠ .cancel id) :
    (performBilling call turn store).1.account = store.account := by
  have done := perform_at_stripe call turn store
  generalize (performBilling call turn store).1 = after at done ⊢
  cases done with
  | same after account cancellations refunds => exact account
  | canceled id isCall succeeds cancelable => exact absurd isCall (keeps id)
  | refunded id intent isCall succeeds first => rfl

theorem perform_evolves (call : BillingCall) (turn : BillingTurn) :
    Evolves store.account (performBilling call turn store).1.account := by
  have done := perform_at_stripe call turn store
  generalize (performBilling call turn store).1 = after at done ⊢
  cases done with
  | same after account cancellations refunds =>
    rw [account]
    exact evolves_refl store.account
  | canceled id isCall succeeds cancelable => exact cancel_evolves id
  | refunded id intent isCall succeeds first => exact evolves_refl store.account

theorem perform_ordered (call : BillingCall) (ordered : Ordered store.account) :
    Ordered (performBilling call turn store).1.account := by
  have done := perform_at_stripe call turn store
  generalize (performBilling call turn store).1 = after at done ⊢
  cases done with
  | same after account cancellations refunds =>
    rw [account]
    exact ordered
  | canceled id isCall succeeds cancelable => exact cancel_ordered id ordered
  | refunded id intent isCall succeeds first => exact ordered

theorem list_after (ordered : Ordered account) (now : ∀ id, Doubled account id → was id) :
    (RunState.ofList subscription (account.listActive customer)).relies account = true ∧
      (RunState.ofList subscription (account.listActive customer)).Known was account := by
  unfold RunState.ofList
  cases found : survivorFor subscription (account.listActive customer) with
  | some survivor =>
    have ⟨active, doubled⟩ := list_doomed ordered found
    constructor
    · exact active
    · intro shown
      exact ⟨now _ (doubled shown).1, (doubled shown).2⟩
  | none =>
    by_cases shown : ((account.listActive customer).any
        fun other => other.id = subscription.id) = true
    · simp only [if_pos shown]
      have ⟨live, listed, isLive⟩ := List.any_eq_true.mp shown
      have ⟨there, _, active⟩ := listed_active listed
      have found : account.find subscription.id = some live :=
        find_some.mpr ⟨there, by simpa using isLive⟩
      have going := not_canceled_of found (by simp [active])
      exact ⟨by simp [RunState.relies, going], trivial⟩
    · simp only [if_neg shown]
      exact ⟨rfl, trivial⟩

theorem retrieve_after (isId : subscription.id = id) :
    ((RunState.unlisted subscription).afterRetrieve (account.find id)).relies account = true ∧
      ((RunState.unlisted subscription).afterRetrieve (account.find id)).Known was account := by
  cases found : account.find id with
  | none => exact ⟨rfl, trivial⟩
  | some live =>
    cases ended : live.status.terminal with
    | true =>
      simp only [RunState.afterRetrieve, ended, if_true]
      exact ⟨rfl, trivial⟩
    | false =>
      simp only [RunState.afterRetrieve, ended, Bool.false_eq_true, if_false]
      have status : live.status ≠ .canceled := by
        intro canceled
        rw [canceled] at ended
        cases ended
      have going := not_canceled_of (isId ▸ found) status
      exact ⟨by simp [RunState.relies, going], trivial⟩

theorem own_after (call : BillingCall)
    (ordered : Ordered store.account) (now : ∀ id, Doubled store.account id → was id)
    (permitted : call.permitted state) (fair : call.fair turn store state = true)
    (relies : state.relies store.account = true) (known : state.Known was store.account) :
    let performed := performBilling call turn store
    (state.moved call performed.2).relies performed.1.account = true ∧
      (state.moved call performed.2).Known was performed.1.account := by
  intro performed
  cases call with
  | retrieveCustomer subscription =>
    constructor
    · exact fair
    · trivial
  | listActive subscription =>
    cases fails : turn.fails with
    | true =>
      simp only [performed, performBilling, fails, if_true]
      exact ⟨relies, known⟩
    | false =>
      simp only [performed, performBilling, fails, Bool.false_eq_true, if_false]
      exact list_after ordered now
  | retrieve id =>
    obtain ⟨subscription, isState, isId⟩ := permitted
    subst isState
    cases fails : turn.fails with
    | true =>
      simp only [performed, performBilling, fails, if_true]
      exact ⟨rfl, trivial⟩
    | false =>
      simp only [performed, performBilling, fails, Bool.false_eq_true, if_false]
      exact retrieve_after isId
  | cancel id =>
    obtain ⟨subscription, survivor, shown, isState, isId⟩ := permitted
    subst isState
    by_cases refused : turn.fails = true ∨ store.account.cancelable id = false
    · simp only [performed, performBilling, if_pos refused]
      exact ⟨relies, known⟩
    · simp only [performed, performBilling, if_neg refused]
      rw [not_or, Bool.not_eq_true, Bool.not_eq_false] at refused
      have isShown : shown = true := by
        simpa [BillingCall.fair, RunState.isShown, refused.1, refused.2] using fair
      exact ⟨rfl, (known isShown).1⟩
  | _ =>
    have account : performed.1.account = store.account := by
      apply perform_account
      intro id isCancel
      cases isCancel
    rw [account]
    exact ⟨relies, known⟩

/-! ## The invariant -/

variable {config : BillingConfig} {world : BillingWorld} {was : SubscriptionId → Prop}

structure Sound (was : SubscriptionId → Prop) (world : BillingWorld) : Prop where
  stages : billingTypestate.AllKeep Anyhow Anyhow world
  ordered : Ordered world.store.store.account
  cancellations : ∀ id ∈ world.store.store.cancellations, was id
  refunds : ∀ id ∈ world.store.store.refunds.map Prod.fst, was id
  once : (world.store.store.refunds.map Prod.fst).Nodup
  relies : ∀ number, world.waits number = true →
    (world.store.states number).relies world.store.store.account = true
  known : ∀ number, world.waits number = true →
    (world.store.states number).Known was world.store.store.account

theorem sound_mono {later : SubscriptionId → Prop} (mono : ∀ id, was id → later id)
    (sound : Sound was world) : Sound later world := by
  constructor
  · exact sound.stages
  · exact sound.ordered
  · intro id there
    exact mono id (sound.cancellations id there)
  · intro id there
    exact mono id (sound.refunds id there)
  · exact sound.once
  · exact sound.relies
  · intro number waits
    exact known_mono mono (sound.known number waits)

theorem sound_start (was : SubscriptionId → Prop) : Sound was startBilling := by
  constructor
  · exact start_keeps emptyStore
  · exact List.Pairwise.nil
  · intro id there
    cases there
  · intro id there
    cases there
  · exact List.nodup_nil
  · intro number waits
    cases waits
  · intro number waits
    cases waits

theorem stages_step (config : BillingConfig) (event : BillingEvent)
    (all : billingTypestate.AllKeep Anyhow Anyhow world) :
    billingTypestate.AllKeep Anyhow Anyhow ((watchedBilling config).step world event) := by
  have programs : ∀ job, billingTypestate.Keeps Anyhow Anyhow
      ((billingSystem config).program job) billingTypestate.fresh := event_stages config
  exact keep_step programs event all

theorem sound_outside (change : BillingChange)
    (unharmed : Unharmed world ((billingSystem config).change change world.store.store).account
      none)
    (sound : Sound was world) :
    Sound was ((watchedBilling config).step world (.outside change)) := by
  have evolves : Evolves world.store.store.account
      ((billingSystem config).change change world.store.store).account := by
    cases change with
    | stripe change => exact change_evolves change
    | elsewhere => exact evolves_refl _
  constructor
  · exact stages_step config (.outside change) sound.stages
  · cases change with
    | stripe change => exact change_ordered change sound.ordered
    | elsewhere => exact sound.ordered
  · cases change <;> exact sound.cancellations
  · cases change <;> exact sound.refunds
  · cases change <;> exact sound.once
  · intro number waits
    exact unharmed number (waits_inside waits) (by simp) waits (sound.relies number waits)
  · intro number waits
    exact known_evolves evolves (sound.known number waits)

variable (config) in
theorem step_request {number : Nat} {request : BillingCall}
    {next : request.Reply → BillingScript Unit}
    (current : world.runs[number]? = some (some (.call request next))) (turn : BillingTurn) :
    (watchedBilling config).step world (.advance number turn) =
      { store :=
          { store := (performBilling request turn world.store.store).1
            states := fun other =>
              if other = number then
                (world.store.states number).moved request
                  (performBilling request turn world.store.store).2
              else world.store.states other }
        runs := world.runs.set number
          (some (next (performBilling request turn world.store.store).2)) } :=
  step_advance current turn

theorem sound_advance {number : Nat} {request : BillingCall}
    {next : request.Reply → BillingScript Unit}
    (current : world.runs[number]? = some (some (.call request next)))
    (fair : request.fair turn world.store.store (world.store.states number) = true)
    (unharmed : Unharmed world (performBilling request turn world.store.store).1.account
      (some number))
    (now : ∀ id, Doubled world.store.store.account id → was id) (sound : Sound was world) :
    Sound was ((watchedBilling config).step world (.advance number turn)) := by
  have stages := stages_step config (.advance number turn) sound.stages
  have permitted : request.permitted (world.store.states number) :=
    (sound.stages.keeps number _ current).1
  have waits : world.waits number = true := by simp [World.waits, current]
  have own := own_after request sound.ordered now permitted fair (sound.relies number waits)
    (sound.known number waits)
  have done := perform_at_stripe request turn world.store.store
  have stepped := step_request config current turn
  have others : ∀ other, other ≠ number →
      ((watchedBilling config).step world (.advance number turn)).waits other = true →
      world.waits other = true := by
    intro other apart otherWaits
    rw [stepped] at otherWaits
    unfold World.waits at otherWaits ⊢
    rwa [List.getElem?_set_ne (Ne.symm apart)] at otherWaits
  rw [stepped] at stages others ⊢
  constructor
  · exact stages
  · exact perform_ordered request sound.ordered
  · change ∀ id ∈ (performBilling request turn world.store.store).1.cancellations, was id
    generalize (performBilling request turn world.store.store).1 = after at done ⊢
    cases done with
    | same after account cancellations refunds =>
      rw [cancellations]
      exact sound.cancellations
    | refunded id intent isCall succeeds first => exact sound.cancellations
    | canceled id isCall succeeds cancelable =>
      intro canceled there
      cases List.mem_append.mp there with
      | inl before => exact sound.cancellations canceled before
      | inr last =>
        rw [List.mem_singleton.mp last]
        subst isCall
        obtain ⟨subscription, survivor, shown, isState, isId⟩ := permitted
        have known := sound.known number waits
        rw [isState] at known fair
        have isShown : shown = true := by
          simpa [BillingCall.fair, RunState.isShown, succeeds, cancelable] using fair
        exact isId ▸ (known isShown).1
  · change ∀ id ∈ (performBilling request turn world.store.store).1.refunds.map Prod.fst, was id
    generalize (performBilling request turn world.store.store).1 = after at done ⊢
    cases done with
    | same after account cancellations refunds =>
      rw [refunds]
      exact sound.refunds
    | canceled id isCall succeeds cancelable => exact sound.refunds
    | refunded id intent isCall succeeds first =>
      intro refunded there
      simp only [List.map_append, List.mem_append, List.map_cons, List.map_nil,
        List.mem_singleton] at there
      cases there with
      | inl before => exact sound.refunds refunded before
      | inr last =>
        subst last isCall
        obtain ⟨subscription, isState, isId⟩ := permitted
        cases isState with
        | inl canceled =>
          have known := sound.known number waits
          rw [canceled] at known
          exact isId ▸ known
        | inr ended =>
          rw [ended] at fair
          have repairs : subscription.id ∈ world.store.store.cancellations := by
            simpa [BillingCall.fair, RunState.repairs, succeeds] using fair
          exact isId ▸ sound.cancellations _ repairs
  · change ((performBilling request turn world.store.store).1.refunds.map Prod.fst).Nodup
    generalize (performBilling request turn world.store.store).1 = after at done ⊢
    cases done with
    | same after account cancellations refunds =>
      rw [refunds]
      exact sound.once
    | canceled id isCall succeeds cancelable => exact sound.once
    | refunded id intent isCall succeeds first =>
      simp only [List.map_append, List.map_cons, List.map_nil]
      exact List.nodup_append.mpr ⟨sound.once, List.nodup_singleton id, by
        intro before there last isLast
        rw [List.mem_singleton.mp isLast]
        intro same
        exact first (same ▸ there)⟩
  · intro other otherWaits
    by_cases apart : other = number
    · subst apart
      simpa using own.1
    · have waited := others other apart otherWaits
      have relies := unharmed other (waits_inside waited)
        (fun same => apart (Option.some.inj same).symm) waited (sound.relies other waited)
      simpa [apart] using relies
  · intro other otherWaits
    by_cases apart : other = number
    · subst apart
      simpa using own.2
    · have waited := others other apart otherWaits
      have known := known_evolves (perform_evolves request turn) (sound.known other waited)
      simpa [apart] using known

theorem sound_step {event : BillingEvent} (orderly : Orderly config world event)
    (now : ∀ id, Doubled world.store.store.account id → was id) (sound : Sound was world) :
    Sound was ((watchedBilling config).step world event) := by
  cases event with
  | outside change => exact sound_outside change orderly sound
  | start event =>
    constructor
    · exact stages_step config (.start event) sound.stages
    · exact sound.ordered
    · exact sound.cancellations
    · exact sound.refunds
    · exact sound.once
    · intro number started
      by_cases inside : number < world.runs.length
      · exact sound.relies number (System.waits_before_start inside started)
      · change (world.store.states number).relies world.store.store.account = true
        rw [sound.stages.unstarted number (by omega)]
        rfl
    · intro number started
      by_cases inside : number < world.runs.length
      · exact sound.known number (System.waits_before_start inside started)
      · change (world.store.states number).Known was world.store.store.account
        rw [sound.stages.unstarted number (by omega)]
        trivial
  | stop run =>
    constructor
    · exact stages_step config (.stop run) sound.stages
    · exact sound.ordered
    · exact sound.cancellations
    · exact sound.refunds
    · exact sound.once
    · intro number still
      exact sound.relies number (System.waits_before_stop still)
    · intro number still
      exact sound.known number (System.waits_before_stop still)
  | advance number turn =>
    apply System.advance_cases _ (Sound was) sound
    intro request next current
    obtain ⟨fair, unharmed⟩ := orderly
    simp only [fairAt, current] at fair
    rw [step_request config current turn] at unharmed
    exact sound_advance current fair unharmed now sound

/-! ## Runs -/

/-- At some moment of the schedule the subscription and an older one were both active. -/
def WasDoubled (config : BillingConfig) (schedule : List BillingEvent) (id : SubscriptionId) :
    Prop :=
  ∃ earlier, earlier <+: schedule ∧
    Doubled ((watchedBilling config).after startBilling earlier).store.store.account id

theorem sound_after {schedule : List BillingEvent}
    (orderly : Meets (watchedBilling config).step (Orderly config) startBilling schedule) :
    Sound (WasDoubled config schedule) ((watchedBilling config).after startBilling schedule) := by
  induction schedule using List.reverseRecOn with
  | nil => exact sound_start _
  | append_singleton early event ih =>
    have ⟨first, last⟩ := meets_append orderly
    have before := ih first
    have now : ∀ id,
        Doubled ((watchedBilling config).after startBilling early).store.store.account id →
        WasDoubled config early id := by
      intro id doubled
      exact ⟨early, List.prefix_refl early, doubled⟩
    have mono : ∀ id, WasDoubled config early id →
        WasDoubled config (early ++ [event]) id := by
      intro id ⟨earlier, isPart, doubled⟩
      exact ⟨earlier, isPart.trans (List.prefix_append early [event]), doubled⟩
    have stepped := sound_mono mono (sound_step last.1 now before)
    simpa [System.after, List.foldl_append] using stepped

theorem eq_of_id {first second : StripeSubscription} (there : first ∈ account.subscriptions)
    (secondThere : second ∈ account.subscriptions) (same : first.id = second.id) : first = second :=
  List.inj_on_of_nodup_map account.distinct there secondThere same

theorem cancels_no_oldest (sound : Sound was world) {event : BillingEvent}
    (orderly : Orderly config world event) : ¬CancelsOldest world event := by
  intro cancels
  cases event with
  | start event => exact cancels
  | stop run => exact cancels
  | outside change => exact cancels
  | advance number turn =>
    obtain ⟨id, next, current, succeeds, userId, oldest, there, isOldest, active, least⟩ := cancels
    have fair := orderly.1
    simp only [fairAt, current] at fair
    have waits : world.waits number = true := by simp [World.waits, current]
    have permitted : BillingCall.permitted (.cancel id) (world.store.states number) :=
      (sound.stages.keeps number _ current).1
    obtain ⟨subscription, survivor, shown, isState, isId⟩ := permitted
    have relies := sound.relies number waits
    have known := sound.known number waits
    rw [isState] at relies known fair
    have found : world.store.store.account.find id = some oldest :=
      find_some.mpr ⟨there, isOldest⟩
    have cancelable : world.store.store.account.cancelable id = true := by
      simp [StripeAccount.cancelable, found, active.2.2, StripeStatus.terminal]
    have isShown : shown = true := by
      simpa [BillingCall.fair, RunState.isShown, succeeds, cancelable] using fair
    obtain ⟨_, owner, live, liveThere, elder, elderThere, isLive, isElder, liveUser, elderUser,
      hivra, before⟩ := known isShown
    have sameLive : live = oldest :=
      eq_of_id liveThere there (isLive.trans (isId.trans isOldest.symm))
    subst sameLive
    have sameUser : owner = userId := Option.some.inj (liveUser.symm.trans active.1)
    subst sameUser
    obtain ⟨kept, keptThere, isKept, keptActive⟩ := isActive_iff.mp relies
    have sameElder : kept = elder := eq_of_id keptThere elderThere (isKept.trans isElder.symm)
    subst sameElder
    have atMost := least kept elderThere ⟨elderUser, hivra, keptActive⟩
    omega

theorem revives_no_canceled (sound : Sound was world) (event : BillingEvent) :
    ¬RevivesCanceled world event := by
  intro revives
  cases event with
  | start event => exact revives
  | stop run => exact revives
  | outside change => exact revives
  | advance number turn =>
    have ⟨userId, id, plan, instanceLimit, next, current, _, canceled, readable⟩ := revives
    have waits : world.waits number = true := by simp [World.waits, current]
    have permitted : BillingCall.permitted (.upsertRow userId id plan .active instanceLimit)
        (world.store.states number) :=
      (sound.stages.keeps number _ current).1
    have relies := sound.relies number waits
    obtain ⟨subscription, isId, seen | unread | ⟨checked, trialing⟩⟩ := permitted rfl
    · rw [seen] at relies
      simp [RunState.relies, isId, canceled] at relies
    · exact readable subscription unread
    · rw [checked] at relies
      simp [RunState.relies, trialing, isId, canceled] at relies

/-- In every run whose steps are orderly, what is canceled or refunded was active beside an older
subscription of its user before, the oldest active subscription is never canceled, there is one
refund of a subscription at most, and no canceled subscription is written as active unless its
live status could not be read. -/
theorem only_duplicates (config : BillingConfig) (schedule : List BillingEvent)
    (orderly : Meets (watchedBilling config).step (Orderly config) startBilling schedule) :
    ∀ early, early <+: schedule →
      let world := (watchedBilling config).after startBilling early
      (∀ id, id ∈ world.store.store.cancellations ∨
          id ∈ world.store.store.refunds.map Prod.fst → WasDoubled config early id) ∧
        (world.store.store.refunds.map Prod.fst).Nodup ∧
        ∀ event, early ++ [event] <+: schedule →
          ¬CancelsOldest world event ∧ ¬RevivesCanceled world event := by
  intro early isPart world
  have ⟨late, split⟩ := isPart
  subst split
  have ⟨first, _⟩ := meets_append orderly
  have sound := sound_after first
  constructor
  · intro id there
    cases there with
    | inl canceled => exact sound.cancellations id canceled
    | inr refunded => exact sound.refunds id refunded
  constructor
  · exact sound.once
  · intro event isNext
    have ⟨rest, same⟩ := isNext
    rw [List.append_assoc, List.append_cancel_left_eq] at same
    subst same
    have ⟨_, last⟩ := meets_append orderly
    exact ⟨cancels_no_oldest sound last.1, revives_no_canceled sound event⟩

/-! ## A duplicate, and an ordinary cancellation -/

def ready : BillingTurn := { fails := false }

/-- A second subscription is made while the first one is active, and its event is handled once the
first one has its row. -/
def duplicateRun : List BillingEvent :=
  [.outside (.stripe (.create (proSubscription "sub_1" .active 1))),
    .outside (.stripe (.create (proSubscription "sub_2" .active 2))),
    .outside (.stripe (.setInvoice "in_1" (some (some "pi_1")))),
    .outside (.elsewhere (fun _ => some (boundRow "sub_1" .active none)) [] (fun _ => false) 0),
    .start (.changed (proSubscription "sub_2" .active 2)),
    .advance 0 ready, .advance 0 ready, .advance 0 ready, .advance 0 ready, .advance 0 ready,
    .advance 0 ready]

theorem duplicate_refunded :
    ((watchedBilling proConfig).after startBilling duplicateRun).store.store.refunds =
        [("sub_2", "pi_1")] ∧
      WasDoubled proConfig duplicateRun "sub_2" := by
  have refunded : ((watchedBilling proConfig).after startBilling duplicateRun).store.store.refunds =
      [("sub_2", "pi_1")] := by
    decide +kernel
  refine ⟨refunded, ?_⟩
  have kept := only_duplicates proConfig duplicateRun (by decide +kernel) duplicateRun
    (List.prefix_refl _)
  apply kept.1 "sub_2"
  right
  rw [refunded]
  simp

/-- A subscription, the user's only one, is canceled, and an event from when it was active is
handled late. -/
def ordinaryCancellation : List BillingEvent :=
  [.outside (.stripe (.create (proSubscription "sub_1" .active 1))),
    .outside (.stripe (.setInvoice "in_1" (some (some "pi_1")))),
    .outside (.stripe (.update "sub_1"
      { status := .canceled, plan := some "pro", latestInvoice := some "in_1", priceId := none })),
    .start (.changed (proSubscription "sub_1" .active 1)),
    .advance 0 ready, .advance 0 ready, .advance 0 ready, .advance 0 ready, .advance 0 ready]

/-- Its charge is refunded, though there never was another subscription. -/
theorem ordinary_cancellation_refunded :
    ((watchedBilling proConfig).after startBilling ordinaryCancellation).store.store.refunds =
        [("sub_1", "pi_1")] ∧
      ¬WasDoubled proConfig ordinaryCancellation "sub_1" := by
  constructor
  · decide +kernel
  · intro ⟨earlier, isPart, _, newer, newerThere, older, olderThere, _, _, _, before⟩
    have few : ∀ early ∈ ordinaryCancellation.inits,
        ((watchedBilling proConfig).after startBilling
          early).store.store.account.subscriptions.length ≤ 1 := by
      decide +kernel
    have short := few earlier ((List.mem_inits _ _).mpr isPart)
    generalize ((watchedBilling proConfig).after startBilling
      earlier).store.store.account.subscriptions = subscriptions at *
    match subscriptions with
    | [] => cases newerThere
    | [only] =>
      rw [List.mem_singleton.mp newerThere, List.mem_singleton.mp olderThere] at before
      exact absurd before (Nat.lt_irrefl _)
    | _ :: _ :: _ => simp at short

end Hivra.StripeSubscriptions
