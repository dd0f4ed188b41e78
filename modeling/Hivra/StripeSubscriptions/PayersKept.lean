import Hivra.StripeSubscriptions.StateReconciler

/-!
# What the reconciler takes from a payer

A row is taken from only when nothing at Stripe speaks for it, but the reconciler reads one page
of each list, calls every status that grants no access terminal, and resets a row whose terminal
subscription does not name its user.  It takes nothing it should not exactly when none of these
decides.
-/

namespace Hivra.StripeSubscriptions

variable {state : StripeState} {row : StateRow} {now : Int} {down : StripeRead → Bool}
variable {subscription : StripeSubscription}

/-- The subscription is the row's own, or one of its customer's, and belongs to the row. -/
def BelongsTo (state : StripeState) (row : StateRow) (subscription : StripeSubscription) : Prop :=
  subscription ∈ state.account.subscriptions ∧
    (row.stripeSubscriptionId = some subscription.id ∨
      row.stripeCustomerId = some subscription.customer) ∧
    subscriptionBelongsToRow subscription row = true

def Pays (state : StripeState) (row : StateRow) : Prop :=
  ∃ subscription, BelongsTo state row subscription ∧ subscription.status.grants = true

def HasOpenCheckout (state : StripeState) (row : StateRow) : Prop :=
  ∃ session ∈ state.checkoutSessions,
    row.stripeCustomerId = some session.customer ∧ session.status = .open

def StripeStatus.isTerminal (status : StripeStatus) : Bool :=
  status == .canceled || status == .unpaid || status == .incompleteExpired

structure TakesNothing (state : StripeState) (row : StateRow) (call : Option RowCall) : Prop where
  payer : Pays state row →
    call ≠ some .reconcileRowToFree ∧
      ∀ subscription, call ≠ some (.handleSubscriptionDeleted subscription)
  checkout : row.status = .pending → HasOpenCheckout state row →
    call ≠ some .reconcileRowToFree
  deleted : ∀ subscription, call = some (.handleSubscriptionDeleted subscription) →
    row.stripeSubscriptionId = some subscription.id ∧ subscription.status.isTerminal = true
  reset : row.status ≠ .pending → call = some .reconcileRowToFree →
    ∀ subscription, ¬ BelongsTo state row subscription

def SeenPaying (state : StripeState) (row : StateRow) : Prop :=
  isManualSubscriptionId row.stripeSubscriptionId = false ∧
    ∃ subscription, subscriptionBelongsToRow subscription row = true ∧
      subscription.status.grants = true ∧
      (row.stripeSubscriptionId = some subscription.id ∧
          subscription ∈ state.account.subscriptions ∨
        ∃ customer, row.stripeCustomerId = some customer ∧
          subscription ∈ state.subscriptionPage customer 100)

def SeenOpenCheckout (state : StripeState) (row : StateRow) : Prop :=
  ∃ customer, row.stripeCustomerId = some customer ∧
    ∃ session ∈ state.sessionPage customer 20, session.status = .open

def OwnTerminal (state : StripeState) (row : StateRow) : Prop :=
  ∃ subscription, BelongsTo state row subscription ∧
    row.stripeSubscriptionId = some subscription.id ∧
      subscription.userId = some row.userId ∧ subscription.status.isTerminal = true

def Harmless (state : StripeState) (row : StateRow) (now : Int) : Prop :=
  SeenPaying state row ∨
    (if row.status = .pending then
      isStalePending row now = false ∨ SeenOpenCheckout state row ∨
        ¬ Pays state row ∧ ¬ HasOpenCheckout state row
    else
      row.stripeSubscriptionId = none ∨
        isManualSubscriptionId row.stripeSubscriptionId = true ∨
        ¬ Pays state row ∧
          ((∀ subscription, ¬ BelongsTo state row subscription) ∨ OwnTerminal state row))

def up : StripeRead → Bool := fun _ => false

theorem retrieve_own_up (state : StripeState) (row : StateRow) :
    ∃ own, retrieveOwn (state.api up) row = .ok own ∧
      ∀ subscription, own = some subscription ↔
        row.stripeSubscriptionId = some subscription.id ∧
          subscription ∈ state.account.subscriptions ∧
          subscriptionBelongsToRow subscription row = true := by
  unfold retrieveOwn
  cases row.stripeSubscriptionId with
  | none =>
    refine ⟨none, rfl, ?_⟩
    intro subscription
    simp
  | some id =>
    refine ⟨_, rfl, ?_⟩
    intro subscription
    rw [Option.filter_eq_some_iff, find_some]
    constructor
    · intro ⟨⟨held, isId⟩, belongs⟩
      exact ⟨congrArg some isId.symm, held, belongs⟩
    · intro ⟨isId, held, belongs⟩
      exact ⟨⟨held, (Option.some.inj isId).symm⟩, belongs⟩

theorem find_listed_up (state : StripeState) (row : StateRow) :
    ∃ listed, findListed (state.api up) row = .ok listed ∧
      (listed.isSome = true ↔
        ∃ customer, row.stripeCustomerId = some customer ∧
          ∃ subscription ∈ state.subscriptionPage customer 100,
            subscription.status.grants = true ∧
              subscriptionBelongsToRow subscription row = true) := by
  unfold findListed
  cases row.stripeCustomerId with
  | none =>
    refine ⟨none, rfl, ?_⟩
    simp
  | some customer =>
    refine ⟨_, rfl, ?_⟩
    rw [List.find?_isSome]
    simp

theorem lookup_manual (stripe : StripeApi)
    (manual : isManualSubscriptionId row.stripeSubscriptionId = true) :
    lookupStripeGrant stripe row = .ok { live := none, terminal := none } := by
  unfold lookupStripeGrant
  rw [if_pos manual]

theorem lookup_up (state : StripeState)
    (notManual : isManualSubscriptionId row.stripeSubscriptionId = false) :
    ∃ lookup, lookupStripeGrant (state.api up) row = .ok lookup ∧
      (lookup.live.isSome = true ↔ SeenPaying state row) ∧
      (lookup.live = none → ∀ subscription, lookup.terminal = some subscription ↔
        row.stripeSubscriptionId = some subscription.id ∧
          subscription ∈ state.account.subscriptions ∧
          subscriptionBelongsToRow subscription row = true) := by
  obtain ⟨own, retrieved, isOwn⟩ := retrieve_own_up state row
  obtain ⟨listed, found, isListed⟩ := find_listed_up state row
  unfold lookupStripeGrant
  rw [notManual, if_neg Bool.false_ne_true, retrieved]
  simp only [bind, Except.bind, found]
  by_cases grants : own.any (fun subscription => subscription.status.grants) = true
  · obtain ⟨subscription, isSome, pays⟩ := (Option.any_eq_true _ _).mp grants
    have ⟨isId, held, belongs⟩ := (isOwn subscription).mp isSome
    have seen : SeenPaying state row :=
      ⟨notManual, subscription, belongs, pays, .inl ⟨isId, held⟩⟩
    rw [if_pos grants]
    refine ⟨_, rfl, ?_, ?_⟩
    · simp [isSome, seen]
    · intro isNone
      simp only [isSome] at isNone
      cases isNone
  · rw [if_neg grants]
    have ownPays : ∀ subscription, row.stripeSubscriptionId = some subscription.id →
        subscription ∈ state.account.subscriptions →
          subscriptionBelongsToRow subscription row = true →
            subscription.status.grants = false := by
      intro subscription isId held belongs
      have isSome := (isOwn subscription).mpr ⟨isId, held, belongs⟩
      simpa [isSome] using grants
    have seenIff : SeenPaying state row ↔ listed.isSome = true := by
      rw [isListed]
      constructor
      · intro ⟨_, subscription, belongs, pays, place⟩
        obtain own | ⟨customer, isCustomer, paged⟩ := place
        · rw [ownPays subscription own.1 own.2 belongs] at pays
          cases pays
        · exact ⟨customer, isCustomer, subscription, paged, pays, belongs⟩
      · intro ⟨customer, isCustomer, subscription, paged, pays, belongs⟩
        exact ⟨notManual, subscription, belongs, pays, .inr ⟨customer, isCustomer, paged⟩⟩
    cases listed with
    | some live =>
      refine ⟨_, rfl, ?_, ?_⟩
      · simp [seenIff]
      · intro isNone
        cases isNone
    | none =>
      refine ⟨_, rfl, ?_, ?_⟩
      · simp [seenIff]
      · intro _
        exact isOwn

theorem open_checkout_up (state : StripeState) (row : StateRow) :
    ∃ isOpen, hasOpenCheckout (state.api up) row = .ok isOpen ∧
      (isOpen = true ↔ SeenOpenCheckout state row) := by
  unfold hasOpenCheckout SeenOpenCheckout
  cases row.stripeCustomerId with
  | none =>
    refine ⟨false, rfl, ?_⟩
    simp
  | some customer =>
    refine ⟨_, rfl, ?_⟩
    simp [List.any_eq_true]

def Falters {Answer : Type} (weak strong : Except StripeFailure Answer) : Prop :=
  weak = strong ∨ ∃ failure, weak = .error failure

theorem falters_bind {Answer Next : Type} {weak strong : Except StripeFailure Answer}
    {rest other : Answer → Except StripeFailure Next} (first : Falters weak strong)
    (later : ∀ answer, Falters (rest answer) (other answer)) :
    Falters (weak.bind rest) (strong.bind other) := by
  obtain same | ⟨failure, failed⟩ := first
  · subst same
    cases weak with
    | error failure => exact .inl rfl
    | ok answer => exact later answer
  · subst failed
    exact .inr ⟨failure, rfl⟩

theorem falters_same {Answer : Type} (result : Except StripeFailure Answer) :
    Falters result result :=
  .inl rfl

theorem falters_answered {Answer : Type} (read : StripeRead) (answer : Answer) :
    Falters (answered down read answer) (answered up read answer) := by
  unfold answered
  split
  · exact .inr ⟨_, rfl⟩
  · exact .inl rfl

theorem falters_lookup :
    Falters (lookupStripeGrant (state.api down) row) (lookupStripeGrant (state.api up) row) := by
  have own : Falters (retrieveOwn (state.api down) row) (retrieveOwn (state.api up) row) := by
    unfold retrieveOwn
    split
    · exact falters_same _
    · exact falters_bind (falters_answered .retrieve _) fun _ => falters_same _
  have listed : Falters (findListed (state.api down) row) (findListed (state.api up) row) := by
    unfold findListed
    split
    · exact falters_same _
    · exact falters_bind (falters_answered .listSubscriptions _) fun _ => falters_same _
  unfold lookupStripeGrant
  split
  · exact falters_same _
  · apply falters_bind own
    intro own
    split
    · exact falters_same _
    · apply falters_bind listed
      intro listed
      exact falters_same _

theorem falters_decide (state : StripeState) (row : StateRow) (now : Int)
    (down : StripeRead → Bool) :
    Falters (decideRow (state.api down) row now) (decideRow (state.api up) row now) := by
  have checkout : Falters (hasOpenCheckout (state.api down) row)
      (hasOpenCheckout (state.api up) row) := by
    unfold hasOpenCheckout
    split
    · exact falters_same _
    · exact falters_bind (falters_answered .listSessions _) fun _ => falters_same _
  unfold decideRow
  split
  · unfold decidePending
    split
    · exact falters_same _
    · apply falters_bind falters_lookup
      intro lookup
      split
      · exact falters_same _
      · apply falters_bind checkout
        intro isOpen
        exact falters_same _
  · unfold decidePaid
    split
    · exact falters_same _
    · apply falters_bind falters_lookup
      intro lookup
      exact falters_same _

theorem called_down (state : StripeState) (row : StateRow) (now : Int) (down : StripeRead → Bool) :
    calledFor (state.api down) row now = calledFor (state.api up) row now ∨
      calledFor (state.api down) row now = none := by
  unfold calledFor
  obtain same | ⟨failure, failed⟩ := falters_decide state row now down
  · rw [same]
    exact .inl rfl
  · rw [failed]
    exact .inr rfl

def OwnNamed (state : StripeState) (row : StateRow) (subscription : StripeSubscription) : Prop :=
  row.stripeSubscriptionId = some subscription.id ∧
    subscription ∈ state.account.subscriptions ∧
    subscriptionBelongsToRow subscription row = true ∧ subscription.userId = some row.userId

inductive Called (state : StripeState) (row : StateRow) (now : Int) : Option RowCall → Prop
  | quiet {call : Option RowCall}
      (harmless : call = none ∨ ∃ subscription, call = some (.handleSubscriptionChange subscription))
      (reason : SeenPaying state row ∨
        row.status = .pending ∧ (isStalePending row now = false ∨ SeenOpenCheckout state row) ∨
        row.status ≠ .pending ∧ (row.stripeSubscriptionId = none ∨
          isManualSubscriptionId row.stripeSubscriptionId = true)) :
      Called state row now call
  | abandoned (isPending : row.status = .pending) (stale : isStalePending row now = true)
      (noGrant : ¬ SeenPaying state row) (noCheckout : ¬ SeenOpenCheckout state row) :
      Called state row now (some .reconcileRowToFree)
  | canceled (notPending : row.status ≠ .pending)
      (notManual : isManualSubscriptionId row.stripeSubscriptionId = false)
      (noGrant : ¬ SeenPaying state row) (subscription : StripeSubscription)
      (own : OwnNamed state row subscription) :
      Called state row now (some (.handleSubscriptionDeleted subscription))
  | terminal (notPending : row.status ≠ .pending) (hasId : row.stripeSubscriptionId ≠ none)
      (notManual : isManualSubscriptionId row.stripeSubscriptionId = false)
      (noGrant : ¬ SeenPaying state row)
      (noOwn : ∀ subscription, ¬ OwnNamed state row subscription) :
      Called state row now (some .reconcileRowToFree)

theorem called_pending (isPending : row.status = .pending) :
    Called state row now (calledFor (state.api up) row now) := by
  unfold calledFor decideRow decidePending
  rw [if_pos isPending]
  cases stale : isStalePending row now with
  | false => exact .quiet (.inl rfl) (.inr (.inl ⟨isPending, .inl stale⟩))
  | true =>
    simp only [Bool.not_true, if_neg Bool.false_ne_true]
    have looked : ∃ lookup, lookupStripeGrant (state.api up) row = .ok lookup ∧
        (lookup.live.isSome = true ↔ SeenPaying state row) := by
      cases manual : isManualSubscriptionId row.stripeSubscriptionId with
      | true =>
        refine ⟨_, lookup_manual _ manual, ?_⟩
        simp [SeenPaying, manual]
      | false =>
        obtain ⟨lookup, isLookup, isLive, _⟩ := lookup_up state manual
        exact ⟨lookup, isLookup, isLive⟩
    obtain ⟨lookup, isLookup, isLive⟩ := looked
    obtain ⟨isOpen, checked, seenOpen⟩ := open_checkout_up state row
    simp only [bind, Except.bind, isLookup, checked, pure, Except.pure]
    cases live : lookup.live with
    | some grant =>
      have seen : SeenPaying state row := isLive.mp (by rw [live]; rfl)
      cases applies : pendingGrantCanBeApplied grant row with
      | true =>
        simp only [activatePendingStripeGrant, applies, if_pos]
        exact .quiet (.inr ⟨grant, rfl⟩) (.inl seen)
      | false =>
        simp only [activatePendingStripeGrant, applies, if_neg Bool.false_ne_true]
        exact .quiet (.inl rfl) (.inl seen)
    | none =>
      have noGrant : ¬ SeenPaying state row := by
        rw [← isLive, live]
        exact Bool.false_ne_true
      cases isOpen with
      | true => exact .quiet (.inl rfl) (.inr (.inl ⟨isPending, .inr (seenOpen.mp rfl)⟩))
      | false =>
        apply Called.abandoned isPending stale noGrant
        rw [← seenOpen]
        exact Bool.false_ne_true

theorem called_paid (notPending : row.status ≠ .pending) :
    Called state row now (calledFor (state.api up) row now) := by
  unfold calledFor decideRow decidePaid
  rw [if_neg notPending]
  by_cases unlinked : (row.stripeSubscriptionId.isNone ||
      isManualSubscriptionId row.stripeSubscriptionId) = true
  · rw [if_pos unlinked]
    have reason : row.stripeSubscriptionId = none ∨
        isManualSubscriptionId row.stripeSubscriptionId = true := by
      simpa using unlinked
    exact .quiet (.inl rfl) (.inr (.inr ⟨notPending, reason⟩))
  · rw [if_neg unlinked]
    have linked : row.stripeSubscriptionId ≠ none ∧
        isManualSubscriptionId row.stripeSubscriptionId = false := by
      simpa using unlinked
    obtain ⟨lookup, isLookup, isLive, isOwn⟩ := lookup_up state linked.2
    simp only [bind, Except.bind, isLookup, pure, Except.pure]
    cases live : lookup.live with
    | some grant => exact .quiet (.inl rfl) (.inl (isLive.mp (by rw [live]; rfl)))
    | none =>
      have noGrant : ¬ SeenPaying state row := by
        rw [← isLive, live]
        exact Bool.false_ne_true
      have named : ∀ subscription, cancelsOwn row lookup.terminal = some subscription ↔
          OwnNamed state row subscription := by
        intro subscription
        unfold cancelsOwn OwnNamed
        rw [Option.filter_eq_some_iff, isOwn live]
        constructor
        · intro ⟨⟨isId, held, belongs⟩, isNamed⟩
          simp only [Bool.and_eq_true, beq_iff_eq] at isNamed
          exact ⟨isId, held, belongs, isNamed.2⟩
        · intro ⟨isId, held, belongs, isUser⟩
          exact ⟨⟨isId, held, belongs⟩, by simp [isId, isUser]⟩
      cases cancels : cancelsOwn row lookup.terminal with
      | some terminal =>
        exact .canceled notPending linked.2 noGrant terminal ((named terminal).mp cancels)
      | none =>
        apply Called.terminal notPending linked.1 linked.2 noGrant
        intro subscription own
        rw [(named subscription).mpr own] at cancels
        cases cancels

theorem called_up (state : StripeState) (row : StateRow) (now : Int) :
    Called state row now (calledFor (state.api up) row now) := by
  by_cases isPending : row.status = .pending
  · exact called_pending isPending
  · exact called_paid isPending

variable {call : Option RowCall}

theorem takes_nothing_of_quiet (harmless : call = none ∨
      ∃ subscription, call = some (.handleSubscriptionChange subscription)) :
    TakesNothing state row call := by
  have notReset : call ≠ some .reconcileRowToFree := by
    obtain none | ⟨subscription, change⟩ := harmless
    · simp [none]
    · simp [change]
  have notDeleted : ∀ subscription, call ≠ some (.handleSubscriptionDeleted subscription) := by
    intro subscription
    obtain none | ⟨other, change⟩ := harmless
    · simp [none]
    · simp [change]
  constructor
  · intro _
    exact ⟨notReset, notDeleted⟩
  · intro _ _
    exact notReset
  · intro subscription isDeleted
    exact absurd isDeleted (notDeleted subscription)
  · intro _ isReset
    exact absurd isReset notReset

theorem harmless_of_takes_nothing (called : Called state row now call)
    (nothing : TakesNothing state row call) : Harmless state row now := by
  have notPays : call = some .reconcileRowToFree ∨
      (∃ subscription, call = some (.handleSubscriptionDeleted subscription)) →
        ¬ Pays state row := by
    intro takes pays
    obtain reset | ⟨subscription, deleted⟩ := takes
    · exact (nothing.payer pays).1 reset
    · exact (nothing.payer pays).2 subscription deleted
  cases called with
  | quiet _ reason =>
    obtain seen | ⟨isPending, decided⟩ | ⟨notPending, unlinked⟩ := reason
    · exact .inl seen
    · right
      rw [if_pos isPending]
      obtain recent | checkout := decided
      · exact .inl recent
      · exact .inr (.inl checkout)
    · right
      rw [if_neg notPending]
      obtain noId | manual := unlinked
      · exact .inl noId
      · exact .inr (.inl manual)
  | abandoned isPending =>
    right
    rw [if_pos isPending]
    right
    right
    constructor
    · exact notPays (.inl rfl)
    · intro checkout
      exact nothing.checkout isPending checkout rfl
  | canceled notPending _ _ subscription own =>
    have ⟨isId, held, belongs, isUser⟩ := own
    have isTerminal := (nothing.deleted subscription rfl).2
    right
    rw [if_neg notPending]
    exact .inr (.inr ⟨notPays (.inr ⟨subscription, rfl⟩),
      .inr ⟨subscription, ⟨held, .inl isId, belongs⟩, isId, isUser, isTerminal⟩⟩)
  | terminal notPending =>
    right
    rw [if_neg notPending]
    exact .inr (.inr ⟨notPays (.inl rfl), .inl (nothing.reset notPending rfl)⟩)

theorem own_unique {first second : StripeSubscription}
    (ownFirst : row.stripeSubscriptionId = some first.id)
    (heldFirst : first ∈ state.account.subscriptions)
    (ownSecond : row.stripeSubscriptionId = some second.id)
    (heldSecond : second ∈ state.account.subscriptions) : first = second := by
  have sameId : first.id = second.id := Option.some.inj (ownFirst.symm.trans ownSecond)
  exact List.inj_on_of_nodup_map state.account.distinct heldFirst heldSecond sameId

theorem takes_nothing_of_harmless (called : Called state row now call)
    (harmless : Harmless state row now) : TakesNothing state row call := by
  cases called with
  | quiet quiet _ => exact takes_nothing_of_quiet quiet
  | abandoned isPending stale noGrant noCheckout =>
    obtain seen | decided := harmless
    · exact absurd seen noGrant
    · rw [if_pos isPending] at decided
      obtain recent | checkout | ⟨notPays, noOpen⟩ := decided
      · rw [recent] at stale
        cases stale
      · exact absurd checkout noCheckout
      · constructor
        · intro pays
          exact absurd pays notPays
        · intro _ isOpen
          exact absurd isOpen noOpen
        · intro subscription isDeleted
          cases isDeleted
        · intro notPending
          exact absurd isPending notPending
  | canceled notPending notManual noGrant subscription own =>
    have ⟨isId, held, belongs, _⟩ := own
    obtain seen | decided := harmless
    · exact absurd seen noGrant
    · rw [if_neg notPending] at decided
      obtain noId | manual | ⟨notPays, known⟩ := decided
      · rw [noId] at isId
        cases isId
      · rw [manual] at notManual
        cases notManual
      · obtain none | ⟨other, ⟨otherHeld, _⟩, otherId, _, isTerminal⟩ := known
        · exact absurd ⟨held, .inl isId, belongs⟩ (none subscription)
        · have same := own_unique isId held otherId otherHeld
          subst same
          constructor
          · intro pays
            exact absurd pays notPays
          · intro isPending
            exact absurd isPending notPending
          · intro deleted isDeleted
            cases isDeleted
            exact ⟨isId, isTerminal⟩
          · intro _ isReset
            cases isReset
  | terminal notPending hasId notManual noGrant noOwn =>
    obtain seen | decided := harmless
    · exact absurd seen noGrant
    · rw [if_neg notPending] at decided
      obtain noId | manual | ⟨notPays, known⟩ := decided
      · exact absurd noId hasId
      · rw [manual] at notManual
        cases notManual
      · obtain none | ⟨other, ⟨held, _, belongs⟩, isId, isUser, _⟩ := known
        · constructor
          · intro pays
            exact absurd pays notPays
          · intro isPending
            exact absurd isPending notPending
          · intro subscription isDeleted
            cases isDeleted
          · intro _ _
            exact none
        · exact absurd ⟨isId, held, belongs, isUser⟩ (noOwn other)

/-- Whichever reads throw, the call a row is changed by takes nothing from a payer, exactly when
what decides about the row speaks for all there is at Stripe. -/
theorem reconciler_takes_nothing_iff (state : StripeState) (row : StateRow) (now : Int) :
    (∀ down, TakesNothing state row (calledFor (state.api down) row now)) ↔
      Harmless state row now := by
  constructor
  · intro nothing
    exact harmless_of_takes_nothing (called_up state row now) (nothing up)
  · intro harmless down
    obtain same | none := called_down state row now down
    · rw [same]
      exact takes_nothing_of_harmless (called_up state row now) harmless
    · exact takes_nothing_of_quiet (.inl none)

def linkedRow : StateRow :=
  { userId := "user"
    plan := "operator"
    status := .active
    stripeSubscriptionId := some "sub"
    stripeCustomerId := some "customer"
    updatedAt := none }

def soleSubscription (userId : Option UserId) (status : StripeStatus) : StripeState :=
  { account :=
      { subscriptions :=
          [{ id := "sub"
             customer := "customer"
             userId
             plan := some "operator"
             workspaceCloud := false
             status
             created := 0
             latestInvoice := none
             priceId := none }]
        customers := fun _ => none
        paymentIntents := fun _ => none
        distinct := by simp }
    checkoutSessions := [] }

/-- A paused subscription is cancelled, and a row whose canceled subscription has no metadata is
reset to Free though Stripe has it. -/
theorem paused_and_unnamed_are_taken :
    (¬ ∀ down, TakesNothing (soleSubscription (some "user") .paused) linkedRow
        (calledFor ((soleSubscription (some "user") .paused).api down) linkedRow 0)) ∧
      ¬ ∀ down, TakesNothing (soleSubscription none .canceled) linkedRow
        (calledFor ((soleSubscription none .canceled).api down) linkedRow 0) := by
  constructor
  · intro nothing
    have called : ∃ subscription,
        calledFor ((soleSubscription (some "user") .paused).api up) linkedRow 0 =
            some (.handleSubscriptionDeleted subscription) ∧
          subscription.status.isTerminal = false :=
      ⟨_, rfl, rfl⟩
    obtain ⟨subscription, deleted, notTerminal⟩ := called
    have isTerminal := ((nothing up).deleted subscription deleted).2
    rw [notTerminal] at isTerminal
    cases isTerminal
  · intro nothing
    have reset : calledFor ((soleSubscription none .canceled).api up) linkedRow 0 =
        some .reconcileRowToFree := by
      decide +kernel
    have held : BelongsTo (soleSubscription none .canceled) linkedRow
        { id := "sub"
          customer := "customer"
          userId := none
          plan := some "operator"
          workspaceCloud := false
          status := .canceled
          created := 0
          latestInvoice := none
          priceId := none } :=
      ⟨List.mem_singleton_self _, .inl rfl, by decide⟩
    exact (nothing up).reset (by decide) reset _ held

end Hivra.StripeSubscriptions
