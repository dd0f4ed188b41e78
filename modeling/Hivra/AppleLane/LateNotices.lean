import Hivra.Library.FollowedRows
import Hivra.AppleLane.Notifications

/-!
# Late notifications

The periods of a user begin one after another, and Apple's notifications about them are handled
in any order, each as often as it is delivered.  Only an activation compares its period with the
row's, by the end and for the same original id; a lapse writes the row whatever it is about, so
that an old one ends a newer period, and an upgrade to a shorter period looks old.
-/

namespace Hivra.AppleLane

open Hivra.Library Hivra.StripeSubscriptions

/-! ## A user's history -/

structure AppleWorld where
  store : AppleStore
  /-- The transactions of the periods that have begun, the newest last. -/
  history : List Transaction
  /-- A notification about the newest period has been handled. -/
  settled : Bool

inductive AppleEvent
  /-- A purchase, a renewal or an upgrade. -/
  | begins (transaction : Transaction)
  /-- A notification about one of the periods, or about none. -/
  | handles (about : Option Nat) (notificationType : NotificationType) (subtype : Option Subtype)
      (renewalInfo : Option RenewalInfo)
  /-- Whatever else happens, without the user's row. -/
  | elsewhere (next : AppleStore)

def AppleWorld.admitsPeriod (world : AppleWorld) (transaction : Transaction) : Bool :=
  transaction.purchaseDate.any fun purchaseDate =>
    world.history.all fun earlier =>
      earlier.purchaseDate.any fun earlierDate => earlierDate < purchaseDate

def AppleWorld.notification (world : AppleWorld) (about : Option Nat)
    (notificationType : NotificationType) (subtype : Option Subtype)
    (renewalInfo : Option RenewalInfo) : Notification :=
  { notificationType
    subtype
    transaction := about.bind fun position => world.history[position]?
    renewalInfo }

def AppleWorld.isNewest (world : AppleWorld) (about : Option Nat) : Bool :=
  about.any fun position => position + 1 = world.history.length

def AppleWorld.isEarlier (world : AppleWorld) (about : Option Nat) : Bool :=
  about.any fun position => position + 1 < world.history.length

def stepApple (config : AppleConfig) (userId : UserId) (world : AppleWorld) :
    AppleEvent → AppleWorld
  | .begins transaction =>
    if world.admitsPeriod transaction then
      { world with
        history := world.history ++ [transaction]
        settled := false }
    else world
  | .handles about notificationType subtype renewalInfo =>
    match handleNotification config
        (world.notification about notificationType subtype renewalInfo) world.store with
    | .error _ => world
    | .ok outcome =>
      { world with
        store := outcome.2
        settled := world.settled || world.isNewest about }
  | .elsewhere next =>
    if next.getRowForUser userId = world.store.getRowForUser userId then
      { world with store := next }
    else world

/-! ## What a late notification may not do -/

structure Standing where
  productId : ProductId
  periodStart : Option Int
  periodEnd : Option Int
  access : Bool
  deriving DecidableEq

def AppleRow.standing (row : AppleRow) : Standing :=
  { productId := row.productId
    periodStart := row.currentPeriodStart
    periodEnd := row.currentPeriodEnd
    access := row.status.access }

structure Untouched (userId : UserId) (before after : AppleStore) : Prop where
  standing : (after.getRowForUser userId).map AppleRow.standing =
    (before.getRowForUser userId).map AppleRow.standing
  instances : NoneSuspended userId before.instances after.instances

def starts (notificationType : NotificationType) (subtype : Option Subtype) : Bool :=
  notificationType == .subscribed || notificationType == .didRenew ||
    (notificationType == .didChangeRenewalPref && subtype == some .upgrade)

/-- What the step does to a newer period: one about an earlier period leaves the user untouched
once the newest is settled, and one that starts the newest is not skipped. -/
def Protects (config : AppleConfig) (userId : UserId) (world : AppleWorld) : AppleEvent → Prop
  | .handles about notificationType subtype renewalInfo =>
    let outcome :=
      handleNotification config (world.notification about notificationType subtype renewalInfo)
        world.store
    (world.isEarlier about = true → world.settled = true → ∀ action after,
      outcome = .ok (action, after) → Untouched userId world.store after) ∧
    (world.isNewest about = true → starts notificationType subtype = true → ∀ after,
      outcome ≠ .ok (.skippedStale, after))
  | .begins _ => True
  | .elsewhere _ => True

/-! ## When it does not -/

def EndsLater (existing : Option AppleRow) (transaction : Transaction) : Prop :=
  ∃ row stored incomingEnd, existing = some row ∧
    some row.originalTransactionId = transaction.originalTransactionId ∧
    row.currentPeriodEnd = some stored ∧ transaction.expiresDate = some incomingEnd ∧
    incomingEnd < stored

structure Known (config : AppleConfig) (transaction : Transaction)
    (originalTransactionId : OriginalTransactionId) (productId : ProductId) (planKey : PlanKey) :
    Prop where
  original : transaction.originalTransactionId = some originalTransactionId
  product : transaction.productId = some productId
  plan : config.planFromAppleProductId productId = some planKey

def ActivationSpares (config : AppleConfig) (store : AppleStore) (userId : UserId)
    (transaction : Transaction) : Prop :=
  ∀ originalTransactionId productId planKey,
    Known config transaction originalTransactionId productId planKey →
    ¬EndsLater (store.getRowForUser userId) transaction →
    store.boundElsewhere userId originalTransactionId = false →
    (store.getRowForUser userId).map AppleRow.standing =
      some ⟨productId, transaction.purchaseDate, transaction.expiresDate, true⟩

def NoAccess (store : AppleStore) (userId : UserId) : Prop :=
  ∀ row, store.getRowForUser userId = some row → row.status.access = false

def NothingSuspended (store : AppleStore) (userId : UserId) : Prop :=
  store.otherLane userId = true ∨
    ∀ one ∈ store.instances, Instance.suspendable one userId = false

def Spares (config : AppleConfig) (store : AppleStore) (userId : UserId)
    (transaction : Transaction) (notification : Notification) : Prop :=
  match notification.notificationType with
  | .subscribed | .didRenew => ActivationSpares config store userId transaction
  | .didChangeRenewalPref =>
    notification.subtype = some .upgrade → ActivationSpares config store userId transaction
  | .didFailToRenew =>
    if notification.subtype = some .gracePeriod then
      ∀ row, store.getRowForUser userId = some row →
        row.status.access = true ∧
          ∀ graceEnd, notification.renewalInfo.bind RenewalInfo.gracePeriodExpiresDate =
            some graceEnd → row.currentPeriodEnd = some graceEnd
    else NoAccess store userId
  | .expired | .gracePeriodExpired | .refund | .revoke =>
    NoAccess store userId ∧ NothingSuspended store userId
  | .refundReversed =>
    if transaction.lasts store.clock = true then
      ActivationSpares config store userId transaction
    else NoAccess store userId
  | .didChangeRenewalStatus | .test | .other => True

/-- A notification about an earlier period resolves to another user or has nothing to take away,
and where one starts the newest period no row with its original id ends later. -/
def HarmlessStep (config : AppleConfig) (userId : UserId) (world : AppleWorld) : AppleEvent → Prop
  | .handles about notificationType subtype renewalInfo =>
    let notification := world.notification about notificationType subtype renewalInfo
    (world.isEarlier about = true → world.settled = true → ∀ transaction,
      notification.transaction = some transaction →
      world.store.resolveUserForTransaction transaction = some userId →
      Spares config world.store userId transaction notification) ∧
    (world.isNewest about = true → starts notificationType subtype = true →
      ∀ transaction holder originalTransactionId productId planKey,
        notification.transaction = some transaction →
        world.store.resolveUserForTransaction transaction = some holder →
        Known config transaction originalTransactionId productId planKey →
        ¬EndsLater (world.store.getRowForUser holder) transaction)
  | .begins _ => True
  | .elsewhere _ => True

variable {config : AppleConfig} {store : AppleStore} {userId holder : UserId}
variable {transaction : Transaction} {renewalInfo : Option RenewalInfo}
variable {notification : Notification}

theorem untouched_refl (store : AppleStore) : Untouched userId store store :=
  ⟨rfl, none_suspended_refl store.instances⟩

theorem stale_iff {existing : Option AppleRow} :
    isStaleTransaction existing transaction = true ↔ EndsLater existing transaction := by
  unfold isStaleTransaction EndsLater
  constructor
  · intro stale
    simp only [Option.any_eq_true, Bool.and_eq_true, decide_eq_true_eq] at stale
    have ⟨row, held, stored, ends, same, incomingEnd, incoming, later⟩ := stale
    exact ⟨row, stored, incomingEnd, held, same, ends, incoming, later⟩
  · intro ⟨row, stored, incomingEnd, held, same, ends, incoming, later⟩
    simp [held, same, ends, incoming, later]

/-! ### Activations -/

variable {originalTransactionId : OriginalTransactionId} {productId : ProductId} {planKey : PlanKey}

theorem activation_known
    (known : Known config transaction originalTransactionId productId planKey) :
    activateFromTransaction config store userId transaction renewalInfo =
      if isStaleTransaction (store.getRowForUser userId) transaction then .ok (.skippedStale, store)
      else if store.boundElsewhere userId originalTransactionId then .error .boundToAnotherUser
      else
        .ok (.activated,
          (store.writeRow
            (transaction.row userId originalTransactionId productId planKey renewalInfo)).resume
              userId) := by
  unfold activateFromTransaction
  simp only [known.original, known.product, known.plan]

theorem activation_unknown (unknown : ¬∃ originalTransactionId productId planKey,
      Known config transaction originalTransactionId productId planKey) :
    ∃ error, activateFromTransaction config store userId transaction renewalInfo = .error error := by
  unfold activateFromTransaction
  cases original : transaction.originalTransactionId with
  | none => exact ⟨_, rfl⟩
  | some originalTransactionId =>
    cases product : transaction.productId with
    | none => exact ⟨_, rfl⟩
    | some productId =>
      cases plan : config.planFromAppleProductId productId with
      | none =>
        simp only [plan]
        exact ⟨_, rfl⟩
      | some planKey =>
        exact absurd ⟨originalTransactionId, productId, planKey, original, product, plan⟩
          unknown

theorem activated_user :
    (transaction.row userId originalTransactionId productId planKey renewalInfo).userId = userId :=
  rfl

theorem activated_standing :
    (transaction.row userId originalTransactionId productId planKey renewalInfo).standing =
      ⟨productId, transaction.purchaseDate, transaction.expiresDate, true⟩ := by
  unfold AppleRow.standing Transaction.row
  cases transaction.freeTrial <;> rfl

theorem activated_untouched_iff {row : AppleRow} (isUser : row.userId = userId) :
    Untouched userId store ((store.writeRow row).resume userId) ↔
      (store.getRowForUser userId).map AppleRow.standing = some row.standing := by
  have written : ((store.writeRow row).resume userId).getRowForUser userId = some row := by
    have written := @write_row store row
    rw [isUser] at written
    exact written
  constructor
  · intro untouched
    have standing := untouched.standing
    rw [written] at standing
    exact standing.symm
  · intro standing
    constructor
    · rw [written, standing]
      rfl
    · have resumed : NoneSuspended userId (store.writeRow row).instances _ :=
        resume_spares (store.writeRow row).instances userId
      rw [write_row_instances] at resumed
      unfold AppleStore.resume
      rw [write_row_instances]
      exact resumed

theorem activation_untouched_iff : (∀ action after,
      activateFromTransaction config store userId transaction renewalInfo = .ok (action, after) →
        Untouched userId store after) ↔
      ActivationSpares config store userId transaction := by
  constructor
  · intro untouched originalTransactionId productId planKey known current unbound
    have fresh : ¬isStaleTransaction (store.getRowForUser userId) transaction = true := by
      rw [stale_iff]
      exact current
    have activated : activateFromTransaction config store userId transaction renewalInfo = _ :=
      activation_known known
    rw [if_neg fresh, unbound, if_neg Bool.false_ne_true] at activated
    have standing := (activated_untouched_iff activated_user).mp (untouched _ _ activated)
    rw [activated_standing] at standing
    exact standing
  · intro spares action after outcome
    by_cases known : ∃ originalTransactionId productId planKey,
        Known config transaction originalTransactionId productId planKey
    · have ⟨originalTransactionId, productId, planKey, known⟩ := known
      rw [activation_known known] at outcome
      by_cases stale : isStaleTransaction (store.getRowForUser userId) transaction = true
      · rw [if_pos stale] at outcome
        cases outcome
        exact untouched_refl store
      · rw [if_neg stale] at outcome
        cases unbound : store.boundElsewhere userId originalTransactionId with
        | true =>
          rw [unbound, if_pos rfl] at outcome
          cases outcome
        | false =>
          rw [unbound, if_neg Bool.false_ne_true] at outcome
          cases outcome
          rw [stale_iff] at stale
          rw [activated_untouched_iff activated_user, activated_standing]
          exact spares originalTransactionId productId planKey known stale unbound
    · have ⟨error, thrown⟩ :
          ∃ error, activateFromTransaction config store userId transaction renewalInfo =
            .error error := activation_unknown known
      rw [thrown] at outcome
      cases outcome

theorem activation_skipped_iff :
    (∃ after, activateFromTransaction config store userId transaction renewalInfo =
        .ok (.skippedStale, after)) ↔
      (∃ originalTransactionId productId planKey,
        Known config transaction originalTransactionId productId planKey) ∧
        EndsLater (store.getRowForUser userId) transaction := by
  constructor
  · intro ⟨after, skipped⟩
    by_cases known : ∃ originalTransactionId productId planKey,
        Known config transaction originalTransactionId productId planKey
    · refine ⟨known, ?_⟩
      have ⟨originalTransactionId, productId, planKey, isKnown⟩ := known
      rw [activation_known isKnown] at skipped
      rw [← stale_iff]
      cases stale : isStaleTransaction (store.getRowForUser userId) transaction with
      | true => rfl
      | false =>
        rw [stale, if_neg Bool.false_ne_true] at skipped
        split at skipped <;> cases skipped
    · have ⟨error, thrown⟩ :
          ∃ error, activateFromTransaction config store userId transaction renewalInfo =
            .error error := activation_unknown known
      rw [thrown] at skipped
      cases skipped
  · intro ⟨⟨originalTransactionId, productId, planKey, known⟩, later⟩
    rw [activation_known known, if_pos (stale_iff.mpr later)]
    exact ⟨store, rfl⟩

/-! ### Updates of the row -/

theorem updated_untouched_iff (change : AppleRow → AppleRow)
    (users : ∀ row, (change row).userId = row.userId) :
    Untouched userId store (store.updateExistingRow userId change) ↔
      ∀ row, store.getRowForUser userId = some row → (change row).standing = row.standing := by
  constructor
  · intro untouched row held
    have standing := untouched.standing
    rw [update_row users, held] at standing
    exact Option.some.inj standing
  · intro same
    constructor
    · rw [update_row users]
      cases held : store.getRowForUser userId with
      | none => rfl
      | some row => exact congrArg some (same row held)
    · exact none_suspended_refl store.instances

variable {status : AppleStatus}

theorem status_standing_iff {row : AppleRow} :
    (row.withStatus status).standing = row.standing ↔ row.status.access = status.access := by
  unfold AppleRow.standing AppleRow.withStatus
  rw [Standing.mk.injEq]
  constructor
  · intro ⟨_, _, _, access⟩
    exact access.symm
  · intro access
    exact ⟨rfl, rfl, rfl, access.symm⟩

theorem closed_untouched_iff (closed : status.access = false) : Untouched userId store
        (store.updateExistingRow userId fun row => row.withStatus status) ↔
      NoAccess store userId := by
  rw [updated_untouched_iff (fun row => row.withStatus status) fun _ => rfl]
  unfold NoAccess
  simp only [status_standing_iff, closed]

theorem grace_untouched_iff : Untouched userId store (store.markGracePeriod userId renewalInfo) ↔
      ∀ row, store.getRowForUser userId = some row →
        row.status.access = true ∧
          ∀ graceEnd, renewalInfo.bind RenewalInfo.gracePeriodExpiresDate = some graceEnd →
            row.currentPeriodEnd = some graceEnd := by
  unfold AppleStore.markGracePeriod
  rw [updated_untouched_iff (fun row => row.inGracePeriod renewalInfo) fun _ => rfl]
  apply forall_congr'
  intro row
  apply imp_congr_right
  intro _
  unfold AppleRow.standing AppleRow.inGracePeriod
  rw [Standing.mk.injEq]
  have granted : AppleStatus.gracePeriod.access = true := rfl
  rw [granted]
  cases renewalInfo.bind RenewalInfo.gracePeriodExpiresDate with
  | none =>
    constructor
    · intro ⟨_, _, _, access⟩
      exact ⟨access.symm, fun _ absent => nomatch absent⟩
    · intro ⟨access, _⟩
      exact ⟨rfl, rfl, rfl, access.symm⟩
  | some graceEnd =>
    simp only [Option.some.injEq, forall_eq', true_and]
    constructor
    · intro ⟨ends, access⟩
      exact ⟨access.symm, ends.symm⟩
    · intro ⟨access, ends⟩
      exact ⟨ends.symm, access.symm⟩

theorem lapse_untouched_iff (closed : status.access = false) :
    Untouched userId store (store.lapse userId status) ↔
      NoAccess store userId ∧ NothingSuspended store userId := by
  have rows : Untouched userId store (store.lapse userId status) ↔
      Untouched userId store
          (store.updateExistingRow userId fun row => row.withStatus status) ∧
        NoneSuspended userId store.instances (store.lapse userId status).instances := by
    constructor
    · intro untouched
      have standing := untouched.standing
      unfold AppleStore.lapse at standing
      rw [suspend_rows] at standing
      exact ⟨⟨standing, none_suspended_refl store.instances⟩, untouched.instances⟩
    · intro ⟨untouched, instances⟩
      constructor
      · unfold AppleStore.lapse
        rw [suspend_rows]
        exact untouched.standing
      · exact instances
  rw [rows, closed_untouched_iff closed]
  apply and_congr_right
  intro _
  unfold AppleStore.lapse AppleStore.suspendUnlessOtherEntitlement NothingSuspended
  cases covered : store.otherLane userId with
  | true =>
    rw [if_pos (show (store.updateExistingRow userId _).otherLane userId = true from covered)]
    simp [none_suspended_refl, AppleStore.updateExistingRow]
  | false =>
    rw [if_neg (show ¬(store.updateExistingRow userId _).otherLane userId = true by
      simp [AppleStore.updateExistingRow, covered])]
    simp only [Bool.false_eq_true, false_or]
    exact suspend_spares_iff .subscriptionCanceled

/-! ### Another user's notifications -/

theorem updated_apart {change : AppleRow → AppleRow} (apart : holder ≠ userId)
    (users : ∀ row, (change row).userId = row.userId) :
    Untouched userId store (store.updateExistingRow holder change) := by
  constructor
  · rw [update_row_apart apart fun row isHolder => (users row).trans isHolder]
  · exact none_suspended_refl store.instances

theorem lapse_apart (apart : holder ≠ userId) (status : AppleStatus) :
    Untouched userId store (store.lapse holder status) := by
  have updated : Untouched userId store
      (store.updateExistingRow holder fun row => row.withStatus status) :=
    updated_apart apart fun _ => rfl
  constructor
  · unfold AppleStore.lapse
    rw [suspend_rows]
    exact updated.standing
  · unfold AppleStore.lapse AppleStore.suspendUnlessOtherEntitlement
    split
    · exact updated.instances
    · apply update_spares
      · intro one
        rfl
      · intro one _ isUser _ chosen
        exact absurd ((suspendable_user chosen).symm.trans isUser) apart

theorem activation_apart (apart : holder ≠ userId) {action : AppleAction} {after : AppleStore}
    (outcome : activateFromTransaction config store holder transaction renewalInfo =
      .ok (action, after)) : Untouched userId store after := by
  unfold activateFromTransaction at outcome
  repeat' split at outcome
  all_goals cases outcome
  · exact untouched_refl store
  · constructor
    · exact congrArg (Option.map AppleRow.standing) (write_row_apart apart)
    · unfold AppleStore.resume
      rw [write_row_instances]
      exact resume_spares store.instances holder

/-! ### One notification -/

theorem ok_iff {outcome : AppleAction × AppleStore} {holds : AppleStore → Prop} :
    (∀ action after, (.ok outcome : Except AppleError _) = .ok (action, after) → holds after) ↔
      holds outcome.2 := by
  constructor
  · intro every
    exact every outcome.1 outcome.2 rfl
  · intro holds action after same
    cases same
    exact holds

theorem reinstated_iff {outcome : Except AppleError (AppleAction × AppleStore)}
    {holds : AppleStore → Prop} :
    (∀ action after, outcome.map reinstated = .ok (action, after) → holds after) ↔
      ∀ action after, outcome = .ok (action, after) → holds after := by
  cases outcome with
  | error error =>
    constructor
    · intro _ _ _ same
      cases same
    · intro _ _ _ same
      cases same
  | ok outcome =>
    have left : (reinstated outcome).2 = outcome.2 := by
      unfold reinstated
      split <;> rfl
    have mapped : (.ok outcome : Except AppleError _).map reinstated =
        .ok (reinstated outcome) := rfl
    rw [mapped, ok_iff, ok_iff, left]

theorem handled_untouched_iff : (∀ action after,
      handleForUser config store userId transaction notification = .ok (action, after) →
        Untouched userId store after) ↔
      Spares config store userId transaction notification := by
  have same : Untouched userId store store ↔ True := by
    simp [untouched_refl]
  unfold handleForUser Spares
  cases notification.notificationType with
  | subscribed | didRenew => exact activation_untouched_iff
  | didChangeRenewalPref =>
    by_cases upgrade : notification.subtype = some .upgrade
    · simp only [upgrade, true_imp_iff]
      exact activation_untouched_iff
    · simp only [if_neg upgrade, ok_iff, same, true_iff]
      intro isUpgrade
      exact absurd isUpgrade upgrade
  | didChangeRenewalStatus =>
    dsimp only
    split
    · rw [ok_iff]
      have updated : Untouched userId store _ :=
        (updated_untouched_iff
          (fun row =>
            { row with
              cancelAtPeriodEnd := decide (notification.subtype = some .autoRenewDisabled) })
          fun _ => rfl).mpr fun _ _ => rfl
      simp only [updated]
    · rw [ok_iff, same]
  | didFailToRenew =>
    dsimp only
    split
    · rw [ok_iff]
      exact grace_untouched_iff
    · rw [ok_iff]
      exact closed_untouched_iff rfl
  | expired | gracePeriodExpired | refund | revoke =>
    dsimp only
    rw [ok_iff]
    exact lapse_untouched_iff rfl
  | refundReversed =>
    dsimp only
    split
    · rw [reinstated_iff]
      exact activation_untouched_iff
    · rw [ok_iff]
      exact closed_untouched_iff rfl
  | test | other =>
    dsimp only
    rw [ok_iff, same]

theorem handled_apart (apart : holder ≠ userId) {action : AppleAction} {after : AppleStore}
    (outcome : handleForUser config store holder transaction notification = .ok (action, after)) :
    Untouched userId store after := by
  unfold handleForUser at outcome
  cases kind : notification.notificationType with
  | subscribed | didRenew =>
    rw [kind] at outcome
    exact activation_apart apart outcome
  | didChangeRenewalPref =>
    simp only [kind] at outcome
    split at outcome
    · exact activation_apart apart outcome
    · cases outcome
      exact untouched_refl store
  | didChangeRenewalStatus =>
    simp only [kind] at outcome
    split at outcome
    · cases outcome
      exact updated_apart apart fun _ => rfl
    · cases outcome
      exact untouched_refl store
  | didFailToRenew =>
    simp only [kind] at outcome
    split at outcome
    · cases outcome
      exact updated_apart apart fun _ => rfl
    · cases outcome
      exact updated_apart apart fun _ => rfl
  | expired | gracePeriodExpired | refund | revoke =>
    simp only [kind] at outcome
    cases outcome
    exact lapse_apart apart _
  | refundReversed =>
    simp only [kind] at outcome
    split at outcome
    · have reached : ∀ action after,
          (activateFromTransaction config store holder transaction
            notification.renewalInfo).map reinstated = .ok (action, after) →
          Untouched userId store after := by
        rw [reinstated_iff]
        intro action after activated
        exact activation_apart apart activated
      exact reached action after outcome
    · cases outcome
      exact updated_apart apart fun _ => rfl
  | test | other =>
    simp only [kind] at outcome
    cases outcome
    exact untouched_refl store

theorem notification_untouched_iff :
    (∀ action after, handleNotification config notification store = .ok (action, after) →
        Untouched userId store after) ↔
      ∀ transaction, notification.transaction = some transaction →
        store.resolveUserForTransaction transaction = some userId →
        Spares config store userId transaction notification := by
  unfold handleNotification
  by_cases test : notification.notificationType = .test
  · rw [if_pos test, ok_iff]
    constructor
    · intro _ transaction _ _
      unfold Spares
      rw [test]
      trivial
    · intro _
      exact untouched_refl store
  · rw [if_neg test]
    cases carried : notification.transaction with
    | none => simp [untouched_refl]
    | some transaction =>
      simp only [Option.some.injEq, forall_eq']
      cases resolved : store.resolveUserForTransaction transaction with
      | none => simp
      | some holder =>
        by_cases isUser : holder = userId
        · subst isUser
          simp only [true_imp_iff]
          exact handled_untouched_iff
        · have apart : some holder ≠ some userId := by simpa using isUser
          constructor
          · intro _ same
            exact absurd same apart
          · intro _ action after outcome
            exact handled_apart isUser outcome

theorem notification_skipped_iff
    (isStart : starts notification.notificationType notification.subtype = true) :
    (∃ after, handleNotification config notification store = .ok (.skippedStale, after)) ↔
      ∃ transaction holder originalTransactionId productId planKey,
        notification.transaction = some transaction ∧
        store.resolveUserForTransaction transaction = some holder ∧
        Known config transaction originalTransactionId productId planKey ∧
        EndsLater (store.getRowForUser holder) transaction := by
  have activates : ∀ holder transaction,
      handleForUser config store holder transaction notification =
        activateFromTransaction config store holder transaction notification.renewalInfo := by
    intro holder transaction
    unfold handleForUser
    unfold starts at isStart
    cases kind : notification.notificationType with
    | subscribed | didRenew => rfl
    | didChangeRenewalPref =>
      simp [kind] at isStart
      simp [isStart]
    | _ => simp [kind] at isStart
  have notTest : notification.notificationType ≠ .test := by
    intro test
    rw [test] at isStart
    cases isStart
  unfold handleNotification
  rw [if_neg notTest]
  cases carried : notification.transaction with
  | none => simp
  | some transaction =>
    cases resolved : store.resolveUserForTransaction transaction with
    | none => simp [resolved]
    | some holder =>
      simp only [resolved, activates]
      rw [activation_skipped_iff]
      constructor
      · intro ⟨⟨originalTransactionId, productId, planKey, known⟩, later⟩
        exact ⟨transaction, holder, originalTransactionId, productId, planKey, rfl, resolved,
          known, later⟩
      · intro ⟨other, second, originalTransactionId, productId, planKey, same, isHolder, known,
          later⟩
        cases same
        have isSame : holder = second := Option.some.inj (resolved.symm.trans isHolder)
        subst isSame
        exact ⟨⟨originalTransactionId, productId, planKey, known⟩, later⟩

/-! ## Runs -/

theorem step_protects_iff (world : AppleWorld) (event : AppleEvent) :
    Protects config userId world event ↔ HarmlessStep config userId world event := by
  cases event with
  | begins transaction => rfl
  | elsewhere next => rfl
  | handles about notificationType subtype renewalInfo =>
    unfold Protects HarmlessStep
    apply and_congr
    · apply imp_congr_right
      intro _
      apply imp_congr_right
      intro _
      exact notification_untouched_iff
    · apply imp_congr_right
      intro _
      apply imp_congr_right
      intro isStart
      have skipped := @notification_skipped_iff config world.store
        (world.notification about notificationType subtype renewalInfo) isStart
      rw [← not_exists, skipped]
      simp only [not_exists, not_and]

/-- Through every run no late notification takes away or rolls back the newest period, and none
that starts it is skipped, exactly if every notification that is handled is harmless where it is
handled. -/
theorem protects_iff_harmless (config : AppleConfig) (userId : UserId) (store : AppleStore)
    (history : List AppleEvent) : let start : AppleWorld :=
      { store
        history := []
        settled := false }
    Meets (stepApple config userId) (Protects config userId) start history ↔
      Meets (stepApple config userId) (HarmlessStep config userId) start history :=
  meets_congr (fun world event => step_protects_iff world event) _ history

/-! ## An old expiry, a shorter upgrade -/

def appleConfig : AppleConfig :=
  { mappings :=
      [("cloud.hivra.pro.monthly", "operator"), ("cloud.hivra.pro.yearly", "operator"),
        ("cloud.hivra.power.monthly", "fleet"), ("cloud.hivra.power.yearly", "fleet")] }

def day : Int := 86400000

def purchase (originalTransactionId : OriginalTransactionId) (productId : ProductId)
    (start days : Int) : Transaction :=
  { originalTransactionId := some originalTransactionId
    productId := some productId
    purchaseDate := some (start * day)
    expiresDate := some ((start + days) * day)
    freeTrial := false
    appAccountToken := some "token_1" }

def emptyStore : AppleStore :=
  { rows := []
    tokens := fun token => if token = "token_1" then some "user_1" else none
    instances :=
      [{ userId := "user_1"
         status := .running
         lifecycleState := .active
         entitlementReason := none
         deleted := false }]
    otherLane := fun _ => false
    clock := 0 }

def opened : AppleWorld :=
  { store := emptyStore
    history := []
    settled := false }

/-- A subscription ends, and a second one starts, before the first one's expiry is delivered. -/
def secondSubscription : List AppleEvent :=
  [.begins (purchase "1000" "cloud.hivra.pro.monthly" 0 30),
    .handles (some 0) .subscribed none none,
    .begins (purchase "2000" "cloud.hivra.pro.monthly" 40 30),
    .handles (some 1) .subscribed none none]

def shorterUpgrade : List AppleEvent :=
  [.begins (purchase "1000" "cloud.hivra.pro.yearly" 0 365),
    .handles (some 0) .subscribed none none,
    .begins (purchase "1000" "cloud.hivra.power.monthly" 100 30)]

/-- The old expiry ends the second subscription and stops the instance, and the upgrade is
skipped. -/
theorem old_expiry_lapses :
    let running := secondSubscription.foldl (stepApple appleConfig "user_1") opened
    let lapsed := stepApple appleConfig "user_1" running (.handles (some 0) .expired none none)
    let upgraded := shorterUpgrade.foldl (stepApple appleConfig "user_1") opened
    running.settled = true ∧
      (running.store.getRowForUser "user_1").map AppleRow.standing =
        some ⟨"cloud.hivra.pro.monthly", some (40 * day), some (70 * day), true⟩ ∧
      (lapsed.store.getRowForUser "user_1").map AppleRow.standing =
        some ⟨"cloud.hivra.pro.monthly", some (40 * day), some (70 * day), false⟩ ∧
      lapsed.store.instances.map Instance.lifecycleState = [.suspended] ∧
      (handleNotification appleConfig
          (upgraded.notification (some 1) .didChangeRenewalPref (some .upgrade) none)
          upgraded.store).map Prod.fst = .ok .skippedStale := by
  decide +kernel

end Hivra.AppleLane
