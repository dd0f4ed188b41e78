import Hivra.StripeSubscriptions.InstanceLapses

/-!
# The notifications of the App Store

A notification carries the transaction it is about.  It is handled for the user that the
transaction's token or its original id is bound to, and writes the one row of that user, which is
keyed by the user alone.  Credits, tier changes and the audit columns decide nothing here and are
left out; the database answers every request.  Times are milliseconds.
-/

namespace Hivra.AppleLane

open Hivra.StripeSubscriptions

abbrev OriginalTransactionId : Type := String
abbrev ProductId : Type := String
abbrev AccountToken : Type := String

/-- A text that is missing or empty is `none`. -/
structure Transaction where
  originalTransactionId : Option OriginalTransactionId
  productId : Option ProductId
  purchaseDate : Option Int
  expiresDate : Option Int
  /-- `offerDiscountType` is `FREE_TRIAL`. -/
  freeTrial : Bool
  appAccountToken : Option AccountToken

structure RenewalInfo where
  /-- `autoRenewStatus` is 0. -/
  autoRenewOff : Bool
  gracePeriodExpiresDate : Option Int

inductive NotificationType
  | subscribed
  | didRenew
  | didChangeRenewalPref
  | didChangeRenewalStatus
  | didFailToRenew
  | expired
  | gracePeriodExpired
  | refund
  | revoke
  | refundReversed
  | test
  | other
  deriving DecidableEq

inductive Subtype
  | upgrade
  | autoRenewDisabled
  | autoRenewEnabled
  | gracePeriod
  | other
  deriving DecidableEq

structure Notification where
  notificationType : NotificationType
  subtype : Option Subtype
  transaction : Option Transaction
  renewalInfo : Option RenewalInfo

inductive AppleStatus
  | active
  | trialing
  | gracePeriod
  | pastDue
  | expired
  | revoked
  deriving DecidableEq

def AppleStatus.access (status : AppleStatus) : Bool :=
  status == .active || status == .trialing || status == .gracePeriod

/-- A row of `apple_iap_subscriptions`. -/
structure AppleRow where
  userId : UserId
  originalTransactionId : OriginalTransactionId
  productId : ProductId
  plan : PlanKey
  status : AppleStatus
  currentPeriodStart : Option Int
  currentPeriodEnd : Option Int
  cancelAtPeriodEnd : Bool
  deriving DecidableEq

structure AppleStore where
  rows : List AppleRow
  /-- `apple_iap_account_tokens`. -/
  tokens : AccountToken → Option UserId
  instances : List Instance
  /-- A lane other than Apple's grants the user seats. -/
  otherLane : UserId → Bool
  clock : Int

/-- `getAppleProductMappings`. -/
structure AppleConfig where
  mappings : List (ProductId × PlanKey)

def AppleConfig.planFromAppleProductId (config : AppleConfig) (productId : ProductId) :
    Option PlanKey :=
  (config.mappings.find? fun mapping => mapping.1 = productId).map Prod.snd

def AppleStore.getRowForUser (store : AppleStore) (userId : UserId) : Option AppleRow :=
  store.rows.find? fun row => row.userId = userId

def AppleStore.resolveUserForTransaction (store : AppleStore) (transaction : Transaction) :
    Option UserId :=
  (transaction.appAccountToken.bind store.tokens).or
    (transaction.originalTransactionId.bind fun originalTransactionId =>
      (store.rows.find? fun row => row.originalTransactionId = originalTransactionId).map
        AppleRow.userId)

def AppleStore.boundElsewhere (store : AppleStore) (userId : UserId)
    (originalTransactionId : OriginalTransactionId) : Bool :=
  store.rows.any fun row =>
    row.originalTransactionId == originalTransactionId && row.userId != userId

def AppleStore.updateExistingRow (store : AppleStore) (userId : UserId)
    (change : AppleRow → AppleRow) : AppleStore :=
  { store with
    rows := store.rows.map fun row => if row.userId = userId then change row else row }

def AppleStore.writeRow (store : AppleStore) (row : AppleRow) : AppleStore :=
  if (store.getRowForUser row.userId).isSome then store.updateExistingRow row.userId fun _ => row
  else { store with rows := store.rows ++ [row] }

inductive AppleAction
  | activated
  | renewalStatusUpdated
  | gracePeriod
  | billingRetry
  | expired
  | revoked
  | reinstated
  | testAcknowledged
  | ignored
  | skippedStale
  deriving DecidableEq

inductive AppleError
  | missingOriginalTransactionId
  | unknownProduct
  | boundToAnotherUser
  | noUserMapping
  deriving DecidableEq

def isStaleTransaction (existing : Option AppleRow) (transaction : Transaction) : Bool :=
  existing.any fun row =>
    row.currentPeriodEnd.any fun stored =>
      some row.originalTransactionId = transaction.originalTransactionId &&
        transaction.expiresDate.any fun incomingEnd => stored > incomingEnd

def Transaction.row (transaction : Transaction) (userId : UserId)
    (originalTransactionId : OriginalTransactionId) (productId : ProductId) (planKey : PlanKey)
    (renewalInfo : Option RenewalInfo) : AppleRow :=
  { userId
    originalTransactionId
    productId
    plan := planKey
    status := if transaction.freeTrial then .trialing else .active
    currentPeriodStart := transaction.purchaseDate
    currentPeriodEnd := transaction.expiresDate
    cancelAtPeriodEnd := renewalInfo.any RenewalInfo.autoRenewOff }

/-- `restoreScheduledDeletions`, then `resumeBillingSuspendedInstances`. -/
def AppleStore.resume (store : AppleStore) (userId : UserId) : AppleStore :=
  { store with instances := resumeAll store.instances userId }

def activateFromTransaction (config : AppleConfig) (store : AppleStore) (userId : UserId)
    (transaction : Transaction) (renewalInfo : Option RenewalInfo) :
    Except AppleError (AppleAction × AppleStore) :=
  match transaction.originalTransactionId with
  | none => .error .missingOriginalTransactionId
  | some originalTransactionId =>
    match transaction.productId with
    | none => .error .unknownProduct
    | some productId =>
      match config.planFromAppleProductId productId with
      | none => .error .unknownProduct
      | some planKey =>
        if isStaleTransaction (store.getRowForUser userId) transaction then
          .ok (.skippedStale, store)
        else if store.boundElsewhere userId originalTransactionId then
          .error .boundToAnotherUser
        else
          .ok (.activated,
            (store.writeRow
              (transaction.row userId originalTransactionId productId planKey
                renewalInfo)).resume userId)

def AppleStore.suspendUnlessOtherEntitlement (store : AppleStore) (userId : UserId) : AppleStore :=
  if store.otherLane userId then store
  else
    { store with
      instances :=
        updateAll store.instances (fun one => one.suspendable userId)
          (Instance.suspend .subscriptionCanceled) }

def AppleRow.withStatus (row : AppleRow) (status : AppleStatus) : AppleRow :=
  { row with status }

/-- What `expireSubscription` and `revokeSubscription` do, the one with `expired`, the other with
`revoked`. -/
def AppleStore.lapse (store : AppleStore) (userId : UserId) (status : AppleStatus) : AppleStore :=
  (store.updateExistingRow userId fun row => row.withStatus status).suspendUnlessOtherEntitlement
    userId

def AppleStore.expireSubscription (store : AppleStore) (userId : UserId) : AppleStore :=
  store.lapse userId .expired

def AppleStore.revokeSubscription (store : AppleStore) (userId : UserId) : AppleStore :=
  store.lapse userId .revoked

def AppleRow.inGracePeriod (row : AppleRow) (renewalInfo : Option RenewalInfo) : AppleRow :=
  { row with
    status := .gracePeriod
    currentPeriodEnd :=
      (renewalInfo.bind RenewalInfo.gracePeriodExpiresDate).or row.currentPeriodEnd }

def AppleStore.markGracePeriod (store : AppleStore) (userId : UserId)
    (renewalInfo : Option RenewalInfo) : AppleStore :=
  store.updateExistingRow userId fun row => row.inGracePeriod renewalInfo

def AppleStore.markBillingRetry (store : AppleStore) (userId : UserId) : AppleStore :=
  store.updateExistingRow userId fun row => row.withStatus .pastDue

def Transaction.lasts (transaction : Transaction) (now : Int) : Bool :=
  transaction.expiresDate.any fun expiresDate => expiresDate > now

def reinstated (outcome : AppleAction × AppleStore) : AppleAction × AppleStore :=
  if outcome.1 = .activated then (.reinstated, outcome.2) else outcome

def handleForUser (config : AppleConfig) (store : AppleStore) (userId : UserId)
    (transaction : Transaction) (notification : Notification) :
    Except AppleError (AppleAction × AppleStore) :=
  match notification.notificationType with
  | .subscribed | .didRenew =>
    activateFromTransaction config store userId transaction notification.renewalInfo
  | .didChangeRenewalPref =>
    if notification.subtype = some .upgrade then
      activateFromTransaction config store userId transaction notification.renewalInfo
    else .ok (.ignored, store)
  | .didChangeRenewalStatus =>
    if notification.subtype = some .autoRenewDisabled ∨
        notification.subtype = some .autoRenewEnabled then
      .ok (.renewalStatusUpdated,
        store.updateExistingRow userId fun row =>
          { row with
            cancelAtPeriodEnd := decide (notification.subtype = some .autoRenewDisabled) })
    else .ok (.ignored, store)
  | .didFailToRenew =>
    if notification.subtype = some .gracePeriod then
      .ok (.gracePeriod, store.markGracePeriod userId notification.renewalInfo)
    else .ok (.billingRetry, store.markBillingRetry userId)
  | .expired | .gracePeriodExpired => .ok (.expired, store.expireSubscription userId)
  | .refund | .revoke => .ok (.revoked, store.revokeSubscription userId)
  | .refundReversed =>
    if transaction.lasts store.clock then
      (activateFromTransaction config store userId transaction notification.renewalInfo).map
        reinstated
    else .ok (.expired, store.updateExistingRow userId fun row => row.withStatus .expired)
  | .test | .other => .ok (.ignored, store)

def handleNotification (config : AppleConfig) (notification : Notification) (store : AppleStore) :
    Except AppleError (AppleAction × AppleStore) :=
  if notification.notificationType = .test then .ok (.testAcknowledged, store)
  else
    match notification.transaction with
    | none => .ok (.ignored, store)
    | some transaction =>
      match store.resolveUserForTransaction transaction with
      | none => .error .noUserMapping
      | some userId => handleForUser config store userId transaction notification

section Rows

variable {store : AppleStore} {userId other : UserId} {change : AppleRow → AppleRow}
variable {row : AppleRow}

theorem update_row (users : ∀ row, (change row).userId = row.userId) :
    (store.updateExistingRow userId change).getRowForUser userId =
      (store.getRowForUser userId).map change := by
  unfold AppleStore.getRowForUser AppleStore.updateExistingRow
  induction store.rows with
  | nil => rfl
  | cons first rest ih =>
    by_cases isUser : first.userId = userId
    · simp [isUser, users]
    · simp only [List.map_cons, if_neg isUser]
      rw [List.find?_cons_of_neg (by simp [isUser]), List.find?_cons_of_neg (by simp [isUser])]
      exact ih

theorem update_row_apart (apart : other ≠ userId)
    (users : ∀ row, row.userId = other → (change row).userId = other) :
    (store.updateExistingRow other change).getRowForUser userId = store.getRowForUser userId := by
  unfold AppleStore.getRowForUser AppleStore.updateExistingRow
  induction store.rows with
  | nil => rfl
  | cons first rest ih =>
    by_cases isOther : first.userId = other
    · simp only [List.map_cons, if_pos isOther]
      rw [List.find?_cons_of_neg (by simp [users first isOther, apart]),
        List.find?_cons_of_neg (by simp [isOther, apart])]
      exact ih
    · simp only [List.map_cons, if_neg isOther]
      by_cases isUser : first.userId = userId
      · simp [isUser]
      · rw [List.find?_cons_of_neg (by simp [isUser]), List.find?_cons_of_neg (by simp [isUser])]
        exact ih

theorem replace_row (held : (store.getRowForUser row.userId).isSome) :
    (store.updateExistingRow row.userId fun _ => row).getRowForUser row.userId = some row := by
  revert held
  unfold AppleStore.getRowForUser AppleStore.updateExistingRow
  induction store.rows with
  | nil => simp
  | cons first rest ih =>
    intro held
    by_cases isUser : first.userId = row.userId
    · simp [isUser]
    · simp only [List.map_cons, if_neg isUser]
      rw [List.find?_cons_of_neg (by simp [isUser])] at held ⊢
      exact ih held

theorem write_row : (store.writeRow row).getRowForUser row.userId = some row := by
  unfold AppleStore.writeRow
  by_cases held : (store.getRowForUser row.userId).isSome
  · rw [if_pos held]
    exact replace_row held
  · rw [if_neg held]
    have absent : store.getRowForUser row.userId = none := by simpa using held
    unfold AppleStore.getRowForUser at absent ⊢
    simp [absent]

theorem write_row_apart (apart : row.userId ≠ userId) :
    (store.writeRow row).getRowForUser userId = store.getRowForUser userId := by
  unfold AppleStore.writeRow
  by_cases held : (store.getRowForUser row.userId).isSome
  · rw [if_pos held]
    exact update_row_apart apart fun _ _ => rfl
  · rw [if_neg held]
    unfold AppleStore.getRowForUser
    simp [List.find?_append, apart]

@[simp]
theorem write_row_instances : (store.writeRow row).instances = store.instances := by
  unfold AppleStore.writeRow
  by_cases held : (store.getRowForUser row.userId).isSome
  · rw [if_pos held]
    rfl
  · rw [if_neg held]

@[simp]
theorem suspend_rows : (store.suspendUnlessOtherEntitlement userId).getRowForUser other =
      store.getRowForUser other := by
  unfold AppleStore.suspendUnlessOtherEntitlement
  by_cases covered : store.otherLane userId = true
  · rw [if_pos covered]
  · rw [if_neg covered]
    rfl

end Rows

end Hivra.AppleLane
