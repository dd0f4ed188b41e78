import Hivra.Library.Scripts
import Hivra.ManagedVenice.WalletFunctions
import Hivra.ManagedVenice.HoldCharges

/-!
# The settlement database

The tables a settlement writes beside the wallets (usage events, financial
events, reconciliation items, proxy keys), every statement the settlement code
issues, and what the database does with one.  A statement is atomic.  Its answer
may be an error with nothing done, an answer, or an answer lost on the way back
after the statement took effect.

`SettlementStore.closings` is not a table: it notes every capture that closed a
hold, with the cost the settlement had computed for it.
-/

namespace Hivra.ManagedVenice

open Hivra.Library
open Hivra.Venice

/-- A row of `managed_venice_usage_events`. -/
structure UsageEvent where
  accountId : String
  userId : String
  proxyKeyId : Option String
  walletType : WalletType
  endpoint : String
  model : String
  promptTokens : Option Nat
  completionTokens : Option Nat
  totalTokens : Option Nat
  estimatedCostMicroUsd : Nat
  actualCostMicroUsd : Nat
  chargedMicroUsd : Nat
  upstreamStatus : Option Nat
  referenceId : String
  pricingPolicy : String
  /-- Set by the database. -/
  createdAt : Nat := 0
  deriving DecidableEq

def UsageEvent.entries (event : UsageEvent) : List String :=
  [event.referenceId]

/-- A row of `managed_venice_financial_events`. -/
structure FinancialEvent where
  userId : String
  accountId : Option String
  walletType : WalletType
  eventType : String
  amountMicroUsd : Nat
  veniceCostMicroUsd : Nat
  referenceId : String
  idempotencyKey : String
  pricingPolicy : String
  deriving DecidableEq

def FinancialEvent.entries (event : FinancialEvent) : List String :=
  [event.idempotencyKey]

inductive ItemStatus
  | open
  | resolved
  | ignored
  deriving DecidableEq

inductive SweepDisposition
  | capturedHold
  | capturedExpiredHold
  | releasedFailedRequest
  | releasedUnknownOutcome
  | reservationAlreadyCaptured
  | reservationAlreadyReleased
  | reservationNotFound
  | missingReferenceId
  | captureFailed
  | releaseFailed
  | waitingForUnknownOutcome
  | leftForOpenItem
  deriving DecidableEq

inductive SweepCaptureBasis
  | catalogPrice
  | reportedUsage
  | observedOutput
  | preRequestEstimate
  deriving DecidableEq

structure SweepNote where
  disposition : SweepDisposition
  basis : Option SweepCaptureBasis
  capturedMicroUsd : Nat
  overageMicroUsd : Nat
  releasedMicroUsd : Nat
  referenceId : Option String
  deriving DecidableEq

/-- The metadata of a reconciliation item; a field that is absent is `none`. -/
structure ItemMetadata where
  referenceId : Option String := none
  model : Option String := none
  cause : Option String := none
  upstreamStatus : Option Nat := none
  usageCostMicroUsd : Option Nat := none
  observedOutputTokens : Option Nat := none
  chargeMicroUsd : Option Nat := none
  listCostMicroUsd : Option Nat := none
  reservedMicroUsd : Option Nat := none
  actualCostMicroUsd : Option Nat := none
  overageMicroUsd : Option Nat := none
  walletType : Option WalletType := none
  surchargeMicroUsd : Option Nat := none
  surchargeCeilingMicroUsd : Option Nat := none
  veniceCostMicroUsd : Option Nat := none
  tokenCostMicroUsd : Option Nat := none
  sweep : Option SweepNote := none
  deriving DecidableEq

/-- A row of `managed_venice_reconciliation_items`. -/
structure ReconciliationItem where
  id : String
  userId : String
  accountId : Option String
  proxyKeyId : Option String
  status : ItemStatus
  reason : String
  metadata : ItemMetadata
  createdAt : Nat
  deriving DecidableEq

def ReconciliationItem.entries (item : ReconciliationItem) : List String :=
  [item.id]

def ReconciliationItem.close (status : ItemStatus) (metadata : ItemMetadata)
    (item : ReconciliationItem) : ReconciliationItem :=
  { item with status, metadata }

inductive ProxyKeyStatus
  | active
  | revoked
  | paused
  deriving DecidableEq

/-- A row of `managed_venice_proxy_keys`. -/
structure ProxyKey where
  id : String
  userId : String
  status : ProxyKeyStatus
  pausedReason : Option String
  deriving DecidableEq

def ProxyKey.entries (key : ProxyKey) : List String :=
  [key.id]

inductive SettlementPath
  | chatUsage
  | holdCost
  deriving DecidableEq

structure Closing where
  caller : Nat
  referenceId : String
  path : SettlementPath
  costMicroUsd : Nat
  capturedMicroUsd : Nat
  deriving DecidableEq

structure SettlementStore where
  wallets : Wallets
  usageEvents : Table UsageEvent.entries
  financialEvents : Table FinancialEvent.entries
  reconciliationItems : Table ReconciliationItem.entries
  proxyKeys : Table ProxyKey.entries
  closings : List Closing
  deriving DecidableEq

def SettlementStore.ofWallets (wallets : Wallets) : SettlementStore :=
  { wallets
    usageEvents := .empty
    financialEvents := .empty
    reconciliationItems := .empty
    proxyKeys := .empty
    closings := [] }

def responsesReconciliationReason : String := "managed_venice_responses_ambiguous_usage"

def responsesUnknownOutcomeCauses : List String :=
  ["upstream_outcome_unknown", "dispatch_outcome_unknown"]

def chatReleaseFailedReconciliationReason : String := "managed_venice_chat_release_failed"

def sweepCaptureReasons : List String :=
  ["managed_venice_missing_stream_usage",
    "managed_venice_stream_settlement_failed",
    "managed_venice_missing_usage",
    "managed_venice_anthropic_missing_usage",
    "managed_venice_anthropic_capture_failed",
    "managed_venice_anthropic_stream_capture_failed",
    "managed_venice_chat_stream_cancelled",
    "managed_venice_media_capture_failed"]

def sweepReleaseReasons : List String :=
  ["managed_venice_media_release_failed", chatReleaseFailedReconciliationReason]

inductive ItemQuery
  | sweepable
  | responsesKnownOutcome
  | responsesUnknownOutcome
  deriving DecidableEq

/-- `<>` is not true of a missing cause. -/
def ItemQuery.selects (query : ItemQuery) (item : ReconciliationItem) : Bool :=
  match query with
  | .sweepable => (sweepCaptureReasons ++ sweepReleaseReasons).contains item.reason
  | .responsesKnownOutcome =>
    item.reason == responsesReconciliationReason &&
      item.metadata.cause.any (fun cause => !responsesUnknownOutcomeCauses.contains cause)
  | .responsesUnknownOutcome =>
    item.reason == responsesReconciliationReason &&
      item.metadata.cause.any (fun cause => responsesUnknownOutcomeCauses.contains cause)

inductive AccountUse
  | walletSummary
  | usageRecord
  | reconciliationItem (reason : String)
  deriving DecidableEq

structure NewItem where
  userId : String
  accountId : String
  proxyKeyId : Option String
  reason : String
  metadata : ItemMetadata
  deriving DecidableEq

structure NewReservation where
  accountId : String
  userId : String
  walletType : WalletType
  referenceId : String
  estimatedCostMicroUsd : Nat
  reservedMicroUsd : Nat
  model : Option String
  endpoint : String
  expiresAt : Option Nat
  metadata : HoldMetadata
  deriving DecidableEq

def NewReservation.row (hold : NewReservation) (id : String) : Reservation :=
  { id
    accountId := hold.accountId
    userId := hold.userId
    walletType := hold.walletType
    status := .active
    referenceId := hold.referenceId
    estimatedCostMicroUsd := hold.estimatedCostMicroUsd
    reservedMicroUsd := hold.reservedMicroUsd
    capturedMicroUsd := 0
    releasedMicroUsd := 0
    model := hold.model
    endpoint := hold.endpoint
    expiresAt := hold.expiresAt
    metadata := hold.metadata }

/-- One statement of the settlement code.  A capture also names the cost it
settles and by which path, and an account read what it is for; the database does
not see these. -/
inductive Statement
  | loadReservation (userId referenceId : String)
  | captureReservation (path : SettlementPath) (costMicroUsd : Nat)
      (userId referenceId : String) (captureMicroUsd : Nat)
  | debitWallet (userId : String) (walletType : WalletType) (amountMicroUsd : Nat)
      (referenceId : String)
  | releaseReservation (id : String) (releasedMicroUsd : Nat)
  | loadWalletAccount (purpose : AccountUse) (userId : String)
  | upsertWalletAccount (purpose : AccountUse) (userId : String)
  | selectActiveLots (userId : String)
  | selectCardEntries (userId : String)
  | selectActiveReservations (userId : String)
  | insertUsageEvent (event : UsageEvent)
  | loadFinancialEvent (idempotencyKey : String)
  | insertFinancialEvent (event : FinancialEvent)
  | insertReconciliationItem (item : NewItem)
  | pauseProxyKey (id userId reason : String)
  | loadOpenItems (query : ItemQuery) (cutoff limit : Nat)
  | closeItem (id : String) (status : ItemStatus) (metadata : ItemMetadata)
  | hasOpenItem (userId referenceId : String)
  | loadExpiredHolds (now limit : Nat)
  | selectMonthlyCharges (userId : String) (monthStart : Nat)
  | insertReservation (hold : NewReservation)
  deriving DecidableEq

@[reducible]
def Statement.Answer : Statement → Type
  | .loadReservation .. => Option Reservation
  | .captureReservation .. => CaptureReply
  | .debitWallet .. => Unit
  | .releaseReservation .. => Bool
  | .loadWalletAccount .. => Option WalletAccount
  | .upsertWalletAccount .. => Unit
  | .selectActiveLots .. => List TokenLot
  | .selectCardEntries .. => List CardLedgerEntry
  | .selectActiveReservations .. => List Reservation
  | .insertUsageEvent .. => Unit
  | .loadFinancialEvent .. => Option FinancialEvent
  | .insertFinancialEvent .. => Unit
  | .insertReconciliationItem .. => Unit
  | .pauseProxyKey .. => Unit
  | .loadOpenItems .. => List ReconciliationItem
  | .closeItem .. => Unit
  | .hasOpenItem .. => Bool
  | .loadExpiredHolds .. => List Reservation
  | .selectMonthlyCharges .. => List Nat
  | .insertReservation .. => Reservation

@[reducible]
def Statement.Reply (statement : Statement) : Type :=
  Except SqlError statement.Answer

inductive Delivery
  | answered
  | refused
  | replyLost
  deriving DecidableEq

/-- The environment's part of one statement: its delivery, and the id and time the
database gives a new row. -/
structure Turn where
  delivery : Delivery
  newId : String
  now : Nat
  deriving DecidableEq

def Turn.at (newId : String) (now : Nat) : Turn :=
  { delivery := .answered, newId, now }

def notLater (left right : ReconciliationItem) : Prop :=
  left.createdAt ≤ right.createdAt

instance : DecidableRel notLater := fun left right =>
  inferInstanceAs (Decidable (left.createdAt ≤ right.createdAt))

def expiresNoLater (left right : Reservation) : Prop :=
  left.expiresAt.getD 0 ≤ right.expiresAt.getD 0

instance : DecidableRel expiresNoLater := fun left right =>
  inferInstanceAs (Decidable (left.expiresAt.getD 0 ≤ right.expiresAt.getD 0))

def Statement.execute (caller : Nat) (turn : Turn) (store : SettlementStore) :
    (statement : Statement) → Except SqlError (SettlementStore × statement.Answer)
  | .loadReservation userId referenceId =>
    .ok (store, store.wallets.findReservation userId referenceId)
  | .captureReservation path costMicroUsd userId referenceId captureMicroUsd =>
    match captureManagedVeniceReservation caller userId referenceId captureMicroUsd
      store.wallets with
    | .error failure => .error failure
    | .ok (wallets, reply) =>
      .ok
        ({ store with
            wallets
            closings :=
              if reply.captured then
                { caller, referenceId, path, costMicroUsd,
                  capturedMicroUsd := captureMicroUsd } :: store.closings
              else store.closings },
          reply)
  | .debitWallet userId walletType amountMicroUsd referenceId =>
    match debitManagedVeniceWallet caller userId (some walletType) amountMicroUsd referenceId
      store.wallets with
    | .error failure => .error failure
    | .ok wallets => .ok ({ store with wallets }, ())
  | .releaseReservation id releasedMicroUsd =>
    match releaseActiveReservation id releasedMicroUsd store.wallets with
    | .error failure => .error failure
    | .ok (wallets, changed) => .ok ({ store with wallets }, changed)
  | .loadWalletAccount _ userId =>
    .ok (store, store.wallets.accounts.find? fun account => account.userId == userId)
  | .upsertWalletAccount _ userId =>
    -- `on conflict do nothing`: an account of the user is left alone
    if (store.wallets.accounts.find? fun account => account.userId == userId).isSome then
      .ok (store, ())
    else
      match store.wallets.accounts.insert { id := turn.newId, userId } with
      | none => .error .uniqueViolation
      | some accounts => .ok ({ store with wallets := { store.wallets with accounts } }, ())
  | .selectActiveLots userId =>
    .ok (store, store.wallets.tokenLots.selectWhere (spendableLot userId))
  | .selectCardEntries userId =>
    .ok (store, store.wallets.cardLedger.selectWhere fun entry => entry.userId == userId)
  | .selectActiveReservations userId =>
    .ok (store, store.wallets.reservations.selectWhere fun hold =>
      hold.userId == userId && hold.status == .active)
  | .insertUsageEvent event =>
    match store.usageEvents.insert { event with createdAt := turn.now } with
    | none => .error .uniqueViolation
    | some usageEvents => .ok ({ store with usageEvents }, ())
  | .loadFinancialEvent idempotencyKey =>
    .ok (store, store.financialEvents.find? fun event => event.idempotencyKey == idempotencyKey)
  | .insertFinancialEvent event =>
    match store.financialEvents.insert event with
    | none => .error .uniqueViolation
    | some financialEvents => .ok ({ store with financialEvents }, ())
  | .insertReconciliationItem item =>
    match store.reconciliationItems.insert
      { id := turn.newId
        userId := item.userId
        accountId := some item.accountId
        proxyKeyId := item.proxyKeyId
        status := .open
        reason := item.reason
        metadata := item.metadata
        createdAt := turn.now } with
    | none => .error .uniqueViolation
    | some reconciliationItems => .ok ({ store with reconciliationItems }, ())
  | .pauseProxyKey id userId reason =>
    .ok
      ({ store with
          proxyKeys := store.proxyKeys.rewrite
            (fun key => key.id == id && key.userId == userId && key.status == .active)
            (fun key => { key with status := .paused, pausedReason := some reason })
            (fun _ => rfl) },
        ())
  | .loadOpenItems query cutoff limit =>
    .ok (store,
      ((store.reconciliationItems.selectWhere fun item =>
        item.status == .open && query.selects item && decide (item.createdAt < cutoff)).insertionSort
          notLater).take limit)
  | .closeItem id status metadata =>
    .ok
      ({ store with
          reconciliationItems := store.reconciliationItems.rewrite (fun item => item.id == id)
            (ReconciliationItem.close status metadata) (fun _ => rfl) },
        ())
  | .hasOpenItem userId referenceId =>
    .ok (store, store.reconciliationItems.rows.any fun item =>
      item.status == .open && item.userId == userId &&
        item.metadata.referenceId == some referenceId)
  | .loadExpiredHolds now limit =>
    .ok (store,
      ((store.wallets.reservations.selectWhere fun hold =>
        hold.status == .active && hold.expiresAt.any (· < now)).insertionSort
          expiresNoLater).take limit)
  | .selectMonthlyCharges userId monthStart =>
    .ok (store,
      (store.usageEvents.selectWhere fun event =>
        event.userId == userId && decide (monthStart ≤ event.createdAt)).map
          UsageEvent.chargedMicroUsd)
  | .insertReservation hold =>
    match Hivra.ManagedVenice.insertReservation (hold.row turn.newId) store.wallets with
    | .error failure => .error failure
    | .ok wallets => .ok ({ store with wallets }, hold.row turn.newId)

def performStatement (caller : Nat) (statement : Statement) (turn : Turn)
    (store : SettlementStore) : SettlementStore × statement.Reply :=
  match turn.delivery, statement.execute caller turn store with
  | .refused, _ => (store, .error .unavailable)
  | .answered, .ok (next, answer) => (next, .ok answer)
  | .answered, .error failure => (store, .error failure)
  | .replyLost, .ok (next, _) => (next, .error .unavailable)
  | .replyLost, .error _ => (store, .error .unavailable)

theorem perform_statement_store
    (caller : Nat) (statement : Statement) (turn : Turn) (store : SettlementStore) :
    (performStatement caller statement turn store).1 = store ∨
      ∃ answer, statement.execute caller turn store =
        .ok ((performStatement caller statement turn store).1, answer) := by
  unfold performStatement
  cases executed : statement.execute caller turn store with
  | error failure =>
    cases turn.delivery <;> exact .inl rfl
  | ok pair =>
    cases turn.delivery with
    | answered => exact .inr ⟨pair.2, rfl⟩
    | refused => exact .inl rfl
    | replyLost => exact .inr ⟨pair.2, rfl⟩

theorem perform_statement_answer
    {caller : Nat} {statement : Statement} {turn : Turn} {store : SettlementStore}
    {answer : statement.Answer}
    (answered : (performStatement caller statement turn store).2 = .ok answer) :
    statement.execute caller turn store =
      .ok ((performStatement caller statement turn store).1, answer) := by
  unfold performStatement at *
  cases executed : statement.execute caller turn store with
  | error failure => cases delivery : turn.delivery <;> simp [executed, delivery] at answered
  | ok pair =>
    cases delivery : turn.delivery with
    | answered =>
      simp only [executed, delivery, Except.ok.injEq] at answered ⊢
      rw [← answered]
    | refused => simp [executed, delivery] at answered
    | replyLost => simp [executed, delivery] at answered

theorem perform_statement_error
    {caller : Nat} {statement : Statement} {turn : Turn} {store next : SettlementStore}
    {answer : statement.Answer} {failure : SqlError}
    (failed : (performStatement caller statement turn store).2 = .error failure)
    (ok : statement.execute caller turn store = .ok (next, answer)) : turn.delivery = .replyLost ∨
      (turn.delivery = .refused ∧ (performStatement caller statement turn store).1 = store) := by
  unfold performStatement at *
  cases delivery : turn.delivery with
  | answered => simp [ok, delivery] at failed
  | refused => exact .inr ⟨rfl, rfl⟩
  | replyLost => exact .inl rfl

end Hivra.ManagedVenice
