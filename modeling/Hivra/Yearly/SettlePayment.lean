import Hivra.Yearly.YearlyTables

/-!
# Settlement of a yearly payment

`settle_yearly_platform_token_payment`, one transaction: it checks the payment,
then writes the year.  A unique violation rolls the writes back and is answered
`transaction_already_claimed`; any other error is raised and rolls them back too.

The other statements that write the two yearly tables follow: quotes are minted,
expire, go to review and close, subscriptions run into grace and out of it, and
their deposits are swept.
-/

namespace Hivra.Yearly

open Hivra.Library

structure SettleCall where
  quoteId : String
  transactionHash : Option String
  logIndex : Option Int
  amountRaw : Option Int
  blockTimestamp : Option Int
  tokenAddress : Option String
  now : Int

/-- `v_tx`. -/
def SettleCall.tx (call : SettleCall) : String :=
  lower (btrim (call.transactionHash.getD ""))

def SettleCall.token (call : SettleCall) : String :=
  lower (btrim (call.tokenAddress.getD ""))

/-- What the function answers.  `numericOverflow` is the one answer that is
raised. -/
inductive SettleResult
  | invalidTransaction
  | invalidAmount
  | notFound
  | wrongToken (quoteTokenAddress transferTokenAddress : String)
  | alreadySettled
      (subscriptionId : Option String) (expiresAt : Option Int) (transactionHash : String)
  | quoteSettledWithOtherTransaction (transactionHash : String)
  | notSettleable (quoteStatus : QuoteStatus)
  | legacySubscriptionExists
  | transactionAlreadyClaimed (uniqueViolation : Bool)
  | activated (subscriptionId : String) (expiresAt : Int) (transactionHash : String)
  | renewed
      (subscriptionId : String) (expiresAt : Int) (renewedSubscriptionId : String)
      (transactionHash : String)
  | numericOverflow
  deriving DecidableEq

/-- `status in ('activated', 'renewed')`. -/
def SettleResult.isSettled : SettleResult → Bool
  | .activated .. => true
  | .renewed .. => true
  | _ => false

def YearlyStore.subscriptionOfQuote (store : YearlyStore) (quoteId : String) :
    Option YearlyTokenSubscription :=
  store.subscriptions.find? fun subscription => subscription.yearlyQuoteId == some quoteId

def consumedAnswer
    (store : YearlyStore) (quote : YearlyTokenQuote) (consumed tx : String) (logIndex : Int) :
    SettleResult :=
  if lower consumed = tx ∧ quote.consumedLogIndex = some logIndex then
    let subscription := store.subscriptionOfQuote quote.id
    .alreadySettled
      (subscription.map YearlyTokenSubscription.id)
      (subscription.map YearlyTokenSubscription.expiresAt)
      tx
  else
    .quoteSettledWithOtherTransaction (lower consumed)

def quoteClaims (quote : YearlyTokenQuote) (tx : String) (logIndex : Int)
    (held : YearlyTokenQuote) : Bool :=
  held.consumedTxHash.map lower == some tx &&
    (held.consumedLogIndex == some logIndex ||
      held.consumedLogIndex.isNone && lower held.depositAddress == lower quote.depositAddress)

def subscriptionClaims (quote : YearlyTokenQuote) (tx : String) (logIndex : Int)
    (held : YearlyTokenSubscription) : Bool :=
  held.depositTxHash.map lower == some tx &&
    (held.depositLogIndex == some logIndex ||
      held.depositLogIndex.isNone &&
        lower (held.depositAddress.getD "") == lower quote.depositAddress)

def veniceQuoteClaims (quote : YearlyTokenQuote) (tx : String) (held : VeniceQuote) : Bool :=
  held.transactionHash.map lower == some tx &&
    lower held.depositAddress == lower quote.depositAddress &&
    held.status != .manualReviewRequired

def veniceLotClaims (quote : YearlyTokenQuote) (tx : String) (held : VeniceLot) : Bool :=
  held.transactionHash.map lower == some tx && held.userId == quote.userId

def YearlyStore.claimed
    (store : YearlyStore) (quote : YearlyTokenQuote) (tx : String) (logIndex : Int) : Bool :=
  store.quotes.rows.any (quoteClaims quote tx logIndex) ||
    store.subscriptions.rows.any (subscriptionClaims quote tx logIndex) ||
    store.veniceQuotes.any (veniceQuoteClaims quote tx) ||
    store.veniceLots.any (veniceLotClaims quote tx)

structure Payment where
  quote : YearlyTokenQuote
  transactionHash : String
  logIndex : Int
  amountRaw : Int
  blockTimestamp : Option Int
  now : Int

def checkQuote (call : SettleCall) (logIndex amountRaw : Int) (store : YearlyStore)
    (quote : YearlyTokenQuote) : Except SettleResult Payment :=
  if call.token ≠ lower quote.tokenAddress then
    .error (.wrongToken (lower quote.tokenAddress) call.token)
  else
    match quote.consumedTxHash with
    | some consumed => .error (consumedAnswer store quote consumed call.tx logIndex)
    | none =>
      if quote.status ≠ .active ∧ quote.status ≠ .expired then
        .error (.notSettleable quote.status)
      else if (store.subscriptionOfQuote quote.id).isSome then
        .error .legacySubscriptionExists
      else if store.claimed quote call.tx logIndex then
        .error (.transactionAlreadyClaimed false)
      else
        .ok
          { quote
            transactionHash := call.tx
            logIndex
            amountRaw
            blockTimestamp := call.blockTimestamp
            now := call.now }

def YearlyStore.quote? (store : YearlyStore) (quoteId : String) : Option YearlyTokenQuote :=
  store.quotes.find? fun quote => quote.id == quoteId

def checkPayment (call : SettleCall) (store : YearlyStore) : Except SettleResult Payment :=
  match call.logIndex with
  | none => .error .invalidTransaction
  | some logIndex =>
    if isTransactionHash call.tx = false ∨ logIndex < 0 then
      .error .invalidTransaction
    else
      match call.amountRaw with
      | none => .error .invalidAmount
      | some amountRaw =>
        if amountRaw ≤ 0 then
          .error .invalidAmount
        else
          match store.quote? call.quoteId with
          | none => .error .notFound
          | some quote => checkQuote call logIndex amountRaw store quote

/-- `interval '365 days'`. -/
def oneYear : Int := 365 * 24 * 60 * 60 * 1000000

def YearlyStore.liveSubscription (store : YearlyStore) (userId : String) (tier : Tier) :
    Option YearlyTokenSubscription :=
  store.subscriptions.find? fun subscription =>
    subscription.userId == userId && subscription.tier == tier && subscription.isLive

def Payment.expiresAt (payment : Payment) : Option YearlyTokenSubscription → Int
  | some current => max current.expiresAt payment.now + oneYear
  | none => payment.now + oneYear

def Payment.renew (payment : Payment) (current : YearlyTokenSubscription) :
    YearlyTokenSubscription :=
  { current with
    status := .renewed
    metadata :=
      { current.metadata with
        renewedAt := some payment.now
        renewedByQuoteId := some payment.quote.id } }

def linkRenewed (subscriptionId : String) (current : YearlyTokenSubscription) :
    YearlyTokenSubscription :=
  { current with
    metadata := { current.metadata with renewedBySubscriptionId := some subscriptionId } }

def Payment.subscription
    (payment : Payment) (subscriptionId : String) (current : Option YearlyTokenSubscription) :
    YearlyTokenSubscription :=
  { id := subscriptionId
    userId := payment.quote.userId
    tier := payment.quote.tier
    yearlyQuoteId := some payment.quote.id
    paidAt := payment.now
    expiresAt := payment.expiresAt current
    depositTxHash := some payment.transactionHash
    depositLogIndex := some payment.logIndex
    depositAddress := some (lower payment.quote.depositAddress)
    amountReceivedRaw := payment.amountRaw
    tokenKey := payment.quote.tokenKey
    tokenAddress := lower payment.quote.tokenAddress
    sweepStatus := .pending
    status := .active
    metadata :=
      { priceUsdAtQuote := some payment.quote.priceUsdAtQuote
        usdTargetCents := some payment.quote.usdTargetCents
        tokensRequiredRaw := some payment.quote.tokensRequiredRaw
        depositAddress := some (lower payment.quote.depositAddress)
        blockTimestamp := payment.blockTimestamp
        renewsSubscriptionId := current.map YearlyTokenSubscription.id } }

def Payment.consume (payment : Payment) (quote : YearlyTokenQuote) : YearlyTokenQuote :=
  { quote with
    status := .consumed
    consumedTxHash := some payment.transactionHash
    consumedLogIndex := some payment.logIndex
    consumedBalanceRaw := some payment.amountRaw
    consumedAt := some payment.now
    metadata :=
      { consumedLogIndex := some payment.logIndex
        consumedBlockTimestamp :=
          payment.blockTimestamp.or quote.metadata.consumedBlockTimestamp } }

/-- `update ... where id = v_current.id`, when there is a current row. -/
def updateCurrent (current : Option YearlyTokenSubscription)
    (change : YearlyTokenSubscription → YearlyTokenSubscription)
    (subscriptions : Table YearlyTokenSubscription.entries) :
    Option (Table YearlyTokenSubscription.entries) :=
  match current with
  | none => some subscriptions
  | some current => subscriptions.update (fun row => row.id == current.id) change

/-- The three statements on the subscriptions and the one on the quotes: `none`
is a unique violation in any of them. -/
def Payment.write
    (payment : Payment) (subscriptionId : String) (current : Option YearlyTokenSubscription)
    (store : YearlyStore) : Option YearlyStore := do
  let subscriptions ← updateCurrent current payment.renew store.subscriptions
  let subscriptions ← subscriptions.insert (payment.subscription subscriptionId current)
  let subscriptions ← updateCurrent current (linkRenewed subscriptionId) subscriptions
  let quotes ← store.quotes.update (fun row => row.id == payment.quote.id) payment.consume
  return { store with quotes, subscriptions }

def Payment.answer
    (payment : Payment) (subscriptionId : String) (current : Option YearlyTokenSubscription) :
    SettleResult :=
  match current with
  | none => .activated subscriptionId (payment.expiresAt none) payment.transactionHash
  | some current =>
    .renewed subscriptionId (payment.expiresAt (some current)) current.id
      payment.transactionHash

/-- `numeric(78, 0)` holds less than this. -/
def numericLimit : Int := 10 ^ 78

def Payment.settle (payment : Payment) (subscriptionId : String) (store : YearlyStore) :
    SettleResult × YearlyStore :=
  let current := store.liveSubscription payment.quote.userId payment.quote.tier
  if numericLimit ≤ payment.amountRaw then
    (.numericOverflow, store)
  else
    match payment.write subscriptionId current store with
    | none => (.transactionAlreadyClaimed true, store)
    | some next => (payment.answer subscriptionId current, next)

/-- `settle_yearly_platform_token_payment`; `subscriptionId` is the id the
database generates for a new row. -/
def settleYearlyPlatformTokenPayment
    (call : SettleCall) (subscriptionId : String) (store : YearlyStore) :
    SettleResult × YearlyStore :=
  match checkPayment call store with
  | .error answer => (answer, store)
  | .ok payment => payment.settle subscriptionId store

/-- What `createYearlyTokenQuote` inserts. -/
structure NewQuote where
  id : String
  userId : String
  tier : Tier
  tokenKey : PlatformTokenKey
  tokenAddress : String
  usdTargetCents : Nat
  priceUsdAtQuote : String
  tokensRequiredRaw : Nat
  depositAddress : String
  quotedAt : Int
  expiresAt : Int

def NewQuote.row (quote : NewQuote) : YearlyTokenQuote :=
  { id := quote.id
    userId := quote.userId
    tier := quote.tier
    tokenKey := quote.tokenKey
    tokenAddress := quote.tokenAddress
    usdTargetCents := quote.usdTargetCents
    priceUsdAtQuote := quote.priceUsdAtQuote
    tokensRequiredRaw := quote.tokensRequiredRaw
    depositAddress := quote.depositAddress
    quotedAt := quote.quotedAt
    expiresAt := quote.expiresAt
    status := .active
    consumedTxHash := none
    consumedLogIndex := none
    consumedBalanceRaw := none
    consumedAt := none
    attributionClosedAt := none
    metadata := {} }

/-- The statuses `closeQuote` moves a quote to. -/
inductive ClosedStatus
  | manualReview
  | cancelled

/-- `closeQuote`: active or expired, and no transfer bound to the quote. -/
def isClosable (quoteId : String) (quote : YearlyTokenQuote) : Bool :=
  quote.id == quoteId && (quote.status == .active || quote.status == .expired) &&
    quote.consumedTxHash.isNone

def closeTo (status : ClosedStatus) (now : Int) (quote : YearlyTokenQuote) : YearlyTokenQuote :=
  match status with
  | .manualReview => { quote with status := .manualReview }
  | .cancelled => { quote with status := .cancelled, attributionClosedAt := some now }

/-- The self-cleaning update of a quote read: `tier` is `none` where the read
covers both. -/
def isStale (userId : String) (tier : Option Tier) (now : Int) (quote : YearlyTokenQuote) : Bool :=
  quote.userId == userId && (tier.isNone || tier == some quote.tier) &&
    quote.status == .active && decide (quote.expiresAt < now)

def graceWindow : Int := 7 * 24 * 60 * 60 * 1000000

/-- One statement on the yearly tables, or any write to the other flow's. -/
inductive YearlyEvent
  | settle (call : SettleCall) (subscriptionId : String)
  | createQuote (quote : NewQuote)
  | expireQuotes (userId : String) (tier : Option Tier) (now : Int)
  | closeQuote (quoteId : String) (status : ClosedStatus) (now : Int)
  | closeAttribution (quoteId : String) (now : Int)
  | moveToGrace (now : Int)
  | expireGrace (now : Int)
  | sweep (subscriptionId : String) (status : SweepStatus)
  | otherFlow (quotes : List VeniceQuote) (lots : List VeniceLot)

def YearlyStore.changeQuotes (store : YearlyStore)
    (selected : YearlyTokenQuote → Bool) (change : YearlyTokenQuote → YearlyTokenQuote) :
    YearlyStore :=
  { store with quotes := (store.quotes.update selected change).getD store.quotes }

def YearlyStore.changeSubscriptions (store : YearlyStore)
    (selected : YearlyTokenSubscription → Bool)
    (change : YearlyTokenSubscription → YearlyTokenSubscription) : YearlyStore :=
  { store with
    subscriptions := (store.subscriptions.update selected change).getD store.subscriptions }

def YearlyStore.step (store : YearlyStore) : YearlyEvent → YearlyStore
  | .settle call subscriptionId =>
    (settleYearlyPlatformTokenPayment call subscriptionId store).2
  | .createQuote quote =>
    { store with quotes := (store.quotes.insert quote.row).getD store.quotes }
  | .expireQuotes userId tier now =>
    store.changeQuotes (isStale userId tier now) (fun quote => { quote with status := .expired })
  | .closeQuote quoteId status now =>
    store.changeQuotes (isClosable quoteId) (closeTo status now)
  | .closeAttribution quoteId now =>
    store.changeQuotes
      (fun quote => quote.id == quoteId && quote.attributionClosedAt.isNone)
      (fun quote => { quote with attributionClosedAt := some now })
  | .moveToGrace now =>
    store.changeSubscriptions
      (fun row => row.status == .active && decide (row.expiresAt < now))
      (fun row => { row with status := .grace })
  | .expireGrace now =>
    store.changeSubscriptions
      (fun row => row.status == .grace && decide (row.expiresAt < now - graceWindow))
      (fun row => { row with status := .expired })
  | .sweep subscriptionId status =>
    store.changeSubscriptions
      (fun row => row.id == subscriptionId)
      (fun row => { row with sweepStatus := status })
  | .otherFlow quotes lots => { store with veniceQuotes := quotes, veniceLots := lots }

def YearlyStore.after (store : YearlyStore) (history : List YearlyEvent) : YearlyStore :=
  history.foldl YearlyStore.step store

end Hivra.Yearly
