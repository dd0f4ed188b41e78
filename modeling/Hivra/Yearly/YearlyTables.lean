import Hivra.Library.Tables
import Hivra.Library.Texts

/-!
# Yearly token tables

The rows of the yearly token schema that the settlement function and the crons
write, with the unique indexes of the migrations.  Times are microseconds and
token amounts raw units, both unbounded.  Columns nothing here reads (display
texts, email and sweep bookkeeping, `updated_at`) are left out.

The checks on `user_id`, `tier`, `token_key` and `token_address` are not
repeated: settlement copies these columns from a quote that passed the same
checks.
-/

namespace Hivra.Yearly

open Hivra.Library

inductive Tier
  | pro
  | power
  deriving DecidableEq

inductive PlatformTokenKey
  | hermesos
  | hivra
  deriving DecidableEq

inductive QuoteStatus
  | active
  | consumed
  | expired
  | cancelled
  | manualReview
  deriving DecidableEq

structure QuoteMetadata where
  consumedLogIndex : Option Int := none
  consumedBlockTimestamp : Option Int := none

/-- A row of `yearly_token_quotes`. -/
structure YearlyTokenQuote where
  id : String
  userId : String
  tier : Tier
  tokenKey : PlatformTokenKey
  tokenAddress : String
  usdTargetCents : Nat
  priceUsdAtQuote : String
  tokensRequiredRaw : Nat
  depositAddress : String
  quotedAt : Int
  expiresAt : Int
  status : QuoteStatus
  consumedTxHash : Option String
  consumedLogIndex : Option Int
  consumedBalanceRaw : Option Int
  consumedAt : Option Int
  attributionClosedAt : Option Int
  metadata : QuoteMetadata

inductive QuoteKey
  | id (id : String)
  | consumedTransfer (transactionHash : String) (logIndex : Int)
  | active (userId : String) (tier : Tier)
  deriving DecidableEq

def transferOf (transactionHash : Option String) (logIndex : Option Int) : Option (String × Int) :=
  match transactionHash, logIndex with
  | some transactionHash, some logIndex => some (lower transactionHash, logIndex)
  | _, _ => none

def YearlyTokenQuote.transfer (quote : YearlyTokenQuote) : Option (String × Int) :=
  transferOf quote.consumedTxHash quote.consumedLogIndex

/-- The primary key, `uq_yearly_token_quotes_consumed_transfer` and
`yearly_token_quotes_user_tier_active_idx`. -/
def YearlyTokenQuote.entries (quote : YearlyTokenQuote) : List QuoteKey :=
  .id quote.id ::
    (quote.transfer.toList.map fun transfer =>
      QuoteKey.consumedTransfer transfer.1 transfer.2) ++
    (if quote.status = .active then [QuoteKey.active quote.userId quote.tier] else [])

inductive SubscriptionStatus
  | active
  | grace
  | expired
  | cancelled
  | renewed
  deriving DecidableEq

inductive SweepStatus
  | pending
  | sweeping
  | swept
  | failed
  | skipped
  | needsOperator
  deriving DecidableEq

/-- The metadata settlement writes; a field that is absent is `none`. -/
structure SubscriptionMetadata where
  priceUsdAtQuote : Option String := none
  usdTargetCents : Option Nat := none
  tokensRequiredRaw : Option Nat := none
  depositAddress : Option String := none
  blockTimestamp : Option Int := none
  renewsSubscriptionId : Option String := none
  renewedAt : Option Int := none
  renewedByQuoteId : Option String := none
  renewedBySubscriptionId : Option String := none
  deriving DecidableEq

/-- A row of `yearly_token_subscriptions`. -/
structure YearlyTokenSubscription where
  id : String
  userId : String
  tier : Tier
  yearlyQuoteId : Option String
  paidAt : Int
  expiresAt : Int
  depositTxHash : Option String
  depositLogIndex : Option Int
  depositAddress : Option String
  amountReceivedRaw : Int
  tokenKey : PlatformTokenKey
  tokenAddress : String
  sweepStatus : SweepStatus
  status : SubscriptionStatus
  metadata : SubscriptionMetadata
  deriving DecidableEq

inductive SubscriptionKey
  | id (id : String)
  | depositTransfer (transactionHash : String) (logIndex : Int)
  | yearlyQuote (quoteId : String)
  | live (userId : String) (tier : Tier)
  deriving DecidableEq

def YearlyTokenSubscription.transfer (subscription : YearlyTokenSubscription) :
    Option (String × Int) :=
  transferOf subscription.depositTxHash subscription.depositLogIndex

/-- `status in ('active', 'grace')`. -/
def YearlyTokenSubscription.isLive (subscription : YearlyTokenSubscription) : Bool :=
  subscription.status == .active || subscription.status == .grace

/-- The primary key, `uq_yearly_token_subscriptions_deposit_transfer`,
`uq_yearly_token_subscriptions_yearly_quote_id` and
`yearly_token_subscriptions_user_tier_active_idx`. -/
def YearlyTokenSubscription.entries (subscription : YearlyTokenSubscription) :
    List SubscriptionKey :=
  .id subscription.id ::
    (subscription.transfer.toList.map fun transfer =>
      SubscriptionKey.depositTransfer transfer.1 transfer.2) ++
    (subscription.yearlyQuoteId.toList.map SubscriptionKey.yearlyQuote) ++
    (if subscription.isLive then [SubscriptionKey.live subscription.userId subscription.tier]
    else [])

inductive VeniceQuoteStatus
  | active
  | expired
  | settled
  | cancelled
  | manualReviewRequired
  deriving DecidableEq

/-- The columns of `managed_venice_token_quotes` settlement reads. -/
structure VeniceQuote where
  transactionHash : Option String
  depositAddress : String
  status : VeniceQuoteStatus

/-- The columns of `managed_venice_token_lots` settlement reads. -/
structure VeniceLot where
  transactionHash : Option String
  userId : String

structure YearlyStore where
  quotes : Table YearlyTokenQuote.entries
  subscriptions : Table YearlyTokenSubscription.entries
  veniceQuotes : List VeniceQuote
  veniceLots : List VeniceLot

variable {subscription : YearlyTokenSubscription}

def YearlyStore.empty : YearlyStore :=
  { quotes := .empty
    subscriptions := .empty
    veniceQuotes := []
    veniceLots := [] }

section Entries

theorem quote_id_entry (quote : YearlyTokenQuote) : .id quote.id ∈ quote.entries := by
  simp [YearlyTokenQuote.entries]

theorem quote_transfer_entry {quote : YearlyTokenQuote} {transfer : String × Int}
    (consumed : quote.transfer = some transfer) :
    .consumedTransfer transfer.1 transfer.2 ∈ quote.entries := by
  simp [YearlyTokenQuote.entries, consumed]

theorem subscription_id_entry (subscription : YearlyTokenSubscription) :
    .id subscription.id ∈ subscription.entries := by
  simp [YearlyTokenSubscription.entries]

theorem subscription_transfer_entry
    {transfer : String × Int} (paid : subscription.transfer = some transfer) :
    .depositTransfer transfer.1 transfer.2 ∈ subscription.entries := by
  simp [YearlyTokenSubscription.entries, paid]

theorem subscription_quote_entry {quoteId : String}
    (paid : subscription.yearlyQuoteId = some quoteId) :
    .yearlyQuote quoteId ∈ subscription.entries := by
  simp [YearlyTokenSubscription.entries, paid]

theorem subscription_live_entry (live : subscription.isLive = true) :
    .live subscription.userId subscription.tier ∈ subscription.entries := by
  simp [YearlyTokenSubscription.entries, live]

end Entries

end Hivra.Yearly
