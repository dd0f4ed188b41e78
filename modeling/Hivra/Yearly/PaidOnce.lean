import Hivra.Yearly.SettlePayment

/-!
# One payment buys one year, once

The inversion lemmas of the settlement function say what passes its checks and
what it then writes.  Every statement keeps the settlements and the paid periods
already on record, so a replay of a settled call finds them again after any
history.
-/

namespace Hivra.Yearly

open Hivra.Library

structure Accepted (call : SettleCall) (store : YearlyStore) (payment : Payment) : Prop where
  onRecord : payment.quote ∈ store.quotes
  named : payment.quote.id = call.quoteId
  token : call.token = lower payment.quote.tokenAddress
  unconsumed : payment.quote.consumedTxHash = none
  settleable : payment.quote.status = .active ∨ payment.quote.status = .expired
  unpaid : store.subscriptionOfQuote payment.quote.id = none
  unclaimed : store.claimed payment.quote call.tx payment.logIndex = false
  hash : payment.transactionHash = call.tx
  hexadecimal : isTransactionHash call.tx = true
  logged : call.logIndex = some payment.logIndex
  nonnegative : 0 ≤ payment.logIndex
  amount : call.amountRaw = some payment.amountRaw
  positive : 0 < payment.amountRaw
  at_now : payment.now = call.now

variable {quoteId : String}

variable {store : YearlyStore} {current : Option YearlyTokenSubscription} {quote : YearlyTokenQuote}

theorem quote_found (found : store.quote? quoteId = some quote) :
    quote ∈ store.quotes ∧ quote.id = quoteId := by
  have ⟨member, matched⟩ := Table.find_mem found
  exact ⟨member, by simpa using matched⟩

variable {logIndex amountRaw : Int} {payment : Payment} {call : SettleCall}

theorem check_quote_ok (passed : checkQuote call logIndex amountRaw store quote = .ok payment) :
    call.token = lower quote.tokenAddress ∧ quote.consumedTxHash = none ∧
      (quote.status = .active ∨ quote.status = .expired) ∧
      store.subscriptionOfQuote quote.id = none ∧
      store.claimed quote call.tx logIndex = false ∧
      payment =
        { quote, transactionHash := call.tx, logIndex, amountRaw,
          blockTimestamp := call.blockTimestamp, now := call.now } := by
  unfold checkQuote at passed
  by_cases token : call.token = lower quote.tokenAddress
  · rw [if_neg (not_not.mpr token)] at passed
    cases unconsumed : quote.consumedTxHash with
    | some consumed =>
      rw [unconsumed] at passed
      cases passed
    | none =>
      rw [unconsumed] at passed
      dsimp only at passed
      split_ifs at passed with closed paid claimed
      cases passed
      have settleable : quote.status = .active ∨ quote.status = .expired := by
        by_contra neither
        exact closed (not_or.mp neither)
      exact ⟨token, rfl, settleable, by simpa using paid, by simpa using claimed, rfl⟩
  · rw [if_pos token] at passed
    cases passed

theorem check_payment_ok (passed : checkPayment call store = .ok payment) :
    Accepted call store payment := by
  unfold checkPayment at passed
  split at passed
  · cases passed
  · rename_i logIndex logged
    split_ifs at passed with malformed
    split at passed
    · cases passed
    · rename_i amountRaw amount
      split_ifs at passed with worthless
      split at passed
      · cases passed
      · rename_i quote found
        have ⟨onRecord, named⟩ := quote_found found
        have ⟨token, unconsumed, settleable, unpaid, unclaimed, same⟩ := check_quote_ok passed
        cases same
        have hexadecimal : isTransactionHash call.tx = true := by
          by_contra wrong
          exact malformed (.inl (by simpa using wrong))
        have nonnegative : 0 ≤ logIndex := by
          by_contra negative
          exact malformed (.inr (Int.not_le.mp negative))
        exact
          { onRecord, named, token, unconsumed, settleable, unpaid, unclaimed, hash := rfl
            hexadecimal, logged, nonnegative, amount, positive := by simpa using worthless, at_now := rfl }

theorem consumed_answer_unsettled (store : YearlyStore) (quote : YearlyTokenQuote)
    (consumed tx : String) (logIndex : Int) :
    (consumedAnswer store quote consumed tx logIndex).isSettled = false := by
  unfold consumedAnswer
  split <;> rfl

theorem check_quote_refuses {answer : SettleResult}
    (refused : checkQuote call logIndex amountRaw store quote = .error answer) :
    answer.isSettled = false := by
  unfold checkQuote at refused
  split at refused
  · cases refused
    rfl
  · split at refused
    · rw [← Except.error.inj refused]
      exact consumed_answer_unsettled ..
    · split_ifs at refused <;> cases refused <;> rfl

theorem check_payment_refuses {answer : SettleResult}
    (refused : checkPayment call store = .error answer) : answer.isSettled = false := by
  unfold checkPayment at refused
  split at refused
  · cases refused
    rfl
  · split at refused
    · cases refused
      rfl
    · split at refused
      · cases refused
        rfl
      · split at refused
        · cases refused
          rfl
        · split at refused
          · cases refused
            rfl
          · exact check_quote_refuses refused

theorem live_found {userId : String} {tier : Tier} {current : YearlyTokenSubscription}
    (found : store.liveSubscription userId tier = some current) :
    current ∈ store.subscriptions ∧ current.userId = userId ∧ current.tier = tier ∧
      current.isLive = true := by
  have ⟨member, matched⟩ := Table.find_mem found
  simp only [Bool.and_eq_true, beq_iff_eq] at matched
  exact ⟨member, matched.1.1, matched.1.2, matched.2⟩

def Payment.supersede (payment : Payment) (subscriptionId : String)
    (current : YearlyTokenSubscription) : YearlyTokenSubscription :=
  linkRenewed subscriptionId (payment.renew current)

theorem mem_update_current {change : YearlyTokenSubscription → YearlyTokenSubscription}
    {subscriptions next : Table YearlyTokenSubscription.entries}
    (updated : updateCurrent current change subscriptions = some next)
    (row : YearlyTokenSubscription) : row ∈ next ↔
      ∃ old ∈ subscriptions,
        (if current.map YearlyTokenSubscription.id = some old.id then change old else old) =
          row := by
  cases current with
  | none =>
    cases updated
    simp
  | some current =>
    rw [Table.mem_update updated]
    simp only [beq_iff_eq, Option.map_some, Option.some.injEq, @eq_comm _ current.id]

structure Written (payment : Payment) (subscriptionId : String)
    (current : Option YearlyTokenSubscription) (store next : YearlyStore) : Prop where
  subscriptions : ∀ row, row ∈ next.subscriptions ↔
    row = payment.subscription subscriptionId current ∨
      ∃ old ∈ store.subscriptions,
        (if current.map YearlyTokenSubscription.id = some old.id then
          payment.supersede subscriptionId old
        else old) = row
  quotes : ∀ row, row ∈ next.quotes ↔
    ∃ old ∈ store.quotes,
      (if old.id = payment.quote.id then payment.consume old else old) = row

variable {subscriptionId : String} {next : YearlyStore}

theorem write_spec (held : ∀ row, current = some row → row ∈ store.subscriptions)
    (written : payment.write subscriptionId current store = some next) :
    Written payment subscriptionId current store next := by
  unfold Payment.write at written
  simp only [bind, Option.bind_eq_some_iff] at written
  obtain ⟨renewed, renewedBy, inserted, insertedBy, linked, linkedBy, quotes, consumedBy, same⟩ :=
    written
  cases same
  constructor
  · intro row
    rw [mem_update_current linkedBy]
    simp only [Table.mem_insert insertedBy, mem_update_current renewedBy]
    -- the new row has an id of its own, so the last update misses it
    have fresh : current.map YearlyTokenSubscription.id ≠ some subscriptionId := by
      cases current with
      | none => simp
      | some current =>
        intro shared
        have present : payment.renew current ∈ renewed := by
          rw [mem_update_current renewedBy]
          exact ⟨current, held current rfl, by simp⟩
        apply Table.insert_apart insertedBy present (.id current.id)
        · exact subscription_id_entry (payment.renew current)
        · rw [Option.map_some, Option.some.injEq] at shared
          rw [shared]
          exact subscription_id_entry (payment.subscription subscriptionId (some current))
    constructor
    · rintro ⟨middle, ⟨old, member, rfl⟩ | rfl, rfl⟩
      · right
        refine ⟨old, member, ?_⟩
        by_cases superseded : current.map YearlyTokenSubscription.id = some old.id
        · simp [superseded, Payment.supersede, Payment.renew]
        · simp [superseded]
      · left
        rw [if_neg]
        exact fresh
    · rintro (rfl | ⟨old, member, rfl⟩)
      · refine ⟨_, .inr rfl, ?_⟩
        rw [if_neg]
        exact fresh
      · refine ⟨_, .inl ⟨old, member, rfl⟩, ?_⟩
        by_cases superseded : current.map YearlyTokenSubscription.id = some old.id
        · simp [superseded, Payment.supersede, Payment.renew]
        · simp [superseded]
  · intro row
    rw [Table.mem_update consumedBy]
    simp only [beq_iff_eq]

theorem settle_cases (call : SettleCall) (subscriptionId : String) (store : YearlyStore) :
    ((settleYearlyPlatformTokenPayment call subscriptionId store).1.isSettled = false ∧
      (settleYearlyPlatformTokenPayment call subscriptionId store).2 = store) ∨
    ∃ payment, Accepted call store payment ∧
      ∃ current, current = store.liveSubscription payment.quote.userId payment.quote.tier ∧
        (settleYearlyPlatformTokenPayment call subscriptionId store).1 =
          payment.answer subscriptionId current ∧
        Written payment subscriptionId current store
          (settleYearlyPlatformTokenPayment call subscriptionId store).2 := by
  unfold settleYearlyPlatformTokenPayment
  cases checked : checkPayment call store with
  | error answer => exact .inl ⟨check_payment_refuses checked, rfl⟩
  | ok payment =>
    dsimp only [Payment.settle]
    by_cases overflow : numericLimit ≤ payment.amountRaw
    · rw [if_pos overflow]
      exact .inl ⟨rfl, rfl⟩
    · rw [if_neg overflow]
      cases written : payment.write subscriptionId
          (store.liveSubscription payment.quote.userId payment.quote.tier) store with
      | none => exact .inl ⟨rfl, rfl⟩
      | some next =>
        right
        refine ⟨payment, check_payment_ok checked, _, rfl, rfl, ?_⟩
        exact write_spec (fun row found => (live_found found).1) written

def YearlyTokenQuote.SameSettlement (quote kept : YearlyTokenQuote) : Prop :=
  kept.id = quote.id ∧ kept.tokenAddress = quote.tokenAddress ∧
    kept.consumedTxHash = quote.consumedTxHash ∧ kept.consumedLogIndex = quote.consumedLogIndex

def YearlyTokenSubscription.SamePeriod (subscription kept : YearlyTokenSubscription) : Prop :=
  kept.id = subscription.id ∧ kept.yearlyQuoteId = subscription.yearlyQuoteId ∧
    kept.expiresAt = subscription.expiresAt

structure Keeps (before after : YearlyStore) : Prop where
  settlements : ∀ quote ∈ before.quotes, quote.consumedTxHash ≠ none →
    ∃ kept ∈ after.quotes, quote.SameSettlement kept
  periods : ∀ subscription ∈ before.subscriptions,
    ∃ kept ∈ after.subscriptions, subscription.SamePeriod kept

theorem keeps_refl (store : YearlyStore) : Keeps store store where
  settlements := fun quote member _ => ⟨quote, member, rfl, rfl, rfl, rfl⟩
  periods := fun subscription member => ⟨subscription, member, rfl, rfl, rfl⟩

theorem keeps_trans {first second third : YearlyStore}
    (early : Keeps first second) (late : Keeps second third) : Keeps first third where
  settlements := by
    intro quote member consumed
    obtain ⟨middle, middleMember, id, token, hash, log⟩ := early.settlements quote member consumed
    obtain ⟨last, lastMember, lastId, lastToken, lastHash, lastLog⟩ :=
      late.settlements middle middleMember (hash ▸ consumed)
    exact ⟨last, lastMember, lastId.trans id, lastToken.trans token, lastHash.trans hash,
      lastLog.trans log⟩
  periods := by
    intro subscription member
    obtain ⟨middle, middleMember, id, quote, expiry⟩ := early.periods subscription member
    obtain ⟨last, lastMember, lastId, lastQuote, lastExpiry⟩ := late.periods middle middleMember
    exact ⟨last, lastMember, lastId.trans id, lastQuote.trans quote, lastExpiry.trans expiry⟩

theorem keeps_change_quotes {selected : YearlyTokenQuote → Bool}
    {change : YearlyTokenQuote → YearlyTokenQuote}
    (same : ∀ quote : YearlyTokenQuote, quote.SameSettlement (change quote)) :
    Keeps store (store.changeQuotes selected change) where
  settlements := by
    intro quote member _
    unfold YearlyStore.changeQuotes
    cases updated : store.quotes.update selected change with
    | none => exact ⟨quote, member, rfl, rfl, rfl, rfl⟩
    | some quotes =>
      refine ⟨_, (Table.mem_update updated).mpr ⟨quote, member, rfl⟩, ?_⟩
      split
      · exact same quote
      · exact ⟨rfl, rfl, rfl, rfl⟩
  periods := (keeps_refl store).periods

theorem keeps_change_subscriptions {selected : YearlyTokenSubscription → Bool}
    {change : YearlyTokenSubscription → YearlyTokenSubscription}
    (same : ∀ row : YearlyTokenSubscription, row.SamePeriod (change row)) :
    Keeps store (store.changeSubscriptions selected change) where
  settlements := (keeps_refl store).settlements
  periods := by
    intro row member
    unfold YearlyStore.changeSubscriptions
    cases updated : store.subscriptions.update selected change with
    | none => exact ⟨row, member, rfl, rfl, rfl⟩
    | some subscriptions =>
      refine ⟨_, (Table.mem_update updated).mpr ⟨row, member, rfl⟩, ?_⟩
      split
      · exact same row
      · exact ⟨rfl, rfl, rfl⟩

theorem keeps_written (accepted : Accepted call store payment)
    (written : Written payment subscriptionId current store next) : Keeps store next where
  settlements := by
    intro quote member consumed
    -- the consumed quote is another one than the quote that settles
    have other : quote.id ≠ payment.quote.id := by
      intro shared
      have same : quote = payment.quote :=
        Table.eq_of_shared_entry member accepted.onRecord (quote_id_entry quote)
          (by rw [shared]; exact quote_id_entry payment.quote)
      rw [same] at consumed
      exact consumed accepted.unconsumed
    refine ⟨quote, (written.quotes quote).mpr ⟨quote, member, if_neg other⟩, ?_⟩
    exact ⟨rfl, rfl, rfl, rfl⟩
  periods := by
    intro row member
    refine ⟨_, (written.subscriptions _).mpr (.inr ⟨row, member, rfl⟩), ?_⟩
    split <;> exact ⟨rfl, rfl, rfl⟩

theorem keeps_step (store : YearlyStore) (event : YearlyEvent) :
    Keeps store (store.step event) := by
  cases event with
  | settle call subscriptionId =>
    rcases settle_cases call subscriptionId store with
      ⟨_, same⟩ | ⟨payment, accepted, current, _, _, written⟩
    · rw [YearlyStore.step, same]
      exact keeps_refl store
    · exact keeps_written accepted written
  | createQuote quote =>
    refine ⟨?_, (keeps_refl store).periods⟩
    intro held member _
    cases inserted : store.quotes.insert quote.row with
    | none =>
      refine ⟨held, ?_, rfl, rfl, rfl, rfl⟩
      simpa [YearlyStore.step, inserted] using member
    | some quotes =>
      refine ⟨held, ?_, rfl, rfl, rfl, rfl⟩
      simpa [YearlyStore.step, inserted] using
        (Table.mem_insert inserted).mpr (.inl member)
  | expireQuotes userId tier now =>
    apply keeps_change_quotes
    exact fun quote => ⟨rfl, rfl, rfl, rfl⟩
  | closeQuote quoteId status now =>
    apply keeps_change_quotes
    intro quote
    cases status <;> exact ⟨rfl, rfl, rfl, rfl⟩
  | closeAttribution quoteId now =>
    apply keeps_change_quotes
    exact fun quote => ⟨rfl, rfl, rfl, rfl⟩
  | moveToGrace now =>
    apply keeps_change_subscriptions
    exact fun row => ⟨rfl, rfl, rfl⟩
  | expireGrace now =>
    apply keeps_change_subscriptions
    exact fun row => ⟨rfl, rfl, rfl⟩
  | sweep subscriptionId status =>
    apply keeps_change_subscriptions
    exact fun row => ⟨rfl, rfl, rfl⟩
  | otherFlow quotes lots =>
    exact ⟨(keeps_refl store).settlements, (keeps_refl store).periods⟩

theorem keeps_after (store : YearlyStore) (history : List YearlyEvent) :
    Keeps store (store.after history) := by
  induction history generalizing store with
  | nil => exact keeps_refl store
  | cons event history ih => exact keeps_trans (keeps_step store event) (ih (store.step event))

structure SettledAs (store : YearlyStore) (quoteId tokenAddress tx : String) (logIndex : Int)
    (subscriptionId : String) (expiresAt : Int) : Prop where
  quote : ∃ quote ∈ store.quotes, quote.id = quoteId ∧ quote.tokenAddress = tokenAddress ∧
    quote.consumedTxHash = some tx ∧ quote.consumedLogIndex = some logIndex
  subscription : ∃ row ∈ store.subscriptions, row.id = subscriptionId ∧
    row.yearlyQuoteId = some quoteId ∧ row.expiresAt = expiresAt

theorem settled_as_keeps {before after : YearlyStore} (keeps : Keeps before after)
    {tokenAddress tx : String} {expiresAt : Int}
    (settled : SettledAs before quoteId tokenAddress tx logIndex subscriptionId expiresAt) :
    SettledAs after quoteId tokenAddress tx logIndex subscriptionId expiresAt := by
  obtain ⟨quote, member, id, token, hash, log⟩ := settled.quote
  obtain ⟨row, rowMember, rowId, paidBy, expiry⟩ := settled.subscription
  obtain ⟨kept, keptMember, sameId, sameToken, sameHash, sameLog⟩ :=
    keeps.settlements quote member (by rw [hash]; exact Option.some_ne_none tx)
  obtain ⟨keptRow, keptRowMember, sameRow, samePaid, sameExpiry⟩ := keeps.periods row rowMember
  constructor
  · exact ⟨kept, keptMember, sameId.trans id, sameToken.trans token, sameHash.trans hash,
      sameLog.trans log⟩
  · exact ⟨keptRow, keptRowMember, sameRow.trans rowId, samePaid.trans paidBy,
      sameExpiry.trans expiry⟩

theorem quote_read (member : quote ∈ store.quotes) : store.quote? quote.id = some quote := by
  refine Table.find_of_entry (.id quote.id) member (by simp) ?_
  intro other named
  rw [beq_iff_eq] at named
  rw [← named]
  exact quote_id_entry other

theorem subscription_of_quote_read {row : YearlyTokenSubscription}
    (member : row ∈ store.subscriptions) (paidBy : row.yearlyQuoteId = some quoteId) :
    store.subscriptionOfQuote quoteId = some row := by
  refine Table.find_of_entry (.yearlyQuote quoteId) member (by simp [paidBy]) ?_
  intro other paid
  exact subscription_quote_entry (by simpa using paid)

structure SettleCall.Replays (replay call : SettleCall) : Prop where
  quote : replay.quoteId = call.quoteId
  hash : replay.tx = call.tx
  log : replay.logIndex = call.logIndex
  token : replay.token = call.token
  amount : ∃ amount, replay.amountRaw = some amount ∧ 0 < amount

theorem replay_answers {store : YearlyStore} {tokenAddress replayId : String}
    {expiresAt : Int} (hexadecimal : isTransactionHash call.tx = true)
    (logged : call.logIndex = some logIndex) (nonnegative : 0 ≤ logIndex)
    (amount : call.amountRaw = some amountRaw) (positive : 0 < amountRaw)
    (token : call.token = lower tokenAddress)
    (settled : SettledAs store call.quoteId tokenAddress call.tx logIndex subscriptionId
      expiresAt) :
    settleYearlyPlatformTokenPayment call replayId store =
      (.alreadySettled (some subscriptionId) (some expiresAt) call.tx, store) := by
  obtain ⟨quote, member, id, sameToken, hash, log⟩ := settled.quote
  obtain ⟨row, rowMember, rowId, paidBy, expiry⟩ := settled.subscription
  have found : store.quote? call.quoteId = some quote := by
    rw [← id]
    exact quote_read member
  have paid : store.subscriptionOfQuote quote.id = some row :=
    subscription_of_quote_read rowMember (by rw [paidBy, id])
  have lowered : lower call.tx = call.tx := lower_lower _
  have answer : consumedAnswer store quote call.tx call.tx logIndex =
      .alreadySettled (some subscriptionId) (some expiresAt) call.tx := by
    rw [consumedAnswer, if_pos ⟨lowered, log⟩, paid, ← rowId, ← expiry]
    rfl
  have refused : checkPayment call store =
      .error (.alreadySettled (some subscriptionId) (some expiresAt) call.tx) := by
    have wellFormed : ¬(isTransactionHash call.tx = false ∨ logIndex < 0) := by
      rw [hexadecimal]
      simpa using nonnegative
    simp only [checkPayment, logged, if_neg wellFormed, amount, if_neg (Int.not_le.mpr positive),
      found, checkQuote, token, sameToken, ne_eq, not_true, if_false, hash, answer]
  rw [settleYearlyPlatformTokenPayment, refused]

/-- A transfer settles at most one quote and one subscription, a quote has at most
one subscription, and a user at most one live one for a tier. -/
structure PaidOnce (store : YearlyStore) : Prop where
  oneQuote : ∀ left ∈ store.quotes, ∀ right ∈ store.quotes, ∀ transfer,
    left.transfer = some transfer → right.transfer = some transfer → left = right
  oneSubscription : ∀ left ∈ store.subscriptions, ∀ right ∈ store.subscriptions, ∀ transfer,
    left.transfer = some transfer → right.transfer = some transfer → left = right
  quoteOnce : ∀ left ∈ store.subscriptions, ∀ right ∈ store.subscriptions, ∀ quoteId,
    left.yearlyQuoteId = some quoteId → right.yearlyQuoteId = some quoteId → left = right
  liveOnce : ∀ left ∈ store.subscriptions, ∀ right ∈ store.subscriptions,
    left.isLive = true → right.isLive = true → left.userId = right.userId →
      left.tier = right.tier → left = right

theorem paid_once (store : YearlyStore) : PaidOnce store where
  oneQuote := by
    intro left leftMember right rightMember transfer leftTransfer rightTransfer
    exact Table.eq_of_shared_entry leftMember rightMember (quote_transfer_entry leftTransfer)
      (quote_transfer_entry rightTransfer)
  oneSubscription := by
    intro left leftMember right rightMember transfer leftTransfer rightTransfer
    exact Table.eq_of_shared_entry leftMember rightMember
      (subscription_transfer_entry leftTransfer) (subscription_transfer_entry rightTransfer)
  quoteOnce := by
    intro left leftMember right rightMember quoteId leftQuote rightQuote
    exact Table.eq_of_shared_entry leftMember rightMember (subscription_quote_entry leftQuote)
      (subscription_quote_entry rightQuote)
  liveOnce := by
    intro left leftMember right rightMember leftLive rightLive sameUser sameTier
    have entry := subscription_live_entry rightLive
    rw [← sameUser, ← sameTier] at entry
    exact Table.eq_of_shared_entry leftMember rightMember (subscription_live_entry leftLive) entry

/-- What a settled call did: the quote is consumed with the transfer, the new row
runs one year from the later of now and the end of the live row, which is now
`renewed`, and no other row changed. -/
structure GrantsOneYear (call : SettleCall) (subscriptionId : String) (before : YearlyStore)
    (answer : SettleResult) (after : YearlyStore) (quote : YearlyTokenQuote) (logIndex : Int)
    (expiresAt : Int) : Prop where
  onRecord : quote ∈ before.quotes
  named : quote.id = call.quoteId
  logged : call.logIndex = some logIndex
  activated : before.liveSubscription quote.userId quote.tier = none →
    answer = .activated subscriptionId expiresAt call.tx ∧ expiresAt = call.now + oneYear
  renewed : ∀ current, before.liveSubscription quote.userId quote.tier = some current →
    answer = .renewed subscriptionId expiresAt current.id call.tx ∧
      expiresAt = max current.expiresAt call.now + oneYear ∧
      ∃ row ∈ after.subscriptions, row.id = current.id ∧ row.status = .renewed ∧
        row.expiresAt = current.expiresAt
  granted : ∃ row ∈ after.subscriptions, row.id = subscriptionId ∧ row.userId = quote.userId ∧
    row.tier = quote.tier ∧ row.status = .active ∧ row.expiresAt = expiresAt ∧
    row.yearlyQuoteId = some quote.id ∧ row.transfer = some (call.tx, logIndex)
  consumed : ∃ row ∈ after.quotes, row.id = quote.id ∧ row.status = .consumed ∧
    row.transfer = some (call.tx, logIndex)
  otherSubscriptions : ∀ row ∈ before.subscriptions,
    before.liveSubscription quote.userId quote.tier ≠ some row → row ∈ after.subscriptions
  otherQuotes : ∀ row ∈ before.quotes, row.id ≠ quote.id → row ∈ after.quotes

theorem grants_one_year (accepted : Accepted call store payment)
    (live : current = store.liveSubscription payment.quote.userId payment.quote.tier)
    (written : Written payment subscriptionId current store next) :
    GrantsOneYear call subscriptionId store (payment.answer subscriptionId current) next
      payment.quote payment.logIndex (payment.expiresAt current) := by
  have transfer : transferOf (some payment.transactionHash) (some payment.logIndex) =
      some (call.tx, payment.logIndex) := by
    rw [transferOf, accepted.hash]
    simp only [SettleCall.tx, lower_lower]
  constructor
  case onRecord => exact accepted.onRecord
  case named => exact accepted.named
  case logged => exact accepted.logged
  case activated =>
    intro none_live
    rw [none_live] at live
    rw [live, ← accepted.hash, ← accepted.at_now]
    exact ⟨rfl, rfl⟩
  case renewed =>
    intro held is_live
    rw [is_live] at live
    rw [live, ← accepted.hash, ← accepted.at_now]
    refine ⟨rfl, rfl, payment.supersede subscriptionId held, ?_, rfl, rfl, rfl⟩
    rw [written.subscriptions, live]
    exact .inr ⟨held, (live_found is_live).1, if_pos rfl⟩
  case granted =>
    refine ⟨payment.subscription subscriptionId current, ?_, rfl, rfl, rfl, rfl, rfl, rfl, transfer⟩
    rw [written.subscriptions]
    exact .inl rfl
  case consumed =>
    refine ⟨payment.consume payment.quote, ?_, rfl, rfl, transfer⟩
    rw [written.quotes]
    exact ⟨payment.quote, accepted.onRecord, if_pos rfl⟩
  case otherSubscriptions =>
    intro row member not_live
    rw [written.subscriptions]
    refine .inr ⟨row, member, if_neg ?_⟩
    rw [← live] at not_live
    cases current with
    | none => simp
    | some held =>
      intro shared
      rw [Option.map_some, Option.some.injEq] at shared
      have entry := subscription_id_entry held
      rw [shared] at entry
      have same : held = row := Table.eq_of_shared_entry (live_found live.symm).1 member entry
        (subscription_id_entry row)
      exact not_live (congrArg some same)
  case otherQuotes =>
    intro row member other
    rw [written.quotes]
    exact ⟨row, member, if_neg other⟩

theorem settled_as_granted (accepted : Accepted call store payment)
    (written : Written payment subscriptionId current store next) :
    SettledAs next call.quoteId payment.quote.tokenAddress call.tx payment.logIndex
      subscriptionId (payment.expiresAt current) where
  quote := by
    refine ⟨payment.consume payment.quote, ?_, accepted.named, rfl, ?_, rfl⟩
    · rw [written.quotes]
      exact ⟨payment.quote, accepted.onRecord, if_pos rfl⟩
    · exact congrArg some accepted.hash
  subscription := by
    refine ⟨payment.subscription subscriptionId current, ?_, rfl, ?_, rfl⟩
    · rw [written.subscriptions]
      exact .inl rfl
    · exact congrArg some accepted.named

/-- In every state a history leads to, from any state of the tables, payments
are on record once; a call that does not settle changes nothing; and a call that
settles grants one year, and however the history goes on is answered
`already_settled` with its subscription when it is replayed. -/
theorem one_payment_buys_one_year (start : YearlyStore) (history : List YearlyEvent) :
    PaidOnce (start.after history) ∧
      ∀ (call : SettleCall) (subscriptionId : String) (answer : SettleResult)
        (next : YearlyStore),
        settleYearlyPlatformTokenPayment call subscriptionId (start.after history) =
            (answer, next) →
          (answer.isSettled = false → next = start.after history) ∧
          (answer.isSettled = true → ∃ quote logIndex expiresAt,
            GrantsOneYear call subscriptionId (start.after history) answer next quote logIndex
                expiresAt ∧
              ∀ (later : List YearlyEvent) (replay : SettleCall) (replayId : String),
                replay.Replays call →
                  settleYearlyPlatformTokenPayment replay replayId (next.after later) =
                    (.alreadySettled (some subscriptionId) (some expiresAt) call.tx,
                      next.after later)) := by
  refine ⟨paid_once _, ?_⟩
  intro call subscriptionId answer next called
  rcases settle_cases call subscriptionId (start.after history) with
    ⟨unsettled, same⟩ | ⟨payment, accepted, current, live, answered, written⟩
  · rw [called] at unsettled same
    refine ⟨fun _ => same, ?_⟩
    intro settled
    rw [unsettled] at settled
    cases settled
  · rw [called] at answered written
    dsimp only at answered written
    subst answered
    constructor
    · intro unsettled
      cases current <;> cases unsettled
    · intro _
      refine ⟨payment.quote, payment.logIndex, payment.expiresAt current,
        grants_one_year accepted live written, ?_⟩
      intro later replay replayId replays
      obtain ⟨amountRaw, amount, positive⟩ := replays.amount
      have settled := settled_as_keeps (keeps_after next later)
        (settled_as_granted accepted written)
      rw [← replays.quote, ← replays.hash] at settled
      rw [← replays.hash]
      apply replay_answers _ (replays.log.trans accepted.logged) accepted.nonnegative amount
        positive (replays.token.trans accepted.token) settled
      rw [replays.hash]
      exact accepted.hexadecimal

def proQuote : NewQuote :=
  { id := "quote"
    userId := "user"
    tier := .pro
    tokenKey := .hivra
    tokenAddress := "0x95ccfd2b81a9667b0cc979992632f98fc853eba3"
    usdTargetCents := 4900
    priceUsdAtQuote := "0.01"
    tokensRequiredRaw := 4900
    depositAddress := "0x00000000000000000000000000000000000000aa"
    quotedAt := 0
    expiresAt := 1200000000 }

def proPayment : SettleCall :=
  { quoteId := "quote"
    transactionHash := some "0x00000000000000000000000000000000000000000000000000000000000000Ab"
    logIndex := some 3
    amountRaw := some 5000
    blockTimestamp := some 600000000
    tokenAddress := some "0x95CCFD2B81A9667B0CC979992632F98FC853EBA3"
    now := 700000000 }

def proSettlement : SettleResult × YearlyStore :=
  settleYearlyPlatformTokenPayment proPayment "subscription"
    (YearlyStore.empty.after [.createQuote proQuote])

/-- A year is paid, expires and leaves the grace window; the payment delivered
again still answers with the subscription it bought. -/
theorem replayed_payment_answers_its_subscription :
    proSettlement.1 = .activated "subscription" 31536700000000 proPayment.tx ∧
      settleYearlyPlatformTokenPayment proPayment "other"
          (proSettlement.2.after [.moveToGrace 31537000000000, .expireGrace 32400000000000]) =
        (.alreadySettled (some "subscription") (some 31536700000000) proPayment.tx,
          proSettlement.2.after [.moveToGrace 31537000000000, .expireGrace 32400000000000]) := by
  have answered : proSettlement.1 =
      .activated "subscription" 31536700000000 proPayment.tx := by decide +kernel
  have no_subscriptions :
      (YearlyStore.empty.after [.createQuote proQuote]).subscriptions = .empty := by decide +kernel
  obtain ⟨_, calls⟩ := one_payment_buys_one_year .empty [.createQuote proQuote]
  have settled : proSettlement.1.isSettled = true := by
    rw [answered]
    rfl
  obtain ⟨quote, logIndex, expiresAt, grants, replays⟩ :=
    (calls proPayment "subscription" proSettlement.1 proSettlement.2
      (Prod.eta proSettlement).symm).2 settled
  have idle : (YearlyStore.empty.after [.createQuote proQuote]).liveSubscription
      quote.userId quote.tier = none := by
    rw [YearlyStore.liveSubscription, no_subscriptions]
    rfl
  have granted := (grants.activated idle).1
  rw [answered] at granted
  have period : expiresAt = 31536700000000 := (SettleResult.activated.inj granted).2.1.symm
  rw [period] at replays
  refine ⟨answered, replays _ proPayment "other" ?_⟩
  exact ⟨rfl, rfl, rfl, rfl, 5000, rfl, by decide⟩

end Hivra.Yearly
