import Mathlib.Data.Rat.Defs
import Hivra.Library.Scripts
import Hivra.Library.Tables
import Hivra.Library.Texts

/-!
# Credit accounts, the credit ledger and credit reservations

The three tables, the trigger that guards a new reservation, and every statement the
billing code sends them.  A statement that the database refuses changes nothing: it
answers an error in place of the next store.

The recompute of a cached balance is one statement of the database in two steps: it sums
the entries that are committed when it begins, and writes once it has the row of the
account.  Columns no modelled function reads (metadata, expiry and update times) are left
out.
-/

namespace Hivra.Credits

open Hivra.Library

/-- A row of `credit_accounts`.  The column is `not null`; its readers allow for a null
all the same. -/
structure CreditAccount where
  id : String
  userId : String
  balanceCachedCredits : Option Int

inductive AccountKey
  | id (id : String)
  | user (userId : String)
  deriving DecidableEq

def CreditAccount.entries (account : CreditAccount) : List AccountKey :=
  [.id account.id, .user account.userId]

inductive CreditLedgerSource
  | stripe
  | bankr
  | manual
  | system
  | apple
  deriving DecidableEq

inductive CreditLedgerReason
  | stripeTopup
  | subscriptionGrant
  | adminAdjustment
  | refund
  | bonusCredit
  | computeDebit
  | llmDebit
  | cryptoTopup
  | marketplacePurchase
  | marketplaceEarn
  | transfer
  deriving DecidableEq

/-- A row of `credit_ledger_entries`. -/
structure LedgerEntry where
  accountId : String
  userId : String
  amountCredits : Int
  source : CreditLedgerSource
  actor : String
  reason : CreditLedgerReason
  referenceId : String

/-- `unique (source, reference_id, reason)`. -/
def LedgerEntry.entries (entry : LedgerEntry) :
    List (CreditLedgerSource × String × CreditLedgerReason) :=
  [(entry.source, entry.referenceId, entry.reason)]

inductive ReservationStatus
  | active
  | released
  | captured
  | expired
  deriving DecidableEq

/-- A row of `credit_reservations`. -/
structure CreditReservation where
  id : String
  userId : String
  accountId : String
  amountCredits : Int
  status : ReservationStatus
  reason : String
  referenceId : String

inductive ReservationKey
  | id (id : String)
  | reference (userId reason referenceId : String)
  deriving DecidableEq

/-- The primary key, and `credit_reservations_user_reason_reference_key`. -/
def CreditReservation.entries (row : CreditReservation) : List ReservationKey :=
  [.id row.id, .reference row.userId row.reason row.referenceId]

/-- `btrim(text) <> ''`. -/
def hasText (text : String) : Bool :=
  btrim text != ""

def CreditReservation.checks (row : CreditReservation) : Bool :=
  hasText row.userId && decide (0 < row.amountCredits) && hasText row.reason &&
    hasText row.referenceId

structure CreditStore where
  accounts : Table CreditAccount.entries
  ledger : Table LedgerEntry.entries
  reservations : Table CreditReservation.entries
  checked : ∀ row ∈ reservations, row.checks = true

namespace CreditStore

def ledgerBalance (store : CreditStore) (userId : String) : Int :=
  store.ledger.sumWhere (fun entry => entry.userId == userId) (·.amountCredits)

def reservedBalance (store : CreditStore) (userId : String) : Int :=
  store.reservations.sumWhere (fun row => row.userId == userId && row.status == .active)
    (·.amountCredits)

end CreditStore

structure QueryError where
  code : String
  message : String

def uniqueViolation (index : String) : QueryError :=
  { code := "23505"
    message := "duplicate key value violates unique constraint " ++ index }

def checkViolation (table : String) : QueryError :=
  { code := "23514"
    message := "new row for relation " ++ table ++ " violates a check constraint" }

def foreignKeyViolation (table : String) : QueryError :=
  { code := "23503"
    message := "insert or update on table " ++ table ++ " violates a foreign key constraint" }

def outOfRange : QueryError :=
  { code := "22003", message := "integer out of range" }

def insufficientBalance (available requested : Int) : QueryError :=
  { code := "P0001"
    message := "credit_reservation_insufficient_balance: available=" ++ toString available ++
      " requested=" ++ toString requested }

def unreachable : QueryError :=
  { code := "", message := "fetch failed" }

inductive CreditCall
  | readAccount (userId : String)
  | upsertAccount (userId : String)
  | insertEntry (entry : LedgerEntry)
  | sumEntries (accountId : String)
  | writeSum (accountId : String) (sum : Int)
  | selectAmounts (userId : String)
  | updateCachedBalance (accountId : String) (balance : Int)
  | upsertReservation (row : CreditReservation)
  | releaseReservation (userId reason referenceId : String)

def CreditCall.Answer : CreditCall → Type
  | .readAccount _ => Option CreditAccount
  | .upsertAccount _ => CreditAccount
  | .insertEntry _ => Unit
  | .sumEntries _ => Int
  | .writeSum _ _ => Option Int
  | .selectAmounts _ => List Int
  | .updateCachedBalance _ _ => Unit
  | .upsertReservation _ => CreditReservation
  | .releaseReservation _ _ _ => Unit

abbrev CreditCall.Reply (call : CreditCall) : Type := Except QueryError call.Answer

/-- The range of an `integer` column. -/
def fitsInteger (value : Int) : Bool :=
  decide (-2147483648 ≤ value) && decide (value ≤ 2147483647)

def CreditStore.hasAccount (store : CreditStore) (accountId : String) : Bool :=
  (store.accounts.find? fun account => account.id == accountId).isSome

def CreditStore.upsertAccount (store : CreditStore) (newId userId : String) :
    Except QueryError (CreditStore × CreditAccount) :=
  if !hasText userId then .error (checkViolation "credit_accounts")
  else
    match store.accounts.find? fun account => account.userId == userId with
    | some account => .ok (store, account)
    | none =>
      let account : CreditAccount := { id := newId, userId, balanceCachedCredits := some 0 }
      match store.accounts.insert account with
      | none => .error (uniqueViolation "credit_accounts_pkey")
      | some accounts => .ok ({ store with accounts }, account)

def LedgerEntry.checks (entry : LedgerEntry) : Bool :=
  hasText entry.userId && entry.amountCredits != 0 && hasText entry.actor &&
    hasText entry.referenceId

def CreditStore.insertEntry (store : CreditStore) (entry : LedgerEntry) :
    Except QueryError CreditStore :=
  if !fitsInteger entry.amountCredits then .error outOfRange
  else if !entry.checks then .error (checkViolation "credit_ledger_entries")
  else
    match store.ledger.insert entry with
    | none => .error (uniqueViolation "credit_ledger_entries_source_reference_id_reason_key")
    | some ledger =>
      if store.hasAccount entry.accountId then .ok { store with ledger }
      else .error (foreignKeyViolation "credit_ledger_entries")

/-- The subquery of `refresh_credit_account_cached_balance`. -/
def CreditStore.accountSum (store : CreditStore) (accountId : String) : Int :=
  store.ledger.sumWhere (fun entry => entry.accountId == accountId) (·.amountCredits)

/-- `set balance_cached_credits = balance where id = accountId`. -/
def CreditStore.setCachedBalance (store : CreditStore) (accountId : String) (balance : Int) :
    CreditStore :=
  { store with
    accounts := store.accounts.rewrite (fun account => account.id == accountId)
      (fun account => { account with balanceCachedCredits := some balance }) fun _ => rfl }

/-- `max_rows`: the most rows the interface of the database answers. -/
def maxRows : Nat := 1000

def CreditStore.userEntries (store : CreditStore) (userId : String) : List LedgerEntry :=
  store.ledger.selectWhere fun entry => entry.userId == userId

/-- A row that stands for the same `(user_id, reason, reference_id)`. -/
def CreditReservation.sameReference (row held : CreditReservation) : Bool :=
  held.userId == row.userId && held.reason == row.reason && held.referenceId == row.referenceId

/-- The trigger `enforce_credit_reservation_balance`; an error is what it raises. -/
def CreditStore.enforceCreditReservationBalance (store : CreditStore) (row : CreditReservation) :
    Except QueryError Unit :=
  if row.status != .active then .ok ()
  else if (store.reservations.find? row.sameReference).isSome then .ok ()
  else
    let available := store.ledgerBalance row.userId - store.reservedBalance row.userId
    if available < row.amountCredits then
      .error (insufficientBalance available row.amountCredits)
    else .ok ()

def CreditReservation.overwrite (row held : CreditReservation) : CreditReservation :=
  { held with
    accountId := row.accountId
    amountCredits := row.amountCredits
    status := row.status }

theorem CreditReservation.overwrite_entries (row held : CreditReservation) :
    (row.overwrite held).entries = held.entries := rfl

theorem overwrite_checks {row held : CreditReservation} (new : row.checks = true)
    (old : held.checks = true) : (row.overwrite held).checks = true := by
  simp only [CreditReservation.checks, Bool.and_eq_true] at new old ⊢
  exact ⟨⟨⟨old.1.1.1, new.1.1.2⟩, old.1.2⟩, old.2⟩

/-- `update ... where` of columns no unique index covers. -/
def CreditStore.rewriteReservations (store : CreditStore) (selected : CreditReservation → Bool)
    (change : CreditReservation → CreditReservation)
    (keeps : ∀ row, (change row).entries = row.entries)
    (checks : ∀ row, row.checks = true → (change row).checks = true) : CreditStore :=
  { store with
    reservations := store.reservations.rewrite selected change keeps
    checked := by
      intro row member
      have ⟨old, there, isRow⟩ := Table.mem_rewrite.mp member
      rw [← isRow]
      split_ifs
      · exact checks old (store.checked old there)
      · exact store.checked old there }

def CreditStore.insertReservation (store : CreditStore) (row : CreditReservation)
    (checks : row.checks = true) : Option CreditStore :=
  if inserts : (store.reservations.insert row).isSome = true then
    some { store with
      reservations := (store.reservations.insert row).get inserts
      checked := by
        intro other member
        have inserted := (Option.some_get inserts).symm
        rcases (Table.mem_insert inserted).mp member with old | new
        · exact store.checked other old
        · rw [new]
          exact checks }
  else none

/-- `upsert` with `onConflict: "user_id,reason,reference_id"`; the trigger runs before the
conflict is looked for. -/
def CreditStore.upsertReservation (store : CreditStore) (row : CreditReservation) :
    Except QueryError (CreditStore × CreditReservation) :=
  if !fitsInteger row.amountCredits then .error outOfRange
  else
    match store.enforceCreditReservationBalance row with
    | .error error => .error error
    | .ok _ =>
      if checks : row.checks = true then
        if !store.hasAccount row.accountId then
          .error (foreignKeyViolation "credit_reservations")
        else
          match store.reservations.find? row.sameReference with
          | some held =>
            .ok (store.rewriteReservations row.sameReference row.overwrite
              row.overwrite_entries (fun _ => overwrite_checks checks), row.overwrite held)
          | none =>
            match store.insertReservation row checks with
            | none => .error (uniqueViolation "credit_reservations_pkey")
            | some next => .ok (next, row)
      else .error (checkViolation "credit_reservations")

def CreditReservation.release (row : CreditReservation) : CreditReservation :=
  { row with status := .released }

theorem release_entries (row : CreditReservation) : row.release.entries = row.entries := rfl

theorem release_checks (row : CreditReservation) (checks : row.checks = true) :
    row.release.checks = true := checks

def CreditStore.releaseReservation (store : CreditStore) (userId reason referenceId : String) :
    CreditStore :=
  store.rewriteReservations
    (fun row => row.userId == userId && row.reason == reason &&
      row.referenceId == referenceId && row.status == .active)
    CreditReservation.release release_entries release_checks

structure CreditTurn where
  /-- The statement does not reach the database. -/
  fails : Bool
  /-- The statement is done, and its answer is lost. -/
  lost : Bool
  /-- The id a new row gets. -/
  newId : String

def CreditCall.execute (newId : String) (store : CreditStore) :
    (call : CreditCall) → Except QueryError (CreditStore × call.Answer)
  | .readAccount userId =>
    .ok (store, store.accounts.find? fun account => account.userId == userId)
  | .upsertAccount userId => store.upsertAccount newId userId
  | .insertEntry entry => (store.insertEntry entry).map (·, ())
  | .sumEntries accountId => .ok (store, store.accountSum accountId)
  | .writeSum accountId sum =>
    if fitsInteger sum then
      .ok (store.setCachedBalance accountId sum,
        if store.hasAccount accountId then some sum else none)
    else .error outOfRange
  | .selectAmounts userId =>
    .ok (store, ((store.userEntries userId).take maxRows).map (·.amountCredits))
  | .updateCachedBalance accountId balance =>
    if fitsInteger balance then .ok (store.setCachedBalance accountId balance, ())
    else .error outOfRange
  | .upsertReservation row => store.upsertReservation { row with id := newId }
  | .releaseReservation userId reason referenceId =>
    .ok (store.releaseReservation userId reason referenceId, ())

def performCredit (call : CreditCall) (turn : CreditTurn) (store : CreditStore) :
    CreditStore × call.Reply :=
  if turn.fails then (store, .error unreachable)
  else
    match call.execute turn.newId store with
    | .error error => (store, .error error)
    | .ok answer => (answer.1, if turn.lost then .error unreachable else .ok answer.2)

theorem perform_credit_store (call : CreditCall) (turn : CreditTurn) (store : CreditStore) :
    (performCredit call turn store).1 = store ∨
      turn.fails = false ∧ ∃ answer, call.execute turn.newId store = .ok answer ∧
        (performCredit call turn store).1 = answer.1 := by
  cases fails : turn.fails with
  | true => simp [performCredit, fails]
  | false =>
    cases executed : call.execute turn.newId store with
    | error error => simp [performCredit, fails, executed]
    | ok answer => simp [performCredit, fails, executed]

end Hivra.Credits
