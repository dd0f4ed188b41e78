import Hivra.ManagedVenice.WalletBacking
import Hivra.ManagedVenice.ReservationSweep

/-!
# What settlement runs promise each other

Any number of settlements, releases and sweeps run at once over one database.
This module fixes one hold, says what holds of its ledger between any two
statements, and what one statement of one run may change.  Every script of the
settlement code is then checked alone against that promise.
-/

namespace Hivra.ManagedVenice

open Hivra.Library

/-- What a client of the settlement database can be asked to do. -/
inductive SettlementJob
  | chatUsage (request : ChatUsage)
  | settleStream (request : ChatUsage) (captureFailed : String) (observedOutputTokens : Nat)
  | settleUsage (request : ChatUsage) (cause : String) (observedOutputTokens : Option Nat)
  | observedOutput (request : ObservedOutput)
  | holdCost (hold : Reservation) (proxyKeyId : Option String) (costMicroUsd : Nat)
      (cause : String)
  | release (userId referenceId : String)
  | releaseOrFile (request : Release)
  | sweep (times : Sweep)

def SettlementJob.script : SettlementJob → Settlement Unit
  | .chatUsage request => do
    let _ ← captureManagedVeniceChatUsage request
    pure ()
  | .settleStream request captureFailed observedOutputTokens => do
    let _ ← Hivra.ManagedVenice.settleStream request captureFailed observedOutputTokens
    pure ()
  | .settleUsage request cause observedOutputTokens => do
    let _ ← settleManagedVeniceChatUsage request cause observedOutputTokens
    pure ()
  | .observedOutput request => do
    let _ ← captureManagedVeniceObservedOutput request
    pure ()
  | .holdCost hold proxyKeyId costMicroUsd cause => do
    let _ ← captureManagedVeniceHoldCost hold proxyKeyId costMicroUsd cause
    pure ()
  | .release userId referenceId => do
    let _ ← releaseManagedVeniceReservation userId referenceId
    pure ()
  | .releaseOrFile request => do
    let _ ← releaseManagedVeniceChatReservationOrFile request
    pure ()
  | .sweep times => do
    let _ ← sweepStaleManagedVeniceReservations times
    pure ()

/-- What happens to the wallets beside the settlements. -/
inductive WalletChange
  | createHold (hold : Reservation)
  | creditCard (credit : CardCredit)
  | depositLot (lot : TokenLot)

def WalletChange.apply (change : WalletChange) (store : SettlementStore) : SettlementStore :=
  { store with
    wallets := store.wallets.after
      (match change with
        | .createHold hold => .insertReservation hold
        | .creditCard credit => .creditCard credit
        | .depositLot lot => .depositLot lot) }

def settlementSystem :
    System SettlementJob Statement Statement.Reply SettlementError Unit SettlementStore Turn
      WalletChange where
  program := SettlementJob.script
  perform := performStatement
  change := WalletChange.apply

def SettlementStore.debitsUnder (store : SettlementStore) (referenceId : String) : List Debit :=
  store.wallets.debits.filter fun debit => debit.referenceId == referenceId

def SettlementStore.closingsOf (store : SettlementStore) (referenceId : String) : List Closing :=
  store.closings.filter fun closing => closing.referenceId == referenceId

def Closing.overageMicroUsd (closing : Closing) : Nat :=
  closing.costMicroUsd - closing.capturedMicroUsd

/-- The reference of `row` is not the overage reference of `hold`, nor the other way
round. -/
def Plain (hold row : Reservation) : Prop :=
  row.referenceId ≠ overageReference hold.referenceId ∧
    overageReference row.referenceId ≠ hold.referenceId

structure LedgerInvariant (hold : Reservation) (store : SettlementStore) : Prop where
  present : ∃ row, row ∈ store.wallets.reservations ∧ row.referenceId = hold.referenceId
  reserved : ∀ row, row ∈ store.wallets.reservations → row.referenceId = hold.referenceId →
    row.reservedMicroUsd = hold.reservedMicroUsd
  plain : ∀ row, row ∈ store.wallets.reservations → Plain hold row
  closedOnce : (store.closingsOf hold.referenceId).length ≤ 1
  closed : ∀ closing ∈ store.closingsOf hold.referenceId,
    (∀ row, row ∈ store.wallets.reservations → row.referenceId = hold.referenceId →
      row.status = .captured) ∧
      closing.capturedMicroUsd ≤ hold.reservedMicroUsd ∧
      closing.capturedMicroUsd ≤ closing.costMicroUsd
  debited : store.debitsUnder hold.referenceId = [] ∨
    ∃ closing ∈ store.closingsOf hold.referenceId, ∃ debit : Debit,
      store.debitsUnder hold.referenceId = [debit] ∧ debit.caller = closing.caller ∧
        debit.amountMicroUsd = closing.capturedMicroUsd
  overage : store.debitsUnder (overageReference hold.referenceId) = [] ∨
    ∃ closing ∈ store.closingsOf hold.referenceId, ∃ debit : Debit,
      store.debitsUnder (overageReference hold.referenceId) = [debit] ∧
        debit.caller = closing.caller ∧ debit.amountMicroUsd = closing.overageMicroUsd

def ReconciliationItem.core (item : ReconciliationItem) : ReconciliationItem :=
  { item with status := .open, metadata := { item.metadata with sweep := none } }

/-- What one statement of `who` may change. -/
structure StepAllowed (hold : Reservation) (who : Option Nat) (before after : SettlementStore) :
    Prop where
  closingsKept : ∀ closing ∈ before.closings, closing ∈ after.closings
  closingsOwn : ∀ closing ∈ after.closings, closing ∈ before.closings ∨ who = some closing.caller
  debitsKept : ∀ debit ∈ before.wallets.debits, debit ∈ after.wallets.debits
  overageOwn :
    after.debitsUnder (overageReference hold.referenceId) =
        before.debitsUnder (overageReference hold.referenceId) ∨
      ∃ closing ∈ before.closingsOf hold.referenceId, who = some closing.caller
  accountsKept : ∀ account, account ∈ before.wallets.accounts → account ∈ after.wallets.accounts
  itemsKept : ∀ item, item ∈ before.reconciliationItems →
    ∃ later, later ∈ after.reconciliationItems ∧ later.core = item.core

theorem step_allowed_refl (hold : Reservation) (who : Option Nat) (store : SettlementStore) :
    StepAllowed hold who store store where
  closingsKept := fun _ member => member
  closingsOwn := fun _ member => .inl member
  debitsKept := fun _ member => member
  overageOwn := .inl rfl
  accountsKept := fun _ member => member
  itemsKept := fun item member => ⟨item, member, rfl⟩

/-- A hold that is created does not have the overage reference of `hold`, nor `hold` its
overage reference. -/
def WalletChange.KeepsPlain (hold : Reservation) : WalletChange → Prop
  | .createHold row => Plain hold row
  | _ => True

def settlementContract (hold : Reservation)
    (performs : Nat → Statement → Turn → SettlementStore → Prop) : Contract settlementSystem where
  starts := fun _ _ => True
  performs := performs
  changes := fun change _ => change.KeepsPlain hold
  invariant := LedgerInvariant hold
  guarantee := StepAllowed hold
  fresh := fun number store => ∀ closing ∈ store.closings, closing.caller ≠ number

variable {store : SettlementStore}

variable {closing : Closing} {referenceId : String} {who : Option Nat} {caller : Nat} {turn : Turn}
  {next : SettlementStore}

section OneHold

variable {hold : Reservation}
variable {performs : Nat → Statement → Turn → SettlementStore → Prop}
variable {number : Nat}

variable {store : SettlementStore}

theorem mem_closings_of : closing ∈ store.closingsOf referenceId ↔
      closing ∈ store.closings ∧ closing.referenceId = referenceId := by
  simp [SettlementStore.closingsOf]

theorem mem_debits_under {debit : Debit} : debit ∈ store.debitsUnder referenceId ↔
      debit ∈ store.wallets.debits ∧ debit.referenceId = referenceId := by
  simp [SettlementStore.debitsUnder]

theorem overage_reference_ne (referenceId : String) :
    overageReference referenceId ≠ referenceId := by
  intro same
  have lengths := congrArg String.length same
  simp only [overageReference, String.length_append] at lengths
  have suffix : ":overage".length = 8 := rfl
  omega

theorem overage_reference_injective {left right : String}
    (same : overageReference left = overageReference right) : left = right := by
  have lists := congrArg String.toList same
  simp only [overageReference, String.toList_append] at lists
  exact String.toList_injective (List.append_cancel_right lists)

theorem closed_once (invariant : LedgerInvariant hold store) {left right : Closing}
    (leftMem : left ∈ store.closingsOf hold.referenceId)
    (rightMem : right ∈ store.closingsOf hold.referenceId) : left = right := by
  have once := invariant.closedOnce
  cases closings : store.closingsOf hold.referenceId with
  | nil => simp [closings] at leftMem
  | cons closing rest =>
    rw [closings] at once leftMem rightMem
    have last : rest = [] := by
      apply List.eq_nil_of_length_eq_zero
      simpa using once
    subst last
    rw [List.mem_singleton] at leftMem rightMem
    rw [leftMem, rightMem]

structure Untouched (hold : Reservation) (who : Option Nat) (before after : SettlementStore) :
    Prop extends StepAllowed hold who before after where
  debits : after.debitsUnder hold.referenceId = before.debitsUnder hold.referenceId
  overage : after.debitsUnder (overageReference hold.referenceId) =
    before.debitsUnder (overageReference hold.referenceId)
  closings : after.closingsOf hold.referenceId = before.closingsOf hold.referenceId

theorem untouched_refl (who : Option Nat) (store : SettlementStore) :
    Untouched hold who store store :=
  { step_allowed_refl hold who store with
    debits := rfl
    overage := rfl
    closings := rfl }

variable {before after : SettlementStore}

theorem untouched_of_same (debits : after.wallets.debits = before.wallets.debits)
    (closings : after.closings = before.closings)
    (accounts : ∀ account, account ∈ before.wallets.accounts → account ∈ after.wallets.accounts)
    (items : ∀ item, item ∈ before.reconciliationItems →
      ∃ later, later ∈ after.reconciliationItems ∧ later.core = item.core) :
    Untouched hold who before after where
  closingsKept := by
    rw [closings]
    exact fun _ member => member
  closingsOwn := by
    rw [closings]
    exact fun _ member => .inl member
  debitsKept := by
    rw [debits]
    exact fun _ member => member
  overageOwn := .inl (by rw [SettlementStore.debitsUnder, debits, SettlementStore.debitsUnder])
  accountsKept := accounts
  itemsKept := items
  debits := by rw [SettlementStore.debitsUnder, debits, SettlementStore.debitsUnder]
  overage := by rw [SettlementStore.debitsUnder, debits, SettlementStore.debitsUnder]
  closings := by rw [SettlementStore.closingsOf, closings, SettlementStore.closingsOf]

theorem untouched_invariant
    (untouched : Untouched hold who before after) (invariant : LedgerInvariant hold before)
    (holdsKept : ∀ row, row ∈ before.wallets.reservations →
      ∃ later, later ∈ after.wallets.reservations ∧ later.referenceId = row.referenceId)
    (holds : ∀ row, row ∈ after.wallets.reservations → Plain hold row ∧
      (row.referenceId = hold.referenceId →
        row.reservedMicroUsd = hold.reservedMicroUsd ∧
          ((∀ old, old ∈ before.wallets.reservations → old.referenceId = hold.referenceId →
            old.status = .captured) → row.status = .captured))) :
    LedgerInvariant hold after where
  present := by
    rcases invariant.present with ⟨row, member, reference⟩
    rcases holdsKept row member with ⟨later, laterMem, same⟩
    exact ⟨later, laterMem, same.trans reference⟩
  reserved := fun row member reference => ((holds row member).2 reference).1
  plain := fun row member => (holds row member).1
  closedOnce := by
    rw [untouched.closings]
    exact invariant.closedOnce
  closed := by
    intro closing member
    rw [untouched.closings] at member
    rcases invariant.closed closing member with ⟨captured, amounts⟩
    constructor
    · intro row rowMem reference
      exact ((holds row rowMem).2 reference).2 captured
    · exact amounts
  debited := by
    rw [untouched.debits, untouched.closings]
    exact invariant.debited
  overage := by
    rw [untouched.overage, untouched.closings]
    exact invariant.overage

theorem same_holds_invariant (untouched : Untouched hold who before after)
    (sameHolds : after.wallets.reservations = before.wallets.reservations)
    (invariant : LedgerInvariant hold before) : LedgerInvariant hold after := by
  apply untouched_invariant untouched invariant
  · rw [sameHolds]
    exact fun row member => ⟨row, member, rfl⟩
  · intro row member
    rw [sameHolds] at member
    constructor
    · exact invariant.plain row member
    · intro reference
      exact ⟨invariant.reserved row member reference,
        fun captured => captured row member reference⟩

/-- Statements that write neither the wallets' holds nor their debits, and no item that
is there already. -/
def Statement.isQuiet : Statement → Bool
  | .insertReservation .. => false
  | .captureReservation .. => false
  | .debitWallet .. => false
  | .releaseReservation .. => false
  | .closeItem .. => false
  | _ => true

theorem execute_quiet {statement : Statement} {answer : statement.Answer}
    (quiet : statement.isQuiet = true)
    (ok : statement.execute caller turn store = .ok (next, answer)) :
    Untouched hold who store next ∧
      next.wallets.reservations = store.wallets.reservations := by
  cases statement with
  | insertReservation => cases quiet
  | captureReservation => cases quiet
  | debitWallet => cases quiet
  | releaseReservation => cases quiet
  | closeItem => cases quiet
  | upsertWalletAccount purpose userId =>
    simp only [Statement.execute] at ok
    split_ifs at ok
    · cases ok
      exact ⟨untouched_refl _ _, rfl⟩
    · cases inserted : store.wallets.accounts.insert { id := turn.newId, userId } with
      | none => simp [inserted] at ok
      | some accounts =>
        simp only [inserted] at ok
        cases ok
        constructor
        · apply untouched_of_same
          · rfl
          · rfl
          · intro account member
            exact (Table.mem_insert inserted).mpr (.inl member)
          · exact fun item member => ⟨item, member, rfl⟩
        · rfl
  | insertUsageEvent event =>
    simp only [Statement.execute] at ok
    split at ok
    · cases ok
    · cases ok
      exact ⟨untouched_of_same rfl rfl (fun _ member => member)
        (fun item member => ⟨item, member, rfl⟩), rfl⟩
  | insertFinancialEvent event =>
    simp only [Statement.execute] at ok
    split at ok
    · cases ok
    · cases ok
      exact ⟨untouched_of_same rfl rfl (fun _ member => member)
        (fun item member => ⟨item, member, rfl⟩), rfl⟩
  | insertReconciliationItem item =>
    simp only [Statement.execute] at ok
    split at ok
    · cases ok
    · rename_i items inserted
      cases ok
      constructor
      · apply untouched_of_same
        · rfl
        · rfl
        · exact fun _ member => member
        · intro other member
          exact ⟨other, (Table.mem_insert inserted).mpr (.inl member), rfl⟩
      · rfl
  | pauseProxyKey =>
    cases ok
    exact ⟨untouched_of_same rfl rfl (fun _ member => member)
      (fun item member => ⟨item, member, rfl⟩), rfl⟩
  | loadReservation => cases ok; exact ⟨untouched_refl _ _, rfl⟩
  | loadWalletAccount => cases ok; exact ⟨untouched_refl _ _, rfl⟩
  | selectActiveLots => cases ok; exact ⟨untouched_refl _ _, rfl⟩
  | selectCardEntries => cases ok; exact ⟨untouched_refl _ _, rfl⟩
  | selectActiveReservations => cases ok; exact ⟨untouched_refl _ _, rfl⟩
  | loadFinancialEvent => cases ok; exact ⟨untouched_refl _ _, rfl⟩
  | loadOpenItems => cases ok; exact ⟨untouched_refl _ _, rfl⟩
  | hasOpenItem => cases ok; exact ⟨untouched_refl _ _, rfl⟩
  | loadExpiredHolds => cases ok; exact ⟨untouched_refl _ _, rfl⟩
  | selectMonthlyCharges => cases ok; exact ⟨untouched_refl _ _, rfl⟩

theorem execute_release {id : String} {releasedMicroUsd : Nat} {changed : Bool}
    (ok : (Statement.releaseReservation id releasedMicroUsd).execute caller turn store =
      .ok (next, changed)) (invariant : LedgerInvariant hold store) :
    Untouched hold who store next ∧ LedgerInvariant hold next := by
  simp only [Statement.execute] at ok
  cases released : releaseActiveReservation id releasedMicroUsd store.wallets with
  | error failure => simp [released] at ok
  | ok pair =>
    rcases pair with ⟨wallets, answer⟩
    simp only [released, Except.ok.injEq, Prod.mk.injEq] at ok
    rcases ok with ⟨nextEq, _⟩
    subst nextEq
    rcases release_active_reservation_ok released with ⟨_, same⟩ | ⟨_, _, _, _, _, closed⟩
    · subst same
      exact ⟨untouched_refl _ _, invariant⟩
    · subst closed
      have untouched : Untouched hold who store
          { store with wallets := store.wallets.releaseHold id releasedMicroUsd } :=
        untouched_of_same rfl rfl (fun _ member => member)
          (fun item member => ⟨item, member, rfl⟩)
      constructor
      · exact untouched
      · apply untouched_invariant untouched invariant
        · intro row member
          refine ⟨_, mem_release_hold.mpr ⟨row, member, rfl⟩, ?_⟩
          split_ifs
          · rfl
          · rfl
        · intro row member
          rcases mem_release_hold.mp member with ⟨old, oldMem, rowEq⟩
          by_cases chosen : (old.id == id && old.status == .active) = true
          · rw [if_pos chosen] at rowEq
            subst rowEq
            constructor
            · exact invariant.plain old oldMem
            · intro reference
              constructor
              · exact invariant.reserved old oldMem reference
              · intro captured
                have taken := captured old oldMem reference
                simp [taken] at chosen
          · rw [if_neg chosen] at rowEq
            subst rowEq
            constructor
            · exact invariant.plain old oldMem
            · intro reference
              exact ⟨invariant.reserved old oldMem reference,
                fun captured => captured old oldMem reference⟩

def Known (item : ReconciliationItem) (store : SettlementStore) : Prop :=
  ∃ row, row ∈ store.reconciliationItems ∧ row.core = item.core

theorem known_kept {item : ReconciliationItem}
    (allowed : StepAllowed hold who before after) (known : Known item before) :
    Known item after := by
  rcases known with ⟨row, member, same⟩
  rcases allowed.itemsKept row member with ⟨later, laterMem, laterSame⟩
  exact ⟨later, laterMem, laterSame.trans same⟩

theorem execute_close_item {item : ReconciliationItem} {status : ItemStatus} {note : SweepNote}
    {answer : Unit} (known : Known item store)
    (ok : (Statement.closeItem item.id status { item.metadata with sweep := some note }).execute
      caller turn store = .ok (next, answer)) :
    Untouched hold who store next ∧
      next.wallets.reservations = store.wallets.reservations := by
  simp only [Statement.execute, Except.ok.injEq, Prod.mk.injEq] at ok
  rcases ok with ⟨nextEq, _⟩
  subst nextEq
  constructor
  · apply untouched_of_same
    · rfl
    · rfl
    · exact fun _ member => member
    · intro row member
      by_cases chosen : (row.id == item.id) = true
      · rcases known with ⟨held, heldMem, same⟩
        have heldId : held.core.id = item.core.id := congrArg ReconciliationItem.id same
        have rowEntry : item.id ∈ row.entries := by
          simpa [ReconciliationItem.entries] using (beq_iff_eq.mp chosen).symm
        have heldEntry : item.id ∈ held.entries := by
          simpa [ReconciliationItem.entries, ReconciliationItem.core] using heldId.symm
        have rowEq : row = held := Table.eq_of_shared_entry member heldMem rowEntry heldEntry
        subst rowEq
        have sameMetadata : row.core.metadata = item.core.metadata :=
          congrArg ReconciliationItem.metadata same
        refine ⟨_, List.mem_map.mpr ⟨row, member, rfl⟩, ?_⟩
        rw [if_pos chosen]
        have sameNote : { row.metadata with sweep := none } =
            { item.metadata with sweep := none } := sameMetadata
        simp only [ReconciliationItem.core, ReconciliationItem.close, sameNote]
      · refine ⟨row, List.mem_map.mpr ⟨row, member, ?_⟩, rfl⟩
        rw [if_neg chosen]
  · rfl

theorem store_debits_cons {debit : Debit}
    (debits : after.wallets.debits = debit :: before.wallets.debits) (referenceId : String) :
    after.debitsUnder referenceId =
      if debit.referenceId = referenceId then debit :: before.debitsUnder referenceId
      else before.debitsUnder referenceId := by
  rw [SettlementStore.debitsUnder, debits, SettlementStore.debitsUnder, List.filter_cons]
  simp only [beq_iff_eq]

/-- What a capture that closed the hold `row` changed. -/
structure CaptureTook (closing : Closing) (row : Reservation) (before after : SettlementStore) :
    Prop where
  member : row ∈ before.wallets.reservations
  reference : row.referenceId = closing.referenceId
  active : row.status = .active
  enough : closing.capturedMicroUsd ≤ row.reservedMicroUsd
  rows : ∀ later, later ∈ after.wallets.reservations →
    ∃ old, old ∈ before.wallets.reservations ∧ later.referenceId = old.referenceId ∧
      later.reservedMicroUsd = old.reservedMicroUsd ∧
      (later.status = .captured ∨ (later = old ∧ old.id ≠ row.id))
  rowsKept : ∀ old, old ∈ before.wallets.reservations →
    ∃ later, later ∈ after.wallets.reservations ∧ later.referenceId = old.referenceId
  closings : after.closings = closing :: before.closings
  debits : after.wallets.debits = before.wallets.debits ∨
    ∃ debit : Debit, after.wallets.debits = debit :: before.wallets.debits ∧
      debit.caller = closing.caller ∧ debit.amountMicroUsd = closing.capturedMicroUsd ∧
      debit.referenceId = closing.referenceId
  accounts : after.wallets.accounts = before.wallets.accounts
  items : after.reconciliationItems = before.reconciliationItems

theorem execute_capture_took {path : SettlementPath} {costMicroUsd captureMicroUsd : Nat}
    {userId : String} {reply : CaptureReply}
    (ok : (Statement.captureReservation path costMicroUsd userId referenceId
      captureMicroUsd).execute caller turn store = .ok (next, reply)) :
    (reply.captured = false ∧ next = store) ∨
      (reply.captured = true ∧ ∃ row,
        CaptureTook
          { caller, referenceId, path, costMicroUsd, capturedMicroUsd := captureMicroUsd }
          row store next) := by
  simp only [Statement.execute] at ok
  cases captured : captureManagedVeniceReservation caller userId referenceId captureMicroUsd
    store.wallets with
  | error failure => simp [captured] at ok
  | ok pair =>
    rcases pair with ⟨wallets, answer⟩
    simp only [captured, Except.ok.injEq, Prod.mk.injEq] at ok
    rcases ok with ⟨nextEq, answerEq⟩
    subst answerEq
    rcases capture_reservation_ok captured with
      ⟨row, rowMem, _, rowReference, _, ⟨_, settled, same⟩ | closed⟩
    · left
      subst same
      simp only [settled, Bool.false_eq_true, if_false] at nextEq
      exact ⟨settled, nextEq.symm⟩
    · right
      rcases closed with ⟨active, taken, enough, debited, debit, walletsEq⟩
      simp only [taken, if_true] at nextEq
      subst nextEq walletsEq
      have sameHolds : debited.reservations = store.wallets.reservations := by
        rcases debit with ⟨_, same⟩ | debit
        · rw [same]
        · exact (debit_wallet_notes debit).1
      refine ⟨taken, row, ?_⟩
      exact
        { member := rowMem
          reference := rowReference
          active
          enough := by
            dsimp only
            omega
          rows := by
            intro later laterMem
            rcases mem_capture_hold.mp laterMem with ⟨old, oldMem, laterEq⟩
            rw [sameHolds] at oldMem
            by_cases chosen : (old.id == row.id) = true
            · rw [if_pos chosen] at laterEq
              subst laterEq
              exact ⟨old, oldMem, rfl, rfl, .inl rfl⟩
            · rw [if_neg chosen] at laterEq
              subst laterEq
              exact ⟨old, oldMem, rfl, rfl, .inr ⟨rfl, by simpa using chosen⟩⟩
          rowsKept := by
            intro old oldMem
            rw [← sameHolds] at oldMem
            refine ⟨_, mem_capture_hold.mpr ⟨old, oldMem, rfl⟩, ?_⟩
            split_ifs
            · rfl
            · rfl
          closings := rfl
          debits := by
            rcases debit with ⟨_, same⟩ | debit
            · left
              rw [same]
              rfl
            · right
              rcases debit_wallet_notes debit with ⟨_, _, noted, added, callerEq, _, amount, refEq⟩
              exact ⟨noted, added, callerEq, by simpa using amount, refEq⟩
          accounts := by
            rcases debit with ⟨_, same⟩ | debit
            · rw [same]
              rfl
            · exact (debit_wallet_notes debit).2.1
          items := rfl }

section

variable {row : Reservation} {before after : SettlementStore}
    (took : CaptureTook closing row before after)
include took

theorem capture_took_other_debits (apart : closing.referenceId ≠ referenceId) :
    after.debitsUnder referenceId = before.debitsUnder referenceId := by
  rcases took.debits with same | ⟨noted, added, _, _, refEq⟩
  · rw [SettlementStore.debitsUnder, same, SettlementStore.debitsUnder]
  · rw [store_debits_cons added, refEq, if_neg apart]

theorem capture_took_plain (invariant : LedgerInvariant hold before) :
    closing.referenceId ≠ overageReference hold.referenceId ∧
      overageReference closing.referenceId ≠ hold.referenceId := by
  rw [← took.reference]
  exact invariant.plain row took.member

theorem capture_took_allowed (invariant : LedgerInvariant hold before) :
    StepAllowed hold (some closing.caller) before after where
  closingsKept := by
    rw [took.closings]
    exact fun _ member => List.mem_cons_of_mem _ member
  closingsOwn := by
    rw [took.closings]
    intro other member
    rcases List.mem_cons.mp member with new | old
    · exact .inr (by rw [new])
    · exact .inl old
  debitsKept := by
    intro old member
    rcases took.debits with same | ⟨_, added, _⟩
    · rw [same]
      exact member
    · rw [added]
      exact List.mem_cons_of_mem _ member
  overageOwn := .inl (capture_took_other_debits took (capture_took_plain took invariant).1)
  accountsKept := by
    rw [took.accounts]
    exact fun _ member => member
  itemsKept := by
    rw [took.items]
    exact fun item member => ⟨item, member, rfl⟩

theorem capture_took_other (apart : closing.referenceId ≠ hold.referenceId)
    (invariant : LedgerInvariant hold before) :
    Untouched hold (some closing.caller) before after ∧ LedgerInvariant hold after := by
  have untouched : Untouched hold (some closing.caller) before after :=
    { capture_took_allowed took invariant with
      debits := capture_took_other_debits took apart
      overage := capture_took_other_debits took (capture_took_plain took invariant).1
      closings := by
        rw [SettlementStore.closingsOf, took.closings, List.filter_cons]
        simp [apart, SettlementStore.closingsOf] }
  constructor
  · exact untouched
  · apply untouched_invariant untouched invariant took.rowsKept
    intro later laterMem
    rcases took.rows later laterMem with ⟨old, oldMem, refEq, reservedEq, status⟩
    constructor
    · have oldPlain := invariant.plain old oldMem
      rw [Plain, refEq]
      exact oldPlain
    · intro reference
      rw [refEq] at reference
      constructor
      · rw [reservedEq]
        exact invariant.reserved old oldMem reference
      · intro captured
        rcases status with status | ⟨laterEq, _⟩
        · exact status
        · rw [laterEq]
          exact captured old oldMem reference

end

theorem active_hold_unsettled {row : Reservation} (invariant : LedgerInvariant hold store)
    (member : row ∈ store.wallets.reservations) (reference : row.referenceId = hold.referenceId)
    (active : row.status = .active) :
    store.closingsOf hold.referenceId = [] ∧ store.debitsUnder hold.referenceId = [] ∧
      store.debitsUnder (overageReference hold.referenceId) = [] := by
  have unclosed : store.closingsOf hold.referenceId = [] := by
    rw [List.eq_nil_iff_forall_not_mem]
    intro closing closingMem
    have status := (invariant.closed closing closingMem).1 row member reference
    rw [active] at status
    cases status
  refine ⟨unclosed, ?_, ?_⟩
  · rcases invariant.debited with none | ⟨closing, closingMem, _⟩
    · exact none
    · rw [unclosed] at closingMem
      cases closingMem
  · rcases invariant.overage with none | ⟨closing, closingMem, _⟩
    · exact none
    · rw [unclosed] at closingMem
      cases closingMem

theorem capture_took_own {row : Reservation}
    (took : CaptureTook closing row before after) (same : closing.referenceId = hold.referenceId)
    (covered : closing.capturedMicroUsd ≤ closing.costMicroUsd)
    (invariant : LedgerInvariant hold before) : after.closingsOf hold.referenceId = [closing] ∧
      after.debitsUnder (overageReference hold.referenceId) = [] ∧
      LedgerInvariant hold after := by
  have rowReference := took.reference.trans same
  rcases active_hold_unsettled invariant took.member rowReference took.active with
    ⟨unclosed, undebited, unspent⟩
  have started : after.closingsOf hold.referenceId = [closing] := by
    rw [SettlementStore.closingsOf] at unclosed ⊢
    rw [took.closings, List.filter_cons, unclosed]
    simp [same]
  have noOverage : after.debitsUnder (overageReference hold.referenceId) = [] := by
    rw [capture_took_other_debits took (capture_took_plain took invariant).1]
    exact unspent
  refine ⟨started, noOverage, ?_⟩
  exact
    { present := by
        rcases took.rowsKept row took.member with ⟨later, laterMem, sameReference⟩
        exact ⟨later, laterMem, sameReference.trans rowReference⟩
      reserved := by
        intro later laterMem reference
        rcases took.rows later laterMem with ⟨old, oldMem, refEq, reservedEq, _⟩
        rw [reservedEq]
        exact invariant.reserved old oldMem (refEq ▸ reference)
      plain := by
        intro later laterMem
        rcases took.rows later laterMem with ⟨old, oldMem, refEq, _, _⟩
        have oldPlain := invariant.plain old oldMem
        rw [Plain, refEq]
        exact oldPlain
      closedOnce := by
        rw [started]
        exact Nat.le_refl 1
      closed := by
        intro other member
        rw [started, List.mem_singleton] at member
        subst member
        refine ⟨?_, ?_, covered⟩
        · intro later laterMem reference
          rcases took.rows later laterMem with ⟨old, oldMem, refEq, _, status | ⟨_, apart⟩⟩
          · exact status
          · exfalso
            apply apart
            rw [hold_eq_of_reference oldMem took.member
              ((refEq.symm.trans reference).trans rowReference.symm)]
        · rw [← invariant.reserved row took.member rowReference]
          exact took.enough
      debited := by
        rcases took.debits with sameDebits | ⟨noted, added, callerEq, amountEq, refEq⟩
        · left
          rw [SettlementStore.debitsUnder, sameDebits]
          exact undebited
        · right
          refine ⟨closing, ?_, noted, ?_, callerEq, amountEq⟩
          · rw [started]
            exact List.mem_singleton_self _
          · rw [store_debits_cons added, if_pos (refEq.trans same), undebited]
      overage := .inl noOverage }

def MayDebitOverage (hold : Reservation) (number : Nat) (referenceId : String)
    (overageMicroUsd : Nat) (store : SettlementStore) : Prop :=
  if referenceId = hold.referenceId then
    (∃ closing ∈ store.closingsOf hold.referenceId, closing.caller = number ∧
      closing.overageMicroUsd = overageMicroUsd) ∧
      store.debitsUnder (overageReference hold.referenceId) = []
  else overageReference referenceId ≠ hold.referenceId

theorem may_debit_overage_stable (referenceId : String) (overageMicroUsd : Nat) :
    (settlementContract hold performs).Stable number
      (MayDebitOverage hold number referenceId overageMicroUsd) := by
  rintro before next ⟨invariant, _, other, apart, allowed⟩ may
  have step : StepAllowed hold other before next := allowed
  unfold MayDebitOverage at *
  split_ifs at may ⊢ with own
  · rcases may with ⟨⟨closing, member, callerEq, overage⟩, unspent⟩
    constructor
    · rcases mem_closings_of.mp member with ⟨listed, reference⟩
      exact ⟨closing, mem_closings_of.mpr ⟨step.closingsKept closing listed, reference⟩, callerEq,
        overage⟩
    · rcases step.overageOwn with same | ⟨closer, closerMem, callerIs⟩
      · rw [same]
        exact unspent
      · exfalso
        apply apart
        rw [callerIs, closed_once invariant closerMem member, callerEq]
  · exact may

theorem execute_overage_debit {userId : String} {walletType : WalletType} {overageMicroUsd : Nat}
    {answer : Unit}
    (may : MayDebitOverage hold caller referenceId overageMicroUsd store)
    (ok : (Statement.debitWallet userId walletType overageMicroUsd
      (overageReference referenceId)).execute caller turn store = .ok (next, answer))
    (invariant : LedgerInvariant hold store) :
    StepAllowed hold (some caller) store next ∧ LedgerInvariant hold next ∧
      next.closings = store.closings ∧
      ∃ debit : Debit, debit ∈ next.wallets.debits ∧ debit.amountMicroUsd = overageMicroUsd ∧
        debit.referenceId = overageReference referenceId := by
  simp only [Statement.execute] at ok
  cases debited : debitManagedVeniceWallet caller userId (some walletType) overageMicroUsd
    (overageReference referenceId) store.wallets with
  | error failure => simp [debited] at ok
  | ok wallets =>
    simp only [debited, Except.ok.injEq, Prod.mk.injEq] at ok
    rcases ok with ⟨nextEq, _⟩
    subst nextEq
    rcases debit_wallet_notes debited with
      ⟨holds, accounts, debit, added, callerEq, _, amount, refEq⟩
    rw [Int.toNat_natCast] at amount
    have addedTo : ({ store with wallets } : SettlementStore).wallets.debits =
        debit :: store.wallets.debits := added
    have debitsKept : ∀ old ∈ store.wallets.debits, old ∈ wallets.debits := by
      intro old member
      rw [added]
      exact List.mem_cons_of_mem _ member
    have ownDebits : ({ store with wallets } : SettlementStore).debitsUnder hold.referenceId =
        store.debitsUnder hold.referenceId := by
      rw [store_debits_cons addedTo, refEq, if_neg]
      unfold MayDebitOverage at may
      split_ifs at may with own
      · rw [own]
        exact overage_reference_ne _
      · exact may
    have listed : ∃ noted : Debit, noted ∈ wallets.debits ∧
        noted.amountMicroUsd = overageMicroUsd ∧
        noted.referenceId = overageReference referenceId :=
      ⟨debit, by rw [added]; exact List.mem_cons_self, amount, refEq⟩
    have allowed : ∀ spent : ({ store with wallets } : SettlementStore).debitsUnder
          (overageReference hold.referenceId) =
            store.debitsUnder (overageReference hold.referenceId) ∨
          ∃ closing ∈ store.closingsOf hold.referenceId, some caller = some closing.caller,
        StepAllowed hold (some caller) store { store with wallets } := by
      intro spent
      exact
        { closingsKept := fun _ member => member
          closingsOwn := fun _ member => .inl member
          debitsKept
          overageOwn := spent
          accountsKept := by
            dsimp only
            rw [accounts]
            exact fun _ member => member
          itemsKept := fun item member => ⟨item, member, rfl⟩ }
    by_cases own : referenceId = hold.referenceId
    · unfold MayDebitOverage at may
      rw [if_pos own] at may
      rcases may with ⟨⟨closing, member, closer, overage⟩, unspent⟩
      refine ⟨allowed (.inr ⟨closing, member, by rw [closer]⟩), ?_, rfl, listed⟩
      exact
        { present := by
            dsimp only
            rw [holds]
            exact invariant.present
          reserved := by
            dsimp only
            rw [holds]
            exact invariant.reserved
          plain := by
            dsimp only
            rw [holds]
            exact invariant.plain
          closedOnce := invariant.closedOnce
          closed := by
            dsimp only
            rw [holds]
            exact invariant.closed
          debited := by
            rw [ownDebits]
            exact invariant.debited
          overage := by
            right
            refine ⟨closing, member, debit, ?_, callerEq.trans closer.symm,
              amount.trans overage.symm⟩
            rw [store_debits_cons addedTo, refEq, own, if_pos rfl, unspent] }
    · have apart : overageReference referenceId ≠ overageReference hold.referenceId :=
        fun same => own (overage_reference_injective same)
      have overageDebits : ({ store with wallets } : SettlementStore).debitsUnder
          (overageReference hold.referenceId) =
            store.debitsUnder (overageReference hold.referenceId) := by
        rw [store_debits_cons addedTo, refEq, if_neg apart]
      have untouched : Untouched hold (some caller) store { store with wallets } :=
        { allowed (.inl overageDebits) with
          debits := ownDebits
          overage := overageDebits
          closings := rfl }
      exact ⟨allowed (.inl overageDebits), same_holds_invariant untouched holds invariant, rfl,
        listed⟩

end OneHold

end Hivra.ManagedVenice
