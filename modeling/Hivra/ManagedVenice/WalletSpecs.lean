import Hivra.ManagedVenice.WalletFunctions

/-!
# What the wallet statements can do

One inversion lemma for each wallet statement: what holds when it succeeds and
which rows differ afterwards.  Everything later about the wallets is derived from
these lemmas, not from the function bodies.
-/

namespace Hivra.ManagedVenice

open Hivra.Library

variable {id : String} {lot : TokenLot} {wallets : Wallets} {failure : SqlError}
    {captureMicroUsd : Int}

theorem id_mem_lot_entries : LotKey.id id ∈ lot.entries ↔ lot.id = id := by
  unfold TokenLot.entries
  rcases lot.quoteId with _ | quoteId
  · simp [eq_comm]
  · by_cases deposit : lot.source.isDeposit <;> simp [deposit, eq_comm]

variable {hold : Reservation}

theorem id_mem_reservation_entries : ReservationKey.id id ∈ hold.entries ↔ hold.id = id := by
  simp [Reservation.entries, eq_comm]

variable {referenceId : String}

theorem reference_mem_reservation_entries :
    ReservationKey.reference referenceId ∈ hold.entries ↔ hold.referenceId = referenceId := by
  simp [Reservation.entries, eq_comm]

theorem hold_eq_of_reference {left right : Reservation} (leftMem : left ∈ wallets.reservations)
    (rightMem : right ∈ wallets.reservations) (same : left.referenceId = right.referenceId) :
    left = right :=
  Table.eq_of_shared_entry leftMem rightMem (reference_mem_reservation_entries.mpr same)
    (reference_mem_reservation_entries.mpr rfl)

theorem hold_eq_of_id {left right : Reservation} (leftMem : left ∈ wallets.reservations)
    (rightMem : right ∈ wallets.reservations) (same : left.id = right.id) : left = right :=
  Table.eq_of_shared_entry leftMem rightMem (id_mem_reservation_entries.mpr same)
    (id_mem_reservation_entries.mpr rfl)

private theorem spend_lot_share (userId : String) (spendable : spendableLot userId lot = true)
    (left : Nat) :
    Table.share (spendableLot userId) (·.remainingValueMicroUsd) (spendLot lot left lot) = left := by
  have owner : lot.userId = userId := by
    have both : lot.userId = userId ∧ lot.status = .active := by
      simpa [spendableLot] using spendable
    exact both.1
  by_cases depleted : left = 0
  · simp [Table.share, spendLot, spendableLot, depleted]
  · simp [Table.share, spendLot, spendableLot, depleted, owner]

private theorem spend_lot_share_other {userId other : String}
    (spendable : spendableLot userId lot = true) (apart : other ≠ userId) (left : Nat) :
    Table.share (spendableLot other) (·.remainingValueMicroUsd) (spendLot lot left lot) =
      Table.share (spendableLot other) (·.remainingValueMicroUsd) lot := by
  have both : lot.userId = userId ∧ lot.status = .active := by
    simpa [spendableLot] using spendable
  have owner : ¬ userId = other := fun same => apart same.symm
  simp [Table.share, spendLot, spendableLot, both.1, owner]

variable {lots : Table TokenLot.entries} {userId : String}

private theorem spend_lot_sum (member : lot ∈ lots)
    (spendable : spendableLot userId lot = true) (left : Nat) :
    (lots.rewrite (fun row => row.id == lot.id) (spendLot lot left) (fun _ => rfl)).sumWhere
        (spendableLot userId) (·.remainingValueMicroUsd) + lot.remainingValueMicroUsd =
      lots.sumWhere (spendableLot userId) (·.remainingValueMicroUsd) + left := by
  have traded := Table.sum_where_rewrite_one member (id_mem_lot_entries.mpr rfl)
    (fun row => row.id == lot.id)
    (fun other _ => by simp [id_mem_lot_entries])
    (spendLot lot left) (fun _ => rfl) (spendableLot userId) (·.remainingValueMicroUsd)
  rw [spend_lot_share userId spendable] at traded
  simpa [Table.share, spendable] using traded

private theorem spend_lot_sum_other {userId other : String} (member : lot ∈ lots)
    (spendable : spendableLot userId lot = true) (apart : other ≠ userId) (left : Nat) :
    (lots.rewrite (fun row => row.id == lot.id) (spendLot lot left) (fun _ => rfl)).sumWhere
        (spendableLot other) (·.remainingValueMicroUsd) =
      lots.sumWhere (spendableLot other) (·.remainingValueMicroUsd) := by
  apply Table.sum_where_rewrite_same
  intro row present chosen
  have rowId : LotKey.id lot.id ∈ row.entries := id_mem_lot_entries.mpr (by simpa using chosen)
  have same : row = lot :=
    Table.eq_of_shared_entry present member rowId (id_mem_lot_entries.mpr rfl)
  subst same
  exact spend_lot_share_other spendable apart left

/-- What the loop owes afterwards, and what it took from whom.  The queue holds
rows of the table with distinct ids, so each rewrite meets the row it read. -/
theorem debit_lots_spec (queue : List TokenLot) (owed : Nat) (lots : Table TokenLot.entries)
    (members : ∀ lot ∈ queue, lot ∈ lots ∧ spendableLot userId lot = true)
    (distinct : (queue.map TokenLot.id).Nodup) : (debitLots queue owed lots).2 =
        owed - (queue.map (·.remainingValueMicroUsd)).sum ∧
      (debitLots queue owed lots).1.sumWhere (spendableLot userId) (·.remainingValueMicroUsd) +
          owed =
        lots.sumWhere (spendableLot userId) (·.remainingValueMicroUsd) +
          (debitLots queue owed lots).2 ∧
      ∀ other, other ≠ userId →
        (debitLots queue owed lots).1.sumWhere (spendableLot other) (·.remainingValueMicroUsd) =
          lots.sumWhere (spendableLot other) (·.remainingValueMicroUsd) := by
  induction queue generalizing owed lots with
  | nil => simp [debitLots]
  | cons lot queue ih =>
    obtain ⟨member, spendable⟩ := members lot List.mem_cons_self
    rw [List.map_cons, List.nodup_cons] at distinct
    by_cases paid : owed = 0
    · simp [debitLots, paid]
    · set take := min lot.remainingValueMicroUsd owed with takeEq
      set left := lot.remainingValueMicroUsd - take with leftEq
      set drawn := lots.rewrite (fun row => row.id == lot.id) (spendLot lot left)
        (fun _ => rfl) with drawnEq
      have stepped : debitLots (lot :: queue) owed lots = debitLots queue (owed - take) drawn := by
        simp [debitLots, paid, drawnEq, leftEq, takeEq]
      have remaining : ∀ other ∈ queue, other ∈ drawn ∧ spendableLot userId other = true := by
        intro other present
        obtain ⟨held, spendableOther⟩ := members other (List.mem_cons_of_mem _ present)
        refine ⟨?_, spendableOther⟩
        have apart : other.id ≠ lot.id := by
          intro same
          exact distinct.1 (same ▸ List.mem_map_of_mem present)
        exact Table.mem_rewrite.mpr ⟨other, held, by simp [apart]⟩
      obtain ⟨owes, sum, others⟩ := ih (owed - take) drawn remaining distinct.2
      have took := spend_lot_sum member spendable left
      rw [← drawnEq] at took
      rw [stepped]
      refine ⟨?_, ?_, ?_⟩
      · rw [owes, List.map_cons, List.sum_cons]
        omega
      · omega
      · intro other apart
        rw [others other apart]
        exact spend_lot_sum_other member spendable apart left

theorem lots_oldest_first_members (member : lot ∈ lotsOldestFirst userId lots) :
    lot ∈ lots ∧ spendableLot userId lot = true := by
  have selected := (List.perm_insertionSort notNewer _).mem_iff.mp member
  have facts := List.mem_filter.mp selected
  refine ⟨facts.1, ?_⟩
  have both : spendableLot userId lot = true ∧ 0 < lot.remainingValueMicroUsd := by
    simpa using facts.2
  exact both.1

private theorem rows_distinct_ids {rows : List TokenLot}
    (unique : rows.Pairwise (Apart TokenLot.entries)) : (rows.map TokenLot.id).Nodup := by
  rw [List.Nodup, List.pairwise_map]
  apply unique.imp
  intro left right apart same
  exact apart (.id left.id) (id_mem_lot_entries.mpr rfl) (id_mem_lot_entries.mpr same.symm)

theorem lots_oldest_first_distinct (userId : String) (lots : Table TokenLot.entries) :
    ((lotsOldestFirst userId lots).map TokenLot.id).Nodup := by
  have sorted := (List.perm_insertionSort notNewer
    (lots.selectWhere fun lot =>
      spendableLot userId lot && decide (0 < lot.remainingValueMicroUsd))).map TokenLot.id
  refine sorted.nodup_iff.mpr ?_
  exact rows_distinct_ids (lots.unique.sublist List.filter_sublist)

private theorem positive_filter_sum (rows : List TokenLot) (selected : TokenLot → Bool) :
    ((rows.filter fun lot => selected lot && decide (0 < lot.remainingValueMicroUsd)).map
        (·.remainingValueMicroUsd)).sum =
      ((rows.filter selected).map (·.remainingValueMicroUsd)).sum := by
  induction rows with
  | nil => rfl
  | cons lot rows ih =>
    by_cases chosen : selected lot
    · by_cases worth : 0 < lot.remainingValueMicroUsd
      · simp [chosen, worth, ih]
      · have nothing : lot.remainingValueMicroUsd = 0 := by omega
        simp [chosen, nothing, ih]
    · simp [chosen, ih]

theorem lots_oldest_first_value (userId : String) (lots : Table TokenLot.entries) :
    ((lotsOldestFirst userId lots).map (·.remainingValueMicroUsd)).sum =
      lots.sumWhere (spendableLot userId) (·.remainingValueMicroUsd) := by
  have sorted := (List.perm_insertionSort notNewer
    (lots.selectWhere fun lot =>
      spendableLot userId lot && decide (0 < lot.remainingValueMicroUsd))).map
        (·.remainingValueMicroUsd)
  calc
    ((lotsOldestFirst userId lots).map (·.remainingValueMicroUsd)).sum =
        ((lots.selectWhere fun lot =>
          spendableLot userId lot && decide (0 < lot.remainingValueMicroUsd)).map
            (·.remainingValueMicroUsd)).sum := sorted.sum_eq
    _ = lots.sumWhere (spendableLot userId) (·.remainingValueMicroUsd) :=
        positive_filter_sum lots.rows (spendableLot userId)

theorem oldest_first_owes (userId : String) (amount : Nat) (lots : Table TokenLot.entries) :
    (debitLots (lotsOldestFirst userId lots) amount lots).2 =
      amount - lots.sumWhere (spendableLot userId) (·.remainingValueMicroUsd) := by
  have ⟨owes, _, _⟩ := debit_lots_spec (lotsOldestFirst userId lots) amount lots
    (fun _ member => lots_oldest_first_members member) (lots_oldest_first_distinct userId lots)
  rwa [lots_oldest_first_value] at owes

def Wallets.cardAvailable (wallets : Wallets) (userId : String) (exclude : Option String) : Int :=
  wallets.cardBalance userId -
    (wallets.reservations.sumWhere
      (fun hold => activeCardHold userId hold && some hold.id != exclude)
      (·.reservedMicroUsd) : Nat)

def cardDebitEntry (accountId userId : String) (amountMicroUsd : Int) (referenceId : String) :
    CardLedgerEntry :=
  { accountId
    userId
    amountMicroUsd := -amountMicroUsd
    source := .system
    reason := .managedVeniceDebit
    referenceId }

def Wallets.drawLots (wallets : Wallets) (debit : Debit) : Wallets :=
  { wallets with
    tokenLots :=
      (debitLots (lotsOldestFirst debit.userId wallets.tokenLots) debit.amountMicroUsd
        wallets.tokenLots).1
    debits := debit :: wallets.debits }

variable {next : Wallets}

theorem insert_card_ledger_entry_ok {entry : CardLedgerEntry}
    (ok : insertCardLedgerEntry entry wallets = .ok next) :
    ∃ cardLedger, wallets.cardLedger.insert entry = some cardLedger ∧
      next = { wallets with cardLedger } := by
  unfold insertCardLedgerEntry at ok
  cases guarded : enforceManagedVeniceCardBalance entry wallets with
  | error failure => simp [guarded, bind, Except.bind] at ok
  | ok _ =>
    simp only [guarded, bind, Except.bind, pure, Except.pure, throw, throwThe,
      MonadExceptOf.throw] at ok
    split_ifs at ok
    cases inserted : wallets.cardLedger.insert entry with
    | none => simp [inserted] at ok
    | some cardLedger =>
      refine ⟨cardLedger, rfl, ?_⟩
      simpa [inserted] using ok.symm

variable {caller : Nat} {amountMicroUsd : Int} {accountId exclude : Option String}
variable {wallets : Wallets}

theorem debit_card_ledger_ok
    (ok : debitCardLedger caller userId amountMicroUsd referenceId accountId exclude wallets =
      .ok next) :
    amountMicroUsd ≤ wallets.cardAvailable userId exclude ∧
      ∃ account cardLedger,
        wallets.cardLedger.insert
          (cardDebitEntry account userId amountMicroUsd referenceId) = some cardLedger ∧
        next =
          { wallets with
            cardLedger
            debits :=
              { caller, userId, walletType := .card, amountMicroUsd := amountMicroUsd.toNat,
                referenceId } :: wallets.debits } := by
  unfold debitCardLedger at ok
  simp only [bind, Except.bind, pure, Except.pure, throw, throwThe, MonadExceptOf.throw] at ok
  split at ok
  · cases ok
  · rename_i account _
    split_ifs at ok with short
    split at ok
    · cases ok
    · rename_i debited insertOk
      obtain ⟨cardLedger, inserted, debitedEq⟩ := insert_card_ledger_entry_ok insertOk
      refine ⟨not_lt.mp short, account, cardLedger, inserted, ?_⟩
      simp only [Except.ok.injEq] at ok
      rw [← ok, debitedEq]

theorem debit_token_lots_ok {token : WalletType}
    (ok : debitTokenLots caller userId token amountMicroUsd referenceId wallets = .ok next) :
    amountMicroUsd.toNat ≤ wallets.lotValue userId ∧
      next = wallets.drawLots
        { caller, userId, walletType := token, amountMicroUsd := amountMicroUsd.toNat,
          referenceId } := by
  unfold debitTokenLots at ok
  have owes := oldest_first_owes userId amountMicroUsd.toNat wallets.tokenLots
  dsimp only at ok
  split_ifs at ok with short
  simp only [Except.ok.injEq] at ok
  refine ⟨?_, ok.symm⟩
  unfold Wallets.lotValue
  omega

theorem debit_token_lots_refused {token : WalletType} {failure : SqlError}
    (refused : debitTokenLots caller userId token amountMicroUsd referenceId wallets =
      .error failure) :
    failure = .insufficientBalance ∧ wallets.lotValue userId < amountMicroUsd.toNat := by
  unfold debitTokenLots at refused
  have owes := oldest_first_owes userId amountMicroUsd.toNat wallets.tokenLots
  dsimp only at refused
  split_ifs at refused with short
  simp only [Except.error.injEq] at refused
  refine ⟨refused.symm, ?_⟩
  unfold Wallets.lotValue
  omega

theorem draw_lots_value {debit : Debit}
    (covered : debit.amountMicroUsd ≤ wallets.lotValue debit.userId) (userId : String) :
    (wallets.drawLots debit).lotValue userId =
      if userId = debit.userId then wallets.lotValue userId - debit.amountMicroUsd
      else wallets.lotValue userId := by
  obtain ⟨owes, sum, others⟩ := debit_lots_spec (lotsOldestFirst debit.userId wallets.tokenLots)
    debit.amountMicroUsd wallets.tokenLots
    (fun _ member => lots_oldest_first_members member)
    (lots_oldest_first_distinct debit.userId wallets.tokenLots)
  rw [lots_oldest_first_value] at owes
  unfold Wallets.lotValue at covered
  split_ifs with same
  · subst same
    unfold Wallets.lotValue Wallets.drawLots
    dsimp only
    omega
  · exact others userId same

section

variable {userId : String} {walletType : Option WalletType} {wallets : Wallets}
    (ok : managedVeniceDebitWalletLocked caller userId walletType amountMicroUsd referenceId
      accountId exclude wallets = .ok next)
include ok

/-- A debit that succeeds takes a positive amount either off the card ledger,
within what it has available, or off the lots. -/
theorem debit_wallet_locked_ok : 0 < amountMicroUsd ∧
      ((walletType = some .card ∧
          debitCardLedger caller userId amountMicroUsd referenceId accountId exclude wallets =
            .ok next) ∨
        (∃ token, walletType = some token ∧ token.isToken = true ∧
          debitTokenLots caller userId token amountMicroUsd referenceId wallets = .ok next)) := by
  unfold managedVeniceDebitWalletLocked at ok
  split_ifs at ok with blankUser blankReference nonPositive
  refine ⟨by omega, ?_⟩
  cases walletType with
  | none => cases ok
  | some walletType =>
    cases walletType with
    | card => exact .inl ⟨rfl, ok⟩
    | hermesos => exact .inr ⟨.hermesos, rfl, rfl, ok⟩
    | hivra => exact .inr ⟨.hivra, rfl, rfl, ok⟩

theorem debit_wallet_notes :
    next.reservations = wallets.reservations ∧ next.accounts = wallets.accounts ∧
      ∃ debit : Debit, next.debits = debit :: wallets.debits ∧ debit.caller = caller ∧
        debit.userId = userId ∧ debit.amountMicroUsd = amountMicroUsd.toNat ∧
        debit.referenceId = referenceId := by
  rcases debit_wallet_locked_ok ok with ⟨_, ⟨_, card⟩ | ⟨token, _, _, lots⟩⟩
  · rcases debit_card_ledger_ok card with ⟨_, account, cardLedger, _, nextEq⟩
    subst nextEq
    exact ⟨rfl, rfl, _, rfl, rfl, rfl, rfl, rfl⟩
  · rcases debit_token_lots_ok lots with ⟨_, nextEq⟩
    subst nextEq
    exact ⟨rfl, rfl, _, rfl, rfl, rfl, rfl, rfl⟩

end

theorem insert_card_ledger_entry_refused {entry : CardLedgerEntry}
    (refused : insertCardLedgerEntry entry wallets = .error .insufficientBalance) :
    wallets.cardBalance entry.userId + entry.amountMicroUsd < 0 := by
  unfold insertCardLedgerEntry at refused
  cases guarded : enforceManagedVeniceCardBalance entry wallets with
  | error failure =>
    unfold enforceManagedVeniceCardBalance at guarded
    split_ifs at guarded with _ _ overdrawn
    exact overdrawn
  | ok _ =>
    simp only [guarded, bind, Except.bind, pure, Except.pure, throw, throwThe,
      MonadExceptOf.throw] at refused
    split_ifs at refused
    · simp at refused
    · cases inserted : wallets.cardLedger.insert entry <;> simp [inserted] at refused

/-- A card debit on a known account is refused for its balance only when it asks
for more than the wallet has available, or more than it has. -/
theorem debit_card_ledger_refused {account : String}
    (refused : debitCardLedger caller userId amountMicroUsd referenceId (some account) exclude
      wallets = .error .insufficientBalance) :
    wallets.cardAvailable userId exclude < amountMicroUsd ∨
      wallets.cardBalance userId < amountMicroUsd := by
  unfold debitCardLedger at refused
  simp only [bind, Except.bind, pure, Except.pure, throw, throwThe, MonadExceptOf.throw]
    at refused
  split_ifs at refused with short
  · exact .inl short
  · right
    split at refused
    · rename_i failure inserted
      simp only [Except.error.injEq] at refused
      subst refused
      have overdrawn := insert_card_ledger_entry_refused inserted
      dsimp only at overdrawn
      omega
    · cases refused

theorem debit_wallet_locked_refused {walletType : WalletType}
    (refused : managedVeniceDebitWalletLocked caller userId (some walletType) amountMicroUsd
      referenceId accountId exclude wallets = .error .insufficientBalance) :
    if walletType.isToken then
      debitTokenLots caller userId walletType amountMicroUsd referenceId wallets =
        .error .insufficientBalance
    else
      debitCardLedger caller userId amountMicroUsd referenceId accountId exclude wallets =
        .error .insufficientBalance := by
  unfold managedVeniceDebitWalletLocked at refused
  split_ifs at refused with blankUser blankReference nonPositive
  · simp at refused
  · simp at refused
  · simp at refused
  · cases walletType <;> exact refused

def Wallets.captureHold (wallets : Wallets) (id : String) (captured released : Nat) : Wallets :=
  { wallets with
    reservations := wallets.reservations.rewrite (fun row => row.id == id)
      (Reservation.capture captured released) (fun _ => rfl) }

theorem release_entries (released : Nat) (hold : Reservation) :
    (hold.release released).entries = hold.entries := rfl

def Wallets.releaseHold (wallets : Wallets) (id : String) (released : Nat) : Wallets :=
  { wallets with
    reservations := wallets.reservations.rewrite
      (fun hold => hold.id == id && hold.status == .active)
      (Reservation.release released) (release_entries released) }

theorem mem_capture_hold {captured released : Nat} {row : Reservation} :
    row ∈ (wallets.captureHold id captured released).reservations ↔
      ∃ old ∈ wallets.reservations,
        (if old.id == id then old.capture captured released else old) = row :=
  List.mem_map

theorem mem_release_hold {released : Nat} {row : Reservation} :
    row ∈ (wallets.releaseHold id released).reservations ↔
      ∃ old ∈ wallets.reservations,
        (if old.id == id && old.status == .active then old.release released else old) = row :=
  List.mem_map

theorem find_reservation_some (found : wallets.findReservation userId referenceId = some hold) :
    hold ∈ wallets.reservations ∧ hold.userId = userId ∧ hold.referenceId = referenceId := by
  obtain ⟨member, selected⟩ := Table.find_mem found
  simp only [Bool.and_eq_true, beq_iff_eq] at selected
  exact ⟨member, selected.1, selected.2⟩

theorem find_reservation_of_mem (member : hold ∈ wallets.reservations) :
    wallets.findReservation hold.userId hold.referenceId = some hold := by
  cases found : wallets.findReservation hold.userId hold.referenceId with
  | none =>
    have unselected := Table.find_none found member
    simp at unselected
  | some other =>
    obtain ⟨otherMem, _, reference⟩ := find_reservation_some found
    rw [hold_eq_of_reference otherMem member reference]

/-- A capture that succeeds found one hold.  A hold that is not active is
reported and nothing changes; an active one is debited up to its reserved amount
and closed. -/
theorem capture_reservation_ok {captureMicroUsd : Int} {reply : CaptureReply}
    (ok : captureManagedVeniceReservation caller userId referenceId captureMicroUsd wallets =
      .ok (next, reply)) :
    ∃ hold, hold ∈ wallets.reservations ∧ hold.userId = userId ∧
      hold.referenceId = referenceId ∧ 0 ≤ captureMicroUsd ∧
      ((hold.status ≠ .active ∧ reply.captured = false ∧ next = wallets) ∨
        (hold.status = .active ∧ reply.captured = true ∧
          captureMicroUsd ≤ hold.reservedMicroUsd ∧
          ∃ debited,
            ((captureMicroUsd = 0 ∧ debited = wallets) ∨
              managedVeniceDebitWalletLocked caller userId (some hold.walletType)
                captureMicroUsd referenceId (some hold.accountId) (some hold.id) wallets =
                  .ok debited) ∧
            next = debited.captureHold hold.id captureMicroUsd.toNat
              (hold.reservedMicroUsd - captureMicroUsd.toNat))) := by
  unfold captureManagedVeniceReservation at ok
  simp only [bind, Except.bind, pure, Except.pure, throw, throwThe, MonadExceptOf.throw] at ok
  by_cases negative : captureMicroUsd < 0
  · simp [negative] at ok
  · simp only [negative, if_false] at ok
    cases found : wallets.findReservation userId referenceId with
    | none => simp [found] at ok
    | some hold =>
      obtain ⟨member, owner, reference⟩ := find_reservation_some found
      refine ⟨hold, member, owner, reference, by omega, ?_⟩
      simp only [found] at ok
      by_cases inactive : hold.status ≠ .active
      · left
        rw [if_pos inactive] at ok
        simp only [Except.ok.injEq, Prod.mk.injEq] at ok
        obtain ⟨sameWallets, sameReply⟩ := ok
        exact ⟨inactive, by rw [← sameReply], sameWallets.symm⟩
      · right
        have active : hold.status = .active := not_not.mp inactive
        simp only [active, ne_eq, not_true_eq_false, if_false] at ok
        by_cases exceeds : (hold.reservedMicroUsd : Int) < captureMicroUsd
        · simp [exceeds] at ok
        · simp only [exceeds, if_false] at ok
          by_cases positive : 0 < captureMicroUsd
          · simp only [positive, if_true] at ok
            cases debit : managedVeniceDebitWalletLocked caller userId (some hold.walletType)
                captureMicroUsd referenceId (some hold.accountId) (some hold.id) wallets with
            | error failure => simp [debit] at ok
            | ok debited =>
              simp only [debit, Except.ok.injEq, Prod.mk.injEq] at ok
              obtain ⟨sameWallets, sameReply⟩ := ok
              exact ⟨active, by rw [← sameReply], by omega, debited, .inr rfl,
                sameWallets.symm⟩
          · simp only [positive, if_false, Except.ok.injEq, Prod.mk.injEq] at ok
            obtain ⟨sameWallets, sameReply⟩ := ok
            exact ⟨active, by rw [← sameReply], by omega, wallets, .inl ⟨by omega, rfl⟩,
              sameWallets.symm⟩

theorem capture_reservation_error {captureMicroUsd : Int}
    {failure : SqlError} (member : hold ∈ wallets.reservations) (active : hold.status = .active)
    (nonNegative : 0 ≤ captureMicroUsd) (covered : captureMicroUsd ≤ hold.reservedMicroUsd)
    (raised : captureManagedVeniceReservation caller hold.userId hold.referenceId
      captureMicroUsd wallets = .error failure) :
    0 < captureMicroUsd ∧
      managedVeniceDebitWalletLocked caller hold.userId (some hold.walletType) captureMicroUsd
        hold.referenceId (some hold.accountId) (some hold.id) wallets = .error failure := by
  unfold captureManagedVeniceReservation at raised
  simp only [bind, Except.bind, pure, Except.pure, throw, throwThe, MonadExceptOf.throw,
    find_reservation_of_mem member, active, ne_eq, not_true_eq_false, if_false,
    not_lt.mpr nonNegative, not_lt.mpr covered] at raised
  by_cases positive : 0 < captureMicroUsd
  · refine ⟨positive, ?_⟩
    simp only [positive, if_true] at raised
    cases debit : managedVeniceDebitWalletLocked caller hold.userId (some hold.walletType)
        captureMicroUsd hold.referenceId (some hold.accountId) (some hold.id) wallets with
    | error debitFailure =>
      simp only [debit, Except.error.injEq] at raised
      rw [raised]
    | ok debited => simp [debit] at raised
  · simp [positive] at raised

theorem release_active_reservation_ok {releasedMicroUsd : Nat} {changed : Bool}
    (ok : releaseActiveReservation id releasedMicroUsd wallets = .ok (next, changed)) :
    (changed = false ∧ next = wallets) ∨
      (changed = true ∧ ∃ hold, hold ∈ wallets.reservations ∧ hold.id = id ∧
        hold.status = .active ∧ next = wallets.releaseHold id releasedMicroUsd) := by
  unfold releaseActiveReservation at ok
  split at ok
  · simp only [Except.ok.injEq, Prod.mk.injEq] at ok
    exact .inl ⟨ok.2.symm, ok.1.symm⟩
  · rename_i hold found
    obtain ⟨member, selected⟩ := Table.find_mem found
    simp only [Bool.and_eq_true, beq_iff_eq] at selected
    split_ifs at ok
    simp only [Except.ok.injEq, Prod.mk.injEq] at ok
    exact .inr ⟨ok.2.symm, hold, member, selected.1, selected.2, ok.1.symm⟩

theorem insert_reservation_ok (ok : insertReservation hold wallets = .ok next) :
    ∃ reservations, wallets.reservations.insert hold = some reservations ∧
      next = { wallets with reservations } ∧
      (hold.status = .active →
        if hold.walletType.isToken then
          wallets.tokenReserved hold.userId + hold.reservedMicroUsd ≤ wallets.lotValue hold.userId
        else
          wallets.cardReserved hold.userId + (hold.reservedMicroUsd : Int) ≤
            wallets.cardBalance hold.userId) := by
  unfold insertReservation at ok
  cases guarded : enforceManagedVeniceReservationBalance hold wallets with
  | error failure => simp [guarded, bind, Except.bind] at ok
  | ok _ =>
    simp only [guarded, bind, Except.bind, pure, Except.pure, throw, throwThe,
      MonadExceptOf.throw] at ok
    split_ifs at ok
    cases inserted : wallets.reservations.insert hold with
    | none => simp [inserted] at ok
    | some reservations =>
      simp only [inserted, Except.ok.injEq] at ok
      refine ⟨reservations, rfl, ok.symm, ?_⟩
      intro active
      -- the trigger lets a taken reference through, and the unique index refuses it
      have fresh : wallets.reservations.rows.any
          (fun held => held.referenceId == hold.referenceId) = false := by
        rw [List.any_eq_false]
        intro held member
        have apart := Table.insert_apart inserted member
        intro same
        exact apart (.reference held.referenceId) (reference_mem_reservation_entries.mpr rfl)
          (reference_mem_reservation_entries.mpr (by simpa using Eq.symm (by simpa using same)))
      unfold enforceManagedVeniceReservationBalance at guarded
      simp only [active, ne_eq, not_true_eq_false, if_false, fresh, Bool.false_eq_true]
        at guarded
      by_cases token : hold.walletType.isToken = true
      · simp only [token, if_true] at guarded ⊢
        split_ifs at guarded with short
        omega
      · rw [Bool.not_eq_true] at token
        simp only [token, Bool.false_eq_true, if_false] at guarded ⊢
        split_ifs at guarded with short
        omega

theorem insert_token_lot_ok (ok : insertTokenLot lot wallets = .ok next) :
    ∃ tokenLots, wallets.tokenLots.insert lot = some tokenLots ∧
      next = { wallets with tokenLots } := by
  unfold insertTokenLot at ok
  simp only [bind, Except.bind, pure, Except.pure, throw, throwThe, MonadExceptOf.throw] at ok
  split_ifs at ok
  cases inserted : wallets.tokenLots.insert lot with
  | none => simp [inserted] at ok
  | some tokenLots =>
    refine ⟨tokenLots, rfl, ?_⟩
    simpa [inserted] using ok.symm

end Hivra.ManagedVenice
