import Hivra.Library.FollowedRows
import Hivra.ManagedVenice.WalletSpecs

/-!
# What backs an active hold

A hold promises that its capture can be paid.  Here the wallet is a state machine
over the statements that touch it; a statement that raises leaves it unchanged.

The card side keeps the promise over every run: the ledger never sums to less
than the active card holds.  The token side does not, because a debit with no
hold behind it looks only at the lots.  It keeps the promise over exactly the
runs in which such debits stay within what the active token holds leave over.
-/

namespace Hivra.ManagedVenice

open Hivra.Library

structure CardCredit where
  accountId : String
  userId : String
  amountMicroUsd : Nat
  source : LedgerSource
  reason : LedgerReason
  referenceId : String

def CardCredit.entry (credit : CardCredit) : CardLedgerEntry :=
  { accountId := credit.accountId
    userId := credit.userId
    amountMicroUsd := credit.amountMicroUsd
    source := credit.source
    reason := credit.reason
    referenceId := credit.referenceId }

inductive WalletOperation
  | insertReservation (hold : Reservation)
  | capture (caller : Nat) (userId referenceId : String) (captureMicroUsd : Int)
  | release (id : String) (releasedMicroUsd : Nat)
  | debit (caller : Nat) (userId : String) (walletType : Option WalletType)
      (amountMicroUsd : Int) (referenceId : String)
  | creditCard (credit : CardCredit)
  | depositLot (lot : TokenLot)

def Wallets.execute (wallets : Wallets) : WalletOperation → Except SqlError Wallets
  | .insertReservation hold => insertReservation hold wallets
  | .capture caller userId referenceId captureMicroUsd =>
    (captureManagedVeniceReservation caller userId referenceId captureMicroUsd wallets).map
      Prod.fst
  | .release id releasedMicroUsd =>
    (releaseActiveReservation id releasedMicroUsd wallets).map Prod.fst
  | .debit caller userId walletType amountMicroUsd referenceId =>
    debitManagedVeniceWallet caller userId walletType amountMicroUsd referenceId wallets
  | .creditCard credit => insertCardLedgerEntry credit.entry wallets
  | .depositLot lot => insertTokenLot lot wallets

def Wallets.after (wallets : Wallets) (operation : WalletOperation) : Wallets :=
  match wallets.execute operation with
  | .ok next => next
  | .error _ => wallets

def Wallets.run (wallets : Wallets) (operations : List WalletOperation) : Wallets :=
  operations.foldl Wallets.after wallets

@[simp]
theorem run_nil (wallets : Wallets) : wallets.run [] = wallets := rfl

@[simp]
theorem run_cons (wallets : Wallets) (operation : WalletOperation)
    (operations : List WalletOperation) :
    wallets.run (operation :: operations) = (wallets.after operation).run operations := rfl

def CardBacked (userId : String) (wallets : Wallets) : Prop :=
  (wallets.cardReserved userId : Int) ≤ wallets.cardBalance userId

def TokenBacked (userId : String) (wallets : Wallets) : Prop :=
  wallets.tokenReserved userId ≤ wallets.lotValue userId

instance (userId : String) (wallets : Wallets) : Decidable (CardBacked userId wallets) :=
  inferInstanceAs (Decidable (_ ≤ _))

instance (userId : String) (wallets : Wallets) : Decidable (TokenBacked userId wallets) :=
  inferInstanceAs (Decidable (_ ≤ _))

variable {wallets : Wallets} {owner : String} {accountId exclude : Option String}
    {releasedMicroUsd : Nat} {hold : Reservation}

theorem capture_hold_reserved (member : hold ∈ wallets.reservations) (selected : Reservation → Bool)
    (onlyActive : ∀ row : Reservation, row.status ≠ .active → selected row = false)
    (captured released : Nat) :
    (wallets.captureHold hold.id captured released).reservations.sumWhere selected
        (·.reservedMicroUsd) +
      Table.share selected (·.reservedMicroUsd) hold =
    wallets.reservations.sumWhere selected (·.reservedMicroUsd) := by
  have traded := Table.sum_where_rewrite_one member (id_mem_reservation_entries.mpr rfl)
    (fun row => row.id == hold.id)
    (fun other _ => by simp [id_mem_reservation_entries])
    (Reservation.capture captured released) (fun _ => rfl) selected (·.reservedMicroUsd)
  have nothing : Table.share selected (·.reservedMicroUsd)
      (hold.capture captured released) = 0 := by
    simp [Table.share, onlyActive (hold.capture captured released) (by simp [Reservation.capture])]
  rw [nothing, Nat.add_zero] at traded
  exact traded

variable {wallets : Wallets}

theorem release_hold_reserved
    (member : hold ∈ wallets.reservations) (active : hold.status = .active)
    (selected : Reservation → Bool)
    (onlyActive : ∀ row : Reservation, row.status ≠ .active → selected row = false)
    (released : Nat) :
    (wallets.releaseHold hold.id released).reservations.sumWhere selected (·.reservedMicroUsd) +
      Table.share selected (·.reservedMicroUsd) hold =
    wallets.reservations.sumWhere selected (·.reservedMicroUsd) := by
  have traded := Table.sum_where_rewrite_one member (id_mem_reservation_entries.mpr rfl)
    (fun row => row.id == hold.id && row.status == .active)
    (by
      intro other present
      rw [id_mem_reservation_entries]
      constructor
      · intro chosen
        simp only [Bool.and_eq_true, beq_iff_eq] at chosen
        exact chosen.1
      · intro same
        have sameHold : other = hold := hold_eq_of_id present member same
        simp [sameHold, active])
    (Reservation.release released) (fun _ => rfl) selected (·.reservedMicroUsd)
  have nothing : Table.share selected (·.reservedMicroUsd) (hold.release released) = 0 := by
    simp [Table.share, onlyActive (hold.release released) (by simp [Reservation.release])]
  rw [nothing, Nat.add_zero] at traded
  exact traded

theorem active_card_hold_only_active (userId : String) (row : Reservation)
    (inactive : row.status ≠ .active) : activeCardHold userId row = false := by
  simp [activeCardHold, inactive]

theorem active_token_hold_only_active (userId : String) (row : Reservation)
    (inactive : row.status ≠ .active) : activeTokenHold userId row = false := by
  simp [activeTokenHold, inactive]

theorem card_available_excluding (member : hold ∈ wallets.reservations)
    (active : hold.status = .active) (card : hold.walletType = .card) :
    wallets.cardAvailable hold.userId (some hold.id) =
      wallets.cardBalance hold.userId - wallets.cardReserved hold.userId +
        hold.reservedMicroUsd := by
  have excluded := Table.sum_where_except_one member (id_mem_reservation_entries.mpr rfl)
    (fun row => some row.id != some hold.id)
    (fun other _ => by simp [id_mem_reservation_entries])
    (activeCardHold hold.userId) (·.reservedMicroUsd)
  have own : Table.share (activeCardHold hold.userId) (·.reservedMicroUsd) hold =
      hold.reservedMicroUsd := by
    simp [Table.share, activeCardHold, active, card]
  rw [own] at excluded
  unfold Wallets.cardAvailable Wallets.cardReserved
  omega

theorem card_available_without_exclusion (wallets : Wallets) (userId : String) :
    wallets.cardAvailable userId none =
      wallets.cardBalance userId - wallets.cardReserved userId := by
  unfold Wallets.cardAvailable Wallets.cardReserved
  congr 3
  funext hold
  simp

variable {referenceId : String} {amountMicroUsd : Int}

theorem card_balance_debited {cardLedger : Table CardLedgerEntry.entries}
    {accountId owner : String} (inserted : wallets.cardLedger.insert
      (cardDebitEntry accountId owner amountMicroUsd referenceId) = some cardLedger)
    (userId : String) :
    cardLedger.sumWhere (fun entry => entry.userId == userId) (·.amountMicroUsd) =
      wallets.cardBalance userId - if owner = userId then amountMicroUsd else 0 := by
  rw [Table.sum_where_insert inserted]
  unfold Wallets.cardBalance
  by_cases same : owner = userId
  · simp [Table.share, cardDebitEntry, same]
    omega
  · simp [Table.share, cardDebitEntry, same]

variable {caller : Nat} {next : Wallets} {owner : String} {walletType : Option WalletType}

/-- What one operation does to the card side of a user: the balance may rise, and
falls only together with the holds it pays or within what they leave over. -/
theorem card_backed_debit {accountId exclude : Option String}
    (ok : managedVeniceDebitWalletLocked caller owner walletType amountMicroUsd referenceId
      accountId exclude wallets = .ok next) (userId : String) :
    next.reservations = wallets.reservations ∧
      (next.cardBalance userId = wallets.cardBalance userId ∨
        (owner = userId ∧ walletType = some .card ∧
          next.cardBalance userId = wallets.cardBalance userId - amountMicroUsd ∧
          amountMicroUsd ≤ wallets.cardAvailable userId exclude)) := by
  obtain ⟨_, card | token⟩ := debit_wallet_locked_ok ok
  · obtain ⟨isCard, debited⟩ := card
    obtain ⟨available, account, cardLedger, inserted, nextEq⟩ := debit_card_ledger_ok debited
    subst nextEq
    refine ⟨rfl, ?_⟩
    have balance := card_balance_debited inserted userId
    by_cases same : owner = userId
    · right
      subst same
      simp only [if_true] at balance
      exact ⟨rfl, isCard, balance, available⟩
    · left
      simp only [same, if_false, sub_zero] at balance
      exact balance
  · obtain ⟨_, _, _, debited⟩ := token
    obtain ⟨_, nextEq⟩ := debit_token_lots_ok debited
    subst nextEq
    exact ⟨rfl, .inl rfl⟩

variable {userId : String}

private theorem card_backed_insert_reservation
    (backed : CardBacked userId wallets) (ok : insertReservation hold wallets = .ok next) :
    CardBacked userId next := by
  obtain ⟨reservations, inserted, nextEq, guarded⟩ := insert_reservation_ok ok
  subst nextEq
  have reserved := Table.sum_where_insert inserted (activeCardHold userId) (·.reservedMicroUsd)
  unfold CardBacked Wallets.cardReserved Wallets.cardBalance at *
  cases counted : activeCardHold userId hold with
  | true =>
    have facts : (hold.userId = userId ∧ hold.status = .active) ∧
        hold.walletType = .card := by
      simpa [activeCardHold] using counted
    obtain ⟨⟨owner, active⟩, card⟩ := facts
    have room := guarded active
    simp only [card, WalletType.isToken, Bool.false_eq_true, if_false, owner] at room
    rw [Table.share_selected counted] at reserved
    dsimp only
    omega
  | false =>
    rw [Table.share_unselected counted, Nat.add_zero] at reserved
    dsimp only
    omega

variable {captureMicroUsd : Int}

private theorem card_backed_capture {reply : CaptureReply} (backed : CardBacked userId wallets)
    (ok : captureManagedVeniceReservation caller owner referenceId captureMicroUsd wallets =
      .ok (next, reply)) :
    CardBacked userId next := by
  obtain ⟨hold, member, holdOwner, _, nonNegative, settled | captured⟩ :=
    capture_reservation_ok ok
  · obtain ⟨_, _, nextEq⟩ := settled
    subst nextEq
    exact backed
  · obtain ⟨active, _, covered, debited, debit, nextEq⟩ := captured
    subst nextEq
    have balance : debited.reservations = wallets.reservations ∧
        (debited.cardBalance userId = wallets.cardBalance userId ∨
          (hold.userId = userId ∧ hold.walletType = .card ∧
            debited.cardBalance userId = wallets.cardBalance userId - captureMicroUsd)) := by
      rcases debit with ⟨_, debitedEq⟩ | debit
      · subst debitedEq
        exact ⟨rfl, .inl rfl⟩
      · obtain ⟨sameHolds, same | ⟨ownerEq, card, balance, _⟩⟩ := card_backed_debit debit userId
        · exact ⟨sameHolds, .inl same⟩
        · exact ⟨sameHolds, .inr ⟨holdOwner.trans ownerEq, by simpa using card, balance⟩⟩
    obtain ⟨sameHolds, balance⟩ := balance
    have memberDebited : hold ∈ debited.reservations := sameHolds ▸ member
    have reserved := capture_hold_reserved memberDebited (activeCardHold userId)
      (active_card_hold_only_active userId) captureMicroUsd.toNat
      (hold.reservedMicroUsd - captureMicroUsd.toNat)
    rw [sameHolds] at reserved
    have sameBalance : (debited.captureHold hold.id captureMicroUsd.toNat
        (hold.reservedMicroUsd - captureMicroUsd.toNat)).cardBalance userId =
          debited.cardBalance userId := rfl
    unfold CardBacked at *
    rw [sameBalance]
    unfold Wallets.cardReserved at *
    rcases balance with same | ⟨ownerEq, card, balance⟩
    · omega
    · have counted : activeCardHold userId hold = true := by
        simp [activeCardHold, ownerEq, active, card]
      rw [Table.share_selected counted] at reserved
      omega

private theorem card_backed_release {userId id : String} {changed : Bool}
    (backed : CardBacked userId wallets)
    (ok : releaseActiveReservation id releasedMicroUsd wallets = .ok (next, changed)) :
    CardBacked userId next := by
  rcases release_active_reservation_ok ok with ⟨_, nextEq⟩ | ⟨_, hold, member, sameId, active, nextEq⟩
  · subst nextEq
    exact backed
  · subst nextEq sameId
    have reserved := release_hold_reserved member active (activeCardHold userId)
      (active_card_hold_only_active userId) releasedMicroUsd
    have sameBalance : (wallets.releaseHold hold.id releasedMicroUsd).cardBalance userId =
        wallets.cardBalance userId := rfl
    unfold CardBacked at *
    rw [sameBalance]
    unfold Wallets.cardReserved at *
    omega

private theorem card_backed_credit {credit : CardCredit} (backed : CardBacked userId wallets)
    (ok : insertCardLedgerEntry credit.entry wallets = .ok next) : CardBacked userId next := by
  obtain ⟨cardLedger, inserted, nextEq⟩ := insert_card_ledger_entry_ok ok
  subst nextEq
  have balance := Table.sum_where_insert inserted
    (fun entry => entry.userId == userId) (·.amountMicroUsd)
  have nonNegative : 0 ≤ Table.share (fun entry => entry.userId == userId)
      (·.amountMicroUsd) credit.entry := by
    by_cases same : credit.userId = userId <;> simp [Table.share, CardCredit.entry, same]
  unfold CardBacked Wallets.cardReserved Wallets.cardBalance at *
  dsimp only
  omega

private theorem map_fst_ok {Left Right Failure : Type} {result : Except Failure (Left × Right)}
    {left : Left} (ok : result.map Prod.fst = .ok left) : ∃ right, result = .ok (left, right) := by
  cases result with
  | error failure => cases ok
  | ok pair =>
    refine ⟨pair.2, ?_⟩
    have same : pair.1 = left := by simpa [Except.map] using ok
    rw [← same]

theorem card_backed_after (userId : String) (backed : CardBacked userId wallets)
    (operation : WalletOperation) : CardBacked userId (wallets.after operation) := by
  unfold Wallets.after
  cases executed : wallets.execute operation with
  | error failure => exact backed
  | ok next =>
    cases operation with
    | insertReservation hold => exact card_backed_insert_reservation backed executed
    | capture caller owner referenceId captureMicroUsd =>
      obtain ⟨reply, ok⟩ := map_fst_ok executed
      exact card_backed_capture backed ok
    | release id releasedMicroUsd =>
      obtain ⟨changed, ok⟩ := map_fst_ok executed
      exact card_backed_release backed ok
    | debit caller owner walletType amountMicroUsd referenceId =>
      obtain ⟨sameHolds, balance⟩ := card_backed_debit executed userId
      have sameReserved : next.cardReserved userId = wallets.cardReserved userId := by
        rw [Wallets.cardReserved, sameHolds, Wallets.cardReserved]
      unfold CardBacked at backed
      change (next.cardReserved userId : Int) ≤ next.cardBalance userId
      rcases balance with same | ⟨ownerEq, _, balance, available⟩
      · rw [sameReserved, same]
        exact backed
      · rw [card_available_without_exclusion] at available
        omega
    | creditCard credit => exact card_backed_credit backed executed
    | depositLot lot =>
      obtain ⟨tokenLots, _, nextEq⟩ := insert_token_lot_ok executed
      subst nextEq
      exact backed

theorem card_backed_run (userId : String) (operations : List WalletOperation)
    (backed : CardBacked userId wallets) : CardBacked userId (wallets.run operations) := by
  induction operations generalizing wallets with
  | nil => exact backed
  | cons operation operations ih => exact ih (card_backed_after userId backed operation)

private theorem reserved_includes {counts : Reservation → Bool}
    (member : hold ∈ wallets.reservations) (counted : counts hold = true) :
    hold.reservedMicroUsd ≤ wallets.reservations.sumWhere counts (·.reservedMicroUsd) := by
  have excluded := Table.sum_where_except_one member (id_mem_reservation_entries.mpr rfl)
    (fun row => some row.id != some hold.id)
    (fun other _ => by simp [id_mem_reservation_entries]) counts (·.reservedMicroUsd)
  rw [Table.share_selected counted] at excluded
  omega

theorem card_capture_covered (backed : CardBacked hold.userId wallets)
    (member : hold ∈ wallets.reservations) (active : hold.status = .active)
    (card : hold.walletType = .card) (nonNegative : 0 ≤ captureMicroUsd)
    (covered : captureMicroUsd ≤ hold.reservedMicroUsd) :
    captureManagedVeniceReservation caller hold.userId hold.referenceId captureMicroUsd
      wallets ≠ .error .insufficientBalance := by
  intro raised
  obtain ⟨positive, debit⟩ :=
    capture_reservation_error member active nonNegative covered raised
  have available := card_available_excluding member active card
  have reserved : hold.reservedMicroUsd ≤ wallets.cardReserved hold.userId :=
    reserved_includes member (by simp [activeCardHold, active, card])
  have refused := debit_wallet_locked_refused debit
  simp only [card, WalletType.isToken, Bool.false_eq_true, if_false] at refused
  unfold CardBacked at backed
  rcases debit_card_ledger_refused refused with short | overdrawn
  · omega
  · omega

/-- Over every run of the wallet statements the card ledger of a user covers the
user's active card holds, and no capture of such a hold within its reserved amount
is refused for its balance. -/
theorem card_wallet_backs_its_holds (userId : String) (wallets : Wallets)
    (operations : List WalletOperation) (backed : CardBacked userId wallets) :
    CardBacked userId (wallets.run operations) ∧
      ∀ hold, hold ∈ (wallets.run operations).reservations →
        hold.userId = userId → hold.status = .active → hold.walletType = .card →
          ∀ caller captureMicroUsd, 0 ≤ captureMicroUsd →
            captureMicroUsd ≤ (hold.reservedMicroUsd : Int) →
              captureManagedVeniceReservation caller userId hold.referenceId captureMicroUsd
                (wallets.run operations) ≠ .error .insufficientBalance := by
  have reached := card_backed_run userId operations backed
  refine ⟨reached, ?_⟩
  intro hold member owner active card caller captureMicroUsd nonNegative covered
  subst owner
  exact card_capture_covered reached member active card nonNegative covered

def newHold (id userId : String) (walletType : WalletType) (referenceId : String)
    (reservedMicroUsd : Nat) : Reservation :=
  { id
    accountId := "account"
    userId
    walletType
    status := .active
    referenceId
    estimatedCostMicroUsd := reservedMicroUsd
    reservedMicroUsd
    capturedMicroUsd := 0
    releasedMicroUsd := 0
    model := none
    endpoint := "/api/v1/chat/completions"
    expiresAt := none
    metadata := {} }

def cardRequests : List WalletOperation :=
  [.creditCard
      { accountId := "account", userId := "user", amountMicroUsd := 100, source := .stripe
        reason := .stripeTopup, referenceId := "session" },
    .insertReservation (newHold "first" "user" .card "first-request" 40),
    .insertReservation (newHold "second" "user" .card "second-request" 50),
    .capture 0 "user" "first-request" 40,
    .debit 0 "user" (some .card) 30 "first-request:overage"]

theorem card_wallet_backs_its_holds_overlapping :
    CardBacked "user" (Wallets.empty.run cardRequests) ∧
      ∀ hold, hold ∈ (Wallets.empty.run cardRequests).reservations →
        hold.userId = "user" → hold.status = .active → hold.walletType = .card →
          ∀ caller captureMicroUsd, 0 ≤ captureMicroUsd →
            captureMicroUsd ≤ (hold.reservedMicroUsd : Int) →
              captureManagedVeniceReservation caller "user" hold.referenceId captureMicroUsd
                (Wallets.empty.run cardRequests) ≠ .error .insufficientBalance :=
  card_wallet_backs_its_holds "user" Wallets.empty cardRequests (by decide)

theorem token_backed_debit {accountId exclude : Option String}
    (ok : managedVeniceDebitWalletLocked caller owner walletType amountMicroUsd referenceId
      accountId exclude wallets = .ok next) (userId : String) :
    next.reservations = wallets.reservations ∧
      ((walletType = some .card ∧ next.lotValue userId = wallets.lotValue userId) ∨
        (∃ token, walletType = some token ∧ token.isToken = true ∧
          amountMicroUsd.toNat ≤ wallets.lotValue owner ∧
          next.lotValue userId =
            if userId = owner then wallets.lotValue userId - amountMicroUsd.toNat
            else wallets.lotValue userId)) := by
  obtain ⟨_, card | token⟩ := debit_wallet_locked_ok ok
  · obtain ⟨isCard, debited⟩ := card
    obtain ⟨_, account, cardLedger, _, nextEq⟩ := debit_card_ledger_ok debited
    subst nextEq
    exact ⟨rfl, .inl ⟨isCard, rfl⟩⟩
  · obtain ⟨token, isType, isToken, debited⟩ := token
    obtain ⟨covered, nextEq⟩ := debit_token_lots_ok debited
    subst nextEq
    refine ⟨rfl, .inr ⟨token, isType, isToken, covered, ?_⟩⟩
    let debit : Debit :=
      { caller, userId := owner, walletType := token, amountMicroUsd := amountMicroUsd.toNat,
        referenceId }
    have coveredDebit : debit.amountMicroUsd ≤ wallets.lotValue debit.userId := covered
    exact draw_lots_value coveredDebit userId

section

variable {userId : String} {wallets : Wallets} (backed : TokenBacked userId wallets)
include backed

private theorem token_backed_insert_reservation (ok : insertReservation hold wallets = .ok next) :
    TokenBacked userId next := by
  obtain ⟨reservations, inserted, nextEq, guarded⟩ := insert_reservation_ok ok
  subst nextEq
  have reserved := Table.sum_where_insert inserted (activeTokenHold userId) (·.reservedMicroUsd)
  unfold TokenBacked Wallets.tokenReserved Wallets.lotValue at *
  cases counted : activeTokenHold userId hold with
  | true =>
    have facts : (hold.userId = userId ∧ hold.status = .active) ∧
        hold.walletType.isToken = true := by
      simpa [activeTokenHold] using counted
    obtain ⟨⟨owner, active⟩, token⟩ := facts
    have room := guarded active
    simp only [token, if_true, owner] at room
    rw [Table.share_selected counted] at reserved
    dsimp only
    omega
  | false =>
    rw [Table.share_unselected counted, Nat.add_zero] at reserved
    dsimp only
    omega

private theorem token_backed_capture {reply : CaptureReply}
    (ok : captureManagedVeniceReservation caller owner referenceId captureMicroUsd wallets =
      .ok (next, reply)) :
    TokenBacked userId next := by
  obtain ⟨hold, member, holdOwner, _, nonNegative, settled | captured⟩ :=
    capture_reservation_ok ok
  · obtain ⟨_, _, nextEq⟩ := settled
    subst nextEq
    exact backed
  · obtain ⟨active, _, covered, debited, debit, nextEq⟩ := captured
    subst nextEq
    have drawn : debited.reservations = wallets.reservations ∧
        (debited.lotValue userId = wallets.lotValue userId ∨
          (hold.userId = userId ∧ hold.walletType.isToken = true ∧
            debited.lotValue userId = wallets.lotValue userId - captureMicroUsd.toNat)) := by
      rcases debit with ⟨_, debitedEq⟩ | debit
      · subst debitedEq
        exact ⟨rfl, .inl rfl⟩
      · obtain ⟨sameHolds, ⟨_, same⟩ | ⟨token, isType, isToken, _, value⟩⟩ :=
          token_backed_debit debit userId
        · exact ⟨sameHolds, .inl same⟩
        · refine ⟨sameHolds, ?_⟩
          have holdToken : hold.walletType.isToken = true := by
            rw [Option.some.inj isType]
            exact isToken
          by_cases own : userId = owner
          · rw [if_pos own] at value
            exact .inr ⟨holdOwner.trans own.symm, holdToken, value⟩
          · rw [if_neg own] at value
            exact .inl value
    obtain ⟨sameHolds, value⟩ := drawn
    have memberDebited : hold ∈ debited.reservations := sameHolds ▸ member
    have reserved := capture_hold_reserved memberDebited (activeTokenHold userId)
      (active_token_hold_only_active userId) captureMicroUsd.toNat
      (hold.reservedMicroUsd - captureMicroUsd.toNat)
    rw [sameHolds] at reserved
    have sameValue : (debited.captureHold hold.id captureMicroUsd.toNat
        (hold.reservedMicroUsd - captureMicroUsd.toNat)).lotValue userId =
          debited.lotValue userId := rfl
    unfold TokenBacked at *
    rw [sameValue]
    unfold Wallets.tokenReserved at *
    rcases value with same | ⟨ownerEq, token, value⟩
    · omega
    · have counted : activeTokenHold userId hold = true := by
        simp [activeTokenHold, ownerEq, active, token]
      rw [Table.share_selected counted] at reserved
      omega

private theorem token_backed_release {id : String} {changed : Bool}
    (ok : releaseActiveReservation id releasedMicroUsd wallets = .ok (next, changed)) :
    TokenBacked userId next := by
  rcases release_active_reservation_ok ok with ⟨_, nextEq⟩ | ⟨_, hold, member, sameId, active, nextEq⟩
  · subst nextEq
    exact backed
  · subst nextEq sameId
    have reserved := release_hold_reserved member active (activeTokenHold userId)
      (active_token_hold_only_active userId) releasedMicroUsd
    have sameValue : (wallets.releaseHold hold.id releasedMicroUsd).lotValue userId =
        wallets.lotValue userId := rfl
    unfold TokenBacked at *
    rw [sameValue]
    unfold Wallets.tokenReserved at *
    omega

private theorem token_backed_deposit {lot : TokenLot}
    (ok : insertTokenLot lot wallets = .ok next) :
    TokenBacked userId next := by
  obtain ⟨tokenLots, inserted, nextEq⟩ := insert_token_lot_ok ok
  subst nextEq
  have value := Table.sum_where_insert inserted (spendableLot userId) (·.remainingValueMicroUsd)
  unfold TokenBacked Wallets.tokenReserved Wallets.lotValue at *
  dsimp only
  omega

/-- A debit with no hold behind it that the lots can pay stays within what the
active token holds of `userId` leave over.  Operations of any other kind, and
debits the database refuses anyway, always do. -/
def StaysWithinHeadroom (userId : String) (wallets : Wallets) : WalletOperation → Prop
  | .debit _ owner (some walletType) amountMicroUsd referenceId =>
    owner = userId → walletType.isToken = true →
      isBlank owner = false → isBlank referenceId = false → 0 < amountMicroUsd →
        amountMicroUsd.toNat ≤ wallets.lotValue userId →
          amountMicroUsd.toNat + wallets.tokenReserved userId ≤ wallets.lotValue userId
  | _ => True

omit backed in
private theorem stays_within_headroom_of_raised {owner : String}
    {walletType : Option WalletType} {failure : SqlError}
    (raised : debitManagedVeniceWallet caller owner walletType amountMicroUsd referenceId
      wallets = .error failure) :
    StaysWithinHeadroom userId wallets
      (.debit caller owner walletType amountMicroUsd referenceId) := by
  cases walletType with
  | none => trivial
  | some walletType =>
    intro sameOwner token userNamed referenceNamed positive covered
    exfalso
    subst sameOwner
    unfold debitManagedVeniceWallet managedVeniceDebitWalletLocked at raised
    simp only [userNamed, referenceNamed, Bool.false_eq_true, if_false,
      not_le.mpr positive] at raised
    have refused : debitTokenLots caller owner walletType amountMicroUsd referenceId wallets =
        .error failure := by
      cases walletType with
      | hermesos => exact raised
      | hivra => exact raised
      | card => cases token
    obtain ⟨_, short⟩ := debit_token_lots_refused refused
    omega

private theorem token_backed_debit_iff 
    (ok : debitManagedVeniceWallet caller owner walletType amountMicroUsd referenceId wallets =
      .ok next) :
    TokenBacked userId next ↔
      StaysWithinHeadroom userId wallets
        (.debit caller owner walletType amountMicroUsd referenceId) := by
  obtain ⟨positive, _⟩ := debit_wallet_locked_ok ok
  obtain ⟨sameHolds, value⟩ := token_backed_debit ok userId
  have sameReserved : next.tokenReserved userId = wallets.tokenReserved userId := by
    rw [Wallets.tokenReserved, sameHolds, Wallets.tokenReserved]
  unfold TokenBacked at backed ⊢
  rw [sameReserved]
  rcases value with ⟨isCard, same⟩ | ⟨token, isType, isToken, covered, value⟩
  · subst isCard
    rw [same]
    refine ⟨fun _ => ?_, fun _ => backed⟩
    intro _ token
    cases token
  · subst isType
    by_cases own : userId = owner
    · rw [if_pos own] at value
      subst own
      constructor
      · intro backedAfter _ _ _ _ _ _
        omega
      · intro within
        have valid : isBlank userId = false ∧ isBlank referenceId = false := by
          unfold debitManagedVeniceWallet managedVeniceDebitWalletLocked at ok
          split_ifs at ok with blankUser blankReference
          exact ⟨by simpa using blankUser, by simpa using blankReference⟩
        have room := within rfl isToken valid.1 valid.2 positive covered
        omega
    · rw [if_neg own] at value
      rw [value]
      refine ⟨fun _ => ?_, fun _ => backed⟩
      intro same
      exact absurd same.symm own

end

theorem token_backed_after_iff (userId : String) (backed : TokenBacked userId wallets)
    (operation : WalletOperation) : TokenBacked userId (wallets.after operation) ↔
      StaysWithinHeadroom userId wallets operation := by
  unfold Wallets.after
  cases executed : wallets.execute operation with
  | error failure =>
    refine ⟨fun _ => ?_, fun _ => backed⟩
    cases operation with
    | debit caller owner walletType amountMicroUsd referenceId =>
      exact stays_within_headroom_of_raised executed
    | _ => trivial
  | ok next =>
    cases operation with
    | insertReservation hold =>
      exact ⟨fun _ => trivial, fun _ => token_backed_insert_reservation backed executed⟩
    | capture caller owner referenceId captureMicroUsd =>
      obtain ⟨reply, ok⟩ := map_fst_ok executed
      exact ⟨fun _ => trivial, fun _ => token_backed_capture backed ok⟩
    | release id releasedMicroUsd =>
      obtain ⟨changed, ok⟩ := map_fst_ok executed
      exact ⟨fun _ => trivial, fun _ => token_backed_release backed ok⟩
    | debit caller owner walletType amountMicroUsd referenceId =>
      exact token_backed_debit_iff backed executed
    | creditCard credit =>
      obtain ⟨cardLedger, _, nextEq⟩ := insert_card_ledger_entry_ok executed
      subst nextEq
      exact ⟨fun _ => trivial, fun _ => backed⟩
    | depositLot lot =>
      exact ⟨fun _ => trivial, fun _ => token_backed_deposit backed executed⟩

theorem token_reserved_includes (member : hold ∈ wallets.reservations)
    (active : hold.status = .active) (token : hold.walletType.isToken = true) :
    hold.reservedMicroUsd ≤ wallets.tokenReserved hold.userId :=
  reserved_includes member (by simp [activeTokenHold, active, token])

/-- What the token wallet owes the holds of a user: the lots cover them all, and
no capture of one within its reserved amount is refused for its balance. -/
def TokenHoldsCovered (userId : String) (wallets : Wallets) : Prop :=
  TokenBacked userId wallets ∧
    ∀ hold, hold ∈ wallets.reservations → hold.userId = userId → hold.status = .active →
      hold.walletType.isToken = true →
        ∀ caller captureMicroUsd, 0 ≤ captureMicroUsd →
          captureMicroUsd ≤ (hold.reservedMicroUsd : Int) →
            captureManagedVeniceReservation caller userId hold.referenceId captureMicroUsd
              wallets ≠ .error .insufficientBalance

theorem token_holds_covered_of_backed (backed : TokenBacked userId wallets) :
    TokenHoldsCovered userId wallets := by
  refine ⟨backed, ?_⟩
  intro hold member owner active token caller captureMicroUsd nonNegative covered raised
  subst owner
  obtain ⟨positive, debit⟩ :=
    capture_reservation_error member active nonNegative covered raised
  have refused := debit_wallet_locked_refused debit
  simp only [token, if_true] at refused
  obtain ⟨_, short⟩ := debit_token_lots_refused refused
  have reserved := token_reserved_includes member active token
  unfold TokenBacked at backed
  omega

def RunStaysWithinHeadroom (userId : String) (wallets : Wallets)
    (operations : List WalletOperation) : Prop :=
  Meets Wallets.after (StaysWithinHeadroom userId) wallets operations

/-- The token wallet covers its holds in every state of a run exactly when every
debit with no hold behind it stays within what the active token holds leave
over. -/
theorem token_wallet_backs_its_holds_iff (userId : String) (wallets : Wallets)
    (operations : List WalletOperation) (backed : TokenBacked userId wallets) :
    (∀ done, done <+: operations → TokenHoldsCovered userId (wallets.run done)) ↔
      RunStaysWithinHeadroom userId wallets operations := by
  have covered (wallets : Wallets) : TokenHoldsCovered userId wallets ↔ TokenBacked userId wallets :=
    ⟨And.left, token_holds_covered_of_backed⟩
  simp only [covered]
  apply always_iff_meets operations backed
  intro wallets operation backed
  exact token_backed_after_iff userId backed operation

def newDepositLot (id userId : String) (valueMicroUsd : Nat) : TokenLot :=
  { id
    userId
    quoteId := some id
    source := .hermesosDeposit
    tokenAmountRaw := valueMicroUsd
    remainingTokenAmountRaw := valueMicroUsd
    originalValueMicroUsd := valueMicroUsd
    remainingValueMicroUsd := valueMicroUsd
    transactionHash := some id
    status := .active
    createdAt := 0 }

def tokenRequests : List WalletOperation :=
  [.depositLot (newDepositLot "lot" "user" 100),
    .insertReservation (newHold "first" "user" .hermesos "first-request" 50),
    .insertReservation (newHold "second" "user" .hermesos "second-request" 50),
    .capture 0 "user" "first-request" 50]

theorem token_wallet_backs_its_holds_iff_overlapping :
    (∀ done, done <+: tokenRequests → TokenHoldsCovered "user" (Wallets.empty.run done)) ↔
      RunStaysWithinHeadroom "user" Wallets.empty tokenRequests :=
  token_wallet_backs_its_holds_iff "user" Wallets.empty tokenRequests (by decide)

/-- The overage of the first request is paid from lots the second request's hold
counts on, and the second capture is then refused. -/
theorem overage_spends_another_holds_lots : TokenBacked "user" Wallets.empty ∧
      ¬ TokenBacked "user" (Wallets.empty.run
        (tokenRequests ++ [.debit 0 "user" (some .hermesos) 30 "first-request:overage"])) ∧
      captureManagedVeniceReservation 0 "user" "second-request" 50 (Wallets.empty.run
        (tokenRequests ++ [.debit 0 "user" (some .hermesos) 30 "first-request:overage"])) =
          .error .insufficientBalance := by
  decide

end Hivra.ManagedVenice
