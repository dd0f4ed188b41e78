import Hivra.ManagedVenice.WalletSpecs

/-!
# A token debit is drawn oldest first

What a debit of a token wallet does to every single lot.  The loop over the lots
is first read row by row: `lotAfter` is what becomes of one row, `touchedLots`
the part of the queue the loop comes to.  One induction over the queue then
settles both, and the statements about the whole table are read off it.
-/

namespace Hivra.ManagedVenice

open Hivra.Library

def lotAfter : List TokenLot → Nat → TokenLot → TokenLot
  | [], _, row => row
  | lot :: queue, owed, row =>
    if owed = 0 then row
    else
      let take := min lot.remainingValueMicroUsd owed
      let left := lot.remainingValueMicroUsd - take
      lotAfter queue (owed - take) (if row.id == lot.id then spendLot lot left row else row)

def touchedLots : List TokenLot → Nat → List TokenLot
  | [], _ => []
  | lot :: queue, owed =>
    if owed = 0 then []
    else lot :: touchedLots queue (owed - min lot.remainingValueMicroUsd owed)

theorem debit_lots_rows (queue : List TokenLot) (owed : Nat) (lots : Table TokenLot.entries) :
    (debitLots queue owed lots).1.rows = lots.rows.map (lotAfter queue owed) := by
  induction queue generalizing owed lots with
  | nil => simp [debitLots, lotAfter]
  | cons lot queue ih =>
    by_cases paid : owed = 0
    · simp [debitLots, lotAfter, paid]
    · have later := ih (owed - min lot.remainingValueMicroUsd owed)
        (lots.rewrite (fun row => row.id == lot.id)
          (spendLot lot (lot.remainingValueMicroUsd - min lot.remainingValueMicroUsd owed))
          (fun _ => rfl))
      simp only [debitLots, paid, if_false, later]
      simp only [Table.rewrite, List.map_map]
      apply List.map_congr_left
      intro row _
      simp [lotAfter, paid]

theorem lot_after_unnamed (queue : List TokenLot) (owed : Nat) {row : TokenLot}
    (unnamed : ∀ lot ∈ queue, lot.id ≠ row.id) : lotAfter queue owed row = row := by
  induction queue generalizing owed with
  | nil => rfl
  | cons lot queue ih =>
    have apart : ¬ row.id = lot.id := fun same => unnamed lot List.mem_cons_self same.symm
    have later := ih (owed - min lot.remainingValueMicroUsd owed)
      (fun other present => unnamed other (List.mem_cons_of_mem lot present))
    by_cases paid : owed = 0
    · simp [lotAfter, paid]
    · simp [lotAfter, paid, apart, later]

theorem touched_lots_prefix (queue : List TokenLot) (owed : Nat) :
    ∃ untouched, queue = touchedLots queue owed ++ untouched := by
  induction queue generalizing owed with
  | nil => exact ⟨[], rfl⟩
  | cons lot queue ih =>
    by_cases paid : owed = 0
    · exact ⟨lot :: queue, by simp [touchedLots, paid]⟩
    · have ⟨untouched, split⟩ := ih (owed - min lot.remainingValueMicroUsd owed)
      exact ⟨untouched, by simpa [touchedLots, paid] using split⟩

variable {lot : TokenLot}

/-- How much of a lot the loop leaves, and that it leaves a touched lot as
`spendLot` does.  The queue has distinct ids, so a row is spent once. -/
theorem lot_after_touched (queue : List TokenLot) (owed : Nat)
    (distinct : (queue.map TokenLot.id).Nodup)
    (worth : ∀ lot ∈ queue, 0 < lot.remainingValueMicroUsd) {lot : TokenLot}
    (touched : lot ∈ touchedLots queue owed) :
    ∃ left, left < lot.remainingValueMicroUsd ∧ lotAfter queue owed lot = spendLot lot left lot := by
  induction queue generalizing owed with
  | nil => simp [touchedLots] at touched
  | cons head queue ih =>
    have ⟨fresh, distinct⟩ := List.nodup_cons.mp distinct
    have ⟨untouched, split⟩ :=
      touched_lots_prefix queue (owed - min head.remainingValueMicroUsd owed)
    by_cases paid : owed = 0
    · simp [touchedLots, paid] at touched
    · simp only [touchedLots, paid, if_false] at touched
      cases List.mem_cons.mp touched with
      | inl same =>
        subst same
        have headWorth := worth lot List.mem_cons_self
        apply Exists.intro
          (lot.remainingValueMicroUsd - min lot.remainingValueMicroUsd owed)
        constructor
        · omega
        · have unnamed : ∀ other ∈ queue,
              other.id ≠ (spendLot lot
                (lot.remainingValueMicroUsd - min lot.remainingValueMicroUsd owed) lot).id := by
            intro other present same
            have sameId : other.id = lot.id := same
            exact fresh (sameId ▸ List.mem_map_of_mem present)
          simp [lotAfter, paid, lot_after_unnamed queue _ unnamed]
      | inr later =>
        have present : lot ∈ queue := by
          rw [split]
          exact List.mem_append_left untouched later
        have apart : ¬ lot.id = head.id := fun same =>
          fresh (same ▸ List.mem_map_of_mem present)
        have ⟨left, less, after⟩ := ih (owed - min head.remainingValueMicroUsd owed) distinct
          (fun other held => worth other (List.mem_cons_of_mem head held)) later
        exact ⟨left, less, by simp [lotAfter, paid, apart, after]⟩

theorem lot_after_untouched (queue : List TokenLot) (owed : Nat)
    (distinct : (queue.map TokenLot.id).Nodup) (present : lot ∈ queue)
    (untouched : lot ∉ touchedLots queue owed) : lotAfter queue owed lot = lot := by
  induction queue generalizing owed with
  | nil => simp at present
  | cons head queue ih =>
    have ⟨fresh, distinct⟩ := List.nodup_cons.mp distinct
    by_cases paid : owed = 0
    · simp [lotAfter, paid]
    · simp only [touchedLots, paid, if_false, List.mem_cons, not_or] at untouched
      have held : lot ∈ queue := (List.mem_cons.mp present).resolve_left untouched.1
      have apart : ¬ lot.id = head.id := fun same => fresh (same ▸ List.mem_map_of_mem held)
      have later := ih (owed - min head.remainingValueMicroUsd owed) distinct held untouched.2
      simp [lotAfter, paid, apart, later]

theorem touched_lots_emptied (queue : List TokenLot) (owed : Nat)
    (distinct : (queue.map TokenLot.id).Nodup) (passed : lot ∈ (touchedLots queue owed).dropLast) :
    (lotAfter queue owed lot).remainingValueMicroUsd = 0 := by
  induction queue generalizing owed with
  | nil => simp [touchedLots] at passed
  | cons head queue ih =>
    have ⟨fresh, distinct⟩ := List.nodup_cons.mp distinct
    by_cases paid : owed = 0
    · simp [touchedLots, paid] at passed
    · set remaining := owed - min head.remainingValueMicroUsd owed with remainingEq
      have ⟨untouched, split⟩ := touched_lots_prefix queue remaining
      simp only [touchedLots, paid, if_false, ← remainingEq] at passed
      by_cases last : touchedLots queue remaining = []
      · simp [last] at passed
      · rw [List.dropLast_cons_of_ne_nil last] at passed
        cases List.mem_cons.mp passed with
        | inl same =>
          subst same
          have owes : remaining ≠ 0 := by
            intro none
            apply last
            cases queue <;> simp [touchedLots, none]
          have emptied : lot.remainingValueMicroUsd -
              min lot.remainingValueMicroUsd owed = 0 := by omega
          have unnamed : ∀ other ∈ queue, other.id ≠ (spendLot lot 0 lot).id := by
            intro other present same
            have sameId : other.id = lot.id := same
            exact fresh (sameId ▸ List.mem_map_of_mem present)
          simp only [lotAfter, paid, if_false, emptied, beq_self_eq_true, if_true]
          rw [lot_after_unnamed queue _ unnamed]
          rfl
        | inr later =>
          have present : lot ∈ queue := by
            rw [split]
            exact List.mem_append_left untouched (List.dropLast_subset _ later)
          have apart : ¬ lot.id = head.id := fun same =>
            fresh (same ▸ List.mem_map_of_mem present)
          have after := ih remaining distinct later
          simpa [lotAfter, paid, apart, remainingEq] using after

theorem spend_lot_tokens_le {left : Nat} (less : left < lot.remainingValueMicroUsd) :
    (spendLot lot left lot).remainingTokenAmountRaw ≤ lot.remainingTokenAmountRaw := by
  by_cases depleted : left = 0
  · simp [spendLot, depleted]
  · simp only [spendLot, depleted, if_false]
    apply Nat.div_le_of_le_mul
    calc
      lot.remainingTokenAmountRaw * left ≤
          lot.remainingTokenAmountRaw * lot.remainingValueMicroUsd :=
        Nat.mul_le_mul_left _ less.le
      _ = lot.remainingValueMicroUsd * lot.remainingTokenAmountRaw := Nat.mul_comm _ _

theorem spend_lot_backing_le (lot : TokenLot) (left : Nat) :
    (spendLot lot left lot).remainingTokenAmountRaw * lot.remainingValueMicroUsd ≤
      lot.remainingTokenAmountRaw * left := by
  by_cases depleted : left = 0
  · simp [spendLot, depleted]
  · simp only [spendLot, depleted, if_false]
    exact Nat.div_mul_le_self _ _

/-- What a debit of `amount` does to the lots, as a change of every row. -/
structure DrawnOldestFirst
    (userId : String) (amount : Nat)
    (before after : Table TokenLot.entries) (change : TokenLot → TokenLot) : Prop where
  rows : after.rows = before.rows.map change
  /-- The user's active total falls by exactly the amount. -/
  total :
    after.sumWhere (spendableLot userId) (·.remainingValueMicroUsd) + amount =
      before.sumWhere (spendableLot userId) (·.remainingValueMicroUsd)
  /-- The touched lots are a prefix of the queue, emptied but for the last. -/
  touched :
    ∃ touched untouched, lotsOldestFirst userId before = touched ++ untouched ∧
      (∀ lot ∈ before, change lot ≠ lot ↔ lot ∈ touched) ∧
      (∀ lot ∈ touched, (change lot).remainingValueMicroUsd < lot.remainingValueMicroUsd) ∧
      ∀ lot ∈ touched.dropLast, (change lot).remainingValueMicroUsd = 0
  /-- Only the value left, the tokens left and the status of a lot change. -/
  columns :
    ∀ lot ∈ before, change lot =
      { lot with
        remainingValueMicroUsd := (change lot).remainingValueMicroUsd
        remainingTokenAmountRaw := (change lot).remainingTokenAmountRaw
        status := (change lot).status }
  /-- A lot becomes depleted exactly when its value reaches zero. -/
  depleted :
    ∀ lot ∈ before,
      (lot.status ≠ .depleted ∧ (change lot).status = .depleted ↔
        0 < lot.remainingValueMicroUsd ∧ (change lot).remainingValueMicroUsd = 0) ∧
      (lot.status ≠ .depleted ∧ (change lot).status = .depleted →
        (change lot).remainingTokenAmountRaw = 0) ∧
      ((change lot).status = lot.status ∨ (change lot).status = .depleted)
  /-- The tokens shrink with the value, rounded down. -/
  backing :
    ∀ lot ∈ before,
      (change lot).remainingTokenAmountRaw ≤ lot.remainingTokenAmountRaw ∧
      (change lot).remainingTokenAmountRaw * lot.remainingValueMicroUsd ≤
        lot.remainingTokenAmountRaw * (change lot).remainingValueMicroUsd
  /-- A lot of another user, or one that is not active, is left alone. -/
  others : ∀ lot ∈ before, spendableLot userId lot = false → change lot = lot

theorem lots_oldest_first_worth {userId : String} {lots : Table TokenLot.entries}
    (member : lot ∈ lotsOldestFirst userId lots) : 0 < lot.remainingValueMicroUsd := by
  have selected := (List.perm_insertionSort notNewer _).mem_iff.mp member
  have both : spendableLot userId lot = true ∧ 0 < lot.remainingValueMicroUsd := by
    simpa using (List.mem_filter.mp selected).2
  exact both.2

theorem lot_after_cases (userId : String) (lots : Table TokenLot.entries) (owed : Nat)
    (member : lot ∈ lots) : (lot ∈ touchedLots (lotsOldestFirst userId lots) owed ∧
        spendableLot userId lot = true ∧
        ∃ left, left < lot.remainingValueMicroUsd ∧
          lotAfter (lotsOldestFirst userId lots) owed lot = spendLot lot left lot) ∨
      (lot ∉ touchedLots (lotsOldestFirst userId lots) owed ∧
        lotAfter (lotsOldestFirst userId lots) owed lot = lot) := by
  have distinct := lots_oldest_first_distinct userId lots
  have ⟨untouched, split⟩ := touched_lots_prefix (lotsOldestFirst userId lots) owed
  by_cases touched : lot ∈ touchedLots (lotsOldestFirst userId lots) owed
  · have queued : lot ∈ lotsOldestFirst userId lots := by
      rw [split]
      exact List.mem_append_left untouched touched
    exact .inl ⟨touched, (lots_oldest_first_members queued).2,
      lot_after_touched _ owed distinct (fun _ held => lots_oldest_first_worth held) touched⟩
  · apply Or.inr
    constructor
    · exact touched
    · by_cases queued : lot ∈ lotsOldestFirst userId lots
      · exact lot_after_untouched _ owed distinct queued touched
      · apply lot_after_unnamed
        intro other held same
        have otherMember := (lots_oldest_first_members held).1
        have sameRow : other = lot :=
          Table.eq_of_shared_entry otherMember member (id_mem_lot_entries.mpr same)
            (id_mem_lot_entries.mpr rfl)
        exact queued (sameRow ▸ held)

theorem debit_lots_drawn (userId : String) (amount : Nat) (lots : Table TokenLot.entries)
    (covered : amount ≤ lots.sumWhere (spendableLot userId) (·.remainingValueMicroUsd)) :
    DrawnOldestFirst userId amount lots
      (debitLots (lotsOldestFirst userId lots) amount lots).1
      (lotAfter (lotsOldestFirst userId lots) amount) := by
  obtain ⟨owes, sum, _⟩ := debit_lots_spec (lotsOldestFirst userId lots) amount lots
    (fun _ member => lots_oldest_first_members member)
    (lots_oldest_first_distinct userId lots)
  rw [lots_oldest_first_value] at owes
  obtain ⟨untouched, split⟩ := touched_lots_prefix (lotsOldestFirst userId lots) amount
  have spent (left : Nat) (lot : TokenLot) (less : left < lot.remainingValueMicroUsd) :
      spendLot lot left lot ≠ lot := by
    intro same
    have value : left = lot.remainingValueMicroUsd := congrArg TokenLot.remainingValueMicroUsd same
    omega
  constructor
  · exact debit_lots_rows _ amount lots
  · omega
  · apply Exists.intro (touchedLots (lotsOldestFirst userId lots) amount)
    apply Exists.intro untouched
    constructor
    · exact split
    constructor
    · intro lot member
      cases lot_after_cases userId lots amount member with
      | inl drawn =>
        obtain ⟨touched, _, left, less, after⟩ := drawn
        simp [touched, after, spent left lot less]
      | inr kept => simp [kept.1, kept.2]
    constructor
    · intro lot touched
      obtain ⟨left, less, after⟩ := lot_after_touched _ amount
        (lots_oldest_first_distinct userId lots) (fun _ held => lots_oldest_first_worth held)
        touched
      rw [after]
      exact less
    · intro lot passed
      exact touched_lots_emptied _ amount (lots_oldest_first_distinct userId lots) passed
  · intro lot member
    cases lot_after_cases userId lots amount member with
    | inl drawn =>
      obtain ⟨_, _, left, _, after⟩ := drawn
      rw [after]
      rfl
    | inr kept => rw [kept.2]
  · intro lot member
    cases lot_after_cases userId lots amount member with
    | inl drawn =>
      obtain ⟨_, spendable, left, less, after⟩ := drawn
      have active : lot.status = .active := by
        have both : lot.userId = userId ∧ lot.status = .active := by
          simpa [spendableLot] using spendable
        exact both.2
      rw [after]
      by_cases depleted : left = 0
      · simp [spendLot, depleted, active]
        omega
      · simp [spendLot, depleted, active]
    | inr kept =>
      rw [kept.2]
      simp
      omega
  · intro lot member
    cases lot_after_cases userId lots amount member with
    | inl drawn =>
      obtain ⟨_, _, left, less, after⟩ := drawn
      rw [after]
      exact ⟨spend_lot_tokens_le less, spend_lot_backing_le lot left⟩
    | inr kept =>
      rw [kept.2]
      exact ⟨Nat.le_refl _, Nat.le_refl _⟩
  · intro lot member unspendable
    cases lot_after_cases userId lots amount member with
    | inl drawn =>
      obtain ⟨_, spendable, _⟩ := drawn
      rw [unspendable] at spendable
      cases spendable
    | inr kept => exact kept.2

/-- A debit of a token wallet raises exactly when the user's active lots hold
less, and else draws the whole amount off them, oldest first. -/
theorem token_debit_draws_oldest_first
    (caller : Nat) (userId : String) (token : WalletType) (amountMicroUsd : Int)
    (referenceId : String) (accountId excludeReservationId : Option String) (wallets : Wallets)
    (tokenWallet : token.isToken = true) (positive : 0 < amountMicroUsd) :
    (isBlank userId = false → isBlank referenceId = false →
      ((∃ failure, managedVeniceDebitWalletLocked caller userId (some token) amountMicroUsd
          referenceId accountId excludeReservationId wallets = .error failure) ↔
        (wallets.lotValue userId : Int) < amountMicroUsd)) ∧
      ∀ next, managedVeniceDebitWalletLocked caller userId (some token) amountMicroUsd
          referenceId accountId excludeReservationId wallets = .ok next →
        amountMicroUsd ≤ (wallets.lotValue userId : Int) ∧
          next.accounts = wallets.accounts ∧ next.cardLedger = wallets.cardLedger ∧
          next.reservations = wallets.reservations ∧
          ∃ change, DrawnOldestFirst userId amountMicroUsd.toNat wallets.tokenLots
            next.tokenLots change := by
  have owes := oldest_first_owes userId amountMicroUsd.toNat wallets.tokenLots
  change _ = amountMicroUsd.toNat - wallets.lotValue userId at owes
  constructor
  · intro clean named
    have branch : managedVeniceDebitWalletLocked caller userId (some token) amountMicroUsd
        referenceId accountId excludeReservationId wallets =
          debitTokenLots caller userId token amountMicroUsd referenceId wallets := by
      unfold managedVeniceDebitWalletLocked
      cases token with
      | card => cases tokenWallet
      | hermesos => simp [clean, named, positive]
      | hivra => simp [clean, named, positive]
    rw [branch]
    unfold debitTokenLots
    by_cases short : (wallets.lotValue userId : Int) < amountMicroUsd
    · have owing : 0 < amountMicroUsd.toNat - wallets.lotValue userId := by omega
      simp [owes, owing, short]
    · have settled : ¬ 0 < amountMicroUsd.toNat - wallets.lotValue userId := by omega
      simp only [owes, settled, short, if_false]
      simp
  · intro next ok
    have lots : debitTokenLots caller userId token amountMicroUsd referenceId wallets = .ok next := by
      cases (debit_wallet_locked_ok ok).2 with
      | inl card =>
        cases card.1
        cases tokenWallet
      | inr drawn =>
        have ⟨drawnToken, same, _, lots⟩ := drawn
        cases same
        exact lots
    have ⟨covered, drawn⟩ := debit_token_lots_ok lots
    subst drawn
    constructor
    · omega
    constructor
    · rfl
    constructor
    · rfl
    constructor
    · rfl
    · exact ⟨_, debit_lots_drawn userId amountMicroUsd.toNat wallets.tokenLots covered⟩

def newLot (id userId : String) (valueMicroUsd tokenAmountRaw createdAt : Nat) : TokenLot :=
  { id
    userId
    quoteId := some id
    source := .hivraDeposit
    tokenAmountRaw
    remainingTokenAmountRaw := tokenAmountRaw
    originalValueMicroUsd := valueMicroUsd
    remainingValueMicroUsd := valueMicroUsd
    transactionHash := some id
    status := .active
    createdAt }

/-- Two lots of one user, the older of them worth less than the debit, and a lot
of another user. -/
def twoLots : Wallets :=
  ([newLot "newer" "user" 70 7 20, newLot "older" "user" 50 1000 10,
      newLot "other" "someone" 90 90 0].foldl
    (fun wallets lot =>
      match insertTokenLot lot wallets with
      | .ok next => next
      | .error _ => wallets)
    Wallets.empty)

theorem token_debit_draws_oldest_first_two_lots :
    (isBlank "user" = false → isBlank "request" = false →
      ((∃ failure, managedVeniceDebitWalletLocked 0 "user" (some .hivra) 60 "request" none none
          twoLots = .error failure) ↔ (twoLots.lotValue "user" : Int) < 60)) ∧
      ∀ next, managedVeniceDebitWalletLocked 0 "user" (some .hivra) 60 "request" none none
          twoLots = .ok next →
        60 ≤ (twoLots.lotValue "user" : Int) ∧
          next.accounts = twoLots.accounts ∧ next.cardLedger = twoLots.cardLedger ∧
          next.reservations = twoLots.reservations ∧
          ∃ change, DrawnOldestFirst "user" (60 : Int).toNat twoLots.tokenLots
            next.tokenLots change :=
  token_debit_draws_oldest_first 0 "user" .hivra 60 "request" none none twoLots (by decide)
    (by decide)

end Hivra.ManagedVenice
