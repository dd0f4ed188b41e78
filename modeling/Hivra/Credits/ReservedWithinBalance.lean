import Hivra.Credits.CreditFunctions
import Hivra.Library.FollowedRows
import Hivra.Library.Requests
import Mathlib.Algebra.Order.BigOperators.Group.List

/-!
# Reservations within the ledger

The guard looks at new references only.  An upsert that meets a row of its own reference
is taken for a retry: it writes the amount it was given and makes the row active again,
whatever is left.  So the active reservations stay within the ledger as long as every such
upsert asks for no more than what is available beside its row.
-/

namespace Hivra.Credits

open Hivra.Library

inductive ReservationJob
  | create (params : CreditReservationParams)
  | release (params : ReleaseCreditReservationParams)

def ReservationJob.script : ReservationJob → CreditScript Unit
  | .create params => (createCreditReservation params).bind fun _ => .ret ()
  | .release params => releaseCreditReservation params

structure PositiveEntry where
  entry : LedgerEntry
  positive : 0 < entry.amountCredits

def appendPositive (credit : PositiveEntry) (store : CreditStore) : CreditStore :=
  match store.insertEntry credit.entry with
  | .ok next => next
  | .error _ => store

def reservationSystem :
    System ReservationJob CreditCall CreditCall.Reply String Unit CreditStore CreditTurn
      PositiveEntry :=
  { program := ReservationJob.script
    perform := fun _ => performCredit
    change := appendPositive }

abbrev ReservationWorld : Type := World CreditCall CreditCall.Reply String Unit CreditStore

abbrev ReservationEvent : Type := Event ReservationJob CreditTurn PositiveEntry

def Within (userId : String) (store : CreditStore) : Prop :=
  store.reservedBalance userId ≤ store.ledgerBalance userId

instance (userId : String) (store : CreditStore) : Decidable (Within userId store) :=
  inferInstanceAs (Decidable (store.reservedBalance userId ≤ store.ledgerBalance userId))

def CreditReservation.holds (row : CreditReservation) : Int :=
  if row.status = .active then row.amountCredits else 0

def CreditStore.availableBeside (store : CreditStore) (held : CreditReservation) : Int :=
  store.ledgerBalance held.userId - (store.reservedBalance held.userId - held.holds)

def CreditReservation.acceptable (row : CreditReservation) (store : CreditStore) : Bool :=
  fitsInteger row.amountCredits && row.checks && store.hasAccount row.accountId

/-- An acceptable upsert of an active row of the user that meets a row of its own reference
asks for no more than what is available beside that row. -/
def CreditCall.covered (userId : String) (store : CreditStore) : CreditCall → Prop
  | .upsertReservation row =>
    row.userId = userId → row.status = .active → row.acceptable store = true →
      ∀ held, store.reservations.find? row.sameReference = some held →
        row.amountCredits ≤ store.availableBeside held
  | _ => True

def Covered (userId : String) (world : ReservationWorld) : ReservationEvent → Prop
  | .advance run turn =>
    ∀ call next, world.runs[run]? = some (some (.call call next)) → turn.fails = false →
      call.covered userId world.store
  | _ => True

variable {store next : CreditStore} {row held : CreditReservation} {userId : String}

theorem same_reference : row.sameReference held = true ↔
    held.userId = row.userId ∧ held.reason = row.reason ∧ held.referenceId = row.referenceId := by
  simp [CreditReservation.sameReference, and_assoc]

theorem same_reference_entry : row.sameReference held = true ↔
    ReservationKey.reference row.userId row.reason row.referenceId ∈ held.entries := by
  rw [same_reference]
  simp [CreditReservation.entries, eq_comm]

theorem share_holds (row : CreditReservation) (userId : String) :
    Table.share (fun row : CreditReservation => row.userId == userId && row.status == .active)
      (·.amountCredits) row = if row.userId = userId then row.holds else 0 := by
  by_cases own : row.userId = userId <;> by_cases active : row.status = .active <;>
    simp [Table.share, CreditReservation.holds, own, active]

theorem holds_nonneg (checks : row.checks = true) : 0 ≤ row.holds := by
  simp only [CreditReservation.checks, Bool.and_eq_true, decide_eq_true_eq] at checks
  have positive := checks.1.1.2
  unfold CreditReservation.holds
  split_ifs <;> omega

theorem rewrite_reservations_rows (selected : CreditReservation → Bool)
    (change : CreditReservation → CreditReservation)
    (keeps : ∀ row, (change row).entries = row.entries)
    (checks : ∀ row, row.checks = true → (change row).checks = true) :
    (store.rewriteReservations selected change keeps checks).reservations =
      store.reservations.rewrite selected change keeps := rfl

theorem reserved_overwrite (userId : String)
    (found : store.reservations.find? row.sameReference = some held)
    (checks : ∀ other, other.checks = true → (row.overwrite other).checks = true) :
    (store.rewriteReservations row.sameReference row.overwrite row.overwrite_entries
        checks).reservedBalance userId =
      if row.userId = userId then store.reservedBalance userId - held.holds + row.holds
      else store.reservedBalance userId := by
  have ⟨there, same⟩ := Table.find_mem found
  have changed := Table.sum_where_rewrite_one there (same_reference_entry.mp same)
    row.sameReference (fun _ _ => same_reference_entry) row.overwrite row.overwrite_entries
    (fun row => row.userId == userId && row.status == .active) (·.amountCredits)
  rw [share_holds, share_holds] at changed
  have owner : held.userId = row.userId := (same_reference.mp same).1
  have after : (row.overwrite held).holds = row.holds := rfl
  have sameOwner : (row.overwrite held).userId = row.userId := owner
  rw [owner, sameOwner, after] at changed
  unfold CreditStore.reservedBalance
  rw [rewrite_reservations_rows]
  split_ifs at changed ⊢ <;> omega

theorem reserved_insert (userId : String) {checks : row.checks = true}
    (inserted : store.insertReservation row checks = some next) : next.reservedBalance userId =
        store.reservedBalance userId + (if row.userId = userId then row.holds else 0) ∧
      next.ledger = store.ledger := by
  unfold CreditStore.insertReservation at inserted
  split_ifs at inserted with inserts
  cases inserted
  have sum := Table.sum_where_insert (Option.some_get inserts).symm
    (fun row => row.userId == userId && row.status == .active) (·.amountCredits)
  rw [share_holds] at sum
  exact ⟨sum, rfl⟩

theorem release_holds (row : CreditReservation) : row.release.holds = 0 := by
  simp [CreditReservation.holds, CreditReservation.release]

theorem reserved_release (owner reason referenceId : String) :
    (store.releaseReservation owner reason referenceId).reservedBalance userId ≤
      store.reservedBalance userId := by
  simp only [CreditStore.reservedBalance, CreditStore.releaseReservation,
    rewrite_reservations_rows, Table.sum_where_eq_share_sum, Table.rewrite_rows, List.map_map]
  apply List.sum_le_sum
  intro row there
  have nonneg := holds_nonneg (store.checked row there)
  have owner : row.release.userId = row.userId := rfl
  simp only [Function.comp_apply, share_holds]
  split_ifs <;> simp_all [release_holds]

theorem upsert_cases {answer : CreditStore × CreditReservation}
    (ok : store.upsertReservation row = .ok answer) :
    row.acceptable store = true ∧ ∃ checks : row.checks = true,
      (∃ held, store.reservations.find? row.sameReference = some held ∧
        answer.1 = store.rewriteReservations row.sameReference row.overwrite row.overwrite_entries
          fun _ => overwrite_checks checks) ∨
      (store.reservations.find? row.sameReference = none ∧
        store.enforceCreditReservationBalance row = .ok () ∧
        store.insertReservation row checks = some answer.1) := by
  unfold CreditStore.upsertReservation at ok
  cases guarded : store.enforceCreditReservationBalance row with
  | error error =>
    simp only [guarded] at ok
    split_ifs at ok
  | ok passed =>
    simp only [guarded] at ok
    split_ifs at ok with fits checks account
    have acceptable : row.acceptable store = true := by
      simp_all [CreditReservation.acceptable]
    apply And.intro acceptable
    exists checks
    cases found : store.reservations.find? row.sameReference with
    | some held =>
      rw [found] at ok
      cases ok
      exact .inl ⟨held, rfl, rfl⟩
    | none =>
      rw [found] at ok
      cases inserted : store.insertReservation row checks with
      | none =>
        simp only [inserted] at ok
        cases ok
      | some next =>
        simp only [inserted] at ok
        cases ok
        exact .inr ⟨rfl, rfl, rfl⟩

theorem upsert_known (acceptable : row.acceptable store = true)
    (found : store.reservations.find? row.sameReference = some held) :
    ∃ checks : row.checks = true, store.upsertReservation row =
      .ok (store.rewriteReservations row.sameReference row.overwrite row.overwrite_entries
        (fun _ => overwrite_checks checks), row.overwrite held) := by
  simp only [CreditReservation.acceptable, Bool.and_eq_true] at acceptable
  have ⟨⟨fits, checks⟩, account⟩ := acceptable
  have exempt : store.enforceCreditReservationBalance row = .ok () := by
    simp [CreditStore.enforceCreditReservationBalance, found]
  exists checks
  simp [CreditStore.upsertReservation, fits, exempt, checks, account, found]

theorem enforced (new : store.reservations.find? row.sameReference = none)
    (active : row.status = .active) (passed : store.enforceCreditReservationBalance row = .ok ()) :
    row.amountCredits ≤ store.ledgerBalance row.userId - store.reservedBalance row.userId := by
  unfold CreditStore.enforceCreditReservationBalance at passed
  simp only [active, new] at passed
  by_cases short : store.ledgerBalance row.userId - store.reservedBalance row.userId <
      row.amountCredits
  · simp [short] at passed
  · omega

theorem within_upsert (within : Within userId store)
    {answer : CreditStore × CreditReservation} (ok : store.upsertReservation row = .ok answer) :
    Within userId answer.1 ↔
      (row.userId = userId → row.status = .active → ∀ held,
        store.reservations.find? row.sameReference = some held →
          row.amountCredits ≤ store.availableBeside held) := by
  have ⟨_, checks, written⟩ := upsert_cases ok
  unfold Within at within ⊢
  rcases written with ⟨held, found, isNext⟩ | ⟨new, passed, inserted⟩
  · have owner : held.userId = row.userId := (same_reference.mp (Table.find_mem found).2).1
    have sameLedger : answer.1.ledgerBalance userId = store.ledgerBalance userId := by
      rw [isNext]
      rfl
    have reserved := reserved_overwrite userId found fun _ => overwrite_checks checks
    rw [← isNext] at reserved
    rw [sameLedger, reserved]
    have heldSome := holds_nonneg (store.checked held (Table.find_mem found).1)
    constructor
    · intro keeps own active other isOther
      rw [found] at isOther
      cases isOther
      rw [if_pos own] at keeps
      have asks : row.holds = row.amountCredits := if_pos active
      unfold CreditStore.availableBeside
      rw [owner, own]
      omega
    · intro covered
      by_cases own : row.userId = userId
      · rw [if_pos own]
        by_cases active : row.status = .active
        · have available := covered own active held found
          have asks : row.holds = row.amountCredits := if_pos active
          unfold CreditStore.availableBeside at available
          rw [owner, own] at available
          omega
        · have asks : row.holds = 0 := if_neg active
          omega
      · rw [if_neg own]
        exact within
  · have ⟨reserved, sameLedger⟩ := reserved_insert userId inserted
    constructor
    · intro _ _ _ held found
      rw [new] at found
      cases found
    · intro _
      have ledger : answer.1.ledgerBalance userId = store.ledgerBalance userId := by
        simp only [CreditStore.ledgerBalance, sameLedger]
      rw [reserved, ledger]
      by_cases own : row.userId = userId
      · rw [if_pos own]
        by_cases active : row.status = .active
        · have available := enforced new active passed
          have asks : row.holds = row.amountCredits := if_pos active
          rw [own] at available
          omega
        · have asks : row.holds = 0 := if_neg active
          omega
      · rw [if_neg own]
        omega

theorem upsert_account_keeps {answer : CreditStore × CreditAccount} {newId owner : String}
    (ok : store.upsertAccount newId owner = .ok answer) :
    answer.1.ledger = store.ledger ∧ answer.1.reservations = store.reservations := by
  unfold CreditStore.upsertAccount at ok
  split_ifs at ok
  split at ok
  · cases ok
    exact ⟨rfl, rfl⟩
  · simp only at ok
    split at ok
    · cases ok
    · cases ok
      exact ⟨rfl, rfl⟩

def CreditCall.reserves : CreditCall → Prop
  | .upsertAccount _ | .upsertReservation _ | .releaseReservation _ _ _ => True
  | _ => False

theorem answered_asks {permits : CreditCall → Prop} {call : CreditCall}
    (permitted : permits call) (fallback : String) : (answered call fallback).Asks permits := by
  apply Script.Asks.call permitted
  intro reply
  cases reply with
  | ok answer => exact .ret answer
  | error error => exact .raise _

theorem require_asks {permits : CreditCall → Prop} (condition : Bool) (message : String) :
    (require condition message).Asks permits := by
  unfold require
  split_ifs
  · exact .ret ()
  · exact .raise message

theorem create_asks (params : CreditReservationParams) :
    (createCreditReservation params).Asks CreditCall.reserves := by
  simp only [createCreditReservation, Script.bind_eq]
  apply Script.asks_bind (require_asks ..)
  intro _
  apply Script.asks_bind (require_asks ..)
  intro _
  apply Script.asks_bind (require_asks ..)
  intro _
  apply Script.asks_bind (require_asks ..)
  intro _
  apply Script.asks_bind (answered_asks trivial _)
  intro account
  apply Script.asks_bind (answered_asks trivial _)
  intro row
  exact .ret _

theorem release_asks (params : ReleaseCreditReservationParams) :
    (releaseCreditReservation params).Asks CreditCall.reserves := by
  simp only [releaseCreditReservation, Script.bind_eq]
  apply Script.asks_bind (require_asks ..)
  intro _
  apply Script.asks_bind (require_asks ..)
  intro _
  apply Script.asks_bind (require_asks ..)
  intro _
  exact answered_asks trivial _

theorem program_asks (job : ReservationJob) : job.script.Asks CreditCall.reserves := by
  cases job with
  | create params => exact Script.asks_bind (create_asks params) fun _ => .ret ()
  | release params => exact release_asks params

theorem within_same (sameLedger : next.ledger = store.ledger)
    (sameReservations : next.reservations = store.reservations) :
    Within userId next ↔ Within userId store := by
  simp only [Within, CreditStore.reservedBalance, CreditStore.ledgerBalance, sameLedger,
    sameReservations]

theorem within_call {call : CreditCall} {turn : CreditTurn} (reserves : call.reserves)
    (within : Within userId store) : Within userId (performCredit call turn store).1 ↔
      (turn.fails = false → call.covered userId store) := by
  have unchanged (same : (performCredit call turn store).1 = store)
      (covered : turn.fails = false → call.covered userId store) :
      Within userId (performCredit call turn store).1 ↔
        (turn.fails = false → call.covered userId store) := by
    rw [same]
    exact ⟨fun _ => covered, fun _ => within⟩
  cases fails : turn.fails with
  | true =>
    rw [fails] at unchanged
    apply unchanged
    · simp [performCredit, fails]
    · intro reached
      cases reached
  | false =>
    cases call with
    | upsertAccount owner =>
      rcases perform_credit_store (.upsertAccount owner) turn store with same |
        ⟨_, answer, ok, isNext⟩
      · rw [fails] at unchanged
        exact unchanged same fun _ => trivial
      · obtain ⟨sameLedger, sameReservations⟩ := upsert_account_keeps ok
        rw [isNext, within_same sameLedger sameReservations]
        exact ⟨fun _ _ => trivial, fun _ => within⟩
    | releaseReservation owner reason referenceId =>
      have isNext : (performCredit (.releaseReservation owner reason referenceId) turn
          store).1 = store.releaseReservation owner reason referenceId := by
        simp [performCredit, fails, CreditCall.execute]
      have less : (store.releaseReservation owner reason referenceId).reservedBalance userId ≤
        store.reservedBalance userId := reserved_release owner reason referenceId
      rw [isNext]
      constructor
      · intro _ _
        trivial
      · intro _
        exact Int.le_trans less within
    | upsertReservation row =>
      cases executed : store.upsertReservation { row with id := turn.newId } with
      | error error =>
        have same : (performCredit (.upsertReservation row) turn store).1 = store := by
          simp [performCredit, fails, CreditCall.execute, executed]
        rw [fails] at unchanged
        apply unchanged same
        intro _ own active acceptable held found
        obtain ⟨_, ok⟩ : ∃ checks, store.upsertReservation { row with id := turn.newId } = _ :=
          upsert_known acceptable found
        rw [executed] at ok
        cases ok
      | ok answer =>
        have isNext : (performCredit (.upsertReservation row) turn store).1 = answer.1 := by
          simp [performCredit, fails, CreditCall.execute, executed]
        have acceptable := (upsert_cases executed).1
        rw [isNext, within_upsert within executed]
        constructor
        · intro covered _ own active _
          exact covered own active
        · intro covered own active
          exact covered rfl own active acceptable
    | _ => cases reserves

theorem insert_entry_cases {entry : LedgerEntry} (ok : store.insertEntry entry = .ok next) :
    ∃ ledger, store.ledger.insert entry = some ledger ∧ next = { store with ledger } := by
  unfold CreditStore.insertEntry at ok
  cases inserted : store.ledger.insert entry with
  | none =>
    simp only [inserted] at ok
    split_ifs at ok
  | some ledger =>
    simp only [inserted] at ok
    split_ifs at ok
    cases ok
    exact ⟨ledger, rfl, rfl⟩

theorem within_change (credit : PositiveEntry) (within : Within userId store) :
    Within userId (appendPositive credit store) := by
  unfold appendPositive
  cases inserted : store.insertEntry credit.entry with
  | error error => exact within
  | ok next =>
    have ⟨ledger, added, isNext⟩ := insert_entry_cases inserted
    have more := Table.sum_where_insert added
      (fun entry => entry.userId == userId) (·.amountCredits)
    have positive := credit.positive
    have nonneg : 0 ≤ Table.share (fun entry : LedgerEntry => entry.userId == userId)
        (·.amountCredits) credit.entry := by
      unfold Table.share
      split_ifs
      · exact Int.le_of_lt positive
      · exact Int.le_refl 0
    have sameReserved : next.reservedBalance userId = store.reservedBalance userId := by
      rw [isNext]
      rfl
    have ledgerMore : next.ledgerBalance userId = store.ledgerBalance userId +
        Table.share (fun entry : LedgerEntry => entry.userId == userId)
          (·.amountCredits) credit.entry := by
      rw [isNext]
      exact more
    simp only [Within] at within ⊢
    omega

theorem within_step (world : ReservationWorld) (event : ReservationEvent)
    (asks : world.Asks CreditCall.reserves) (within : Within userId world.store) :
    Within userId (reservationSystem.step world event).store ↔ Covered userId world event := by
  cases event with
  | start job => exact ⟨fun _ => trivial, fun _ => within⟩
  | stop run => exact ⟨fun _ => trivial, fun _ => within⟩
  | outside credit => exact ⟨fun _ => trivial, fun _ => within_change credit within⟩
  | advance run turn =>
    cases current : world.runs[run]? with
    | none => simp [System.step, Covered, current, within]
    | some slot =>
      cases slot with
      | none => simp [System.step, Covered, current, within]
      | some script =>
        cases script with
        | ret outcome => simp [System.step, Covered, current, within]
        | raise failure => simp [System.step, Covered, current, within]
        | call request rest =>
          have stepped : (reservationSystem.step world (.advance run turn)).store =
              (performCredit request turn world.store).1 := by
            simp [System.step, current, reservationSystem]
          rw [stepped, within_call (asks_next asks current) within]
          constructor
          · intro covered call next isCall
            rw [current] at isCall
            cases isCall
            exact covered
          · intro covered
            exact covered request rest current

/-- From any store whose reservations are within the ledger, they are within it throughout a
schedule exactly if every upsert of a known reference asks for no more than what is available
beside its row. -/
theorem within_iff_covered (store : CreditStore) (userId : String)
    (within : Within userId store) (schedule : List ReservationEvent) :
    (∀ early, early <+: schedule →
        Within userId (reservationSystem.after (System.initial store) early).store) ↔
      Meets reservationSystem.step (Covered userId) (System.initial store) schedule := by
  have keeps (world : ReservationWorld) (event : ReservationEvent)
      (holds : world.Asks CreditCall.reserves ∧ Within userId world.store) :
      ((reservationSystem.step world event).Asks CreditCall.reserves ∧
        Within userId (reservationSystem.step world event).store) ↔ Covered userId world event := by
    rw [within_step world event holds.1 holds.2]
    exact and_iff_right (asks_step program_asks event holds.1)
  rw [← always_iff_meets schedule ⟨asks_initial store, within⟩ keeps]
  constructor
  · intro always early isPart
    exact ⟨fold_keeps early (asks_initial store) fun _ event => asks_step program_asks event,
      always early isPart⟩
  · intro always early isPart
    exact (always early isPart).2

def noCredits : CreditStore :=
  { accounts := .empty
    ledger := .empty
    reservations := .empty
    checked := fun row there => absurd there (Table.not_mem_empty row) }

def tenCredits : PositiveEntry :=
  { entry :=
      { accountId := "account"
        userId := "user"
        amountCredits := 10
        source := .stripe
        actor := "stripe"
        reason := .stripeTopup
        referenceId := "top-up" }
    positive := by decide }

def reserveTen (referenceId : String) : ReservationJob :=
  .create { userId := "user", amountCredits := 10, reason := "purchase", referenceId }

/-- Ten credits are reserved under one reference and released, reserved under a second, and
reserved under the first again. -/
def reusedReference : List ReservationEvent :=
  let turn (newId : String) : CreditTurn := { fails := false, lost := false, newId }
  [.start (reserveTen "first"), .advance 0 (turn "account"), .outside tenCredits,
    .advance 0 (turn "one"),
    .start (.release { userId := "user", reason := "purchase", referenceId := "first" }),
    .advance 1 (turn ""),
    .start (reserveTen "second"), .advance 2 (turn ""), .advance 2 (turn "two"),
    .start (reserveTen "first"), .advance 3 (turn ""), .advance 3 (turn "")]

theorem reused_reference_overdraws : Within "user" noCredits ∧
      ¬Within "user" (reservationSystem.after (System.initial noCredits) reusedReference).store := by
  decide +kernel

theorem within_iff_covered_reused : (∀ early, early <+: reusedReference →
        Within "user" (reservationSystem.after (System.initial noCredits) early).store) ↔
      Meets reservationSystem.step (Covered "user") (System.initial noCredits) reusedReference := by
  apply within_iff_covered
  decide +kernel

end Hivra.Credits
