import Hivra.Library.Conclusions
import Hivra.ManagedVenice.ChatHolds

/-!
# A reservation while the balance stays

What the reservation code ends in when the balance of the wallet it draws on does not
change while it runs.  Other requests may come in between, as long as each statement
of the call finds the same total and the same holds in that wallet.
-/

namespace Hivra.ManagedVenice

open Hivra.Library
open Hivra.Venice

def Wallets.balance (wallets : Wallets) (userId : String) (walletType : WalletType) :
    WalletBalance :=
  if walletType.isToken then
    walletBalance (wallets.lotValue userId : Nat) (wallets.tokenReserved userId)
  else walletBalance (wallets.cardBalance userId) (wallets.cardReserved userId)

def Wallets.hasAccount (wallets : Wallets) (userId : String) : Prop :=
  ∃ account ∈ wallets.accounts, account.userId = userId

instance (wallets : Wallets) (userId : String) : Decidable (wallets.hasAccount userId) :=
  inferInstanceAs (Decidable (∃ account ∈ wallets.accounts.rows, account.userId = userId))

/-- A statement that is answered, with ids of its own for new rows, in a database where the
balance is the one given and the reference is not in use.  No hold is on the second token:
the wallet types of the reservation code are `hermesos` and `card`. -/
structure Calm (request : ChatBudget) (balance : WalletBalance)
    (exchange : Exchange Statement Turn SettlementStore) : Prop where
  answered : exchange.fault.delivery = .answered
  newAccount : ∀ account ∈ exchange.store.wallets.accounts, account.id ≠ exchange.fault.newId
  newHold : ∀ hold ∈ exchange.store.wallets.reservations, hold.id ≠ exchange.fault.newId
  unused : ∀ hold ∈ exchange.store.wallets.reservations, hold.referenceId ≠ request.referenceId
  oneToken : ∀ hold ∈ exchange.store.wallets.reservations, hold.walletType ≠ .hivra
  balance : exchange.store.wallets.balance request.userId request.walletType = balance

/-- A call whose statements all find the same balance.  An account it made stays. -/
structure SteadyBalance (caller : Nat) (request : ChatBudget) (balance : WalletBalance)
    (exchanges : List (Exchange Statement Turn SettlementStore)) : Prop where
  calm : ∀ exchange ∈ exchanges, Calm request balance exchange
  accounts : exchanges.Pairwise fun earlier later =>
    (earlier.after (performStatement caller)).wallets.hasAccount request.userId →
      later.store.wallets.hasAccount request.userId

variable {caller : Nat} {request : ChatBudget} {balance : WalletBalance}

theorem steady_balance_inherited : Inherited (SteadyBalance caller request balance) := by
  intro early late steady
  have ⟨before, after, _⟩ := List.pairwise_append.mp steady.accounts
  constructor
  · exact
      { calm := fun exchange member => steady.calm exchange (List.mem_append_left late member)
        accounts := before }
  · exact
      { calm := fun exchange member => steady.calm exchange (List.mem_append_right early member)
        accounts := after }

abbrev Settles (caller : Nat) (request : ChatBudget) (balance : WalletBalance) {Outcome : Type}
    (script : Settlement Outcome) (post : Except SettlementError Outcome → Prop) : Prop :=
  Concludes (performStatement caller) (SteadyBalance caller request balance) script post

variable {statement : Statement}

theorem perform_answered {turn : Turn} {store next : SettlementStore}
    {answer : statement.Answer} (answered : turn.delivery = .answered)
    (ok : statement.execute caller turn store = .ok (next, answer)) :
    performStatement caller statement turn store = (next, .ok answer) := by
  simp [performStatement, answered, ok]

abbrev SettlesTo (caller : Nat) (request : ChatBudget) (balance : WalletBalance) {Outcome : Type}
    (script : Settlement Outcome) (post : Outcome → Prop) : Prop :=
  Returns (performStatement caller) (SteadyBalance caller request balance) script post

theorem settles_to_ask {post : statement.Answer → Prop}
    (answers : ∀ turn store, Calm request balance { request := statement, fault := turn, store } →
      ∃ next answer, statement.execute caller turn store = .ok (next, answer) ∧ post answer) :
    SettlesTo caller request balance (ask statement) post := by
  have head : SettlesTo caller request balance (Script.request statement)
      (fun reply => ∃ answer, reply = .ok answer ∧ post answer) := by
    apply concludes_request
    intro turn store steady
    have calm := steady.calm _ (List.mem_singleton_self _)
    have ⟨next, answer, ok, holds⟩ := answers turn store calm
    exact ⟨_, rfl, answer, by rw [perform_answered calm.answered ok], holds⟩
  apply returns_bind steady_balance_inherited head
  intro reply reached
  have ⟨answer, same, holds⟩ := reached
  cases same
  exact returns_ret holds

variable {userId : String}

theorem find_account_some {wallets : Wallets} (held : wallets.hasAccount userId) :
    ∃ account, (wallets.accounts.find? fun account => account.userId == userId) = some account := by
  have ⟨account, member, owner⟩ := held
  cases found : wallets.accounts.find? fun account => account.userId == userId with
  | some account => exact ⟨account, rfl⟩
  | none =>
    have apart := List.find?_eq_none.mp found account member
    simp [owner] at apart

theorem has_account_of_find {wallets : Wallets}
    (found : (wallets.accounts.find? fun account => account.userId == userId).isSome = true) :
    wallets.hasAccount userId := by
  have ⟨account, same⟩ := Option.isSome_iff_exists.mp found
  exact ⟨account, List.mem_of_find?_eq_some same, by simpa using List.find?_some same⟩

theorem upsert_account_executes (caller : Nat) {purpose : AccountUse} {turn : Turn} {store : SettlementStore}
    (calm : Calm request balance
      { request := .upsertWalletAccount purpose request.userId, fault := turn, store }) :
    ∃ next, (Statement.upsertWalletAccount purpose request.userId).execute caller turn store =
        .ok (next, ()) ∧
      next.wallets.hasAccount request.userId := by
  by_cases present :
      (store.wallets.accounts.find? fun account => account.userId == request.userId).isSome = true
  · exact ⟨store, by simp [Statement.execute, present], has_account_of_find present⟩
  · cases inserted : store.wallets.accounts.insert
        ({ id := turn.newId, userId := request.userId } : WalletAccount) with
    | none =>
      exfalso
      obtain ⟨held, member, entry, heldEntry, newEntry⟩ := Table.insert_none.mp inserted
      have notId := calm.newAccount held member
      have notOwner : held.userId ≠ request.userId := by
        intro owner
        obtain ⟨account, found⟩ := find_account_some ⟨held, member, owner⟩
        simp [found] at present
      simp only [WalletAccount.entries, List.mem_cons, List.not_mem_nil, or_false]
        at heldEntry newEntry
      cases heldEntry with
      | inl isId =>
        subst isId
        simp [notId] at newEntry
      | inr isUser =>
        subst isUser
        simp [notOwner] at newEntry
    | some accounts =>
      apply Exists.intro { store with wallets := { store.wallets with accounts } }
      constructor
      · simp [Statement.execute, present, inserted]
      · exact ⟨_, (Table.mem_insert inserted).mpr (.inr rfl), rfl⟩

theorem require_user_id_ret (named : isEmptyText userId = false) :
    requireUserId userId = (.ret () : Settlement Unit) := by
  simp [requireUserId, named]

theorem require_reference_id_ret {referenceId : String} (named : isEmptyText referenceId = false) :
    requireReferenceId referenceId = (.ret () : Settlement Unit) := by
  simp [requireReferenceId, named]

theorem ask_ends {exchanges : List (Exchange Statement Turn SettlementStore)}
    {result : Except SettlementError statement.Answer}
    (ends : Ends (performStatement caller) (ask statement) exchanges result)
    (steady : SteadyBalance caller request balance exchanges) :
    ∃ turn store, exchanges = [{ request := statement, fault := turn, store }] ∧
      Calm request balance { request := statement, fault := turn, store } ∧
      ∀ next answer, statement.execute caller turn store = .ok (next, answer) →
        result = .ok answer ∧
          Exchange.after (performStatement caller)
            { request := statement, fault := turn, store } = next := by
  have ⟨early, late, reply, split, asked, rest⟩ := ends_sequence ends
  have ⟨turn, store, isOne, replyEq⟩ := ends_request asked
  subst replyEq isOne
  have calm := steady.calm { request := statement, fault := turn, store } (by simp [split])
  have nothing : late = [] := by
    simp only at rest
    cases answered : (performStatement caller statement turn store).2 with
    | ok answer =>
      simp only [answered] at rest
      exact (ends_ret rest).2
    | error failure =>
      simp only [answered] at rest
      exact (ends_raise rest).2
  subst nothing
  apply Exists.intro turn
  apply Exists.intro store
  constructor
  · simpa using split
  constructor
  · exact calm
  · intro next answer ok
    have performed := perform_answered calm.answered ok
    simp only [performed] at rest
    exact ⟨(ends_ret rest).1, by simp [Exchange.after, performed]⟩

theorem made_account_settles (purpose : AccountUse)
    {returning : Option WalletAccount → Settlement WalletAccount}
    (returned : ∀ account, returning (some account) = .ret account) :
    SettlesTo caller request balance
      ((ask (.upsertWalletAccount purpose request.userId)).bind fun _ =>
        (ask (.loadWalletAccount purpose request.userId)).bind returning)
      (fun _ => True) := by
  constructor
  intro exchanges result ends steady
  have ⟨making, loading, made, split, makes, loads⟩ := ends_sequence ends
  subst split
  have ⟨steadyMaking, steadyLoading⟩ := steady_balance_inherited _ _ steady
  have ⟨turn, store, isOne, calm, answers⟩ := ask_ends makes steadyMaking
  have ⟨next, executes, held⟩ := upsert_account_executes caller calm
  have ⟨madeEq, afterEq⟩ := answers next () executes
  subst madeEq isOne
  have ⟨asking, ending, found, split, asks, returns⟩ := ends_sequence loads
  subst split
  have ⟨steadyAsking, _⟩ := steady_balance_inherited _ _ steadyLoading
  have ⟨loadTurn, loadStore, isLoad, _, loadAnswers⟩ := ask_ends asks steadyAsking
  have ⟨foundEq, _⟩ := loadAnswers loadStore _ rfl
  subst foundEq isLoad
  have stays : loadStore.wallets.hasAccount request.userId := by
    apply (List.pairwise_append.mp steady.accounts).2.2 _ (List.mem_singleton_self _) _
      (List.mem_append_left ending (List.mem_singleton_self _))
    rw [afterEq]
    exact held
  have ⟨account, isAccount⟩ := find_account_some stays
  simp only [isAccount, returned] at returns
  exact ⟨account, (ends_ret returns).1, trivial⟩

theorem ensure_account_settles (named : isEmptyText request.userId = false) (purpose : AccountUse) :
    SettlesTo caller request balance (ensureManagedVeniceWalletAccount purpose request.userId)
      (fun _ => True) := by
  have load : SettlesTo caller request balance (ask (.loadWalletAccount purpose request.userId))
      (fun _ => True) := by
    apply settles_to_ask
    intro turn store _
    exact ⟨store, _, rfl, trivial⟩
  unfold ensureManagedVeniceWalletAccount
  rw [require_user_id_ret named]
  apply returns_bind steady_balance_inherited load
  intro found _
  cases found with
  | some account => exact returns_ret trivial
  | none => exact made_account_settles purpose fun _ => rfl

theorem reserved_under_card (userId : String) (holds : Table Reservation.entries) :
    reservedUnder .card (holds.selectWhere fun hold =>
        hold.userId == userId && hold.status == .active) =
      holds.sumWhere (activeCardHold userId) (·.reservedMicroUsd) := by
  rw [reservedUnder, Table.selectWhere, List.filter_filter, Table.sumWhere]
  congr 2
  apply List.filter_congr
  intro hold _
  simp only [activeCardHold]
  rw [Bool.and_comm]

theorem reserved_under_token {holds : Table Reservation.entries}
    (oneToken : ∀ hold ∈ holds, hold.walletType ≠ .hivra) :
    reservedUnder .hermesos (holds.selectWhere fun hold =>
        hold.userId == userId && hold.status == .active) =
      holds.sumWhere (activeTokenHold userId) (·.reservedMicroUsd) := by
  rw [reservedUnder, Table.selectWhere, List.filter_filter, Table.sumWhere]
  congr 2
  apply List.filter_congr
  intro hold member
  have notHivra := oneToken hold member
  cases isType : hold.walletType with
  | hivra => exact absurd isType notHivra
  | hermesos => simp [activeTokenHold, isType, WalletType.isToken]
  | card => simp [activeTokenHold, isType, WalletType.isToken]

def Wallets.left (wallets : Wallets) (userId : String) (walletType : WalletType) : Int :=
  if walletType.isToken then (wallets.lotValue userId : Int) - wallets.tokenReserved userId
  else wallets.cardBalance userId - wallets.cardReserved userId

theorem calm_available {exchange : Exchange Statement Turn SettlementStore}
    (calm : Calm request balance exchange) :
    balance.availableMicroUsd = (balance.totalValueMicroUsd - balance.reservedMicroUsd).toNat ∧
      balance.availableMicroUsd =
        (exchange.store.wallets.left request.userId request.walletType).toNat := by
  have same := calm.balance
  unfold Wallets.balance at same
  unfold Wallets.left
  split_ifs at same ⊢ with token
  · rw [← same]
    exact ⟨rfl, rfl⟩
  · rw [← same]
    exact ⟨rfl, rfl⟩

theorem wallet_balance_ext {left right : WalletBalance}
    (total : left.totalValueMicroUsd = right.totalValueMicroUsd)
    (reserved : left.reservedMicroUsd = right.reservedMicroUsd)
    (available : left.availableMicroUsd = right.availableMicroUsd) : left = right := by
  cases left
  cases right
  simp_all

theorem lots_settle : SettlesTo caller request balance (ask (.selectActiveLots request.userId))
      (fun lots => request.walletType = .hermesos →
        (((lots.map TokenLot.remainingValueMicroUsd).sum : Nat) : Int) =
          balance.totalValueMicroUsd) := by
  apply settles_to_ask
  intro turn store calm
  apply Exists.intro store
  apply Exists.intro (store.wallets.tokenLots.selectWhere (spendableLot request.userId))
  constructor
  · rfl
  · intro isToken
    have same := calm.balance
    rw [Wallets.balance, isToken] at same
    rw [← same]
    rfl

theorem entries_settle : SettlesTo caller request balance (ask (.selectCardEntries request.userId))
      (fun entries => request.walletType = .card →
        (entries.map CardLedgerEntry.amountMicroUsd).sum = balance.totalValueMicroUsd) := by
  apply settles_to_ask
  intro turn store calm
  apply Exists.intro store
  apply Exists.intro (store.wallets.cardLedger.selectWhere fun entry =>
    entry.userId == request.userId)
  constructor
  · rfl
  · intro isCard
    have same := calm.balance
    rw [Wallets.balance, isCard] at same
    rw [← same]
    rfl

theorem holds_settle (wallet : request.walletType ≠ .hivra) :
    SettlesTo caller request balance (ask (.selectActiveReservations request.userId))
      (fun holds => reservedUnder request.walletType holds = balance.reservedMicroUsd ∧
        balance.availableMicroUsd =
          (balance.totalValueMicroUsd - balance.reservedMicroUsd).toNat) := by
  apply settles_to_ask
  intro turn store calm
  apply Exists.intro store
  apply Exists.intro (store.wallets.reservations.selectWhere fun hold =>
    hold.userId == request.userId && hold.status == .active)
  constructor
  · rfl
  constructor
  · have same := calm.balance
    cases isType : request.walletType with
    | hivra => exact absurd isType wallet
    | hermesos =>
      rw [Wallets.balance, isType] at same
      rw [← same]
      exact reserved_under_token calm.oneToken
    | card =>
      rw [Wallets.balance, isType] at same
      rw [← same]
      exact reserved_under_card request.userId store.wallets.reservations
  · exact (calm_available calm).1

theorem summary_settles (named : isEmptyText request.userId = false)
    (wallet : request.walletType ≠ .hivra) :
    SettlesTo caller request balance (getManagedVeniceWalletSummary request.userId)
      (fun summary => summary.reservable request.walletType = balance) := by
  unfold getManagedVeniceWalletSummary
  rw [require_user_id_ret named]
  apply returns_bind steady_balance_inherited (ensure_account_settles named .walletSummary)
  intro account _
  apply returns_bind steady_balance_inherited lots_settle
  intro lots lotTotal
  apply returns_bind steady_balance_inherited entries_settle
  intro entries cardTotal
  apply returns_bind steady_balance_inherited (holds_settle wallet)
  intro holds read
  have ⟨reserved, available⟩ := read
  apply returns_ret
  cases isType : request.walletType with
  | hivra => exact absurd isType wallet
  | hermesos =>
    rw [isType] at reserved
    apply wallet_balance_ext
    · exact lotTotal isType
    · exact reserved
    · rw [available, ← lotTotal isType, ← reserved]
      rfl
  | card =>
    rw [isType] at reserved
    apply wallet_balance_ext
    · exact cardTotal isType
    · exact reserved
    · rw [available, ← cardTotal isType, ← reserved]
      rfl

theorem not_blank {text : String} (named : isEmptyText text = false) : isBlank text = false := by
  by_contra blank
  have spaces : ∀ char ∈ text.toList, char = ' ' := by
    simpa [isBlank] using blank
  have trimmed : isEmptyText text = true := by
    apply List.all_eq_true.mpr
    intro char member
    rw [spaces char member]
    decide
  rw [named] at trimmed
  cases trimmed

theorem guard_passes {turn : Turn} {store : SettlementStore}
    (calm : Calm request balance { request := statement, fault := turn, store })
    (hold : Reservation)
    (user : hold.userId = request.userId) (wallet : hold.walletType = request.walletType)
    (covered : hold.reservedMicroUsd ≤ balance.availableMicroUsd)
    (positive : 0 < hold.reservedMicroUsd) :
    enforceManagedVeniceReservationBalance hold store.wallets = .ok () := by
  have available := (calm_available calm).2
  dsimp only at available
  have enough : ¬ store.wallets.left request.userId request.walletType < hold.reservedMicroUsd := by
    omega
  unfold Wallets.left at enough
  unfold enforceManagedVeniceReservationBalance
  rw [user, wallet]
  dsimp only
  split_ifs
  · rfl
  · rfl
  · rfl

theorem insert_row_settles (named : isEmptyText request.userId = false)
    (referenced : isEmptyText request.referenceId = false) (hold : NewReservation)
    (user : hold.userId = request.userId) (wallet : hold.walletType = request.walletType)
    (reference : hold.referenceId = request.referenceId)
    (covered : hold.reservedMicroUsd ≤ balance.availableMicroUsd)
    (positive : 0 < hold.reservedMicroUsd) :
    SettlesTo caller request balance (insertReservationRow hold)
      (fun receipt => receipt.reservedMicroUsd = hold.reservedMicroUsd) := by
  have inserts : SettlesTo caller request balance (Script.request (Statement.insertReservation hold))
      (fun reply => ∃ newId, reply = .ok (hold.row newId)) := by
    apply concludes_request
    intro turn store steady
    have calm := steady.calm _ (List.mem_singleton_self _)
    have passes := guard_passes calm (hold.row turn.newId) user wallet covered positive
    have clean : isBlank hold.userId = false := by rw [user]; exact not_blank named
    have cleanReference : isBlank hold.referenceId = false := by
      rw [reference]; exact not_blank referenced
    have executes : ∃ next, (Statement.insertReservation hold).execute caller turn store =
        .ok (next, hold.row turn.newId) := by
      cases inserted : store.wallets.reservations.insert (hold.row turn.newId) with
      | none =>
        exfalso
        obtain ⟨held, member, entry, heldEntry, newEntry⟩ := Table.insert_none.mp inserted
        have notId := calm.newHold held member
        have notReference := calm.unused held member
        rw [← reference] at notReference
        simp only [Reservation.entries, List.mem_cons, List.not_mem_nil, or_false]
          at heldEntry newEntry
        cases heldEntry with
        | inl isId =>
          subst isId
          simp [NewReservation.row, notId] at newEntry
        | inr isReference =>
          subst isReference
          simp [NewReservation.row, notReference] at newEntry
      | some reservations =>
        have valid : ¬ (isBlank (hold.row turn.newId).userId = true ∨
            isBlank (hold.row turn.newId).referenceId = true ∨
            (hold.row turn.newId).reservedMicroUsd = 0 ∨
            (hold.row turn.newId).reservedMicroUsd <
              (hold.row turn.newId).capturedMicroUsd +
                (hold.row turn.newId).releasedMicroUsd) := by
          have notZero : ¬ hold.reservedMicroUsd = 0 := by omega
          simp [NewReservation.row, clean, cleanReference, notZero]
        have stored : insertReservation (hold.row turn.newId) store.wallets =
            .ok { store.wallets with reservations } := by
          unfold insertReservation
          rw [passes]
          simp only [bind, Except.bind, valid, if_false, inserted]
          rfl
        apply Exists.intro { store with wallets := { store.wallets with reservations } }
        simp only [Statement.execute, stored]
    obtain ⟨next, ok⟩ := executes
    exact ⟨_, rfl, turn.newId, by rw [perform_answered calm.answered ok]⟩
  apply returns_bind steady_balance_inherited inserts
  intro reply reached
  obtain ⟨newId, same⟩ := reached
  cases same
  exact returns_ret rfl

theorem create_reservation_settles (named : isEmptyText request.userId = false)
    (referenced : isEmptyText request.referenceId = false) (wallet : request.walletType ≠ .hivra)
    {params : CreateReservation}
    (user : params.userId = request.userId) (wallets : params.walletType = request.walletType)
    (reference : params.referenceId = request.referenceId)
    (inRange : shareOutOfRange params.maxShareOfAvailableBps = false)
    (positive : 0 < params.amountMicroUsd) :
    Settles caller request balance (createManagedVeniceReservation params) (fun result =>
      if params.amountMicroUsd ≤ balance.availableMicroUsd ∧
          overShare params.maxShareOfAvailableBps params.amountMicroUsd balance.availableMicroUsd =
            false then
        ∃ receipt, result = .ok receipt ∧ receipt.reservedMicroUsd = params.amountMicroUsd
      else result = .error (.insufficientBalance (some balance))) := by
  have loads : SettlesTo caller request balance
      (ask (.loadReservation params.userId params.referenceId)) (fun found => found = none) := by
    apply settles_to_ask
    intro turn store calm
    apply Exists.intro store
    apply Exists.intro (store.wallets.findReservation params.userId params.referenceId)
    constructor
    · rfl
    · apply List.find?_eq_none.mpr
      intro hold member
      have apart := calm.unused hold member
      rw [← reference] at apart
      simp [apart]
  have notZero : ¬ params.amountMicroUsd = 0 := by omega
  unfold createManagedVeniceReservation
  rw [user, reference, require_user_id_ret named, require_reference_id_ret referenced]
  simp only [notZero, inRange, if_false, Script.bind_eq, Script.bind_ret]
  rw [user, reference] at loads
  apply returns_bind steady_balance_inherited loads
  intro found absent
  subst absent
  unfold createNewReservation
  rw [user, wallets]
  apply returns_bind steady_balance_inherited (summary_settles named wallet)
  intro summary isBalance
  rw [isBalance]
  by_cases fits : params.amountMicroUsd ≤ balance.availableMicroUsd ∧
      overShare params.maxShareOfAvailableBps params.amountMicroUsd balance.availableMicroUsd = false
  · have covered : ¬ (balance.availableMicroUsd < params.amountMicroUsd ∨
        overShare params.maxShareOfAvailableBps params.amountMicroUsd balance.availableMicroUsd =
          true) := by
      simp [fits.1, fits.2]
    rw [if_neg covered]
    simp only [fits, and_self, if_true]
    apply returns_bind steady_balance_inherited (ensure_account_settles named .walletSummary)
    intro account _
    exact insert_row_settles named referenced (params.newReservation account.id) user wallets
      reference fits.1 positive
  · have short : balance.availableMicroUsd < params.amountMicroUsd ∨
        overShare params.maxShareOfAvailableBps params.amountMicroUsd balance.availableMicroUsd =
          true := by
      by_contra covers
      apply fits
      simpa using covers
    rw [if_pos short]
    simp only [fits, if_false]
    exact concludes_raise rfl

end Hivra.ManagedVenice
