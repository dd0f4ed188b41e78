import Hivra.WalletTakeover.OneHolder

/-!
# A displaced account loses its standing

An account that held an address is followed from then on: it still claims the address, or a run
has demoted its row and owes the revocation, or it has no token standing that is not in the ops
feed, or a run left it alone for a token wallet, which it keeps.
-/

namespace Hivra.WalletTakeover

open Hivra.Library Typestate

/-- The account has an eligible row, and no failure of its revocation is in the ops feed. -/
def WalletStore.standing (store : WalletStore) (userId : String) : Bool :=
  (store.tierEligible.contains userId || store.boostEligible.contains userId) &&
    !store.reported.contains userId

/-- What `getTokenVerificationWallet` would find. -/
def WalletStore.hasTokenWallet (store : WalletStore) (userId : String) : Bool :=
  ((store.lockWallet? userId).any fun wallet =>
    (store.lockSnapshot? userId wallet.normalizedAddress).any fun held => 0 < held.balanceRaw) ||
    (store.primaryWallet? userId).any isEligiblePrimaryTokenWallet

/-- It is through with the revocation of every account it has demoted. -/
def Progress.paidUp (held : Progress) : Bool :=
  held.demoted.all held.settled.contains

/-- No account that a run has left alone loses its token wallet on the way to `next`. -/
def SparedKeep (world : WalletWorld) (next : WalletStore) : Prop :=
  ∀ other ∈ List.range world.runs.length, ∀ held ∈ world.store.states other,
    ∀ userId ∈ held.spared, world.store.store.hasTokenWallet userId = true →
      next.hasTokenWallet userId = true

instance (world : WalletWorld) (next : WalletStore) : Decidable (SparedKeep world next) :=
  inferInstanceAs (Decidable (∀ other ∈ List.range world.runs.length,
    ∀ held ∈ world.store.states other, ∀ userId ∈ held.spared,
      world.store.store.hasTokenWallet userId = true → next.hasTokenWallet userId = true))

def WalletCall.Accounted (call : WalletCall) (number : Nat) (turn : WalletTurn)
    (world : WalletWorld) : Prop :=
  match call with
  | .clearPrimary userId =>
    turn.fails = false → ∀ row ∈ world.store.store.wallets.rows, row.userId = userId →
      row.isPrimary = true → row.verifiedAt.isSome = true
  | .reportOpsEvent _ => turn.fails = false
  | .loadLockSnapshot userId normalizedAddress =>
    turn.fails = false → (world.store.store.lockWallet? userId).any
      (·.normalizedAddress = normalizedAddress) = true
  | .answer _ normalizedAddress =>
    ∀ other ∈ List.range world.runs.length, ∀ held ∈ world.store.states other,
      held.normalizedAddress = normalizedAddress → other ≠ number → held.paidUp = true
  | _ => True

instance (call : WalletCall) (number : Nat) (turn : WalletTurn) (world : WalletWorld) :
    Decidable (call.Accounted number turn world) :=
  match call with
  | .clearPrimary userId =>
    inferInstanceAs (Decidable (turn.fails = false → ∀ row ∈ world.store.store.wallets.rows,
      row.userId = userId → row.isPrimary = true → row.verifiedAt.isSome = true))
  | .reportOpsEvent _ => inferInstanceAs (Decidable (turn.fails = false))
  | .loadLockSnapshot userId normalizedAddress =>
    inferInstanceAs (Decidable (turn.fails = false → (world.store.store.lockWallet? userId).any
      (·.normalizedAddress = normalizedAddress) = true))
  | .answer _ normalizedAddress =>
    inferInstanceAs (Decidable (∀ other ∈ List.range world.runs.length,
      ∀ held ∈ world.store.states other,
        held.normalizedAddress = normalizedAddress → other ≠ number → held.paidUp = true))
  | .loadChallenge _ _ | .verifySignature _ | .markChallenge _ _ | .loadClaims _ _ | .demote _ _
  | .upsert _ _ _ _ | .loadLockWallet _ | .loadPrimaryWallet _
  | .insertSnapshot _ | .breachTiers _ | .suspendBoost _ => instDecidableTrue

/-- Runs do not cross, none answers over the head of an account that another run demoted and
is not through with, and no account that was left alone for a wallet loses it. -/
def StandingKept (world : WalletWorld) (event : Event VerifyCall WalletTurn Empty) : Prop :=
  Uncrossed world event ∧
    match event with
    | .advance number turn =>
      match world.runs[number]? with
      | some (some (.call call _)) => call.Accounted number turn world ∧
          SparedKeep world (performWallet call turn world.store.store).1
      | _ => True
    | _ => True

variable {userId : String}

instance (world : WalletWorld) (event : Event VerifyCall WalletTurn Empty) :
    Decidable (StandingKept world event) :=
  match event with
  | .advance number turn =>
    inferInstanceAs (Decidable (Uncrossed world (.advance number turn) ∧
      OnCall world.runs[number]? fun call => call.Accounted number turn world ∧
        SparedKeep world (performWallet call turn world.store.store).1))
  | .start job => inferInstanceAs (Decidable (Uncrossed world (.start job) ∧ True))
  | .stop number => inferInstanceAs (Decidable (Uncrossed world (.stop number) ∧ True))
  | .outside change => change.elim

section Requests

variable {call : WalletCall} {turn : WalletTurn} {store : WalletStore}
variable {held after : Progress}

def WalletCall.looksForWallet : WalletCall → Bool
  | .loadLockSnapshot _ _ | .loadPrimaryWallet _ => true
  | _ => false

structure Progress.Grows (call : WalletCall) (turn : WalletTurn) (before after : Progress) :
    Prop where
  address : after.normalizedAddress = before.normalizedAddress
  demoted : before.demoted ⊆ after.demoted
  spared : before.spared ⊆ after.spared
  left : call.looksForWallet = true ∨ after.spared = before.spared
  settled : ∀ userId ∈ after.settled, userId ∈ before.settled ∨ userId ∈ after.spared ∨
    ((call = .suspendBoost userId ∨ call = .reportOpsEvent userId) ∧ turn.fails = false)
  breached : ∀ userId ∈ after.breached, userId ∈ before.breached ∨
    (call = .breachTiers userId ∧ turn.fails = false)
  unreported : after.unreported = before.unreported ∨ turn.fails = true ∧
    ∃ userId, call = .reportOpsEvent userId

theorem grows_same (address : after.normalizedAddress = held.normalizedAddress)
    (demoted : held.demoted ⊆ after.demoted) (spared : after.spared = held.spared)
    (settled : after.settled = held.settled) (breached : after.breached = held.breached)
    (unreported : after.unreported = held.unreported) : held.Grows call turn after := by
  constructor
  · exact address
  · exact demoted
  · rw [spared]
    exact List.Subset.refl _
  · exact .inr spared
  · intro userId there
    rw [settled] at there
    exact .inl there
  · intro userId there
    rw [breached] at there
    exact .inl there
  · exact .inl unreported

theorem grows_refl (held : Progress) : held.Grows call turn held :=
  grows_same rfl (List.Subset.refl _) rfl rfl rfl rfl

theorem grows_spares (held : Progress) (userId : String) (looks : call.looksForWallet = true) :
    held.Grows call turn (held.spares userId) := by
  constructor
  · rfl
  · exact List.Subset.refl _
  · exact List.subset_append_left _ _
  · exact .inl looks
  · intro account there
    cases List.mem_append.mp there with
    | inl older => exact .inl older
    | inr isNew => exact .inr (.inl (List.mem_append_right _ isNew))
  · intro account there
    exact .inl there
  · exact .inl rfl

theorem grows_settles (settles : call = .suspendBoost userId ∨ call = .reportOpsEvent userId)
    (succeeds : turn.fails = false) : held.Grows call turn (held.settles userId) := by
  constructor
  · rfl
  · exact List.Subset.refl _
  · exact List.Subset.refl _
  · exact .inr rfl
  · intro account there
    cases List.mem_append.mp there with
    | inl older => exact .inl older
    | inr isNew =>
      rw [List.mem_singleton] at isNew
      rw [isNew]
      exact .inr (.inr ⟨settles, succeeds⟩)
  · intro account there
    exact .inl there
  · exact .inl rfl

theorem progress_grows (call : WalletCall) (turn : WalletTurn) (store : WalletStore)
    (held : Progress) :
    ∃ after, moveProgress call (performWallet call turn store).2 (some held) = some after ∧
      held.Grows call turn after := by
  cases call with
  | loadChallenge challengeId userId | verifySignature normalizedAddress
  | loadLockWallet userId | insertSnapshot snapshot => exact ⟨held, rfl, grows_refl held⟩
  | answer userId normalizedAddress =>
    exact ⟨_, rfl, grows_same rfl (List.Subset.refl _) rfl rfl rfl rfl⟩
  | loadLockSnapshot userId normalizedAddress | loadPrimaryWallet userId =>
    simp only [moveProgress]
    split
    · exact ⟨_, rfl, grows_spares held userId rfl⟩
    · exact ⟨held, rfl, grows_refl held⟩
  | markChallenge challengeId status | clearPrimary userId =>
    generalize (performWallet _ turn store).2 = reply
    change Bool at reply
    cases reply <;> exact ⟨_, rfl, grows_same rfl (List.Subset.refl _) rfl rfl rfl rfl⟩
  | loadClaims userId normalizedAddress =>
    generalize (performWallet _ turn store).2 = reply
    change Option (List UserWalletRow) at reply
    cases reply <;> exact ⟨_, rfl, grows_same rfl (List.Subset.refl _) rfl rfl rfl rfl⟩
  | demote userId normalizedAddress =>
    generalize (performWallet _ turn store).2 = reply
    change Bool at reply
    cases reply with
    | false => exact ⟨_, rfl, grows_same rfl (List.Subset.refl _) rfl rfl rfl rfl⟩
    | true => exact ⟨_, rfl, grows_same rfl (List.subset_append_left _ _) rfl rfl rfl rfl⟩
  | upsert attempt userId normalizedAddress now =>
    generalize (performWallet _ turn store).2 = reply
    change Upserted at reply
    refine ⟨_, rfl, ?_⟩
    cases reply with
    | stored | failed => exact grows_same rfl (List.Subset.refl _) rfl rfl rfl rfl
    | refused =>
      dsimp only
      split
      · exact grows_refl held
      · exact grows_same rfl (List.Subset.refl _) rfl rfl rfl rfl
  | breachTiers userId =>
    refine ⟨_, rfl, ?_⟩
    cases fails : turn.fails with
    | true =>
      simp only [performWallet, fails, if_true]
      exact grows_refl held
    | false =>
      simp only [performWallet, fails, Bool.false_eq_true, if_false, if_true]
      constructor
      · rfl
      · exact List.Subset.refl _
      · exact List.Subset.refl _
      · exact .inr rfl
      · intro account there
        exact .inl there
      · intro account there
        cases List.mem_append.mp there with
        | inl older => exact .inl older
        | inr isNew =>
          rw [List.mem_singleton] at isNew
          rw [isNew]
          exact .inr ⟨rfl, fails⟩
      · exact .inl rfl
  | suspendBoost userId =>
    refine ⟨_, rfl, ?_⟩
    cases fails : turn.fails with
    | true =>
      simp only [performWallet, fails, if_true]
      exact grows_refl held
    | false =>
      simp only [performWallet, fails, Bool.false_eq_true, if_false, if_true]
      exact grows_settles (.inl rfl) fails
  | reportOpsEvent userId =>
    refine ⟨_, rfl, ?_⟩
    cases fails : turn.fails with
    | true =>
      simp only [performWallet, fails, if_true]
      constructor
      · rfl
      · exact List.Subset.refl _
      · exact List.Subset.refl _
      · exact .inr rfl
      · intro account there
        exact .inl there
      · intro account there
        exact .inl there
      · exact .inr ⟨fails, userId, rfl⟩
    | false =>
      simp only [performWallet, fails, Bool.false_eq_true, if_false, if_true]
      exact grows_settles (.inr rfl) fails

theorem progress_starts
    (isAfter : moveProgress call (performWallet call turn store).2 none = some after) :
    after.breached = [] ∧ after.spared = [] ∧ after.unreported = [] := by
  cases call with
  | loadClaims userId normalizedAddress =>
    generalize (performWallet _ turn store).2 = reply at isAfter
    change Option (List UserWalletRow) at reply
    cases reply with
    | none => cases isAfter
    | some rows =>
      cases isAfter
      exact ⟨rfl, rfl, rfl⟩
  | loadLockSnapshot userId normalizedAddress | loadPrimaryWallet userId =>
    simp [moveProgress] at isAfter
  | _ =>
    cases isAfter

structure WalletStore.StandingShrinks (before after : WalletStore) : Prop where
  tiers : after.tierEligible ⊆ before.tierEligible
  boosts : after.boostEligible ⊆ before.boostEligible
  reports : before.reported ⊆ after.reported

theorem shrinks_refl (store : WalletStore) : store.StandingShrinks store := by
  constructor
  · exact List.Subset.refl _
  · exact List.Subset.refl _
  · exact List.Subset.refl _

theorem standing_shrinks (call : WalletCall) (turn : WalletTurn) (store : WalletStore) :
    store.StandingShrinks (performWallet call turn store).1 := by
  cases fails : turn.fails with
  | true =>
    cases failed_performs call fails store with
    | inl same =>
      rw [same]
      exact shrinks_refl store
    | inr answered =>
      obtain ⟨userId, normalizedAddress, rfl⟩ := answered
      exact ⟨List.Subset.refl _, List.Subset.refl _, List.Subset.refl _⟩
  | false =>
    cases call with
    | upsert attempt userId normalizedAddress now =>
      simp only [performWallet, fails, Bool.false_eq_true, if_false]
      cases upsertRow store.wallets userId normalizedAddress now <;>
        exact ⟨List.Subset.refl _, List.Subset.refl _, List.Subset.refl _⟩
    | breachTiers userId =>
      simp only [performWallet, fails, Bool.false_eq_true, if_false]
      exact ⟨List.filter_sublist.subset, List.Subset.refl _, List.Subset.refl _⟩
    | suspendBoost userId =>
      simp only [performWallet, fails, Bool.false_eq_true, if_false]
      exact ⟨List.Subset.refl _, List.filter_sublist.subset, List.Subset.refl _⟩
    | reportOpsEvent userId =>
      simp only [performWallet, fails, Bool.false_eq_true, if_false]
      exact ⟨List.Subset.refl _, List.Subset.refl _, List.subset_cons_self _ _⟩
    | _ =>
      simp only [performWallet, fails, Bool.false_eq_true, if_false]
      exact ⟨List.Subset.refl _, List.Subset.refl _, List.Subset.refl _⟩

theorem standing_iff : store.standing userId = true ↔
      (userId ∈ store.tierEligible ∨ userId ∈ store.boostEligible) ∧ userId ∉ store.reported := by
  simp [WalletStore.standing]

theorem no_standing {before after : WalletStore} (shrinks : before.StandingShrinks after)
    (none : before.standing userId = false) : after.standing userId = false := by
  by_contra some
  rw [Bool.not_eq_false] at some
  have ⟨eligible, unreported⟩ := standing_iff.mp some
  have still : before.standing userId = true := by
    apply standing_iff.mpr
    constructor
    · cases eligible with
      | inl tier => exact .inl (shrinks.tiers tier)
      | inr boost => exact .inr (shrinks.boosts boost)
    · intro reported
      exact unreported (shrinks.reports reported)
  rw [none] at still
  cases still

end Requests

inductive Owed (world : WalletWorld) (userId normalizedAddress : String) : Prop
  | claims (row : UserWalletRow) (there : row ∈ world.store.store.wallets)
      (user : row.userId = userId) (address : row.normalizedAddress = normalizedAddress)
      (claimed : row.claimed = true)
  | due (number : Nat) (held : Progress) (state : world.store.states number = some held)
      (address : held.normalizedAddress = normalizedAddress) (demoted : userId ∈ held.demoted)
      (unsettled : userId ∉ held.settled)
  | none (standing : world.store.store.standing userId = false)
  | spared (number : Nat) (held : Progress) (state : world.store.states number = some held)
      (address : held.normalizedAddress = normalizedAddress) (left : userId ∈ held.spared)

structure StandingSound (world : WalletWorld) : Prop where
  holders : HoldersSound world
  breached : ∀ number held, world.store.states number = some held →
    ∀ userId ∈ held.breached, userId ∉ world.store.store.tierEligible
  unreported : ∀ number held, world.store.states number = some held → held.unreported = []
  spared : ∀ number held, world.store.states number = some held →
    ∀ userId ∈ held.spared, world.store.store.hasTokenWallet userId = true

theorem HoldersSound.started {world : WalletWorld} (sound : HoldersSound world) {number : Nat}
    {held : Progress} (state : world.store.states number = some held) :
    number ∈ List.range world.runs.length := by
  rw [List.mem_range]
  by_contra beyond
  have unstarted := sound.keep.unstarted number (by omega)
  rw [state] at unstarted
  cases unstarted

section Steps

variable {world : WalletWorld} {number : Nat} {turn : WalletTurn} {call : WalletCall}
variable {userId normalizedAddress : String}

theorem claim_stays (turn : WalletTurn) (accounted : call.Accounted number turn world)
    {row : UserWalletRow}
    (there : row ∈ world.store.store.wallets) (claimed : row.claimed = true) :
    (∃ later ∈ (performWallet call turn world.store.store).1.wallets,
      later.userId = row.userId ∧ later.normalizedAddress = row.normalizedAddress ∧
        later.claimed = true) ∨
      call = .demote row.userId row.normalizedAddress ∧ turn.fails = false := by
  cases fails : turn.fails with
  | true =>
    left
    refine ⟨row, ?_, rfl, rfl, claimed⟩
    cases failed_performs call fails world.store.store with
    | inl same =>
      rw [same]
      exact there
    | inr answered =>
      obtain ⟨userId, normalizedAddress, rfl⟩ := answered
      exact there
  | false =>
    have written := wallets_written call turn world.store.store
    generalize (performWallet call turn world.store.store).1.wallets = next at written ⊢
    cases written with
    | same => exact .inl ⟨row, there, rfl, rfl, claimed⟩
    | demoted userId normalizedAddress isCall succeeds =>
      cases chosen : row.isFor userId normalizedAddress with
      | false => exact .inl ⟨row, demote_keeps_row there chosen, rfl, rfl, claimed⟩
      | true =>
        obtain ⟨user, address⟩ := is_for_iff.mp chosen
        right
        rw [isCall, user, address]
        exact ⟨rfl, rfl⟩
    | cleared userId isCall =>
      left
      by_cases own : row.userId = userId
      · refine ⟨row.cleared, ?_, rfl, rfl, ?_⟩
        · apply Table.mem_shrink.mpr
          exact ⟨row, there, if_pos (by simpa using own)⟩
        · subst isCall
          have verified : row.verifiedAt.isSome = true := by
            cases primary : row.isPrimary with
            | true => exact accounted fails row there own primary
            | false => simpa [UserWalletRow.claimed, primary] using claimed
          simp [UserWalletRow.claimed, UserWalletRow.cleared, verified]
      · refine ⟨row, ?_, rfl, rfl, claimed⟩
        apply Table.mem_shrink.mpr
        exact ⟨row, there, if_neg (by simpa using own)⟩
    | upserted attempt userId normalizedAddress now isCall after upserted =>
      left
      cases chosen : row.isFor userId normalizedAddress with
      | false => exact ⟨row, upsert_keeps_row upserted there chosen, rfl, rfl, claimed⟩
      | true =>
        obtain ⟨user, address⟩ := is_for_iff.mp chosen
        obtain ⟨later, laterThere, laterUser, laterAddress, laterClaimed⟩ :=
          holds_claimed (upsert_holds upserted)
        exact ⟨later, laterThere, laterUser.trans user.symm,
          laterAddress.trans address.symm, laterClaimed⟩

variable {next : call.Reply → WalletScript Verification}

theorem settled_none (sound : StandingSound world)
    (permitted : permitsWallet call (world.store.states number))
    (settles : call = .suspendBoost userId ∨ call = .reportOpsEvent userId)
    (succeeds : turn.fails = false) :
    (performWallet call turn world.store.store).1.standing userId = false := by
  cases settles with
  | inl isCall =>
    subst isCall
    obtain ⟨held, state, breached⟩ := permitted
    have noTier := sound.breached number held state userId breached
    simp only [performWallet, succeeds, Bool.false_eq_true, if_false]
    by_contra standing
    rw [Bool.not_eq_false] at standing
    obtain ⟨eligible, _⟩ := standing_iff.mp standing
    cases eligible with
    | inl tier => exact noTier tier
    | inr boost => simp at boost
  | inr isCall =>
    subst isCall
    simp only [performWallet, succeeds, Bool.false_eq_true, if_false]
    by_contra standing
    rw [Bool.not_eq_false] at standing
    exact (standing_iff.mp standing).2 List.mem_cons_self

theorem advance_owed (sound : StandingSound world)
    (current : world.runs[number]? = some (some (.call call next)))
    (accounted : call.Accounted number turn world) (owed : Owed world userId normalizedAddress) :
    Owed (walletSystem.step world (.advance number turn)) userId normalizedAddress := by
  have permitted : permitsWallet call (world.store.states number) :=
    (sound.holders.keep.keeps number _ current).1
  have store := advance_store current turn
  cases owed with
  | none standing =>
    apply Owed.none
    rw [store]
    exact no_standing (standing_shrinks call turn world.store.store) standing
  | claims row there user address claimed =>
    cases claim_stays turn accounted there claimed with
    | inl still =>
      obtain ⟨later, laterThere, laterUser, laterAddress, laterClaimed⟩ := still
      apply Owed.claims later _ (laterUser.trans user) (laterAddress.trans address) laterClaimed
      rw [store]
      exact laterThere
    | inr demoted =>
      obtain ⟨isCall, succeeds⟩ := demoted
      subst isCall
      obtain ⟨held, state, looks⟩ := permitted
      apply Owed.due number (held.demotes row.userId)
      · rw [advance_own current turn, state]
        simp [performWallet, succeeds, moveProgress]
      · exact looks.address.trans address
      · rw [← user]
        simp [Progress.demotes]
      · intro settled
        change userId ∈ held.settled at settled
        rw [looks.unsettled] at settled
        cases settled
  | spared other held state address left =>
    by_cases isOwn : other = number
    · rw [isOwn] at state
      obtain ⟨after, isAfter, grows⟩ := progress_grows call turn
        world.store.store held
      apply Owed.spared number after
      · rw [advance_own current turn, state]
        exact isAfter
      · exact grows.address.trans address
      · exact grows.spared left
    · apply Owed.spared other held _ address left
      rw [advance_other current turn isOwn]
      exact state
  | due other held state address demoted unsettled =>
    by_cases isOwn : other = number
    · rw [isOwn] at state
      obtain ⟨after, isAfter, grows⟩ := progress_grows call turn
        world.store.store held
      have moved : (walletSystem.step world (.advance number turn)).store.states number =
          some after := by
        rw [advance_own current turn, state]
        exact isAfter
      by_cases settled : userId ∈ after.settled
      · rcases grows.settled userId settled with older | spared | settles
        · exact absurd older unsettled
        · exact .spared number after moved (grows.address.trans address) spared
        · apply Owed.none
          rw [store]
          exact settled_none sound permitted settles.1 settles.2
      · exact .due number after moved (grows.address.trans address) (grows.demoted demoted)
          settled
    · apply Owed.due other held _ address demoted unsettled
      rw [advance_other current turn isOwn]
      exact state

theorem owed_same {later : WalletWorld} (same : later.store = world.store)
    (owed : Owed world userId normalizedAddress) : Owed later userId normalizedAddress := by
  cases owed with
  | claims row there user address claimed =>
    exact .claims row (by rw [same]; exact there) user address claimed
  | due number held state address demoted unsettled =>
    exact .due number held (by rw [same]; exact state) address demoted unsettled
  | none standing => exact .none (by rw [same]; exact standing)
  | spared number held state address left =>
    exact .spared number held (by rw [same]; exact state) address left

/-- An account is left alone for a token wallet it has at that step. -/
theorem spared_has {held after : Progress} (accounted : call.Accounted number turn world)
    (grows : held.Grows call turn after)
    (isAfter : moveProgress call (performWallet call turn world.store.store).2 (some held) =
      some after) (there : userId ∈ after.spared) :
    userId ∈ held.spared ∨
      (performWallet call turn world.store.store).1.hasTokenWallet userId = true := by
  have spares : ∀ account, held.spares account = after →
      world.store.store.hasTokenWallet account = true →
        userId ∈ held.spared ∨ world.store.store.hasTokenWallet userId = true := by
    intro account isNext has
    rw [← isNext] at there
    cases List.mem_append.mp there with
    | inl older => exact .inl older
    | inr isNew =>
      rw [List.mem_singleton] at isNew
      rw [isNew]
      exact .inr has
  cases call with
  | loadLockSnapshot account normalizedAddress =>
    simp only [moveProgress] at isAfter
    split at isAfter
    · rename_i positive
      apply spares account (Option.some.inj isAfter)
      cases fails : turn.fails with
      | true => simp [performWallet, fails] at positive
      | false =>
        have isStill := accounted fails
        change (if turn.fails then none else some (world.store.store.lockSnapshot? account
          normalizedAddress)).any _ = true at positive
        rw [fails, if_neg Bool.false_ne_true, Option.any_some] at positive
        rw [Option.any_eq_true] at isStill
        obtain ⟨wallet, isLock, isAddress⟩ := isStill
        rw [decide_eq_true_eq] at isAddress
        simp [WalletStore.hasTokenWallet, isLock, isAddress, positive]
    · cases isAfter
      exact .inl there
  | loadPrimaryWallet account =>
    simp only [moveProgress] at isAfter
    split at isAfter
    · rename_i eligible
      apply spares account (Option.some.inj isAfter)
      cases fails : turn.fails with
      | true => simp [performWallet, fails] at eligible
      | false =>
        change (if turn.fails then none else some (world.store.store.primaryWallet?
          account)).any _ = true at eligible
        rw [fails, if_neg Bool.false_ne_true, Option.any_some] at eligible
        simp [WalletStore.hasTokenWallet, eligible]
    · cases isAfter
      exact .inl there
  | _ =>
    cases grows.left with
    | inl looks => cases looks
    | inr same =>
      rw [same] at there
      exact .inl there

theorem perform_breached {held after : Progress}
    (sound : StandingSound world) (state : world.store.states number = some held)
    (grows : held.Grows call turn after) (there : userId ∈ after.breached) :
    userId ∉ (performWallet call turn world.store.store).1.tierEligible := by
  cases grows.breached userId there with
  | inl older =>
    intro eligible
    exact sound.breached number held state userId older
      ((standing_shrinks call turn world.store.store).tiers eligible)
  | inr isNew =>
    have ⟨isCall, succeeds⟩ := isNew
    subst isCall
    simp [performWallet, succeeds]

theorem advance_spared (sound : StandingSound world)
    (current : world.runs[number]? = some (some (.call call next)))
    (accounted : call.Accounted number turn world)
    (keep : SparedKeep world (performWallet call turn world.store.store).1)
    {other : Nat} {after : Progress}
    (state : (walletSystem.step world (.advance number turn)).store.states other = some after)
    (there : userId ∈ after.spared) :
    (performWallet call turn world.store.store).1.hasTokenWallet userId = true := by
  have older : ∀ held, world.store.states other = some held → userId ∈ held.spared →
      (performWallet call turn world.store.store).1.hasTokenWallet userId = true := by
    intro held before left
    exact keep other (sound.holders.started before) held before userId left
      (sound.spared other held before userId left)
  by_cases isOwn : other = number
  · subst isOwn
    rw [advance_own current turn] at state
    cases before : world.store.states other with
    | none =>
      rw [before] at state
      rw [(progress_starts state).2.1] at there
      cases there
    | some held =>
      have ⟨next, isNext, grows⟩ := progress_grows call turn world.store.store held
      rw [before] at state
      have isAfter := isNext.symm.trans state
      cases isAfter
      cases spared_has accounted grows isNext there with
      | inl left => exact older held before left
      | inr has => exact has
  · rw [advance_other current turn isOwn] at state
    exact older after state there

theorem advance_standing (sound : StandingSound world)
    (current : world.runs[number]? = some (some (.call call next)))
    (uncrossed : call.Uncrossed turn world) (accounted : call.Accounted number turn world)
    (keep : SparedKeep world (performWallet call turn world.store.store).1) :
    StandingSound (walletSystem.step world (.advance number turn)) := by
  have store := advance_store current turn
  constructor
  · exact advance_sound sound.holders current uncrossed
  · intro other after state userId there
    rw [store]
    by_cases isOwn : other = number
    · rw [isOwn, advance_own current turn] at state
      cases before : world.store.states number with
      | none =>
        rw [before] at state
        have ⟨unbreached, _, _⟩ := progress_starts state
        rw [unbreached] at there
        cases there
      | some held =>
        have ⟨next, isNext, grows⟩ := progress_grows call turn world.store.store held
        rw [before, isNext] at state
        cases state
        exact perform_breached sound before grows there
    · rw [advance_other current turn isOwn] at state
      intro eligible
      exact sound.breached other after state userId there
        ((standing_shrinks call turn world.store.store).tiers eligible)
  · intro other after state
    by_cases isOwn : other = number
    · rw [isOwn, advance_own current turn] at state
      cases before : world.store.states number with
      | none =>
        rw [before] at state
        exact (progress_starts state).2.2
      | some held =>
        have ⟨next, isNext, grows⟩ := progress_grows call turn world.store.store held
        rw [before, isNext] at state
        cases state
        cases grows.unreported with
        | inl same =>
          rw [same]
          exact sound.unreported number held before
        | inr failed =>
          have ⟨fails, userId, isCall⟩ := failed
          subst isCall
          have succeeds : turn.fails = false := accounted
          rw [succeeds] at fails
          cases fails
    · rw [advance_other current turn isOwn] at state
      exact sound.unreported other after state
  · intro other after state userId there
    rw [store]
    exact advance_spared sound current accounted keep state there

theorem step_standing (world : WalletWorld) (event : Event VerifyCall WalletTurn Empty)
    (kept : StandingKept world event) (sound : StandingSound world) :
    StandingSound (walletSystem.step world event) ∧
      ∀ userId normalizedAddress, Owed world userId normalizedAddress →
        Owed (walletSystem.step world event) userId normalizedAddress := by
  have ⟨uncrossed, accounted⟩ := kept
  cases event with
  | outside change => exact change.elim
  | start job =>
    constructor
    · exact ⟨step_sound sound.holders _ uncrossed, sound.breached, sound.unreported,
        sound.spared⟩
    · intro userId normalizedAddress owed
      have same : (walletSystem.step world (.start job)).store = world.store := rfl
      exact owed_same same owed
  | stop number =>
    constructor
    · exact ⟨step_sound sound.holders _ uncrossed, sound.breached, sound.unreported,
        sound.spared⟩
    · intro userId normalizedAddress owed
      have same : (walletSystem.step world (.stop number)).store = world.store := rfl
      exact owed_same same owed
  | advance number turn =>
    unfold Uncrossed at uncrossed
    dsimp only at uncrossed accounted
    split at uncrossed
    · rename_i call next current
      rw [current] at accounted
      constructor
      · exact advance_standing sound current uncrossed accounted.1 accounted.2
      · intro userId normalizedAddress owed
        exact advance_owed sound current accounted.1 owed
    · rename_i idle
      have still : walletSystem.step world (.advance number turn) = world := by
        simp only [System.step]
      rw [still]
      exact ⟨sound, fun _ _ owed => owed⟩

theorem answered_owed (sound : StandingSound world) {owner : String}
    {rest : Unit → WalletScript Verification} (current : world.runs[number]? =
      some (some (.call (.answer owner normalizedAddress) rest)))
    (accounted : (WalletCall.answer owner normalizedAddress).Accounted number turn world)
    (other : userId ≠ owner) (owed : Owed world userId normalizedAddress)
    (without : world.store.store.hasTokenWallet userId = false) :
    world.store.store.standing userId = false := by
  have ⟨mine, mineState, user, mineAddress, stage, through⟩ :
      permitsWallet (.answer owner normalizedAddress) (world.store.states number) :=
    (sound.holders.keep.keeps number _ current).1
  cases owed with
  | none standing => exact standing
  | claims row there rowUser rowAddress claimed =>
    have runs : world.waits number = true := by
      unfold World.waits
      rw [current]
    have sole := (sound.holders.fits number mine runs mineState).sole stage row there
      (rowAddress.trans mineAddress.symm) claimed
    exact absurd (rowUser.symm.trans (sole.trans user)) other
  | spared someone held state address left =>
    rw [sound.spared someone held state userId left] at without
    cases without
  | due someone held state address demoted unsettled =>
    by_cases isOwn : someone = number
    · rw [isOwn, mineState] at state
      cases state
      cases through userId demoted with
      | inl settled => exact absurd settled unsettled
      | inr unreported =>
        rw [sound.unreported number mine mineState] at unreported
        cases unreported
    · have paid := accounted someone (sound.holders.started state) held state address isOwn
      simp only [Progress.paidUp, List.all_eq_true, List.contains_iff_mem] at paid
      exact absurd (paid userId demoted) unsettled

theorem answer_event {event : Event VerifyCall WalletTurn Empty} {answer : Answered}
    (answered : (walletSystem.step world event).store.store.answers =
      answer :: world.store.store.answers) :
    ∃ number turn rest, event = .advance number turn ∧
      world.runs[number]? =
        some (some (.call (.answer answer.userId answer.normalizedAddress) rest)) := by
  have grown : ∀ answers : List Answered, answers ≠ answer :: answers := by
    intro answers same
    have longer := congrArg List.length same
    simp at longer
  cases event with
  | outside change => exact change.elim
  | start job => exact absurd answered (grown _)
  | stop number => exact absurd answered (grown _)
  | advance number turn =>
    cases current : world.runs[number]? with
    | none =>
      simp only [System.step, current] at answered
      exact absurd answered (grown _)
    | some slot =>
      cases slot with
      | none =>
        simp only [System.step, current] at answered
        exact absurd answered (grown _)
      | some script =>
        cases script with
        | ret outcome =>
          simp only [System.step, current] at answered
          exact absurd answered (grown _)
        | raise failure =>
          simp only [System.step, current] at answered
          exact absurd answered (grown _)
        | call call next =>
          rw [advance_store current turn] at answered
          cases silent : call.answers with
          | false =>
            rw [perform_answers silent] at answered
            exact absurd answered (grown _)
          | true =>
            cases call with
            | answer userId normalizedAddress =>
              simp only [performWallet, List.cons.injEq, and_true] at answered
              rw [← answered]
              exact ⟨number, turn, next, rfl, current⟩
            | _ => cases silent

end Steps

theorem start_standing (store : WalletStore) : StandingSound (takeoverTypestate.start store) := by
  constructor
  · exact start_sound store
  all_goals
    intro number held state
    cases state

structure Follows (userId normalizedAddress : String) (world : WalletWorld) : Prop where
  sound : StandingSound world
  owed : Owed world userId normalizedAddress

def firstHolds : WalletSchedule := [verifies "first" "a"] ++ advances 0 7

def secondTakes : WalletSchedule := [verifies "second" "b"] ++ advances 1 12

def firstRow : UserWalletRow :=
  { userId := "first"
    normalizedAddress := "wallet"
    isPrimary := true
    verifiedAt := some 0
    verificationMethod := some .signature
    purpose := none }

/-- The second account's row is not stored once the first account is demoted; the second try
finds no claim. -/
def retriedTakeover : WalletSchedule :=
  firstHolds ++ [verifies "second" "b"] ++ advances 1 5 ++
    [.advance 1 { fails := true, valid := true }, verifies "second" "b"] ++ advances 2 7

end Hivra.WalletTakeover
