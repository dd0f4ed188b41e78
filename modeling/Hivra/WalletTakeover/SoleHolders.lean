import Hivra.WalletTakeover.RunStages

/-!
# The row a run stores is the only claim of its address

A run that has loaded the claims of an address knows of every claim but those that became
primary since, and those a unique index refuses it to join.  This holds as long as no account
clears a primary row that such a run has not loaded, and no run demotes a row that another run
has stored and not answered for.
-/

namespace Hivra.WalletTakeover

open Hivra.Library Typestate

def someRun (world : WalletWorld) (test : Progress → Bool) : Bool :=
  (List.range world.runs.length).any fun number =>
    world.waits number && (world.store.states number).any test

theorem no_run {world : WalletWorld} {test : Progress → Bool}
    (none : someRun world test = false) {number : Nat} {held : Progress}
    (runs : world.waits number = true) (state : world.store.states number = some held) :
    test held = false := by
  have inside := waits_inside runs
  unfold someRun at none
  rw [List.any_eq_false] at none
  have unmet := none number (List.mem_range.mpr inside)
  rw [runs, state] at unmet
  simpa using unmet

def Progress.owesAnswer (held : Progress) (userId normalizedAddress : String) : Bool :=
  held.stage == .stored && held.userId == userId && held.normalizedAddress == normalizedAddress

def Progress.overlooks (held : Progress) (row : UserWalletRow) : Bool :=
  held.stage == .looked && held.normalizedAddress == row.normalizedAddress &&
    held.userId != row.userId && row.isPrimary && row.verifiedAt.isSome &&
    !held.pending.contains row.userId

def WalletCall.Uncrossed (call : WalletCall) (turn : WalletTurn) (world : WalletWorld) : Prop :=
  match call with
  | .demote userId normalizedAddress =>
    turn.fails = false →
      someRun world (fun held => held.owesAnswer userId normalizedAddress) = false
  | .clearPrimary userId =>
    turn.fails = false → ∀ row ∈ world.store.store.wallets.rows, row.userId = userId →
      someRun world (fun held => held.overlooks row) = false
  | _ => True

instance (call : WalletCall) (turn : WalletTurn) (world : WalletWorld) :
    Decidable (call.Uncrossed turn world) := by
  unfold WalletCall.Uncrossed
  cases call <;> infer_instance

section Tables

variable {wallets after : WalletTable} {row : UserWalletRow}
variable {userId normalizedAddress : String} {now : Int}

theorem is_for_iff : row.isFor userId normalizedAddress = true ↔
      row.userId = userId ∧ row.normalizedAddress = normalizedAddress := by
  simp [UserWalletRow.isFor]

theorem mem_demote (there : row ∈ demoteRow wallets userId normalizedAddress) :
    (row ∈ wallets ∧ row.isFor userId normalizedAddress = false) ∨
      (row.claimed = false ∧ row.isFor userId normalizedAddress = true) := by
  have ⟨old, oldThere, isRow⟩ := Table.mem_shrink.mp there
  by_cases chosen : old.isFor userId normalizedAddress = true
  · right
    rw [if_pos chosen] at isRow
    subst isRow
    exact ⟨rfl, chosen⟩
  · left
    rw [if_neg chosen] at isRow
    subst isRow
    exact ⟨oldThere, by simpa using chosen⟩

theorem demote_keeps_row (there : row ∈ wallets)
    (other : row.isFor userId normalizedAddress = false) :
    row ∈ demoteRow wallets userId normalizedAddress := by
  apply Table.mem_shrink.mpr
  exact ⟨row, there, by rw [other]; rfl⟩

theorem mem_clear (there : row ∈ clearPrimaryRows wallets userId) :
    (row ∈ wallets ∧ row.userId ≠ userId) ∨
      ∃ old ∈ wallets, old.userId = userId ∧ row = old.cleared := by
  have ⟨old, oldThere, isRow⟩ := Table.mem_shrink.mp there
  by_cases own : old.userId = userId
  · right
    simp only [own, beq_self_eq_true, if_true] at isRow
    exact ⟨old, oldThere, own, isRow.symm⟩
  · left
    simp only [beq_iff_eq, own, if_false] at isRow
    subst isRow
    exact ⟨oldThere, own⟩

section

variable (upserted : upsertRow wallets userId normalizedAddress now = some after)
include upserted

theorem mem_upsert (there : row ∈ after) :
    (row ∈ wallets ∧ row.isFor userId normalizedAddress = false) ∨
      (row.isFor userId normalizedAddress = true ∧ row.isPrimary = true) := by
  unfold upsertRow at upserted
  split at upserted
  · have ⟨old, oldThere, isRow⟩ := (Table.mem_update upserted).mp there
    by_cases chosen : old.isFor userId normalizedAddress = true
    · right
      rw [if_pos chosen] at isRow
      subst isRow
      exact ⟨chosen, rfl⟩
    · left
      rw [if_neg chosen] at isRow
      subst isRow
      exact ⟨oldThere, by simpa using chosen⟩
  · rename_i missing
    cases (Table.mem_insert upserted).mp there with
    | inr isNew =>
      right
      subst isNew
      exact ⟨is_for_iff.mpr ⟨rfl, rfl⟩, rfl⟩
    | inl older =>
      left
      refine ⟨older, ?_⟩
      by_contra chosen
      rw [Bool.not_eq_false] at chosen
      exact missing (List.any_eq_true.mpr ⟨row, older, chosen⟩)

theorem upsert_keeps_row (there : row ∈ wallets)
    (other : row.isFor userId normalizedAddress = false) : row ∈ after := by
  unfold upsertRow at upserted
  split at upserted
  · apply (Table.mem_update upserted).mpr
    exact ⟨row, there, by rw [other]; rfl⟩
  · exact (Table.mem_insert upserted).mpr (.inl there)

theorem upsert_writes :
    ∃ row ∈ after, row.isFor userId normalizedAddress = true ∧ row.isPrimary = true ∧
      row.verifiedAt = some now := by
  unfold upsertRow at upserted
  split at upserted
  · rename_i present
    have ⟨old, oldThere, chosen⟩ := List.any_eq_true.mp present
    refine ⟨old.stored now, ?_, chosen, rfl, rfl⟩
    apply (Table.mem_update upserted).mpr
    exact ⟨old, oldThere, if_pos chosen⟩
  · refine ⟨(UserWalletRow.fresh userId normalizedAddress).stored now, ?_, ?_, rfl, rfl⟩
    · exact (Table.mem_insert upserted).mpr (.inr rfl)
    · exact is_for_iff.mpr ⟨rfl, rfl⟩

end

theorem primary_alone {first second : UserWalletRow} (firstThere : first ∈ wallets)
    (secondThere : second ∈ wallets) (firstPrimary : first.isPrimary = true)
    (secondPrimary : second.isPrimary = true)
    (same : first.normalizedAddress = second.normalizedAddress) : first = second := by
  have entry : ∀ row : UserWalletRow, row.isPrimary = true →
      WalletKey.primaryAddress row.normalizedAddress ∈ row.entries := by
    intro row primary
    simp [UserWalletRow.entries, primary]
  apply Table.eq_of_shared_entry firstThere secondThere (entry first firstPrimary)
  rw [same]
  exact entry second secondPrimary

end Tables

def Holds (wallets : WalletTable) (userId normalizedAddress : String) : Prop :=
  ∃ row ∈ wallets, row.isFor userId normalizedAddress = true ∧ row.verifiedAt.isSome = true

def Sole (wallets : WalletTable) (userId normalizedAddress : String) : Prop :=
  ∀ row ∈ wallets, row.normalizedAddress = normalizedAddress → row.claimed = true →
    row.userId = userId

structure Progress.Fits (held : Progress) (wallets : WalletTable) : Prop where
  covered : held.stage = .looked → ∀ row ∈ wallets,
    row.normalizedAddress = held.normalizedAddress → row.userId ≠ held.userId →
      row.claimed = true → row.isPrimary = true ∨ row.userId ∈ held.pending
  holds : held.stage = .stored → Holds wallets held.userId held.normalizedAddress
  sole : held.stage = .stored → Sole wallets held.userId held.normalizedAddress

theorem holds_claimed {wallets : WalletTable} {userId normalizedAddress : String}
    (holds : Holds wallets userId normalizedAddress) :
    ∃ row ∈ wallets, row.userId = userId ∧ row.normalizedAddress = normalizedAddress ∧
      row.claimed = true := by
  have ⟨row, there, isFor, verified⟩ := holds
  have ⟨user, address⟩ := is_for_iff.mp isFor
  refine ⟨row, there, user, address, ?_⟩
  simp [UserWalletRow.claimed, verified]

section Moves

variable {wallets after : WalletTable} {held : Progress}
variable {userId normalizedAddress : String} {now : Int}

variable {owner address : String}

theorem holds_demote (holds : Holds wallets owner address)
    (apart : ¬(owner = userId ∧ address = normalizedAddress)) :
    Holds (demoteRow wallets userId normalizedAddress) owner address := by
  have ⟨row, there, isFor, verified⟩ := holds
  refine ⟨row, demote_keeps_row there ?_, isFor, verified⟩
  by_contra chosen
  rw [Bool.not_eq_false] at chosen
  have ⟨user, at'⟩ := is_for_iff.mp isFor
  have ⟨sameUser, sameAddress⟩ := is_for_iff.mp chosen
  exact apart ⟨user.symm.trans sameUser, at'.symm.trans sameAddress⟩

theorem sole_demote (sole : Sole wallets owner address) :
    Sole (demoteRow wallets userId normalizedAddress) owner address := by
  intro row there same claimed
  cases mem_demote there with
  | inl older => exact sole row older.1 same claimed
  | inr written =>
    rw [written.1] at claimed
    cases claimed

theorem fits_demote (fits : held.Fits wallets)
    (free : held.owesAnswer userId normalizedAddress = false) :
    held.Fits (demoteRow wallets userId normalizedAddress) := by
  constructor
  · intro stage row there same apart claimed
    cases mem_demote there with
    | inl older => exact fits.covered stage row older.1 same apart claimed
    | inr written =>
      rw [written.1] at claimed
      cases claimed
  · intro stage
    apply holds_demote (fits.holds stage)
    intro owes
    simp [Progress.owesAnswer, stage, owes.1, owes.2] at free
  · intro stage
    exact sole_demote (fits.sole stage)

theorem fits_demotes (fits : held.Fits wallets) (stage : held.stage = .looked)
    (address : held.normalizedAddress = normalizedAddress) :
    (held.demotes userId).Fits (demoteRow wallets userId normalizedAddress) := by
  constructor
  · intro _ row there same apart claimed
    cases mem_demote there with
    | inr written =>
      rw [written.1] at claimed
      cases claimed
    | inl older =>
      cases fits.covered stage row older.1 same apart claimed with
      | inl primary => exact .inl primary
      | inr pending =>
        right
        simp only [Progress.demotes, List.mem_filter, decide_eq_true_eq]
        refine ⟨pending, ?_⟩
        intro isUser
        have chosen : row.isFor userId normalizedAddress = true :=
          is_for_iff.mpr ⟨isUser, same.trans address⟩
        rw [older.2] at chosen
        cases chosen
  · intro isStored
    simp only [Progress.demotes, stage] at isStored
    cases isStored
  · intro isStored
    simp only [Progress.demotes, stage] at isStored
    cases isStored

theorem holds_clear (holds : Holds wallets owner address) :
    Holds (clearPrimaryRows wallets userId) owner address := by
  have ⟨row, there, isFor, verified⟩ := holds
  by_cases own : row.userId = userId
  · refine ⟨row.cleared, ?_, isFor, verified⟩
    apply Table.mem_shrink.mpr
    exact ⟨row, there, if_pos (by simpa using own)⟩
  · refine ⟨row, ?_, isFor, verified⟩
    apply Table.mem_shrink.mpr
    exact ⟨row, there, if_neg (by simpa using own)⟩

theorem cleared_claimed {row : UserWalletRow} (claimed : row.cleared.claimed = true) :
    row.claimed = true ∧ row.verifiedAt.isSome = true := by
  simp only [UserWalletRow.claimed, UserWalletRow.cleared, Bool.false_or] at claimed ⊢
  rw [claimed]
  simp

theorem sole_clear (sole : Sole wallets owner address) :
    Sole (clearPrimaryRows wallets userId) owner address := by
  intro row there same claimed
  cases mem_clear there with
  | inl older => exact sole row older.1 same claimed
  | inr written =>
    have ⟨old, oldThere, _, isRow⟩ := written
    subst isRow
    exact sole old oldThere same (cleared_claimed claimed).1

theorem fits_clear (fits : held.Fits wallets) (seen : held.userId = userId ∨
      ∀ row ∈ wallets.rows, row.userId = userId → held.overlooks row = false) :
    held.Fits (clearPrimaryRows wallets userId) := by
  constructor
  · intro stage row there same apart claimed
    cases mem_clear there with
    | inl older => exact fits.covered stage row older.1 same apart claimed
    | inr written =>
      have ⟨old, oldThere, own, isRow⟩ := written
      subst isRow
      have ⟨oldClaimed, verified⟩ := cleared_claimed claimed
      have oldApart : old.userId ≠ held.userId := apart
      have oldSame : old.normalizedAddress = held.normalizedAddress := same
      cases fits.covered stage old oldThere same apart oldClaimed with
      | inr pending => exact .inr pending
      | inl primary =>
        cases seen with
        | inl isOwn => exact absurd (own.trans isOwn.symm) oldApart
        | inr loaded =>
          have overlooked := loaded old oldThere own
          right
          by_contra missing
          simp [Progress.overlooks, stage, oldSame, primary, verified,
            Ne.symm oldApart] at overlooked
          exact missing overlooked
  · intro stage
    exact holds_clear (fits.holds stage)
  · intro stage
    exact sole_clear (fits.sole stage)

theorem holds_upsert (upserted : upsertRow wallets userId normalizedAddress now = some after)
    (holds : Holds wallets owner address) : Holds after owner address := by
  have ⟨row, there, isFor, verified⟩ := holds
  cases chosen : row.isFor userId normalizedAddress with
  | false => exact ⟨row, upsert_keeps_row upserted there chosen, isFor, verified⟩
  | true =>
    have ⟨written, writtenThere, writtenFor, _, writtenAt⟩ := upsert_writes upserted
    refine ⟨written, writtenThere, ?_, by rw [writtenAt]; rfl⟩
    have ⟨user, at'⟩ := is_for_iff.mp isFor
    have ⟨sameUser, sameAddress⟩ := is_for_iff.mp chosen
    have ⟨ownUser, ownAddress⟩ := is_for_iff.mp writtenFor
    apply is_for_iff.mpr
    constructor
    · rw [ownUser, ← sameUser, user]
    · rw [ownAddress, ← sameAddress, at']

theorem upsert_holds (upserted : upsertRow wallets userId normalizedAddress now = some after) :
    Holds after userId normalizedAddress := by
  have ⟨row, there, isFor, _, verified⟩ := upsert_writes upserted
  exact ⟨row, there, isFor, by rw [verified]; rfl⟩

theorem upsert_sole (fits : held.Fits wallets) (stage : held.stage = .looked)
    (user : held.userId = userId) (address : held.normalizedAddress = normalizedAddress)
    (demoted : held.pending = [])
    (upserted : upsertRow wallets userId normalizedAddress now = some after) :
    Sole after userId normalizedAddress := by
  intro row there same claimed
  cases mem_upsert upserted there with
  | inr written => exact (is_for_iff.mp written.1).1
  | inl older =>
    by_contra apart
    have covered := fits.covered stage row older.1 (same.trans address.symm)
      (fun isUser => apart (isUser.trans user)) claimed
    cases covered with
    | inr pending =>
      rw [demoted] at pending
      cases pending
    | inl primary =>
      have ⟨written, writtenThere, writtenFor, writtenPrimary, _⟩ := upsert_writes upserted
      have ⟨ownUser, ownAddress⟩ := is_for_iff.mp writtenFor
      have isWritten := primary_alone there writtenThere primary writtenPrimary
        (same.trans ownAddress.symm)
      rw [isWritten] at apart
      exact apart ownUser

theorem fits_upsert (fits : held.Fits wallets)
    (upserted : upsertRow wallets userId normalizedAddress now = some after)
    (sole : Sole after userId normalizedAddress) : held.Fits after := by
  constructor
  · intro stage row there same apart claimed
    cases mem_upsert upserted there with
    | inl older => exact fits.covered stage row older.1 same apart claimed
    | inr written => exact .inl written.2
  · intro stage
    exact holds_upsert upserted (fits.holds stage)
  · intro stage row there same claimed
    cases mem_upsert upserted there with
    | inl older => exact fits.sole stage row older.1 same claimed
    | inr written =>
      -- the run that stored its row would have refused the index this one
      have ⟨ownUser, ownAddress⟩ := is_for_iff.mp written.1
      have ⟨other, otherThere, otherUser, otherAddress, otherClaimed⟩ :=
        holds_claimed (holds_upsert upserted (fits.holds stage))
      have isOwn := sole other otherThere (otherAddress.trans (same.symm.trans ownAddress))
        otherClaimed
      rw [ownUser, ← otherUser, isOwn]

theorem fits_stored (fits : held.Fits wallets) (stage : held.stage = .looked)
    (user : held.userId = userId) (address : held.normalizedAddress = normalizedAddress)
    (demoted : held.pending = [])
    (upserted : upsertRow wallets userId normalizedAddress now = some after) :
    ({ held with stage := .stored } : Progress).Fits after := by
  constructor
  · intro isLooked
    cases isLooked
  · intro _
    have holds := upsert_holds upserted
    rw [← user, ← address] at holds
    exact holds
  · intro _
    have sole := upsert_sole fits stage user address demoted upserted
    rw [← user, ← address] at sole
    exact sole

end Moves

structure HoldersSound (world : WalletWorld) : Prop where
  keep : takeoverTypestate.AllKeep Concluded Broke world
  fits : ∀ number held, world.waits number = true →
    world.store.states number = some held → held.Fits world.store.store.wallets

def Uncrossed (world : WalletWorld) : Event VerifyCall WalletTurn Empty → Prop
  | .advance number turn =>
    match world.runs[number]? with
    | some (some (.call call _)) => call.Uncrossed turn world
    | _ => True
  | _ => True

/-- A run that waits for an answer asks what holds of its call. -/
def OnCall (slot : Option (Option (WalletScript Verification)))
    (holds : WalletCall → Prop) : Prop :=
  match slot with
  | some (some (.call call _)) => holds call
  | _ => True

instance (slot : Option (Option (WalletScript Verification)))
    (holds : WalletCall → Prop) [DecidablePred holds] : Decidable (OnCall slot holds) := by
  unfold OnCall
  split <;> infer_instance

instance (world : WalletWorld) (event : Event VerifyCall WalletTurn Empty) :
    Decidable (Uncrossed world event) :=
  match event with
  | .advance number turn =>
    inferInstanceAs (Decidable (OnCall world.runs[number]? fun call => call.Uncrossed turn world))
  | .start _ => instDecidableTrue
  | .stop _ => instDecidableTrue
  | .outside _ => instDecidableTrue

section Steps

variable {wallets : WalletTable} {held after : Progress}

theorem fits_same (fits : held.Fits wallets) (user : after.userId = held.userId)
    (address : after.normalizedAddress = held.normalizedAddress)
    (stage : after.stage = held.stage) (pending : after.pending = held.pending) :
    after.Fits wallets := by
  constructor
  · rw [user, address, stage, pending]
    exact fits.covered
  · rw [user, address, stage]
    exact fits.holds
  · rw [user, address, stage]
    exact fits.sole

theorem fits_broken (fits : held.Fits wallets) : held.breaks.Fits wallets :=
  fits_same fits rfl rfl rfl rfl

theorem fits_loaded {userId normalizedAddress : String} (user : held.userId = userId)
    (address : held.normalizedAddress = normalizedAddress) (stage : held.stage = .looked) :
    ({ held with
       pending := ((wallets.selectWhere fun row =>
         row.normalizedAddress == normalizedAddress && row.userId != userId).filter
           UserWalletRow.claimed).map UserWalletRow.userId } : Progress).Fits wallets := by
  constructor
  · intro _ row there same apart claimed
    right
    apply List.mem_map.mpr
    refine ⟨row, ?_, rfl⟩
    rw [List.mem_filter]
    refine ⟨?_, claimed⟩
    unfold Table.selectWhere
    rw [List.mem_filter]
    refine ⟨there, ?_⟩
    dsimp only at same apart
    rw [user] at apart
    rw [address] at same
    simp [same, apart]
  · intro isStored
    rw [stage] at isStored
    cases isStored
  · intro isStored
    rw [stage] at isStored
    cases isStored

variable {world : WalletWorld} {number : Nat} {turn : WalletTurn} {call : WalletCall}

variable {other : Nat} {progress : Option Progress}

theorem perform_others (permitted : permitsWallet call (world.store.states number))
    (own : ∀ held, world.store.states number = some held → held.Fits world.store.store.wallets)
    (uncrossed : call.Uncrossed turn world) (runs : world.waits other = true)
    (state : world.store.states other = some held) (fits : held.Fits world.store.store.wallets) :
    held.Fits (performWallet call turn world.store.store).1.wallets := by
  cases fails : turn.fails with
  | true => cases call <;> simpa [performWallet, fails] using fits
  | false =>
    cases call with
    | demote userId normalizedAddress =>
      simp only [performWallet, fails, Bool.false_eq_true, if_false]
      exact fits_demote fits (no_run (uncrossed fails) runs state)
    | clearPrimary userId =>
      simp only [performWallet, fails, Bool.false_eq_true, if_false]
      apply fits_clear fits
      right
      intro row there isOwn
      exact no_run (uncrossed fails row there isOwn) runs state
    | upsert attempt userId normalizedAddress now =>
      obtain ⟨mine, isMine, looks, demoted⟩ := permitted
      simp only [performWallet, fails, Bool.false_eq_true, if_false]
      cases upserted : upsertRow world.store.store.wallets userId normalizedAddress now with
      | none => exact fits
      | some wallets =>
        apply fits_upsert fits upserted
        exact upsert_sole (own mine isMine) looks.stage looks.user looks.address demoted
          upserted
    | _ =>
      simpa [performWallet, fails] using fits

/-- The request changes no row, and neither the stage of its run nor its claims. -/
def WalletCall.quiet : WalletCall → Bool
  | .loadClaims _ _ => false
  | .demote _ _ => false
  | .clearPrimary _ => false
  | .upsert _ _ _ _ => false
  | .answer _ _ => false
  | _ => true

theorem quiet_moves {call : WalletCall} {reply : call.Reply} (quiet : call.quiet = true)
    (isAfter : moveProgress call reply progress = some after) :
    ∃ held, progress = some held ∧ after.userId = held.userId ∧
      after.normalizedAddress = held.normalizedAddress ∧ after.stage = held.stage ∧
      after.pending = held.pending := by
  cases progress with
  | none =>
    cases call with
    | loadLockSnapshot userId normalizedAddress | loadPrimaryWallet userId =>
      simp [moveProgress] at isAfter
    | loadClaims userId normalizedAddress | demote userId normalizedAddress
    | clearPrimary userId | upsert attempt userId normalizedAddress now
    | answer userId normalizedAddress => cases quiet
    | _ => cases isAfter
  | some held =>
    refine ⟨held, rfl, ?_⟩
    cases call with
    | markChallenge challengeId status | breachTiers userId | suspendBoost userId
    | reportOpsEvent userId =>
      change Bool at reply
      cases reply <;> cases isAfter <;> exact ⟨rfl, rfl, rfl, rfl⟩
    | loadLockSnapshot userId normalizedAddress | loadPrimaryWallet userId =>
      simp only [moveProgress] at isAfter
      split at isAfter <;> cases isAfter <;> exact ⟨rfl, rfl, rfl, rfl⟩
    | loadClaims userId normalizedAddress | demote userId normalizedAddress
    | clearPrimary userId | upsert attempt userId normalizedAddress now
    | answer userId normalizedAddress => cases quiet
    | _ =>
      cases isAfter
      exact ⟨rfl, rfl, rfl, rfl⟩

theorem quiet_wallets {call : WalletCall} (quiet : call.quiet = true) (turn : WalletTurn)
    (store : WalletStore) : (performWallet call turn store).1.wallets = store.wallets := by
  cases call with
  | markChallenge challengeId status | insertSnapshot snapshot | breachTiers userId
  | suspendBoost userId | reportOpsEvent userId =>
    cases fails : turn.fails <;> simp [performWallet, fails]
  | loadClaims userId normalizedAddress | demote userId normalizedAddress
  | clearPrimary userId | upsert attempt userId normalizedAddress now
  | answer userId normalizedAddress => cases quiet
  | _ => rfl

theorem fits_answered
    (isAfter : progress.map (fun held => { held with stage := .answered }) = some after) :
    after.Fits wallets := by
  rw [Option.map_eq_some_iff] at isAfter
  have ⟨_, _, isAnswered⟩ := isAfter
  rw [← isAnswered]
  constructor
  · intro stage
    cases stage
  · intro stage
    cases stage
  · intro stage
    cases stage

theorem failed_own (loud : ¬call.quiet = true) (fails : turn.fails = true)
    (own : ∀ held, world.store.states number = some held → held.Fits world.store.store.wallets)
    (isAfter : moveProgress call (performWallet call turn world.store.store).2
      (world.store.states number) = some after) :
    after.Fits (performWallet call turn world.store.store).1.wallets := by
  cases call with
  | answer userId normalizedAddress => exact fits_answered isAfter
  | loadClaims userId normalizedAddress | demote userId normalizedAddress | clearPrimary userId
  | upsert attempt userId normalizedAddress now =>
    simp only [performWallet, fails, if_true] at isAfter ⊢
    obtain ⟨held, isHeld, isBroken⟩ := Option.map_eq_some_iff.mp isAfter
    rw [← isBroken]
    exact fits_broken (own held isHeld)
  | _ => exact absurd rfl loud

theorem perform_own (permitted : permitsWallet call (world.store.states number))
    (own : ∀ held, world.store.states number = some held →
      held.Fits world.store.store.wallets)
    (isAfter : moveProgress call (performWallet call turn world.store.store).2
      (world.store.states number) = some after) :
    after.Fits (performWallet call turn world.store.store).1.wallets := by
  by_cases quiet : call.quiet = true
  · rw [quiet_wallets quiet]
    obtain ⟨held, isHeld, user, address, stage, pending⟩ := quiet_moves quiet isAfter
    exact fits_same (own held isHeld) user address stage pending
  cases fails : turn.fails with
  | true => exact failed_own quiet fails own isAfter
  | false =>
    cases call with
    | answer userId normalizedAddress => exact fits_answered isAfter
    | loadClaims userId normalizedAddress =>
      simp only [performWallet, fails, Bool.false_eq_true] at isAfter ⊢
      cases state : world.store.states number with
      | none =>
        rw [state] at isAfter
        cases isAfter
        exact fits_loaded rfl rfl rfl
      | some held =>
        rw [state] at isAfter
        have looks := permitted held state
        cases isAfter
        exact fits_loaded looks.user looks.address looks.stage
    | demote userId normalizedAddress =>
      obtain ⟨held, isHeld, looks⟩ := permitted
      rw [isHeld] at isAfter
      simp only [performWallet, fails, Bool.false_eq_true, if_false] at isAfter ⊢
      cases isAfter
      exact fits_demotes (own held isHeld) looks.stage looks.address
    | clearPrimary userId =>
      obtain ⟨held, isHeld, looks⟩ := permitted
      rw [isHeld] at isAfter
      simp only [performWallet, fails, Bool.false_eq_true, if_false] at isAfter ⊢
      cases isAfter
      exact fits_clear (own held isHeld) (.inl looks.user)
    | upsert attempt userId normalizedAddress now =>
      obtain ⟨held, isHeld, looks, demoted⟩ := permitted
      have fits := own held isHeld
      rw [isHeld] at isAfter
      simp only [performWallet, fails, Bool.false_eq_true, if_false] at isAfter ⊢
      cases upserted : upsertRow world.store.store.wallets userId normalizedAddress now with
      | some wallets =>
        simp only [upserted] at isAfter ⊢
        cases isAfter
        exact fits_stored fits looks.stage looks.user looks.address demoted upserted
      | none =>
        simp only [upserted] at isAfter ⊢
        by_cases first : attempt = 0
        · simp only [moveProgress, Option.map_some, if_pos first] at isAfter
          cases isAfter
          exact fits
        · simp only [moveProgress, Option.map_some, if_neg first] at isAfter
          cases isAfter
          exact fits_broken fits
    | _ => exact absurd rfl quiet

theorem started_running {job : VerifyCall} (keep : takeoverTypestate.AllKeep Concluded Broke world)
    (state : world.store.states other = some held)
    (runs : (walletSystem.step world (.start job)).waits other = true) :
    world.waits other = true := by
  have inside : other < world.runs.length := by
    by_contra beyond
    have unstarted := keep.unstarted other (by omega)
    rw [state] at unstarted
    cases unstarted
  exact System.waits_before_start inside runs

section Advance

variable {next : call.Reply → WalletScript Verification}

section

variable (current : world.runs[number]? = some (some (.call call next)))
include current

theorem advance_store (turn : WalletTurn) :
    (walletSystem.step world (.advance number turn)).store.store =
      (performWallet call turn world.store.store).1 := by
  unfold walletSystem
  rw [step_advance current]
  rfl

theorem advance_own (turn : WalletTurn) :
    (walletSystem.step world (.advance number turn)).store.states number =
      moveProgress call (performWallet call turn world.store.store).2
        (world.store.states number) := by
  unfold walletSystem
  rw [step_advance current]
  exact if_pos rfl

theorem advance_other (turn : WalletTurn) {other : Nat} (apart : other ≠ number) :
    (walletSystem.step world (.advance number turn)).store.states other =
      world.store.states other := by
  unfold walletSystem
  rw [step_advance current]
  exact if_neg apart

theorem advance_running (turn : WalletTurn) {other : Nat} (apart : other ≠ number) :
    (walletSystem.step world (.advance number turn)).waits other = world.waits other := by
  unfold walletSystem
  rw [step_advance current]
  unfold World.waits
  rw [List.getElem?_set_ne fun same => apart same.symm]

end

theorem advance_sound (sound : HoldersSound world)
    (current : world.runs[number]? = some (some (.call call next)))
    (uncrossed : call.Uncrossed turn world) :
    HoldersSound (walletSystem.step world (.advance number turn)) := by
  have runs : world.waits number = true := by
    unfold World.waits
    rw [current]
  have own := sound.fits number
  have permitted := (sound.keep.keeps number _ current).1
  constructor
  · exact keep_step verify_keeps _ sound.keep
  · intro other held otherRuns state
    rw [advance_store current turn]
    by_cases isOwn : other = number
    · subst isOwn
      rw [advance_own current turn] at state
      exact perform_own permitted (fun held => own held runs) state
    · rw [advance_other current turn isOwn] at state
      rw [advance_running current turn isOwn] at otherRuns
      exact perform_others permitted (fun held => own held runs) uncrossed otherRuns state
        (sound.fits other held otherRuns state)

end Advance

theorem step_sound (sound : HoldersSound world) (event : Event VerifyCall WalletTurn Empty)
    (uncrossed : Uncrossed world event) : HoldersSound (walletSystem.step world event) := by
  cases event with
  | outside change => exact change.elim
  | start job =>
    constructor
    · exact keep_step verify_keeps _ sound.keep
    · intro other held runs state
      exact sound.fits other held (started_running sound.keep state runs) state
  | stop number =>
    constructor
    · exact keep_step verify_keeps _ sound.keep
    · intro other held runs state
      exact sound.fits other held (System.waits_before_stop runs) state
  | advance number turn =>
    unfold Uncrossed at uncrossed
    dsimp only at uncrossed
    split at uncrossed
    · rename_i call next current
      exact advance_sound sound current uncrossed
    · rename_i idle
      have still : walletSystem.step world (.advance number turn) = world := by
        simp only [System.step]
      rw [still]
      exact sound

theorem start_sound (store : WalletStore) : HoldersSound (takeoverTypestate.start store) := by
  constructor
  · exact start_keeps store
  · intro number held runs
    cases runs

end Steps

end Hivra.WalletTakeover
