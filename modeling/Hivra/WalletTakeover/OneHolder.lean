import Hivra.Library.FollowedRows
import Hivra.WalletTakeover.SoleHolders

/-!
# One account per wallet

As long as runs do not cross and a run that has demoted another account's row goes on to its
answer, an address is claimed by one account when no run is left, and by the account whose run
answered last.
-/

namespace Hivra.WalletTakeover

open Hivra.Library Typestate

def Progress.taking (held : Progress) : Bool :=
  !held.demoted.isEmpty && held.stage != .answered

def taker (world : WalletWorld) (number : Nat) : Bool :=
  world.waits number && (world.store.states number).any Progress.taking

def WalletCall.breaks (call : WalletCall) (turn : WalletTurn) (store : WalletStore) : Bool :=
  match call with
  | .loadClaims _ _ => turn.fails
  | .demote _ _ => turn.fails
  | .clearPrimary _ => turn.fails
  | .markChallenge _ _ => turn.fails
  | .upsert attempt userId normalizedAddress now =>
    turn.fails ||
      attempt != 0 && (upsertRow store.wallets userId normalizedAddress now).isNone
  | _ => false

/-- Runs do not cross, and a run that has demoted another account's row neither stops nor
throws before it answers. -/
def HoldersKept (world : WalletWorld) (event : Event VerifyCall WalletTurn Empty) : Prop :=
  Uncrossed world event ∧
    match event with
    | .stop number => taker world number = false
    | .advance number turn =>
      match world.runs[number]? with
      | some (some (.call call _)) =>
        call.breaks turn world.store.store = true → taker world number = false
      | _ => True
    | _ => True

instance (world : WalletWorld) (event : Event VerifyCall WalletTurn Empty) :
    Decidable (HoldersKept world event) :=
  match event with
  | .advance number turn =>
    inferInstanceAs (Decidable (Uncrossed world (.advance number turn) ∧
      OnCall world.runs[number]? fun call =>
        call.breaks turn world.store.store = true → taker world number = false))
  | .start job => inferInstanceAs (Decidable (Uncrossed world (.start job) ∧ True))
  | .stop number =>
    inferInstanceAs (Decidable (Uncrossed world (.stop number) ∧ taker world number = false))
  | .outside change => change.elim

def lastAnswer (answers : List Answered) (normalizedAddress : String) : Option String :=
  (answers.find? fun answer => answer.normalizedAddress == normalizedAddress).map
    Answered.userId

def Alone (wallets : WalletTable) : Prop :=
  ∀ first ∈ wallets, ∀ second ∈ wallets, first.claimed = true → second.claimed = true →
    first.normalizedAddress = second.normalizedAddress → first.userId = second.userId

def Takes (world : WalletWorld) (normalizedAddress : String) (number : Nat) : Prop :=
  world.waits number = true ∧ ∃ held, world.store.states number = some held ∧
    held.normalizedAddress = normalizedAddress ∧ held.taking = true

structure AnswersSound (world : WalletWorld) : Prop where
  holders : HoldersSound world
  alone : Alone world.store.store.wallets
  answered : ∀ userId normalizedAddress,
    lastAnswer world.store.store.answers normalizedAddress = some userId →
      Holds world.store.store.wallets userId normalizedAddress ∨
        ∃ number, Takes world normalizedAddress number
  unbroken : ∀ number held, world.store.states number = some held →
    world.waits number = true → held.taking = true → held.broken = false

section Rows

variable {wallets after : WalletTable} {userId normalizedAddress : String} {now : Int}

theorem alone_demote (alone : Alone wallets) :
    Alone (demoteRow wallets userId normalizedAddress) := by
  have older : ∀ row ∈ demoteRow wallets userId normalizedAddress, row.claimed = true →
      row ∈ wallets := by
    intro row there claimed
    cases mem_demote there with
    | inl older => exact older.1
    | inr written =>
      rw [written.1] at claimed
      cases claimed
  intro first firstThere second secondThere firstClaimed secondClaimed
  exact alone first (older first firstThere firstClaimed) second
    (older second secondThere secondClaimed) firstClaimed secondClaimed

theorem alone_clear (alone : Alone wallets) : Alone (clearPrimaryRows wallets userId) := by
  have older : ∀ row ∈ clearPrimaryRows wallets userId, row.claimed = true →
      ∃ old ∈ wallets, old.claimed = true ∧ old.userId = row.userId ∧
        old.normalizedAddress = row.normalizedAddress := by
    intro row there claimed
    cases mem_clear there with
    | inl older => exact ⟨row, older.1, claimed, rfl, rfl⟩
    | inr written =>
      have ⟨old, oldThere, _, isRow⟩ := written
      subst isRow
      exact ⟨old, oldThere, (cleared_claimed claimed).1, rfl, rfl⟩
  intro first firstThere second secondThere firstClaimed secondClaimed same
  have ⟨one, oneThere, oneClaimed, oneUser, oneAddress⟩ := older first firstThere firstClaimed
  have ⟨two, twoThere, twoClaimed, twoUser, twoAddress⟩ := older second secondThere secondClaimed
  rw [← oneUser, ← twoUser]
  apply alone one oneThere two twoThere oneClaimed twoClaimed
  rw [oneAddress, twoAddress, same]

theorem alone_upsert (alone : Alone wallets)
    (upserted : upsertRow wallets userId normalizedAddress now = some after)
    (sole : Sole after userId normalizedAddress) : Alone after := by
  intro first firstThere second secondThere firstClaimed secondClaimed same
  by_cases own : first.normalizedAddress = normalizedAddress
  · rw [sole first firstThere own firstClaimed,
      sole second secondThere (same.symm.trans own) secondClaimed]
  · have older : ∀ row ∈ after, row.normalizedAddress ≠ normalizedAddress → row ∈ wallets := by
      intro row there apart
      cases mem_upsert upserted there with
      | inl older => exact older.1
      | inr written => exact absurd (is_for_iff.mp written.1).2 apart
    apply alone first (older first firstThere own) second _ firstClaimed secondClaimed same
    apply older second secondThere
    rw [← same]
    exact own

end Rows

section Requests

variable {world : WalletWorld} {number : Nat} {turn : WalletTurn} {call : WalletCall}

inductive WalletsWritten (call : WalletCall) (turn : WalletTurn) (wallets : WalletTable) :
    WalletTable → Prop
  | same : WalletsWritten call turn wallets wallets
  | demoted (userId normalizedAddress : String) (isCall : call = .demote userId normalizedAddress)
      (succeeds : turn.fails = false) :
      WalletsWritten call turn wallets (demoteRow wallets userId normalizedAddress)
  | cleared (userId : String) (isCall : call = .clearPrimary userId) :
      WalletsWritten call turn wallets (clearPrimaryRows wallets userId)
  | upserted (attempt : Nat) (userId normalizedAddress : String) (now : Int)
      (isCall : call = .upsert attempt userId normalizedAddress now) (after : WalletTable)
      (upserted : upsertRow wallets userId normalizedAddress now = some after) :
      WalletsWritten call turn wallets after

theorem wallets_written (call : WalletCall) (turn : WalletTurn) (store : WalletStore) :
    WalletsWritten call turn store.wallets (performWallet call turn store).1.wallets := by
  by_cases quiet : call.quiet = true
  · rw [quiet_wallets quiet]
    exact .same
  cases fails : turn.fails with
  | true =>
    cases failed_performs call fails store with
    | inl same =>
      rw [same]
      exact .same
    | inr answered =>
      obtain ⟨userId, normalizedAddress, rfl⟩ := answered
      exact .same
  | false =>
    cases call with
    | loadClaims userId normalizedAddress | answer userId normalizedAddress => exact .same
    | demote userId normalizedAddress =>
      simp only [performWallet, fails, Bool.false_eq_true, if_false]
      exact .demoted userId normalizedAddress rfl fails
    | clearPrimary userId =>
      simp only [performWallet, fails, Bool.false_eq_true, if_false]
      exact .cleared userId rfl
    | upsert attempt userId normalizedAddress now =>
      simp only [performWallet, fails, Bool.false_eq_true, if_false]
      cases upserted : upsertRow store.wallets userId normalizedAddress now with
      | none => exact .same
      | some wallets => exact .upserted attempt userId normalizedAddress now rfl wallets upserted
    | _ => exact absurd rfl quiet

theorem perform_alone (permitted : permitsWallet call (world.store.states number))
    (own : ∀ held, world.store.states number = some held →
      held.Fits world.store.store.wallets)
    (alone : Alone world.store.store.wallets) :
    Alone (performWallet call turn world.store.store).1.wallets := by
  have written := wallets_written call turn world.store.store
  generalize (performWallet call turn world.store.store).1.wallets = next at written ⊢
  cases written with
  | same => exact alone
  | demoted userId normalizedAddress isCall succeeds => exact alone_demote alone
  | cleared userId isCall => exact alone_clear alone
  | upserted attempt userId normalizedAddress now isCall after upserted =>
    subst isCall
    have ⟨held, isHeld, looks, demoted⟩ := permitted
    apply alone_upsert alone upserted
    exact upsert_sole (own held isHeld) looks.stage looks.user looks.address demoted upserted

theorem perform_holds (call : WalletCall) (turn : WalletTurn) {owner address : String}
    (holds : Holds world.store.store.wallets owner address) :
    Holds (performWallet call turn world.store.store).1.wallets owner address ∨
      call = .demote owner address ∧ turn.fails = false := by
  have written := wallets_written call turn world.store.store
  generalize (performWallet call turn world.store.store).1.wallets = next at written ⊢
  cases written with
  | same => exact .inl holds
  | cleared userId isCall => exact .inl (holds_clear holds)
  | upserted attempt userId normalizedAddress now isCall after upserted =>
    exact .inl (holds_upsert upserted holds)
  | demoted userId normalizedAddress isCall succeeds =>
    by_cases own : owner = userId ∧ address = normalizedAddress
    · right
      rw [isCall, own.1, own.2]
      exact ⟨rfl, succeeds⟩
    · left
      exact holds_demote holds own

def WalletCall.answers : WalletCall → Bool
  | .answer _ _ => true
  | _ => false

theorem perform_answers (silent : call.answers = false) (store : WalletStore) :
    (performWallet call turn store).1.answers = store.answers := by
  cases call with
  | answer userId normalizedAddress => cases silent
  | markChallenge challengeId status | demote userId normalizedAddress | clearPrimary userId
  | insertSnapshot snapshot | breachTiers userId | suspendBoost userId
  | reportOpsEvent userId => cases fails : turn.fails <;> simp [performWallet, fails]
  | upsert attempt userId normalizedAddress now =>
    cases fails : turn.fails with
    | true => simp [performWallet, fails]
    | false =>
      simp only [performWallet, fails, Bool.false_eq_true, if_false]
      cases upsertRow store.wallets userId normalizedAddress now <;> rfl
  | _ => rfl

structure Progress.GoesOn (before after : Progress) : Prop where
  address : after.normalizedAddress = before.normalizedAddress
  demoted : before.demoted ⊆ after.demoted
  broken : after.broken = before.broken
  stage : after.stage = .answered ↔ before.stage = .answered
  first : after.demoted = before.demoted ∨ before.broken = false

theorem goes_on {before after : Progress}
    (address : after.normalizedAddress = before.normalizedAddress)
    (demoted : after.demoted = before.demoted) (broken : after.broken = before.broken)
    (stage : after.stage = before.stage) : before.GoesOn after := by
  constructor
  · exact address
  · rw [demoted]
    exact List.Subset.refl _
  · exact broken
  · rw [stage]
  · exact .inl demoted

variable {store : WalletStore} {held : Progress}

theorem progress_goes_on (permitted : permitsWallet call (some held))
    (silent : call.answers = false) (whole : call.breaks turn store = false) :
    ∃ after, moveProgress call (performWallet call turn store).2 (some held) = some after ∧
      held.GoesOn after := by
  cases call with
  | answer userId normalizedAddress => cases silent
  | loadLockSnapshot userId normalizedAddress | loadPrimaryWallet userId =>
    simp only [moveProgress]
    split
    · exact ⟨_, rfl, goes_on rfl rfl rfl rfl⟩
    · exact ⟨held, rfl, goes_on rfl rfl rfl rfl⟩
  | breachTiers userId | suspendBoost userId | reportOpsEvent userId =>
    generalize (performWallet _ turn store).2 = reply
    change Bool at reply
    cases reply <;> exact ⟨_, rfl, goes_on rfl rfl rfl rfl⟩
  | loadClaims userId normalizedAddress =>
    have succeeds : turn.fails = false := whole
    simp only [performWallet, succeeds, Bool.false_eq_true]
    exact ⟨_, rfl, goes_on rfl rfl rfl rfl⟩
  | markChallenge challengeId status | clearPrimary userId =>
    have succeeds : turn.fails = false := whole
    simp only [performWallet, succeeds, Bool.false_eq_true]
    exact ⟨held, rfl, goes_on rfl rfl rfl rfl⟩
  | demote userId normalizedAddress =>
    have succeeds : turn.fails = false := whole
    obtain ⟨_, isHeld, looks⟩ := permitted
    cases isHeld
    simp only [performWallet, succeeds, Bool.false_eq_true]
    refine ⟨_, rfl, rfl, List.subset_append_left _ _, rfl, Iff.rfl, .inr looks.unbroken⟩
  | upsert attempt userId normalizedAddress now =>
    simp only [WalletCall.breaks, Bool.or_eq_false_iff] at whole
    obtain ⟨succeeds, accepted⟩ := whole
    obtain ⟨_, isHeld, looks, _⟩ := permitted
    cases isHeld
    simp only [performWallet, succeeds, Bool.false_eq_true, if_false]
    cases upserted : upsertRow store.wallets userId normalizedAddress now with
    | some wallets =>
      refine ⟨_, rfl, rfl, List.Subset.refl _, rfl, ?_, .inl rfl⟩
      simp [looks.stage]
    | none =>
      rw [upserted] at accepted
      have first : attempt = 0 := by simpa using accepted
      subst first
      exact ⟨held, rfl, goes_on rfl rfl rfl rfl⟩
  | _ =>
    exact ⟨held, rfl, goes_on rfl rfl rfl rfl⟩

theorem progress_breaks (breaks : call.breaks turn store = true) :
    moveProgress call (performWallet call turn store).2 (some held) = some held.breaks := by
  cases call with
  | loadClaims userId normalizedAddress | markChallenge challengeId status
  | clearPrimary userId | demote userId normalizedAddress =>
    have fails : turn.fails = true := breaks
    simp only [performWallet, fails, if_true]
    rfl
  | upsert attempt userId normalizedAddress now =>
    cases fails : turn.fails with
    | true =>
      simp only [performWallet, fails, if_true]
      rfl
    | false =>
      simp only [WalletCall.breaks, fails, Bool.false_or, Bool.and_eq_true, bne_iff_ne,
        Option.isNone_iff_eq_none] at breaks
      simp only [performWallet, fails, Bool.false_eq_true, if_false, breaks.2, moveProgress,
        Option.map_some, if_neg breaks.1]
  | _ => cases breaks

theorem moved_unbroken {progress : Option Progress} {store : WalletStore} {after : Progress}
    (permitted : permitsWallet call progress)
    (unbroken : ∀ held, progress = some held → held.taking = true →
      held.broken = false ∧ call.breaks turn store = false)
    (isAfter : moveProgress call (performWallet call turn store).2 progress = some after)
    (taking : after.taking = true) : after.broken = false := by
  cases progress with
  | none =>
    cases call with
    | loadClaims userId normalizedAddress =>
      cases fails : turn.fails with
      | true =>
        simp only [performWallet, fails] at isAfter
        cases isAfter
      | false =>
        simp only [performWallet, fails, Bool.false_eq_true] at isAfter
        cases isAfter
        rfl
    | loadLockSnapshot userId normalizedAddress | loadPrimaryWallet userId =>
      simp [moveProgress] at isAfter
    | _ =>
      cases isAfter
  | some held =>
    cases silent : call.answers with
    | true =>
      cases call with
      | answer userId normalizedAddress =>
        cases isAfter
        simp [Progress.taking] at taking
      | _ => cases silent
    | false =>
      cases whole : call.breaks turn store with
      | true =>
        rw [progress_breaks whole] at isAfter
        cases isAfter
        have both := unbroken held rfl taking
        rw [whole] at both
        cases both.2
      | false =>
        obtain ⟨next, isNext, goesOn⟩ := progress_goes_on permitted silent whole
        rw [isNext] at isAfter
        cases isAfter
        rw [goesOn.broken]
        cases goesOn.first with
        | inr whole => exact whole
        | inl same =>
          apply (unbroken held rfl _).1
          simp only [Progress.taking, Bool.and_eq_true, bne_iff_ne] at taking ⊢
          rw [same] at taking
          exact ⟨taking.1, fun answered => taking.2 (goesOn.stage.mpr answered)⟩

theorem taking_goes_on {script : WalletScript Verification}
    (keeps : takeoverTypestate.Keeps Concluded Broke script (some held))
    (taking : held.taking = true) (unbroken : held.broken = false) :
    ∃ call next, script = .call call next := by
  cases script with
  | call call next => exact ⟨call, next, rfl⟩
  | ret outcome =>
    have answered := keeps held rfl
    simp [Progress.taking, answered] at taking
  | raise failure =>
    have broken := keeps held rfl
    rw [unbroken] at broken
    cases broken

end Requests

section Steps

variable {world : WalletWorld} {number : Nat} {turn : WalletTurn} {call : WalletCall}

theorem last_answer_cons {answers : List Answered} {answer : Answered}
    {normalizedAddress userId : String}
    (last : lastAnswer (answer :: answers) normalizedAddress = some userId) :
    (answer.normalizedAddress = normalizedAddress ∧ answer.userId = userId) ∨
      (answer.normalizedAddress ≠ normalizedAddress ∧
        lastAnswer answers normalizedAddress = some userId) := by
  unfold lastAnswer at last
  by_cases own : answer.normalizedAddress = normalizedAddress
  · left
    rw [List.find?_cons_of_pos (by simpa using own)] at last
    cases last
    exact ⟨own, rfl⟩
  · right
    rw [List.find?_cons_of_neg (by simpa using own)] at last
    exact ⟨own, last⟩

variable {next : call.Reply → WalletScript Verification}

theorem own_takes (keep : takeoverTypestate.AllKeep Concluded Broke world)
    (current : world.runs[number]? = some (some (.call call next))) {after : Progress}
    (isAfter : moveProgress call (performWallet call turn world.store.store).2
      (world.store.states number) = some after)
    (taking : after.taking = true) (unbroken : after.broken = false) :
    Takes (walletSystem.step world (.advance number turn)) after.normalizedAddress number := by
  have keeps := (keep.keeps number _ current).2 (performWallet call turn world.store.store).2
  change takeoverTypestate.Keeps Concluded Broke _ (moveProgress call _ _) at keeps
  rw [isAfter] at keeps
  obtain ⟨later, rest, isCall⟩ := taking_goes_on keeps taking unbroken
  have inside : number < world.runs.length := (List.getElem?_eq_some_iff.mp current).1
  constructor
  · unfold walletSystem
    rw [step_advance current]
    unfold World.waits
    rw [List.getElem?_set_self inside]
    erw [isCall]
  · exact ⟨after, (advance_own current turn).trans isAfter, rfl, taking⟩

theorem other_takes (current : world.runs[number]? = some (some (.call call next)))
    {other : Nat} (apart : other ≠ number) {normalizedAddress : String}
    (takes : Takes world normalizedAddress other) :
    Takes (walletSystem.step world (.advance number turn)) normalizedAddress other := by
  have ⟨runs, held, state, address, taking⟩ := takes
  constructor
  · rw [advance_running current turn apart]
    exact runs
  · exact ⟨held, (advance_other current turn apart).trans state, address, taking⟩

theorem advance_answers (sound : AnswersSound world)
    (current : world.runs[number]? = some (some (.call call next)))
    (uncrossed : call.Uncrossed turn world)
    (whole : call.breaks turn world.store.store = true → taker world number = false) :
    AnswersSound (walletSystem.step world (.advance number turn)) := by
  have runs : world.waits number = true := by
    unfold World.waits
    rw [current]
  have own := sound.holders.fits number
  have permitted : permitsWallet call (world.store.states number) :=
    (sound.holders.keep.keeps number _ current).1
  have unbroken : ∀ held, world.store.states number = some held → held.taking = true →
      held.broken = false ∧ call.breaks turn world.store.store = false := by
    intro held state taking
    constructor
    · exact sound.unbroken number held state runs taking
    · by_contra breaks
      rw [Bool.not_eq_false] at breaks
      have idle := whole breaks
      simp [taker, runs, state, taking] at idle
  have store := advance_store current turn
  constructor
  · exact advance_sound sound.holders current uncrossed
  · rw [store]
    exact perform_alone permitted (fun held => own held runs) sound.alone
  · intro userId normalizedAddress last
    rw [store] at last ⊢
    cases silent : call.answers with
    | true =>
      cases call with
      | answer ownUser ownAddress =>
        obtain ⟨held, state, user, address, stage, _⟩ := permitted
        have fits := own held runs state
        cases last_answer_cons last with
        | inl isOwn =>
          left
          have isAddress : ownAddress = normalizedAddress := isOwn.1
          have isUser : ownUser = userId := isOwn.2
          have holds := fits.holds stage
          rw [user, address, isAddress, isUser] at holds
          exact holds
        | inr older =>
          cases sound.answered userId normalizedAddress older.2 with
          | inl holds => exact .inl holds
          | inr taken =>
            obtain ⟨other, takes⟩ := taken
            right
            refine ⟨other, other_takes current ?_ takes⟩
            intro isOwn
            obtain ⟨_, before, isBefore, beforeAddress, _⟩ := takes
            rw [isOwn, state] at isBefore
            cases isBefore
            exact older.1 (address.symm.trans beforeAddress)
      | _ => cases silent
    | false =>
      rw [perform_answers silent] at last
      cases sound.answered userId normalizedAddress last with
      | inl holds =>
        cases perform_holds call turn holds with
        | inl still => exact .inl still
        | inr lost =>
          -- the run that demoted the row is on its way to its own answer
          obtain ⟨isCall, succeeds⟩ := lost
          subst isCall
          obtain ⟨held, state, looks⟩ := permitted
          right
          refine ⟨number, ?_⟩
          have moved : moveProgress (.demote userId normalizedAddress)
              (performWallet (.demote userId normalizedAddress) turn
                world.store.store).2 (world.store.states number) =
              some (held.demotes userId) := by
            rw [state]
            simp [performWallet, succeeds, moveProgress]
          have takes := own_takes sound.holders.keep current moved
            (by simp [Progress.taking, Progress.demotes, looks.stage]) looks.unbroken
          rw [← looks.address]
          exact takes
      | inr taken =>
        obtain ⟨other, takes⟩ := taken
        right
        by_cases isOwn : other = number
        · obtain ⟨_, held, state, address, taking⟩ := id takes
          rw [isOwn] at state
          obtain ⟨sturdy, succeeds⟩ := unbroken held state taking
          rw [state] at permitted
          obtain ⟨after, isAfter, goesOn⟩ := progress_goes_on permitted silent succeeds
          refine ⟨number, ?_⟩
          rw [← address, ← goesOn.address]
          apply own_takes sound.holders.keep current
          · rw [state]
            exact isAfter
          · simp only [Progress.taking, Bool.and_eq_true, Bool.not_eq_eq_eq_not, Bool.not_true,
              List.isEmpty_eq_false_iff, bne_iff_ne] at taking ⊢
            constructor
            · intro isEmpty
              have fewer := goesOn.demoted
              rw [isEmpty] at fewer
              exact taking.1 (List.subset_nil.mp fewer)
            · intro answered
              exact taking.2 (goesOn.stage.mp answered)
          · rw [goesOn.broken]
            exact sturdy
        · exact ⟨other, other_takes current isOwn takes⟩
  · intro other held state otherRuns taking
    by_cases isOwn : other = number
    · rw [isOwn, advance_own current turn] at state
      exact moved_unbroken permitted unbroken state taking
    · rw [advance_other current turn isOwn] at state
      rw [advance_running current turn isOwn] at otherRuns
      exact sound.unbroken other held state otherRuns taking

theorem step_answers (sound : AnswersSound world) (event : Event VerifyCall WalletTurn Empty)
    (kept : HoldersKept world event) : AnswersSound (walletSystem.step world event) := by
  have ⟨uncrossed, whole⟩ := kept
  cases event with
  | outside change => exact change.elim
  | start job =>
    constructor
    · exact step_sound sound.holders _ uncrossed
    · exact sound.alone
    · intro userId normalizedAddress last
      cases sound.answered userId normalizedAddress last with
      | inl holds => exact .inl holds
      | inr taken =>
        have ⟨other, runs, held, state, address, taking⟩ := taken
        have inside := waits_inside runs
        refine .inr ⟨other, ?_, held, state, address, taking⟩
        unfold World.waits at runs ⊢
        simp only [System.step, List.getElem?_append_left inside]
        exact runs
    · intro other held state runs taking
      exact sound.unbroken other held state (started_running sound.holders.keep state runs)
        taking
  | stop number =>
    constructor
    · exact step_sound sound.holders _ uncrossed
    · exact sound.alone
    · intro userId normalizedAddress last
      cases sound.answered userId normalizedAddress last with
      | inl holds => exact .inl holds
      | inr taken =>
        have ⟨other, runs, held, state, address, taking⟩ := taken
        have apart : number ≠ other := by
          intro same
          dsimp only at whole
          rw [same] at whole
          simp [taker, runs, state, taking] at whole
        refine .inr ⟨other, ?_, held, state, address, taking⟩
        unfold World.waits at runs ⊢
        simp only [System.step]
        rw [List.getElem?_set_ne apart]
        exact runs
    · intro other held state runs taking
      exact sound.unbroken other held state (System.waits_before_stop runs) taking
  | advance number turn =>
    unfold Uncrossed at uncrossed
    dsimp only at uncrossed whole
    split at uncrossed
    · rename_i call next current
      rw [current] at whole
      exact advance_answers sound current uncrossed whole
    · rename_i idle
      have still : walletSystem.step world (.advance number turn) = world := by
        simp only [System.step]
      rw [still]
      exact sound

end Steps

/-- In every schedule that keeps to the condition, once no run is left: an address is claimed by
one account, an account has one primary wallet, and the account whose run answered last for an
address holds it. -/
theorem one_account_per_wallet (store : WalletStore) (alone : Alone store.wallets)
    (unanswered : store.answers = []) (schedule : WalletSchedule)
    (kept : Meets walletSystem.step HoldersKept (takeoverTypestate.start store) schedule)
    (ended : ∀ number,
      (walletSystem.after (takeoverTypestate.start store) schedule).waits number = false) :
    let after := (walletSystem.after (takeoverTypestate.start store) schedule).store.store
    (∀ first ∈ after.wallets, ∀ second ∈ after.wallets, first.claimed = true →
      second.claimed = true → first.normalizedAddress = second.normalizedAddress →
        first.userId = second.userId) ∧
    (∀ first ∈ after.wallets, ∀ second ∈ after.wallets, first.isPrimary = true →
      second.isPrimary = true → first.userId = second.userId → first = second) ∧
    (∀ normalizedAddress userId, lastAnswer after.answers normalizedAddress = some userId →
      ∃ row ∈ after.wallets, row.userId = userId ∧
        row.normalizedAddress = normalizedAddress ∧ row.claimed = true) := by
  have opened : AnswersSound (takeoverTypestate.start store) := by
    constructor
    · exact start_sound store
    · exact alone
    · intro userId normalizedAddress last
      change lastAnswer store.answers normalizedAddress = some userId at last
      rw [unanswered] at last
      cases last
    · intro number held state
      cases state
  have sound : AnswersSound (walletSystem.after (takeoverTypestate.start store) schedule) :=
    meets_keeps kept opened fun world event kept sound => step_answers sound event kept
  dsimp only
  refine ⟨sound.alone, ?_, ?_⟩
  · intro first firstThere second secondThere firstPrimary secondPrimary same
    have entry : ∀ row : UserWalletRow, row.isPrimary = true →
        WalletKey.primaryOf row.userId ∈ row.entries := by
      intro row primary
      simp [UserWalletRow.entries, primary]
    apply Table.eq_of_shared_entry firstThere secondThere (entry first firstPrimary)
    rw [same]
    exact entry second secondPrimary
  · intro normalizedAddress userId last
    cases sound.answered userId normalizedAddress last with
    | inl holds => exact holds_claimed holds
    | inr taken =>
      obtain ⟨number, runs, _⟩ := taken
      rw [ended number] at runs
      cases runs

def pendingChallenge (id userId normalizedAddress : String) : WalletChallengeRow :=
  { id, userId, normalizedAddress, status := .pending, expiresAt := 600000 }

/-- Nobody has a wallet; two accounts have a challenge for one, the first also for another. -/
def challengedStore : WalletStore :=
  { wallets := .empty
    challenges :=
      [pendingChallenge "a" "first" "wallet", pendingChallenge "b" "second" "wallet",
        pendingChallenge "c" "first" "other"]
    snapshots := []
    tierEligible := ["first"]
    boostEligible := ["first"]
    reported := []
    answers := [] }

def advances (number count : Nat) : WalletSchedule :=
  List.replicate count (.advance number { fails := false, valid := true })

def verifies (userId challengeId : String) : Event VerifyCall WalletTurn Empty :=
  .start { userId, challengeId, now := 0 }

def takenInTurn : WalletSchedule :=
  [verifies "first" "a"] ++ advances 0 7 ++ [verifies "second" "b"] ++ advances 1 13

theorem challenged_alone : Alone challengedStore.wallets := by
  intro first there
  cases there

theorem taken_in_turn_ended (number : Nat) :
    (walletSystem.after (takeoverTypestate.start challengedStore) takenInTurn).waits
      number = false := by
  match number with
  | 0 => decide +kernel
  | 1 => decide +kernel
  | later + 2 =>
    have length : (walletSystem.after (takeoverTypestate.start challengedStore)
        takenInTurn).runs.length = 2 := by decide +kernel
    unfold World.waits
    rw [List.getElem?_eq_none (by omega)]

theorem wallet_taken_over : let after :=
      (walletSystem.after (takeoverTypestate.start challengedStore) takenInTurn).store.store
    (∀ first ∈ after.wallets, ∀ second ∈ after.wallets, first.claimed = true →
      second.claimed = true → first.normalizedAddress = second.normalizedAddress →
        first.userId = second.userId) ∧
    (∀ first ∈ after.wallets, ∀ second ∈ after.wallets, first.isPrimary = true →
      second.isPrimary = true → first.userId = second.userId → first = second) ∧
    (∀ normalizedAddress userId, lastAnswer after.answers normalizedAddress = some userId →
      ∃ row ∈ after.wallets, row.userId = userId ∧
        row.normalizedAddress = normalizedAddress ∧ row.claimed = true) :=
  one_account_per_wallet challengedStore challenged_alone rfl takenInTurn (by decide +kernel)
    taken_in_turn_ended

/-- The second account has looked for claims before the first has its wallet, and stores its
row once the first has moved on to another wallet. -/
def movedOn : WalletSchedule :=
  [verifies "second" "b"] ++ advances 0 3 ++ [verifies "first" "a"] ++ advances 1 7 ++
    [verifies "first" "c"] ++ advances 2 7 ++ advances 0 4

theorem two_accounts_hold :
    (∀ number < 3, (walletSystem.after (takeoverTypestate.start challengedStore)
      movedOn).ended number = true) ∧
    ∃ first ∈ (walletSystem.after (takeoverTypestate.start challengedStore)
        movedOn).store.store.wallets.rows,
      ∃ second ∈ (walletSystem.after (takeoverTypestate.start challengedStore)
          movedOn).store.store.wallets.rows,
        first.claimed = true ∧ second.claimed = true ∧
          first.normalizedAddress = second.normalizedAddress ∧
            first.userId ≠ second.userId := by
  decide +kernel

end Hivra.WalletTakeover
