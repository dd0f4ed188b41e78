import Hivra.DepositSweep.SweptOnce
import Mathlib.Data.List.Pairwise

/-!
# A receipt's money moves at most once

What the invariant says of every schedule, and, with each request broadcast in at most one
transaction that has the hash Bankr answers, that at most one transaction of all attempts
of a receipt has moved anything.
-/

namespace Hivra.DepositSweep

open Hivra.Library

def Unrefused (journal : SweepJournal) (id attempt : Nat) : Prop :=
  ∃ run wallet recipient amount answer,
    (∀ status, answer = some (.httpError status) → isTransferRefusal status = false) ∧
    ⟨run, .submitBankrTransfer id attempt wallet recipient amount, answer⟩ ∈ journal

/-- Bankr broadcasts a request it was made and has not refused, in one transaction at most,
and what it answers is that transaction's hash; no two transactions have one hash. -/
def BankrBroadcasts (logged : SweepLog) : Event SweepJob SweepTurn SweepChange → Prop
  | .outside (.mine _ broadcasts) =>
    (∀ broadcast ∈ broadcasts,
      (∀ id attempt, broadcast.origin = some (id, attempt) →
        Unrefused logged.journal id attempt) ∧
      (∀ id attempt, Answers (said logged.journal) id attempt broadcast.hash →
        broadcast.origin = some (id, attempt)) ∧
      ∀ mined ∈ logged.world.store.chain.transactions, mined.hash ≠ broadcast.hash ∧
        (mined.origin = broadcast.origin → broadcast.origin = none)) ∧
    broadcasts.Pairwise fun first second => first.hash ≠ second.hash ∧
      (first.origin = second.origin → first.origin = none)
  | .advance _ turn => ∀ txHash, turn.bankr = .hash txHash →
      ∀ mined ∈ logged.world.store.chain.transactions, mined.hash ≠ txHash
  | _ => True

def Apart (first second : ChainTransaction) : Prop :=
  first.hash ≠ second.hash ∧ (first.origin = second.origin → first.origin = none)

instance : Std.Symm Apart where
  symm := by
    intro first second apart
    refine ⟨apart.1.symm, ?_⟩
    intro same
    exact same.trans (apart.2 same.symm)

structure BankrInvariant (store : SweepStore) (journal : SweepJournal) : Prop where
  requested : ∀ mined ∈ store.chain.transactions, ∀ id attempt,
    mined.origin = some (id, attempt) → Unrefused journal id attempt
  answered : ∀ mined ∈ store.chain.transactions, ∀ id attempt,
    Answers (said journal) id attempt mined.hash → mined.origin = some (id, attempt)
  different : store.chain.transactions.Pairwise Apart

variable {id attempt first second : Nat} {journal : SweepJournal}

theorem unrefused_append (unrefused : Unrefused journal id attempt)
    (later : SweepJournal) : Unrefused (journal ++ later) id attempt := by
  have ⟨run, wallet, recipient, amount, answer, unrefused, there⟩ := unrefused
  exact ⟨run, wallet, recipient, amount, answer, unrefused, List.mem_append_left _ there⟩

theorem performSweep_chain (call : SweepCall) (turn : SweepTurn) (store : SweepStore) :
    (performSweep call turn store).1.chain = store.chain := by
  unfold performSweep
  split
  · rfl
  · split
    · rfl
    · rename_i executes
      cases call with
      | transition id guard values =>
        simp only [SweepCall.execute, Option.map_eq_some_iff] at executes
        obtain ⟨_, _, same⟩ := executes
        cases same
        rfl
      | _ =>
        cases executes
        rfl

theorem performSweep_answers {call : SweepCall} {turn : SweepTurn} {store : SweepStore}
    {txHash : TxHash}
    (answers : Answers [⟨call, (performSweep call turn store).2⟩] id attempt txHash) :
    turn.bankr = .hash txHash := by
  obtain ⟨wallet, recipient, amount, there⟩ := answers
  have same := List.mem_singleton.mp there
  cases call with
  | submitBankrTransfer id' attempt' wallet' recipient' amount' =>
    unfold performSweep at same
    split at same
    · cases same
    · simp only [SweepCall.execute, Sigma.mk.injEq] at same
      obtain ⟨isCall, reply⟩ := same
      cases isCall
      simpa using reply.symm
  | _ => cases congrArg (fun exchange : Sigma SweepCall.Reply => exchange.1) same

theorem bankr_perform {store : SweepStore} {run : Nat}
    {call : SweepCall} {turn : SweepTurn} (invariant : BankrInvariant store journal)
    (fits : ∀ txHash, turn.bankr = .hash txHash →
      ∀ mined ∈ store.chain.transactions, mined.hash ≠ txHash) :
    BankrInvariant (performSweep call turn store).1
      (journal ++ [⟨run, call, (performSweep call turn store).2⟩]) := by
  have chain := performSweep_chain call turn store
  constructor
  · intro mined there id attempt origin
    rw [chain] at there
    exact unrefused_append (invariant.requested mined there id attempt origin) _
  · intro mined there id attempt answers
    rw [chain] at there
    have ⟨wallet, recipient, amount, asked⟩ := answers
    rw [said_append] at asked
    cases List.mem_append.mp asked with
    | inl before =>
      exact invariant.answered mined there id attempt ⟨wallet, recipient, amount, before⟩
    | inr now =>
      have isHash := performSweep_answers ⟨wallet, recipient, amount, now⟩
      exact absurd rfl (fits _ isHash mined there)
  · rw [chain]
    exact invariant.different

theorem bankr_change {logged : SweepLog} {change : SweepChange}
    (invariant : BankrInvariant logged.world.store logged.journal)
    (fits : BankrBroadcasts logged (.outside change)) :
    BankrInvariant (applySweepChange change logged.world.store) logged.journal := by
  cases change with
  | settle deposit => exact ⟨invariant.requested, invariant.answered, invariant.different⟩
  | mine blocks broadcasts =>
    obtain ⟨each, apart⟩ := fits
    have source (mined : ChainTransaction)
        (there : mined ∈ (logged.world.store.chain.mine blocks broadcasts).transactions) :
        mined ∈ logged.world.store.chain.transactions ∨
          ∃ broadcast ∈ broadcasts, mined.hash = broadcast.hash ∧
            mined.origin = broadcast.origin := by
      cases List.mem_append.mp there with
      | inl before => exact .inl before
      | inr now =>
        obtain ⟨broadcast, inBroadcasts, isMined⟩ := List.mem_map.mp now
        rw [← isMined]
        exact .inr ⟨broadcast, inBroadcasts, rfl, rfl⟩
    constructor
    · intro mined there id attempt origin
      cases source mined there with
      | inl before => exact invariant.requested mined before id attempt origin
      | inr new =>
        obtain ⟨broadcast, inBroadcasts, _, sameOrigin⟩ := new
        exact (each broadcast inBroadcasts).1 id attempt (sameOrigin.symm.trans origin)
    · intro mined there id attempt answers
      cases source mined there with
      | inl before => exact invariant.answered mined before id attempt answers
      | inr new =>
        obtain ⟨broadcast, inBroadcasts, sameHash, sameOrigin⟩ := new
        rw [sameHash] at answers
        exact sameOrigin.trans ((each broadcast inBroadcasts).2.1 id attempt answers)
    · simp only [applySweepChange, Chain.mine]
      rw [List.pairwise_append, List.pairwise_map]
      refine ⟨invariant.different, apart, ?_⟩
      intro mined there new inNew
      obtain ⟨broadcast, inBroadcasts, isNew⟩ := List.mem_map.mp inNew
      obtain ⟨hash, origin⟩ := (each broadcast inBroadcasts).2.2 mined there
      rw [← isNew]
      exact ⟨hash, fun same => same.trans (origin same)⟩

theorem bankr_after {schedule : SweepSchedule}
    (broadcasts : Meets sweepSystem.log BankrBroadcasts startSweeps schedule) :
    BankrInvariant (afterSweeps schedule).world.store (afterSweeps schedule).journal := by
  have lawful : sweepSystem.Lawful sweepRule BankrBroadcasts BankrInvariant := by
    constructor
    · exact script_follows
    · intro logged run request next turn invariant _ fits _
      exact bankr_perform invariant fits
    · intro logged change invariant fits
      exact bankr_change invariant fits
  have initially : BankrInvariant
      { receipts := [], chain := { head := 0, transactions := [] } } [] := by
    constructor <;> simp
  exact (System.lawful_after lawful initially broadcasts).invariant

variable {store : SweepStore} {journal : SweepJournal}

section

variable (invariant : SweepInvariant store journal)
include invariant

theorem not_refused (unrefused : Unrefused journal id attempt) :
    ¬Refuses (said journal) id attempt := by
  intro refuses
  have ⟨run, wallet, recipient, amount, answer, unrefused, there⟩ := unrefused
  have ⟨wallet', recipient', amount', status, refusal, said'⟩ := refuses
  have ⟨exchange, inJournal, same⟩ := List.mem_map.mp said'
  have first : (⟨run, .submitBankrTransfer id attempt wallet recipient amount, answer⟩ :
      JournalEntry SweepCall SweepCall.Reply) ∈ journal.filter (asksFor id attempt) :=
    List.mem_filter.mpr ⟨there, by simp [asksFor]⟩
  obtain ⟨who, call, reply⟩ := exchange
  cases same
  have second := List.mem_filter.mpr ⟨inJournal, show asksFor id attempt _ = true by
    simp [asksFor]⟩
  have once := invariant.once id attempt
  cases asked : journal.filter (asksFor id attempt) with
  | nil =>
    rw [asked] at first
    cases first
  | cons only others =>
    rw [asked] at first second once
    have alone : others = [] := by
      rw [← List.length_eq_zero_iff]
      simpa using once
    rw [alone] at first second
    have isFirst := List.mem_singleton.mp first
    have isSecond := List.mem_singleton.mp second
    rw [← isFirst] at isSecond
    cases isSecond
    rw [unrefused status rfl] at refusal
    cases refusal

theorem not_moved_before {earlier later : ChainTransaction} (bankr : BankrInvariant store journal)
    (inEarlier : earlier ∈ store.chain.transactions) (inLater : later ∈ store.chain.transactions)
    (ofFirst : earlier.origin = some (id, first)) (ofSecond : later.origin = some (id, second))
    (before : first < second) : earlier.succeeded = false := by
  have firstAsked := bankr.requested earlier inEarlier id first ofFirst
  have ⟨run, wallet, recipient, amount, answer, _, there⟩ := firstAsked
  have ⟨⟨_, _, _, _, claimed⟩, marked⟩ := invariant.requested _ _ _ _ _ _ _ there
  have ⟨positive, _⟩ := invariant.truthful _ (said_of_past claimed)
  have ⟨run', wallet', recipient', amount', answer', _, there'⟩ :=
    bankr.requested later inLater id second ofSecond
  have ⟨⟨_, _, _, _, claimed'⟩, _⟩ := invariant.requested _ _ _ _ _ _ _ there'
  have ⟨_, row, current, reached⟩ := invariant.truthful _ (said_of_past claimed')
  cases (invariant.rows id row current).finished first positive (by omega) with
  | inl unmarked => exact absurd marked unmarked
  | inr finished =>
    cases finished with
    | inl refuses => exact absurd refuses (not_refused invariant firstAsked)
    | inr reverted =>
      have ⟨txHash, mined, receipt, head, recorded, _, source, inChain, isHash, fails, _⟩ :=
        reverted
      cases source with
      | inl answers =>
        have ofMined : mined.origin = some (id, first) := by
          apply bankr.answered mined inChain
          rw [isHash]
          exact answers
        by_cases same : earlier = mined
        · rw [same]
          exact fails
        · have apart := bankr.different.forall inEarlier inChain same
          have none_origin := apart.2 (ofFirst.trans ofMined.symm)
          rw [ofFirst] at none_origin
          cases none_origin
      | inr carried =>
        have ⟨other, inOther, sameHash, log, inLogs, _⟩ := carried
        by_cases same : other = mined
        · rw [same, ChainTransaction.logs, fails] at inLogs
          cases inLogs
        · have apart := bankr.different.forall inOther inChain same
          exact absurd (sameHash.trans isHash.symm) apart.1

theorem moved_once {one other : ChainTransaction} (bankr : BankrInvariant store journal)
    (inOne : one ∈ store.chain.transactions) (inOther : other ∈ store.chain.transactions)
    (ofFirst : one.origin = some (id, first)) (ofSecond : other.origin = some (id, second))
    (succeeded : one.succeeded = true) (succeeded' : other.succeeded = true) : one = other := by
  rcases Nat.lt_trichotomy first second with before | same | after
  · have fails := not_moved_before invariant bankr inOne inOther ofFirst ofSecond before
    rw [fails] at succeeded
    cases succeeded
  · by_contra different
    have apart := bankr.different.forall inOne inOther different
    have none_origin := apart.2 (by rw [ofFirst, ofSecond, same])
    rw [ofFirst] at none_origin
    cases none_origin
  · have fails := not_moved_before invariant bankr inOther inOne ofSecond ofFirst after
    rw [fails] at succeeded'
    cases succeeded'

/-- The attempt ended as a new one may follow it: no transfer was requested for it, Bankr
refused it, or its transaction reverted and its evidence window was searched in vain. -/
def Retriable (store : SweepStore) (journal : SweepJournal) (id attempt : Nat) : Prop :=
  (∀ exchange ∈ journal, asksFor id attempt exchange = false) ∨
    Refuses (said journal) id attempt ∨ RevertedInVain store journal id attempt

theorem retriable_of_over (finished : Over store journal id attempt) :
    Retriable store journal id attempt := by
  cases finished with
  | inr evidence => exact .inr evidence
  | inl unmarked =>
    left
    intro exchange there
    obtain ⟨run, call, reply⟩ := exchange
    cases asks : asksFor id attempt ⟨run, call, reply⟩ with
    | false => rfl
    | true =>
      cases call with
      | submitBankrTransfer other number wallet recipient amount =>
        simp only [asksFor, Bool.and_eq_true, beq_iff_eq] at asks
        have marked := (invariant.requested _ _ _ _ _ _ _ there).2
        rw [asks.1, asks.2] at marked
        exact absurd marked unmarked
      | _ => cases asks

end

/-- Under every schedule: one transfer request at most for each attempt of a receipt, a new
attempt only after one that has ended so, a transaction of its own with the exact transfer
for each confirmed receipt, and, as Bankr broadcasts, one transaction at most of all attempts
of a receipt that has moved anything. -/
theorem receipts_swept_once (schedule : SweepSchedule) :
    (∀ id attempt, ((afterSweeps schedule).journal.filter (asksFor id attempt)).length ≤ 1) ∧
    (∀ (id attempt : Nat) (row : SweepReceipt),
      (afterSweeps schedule).world.store.receipts[id]? = some row →
      1 ≤ attempt → attempt < row.sweepAttempts →
      Retriable (afterSweeps schedule).world.store (afterSweeps schedule).journal id attempt) ∧
    (∀ (id : Nat) (row : SweepReceipt),
      (afterSweeps schedule).world.store.receipts[id]? = some row →
      row.sweepStatus = .confirmed →
      ∃ txHash, row.sweepTxHash = some txHash ∧
        Carried (afterSweeps schedule).world.store row txHash ∧
        ∀ (other : Nat) (held : SweepReceipt),
          (afterSweeps schedule).world.store.receipts[other]? = some held →
          held.sweepTxHash = some txHash → other = id) ∧
    (Meets sweepSystem.log BankrBroadcasts startSweeps schedule →
      ∀ one ∈ (afterSweeps schedule).world.store.chain.transactions,
      ∀ other ∈ (afterSweeps schedule).world.store.chain.transactions, ∀ id first second,
        one.origin = some (id, first) → other.origin = some (id, second) →
        one.succeeded = true → other.succeeded = true → one = other) := by
  have invariant := invariant_after schedule
  refine ⟨invariant.once, ?_, ?_, ?_⟩
  · intro id attempt row current first before
    exact retriable_of_over invariant ((invariant.rows id row current).finished attempt first before)
  · intro id row current confirmed
    have ⟨txHash, recorded, carried⟩ := (invariant.rows id row current).confirmed confirmed
    refine ⟨txHash, recorded, carried, ?_⟩
    intro other held isHeld heldHash
    exact invariant.distinct other id held row txHash isHeld current heldHash recorded
  · intro broadcasts one inOne other inOther id first second ofFirst ofSecond succeeds succeeds'
    exact moved_once invariant (bankr_after broadcasts) inOne inOther ofFirst ofSecond succeeds
      succeeds'

/-- An exact transfer for the row's attempt is on the chain, and no receipt records it. -/
def UnrecordedTransfer (store : SweepStore) (row : SweepReceipt) : Prop :=
  ∃ mined ∈ store.chain.transactions, row.sweepClaimBlock.getD 0 ≤ mined.block ∧
    (∃ log ∈ mined.logs, isSweepTransferLog row log = true) ∧
    ∀ held ∈ store.receipts, held.sweepTxHash ≠ some mined.hash

instance (store : SweepStore) (row : SweepReceipt) : Decidable (UnrecordedTransfer store row) :=
  inferInstanceAs (Decidable (∃ mined ∈ store.chain.transactions, _ ∧ _ ∧ _))

def answersRefusal (exchange : JournalEntry SweepCall SweepCall.Reply) : Bool :=
  match exchange with
  | ⟨_, .submitBankrTransfer .., some (.httpError status)⟩ => isTransferRefusal status
  | _ => false

def depositWallet : Address := 17
def treasury : Address := 23

def deposit : SettledDeposit :=
  { userId := 5
    amountMinor := 40
    chainId := baseChainId
    tokenAddress := usdcBaseTokenAddress
    normalizedDepositAddress := depositWallet }

def turnWith (bankr : BankrAnswer) : SweepTurn :=
  { fails := false
    credential :=
      some
        { userId := 5
          purpose := .creditDeposit
          bankrWalletId := some "wallet"
          normalizedEvmAddress := depositWallet }
    balance := 80
    treasuryDrained := false
    keyMinted := true
    bankr }

def advances (run count : Nat) (bankr : BankrAnswer) :
    List (Event SweepJob SweepTurn SweepChange) :=
  List.replicate count (.advance run (turnWith bankr))

def passContext : SweepContext := { now := 0, treasury := some treasury, partnerKey := true }

/-- The transaction of the first receipt reverts; the second receipt's transfer is mined
after the first one's evidence window, and Bankr answers no hash for it. -/
def lateTransfer : SweepSchedule :=
  [.outside (.settle deposit), .outside (.settle deposit), .start (.sweep 0 passContext)] ++
    advances 0 10 (.hash 7) ++
    ([.outside (.mine 0 [⟨7, false, [], some (0, 1)⟩]), .start (.sweep 1 passContext)] :
      SweepSchedule) ++ advances 1 10 .noHash ++
    ([.outside (.mine 1800
      [⟨8, true, [⟨usdcBaseTokenAddress, depositWallet, treasury, 40, 0⟩], some (1, 1)⟩])] :
      SweepSchedule) ++ [.start (.settle 0 0)] ++ advances 2 5 .noAnswer

def nextClaim : SweepSchedule := .start (.sweep 0 passContext) :: advances 3 4 .noAnswer

/-- The request that Bankr has answered with the hash. -/
def hashed? (txHash : TxHash) (exchange : JournalEntry SweepCall SweepCall.Reply) :
    Option (Nat × Nat) :=
  match exchange with
  | ⟨_, .submitBankrTransfer id attempt .., some (.hash given)⟩ =>
    if given = txHash then some (id, attempt) else none
  | _ => none

theorem unrefused_iff : Unrefused journal id attempt ↔
    ∃ exchange ∈ journal, asksFor id attempt exchange = true ∧ answersRefusal exchange = false := by
  constructor
  · rintro ⟨run, wallet, recipient, amount, answer, unrefused, there⟩
    refine ⟨_, there, by simp [asksFor], ?_⟩
    cases answer with
    | none => rfl
    | some answer =>
      cases answer with
      | httpError status => exact unrefused status rfl
      | _ => rfl
  · rintro ⟨⟨run, call, answer⟩, there, asks, unrefused⟩
    cases call with
    | submitBankrTransfer other number wallet recipient amount =>
      simp only [asksFor, Bool.and_eq_true, beq_iff_eq] at asks
      rw [asks.1, asks.2] at there
      refine ⟨run, wallet, recipient, amount, answer, ?_, there⟩
      intro status isError
      rw [isError] at unrefused
      exact unrefused
    | _ => cases asks

theorem answers_iff {txHash : TxHash} : Answers (said journal) id attempt txHash ↔
      ∃ exchange ∈ journal, hashed? txHash exchange = some (id, attempt) := by
  constructor
  · rintro ⟨wallet, recipient, amount, there⟩
    have ⟨exchange, inJournal, same⟩ := List.mem_map.mp there
    refine ⟨exchange, inJournal, ?_⟩
    obtain ⟨run, call, reply⟩ := exchange
    cases same
    simp [hashed?]
  · rintro ⟨⟨run, call, reply⟩, there, isHash⟩
    unfold hashed? at isHash
    split at isHash
    · rename_i exchange run' id' attempt' wallet recipient amount given same
      split at isHash
      · rename_i isGiven
        cases same
        cases isHash
        subst isGiven
        exact ⟨wallet, recipient, amount, List.mem_map.mpr ⟨_, there, rfl⟩⟩
      · cases isHash
    · cases isHash

theorem answers_all {txHash : TxHash} {origin : Option (Nat × Nat)} :
    (∀ id attempt, Answers (said journal) id attempt txHash → origin = some (id, attempt)) ↔
      ∀ exchange ∈ journal, ∀ request ∈ hashed? txHash exchange, origin = some request := by
  constructor
  · intro all exchange there request isHash
    exact all request.1 request.2 (answers_iff.mpr ⟨exchange, there, isHash⟩)
  · intro all id attempt answers
    have ⟨exchange, there, isHash⟩ := answers_iff.mp answers
    exact all exchange there _ isHash

instance (journal : SweepJournal) (id attempt : Nat) : Decidable (Unrefused journal id attempt) :=
  decidable_of_iff _ unrefused_iff.symm

def BankrAnswer.hash? : BankrAnswer → Option TxHash
  | .hash txHash => some txHash
  | _ => none

instance (logged : SweepLog) :
    (event : Event SweepJob SweepTurn SweepChange) → Decidable (BankrBroadcasts logged event)
  | .outside (.mine _ broadcasts) =>
    decidable_of_iff
      ((∀ broadcast ∈ broadcasts,
        (∀ request ∈ broadcast.origin, Unrefused logged.journal request.1 request.2) ∧
        (∀ exchange ∈ logged.journal, ∀ request ∈ hashed? broadcast.hash exchange,
          broadcast.origin = some request) ∧
        ∀ mined ∈ logged.world.store.chain.transactions, mined.hash ≠ broadcast.hash ∧
          (mined.origin = broadcast.origin → broadcast.origin = none)) ∧
        broadcasts.Pairwise fun first second => first.hash ≠ second.hash ∧
          (first.origin = second.origin → first.origin = none))
      (by simp [BankrBroadcasts, answers_all])
  | .advance _ turn =>
    decidable_of_iff
      (∀ txHash ∈ turn.bankr.hash?, ∀ mined ∈ logged.world.store.chain.transactions,
        mined.hash ≠ txHash)
      (by cases answer : turn.bankr <;> simp [BankrBroadcasts, BankrAnswer.hash?, answer])
  | .outside (.settle _) | .start _ | .stop _ => isTrue trivial

/-- A new attempt is claimed though the earlier one was requested and not refused, and an
unrecorded exact transfer is on the chain, before the claim and after it. -/
theorem claimed_beside_unrecorded_transfer : ∃ row next : SweepReceipt,
      (afterSweeps lateTransfer).world.store.receipts[0]? = some row ∧
      (afterSweeps (lateTransfer ++ nextClaim)).world.store.receipts[0]? = some next ∧
      row.sweepStatus = .failed ∧ row.sweepAttempts = 1 ∧ next.sweepAttempts = 2 ∧
      ((afterSweeps lateTransfer).journal.filter (asksFor 0 1)).length = 1 ∧
      (∀ exchange ∈ (afterSweeps lateTransfer).journal, answersRefusal exchange = false) ∧
      UnrecordedTransfer (afterSweeps lateTransfer).world.store row ∧
      UnrecordedTransfer (afterSweeps (lateTransfer ++ nextClaim)).world.store row := by
  refine ⟨_, _, rfl, rfl, rfl, rfl, rfl, rfl, ?_, ?_, ?_⟩ <;> decide +kernel

/-- The transaction of the first attempt reverts, and the second attempt's moves the deposit. -/
def retriedSweep : SweepSchedule :=
  [.outside (.settle deposit), .start (.sweep 0 passContext)] ++ advances 0 10 (.hash 7) ++
    ([.outside (.mine 0 [⟨7, false, [], some (0, 1)⟩]), .start (.settle 0 0)] : SweepSchedule) ++
    advances 1 5 .noAnswer ++ [.start (.sweep 0 passContext)] ++ advances 2 10 (.hash 8) ++
    ([.outside (.mine 0
      [⟨8, true, [⟨usdcBaseTokenAddress, depositWallet, treasury, 40, 0⟩], some (0, 2)⟩]),
      .outside (.mine 5 []), .start (.settle 0 0)] : SweepSchedule) ++ advances 3 4 .noAnswer

theorem retried_sweep_moves_once :
    (∀ one ∈ (afterSweeps retriedSweep).world.store.chain.transactions,
      ∀ other ∈ (afterSweeps retriedSweep).world.store.chain.transactions, ∀ id first second,
        one.origin = some (id, first) → other.origin = some (id, second) →
          one.succeeded = true → other.succeeded = true → one = other) ∧
      (afterSweeps retriedSweep).world.store.receipts.map (fun row =>
        (row.sweepStatus, row.sweepAttempts, row.sweepTxHash)) = [(.confirmed, 2, some 8)] :=
  ⟨(receipts_swept_once retriedSweep).2.2.2 (by decide +kernel), by decide +kernel⟩

end Hivra.DepositSweep
