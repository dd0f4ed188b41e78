import Hivra.DepositSweep.SweepRules

/-!
# A deposit is swept once

What holds of the receipts, the chain and everything that has been asked, under every
interleaving of settlements and sweeps.  An attempt belongs to the run that claimed it,
and it is over only without a request, refused, or reverted with its evidence window
searched in vain; a confirmed receipt records a transaction of its own that carries the
exact transfer.
-/

namespace Hivra.DepositSweep

open Hivra.Library

structure RowFollows (row next : SweepReceipt) : Prop where
  amount : next.amountMinor = row.amountMinor
  wallet : next.normalizedDepositAddress = row.normalizedDepositAddress
  attempts : row.sweepAttempts ≤ next.sweepAttempts
  attempt : next.sweepAttempts = row.sweepAttempts →
    next.sweepDestinationAddress = row.sweepDestinationAddress ∧
      next.sweepClaimBlock = row.sweepClaimBlock ∧
      (row.sweepTransferRequestedAt.isSome = true → next.sweepTransferRequestedAt.isSome = true)

theorem rowFollows_refl (row : SweepReceipt) : RowFollows row row :=
  ⟨rfl, rfl, le_refl _, fun _ => ⟨rfl, rfl, fun before => before⟩⟩

theorem rowFollows_trans {first second third : SweepReceipt} (early : RowFollows first second)
    (late : RowFollows second third) : RowFollows first third := by
  refine ⟨late.amount.trans early.amount, late.wallet.trans early.wallet,
    early.attempts.trans late.attempts, ?_⟩
  intro same
  have low := early.attempts
  have high := late.attempts
  have ⟨destination, block, requested⟩ := early.attempt (by omega)
  have ⟨destination', block', requested'⟩ := late.attempt (by omega)
  exact ⟨destination'.trans destination, block'.trans block,
    fun before => requested' (requested before)⟩

structure Grown (store next : SweepStore) : Prop where
  rows : ∀ (id : Nat) (row : SweepReceipt), store.receipts[id]? = some row →
    ∃ later, next.receipts[id]? = some later ∧ RowFollows row later
  head : store.chain.head ≤ next.chain.head
  kept : ∀ mined ∈ store.chain.transactions, mined ∈ next.chain.transactions
  added : ∀ mined ∈ next.chain.transactions,
    mined ∈ store.chain.transactions ∨ store.chain.head < mined.block

theorem grown_refl (store : SweepStore) : Grown store store :=
  ⟨fun _ row there => ⟨row, there, rowFollows_refl row⟩, le_refl _, fun _ there => there,
    fun _ there => .inl there⟩

def Truthful (store : SweepStore) : Sigma SweepCall.Reply → Prop
  | ⟨.blockNumber, some head⟩ => head ≤ store.chain.head
  | ⟨.transactionReceipt txHash, some (some mined)⟩ =>
    mined ∈ store.chain.transactions ∧ mined.hash = txHash
  | ⟨.usdcTransfers source recipient fromBlock toBlock, some logs⟩ =>
    toBlock ≤ store.chain.head ∧
      (∀ log ∈ logs, ∃ mined ∈ store.chain.transactions, log ∈ mined.rpcLogs) ∧
      ∀ mined ∈ store.chain.transactions, ∀ log ∈ mined.rpcLogs,
        log.transfer.token = usdcBaseTokenAddress → log.transfer.source = source →
        log.transfer.recipient = recipient → fromBlock ≤ log.blockNumber →
        log.blockNumber ≤ toBlock → log ∈ logs
  | ⟨.load id statuses, some (some receipt)⟩ =>
    receipt.sweepStatus ∈ statuses ∧
      ∃ row, store.receipts[id]? = some row ∧ RowFollows receipt row
  | ⟨.transition id _ (.claimed attempt _ _ _), some true⟩ =>
    0 < attempt ∧ ∃ row, store.receipts[id]? = some row ∧ attempt ≤ row.sweepAttempts
  | ⟨.transition id guard (.requested _), some true⟩ =>
    ∃ row, store.receipts[id]? = some row ∧ guard.attempts ≤ row.sweepAttempts ∧
      (row.sweepAttempts = guard.attempts → row.sweepTransferRequestedAt.isSome = true)
  | _ => True

theorem block_of_rpcLog {mined : ChainTransaction} {log : RpcLog} (there : log ∈ mined.rpcLogs) :
    log.blockNumber = mined.block ∧ log.transactionHash = mined.hash ∧
      log.transfer ∈ mined.logs := by
  have ⟨transfer, inLogs, same⟩ := List.mem_map.mp there
  cases same
  exact ⟨rfl, rfl, inLogs⟩

variable {store next : SweepStore}

theorem truthful_grown {exchange : Sigma SweepCall.Reply}
    (truthful : Truthful store exchange) (grown : Grown store next) : Truthful next exchange := by
  unfold Truthful at truthful ⊢
  split at truthful
  · exact truthful.trans grown.head
  · exact ⟨grown.kept _ truthful.1, truthful.2⟩
  · rename_i source recipient fromBlock toBlock logs
    have ⟨seen, sound, complete⟩ := truthful
    refine ⟨seen.trans grown.head, ?_, ?_⟩
    · intro log there
      have ⟨mined, inChain, inLogs⟩ := sound log there
      exact ⟨mined, grown.kept mined inChain, inLogs⟩
    · intro mined inChain log inLogs token isSource isRecipient lower upper
      cases grown.added mined inChain with
      | inl older => exact complete mined older log inLogs token isSource isRecipient lower upper
      | inr new =>
        rw [(block_of_rpcLog inLogs).1] at upper
        omega
  · have ⟨status, row, there, follows⟩ := truthful
    have ⟨later, thereLater, followsLater⟩ := grown.rows _ row there
    exact ⟨status, later, thereLater, rowFollows_trans follows followsLater⟩
  · have ⟨positive, row, there, bound⟩ := truthful
    have ⟨later, thereLater, follows⟩ := grown.rows _ row there
    exact ⟨positive, later, thereLater, bound.trans follows.attempts⟩
  · have ⟨row, there, bound, requested⟩ := truthful
    have ⟨later, thereLater, follows⟩ := grown.rows _ row there
    refine ⟨later, thereLater, bound.trans follows.attempts, ?_⟩
    intro same
    have low := follows.attempts
    exact (follows.attempt (by omega)).2.2 (requested (by omega))
  · trivial

def Carried (store : SweepStore) (row : SweepReceipt) (txHash : TxHash) : Prop :=
  ∃ mined ∈ store.chain.transactions, mined.hash = txHash ∧
    ∃ log ∈ mined.logs, isSweepTransferLog row log = true

variable {txHash : TxHash} {row : SweepReceipt}

theorem carried_grown
    (carried : Carried store row txHash) (grown : Grown store next) : Carried next row txHash := by
  have ⟨mined, there, found⟩ := carried
  exact ⟨mined, grown.kept mined there, found⟩

/-- The recorded transaction of the attempt has reverted, and every exact transfer in the
evidence window, up to the head that was read, was found recorded. -/
def RevertedInVain (store : SweepStore) (journal : SweepJournal) (id attempt : Nat) : Prop :=
  ∃ txHash mined receipt head recorded,
    (∃ guard status error, guard.attempts = attempt ∧ guard.txHash = some (some txHash) ∧
      ⟨.transition id guard (.ended status error), some true⟩ ∈ said journal) ∧
    (Answers (said journal) id attempt txHash ∨ Carried store receipt txHash) ∧
    mined ∈ store.chain.transactions ∧ mined.hash = txHash ∧ mined.succeeded = false ∧
    Loaded (said journal) id attempt receipt ∧ head ≤ store.chain.head ∧
    (recorded = [] ∨ ∃ hashes, ⟨.recordedHashes hashes, some recorded⟩ ∈ said journal) ∧
    ∀ other ∈ store.chain.transactions, ∀ log ∈ other.logs,
      isSweepTransferLog receipt log = true → receipt.sweepClaimBlock.getD 0 ≤ other.block →
      other.block ≤ evidenceEnd receipt head → other.hash ∈ recorded

def Over (store : SweepStore) (journal : SweepJournal) (id attempt : Nat) : Prop :=
  ¬Marks (said journal) id attempt ∨ Refuses (said journal) id attempt ∨
    RevertedInVain store journal id attempt

variable {attempt id : Nat} {journal later : SweepJournal}

theorem revertedInVain_grown
    (reverted : RevertedInVain store journal id attempt) (grown : Grown store next)
    (more : said journal ⊆ said later) : RevertedInVain next later id attempt := by
  have ⟨txHash, mined, receipt, head, recorded, ⟨guard, status, error, same, hash, ended⟩,
    source, inChain, isHash, fails, loaded, bound, asked, searched⟩ := reverted
  refine ⟨txHash, mined, receipt, head, recorded, ⟨guard, status, error, same, hash,
    more ended⟩, ?_, grown.kept mined inChain, isHash, fails, ⟨more loaded.1, loaded.2⟩,
    bound.trans grown.head, ?_, ?_⟩
  · cases source with
    | inl answers =>
      have ⟨wallet, recipient, amount, there⟩ := answers
      exact .inl ⟨wallet, recipient, amount, more there⟩
    | inr carried => exact .inr (carried_grown carried grown)
  · cases asked with
    | inl nothing => exact .inl nothing
    | inr asked =>
      have ⟨hashes, there⟩ := asked
      exact .inr ⟨hashes, more there⟩
  · intro other there log inLogs isMatch lower upper
    cases grown.added other there with
    | inl older => exact searched other older log inLogs isMatch lower upper
    | inr new =>
      have last : evidenceEnd receipt head ≤ head := Nat.min_le_left _ _
      omega

theorem over_grown (finished : Over store journal id attempt) (grown : Grown store next)
    (more : said journal ⊆ said later)
    (unmarked : Marks (said later) id attempt → Marks (said journal) id attempt) :
    Over next later id attempt := by
  cases finished with
  | inl unrequested => exact .inl fun marks => unrequested (unmarked marks)
  | inr finished =>
    cases finished with
    | inl refuses =>
      have ⟨wallet, recipient, amount, status, refusal, there⟩ := refuses
      exact .inr (.inl ⟨wallet, recipient, amount, status, refusal, more there⟩)
    | inr reverted => exact .inr (.inr (revertedInVain_grown reverted grown more))

theorem said_subset_append (journal : SweepJournal) (run : Nat) (call : SweepCall)
    (reply : call.Reply) : said journal ⊆ said (journal ++ [⟨run, call, reply⟩]) := by
  rw [said_append]
  exact List.subset_append_left _ _

variable {journal : SweepJournal} {call : SweepCall} {run id : Nat}

theorem marks_append {reply : call.Reply}
    (marks : Marks (said (journal ++ [⟨run, call, reply⟩])) id attempt) :
    Marks (said journal) id attempt ∨ Marks [⟨call, reply⟩] id attempt := by
  have ⟨guard, at_, same, there⟩ := marks
  rw [said_append] at there
  cases List.mem_append.mp there with
  | inl before => exact .inl ⟨guard, at_, same, before⟩
  | inr now => exact .inr ⟨guard, at_, same, now⟩

structure RowSound (store : SweepStore) (journal : SweepJournal) (id : Nat) (row : SweepReceipt) :
    Prop where
  finished : ∀ attempt, 1 ≤ attempt → attempt < row.sweepAttempts → Over store journal id attempt
  ended : row.sweepStatus ≠ .submitted → row.sweepStatus ≠ .confirmed → 1 ≤ row.sweepAttempts →
    Over store journal id row.sweepAttempts
  recorded : ∀ txHash, row.sweepTxHash = some txHash →
    Answers (said journal) id row.sweepAttempts txHash ∨ Carried store row txHash
  confirmed : row.sweepStatus = .confirmed →
    ∃ txHash, row.sweepTxHash = some txHash ∧ Carried store row txHash

def asksFor (id attempt : Nat) (exchange : JournalEntry SweepCall SweepCall.Reply) : Bool :=
  match exchange.call with
  | .submitBankrTransfer other number .. => other == id && number == attempt
  | _ => false

structure SweepInvariant (store : SweepStore) (journal : SweepJournal) : Prop where
  truthful : ∀ exchange ∈ said journal, Truthful store exchange
  mined : ∀ mined ∈ store.chain.transactions, mined.block ≤ store.chain.head
  claimsOnce : ∀ run other id attempt, Claims (pastOf run journal) id attempt →
    Claims (pastOf other journal) id attempt → run = other
  requested : ∀ run id attempt wallet recipient amount answer,
    ⟨run, .submitBankrTransfer id attempt wallet recipient amount, answer⟩ ∈ journal →
    Claims (pastOf run journal) id attempt ∧ Marks (said journal) id attempt
  once : ∀ id attempt, (journal.filter (asksFor id attempt)).length ≤ 1
  rows : ∀ (id : Nat) (row : SweepReceipt), store.receipts[id]? = some row →
    RowSound store journal id row
  distinct : ∀ (id other : Nat) (row held : SweepReceipt) (txHash : TxHash),
    store.receipts[id]? = some row → store.receipts[other]? = some held →
    row.sweepTxHash = some txHash → held.sweepTxHash = some txHash → id = other

theorem marks_later {past : Past} (marks : Marks past id attempt) (later : Past) :
    Marks (past ++ later) id attempt := by
  have ⟨guard, at_, same, there⟩ := marks
  exact ⟨guard, at_, same, mem_later there later⟩

theorem claims_append {past later : Past} (claims : Claims (past ++ later) id attempt) :
    Claims past id attempt ∨ Claims later id attempt := by
  have ⟨guard, at_, claimBlock, destination, there⟩ := claims
  cases List.mem_append.mp there with
  | inl before => exact .inl ⟨guard, at_, claimBlock, destination, before⟩
  | inr now => exact .inr ⟨guard, at_, claimBlock, destination, now⟩

theorem claims_own {run : Nat} {reply : call.Reply}
    (claims : Claims (pastOf run journal) id attempt) (other : Nat) :
    Claims (pastOf run (journal ++ [⟨other, call, reply⟩])) id attempt := by
  by_cases same : other = run
  · rw [same, pastOf_append_own]
    exact claims_later claims _
  · rw [pastOf_append_other same]
    exact claims

theorem rowSound_grown (sound : RowSound store journal id row) (grown : Grown store next)
    (more : said journal ⊆ said later)
    (unmarked : ∀ attempt, Marks (said later) id attempt → Marks (said journal) id attempt ∨
      (attempt = row.sweepAttempts ∧ row.sweepStatus = .submitted)) :
    RowSound next later id row := by
  constructor
  · intro attempt first before
    apply over_grown (sound.finished attempt first before) grown more
    intro marks
    cases unmarked attempt marks with
    | inl marked => exact marked
    | inr own => omega
  · intro unsubmitted unconfirmed first
    apply over_grown (sound.ended unsubmitted unconfirmed first) grown more
    intro marks
    cases unmarked _ marks with
    | inl marked => exact marked
    | inr own => exact absurd own.2 unsubmitted
  · intro txHash recorded
    cases sound.recorded txHash recorded with
    | inl answers =>
      have ⟨wallet, recipient, amount, there⟩ := answers
      exact .inl ⟨wallet, recipient, amount, more there⟩
    | inr carried => exact .inr (carried_grown carried grown)
  · intro confirmed
    have ⟨txHash, recorded, carried⟩ := sound.confirmed confirmed
    exact ⟨txHash, recorded, carried_grown carried grown⟩

theorem invariant_append {run : Nat} {reply : call.Reply} (invariant : SweepInvariant store journal)
    (grown : Grown store next) (truth : Truthful next ⟨call, reply⟩)
    (mined : ∀ mined ∈ next.chain.transactions, mined.block ≤ next.chain.head)
    (rule : sweepRule (pastOf run journal) call)
    (claims : ∀ id attempt, Claims [⟨call, reply⟩] id attempt →
      ∀ other, ¬Claims (pastOf other journal) id attempt)
    (rows : ∀ (id : Nat) (row : SweepReceipt), next.receipts[id]? = some row →
      RowSound next (journal ++ [⟨run, call, reply⟩]) id row)
    (distinct : ∀ (id other : Nat) (row held : SweepReceipt) (txHash : TxHash),
      next.receipts[id]? = some row → next.receipts[other]? = some held →
      row.sweepTxHash = some txHash → held.sweepTxHash = some txHash → id = other) :
    SweepInvariant next (journal ++ [⟨run, call, reply⟩]) := by
  refine ⟨?_, mined, ?_, ?_, ?_, rows, distinct⟩
  · intro exchange there
    rw [said_append] at there
    cases List.mem_append.mp there with
    | inl before => exact truthful_grown (invariant.truthful exchange before) grown
    | inr now => exact List.mem_singleton.mp now ▸ truth
  · have owner (who id attempt : Nat)
        (held : Claims (pastOf who (journal ++ [⟨run, call, reply⟩])) id attempt) :
        Claims (pastOf who journal) id attempt ∨
          (who = run ∧ Claims [⟨call, reply⟩] id attempt) := by
      by_cases same : run = who
      · rw [← same, pastOf_append_own] at held
        cases claims_append held with
        | inl before => exact .inl (same ▸ before)
        | inr now => exact .inr ⟨same.symm, now⟩
      · rw [pastOf_append_other same] at held
        exact .inl held
    intro who other id attempt first second
    cases owner who id attempt first with
    | inl first =>
      cases owner other id attempt second with
      | inl second => exact invariant.claimsOnce who other id attempt first second
      | inr second => exact absurd first (claims id attempt second.2 who)
    | inr first =>
      cases owner other id attempt second with
      | inl second => exact absurd second (claims id attempt first.2 other)
      | inr second => exact first.1.trans second.1.symm
  · intro who id attempt wallet recipient amount answer there
    cases List.mem_append.mp there with
    | inl before =>
      have ⟨held, marked⟩ :=
        invariant.requested who id attempt wallet recipient amount answer before
      rw [said_append]
      exact ⟨claims_own held run, marks_later marked _⟩
    | inr now =>
      have same := List.mem_singleton.mp now
      cases same
      have ⟨held, marked, _⟩ := rule
      rw [said_append]
      refine ⟨claims_own held _, marks_later ?_ _⟩
      have ⟨guard, at_, isGuard, there⟩ := marked
      exact ⟨guard, at_, isGuard, said_of_past there⟩
  · intro id attempt
    rw [List.filter_append, List.length_append]
    have before := invariant.once id attempt
    by_cases asks : asksFor id attempt ⟨run, call, reply⟩ = true
    · cases call with
      | submitBankrTransfer other number wallet recipient amount =>
        simp only [asksFor, Bool.and_eq_true, beq_iff_eq] at asks
        have ⟨held, _, unasked⟩ := rule
        rw [asks.1, asks.2] at held
        have none_before : journal.filter (asksFor id attempt) = [] := by
          rw [List.filter_eq_nil_iff]
          intro exchange there asked
          obtain ⟨who, call', reply'⟩ := exchange
          cases call' with
          | submitBankrTransfer other' number' wallet' recipient' amount' =>
            simp only [asksFor, Bool.and_eq_true, beq_iff_eq] at asked
            have earlier := (invariant.requested who _ _ _ _ _ _ there).1
            rw [asked.1, asked.2] at earlier
            have same := invariant.claimsOnce who run id attempt earlier held
            rw [same] at there
            exact unasked _ _ _ _ _ _ (mem_pastOf.mpr there)
          | _ => cases asked
        simp [none_before, asksFor, asks]
      | _ => cases asks
    · simpa [asks] using before

theorem isSweepTransferLog_congr {row next : SweepReceipt} (log : TransferLog)
    (wallet : next.normalizedDepositAddress = row.normalizedDepositAddress)
    (destination : next.sweepDestinationAddress = row.sweepDestinationAddress)
    (amount : next.amountMinor = row.amountMinor) :
    isSweepTransferLog next log = isSweepTransferLog row log := by
  simp [isSweepTransferLog, wallet, destination, amount]

section

variable {store : SweepStore} {journal : SweepJournal} (invariant : SweepInvariant store journal)
include invariant

theorem loaded_current {receipt row : SweepReceipt}
    (loaded : Loaded (said journal) id attempt receipt) (current : store.receipts[id]? = some row)
    (same : row.sweepAttempts = attempt) (log : TransferLog) :
    isSweepTransferLog row log = isSweepTransferLog receipt log := by
  have ⟨_, held, there, follows⟩ := invariant.truthful _ loaded.1
  rw [current] at there
  cases there
  have ⟨destination, _, _⟩ := follows.attempt (same.trans loaded.2.symm)
  exact isSweepTransferLog_congr log follows.wallet destination follows.amount

theorem sees_carried {receipt row : SweepReceipt}
    (loaded : Loaded (pastOf run journal) id attempt receipt)
    (sees : Sees (pastOf run journal) receipt txHash) (current : store.receipts[id]? = some row)
    (same : row.sweepAttempts = attempt) : Carried store row txHash := by
  have agrees := loaded_current invariant ⟨said_of_past loaded.1, loaded.2⟩ current same
  cases sees with
  | inl inLogs =>
    have ⟨_, _, _, _, logs, there, log, inLogs, isMatch, isHash⟩ := inLogs
    have ⟨_, sound, _⟩ := invariant.truthful _ (said_of_past there)
    have ⟨mined, inChain, ofMined⟩ := sound log inLogs
    have ⟨_, sameHash, transferred⟩ := block_of_rpcLog ofMined
    refine ⟨mined, inChain, sameHash.symm.trans isHash, log.transfer, transferred, ?_⟩
    rw [agrees]
    exact isMatch
  | inr inReceipt =>
    have ⟨mined, there, log, inLogs, isMatch⟩ := inReceipt
    have ⟨inChain, isHash⟩ := invariant.truthful _ (said_of_past there)
    refine ⟨mined, inChain, isHash, log, inLogs, ?_⟩
    rw [agrees]
    exact isMatch

theorem searches_recorded {run head : Nat} {receipt : SweepReceipt}
    (searches : Searches (pastOf run journal) receipt head) : ∃ recorded : List TxHash,
      (recorded = [] ∨ ∃ hashes, ⟨.recordedHashes hashes, some recorded⟩ ∈ said journal) ∧
      ∀ mined ∈ store.chain.transactions, ∀ log ∈ mined.logs,
        isSweepTransferLog receipt log = true → receipt.sweepClaimBlock.getD 0 ≤ mined.block →
        mined.block ≤ evidenceEnd receipt head → mined.hash ∈ recorded := by
  have ⟨_, found⟩ := searches
  cases found with
  | inl undestined =>
    refine ⟨[], .inl rfl, ?_⟩
    intro mined _ log _ isMatch
    simp [isSweepTransferLog, undestined] at isMatch
  | inr found =>
    cases found with
    | inl beyond =>
      refine ⟨[], .inl rfl, ?_⟩
      intro mined _ log _ _ lower upper
      omega
    | inr found =>
      have ⟨destination, logs, recorded, destined, there, asked, inRecorded⟩ := found
      refine ⟨recorded, ?_, ?_⟩
      · cases asked with
        | inl nothing => exact .inl nothing
        | inr asked =>
          have ⟨hashes, inPast⟩ := asked
          exact .inr ⟨hashes, said_of_past inPast⟩
      · intro mined inChain log inLogs isMatch lower upper
        have ⟨_, _, complete⟩ := invariant.truthful _ (said_of_past there)
        have isExact := isMatch
        simp only [isSweepTransferLog, Bool.and_eq_true, beq_iff_eq, destined,
          Option.some.injEq] at isExact
        have ofMined : (⟨log, mined.hash, mined.block⟩ : RpcLog) ∈ mined.rpcLogs :=
          List.mem_map.mpr ⟨log, inLogs, rfl⟩
        have returned := complete mined inChain _ ofMined isExact.1.1.1 isExact.1.1.2
          isExact.1.2.symm lower upper
        exact inRecorded _ returned isMatch

end

variable {guard : TransitionGuard} {values : SweepValues}

theorem transitionRow_cases {receipts next : List SweepReceipt} {affected : Bool}
    (writes : transitionRow receipts id guard values = some (next, affected)) :
    (affected = false ∧ next = receipts) ∨
      (affected = true ∧ ∃ row, receipts[id]? = some row ∧ guard.admits row = true ∧
        next = receipts.set id (values.apply row) ∧
        ∀ txHash, (values.apply row).sweepTxHash = some txHash →
          recordedElsewhere receipts id txHash = false) := by
  unfold transitionRow at writes
  cases current : receipts[id]? with
  | none =>
    rw [current] at writes
    cases writes
    exact .inl ⟨rfl, rfl⟩
  | some row =>
    rw [current] at writes
    simp only at writes
    split at writes
    · rename_i admitted
      split at writes
      · rename_i checked
        cases writes
        refine .inr ⟨rfl, row, rfl, admitted, rfl, ?_⟩
        intro txHash recorded
        rw [Bool.and_eq_true] at checked
        simpa [recorded] using checked.2
      · cases writes
    · cases writes
      exact .inl ⟨rfl, rfl⟩

theorem not_recordedElsewhere {receipts : List SweepReceipt} {id other : Nat} {held : SweepReceipt}
    (unrecorded : recordedElsewhere receipts id txHash = false) (different : other ≠ id)
    (current : receipts[other]? = some held) : held.sweepTxHash ≠ some txHash := by
  intro recorded
  have bound := (List.getElem?_eq_some_iff.mp current).1
  rw [recordedElsewhere, List.any_eq_false] at unrecorded
  apply unrecorded other (List.mem_range.mpr bound)
  simp [different, current, recorded]

theorem admits_iff (admitted : guard.admits row = true) :
    row.sweepStatus ∈ guard.statuses ∧ row.sweepAttempts = guard.attempts ∧
      (guard.unrequested = true → row.sweepTransferRequestedAt = none) ∧
      ∀ txHash, guard.txHash = some txHash → row.sweepTxHash = txHash := by
  simp only [TransitionGuard.admits, Bool.and_eq_true, List.contains_iff_mem, beq_iff_eq]
    at admitted
  have ⟨⟨⟨status, attempts⟩, requested⟩, hash⟩ := admitted
  refine ⟨status, attempts, ?_, ?_⟩
  · intro unrequested
    simpa [unrequested] using requested
  · intro txHash compared
    simpa [compared] using hash

theorem rowFollows_apply {past : Past} (rule : sweepRule past (.transition id guard values))
    (attempts : row.sweepAttempts = guard.attempts) : RowFollows row (values.apply row) := by
  cases values with
  | claimed attempt at_ claimBlock destination =>
    have raised : attempt = guard.attempts + 1 := rule.2
    refine ⟨rfl, rfl, ?_, ?_⟩
    · simp only [SweepValues.apply]
      omega
    · intro same
      simp only [SweepValues.apply] at same
      omega
  | requested at_ => exact ⟨rfl, rfl, le_refl _, fun _ => ⟨rfl, rfl, fun _ => rfl⟩⟩
  | unclaimed status error at_ => exact ⟨rfl, rfl, le_refl _, fun _ => ⟨rfl, rfl, fun before => before⟩⟩
  | ended status error => exact ⟨rfl, rfl, le_refl _, fun _ => ⟨rfl, rfl, fun before => before⟩⟩
  | noted error => exact ⟨rfl, rfl, le_refl _, fun _ => ⟨rfl, rfl, fun before => before⟩⟩
  | hash txHash at_ => exact ⟨rfl, rfl, le_refl _, fun _ => ⟨rfl, rfl, fun before => before⟩⟩
  | confirmed at_ => exact ⟨rfl, rfl, le_refl _, fun _ => ⟨rfl, rfl, fun before => before⟩⟩

variable {store : SweepStore}

theorem grown_set {row next : SweepReceipt}
    (current : store.receipts[id]? = some row) (follows : RowFollows row next) :
    Grown store { store with receipts := store.receipts.set id next } := by
  have bound := (List.getElem?_eq_some_iff.mp current).1
  refine ⟨?_, le_refl _, fun _ there => there, fun _ there => .inl there⟩
  intro other held there
  by_cases same : id = other
  · rw [← same, current] at there
    cases there
    exact ⟨next, by rw [← same]; exact List.getElem?_set_self bound, follows⟩
  · exact ⟨held, by rw [List.getElem?_set_ne same]; exact there, rowFollows_refl held⟩

theorem over_of_ended {status : SweepStatus} {error : String}
    (invariant : SweepInvariant store journal)
    (rule : sweepRule (pastOf run journal) (.transition id guard (.ended status error)))
    (current : store.receipts[id]? = some row) (admitted : guard.admits row = true)
    {next : SweepStore} (grown : Grown store next) :
    Over next (journal ++ [⟨run, .transition id guard (.ended status error), some true⟩]) id
      row.sweepAttempts := by
  have ⟨_, attempts, unrequested, isRecorded⟩ := admits_iff admitted
  have recordedHash := (invariant.rows id row current).recorded
  have ⟨_, _, evidence⟩ := rule
  cases evidence with
  | inl unmarked =>
    left
    intro marks
    rw [said_append] at marks
    have ⟨other, at_, same, there⟩ := marks
    cases List.mem_append.mp there with
    | inl before =>
      have ⟨held, isHeld, _, requested⟩ := invariant.truthful _ before
      rw [current] at isHeld
      cases isHeld
      have marked := requested same.symm
      rw [unrequested unmarked] at marked
      cases marked
    | inr now => cases List.mem_singleton.mp now
  | inr evidence =>
    cases evidence with
    | inl refuses =>
      have ⟨wallet, recipient, amount, code, refusal, there⟩ := refuses
      refine .inr (.inl ⟨wallet, recipient, amount, code, refusal, ?_⟩)
      rw [said_append, attempts]
      exact mem_later (said_of_past there) _
    | inr reverted =>
      have ⟨txHash, compared, receipt, head, mined, loaded, there, fails, searches⟩ := reverted
      have ⟨inChain, isHash⟩ := invariant.truthful _ (said_of_past there)
      have ⟨recorded, asked, searched⟩ := searches_recorded invariant searches
      have bound : head ≤ store.chain.head :=
        invariant.truthful _ (said_of_past searches.1)
      have before : ∀ other ∈ next.chain.transactions, ∀ log ∈ other.logs,
          isSweepTransferLog receipt log = true →
          receipt.sweepClaimBlock.getD 0 ≤ other.block →
          other.block ≤ evidenceEnd receipt head → other.hash ∈ recorded := by
        intro other inNext log inLogs isMatch lower upper
        cases grown.added other inNext with
        | inl older => exact searched other older log inLogs isMatch lower upper
        | inr new =>
          have last : evidenceEnd receipt head ≤ head := Nat.min_le_left _ _
          omega
      refine .inr (.inr ⟨txHash, mined, receipt, head, recorded,
        ⟨guard, status, error, attempts.symm, compared, ?_⟩, ?_, grown.kept mined inChain,
        isHash, fails, ?_, bound.trans grown.head, ?_, before⟩)
      · rw [said_append]
        simp
      · have ofRow := recordedHash txHash (isRecorded _ compared)
        rw [said_append]
        cases ofRow with
        | inl answers =>
          have ⟨wallet, recipient, amount, inJournal⟩ := answers
          exact .inl ⟨wallet, recipient, amount, mem_later inJournal _⟩
        | inr carried =>
          have agrees := loaded_current invariant
            ⟨said_of_past loaded.1, loaded.2⟩ current attempts
          have ⟨other, inOther, sameHash, log, inLogs, isMatch⟩ := carried_grown carried grown
          exact .inr ⟨other, inOther, sameHash, log, inLogs, agrees log ▸ isMatch⟩
      · rw [said_append, attempts]
        exact loaded_later ⟨said_of_past loaded.1, loaded.2⟩ _
      · rw [said_append]
        cases asked with
        | inl nothing => exact .inl nothing
        | inr asked =>
          have ⟨hashes, inJournal⟩ := asked
          exact .inr ⟨hashes, mem_later inJournal _⟩

theorem carried_follows {row later : SweepReceipt}
    (carried : Carried store row txHash) (grown : Grown store next) (follows : RowFollows row later)
    (same : later.sweepAttempts = row.sweepAttempts) : Carried next later txHash := by
  have ⟨mined, there, isHash, log, inLogs, isMatch⟩ := carried
  refine ⟨mined, grown.kept mined there, isHash, log, inLogs, ?_⟩
  rw [isSweepTransferLog_congr log follows.wallet (follows.attempt same).1 follows.amount]
  exact isMatch

section Apply

variable {store next : SweepStore} {journal : SweepJournal} {run id : Nat}
variable {guard : TransitionGuard} {values : SweepValues} {row : SweepReceipt}

theorem marks_transition (attempts : row.sweepAttempts = guard.attempts)
    (marks : Marks [⟨.transition id guard values, some true⟩] id attempt) :
    attempt = row.sweepAttempts ∧ ∃ at_, values = .requested at_ := by
  have ⟨other, at_, same, there⟩ := marks
  have isCall := List.mem_singleton.mp there
  cases isCall
  exact ⟨same.symm.trans attempts.symm, at_, rfl⟩

theorem recorded_kept (sound : RowSound store journal id row) (grown : Grown store next)
    {later : SweepReceipt} (follows : RowFollows row later)
    (same : later.sweepAttempts = row.sweepAttempts) (hash : later.sweepTxHash = row.sweepTxHash)
    (call : SweepCall) (reply : call.Reply) : ∀ txHash, later.sweepTxHash = some txHash →
      Answers (said (journal ++ [⟨run, call, reply⟩])) id later.sweepAttempts txHash ∨
        Carried next later txHash := by
  intro txHash recorded
  rw [hash] at recorded
  rw [same, said_append]
  cases sound.recorded txHash recorded with
  | inl answers =>
    have ⟨wallet, recipient, amount, there⟩ := answers
    exact .inl ⟨wallet, recipient, amount, mem_later there _⟩
  | inr carried => exact .inr (carried_follows carried grown follows same)

theorem rowSound_apply (invariant : SweepInvariant store journal)
    (rule : sweepRule (pastOf run journal) (.transition id guard values))
    (current : store.receipts[id]? = some row) (admitted : guard.admits row = true)
    (grown : Grown store next) :
    RowSound next (journal ++ [⟨run, .transition id guard values, some true⟩]) id
      (values.apply row) := by
  have sound := invariant.rows id row current
  have ⟨status, attempts, _, compared⟩ := admits_iff admitted
  have follows := rowFollows_apply rule attempts
  have earlier (attempt : Nat) (first : 1 ≤ attempt) (before : attempt < row.sweepAttempts) :
      Over next (journal ++ [⟨run, .transition id guard values, some true⟩]) id attempt := by
    apply over_grown (sound.finished attempt first before) grown (said_subset_append _ _ _ _)
    intro marks
    cases marks_append marks with
    | inl marked => exact marked
    | inr own =>
      have same := (marks_transition attempts own).1
      omega
  have unclaimed (free : guard.statuses = [.pending, .failed])
      (unmarking : ∀ at_, values ≠ .requested at_) (first : 1 ≤ row.sweepAttempts) :
      Over next (journal ++ [⟨run, .transition id guard values, some true⟩]) id
        row.sweepAttempts := by
    have ended : Over store journal id row.sweepAttempts := by
      rw [free] at status
      apply sound.ended _ _ first
      · intro submitted
        simp [submitted] at status
      · intro confirmed
        simp [confirmed] at status
    apply over_grown ended grown (said_subset_append _ _ _ _)
    intro marks
    cases marks_append marks with
    | inl marked => exact marked
    | inr own =>
      have ⟨_, at_, isMark⟩ := marks_transition attempts own
      exact absurd isMark (unmarking at_)
  cases values with
  | unclaimed ended error at_ =>
    have ⟨free, isEnd⟩ := rule
    refine ⟨earlier, fun _ _ first => unclaimed free (fun _ => nofun) first,
      recorded_kept sound grown follows rfl rfl _ _, ?_⟩
    intro confirmed
    simp only [SweepValues.apply] at confirmed
    rw [confirmed] at isEnd
    simp at isEnd
  | claimed attempt at_ claimBlock destination =>
    have ⟨free, raised⟩ := rule
    refine ⟨?_, fun unsubmitted => absurd rfl unsubmitted, fun _ => nofun, nofun⟩
    intro other first before
    simp only [SweepValues.apply] at before
    by_cases last : other = row.sweepAttempts
    · rw [last]
      exact unclaimed free (fun _ => nofun) (last ▸ first)
    · exact earlier other first (by omega)
  | ended ended error =>
    have ⟨_, isEnd, _⟩ := rule
    refine ⟨earlier, fun _ _ _ => over_of_ended invariant rule current admitted grown,
      recorded_kept sound grown follows rfl rfl _ _, ?_⟩
    intro confirmed
    simp only [SweepValues.apply] at confirmed
    rw [confirmed] at isEnd
    simp at isEnd
  | requested at_ =>
    have submitted : row.sweepStatus = .submitted := by simpa [rule.1] using status
    refine ⟨earlier, fun unsubmitted => absurd submitted unsubmitted,
      recorded_kept sound grown follows rfl rfl _ _, ?_⟩
    intro confirmed
    simp [SweepValues.apply, submitted] at confirmed
  | noted error =>
    have isSubmitted : guard.statuses = [.submitted] := rule
    have submitted : row.sweepStatus = .submitted := by simpa [isSubmitted] using status
    refine ⟨earlier, fun unsubmitted => absurd submitted unsubmitted,
      recorded_kept sound grown follows rfl rfl _ _, ?_⟩
    intro confirmed
    simp [SweepValues.apply, submitted] at confirmed
  | hash txHash at_ =>
    have ⟨isSubmitted, evidence⟩ := rule
    have submitted : row.sweepStatus = .submitted := by simpa [isSubmitted] using status
    refine ⟨earlier, fun unsubmitted => absurd submitted unsubmitted, ?_, ?_⟩
    · intro other recorded
      cases recorded
      cases evidence with
      | inl answers =>
        have ⟨wallet, recipient, amount, there⟩ := answers
        rw [← attempts] at there
        refine .inl ⟨wallet, recipient, amount, ?_⟩
        rw [said_append]
        exact mem_later (said_of_past there) _
      | inr found =>
        have ⟨receipt, loaded, sees⟩ := found
        have carried := sees_carried invariant loaded sees current attempts
        exact .inr (carried_follows carried grown follows rfl)
    · intro confirmed
      simp [SweepValues.apply, submitted] at confirmed
  | confirmed at_ =>
    have ⟨_, txHash, isHash, receipt, loaded, sees⟩ := rule
    refine ⟨earlier, fun _ unconfirmed => absurd rfl unconfirmed,
      recorded_kept sound grown follows rfl rfl _ _, ?_⟩
    intro _
    have carried := sees_carried invariant loaded sees current attempts
    exact ⟨txHash, compared _ isHash, carried_follows carried grown follows rfl⟩

end Apply

theorem invariant_read {run : Nat} {reply : call.Reply} (invariant : SweepInvariant store journal)
    (truth : Truthful store ⟨call, reply⟩) (rule : sweepRule (pastOf run journal) call)
    (silent : ∀ id guard values, (⟨call, reply⟩ : Sigma SweepCall.Reply) ≠
      ⟨.transition id guard values, some true⟩) :
    SweepInvariant store (journal ++ [⟨run, call, reply⟩]) := by
  have grown := grown_refl store
  apply invariant_append invariant grown truth invariant.mined rule
  · intro id attempt claims
    have ⟨guard, at_, claimBlock, destination, there⟩ := claims
    exact absurd (List.mem_singleton.mp there).symm (silent _ _ _)
  · intro id row current
    apply rowSound_grown (invariant.rows id row current) grown (said_subset_append _ _ _ _)
    intro attempt marks
    cases marks_append marks with
    | inl marked => exact .inl marked
    | inr own =>
      have ⟨guard, at_, _, there⟩ := own
      exact absurd (List.mem_singleton.mp there).symm (silent _ _ _)
  · exact invariant.distinct

theorem invariant_transition (invariant : SweepInvariant store journal)
    (rule : sweepRule (pastOf run journal) (.transition id guard values))
    (current : store.receipts[id]? = some row) (admitted : guard.admits row = true)
    (unrecorded : ∀ txHash, (values.apply row).sweepTxHash = some txHash →
      recordedElsewhere store.receipts id txHash = false) :
    SweepInvariant { store with receipts := store.receipts.set id (values.apply row) }
      (journal ++ [⟨run, .transition id guard values, some true⟩]) := by
  have bound := (List.getElem?_eq_some_iff.mp current).1
  have ⟨status, attempts, _, _⟩ := admits_iff admitted
  have follows := rowFollows_apply rule attempts
  have grown := grown_set current follows
  have own : (store.receipts.set id (values.apply row))[id]? = some (values.apply row) :=
    List.getElem?_set_self bound
  apply invariant_append invariant grown _ invariant.mined rule
  · intro other attempt claims who earlier
    have ⟨_, at_, claimBlock, destination, there⟩ := claims
    cases List.mem_singleton.mp there
    have ⟨_, _, _, _, claimed⟩ := earlier
    have ⟨_, held, isHeld, claimedBefore⟩ := invariant.truthful _ (said_of_past claimed)
    rw [current] at isHeld
    cases isHeld
    have raised : attempt = guard.attempts + 1 := rule.2
    omega
  · intro other held isHeld
    by_cases same : id = other
    · rw [← same] at isHeld ⊢
      rw [own] at isHeld
      cases isHeld
      exact rowSound_apply invariant rule current admitted grown
    · rw [List.getElem?_set_ne same] at isHeld
      apply rowSound_grown (invariant.rows other held isHeld) grown (said_subset_append _ _ _ _)
      intro attempt marks
      cases marks_append marks with
      | inl marked => exact .inl marked
      | inr marked =>
        have ⟨_, _, _, there⟩ := marked
        cases List.mem_singleton.mp there
        exact absurd rfl same
  · intro first second held other txHash isFirst isSecond firstHash secondHash
    by_cases sameFirst : id = first
    · by_cases sameSecond : id = second
      · exact sameFirst.symm.trans sameSecond
      · rw [← sameFirst, own] at isFirst
        cases isFirst
        rw [List.getElem?_set_ne sameSecond] at isSecond
        exact absurd secondHash (not_recordedElsewhere (unrecorded txHash firstHash)
          (fun same => sameSecond same.symm) isSecond)
    · rw [List.getElem?_set_ne sameFirst] at isFirst
      by_cases sameSecond : id = second
      · rw [← sameSecond, own] at isSecond
        cases isSecond
        exact absurd firstHash (not_recordedElsewhere (unrecorded txHash secondHash)
          (fun same => sameFirst same.symm) isFirst)
      · rw [List.getElem?_set_ne sameSecond] at isSecond
        exact invariant.distinct first second held other txHash isFirst isSecond firstHash
          secondHash
  · cases values with
    | claimed attempt at_ claimBlock destination =>
      have raised : attempt = guard.attempts + 1 := rule.2
      exact ⟨raised ▸ Nat.succ_pos _, _, own, le_refl _⟩
    | requested at_ => exact ⟨_, own, le_of_eq attempts.symm, fun _ => rfl⟩
    | unclaimed | ended | noted | hash | confirmed => trivial

theorem truthful_none (store : SweepStore) (call : SweepCall) : Truthful store ⟨call, none⟩ := by
  cases call with
  | transition id guard values => cases values <;> trivial
  | _ => trivial

theorem usdcTransfers_truthful (store : SweepStore) (source recipient : Address)
    (fromBlock toBlock : Nat) (seen : toBlock ≤ store.chain.head) :
    Truthful store ⟨.usdcTransfers source recipient fromBlock toBlock,
      some (store.chain.usdcTransfers source recipient fromBlock toBlock)⟩ := by
  refine ⟨seen, ?_, ?_⟩
  · intro log there
    have ⟨inChain, _⟩ := List.mem_filter.mp there
    exact List.mem_flatMap.mp inChain
  · intro mined inChain log inLogs token isSource isRecipient lower upper
    apply List.mem_filter.mpr
    refine ⟨List.mem_flatMap.mpr ⟨mined, inChain, inLogs⟩, ?_⟩
    simp [token, isSource, isRecipient, lower, upper]

theorem invariant_perform {run : Nat} (turn : SweepTurn) (invariant : SweepInvariant store journal)
    (rule : sweepRule (pastOf run journal) call) : SweepInvariant (performSweep call turn store).1
      (journal ++ [⟨run, call, (performSweep call turn store).2⟩]) := by
  have failed : SweepInvariant store (journal ++ [⟨run, call, none⟩]) := by
    apply invariant_read invariant (truthful_none store call) rule
    intro id guard values same
    cases same
  unfold performSweep
  split
  · exact failed
  · split
    · exact failed
    · rename_i next answer executes
      cases call with
      | transition id guard values =>
        simp only [SweepCall.execute, Option.map_eq_some_iff] at executes
        have ⟨⟨receipts, affected⟩, writes, same⟩ := executes
        cases same
        cases transitionRow_cases writes with
        | inl lost =>
          rw [lost.1, lost.2]
          apply invariant_read invariant _ rule
          · intro id guard values same
            cases same
          · cases values <;> trivial
        | inr written =>
          have ⟨isAffected, row, current, admitted, isNext, unrecorded⟩ := written
          rw [isAffected, isNext]
          exact invariant_transition invariant rule current admitted unrecorded
      | load id statuses =>
        cases executes
        apply invariant_read invariant _ rule
        · intro id guard values same
          cases same
        · cases loaded : store.receipts[id]?.filter fun row =>
              statuses.contains row.sweepStatus with
          | none => trivial
          | some receipt =>
            have ⟨current, status⟩ := Option.filter_eq_some_iff.mp loaded
            exact ⟨List.contains_iff_mem.mp status, receipt, current, rowFollows_refl receipt⟩
      | transactionReceipt txHash =>
        cases executes
        apply invariant_read invariant _ rule
        · intro id guard values same
          cases same
        · cases found : store.chain.transactions.find? fun transaction =>
              transaction.hash == txHash with
          | none => trivial
          | some mined =>
            have isHash := List.find?_some found
            exact ⟨List.mem_of_find?_eq_some found, by simpa using isHash⟩
      | usdcTransfers source recipient fromBlock toBlock =>
        cases executes
        apply invariant_read invariant _ rule
        · intro id guard values same
          cases same
        · have ⟨head, headRead, bound⟩ := rule
          apply usdcTransfers_truthful
          have seen : head ≤ store.chain.head := invariant.truthful _ (said_of_past headRead)
          exact bound.trans seen
      | blockNumber =>
        cases executes
        apply invariant_read invariant _ rule
        · intro id guard values same
          cases same
        · exact le_refl _
      | _ =>
        cases executes
        apply invariant_read invariant _ rule
        · intro id guard values same
          cases same
        · trivial

theorem invariant_change (change : SweepChange) (invariant : SweepInvariant store journal) :
    SweepInvariant (applySweepChange change store) journal := by
  have keeps {next : SweepStore} (grown : Grown store next)
      (mined : ∀ mined ∈ next.chain.transactions, mined.block ≤ next.chain.head)
      (old : ∀ (id : Nat) (row : SweepReceipt), next.receipts[id]? = some row →
        store.receipts[id]? = some row ∨ ∃ deposit, row = SettledDeposit.receipt deposit) :
      SweepInvariant next journal := by
    refine ⟨fun exchange there => truthful_grown (invariant.truthful exchange there) grown, mined,
      invariant.claimsOnce, invariant.requested, invariant.once, ?_, ?_⟩
    · intro id row current
      cases old id row current with
      | inl held =>
        exact rowSound_grown (invariant.rows id row held) grown (List.Subset.refl _)
          fun _ => .inl
      | inr new =>
        have ⟨deposit, isNew⟩ := new
        rw [isNew]
        refine ⟨?_, ?_, fun _ => nofun, nofun⟩
        · intro attempt first before
          exact absurd before (Nat.not_lt_zero attempt)
        · intro _ _ first
          exact absurd first (Nat.not_lt_zero 0)
    · intro id other row held txHash isRow isHeld rowHash heldHash
      cases old id row isRow with
      | inr new =>
        have ⟨deposit, isNew⟩ := new
        rw [isNew] at rowHash
        cases rowHash
      | inl oldRow =>
        cases old other held isHeld with
        | inr new =>
          have ⟨deposit, isNew⟩ := new
          rw [isNew] at heldHash
          cases heldHash
        | inl oldHeld =>
          exact invariant.distinct id other row held txHash oldRow oldHeld rowHash heldHash
  cases change with
  | settle deposit =>
    apply keeps
    · refine ⟨?_, le_refl _, fun _ there => there, fun _ there => .inl there⟩
      intro id row current
      have bound := (List.getElem?_eq_some_iff.mp current).1
      refine ⟨row, ?_, rowFollows_refl row⟩
      simp only [applySweepChange]
      rw [List.getElem?_append_left bound]
      exact current
    · exact invariant.mined
    · intro id row current
      simp only [applySweepChange] at current
      by_cases bound : id < store.receipts.length
      · rw [List.getElem?_append_left bound] at current
        exact .inl current
      · rw [List.getElem?_append_right (by omega)] at current
        have there := List.mem_of_getElem? current
        exact .inr ⟨deposit, List.mem_singleton.mp there⟩
  | mine blocks broadcasts =>
    have later (mined : ChainTransaction)
        (there : mined ∈ (store.chain.mine blocks broadcasts).transactions) :
        mined ∈ store.chain.transactions ∨ mined.block = store.chain.head + blocks + 1 := by
      cases List.mem_append.mp there with
      | inl before => exact .inl before
      | inr now =>
        have ⟨broadcast, _, isMined⟩ := List.mem_map.mp now
        rw [← isMined]
        exact .inr rfl
    have raised : (store.chain.mine blocks broadcasts).head = store.chain.head + blocks + 1 := rfl
    apply keeps
    · refine ⟨fun _ row current => ⟨row, current, rowFollows_refl row⟩, ?_, ?_, ?_⟩
      · simp only [applySweepChange]
        omega
      · intro mined there
        exact List.mem_append_left _ there
      · intro mined there
        cases later mined there with
        | inl before => exact .inl before
        | inr now =>
          right
          omega
    · intro mined there
      simp only [applySweepChange]
      cases later mined there with
      | inl before =>
        have bound := invariant.mined mined before
        omega
      | inr now => omega
    · intro id row current
      exact .inl current

theorem invariant_after (schedule : SweepSchedule) :
    SweepInvariant (afterSweeps schedule).world.store (afterSweeps schedule).journal := by
  have lawful : sweepSystem.Lawful sweepRule (fun _ _ => True) SweepInvariant := by
    constructor
    · exact script_follows
    · intro logged run request next turn invariant _ _ rule
      exact invariant_perform turn invariant rule
    · intro logged change invariant _
      exact invariant_change change invariant
  have initially : SweepInvariant
      { receipts := [], chain := { head := 0, transactions := [] } } [] := by
    constructor <;> simp [said, Claims]
  have fitting : Meets sweepSystem.log (fun _ _ => True) startSweeps schedule :=
    meets_always (fun _ _ => trivial) startSweeps schedule
  exact (System.lawful_after lawful initially fitting).invariant

end Hivra.DepositSweep
