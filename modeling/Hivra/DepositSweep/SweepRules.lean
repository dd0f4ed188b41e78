import Hivra.DepositSweep.SweepRuns

/-!
# What a sweep knows when it acts

For every request that changes something, what the run has been answered before it: a
transfer is requested under the run's own claim and mark, and only once, and each later
transition stands on a refusal, a reverted transaction and a search, or the transfer found.
-/

namespace Hivra.DepositSweep

open Hivra.Library

/-- What a sweep has asked so far, with the answers it got. -/
abbrev Past : Type := List (Sigma SweepCall.Reply)

def Loaded (past : Past) (id attempt : Nat) (receipt : SweepReceipt) : Prop :=
  ⟨.load id [.submitted], some (some receipt)⟩ ∈ past ∧ receipt.sweepAttempts = attempt

def Claims (past : Past) (id attempt : Nat) : Prop :=
  ∃ guard at_ claimBlock destination,
    ⟨.transition id guard (.claimed attempt at_ claimBlock destination), some true⟩ ∈ past

def Marks (past : Past) (id attempt : Nat) : Prop :=
  ∃ guard at_, guard.attempts = attempt ∧
    ⟨.transition id guard (.requested at_), some true⟩ ∈ past

def Answers (past : Past) (id attempt : Nat) (txHash : TxHash) : Prop :=
  ∃ wallet recipient amount,
    ⟨.submitBankrTransfer id attempt wallet recipient amount, some (.hash txHash)⟩ ∈ past

def Refuses (past : Past) (id attempt : Nat) : Prop :=
  ∃ wallet recipient amount status, isTransferRefusal status = true ∧
    ⟨.submitBankrTransfer id attempt wallet recipient amount, some (.httpError status)⟩ ∈ past

def Sees (past : Past) (receipt : SweepReceipt) (txHash : TxHash) : Prop :=
  (∃ source recipient fromBlock toBlock logs,
    ⟨.usdcTransfers source recipient fromBlock toBlock, some logs⟩ ∈ past ∧
    ∃ log ∈ logs, isSweepTransferLog receipt log.transfer = true ∧
      log.transactionHash = txHash) ∨
  ∃ mined : ChainTransaction, ⟨.transactionReceipt txHash, some (some mined)⟩ ∈ past ∧
    ∃ log ∈ mined.logs, isSweepTransferLog receipt log = true

/-- The blocks in which the transfer can lie were searched, and none unrecorded was found. -/
def Searches (past : Past) (receipt : SweepReceipt) (head : Nat) : Prop :=
  ⟨.blockNumber, some head⟩ ∈ past ∧
    (receipt.sweepDestinationAddress = none ∨
      evidenceEnd receipt head < receipt.sweepClaimBlock.getD 0 ∨
      ∃ destination logs recorded, receipt.sweepDestinationAddress = some destination ∧
        ⟨.usdcTransfers receipt.normalizedDepositAddress destination
          (receipt.sweepClaimBlock.getD 0) (evidenceEnd receipt head), some logs⟩ ∈ past ∧
        (recorded = [] ∨ ∃ hashes, ⟨.recordedHashes hashes, some recorded⟩ ∈ past) ∧
        ∀ log ∈ logs, isSweepTransferLog receipt log.transfer = true →
          log.transactionHash ∈ recorded)

/-- The transaction of the attempt has failed, and no other transfer is found. -/
def FindsNothing (past : Past) (id attempt : Nat) (txHash : TxHash) : Prop :=
  ∃ receipt head mined, Loaded past id attempt receipt ∧
    ⟨.transactionReceipt txHash, some (some mined)⟩ ∈ past ∧
    mined.succeeded = false ∧ Searches past receipt head

/-- What a sweep must have seen before it makes a call. -/
def sweepRule (past : Past) : SweepCall → Prop
  | .submitBankrTransfer id attempt .. =>
    Claims past id attempt ∧ Marks past id attempt ∧
      ∀ other number wallet recipient amount answer,
        ⟨.submitBankrTransfer other number wallet recipient amount, answer⟩ ∉ past
  | .usdcTransfers _ _ _ toBlock => ∃ head, ⟨.blockNumber, some head⟩ ∈ past ∧ toBlock ≤ head
  | .transition id guard values =>
    match values with
    | .unclaimed status _ _ =>
      guard.statuses = [.pending, .failed] ∧ (status = .failed ∨ status = .skipped)
    | .claimed attempt _ _ _ =>
      guard.statuses = [.pending, .failed] ∧ attempt = guard.attempts + 1
    | .requested _ => guard.statuses = [.submitted] ∧ Claims past id guard.attempts
    | .noted _ => guard.statuses = [.submitted]
    | .hash txHash _ =>
      guard.statuses = [.submitted] ∧
        (Answers past id guard.attempts txHash ∨
          ∃ receipt, Loaded past id guard.attempts receipt ∧ Sees past receipt txHash)
    | .confirmed _ =>
      guard.statuses = [.submitted] ∧ ∃ txHash, guard.txHash = some (some txHash) ∧
        ∃ receipt, Loaded past id guard.attempts receipt ∧ Sees past receipt txHash
    | .ended status _ =>
      guard.statuses = [.submitted] ∧ (status = .failed ∨ status = .skipped) ∧
        (guard.unrequested = true ∨ Refuses past id guard.attempts ∨
          ∃ txHash, guard.txHash = some (some txHash) ∧
            FindsNothing past id guard.attempts txHash)
  | _ => True

abbrev Keeps {Outcome : Type} (past : Past) (script : Sweeping Outcome) : Prop :=
  script.Follows sweepRule (fun _ _ => True) past

variable {Outcome : Type} {past : Past} {done : Past → Outcome → Prop}

theorem follows_ask {call : SweepCall} {failure : String}
    {next : call.Answer → Sweeping Outcome} (allowed : sweepRule past call) (continues : ∀ answer,
      (next answer).Follows sweepRule done (past ++ [⟨call, some answer⟩])) :
    ((ask call failure).bind next).Follows sweepRule done past := by
  refine ⟨allowed, ?_⟩
  intro reply
  cases reply with
  | none => trivial
  | some answer => exact continues answer

variable {id : Nat}

theorem keeps_transition {id : Nat} {guard : TransitionGuard} {values : SweepValues}
    {next : Bool → Sweeping Outcome} (allowed : sweepRule past (.transition id guard values))
    (continues : ∀ answer,
      Keeps (past ++ [⟨.transition id guard values, some answer⟩]) (next answer)) :
    Keeps past ((transition id guard values).bind next) :=
  follows_ask allowed continues

theorem mem_later {exchange : Sigma SweepCall.Reply} (there : exchange ∈ past)
    (later : Past) : exchange ∈ past ++ later :=
  List.mem_append_left later there

variable {attempt : Nat} {receipt : SweepReceipt}

theorem loaded_later (loaded : Loaded past id attempt receipt)
    (later : Past) : Loaded (past ++ later) id attempt receipt := by
  exact ⟨mem_later loaded.1 later, loaded.2⟩

theorem mem_sweepMatches {logs : List RpcLog} {log : RpcLog} : log ∈ sweepMatches receipt logs ↔
      log ∈ logs ∧ isSweepTransferLog receipt log.transfer = true := by
  rw [sweepMatches, List.mem_insertionSort, List.mem_filter]

variable {head : Nat} {now : Int}

theorem confirmMined_keeps {minedAt : Nat} {txHash : TxHash}
    (loaded : Loaded past id receipt.sweepAttempts receipt) (sees : Sees past receipt txHash) :
    Keeps past (confirmMined id receipt now head txHash minedAt) := by
  unfold confirmMined
  split
  · trivial
  · apply keeps_transition
    · exact ⟨rfl, txHash, rfl, receipt, loaded, sees⟩
    · intro confirmed
      trivial

theorem findSweepTransfer_follows {done : Past → Option RpcLog → Prop}
    (headRead : ⟨.blockNumber, some head⟩ ∈ past)
    (nothing : ∀ later, Searches (past ++ later) receipt head → done (past ++ later) none)
    (found : ∀ later (log : RpcLog), Sees (past ++ later) receipt log.transactionHash →
      done (past ++ later) (some log)) :
    (findSweepTransfer receipt head).Follows sweepRule done past := by
  unfold findSweepTransfer
  cases destined : receipt.sweepDestinationAddress with
  | none =>
    have none_found := nothing [] ⟨mem_later headRead [], .inl destined⟩
    rw [List.append_nil] at none_found
    exact none_found
  | some destination =>
    simp only
    split
    · rename_i beyond
      have none_found := nothing [] ⟨mem_later headRead [], .inr (.inl beyond)⟩
      rw [List.append_nil] at none_found
      exact none_found
    · simp only [Script.bind_eq, Script.pure_eq_ret]
      apply follows_ask
      · exact ⟨head, headRead, Nat.min_le_left _ _⟩
      · intro logs
        split
        · rename_i empty
          apply nothing
          refine ⟨mem_later headRead _, .inr (.inr ⟨destination, logs, [], destined,
            by simp, .inl rfl, ?_⟩)⟩
          intro log there isMatch
          have matched := mem_sweepMatches.mpr ⟨there, isMatch⟩
          rw [List.isEmpty_iff.mp empty] at matched
          cases matched
        · apply follows_ask
          · trivial
          · intro recorded
            rw [List.append_assoc]
            cases first : (sweepMatches receipt logs).find? fun candidate =>
                !recorded.contains candidate.transactionHash with
            | none =>
              apply nothing
              refine ⟨mem_later headRead _, .inr (.inr ⟨destination, logs, recorded, destined,
                by simp,
                .inr ⟨((sweepMatches receipt logs).map RpcLog.transactionHash).dedup, by simp⟩,
                ?_⟩)⟩
              intro log there isMatch
              have missed := List.find?_eq_none.mp first log
                (mem_sweepMatches.mpr ⟨there, isMatch⟩)
              simpa using missed
            | some log =>
              apply found
              have ⟨there, isMatch⟩ := mem_sweepMatches.mp (List.mem_of_find?_eq_some first)
              exact .inl ⟨_, _, _, _, logs, by simp, log, there, isMatch, rfl⟩

theorem settleFromChain_keeps {id : Nat} {revertedTxHash : Option TxHash}
    (loaded : Loaded past id receipt.sweepAttempts receipt)
    (headRead : ⟨.blockNumber, some head⟩ ∈ past)
    (reverted : ∀ txHash, revertedTxHash = some txHash →
      ∃ mined : ChainTransaction, ⟨.transactionReceipt txHash, some (some mined)⟩ ∈ past ∧
        mined.succeeded = false) :
    Keeps past (settleFromChain id receipt now head revertedTxHash) := by
  unfold settleFromChain
  simp only [Script.bind_eq, Script.pure_eq_ret]
  apply Script.follows_bind
  apply findSweepTransfer_follows headRead
  · intro later searches
    cases recorded : revertedTxHash with
    | none => trivial
    | some txHash =>
      have ⟨mined, there, fails⟩ := reverted txHash recorded
      apply keeps_transition
      · exact ⟨rfl, .inl rfl, .inr (.inr ⟨txHash, rfl, receipt, head, mined,
          loaded_later loaded later, mem_later there later, fails, searches⟩)⟩
      · intro released
        trivial
  · intro later proof sees
    apply keeps_transition
    · exact ⟨rfl, .inr ⟨receipt, loaded_later loaded later, sees⟩⟩
    · intro adopted
      cases adopted with
      | false => trivial
      | true =>
        apply confirmMined_keeps
        · rw [List.append_assoc]
          exact loaded_later loaded _
        · cases sees with
          | inl inLogs =>
            have ⟨source, recipient, fromBlock, toBlock, logs, there, log⟩ := inLogs
            exact .inl ⟨source, recipient, fromBlock, toBlock, logs, mem_later there _, log⟩
          | inr inReceipt =>
            have ⟨mined, there, log⟩ := inReceipt
            exact .inr ⟨mined, mem_later there _, log⟩

theorem settleSubmittedSweep_keeps (loaded : Loaded past id receipt.sweepAttempts receipt) :
    Keeps past (settleSubmittedSweep id receipt now) := by
  unfold settleSubmittedSweep
  cases receipt.sweepTransferRequestedAt with
  | none =>
    simp only
    split
    · trivial
    · apply keeps_transition
      · exact ⟨rfl, .inl rfl, .inl rfl⟩
      · intro released
        trivial
  | some requestedAt =>
    simp only [settleRequested, Script.bind_eq, Script.pure_eq_ret]
    apply follows_ask
    · trivial
    · intro head
      have headRead : (⟨.blockNumber, some head⟩ : Sigma SweepCall.Reply) ∈
          past ++ [⟨.blockNumber, some head⟩] := by simp
      cases receipt.sweepTxHash with
      | none =>
        apply settleFromChain_keeps (loaded_later loaded _) headRead
        intro txHash recorded
        cases recorded
      | some txHash =>
        apply follows_ask
        · trivial
        · intro answer
          have answered : (⟨.transactionReceipt txHash, some answer⟩ : Sigma SweepCall.Reply) ∈
              past ++ [⟨.blockNumber, some head⟩] ++
                [⟨.transactionReceipt txHash, some answer⟩] := by simp
          have loaded := loaded_later (loaded_later loaded [⟨.blockNumber, some head⟩])
            [⟨.transactionReceipt txHash, some answer⟩]
          cases answer with
          | none => trivial
          | some mined =>
            simp only
            split
            · split
              · rename_i carries
                apply confirmMined_keeps loaded
                exact .inr ⟨mined, answered, List.any_eq_true.mp carries⟩
              · trivial
            · rename_i fails
              apply settleFromChain_keeps loaded (mem_later headRead _)
              intro other recorded
              cases recorded
              exact ⟨mined, answered, by simpa using fails⟩

variable {ctx : SweepContext}

theorem recordUnclaimed_keeps {status : SweepStatus} {error : String}
    (status_ends : status = .failed ∨ status = .skipped) (result : CreditDepositSweepResult) :
    Keeps past ((recordUnclaimed id receipt ctx status error).bind fun _ => .ret result) := by
  apply keeps_transition
  · exact ⟨rfl, status_ends⟩
  · intro recorded
    trivial

theorem release_keeps {status : SweepStatus} {outcome : SweepOutcome}
    {error : String} (status_ends : status = .failed ∨ status = .skipped) :
    Keeps past (release id attempt receipt status outcome error) := by
  apply keeps_transition
  · exact ⟨rfl, status_ends, .inl rfl⟩
  · intro released
    trivial

variable {wallet : Address}

theorem recordTransfer_keeps {recipient : Address} {amount : Nat} {answer : Option BankrAnswer}
    (answered : ⟨.submitBankrTransfer id attempt wallet recipient amount, answer⟩ ∈ past) :
    Keeps past (recordTransfer id attempt receipt ctx answer) := by
  have notes (error : String) (result : CreditDepositSweepResult) :
      Keeps past
        ((transition id { claimGuard attempt with txHash := some none } (.noted error)).bind
          fun _ => .ret result) := by
    apply keeps_transition
    · exact rfl
    · intro noted
      trivial
  cases answer with
  | none => exact notes _ _
  | some answer =>
    cases answer with
    | hash txHash =>
      refine ⟨⟨rfl, .inl ⟨wallet, recipient, amount, answered⟩⟩, ?_⟩
      intro reply
      trivial
    | noHash => exact notes _ _
    | noAnswer => exact notes _ _
    | httpError status =>
      simp only [recordTransfer]
      split
      · rename_i refusal
        apply keeps_transition
        · exact ⟨rfl, .inl rfl, .inr (.inl ⟨wallet, recipient, amount, status, refusal,
            answered⟩)⟩
        · intro released
          trivial
      · exact notes _ _

/-- Bankr has not been asked for a transfer yet. -/
def Unasked (past : Past) : Prop :=
  ∀ id attempt wallet recipient amount answer,
    ⟨.submitBankrTransfer id attempt wallet recipient amount, answer⟩ ∉ past

theorem requestTransfer_keeps {treasury : Address}
    (claims : Claims past id attempt) (unasked : Unasked past) :
    Keeps past (requestTransfer id attempt receipt ctx wallet treasury) := by
  refine ⟨⟨rfl, claims⟩, ?_⟩
  intro reply
  cases reply with
  | none => exact release_keeps (.inl rfl)
  | some requested =>
    cases requested with
    | false => trivial
    | true =>
      have ⟨guard, at_, claimBlock, destination, there⟩ := claims
      refine ⟨⟨⟨guard, at_, claimBlock, destination, mem_later there _⟩, ?_, ?_⟩, ?_⟩
      · exact ⟨_, _, rfl, List.mem_append_right _ (List.mem_singleton.mpr rfl)⟩
      · intro other number wallet recipient amount answer inPast
        cases List.mem_append.mp inPast with
        | inl before => exact unasked other number wallet recipient amount answer before
        | inr now => simp at now
      · intro answer
        exact recordTransfer_keeps (List.mem_append_right _ (List.mem_singleton.mpr rfl))

def SweepCall.transfers : SweepCall → Bool
  | .submitBankrTransfer .. => true
  | _ => false

theorem unasked_append (call : SweepCall) (reply : call.Reply) (other : call.transfers = false)
    (unasked : Unasked past) : Unasked (past ++ [⟨call, reply⟩]) := by
  intro id attempt wallet recipient amount answer there
  cases List.mem_append.mp there with
  | inl before => exact unasked id attempt wallet recipient amount answer before
  | inr now =>
    cases List.mem_singleton.mp now
    cases other

theorem claims_later (claims : Claims past id attempt) (later : Past) :
    Claims (past ++ later) id attempt := by
  have ⟨guard, at_, claimBlock, destination, there⟩ := claims
  exact ⟨guard, at_, claimBlock, destination, mem_later there later⟩

theorem sweepClaimed_keeps {treasury : Address} {bankrWalletId : String}
    (claims : Claims past id attempt) (unasked : Unasked past) :
    Keeps past (sweepClaimed id attempt receipt ctx wallet treasury bankrWalletId) := by
  refine ⟨trivial, ?_⟩
  intro balance
  have unasked := unasked_append (.usdcBalance wallet) balance rfl unasked
  have claims := claims_later claims [⟨.usdcBalance wallet, balance⟩]
  cases balance with
  | none => exact release_keeps (.inl rfl)
  | some balance =>
    simp only
    split
    · exact release_keeps (.inr rfl)
    · refine ⟨trivial, ?_⟩
      intro gas
      have unasked := unasked_append (.ensureWalletHasGas wallet) gas rfl unasked
      have claims := claims_later claims [⟨.ensureWalletHasGas wallet, gas⟩]
      cases gas with
      | none => exact release_keeps (.inl rfl)
      | some drained =>
        cases drained with
        | true => exact release_keeps (.inl rfl)
        | false =>
          refine ⟨trivial, ?_⟩
          intro key
          have unasked :=
            unasked_append (.mintScopedTransferApiKey bankrWalletId treasury) key rfl unasked
          have claims := claims_later claims
            [⟨.mintScopedTransferApiKey bankrWalletId treasury, key⟩]
          cases key with
          | none => exact release_keeps (.inl rfl)
          | some minted =>
            cases minted with
            | false => exact release_keeps (.inl rfl)
            | true => exact requestTransfer_keeps claims unasked

theorem sweepReceipt_keeps (unasked : Unasked past) : Keeps past (sweepReceipt id receipt ctx) := by
  unfold sweepReceipt
  cases ctx.treasury with
  | none => exact recordUnclaimed_keeps (.inl rfl) _
  | some treasury =>
    simp only [Script.bind_eq, Script.pure_eq_ret]
    split
    · exact recordUnclaimed_keeps (.inr rfl) _
    · apply follows_ask
      · trivial
      · intro credential
        have unasked := unasked_append (.credential receipt.normalizedDepositAddress)
          (some credential) rfl unasked
        split
        · split
          · exact recordUnclaimed_keeps (.inr rfl) _
          · refine ⟨trivial, ?_⟩
            intro head
            have unasked := unasked_append .blockNumber head rfl unasked
            cases head with
            | none => exact recordUnclaimed_keeps (.inl rfl) _
            | some claimBlock =>
              apply keeps_transition
              · exact ⟨rfl, rfl⟩
              · intro claimed
                cases claimed with
                | false => trivial
                | true =>
                  apply sweepClaimed_keeps
                  · exact ⟨_, _, _, _, List.mem_append_right _ (List.mem_singleton.mpr rfl)⟩
                  · exact unasked_append (.transition id _ _) (some true) rfl unasked
        · exact recordUnclaimed_keeps (.inl rfl) _

/-- Every job of the sweep keeps to the rule, whatever it is answered. -/
theorem script_follows (job : SweepJob) : Keeps [] job.script := by
  have returns {Result : Type} {past : Past} {script : Sweeping Result}
      (keeps : Keeps past script) :
      Keeps past (script.bind fun result => .ret (some result)) :=
    Script.follows_bind (Script.follows_weaken keeps fun _ _ _ => trivial)
  cases job with
  | settle id now =>
    apply follows_ask
    · trivial
    · intro row
      cases row with
      | none => trivial
      | some receipt =>
        apply returns
        apply settleSubmittedSweep_keeps
        exact ⟨List.mem_singleton.mpr rfl, rfl⟩
  | sweep id ctx =>
    apply follows_ask
    · trivial
    · intro row
      cases row with
      | none => trivial
      | some receipt =>
        apply returns
        apply sweepReceipt_keeps
        intro other attempt wallet recipient amount answer there
        cases List.mem_singleton.mp there

end Hivra.DepositSweep
