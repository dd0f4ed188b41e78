import Hivra.TreasurySweep.SweepRuns

/-!
# What a sweep knows when it acts

For every request that changes a row, what the run has been answered before it.  A run
claims once; it writes under its own claim alone; it marks the submit once, asks Bankr once
and only after the mark, and gives the claim back only unmarked or refused.  A recovery has
claimed nothing, and releases only what carries no mark.
-/

namespace Hivra.TreasurySweep

open Hivra.Library

variable {Facts Outcome : Type}

abbrev Past (Facts : Type) : Type := List (Sigma (@SweepCall.Reply Facts))

def SweepCall.claims : SweepCall Facts → Bool
  | .claim .. => true
  | _ => false

def SweepCall.marks : SweepCall Facts → Bool
  | .transition _ _ (.submit ..) => true
  | _ => false

def SweepCall.transfers : SweepCall Facts → Bool
  | .submitBankrTransfer .. => true
  | _ => false

def Without (kind : SweepCall Facts → Bool) (past : Past Facts) : Prop :=
  ∀ exchange ∈ past, kind exchange.1 = false

def Claims (past : Past Facts) (id : Nat) (now : Int) : Prop :=
  ∃ row, ⟨.claim id now, .ok (some row)⟩ ∈ past

def Marks (past : Past Facts) (id : Nat) (now : Int) : Prop :=
  ∃ guard submittedAt destination, guard.attemptedAt = some now ∧
    ⟨.transition id guard (.submit submittedAt destination), .ok true⟩ ∈ past

def Refuses (past : Past Facts) (id : Nat) : Prop :=
  ∃ token recipient amount status message, isDefiniteTransferRejection status = true ∧
    ⟨.submitBankrTransfer id token recipient amount, .ok (.httpError status message)⟩ ∈ past

def Accepts (past : Past Facts) (id : Nat) : Prop :=
  ∃ token recipient amount txHash,
    ⟨.submitBankrTransfer id token recipient amount, .ok (.accepted txHash)⟩ ∈ past

def OwnGuard (past : Past Facts) (id : Nat) (guard : SweepGuard) : Prop :=
  guard.source = .sweeping ∧ ∃ now, guard.attemptedAt = some now ∧ Claims past id now

/-- What a run must have seen before it makes a request. -/
def sweepRule (past : Past Facts) : SweepCall Facts → Prop
  | .claim .. => Without SweepCall.claims past
  | .submitBankrTransfer id .. =>
    (∃ now, Claims past id now ∧ Marks past id now) ∧ Without SweepCall.transfers past
  | .transition id guard patch =>
    match patch with
    | .recover _ =>
      Without SweepCall.claims past ∧ guard.source = .sweeping ∧ guard.submittedIsNull = true
    | .park _ =>
      Without SweepCall.claims past ∧ (guard.source = .sweeping ∨ guard.source = .failed) ∨
        OwnGuard past id guard
    | .submit .. => OwnGuard past id guard ∧ Without SweepCall.marks past
    | .succeed .. => OwnGuard past id guard ∧ Accepts past id
    | .release .. =>
      OwnGuard past id guard ∧ (Without SweepCall.marks past ∨ Refuses past id)
    | .skip .. => OwnGuard past id guard ∧ Without SweepCall.marks past
  | _ => True

abbrev Keeps (past : Past Facts) (script : Sweeping Facts Outcome) : Prop :=
  script.Follows sweepRule (fun _ _ => True) past

variable {now : Int} {id : Nat}

variable {recipient : Address} {amount : String}

section Single

variable {past : Past Facts}

theorem without_nil (kind : SweepCall Facts → Bool) : Without kind ([] : Past Facts) := by
  intro exchange there
  cases there

theorem without_append {kind : SweepCall Facts → Bool} (without : Without kind past)
    (call : SweepCall Facts) (other : kind call = false) (reply : call.Reply) :
    Without kind (past ++ [⟨call, reply⟩]) := by
  intro exchange there
  cases List.mem_append.mp there with
  | inl before => exact without exchange before
  | inr now =>
    rw [List.mem_singleton.mp now]
    exact other

theorem claims_later (claims : Claims past id now) (later : Past Facts) :
    Claims (past ++ later) id now := by
  have ⟨row, there⟩ := claims
  exact ⟨row, List.mem_append_left later there⟩

theorem own_guard (claims : Claims past id now) : OwnGuard past id (claimGuard now) :=
  ⟨rfl, now, rfl, claims⟩

theorem follows_ask {done : Past Facts → Outcome → Prop} {call : SweepCall Facts}
    {context : String} {next : call.Answer → Sweeping Facts Outcome} (allowed : sweepRule past call)
    (continues : ∀ answer,
      (next answer).Follows sweepRule done (past ++ [⟨call, .ok answer⟩])) :
    ((ask call context).bind next).Follows sweepRule done past := by
  refine ⟨allowed, ?_⟩
  intro reply
  cases reply with
  | error message => trivial
  | ok answer => exact continues answer

theorem keeps_finish {guard : SweepGuard} {patch : SweepPatch} {context : String}
    {result : SweepResult} (allowed : sweepRule past (.transition id guard patch)) :
    Keeps past (finish id guard patch context result) := by
  apply follows_ask allowed
  intro answer
  trivial

structure Holding (past : Past Facts) (id : Nat) (now : Int) : Prop where
  claims : Claims past id now
  unmarked : Without SweepCall.marks past
  unsent : Without SweepCall.transfers past

theorem holding_append (holding : Holding past id now)
    (call : SweepCall Facts) (plain : call.marks = false) (kept : call.transfers = false)
    (reply : call.Reply) : Holding (past ++ [⟨call, reply⟩]) id now := by
  constructor
  · exact claims_later holding.claims _
  · exact without_append holding.unmarked call plain reply
  · exact without_append holding.unsent call kept reply

theorem keeps_request {guard : SweepGuard} {submittedAt : Int}
    {destination : Option Address} {token : Address} (holding : Holding past id now)
    (guarded : guard.attemptedAt = some now) :
    sweepRule (past ++ [⟨.transition id guard (.submit submittedAt destination), .ok true⟩])
      (.submitBankrTransfer id token recipient amount) := by
  constructor
  · refine ⟨now, claims_later holding.claims _, guard, submittedAt, destination, guarded, ?_⟩
    exact List.mem_append_right _ (List.mem_singleton.mpr rfl)
  · exact without_append holding.unsent _ rfl _

theorem recoverStaleClaim_keeps {staleMs : Int} {loadFailed updateFailed : String}
    (unclaimed : Without SweepCall.claims past) :
    Keeps past (recoverStaleClaim staleMs loadFailed updateFailed id now) := by
  apply follows_ask
  · trivial
  · intro loaded
    have unclaimed := without_append unclaimed (.load id .sweeping) rfl (.ok loaded)
    split
    · trivial
    · rename_i row _
      apply follows_ask
      · cases submitted : row.sweepSubmittedAt with
        | some at_ => exact .inl ⟨unclaimed, .inl rfl⟩
        | none => exact ⟨unclaimed, rfl, rfl⟩
      · intro answer
        trivial

theorem parkSubmittedFailed_keeps {retryable : SweepRow Facts → Bool}
    {loadFailed updateFailed : String} (unclaimed : Without SweepCall.claims past) :
    Keeps past (parkSubmittedFailed retryable loadFailed updateFailed id) := by
  apply follows_ask
  · trivial
  · intro loaded
    have unclaimed := without_append unclaimed (.load id .failed) rfl (.ok loaded)
    split
    · trivial
    · apply follows_ask
      · exact .inl ⟨unclaimed, .inr rfl⟩
      · intro answer
        trivial

end Single

variable {row : YearlySubscription}

variable {bankrWalletId : String}

namespace Yearly

variable {past : Past YearlySubscription} {id userId : Nat} {ctx : YearlyContext}

theorem release_keeps {outcome : SweepOutcome} {message : String}
    (claims : Claims past id now) (unsent : Without SweepCall.marks past ∨ Refuses past id) :
    Keeps past (release id userId now outcome message) :=
  keeps_finish ⟨own_guard claims, unsent⟩

theorem park_keeps {reason : String} (claims : Claims past id now) :
    Keeps past (park id userId now reason) :=
  keeps_finish (.inr (own_guard claims))

theorem recordTransfer_keeps {token : Address} {answer : Except String BankrAnswer}
    (claims : Claims past id now)
    (answered : ⟨.submitBankrTransfer id token recipient amount, answer⟩ ∈ past) :
    Keeps past (recordTransfer id userId now amount answer) := by
  cases answer with
  | error message => exact park_keeps claims
  | ok answer =>
    cases answer with
    | accepted txHash =>
      exact keeps_finish ⟨own_guard claims, token, recipient, amount, txHash, answered⟩
    | httpError status message =>
      simp only [recordTransfer]
      split
      · rename_i rejection
        apply release_keeps claims
        exact .inr ⟨token, recipient, amount, status, message, rejection, answered⟩
      · exact park_keeps claims

theorem requestTransfer_keeps {token : PlatformToken}
    {treasury : Address} (holding : Holding past id ctx.now) :
    Keeps past (requestTransfer id userId row ctx token treasury) := by
  apply follows_ask
  · exact ⟨own_guard holding.claims, holding.unmarked⟩
  · intro stillClaimed
    cases stillClaimed with
    | false => trivial
    | true =>
      refine ⟨keeps_request holding rfl, ?_⟩
      intro answer
      apply recordTransfer_keeps
      · exact claims_later (claims_later holding.claims _) _
      · exact List.mem_append_right _ (List.mem_singleton.mpr rfl)

theorem sweepFunded_keeps {token : PlatformToken}
    {treasury wallet : Address} (holding : Holding past id ctx.now) :
    Keeps past (sweepFunded id userId row ctx token treasury wallet bankrWalletId) := by
  refine ⟨trivial, ?_⟩
  intro gas
  have holding := holding_append holding (.ensureWalletHasGas wallet) rfl rfl gas
  cases gas with
  | error message => exact release_keeps holding.claims (.inl holding.unmarked)
  | ok gas =>
    cases gas with
    | treasuryDrained reason => exact release_keeps holding.claims (.inl holding.unmarked)
    | ready =>
      apply follows_ask
      · trivial
      · intro apiKey
        have holding := holding_append holding
          (.mintScopedTransferApiKey bankrWalletId treasury) rfl rfl (.ok apiKey)
        cases apiKey with
        | false => exact release_keeps holding.claims (.inl holding.unmarked)
        | true => exact requestTransfer_keeps holding

theorem sweepClaimed_keeps (holding : Holding past id ctx.now) :
    Keeps past (sweepClaimed id userId row ctx) := by
  unfold sweepClaimed
  split
  · exact release_keeps holding.claims (.inl holding.unmarked)
  split
  case h_2 => exact park_keeps holding.claims
  split
  · exact park_keeps holding.claims
  dsimp only
  split
  · exact park_keeps holding.claims
  rename_i token _
  apply follows_ask
  · trivial
  · intro credential
    have holding := holding_append holding (.credentialForAddress _) rfl rfl
      (.ok credential)
    split
    case h_2 => exact park_keeps holding.claims
    split
    · exact park_keeps holding.claims
    refine ⟨trivial, ?_⟩
    intro balance
    have holding := holding_append holding (.tokenBalance _ token.address) rfl rfl balance
    cases balance with
    | error message => exact release_keeps holding.claims (.inl holding.unmarked)
    | ok balance =>
      dsimp only
      split
      · exact park_keeps holding.claims
      · exact sweepFunded_keeps holding

end Yearly

theorem holding_claimed {Facts : Type} (id : Nat) (now : Int) (row : SweepRow Facts) :
    Holding [⟨.claim id now, .ok (some row)⟩] id now := by
  constructor
  · exact ⟨row, List.mem_singleton.mpr rfl⟩
  · exact without_append (without_nil _) (.claim id now) rfl (.ok (some row))
  · exact without_append (without_nil _) (.claim id now) rfl (.ok (some row))

theorem keeps_returns {Facts Outcome Result : Type} {past : Past Facts}
    {script : Sweeping Facts Outcome} (result : Outcome → Result) (keeps : Keeps past script) :
    Keeps past (script.bind fun outcome => .ret (result outcome)) :=
  Script.follows_bind (Script.follows_weaken keeps fun _ _ _ => trivial)

theorem yearly_follows (job : SweepJob YearlyContext) : Keeps [] (yearlyScript job) := by
  cases job with
  | recover id now => exact keeps_returns _ (recoverStaleClaim_keeps (without_nil _))
  | parkFailed id now => exact keeps_returns _ (parkSubmittedFailed_keeps (without_nil _))
  | sweep id userId ctx =>
    apply keeps_returns
    apply follows_ask
    · exact without_nil _
    · intro claimed
      cases claimed with
      | none => trivial
      | some row => exact Yearly.sweepClaimed_keeps (holding_claimed id ctx.now row)

namespace ManagedVenice

variable {past : Past ManagedVeniceQuote} {id userId : Nat} {quote : ManagedVeniceQuote}
variable {now : Int} {token : PlatformToken} {treasury wallet : Address} {expectedRaw : Int}

theorem release_keeps {destination : Option Address} {outcome : SweepOutcome} {message : String}
    (claims : Claims past id now) (unsent : Without SweepCall.marks past ∨ Refuses past id) :
    Keeps past (release id userId now destination outcome message) :=
  keeps_finish ⟨own_guard claims, unsent⟩

theorem park_keeps {reason : String} (claims : Claims past id now) :
    Keeps past (park id userId now treasury reason) :=
  keeps_finish (.inr (own_guard claims))

theorem recordTransfer_keeps {tokenAddress : Address} {answer : Except String BankrAnswer}
    (claims : Claims past id now)
    (answered : ⟨.submitBankrTransfer id tokenAddress recipient amount, answer⟩ ∈ past) : Keeps past
      (recordTransfer id userId quote now token expectedRaw amount treasury answer) := by
  cases answer with
  | error message => exact park_keeps claims
  | ok answer =>
    cases answer with
    | accepted txHash =>
      apply Script.follows_bind
      apply follows_ask
      · exact ⟨own_guard claims, tokenAddress, recipient, amount, txHash, answered⟩
      · intro recorded
        refine ⟨trivial, ?_⟩
        intro reply
        trivial
    | httpError status message =>
      simp only [recordTransfer]
      split
      · rename_i rejection
        apply release_keeps claims
        exact .inr ⟨tokenAddress, recipient, amount, status, message, rejection, answered⟩
      · exact park_keeps claims

section

variable (holding : Holding past id now)
include holding

theorem requestTransfer_keeps :
    Keeps past (requestTransfer id userId quote now token expectedRaw treasury) := by
  apply follows_ask
  · exact ⟨⟨rfl, now, rfl, holding.claims⟩, holding.unmarked⟩
  · intro stillClaimed
    cases stillClaimed with
    | false => trivial
    | true =>
      refine ⟨keeps_request holding rfl, ?_⟩
      intro answer
      apply recordTransfer_keeps
      · exact claims_later (claims_later holding.claims _) _
      · exact List.mem_append_right _ (List.mem_singleton.mpr rfl)

theorem sweepFunded_keeps : Keeps past
      (sweepFunded id userId quote now token expectedRaw treasury wallet bankrWalletId) := by
  refine ⟨trivial, ?_⟩
  intro gas
  have holding := holding_append holding (.ensureWalletHasGas wallet) rfl rfl gas
  cases gas with
  | error message => exact release_keeps holding.claims (.inl holding.unmarked)
  | ok gas =>
    cases gas with
    | treasuryDrained reason => exact release_keeps holding.claims (.inl holding.unmarked)
    | ready =>
      apply follows_ask
      · trivial
      · intro apiKey
        have holding := holding_append holding
          (.mintScopedTransferApiKey bankrWalletId treasury) rfl rfl (.ok apiKey)
        cases apiKey with
        | false => exact release_keeps holding.claims (.inl holding.unmarked)
        | true => exact requestTransfer_keeps holding

theorem sweepWallet_keeps :
    Keeps past (sweepWallet id userId quote now token treasury wallet bankrWalletId) := by
  refine ⟨trivial, ?_⟩
  intro lot
  have holding := holding_append holding (.depositLot id) rfl rfl lot
  cases lot with
  | error message => exact release_keeps holding.claims (.inl holding.unmarked)
  | ok lot =>
    refine ⟨trivial, ?_⟩
    intro balance
    have holding := holding_append holding (.tokenBalance wallet token.address) rfl rfl balance
    cases balance with
    | error message => exact release_keeps holding.claims (.inl holding.unmarked)
    | ok balance =>
      dsimp only
      split
      · exact keeps_finish ⟨own_guard holding.claims, holding.unmarked⟩
      · exact sweepFunded_keeps holding

theorem depositCredential_follows {done : Past ManagedVeniceQuote → Option DepositCredential → Prop}
    (found : ∀ later credential, Holding later id now → done later credential) :
    (depositCredential userId quote).Follows sweepRule done past := by
  have ofUser (past : Past ManagedVeniceQuote) (holding : Holding past id now)
      (next : Option DepositCredential → ManagedVeniceSweeping (Option DepositCredential))
      (isFound : ∀ credential, next (some credential) = .ret (some credential))
      (isMissing : next none = ask (.credentialForUser userId .managedVeniceInference) "") :
      Script.Follows sweepRule done past
        ((ask (.credentialForUser userId .creditDeposit) "").bind next) := by
    apply follows_ask
    · trivial
    · intro credential
      have holding := holding_append holding (.credentialForUser userId .creditDeposit) rfl rfl
        (.ok credential)
      cases credential with
      | some credential =>
        rw [isFound]
        exact found _ _ holding
      | none =>
        rw [isMissing]
        refine ⟨trivial, ?_⟩
        intro reply
        have holding := holding_append holding
          (.credentialForUser userId .managedVeniceInference) rfl rfl reply
        cases reply with
        | error message => trivial
        | ok credential => exact found _ _ holding
  unfold depositCredential
  cases quote.depositAddress with
  | none => exact ofUser past holding _ (fun _ => rfl) rfl
  | some address =>
    apply follows_ask
    · trivial
    · intro credential
      have holding := holding_append holding (.credentialForAddress address) rfl rfl
        (.ok credential)
      cases credential with
      | some credential => exact found _ _ holding
      | none => exact ofUser _ holding _ (fun _ => rfl) rfl

end

theorem sweepClaimed_keeps {ctx : ManagedVeniceContext} (holding : Holding past id ctx.now) :
    Keeps past (sweepClaimed id userId quote ctx) := by
  unfold sweepClaimed
  dsimp only
  split
  · trivial
  split
  · exact release_keeps holding.claims (.inl holding.unmarked)
  · exact release_keeps holding.claims (.inl holding.unmarked)
  apply Script.follows_bind
  apply depositCredential_follows holding
  intro later credential holding
  iterate 3
    split
    · exact release_keeps holding.claims (.inl holding.unmarked)
  · exact sweepWallet_keeps holding

end ManagedVenice

theorem managed_venice_follows (job : SweepJob ManagedVeniceContext) :
    Keeps [] (managedVeniceScript job) := by
  cases job with
  | recover id now => exact keeps_returns _ (recoverStaleClaim_keeps (without_nil _))
  | parkFailed id now => exact keeps_returns _ (parkSubmittedFailed_keeps (without_nil _))
  | sweep id userId ctx =>
    apply keeps_returns
    apply follows_ask
    · exact without_nil _
    · intro claimed
      cases claimed with
      | none => trivial
      | some row => exact ManagedVenice.sweepClaimed_keeps (holding_claimed id ctx.now row)

end Hivra.TreasurySweep
