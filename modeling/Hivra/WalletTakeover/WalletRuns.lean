import Hivra.Library.PartialIndexes
import Hivra.Library.Typestates

/-!
# Verifying a wallet

A run of `verifyWalletChallenge` takes the address of a signed challenge over from the other
accounts that claim it: it loads their claims, demotes them one by one, clears the primary
wallet of its own account, stores its row and marks the challenge.  Then it revokes the token
standing of the accounts it displaced.  Every database statement is one request; all wallets
are EVM wallets, and a row of `user_wallets` is named by its unique key, which never changes.
-/

namespace Hivra.WalletTakeover

open Hivra.Library

/-! ## Rows -/

inductive VerificationMethod
  | signature
  | bankr
  | admin
  deriving DecidableEq

/-- A row of `user_wallets`; `purpose` is `metadata.bankr.purpose`. -/
structure UserWalletRow where
  userId : String
  normalizedAddress : String
  isPrimary : Bool
  verifiedAt : Option Int
  verificationMethod : Option VerificationMethod
  purpose : Option String
  deriving DecidableEq

inductive WalletKey
  | row (userId normalizedAddress : String)
  /-- `user_wallets_one_primary_idx` -/
  | primaryOf (userId : String)
  /-- `user_wallets_primary_address_uniq` -/
  | primaryAddress (normalizedAddress : String)
  deriving DecidableEq

def UserWalletRow.entries (row : UserWalletRow) : List WalletKey :=
  .row row.userId row.normalizedAddress ::
    if row.isPrimary then [.primaryOf row.userId, .primaryAddress row.normalizedAddress] else []

abbrev WalletTable : Type := Table UserWalletRow.entries

/-- `row.is_primary || row.verified_at` -/
def UserWalletRow.claimed (row : UserWalletRow) : Bool :=
  row.isPrimary || row.verifiedAt.isSome

def UserWalletRow.isFor (row : UserWalletRow) (userId normalizedAddress : String) : Bool :=
  row.userId == userId && row.normalizedAddress == normalizedAddress

/-- The update of `demoteDisplacedWalletClaims`; the note it adds to the metadata is read by
nobody. -/
def UserWalletRow.demoted (row : UserWalletRow) : UserWalletRow :=
  { row with isPrimary := false, verifiedAt := none }

def UserWalletRow.cleared (row : UserWalletRow) : UserWalletRow :=
  { row with isPrimary := false }

def UserWalletRow.stored (row : UserWalletRow) (now : Int) : UserWalletRow :=
  { row with
    isPrimary := true
    verifiedAt := some now
    verificationMethod := some .signature
    purpose := none }

def UserWalletRow.fresh (userId normalizedAddress : String) : UserWalletRow :=
  { userId
    normalizedAddress
    isPrimary := false
    verifiedAt := none
    verificationMethod := none
    purpose := none }

theorem demoted_entries (row : UserWalletRow) : row.demoted.entries ⊆ row.entries := by
  intro entry there
  simp [UserWalletRow.demoted, UserWalletRow.entries] at there ⊢
  exact .inl there

theorem cleared_entries (row : UserWalletRow) : row.cleared.entries ⊆ row.entries := by
  intro entry there
  simp [UserWalletRow.cleared, UserWalletRow.entries] at there ⊢
  exact .inl there

def isEligiblePrimaryTokenWallet (row : UserWalletRow) : Bool :=
  if row.verifiedAt.isNone then false
  else
    match row.verificationMethod with
    | some .signature => true
    | some .admin => true
    | some .bankr =>
      match row.purpose with
      | none => true
      | some purpose => purpose == "" || purpose == "hermesos_lock"
    | none =>
      match row.purpose with
      | none => true
      | some purpose => purpose == ""

inductive ChallengeStatus
  | pending
  | verified
  | expired
  | failed
  deriving DecidableEq

/-- A row of `wallet_verification_challenges`. -/
structure WalletChallengeRow where
  id : String
  userId : String
  normalizedAddress : String
  status : ChallengeStatus
  expiresAt : Int

inductive PlatformToken
  | hermesos
  | hivra
  deriving DecidableEq

/-- `activatesAt` of `HIVRA_TOKEN_LAUNCH`, in milliseconds. -/
def hivraActivatesAt : Int := 1793361600000

def livePlatformTokens (now : Int) : List PlatformToken :=
  if hivraActivatesAt ≤ now then [.hermesos, .hivra] else [.hermesos]

/-- A row of `token_holding_snapshots`. -/
structure HoldingSnapshot where
  userId : String
  normalizedWalletAddress : String
  token : PlatformToken
  balanceRaw : Nat
  checkedAt : Int

/-! ## Requests -/

inductive WalletCall
  | loadChallenge (challengeId userId : String)
  | verifySignature (normalizedAddress : String)
  | markChallenge (challengeId : String) (status : ChallengeStatus)
  /-- The rows of the address on other accounts. -/
  | loadClaims (userId normalizedAddress : String)
  | demote (userId normalizedAddress : String)
  | clearPrimary (userId : String)
  | upsert (attempt : Nat) (userId normalizedAddress : String) (now : Int)
  | loadLockWallet (userId : String)
  | loadLockSnapshot (userId normalizedAddress : String)
  | loadPrimaryWallet (userId : String)
  | insertSnapshot (snapshot : HoldingSnapshot)
  | breachTiers (userId : String)
  | suspendBoost (userId : String)
  | reportOpsEvent (userId : String)
  /-- The run answers `verified`; a step of its own, so that the answers have an order. -/
  | answer (userId normalizedAddress : String)

inductive Upserted
  | stored
  /-- 23505 -/
  | refused
  | failed

/-- An outer `none` and a `false` are errors. -/
def WalletCall.Reply : WalletCall → Type
  | .loadChallenge _ _ => Option (Option WalletChallengeRow)
  | .verifySignature _ => Bool
  | .markChallenge _ _ => Bool
  | .loadClaims _ _ => Option (List UserWalletRow)
  | .demote _ _ => Bool
  | .clearPrimary _ => Bool
  | .upsert _ _ _ _ => Upserted
  | .loadLockWallet _ => Option (Option UserWalletRow)
  | .loadLockSnapshot _ _ => Option (Option HoldingSnapshot)
  | .loadPrimaryWallet _ => Option (Option UserWalletRow)
  | .insertSnapshot _ => Bool
  | .breachTiers _ => Bool
  | .suspendBoost _ => Bool
  | .reportOpsEvent _ => Bool
  | .answer _ _ => Unit

abbrev WalletScript (Outcome : Type) : Type := Script WalletCall WalletCall.Reply String Outcome

def statement (call : WalletCall) (reads : call.Reply → Bool) (failure : String) :
    WalletScript Unit :=
  .call call fun reply => if reads reply then .ret () else .raise failure

/-! ## Revoking -/

/-- `getTokenVerificationWallet`: whether it finds one. -/
def getTokenVerificationWallet (userId : String) : WalletScript Bool := do
  let lock : Option (Option UserWalletRow) ← Script.request (WalletCall.loadLockWallet userId)
  match lock with
  | none => throw "Failed to load Hivra lock wallet"
  | some none => loadPrimary
  | some (some wallet) => do
    let read : Option (Option HoldingSnapshot) ←
      Script.request (WalletCall.loadLockSnapshot userId wallet.normalizedAddress)
    match read with
    | none => throw "Failed to load Hivra token holding snapshot for wallet"
    | some snapshot =>
      if (snapshot.any fun held => 0 < held.balanceRaw) = true then pure true else loadPrimary
where
  loadPrimary : WalletScript Bool := do
    let read : Option (Option UserWalletRow) ←
      Script.request (WalletCall.loadPrimaryWallet userId)
    match read with
    | none => throw "Failed to load token verification wallet"
    | some row => pure (row.any isEligiblePrimaryTokenWallet)

def recordZeroSnapshots (userId normalizedAddress : String) (now : Int) :
    List PlatformToken → WalletScript Unit
  | [] => pure ()
  | token :: rest => do
    statement
      (.insertSnapshot
        { userId, normalizedWalletAddress := normalizedAddress, token, balanceRaw := 0,
          checkedAt := now })
      id "Failed to record zero-balance snapshot for displaced account"
    recordZeroSnapshots userId normalizedAddress now rest

def revokeDisplacedTokenEntitlements (userId normalizedAddress : String) (now : Int) :
    WalletScript Unit := do
  let remaining ← getTokenVerificationWallet userId
  if remaining = true then pure ()
  else do
    recordZeroSnapshots userId normalizedAddress now (livePlatformTokens now)
    statement (.breachTiers userId) id "Failed to suspend displaced token tier qualification"
    statement (.suspendBoost userId) id "Failed to suspend displaced Venice boost qualification"

/-- `reportOpsEvent` swallows its own errors. -/
def reportRevocation (userId : String) : WalletScript Unit := do
  let _ : Bool ← Script.request (WalletCall.reportOpsEvent userId)
  pure ()

def revokeOrReport (userId normalizedAddress : String) (now : Int) : WalletScript Unit :=
  (revokeDisplacedTokenEntitlements userId normalizedAddress now).handle fun _ =>
    reportRevocation userId

def revokeAll (normalizedAddress : String) (now : Int) : List String → WalletScript Unit
  | [] => pure ()
  | userId :: rest => do
    revokeOrReport userId normalizedAddress now
    revokeAll normalizedAddress now rest

/-! ## Verifying -/

inductive Verification
  | notFound
  | alreadyUsed
  | expired
  | invalidSignature
  | verified

structure VerifyCall where
  userId : String
  challengeId : String
  now : Int

structure Takeover where
  userId : String
  challengeId : String
  normalizedAddress : String
  now : Int

def loadOtherAccountWalletClaims (run : Takeover) : WalletScript (List String) := do
  let read : Option (List UserWalletRow) ←
    Script.request (WalletCall.loadClaims run.userId run.normalizedAddress)
  match read with
  | none => throw "Failed to scan wallet claims across accounts"
  | some rows => pure ((rows.filter UserWalletRow.claimed).map UserWalletRow.userId)

def demoteDisplacedWalletClaims (run : Takeover) : List String → WalletScript Unit
  | [] => pure ()
  | claim :: rest => do
    statement (.demote claim run.normalizedAddress) id
      "Failed to release wallet from its previous account"
    demoteDisplacedWalletClaims run rest

def concludeTakeover (run : Takeover) (displaced : List String) : WalletScript Verification := do
  statement (.markChallenge run.challengeId .verified) id
    "Failed to update wallet verification challenge"
  revokeAll run.normalizedAddress run.now displaced.eraseDups
  let _ : Unit ← Script.request (WalletCall.answer run.userId run.normalizedAddress)
  pure .verified

def storeAgain (run : Takeover) (displaced : List String) : WalletScript Verification := do
  let written : Upserted ←
    Script.request (WalletCall.upsert 1 run.userId run.normalizedAddress run.now)
  match written with
  | .stored => concludeTakeover run displaced
  | .refused => throw "Failed to store verified wallet"
  | .failed => throw "Failed to store verified wallet"

def retryTakeover (run : Takeover) (displaced : List String) : WalletScript Verification := do
  let late ← loadOtherAccountWalletClaims run
  demoteDisplacedWalletClaims run late
  storeAgain run (displaced ++ late)

def storeWallet (run : Takeover) (displaced : List String) : WalletScript Verification := do
  let written : Upserted ←
    Script.request (WalletCall.upsert 0 run.userId run.normalizedAddress run.now)
  match written with
  | .stored => concludeTakeover run displaced
  | .refused => retryTakeover run displaced
  | .failed => throw "Failed to store verified wallet"

def clearAndStore (run : Takeover) (displaced : List String) : WalletScript Verification := do
  statement (.clearPrimary run.userId) id "Failed to clear primary wallet"
  storeWallet run displaced

def takeOver (run : Takeover) : WalletScript Verification := do
  let displaced ← loadOtherAccountWalletClaims run
  demoteDisplacedWalletClaims run displaced
  clearAndStore run displaced

def closeChallenge (challengeId : String) (status : ChallengeStatus) (outcome : Verification) :
    WalletScript Verification := do
  statement (.markChallenge challengeId status) id
    "Failed to update wallet verification challenge"
  pure outcome

def judgeChallenge (job : VerifyCall) (challenge : WalletChallengeRow) :
    WalletScript Verification :=
  if challenge.status ≠ .pending then pure .alreadyUsed
  else if challenge.expiresAt ≤ job.now then closeChallenge challenge.id .expired .expired
  else do
    let verified : Bool ← Script.request (WalletCall.verifySignature challenge.normalizedAddress)
    if verified = true then
      takeOver
        { userId := job.userId
          challengeId := challenge.id
          normalizedAddress := challenge.normalizedAddress
          now := job.now }
    else closeChallenge challenge.id .failed .invalidSignature

def verifyWalletChallenge (job : VerifyCall) : WalletScript Verification := do
  let loaded : Option (Option WalletChallengeRow) ←
    Script.request (WalletCall.loadChallenge job.challengeId job.userId)
  match loaded with
  | none => throw "Failed to load wallet verification challenge"
  | some none => pure .notFound
  | some (some challenge) => judgeChallenge job challenge

/-! ## The store -/

/-- A run answered `verified`. -/
structure Answered where
  userId : String
  normalizedAddress : String
  deriving DecidableEq

structure WalletStore where
  wallets : WalletTable
  challenges : List WalletChallengeRow
  snapshots : List HoldingSnapshot
  /-- The accounts with a `currently_eligible` row in `token_tier_qualifications`. -/
  tierEligible : List String
  /-- The accounts with a `currently_eligible` row in `venice_compute_boost_qualifications`. -/
  boostEligible : List String
  /-- The accounts whose failed revocation is in the ops feed. -/
  reported : List String
  /-- The answers so far, the last one first; no function reads them. -/
  answers : List Answered

def isLockWallet (userId : String) (row : UserWalletRow) : Bool :=
  row.userId == userId && row.verificationMethod == some .bankr &&
    row.purpose == some "hermesos_lock" && row.verifiedAt.isSome

def isPrimaryWallet (userId : String) (row : UserWalletRow) : Bool :=
  row.userId == userId && row.isPrimary && row.verifiedAt.isSome

/-- `order(..., descending).limit(1)`: a row with the greatest value. -/
def latestBy {Row : Type} (value : Row → Int) (rows : List Row) : Option Row :=
  rows.find? fun row => rows.all fun other => decide (value other ≤ value row)

def WalletStore.lockWallet? (store : WalletStore) (userId : String) : Option UserWalletRow :=
  latestBy (fun row => row.verifiedAt.getD 0) (store.wallets.selectWhere (isLockWallet userId))

def WalletStore.primaryWallet? (store : WalletStore) (userId : String) : Option UserWalletRow :=
  latestBy (fun row => row.verifiedAt.getD 0) (store.wallets.selectWhere (isPrimaryWallet userId))

def WalletStore.lockSnapshot? (store : WalletStore) (userId normalizedAddress : String) :
    Option HoldingSnapshot :=
  latestBy HoldingSnapshot.checkedAt
    (store.snapshots.filter fun snapshot =>
      snapshot.userId == userId && snapshot.token == .hermesos &&
        snapshot.normalizedWalletAddress == normalizedAddress)

structure WalletTurn where
  fails : Bool
  valid : Bool

def demoteRow (wallets : WalletTable) (userId normalizedAddress : String) : WalletTable :=
  wallets.shrink (fun row => row.isFor userId normalizedAddress) UserWalletRow.demoted
    demoted_entries

def clearPrimaryRows (wallets : WalletTable) (userId : String) : WalletTable :=
  wallets.shrink (fun row => row.userId == userId) UserWalletRow.cleared cleared_entries

/-- The upsert on `user_id,chain_type,normalized_address`; `none` is a unique violation. -/
def upsertRow (wallets : WalletTable) (userId normalizedAddress : String) (now : Int) :
    Option WalletTable :=
  if (wallets.rows.any fun row => row.isFor userId normalizedAddress) = true then
    wallets.update (fun row => row.isFor userId normalizedAddress) fun row => row.stored now
  else wallets.insert ((UserWalletRow.fresh userId normalizedAddress).stored now)

def performWallet (call : WalletCall) (turn : WalletTurn) (store : WalletStore) :
    WalletStore × call.Reply :=
  match call with
  | .loadChallenge challengeId userId =>
    (store,
      if turn.fails then none
      else some (store.challenges.find? fun row => row.id == challengeId && row.userId == userId))
  | .verifySignature _ => (store, turn.valid)
  | .markChallenge challengeId status =>
    -- the challenge was loaded, and no challenge is ever deleted
    if turn.fails then (store, false)
    else
      ({ store with
         challenges := store.challenges.map fun row =>
           if row.id = challengeId then { row with status } else row }, true)
  | .loadClaims userId normalizedAddress =>
    (store,
      if turn.fails then none
      else some (store.wallets.selectWhere fun row =>
        row.normalizedAddress == normalizedAddress && row.userId != userId))
  | .demote userId normalizedAddress =>
    if turn.fails then (store, false)
    else ({ store with wallets := demoteRow store.wallets userId normalizedAddress }, true)
  | .clearPrimary userId =>
    if turn.fails then (store, false)
    else ({ store with wallets := clearPrimaryRows store.wallets userId }, true)
  | .upsert _ userId normalizedAddress now =>
    if turn.fails then (store, .failed)
    else
      match upsertRow store.wallets userId normalizedAddress now with
      | none => (store, .refused)
      | some wallets => ({ store with wallets }, .stored)
  | .loadLockWallet userId =>
    (store, if turn.fails then none else some (store.lockWallet? userId))
  | .loadLockSnapshot userId normalizedAddress =>
    (store, if turn.fails then none else some (store.lockSnapshot? userId normalizedAddress))
  | .loadPrimaryWallet userId =>
    (store, if turn.fails then none else some (store.primaryWallet? userId))
  | .insertSnapshot snapshot =>
    if turn.fails then (store, false)
    else ({ store with snapshots := store.snapshots ++ [snapshot] }, true)
  | .breachTiers userId =>
    if turn.fails then (store, false)
    else ({ store with tierEligible := store.tierEligible.filter (· ≠ userId) }, true)
  | .suspendBoost userId =>
    if turn.fails then (store, false)
    else ({ store with boostEligible := store.boostEligible.filter (· ≠ userId) }, true)
  | .reportOpsEvent userId =>
    if turn.fails then (store, false)
    else ({ store with reported := userId :: store.reported }, true)
  | .answer userId normalizedAddress =>
    ({ store with answers := { userId, normalizedAddress } :: store.answers }, ())

theorem failed_performs (call : WalletCall) {turn : WalletTurn} (fails : turn.fails = true)
    (store : WalletStore) : (performWallet call turn store).1 = store ∨
      ∃ userId normalizedAddress, call = .answer userId normalizedAddress := by
  cases call with
  | answer userId normalizedAddress => exact .inr ⟨userId, normalizedAddress, rfl⟩
  | _ => simp [performWallet, fails]

/-! ## How far a run has come -/

inductive TakeoverStage
  /-- It has loaded the claims and not stored its row. -/
  | looked
  | stored
  | answered
  deriving DecidableEq

structure Progress where
  userId : String
  normalizedAddress : String
  stage : TakeoverStage
  /-- The accounts whose rows it has loaded and still has to demote. -/
  pending : List String
  /-- The accounts whose rows it has demoted. -/
  demoted : List String
  /-- The accounts whose tier rows it has breached. -/
  breached : List String
  /-- The accounts it has left alone, for a wallet they still have. -/
  spared : List String
  /-- The accounts whose revocation it is through with, those it left alone included. -/
  settled : List String
  /-- The accounts whose failed revocation it could not report. -/
  unreported : List String
  /-- It has thrown, or is about to. -/
  broken : Bool

def Progress.looking (userId normalizedAddress : String) : Progress :=
  { userId
    normalizedAddress
    stage := .looked
    pending := []
    demoted := []
    breached := []
    spared := []
    settled := []
    unreported := []
    broken := false }

def Progress.breaks (progress : Progress) : Progress := { progress with broken := true }

def Progress.demotes (progress : Progress) (userId : String) : Progress :=
  { progress with
    pending := progress.pending.filter (· ≠ userId)
    demoted := progress.demoted ++ [userId] }

def Progress.spares (progress : Progress) (userId : String) : Progress :=
  { progress with
    spared := progress.spared ++ [userId]
    settled := progress.settled ++ [userId] }

def Progress.settles (progress : Progress) (userId : String) : Progress :=
  { progress with settled := progress.settled ++ [userId] }

def moveProgress (call : WalletCall) (reply : call.Reply) (progress : Option Progress) :
    Option Progress :=
  match call, reply with
  | .loadClaims userId normalizedAddress, (read : Option (List UserWalletRow)) =>
    match read with
    | none => progress.map Progress.breaks
    | some rows =>
      some
        { progress.getD (Progress.looking userId normalizedAddress) with
          pending := (rows.filter UserWalletRow.claimed).map UserWalletRow.userId }
  | .demote userId _, (demoted : Bool) =>
    progress.map fun held => if demoted then held.demotes userId else held.breaks
  | .clearPrimary _, (cleared : Bool) =>
    progress.map fun held => if cleared then held else held.breaks
  | .upsert attempt _ _ _, (written : Upserted) =>
    progress.map fun held =>
      match written with
      | .stored => { held with stage := .stored }
      | .refused => if attempt = 0 then held else held.breaks
      | .failed => held.breaks
  | .markChallenge _ _, (marked : Bool) =>
    progress.map fun held => if marked then held else held.breaks
  | .loadLockSnapshot userId _, (read : Option (Option HoldingSnapshot)) =>
    if (read.any fun snapshot => snapshot.any fun held => 0 < held.balanceRaw) = true then
      progress.map fun held => held.spares userId
    else progress
  | .loadPrimaryWallet userId, (read : Option (Option UserWalletRow)) =>
    if (read.any fun row => row.any isEligiblePrimaryTokenWallet) = true then
      progress.map fun held => held.spares userId
    else progress
  | .breachTiers userId, (breached : Bool) =>
    progress.map fun held =>
      if breached then { held with breached := held.breached ++ [userId] } else held
  | .suspendBoost userId, (suspended : Bool) =>
    progress.map fun held => if suspended then held.settles userId else held
  | .reportOpsEvent userId, (reported : Bool) =>
    progress.map fun held =>
      if reported then held.settles userId
      else { held with unreported := held.unreported ++ [userId] }
  | .answer _ _, _ => progress.map fun held => { held with stage := .answered }
  | .loadChallenge _ _, _ => progress
  | .verifySignature _, _ => progress
  | .loadLockWallet _, _ => progress
  | .insertSnapshot _, _ => progress

structure Progress.Looks (progress : Progress) (userId normalizedAddress : String) : Prop where
  user : progress.userId = userId
  address : progress.normalizedAddress = normalizedAddress
  stage : progress.stage = .looked
  unsettled : progress.settled = []
  unbroken : progress.broken = false

def permitsWallet : WalletCall → Option Progress → Prop
  | .loadClaims userId normalizedAddress, progress =>
    ∀ held, progress = some held → held.Looks userId normalizedAddress
  | .demote _ normalizedAddress, progress =>
    ∃ held, progress = some held ∧ held.Looks held.userId normalizedAddress
  | .clearPrimary userId, progress =>
    ∃ held, progress = some held ∧ held.Looks userId held.normalizedAddress
  | .upsert _ userId normalizedAddress _, progress =>
    ∃ held, progress = some held ∧ held.Looks userId normalizedAddress ∧ held.pending = []
  | .suspendBoost userId, progress =>
    ∃ held, progress = some held ∧ userId ∈ held.breached
  | .answer userId normalizedAddress, progress =>
    ∃ held, progress = some held ∧ held.userId = userId ∧
      held.normalizedAddress = normalizedAddress ∧ held.stage = .stored ∧
      ∀ displaced ∈ held.demoted, displaced ∈ held.settled ∨ displaced ∈ held.unreported
  | _, _ => True

def takeoverTypestate : Typestate WalletCall WalletCall.Reply (Option Progress) :=
  { fresh := none
    permits := permitsWallet
    moves := moveProgress }

/-! ## The system -/

def walletTables :
    System VerifyCall WalletCall WalletCall.Reply String Verification WalletStore WalletTurn
      Empty :=
  { program := verifyWalletChallenge
    perform := fun _ => performWallet
    change := fun change => change.elim }

def walletSystem : System VerifyCall WalletCall WalletCall.Reply String Verification
      (Watched WalletStore (Option Progress)) WalletTurn Empty :=
  takeoverTypestate.watch walletTables

abbrev WalletWorld : Type :=
  World WalletCall WalletCall.Reply String Verification (Watched WalletStore (Option Progress))

abbrev WalletSchedule : Type := List (Event VerifyCall WalletTurn Empty)

end Hivra.WalletTakeover
