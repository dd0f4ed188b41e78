import Mathlib.Algebra.Group.Nat.Defs
import Hivra.TokenTiers.TierTables

/-!
# Evaluating a tier

One evaluation of a row with the balances, the prices and the access it was given, and
the writers of breach holds.
-/

namespace Hivra.TokenTiers

open Hivra.Library

/-! ## What an evaluation is given -/

structure DepositQuote where
  id : String
  token : PlatformToken
  threshold : Threshold

/-- `conversionThreshold` is the one locked for the evaluated tier. -/
structure TokenAccess where
  active : Bool
  grandfathered : Bool
  convertedAt : Option Int
  conversionGraceEndsAt : Option Int
  conversionThreshold : Option Threshold
  allowedTokens : List PlatformToken
  qualifyTokens : List PlatformToken

structure TierContext where
  access : TokenAccess
  balances : PlatformToken → Option Nat
  thresholdFor : PlatformToken → Option Threshold
  quote : Option DepositQuote
  now : Int
  newQualificationRefused : Bool

def TokenAccess.tierRowTokenCounts (access : TokenAccess) (token : PlatformToken) : Bool :=
  access.allowedTokens.contains token || (token == .hermesos && access.grandfathered)

def TokenAccess.conversionDue (access : TokenAccess) (now : Int) : Bool :=
  access.active && access.conversionGraceEndsAt.any fun graceEndsAt => graceEndsAt ≤ now

/-! ## What it returns -/

inductive Transition
  | qualified
  | breached
  | graceRecovered
  | suspended
  | reQualified
  | blockedCooldown
  | blockedCap
  | unchanged

inductive TierWarning
  | quoteIgnored (quoteId : String) (token : PlatformToken)
  | refusedByGeoPolicy
  | quoteNotConsumed (quoteId : String)
  | moveWithoutPrice
  | balanceNotRead (token : PlatformToken)
  | requalificationWithoutPrice (token : PlatformToken)
  | blockedByCooldown (cooldownEndsAt : Int)
  | blockedByCap
  | breachHeld (till : Int)

structure TierResult where
  tokenKey : Option PlatformToken
  threshold : Option Threshold
  balance : Nat
  qualifyingQuantity : Option Nat
  qualifyingThresholdTier : Option ThresholdCode
  currentlyEligible : Bool
  inGrace : Bool
  cooldownEndsAt : Option Int
  transition : Transition
  movedToHivra : Bool
  warnings : List TierWarning

abbrev Evaluation (Outcome : Type) : Type :=
  Script TierStatement TierStatement.Reply String Outcome

def statement (statement : TierStatement) (failure : String) : Evaluation statement.Answer :=
  .call statement fun
    | some answer => .ret answer
    | none => .raise failure

def updateRow (write : RowWrite) (failure : String) : Evaluation Unit :=
  statement (.updateRow write) failure

def loadRow : Evaluation (Option TierRow) :=
  statement .loadRow "Failed to read token_tier_qualifications"

/-- `consumeQuoteQuietly`: the warning of a quote that was not consumed. -/
def consumeQuoteQuietly (quote : DepositQuote) (balance : Nat) : Evaluation (List TierWarning) :=
  .call (.consumeQuote quote.id balance) fun
    | some _ => .ret []
    | none => .ret [.quoteNotConsumed quote.id]

def consumeQuoteIfAny (quote : Option DepositQuote) (balance : Nat) :
    Evaluation (List TierWarning) :=
  match quote with
  | none => .ret []
  | some quote => consumeQuoteQuietly quote balance

/-! ## Balances and holds -/

def tokenDustToleranceRaw : Nat := 10000000000

def oneTokenRaw : Nat := 10 ^ 18

def meetsRequiredBalance (balance required : Nat) : Bool :=
  let tolerance := if oneTokenRaw ≤ required then tokenDustToleranceRaw else 0
  required ≤ balance || required - balance ≤ tolerance

/-- The live holds at `now`: the latest end and what is moving. -/
def breachHoldOf (row : TierRow) (now : Int) : Option (Int × Nat) :=
  row.metadata.breachHolds.foldl
    (fun found hold =>
      match hold.till, hold.movingRaw with
      | some till, some movingRaw =>
        if till ≤ now then found
        else
          match found with
          | none => some (till, movingRaw)
          | some (latest, moving) => some (max latest till, moving + movingRaw)
      | _, _ => found)
    none

/-- `nextRequalificationWindow`: the count and the window to write, or none at the cap. -/
def nextRequalificationWindow (row : TierRow) (now : Int) : Option (Nat × Int) :=
  match row.requalificationWindowStart with
  | none => some (1, now)
  | some windowStart =>
    if windowStart + days requalificationWindowDays ≤ now then some (1, now)
    else if requalificationCapPerYear ≤ row.requalificationCount then none
    else some (row.requalificationCount + 1, windowStart)

/-! ## First qualification -/

structure Candidate where
  token : PlatformToken
  threshold : Threshold
  quote : Option DepositQuote

def candidates (ctx : TierContext) : List Candidate × List TierWarning :=
  let live :=
    ctx.access.qualifyTokens.filterMap fun token =>
      (ctx.thresholdFor token).map fun threshold => { token, threshold, quote := none }
  match ctx.quote with
  | none => (live, [])
  | some quote =>
    if ctx.access.qualifyTokens.contains quote.token then
      ([{ token := quote.token, threshold := quote.threshold, quote := some quote }], [])
    else (live, [.quoteIgnored quote.id quote.token])

def Candidate.met (ctx : TierContext) (candidate : Candidate) : Bool :=
  (ctx.balances candidate.token).any fun balance =>
    meetsRequiredBalance balance candidate.threshold.amount

def evaluateFirstQualification (ctx : TierContext) : Evaluation TierResult :=
  let (offered, warnings) := candidates ctx
  let nothing (warnings : List TierWarning) : TierResult :=
    { tokenKey := none
      threshold := offered.head?.map Candidate.threshold
      balance :=
        ((offered.head?.map Candidate.token).or ctx.access.qualifyTokens.head?).bind ctx.balances
          |>.getD 0
      qualifyingQuantity := none
      qualifyingThresholdTier := none
      currentlyEligible := false
      inGrace := false
      cooldownEndsAt := none
      transition := .unchanged
      movedToHivra := false
      warnings }
  match offered.find? (Candidate.met ctx) with
  | none => .ret (nothing warnings)
  | some candidate =>
    if ctx.newQualificationRefused then .ret (nothing (warnings ++ [.refusedByGeoPolicy]))
    else do
      let balance := (ctx.balances candidate.token).getD 0
      let _ ← statement
        (.insertRow
          { tokenKey := candidate.token
            threshold := candidate.threshold
            balance
            now := ctx.now
            consumedQuoteId := candidate.quote.map DepositQuote.id })
        "Failed to insert qualification row"
      let unconsumed ← consumeQuoteIfAny candidate.quote balance
      return {
        tokenKey := some candidate.token
        threshold := some candidate.threshold
        balance
        qualifyingQuantity := some candidate.threshold.amount
        qualifyingThresholdTier := some candidate.threshold.code
        currentlyEligible := true
        inGrace := false
        cooldownEndsAt := none
        transition := .qualified
        movedToHivra := false
        warnings := warnings ++ unconsumed }

/-! ## The move to $HIVRA -/

def moveTarget (access : TokenAccess) (current : Threshold) : Threshold :=
  match access.conversionThreshold with
  | some locked => if locked.amount < current.amount then locked else current
  | none => current

def hivraMoveOf (ctx : TierContext) (row : TierRow) (current : Threshold) : HivraMove :=
  { target := moveTarget ctx.access current
    now := ctx.now
    metadata :=
      { row.metadata with
        movedFromHermesos :=
          some
            { at_ := ctx.now
              qualifyingQuantity := row.qualifyingQuantity
              thresholdCode := row.qualifyingThresholdTier
              qualifiedAt := row.qualifiedAt
              currentThreshold := current.amount
              lockedThreshold := ctx.access.conversionThreshold.map Threshold.amount } }
    suspended := row.lastSuspendAt.isSome }

def moveRowToHivra (ctx : TierContext) (row : TierRow) (current : Threshold) :
    Evaluation TierRow := do
  let move := hivraMoveOf ctx row current
  let affected ← statement (.moveToHivra move) "Failed to move the tier to $HIVRA"
  if affected then return move.apply row
  else
    match ← loadRow with
    | some reloaded => return reloaded
    | none => .raise "Tier row vanished while moving to $HIVRA"

def moveDue (ctx : TierContext) (row : TierRow) : Bool :=
  row.tokenKey == .hermesos && ctx.access.active &&
    (ctx.access.conversionDue ctx.now || !ctx.access.tierRowTokenCounts .hermesos)

/-! ## A held row -/

def currentRequirement (ctx : TierContext) (token : PlatformToken) : Option Threshold :=
  match ctx.quote with
  | some quote => if quote.token = token then some quote.threshold else ctx.thresholdFor token
  | none => ctx.thresholdFor token

def meetsWithEither (ctx : TierContext) (row : TierRow) (balance : Nat) : Bool :=
  meetsRequiredBalance balance row.qualifyingQuantity ||
    (row.tokenKey == .hermesos && ctx.access.active && ctx.access.convertedAt.isSome &&
      ctx.access.conversionThreshold.any fun locked =>
        (ctx.balances .hivra).any fun hivra => meetsRequiredBalance hivra locked.amount)

def heldResult (ctx : TierContext) (row : TierRow) (balance : Nat) (moved : Bool)
    (warnings : List TierWarning) : TierResult :=
  { tokenKey := some row.tokenKey
    threshold := currentRequirement ctx row.tokenKey
    balance
    qualifyingQuantity := some row.qualifyingQuantity
    qualifyingThresholdTier := some row.qualifyingThresholdTier
    currentlyEligible := false
    inGrace := false
    cooldownEndsAt := none
    transition := .unchanged
    movedToHivra := moved
    warnings }

def evaluateSuspended (ctx : TierContext) (row : TierRow) (balance : Nat) (moved : Bool)
    (warnings : List TierWarning) : Evaluation TierResult :=
  let held := { heldResult ctx row balance moved warnings with cooldownEndsAt := row.cooldownEndsAt }
  let touch := RowWrite.touch balance ctx.now
  match currentRequirement ctx row.tokenKey with
  | none => do
    updateRow touch "Failed to update suspended row"
    return { held with warnings := warnings ++ [.requalificationWithoutPrice row.tokenKey] }
  | some requirement =>
    if meetsRequiredBalance balance requirement.amount = false then do
      updateRow touch "Failed to update suspended row"
      return held
    else if row.cooldownEndsAt.any (fun cooldownEndsAt => decide (ctx.now < cooldownEndsAt)) then do
      updateRow touch "Failed to update cooldown-blocked row"
      return { held with
        transition := .blockedCooldown
        warnings := warnings ++ row.cooldownEndsAt.toList.map .blockedByCooldown }
    else
      match nextRequalificationWindow row ctx.now with
      | none => do
        updateRow touch "Failed to update cap-blocked row"
        return { held with transition := .blockedCap, warnings := warnings ++ [.blockedByCap] }
      | some (count, windowStart) => do
        updateRow (.requalify requirement balance ctx.now count windowStart)
          "Failed to re-qualify"
        let unconsumed ←
          consumeQuoteIfAny (ctx.quote.filter fun quote => quote.token == row.tokenKey) balance
        return { held with
          qualifyingQuantity := some requirement.amount
          qualifyingThresholdTier := some requirement.code
          currentlyEligible := true
          cooldownEndsAt := none
          transition := .reQualified
          warnings := warnings ++ unconsumed }

def evaluateGrace (ctx : TierContext) (row : TierRow) (balance : Nat) (breachAt : Int)
    (moved : Bool) (warnings : List TierWarning) : Evaluation TierResult :=
  let held := heldResult ctx row balance moved warnings
  if meetsWithEither ctx row balance then do
    updateRow (.recover balance ctx.now) "Failed to record grace recovery"
    return { held with currentlyEligible := true, transition := .graceRecovered }
  else if breachAt + hours requalificationGraceHours ≤ ctx.now then do
    let cooldownEnd := ctx.now + days requalificationCooldownDays
    updateRow (.suspend balance ctx.now cooldownEnd) "Failed to suspend"
    return { held with cooldownEndsAt := some cooldownEnd, transition := .suspended }
  else do
    updateRow (.touch balance ctx.now) "Failed to update grace-pending row"
    return { held with inGrace := true }

def heldBreach? (ctx : TierContext) (row : TierRow) (balance : Nat) : Option Int :=
  match breachHoldOf row ctx.now with
  | some (till, moving) =>
    if row.tokenKey = .hermesos ∧
        meetsRequiredBalance (balance + moving) row.qualifyingQuantity = true then
      some till
    else none
  | none => none

def evaluateHeld (ctx : TierContext) (row : TierRow) (balance : Nat) (moved : Bool)
    (warnings : List TierWarning) : Evaluation TierResult :=
  let held := heldResult ctx row balance moved warnings
  if row.currentlyEligible && !meetsWithEither ctx row balance then
    match heldBreach? ctx row balance with
    | some till => do
      updateRow (.touch balance ctx.now) "Failed to update held row"
      return { held with
        currentlyEligible := true, warnings := warnings ++ [.breachHeld till] }
    | none => do
      updateRow (.breach balance ctx.now) "Failed to mark breach"
      return { held with inGrace := true, transition := .breached }
  else do
    let unconsumed ← consumeQuoteIfAny (if row.currentlyEligible then ctx.quote else none) balance
    updateRow (.touch balance ctx.now) "Failed to update last_balance"
    return { held with
      currentlyEligible := row.currentlyEligible, warnings := warnings ++ unconsumed }

def evaluateRow (ctx : TierContext) (row : TierRow) (moved : Bool) (warnings : List TierWarning) :
    Evaluation TierResult :=
  match ctx.balances row.tokenKey with
  | none =>
    .ret
      { tokenKey := some row.tokenKey
        threshold := none
        balance := 0
        qualifyingQuantity := some row.qualifyingQuantity
        qualifyingThresholdTier := some row.qualifyingThresholdTier
        currentlyEligible := row.currentlyEligible
        inGrace := row.lastBreachAt.isSome && row.lastSuspendAt.isNone
        cooldownEndsAt := row.cooldownEndsAt
        transition := .unchanged
        movedToHivra := moved
        warnings := warnings ++ [.balanceNotRead row.tokenKey] }
  | some balance =>
    match row.lastSuspendAt, row.lastBreachAt with
    | some _, _ => evaluateSuspended ctx row balance moved warnings
    | none, some breachAt => evaluateGrace ctx row balance breachAt moved warnings
    | none, none => evaluateHeld ctx row balance moved warnings

def evaluateTier (ctx : TierContext) : Evaluation TierResult := do
  match ← loadRow with
  | none => evaluateFirstQualification ctx
  | some row =>
    if moveDue ctx row then
      match ctx.thresholdFor .hivra with
      | some current => do
        let row ← moveRowToHivra ctx row current
        evaluateRow ctx row (row.tokenKey == .hivra) []
      | none => evaluateRow ctx row false [.moveWithoutPrice]
    else evaluateRow ctx row false []

/-! ## Breach holds -/

/-- One attempt of `patchTierMetadata` on the row; `lost` is what follows a lost race. -/
def rewriteMetadata (change : TierRow → Option TierMetadata) (failure : String)
    (lost : Evaluation Unit) : Evaluation Unit := do
  match ← loadRow with
  | none => return ()
  | some row =>
    match change row with
    | none => return ()
    | some metadata =>
      let affected ← statement (.writeMetadata metadata row.updatedAt) failure
      if affected then return () else lost

/-- `patchTierMetadata`, with `attempts` more attempts after a lost race. -/
def patchTierMetadata (change : TierRow → Option TierMetadata) (failure : String) :
    Nat → Evaluation Unit
  | 0 => rewriteMetadata change failure (.raise (failure ++ ": the row kept changing"))
  | attempts + 1 => rewriteMetadata change failure (patchTierMetadata change failure attempts)

/-- `holdTierBreachesUntil`: ended holds are dropped. -/
def holdTierBreachesUntil (hold : BreachHold) (now : Int) : Evaluation Unit :=
  patchTierMetadata
    (fun row =>
      let live :=
        row.metadata.breachHolds.filter fun held =>
          held.till.any (fun till => decide (now < till)) && held.holdId != hold.holdId
      some { row.metadata with breachHolds := live ++ [hold] })
    "Failed to hold tier breaches" 4

def clearTierBreachHold (holdId : String) : Evaluation Unit :=
  patchTierMetadata
    (fun row =>
      if row.metadata.breachHolds.any (fun held => held.holdId == holdId) then
        some
          { row.metadata with
            breachHolds := row.metadata.breachHolds.filter fun held => held.holdId != holdId }
      else none)
    "Failed to clear the tier breach hold" 4

end Hivra.TokenTiers
