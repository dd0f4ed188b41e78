import Hivra.Library.Scripts

/-!
# A token tier's row

The row of one user and tier in `token_tier_qualifications`, and the statements that
read and write it.  An update names its columns and leaves the others as they are; only
the move to $HIVRA compares what it replaces, by the row's token.

Times are milliseconds, amounts are raw units.
-/

namespace Hivra.TokenTiers

open Hivra.Library

inductive PlatformToken
  | hermesos
  | hivra
  deriving DecidableEq

inductive ThresholdCode
  | proLaunch
  | proStandard
  | powerLaunch
  | powerStandard

structure Threshold where
  amount : Nat
  code : ThresholdCode

/-- An entry of `breach_holds`: `till` and `movingRaw` are none where the text is no
date and no digits. -/
structure BreachHold where
  holdId : String
  till : Option Int
  movingRaw : Option Nat
  reason : String

/-- `moved_from_hermesos`. -/
structure MovedFrom where
  at_ : Int
  qualifyingQuantity : Nat
  thresholdCode : ThresholdCode
  qualifiedAt : Int
  currentThreshold : Nat
  lockedThreshold : Option Nat

structure TierMetadata where
  consumedQuoteId : Option String
  breachHolds : List BreachHold
  movedFromHermesos : Option MovedFrom

structure TierRow where
  tokenKey : PlatformToken
  qualifyingQuantity : Nat
  thresholdAtQualification : Nat
  qualifyingThresholdTier : ThresholdCode
  qualifiedAt : Int
  currentlyEligible : Bool
  lastBalanceSeen : Option Nat
  lastEvaluatedAt : Option Int
  lastBreachAt : Option Int
  lastSuspendAt : Option Int
  cooldownEndsAt : Option Int
  requalificationCount : Nat
  requalificationWindowStart : Option Int
  metadata : TierMetadata
  updatedAt : Int

def hours (count : Int) : Int := count * 3600000

def days (count : Int) : Int := hours (count * 24)

def requalificationGraceHours : Int := 24
def requalificationCooldownDays : Int := 7
def requalificationCapPerYear : Nat := 2
def requalificationWindowDays : Int := 365

structure FirstQualification where
  tokenKey : PlatformToken
  threshold : Threshold
  balance : Nat
  now : Int
  consumedQuoteId : Option String

def FirstQualification.row (first : FirstQualification) (clock : Int) : TierRow :=
  { tokenKey := first.tokenKey
    qualifyingQuantity := first.threshold.amount
    thresholdAtQualification := first.threshold.amount
    qualifyingThresholdTier := first.threshold.code
    qualifiedAt := first.now
    currentlyEligible := true
    lastBalanceSeen := some first.balance
    lastEvaluatedAt := some first.now
    lastBreachAt := none
    lastSuspendAt := none
    cooldownEndsAt := none
    requalificationCount := 0
    requalificationWindowStart := none
    metadata :=
      { consumedQuoteId := first.consumedQuoteId, breachHolds := [], movedFromHermesos := none }
    updatedAt := clock }

inductive RowWrite
  | touch (balance : Nat) (now : Int)
  | requalify (threshold : Threshold) (balance : Nat) (now : Int) (count : Nat) (windowStart : Int)
  | recover (balance : Nat) (now : Int)
  | suspend (balance : Nat) (now cooldownEnd : Int)
  | breach (balance : Nat) (now : Int)

def RowWrite.apply (write : RowWrite) (row : TierRow) : TierRow :=
  match write with
  | .touch balance now =>
    { row with lastBalanceSeen := some balance, lastEvaluatedAt := some now }
  | .requalify threshold balance now count windowStart =>
    { row with
      qualifyingQuantity := threshold.amount
      thresholdAtQualification := threshold.amount
      qualifyingThresholdTier := threshold.code
      qualifiedAt := now
      currentlyEligible := true
      lastBalanceSeen := some balance
      lastEvaluatedAt := some now
      lastBreachAt := none
      lastSuspendAt := none
      cooldownEndsAt := none
      requalificationCount := count
      requalificationWindowStart := some windowStart }
  | .recover balance now =>
    { row with
      currentlyEligible := true
      lastBalanceSeen := some balance
      lastEvaluatedAt := some now
      lastBreachAt := none }
  | .suspend balance now cooldownEnd =>
    { row with
      lastSuspendAt := some now
      cooldownEndsAt := some cooldownEnd
      lastBalanceSeen := some balance
      lastEvaluatedAt := some now
      currentlyEligible := false }
  | .breach balance now =>
    { row with
      currentlyEligible := false
      lastBalanceSeen := some balance
      lastEvaluatedAt := some now
      lastBreachAt := some now }

/-- The check of `qualifying_quantity`. -/
def RowWrite.checks (write : RowWrite) : Bool :=
  match write with
  | .requalify threshold _ _ _ _ => 0 < threshold.amount
  | _ => true

/-- The columns of a move to $HIVRA; `suspended` is that of the row it was made of. -/
structure HivraMove where
  target : Threshold
  now : Int
  metadata : TierMetadata
  suspended : Bool

def HivraMove.apply (move : HivraMove) (row : TierRow) : TierRow :=
  { row with
    tokenKey := .hivra
    qualifyingQuantity := move.target.amount
    thresholdAtQualification := move.target.amount
    qualifyingThresholdTier := move.target.code
    qualifiedAt := move.now
    metadata := move.metadata
    currentlyEligible := if move.suspended then row.currentlyEligible else true
    lastBreachAt := if move.suspended then row.lastBreachAt else none }

inductive TierStatement
  | loadRow
  | insertRow (first : FirstQualification)
  | updateRow (write : RowWrite)
  | moveToHivra (move : HivraMove)
  | consumeQuote (quoteId : String) (balance : Nat)
  | writeMetadata (metadata : TierMetadata) (updatedAt : Int)

@[reducible]
def TierStatement.Answer : TierStatement → Type
  | .loadRow => Option TierRow
  | .insertRow _ => Unit
  | .updateRow _ => Unit
  | .moveToHivra _ => Bool
  | .consumeQuote .. => Unit
  | .writeMetadata .. => Bool

/-- What the database does of its own: it may fail with nothing done, and it has the
time of `updated_at`. -/
structure TierTurn where
  fails : Bool
  clock : Int

abbrev TierStore : Type := Option TierRow

/-- A statement that does not fail; `none` is a violated constraint. -/
def TierStatement.execute (clock : Int) (store : TierStore) :
    (statement : TierStatement) → Option (TierStore × statement.Answer)
  | .loadRow => some (store, store)
  | .insertRow first =>
    if store.isSome ∨ first.threshold.amount = 0 then none
    else some (some (first.row clock), ())
  | .updateRow write =>
    match store with
    | none => some (none, ())
    | some row =>
      if write.checks then some (some { write.apply row with updatedAt := clock }, ()) else none
  | .moveToHivra move =>
    match store with
    | none => some (none, false)
    | some row =>
      if row.tokenKey = .hermesos then
        if move.target.amount = 0 then none
        else some (some { move.apply row with updatedAt := clock }, true)
      else some (some row, false)
  | .consumeQuote _ _ => some (store, ())
  | .writeMetadata metadata updatedAt =>
    match store with
    | none => some (none, false)
    | some row =>
      if row.updatedAt = updatedAt then some (some { row with metadata, updatedAt := clock }, true)
      else some (some row, false)

abbrev TierStatement.Reply (statement : TierStatement) : Type := Option statement.Answer

def performTier (statement : TierStatement) (turn : TierTurn) (store : TierStore) :
    TierStore × statement.Reply :=
  if turn.fails then (store, none)
  else
    match statement.execute turn.clock store with
    | none => (store, none)
    | some (next, answer) => (next, some answer)

end Hivra.TokenTiers
