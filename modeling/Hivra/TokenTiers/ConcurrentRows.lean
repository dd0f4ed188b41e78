import Hivra.TokenTiers.TierSpecs
import Hivra.Library.FollowedRows

/-!
# Evaluations at once

Any number of evaluations and hold writers on one row, each statement a step.  A row is
written from the read of the run that writes it, and only the move compares what it
replaces, by the token.  A grace recovery and a move made of an unsuspended row do not say
that the row is unsuspended still: written to a row another run has suspended meanwhile
they leave it suspended and eligible, and nothing else takes a row out of its shapes.
-/

namespace Hivra.TokenTiers

open Hivra.Library

inductive TierJob
  | evaluate (ctx : TierContext)
  | holdBreaches (hold : BreachHold) (now : Int)
  | clearHold (holdId : String)

def TierJob.script : TierJob → Evaluation Unit
  | .evaluate ctx => (evaluateTier ctx).bind fun _ => .ret ()
  | .holdBreaches hold now => holdTierBreachesUntil hold now
  | .clearHold holdId => clearTierBreachHold holdId

def tierSystem :
    System TierJob TierStatement TierStatement.Reply String Unit TierStore TierTurn Empty :=
  { program := TierJob.script
    perform := fun _ => performTier
    change := fun change => change.elim }

abbrev TierWorld : Type := World TierStatement TierStatement.Reply String Unit TierStore

abbrev TierSchedule : Type := List (Event TierJob TierTurn Empty)

def startTiers : TierWorld := System.initial none

def RowShaped (world : TierWorld) : Prop :=
  ∀ row, world.store = some row → row.shaped

def TierStatement.restores : TierStatement → Bool
  | .updateRow (.recover ..) => true
  | .moveToHivra move => !move.suspended
  | _ => false

def TierStatement.reaches (turn : TierTurn) (row : TierRow) : TierStatement → Prop
  | .moveToHivra move =>
    turn.fails = false ∧ row.tokenKey = .hermesos ∧ move.target.amount ≠ 0
  | _ => turn.fails = false

/-- The step writes no grace recovery and no move of an unsuspended row to a row that is
suspended by now. -/
def NotOvertaken (world : TierWorld) : Event TierJob TierTurn Empty → Prop
  | .advance run turn =>
    ∀ statement next row, world.runs[run]? = some (some (.call statement next)) →
      world.store = some row → row.hasShape .suspended →
      ¬(statement.restores = true ∧ statement.reaches turn row)
  | _ => True

variable {row : TierRow} {store : TierStore} {turn : TierTurn}

theorem shaped_update (shaped : row.shaped) (clock : Int) :
    ({ row with updatedAt := clock } : TierRow).shaped := by
  have ⟨shape, has⟩ := shaped
  exact ⟨shape, by cases shape <;> exact has⟩

theorem not_shaped (eligible : row.currentlyEligible = true)
    (suspended : row.lastSuspendAt.isSome = true) : ¬row.shaped := by
  intro shaped
  have ineligible := ((suspended_iff shaped).mpr suspended).1
  rw [eligible] at ineligible
  cases ineligible

theorem performTier_fails (statement : TierStatement) (fails : turn.fails = true) :
    (performTier statement turn store).1 = store := by
  simp [performTier, fails]

theorem performTier_none (statement : TierStatement) :
    ∀ next, (performTier statement turn none).1 = some next → next.shaped := by
  intro next stored
  cases fails : turn.fails with
  | true =>
    rw [performTier_fails statement fails] at stored
    cases stored
  | false =>
    cases statement with
    | insertRow first =>
      by_cases amount : first.threshold.amount = 0
      · simp [performTier, fails, TierStatement.execute, amount] at stored
      · simp [performTier, fails, TierStatement.execute, amount] at stored
        rw [← stored]
        exact ⟨.eligible, rfl, rfl, rfl⟩
    | _ =>
      simp [performTier, fails, TierStatement.execute] at stored

theorem performTier_some (statement : TierStatement) (shaped : row.shaped)
    (kept : ¬(row.hasShape .suspended ∧ statement.restores = true ∧ statement.reaches turn row)) :
    ∀ next, (performTier statement turn (some row)).1 = some next → next.shaped := by
  intro next stored
  cases fails : turn.fails with
  | true =>
    rw [performTier_fails statement fails] at stored
    cases stored
    exact shaped
  | false =>
    cases statement with
    | loadRow | insertRow first | consumeQuote quoteId balance =>
      simp [performTier, fails, TierStatement.execute] at stored
      exact stored ▸ shaped
    | writeMetadata metadata updatedAt =>
      by_cases current : row.updatedAt = updatedAt
      · simp [performTier, fails, TierStatement.execute, current] at stored
        obtain ⟨shape, has⟩ := shaped
        rw [← stored]
        exact ⟨shape, by cases shape <;> exact has⟩
      · simp [performTier, fails, TierStatement.execute, current] at stored
        exact stored ▸ shaped
    | updateRow write =>
      by_cases checks : write.checks = true
      · simp [performTier, fails, TierStatement.execute, checks] at stored
        rw [← stored]
        apply shaped_update
        apply shaped_apply write shaped
        intro balance now recovers
        rw [← Option.not_isSome_iff_eq_none]
        intro since
        refine kept ⟨(suspended_iff shaped).mpr since, ?_, fails⟩
        rw [recovers]
        rfl
      · simp [performTier, fails, TierStatement.execute, checks] at stored
        exact stored ▸ shaped
    | moveToHivra move =>
      by_cases selects : row.tokenKey = .hermesos ∧ move.target.amount ≠ 0
      · simp [performTier, fails, TierStatement.execute, selects] at stored
        rw [← stored]
        apply shaped_update
        apply shaped_move move shaped
        intro unsuspended
        rw [← Option.not_isSome_iff_eq_none]
        intro since
        refine kept ⟨(suspended_iff shaped).mpr since, ?_, fails, selects⟩
        simp [TierStatement.restores, unsuspended]
      · have same : next = row := by
          by_cases token : row.tokenKey = .hermesos
          · have amount : move.target.amount = 0 := by simpa [token] using selects
            simpa [performTier, fails, TierStatement.execute, token, amount, eq_comm]
              using stored
          · simpa [performTier, fails, TierStatement.execute, token, eq_comm] using stored
        exact same ▸ shaped

theorem performTier_overtaken (statement : TierStatement)
    (suspended : row.hasShape .suspended) (restores : statement.restores = true)
    (reaches : statement.reaches turn row) :
    ∃ next, (performTier statement turn (some row)).1 = some next ∧ ¬next.shaped := by
  cases statement with
  | updateRow write =>
    cases write with
    | recover balance now =>
      have fails : turn.fails = false := reaches
      refine ⟨{ (RowWrite.recover balance now).apply row with updatedAt := turn.clock }, ?_,
        not_shaped rfl suspended.2.1⟩
      simp [performTier, fails, TierStatement.execute, RowWrite.checks]
    | touch | requalify | suspend | breach => cases restores
  | moveToHivra move =>
    obtain ⟨fails, token, amount⟩ := reaches
    have unsuspended : move.suspended = false := by
      simpa [TierStatement.restores] using restores
    refine ⟨{ move.apply row with updatedAt := turn.clock }, ?_, not_shaped ?_ suspended.2.1⟩
    · simp [performTier, fails, TierStatement.execute, token, amount]
    · simp [HivraMove.apply, unsuspended]
  | loadRow | insertRow first | consumeQuote quote held
  | writeMetadata metadata updatedAt => cases restores

theorem shaped_step (world : TierWorld) (event : Event TierJob TierTurn Empty)
    (shaped : RowShaped world) :
    RowShaped (tierSystem.step world event) ↔ NotOvertaken world event := by
  cases event with
  | start job => exact ⟨fun _ => trivial, fun _ => shaped⟩
  | stop run => exact ⟨fun _ => trivial, fun _ => shaped⟩
  | outside change => exact change.elim
  | advance run turn =>
    cases current : world.runs[run]? with
    | none => simp [System.step, NotOvertaken, current, shaped]
    | some slot =>
      cases slot with
      | none => simp [System.step, NotOvertaken, current, shaped]
      | some script =>
        cases script with
        | ret outcome => simp [System.step, NotOvertaken, current, shaped]
        | raise failure => simp [System.step, NotOvertaken, current, shaped]
        | call statement next =>
          have stepped : (tierSystem.step world (.advance run turn)).store =
              (performTier statement turn world.store).1 := by
            simp [System.step, current, tierSystem]
          constructor
          · intro keeps other rest row isOther stored suspended overtakes
            rw [current] at isOther
            cases isOther
            obtain ⟨final, performed, unshaped⟩ :=
              performTier_overtaken statement suspended overtakes.1 overtakes.2
            apply unshaped
            apply keeps
            rw [stepped, stored]
            exact performed
          · intro kept final stored
            rw [stepped] at stored
            cases before : world.store with
            | none =>
              rw [before] at stored
              exact performTier_none statement final stored
            | some row =>
              rw [before] at stored
              apply performTier_some statement (shaped row before) _ final stored
              intro overtaken
              exact kept statement next row current before overtaken.1 overtaken.2

/-- Under every schedule, the row has a shape throughout exactly if no grace recovery and
no move of an unsuspended row is written to a row suspended since it was read. -/
theorem shaped_iff_not_overtaken (schedule : TierSchedule) :
    (∀ early, early <+: schedule → RowShaped (tierSystem.after startTiers early)) ↔
      Meets tierSystem.step NotOvertaken startTiers schedule := by
  apply always_iff_meets schedule
  · intro row stored
    cases stored
  · exact shaped_step

def grantedAccess : TokenAccess :=
  { active := false
    grandfathered := false
    convertedAt := none
    conversionGraceEndsAt := none
    conversionThreshold := none
    allowedTokens := [.hermesos]
    qualifyTokens := [.hermesos] }

def evaluationAt (balance : Nat) (now : Int) : TierJob :=
  .evaluate
    { access := grantedAccess
      balances := fun _ => some balance
      thresholdFor := fun _ => some { amount := 100, code := .proLaunch }
      quote := none
      now
      newQualificationRefused := false }

/-- A row is granted and breached; at the end of its grace one evaluation that finds the
balance low and one that finds it back both read the row, and write in this order. -/
def overtakenRecovery : TierSchedule :=
  let turn : TierTurn := { fails := false, clock := 0 }
  [.start (evaluationAt 100 0), .advance 0 turn, .advance 0 turn,
    .start (evaluationAt 50 1000), .advance 1 turn, .advance 1 turn,
    .start (evaluationAt 50 (1000 + hours 24)), .start (evaluationAt 100 (1000 + hours 24)),
    .advance 2 turn, .advance 3 turn, .advance 2 turn, .advance 3 turn]

theorem suspended_and_eligible :
    ∃ row, (tierSystem.after startTiers overtakenRecovery).store = some row ∧
      row.lastSuspendAt.isSome = true ∧ row.currentlyEligible = true ∧ ¬row.shaped := by
  exact ⟨_, rfl, rfl, rfl, not_shaped rfl rfl⟩

end Hivra.TokenTiers
