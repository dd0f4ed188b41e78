import Hivra.TokenTiers.TierEvaluation

/-!
# What an evaluation does to a row

The shapes of a row, what each write makes of them, and the effect of one evaluation
that has the row for itself: a move, if it is due, and then at most one write, which says
why it was made.
-/

namespace Hivra.TokenTiers

open Hivra.Library

/-- The three states that a settled row can be in. -/
inductive TierShape
  | eligible
  | grace
  | suspended

def TierRow.hasShape (row : TierRow) : TierShape → Prop
  | .eligible =>
    row.currentlyEligible = true ∧ row.lastBreachAt = none ∧ row.lastSuspendAt = none
  | .grace =>
    row.currentlyEligible = false ∧ row.lastBreachAt.isSome = true ∧ row.lastSuspendAt = none
  | .suspended =>
    row.currentlyEligible = false ∧ row.lastSuspendAt.isSome = true ∧
      row.cooldownEndsAt.isSome = true

def TierRow.shaped (row : TierRow) : Prop := ∃ shape, row.hasShape shape

variable {row : TierRow} {shape other : TierShape} {ctx : TierContext}

instance : Decidable (row.hasShape shape) := by
  cases shape <;> exact instDecidableAnd

instance : Decidable row.shaped :=
  decidable_of_iff (row.hasShape .eligible ∨ row.hasShape .grace ∨ row.hasShape .suspended) (by
    constructor
    · intro has
      cases has with
      | inl eligible => exact ⟨_, eligible⟩
      | inr has => cases has with
        | inl grace => exact ⟨_, grace⟩
        | inr suspended => exact ⟨_, suspended⟩
    · intro has
      cases has with
      | intro shape has =>
        cases shape with
        | eligible => exact .inl has
        | grace => exact .inr (.inl has)
        | suspended => exact .inr (.inr has))

theorem shape_unique (has : row.hasShape shape) (hasOther : row.hasShape other) :
    other = shape := by
  cases shape <;> cases other <;> simp_all [TierRow.hasShape]

theorem suspended_iff (shaped : row.shaped) :
    row.hasShape .suspended ↔ row.lastSuspendAt.isSome = true := by
  cases shaped with
  | intro shape has =>
    cases shape <;> simp_all [TierRow.hasShape]

theorem eligible_of_no_breach (shaped : row.shaped) (unsuspended : row.lastSuspendAt = none)
    (unbreached : row.lastBreachAt = none) : row.hasShape .eligible := by
  cases shaped with
  | intro shape has =>
    cases shape <;> simp_all [TierRow.hasShape]

theorem shaped_apply (write : RowWrite) (shaped : row.shaped)
    (recovers : ∀ balance now, write = .recover balance now → row.lastSuspendAt = none) :
    (write.apply row).shaped := by
  cases shaped with
  | intro shape has =>
    cases write with
    | touch balance now => exact ⟨shape, by cases shape <;> exact has⟩
    | requalify threshold balance now count windowStart => exact ⟨.eligible, rfl, rfl, rfl⟩
    | recover balance now => exact ⟨.eligible, rfl, rfl, recovers balance now rfl⟩
    | suspend balance now cooldownEnd => exact ⟨.suspended, rfl, rfl, rfl⟩
    | breach balance now =>
      cases shape with
      | eligible => exact ⟨.grace, rfl, rfl, has.2.2⟩
      | grace => exact ⟨.grace, rfl, rfl, has.2.2⟩
      | suspended => exact ⟨.suspended, rfl, has.2⟩

theorem shaped_move (move : HivraMove) (shaped : row.shaped)
    (agrees : move.suspended = false → row.lastSuspendAt = none) : (move.apply row).shaped := by
  cases shaped with
  | intro shape has =>
    cases suspended : move.suspended with
    | true =>
      exact ⟨shape, by cases shape <;> simpa [TierRow.hasShape, HivraMove.apply, suspended] using has⟩
    | false =>
      refine ⟨.eligible, ?_⟩
      simp [TierRow.hasShape, HivraMove.apply, suspended, agrees suspended]

/-- The row an evaluation judges, after a due move of the lane; none where it gives up. -/
def judgedRow (ctx : TierContext) (row : TierRow) : Option TierRow :=
  if moveDue ctx row then
    match ctx.thresholdFor .hivra with
    | some current =>
      if (moveTarget ctx.access current).amount = 0 then none
      else some ((hivraMoveOf ctx row current).apply row)
    | none => some row
  else some row

def Finds (ctx : TierContext) (row : TierRow) : Prop :=
  ∃ balance, ctx.balances row.tokenKey = some balance ∧ meetsWithEither ctx row balance = true

/-- When an evaluation makes a write, and with which values. -/
def Writes (ctx : TierContext) (row : TierRow) : RowWrite → Prop
  | .touch balance now =>
    ctx.balances row.tokenKey = some balance ∧ now = ctx.now ∧
      (row.lastSuspendAt = none → row.lastBreachAt.isSome = true →
        meetsWithEither ctx row balance = false)
  | .requalify threshold balance now count windowStart =>
    ctx.balances row.tokenKey = some balance ∧ now = ctx.now ∧
      row.lastSuspendAt.isSome = true ∧
      nextRequalificationWindow row now = some (count, windowStart) ∧
      currentRequirement ctx row.tokenKey = some threshold ∧
      meetsRequiredBalance balance threshold.amount = true ∧
      ∀ cooldownEndsAt, row.cooldownEndsAt = some cooldownEndsAt → cooldownEndsAt ≤ now
  | .recover balance now =>
    ctx.balances row.tokenKey = some balance ∧ now = ctx.now ∧ row.lastSuspendAt = none ∧
      meetsWithEither ctx row balance = true
  | .suspend balance now cooldownEnd =>
    ctx.balances row.tokenKey = some balance ∧ now = ctx.now ∧ row.lastSuspendAt = none ∧
      meetsWithEither ctx row balance = false ∧
      cooldownEnd = now + days requalificationCooldownDays ∧
      ∃ breachAt, row.lastBreachAt = some breachAt ∧
        breachAt + hours requalificationGraceHours ≤ now
  | .breach balance now =>
    ctx.balances row.tokenKey = some balance ∧ now = ctx.now ∧ row.lastSuspendAt = none ∧
      row.lastBreachAt = none ∧ row.currentlyEligible = true ∧
      meetsWithEither ctx row balance = false

/-- The rows differ in their clock at most. -/
def SameRow (first second : TierRow) : Prop :=
  second = { first with updatedAt := second.updatedAt }

/-- Nothing can be read or done for the row, or one write is made that stands. -/
inductive Judged (ctx : TierContext) (row next : TierRow) : Prop
  | kept (silent : ctx.balances row.tokenKey = none ∨ row.lastSuspendAt.isSome = true)
      (same : SameRow row next)
  | written (write : RowWrite) (stands : Writes ctx row write) (checks : write.checks = true)
      (same : SameRow (write.apply row) next)

def Evaluated (ctx : TierContext) (row next : TierRow) : Prop :=
  (judgedRow ctx row = none ∧ next = row) ∨
    ∃ judged, judgedRow ctx row = some judged ∧ Judged ctx judged next

def TierStatement.forgiven : TierStatement → Bool
  | .consumeQuote .. => true
  | _ => false

/-- No statement fails but one whose failure the evaluation passes by. -/
def performWell (statement : TierStatement) (turn : TierTurn) (store : TierStore) :
    TierStore × statement.Reply :=
  performTier statement { turn with fails := turn.fails && statement.forgiven } store

variable {Outcome : Type} {turns : Nat → TierTurn} {store : TierStore}

theorem alone_load (next : Option TierRow → Evaluation Outcome) :
    (loadRow.bind next).alone performWell turns store =
      (next store).alone performWell (fun count => turns (count + 1)) store := by
  simp [loadRow, statement, performWell, performTier, TierStatement.execute,
    TierStatement.forgiven]

theorem alone_consume (Outcome : Type) (quote : Option DepositQuote) (balance : Nat)
    (turns : Nat → TierTurn) (store : TierStore) :
    ∃ warnings later, ∀ next : List TierWarning → Evaluation Outcome,
      ((consumeQuoteIfAny quote balance).bind next).alone performWell turns store =
        (next warnings).alone performWell later store := by
  cases quote with
  | none => exact ⟨[], turns, fun _ => rfl⟩
  | some quote =>
    cases fails : (turns 0).fails with
    | true =>
      refine ⟨[.quoteNotConsumed quote.id], fun count => turns (count + 1), ?_⟩
      intro next
      simp [consumeQuoteIfAny, consumeQuoteQuietly, performWell, performTier,
        TierStatement.forgiven, fails]
    | false =>
      refine ⟨[], fun count => turns (count + 1), ?_⟩
      intro next
      simp [consumeQuoteIfAny, consumeQuoteQuietly, performWell, performTier,
        TierStatement.execute, fails]

theorem alone_update {stored : TierRow} (same : SameRow row stored) (write : RowWrite)
    (stands : Writes ctx row write)
    (checked : write.checks = true ∨ row.lastSuspendAt.isSome = true)
    (failure : String) (next : Unit → Evaluation Outcome)
    (quiet : ∀ later held, (next ()).alone performWell later held = held) :
    ∃ final, ((updateRow write failure).bind next).alone performWell turns (some stored) =
      some final ∧ Judged ctx row final := by
  have applied : SameRow (write.apply row)
      { write.apply stored with updatedAt := (turns 0).clock } := by
    unfold SameRow
    rw [same]
    cases write <;> rfl
  by_cases checks : write.checks = true
  · refine ⟨{ write.apply stored with updatedAt := (turns 0).clock }, ?_,
      .written write stands checks applied⟩
    simp [updateRow, statement, performWell, performTier, TierStatement.execute,
      TierStatement.forgiven, checks, quiet]
  · refine ⟨stored, ?_, .kept (.inr (checked.resolve_left checks)) same⟩
    simp [updateRow, statement, performWell, performTier, TierStatement.execute,
      TierStatement.forgiven, checks]

theorem quiet_consume (quote : Option DepositQuote) (balance : Nat)
    (result : List TierWarning → Outcome) (later : Nat → TierTurn) (held : TierStore) :
    ((consumeQuoteIfAny quote balance).bind fun warnings => .ret (result warnings)).alone
      performWell later held = held := by
  have ⟨warnings, rest, runs⟩ := alone_consume Outcome quote balance later held
  rw [runs]
  rfl

section Row

variable {stored : TierRow} {balance : Nat}

theorem evaluateSuspended_alone (moved : Bool) (warnings : List TierWarning)
    (turns : Nat → TierTurn) (same : SameRow row stored)
    (read : ctx.balances row.tokenKey = some balance)
    (suspended : row.lastSuspendAt.isSome = true) :
    ∃ final, (evaluateSuspended ctx row balance moved warnings).alone performWell turns
      (some stored) = some final ∧ Judged ctx row final := by
  have touches : Writes ctx row (.touch balance ctx.now) := by
    refine ⟨read, rfl, ?_⟩
    intro unsuspended
    rw [unsuspended] at suspended
    cases suspended
  unfold evaluateSuspended
  simp only [Script.bind_eq, Script.pure_eq_ret]
  cases required : currentRequirement ctx row.tokenKey with
  | none => exact alone_update same _ touches (.inl rfl) _ _ (fun _ _ => rfl)
  | some requirement =>
    simp only
    split
    · exact alone_update same _ touches (.inl rfl) _ _ (fun _ _ => rfl)
    · rename_i enough
      split
      · exact alone_update same _ touches (.inl rfl) _ _ (fun _ _ => rfl)
      · rename_i cooled
        cases window : nextRequalificationWindow row ctx.now with
        | none => exact alone_update same _ touches (.inl rfl) _ _ (fun _ _ => rfl)
        | some next =>
          have stands : Writes ctx row
              (.requalify requirement balance ctx.now next.1 next.2) := by
            refine ⟨read, rfl, suspended, window, required, by simpa using enough, ?_⟩
            intro cooldownEndsAt ends
            simpa [ends] using cooled
          exact alone_update same _ stands (.inr suspended) _ _
            (fun later held => quiet_consume _ balance _ later held)

theorem evaluateGrace_alone (moved : Bool) (warnings : List TierWarning)
    (turns : Nat → TierTurn) {breachAt : Int} (same : SameRow row stored)
    (read : ctx.balances row.tokenKey = some balance)
    (unsuspended : row.lastSuspendAt = none) (breached : row.lastBreachAt = some breachAt) :
    ∃ final, (evaluateGrace ctx row balance breachAt moved warnings).alone performWell turns
      (some stored) = some final ∧ Judged ctx row final := by
  unfold evaluateGrace
  simp only [Script.bind_eq, Script.pure_eq_ret]
  split
  · rename_i meets
    exact alone_update same (.recover balance ctx.now) ⟨read, rfl, unsuspended, meets⟩ (.inl rfl)
      _ _ (fun _ _ => rfl)
  · rename_i misses
    have misses : meetsWithEither ctx row balance = false := by simpa using misses
    split
    · rename_i expired
      exact alone_update same (.suspend balance ctx.now _)
        ⟨read, rfl, unsuspended, misses, rfl, breachAt, breached, expired⟩ (.inl rfl)
        _ _ (fun _ _ => rfl)
    · exact alone_update same (.touch balance ctx.now) ⟨read, rfl, fun _ _ => misses⟩ (.inl rfl)
        _ _ (fun _ _ => rfl)

theorem evaluateHeld_alone (moved : Bool) (warnings : List TierWarning)
    (turns : Nat → TierTurn) (same : SameRow row stored)
    (read : ctx.balances row.tokenKey = some balance)
    (unsuspended : row.lastSuspendAt = none) (unbreached : row.lastBreachAt = none) :
    ∃ final, (evaluateHeld ctx row balance moved warnings).alone performWell turns
      (some stored) = some final ∧ Judged ctx row final := by
  have touches : Writes ctx row (.touch balance ctx.now) := by
    refine ⟨read, rfl, ?_⟩
    intro _ breached
    rw [unbreached] at breached
    cases breached
  unfold evaluateHeld
  simp only [Script.bind_eq, Script.pure_eq_ret]
  split
  · rename_i breaches
    have breaches : row.currentlyEligible = true ∧ meetsWithEither ctx row balance = false := by
      simpa using breaches
    cases heldBreach? ctx row balance with
    | some till => exact alone_update same _ touches (.inl rfl) _ _ (fun _ _ => rfl)
    | none =>
      exact alone_update same (.breach balance ctx.now)
        ⟨read, rfl, unsuspended, unbreached, breaches⟩ (.inl rfl) _ _ (fun _ _ => rfl)
  · have ⟨consumed, later, runs⟩ := alone_consume TierResult
      (if row.currentlyEligible then ctx.quote else none) balance turns (some stored)
    rw [runs]
    exact alone_update same _ touches (.inl rfl) _ _ (fun _ _ => rfl)

theorem evaluateRow_alone (ctx : TierContext) (row stored : TierRow) (moved : Bool)
    (warnings : List TierWarning) (turns : Nat → TierTurn) (same : SameRow row stored) :
    ∃ final, (evaluateRow ctx row moved warnings).alone performWell turns (some stored) =
      some final ∧ Judged ctx row final := by
  unfold evaluateRow
  cases read : ctx.balances row.tokenKey with
  | none => exact ⟨stored, rfl, .kept (.inl read) same⟩
  | some balance =>
    simp only
    cases suspended : row.lastSuspendAt with
    | some suspendAt => exact evaluateSuspended_alone _ _ _ same read (by simp [suspended])
    | none =>
      cases breached : row.lastBreachAt with
      | some breachAt => exact evaluateGrace_alone _ _ _ same read suspended breached
      | none => exact evaluateHeld_alone _ _ _ same read suspended breached

end Row

theorem evaluateTier_judged {judged : TierRow} (isJudged : judgedRow ctx row = some judged)
    (turns : Nat → TierTurn) : ∃ stored moved warnings later, SameRow judged stored ∧
      (evaluateTier ctx).alone performWell turns (some row) =
        (evaluateRow ctx judged moved warnings).alone performWell later (some stored) := by
  unfold evaluateTier
  simp only [Script.bind_eq]
  rw [alone_load]
  unfold judgedRow at isJudged
  by_cases due : moveDue ctx row = true
  · simp only [if_pos due] at isJudged ⊢
    cases priced : ctx.thresholdFor .hivra with
    | none =>
      simp only [priced] at isJudged
      cases isJudged
      exact ⟨row, _, _, _, rfl, rfl⟩
    | some current =>
      have hermesos : row.tokenKey = .hermesos := by
        simp only [moveDue, Bool.and_eq_true, beq_iff_eq] at due
        exact due.1.1
      simp only [priced] at isJudged ⊢
      split at isJudged
      · cases isJudged
      · rename_i positive
        have moves : (hivraMoveOf ctx row current).target.amount ≠ 0 := positive
        cases isJudged
        refine ⟨{ (hivraMoveOf ctx row current).apply row with updatedAt := (turns 1).clock },
          true, [], fun count => turns (count + 1 + 1), rfl, ?_⟩
        simp [moveRowToHivra, statement, performWell, performTier, TierStatement.execute,
          TierStatement.forgiven, hermesos, moves, HivraMove.apply]
  · rw [if_neg due] at isJudged
    cases isJudged
    simp only [if_neg due]
    exact ⟨row, _, _, _, rfl, rfl⟩

theorem evaluateTier_refused (refused : judgedRow ctx row = none) (turns : Nat → TierTurn) :
    (evaluateTier ctx).alone performWell turns (some row) = some row := by
  unfold evaluateTier
  simp only [Script.bind_eq]
  rw [alone_load]
  unfold judgedRow at refused
  by_cases due : moveDue ctx row = true
  · simp only [if_pos due] at refused ⊢
    cases priced : ctx.thresholdFor .hivra with
    | none =>
      simp only [priced] at refused
      cases refused
    | some current =>
      have hermesos : row.tokenKey = .hermesos := by
        simp only [moveDue, Bool.and_eq_true, beq_iff_eq] at due
        exact due.1.1
      simp only [priced] at refused ⊢
      split at refused
      · rename_i nothing
        simp [moveRowToHivra, hivraMoveOf, statement, performWell, performTier,
          TierStatement.execute, TierStatement.forgiven, hermesos, nothing]
      · cases refused
  · rw [if_neg due] at refused
    cases refused

/-- An evaluation that nothing interrupts leaves the row evaluated. -/
theorem evaluateTier_alone (ctx : TierContext) (row : TierRow) (turns : Nat → TierTurn) :
    ∃ final, (evaluateTier ctx).alone performWell turns (some row) = some final ∧
      Evaluated ctx row final := by
  cases isJudged : judgedRow ctx row with
  | none => exact ⟨row, evaluateTier_refused isJudged turns, .inl ⟨isJudged, rfl⟩⟩
  | some judged =>
    have ⟨stored, moved, warnings, later, same, runs⟩ := evaluateTier_judged isJudged turns
    have ⟨final, ends, effect⟩ := evaluateRow_alone ctx judged stored moved warnings later same
    exact ⟨final, runs.trans ends, .inr ⟨judged, isJudged, effect⟩⟩

theorem evaluateFirst_alone (ctx : TierContext) (turns : Nat → TierTurn) :
    (evaluateTier ctx).alone performWell turns none = none ∨
      ∃ first clock, (evaluateTier ctx).alone performWell turns none =
        some (FirstQualification.row first clock) := by
  unfold evaluateTier
  simp only [Script.bind_eq]
  rw [alone_load]
  simp only [evaluateFirstQualification, Script.bind_eq, Script.pure_eq_ret]
  split
  · exact .inl rfl
  · rename_i candidate found
    split
    · exact .inl rfl
    · by_cases amount : candidate.threshold.amount = 0
      · left
        simp [statement, performWell, performTier, TierStatement.execute,
          TierStatement.forgiven, amount]
      · right
        refine ⟨
          { tokenKey := candidate.token
            threshold := candidate.threshold
            balance := (ctx.balances candidate.token).getD 0
            now := ctx.now
            consumedQuoteId := candidate.quote.map DepositQuote.id }, (turns 1).clock, ?_⟩
        simp [statement, performWell, performTier, TierStatement.execute,
          TierStatement.forgiven, amount, quiet_consume]

def SameTier (first second : TierRow) : Prop :=
  second = { first with metadata := second.metadata, updatedAt := second.updatedAt }

def SameStore : TierStore → TierStore → Prop
  | none, none => True
  | some row, some next => SameTier row next
  | _, _ => False

theorem sameStore_refl : SameStore store store := by
  cases store with
  | none => trivial
  | some row => exact rfl

theorem rewriteMetadata_alone (change : TierRow → Option TierMetadata) (failure : String)
    (lost : Evaluation Unit) (turns : Nat → TierTurn) (store : TierStore) :
    SameStore store ((rewriteMetadata change failure lost).alone performTier turns store) := by
  unfold rewriteMetadata
  simp only [loadRow, statement, Script.bind_eq, Script.pure_eq_ret, Script.bind_call,
    Script.alone_call]
  cases firstFails : (turns 0).fails with
  | true =>
    simp only [performTier, firstFails, if_true, Script.bind_raise, Script.alone_raise]
    exact sameStore_refl
  | false =>
    cases store with
    | none => simp [performTier, firstFails, TierStatement.execute, SameStore]
    | some row =>
      simp only [performTier, firstFails, TierStatement.execute]
      cases changed : change row with
      | none => simp [changed, sameStore_refl]
      | some metadata =>
        cases secondFails : (turns 1).fails with
        | true => simp [changed, performTier, secondFails, sameStore_refl]
        | false =>
          simp [changed, performTier, secondFails, TierStatement.execute]
          exact rfl

theorem patchTierMetadata_alone (change : TierRow → Option TierMetadata) (failure : String)
    (attempts : Nat) (turns : Nat → TierTurn) (store : TierStore) : SameStore store
      ((patchTierMetadata change failure attempts).alone performTier turns store) := by
  cases attempts with
  | zero => exact rewriteMetadata_alone change failure _ turns store
  | succ attempts => exact rewriteMetadata_alone change failure _ turns store

end Hivra.TokenTiers
