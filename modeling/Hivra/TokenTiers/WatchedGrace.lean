import Hivra.TokenTiers.TierSpecs
import Hivra.Library.FollowedRows

/-!
# A watched grace and a cooldown

Evaluations of a row one after another, with breach holds written and cleared between
them.  A tier is lost only to a grace that was watched to its end and regained only after
its cooldown, and the amount it is judged by is the one it was granted at.
-/

namespace Hivra.TokenTiers

open Hivra.Library

inductive TierEvent
  | evaluate (ctx : TierContext) (turns : Nat → TierTurn)
  | holdBreaches (hold : BreachHold) (now : Int) (turns : Nat → TierTurn)
  | clearHold (holdId : String) (turns : Nat → TierTurn)

def TierEvent.time? : TierEvent → Option Int
  | .evaluate ctx _ => some ctx.now
  | _ => none

def tierStep (store : TierStore) : TierEvent → TierStore
  | .evaluate ctx turns => (evaluateTier ctx).alone performWell turns store
  | .holdBreaches hold now turns =>
    (holdTierBreachesUntil hold now).alone performTier turns store
  | .clearHold holdId turns => (clearTierBreachHold holdId).alone performTier turns store

def tierAfter (history : List TierEvent) : TierStore := history.foldl tierStep none

def Shaped (store : TierStore) (shape : TierShape) : Prop :=
  ∃ row, store = some row ∧ row.hasShape shape

def FindsIn (ctx : TierContext) (store : TierStore) : Prop :=
  ∃ row judged, store = some row ∧ judgedRow ctx row = some judged ∧ Finds ctx judged

def Breaches (ctx : TierContext) (store : TierStore) : Prop :=
  ∃ row judged balance, store = some row ∧ judgedRow ctx row = some judged ∧
    judged.hasShape .eligible ∧ ctx.balances judged.tokenKey = some balance ∧
    meetsWithEither ctx judged balance = false

/-- Since an evaluation at `breachAt` breached the row, none found what it was granted for. -/
def WatchedSince (history : List TierEvent) (breachAt : Int) : Prop :=
  ∃ early ctx turns since, history = early ++ .evaluate ctx turns :: since ∧
    ctx.now = breachAt ∧ Breaches ctx (tierAfter early) ∧
    ∀ seen other others, seen ++ [.evaluate other others] <+: since →
      ¬FindsIn other (tierAfter (early ++ .evaluate ctx turns :: seen))

/-- The judged row meets what is required of it now, at the end of its cooldown or later. -/
def Requalifies (ctx : TierContext) (row next : TierRow) : Prop :=
  ∃ judged balance requirement, judgedRow ctx row = some judged ∧
    ctx.balances judged.tokenKey = some balance ∧
    currentRequirement ctx judged.tokenKey = some requirement ∧
    meetsRequiredBalance balance requirement.amount = true ∧
    next.qualifyingQuantity = requirement.amount ∧
    ∀ cooldownEndsAt, row.cooldownEndsAt = some cooldownEndsAt → cooldownEndsAt ≤ ctx.now

/-- Between its grant and the end of the history the row is granted nothing else. -/
def GrantedSince (history : List TierEvent) (row : TierRow) : Prop :=
  ∃ early ctx turns since, history = early ++ .evaluate ctx turns :: since ∧
    (tierAfter early = none ∨ Shaped (tierAfter early) .suspended ∨
      ∃ held, tierAfter early = some held ∧ held.tokenKey = .hermesos ∧ row.tokenKey = .hivra) ∧
    ∀ seen, seen <+: since → ∃ held, tierAfter (early ++ .evaluate ctx turns :: seen) = some held ∧
      held.qualifyingQuantity = row.qualifyingQuantity ∧ held.tokenKey = row.tokenKey

structure SoundRow (row : TierRow) : Prop where
  shaped : row.shaped
  cooldown : ∀ suspendAt, row.lastSuspendAt = some suspendAt →
    row.cooldownEndsAt = some (suspendAt + days requalificationCooldownDays)

structure Moved (row judged : TierRow) : Prop where
  source : row.tokenKey = .hermesos
  target : judged.tokenKey = .hivra
  suspendAt : judged.lastSuspendAt = row.lastSuspendAt
  cooldownEndsAt : judged.cooldownEndsAt = row.cooldownEndsAt
  unbreached : row.lastSuspendAt = none → judged.lastBreachAt = none

variable {ctx : TierContext} {row judged next : TierRow}

theorem judged_cases (isJudged : judgedRow ctx row = some judged) :
    judged = row ∨ Moved row judged ∧ ∃ current, judged = (hivraMoveOf ctx row current).apply row := by
  unfold judgedRow at isJudged
  split at isJudged
  · rename_i due
    split at isJudged
    · rename_i current _
      split at isJudged
      · cases isJudged
      · cases isJudged
        simp only [moveDue, Bool.and_eq_true, beq_iff_eq] at due
        refine .inr ⟨⟨due.1.1, rfl, rfl, rfl, ?_⟩, current, rfl⟩
        intro unsuspended
        simp [HivraMove.apply, hivraMoveOf, unsuspended]
    · cases isJudged
      exact .inl rfl
  · cases isJudged
    exact .inl rfl

theorem sound_judged (sound : SoundRow row) (isJudged : judgedRow ctx row = some judged) :
    SoundRow judged := by
  cases judged_cases isJudged with
  | inl same => exact same ▸ sound
  | inr moved =>
    have ⟨moved, current, isMoved⟩ := moved
    constructor
    · rw [isMoved]
      apply shaped_move _ sound.shaped
      intro unsuspended
      simpa [hivraMoveOf] using unsuspended
    · intro suspendAt
      rw [moved.suspendAt, moved.cooldownEndsAt]
      exact sound.cooldown suspendAt

theorem sameRow_cases (same : SameRow row next) :
    ∃ clock, next = { row with updatedAt := clock } := ⟨next.updatedAt, same⟩

theorem hasShape_update (clock : Int) (shape : TierShape) :
    ({ row with updatedAt := clock } : TierRow).hasShape shape ↔ row.hasShape shape := by
  cases shape <;> exact Iff.rfl

theorem sound_update (sound : SoundRow row) (clock : Int) :
    SoundRow { row with updatedAt := clock } := by
  have ⟨⟨shape, has⟩, cooldown⟩ := sound
  exact ⟨⟨shape, (hasShape_update clock shape).mpr has⟩, cooldown⟩

theorem sound_apply {write : RowWrite} (sound : SoundRow row) (stands : Writes ctx row write) :
    SoundRow (write.apply row) := by
  constructor
  · apply shaped_apply write sound.shaped
    intro balance now recovers
    rw [recovers] at stands
    exact stands.2.2.1
  · cases write with
    | touch balance now => exact sound.cooldown
    | requalify threshold balance now count windowStart =>
      intro suspendAt suspended
      cases suspended
    | recover balance now => exact sound.cooldown
    | suspend balance now cooldownEnd =>
      intro suspendAt suspended
      cases suspended
      exact congrArg some stands.2.2.2.2.1
    | breach balance now => exact sound.cooldown

theorem sound_evaluated (sound : SoundRow row) (evaluated : Evaluated ctx row next) :
    SoundRow next := by
  cases evaluated with
  | inl refused => exact refused.2 ▸ sound
  | inr evaluated =>
    have ⟨judged, isJudged, effect⟩ := evaluated
    have judgedSound := sound_judged sound isJudged
    cases effect with
    | kept silent same =>
      have ⟨clock, isNext⟩ := sameRow_cases same
      exact isNext ▸ sound_update judgedSound clock
    | written write stands _ same =>
      have ⟨clock, isNext⟩ := sameRow_cases same
      exact isNext ▸ sound_update (sound_apply judgedSound stands) clock

theorem judged_suspendAt (isJudged : judgedRow ctx row = some judged) :
    judged.lastSuspendAt = row.lastSuspendAt ∧ judged.cooldownEndsAt = row.cooldownEndsAt := by
  cases judged_cases isJudged with
  | inl same => exact same ▸ ⟨rfl, rfl⟩
  | inr moved => exact ⟨moved.1.suspendAt, moved.1.cooldownEndsAt⟩

theorem judged_breached (isJudged : judgedRow ctx row = some judged)
    (unsuspended : judged.lastSuspendAt = none) (breached : judged.lastBreachAt.isSome = true) :
    judged = row := by
  cases judged_cases isJudged with
  | inl same => exact same
  | inr moved =>
    have ended := moved.1.unbreached (moved.1.suspendAt ▸ unsuspended)
    rw [ended] at breached
    cases breached

theorem not_finds (balance : Nat) (isJudged : judgedRow ctx row = some judged)
    (misses : ctx.balances judged.tokenKey = some balance →
      meetsWithEither ctx judged balance = false)
    (read : ctx.balances judged.tokenKey = none ∨ ctx.balances judged.tokenKey = some balance) :
    ¬FindsIn ctx (some row) := by
  intro finds
  have ⟨_, other, isRow, isOther, found, held, meets⟩ := finds
  cases isRow
  rw [isJudged] at isOther
  cases isOther
  cases read with
  | inl unread =>
    rw [unread] at held
    cases held
  | inr read =>
    rw [read] at held
    cases held
    rw [misses read] at meets
    cases meets

theorem suspended_evaluated (evaluated : Evaluated ctx row next)
    (unsuspended : row.lastSuspendAt = none) (suspended : next.lastSuspendAt.isSome = true) :
    ∃ breachAt, row.lastBreachAt = some breachAt ∧
      breachAt + hours requalificationGraceHours ≤ ctx.now ∧ ¬FindsIn ctx (some row) := by
  cases evaluated with
  | inl refused =>
    rw [refused.2, unsuspended] at suspended
    cases suspended
  | inr evaluated =>
    have ⟨judged, isJudged, effect⟩ := evaluated
    have free : judged.lastSuspendAt = none := (judged_suspendAt isJudged).1.trans unsuspended
    cases effect with
    | kept silent same =>
      rw [same, free] at suspended
      cases suspended
    | written write stands _ same =>
      rw [same] at suspended
      cases write with
      | suspend balance now cooldownEnd =>
        have ⟨read, isNow, _, misses, _, breachAt, breached, expired⟩ := stands
        have same := judged_breached isJudged free (by simp [breached])
        refine ⟨breachAt, same ▸ breached, isNow ▸ expired, ?_⟩
        exact not_finds balance isJudged (fun _ => misses) (.inr read)
      | requalify threshold balance now count windowStart => cases suspended
      | touch balance now | recover balance now | breach balance now =>
        simp [RowWrite.apply, free] at suspended

variable {breachAt : Int}

theorem grace_evaluated (sound : SoundRow row) (evaluated : Evaluated ctx row next)
    (unsuspended : next.lastSuspendAt = none) (breached : next.lastBreachAt = some breachAt) :
    (row.lastSuspendAt = none ∧ row.lastBreachAt = some breachAt ∧ ¬FindsIn ctx (some row)) ∨
      (breachAt = ctx.now ∧ Breaches ctx (some row)) := by
  cases evaluated with
  | inl refused =>
    left
    rw [refused.2] at unsuspended breached
    refine ⟨unsuspended, breached, ?_⟩
    intro finds
    have ⟨_, judged, isRow, isJudged, _⟩ := finds
    cases isRow
    rw [refused.1] at isJudged
    cases isJudged
  | inr evaluated =>
    have ⟨judged, isJudged, effect⟩ := evaluated
    cases effect with
    | kept silent same =>
      rw [same] at unsuspended breached
      have breached : judged.lastBreachAt = some breachAt := breached
      have same := judged_breached isJudged unsuspended (by simp [breached])
      refine .inl ⟨same ▸ unsuspended, same ▸ breached, ?_⟩
      cases silent with
      | inl unread => exact not_finds 0 isJudged (by simp [unread]) (.inl unread)
      | inr suspended =>
        rw [unsuspended] at suspended
        cases suspended
    | written write stands _ same =>
      rw [same] at unsuspended breached
      cases write with
      | touch balance now =>
        have ⟨read, _, misses⟩ := stands
        have breached : judged.lastBreachAt = some breachAt := breached
        have misses := misses unsuspended (by simp [breached])
        have same := judged_breached isJudged unsuspended (by simp [breached])
        refine .inl ⟨same ▸ unsuspended, same ▸ breached, ?_⟩
        exact not_finds balance isJudged (fun _ => misses) (.inr read)
      | breach balance now =>
        have ⟨read, isNow, free, unbreached, _, misses⟩ := stands
        cases breached
        refine .inr ⟨isNow, row, judged, balance, rfl, isJudged, ?_, read, misses⟩
        exact eligible_of_no_breach (sound_judged sound isJudged).shaped free unbreached
      | requalify threshold balance now count windowStart => cases breached
      | recover balance now => cases breached
      | suspend balance now cooldownEnd => cases unsuspended

theorem requalified_evaluated (evaluated : Evaluated ctx row next)
    (suspended : row.lastSuspendAt.isSome = true) (unsuspended : next.lastSuspendAt = none) :
    Requalifies ctx row next ∧ next.hasShape .eligible := by
  cases evaluated with
  | inl refused =>
    rw [← refused.2, unsuspended] at suspended
    cases suspended
  | inr evaluated =>
    have ⟨judged, isJudged, effect⟩ := evaluated
    have ⟨sameSuspend, sameCooldown⟩ := judged_suspendAt isJudged
    rw [← sameSuspend] at suspended
    cases effect with
    | kept silent same =>
      rw [same] at unsuspended
      rw [unsuspended] at suspended
      cases suspended
    | written write stands _ same =>
      rw [same] at unsuspended
      cases write with
      | requalify threshold balance now count windowStart =>
        have ⟨read, isNow, _, _, required, meets, cooled⟩ := stands
        rw [same]
        refine ⟨⟨judged, balance, threshold, isJudged, read, required, meets, rfl, ?_⟩,
          rfl, rfl, rfl⟩
        rw [← sameCooldown, ← isNow]
        exact cooled
      | suspend balance now cooldownEnd => cases unsuspended
      | touch balance now | recover balance now | breach balance now =>
        simp [RowWrite.apply] at unsuspended
        simp [unsuspended] at suspended

theorem quantity_evaluated (evaluated : Evaluated ctx row next) :
    (next.qualifyingQuantity = row.qualifyingQuantity ∧ next.tokenKey = row.tokenKey) ∨
      (row.lastSuspendAt.isSome = true ∧ next.lastSuspendAt = none) ∨
      (row.tokenKey = .hermesos ∧ next.tokenKey = .hivra) := by
  cases evaluated with
  | inl refused => exact .inl (refused.2 ▸ ⟨rfl, rfl⟩)
  | inr evaluated =>
    have ⟨judged, isJudged, effect⟩ := evaluated
    have kept : (next.qualifyingQuantity = judged.qualifyingQuantity ∧
        next.tokenKey = judged.tokenKey) ∨
        (row.lastSuspendAt.isSome = true ∧ next.lastSuspendAt = none) := by
      cases effect with
      | kept silent same =>
        rw [same]
        exact .inl ⟨rfl, rfl⟩
      | written write stands _ same =>
        rw [same]
        cases write with
        | requalify threshold balance now count windowStart =>
          exact .inr ⟨(judged_suspendAt isJudged).1 ▸ stands.2.2.1, rfl⟩
        | touch balance now => exact .inl ⟨rfl, rfl⟩
        | recover balance now => exact .inl ⟨rfl, rfl⟩
        | suspend balance now cooldownEnd => exact .inl ⟨rfl, rfl⟩
        | breach balance now => exact .inl ⟨rfl, rfl⟩
    cases kept with
    | inr requalified => exact .inr (.inl requalified)
    | inl kept =>
      cases judged_cases isJudged with
      | inl same => exact .inl (same ▸ kept)
      | inr moved => exact .inr (.inr ⟨moved.1.source, kept.2.trans moved.1.target⟩)

variable {event : TierEvent}

theorem tierStep_hold (store : TierStore)
    (hold : ∀ ctx turns, event ≠ .evaluate ctx turns) : SameStore store (tierStep store event) := by
  cases event with
  | evaluate ctx turns => exact absurd rfl (hold ctx turns)
  | holdBreaches hold now turns =>
    simp only [tierStep, holdTierBreachesUntil]
    exact patchTierMetadata_alone _ _ 4 turns store
  | clearHold holdId turns =>
    simp only [tierStep, clearTierBreachHold]
    exact patchTierMetadata_alone _ _ 4 turns store

theorem evaluation_or_hold (event : TierEvent) :
    (∃ ctx turns, event = .evaluate ctx turns) ∨ ∀ ctx turns, event ≠ .evaluate ctx turns := by
  cases event with
  | evaluate ctx turns => exact .inl ⟨ctx, turns, rfl⟩
  | holdBreaches hold now turns =>
    right
    intro ctx others same
    cases same
  | clearHold holdId turns =>
    right
    intro ctx others same
    cases same

theorem tierStep_row (row : TierRow) (event : TierEvent) :
    ∃ next, tierStep (some row) event = some next ∧
      ((∃ ctx turns, event = .evaluate ctx turns ∧ Evaluated ctx row next) ∨
        ((∀ ctx turns, event ≠ .evaluate ctx turns) ∧ SameTier row next)) := by
  cases evaluation_or_hold event with
  | inl evaluation =>
    have ⟨ctx, turns, isEvent⟩ := evaluation
    rw [isEvent]
    have ⟨next, runs, evaluated⟩ := evaluateTier_alone ctx row turns
    exact ⟨next, runs, .inl ⟨ctx, turns, rfl, evaluated⟩⟩
  | inr hold =>
    have same := tierStep_hold (some row) hold
    cases runs : tierStep (some row) event with
    | none =>
      rw [runs] at same
      exact same.elim
    | some next =>
      rw [runs] at same
      exact ⟨next, rfl, .inr ⟨hold, same⟩⟩

theorem tierStep_none (event : TierEvent) :
    tierStep none event = none ∨ ∃ ctx turns first clock, event = .evaluate ctx turns ∧
      tierStep none event = some (FirstQualification.row first clock) := by
  cases evaluation_or_hold event with
  | inl evaluation =>
    have ⟨ctx, turns, isEvent⟩ := evaluation
    rw [isEvent]
    cases evaluateFirst_alone ctx turns with
    | inl nothing => exact .inl nothing
    | inr qualified =>
      have ⟨first, clock, runs⟩ := qualified
      exact .inr ⟨ctx, turns, first, clock, rfl, runs⟩
  | inr hold =>
    have same := tierStep_hold none hold
    cases runs : tierStep none event with
    | none => exact .inl rfl
    | some next =>
      rw [runs] at same
      exact same.elim

theorem first_step (stored : tierStep none event = some row) :
    ∃ ctx turns first clock, event = .evaluate ctx turns ∧
      row = FirstQualification.row first clock := by
  cases tierStep_none event with
  | inl nothing =>
    rw [nothing] at stored
    cases stored
  | inr qualified =>
    have ⟨ctx, turns, first, clock, isEvent, runs⟩ := qualified
    rw [runs] at stored
    exact ⟨ctx, turns, first, clock, isEvent, (Option.some.inj stored).symm⟩

theorem sound_sameTier (sound : SoundRow row) (same : SameTier row next) : SoundRow next := by
  have ⟨⟨shape, has⟩, cooldown⟩ := sound
  rw [same]
  exact ⟨⟨shape, by cases shape <;> exact has⟩, cooldown⟩

theorem sound_step (store : TierStore) (event : TierEvent)
    (sound : ∀ row, store = some row → SoundRow row) :
    ∀ row, tierStep store event = some row → SoundRow row := by
  intro next stored
  cases store with
  | none =>
    have ⟨_, _, first, clock, _, isFirst⟩ := first_step stored
    rw [isFirst]
    exact ⟨⟨.eligible, rfl, rfl, rfl⟩, nofun⟩
  | some row =>
    have ⟨final, runs, effect⟩ := tierStep_row row event
    rw [runs] at stored
    cases stored
    cases effect with
    | inl evaluation =>
      have ⟨ctx, turns, _, evaluated⟩ := evaluation
      exact sound_evaluated (sound row rfl) evaluated
    | inr hold => exact sound_sameTier (sound row rfl) hold.2

theorem sound_after (history : List TierEvent) (stored : tierAfter history = some row) :
    SoundRow row := by
  have keeps : ∀ row, tierAfter history = some row → SoundRow row := by
    apply fold_keeps history _ sound_step
    intro row stored
    cases stored
  exact keeps row stored

theorem tierAfter_append (history : List TierEvent) (event : TierEvent) :
    tierAfter (history ++ [event]) = tierStep (tierAfter history) event := by
  simp [tierAfter]

variable {history : List TierEvent}

theorem watched_append (watched : WatchedSince history breachAt)
    (missed : ∀ ctx turns, event = .evaluate ctx turns → ¬FindsIn ctx (tierAfter history)) :
    WatchedSince (history ++ [event]) breachAt := by
  have ⟨early, ctx, turns, since, split, isNow, breaches, unfound⟩ := watched
  refine ⟨early, ctx, turns, since ++ [event], by simp [split], isNow, breaches, ?_⟩
  intro seen other others isPart
  rw [List.prefix_concat_iff] at isPart
  cases isPart with
  | inl whole =>
    have ⟨isSeen, isEvent⟩ := List.append_singleton_inj.mp whole
    rw [isSeen, ← split]
    exact missed other others isEvent.symm
  | inr part => exact unfound seen other others part

theorem watched_after (history : List TierEvent) (stored : tierAfter history = some row)
    (unsuspended : row.lastSuspendAt = none) (breached : row.lastBreachAt = some breachAt) :
    WatchedSince history breachAt := by
  induction history using List.reverseRecOn generalizing row with
  | nil => cases stored
  | append_singleton history event ih =>
    rw [tierAfter_append] at stored
    cases before : tierAfter history with
    | none =>
      rw [before] at stored
      have ⟨_, _, first, clock, _, isFirst⟩ := first_step stored
      rw [isFirst] at breached
      cases breached
    | some held =>
      rw [before] at stored
      have ⟨final, runs, effect⟩ := tierStep_row held event
      rw [runs] at stored
      cases stored
      cases effect with
      | inl evaluation =>
        have ⟨ctx, turns, isEvent, evaluated⟩ := evaluation
        cases grace_evaluated (sound_after history before) evaluated unsuspended breached with
        | inl goesOn =>
          have ⟨free, since, misses⟩ := goesOn
          apply watched_append (ih before free since)
          intro other others same
          rw [isEvent] at same
          cases same
          exact before ▸ misses
        | inr starts =>
          refine ⟨history, ctx, turns, [], by rw [isEvent], starts.1.symm,
            before ▸ starts.2, ?_⟩
          intro seen other others isPart
          simp at isPart
      | inr hold =>
        have ⟨isHold, same⟩ := hold
        rw [same] at unsuspended breached
        apply watched_append (ih before unsuspended breached)
        intro other others isEvaluation
        exact absurd isEvaluation (isHold other others)

theorem quantity_step (row next : TierRow) (event : TierEvent)
    (stored : tierStep (some row) event = some next) :
    (next.qualifyingQuantity = row.qualifyingQuantity ∧ next.tokenKey = row.tokenKey) ∨
      ∃ ctx turns, event = .evaluate ctx turns ∧
        ((row.lastSuspendAt.isSome = true ∧ next.lastSuspendAt = none) ∨
          (row.tokenKey = .hermesos ∧ next.tokenKey = .hivra)) := by
  have ⟨final, runs, effect⟩ := tierStep_row row event
  rw [runs] at stored
  cases stored
  cases effect with
  | inl evaluation =>
    have ⟨ctx, turns, isEvent, evaluated⟩ := evaluation
    cases quantity_evaluated evaluated with
    | inl same => exact .inl same
    | inr granted => exact .inr ⟨ctx, turns, isEvent, granted⟩
  | inr hold =>
    rw [hold.2]
    exact .inl ⟨rfl, rfl⟩

theorem granted_append (granted : GrantedSince history row)
    (stored : tierAfter (history ++ [event]) = some next)
    (same : next.qualifyingQuantity = row.qualifyingQuantity ∧ next.tokenKey = row.tokenKey) :
    GrantedSince (history ++ [event]) next := by
  have ⟨early, ctx, turns, since, split, grant, kept⟩ := granted
  refine ⟨early, ctx, turns, since ++ [event], by simp [split], ?_, ?_⟩
  · rw [same.2]
    exact grant
  · intro seen isPart
    rw [List.prefix_concat_iff] at isPart
    cases isPart with
    | inl whole =>
      refine ⟨next, ?_, rfl, rfl⟩
      rw [← stored, whole, split]
      simp
    | inr part =>
      have ⟨held, isHeld, quantity, token⟩ := kept seen part
      exact ⟨held, isHeld, quantity.trans same.1.symm, token.trans same.2.symm⟩

theorem granted_now {turns : Nat → TierTurn}
    (stored : tierStep (tierAfter history) (.evaluate ctx turns) = some next)
    (grant : tierAfter history = none ∨ Shaped (tierAfter history) .suspended ∨
      ∃ held, tierAfter history = some held ∧ held.tokenKey = .hermesos ∧
        next.tokenKey = .hivra) :
    GrantedSince (history ++ [.evaluate ctx turns]) next := by
  refine ⟨history, ctx, turns, [], rfl, grant, ?_⟩
  intro seen isPart
  rw [List.prefix_nil] at isPart
  rw [isPart]
  exact ⟨next, (tierAfter_append history _).trans stored, rfl, rfl⟩

theorem granted_after (history : List TierEvent) (stored : tierAfter history = some row) :
    GrantedSince history row := by
  induction history using List.reverseRecOn generalizing row with
  | nil => cases stored
  | append_singleton history event ih =>
    have stepped := (tierAfter_append history event).symm.trans stored
    cases before : tierAfter history with
    | none =>
      rw [before] at stepped
      have ⟨ctx, turns, first, clock, isEvent, _⟩ := first_step stepped
      rw [isEvent] at stepped ⊢
      exact granted_now (before ▸ stepped) (.inl before)
    | some held =>
      rw [before] at stepped
      cases quantity_step held row event stepped with
      | inl same => exact granted_append (ih before) stored same
      | inr grants =>
        have ⟨ctx, turns, isEvent, grant⟩ := grants
        rw [isEvent] at stepped ⊢
        apply granted_now (before ▸ stepped)
        cases grant with
        | inl requalified =>
          refine .inr (.inl ⟨held, before, ?_⟩)
          exact (suspended_iff (sound_after history before).shaped).mpr requalified.1
        | inr moved => exact .inr (.inr ⟨held, before, moved⟩)

theorem suspended_step (unsuspended : ¬Shaped (tierAfter history) .suspended)
    (suspended : Shaped (tierStep (tierAfter history) event) .suspended) :
    ∃ ctx turns breachAt, event = .evaluate ctx turns ∧
      breachAt + hours requalificationGraceHours ≤ ctx.now ∧
      WatchedSince history breachAt ∧ ¬FindsIn ctx (tierAfter history) := by
  have ⟨next, stored, has⟩ := suspended
  cases before : tierAfter history with
  | none =>
    rw [before] at stored
    have ⟨_, _, first, clock, _, isFirst⟩ := first_step stored
    rw [isFirst] at has
    cases has.2.1
  | some row =>
    have sound := sound_after history before
    have free : row.lastSuspendAt = none := by
      rw [← Option.not_isSome_iff_eq_none]
      intro since
      exact unsuspended ⟨row, before, (suspended_iff sound.shaped).mpr since⟩
    rw [before] at stored
    have ⟨final, runs, effect⟩ := tierStep_row row event
    rw [runs] at stored
    cases stored
    cases effect with
    | inl evaluation =>
      have ⟨ctx, turns, isEvent, evaluated⟩ := evaluation
      have ⟨breachAt, breached, expired, misses⟩ := suspended_evaluated evaluated free has.2.1
      exact ⟨ctx, turns, breachAt, isEvent, expired,
        watched_after history before free breached, misses⟩
    | inr hold =>
      have since := has.2.1
      rw [hold.2] at since
      simp [free] at since

theorem requalified_step (stored : tierAfter history = some row)
    (suspended : row.hasShape .suspended) (steps : tierStep (some row) event = some next)
    (released : ¬next.hasShape .suspended) :
    ∃ ctx turns, event = .evaluate ctx turns ∧ Requalifies ctx row next ∧
      next.hasShape .eligible := by
  have sound := sound_step (some row) event (fun held same => by
    cases same
    exact sound_after history stored) next steps
  have free : next.lastSuspendAt = none := by
    rw [← Option.not_isSome_iff_eq_none, ← suspended_iff sound.shaped]
    exact released
  have ⟨final, runs, effect⟩ := tierStep_row row event
  rw [runs] at steps
  cases steps
  cases effect with
  | inl evaluation =>
    have ⟨ctx, turns, isEvent, evaluated⟩ := evaluation
    exact ⟨ctx, turns, isEvent, requalified_evaluated evaluated suspended.2.1 free⟩
  | inr hold =>
    rw [hold.2] at free
    have since := suspended.2.1
    simp only at free
    simp [free] at since

/-- After any history a row has one shape, and its cooldown is that of its suspension.
Whatever comes next, the row is suspended only by an evaluation that ends a watched grace,
released only by one that finds its requirement after the cooldown, and given another
amount only by a re-qualification or a move; it is held at the amount of its last grant. -/
theorem graces_watched_and_cooldowns_kept (history : List TierEvent) :
    (∀ row, tierAfter history = some row →
      (∃! shape, row.hasShape shape) ∧
      (∀ suspendAt, row.lastSuspendAt = some suspendAt →
        row.cooldownEndsAt = some (suspendAt + days requalificationCooldownDays)) ∧
      GrantedSince history row) ∧
    (∀ event, ¬Shaped (tierAfter history) .suspended →
      Shaped (tierStep (tierAfter history) event) .suspended →
      ∃ ctx turns breachAt, event = .evaluate ctx turns ∧
        breachAt + hours requalificationGraceHours ≤ ctx.now ∧
        WatchedSince history breachAt ∧ ¬FindsIn ctx (tierAfter history)) ∧
    (∀ event row next, tierAfter history = some row → row.hasShape .suspended →
      tierStep (some row) event = some next → ¬next.hasShape .suspended →
      ∃ ctx turns, event = .evaluate ctx turns ∧ Requalifies ctx row next) ∧
    (∀ event row next, tierAfter history = some row → tierStep (some row) event = some next →
      next.qualifyingQuantity ≠ row.qualifyingQuantity →
      ∃ ctx turns, event = .evaluate ctx turns ∧
        ((row.hasShape .suspended ∧ next.hasShape .eligible) ∨
          (row.tokenKey = .hermesos ∧ next.tokenKey = .hivra))) := by
  refine ⟨?_, ?_, ?_, ?_⟩
  · intro row stored
    have sound := sound_after history stored
    have ⟨shape, has⟩ := sound.shaped
    exact ⟨⟨shape, has, fun _ => shape_unique has⟩, sound.cooldown, granted_after history stored⟩
  · intro event unsuspended suspended
    exact suspended_step unsuspended suspended
  · intro event row next stored suspended steps released
    have ⟨ctx, turns, isEvent, requalifies, _⟩ := requalified_step stored suspended steps released
    exact ⟨ctx, turns, isEvent, requalifies⟩
  · intro event row next stored steps changed
    cases quantity_step row next event steps with
    | inl same => exact absurd same.1 changed
    | inr grants =>
      have ⟨ctx, turns, isEvent, grant⟩ := grants
      refine ⟨ctx, turns, isEvent, ?_⟩
      cases grant with
      | inr moved => exact .inr moved
      | inl released =>
        have shaped := (sound_after history stored).shaped
        have suspended := (suspended_iff shaped).mpr released.1
        have free : ¬next.hasShape .suspended := by
          intro has
          have since := has.2.1
          simp [released.2] at since
        have ⟨_, _, _, _, eligible⟩ := requalified_step stored suspended steps free
        exact .inl ⟨suspended, eligible⟩

end Hivra.TokenTiers
