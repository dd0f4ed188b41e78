import Hivra.TokenTiers.WatchedGrace

/-!
# The row of a converted member

A converted member's $HermesOS row counts either token until it is moved to $HIVRA.  It stays
eligible on a $HIVRA balance that was read; one that was not read counts as none.
-/

namespace Hivra.TokenTiers

open Hivra.Library

/-- A row of `token_grandfather_cohort`, with the $HIVRA threshold locked for the evaluated
tier. -/
structure CohortRow where
  convertedAt : Option Int
  conversionGraceEndsAt : Option Int
  conversionThreshold : Option Threshold

/-- `active` is the phase of $HIVRA. -/
def computeUserTokenAccess (active : Bool) (cohort : Option CohortRow) (now : Int) : TokenAccess :=
  let newcomer (token : PlatformToken) : TokenAccess :=
    { active
      grandfathered := false
      convertedAt := none
      conversionGraceEndsAt := none
      conversionThreshold := none
      allowedTokens := [token]
      qualifyTokens := [token] }
  if active = false then newcomer .hermesos
  else
    match cohort with
    | none => newcomer .hivra
    | some row =>
      let inGrace := row.conversionGraceEndsAt.any fun graceEndsAt => decide (now < graceEndsAt)
      let tokens :=
        if row.convertedAt.isNone then [.hermesos, .hivra]
        else if inGrace then [.hermesos, .hivra]
        else [.hivra]
      { active
        grandfathered := true
        convertedAt := row.convertedAt
        conversionGraceEndsAt := row.conversionGraceEndsAt
        conversionThreshold := row.conversionThreshold
        allowedTokens := tokens
        qualifyTokens := if row.convertedAt.isNone then [.hermesos, .hivra] else [.hivra] }

/-- What a conversion records: its time, the end of its grace and the amount it locks. -/
structure Conversion where
  convertedAt : Int
  graceEndsAt : Int
  locked : Threshold

def Conversion.cohort (conversion : Conversion) : CohortRow :=
  { convertedAt := some conversion.convertedAt
    conversionGraceEndsAt := some conversion.graceEndsAt
    conversionThreshold := some conversion.locked }

variable (conversion : Conversion)

structure HolderEvaluation (ctx : TierContext) : Prop where
  access : ctx.access = computeUserTokenAccess true (some conversion.cohort) ctx.now
  holds : ∀ balance, ctx.balances .hivra = some balance → conversion.locked.amount ≤ balance

/-- Nothing but such evaluations, beside writers of breach holds. -/
def HolderEvent (event : TierEvent) : Prop :=
  ∀ ctx turns, event = .evaluate ctx turns → HolderEvaluation conversion ctx

/-- The $HIVRA balance is read where the row is left in $HermesOS and misses its quantity. -/
def HivraRead (row : TierRow) (event : TierEvent) : Prop :=
  ∀ ctx turns balance, event = .evaluate ctx turns → judgedRow ctx row = some row →
    row.tokenKey = .hermesos → ctx.balances .hermesos = some balance →
    meetsRequiredBalance balance row.qualifyingQuantity = false →
    (ctx.balances .hivra).isSome = true

/-- Prices are positive. -/
def Priced (event : TierEvent) : Prop :=
  ∀ ctx turns current, event = .evaluate ctx turns → ctx.thresholdFor .hivra = some current →
    0 < current.amount

/-- The row after events that follow the conversion. -/
def convertedAfter (row : TierRow) (events : List TierEvent) : TierStore :=
  events.foldl tierStep (some row)

/-- A row in $HIVRA asks for the locked amount at most. -/
def WithinLocked (row : TierRow) : Prop :=
  row.tokenKey = .hivra → row.qualifyingQuantity ≤ conversion.locked.amount

/-- What the holder keeps at one event: no suspension and no breach is recorded, also where one is
on record already; a row in grace is restored where both balances are read; and the row is moved
when that is due and priced. -/
structure TierKept (row next : TierRow) (event : TierEvent) : Prop where
  unsuspended : next.lastSuspendAt = none
  unbreached : next.lastBreachAt = none ∨ next.lastBreachAt = row.lastBreachAt
  restored : ∀ ctx turns, event = .evaluate ctx turns → row.hasShape .grace →
    (∀ token, (ctx.balances token).isSome = true) → next.hasShape .eligible
  moved : ∀ ctx turns, event = .evaluate ctx turns → conversion.graceEndsAt ≤ ctx.now →
    (ctx.thresholdFor .hivra).isSome = true → next.tokenKey = .hivra
  stays : row.tokenKey = .hivra → next.tokenKey = .hivra
  within : WithinLocked conversion next

variable {conversion} {ctx : TierContext} {row judged next : TierRow}

theorem meets_of_le {balance required : Nat} (enough : required ≤ balance) :
    meetsRequiredBalance balance required = true := by
  simp [meetsRequiredBalance, enough]

section

variable (holder : HolderEvaluation conversion ctx)
include holder

theorem holder_move_due (row : TierRow) : moveDue ctx row =
      (row.tokenKey == .hermesos && decide (conversion.graceEndsAt ≤ ctx.now)) := by
  simp [moveDue, TokenAccess.conversionDue, TokenAccess.tierRowTokenCounts, holder.access,
    computeUserTokenAccess, Conversion.cohort]

theorem holder_locked : ctx.access.active = true ∧ ctx.access.convertedAt.isSome = true ∧
      ctx.access.conversionThreshold = some conversion.locked := by
  simp [holder.access, computeUserTokenAccess, Conversion.cohort]

theorem holder_target {current : Threshold} (priced : 0 < current.amount)
    (positive : 0 < conversion.locked.amount) : 0 < (moveTarget ctx.access current).amount ∧
      (moveTarget ctx.access current).amount ≤ conversion.locked.amount := by
  simp only [moveTarget, (holder_locked holder).2.2]
  split
  · exact ⟨positive, le_refl _⟩
  · exact ⟨priced, by omega⟩

theorem holder_judged
    (priced : ∀ current, ctx.thresholdFor .hivra = some current → 0 < current.amount)
    (positive : 0 < conversion.locked.amount) (within : WithinLocked conversion row) :
    ∃ judged, judgedRow ctx row = some judged ∧ WithinLocked conversion judged ∧
      (conversion.graceEndsAt ≤ ctx.now → (ctx.thresholdFor .hivra).isSome = true →
        judged.tokenKey = .hivra) := by
  unfold judgedRow
  rw [holder_move_due holder]
  cases token : row.tokenKey with
  | hivra => exact ⟨row, rfl, within, fun _ _ => token⟩
  | hermesos =>
    by_cases due : conversion.graceEndsAt ≤ ctx.now
    · simp only [due, beq_self_eq_true, decide_true, Bool.and_self, if_true]
      cases price : ctx.thresholdFor .hivra with
      | none => exact ⟨row, rfl, within, fun _ isSome => by cases isSome⟩
      | some current =>
        have ⟨moves, capped⟩ := holder_target holder (priced current price) positive
        simp only [Nat.ne_of_gt moves, if_false]
        exact ⟨_, rfl, fun _ => capped, fun _ _ => rfl⟩
    · simp only [due, decide_false, Bool.and_false, Bool.false_eq_true, if_false]
      exact ⟨row, rfl, within, fun isDue => isDue.elim⟩

theorem holder_meets {turns : Nat → TierTurn} (isJudged : judgedRow ctx row = some judged)
    (within : WithinLocked conversion judged) (read : HivraRead row (.evaluate ctx turns))
    {balance : Nat} (isBalance : ctx.balances judged.tokenKey = some balance) :
    meetsWithEither ctx judged balance = true := by
  cases token : judged.tokenKey with
  | hivra =>
    rw [token] at isBalance
    have enough := (within token).trans (holder.holds balance isBalance)
    simp [meetsWithEither, meets_of_le enough]
  | hermesos =>
    rcases judged_cases isJudged with same | ⟨moved, _⟩
    · subst same
      rw [token] at isBalance
      cases own : meetsRequiredBalance balance judged.qualifyingQuantity with
      | true => simp [meetsWithEither, own]
      | false =>
        have isRead := read ctx turns balance rfl isJudged token isBalance own
        have ⟨hivra, isHivra⟩ := Option.isSome_iff_exists.mp isRead
        have ⟨active, converted, locked⟩ := holder_locked holder
        simp [meetsWithEither, token, active, converted, locked, isHivra,
          meets_of_le (holder.holds hivra isHivra)]
    · rw [moved.target] at token
      cases token

end

theorem judged_keeps (effect : Judged ctx judged next) (free : judged.lastSuspendAt = none)
    (meets : ∀ balance, ctx.balances judged.tokenKey = some balance →
      meetsWithEither ctx judged balance = true) :
    next.lastSuspendAt = none ∧ next.tokenKey = judged.tokenKey ∧
      next.qualifyingQuantity = judged.qualifyingQuantity ∧
      (next.lastBreachAt = none ∨ next.lastBreachAt = judged.lastBreachAt) ∧
      ((ctx.balances judged.tokenKey).isSome = true → next.lastBreachAt = none) := by
  cases effect with
  | kept silent same =>
    have unread : ctx.balances judged.tokenKey = none := by
      apply silent.resolve_right
      simp [free]
    rw [same]
    refine ⟨free, rfl, rfl, .inr rfl, ?_⟩
    intro read
    simp [unread] at read
  | written write stands _ same =>
    rw [same]
    cases write with
    | touch balance now =>
      refine ⟨free, rfl, rfl, .inr rfl, fun _ => ?_⟩
      have ⟨read, _, misses⟩ := stands
      cases breached : judged.lastBreachAt with
      | none => exact breached
      | some breachAt =>
        have short := misses free (by simp [breached])
        rw [meets balance read] at short
        cases short
    | recover balance now => exact ⟨free, rfl, rfl, .inl rfl, fun _ => rfl⟩
    | requalify threshold balance now count windowStart =>
      have suspended := stands.2.2.1
      simp [free] at suspended
    | suspend balance now cooldownEnd =>
      have misses := stands.2.2.2.1
      rw [meets balance stands.1] at misses
      cases misses
    | breach balance now =>
      have misses := stands.2.2.2.2.2
      rw [meets balance stands.1] at misses
      cases misses

theorem holder_step {event : TierEvent} (sound : SoundRow row) (free : row.lastSuspendAt = none)
    (within : WithinLocked conversion row) (positive : 0 < conversion.locked.amount)
    (holder : HolderEvent conversion event) (priced : Priced event) (read : HivraRead row event) :
    ∃ next, tierStep (some row) event = some next ∧ SoundRow next ∧
      TierKept conversion row next event := by
  have ⟨next, steps, effect⟩ := tierStep_row row event
  refine ⟨next, steps, ?_⟩
  rcases effect with ⟨ctx, turns, isEvent, evaluated⟩ | ⟨noEvaluation, same⟩
  · subst isEvent
    have holder := holder ctx turns rfl
    have nextSound := sound_evaluated sound evaluated
    have ⟨judged, isJudged, withinJudged, moves⟩ := holder_judged holder
      (fun current => priced ctx turns current rfl) positive within
    have ⟨other, isOther, effect⟩ : ∃ judged, judgedRow ctx row = some judged ∧
        Judged ctx judged next := by
      rcases evaluated with ⟨refused, _⟩ | evaluated
      · rw [isJudged] at refused
        cases refused
      · exact evaluated
    rw [isJudged] at isOther
    cases isOther
    have freeJudged := (judged_suspendAt isJudged).1.trans free
    have ⟨unsuspended, token, quantity, unbreached, cleared⟩ := judged_keeps effect freeJudged
      fun balance => holder_meets holder isJudged withinJudged read
    refine ⟨nextSound, unsuspended, ?_, ?_, ?_, ?_, ?_⟩
    · rcases judged_cases isJudged with same | ⟨moved, _⟩
      · exact same ▸ unbreached
      · left
        exact unbreached.elim id fun kept => kept.trans (moved.unbreached free)
    · intro _ _ isEvent _ reads
      cases isEvent
      exact eligible_of_no_breach nextSound.shaped unsuspended (cleared (reads _))
    · intro _ _ isEvent due isPriced
      cases isEvent
      exact token.trans (moves due isPriced)
    · intro isHivra
      rw [token]
      rcases judged_cases isJudged with same | ⟨moved, _⟩
      · exact same ▸ isHivra
      · exact moved.target
    · intro isHivra
      rw [quantity]
      exact withinJudged (token.symm.trans isHivra)
  · refine ⟨sound_sameTier sound same, ?_⟩
    rw [same]
    refine ⟨free, .inr rfl, ?_, ?_, id, within⟩
    · intro ctx turns isEvent
      exact absurd isEvent (noEvaluation ctx turns)
    · intro ctx turns isEvent
      exact absurd isEvent (noEvaluation ctx turns)

/-- A holder who converts keeps the tier in every history in which the $HIVRA balance is read
wherever the one of a $HermesOS row falls short. -/
theorem converted_keeps_tier (conversion : Conversion) (row : TierRow) (shaped : row.shaped)
    (free : row.lastSuspendAt = none) (within : WithinLocked conversion row)
    (positive : 0 < conversion.locked.amount) (events : List TierEvent)
    (holder : ∀ event ∈ events, HolderEvent conversion event)
    (priced : ∀ event ∈ events, Priced event)
    (read : ∀ early event held, early ++ [event] <+: events →
      convertedAfter row early = some held → HivraRead held event) :
    ∀ early event, early ++ [event] <+: events →
      ∃ held next, convertedAfter row early = some held ∧
        convertedAfter row (early ++ [event]) = some next ∧
        TierKept conversion held next event := by
  have reached : ∀ early, early <+: events → ∃ held, convertedAfter row early = some held ∧
      SoundRow held ∧ held.lastSuspendAt = none ∧ WithinLocked conversion held := by
    intro early begins
    induction early using List.reverseRecOn with
    | nil =>
      refine ⟨row, rfl, ⟨shaped, ?_⟩, free, within⟩
      intro suspendAt suspended
      rw [free] at suspended
      cases suspended
    | append_singleton early event ih =>
      have ⟨held, isHeld, sound, freeHeld, withinHeld⟩ :=
        ih ((List.prefix_append early [event]).trans begins)
      have member : event ∈ events := begins.subset (by simp)
      have ⟨next, steps, nextSound, kept⟩ := holder_step sound freeHeld withinHeld positive
        (holder event member) (priced event member) (read early event held begins isHeld)
      refine ⟨next, ?_, nextSound, kept.unsuspended, kept.within⟩
      rw [convertedAfter, List.foldl_append]
      exact (congrArg (tierStep · event) isHeld).trans steps
  intro early event begins
  have ⟨held, isHeld, sound, freeHeld, withinHeld⟩ :=
    reached early ((List.prefix_append early [event]).trans begins)
  have member : event ∈ events := begins.subset (by simp)
  have ⟨next, steps, _, kept⟩ := holder_step sound freeHeld withinHeld positive
    (holder event member) (priced event member) (read early event held begins isHeld)
  refine ⟨held, next, isHeld, ?_, kept⟩
  rw [convertedAfter, List.foldl_append]
  exact (congrArg (tierStep · event) isHeld).trans steps

def soldRow : TierRow :=
  FirstQualification.row
    { tokenKey := .hermesos
      threshold := { amount := 100, code := .proLaunch }
      balance := 100
      now := 0
      consumedQuoteId := none } 0

def sampleConversion : Conversion :=
  { convertedAt := 1, graceEndsAt := 10, locked := { amount := 50, code := .proLaunch } }

/-- Nothing is left in $HermesOS. -/
def soldEvaluation (now : Int) (hivra : Option Nat) : TierEvent :=
  .evaluate
    { access := computeUserTokenAccess true (some sampleConversion.cohort) now
      balances := fun token => if token = .hivra then hivra else some 0
      thresholdFor := fun _ => some { amount := 60, code := .proLaunch }
      quote := none
      now
      newQualificationRefused := false }
    fun _ => { fails := false, clock := 0 }

theorem sold_evaluation_holder (now : Int) {hivra : Option Nat} (holds : hivra = none ∨
    hivra = some 50) : HolderEvent sampleConversion (soldEvaluation now hivra) := by
  intro ctx turns isEvent
  cases isEvent
  refine ⟨rfl, ?_⟩
  intro balance isBalance
  rcases holds with none_ | some_
  · subst none_
    cases isBalance
  · subst some_
    cases isBalance
    exact le_refl 50

theorem sold_evaluation_priced (now : Int) (hivra : Option Nat) :
    Priced (soldEvaluation now hivra) := by
  intro ctx turns current isEvent isPrice
  cases isEvent
  cases isPrice
  decide

theorem sold_row_keeps_tier : soldRow.tokenKey = .hermesos ∧
    ∀ early event, early ++ [event] <+: [soldEvaluation 5 (some 50), soldEvaluation 12 (some 50)] →
      ∃ held next, convertedAfter soldRow early = some held ∧
        convertedAfter soldRow (early ++ [event]) = some next ∧
        TierKept sampleConversion held next event := by
  apply And.intro rfl
  apply converted_keeps_tier sampleConversion soldRow (by decide) rfl (fun isHivra => by
    cases isHivra) (by decide)
  · intro event member
    rcases List.mem_pair.mp member with same | same <;>
      exact same ▸ sold_evaluation_holder _ (.inr rfl)
  · intro event member
    rcases List.mem_pair.mp member with same | same <;> exact same ▸ sold_evaluation_priced _ _
  · intro early event held begins _ ctx turns balance isEvent _ _ _ _
    have member : event ∈ [soldEvaluation 5 (some 50), soldEvaluation 12 (some 50)] :=
      begins.subset (by simp)
    rcases List.mem_pair.mp member with same | same <;>
      (rw [same] at isEvent; cases isEvent; rfl)

/-- In the grace of the conversion the $HIVRA balance is not read. -/
theorem unread_hivra_breaches :
    ¬∀ (conversion : Conversion) (row : TierRow) (events : List TierEvent),
      row.tokenKey = .hermesos → row.hasShape .eligible → 0 < conversion.locked.amount →
      (events.filterMap TierEvent.time?).Pairwise (· ≤ ·) →
      (∀ event ∈ events, HolderEvent conversion event) → (∀ event ∈ events, Priced event) →
      ∀ next, convertedAfter row events = some next → next.lastBreachAt = none := by
  intro keeps
  have breached : (convertedAfter soldRow [soldEvaluation 5 none]).bind TierRow.lastBreachAt =
      some 5 := by decide +kernel
  have ⟨next, isNext, at_⟩ := Option.bind_eq_some_iff.mp breached
  have kept := keeps sampleConversion soldRow [soldEvaluation 5 none] rfl ⟨rfl, rfl, rfl⟩
    (by decide) (by decide)
    (fun event member => List.mem_singleton.mp member ▸ sold_evaluation_holder 5 (.inl rfl))
    (fun event member => List.mem_singleton.mp member ▸ sold_evaluation_priced 5 none) next isNext
  rw [at_] at kept
  cases kept

end Hivra.TokenTiers
