import Hivra.TokenTiers.WatchedGrace

/-!
# Re-qualifications of a year

The cap is kept with one count and the start of one window, which is opened anew by the first
re-qualification after its year.  The last re-qualification of a window and the two of the next
one may lie within one year.
-/

namespace Hivra.TokenTiers

open Hivra.Library

def year : Int := days requalificationWindowDays

def isSuspended (store : TierStore) : Bool := store.any fun row => row.lastSuspendAt.isSome

structure CapRun where
  store : TierStore
  requalifiedAt : List Int

/-- An evaluation re-qualifies a suspended row if it leaves the row unsuspended. -/
def CapRun.step (run : CapRun) (event : TierEvent) : CapRun :=
  { store := tierStep run.store event
    requalifiedAt :=
      match event with
      | .evaluate ctx _ =>
        if isSuspended run.store && !isSuspended (tierStep run.store event) then
          ctx.now :: run.requalifiedAt
        else run.requalifiedAt
      | _ => run.requalifiedAt }

def capRun (history : List TierEvent) : CapRun :=
  history.foldl CapRun.step { store := none, requalifiedAt := [] }

/-- At most two in every year. -/
def WithinCap (times : List Int) : Prop :=
  ∀ start, (times.filter fun time => decide (start ≤ time ∧ time < start + year)).length ≤
    requalificationCapPerYear

def RequalificationDue (ctx : TierContext) (row : TierRow) : Prop :=
  ∃ judged balance threshold, judgedRow ctx row = some judged ∧
    ctx.balances judged.tokenKey = some balance ∧
    currentRequirement ctx judged.tokenKey = some threshold ∧ 0 < threshold.amount ∧
    meetsRequiredBalance balance threshold.amount = true ∧
    ∀ cooldownEndsAt, row.cooldownEndsAt = some cooldownEndsAt → cooldownEndsAt ≤ ctx.now

def SpacedStep (run : CapRun) (event : TierEvent) : Prop :=
  ∀ ctx turns row windowStart first last earlier, event = .evaluate ctx turns →
    run.store = some row → row.lastSuspendAt.isSome = true → RequalificationDue ctx row →
    nextRequalificationWindow row ctx.now = some (2, windowStart) →
    run.requalifiedAt = first :: last :: earlier → last + year ≤ ctx.now

/-- The time before the last is a year before `now`. -/
def YearApart (times : List Int) (now : Int) : Prop :=
  ∀ first last earlier, times = first :: last :: earlier → last + year ≤ now

theorem within_cap_cons {times : List Int} {now : Int}
    (sorted : (now :: times).Pairwise fun later earlier => earlier ≤ later) :
    WithinCap (now :: times) ↔ WithinCap times ∧ YearApart times now := by
  constructor
  · intro within
    constructor
    · intro start
      have whole := within start
      rw [List.filter_cons] at whole
      split at whole
      · rw [List.length_cons] at whole
        omega
      · exact whole
    · intro first last earlier same
      by_contra close
      have counted := within last
      rw [same] at sorted counted
      have ⟨below, rest⟩ := List.pairwise_cons.mp sorted
      have firstBelow := below first List.mem_cons_self
      have lastBelow := (List.pairwise_cons.mp rest).1 last List.mem_cons_self
      have inside (time : Int) (low : last ≤ time) (high : time ≤ now) :
          (decide (last ≤ time ∧ time < last + year)) = true := by
        simp only [decide_eq_true_eq]
        omega
      simp only [List.filter_cons, inside now (by omega) (Int.le_refl _),
        inside first lastBelow firstBelow, inside last (Int.le_refl _) (by omega), if_true,
        List.length_cons, requalificationCapPerYear] at counted
      omega
  · rintro ⟨within, apart⟩ start
    rw [List.filter_cons]
    split
    · rename_i held
      simp only [decide_eq_true_eq] at held
      -- of the times before only the latest can be in the interval
      cases times with
      | nil => simp [requalificationCapPerYear]
      | cons first times =>
        have outside : times.filter (fun time =>
            decide (start ≤ time ∧ time < start + year)) = [] := by
          rw [List.filter_eq_nil_iff]
          intro time member
          cases times with
          | nil => cases member
          | cons last earlier =>
            have far := apart first last earlier rfl
            have descends := (List.pairwise_cons.mp sorted).2
            have older := (List.pairwise_cons.mp descends).2
            have below : time ≤ last := by
              rcases List.mem_cons.mp member with own | other
              · exact own ▸ Int.le_refl last
              · exact (List.pairwise_cons.mp older).1 time other
            simp only [decide_eq_true_eq]
            omega
        rw [List.filter_cons, outside]
        split <;> simp [requalificationCapPerYear]
    · exact within start

variable {ctx : TierContext} {row judged next : TierRow}

theorem judged_window (isJudged : judgedRow ctx row = some judged) :
    judged.requalificationCount = row.requalificationCount ∧
      judged.requalificationWindowStart = row.requalificationWindowStart := by
  rcases judged_cases isJudged with same | ⟨_, current, same⟩
  · rw [same]
    exact ⟨rfl, rfl⟩
  · rw [same]
    exact ⟨rfl, rfl⟩

theorem next_window_congr (sameCount : judged.requalificationCount = row.requalificationCount)
    (sameStart : judged.requalificationWindowStart = row.requalificationWindowStart) (now : Int) :
    nextRequalificationWindow judged now = nextRequalificationWindow row now := by
  unfold nextRequalificationWindow
  rw [sameCount, sameStart]

inductive WindowStep (row next : TierRow) (event : TierEvent) : Prop
  | requalified (ctx : TierContext) (turns : Nat → TierTurn) (windowStart : Int)
      (isEvent : event = .evaluate ctx turns) (suspended : row.lastSuspendAt.isSome = true)
      (freed : next.lastSuspendAt = none) (due : RequalificationDue ctx row)
      (window : nextRequalificationWindow row ctx.now =
        some (next.requalificationCount, windowStart))
      (started : next.requalificationWindowStart = some windowStart)
  | kept (stays : row.lastSuspendAt.isSome = true → next.lastSuspendAt.isSome = true)
      (count : next.requalificationCount = row.requalificationCount)
      (started : next.requalificationWindowStart = row.requalificationWindowStart)

theorem window_step (event : TierEvent) :
    ∃ next, tierStep (some row) event = some next ∧ WindowStep row next event := by
  have ⟨next, steps, effect⟩ := tierStep_row row event
  apply Exists.intro next
  apply And.intro steps
  rcases effect with ⟨ctx, turns, isEvent, evaluated⟩ | ⟨_, same⟩
  · rcases evaluated with ⟨_, same⟩ | ⟨judged, isJudged, effect⟩
    · rw [same]
      exact .kept id rfl rfl
    · have ⟨sameCount, sameStart⟩ := judged_window isJudged
      have ⟨sameSuspend, sameCooldown⟩ := judged_suspendAt isJudged
      cases effect with
      | kept silent same =>
        rw [same]
        exact .kept (by simp [sameSuspend]) sameCount sameStart
      | written write stands checks same =>
        rw [same]
        cases write with
        | requalify threshold balance now count windowStart =>
          have ⟨read, isNow, suspended, window, required, meets, cooled⟩ := stands
          rw [next_window_congr sameCount sameStart, isNow] at window
          rw [sameCooldown, isNow] at cooled
          have due : RequalificationDue ctx row :=
            ⟨judged, balance, threshold, isJudged, read, required, of_decide_eq_true checks,
              meets, cooled⟩
          exact .requalified ctx turns windowStart isEvent (sameSuspend ▸ suspended) rfl due
            window rfl
        | suspend balance now cooldownEnd => exact .kept (fun _ => rfl) sameCount sameStart
        | touch balance now | recover balance now | breach balance now =>
          exact .kept (by simp [RowWrite.apply, sameSuspend]) sameCount sameStart
  · rw [same]
    exact .kept id rfl rfl

/-- What is due, with the cap not reached, is done. -/
theorem requalifies {turns : Nat → TierTurn} {window : Nat × Int}
    (suspended : row.lastSuspendAt.isSome = true) (due : RequalificationDue ctx row)
    (isWindow : nextRequalificationWindow row ctx.now = some window) :
    isSuspended (tierStep (some row) (.evaluate ctx turns)) = false := by
  have ⟨judged, balance, threshold, isJudged, read, required, positive, meets, cooled⟩ := due
  have ⟨stored, moved, warnings, later, _, runs⟩ := evaluateTier_judged isJudged turns
  have ⟨sameSuspend, sameCooldown⟩ := judged_suspendAt isJudged
  have ⟨sameCount, sameStart⟩ := judged_window isJudged
  rw [← next_window_congr sameCount sameStart] at isWindow
  rw [← sameSuspend] at suspended
  rw [← sameCooldown] at cooled
  have ⟨suspendAt, isSuspendAt⟩ := Option.isSome_iff_exists.mp suspended
  have cooled : judged.cooldownEndsAt.any (fun cooldownEndsAt =>
      decide (ctx.now < cooldownEndsAt)) = false := by
    cases ends : judged.cooldownEndsAt with
    | none => rfl
    | some cooldownEndsAt => simpa using cooled cooldownEndsAt ends
  rw [tierStep, runs]
  simp [evaluateRow, read, isSuspendAt, evaluateSuspended, required, meets, cooled, isWindow,
    updateRow, statement, performWell, performTier, TierStatement.execute,
    TierStatement.forgiven, RowWrite.checks, positive, quiet_consume, isSuspended,
    RowWrite.apply]

/-- The window on record was opened by the last time, or by the one before it, a year or more
after the last but one before it. -/
inductive WindowAgrees : TierStore → List Int → Prop
  | unqualified : WindowAgrees none []
  | unopened (row : TierRow) (start : row.requalificationWindowStart = none) :
      WindowAgrees (some row) []
  | once (row : TierRow) (first : Int) (earlier : List Int)
      (count : row.requalificationCount = 1)
      (start : row.requalificationWindowStart = some first) (apart : YearApart earlier first) :
      WindowAgrees (some row) (first :: earlier)
  | twice (row : TierRow) (second first : Int) (earlier : List Int)
      (count : row.requalificationCount = 2)
      (start : row.requalificationWindowStart = some first) (apart : YearApart earlier first) :
      WindowAgrees (some row) (second :: first :: earlier)

theorem window_agrees_requalified {times : List Int} {now windowStart : Int}
    (agrees : WindowAgrees (some row) times)
    (sorted : times.Pairwise fun later earlier => earlier ≤ later)
    (window : nextRequalificationWindow row now = some (next.requalificationCount, windowStart))
    (started : next.requalificationWindowStart = some windowStart)
    (spaced : nextRequalificationWindow row now = some (2, windowStart) → YearApart times now) :
    YearApart times now ∧ WindowAgrees (some next) (now :: times) := by
  unfold nextRequalificationWindow at window spaced
  cases agrees with
  | unopened _ start =>
    simp only [start, Option.some.injEq, Prod.mk.injEq] at window
    have apart : YearApart [] now := by
      intro first last earlier same
      cases same
    exact ⟨apart, .once next now [] window.1.symm (window.2 ▸ started) apart⟩
  | once _ first earlier count start apart =>
    simp only [start, count] at window spaced
    split at window
    · -- the year of the window is over
      rename_i elapsed
      simp only [Option.some.injEq, Prod.mk.injEq] at window
      have far : YearApart (first :: earlier) now := by
        intro _ last older same
        cases same
        have below := (List.pairwise_cons.mp sorted).1 last List.mem_cons_self
        have elapsed : first + year ≤ now := elapsed
        omega
      exact ⟨far, .once next now _ window.1.symm (window.2 ▸ started) far⟩
    · rename_i open_
      simp only [requalificationCapPerYear, if_neg open_] at window spaced
      simp only [Nat.reduceLeDiff, if_false, Option.some.injEq, Prod.mk.injEq] at window spaced
      exact ⟨spaced ⟨trivial, window.2⟩,
        .twice next now first earlier window.1.symm (window.2 ▸ started) apart⟩
  | twice _ second first earlier count start apart =>
    simp only [start, count] at window
    split at window
    · rename_i elapsed
      simp only [Option.some.injEq, Prod.mk.injEq] at window
      have far : YearApart (second :: first :: earlier) now := by
        intro _ last older same
        cases same
        exact elapsed
      exact ⟨far, .once next now _ window.1.symm (window.2 ▸ started) far⟩
    · simp [requalificationCapPerYear] at window

theorem window_agrees_kept {times : List Int} (agrees : WindowAgrees (some row) times)
    (sameCount : next.requalificationCount = row.requalificationCount)
    (sameStart : next.requalificationWindowStart = row.requalificationWindowStart) :
    WindowAgrees (some next) times := by
  cases agrees with
  | unopened _ start => exact .unopened next (sameStart.trans start)
  | once _ first earlier count start apart =>
    exact .once next first earlier (sameCount.trans count) (sameStart.trans start) apart
  | twice _ second first earlier count start apart =>
    exact .twice next second first earlier (sameCount.trans count) (sameStart.trans start) apart

variable {run : CapRun} {event : TierEvent}

theorem step_times (run : CapRun) (event : TierEvent) :
    (run.step event).requalifiedAt = run.requalifiedAt ∨
      ∃ now, event.time? = some now ∧
        (run.step event).requalifiedAt = now :: run.requalifiedAt := by
  cases event with
  | evaluate ctx turns =>
    simp only [CapRun.step]
    split
    · exact .inr ⟨ctx.now, rfl, rfl⟩
    · exact .inl rfl
  | holdBreaches hold now turns | clearHold holdId turns => exact .inl rfl

theorem step_times_kept
    (stays : isSuspended run.store = true → isSuspended (tierStep run.store event) = true) :
    (run.step event).requalifiedAt = run.requalifiedAt := by
  cases event with
  | evaluate ctx turns =>
    simp only [CapRun.step]
    split
    · rename_i freed
      simp only [Bool.and_eq_true, Bool.not_eq_true'] at freed
      rw [stays freed.1] at freed
      cases freed.2
    · rfl
  | holdBreaches hold now turns | clearHold holdId turns => rfl

theorem step_within
    (sorted : (run.step event).requalifiedAt.Pairwise fun later earlier => earlier ≤ later)
    (agrees : WindowAgrees run.store run.requalifiedAt) :
    (WithinCap (run.step event).requalifiedAt ↔
        WithinCap run.requalifiedAt ∧ SpacedStep run event) ∧
      (SpacedStep run event →
        WindowAgrees (run.step event).store (run.step event).requalifiedAt) := by
  have isStore : (run.step event).store = tierStep run.store event := rfl
  cases held : run.store with
  | none =>
    rw [held] at agrees isStore
    have same : (run.step event).requalifiedAt = run.requalifiedAt :=
      step_times_kept (by simp [held, isSuspended])
    have spaced : SpacedStep run event := by
      intro ctx turns row _ _ _ _ _ isRow
      rw [held] at isRow
      cases isRow
    rw [same, isStore]
    refine ⟨⟨fun within => ⟨within, spaced⟩, And.left⟩, fun _ => ?_⟩
    generalize run.requalifiedAt = times at agrees
    cases agrees
    obtain nothing | ⟨ctx, turns, first, clock, _, qualified⟩ := tierStep_none event
    · rw [nothing]
      exact .unqualified
    · rw [qualified]
      exact .unopened _ rfl
  | some row =>
    rw [held] at agrees isStore
    have ⟨next, steps, step⟩ := @window_step row event
    rw [steps] at isStore
    rw [isStore]
    cases step with
    | requalified ctx turns windowStart isEvent suspended freed due window started =>
      subst isEvent
      have times : (run.step (.evaluate ctx turns)).requalifiedAt =
          ctx.now :: run.requalifiedAt := by
        simp only [CapRun.step, held, steps]
        simp [isSuspended, suspended, freed]
      rw [times] at sorted ⊢
      have cons := within_cap_cons sorted
      have follows (spaced : SpacedStep run (.evaluate ctx turns)) :=
        window_agrees_requalified agrees (List.pairwise_cons.mp sorted).2 window started
          fun second first last earlier => spaced ctx turns row windowStart first last earlier rfl
            held suspended due second
      constructor
      · constructor
        · intro within
          have ⟨before, apart⟩ := cons.mp within
          apply And.intro before
          intro other _ _ _ first last earlier isEvent _ _ _ _ same
          cases isEvent
          exact apart first last earlier same
        · intro ⟨before, spaced⟩
          exact cons.mpr ⟨before, (follows spaced).1⟩
      · intro spaced
        exact (follows spaced).2
    | kept stays sameCount sameStart =>
      have same : (run.step event).requalifiedAt = run.requalifiedAt := by
        apply step_times_kept
        rw [held, steps]
        exact stays
      have spaced : SpacedStep run event := by
        intro ctx turns other windowStart _ _ _ isEvent isRow suspended due window
        rw [held] at isRow
        cases isRow
        subst isEvent
        have freed : isSuspended (tierStep (some row) (.evaluate ctx turns)) = false :=
          requalifies suspended due window
        rw [steps] at freed
        exact absurd (stays suspended) (Bool.eq_false_iff.mp freed)
      rw [same]
      exact ⟨⟨fun within => ⟨within, spaced⟩, And.left⟩,
        fun _ => window_agrees_kept agrees sameCount sameStart⟩

theorem capRun_snoc (history : List TierEvent) (event : TierEvent) :
    capRun (history ++ [event]) = (capRun history).step event := by
  simp [capRun]

theorem times_sublist (history : List TierEvent) :
    (capRun history).requalifiedAt.Sublist (history.filterMap TierEvent.time?).reverse := by
  induction history using List.reverseRecOn with
  | nil => exact List.nil_sublist _
  | append_singleton history event ih =>
    rw [capRun_snoc, List.filterMap_append, List.reverse_append]
    obtain same | ⟨now, isTime, added⟩ := step_times (capRun history) event
    · rw [same]
      exact ih.trans (List.sublist_append_right _ _)
    · rw [added]
      simpa [isTime] using ih

theorem times_sorted {history : List TierEvent}
    (ordered : (history.filterMap TierEvent.time?).Pairwise (· ≤ ·)) :
    (capRun history).requalifiedAt.Pairwise fun later earlier => earlier ≤ later :=
  (List.pairwise_reverse.mpr ordered).sublist (times_sublist history)

def SpacedRun (history : List TierEvent) : Prop :=
  ∀ early event, early ++ [event] <+: history → SpacedStep (capRun early) event

theorem spaced_run_snoc (history : List TierEvent) (event : TierEvent) :
    SpacedRun (history ++ [event]) ↔ SpacedRun history ∧ SpacedStep (capRun history) event := by
  constructor
  · intro spaced
    constructor
    · intro early other begins
      exact spaced early other (begins.trans (List.prefix_append history [event]))
    · exact spaced history event List.prefix_rfl
  · rintro ⟨spaced, last⟩ early other begins
    obtain whole | before := List.prefix_concat_iff.mp begins
    · have ⟨same, isLast⟩ := List.append_inj' whole rfl
      cases isLast
      exact same ▸ last
    · exact spaced early other before

def dayEvaluation (day : Int) (balance : Nat) : TierEvent :=
  .evaluate
    { access :=
        { active := false
          grandfathered := true
          convertedAt := none
          conversionGraceEndsAt := none
          conversionThreshold := none
          allowedTokens := [.hermesos]
          qualifyTokens := [.hermesos] }
      balances := fun token => if token = .hermesos then some balance else none
      thresholdFor := fun _ => some { amount := 100, code := .proLaunch }
      quote := none
      now := days day
      newQualificationRefused := false }
    fun _ => { fails := false, clock := 0 }

/-- Re-qualified on the days 9, 368, 377 and 386; the window of day 9 ends on day 374. -/
def fourRequalifications : List TierEvent :=
  [dayEvaluation 0 100, dayEvaluation 1 0, dayEvaluation 2 0, dayEvaluation 9 100,
    dayEvaluation 360 0, dayEvaluation 361 0, dayEvaluation 368 100,
    dayEvaluation 369 0, dayEvaluation 370 0, dayEvaluation 377 100,
    dayEvaluation 378 0, dayEvaluation 379 0, dayEvaluation 386 100]

theorem four_requalifications_ordered :
    (fourRequalifications.filterMap TierEvent.time?).Pairwise (· ≤ ·) := by decide

end Hivra.TokenTiers
