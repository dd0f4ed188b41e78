import Mathlib.Data.List.Chain

/-!
# The gate of a system update

A system update waits for a running turn, but not for ever: a file keeps the streak of deferrals of
one computer and one trigger, and a streak that is long or old enough lets the update proceed.

Times are readings of the computer's clock, in seconds; the clock may be set back.
-/

namespace Hivra.LiveUpdates

inductive Verdict
  | idle
  | busy
  | unknown
  deriving DecidableEq

inductive OnUnknown
  | defer
  | proceed
  deriving DecidableEq

/-- Why the probe came to its verdict. -/
inductive ProbeReason
  | noTurnInFlight
  | agentNotRunning
  | inFlightTurn
  | turnStateUnknown
  deriving DecidableEq

inductive GateReason
  | probe (reason : ProbeReason)
  | deferralCap
  | deferralStateUnwritable
  deriving DecidableEq

inductive GateAction
  | proceed
  | defer
  deriving DecidableEq

inductive SystemLiveUpdateTrigger
  | fleetSync
  | pendingResizeSweep
  | unhealthyRecovery

structure SystemUpdateDeferralPolicy where
  streakExpirySeconds : Nat
  maxDeferrals : Nat
  maxDeferSeconds : Nat
  onUnknown : OnUnknown

def hour : Nat := 60 * 60

def systemUpdateDeferralPolicy : SystemLiveUpdateTrigger → SystemUpdateDeferralPolicy
  | .fleetSync =>
    { streakExpirySeconds := 36 * hour
      maxDeferrals := 2
      maxDeferSeconds := 48 * hour
      onUnknown := .defer }
  | .pendingResizeSweep =>
    { streakExpirySeconds := hour
      maxDeferrals := 24
      maxDeferSeconds := 6 * hour
      onUnknown := .defer }
  | .unhealthyRecovery =>
    { streakExpirySeconds := hour
      maxDeferrals := 4
      maxDeferSeconds := hour
      onUnknown := .proceed }

/-- The fields of the streak file. -/
structure Streak where
  first : Nat
  last : Nat
  count : Nat

structure Activity where
  verdict : Verdict
  reason : ProbeReason
  liveTurns : Nat
  unreadableMarkers : Nat
  gatewayActive : Nat
  gatewayUnknown : Nat

/-- What one run of the script meets. -/
structure GateRun where
  activity : Activity
  now : Nat
  /-- The new streak can be written and moved to its place. -/
  writable : Bool

structure GateReport where
  action : GateAction
  activity : Activity
  reason : GateReason
  trigger : SystemLiveUpdateTrigger
  deferrals : Nat
  streakSeconds : Nat

/-- The streak a run counts on: a new one without a file or after the expiry.  A stamp in the
future counts as now. -/
def currentStreak (policy : SystemUpdateDeferralPolicy) (now : Nat) (file : Option Streak) :
    Streak :=
  let streak := file.getD { first := now, last := now, count := 0 }
  let first := min streak.first now
  let last := min streak.last now
  if 0 < streak.count ∧ policy.streakExpirySeconds < now - last then
    { first := now, last, count := 0 }
  else { first, last, count := streak.count }

/-- The report, and the file that is left. -/
def runGate (trigger : SystemLiveUpdateTrigger) (policy : SystemUpdateDeferralPolicy)
    (file : Option Streak)
    (run : GateRun) : GateReport × Option Streak :=
  let report (action : GateAction) (reason : GateReason) (deferrals streakSeconds : Nat) :
      GateReport :=
    { action, activity := run.activity, reason, trigger, deferrals, streakSeconds }
  let verdict := run.activity.verdict
  let reason := GateReason.probe run.activity.reason
  if verdict = .idle then (report .proceed reason 0 0, none)
  else if verdict = .unknown ∧ policy.onUnknown = .proceed then (report .proceed reason 0 0, none)
  else
    let streak := currentStreak policy run.now file
    let age := run.now - streak.first
    if policy.maxDeferrals ≤ streak.count ∨ policy.maxDeferSeconds ≤ age then
      (report .proceed .deferralCap streak.count age, none)
    else if run.writable then
      (report .defer reason (streak.count + 1) age,
        some { first := streak.first, last := run.now, count := streak.count + 1 })
    else (report .proceed .deferralStateUnwritable (streak.count + 1) age, file)

inductive GateEvent
  | run (run : GateRun)
  | clear

/-- The file, and the readings at which runs deferred since the last proceed or clear, the latest
first. -/
structure GateWorld where
  file : Option Streak
  since : List Nat

variable (trigger : SystemLiveUpdateTrigger) (policy : SystemUpdateDeferralPolicy)

def GateWorld.step (world : GateWorld) : GateEvent → GateWorld
  | .run run =>
    let (report, file) := runGate trigger policy world.file run
    { file, since := if report.action = .defer then run.now :: world.since else [] }
  | .clear => { file := none, since := [] }

def gateAfter (history : List GateEvent) : GateWorld :=
  history.foldl (GateWorld.step trigger policy) { file := none, since := [] }

/-- The report of a run after the events. -/
def reportAfter (history : List GateEvent) (run : GateRun) : GateReport :=
  (runGate trigger policy (gateAfter trigger policy history).file run).1

/-- The final stretch of the readings: each within the expiry of the one before. -/
def finalStretch (expiry : Nat) : List Nat → List Nat
  | [] => []
  | [only] => [only]
  | last :: before :: earlier =>
    if last - before ≤ expiry then last :: finalStretch expiry (before :: earlier) else [last]

/-- The earliest of the readings and the present one. -/
def beginOf (now : Nat) (readings : List Nat) : Nat := readings.foldr min now

/-- The clock moves by at most the expiry from each run to the next, in either direction. -/
def Steady (runs : List GateRun) : Prop :=
  runs.IsChain fun before after =>
    after.now ≤ before.now + policy.streakExpirySeconds ∧
      before.now ≤ after.now + policy.streakExpirySeconds

/-- Every run of the stretch defers. -/
def AllDefer (early : List GateEvent) (runs : List GateRun) : Prop :=
  ∀ before run after, runs = before ++ run :: after →
    (reportAfter trigger policy (early ++ before.map .run) run).action = .defer

variable {trigger policy} {file : Option Streak} {run : GateRun} {early : List GateEvent}

theorem gateAfter_snoc (history : List GateEvent) (event : GateEvent) :
    gateAfter trigger policy (history ++ [event]) =
      (gateAfter trigger policy history).step trigger policy event := by
  simp [gateAfter]

/-- A run that defers has a streak below the cap, which it extends. -/
theorem run_defers (defers : (runGate trigger policy file run).1.action = .defer) :
    (currentStreak policy run.now file).count < policy.maxDeferrals ∧
      (runGate trigger policy file run).2 =
        some
          { first := (currentStreak policy run.now file).first
            last := run.now
            count := (currentStreak policy run.now file).count + 1 } := by
  unfold runGate at defers ⊢
  dsimp only at defers ⊢
  split at defers
  · cases defers
  · rename_i notIdle
    rw [if_neg notIdle]
    split at defers
    · cases defers
    · rename_i known
      rw [if_neg known]
      split at defers
      · cases defers
      · rename_i below
        rw [if_neg below]
        split at defers
        · rename_i writable
          rw [if_pos writable]
          exact ⟨by omega, rfl⟩
        · cases defers

/-- A run that does not defer leaves no streak, unless it could not write one. -/
theorem run_proceeds (proceeds : (runGate trigger policy file run).1.action ≠ .defer)
    (writable : run.writable = true) : (runGate trigger policy file run).2 = none := by
  unfold runGate at proceeds ⊢
  dsimp only at proceeds ⊢
  split
  · rfl
  · split
    · rfl
    · split
      · rfl
      · rename_i notIdle known below
        rw [if_neg notIdle, if_neg known, if_neg below, if_pos writable] at proceeds
        exact absurd rfl proceeds

theorem run_capped (capped : (runGate trigger policy file run).1.reason = .deferralCap) :
    (policy.maxDeferrals ≤ (currentStreak policy run.now file).count ∨
        policy.maxDeferSeconds ≤ run.now - (currentStreak policy run.now file).first) ∧
      (runGate trigger policy file run).1.deferrals = (currentStreak policy run.now file).count ∧
      (runGate trigger policy file run).1.streakSeconds =
        run.now - (currentStreak policy run.now file).first := by
  unfold runGate at capped ⊢
  dsimp only at capped ⊢
  split at capped
  · cases capped
  · rename_i notIdle
    rw [if_neg notIdle]
    split at capped
    · cases capped
    · rename_i known
      rw [if_neg known]
      split at capped
      · rename_i reached
        rw [if_pos reached]
        exact ⟨reached, rfl, rfl⟩
      · split at capped <;> cases capped

/-- The streak on file is at least as long as the stretch, and not above the cap. -/
theorem stretch_within_cap {runs : List GateRun} (steady : Steady policy runs)
    (defer : AllDefer trigger policy early runs) : ∀ last, runs.getLast? = some last → ∃ streak,
      (gateAfter trigger policy (early ++ runs.map .run)).file = some streak ∧
        streak.last = last.now ∧ runs.length ≤ streak.count ∧
        streak.count ≤ policy.maxDeferrals := by
  induction runs using List.reverseRecOn with
  | nil =>
    intro last isLast
    cases isLast
  | append_singleton runs run ih =>
    intro last isLast
    rw [List.getLast?_concat, Option.some.injEq] at isLast
    subst isLast
    have ⟨below, written⟩ := run_defers (defer runs run [] rfl)
    have file : (gateAfter trigger policy (early ++ (runs ++ [run]).map .run)).file =
        (runGate trigger policy (gateAfter trigger policy (early ++ runs.map .run)).file run).2 := by
      rw [List.map_append, ← List.append_assoc]
      exact congrArg GateWorld.file (gateAfter_snoc _ _)
    rw [file, written]
    refine ⟨_, rfl, rfl, ?_, below⟩
    rw [List.length_append, List.length_singleton]
    apply Nat.succ_le_succ
    cases before : runs.getLast? with
    | none => simp [List.getLast?_eq_none_iff.mp before]
    | some previous =>
      have ⟨others, split⟩ := List.getLast?_eq_some_iff.mp before
      have ⟨streak, isFile, isLast, long, _⟩ := ih
        (List.isChain_append.mp steady).1
        (fun before between after same => defer before between (after ++ [run]) (by simp [same]))
        previous before
      have near := (List.isChain_append.mp steady).2.2 previous (by simp [before]) run (by simp)
      rw [isFile, currentStreak]
      dsimp only [Option.getD_some]
      rw [if_neg (by omega)]
      exact long

/-- The file holds the final stretch of the deferrals. -/
inductive FileAgrees (policy : SystemUpdateDeferralPolicy) : GateWorld → Prop
  | unstarted : FileAgrees policy { file := none, since := [] }
  | streak (streak : Streak) (last : Nat) (earlier : List Nat) (isLast : streak.last = last)
      (count : streak.count = (finalStretch policy.streakExpirySeconds (last :: earlier)).length)
      (first : ∀ now, min streak.first now =
        beginOf now (finalStretch policy.streakExpirySeconds (last :: earlier))) :
      FileAgrees policy { file := some streak, since := last :: earlier }

theorem stretch_positive (expiry last : Nat) (earlier : List Nat) :
    0 < (finalStretch expiry (last :: earlier)).length := by
  cases earlier with
  | nil => exact Nat.one_pos
  | cons before earlier =>
    unfold finalStretch
    split <;> simp

theorem file_agrees_step {world : GateWorld} (agrees : FileAgrees policy world) (event : GateEvent)
    (writable : ∀ run, event = .run run → run.writable = true) :
    FileAgrees policy (world.step trigger policy event) := by
  cases event with
  | clear => exact .unstarted
  | run run =>
    rw [GateWorld.step]
    by_cases defers : (runGate trigger policy world.file run).1.action = .defer
    · have ⟨_, written⟩ := run_defers defers
      simp only [defers, written, if_true]
      cases agrees with
      | unstarted =>
        apply FileAgrees.streak _ _ _ rfl
        · simp [currentStreak, finalStretch]
        · intro now
          simp [currentStreak, finalStretch, beginOf]
      | streak streak last earlier isLast count first =>
        have long := stretch_positive policy.streakExpirySeconds last earlier
        apply FileAgrees.streak _ _ _ rfl
        · simp only [currentStreak, Option.getD_some, finalStretch]
          by_cases expired : policy.streakExpirySeconds < run.now - last
          · rw [if_pos (by omega), if_neg (by omega)]
            rfl
          · rw [if_neg (by omega), if_pos (by omega), List.length_cons, count]
        · intro now
          simp only [currentStreak, Option.getD_some, finalStretch]
          by_cases expired : policy.streakExpirySeconds < run.now - last
          · rw [if_pos (by omega), if_neg (by omega)]
            rfl
          · rw [if_neg (by omega), if_pos (by omega)]
            have before := first now
            simp only [beginOf, List.foldr_cons] at before ⊢
            omega
    · simp only [defers, if_false, run_proceeds defers (writable run rfl)]
      exact .unstarted

theorem file_agrees (history : List GateEvent)
    (writable : ∀ run, .run run ∈ history → run.writable = true) :
    FileAgrees policy (gateAfter trigger policy history) := by
  induction history using List.reverseRecOn with
  | nil => exact .unstarted
  | append_singleton history event ih =>
    rw [gateAfter_snoc]
    apply file_agrees_step (ih fun run member => writable run (List.mem_append_left _ member))
    intro run isRun
    exact writable run (by simp [isRun])

/-- Stretches of runs without a clear among them stay within the cap, and a run proceeds at the cap
for the final stretch of the deferrals before it, if the runs before it could write the file. -/
theorem waits_up_to_cap (deferrals : 0 < policy.maxDeferrals)
    (seconds : 0 < policy.maxDeferSeconds) :
    (∀ early runs, Steady policy runs → AllDefer trigger policy early runs →
      runs.length ≤ policy.maxDeferrals) ∧
    ∀ history run, (∀ earlier, .run earlier ∈ history → earlier.writable = true) →
      (reportAfter trigger policy history run).reason = .deferralCap →
        ∃ last earlier, (gateAfter trigger policy history).since = last :: earlier ∧
          run.now - last ≤ policy.streakExpirySeconds ∧
          let stretch := finalStretch policy.streakExpirySeconds (last :: earlier)
          let age := run.now - beginOf run.now stretch
          (policy.maxDeferrals ≤ stretch.length ∨ policy.maxDeferSeconds ≤ age) ∧
            (reportAfter trigger policy history run).deferrals = stretch.length ∧
            (reportAfter trigger policy history run).streakSeconds = age := by
  constructor
  · intro early runs steady defer
    cases latest : runs.getLast? with
    | none => simp [List.getLast?_eq_none_iff.mp latest]
    | some last =>
      have ⟨_, _, _, long, within⟩ := stretch_within_cap steady defer last latest
      exact long.trans within
  · intro history run writable capped
    have ⟨reached, isCount, isAge⟩ := run_capped capped
    have agrees := @file_agrees trigger policy history writable
    rw [reportAfter, isCount, isAge]
    generalize gateAfter trigger policy history = world at agrees reached ⊢
    cases agrees with
    | unstarted =>
      -- without a file the streak is empty and begins now
      simp only [currentStreak, Option.getD_none, Nat.min_self, Nat.sub_self, Nat.lt_irrefl,
        false_and, if_false] at reached
      omega
    | streak streak last earlier isLast count first =>
      simp only [currentStreak, Option.getD_some] at reached ⊢
      by_cases expired : 0 < streak.count ∧
          policy.streakExpirySeconds < run.now - min streak.last run.now
      · rw [if_pos expired] at reached
        dsimp only at reached
        omega
      · rw [if_neg expired] at reached ⊢
        have long := stretch_positive policy.streakExpirySeconds last earlier
        rw [first, count] at reached
        exact ⟨last, earlier, rfl, by omega, reached, count, by rw [first]⟩

def busyRun (now : Nat) : GateRun :=
  { activity :=
      { verdict := .busy, reason := .inFlightTurn, liveTurns := 1, unreadableMarkers := 0
        gatewayActive := 0, gatewayUnknown := 0 }
    now
    writable := true }

theorem third_daily_visit_proceeds : ∃ last earlier,
      (gateAfter .fleetSync (systemUpdateDeferralPolicy .fleetSync)
        [.run (busyRun 0), .run (busyRun 86400)]).since = last :: earlier ∧
      172000 - last ≤ 36 * hour ∧
      let stretch := finalStretch (36 * hour) (last :: earlier)
      let age := 172000 - beginOf 172000 stretch
      (2 ≤ stretch.length ∨ 48 * hour ≤ age) ∧
        (reportAfter .fleetSync (systemUpdateDeferralPolicy .fleetSync)
          [.run (busyRun 0), .run (busyRun 86400)] (busyRun 172000)).deferrals =
            stretch.length ∧
        (reportAfter .fleetSync (systemUpdateDeferralPolicy .fleetSync)
          [.run (busyRun 0), .run (busyRun 86400)] (busyRun 172000)).streakSeconds = age := by
  apply (waits_up_to_cap (by decide) (by decide)).2 _ (busyRun 172000)
  · intro earlier member
    simp only [List.mem_cons, GateEvent.run.injEq, List.not_mem_nil, or_false] at member
    rcases member with same | same <;> rw [same] <;> rfl
  · decide

/-- After a clear the runs defer up to the cap again. -/
theorem clear_between_deferrals : let policy := systemUpdateDeferralPolicy .fleetSync
    let second := [GateEvent.run (busyRun 0)]
    let third := second ++ [.run (busyRun 86400), .clear]
    (reportAfter .fleetSync policy [] (busyRun 0)).action = .defer ∧
      (reportAfter .fleetSync policy second (busyRun 86400)).action = .defer ∧
      (reportAfter .fleetSync policy third (busyRun 172000)).action = .defer ∧
      Steady policy [busyRun 0, busyRun 86400, busyRun 172000] ∧ policy.maxDeferrals = 2 := by
  have steady : Steady (systemUpdateDeferralPolicy .fleetSync)
      [busyRun 0, busyRun 86400, busyRun 172000] := by
    simp [Steady, busyRun, systemUpdateDeferralPolicy, hour]
  exact ⟨by decide, by decide, by decide, steady, rfl⟩

end Hivra.LiveUpdates
