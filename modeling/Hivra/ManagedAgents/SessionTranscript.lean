import Mathlib.Data.List.Basic
import Mathlib.Data.Rat.Defs

/-!
# The transcript of a managed session

The events of a session are folded into its runs.  An event whose id is among the last ones is taken
for one that comes again.  Texts that are cut are lists of UTF-16 units.
-/

namespace Hivra.ManagedAgents

inductive ManagedToolStatus
  | running
  | done
  | error

/-- The values of `HITL_OUTCOMES`. -/
inductive HitlOutcome
  | approved
  | rejected
  | deferred
  deriving DecidableEq

inductive ManagedApprovalState
  | pending
  | decided (outcome : HitlOutcome)
  deriving DecidableEq

structure ManagedTranscriptTool where
  id : String
  label : String
  status : ManagedToolStatus
  summary : Option String
  durationMs : Option Rat

structure ManagedTranscriptApproval where
  requestId : String
  action : String
  summary : String
  state : ManagedApprovalState

inductive ManagedRunState
  | running
  | awaitingApproval
  | paused
  | completed
  | failed
  deriving DecidableEq

inductive ManagedPromptSource
  | user
  | hivraSetup
  deriving DecidableEq

structure ManagedTranscriptRun where
  runId : String
  prompt : Option String
  promptSource : ManagedPromptSource
  text : List UInt16
  reasoning : List UInt16
  tools : List ManagedTranscriptTool
  approvals : List ManagedTranscriptApproval
  logs : List String
  state : ManagedRunState
  error : Option String
  tokensIn : Option Rat
  tokensOut : Option Rat
  costMicros : Option Rat

structure ManagedTranscript where
  runs : List ManagedTranscriptRun
  sessionStatus : Option String
  pauseReason : Option String
  lastEventId : Option String
  seenEventIds : List String

/-- The type of a sanitized event with the data that type carries. -/
inductive ManagedEventData
  | runStarted
  | runTokenDelta (text : List UInt16) (isReasoning : Bool)
  | runToolCallStarted (toolCallId : Option String) (label : String)
  | runToolCallCompleted (toolCallId : Option String) (ok : Bool) (summary : Option String)
      (durationMs : Option Rat)
  | runHumanInputRequested (requestId action summary : String)
  | runHumanInputReceived (requestId : String) (outcome : Option HitlOutcome)
  | runCompleted (tokensIn tokensOut costMicros : Option Rat)
  | runFailed (code : Option Rat) (message : Option String)
  | runPaused (reason : Option String)
  | runResumed
  | runLog (message : String)
  | sessionUpdated (status pauseReason : Option String)
  deriving DecidableEq

structure ManagedSessionEvent where
  id : String
  runId : Option String
  data : ManagedEventData
  deriving DecidableEq

def maxSeen : Nat := 2000
def maxRunText : Nat := 256 * 1024

def emptyManagedTranscript : ManagedTranscript :=
  { runs := [], sessionStatus := none, pauseReason := none, lastEventId := none, seenEventIds := [] }

def newRun (runId : String) : ManagedTranscriptRun :=
  { runId, prompt := none, promptSource := .user, text := [], reasoning := [], tools := []
    approvals := [], logs := [], state := .running, error := none, tokensIn := none
    tokensOut := none, costMicros := none }

/-- `list.slice(-count)`. -/
def lastOf {Item : Type} (count : Nat) (list : List Item) : List Item :=
  list.drop (list.length - count)

def failureCodes (code : Rat) : Option String :=
  if code = 1 then some "The model returned an error."
  else if code = 2 then some "The model timed out."
  else if code = 3 then some "A tool failed."
  else if code = 4 then some "The sandbox was lost."
  else if code = 5 then some "An approval was rejected."
  else if code = 6 then some "The budget was exceeded."
  else if code = 7 then some "DigitalOcean reported an internal error."
  else none

/-- The first run of the id is updated, or a new one after all the others. -/
def updateRuns (runId : String) (update : ManagedTranscriptRun → ManagedTranscriptRun) :
    List ManagedTranscriptRun → List ManagedTranscriptRun
  | [] => [update (newRun runId)]
  | run :: runs => if run.runId = runId then update run :: runs else run :: updateRuns runId update runs

def withRun (transcript : ManagedTranscript) (runId : String)
    (update : ManagedTranscriptRun → ManagedTranscriptRun) : ManagedTranscript :=
  { transcript with runs := updateRuns runId update transcript.runs }

def promptRun (prompt : String) (source : ManagedPromptSource) (run : ManagedTranscriptRun) :
    ManagedTranscriptRun :=
  { run with prompt := some prompt, promptSource := source }

def addManagedPrompt (transcript : ManagedTranscript) (runId prompt : String)
    (source : ManagedPromptSource) : ManagedTranscript :=
  withRun transcript runId (promptRun prompt source)

def isPending (approval : ManagedTranscriptApproval) : Bool := approval.state == .pending

/-- `run.approvals.some((a) => a.state === "pending")`. -/
def ManagedTranscriptRun.waits (run : ManagedTranscriptRun) : Bool := run.approvals.any isPending

def decide? (requestId : String) (outcome : Option HitlOutcome)
    (approval : ManagedTranscriptApproval) : ManagedTranscriptApproval :=
  match outcome with
  | some outcome =>
    if approval.requestId = requestId then { approval with state := .decided outcome } else approval
  | none => approval

def completeTool (eventId : String) (toolCallId : Option String) (ok : Bool)
    (summary : Option String) (durationMs : Option Rat) (tools : List ManagedTranscriptTool) :
    List ManagedTranscriptTool :=
  let done : ManagedTranscriptTool :=
    { id := toolCallId.getD eventId
      label := "tool call"
      status := if ok then .done else .error
      summary
      durationMs }
  match (toolCallId.filter (· ≠ "")).bind fun id => tools.findIdx? (·.id == id) with
  | some index => tools.modify index fun tool => { done with label := tool.label }
  | none => tools ++ [done]

/-- What an event makes of its run: the cases of the `switch`. -/
def runUpdate (eventId : String) (data : ManagedEventData) (run : ManagedTranscriptRun) :
    ManagedTranscriptRun :=
  match data with
  | .runStarted | .runResumed =>
    { run with state := if run.waits then .awaitingApproval else .running }
  | .runTokenDelta text isReasoning =>
    if isReasoning then { run with reasoning := lastOf maxRunText (run.reasoning ++ text) }
    else { run with text := (run.text ++ text).take maxRunText }
  | .runToolCallStarted toolCallId label =>
    let id := toolCallId.getD eventId
    if run.tools.any (·.id == id) then run
    else
      { run with
        tools := run.tools ++
          [{ id, label, status := .running, summary := none, durationMs := none }] }
  | .runToolCallCompleted toolCallId ok summary durationMs =>
    { run with tools := completeTool eventId toolCallId ok summary durationMs run.tools }
  | .runHumanInputRequested requestId action summary =>
    { run with
      state := .awaitingApproval
      approvals :=
        if run.approvals.any (·.requestId == requestId) then run.approvals
        else run.approvals ++ [{ requestId, action, summary, state := .pending }] }
  | .runHumanInputReceived requestId outcome =>
    let approvals := run.approvals.map (decide? requestId outcome)
    let stillWaiting := approvals.any isPending
    { run with
      approvals
      state := if run.state = .awaitingApproval ∧ stillWaiting = false then .running else run.state }
  | .runCompleted tokensIn tokensOut costMicros =>
    { run with state := .completed, tokensIn, tokensOut, costMicros }
  | .runFailed code message =>
    { run with
      state := .failed
      error := (message.or (code.bind failureCodes)).or (some "The run failed.") }
  | .runPaused _ => { run with state := .paused }
  | .runLog message => { run with logs := lastOf 20 (run.logs ++ [message]) }
  | .sessionUpdated _ _ => run

def applyManagedSessionEvent (transcript : ManagedTranscript) (event : ManagedSessionEvent) :
    ManagedTranscript :=
  if event.id ∈ transcript.seenEventIds then transcript
  else
    let seenEventIds := lastOf maxSeen (transcript.seenEventIds ++ [event.id])
    let next := { transcript with lastEventId := some event.id, seenEventIds }
    match event.data with
    | .sessionUpdated status pauseReason =>
      { next with sessionStatus := status.or next.sessionStatus, pauseReason }
    | data =>
      match event.runId.filter (· ≠ "") with
      | none => next
      | some runId => withRun next runId (runUpdate event.id data)

inductive TranscriptStep
  | event (applied : ManagedSessionEvent)
  | prompt (runId text : String) (source : ManagedPromptSource)
  deriving DecidableEq

def TranscriptStep.applyTo (transcript : ManagedTranscript) : TranscriptStep → ManagedTranscript
  | .event applied => applyManagedSessionEvent transcript applied
  | .prompt runId text source => addManagedPrompt transcript runId text source

def transcriptAfter (steps : List TranscriptStep) : ManagedTranscript :=
  steps.foldl TranscriptStep.applyTo emptyManagedTranscript

def ManagedTranscript.runOf (transcript : ManagedTranscript) (runId : String) :
    Option ManagedTranscriptRun :=
  transcript.runs.find? fun run => run.runId == runId

/-- The run a step is about. -/
def TranscriptStep.runId? : TranscriptStep → Option String
  | .prompt runId _ _ => some runId
  | .event applied =>
    match applied.data with
    | .sessionUpdated _ _ => none
    | _ => applied.runId.filter (· ≠ "")

def TranscriptStep.update : TranscriptStep → ManagedTranscriptRun → ManagedTranscriptRun
  | .prompt _ text source => promptRun text source
  | .event applied => runUpdate applied.id applied.data

/-- The steps of a run. -/
def stepsOf (runId : String) (steps : List TranscriptStep) : List TranscriptStep :=
  steps.filter fun step => step.runId? == some runId

/-- The id of an event is not among the last ones. -/
def TranscriptStep.Fresh (transcript : ManagedTranscript) : TranscriptStep → Prop
  | .event applied => applied.id ∉ transcript.seenEventIds
  | .prompt _ _ _ => True

def TranscriptStep.repeats (earlier : List TranscriptStep) : TranscriptStep → Bool
  | .event applied => decide (.event applied ∈ earlier)
  | .prompt _ _ _ => false

/-- An approval its run has listed is only requested again while the run waits. -/
def Opens (transcript : ManagedTranscript) (step : TranscriptStep) : Prop :=
  ∀ event requestId action summary runId run, step = .event event →
    event.data = .runHumanInputRequested requestId action summary → step.runId? = some runId →
    transcript.runOf runId = some run → run.approvals.any (·.requestId == requestId) = true →
    run.waits = true

/-- An event is taken for one that comes again just where it does. -/
inductive Recognized : List TranscriptStep → Prop
  | empty : Recognized []
  | step (steps : List TranscriptStep) (last : TranscriptStep) : Recognized steps →
      (last.Fresh (transcriptAfter steps) ↔ last.repeats steps = false) →
      (last.repeats steps = false → Opens (transcriptAfter steps) last) →
      Recognized (steps ++ [last])

variable {transcript : ManagedTranscript} {runId : String} {run : ManagedTranscriptRun}
variable {steps : List TranscriptStep}

theorem update_run_id (step : TranscriptStep) (run : ManagedTranscriptRun) :
    (step.update run).runId = run.runId := by
  cases step with
  | prompt => rfl
  | event event =>
    unfold TranscriptStep.update runUpdate
    dsimp only
    split
    all_goals try rfl
    all_goals split <;> rfl

theorem find_updated {update : ManagedTranscriptRun → ManagedTranscriptRun}
    (kept : ∀ run, (update run).runId = run.runId) (runs : List ManagedTranscriptRun)
    (updated runId : String) :
    (updateRuns updated update runs).find? (·.runId == runId) =
      if updated = runId then some (update ((runs.find? (·.runId == runId)).getD (newRun runId)))
      else runs.find? (·.runId == runId) := by
  induction runs with
  | nil =>
    by_cases own : updated = runId
    · simp [updateRuns, own, kept, newRun]
    · simp [updateRuns, own, kept, newRun]
  | cons run runs ih =>
    unfold updateRuns
    by_cases found : run.runId = updated
    · rw [if_pos found]
      by_cases own : updated = runId
      · simp [own, kept, found]
      · simp [own, kept, found]
    · rw [if_neg found, List.find?_cons, List.find?_cons, ih]
      by_cases own : updated = runId
      · have apart : (run.runId == runId) = false := beq_false_of_ne (own ▸ found)
        simp [own, apart]
      · simp [own]

theorem mem_updated {update : ManagedTranscriptRun → ManagedTranscriptRun}
    {runs : List ManagedTranscriptRun} (member : run ∈ updateRuns runId update runs) :
    run ∈ runs ∨ run = update ((runs.find? (·.runId == runId)).getD (newRun runId)) := by
  induction runs with
  | nil => exact .inr (List.mem_singleton.mp member)
  | cons first runs ih =>
    unfold updateRuns at member
    by_cases found : first.runId = runId
    · rw [if_pos found] at member
      rcases List.mem_cons.mp member with own | later
      · exact .inr (by simpa [found] using own)
      · exact .inl (List.mem_cons_of_mem first later)
    · rw [if_neg found] at member
      rcases List.mem_cons.mp member with own | later
      · exact .inl (own ▸ List.mem_cons_self)
      · rcases ih later with old | new
        · exact .inl (List.mem_cons_of_mem first old)
        · exact .inr (by simpa [found] using new)

variable {step : TranscriptStep}

theorem applied_runs (fresh : step.Fresh transcript) : (step.applyTo transcript).runs =
      match step.runId? with
      | none => transcript.runs
      | some runId => updateRuns runId step.update transcript.runs := by
  cases step with
  | prompt => rfl
  | event event =>
    simp only [TranscriptStep.applyTo, applyManagedSessionEvent, TranscriptStep.runId?,
      TranscriptStep.update]
    rw [if_neg fresh]
    cases event.data <;> cases event.runId.filter (· ≠ "") <;> rfl

theorem seen_applied (seen : ¬step.Fresh transcript) : step.applyTo transcript = transcript := by
  cases step with
  | prompt => exact absurd trivial seen
  | event event => exact if_pos (not_not.mp seen)

theorem run_of_applied (fresh : step.Fresh transcript) (runId : String) :
    (step.applyTo transcript).runOf runId =
      if step.runId? = some runId then
        some (step.update ((transcript.runOf runId).getD (newRun runId)))
      else transcript.runOf runId := by
  unfold ManagedTranscript.runOf
  rw [applied_runs fresh]
  cases step.runId? with
  | none => rfl
  | some updated =>
    dsimp only
    rw [find_updated (update_run_id step)]
    simp

/-- Approvals stay in their places; one leaves `pending` only by an outcome for its request. -/
def ApprovalsFollow (step : TranscriptStep) (runId : String)
    (run next : ManagedTranscriptRun) : Prop :=
  ∀ (index : Nat) (approval : ManagedTranscriptApproval), run.approvals[index]? = some approval →
    ∃ later : ManagedTranscriptApproval, next.approvals[index]? = some later ∧
      later.requestId = approval.requestId ∧
      (later.state = approval.state ∨ later.state ≠ .pending ∧
        ∃ event outcome, step = .event event ∧ event.runId = some runId ∧
          event.data = .runHumanInputReceived approval.requestId (some outcome))

theorem approvals_same {next : ManagedTranscriptRun}
    (same : next.approvals = run.approvals) : ApprovalsFollow step runId run next := by
  intro index approval found
  exact ⟨approval, same ▸ found, rfl, .inl rfl⟩

theorem update_follows (own : step.runId? = some runId)
    (run : ManagedTranscriptRun) : ApprovalsFollow step runId run (step.update run) := by
  cases step with
  | prompt => exact approvals_same rfl
  | event event =>
    cases data : event.data with
    | runHumanInputRequested requestId action summary =>
      intro index approval found
      have ⟨within, _⟩ := List.getElem?_eq_some_iff.mp found
      simp only [TranscriptStep.update, runUpdate, data]
      split
      · exact ⟨approval, found, rfl, .inl rfl⟩
      · exact ⟨approval, by rw [List.getElem?_append_left within, found], rfl, .inl rfl⟩
    | runHumanInputReceived requestId outcome =>
      intro index approval found
      have isRun : event.runId = some runId := by
        simp only [TranscriptStep.runId?, data, Option.filter_eq_some_iff] at own
        exact own.1
      simp only [TranscriptStep.update, runUpdate, data, List.getElem?_map, found,
        Option.map_some, Option.some.injEq, exists_eq_left']
      cases outcome with
      | none => exact ⟨rfl, .inl rfl⟩
      | some outcome =>
        unfold decide?
        dsimp only
        split
        · rename_i same
          exact ⟨rfl, .inr ⟨nofun, event, outcome, rfl, isRun, by rw [data, same]⟩⟩
        · exact ⟨rfl, .inl rfl⟩
    | runTokenDelta text isReasoning =>
      apply approvals_same
      simp only [TranscriptStep.update, runUpdate, data]
      split <;> rfl
    | runToolCallStarted toolCallId label =>
      apply approvals_same
      simp only [TranscriptStep.update, runUpdate, data]
      split <;> rfl
    | _ =>
      apply approvals_same
      simp only [TranscriptStep.update, runUpdate, data]

/-- Whatever a step is, the approvals of a run follow. -/
theorem approvals_follow (step : TranscriptStep) (isRun : transcript.runOf runId = some run) :
    ∃ next, (step.applyTo transcript).runOf runId = some next ∧
      ApprovalsFollow step runId run next := by
  by_cases fresh : step.Fresh transcript
  · rw [run_of_applied fresh, isRun]
    split
    · rename_i own
      exact ⟨_, rfl, update_follows own run⟩
    · exact ⟨run, rfl, approvals_same rfl⟩
  · rw [seen_applied fresh]
    exact ⟨run, isRun, approvals_same rfl⟩

def ManagedTranscriptRun.Waiting (run : ManagedTranscriptRun) : Prop :=
  run.state = .awaitingApproval → run.waits = true

instance : Decidable run.Waiting := inferInstanceAs (Decidable (_ → _))

instance (step : TranscriptStep) : Decidable (step.Fresh transcript) := by
  cases step with
  | prompt => exact instDecidableTrue
  | event event => exact instDecidableNot

theorem same_waiting {next : ManagedTranscriptRun} (state : next.state = run.state)
    (approvals : next.approvals = run.approvals) (waiting : run.Waiting) : next.Waiting := by
  unfold ManagedTranscriptRun.Waiting ManagedTranscriptRun.waits
  rw [state, approvals]
  exact waiting

theorem update_waiting {eventId : String} {data : ManagedEventData} (waiting : run.Waiting)
    (opens : ∀ requestId action summary, data = .runHumanInputRequested requestId action summary →
      run.approvals.any (·.requestId == requestId) = true → run.waits = true) :
    (runUpdate eventId data run).Waiting := by
  cases data with
  | runStarted | runResumed =>
    intro awaits
    simp only [runUpdate] at awaits
    split at awaits
    · assumption
    · cases awaits
  | runTokenDelta text isReasoning =>
    unfold runUpdate
    dsimp only
    split <;> apply same_waiting _ _ waiting <;> rfl
  | runToolCallStarted toolCallId label =>
    unfold runUpdate
    dsimp only
    split <;> apply same_waiting _ _ waiting <;> rfl
  | runHumanInputRequested requestId action summary =>
    intro _
    unfold runUpdate ManagedTranscriptRun.waits
    dsimp only
    split
    · rename_i listed
      exact opens requestId action summary rfl listed
    · simp [isPending]
  | runHumanInputReceived requestId outcome =>
    intro awaits
    simp only [runUpdate] at awaits
    split at awaits
    · cases awaits
    · rename_i still
      exact by_contra fun none => still ⟨awaits, Bool.eq_false_iff.mpr none⟩
  | runCompleted | runFailed | runPaused => exact nofun
  | runToolCallCompleted | runLog | sessionUpdated => exact same_waiting rfl rfl waiting

theorem found_waiting (waiting : ∀ run ∈ transcript.runs, run.Waiting) (runId : String) :
    ((transcript.runOf runId).getD (newRun runId)).Waiting := by
  cases found : transcript.runOf runId with
  | none => exact nofun
  | some held => exact waiting held (List.mem_of_find?_eq_some found)

theorem applied_waiting (waiting : ∀ run ∈ transcript.runs, run.Waiting)
    (opens : step.Fresh transcript → Opens transcript step) :
    ∀ run ∈ (step.applyTo transcript).runs, run.Waiting := by
  by_cases fresh : step.Fresh transcript
  · rw [applied_runs fresh]
    cases own : step.runId? with
    | none => exact waiting
    | some runId =>
      intro run member
      rcases mem_updated member with old | new
      · exact waiting run old
      · rw [new]
        cases step with
        | prompt => exact same_waiting rfl rfl (found_waiting waiting runId)
        | event event =>
          apply update_waiting (found_waiting waiting runId)
          intro requestId action summary isData listed
          cases found : transcript.runOf runId with
          | none =>
            rw [found] at listed
            cases listed
          | some held =>
            rw [found] at listed
            exact opens fresh event requestId action summary runId held rfl isData own found listed
  · rw [seen_applied fresh]
    exact waiting

theorem after_snoc (steps : List TranscriptStep) (step : TranscriptStep) :
    transcriptAfter (steps ++ [step]) = step.applyTo (transcriptAfter steps) := by
  simp [transcriptAfter]

theorem recognized_waiting (recognized : Recognized steps) :
    ∀ run ∈ (transcriptAfter steps).runs, run.Waiting := by
  induction recognized with
  | empty =>
    intro run isIn
    exact absurd isIn List.not_mem_nil
  | step steps last _ seen opens ih =>
    rw [after_snoc]
    exact applied_waiting ih fun fresh => opens (seen.mp fresh)

/-- An event that comes again changes nothing. -/
theorem recognized_again (recognized : Recognized steps) :
    ∀ early step late, steps = early ++ step :: late → step.repeats early = true →
      transcriptAfter (early ++ [step]) = transcriptAfter early := by
  induction recognized with
  | empty => simp
  | step steps last _ seen _ ih =>
    intro early step late same before
    rcases List.eq_nil_or_concat' late with rfl | ⟨others, final, rfl⟩
    · have ⟨isEarly, isLast⟩ := List.append_inj' same rfl
      rw [after_snoc, seen_applied]
      rw [← isEarly, ← List.singleton_inj.mp isLast] at before ⊢
      rw [seen, before]
      exact nofun
    · rw [← List.cons_append, ← List.append_assoc] at same
      exact ih early step others (List.append_inj' same rfl).1 before

/-- A run as its own steps make it, the latest first: an event counts once. -/
def runMade (runId : String) : List TranscriptStep → Option ManagedTranscriptRun
  | [] => none
  | step :: earlier =>
    if step.repeats earlier = true then runMade runId earlier
    else some (step.update ((runMade runId earlier).getD (newRun runId)))

theorem recognized_made (recognized : Recognized steps) (runId : String) :
    (transcriptAfter steps).runOf runId = runMade runId (stepsOf runId steps).reverse := by
  induction recognized with
  | empty => rfl
  | step steps last _ seen _ ih =>
    rw [after_snoc, stepsOf, List.filter_append]
    by_cases own : last.runId? = some runId
    · have same : last.repeats (stepsOf runId steps).reverse = last.repeats steps := by
        cases last <;> simp [TranscriptStep.repeats, stepsOf, own]
      simp only [List.filter_cons, own, beq_self_eq_true, if_true, List.filter_nil,
        List.reverse_append, List.reverse_singleton, List.singleton_append]
      rw [runMade, ← stepsOf, same, ← ih]
      cases again : last.repeats steps with
      | true => rw [if_pos rfl, seen_applied (by rw [seen, again]; exact nofun)]
      | false => rw [run_of_applied (seen.mpr again), if_pos own]; rfl
    · simp only [List.filter_cons, beq_eq_false_iff_ne.mpr own, if_false, List.filter_nil,
        List.append_nil, Bool.false_eq_true]
      rw [← stepsOf, ← ih]
      by_cases fresh : last.Fresh (transcriptAfter steps)
      · rw [run_of_applied fresh, if_neg own]
      · rw [seen_applied fresh]

/-- While an event is taken for one that comes again just where it does, and an answered approval is
not requested anew, a run waits only for a pending approval, events that come again change nothing,
and a run is made of its own steps.  The approvals follow at every step. -/
theorem transcript_true (recognized : Recognized steps) :
    (∀ run ∈ (transcriptAfter steps).runs, run.Waiting) ∧
    (∀ early step late, steps = early ++ step :: late → step.repeats early = true →
      transcriptAfter (early ++ [step]) = transcriptAfter early) ∧
    (∀ others runId, Recognized others → stepsOf runId others = stepsOf runId steps →
      (transcriptAfter others).runOf runId = (transcriptAfter steps).runOf runId) ∧
    ∀ transcript step runId run, transcript.runOf runId = some run →
      ∃ next, (step.applyTo transcript).runOf runId = some next ∧
        ApprovalsFollow step runId run next := by
  constructor
  · exact recognized_waiting recognized
  constructor
  · exact recognized_again recognized
  constructor
  · intro others runId other same
    rw [recognized_made other, recognized_made recognized, same]
  · intro transcript step runId run isRun
    exact approvals_follow step isRun

def approvalOf (id requestId : String) : TranscriptStep :=
  .event { id, runId := some "run", data := .runHumanInputRequested requestId "deploy" "" }

def answerTo (id requestId : String) : TranscriptStep :=
  .event { id, runId := some "run", data := .runHumanInputReceived requestId (some .approved) }

theorem opens_new
    (new : ∀ run ∈ transcript.runs, ∀ approval ∈ run.approvals, ∀ event action summary,
      step = .event event → event.data ≠ .runHumanInputRequested approval.requestId action summary) :
    Opens transcript step := by
  intro event requestId action summary runId run isEvent isRequest _ found listed
  have ⟨approval, member, same⟩ := List.any_eq_true.mp listed
  rw [← eq_of_beq same] at isRequest
  exact absurd isRequest
    (new run (List.mem_of_find?_eq_some found) approval member event action summary isEvent)

/-- A prompt, and an approval whose request is delivered twice before it is answered. -/
def approvedSteps : List TranscriptStep :=
  [.prompt "run" "Deploy it." .user, approvalOf "1" "deploy", approvalOf "1" "deploy",
    answerTo "2" "deploy"]

theorem approved_recognized : Recognized approvedSteps := by
  apply Recognized.step (approvedSteps.take 3) (answerTo "2" "deploy")
  · apply Recognized.step (approvedSteps.take 2) (approvalOf "1" "deploy")
    · apply Recognized.step (approvedSteps.take 1) (approvalOf "1" "deploy")
      · apply Recognized.step [] (.prompt "run" "Deploy it." .user) .empty
        · decide
        · rintro _ _ _ _ _ _ _ ⟨⟩
      · decide
      · intro _
        have unlisted : ∀ run ∈ (transcriptAfter (approvedSteps.take 1)).runs,
            run.approvals = [] := by decide
        apply opens_new
        intro run isIn approval listed
        rw [unlisted run isIn] at listed
        cases listed
    · decide
    · intro new
      cases new
  · decide
  · rintro _ _ _ _ _ _ _ ⟨⟩ ⟨⟩

theorem approved_run :
    (transcriptAfter approvedSteps).runs.length = 1 ∧
      (∀ run ∈ (transcriptAfter approvedSteps).runs, run.Waiting) ∧
        transcriptAfter (approvedSteps.take 3) = transcriptAfter (approvedSteps.take 2) := by
  apply And.intro (by decide)
  have ⟨waiting, again, _⟩ := transcript_true approved_recognized
  exact ⟨waiting, again (approvedSteps.take 2) (approvalOf "1" "deploy") _ rfl (by decide)⟩

/-- The answered approval is requested under another id. -/
theorem waits_for_nothing :
    ∃ run ∈ (transcriptAfter
        [approvalOf "1" "deploy", answerTo "2" "deploy", approvalOf "3" "deploy"]).runs,
      ¬run.Waiting := by
  decide

end Hivra.ManagedAgents
