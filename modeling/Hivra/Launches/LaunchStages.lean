import Hivra.Launches.LaunchRuns

/-!
# How far a launch request has come

What a run knows from its replies.  The run whose reservation created the receipt may insert the
agent row, once; it may fail the receipt only after the insert was answered with an error or
refused.  An agent is named to the client only after a reply showed the receipt accepted with it.
-/

namespace Hivra.Launches

open Hivra.Library Typestate

inductive LaunchRole
  | visitor
  /-- Its reservation created the receipt. -/
  | creator
  /-- Its insert came back as an error, or was refused. -/
  | refused

structure LaunchStage where
  role : LaunchRole
  /-- The agent that a reply showed the receipt accepted with. -/
  told : Option String

namespace LaunchStage

def hear (stage : LaunchStage) (saved : Option LaunchOperation) : LaunchStage :=
  match saved with
  | none => stage
  | some operation =>
    match operation.phase with
    | .accepted agentId _ => { stage with told := some agentId }
    | _ => stage

def become (stage : LaunchStage) (role : LaunchRole) : LaunchStage := { stage with role }

def afterReserve (reply : Except Trouble ReserveResult) (stage : LaunchStage) : LaunchStage :=
  match reply with
  | .ok (.reserved _) => stage.become .creator
  | .ok (.existing operation) => stage.hear (some operation)
  | _ => stage

def afterInsert (reply : Except Trouble InsertReply) (stage : LaunchStage) : LaunchStage :=
  match reply with
  | .error (.error _) => stage.become .refused
  | .ok .planAgentLimit => stage.become .refused
  | .ok .invalidRequest => stage.become .refused
  | _ => stage.become .visitor

def afterRow (reply : Except Trouble (Option LaunchOperation)) (stage : LaunchStage) :
    LaunchStage :=
  match reply with
  | .ok saved => stage.hear saved
  | .error _ => stage

def moved (call : LaunchCall) (reply : call.Reply) (stage : LaunchStage) : LaunchStage :=
  match call with
  | .byRequest => stage.afterRow reply
  | .reserve _ => stage.afterReserve reply
  | .insertAgentRow _ _ => stage.afterInsert reply
  | .update _ => stage.afterRow reply
  | .agentById _ => stage
  | .agentByOperation _ _ => stage
  | .agentByAllocation _ _ => stage
  | .kickOff => stage

end LaunchStage

def LaunchCall.permitted (call : LaunchCall) (stage : LaunchStage) : Prop :=
  (call.isInsert = true → stage.role = .creator) ∧ (call.isFail = true → stage.role = .refused)

def launchTypestate : Typestate LaunchCall LaunchCall.Reply LaunchStage :=
  { fresh := { role := .visitor, told := none }
    permits := LaunchCall.permitted
    moves := LaunchStage.moved }

abbrev LaunchWorld : Type :=
  World LaunchCall LaunchCall.Reply LaunchFailure LaunchAnswer (Watched LaunchStore LaunchStage)

def Anywhere {Outcome : Type} (_ : Outcome) (_ : LaunchStage) : Prop := True

def Heard (saved : Option LaunchOperation) (stage : LaunchStage) : Prop :=
  ∀ operation agentId status, saved = some operation →
    operation.phase = .accepted agentId status → stage.told = some agentId

def ReplaysTold (saved : LaunchReplay) (stage : LaunchStage) : Prop :=
  ∀ status agent, saved = .accepted status agent → stage.told = some agent.id

def NamesTold (answer : LaunchAnswer) (stage : LaunchStage) : Prop :=
  ∀ status agentId, answer = .accepted status agentId → stage.told = some agentId

theorem heard_hear (stage : LaunchStage) (saved : Option LaunchOperation) :
    Heard saved (stage.hear saved) := by
  intro operation agentId status isSaved isAccepted
  simp [LaunchStage.hear, isSaved, isAccepted]

theorem heard_filter {saved : Option LaunchOperation} {stage : LaunchStage}
    (heard : Heard saved stage) (keep : LaunchOperation → Bool) :
    Heard (saved.filter keep) stage := by
  intro operation agentId status isKept isAccepted
  have ⟨isSaved, _⟩ := Option.filter_eq_some_iff.mp isKept
  exact heard operation agentId status isSaved isAccepted

variable {operation : LaunchOperation} {agentId : String} {scope : LaunchScope}
variable {status : ResponseStatus}

@[simp]
theorem role_hear (stage : LaunchStage) (saved : Option LaunchOperation) :
    (stage.hear saved).role = stage.role := by
  unfold LaunchStage.hear
  split
  · rfl
  · split <;> rfl

section Keeps

variable {stage : LaunchStage} {failed : LaunchFailure → LaunchStage → Prop}

theorem ask_keeps (call : LaunchCall) {done : call.Reply → LaunchStage → Prop}
    (permitted : call.permitted stage)
    (ends : ∀ reply, done reply (LaunchStage.moved call reply stage)) :
    launchTypestate.Keeps done failed (Script.request call : LaunchScript call.Reply) stage :=
  keeps_request permitted ends

theorem permitted_of_free {call : LaunchCall} (insert : call.isInsert = false)
    (fail : call.isFail = false) : call.permitted stage := by
  constructor
  · intro isInsert
    rw [insert] at isInsert
    cases isInsert
  · intro isFail
    rw [fail] at isFail
    cases isFail

theorem by_request_keeps : launchTypestate.Keeps Heard Anywhere JournalStore.byRequest stage := by
  apply keeps_bind (fun reply next => ∀ saved, reply = .ok saved → Heard saved next)
  · apply ask_keeps .byRequest (permitted_of_free rfl rfl)
    intro reply saved isSaved
    rw [isSaved]
    exact heard_hear stage saved
  · intro reply next heard
    cases reply with
    | error trouble => trivial
    | ok saved => exact heard saved rfl

def Confirmed (confirms : LaunchOperation → Prop) (answer : Option LaunchOperation)
    (stage : LaunchStage) : Prop :=
  Heard answer stage ∧ ∀ operation, answer = some operation → confirms operation

variable {confirms : LaunchOperation → Prop} {method : LaunchScript (Option LaunchOperation)}

theorem confirm_keeps {update : LaunchUpdate} {answers readsBack : LaunchOperation → Bool}
    (permitted : update.isFail = true → stage.role = .refused)
    (answered : ∀ operation, answers operation = true → confirms operation)
    (readBack : ∀ operation, readsBack operation = true → confirms operation) :
    launchTypestate.Keeps (Confirmed confirms) Anywhere
      (JournalStore.confirm update answers readsBack) stage := by
  have filtered : ∀ (saved : Option LaunchOperation) (keep : LaunchOperation → Bool)
      (next : LaunchStage), Heard saved next →
        (∀ operation, keep operation = true → confirms operation) →
          Confirmed confirms (saved.filter keep) next := by
    intro saved keep next heard keeps
    constructor
    · exact heard_filter heard keep
    · intro operation isKept
      exact keeps operation (Option.filter_eq_some_iff.mp isKept).2
  apply keeps_bind (fun reply next => ∀ saved, reply = .ok saved → Heard saved next)
  · apply ask_keeps (.update update)
    · constructor
      · intro isInsert
        cases isInsert
      · exact permitted
    · intro reply saved isSaved
      rw [isSaved]
      exact heard_hear stage saved
  · intro reply next heard
    cases reply with
    | ok answer => exact filtered answer answers next (heard answer rfl) answered
    | error trouble =>
      apply keeps_bind Heard
      · exact by_request_keeps
      · intro saved later heardSaved
        exact filtered saved readsBack later heardSaved readBack

theorem or_unconfirmed_keeps
    (keeps : launchTypestate.Keeps (Confirmed confirms) Anywhere method stage) :
    launchTypestate.Keeps
      (fun operation next => Heard (some operation) next ∧ confirms operation) Anywhere
      (orUnconfirmed method) stage := by
  apply keeps_bind (Confirmed confirms)
  · exact keeps
  · intro answer next confirmed
    cases answer with
    | none => trivial
    | some operation => exact ⟨confirmed.1, confirmed.2 operation rfl⟩

theorem accepted_as_phase
    (isAccepted : JournalStore.isAcceptedAs scope agentId status operation = true) :
    ∃ held, operation.phase = .accepted agentId held := by
  simp only [JournalStore.isAcceptedAs, JournalStore.isBoundTo, Bool.and_eq_true,
    beq_iff_eq] at isAccepted
  have ⟨⟨⟨_, names⟩, accepted⟩, _⟩ := isAccepted
  cases phase : operation.phase with
  | accepted held heldStatus =>
    rw [phase] at names
    cases names
    exact ⟨heldStatus, rfl⟩
  | _ =>
    rw [phase] at accepted
    cases accepted

theorem accept_store_keeps : launchTypestate.Keeps
      (fun operation next => Heard (some operation) next ∧
        ∃ held, operation.phase = .accepted agentId held) Anywhere
      (orUnconfirmed (JournalStore.accept scope agentId status)) stage := by
  apply or_unconfirmed_keeps
  apply confirm_keeps
  · intro isFail
    cases isFail
  · exact fun _ => accepted_as_phase
  · exact fun _ => accepted_as_phase

theorem bind_store_keeps : launchTypestate.Keeps Anywhere Anywhere
      (orUnconfirmed (JournalStore.bindAgent scope agentId)) stage := by
  have keeps : launchTypestate.Keeps (Confirmed fun _ => True) Anywhere
      (JournalStore.bindAgent scope agentId) stage := by
    apply confirm_keeps
    · intro isFail
      cases isFail
    · exact fun _ _ => trivial
    · exact fun _ _ => trivial
  apply keeps_mono (or_unconfirmed_keeps keeps)
  · exact fun _ _ _ => trivial
  · exact fun _ _ _ => trivial

theorem read_agent_keeps (agentId : String) : launchTypestate.Keeps
      (fun found next => next = stage ∧ ∀ agent, found = some agent → agent.id = agentId) Anywhere
      (readAgent agentId) stage := by
  apply keeps_bind (fun _ next => next = stage)
  · exact ask_keeps (.agentById agentId) (permitted_of_free rfl rfl) fun _ => rfl
  · intro reply next still
    match reply with
    | .error _ | .ok none => trivial
    | .ok (some agent) =>
      constructor
      · exact still
      · intro found isFound
        split at isFound
        · rename_i same
          cases isFound
          exact same
        · cases isFound

theorem read_agent_by_operation_keeps (operationId : String) (runtimeId : RuntimeId) :
    launchTypestate.Keeps Anywhere Anywhere (readAgentByOperation operationId runtimeId) stage := by
  apply keeps_bind Anywhere
  · exact ask_keeps (.agentByOperation operationId runtimeId) (permitted_of_free rfl rfl)
      fun _ => trivial
  · intro reply next _
    match reply with
    | .error _ | .ok (some agent) => trivial
    | .ok none =>
      apply keeps_bind Anywhere
      · exact ask_keeps (.agentByAllocation operationId runtimeId) (permitted_of_free rfl rfl)
          fun _ => trivial
      · intro second later _
        cases second <;> trivial

theorem exact_agent_keeps (operation : LaunchOperation) (found : Option AgentRow) :
    launchTypestate.Keeps (fun agent next => next = stage ∧ found = some agent) Anywhere
      (exactAgent operation found) stage := by
  cases found with
  | none => trivial
  | some agent =>
    rw [exactAgent]
    split
    · trivial
    · exact ⟨rfl, rfl⟩

theorem accepted_replay_keeps {agent : AgentRow} (heard : Heard (some operation) stage)
    (names : ∀ agentId status, operation.phase = .accepted agentId status → agent.id = agentId) :
    launchTypestate.Keeps ReplaysTold Anywhere (acceptedReplay operation agent) stage := by
  rw [acceptedReplay]
  split
  · rename_i agentId status isAccepted
    intro replayed shown isReplay
    cases isReplay
    rw [names agentId status isAccepted]
    exact heard operation agentId status rfl isAccepted
  · trivial

theorem accept_agent_keeps {agent : AgentRow}
    (same : agent.id = agentId) : launchTypestate.Keeps ReplaysTold Anywhere
      ((orUnconfirmed (JournalStore.accept scope agentId .accepted)).bind
        fun accepted => acceptedReplay accepted agent) stage := by
  apply keeps_bind _ accept_store_keeps
  intro accepted next confirmed
  apply accepted_replay_keeps confirmed.1
  intro held status isAccepted
  have ⟨_, isConfirmed⟩ := confirmed.2
  rw [isConfirmed] at isAccepted
  cases isAccepted
  exact same

variable (recoverableProvider : LaunchOperation → AgentRow → Bool)

theorem replay_keeps (heard : Heard (some operation) stage) :
    launchTypestate.Keeps ReplaysTold Anywhere (replay recoverableProvider operation) stage := by
  rw [replay]
  split
  · intro status agent isReplay
    cases isReplay
  · rename_i agentId status isAccepted
    apply keeps_bind _ (read_agent_keeps agentId)
    intro found next read
    apply keeps_bind _ (exact_agent_keeps operation found)
    intro agent later exact_
    apply accepted_replay_keeps
    · rw [exact_.1, read.1]
      exact heard
    · intro held heldStatus isHeld
      rw [isAccepted] at isHeld
      cases isHeld
      exact read.2 agent exact_.2
  · rename_i agentId isBound
    apply keeps_bind _ (read_agent_keeps agentId)
    intro found next read
    apply keeps_bind _ (exact_agent_keeps operation found)
    intro agent later exact_
    exact accept_agent_keeps (read.2 agent exact_.2)
  · apply keeps_bind Anywhere (read_agent_by_operation_keeps _ _)
    intro recovered next _
    cases recovered with
    | none =>
      intro status agent isReplay
      cases isReplay
    | some found =>
      apply keeps_bind _ (exact_agent_keeps operation (some found))
      intro agent later _
      split
      · exact keeps_bind Anywhere bind_store_keeps fun _ _ _ => accept_agent_keeps rfl
      · trivial

theorem update_replay_keeps (confirms : LaunchOperation → Prop)
    (keeps : launchTypestate.Keeps (Confirmed confirms) Anywhere method stage) :
    launchTypestate.Keeps ReplaysTold Anywhere
      ((orUnconfirmed method).bind (replay recoverableProvider)) stage :=
  keeps_bind _ (or_unconfirmed_keeps keeps)
    fun _ _ confirmed => replay_keeps recoverableProvider confirmed.1

theorem response_keeps {service : LaunchScript LaunchReplay}
    (keeps : launchTypestate.Keeps ReplaysTold Anywhere service stage) :
    launchTypestate.Keeps NamesTold Anywhere (responseOf service) stage := by
  apply keeps_bind ReplaysTold keeps
  intro saved next told status agentId isAnswer
  cases saved with
  | accepted held agent =>
    cases isAnswer
    exact told status agent rfl
  | reconciling phase => cases isAnswer
  | failed failureStatus failureCode => cases isAnswer

theorem fail_keeps (scope : LaunchScope) (failureStatus : Nat) (failureCode : String)
    (refused : stage.role = .refused) : launchTypestate.Keeps ReplaysTold Anywhere
      (fail recoverableProvider scope failureStatus failureCode) stage := by
  apply update_replay_keeps recoverableProvider fun _ => True
  rw [JournalStore.fail]
  split
  · trivial
  · exact confirm_keeps (fun _ => refused) (fun _ _ => trivial) fun _ _ => trivial

theorem mark_reconciling_keeps (scope : LaunchScope) :
    launchTypestate.Keeps ReplaysTold Anywhere (markReconciling recoverableProvider scope)
      stage := by
  apply update_replay_keeps recoverableProvider fun _ => True
  apply confirm_keeps
  · intro isFail
    cases isFail
  · exact fun _ _ => trivial
  · exact fun _ _ => trivial

theorem replay_accepted_keeps (isAccepted : operation.phase = .accepted agentId status) :
    launchTypestate.Keeps (fun _ next => next = stage) Anywhere
      (replay recoverableProvider operation) stage := by
  rw [replay, isAccepted]
  apply keeps_bind _ (read_agent_keeps agentId)
  intro found next read
  apply keeps_bind _ (exact_agent_keeps operation found)
  intro agent later exact_
  rw [acceptedReplay, isAccepted]
  exact exact_.1.trans read.1

theorem accept_keeps (scope : LaunchScope) (agentId : String) (status : ResponseStatus) :
    launchTypestate.Keeps (fun _ next => next.told = some agentId) Anywhere
      (accept recoverableProvider scope agentId status) stage := by
  apply keeps_bind _ accept_store_keeps
  intro operation next confirmed
  have ⟨held, isAccepted⟩ := confirmed.2
  have told := confirmed.1 operation agentId held rfl isAccepted
  apply keeps_mono (replay_accepted_keeps recoverableProvider isAccepted)
  · intro _ later still
    rw [still]
    exact told
  · exact fun _ _ _ => trivial

theorem launch_bound_keeps (scope : LaunchScope) (agentId : String) :
    launchTypestate.Keeps NamesTold Anywhere (launchBound recoverableProvider scope agentId)
      stage := by
  apply keeps_bind Anywhere bind_store_keeps
  intro _ bound _
  apply keeps_bind _ (accept_keeps recoverableProvider scope agentId .accepted)
  intro _ accepted _
  apply keeps_bind Anywhere
  · exact ask_keeps .kickOff (permitted_of_free rfl rfl) fun _ => trivial
  · intro reply started _
    match reply with
    | .error _ | .ok false => trivial
    | .ok true =>
      apply keeps_bind _ (accept_keeps recoverableProvider scope agentId .created)
      intro _ last told status named isAnswer
      cases isAnswer
      exact told

theorem insert_agent_row_keeps (deploymentMode : DeploymentMode) (scope : LaunchScope)
    (creator : stage.role = .creator) :
    launchTypestate.Keeps (fun result next => result.error ≠ none → next.role = .refused)
      (fun failure next => failure = .planAgentLimit → next.role = .refused)
      (insertAgentRow deploymentMode scope) stage := by
  apply keeps_bind (fun reply next => next = LaunchStage.afterInsert reply stage)
  · apply ask_keeps (.insertAgentRow deploymentMode scope)
    · constructor
      · intro _
        exact creator
      · intro isFail
        cases isFail
    · intro reply
      rfl
  · intro reply next isNext
    subst isNext
    match reply with
    | .error .thrown =>
      intro isLimit
      cases isLimit
    | .ok .absent | .ok (.inserted row) =>
      intro isError
      exact absurd rfl isError
    | .error (.error code) | .ok .invalidRequest | .ok .planAgentLimit =>
      intro _
      rfl

theorem attempt_insert_keeps (deploymentMode : DeploymentMode) (scope : LaunchScope)
    (creator : stage.role = .creator) : launchTypestate.Keeps
      (fun attempt next => (attempt = .error .planAgentLimit → next.role = .refused) ∧
        ∀ result, attempt = .ok result → result.error ≠ none → next.role = .refused) Anywhere
      (attemptInsert deploymentMode scope) stage := by
  have inserted := insert_agent_row_keeps deploymentMode scope creator
  apply keeps_handle
  · apply keeps_bind _ inserted
    intro result next refused
    constructor
    · intro isLimit
      cases isLimit
    · intro held isHeld
      cases isHeld
      exact refused
  · intro failure next refused
    constructor
    · intro isLimit
      cases isLimit
      exact refused rfl
    · intro result isResult
      cases isResult

theorem launch_inserted_keeps (scope : LaunchScope) (result : InsertResult)
    (refused : result.error ≠ none → stage.role = .refused) :
    launchTypestate.Keeps NamesTold Anywhere
      (launchInserted recoverableProvider scope result) stage := by
  rw [launchInserted]
  split
  · rename_i code isError
    have isRefused : stage.role = .refused := by
      apply refused
      rw [isError]
      simp
    split
    · apply response_keeps
      exact fail_keeps recoverableProvider scope 409 "agent_insert_conflict" isRefused
    · apply response_keeps
      exact fail_keeps recoverableProvider scope 500 "agent_insert_failed" isRefused
  · exact response_keeps (mark_reconciling_keeps recoverableProvider scope)
  · exact launch_bound_keeps recoverableProvider scope _

theorem launch_reserved_keeps (post : LaunchPost) (creator : stage.role = .creator) :
    launchTypestate.Keeps NamesTold Anywhere (launchReserved recoverableProvider post) stage := by
  apply keeps_bind _ (attempt_insert_keeps post.deploymentMode post.scope creator)
  intro attempt next refused
  split
  · apply keeps_bind ReplaysTold
    · exact fail_keeps recoverableProvider post.scope 403 "plan_agent_limit" (refused.1 rfl)
    · intro _ later _ status agentId isAnswer
      cases isAnswer
  · exact response_keeps (mark_reconciling_keeps recoverableProvider post.scope)
  · rename_i result
    exact launch_inserted_keeps recoverableProvider post.scope result (refused.2 result rfl)

def Replayed (saved : Option LaunchReplay) (stage : LaunchStage) : Prop :=
  ∀ replayed, saved = some replayed → ReplaysTold replayed stage

theorem replay_some_keeps (heard : Heard (some operation) stage) :
    launchTypestate.Keeps Replayed Anywhere
      ((replay recoverableProvider operation).bind fun saved => pure (some saved)) stage := by
  apply keeps_bind _ (replay_keeps recoverableProvider heard)
  intro saved next told replayed isReplayed
  cases isReplayed
  exact told

theorem original_keeps :
    launchTypestate.Keeps Replayed Anywhere (original recoverableProvider) stage := by
  apply keeps_bind Heard by_request_keeps
  intro existing next heard
  cases existing with
  | none =>
    intro replayed isReplayed
    cases isReplayed
  | some operation => exact replay_some_keeps recoverableProvider heard

theorem lookup_keeps (requestDigest : String) :
    launchTypestate.Keeps Replayed Anywhere (lookup recoverableProvider requestDigest) stage := by
  apply keeps_bind Heard by_request_keeps
  intro existing next heard
  cases existing with
  | none =>
    intro replayed isReplayed
    cases isReplayed
  | some operation =>
    dsimp only
    split
    · exact replay_some_keeps recoverableProvider heard
    · trivial

theorem reserve_keeps (scope : LaunchScope) : launchTypestate.Keeps
      (fun saved next => Replayed saved next ∧ (saved = none → next.role = .creator)) Anywhere
      (reserve recoverableProvider scope) stage := by
  apply keeps_bind (fun existing next => Heard existing next ∧
    (existing = none → next.role = .creator))
  · apply keeps_bind (fun reply next => next = LaunchStage.afterReserve reply stage)
    · exact ask_keeps (.reserve scope) (permitted_of_free rfl rfl) fun _ => rfl
    · intro reply next isNext
      subst isNext
      match reply with
      | .error _ =>
        apply keeps_bind Heard by_request_keeps
        intro saved later heard
        cases saved with
        | none => trivial
        | some operation =>
          dsimp only
          split
          · exact ⟨heard, fun isNone => nomatch isNone⟩
          · trivial
      | .ok .invalidRequest | .ok .requestConflict => trivial
      | .ok (.existing operation) =>
        dsimp only
        split
        · exact ⟨heard_hear stage (some operation), fun isNone => nomatch isNone⟩
        · trivial
      | .ok (.reserved operation) =>
        dsimp only
        split
        · constructor
          · intro held agentId status isHeld
            cases isHeld
          · intro _
            rfl
        · trivial
  · intro existing next after
    cases existing with
    | none =>
      constructor
      · intro replayed isReplayed
        cases isReplayed
      · intro _
        exact after.2 rfl
    | some operation =>
      apply keeps_bind _ (replay_keeps recoverableProvider after.1)
      intro saved later told
      constructor
      · intro replayed isReplayed
        cases isReplayed
        exact told
      · intro isNone
        cases isNone

theorem replayed_keeps {saved : LaunchReplay} (replayed : Replayed (some saved) stage) :
    launchTypestate.Keeps NamesTold failed
      (pure (launchOperationReplayResponse saved) : LaunchScript LaunchAnswer) stage := by
  intro status agentId isAnswer
  cases saved with
  | accepted held agent =>
    cases isAnswer
    exact replayed _ rfl status agent rfl
  | reconciling phase => cases isAnswer
  | failed failureStatus failureCode => cases isAnswer

theorem post_launch_keeps (post : LaunchPost) :
    launchTypestate.Keeps NamesTold Anywhere (postLaunch recoverableProvider post) stage := by
  apply keeps_bind _ (lookup_keeps recoverableProvider post.requestDigest)
  intro early looked replayed
  cases early with
  | some saved => exact replayed_keeps replayed
  | none =>
    apply keeps_bind _ (lookup_keeps recoverableProvider post.requestDigest)
    intro prepared readied preparedReplay
    cases prepared with
    | some saved => exact replayed_keeps preparedReplay
    | none =>
      apply keeps_bind _ (reserve_keeps recoverableProvider post.scope)
      intro reserved holding after
      cases reserved with
      | some saved => exact replayed_keeps after.1
      | none => exact launch_reserved_keeps recoverableProvider post (after.2 rfl)

theorem get_launch_keeps :
    launchTypestate.Keeps NamesTold Anywhere (getLaunch recoverableProvider) stage := by
  apply keeps_bind _ (original_keeps recoverableProvider)
  intro saved next replayed
  cases saved with
  | some saved => exact replayed_keeps replayed
  | none =>
    intro status agentId isAnswer
    cases isAnswer

theorem launch_job_keeps (job : LaunchJob) :
    launchTypestate.Keeps NamesTold Anywhere (job.script recoverableProvider)
      launchTypestate.fresh := by
  cases job with
  | post launch => exact post_launch_keeps recoverableProvider launch
  | lookUp => exact get_launch_keeps recoverableProvider

end Keeps

end Hivra.Launches
