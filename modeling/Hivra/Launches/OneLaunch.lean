import Mathlib.Data.List.Count
import Hivra.Library.FollowedRows
import Hivra.Launches.LaunchStages

/-!
# One launch, one agent

Who may still insert the agent row: nobody before the receipt is created, then the run that
created it, then the statement it sent, and nobody after that.  A receipt is failed only when the
insert is known to have left no row.  That knowledge is wrong where the insert came back as an error
value and committed all the same: the route takes a thrown answer for unknown, an error value for
refused.
-/

namespace Hivra.Launches

open Hivra.Library Typestate

/-! ## Who may insert the row -/

inductive LaunchStance
  /-- No run holds a receipt that it created, and no row came of it. -/
  | unclaimed
  | held (number : Nat)
  /-- The insert goes on without its caller. -/
  | flying
  | made
  /-- The insert left no row and never will. -/
  | refused
  deriving DecidableEq

def AcceptedAs (store : LaunchStore) (agentId : String) : Prop :=
  ∃ operation status, store.operation = some operation ∧
    operation.phase = .accepted agentId status

variable {call : LaunchCall}

structure Fits (stance : LaunchStance) (store : LaunchStore) (states : Nat → LaunchStage) :
    Prop where
  absent : store.operation = none → stance = .unclaimed
  creator : ∀ number, (states number).role = .creator → stance = .held number
  refused : ∀ number, (states number).role = .refused → stance = .refused
  failing : ∀ call ∈ store.late, call.isFail = true → stance = .refused
  failed : ∀ operation, store.operation = some operation → operation.phase.isFailed = true →
    stance = .refused
  flying : store.late.countP (·.isInsert) = if stance = .flying then 1 else 0
  unmade : stance ≠ .made → store.created = []
  once : store.created.length ≤ 1
  agents : store.created = [] → store.agents = []
  told : ∀ number agentId, (states number).told = some agentId → AcceptedAs store agentId

section Stances

variable {stance : LaunchStance} {store : LaunchStore} {states : Nat → LaunchStage}
variable {number : Nat}

/-- Run `number` goes on to a stage. -/
def goOn (states : Nat → LaunchStage) (number : Nat) (stage : LaunchStage) : Nat → LaunchStage :=
  fun other => if other = number then stage else states other

@[simp]
theorem go_on_self (stage : LaunchStage) : goOn states number stage number = stage := if_pos rfl

@[simp]
theorem go_on_twice (first second : LaunchStage) :
    goOn (goOn states number first) number second = goOn states number second := by
  funext other
  simp only [goOn]
  split <;> rfl

theorem fits_stage (fits : Fits stance store states) {stage : LaunchStage}
    (creator : stage.role = .creator → stance = .held number)
    (refused : stage.role = .refused → stance = .refused)
    (told : ∀ agentId, stage.told = some agentId → AcceptedAs store agentId) :
    Fits stance store (goOn states number stage) := by
  constructor
  · exact fits.absent
  · intro other isCreator
    by_cases own : other = number
    · subst own
      rw [go_on_self] at isCreator
      exact creator isCreator
    · rw [goOn, if_neg own] at isCreator
      exact fits.creator other isCreator
  · intro other isRefused
    by_cases own : other = number
    · subst own
      rw [go_on_self] at isRefused
      exact refused isRefused
    · rw [goOn, if_neg own] at isRefused
      exact fits.refused other isRefused
  · exact fits.failing
  · exact fits.failed
  · exact fits.flying
  · exact fits.unmade
  · exact fits.once
  · exact fits.agents
  · intro other agentId isTold
    by_cases own : other = number
    · subst own
      rw [go_on_self] at isTold
      exact told agentId isTold
    · rw [goOn, if_neg own] at isTold
      exact fits.told other agentId isTold

structure Quiet (store : LaunchStore) (states : Nat → LaunchStage) : Prop where
  idle : ∀ number, (states number).role = .visitor
  failing : ∀ call ∈ store.late, call.isFail = false
  failed : ∀ operation, store.operation = some operation → operation.phase.isFailed = false
  flying : store.late.countP (·.isInsert) = 0
  unmade : store.created = []
  agents : store.agents = []
  told : ∀ number agentId, (states number).told = some agentId → AcceptedAs store agentId

theorem fits_quiet (fits : Fits .unclaimed store states) : Quiet store states := by
  have unmade : store.created = [] := fits.unmade (by simp)
  constructor
  · intro number
    cases role : (states number).role with
    | visitor => rfl
    | creator => cases fits.creator number role
    | refused => cases fits.refused number role
  · intro call there
    by_contra isFail
    cases fits.failing call there (by simpa using isFail)
  · intro operation isSaved
    by_contra isFailed
    cases fits.failed operation isSaved (by simpa using isFailed)
  · exact fits.flying
  · exact unmade
  · exact fits.agents unmade
  · exact fits.told

theorem quiet_fits (quiet : Quiet store states)
    (absent : store.operation = none → stance = .unclaimed) (lands : stance ≠ .flying) :
    Fits stance store states := by
  constructor
  · exact absent
  · intro number isCreator
    rw [quiet.idle number] at isCreator
    cases isCreator
  · intro number isRefused
    rw [quiet.idle number] at isRefused
    cases isRefused
  · intro call there isFail
    rw [quiet.failing call there] at isFail
    cases isFail
  · intro operation isSaved isFailed
    rw [quiet.failed operation isSaved] at isFailed
    cases isFailed
  · rw [quiet.flying, if_neg lands]
  · intro _
    exact quiet.unmade
  · rw [quiet.unmade]
    simp
  · intro _
    exact quiet.agents
  · exact quiet.told

theorem fits_restance (fits : Fits .unclaimed store states) (there : store.operation ≠ none)
    {later : LaunchStance} (lands : later ≠ .flying) : Fits later store states :=
  quiet_fits (fits_quiet fits) (fun isAbsent => absurd isAbsent there) lands

theorem fits_held (fits : Fits stance store states) (isCreator : (states number).role = .creator) :
    stance = .held number ∧ store.operation ≠ none := by
  have held := fits.creator number isCreator
  constructor
  · exact held
  · intro isAbsent
    have unclaimed := fits.absent isAbsent
    rw [held] at unclaimed
    cases unclaimed

theorem fits_release (fits : Fits (.held number) store states) {stage : LaunchStage}
    (visitor : stage.role = .visitor)
    (told : ∀ agentId, stage.told = some agentId → AcceptedAs store agentId) :
    Fits .unclaimed store (goOn states number stage) := by
  have unmade : store.created = [] := fits.unmade (by simp)
  have quiet : Quiet store (goOn states number stage) := by
    constructor
    · intro other
      by_cases own : other = number
      · subst own
        rw [go_on_self]
        exact visitor
      · rw [goOn, if_neg own]
        cases role : (states other).role with
        | visitor => rfl
        | creator =>
          have same := fits.creator other role
          cases same
          exact absurd rfl own
        | refused => cases fits.refused other role
    · intro call there
      by_contra isFail
      cases fits.failing call there (by simpa using isFail)
    · intro operation isSaved
      by_contra isFailed
      cases fits.failed operation isSaved (by simpa using isFailed)
    · exact fits.flying
    · exact unmade
    · exact fits.agents unmade
    · intro other agentId isTold
      by_cases own : other = number
      · subst own
        rw [go_on_self] at isTold
        exact told agentId isTold
      · rw [goOn, if_neg own] at isTold
        exact fits.told other agentId isTold
  exact quiet_fits quiet (fun _ => rfl) (by simp)

/-! ## Statements -/

theorem accepted_forward {operation : Option LaunchOperation} {agentId : String}
    (moves : Forward store.operation operation) (accepted : AcceptedAs store agentId) :
    AcceptedAs { store with operation } agentId := by
  have ⟨held, status, isSaved, isAccepted⟩ := accepted
  have ⟨later, isLater, _, goes⟩ := moves held isSaved
  rw [isAccepted] at goes
  cases goes with
  | inl same => exact ⟨later, status, isLater, same⟩
  | inr same => exact ⟨later, .created, isLater, same⟩

theorem fits_operation (fits : Fits stance store states) {operation : Option LaunchOperation}
    (moves : Forward store.operation operation)
    (failed : ∀ later, operation = some later → later.phase.isFailed = true →
      stance = .refused ∨ store.operation = some later) :
    Fits stance { store with operation } states := by
  constructor
  · intro isAbsent
    apply fits.absent
    cases before : store.operation with
    | none => rfl
    | some held =>
      have ⟨later, isLater, _⟩ := moves held before
      dsimp only at isAbsent
      rw [isAbsent] at isLater
      cases isLater
  · exact fits.creator
  · exact fits.refused
  · exact fits.failing
  · intro later isLater isFailed
    cases failed later isLater isFailed with
    | inl refused => exact refused
    | inr before => exact fits.failed later before isFailed
  · exact fits.flying
  · exact fits.unmade
  · exact fits.once
  · exact fits.agents
  · intro other agentId isTold
    exact accepted_forward moves (fits.told other agentId isTold)

theorem fits_insert (fits : Fits .unclaimed store states) (there : store.operation ≠ none)
    (scope : LaunchScope) (agentId : String) :
    Fits .made (store.insertRow scope agentId) states := by
  have empty : store.created = [] := fits.unmade (by simp)
  have made : Fits .made store states := fits_restance fits there (by simp)
  constructor
  · exact made.absent
  · exact made.creator
  · exact made.refused
  · exact made.failing
  · exact made.failed
  · exact made.flying
  · intro apart
    exact absurd rfl apart
  · rw [LaunchStore.insertRow, empty]
    simp
  · intro none_
    cases none_
  · exact made.told

theorem fits_insert_agent (fits : Fits .unclaimed store states) (there : store.operation ≠ none)
    (deploymentMode : DeploymentMode) (scope : LaunchScope) (turn : LaunchTurn) :
    Fits (if turn.slotVerdict deploymentMode = .fits then .made else .unclaimed)
      (store.insertAgent deploymentMode scope turn).1 states := by
  cases verdict : turn.slotVerdict deploymentMode with
  | fits =>
    simp only [LaunchStore.insertAgent, verdict, if_true]
    exact fits_insert fits there scope turn.agentId
  | full | invalid =>
    simp only [LaunchStore.insertAgent, verdict]
    exact fits

def LaunchCall.isReserve : LaunchCall → Bool
  | .reserve _ => true
  | _ => false

theorem answer_operation (call : LaunchCall) (notInsert : call.isInsert = false)
    (turn : LaunchTurn) (store : LaunchStore) :
    ∃ operation, (answerLaunch call turn store).1 = { store with operation } ∧
      Forward store.operation operation ∧
        ∀ later, operation = some later → later.phase.isFailed = true →
          call.isFail = true ∨ store.operation = some later := by
  cases call with
  | insertAgentRow deploymentMode scope => cases notInsert
  | reserve scope =>
    have moves := reserve_forward scope store.operation
    apply Exists.intro (reserveHivraLaunchOperation scope store.operation).1
    constructor
    · rfl
    · constructor
      · exact moves
      · intro later isLater isFailed
        right
        unfold reserveHivraLaunchOperation at isLater
        split at isLater
        · exact isLater
        · cases before : store.operation with
          | none =>
            rw [before] at isLater
            cases isLater
            cases isFailed
          | some held =>
            rw [before] at isLater
            dsimp only at isLater
            split at isLater <;> exact isLater
  | update moves =>
    apply Exists.intro (moves.apply store.agents store.operation).1
    constructor
    · rfl
    · constructor
      · exact apply_forward moves store.agents store.operation
      · intro later isLater isFailed
        exact apply_failed moves store.agents isLater isFailed
  | byRequest | agentById _ | agentByOperation _ _ | agentByAllocation _ _ | kickOff =>
    exact ⟨store.operation, rfl, forward_refl _, fun _ isLater _ => .inr isLater⟩

theorem answer_fits (fits : Fits stance store states) (call : LaunchCall)
    (notInsert : call.isInsert = false) (failing : call.isFail = true → stance = .refused)
    (turn : LaunchTurn) : Fits stance (answerLaunch call turn store).1 states := by
  have ⟨operation, isLeft, moves, failed⟩ := answer_operation call notInsert turn store
  rw [isLeft]
  apply fits_operation fits moves
  intro later isLater isFailed
  cases failed later isLater isFailed with
  | inl isFail => exact .inl (failing isFail)
  | inr before => exact .inr before

/-! ### Statements that go on without their caller -/

theorem fits_late (fits : Fits stance store states)
    (notInsert : call.isInsert = false) (failing : call.isFail = true → stance = .refused) :
    Fits stance { store with late := call :: store.late } states := by
  constructor
  · exact fits.absent
  · exact fits.creator
  · exact fits.refused
  · intro other there isFail
    cases there with
    | head => exact failing isFail
    | tail _ later => exact fits.failing other later isFail
  · exact fits.failed
  · rw [List.countP_cons, notInsert, fits.flying]
    rfl
  · exact fits.unmade
  · exact fits.once
  · exact fits.agents
  · exact fits.told

theorem fits_fly (fits : Fits .unclaimed store states) (there : store.operation ≠ none)
    (deploymentMode : DeploymentMode) (scope : LaunchScope) :
    Fits .flying { store with late := .insertAgentRow deploymentMode scope :: store.late }
      states := by
  have quiet := fits_quiet fits
  constructor
  · intro isAbsent
    exact absurd isAbsent there
  · intro number isCreator
    cases fits.creator number isCreator
  · intro number isRefused
    cases fits.refused number isRefused
  · intro call isLate isFail
    cases isLate with
    | head => cases isFail
    | tail _ later => cases fits.failing call later isFail
  · intro operation isSaved isFailed
    cases fits.failed operation isSaved isFailed
  · rw [List.countP_cons, quiet.flying]
    rfl
  · intro _
    exact quiet.unmade
  · exact fits.once
  · exact fits.agents
  · exact fits.told

theorem count_erase {Item : Type} (counted : Item → Bool) {items : List Item} {index : Nat}
    {item : Item} (there : items[index]? = some item) : items.countP counted =
      (items.eraseIdx index).countP counted + if counted item then 1 else 0 := by
  induction items generalizing index with
  | nil => cases there
  | cons first rest ih =>
    cases index with
    | zero =>
      cases there
      rw [List.countP_cons]
      rfl
    | succ index =>
      have counts := @ih index there
      rw [List.eraseIdx_cons_succ, List.countP_cons, List.countP_cons, counts]
      omega

theorem fits_landed (fits : Fits stance store states) {index : Nat}
    (there : store.late[index]? = some call) (notInsert : call.isInsert = false) :
    Fits stance { store with late := store.late.eraseIdx index } states := by
  constructor
  · exact fits.absent
  · exact fits.creator
  · exact fits.refused
  · intro other isOther isFail
    exact fits.failing other (List.mem_of_mem_eraseIdx isOther) isFail
  · exact fits.failed
  · have counts := count_erase (fun call : LaunchCall => call.isInsert) there
    rw [notInsert, fits.flying] at counts
    simpa using counts.symm
  · exact fits.unmade
  · exact fits.once
  · exact fits.agents
  · exact fits.told

theorem fits_insert_landed (fits : Fits stance store states) {index : Nat}
    (there : store.late[index]? = some call) (isInsert : call.isInsert = true) :
    Fits .unclaimed { store with late := store.late.eraseIdx index } states ∧
      store.operation ≠ none := by
  have counts := count_erase (fun call : LaunchCall => call.isInsert) there
  have flies : stance = .flying := by
    by_contra apart
    rw [fits.flying, if_neg apart, isInsert] at counts
    simp at counts
  subst flies
  have none_ : (store.late.eraseIdx index).countP (·.isInsert) = 0 := by
    rw [fits.flying, isInsert] at counts
    simp only [if_true] at counts
    omega
  have unmade : store.created = [] := fits.unmade (by simp)
  have quiet : Quiet { store with late := store.late.eraseIdx index } states := by
    constructor
    · intro number
      cases role : (states number).role with
      | visitor => rfl
      | creator => cases fits.creator number role
      | refused => cases fits.refused number role
    · intro other isLate
      by_contra isFail
      cases fits.failing other (List.mem_of_mem_eraseIdx isLate) (by simpa using isFail)
    · intro operation isSaved
      by_contra isFailed
      cases fits.failed operation isSaved (by simpa using isFailed)
    · exact none_
    · exact unmade
    · exact fits.agents unmade
    · exact fits.told
  constructor
  · exact quiet_fits quiet (fun _ => rfl) (by simp)
  · intro isAbsent
    cases fits.absent isAbsent

end Stances

/-! ## Replies -/

def LaunchCall.Shows (call : LaunchCall) (reply : call.Reply) (operation : LaunchOperation) :
    Prop :=
  match call with
  | .byRequest => reply = .ok (some operation)
  | .update _ => reply = .ok (some operation)
  | .reserve _ => reply = .ok (.existing operation)
  | _ => False

section Replies

variable {call : LaunchCall} {stage : LaunchStage}

theorem hear_told {saved : Option LaunchOperation} {agentId : String}
    (told : (stage.hear saved).told = some agentId) : stage.told = some agentId ∨
      ∃ operation status, saved = some operation ∧ operation.phase = .accepted agentId status := by
  unfold LaunchStage.hear at told
  split at told
  · exact .inl told
  · rename_i operation
    split at told
    · rename_i held status isAccepted
      cases told
      exact .inr ⟨operation, status, rfl, isAccepted⟩
    · exact .inl told

theorem moved_told {reply : call.Reply} {agentId : String}
    (told : (LaunchStage.moved call reply stage).told = some agentId) : stage.told = some agentId ∨
      ∃ operation status, call.Shows reply operation ∧
        operation.phase = .accepted agentId status := by
  cases call with
  | byRequest | update _ =>
    cases reply with
    | error trouble => exact .inl told
    | ok saved =>
      cases hear_told told with
      | inl before => exact .inl before
      | inr shown =>
        have ⟨operation, status, isSaved, isAccepted⟩ := shown
        subst isSaved
        exact .inr ⟨operation, status, rfl, isAccepted⟩
  | reserve scope =>
    match reply with
    | .error _ | .ok .invalidRequest | .ok .requestConflict | .ok (.reserved _) => exact .inl told
    | .ok (.existing operation) =>
      cases hear_told told with
      | inl before => exact .inl before
      | inr shown =>
        have ⟨held, status, isSaved, isAccepted⟩ := shown
        cases isSaved
        exact .inr ⟨operation, status, rfl, isAccepted⟩
  | insertAgentRow deploymentMode scope =>
    left
    simp only [LaunchStage.moved, LaunchStage.afterInsert] at told
    split at told <;> exact told
  | agentById _ | agentByOperation _ _ | agentByAllocation _ _ | kickOff => exact .inl told

theorem moved_role {reply : call.Reply} (notInsert : call.isInsert = false)
    (notReserve : call.isReserve = false) :
    (LaunchStage.moved call reply stage).role = stage.role := by
  cases call with
  | insertAgentRow deploymentMode scope => cases notInsert
  | reserve scope => cases notReserve
  | byRequest | update _ =>
    cases reply with
    | error trouble => rfl
    | ok saved => exact role_hear stage saved
  | agentById _ | agentByOperation _ _ | agentByAllocation _ _ | kickOff => rfl

theorem answered_shows {turn : LaunchTurn} {store : LaunchStore} {operation : LaunchOperation}
    (shows_ : call.Shows (answerLaunch call turn store).2 operation) :
    (answerLaunch call turn store).1.operation = some operation := by
  cases call with
  | byRequest => exact Except.ok.inj shows_
  | update moves => exact apply_answers moves store.agents (Except.ok.inj shows_)
  | reserve scope =>
    have reserved : (reserveHivraLaunchOperation scope store.operation).2 =
      .existing operation := Except.ok.inj shows_
    simp only [answerLaunch]
    unfold reserveHivraLaunchOperation at reserved ⊢
    split at reserved
    · cases reserved
    · rename_i valid
      rw [if_neg valid]
      cases saved : store.operation with
      | none =>
        rw [saved] at reserved
        cases reserved
      | some held =>
        rw [saved] at reserved
        dsimp only at reserved ⊢
        split at reserved
        · rename_i same
          rw [if_pos same]
          cases reserved
          rfl
        · cases reserved
  | insertAgentRow _ _ | agentById _ | agentByOperation _ _ | agentByAllocation _ _ | kickOff =>
    exact shows_.elim

theorem failed_shows {trouble : Trouble} {operation : LaunchOperation} :
    ¬call.Shows (.error trouble) operation := by
  cases call <;> simp [LaunchCall.Shows]

end Replies

/-! ## Requests -/

section Requests

variable {stance : LaunchStance} {store : LaunchStore} {states : Nat → LaunchStage}
variable {number : Nat}

section

variable (fits : Fits stance store states)
include fits

theorem told_fits {reply : call.Reply}
    (role : (LaunchStage.moved call reply (states number)).role = (states number).role)
    (shown : ∀ operation, call.Shows reply operation → store.operation = some operation) :
    Fits stance store (goOn states number (LaunchStage.moved call reply (states number))) := by
  apply fits_stage fits
  · intro isCreator
    rw [role] at isCreator
    exact fits.creator number isCreator
  · intro isRefused
    rw [role] at isRefused
    exact fits.refused number isRefused
  · intro agentId told
    cases moved_told told with
    | inl before => exact fits.told number agentId before
    | inr heard =>
      have ⟨operation, status, isShown, isAccepted⟩ := heard
      exact ⟨operation, status, shown operation isShown, isAccepted⟩

theorem trouble_fits (trouble : Trouble) (notInsert : call.isInsert = false) : Fits stance store
      (goOn states number (LaunchStage.moved call (.error trouble) (states number))) := by
  apply told_fits fits
  · cases call with
    | reserve scope => rfl
    | insertAgentRow deploymentMode scope => cases notInsert
    | _ => exact moved_role rfl rfl
  · intro operation isShown
    exact absurd isShown failed_shows

theorem created_fits {scope : LaunchScope} {turn : LaunchTurn} {operation : LaunchOperation}
    (isNew : (reserveHivraLaunchOperation scope store.operation).2 = .reserved operation) :
    Fits (.held number) (answerLaunch (.reserve scope) turn store).1
      (goOn states number ((states number).become .creator)) := by
  have absent : store.operation = none ∧
      (reserveHivraLaunchOperation scope store.operation).1 ≠ none := by
    unfold reserveHivraLaunchOperation at isNew ⊢
    split at isNew
    · cases isNew
    · rename_i valid
      rw [if_neg valid]
      cases saved : store.operation with
      | none => simp
      | some held =>
        rw [saved] at isNew
        dsimp only at isNew
        split at isNew <;> cases isNew
  have unclaimed := fits.absent absent.1
  subst unclaimed
  have effect := answer_fits fits (.reserve scope) rfl (fun isFail => nomatch isFail) turn
  apply fits_stage (fits_restance effect absent.2 (by simp))
  · intro _
    rfl
  · intro isRefused
    cases isRefused
  · intro agentId told
    exact effect.told number agentId told

theorem answered_reserve_fits (scope : LaunchScope) (turn : LaunchTurn) :
    ∃ later, Fits later (answerLaunch (.reserve scope) turn store).1
      (goOn states number (LaunchStage.moved (.reserve scope)
        (answerLaunch (.reserve scope) turn store).2 (states number))) := by
  have effect := answer_fits fits (.reserve scope) rfl (fun isFail => nomatch isFail) turn
  have shown := @answered_shows (.reserve scope) turn store
  cases reserved : (reserveHivraLaunchOperation scope store.operation).2 with
  | reserved operation =>
    have moved : LaunchStage.moved (.reserve scope) (answerLaunch (.reserve scope) turn store).2
        (states number) = (states number).become .creator := by
      simp only [answerLaunch, LaunchStage.moved, reserved, LaunchStage.afterReserve]
    rw [moved]
    exact ⟨.held number, created_fits fits reserved⟩
  | existing operation =>
    apply Exists.intro stance
    apply told_fits effect
    · simp only [answerLaunch, LaunchStage.moved, reserved, LaunchStage.afterReserve, role_hear]
    · exact fun _ => shown
  | invalidRequest | requestConflict =>
    apply Exists.intro stance
    apply told_fits effect
    · simp only [answerLaunch, LaunchStage.moved, reserved, LaunchStage.afterReserve]
    · exact fun _ => shown

theorem performed_other_fits (permitted : call.permitted (states number))
    (notInsert : call.isInsert = false) (turn : LaunchTurn) :
    ∃ later, Fits later (performLaunch call turn store).1
      (goOn states number
        (LaunchStage.moved call (performLaunch call turn store).2 (states number))) := by
  have failing : call.isFail = true → stance = .refused :=
    fun isFail => fits.refused number (permitted.2 isFail)
  have effect := answer_fits fits call notInsert failing turn
  cases fault : turn.fault with
  | none_ =>
    simp only [performLaunch, fault]
    cases call with
    | reserve scope => exact answered_reserve_fits fits scope turn
    | insertAgentRow deploymentMode scope => cases notInsert
    | _ => exact ⟨stance, told_fits effect (moved_role rfl rfl) fun _ => answered_shows⟩
  | failed trouble =>
    simp only [performLaunch, fault]
    exact ⟨stance, trouble_fits fits trouble notInsert⟩
  | lost trouble =>
    simp only [performLaunch, fault]
    exact ⟨stance, trouble_fits effect trouble notInsert⟩
  | late trouble =>
    simp only [performLaunch, fault]
    exact ⟨stance, trouble_fits (fits_late fits notInsert failing) trouble notInsert⟩

end

/-! ### The insert -/

def LaunchTurn.hidesInsert (turn : LaunchTurn) (deploymentMode : DeploymentMode) : Bool :=
  match turn.fault with
  | .lost (.error _) => turn.slotVerdict deploymentMode == .fits
  | .late (.error _) => true
  | _ => false

theorem refused_fits (fits : Fits .unclaimed store states) (there : store.operation ≠ none)
    (number : Nat) {stage : LaunchStage} (told : stage.told = (states number).told) :
    Fits .refused store (goOn states number (stage.become .refused)) := by
  apply fits_stage (fits_restance fits there (by simp))
  · intro isCreator
    cases isCreator
  · intro _
    rfl
  · intro agentId isTold
    apply fits.told number agentId
    rw [← told]
    exact isTold

theorem performed_insert_fits (fits : Fits stance store states) {deploymentMode : DeploymentMode}
    {scope : LaunchScope} (isCreator : (states number).role = .creator) (turn : LaunchTurn)
    (shown : turn.hidesInsert deploymentMode = false) :
    ∃ later, Fits later (performLaunch (.insertAgentRow deploymentMode scope) turn store).1
      (goOn states number (LaunchStage.moved (.insertAgentRow deploymentMode scope)
        (performLaunch (.insertAgentRow deploymentMode scope) turn store).2 (states number))) := by
  have ⟨held, there⟩ := fits_held fits isCreator
  subst held
  have free : Fits .unclaimed store (goOn states number ((states number).become .visitor)) :=
    fits_release fits rfl (fits.told number)
  have effect := fits_insert_agent free there deploymentMode scope turn
  have refuses : ∃ later, Fits later store
      (goOn states number ((states number).become .refused)) := by
    have told : (states number).told =
        (goOn states number ((states number).become .visitor) number).told := by
      rw [go_on_self]
      rfl
    have refused := refused_fits free there number told
    rw [go_on_twice] at refused
    exact ⟨.refused, refused⟩
  cases fault : turn.fault with
  | none_ =>
    cases verdict : turn.slotVerdict deploymentMode with
    | fits =>
      have moved : LaunchStage.moved (.insertAgentRow deploymentMode scope)
          (performLaunch (.insertAgentRow deploymentMode scope) turn store).2
          (states number) = (states number).become .visitor := by
        simp only [performLaunch, fault, answerLaunch, LaunchStore.insertAgent, verdict,
          LaunchStage.moved]
        split <;> rfl
      rw [moved]
      simp only [performLaunch, fault, answerLaunch]
      exact ⟨_, effect⟩
    | full | invalid =>
      simp only [performLaunch, fault, answerLaunch, LaunchStore.insertAgent, verdict]
      exact refuses
  | failed trouble =>
    simp only [performLaunch, fault]
    cases trouble with
    | error code => exact refuses
    | thrown => exact ⟨.unclaimed, free⟩
  | lost trouble =>
    simp only [performLaunch, fault, answerLaunch]
    cases trouble with
    | thrown => exact ⟨_, effect⟩
    | error code =>
      have unmade : (store.insertAgent deploymentMode scope turn).1 = store := by
        simp only [LaunchTurn.hidesInsert, fault, beq_eq_false_iff_ne, ne_eq] at shown
        unfold LaunchStore.insertAgent
        split
        · rfl
        · rfl
        · rename_i fitsIn
          exact absurd fitsIn shown
      rw [unmade]
      exact refuses
  | late trouble =>
    simp only [performLaunch, fault]
    cases trouble with
    | thrown => exact ⟨.flying, fits_fly free there deploymentMode scope⟩
    | error code =>
      simp only [LaunchTurn.hidesInsert, fault] at shown
      cases shown

theorem changed_fits (fits : Fits stance store states) (change : LaunchChange) :
    ∃ later, Fits later (store.change change) states := by
  cases change with
  | rewriteAgent index agent | removeAgent index =>
    apply Exists.intro stance
    constructor
    · exact fits.absent
    · exact fits.creator
    · exact fits.refused
    · exact fits.failing
    · exact fits.failed
    · exact fits.flying
    · exact fits.unmade
    · exact fits.once
    · intro unmade
      simp [LaunchStore.change, fits.agents unmade]
    · exact fits.told
  | finish index turn =>
    simp only [LaunchStore.change]
    cases there : store.late[index]? with
    | none => exact ⟨stance, fits⟩
    | some call =>
      by_cases isInsert : call.isInsert = true
      · have ⟨landed, isThere⟩ := fits_insert_landed fits there isInsert
        cases call with
        | insertAgentRow deploymentMode scope =>
          exact ⟨_, fits_insert_agent landed isThere deploymentMode scope turn⟩
        | _ => cases isInsert
      · have notInsert : call.isInsert = false := by simpa using isInsert
        have landed := fits_landed fits there notInsert
        have failing : call.isFail = true → stance = .refused :=
          fits.failing call (List.mem_of_getElem? there)
        exact ⟨stance, answer_fits landed call notInsert failing turn⟩

end Requests

/-! ## Runs -/

abbrev LaunchEvent : Type := Event LaunchJob LaunchTurn LaunchChange

def LaunchCall.isShown (turn : LaunchTurn) : LaunchCall → Bool
  | .insertAgentRow deploymentMode _ => !turn.hidesInsert deploymentMode
  | _ => true

/-- No insert of the agent row comes back as an error value when it left a row, or still may. -/
def Guarded (world : LaunchWorld) (event : LaunchEvent) : Prop :=
  match event with
  | .advance number turn =>
    match world.runs[number]? with
    | some (some (.call call _)) => call.isShown turn = true
    | _ => True
  | _ => True

instance (world : LaunchWorld) (event : LaunchEvent) : Decidable (Guarded world event) := by
  unfold Guarded
  cases event with
  | advance number turn =>
    dsimp only
    split <;> infer_instance
  | _ => exact instDecidableTrue

/-- What the client of run `number` was answered. -/
def answerOf (world : LaunchWorld) (number : Nat) : Option LaunchAnswer :=
  match world.runs[number]? with
  | some (some (.ret answer)) => some answer
  | _ => none

/-- The client of run `number` was answered that the agent is accepted. -/
def Answered (world : LaunchWorld) (number : Nat) (agentId : String) : Prop :=
  ∃ status, answerOf world number = some (.accepted status agentId)

theorem answer_of_returned {world : LaunchWorld} {number : Nat} {answer : LaunchAnswer}
    (answered : answerOf world number = some answer) :
    world.runs[number]? = some (some (.ret answer)) := by
  unfold answerOf at answered
  split at answered
  · rename_i held returned
    cases answered
    exact returned
  · cases answered

structure OneStory (world : LaunchWorld) : Prop where
  once : world.store.store.created.length ≤ 1
  /-- No row carries the id of a failed receipt, and none is on its way. -/
  failed : ∀ operation, world.store.store.operation = some operation →
    operation.phase.isFailed = true →
      (∀ agent ∈ world.store.store.agents,
        agent.operationId ≠ some operation.scope.operationId) ∧
        ∀ deploymentMode scope,
          LaunchCall.insertAgentRow deploymentMode scope ∈ world.store.store.late →
            scope.operationId ≠ operation.scope.operationId
  answered : ∀ number agentId, Answered world number agentId →
    AcceptedAs world.store.store agentId

structure Agrees (earlier later : LaunchWorld) : Prop where
  forward : Forward earlier.store.store.operation later.store.store.operation
  sameAgent : ∀ before after agentId otherId, Answered earlier before agentId →
    Answered later after otherId → agentId = otherId

section Runs

variable (recoverableProvider : LaunchOperation → AgentRow → Bool)

def stepLaunch (world : LaunchWorld) (event : LaunchEvent) : LaunchWorld :=
  (launchTypestate.watch (launchSystem recoverableProvider)).step world event

def newLaunch : LaunchWorld :=
  launchTypestate.start { operation := none, agents := [], late := [], created := [] }

structure LaunchSound (world : LaunchWorld) : Prop where
  keeps : launchTypestate.AllKeep NamesTold Anywhere world
  fits : ∃ stance, Fits stance world.store.store world.store.states

variable {world : LaunchWorld}

theorem launch_sound_start : LaunchSound newLaunch := by
  have keeps : launchTypestate.AllKeep NamesTold Anywhere newLaunch := start_keeps _
  constructor
  · exact keeps
  · apply Exists.intro LaunchStance.unclaimed
    have quiet : Quiet newLaunch.store.store newLaunch.store.states := by
      constructor
      · intro _
        rfl
      · intro call there
        cases there
      · intro operation isSaved
        cases isSaved
      · rfl
      · rfl
      · rfl
      · intro number agentId isTold
        cases isTold
    exact quiet_fits quiet (fun _ => rfl) (by simp)

theorem advance_fits {number : Nat} {turn : LaunchTurn}
    {next : call.Reply → LaunchScript LaunchAnswer} (sound : LaunchSound world)
    (current : world.runs[number]? = some (some (.call call next)))
    (shown : call.isShown turn = true) :
    ∃ stance, Fits stance (performLaunch call turn world.store.store).1
      (goOn world.store.states number (LaunchStage.moved call
        (performLaunch call turn world.store.store).2 (world.store.states number))) := by
  have permitted : call.permitted (world.store.states number) :=
    (sound.keeps.keeps number _ current).1
  have ⟨stance, fits⟩ := sound.fits
  cases call with
  | insertAgentRow deploymentMode scope =>
    apply performed_insert_fits fits (permitted.1 rfl) turn
    simpa [LaunchCall.isShown] using shown
  | _ => exact performed_other_fits fits permitted rfl turn

theorem launch_sound_step (event : LaunchEvent) (guarded : Guarded world event)
    (sound : LaunchSound world) : LaunchSound (stepLaunch recoverableProvider world event) := by
  have keeps : launchTypestate.AllKeep NamesTold Anywhere
      (stepLaunch recoverableProvider world event) :=
    keep_step (launch_job_keeps recoverableProvider) event sound.keeps
  constructor
  · exact keeps
  · cases event with
    | start job => exact sound.fits
    | stop number => exact sound.fits
    | outside change =>
      have ⟨stance, fits⟩ := sound.fits
      exact changed_fits fits change
    | advance number turn =>
      apply System.advance_cases _ (fun later : LaunchWorld =>
        ∃ stance, Fits stance later.store.store later.store.states) sound.fits
      intro call next current
      rw [step_advance current turn]
      apply advance_fits sound current
      simpa [Guarded, current] using guarded

theorem forward_step (event : LaunchEvent) : Forward world.store.store.operation
      (stepLaunch recoverableProvider world event).store.store.operation := by
  have answered : ∀ (call : LaunchCall) (turn : LaunchTurn) (store : LaunchStore),
      Forward store.operation (answerLaunch call turn store).1.operation := by
    intro call turn store
    by_cases isInsert : call.isInsert = true
    · cases call with
      | insertAgentRow deploymentMode scope =>
        simp only [answerLaunch, LaunchStore.insertAgent]
        split <;> exact forward_refl _
      | _ => cases isInsert
    · have ⟨operation, isLeft, moves, _⟩ :=
        answer_operation call (by simpa using isInsert) turn store
      rw [isLeft]
      exact moves
  cases event with
  | start job => exact forward_refl _
  | stop number => exact forward_refl _
  | outside change =>
    cases change with
    | rewriteAgent index agent => exact forward_refl _
    | removeAgent index => exact forward_refl _
    | finish index turn =>
      simp only [stepLaunch, System.step, watch, launchSystem, LaunchStore.change]
      split
      · exact answered _ turn
          { world.store.store with late := world.store.store.late.eraseIdx index }
      · exact forward_refl _
  | advance number turn =>
    apply System.advance_cases _ (fun later : LaunchWorld =>
      Forward world.store.store.operation later.store.store.operation) (forward_refl _)
    intro call next current
    rw [step_advance current turn]
    simp only [launchSystem, performLaunch]
    cases turn.fault with
    | none_ => exact answered call turn _
    | failed trouble => exact forward_refl _
    | lost trouble => exact answered call turn _
    | late trouble => exact forward_refl _

theorem run_forward (start : LaunchWorld) (history : List LaunchEvent) :
    Forward start.store.store.operation
      (history.foldl (stepLaunch recoverableProvider) start).store.store.operation := by
  induction history generalizing start with
  | nil => exact forward_refl _
  | cons event rest ih =>
    exact forward_trans (forward_step recoverableProvider event) (ih _)

theorem sound_story (sound : LaunchSound world) : OneStory world := by
  have ⟨stance, fits⟩ := sound.fits
  constructor
  · exact fits.once
  · intro operation isSaved isFailed
    have refused := fits.failed operation isSaved isFailed
    subst refused
    constructor
    · intro agent there
      rw [fits.agents (fits.unmade (by simp))] at there
      cases there
    · intro deploymentMode scope there
      have none_ : world.store.store.late.countP (·.isInsert) = 0 := fits.flying
      have notInsert := List.countP_eq_zero.mp none_ _ there
      exact absurd rfl notInsert
  · intro number agentId answered
    have ⟨status, isAnswer⟩ := answered
    have told : (world.store.states number).told = some agentId :=
      sound.keeps.keeps number _ (answer_of_returned isAnswer) status agentId rfl
    exact fits.told number agentId told

theorem stories_agree {earlier later : LaunchWorld} (sound : LaunchSound earlier)
    (soundLater : LaunchSound later)
    (moves : Forward earlier.store.store.operation later.store.store.operation) :
    Agrees earlier later := by
  constructor
  · exact moves
  · intro before after agentId otherId answered answeredLater
    have ⟨operation, status, isSaved, isAccepted⟩ :=
      (sound_story sound).answered before agentId answered
    have ⟨last, lastStatus, isLast, lastAccepted⟩ :=
      (sound_story soundLater).answered after otherId answeredLater
    have ⟨next, isNext, _, goes⟩ := moves operation isSaved
    rw [isLast] at isNext
    cases isNext
    rw [isAccepted, lastAccepted] at goes
    cases goes with
    | inl same => cases same; rfl
    | inr same => cases same; rfl

/-- While no error value hides an insert, a launch request makes at most one agent and tells one
story, in every state that is reached. -/
theorem guarded_launch_tells_one_story (history : List LaunchEvent)
    (guarded : Meets (stepLaunch recoverableProvider) Guarded newLaunch history) :
    OneStory (history.foldl (stepLaunch recoverableProvider) newLaunch) ∧
      ∀ early late, history = early ++ late →
        Agrees (early.foldl (stepLaunch recoverableProvider) newLaunch)
          (history.foldl (stepLaunch recoverableProvider) newLaunch) := by
  have sound : ∀ start events, LaunchSound start →
      Meets (stepLaunch recoverableProvider) Guarded start events →
        LaunchSound (events.foldl (stepLaunch recoverableProvider) start) := by
    intro start events soundStart meets
    apply meets_keeps meets soundStart
    intro world event isGuarded soundWorld
    exact launch_sound_step recoverableProvider event isGuarded soundWorld
  constructor
  · exact sound_story (sound newLaunch history launch_sound_start guarded)
  · intro early late split
    subst split
    have ⟨guardedEarly, guardedLate⟩ := meets_append guarded
    have soundEarly := sound newLaunch early launch_sound_start guardedEarly
    have soundLate := sound _ late soundEarly guardedLate
    rw [List.foldl_append]
    apply stories_agree soundEarly soundLate
    exact run_forward recoverableProvider _ late

end Runs

/-! ## Runs -/

def postedDigest : String := "0123456789abcdef0123456789abcdef0123456789abcdef0123456789abcdef"

def postedLaunch (operationId : String) : LaunchPost :=
  { operationId
    requestDigest := postedDigest
    intentDigest := postedDigest
    kind := .codexAgent
    deploymentMode := .hivraManaged }

def smoothTurn : LaunchTurn :=
  { fault := .none_
    verdict := .fits
    represented := true
    agentId := "agent-1"
    kickedOff := true }

def hidingTurn : LaunchTurn := { smoothTurn with fault := .lost (.error none) }

def throwingTurn : LaunchTurn := { smoothTurn with fault := .lost .thrown }

def smoothAdvances (number count : Nat) : List LaunchEvent :=
  List.replicate count (.advance number smoothTurn)

def postedRun (insert : LaunchTurn) : List LaunchEvent :=
  .start (.post (postedLaunch "operation-1")) :: smoothAdvances 0 3 ++ .advance 0 insert ::
    smoothAdvances 0 12 ++ .start .lookUp :: smoothAdvances 1 3

def noProvider : LaunchOperation → AgentRow → Bool := fun _ _ => false

theorem guarded_launch_tells_one_story_thrown :
    (OneStory ((postedRun throwingTurn).foldl (stepLaunch noProvider) newLaunch) ∧
      ∀ early late, postedRun throwingTurn = early ++ late →
        Agrees (early.foldl (stepLaunch noProvider) newLaunch)
          ((postedRun throwingTurn).foldl (stepLaunch noProvider) newLaunch)) ∧
      Answered ((postedRun throwingTurn).foldl (stepLaunch noProvider) newLaunch) 1 "agent-1" :=
  ⟨guarded_launch_tells_one_story noProvider (postedRun throwingTurn) (by decide +kernel),
    ⟨.accepted, by decide +kernel⟩⟩

/-- The receipt is failed, and the row is there. -/
theorem an_error_hides_an_insert :
    ¬OneStory ((postedRun hidingTurn).foldl (stepLaunch noProvider) newLaunch) := by
  intro story
  have spared := (story.failed
    { scope := (postedLaunch "operation-1").scope, phase := .failed 500 "agent_insert_failed" }
    (by decide +kernel) rfl).1
  exact spared (newAgentRow (postedLaunch "operation-1").scope "agent-1") (by decide +kernel) rfl

end Hivra.Launches
