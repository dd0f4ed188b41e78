import Mathlib.Data.List.Basic
import Hivra.Library.Texts

/-!
# The launch journal

The receipt that an owner's launch request leaves in `hivra_launch_operations`, and the functions
that write it.  The owner and the request are fixed here: they are the key of the row.
`hivra_launch_operation_phase_check` ties the columns to the phase, so a phase carries its columns;
`hivra_launch_operation_kind_check` leaves two kinds of resource.
-/

namespace Hivra.Launches

open Hivra.Library

inductive RuntimeId
  | codex
  | linuxDesktop
  deriving DecidableEq

/-- `hivra_launch_operation_kind_check` -/
inductive LaunchKind
  | codexAgent
  | ubuntuComputer
  deriving DecidableEq

def LaunchKind.runtimeId : LaunchKind → RuntimeId
  | .codexAgent => .codex
  | .ubuntuComputer => .linuxDesktop

def LaunchKind.computerProfile : LaunchKind → Option String
  | .codexAgent => none
  | .ubuntuComputer => some "ubuntu-desktop"

inductive ResponseStatus
  /-- 201 -/
  | created
  /-- 202 -/
  | accepted
  deriving DecidableEq

/-- `hivra_launch_operation_phase_check` -/
inductive LaunchPhase
  | reserved
  | reconciling
  | bound (agentId : String)
  | accepted (agentId : String) (responseStatus : ResponseStatus)
  | failed (failureStatus : Nat) (failureCode : String)
  deriving DecidableEq

namespace LaunchPhase

def agentId : LaunchPhase → Option String
  | .bound agentId => some agentId
  | .accepted agentId _ => some agentId
  | _ => none

def responseStatus : LaunchPhase → Option ResponseStatus
  | .accepted _ responseStatus => some responseStatus
  | _ => none

/-- `phase in ('reserved', 'reconciling')` -/
def isOpen : LaunchPhase → Bool
  | .reserved => true
  | .reconciling => true
  | _ => false

def isBound : LaunchPhase → Bool
  | .bound _ => true
  | .accepted _ _ => true
  | _ => false

def isAccepted : LaunchPhase → Bool
  | .accepted _ _ => true
  | _ => false

def isFailed : LaunchPhase → Bool
  | .failed _ _ => true
  | _ => false

end LaunchPhase

/-- `HivraLaunchOperationScope` -/
structure LaunchScope where
  operationId : String
  requestDigest : String
  intentDigest : String
  kind : LaunchKind
  deriving DecidableEq

structure LaunchOperation where
  scope : LaunchScope
  phase : LaunchPhase
  deriving DecidableEq

namespace LaunchOperation

def isOf (operation : LaunchOperation) (scope : LaunchScope) : Bool :=
  operation.scope.operationId == scope.operationId &&
    operation.scope.requestDigest == scope.requestDigest &&
      operation.scope.intentDigest == scope.intentDigest

def moveTo (operation : LaunchOperation) (phase : LaunchPhase) : LaunchOperation :=
  { operation with phase }

end LaunchOperation

inductive ComputerSubstrate
  | proxmoxKvm
  | providerVm
  deriving DecidableEq

/-- What the journal and its replay read of a row of `hivra_agents`. -/
structure AgentRow where
  id : String
  runtimeId : RuntimeId
  computerProfile : Option String
  computerSubstrate : ComputerSubstrate
  operationId : Option String
  allocationOperationId : Option String
  deriving DecidableEq

def AgentRow.isOfKind (agent : AgentRow) (kind : LaunchKind) : Bool :=
  agent.runtimeId == kind.runtimeId && agent.computerProfile == kind.computerProfile

def AgentRow.isBindable (agent : AgentRow) (scope : LaunchScope) : Bool :=
  agent.isOfKind scope.kind &&
    (agent.computerSubstrate == .providerVm || agent.operationId == some scope.operationId)

/-- `^[a-f0-9]{64}$` -/
def isDigest (digest : String) : Bool :=
  digest.toList.length == 64 && digest.toList.all isLowerHexDigit

/-- `^[a-z][a-z0-9_]{0,63}$` -/
def isFailureCode (code : String) : Bool :=
  match code.toList with
  | first :: rest =>
    first.isLower && decide (rest.length ≤ 63) &&
      rest.all fun char => char.isLower || char.isDigit || char == '_'
  | [] => false

abbrev Journaled (Result : Type) : Type := Option LaunchOperation × Result

inductive ReserveResult
  | invalidRequest
  | requestConflict
  | existing (operation : LaunchOperation)
  | reserved (operation : LaunchOperation)

def reserveHivraLaunchOperation (scope : LaunchScope) (saved : Option LaunchOperation) :
    Journaled ReserveResult :=
  if isDigest scope.requestDigest = false ∨ isDigest scope.intentDigest = false then
    (saved, .invalidRequest)
  else
    match saved with
    | some operation =>
      if operation.scope.requestDigest = scope.requestDigest then (saved, .existing operation)
      else (saved, .requestConflict)
    | none =>
      let operation := { scope, phase := .reserved }
      (some operation, .reserved operation)

abbrev Updated : Type := Journaled (Option LaunchOperation)

def unchanged (operation : LaunchOperation) (agrees : Bool) : Updated :=
  (some operation, if agrees then some operation else none)

def written (operation : LaunchOperation) : Updated := (some operation, some operation)

def bindHivraLaunchOperationAgent (agents : List AgentRow) (agentId : String)
    (operation : LaunchOperation) : Updated :=
  if operation.phase.isBound then
    unchanged operation (operation.phase.agentId == some agentId)
  else if operation.phase.isOpen then
    match agents.find? (·.id == agentId) with
    | none => unchanged operation false
    | some agent =>
      if agent.isBindable operation.scope then written (operation.moveTo (.bound agentId))
      else unchanged operation false
  else unchanged operation false

def acceptHivraLaunchOperation (agentId : String) (responseStatus : ResponseStatus)
    (operation : LaunchOperation) : Updated :=
  match operation.phase with
  | .bound held =>
    if held = agentId then written (operation.moveTo (.accepted agentId responseStatus))
    else unchanged operation false
  | .accepted held status =>
    if held = agentId then
      if status = .created ∨ status = responseStatus then unchanged operation true
      else written (operation.moveTo (.accepted agentId .created))
    else unchanged operation false
  | _ => unchanged operation false

def reconcileHivraLaunchOperation (operation : LaunchOperation) : Updated :=
  match operation.phase with
  | .failed _ _ => unchanged operation false
  | .reserved => written (operation.moveTo .reconciling)
  | _ => unchanged operation true

def failHivraLaunchOperation (failureStatus : Nat) (failureCode : String)
    (operation : LaunchOperation) : Updated :=
  if failureStatus < 400 ∨ 599 < failureStatus ∨ isFailureCode failureCode = false then
    unchanged operation false
  else
    match operation.phase with
    | .failed status code => unchanged operation (status == failureStatus && code == failureCode)
    | .reserved | .reconciling => written (operation.moveTo (.failed failureStatus failureCode))
    | _ => unchanged operation false

inductive LaunchUpdate
  | bindAgent (scope : LaunchScope) (agentId : String)
  | accept (scope : LaunchScope) (agentId : String) (responseStatus : ResponseStatus)
  | reconcile (scope : LaunchScope)
  | fail (scope : LaunchScope) (failureStatus : Nat) (failureCode : String)

namespace LaunchUpdate

def scope : LaunchUpdate → LaunchScope
  | .bindAgent scope _ => scope
  | .accept scope _ _ => scope
  | .reconcile scope => scope
  | .fail scope _ _ => scope

def move (update : LaunchUpdate) (agents : List AgentRow) (operation : LaunchOperation) : Updated :=
  match update with
  | .bindAgent _ agentId => bindHivraLaunchOperationAgent agents agentId operation
  | .accept _ agentId responseStatus =>
    acceptHivraLaunchOperation agentId responseStatus operation
  | .reconcile _ => reconcileHivraLaunchOperation operation
  | .fail _ failureStatus failureCode =>
    failHivraLaunchOperation failureStatus failureCode operation

/-- Each function first reads the row, and returns null unless it is the call's own. -/
def apply (update : LaunchUpdate) (agents : List AgentRow) (saved : Option LaunchOperation) :
    Updated :=
  match saved with
  | none => (none, none)
  | some operation =>
    if operation.isOf update.scope then update.move agents operation
    else unchanged operation false

def isFail : LaunchUpdate → Bool
  | .fail _ _ _ => true
  | _ => false

end LaunchUpdate

def LaunchPhase.GoesTo : LaunchPhase → LaunchPhase → Prop
  | .reserved, _ => True
  | .reconciling, later => later ≠ .reserved
  | .bound agentId, later => later.agentId = some agentId
  | .accepted agentId status, later =>
    later = .accepted agentId status ∨ later = .accepted agentId .created
  | .failed status code, later => later = .failed status code

theorem goes_to_refl (phase : LaunchPhase) : phase.GoesTo phase := by
  cases phase <;> simp [LaunchPhase.GoesTo, LaunchPhase.agentId]

theorem goes_to_trans {first second third : LaunchPhase} (early : first.GoesTo second)
    (late : second.GoesTo third) : first.GoesTo third := by
  cases first with
  | reserved => trivial
  | reconciling =>
    intro isReserved
    subst isReserved
    cases second with
    | reserved => exact early rfl
    | reconciling => exact late rfl
    | bound agentId => cases late
    | accepted agentId status => cases late <;> contradiction
    | failed status code => cases late
  | bound agentId =>
    cases second with
    | bound held =>
      cases early
      exact late
    | accepted held status =>
      cases early
      cases late with
      | inl same => rw [LaunchPhase.GoesTo, same, LaunchPhase.agentId]
      | inr same => rw [LaunchPhase.GoesTo, same, LaunchPhase.agentId]
    | _ => cases early
  | accepted agentId status =>
    cases early with
    | inl same =>
      subst same
      exact late
    | inr same =>
      subst same
      cases late with
      | inl same => exact .inr same
      | inr same => exact .inr same
  | failed status code =>
    cases early
    exact late

def Forward (before after : Option LaunchOperation) : Prop :=
  ∀ operation, before = some operation → ∃ later, after = some later ∧
    later.scope = operation.scope ∧ operation.phase.GoesTo later.phase

theorem forward_refl (saved : Option LaunchOperation) : Forward saved saved := by
  intro operation isSaved
  exact ⟨operation, isSaved, rfl, goes_to_refl _⟩

theorem forward_trans {first second third : Option LaunchOperation} (early : Forward first second)
    (late : Forward second third) : Forward first third := by
  intro operation isFirst
  have ⟨next, isSecond, sameScope, moved⟩ := early operation isFirst
  have ⟨last, isThird, sameNext, movedOn⟩ := late next isSecond
  exact ⟨last, isThird, sameNext.trans sameScope, goes_to_trans moved movedOn⟩

theorem forward_some {operation later : LaunchOperation} (scope : later.scope = operation.scope)
    (moves : operation.phase.GoesTo later.phase) : Forward (some operation) (some later) := by
  intro held isHeld
  cases isHeld
  exact ⟨later, rfl, scope, moves⟩

theorem reserve_forward (scope : LaunchScope) (saved : Option LaunchOperation) :
    Forward saved (reserveHivraLaunchOperation scope saved).1 := by
  unfold reserveHivraLaunchOperation
  split
  · exact forward_refl saved
  · cases saved with
    | none =>
      intro operation isSaved
      cases isSaved
    | some operation =>
      dsimp only
      split <;> exact forward_refl _

structure Moves (operation : LaunchOperation) (updated : Updated) : Prop where
  forward : Forward (some operation) updated.1
  answers : ∀ answer, updated.2 = some answer → updated.1 = some answer

theorem unchanged_moves (operation : LaunchOperation) (agrees : Bool) :
    Moves operation (unchanged operation agrees) := by
  constructor
  · exact forward_refl _
  · intro answer isAnswer
    cases agrees with
    | false => cases isAnswer
    | true => exact isAnswer

theorem written_moves {operation : LaunchOperation} {phase : LaunchPhase}
    (moves : operation.phase.GoesTo phase) : Moves operation (written (operation.moveTo phase)) :=
  ⟨forward_some rfl moves, fun _ isAnswer => isAnswer⟩

theorem open_goes_to {phase later : LaunchPhase} (isOpen : phase.isOpen = true)
    (apart : later ≠ .reserved) : phase.GoesTo later := by
  cases phase with
  | reserved => trivial
  | reconciling => exact apart
  | _ => cases isOpen

theorem bind_moves (agents : List AgentRow) (agentId : String) (operation : LaunchOperation) :
    Moves operation (bindHivraLaunchOperationAgent agents agentId operation) := by
  unfold bindHivraLaunchOperationAgent
  split
  · exact unchanged_moves operation _
  · split
    · rename_i isOpen
      split
      · exact unchanged_moves operation _
      · split
        · apply written_moves
          apply open_goes_to isOpen
          simp
        · exact unchanged_moves operation _
    · exact unchanged_moves operation _

theorem accept_moves (agentId : String) (responseStatus : ResponseStatus)
    (operation : LaunchOperation) :
    Moves operation (acceptHivraLaunchOperation agentId responseStatus operation) := by
  unfold acceptHivraLaunchOperation
  split
  · rename_i held isBound
    split
    · rename_i same
      apply written_moves
      rw [isBound, same]
      rfl
    · exact unchanged_moves operation _
  · rename_i held status isAccepted
    split
    · rename_i same
      split
      · exact unchanged_moves operation _
      · apply written_moves
        rw [isAccepted, same]
        exact .inr rfl
    · exact unchanged_moves operation _
  · exact unchanged_moves operation _

theorem reconcile_moves (operation : LaunchOperation) :
    Moves operation (reconcileHivraLaunchOperation operation) := by
  unfold reconcileHivraLaunchOperation
  split
  · exact unchanged_moves operation _
  · rename_i isReserved
    apply written_moves
    rw [isReserved]
    trivial
  · exact unchanged_moves operation _

theorem fail_moves (failureStatus : Nat) (failureCode : String) (operation : LaunchOperation) :
    Moves operation (failHivraLaunchOperation failureStatus failureCode operation) := by
  unfold failHivraLaunchOperation
  split
  · exact unchanged_moves operation _
  · split
    · exact unchanged_moves operation _
    · rename_i isOpen
      apply written_moves
      apply open_goes_to
      · rw [isOpen]
        rfl
      · simp
    · rename_i isOpen
      apply written_moves
      apply open_goes_to
      · rw [isOpen]
        rfl
      · simp
    · exact unchanged_moves operation _

theorem move_moves (update : LaunchUpdate) (agents : List AgentRow) (operation : LaunchOperation) :
    Moves operation (update.move agents operation) := by
  cases update with
  | bindAgent scope agentId => exact bind_moves agents agentId operation
  | accept scope agentId responseStatus => exact accept_moves agentId responseStatus operation
  | reconcile scope => exact reconcile_moves operation
  | fail scope failureStatus failureCode => exact fail_moves failureStatus failureCode operation

variable (update : LaunchUpdate) (agents : List AgentRow)

theorem apply_forward (saved : Option LaunchOperation) :
    Forward saved (update.apply agents saved).1 := by
  cases saved with
  | none => exact forward_refl _
  | some operation =>
    unfold LaunchUpdate.apply
    dsimp only
    split
    · exact (move_moves update agents operation).forward
    · exact forward_refl _

theorem apply_answers {saved : Option LaunchOperation} {answer : LaunchOperation}
    (isAnswer : (update.apply agents saved).2 = some answer) :
    (update.apply agents saved).1 = some answer := by
  cases saved with
  | none => cases isAnswer
  | some operation =>
    unfold LaunchUpdate.apply at isAnswer ⊢
    dsimp only at isAnswer ⊢
    split
    · rename_i isOf
      rw [if_pos isOf] at isAnswer
      exact (move_moves update agents operation).answers answer isAnswer
    · rename_i isOf
      rw [if_neg isOf] at isAnswer
      exact (unchanged_moves operation false).answers answer isAnswer

/-- Only `fail_hivra_launch_operation` ends a receipt in `failed`. -/
theorem apply_failed {saved : Option LaunchOperation} {later : LaunchOperation}
    (left : (update.apply agents saved).1 = some later) (failed : later.phase.isFailed = true) :
    update.isFail = true ∨ saved = some later := by
  cases saved with
  | none => cases left
  | some operation =>
    unfold LaunchUpdate.apply at left
    dsimp only at left
    split at left
    · cases update with
      | fail scope failureStatus failureCode => exact .inl rfl
      | bindAgent scope agentId =>
        right
        simp only [LaunchUpdate.move, bindHivraLaunchOperationAgent] at left
        split at left
        · exact left
        · split at left
          · split at left
            · exact left
            · split at left
              · cases left
                cases failed
              · exact left
          · exact left
      | accept scope agentId responseStatus =>
        right
        simp only [LaunchUpdate.move, acceptHivraLaunchOperation] at left
        split at left
        · split at left
          · cases left
            cases failed
          · exact left
        · split at left
          · split at left
            · exact left
            · cases left
              cases failed
          · exact left
        · exact left
      | reconcile scope =>
        right
        simp only [LaunchUpdate.move, reconcileHivraLaunchOperation] at left
        split at left
        · exact left
        · cases left
          cases failed
        · exact left
    · exact .inr left

end Hivra.Launches
