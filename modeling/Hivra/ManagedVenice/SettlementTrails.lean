import Hivra.Library.Typestates
import Hivra.ManagedVenice.Settlement

/-!
# What a settlement leaves behind

Followed from its first request, a settlement finds its hold and captures a cost.  The capture
closes the hold, or it fails and an item may be filed in its place.  What the settlement does
after the hold is closed or the item filed changes no more of that.  Apart from its capture a
settlement that files an item has met no failure: one that does goes astray.
-/

namespace Hivra.ManagedVenice

open Hivra.Library
open Hivra.Library.Typestate
open Hivra.Venice

inductive Trail
  | untouched
  /-- A capture of the cost has failed. -/
  | failed (costMicroUsd : Nat)
  /-- The capture of the cost has closed the hold. -/
  | closed (costMicroUsd : Nat)
  /-- An item has been filed, in place of the capture of the cost if there was one. -/
  | filed (costMicroUsd : Option Nat) (metadata : ItemMetadata)
  /-- A read did not find the hold or its account, the hold had been settled, or a statement
  other than the capture failed. -/
  | astray
  deriving DecidableEq

def Trail.ended : Trail → Bool
  | .closed _ => true
  | .filed _ _ => true
  | .astray => true
  | .untouched => false
  | .failed _ => false

def Trail.file (metadata : ItemMetadata) : Trail → Trail
  | .untouched => .filed none metadata
  | .failed costMicroUsd => .filed (some costMicroUsd) metadata
  | trail => trail

def Trail.stray (trail : Trail) : Trail :=
  if trail.ended then trail else .astray

def trailMoves (hold : Reservation) : (statement : Statement) → statement.Reply → Trail → Trail
  | .captureReservation _ costMicroUsd _ _ _, .error _, .untouched => .failed costMicroUsd
  | .captureReservation _ costMicroUsd _ _ _, .ok reply, .untouched =>
    if reply.captured then .closed costMicroUsd else .astray
  | .insertReconciliationItem item, .ok _, trail => trail.file item.metadata
  | .loadReservation _ _, .ok found, trail => if found = some hold then trail else trail.stray
  | .loadWalletAccount _ _, .ok found, trail => if found.isSome then trail else trail.stray
  | _, .error _, trail => trail.stray
  | _, .ok _, trail => trail

def settlementTrail (hold : Reservation) : Typestate Statement Statement.Reply Trail :=
  { fresh := .untouched
    permits := fun _ _ => True
    moves := trailMoves hold }

variable {hold : Reservation} {Outcome : Type} {trail : Trail}

abbrev EndsOn (hold : Reservation) (holds : Trail → Prop) (script : Settlement Outcome)
    (trail : Trail) : Prop :=
  (settlementTrail hold).Keeps (fun _ => holds) (fun _ => holds) script trail

theorem ends_on_mono {narrow holds : Trail → Prop} {script : Settlement Outcome}
    (ends : EndsOn hold narrow script trail) (weakens : ∀ next, narrow next → holds next) :
    EndsOn hold holds script trail :=
  keeps_mono ends (fun _ => weakens) fun _ => weakens

theorem stray_ended (trail : Trail) : trail.stray.ended = true := by
  unfold Trail.stray
  cases ended : trail.ended with
  | true => exact ended
  | false => rfl

theorem moves_ended (ended : trail.ended = true) (statement : Statement)
    (reply : statement.Reply) : trailMoves hold statement reply trail = trail := by
  have stray : trail.stray = trail := if_pos ended
  have file : ∀ metadata, trail.file metadata = trail := by
    intro metadata
    cases trail with
    | untouched | failed _ => cases ended
    | closed _ | filed _ _ | astray => rfl
  unfold trailMoves
  split
  · cases ended
  · cases ended
  · exact file _
  · split
    · rfl
    · exact stray
  · split
    · rfl
    · exact stray
  · exact stray
  · rfl

theorem trail_ended (ended : trail.ended = true) (script : Settlement Outcome) :
    EndsOn hold (· = trail) script trail := by
  induction script with
  | ret outcome => rfl
  | raise failure => rfl
  | call statement next ih =>
    constructor
    · trivial
    · intro reply
      have same : (settlementTrail hold).moves statement reply trail = trail :=
        moves_ended ended statement reply
      rw [same]
      exact ih reply

/-- The reply of the statement says nothing of the hold but that the statement failed. -/
def Statement.isAside : Statement → Bool
  | .loadReservation .. => false
  | .captureReservation .. => false
  | .insertReconciliationItem .. => false
  | .loadWalletAccount .. => false
  | _ => true

variable {statement : Statement}

theorem moves_aside (aside : statement.isAside = true)
    (answer : statement.Answer) : trailMoves hold statement (.ok answer) trail = trail := by
  cases statement <;> first | (cases trail <;> rfl) | cases aside

theorem moves_aside_error (aside : statement.isAside = true)
    (failure : SqlError) : trailMoves hold statement (.error failure) trail = trail.stray := by
  cases statement <;> first | (cases trail <;> rfl) | cases aside

theorem trail_ask {done : statement.Answer → Trail → Prop} {failed : SettlementError → Trail → Prop}
    (answers : ∀ answer, done answer (trailMoves hold statement (.ok answer) trail))
    (fails : ∀ failure,
      failed (.statement failure) (trailMoves hold statement (.error failure) trail)) :
    (settlementTrail hold).Keeps done failed (ask statement) trail := by
  apply keeps_bind (fun reply next => next = trailMoves hold statement reply trail)
  · apply keeps_request
    · trivial
    · intro reply
      rfl
  · intro reply next same
    subst same
    cases reply with
    | ok answer => exact answers answer
    | error failure => exact fails failure

theorem trail_ask_aside (aside : statement.isAside = true) :
    (settlementTrail hold).Keeps (fun _ next => next = trail) (fun _ next => next = trail.stray)
      (ask statement) trail := by
  apply trail_ask
  · intro answer
    exact moves_aside aside answer
  · intro failure
    exact moves_aside_error aside failure

theorem trail_require_user_id (userId : String) :
    (settlementTrail hold).Keeps (fun _ next => next = trail ∧ isEmptyText userId = false)
      (fun failure next => next = trail ∧ isEmptyText userId = true ∧ failure = .userIdRequired)
      (requireUserId userId) trail := by
  unfold requireUserId
  cases empty : isEmptyText userId with
  | true => exact ⟨rfl, rfl, rfl⟩
  | false => exact ⟨rfl, rfl⟩

theorem trail_require_reference_id (referenceId : String) :
    (settlementTrail hold).Keeps (fun _ next => next = trail ∧ isEmptyText referenceId = false)
      (fun failure next =>
        next = trail ∧ isEmptyText referenceId = true ∧ failure = .referenceIdRequired)
      (requireReferenceId referenceId) trail := by
  unfold requireReferenceId
  cases empty : isEmptyText referenceId with
  | true => exact ⟨rfl, rfl, rfl⟩
  | false => exact ⟨rfl, rfl⟩

theorem trail_load_account (purpose : AccountUse) (userId : String) : (settlementTrail hold).Keeps
      (fun found next => next = trail ∧ found.isSome = true ∨ next = trail.stray)
      (fun _ next => next = trail.stray) (ask (.loadWalletAccount purpose userId)) trail := by
  apply trail_ask
  · intro found
    cases found with
    | some account => exact .inl ⟨by cases trail <;> rfl, rfl⟩
    | none => exact .inr (by cases trail <;> rfl)
  · intro failure
    cases trail <;> rfl

theorem trail_ensure_account (purpose : AccountUse) (userId : String) :
    (settlementTrail hold).Keeps (fun _ next => next = trail ∨ next = trail.stray)
      (fun _ next => next = trail.stray ∨ next = trail ∧ isEmptyText userId = true)
      (ensureManagedVeniceWalletAccount purpose userId) trail := by
  apply keeps_bind (fun _ next => next = trail)
  · apply keeps_mono (trail_require_user_id userId)
    · intro _ _ required
      exact required.1
    · intro _ _ required
      exact .inr ⟨required.1, required.2.1⟩
  · intro _ next same
    subst same
    apply keeps_bind (fun found later =>
      later = next ∧ found.isSome = true ∨ later = next.stray)
    · apply keeps_mono (trail_load_account purpose userId)
      · intro _ _ loaded
        exact loaded
      · intro _ _ strays
        exact .inl strays
    · intro found later loaded
      obtain ⟨same, isFound⟩ | strays := loaded
      · subst same
        cases found with
        | some account => exact .inl rfl
        | none => cases isFound
      · subst strays
        apply keeps_mono (trail_ended (stray_ended next) _)
        · intro _ _ same
          exact .inr same
        · intro _ _ same
          exact .inl same

theorem trail_mark (userId : String) (proxyKeyId : Option String) (referenceId reason : String)
    (metadata : ItemMetadata) (pauseKey : Bool) : (settlementTrail hold).Keeps
      (fun _ next => next = trail.file { metadata with referenceId := some referenceId } ∨
        next = trail.stray)
      (fun _ next => next = trail.file { metadata with referenceId := some referenceId } ∨
        next = trail.stray ∨ next = trail ∧ isEmptyText userId = true)
      (markManagedVeniceReconciliationRequired userId proxyKeyId referenceId reason metadata
        pauseKey) trail := by
  apply keeps_bind (fun _ next => next = trail ∨ next = trail.stray)
  · apply keeps_mono (trail_ensure_account (.reconciliationItem reason) userId)
    · intro _ _ ensured
      exact ensured
    · intro _ _ ensured
      exact .inr ensured
  · intro account next ensured
    obtain same | strays := ensured
    · subst same
      have inserted : ∀ (proxyKeyId : Option String), (settlementTrail hold).Keeps
          (fun _ later => later = next.file { metadata with referenceId := some referenceId })
          (fun _ later => later = next.stray)
          (ask (.insertReconciliationItem
            { userId
              accountId := account.id
              proxyKeyId
              reason
              metadata := { metadata with referenceId := some referenceId } })) next := by
        intro proxyKeyId
        apply trail_ask
        · intro _
          cases next <;> rfl
        · intro _
          cases next <;> rfl
      apply keeps_bind (fun _ later =>
        later = next.file { metadata with referenceId := some referenceId })
      · apply keeps_mono (inserted proxyKeyId)
        · intro _ _ same
          exact same
        · intro _ _ strays
          exact .inr (.inl strays)
      · intro _ later isLater
        have filed : later.ended = true := by
          subst isLater
          cases next <;> rfl
        apply keeps_mono (trail_ended filed _)
        · intro _ _ same
          exact .inl (same.trans isLater)
        · intro _ _ same
          exact .inl (same.trans isLater)
    · subst strays
      apply keeps_mono (trail_ended (stray_ended trail) _)
      · intro _ _ same
        exact .inr same
      · intro _ _ same
        exact .inr (.inl same)

structure CaptureFailed (failure : SettlementError) (userId referenceId : String)
    (costMicroUsd : Nat) (next : Trail) : Prop where
  cases : next = .failed costMicroUsd ∨
    next = .untouched ∧ (isEmptyText userId = true ∨ isEmptyText referenceId = true)
  notVenice : ∀ reason, failure ≠ .venice reason

theorem trail_capture (path : SettlementPath) (costMicroUsd : Nat) (userId referenceId : String)
    (captureMicroUsd : Nat) : (settlementTrail hold).Keeps
      (fun reply next => next = if reply.captured then .closed costMicroUsd else .astray)
      (fun failure next => CaptureFailed failure userId referenceId costMicroUsd next)
      (Settlement.captureManagedVeniceReservation path costMicroUsd userId referenceId
        captureMicroUsd) .untouched := by
  have user : (settlementTrail hold).Keeps (fun _ next => next = .untouched)
      (fun failure next => CaptureFailed failure userId referenceId costMicroUsd next)
      (requireUserId userId) .untouched := by
    apply keeps_mono (trail_require_user_id userId)
    · intro _ _ required
      exact required.1
    · intro failure next ⟨same, empty, isFailure⟩
      constructor
      · exact .inr ⟨same, .inl empty⟩
      · simp [isFailure]
  apply keeps_bind _ user
  intro _ next same
  subst same
  have reference : (settlementTrail hold).Keeps (fun _ next => next = .untouched)
      (fun failure next => CaptureFailed failure userId referenceId costMicroUsd next)
      (requireReferenceId referenceId) .untouched := by
    apply keeps_mono (trail_require_reference_id referenceId)
    · intro _ _ required
      exact required.1
    · intro failure next ⟨same, empty, isFailure⟩
      constructor
      · exact .inr ⟨same, .inr empty⟩
      · simp [isFailure]
  apply keeps_bind _ reference
  intro _ next same
  subst same
  constructor
  · trivial
  · intro reply
    cases reply with
    | ok answer => rfl
    | error failure =>
      constructor
      · exact .inl rfl
      · intro reason
        cases failure <;> simp [walletFailure]

end Hivra.ManagedVenice
