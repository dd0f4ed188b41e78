import Hivra.RemoteDesktop.DesktopFunctions

/-!
# What a call does to the sessions

Every call moves each session by itself, and at most adds one.  A session that is live for
input when the call ends was live when it began; it takes over only by its confirmation,
and, once it has taken over, is released only by its own confirmation or by a new boot of
the guest.
-/

namespace Hivra.RemoteDesktop

open Hivra.Library
open Hivra.AgentNetwork (Uuid Raised refuse_if_ok bind_ok raise_ne_ok)

/-- A call; `ownerActive` is what the computer's own row says then. -/
inductive DesktopCall
  | record (userId : String) (computer : ComputerRef) (generation : Uuid)
      (receipt : Option CapabilityReceipt) (expiresAt : Int) (ownerActive : Bool)
  | recordV2 (userId : String) (computer : ComputerRef) (generation : Uuid)
      (receipt : Option CapabilityReceipt) (expiresAt : Int) (bootIdentitySha256 : String)
      (ownerActive : Bool)
  | revokeCapability (userId : String) (computer : ComputerRef) (generation : Uuid)
  | issue (request : IssueRequest) (ownerActive : Bool)
  | exchange (exchangeCodeHash pkceChallenge sessionTokenHash : String) (ownerActive : Bool)
  | confirmTakeover (userId : String) (sessionId : Uuid) (receipt : Option InputReceipt)
  | confirmRelease (userId : String) (sessionId : Uuid) (receipt : Option InputReceipt)
  | confirmByToken (sessionTokenHash : String) (receipt : Option InputReceipt)
  | authorize (sessionTokenHash : String) (computer : ComputerRef) (transport : Transport)
      (wantsInput ownerActive : Bool)
  | renew (sessionTokenHash : String) (ttlSeconds : Nat) (ownerActive : Bool)
  | revoke (userId : String) (sessionId : Uuid) (reason : String)
  | revokeByToken (sessionTokenHash reason : String)

structure DesktopEvent where
  instants : Instants
  call : DesktopCall

def settle (store : DesktopStore) : Except Raised (CapabilityAnswer × DesktopStore) → DesktopStore
  | .ok (_, next) => next
  | .error _ => store

def DesktopEvent.run (event : DesktopEvent) (store : DesktopStore) : DesktopStore :=
  match event.call with
  | .record userId computer generation receipt expiresAt ownerActive =>
    settle store (recordCapability event.instants userId computer generation receipt expiresAt
      ownerActive store)
  | .recordV2 userId computer generation receipt expiresAt boot ownerActive =>
    settle store (recordCapabilityV2 event.instants userId computer generation receipt expiresAt
      boot ownerActive store)
  | .revokeCapability userId computer generation =>
    (revokeCapability event.instants userId computer generation store).2
  | .issue request ownerActive => (issueSession event.instants request ownerActive store).2
  | .exchange exchangeCodeHash pkceChallenge sessionTokenHash ownerActive =>
    (exchangeSession event.instants exchangeCodeHash pkceChallenge sessionTokenHash ownerActive
      store).2
  | .confirmTakeover userId sessionId receipt =>
    (confirmTakeover event.instants userId sessionId receipt store).2
  | .confirmRelease userId sessionId receipt =>
    (confirmRelease event.instants userId sessionId receipt store).2
  | .confirmByToken sessionTokenHash receipt =>
    (confirmInputTransitionByToken event.instants sessionTokenHash receipt store).2
  | .authorize sessionTokenHash computer transport wantsInput ownerActive =>
    (authorizeSession event.instants sessionTokenHash computer transport wantsInput ownerActive
      store).2
  | .renew sessionTokenHash ttlSeconds ownerActive =>
    (renewSessionByToken event.instants sessionTokenHash ttlSeconds ownerActive store).2
  | .revoke userId sessionId reason =>
    (revokeSession event.instants userId sessionId reason store).2
  | .revokeByToken sessionTokenHash reason =>
    (revokeSessionByToken event.instants sessionTokenHash reason store).2

def DesktopStore.step (store : DesktopStore) (event : DesktopEvent) : DesktopStore :=
  { event.run store with clock := event.instants.finish store.clock }

def DesktopStore.after (store : DesktopStore) (history : List DesktopEvent) : DesktopStore :=
  history.foldl DesktopStore.step store

def ConfirmsTakeover (store : DesktopStore) (event : DesktopEvent) (id : Uuid) : Prop :=
  match event.call with
  | .confirmTakeover userId sessionId receipt =>
    sessionId = id ∧
      (confirmTakeover event.instants userId sessionId receipt store).1 = true
  | .confirmByToken hash receipt =>
    (∃ session, store.sessionByToken? hash = some session ∧ session.id = id) ∧
      (receipt.any fun receipt => receipt.action == "agent-input-suspended") = true ∧
      (confirmInputTransitionByToken event.instants hash receipt store).1 = true
  | _ => False

def ConfirmsRelease (store : DesktopStore) (event : DesktopEvent) (id : Uuid) : Prop :=
  match event.call with
  | .confirmRelease userId sessionId receipt =>
    sessionId = id ∧ (confirmRelease event.instants userId sessionId receipt store).1 = true
  | .confirmByToken hash receipt =>
    (∃ session, store.sessionByToken? hash = some session ∧ session.id = id) ∧
      (receipt.any fun receipt => receipt.action == "agent-input-resumed") = true ∧
      (confirmInputTransitionByToken event.instants hash receipt store).1 = true
  | _ => False

def ProvesReboot (store : DesktopStore) (event : DesktopEvent) (session : Session) : Prop :=
  match event.call with
  | .recordV2 userId computer _ _ _ boot _ =>
    ∃ previous, store.capability? computer = some previous ∧
      previous.rebooted userId boot = true ∧ previous.fences session = true
  | _ => False

structure SessionSound (session : Session) : Prop where
  shape : session.inputRole = .viewer ↔ session.inputState = .notRequested
  revoked : session.inputState = .releasePending ∨ session.inputState = .released →
    session.revokedAt.isSome = true
  unrevoked : session.inputState = .takeoverPending ∨ session.inputState = .active →
    session.revokedAt = none
  pending : session.inputState = .takeoverPending → session.takeoverReceipt = none
  active : session.inputState = .active → session.takeoverReceipt.isSome = true

structure Session.LiveAt (session : Session) (now : Int) : Prop where
  unrevoked : session.revokedAt = none
  state : session.inputState = .takeoverPending ∨ session.inputState = .active
  unexpired : now < session.expiresAt

structure Session.HandedBack (session : Session) : Prop where
  taken : session.takeoverReceipt.isSome = true
  released : session.inputState = .released

structure SessionMoves (store : DesktopStore) (event : DesktopEvent) (old new : Session) :
    Prop where
  id : new.id = old.id
  computer : new.computer = old.computer
  userId : new.userId = old.userId
  generation : new.capabilityGeneration = old.capabilityGeneration
  role : new.inputRole = old.inputRole
  revoked : new.revokedAt = none → old.revokedAt = none
  live : new.LiveAt (event.instants.finish store.clock) → old.LiveAt store.clock
  sound : SessionSound new
  taken : new.takeoverReceipt.isSome = true →
    old.takeoverReceipt.isSome = true ∨ ConfirmsTakeover store event old.id
  handedBack : new.HandedBack → old.HandedBack ∨ ConfirmsRelease store event old.id ∨
    ProvesReboot store event old

section Moves

variable {store : DesktopStore} {event : DesktopEvent} {old new : Session}

theorem start_le_finish : store.clock ≤ event.instants.finish store.clock :=
  event.instants.start_le_clock store.clock 3

section

variable (sound : SessionSound old)
include sound

theorem moves_kept (id : new.id = old.id)
    (computer : new.computer = old.computer) (userId : new.userId = old.userId)
    (generation : new.capabilityGeneration = old.capabilityGeneration)
    (role : new.inputRole = old.inputRole) (state : new.inputState = old.inputState)
    (revokedAt : new.revokedAt = old.revokedAt) (taken : new.takeoverReceipt = old.takeoverReceipt)
    (expires : new.LiveAt (event.instants.finish store.clock) → store.clock < old.expiresAt) :
    SessionMoves store event old new := by
  constructor
  · exact id
  · exact computer
  · exact userId
  · exact generation
  · exact role
  · rw [revokedAt]
    exact fun unrevoked => unrevoked
  · intro live
    exact ⟨revokedAt ▸ live.unrevoked, state ▸ live.state, expires live⟩
  · constructor
    · rw [role, state]
      exact sound.shape
    · rw [state, revokedAt]
      exact sound.revoked
    · rw [state, revokedAt]
      exact sound.unrevoked
    · rw [state, taken]
      exact sound.pending
    · rw [state, taken]
      exact sound.active
  · rw [taken]
    exact .inl
  · intro handedBack
    exact .inl ⟨taken ▸ handedBack.taken, state ▸ handedBack.released⟩

theorem moves_unextended (id : new.id = old.id)
    (computer : new.computer = old.computer) (userId : new.userId = old.userId)
    (generation : new.capabilityGeneration = old.capabilityGeneration)
    (role : new.inputRole = old.inputRole) (state : new.inputState = old.inputState)
    (revokedAt : new.revokedAt = old.revokedAt)
    (taken : new.takeoverReceipt = old.takeoverReceipt) (expiresAt : new.expiresAt = old.expiresAt) :
    SessionMoves store event old new := by
  apply moves_kept sound id computer userId generation role state revokedAt taken
  intro live
  have order := @start_le_finish store event
  have unexpired := live.unexpired
  omega

theorem moves_refl : SessionMoves store event old old :=
  moves_unextended sound rfl rfl rfl rfl rfl rfl rfl rfl rfl

omit sound in
theorem state_revoked (session : Session) :
    session.inputState = .active ∧ session.inputStateRevoked = .releasePending ∨
      session.inputState ≠ .active ∧ session.inputRole = .controller ∧
        session.inputStateRevoked = .released ∨
      session.inputState ≠ .active ∧ session.inputRole ≠ .controller ∧
        session.inputStateRevoked = session.inputState := by
  unfold Session.inputStateRevoked
  by_cases active : session.inputState = .active
  · simp [active]
  · by_cases controls : session.inputRole = .controller
    · simp [active, controls]
    · simp [active, controls]

theorem moves_revoked (unrevoked : old.revokedAt = none)
    (id : new.id = old.id) (computer : new.computer = old.computer)
    (userId : new.userId = old.userId)
    (generation : new.capabilityGeneration = old.capabilityGeneration)
    (role : new.inputRole = old.inputRole) (state : new.inputState = old.inputStateRevoked)
    (revokedAt : new.revokedAt.isSome = true) (taken : new.takeoverReceipt = old.takeoverReceipt) :
    SessionMoves store event old new := by
  have notNone : new.revokedAt ≠ none := by
    intro isNone
    rw [isNone] at revokedAt
    cases revokedAt
  have viewer (notController : old.inputRole ≠ .controller) :
      old.inputRole = .viewer := by
    cases isRole : old.inputRole with
    | controller => exact absurd isRole notController
    | viewer => rfl
  constructor
  · exact id
  · exact computer
  · exact userId
  · exact generation
  · exact role
  · intro isNone
    exact absurd isNone notNone
  · intro live
    exact absurd live.unrevoked notNone
  · constructor
    · rw [role, state]
      rcases state_revoked old with ⟨active, pending⟩ | ⟨_, controls, released⟩ | ⟨_, views, same⟩
      · rw [pending, sound.shape, active]
        simp
      · rw [released, controls]
        simp
      · rw [same]
        exact sound.shape
    · intro _
      exact revokedAt
    all_goals
      rw [state]
      rcases state_revoked old with ⟨_, pending⟩ | ⟨_, _, released⟩ | ⟨_, views, same⟩
      · simp [pending]
      · simp [released]
      · simp [same, sound.shape.mp (viewer views)]
  · rw [taken]
    exact .inl
  · -- A session that is not revoked and not active has not taken over.
    intro handedBack
    exfalso
    have released := handedBack.released
    have took := handedBack.taken
    rw [taken] at took
    rw [state] at released
    rcases state_revoked old with ⟨_, pending⟩ | ⟨notActive, controls, _⟩ | ⟨_, views, same⟩
    · rw [pending] at released
      cases released
    · cases isState : old.inputState with
      | notRequested =>
        have isViewer := sound.shape.mpr isState
        rw [controls] at isViewer
        cases isViewer
      | takeoverPending =>
        rw [sound.pending isState] at took
        cases took
      | active => exact notActive isState
      | releasePending =>
        have revoked := sound.revoked (.inl isState)
        rw [unrevoked] at revoked
        cases revoked
      | released =>
        have revoked := sound.revoked (.inr isState)
        rw [unrevoked] at revoked
        cases revoked
    · rw [same, sound.shape.mp (viewer views)] at released
      cases released

theorem revoke_moves (unrevoked : old.revokedAt = none) (now : Int)
    (reason : String) : SessionMoves store event old (old.revoke now reason) :=
  moves_revoked sound unrevoked rfl rfl rfl rfl rfl rfl rfl rfl

theorem expire_moves (unrevoked : old.revokedAt = none) (now : Int) :
    SessionMoves store event old (old.expire now) :=
  moves_revoked sound unrevoked rfl rfl rfl rfl rfl rfl rfl rfl

theorem revokeOne_moves (unrevoked : old.revokedAt = none) (now : Int)
    (reason : String) : SessionMoves store event old (old.revokeOne now reason) :=
  moves_revoked sound unrevoked rfl rfl rfl rfl rfl rfl rfl rfl

omit sound in
theorem moves_released (controls : old.inputRole = .controller)
    (id : new.id = old.id) (computer : new.computer = old.computer)
    (userId : new.userId = old.userId)
    (generation : new.capabilityGeneration = old.capabilityGeneration)
    (role : new.inputRole = old.inputRole) (state : new.inputState = .released)
    (revokedAt : new.revokedAt.isSome = true) (taken : new.takeoverReceipt = old.takeoverReceipt)
    (by_ : ConfirmsRelease store event old.id ∨ ProvesReboot store event old) :
    SessionMoves store event old new := by
  have notNone : new.revokedAt ≠ none := by
    intro isNone
    rw [isNone] at revokedAt
    cases revokedAt
  constructor
  · exact id
  · exact computer
  · exact userId
  · exact generation
  · exact role
  · intro isNone
    exact absurd isNone notNone
  · intro live
    exact absurd live.unrevoked notNone
  · constructor
    · rw [role, state, controls]
      simp
    · intro _
      exact revokedAt
    · simp [state]
    · simp [state]
    · simp [state]
  · rw [taken]
    exact .inl
  · intro _
    exact .inr by_

theorem takeover_moves (pending : old.inputState = .takeoverPending)
    (unexpired : store.clock < old.expiresAt) (receipt : InputReceipt)
    (confirms : ConfirmsTakeover store event old.id) : SessionMoves store event old
      { old with inputState := .active, takeoverReceipt := some receipt } := by
  have unrevoked := sound.unrevoked (.inl pending)
  constructor
  · rfl
  · rfl
  · rfl
  · rfl
  · rfl
  · exact fun isNone => isNone
  · intro live
    exact ⟨unrevoked, .inl pending, unexpired⟩
  · constructor
    · have shape := sound.shape
      rw [pending] at shape
      simpa using shape
    · simp
    · intro _
      exact unrevoked
    · simp
    · simp
  · intro _
    exact .inr confirms
  · intro handedBack
    cases handedBack.released

end

end Moves

end Hivra.RemoteDesktop
