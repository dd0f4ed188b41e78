import Hivra.RemoteDesktop.DesktopRuns

/-!
# Calls about one session

Each of them moves that session, or none, and leaves the capabilities alone.
-/

namespace Hivra.RemoteDesktop

open Hivra.Library
open Hivra.AgentNetwork (Uuid Raised refuse_if_ok bind_ok raise_ne_ok)

/-- The sessions stay, each moved as the event allows. -/
def SessionsMoved (store : DesktopStore) (event : DesktopEvent) (next : DesktopStore) : Prop :=
  ∃ move : Session → Session, next.sessions.rows = store.sessions.rows.map move ∧
    ∀ session ∈ store.sessions, SessionMoves store event session (move session)

variable {receipt : Option InputReceipt} {session : Session}

variable {sessionId : Uuid} {ownerActive : Bool}

section Effects

variable {store next : DesktopStore} {event : DesktopEvent}

theorem same_session {left right : Session} (leftThere : left ∈ store.sessions)
    (rightThere : right ∈ store.sessions) (same : left.id = right.id) : left = right := by
  have entry : SessionKey.id left.id ∈ right.entries := by
    rw [same]
    exact right.entries_id
  exact Table.eq_of_shared_entry leftThere rightThere left.entries_id entry

theorem same_capability {left right : Capability} (leftThere : left ∈ store.capabilities)
    (rightThere : right ∈ store.capabilities) (same : left.computer = right.computer) :
    left = right := by
  have entry : left.computer ∈ right.entries := by
    rw [same]
    exact List.mem_cons_self
  exact Table.eq_of_shared_entry leftThere rightThere List.mem_cons_self entry

section

variable (sound : ∀ session ∈ store.sessions, SessionSound session)
include sound

theorem moved_same (same : next.sessions = store.sessions) : SessionsMoved store event next := by
  refine ⟨id, ?_, ?_⟩
  · rw [same, List.map_id]
  · intro session there
    exact moves_refl (sound session there)

theorem moved_rewrite {selected : Session → Bool} {change : Session → Session}
    (rows : next.sessions.rows =
      store.sessions.rows.map fun session => if selected session then change session else session)
    (moves : ∀ session ∈ store.sessions, selected session = true →
      SessionMoves store event session (change session)) : SessionsMoved store event next := by
  refine ⟨_, rows, ?_⟩
  intro session there
  by_cases chosen : selected session = true
  · simp only [chosen, if_true]
    exact moves session there chosen
  · simp only [chosen]
    exact moves_refl (sound session there)

theorem moved_set {change : Session → Session}
    {keeps : ∀ session, (change session).entries = session.entries}
    (there : session ∈ store.sessions)
    (moves : SessionMoves store event session (change session)) :
    SessionsMoved store event (store.setSession session.id change keeps) := by
  apply moved_rewrite sound (Table.rewrite_rows _ _ _ keeps)
  intro other otherThere chosen
  have same := same_session otherThere there (beq_iff_eq.mp chosen)
  rw [same]
  exact moves

end

theorem session_there {userId : String} (found : store.session? sessionId userId = some session) :
    session ∈ store.sessions ∧ session.id = sessionId := by
  have ⟨there, chosen⟩ := Table.find_mem found
  simp only [Bool.and_eq_true, beq_iff_eq] at chosen
  exact ⟨there, chosen.1⟩

variable {hash : String} {computer : ComputerRef}

theorem session_by_token_there
    (found : store.sessionByToken? hash = some session) : session ∈ store.sessions :=
  (Table.find_mem found).1

theorem capability_there {capability : Capability}
    (found : store.capability? computer = some capability) :
    capability ∈ store.capabilities ∧ capability.computer = computer := by
  have ⟨there, chosen⟩ := Table.find_mem found
  exact ⟨there, beq_iff_eq.mp chosen⟩

theorem take_moved {userId : String}
    (confirms : ∀ session, store.session? sessionId userId = some session →
      (confirmTakeover event.instants userId sessionId receipt store).1 = true →
      ConfirmsTakeover store event session.id)
    (sound : ∀ session ∈ store.sessions, SessionSound session) :
    SessionsMoved store event (confirmTakeover event.instants userId sessionId receipt store).2 ∧
      (confirmTakeover event.instants userId sessionId receipt store).2.capabilities =
        store.capabilities := by
  have answer := confirms
  unfold confirmTakeover at answer ⊢
  split
  · rename_i session receipt found
    have confirmed := answer session found
    simp only [found] at confirmed
    by_cases refused : session.inputRole ≠ .controller ∨ session.inputState ≠ .takeoverPending ∨
        session.exchangedAt.isNone = true ∨ session.revokedAt.isSome = true ∨
        session.expiresAt ≤ event.instants.clock store.clock 0
    · rw [if_pos refused]
      exact ⟨moved_same sound rfl, rfl⟩
    rw [if_neg refused] at confirmed ⊢
    push Not at refused
    split
    · exact ⟨moved_same sound rfl, rfl⟩
    rename_i states
    rw [if_neg states] at confirmed
    split
    · exact ⟨moved_same sound rfl, rfl⟩
    rename_i supported
    rw [if_neg supported] at confirmed
    have ⟨there, _⟩ := session_there found
    refine ⟨?_, rfl⟩
    apply moved_set sound there
    apply takeover_moves (sound session there) refused.2.1
    · have order := event.instants.start_le_clock store.clock 0
      have unexpired := refused.2.2.2.2
      omega
    · exact confirmed rfl
  · exact ⟨moved_same sound rfl, rfl⟩

theorem release_moved {userId : String}
    (confirms : ∀ session, store.session? sessionId userId = some session →
      (confirmRelease event.instants userId sessionId receipt store).1 = true →
      ConfirmsRelease store event session.id)
    (sound : ∀ session ∈ store.sessions, SessionSound session) :
    SessionsMoved store event (confirmRelease event.instants userId sessionId receipt store).2 ∧
      (confirmRelease event.instants userId sessionId receipt store).2.capabilities =
        store.capabilities := by
  have answer := confirms
  unfold confirmRelease at answer ⊢
  split
  · rename_i session receipt found
    have confirmed := answer session found
    simp only [found] at confirmed
    by_cases refused : session.inputRole ≠ .controller ∨ session.inputState ≠ .releasePending ∨
        session.revokedAt.isNone = true
    · rw [if_pos refused]
      exact ⟨moved_same sound rfl, rfl⟩
    rw [if_neg refused] at confirmed ⊢
    push Not at refused
    split
    · exact ⟨moved_same sound rfl, rfl⟩
    rename_i states
    rw [if_neg states] at confirmed
    have ⟨there, _⟩ := session_there found
    have revoked : session.revokedAt.isSome = true := by
      cases isRevoked : session.revokedAt with
      | none => exact absurd (by simp [isRevoked]) refused.2.2
      | some time => rfl
    refine ⟨?_, rfl⟩
    apply moved_set sound there
    exact moves_released refused.1 rfl rfl rfl rfl rfl rfl revoked rfl (.inl (confirmed rfl))
  · exact ⟨moved_same sound rfl, rfl⟩

section

variable (sound : ∀ session ∈ store.sessions, SessionSound session)
include sound

theorem revoke_found_moved {now : Int} {reason : String} (there : session ∈ store.sessions) :
    SessionsMoved store event (store.revokeFound session now reason) ∧
      (store.revokeFound session now reason).capabilities = store.capabilities := by
  unfold DesktopStore.revokeFound
  split
  · exact ⟨moved_same sound rfl, rfl⟩
  · rename_i revoked
    refine ⟨?_, rfl⟩
    apply moved_set sound there
    exact revokeOne_moves (sound session there) (Option.not_isSome_iff_eq_none.mp revoked) now
      reason

theorem unmoved : SessionsMoved store event store ∧ store.capabilities = store.capabilities :=
  ⟨moved_same sound rfl, rfl⟩

theorem revoke_moved {userId reason : String} :
    SessionsMoved store event (revokeSession event.instants userId sessionId reason store).2 ∧
      (revokeSession event.instants userId sessionId reason store).2.capabilities =
        store.capabilities := by
  unfold revokeSession
  split
  · exact unmoved sound
  · split
    · exact unmoved sound
    · rename_i session found
      exact revoke_found_moved sound (session_there found).1

theorem revoke_by_token_moved {reason : String} :
    SessionsMoved store event (revokeSessionByToken event.instants hash reason store).2 ∧
      (revokeSessionByToken event.instants hash reason store).2.capabilities =
        store.capabilities := by
  unfold revokeSessionByToken
  split
  · exact unmoved sound
  · split
    · exact unmoved sound
    · rename_i session found
      exact revoke_found_moved sound (session_by_token_there found)

end

theorem by_token_moved (call : event.call = .confirmByToken hash receipt)
    (sound : ∀ session ∈ store.sessions, SessionSound session) : SessionsMoved store event
        (confirmInputTransitionByToken event.instants hash receipt store).2 ∧
      (confirmInputTransitionByToken event.instants hash receipt store).2.capabilities =
        store.capabilities := by
  cases receipt with
  | none => exact unmoved sound
  | some receipt =>
    cases found : store.sessionByToken? hash with
    | none =>
      unfold confirmInputTransitionByToken
      rw [found]
      exact unmoved sound
    | some session =>
      have only (other : Session)
          (otherFound : store.session? session.id session.userId = some other) :
          session.id = other.id := ((session_there otherFound).2).symm
      simp only [confirmInputTransitionByToken, found]
      by_cases refused : isSha256 hash = false ∨ receipt.sessionId ≠ session.id.text ∨
          receipt.computerKind ≠ session.computer.kind.name ∨
          receipt.computerId ≠ session.computer.id.text ∨
          receipt.capabilityGeneration ≠ session.capabilityGeneration.text ∨
          receipt.transport ≠ session.transport.name
      · rw [if_pos refused]
        exact unmoved sound
      rw [if_neg refused]
      by_cases suspends : receipt.action = "agent-input-suspended"
      · rw [if_pos suspends]
        split
        · exact unmoved sound
        rename_i unexpired
        apply take_moved _ sound
        intro other otherFound confirmed
        unfold ConfirmsTakeover
        rw [call]
        refine ⟨⟨session, found, only other otherFound⟩, ?_, ?_⟩
        · simp [suspends]
        · simp only [confirmInputTransitionByToken, found, if_neg refused, if_pos suspends,
            if_neg unexpired]
          exact confirmed
      rw [if_neg suspends]
      by_cases resumes : receipt.action = "agent-input-resumed"
      · rw [if_pos resumes]
        apply release_moved _ sound
        intro other otherFound confirmed
        unfold ConfirmsRelease
        rw [call]
        refine ⟨⟨session, found, only other otherFound⟩, ?_, ?_⟩
        · simp [resumes]
        · simp only [confirmInputTransitionByToken, found, if_neg refused, if_neg suspends,
            if_pos resumes]
          exact confirmed
      rw [if_neg resumes]
      exact unmoved sound

section

variable (sound : ∀ session ∈ store.sessions, SessionSound session)
include sound

theorem exchange_moved {exchangeCodeHash pkceChallenge sessionTokenHash : String} :
    SessionsMoved store event
        (exchangeSession event.instants exchangeCodeHash pkceChallenge sessionTokenHash
          ownerActive store).2 ∧
      (exchangeSession event.instants exchangeCodeHash pkceChallenge sessionTokenHash
          ownerActive store).2.capabilities = store.capabilities := by
  unfold exchangeSession
  iterate 2
    split
    · exact unmoved sound
  iterate 5
    split
    · exact unmoved sound
  split
  · exact unmoved sound
  iterate 2
    split
    · exact unmoved sound
  split
  · exact unmoved sound
  rename_i sessions updated
  refine ⟨?_, rfl⟩
  apply moved_rewrite sound (Table.update_rows updated)
  intro other otherThere _
  exact moves_unextended (sound other otherThere) rfl rfl rfl rfl rfl rfl rfl rfl rfl

theorem authorize_moved {transport : Transport} {wantsInput : Bool} : SessionsMoved store event
        (authorizeSession event.instants hash computer transport wantsInput ownerActive store).2 ∧
      (authorizeSession event.instants hash computer transport wantsInput ownerActive
          store).2.capabilities = store.capabilities := by
  unfold authorizeSession
  split
  · exact unmoved sound
  rename_i session found
  iterate 3
    split
    · exact unmoved sound
  have there := session_by_token_there found
  refine ⟨?_, rfl⟩
  apply moved_set sound there
  exact moves_unextended (sound session there) rfl rfl rfl rfl rfl rfl rfl rfl rfl

theorem renew_moved {ttlSeconds : Nat} : SessionsMoved store event
        (renewSessionByToken event.instants hash ttlSeconds ownerActive store).2 ∧
      (renewSessionByToken event.instants hash ttlSeconds ownerActive store).2.capabilities =
        store.capabilities := by
  simp only [renewSessionByToken]
  split
  · exact unmoved sound
  rename_i session found
  by_cases refused : isSha256 hash = false ∨ ttlSeconds < 30 ∨ 300 < ttlSeconds ∨
      session.exchangedAt.isNone = true ∨ session.revokedAt.isSome = true ∨
      session.expiresAt ≤ event.instants.clock store.clock 0 ∨ session.inputRole ≠ .controller ∨
      session.inputState ≠ .active ∨ session.transport ≠ .selkiesWebsocket ∨
      session.relayCredentialExpiresAt.isSome = true ∨ 240 ≤ session.renewalCount
  · rw [if_pos refused]
    exact unmoved sound
  rw [if_neg refused]
  push Not at refused
  have unexpired : store.clock < session.expiresAt := by
    have order := event.instants.start_le_clock store.clock 0
    have later := refused.2.2.2.2.2.1
    omega
  split
  · exact unmoved sound
  split_ifs
  any_goals exact unmoved sound
  have there := session_by_token_there found
  refine ⟨?_, rfl⟩
  apply moved_set sound there
  exact moves_kept (sound session there) rfl rfl rfl rfl rfl rfl rfl rfl fun _ => unexpired

end

end Effects

end Hivra.RemoteDesktop
