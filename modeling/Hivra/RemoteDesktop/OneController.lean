import Hivra.RemoteDesktop.CapabilitySteps

/-!
# One controller

The sessions of a reached store are sound, those that are not revoked are on the capability
recorded last for their computer, and one of them at most is live for input on a computer.
-/

namespace Hivra.RemoteDesktop

open Hivra.Library
open Hivra.AgentNetwork (Uuid Raised)

structure StoreSound (store : DesktopStore) : Prop where
  sessions : ∀ session ∈ store.sessions, SessionSound session
  current : ∀ session ∈ store.sessions, session.revokedAt = none →
    ∃ capability ∈ store.capabilities, capability.Backs session
  alone : ∀ left ∈ store.sessions, ∀ right ∈ store.sessions, left.computer = right.computer →
    left.LiveAt store.clock → right.LiveAt store.clock → left = right

variable {store : DesktopStore}

theorem empty_sound (clock : Int) : StoreSound (.empty clock) := by
  constructor
  · intro session there
    exact absurd there (Table.not_mem_empty session)
  · intro session there
    exact absurd there (Table.not_mem_empty session)
  · intro left there
    exact absurd there (Table.not_mem_empty left)

section Steps

variable {store next : DesktopStore} {event : DesktopEvent}

theorem moved_sessions (moved : SessionsMoved store event next) :
    ∀ session ∈ next.sessions, ∃ old ∈ store.sessions, SessionMoves store event old session := by
  have ⟨move, rows, moves⟩ := moved
  intro session there
  rw [Table.mem_rows, rows, List.mem_map] at there
  have ⟨old, oldThere, isSession⟩ := there
  have oldMoves := moves old oldThere
  rw [isSession] at oldMoves
  exact ⟨old, oldThere, oldMoves⟩

section

variable (sound : StoreSound store)
include sound

theorem moved_alone (moved : SessionsMoved store event next) :
    ∀ left ∈ next.sessions, ∀ right ∈ next.sessions, left.computer = right.computer →
      left.LiveAt (event.instants.finish store.clock) →
      right.LiveAt (event.instants.finish store.clock) → left = right := by
  intro left leftThere right rightThere same leftLive rightLive
  have ⟨oldLeft, oldLeftThere, leftMoves⟩ := moved_sessions moved left leftThere
  have ⟨oldRight, oldRightThere, rightMoves⟩ := moved_sessions moved right rightThere
  have isSame : oldLeft = oldRight := by
    apply sound.alone oldLeft oldLeftThere oldRight oldRightThere
    · rw [← leftMoves.computer, ← rightMoves.computer]
      exact same
    · exact leftMoves.live leftLive
    · exact rightMoves.live rightLive
  apply same_session leftThere rightThere
  rw [leftMoves.id, rightMoves.id, isSame]

omit sound in
theorem backs_moved {capability later : Capability} {old new : Session}
    (moves : SessionMoves store event old new) (backs : capability.Backs old)
    (computer : later.computer = capability.computer)
    (generation : later.generation = capability.generation)
    (userId : later.userId = capability.userId) : later.Backs new := by
  constructor
  · rw [computer, backs.computer, moves.computer]
  · rw [generation, backs.generation, moves.generation]
  · rw [userId, backs.userId, moves.userId]

theorem kept_current (moved : SessionsMoved store event next)
    (kept : CapabilitiesKept store next) : ∀ session ∈ next.sessions, session.revokedAt = none →
      ∃ capability ∈ next.capabilities, capability.Backs session := by
  intro session there unrevoked
  have ⟨old, oldThere, moves⟩ := moved_sessions moved session there
  have ⟨capability, capabilityThere, backs⟩ := sound.current old oldThere (moves.revoked unrevoked)
  have ⟨later, laterThere, computer, generation, userId⟩ := kept capability capabilityThere
  exact ⟨later, laterThere, backs_moved moves backs computer generation userId⟩

theorem recorded_current {userId : String} {computer : ComputerRef}
    {generation : Uuid} (moved : SessionsMoved store event next)
    (recorded : Recorded userId computer generation store.capabilities next.capabilities)
    (rotated : ∀ session ∈ next.sessions, session.computer = computer →
      session.revokedAt = none → session.capabilityGeneration = generation) :
    ∀ session ∈ next.sessions, session.revokedAt = none →
      ∃ capability ∈ next.capabilities, capability.Backs session := by
  intro session there unrevoked
  have ⟨old, oldThere, moves⟩ := moved_sessions moved session there
  have ⟨capability, capabilityThere, backs⟩ := sound.current old oldThere (moves.revoked unrevoked)
  by_cases onComputer : session.computer = computer
  · have onGeneration := rotated session there onComputer unrevoked
    have ⟨new, newThere, newComputer, newGeneration, newUser⟩ := recorded.new
    have oldComputer : capability.computer = computer := by
      rw [backs.computer, ← moves.computer, onComputer]
    have oldGeneration : capability.generation = generation := by
      rw [backs.generation, ← moves.generation, onGeneration]
    have owner := recorded.owner capability capabilityThere oldComputer oldGeneration
    refine ⟨new, newThere, backs_moved moves backs ?_ ?_ ?_⟩
    · rw [newComputer, oldComputer]
    · rw [newGeneration, oldGeneration]
    · rw [newUser, owner]
  · have elsewhere : capability.computer ≠ computer := by
      rw [backs.computer, ← moves.computer]
      exact onComputer
    exact ⟨capability, recorded.others capability capabilityThere elsewhere,
      backs_moved moves backs rfl rfl rfl⟩

omit sound in
theorem live_controls {session : Session} {now : Int} (sound : SessionSound session)
    (live : session.LiveAt now) : session.inputRole = .controller := by
  cases role : session.inputRole with
  | controller => rfl
  | viewer =>
    have state := live.state
    rw [sound.shape.mp role] at state
    simp at state

theorem excluded_live {old session new : Session} {now : Int}
    (there : old ∈ store.sessions) (moves : SessionMoves store event old session)
    (same : session.computer = new.computer)
    (backed : ∃ capability ∈ store.capabilities, capability.Backs new)
    (unexcluded : session.excludes new.computer new.capabilityGeneration now = false) :
    ¬session.LiveAt now := by
  intro live
  have ⟨capability, capabilityThere, backs⟩ := backed
  have ⟨other, otherThere, otherBacks⟩ := sound.current old there (moves.revoked live.unrevoked)
  have isSame := same_capability capabilityThere otherThere (by
    rw [backs.computer, otherBacks.computer, ← moves.computer, same])
  have generation : session.capabilityGeneration = new.capabilityGeneration := by
    rw [moves.generation, ← otherBacks.generation, ← isSame, backs.generation]
  have controls := live_controls moves.sound live
  simp [Session.excludes, same, generation, controls, live.unrevoked, live.unexpired] at unexcluded
  cases live.state with
  | inl pending => exact unexcluded.1.1 pending
  | inr active => exact unexcluded.1.2 active

omit sound in
theorem row_le_finish (instants : Instants) (start : Int) (id : Uuid) :
    instants.row start 1 id ≤ instants.finish start := by
  exact Int.le_trans (row_bounds instants start 1 id).2 (instants.clock_step start 2)

theorem issued_sound_store {cleaned : DesktopStore} {new : Session}
    (issued : Issued store event cleaned next new) :
    StoreSound { next with clock := event.instants.finish store.clock } := by
  have held (session : Session) : session ∈ next.sessions ↔
      session ∈ cleaned.sessions ∨ session = new := by
    rw [Table.mem_rows, issued.rows, List.mem_append, List.mem_singleton, Table.mem_rows]
  have apart (session : Session) (there : session ∈ cleaned.sessions)
      (same : session.computer = new.computer)
      (newLive : new.LiveAt (event.instants.finish store.clock)) :
      ¬session.LiveAt (event.instants.finish store.clock) := by
    intro live
    have ⟨old, oldThere, moves⟩ := moved_sessions issued.moved session there
    have unexcluded := issued.alone (live_controls issued.sound newLive) session there
    apply excluded_live sound oldThere moves same issued.backed unexcluded
    have order := row_le_finish event.instants store.clock session.id
    have unexpired := live.unexpired
    exact ⟨live.unrevoked, live.state, by omega⟩
  constructor
  · intro session there
    cases (held session).mp there with
    | inl earlier =>
      have ⟨old, _, moves⟩ := moved_sessions issued.moved session earlier
      exact moves.sound
    | inr isNew =>
      rw [isNew]
      exact issued.sound
  · intro session there unrevoked
    have same : next.capabilities = store.capabilities := issued.capabilities
    cases (held session).mp there with
    | inl earlier =>
      have ⟨old, oldThere, moves⟩ := moved_sessions issued.moved session earlier
      have ⟨capability, capabilityThere, backs⟩ :=
        sound.current old oldThere (moves.revoked unrevoked)
      exact ⟨capability, same ▸ capabilityThere, backs_moved moves backs rfl rfl rfl⟩
    | inr isNew =>
      rw [isNew]
      have ⟨capability, capabilityThere, backs⟩ := issued.backed
      exact ⟨capability, same ▸ capabilityThere, backs⟩
  · intro left leftThere right rightThere same leftLive rightLive
    cases (held left).mp leftThere with
    | inl leftEarlier =>
      cases (held right).mp rightThere with
      | inl rightEarlier =>
        exact moved_alone sound issued.moved left leftEarlier right rightEarlier same leftLive
          rightLive
      | inr rightNew =>
        subst rightNew
        exact absurd leftLive (apart left leftEarlier same rightLive)
    | inr leftNew =>
      subst leftNew
      cases (held right).mp rightThere with
      | inl rightEarlier =>
        exact absurd rightLive (apart right rightEarlier same.symm leftLive)
      | inr rightNew => exact rightNew.symm

theorem moved_sound (moved : SessionsMoved store event next)
    (current : ∀ session ∈ next.sessions, session.revokedAt = none →
      ∃ capability ∈ next.capabilities, capability.Backs session) :
    StoreSound { next with clock := event.instants.finish store.clock } := by
  constructor
  · intro session there
    have ⟨old, _, moves⟩ := moved_sessions moved session there
    exact moves.sound
  · exact current
  · exact moved_alone sound moved

theorem step_sound (event : DesktopEvent) : StoreSound (store.step event) := by
  cases @run_effect store event sound.sessions with
  | moved moved kept => exact moved_sound sound moved (kept_current sound moved kept)
  | recorded userId computer generation moved recorded rotated =>
    exact moved_sound sound moved (recorded_current sound moved recorded rotated)
  | issued cleaned new issued => exact issued_sound_store sound issued

theorem step_sessions (event : DesktopEvent) : ∀ session ∈ (store.step event).sessions,
      (∃ old ∈ store.sessions, SessionMoves store event old session) ∨
        SessionSound session ∧ session.takeoverReceipt = none := by
  intro session there
  cases @run_effect store event sound.sessions with
  | moved moved _ => exact .inl (moved_sessions moved session there)
  | recorded _ _ _ moved _ _ => exact .inl (moved_sessions moved session there)
  | issued cleaned new issued =>
    have held : session ∈ (event.run store).sessions.rows := there
    rw [issued.rows, List.mem_append, List.mem_singleton] at held
    cases held with
    | inl earlier => exact .inl (moved_sessions issued.moved session earlier)
    | inr isNew =>
      rw [isNew]
      exact .inr ⟨issued.sound, issued.untaken⟩

end

end Steps

section Runs

variable {clock : Int} {history : List DesktopEvent}

theorem after_sound (clock : Int) (history : List DesktopEvent) :
    StoreSound ((DesktopStore.empty clock).after history) :=
  fold_keeps history (empty_sound clock) fun _ event sound => step_sound sound event

def HasTaken (id : Uuid) (store : DesktopStore) : Prop :=
  ∃ session ∈ store.sessions, session.id = id ∧ session.takeoverReceipt.isSome = true

theorem taken_confirmed {id : Uuid} (taken : HasTaken id ((DesktopStore.empty clock).after history)) :
    ∃ early event late, history = early ++ event :: late ∧
      ConfirmsTakeover ((DesktopStore.empty clock).after early) event id := by
  apply @fold_caused _ _ DesktopStore.step StoreSound (HasTaken id)
    (fun store event => ConfirmsTakeover store event id)
    (fun _ event sound => step_sound sound event) _ (.empty clock) (empty_sound clock) _ history taken
  · intro store event sound ⟨session, there, isId, took⟩
    cases step_sessions sound event session there with
    | inl moved =>
      have ⟨old, oldThere, moves⟩ := moved
      have same : old.id = id := moves.id.symm.trans isId
      cases moves.taken took with
      | inl earlier => exact .inl ⟨old, oldThere, same, earlier⟩
      | inr now => exact .inr (same ▸ now)
    | inr new =>
      rw [new.2] at took
      cases took
  · intro ⟨session, there, _⟩
    exact absurd there (Table.not_mem_empty session)

def IsHandedBack (id : Uuid) (store : DesktopStore) : Prop :=
  ∃ session ∈ store.sessions, session.id = id ∧ session.HandedBack

/-- The release of the session is confirmed, or its guest is proven to have booted anew. -/
def ReleasesControl (store : DesktopStore) (event : DesktopEvent) (id : Uuid) : Prop :=
  ConfirmsRelease store event id ∨
    ∃ session ∈ store.sessions, session.id = id ∧ ProvesReboot store event session

theorem handed_back_released {id : Uuid}
    (handedBack : IsHandedBack id ((DesktopStore.empty clock).after history)) :
    ∃ early event late, history = early ++ event :: late ∧
      ReleasesControl ((DesktopStore.empty clock).after early) event id := by
  apply @fold_caused _ _ DesktopStore.step StoreSound (IsHandedBack id)
    (fun store event => ReleasesControl store event id)
    (fun _ event sound => step_sound sound event) _ (.empty clock) (empty_sound clock) _ history
    handedBack
  · intro store event sound ⟨session, there, isId, back⟩
    cases step_sessions sound event session there with
    | inl moved =>
      have ⟨old, oldThere, moves⟩ := moved
      have same : old.id = id := moves.id.symm.trans isId
      rcases moves.handedBack back with earlier | released | rebooted
      · exact .inl ⟨old, oldThere, same, earlier⟩
      · exact .inr (.inl (same ▸ released))
      · exact .inr (.inr ⟨old, oldThere, same, rebooted⟩)
    | inr new =>
      have took := back.taken
      rw [new.2] at took
      cases took
  · intro ⟨session, there, _⟩
    exact absurd there (Table.not_mem_empty session)

def AuthorizesInput (store : DesktopStore) (session : Session) : Prop :=
  ∃ instants hash transport wantsInput ownerActive authorization,
    (authorizeSession instants hash session.computer transport wantsInput ownerActive store).1 =
      some authorization ∧
    authorization.session = session ∧ (wantsInput = true ∨ authorization.inputReady = true)

theorem authorized_live (sound : StoreSound store) {session : Session}
    (authorizes : AuthorizesInput store session) :
    session ∈ store.sessions ∧ session.LiveAt store.clock ∧ session.inputState = .active := by
  have ⟨instants, hash, transport, wantsInput, ownerActive, authorization, answered, isSession,
    input⟩ := authorizes
  unfold authorizeSession at answered
  split at answered
  · cases answered
  rename_i found byToken
  split at answered
  · cases answered
  rename_i refused
  split at answered
  · cases answered
  split at answered
  · cases answered
  simp only [Option.some.injEq] at answered
  have isFound : found = session := by
    rw [← isSession, ← answered]
  have active : found.inputState = .active := by
    cases input with
    | inl wanted =>
      by_contra other
      simp [wanted, other] at refused
    | inr ready =>
      rw [← answered] at ready
      simpa using ready
  push Not at refused
  have there := session_by_token_there byToken
  have order := instants.start_le_clock store.clock 1
  have unexpired := refused.2.2.2.2.2.2.1
  rw [← isFound]
  exact ⟨there, ⟨(sound.sessions found there).unrevoked (.inr active), .inr active, by omega⟩, active⟩

/-- A controller that the conflict check lets pass has been released, unless it expires
between the reading of the clean-up, which leaves it, and that of the check. -/
theorem unexcluded_released {event : DesktopEvent} (sound : StoreSound store)
    {session new : Session} (there : session ∈ store.sessions)
    (onComputer : session.computer = new.computer) (controlled : session.inputRole = .controller)
    (backed : ∃ capability ∈ store.capabilities, capability.Backs new)
    (outside : ¬(event.instants.row store.clock 0 session.id < session.expiresAt ∧
      session.expiresAt ≤ event.instants.row store.clock 1 session.id))
    (unexcluded :
      (session.cleaned new.computer (event.instants.row store.clock 0)).excludes new.computer
        new.capabilityGeneration (event.instants.row store.clock 1 session.id) = false) :
    (session.cleaned new.computer (event.instants.row store.clock 0)).inputState = .released := by
  have sessionSound := sound.sessions session there
  unfold Session.cleaned at unexcluded ⊢
  split at unexcluded
  · rename_i expired
    rw [if_pos expired]
    by_cases active : session.inputState = .active
    · simp [Session.excludes, Session.expire, Session.revoke, Session.inputStateRevoked, active,
        onComputer, controlled] at unexcluded
    · simp [Session.expire, Session.revoke, Session.inputStateRevoked, active, controlled]
  · rename_i unexpired
    rw [if_neg unexpired]
    have notLive := @excluded_live store event sound session session new _ there
      (moves_refl sessionSound) onComputer backed unexcluded
    have expired (unrevoked : session.revokedAt = none)
        (state : session.inputState = .takeoverPending ∨ session.inputState = .active) : False := by
      simp only [onComputer, unrevoked, beq_self_eq_true, Option.isNone_none, Bool.and_true,
        Bool.true_and, decide_eq_true_eq] at unexpired
      apply notLive
      exact ⟨unrevoked, state, by omega⟩
    cases state : session.inputState with
    | notRequested =>
      have isViewer := sessionSound.shape.mpr state
      rw [controlled] at isViewer
      cases isViewer
    | takeoverPending => exact (expired (sessionSound.unrevoked (.inl state)) (.inl state)).elim
    | active => exact (expired (sessionSound.unrevoked (.inr state)) (.inr state)).elim
    | releasePending => simp [Session.excludes, onComputer, controlled, state] at unexcluded
    | released => rfl

theorem issued_released (sound : StoreSound store) {instants : Instants}
    {request : IssueRequest} {ownerActive : Bool}
    (answered : (issueSession instants request ownerActive store).1 = .issued)
    (controls : request.inputRole = .controller) {session : Session}
    (there : session ∈ store.sessions) (onComputer : session.computer = request.computer)
    (controlled : session.inputRole = .controller)
    (outside : ¬(instants.row store.clock 0 session.id < session.expiresAt ∧
      session.expiresAt ≤ instants.row store.clock 1 session.id)) :
    ∃ later ∈ (issueSession instants request ownerActive store).2.sessions,
      later.id = session.id ∧ later.inputState = .released := by
  rcases @issue_cases store ⟨instants, .issue request ownerActive⟩ sound.sessions request
      ownerActive with ⟨refused, _⟩ | ⟨_, new, newComputer, newRole, issued⟩
  · exact absurd answered refused
  rw [← newComputer] at onComputer issued
  have cleanedId : (session.cleaned new.computer (instants.row store.clock 0)).id = session.id := by
    unfold Session.cleaned
    split <;> rfl
  have cleanedThere : session.cleaned new.computer (instants.row store.clock 0) ∈
      (store.expireSessions new.computer (instants.row store.clock 0)).sessions := by
    rw [Table.mem_rows, cleaned_rows]
    exact List.mem_map_of_mem there
  have unexcluded := issued.alone (newRole.trans controls) _ cleanedThere
  rw [cleanedId] at unexcluded
  refine ⟨session.cleaned new.computer (instants.row store.clock 0), ?_, cleanedId,
    @unexcluded_released store ⟨instants, .issue request ownerActive⟩ sound session new there
      onComputer controlled issued.backed outside unexcluded⟩
  rw [Table.mem_rows, issued.rows]
  exact List.mem_append_left _ cleanedThere

/-- In every run: the sessions of a computer that any call authorizes for input, then or
later, are one session; its takeover was confirmed before; an issue of a controller leaves
the earlier ones of the computer released, except one that expires between its two
readings; and a session that had taken over is released by its confirmed release, or by a
receipt that its guest has booted anew. -/
theorem one_controller (clock : Int) (history : List DesktopEvent) :
    (∀ left right : Session, left.computer = right.computer →
      AuthorizesInput ((DesktopStore.empty clock).after history) left →
      AuthorizesInput ((DesktopStore.empty clock).after history) right → left = right) ∧
    (∀ session, AuthorizesInput ((DesktopStore.empty clock).after history) session →
      ∃ early event late, history = early ++ event :: late ∧
        ConfirmsTakeover ((DesktopStore.empty clock).after early) event session.id) ∧
    (∀ instants request ownerActive,
      (issueSession instants request ownerActive ((DesktopStore.empty clock).after history)).1 =
        .issued →
      request.inputRole = .controller →
      ∀ session ∈ ((DesktopStore.empty clock).after history).sessions,
        session.computer = request.computer → session.inputRole = .controller →
        ¬(instants.row ((DesktopStore.empty clock).after history).clock 0 session.id <
            session.expiresAt ∧
          session.expiresAt ≤
            instants.row ((DesktopStore.empty clock).after history).clock 1 session.id) →
        ∃ later ∈ (issueSession instants request ownerActive
            ((DesktopStore.empty clock).after history)).2.sessions,
          later.id = session.id ∧ later.inputState = .released) ∧
    (∀ session ∈ ((DesktopStore.empty clock).after history).sessions, session.HandedBack →
      ∃ early event late, history = early ++ event :: late ∧
        ReleasesControl ((DesktopStore.empty clock).after early) event session.id) := by
  have sound := after_sound clock history
  constructor
  · intro left right same leftInput rightInput
    have ⟨leftThere, leftLive, _⟩ := authorized_live sound leftInput
    have ⟨rightThere, rightLive, _⟩ := authorized_live sound rightInput
    exact sound.alone left leftThere right rightThere same leftLive rightLive
  constructor
  · intro session authorizes
    have ⟨there, _, active⟩ := authorized_live sound authorizes
    exact taken_confirmed ⟨session, there, rfl, (sound.sessions session there).active active⟩
  constructor
  · intro instants request ownerActive answered controls session there onComputer controlled outside
    exact issued_released sound answered controls there onComputer controlled outside
  · intro session there handedBack
    exact handed_back_released ⟨session, there, rfl, handedBack⟩

end Runs

def generationId : Uuid := ⟨"11111111-1111-4111-8111-111111111111", by decide +kernel⟩

def firstSessionId : Uuid := ⟨"22222222-2222-4222-8222-222222222222", by decide +kernel⟩

def secondSessionId : Uuid := ⟨"33333333-3333-4333-8333-333333333333", by decide +kernel⟩

def still : Instants := { ticks := fun _ => 0, before := fun _ => 0, offsets := fun _ _ => 0 }

def desktop : ComputerRef := { kind := .hivraAgent, id := generationId }

def desktopReceipt : CapabilityReceipt :=
  { protocol := "hivra-remote-desktop-capability-v1"
    computerKind := "hivra-agent"
    computerId := "11111111-1111-4111-8111-111111111111"
    capabilityGeneration := "11111111-1111-4111-8111-111111111111"
    observedRevision := "0000000000000000000000000000000000000000"
    compositor := "x11"
    installedTransports := ["selkies-websocket"]
    privateNetworkReachable := false
    supportsInputTakeover := true
    brokerOrigin := "https://broker"
    observedAt := some 0 }

def controllerRequest (sessionId : Uuid) (exchangeCodeHash : String) : IssueRequest :=
  { userId := "user"
    sessionId
    computer := desktop
    transport := .selkiesWebsocket
    inputRole := .controller
    handoff := .cookie
    exchangeCodeHash
    pkceChallenge := "0000000000000000000000000000000000000000000"
    issuedAt := 0
    expiresAt := oneMinute
    relayCredentialExpiresAt := none
    streamingMode := none }

def firstRequest : IssueRequest :=
  controllerRequest firstSessionId
    "0000000000000000000000000000000000000000000000000000000000000000"

def secondRequest : IssueRequest :=
  controllerRequest secondSessionId
    "1111111111111111111111111111111111111111111111111111111111111111"

def issuedThenRevoked : List DesktopEvent :=
  [⟨still, .record "user" desktop generationId (some desktopReceipt) (5 * oneMinute) true⟩,
    ⟨still, .issue firstRequest true⟩, ⟨still, .revoke "user" firstSessionId "user_revoked"⟩]

/-- A second controller is issued though no release of the first one was confirmed. -/
theorem revoked_controller_is_replaced :
    (∃ session ∈ ((DesktopStore.empty 0).after issuedThenRevoked).sessions,
      session.id = firstSessionId ∧ session.computer = secondRequest.computer ∧
        session.inputRole = .controller ∧ session.releaseReceipt = none) ∧
    (∀ event ∈ issuedThenRevoked, ∀ store, ¬ConfirmsRelease store event firstSessionId) ∧
    secondRequest.inputRole = .controller ∧ (issueSession still secondRequest true
      ((DesktopStore.empty 0).after issuedThenRevoked)).1 = .issued := by
  refine ⟨⟨_, List.mem_cons_self, ?_⟩, ?_, rfl, ?_⟩
  · decide +kernel
  · simp [issuedThenRevoked, ConfirmsRelease]
  · decide +kernel

end Hivra.RemoteDesktop
