import Hivra.RemoteDesktop.DesktopSteps

/-!
# The effect of each call

Every call moves the sessions, records a capability, or issues a session.  A session that is
not revoked stays on the generation recorded last.
-/

namespace Hivra.RemoteDesktop

open Hivra.Library
open Hivra.AgentNetwork (Uuid Raised refuse_if_ok bind_ok raise_ne_ok)

structure Capability.Backs (capability : Capability) (session : Session) : Prop where
  computer : capability.computer = session.computer
  generation : capability.generation = session.capabilityGeneration
  userId : capability.userId = session.userId

def CapabilitiesKept (store next : DesktopStore) : Prop :=
  Followed
    (fun capability later =>
      later.computer = capability.computer ∧ later.generation = capability.generation ∧
        later.userId = capability.userId)
    store.capabilities next.capabilities

structure Recorded (userId : String) (computer : ComputerRef) (generation : Uuid)
    (before after : Table Capability.entries) : Prop where
  new : ∃ capability ∈ after, capability.computer = computer ∧
    capability.generation = generation ∧ capability.userId = userId
  others : ∀ capability ∈ before, capability.computer ≠ computer → capability ∈ after
  owner : ∀ capability ∈ before, capability.computer = computer →
    capability.generation = generation → capability.userId = userId

structure Issued (store : DesktopStore) (event : DesktopEvent) (cleaned next : DesktopStore)
    (new : Session) : Prop where
  moved : SessionsMoved store event cleaned
  capabilities : next.capabilities = store.capabilities
  rows : next.sessions.rows = cleaned.sessions.rows ++ [new]
  sound : SessionSound new
  untaken : new.takeoverReceipt = none
  backed : ∃ capability ∈ store.capabilities, capability.Backs new
  alone : new.inputRole = .controller → ∀ session ∈ cleaned.sessions,
    session.excludes new.computer new.capabilityGeneration
      (event.instants.row store.clock 1 session.id) = false

inductive DesktopEffect (store : DesktopStore) (event : DesktopEvent) (next : DesktopStore) : Prop
  | moved (moved : SessionsMoved store event next) (kept : CapabilitiesKept store next)
  | recorded (userId : String) (computer : ComputerRef) (generation : Uuid)
      (moved : SessionsMoved store event next)
      (recorded : Recorded userId computer generation store.capabilities next.capabilities)
      (rotated : ∀ session ∈ next.sessions, session.computer = computer →
        session.revokedAt = none → session.capabilityGeneration = generation)
  | issued (cleaned : DesktopStore) (new : Session) (issued : Issued store event cleaned next new)

section Effects

variable {store next : DesktopStore} {event : DesktopEvent}

theorem kept_same (same : next.capabilities = store.capabilities) : CapabilitiesKept store next := by
  intro capability there
  exact ⟨capability, same ▸ there, rfl, rfl, rfl⟩

theorem effect_of_moved
    (moved : SessionsMoved store event next ∧ next.capabilities = store.capabilities) :
    DesktopEffect store event next :=
  .moved moved.1 (kept_same moved.2)

theorem effect_refl (sound : ∀ session ∈ store.sessions, SessionSound session) :
    DesktopEffect store event store :=
  effect_of_moved (unmoved sound)

def Session.rotated (session : Session) (computer : ComputerRef) (generation : Uuid)
    (now : Uuid → Int) : Session :=
  if session.computer == computer && session.capabilityGeneration != generation &&
      session.revokedAt.isNone then
    session.revoke (now session.id) "capability_rotated"
  else session

theorem rotate_rows (computer : ComputerRef) (generation : Uuid) (now : Uuid → Int) :
    (store.rotate computer generation now).sessions.rows =
      store.sessions.rows.map fun session => session.rotated computer generation now := rfl

theorem rotated_moves {session : Session} (computer : ComputerRef) (generation : Uuid)
    (now : Uuid → Int) (event : DesktopEvent) (sound : SessionSound session) :
    SessionMoves store event session (session.rotated computer generation now) := by
  unfold Session.rotated
  split
  · rename_i chosen
    simp only [Bool.and_eq_true, Option.isNone_iff_eq_none] at chosen
    exact revoke_moves sound chosen.2 _ _
  · exact moves_refl sound

theorem rotate_moved (computer : ComputerRef) (generation : Uuid) (now : Uuid → Int)
    (event : DesktopEvent) (sound : ∀ session ∈ store.sessions, SessionSound session) :
    SessionsMoved store event (store.rotate computer generation now) := by
  refine ⟨_, rotate_rows computer generation now, ?_⟩
  intro session there
  exact rotated_moves computer generation now event (sound session there)

variable {computer : ComputerRef} {generation : Uuid} {now : Uuid → Int} {ownerActive : Bool}
    {previous : Capability}

theorem rotate_current :
    ∀ session ∈ (store.rotate computer generation now).sessions, session.computer = computer →
      session.revokedAt = none → session.capabilityGeneration = generation := by
  intro session there onComputer unrevoked
  rw [Table.mem_rows, rotate_rows, List.mem_map] at there
  have ⟨old, _, isSession⟩ := there
  unfold Session.rotated at isSession
  split at isSession
  · rw [← isSession] at unrevoked
    cases unrevoked
  · rename_i unchosen
    subst isSession
    by_contra other
    apply unchosen
    simp [onComputer, unrevoked, other]

theorem upsert_recorded {new : Capability}
    (owner : (store.capability? new.computer).any (fun existing => existing.conflicts new) = false) :
    Recorded new.userId new.computer new.generation store.capabilities
      (store.upsert new).capabilities := by
  have unconflicted (capability : Capability) (there : capability ∈ store.capabilities)
      (onComputer : capability.computer = new.computer)
      (sameGeneration : capability.generation = new.generation) :
      capability.userId = new.userId := by
    cases found : store.capability? new.computer with
    | none =>
      have other := Table.find_none found there
      simp [onComputer] at other
    | some existing =>
      have ⟨existingThere, onIt⟩ := capability_there found
      have isExisting := same_capability there existingThere (onComputer.trans onIt.symm)
      subst isExisting
      rw [found] at owner
      simp only [Option.any_some, Capability.conflicts, sameGeneration, Bool.and_eq_false_iff,
        Bool.or_eq_false_iff, beq_self_eq_true] at owner
      have agrees := owner.resolve_left (by simp)
      simpa using agrees.1.1.1.1.1.1.2
  cases found : store.capability? new.computer with
  | none =>
    have absent (capability : Capability) (there : capability ∈ store.capabilities) :
        capability.computer ≠ new.computer := by
      have other := Table.find_none found there
      simpa using other
    cases inserted : store.capabilities.insert new with
    | none =>
      have ⟨held, there, entry, heldEntry, newEntry⟩ := Table.insert_none.mp inserted
      have heldIs := List.mem_singleton.mp heldEntry
      have newIs := List.mem_singleton.mp newEntry
      exact absurd (heldIs.symm.trans newIs) (absent held there)
    | some written =>
      have rows : (store.upsert new).capabilities = written := by
        simp only [DesktopStore.upsert, found, inserted, Option.getD_some]
      rw [rows]
      constructor
      · exact ⟨new, (Table.mem_insert inserted).mpr (.inr rfl), rfl, rfl, rfl⟩
      · intro capability there _
        exact (Table.mem_insert inserted).mpr (.inl there)
      · exact unconflicted
  | some existing =>
    have ⟨existingThere, onComputer⟩ := capability_there found
    constructor
    · refine ⟨{ new.replacing existing with computer := existing.computer }, ?_, onComputer, rfl,
        rfl⟩
      simp only [DesktopStore.upsert, found]
      exact Table.mem_rewrite.mpr ⟨existing, existingThere, by simp [onComputer]⟩
    · intro capability there elsewhere
      simp only [DesktopStore.upsert, found]
      exact Table.mem_rewrite.mpr ⟨capability, there, by simp [elsewhere]⟩
    · exact unconflicted

/-- A record that answers `ready` rotates the sessions; any other answer changes nothing. -/
theorem record_ok {userId : String} {computer : ComputerRef} {generation : Uuid}
    {receipt : Option CapabilityReceipt} {expiresAt : Int} {ownerActive : Bool}
    {answer : CapabilityAnswer}
    (returned : recordCapability event.instants userId computer generation receipt expiresAt
      ownerActive store = .ok (answer, next)) :
    answer ≠ .ready ∧ next = store ∨
      answer = .ready ∧
        next.sessions =
          (store.rotate computer generation (event.instants.row store.clock 0)).sessions ∧
        Recorded userId computer generation store.capabilities next.capabilities := by
  unfold recordCapability at returned
  split at returned
  · cases returned
    exact .inl ⟨by decide, rfl⟩
  rename_i new read
  iterate 3
    split at returned
    · cases returned
      exact .inl ⟨by decide, rfl⟩
  rename_i owner
  have ⟨_, _, written⟩ := bind_ok returned
  cases written
  have ⟨onUser, onComputer, onGeneration⟩ :
      new.userId = userId ∧ new.computer = computer ∧ new.generation = generation := by
    cases receipt with
    | none => cases read
    | some receipt =>
      simp only [Option.bind_some, CapabilityReceipt.capability?] at read
      split at read
      · split_ifs at read
        cases read
        exact ⟨rfl, rfl, rfl⟩
      · cases read
  refine .inr ⟨rfl, ?_, ?_⟩
  · unfold DesktopStore.upsert
    split <;> rfl
  · have unconflicted : (store.capability? new.computer).any
        (fun existing => existing.conflicts new) = false := by
      rw [onComputer]
      simpa using owner
    have recorded := @upsert_recorded
      (store.rotate computer generation (event.instants.row store.clock 0)) new unconflicted
    rw [onUser, onComputer, onGeneration] at recorded
    exact recorded

theorem record_effect {userId : String} {receipt : Option CapabilityReceipt} {expiresAt : Int}
    (sound : ∀ session ∈ store.sessions, SessionSound session) : DesktopEffect store event
      (settle store (recordCapability event.instants userId computer generation receipt expiresAt
        ownerActive store)) := by
  cases returned : recordCapability event.instants userId computer generation receipt expiresAt
      ownerActive store with
  | error raised => exact effect_refl sound
  | ok result =>
    have ⟨answer, next⟩ := result
    rcases record_ok returned with ⟨_, same⟩ | ⟨_, sessions, recorded⟩
    · rw [same]
      exact effect_refl sound
    · have rows : next.sessions.rows =
          (store.rotate computer generation (event.instants.row store.clock 0)).sessions.rows := by
        rw [sessions]
      have ⟨move, moved, moves⟩ :=
        rotate_moved computer generation (event.instants.row store.clock 0) event sound
      apply DesktopEffect.recorded userId computer generation ⟨move, rows.trans moved, moves⟩
        recorded
      intro session there
      apply rotate_current session
      rw [← sessions]
      exact there

theorem fences_rotated {session : Session}
    (fenced : previous.fences (session.rotated computer generation now) = true) :
    previous.fences session = true := by
  unfold Session.rotated at fenced
  split at fenced
  case isFalse => exact fenced
  simp only [Capability.fences, Session.revoke, Session.inputStateRevoked, Bool.and_eq_true,
    beq_iff_eq, Bool.or_eq_true] at fenced ⊢
  have ⟨⟨held, controls⟩, state⟩ := fenced
  refine ⟨⟨held, controls⟩, ?_⟩
  by_cases active : session.inputState = .active
  · exact .inl (.inr active)
  · rw [if_neg active, if_pos controls] at state
    simp at state

theorem fences_controls {session : Session} (fenced : previous.fences session = true) :
    session.inputRole = .controller := by
  simp only [Capability.fences, Bool.and_eq_true, beq_iff_eq] at fenced
  exact fenced.1.2

theorem set_boot_recorded {userId boot : String} {computer : ComputerRef} {generation : Uuid}
    {before : Table Capability.entries}
    (recorded : Recorded userId computer generation before store.capabilities) :
    Recorded userId computer generation before (store.setBoot computer boot).capabilities := by
  dsimp only [DesktopStore.setBoot]
  constructor
  · have ⟨capability, there, onComputer, onGeneration, onUser⟩ := recorded.new
    exact ⟨{ capability with bootIdentitySha256 := some boot },
      Table.mem_rewrite.mpr ⟨capability, there, by simp [onComputer]⟩, onComputer, onGeneration,
      onUser⟩
  · intro capability there elsewhere
    exact Table.mem_rewrite.mpr
      ⟨capability, recorded.others capability there elsewhere, by simp [elsewhere]⟩
  · exact recorded.owner

def Session.fenced (session : Session) (previous : Option Capability) (userId boot : String)
    (now : Uuid → Int) : Session :=
  if previous.any fun previous => previous.rebooted userId boot && previous.fences session then
    session.fence (now session.id)
  else session

theorem fence_rows (previous : Option Capability) (userId boot : String) (now : Uuid → Int) :
    (store.fence previous userId boot now).sessions.rows =
      store.sessions.rows.map fun session => session.fenced previous userId boot now := rfl

section

variable {userId boot : String} {receipt : Option CapabilityReceipt} {expiresAt : Int}
    (call : event.call = .recordV2 userId computer generation receipt expiresAt boot ownerActive)
include call

theorem fenced_moves {session : Session} (rotate now : Uuid → Int) (sound : SessionSound session) :
    SessionMoves store event session
      ((session.rotated computer generation rotate).fenced (store.capability? computer) userId boot
        now) := by
  unfold Session.fenced
  split
  · rename_i chosen
    cases found : store.capability? computer with
    | none => simp [found] at chosen
    | some previous =>
      simp only [found, Option.any_some, Bool.and_eq_true] at chosen
      have fenced := fences_rotated chosen.2
      have proves : ProvesReboot store event session := by
        unfold ProvesReboot
        rw [call]
        exact ⟨previous, found, chosen.1, fenced⟩
      have rotated := @rotated_moves store session computer generation rotate event sound
      have taken : (session.rotated computer generation rotate).takeoverReceipt =
          session.takeoverReceipt := by
        unfold Session.rotated
        split <;> rfl
      exact moves_released (fences_controls fenced) rotated.id rotated.computer rotated.userId
        rotated.generation rotated.role rfl rfl taken (.inr proves)
  · exact rotated_moves computer generation rotate event sound

theorem record_v2_effect (sound : ∀ session ∈ store.sessions, SessionSound session) :
    DesktopEffect store event
      (settle store (recordCapabilityV2 event.instants userId computer generation receipt expiresAt
        boot ownerActive store)) := by
  unfold recordCapabilityV2
  dsimp only
  iterate 3
    split
    · exact effect_refl sound
  cases returned : recordCapability event.instants userId computer generation receipt expiresAt
      ownerActive store with
  | error raised => exact effect_refl sound
  | ok result =>
    have ⟨answer, recordedStore⟩ := result
    rcases record_ok returned with ⟨notReady, same⟩ | ⟨ready, sessions, recorded⟩
    · rw [same]
      simp only [bind, Except.bind, notReady, ne_eq, not_false_eq_true, if_true, settle]
      exact effect_refl sound
    simp only [bind, Except.bind, ready, ne_eq, not_true_eq_false, if_false, settle]
    have bound := @set_boot_recorded recordedStore userId boot computer generation
      store.capabilities recorded
    have bootRows : (recordedStore.setBoot computer boot).sessions.rows =
        store.sessions.rows.map fun session =>
          session.rotated computer generation (event.instants.row store.clock 0) := by
      dsimp only [DesktopStore.setBoot]
      rw [sessions, rotate_rows]
    apply DesktopEffect.recorded userId computer generation
    · refine ⟨fun session =>
        (session.rotated computer generation (event.instants.row store.clock 0)).fenced
          (store.capability? computer) userId boot (event.instants.row store.clock 1), ?_, ?_⟩
      · rw [fence_rows, bootRows, List.map_map]
        rfl
      · intro session there
        exact fenced_moves call _ _ (sound session there)
    · exact bound
    · intro session there onComputer unrevoked
      rw [Table.mem_rows, fence_rows, List.mem_map] at there
      have ⟨old, oldThere, isSession⟩ := there
      unfold Session.fenced at isSession
      split at isSession
      · rw [← isSession] at unrevoked
        cases unrevoked
      · have rotatedThere : session ∈
            (store.rotate computer generation (event.instants.row store.clock 0)).sessions := by
          rw [Table.mem_rows, rotate_rows, ← bootRows, ← isSession]
          exact oldThere
        exact rotate_current session rotatedThere onComputer unrevoked

end

section

variable (sound : ∀ session ∈ store.sessions, SessionSound session)
include sound

theorem revoke_capability_effect {userId : String} : DesktopEffect store event
      (revokeCapability event.instants userId computer generation store).2 := by
  simp only [revokeCapability]
  split
  · apply DesktopEffect.moved
    · apply moved_rewrite sound rfl
      intro session there chosen
      simp only [Bool.and_eq_true, Option.isNone_iff_eq_none] at chosen
      exact revoke_moves (sound session there) chosen.2 _ _
    · apply followed_rewrite
      · intro capability
        exact ⟨rfl, rfl, rfl⟩
      · intro capability
        rfl
      · intro capability _ _
        exact ⟨rfl, rfl, rfl⟩
  · exact effect_refl sound

def Session.cleaned (session : Session) (computer : ComputerRef) (now : Uuid → Int) : Session :=
  if session.computer == computer && session.expiresAt ≤ now session.id &&
      session.revokedAt.isNone then
    session.expire (now session.id)
  else session

omit sound in
theorem cleaned_rows (computer : ComputerRef) (now : Uuid → Int) :
    (store.expireSessions computer now).sessions.rows =
      store.sessions.rows.map fun session => session.cleaned computer now := rfl

theorem expired_moved : SessionsMoved store event (store.expireSessions computer now) := by
  apply moved_rewrite sound rfl
  intro session there chosen
  simp only [Bool.and_eq_true, Option.isNone_iff_eq_none] at chosen
  exact expire_moves (sound session there) chosen.2 _

omit sound in
theorem issued_sound {request : IssueRequest} {capability : Capability} {now : Int} :
    SessionSound (request.session capability now) := by
  have shape : (request.session capability now).inputState =
      if request.inputRole = .controller then .takeoverPending else .notRequested := rfl
  cases role : request.inputRole with
  | controller =>
    rw [role, if_pos rfl] at shape
    constructor
    · rw [shape]
      simp [IssueRequest.session, role]
    · simp [shape]
    · intro _
      rfl
    · intro _
      rfl
    · simp [shape]
  | viewer =>
    rw [role, if_neg (by decide)] at shape
    constructor
    · rw [shape]
      simp [IssueRequest.session, role]
    · simp [shape]
    · intro _
      rfl
    · intro _
      rfl
    · simp [shape]

theorem issue_cases {request : IssueRequest} {ownerActive : Bool} :
    (issueSession event.instants request ownerActive store).1 ≠ .issued ∧
        ((issueSession event.instants request ownerActive store).2 = store ∨
          (issueSession event.instants request ownerActive store).2 =
            store.expireSessions request.computer (event.instants.row store.clock 0)) ∨
      (issueSession event.instants request ownerActive store).1 = .issued ∧
        ∃ new : Session, new.computer = request.computer ∧ new.inputRole = request.inputRole ∧
          Issued store event
            (store.expireSessions request.computer (event.instants.row store.clock 0))
            (issueSession event.instants request ownerActive store).2 new := by
  unfold issueSession
  split
  · exact .inl ⟨by simp, .inl rfl⟩
  cases found : store.capability? request.computer with
  | none => exact .inl ⟨by simp, .inl rfl⟩
  | some capability =>
    dsimp only
    have ⟨there, onComputer⟩ := capability_there found
    by_cases unavailable : capability.userId ≠ request.userId ∨
        capability.revokedAt.isSome = true ∨
        capability.expiresAt ≤ event.instants.clock store.clock 0 ∨
        capability.expiresAt < request.expiresAt ∨
        capability.installedTransports.contains request.transport = false
    · rw [if_pos unavailable]
      exact .inl ⟨by simp, .inl rfl⟩
    rw [if_neg unavailable]
    push Not at unavailable
    iterate 3
      split
      · exact .inl ⟨by simp, .inl rfl⟩
    split
    · exact .inl ⟨by simp, .inr rfl⟩
    rename_i excluded
    split
    · exact .inl ⟨by simp, .inr rfl⟩
    rename_i sessions inserted
    refine .inr ⟨rfl, request.session capability (event.instants.clock store.clock 2), rfl, rfl,
      ?_⟩
    constructor
    · exact expired_moved sound
    · rfl
    · exact Table.insert_rows inserted
    · exact issued_sound
    · rfl
    · exact ⟨capability, there, onComputer, rfl, unavailable.1⟩
    · intro controls session sessionThere
      cases stands : session.excludes request.computer capability.generation
          (event.instants.row store.clock 1 session.id) with
      | false => exact stands
      | true =>
        exact absurd ⟨controls, List.any_eq_true.mpr ⟨session, sessionThere, stands⟩⟩ excluded

theorem issue_effect {request : IssueRequest} :
    DesktopEffect store event (issueSession event.instants request ownerActive store).2 := by
  rcases @issue_cases store event sound request ownerActive with
    ⟨_, same | cleaned⟩ | ⟨_, new, _, _, issued⟩
  · rw [same]
    exact effect_refl sound
  · rw [cleaned]
    exact effect_of_moved ⟨expired_moved sound, rfl⟩
  · exact .issued _ new issued

theorem run_effect : DesktopEffect store event (event.run store) := by
  unfold DesktopEvent.run
  cases call : event.call with
  | record userId computer generation receipt expiresAt ownerActive => exact record_effect sound
  | recordV2 userId computer generation receipt expiresAt boot ownerActive =>
    exact record_v2_effect call sound
  | revokeCapability userId computer generation => exact revoke_capability_effect sound
  | issue request ownerActive => exact issue_effect sound
  | exchange exchangeCodeHash pkceChallenge sessionTokenHash ownerActive =>
    exact effect_of_moved (exchange_moved sound)
  | confirmTakeover userId sessionId receipt =>
    apply effect_of_moved
    apply take_moved _ sound
    intro session found confirmed
    unfold ConfirmsTakeover
    rw [call]
    exact ⟨(session_there found).2.symm, confirmed⟩
  | confirmRelease userId sessionId receipt =>
    apply effect_of_moved
    apply release_moved _ sound
    intro session found confirmed
    unfold ConfirmsRelease
    rw [call]
    exact ⟨(session_there found).2.symm, confirmed⟩
  | confirmByToken sessionTokenHash receipt => exact effect_of_moved (by_token_moved call sound)
  | authorize sessionTokenHash computer transport wantsInput ownerActive =>
    exact effect_of_moved (authorize_moved sound)
  | renew sessionTokenHash ttlSeconds ownerActive => exact effect_of_moved (renew_moved sound)
  | revoke userId sessionId reason => exact effect_of_moved (revoke_moved sound)
  | revokeByToken sessionTokenHash reason => exact effect_of_moved (revoke_by_token_moved sound)

end

end Effects

end Hivra.RemoteDesktop
