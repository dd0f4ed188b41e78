import Hivra.RemoteDesktop.DesktopTables

/-!
# Desktop functions

The functions that record capabilities and issue, exchange, renew, authorize and end
sessions, and those that confirm a takeover or a release.  Each holds its lock to its end,
so it is one step in the order of the locks.
-/

namespace Hivra.RemoteDesktop

open Hivra.Library
open Hivra.AgentNetwork (Uuid Raised raise refuseIf checkViolation)

def oneMinute : Int := 60000000

/-- `text ~ '^[a-f0-9]\x7b64\x7d$'`. -/
def isSha256 (text : String) : Bool :=
  text.length == 64 && text.toList.all isLowerHexDigit

/-- `text ~ '^[a-f0-9]\x7b40\x7d([a-f0-9]\x7b24\x7d)?$'`. -/
def isRevision (text : String) : Bool :=
  (text.length == 40 || text.length == 64) && text.toList.all isLowerHexDigit

/-- `text ~ '^[A-Za-z0-9_-]\x7b43\x7d$'`. -/
def isPkceChallenge (text : String) : Bool :=
  text.length == 43 &&
    text.toList.all fun char => char.isAlphanum || char == '_' || char == '-'

def isPort (chars : List Char) : Bool :=
  match chars with
  | [] => true
  | ':' :: digits => 1 ≤ digits.length && digits.length ≤ 5 && digits.all Char.isDigit
  | _ => false

/-- `text ~ '^https://(\[[0-9A-Fa-f:.]+\]|[A-Za-z0-9.-]+)(:[0-9]\x7b1,5\x7d)?$'`. -/
def isBrokerOrigin (text : String) : Bool :=
  "https://".toList.isPrefixOf text.toList &&
    match text.toList.drop 8 with
    | '[' :: rest =>
      let address := rest.takeWhile fun char =>
        char.isDigit || ('a' ≤ char && char ≤ 'f') || ('A' ≤ char && char ≤ 'F') ||
          char == ':' || char == '.'
      !address.isEmpty &&
        match rest.drop address.length with
        | ']' :: port => isPort port
        | _ => false
    | rest =>
      let host := rest.takeWhile fun char => char.isAlphanum || char == '.' || char == '-'
      !host.isEmpty && isPort (rest.drop host.length)

def isUserId (text : String) : Bool :=
  1 ≤ text.length && text.length ≤ 256

def Session.inputStateRevoked (session : Session) : InputState :=
  if session.inputState = .active then .releasePending
  else if session.inputRole = .controller then .released
  else session.inputState

def Session.revoke (session : Session) (now : Int) (reason : String) : Session :=
  { session with
    revokedAt := some (session.revokedAt.getD now)
    revokeReason := some (session.revokeReason.getD reason)
    inputState := session.inputStateRevoked
    controlReleasedAt :=
      if session.inputState = .active then session.controlReleasedAt
      else if session.inputRole = .controller then some now
      else session.controlReleasedAt }

def Session.expire (session : Session) (now : Int) : Session :=
  { session.revoke now "session_expired" with
    revokedAt := some now
    revokeReason := some "session_expired" }

def Session.revokeOne (session : Session) (now : Int) (reason : String) : Session :=
  { session with
    revokedAt := some now
    revokeReason := some reason
    inputState := session.inputStateRevoked
    controlReleasedAt :=
      if session.inputStateRevoked = .released then some now else session.controlReleasedAt }

def Session.fence (session : Session) (now : Int) : Session :=
  { session with
    revokedAt := some (session.revokedAt.getD now)
    revokeReason := some (session.revokeReason.getD "computer_restarted")
    inputState := .released
    controlReleasedAt := some (session.controlReleasedAt.getD now) }

inductive CapabilityAnswer
  | invalidReceipt
  | computerNotReady
  | generationConflict
  | staleObservation
  | operationConflict
  | ready
  deriving DecidableEq

def allTransports : List Transport :=
  [.recoveryConsole, .selkiesWebrtc, .selkiesWebsocket, .sunshineMoonlight]

/-- `array_agg(distinct ... order by ...)` of known transports; another one is refused. -/
def transportsOf (names : List String) : Option (List Transport) :=
  if names.all fun name => (Transport.ofName? name).isSome then
    some (allTransports.filter fun transport => names.contains transport.name)
  else none

def CapabilityReceipt.capability? (receipt : CapabilityReceipt) (userId : String)
    (computer : ComputerRef) (generation : Uuid) (expiresAt : Int) (early : Nat → Int) :
    Option Capability :=
  match receipt.observedAt, Compositor.ofName? receipt.compositor,
      transportsOf receipt.installedTransports with
  | some observedAt, some compositor, some installedTransports =>
    if receipt.protocol = "hivra-remote-desktop-capability-v1" ∧
        receipt.computerKind = computer.kind.name ∧ receipt.computerId = computer.id.text ∧
        receipt.capabilityGeneration = generation.text ∧
        isRevision receipt.observedRevision = true ∧
        isBrokerOrigin receipt.brokerOrigin = true ∧ observedAt ≤ early 0 + oneMinute ∧
        early 1 - 5 * oneMinute ≤ observedAt ∧ early 2 < expiresAt ∧
        expiresAt ≤ observedAt + 10 * oneMinute ∧ installedTransports ≠ [] then
      some
        { computer
          userId
          generation
          observedRevision := receipt.observedRevision
          compositor
          installedTransports
          privateNetworkReachable := receipt.privateNetworkReachable
          supportsInputTakeover := receipt.supportsInputTakeover
          brokerOrigin := receipt.brokerOrigin
          observedAt
          expiresAt
          revokedAt := none
          bootIdentitySha256 := none }
    else none
  | _, _, _ => none

def Capability.conflicts (existing new : Capability) : Bool :=
  existing.generation == new.generation &&
    (existing.revokedAt.isSome || existing.userId != new.userId ||
      existing.observedRevision != new.observedRevision ||
      existing.compositor != new.compositor ||
      existing.installedTransports != new.installedTransports ||
      existing.privateNetworkReachable != new.privateNetworkReachable ||
      existing.supportsInputTakeover != new.supportsInputTakeover ||
      existing.brokerOrigin != new.brokerOrigin)

/-- `preserve_hivra_remote_desktop_boot_identity` of the upsert, which leaves the column
out: a changed generation clears it. -/
def Capability.replacing (new existing : Capability) : Capability :=
  { new with
    bootIdentitySha256 :=
      if existing.generation = new.generation then existing.bootIdentitySha256 else none }

/-- `insert ... on conflict do update`. -/
def DesktopStore.upsert (store : DesktopStore) (new : Capability) : DesktopStore :=
  match store.capability? new.computer with
  | none =>
    { store with
      capabilities := (store.capabilities.insert new).getD store.capabilities }
  | some _ =>
    { store with
      capabilities :=
        store.capabilities.rewrite (fun capability => capability.computer == new.computer)
          (fun existing => { new.replacing existing with computer := existing.computer })
          (fun _ => rfl) }

def DesktopStore.rotate (store : DesktopStore) (computer : ComputerRef) (generation : Uuid)
    (now : Uuid → Int) : DesktopStore :=
  { store with
    sessions :=
      store.sessions.rewrite
        (fun session =>
          session.computer == computer && session.capabilityGeneration != generation &&
            session.revokedAt.isNone)
        (fun session => session.revoke (now session.id) "capability_rotated")
        (fun _ => rfl) }

/-- `record_hivra_remote_desktop_capability`. -/
def recordCapability (instants : Instants) (userId : String) (computer : ComputerRef)
    (generation : Uuid) (receipt : Option CapabilityReceipt) (expiresAt : Int)
    (ownerActive : Bool) (store : DesktopStore) : Except Raised (CapabilityAnswer × DesktopStore) :=
  match receipt.bind fun receipt =>
      receipt.capability? userId computer generation expiresAt (instants.early store.clock) with
  | none => .ok (.invalidReceipt, store)
  | some new =>
    if isUserId userId = false then .ok (.invalidReceipt, store)
    else if ownerActive = false then .ok (.computerNotReady, store)
    else if (store.capability? computer).any (fun existing => existing.conflicts new) = true then
      .ok (.generationConflict, store)
    else do
      -- `hivra_remote_desktop_capability_window`
      refuseIf (new.expiresAt ≤ new.observedAt) checkViolation
        "new row violates check constraint hivra_remote_desktop_capability_window"
      .ok (.ready, (store.rotate computer generation (instants.row store.clock 0)).upsert new)

/-- The second update of `record_hivra_remote_desktop_capability_v2`. -/
def DesktopStore.setBoot (store : DesktopStore) (computer : ComputerRef) (boot : String) :
    DesktopStore :=
  { store with
    capabilities :=
      store.capabilities.rewrite (fun capability => capability.computer == computer)
        (fun capability => { capability with bootIdentitySha256 := some boot })
        (fun _ => rfl) }

def Capability.rebooted (previous : Capability) (userId boot : String) : Bool :=
  previous.userId == userId && previous.bootIdentitySha256.any fun before => before != boot

def Capability.fences (previous : Capability) (session : Session) : Bool :=
  session.userId == previous.userId && session.computer == previous.computer &&
    (previous.bootIdentitySha256.any fun boot =>
      session.capabilityBootIdentitySha256 == some boot) &&
    session.inputRole == .controller &&
    (session.inputState == .takeoverPending || session.inputState == .active ||
      session.inputState == .releasePending)

def DesktopStore.fence (store : DesktopStore) (previous : Option Capability)
    (userId boot : String) (now : Uuid → Int) : DesktopStore :=
  { store with
    sessions :=
      store.sessions.rewrite
        (fun session =>
          previous.any fun previous =>
            previous.rebooted userId boot && previous.fences session)
        (fun session => session.fence (now session.id))
        (fun _ => rfl) }

/-- `record_hivra_remote_desktop_capability_v2`. -/
def recordCapabilityV2 (instants : Instants) (userId : String) (computer : ComputerRef)
    (generation : Uuid) (receipt : Option CapabilityReceipt) (expiresAt : Int)
    (bootIdentitySha256 : String) (ownerActive : Bool) (store : DesktopStore) :
    Except Raised (CapabilityAnswer × DesktopStore) :=
  let previous := store.capability? computer
  if isSha256 bootIdentitySha256 = false then .ok (.invalidReceipt, store)
  else
    match receipt.bind CapabilityReceipt.observedAt with
    | none => .ok (.invalidReceipt, store)
    | some observedAt =>
      if previous.any (fun previous => observedAt < previous.observedAt) = true then
        .ok (.staleObservation, store)
      else do
        let (answer, recorded) ← recordCapability instants userId computer generation receipt
          expiresAt ownerActive store
        if answer ≠ .ready then .ok (answer, recorded)
        else
          .ok
            (.ready,
              (recorded.setBoot computer bootIdentitySha256).fence previous userId
                bootIdentitySha256 (instants.row store.clock 1))

/-- `revoke_hivra_remote_desktop_capability`. -/
def revokeCapability (instants : Instants) (userId : String) (computer : ComputerRef)
    (generation : Uuid) (store : DesktopStore) : Bool × DesktopStore :=
  let named (capability : Capability) : Bool :=
    capability.userId == userId && capability.computer == computer &&
      capability.generation == generation && capability.revokedAt.isNone
  if store.capabilities.rows.any named then
    (true,
      { store with
        capabilities :=
          store.capabilities.rewrite named
            (fun capability =>
              { capability with revokedAt := some (instants.clock store.clock 0) })
            (fun _ => rfl)
        sessions :=
          store.sessions.rewrite
            (fun session =>
              session.userId == userId && session.computer == computer &&
                session.capabilityGeneration == generation && session.revokedAt.isNone)
            (fun session =>
              session.revoke (instants.row store.clock 0 session.id) "computer_stopping")
            (fun _ => rfl) })
  else (false, store)

structure IssueRequest where
  userId : String
  sessionId : Uuid
  computer : ComputerRef
  transport : Transport
  inputRole : InputRole
  handoff : Handoff
  exchangeCodeHash : String
  pkceChallenge : String
  issuedAt : Int
  expiresAt : Int
  relayCredentialExpiresAt : Option Int
  /-- Missing in a call of the first version, which issues in `hq`. -/
  streamingMode : Option StreamingMode

def IssueRequest.valid (request : IssueRequest) (early : Nat → Int) : Bool :=
  isUserId request.userId && isSha256 request.exchangeCodeHash &&
    isPkceChallenge request.pkceChallenge && request.issuedAt ≤ early 0 &&
    early 1 - oneMinute ≤ request.issuedAt && early 2 < request.expiresAt &&
    request.issuedAt < request.expiresAt && request.expiresAt ≤ request.issuedAt + 5 * oneMinute &&
    request.expiresAt ≤ early 3 + 5 * oneMinute &&
    request.relayCredentialExpiresAt.all fun expires =>
      request.issuedAt < expires && expires ≤ request.expiresAt

inductive IssueAnswer
  | invalidRequest
  | capabilityUnavailable
  | transportUnavailable
  | inputTakeoverUnavailable
  | computerNotReady
  | controllerConflict
  | operationConflict
  | issued
  deriving DecidableEq

def Capability.carries (capability : Capability) (transport : Transport) : Bool :=
  match transport with
  | .selkiesWebrtc => capability.compositor == .x11
  | .selkiesWebsocket => capability.compositor == .x11
  | .sunshineMoonlight => capability.privateNetworkReachable
  | .recoveryConsole => true

/-- `bind_hivra_remote_desktop_session_boot_identity` of a new session. -/
def IssueRequest.session (request : IssueRequest) (capability : Capability) (now : Int) : Session :=
  { id := request.sessionId
    userId := request.userId
    computer := request.computer
    capabilityGeneration := capability.generation
    transport := request.transport
    inputRole := request.inputRole
    inputState := if request.inputRole = .controller then .takeoverPending else .notRequested
    handoff := request.handoff
    exchangeCodeHash := request.exchangeCodeHash
    pkceChallenge := request.pkceChallenge
    sessionTokenHash := none
    issuedAt := request.issuedAt
    expiresAt := request.expiresAt
    relayCredentialExpiresAt := request.relayCredentialExpiresAt
    exchangedAt := none
    takeoverReceipt := none
    releaseReceipt := none
    lastAuthorizedAt := none
    controlReleasedAt := none
    revokedAt := none
    revokeReason := none
    createdAt := now
    renewalCount := 0
    capabilityBootIdentitySha256 :=
      if capability.userId = request.userId then capability.bootIdentitySha256 else none
    streamingMode := request.streamingMode.getD .hq }

def DesktopStore.expireSessions (store : DesktopStore) (computer : ComputerRef)
    (now : Uuid → Int) : DesktopStore :=
  { store with
    sessions :=
      store.sessions.rewrite
        (fun session =>
          session.computer == computer && session.expiresAt ≤ now session.id &&
            session.revokedAt.isNone)
        (fun session => session.expire (now session.id))
        (fun _ => rfl) }

def Session.excludes (session : Session) (computer : ComputerRef) (generation : Uuid)
    (now : Int) : Bool :=
  session.computer == computer && session.inputRole == .controller &&
    (session.capabilityGeneration == generation && session.revokedAt.isNone &&
        decide (now < session.expiresAt) &&
        (session.inputState == .takeoverPending || session.inputState == .active) ||
      session.inputState == .releasePending)

/-- `issue_hivra_remote_desktop_session` and its second version. -/
def issueSession (instants : Instants) (request : IssueRequest) (ownerActive : Bool)
    (store : DesktopStore) : IssueAnswer × DesktopStore :=
  if request.valid (instants.early store.clock) = false then (.invalidRequest, store)
  else
    match store.capability? request.computer with
    | none => (.capabilityUnavailable, store)
    | some capability =>
      if capability.userId ≠ request.userId ∨ capability.revokedAt.isSome = true ∨
          capability.expiresAt ≤ instants.clock store.clock 0 ∨
          capability.expiresAt < request.expiresAt ∨
          capability.installedTransports.contains request.transport = false then
        (.capabilityUnavailable, store)
      else if capability.carries request.transport = false then (.transportUnavailable, store)
      else if request.inputRole = .controller ∧ capability.supportsInputTakeover = false then
        (.inputTakeoverUnavailable, store)
      else if ownerActive = false then (.computerNotReady, store)
      else
        let cleaned := store.expireSessions request.computer (instants.row store.clock 0)
        if request.inputRole = .controller ∧
            cleaned.sessions.rows.any (fun session =>
              session.excludes request.computer capability.generation
                (instants.row store.clock 1 session.id)) = true then
          (.controllerConflict, cleaned)
        else
          match cleaned.sessions.insert
              (request.session capability (instants.clock store.clock 2)) with
          | none => (.operationConflict, cleaned)
          | some sessions => (.issued, { cleaned with sessions })

def DesktopStore.session? (store : DesktopStore) (sessionId : Uuid) (userId : String) :
    Option Session :=
  store.sessions.find? fun session => session.id == sessionId && session.userId == userId

def DesktopStore.sessionByToken? (store : DesktopStore) (hash : String) : Option Session :=
  store.sessions.find? fun session => session.sessionTokenHash == some hash

/-- `update ... where id = s.id` of columns that are not unique. -/
def DesktopStore.setSession (store : DesktopStore) (sessionId : Uuid) (change : Session → Session)
    (keeps : ∀ session, (change session).entries = session.entries) : DesktopStore :=
  { store with
    sessions := store.sessions.rewrite (fun session => session.id == sessionId) change keeps }

def DesktopStore.capabilityOf? (store : DesktopStore) (session : Session) (now : Int) :
    Option Capability :=
  (store.capability? session.computer).filter fun capability =>
    capability.userId == session.userId &&
      capability.generation == session.capabilityGeneration && capability.revokedAt.isNone &&
      decide (now < capability.expiresAt)

inductive ExchangeAnswer
  | invalid
  | alreadyUsed
  | revoked
  | notYetValid
  | expired
  | capabilityUnavailable
  | computerNotReady
  | operationConflict
  | exchanged

/-- `exchange_hivra_remote_desktop_session`. -/
def exchangeSession (instants : Instants) (exchangeCodeHash pkceChallenge sessionTokenHash : String)
    (ownerActive : Bool) (store : DesktopStore) : ExchangeAnswer × DesktopStore :=
  if isSha256 exchangeCodeHash = false ∨ isPkceChallenge pkceChallenge = false ∨
      isSha256 sessionTokenHash = false then
    (.invalid, store)
  else
    match store.sessions.find? fun session => session.exchangeCodeHash == exchangeCodeHash with
    | none => (.invalid, store)
    | some session =>
      if session.exchangedAt.isSome then (.alreadyUsed, store)
      else if session.revokedAt.isSome then (.revoked, store)
      else if instants.clock store.clock 0 < session.issuedAt then (.notYetValid, store)
      else if session.expiresAt ≤ instants.clock store.clock 1 then (.expired, store)
      else if session.pkceChallenge ≠ pkceChallenge then (.invalid, store)
      else
        match store.capabilityOf? session (instants.clock store.clock 2) with
        | none => (.capabilityUnavailable, store)
        | some capability =>
          if capability.installedTransports.contains session.transport = false ∨
              capability.carries session.transport = false then
            (.capabilityUnavailable, store)
          else if ownerActive = false then (.computerNotReady, store)
          else
            match store.sessions.update (fun row => row.id == session.id) fun row =>
                { row with
                  sessionTokenHash := some sessionTokenHash
                  exchangedAt := some (instants.clock store.clock 3) } with
            | none => (.operationConflict, store)
            | some sessions => (.exchanged, { store with sessions })

def InputReceipt.states (receipt : InputReceipt) (session : Session) (action : String)
    (suspended : Bool) (controllerCount : String) (early late : Int) : Bool :=
  receipt.protocol == "hivra-remote-desktop-input-v1" && receipt.action == action &&
    receipt.sessionId == session.id.text && receipt.computerKind == session.computer.kind.name &&
    receipt.computerId == session.computer.id.text &&
    receipt.capabilityGeneration == session.capabilityGeneration.text &&
    receipt.transport == session.transport.name && receipt.agentInputSuspended == suspended &&
    receipt.controllerCount == controllerCount &&
    receipt.observedAt.any fun observedAt =>
      observedAt ≤ early + oneMinute && late - 2 * oneMinute ≤ observedAt

/-- `confirm_hivra_remote_desktop_takeover`. -/
def confirmTakeover (instants : Instants) (userId : String) (sessionId : Uuid)
    (receipt : Option InputReceipt) (store : DesktopStore) : Bool × DesktopStore :=
  match store.session? sessionId userId, receipt with
  | some session, some receipt =>
    if session.inputRole ≠ .controller ∨ session.inputState ≠ .takeoverPending ∨
        session.exchangedAt.isNone = true ∨ session.revokedAt.isSome = true ∨
        session.expiresAt ≤ instants.clock store.clock 0 then
      (false, store)
    else if receipt.states session "agent-input-suspended" true "1"
        (instants.clock store.clock 1) (instants.clock store.clock 2) = false then
      (false, store)
    else if (store.capabilityOf? session (instants.clock store.clock 3)).any
        Capability.supportsInputTakeover = false then
      (false, store)
    else
      (true,
        store.setSession session.id
          (fun row => { row with inputState := .active, takeoverReceipt := some receipt })
          (fun _ => rfl))
  | _, _ => (false, store)

/-- `confirm_hivra_remote_desktop_release`. -/
def confirmRelease (instants : Instants) (userId : String) (sessionId : Uuid)
    (receipt : Option InputReceipt) (store : DesktopStore) : Bool × DesktopStore :=
  match store.session? sessionId userId, receipt with
  | some session, some receipt =>
    if session.inputRole ≠ .controller ∨ session.inputState ≠ .releasePending ∨
        session.revokedAt.isNone = true then
      (false, store)
    else if receipt.states session "agent-input-resumed" false "0"
        (instants.clock store.clock 0) (instants.clock store.clock 1) = false then
      (false, store)
    else
      (true,
        store.setSession session.id
          (fun row =>
            { row with
              inputState := .released
              releaseReceipt := some receipt
              controlReleasedAt := some (instants.clock store.clock 2) })
          (fun _ => rfl))
  | _, _ => (false, store)

/-- `confirm_hivra_remote_desktop_input_transition_by_token`. -/
def confirmInputTransitionByToken (instants : Instants) (sessionTokenHash : String)
    (receipt : Option InputReceipt) (store : DesktopStore) : Bool × DesktopStore :=
  match receipt, store.sessionByToken? sessionTokenHash with
  | some receipt, some session =>
    if isSha256 sessionTokenHash = false ∨ receipt.sessionId ≠ session.id.text ∨
        receipt.computerKind ≠ session.computer.kind.name ∨
        receipt.computerId ≠ session.computer.id.text ∨
        receipt.capabilityGeneration ≠ session.capabilityGeneration.text ∨
        receipt.transport ≠ session.transport.name then
      (false, store)
    else if receipt.action = "agent-input-suspended" then
      -- Read ahead of the readings of the function it goes on to.
      if session.revokedAt.isSome = true ∨ session.expiresAt ≤ instants.early store.clock 0 then
        (false, store)
      else confirmTakeover instants session.userId session.id (some receipt) store
    else if receipt.action = "agent-input-resumed" then
      confirmRelease instants session.userId session.id (some receipt) store
    else (false, store)
  | _, _ => (false, store)

/-- The authorization a bearer is given: `inputReady` for input. -/
structure Authorization where
  session : Session
  inputReady : Bool

/-- `authorize_hivra_remote_desktop_session`; a denial is missing. -/
def authorizeSession (instants : Instants) (sessionTokenHash : String) (computer : ComputerRef)
    (transport : Transport) (wantsInput ownerActive : Bool) (store : DesktopStore) :
    Option Authorization × DesktopStore :=
  match store.sessionByToken? sessionTokenHash with
  | none => (none, store)
  | some session =>
    if isSha256 sessionTokenHash = false ∨ session.computer ≠ computer ∨
        session.transport ≠ transport ∨ session.exchangedAt.isNone = true ∨
        session.revokedAt.isSome = true ∨ instants.clock store.clock 0 < session.issuedAt ∨
        session.expiresAt ≤ instants.clock store.clock 1 ∨
        (wantsInput = true ∧
          (session.inputRole ≠ .controller ∨ session.inputState ≠ .active)) then
      (none, store)
    else
      match store.capabilityOf? session (instants.clock store.clock 2) with
      | none => (none, store)
      | some capability =>
        if capability.installedTransports.contains session.transport = false ∨
            capability.carries session.transport = false ∨ ownerActive = false then
          (none, store)
        else
          (some { session, inputReady := session.inputState == .active },
            store.setSession session.id
              (fun row => { row with lastAuthorizedAt := some (instants.clock store.clock 3) })
              (fun _ => rfl))

inductive RenewAnswer
  | denied
  | capabilityUnavailable
  | computerNotReady
  | controllerConflict
  | renewalWindowComplete
  | renewed

def Session.blocksRenewal (other session : Session) (now : Int) : Bool :=
  other.computer == session.computer && other.id != session.id &&
    other.inputRole == .controller &&
    (other.revokedAt.isNone && decide (now < other.expiresAt) &&
        (other.inputState == .takeoverPending || other.inputState == .active) ||
      other.inputState == .releasePending)

/-- `renew_hivra_remote_desktop_session_by_token`. -/
def renewSessionByToken (instants : Instants) (sessionTokenHash : String) (ttlSeconds : Nat)
    (ownerActive : Bool) (store : DesktopStore) : RenewAnswer × DesktopStore :=
  match store.sessionByToken? sessionTokenHash with
  | none => (.denied, store)
  | some session =>
    let now := instants.clock store.clock 0
    if isSha256 sessionTokenHash = false ∨ ttlSeconds < 30 ∨ 300 < ttlSeconds ∨
        session.exchangedAt.isNone = true ∨ session.revokedAt.isSome = true ∨
        session.expiresAt ≤ now ∨ session.inputRole ≠ .controller ∨
        session.inputState ≠ .active ∨ session.transport ≠ .selkiesWebsocket ∨
        session.relayCredentialExpiresAt.isSome = true ∨ 240 ≤ session.renewalCount then
      (.denied, store)
    else
      match store.capabilityOf? session (now + oneMinute / 2) with
      | none => (.capabilityUnavailable, store)
      | some capability =>
        if capability.installedTransports.contains session.transport = false ∨
            capability.compositor ≠ .x11 ∨ capability.supportsInputTakeover = false then
          (.capabilityUnavailable, store)
        else if ownerActive = false then (.computerNotReady, store)
        else if store.sessions.rows.any (fun other => other.blocksRenewal session now) then
          (.controllerConflict, store)
        else
          let expiresAt := min (now + 1000000 * ttlSeconds)
            (min capability.expiresAt (session.createdAt + 720 * oneMinute))
          if expiresAt ≤ now + oneMinute / 2 then (.renewalWindowComplete, store)
          else
            (.renewed,
              store.setSession session.id
                (fun row =>
                  { row with
                    issuedAt := now
                    expiresAt
                    renewalCount := row.renewalCount + 1 })
                (fun _ => rfl))

def ownerReasons : List String :=
  ["user_revoked", "handoff_abandoned", "connection_closed", "computer_stopping", "security_event"]

def guestReasons : List String :=
  ["connection_closed", "computer_stopping", "security_event"]

def DesktopStore.revokeFound (store : DesktopStore) (session : Session) (now : Int)
    (reason : String) : DesktopStore :=
  if session.revokedAt.isSome then store
  else
    store.setSession session.id (fun row => row.revokeOne now reason) (fun _ => rfl)

/-- `revoke_hivra_remote_desktop_session`; the input state after it, if one was found. -/
def revokeSession (instants : Instants) (userId : String) (sessionId : Uuid) (reason : String)
    (store : DesktopStore) : Option InputState × DesktopStore :=
  if ownerReasons.contains reason = false then (none, store)
  else
    match store.session? sessionId userId with
    | none => (none, store)
    | some session =>
      (some (if session.revokedAt.isSome then session.inputState else session.inputStateRevoked),
        store.revokeFound session (instants.clock store.clock 0) reason)

/-- `revoke_hivra_remote_desktop_session_by_token`. -/
def revokeSessionByToken (instants : Instants) (sessionTokenHash reason : String)
    (store : DesktopStore) : Option InputState × DesktopStore :=
  if isSha256 sessionTokenHash = false ∨ guestReasons.contains reason = false then (none, store)
  else
    match store.sessionByToken? sessionTokenHash with
    | none => (none, store)
    | some session =>
      (some (if session.revokedAt.isSome then session.inputState else session.inputStateRevoked),
        store.revokeFound session (instants.clock store.clock 0) reason)

end Hivra.RemoteDesktop
