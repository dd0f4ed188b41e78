import Hivra.Relay.RelayTables
import Mathlib.Data.List.Sort

/-!
# The relay's requests

What each request does from one of its awaits to the next.
-/

namespace Hivra.Relay

def RelayObject.retireAgents (object : RelayObject) (retired : ControlSocket → Bool) :
    RelayObject :=
  { object with
    agents :=
      object.agents.map fun socket =>
        if retired socket then { socket with isOpen := false } else socket }

def RelayObject.closeEntry (object : RelayObject) (streamId : String) : RelayObject :=
  { object with streams := object.streams.filter fun entry => entry.streamId != streamId }

def isHexDigit (char : Char) : Bool :=
  char.isDigit || ('a'.toNat ≤ char.toNat && char.toNat ≤ 'f'.toNat)

def isSignature (text : String) : Bool :=
  text.length == 64 && text.toList.all isHexDigit

/-- `verifyConnector` as far as its first await. -/
def verifyConnectorArrived (object : RelayObject) (request : RelayRequest) : Waiting :=
  match request.generation, request.timestamp with
  | some generation, some timestamp =>
    if generation < 1 ∨ (maxGeneration : Int) < generation then .answered unauthorized
    else if (clockSkewSeconds * 1000 : Int) < |(object.clock : Int) - timestamp * 1000| then
      .answered unauthorized
    else if isSignature request.signature = false then .answered unauthorized
    else .connectorRead generation.toNat timestamp object.minGeneration
  | _, _ => .answered unauthorized

def Route.signed : Route → String × String
  | .stream streamId => ("stream", streamId)
  | _ => ("agent", "")

def RelayEnv.verifies (env : RelayEnv) (request : RelayRequest) (generation : Nat)
    (timestamp : Int) : Bool :=
  env.connectorSignature (env.connectorSecret generation) request.route.signed.1
    request.route.signed.2 timestamp == request.signature

/-- `acceptAgent` after its await. -/
def RelayObject.acceptAgent (object : RelayObject) (generation : Nat) :
    RelayObject × RelayResponse :=
  let replaced := object.retireAgents fun _ => true
  ({ replaced with agents := replaced.agents ++ [{ generation, isOpen := true }] }, .upgraded)

/-- `acceptStream` after its await. -/
def RelayObject.acceptStream (object : RelayObject) (streamId : String) (generation : Nat) :
    RelayObject × RelayResponse :=
  match object.streams.find? fun entry => entry.streamId == streamId with
  | none => (object, .error 404 "unknown_stream")
  | some entry =>
    if entry.stream.isSome then (object, .error 409 "stream_attached")
    else
      ({ object with
          streams :=
            object.streams.map fun entry =>
              if entry.streamId == streamId then { entry with stream := some generation }
              else entry },
        .upgraded)

def RelayObject.acceptConnector (object : RelayObject) (route : Route) (generation : Nat) :
    RelayObject × RelayResponse :=
  match route with
  | .stream streamId => object.acceptStream streamId generation
  | _ => object.acceptAgent generation

def isTokenChar (char : Char) : Bool := char.isAlphanum || char == '_' || char == '-'

def isTokenId (text : String) : Bool :=
  16 ≤ text.length && text.length ≤ 64 && text.toList.all isTokenChar

/-- The two parts of `Bearer <text>.<signature>`. -/
def bearerTicket? (authorization : String) : Option (String × String) :=
  let lead := "Bearer ".toList
  let rest := authorization.toList.drop lead.length
  let text := rest.takeWhile isTokenChar
  match rest.dropWhile isTokenChar with
  | '.' :: signature =>
    if authorization.toList.take lead.length = lead ∧ text ≠ [] ∧ signature ≠ [] ∧
        signature.all isTokenChar = true then
      some (String.ofList text, String.ofList signature)
    else none
  | _ => none

/-- The checks of a payload at a second `now`. -/
def TicketPayload.ticket? (payload : TicketPayload) (connectionId : String) (now : Nat) :
    Option Ticket :=
  match payload.exp, payload.jti with
  | some exp, some jti =>
    if payload.aud ≠ some connectionId ∨ exp ≤ now ∨ now + maxTicketLifetimeSeconds < exp ∨
        isTokenId jti = false then
      none
    else some { jti, exp }
  | _, _ => none

/-- What the environment chooses where a client's session is opened: the random token,
and whether the control socket took the message. -/
structure Choice where
  token : String
  sent : Bool

/-- `acceptClient` after its ticket was consumed. -/
def RelayObject.openSession (object : RelayObject) (choice : Choice) :
    RelayObject × RelayResponse :=
  match object.agents with
  | [] => (object, .error 503 "host_offline")
  | _ :: _ =>
    if maxStreams ≤ object.streams.length then (object, .error 429 "too_many_streams")
    else
      let opened :=
        { object with
          streams := object.streams ++ [{ streamId := choice.token, stream := none }] }
      if choice.sent then (opened, .upgraded)
      else (opened.closeEntry choice.token, .error 503 "host_offline")

def RelayObject.consumeTicket (object : RelayObject) (env : RelayEnv) (number : Nat)
    (text : String) : RelayObject × Waiting :=
  match env.parseTicket text with
  | .invalid => (object, .answered unauthorized)
  | .null => (object, .answered .failed)
  | .payload payload =>
    match payload.ticket? env.connectionId object.seconds with
    | none => (object, .answered unauthorized)
    | some ticket =>
      let callback : Callback :=
        { request := number, ticket, now := object.seconds, stage := .passed }
      ({ object with callbacks := object.callbacks ++ [callback] }, .exclusive)

def listTickets (tickets : AList fun _ : String => ℚ) : List (String × ℚ) :=
  ((tickets.entries.map fun entry => (entry.1, entry.2)).insertionSort
    fun left right => left.1 ≤ right.1).take 100

/-- The keys `forgetExpiredTickets` deletes. -/
def expiredTickets (page : List (String × ℚ)) (now : Nat) : List String :=
  (page.filter fun entry => decide (entry.2 ≤ (now : ℚ))).map Prod.fst

/-- The sweep of `revoke`. -/
def RelayObject.sweep (object : RelayObject) (next : Nat) : RelayObject :=
  { object.retireAgents (fun socket => socket.generation < next) with streams := [] }

/-- What `revoke` does with the body. -/
def revokeAsked (object : RelayObject) (body : Option Int) : Waiting :=
  match body with
  | none => .answered (.error 400 "invalid_request")
  | some minGeneration =>
    if minGeneration < 1 ∨ (maxGeneration : Int) < minGeneration then
      .answered (.error 400 "invalid_request")
    else .revokeRead minGeneration.toNat object.minGeneration

def statusAsked (object : RelayObject) : Waiting :=
  .statusRead (!object.agents.isEmpty) (object.agents.head?.map ControlSocket.generation)
    object.minGeneration

/-- `fetch` as far as its request's first await. -/
def arrived (env : RelayEnv) (object : RelayObject) (request : RelayRequest) : Waiting :=
  if env.configured = false then .answered (.error 503 "not_configured")
  else
    match request.route with
    | .unknown => .answered (.error 404 "not_found")
    | .revoke =>
      if request.method = "POST" then .adminToken 1
      else .answered (.error 405 "method_not_allowed")
    | .status =>
      if request.method = "GET" then .adminToken 1
      else .answered (.error 405 "method_not_allowed")
    | .client =>
      if request.isUpgrade = false then .answered (.error 426 "websocket_required")
      else
        match bearerTicket? request.authorization with
        | none => .answered unauthorized
        | some (text, signature) => .ticketSignature text signature 3
    | _ =>
      if request.isUpgrade = false then .answered (.error 426 "websocket_required")
      else verifyConnectorArrived object request

def resumed (env : RelayEnv) (object : RelayObject) (number : Nat) (request : RelayRequest)
    (choice : Choice) : Waiting → RelayObject × Waiting
  | .adminToken (awaits + 1) => (object, .adminToken awaits)
  | .adminToken 0 =>
    if request.authorization ≠ "Bearer " ++ env.adminToken then
      (object, .answered unauthorized)
    else if request.route = .status then (object, statusAsked object)
    else (object, .body)
  | .body => (object, revokeAsked object request.body)
  | .revokeRead minGeneration current =>
    let next := max current minGeneration
    ({ object with stored := some next }, .revokeWrite next)
  | .revokeWrite next => (object.sweep next, .answered (.revoked next))
  | .statusRead online generation current =>
    (object, .answered (.status online generation current object.streams.length))
  | .connectorRead generation timestamp current =>
    if generation < current then (object, .answered unauthorized)
    else (object, .connectorSignature generation timestamp 3)
  | .connectorSignature generation timestamp (awaits + 1) =>
    (object, .connectorSignature generation timestamp awaits)
  | .connectorSignature generation timestamp 0 =>
    if env.verifies request generation timestamp = false then (object, .answered unauthorized)
    else
      let accepted := object.acceptConnector request.route generation
      (accepted.1, .answered accepted.2)
  | .ticketSignature text signature (awaits + 1) =>
    (object, .ticketSignature text signature awaits)
  | .ticketSignature text signature 0 =>
    if env.base64urlHmac env.ticketKey text ≠ signature then (object, .answered unauthorized)
    else object.consumeTicket env number text
  | .exclusive => (object, .exclusive)
  | .consumed true => (object, .answered unauthorized)
  | .consumed false =>
    let opened := object.openSession choice
    (opened.1, .answered opened.2)
  | .answered response => (object, .answered response)

/-- The first callback from the await it is at as far as its next one; `some` once it
has returned whether the ticket was replayed. -/
def Callback.resumed (callback : Callback) (object : RelayObject) :
    RelayObject × (CallbackStage ⊕ Bool) :=
  match callback.stage with
  | .passed =>
    (object, .inl (.read (object.tickets.lookup callback.ticket.jti).isSome))
  | .read true => (object, .inr true)
  | .read false =>
    ({ object with tickets := object.tickets.insert callback.ticket.jti callback.ticket.exp },
      .inl .written)
  | .written => (object, .inl (.listed (listTickets object.tickets)))
  | .listed page =>
    match expiredTickets page callback.now with
    | [] => (object, .inr false)
    | expired =>
      ({ object with
          tickets := expired.foldl (fun tickets jti => tickets.erase jti) object.tickets },
        .inl .deleted)
  | .deleted => (object, .inr false)

inductive RelayEvent
  | arrive (request : RelayRequest)
  | resume (number : Nat) (choice : Choice)
  /-- The first callback goes on. -/
  | callback
  | tick (milliseconds : Nat)
  /-- A client, a host, a frame or the timer ends a session. -/
  | closeSession (streamId : String)
  /-- A control socket is gone. -/
  | disconnect (position : Nat)

def HostRelay.isNew (relay : HostRelay) (token : String) : Bool :=
  !(relay.requests.any fun handler => handler.request.route == .stream token) &&
    !(relay.object.streams.any fun entry => entry.streamId == token)

def HostRelay.finish (relay : HostRelay) (number : Nat) (replayed : Bool) : HostRelay :=
  { relay with
    requests :=
      relay.requests.modify number fun handler => { handler with waiting := .consumed replayed } }

def HostRelay.resumeCallback (relay : HostRelay) : HostRelay :=
  match relay.object.callbacks with
  | [] => relay
  | callback :: rest =>
    match callback.resumed relay.object with
    | (object, .inl stage) =>
      { relay with object := { object with callbacks := { callback with stage } :: rest } }
    | (object, .inr replayed) =>
      { relay with object := { object with callbacks := rest } }.finish callback.request replayed

def HostRelay.step (env : RelayEnv) (relay : HostRelay) : RelayEvent → HostRelay
  | .arrive request =>
    { relay with
      requests := relay.requests ++ [{ request, waiting := arrived env relay.object request }] }
  | .resume number choice =>
    match relay.requests[number]? with
    | none => relay
    | some handler =>
      if relay.isNew choice.token then
        let next :=
          resumed env relay.object number handler.request choice handler.waiting
        { object := next.1
          requests := relay.requests.set number { handler with waiting := next.2 } }
      else relay
  | .callback => relay.resumeCallback
  | .tick milliseconds =>
    { relay with object := { relay.object with clock := relay.object.clock + milliseconds } }
  | .closeSession streamId => { relay with object := relay.object.closeEntry streamId }
  | .disconnect position =>
    { relay with
      object := { relay.object with agents := relay.object.agents.eraseIdx position } }

def HostRelay.after (env : RelayEnv) (relay : HostRelay) (history : List RelayEvent) : HostRelay :=
  history.foldl (HostRelay.step env) relay

end Hivra.Relay
