import Mathlib.Data.List.AList
import Mathlib.Data.Rat.Defs
import Mathlib.Algebra.Order.Ring.Rat

/-!
# One host's relay

The Durable Object of one connection: its storage, its sockets, and the requests it
has under way, each waiting at one of its awaits.  Other requests may run between any
two awaits of a request; what stands between two awaits runs as one step.

A callback of `blockConcurrencyWhile` is resumed only while it is the first of those
that were passed; they are taken in the order of the calls.
-/

namespace Hivra.Relay

inductive Route
  | revoke
  | status
  | agent
  | client
  | stream (streamId : String)
  /-- No route of the relay, or no connection id. -/
  | unknown
  deriving DecidableEq

structure RelayRequest where
  route : Route
  method : String
  isUpgrade : Bool
  authorization : String
  /-- `x-hivra-generation` and `x-hivra-timestamp`, where they are safe integers. -/
  generation : Option Int
  timestamp : Option Int
  signature : String
  /-- `minGeneration` of the body, where it is a safe integer. -/
  body : Option Int
  deriving DecidableEq

inductive RelayResponse
  | error (status : Nat) (error : String)
  | revoked (minGeneration : Nat)
  | status (online : Bool) (generation : Option Nat) (minGeneration sessions : Nat)
  /-- 101, with the socket. -/
  | upgraded
  /-- An exception that nothing caught. -/
  | failed
  deriving DecidableEq

def unauthorized : RelayResponse := .error 401 "unauthorized"

/-- A signed ticket's payload: a member of another type is none, as is an infinite
`exp`. -/
structure TicketPayload where
  aud : Option String
  exp : Option ℚ
  jti : Option String

inductive ParsedTicket
  | invalid
  | null
  | payload (payload : TicketPayload)

structure Ticket where
  jti : String
  exp : ℚ
  deriving DecidableEq

structure RelayEnv where
  /-- `HOST_RELAY_SECRET`. -/
  secret : Option String
  /-- The connection whose object this is. -/
  connectionId : String
  /-- `hex(await hmac(key, message))`. -/
  hexHmac : String → String → String
  /-- `base64url(await hmac(key, message))`. -/
  base64urlHmac : String → String → String
  /-- `JSON.parse(fromBase64url(text) ?? "")`. -/
  parseTicket : String → ParsedTicket

def clockSkewSeconds : Nat := 120
def maxTicketLifetimeSeconds : Nat := 120
def maxGeneration : Nat := 1000000000
def maxStreams : Nat := 8
def minSecretLength : Nat := 32

def RelayEnv.configured (env : RelayEnv) : Bool :=
  env.secret.any fun secret => minSecretLength ≤ secret.length

def RelayEnv.master (env : RelayEnv) : String := env.secret.getD ""

def RelayEnv.adminToken (env : RelayEnv) : String := env.hexHmac env.master "admin|v1"

def RelayEnv.ticketKey (env : RelayEnv) : String := env.hexHmac env.master "client-ticket|v1"

def RelayEnv.connectorSecret (env : RelayEnv) (generation : Nat) : String :=
  env.hexHmac env.master
    ("connector|" ++ env.connectionId ++ "|" ++ toString generation)

def RelayEnv.connectorSignature (env : RelayEnv) (secret kind streamId : String)
    (timestamp : Int) : String :=
  env.hexHmac secret
    (kind ++ "|" ++ env.connectionId ++ "|" ++ streamId ++ "|" ++ toString timestamp)

structure ControlSocket where
  generation : Nat
  isOpen : Bool
  deriving DecidableEq

structure StreamEntry where
  streamId : String
  stream : Option Nat

/-- `awaits` counts those of the same computation that are still to come. -/
inductive Waiting
  | adminToken (awaits : Nat)
  | body
  /-- `minGeneration` was asked for, `current` was read. -/
  | revokeRead (minGeneration current : Nat)
  | revokeWrite (next : Nat)
  | statusRead (online : Bool) (generation : Option Nat) (current : Nat)
  | connectorRead (generation : Nat) (timestamp : Int) (current : Nat)
  | connectorSignature (generation : Nat) (timestamp : Int) (awaits : Nat)
  | ticketSignature (text signature : String) (awaits : Nat)
  | exclusive
  | consumed (replayed : Bool)
  | answered (response : RelayResponse)
  deriving DecidableEq

structure Handler where
  request : RelayRequest
  waiting : Waiting
  deriving DecidableEq

inductive CallbackStage
  /-- Not begun. -/
  | passed
  | read (found : Bool)
  | written
  | listed (page : List (String × ℚ))
  | deleted
  deriving DecidableEq

/-- The callback that consumes a request's ticket; `now` is in seconds and was read
before. -/
structure Callback where
  request : Nat
  ticket : Ticket
  now : Nat
  stage : CallbackStage
  deriving DecidableEq

structure RelayObject where
  /-- Storage: `minGeneration`, and what is under `jti:`. -/
  stored : Option Nat
  tickets : AList fun _ : String => ℚ
  agents : List ControlSocket
  streams : List StreamEntry
  callbacks : List Callback
  /-- `Date.now()`. -/
  clock : Nat

structure HostRelay where
  object : RelayObject
  requests : List Handler

def HostRelay.of (stored : Option Nat) (tickets : AList fun _ : String => ℚ)
    (agents : List ControlSocket) (clock : Nat) : HostRelay :=
  { object := { stored, tickets, agents, streams := [], callbacks := [], clock }
    requests := [] }

def RelayObject.minGeneration (object : RelayObject) : Nat := object.stored.getD 1

/-- `Math.floor(Date.now() / 1000)`. -/
def RelayObject.seconds (object : RelayObject) : Nat := object.clock / 1000

end Hivra.Relay
