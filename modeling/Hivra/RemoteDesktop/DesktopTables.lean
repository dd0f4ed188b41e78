import Hivra.AgentNetwork.NetworkFunctions
import Hivra.Library.FollowedRows
import Hivra.Library.Readings

/-!
# Desktop capabilities and sessions

The receipts of what a guest can stream, the sessions minted on them, and the clock of the
database.  The computer's own row, which says whether it runs for its owner, belongs to
others: what it says is a parameter of a call.

A parameter of another form is refused as an invalid request, and changes nothing.  Times
are microseconds.
-/

namespace Hivra.RemoteDesktop

open Hivra.Library
open Hivra.AgentNetwork (Uuid Raised)

inductive ComputerKind
  | hermesInstance
  | hivraAgent
  deriving DecidableEq

def ComputerKind.name : ComputerKind → String
  | .hermesInstance => "hermes-instance"
  | .hivraAgent => "hivra-agent"

/-- `computer_kind` and `computer_id`. -/
structure ComputerRef where
  kind : ComputerKind
  id : Uuid
  deriving DecidableEq

inductive Compositor
  | x11
  | wayland
  | windows
  deriving DecidableEq

def Compositor.ofName? : String → Option Compositor
  | "x11" => some .x11
  | "wayland" => some .wayland
  | "windows" => some .windows
  | _ => none

inductive Transport
  | sunshineMoonlight
  | selkiesWebrtc
  | selkiesWebsocket
  | recoveryConsole
  deriving DecidableEq

def Transport.name : Transport → String
  | .sunshineMoonlight => "sunshine-moonlight"
  | .selkiesWebrtc => "selkies-webrtc"
  | .selkiesWebsocket => "selkies-websocket"
  | .recoveryConsole => "recovery-console"

def Transport.ofName? : String → Option Transport
  | "sunshine-moonlight" => some .sunshineMoonlight
  | "selkies-webrtc" => some .selkiesWebrtc
  | "selkies-websocket" => some .selkiesWebsocket
  | "recovery-console" => some .recoveryConsole
  | _ => none

inductive InputRole
  | controller
  | viewer
  deriving DecidableEq

inductive InputState
  | notRequested
  | takeoverPending
  | active
  | releasePending
  | released
  deriving DecidableEq

inductive Handoff
  | cookie
  | message

inductive StreamingMode
  | hq
  | performance

/-- A capability receipt with all of its members, of their types, and no others; any other
receipt is missing.  `observedAt` is missing where it is no time. -/
structure CapabilityReceipt where
  protocol : String
  computerKind : String
  computerId : String
  capabilityGeneration : String
  observedRevision : String
  compositor : String
  installedTransports : List String
  privateNetworkReachable : Bool
  supportsInputTakeover : Bool
  brokerOrigin : String
  observedAt : Option Int

structure InputReceipt where
  protocol : String
  action : String
  sessionId : String
  computerKind : String
  computerId : String
  capabilityGeneration : String
  transport : String
  agentInputSuspended : Bool
  controllerCount : String
  observedAt : Option Int

structure Capability where
  computer : ComputerRef
  userId : String
  generation : Uuid
  observedRevision : String
  compositor : Compositor
  installedTransports : List Transport
  privateNetworkReachable : Bool
  supportsInputTakeover : Bool
  brokerOrigin : String
  observedAt : Int
  expiresAt : Int
  revokedAt : Option Int
  bootIdentitySha256 : Option String

def Capability.entries (capability : Capability) : List ComputerRef := [capability.computer]

structure Session where
  id : Uuid
  userId : String
  computer : ComputerRef
  capabilityGeneration : Uuid
  transport : Transport
  inputRole : InputRole
  inputState : InputState
  handoff : Handoff
  exchangeCodeHash : String
  pkceChallenge : String
  sessionTokenHash : Option String
  issuedAt : Int
  expiresAt : Int
  relayCredentialExpiresAt : Option Int
  exchangedAt : Option Int
  takeoverReceipt : Option InputReceipt
  releaseReceipt : Option InputReceipt
  lastAuthorizedAt : Option Int
  controlReleasedAt : Option Int
  revokedAt : Option Int
  revokeReason : Option String
  createdAt : Int
  renewalCount : Nat
  capabilityBootIdentitySha256 : Option String
  streamingMode : StreamingMode

inductive SessionKey
  | id (id : Uuid)
  | exchangeCode (hash : String)
  | sessionToken (hash : String)
  deriving DecidableEq

def Session.entries (session : Session) : List SessionKey :=
  .id session.id :: .exchangeCode session.exchangeCodeHash ::
    session.sessionTokenHash.toList.map .sessionToken

theorem Session.entries_id (session : Session) : SessionKey.id session.id ∈ session.entries :=
  List.mem_cons_self

structure DesktopStore where
  capabilities : Table Capability.entries
  sessions : Table Session.entries
  /-- What the database clock has reached. -/
  clock : Int

def DesktopStore.empty (clock : Int) : DesktopStore :=
  { capabilities := .empty, sessions := .empty, clock }

def DesktopStore.capability? (store : DesktopStore) (computer : ComputerRef) : Option Capability :=
  store.capabilities.find? fun capability => capability.computer == computer

/-- The readings of one call.  What is read before the lock
lies `before` the first reading under it, and a statement reads the clock for each row
anew, `offsets` into it. -/
structure Instants extends Readings where
  before : Nat → Nat
  offsets : Nat → Uuid → Nat

def Instants.early (instants : Instants) (start : Int) (reading : Nat) : Int :=
  instants.clock start 0 - instants.before reading

def Instants.row (instants : Instants) (start : Int) (reading : Nat) (id : Uuid) : Int :=
  min (instants.clock start (reading + 1)) (instants.clock start reading + instants.offsets reading id)

def Instants.finish (instants : Instants) (start : Int) : Int := instants.clock start 3

section Clock

variable (instants : Instants) (start : Int)

theorem row_bounds (reading : Nat) (id : Uuid) :
    instants.clock start reading ≤ instants.row start reading id ∧
      instants.row start reading id ≤ instants.clock start (reading + 1) := by
  have step := instants.clock_step start reading
  unfold Instants.row
  omega

end Clock

end Hivra.RemoteDesktop
