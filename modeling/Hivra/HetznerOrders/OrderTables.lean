import Hivra.AgentNetwork.NetworkFunctions
import Hivra.Library.Readings

/-!
# Hetzner orders and their first boot

The order of one server, the identity its first boot enrolls, and the operation that
prepares and powers it on.  A null parameter of a function is refused like an invalid one
or finds no row, so a parameter is not null unless its type says so.  A column that no
function reads is left out, `updated_at` among them.  Times are microseconds.
-/

namespace Hivra.HetznerOrders

open Hivra.Library
open Hivra.AgentNetwork (Uuid Raised)

def oneSecond : Int := 1000000

def oneMinute : Int := 60000000

structure Lease where
  id : Uuid
  expiresAt : Int
  deriving DecidableEq

def Lease.live (lease : Lease) (now : Int) : Bool := now < lease.expiresAt

inductive ActionStatus
  | running
  | success
  | error
  deriving DecidableEq

structure ActionResource where
  id : String
  kind : String
  deriving DecidableEq

structure CreationAction where
  id : String
  command : String
  status : ActionStatus
  resources : List ActionResource
  deriving DecidableEq

structure PrimaryAddress where
  id : String
  ip : String
  deriving DecidableEq

structure CreationReceipt where
  serverId : String
  primaryIpv4 : PrimaryAddress
  primaryIpv6 : PrimaryAddress
  action : CreationAction
  nextActions : List CreationAction
  deriving DecidableEq

structure FirewallScope where
  orderId : Uuid
  attemptId : Uuid
  quoteFingerprint : String
  serverId : Nat
  deriving DecidableEq

/-- A receipt of version 1 with all of its members, of their types, and no others; its
`createdAt` reads as a time. -/
structure FirewallReceipt where
  scope : FirewallScope
  firewallId : Nat
  createdAt : String
  setRulesActionId : Nat
  applyActionId : Nat
  deriving DecidableEq

structure PowerAction where
  id : Nat
  command : String
  status : ActionStatus
  resources : List (Nat × String)
  deriving DecidableEq

inductive Evidence
  | firewall (receipt : FirewallReceipt)
  | power (action : PowerAction)
  | other

def maxSafeId : Nat := 9007199254740991

def isSafeId (id : Nat) : Bool := 1 ≤ id && id ≤ maxSafeId

def isValidFirstBootFirewallReceipt (receipt : FirewallReceipt) (orderId attemptId : Uuid)
    (quote serverId : String) : Bool :=
  receipt.scope.orderId == orderId && receipt.scope.attemptId == attemptId &&
    receipt.scope.quoteFingerprint == quote && toString receipt.scope.serverId == serverId &&
    isSafeId receipt.firewallId && isSafeId receipt.setRulesActionId &&
    isSafeId receipt.applyActionId && receipt.setRulesActionId != receipt.applyActionId

def isValidFirstBootPowerAction (action : PowerAction) (serverId : String) : Bool :=
  isSafeId action.id && action.command == "start_server" &&
    match action.resources with
    | [(id, kind)] => toString id == serverId && kind == "server"
    | _ => false

/-- `action - 'status'`. -/
def PowerAction.unfinished (action : PowerAction) : PowerAction :=
  { action with status := .running }

/-- An ed25519 key in its canonical text and its own fingerprint, as
`is_valid_first_boot_host_key` accepts them; no other pair is one. -/
structure HostIdentity where
  publicKey : String
  fingerprintSha256 : String
  deriving DecidableEq

structure Absence where
  server : Bool
  ipv4 : Bool
  ipv6 : Bool
  sshKey : Bool
  firewall : Option Bool
  deriving DecidableEq

structure Connection where
  id : Uuid
  userId : String
  provider : String
  status : String
  revision : Int
  preflightRunId : Option Uuid
  deriving DecidableEq

def Connection.entries (connection : Connection) : List Uuid := [connection.id]

inductive OrderStatus
  | quoted
  | creating
  | createdOff
  | ambiguous
  | providerRejected
  | cleaning
  | deleted
  | cleanupAbandoned
  deriving DecidableEq

inductive KeyStatus
  | pending
  | accepted
  | ambiguous
  | rejected
  deriving DecidableEq

inductive ServerStatus
  | pending
  | accepted
  | ambiguous
  deriving DecidableEq

/-- An entry of `provider_next_actions`. -/
structure ActionReceipt where
  id : String
  command : String
  status : ActionStatus
  deriving DecidableEq

structure CapacityOrder where
  id : Uuid
  userId : String
  connectionId : Uuid
  activeConnectionId : Option Uuid
  connectionRevision : Int
  status : OrderStatus
  serverName : String
  quoteFingerprintSha256 : String
  quoteExpiresAt : Int
  idempotencyKey : Option Uuid
  encryptedBootstrapBundle : Option String
  bootstrapKeyVersion : Option Int
  bootstrapPublicKey : Option String
  bootstrapPublicKeyFingerprint : Option String
  sshKeyPostAttemptedAt : Option Int
  providerSshKeyStatus : Option KeyStatus
  providerSshKeyId : Option String
  serverPostAttemptedAt : Option Int
  providerServerStatus : Option ServerStatus
  providerResourceId : Option String
  providerActionId : Option String
  providerActionCommand : Option String
  providerActionStatus : Option ActionStatus
  providerNextActions : List ActionReceipt
  observedServerStatus : Option String
  providerObservedAt : Option Int
  lastErrorCode : Option String
  detachedAt : Option Int
  providerCreationReceipt : Option CreationReceipt
  cleanupIdempotencyKey : Option Uuid
  cleanupResourceFingerprint : Option String
  cleanupLease : Option Lease
  cleanupAbsence : Option Absence
  cleanupLastError : Option String
  cleanupStartedAt : Option Int
  cleanupObservedAt : Option Int
  cleanupFinishedAt : Option Int
  cleanupAbandonedAt : Option Int
  cleanupFirewallReceipt : Option FirewallReceipt
  externalCleanupResolutionId : Option Uuid
  currentServerShape : Option String
  currentServerShapeFingerprintSha256 : Option String
  deriving DecidableEq

/-- `recipe_version`. -/
inductive Recipe
  | legacy
  | armAtStart
  deriving DecidableEq

def Recipe.ofText? : String → Option Recipe
  | "2026.08.27.1" => some .legacy
  | "2026.09.24.1" => some .armAtStart
  | _ => none

inductive BootPhase
  | staged
  | awaitingIdentity
  | enrolled
  | revoked
  | failed
  deriving DecidableEq

def BootPhase.closed : BootPhase → Bool
  | .enrolled => true
  | .revoked => true
  | .failed => true
  | _ => false

structure PinnedIdentity where
  host : HostIdentity
  providerObservedAt : Int
  enrolledAt : Int
  deriving DecidableEq

/-- `armed_at` and `armed_expires_at`. -/
structure SetupWindow where
  armedAt : Int
  armedExpiresAt : Int
  deriving DecidableEq

structure Enrollment where
  orderId : Uuid
  userId : String
  connectionId : Uuid
  connectionRevision : Int
  quoteFingerprintSha256 : String
  attemptId : Uuid
  capacityIdempotencyKey : Uuid
  recipe : Recipe
  phase : BootPhase
  issuedAt : Int
  expiresAt : Int
  verifierSha256 : String
  encryptedToken : Option String
  providerServerId : Option String
  identity : Option PinnedIdentity
  armed : Option SetupWindow
  deriving DecidableEq

structure BootOperation where
  orderId : Uuid
  attemptId : Uuid
  userId : String
  connectionId : Uuid
  connectionRevision : Int
  quoteFingerprintSha256 : String
  providerServerId : String
  lease : Option Lease
  firewallPostAttemptedAt : Option Int
  firewallReceipt : Option FirewallReceipt
  firewallVerifiedAt : Option Int
  powerOnPostAttemptedAt : Option Int
  powerOnAction : Option PowerAction
  abandonedAt : Option Int
  deriving DecidableEq

def BootOperation.leased (operation : BootOperation) (now : Int) : Bool :=
  operation.lease.any fun lease => lease.live now

/-- `hetzner_first_boot_deadline`; `none` is no end yet. -/
def Enrollment.deadline (enrollment : Enrollment) : Option Int :=
  match enrollment.recipe with
  | .legacy => some enrollment.expiresAt
  | .armAtStart => enrollment.armed.map SetupWindow.armedExpiresAt

/-- The deadline is not after `moment`. -/
def Enrollment.overBy (enrollment : Enrollment) (moment : Int) : Bool :=
  enrollment.deadline.any fun deadline => deadline ≤ moment

/-- `hetzner_first_boot_window_contains`. -/
def Enrollment.windowContains (enrollment : Enrollment) (moment : Int) : Bool :=
  match enrollment.recipe with
  | .legacy => enrollment.issuedAt ≤ moment && moment < enrollment.expiresAt
  | .armAtStart =>
    enrollment.armed.any fun window =>
      window.armedAt ≤ moment && moment < window.armedExpiresAt

/-- `text ~ '^[0-9a-f]\x7b64\x7d$'`. -/
def isSha256 (text : String) : Bool :=
  text.length == 64 && text.toList.all isLowerHexDigit

/-- `text ~ '^[1-9][0-9]\x7b0,15\x7d$'`, and no more than the largest safe integer. -/
def isServerId (text : String) : Bool :=
  match text.toList with
  | first :: rest =>
    '1' ≤ first && first ≤ '9' && rest.length ≤ 15 && rest.all Char.isDigit &&
      (text.toNat?.any fun number => decide (number ≤ maxSafeId))
  | [] => false

def isToken (text : String) : Bool :=
  32 ≤ text.utf8ByteSize && text.utf8ByteSize ≤ 16384

/-- `infrastructure_first_boot_secret_state`. -/
def Enrollment.secretState (enrollment : Enrollment) : Bool :=
  if enrollment.phase.closed then enrollment.encryptedToken.isNone
  else enrollment.encryptedToken.any isToken

/-- `infrastructure_first_boot_phase_state`. -/
def Enrollment.phaseState (enrollment : Enrollment) : Bool :=
  match enrollment.phase with
  | .staged => enrollment.providerServerId.isNone && enrollment.identity.isNone
  | .awaitingIdentity => enrollment.providerServerId.isSome && enrollment.identity.isNone
  | .enrolled => enrollment.providerServerId.isSome && enrollment.identity.isSome
  | _ => enrollment.identity.isNone || enrollment.providerServerId.isSome

/-- `infrastructure_first_boot_armed_state`. -/
def Enrollment.armedState (enrollment : Enrollment) : Bool :=
  (enrollment.armed.all fun window =>
      enrollment.recipe == .armAtStart && enrollment.phase != .staged &&
        decide (enrollment.issuedAt ≤ window.armedAt) &&
        window.armedExpiresAt == window.armedAt + 17 * oneMinute) &&
    (enrollment.recipe != .armAtStart || enrollment.phase != .enrolled ||
      enrollment.identity.any fun pinned => enrollment.windowContains pinned.enrolledAt)

def Enrollment.checks (enrollment : Enrollment) : Bool :=
  enrollment.expiresAt == enrollment.issuedAt + 15 * oneMinute &&
    isSha256 enrollment.verifierSha256 && enrollment.providerServerId.all isServerId &&
    enrollment.secretState && enrollment.phaseState && enrollment.armedState

def BootOperation.checks (operation : BootOperation) : Bool :=
  isServerId operation.providerServerId &&
    (operation.abandonedAt.isNone || operation.lease.isNone) &&
    (operation.firewallReceipt.all fun receipt =>
      operation.firewallPostAttemptedAt.isSome &&
        isValidFirstBootFirewallReceipt receipt operation.orderId operation.attemptId
          operation.quoteFingerprintSha256 operation.providerServerId) &&
    (operation.firewallVerifiedAt.isNone || operation.firewallReceipt.isSome) &&
    (operation.powerOnPostAttemptedAt.isNone || operation.firewallVerifiedAt.isSome) &&
    (operation.powerOnAction.all fun action =>
      operation.powerOnPostAttemptedAt.isSome &&
        isValidFirstBootPowerAction action operation.providerServerId)

end Hivra.HetznerOrders
