import Hivra.Library.RowHistories
import Hivra.Library.Tables
import Hivra.Library.Texts

/-!
# Agent-network tables

The rows of the identity and policy migration.  Every row belongs to one
organization, so an organization holds its own tables here; the unique indexes
that reach across organizations (one personal organization for a user, one live
principal for an agent, one live key) are checked where a row enters.

Columns nothing here reads (timestamps, comments of a state change) are left out.
A policy row is valid over a range of revisions: its `validity` holds
`valid_from_revision` and `valid_to_revision`.
-/

namespace Hivra.AgentNetwork

open Hivra.Library

/-- The text of a `uuid`, which is canonical. -/
def isUuid (text : String) : Bool :=
  text.length == 36 &&
    text.toList.zipIdx.all fun place =>
      if [8, 13, 18, 23].contains place.2 then place.1 == '-' else isLowerHexDigit place.1

structure Uuid where
  text : String
  valid : isUuid text = true
  deriving DecidableEq

@[ext]
theorem Uuid.ext {left right : Uuid} (same : left.text = right.text) : left = right := by
  cases left
  cases right
  cases same
  rfl

structure Raised where
  code : String
  message : String

inductive OrgKind
  | personal
  | team
  deriving DecidableEq

inductive OrgRole
  | owner
  | admin
  | member
  deriving DecidableEq

/-- A row of `hivra_org_members`; `removed` is `removed_at is not null`. -/
structure OrgMember where
  userId : String
  role : OrgRole
  removed : Bool

def OrgMember.entries (member : OrgMember) : List String := [member.userId]

theorem OrgMember.entries_change (member : OrgMember) (role : OrgRole) (removed : Bool) :
    OrgMember.entries { member with role, removed } = member.entries := rfl

inductive PrincipalState
  | pending
  | joined
  | suspended
  | left
  deriving DecidableEq

/-- A row of `hivra_principals`. -/
structure Principal where
  id : Uuid
  agentIdentityId : Uuid
  ownerUserId : String
  state : PrincipalState
  publicKey : Option String
  keyVersion : Nat

def Principal.entries (principal : Principal) : List Uuid := [principal.id]

theorem Principal.entries_change (principal : Principal) (state : PrincipalState)
    (publicKey : Option String) (keyVersion : Nat) :
    Principal.entries { principal with state, publicKey, keyVersion } = principal.entries := rfl

/-- A row of `hivra_policy_revisions`. -/
structure PolicyRevision where
  revision : Nat
  authorUserId : String
  reason : Option String

def PolicyRevision.entries (header : PolicyRevision) : List Nat := [header.revision]

inductive BuzzBinding
  | allowed
  | forbidden
  deriving DecidableEq

structure PolicySettings where
  networkEnabled : Bool
  paused : Bool
  buzzBindingDefault : BuzzBinding
  maxHopDepth : Int
  deriving DecidableEq

inductive SettingsKey
  | opened (revision : Nat)
  | active
  deriving DecidableEq

/-- The primary key and `hivra_org_settings_one_active`. -/
def settingsEntries (row : Versioned PolicySettings) : List SettingsKey :=
  .opened row.validity.validFrom :: if row.isActive then [.active] else []

structure Group where
  id : Uuid
  name : String

def groupEntries (row : Versioned Group) : List Uuid := [row.content.id]

structure GroupMember where
  groupId : Uuid
  principalId : Uuid
  deriving DecidableEq

inductive GroupMemberKey
  | opened (groupId principalId : Uuid) (revision : Nat)
  | active (groupId principalId : Uuid)
  deriving DecidableEq

/-- The primary key and `hivra_org_group_members_one_active`. -/
def groupMemberEntries (row : Versioned GroupMember) : List GroupMemberKey :=
  .opened row.content.groupId row.content.principalId row.validity.validFrom ::
    if row.isActive then [.active row.content.groupId row.content.principalId] else []

inductive PolicyLayer
  | ceiling
  | narrow
  deriving DecidableEq

inductive BrainMode
  | none
  | read
  | write
  deriving DecidableEq

/-- `hivra_net_mode_rank`, and the evaluator's `MODE_RANK`. -/
def BrainMode.rank : BrainMode → Nat
  | .none => 0
  | .read => 1
  | .write => 2

inductive EdgeMode
  | deny
  | approve
  | auto
  deriving DecidableEq

/-- `hivra_net_edge_rank`, and the evaluator's `EDGE_RANK`. -/
def EdgeMode.rank : EdgeMode → Nat
  | .deny => 0
  | .approve => 1
  | .auto => 2

structure BrainGrant where
  layer : PolicyLayer
  principalId : Option Uuid
  groupId : Option Uuid
  source : String
  mode : BrainMode
  deriving DecidableEq

/-- A row of `hivra_brain_grants`. -/
structure GrantRow where
  id : Uuid
  grant : BrainGrant
  authorUserId : String

inductive GrantKey
  | id (id : Uuid)
  | activePrincipal (layer : PolicyLayer) (principalId : Uuid) (source : String)
  | activeGroup (layer : PolicyLayer) (groupId : Uuid) (source : String)
  deriving DecidableEq

/-- The primary key, `hivra_brain_grants_one_active_principal` and
`hivra_brain_grants_one_active_group`. -/
def grantEntries (row : Versioned GrantRow) : List GrantKey :=
  let grant := row.content.grant
  .id row.content.id ::
    if row.isActive then
      (grant.principalId.toList.map fun id => .activePrincipal grant.layer id grant.source) ++
        (grant.groupId.toList.map fun id => .activeGroup grant.layer id grant.source)
    else []

structure AgentEdge where
  layer : PolicyLayer
  fromPrincipalId : Uuid
  toPrincipalId : Uuid
  mode : EdgeMode
  maxMessagesPerHour : Option Int
  maxConcurrentRuns : Option Int
  deriving DecidableEq

/-- A row of `hivra_agent_edges`. -/
structure EdgeRow where
  id : Uuid
  edge : AgentEdge
  authorUserId : String

inductive EdgeKey
  | id (id : Uuid)
  | active (layer : PolicyLayer) (fromPrincipalId toPrincipalId : Uuid)
  deriving DecidableEq

/-- The primary key and `hivra_agent_edges_one_active`. -/
def edgeEntries (row : Versioned EdgeRow) : List EdgeKey :=
  .id row.content.id ::
    if row.isActive then
      [.active row.content.edge.layer row.content.edge.fromPrincipalId
        row.content.edge.toPrincipalId]
    else []

structure OrgState where
  currentRevision : Nat
  members : Table OrgMember.entries
  principals : Table Principal.entries
  revisions : Table PolicyRevision.entries
  settings : Table settingsEntries
  groups : Table groupEntries
  groupMembers : Table groupMemberEntries
  grants : Table grantEntries
  edges : Table edgeEntries

/-- A row of `hivra_orgs` with the rows that belong to it. -/
structure Organization where
  id : Uuid
  kind : OrgKind
  name : String
  personalOwnerUserId : Option String
  state : OrgState

inductive OrgKey
  | id (id : Uuid)
  | personalOwner (userId : String)
  deriving DecidableEq

/-- The primary key and `hivra_orgs_one_personal_per_user`. -/
def Organization.entries (org : Organization) : List OrgKey :=
  .id org.id ::
    if org.kind = .personal then org.personalOwnerUserId.toList.map .personalOwner else []

structure Network where
  organizations : Table Organization.entries

def Network.empty : Network := { organizations := .empty }

def Network.org? (network : Network) (orgId : Uuid) : Option Organization :=
  network.organizations.find? fun org => org.id == orgId

theorem Organization.entries_put (org : Organization) (state : OrgState) :
    Organization.entries { org with state } = org.entries := rfl

def Network.put (network : Network) (orgId : Uuid) (state : OrgState) : Network :=
  { organizations :=
      network.organizations.rewrite (fun org => org.id == orgId)
        (fun org => { org with state }) (fun org => org.entries_put state) }

def OrgState.role? (state : OrgState) (userId : String) : Option OrgRole :=
  (state.members.find? fun member => member.userId == userId && !member.removed).map
    OrgMember.role

end Hivra.AgentNetwork
