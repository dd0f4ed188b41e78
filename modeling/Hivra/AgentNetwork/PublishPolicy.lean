import Hivra.AgentNetwork.NetworkFunctions
import Mathlib.Data.List.Nodup

/-!
# Publishing a policy revision

`hivra_net_publish_policy_revision`: the document is read into typed rows under
the constraints of the temporary tables, checked against the organization, and
compared with the active rows; the difference is authorized by role, held under
the ceiling and written as the next revision.

A document whose JSON has not the five members, or a member that does not cast,
is `none`.
-/

namespace Hivra.AgentNetwork

open Hivra.Library

/-! ## The document -/

structure DocumentSettings where
  networkEnabled : Option Bool
  paused : Option Bool
  buzzBindingDefault : Option String
  maxHopDepth : Option Int

structure DocumentGroup where
  id : Option Uuid
  name : Option String

structure DocumentGroupMember where
  groupId : Option Uuid
  principalId : Option Uuid

structure DocumentGrant where
  layer : Option String
  principalId : Option Uuid
  groupId : Option Uuid
  source : Option String
  mode : Option String

structure DocumentEdge where
  layer : Option String
  fromPrincipalId : Option Uuid
  toPrincipalId : Option Uuid
  mode : Option String
  maxMessagesPerHour : Option Int
  maxConcurrentRuns : Option Int

/-- What `jsonb_to_record` and `jsonb_to_recordset` read of a document: a missing
member is null. -/
structure PolicyDocument where
  settings : DocumentSettings
  groups : List DocumentGroup
  groupMembers : List DocumentGroupMember
  grants : List DocumentGrant
  edges : List DocumentEdge

structure WantedPolicy where
  settings : PolicySettings
  groups : List Group
  groupMembers : List GroupMember
  grants : List BrainGrant
  edges : List AgentEdge

/-! ## Reading the document -/

def notNull {Value : Type} : Option Value → Except Raised Value
  | some value => .ok value
  | none => raise notNullViolation "null value violates not-null constraint"

def checked {Value : Type} : Option Value → Except Raised Value
  | some value => .ok value
  | none => raise checkViolation "new row violates check constraint"

def BuzzBinding.parse : String → Option BuzzBinding
  | "allowed" => some .allowed
  | "forbidden" => some .forbidden
  | _ => none

def PolicyLayer.parse : String → Option PolicyLayer
  | "ceiling" => some .ceiling
  | "narrow" => some .narrow
  | _ => none

def BrainMode.parse : String → Option BrainMode
  | "none" => some .none
  | "read" => some .read
  | "write" => some .write
  | _ => none

def EdgeMode.parse : String → Option EdgeMode
  | "deny" => some .deny
  | "approve" => some .approve
  | "auto" => some .auto
  | _ => none

def require (condition : Bool) : Except Raised Unit :=
  if condition then .ok () else raise checkViolation "new row violates check constraint"

def readSettings (row : DocumentSettings) : Except Raised PolicySettings := do
  let networkEnabled ← notNull row.networkEnabled
  let paused ← notNull row.paused
  let binding ← notNull row.buzzBindingDefault
  let buzzBindingDefault ← checked (BuzzBinding.parse binding)
  let maxHopDepth ← notNull row.maxHopDepth
  require (decide (1 ≤ maxHopDepth ∧ maxHopDepth ≤ 8))
  return { networkEnabled, paused, buzzBindingDefault, maxHopDepth }

def readGroup (row : DocumentGroup) : Except Raised Group := do
  let id ← notNull row.id
  let name ← notNull row.name
  return { id, name }

def readGroupMember (row : DocumentGroupMember) : Except Raised GroupMember := do
  let groupId ← notNull row.groupId
  let principalId ← notNull row.principalId
  return { groupId, principalId }

def readGrant (row : DocumentGrant) : Except Raised BrainGrant := do
  let layerText ← notNull row.layer
  let layer ← checked (PolicyLayer.parse layerText)
  let source ← notNull row.source
  let modeText ← notNull row.mode
  let mode ← checked (BrainMode.parse modeText)
  require (row.principalId.isNone != row.groupId.isNone)
  return {
    layer
    principalId := row.principalId
    groupId := row.groupId
    source := lower source
    mode }

def isLimit : Option Int → Bool
  | none => true
  | some limit => decide (0 < limit)

def readEdge (row : DocumentEdge) : Except Raised AgentEdge := do
  let layerText ← notNull row.layer
  let layer ← checked (PolicyLayer.parse layerText)
  let fromPrincipalId ← notNull row.fromPrincipalId
  let toPrincipalId ← notNull row.toPrincipalId
  let modeText ← notNull row.mode
  let mode ← checked (EdgeMode.parse modeText)
  require (isLimit row.maxMessagesPerHour)
  require (isLimit row.maxConcurrentRuns)
  require (fromPrincipalId != toPrincipalId)
  return {
    layer
    fromPrincipalId
    toPrincipalId
    mode
    maxMessagesPerHour := row.maxMessagesPerHour
    maxConcurrentRuns := row.maxConcurrentRuns }

/-- The index of `hn_want_grants`. -/
def BrainGrant.wantKey (grant : BrainGrant) : PolicyLayer × Option Uuid × String :=
  (grant.layer, grant.principalId.or grant.groupId, grant.source)

/-- The primary key of `hn_want_edges`. -/
def AgentEdge.wantKey (edge : AgentEdge) : PolicyLayer × Uuid × Uuid :=
  (edge.layer, edge.fromPrincipalId, edge.toPrincipalId)

def requireDistinct {Key : Type} [DecidableEq Key] (keys : List Key) : Except Raised Unit :=
  if keys.Nodup then .ok ()
  else raise uniqueViolation "duplicate key value violates unique constraint"

def readDocument (document : PolicyDocument) : Except Raised WantedPolicy := do
  let settings ← readSettings document.settings
  let groups ← document.groups.mapM readGroup
  requireDistinct (groups.map Group.id)
  let groupMembers ← document.groupMembers.mapM readGroupMember
  requireDistinct groupMembers
  let grants ← document.grants.mapM readGrant
  requireDistinct (grants.map BrainGrant.wantKey)
  let edges ← document.edges.mapM readEdge
  requireDistinct (edges.map AgentEdge.wantKey)
  return { settings, groups, groupMembers, grants, edges }

/-! ## Checks on the wanted policy -/

def WantedPolicy.principals (wanted : WantedPolicy) : List Uuid :=
  wanted.groupMembers.map GroupMember.principalId ++
    wanted.grants.filterMap BrainGrant.principalId ++
    wanted.edges.map AgentEdge.fromPrincipalId ++
    wanted.edges.map AgentEdge.toPrincipalId

def WantedPolicy.namedGroups (wanted : WantedPolicy) : List Uuid :=
  wanted.groupMembers.map GroupMember.groupId ++ wanted.grants.filterMap BrainGrant.groupId

def WantedPolicy.hasGroup (wanted : WantedPolicy) (groupId : Uuid) : Bool :=
  wanted.groups.any fun group => group.id == groupId

def OrgState.isLive (state : OrgState) (principalId : Uuid) : Bool :=
  state.principals.rows.any fun principal =>
    principal.id == principalId && principal.state != .left

/-- `source like 'team/%'`. -/
def isTeamSource (source : String) : Bool :=
  "team/".toList.isPrefixOf source.toList

/-- `source like 'agent/%'`. -/
def isAgentSource (source : String) : Bool :=
  "agent/".toList.isPrefixOf source.toList

/-- `substr(source, count + 1)`. -/
def substring (count : Nat) (source : String) : String :=
  String.ofList (source.toList.drop count)

def sourceExists (wanted : WantedPolicy) (state : OrgState) (source : String) : Bool :=
  (!isTeamSource source || wanted.groups.any fun group => group.id.text == substring 5 source) &&
    (!isAgentSource source ||
      state.principals.rows.any fun principal => principal.id.text == substring 6 source)

def ownsSource (grant : BrainGrant) : Bool :=
  !isAgentSource grant.source ||
    match grant.principalId with
    | none => false
    | some principalId => grant.source == "agent/" ++ principalId.text

def activeRows {Content Key : Type} {entries : Versioned Content → List Key}
    (rows : Table entries) : List Content :=
  activeContents rows.rows

def keepsName (state : OrgState) (group : Group) : Bool :=
  (activeRows state.groups).all fun held => held.id != group.id || held.name == group.name

def isRetired (state : OrgState) (groupId : Uuid) : Bool :=
  state.groups.rows.any fun row => row.content.id == groupId && !row.isActive

def checkWanted (wanted : WantedPolicy) (state : OrgState) : Except Raised Unit := do
  refuseIf ((wanted.principals.all state.isLive) = false)
    "HN422" "hivra_net: the policy names a principal that is not in this organization or has left"
  refuseIf ((wanted.namedGroups.all wanted.hasGroup) = false)
    "HN422" "hivra_net: the policy names a group that is not in the document"
  refuseIf (wanted.grants.any (fun grant => grant.layer == .narrow && grant.principalId.isNone))
    "HN422" "hivra_net: a narrowing grant belongs to one agent, not a group"
  refuseIf ((wanted.grants.all fun grant => sourceExists wanted state grant.source) = false)
    "HN422" "hivra_net: a grant names a source that does not exist in this organization"
  refuseIf ((wanted.grants.all ownsSource) = false)
    "HN422" "hivra_net: a private source can only be granted to its own agent"
  refuseIf ((wanted.groups.all (keepsName state)) = false)
    "HN422" "hivra_net: a group cannot be renamed"
  refuseIf (wanted.groups.any (fun group => isRetired state group.id))
    "HN422" "hivra_net: a retired group id cannot be reused"

/-! ## The difference -/

structure PolicyDifference where
  settingsChanged : Bool
  groupsAdded : List Group
  groupsEnded : List Group
  membersAdded : List GroupMember
  membersEnded : List GroupMember
  grantsAdded : List BrainGrant
  grantsEnded : List BrainGrant
  edgesAdded : List AgentEdge
  edgesEnded : List AgentEdge

def WantedPolicy.hasMember (wanted : WantedPolicy) (member : GroupMember) : Bool :=
  wanted.groupMembers.contains member

def OrgState.activeGrants (state : OrgState) : List BrainGrant :=
  (activeRows state.grants).map GrantRow.grant

def OrgState.activeEdges (state : OrgState) : List AgentEdge :=
  (activeRows state.edges).map EdgeRow.edge

def difference (wanted : WantedPolicy) (state : OrgState) : PolicyDifference :=
  let held := activeRows state.groups
  let members := activeRows state.groupMembers
  { settingsChanged := !(activeRows state.settings).contains wanted.settings
    groupsAdded := wanted.groups.filter fun group => !held.any fun row => row.id == group.id
    groupsEnded := held.filter fun row => !wanted.hasGroup row.id
    membersAdded := wanted.groupMembers.filter fun member => !members.contains member
    membersEnded := members.filter fun member => !wanted.hasMember member
    grantsAdded := wanted.grants.filter fun grant => !state.activeGrants.contains grant
    grantsEnded := state.activeGrants.filter fun grant => !wanted.grants.contains grant
    edgesAdded := wanted.edges.filter fun edge => !state.activeEdges.contains edge
    edgesEnded := state.activeEdges.filter fun edge => !wanted.edges.contains edge }

def PolicyDifference.changesGroups (changes : PolicyDifference) : Bool :=
  !(changes.groupsAdded.isEmpty && changes.groupsEnded.isEmpty &&
    changes.membersAdded.isEmpty && changes.membersEnded.isEmpty)

def PolicyDifference.isEmpty (changes : PolicyDifference) : Bool :=
  !changes.settingsChanged && !changes.changesGroups && changes.grantsAdded.isEmpty &&
    changes.grantsEnded.isEmpty && changes.edgesAdded.isEmpty && changes.edgesEnded.isEmpty

/-! ## Authorization -/

def OrgState.owns (state : OrgState) (authorUserId : String) (principalId : Uuid) : Bool :=
  state.principals.rows.any fun principal =>
    principal.id == principalId && principal.ownerUserId == authorUserId

def PolicyDifference.touchesCeiling (changes : PolicyDifference) : Bool :=
  changes.settingsChanged || changes.changesGroups ||
    (changes.grantsAdded ++ changes.grantsEnded).any (fun grant => grant.layer == .ceiling) ||
    (changes.edgesAdded ++ changes.edgesEnded).any (fun edge => edge.layer == .ceiling)

def mayPublish (role : OrgRole) (authorUserId : String) (changes : PolicyDifference)
    (state : OrgState) : Bool :=
  role != .member ||
    !changes.touchesCeiling &&
      (changes.grantsAdded ++ changes.grantsEnded).all (fun grant =>
        grant.principalId.any (state.owns authorUserId)) &&
      (changes.edgesAdded ++ changes.edgesEnded).all (fun edge =>
        state.owns authorUserId edge.fromPrincipalId || state.owns authorUserId edge.toPrincipalId)

/-! ## Attenuation -/

def WantedPolicy.appliesTo (wanted : WantedPolicy) (principalId : Uuid) (grant : BrainGrant) :
    Bool :=
  grant.principalId == some principalId ||
    grant.groupId.any fun groupId => wanted.hasMember { groupId, principalId }

def WantedPolicy.ceilingRows (wanted : WantedPolicy) (principalId : Uuid) (source : String) :
    List BrainGrant :=
  wanted.grants.filter fun grant =>
    grant.layer == .ceiling && grant.source == source && wanted.appliesTo principalId grant

/-- The greatest rank, `0` of no rows. -/
def maxRank (grants : List BrainGrant) : Nat :=
  grants.foldl (fun rank grant => max rank grant.mode.rank) 0

/-- The rank a narrowing grant may have: an explicit `none` beats all, a private
source is written by default, and the best row counts elsewhere. -/
def WantedPolicy.ceilingRank (wanted : WantedPolicy) (principalId : Uuid) (source : String) : Nat :=
  let rows := wanted.ceilingRows principalId source
  if rows.any (fun grant => grant.mode == .none) then 0
  else if isAgentSource source then
    match rows.find? (fun grant => grant.principalId == some principalId) with
    | some own => own.mode.rank
    | none => 2
  else maxRank rows

def withinCeiling (wanted : WantedPolicy) (grant : BrainGrant) : Bool :=
  grant.layer != .narrow ||
    grant.principalId.all fun principalId =>
      decide (grant.mode.rank ≤ wanted.ceilingRank principalId grant.source)

def limitWithin (limit ceiling : Option Int) : Bool :=
  match limit, ceiling with
  | some limit, some ceiling => decide (limit ≤ ceiling)
  | _, _ => true

def edgeUnder (edge ceiling : AgentEdge) : Bool :=
  ceiling.layer == .ceiling && ceiling.fromPrincipalId == edge.fromPrincipalId &&
    ceiling.toPrincipalId == edge.toPrincipalId && decide (edge.mode.rank ≤ ceiling.mode.rank) &&
    limitWithin edge.maxMessagesPerHour ceiling.maxMessagesPerHour &&
    limitWithin edge.maxConcurrentRuns ceiling.maxConcurrentRuns

def edgeWithinCeiling (wanted : WantedPolicy) (edge : AgentEdge) : Bool :=
  edge.layer != .narrow || wanted.edges.any (edgeUnder edge)

/-! ## The next revision -/

def isSource (source : String) : Bool :=
  source == "org" || (isTeamSource source && isUuid (substring 5 source)) ||
    (isAgentSource source && isUuid (substring 6 source))

def isGroupName (name : String) : Bool :=
  1 ≤ (btrim name).length && (btrim name).length ≤ 128

/-- `insert into ... select`: one row after the other. -/
def insertAll {Row Key : Type} [DecidableEq Key] {entries : Row → List Key}
    (rows : List Row) (table : Table entries) : Except Raised (Table entries) :=
  rows.foldlM (fun table row => orUniqueViolation (table.insert row)) table

structure RowIds where
  grant : Nat → Uuid
  edge : Nat → Uuid

def grantRows (ids : RowIds) (authorUserId : String) (grants : List BrainGrant) : List GrantRow :=
  grants.zipIdx.map fun place =>
    { id := ids.grant place.2, grant := place.1, authorUserId }

def edgeRows (ids : RowIds) (authorUserId : String) (edges : List AgentEdge) : List EdgeRow :=
  edges.zipIdx.map fun place =>
    { id := ids.edge place.2, edge := place.1, authorUserId }

def writeSettings (changed : Bool) (revision : Nat) (wanted : PolicySettings)
    (settings : Table settingsEntries) : Except Raised (Table settingsEntries) :=
  if changed then do
    let settings ← closeRows Versioned.isActive revision settings
    insertAll (openRows revision [wanted]) settings
  else
    .ok settings

def writePolicy
    (ids : RowIds) (authorUserId : String) (reason : Option String) (wanted : WantedPolicy)
    (changes : PolicyDifference) (state : OrgState) : Except Raised OrgState := do
  let revision := state.currentRevision + 1
  require (isUserId authorUserId && isReason reason)
  let revisions ← orUniqueViolation (state.revisions.insert { revision, authorUserId, reason })
  let settings ← writeSettings changes.settingsChanged revision wanted.settings state.settings
  let grants ← closeRows
    (fun row => row.isActive && !wanted.grants.contains row.content.grant) revision state.grants
  let edges ← closeRows
    (fun row => row.isActive && !wanted.edges.contains row.content.edge) revision state.edges
  let groupMembers ← closeRows
    (fun row => row.isActive && !wanted.hasMember row.content) revision state.groupMembers
  let groups ← closeRows
    (fun row => row.isActive && !wanted.hasGroup row.content.id) revision state.groups
  require (changes.groupsAdded.all fun group => isGroupName group.name)
  let groups ← insertAll (openRows revision changes.groupsAdded) groups
  let groupMembers ← insertAll (openRows revision changes.membersAdded) groupMembers
  require (changes.grantsAdded.all fun grant => isSource grant.source)
  let grants ← insertAll (openRows revision (grantRows ids authorUserId changes.grantsAdded)) grants
  let edges ← insertAll (openRows revision (edgeRows ids authorUserId changes.edgesAdded)) edges
  return { state with
    currentRevision := revision, revisions, settings, groups, groupMembers, grants, edges }

def authorizeChanges (role : OrgRole) (authorUserId : String) (wanted : WantedPolicy)
    (changes : PolicyDifference) (state : OrgState) : Except Raised Unit := do
  refuseIf (mayPublish role authorUserId changes state = false)
    "HN403" "hivra_net: a member can only narrow access for their own agents"
  refuseIf ((changes.grantsAdded.all (withinCeiling wanted)) = false)
    "HN422" "hivra_net: a narrowing grant cannot exceed the organization ceiling"
  refuseIf ((changes.edgesAdded.all (edgeWithinCeiling wanted)) = false)
    "HN422" "hivra_net: a narrowing edge cannot exceed the organization ceiling"

def publishWanted (ids : RowIds) (role : OrgRole) (authorUserId : String) (reason : Option String)
    (wanted : WantedPolicy) (state : OrgState) : Except Raised (Nat × OrgState) := do
  checkWanted wanted state
  let changes := difference wanted state
  if changes.isEmpty then
    return (state.currentRevision, state)
  else
    authorizeChanges role authorUserId wanted changes state
    let next ← writePolicy ids authorUserId reason wanted changes state
    return (next.currentRevision, next)

structure PublishCall where
  expectedRevision : Option Nat
  authorUserId : Option String
  reason : Option String
  document : Option PolicyDocument

/-- `hivra_net_publish_policy_revision`. -/
def publishPolicyRevision (call : PublishCall) (ids : RowIds) (state : OrgState) :
    Except Raised (Nat × OrgState) := do
  refuseIf (call.expectedRevision ≠ some state.currentRevision)
    "HN409" "hivra_net: the policy changed"
  match call.authorUserId, state.actorRole? call.authorUserId with
  | some authorUserId, some role =>
    match call.document with
    | none =>
      raise "HN422" ("hivra_net: the policy document needs settings, groups, group_members, " ++
        "grants and edges")
    | some document =>
      let wanted ← readDocument document
      publishWanted ids role authorUserId call.reason wanted state
  | _, _ => raise "HN403" "hivra_net: not a member of this organization"

end Hivra.AgentNetwork
