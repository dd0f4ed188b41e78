import Hivra.AgentNetwork.PublishPolicy
import Mathlib.Data.List.Sort

/-!
# Policy snapshots

`hivra_net_policy_snapshot`: the policy rows valid at a revision, as the JSON the
evaluator reads, every list in the order of its ids.  A null or negative revision
is answered like `0`.
-/

namespace Hivra.AgentNetwork

open Hivra.Library

structure PolicyContents where
  settings : List PolicySettings
  groups : List Group
  groupMembers : List GroupMember
  grants : List GrantRow
  edges : List EdgeRow

def OrgState.contentsAt (state : OrgState) (revision : Nat) : PolicyContents :=
  { settings := validContents revision state.settings.rows
    groups := validContents revision state.groups.rows
    groupMembers := validContents revision state.groupMembers.rows
    grants := validContents revision state.grants.rows
    edges := validContents revision state.edges.rows }

def OrgState.heldContents (state : OrgState) : PolicyContents :=
  { settings := activeContents state.settings.rows
    groups := activeContents state.groups.rows
    groupMembers := activeContents state.groupMembers.rows
    grants := activeContents state.grants.rows
    edges := activeContents state.edges.rows }

structure PolicyGroup where
  id : String
  name : String

structure PolicyGroupMember where
  groupId : String
  principalId : String

structure PolicyGrant where
  id : String
  layer : PolicyLayer
  principalId : Option String
  groupId : Option String
  source : String
  mode : BrainMode

structure PolicyEdge where
  id : String
  layer : PolicyLayer
  fromPrincipalId : String
  toPrincipalId : String
  mode : EdgeMode
  maxMessagesPerHour : Option Int
  maxConcurrentRuns : Option Int

structure PolicySnapshot where
  orgId : String
  revision : Nat
  settings : Option PolicySettings
  groups : List PolicyGroup
  groupMembers : List PolicyGroupMember
  grants : List PolicyGrant
  edges : List PolicyEdge

def Group.snapshot (group : Group) : PolicyGroup :=
  { id := group.id.text, name := group.name }

def GroupMember.snapshot (member : GroupMember) : PolicyGroupMember :=
  { groupId := member.groupId.text, principalId := member.principalId.text }

def GrantRow.snapshot (row : GrantRow) : PolicyGrant :=
  { id := row.id.text
    layer := row.grant.layer
    principalId := row.grant.principalId.map Uuid.text
    groupId := row.grant.groupId.map Uuid.text
    source := row.grant.source
    mode := row.grant.mode }

def EdgeRow.snapshot (row : EdgeRow) : PolicyEdge :=
  { id := row.id.text
    layer := row.edge.layer
    fromPrincipalId := row.edge.fromPrincipalId.text
    toPrincipalId := row.edge.toPrincipalId.text
    mode := row.edge.mode
    maxMessagesPerHour := row.edge.maxMessagesPerHour
    maxConcurrentRuns := row.edge.maxConcurrentRuns }

/-- `order by m.group_id, m.principal_id`. -/
def GroupMember.before (left right : GroupMember) : Prop :=
  left.groupId.text < right.groupId.text ∨
    left.groupId = right.groupId ∧ left.principalId.text ≤ right.principalId.text

instance (left right : GroupMember) : Decidable (left.before right) :=
  inferInstanceAs (Decidable (_ ∨ _))

def snapshotOf (orgId : Uuid) (revision : Nat) (contents : PolicyContents) : PolicySnapshot :=
  { orgId := orgId.text
    revision
    settings := contents.settings.head?
    groups :=
      (contents.groups.insertionSort fun left right => left.id.text ≤ right.id.text).map
        Group.snapshot
    groupMembers := (contents.groupMembers.insertionSort GroupMember.before).map GroupMember.snapshot
    grants :=
      (contents.grants.insertionSort fun left right => left.id.text ≤ right.id.text).map
        GrantRow.snapshot
    edges :=
      (contents.edges.insertionSort fun left right => left.id.text ≤ right.id.text).map
        EdgeRow.snapshot }

/-- `hivra_net_policy_snapshot`. -/
def policySnapshot (org : Organization) (revision : Nat) : Option PolicySnapshot :=
  if revision < 1 ∨ org.state.currentRevision < revision then none
  else some (snapshotOf org.id revision (org.state.contentsAt revision))

theorem policy_snapshot_some {org : Organization} {revision : Nat} (first : 1 ≤ revision)
    (old : revision ≤ org.state.currentRevision) :
    policySnapshot org revision = some (snapshotOf org.id revision (org.state.contentsAt revision)) := by
  unfold policySnapshot
  rw [if_neg (by omega)]

section Members

variable {orgId : Uuid} {revision : Nat} {contents : PolicyContents}

theorem mem_snapshot_groups {group : PolicyGroup} :
    group ∈ (snapshotOf orgId revision contents).groups ↔
      ∃ held ∈ contents.groups, held.snapshot = group := by
  simp only [snapshotOf, List.mem_map, List.mem_insertionSort]

theorem mem_snapshot_members {member : PolicyGroupMember} :
    member ∈ (snapshotOf orgId revision contents).groupMembers ↔
      ∃ held ∈ contents.groupMembers, held.snapshot = member := by
  simp only [snapshotOf, List.mem_map, List.mem_insertionSort]

theorem mem_snapshot_grants {grant : PolicyGrant} :
    grant ∈ (snapshotOf orgId revision contents).grants ↔
      ∃ held ∈ contents.grants, held.snapshot = grant := by
  simp only [snapshotOf, List.mem_map, List.mem_insertionSort]

theorem mem_snapshot_edges {edge : PolicyEdge} : edge ∈ (snapshotOf orgId revision contents).edges ↔
      ∃ held ∈ contents.edges, held.snapshot = edge := by
  simp only [snapshotOf, List.mem_map, List.mem_insertionSort]

end Members

end Hivra.AgentNetwork
