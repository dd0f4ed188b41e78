import Hivra.AgentNetwork.FrozenHistory

/-!
# Exact snapshots

The snapshot of a revision says what the document of its publish said, the snapshot
of the newest revision names nothing that is gone, and the snapshots of the earlier
revisions stay as they are.
-/

namespace Hivra.AgentNetwork

open Hivra.Library

def DocumentSettings.stated (row : DocumentSettings) : Option PolicySettings := do
  let networkEnabled ← row.networkEnabled
  let paused ← row.paused
  let buzzBindingDefault ← row.buzzBindingDefault.bind BuzzBinding.parse
  let maxHopDepth ← row.maxHopDepth
  return { networkEnabled, paused, buzzBindingDefault, maxHopDepth }

def DocumentGroup.stated (row : DocumentGroup) : Option PolicyGroup := do
  let id ← row.id
  let name ← row.name
  return { id := id.text, name }

def DocumentGroupMember.stated (row : DocumentGroupMember) : Option PolicyGroupMember := do
  let groupId ← row.groupId
  let principalId ← row.principalId
  return { groupId := groupId.text, principalId := principalId.text }

structure StatedGrant where
  layer : PolicyLayer
  principalId : Option String
  groupId : Option String
  source : String
  mode : BrainMode

def PolicyGrant.stated (grant : PolicyGrant) : StatedGrant :=
  { layer := grant.layer
    principalId := grant.principalId
    groupId := grant.groupId
    source := grant.source
    mode := grant.mode }

def DocumentGrant.stated (row : DocumentGrant) : Option StatedGrant := do
  let layer ← row.layer.bind PolicyLayer.parse
  let source ← row.source
  let mode ← row.mode.bind BrainMode.parse
  return {
    layer
    principalId := row.principalId.map Uuid.text
    groupId := row.groupId.map Uuid.text
    source := lower source
    mode }

structure StatedEdge where
  layer : PolicyLayer
  fromPrincipalId : String
  toPrincipalId : String
  mode : EdgeMode
  maxMessagesPerHour : Option Int
  maxConcurrentRuns : Option Int

def PolicyEdge.stated (edge : PolicyEdge) : StatedEdge :=
  { layer := edge.layer
    fromPrincipalId := edge.fromPrincipalId
    toPrincipalId := edge.toPrincipalId
    mode := edge.mode
    maxMessagesPerHour := edge.maxMessagesPerHour
    maxConcurrentRuns := edge.maxConcurrentRuns }

def DocumentEdge.stated (row : DocumentEdge) : Option StatedEdge := do
  let layer ← row.layer.bind PolicyLayer.parse
  let fromPrincipalId ← row.fromPrincipalId
  let toPrincipalId ← row.toPrincipalId
  let mode ← row.mode.bind EdgeMode.parse
  return {
    layer
    fromPrincipalId := fromPrincipalId.text
    toPrincipalId := toPrincipalId.text
    mode
    maxMessagesPerHour := row.maxMessagesPerHour
    maxConcurrentRuns := row.maxConcurrentRuns }

structure SamePolicy (document : PolicyDocument) (snapshot : PolicySnapshot) : Prop where
  settings : ∃ settings, document.settings.stated = some settings ∧
    snapshot.settings = some settings
  groups : ∀ stated, stated ∈ document.groups.map DocumentGroup.stated ↔
    stated ∈ snapshot.groups.map some
  groupMembers : ∀ stated, stated ∈ document.groupMembers.map DocumentGroupMember.stated ↔
    stated ∈ snapshot.groupMembers.map some
  grants : ∀ stated, stated ∈ document.grants.map DocumentGrant.stated ↔
    stated ∈ snapshot.grants.map fun grant => some grant.stated
  edges : ∀ stated, stated ∈ document.edges.map DocumentEdge.stated ↔
    stated ∈ snapshot.edges.map fun edge => some edge.stated

def LivePrincipal (state : OrgState) (principalId : String) : Prop :=
  ∃ principal ∈ state.principals, principal.id.text = principalId ∧ principal.state ≠ .left

structure SnapshotNames (state : OrgState) (snapshot : PolicySnapshot) : Prop where
  memberPrincipals : ∀ member ∈ snapshot.groupMembers, LivePrincipal state member.principalId
  memberGroups : ∀ member ∈ snapshot.groupMembers,
    ∃ group ∈ snapshot.groups, group.id = member.groupId
  grantPrincipals : ∀ grant ∈ snapshot.grants, ∀ principalId,
    grant.principalId = some principalId → LivePrincipal state principalId
  grantGroups : ∀ grant ∈ snapshot.grants, ∀ groupId, grant.groupId = some groupId →
    ∃ group ∈ snapshot.groups, group.id = groupId
  sources : ∀ grant ∈ snapshot.grants, grant.source = "org" ∨
    (∃ group ∈ snapshot.groups, grant.source = "team/" ++ group.id) ∨
    (∃ principalId, LivePrincipal state principalId ∧ grant.source = "agent/" ++ principalId)
  senders : ∀ edge ∈ snapshot.edges, LivePrincipal state edge.fromPrincipalId
  receivers : ∀ edge ∈ snapshot.edges, LivePrincipal state edge.toPrincipalId

theorem read_settings_ok {row : DocumentSettings} {settings : PolicySettings}
    (read : readSettings row = .ok settings) : row.stated = some settings := by
  unfold readSettings at read
  obtain ⟨networkEnabled, enabledThere, read⟩ := bind_ok read
  obtain ⟨paused, pausedThere, read⟩ := bind_ok read
  obtain ⟨binding, bindingThere, read⟩ := bind_ok read
  obtain ⟨buzzBindingDefault, bindingRead, read⟩ := bind_ok read
  obtain ⟨maxHopDepth, depthThere, read⟩ := bind_ok read
  obtain ⟨_, _, read⟩ := bind_ok read
  cases read
  unfold DocumentSettings.stated
  rw [not_null_ok enabledThere, not_null_ok pausedThere, not_null_ok bindingThere,
    Option.bind_some, checked_ok bindingRead, not_null_ok depthThere]
  rfl

theorem read_group_stated {row : DocumentGroup} {group : Group} (read : readGroup row = .ok group) :
    row.stated = some group.snapshot := by
  unfold readGroup at read
  obtain ⟨id, idThere, read⟩ := bind_ok read
  obtain ⟨name, nameThere, read⟩ := bind_ok read
  cases read
  unfold DocumentGroup.stated
  rw [not_null_ok idThere, not_null_ok nameThere]
  rfl

theorem read_member_stated {row : DocumentGroupMember} {member : GroupMember}
    (read : readGroupMember row = .ok member) : row.stated = some member.snapshot := by
  unfold readGroupMember at read
  obtain ⟨groupId, groupThere, read⟩ := bind_ok read
  obtain ⟨principalId, principalThere, read⟩ := bind_ok read
  cases read
  unfold DocumentGroupMember.stated
  rw [not_null_ok groupThere, not_null_ok principalThere]
  rfl

def BrainGrant.stated (grant : BrainGrant) : StatedGrant :=
  { layer := grant.layer
    principalId := grant.principalId.map Uuid.text
    groupId := grant.groupId.map Uuid.text
    source := grant.source
    mode := grant.mode }

def AgentEdge.stated (edge : AgentEdge) : StatedEdge :=
  { layer := edge.layer
    fromPrincipalId := edge.fromPrincipalId.text
    toPrincipalId := edge.toPrincipalId.text
    mode := edge.mode
    maxMessagesPerHour := edge.maxMessagesPerHour
    maxConcurrentRuns := edge.maxConcurrentRuns }

theorem read_grant_stated {row : DocumentGrant} {grant : BrainGrant}
    (read : readGrant row = .ok grant) : row.stated = some grant.stated := by
  obtain ⟨layer, principalId, groupId, source, mode, _⟩ := read_grant_ok read
  rw [Option.map_eq_some_iff] at source
  obtain ⟨text, there, lowered⟩ := source
  unfold DocumentGrant.stated BrainGrant.stated
  rw [layer, mode, there, principalId, groupId, ← lowered]
  rfl

theorem read_edge_stated {row : DocumentEdge} {edge : AgentEdge}
    (read : readEdge row = .ok edge) : row.stated = some edge.stated := by
  obtain ⟨layer, sender, receiver, mode, messages, runs, _⟩ := read_edge_ok read
  unfold DocumentEdge.stated AgentEdge.stated
  rw [layer, mode, sender, receiver, messages, runs]
  rfl

variable {contents : PolicyContents}

theorem same_policy {document : PolicyDocument} {wanted : WantedPolicy} (orgId : Uuid)
    (revision : Nat) (read : DocumentRead document wanted) (same : contents.terms.Same wanted.terms)
    (settings : contents.settings = [wanted.settings]) :
    SamePolicy document (snapshotOf orgId revision contents) where
  settings := ⟨wanted.settings, read_settings_ok read.settings, by rw [snapshotOf, settings]; rfl⟩
  groups := by
    intro stated
    rw [map_read (fun _ _ => read_group_stated) read.groups]
    simp only [List.mem_map, mem_snapshot_groups]
    constructor
    · rintro ⟨group, there, named⟩
      exact ⟨group.snapshot, ⟨group, (same.groups group).mpr there, rfl⟩, named⟩
    · rintro ⟨_, ⟨group, held, rfl⟩, named⟩
      exact ⟨group, (same.groups group).mp held, named⟩
  groupMembers := by
    intro stated
    rw [map_read (fun _ _ => read_member_stated) read.groupMembers]
    simp only [List.mem_map, mem_snapshot_members]
    constructor
    · rintro ⟨member, there, named⟩
      exact ⟨member.snapshot, ⟨member, (same.groupMembers member).mpr there, rfl⟩, named⟩
    · rintro ⟨_, ⟨member, held, rfl⟩, named⟩
      exact ⟨member, (same.groupMembers member).mp held, named⟩
  grants := by
    intro stated
    rw [map_read (fun _ _ => read_grant_stated) read.grants]
    simp only [List.mem_map, mem_snapshot_grants]
    constructor
    · rintro ⟨grant, there, named⟩
      obtain ⟨row, held, rfl⟩ := List.mem_map.mp ((same.grants grant).mpr there)
      exact ⟨row.snapshot, ⟨row, held, rfl⟩, named⟩
    · rintro ⟨_, ⟨row, held, rfl⟩, named⟩
      exact ⟨row.grant, (same.grants row.grant).mp (List.mem_map_of_mem held), named⟩
  edges := by
    intro stated
    rw [map_read (fun _ _ => read_edge_stated) read.edges]
    simp only [List.mem_map, mem_snapshot_edges]
    constructor
    · rintro ⟨edge, there, named⟩
      obtain ⟨row, held, rfl⟩ := List.mem_map.mp ((same.edges edge).mpr there)
      exact ⟨row.snapshot, ⟨row, held, rfl⟩, named⟩
    · rintro ⟨_, ⟨row, held, rfl⟩, named⟩
      exact ⟨row.edge, (same.edges row.edge).mp (List.mem_map_of_mem held), named⟩

theorem headed {head source : String} (starts : head.toList.isPrefixOf source.toList = true) :
    source = head ++ substring head.length source := by
  obtain ⟨rest, same⟩ := List.isPrefixOf_iff_prefix.mp starts
  apply String.toList_inj.mp
  rw [String.toList_append, substring, String.toList_ofList, ← same, ← String.length_toList,
    List.drop_left]

variable {state : OrgState}

theorem live_text {principalId : Uuid} (live : state.isLive principalId = true) :
    LivePrincipal state principalId.text := by
  obtain ⟨principal, present, named, notLeft⟩ := is_live.mp live
  exact ⟨principal, present, by rw [named], notLeft⟩

theorem held_grant {row : GrantRow} (held : row ∈ contents.grants) :
    row.grant ∈ contents.terms.grants :=
  List.mem_map_of_mem held

theorem held_edge {row : EdgeRow} (held : row ∈ contents.edges) : row.edge ∈ contents.terms.edges :=
  List.mem_map_of_mem held

theorem source_named (shape : PolicyShape contents.terms) (live : PolicyLive state contents.terms)
    {row : GrantRow} (held : row ∈ contents.grants) : row.grant.source = "org" ∨
      (∃ group ∈ contents.groups, row.grant.source = "team/" ++ group.id.text) ∨
      (∃ principalId, LivePrincipal state principalId ∧
        row.grant.source = "agent/" ++ principalId) := by
  have grant := shape.grants _ (held_grant held)
  have grammar := grant.grammar
  simp only [isSource, Bool.or_eq_true, beq_iff_eq, Bool.and_eq_true] at grammar
  obtain (org | team) | agent := grammar
  · exact .inl org
  · obtain ⟨group, there, named⟩ := shape.teamSources _ (held_grant held) team.1
    have split : row.grant.source = "team/" ++ substring 5 row.grant.source := headed team.1
    rw [← named] at split
    exact .inr (.inl ⟨group, there, split⟩)
  · have owned := grant.owned
    unfold ownsSource at owned
    rw [agent.1, Bool.not_true, Bool.false_or] at owned
    cases holder : row.grant.principalId with
    | none => rw [holder] at owned; cases owned
    | some principalId =>
      rw [holder] at owned
      dsimp only at owned
      rw [beq_iff_eq] at owned
      exact .inr (.inr ⟨principalId.text,
        live_text (live.grants _ (held_grant held) principalId holder), owned⟩)

theorem snapshot_names (orgId : Uuid) (revision : Nat) (shape : PolicyShape contents.terms)
    (live : PolicyLive state contents.terms) :
    SnapshotNames state (snapshotOf orgId revision contents) := by
  constructor
  · intro member present
    obtain ⟨held, there, rfl⟩ := mem_snapshot_members.mp present
    exact live_text (live.groupMembers held there)
  · intro member present
    obtain ⟨held, there, rfl⟩ := mem_snapshot_members.mp present
    obtain ⟨group, listed, named⟩ := shape.memberGroups held there
    exact ⟨group.snapshot, mem_snapshot_groups.mpr ⟨group, listed, rfl⟩,
      congrArg Uuid.text named⟩
  · intro grant present principalId holder
    obtain ⟨row, there, rfl⟩ := mem_snapshot_grants.mp present
    obtain ⟨id, named, rfl⟩ := Option.map_eq_some_iff.mp holder
    exact live_text (live.grants _ (held_grant there) id named)
  · intro grant present groupId holder
    obtain ⟨row, there, rfl⟩ := mem_snapshot_grants.mp present
    obtain ⟨id, named, rfl⟩ := Option.map_eq_some_iff.mp holder
    obtain ⟨group, listed, same⟩ := shape.grantGroups _ (held_grant there) id named
    exact ⟨group.snapshot, mem_snapshot_groups.mpr ⟨group, listed, rfl⟩, congrArg Uuid.text same⟩
  · intro grant present
    obtain ⟨row, there, rfl⟩ := mem_snapshot_grants.mp present
    obtain org | ⟨group, listed, named⟩ | agent := source_named shape live there
    · exact .inl org
    · exact .inr (.inl ⟨group.snapshot, mem_snapshot_groups.mpr ⟨group, listed, rfl⟩, named⟩)
    · exact .inr (.inr agent)
  · intro edge present
    obtain ⟨row, there, rfl⟩ := mem_snapshot_edges.mp present
    exact live_text (live.senders _ (held_edge there))
  · intro edge present
    obtain ⟨row, there, rfl⟩ := mem_snapshot_edges.mp present
    exact live_text (live.receivers _ (held_edge there))

def NetworkEvent.Raises (network : Network) : NetworkEvent → Prop
  | .createOrg kind ownerUserId name newId =>
    ∃ raised, AgentNetwork.createOrg kind ownerUserId name newId network = .error raised
  | .ensurePersonalOrg userId newId =>
    ∃ raised, AgentNetwork.ensurePersonalOrg userId newId network = .error raised
  | .eraseOrg _ => False
  | .org orgId call => ∃ raised, network.call orgId call = .error raised

structure FrozenAndExact (network : Network) (org : Organization) : Prop where
  revisions : org.state.revisions.rows.map PolicyRevision.revision =
    List.range' 1 org.state.currentRevision
  frozen : ∀ later, .eraseOrg org.id ∉ later →
    ∃ next ∈ (network.after later).organizations, next.id = org.id ∧
      ∀ revision, revision ≤ org.state.currentRevision →
        policySnapshot next revision = policySnapshot org revision
  published : ∀ call ids revision state,
    publishPolicyRevision call ids org.state = .ok (revision, state) →
      (revision = org.state.currentRevision ∧ state = org.state ∨
        revision = org.state.currentRevision + 1 ∧ state.currentRevision = revision) ∧
      ∃ document snapshot, call.document = some document ∧
        policySnapshot { org with state } revision = some snapshot ∧ SamePolicy document snapshot
  names : ∃ snapshot, policySnapshot org org.state.currentRevision = some snapshot ∧
    SnapshotNames org.state snapshot

theorem current_positive (kept : PolicyKept state) : 1 ≤ state.currentRevision := by
  obtain ⟨settings, one⟩ := kept.history.oneActive
  have there : settings ∈ activeContents state.settings.rows := by
    rw [one]
    exact List.mem_cons_self
  have ⟨row, present, _, _⟩ := mem_active_contents.mp there
  have within := kept.history.settings row present
  have first := within.first
  have started := within.started
  omega

theorem newest_snapshot {org : Organization} (kept : PolicyKept org.state) :
    policySnapshot org org.state.currentRevision =
      some (snapshotOf org.id org.state.currentRevision org.state.heldContents) := by
  rw [policy_snapshot_some (current_positive kept) (Nat.le_refl _),
    contents_at_current kept.history]

theorem extends_snapshot {org next : Organization} (same : next.id = org.id)
    (later : Extends org.state next.state) {revision : Nat}
    (old : revision ≤ org.state.currentRevision) :
    policySnapshot next revision = policySnapshot org revision := by
  have current := later.current
  by_cases first : 1 ≤ revision
  · rw [policy_snapshot_some first old, policy_snapshot_some first (by omega), same,
      later.frozen revision old]
  · unfold policySnapshot
    rw [if_pos (.inl (by omega)), if_pos (.inl (by omega))]

theorem published_exactly {org : Organization} {call : PublishCall} {ids : RowIds} {revision : Nat}
    (kept : PolicyKept org.state)
    (published : publishPolicyRevision call ids org.state = .ok (revision, state)) :
    (revision = org.state.currentRevision ∧ state = org.state ∨
        revision = org.state.currentRevision + 1 ∧ state.currentRevision = revision) ∧
      ∃ document snapshot, call.document = some document ∧
        policySnapshot { org with state } revision = some snapshot ∧
        SamePolicy document snapshot := by
  obtain ⟨_, _, document, wanted, _, _, asked, read, checks, writes⟩ := publish_ok published
  have outcome := published_outcome writes
  have same := published_terms outcome (check_wanted_ok checks).names
  have settings := published_settings outcome kept.history.oneActive
  have ⟨nextKept, _⟩ := publish_kept read checks writes kept
  have newest := @newest_snapshot { org with state } nextKept
  have exact_ := same_policy org.id state.currentRevision (read_document_ok read) same settings
  cases writes with
  | unchanged nothing => exact ⟨.inl ⟨rfl, rfl⟩, document, _, asked, newest, exact_⟩
  | written next differs authorized written =>
    exact ⟨.inr ⟨written.revision, rfl⟩, document, _, asked, newest, exact_⟩

theorem step_raises {network : Network} {event : NetworkEvent} (raises : event.Raises network) :
    network.step event = network := by
  cases event with
  | createOrg kind ownerUserId name newId =>
    obtain ⟨raised, failed⟩ := raises
    simp only [Network.step, failed]
  | ensurePersonalOrg userId newId =>
    obtain ⟨raised, failed⟩ := raises
    simp only [Network.step, failed]
  | eraseOrg orgId => cases raises
  | org orgId call =>
    obtain ⟨raised, failed⟩ := raises
    simp only [Network.step, failed]

/-- In every state a run reaches the policy of every organization is frozen and
exact, and a call that raises changes nothing. -/
theorem policy_history_is_frozen_and_exact (history : List NetworkEvent) :
    (∀ org ∈ (Network.empty.after history).organizations,
        FrozenAndExact (Network.empty.after history) org) ∧
      ∀ event : NetworkEvent, event.Raises (Network.empty.after history) →
        (Network.empty.after history).step event = Network.empty.after history := by
  constructor
  · intro org member
    have kept := reached_kept history org member
    constructor
    · exact kept.history.revisions
    · intro later notErased
      have ⟨next, nextMember, same, extends_⟩ :=
        run_extends (reached_kept history) member notErased
      exact ⟨next, nextMember, same, fun _ old => extends_snapshot same extends_ old⟩
    · intro call ids revision state published
      exact published_exactly kept published
    · exact ⟨_, newest_snapshot kept, snapshot_names _ _ kept.shape kept.live⟩
  · intro event raises
    exact step_raises raises

end Hivra.AgentNetwork
