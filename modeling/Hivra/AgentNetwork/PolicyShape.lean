import Hivra.AgentNetwork.PolicyHistory

/-!
# The shape of a policy

What every policy that is held has: its rows name principals that have not left and
groups that are there, one row answers for a key, and sources are of the grammar.
The wanted policy of a publish has it by the checks, and after the publish the held
rows are the wanted ones.
-/

namespace Hivra.AgentNetwork

open Hivra.Library

/-- What a policy says, without the ids of its rows. -/
structure PolicyTerms where
  groups : List Group
  groupMembers : List GroupMember
  grants : List BrainGrant
  edges : List AgentEdge

def PolicyContents.terms (contents : PolicyContents) : PolicyTerms :=
  { groups := contents.groups
    groupMembers := contents.groupMembers
    grants := contents.grants.map GrantRow.grant
    edges := contents.edges.map EdgeRow.edge }

def WantedPolicy.terms (wanted : WantedPolicy) : PolicyTerms :=
  { groups := wanted.groups
    groupMembers := wanted.groupMembers
    grants := wanted.grants
    edges := wanted.edges }

/-- The same groups, and no member, grant or edge that `right` lacks. -/
structure PolicyTerms.Within (left right : PolicyTerms) : Prop where
  groups : ∀ group, group ∈ left.groups ↔ group ∈ right.groups
  groupMembers : ∀ member ∈ left.groupMembers, member ∈ right.groupMembers
  grants : ∀ grant ∈ left.grants, grant ∈ right.grants
  edges : ∀ edge ∈ left.edges, edge ∈ right.edges

structure PolicyTerms.Same (left right : PolicyTerms) : Prop where
  groups : ∀ group, group ∈ left.groups ↔ group ∈ right.groups
  groupMembers : ∀ member, member ∈ left.groupMembers ↔ member ∈ right.groupMembers
  grants : ∀ grant, grant ∈ left.grants ↔ grant ∈ right.grants
  edges : ∀ edge, edge ∈ left.edges ↔ edge ∈ right.edges

variable {right : PolicyTerms}

theorem PolicyTerms.Same.within {left : PolicyTerms} (same : left.Same right) :
    left.Within right where
  groups := same.groups
  groupMembers := fun member => (same.groupMembers member).mp
  grants := fun grant => (same.grants grant).mp
  edges := fun edge => (same.edges edge).mp

/-- What publishing makes sure of for every grant. -/
structure GrantShape (grant : BrainGrant) : Prop where
  holder : (grant.principalId.isNone != grant.groupId.isNone) = true
  narrow : grant.layer = .narrow → ∃ principalId, grant.principalId = some principalId
  lowered : lower grant.source = grant.source
  owned : ownsSource grant = true
  grammar : isSource grant.source = true

structure EdgeShape (edge : AgentEdge) : Prop where
  ends : edge.fromPrincipalId ≠ edge.toPrincipalId
  messages : isLimit edge.maxMessagesPerHour = true
  runs : isLimit edge.maxConcurrentRuns = true

structure PolicyShape (terms : PolicyTerms) : Prop where
  grants : ∀ grant ∈ terms.grants, GrantShape grant
  grantKeys : ∀ left ∈ terms.grants, ∀ right ∈ terms.grants,
    left.wantKey = right.wantKey → left = right
  edges : ∀ edge ∈ terms.edges, EdgeShape edge
  edgeKeys : ∀ left ∈ terms.edges, ∀ right ∈ terms.edges,
    left.wantKey = right.wantKey → left = right
  memberGroups : ∀ member ∈ terms.groupMembers,
    ∃ group ∈ terms.groups, group.id = member.groupId
  grantGroups : ∀ grant ∈ terms.grants, ∀ groupId, grant.groupId = some groupId →
    ∃ group ∈ terms.groups, group.id = groupId
  teamSources : ∀ grant ∈ terms.grants, isTeamSource grant.source = true →
    ∃ group ∈ terms.groups, group.id.text = substring 5 grant.source

/-- No term names a principal that is gone. -/
structure PolicyLive (state : OrgState) (terms : PolicyTerms) : Prop where
  groupMembers : ∀ member ∈ terms.groupMembers, state.isLive member.principalId = true
  grants : ∀ grant ∈ terms.grants, ∀ principalId, grant.principalId = some principalId →
    state.isLive principalId = true
  senders : ∀ edge ∈ terms.edges, state.isLive edge.fromPrincipalId = true
  receivers : ∀ edge ∈ terms.edges, state.isLive edge.toPrincipalId = true

theorem shape_within {left : PolicyTerms} (within : left.Within right) (shape : PolicyShape right) :
    PolicyShape left where
  grants := fun grant member => shape.grants grant (within.grants grant member)
  grantKeys := fun first firstMember second secondMember =>
    shape.grantKeys first (within.grants first firstMember) second
      (within.grants second secondMember)
  edges := fun edge member => shape.edges edge (within.edges edge member)
  edgeKeys := fun first firstMember second secondMember =>
    shape.edgeKeys first (within.edges first firstMember) second
      (within.edges second secondMember)
  memberGroups := by
    intro member present
    have ⟨group, there, named⟩ :=
      shape.memberGroups member (within.groupMembers member present)
    exact ⟨group, (within.groups group).mpr there, named⟩
  grantGroups := by
    intro grant present groupId holder
    have ⟨group, there, named⟩ :=
      shape.grantGroups grant (within.grants grant present) groupId holder
    exact ⟨group, (within.groups group).mpr there, named⟩
  teamSources := by
    intro grant present team
    have ⟨group, there, named⟩ := shape.teamSources grant (within.grants grant present) team
    exact ⟨group, (within.groups group).mpr there, named⟩

variable {state : OrgState} {Row Value Content : Type} {document : PolicyDocument}

theorem live_within {left : PolicyTerms} (within : left.Within right)
    (live : PolicyLive state right) : PolicyLive state left where
  groupMembers := fun member present =>
    live.groupMembers member (within.groupMembers member present)
  grants := fun grant present => live.grants grant (within.grants grant present)
  senders := fun edge present => live.senders edge (within.edges edge present)
  receivers := fun edge present => live.receivers edge (within.edges edge present)

theorem map_read {Stated : Type} {read : Row → Except Raised Value} {rows : List Row}
    {values : List Value} {ofRow : Row → Stated} {ofValue : Value → Stated}
    (same : ∀ row value, read row = .ok value → ofRow row = ofValue value)
    (done : rows.mapM read = .ok values) : rows.map ofRow = values.map ofValue := by
  induction rows generalizing values with
  | nil =>
    cases done
    rfl
  | cons row rest ih =>
    rw [List.mapM_cons] at done
    obtain ⟨value, first, done⟩ := bind_ok done
    obtain ⟨others, later, done⟩ := bind_ok done
    cases done
    rw [List.map_cons, List.map_cons, same row value first, ih later]

theorem read_from {read : Row → Except Raised Value} {rows : List Row} {values : List Value}
    (done : rows.mapM read = .ok values) {value : Value} (member : value ∈ values) :
    ∃ row ∈ rows, read row = .ok value := by
  have there : (Except.ok value : Except Raised Value) ∈ rows.map read := by
    rw [map_read (fun _ _ same => same) done]
    exact List.mem_map_of_mem member
  exact List.mem_map.mp there

theorem require_distinct_ok {Key : Type} [DecidableEq Key] {keys : List Key} {answer : Unit}
    (passed : requireDistinct keys = .ok answer) : keys.Nodup := by
  unfold requireDistinct at passed
  split_ifs at passed with distinct
  · exact distinct
  · exact absurd passed raise_ne_ok

theorem not_null_ok {held : Option Value} {value : Value} (read : notNull held = .ok value) :
    held = some value := by
  cases held with
  | none => exact absurd read raise_ne_ok
  | some held =>
    cases read
    rfl

theorem checked_ok {held : Option Value} {value : Value} (read : checked held = .ok value) :
    held = some value := by
  cases held with
  | none => exact absurd read raise_ne_ok
  | some held =>
    cases read
    rfl

theorem read_grant_ok {row : DocumentGrant} {grant : BrainGrant} (read : readGrant row = .ok grant) :
    row.layer.bind PolicyLayer.parse = some grant.layer ∧
      row.principalId = grant.principalId ∧ row.groupId = grant.groupId ∧
      row.source.map lower = some grant.source ∧
      row.mode.bind BrainMode.parse = some grant.mode ∧
      (grant.principalId.isNone != grant.groupId.isNone) = true := by
  unfold readGrant at read
  obtain ⟨layerText, layerThere, read⟩ := bind_ok read
  obtain ⟨layer, layerRead, read⟩ := bind_ok read
  obtain ⟨source, sourceThere, read⟩ := bind_ok read
  obtain ⟨modeText, modeThere, read⟩ := bind_ok read
  obtain ⟨mode, modeRead, read⟩ := bind_ok read
  obtain ⟨_, holder, read⟩ := bind_ok read
  cases read
  refine ⟨?_, rfl, rfl, ?_, ?_, require_ok holder⟩
  · rw [not_null_ok layerThere]
    exact checked_ok layerRead
  · rw [not_null_ok sourceThere]
    rfl
  · rw [not_null_ok modeThere]
    exact checked_ok modeRead

theorem read_edge_ok {row : DocumentEdge} {edge : AgentEdge} (read : readEdge row = .ok edge) :
    row.layer.bind PolicyLayer.parse = some edge.layer ∧
      row.fromPrincipalId = some edge.fromPrincipalId ∧
      row.toPrincipalId = some edge.toPrincipalId ∧
      row.mode.bind EdgeMode.parse = some edge.mode ∧
      row.maxMessagesPerHour = edge.maxMessagesPerHour ∧
      row.maxConcurrentRuns = edge.maxConcurrentRuns ∧ EdgeShape edge := by
  unfold readEdge at read
  obtain ⟨layerText, layerThere, read⟩ := bind_ok read
  obtain ⟨layer, layerRead, read⟩ := bind_ok read
  obtain ⟨sender, senderThere, read⟩ := bind_ok read
  obtain ⟨receiver, receiverThere, read⟩ := bind_ok read
  obtain ⟨modeText, modeThere, read⟩ := bind_ok read
  obtain ⟨mode, modeRead, read⟩ := bind_ok read
  obtain ⟨_, messages, read⟩ := bind_ok read
  obtain ⟨_, runs, read⟩ := bind_ok read
  obtain ⟨_, ends, read⟩ := bind_ok read
  cases read
  refine ⟨?_, not_null_ok senderThere, not_null_ok receiverThere, ?_, rfl, rfl, ?_⟩
  · rw [not_null_ok layerThere]
    exact checked_ok layerRead
  · rw [not_null_ok modeThere]
    exact checked_ok modeRead
  · constructor
    · have different := require_ok ends
      simpa using different
    · exact require_ok messages
    · exact require_ok runs

/-- The document is read field by field, and no id or key stands twice. -/
structure DocumentRead (document : PolicyDocument) (wanted : WantedPolicy) : Prop where
  settings : readSettings document.settings = .ok wanted.settings
  groups : document.groups.mapM readGroup = .ok wanted.groups
  groupIds : (wanted.groups.map Group.id).Nodup
  groupMembers : document.groupMembers.mapM readGroupMember = .ok wanted.groupMembers
  grants : document.grants.mapM readGrant = .ok wanted.grants
  grantKeys : (wanted.grants.map BrainGrant.wantKey).Nodup
  edges : document.edges.mapM readEdge = .ok wanted.edges
  edgeKeys : (wanted.edges.map AgentEdge.wantKey).Nodup

variable {wanted : WantedPolicy}

theorem read_document_ok (read : readDocument document = .ok wanted) :
    DocumentRead document wanted := by
  unfold readDocument at read
  obtain ⟨settings, settingsRead, read⟩ := bind_ok read
  obtain ⟨groups, groupsRead, read⟩ := bind_ok read
  obtain ⟨_, groupIds, read⟩ := bind_ok read
  obtain ⟨groupMembers, membersRead, read⟩ := bind_ok read
  obtain ⟨_, _, read⟩ := bind_ok read
  obtain ⟨grants, grantsRead, read⟩ := bind_ok read
  obtain ⟨_, grantKeys, read⟩ := bind_ok read
  obtain ⟨edges, edgesRead, read⟩ := bind_ok read
  obtain ⟨_, edgeKeys, read⟩ := bind_ok read
  cases read
  exact
    { settings := settingsRead
      groups := groupsRead
      groupIds := require_distinct_ok groupIds
      groupMembers := membersRead
      grants := grantsRead
      grantKeys := require_distinct_ok grantKeys
      edges := edgesRead
      edgeKeys := require_distinct_ok edgeKeys }

/-- The checks against the state that a wanted policy has to pass. -/
structure WantedChecked (wanted : WantedPolicy) (state : OrgState) : Prop where
  principals : ∀ principalId ∈ wanted.principals, state.isLive principalId = true
  groups : ∀ groupId ∈ wanted.namedGroups, wanted.hasGroup groupId = true
  narrow : ∀ grant ∈ wanted.grants, grant.layer = .narrow →
    ∃ principalId, grant.principalId = some principalId
  sources : ∀ grant ∈ wanted.grants, sourceExists wanted state grant.source = true
  owned : ∀ grant ∈ wanted.grants, ownsSource grant = true
  names : ∀ group ∈ wanted.groups, keepsName state group = true

theorem check_wanted_ok {answer : Unit} (passed : checkWanted wanted state = .ok answer) :
    WantedChecked wanted state := by
  unfold checkWanted at passed
  obtain ⟨_, principals, passed⟩ := bind_ok passed
  obtain ⟨_, groups, passed⟩ := bind_ok passed
  obtain ⟨_, narrow, passed⟩ := bind_ok passed
  obtain ⟨_, sources, passed⟩ := bind_ok passed
  obtain ⟨_, owned, passed⟩ := bind_ok passed
  obtain ⟨_, names, _⟩ := bind_ok passed
  constructor
  · have all := refuse_if_ok principals
    rwa [Bool.not_eq_false, List.all_eq_true] at all
  · have all := refuse_if_ok groups
    rwa [Bool.not_eq_false, List.all_eq_true] at all
  · intro grant member layer
    have none := refuse_if_ok narrow
    rw [Bool.not_eq_true, List.any_eq_false] at none
    have held := none grant member
    cases holder : grant.principalId with
    | none => simp [layer, holder] at held
    | some principalId => exact ⟨principalId, rfl⟩
  · have all := refuse_if_ok sources
    rwa [Bool.not_eq_false, List.all_eq_true] at all
  · have all := refuse_if_ok owned
    rwa [Bool.not_eq_false, List.all_eq_true] at all
  · have all := refuse_if_ok names
    rwa [Bool.not_eq_false, List.all_eq_true] at all

theorem wanted_live (checks : WantedChecked wanted state) : PolicyLive state wanted.terms where
  groupMembers := by
    intro member present
    apply checks.principals
    simp only [WantedPolicy.principals, List.mem_append]
    exact .inl (.inl (.inl (List.mem_map_of_mem present)))
  grants := by
    intro grant present principalId holder
    apply checks.principals
    simp only [WantedPolicy.principals, List.mem_append]
    exact .inl (.inl (.inr (List.mem_filterMap.mpr ⟨grant, present, holder⟩)))
  senders := by
    intro edge present
    apply checks.principals
    simp only [WantedPolicy.principals, List.mem_append]
    exact .inl (.inr (List.mem_map_of_mem present))
  receivers := by
    intro edge present
    apply checks.principals
    simp only [WantedPolicy.principals, List.mem_append]
    exact .inr (List.mem_map_of_mem present)

theorem has_group {groupId : Uuid} :
    wanted.hasGroup groupId = true ↔ ∃ group ∈ wanted.groups, group.id = groupId := by
  simp only [WantedPolicy.hasGroup, List.any_eq_true, beq_iff_eq]

/-- A document that is read and passes the checks states a well-formed policy. -/
theorem wanted_shape (read : DocumentRead document wanted) (checks : WantedChecked wanted state)
    (grammar : ∀ grant ∈ wanted.grants, isSource grant.source = true) :
    PolicyShape wanted.terms where
  grants := by
    intro grant present
    have ⟨row, _, readRow⟩ := read_from read.grants present
    have ⟨_, _, _, source, _, holder⟩ := read_grant_ok readRow
    constructor
    · exact holder
    · exact checks.narrow grant present
    · rw [Option.map_eq_some_iff] at source
      obtain ⟨text, _, lowered⟩ := source
      rw [← lowered, lower_lower]
    · exact checks.owned grant present
    · exact grammar grant present
  grantKeys := by
    intro left leftMember right rightMember
    exact List.inj_on_of_nodup_map read.grantKeys leftMember rightMember
  edges := by
    intro edge present
    have ⟨row, _, readRow⟩ := read_from read.edges present
    have ⟨_, _, _, _, _, _, shape⟩ := read_edge_ok readRow
    exact shape
  edgeKeys := by
    intro left leftMember right rightMember
    exact List.inj_on_of_nodup_map read.edgeKeys leftMember rightMember
  memberGroups := by
    intro member present
    apply has_group.mp
    apply checks.groups
    exact List.mem_append_left _ (List.mem_map_of_mem present)
  grantGroups := by
    intro grant present groupId holder
    apply has_group.mp
    apply checks.groups
    exact List.mem_append_right _ (List.mem_filterMap.mpr ⟨grant, present, holder⟩)
  teamSources := by
    intro grant present team
    have named := checks.sources grant present
    unfold sourceExists at named
    rw [team, Bool.and_eq_true] at named
    simpa [WantedPolicy.terms] using named.1

theorem mem_active_replaced {Content : Type} {current : Nat} {kept : Content → Bool}
    {added : List Content} {rows next : List (Versioned Content)}
    (revises : Revises current (fun row => row.isActive && !kept row.content) added rows next)
    {content : Content} : content ∈ activeContents next ↔
      content ∈ activeContents rows ∧ kept content = true ∨ content ∈ added := by
  rw [mem_active_revised revises, mem_active_contents]
  apply or_congr_left
  constructor
  · intro ⟨row, present, active, unselected, stated⟩
    rw [active, stated] at unselected
    exact ⟨⟨row, present, active, stated⟩, by simpa using unselected⟩
  · intro ⟨⟨row, present, active, stated⟩, keeps⟩
    exact ⟨row, present, active, by simp [stated, keeps], stated⟩

variable {ids : RowIds} {authorUserId : String}

theorem mem_grant_rows {grants : List BrainGrant} {grant : BrainGrant} :
    (∃ row ∈ grantRows ids authorUserId grants, row.grant = grant) ↔ grant ∈ grants := by
  have said : (grantRows ids authorUserId grants).map GrantRow.grant = grants := by
    rw [grantRows, List.map_map]
    exact List.zipIdx_map_fst 0 grants
  rw [← List.mem_map, said]

theorem mem_edge_rows {edges : List AgentEdge} {edge : AgentEdge} :
    (∃ row ∈ edgeRows ids authorUserId edges, row.edge = edge) ↔ edge ∈ edges := by
  have said : (edgeRows ids authorUserId edges).map EdgeRow.edge = edges := by
    rw [edgeRows, List.map_map]
    exact List.zipIdx_map_fst 0 edges
  rw [← List.mem_map, said]

/-- What is active after a publish: the rows it keeps and those it adds. -/
structure PolicyOutcome (wanted : WantedPolicy) (state next : OrgState) : Prop where
  settings : activeContents next.settings.rows =
    if (difference wanted state).settingsChanged then [wanted.settings]
    else activeContents state.settings.rows
  groups : ∀ group, group ∈ activeContents next.groups.rows ↔
    group ∈ activeContents state.groups.rows ∧ wanted.hasGroup group.id = true ∨
      group ∈ (difference wanted state).groupsAdded
  groupMembers : ∀ member, member ∈ activeContents next.groupMembers.rows ↔
    member ∈ activeContents state.groupMembers.rows ∧ wanted.hasMember member = true ∨
      member ∈ (difference wanted state).membersAdded
  grants : ∀ grant, grant ∈ next.activeGrants ↔
    grant ∈ state.activeGrants ∧ wanted.grants.contains grant = true ∨
      grant ∈ (difference wanted state).grantsAdded
  edges : ∀ edge, edge ∈ next.activeEdges ↔
    edge ∈ state.activeEdges ∧ wanted.edges.contains edge = true ∨
      edge ∈ (difference wanted state).edgesAdded

variable {next : OrgState}

theorem written_outcome {reason : Option String}
    (written : PolicyWritten ids authorUserId reason wanted (difference wanted state) state next) :
    PolicyOutcome wanted state next where
  settings := (write_settings_ok written.settings).2
  groups := fun group => @mem_active_replaced _ _ (fun group => wanted.hasGroup group.id) _ _ _
    (written_groups written) group
  groupMembers := fun member => mem_active_replaced (written_members written)
  grants := by
    intro grant
    have rows (row : GrantRow) := @mem_active_replaced _ _
      (fun row => wanted.grants.contains row.grant) _ _ _ (written_grants written) row
    unfold OrgState.activeGrants activeRows
    simp only [List.mem_map, rows]
    rw [← @mem_grant_rows ids authorUserId]
    constructor
    · intro ⟨row, held, stated⟩
      cases held with
      | inl kept => exact .inl ⟨⟨row, kept.1, stated⟩, stated ▸ kept.2⟩
      | inr new => exact .inr ⟨row, new, stated⟩
    · intro held
      cases held with
      | inl kept =>
        obtain ⟨⟨row, present, stated⟩, keeps⟩ := kept
        exact ⟨row, .inl ⟨present, stated ▸ keeps⟩, stated⟩
      | inr new =>
        obtain ⟨row, present, stated⟩ := new
        exact ⟨row, .inr present, stated⟩
  edges := by
    intro edge
    have rows (row : EdgeRow) := @mem_active_replaced _ _
      (fun row => wanted.edges.contains row.edge) _ _ _ (written_edges written) row
    unfold OrgState.activeEdges activeRows
    simp only [List.mem_map, rows]
    rw [← @mem_edge_rows ids authorUserId]
    constructor
    · intro ⟨row, held, stated⟩
      cases held with
      | inl kept => exact .inl ⟨⟨row, kept.1, stated⟩, stated ▸ kept.2⟩
      | inr new => exact .inr ⟨row, new, stated⟩
    · intro held
      cases held with
      | inl kept =>
        obtain ⟨⟨row, present, stated⟩, keeps⟩ := kept
        exact ⟨row, .inl ⟨present, stated ▸ keeps⟩, stated⟩
      | inr new =>
        obtain ⟨row, present, stated⟩ := new
        exact ⟨row, .inr present, stated⟩

theorem mem_unchanged {held added ended : List Content} {kept : Content → Bool}
    (ends : ended = held.filter fun content => !kept content) (nothingEnds : ended = [])
    (nothingAdded : added = []) {content : Content} :
    content ∈ held ↔ content ∈ held ∧ kept content = true ∨ content ∈ added := by
  rw [nothingAdded, List.mem_nil_iff, or_false]
  constructor
  · intro present
    apply And.intro present
    by_contra dropped
    have there : content ∈ ended := by
      rw [ends]
      exact List.mem_filter.mpr ⟨present, by simpa using dropped⟩
    rw [nothingEnds] at there
    cases there
  · intro present
    exact present.1

theorem unchanged_outcome (same : (difference wanted state).isEmpty = true) :
    PolicyOutcome wanted state state := by
  simp only [PolicyDifference.isEmpty, PolicyDifference.changesGroups, Bool.and_eq_true,
    Bool.not_eq_true', Bool.not_eq_false', List.isEmpty_iff] at same
  obtain ⟨⟨⟨⟨⟨settings, groups⟩, grantsAdded⟩, grantsEnded⟩, edgesAdded⟩, edgesEnded⟩ := same
  constructor
  · rw [settings]
    rfl
  · intro group
    exact mem_unchanged rfl groups.1.1.2 groups.1.1.1
  · intro member
    exact mem_unchanged rfl groups.2 groups.1.2
  · intro grant
    exact mem_unchanged rfl grantsEnded grantsAdded
  · intro edge
    exact mem_unchanged rfl edgesEnded edgesAdded

theorem published_outcome {role : OrgRole} {reason : Option String} {revision : Nat}
    (published : Published ids role authorUserId reason wanted state revision next) :
    PolicyOutcome wanted state next := by
  cases published with
  | unchanged same => exact unchanged_outcome same
  | written next differs authorized writes => exact written_outcome writes

theorem kept_or_added [DecidableEq Content] {held wanted : List Content} {content : Content} :
    content ∈ held ∧ wanted.contains content = true ∨
        content ∈ wanted.filter (fun content => !held.contains content) ↔
      content ∈ wanted := by
  rw [List.contains_iff_mem, List.mem_filter, Bool.not_eq_true', ← Bool.not_eq_true,
    List.contains_iff_mem]
  by_cases present : content ∈ held
  · simp [present]
  · simp [present]

theorem held_group_wanted {state : OrgState} {held group : Group}
    (names : keepsName state group = true) (present : held ∈ activeRows state.groups)
    (same : held.id = group.id) : held = group := by
  have named := List.all_eq_true.mp names held present
  simp only [same, bne_self_eq_false, Bool.false_or, beq_iff_eq] at named
  cases held
  cases group
  simp_all

/-- After a publish exactly the wanted terms are active. -/
theorem published_terms (outcome : PolicyOutcome wanted state next)
    (names : ∀ group ∈ wanted.groups, keepsName state group = true) :
    next.heldContents.terms.Same wanted.terms where
  groups := by
    intro group
    rw [show group ∈ next.heldContents.terms.groups ↔ _ from outcome.groups group]
    constructor
    · intro held
      cases held with
      | inl kept =>
        obtain ⟨listed, there, same⟩ := has_group.mp kept.2
        rw [@held_group_wanted _ _ _ (names listed there) kept.1 same.symm]
        exact there
      | inr added => exact (List.mem_filter.mp added).1
    · intro there
      by_cases known : ∃ held ∈ activeRows state.groups, held.id = group.id
      · obtain ⟨held, present, same⟩ := known
        rw [@held_group_wanted _ _ _ (names group there) present same] at present
        exact .inl ⟨present, has_group.mpr ⟨group, there, rfl⟩⟩
      · refine .inr (List.mem_filter.mpr ⟨there, ?_⟩)
        simpa using known
  groupMembers := by
    intro member
    rw [show member ∈ next.heldContents.terms.groupMembers ↔ _ from outcome.groupMembers member]
    exact kept_or_added
  grants := by
    intro grant
    rw [show grant ∈ next.heldContents.terms.grants ↔ _ from outcome.grants grant]
    exact kept_or_added
  edges := by
    intro edge
    rw [show edge ∈ next.heldContents.terms.edges ↔ _ from outcome.edges edge]
    exact kept_or_added

theorem published_settings (outcome : PolicyOutcome wanted state next)
    (oneActive : ∃ held, activeContents state.settings.rows = [held]) :
    activeContents next.settings.rows = [wanted.settings] := by
  rw [outcome.settings]
  cases changed : (difference wanted state).settingsChanged with
  | true => rfl
  | false =>
    obtain ⟨held, one⟩ := oneActive
    have there : wanted.settings ∈ activeContents state.settings.rows := by
      simpa [difference, activeRows] using changed
    rw [one, List.mem_singleton] at there
    rw [there]
    exact one

end Hivra.AgentNetwork
