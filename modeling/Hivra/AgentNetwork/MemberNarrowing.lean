import Hivra.AgentNetwork.CeilingAgreement
import Mathlib.Data.String.Basic

/-!
# Members only narrow

A member who publishes changes narrowing rows of their own agents.  The ceiling rows
stay, so nothing is allowed that the ceilings alone would not allow, and the memory
answers of other principals stay as they are.
-/

namespace Hivra.AgentNetwork

open Hivra.Library

structure SameCeilings (casing : Casing) (left right : PolicySnapshot) : Prop where
  org : left.orgId = right.orgId
  settings : left.settings = right.settings
  leftRevision : 1 ≤ left.revision
  rightRevision : 1 ≤ right.revision
  grants : ∀ principalId source,
    ceilingGrants casing left principalId source = ceilingGrants casing right principalId source
  edges : ∀ sender receiver,
    edgesBetween casing left .ceiling sender receiver =
      edgesBetween casing right .ceiling sender receiver

variable {settings : PolicySettings}

variable {principal : PrincipalFacts}

theorem admitted_same {casing : Casing} {left right : PolicySnapshot}
    (same : SameCeilings casing left right) (admitted : Admitted casing left settings principal) :
    Admitted casing right settings principal where
  usable := by
    have usable := admitted.usable
    unfold usablePolicy at usable ⊢
    rw [← same.org, ← same.settings]
    exact usable
  revision := same.rightRevision
  org := by
    rw [← same.org]
    exact admitted.org
  enabled := admitted.enabled
  running := admitted.running
  joined := admitted.joined
  active := admitted.active

theorem brain_permission {casing : Casing} {policy : PolicySnapshot} {needed : Nat}
    {resource : String} : (evaluateBrain casing policy principal needed resource).permission =
      if (evaluateBrain casing policy principal needed resource).allow then 2 else 0 := by
  unfold Decision.permission
  rw [brain_not_approval]
  rfl

def PolicySnapshot.withoutNarrow (policy : PolicySnapshot) : PolicySnapshot :=
  { policy with
    grants := policy.grants.filter fun grant => grant.layer != .narrow
    edges := policy.edges.filter fun edge => edge.layer != .narrow }

section Bare

variable {casing : Casing} {policy : PolicySnapshot}

theorem ceiling_grants_bare (principalId source : String) :
    ceilingGrants casing policy.withoutNarrow principalId source =
      ceilingGrants casing policy principalId source := by
  unfold ceilingGrants PolicySnapshot.withoutNarrow
  rw [List.filter_filter]
  apply List.filter_congr
  intro grant _
  cases grant.layer with
  | ceiling => simp only [grantApplies, groupsOf]; simp
  | narrow => simp

theorem edges_between_bare (sender receiver : String) :
    edgesBetween casing policy.withoutNarrow .ceiling sender receiver =
      edgesBetween casing policy .ceiling sender receiver := by
  unfold edgesBetween PolicySnapshot.withoutNarrow
  rw [List.filter_filter]
  apply List.filter_congr
  intro edge _
  cases edge.layer with
  | ceiling => simp
  | narrow => simp

theorem narrow_grants_bare (principalId source : String) :
    narrowGrants casing policy.withoutNarrow principalId source = [] := by
  unfold narrowGrants PolicySnapshot.withoutNarrow
  rw [List.filter_filter, List.filter_eq_nil_iff]
  intro grant _
  cases grant.layer with
  | ceiling => simp
  | narrow => simp

theorem narrow_edges_bare (sender receiver : String) :
    edgesBetween casing policy.withoutNarrow .narrow sender receiver = [] := by
  unfold edgesBetween PolicySnapshot.withoutNarrow
  rw [List.filter_filter, List.filter_eq_nil_iff]
  intro edge _
  cases edge.layer with
  | ceiling => simp
  | narrow => simp

end Bare

section Compared

variable {casing : Casing} {after before : PolicySnapshot}

theorem same_ceilings_bare (same : SameCeilings casing after before) :
    SameCeilings casing after before.withoutNarrow where
  org := same.org
  settings := same.settings
  leftRevision := same.leftRevision
  rightRevision := same.rightRevision
  grants := fun principalId source =>
    (same.grants principalId source).trans (ceiling_grants_bare principalId source).symm
  edges := fun sender receiver =>
    (same.edges sender receiver).trans (edges_between_bare sender receiver).symm

variable {principal : PrincipalFacts}

theorem brain_narrows (same : SameCeilings casing after before) {needed : Nat} {resource : String} :
    (evaluateBrain casing after principal needed resource).permission ≤
      (evaluateBrain casing before.withoutNarrow principal needed resource).permission := by
  rw [brain_permission, brain_permission]
  by_cases allowed : (evaluateBrain casing after principal needed resource).allow = true
  · have given := brain_allows.mp allowed
    have ceilings := (same_ceilings_bare same).grants principal.principalId
      (casing.toLowerCase resource)
    have bare : (evaluateBrain casing before.withoutNarrow principal needed resource).allow =
        true := by
      apply brain_allows.mpr
      rw [← ceilings, narrow_grants_bare]
      exact ⟨given.1, given.2.1, fun row member => by cases member⟩
    rw [allowed, bare]
  · rw [if_neg allowed]
    exact Nat.zero_le _

theorem send_narrows (same : SameCeilings casing after before) {resource : Option PrincipalFacts} :
    (evaluateSend casing after settings principal resource).permission ≤
      (evaluateSend casing before.withoutNarrow settings principal resource).permission := by
  by_cases denied : (evaluateSend casing after settings principal resource).permission = 0
  · rw [denied]
    exact Nat.zero_le _
  · obtain ⟨peer, rfl, reached⟩ := send_granted denied
    have bareReached : PeerReached casing before.withoutNarrow principal peer := by
      constructor
      · rw [← (same_ceilings_bare same).org]
        exact reached.org
      · exact reached.other
      · exact reached.joined
      · exact reached.active
    have positive := Nat.one_le_iff_ne_zero.mpr denied
    have ⟨ceilings, ranks⟩ := (send_rank reached positive).mp (Nat.le_refl _)
    apply (send_rank bareReached positive).mpr
    unfold edgesOf at ranks ⊢
    rw [narrow_edges_bare, List.append_nil, ← (same_ceilings_bare same).edges]
    exact ⟨ceilings, fun edge member => ranks edge (List.mem_append_left _ member)⟩

theorem permission_narrows (same : SameCeilings casing after before)
    (principal : Option PrincipalFacts) (action : NetworkAction) (resource : NetworkResource) :
    (evaluate casing (some after) principal action resource).permission ≤
      (evaluate casing (some before.withoutNarrow) principal action resource).permission := by
  cases principal with
  | none =>
    have denied : (evaluate casing (some after) none action resource).permission = 0 := by
      unfold evaluate
      dsimp only
      split
      · rfl
      · split <;> rfl
    rw [denied]
    exact Nat.zero_le _
  | some principal =>
    obtain ⟨settings, admitted⟩ | refused := evaluate_cases casing after principal
    · rw [evaluate_admitted admitted,
        evaluate_admitted (admitted_same (same_ceilings_bare same) admitted)]
      unfold evaluateAction
      split
      · exact brain_narrows same
      · exact brain_narrows same
      · exact send_narrows same
      · exact Nat.le_refl _
      · exact Nat.le_refl _
    · rw [(refused action resource).1]
      exact Nat.zero_le _

end Compared

structure LimitsWithin (limits : EdgeLimits) (edge : PolicyEdge) : Prop where
  messages : ∀ limit, edge.maxMessagesPerHour = some limit →
    ∃ given, limits.maxMessagesPerHour = some given ∧ given ≤ limit
  runs : ∀ limit, edge.maxConcurrentRuns = some limit →
    ∃ given, limits.maxConcurrentRuns = some given ∧ given ≤ limit

theorem edge_limits_within {rows : List PolicyEdge} {edge : PolicyEdge} (member : edge ∈ rows) :
    LimitsWithin (edgeLimits settings rows) edge := by
  constructor
  · intro limit isLimit
    apply least_of_le
    rw [← isLimit]
    exact List.mem_map_of_mem member
  · intro limit isLimit
    apply least_of_le
    rw [← isLimit]
    exact List.mem_map_of_mem member

theorem evaluate_send_limits {casing : Casing} {policy : PolicySnapshot} {principal : PrincipalFacts}
    {peer : Option PrincipalFacts}
    (granted : (evaluate casing (some policy) (some principal) .a2aSend
      (.principal peer)).permission ≠ 0) :
    ∃ receiver limits, peer = some receiver ∧
      (evaluate casing (some policy) (some principal) .a2aSend (.principal peer)).limits =
        some limits ∧
      ∀ edge ∈ edgesOf casing policy principal receiver, LimitsWithin limits edge := by
  obtain ⟨settings, admitted⟩ | refused := evaluate_cases casing policy principal
  · rw [evaluate_admitted admitted] at granted ⊢
    change (evaluateSend casing policy settings principal peer).permission ≠ 0 at granted
    obtain ⟨receiver, rfl, reached⟩ := send_granted granted
    exact ⟨receiver, _, rfl, send_limits reached granted, fun edge => edge_limits_within⟩
  · exact absurd (refused _ _).1 granted

section Untouched

variable {ids : RowIds} {role : OrgRole} {authorUserId : String} {reason : Option String}
variable {wanted : WantedPolicy} {state next : OrgState} {revision : Nat}

theorem grant_row_stays
    (published : Published ids role authorUserId reason wanted state revision next) {row : GrantRow}
    (notAdded : row.grant ∉ (difference wanted state).grantsAdded)
    (notEnded : row.grant ∉ (difference wanted state).grantsEnded) :
    row ∈ next.heldContents.grants ↔ row ∈ state.heldContents.grants := by
  cases published with
  | unchanged same => exact Iff.rfl
  | written next differs authorized writes =>
    apply Iff.trans (@mem_active_replaced _ _ (fun row => wanted.grants.contains row.grant) _ _ _
      (written_grants writes) row)
    constructor
    · intro held
      cases held with
      | inl kept => exact kept.1
      | inr added =>
        exact absurd (mem_grant_rows.mp ⟨row, added, rfl⟩) notAdded
    · intro held
      apply Or.inl
      apply And.intro held
      by_contra dropped
      apply notEnded
      exact List.mem_filter.mpr ⟨List.mem_map_of_mem held, by simpa using dropped⟩

theorem edge_row_stays
    (published : Published ids role authorUserId reason wanted state revision next) {row : EdgeRow}
    (notAdded : row.edge ∉ (difference wanted state).edgesAdded)
    (notEnded : row.edge ∉ (difference wanted state).edgesEnded) :
    row ∈ next.heldContents.edges ↔ row ∈ state.heldContents.edges := by
  cases published with
  | unchanged same => exact Iff.rfl
  | written next differs authorized writes =>
    apply Iff.trans (@mem_active_replaced _ _ (fun row => wanted.edges.contains row.edge) _ _ _
      (written_edges writes) row)
    constructor
    · intro held
      cases held with
      | inl kept => exact kept.1
      | inr added =>
        exact absurd (mem_edge_rows.mp ⟨row, added, rfl⟩) notAdded
    · intro held
      apply Or.inl
      apply And.intro held
      by_contra dropped
      apply notEnded
      exact List.mem_filter.mpr ⟨List.mem_map_of_mem held, by simpa using dropped⟩

structure MemberChanges (authorUserId : String) (changes : PolicyDifference) (state : OrgState) :
    Prop where
  settings : changes.settingsChanged = false
  groups : changes.changesGroups = false
  grantLayers : ∀ grant, grant ∈ changes.grantsAdded ∨ grant ∈ changes.grantsEnded →
    grant.layer = .narrow
  grantOwners : ∀ grant, grant ∈ changes.grantsAdded ∨ grant ∈ changes.grantsEnded →
    ∃ principalId, grant.principalId = some principalId ∧ state.owns authorUserId principalId = true
  edgeLayers : ∀ edge, edge ∈ changes.edgesAdded ∨ edge ∈ changes.edgesEnded →
    edge.layer = .narrow
  edgeOwners : ∀ edge, edge ∈ changes.edgesAdded ∨ edge ∈ changes.edgesEnded →
    state.owns authorUserId edge.fromPrincipalId = true ∨
      state.owns authorUserId edge.toPrincipalId = true

theorem layer_narrow {layer : PolicyLayer} (below : (layer == .ceiling) = false) :
    layer = .narrow := by
  cases layer with
  | ceiling => cases below
  | narrow => rfl

theorem may_publish_member {changes : PolicyDifference}
    (allowed : mayPublish .member authorUserId changes state = true) :
    MemberChanges authorUserId changes state := by
  unfold mayPublish PolicyDifference.touchesCeiling at allowed
  simp only [bne_self_eq_false, Bool.false_or, Bool.and_eq_true, Bool.not_eq_true',
    Bool.or_eq_false_iff, List.all_eq_true, List.mem_append, List.any_eq_false, beq_iff_eq,
    Bool.or_eq_true, Option.any_eq_true] at allowed
  obtain ⟨⟨⟨⟨⟨settings, groups⟩, grantLayers⟩, edgeLayers⟩, grantOwners⟩, edgeOwners⟩ := allowed
  exact
    { settings
      groups
      grantLayers := fun grant there => layer_narrow (by simpa using grantLayers grant there)
      grantOwners
      edgeLayers := fun edge there => layer_narrow (by simpa using edgeLayers edge there)
      edgeOwners }

theorem unchanged_member (same : (difference wanted state).isEmpty = true) :
    MemberChanges authorUserId (difference wanted state) state := by
  simp only [PolicyDifference.isEmpty, Bool.and_eq_true, Bool.not_eq_true', List.isEmpty_iff]
    at same
  obtain ⟨⟨⟨⟨⟨settings, groups⟩, grantsAdded⟩, grantsEnded⟩, edgesAdded⟩, edgesEnded⟩ := same
  constructor
  · exact settings
  · exact groups
  all_goals
    intro row there
    simp only [grantsAdded, grantsEnded, edgesAdded, edgesEnded, List.not_mem_nil, or_self] at there

theorem published_member (published : Published ids role authorUserId reason wanted state revision next)
    (member : role = .member) : MemberChanges authorUserId (difference wanted state) state := by
  cases published with
  | unchanged same => exact unchanged_member same
  | written next differs authorized writes =>
    rw [member] at authorized
    exact may_publish_member (authorize_changes_ok authorized).1

end Untouched

theorem active_ids {Content Key : Type} {entries : Versioned Content → List Key}
    (table : Table entries) {id : Content → Uuid}
    (apart : ∀ left right, Apart entries left right → id left.content ≠ id right.content) :
    ((activeContents table.rows).map fun content => (id content).text).Nodup := by
  unfold activeContents
  rw [List.map_map, List.Nodup, List.pairwise_map]
  apply (table.unique.filter _).imp
  intro left right leftRight same
  exact apart left right leftRight (Uuid.ext same)

theorem held_grant_ids (state : OrgState) :
    (state.heldContents.grants.map fun row => row.id.text).Nodup := by
  apply active_ids state.grants
  intro left right apart same
  apply apart (.id left.content.id) List.mem_cons_self
  rw [same]
  exact List.mem_cons_self

theorem held_edge_ids (state : OrgState) :
    (state.heldContents.edges.map fun row => row.id.text).Nodup := by
  apply active_ids state.edges
  intro left right apart same
  apply apart (.id left.content.id) List.mem_cons_self
  rw [same]
  exact List.mem_cons_self

section Snapshots

variable {casing : Casing} {orgId : Uuid} {after before : PolicyContents}
variable {afterRevision beforeRevision : Nat}

theorem snapshot_grants_same {keep : PolicyGrant → Bool}
    (afterIds : (after.grants.map fun row => row.id.text).Nodup)
    (beforeIds : (before.grants.map fun row => row.id.text).Nodup)
    (same : ∀ row : GrantRow, keep row.snapshot = true →
      (row ∈ after.grants ↔ row ∈ before.grants)) :
    (snapshotOf orgId afterRevision after).grants.filter keep =
      (snapshotOf orgId beforeRevision before).grants.filter keep := by
  unfold snapshotOf
  dsimp only
  rw [List.filter_map, List.filter_map]
  exact congrArg (List.map GrantRow.snapshot) (filter_sorted_same afterIds beforeIds same)

theorem snapshot_edges_same {keep : PolicyEdge → Bool}
    (afterIds : (after.edges.map fun row => row.id.text).Nodup)
    (beforeIds : (before.edges.map fun row => row.id.text).Nodup)
    (same : ∀ row : EdgeRow, keep row.snapshot = true →
      (row ∈ after.edges ↔ row ∈ before.edges)) :
    (snapshotOf orgId afterRevision after).edges.filter keep =
      (snapshotOf orgId beforeRevision before).edges.filter keep := by
  unfold snapshotOf
  dsimp only
  rw [List.filter_map, List.filter_map]
  exact congrArg (List.map EdgeRow.snapshot) (filter_sorted_same afterIds beforeIds same)

theorem grant_applies_same
    (members : ∀ member, member ∈ after.groupMembers ↔ member ∈ before.groupMembers)
    (principalId source : String) :
    grantApplies casing (snapshotOf orgId afterRevision after) principalId source =
      grantApplies casing (snapshotOf orgId beforeRevision before) principalId source := by
  have groups : ∀ groupId,
      (groupsOf casing (snapshotOf orgId afterRevision after) principalId).contains groupId =
        (groupsOf casing (snapshotOf orgId beforeRevision before) principalId).contains groupId := by
    intro groupId
    rw [Bool.eq_iff_iff, List.contains_iff_mem, List.contains_iff_mem]
    unfold groupsOf
    simp only [List.mem_map, List.mem_filter, mem_snapshot_members, members]
  funext grant
  unfold grantApplies
  simp only [groups]

end Snapshots

section Member

variable {ids : RowIds} {authorUserId : String} {reason : Option String} {wanted : WantedPolicy}
variable {state next : OrgState} {revision : Nat}

theorem groups_stay (outcome : PolicyOutcome wanted state next)
    (changes : MemberChanges authorUserId (difference wanted state) state) (member : GroupMember) :
    member ∈ next.heldContents.groupMembers ↔ member ∈ state.heldContents.groupMembers := by
  have nothing := changes.groups
  simp only [PolicyDifference.changesGroups, Bool.not_eq_false', Bool.and_eq_true,
    List.isEmpty_iff] at nothing
  apply (outcome.groupMembers member).trans
  exact (mem_unchanged rfl nothing.2 nothing.1.2).symm

theorem settings_stay (outcome : PolicyOutcome wanted state next)
    (changes : MemberChanges authorUserId (difference wanted state) state) :
    next.heldContents.settings = state.heldContents.settings := by
  have same := outcome.settings
  rw [changes.settings] at same
  exact same

theorem member_same_ceilings (casing : Casing) (orgId : Uuid)
    (published : Published ids .member authorUserId reason wanted state revision next)
    (kept : PolicyKept state) (nextKept : PolicyKept next) :
    SameCeilings casing (snapshotOf orgId next.currentRevision next.heldContents)
      (snapshotOf orgId state.currentRevision state.heldContents) := by
  have changes := published_member published rfl
  have outcome := published_outcome published
  constructor
  · rfl
  · unfold snapshotOf
    rw [settings_stay outcome changes]
  · exact current_positive nextKept
  · exact current_positive kept
  · intro principalId source
    unfold ceilingGrants
    rw [grant_applies_same (groups_stay outcome changes)]
    apply snapshot_grants_same (held_grant_ids next) (held_grant_ids state)
    intro row kept
    rw [Bool.and_eq_true, beq_iff_eq] at kept
    have ceiling : row.grant.layer = .ceiling := kept.1
    apply grant_row_stays published
    · intro added
      have narrow := changes.grantLayers row.grant (.inl added)
      rw [ceiling] at narrow
      cases narrow
    · intro ended
      have narrow := changes.grantLayers row.grant (.inr ended)
      rw [ceiling] at narrow
      cases narrow
  · intro sender receiver
    unfold edgesBetween
    apply snapshot_edges_same (held_edge_ids next) (held_edge_ids state)
    intro row kept
    rw [Bool.and_eq_true, beq_iff_eq] at kept
    have ceiling : row.edge.layer = .ceiling := kept.1
    apply edge_row_stays published
    · intro added
      have narrow := changes.edgeLayers row.edge (.inl added)
      rw [ceiling] at narrow
      cases narrow
    · intro ended
      have narrow := changes.edgeLayers row.edge (.inr ended)
      rw [ceiling] at narrow
      cases narrow

def NotOwned (casing : Casing) (state : OrgState) (authorUserId principalId : String) : Prop :=
  ∀ principal ∈ state.principals, Names casing principal.id principalId →
    principal.ownerUserId ≠ authorUserId

theorem member_same_narrowing {casing : Casing} (orgId : Uuid)
    (published : Published ids .member authorUserId reason wanted state revision next)
    {principalId : String} (notOwned : NotOwned casing state authorUserId principalId)
    (source : String) :
    narrowGrants casing (snapshotOf orgId next.currentRevision next.heldContents) principalId
        source =
      narrowGrants casing (snapshotOf orgId state.currentRevision state.heldContents) principalId
        source := by
  have changes := published_member published rfl
  unfold narrowGrants
  apply snapshot_grants_same (held_grant_ids next) (held_grant_ids state)
  intro row kept
  simp only [Bool.and_eq_true, GrantRow.snapshot, Option.any_map, Option.any_eq_true] at kept
  obtain ⟨⟨_, holder, isHolder, named⟩, _⟩ := kept
  -- A row of the principal is changed only by its owner.
  have untouched : ¬(row.grant ∈ (difference wanted state).grantsAdded ∨
      row.grant ∈ (difference wanted state).grantsEnded) := by
    intro touched
    obtain ⟨owned, isOwned, owns⟩ := changes.grantOwners row.grant touched
    rw [isHolder, Option.some.injEq] at isOwned
    subst isOwned
    simp only [OrgState.owns, List.any_eq_true, Bool.and_eq_true, beq_iff_eq] at owns
    obtain ⟨principal, present, isPrincipal, ofAuthor⟩ := owns
    rw [← isPrincipal] at named
    exact notOwned principal present named ofAuthor
  exact grant_row_stays published (fun added => untouched (.inl added))
    (fun ended => untouched (.inr ended))

end Member

/-- What a member's publish can do to the decisions: nothing is permitted that the
earlier ceilings would not permit, limits stay under the ceiling's, and the memory
answers of the others stay. -/
structure MemberOnlyNarrows (casing : Casing) (authorUserId : String) (state : OrgState)
    (before after : PolicySnapshot) : Prop where
  permission : ∀ principal action resource,
    (evaluate casing (some after) principal action resource).permission ≤
      (evaluate casing (some before.withoutNarrow) principal action resource).permission
  limits : ∀ principal peer,
    (evaluate casing (some after) (some principal) .a2aSend (.principal peer)).permission ≠ 0 →
      ∃ receiver limits, peer = some receiver ∧
        (evaluate casing (some after) (some principal) .a2aSend (.principal peer)).limits =
          some limits ∧
        ∀ ceiling ∈ edgesBetween casing after .ceiling principal.principalId receiver.principalId,
          LimitsWithin limits ceiling
  memory : ∀ principal, NotOwned casing state authorUserId principal.principalId →
    ∀ action resource, action = .brainRead ∨ action = .brainWrite →
      (evaluate casing (some after) (some principal) action resource).answer =
        (evaluate casing (some before) (some principal) action resource).answer

/-- Whatever a run has reached, a publish of a member only narrows, and only the
memory access of the member's own agents. -/
theorem members_only_narrow (history : List NetworkEvent) (casing : Casing)
    {org : Organization} (member : org ∈ (Network.empty.after history).organizations)
    {call : PublishCall} {ids : RowIds} {revision : Nat} {state : OrgState}
    (published : publishPolicyRevision call ids org.state = .ok (revision, state))
    {authorUserId : String} (author : call.authorUserId = some authorUserId)
    (role : org.state.role? authorUserId = some .member) :
    ∃ before after, policySnapshot org org.state.currentRevision = some before ∧
      policySnapshot { org with state } revision = some after ∧
      MemberOnlyNarrows casing authorUserId org.state before after := by
  have kept := reached_kept history org member
  obtain ⟨_, _, document, wanted, isAuthor, isRole, asked, read, checks, writes⟩ :=
    publish_ok published
  rw [author, Option.some.injEq] at isAuthor
  subst isAuthor
  rw [role, Option.some.injEq] at isRole
  subst isRole
  have ⟨nextKept, _⟩ := publish_kept read checks writes kept
  have newest := @newest_snapshot { org with state } nextKept
  have current : state.currentRevision = revision := by
    cases writes with
    | unchanged nothing => rfl
    | written next differs allowed written => rfl
  dsimp only at newest
  have same := member_same_ceilings casing org.id writes kept nextKept
  have narrowing := @member_same_narrowing _ _ _ _ _ _ _ casing org.id writes
  rw [current] at newest same narrowing
  refine ⟨_, _, newest_snapshot kept, newest, ?_⟩
  constructor
  · intro principal action resource
    exact permission_narrows same principal action resource
  · intro principal peer granted
    obtain ⟨receiver, limits, isPeer, isLimits, within⟩ := evaluate_send_limits granted
    exact ⟨receiver, limits, isPeer, isLimits,
      fun ceiling there => within ceiling (List.mem_append_left _ there)⟩
  · intro principal notOwned action resource isMemory
    apply evaluate_answer_congr same.org same.settings same.leftRevision same.rightRevision
    intro settings
    unfold evaluateAction
    split
    · exact brain_answer_congr (same.grants _ _) (narrowing notOwned _)
    · exact brain_answer_congr (same.grants _ _) (narrowing notOwned _)
    · cases isMemory with
      | inl isRead => cases isRead
      | inr isWrite => cases isWrite
    · rfl
    · rfl

/-- So does Bob's publish to the team. -/
theorem bob_only_narrows : ∃ org ∈ (Network.empty.after teamHistory).organizations,
    ∃ state before after, policySnapshot org org.state.currentRevision = some before ∧
      policySnapshot { org with state } 3 = some after ∧
      MemberOnlyNarrows .asciiOnly "bob" org.state before after := by
  obtain ⟨org, member, state, published⟩ := narrowed_accepted
  have roles : ∀ org ∈ (Network.empty.after teamHistory).organizations.rows,
      org.state.role? "bob" = some .member := by
    decide +kernel
  obtain ⟨before, after, newest, next, narrows⟩ :=
    members_only_narrow teamHistory .asciiOnly member published rfl (roles org member)
  exact ⟨org, member, state, before, after, newest, next, narrows⟩

end Hivra.AgentNetwork
