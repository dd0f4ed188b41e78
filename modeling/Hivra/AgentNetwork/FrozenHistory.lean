import Hivra.AgentNetwork.PolicyShape

/-!
# The policy history over runs

In every state a run reaches the held policy has its shape and names no principal
that has left, and whatever comes later leaves the snapshots of its revisions as
they are.
-/

namespace Hivra.AgentNetwork

open Hivra.Library

/-- What every call keeps of an organization. -/
structure PolicyKept (state : OrgState) : Prop where
  history : PolicyHistory state
  shape : PolicyShape state.heldContents.terms
  live : PolicyLive state state.heldContents.terms

structure PolicyRowsSame (state next : OrgState) : Prop where
  revision : next.currentRevision = state.currentRevision
  revisions : next.revisions = state.revisions
  settings : next.settings = state.settings
  groups : next.groups = state.groups
  groupMembers : next.groupMembers = state.groupMembers
  grants : next.grants = state.grants
  edges : next.edges = state.edges

variable {state next : OrgState} {principalId : Uuid} {toState : PrincipalState}
    {org : Organization}

theorem contents_same (same : PolicyRowsSame state next) :
    next.heldContents = state.heldContents := by
  unfold OrgState.heldContents
  rw [same.settings, same.groups, same.groupMembers, same.grants, same.edges]

theorem extends_same (same : PolicyRowsSame state next) : Extends state next := by
  constructor
  · exact Nat.le_of_eq same.revision.symm
  · intro revision _
    unfold OrgState.contentsAt
    rw [same.settings, same.groups, same.groupMembers, same.grants, same.edges]

theorem history_same (same : PolicyRowsSame state next) (history : PolicyHistory state) :
    PolicyHistory next := by
  constructor
  · rw [same.revisions, same.revision]
    exact history.revisions
  · rw [same.settings, same.revision]
    exact history.settings
  · rw [same.groups, same.revision]
    exact history.groups
  · rw [same.groupMembers, same.revision]
    exact history.groupMembers
  · rw [same.grants, same.revision]
    exact history.grants
  · rw [same.edges, same.revision]
    exact history.edges
  · rw [same.settings]
    exact history.oneActive

theorem is_live : state.isLive principalId = true ↔
      ∃ principal ∈ state.principals, principal.id = principalId ∧ principal.state ≠ .left := by
  simp only [OrgState.isLive, List.any_eq_true, Bool.and_eq_true, beq_iff_eq, bne_iff_ne,
    Table.mem_rows]

theorem live_more {terms : PolicyTerms} (live : PolicyLive state terms)
    (more : ∀ principalId, state.isLive principalId = true → next.isLive principalId = true) :
    PolicyLive next terms where
  groupMembers := fun member present => more _ (live.groupMembers member present)
  grants := fun grant present principalId holder =>
    more _ (live.grants grant present principalId holder)
  senders := fun edge present => more _ (live.senders edge present)
  receivers := fun edge present => more _ (live.receivers edge present)

theorem kept_same (kept : PolicyKept state) (same : PolicyRowsSame state next)
    (more : ∀ principalId, state.isLive principalId = true → next.isLive principalId = true) :
    PolicyKept next where
  history := history_same same kept.history
  shape := by
    rw [contents_same same]
    exact kept.shape
  live := by
    rw [contents_same same]
    exact live_more kept.live more

structure NotNamed (principalId : Uuid) (terms : PolicyTerms) : Prop where
  groupMembers : ∀ member ∈ terms.groupMembers, member.principalId ≠ principalId
  grants : ∀ grant ∈ terms.grants, grant.principalId ≠ some principalId
  senders : ∀ edge ∈ terms.edges, edge.fromPrincipalId ≠ principalId
  receivers : ∀ edge ∈ terms.edges, edge.toPrincipalId ≠ principalId

theorem live_moved {other : Uuid} (live : state.isLive other = true)
    (stays : other ≠ principalId ∨ toState ≠ .left) :
    (state.setPrincipalState principalId toState).isLive other = true := by
  obtain ⟨principal, present, named, notLeft⟩ := is_live.mp live
  rw [is_live]
  unfold OrgState.setPrincipalState
  simp only [Table.mem_rewrite, beq_iff_eq]
  by_cases moved : principal.id = principalId
  · refine ⟨_, ⟨principal, present, if_pos moved⟩, named, ?_⟩
    cases stays with
    | inl different =>
      rw [named] at moved
      exact absurd moved different
    | inr stays => exact stays
  · exact ⟨principal, ⟨principal, present, if_neg moved⟩, named, notLeft⟩

theorem policy_live_moved {state : OrgState} {terms : PolicyTerms} {principalId : Uuid}
    {toState : PrincipalState} (live : PolicyLive state terms)
    (unnamed : toState = .left → NotNamed principalId terms) :
    PolicyLive (state.setPrincipalState principalId toState) terms := by
  by_cases leaves : toState = .left
  · have unnamed := unnamed leaves
    exact
      { groupMembers := fun member present =>
          live_moved (live.groupMembers member present) (.inl (unnamed.groupMembers member present))
        grants := by
          intro grant present other holder
          apply live_moved (live.grants grant present other holder)
          apply Or.inl
          intro same
          rw [same] at holder
          exact unnamed.grants grant present holder
        senders := fun edge present =>
          live_moved (live.senders edge present) (.inl (unnamed.senders edge present))
        receivers := fun edge present =>
          live_moved (live.receivers edge present) (.inl (unnamed.receivers edge present)) }
  · apply live_more live
    intro other isLive
    exact live_moved isLive (.inr leaves)

theorem active_none {Content Key : Type} {entries : Versioned Content → List Key}
    {table : Table entries} {selected : Versioned Content → Bool}
    (none : (table.selectWhere selected).length = 0) {content : Content}
    (held : content ∈ activeContents table.rows) :
    ∃ row, row.isActive = true ∧ row.content = content ∧ selected row = false := by
  obtain ⟨row, present, active, stated⟩ := mem_active_contents.mp held
  refine ⟨row, active, stated, ?_⟩
  rw [Table.selectWhere, List.length_eq_zero_iff, List.filter_eq_nil_iff] at none
  simpa using none row present

theorem active_ended {Content : Type} {current : Nat} {selected : Versioned Content → Bool}
    {rows next : List (Versioned Content)} (revises : Revises current selected [] rows next)
    {content : Content} (held : content ∈ activeContents next) : content ∈ activeContents rows ∧
      ∃ row, row.isActive = true ∧ row.content = content ∧ selected row = false := by
  rw [mem_active_revised revises] at held
  obtain ⟨row, present, active, unselected, stated⟩ | impossible := held
  · exact ⟨mem_active_contents.mpr ⟨row, present, active, stated⟩, row, active, stated, unselected⟩
  · cases impossible

theorem not_named {principalId : Uuid} {contents : PolicyContents}
    (groupMembers : ∀ member ∈ contents.groupMembers, ∃ row : Versioned GroupMember,
      row.isActive = true ∧ row.content = member ∧ groupMemberOf principalId row = false)
    (grants : ∀ grant ∈ contents.grants, ∃ row : Versioned GrantRow,
      row.isActive = true ∧ row.content = grant ∧ grantOf principalId row = false)
    (edges : ∀ edge ∈ contents.edges, ∃ row : Versioned EdgeRow,
      row.isActive = true ∧ row.content = edge ∧ edgeOf principalId row = false) :
    NotNamed principalId contents.terms := by
  constructor
  · intro member present
    obtain ⟨row, active, stated, unselected⟩ := groupMembers member present
    simpa [groupMemberOf, active, stated] using unselected
  · intro grant present
    obtain ⟨grantRow, there, same⟩ := List.mem_map.mp present
    obtain ⟨row, active, stated, unselected⟩ := grants grantRow there
    simpa [grantOf, active, stated, same] using unselected
  · intro edge present
    obtain ⟨edgeRow, there, same⟩ := List.mem_map.mp present
    obtain ⟨row, active, stated, unselected⟩ := edges edgeRow there
    have apart : edge.fromPrincipalId ≠ principalId ∧ edge.toPrincipalId ≠ principalId := by
      simpa [edgeOf, active, stated, same] using unselected
    exact apart.1
  · intro edge present
    obtain ⟨edgeRow, there, same⟩ := List.mem_map.mp present
    obtain ⟨row, active, stated, unselected⟩ := edges edgeRow there
    have apart : edge.fromPrincipalId ≠ principalId ∧ edge.toPrincipalId ≠ principalId := by
      simpa [edgeOf, active, stated, same] using unselected
    exact apart.2

theorem set_state_same (state : OrgState) (principalId : Uuid) (toState : PrincipalState) :
    PolicyRowsSame state (state.setPrincipalState principalId toState) :=
  ⟨rfl, rfl, rfl, rfl, rfl, rfl, rfl⟩

theorem left_revises {actor : String}
    (ended : PolicyRowsEnded principalId actor (state.setPrincipalState principalId toState) next) :
    StateRevises state next := by
  have revises := rows_ended_revises ended
  exact ⟨revises.revision, revises.header, revises.settings, revises.oneActive, revises.groups,
    revises.groupMembers, revises.grants, revises.edges⟩

theorem rows_ended_kept {actor : String}
    (ended : PolicyRowsEnded principalId actor (state.setPrincipalState principalId .left) next)
    (kept : PolicyKept state) : PolicyKept next := by
  have revises := left_revises ended
  have groupMembers := close_rows_revises (fun _ => and_active) ended.groupMembers
  have grants := close_rows_revises (fun _ => and_active) ended.grants
  have edges := close_rows_revises (fun _ => and_active) ended.edges
  have within : next.heldContents.terms.Within state.heldContents.terms := by
    constructor
    · intro group
      unfold PolicyContents.terms OrgState.heldContents
      rw [ended.groups]
      rfl
    · intro member present
      exact (active_ended groupMembers present).1
    · intro grant present
      obtain ⟨row, there, same⟩ := List.mem_map.mp present
      exact List.mem_map.mpr ⟨row, (active_ended grants there).1, same⟩
    · intro edge present
      obtain ⟨row, there, same⟩ := List.mem_map.mp present
      exact List.mem_map.mpr ⟨row, (active_ended edges there).1, same⟩
  have unnamed : NotNamed principalId next.heldContents.terms :=
    not_named (fun _ present => (active_ended groupMembers present).2)
      (fun _ present => (active_ended grants present).2)
      (fun _ present => (active_ended edges present).2)
  constructor
  · exact history_revised kept.history revises
  · exact shape_within within kept.shape
  · have live := @policy_live_moved _ _ principalId .left (live_within within kept.live)
      (fun _ => unnamed)
    apply live_more live
    intro other isLive
    unfold OrgState.isLive at isLive ⊢
    rw [ended.principals]
    exact isLive

theorem move_principal_kept {actor reason : Option String}
    (moved : movePrincipal principalId toState actor reason state = .ok next)
    (kept : PolicyKept state) : PolicyKept next ∧ Extends state next := by
  obtain ⟨principal, _, _, ends | stays⟩ := move_principal_ok moved
  · obtain ⟨leaves, author, ended⟩ := ends
    subst leaves
    have revises := left_revises ended
    exact ⟨rows_ended_kept ended kept, revises_extends revises⟩
  · obtain ⟨unnamed, rfl⟩ := stays
    have same := set_state_same state principalId toState
    refine ⟨⟨history_same same kept.history, ?_, ?_⟩, extends_same same⟩
    · rw [contents_same same]
      exact kept.shape
    · rw [contents_same same]
      apply policy_live_moved kept.live
      intro leaves
      have none := unnamed leaves
      unfold OrgState.policyRowsOf at none
      apply not_named
      · intro member present
        exact active_none (by omega) present
      · intro grant present
        exact active_none (by omega) present
      · intro edge present
        exact active_none (by omega) present

theorem publish_kept {ids : RowIds} {role : OrgRole} {authorUserId : String}
    {reason : Option String} {document : PolicyDocument} {wanted : WantedPolicy} {revision : Nat}
    (read : readDocument document = .ok wanted) (checks : checkWanted wanted state = .ok ())
    (published : Published ids role authorUserId reason wanted state revision next)
    (kept : PolicyKept state) : PolicyKept next ∧ Extends state next := by
  have checked := check_wanted_ok checks
  have outcome := published_outcome published
  have same := published_terms outcome checked.names
  have grammar : ∀ grant ∈ wanted.grants, isSource grant.source = true := by
    intro grant present
    cases (outcome.grants grant).mp ((same.grants grant).mpr present) with
    | inl held => exact (kept.shape.grants grant held.1).grammar
    | inr added =>
      cases published with
      | unchanged nothing =>
        exact (kept.shape.grants grant ((same.grants grant).mpr present)).grammar
      | written next differs authorized writes =>
        exact List.all_eq_true.mp writes.validSources grant added
  have shape := shape_within same.within (wanted_shape (read_document_ok read) checked grammar)
  have live := live_within same.within (wanted_live checked)
  cases published with
  | unchanged nothing => exact ⟨⟨kept.history, shape, live⟩, extends_refl state⟩
  | written next differs authorized writes =>
    have revises := written_revises writes
    refine ⟨⟨history_revised kept.history revises, shape, ?_⟩, revises_extends revises⟩
    apply live_more live
    intro other isLive
    unfold OrgState.isLive at isLive ⊢
    rw [writes.principals]
    exact isLive

theorem call_kept {network : Network} {call : OrgCall} (ran : call.run network org = .ok state)
    (kept : PolicyKept org.state) : PolicyKept state ∧ Extends org.state state := by
  cases call with
  | addMember userId role actorUserId =>
    obtain ⟨_, _, members, _, _, _, _, _, _, rfl⟩ := add_member_ok ran
    have same : PolicyRowsSame org.state { org.state with members } :=
      ⟨rfl, rfl, rfl, rfl, rfl, rfl, rfl⟩
    exact ⟨kept_same kept same (fun _ isLive => isLive), extends_same same⟩
  | removeMember userId actorUserId =>
    obtain ⟨user, _, principals, _, _, _, _, _, moved⟩ := remove_member_ok ran
    have same : PolicyRowsSame org.state (markRemoved user org.state) :=
      ⟨rfl, rfl, rfl, rfl, rfl, rfl, rfl⟩
    apply @move_principals_keep (fun state => PolicyKept state ∧ Extends org.state state)
      _ _ _ _ _ moved
    · exact ⟨kept_same kept same (fun _ isLive => isLive), extends_same same⟩
    · intro principalId toState reason state next step before
      have ⟨after, later⟩ := move_principal_kept step before.1
      exact ⟨after, extends_trans before.2 later⟩
  | beginJoin agentIdentityId ownerUserId actorUserId knownIdentity newId =>
    obtain ⟨_, principals, _, _, inserted, rfl⟩ := begin_join_ok ran
    have same : PolicyRowsSame org.state { org.state with principals } :=
      ⟨rfl, rfl, rfl, rfl, rfl, rfl, rfl⟩
    refine ⟨kept_same kept same ?_, extends_same same⟩
    intro other live
    obtain ⟨principal, present, rest⟩ := is_live.mp live
    exact is_live.mpr ⟨principal, (Table.mem_insert inserted).mpr (.inl present), rest⟩
  | setPrincipalKey principalId publicKey actorUserId =>
    obtain ⟨key, rfl⟩ := set_principal_key_ok ran
    refine ⟨kept_same kept ⟨rfl, rfl, rfl, rfl, rfl, rfl, rfl⟩ ?_,
      extends_same ⟨rfl, rfl, rfl, rfl, rfl, rfl, rfl⟩⟩
    intro other live
    obtain ⟨principal, present, named, notLeft⟩ := is_live.mp live
    rw [is_live]
    simp only [Table.mem_rewrite, beq_iff_eq]
    refine ⟨_, ⟨principal, present, rfl⟩, ?_⟩
    split
    · exact ⟨named, notLeft⟩
    · exact ⟨named, notLeft⟩
  | transitionPrincipal principalId toState actorUserId reason =>
    exact move_principal_kept (transition_principal_ok ran) kept
  | publish call ids =>
    obtain ⟨_, published⟩ := run_publish_ok ran
    obtain ⟨_, _, _, _, _, _, _, read, checks, writes⟩ := publish_ok published
    exact publish_kept read checks writes kept

theorem created_kept (owner : String) : PolicyKept (.created owner) where
  history := created_history owner
  shape := by
    constructor
    all_goals
      intro row member
      cases member
  live := by
    constructor
    all_goals
      intro row member
      cases member

theorem reached_kept (history : List NetworkEvent) :
    ∀ org ∈ (Network.empty.after history).organizations, PolicyKept org.state := by
  apply @run_keeps fun org => PolicyKept org.state
  · intro org owner _ state _
    rw [state]
    exact created_kept owner
  · intro network org call state ran kept
    exact (call_kept ran kept).1

theorem run_extends {network : Network} (kept : ∀ org ∈ network.organizations, PolicyKept org.state)
    (member : org ∈ network.organizations) {later : List NetworkEvent}
    (notErased : .eraseOrg org.id ∉ later) :
    ∃ next ∈ (network.after later).organizations, next.id = org.id ∧
      Extends org.state next.state := by
  induction later generalizing network org with
  | nil => exact ⟨org, member, rfl, extends_refl org.state⟩
  | cons event rest ih =>
    have nextKept : ∀ org ∈ (network.step event).organizations, PolicyKept org.state := by
      apply @step_keeps (fun org => PolicyKept org.state) _ _ _ _ kept
      · intro org owner _ state _
        rw [state]
        exact created_kept owner
      · intro org call state _ _ ran before
        exact (call_kept ran before).1
    have stepped : ∃ next ∈ (network.step event).organizations, next.id = org.id ∧
        Extends org.state next.state := by
      cases step_change network event with
      | unchanged same =>
        rw [same]
        exact ⟨org, member, rfl, extends_refl org.state⟩
      | created new owner inserted valid state personal =>
        exact ⟨org, (Table.mem_insert inserted).mpr (.inl member), rfl, extends_refl org.state⟩
      | erased orgId asked same =>
        rw [same]
        refine ⟨org, mem_erase.mpr ⟨member, ?_⟩, rfl, extends_refl org.state⟩
        intro named
        rw [named, ← asked] at notErased
        exact notErased List.mem_cons_self
      | called changed call state present asked ran same =>
        rw [same]
        by_cases named : org.id = changed.id
        · have identical := one_organization member present named
          subst identical
          exact ⟨_, mem_put.mpr ⟨org, member, if_pos rfl⟩, rfl,
            (call_kept ran (kept org member)).2⟩
        · exact ⟨_, mem_put.mpr ⟨org, member, if_neg named⟩, rfl, extends_refl org.state⟩
    obtain ⟨middle, middleMember, middleId, middleExtends⟩ := stepped
    have restNotErased : .eraseOrg middle.id ∉ rest := by
      rw [middleId]
      exact fun there => notErased (List.mem_cons_of_mem _ there)
    obtain ⟨next, nextMember, nextId, nextExtends⟩ := ih nextKept middleMember restNotErased
    exact ⟨next, nextMember, nextId.trans middleId, extends_trans middleExtends nextExtends⟩

end Hivra.AgentNetwork
