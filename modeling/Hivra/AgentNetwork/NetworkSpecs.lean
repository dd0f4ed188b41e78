import Hivra.AgentNetwork.NetworkRuns

/-!
# What the functions did

One lemma for each function that returned: the checks it passed and the rows it
left.  What the calls keep and what they say is proved from these.
-/

namespace Hivra.AgentNetwork

open Hivra.Library

variable {org : Organization} {actorUserId : Option String} {state next : OrgState}
    {principalId : Uuid} {toState : PrincipalState} {network : Network} {ids : RowIds}
    {authorUserId : String} {wanted : WantedPolicy}

theorem guard_member_ok {member : OrgMember} {answer : Unit}
    (passed : guardMember org member = .ok answer) (kind : org.kind = .personal) :
    some member.userId = org.personalOwnerUserId ∧ member.role = .owner ∧
      member.removed = false := by
  unfold guardMember at passed
  split_ifs at passed with refused
  · exact absurd passed raise_ne_ok
  · simp only [kind, true_and, not_or, not_not] at refused
    exact ⟨refused.1, refused.2.1, by simpa using refused.2.2⟩

theorem add_member_ok {userId : Option String} {role : Option OrgRole}
    (added : addMember userId role actorUserId org = .ok state) :
    ∃ user given members, userId = some user ∧ role = some given ∧
      mayAdd (org.state.actorRole? actorUserId) role = true ∧
      guardMember org { userId := user, role := given, removed := false } = .ok () ∧
      isUserId user = true ∧ upsertMember user given org.state.members = some members ∧
      state = { org.state with members } := by
  unfold addMember at added
  obtain ⟨_, allowed, added⟩ := bind_ok added
  have allowed := refuse_if_ok allowed
  cases userId with
  | none => exact absurd added raise_ne_ok
  | some user =>
    cases role with
    | none => exact absurd added raise_ne_ok
    | some given =>
      obtain ⟨_, guarded, added⟩ := bind_ok added
      obtain ⟨_, valid, added⟩ := bind_ok added
      obtain ⟨members, written, added⟩ := bind_ok added
      cases added
      exact ⟨user, given, members, rfl, rfl, by simpa using allowed, guarded,
        by simpa using refuse_if_ok valid, or_unique_violation_ok written, rfl⟩

theorem remove_member_ok {userId : Option String}
    (removed : removeMember userId actorUserId org = .ok state) :
    ∃ user target principals, userId = some user ∧ org.state.role? user = some target ∧
      (actorUserId = some user ∨ mayRemove (org.state.actorRole? actorUserId) target = true) ∧
      (target = .owner → org.state.hasOtherOwner user = true) ∧
      guardMember org { userId := user, role := target, removed := true } = .ok () ∧
      movePrincipals actorUserId principals (markRemoved user org.state) = .ok state := by
  unfold removeMember at removed
  split at removed
  · rename_i user target found
    obtain ⟨_, allowed, removed⟩ := bind_ok removed
    obtain ⟨_, keeps, removed⟩ := bind_ok removed
    obtain ⟨_, guarded, removed⟩ := bind_ok removed
    have allowed := refuse_if_ok allowed
    have keeps := refuse_if_ok keeps
    refine ⟨user, target, _, rfl, found, ?_, ?_, guarded, removed⟩
    · by_cases own : actorUserId = some user
      · exact .inl own
      · exact .inr (by simpa using fun refused => allowed ⟨own, refused⟩)
    · intro owner
      simpa using fun alone => keeps ⟨owner, alone⟩
  · exact absurd removed raise_ne_ok

structure PolicyRowsEnded (principalId : Uuid) (actor : String) (state next : OrgState) : Prop where
  validActor : isUserId actor = true
  revision : next.currentRevision = state.currentRevision + 1
  revisions :
    state.revisions.insert
        { revision := state.currentRevision + 1
          authorUserId := actor
          reason := some "principal left: its grants, edges and group memberships end" } =
      some next.revisions
  grants : closeRows (grantOf principalId) (state.currentRevision + 1) state.grants = .ok next.grants
  edges : closeRows (edgeOf principalId) (state.currentRevision + 1) state.edges = .ok next.edges
  groupMembers :
    closeRows (groupMemberOf principalId) (state.currentRevision + 1) state.groupMembers =
      .ok next.groupMembers
  members : next.members = state.members
  principals : next.principals = state.principals
  settings : next.settings = state.settings
  groups : next.groups = state.groups

theorem end_policy_rows_ok {actor : Option String}
    (ended : endPolicyRows principalId actor state = .ok next) :
    ∃ author, actor = some author ∧ PolicyRowsEnded principalId author state next := by
  unfold endPolicyRows at ended
  dsimp only at ended
  split at ended
  · exact absurd ended raise_ne_ok
  · rename_i author
    obtain ⟨_, valid, ended⟩ := bind_ok ended
    obtain ⟨revisions, inserted, ended⟩ := bind_ok ended
    obtain ⟨grants, grantsEnd, ended⟩ := bind_ok ended
    obtain ⟨edges, edgesEnd, ended⟩ := bind_ok ended
    obtain ⟨groupMembers, membersEnd, ended⟩ := bind_ok ended
    cases ended
    exact ⟨author, rfl,
      { validActor := by simpa using refuse_if_ok valid
        revision := rfl
        revisions := or_unique_violation_ok inserted
        grants := grantsEnd
        edges := edgesEnd
        groupMembers := membersEnd
        members := rfl
        principals := rfl
        settings := rfl
        groups := rfl }⟩

theorem move_principal_ok {actor reason : Option String}
    (moved : movePrincipal principalId toState actor reason state = .ok next) :
    ∃ principal, state.principal? principalId = some principal ∧
      principal.state.mayMove toState = true ∧
      (toState = .left ∧
          (∃ author, PolicyRowsEnded principalId author
            (state.setPrincipalState principalId toState) next) ∨
        (toState = .left → state.policyRowsOf principalId = 0) ∧
          next = state.setPrincipalState principalId toState) := by
  unfold movePrincipal at moved
  split at moved
  · exact absurd moved raise_ne_ok
  · rename_i principal found
    split at moved
    · exact absurd moved raise_ne_ok
    · split at moved
      · exact absurd moved raise_ne_ok
      · rename_i allowed
        split at moved
        · exact absurd moved raise_ne_ok
        · split at moved
          · rename_i ends
            have ⟨author, _, ended⟩ := end_policy_rows_ok moved
            exact ⟨principal, found, by simpa using allowed, .inl ⟨ends.1, author, ended⟩⟩
          · rename_i stays
            cases moved
            refine ⟨principal, found, by simpa using allowed, .inr ⟨?_, rfl⟩⟩
            intro left
            by_contra some
            exact stays ⟨left, Nat.pos_of_ne_zero some⟩

theorem move_principals_keep {kept : OrgState → Prop} {actor : Option String}
    {principals : List Principal} {state next : OrgState}
    (move : ∀ principalId toState reason state next,
      movePrincipal principalId toState actor reason state = .ok next → kept state → kept next)
    (moved : movePrincipals actor principals state = .ok next) (before : kept state) :
    kept next := by
  induction principals generalizing state with
  | nil =>
    cases moved
    exact before
  | cons principal rest ih =>
    obtain ⟨middle, first, later⟩ := bind_ok moved
    exact ih later (move _ _ _ _ _ first before)

theorem begin_join_ok {agentIdentityId : Uuid} {ownerUserId actorUserId : Option String}
    {knownIdentity : Bool} {newId : Uuid} {network : Network} {org : Organization}
    {state : OrgState}
    (joined : beginJoin agentIdentityId ownerUserId actorUserId knownIdentity newId network org =
      .ok state) :
    ∃ owner principals, ownerUserId = some owner ∧ org.state.role? owner ≠ none ∧
      org.state.principals.insert
          { id := newId
            agentIdentityId
            ownerUserId := owner
            state := .pending
            publicKey := none
            keyVersion := 0 } =
        some principals ∧
      state = { org.state with principals } := by
  unfold beginJoin at joined
  obtain ⟨_, _, joined⟩ := bind_ok joined
  cases ownerUserId with
  | none => exact absurd joined raise_ne_ok
  | some owner =>
    obtain ⟨_, member, joined⟩ := bind_ok joined
    obtain ⟨_, _, joined⟩ := bind_ok joined
    obtain ⟨_, _, joined⟩ := bind_ok joined
    obtain ⟨principals, inserted, joined⟩ := bind_ok joined
    cases joined
    exact ⟨owner, principals, rfl, refuse_if_ok member, or_unique_violation_ok inserted, rfl⟩

theorem set_principal_key_ok {publicKey : Option String}
    (registered : setPrincipalKey principalId publicKey actorUserId network org = .ok state) :
    ∃ key, state =
      { org.state with
        principals :=
          org.state.principals.rewrite (fun row => row.id == principalId)
            (fun row => { row with publicKey := some key, keyVersion := row.keyVersion + 1 })
            (fun row => row.entries_change row.state (some key) (row.keyVersion + 1)) } := by
  unfold setPrincipalKey at registered
  split at registered
  · exact absurd registered raise_ne_ok
  · obtain ⟨_, _, registered⟩ := bind_ok registered
    obtain ⟨_, _, registered⟩ := bind_ok registered
    cases publicKey with
    | none => exact absurd registered raise_ne_ok
    | some key =>
      obtain ⟨_, _, registered⟩ := bind_ok registered
      obtain ⟨_, _, registered⟩ := bind_ok registered
      cases registered
      exact ⟨key, rfl⟩

variable {reason : Option String}

theorem transition_principal_ok
    (moved : transitionPrincipal principalId toState actorUserId reason org = .ok state) :
    movePrincipal principalId toState actorUserId reason org.state = .ok state := by
  unfold transitionPrincipal at moved
  obtain ⟨_, _, moved⟩ := bind_ok moved
  split at moved
  · exact absurd moved raise_ne_ok
  · dsimp only at moved
    obtain ⟨_, _, moved⟩ := bind_ok moved
    exact moved

def replaceRows {Content Key : Type} [DecidableEq Key] {entries : Versioned Content → List Key}
    (selected : Versioned Content → Bool) (revision : Nat) (opened : List Content)
    (rows : Table entries) : Except Raised (Table entries) := do
  let rows ← closeRows selected revision rows
  insertAll (openRows revision opened) rows

structure PolicyWritten (ids : RowIds) (authorUserId : String) (reason : Option String)
    (wanted : WantedPolicy) (changes : PolicyDifference) (state next : OrgState) : Prop where
  revision : next.currentRevision = state.currentRevision + 1
  revisions :
    state.revisions.insert { revision := state.currentRevision + 1, authorUserId, reason } =
      some next.revisions
  settings :
    writeSettings changes.settingsChanged (state.currentRevision + 1) wanted.settings
        state.settings =
      .ok next.settings
  groups :
    replaceRows (fun row => row.isActive && !wanted.hasGroup row.content.id)
        (state.currentRevision + 1) changes.groupsAdded state.groups =
      .ok next.groups
  groupMembers :
    replaceRows (fun row => row.isActive && !wanted.hasMember row.content)
        (state.currentRevision + 1) changes.membersAdded state.groupMembers =
      .ok next.groupMembers
  grants :
    replaceRows (fun row => row.isActive && !wanted.grants.contains row.content.grant)
        (state.currentRevision + 1) (grantRows ids authorUserId changes.grantsAdded)
        state.grants =
      .ok next.grants
  edges :
    replaceRows (fun row => row.isActive && !wanted.edges.contains row.content.edge)
        (state.currentRevision + 1) (edgeRows ids authorUserId changes.edgesAdded) state.edges =
      .ok next.edges
  validSources : changes.grantsAdded.all (fun grant => isSource grant.source) = true
  members : next.members = state.members
  principals : next.principals = state.principals

theorem require_ok {condition : Bool} {answer : Unit} (passed : require condition = .ok answer) :
    condition = true := by
  unfold require at passed
  split_ifs at passed with held
  · exact held
  · exact absurd passed raise_ne_ok

theorem write_policy_ok {changes : PolicyDifference}
    (written : writePolicy ids authorUserId reason wanted changes state = .ok next) :
    PolicyWritten ids authorUserId reason wanted changes state next := by
  unfold writePolicy at written
  dsimp only at written
  obtain ⟨_, _, written⟩ := bind_ok written
  obtain ⟨revisions, inserted, written⟩ := bind_ok written
  obtain ⟨settings, settingsWritten, written⟩ := bind_ok written
  obtain ⟨grantsLeft, grantsEnd, written⟩ := bind_ok written
  obtain ⟨edgesLeft, edgesEnd, written⟩ := bind_ok written
  obtain ⟨membersLeft, membersEnd, written⟩ := bind_ok written
  obtain ⟨groupsLeft, groupsEnd, written⟩ := bind_ok written
  obtain ⟨_, _, written⟩ := bind_ok written
  obtain ⟨groups, groupsOpen, written⟩ := bind_ok written
  obtain ⟨groupMembers, membersOpen, written⟩ := bind_ok written
  obtain ⟨_, sources, written⟩ := bind_ok written
  obtain ⟨grants, grantsOpen, written⟩ := bind_ok written
  obtain ⟨edges, edgesOpen, written⟩ := bind_ok written
  cases written
  exact
    { revision := rfl
      revisions := or_unique_violation_ok inserted
      settings := settingsWritten
      groups := by rw [replaceRows, groupsEnd]; exact groupsOpen
      groupMembers := by rw [replaceRows, membersEnd]; exact membersOpen
      grants := by rw [replaceRows, grantsEnd]; exact grantsOpen
      edges := by rw [replaceRows, edgesEnd]; exact edgesOpen
      validSources := require_ok sources
      members := rfl
      principals := rfl }

/-- A publish changes nothing, or writes the next revision. -/
inductive Published (ids : RowIds) (role : OrgRole) (authorUserId : String)
    (reason : Option String) (wanted : WantedPolicy) (state : OrgState) :
    Nat → OrgState → Prop
  | unchanged (same : (difference wanted state).isEmpty = true) :
      Published ids role authorUserId reason wanted state state.currentRevision state
  | written (next : OrgState) (differs : (difference wanted state).isEmpty = false)
      (authorized :
        authorizeChanges role authorUserId wanted (difference wanted state) state = .ok ())
      (writes : PolicyWritten ids authorUserId reason wanted (difference wanted state) state next) :
      Published ids role authorUserId reason wanted state next.currentRevision next

theorem publish_wanted_ok {role : OrgRole} {revision : Nat}
    (published : publishWanted ids role authorUserId reason wanted state = .ok (revision, next)) :
    checkWanted wanted state = .ok () ∧
      Published ids role authorUserId reason wanted state revision next := by
  unfold publishWanted at published
  obtain ⟨_, checks, published⟩ := bind_ok published
  apply And.intro checks
  dsimp only at published
  split at published
  · rename_i same
    cases published
    exact .unchanged same
  · rename_i differs
    obtain ⟨_, authorized, published⟩ := bind_ok published
    obtain ⟨written, writes, published⟩ := bind_ok published
    cases published
    exact .written _ (by simpa using differs) authorized (write_policy_ok writes)

theorem publish_ok {call : PublishCall} {revision : Nat}
    (published : publishPolicyRevision call ids state = .ok (revision, next)) :
    ∃ author role document wanted, call.authorUserId = some author ∧
      state.role? author = some role ∧ call.document = some document ∧
      readDocument document = .ok wanted ∧ checkWanted wanted state = .ok () ∧
      Published ids role author call.reason wanted state revision next := by
  unfold publishPolicyRevision at published
  obtain ⟨_, _, published⟩ := bind_ok published
  split at published
  · rename_i author role named found
    split at published
    · exact absurd published raise_ne_ok
    · rename_i document asked
      obtain ⟨wanted, read, published⟩ := bind_ok published
      have ⟨checks, writes⟩ := publish_wanted_ok published
      rw [named] at found
      exact ⟨author, role, document, wanted, named, found, asked, read, checks, writes⟩
  · exact absurd published raise_ne_ok

theorem run_publish_ok {call : PublishCall}
    (ran : (OrgCall.publish call ids).run network org = .ok state) :
    ∃ revision, publishPolicyRevision call ids org.state = .ok (revision, state) := by
  change (publishPolicyRevision call ids org.state).map Prod.snd = .ok state at ran
  cases published : publishPolicyRevision call ids org.state with
  | error raised =>
    rw [published] at ran
    cases ran
  | ok answer =>
    rw [published] at ran
    cases ran
    exact ⟨answer.1, rfl⟩

end Hivra.AgentNetwork
