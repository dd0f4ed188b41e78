import Hivra.AgentNetwork.NetworkSpecs

/-!
# Owners of an organization

Two calls write members: `hivra_net_add_member` through an upsert, and
`hivra_net_remove_member`.  The second refuses to take the last owner and lets
only an owner take an owner or admin.  The upsert has neither check, so an
active owner who is added again with another role loses the role, on behalf of
any admin and also when no other owner is left.

A run keeps its owners exactly when no call does that.
-/

namespace Hivra.AgentNetwork

open Hivra.Library

variable {state next : OrgState} {role : OrgRole} {network : Network} {org : Organization}
variable {userId : String}

theorem role_some : state.role? userId = some role ↔ ∃ member ∈ state.members,
        member.userId = userId ∧ member.removed = false ∧ member.role = role := by
  unfold OrgState.role?
  rw [Option.map_eq_some_iff]
  constructor
  · intro ⟨member, found, named⟩
    have ⟨present, chosen⟩ := Table.find_mem found
    simp only [Bool.and_eq_true, beq_iff_eq, Bool.not_eq_true'] at chosen
    exact ⟨member, present, chosen.1, chosen.2, named⟩
  · intro ⟨member, present, user, active, named⟩
    apply Exists.intro member
    constructor
    · apply Table.find_of_entry userId present (by simp [user, active])
      intro other chosen
      simp only [Bool.and_eq_true, beq_iff_eq] at chosen
      simp [OrgMember.entries, chosen.1]
    · exact named

theorem role_none : state.role? userId = none ↔
      ∀ member ∈ state.members, member.userId = userId → member.removed = true := by
  constructor
  · intro missing member present user
    by_contra active
    have held : state.role? userId = some member.role :=
      role_some.mpr ⟨member, present, user, by simpa using active, rfl⟩
    rw [missing] at held
    cases held
  · intro gone
    cases held : state.role? userId with
    | none => rfl
    | some role =>
      have ⟨member, present, user, active, _⟩ := role_some.mp held
      rw [gone member present user] at active
      cases active

theorem role_congr {left right : OrgState} (same : ∀ member : OrgMember, member.userId = userId →
      (member ∈ left.members ↔ member ∈ right.members)) :
    left.role? userId = right.role? userId := by
  apply Option.ext
  intro role
  rw [role_some, role_some]
  constructor
  · intro ⟨member, present, user, rest⟩
    exact ⟨member, (same member user).mp present, user, rest⟩
  · intro ⟨member, present, user, rest⟩
    exact ⟨member, (same member user).mpr present, user, rest⟩

theorem has_other_owner : state.hasOtherOwner userId = true ↔
      ∃ other, other ≠ userId ∧ state.role? other = some .owner := by
  unfold OrgState.hasOtherOwner
  rw [List.any_eq_true]
  constructor
  · intro ⟨member, present, chosen⟩
    simp only [Bool.and_eq_true, beq_iff_eq, Bool.not_eq_true', bne_iff_ne] at chosen
    exact ⟨member.userId, chosen.2, role_some.mpr ⟨member, present, rfl, chosen.1.2, chosen.1.1⟩⟩
  · intro ⟨other, different, owns⟩
    have ⟨member, present, user, active, named⟩ := role_some.mp owns
    exact ⟨member, present, by simp [named, active, user, different]⟩

theorem mem_upsert {members next : Table OrgMember.entries}
    (written : upsertMember userId role members = some next) {row : OrgMember} : row ∈ next ↔
      row = { userId, role, removed := false } ∨ row ∈ members ∧ row.userId ≠ userId := by
  unfold upsertMember at written
  split at written
  · rename_i held found
    have ⟨present, chosen⟩ := Table.find_mem found
    rw [beq_iff_eq] at chosen
    cases written
    rw [Table.mem_rewrite]
    constructor
    · intro ⟨old, oldPresent, rewritten⟩
      by_cases user : old.userId = userId
      · rw [if_pos (by simpa using user)] at rewritten
        rw [← rewritten, user]
        exact .inl rfl
      · rw [if_neg (by simpa using user)] at rewritten
        rw [← rewritten]
        exact .inr ⟨oldPresent, user⟩
    · intro new
      cases new with
      | inl same => exact ⟨held, present, by simp [same, chosen]⟩
      | inr kept => exact ⟨row, kept.1, by simp [kept.2]⟩
  · rename_i missing
    rw [Table.mem_insert written, or_comm]
    apply or_congr_right
    constructor
    · intro present
      have unchosen := Table.find_none missing present
      exact ⟨present, by simpa using unchosen⟩
    · intro kept
      exact kept.1

theorem role_upsert
    (written : upsertMember userId role state.members = some next.members) (other : String) :
    next.role? other = if other = userId then some role else state.role? other := by
  split_ifs with same
  · rw [role_some]
    exact ⟨_, (mem_upsert written).mpr (.inl rfl), same.symm, rfl, rfl⟩
  · apply role_congr
    intro member user
    rw [mem_upsert written]
    constructor
    · intro new
      cases new with
      | inl row =>
        rw [row] at user
        exact absurd user.symm same
      | inr kept => exact kept.1
    · intro present
      exact .inr ⟨present, by rwa [user]⟩

theorem mem_mark_removed {row : OrgMember} : row ∈ (markRemoved userId state).members ↔
      ∃ old ∈ state.members,
        (if old.userId = userId then { old with removed := true } else old) = row := by
  unfold markRemoved
  rw [Table.mem_rewrite]
  simp only [beq_iff_eq]

theorem role_mark_removed (other : String) : (markRemoved userId state).role? other =
      if other = userId then none else state.role? other := by
  split_ifs with same
  · rw [role_none]
    intro member present user
    obtain ⟨old, _, rewritten⟩ := mem_mark_removed.mp present
    split_ifs at rewritten with chosen
    · rw [← rewritten]
    · rw [← rewritten, same] at user
      exact absurd user chosen
  · apply role_congr
    intro member user
    rw [mem_mark_removed]
    constructor
    · intro ⟨old, present, rewritten⟩
      split_ifs at rewritten with chosen
      · rw [← rewritten] at user
        exact absurd (user.symm.trans chosen) same
      · rwa [← rewritten]
    · intro present
      exact ⟨member, present, by simp [user, same]⟩

theorem move_principal_members {principalId : Uuid} {toState : PrincipalState}
    {actor reason : Option String}
    (moved : movePrincipal principalId toState actor reason state = .ok next) :
    next.members = state.members := by
  obtain ⟨_, _, _, ends | stays⟩ := move_principal_ok moved
  · obtain ⟨_, _, ended⟩ := ends
    rw [ended.members]
    rfl
  · rw [stays.2]
    rfl

theorem published_members {ids : RowIds} {authorUserId : String} {reason : Option String}
    {wanted : WantedPolicy} {revision : Nat}
    (published : Published ids role authorUserId reason wanted state revision next) :
    next.members = state.members := by
  cases published with
  | unchanged => rfl
  | written _ _ _ writes => exact writes.members

def OrgCall.actor : OrgCall → Option String
  | .addMember _ _ actorUserId => actorUserId
  | .removeMember _ actorUserId => actorUserId
  | .beginJoin _ _ actorUserId _ _ => actorUserId
  | .setPrincipalKey _ _ actorUserId => actorUserId
  | .transitionPrincipal _ _ actorUserId _ => actorUserId
  | .publish call _ => call.authorUserId

inductive RolesChange (org : Organization) (call : OrgCall) (state : OrgState) : Prop
  | unchanged (same : state.members = org.state.members)
  | added (userId : String) (role : OrgRole) (actorUserId : Option String)
      (asked : call = .addMember (some userId) (some role) actorUserId)
      (allowed : mayAdd (org.state.actorRole? actorUserId) (some role) = true)
      (guarded : guardMember org { userId, role, removed := false } = .ok ())
      (valid : isUserId userId = true)
      (written : upsertMember userId role org.state.members = some state.members)
  | removed (userId : String) (target : OrgRole) (actorUserId : Option String)
      (asked : call = .removeMember (some userId) actorUserId)
      (found : org.state.role? userId = some target)
      (allowed : actorUserId = some userId ∨
        mayRemove (org.state.actorRole? actorUserId) target = true)
      (keeps : target = .owner → org.state.hasOtherOwner userId = true)
      (guarded : guardMember org { userId, role := target, removed := true } = .ok ())
      (same : state.members = (markRemoved userId org.state).members)

theorem run_roles {call : OrgCall} (ran : call.run network org = .ok state) :
    RolesChange org call state := by
  cases call with
  | addMember userId role actorUserId =>
    obtain ⟨user, given, members, rfl, rfl, allowed, guarded, valid, written, rfl⟩ :=
      add_member_ok ran
    exact .added user given actorUserId rfl allowed guarded valid written
  | removeMember userId actorUserId =>
    obtain ⟨user, target, principals, rfl, found, allowed, keeps, guarded, moved⟩ :=
      remove_member_ok ran
    have same : state.members = (markRemoved user org.state).members := by
      have kept := @move_principals_keep
        (fun state => state.members = (markRemoved user org.state).members)
      apply kept _ moved rfl
      intro principalId toState reason state next step before
      rw [move_principal_members step, before]
    exact .removed user target actorUserId rfl found allowed keeps guarded same
  | beginJoin agentIdentityId ownerUserId actorUserId knownIdentity newId =>
    obtain ⟨_, _, _, _, _, rfl⟩ := begin_join_ok ran
    exact .unchanged rfl
  | setPrincipalKey principalId publicKey actorUserId =>
    obtain ⟨_, rfl⟩ := set_principal_key_ok ran
    exact .unchanged rfl
  | transitionPrincipal principalId toState actorUserId reason =>
    exact .unchanged (move_principal_members (transition_principal_ok ran))
  | publish call ids =>
    obtain ⟨_, published⟩ := run_publish_ok ran
    obtain ⟨_, _, _, _, _, _, _, _, _, writes⟩ := publish_ok published
    exact .unchanged (published_members writes)

structure Owned (org : Organization) : Prop where
  owner : ∃ userId, org.state.role? userId = some .owner
  personal : org.kind = .personal →
    ∃ userId, org.personalOwnerUserId = some userId ∧
      org.state.members.rows = [{ userId, role := .owner, removed := false }]

structure RespectsOwners (actorUserId : Option String) (before after : OrgState) : Prop where
  removes : ∀ userId, isAdmin (before.role? userId) = true → after.role? userId = none →
    actorUserId ≠ some userId → before.actorRole? actorUserId = some .owner
  changes : ∀ userId role, before.role? userId = some .owner → after.role? userId = some role →
    role ≠ .owner → before.actorRole? actorUserId = some .owner

def NetworkEvent.actor : NetworkEvent → Option String
  | .org _ call => call.actor
  | _ => none

/-- Every state a run reaches has its owners, and no call in it takes them against
its authority. -/
structure OwnersKept (history : List NetworkEvent) : Prop where
  owned : ∀ earlier later, history = earlier ++ later →
    ∀ org ∈ (Network.empty.after earlier).organizations, Owned org
  respects : ∀ earlier event later, history = earlier ++ event :: later →
    ∀ before ∈ (Network.empty.after earlier).organizations,
      ∀ after ∈ (Network.empty.after (earlier ++ [event])).organizations, after.id = before.id →
        RespectsOwners event.actor before.state after.state

/-- The call gives an active owner of a team another role, for an admin or for the
only owner. -/
def demotesOwner (org : Organization) : OrgCall → Prop
  | .addMember (some userId) (some role) actorUserId =>
    org.kind = .team ∧ role ≠ .owner ∧ org.state.role? userId = some .owner ∧
      (org.state.actorRole? actorUserId = some .admin ∨
        org.state.actorRole? actorUserId = some .owner ∧
          org.state.hasOtherOwner userId = false)
  | _ => False

theorem created_owned {owner : String} (state : org.state = .created owner)
    (personal : org.personalOwnerUserId = (if org.kind = .personal then some owner else none)) :
    Owned org := by
  constructor
  · apply Exists.intro owner
    rw [role_some]
    exact ⟨{ userId := owner, role := .owner, removed := false },
      by rw [state]; exact List.mem_singleton.mpr rfl, rfl, rfl, rfl⟩
  · intro kind
    rw [if_pos kind] at personal
    exact ⟨owner, personal, by rw [state]; rfl⟩

theorem may_add_role {actor : Option OrgRole} {role : Option OrgRole}
    (allowed : mayAdd actor role = true) : actor = some .owner ∨ actor = some .admin := by
  unfold mayAdd at allowed
  split at allowed
  · cases allowed
  · cases allowed
  · exact .inr rfl
  · exact .inl rfl

theorem role_same {left right : OrgState} (same : left.members = right.members)
    (userId : String) : left.role? userId = right.role? userId := by
  unfold OrgState.role?
  rw [same]

theorem upsert_personal {owner : String} {members next : Table OrgMember.entries}
    (rows : members.rows = [{ userId := owner, role := .owner, removed := false }])
    (written : upsertMember owner .owner members = some next) : next.rows = members.rows := by
  unfold upsertMember at written
  split at written
  · cases written
    rw [Table.rewrite_rows, rows]
    simp
  · rename_i missing
    have unchosen := Table.find_none missing (Table.mem_rows.mpr (rows ▸ List.mem_cons_self))
    simp at unchosen

theorem call_owned {call : OrgCall} (ran : call.run network org = .ok state)
    (kept : ¬demotesOwner org call) (owned : Owned org) : Owned { org with state } := by
  obtain ⟨owner, owns⟩ := owned.owner
  cases run_roles ran with
  | unchanged same =>
    constructor
    · exact ⟨owner, by rw [← owns]; exact role_same same owner⟩
    · intro kind
      rw [same]
      exact owned.personal kind
  | added userId role actorUserId asked allowed guarded valid written =>
    have roles := role_upsert written
    constructor
    · by_cases target : owner = userId
      · subst target
        by_cases given : role = .owner
        · exact ⟨owner, by rw [roles, if_pos rfl, given]⟩
        · cases kind : org.kind with
          | personal => exact absurd (guard_member_ok guarded kind).2.1 given
          | team =>
            have other : org.state.hasOtherOwner owner = true := by
              by_contra alone
              rw [Bool.not_eq_true] at alone
              rw [asked] at kept
              cases may_add_role allowed with
              | inl isOwner => exact kept ⟨kind, given, owns, .inr ⟨isOwner, alone⟩⟩
              | inr admin => exact kept ⟨kind, given, owns, .inl admin⟩
            have ⟨other, different, otherOwns⟩ := has_other_owner.mp other
            exact ⟨other, by rw [roles, if_neg different]; exact otherOwns⟩
      · exact ⟨owner, by rw [roles, if_neg target]; exact owns⟩
    · intro kind
      obtain ⟨user, personal, rows⟩ := owned.personal kind
      have ⟨named, given, _⟩ := guard_member_ok guarded kind
      rw [personal, Option.some.injEq] at named
      dsimp only at named given
      rw [named, given] at written
      exact ⟨user, personal, by rw [upsert_personal rows written, rows]⟩
  | removed userId target actorUserId asked found allowed keeps guarded same =>
    have roles (other : String) := (role_same same other).trans (role_mark_removed other)
    constructor
    · by_cases leaves : owner = userId
      · subst leaves
        rw [found, Option.some.injEq] at owns
        have ⟨other, different, otherOwns⟩ := has_other_owner.mp (keeps owns)
        exact ⟨other, by rw [roles, if_neg different]; exact otherOwns⟩
      · exact ⟨owner, by rw [roles, if_neg leaves]; exact owns⟩
    · intro kind
      have ⟨_, _, active⟩ := guard_member_ok guarded kind
      cases active

theorem may_remove_admin {actor : Option OrgRole} {target : OrgRole}
    (allowed : mayRemove actor target = true) (admin : isAdmin (some target) = true) :
    actor = some .owner := by
  unfold mayRemove at allowed
  split at allowed
  · cases allowed
  · cases allowed
  · rw [beq_iff_eq] at allowed
    rw [allowed] at admin
    cases admin
  · rfl

theorem call_respects {call : OrgCall} (ran : call.run network org = .ok state)
    (kept : ¬demotesOwner org call) : RespectsOwners call.actor org.state state := by
  cases run_roles ran with
  | unchanged same =>
    have roles := role_same same
    constructor
    · intro userId admin gone
      rw [← roles, gone] at admin
      cases admin
    · intro userId role owns changed different
      rw [roles, owns, Option.some.injEq] at changed
      exact absurd changed.symm different
  | added userId role actorUserId asked allowed guarded valid written =>
    have roles := role_upsert written
    constructor
    · intro user admin gone
      rw [roles] at gone
      split_ifs at gone
      rw [gone] at admin
      cases admin
    · intro user changedRole owns changed different
      rw [roles] at changed
      split_ifs at changed with target
      · rw [Option.some.injEq] at changed
        subst target changed
        cases kind : org.kind with
        | personal => exact absurd (guard_member_ok guarded kind).2.1 different
        | team =>
          rw [asked] at kept ⊢
          cases may_add_role allowed with
          | inl isOwner => exact isOwner
          | inr admin => exact absurd ⟨kind, different, owns, .inl admin⟩ kept
      · rw [owns, Option.some.injEq] at changed
        exact absurd changed.symm different
  | removed userId target actorUserId asked found allowed keeps guarded same =>
    have roles (other : String) := (role_same same other).trans (role_mark_removed other)
    constructor
    · intro user admin gone other
      rw [roles] at gone
      split_ifs at gone with leaves
      · subst leaves
        rw [asked] at other ⊢
        rw [found] at admin
        cases allowed with
        | inl own => exact absurd own other
        | inr may => exact may_remove_admin may admin
      · rw [gone] at admin
        cases admin
    · intro user role owns changed different
      rw [roles] at changed
      split_ifs at changed
      rw [owns, Option.some.injEq] at changed
      exact absurd changed.symm different

def ValidMembers (org : Organization) : Prop :=
  ∀ member ∈ org.state.members, isUserId member.userId = true

theorem call_valid_members {call : OrgCall} (ran : call.run network org = .ok state)
    (before : ValidMembers org) : ValidMembers { org with state } := by
  intro member present
  dsimp only at present
  cases run_roles ran with
  | unchanged same =>
    rw [same] at present
    exact before member present
  | added userId role actorUserId asked allowed guarded valid written =>
    cases (mem_upsert written).mp present with
    | inl new =>
      rw [new]
      exact valid
    | inr kept => exact before member kept.1
  | removed userId target actorUserId asked found allowed keeps guarded same =>
    rw [same] at present
    obtain ⟨old, held, rewritten⟩ := mem_mark_removed.mp present
    have valid := before old held
    split_ifs at rewritten
    · rw [← rewritten]
      exact valid
    · rw [← rewritten]
      exact valid

theorem reached_valid_members (history : List NetworkEvent) :
    ∀ org ∈ (Network.empty.after history).organizations, ValidMembers org := by
  apply run_keeps
  · intro org owner valid state _ member present
    rw [state] at present
    rw [List.mem_singleton.mp present]
    exact valid
  · intro network org call state ran before
    exact call_valid_members ran before

theorem upsert_active {role held : OrgRole} {state : OrgState}
    (active : state.role? userId = some held) :
    ∃ members, upsertMember userId role state.members = some members := by
  have ⟨member, present, user, _, _⟩ := role_some.mp active
  have found : state.members.find? (fun member => member.userId == userId) = some member := by
    apply Table.find_of_entry userId present (by simp [user])
    intro other chosen
    rw [beq_iff_eq] at chosen
    simp [OrgMember.entries, chosen]
  unfold upsertMember
  rw [found]
  exact ⟨_, rfl⟩

theorem demotes_breaks {network : Network} {org : Organization} {call : OrgCall}
    (valid : ValidMembers org) (demotes : demotesOwner org call) :
    ∃ state, call.run network org = .ok state ∧
      (Owned { org with state } → ¬RespectsOwners call.actor org.state state) := by
  unfold demotesOwner at demotes
  split at demotes
  · rename_i userId role actorUserId
    obtain ⟨kind, given, owns, actor⟩ := demotes
    obtain ⟨members, written⟩ := @upsert_active _ role _ _ owns
    have allowed : mayAdd (org.state.actorRole? actorUserId) (some role) = true := by
      cases actor with
      | inl admin => simp [admin, mayAdd, given]
      | inr owner => simp [owner.1, mayAdd]
    have validUser : isUserId userId = true := by
      have ⟨member, present, user, _, _⟩ := role_some.mp owns
      exact user ▸ valid member present
    refine ⟨{ org.state with members }, ?_, ?_⟩
    · simp [OrgCall.run, addMember, allowed, refuseIf, guardMember, kind, validUser, written,
        orUniqueViolation]
      rfl
    · have roles : ∀ other, OrgState.role? { org.state with members } other =
          if other = userId then some role else org.state.role? other :=
        role_upsert written
      intro owned respects
      cases actor with
      | inl admin =>
        have owner := respects.changes userId role owns (by rw [roles, if_pos rfl]) given
        change org.state.actorRole? actorUserId = some .owner at owner
        rw [admin] at owner
        cases owner
      | inr alone =>
        obtain ⟨other, otherOwns⟩ := owned.owner
        dsimp only at otherOwns
        rw [roles] at otherOwns
        split_ifs at otherOwns with same
        · exact given (Option.some.inj otherOwns)
        · have another := has_other_owner.mpr ⟨other, same, otherOwns⟩
          rw [alone.2] at another
          cases another
  · cases demotes

theorem other_respects {actorUserId : Option String} : RespectsOwners actorUserId state state := by
  constructor
  · intro userId admin gone
    rw [gone] at admin
    cases admin
  · intro userId role owns changed different
    rw [owns, Option.some.injEq] at changed
    exact absurd changed.symm different

theorem step_respects {network : Network} {event : NetworkEvent}
    (kept : ∀ orgId call, event = .org orgId call →
      ∀ org ∈ network.organizations, org.id = orgId → ¬demotesOwner org call)
    {before after : Organization} (beforeMember : before ∈ network.organizations)
    (afterMember : after ∈ (network.step event).organizations) (same : after.id = before.id) :
    RespectsOwners event.actor before.state after.state := by
  cases step_change network event with
  | unchanged unchanged =>
    rw [unchanged] at afterMember
    rw [one_organization afterMember beforeMember same]
    exact other_respects
  | created org owner inserted valid state personal =>
    have held : before ∈ (network.step event).organizations :=
      (Table.mem_insert inserted).mpr (.inl beforeMember)
    rw [one_organization afterMember held same]
    exact other_respects
  | erased orgId asked erased =>
    rw [erased] at afterMember
    rw [one_organization (mem_erase.mp afterMember).1 beforeMember same]
    exact other_respects
  | called org call state member asked ran put =>
    rw [put] at afterMember
    obtain ⟨old, held, rewritten⟩ := mem_put.mp afterMember
    have oldId : old.id = before.id := by
      rw [← same, ← rewritten]
      split_ifs <;> rfl
    have oldSame := one_organization held beforeMember oldId
    subst oldSame
    split_ifs at rewritten with chosen
    · have orgSame := one_organization held member chosen
      subst orgSame
      rw [← rewritten, asked]
      exact call_respects ran (kept _ _ asked old held rfl)
    · rw [← rewritten]
      exact other_respects

/-- A run keeps its owners exactly when none of its calls gives an active owner of
a team another role for an admin or for the only owner. -/
theorem owners_are_kept_iff (history : List NetworkEvent) : OwnersKept history ↔
      ∀ earlier orgId call later, history = earlier ++ .org orgId call :: later →
        ∀ org ∈ (Network.empty.after earlier).organizations, org.id = orgId →
          ¬demotesOwner org call := by
  constructor
  · intro kept earlier orgId call later reached org member named demotes
    subst named
    obtain ⟨state, ran, breaks⟩ :=
      @demotes_breaks (Network.empty.after earlier) _ _
        (reached_valid_members earlier org member) demotes
    have afterMember : { org with state } ∈
        (Network.empty.after (earlier ++ [.org org.id call])).organizations := by
      rw [after_singleton, step_called member ran]
      exact mem_put.mpr ⟨org, member, if_pos rfl⟩
    apply breaks
    · exact kept.owned (earlier ++ [.org org.id call]) later (by simp [reached]) _ afterMember
    · exact kept.respects earlier _ later reached org member _ afterMember rfl
  · intro kept
    constructor
    · intro earlier later reached
      apply @run_keeps_between Owned history _ _ _ _ reached
      · intro org owner _ state personal
        exact created_owned state personal
      · intro earlier org call later state reached member ran owned
        exact call_owned ran (kept earlier org.id call later reached org member rfl) owned
    · intro earlier event later reached before beforeMember after afterMember same
      rw [after_singleton] at afterMember
      apply step_respects _ beforeMember afterMember same
      intro orgId call asked
      subst asked
      exact kept earlier orgId call later reached

/-- Alice makes a team and adds Bob as an admin, who adds Alice again as a member. -/
def readdedOwner : List NetworkEvent :=
  let team : Uuid := ⟨"00000000-0000-4000-8000-00000000000e", by decide +kernel⟩
  [.createOrg (some .team) (some "alice") (some "Team") team,
    .org team (.addMember (some "bob") (some .admin) (some "alice")),
    .org team (.addMember (some "alice") (some .member) (some "bob"))]

/-- The team of that run has no owner in the end. -/
theorem readded_owner_is_lost : ¬OwnersKept readdedOwner := by
  intro kept
  have noOwner : ∃ org ∈ (Network.empty.after readdedOwner).organizations.rows,
      ∀ member ∈ org.state.members.rows, member.role ≠ .owner := by
    decide +kernel
  obtain ⟨org, member, ownerless⟩ := noOwner
  obtain ⟨userId, owns⟩ := (kept.owned readdedOwner [] (by simp) org member).owner
  obtain ⟨row, present, _, _, owner⟩ := role_some.mp owns
  exact ownerless row present owner

end Hivra.AgentNetwork
