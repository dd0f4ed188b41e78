import Hivra.AgentNetwork.PublishPolicy
import Mathlib.Data.List.Induction

/-!
# Runs of the agent network

One event is one call of a function, on one organization or on all.  A call that
raises changes nothing.
-/

namespace Hivra.AgentNetwork

open Hivra.Library

inductive OrgCall
  | addMember (userId : Option String) (role : Option OrgRole) (actorUserId : Option String)
  | removeMember (userId actorUserId : Option String)
  | beginJoin
      (agentIdentityId : Uuid) (ownerUserId actorUserId : Option String) (knownIdentity : Bool)
      (newId : Uuid)
  | setPrincipalKey (principalId : Uuid) (publicKey actorUserId : Option String)
  | transitionPrincipal
      (principalId : Uuid) (toState : PrincipalState) (actorUserId reason : Option String)
  | publish (call : PublishCall) (ids : RowIds)

inductive NetworkEvent
  | createOrg (kind : Option OrgKind) (ownerUserId name : Option String) (newId : Uuid)
  | ensurePersonalOrg (userId : Option String) (newId : Uuid)
  | eraseOrg (orgId : Uuid)
  | org (orgId : Uuid) (call : OrgCall)

def OrgCall.run (network : Network) (org : Organization) : OrgCall → Except Raised OrgState
  | .addMember userId role actorUserId => AgentNetwork.addMember userId role actorUserId org
  | .removeMember userId actorUserId => AgentNetwork.removeMember userId actorUserId org
  | .beginJoin agentIdentityId ownerUserId actorUserId knownIdentity newId =>
    AgentNetwork.beginJoin agentIdentityId ownerUserId actorUserId knownIdentity newId network org
  | .setPrincipalKey principalId publicKey actorUserId =>
    AgentNetwork.setPrincipalKey principalId publicKey actorUserId network org
  | .transitionPrincipal principalId toState actorUserId reason =>
    AgentNetwork.transitionPrincipal principalId toState actorUserId reason org
  | .publish call ids => (publishPolicyRevision call ids org.state).map Prod.snd

/-- `hivra_net_erase_org`: the organization goes with all its rows. -/
def Network.erase (network : Network) (orgId : Uuid) : Network :=
  { organizations :=
      { rows := network.organizations.rows.filter fun org => org.id != orgId
        unique := network.organizations.unique.sublist List.filter_sublist } }

def Network.call (network : Network) (orgId : Uuid) (call : OrgCall) : Except Raised Network :=
  match network.org? orgId with
  | none => raise "HN404" "hivra_net: unknown organization"
  | some org => (call.run network org).map (network.put orgId)

def Network.step (network : Network) : NetworkEvent → Network
  | .createOrg kind ownerUserId name newId =>
    match createOrg kind ownerUserId name newId network with
    | .ok (_, next) => next
    | .error _ => network
  | .ensurePersonalOrg userId newId =>
    match ensurePersonalOrg userId newId network with
    | .ok (_, next) => next
    | .error _ => network
  | .eraseOrg orgId => network.erase orgId
  | .org orgId call =>
    match network.call orgId call with
    | .ok next => next
    | .error _ => network

def Network.after (network : Network) (events : List NetworkEvent) : Network :=
  events.foldl Network.step network

variable {network next : Network} {orgId newId id : Uuid} {org : Organization}
    {kind : Option OrgKind}

theorem org_found (found : network.org? orgId = some org) :
    org ∈ network.organizations ∧ org.id = orgId := by
  have ⟨member, named⟩ := Table.find_mem found
  exact ⟨member, by simpa using named⟩

theorem one_organization {left right : Organization} (leftMember : left ∈ network.organizations)
    (rightMember : right ∈ network.organizations) (same : left.id = right.id) : left = right := by
  have shared : OrgKey.id left.id ∈ right.entries := by
    rw [same]
    exact List.mem_cons_self
  exact Table.eq_of_shared_entry leftMember rightMember List.mem_cons_self shared

theorem org_read (member : org ∈ network.organizations) : network.org? org.id = some org := by
  apply Table.find_of_entry (.id org.id) member (by simp)
  intro other named
  rw [beq_iff_eq] at named
  rw [← named]
  exact List.mem_cons_self

theorem mem_put {state : OrgState} : org ∈ (network.put orgId state).organizations ↔
      ∃ old ∈ network.organizations,
        (if old.id = orgId then { old with state } else old) = org := by
  rw [Table.mem_rows, Network.put, Table.rewrite_rows, List.mem_map]
  simp only [beq_iff_eq, Table.mem_rows]

theorem mem_erase :
    org ∈ (network.erase orgId).organizations ↔ org ∈ network.organizations ∧ org.id ≠ orgId := by
  simp [Network.erase, Table.mem_rows]

theorem create_org_ok {ownerUserId name : Option String}
    (created : createOrg kind ownerUserId name newId network = .ok (id, next)) :
    ∃ org owner, network.organizations.insert org = some next.organizations ∧
      isUserId owner = true ∧ org.state = .created owner ∧
      org.personalOwnerUserId = (if org.kind = .personal then some owner else none) := by
  unfold createOrg at created
  split at created
  · exact absurd created raise_ne_ok
  · exact absurd created raise_ne_ok
  · rename_i kind owner
    split at created
    · exact absurd created raise_ne_ok
    · split at created
      · exact absurd created raise_ne_ok
      · split at created
        · exact absurd created raise_ne_ok
        · rename_i checks
          have valid : isUserId owner = true := by
            simpa using fun invalid => checks (.inr (.inr invalid))
          split at created
          · exact absurd created raise_ne_ok
          · rename_i organizations inserted
            cases created
            exact ⟨_, owner, inserted, valid, rfl, rfl⟩

theorem ensure_personal_org_ok {userId : Option String} {id : Option Uuid}
    (ensured : ensurePersonalOrg userId newId network = .ok (id, next)) : next = network ∨
      ∃ created, createOrg (some .personal) userId (some "Personal") newId network =
        .ok (created, next) := by
  unfold ensurePersonalOrg at ensured
  split at ensured
  · exact absurd ensured raise_ne_ok
  · split at ensured
    · exact absurd ensured raise_ne_ok
    · split at ensured
      · cases ensured
        exact .inl rfl
      · split at ensured
        · rename_i created _ made
          cases ensured
          exact .inr ⟨created, made⟩
        · split at ensured
          · cases ensured
            exact .inl rfl
          · cases ensured

inductive NetworkChange (network : Network) (event : NetworkEvent) (next : Network) : Prop
  | unchanged (same : next = network)
  | created (org : Organization) (owner : String)
      (inserted : network.organizations.insert org = some next.organizations)
      (valid : isUserId owner = true)
      (state : org.state = .created owner)
      (personal : org.personalOwnerUserId = (if org.kind = .personal then some owner else none))
  | erased (orgId : Uuid) (asked : event = .eraseOrg orgId) (same : next = network.erase orgId)
  | called (org : Organization) (call : OrgCall) (state : OrgState)
      (member : org ∈ network.organizations) (asked : event = .org org.id call)
      (ran : call.run network org = .ok state) (same : next = network.put org.id state)

theorem create_change {ownerUserId name : Option String} {event : NetworkEvent}
    (created : createOrg kind ownerUserId name newId network = .ok (id, next)) :
    NetworkChange network event next := by
  obtain ⟨org, owner, inserted, valid, state, personal⟩ := create_org_ok created
  exact .created org owner inserted valid state personal

theorem step_change (network : Network) (event : NetworkEvent) :
    NetworkChange network event (network.step event) := by
  cases event with
  | createOrg kind ownerUserId name newId =>
    unfold Network.step
    dsimp only
    split
    · rename_i id next created
      exact create_change created
    · exact .unchanged rfl
  | ensurePersonalOrg userId newId =>
    unfold Network.step
    dsimp only
    split
    · rename_i id next ensured
      rcases ensure_personal_org_ok ensured with same | ⟨_, created⟩
      · exact .unchanged same
      · exact create_change created
    · exact .unchanged rfl
  | eraseOrg orgId => exact .erased orgId rfl rfl
  | org orgId call =>
    unfold Network.step Network.call
    dsimp only
    cases found : network.org? orgId with
    | none => exact .unchanged rfl
    | some org =>
      have ⟨member, named⟩ := org_found found
      dsimp only
      cases ran : call.run network org with
      | error raised => exact .unchanged rfl
      | ok state =>
        exact .called org call state member (by rw [named]) ran (by rw [named]; rfl)

theorem step_called {call : OrgCall} {state : OrgState} (member : org ∈ network.organizations)
    (ran : call.run network org = .ok state) :
    network.step (.org org.id call) = network.put org.id state := by
  simp only [Network.step, Network.call, org_read member, ran]
  rfl

theorem step_keeps {kept : Organization → Prop} {network : Network} {event : NetworkEvent}
    (created : ∀ org owner, isUserId owner = true → org.state = .created owner →
      org.personalOwnerUserId = (if org.kind = .personal then some owner else none) → kept org)
    (called : ∀ org call state, org ∈ network.organizations → event = .org org.id call →
      call.run network org = .ok state → kept org → kept { org with state })
    (before : ∀ org ∈ network.organizations, kept org) :
    ∀ org ∈ (network.step event).organizations, kept org := by
  intro org member
  cases step_change network event with
  | unchanged same =>
    rw [same] at member
    exact before org member
  | created new owner inserted valid state personal =>
    rcases (Table.mem_insert inserted).mp member with held | rfl
    · exact before org held
    · exact created org owner valid state personal
  | erased orgId asked same =>
    rw [same] at member
    exact before org (mem_erase.mp member).1
  | called changed call state present asked ran same =>
    rw [same] at member
    obtain ⟨old, held, rewritten⟩ := mem_put.mp member
    split_ifs at rewritten with chosen
    · have identical : old = changed := by
        have entryOld : OrgKey.id changed.id ∈ Organization.entries old := by
          rw [← chosen]
          exact List.mem_cons_self
        exact Table.eq_of_shared_entry held present entryOld List.mem_cons_self
      subst identical
      rw [← rewritten]
      exact called old call state held asked ran (before old held)
    · rw [← rewritten]
      exact before old held

@[simp]
theorem after_append (network : Network) (earlier later : List NetworkEvent) :
    network.after (earlier ++ later) = (network.after earlier).after later :=
  List.foldl_append

theorem after_singleton (network : Network) (earlier : List NetworkEvent) (event : NetworkEvent) :
    network.after (earlier ++ [event]) = (network.after earlier).step event := by
  rw [after_append]
  rfl

/-- Run induction over the organizations: what the calls of a run keep, every
organization has in every state of the run. -/
theorem run_keeps_between {kept : Organization → Prop} {history : List NetworkEvent}
    (created : ∀ org owner, isUserId owner = true → org.state = .created owner →
      org.personalOwnerUserId = (if org.kind = .personal then some owner else none) → kept org)
    (called : ∀ earlier (org : Organization) call later state,
      history = earlier ++ .org org.id call :: later →
      org ∈ (Network.empty.after earlier).organizations →
      call.run (Network.empty.after earlier) org = .ok state → kept org → kept { org with state })
    {earlier later : List NetworkEvent} (reached : history = earlier ++ later) :
    ∀ org ∈ (Network.empty.after earlier).organizations, kept org := by
  induction earlier using List.reverseRecOn generalizing later with
  | nil =>
    intro org member
    exact absurd member (Table.not_mem_empty org)
  | append_singleton earlier event ih =>
    have before := @ih (event :: later) (by rw [reached, List.append_assoc]; rfl)
    rw [after_singleton]
    apply step_keeps created _ before
    intro org call state member asked ran
    apply called earlier org call later state _ member ran
    rw [reached, asked, List.append_assoc]
    rfl

theorem run_keeps {kept : Organization → Prop}
    (created : ∀ org owner, isUserId owner = true → org.state = .created owner →
      org.personalOwnerUserId = (if org.kind = .personal then some owner else none) → kept org)
    (called : ∀ network org call state, OrgCall.run network org call = .ok state → kept org →
      kept { org with state })
    (history : List NetworkEvent) :
    ∀ org ∈ (Network.empty.after history).organizations, kept org := by
  apply run_keeps_between created _ (List.append_nil history).symm
  intro earlier org call later state _ _ ran
  exact called _ org call state ran

end Hivra.AgentNetwork
