import Hivra.AgentNetwork.NetworkTables

/-!
# Agent-network functions

The functions that create organizations, change members and move principals.
Each is one transaction that holds the organization's row, so it is one step; a
function that raises returns no state.  Their audit entries go to the log's own
table and are left out: what a function has checked by then passes the checks of
the log.

Generated ids are parameters.  A text parameter outside its enumeration is
`none`, which the column checks refuse.
-/

namespace Hivra.AgentNetwork

open Hivra.Library

def raise {Answer : Type} (code message : String) : Except Raised Answer :=
  .error { code, message }

/-- `if condition then raise exception`. -/
def refuseIf (condition : Prop) [Decidable condition] (code message : String) :
    Except Raised Unit :=
  if condition then raise code message else .ok ()

def uniqueViolation : String := "23505"

def checkViolation : String := "23514"

def notNullViolation : String := "23502"

/-- An insert: `none` violated a unique index. -/
def orUniqueViolation {Rows : Type} : Option Rows → Except Raised Rows
  | some rows => .ok rows
  | none => raise uniqueViolation "duplicate key value violates unique constraint"

/-- `length(text) between 1 and 256`. -/
def isUserId (text : String) : Bool :=
  1 ≤ text.length && text.length ≤ 256

/-- `reason is null or length(reason) <= 500`. -/
def isReason : Option String → Bool
  | none => true
  | some reason => reason.length ≤ 500

section Answers

variable {Answer Next : Type}

theorem raise_ne_ok {code message : String} {answer : Answer} :
    raise code message ≠ Except.ok answer := by
  intro impossible
  cases impossible

theorem refuse_if_ok {condition : Prop} [Decidable condition] {code message : String}
    {answer : Unit} (passed : refuseIf condition code message = .ok answer) : ¬condition := by
  unfold refuseIf at passed
  split_ifs at passed with refused
  · exact absurd passed raise_ne_ok
  · exact refused

theorem or_unique_violation_ok {rows : Option Answer} {answer : Answer}
    (written : orUniqueViolation rows = .ok answer) : rows = some answer := by
  cases rows with
  | none => exact absurd written raise_ne_ok
  | some rows =>
    cases written
    rfl

theorem bind_ok {first : Except Raised Answer} {rest : Answer → Except Raised Next} {next : Next}
    (returned : (first >>= rest) = .ok next) : ∃ answer, first = .ok answer ∧ rest answer = .ok next := by
  cases first with
  | error raised => cases returned
  | ok answer => exact ⟨answer, rfl, returned⟩

end Answers

def emptySettings : PolicySettings :=
  { networkEnabled := false
    paused := false
    buzzBindingDefault := .forbidden
    maxHopDepth := 3 }

def Table.single {Row Key : Type} {entries : Row → List Key} (row : Row) : Table entries :=
  { rows := [row], unique := List.pairwise_singleton _ _ }

def OrgState.created (ownerUserId : String) : OrgState :=
  { currentRevision := 1
    members := Table.single { userId := ownerUserId, role := .owner, removed := false }
    principals := .empty
    revisions :=
      Table.single
        { revision := 1, authorUserId := ownerUserId, reason := some "organization created" }
    settings := Table.single { content := emptySettings, validity := .opened 1 }
    groups := .empty
    groupMembers := .empty
    grants := .empty
    edges := .empty }

/-- `hivra_net_create_org`. -/
def createOrg (kind : Option OrgKind) (ownerUserId name : Option String) (newId : Uuid)
    (network : Network) : Except Raised (Uuid × Network) :=
  match kind, ownerUserId with
  | none, _ => raise "HN422" "hivra_net: unknown organization kind"
  | some _, none => raise "HN422" "hivra_net: an organization needs an owner"
  | some kind, some ownerUserId =>
    if btrim ownerUserId = "" then
      raise "HN422" "hivra_net: an organization needs an owner"
    else
      match name with
      | none => raise notNullViolation "null value in column name"
      | some name =>
        if (btrim name).length < 1 ∨ 256 < (btrim name).length ∨
            isUserId ownerUserId = false then
          raise checkViolation "new row violates check constraint"
        else
          match network.organizations.insert
              { id := newId
                kind
                name
                personalOwnerUserId := if kind = .personal then some ownerUserId else none
                state := .created ownerUserId } with
          | none => raise uniqueViolation "duplicate key value violates unique constraint"
          | some organizations => .ok (newId, { organizations })

def Network.personalOrg? (network : Network) (userId : String) : Option Organization :=
  network.organizations.find? fun org =>
    org.kind == .personal && org.personalOwnerUserId == some userId

/-- `hivra_net_ensure_personal_org`; a unique violation is answered by another
read. -/
def ensurePersonalOrg (userId : Option String) (newId : Uuid) (network : Network) :
    Except Raised (Option Uuid × Network) :=
  match userId with
  | none => raise "HN422" "hivra_net: a personal organization needs a user id"
  | some userId =>
    if btrim userId = "" then
      raise "HN422" "hivra_net: a personal organization needs a user id"
    else
      match network.personalOrg? userId with
      | some org => .ok (some org.id, network)
      | none =>
        match createOrg (some .personal) (some userId) (some "Personal") newId network with
        | .ok (id, next) => .ok (some id, next)
        | .error raised =>
          if raised.code = uniqueViolation then
            .ok ((network.personalOrg? userId).map Organization.id, network)
          else
            .error raised

/-- `hivra_net_guard_member` on a row that is written. -/
def guardMember (org : Organization) (member : OrgMember) : Except Raised Unit :=
  if org.kind = .personal ∧
      (some member.userId ≠ org.personalOwnerUserId ∨ member.role ≠ .owner ∨
        member.removed = true) then
    raise "HN422" "hivra_net: a personal organization has exactly one member, its owner"
  else
    .ok ()

def OrgState.actorRole? (state : OrgState) (actorUserId : Option String) : Option OrgRole :=
  actorUserId.bind state.role?

/-- `role in ('owner', 'admin')`. -/
def isAdmin (role : Option OrgRole) : Bool :=
  role == some .owner || role == some .admin

/-- `insert ... on conflict (org_id, user_id) do update`. -/
def upsertMember (userId : String) (role : OrgRole) (members : Table OrgMember.entries) :
    Option (Table OrgMember.entries) :=
  match members.find? (fun member => member.userId == userId) with
  | some _ =>
    some (members.rewrite (fun member => member.userId == userId)
      (fun member => { member with role, removed := false })
      (fun member => member.entries_change role false))
  | none => members.insert { userId, role, removed := false }

def mayAdd (actor : Option OrgRole) (role : Option OrgRole) : Bool :=
  match actor with
  | none => false
  | some .member => false
  | some .admin => role != some .owner
  | some .owner => true

/-- `hivra_net_add_member`. -/
def addMember (userId : Option String) (role : Option OrgRole) (actorUserId : Option String)
    (org : Organization) : Except Raised OrgState := do
  refuseIf (mayAdd (org.state.actorRole? actorUserId) role = false)
    "HN403" "hivra_net: not allowed to add this member"
  match userId, role with
  | some userId, some role =>
    guardMember org { userId, role, removed := false }
    refuseIf (isUserId userId = false) checkViolation "new row violates check constraint"
    let members ← orUniqueViolation (upsertMember userId role org.state.members)
    return { org.state with members }
  | _, _ => raise notNullViolation "null value in a member's column"

def PrincipalState.text : PrincipalState → String
  | .pending => "pending"
  | .joined => "joined"
  | .suspended => "suspended"
  | .left => "left"

/-- `hivra_net_guard_principal`: the state machine. -/
def PrincipalState.mayMove : PrincipalState → PrincipalState → Bool
  | .pending, .joined => true
  | .pending, .left => true
  | .joined, .suspended => true
  | .joined, .left => true
  | .suspended, .joined => true
  | .suspended, .left => true
  | _, _ => false

def OrgState.principal? (state : OrgState) (principalId : Uuid) : Option Principal :=
  state.principals.find? fun principal => principal.id == principalId

def grantOf (principalId : Uuid) (row : Versioned GrantRow) : Bool :=
  row.isActive && row.content.grant.principalId == some principalId

def edgeOf (principalId : Uuid) (row : Versioned EdgeRow) : Bool :=
  row.isActive && (row.content.edge.fromPrincipalId == principalId ||
    row.content.edge.toPrincipalId == principalId)

def groupMemberOf (principalId : Uuid) (row : Versioned GroupMember) : Bool :=
  row.isActive && row.content.principalId == principalId

/-- `update ... set valid_to_revision`, of active rows. -/
def closeRows {Content Key : Type} [DecidableEq Key] {entries : Versioned Content → List Key}
    (selected : Versioned Content → Bool) (revision : Nat) (rows : Table entries) :
    Except Raised (Table entries) :=
  orUniqueViolation (rows.update selected (fun row => row.close revision))

def OrgState.policyRowsOf (state : OrgState) (principalId : Uuid) : Nat :=
  (state.grants.selectWhere (grantOf principalId)).length +
    (state.edges.selectWhere (edgeOf principalId)).length +
    (state.groupMembers.selectWhere (groupMemberOf principalId)).length

def endPolicyRows (principalId : Uuid) (actor : Option String) (state : OrgState) :
    Except Raised OrgState := do
  let revision := state.currentRevision + 1
  match actor with
  | none => raise notNullViolation "null value in column author_user_id"
  | some actor =>
    refuseIf (isUserId actor = false) checkViolation "new row violates check constraint"
    let revisions ← orUniqueViolation (state.revisions.insert
      { revision
        authorUserId := actor
        reason := some "principal left: its grants, edges and group memberships end" })
    let grants ← closeRows (grantOf principalId) revision state.grants
    let edges ← closeRows (edgeOf principalId) revision state.edges
    let groupMembers ← closeRows (groupMemberOf principalId) revision state.groupMembers
    return { state with currentRevision := revision, revisions, grants, edges, groupMembers }

def OrgState.setPrincipalState (state : OrgState) (principalId : Uuid) (toState : PrincipalState) :
    OrgState :=
  { state with
    principals :=
      state.principals.rewrite (fun principal => principal.id == principalId)
        (fun principal => { principal with state := toState })
        (fun principal =>
          principal.entries_change toState principal.publicKey principal.keyVersion) }

/-- `hivra_net_move_principal`. -/
def movePrincipal (principalId : Uuid) (toState : PrincipalState) (actor reason : Option String)
    (state : OrgState) : Except Raised OrgState :=
  match state.principal? principalId with
  | none => raise "HN404" "hivra_net: unknown principal"
  | some principal =>
    if principal.state = toState then
      raise "HN409" ("hivra_net: the principal is already " ++ principal.state.text)
    else if principal.state.mayMove toState = false then
      raise "HN409" ("hivra_net: principal state " ++ principal.state.text ++ " -> " ++
        toState.text ++ " is not allowed")
    else if isReason reason = false ∨
        toState ≠ .left ∧ principal.publicKey = none then
      raise checkViolation "new row violates check constraint"
    else if toState = .left ∧ 0 < state.policyRowsOf principalId then
      endPolicyRows principalId actor (state.setPrincipalState principalId toState)
    else
      .ok (state.setPrincipalState principalId toState)

def mayRemove (actor : Option OrgRole) (target : OrgRole) : Bool :=
  match actor with
  | none => false
  | some .member => false
  | some .admin => target == .member
  | some .owner => true

def OrgState.hasOtherOwner (state : OrgState) (userId : String) : Bool :=
  state.members.rows.any fun member =>
    member.role == .owner && !member.removed && member.userId != userId

def markRemoved (userId : String) (state : OrgState) : OrgState :=
  { state with
    members :=
      state.members.rewrite (fun member => member.userId == userId)
        (fun member => { member with removed := true })
        (fun member => member.entries_change member.role true) }

/-- `case state when 'pending' then 'left' else 'suspended' end`. -/
def stateAfterRemoval : PrincipalState → PrincipalState
  | .pending => .left
  | _ => .suspended

def movePrincipals (actor : Option String) : List Principal → OrgState → Except Raised OrgState
  | [], state => .ok state
  | principal :: rest, state => do
    let state ← movePrincipal principal.id (stateAfterRemoval principal.state) actor
      (some "member removed") state
    movePrincipals actor rest state

/-- `hivra_net_remove_member`; the guard of a personal organization refuses the
update. -/
def removeMember (userId actorUserId : Option String) (org : Organization) :
    Except Raised OrgState := do
  match userId, org.state.actorRole? userId with
  | some userId, some target =>
    refuseIf
      (actorUserId ≠ some userId ∧ mayRemove (org.state.actorRole? actorUserId) target = false)
      "HN403" "hivra_net: not allowed to remove this member"
    refuseIf (target = .owner ∧ org.state.hasOtherOwner userId = false)
      "HN409" "hivra_net: an organization keeps at least one owner"
    guardMember org { userId, role := target, removed := true }
    movePrincipals actorUserId
      (org.state.principals.selectWhere fun principal =>
        principal.ownerUserId == userId &&
          (principal.state == .pending || principal.state == .joined))
      (markRemoved userId org.state)
  | _, _ => raise "HN404" "hivra_net: not an active member"

def Network.anyLive (network : Network) (selected : Organization → Principal → Bool) : Bool :=
  network.organizations.rows.any fun org =>
    org.state.principals.rows.any fun principal =>
      principal.state != .left && selected org principal

/-- `hivra_net_begin_join`; `knownIdentity` is the foreign key to the identity
registry. -/
def beginJoin
    (agentIdentityId : Uuid) (ownerUserId actorUserId : Option String) (knownIdentity : Bool)
    (newId : Uuid) (network : Network) (org : Organization) : Except Raised OrgState := do
  refuseIf (actorUserId ≠ ownerUserId) "HN403" "hivra_net: only the agent's owner joins it"
  match ownerUserId with
  | none => raise "HN403" "hivra_net: not a member of this organization"
  | some ownerUserId =>
    refuseIf (org.state.role? ownerUserId = none)
      "HN403" "hivra_net: not a member of this organization"
    refuseIf (knownIdentity = false) "23503" "insert violates foreign key constraint"
    refuseIf (network.anyLive (fun _ principal => principal.agentIdentityId == agentIdentityId))
      uniqueViolation "duplicate key value violates unique constraint"
    let principals ← orUniqueViolation (org.state.principals.insert
      { id := newId
        agentIdentityId
        ownerUserId
        state := .pending
        publicKey := none
        keyVersion := 0 })
    return { org.state with principals }

/-- `public_key ~ '^[A-Za-z0-9_-]{43}$'`. -/
def isPublicKey (key : String) : Bool :=
  key.length == 43 && key.toList.all fun char => char.isAlphanum || char == '_' || char == '-'

/-- `hivra_net_set_principal_key`. -/
def setPrincipalKey (principalId : Uuid) (publicKey actorUserId : Option String) (network : Network)
    (org : Organization) : Except Raised OrgState := do
  match org.state.principal? principalId with
  | none => raise "HN404" "hivra_net: unknown principal"
  | some principal =>
    refuseIf (principal.state = .left)
      "HN409" "hivra_net: a principal that has left cannot register a key"
    refuseIf
      (actorUserId ≠ some principal.ownerUserId ∧
        isAdmin (org.state.actorRole? actorUserId) = false)
      "HN403" "hivra_net: not allowed to register this key"
    match publicKey with
    | none => raise checkViolation "new row violates check constraint"
    | some publicKey =>
      refuseIf (isPublicKey publicKey = false)
        checkViolation "new row violates check constraint"
      refuseIf
        (network.anyLive fun other row =>
          row.publicKey == some publicKey && !(other.id == org.id && row.id == principalId))
        uniqueViolation "duplicate key value violates unique constraint"
      return { org.state with
        principals :=
          org.state.principals.rewrite (fun row => row.id == principalId)
            (fun row =>
              { row with publicKey := some publicKey, keyVersion := row.keyVersion + 1 })
            (fun row => row.entries_change row.state (some publicKey) (row.keyVersion + 1)) }

/-- Who may move a principal.  Its owner finishes joining, an owner or admin
resumes.  For the other moves the test is `not (is_owner or role in (...))`, which
is null, and so refuses nothing, where the actor has no role. -/
def mayTransition (isOwner : Bool) (actor : Option OrgRole) (source toState : PrincipalState) :
    Bool :=
  if toState = .joined ∧ source = .pending then isOwner
  else if toState = .joined then isAdmin actor
  else isOwner || isAdmin actor || actor.isNone

/-- `hivra_net_transition_principal`. -/
def transitionPrincipal
    (principalId : Uuid) (toState : PrincipalState) (actorUserId reason : Option String)
    (org : Organization) : Except Raised OrgState := do
  refuseIf (toState = .pending) "HN422" "hivra_net: a principal cannot be moved to pending"
  match org.state.principal? principalId with
  | none => raise "HN404" "hivra_net: unknown principal"
  | some principal =>
    let actor := org.state.actorRole? actorUserId
    refuseIf
      (mayTransition (actor.isSome && actorUserId == some principal.ownerUserId) actor
        principal.state toState = false)
      "HN403" "hivra_net: not allowed to change this agent"
    movePrincipal principalId toState actorUserId reason org.state

end Hivra.AgentNetwork
