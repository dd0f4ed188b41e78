import Hivra.AgentNetwork.PolicySnapshot
import Hivra.Library.Picks

/-!
# The policy evaluator

`evaluate` answers one policy question from a snapshot and the live facts of the
principal.  Reasons that other parts give, and facts it does not read, are left out.
-/

namespace Hivra.AgentNetwork

open Hivra.Library

inductive NetworkAction
  | brainRead
  | brainWrite
  | a2aSend
  | unknown (text : String)

/-- Live facts about one principal; `memberActive` is false once its owner was
removed. -/
structure PrincipalFacts where
  principalId : String
  orgId : String
  state : PrincipalState
  memberActive : Bool

inductive NetworkResource
  | brainSource (source : String)
  | principal (peer : Option PrincipalFacts)
  /-- Nothing, or another kind. -/
  | malformed

inductive DecisionReason
  | granted
  | grantedOwnSource
  | edgeAllowed
  | approvalRequired
  | noPolicy
  | malformedPolicy
  | unknownRevision
  | unknownPrincipal
  | orgMismatch
  | crossOrg
  | networkDisabled
  | orgPaused
  | principalNotJoined
  | memberRemoved
  | peerNotJoined
  | peerMemberRemoved
  | unknownPeer
  | selfEdge
  | noGrant
  | explicitDeny
  | narrowed
  | grantInsufficient
  | privateSourceForeign
  | noEdge
  | edgeDenied
  | malformedResource
  | unknownAction

structure EdgeLimits where
  maxMessagesPerHour : Option Int
  maxConcurrentRuns : Option Int
  maxHopDepth : Int

structure Decision where
  allow : Bool
  reason : DecisionReason
  rule : String
  revision : Option Nat
  orgId : Option String
  requiresApproval : Bool
  limits : Option EdgeLimits

def decision (policy : Option PolicySnapshot) (allow : Bool) (reason : DecisionReason)
    (rule : String) : Decision :=
  { allow
    reason
    rule
    revision := policy.map PolicySnapshot.revision
    orgId := policy.map PolicySnapshot.orgId
    requiresApproval := false
    limits := none }

def sameId (casing : Casing) (left right : String) : Bool :=
  casing.toLowerCase left == casing.toLowerCase right

def usablePolicy (policy : PolicySnapshot) : Option PolicySettings :=
  if 0 < policy.orgId.length then policy.settings else none

def minLimit (values : List (Option Int)) : Option Int :=
  leastOf values

section Brain

variable (casing : Casing)

def groupsOf (policy : PolicySnapshot) (principalId : String) : List String :=
  (policy.groupMembers.filter fun member => sameId casing member.principalId principalId).map
    fun member => casing.toLowerCase member.groupId

def grantApplies (policy : PolicySnapshot) (principalId source : String) (grant : PolicyGrant) :
    Bool :=
  casing.toLowerCase grant.source == source &&
    (grant.principalId.any (fun holder => sameId casing holder principalId) ||
      grant.groupId.any fun groupId =>
        (groupsOf casing policy principalId).contains (casing.toLowerCase groupId))

def ceilingGrants (policy : PolicySnapshot) (principalId source : String) : List PolicyGrant :=
  policy.grants.filter fun grant =>
    grant.layer == .ceiling && grantApplies casing policy principalId source grant

def narrowGrants (policy : PolicySnapshot) (principalId source : String) : List PolicyGrant :=
  policy.grants.filter fun grant =>
    grant.layer == .narrow &&
      grant.principalId.any (fun holder => sameId casing holder principalId) &&
        casing.toLowerCase grant.source == source

def topGrant (first : PolicyGrant) (rest : List PolicyGrant) : PolicyGrant :=
  rest.foldl (fun best grant => if best.mode.rank < grant.mode.rank then grant else best) first

structure Ceiling where
  rank : Nat
  rule : String
  reason : DecisionReason

def grantRule (grant : PolicyGrant) : String := "grant:" ++ grant.id

/-- An agent writes its own source unless a row of its own says less; on another
source the best row counts, and none is no ceiling. -/
def brainCeiling (source : String) (rows : List PolicyGrant) : Option Ceiling :=
  if isAgentSource source then
    match rows.find? (fun grant => grant.principalId.isSome) with
    | some own => some { rank := own.mode.rank, rule := grantRule own, reason := .granted }
    | none => some { rank := BrainMode.write.rank, rule := "own-source", reason := .grantedOwnSource }
  else
    match rows with
    | [] => none
    | first :: rest =>
      let top := topGrant first rest
      some { rank := top.mode.rank, rule := grantRule top, reason := .granted }

def narrow (ceiling : Nat) (rows : List PolicyGrant) : Nat × Option PolicyGrant :=
  rows.foldl
    (fun held row => if row.mode.rank < held.1 then (row.mode.rank, some row) else held)
    (ceiling, none)

/-- `evaluateBrain`; `needed` is the rank of the action. -/
def evaluateBrain (policy : PolicySnapshot) (principal : PrincipalFacts) (needed : Nat)
    (resource : String) : Decision :=
  let source := casing.toLowerCase resource
  if isSource source = false then
    decision (some policy) false .malformedResource "source-grammar"
  else if isAgentSource source = true ∧
      sameId casing (substring 6 source) principal.principalId = false then
    decision (some policy) false .privateSourceForeign "private-source"
  else
    let rows := ceilingGrants casing policy principal.principalId source
    match rows.find? (fun grant => grant.mode.rank == BrainMode.none.rank) with
    | some denyRow => decision (some policy) false .explicitDeny (grantRule denyRow)
    | none =>
      match brainCeiling source rows with
      | none => decision (some policy) false .noGrant "default-deny"
      | some ceiling =>
        let effective :=
          narrow ceiling.rank (narrowGrants casing policy principal.principalId source)
        if needed ≤ effective.1 then
          decision (some policy) true ceiling.reason ceiling.rule
        else
          match effective.2 with
          | some narrowedBy => decision (some policy) false .narrowed (grantRule narrowedBy)
          | none => decision (some policy) false .grantInsufficient ceiling.rule

end Brain

section Send

variable (casing : Casing)

def edgesBetween (policy : PolicySnapshot) (layer : PolicyLayer) (sender receiver : String) :
    List PolicyEdge :=
  policy.edges.filter fun edge =>
    edge.layer == layer && (sameId casing edge.fromPrincipalId sender &&
      sameId casing edge.toPrincipalId receiver)

def lowestEdge (first : PolicyEdge) (rest : List PolicyEdge) : PolicyEdge :=
  rest.foldl (fun best edge => if edge.mode.rank < best.mode.rank then edge else best) first

def edgeRule (edge : PolicyEdge) : String := "edge:" ++ edge.id

def edgeLimits (settings : PolicySettings) (rows : List PolicyEdge) : EdgeLimits :=
  { maxMessagesPerHour := minLimit (rows.map PolicyEdge.maxMessagesPerHour)
    maxConcurrentRuns := minLimit (rows.map PolicyEdge.maxConcurrentRuns)
    maxHopDepth := settings.maxHopDepth }

def decideEdge (policy : PolicySnapshot) (settings : PolicySettings) (first : PolicyEdge)
    (rest : List PolicyEdge) : Decision :=
  let lowest := lowestEdge first rest
  match lowest.mode with
  | .deny => decision (some policy) false .edgeDenied (edgeRule lowest)
  | .approve =>
    { decision (some policy) false .approvalRequired (edgeRule lowest) with
      requiresApproval := true
      limits := some (edgeLimits settings (first :: rest)) }
  | .auto =>
    { decision (some policy) true .edgeAllowed (edgeRule lowest) with
      limits := some (edgeLimits settings (first :: rest)) }

def evaluateSend (policy : PolicySnapshot) (settings : PolicySettings) (principal : PrincipalFacts)
    (resource : Option PrincipalFacts) : Decision :=
  match resource with
  | none => decision (some policy) false .unknownPeer "peer-lookup"
  | some peer =>
    if sameId casing peer.orgId policy.orgId = false then
      decision (some policy) false .crossOrg "tenant"
    else if sameId casing peer.principalId principal.principalId = true then
      decision (some policy) false .selfEdge "no-self-edge"
    else if peer.state ≠ .joined then
      decision (some policy) false .peerNotJoined "peer-state"
    else if peer.memberActive = false then
      decision (some policy) false .peerMemberRemoved "peer-member"
    else
      match edgesBetween casing policy .ceiling principal.principalId peer.principalId with
      | [] => decision (some policy) false .noEdge "default-deny"
      | first :: rest =>
        decideEdge policy settings first
          (rest ++ edgesBetween casing policy .narrow principal.principalId peer.principalId)

end Send

def evaluateAction (casing : Casing) (policy : PolicySnapshot) (settings : PolicySettings)
    (principal : PrincipalFacts) (action : NetworkAction) (resource : NetworkResource) : Decision :=
  match action, resource with
  | .brainRead, .brainSource source =>
    evaluateBrain casing policy principal BrainMode.read.rank source
  | .brainWrite, .brainSource source =>
    evaluateBrain casing policy principal BrainMode.write.rank source
  | .a2aSend, .principal peer => evaluateSend casing policy settings principal peer
  | .unknown _, _ => decision (some policy) false .unknownAction "default-deny"
  | _, _ => decision (some policy) false .malformedResource "resource-kind"

def evaluate (casing : Casing) (policy : Option PolicySnapshot) (principal : Option PrincipalFacts)
    (action : NetworkAction) (resource : NetworkResource) : Decision :=
  match policy with
  | none => decision none false .noPolicy "default-deny"
  | some policy =>
    match usablePolicy policy with
    | none => decision none false .malformedPolicy "default-deny"
    | some settings =>
      if policy.revision < 1 then
        decision (some policy) false .unknownRevision "default-deny"
      else
        match principal with
        | none => decision (some policy) false .unknownPrincipal "principal-lookup"
        | some principal =>
          if sameId casing principal.orgId policy.orgId = false then
            decision (some policy) false .orgMismatch "tenant"
          else if settings.networkEnabled = false then
            decision (some policy) false .networkDisabled "org-settings"
          else if settings.paused = true then
            decision (some policy) false .orgPaused "org-settings"
          else if principal.state ≠ .joined then
            decision (some policy) false .principalNotJoined "principal-state"
          else if principal.memberActive = false then
            decision (some policy) false .memberRemoved "principal-member"
          else
            evaluateAction casing policy settings principal action resource

end Hivra.AgentNetwork
