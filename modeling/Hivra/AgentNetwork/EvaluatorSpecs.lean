import Hivra.AgentNetwork.PolicyEvaluator

/-!
# What the evaluator answers

The loops of the evaluator as least and greatest ranks, and its answers from them.
An answer has a rank, like an edge: a denial, an approval that is asked for, an
allowance.
-/

namespace Hivra.AgentNetwork

open Hivra.Library

/-- `0` denies, `1` waits for an approval, `2` allows. -/
def Decision.permission (decision : Decision) : Nat :=
  if decision.allow then 2 else if decision.requiresApproval then 1 else 0

def Decision.answer (decision : Decision) : Bool × DecisionReason :=
  (decision.allow, decision.reason)

theorem mode_rank_zero {mode : BrainMode} : mode.rank = 0 ↔ mode = .none := by
  cases mode with
  | none => simp [BrainMode.rank]
  | read => simp [BrainMode.rank]
  | write => simp [BrainMode.rank]

theorem narrow_rank {rows : List PolicyGrant} {ceiling needed : Nat} :
    needed ≤ (narrow ceiling rows).1 ↔ needed ≤ ceiling ∧ ∀ row ∈ rows, needed ≤ row.mode.rank := by
  have loop : ∀ held : Nat × Option PolicyGrant,
      needed ≤ (rows.foldl
          (fun held row => if row.mode.rank < held.1 then (row.mode.rank, some row) else held)
          held).1 ↔
        needed ≤ held.1 ∧ ∀ row ∈ rows, needed ≤ row.mode.rank := by
    induction rows with
    | nil => simp
    | cons row rest ih =>
      intro held
      rw [List.foldl_cons, ih]
      simp only [List.mem_cons, forall_eq_or_imp]
      split
      · rename_i less
        constructor
        · intro ⟨first, others⟩
          exact ⟨by omega, first, others⟩
        · intro ⟨_, first, others⟩
          exact ⟨first, others⟩
      · rename_i notLess
        constructor
        · intro ⟨first, others⟩
          exact ⟨first, by omega, others⟩
        · intro ⟨first, _, others⟩
          exact ⟨first, others⟩
  exact loop (ceiling, none)

theorem top_grant (first : PolicyGrant) (rest : List PolicyGrant) :
    topGrant first rest ∈ first :: rest ∧
      ∀ grant ∈ first :: rest, grant.mode.rank ≤ (topGrant first rest).mode.rank := by
  have picked : topGrant first rest ∈ (first :: rest).argmax fun grant => grant.mode.rank :=
    argmax_loop _ first rest
  apply And.intro (List.argmax_mem picked)
  intro grant member
  exact @List.le_of_mem_argmax _ _ _ (fun grant : PolicyGrant => grant.mode.rank) _ _ _ member picked

theorem lowest_edge (first : PolicyEdge) (rest : List PolicyEdge) :
    lowestEdge first rest ∈ first :: rest ∧
      ∀ edge ∈ first :: rest, (lowestEdge first rest).mode.rank ≤ edge.mode.rank := by
  have picked : lowestEdge first rest ∈ (first :: rest).argmin fun edge => edge.mode.rank :=
    argmin_loop _ first rest
  apply And.intro (List.argmin_mem picked)
  intro edge member
  exact @List.le_of_mem_argmin _ _ _ (fun edge : PolicyEdge => edge.mode.rank) _ _ _ member picked

section Brain

variable {casing : Casing} {policy : PolicySnapshot} {principal : PrincipalFacts}
variable {needed : Nat} {resource : String}

def CeilingAllows (source : String) (rows : List PolicyGrant) (needed : Nat) : Prop :=
  (∀ row ∈ rows, row.mode ≠ .none) ∧
    ∃ ceiling, brainCeiling source rows = some ceiling ∧ needed ≤ ceiling.rank

def SourceReached (casing : Casing) (principalId source : String) : Prop :=
  isSource source = true ∧
    (isAgentSource source = true → sameId casing (substring 6 source) principalId = true)

theorem brain_allows : (evaluateBrain casing policy principal needed resource).allow = true ↔
      SourceReached casing principal.principalId (casing.toLowerCase resource) ∧
      CeilingAllows (casing.toLowerCase resource)
        (ceilingGrants casing policy principal.principalId (casing.toLowerCase resource)) needed ∧
      ∀ row ∈ narrowGrants casing policy principal.principalId (casing.toLowerCase resource),
        needed ≤ row.mode.rank := by
  unfold evaluateBrain SourceReached CeilingAllows
  dsimp only
  generalize casing.toLowerCase resource = source
  generalize ceilingGrants casing policy principal.principalId source = rows
  generalize narrowGrants casing policy principal.principalId source = narrowing
  split
  · rename_i malformed
    simp [decision, malformed]
  · rename_i formed
    split
    · rename_i foreign
      simp [decision, foreign.1, foreign.2]
    · rename_i near
      have reached : isAgentSource source = true →
          sameId casing (substring 6 source) principal.principalId = true := by
        intro isPrivate
        by_contra foreign
        exact near ⟨isPrivate, by simpa using foreign⟩
      split
      · rename_i denyRow found
        have member := List.mem_of_find?_eq_some found
        have denies := List.find?_some found
        rw [beq_iff_eq] at denies
        constructor
        · intro impossible
          cases impossible
        · intro allowed
          exact absurd (mode_rank_zero.mp denies) (allowed.2.1.1 denyRow member)
      · rename_i missing
        have undenied : ∀ row ∈ rows, row.mode ≠ .none := by
          intro row member denied
          have passed := List.find?_eq_none.mp missing row member
          rw [beq_iff_eq] at passed
          exact passed (by rw [denied])
        split
        · rename_i noCeiling
          simp [decision, noCeiling]
        · rename_i ceiling held
          split
          · rename_i enough
            have both := narrow_rank.mp enough
            simp only [decision, true_iff]
            exact ⟨⟨by simpa using formed, reached⟩, ⟨undenied, ceiling, held, both.1⟩, both.2⟩
          · rename_i short
            have refused : ¬(needed ≤ ceiling.rank ∧ ∀ row ∈ narrowing, needed ≤ row.mode.rank) :=
              fun both => short (narrow_rank.mpr both)
            have answer : (∃ given, brainCeiling source rows = some given ∧ needed ≤ given.rank) →
                needed ≤ ceiling.rank := by
              intro ⟨given, same, enough⟩
              rw [held] at same
              rw [Option.some.inj same]
              exact enough
            split
            · simp only [decision, Bool.false_eq_true, false_iff]
              intro allowed
              exact refused ⟨answer allowed.2.1.2, allowed.2.2⟩
            · simp only [decision, Bool.false_eq_true, false_iff]
              intro allowed
              exact refused ⟨answer allowed.2.1.2, allowed.2.2⟩

theorem brain_answer_congr {other : PolicySnapshot}
    (ceilings : ceilingGrants casing policy principal.principalId (casing.toLowerCase resource) =
      ceilingGrants casing other principal.principalId (casing.toLowerCase resource))
    (narrowing : narrowGrants casing policy principal.principalId (casing.toLowerCase resource) =
      narrowGrants casing other principal.principalId (casing.toLowerCase resource)) :
    (evaluateBrain casing policy principal needed resource).answer =
      (evaluateBrain casing other principal needed resource).answer := by
  unfold evaluateBrain
  dsimp only
  rw [ceilings, narrowing]
  split
  · rfl
  · split
    · rfl
    · split
      · rfl
      · split
        · rfl
        · split
          · rfl
          · split <;> rfl

theorem brain_not_approval :
    (evaluateBrain casing policy principal needed resource).requiresApproval = false := by
  unfold evaluateBrain
  dsimp only
  split
  · rfl
  · split
    · rfl
    · split
      · rfl
      · split
        · rfl
        · split
          · rfl
          · split <;> rfl

end Brain

section Send

variable {casing : Casing} {policy : PolicySnapshot} {settings : PolicySettings}
variable {first : PolicyEdge} {rest : List PolicyEdge}

theorem decide_edge_permission :
    (decideEdge policy settings first rest).permission = (lowestEdge first rest).mode.rank := by
  unfold decideEdge
  dsimp only
  cases (lowestEdge first rest).mode with
  | deny => rfl
  | approve => rfl
  | auto => rfl

theorem decide_edge_rank {needed : Nat} :
    needed ≤ (decideEdge policy settings first rest).permission ↔
      ∀ edge ∈ first :: rest, needed ≤ edge.mode.rank := by
  rw [decide_edge_permission]
  have lowest := lowest_edge first rest
  constructor
  · intro enough edge member
    exact Nat.le_trans enough (lowest.2 edge member)
  · intro all
    exact all _ lowest.1

theorem decide_edge_limits (granted : (decideEdge policy settings first rest).permission ≠ 0) :
    (decideEdge policy settings first rest).limits = some (edgeLimits settings (first :: rest)) := by
  rw [decide_edge_permission] at granted
  unfold decideEdge
  dsimp only
  generalize lowestEdge first rest = lowest at granted ⊢
  cases mode : lowest.mode with
  | deny =>
    rw [mode] at granted
    exact absurd rfl granted
  | approve => rfl
  | auto => rfl

variable {principal : PrincipalFacts} {resource : Option PrincipalFacts}

structure PeerReached (casing : Casing) (policy : PolicySnapshot) (principal peer : PrincipalFacts) :
    Prop where
  org : sameId casing peer.orgId policy.orgId = true
  other : sameId casing peer.principalId principal.principalId = false
  joined : peer.state = .joined
  active : peer.memberActive = true

def edgesOf (casing : Casing) (policy : PolicySnapshot) (principal peer : PrincipalFacts) :
    List PolicyEdge :=
  edgesBetween casing policy .ceiling principal.principalId peer.principalId ++
    edgesBetween casing policy .narrow principal.principalId peer.principalId

section

variable {peer : PrincipalFacts} (reached : PeerReached casing policy principal peer)
include reached

theorem send_reached :
    evaluateSend casing policy settings principal (some peer) =
      match edgesBetween casing policy .ceiling principal.principalId peer.principalId with
      | [] => decision (some policy) false .noEdge "default-deny"
      | first :: rest =>
        decideEdge policy settings first
          (rest ++ edgesBetween casing policy .narrow principal.principalId
            peer.principalId) := by
  unfold evaluateSend
  simp only [reached.org, reached.other, reached.joined, reached.active]
  rfl

omit reached in
theorem send_granted
    (granted : (evaluateSend casing policy settings principal resource).permission ≠ 0) :
    ∃ peer, resource = some peer ∧ PeerReached casing policy principal peer := by
  cases resource with
  | none => exact absurd rfl granted
  | some peer =>
    apply Exists.intro peer
    apply And.intro rfl
    unfold evaluateSend at granted
    dsimp only at granted
    by_cases org : sameId casing peer.orgId policy.orgId = false
    · rw [if_pos org] at granted
      exact absurd rfl granted
    rw [if_neg org] at granted
    by_cases other : sameId casing peer.principalId principal.principalId = true
    · rw [if_pos other] at granted
      exact absurd rfl granted
    rw [if_neg other] at granted
    by_cases joined : peer.state ≠ .joined
    · rw [if_pos joined] at granted
      exact absurd rfl granted
    rw [if_neg joined] at granted
    by_cases active : peer.memberActive = false
    · rw [if_pos active] at granted
      exact absurd rfl granted
    exact
      { org := by simpa using org
        other := by simpa using other
        joined := by simpa using joined
        active := by simpa using active }

theorem send_rank {needed : Nat} (positive : 1 ≤ needed) :
    needed ≤ (evaluateSend casing policy settings principal (some peer)).permission ↔
      edgesBetween casing policy .ceiling principal.principalId peer.principalId ≠ [] ∧
        ∀ edge ∈ edgesOf casing policy principal peer, needed ≤ edge.mode.rank := by
  rw [send_reached reached]
  unfold edgesOf
  cases edgesBetween casing policy .ceiling principal.principalId peer.principalId with
  | nil =>
    have unranked : (decision (some policy) false .noEdge "default-deny").permission = 0 := rfl
    simp only [unranked, ne_eq, not_true_eq_false, false_and, iff_false]
    omega
  | cons first rest =>
    rw [decide_edge_rank]
    simp

theorem send_limits
    (granted : (evaluateSend casing policy settings principal (some peer)).permission ≠ 0) :
    (evaluateSend casing policy settings principal (some peer)).limits =
      some (edgeLimits settings (edgesOf casing policy principal peer)) := by
  rw [send_reached reached] at granted ⊢
  unfold edgesOf
  cases between : edgesBetween casing policy .ceiling principal.principalId peer.principalId with
  | nil =>
    rw [between] at granted
    exact absurd rfl granted
  | cons first rest =>
    rw [between] at granted
    dsimp only at granted ⊢
    rw [decide_edge_limits granted]
    rfl

def EdgeMode.reason : EdgeMode → DecisionReason
  | .deny => .edgeDenied
  | .approve => .approvalRequired
  | .auto => .edgeAllowed

structure SaysMode (decision : Decision) (mode : EdgeMode) (limits : EdgeLimits) : Prop where
  allow : decision.allow = (mode == .auto)
  requiresApproval : decision.requiresApproval = (mode == .approve)
  reason : decision.reason = mode.reason
  limits : decision.limits = if mode = .deny then none else some limits

omit reached in
theorem decide_edge_mode :
    SaysMode (decideEdge policy settings first rest) (lowestEdge first rest).mode
      (edgeLimits settings (first :: rest)) := by
  unfold decideEdge
  dsimp only
  cases (lowestEdge first rest).mode with
  | deny => exact ⟨rfl, rfl, rfl, rfl⟩
  | approve => exact ⟨rfl, rfl, rfl, rfl⟩
  | auto => exact ⟨rfl, rfl, rfl, rfl⟩

theorem send_mode
    (ceilings : edgesBetween casing policy .ceiling principal.principalId peer.principalId ≠ []) :
    ∃ lowest ∈ edgesOf casing policy principal peer,
      (∀ edge ∈ edgesOf casing policy principal peer, lowest.mode.rank ≤ edge.mode.rank) ∧
      SaysMode (evaluateSend casing policy settings principal (some peer)) lowest.mode
        (edgeLimits settings (edgesOf casing policy principal peer)) := by
  rw [send_reached reached]
  unfold edgesOf
  cases between : edgesBetween casing policy .ceiling principal.principalId peer.principalId with
  | nil => exact absurd between ceilings
  | cons first rest =>
    have lowest := lowest_edge first
      (rest ++ edgesBetween casing policy .narrow principal.principalId peer.principalId)
    exact ⟨_, lowest.1, lowest.2, decide_edge_mode⟩

end

end Send

section Evaluate

variable {casing : Casing} {policy : PolicySnapshot} {principal : PrincipalFacts}
variable {action : NetworkAction} {resource : NetworkResource}

structure Admitted (casing : Casing) (policy : PolicySnapshot) (settings : PolicySettings)
    (principal : PrincipalFacts) : Prop where
  usable : usablePolicy policy = some settings
  revision : 1 ≤ policy.revision
  org : sameId casing principal.orgId policy.orgId = true
  enabled : settings.networkEnabled = true
  running : settings.paused = false
  joined : principal.state = .joined
  active : principal.memberActive = true

theorem evaluate_admitted {settings : PolicySettings}
    (admitted : Admitted casing policy settings principal) :
    evaluate casing (some policy) (some principal) action resource =
      evaluateAction casing policy settings principal action resource := by
  have revision := admitted.revision
  unfold evaluate
  simp only [admitted.usable, admitted.org, admitted.enabled, admitted.running, admitted.joined,
    admitted.active]
  rw [if_neg (by omega)]
  simp

theorem evaluate_cases (casing : Casing) (policy : PolicySnapshot) (principal : PrincipalFacts) :
    (∃ settings, Admitted casing policy settings principal) ∨
      ∀ action resource,
        (evaluate casing (some policy) (some principal) action resource).permission = 0 ∧
        (evaluate casing (some policy) (some principal) action resource).limits = none := by
  unfold evaluate
  dsimp only
  cases usable : usablePolicy policy with
  | none => exact .inr fun _ _ => ⟨rfl, rfl⟩
  | some settings =>
    dsimp only
    by_cases revision : policy.revision < 1
    · simp only [if_pos revision]
      exact .inr fun _ _ => ⟨rfl, rfl⟩
    by_cases org : sameId casing principal.orgId policy.orgId = false
    · simp only [if_neg revision, if_pos org]
      exact .inr fun _ _ => ⟨rfl, rfl⟩
    by_cases enabled : settings.networkEnabled = false
    · simp only [if_neg revision, if_neg org, if_pos enabled]
      exact .inr fun _ _ => ⟨rfl, rfl⟩
    by_cases paused : settings.paused = true
    · simp only [if_neg revision, if_neg org, if_neg enabled, if_pos paused]
      exact .inr fun _ _ => ⟨rfl, rfl⟩
    by_cases joined : principal.state ≠ .joined
    · simp only [if_neg revision, if_neg org, if_neg enabled, if_neg paused, if_pos joined]
      exact .inr fun _ _ => ⟨rfl, rfl⟩
    by_cases active : principal.memberActive = false
    · simp only [if_neg revision, if_neg org, if_neg enabled, if_neg paused, if_neg joined,
        if_pos active]
      exact .inr fun _ _ => ⟨rfl, rfl⟩
    · exact .inl ⟨settings,
        { usable
          revision := by omega
          org := by simpa using org
          enabled := by simpa using enabled
          running := by simpa using paused
          joined := by simpa using joined
          active := by simpa using active }⟩

theorem evaluate_answer_congr {other : PolicySnapshot} (org : policy.orgId = other.orgId)
    (settings : policy.settings = other.settings) (revision : 1 ≤ policy.revision)
    (otherRevision : 1 ≤ other.revision)
    (rows : ∀ settings, (evaluateAction casing policy settings principal action resource).answer =
      (evaluateAction casing other settings principal action resource).answer) :
    (evaluate casing (some policy) (some principal) action resource).answer =
      (evaluate casing (some other) (some principal) action resource).answer := by
  unfold evaluate usablePolicy
  simp only [org, settings, if_neg (Nat.not_lt.mpr revision), if_neg (Nat.not_lt.mpr otherRevision)]
  split
  · rfl
  · split
    · rfl
    · split
      · rfl
      · split
        · rfl
        · split
          · rfl
          · split
            · rfl
            · exact rows _

end Evaluate

end Hivra.AgentNetwork
