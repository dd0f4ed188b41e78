import Hivra.AgentNetwork.EvaluatorSpecs
import Hivra.AgentNetwork.ExactSnapshots

/-!
# The publisher and the evaluator agree

The ceiling of a narrowing row is computed twice, by the publisher over the wanted
rows and by the evaluator over the rows of a snapshot.  On the snapshot a publish
leaves they are one ceiling, so an accepted narrowing row gives what it says.
-/

namespace Hivra.AgentNetwork

open Hivra.Library

/-! ## Ids and sources are plain -/

theorem uuid_plain (id : Uuid) : isPlain id.text = true := by
  have valid := id.valid
  unfold isUuid at valid
  rw [Bool.and_eq_true, List.all_eq_true] at valid
  unfold isPlain
  rw [List.all_eq_true]
  intro char member
  obtain ⟨place, held⟩ := List.mem_iff_getElem?.mp member
  have digit := valid.2 (char, place) (List.mk_mem_zipIdx_iff_getElem?.mpr held)
  dsimp only at digit
  split at digit
  · rw [beq_iff_eq] at digit
    rw [digit]
    rfl
  · have plain := hex_digit_plain digit
    simp [plain.1, plain.2]

theorem uuid_text_plain {text : String} (valid : isUuid text = true) : isPlain text = true :=
  uuid_plain { text, valid }

theorem source_plain {source : String} (grammar : isSource source = true) :
    isPlain source = true := by
  simp only [isSource, Bool.or_eq_true, beq_iff_eq, Bool.and_eq_true] at grammar
  obtain (org | team) | agent := grammar
  · rw [org]
    rfl
  · have split : source = "team/" ++ substring 5 source := headed team.1
    rw [split]
    exact plain_append rfl (uuid_text_plain team.2)
  · have split : source = "agent/" ++ substring 6 source := headed agent.1
    rw [split]
    exact plain_append rfl (uuid_text_plain agent.2)

def Names (casing : Casing) (principalId : Uuid) (text : String) : Prop :=
  sameId casing principalId.text text = true

theorem same_id_named {casing : Casing} {principalId other : Uuid} {text : String}
    (named : Names casing principalId text) :
    sameId casing other.text text = true ↔ other = principalId := by
  unfold Names sameId at named
  unfold sameId
  rw [beq_iff_eq, casing_plain casing (uuid_plain principalId)] at named
  rw [beq_iff_eq, casing_plain casing (uuid_plain other), ← named]
  constructor
  · exact Uuid.ext
  · exact congrArg Uuid.text

/-! ## The rows of a snapshot -/

section Rows

variable {casing : Casing} {orgId principalId : Uuid} {revision : Nat} {contents : PolicyContents}
variable {text source : String}

def CeilingRow (contents : PolicyContents) (principalId : Uuid) (source : String)
    (row : GrantRow) : Prop :=
  row.grant.layer = .ceiling ∧ row.grant.source = source ∧
    (row.grant.principalId = some principalId ∨
      ∃ groupId, row.grant.groupId = some groupId ∧
        { groupId, principalId } ∈ contents.groupMembers)

theorem in_groups_of (named : Names casing principalId text) {groupId : Uuid} :
    casing.toLowerCase groupId.text ∈
        groupsOf casing (snapshotOf orgId revision contents) text ↔
      ({ groupId, principalId } : GroupMember) ∈ contents.groupMembers := by
  unfold groupsOf
  simp only [List.mem_map, List.mem_filter, mem_snapshot_members]
  constructor
  · intro ⟨_, ⟨⟨member, there, rfl⟩, ofPrincipal⟩, same⟩
    have holder := (same_id_named named).mp ofPrincipal
    have group : member.groupId = groupId := by
      apply Uuid.ext
      rw [GroupMember.snapshot, casing_plain casing (uuid_plain member.groupId),
        casing_plain casing (uuid_plain groupId)] at same
      exact same
    rw [← holder, ← group]
    exact there
  · intro there
    exact ⟨_, ⟨⟨_, there, rfl⟩, (same_id_named named).mpr rfl⟩, rfl⟩

theorem same_source (shape : PolicyShape contents.terms) {row : GrantRow}
    (held : row ∈ contents.grants) : casing.toLowerCase row.snapshot.source = row.grant.source :=
  casing_plain casing (source_plain (shape.grants _ (held_grant held)).grammar)

theorem mem_ceiling_grants (shape : PolicyShape contents.terms)
    (named : Names casing principalId text) {grant : PolicyGrant} :
    grant ∈ ceilingGrants casing (snapshotOf orgId revision contents) text source ↔
      ∃ row ∈ contents.grants, row.snapshot = grant ∧ CeilingRow contents principalId source row := by
  unfold ceilingGrants grantApplies
  rw [List.mem_filter, mem_snapshot_grants]
  constructor
  · intro ⟨⟨row, held, same⟩, chosen⟩
    subst same
    rw [same_source shape held] at chosen
    simp only [Bool.and_eq_true, Bool.or_eq_true, beq_iff_eq] at chosen
    refine ⟨row, held, rfl, chosen.1, chosen.2.1, ?_⟩
    cases chosen.2.2 with
    | inl own =>
      cases holder : row.grant.principalId with
      | none => simp [GrantRow.snapshot, holder] at own
      | some other =>
        simp only [GrantRow.snapshot, holder, Option.map_some, Option.any_some] at own
        rw [(same_id_named named).mp own]
        exact .inl rfl
    | inr group =>
      cases holder : row.grant.groupId with
      | none => simp [GrantRow.snapshot, holder] at group
      | some groupId =>
        simp only [GrantRow.snapshot, holder, Option.map_some, Option.any_some,
          List.contains_iff_mem] at group
        exact .inr ⟨groupId, rfl, (in_groups_of named).mp group⟩
  · intro ⟨row, held, same, layer, about, holder⟩
    subst same
    refine ⟨⟨row, held, rfl⟩, ?_⟩
    rw [same_source shape held]
    simp only [Bool.and_eq_true, Bool.or_eq_true, beq_iff_eq]
    refine ⟨layer, about, ?_⟩
    cases holder with
    | inl own =>
      apply Or.inl
      simp only [GrantRow.snapshot, own, Option.map_some, Option.any_some]
      exact named
    | inr group =>
      obtain ⟨groupId, ofGroup, member⟩ := group
      apply Or.inr
      simp only [GrantRow.snapshot, ofGroup, Option.map_some, Option.any_some,
        List.contains_iff_mem]
      exact (in_groups_of named).mpr member

def NarrowRow (principalId : Uuid) (source : String) (row : GrantRow) : Prop :=
  row.grant.layer = .narrow ∧ row.grant.principalId = some principalId ∧ row.grant.source = source

theorem mem_narrow_grants (shape : PolicyShape contents.terms)
    (named : Names casing principalId text) {grant : PolicyGrant} :
    grant ∈ narrowGrants casing (snapshotOf orgId revision contents) text source ↔
      ∃ row ∈ contents.grants, row.snapshot = grant ∧ NarrowRow principalId source row := by
  unfold narrowGrants
  rw [List.mem_filter, mem_snapshot_grants]
  constructor
  · intro ⟨⟨row, held, same⟩, chosen⟩
    subst same
    rw [same_source shape held] at chosen
    simp only [Bool.and_eq_true, beq_iff_eq] at chosen
    refine ⟨row, held, rfl, chosen.1.1, ?_, chosen.2⟩
    have own := chosen.1.2
    cases holder : row.grant.principalId with
    | none => simp [GrantRow.snapshot, holder] at own
    | some other =>
      simp only [GrantRow.snapshot, holder, Option.map_some, Option.any_some] at own
      rw [(same_id_named named).mp own]
  · intro ⟨row, held, same, layer, own, about⟩
    subst same
    refine ⟨⟨row, held, rfl⟩, ?_⟩
    rw [same_source shape held]
    simp only [Bool.and_eq_true, beq_iff_eq]
    refine ⟨⟨layer, ?_⟩, about⟩
    simp only [GrantRow.snapshot, own, Option.map_some, Option.any_some]
    exact named

end Rows

/-! ## The two ceilings -/

theorem max_rank {grants : List BrainGrant} {needed : Nat} (positive : 1 ≤ needed) :
    needed ≤ maxRank grants ↔ ∃ grant ∈ grants, needed ≤ grant.mode.rank := by
  have loop : ∀ start, needed ≤ grants.foldl (fun rank grant => max rank grant.mode.rank) start ↔
      needed ≤ start ∨ ∃ grant ∈ grants, needed ≤ grant.mode.rank := by
    induction grants with
    | nil => simp
    | cons grant rest ih =>
      intro start
      rw [List.foldl_cons, ih, le_max_iff]
      simp only [List.mem_cons, exists_eq_or_imp, or_assoc]
  unfold maxRank
  rw [loop]
  constructor
  · intro either
    cases either with
    | inl zero => omega
    | inr found => exact found
  · exact .inr

theorem shared_ceiling {source : String} {rows : List PolicyGrant} {needed : Nat}
    (shared : isAgentSource source = false) :
    (∃ ceiling, brainCeiling source rows = some ceiling ∧ needed ≤ ceiling.rank) ↔
      ∃ row ∈ rows, needed ≤ row.mode.rank := by
  unfold brainCeiling
  rw [shared]
  cases rows with
  | nil => simp
  | cons first rest =>
    have top := top_grant first rest
    constructor
    · intro ⟨ceiling, same, enough⟩
      cases same
      exact ⟨_, top.1, enough⟩
    · intro ⟨row, member, enough⟩
      exact ⟨_, rfl, Nat.le_trans enough (top.2 row member)⟩

section Agreement

variable {casing : Casing} {orgId principalId : Uuid} {revision needed : Nat}
variable {contents : PolicyContents} {wanted : WantedPolicy} {text source : String}

theorem mem_ceiling_rows (same : contents.terms.Same wanted.terms) {grant : BrainGrant} :
    grant ∈ wanted.ceilingRows principalId source ↔
      ∃ row ∈ contents.grants, row.grant = grant ∧ CeilingRow contents principalId source row := by
  unfold WantedPolicy.ceilingRows WantedPolicy.appliesTo
  rw [List.mem_filter]
  simp only [Bool.and_eq_true, Bool.or_eq_true, beq_iff_eq, Option.any_eq_true]
  have inGroup (groupId : Uuid) : wanted.hasMember { groupId, principalId } = true ↔
      ({ groupId, principalId } : GroupMember) ∈ contents.groupMembers := by
    unfold WantedPolicy.hasMember
    rw [List.contains_iff_mem]
    exact (same.groupMembers _).symm
  constructor
  · intro ⟨there, ⟨layer, about⟩, holder⟩
    obtain ⟨row, held, rfl⟩ := List.mem_map.mp ((same.grants grant).mpr there)
    refine ⟨row, held, rfl, layer, about, ?_⟩
    cases holder with
    | inl own => exact .inl own
    | inr group =>
      obtain ⟨groupId, ofGroup, member⟩ := group
      exact .inr ⟨groupId, ofGroup, (inGroup groupId).mp member⟩
  · intro ⟨row, held, stated, layer, about, holder⟩
    subst stated
    refine ⟨(same.grants _).mp (held_grant held), ⟨layer, about⟩, ?_⟩
    cases holder with
    | inl own => exact .inl own
    | inr group =>
      obtain ⟨groupId, ofGroup, member⟩ := group
      exact .inr ⟨groupId, ofGroup, (inGroup groupId).mpr member⟩

section

variable (shape : PolicyShape contents.terms)
include shape

theorem own_row {row : GrantRow} (held : row ∈ contents.grants)
    (ceiling : CeilingRow contents principalId source row)
    (own : row.grant.principalId.isSome = true) : row.grant.principalId = some principalId := by
  cases ceiling.2.2 with
  | inl holder => exact holder
  | inr group =>
    obtain ⟨groupId, ofGroup, _⟩ := group
    have holder := (shape.grants _ (held_grant held)).holder
    rw [ofGroup] at holder
    rw [Option.isSome_iff_exists] at own
    obtain ⟨other, named⟩ := own
    simp [named] at holder

theorem own_rows_same {left right : GrantRow} (leftHeld : left ∈ contents.grants)
    (rightHeld : right ∈ contents.grants)
    (leftCeiling : CeilingRow contents principalId source left)
    (rightCeiling : CeilingRow contents principalId source right)
    (leftOwn : left.grant.principalId = some principalId)
    (rightOwn : right.grant.principalId = some principalId) : left.grant = right.grant := by
  apply shape.grantKeys _ (held_grant leftHeld) _ (held_grant rightHeld)
  unfold BrainGrant.wantKey
  rw [leftCeiling.1, rightCeiling.1, leftCeiling.2.1, rightCeiling.2.1, leftOwn, rightOwn]
  rfl

theorem private_ceiling (same : contents.terms.Same wanted.terms)
    (named : Names casing principalId text) (isPrivate : isAgentSource source = true) :
    (∃ ceiling, brainCeiling source
          (ceilingGrants casing (snapshotOf orgId revision contents) text source) = some ceiling ∧
        needed ≤ ceiling.rank) ↔
      needed ≤ match (wanted.ceilingRows principalId source).find?
          (fun grant => grant.principalId == some principalId) with
        | some own => own.mode.rank
        | none => 2 := by
  unfold brainCeiling
  rw [isPrivate]
  simp only [if_true]
  cases left : (ceilingGrants casing (snapshotOf orgId revision contents) text source).find?
      (fun grant => grant.principalId.isSome) with
  | some own =>
    have leftMember := List.mem_of_find?_eq_some left
    have leftOwn := List.find?_some left
    obtain ⟨row, held, rfl, ceiling⟩ := (mem_ceiling_grants shape named).mp leftMember
    have rowOwn := own_row shape held ceiling (by
      simpa [GrantRow.snapshot] using leftOwn)
    cases right : (wanted.ceilingRows principalId source).find?
        (fun grant => grant.principalId == some principalId) with
    | none =>
      have missing := List.find?_eq_none.mp right row.grant
        ((mem_ceiling_rows same).mpr ⟨row, held, rfl, ceiling⟩)
      simp [rowOwn] at missing
    | some other =>
      have rightMember := List.mem_of_find?_eq_some right
      have rightOwn := List.find?_some right
      rw [beq_iff_eq] at rightOwn
      obtain ⟨otherRow, otherHeld, rfl, otherCeiling⟩ := (mem_ceiling_rows same).mp rightMember
      have one := own_rows_same shape held otherHeld ceiling otherCeiling rowOwn rightOwn
      rw [← one]
      constructor
      · intro ⟨given, isGiven, enough⟩
        cases isGiven
        exact enough
      · intro enough
        exact ⟨_, rfl, enough⟩
  | none =>
    cases right : (wanted.ceilingRows principalId source).find?
        (fun grant => grant.principalId == some principalId) with
    | some other =>
      have rightMember := List.mem_of_find?_eq_some right
      have rightOwn := List.find?_some right
      rw [beq_iff_eq] at rightOwn
      obtain ⟨row, held, rfl, ceiling⟩ := (mem_ceiling_rows same).mp rightMember
      have missing := List.find?_eq_none.mp left row.snapshot
        ((mem_ceiling_grants shape named).mpr ⟨row, held, rfl, ceiling⟩)
      simp [GrantRow.snapshot, rightOwn] at missing
    | none =>
      constructor
      · intro ⟨given, isGiven, enough⟩
        cases isGiven
        exact enough
      · intro enough
        exact ⟨_, rfl, enough⟩

theorem ceiling_agrees (same : contents.terms.Same wanted.terms)
    (named : Names casing principalId text) (positive : 1 ≤ needed) : CeilingAllows source
        (ceilingGrants casing (snapshotOf orgId revision contents) text source) needed ↔
      needed ≤ wanted.ceilingRank principalId source := by
  unfold CeilingAllows WantedPolicy.ceilingRank
  dsimp only
  by_cases denied : (wanted.ceilingRows principalId source).any (fun grant => grant.mode == .none) =
      true
  · rw [if_pos denied]
    rw [List.any_eq_true] at denied
    obtain ⟨grant, member, isNone⟩ := denied
    rw [beq_iff_eq] at isNone
    obtain ⟨row, held, rfl, ceiling⟩ := (mem_ceiling_rows same).mp member
    constructor
    · intro allowed
      exact absurd isNone (allowed.1 row.snapshot
        ((mem_ceiling_grants shape named).mpr ⟨row, held, rfl, ceiling⟩))
    · intro impossible
      omega
  · rw [if_neg denied]
    have undenied : ∀ row ∈ ceilingGrants casing (snapshotOf orgId revision contents) text source,
        row.mode ≠ .none := by
      intro row member isNone
      obtain ⟨held, there, rfl, ceiling⟩ := (mem_ceiling_grants shape named).mp member
      apply denied
      rw [List.any_eq_true]
      exact ⟨held.grant, (mem_ceiling_rows same).mpr ⟨held, there, rfl, ceiling⟩,
        by rw [beq_iff_eq]; exact isNone⟩
    rw [and_iff_right undenied]
    by_cases isPrivate : isAgentSource source = true
    · rw [if_pos isPrivate]
      exact private_ceiling shape same named isPrivate
    · rw [if_neg isPrivate, shared_ceiling (by simpa using isPrivate), max_rank positive]
      constructor
      · intro ⟨row, member, enough⟩
        obtain ⟨held, there, rfl, ceiling⟩ := (mem_ceiling_grants shape named).mp member
        exact ⟨held.grant, (mem_ceiling_rows same).mpr ⟨held, there, rfl, ceiling⟩, enough⟩
      · intro ⟨grant, member, enough⟩
        obtain ⟨held, there, rfl, ceiling⟩ := (mem_ceiling_rows same).mp member
        exact ⟨held.snapshot, (mem_ceiling_grants shape named).mpr ⟨held, there, rfl, ceiling⟩,
          enough⟩

end

end Agreement

/-! ## Edges -/

section Edges

variable {casing : Casing} {orgId sender receiver : Uuid} {revision : Nat}
variable {contents : PolicyContents} {senderText receiverText : String}

theorem mem_edges_between (senderNamed : Names casing sender senderText)
    (receiverNamed : Names casing receiver receiverText) {layer : PolicyLayer} {edge : PolicyEdge} :
    edge ∈ edgesBetween casing (snapshotOf orgId revision contents) layer senderText receiverText ↔
      ∃ row ∈ contents.edges, row.snapshot = edge ∧ row.edge.layer = layer ∧
        row.edge.fromPrincipalId = sender ∧ row.edge.toPrincipalId = receiver := by
  unfold edgesBetween
  rw [List.mem_filter, mem_snapshot_edges]
  simp only [Bool.and_eq_true, beq_iff_eq]
  constructor
  · intro ⟨⟨row, held, same⟩, layer, sends, receives⟩
    subst same
    exact ⟨row, held, rfl, layer, (same_id_named senderNamed).mp sends,
      (same_id_named receiverNamed).mp receives⟩
  · intro ⟨row, held, same, layer, sends, receives⟩
    subst same
    exact ⟨⟨row, held, rfl⟩, layer, (same_id_named senderNamed).mpr sends,
      (same_id_named receiverNamed).mpr receives⟩

end Edges

theorem edge_rank_inj {left right : EdgeMode} (same : left.rank = right.rank) : left = right := by
  cases left with
  | deny => cases right <;> simp_all [EdgeMode.rank]
  | approve => cases right <;> simp_all [EdgeMode.rank]
  | auto => cases right <;> simp_all [EdgeMode.rank]

/-! ## Accepted rows -/

theorem authorize_changes_ok {role : OrgRole} {authorUserId : String} {wanted : WantedPolicy}
    {changes : PolicyDifference} {state : OrgState} {answer : Unit}
    (passed : authorizeChanges role authorUserId wanted changes state = .ok answer) :
    mayPublish role authorUserId changes state = true ∧
      (∀ grant ∈ changes.grantsAdded, withinCeiling wanted grant = true) ∧
      ∀ edge ∈ changes.edgesAdded, edgeWithinCeiling wanted edge = true := by
  unfold authorizeChanges at passed
  obtain ⟨_, allowed, passed⟩ := bind_ok passed
  obtain ⟨_, grants, passed⟩ := bind_ok passed
  have edges := refuse_if_ok passed
  have grants := refuse_if_ok grants
  rw [Bool.not_eq_false, List.all_eq_true] at edges grants
  exact ⟨by simpa using refuse_if_ok allowed, grants, edges⟩

theorem added_authorized {ids : RowIds} {role : OrgRole} {authorUserId : String}
    {reason : Option String} {wanted : WantedPolicy} {state next : OrgState} {revision : Nat}
    (published : Published ids role authorUserId reason wanted state revision next) :
    (∀ grant ∈ (difference wanted state).grantsAdded, withinCeiling wanted grant = true) ∧
      ∀ edge ∈ (difference wanted state).edgesAdded, edgeWithinCeiling wanted edge = true := by
  cases published with
  | unchanged same =>
    simp only [PolicyDifference.isEmpty, Bool.and_eq_true, List.isEmpty_iff] at same
    rw [same.1.1.1.2, same.1.2]
    constructor
    · intro grant member
      cases member
    · intro edge member
      cases member
  | written next differs authorized writes => exact (authorize_changes_ok authorized).2

section Accepted

variable {casing : Casing} {orgId principalId : Uuid} {revision : Nat}
variable {contents : PolicyContents} {wanted : WantedPolicy} {settings : PolicySettings}
variable {facts : PrincipalFacts}

theorem narrow_grant_decides (shape : PolicyShape contents.terms)
    (same : contents.terms.Same wanted.terms) {grant : BrainGrant}
    (there : grant ∈ wanted.grants) (layer : grant.layer = .narrow)
    (holder : grant.principalId = some principalId) (within : withinCeiling wanted grant = true)
    (named : Names casing principalId facts.principalId) {resource : String}
    (source : casing.toLowerCase resource = grant.source) {needed : Nat} (positive : 1 ≤ needed) :
    (evaluateBrain casing (snapshotOf orgId revision contents) facts needed resource).allow = true ↔
      needed ≤ grant.mode.rank := by
  obtain ⟨row, held, stated⟩ := List.mem_map.mp ((same.grants grant).mpr there)
  have grantShape := shape.grants grant ((same.grants grant).mpr there)
  have reached : SourceReached casing facts.principalId grant.source := by
    apply And.intro grantShape.grammar
    intro isPrivate
    have owned := grantShape.owned
    unfold ownsSource at owned
    rw [isPrivate, holder] at owned
    dsimp only at owned
    rw [Bool.not_true, Bool.false_or, beq_iff_eq] at owned
    have split : grant.source = "agent/" ++ substring 6 grant.source := headed isPrivate
    have rest : substring 6 grant.source = principalId.text := by
      apply String.append_right_inj "agent/" |>.mp
      rw [← split, owned]
    rw [rest]
    exact named
  have ceiling : grant.mode.rank ≤ wanted.ceilingRank principalId grant.source := by
    unfold withinCeiling at within
    rw [layer, holder] at within
    simpa using within
  have narrowing : (∀ narrowed ∈ narrowGrants casing (snapshotOf orgId revision contents)
      facts.principalId grant.source, needed ≤ narrowed.mode.rank) ↔ needed ≤ grant.mode.rank := by
    constructor
    · intro all
      have own := all row.snapshot ((mem_narrow_grants shape named).mpr
        ⟨row, held, rfl, by rw [stated]; exact layer, by rw [stated]; exact holder, by rw [stated]⟩)
      rw [← stated]
      exact own
    · intro enough narrowed member
      obtain ⟨other, otherHeld, rfl, otherLayer, otherHolder, otherSource⟩ :=
        (mem_narrow_grants shape named).mp member
      have one : other.grant = grant := by
        apply shape.grantKeys _ (held_grant otherHeld) _ ((same.grants grant).mpr there)
        unfold BrainGrant.wantKey
        rw [otherLayer, otherHolder, otherSource, layer, holder]
        rfl
      change needed ≤ other.grant.mode.rank
      rw [one]
      exact enough
  rw [brain_allows, source, ceiling_agrees shape same named positive, narrowing,
    and_iff_right reached]
  constructor
  · exact And.right
  · intro enough
    exact ⟨Nat.le_trans enough ceiling, enough⟩

/-- Between principals where a narrowing row under its ceiling stands, the row
decides, with its own limits and the ceiling's where it has none. -/
theorem narrow_edge_decides (shape : PolicyShape contents.terms)
    (same : contents.terms.Same wanted.terms) {edge : AgentEdge} (there : edge ∈ wanted.edges)
    (layer : edge.layer = .narrow) (within : edgeWithinCeiling wanted edge = true)
    {peer : PrincipalFacts} (senderNamed : Names casing edge.fromPrincipalId facts.principalId)
    (receiverNamed : Names casing edge.toPrincipalId peer.principalId)
    (reached : PeerReached casing (snapshotOf orgId revision contents) facts peer) :
    ∃ ceiling ∈ wanted.edges, ceiling.layer = .ceiling ∧
      ceiling.fromPrincipalId = edge.fromPrincipalId ∧
      ceiling.toPrincipalId = edge.toPrincipalId ∧
      SaysMode (evaluateSend casing (snapshotOf orgId revision contents) settings facts (some peer))
        edge.mode
        { maxMessagesPerHour := edge.maxMessagesPerHour.or ceiling.maxMessagesPerHour
          maxConcurrentRuns := edge.maxConcurrentRuns.or ceiling.maxConcurrentRuns
          maxHopDepth := settings.maxHopDepth } := by
  unfold edgeWithinCeiling at within
  rw [layer] at within
  simp only [bne_self_eq_false, Bool.false_or, List.any_eq_true] at within
  obtain ⟨ceiling, ceilingThere, under⟩ := within
  simp only [edgeUnder, Bool.and_eq_true, beq_iff_eq, decide_eq_true_eq] at under
  obtain ⟨⟨⟨⟨⟨ceilingLayer, ceilingFrom⟩, ceilingTo⟩, ranks⟩, messages⟩, runs⟩ := under
  obtain ⟨narrowRow, narrowHeld, narrowStated⟩ := List.mem_map.mp ((same.edges edge).mpr there)
  obtain ⟨ceilingRow, ceilingHeld, ceilingStated⟩ :=
    List.mem_map.mp ((same.edges ceiling).mpr ceilingThere)
  have ceilingMember : ceilingRow.snapshot ∈ edgesBetween casing
      (snapshotOf orgId revision contents) .ceiling facts.principalId peer.principalId := by
    apply (mem_edges_between senderNamed receiverNamed).mpr
    refine ⟨ceilingRow, ceilingHeld, rfl, ?_⟩
    rw [ceilingStated]
    exact ⟨ceilingLayer, ceilingFrom, ceilingTo⟩
  have narrowMember : narrowRow.snapshot ∈ edgesBetween casing
      (snapshotOf orgId revision contents) .narrow facts.principalId peer.principalId := by
    apply (mem_edges_between senderNamed receiverNamed).mpr
    refine ⟨narrowRow, narrowHeld, rfl, ?_⟩
    rw [narrowStated]
    exact ⟨layer, rfl, rfl⟩
  -- A row between the two is the ceiling's or the narrowing one: a key has one row.
  have only : ∀ row ∈ edgesOf casing (snapshotOf orgId revision contents) facts peer,
      (row.mode = edge.mode ∧ row.maxMessagesPerHour = edge.maxMessagesPerHour ∧
        row.maxConcurrentRuns = edge.maxConcurrentRuns) ∨
      (row.mode = ceiling.mode ∧ row.maxMessagesPerHour = ceiling.maxMessagesPerHour ∧
        row.maxConcurrentRuns = ceiling.maxConcurrentRuns) := by
    intro row member
    cases List.mem_append.mp member with
    | inl isCeiling =>
      obtain ⟨other, held, rfl, otherLayer, otherFrom, otherTo⟩ :=
        (mem_edges_between senderNamed receiverNamed).mp isCeiling
      have one : other.edge = ceiling := by
        apply shape.edgeKeys _ (held_edge held) _ ((same.edges ceiling).mpr ceilingThere)
        unfold AgentEdge.wantKey
        rw [otherLayer, otherFrom, otherTo, ceilingLayer, ceilingFrom, ceilingTo]
      rw [← one]
      exact .inr ⟨rfl, rfl, rfl⟩
    | inr isNarrow =>
      obtain ⟨other, held, rfl, otherLayer, otherFrom, otherTo⟩ :=
        (mem_edges_between senderNamed receiverNamed).mp isNarrow
      have one : other.edge = edge := by
        apply shape.edgeKeys _ (held_edge held) _ ((same.edges edge).mpr there)
        unfold AgentEdge.wantKey
        rw [otherLayer, otherFrom, otherTo, layer]
      rw [← one]
      exact .inl ⟨rfl, rfl, rfl⟩
  have ceilingIn : ceilingRow.snapshot ∈ edgesOf casing (snapshotOf orgId revision contents) facts
      peer := List.mem_append_left _ ceilingMember
  have narrowIn : narrowRow.snapshot ∈ edgesOf casing (snapshotOf orgId revision contents) facts
      peer := List.mem_append_right _ narrowMember
  obtain ⟨lowest, lowestIn, least, decides⟩ :=
    @send_mode _ _ settings _ _ reached (List.ne_nil_of_mem ceilingMember)
  have mode : lowest.mode = edge.mode := by
    have below := least _ narrowIn
    cases only lowest lowestIn with
    | inl narrow => exact narrow.1
    | inr isCeiling =>
      rw [isCeiling.1] at below ⊢
      change ceiling.mode.rank ≤ narrowRow.edge.mode.rank at below
      rw [narrowStated] at below
      exact edge_rank_inj (Nat.le_antisymm below ranks)
  have limits : edgeLimits settings (edgesOf casing (snapshotOf orgId revision contents) facts peer) =
      { maxMessagesPerHour := edge.maxMessagesPerHour.or ceiling.maxMessagesPerHour
        maxConcurrentRuns := edge.maxConcurrentRuns.or ceiling.maxConcurrentRuns
        maxHopDepth := settings.maxHopDepth } := by
    unfold edgeLimits minLimit
    congr 1
    · apply least_of_pair
      · intro value there
        obtain ⟨row, member, rfl⟩ := List.mem_map.mp there
        exact (only row member).imp (fun narrow => narrow.2.1) (fun isCeiling => isCeiling.2.1)
      · rw [← narrowStated]
        exact List.mem_map_of_mem narrowIn
      · rw [← ceilingStated]
        exact List.mem_map_of_mem ceilingIn
      · intro left right isLeft isRight
        simpa [limitWithin, isLeft, isRight] using messages
    · apply least_of_pair
      · intro value there
        obtain ⟨row, member, rfl⟩ := List.mem_map.mp there
        exact (only row member).imp (fun narrow => narrow.2.2) (fun isCeiling => isCeiling.2.2)
      · rw [← narrowStated]
        exact List.mem_map_of_mem narrowIn
      · rw [← ceilingStated]
        exact List.mem_map_of_mem ceilingIn
      · intro left right isLeft isRight
        simpa [limitWithin, isLeft, isRight] using runs
  rw [mode, limits] at decides
  exact ⟨ceiling, ceilingThere, ceilingLayer, ceilingFrom, ceilingTo, decides⟩

end Accepted

/-! ## Every publish -/

/-- Every narrowing row a publish adds gives exactly what it says: a grant its mode
on its source, an edge its mode, its limits and the ceiling's where it has none. -/
structure NarrowRowsDecide (casing : Casing) (wanted : WantedPolicy) (changes : PolicyDifference)
    (snapshot : PolicySnapshot) : Prop where
  grants : ∀ grant ∈ changes.grantsAdded, grant.layer = .narrow →
    ∃ principalId, grant.principalId = some principalId ∧
      ∀ settings facts resource, Names casing principalId facts.principalId →
        Admitted casing snapshot settings facts → casing.toLowerCase resource = grant.source →
          (evaluate casing (some snapshot) (some facts) .brainRead (.brainSource resource)).allow =
              (grant.mode == .read || grant.mode == .write) ∧
            (evaluate casing (some snapshot) (some facts) .brainWrite
                (.brainSource resource)).allow =
              (grant.mode == .write)
  edges : ∀ edge ∈ changes.edgesAdded, edge.layer = .narrow →
    ∀ settings facts peer, Names casing edge.fromPrincipalId facts.principalId →
      Names casing edge.toPrincipalId peer.principalId →
      Admitted casing snapshot settings facts → PeerReached casing snapshot facts peer →
      ∃ ceiling ∈ wanted.edges, ceiling.layer = .ceiling ∧
        ceiling.fromPrincipalId = edge.fromPrincipalId ∧
        ceiling.toPrincipalId = edge.toPrincipalId ∧
        SaysMode (evaluate casing (some snapshot) (some facts) .a2aSend (.principal (some peer)))
          edge.mode
          { maxMessagesPerHour := edge.maxMessagesPerHour.or ceiling.maxMessagesPerHour
            maxConcurrentRuns := edge.maxConcurrentRuns.or ceiling.maxConcurrentRuns
            maxHopDepth := settings.maxHopDepth }

theorem mode_allows {allow : Bool} {mode : BrainMode} {needed : Nat}
    (decides : allow = true ↔ needed ≤ mode.rank) : allow = decide (needed ≤ mode.rank) := by
  rw [Bool.eq_iff_iff, decides, decide_eq_true_iff]

theorem narrow_rows_decide {casing : Casing} {orgId : Uuid} {revision : Nat}
    {contents : PolicyContents} {wanted : WantedPolicy} {changes : PolicyDifference}
    (shape : PolicyShape contents.terms) (same : contents.terms.Same wanted.terms)
    (grantsAdded : ∀ grant ∈ changes.grantsAdded,
      grant ∈ wanted.grants ∧ withinCeiling wanted grant = true)
    (edgesAdded : ∀ edge ∈ changes.edgesAdded,
      edge ∈ wanted.edges ∧ edgeWithinCeiling wanted edge = true) :
    NarrowRowsDecide casing wanted changes (snapshotOf orgId revision contents) := by
  constructor
  · intro grant added layer
    have ⟨there, within⟩ := grantsAdded grant added
    have grantShape := shape.grants grant ((same.grants grant).mpr there)
    obtain ⟨principalId, holder⟩ := grantShape.narrow layer
    refine ⟨principalId, holder, ?_⟩
    intro settings facts resource named admitted source
    rw [evaluate_admitted admitted, evaluate_admitted admitted]
    have read := mode_allows (@narrow_grant_decides _ orgId _ revision _ _ _ shape same _ there layer
      holder within named _ source BrainMode.read.rank (by decide))
    have write := mode_allows (@narrow_grant_decides _ orgId _ revision _ _ _ shape same _ there
      layer holder within named _ source BrainMode.write.rank (by decide))
    unfold evaluateAction
    dsimp only
    rw [read, write]
    cases grant.mode with
    | none => exact ⟨rfl, rfl⟩
    | read => exact ⟨rfl, rfl⟩
    | write => exact ⟨rfl, rfl⟩
  · intro edge added layer settings facts peer senderNamed receiverNamed admitted reached
    have ⟨there, within⟩ := edgesAdded edge added
    rw [evaluate_admitted admitted]
    exact narrow_edge_decides shape same there layer within senderNamed receiverNamed reached

/-- Whatever a run has reached, the narrowing rows of an accepted document decide on
the snapshot it leaves. -/
theorem accepted_narrow_rows_decide (history : List NetworkEvent) (casing : Casing)
    {org : Organization} (member : org ∈ (Network.empty.after history).organizations)
    {call : PublishCall} {ids : RowIds} {revision : Nat} {state : OrgState}
    (published : publishPolicyRevision call ids org.state = .ok (revision, state)) :
    ∃ document wanted snapshot, call.document = some document ∧
      readDocument document = .ok wanted ∧
      policySnapshot { org with state } revision = some snapshot ∧
      NarrowRowsDecide casing wanted (difference wanted org.state) snapshot := by
  have kept := reached_kept history org member
  obtain ⟨_, _, document, wanted, _, _, asked, read, checks, writes⟩ := publish_ok published
  have outcome := published_outcome writes
  have same := published_terms outcome (check_wanted_ok checks).names
  have ⟨nextKept, _⟩ := publish_kept read checks writes kept
  have newest := @newest_snapshot { org with state } nextKept
  have authorized := added_authorized writes
  have current : state.currentRevision = revision := by
    cases writes with
    | unchanged nothing => rfl
    | written next differs allowed written => rfl
  dsimp only at newest
  rw [current] at newest
  refine ⟨document, wanted, _, asked, read, newest, ?_⟩
  apply narrow_rows_decide nextKept.shape same
  · intro grant added
    exact ⟨(List.mem_filter.mp added).1, authorized.1 grant added⟩
  · intro edge added
    exact ⟨(List.mem_filter.mp added).1, authorized.2 edge added⟩

/-! A team with two agents: Alice owns the team and the first, Bob the second. -/

def team : Uuid := ⟨"00000000-0000-4000-8000-00000000000f", by decide +kernel⟩

def aliceAgent : Uuid := ⟨"00000000-0000-4000-8000-00000000000a", by decide +kernel⟩

def bobAgent : Uuid := ⟨"00000000-0000-4000-8000-00000000000b", by decide +kernel⟩

def joins (agent : Uuid) (owner : String) (keyLetter : Char) : List NetworkEvent :=
  [.org team (.beginJoin agent (some owner) (some owner) true agent),
    .org team (.setPrincipalKey agent (some (String.ofList (List.replicate 43 keyLetter)))
      (some owner)),
    .org team (.transitionPrincipal agent .joined (some owner) none)]

def rowIds (id : Uuid) : RowIds :=
  { grant := fun _ => id, edge := fun _ => id }

/-- The network is on, Bob's agent writes the shared source, and the first agent
sends to the second. -/
def ceilingDocument : PolicyDocument :=
  { settings :=
      { networkEnabled := some true
        paused := some false
        buzzBindingDefault := some "forbidden"
        maxHopDepth := some 3 }
    groups := []
    groupMembers := []
    grants :=
      [{ layer := some "ceiling"
         principalId := some bobAgent
         groupId := none
         source := some "ORG"
         mode := some "write" }]
    edges :=
      [{ layer := some "ceiling"
         fromPrincipalId := some aliceAgent
         toPrincipalId := some bobAgent
         mode := some "auto"
         maxMessagesPerHour := some 9
         maxConcurrentRuns := some 2 }] }

def narrowedDocument : PolicyDocument :=
  { ceilingDocument with
    grants :=
      { layer := some "narrow"
        principalId := some bobAgent
        groupId := none
        source := some "org"
        mode := some "read" } :: ceilingDocument.grants
    edges :=
      { layer := some "narrow"
        fromPrincipalId := some aliceAgent
        toPrincipalId := some bobAgent
        mode := some "approve"
        maxMessagesPerHour := some 5
        maxConcurrentRuns := none } :: ceilingDocument.edges }

def publishes (expectedRevision : Nat) (author : String) (document : PolicyDocument) :
    PublishCall :=
  { expectedRevision := some expectedRevision
    authorUserId := some author
    reason := none
    document := some document }

def teamHistory : List NetworkEvent :=
  ([.createOrg (some .team) (some "alice") (some "Team") team,
      .org team (.addMember (some "bob") (some .member) (some "alice"))] : List NetworkEvent) ++
    joins aliceAgent "alice" 'A' ++ joins bobAgent "bob" 'B' ++
    ([.org team (.publish (publishes 1 "alice" ceilingDocument) (rowIds team))] :
      List NetworkEvent)

theorem narrowed_accepted : ∃ org ∈ (Network.empty.after teamHistory).organizations, ∃ state,
    publishPolicyRevision (publishes 2 "bob" narrowedDocument) (rowIds bobAgent) org.state =
      .ok (3, state) := by
  have accepted : ∃ org ∈ (Network.empty.after teamHistory).organizations.rows,
      (publishPolicyRevision (publishes 2 "bob" narrowedDocument) (rowIds bobAgent)
        org.state).toOption.map Prod.fst = some 3 := by
    decide +kernel
  obtain ⟨org, member, returned⟩ := accepted
  refine ⟨org, member, ?_⟩
  cases answer : publishPolicyRevision (publishes 2 "bob" narrowedDocument) (rowIds bobAgent)
      org.state with
  | error raised =>
    rw [answer] at returned
    cases returned
  | ok pair =>
    rw [answer] at returned
    have revision : pair.1 = 3 := Option.some.inj returned
    exact ⟨pair.2, by rw [← revision]⟩

/-- So what Bob's rows say is what the evaluator answers. -/
theorem narrowed_team_decides : ∃ org ∈ (Network.empty.after teamHistory).organizations,
    ∃ state wanted snapshot, readDocument narrowedDocument = .ok wanted ∧
      policySnapshot { org with state } 3 = some snapshot ∧
      NarrowRowsDecide .asciiOnly wanted (difference wanted org.state) snapshot := by
  obtain ⟨org, member, state, published⟩ := narrowed_accepted
  obtain ⟨document, wanted, snapshot, asked, read, newest, decides⟩ :=
    accepted_narrow_rows_decide teamHistory .asciiOnly member published
  cases asked
  exact ⟨org, member, state, wanted, snapshot, read, newest, decides⟩

end Hivra.AgentNetwork
