import Hivra.AgentNetwork.MemberNarrowing

/-!
# One narrowing edge for two owners

Between two agents there is one narrowing edge, and the owner of either end may
change it.  So the owner of the sending agent can take away what the owner of the
receiving agent has set: a publish keeps the earlier narrowing exactly when its own
rows between the two are as strict.
-/

namespace Hivra.AgentNetwork

open Hivra.Library

def LimitNotRaised (after before : Option Int) : Prop :=
  ∀ limit, before = some limit → ∃ given, after = some given ∧ given ≤ limit

structure NoMorePermissive (after before : Decision) : Prop where
  permission : after.permission ≤ before.permission
  limits : after.permission ≠ 0 →
    ∃ afterLimits beforeLimits, after.limits = some afterLimits ∧
      before.limits = some beforeLimits ∧
      LimitNotRaised afterLimits.maxMessagesPerHour beforeLimits.maxMessagesPerHour ∧
      LimitNotRaised afterLimits.maxConcurrentRuns beforeLimits.maxConcurrentRuns ∧
      afterLimits.maxHopDepth ≤ beforeLimits.maxHopDepth

def AgentEdge.between (edge : AgentEdge) (sender receiver : Uuid) : Prop :=
  edge.fromPrincipalId = sender ∧ edge.toPrincipalId = receiver

def LimitKept (wanted : WantedPolicy) (sender receiver : Uuid) (limitOf : AgentEdge → Option Int)
    (old : Option Int) : Prop :=
  ∀ limit, old = some limit →
    ∃ edge ∈ wanted.edges, edge.between sender receiver ∧
      ∃ given, limitOf edge = some given ∧ given ≤ limit

/-- The document denies between the two agents, or one of its rows there is as low as
the old row and one as small as each limit the old row has. -/
def KeepsNarrowing (wanted : WantedPolicy) (sender receiver : Uuid) (old : AgentEdge) : Prop :=
  (∃ edge ∈ wanted.edges, edge.between sender receiver ∧ edge.mode = .deny) ∨
    (∃ edge ∈ wanted.edges, edge.between sender receiver ∧ edge.mode.rank ≤ old.mode.rank) ∧
      LimitKept wanted sender receiver AgentEdge.maxMessagesPerHour old.maxMessagesPerHour ∧
      LimitKept wanted sender receiver AgentEdge.maxConcurrentRuns old.maxConcurrentRuns

/-- Nothing is sent between the two agents: the network is off or paused, or there is
no ceiling edge. -/
def NothingSent (wanted : WantedPolicy) (sender receiver : Uuid) : Prop :=
  wanted.settings.networkEnabled = false ∨ wanted.settings.paused = true ∨
    ∀ edge ∈ wanted.edges, edge.between sender receiver → edge.layer ≠ .ceiling

section Rows

variable {casing : Casing} {orgId sender receiver : Uuid} {revision : Nat}
variable {contents : PolicyContents} {principal peer : PrincipalFacts}

theorem mem_edges_of (senderNamed : Names casing sender principal.principalId)
    (receiverNamed : Names casing receiver peer.principalId) {edge : PolicyEdge} :
    edge ∈ edgesOf casing (snapshotOf orgId revision contents) principal peer ↔
      ∃ row ∈ contents.edges, row.snapshot = edge ∧ row.edge.between sender receiver := by
  unfold edgesOf
  rw [List.mem_append, mem_edges_between senderNamed receiverNamed,
    mem_edges_between senderNamed receiverNamed]
  constructor
  · intro either
    cases either with
    | inl ceiling =>
      obtain ⟨row, held, same, _, ends⟩ := ceiling
      exact ⟨row, held, same, ends⟩
    | inr narrow =>
      obtain ⟨row, held, same, _, ends⟩ := narrow
      exact ⟨row, held, same, ends⟩
  · intro ⟨row, held, same, ends⟩
    cases layer : row.edge.layer with
    | ceiling => exact .inl ⟨row, held, same, layer, ends⟩
    | narrow => exact .inr ⟨row, held, same, layer, ends⟩

theorem ceilings_exist {wanted : WantedPolicy} (same : contents.terms.Same wanted.terms)
    (senderNamed : Names casing sender principal.principalId)
    (receiverNamed : Names casing receiver peer.principalId) :
    edgesBetween casing (snapshotOf orgId revision contents) .ceiling principal.principalId
        peer.principalId ≠ [] ↔
      ∃ edge ∈ wanted.edges, edge.between sender receiver ∧ edge.layer = .ceiling := by
  constructor
  · intro some
    have ⟨_, member⟩ := List.exists_mem_of_ne_nil _ some
    have ⟨row, held, _, layer, ends⟩ := (mem_edges_between senderNamed receiverNamed).mp member
    exact ⟨row.edge, (same.edges _).mp (held_edge held), ends, layer⟩
  · intro ⟨edge, there, ends, layer⟩
    obtain ⟨row, held, rfl⟩ := List.mem_map.mp ((same.edges edge).mpr there)
    exact List.ne_nil_of_mem
      ((mem_edges_between senderNamed receiverNamed).mpr ⟨row, held, rfl, layer, ends⟩)

theorem wanted_edge {wanted : WantedPolicy} (same : contents.terms.Same wanted.terms)
    (senderNamed : Names casing sender principal.principalId)
    (receiverNamed : Names casing receiver peer.principalId) {edge : AgentEdge}
    (there : edge ∈ wanted.edges) (ends : edge.between sender receiver) :
    ∃ row : EdgeRow, row.edge = edge ∧
      row.snapshot ∈ edgesOf casing (snapshotOf orgId revision contents) principal peer := by
  obtain ⟨row, held, isEdge⟩ := List.mem_map.mp ((same.edges edge).mpr there)
  rw [← isEdge] at ends
  exact ⟨row, isEdge, (mem_edges_of senderNamed receiverNamed).mpr ⟨row, held, rfl, ends⟩⟩

theorem edge_wanted {wanted : WantedPolicy} (same : contents.terms.Same wanted.terms)
    (senderNamed : Names casing sender principal.principalId)
    (receiverNamed : Names casing receiver peer.principalId) {edge : PolicyEdge}
    (there : edge ∈ edgesOf casing (snapshotOf orgId revision contents) principal peer) :
    ∃ row : EdgeRow, row.snapshot = edge ∧ row.edge ∈ wanted.edges ∧
      row.edge.between sender receiver := by
  obtain ⟨row, held, isEdge, ends⟩ := (mem_edges_of senderNamed receiverNamed).mp there
  exact ⟨row, isEdge, (same.edges _).mp (held_edge held), ends⟩

end Rows

section Compared

variable {casing : Casing} {orgId sender receiver : Uuid} {afterRevision beforeRevision : Nat}
variable {after before : PolicyContents} {wanted : WantedPolicy} {old : EdgeRow}
variable {principal peer : PrincipalFacts}

section Kept

variable (senderNamed : Names casing sender principal.principalId)
  (receiverNamed : Names casing receiver peer.principalId)
  (same : after.terms.Same wanted.terms)
variable {settings : PolicySettings}
  (reached : PeerReached casing (snapshotOf orgId afterRevision after) principal peer)
  (someCeiling : edgesBetween casing (snapshotOf orgId afterRevision after) .ceiling
    principal.principalId peer.principalId ≠ [])

include senderNamed receiverNamed same reached someCeiling in
/-- What is granted is the least that the rows of the document grant. -/
theorem granted_iff {needed : Nat} (positive : 1 ≤ needed) :
    needed ≤ (evaluateSend casing (snapshotOf orgId afterRevision after) settings principal
        (some peer)).permission ↔
      ∀ edge ∈ wanted.edges, edge.between sender receiver → needed ≤ edge.mode.rank := by
  apply (send_rank reached positive).trans
  constructor
  · intro all edge there rowEnds
    obtain ⟨row, isRow, rowThere⟩ := @wanted_edge _ orgId _ _ afterRevision _ _ _ _ same
      senderNamed receiverNamed _ there rowEnds
    rw [← isRow]
    exact all.2 row.snapshot rowThere
  · intro all
    apply And.intro someCeiling
    intro edge there
    obtain ⟨row, isRow, rowThere, rowEnds⟩ := edge_wanted same senderNamed receiverNamed there
    rw [← isRow]
    exact all row.edge rowThere rowEnds

include senderNamed receiverNamed same reached someCeiling in
theorem row_denies (denied : (evaluateSend casing (snapshotOf orgId afterRevision after) settings
    principal (some peer)).permission = 0) :
    ∃ edge ∈ wanted.edges, edge.between sender receiver ∧ edge.mode = .deny := by
  by_contra none
  have granted := (@granted_iff _ _ _ _ _ _ _ _ _ senderNamed receiverNamed same settings reached
    someCeiling 1 (Nat.le_refl 1)).mpr
  rw [denied] at granted
  apply absurd (granted _) (by omega)
  intro edge there rowEnds
  by_contra low
  apply none
  refine ⟨edge, there, rowEnds, ?_⟩
  apply edge_rank_inj
  change edge.mode.rank = 0
  omega

variable (shape : PolicyShape before.terms)
  (ceilings : SameCeilings casing (snapshotOf orgId afterRevision after)
    (snapshotOf orgId beforeRevision before))
  (held : old ∈ before.edges) (layer : old.edge.layer = .narrow)
  (ends : old.edge.between sender receiver)

include shape ceilings held layer ends senderNamed receiverNamed

theorem rows_before {edge : PolicyEdge}
    (member : edge ∈ edgesOf casing (snapshotOf orgId beforeRevision before) principal peer) :
    edge ∈ edgesOf casing (snapshotOf orgId afterRevision after) principal peer ∨
      ∃ row : EdgeRow, row.snapshot = edge ∧ row.edge = old.edge := by
  cases List.mem_append.mp member with
  | inl isCeiling =>
    rw [← ceilings.edges] at isCeiling
    exact .inl (List.mem_append_left _ isCeiling)
  | inr isNarrow =>
    obtain ⟨row, rowHeld, isRow, rowLayer, rowFrom, rowTo⟩ :=
      (mem_edges_between senderNamed receiverNamed).mp isNarrow
    have one : row.edge = old.edge := by
      apply shape.edgeKeys _ (held_edge rowHeld) _ (held_edge held)
      unfold AgentEdge.wantKey
      rw [rowLayer, rowFrom, rowTo, layer, ends.1, ends.2]
    exact .inr ⟨row, isRow, one⟩

include same

theorem limit_kept_iff (limitOf : AgentEdge → Option Int) (shown : PolicyEdge → Option Int)
    (shows : ∀ row : EdgeRow, shown row.snapshot = limitOf row.edge) : LimitNotRaised
        (minLimit ((edgesOf casing (snapshotOf orgId afterRevision after) principal peer).map shown))
        (minLimit
          ((edgesOf casing (snapshotOf orgId beforeRevision before) principal peer).map shown)) ↔
      LimitKept wanted sender receiver limitOf (limitOf old.edge) := by
  constructor
  · intro notRaised limit isLimit
    have oldThere : some limit ∈ (edgesOf casing (snapshotOf orgId beforeRevision before) principal
        peer).map shown := by
      rw [← isLimit, ← shows]
      exact List.mem_map_of_mem
        ((mem_edges_of senderNamed receiverNamed).mpr ⟨old, held, rfl, ends⟩)
    have ⟨least, isLeast, below⟩ := least_of_le oldThere
    have ⟨given, isGiven, within⟩ := notRaised least isLeast
    obtain ⟨edge, there, isEdge⟩ := List.mem_map.mp (least_of_some.mp isGiven).1
    obtain ⟨row, isRow, rowThere, rowEnds⟩ := edge_wanted same senderNamed receiverNamed there
    rw [← isRow, shows] at isEdge
    exact ⟨row.edge, rowThere, rowEnds, given, isEdge, le_trans within below⟩
  · intro kept limit isLimit
    obtain ⟨edge, there, isEdge⟩ := List.mem_map.mp (least_of_some.mp isLimit).1
    cases rows_before senderNamed receiverNamed shape ceilings held layer ends there with
    | inl stays =>
      apply least_of_le
      rw [← isEdge]
      exact List.mem_map_of_mem stays
    | inr isOld =>
      obtain ⟨row, isRow, isOld⟩ := isOld
      rw [← isRow, shows, isOld] at isEdge
      obtain ⟨wantedRow, wantedThere, wantedEnds, given, isGiven, below⟩ := kept limit isEdge
      obtain ⟨afterRow, isWanted, afterThere⟩ := @wanted_edge _ orgId _ _ afterRevision _ _ _ _ same
        senderNamed receiverNamed _ wantedThere wantedEnds
      have inRows : some given ∈ (edgesOf casing (snapshotOf orgId afterRevision after) principal
          peer).map shown := by
        rw [← isGiven, ← isWanted, ← shows]
        exact List.mem_map_of_mem afterThere
      have ⟨least, isLeast, leastBelow⟩ := least_of_le inRows
      exact ⟨least, isLeast, le_trans leastBelow below⟩

include reached someCeiling

theorem narrowing_kept (granted : (evaluateSend casing (snapshotOf orgId afterRevision after)
      settings principal (some peer)).permission ≠ 0)
    (compared : NoMorePermissive
      (evaluateSend casing (snapshotOf orgId afterRevision after) settings principal (some peer))
      (evaluateSend casing (snapshotOf orgId beforeRevision before) settings principal
        (some peer))) : KeepsNarrowing wanted sender receiver old.edge := by
  have reachedBefore : PeerReached casing (snapshotOf orgId beforeRevision before) principal peer :=
    ⟨reached.org, reached.other, reached.joined, reached.active⟩
  have grantedBefore := Nat.le_trans (Nat.one_le_iff_ne_zero.mpr granted) compared.permission
  have ⟨afterLimits, beforeLimits, isAfter, isBefore, keptMessages, keptRuns, _⟩ :=
    compared.limits granted
  rw [send_limits reached granted, Option.some.injEq] at isAfter
  rw [send_limits reachedBefore (by omega), Option.some.injEq] at isBefore
  rw [← isAfter, ← isBefore] at keptMessages keptRuns
  have limits := limit_kept_iff senderNamed receiverNamed same shape ceilings held layer ends
  refine .inr ⟨?_, (limits _ _ fun _ => rfl).mp keptMessages,
    (limits _ _ fun _ => rfl).mp keptRuns⟩
  by_contra none
  have above : old.edge.mode.rank + 1 ≤ (evaluateSend casing
      (snapshotOf orgId afterRevision after) settings principal (some peer)).permission := by
    apply (granted_iff senderNamed receiverNamed same reached someCeiling (by omega)).mpr
    intro edge there rowEnds
    by_contra low
    exact none ⟨edge, there, rowEnds, by omega⟩
  have underOld := ((send_rank reachedBefore grantedBefore).mp (Nat.le_refl _)).2 _
    ((mem_edges_of senderNamed receiverNamed).mpr ⟨old, held, rfl, ends⟩)
  have permission := compared.permission
  change _ ≤ old.edge.mode.rank at underOld
  omega

theorem narrowing_compared (granted : (evaluateSend casing (snapshotOf orgId afterRevision after)
      settings principal (some peer)).permission ≠ 0)
    (kept : KeepsNarrowing wanted sender receiver old.edge) : NoMorePermissive
      (evaluateSend casing (snapshotOf orgId afterRevision after) settings principal (some peer))
      (evaluateSend casing (snapshotOf orgId beforeRevision before) settings principal
        (some peer)) := by
  have reachedBefore : PeerReached casing (snapshotOf orgId beforeRevision before) principal peer :=
    ⟨reached.org, reached.other, reached.joined, reached.active⟩
  have positive := Nat.one_le_iff_ne_zero.mpr granted
  have all := (granted_iff senderNamed receiverNamed same reached someCeiling positive).mp
    (Nat.le_refl _)
  obtain ⟨edge, there, rowEnds, isDeny⟩ | ⟨strict, keptMessages, keptRuns⟩ := kept
  · have low := all edge there rowEnds
    rw [isDeny] at low
    exact absurd (Nat.le_zero.mp low) granted
  obtain ⟨strict, strictThere, strictEnds, strictRank⟩ := strict
  have permission : (evaluateSend casing (snapshotOf orgId afterRevision after) settings
      principal (some peer)).permission ≤ (evaluateSend casing
      (snapshotOf orgId beforeRevision before) settings principal (some peer)).permission := by
    apply (send_rank reachedBefore positive).mpr
    constructor
    · rw [← ceilings.edges]
      exact someCeiling
    intro edge member
    cases rows_before senderNamed receiverNamed shape ceilings held layer ends member with
    | inl stays => exact ((send_rank reached positive).mp (Nat.le_refl _)).2 edge stays
    | inr isOld =>
      obtain ⟨row, isRow, isOld⟩ := isOld
      rw [← isRow]
      change _ ≤ row.edge.mode.rank
      rw [isOld]
      exact Nat.le_trans (all strict strictThere strictEnds) strictRank
  have limits := limit_kept_iff senderNamed receiverNamed same shape ceilings held layer ends
  constructor
  · exact permission
  · intro granted
    exact ⟨_, _, send_limits reached granted, send_limits reachedBefore (by omega),
      (limits _ _ fun _ => rfl).mpr keptMessages, (limits _ _ fun _ => rfl).mpr keptRuns,
      le_refl _⟩

/-- Where the sender reaches the receiver and a ceiling row is there, the message is no
more permissive exactly when the document keeps the narrowing. -/
theorem send_kept_iff : NoMorePermissive
        (evaluateSend casing (snapshotOf orgId afterRevision after) settings principal (some peer))
        (evaluateSend casing (snapshotOf orgId beforeRevision before) settings principal
          (some peer)) ↔
      KeepsNarrowing wanted sender receiver old.edge := by
  by_cases denied : (evaluateSend casing (snapshotOf orgId afterRevision after) settings principal
      (some peer)).permission = 0
  · apply iff_of_true
    · constructor
      · rw [denied]
        exact Nat.zero_le _
      · intro granted
        exact absurd denied granted
    · exact .inl (row_denies senderNamed receiverNamed same reached someCeiling denied)
  · constructor
    · exact narrowing_kept senderNamed receiverNamed same reached someCeiling shape ceilings held
        layer ends denied
    · exact narrowing_compared senderNamed receiverNamed same reached someCeiling shape ceilings
        held layer ends denied

end Kept

def joinedFacts (orgId principalId : Uuid) : PrincipalFacts :=
  { principalId := principalId.text
    orgId := orgId.text
    state := .joined
    memberActive := true }

theorem joined_named (casing : Casing) (orgId principalId : Uuid) :
    Names casing principalId (joinedFacts orgId principalId).principalId := by
  unfold Names sameId joinedFacts
  exact beq_self_eq_true _

theorem joined_admitted (casing : Casing) (orgId principalId : Uuid)
    (settings : after.settings = [wanted.settings]) (positive : 1 ≤ afterRevision)
    (enabled : wanted.settings.networkEnabled = true) (running : wanted.settings.paused = false) :
    Admitted casing (snapshotOf orgId afterRevision after) wanted.settings
      (joinedFacts orgId principalId) where
  usable := by
    have valid := orgId.valid
    simp only [isUuid, Bool.and_eq_true, beq_iff_eq] at valid
    unfold usablePolicy snapshotOf
    dsimp only
    rw [if_pos (by omega), settings, List.head?_cons]
  revision := positive
  org := by
    unfold sameId joinedFacts
    exact beq_self_eq_true _
  enabled := enabled
  running := running
  joined := rfl
  active := rfl

theorem joined_reached (casing : Casing) (orgId : Uuid) (apart : sender ≠ receiver) :
    PeerReached casing (snapshotOf orgId afterRevision after) (joinedFacts orgId sender)
      (joinedFacts orgId receiver) where
  org := by
    unfold sameId joinedFacts
    exact beq_self_eq_true _
  other := by
    rw [Bool.eq_false_iff]
    intro same
    exact apart ((same_id_named (joined_named casing orgId sender)).mp same).symm
  joined := rfl
  active := rfl

theorem admitted_settings {settings given : PolicySettings} (held : after.settings = [settings])
    (admitted : Admitted casing (snapshotOf orgId afterRevision after) given principal) :
    given = settings := by
  have usable := admitted.usable
  unfold usablePolicy snapshotOf at usable
  rw [held] at usable
  split at usable
  · exact (Option.some.inj usable).symm
  · cases usable

def SendsStayNarrowed (casing : Casing) (before after : PolicySnapshot) (sender receiver : Uuid) :
    Prop :=
  ∀ principal peer : PrincipalFacts, Names casing sender principal.principalId →
    Names casing receiver peer.principalId →
    NoMorePermissive
      (evaluate casing (some after) (some principal) .a2aSend (.principal (some peer)))
      (evaluate casing (some before) (some principal) .a2aSend (.principal (some peer)))

theorem snapshots_stay_narrowed_iff (shape : PolicyShape before.terms)
    (same : after.terms.Same wanted.terms)
    (ceilings : SameCeilings casing (snapshotOf orgId afterRevision after)
      (snapshotOf orgId beforeRevision before))
    (settings : after.settings = [wanted.settings]) (held : old ∈ before.edges)
    (layer : old.edge.layer = .narrow) (ends : old.edge.between sender receiver) :
    SendsStayNarrowed casing (snapshotOf orgId beforeRevision before)
        (snapshotOf orgId afterRevision after) sender receiver ↔
      NothingSent wanted sender receiver ∨ KeepsNarrowing wanted sender receiver old.edge := by
  constructor
  · intro stay
    by_cases nothing : NothingSent wanted sender receiver
    · exact .inl nothing
    apply Or.inr
    unfold NothingSent at nothing
    push Not at nothing
    obtain ⟨enabled, running, edge, there, rowEnds, isCeiling⟩ := nothing
    have apart : sender ≠ receiver := by
      rw [← ends.1, ← ends.2]
      exact (shape.edges _ (held_edge held)).ends
    have senderNamed := joined_named casing orgId sender
    have receiverNamed := joined_named casing orgId receiver
    have positive : 1 ≤ afterRevision := ceilings.leftRevision
    have admitted := joined_admitted casing orgId sender settings positive
      (by simpa using enabled) (by simpa using running)
    have reached := @joined_reached _ _ afterRevision after casing orgId apart
    have someCeiling := (@ceilings_exist _ orgId _ _ afterRevision _ _ _ _ same senderNamed
      receiverNamed).mpr ⟨edge, there, rowEnds, isCeiling⟩
    have compared := stay _ _ senderNamed receiverNamed
    rw [evaluate_admitted admitted, evaluate_admitted (admitted_same ceilings admitted)] at compared
    exact (send_kept_iff senderNamed receiverNamed same reached someCeiling shape ceilings held layer
      ends).mp compared
  · intro kept principal peer senderNamed receiverNamed
    by_cases denied : (evaluate casing (some (snapshotOf orgId afterRevision after))
        (some principal) .a2aSend (.principal (some peer))).permission = 0
    · constructor
      · rw [denied]
        exact Nat.zero_le _
      · intro granted
        exact absurd denied granted
    obtain ⟨given, admitted⟩ | refused :=
      evaluate_cases casing (snapshotOf orgId afterRevision after) principal
    swap
    · exact absurd (refused _ _).1 denied
    have isGiven := admitted_settings settings admitted
    rw [evaluate_admitted admitted] at denied
    rw [evaluate_admitted admitted, evaluate_admitted (admitted_same ceilings admitted)]
    change (evaluateSend _ _ given principal (some peer)).permission ≠ 0 at denied
    obtain ⟨_, isPeer, reached⟩ := send_granted denied
    rw [Option.some.injEq] at isPeer
    subst isPeer
    have someCeiling := ((send_rank reached (Nat.le_refl 1)).mp
      (Nat.one_le_iff_ne_zero.mpr denied)).1
    apply (send_kept_iff senderNamed receiverNamed same reached someCeiling shape ceilings held layer
      ends).mpr
    obtain (disabled | paused | noCeiling) | keeps := kept
    · rw [← isGiven, admitted.enabled] at disabled
      cases disabled
    · rw [← isGiven, admitted.running] at paused
      cases paused
    · have ⟨edge, there, rowEnds, isCeiling⟩ :=
        (ceilings_exist same senderNamed receiverNamed).mp someCeiling
      exact absurd isCeiling (noCeiling edge there rowEnds)
    · exact keeps

end Compared

/-- Whatever a run has reached, a member's publish leaves what is sent under an earlier
narrowing row no more permissive exactly when its document keeps that narrowing. -/
theorem sends_stay_narrowed_iff (history : List NetworkEvent) (casing : Casing)
    {org : Organization} (member : org ∈ (Network.empty.after history).organizations)
    {call : PublishCall} {ids : RowIds} {revision : Nat} {state : OrgState}
    (published : publishPolicyRevision call ids org.state = .ok (revision, state))
    {authorUserId : String} (author : call.authorUserId = some authorUserId)
    (role : org.state.role? authorUserId = some .member)
    {sender receiver : Uuid} {old : EdgeRow} (held : old ∈ org.state.heldContents.edges)
    (layer : old.edge.layer = .narrow) (ends : old.edge.between sender receiver) :
    ∃ document wanted before after, call.document = some document ∧
      readDocument document = .ok wanted ∧
      policySnapshot org org.state.currentRevision = some before ∧
      policySnapshot { org with state } revision = some after ∧
      (SendsStayNarrowed casing before after sender receiver ↔
        NothingSent wanted sender receiver ∨ KeepsNarrowing wanted sender receiver old.edge) := by
  have kept := reached_kept history org member
  obtain ⟨_, _, document, wanted, isAuthor, isRole, asked, read, checks, writes⟩ :=
    publish_ok published
  rw [author, Option.some.injEq] at isAuthor
  subst isAuthor
  rw [role, Option.some.injEq] at isRole
  subst isRole
  have ⟨nextKept, _⟩ := publish_kept read checks writes kept
  have newest := @newest_snapshot { org with state } nextKept
  have current : state.currentRevision = revision := by
    cases writes with
    | unchanged nothing => rfl
    | written next differs allowed written => rfl
  have outcome := published_outcome writes
  have same := published_terms outcome (check_wanted_ok checks).names
  have settings := published_settings outcome kept.history.oneActive
  have ceilings := member_same_ceilings casing org.id writes kept nextKept
  dsimp only at newest
  rw [current] at newest ceilings
  exact ⟨document, wanted, _, _, asked, read, newest_snapshot kept, newest,
    snapshots_stay_narrowed_iff kept.shape same ceilings settings held layer ends⟩

def carolAgent : Uuid := ⟨"00000000-0000-4000-8000-00000000000c", by decide +kernel⟩

def sharedDocument : PolicyDocument :=
  { ceilingDocument with
    grants := []
    edges :=
      [{ layer := some "ceiling"
         fromPrincipalId := some carolAgent
         toPrincipalId := some bobAgent
         mode := some "auto"
         maxMessagesPerHour := none
         maxConcurrentRuns := none }] }

def guardedDocument : PolicyDocument :=
  { sharedDocument with
    edges :=
      { layer := some "narrow"
        fromPrincipalId := some carolAgent
        toPrincipalId := some bobAgent
        mode := some "approve"
        maxMessagesPerHour := none
        maxConcurrentRuns := none } :: sharedDocument.edges }

def guardedHistory : List NetworkEvent :=
  ([.createOrg (some .team) (some "alice") (some "Team") team,
      .org team (.addMember (some "bob") (some .member) (some "alice")),
      .org team (.addMember (some "carol") (some .member) (some "alice"))] : List NetworkEvent) ++
    joins bobAgent "bob" 'B' ++ joins carolAgent "carol" 'C' ++
    ([.org team (.publish (publishes 1 "alice" sharedDocument) (rowIds team)),
      .org team (.publish (publishes 2 "bob" guardedDocument) (rowIds bobAgent))] :
      List NetworkEvent)

def carolSends (snapshot : Option PolicySnapshot) : Option Nat :=
  snapshot.map fun policy =>
    (evaluate .asciiOnly (some policy) (some (joinedFacts team carolAgent)) .a2aSend
      (.principal (some (joinedFacts team bobAgent)))).permission

/-- Bob's row stands, and Carol's document, which does not have it, is accepted. -/
structure UndoesNarrowing (org : Organization) (state : OrgState) (old : EdgeRow) : Prop where
  published : publishPolicyRevision (publishes 3 "carol" sharedDocument) (rowIds carolAgent)
    org.state = .ok (4, state)
  role : org.state.role? "carol" = some .member
  ownsSender : org.state.owns "carol" carolAgent = true
  ownsReceiver : org.state.owns "bob" bobAgent = true
  notBoth : org.state.owns "carol" bobAgent = false
  held : old ∈ org.state.heldContents.edges
  layer : old.edge.layer = .narrow
  ends : old.edge.between carolAgent bobAgent
  before : carolSends (policySnapshot org org.state.currentRevision) = some EdgeMode.approve.rank
  after : carolSends (policySnapshot { org with state } 4) = some EdgeMode.auto.rank

theorem carol_undoes_narrowing : ∃ org ∈ (Network.empty.after guardedHistory).organizations,
    ∃ state old, UndoesNarrowing org state old := by
  have found : ∃ org ∈ (Network.empty.after guardedHistory).organizations.rows,
      org.state.role? "carol" = some .member ∧ org.state.owns "carol" carolAgent = true ∧
      org.state.owns "bob" bobAgent = true ∧ org.state.owns "carol" bobAgent = false ∧
      (∃ old ∈ org.state.heldContents.edges, old.edge.layer = .narrow ∧
        old.edge.fromPrincipalId = carolAgent ∧ old.edge.toPrincipalId = bobAgent) ∧
      carolSends (policySnapshot org org.state.currentRevision) = some EdgeMode.approve.rank ∧
      (publishPolicyRevision (publishes 3 "carol" sharedDocument) (rowIds carolAgent)
          org.state).toOption.map (fun next =>
        (next.1, carolSends (policySnapshot { org with state := next.2 } 4))) =
          some (4, some EdgeMode.auto.rank) := by
    decide +kernel
  obtain ⟨org, member, role, ownsSender, ownsReceiver, notBoth, ⟨old, held, layer, ends⟩, before,
    returned⟩ := found
  cases published : publishPolicyRevision (publishes 3 "carol" sharedDocument) (rowIds carolAgent)
      org.state with
  | error raised =>
    rw [published] at returned
    cases returned
  | ok pair =>
    obtain ⟨revision, state⟩ := pair
    rw [published] at returned
    simp only [Except.toOption, Option.map_some, Option.some.injEq, Prod.mk.injEq] at returned
    rw [returned.1] at published
    exact ⟨org, member, state, old,
      ⟨published, role, ownsSender, ownsReceiver, notBoth, held, layer, ends, before,
        returned.2⟩⟩

/-- So what waited for Bob's owner to approve is sent at once. -/
theorem narrowing_is_undone : ∃ org ∈ (Network.empty.after guardedHistory).organizations,
    ∃ state old before after, UndoesNarrowing org state old ∧
      policySnapshot org org.state.currentRevision = some before ∧
      policySnapshot { org with state } 4 = some after ∧
      ¬SendsStayNarrowed .asciiOnly before after carolAgent bobAgent := by
  obtain ⟨org, member, state, old, undone⟩ := carol_undoes_narrowing
  have ⟨before, isBefore, permittedBefore⟩ := Option.map_eq_some_iff.mp undone.before
  have ⟨after, isAfter, permittedAfter⟩ := Option.map_eq_some_iff.mp undone.after
  refine ⟨org, member, state, old, before, after, undone, isBefore, isAfter, ?_⟩
  intro stays
  have compared := (stays _ _ (joined_named _ team carolAgent)
    (joined_named _ team bobAgent)).permission
  rw [permittedBefore, permittedAfter] at compared
  exact absurd compared (by decide)

/-- For Carol's document the condition decides as well. -/
theorem undone_exactly : ∃ org ∈ (Network.empty.after guardedHistory).organizations,
    ∃ state old wanted before after, UndoesNarrowing org state old ∧
      readDocument sharedDocument = .ok wanted ∧
      policySnapshot org org.state.currentRevision = some before ∧
      policySnapshot { org with state } 4 = some after ∧
      (SendsStayNarrowed .asciiOnly before after carolAgent bobAgent ↔
        NothingSent wanted carolAgent bobAgent ∨
          KeepsNarrowing wanted carolAgent bobAgent old.edge) := by
  obtain ⟨org, member, state, old, undone⟩ := carol_undoes_narrowing
  obtain ⟨document, wanted, before, after, asked, read, isBefore, isAfter, exactly⟩ :=
    sends_stay_narrowed_iff guardedHistory .asciiOnly member undone.published rfl undone.role
      undone.held undone.layer undone.ends
  cases asked
  exact ⟨org, member, state, old, wanted, before, after, undone, read, isBefore, isAfter, exactly⟩

end Hivra.AgentNetwork
