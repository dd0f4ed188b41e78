import Hivra.AgentNetwork.NetworkSpecs
import Hivra.AgentNetwork.PolicySnapshot

/-!
# The history of a policy

Every call either leaves the policy rows alone or makes the next revision of them.
A revision keeps what was valid before it, so a snapshot of an old revision never
changes, and revisions are numbered without a gap.
-/

namespace Hivra.AgentNetwork

open Hivra.Library

section Rows

variable {Content Key : Type} [DecidableEq Key] {entries : Versioned Content → List Key}

theorem insert_all_rows {rows : List (Versioned Content)} {table next : Table entries}
    (inserted : insertAll rows table = .ok next) : next.rows = table.rows ++ rows := by
  induction rows generalizing table with
  | nil =>
    cases inserted
    rw [List.append_nil]
  | cons row rest ih =>
    obtain ⟨middle, first, later⟩ := bind_ok inserted
    rw [ih later, Table.insert_rows (or_unique_violation_ok first), List.append_assoc]
    rfl

section

variable {selected : Versioned Content → Bool}
    (active : ∀ row, selected row = true → row.isActive = true)
include active

theorem close_rows_revises {current : Nat} {table next : Table entries}
    (closed : closeRows selected (current + 1) table = .ok next) :
    Revises current selected [] table.rows next.rows := by
  constructor
  · exact active
  · rw [Table.update_rows (or_unique_violation_ok closed)]
    exact (List.append_nil _).symm

theorem replace_rows_revises {current : Nat} {opened : List Content} {table next : Table entries}
    (replaced : replaceRows selected (current + 1) opened table = .ok next) :
    Revises current selected opened table.rows next.rows := by
  obtain ⟨middle, closed, inserted⟩ := bind_ok replaced
  constructor
  · exact active
  · rw [insert_all_rows inserted, Table.update_rows (or_unique_violation_ok closed)]

end

end Rows

theorem revises_unchanged {Content : Type} (current : Nat) (rows : List (Versioned Content)) :
    Revises current (fun _ => false) [] rows rows := by
  constructor
  · intro row chosen
    cases chosen
  · simp [openRows]

def SomeRevision {Content : Type} (current : Nat) (rows next : List (Versioned Content)) : Prop :=
  ∃ selected contents, Revises current selected contents rows next

theorem some_revision_within {Content : Type} {current : Nat} {rows next : List (Versioned Content)}
    (revised : SomeRevision current rows next) (within : HistoryWithin current rows) :
    HistoryWithin (current + 1) next := by
  obtain ⟨_, _, revises⟩ := revised
  exact revises_within revises within

theorem some_revision_frozen {Content : Type} {current revision : Nat}
    {rows next : List (Versioned Content)} (revised : SomeRevision current rows next)
    (old : revision ≤ current) : validContents revision next = validContents revision rows := by
  obtain ⟨_, _, revises⟩ := revised
  exact valid_contents_frozen revises old

structure StateRevises (state next : OrgState) : Prop where
  revision : next.currentRevision = state.currentRevision + 1
  header : ∃ header : PolicyRevision, header.revision = state.currentRevision + 1 ∧
    state.revisions.insert header = some next.revisions
  settings : SomeRevision state.currentRevision state.settings.rows next.settings.rows
  oneActive : (∃ held, activeContents state.settings.rows = [held]) →
    ∃ held, activeContents next.settings.rows = [held]
  groups : SomeRevision state.currentRevision state.groups.rows next.groups.rows
  groupMembers : SomeRevision state.currentRevision state.groupMembers.rows next.groupMembers.rows
  grants : SomeRevision state.currentRevision state.grants.rows next.grants.rows
  edges : SomeRevision state.currentRevision state.edges.rows next.edges.rows

theorem and_active {Content : Type} {row : Versioned Content} {dropped : Bool}
    (selected : (row.isActive && dropped) = true) : row.isActive = true := by
  rw [Bool.and_eq_true] at selected
  exact selected.1

theorem rows_ended_revises {principalId : Uuid} {actor : String} {state next : OrgState}
    (ended : PolicyRowsEnded principalId actor state next) : StateRevises state next where
  revision := ended.revision
  header := ⟨_, rfl, ended.revisions⟩
  settings := by
    rw [ended.settings]
    exact ⟨_, _, revises_unchanged _ _⟩
  oneActive := by
    rw [ended.settings]
    exact id
  groups := by
    rw [ended.groups]
    exact ⟨_, _, revises_unchanged _ _⟩
  groupMembers := ⟨_, _, close_rows_revises (fun _ => and_active) ended.groupMembers⟩
  grants := ⟨_, _, close_rows_revises (fun _ => and_active) ended.grants⟩
  edges := ⟨_, _, close_rows_revises (fun _ => and_active) ended.edges⟩

theorem write_settings_ok {changed : Bool} {current : Nat} {wanted : PolicySettings}
    {settings next : Table settingsEntries}
    (written : writeSettings changed (current + 1) wanted settings = .ok next) :
    SomeRevision current settings.rows next.rows ∧
      activeContents next.rows = if changed then [wanted] else activeContents settings.rows := by
  cases changed with
  | false =>
    cases written
    exact ⟨⟨_, _, revises_unchanged _ _⟩, rfl⟩
  | true =>
    have revises : Revises current Versioned.isActive [wanted] settings.rows next.rows :=
      replace_rows_revises (fun row active => active) written
    apply And.intro ⟨_, _, revises⟩
    rw [active_contents_revised revises]
    unfold activeContents
    rw [List.filter_filter]
    simp

section Written

variable {ids : RowIds} {authorUserId : String} {reason : Option String} {wanted : WantedPolicy}
variable {changes : PolicyDifference} {state next : OrgState}

section

variable (written : PolicyWritten ids authorUserId reason wanted changes state next)
include written

theorem written_groups :
    Revises state.currentRevision (fun row => row.isActive && !wanted.hasGroup row.content.id)
      changes.groupsAdded state.groups.rows next.groups.rows :=
  replace_rows_revises (fun _ => and_active) written.groups

theorem written_members :
    Revises state.currentRevision (fun row => row.isActive && !wanted.hasMember row.content)
      changes.membersAdded state.groupMembers.rows next.groupMembers.rows :=
  replace_rows_revises (fun _ => and_active) written.groupMembers

theorem written_grants : Revises state.currentRevision
      (fun row => row.isActive && !wanted.grants.contains row.content.grant)
      (grantRows ids authorUserId changes.grantsAdded) state.grants.rows next.grants.rows :=
  replace_rows_revises (fun _ => and_active) written.grants

theorem written_edges : Revises state.currentRevision
      (fun row => row.isActive && !wanted.edges.contains row.content.edge)
      (edgeRows ids authorUserId changes.edgesAdded) state.edges.rows next.edges.rows :=
  replace_rows_revises (fun _ => and_active) written.edges

theorem written_revises : StateRevises state next where
  revision := written.revision
  header := ⟨_, rfl, written.revisions⟩
  settings := (write_settings_ok written.settings).1
  oneActive := by
    intro before
    rw [(write_settings_ok written.settings).2]
    split
    · exact ⟨_, rfl⟩
    · exact before
  groups := ⟨_, _, written_groups written⟩
  groupMembers := ⟨_, _, written_members written⟩
  grants := ⟨_, _, written_grants written⟩
  edges := ⟨_, _, written_edges written⟩

end

end Written

/-- The revisions are `1..current`, every row lies in them, and one row of settings
counts at each. -/
structure PolicyHistory (state : OrgState) : Prop where
  revisions : state.revisions.rows.map PolicyRevision.revision =
    List.range' 1 state.currentRevision
  settings : HistoryWithin state.currentRevision state.settings.rows
  groups : HistoryWithin state.currentRevision state.groups.rows
  groupMembers : HistoryWithin state.currentRevision state.groupMembers.rows
  grants : HistoryWithin state.currentRevision state.grants.rows
  edges : HistoryWithin state.currentRevision state.edges.rows
  oneActive : ∃ held, activeContents state.settings.rows = [held]

structure Extends (state later : OrgState) : Prop where
  current : state.currentRevision ≤ later.currentRevision
  frozen : ∀ revision, revision ≤ state.currentRevision →
    later.contentsAt revision = state.contentsAt revision

theorem extends_refl (state : OrgState) : Extends state state :=
  ⟨Nat.le_refl _, fun _ _ => rfl⟩

theorem extends_trans {first second third : OrgState} (left : Extends first second)
    (right : Extends second third) : Extends first third := by
  have leftCurrent := left.current
  have rightCurrent := right.current
  constructor
  · omega
  · intro revision old
    rw [right.frozen revision (by omega), left.frozen revision old]

theorem revises_extends {state next : OrgState} (revises : StateRevises state next) :
    Extends state next := by
  constructor
  · have revision := revises.revision
    omega
  · intro revision old
    unfold OrgState.contentsAt
    rw [some_revision_frozen revises.settings old, some_revision_frozen revises.groups old,
      some_revision_frozen revises.groupMembers old, some_revision_frozen revises.grants old,
      some_revision_frozen revises.edges old]

theorem history_revised {state next : OrgState} (history : PolicyHistory state)
    (revises : StateRevises state next) : PolicyHistory next := by
  obtain ⟨header, numbered, inserted⟩ := revises.header
  constructor
  · rw [Table.insert_rows inserted, List.map_append, history.revisions, revises.revision,
      List.range'_concat, List.map_singleton, numbered, Nat.one_mul, Nat.add_comm 1]
  · rw [revises.revision]
    exact some_revision_within revises.settings history.settings
  · rw [revises.revision]
    exact some_revision_within revises.groups history.groups
  · rw [revises.revision]
    exact some_revision_within revises.groupMembers history.groupMembers
  · rw [revises.revision]
    exact some_revision_within revises.grants history.grants
  · rw [revises.revision]
    exact some_revision_within revises.edges history.edges
  · exact revises.oneActive history.oneActive

theorem created_history (owner : String) : PolicyHistory (.created owner) where
  revisions := rfl
  settings := by
    intro row member
    rw [List.mem_singleton.mp member]
    exact Validity.opened_within 0
  groups := by
    intro row member
    cases member
  groupMembers := by
    intro row member
    cases member
  grants := by
    intro row member
    cases member
  edges := by
    intro row member
    cases member
  oneActive := ⟨emptySettings, rfl⟩

theorem contents_at_current {state : OrgState} (history : PolicyHistory state) :
    state.contentsAt state.currentRevision = state.heldContents := by
  unfold OrgState.contentsAt OrgState.heldContents
  rw [valid_contents_current history.settings, valid_contents_current history.groups,
    valid_contents_current history.groupMembers, valid_contents_current history.grants,
    valid_contents_current history.edges]

end Hivra.AgentNetwork
