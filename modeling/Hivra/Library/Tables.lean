import Mathlib.Algebra.BigOperators.Group.List.Basic
import Mathlib.Tactic.Abel

/-!
# Tables with unique indexes

A table is the list of its rows in insertion order.  `entries` lists what a row
puts into the unique indexes of its table: one entry for the primary key, one
for every unique column, none for an index the row is left out of (a null
column, a partial index).  No two rows of a table share an entry; that is a
field of the structure, so a table that breaks an index cannot be built, and the
statements that could break one answer `none` instead.

`sumWhere` is the aggregate `sum(...) where ...`.  Its lemmas say what an insert
and an update of one row do to it.
-/

namespace Hivra.Library

def Apart {Row Key : Type} (entries : Row → List Key) (left right : Row) : Prop :=
  ∀ entry ∈ entries left, entry ∉ entries right

instance {Row Key : Type} [DecidableEq Key] (entries : Row → List Key) (left right : Row) :
    Decidable (Apart entries left right) :=
  inferInstanceAs (Decidable (∀ entry ∈ entries left, entry ∉ entries right))

structure Table {Row Key : Type} (entries : Row → List Key) where
  rows : List Row
  unique : rows.Pairwise (Apart entries)

namespace Table

variable {Row Key : Type} {entries : Row → List Key} {selected : Row → Bool} {row : Row}

@[ext]
theorem ext {left right : Table entries} (same : left.rows = right.rows) : left = right := by
  cases left
  cases right
  simpa using same

instance [DecidableEq Row] : DecidableEq (Table entries) := fun left right =>
  decidable_of_iff (left.rows = right.rows)
    ⟨ext, fun same => same ▸ rfl⟩

def empty : Table entries :=
  { rows := [], unique := .nil }

instance : Inhabited (Table entries) := ⟨empty⟩

instance : Membership Row (Table entries) := ⟨fun table row => row ∈ table.rows⟩

theorem mem_rows {table : Table entries} : row ∈ table ↔ row ∈ table.rows := Iff.rfl 

instance [DecidableEq Row] (row : Row) (table : Table entries) : Decidable (row ∈ table) :=
  inferInstanceAs (Decidable (row ∈ table.rows))

/-- `insert into`: `none` is a unique violation. -/
def insert [DecidableEq Key] (table : Table entries) (row : Row) : Option (Table entries) :=
  if apart : ∀ held ∈ table.rows, Apart entries held row then
    some
      { rows := table.rows ++ [row]
        unique := by
          rw [List.pairwise_append]
          refine ⟨table.unique, List.pairwise_singleton _ _, ?_⟩
          intro held present new same
          rw [List.mem_singleton] at same
          exact same ▸ apart held present }
  else
    none

/-- `update ... where`: `none` is a unique violation. -/
def update [DecidableEq Key] (table : Table entries) (selected : Row → Bool) (change : Row → Row) :
    Option (Table entries) :=
  if unique : (table.rows.map (fun row => if selected row then change row else row)).Pairwise
      (Apart entries) then
    some { rows := _, unique }
  else
    none

/-- `update ... where` of columns no unique index covers. -/
def rewrite (table : Table entries) (selected : Row → Bool) (change : Row → Row)
    (keeps : ∀ row, entries (change row) = entries row) : Table entries :=
  { rows := table.rows.map (fun row => if selected row then change row else row)
    unique := by
      rw [List.pairwise_map]
      apply table.unique.imp
      intro left right apart entry leftEntry rightEntry
      have same (row : Row) : entries (if selected row then change row else row) = entries row := by
        by_cases chosen : selected row <;> simp [chosen, keeps]
      rw [same] at leftEntry rightEntry
      exact apart entry leftEntry rightEntry }

/-- `delete from ... where`. -/
def delete (table : Table entries) (selected : Row → Bool) : Table entries :=
  { rows := table.rows.filter fun row => !selected row
    unique := table.unique.filter _ }

/-- `select ... where`, in insertion order. -/
def selectWhere (table : Table entries) (selected : Row → Bool) : List Row :=
  table.rows.filter selected

/-- The row a `maybeSingle` read returns for a unique condition. -/
def find? (table : Table entries) (selected : Row → Bool) : Option Row :=
  table.rows.find? selected

/-- `coalesce(sum(amount) ..., 0)` over the selected rows. -/
def sumWhere {Amount : Type} [AddCommMonoid Amount]
    (table : Table entries) (selected : Row → Bool) (amount : Row → Amount) : Amount :=
  ((table.rows.filter selected).map amount).sum

theorem not_mem_empty (row : Row) : row ∉ (empty : Table entries) := List.not_mem_nil

private theorem eq_of_shared_entry_rows {rows : List Row} (unique : rows.Pairwise (Apart entries))
    {left right : Row} (leftMem : left ∈ rows) (rightMem : right ∈ rows) {entry : Key}
    (leftEntry : entry ∈ entries left) (rightEntry : entry ∈ entries right) : left = right := by
  induction unique with
  | nil => cases leftMem
  | cons apart _ ih =>
    rcases List.mem_cons.mp leftMem with rfl | leftTail
    · rcases List.mem_cons.mp rightMem with rfl | rightTail
      · rfl
      · exact absurd rightEntry (apart right rightTail entry leftEntry)
    · rcases List.mem_cons.mp rightMem with rfl | rightTail
      · exact absurd leftEntry (apart left leftTail entry rightEntry)
      · exact ih leftTail rightTail

theorem eq_of_shared_entry {table : Table entries} {left right : Row} (leftMem : left ∈ table)
    (rightMem : right ∈ table) {entry : Key} (leftEntry : entry ∈ entries left)
    (rightEntry : entry ∈ entries right) : left = right :=
  eq_of_shared_entry_rows table.unique leftMem rightMem leftEntry rightEntry

section Statements

theorem insert_rows [DecidableEq Key] {table next : Table entries}
    (inserted : table.insert row = some next) : next.rows = table.rows ++ [row] := by
  unfold insert at inserted
  split_ifs at inserted
  cases inserted
  rfl

theorem mem_insert [DecidableEq Key] {table next : Table entries} {row other : Row}
    (inserted : table.insert row = some next) : other ∈ next ↔ other ∈ table ∨ other = row := by
  simp only [mem_rows, insert_rows inserted, List.mem_append, List.mem_singleton]

theorem insert_apart [DecidableEq Key] {table next : Table entries} {row other : Row}
    (inserted : table.insert row = some next) (member : other ∈ table) :
    Apart entries other row := by
  unfold insert at inserted
  split_ifs at inserted with apart
  exact apart other member

theorem insert_none [DecidableEq Key] {table : Table entries} : table.insert row = none ↔
      ∃ held ∈ table, ∃ entry ∈ entries held, entry ∈ entries row := by
  unfold insert
  split_ifs with apart
  · constructor
    · intro impossible
      cases impossible
    · rintro ⟨held, member, entry, heldEntry, rowEntry⟩
      exact absurd rowEntry (apart held member entry heldEntry)
  · constructor
    · intro _
      push Not at apart
      obtain ⟨held, member, shared⟩ := apart
      unfold Apart at shared
      push Not at shared
      obtain ⟨entry, heldEntry, rowEntry⟩ := shared
      exact ⟨held, member, entry, heldEntry, rowEntry⟩
    · intro _
      rfl

theorem update_rows [DecidableEq Key] {table next : Table entries}
    {change : Row → Row} (updated : table.update selected change = some next) :
    next.rows = table.rows.map (fun row => if selected row then change row else row) := by
  unfold update at updated
  split_ifs at updated
  cases updated
  rfl

theorem mem_update [DecidableEq Key] {table next : Table entries}
    {change : Row → Row} (updated : table.update selected change = some next) :
    row ∈ next ↔ ∃ old ∈ table, (if selected old then change old else old) = row := by
  simp only [mem_rows, update_rows updated, List.mem_map]

@[simp]
theorem rewrite_rows (table : Table entries) (selected : Row → Bool) (change : Row → Row)
    (keeps : ∀ row, entries (change row) = entries row) :
    (table.rewrite selected change keeps).rows =
      table.rows.map (fun row => if selected row then change row else row) := rfl

theorem mem_rewrite {table : Table entries} {change : Row → Row}
    {keeps : ∀ row, entries (change row) = entries row} :
    row ∈ table.rewrite selected change keeps ↔
      ∃ old ∈ table, (if selected old then change old else old) = row := by
  simp only [mem_rows, rewrite_rows, List.mem_map]

theorem filter_rewritten_others {selected kept : Row → Bool} {change : Row → Row}
    (apart : ∀ row, selected row = true → kept row = false ∧ kept (change row) = false)
    (rows : List Row) : (rows.map fun row => if selected row then change row else row).filter kept =
      rows.filter kept := by
  induction rows with
  | nil => rfl
  | cons row rows ih =>
    rw [List.map_cons]
    by_cases chosen : selected row = true
    · have ⟨before, after⟩ := apart row chosen
      rw [if_pos chosen, List.filter_cons_of_neg (by simp [after]),
        List.filter_cons_of_neg (by simp [before]), ih]
    · rw [if_neg chosen, List.filter_cons, List.filter_cons, ih]

theorem map_rewritten_same {Value : Type} {selected kept : Row → Bool} {change : Row → Row}
    {value : Row → Value} {rows : List Row} (same : ∀ row ∈ rows, selected row = true →
      kept (change row) = kept row ∧ value (change row) = value row) :
    ((rows.map fun row => if selected row then change row else row).filter kept).map value =
      (rows.filter kept).map value := by
  induction rows with
  | nil => rfl
  | cons row rows ih =>
    have rest := ih fun other there => same other (List.mem_cons_of_mem _ there)
    rw [List.map_cons]
    by_cases chosen : selected row = true
    · have ⟨keeps, reads⟩ := same row List.mem_cons_self chosen
      rw [if_pos chosen]
      cases here : kept row with
      | true =>
        rw [List.filter_cons_of_pos (by rw [keeps, here]), List.filter_cons_of_pos here,
          List.map_cons, List.map_cons, reads, rest]
      | false =>
        rw [List.filter_cons_of_neg (by simp [keeps, here]),
          List.filter_cons_of_neg (by simp [here]), rest]
    · rw [if_neg chosen]
      cases here : kept row with
      | true =>
        rw [List.filter_cons_of_pos here, List.filter_cons_of_pos here, List.map_cons,
          List.map_cons, rest]
      | false =>
        rw [List.filter_cons_of_neg (by simp [here]), List.filter_cons_of_neg (by simp [here]),
          rest]

theorem find_mem {table : Table entries}
    (found : table.find? selected = some row) : row ∈ table ∧ selected row = true :=
  ⟨List.mem_of_find?_eq_some found, List.find?_some found⟩

theorem find_none {table : Table entries}
    (missing : table.find? selected = none) (member : row ∈ table) : selected row = false := by
  have unselected := List.find?_eq_none.mp missing row member
  simpa using unselected

theorem find_of_entry {table : Table entries} (entry : Key)
    (member : row ∈ table) (chosen : selected row = true)
    (only : ∀ other, selected other = true → entry ∈ entries other) :
    table.find? selected = some row := by
  cases found : table.find? selected with
  | none =>
    have unchosen := find_none found member
    rw [chosen] at unchosen
    cases unchosen
  | some other =>
    have ⟨otherMember, otherChosen⟩ := find_mem found
    rw [eq_of_shared_entry otherMember member (only other otherChosen) (only row chosen)]

end Statements

section Sums

variable {Amount : Type} [AddCommMonoid Amount]

/-- What one row adds to a `sumWhere`. -/
def share (selected : Row → Bool) (amount : Row → Amount) (row : Row) : Amount :=
  if selected row then amount row else 0

theorem share_selected {amount : Row → Amount}
    (chosen : selected row = true) : share selected amount row = amount row := by
  simp [share, chosen]

theorem share_unselected {amount : Row → Amount}
    (unchosen : selected row = false) : share selected amount row = 0 := by
  simp [share, unchosen]

private theorem filter_sum_eq_share_sum (selected : Row → Bool) (amount : Row → Amount)
    (rows : List Row) : ((rows.filter selected).map amount).sum =
      (rows.map (share selected amount)).sum := by
  induction rows with
  | nil => rfl
  | cons row rows ih =>
    by_cases chosen : selected row
    · simp [share, chosen, ih]
    · simp [share, chosen, ih]

theorem sum_where_eq_share_sum (table : Table entries) (selected : Row → Bool)
    (amount : Row → Amount) :
    table.sumWhere selected amount = (table.rows.map (share selected amount)).sum :=
  filter_sum_eq_share_sum selected amount table.rows

theorem sum_where_insert [DecidableEq Key] {table next : Table entries}
    (inserted : table.insert row = some next) (selected : Row → Bool) (amount : Row → Amount) :
    next.sumWhere selected amount =
      table.sumWhere selected amount + share selected amount row := by
  simp only [sum_where_eq_share_sum, insert_rows inserted, List.map_append, List.sum_append,
    List.map_singleton, List.sum_singleton]

theorem sum_where_rewrite_same (table : Table entries) (chosen : Row → Bool) (change : Row → Row)
    (keeps : ∀ row, entries (change row) = entries row) (selected : Row → Bool)
    (amount : Row → Amount) (same : ∀ row ∈ table, chosen row = true →
      share selected amount (change row) = share selected amount row) :
    (table.rewrite chosen change keeps).sumWhere selected amount =
      table.sumWhere selected amount := by
  simp only [sum_where_eq_share_sum, rewrite_rows, List.map_map]
  congr 1
  apply List.map_congr_left
  intro row member
  by_cases picked : chosen row
  · simpa [picked] using same row member picked
  · simp [picked]

private theorem sum_change_one {rows : List Row} (unique : rows.Pairwise (Apart entries))
    (member : row ∈ rows) {entry : Key} (identifies : entry ∈ entries row)
    (old new : Row → Amount)
    (same : ∀ other ∈ rows, entry ∉ entries other → new other = old other) :
    (rows.map new).sum + old row = (rows.map old).sum + new row := by
  induction unique with
  | nil => cases member
  | @cons head rows apart _ ih =>
    rcases List.mem_cons.mp member with rfl | tail
    · have untouched : rows.map new = rows.map old := by
        apply List.map_congr_left
        intro other present
        exact same other (List.mem_cons_of_mem _ present) (apart other present entry identifies)
      rw [List.map_cons, List.map_cons, List.sum_cons, List.sum_cons, untouched]
      abel
    · have headSame : new head = old head :=
        same head List.mem_cons_self (fun shared => apart row tail entry shared identifies)
      have rest := ih tail (fun other present => same other (List.mem_cons_of_mem _ present))
      rw [List.map_cons, List.map_cons, List.sum_cons, List.sum_cons, headSame, add_assoc, rest,
        add_assoc]

/-- A rewrite of the one row that has `entry` trades its old share for its new one. -/
theorem sum_where_rewrite_one {table : Table entries} (member : row ∈ table)
    {entry : Key} (identifies : entry ∈ entries row) (chosen : Row → Bool)
    (only : ∀ other ∈ table, chosen other = true ↔ entry ∈ entries other) (change : Row → Row)
    (keeps : ∀ row, entries (change row) = entries row) (selected : Row → Bool)
    (amount : Row → Amount) :
    (table.rewrite chosen change keeps).sumWhere selected amount + share selected amount row =
      table.sumWhere selected amount + share selected amount (change row) := by
  have picked : chosen row = true := (only row member).mpr identifies
  have changed := sum_change_one table.unique member identifies (share selected amount)
    (fun other => share selected amount (if chosen other then change other else other))
    (by
      intro other present missing
      have unpicked : chosen other = false := by
        simpa using mt (only other present).mp missing
      simp [unpicked])
  simp only [picked, if_true] at changed
  simpa only [sum_where_eq_share_sum, rewrite_rows, List.map_map, Function.comp_def] using changed

/-- Leaving out the one row that has `entry` takes its share off the sum. -/
theorem sum_where_except_one {table : Table entries} (member : row ∈ table)
    {entry : Key} (identifies : entry ∈ entries row) (kept : Row → Bool)
    (only : ∀ other ∈ table, kept other = false ↔ entry ∈ entries other) (selected : Row → Bool)
    (amount : Row → Amount) : table.sumWhere (fun other => selected other && kept other) amount +
        share selected amount row =
      table.sumWhere selected amount := by
  have dropped : kept row = false := (only row member).mpr identifies
  have changed := sum_change_one table.unique member identifies (share selected amount)
    (share (fun other => selected other && kept other) amount)
    (by
      intro other present missing
      have keptOther : kept other = true := by
        simpa using mt (only other present).mp missing
      simp [share, keptOther])
  have nothing : share (fun other => selected other && kept other) amount row = 0 := by
    simp [share, dropped]
  rw [nothing, add_zero] at changed
  simpa only [sum_where_eq_share_sum] using changed

end Sums

end Table

end Hivra.Library
