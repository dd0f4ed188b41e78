import Hivra.Library.Tables

/-!
# Updates that leave partial indexes

A row that an update takes out of partial indexes cannot come to share an entry with another
row, so that such an update never fails.
-/

namespace Hivra.Library.Table

variable {Row Key : Type} {entries : Row → List Key}

/-- `update ... where` of a change that adds no index entry. -/
def shrink (table : Table entries) (selected : Row → Bool) (change : Row → Row)
    (drops : ∀ row, entries (change row) ⊆ entries row) : Table entries :=
  { rows := table.rows.map fun row => if selected row then change row else row
    unique := by
      rw [List.pairwise_map]
      apply table.unique.imp
      intro left right apart entry leftEntry rightEntry
      have fewer (row : Row) :
          entries (if selected row then change row else row) ⊆ entries row := by
        by_cases chosen : selected row
        · rw [if_pos chosen]
          exact drops row
        · rw [if_neg chosen]
          exact List.Subset.refl _
      exact apart entry (fewer left leftEntry) (fewer right rightEntry) }

theorem mem_shrink {table : Table entries} {selected : Row → Bool} {change : Row → Row}
    {drops : ∀ row, entries (change row) ⊆ entries row} {row : Row} :
    row ∈ table.shrink selected change drops ↔
      ∃ old ∈ table, (if selected old then change old else old) = row := by
  simp only [mem_rows, shrink, List.mem_map]

end Hivra.Library.Table
