import Mathlib.Data.List.MinMax
import Mathlib.Data.List.Sort
import Mathlib.Order.MinMax

/-!
# Loops that pick a row, and rows in order

The loop that keeps the first row, and takes another when it is strictly better, is
`List.argmin` and `List.argmax`.  The loop that takes the least of optional values
skips those that are not there.  Rows with distinct keys have one order by their key.
-/

namespace Hivra.Library

section Picks

variable {Row Value : Type} [LinearOrder Value]

private theorem arg_loop (better : Row → Row → Prop) [DecidableRel better] (first : Row)
    (rest : List Row) : (first :: rest).foldl (List.argAux better) none =
      some (rest.foldl (fun best row => if better row best then row else best) first) := by
  rw [List.foldl_cons]
  change rest.foldl _ (some first) = _
  induction rest generalizing first with
  | nil => rfl
  | cons row rest ih =>
    rw [List.foldl_cons, List.foldl_cons, ← ih]
    congr 1
    simp only [List.argAux]
    split <;> rfl

theorem argmin_loop (value : Row → Value) (first : Row) (rest : List Row) :
    (first :: rest).argmin value =
      some (rest.foldl (fun best row => if value row < value best then row else best) first) :=
  arg_loop (fun row best => value row < value best) first rest

theorem argmax_loop (value : Row → Value) (first : Row) (rest : List Row) :
    (first :: rest).argmax value =
      some (rest.foldl (fun best row => if value best < value row then row else best) first) :=
  arg_loop (fun row best => value best < value row) first rest

def leastStep (result value : Option Value) : Option Value :=
  match value, result with
  | none, result => result
  | some value, none => some value
  | some value, some least => some (min least value)

def leastOf (values : List (Option Value)) : Option Value :=
  values.foldl leastStep none

private theorem least_loop (values : List (Option Value)) (held : Option Value) (least : Value) :
    values.foldl leastStep held = some least ↔
      some least ∈ held :: values ∧ ∀ value, some value ∈ held :: values → least ≤ value := by
  induction values generalizing held with
  | nil =>
    rw [List.foldl_nil]
    simp only [List.mem_singleton]
    constructor
    · intro same
      rw [same]
      exact ⟨rfl, fun value there => by cases there; exact le_rfl⟩
    · intro there
      exact there.1.symm
  | cons value rest ih =>
    rw [List.foldl_cons, ih]
    cases value with
    | none => simp [leastStep]
    | some value =>
      cases held with
      | none => simp [leastStep]
      | some held =>
        simp only [leastStep, List.mem_cons, Option.some.injEq]
        constructor
        · intro ⟨there, below⟩
          have first := below (min held value) (.inl rfl)
          constructor
          · cases there with
            | inl same =>
              cases min_choice held value with
              | inl left => exact .inl (same.trans left)
              | inr right => exact .inr (.inl (same.trans right))
            | inr later => exact .inr (.inr later)
          · intro other present
            obtain rfl | rfl | later := present
            · exact le_trans first (min_le_left _ _)
            · exact le_trans first (min_le_right _ _)
            · exact below other (.inr later)
        · intro ⟨there, below⟩
          have left := below held (.inl rfl)
          have right := below value (.inr (.inl rfl))
          constructor
          · obtain same | same | later := there
            · exact .inl (le_antisymm (le_min left right) (same ▸ min_le_left _ _))
            · exact .inl (le_antisymm (le_min left right) (same ▸ min_le_right _ _))
            · exact .inr later
          · intro other present
            cases present with
            | inl same => exact same ▸ le_min left right
            | inr later => exact below other (.inr (.inr later))

variable {values : List (Option Value)}

theorem least_of_some {least : Value} : leastOf values = some least ↔
      some least ∈ values ∧ ∀ value, some value ∈ values → least ≤ value := by
  unfold leastOf
  rw [least_loop]
  simp

private theorem least_loop_none (values : List (Option Value)) (held : Option Value)
    (missing : values.foldl leastStep held = none) : held = none ∧ ∀ value ∈ values, value = none := by
  induction values generalizing held with
  | nil => exact ⟨missing, fun _ there => by cases there⟩
  | cons value rest ih =>
    have ⟨stepped, later⟩ := ih _ missing
    cases value with
    | none => exact ⟨stepped, by simpa using later⟩
    | some value =>
      cases held with
      | none => cases stepped
      | some held => cases stepped

theorem least_of_le {value : Value} (there : some value ∈ values) :
    ∃ least, leastOf values = some least ∧ least ≤ value := by
  cases found : leastOf values with
  | none => cases (least_loop_none values none found).2 _ there
  | some least => exact ⟨least, rfl, (least_of_some.mp found).2 value there⟩

theorem least_of_pair {first second : Option Value}
    (only : ∀ value ∈ values, value = first ∨ value = second) (firstThere : first ∈ values)
    (secondThere : second ∈ values)
    (ordered : ∀ left right, first = some left → second = some right → left ≤ right) :
    leastOf values = first.or second := by
  cases first with
  | some left =>
    rw [Option.some_or, least_of_some]
    apply And.intro firstThere
    intro value there
    cases only _ there with
    | inl same => rw [Option.some.inj same]
    | inr same => exact ordered left value rfl same.symm
  | none =>
    rw [Option.none_or]
    cases second with
    | some right =>
      rw [least_of_some]
      apply And.intro secondThere
      intro value there
      cases only _ there with
      | inl same => cases same
      | inr same => rw [Option.some.inj same]
    | none =>
      cases found : leastOf values with
      | none => rfl
      | some least =>
        have there := (least_of_some.mp found).1
        cases only _ there with
        | inl same => cases same
        | inr same => cases same

end Picks

section Sorted

variable {Row Key : Type} [LinearOrder Key] {key : Row → Key}

theorem filter_sorted_same {left right : List Row} {keep : Row → Bool}
    (leftKeys : (left.map key).Nodup) (rightKeys : (right.map key).Nodup)
    (same : ∀ row, keep row = true → (row ∈ left ↔ row ∈ right)) :
    (left.insertionSort fun first second => key first ≤ key second).filter keep =
      (right.insertionSort fun first second => key first ≤ key second).filter keep := by
  have total : Std.Total fun first second : Row => key first ≤ key second :=
    ⟨fun first second => le_total (key first) (key second)⟩
  have transitive : IsTrans Row fun first second => key first ≤ key second :=
    ⟨fun _ _ _ => le_trans⟩
  have leftRows := List.Nodup.of_map key leftKeys
  have rightRows := List.Nodup.of_map key rightKeys
  have permuted : List.Perm
      ((left.insertionSort fun first second => key first ≤ key second).filter keep)
      ((right.insertionSort fun first second => key first ≤ key second).filter keep) := by
    rw [List.perm_ext_iff_of_nodup]
    · intro row
      rw [List.mem_filter, List.mem_filter, List.mem_insertionSort, List.mem_insertionSort]
      exact and_congr_left (same row)
    · exact ((List.perm_insertionSort _ left).nodup_iff.mpr leftRows).filter _
    · exact ((List.perm_insertionSort _ right).nodup_iff.mpr rightRows).filter _
  have leftSorted :=
    (List.pairwise_insertionSort (fun first second => key first ≤ key second) left).filter keep
  have rightSorted :=
    (List.pairwise_insertionSort (fun first second => key first ≤ key second) right).filter keep
  apply List.Perm.eq_of_pairwise _ leftSorted rightSorted permuted
  intro first second firstMember secondMember below above
  have firstThere := (List.mem_insertionSort _).mp (List.mem_of_mem_filter firstMember)
  have secondKept := List.mem_filter.mp secondMember
  have secondThere := (same second secondKept.2).mpr ((List.mem_insertionSort _).mp secondKept.1)
  exact List.inj_on_of_nodup_map leftKeys firstThere secondThere (le_antisymm below above)

end Sorted

end Hivra.Library
