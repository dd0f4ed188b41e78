import Mathlib.Data.List.Basic

/-!
# Row histories

Rows that are never deleted: a row is valid from the revision that opens it up to
the revision that closes it, that one not included.  A revision after `current`
closes some of the active rows and opens new ones behind the others.  It changes
nothing of what was valid at `current` or before.
-/

namespace Hivra.Library

structure Validity where
  validFrom : Nat
  validTo : Option Nat

namespace Validity

def validAt (validity : Validity) (revision : Nat) : Bool :=
  decide (validity.validFrom ≤ revision) &&
    match validity.validTo with
    | none => true
    | some validTo => decide (revision < validTo)

def isActive (validity : Validity) : Bool :=
  validity.validTo.isNone

def close (validity : Validity) (revision : Nat) : Validity :=
  { validity with validTo := some revision }

def opened (revision : Nat) : Validity :=
  { validFrom := revision, validTo := none }

/-- The interval is not empty and lies in the revisions up to `current`. -/
structure Within (current : Nat) (validity : Validity) : Prop where
  first : 1 ≤ validity.validFrom
  started : validity.validFrom ≤ current
  ended : ∀ validTo, validity.validTo = some validTo →
    validity.validFrom < validTo ∧ validTo ≤ current

variable {validity : Validity}

theorem within_succ {current : Nat} (within : Within current validity) :
    Within (current + 1) validity := by
  constructor
  · exact within.first
  · have started := within.started
    omega
  · intro validTo closed
    have ended := within.ended validTo closed
    omega

theorem opened_within (current : Nat) : Within (current + 1) (opened (current + 1)) := by
  constructor
  · simp [opened]
  · simp [opened]
  · intro validTo closed
    cases closed

theorem close_within {current : Nat} (within : Within current validity) :
    Within (current + 1) (validity.close (current + 1)) := by
  have started := within.started
  constructor
  · exact within.first
  · simp only [close]
    omega
  · intro validTo closed
    cases closed
    simp only [close]
    omega

theorem valid_at_current {current : Nat} (within : Within current validity) :
    validity.validAt current = validity.isActive := by
  have started := within.started
  cases closed : validity.validTo with
  | none => simp [validAt, isActive, closed, started]
  | some validTo =>
    have ended := (within.ended validTo closed).2
    simp [validAt, isActive, closed, started, ended]

theorem opened_valid_at {current revision : Nat} (old : revision ≤ current) :
    (opened (current + 1)).validAt revision = false := by
  have late : ¬current + 1 ≤ revision := by omega
  simp [validAt, opened, late]

theorem close_valid_at {current revision : Nat} (active : validity.isActive = true)
    (old : revision ≤ current) :
    (validity.close (current + 1)).validAt revision = validity.validAt revision := by
  have early : revision < current + 1 := by omega
  have notClosed : validity.validTo = none := by simpa [isActive] using active
  unfold validAt close
  rw [notClosed]
  simp only [early, decide_true]

end Validity

structure Versioned (Content : Type) where
  content : Content
  validity : Validity

section Histories

variable {Content : Type}

def Versioned.isActive (row : Versioned Content) : Bool :=
  row.validity.isActive

def Versioned.close (row : Versioned Content) (revision : Nat) : Versioned Content :=
  { row with validity := row.validity.close revision }

def openRows (revision : Nat) (contents : List Content) : List (Versioned Content) :=
  contents.map fun content => { content, validity := .opened revision }

def validContents (revision : Nat) (rows : List (Versioned Content)) : List Content :=
  (rows.filter fun row => row.validity.validAt revision).map Versioned.content

def activeContents (rows : List (Versioned Content)) : List Content :=
  (rows.filter Versioned.isActive).map Versioned.content

/-- Every row lies in the revisions up to `current`. -/
def HistoryWithin (current : Nat) (rows : List (Versioned Content)) : Prop :=
  ∀ row ∈ rows, row.validity.Within current

/-- The revision after `current` closes the selected rows, which are active, and
opens rows of the contents. -/
structure Revises (current : Nat) (selected : Versioned Content → Bool) (contents : List Content)
    (rows next : List (Versioned Content)) : Prop where
  active : ∀ row, selected row = true → row.isActive = true
  rows : next =
    rows.map (fun row => if selected row then row.close (current + 1) else row) ++
      openRows (current + 1) contents

variable {current : Nat} {selected : Versioned Content → Bool} {contents : List Content}
variable {rows next : List (Versioned Content)}

theorem mem_active_contents {content : Content} :
    content ∈ activeContents rows ↔ ∃ row ∈ rows, row.isActive = true ∧ row.content = content := by
  simp only [activeContents, List.mem_map, List.mem_filter, and_assoc]

theorem revises_within (revises : Revises current selected contents rows next)
    (within : HistoryWithin current rows) : HistoryWithin (current + 1) next := by
  intro row member
  rw [revises.rows, List.mem_append, List.mem_map] at member
  cases member with
  | inl old =>
    obtain ⟨held, present, rewritten⟩ := old
    split_ifs at rewritten
    · rw [← rewritten]
      exact Validity.close_within (within held present)
    · rw [← rewritten]
      exact Validity.within_succ (within held present)
  | inr new =>
    obtain ⟨content, _, made⟩ := List.mem_map.mp new
    rw [← made]
    exact Validity.opened_within current

theorem valid_contents_current (within : HistoryWithin current rows) :
    validContents current rows = activeContents rows := by
  unfold validContents activeContents
  congr 1
  apply List.filter_congr
  intro row member
  exact Validity.valid_at_current (within row member)

theorem open_rows_not_valid {revision : Nat} (old : revision ≤ current) (contents : List Content) :
    validContents revision (openRows (current + 1) contents) = [] := by
  unfold validContents openRows
  induction contents with
  | nil => rfl
  | cons content rest ih =>
    rw [List.map_cons, List.filter_cons_of_neg]
    · exact ih
    · simp [Validity.opened_valid_at old]

theorem valid_contents_map {revision : Nat} {change : Versioned Content → Versioned Content}
    (content : ∀ row, (change row).content = row.content)
    (valid : ∀ row, (change row).validity.validAt revision = row.validity.validAt revision)
    (rows : List (Versioned Content)) :
    validContents revision (rows.map change) = validContents revision rows := by
  unfold validContents
  induction rows with
  | nil => rfl
  | cons row rest ih =>
    rw [List.map_cons, List.filter_cons, List.filter_cons, valid]
    split
    · rw [List.map_cons, List.map_cons, content, ih]
    · exact ih

theorem valid_contents_frozen {revision : Nat}
    (revises : Revises current selected contents rows next) (old : revision ≤ current) :
    validContents revision next = validContents revision rows := by
  have opened := open_rows_not_valid old contents
  have changed := @valid_contents_map _ revision
    (fun row => if selected row then row.close (current + 1) else row)
  rw [← changed _ _ rows]
  · rw [revises.rows]
    unfold validContents at opened ⊢
    rw [List.filter_append, List.map_append, opened, List.append_nil]
  · intro row
    split <;> rfl
  · intro row
    split
    · rename_i chosen
      exact Validity.close_valid_at (revises.active row chosen) old
    · rfl

theorem active_contents_append (left right : List (Versioned Content)) :
    activeContents (left ++ right) = activeContents left ++ activeContents right := by
  unfold activeContents
  rw [List.filter_append, List.map_append]

theorem active_contents_open (revision : Nat) (contents : List Content) :
    activeContents (openRows revision contents) = contents := by
  unfold activeContents openRows
  induction contents with
  | nil => rfl
  | cons content rest ih =>
    rw [List.map_cons, List.filter_cons_of_pos, List.map_cons, ih]
    rfl

theorem active_contents_close (revision : Nat) (selected : Versioned Content → Bool)
    (rows : List (Versioned Content)) :
    activeContents (rows.map fun row => if selected row then row.close revision else row) =
      activeContents (rows.filter fun row => !selected row) := by
  unfold activeContents
  induction rows with
  | nil => rfl
  | cons row rest ih =>
    rw [List.map_cons]
    cases chosen : selected row with
    | true =>
      rw [List.filter_cons_of_neg, List.filter_cons_of_neg]
      · exact ih
      · simp [chosen]
      · simp [Versioned.isActive, Versioned.close, Validity.isActive, Validity.close]
    | false =>
      have kept : (row :: rest).filter (fun row => !selected row) =
          row :: rest.filter fun row => !selected row := by
        rw [List.filter_cons_of_pos (by simp [chosen])]
      rw [kept, if_neg (by simp), List.filter_cons, List.filter_cons]
      split
      · rw [List.map_cons, List.map_cons, ih]
      · exact ih

theorem active_contents_revised (revises : Revises current selected contents rows next) :
    activeContents next =
      activeContents (rows.filter fun row => !selected row) ++ contents := by
  rw [revises.rows, active_contents_append, active_contents_close, active_contents_open]

theorem mem_active_revised (revises : Revises current selected contents rows next)
    {content : Content} : content ∈ activeContents next ↔
      (∃ row ∈ rows, row.isActive = true ∧ selected row = false ∧ row.content = content) ∨
        content ∈ contents := by
  rw [active_contents_revised revises, List.mem_append, mem_active_contents]
  apply or_congr_left
  simp only [List.mem_filter, Bool.not_eq_true', and_assoc]
  apply exists_congr
  intro row
  apply and_congr_right
  intro _
  exact and_left_comm

end Histories

end Hivra.Library
