import Mathlib.Data.List.Induction
import Hivra.Library.Tables

/-!
# Rows that only move forward

A row is followed by what a statement makes of it: what has come true of it stays true.
When every statement of a run lets the rows follow, what a row said at any point of
the run is followed by what it says at the end.
-/

namespace Hivra.Library

section Followed

variable {Row Key : Type} {entries : Row → List Key} {follows : Row → Row → Prop}
variable {before after : Table entries}

def Followed (follows : Row → Row → Prop) (before after : Table entries) : Prop :=
  ∀ row ∈ before, ∃ later ∈ after, follows row later

theorem followed_refl (refl : ∀ row, follows row row) (table : Table entries) :
    Followed follows table table := by
  intro row there
  exact ⟨row, there, refl row⟩

theorem followed_trans (trans : ∀ first second third, follows first second →
      follows second third → follows first third)
    {middle : Table entries} (early : Followed follows before middle)
    (late : Followed follows middle after) : Followed follows before after := by
  intro row there
  have ⟨next, nextThere, first⟩ := early row there
  have ⟨last, lastThere, second⟩ := late next nextThere
  exact ⟨last, lastThere, trans row next last first second⟩

theorem followed_insert [DecidableEq Key] (refl : ∀ row, follows row row) {row : Row}
    (inserted : before.insert row = some after) : Followed follows before after := by
  intro held there
  exact ⟨held, (Table.mem_insert inserted).mpr (.inl there), refl held⟩

theorem followed_rewrite (refl : ∀ row, follows row row) {selected : Row → Bool}
    {change : Row → Row} {keeps : ∀ row, entries (change row) = entries row}
    (moves : ∀ row ∈ before, selected row = true → follows row (change row)) :
    Followed follows before (before.rewrite selected change keeps) := by
  intro row there
  by_cases chosen : selected row = true
  · exact ⟨change row, Table.mem_rewrite.mpr ⟨row, there, if_pos chosen⟩, moves row there chosen⟩
  · exact ⟨row, Table.mem_rewrite.mpr ⟨row, there, if_neg chosen⟩, refl row⟩

theorem followed_map {change : Row → Row} (rows : after.rows = before.rows.map change)
    (moves : ∀ row ∈ before, follows row (change row)) : Followed follows before after := by
  intro row there
  refine ⟨change row, ?_, moves row there⟩
  rw [Table.mem_rows, rows]
  exact List.mem_map_of_mem there

theorem preceded_map {change : Row → Row} (rows : after.rows = before.rows.map change)
    (moves : ∀ row ∈ before, follows row (change row)) :
    ∀ row ∈ after, ∃ earlier ∈ before, follows earlier row := by
  intro row there
  rw [Table.mem_rows, rows, List.mem_map] at there
  have ⟨earlier, held, isRow⟩ := there
  have moved := moves earlier held
  rw [isRow] at moved
  exact ⟨earlier, held, moved⟩

end Followed

section Runs

variable {State Event : Type} {step : State → Event → State}

theorem fold_keeps {Holds : State → Prop} {start : State} (history : List Event)
    (holds : Holds start) (keeps : ∀ state event, Holds state → Holds (step state event)) :
    Holds (history.foldl step start) := by
  induction history generalizing start with
  | nil => exact holds
  | cons event rest ih => exact ih (keeps start event holds)

def Meets (step : State → Event → State) (condition : State → Event → Prop) :
    State → List Event → Prop
  | _, [] => True
  | state, event :: rest => condition state event ∧ Meets step condition (step state event) rest

instance decidableMeets (condition : State → Event → Prop)
    [∀ state event, Decidable (condition state event)] :
    (state : State) → (history : List Event) → Decidable (Meets step condition state history)
  | _, [] => instDecidableTrue
  | state, event :: rest =>
    have := decidableMeets condition (step state event) rest
    inferInstanceAs (Decidable (condition state event ∧ _))

variable {condition : State → Event → Prop}

theorem meets_always (always : ∀ state event, condition state event) (start : State)
    (history : List Event) : Meets step condition start history := by
  induction history generalizing start with
  | nil => trivial
  | cons event rest ih => exact ⟨always start event, ih (step start event)⟩

theorem meets_congr {other : State → Event → Prop}
    (same : ∀ state event, condition state event ↔ other state event) (start : State)
    (history : List Event) :
    Meets step condition start history ↔ Meets step other start history := by
  induction history generalizing start with
  | nil => rfl
  | cons event rest ih => exact and_congr (same start event) (ih (step start event))

theorem meets_append {start : State} {early late : List Event}
    (meets : Meets step condition start (early ++ late)) :
    Meets step condition start early ∧ Meets step condition (early.foldl step start) late := by
  induction early generalizing start with
  | nil => exact ⟨trivial, meets⟩
  | cons event rest ih =>
    have ⟨first, others⟩ := ih meets.2
    exact ⟨⟨meets.1, first⟩, others⟩

theorem meets_keeps {condition : State → Event → Prop} {Holds : State → Prop} {start : State}
    {history : List Event} (meets : Meets step condition start history) (holds : Holds start)
    (keeps : ∀ state event, condition state event → Holds state → Holds (step state event)) :
    Holds (history.foldl step start) := by
  induction history generalizing start with
  | nil => exact holds
  | cons event rest ih => exact ih meets.2 (keeps start event meets.1 holds)

/-- What a step keeps exactly under a condition holds throughout a run exactly if every step
of the run is taken under the condition. -/
theorem always_iff_meets {Holds : State → Prop} {start : State} (history : List Event)
    (holds : Holds start)
    (exact_step : ∀ state event, Holds state → (Holds (step state event) ↔ condition state event)) :
    (∀ early, early <+: history → Holds (early.foldl step start)) ↔
      Meets step condition start history := by
  induction history generalizing start with
  | nil =>
    constructor
    · intro _
      trivial
    · intro _ early isPart
      rw [List.prefix_nil.mp isPart]
      exact holds
  | cons event rest ih =>
    constructor
    · intro always
      have next : Holds (step start event) := always [event] (by simp)
      refine ⟨(exact_step start event holds).mp next, (ih next).mp ?_⟩
      intro early isPart
      exact always (event :: early) ((List.prefix_cons_inj event).mpr isPart)
    · intro meets early isPart
      cases early with
      | nil => exact holds
      | cons first others =>
        have ⟨same, part⟩ := List.cons_prefix_cons.mp isPart
        rw [same]
        have next := (exact_step start event holds).mpr meets.1
        exact (ih next).mpr meets.2 others part

theorem fold_related {Holds : State → Prop} {related : State → State → Prop} {start : State}
    (history : List Event) (holds : Holds start)
    (keeps : ∀ state event, Holds state → Holds (step state event))
    (refl : ∀ state, related state state)
    (trans : ∀ first second third, related first second → related second third →
      related first third)
    (steps : ∀ state event, Holds state → related state (step state event)) :
    related start (history.foldl step start) := by
  induction history generalizing start with
  | nil => exact refl start
  | cons event rest ih =>
    exact trans _ _ _ (steps start event holds) (ih (keeps start event holds))

theorem fold_split {start : State} {history early late : List Event} {first : Event}
    (split : history = early ++ first :: late) :
    history.foldl step start = late.foldl step (step (early.foldl step start) first) := by
  rw [split, List.foldl_append, List.foldl_cons]

theorem fold_inserted {Row Key : Type} {entries : Row → List Key} {follows : Row → Row → Prop}
    {inserts : State → Event → Row → Prop} {Holds : State → Prop} (rows : State → Table entries)
    (refl : ∀ row, follows row row)
    (trans : ∀ first second third, follows first second → follows second third →
      follows first third)
    (keeps : ∀ state event, Holds state → Holds (step state event))
    (steps : ∀ state event, Holds state → ∀ row ∈ rows (step state event),
      (∃ before ∈ rows state, follows before row) ∨ inserts state event row)
    {start : State} (holds : Holds start) (empty : ∀ row, row ∉ rows start) (history : List Event) :
    ∀ row ∈ rows (history.foldl step start),
      ∃ early event late inserted, history = early ++ event :: late ∧
        inserts (early.foldl step start) event inserted ∧ follows inserted row := by
  induction history using List.reverseRecOn with
  | nil =>
    intro row there
    exact absurd there (empty row)
  | append_singleton history event ih =>
    intro row there
    rw [List.foldl_append, List.foldl_cons, List.foldl_nil] at there
    cases steps _ event (fold_keeps history holds keeps) row there with
    | inl older =>
      have ⟨before, beforeThere, moved⟩ := older
      have ⟨early, first, late, inserted, split, inserts, follows⟩ := ih before beforeThere
      refine ⟨early, first, late ++ [event], inserted, ?_, inserts, trans _ _ _ follows moved⟩
      rw [split, List.append_assoc, List.cons_append]
    | inr new => exact ⟨history, event, [], row, rfl, new, refl row⟩

theorem fold_caused {Holds Said : State → Prop} {causes : State → Event → Prop}
    (keeps : ∀ state event, Holds state → Holds (step state event))
    (steps : ∀ state event, Holds state → Said (step state event) → Said state ∨ causes state event)
    {start : State} (holds : Holds start) (unsaid : ¬Said start) (history : List Event)
    (said : Said (history.foldl step start)) :
    ∃ early event late, history = early ++ event :: late ∧
      causes (early.foldl step start) event := by
  induction history using List.reverseRecOn with
  | nil => exact absurd said unsaid
  | append_singleton history event ih =>
    rw [List.foldl_append, List.foldl_cons, List.foldl_nil] at said
    cases steps _ event (fold_keeps history holds keeps) said with
    | inl older =>
      have ⟨early, first, late, split, caused⟩ := ih older
      refine ⟨early, first, late ++ [event], ?_, caused⟩
      rw [split, List.append_assoc, List.cons_append]
    | inr now => exact ⟨history, event, [], rfl, now⟩

end Runs

end Hivra.Library
