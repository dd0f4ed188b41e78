import Mathlib.Data.List.Infix

/-!
# Frames of a stream

A text is cut into frames at its separators, the leftmost first.  A stream that arrives in
parts is cut with what is left of the part before in front; where the text was parted makes
no difference.
-/

namespace Hivra.Library

structure Separator (α : Type) where
  marks : List (List α)
  nonempty : [] ∉ marks
  clear : ∀ mark ∈ marks, ∀ start ∈ mark.inits, start ≠ mark →
    ∀ tail ∈ start.tails, ∀ other ∈ marks, ¬ other <+: tail

namespace Separator

variable {α σ : Type} (sep : Separator α)

theorem clear_of_prefix {mark start tail other : List α} (isMark : mark ∈ sep.marks)
    (starts : start <+: mark) (apart : start ≠ mark) (ends : tail <:+ start)
    (isOther : other ∈ sep.marks) : ¬ other <+: tail :=
  sep.clear mark isMark start ((List.mem_inits _ _).mpr starts) apart tail ((List.mem_tails _ _).mpr ends)
    other isOther

variable [DecidableEq α]

def cut (text : List α) : Option (List α × List α) :=
  (sep.marks.find? fun mark => mark.isPrefixOf text).map fun mark =>
    (mark, text.drop mark.length)

theorem cut_iff {text mark rest : List α} :
    sep.cut text = some (mark, rest) ↔ mark ∈ sep.marks ∧ text = mark ++ rest := by
  unfold cut
  constructor
  · intro found
    have ⟨held, isFound, same⟩ := Option.map_eq_some_iff.mp found
    have ⟨left, right⟩ := Prod.mk.inj same
    have heads : held <+: text := by simpa using List.find?_some isFound
    rw [← left, ← right]
    exact ⟨List.mem_of_find?_eq_some isFound, (List.prefix_iff_eq_append.mp heads).symm⟩
  · rintro ⟨isMark, rfl⟩
    have heads : mark.isPrefixOf (mark ++ rest) = true :=
      List.isPrefixOf_iff_prefix.mpr (List.prefix_append mark rest)
    cases found : sep.marks.find? fun held => held.isPrefixOf (mark ++ rest) with
    | none => exact absurd heads (List.find?_eq_none.mp found mark isMark)
    | some held =>
      have isHeld := List.mem_of_find?_eq_some found
      have first : held <+: mark ++ rest := by simpa using List.find?_some found
      -- of two marks at one place one begins the other, so they are one
      have same : held = mark := by
        by_contra apart
        rcases List.prefix_or_prefix_of_prefix first (List.prefix_append mark rest) with
          inner | outer
        · exact sep.clear_of_prefix isMark inner apart (List.suffix_refl _) isHeld
            (List.prefix_refl _)
        · exact sep.clear_of_prefix isHeld outer (Ne.symm apart) (List.suffix_refl _) isMark
            (List.prefix_refl _)
      simp [same]

theorem cut_none {text : List α} : sep.cut text = none ↔ ∀ mark ∈ sep.marks, ¬ mark <+: text := by
  simp [cut, List.find?_eq_none]

theorem cut_append {text mark rest : List α} (found : sep.cut text = some (mark, rest))
    (more : List α) : sep.cut (text ++ more) = some (mark, rest ++ more) := by
  have ⟨isMark, same⟩ := sep.cut_iff.mp found
  rw [sep.cut_iff, same, List.append_assoc]
  exact ⟨isMark, rfl⟩

theorem cut_shorter {text mark rest : List α} (found : sep.cut text = some (mark, rest)) :
    rest.length < text.length := by
  have ⟨isMark, same⟩ := sep.cut_iff.mp found
  have some := List.length_pos_of_ne_nil fun empty => sep.nonempty (empty ▸ isMark)
  rw [same, List.length_append]
  omega

theorem unfinished {text more mark rest : List α} (none : sep.cut text = none)
    (found : sep.cut (text ++ more) = some (mark, rest)) (tail : List α)
    (ends : tail <:+ text) : sep.cut tail = Option.none := by
  have ⟨isMark, same⟩ := sep.cut_iff.mp found
  have whole : ¬ mark <+: text := sep.cut_none.mp none mark isMark
  have starts : text <+: mark := by
    rcases List.prefix_or_prefix_of_prefix (List.prefix_append text more)
      (same ▸ List.prefix_append mark rest) with short | long
    · exact short
    · exact absurd long whole
  have apart : text ≠ mark := by
    rintro rfl
    exact whole (List.prefix_refl _)
  rw [sep.cut_none]
  intro other isOther
  exact sep.clear_of_prefix isMark starts apart ends isOther

abbrev Pieces (α : Type) := List (List α × List α) × List α

def Pieces.frames (pieces : Pieces α) : List (List α) := pieces.1.map Prod.fst

/-- The pieces as one list: what `text.split(separator)` returns. -/
def Pieces.all (pieces : Pieces α) : List (List α) := pieces.frames ++ [pieces.2]

def Pieces.joined (pieces : Pieces α) : List α :=
  (pieces.1.flatMap fun piece => piece.1 ++ piece.2) ++ pieces.2

def Pieces.prepend (char : α) : Pieces α → Pieces α
  | ([], rest) => ([], char :: rest)
  | ((frame, mark) :: later, rest) => ((char :: frame, mark) :: later, rest)

def split : List α → Pieces α
  | [] => ([], [])
  | char :: text =>
    match _found : sep.cut (char :: text) with
    | some (mark, rest) => (([], mark) :: (split rest).1, (split rest).2)
    | none => Pieces.prepend char (split text)
termination_by text => text.length
decreasing_by
  · exact sep.cut_shorter _found
  · simp

@[simp]
theorem split_nil : sep.split [] = ([], []) := by
  rw [split]

theorem split_cut {text mark rest : List α} (found : sep.cut text = some (mark, rest)) :
    sep.split text = (([], mark) :: (sep.split rest).1, (sep.split rest).2) := by
  cases text with
  | nil => exact absurd (sep.cut_shorter found) (Nat.not_lt_zero _)
  | cons char text =>
    rw [split]
    split
    · rename_i same
      rw [found] at same
      cases same
      rfl
    · rename_i none
      rw [found] at none
      cases none

theorem split_cons {char : α} {text : List α} (none : sep.cut (char :: text) = none) :
    sep.split (char :: text) = Pieces.prepend char (sep.split text) := by
  rw [split]
  split
  · rename_i found
    rw [none] at found
    cases found
  · rfl

theorem split_induction {motive : List α → Prop} (nil : motive [])
    (cut : ∀ text mark rest, sep.cut text = some (mark, rest) → motive rest → motive text)
    (cons : ∀ char text, sep.cut (char :: text) = none → motive text → motive (char :: text))
    (text : List α) : motive text := by
  induction size : text.length using Nat.strong_induction_on generalizing text with
  | _ size ih =>
    cases text with
    | nil => exact nil
    | cons char text =>
      cases found : sep.cut (char :: text) with
      | none => exact cons char text found (ih text.length (by simp [← size]) text rfl)
      | some pair =>
        have shorter := sep.cut_shorter (found : _ = some (pair.1, pair.2))
        exact cut _ _ _ found (ih _ (size ▸ shorter) pair.2 rfl)

theorem split_joined (text : List α) : (sep.split text).joined = text := by
  induction text using sep.split_induction with
  | nil => simp [Pieces.joined]
  | cut text mark rest found ih =>
    rw [sep.split_cut found, (sep.cut_iff.mp found).2]
    simpa [Pieces.joined] using ih
  | cons char text none ih =>
    rw [sep.split_cons none]
    cases pieces : sep.split text with
    | mk marked rest =>
      rw [pieces] at ih
      cases marked <;> simp_all [Pieces.prepend, Pieces.joined]

theorem split_unmarked {text : List α} (none : ∀ tail, tail <:+ text → sep.cut tail = none) :
    sep.split text = ([], text) := by
  induction text with
  | nil => exact sep.split_nil
  | cons char text ih =>
    have inside (tail : List α) (suffix_ : tail <:+ text) : sep.cut tail = Option.none :=
      none tail (suffix_.trans (List.suffix_cons char text))
    rw [sep.split_cons (none _ (List.suffix_refl _)), ih inside]
    rfl

theorem rest_of_unmarked (text : List α) (unmarked : (sep.split text).1 = []) :
    (sep.split text).2 = text := by
  induction text using sep.split_induction with
  | nil => simp
  | cut text mark rest found _ =>
    rw [sep.split_cut found] at unmarked
    cases unmarked
  | cons char text none ih =>
    rw [sep.split_cons none] at unmarked ⊢
    cases pieces : sep.split text with
    | mk marked rest =>
      rw [pieces] at unmarked ih
      cases marked with
      | nil => exact congrArg (List.cons char) (ih rfl)
      | cons first later => cases unmarked

theorem split_append (text more : List α) : sep.split (text ++ more) =
      ((sep.split text).1 ++ (sep.split ((sep.split text).2 ++ more)).1,
        (sep.split ((sep.split text).2 ++ more)).2) := by
  induction text using sep.split_induction with
  | nil => simp
  | cut text mark rest found ih =>
    rw [sep.split_cut found, sep.split_cut (sep.cut_append found more), ih]
    rfl
  | cons char text none ih =>
    cases found : sep.cut (char :: text ++ more) with
    | some pair =>
      -- the mark only ends in the second part: the first part is the beginning of it
      have whole := sep.split_unmarked (sep.unfinished none (found : _ = some (pair.1, pair.2)))
      rw [whole]
      rfl
    | none =>
      rw [List.cons_append] at found
      rw [sep.split_cons none, List.cons_append, sep.split_cons found, ih]
      cases pieces : sep.split text with
      | mk marked rest =>
        cases marked with
        | cons first later => rfl
        | nil =>
          have same : rest = text := by
            have left := sep.rest_of_unmarked text (by rw [pieces])
            rw [← left, pieces]
          simp only [Pieces.prepend, List.nil_append, List.cons_append, same, sep.split_cons found]

theorem split_rest (text : List α) : sep.split (sep.split text).2 = ([], (sep.split text).2) := by
  have again := sep.split_append text []
  simp only [List.append_nil] at again
  have none : (sep.split (sep.split text).2).1 = [] := by
    have marks := congrArg Prod.fst again
    exact List.append_right_eq_self.mp marks.symm
  exact Prod.ext none (congrArg Prod.snd again).symm

structure First (text frame mark rest : List α) : Prop where
  text_eq : text = frame ++ mark ++ rest
  isMark : mark ∈ sep.marks
  whole : sep.split (frame ++ mark) = ([(frame, mark)], [])
  waits : ∀ before, before <+: frame ++ mark.dropLast → sep.split before = ([], before)

theorem first_of_split {text frame mark last : List α} {later : List (List α × List α)}
    (pieces : sep.split text = ((frame, mark) :: later, last)) :
    ∃ rest, sep.First text frame mark rest ∧ sep.split rest = (later, last) := by
  induction text using sep.split_induction generalizing frame with
  | nil => simp at pieces
  | cut text held rest found _ =>
    have ⟨isMark, same⟩ := sep.cut_iff.mp found
    rw [sep.split_cut found] at pieces
    cases pieces
    have alone := sep.split_cut (sep.cut_iff.mpr ⟨isMark, (List.append_nil mark).symm⟩)
    rw [sep.split_nil] at alone
    apply Exists.intro rest
    apply And.intro _ rfl
    constructor
    · exact same
    · exact isMark
    · exact alone
    · intro before starts
      apply sep.split_unmarked
      intro tail ends
      rw [sep.cut_none]
      intro other isOther
      have inside := starts.trans (List.dropLast_prefix mark)
      apply sep.clear_of_prefix isMark inside _ ends isOther
      rintro rfl
      have short := starts.length_le
      have some := List.length_pos_of_ne_nil fun empty => sep.nonempty (empty ▸ isMark)
      simp at short
      omega
  | cons char text none ih =>
    rw [sep.split_cons none] at pieces
    cases inner : sep.split text with
    | mk marked left =>
      rw [inner] at pieces
      cases marked with
      | nil => simp [Pieces.prepend] at pieces
      | cons first others =>
        cases pieces
        have ⟨rest, found, isRest⟩ := ih inner
        have grows {before : List α} (starts : before <+: text) :
            sep.cut (char :: before) = Option.none := by
          have ⟨more, same⟩ := starts
          cases cut : sep.cut (char :: before) with
          | none => rfl
          | some pair =>
            have longer := sep.cut_append cut more
            rw [List.cons_append, same, none] at longer
            cases longer
        apply Exists.intro rest
        apply And.intro _ isRest
        constructor
        · simp [found.text_eq]
        · exact found.isMark
        · have starts : first.1 ++ first.2 <+: text := ⟨rest, found.text_eq.symm⟩
          rw [List.cons_append, sep.split_cons (grows starts), found.whole]
          rfl
        · intro before starts
          cases before with
          | nil => exact sep.split_nil
          | cons head before =>
            have ⟨same, inside⟩ := List.cons_prefix_cons.mp starts
            have within : before <+: text := by
              rw [found.text_eq, List.append_assoc]
              apply inside.trans
              apply (List.prefix_append_right_inj first.1).mpr
              exact (List.dropLast_prefix _).trans (List.prefix_append _ rest)
            rw [same, sep.split_cons (grows within), found.waits before inside]
            rfl

theorem First.split_append {text frame mark rest : List α} (first : sep.First text frame mark rest)
    (more : List α) : sep.split (frame ++ mark ++ more) =
      ((frame, mark) :: (sep.split more).1, (sep.split more).2) := by
  rw [sep.split_append, first.whole]
  rfl

theorem rest_inside_mark {text : List α} {piece : List α × List α}
    (member : piece ∈ (sep.split text).1) : ∃ before more, text = before ++ more ∧
      (sep.split before).2 = piece.1 ++ piece.2.dropLast := by
  generalize shape : sep.split text = pieces at member
  obtain ⟨marked, last⟩ := pieces
  induction marked generalizing text with
  | nil => cases member
  | cons first later ih =>
    have ⟨rest, found, isRest⟩ := sep.first_of_split shape
    rcases List.mem_cons.mp member with own | other
    · have ⟨more, whole⟩ := List.dropLast_prefix first.2
      apply Exists.intro (first.1 ++ first.2.dropLast)
      apply Exists.intro (more ++ rest)
      rw [own, found.waits _ (List.prefix_refl _), found.text_eq]
      simp only [List.append_assoc, and_true]
      rw [← List.append_assoc first.2.dropLast, whole]
    · have ⟨before, more, same, left⟩ := ih isRest other
      apply Exists.intro (first.1 ++ first.2 ++ before)
      apply Exists.intro more
      rw [found.split_append, found.text_eq, same]
      exact ⟨(List.append_assoc _ _ _).symm, left⟩

theorem rest_of_beginning {text before : List α} (starts : before <+: text) :
    (∃ piece ∈ (sep.split text).1, (sep.split before).2 <+: piece.1 ++ piece.2.dropLast) ∨
      (sep.split before).2 <+: (sep.split text).2 := by
  generalize shape : sep.split text = pieces
  obtain ⟨marked, last⟩ := pieces
  induction marked generalizing text before with
  | nil =>
    have ⟨more, same⟩ := starts
    have whole := sep.rest_of_unmarked text (by rw [shape])
    have parts := sep.split_append before more
    rw [same, shape] at parts
    have unmarked := (List.append_eq_nil_iff.mp (congrArg Prod.fst parts).symm).1
    rw [shape] at whole
    apply Or.inr
    rw [sep.rest_of_unmarked before unmarked, whole]
    exact ⟨more, same⟩
  | cons first later ih =>
    have ⟨rest, found, isRest⟩ := sep.first_of_split shape
    have starts' := starts
    rw [found.text_eq] at starts'
    by_cases short : before.length < (first.1 ++ first.2).length
    · have inside : before <+: first.1 ++ first.2.dropLast := by
        apply List.prefix_of_prefix_length_le starts'
        · rw [List.append_assoc, List.prefix_append_right_inj]
          exact (List.dropLast_prefix _).trans (List.prefix_append _ rest)
        · simp at short ⊢
          omega
      apply Or.inl
      apply Exists.intro first
      rw [found.waits before inside]
      exact ⟨List.mem_cons_self, inside⟩
    · have past : first.1 ++ first.2 <+: before :=
        List.prefix_of_prefix_length_le (List.prefix_append _ rest) starts' (by omega)
      have ⟨after, same⟩ := past
      rw [← same] at starts' ⊢
      have onward := (List.prefix_append_right_inj _).mp starts'
      rw [found.split_append]
      rcases ih onward isRest with ⟨piece, member, inside⟩ | left
      · exact .inl ⟨piece, List.mem_cons_of_mem _ member, inside⟩
      · exact .inr left

def feed (observe : σ → List α → σ) (state : List α × σ) (part : List α) : List α × σ :=
  ((sep.split (state.1 ++ part)).2,
    (sep.split (state.1 ++ part)).frames.foldl observe state.2)

theorem feed_parts (observe : σ → List α → σ) (parts : List (List α)) (state : List α × σ)
    (waits : sep.split state.1 = ([], state.1)) :
    parts.foldl (sep.feed observe) state = sep.feed observe state parts.flatten := by
  induction parts generalizing state with
  | nil => simp [feed, waits, Pieces.frames]
  | cons part parts ih =>
    have left := sep.split_rest (state.1 ++ part)
    rw [List.foldl_cons, ih _ left, List.flatten_cons]
    simp only [feed, Pieces.frames]
    rw [← List.append_assoc, sep.split_append (state.1 ++ part) parts.flatten, List.map_append,
      List.foldl_append]

end Separator

/-- `/\r?\n/`. -/
def lineEnd : Separator Char where
  marks := [['\n'], ['\r', '\n']]
  nonempty := by decide
  clear := by decide

/-- `/\r?\n\r?\n/`. -/
def blankLine : Separator Char where
  marks := [['\n', '\n'], ['\n', '\r', '\n'], ['\r', '\n', '\n'], ['\r', '\n', '\r', '\n']]
  nonempty := by decide
  clear := by decide

end Hivra.Library
