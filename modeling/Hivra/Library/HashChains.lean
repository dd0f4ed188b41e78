import Mathlib.Data.List.Induction

/-!
# Hash chains

A chain is a list of numbered entries, each with the hash of the entry before it
and a hash of its own content.  `firstBroken` is the one pass of a verifier; it
finds nothing exactly when the list is chained.  Where a hash determines the
entry it was computed from, the last hash of a chain determines the whole chain.
-/

namespace Hivra.Library

/-- What a verifier reads of an entry.  `computed` is the hash it recomputes from
the entry's content. -/
structure ChainView (Entry Hash : Type) where
  number : Entry → Nat
  previous : Entry → Hash
  hash : Entry → Hash
  computed : Entry → Hash

inductive ChainFault
  | gap
  | link
  | hash

namespace ChainView

variable {Entry Hash : Type} (view : ChainView Entry Hash)

/-- The entries are numbered from `number` on, the first follows `previous`, each
other one its predecessor, and every hash is the recomputed one. -/
def Chained (previous : Hash) (number : Nat) : List Entry → Prop
  | [] => True
  | entry :: rest =>
    view.number entry = number ∧ view.previous entry = previous ∧
      view.hash entry = view.computed entry ∧
      Chained (view.hash entry) (number + 1) rest

def lastHash (start : Hash) (entries : List Entry) : Hash :=
  (entries.getLast?.map view.hash).getD start

@[simp]
theorem last_hash_nil (start : Hash) : view.lastHash start [] = start := rfl

@[simp]
theorem last_hash_append (start : Hash) (entries : List Entry) (entry : Entry) :
    view.lastHash start (entries ++ [entry]) = view.hash entry := by
  simp [lastHash]

theorem last_hash_cons (start : Hash) (entry : Entry) (rest : List Entry) :
    view.lastHash start (entry :: rest) = view.lastHash (view.hash entry) rest := by
  cases rest with
  | nil => rfl
  | cons next rest =>
    have ends : (next :: rest).getLast? = some ((next :: rest).getLast (List.cons_ne_nil _ _)) :=
      List.getLast?_eq_some_getLast (List.cons_ne_nil _ _)
    rw [lastHash, lastHash, List.getLast?_cons_cons, ends]
    rfl

theorem chained_append (start : Hash) (number : Nat) (entries : List Entry) (entry : Entry) :
    view.Chained start number (entries ++ [entry]) ↔
      view.Chained start number entries ∧
        view.number entry = number + entries.length ∧
        view.previous entry = view.lastHash start entries ∧
        view.hash entry = view.computed entry := by
  induction entries generalizing start number with
  | nil => simp [Chained]
  | cons first rest ih =>
    simp only [List.cons_append, Chained, ih, last_hash_cons, List.length_cons]
    have sum : number + 1 + rest.length = number + (rest.length + 1) := by omega
    rw [sum]
    tauto

theorem chained_numbers {start : Hash} {number : Nat} {entries : List Entry}
    (chained : view.Chained start number entries) :
    entries.map view.number = List.range' number entries.length := by
  induction entries generalizing start number with
  | nil => rfl
  | cons entry rest ih =>
    rw [List.map_cons, List.length_cons, List.range'_succ, chained.1, ih chained.2.2.2]

theorem chained_eq_of_last_hash {start : Hash} {number : Nat} {left right : List Entry}
    (determines : ∀ one ∈ left, ∀ other ∈ right, view.computed one = view.computed other →
      view.hash one = view.hash other → one = other)
    (leftChained : view.Chained start number left) (rightChained : view.Chained start number right)
    (last : left.getLast?.map view.hash = right.getLast?.map view.hash) : left = right := by
  induction left using List.reverseRecOn generalizing right with
  | nil =>
    cases right with
    | nil => rfl
    | cons entry rest =>
      cases ended : (entry :: rest).getLast? with
      | none => simp at ended
      | some ending =>
        rw [ended] at last
        cases last
  | append_singleton left leftEnd ih =>
    cases right using List.reverseRecOn with
    | nil => simp at last
    | append_singleton right rightEnd =>
      simp only [List.getLast?_concat, Option.map_some, Option.some.injEq] at last
      rw [chained_append] at leftChained rightChained
      obtain ⟨leftChained, leftNumber, leftPrevious, leftHash⟩ := leftChained
      obtain ⟨rightChained, rightNumber, rightPrevious, rightHash⟩ := rightChained
      have same : leftEnd = rightEnd :=
        determines leftEnd List.mem_concat_self rightEnd List.mem_concat_self
          (by rw [← leftHash, ← rightHash, last]) last
      rw [same] at leftNumber leftPrevious
      have lengths : left.length = right.length := by omega
      have previous : view.lastHash start left = view.lastHash start right :=
        leftPrevious.symm.trans rightPrevious
      have before : left = right := by
        cases left using List.reverseRecOn with
        | nil =>
          rw [List.length_nil, eq_comm, List.length_eq_zero_iff] at lengths
          exact lengths.symm
        | append_singleton left leftLast =>
          cases right using List.reverseRecOn with
          | nil => simp at lengths
          | append_singleton right rightLast =>
            rw [last_hash_append, last_hash_append] at previous
            apply ih _ leftChained rightChained
            · simp [previous]
            · intro one inLeft other inRight
              exact determines one (List.mem_append_left _ inLeft) other
                (List.mem_append_left _ inRight)
      rw [before, same]

section Verifier

variable [DecidableEq Hash]

def fault? (previous : Hash) (number : Nat) (entry : Entry) : Option ChainFault :=
  if view.number entry ≠ number then some .gap
  else if view.previous entry ≠ previous then some .link
  else if view.hash entry ≠ view.computed entry then some .hash
  else none

def firstBroken (previous : Hash) (number : Nat) : List Entry → Option (Nat × ChainFault)
  | [] => none
  | entry :: rest =>
    match view.fault? previous number entry with
    | some fault => some (number, fault)
    | none => firstBroken (view.hash entry) (number + 1) rest

theorem fault_none (previous : Hash) (number : Nat) (entry : Entry) :
    view.fault? previous number entry = none ↔
      view.number entry = number ∧ view.previous entry = previous ∧
        view.hash entry = view.computed entry := by
  unfold fault?
  split_ifs with gap link wrong <;> simp_all

theorem first_broken_none {previous : Hash} {number : Nat} {entries : List Entry} :
    view.firstBroken previous number entries = none ↔
      view.Chained previous number entries := by
  induction entries generalizing previous number with
  | nil => simp [firstBroken, Chained]
  | cons entry rest ih =>
    unfold firstBroken Chained
    have clean := view.fault_none previous number entry
    cases fault : view.fault? previous number entry with
    | some found =>
      rw [fault] at clean
      constructor
      · intro impossible
        cases impossible
      · rintro ⟨numbered, linked, hashed, _⟩
        exact absurd (clean.mpr ⟨numbered, linked, hashed⟩) (by simp)
    | none =>
      obtain ⟨numbered, linked, hashed⟩ := clean.mp fault
      dsimp only
      rw [ih]
      exact ⟨fun chained => ⟨numbered, linked, hashed, chained⟩, fun chained => chained.2.2.2⟩

/-- The reported number is that of the first entry with a fault: what stands
before it is chained, and the entry itself has the fault. -/
theorem first_broken_some {previous : Hash} {number found : Nat} {entries : List Entry}
    {fault : ChainFault} (broken : view.firstBroken previous number entries = some (found, fault)) :
    ∃ before entry after, entries = before ++ entry :: after ∧
      found = number + before.length ∧
      view.Chained previous number before ∧
      view.fault? (view.lastHash previous before) found entry = some fault := by
  induction entries generalizing previous number with
  | nil => cases broken
  | cons entry rest ih =>
    unfold firstBroken at broken
    cases faulty : view.fault? previous number entry with
    | some here =>
      rw [faulty] at broken
      cases broken
      exact ⟨[], entry, rest, rfl, rfl, trivial, faulty⟩
    | none =>
      rw [faulty] at broken
      obtain ⟨before, wrong, after, split, position, chained, isFault⟩ := ih broken
      obtain ⟨numbered, linked, hashed⟩ := (view.fault_none previous number entry).mp faulty
      refine ⟨entry :: before, wrong, after, ?_, ?_, ⟨numbered, linked, hashed, chained⟩, ?_⟩
      · rw [split]
        rfl
      · rw [position, List.length_cons]
        omega
      · rw [last_hash_cons]
        exact isFault

end Verifier

end ChainView

end Hivra.Library
