import Hivra.Library.Scripts
import Hivra.Library.FollowedRows

/-!
# Runs that follow a rule about their own past

A script knows what it has been answered and nothing else.  A rule says what a request
needs of the requests before it and their replies; that a script follows it is checked of
the script alone.  With the journal of a system, every request in the order in which it
was answered, a run that issues a request has the past it needs there, whatever the other
runs have done in between, and an invariant of the store and the journal has to be kept
only by requests that follow the rule.
-/

namespace Hivra.Library

variable {Job Call : Type} {Reply : Call → Type}
variable {Failure Outcome Result Store Fault Change : Type}

namespace Script

def Follows (rule : List (Sigma Reply) → Call → Prop) (done : List (Sigma Reply) → Outcome → Prop) :
    List (Sigma Reply) → Script Call Reply Failure Outcome → Prop
  | past, .ret outcome => done past outcome
  | _, .raise _ => True
  | past, .call request next =>
    rule past request ∧ ∀ reply, Follows rule done (past ++ [⟨request, reply⟩]) (next reply)

variable {rule : List (Sigma Reply) → Call → Prop}
variable {past : List (Sigma Reply)}

theorem follows_bind {done : List (Sigma Reply) → Result → Prop}
    {first : Script Call Reply Failure Outcome} {next : Outcome → Script Call Reply Failure Result}
    (follows : first.Follows rule (fun later outcome => (next outcome).Follows rule done later)
      past) :
    (first.bind next).Follows rule done past := by
  induction first generalizing past with
  | ret outcome => exact follows
  | raise failure => trivial
  | call request rest ih =>
    constructor
    · exact follows.1
    · intro reply
      exact ih reply (follows.2 reply)

theorem follows_weaken {done done' : List (Sigma Reply) → Outcome → Prop}
    {script : Script Call Reply Failure Outcome} (follows : script.Follows rule done past)
    (weaker : ∀ later outcome, done later outcome → done' later outcome) :
    script.Follows rule done' past := by
  induction script generalizing past with
  | ret outcome => exact weaker _ _ follows
  | raise failure => trivial
  | call request rest ih =>
    constructor
    · exact follows.1
    · intro reply
      exact ih reply (follows.2 reply)

end Script

structure JournalEntry (Call : Type) (Reply : Call → Type) where
  run : Nat
  call : Call
  reply : Reply call

abbrev Journal (Call : Type) (Reply : Call → Type) : Type := List (JournalEntry Call Reply)

def pastOf (run : Nat) (journal : Journal Call Reply) : List (Sigma Reply) :=
  (journal.filter fun exchange => exchange.run == run).map fun exchange =>
    ⟨exchange.call, exchange.reply⟩

@[simp]
theorem pastOf_nil (run : Nat) : pastOf run ([] : Journal Call Reply) = [] := rfl

theorem pastOf_append_own (run : Nat) (journal : Journal Call Reply) (call : Call)
    (reply : Reply call) :
    pastOf run (journal ++ [⟨run, call, reply⟩]) = pastOf run journal ++ [⟨call, reply⟩] := by
  simp [pastOf]

theorem pastOf_append_other {run other : Nat} (different : other ≠ run)
    (journal : Journal Call Reply) (call : Call) (reply : Reply call) :
    pastOf run (journal ++ [⟨other, call, reply⟩]) = pastOf run journal := by
  simp [pastOf, different]

variable {journal : Journal Call Reply}

theorem mem_pastOf {run : Nat} {call : Call} {reply : Reply call} :
    ⟨call, reply⟩ ∈ pastOf run journal ↔ ⟨run, call, reply⟩ ∈ journal := by
  constructor
  · intro there
    have ⟨exchange, held, same⟩ := List.mem_map.mp there
    have ⟨inJournal, isRun⟩ := List.mem_filter.mp held
    obtain ⟨other, call', reply'⟩ := exchange
    cases same
    rw [beq_iff_eq] at isRun
    exact isRun ▸ inJournal
  · intro there
    exact List.mem_map.mpr ⟨_, List.mem_filter.mpr ⟨there, by simp⟩, rfl⟩

def said (journal : Journal Call Reply) : List (Sigma Reply) :=
  journal.map fun exchange => ⟨exchange.call, exchange.reply⟩

theorem said_append (journal : Journal Call Reply) (run : Nat) (call : Call) (reply : Reply call) :
    said (journal ++ [⟨run, call, reply⟩]) = said journal ++ [⟨call, reply⟩] := by
  simp [said]

theorem said_of_past {run : Nat} {exchange : Sigma Reply} (there : exchange ∈ pastOf run journal) :
    exchange ∈ said journal := by
  have ⟨held, inFilter, same⟩ := List.mem_map.mp there
  exact List.mem_map.mpr ⟨held, (List.mem_filter.mp inFilter).1, same⟩

theorem pastOf_unused {run : Nat} (unused : ∀ exchange ∈ journal, exchange.run < run) :
    pastOf run journal = [] := by
  rw [pastOf, List.filter_eq_nil_iff.mpr, List.map_nil]
  intro exchange there isRun
  rw [beq_iff_eq] at isRun
  exact absurd (unused exchange there) (by omega)

structure Logged (Call : Type) (Reply : Call → Type) (Failure Outcome Store : Type) where
  world : World Call Reply Failure Outcome Store
  journal : Journal Call Reply

def Logged.initial (store : Store) : Logged Call Reply Failure Outcome Store :=
  { world := System.initial store, journal := [] }

namespace System

variable (system : System Job Call Reply Failure Outcome Store Fault Change)

def log (logged : Logged Call Reply Failure Outcome Store) (event : Event Job Fault Change) :
    Logged Call Reply Failure Outcome Store :=
  { world := system.step logged.world event
    journal :=
      match event with
      | .advance run fault =>
        match logged.world.runs[run]? with
        | some (some (.call request _)) =>
          logged.journal ++
            [⟨run, request, (system.perform run request fault logged.world.store).2⟩]
        | _ => logged.journal
      | _ => logged.journal }

structure Lawful (rule : List (Sigma Reply) → Call → Prop)
    (fits : Logged Call Reply Failure Outcome Store → Event Job Fault Change → Prop)
    (invariant : Store → Journal Call Reply → Prop) : Prop where
  programs : ∀ job, (system.program job).Follows rule (fun _ _ => True) []
  performs : ∀ logged run request next fault, invariant logged.world.store logged.journal →
    logged.world.runs[run]? = some (some (.call request next)) →
    fits logged (.advance run fault) → rule (pastOf run logged.journal) request →
    invariant (system.perform run request fault logged.world.store).1
      (logged.journal ++ [⟨run, request, (system.perform run request fault logged.world.store).2⟩])
  changes : ∀ logged change, invariant logged.world.store logged.journal →
    fits logged (.outside change) →
    invariant (system.change change logged.world.store) logged.journal

variable {system}
variable {rule : List (Sigma Reply) → Call → Prop}
variable {fits : Logged Call Reply Failure Outcome Store → Event Job Fault Change → Prop}
variable {invariant : Store → Journal Call Reply → Prop}

structure Ruled (rule : List (Sigma Reply) → Call → Prop)
    (invariant : Store → Journal Call Reply → Prop)
    (logged : Logged Call Reply Failure Outcome Store) : Prop where
  invariant : invariant logged.world.store logged.journal
  started : ∀ exchange ∈ logged.journal, exchange.run < logged.world.runs.length
  follows : ∀ run (script : Script Call Reply Failure Outcome),
    logged.world.runs[run]? = some (some script) →
    script.Follows rule (fun _ _ => True) (pastOf run logged.journal)

theorem ruled_step (lawful : system.Lawful rule fits invariant)
    (logged : Logged Call Reply Failure Outcome Store) (event : Event Job Fault Change)
    (fitting : fits logged event) (ruled : Ruled rule invariant logged) :
    Ruled rule invariant (system.log logged event) := by
  have ⟨holds, started, follows⟩ := ruled
  cases event with
  | start job =>
    refine ⟨holds, ?_, ?_⟩
    · intro exchange there
      have bound := started exchange there
      simp only [log, step, List.length_append, List.length_cons]
      omega
    · intro run script current
      simp only [log, step] at current ⊢
      by_cases old : run < logged.world.runs.length
      · rw [List.getElem?_append_left old] at current
        exact follows run script current
      · have isNew : run = logged.world.runs.length := by
          have bound := (List.getElem?_eq_some_iff.mp current).1
          simp at bound
          omega
        rw [isNew] at current ⊢
        simp at current
        rw [pastOf_unused started, ← current]
        exact lawful.programs job
  | stop run =>
    refine ⟨holds, ?_, ?_⟩
    · intro exchange there
      simpa [log, step] using started exchange there
    · intro other script current
      simp only [log, step] at current ⊢
      by_cases same : run = other
      · subst same
        have bound := (List.getElem?_eq_some_iff.mp current).1
        rw [List.getElem?_set_self (by simpa using bound)] at current
        cases current
      · rw [List.getElem?_set_ne same] at current
        exact follows other script current
  | outside change =>
    exact ⟨lawful.changes logged change holds fitting, started, follows⟩
  | advance run fault =>
    cases current : logged.world.runs[run]? with
    | none => simpa [log, step, current] using ruled
    | some slot =>
      cases slot with
      | none => simpa [log, step, current] using ruled
      | some script =>
        cases script with
        | ret outcome => simpa [log, step, current] using ruled
        | raise failure => simpa [log, step, current] using ruled
        | call request next =>
          have own := follows run _ current
          have bound := (List.getElem?_eq_some_iff.mp current).1
          have logs : system.log logged (.advance run fault) =
              { world :=
                  { store := (system.perform run request fault logged.world.store).1
                    runs := logged.world.runs.set run
                      (some (next
                        (system.perform run request fault logged.world.store).2)) }
                journal := logged.journal ++ [⟨run, request,
                  (system.perform run request fault logged.world.store).2⟩] } := by
            simp [log, step, current]
          rw [logs]
          refine ⟨lawful.performs logged run request next fault holds current fitting
            own.1, ?_, ?_⟩
          · intro exchange there
            simp only [List.length_set]
            cases List.mem_append.mp there with
            | inl old => exact started exchange old
            | inr new =>
              rw [List.mem_singleton.mp new]
              exact bound
          · intro other script isOther
            by_cases same : run = other
            · subst same
              rw [List.getElem?_set_self bound] at isOther
              cases isOther
              rw [pastOf_append_own]
              exact own.2 _
            · rw [List.getElem?_set_ne same] at isOther
              rw [pastOf_append_other same]
              exact follows other script isOther

theorem lawful_after (lawful : system.Lawful rule fits invariant) {store : Store}
    (initially : invariant store []) {events : List (Event Job Fault Change)}
    (fitting : Meets system.log fits (Logged.initial store) events) :
    Ruled rule invariant (events.foldl system.log (Logged.initial store)) := by
  apply meets_keeps fitting
  · refine ⟨initially, ?_, ?_⟩
    · intro exchange there
      cases there
    · intro run script current
      simp [Logged.initial, System.initial] at current
  · intro logged event fits ruled
    exact ruled_step lawful logged event fits ruled

end System

end Hivra.Library
