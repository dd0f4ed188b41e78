import Hivra.Library.Traces

/-!
# How far each run has come

A typestate says what state each run of a system is in: a request moves the state of the run
that issued it, by the reply.  A script keeps to a typestate when it issues a request only in a
state that permits it.  `keeps_bind` and `keeps_handle` check a script part by part, `keeps_ends` reads
the checks off a trace of the script, and `keep_step` lifts them to every run of a system, whatever
the store answers.
-/

namespace Hivra.Library

structure Typestate (Call : Type) (Reply : Call → Type) (State : Type) where
  /-- The state of a run that has issued no request. -/
  fresh : State
  permits : Call → State → Prop
  moves : (request : Call) → Reply request → State → State

structure Watched (Store State : Type) where
  store : Store
  states : Nat → State

namespace Typestate

variable {Call : Type} {Reply : Call → Type} {State : Type}
variable (typestate : Typestate Call Reply State)

section Scripts

variable {Failure Outcome Result : Type}

def Keeps (done : Outcome → State → Prop) (failed : Failure → State → Prop) :
    Script Call Reply Failure Outcome → State → Prop
  | .ret outcome, state => done outcome state
  | .raise failure, state => failed failure state
  | .call request next, state =>
    typestate.permits request state ∧
      ∀ reply, Keeps done failed (next reply) (typestate.moves request reply state)

variable {typestate}
variable {done : Outcome → State → Prop} {failed : Failure → State → Prop}

theorem keeps_request {call : Call} {state : State} {done : Reply call → State → Prop}
    (permitted : typestate.permits call state)
    (ends : ∀ reply, done reply (typestate.moves call reply state)) :
    typestate.Keeps done failed (Script.request call) state :=
  ⟨permitted, ends⟩

theorem keeps_mono {weaker : Outcome → State → Prop} {laxer : Failure → State → Prop}
    {script : Script Call Reply Failure Outcome} {state : State}
    (keeps : typestate.Keeps done failed script state)
    (ends : ∀ outcome state, done outcome state → weaker outcome state)
    (fails : ∀ failure state, failed failure state → laxer failure state) :
    typestate.Keeps weaker laxer script state := by
  induction script generalizing state with
  | ret outcome => exact ends outcome state keeps
  | raise failure => exact fails failure state keeps
  | call request next ih =>
    constructor
    · exact keeps.1
    · intro reply
      exact ih reply (keeps.2 reply)

theorem keeps_bind (middle : Outcome → State → Prop) {done : Result → State → Prop}
    {script : Script Call Reply Failure Outcome}
    {next : Outcome → Script Call Reply Failure Result} {state : State}
    (keeps : typestate.Keeps middle failed script state)
    (rest : ∀ outcome state, middle outcome state →
      typestate.Keeps done failed (next outcome) state) :
    typestate.Keeps done failed (script.bind next) state := by
  induction script generalizing state with
  | ret outcome => exact rest outcome state keeps
  | raise failure => exact keeps
  | call request after ih =>
    constructor
    · exact keeps.1
    · intro reply
      exact ih reply (keeps.2 reply)

theorem keeps_handle {raised : Failure → State → Prop} {script : Script Call Reply Failure Outcome}
    {handler : Failure → Script Call Reply Failure Outcome} {state : State}
    (keeps : typestate.Keeps done raised script state)
    (handles : ∀ failure state, raised failure state →
      typestate.Keeps done failed (handler failure) state) :
    typestate.Keeps done failed (script.handle handler) state := by
  induction script generalizing state with
  | ret outcome => exact keeps
  | raise failure => exact handles failure state keeps
  | call request after ih =>
    constructor
    · exact keeps.1
    · intro reply
      exact ih reply (keeps.2 reply)

end Scripts

section Traces

variable {Failure Outcome Fault Store : Type}

def follow (perform : Answering Call Reply Fault Store)
    (exchanges : List (Exchange Call Fault Store)) (state : State) : State :=
  exchanges.foldl
    (fun state exchange => typestate.moves exchange.request (exchange.reply perform) state) state

variable {typestate}
variable {perform : Answering Call Reply Fault Store}
variable {exchanges : List (Exchange Call Fault Store)} {result : Except Failure Outcome}
variable {script : Script Call Reply Failure Outcome} {state : State}

theorem keeps_ends {holds : State → Prop}
    (keeps : typestate.Keeps (fun _ => holds) (fun _ => holds) script state)
    (ends : Ends perform script exchanges result) :
    holds (typestate.follow perform exchanges state) := by
  induction ends generalizing state with
  | ret outcome => exact keeps
  | raise failure => exact keeps
  | call fault store _ ih => exact ih (keeps.2 _)

theorem keeps_permits {done : Outcome → State → Prop} {failed : Failure → State → Prop}
    (keeps : typestate.Keeps done failed script state)
    (ends : Ends perform script exchanges result) {exchange : Exchange Call Fault Store}
    (made : exchange ∈ exchanges) : ∃ state, typestate.permits exchange.request state := by
  induction ends generalizing state with
  | ret outcome => cases made
  | raise failure => cases made
  | call fault store _ ih =>
    cases made with
    | head => exact ⟨state, keeps.1⟩
    | tail _ later => exact ih (keeps.2 _) later

end Traces

section Systems

variable {Job Failure Outcome Store Fault Change : Type}

def watch (system : System Job Call Reply Failure Outcome Store Fault Change) :
    System Job Call Reply Failure Outcome (Watched Store State) Fault Change :=
  { program := system.program
    perform := fun number request fault watched =>
      let answer := system.perform number request fault watched.store
      ({ store := answer.1
         states := fun other =>
           if other = number then typestate.moves request answer.2 (watched.states number)
           else watched.states other }, answer.2)
    change := fun change watched => { watched with store := system.change change watched.store } }

def start (store : Store) : World Call Reply Failure Outcome (Watched Store State) :=
  System.initial { store, states := fun _ => typestate.fresh }

structure AllKeep (done : Outcome → State → Prop) (failed : Failure → State → Prop)
    (world : World Call Reply Failure Outcome (Watched Store State)) : Prop where
  unstarted : ∀ number, world.runs.length ≤ number →
    world.store.states number = typestate.fresh
  keeps : ∀ (number : Nat) (script : Script Call Reply Failure Outcome),
    world.runs[number]? = some (some script) →
      typestate.Keeps done failed script (world.store.states number)

variable {typestate}
variable {system : System Job Call Reply Failure Outcome Store Fault Change}
variable {done : Outcome → State → Prop} {failed : Failure → State → Prop}
variable {world : World Call Reply Failure Outcome (Watched Store State)}

theorem step_advance {number : Nat} {request : Call}
    {next : Reply request → Script Call Reply Failure Outcome}
    (current : world.runs[number]? = some (some (.call request next))) (fault : Fault) :
    (typestate.watch system).step world (.advance number fault) =
      { store :=
          { store := (system.perform number request fault world.store.store).1
            states := fun other =>
              if other = number then
                typestate.moves request (system.perform number request fault world.store.store).2
                  (world.store.states number)
              else world.store.states other }
        runs := world.runs.set number
          (some (next (system.perform number request fault world.store.store).2)) } := by
  simp [System.step, current, watch]

theorem start_keeps (store : Store) : typestate.AllKeep done failed
      (typestate.start store : World Call Reply Failure Outcome (Watched Store State)) := by
  constructor
  · intro number _
    rfl
  · intro number script started
    cases started

theorem keep_step
    (programs : ∀ job, typestate.Keeps done failed (system.program job) typestate.fresh)
    (event : Event Job Fault Change) (all : typestate.AllKeep done failed world) :
    typestate.AllKeep done failed ((typestate.watch system).step world event) := by
  cases event with
  | outside change =>
    constructor
    · exact all.unstarted
    · exact all.keeps
  | stop number =>
    constructor
    · intro other beyond
      simp only [System.step, List.length_set] at beyond ⊢
      exact all.unstarted other beyond
    · intro other script started
      simp only [System.step, List.getElem?_set] at started
      split at started
      · split at started <;> cases started
      · exact all.keeps other script started
  | start job =>
    constructor
    · intro other beyond
      simp only [System.step, List.length_append, List.length_singleton] at beyond ⊢
      exact all.unstarted other (by omega)
    · intro other script started
      simp only [System.step, List.getElem?_append] at started ⊢
      split at started
      · exact all.keeps other script started
      · rename_i beyond
        rw [List.getElem?_singleton] at started
        split at started
        · cases started
          rw [all.unstarted other (by omega)]
          exact programs job
        · cases started
  | advance number fault =>
    cases current : world.runs[number]? with
    | none => simpa [System.step, current] using all
    | some slot =>
      cases slot with
      | none => simpa [System.step, current] using all
      | some script =>
        cases script with
        | ret outcome => simpa [System.step, current] using all
        | raise failure => simpa [System.step, current] using all
        | call request next =>
          have inside : number < world.runs.length :=
            (List.getElem?_eq_some_iff.mp current).1
          rw [step_advance current]
          constructor
          · intro other beyond
            rw [List.length_set] at beyond
            have apart : other ≠ number := by omega
            simp only [if_neg apart]
            exact all.unstarted other beyond
          · intro other script started
            rw [List.getElem?_set] at started
            by_cases own : number = other
            · subst own
              simp only [if_true, if_pos inside, Option.some.injEq] at started
              subst started
              simp only [if_true]
              exact (all.keeps number _ current).2 _
            · rw [if_neg own] at started
              have apart : other ≠ number := fun same => own same.symm
              simp only [if_neg apart]
              exact all.keeps other script started

end Systems

end Typestate

end Hivra.Library
