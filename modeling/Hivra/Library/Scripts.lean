import Mathlib.Logic.Relation
import Mathlib.Data.List.Basic

/-!
# Interleaved scripts over one shared store

A script is what one client of a shared store does: it issues requests, each
answered atomically, and may throw in between.  A system runs any number of
scripts at once.  One event starts a script, lets one run issue its next
request, stops a run for good between two requests, or changes the store from
outside.

Properties of every schedule are proved by rely/guarantee: a contract names the
invariant of the store and what one step of a run may do to it, each script is
checked alone against the interference the others are allowed, and
`holds_after_events` lifts the checks to every run of the system.
-/

namespace Hivra.Library

/-- The remaining work of one client.  `call` issues one atomic request and
continues with its reply, `raise` is an exception nothing has caught yet. -/
inductive Script (Call : Type) (Reply : Call → Type) (Failure Outcome : Type) : Type
  | ret (outcome : Outcome)
  | raise (failure : Failure)
  | call (request : Call) (next : Reply request → Script Call Reply Failure Outcome)

namespace Script

variable {Call : Type} {Reply : Call → Type} {Failure Outcome Result : Type}

/-- Run `first`, then `next` on its outcome. -/
def bind (first : Script Call Reply Failure Outcome)
    (next : Outcome → Script Call Reply Failure Result) : Script Call Reply Failure Result :=
  match first with
  | .ret outcome => next outcome
  | .raise failure => .raise failure
  | .call request rest => .call request (fun reply => (rest reply).bind next)

/-- Run `body`, and `handler` on the exception it throws, if it throws one. -/
def handle (body : Script Call Reply Failure Outcome)
    (handler : Failure → Script Call Reply Failure Outcome) : Script Call Reply Failure Outcome :=
  match body with
  | .ret outcome => .ret outcome
  | .raise failure => handler failure
  | .call request rest => .call request (fun reply => (rest reply).handle handler)

def request (call : Call) : Script Call Reply Failure (Reply call) :=
  .call call .ret

instance : Monad (Script Call Reply Failure) where
  pure := .ret
  bind := .bind

instance : MonadExceptOf Failure (Script Call Reply Failure) where
  throw := .raise
  tryCatch := .handle

@[simp]
theorem pure_eq_ret (outcome : Outcome) :
    (pure outcome : Script Call Reply Failure Outcome) = .ret outcome := rfl

@[simp]
theorem throw_eq_raise (failure : Failure) :
    (throw failure : Script Call Reply Failure Outcome) = .raise failure := rfl

@[simp]
theorem bind_eq (first : Script Call Reply Failure Outcome)
    (next : Outcome → Script Call Reply Failure Result) : (first >>= next) = first.bind next := rfl

@[simp]
theorem try_catch_eq (body : Script Call Reply Failure Outcome)
    (handler : Failure → Script Call Reply Failure Outcome) :
    (tryCatch body handler) = body.handle handler := rfl

@[simp]
theorem bind_ret (outcome : Outcome) (next : Outcome → Script Call Reply Failure Result) :
    (ret outcome : Script Call Reply Failure Outcome).bind next = next outcome := rfl

@[simp]
theorem bind_raise (failure : Failure) (next : Outcome → Script Call Reply Failure Result) :
    (raise failure : Script Call Reply Failure Outcome).bind next = .raise failure := rfl

@[simp]
theorem bind_call (call : Call) (rest : Reply call → Script Call Reply Failure Outcome)
    (next : Outcome → Script Call Reply Failure Result) : (Script.call call rest).bind next =
      .call call (fun reply => (rest reply).bind next) := rfl

@[simp]
theorem handle_ret (outcome : Outcome) (handler : Failure → Script Call Reply Failure Outcome) :
    (ret outcome : Script Call Reply Failure Outcome).handle handler = .ret outcome := rfl

@[simp]
theorem handle_raise (failure : Failure) (handler : Failure → Script Call Reply Failure Outcome) :
    (raise failure : Script Call Reply Failure Outcome).handle handler = handler failure := rfl

@[simp]
theorem handle_call (call : Call) (rest : Reply call → Script Call Reply Failure Outcome)
    (handler : Failure → Script Call Reply Failure Outcome) :
    (Script.call call rest).handle handler =
      .call call (fun reply => (rest reply).handle handler) := rfl

section Alone

variable {Store Fault : Type}

/-- What a script leaves in the store when nobody else is there, its requests answered
under the faults in turn. -/
def alone (perform : (request : Call) → Fault → Store → Store × Reply request) :
    Script Call Reply Failure Outcome → (Nat → Fault) → Store → Store
  | .ret _, _, store => store
  | .raise _, _, store => store
  | .call request next, faults, store =>
    let answer := perform request (faults 0) store
    alone perform (next answer.2) (fun count => faults (count + 1)) answer.1

variable (perform : (request : Call) → Fault → Store → Store × Reply request)

@[simp]
theorem alone_ret (outcome : Outcome) (faults : Nat → Fault) (store : Store) :
    (ret outcome : Script Call Reply Failure Outcome).alone perform faults store = store := rfl

@[simp]
theorem alone_raise (failure : Failure) (faults : Nat → Fault) (store : Store) :
    (raise failure : Script Call Reply Failure Outcome).alone perform faults store = store := rfl

@[simp]
theorem alone_call (request : Call) (next : Reply request → Script Call Reply Failure Outcome)
    (faults : Nat → Fault) (store : Store) : (call request next).alone perform faults store =
      (next (perform request (faults 0) store).2).alone perform
        (fun count => faults (count + 1)) (perform request (faults 0) store).1 := rfl

end Alone

end Script

/-- What is fixed about a system: the script of every job a client can start,
how the store answers a request (`Fault` is the environment's choice of what goes
wrong, the number is the issuing run), and what changes the store from outside. -/
structure System (Job Call : Type) (Reply : Call → Type)
    (Failure Outcome Store Fault Change : Type) where
  program : Job → Script Call Reply Failure Outcome
  perform : Nat → (request : Call) → Fault → Store → Store × Reply request
  change : Change → Store → Store

/-- The store and every run started so far, in order.  A run's number is its
position; a stopped run is `none`. -/
structure World (Call : Type) (Reply : Call → Type) (Failure Outcome Store : Type) where
  store : Store
  runs : List (Option (Script Call Reply Failure Outcome))

def World.ended {Call : Type} {Reply : Call → Type} {Failure Outcome Store : Type}
    (world : World Call Reply Failure Outcome Store) (number : Nat) : Bool :=
  match world.runs[number]? with
  | some (some (.ret _)) => true
  | some (some (.raise _)) => true
  | _ => false

section Runs

variable {Call : Type} {Reply : Call → Type} {Failure Outcome Store : Type}
variable (world : World Call Reply Failure Outcome Store) {number : Nat}

/-- The run waits for the answer to a request. -/
def World.waits (number : Nat) : Bool :=
  match world.runs[number]? with
  | some (some (.call _ _)) => true
  | _ => false

/-- The run has not been stopped; it may have ended. -/
def World.lives (number : Nat) : Bool :=
  match world.runs[number]? with
  | some (some _) => true
  | _ => false

variable {world}

theorem waits_inside (waits : world.waits number = true) : number < world.runs.length := by
  by_contra beyond
  rw [World.waits, List.getElem?_eq_none (by omega)] at waits
  cases waits

theorem lives_inside (lives : world.lives number = true) : number < world.runs.length := by
  by_contra beyond
  rw [World.lives, List.getElem?_eq_none (by omega)] at lives
  cases lives

end Runs

inductive Event (Job Fault Change : Type) : Type
  | start (job : Job)
  | advance (run : Nat) (fault : Fault)
  | stop (run : Nat)
  | outside (change : Change)

namespace System

variable {Job Call : Type} {Reply : Call → Type}
variable {Failure Outcome Store Fault Change : Type}
variable (system : System Job Call Reply Failure Outcome Store Fault Change)

def initial (store : Store) : World Call Reply Failure Outcome Store :=
  { store, runs := [] }

def step (world : World Call Reply Failure Outcome Store) :
    Event Job Fault Change → World Call Reply Failure Outcome Store
  | .start job => { world with runs := world.runs ++ [some (system.program job)] }
  | .advance run fault =>
    match world.runs[run]? with
    | some (some (.call request next)) =>
      let answer := system.perform run request fault world.store
      { store := answer.1, runs := world.runs.set run (some (next answer.2)) }
    | _ => world
  | .stop run => { world with runs := world.runs.set run none }
  | .outside change => { world with store := system.change change world.store }

def after (world : World Call Reply Failure Outcome Store)
    (events : List (Event Job Fault Change)) : World Call Reply Failure Outcome Store :=
  events.foldl system.step world

@[simp]
theorem after_nil (world : World Call Reply Failure Outcome Store) :
    system.after world [] = world := rfl

@[simp]
theorem after_cons (world : World Call Reply Failure Outcome Store) (event : Event Job Fault Change)
    (events : List (Event Job Fault Change)) :
    system.after world (event :: events) = system.after (system.step world event) events := rfl

theorem advance_cases (holds : World Call Reply Failure Outcome Store → Prop)
    {world : World Call Reply Failure Outcome Store} {run : Nat} {fault : Fault}
    (still : holds world)
    (moves : ∀ request next, world.runs[run]? = some (some (.call request next)) →
      holds (system.step world (.advance run fault))) :
    holds (system.step world (.advance run fault)) := by
  cases current : world.runs[run]? with
  | none => simpa [step, current] using still
  | some slot =>
    cases slot with
    | none => simpa [step, current] using still
    | some script =>
      cases script with
      | ret outcome => simpa [step, current] using still
      | raise failure => simpa [step, current] using still
      | call request next => exact moves request next current

variable {system} {world : World Call Reply Failure Outcome Store} {number : Nat}

theorem waits_before_stop {run : Nat}
    (waits : (system.step world (.stop run)).waits number = true) : world.waits number = true := by
  unfold World.waits at waits ⊢
  simp only [step] at waits
  by_cases own : run = number
  · subst own
    rw [List.getElem?_set_self'] at waits
    cases inside : world.runs[run]? <;> simp [inside] at waits
  · rw [List.getElem?_set_ne own] at waits
    exact waits

theorem waits_before_start {job : Job} (inside : number < world.runs.length)
    (waits : (system.step world (.start job)).waits number = true) : world.waits number = true := by
  unfold World.waits at waits ⊢
  simp only [step, List.getElem?_append_left inside] at waits
  exact waits

end System

/-- The conditions under which a job is started, a request is issued and the store
is changed from outside.  They are `True` where nothing is assumed. -/
structure Conditions {Job Call : Type} {Reply : Call → Type}
    {Failure Outcome Store Fault Change : Type}
    (system : System Job Call Reply Failure Outcome Store Fault Change) where
  starts : Job → Store → Prop
  performs : Nat → (request : Call) → Fault → Store → Prop
  changes : Change → Store → Prop

namespace Conditions

variable {Job Call : Type} {Reply : Call → Type}
variable {Failure Outcome Store Fault Change : Type}
variable {system : System Job Call Reply Failure Outcome Store Fault Change}
variable (conditions : Conditions system)

def Admits (world : World Call Reply Failure Outcome Store) : Event Job Fault Change → Prop
  | .start job => conditions.starts job world.store
  | .advance run fault =>
    ∀ request next, world.runs[run]? = some (some (.call request next)) →
      conditions.performs run request fault world.store
  | .stop _ => True
  | .outside change => conditions.changes change world.store

def AdmitsAll (world : World Call Reply Failure Outcome Store) :
    List (Event Job Fault Change) → Prop
  | [] => True
  | event :: events =>
    conditions.Admits world event ∧ AdmitsAll (system.step world event) events

theorem admits_all_of_always {conditions : Conditions system}
    (events : List (Event Job Fault Change))
    (always : ∀ event ∈ events, ∀ world, conditions.Admits world event)
    (world : World Call Reply Failure Outcome Store) : conditions.AdmitsAll world events := by
  induction events generalizing world with
  | nil => trivial
  | cons event events ih =>
    constructor
    · exact always event List.mem_cons_self world
    · apply ih
      intro later member
      exact always later (List.mem_cons_of_mem event member)

end Conditions

structure Contract {Job Call : Type} {Reply : Call → Type}
    {Failure Outcome Store Fault Change : Type}
    (system : System Job Call Reply Failure Outcome Store Fault Change)
    extends Conditions system where
  /-- Holds of the store between any two steps. -/
  invariant : Store → Prop
  /-- What a step of run `some n`, or of the outside (`none`), may do. -/
  guarantee : Option Nat → Store → Store → Prop
  /-- Holds of every run number that has issued no request yet. -/
  fresh : Nat → Store → Prop

namespace Contract

variable {Job Call : Type} {Reply : Call → Type}
variable {Failure Outcome Result Store Fault Change : Type}
variable {system : System Job Call Reply Failure Outcome Store Fault Change}
variable (contract : Contract system)
variable {failed : Failure → Store → Prop} {done : Result → Store → Prop} {number : Nat}
variable {script : Script Call Reply Failure Result} {store : Store}

/-- One step of anybody but run `number`. -/
def Disturbs (number : Nat) (before next : Store) : Prop :=
  contract.invariant before ∧ contract.invariant next ∧
    ∃ other, other ≠ some number ∧ contract.guarantee other before next

/-- Any number of steps of anybody but run `number`. -/
def Interference (number : Nat) : Store → Store → Prop :=
  Relation.ReflTransGen (contract.Disturbs number)

def Stable (number : Nat) (assertion : Store → Prop) : Prop :=
  ∀ before next, contract.Disturbs number before next → assertion before → assertion next

/-- Run `number` may execute `script` from `store`: however the others
interfere, each of its requests keeps the invariant and the guarantee, and it
ends in `done` or throws in `failed`. -/
def Safe (number : Nat) (done : Result → Store → Prop) (failed : Failure → Store → Prop) :
    Script Call Reply Failure Result → Store → Prop
  | .ret outcome, store =>
    ∀ later, contract.Interference number store later → done outcome later
  | .raise failure, store =>
    ∀ later, contract.Interference number store later → failed failure later
  | .call request next, store =>
    ∀ later, contract.Interference number store later → contract.invariant later →
      ∀ fault, contract.performs number request fault later →
        let answer := system.perform number request fault later
        contract.invariant answer.1 ∧
          contract.guarantee (some number) later answer.1 ∧
          Safe number done failed (next answer.2) answer.1

variable {contract}

theorem stable_interference {assertion : Store → Prop}
    (stable : contract.Stable number assertion) {store later : Store}
    (interference : contract.Interference number store later) (held : assertion store) :
    assertion later := by
  induction interference with
  | refl => exact held
  | tail _ disturbs ih => exact stable _ _ disturbs ih

theorem stable_and {left right : Store → Prop}
    (leftStable : contract.Stable number left) (rightStable : contract.Stable number right) :
    contract.Stable number (fun store => left store ∧ right store) := by
  intro before next disturbs held
  exact ⟨leftStable before next disturbs held.1, rightStable before next disturbs held.2⟩

theorem stable_true (number : Nat) : contract.Stable number (fun _ => True) :=
  fun _ _ _ _ => trivial

theorem safe_later {store later : Store} (safe : contract.Safe number done failed script store)
    (interference : contract.Interference number store later) :
    contract.Safe number done failed script later := by
  cases script with
  | ret outcome =>
    intro last tail
    exact safe last (interference.trans tail)
  | raise failure =>
    intro last tail
    exact safe last (interference.trans tail)
  | call request next =>
    intro last tail
    exact safe last (interference.trans tail)

theorem safe_ret {outcome : Result} (stable : contract.Stable number (done outcome))
    (held : done outcome store) : contract.Safe number done failed (.ret outcome) store :=
  fun _ interference => stable_interference stable interference held

theorem safe_raise {failure : Failure}
    (stable : contract.Stable number (failed failure))
    (held : failed failure store) : contract.Safe number done failed (.raise failure) store :=
  fun _ interference => stable_interference stable interference held

/-- The rule for one request: what is known before it survives the others, and
the answer is judged in the store the request really meets. -/
theorem safe_call {request : Call} {next : Reply request → Script Call Reply Failure Result}
    (known : Store → Prop) (held : known store) (stable : contract.Stable number known)
    (answered : ∀ later fault, contract.invariant later → known later →
      contract.performs number request fault later →
        contract.invariant (system.perform number request fault later).1 ∧
          contract.guarantee (some number) later (system.perform number request fault later).1 ∧
          contract.Safe number done failed
            (next (system.perform number request fault later).2)
            (system.perform number request fault later).1) :
    contract.Safe number done failed (.call request next) store := by
  intro later interference invariant fault performs
  exact answered later fault invariant
    (stable_interference stable interference held) performs

theorem safe_request {request : Call} {done : Reply request → Store → Prop}
    (known : Store → Prop) (held : known store)
    (stable : contract.Stable number known)
    (doneStable : ∀ reply, contract.Stable number (done reply))
    (answered : ∀ later fault, contract.invariant later → known later →
      contract.performs number request fault later →
        contract.invariant (system.perform number request fault later).1 ∧
          contract.guarantee (some number) later (system.perform number request fault later).1 ∧
          done (system.perform number request fault later).2
            (system.perform number request fault later).1) :
    contract.Safe number done failed
      (Script.request request : Script Call Reply Failure (Reply request)) store := by
  apply safe_call known held stable
  intro later fault invariant heldLater performs
  rcases answered later fault invariant heldLater performs with ⟨kept, guaranteed, after⟩
  exact ⟨kept, guaranteed, safe_ret (doneStable _) after⟩

theorem safe_bind {Middle : Type} {middle : Middle → Store → Prop}
    {first : Script Call Reply Failure Middle} {next : Middle → Script Call Reply Failure Result}
    (invariant : contract.invariant store)
    (safe : contract.Safe number middle failed first store)
    (continued : ∀ outcome later, contract.invariant later → middle outcome later →
      contract.Safe number done failed (next outcome) later) :
    contract.Safe number done failed (first.bind next) store := by
  induction first generalizing store with
  | ret outcome => exact continued outcome store invariant (safe store .refl)
  | raise failure => exact safe
  | call request rest ih =>
    intro later interference invariantLater fault performs
    obtain ⟨kept, guaranteed, rest⟩ := safe later interference invariantLater fault performs
    exact ⟨kept, guaranteed, ih _ kept rest⟩

theorem safe_handle {thrown : Failure → Store → Prop} {body : Script Call Reply Failure Result}
    {handler : Failure → Script Call Reply Failure Result}
    (invariant : contract.invariant store) (safe : contract.Safe number done thrown body store)
    (handled : ∀ failure later, contract.invariant later → thrown failure later →
      contract.Safe number done failed (handler failure) later) :
    contract.Safe number done failed (body.handle handler) store := by
  induction body generalizing store with
  | ret outcome => exact safe
  | raise failure => exact handled failure store invariant (safe store .refl)
  | call request rest ih =>
    intro later interference invariantLater fault performs
    obtain ⟨kept, guaranteed, rest⟩ := safe later interference invariantLater fault performs
    exact ⟨kept, guaranteed, ih _ kept rest⟩

theorem safe_frame {carried : Store → Prop}
    (kept : ∀ who before next, contract.guarantee who before next → carried before → carried next)
    (safe : contract.Safe number done failed script store) (held : carried store) :
    contract.Safe number (fun outcome later => done outcome later ∧ carried later)
      (fun failure later => failed failure later ∧ carried later) script store := by
  have stable : contract.Stable number carried := by
    intro before next disturbs heldBefore
    rcases disturbs with ⟨_, _, other, _, guaranteed⟩
    exact kept other before next guaranteed heldBefore
  induction script generalizing store with
  | ret outcome =>
    intro later interference
    exact ⟨safe later interference, stable_interference stable interference held⟩
  | raise failure =>
    intro later interference
    exact ⟨safe later interference, stable_interference stable interference held⟩
  | call request next ih =>
    intro later interference invariant fault performs
    rcases safe later interference invariant fault performs with ⟨keeps, guaranteed, rest⟩
    have heldLater := stable_interference stable interference held
    exact ⟨keeps, guaranteed, ih _ rest (kept _ _ _ guaranteed heldLater)⟩

theorem safe_weaken {done done' : Result → Store → Prop}
    {failed failed' : Failure → Store → Prop} (safe : contract.Safe number done failed script store)
    (doneWeaker : ∀ outcome later, done outcome later → done' outcome later)
    (failedWeaker : ∀ failure later, failed failure later → failed' failure later) :
    contract.Safe number done' failed' script store := by
  induction script generalizing store with
  | ret outcome => exact fun later interference => doneWeaker _ _ (safe later interference)
  | raise failure => exact fun later interference => failedWeaker _ _ (safe later interference)
  | call request rest ih =>
    intro later interference invariantLater fault performs
    obtain ⟨kept, guaranteed, rest⟩ := safe later interference invariantLater fault performs
    exact ⟨kept, guaranteed, ih _ rest⟩

variable (contract)

def Keeps (number : Nat) (assertion : Store → Prop)
    (script : Script Call Reply Failure Result) : Prop :=
  ∀ store, contract.invariant store → assertion store →
    contract.Safe number (fun _ => assertion) (fun _ => assertion) script store

section Keeps

variable {contract}
variable {number : Nat} {assertion : Store → Prop}

theorem keeps_ret (stable : contract.Stable number assertion) (outcome : Result) :
    contract.Keeps number assertion
      (.ret outcome : Script Call Reply Failure Result) := by
  intro store _ held
  exact safe_ret stable held

theorem keeps_raise (stable : contract.Stable number assertion) (failure : Failure) :
    contract.Keeps number assertion
      (.raise failure : Script Call Reply Failure Result) := by
  intro store _ held
  exact safe_raise stable held

theorem keeps_request (stable : contract.Stable number assertion) (request : Call)
    (answered : ∀ store fault, contract.invariant store → assertion store →
      contract.performs number request fault store →
        contract.invariant (system.perform number request fault store).1 ∧
          contract.guarantee (some number) store (system.perform number request fault store).1 ∧
          assertion (system.perform number request fault store).1) :
    contract.Keeps number assertion
      (Script.request request : Script Call Reply Failure (Reply request)) := by
  intro store _ held
  apply safe_request assertion held stable (fun _ => stable)
  intro later fault invariant known performs
  exact answered later fault invariant known performs

theorem keeps_bind {Middle : Type} {first : Script Call Reply Failure Middle}
    {next : Middle → Script Call Reply Failure Result}
    (firstKeeps : contract.Keeps number assertion first)
    (nextKeeps : ∀ outcome, contract.Keeps number assertion (next outcome)) :
    contract.Keeps number assertion (first.bind next) := by
  intro store invariant held
  apply safe_bind invariant (firstKeeps store invariant held)
  intro outcome later invariantLater heldLater
  exact nextKeeps outcome later invariantLater heldLater

theorem keeps_handle {body : Script Call Reply Failure Result}
    {handler : Failure → Script Call Reply Failure Result}
    (bodyKeeps : contract.Keeps number assertion body)
    (handlerKeeps : ∀ failure, contract.Keeps number assertion (handler failure)) :
    contract.Keeps number assertion (body.handle handler) := by
  intro store invariant held
  apply safe_handle invariant (bodyKeeps store invariant held)
  intro failure later invariantLater heldLater
  exact handlerKeeps failure later invariantLater heldLater

theorem keeps_frame {carried : Store → Prop}
    (kept : ∀ who before next, contract.guarantee who before next → carried before → carried next)
    (keeps : contract.Keeps number assertion script) :
    contract.Keeps number (fun store => assertion store ∧ carried store) script := by
  intro store invariant held
  exact safe_frame kept (keeps store invariant held.1) held.2

end Keeps

structure Holds (world : World Call Reply Failure Outcome Store)
    (done : Nat → Outcome → Store → Prop) (failed : Nat → Failure → Store → Prop) : Prop where
  invariant : contract.invariant world.store
  safe : ∀ number script, world.runs[number]? = some (some script) →
    contract.Safe number (done number) (failed number) script world.store
  fresh : ∀ number, world.runs.length ≤ number → contract.fresh number world.store

/-- What has to be checked once for a system: every script is safe from any
store it may be started in, the outside keeps the contract, and the steps of
others leave a fresh number fresh. -/
structure Sound (done : Nat → Outcome → Store → Prop)
    (failed : Nat → Failure → Store → Prop) : Prop where
  program_safe : ∀ job number store, contract.invariant store → contract.starts job store →
    contract.fresh number store →
      contract.Safe number (done number) (failed number) (system.program job) store
  change_keeps : ∀ change store, contract.invariant store → contract.changes change store →
    contract.invariant (system.change change store) ∧
      contract.guarantee none store (system.change change store)
  fresh_kept : ∀ number other before next, other ≠ some number →
    contract.guarantee other before next → contract.fresh number before →
      contract.fresh number next

variable {contract}
variable {world : World Call Reply Failure Outcome Store}
variable {done : Nat → Outcome → Store → Prop} {failed : Nat → Failure → Store → Prop}

theorem holds_initial (invariant : contract.invariant store)
    (fresh : ∀ number, contract.fresh number store) :
    contract.Holds (System.initial store) done failed :=
  { invariant
    safe := by
      intro number script started
      simp [System.initial] at started
    fresh := fun number _ => fresh number }

theorem holds_step (sound : contract.Sound done failed) {event : Event Job Fault Change}
    (holds : contract.Holds world done failed) (admits : contract.toConditions.Admits world event) :
    contract.Holds (system.step world event) done failed := by
  cases event with
  | start job =>
    refine ⟨holds.invariant, ?_, ?_⟩
    · intro number script started
      rcases Nat.lt_trichotomy number world.runs.length with old | new | beyond
      · have kept : world.runs[number]? = some (some script) := by
          simpa [System.step, List.getElem?_append_left old] using started
        exact holds.safe number script kept
      · subst new
        have same : script = system.program job := by
          simpa [System.step] using started.symm
        subst same
        exact sound.program_safe job _ _ holds.invariant admits
          (holds.fresh _ (Nat.le_refl _))
      · have length : (world.runs ++ [some (system.program job)]).length ≤ number := by
          simp
          omega
        have absent := List.getElem?_eq_none length
        rw [show (system.step world (.start job)).runs =
          world.runs ++ [some (system.program job)] from rfl, absent] at started
        cases started
    · intro number beyond
      apply holds.fresh number
      simp [System.step] at beyond
      omega
  | stop run =>
    refine ⟨holds.invariant, ?_, ?_⟩
    · intro number script started
      by_cases same : run = number
      · subst same
        by_cases bound : run < world.runs.length
        · simp [System.step, List.getElem?_set_self bound] at started
        · rw [show (system.step world (.stop run)).runs = world.runs.set run none from rfl,
            List.getElem?_eq_none (by simpa using Nat.le_of_not_lt bound)] at started
          cases started
      · apply holds.safe number script
        simpa [System.step, List.getElem?_set_ne same] using started
    · intro number beyond
      apply holds.fresh number
      simpa [System.step] using beyond
  | outside change =>
    obtain ⟨kept, guaranteed⟩ := sound.change_keeps change _ holds.invariant admits
    refine ⟨kept, ?_, ?_⟩
    · intro number script started
      apply safe_later (holds.safe number script started)
      exact .single ⟨holds.invariant, kept, none, by simp, guaranteed⟩
    · intro number beyond
      exact sound.fresh_kept number none _ _ (by simp) guaranteed (holds.fresh number beyond)
  | advance run fault =>
    cases current : world.runs[run]? with
    | none => simpa [System.step, current] using holds
    | some slot =>
      rcases slot with _ | script
      · simpa [System.step, current] using holds
      · cases script with
        | ret outcome => simpa [System.step, current] using holds
        | raise failure => simpa [System.step, current] using holds
        | call request next =>
          have performs := admits request next current
          obtain ⟨kept, guaranteed, safe⟩ :=
            holds.safe run _ current world.store .refl holds.invariant fault performs
          have stepped : system.step world (.advance run fault) =
              { store := (system.perform run request fault world.store).1,
                runs := world.runs.set run
                  (some (next (system.perform run request fault world.store).2)) } := by
            simp [System.step, current]
          rw [stepped]
          refine ⟨kept, ?_, ?_⟩
          · intro number script started
            by_cases same : run = number
            · subst same
              have bound : run < world.runs.length :=
                (List.getElem?_eq_some_iff.mp current).1
              have same : script =
                  next (system.perform run request fault world.store).2 := by
                simpa [List.getElem?_set_self bound] using started.symm
              subst same
              exact safe
            · have kept' : world.runs[number]? = some (some script) := by
                simpa [List.getElem?_set_ne same] using started
              apply safe_later (holds.safe number script kept')
              exact .single ⟨holds.invariant, kept, some run, by simpa using same, guaranteed⟩
          · intro number beyond
            have beyond' : world.runs.length ≤ number := by simpa using beyond
            have other : some run ≠ some number := by
              have bound : run < world.runs.length :=
                (List.getElem?_eq_some_iff.mp current).1
              simp
              omega
            exact sound.fresh_kept number (some run) _ _ other guaranteed
              (holds.fresh number beyond')

theorem holds_ended (holds : contract.Holds world done failed) (ended : world.ended number = true) :
    (∃ outcome, done number outcome world.store) ∨
      ∃ failure, failed number failure world.store := by
  unfold World.ended at ended
  split at ended
  · rename_i outcome returned
    exact .inl ⟨outcome, holds.safe number _ returned world.store .refl⟩
  · rename_i failure raised
    exact .inr ⟨failure, holds.safe number _ raised world.store .refl⟩
  · cases ended

theorem holds_after_events (sound : contract.Sound done failed)
    (events : List (Event Job Fault Change)) (holds : contract.Holds world done failed)
    (admits : contract.toConditions.AdmitsAll world events) :
    contract.Holds (system.after world events) done failed := by
  induction events generalizing world with
  | nil => exact holds
  | cons event events ih =>
    exact ih (holds_step sound holds admits.1) admits.2

end Contract

end Hivra.Library
