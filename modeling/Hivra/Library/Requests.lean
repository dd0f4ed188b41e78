import Hivra.Library.Scripts

/-!
# The requests a script may issue

A script asks only for what is permitted when every request it can come to is permitted,
whatever it is answered.  When the scripts of a system do, so do all its runs.
-/

namespace Hivra.Library

variable {Call : Type} {Reply : Call → Type} {Failure Outcome Result : Type}

namespace Script

inductive Asks (permits : Call → Prop) : Script Call Reply Failure Outcome → Prop
  | ret (outcome : Outcome) : Asks permits (.ret outcome)
  | raise (failure : Failure) : Asks permits (.raise failure)
  | call {request : Call} {next : Reply request → Script Call Reply Failure Outcome}
      (permitted : permits request) (rest : ∀ reply, Asks permits (next reply)) :
      Asks permits (.call request next)

variable {permits : Call → Prop}

theorem asks_bind {first : Script Call Reply Failure Outcome}
    {next : Outcome → Script Call Reply Failure Result} (asks : first.Asks permits)
    (rest : ∀ outcome, (next outcome).Asks permits) : (first.bind next).Asks permits := by
  induction asks with
  | ret outcome => exact rest outcome
  | raise failure => exact .raise failure
  | call permitted _ ih => exact .call permitted ih

end Script

section Systems

variable {Job Store Fault Change : Type}
variable {system : System Job Call Reply Failure Outcome Store Fault Change}
variable {world : World Call Reply Failure Outcome Store} {permits : Call → Prop}

def World.Asks (permits : Call → Prop) (world : World Call Reply Failure Outcome Store) : Prop :=
  ∀ script, some script ∈ world.runs → script.Asks permits

theorem asks_initial (store : Store) :
    World.Asks permits (System.initial store : World Call Reply Failure Outcome Store) := by
  intro script running
  cases running

theorem asks_next (asks : world.Asks permits) {number : Nat} {request : Call}
    {next : Reply request → Script Call Reply Failure Outcome}
    (current : world.runs[number]? = some (some (.call request next))) : permits request := by
  cases asks _ (List.mem_of_getElem? current) with
  | call permitted rest => exact permitted

theorem asks_step (programs : ∀ job, (system.program job).Asks permits)
    (event : Event Job Fault Change) (asks : world.Asks permits) :
    (system.step world event).Asks permits := by
  cases event with
  | outside change => exact asks
  | start job =>
    intro script running
    simp only [System.step, List.mem_append, List.mem_singleton] at running
    cases running with
    | inl older => exact asks script older
    | inr new =>
      cases new
      exact programs job
  | stop number =>
    intro script running
    cases List.mem_or_eq_of_mem_set running with
    | inl older => exact asks script older
    | inr new => cases new
  | advance number fault =>
    apply system.advance_cases (World.Asks permits) asks
    intro request next current script running
    simp only [System.step, current] at running
    cases List.mem_or_eq_of_mem_set running with
    | inl older => exact asks script older
    | inr new =>
      cases new
      cases asks _ (List.mem_of_getElem? current) with
      | call permitted rest => exact rest _

end Systems

end Hivra.Library
