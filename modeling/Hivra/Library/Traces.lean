import Hivra.Library.Scripts

/-!
# One script and the answers it got

What a single script does when nothing is known of the others: each of its
requests meets some store and is answered there.  A trace lists these exchanges,
and the rules below take the trace of a composed script apart.
-/

namespace Hivra.Library

structure Exchange (Call Fault Store : Type) where
  request : Call
  fault : Fault
  store : Store

section Traces

variable {Call : Type} {Reply : Call → Type} {Failure Outcome Result Fault Store : Type}

abbrev Answering (Call : Type) (Reply : Call → Type) (Fault Store : Type) : Type :=
  (request : Call) → Fault → Store → Store × Reply request

namespace Exchange

def reply (perform : Answering Call Reply Fault Store) (exchange : Exchange Call Fault Store) :
    Reply exchange.request :=
  (perform exchange.request exchange.fault exchange.store).2

def after (perform : Answering Call Reply Fault Store) (exchange : Exchange Call Fault Store) :
    Store :=
  (perform exchange.request exchange.fault exchange.store).1

end Exchange

/-- The script ends in `result` after these exchanges. -/
inductive Ends (perform : Answering Call Reply Fault Store) :
    Script Call Reply Failure Result → List (Exchange Call Fault Store) →
      Except Failure Result → Prop
  | ret (outcome : Result) : Ends perform (.ret outcome) [] (.ok outcome)
  | raise (failure : Failure) : Ends perform (.raise failure) [] (.error failure)
  | call {request : Call} {next : Reply request → Script Call Reply Failure Result}
      (fault : Fault) (store : Store) {exchanges : List (Exchange Call Fault Store)}
      {result : Except Failure Result}
      (rest : Ends perform (next (perform request fault store).2) exchanges result) :
      Ends perform (.call request next) ({ request, fault, store } :: exchanges) result

variable {perform : Answering Call Reply Fault Store}
variable {exchanges : List (Exchange Call Fault Store)}

theorem ends_ret {outcome : Result} {result : Except Failure Result}
    (ends : Ends perform (.ret outcome : Script Call Reply Failure Result) exchanges result) :
    result = .ok outcome ∧ exchanges = [] := by
  cases ends
  exact ⟨rfl, rfl⟩

theorem ends_raise {failure : Failure} {result : Except Failure Result}
    (ends : Ends perform (.raise failure : Script Call Reply Failure Result) exchanges result) :
    result = .error failure ∧ exchanges = [] := by
  cases ends
  exact ⟨rfl, rfl⟩

theorem raise_returns_nothing {failure : Failure} {outcome : Result} :
    ¬ Ends perform (.raise failure : Script Call Reply Failure Result) exchanges
      (.ok outcome) := by
  intro ends
  cases (ends_raise ends).1

theorem ends_request {request : Call} {result : Except Failure (Reply request)}
    (ends : Ends perform (Script.request request : Script Call Reply Failure (Reply request))
      exchanges result) :
    ∃ fault store, exchanges = [{ request, fault, store }] ∧
      result = .ok (perform request fault store).2 := by
  cases ends with
  | call fault store rest =>
    rcases ends_ret rest with ⟨resultEq, restEq⟩
    exact ⟨fault, store, by rw [restEq], resultEq⟩

theorem ends_bind {first : Script Call Reply Failure Outcome}
    {next : Outcome → Script Call Reply Failure Result} {result : Result}
    (ends : Ends perform (first.bind next) exchanges (.ok result)) :
    ∃ early late outcome, exchanges = early ++ late ∧ Ends perform first early (.ok outcome) ∧
      Ends perform (next outcome) late (.ok result) := by
  induction first generalizing exchanges with
  | ret outcome => exact ⟨[], exchanges, outcome, rfl, .ret outcome, ends⟩
  | raise failure => exact absurd ends raise_returns_nothing
  | call request rest ih =>
    cases ends with
    | call fault store tail =>
      rcases ih _ tail with ⟨early, late, outcome, split, head, continued⟩
      refine ⟨_ :: early, late, outcome, ?_, .call fault store head, continued⟩
      rw [split, List.cons_append]

theorem ends_handle {body : Script Call Reply Failure Outcome}
    {handler : Failure → Script Call Reply Failure Outcome} {outcome : Outcome}
    (ends : Ends perform (body.handle handler) exchanges (.ok outcome)) :
    Ends perform body exchanges (.ok outcome) ∨
      ∃ early late failure, exchanges = early ++ late ∧ Ends perform body early (.error failure) ∧
        Ends perform (handler failure) late (.ok outcome) := by
  induction body generalizing exchanges with
  | ret value => exact .inl ends
  | raise failure => exact .inr ⟨[], exchanges, failure, rfl, .raise failure, ends⟩
  | call request rest ih =>
    cases ends with
    | call fault store tail =>
      rcases ih _ tail with returned | ⟨early, late, failure, split, threw, handled⟩
      · exact .inl (.call fault store returned)
      · right
        refine ⟨_ :: early, late, failure, ?_, .call fault store threw, handled⟩
        rw [split, List.cons_append]

/-- The exchanges of the script on its own: nobody else changes the store.  It stops early when
the faults run out. -/
def traced (perform : Answering Call Reply Fault Store) :
    Script Call Reply Failure Result → List Fault → Store →
      List (Exchange Call Fault Store) × Option (Except Failure Result)
  | .ret outcome, _, _ => ([], some (.ok outcome))
  | .raise failure, _, _ => ([], some (.error failure))
  | .call _ _, [], _ => ([], none)
  | .call request next, fault :: faults, store =>
    let answer := perform request fault store
    let rest := traced perform (next answer.2) faults answer.1
    ({ request, fault, store } :: rest.1, rest.2)

theorem ends_traced {script : Script Call Reply Failure Result} {faults : List Fault} {store : Store}
    {result : Except Failure Result}
    (finished : (traced perform script faults store).2 = some result) :
    Ends perform script (traced perform script faults store).1 result := by
  induction script generalizing faults store with
  | ret outcome =>
    cases finished
    exact .ret outcome
  | raise failure =>
    cases finished
    exact .raise failure
  | call request next ih =>
    cases faults with
    | nil => cases finished
    | cons fault faults => exact .call fault store (ih _ finished)

end Traces

end Hivra.Library
