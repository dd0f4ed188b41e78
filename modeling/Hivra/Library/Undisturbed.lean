import Hivra.Library.Scripts

/-!
# Scripts that run undisturbed

A script that nobody interferes with takes the store from one state to another and ends in an
outcome or a failure.  What it does follows its structure: a sequence plays its first part, then
the second from where that ended.
-/

namespace Hivra.Library

namespace Script

variable {Call : Type} {Reply : Call → Type} {Failure Outcome Result Store : Type}

def played (perform : (request : Call) → Store → Store × Reply request) :
    Script Call Reply Failure Outcome → Store → Store × Except Failure Outcome
  | .ret outcome, store => (store, .ok outcome)
  | .raise failure, store => (store, .error failure)
  | .call request next, store =>
    played perform (next (perform request store).2) (perform request store).1

variable (perform : (request : Call) → Store → Store × Reply request)

@[simp]
theorem played_ret (outcome : Outcome) (store : Store) :
    (ret outcome : Script Call Reply Failure Outcome).played perform store =
      (store, .ok outcome) := rfl

@[simp]
theorem played_raise (failure : Failure) (store : Store) :
    (raise failure : Script Call Reply Failure Outcome).played perform store =
      (store, .error failure) := rfl

@[simp]
theorem played_call (request : Call) (next : Reply request → Script Call Reply Failure Outcome)
    (store : Store) : (call request next).played perform store =
      (next (perform request store).2).played perform (perform request store).1 := rfl

@[simp]
theorem played_request (request : Call) (store : Store) :
    (Script.request request : Script Call Reply Failure (Reply request)).played perform store =
      ((perform request store).1, .ok (perform request store).2) := rfl

@[simp]
theorem played_bind (first : Script Call Reply Failure Outcome)
    (next : Outcome → Script Call Reply Failure Result) (store : Store) :
    (first.bind next).played perform store =
      match first.played perform store with
      | (later, .ok outcome) => (next outcome).played perform later
      | (later, .error failure) => (later, .error failure) := by
  induction first generalizing store with
  | ret outcome => rfl
  | raise failure => rfl
  | call request rest ih => exact ih (perform request store).2 (perform request store).1

@[simp]
theorem played_handle (body : Script Call Reply Failure Outcome)
    (handler : Failure → Script Call Reply Failure Outcome) (store : Store) :
    (body.handle handler).played perform store =
      match body.played perform store with
      | (later, .ok outcome) => (later, .ok outcome)
      | (later, .error failure) => (handler failure).played perform later := by
  induction body generalizing store with
  | ret outcome => rfl
  | raise failure => rfl
  | call request rest ih => exact ih (perform request store).2 (perform request store).1

end Script

end Hivra.Library
