import Hivra.Library.Traces

/-!
# What a script ends in

A script that runs between others still ends in one of a few results, as long as
what its requests meet keeps to some condition.  `Concludes` says which results,
and the rules follow the structure of the script.  The condition is one on the
exchanges of a run that every part of the run inherits.
-/

namespace Hivra.Library

section Conclusions

variable {Call : Type} {Reply : Call → Type} {Failure Outcome Result Fault Store : Type}
variable {perform : Answering Call Reply Fault Store}
variable {allowed : List (Exchange Call Fault Store) → Prop}

variable {first body : Script Call Reply Failure Outcome} {post : Except Failure Result → Prop}
    {next : Outcome → Script Call Reply Failure Result}
    {exchanges : List (Exchange Call Fault Store)}

theorem ends_sequence {result : Except Failure Result}
    (ends : Ends perform (first.bind next) exchanges result) :
    ∃ early late middle, exchanges = early ++ late ∧ Ends perform first early middle ∧
      match middle with
      | .ok outcome => Ends perform (next outcome) late result
      | .error failure => result = .error failure := by
  induction first generalizing exchanges with
  | ret outcome => exact ⟨[], exchanges, .ok outcome, rfl, .ret outcome, ends⟩
  | raise failure => exact ⟨[], exchanges, .error failure, rfl, .raise failure, (ends_raise ends).1⟩
  | call request rest ih =>
    cases ends with
    | call fault store tail =>
      have ⟨early, late, middle, split, head, continued⟩ := ih _ tail
      apply Exists.intro ({ request, fault, store } :: early)
      exact ⟨late, middle, by rw [split, List.cons_append], .call fault store head, continued⟩

theorem ends_guarded {handler : Failure → Script Call Reply Failure Outcome}
    {result : Except Failure Outcome} (ends : Ends perform (body.handle handler) exchanges result) :
    ∃ early late middle, exchanges = early ++ late ∧ Ends perform body early middle ∧
      match middle with
      | .ok outcome => result = .ok outcome
      | .error failure => Ends perform (handler failure) late result := by
  induction body generalizing exchanges with
  | ret outcome => exact ⟨[], exchanges, .ok outcome, rfl, .ret outcome, (ends_ret ends).1⟩
  | raise failure => exact ⟨[], exchanges, .error failure, rfl, .raise failure, ends⟩
  | call request rest ih =>
    cases ends with
    | call fault store tail =>
      have ⟨early, late, middle, split, head, continued⟩ := ih _ tail
      apply Exists.intro ({ request, fault, store } :: early)
      exact ⟨late, middle, by rw [split, List.cons_append], .call fault store head, continued⟩

structure Concludes (perform : Answering Call Reply Fault Store)
    (allowed : List (Exchange Call Fault Store) → Prop)
    (script : Script Call Reply Failure Result) (post : Except Failure Result → Prop) : Prop where
  result :
    ∀ exchanges result, Ends perform script exchanges result → allowed exchanges → post result

def Inherited (allowed : List (Exchange Call Fault Store) → Prop) : Prop :=
  ∀ early late, allowed (early ++ late) → allowed early ∧ allowed late

theorem concludes_ret {outcome : Result} (holds : post (.ok outcome)) :
    Concludes perform allowed (.ret outcome : Script Call Reply Failure Result) post := by
  constructor
  intro exchanges result ends _
  rw [(ends_ret ends).1]
  exact holds

theorem concludes_raise {failure : Failure} (holds : post (.error failure)) :
    Concludes perform allowed (.raise failure : Script Call Reply Failure Result) post := by
  constructor
  intro exchanges result ends _
  rw [(ends_raise ends).1]
  exact holds

theorem concludes_bind (inherited : Inherited allowed) {middle : Except Failure Outcome → Prop}
    (head : Concludes perform allowed first middle)
    (returned : ∀ outcome, middle (.ok outcome) → Concludes perform allowed (next outcome) post)
    (threw : ∀ failure, middle (.error failure) → post (.error failure)) :
    Concludes perform allowed (first.bind next) post := by
  constructor
  intro exchanges result ends keeps
  have ⟨early, late, outcome, split, first, rest⟩ := ends_sequence ends
  subst split
  have ⟨keepsEarly, keepsLate⟩ := inherited early late keeps
  have reached := head.result early outcome first keepsEarly
  cases outcome with
  | ok value => exact (returned value reached).result late result rest keepsLate
  | error failure =>
    have same : result = .error failure := rest
    rw [same]
    exact threw failure reached

abbrev Returns (perform : Answering Call Reply Fault Store)
    (allowed : List (Exchange Call Fault Store) → Prop)
    (script : Script Call Reply Failure Result) (post : Result → Prop) : Prop :=
  Concludes perform allowed script fun result => ∃ outcome, result = .ok outcome ∧ post outcome

theorem returns_ret {outcome : Result} {post : Result → Prop} (holds : post outcome) :
    Returns perform allowed (.ret outcome : Script Call Reply Failure Result) post :=
  concludes_ret ⟨outcome, rfl, holds⟩

theorem returns_bind (inherited : Inherited allowed) {middle : Outcome → Prop}
    (head : Returns perform allowed first middle)
    (returned : ∀ outcome, middle outcome → Concludes perform allowed (next outcome) post) :
    Concludes perform allowed (first.bind next) post := by
  apply concludes_bind inherited head
  · intro outcome reached
    have ⟨_, same, holds⟩ := reached
    cases same
    exact returned outcome holds
  · intro failure impossible
    have ⟨_, same, _⟩ := impossible
    cases same

theorem concludes_handle (inherited : Inherited allowed) {body : Script Call Reply Failure Outcome}
    {handler : Failure → Script Call Reply Failure Outcome}
    {middle post : Except Failure Outcome → Prop} (guarded : Concludes perform allowed body middle)
    (returned : ∀ outcome, middle (.ok outcome) → post (.ok outcome))
    (threw : ∀ failure, middle (.error failure) →
      Concludes perform allowed (handler failure) post) :
    Concludes perform allowed (body.handle handler) post := by
  constructor
  intro exchanges result ends keeps
  have ⟨early, late, outcome, split, first, rest⟩ := ends_guarded ends
  subst split
  have ⟨keepsEarly, keepsLate⟩ := inherited early late keeps
  have reached := guarded.result early outcome first keepsEarly
  cases outcome with
  | ok value =>
    have same : result = .ok value := rest
    rw [same]
    exact returned value reached
  | error failure => exact (threw failure reached).result late result rest keepsLate

theorem concludes_request {request : Call} {post : Except Failure (Reply request) → Prop}
    (answers : ∀ fault store, allowed [{ request, fault, store }] →
      post (.ok (perform request fault store).2)) :
    Concludes perform allowed
      (Script.request request : Script Call Reply Failure (Reply request)) post := by
  constructor
  intro exchanges result ends keeps
  have ⟨fault, store, split, same⟩ := ends_request ends
  subst split
  rw [same]
  exact answers fault store keeps

end Conclusions

end Hivra.Library
