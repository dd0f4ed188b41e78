import Mathlib.Data.Nat.Cast.Order.Ring
import Hivra.Library.FollowedRows
import Hivra.Relay.RelayHandlers

/-!
# A ticket gets one request past the replay check

The key of a consumed ticket is deleted only by a callback whose time is not before the
ticket's end.  Callbacks run in the order of their calls and their times do not
decrease, so whatever runs after that callback was called at or after that end.
-/

namespace Hivra.Relay

open Hivra.Library

/-- The callback that is first finds no key for its ticket and goes on: it gets its
request past the replay check. -/
def Passes (relay : HostRelay) (event : RelayEvent) (callback : Callback) : Prop :=
  event = .callback ∧ callback.stage = .read false ∧
    relay.object.callbacks.head? = some callback

/-- The stages of the callbacks: only the first has begun, and what it read is so. -/
def StagesKept (tickets : AList fun _ : String => ℚ) : List Callback → Prop
  | [] => True
  | first :: rest =>
    (∀ callback ∈ rest, callback.stage = .passed) ∧
      match first.stage with
      | .read found => found = (tickets.lookup first.ticket.jti).isSome
      | .listed page => ∀ entry ∈ page, tickets.lookup entry.1 = some entry.2
      | _ => True

structure TicketsKept (object : RelayObject) : Prop where
  ordered : object.callbacks.Pairwise fun early late => early.now ≤ late.now
  timely : ∀ callback ∈ object.callbacks,
    callback.now ≤ object.seconds ∧ (callback.now : ℚ) < callback.ticket.exp
  stages : StagesKept object.tickets object.callbacks

/-- A ticket that was consumed: its key is there, or its end is past for every callback
that has yet to run. -/
def Spent (object : RelayObject) (ticket : Ticket) : Prop :=
  object.tickets.lookup ticket.jti = some ticket.exp ∨
    ticket.exp ≤ object.seconds ∧ ∀ callback ∈ object.callbacks, ticket.exp ≤ callback.now

section Requests

variable {env : RelayEnv} {object next : RelayObject} {number : Nat} {choice : Choice}

theorem ticket_in_time {payload : TicketPayload} {connectionId : String} {now : Nat}
    {ticket : Ticket} (checked : payload.ticket? connectionId now = some ticket) :
    (now : ℚ) < ticket.exp := by
  unfold TicketPayload.ticket? at checked
  split at checked
  · split at checked
    · cases checked
    · rename_i fits
      push Not at fits
      cases checked
      exact fits.2.1
  · cases checked

inductive RequestTickets (object next : RelayObject) : Prop
  | same (tickets : next.tickets = object.tickets) (clock : next.clock = object.clock)
      (callbacks : next.callbacks = object.callbacks)
  | passed (callback : Callback) (tickets : next.tickets = object.tickets)
      (clock : next.clock = object.clock)
      (callbacks : next.callbacks = object.callbacks ++ [callback])
      (now : callback.now = object.seconds) (inTime : (callback.now : ℚ) < callback.ticket.exp)
      (stage : callback.stage = .passed)

theorem consume_ticket_tickets (text : String) :
    RequestTickets object (object.consumeTicket env number text).1 := by
  unfold RelayObject.consumeTicket
  split
  · exact .same rfl rfl rfl
  · exact .same rfl rfl rfl
  · split
    · exact .same rfl rfl rfl
    · rename_i ticket checked
      exact .passed _ rfl rfl rfl rfl (ticket_in_time checked) rfl

theorem accept_connector_tickets (route : Route) (generation : Nat) :
    RequestTickets object (object.acceptConnector route generation).1 := by
  unfold RelayObject.acceptConnector
  split
  · unfold RelayObject.acceptStream
    split
    · exact .same rfl rfl rfl
    · split <;> exact .same rfl rfl rfl
  · exact .same rfl rfl rfl

theorem open_session_tickets : RequestTickets object (object.openSession choice).1 := by
  unfold RelayObject.openSession
  split
  · exact .same rfl rfl rfl
  · split
    · exact .same rfl rfl rfl
    · dsimp only
      split <;> exact .same rfl rfl rfl

theorem resumed_tickets (request : RelayRequest) (waiting : Waiting) :
    RequestTickets object (resumed env object number request choice waiting).1 := by
  cases waiting with
  | adminToken awaits =>
    cases awaits with
    | zero =>
      simp only [resumed]
      split
      · exact .same rfl rfl rfl
      · split <;> exact .same rfl rfl rfl
    | succ awaits => exact .same rfl rfl rfl
  | connectorRead generation timestamp current =>
    simp only [resumed]
    split <;> exact .same rfl rfl rfl
  | connectorSignature generation timestamp awaits =>
    cases awaits with
    | zero =>
      simp only [resumed]
      split
      · exact .same rfl rfl rfl
      · exact accept_connector_tickets request.route generation
    | succ awaits => exact .same rfl rfl rfl
  | ticketSignature text signature awaits =>
    cases awaits with
    | zero =>
      simp only [resumed]
      split
      · exact .same rfl rfl rfl
      · exact consume_ticket_tickets text
    | succ awaits => exact .same rfl rfl rfl
  | consumed replayed =>
    cases replayed with
    | true => exact .same rfl rfl rfl
    | false => exact open_session_tickets
  | _ => exact .same rfl rfl rfl

theorem request_kept (kept : TicketsKept object) (effect : RequestTickets object next) :
    TicketsKept next := by
  cases effect with
  | same tickets clock callbacks =>
    constructor
    · rw [callbacks]
      exact kept.ordered
    · unfold RelayObject.seconds
      rw [callbacks, clock]
      exact kept.timely
    · rw [callbacks, tickets]
      exact kept.stages
  | passed callback tickets clock callbacks now inTime stage =>
    constructor
    · rw [callbacks, List.pairwise_append]
      refine ⟨kept.ordered, List.pairwise_singleton _ _, ?_⟩
      intro early there late isCallback
      rw [List.mem_singleton] at isCallback
      rw [isCallback, now]
      exact (kept.timely early there).1
    · unfold RelayObject.seconds
      rw [callbacks, clock]
      intro other there
      cases List.mem_append.mp there with
      | inl before => exact kept.timely other before
      | inr isCallback =>
        rw [List.mem_singleton] at isCallback
        rw [isCallback]
        exact ⟨Nat.le_of_eq now, inTime⟩
    · rw [callbacks, tickets]
      have stages := kept.stages
      cases held : object.callbacks with
      | nil => simp [StagesKept, stage]
      | cons first rest =>
        rw [held] at stages
        refine ⟨?_, stages.2⟩
        intro other there
        cases List.mem_append.mp there with
        | inl before => exact stages.1 other before
        | inr isCallback =>
          rw [List.mem_singleton] at isCallback
          rw [isCallback]
          exact stage

theorem request_spent {ticket : Ticket} (spent : Spent object ticket)
    (effect : RequestTickets object next) : Spent next ticket := by
  cases effect with
  | same tickets clock callbacks =>
    unfold Spent RelayObject.seconds
    rw [tickets, clock, callbacks]
    exact spent
  | passed callback tickets clock callbacks now inTime stage =>
    unfold Spent RelayObject.seconds
    rw [tickets, clock, callbacks]
    cases spent with
    | inl there => exact .inl there
    | inr past =>
      refine .inr ⟨past.1, ?_⟩
      intro other there
      cases List.mem_append.mp there with
      | inl before => exact past.2 other before
      | inr isCallback =>
        rw [List.mem_singleton] at isCallback
        rw [isCallback, now]
        exact past.1

end Requests

section Callbacks

theorem lookup_erased {tickets : AList fun _ : String => ℚ} {expired : List String} {jti : String}
    (kept : jti ∉ expired) :
    (expired.foldl (fun tickets jti => tickets.erase jti) tickets).lookup jti =
      tickets.lookup jti := by
  induction expired generalizing tickets with
  | nil => rfl
  | cons first rest ih =>
    rw [List.mem_cons, not_or] at kept
    rw [List.foldl_cons, ih kept.2, AList.lookup_erase_ne kept.1]

theorem listed_lookup (tickets : AList fun _ : String => ℚ) :
    ∀ entry ∈ listTickets tickets, tickets.lookup entry.1 = some entry.2 := by
  intro entry there
  have sorted := List.mem_of_mem_take there
  rw [List.mem_insertionSort, List.mem_map] at sorted
  have ⟨stored, held, isEntry⟩ := sorted
  rw [← isEntry]
  exact AList.mem_lookup_iff.mpr held

theorem expired_mem {page : List (String × ℚ)} {now : Nat} {jti : String}
    (expired : jti ∈ expiredTickets page now) : ∃ exp, (jti, exp) ∈ page ∧ exp ≤ (now : ℚ) := by
  have ⟨entry, there, isJti⟩ := List.mem_map.mp expired
  have ⟨onPage, past⟩ := List.mem_filter.mp there
  rw [← isJti]
  exact ⟨entry.2, onPage, by simpa using past⟩

variable {object : RelayObject} {callback : Callback} {rest : List Callback} {ticket : Ticket}

theorem returned_kept {tickets : AList fun _ : String => ℚ} (kept : TicketsKept object)
    (first : object.callbacks = callback :: rest) :
    TicketsKept { object with tickets, callbacks := rest } := by
  have ordered := kept.ordered
  have stages := kept.stages
  rw [first] at ordered stages
  constructor
  · exact (List.pairwise_cons.mp ordered).2
  · intro other there
    apply kept.timely other
    rw [first]
    exact List.mem_cons_of_mem callback there
  · cases rest with
    | nil => trivial
    | cons next others =>
      constructor
      · intro other there
        exact stages.1 other (List.mem_cons_of_mem next there)
      · rw [stages.1 next List.mem_cons_self]
        trivial

theorem advanced_kept {tickets : AList fun _ : String => ℚ} {stage : CallbackStage}
    (kept : TicketsKept object) (first : object.callbacks = callback :: rest)
    (stages : StagesKept tickets ({ callback with stage } :: rest)) :
    TicketsKept { object with tickets, callbacks := { callback with stage } :: rest } := by
  have ordered := kept.ordered
  rw [first] at ordered
  constructor
  · exact List.pairwise_cons.mpr (List.pairwise_cons.mp ordered)
  · intro other there
    cases List.mem_cons.mp there with
    | inl isFirst =>
      rw [isFirst]
      exact kept.timely callback (by simp [first])
    | inr others => exact kept.timely other (by simp [first, others])
  · exact stages

theorem resume_callback_kept {relay : HostRelay} (kept : TicketsKept relay.object) :
    TicketsKept relay.resumeCallback.object := by
  unfold HostRelay.resumeCallback
  split
  · exact kept
  · rename_i callback rest first
    have stages := kept.stages
    rw [first] at stages
    have ⟨behind, now⟩ := stages
    cases stage : callback.stage with
    | passed =>
      simp only [Callback.resumed, stage]
      exact advanced_kept kept first ⟨behind, rfl⟩
    | read found =>
      cases found with
      | true =>
        simp only [Callback.resumed, stage]
        exact returned_kept kept first
      | false =>
        simp only [Callback.resumed, stage]
        exact advanced_kept kept first ⟨behind, trivial⟩
    | written =>
      simp only [Callback.resumed, stage]
      exact advanced_kept kept first ⟨behind, listed_lookup relay.object.tickets⟩
    | listed page =>
      simp only [Callback.resumed, stage]
      split
      · rename_i went
        split at went
        · cases went
        · cases went
          exact @advanced_kept relay.object callback rest _ .deleted kept first ⟨behind, trivial⟩
      · rename_i went
        split at went
        · cases went
          exact returned_kept kept first
        · cases went
    | deleted =>
      simp only [Callback.resumed, stage]
      exact returned_kept kept first

theorem past_callbacks {next : RelayObject} (clock : next.clock = object.clock)
    (past : ticket.exp ≤ object.seconds ∧ ∀ callback ∈ object.callbacks, ticket.exp ≤ callback.now)
    (times : ∀ callback ∈ next.callbacks, ∃ before ∈ object.callbacks, callback.now = before.now) :
    Spent next ticket := by
  right
  constructor
  · unfold RelayObject.seconds
    rw [clock]
    exact past.1
  · intro callback there
    have ⟨before, held, sameNow⟩ := times callback there
    rw [sameNow]
    exact past.2 before held

theorem spent_callbacks {next : RelayObject} (spent : Spent object ticket)
    (clock : next.clock = object.clock)
    (same : next.tickets.lookup ticket.jti = object.tickets.lookup ticket.jti)
    (times : ∀ callback ∈ next.callbacks, ∃ before ∈ object.callbacks, callback.now = before.now) :
    Spent next ticket := by
  cases spent with
  | inl there => exact .inl (same.trans there)
  | inr past => exact past_callbacks clock past times

theorem resume_callback_spent {relay : HostRelay} (kept : TicketsKept relay.object)
    (spent : Spent relay.object ticket) : Spent relay.resumeCallback.object ticket := by
  unfold HostRelay.resumeCallback
  split
  · exact spent
  · rename_i callback rest first
    have advanced (stage : CallbackStage) : ∀ other ∈ { callback with stage } :: rest,
        ∃ before ∈ relay.object.callbacks, other.now = before.now := by
      intro other there
      rw [first]
      cases List.mem_cons.mp there with
      | inl isFirst => exact ⟨callback, List.mem_cons_self, by rw [isFirst]⟩
      | inr others => exact ⟨other, List.mem_cons_of_mem callback others, rfl⟩
    have returned : ∀ other ∈ rest, ∃ before ∈ relay.object.callbacks, other.now = before.now := by
      intro other there
      rw [first]
      exact ⟨other, List.mem_cons_of_mem callback there, rfl⟩
    have stages := kept.stages
    rw [first] at stages
    cases stage : callback.stage with
    | passed =>
      simp only [Callback.resumed, stage]
      exact spent_callbacks spent rfl rfl (advanced _)
    | read found =>
      cases found with
      | true =>
        simp only [Callback.resumed, stage]
        exact spent_callbacks spent rfl rfl returned
      | false =>
        simp only [Callback.resumed, stage]
        have absent := stages.2
        rw [stage] at absent
        cases spent with
        | inr past => exact @past_callbacks relay.object ticket _ rfl past (advanced _)
        | inl there =>
          -- A key that is read as absent is not the ticket's.
          have other : ticket.jti ≠ callback.ticket.jti := by
            intro same
            rw [← same, there] at absent
            cases absent
          exact spent_callbacks (.inl there) rfl (AList.lookup_insert_ne other) (advanced _)
    | written =>
      simp only [Callback.resumed, stage]
      exact spent_callbacks spent rfl rfl (advanced _)
    | listed page =>
      have onPage := stages.2
      rw [stage] at onPage
      simp only [Callback.resumed, stage]
      split
      · rename_i went
        split at went
        · cases went
        · cases went
          by_cases expired : ticket.jti ∈ expiredTickets page callback.now
          · -- The key goes: the callback's time and all later ones are past its end.
            have ⟨exp, there, past⟩ := expired_mem expired
            have isOver : ticket.exp ≤ (callback.now : ℚ) := by
              cases spent with
              | inr past => exact past.2 callback (by simp [first])
              | inl held =>
                have stored := onPage _ there
                rw [held] at stored
                cases stored
                exact past
            have ordered := kept.ordered
            rw [first, List.pairwise_cons] at ordered
            have timely := (kept.timely callback (by simp [first])).1
            refine .inr ⟨isOver.trans (Nat.cast_le.mpr timely), ?_⟩
            intro other there
            cases List.mem_cons.mp there with
            | inl isFirst =>
              rw [isFirst]
              exact isOver
            | inr others => exact isOver.trans (Nat.cast_le.mpr (ordered.1 other others))
          · exact spent_callbacks spent rfl (lookup_erased expired) (advanced _)
      · rename_i went
        split at went
        · cases went
          exact spent_callbacks spent rfl rfl returned
        · cases went
    | deleted =>
      simp only [Callback.resumed, stage]
      exact spent_callbacks spent rfl rfl returned

end Callbacks

section Runs

variable {env : RelayEnv} {relay : HostRelay} {event : RelayEvent} {ticket : Ticket}

theorem tick_kept {milliseconds : Nat} (kept : TicketsKept relay.object) :
    TicketsKept { relay.object with clock := relay.object.clock + milliseconds } := by
  constructor
  · exact kept.ordered
  · intro callback there
    have ⟨bound, inTime⟩ := kept.timely callback there
    unfold RelayObject.seconds at bound ⊢
    dsimp only
    exact ⟨by omega, inTime⟩
  · exact kept.stages

theorem tick_spent {milliseconds : Nat} (spent : Spent relay.object ticket) :
    Spent { relay.object with clock := relay.object.clock + milliseconds } ticket := by
  cases spent with
  | inl there => exact .inl there
  | inr past =>
    have later : relay.object.seconds ≤ (relay.object.clock + milliseconds) / 1000 := by
      unfold RelayObject.seconds
      omega
    exact .inr ⟨past.1.trans (Nat.cast_le.mpr later), past.2⟩

theorem step_tickets (kept : TicketsKept relay.object) :
    TicketsKept (relay.step env event).object := by
  cases event with
  | arrive request => exact kept
  | resume number choice =>
    simp only [HostRelay.step]
    split
    · exact kept
    · rename_i handler _
      split
      · exact request_kept kept (resumed_tickets handler.request handler.waiting)
      · exact kept
  | callback => exact resume_callback_kept kept
  | tick milliseconds => exact tick_kept kept
  | closeSession streamId => exact ⟨kept.ordered, kept.timely, kept.stages⟩
  | disconnect position => exact ⟨kept.ordered, kept.timely, kept.stages⟩

theorem step_spent (kept : TicketsKept relay.object) (spent : Spent relay.object ticket) :
    Spent (relay.step env event).object ticket := by
  cases event with
  | arrive request => exact spent
  | resume number choice =>
    simp only [HostRelay.step]
    split
    · exact spent
    · rename_i handler _
      split
      · exact request_spent spent (resumed_tickets handler.request handler.waiting)
      · exact spent
  | callback => exact resume_callback_spent kept spent
  | tick milliseconds => exact tick_spent spent
  | closeSession streamId => exact spent
  | disconnect position => exact spent

theorem passes_spends {callback : Callback} (passes : Passes relay event callback) :
    Spent (relay.step env event).object callback.ticket := by
  obtain ⟨rfl, read, first⟩ := passes
  simp only [HostRelay.step]
  unfold HostRelay.resumeCallback
  cases held : relay.object.callbacks with
  | nil =>
    rw [held] at first
    cases first
  | cons head rest =>
    rw [held, List.head?_cons, Option.some.injEq] at first
    rw [first]
    simp only [Callback.resumed, read]
    exact .inl (AList.lookup_insert _)

theorem passes_expired {callback : Callback} (kept : TicketsKept relay.object)
    (spent : Spent relay.object ticket) (passes : Passes relay event callback)
    (same : callback.ticket.jti = ticket.jti) : ticket.exp ≤ callback.now := by
  have ⟨_, read, first⟩ := passes
  have ⟨rest, held⟩ : ∃ rest, relay.object.callbacks = callback :: rest := by
    cases held : relay.object.callbacks with
    | nil =>
      rw [held] at first
      cases first
    | cons head rest =>
      rw [held, List.head?_cons, Option.some.injEq] at first
      exact ⟨rest, by rw [first]⟩
  cases spent with
  | inr past => exact past.2 callback (by simp [held])
  | inl there =>
    have stages := kept.stages
    rw [held] at stages
    have absent := stages.2
    rw [read] at absent
    rw [same, there] at absent
    cases absent

/-- A ticket gets one request past the replay check.  Where another ticket of the same
`jti` gets one past it later, the first has expired by then. -/
theorem ticket_passes_once (env : RelayEnv) (stored : Option Nat)
    (tickets : AList fun _ : String => ℚ) (agents : List ControlSocket) (clock : Nat)
    (early late : List RelayEvent) (first event : RelayEvent) (earlier later : Callback)
    (passesFirst : Passes ((HostRelay.of stored tickets agents clock).after env early) first earlier)
    (passesLater : Passes
      ((HostRelay.of stored tickets agents clock).after env (early ++ first :: late)) event later) :
    later.ticket ≠ earlier.ticket ∧
      (later.ticket.jti = earlier.ticket.jti →
        earlier.ticket.exp ≤ later.now ∧ (later.now : ℚ) < later.ticket.exp) := by
  have started : TicketsKept (HostRelay.of stored tickets agents clock).object := by
    constructor <;> simp [HostRelay.of, StagesKept]
  have keptEarly := @fold_keeps _ _ (HostRelay.step env)
    (fun relay => TicketsKept relay.object) _ early started
    fun _ _ kept => step_tickets kept
  have spent := @passes_spends env _ _ _ passesFirst
  have ⟨kept, spentLate⟩ := @fold_keeps _ _ (HostRelay.step env)
    (fun relay => TicketsKept relay.object ∧ Spent relay.object earlier.ticket) _ late
    ⟨step_tickets keptEarly, spent⟩
    fun _ _ both => ⟨step_tickets both.1, step_spent both.1 both.2⟩
  unfold HostRelay.after at passesLater
  rw [fold_split rfl] at passesLater
  have there := List.mem_of_head? passesLater.2.2
  have inTime := (kept.timely later there).2
  have expired := passes_expired kept spentLate passesLater
  refine ⟨?_, fun same => ⟨expired same, inTime⟩⟩
  intro same
  have lapsed := expired (by rw [same])
  rw [← same] at lapsed
  exact absurd inTime (not_lt.mpr lapsed)

end Runs

/-- For each `jti` at most one request gets past the replay check. -/
def JtiOnce (env : RelayEnv) (start : HostRelay) : Prop :=
  ∀ early late first event earlier later, Passes (start.after env early) first earlier →
    Passes (start.after env (early ++ first :: late)) event later →
      later.ticket.jti ≠ earlier.ticket.jti

/-- Tickets `a` and `c` have one `jti`; `c` ends later. -/
def threeTickets : RelayEnv where
  secret := some "00000000000000000000000000000000"
  connectionId := "00000000-0000-0000-0000-000000000000"
  hexHmac := fun _ _ => "0"
  base64urlHmac := fun _ _ => "0"
  parseTicket := fun text =>
    let payload := fun exp jti =>
      ParsedTicket.payload
        { aud := some "00000000-0000-0000-0000-000000000000", exp := some exp, jti := some jti }
    if text = "a" then payload 60 "aaaaaaaaaaaaaaaa"
    else if text = "b" then payload 150 "bbbbbbbbbbbbbbbb"
    else payload 150 "aaaaaaaaaaaaaaaa"

def clientRequest (authorization : String) : RelayRequest where
  route := .client
  method := "GET"
  isUpgrade := true
  authorization
  generation := none
  timestamp := none
  signature := ""
  body := none

def clientArrives (number : Nat) (authorization : String) : List RelayEvent :=
  .arrive (clientRequest authorization) ::
    List.replicate 4 (.resume number { token := "", sent := true })

/-- Ticket `a` is consumed, ends, and is forgotten when `b` is consumed. -/
def forgottenTicket : List RelayEvent :=
  (List.replicate 2 .callback : List RelayEvent) ++ .tick 60000 :: clientArrives 1 "Bearer b.0" ++
    (List.replicate 5 .callback : List RelayEvent) ++ clientArrives 2 "Bearer c.0" ++
    ([.callback] : List RelayEvent)

def callbackA : Callback where
  request := 0
  ticket := { jti := "aaaaaaaaaaaaaaaa", exp := 60 }
  now := 0
  stage := .read false

def callbackC : Callback where
  request := 2
  ticket := { jti := "aaaaaaaaaaaaaaaa", exp := 150 }
  now := 60
  stage := .read false

theorem ticket_a_passes : Passes
      ((HostRelay.of none ∅ [] 0).after threeTickets (clientArrives 0 "Bearer a.0" ++ [.callback]))
      .callback callbackA :=
  ⟨rfl, rfl, by decide +kernel⟩

theorem ticket_c_passes : Passes
      ((HostRelay.of none ∅ [] 0).after threeTickets
        ((clientArrives 0 "Bearer a.0" ++ [.callback]) ++ .callback :: forgottenTicket))
      .callback callbackC :=
  ⟨rfl, rfl, by decide +kernel⟩

theorem jti_passes_twice : ¬JtiOnce threeTickets (.of none ∅ [] 0) := by
  intro once
  exact once _ _ _ _ _ _ ticket_a_passes ticket_c_passes rfl

theorem ticket_c_passes_late : callbackC.ticket ≠ callbackA.ticket ∧
      (callbackC.ticket.jti = callbackA.ticket.jti →
        callbackA.ticket.exp ≤ callbackC.now ∧ (callbackC.now : ℚ) < callbackC.ticket.exp) :=
  ticket_passes_once threeTickets none ∅ [] 0 _ _ _ _ _ _ ticket_a_passes ticket_c_passes

end Hivra.Relay
