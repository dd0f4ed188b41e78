import Hivra.Library.Scripts

/-!
# Deliveries of one Stripe event

Every delivery runs the webhook route: it takes the event by inserting its row, or takes it
over from a run that failed or went quiet, runs the handler and marks the row.  The route's
function is stopped fifteen minutes after its start at the latest.  Stripe delivers again
until a delivery is answered.  Times are milliseconds.
-/

namespace Hivra.StripeEvents

open Hivra.Library

inductive EventStatus
  | processing
  | processed
  | failed
  deriving DecidableEq

structure EventRow where
  status : EventStatus
  updatedAt : Int

def processingStaleAfterMs : Int := 15 * 60 * 1000

inductive EventCall
  /-- `now`, as `beginStripeWebhookEvent` starts. -/
  | readClock
  | insert (now : Int)
  | readEvent
  /-- `Date.now()`, compared with the `updated_at` that was read. -/
  | readAge (updatedAt : Int)
  | reclaim (now seen : Int)
  | rereadEvent
  | handle
  /-- `now`, as a mark starts. -/
  | readMarkClock
  | markProcessed (now : Int)
  | markFailed (now : Int)

inductive Inserted
  | stored
  | conflict
  | failed

/-- The outer `none` of a read and of a reclaim, and the `false` of a mark, are errors of the
database; the `false` of the handler is what it throws. -/
def EventCall.Reply : EventCall → Type
  | .readClock => Int
  | .insert _ => Inserted
  | .readEvent => Option (Option EventRow)
  | .readAge _ => Int
  | .reclaim _ _ => Option Nat
  | .rereadEvent => Option (Option EventRow)
  | .handle => Bool
  | .readMarkClock => Int
  | .markProcessed _ => Bool
  | .markFailed _ => Bool

abbrev EventScript (Outcome : Type) : Type := Script EventCall EventCall.Reply String Outcome

inductive Reservation
  | reserved
  | duplicate
  | processing

/-- The end of `beginStripeWebhookEvent`: a compare-and-set on the row that was read. -/
def reclaimEvent (now : Int) (existing : EventRow) : EventScript Reservation := do
  let reclaimed : Option Nat ← Script.request (EventCall.reclaim now existing.updatedAt)
  match reclaimed with
  | none => throw "Failed to retry Stripe webhook event"
  | some 0 => do
    let current : Option (Option EventRow) ← Script.request EventCall.rereadEvent
    match current with
    | none => throw "Failed to read Stripe webhook event state"
    | some row =>
      if row.map EventRow.status = some .processed then pure .duplicate
      else pure .processing
  | some _ => pure .reserved

def resolveConflict (now : Int) : EventScript Reservation := do
  let read : Option (Option EventRow) ← Script.request EventCall.readEvent
  match read with
  | none => throw "Failed to read Stripe webhook event state"
  | some none => throw "Stripe webhook event reservation conflicted but no row was found"
  | some (some existing) =>
    match existing.status with
    | .processed => pure .duplicate
    | .failed => reclaimEvent now existing
    | .processing => do
      let current : Int ← Script.request (EventCall.readAge existing.updatedAt)
      if current - existing.updatedAt < processingStaleAfterMs then pure .processing
      else reclaimEvent now existing

/-- `beginStripeWebhookEvent`, with the service role and the table in place. -/
def beginStripeWebhookEvent : EventScript Reservation := do
  let now : Int ← Script.request EventCall.readClock
  let inserted : Inserted ← Script.request (EventCall.insert now)
  match inserted with
  | .stored => pure .reserved
  | .failed => throw "Failed to reserve Stripe webhook event"
  | .conflict => resolveConflict now

def markStripeWebhookEventProcessed : EventScript Unit := do
  let now : Int ← Script.request EventCall.readMarkClock
  let marked : Bool ← Script.request (EventCall.markProcessed now)
  if marked then pure () else throw "Failed to mark Stripe webhook event processed"

def markStripeWebhookEventFailed : EventScript Unit := do
  let now : Int ← Script.request EventCall.readMarkClock
  let marked : Bool ← Script.request (EventCall.markFailed now)
  if marked then pure () else throw "Failed to mark Stripe webhook event failed"

def handleEvent : EventScript Unit := do
  let handled : Bool ← Script.request EventCall.handle
  if handled then markStripeWebhookEventProcessed else throw "Webhook handler failed"

def runEvent : EventScript Unit :=
  handleEvent.handle fun error => markStripeWebhookEventFailed.bind fun _ => .raise error

inductive Answer
  | received
  | failed

def respond : Reservation → EventScript Answer
  | .duplicate => pure .received
  | .processing => pure .received
  | .reserved => runEvent.bind fun _ => pure .received

/-- What the outermost `catch` answers. -/
def answered (body : EventScript Answer) : EventScript Answer :=
  body.handle fun _ => .ret .failed

/-- `POST`, of a delivery whose signature is valid. -/
def post : EventScript Answer := answered (beginStripeWebhookEvent.bind respond)

structure Delivery where
  startedAt : Int
  script : Option (EventScript Answer)

structure EventWorld where
  row : Option EventRow
  clock : Int
  /-- Some run of the handler has completed without error. -/
  completed : Bool
  deliveries : List Delivery

structure EventTurn where
  fails : Bool

def EventWorld.withRow (world : EventWorld) (row : EventRow) : EventWorld :=
  { world with row := some row }

def EventRow.reclaimable (row : EventRow) (seen : Int) : Bool :=
  row.updatedAt == seen && (row.status == .failed || row.status == .processing)

def EventWorld.mark (world : EventWorld) (status : EventStatus) (now : Int) : EventWorld :=
  { world with row := world.row.map fun _ => { status, updatedAt := now } }

def performEvent (call : EventCall) (turn : EventTurn) (world : EventWorld) :
    EventWorld × call.Reply :=
  match call with
  | .readClock => (world, world.clock)
  | .readAge _ => (world, world.clock)
  | .readMarkClock => (world, world.clock)
  | .insert now =>
    if turn.fails then (world, .failed)
    else
      match world.row with
      | some _ => (world, .conflict)
      | none => (world.withRow { status := .processing, updatedAt := now }, .stored)
  | .readEvent => (world, if turn.fails then none else some world.row)
  | .rereadEvent => (world, if turn.fails then none else some world.row)
  | .reclaim now seen =>
    if turn.fails then (world, none)
    else if (world.row.any fun row => row.reclaimable seen) = true then
      (world.withRow { status := .processing, updatedAt := now }, some 1)
    else (world, some 0)
  | .handle =>
    if turn.fails then (world, false) else ({ world with completed := true }, true)
  | .markProcessed now =>
    if turn.fails then (world, false) else (world.mark .processed now, true)
  | .markFailed now =>
    if turn.fails then (world, false) else (world.mark .failed now, true)

def isOver : EventScript Answer → Bool
  | .call _ _ => false
  | _ => true

def Delivery.acknowledged (delivery : Delivery) : Bool :=
  match delivery.script with
  | some (.ret .received) => true
  | _ => false

def Delivery.limited (delivery : Delivery) (clock : Int) : Delivery :=
  if delivery.script.all isOver = false ∧ delivery.startedAt + processingStaleAfterMs ≤ clock then
    { delivery with script := none }
  else delivery

inductive DeliveryEvent
  /-- Stripe delivers the event. -/
  | deliver
  | advance (number : Nat) (turn : EventTurn)
  /-- A delivery dies between two steps. -/
  | die (number : Nat)
  | wait (elapsed : Nat)

def EventWorld.withDelivery (world : EventWorld) (number : Nat) (delivery : Delivery) :
    EventWorld :=
  { world with deliveries := world.deliveries.set number delivery }

def EventWorld.step (world : EventWorld) : DeliveryEvent → EventWorld
  | .deliver =>
    if (world.deliveries.any Delivery.acknowledged) = true then world
    else
      { world with
        deliveries := world.deliveries ++ [{ startedAt := world.clock, script := some post }] }
  | .advance number turn =>
    match world.deliveries[number]? with
    | some { startedAt, script := some (.call call next) } =>
      let performed := performEvent call turn world
      performed.1.withDelivery number { startedAt, script := some (next performed.2) }
    | _ => world
  | .die number =>
    match world.deliveries[number]? with
    | some delivery =>
      if delivery.script.all isOver = true then world
      else world.withDelivery number { delivery with script := none }
    | none => world
  | .wait elapsed =>
    { world with
      clock := world.clock + elapsed
      deliveries := world.deliveries.map fun delivery =>
        delivery.limited (world.clock + elapsed) }

def EventWorld.after (world : EventWorld) (history : List DeliveryEvent) : EventWorld :=
  history.foldl EventWorld.step world

def EventWorld.undelivered (clock : Int) : EventWorld :=
  { row := none, clock, completed := false, deliveries := [] }

def Delivery.running (delivery : Delivery) : Bool :=
  match delivery.script with
  | some (.call .handle _) => true
  | some (.call .readMarkClock _) => true
  | some (.call (.markProcessed _) _) => true
  | some (.call (.markFailed _) _) => true
  | _ => false

end Hivra.StripeEvents
