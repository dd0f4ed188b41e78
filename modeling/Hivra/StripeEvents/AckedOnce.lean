import Hivra.StripeEvents.EventDeliveries
import Hivra.Library.FollowedRows

/-!
# An acknowledged event has been processed

As long as no delivery is told that another one is still processing, and no take-over writes
the time that another delivery waits to compare, a delivery is acknowledged only once a
handler has completed, one run is alive at most, and a processed event stays processed.
-/

namespace Hivra.StripeEvents

open Hivra.Library

/-! ## Where a delivery can stand -/

inductive Stage
  | begun
  | inserting (now : Int)
  | reading (now : Int)
  | aging (now : Int) (existing : EventRow)
  | reclaiming (now : Int) (existing : EventRow)
  | rereading
  | handling
  | handled
  | markingProcessed (now : Int)
  | threw
  | markingFailed (now : Int)
  | concluded (answer : Answer)

def failingScript (now : Int) : EventScript Answer :=
  .call (.markFailed now) fun _ => .ret .failed

def threwScript : EventScript Answer := .call .readMarkClock failingScript

def processedScript (now : Int) : EventScript Answer :=
  .call (.markProcessed now) fun marked =>
    match marked with
    | true => .ret .received
    | false => threwScript

def handledScript : EventScript Answer := .call .readMarkClock processedScript

def handlingScript : EventScript Answer :=
  .call .handle fun handled =>
    match handled with
    | true => handledScript
    | false => threwScript

def rereadingScript : EventScript Answer :=
  .call .rereadEvent fun current =>
    match current with
    | none => .ret .failed
    | some _ => .ret .received

def reclaimingScript (now : Int) (existing : EventRow) : EventScript Answer :=
  .call (.reclaim now existing.updatedAt) fun reclaimed =>
    match reclaimed with
    | none => .ret .failed
    | some 0 => rereadingScript
    | some (_ + 1) => handlingScript

def agingScript (now : Int) (existing : EventRow) : EventScript Answer :=
  .call (.readAge existing.updatedAt) fun (current : Int) =>
    if current - existing.updatedAt < processingStaleAfterMs then .ret .received
    else reclaimingScript now existing

def readingScript (now : Int) : EventScript Answer :=
  .call .readEvent fun (read : Option (Option EventRow)) =>
    match read with
    | none => .ret .failed
    | some none => .ret .failed
    | some (some existing) =>
      match existing.status with
      | .processed => .ret .received
      | .failed => reclaimingScript now existing
      | .processing => agingScript now existing

def insertingScript (now : Int) : EventScript Answer :=
  .call (.insert now) fun inserted =>
    match inserted with
    | .stored => handlingScript
    | .failed => .ret .failed
    | .conflict => readingScript now

def Stage.script : Stage → EventScript Answer
  | .begun => .call .readClock insertingScript
  | .inserting now => insertingScript now
  | .reading now => readingScript now
  | .aging now existing => agingScript now existing
  | .reclaiming now existing => reclaimingScript now existing
  | .rereading => rereadingScript
  | .handling => handlingScript
  | .handled => handledScript
  | .markingProcessed now => processedScript now
  | .threw => threwScript
  | .markingFailed now => failingScript now
  | .concluded answer => .ret answer

/-! ### They are where the route stands -/

theorem call_congr (call : EventCall) {first second : call.Reply → EventScript Answer}
    (same : ∀ reply, first reply = second reply) :
    Script.call call first = Script.call call second :=
  congrArg (Script.call call) (funext same)

theorem failed_mark_script (error : String) :
    answered ((markStripeWebhookEventFailed.bind fun _ => (.raise error : EventScript Unit)).bind
      fun _ => .ret .received) = threwScript := by
  refine call_congr .readMarkClock ?_
  intro now
  refine call_congr (.markFailed now) ?_
  intro marked
  change Bool at marked
  cases marked <;> rfl

def guarded (body : EventScript Unit) : EventScript Answer :=
  answered ((body.handle fun error =>
    markStripeWebhookEventFailed.bind fun _ => .raise error).bind fun _ => .ret .received)

theorem processed_mark_script : guarded markStripeWebhookEventProcessed = handledScript := by
  refine call_congr .readMarkClock ?_
  intro now
  refine call_congr (.markProcessed now) ?_
  intro marked
  change Bool at marked
  cases marked with
  | false => exact failed_mark_script _
  | true => rfl

theorem run_script : answered (respond .reserved) = handlingScript := by
  refine call_congr .handle ?_
  intro handled
  change Bool at handled
  cases handled with
  | false => exact failed_mark_script _
  | true => exact processed_mark_script

theorem reclaim_script (now : Int) (existing : EventRow) :
    answered ((reclaimEvent now existing).bind respond) = reclaimingScript now existing := by
  refine call_congr (.reclaim now existing.updatedAt) ?_
  intro reclaimed
  change Option Nat at reclaimed
  match reclaimed with
  | none => rfl
  | some (count + 1) => exact run_script
  | some 0 =>
    refine call_congr .rereadEvent ?_
    intro current
    change Option (Option EventRow) at current
    cases current with
    | none => rfl
    | some row =>
      change answered ((if row.map EventRow.status = some .processed then
        (pure .duplicate : EventScript Reservation) else pure .processing).bind respond) = _
      split <;> rfl

theorem conflict_script (now : Int) :
    answered ((resolveConflict now).bind respond) = readingScript now := by
  refine call_congr .readEvent ?_
  intro read
  change Option (Option EventRow) at read
  match read with
  | none => rfl
  | some none => rfl
  | some (some { status, updatedAt }) =>
    cases status with
    | processed => rfl
    | failed => exact reclaim_script now { status := .failed, updatedAt }
    | processing =>
      refine call_congr (.readAge updatedAt) ?_
      intro current
      change Int at current
      change answered ((if current - updatedAt < processingStaleAfterMs then
        (pure .processing : EventScript Reservation) else
          reclaimEvent now { status := .processing, updatedAt }).bind respond) =
        if current - updatedAt < processingStaleAfterMs then .ret .received
          else reclaimingScript now { status := .processing, updatedAt }
      split
      · rfl
      · exact reclaim_script now { status := .processing, updatedAt }

theorem post_script : post = Stage.begun.script := by
  refine call_congr .readClock ?_
  intro now
  refine call_congr (.insert now) ?_
  intro inserted
  change Inserted at inserted
  cases inserted with
  | stored => exact run_script
  | conflict => exact conflict_script now
  | failed => rfl

/-! ## The condition -/

def Delivery.compares (delivery : Delivery) (updatedAt : Int) : Bool :=
  match delivery.script with
  | some (.call (.reclaim _ seen) _) => seen == updatedAt
  | _ => false

/-- No delivery is told that another one is still processing, and no take-over writes the
time that another delivery waits to compare. -/
def EventCall.Admitted (call : EventCall) (number : Nat) (turn : EventTurn)
    (world : EventWorld) : Prop :=
  match call with
  | .readAge updatedAt => updatedAt + processingStaleAfterMs ≤ world.clock
  | .rereadEvent =>
    turn.fails = false → (world.row.any fun row => row.status == .processed) = true
  | .reclaim now seen =>
    turn.fails = false → (world.row.any fun row => row.reclaimable seen) = true →
      ∀ delivery ∈ world.deliveries.eraseIdx number, delivery.compares now = false
  | _ => True

def DeliveriesKept (world : EventWorld) : DeliveryEvent → Prop
  | .advance number turn =>
    match world.deliveries[number]? with
    | some { startedAt := _, script := some (.call call _) } => call.Admitted number turn world
    | _ => True
  | _ => True

instance (call : EventCall) (number : Nat) (turn : EventTurn) (world : EventWorld) :
    Decidable (call.Admitted number turn world) := by
  unfold EventCall.Admitted
  cases call <;> infer_instance

instance (world : EventWorld) (event : DeliveryEvent) : Decidable (DeliveriesKept world event) := by
  unfold DeliveriesKept
  split
  · split <;> infer_instance
  · infer_instance

/-! ## What holds throughout -/

def Runs (world : EventWorld) (number : Nat) : Prop :=
  ∃ delivery, world.deliveries[number]? = some delivery ∧ delivery.running = true

def Stage.Fits (world : EventWorld) (startedAt : Int) : Stage → Prop
  | .inserting now => startedAt ≤ now
  | .reading now => startedAt ≤ now
  | .aging now _ => startedAt ≤ now ∧ world.row.isSome = true
  | .reclaiming now existing =>
    startedAt ≤ now ∧ world.row.isSome = true ∧
      ∀ runner row, Runs world runner → world.row = some row →
        row.updatedAt ≠ existing.updatedAt
  | .handled => world.completed = true
  | .markingProcessed _ => world.completed = true
  | .concluded .received => world.completed = true
  | _ => True

structure EventsSound (world : EventWorld) : Prop where
  started : ∀ delivery ∈ world.deliveries, delivery.startedAt ≤ world.clock
  limited : ∀ delivery ∈ world.deliveries, delivery.script.all isOver = false →
    world.clock < delivery.startedAt + processingStaleAfterMs
  staged : ∀ delivery ∈ world.deliveries, ∀ script, delivery.script = some script →
    ∃ stage : Stage, script = stage.script ∧ stage.Fits world delivery.startedAt
  locked : ∀ delivery ∈ world.deliveries, delivery.running = true →
    ∃ row, world.row = some row ∧ row.status = .processing ∧ delivery.startedAt ≤ row.updatedAt
  alone : ∀ first second, Runs world first → Runs world second → first = second
  processed : ∀ row, world.row = some row → row.status = .processed → world.completed = true

def Stage.running : Stage → Bool
  | .handling => true
  | .handled => true
  | .markingProcessed _ => true
  | .threw => true
  | .markingFailed _ => true
  | _ => false

theorem stage_running (stage : Stage) (startedAt : Int) :
    ({ startedAt, script := some stage.script } : Delivery).running = stage.running := by
  cases stage <;> rfl

theorem stage_over (stage : Stage) : isOver stage.script = false ∨
    ∃ answer, stage = .concluded answer := by
  cases stage with
  | concluded answer => exact .inr ⟨answer, rfl⟩
  | _ => exact .inl rfl

variable {now : Int}

section Advance

variable {world : EventWorld} {number : Nat} {startedAt : Int} {stage next : Stage}

theorem mem_with {delivery other : Delivery}
    (there : other ∈ (world.withDelivery number delivery).deliveries) :
    other = delivery ∨ other ∈ world.deliveries.eraseIdx number := by
  simp only [EventWorld.withDelivery, List.set_eq_take_append_cons_drop] at there
  rw [List.eraseIdx_eq_take_drop_succ]
  split at there
  · simp only [List.mem_append, List.mem_cons] at there ⊢
    rcases there with before | own | later
    · exact .inr (.inl before)
    · exact .inl own
    · exact .inr (.inr later)
  · right
    rename_i outside
    rw [List.drop_eq_nil_of_le (by omega), List.append_nil,
      List.take_of_length_le (by omega)]
    exact there

theorem runs_with {delivery : Delivery} {runner : Nat}
    (runs : Runs (world.withDelivery number delivery) runner) :
    (runner = number ∧ delivery.running = true) ∨ (runner ≠ number ∧ Runs world runner) := by
  have ⟨found, at', running⟩ := runs
  simp only [EventWorld.withDelivery, List.getElem?_set] at at'
  by_cases own : number = runner
  · left
    rw [if_pos own] at at'
    split at at'
    · cases at'
      exact ⟨own.symm, running⟩
    · cases at'
  · right
    rw [if_neg own] at at'
    exact ⟨fun same => own same.symm, found, at', running⟩

theorem fits_moves {later : EventWorld} (fits : stage.Fits world startedAt)
    (completed : world.completed = true → later.completed = true)
    (row : world.row.isSome = true → later.row.isSome = true)
    (apart : ∀ now existing, stage = .reclaiming now existing →
      ∀ runner row, Runs later runner → later.row = some row →
        row.updatedAt ≠ existing.updatedAt) : stage.Fits later startedAt := by
  cases stage with
  | inserting now | reading now => exact fits
  | aging now existing => exact ⟨fits.1, row fits.2⟩
  | reclaiming now existing => exact ⟨fits.1, row fits.2.1, apart now existing rfl⟩
  | handled | markingProcessed now => exact completed fits
  | concluded answer =>
    cases answer with
    | received => exact completed fits
    | failed => trivial
  | begun | rereading | handling | threw | markingFailed now => trivial

theorem moved_sound (sound : EventsSound world) (later : EventWorld)
    (clock : later.clock = world.clock) (same : later.deliveries = world.deliveries)
    (current : world.deliveries[number]? = some { startedAt, script := some stage.script })
    (unfinished : isOver stage.script = false)
    (fits : next.Fits (later.withDelivery number { startedAt, script := some next.script })
      startedAt)
    (others : ∀ other ∈ world.deliveries.eraseIdx number, ∀ held : Stage,
      other.script = some held.script → held.Fits world other.startedAt →
      held.Fits (later.withDelivery number { startedAt, script := some next.script })
        other.startedAt)
    (locked : ∀ other ∈ (later.withDelivery number
        { startedAt, script := some next.script }).deliveries, other.running = true →
      ∃ row, later.row = some row ∧ row.status = .processing ∧
        other.startedAt ≤ row.updatedAt)
    (alone : ∀ first second,
      Runs (later.withDelivery number { startedAt, script := some next.script }) first →
      Runs (later.withDelivery number { startedAt, script := some next.script }) second →
      first = second)
    (processed : ∀ row, later.row = some row → row.status = .processed →
      later.completed = true) :
    EventsSound (later.withDelivery number { startedAt, script := some next.script }) := by
  have own : ({ startedAt, script := some stage.script } : Delivery) ∈ world.deliveries :=
    List.mem_of_getElem? current
  have sameList : (later.withDelivery number { startedAt, script := some next.script }).deliveries
      = (world.withDelivery number { startedAt, script := some next.script }).deliveries := by
    simp only [EventWorld.withDelivery, same]
  have sameClock : (later.withDelivery number
      { startedAt, script := some next.script }).clock = world.clock := clock
  constructor
  · intro other there
    rw [sameList] at there
    rw [sameClock]
    cases mem_with there with
    | inl isNew =>
      have started : startedAt ≤ world.clock := sound.started _ own
      rw [isNew]
      exact started
    | inr older => exact sound.started other (List.mem_of_mem_eraseIdx older)
  · intro other there
    rw [sameList] at there
    rw [sameClock]
    cases mem_with there with
    | inl isNew =>
      have limited : world.clock < startedAt + processingStaleAfterMs :=
        sound.limited _ own (by simpa using unfinished)
      rw [isNew]
      intro _
      exact limited
    | inr older => exact sound.limited other (List.mem_of_mem_eraseIdx older)
  · intro other there script isScript
    rw [sameList] at there
    cases mem_with there with
    | inl isNew =>
      subst isNew
      cases isScript
      exact ⟨next, rfl, fits⟩
    | inr older =>
      have ⟨held, isHeld, heldFits⟩ :=
        sound.staged other (List.mem_of_mem_eraseIdx older) script isScript
      rw [isHeld] at isScript
      exact ⟨held, isHeld, others other older held isScript heldFits⟩
  · exact locked
  · exact alone
  · exact processed

variable (stage next) in
theorem quiet_sound (sound : EventsSound world)
    (current : world.deliveries[number]? = some { startedAt, script := some stage.script })
    (unfinished : isOver stage.script = false) {completed : Bool}
    (mono : world.completed = true → completed = true)
    (runs : next.running = true → stage.running = true)
    (fits : ∀ later : EventWorld, later.row = world.row → later.completed = completed →
      (∀ runner, Runs later runner → Runs world runner) → next.Fits later startedAt) :
    EventsSound (({ world with completed } : EventWorld).withDelivery number
      { startedAt, script := some next.script }) := by
  have own : ({ startedAt, script := some stage.script } : Delivery) ∈ world.deliveries :=
    List.mem_of_getElem? current
  have earlier : ∀ runner, Runs (({ world with completed } : EventWorld).withDelivery number
      { startedAt, script := some next.script }) runner → Runs world runner := by
    intro runner running
    cases runs_with running with
    | inl isOwn =>
      rw [stage_running] at isOwn
      refine ⟨_, isOwn.1 ▸ current, ?_⟩
      rw [stage_running]
      exact runs isOwn.2
    | inr other => exact other.2
  apply moved_sound sound { world with completed } rfl rfl current unfinished
  · exact fits _ rfl rfl earlier
  · intro other there held isScript heldFits
    apply fits_moves heldFits
    · exact mono
    · intro isSome
      exact isSome
    · intro now existing isReclaiming runner row running found
      subst isReclaiming
      exact heldFits.2.2 runner row (earlier runner running) found
  · intro other there running
    cases mem_with there with
    | inl isNew =>
      subst isNew
      rw [stage_running] at running
      apply sound.locked _ own
      rw [stage_running]
      exact runs running
    | inr older => exact sound.locked other (List.mem_of_mem_eraseIdx older) running
  · intro first second firstRuns secondRuns
    exact sound.alone first second (earlier first firstRuns) (earlier second secondRuns)
  · intro row found status
    exact mono (sound.processed row found status)

variable (stage) in
theorem taken_sound (sound : EventsSound world)
    (current : world.deliveries[number]? = some { startedAt, script := some stage.script })
    (unfinished : isOver stage.script = false) (late : startedAt ≤ now)
    (idle : ∀ runner, ¬Runs world runner)
    (apart : ∀ other ∈ world.deliveries.eraseIdx number, ∀ later existing,
      other.script = some (Stage.reclaiming later existing).script →
      world.row.isSome = true → now ≠ existing.updatedAt) :
    EventsSound ((world.withRow { status := .processing, updatedAt := now }).withDelivery number
      { startedAt, script := some Stage.handling.script }) := by
  have ownRuns : ∀ runner, Runs ((world.withRow
      { status := .processing, updatedAt := now }).withDelivery number
      { startedAt, script := some Stage.handling.script }) runner → runner = number := by
    intro runner running
    cases runs_with running with
    | inl isOwn => exact isOwn.1
    | inr other =>
      have ⟨found, at', runs⟩ := other.2
      exact absurd ⟨found, at', runs⟩ (idle runner)
  apply moved_sound sound (world.withRow { status := .processing, updatedAt := now }) rfl rfl
    current unfinished
  · trivial
  · intro other there held isScript heldFits
    apply fits_moves heldFits
    · intro completed
      exact completed
    · intro _
      rfl
    · intro later existing isReclaiming runner row running found
      subst isReclaiming
      cases found
      exact apart other there later existing isScript heldFits.2.1
  · intro other there running
    refine ⟨{ status := .processing, updatedAt := now }, rfl, rfl, ?_⟩
    cases mem_with there with
    | inl isNew =>
      rw [isNew]
      exact late
    | inr older =>
      have ⟨runner, at'⟩ := List.getElem?_of_mem (List.mem_of_mem_eraseIdx older)
      exact absurd ⟨other, at', running⟩ (idle runner)
  · intro first second firstRuns secondRuns
    rw [ownRuns first firstRuns, ownRuns second secondRuns]
  · intro row found status
    cases found
    cases status

variable (stage) in
theorem marked_sound (sound : EventsSound world)
    (current : world.deliveries[number]? = some { startedAt, script := some stage.script })
    (runs : stage.running = true) {status : EventStatus} {answer : Answer}
    (acknowledged : answer = .received → world.completed = true)
    (completed : status = .processed → world.completed = true) :
    EventsSound ((world.mark status now).withDelivery number
      { startedAt, script := some (Stage.concluded answer).script }) := by
  have own : Runs world number := by
    refine ⟨_, current, ?_⟩
    rw [stage_running]
    exact runs
  have idle : ∀ runner, ¬Runs ((world.mark status now).withDelivery number
      { startedAt, script := some (Stage.concluded answer).script }) runner := by
    intro runner running
    cases runs_with running with
    | inl isOwn => cases isOwn.2
    | inr other =>
      have ⟨found, at', stillRuns⟩ := other.2
      exact other.1 (sound.alone runner number ⟨found, at', stillRuns⟩ own)
  have unfinished : isOver stage.script = false := by
    cases stage_over stage with
    | inl unfinished => exact unfinished
    | inr isOver =>
      have ⟨_, isAnswer⟩ := isOver
      rw [isAnswer] at runs
      cases runs
  apply moved_sound sound (world.mark status now) rfl rfl current unfinished
  · cases answer with
    | received => exact acknowledged rfl
    | failed => trivial
  · intro other there held isScript heldFits
    apply fits_moves heldFits
    · intro completed
      exact completed
    · intro isSome
      simpa [EventWorld.withDelivery, EventWorld.mark] using isSome
    · intro later existing isReclaiming runner row running found
      exact absurd running (idle runner)
  · intro other there running
    have ⟨runner, at'⟩ := List.getElem?_of_mem there
    exact absurd ⟨other, at', running⟩ (idle runner)
  · intro first second firstRuns
    exact absurd firstRuns (idle first)
  · intro row found isProcessed
    simp only [EventWorld.mark, Option.map_eq_some_iff] at found
    have ⟨_, _, isRow⟩ := found
    rw [← isRow] at isProcessed
    exact completed isProcessed

end Advance

/-! ## One step -/

section Steps

variable {world : EventWorld} {number : Nat} {startedAt : Int} {turn : EventTurn}

theorem stops_sound (stage : Stage) (sound : EventsSound world)
    (current : world.deliveries[number]? = some { startedAt, script := some stage.script })
    (unfinished : isOver stage.script = false)
    (stopped : world.step (.advance number turn) =
      world.withDelivery number { startedAt, script := some (Stage.concluded .failed).script }) :
    EventsSound (world.step (.advance number turn)) := by
  rw [stopped]
  exact quiet_sound stage (.concluded .failed) sound current unfinished
    (fun completed => completed) (fun runs => by cases runs) (fun _ _ _ _ => trivial)

section

variable (sound : EventsSound world)
include sound

theorem insert_sound (current : world.deliveries[number]? =
      some { startedAt, script := some (Stage.inserting now).script }) (late :
    startedAt ≤ now) : EventsSound (world.step (.advance number turn)) := by
  cases fails : turn.fails with
  | true =>
    apply stops_sound (.inserting now) sound current rfl
    simp [EventWorld.step, current, Stage.script, insertingScript, performEvent, fails]
  | false =>
    cases row : world.row with
    | some held =>
      have conflict : world.step (.advance number turn) =
          world.withDelivery number
            { startedAt, script := some (Stage.reading now).script } := by
        simp [EventWorld.step, current, Stage.script, insertingScript, performEvent, fails, row]
      rw [conflict]
      exact quiet_sound (.inserting now) (.reading now) sound current rfl
        (fun completed => completed) (fun runs => by cases runs) (fun _ _ _ _ => late)
    | none =>
      have stored : world.step (.advance number turn) =
          (world.withRow { status := .processing, updatedAt := now }).withDelivery number
            { startedAt, script := some Stage.handling.script } := by
        simp [EventWorld.step, current, Stage.script, insertingScript, performEvent, fails, row]
      rw [stored]
      apply taken_sound (.inserting now) sound current rfl late
      · intro runner running
        have ⟨delivery, at', runs⟩ := running
        have ⟨_, found, _⟩ := sound.locked delivery (List.mem_of_getElem? at') runs
        rw [row] at found
        cases found
      · intro _ _ _ _ _ isSome
        rw [row] at isSome
        cases isSome

theorem running_limited {runner : Nat} (runs : Runs world runner) :
    ∃ row, world.row = some row ∧ row.status = .processing ∧
      world.clock < row.updatedAt + processingStaleAfterMs := by
  have ⟨delivery, at', running⟩ := runs
  have there := List.mem_of_getElem? at'
  have ⟨row, found, status, late⟩ := sound.locked delivery there running
  have unfinished : delivery.script.all isOver = false := by
    unfold Delivery.running at running
    split at running <;> simp_all [isOver]
  have limited := sound.limited delivery there unfinished
  exact ⟨row, found, status, by omega⟩

theorem read_sound (current : world.deliveries[number]? =
      some { startedAt, script := some (Stage.reading now).script }) (late :
    startedAt ≤ now) : EventsSound (world.step (.advance number turn)) := by
  cases fails : turn.fails with
  | true =>
    apply stops_sound (.reading now) sound current rfl
    simp [EventWorld.step, current, Stage.script, readingScript, performEvent, fails]
  | false =>
    cases row : world.row with
    | none =>
      apply stops_sound (.reading now) sound current rfl
      simp [EventWorld.step, current, Stage.script, readingScript, performEvent, fails, row]
    | some existing =>
      cases status : existing.status with
      | processed =>
        have duplicate : world.step (.advance number turn) = world.withDelivery number
            { startedAt, script := some (Stage.concluded .received).script } := by
          simp [EventWorld.step, current, Stage.script, readingScript, performEvent, fails,
            row, status]
        rw [duplicate]
        apply quiet_sound (.reading now) (.concluded .received) sound current rfl
          (fun completed => completed) (fun runs => by cases runs)
        intro later _ same _
        exact same.trans (sound.processed existing row status)
      | failed =>
        have reclaims : world.step (.advance number turn) = world.withDelivery number
            { startedAt, script := some (Stage.reclaiming now existing).script } := by
          simp [EventWorld.step, current, Stage.script, readingScript, performEvent, fails,
            row, status]
        rw [reclaims]
        apply quiet_sound (.reading now) (.reclaiming now existing) sound current rfl
          (fun completed => completed) (fun runs => by cases runs)
        intro later same _ earlier
        refine ⟨late, by rw [same, row]; rfl, ?_⟩
        intro runner other runs _
        -- who runs holds the row as processing
        have ⟨held, found, processing, _⟩ := running_limited sound (earlier runner runs)
        rw [row] at found
        cases found
        rw [status] at processing
        cases processing
      | processing =>
        have ages : world.step (.advance number turn) = world.withDelivery number
            { startedAt, script := some (Stage.aging now existing).script } := by
          simp [EventWorld.step, current, Stage.script, readingScript, performEvent, fails,
            row, status]
        rw [ages]
        apply quiet_sound (.reading now) (.aging now existing) sound current rfl
          (fun completed => completed) (fun runs => by cases runs)
        intro later same _ _
        exact ⟨late, by rw [same, row]; rfl⟩

theorem age_sound {existing : EventRow} (current : world.deliveries[number]? =
      some { startedAt, script := some (Stage.aging now existing).script })
    (fits : (Stage.aging now existing).Fits world startedAt)
    (stale : existing.updatedAt + processingStaleAfterMs ≤ world.clock) :
    EventsSound (world.step (.advance number turn)) := by
  have old : ¬world.clock - existing.updatedAt < processingStaleAfterMs := by omega
  have reclaims : world.step (.advance number turn) = world.withDelivery number
      { startedAt, script := some (Stage.reclaiming now existing).script } := by
    simp [EventWorld.step, current, Stage.script, agingScript, performEvent, old]
  rw [reclaims]
  apply quiet_sound (.aging now existing) (.reclaiming now existing) sound current rfl
    (fun completed => completed) (fun runs => by cases runs)
  intro later same _ earlier
  refine ⟨fits.1, by rw [same]; exact fits.2, ?_⟩
  intro runner row runs found isSeen
  have ⟨held, isHeld, _, limited⟩ := running_limited sound (earlier runner runs)
  rw [same, isHeld] at found
  cases found
  omega

theorem reclaim_sound {existing : EventRow} (current : world.deliveries[number]? =
      some { startedAt, script := some (Stage.reclaiming now existing).script })
    (fits : (Stage.reclaiming now existing).Fits world startedAt)
    (apart : turn.fails = false →
      (world.row.any fun row => row.reclaimable existing.updatedAt) = true →
        ∀ delivery ∈ world.deliveries.eraseIdx number, delivery.compares now = false) :
    EventsSound (world.step (.advance number turn)) := by
  cases fails : turn.fails with
  | true =>
    apply stops_sound (.reclaiming now existing) sound current rfl
    simp [EventWorld.step, current, Stage.script, reclaimingScript, performEvent, fails]
  | false =>
    cases selects : world.row.any fun row => row.reclaimable existing.updatedAt with
    | false =>
      have lost : world.step (.advance number turn) = world.withDelivery number
          { startedAt, script := some Stage.rereading.script } := by
        simp [EventWorld.step, current, Stage.script, reclaimingScript, performEvent, fails,
          selects]
      rw [lost]
      exact quiet_sound (.reclaiming now existing) .rereading sound current rfl
        (fun completed => completed) (fun runs => by cases runs) (fun _ _ _ _ => trivial)
    | true =>
      have taken : world.step (.advance number turn) =
          (world.withRow { status := .processing, updatedAt := now }).withDelivery number
            { startedAt, script := some Stage.handling.script } := by
        simp [EventWorld.step, current, Stage.script, reclaimingScript, performEvent, fails,
          selects]
      rw [taken]
      apply taken_sound (.reclaiming now existing) sound current rfl fits.1
      · intro runner runs
        have ⟨held, isHeld, _, _⟩ := running_limited sound runs
        have same : held.updatedAt = existing.updatedAt := by
          rw [isHeld] at selects
          simp only [Option.any_some, EventRow.reclaimable, Bool.and_eq_true,
            beq_iff_eq] at selects
          exact selects.1
        exact fits.2.2 runner held runs isHeld same
      · intro other there later seen isScript _ same
        have unequal := apart fails selects other there
        simp [Delivery.compares, isScript, Stage.script, reclaimingScript, same] at unequal

theorem reread_sound (current : world.deliveries[number]? =
      some { startedAt, script := some Stage.rereading.script })
    (finished : turn.fails = false →
      (world.row.any fun row => row.status == .processed) = true) :
    EventsSound (world.step (.advance number turn)) := by
  cases fails : turn.fails with
  | true =>
    apply stops_sound .rereading sound current rfl
    simp [EventWorld.step, current, Stage.script, rereadingScript, performEvent, fails]
  | false =>
    have received : world.step (.advance number turn) = world.withDelivery number
        { startedAt, script := some (Stage.concluded .received).script } := by
      simp [EventWorld.step, current, Stage.script, rereadingScript, performEvent, fails]
    rw [received]
    apply quiet_sound .rereading (.concluded .received) sound current rfl
      (fun completed => completed) (fun runs => by cases runs)
    intro later _ same _
    have processed := finished fails
    cases row : world.row with
    | none => simp [row] at processed
    | some held =>
      simp only [row, Option.any_some, beq_iff_eq] at processed
      exact same.trans (sound.processed held row processed)

theorem handle_sound (current : world.deliveries[number]? =
      some { startedAt, script := some Stage.handling.script }) :
    EventsSound (world.step (.advance number turn)) := by
  cases fails : turn.fails with
  | true =>
    have threw : world.step (.advance number turn) =
        world.withDelivery number { startedAt, script := some Stage.threw.script } := by
      simp [EventWorld.step, current, Stage.script, handlingScript, performEvent, fails]
    rw [threw]
    exact quiet_sound .handling .threw sound current rfl
      (fun completed => completed) (fun _ => rfl) (fun _ _ _ _ => trivial)
  | false =>
    have handled : world.step (.advance number turn) =
        ({ world with completed := true } : EventWorld).withDelivery number
          { startedAt, script := some Stage.handled.script } := by
      simp [EventWorld.step, current, Stage.script, handlingScript, performEvent, fails]
    rw [handled]
    apply quiet_sound .handling .handled sound current rfl (fun _ => rfl) (fun _ => rfl)
    intro later _ same _
    exact same

theorem mark_processed_sound (current : world.deliveries[number]? =
      some { startedAt, script := some (Stage.markingProcessed now).script })
    (completed : world.completed = true) : EventsSound (world.step (.advance number turn)) := by
  cases fails : turn.fails with
  | true =>
    have threw : world.step (.advance number turn) =
        world.withDelivery number { startedAt, script := some Stage.threw.script } := by
      simp [EventWorld.step, current, Stage.script, processedScript, performEvent, fails]
    rw [threw]
    exact quiet_sound (.markingProcessed now) .threw sound current rfl
      (fun completed => completed) (fun _ => rfl) (fun _ _ _ _ => trivial)
  | false =>
    have marked : world.step (.advance number turn) =
        (world.mark .processed now).withDelivery number
          { startedAt, script := some (Stage.concluded .received).script } := by
      simp [EventWorld.step, current, Stage.script, processedScript, performEvent, fails]
    rw [marked]
    exact marked_sound (.markingProcessed now) sound current rfl (fun _ => completed)
      (fun _ => completed)

theorem mark_failed_sound (current : world.deliveries[number]? =
      some { startedAt, script := some (Stage.markingFailed now).script }) :
    EventsSound (world.step (.advance number turn)) := by
  cases fails : turn.fails with
  | true =>
    apply stops_sound (.markingFailed now) sound current rfl
    simp [EventWorld.step, current, Stage.script, failingScript, performEvent, fails]
  | false =>
    have marked : world.step (.advance number turn) =
        (world.mark .failed now).withDelivery number
          { startedAt, script := some (Stage.concluded .failed).script } := by
      simp [EventWorld.step, current, Stage.script, failingScript, performEvent, fails]
    rw [marked]
    exact marked_sound (.markingFailed now) sound current rfl (fun impossible => by cases impossible)
      (fun impossible => by cases impossible)

end

theorem clock_sound (stage next : Stage) (sound : EventsSound world)
    (current : world.deliveries[number]? = some { startedAt, script := some stage.script })
    (unfinished : isOver stage.script = false)
    (runs : next.running = true → stage.running = true)
    (fits : ∀ later : EventWorld, later.completed = world.completed →
      next.Fits later startedAt)
    (read : world.step (.advance number turn) =
      world.withDelivery number { startedAt, script := some next.script }) :
    EventsSound (world.step (.advance number turn)) := by
  rw [read]
  apply quiet_sound stage next sound current unfinished (fun completed => completed) runs
  intro later _ same _
  exact fits later same

theorem advance_sound (sound : EventsSound world)
    (kept : DeliveriesKept world (.advance number turn)) :
    EventsSound (world.step (.advance number turn)) := by
  cases current : world.deliveries[number]? with
  | none => simpa [EventWorld.step, current] using sound
  | some delivery =>
    have ⟨startedAt, script⟩ := delivery
    cases script with
    | none => simpa [EventWorld.step, current] using sound
    | some script =>
      have there := List.mem_of_getElem? current
      have ⟨stage, isScript, fits⟩ := sound.staged _ there script rfl
      have started : startedAt ≤ world.clock := sound.started _ there
      change stage.Fits world startedAt at fits
      subst isScript
      cases stage with
      | begun =>
        apply clock_sound .begun (.inserting world.clock) sound current rfl
          (fun runs => by cases runs) (fun _ _ => started)
        simp [EventWorld.step, current, Stage.script, performEvent]
      | inserting now => exact insert_sound sound current fits
      | reading now => exact read_sound sound current fits
      | aging now existing =>
        apply age_sound sound current fits
        simpa [DeliveriesKept, current, Stage.script, agingScript, EventCall.Admitted] using kept
      | reclaiming now existing =>
        apply reclaim_sound sound current fits
        simpa [DeliveriesKept, current, Stage.script, reclaimingScript, EventCall.Admitted] using kept
      | rereading =>
        apply reread_sound sound current
        simpa [DeliveriesKept, current, Stage.script, rereadingScript, EventCall.Admitted] using kept
      | handling => exact handle_sound sound current
      | handled =>
        apply clock_sound .handled (.markingProcessed world.clock) sound current rfl
          (fun _ => rfl) (fun _ same => same.trans fits)
        simp [EventWorld.step, current, Stage.script, handledScript, performEvent]
      | markingProcessed now => exact mark_processed_sound sound current fits
      | threw =>
        apply clock_sound .threw (.markingFailed world.clock) sound current rfl
          (fun _ => rfl) (fun _ _ => trivial)
        simp [EventWorld.step, current, Stage.script, threwScript, performEvent]
      | markingFailed now => exact mark_failed_sound sound current
      | concluded answer => simpa [EventWorld.step, current, Stage.script] using sound

theorem passing_sound (sound : EventsSound world) (later : EventWorld)
    (sameRow : later.row = world.row) (sameCompleted : later.completed = world.completed)
    (runs : ∀ runner, Runs later runner → Runs world runner) (each : ∀ delivery ∈ later.deliveries,
      delivery.startedAt ≤ later.clock ∧
        (delivery.script.all isOver = false →
          later.clock < delivery.startedAt + processingStaleAfterMs) ∧
        ∀ script, delivery.script = some script →
          delivery ∈ world.deliveries ∨ script = Stage.begun.script) :
    EventsSound later := by
  constructor
  · intro delivery there
    exact (each delivery there).1
  · intro delivery there
    exact (each delivery there).2.1
  · intro delivery there script isScript
    cases (each delivery there).2.2 script isScript with
    | inr isBegun => exact ⟨.begun, isBegun, trivial⟩
    | inl older =>
      have ⟨stage, isStage, fits⟩ := sound.staged delivery older script isScript
      refine ⟨stage, isStage, ?_⟩
      apply fits_moves fits
      · intro completed
        exact sameCompleted.trans completed
      · intro isSome
        rw [sameRow]
        exact isSome
      · intro now existing isReclaiming runner row running found
        subst isReclaiming
        exact fits.2.2 runner row (runs runner running) (sameRow.symm.trans found)
  · intro delivery there running
    have ⟨runner, at'⟩ := List.getElem?_of_mem there
    rw [sameRow]
    cases script : delivery.script with
    | none => simp [Delivery.running, script] at running
    | some held =>
      cases (each delivery there).2.2 held script with
      | inl older => exact sound.locked delivery older running
      | inr isBegun =>
        subst isBegun
        simp [Delivery.running, script, Stage.script] at running
  · intro first second firstRuns secondRuns
    exact sound.alone first second (runs first firstRuns) (runs second secondRuns)
  · intro row found status
    exact sameCompleted.trans (sound.processed row (sameRow.symm.trans found) status)

theorem deliver_sound (sound : EventsSound world) : EventsSound (world.step .deliver) := by
  unfold EventWorld.step
  dsimp only
  split
  · exact sound
  · apply passing_sound sound
    · rfl
    · rfl
    · intro runner runs
      have ⟨delivery, at', running⟩ := runs
      dsimp only at at'
      rw [List.getElem?_append] at at'
      split at at'
      · exact ⟨delivery, at', running⟩
      · simp only [List.getElem?_singleton, Option.ite_none_right_eq_some] at at'
        have isNew := at'.2
        cases isNew
        rw [post_script] at running
        cases running
    · intro delivery there
      dsimp only at there ⊢
      cases List.mem_append.mp there with
      | inl older =>
        exact ⟨sound.started delivery older, sound.limited delivery older,
          fun _ _ => .inl older⟩
      | inr isNew =>
        rw [List.mem_singleton] at isNew
        subst isNew
        have positive : 0 < processingStaleAfterMs := by decide
        constructor
        · exact Int.le_refl _
        · constructor
          · intro _
            dsimp only
            omega
          · intro script isScript
            cases isScript
            exact .inr post_script

theorem die_sound (sound : EventsSound world) : EventsSound (world.step (.die number)) := by
  unfold EventWorld.step
  dsimp only
  split
  · rename_i delivery current
    split
    · exact sound
    · have own := List.mem_of_getElem? current
      apply passing_sound sound
      · rfl
      · rfl
      · intro runner runs
        cases runs_with runs with
        | inl isOwn => cases isOwn.2
        | inr other => exact other.2
      · intro other there
        cases mem_with there with
        | inl isDead =>
          subst isDead
          constructor
          · exact sound.started delivery own
          · constructor
            · intro unfinished
              cases unfinished
            · intro script isScript
              cases isScript
        | inr older =>
          have held := List.mem_of_mem_eraseIdx older
          exact ⟨sound.started other held, sound.limited other held, fun _ _ => .inl held⟩
  · exact sound

theorem limited_cases (delivery : Delivery) (clock : Int) :
    (delivery.limited clock = delivery ∧ (delivery.script.all isOver = false →
      clock < delivery.startedAt + processingStaleAfterMs)) ∨
    delivery.limited clock = { delivery with script := none } := by
  unfold Delivery.limited
  split
  · exact .inr rfl
  · rename_i within
    left
    constructor
    · rfl
    · intro unfinished
      by_contra reached
      exact within ⟨unfinished, by omega⟩

theorem wait_sound (sound : EventsSound world) (elapsed : Nat) :
    EventsSound (world.step (.wait elapsed)) := by
  apply passing_sound sound
  · rfl
  · rfl
  · intro runner runs
    have ⟨delivery, at', running⟩ := runs
    simp only [EventWorld.step, List.getElem?_map, Option.map_eq_some_iff] at at'
    have ⟨held, isHeld, isDelivery⟩ := at'
    cases limited_cases held (world.clock + elapsed) with
    | inl alive =>
      rw [alive.1] at isDelivery
      subst isDelivery
      exact ⟨held, isHeld, running⟩
    | inr stopped =>
      rw [stopped] at isDelivery
      subst isDelivery
      cases running
  · intro delivery there
    simp only [EventWorld.step, List.mem_map] at there ⊢
    have ⟨held, older, isDelivery⟩ := there
    have started := sound.started held older
    cases limited_cases held (world.clock + elapsed) with
    | inl alive =>
      rw [alive.1] at isDelivery
      subst isDelivery
      constructor
      · omega
      · exact ⟨alive.2, fun _ _ => .inl older⟩
    | inr stopped =>
      rw [stopped] at isDelivery
      subst isDelivery
      constructor
      · dsimp only
        omega
      · constructor
        · intro unfinished
          cases unfinished
        · intro script isScript
          cases isScript

theorem step_sound (world : EventWorld) (event : DeliveryEvent)
    (kept : DeliveriesKept world event) (sound : EventsSound world) :
    EventsSound (world.step event) := by
  cases event with
  | deliver => exact deliver_sound sound
  | advance number turn => exact advance_sound sound kept
  | die number => exact die_sound sound
  | wait elapsed => exact wait_sound sound elapsed

/-! ## A processed event -/

def Processed (world : EventWorld) : Prop :=
  ∃ row, world.row = some row ∧ row.status = .processed

theorem processed_idle (sound : EventsSound world) (processed : Processed world)
    (runner : Nat) : ¬Runs world runner := by
  intro runs
  have ⟨row, found, status⟩ := processed
  have ⟨held, isHeld, processing, _⟩ := running_limited sound runs
  rw [found] at isHeld
  cases isHeld
  rw [status] at processing
  cases processing

theorem perform_processed (sound : EventsSound world) {call : EventCall}
    {next : call.Reply → EventScript Answer}
    (current : world.deliveries[number]? = some { startedAt, script := some (.call call next) })
    (processed : Processed world) : (performEvent call turn world).1.row = world.row := by
  have ⟨row, found, status⟩ := processed
  have idle : ({ startedAt, script := some (.call call next) } : Delivery).running = false := by
    by_contra running
    rw [Bool.not_eq_false] at running
    exact processed_idle sound processed number ⟨_, current, running⟩
  cases call with
  | readClock | readEvent | readAge updatedAt | rereadEvent | readMarkClock => rfl
  | insert now => cases fails : turn.fails <;> simp [performEvent, fails, found]
  | reclaim now seen =>
    cases fails : turn.fails <;>
      simp [performEvent, fails, found, EventRow.reclaimable, status]
  | handle | markProcessed now | markFailed now => cases idle

theorem step_processed (world : EventWorld) (event : DeliveryEvent) (sound : EventsSound world)
    (processed : Processed world) : Processed (world.step event) := by
  cases event with
  | deliver =>
    unfold EventWorld.step
    dsimp only
    split
    · exact processed
    · exact processed
  | wait elapsed => exact processed
  | die number =>
    unfold EventWorld.step
    dsimp only
    split
    · split
      · exact processed
      · exact processed
    · exact processed
  | advance number turn =>
    unfold EventWorld.step
    dsimp only
    split
    · rename_i startedAt call next current
      obtain ⟨row, found, status⟩ := id processed
      exact ⟨row, (perform_processed sound current processed).trans found, status⟩
    · exact processed

end Steps

structure Settled (world : EventWorld) : Prop where
  sound : EventsSound world
  processed : Processed world

theorem step_settled (world : EventWorld) (event : DeliveryEvent)
    (kept : DeliveriesKept world event) (settled : Settled world) : Settled (world.step event) := by
  constructor
  · exact step_sound world event kept settled.sound
  · exact step_processed world event settled.sound settled.processed

/-! ## Every run -/

theorem undelivered_sound (clock : Int) : EventsSound (EventWorld.undelivered clock) := by
  constructor
  · intro delivery there
    cases there
  · intro delivery there
    cases there
  · intro delivery there
    cases there
  · intro delivery there
    cases there
  · intro first second runs
    have ⟨_, at', _⟩ := runs
    cases at'
  · intro row found
    cases found

theorem acknowledged_completed {world : EventWorld} (sound : EventsSound world)
    (acknowledged : (world.deliveries.any Delivery.acknowledged) = true) :
    world.completed = true := by
  rw [List.any_eq_true] at acknowledged
  have ⟨delivery, there, received⟩ := acknowledged
  unfold Delivery.acknowledged at received
  split at received
  · rename_i isScript
    have ⟨stage, isStage, fits⟩ := sound.staged delivery there _ isScript
    cases stage_over stage with
    | inl unfinished =>
      rw [← isStage] at unfinished
      cases unfinished
    | inr concluded =>
      have ⟨answer, isOver⟩ := concluded
      subst isOver
      cases isStage
      exact fits
  · cases received

/-- In every history of deliveries that keeps to the condition: an acknowledged event has been
handled, one run is alive at most, and none is once the event is marked processed. -/
theorem acknowledged_is_processed (clock : Int) (early late : List DeliveryEvent)
    (kept : Meets EventWorld.step DeliveriesKept (EventWorld.undelivered clock)
      (early ++ late)) :
    (((EventWorld.undelivered clock).after early).deliveries.any Delivery.acknowledged = true →
      ((EventWorld.undelivered clock).after early).completed = true) ∧
    (∀ first second, Runs ((EventWorld.undelivered clock).after early) first →
      Runs ((EventWorld.undelivered clock).after early) second → first = second) ∧
    (Processed ((EventWorld.undelivered clock).after early) →
      ∀ runner, ¬Runs ((EventWorld.undelivered clock).after (early ++ late)) runner) := by
  have ⟨keptEarly, keptLate⟩ := meets_append kept
  have sound : EventsSound ((EventWorld.undelivered clock).after early) :=
    meets_keeps keptEarly (undelivered_sound clock) step_sound
  refine ⟨acknowledged_completed sound, sound.alone, ?_⟩
  intro processed runner
  have settled : Settled ((EventWorld.undelivered clock).after (early ++ late)) := by
    unfold EventWorld.after
    rw [List.foldl_append]
    exact meets_keeps keptLate ⟨sound, processed⟩ step_settled
  exact processed_idle settled.sound settled.processed runner

def EventTurn.succeeds : EventTurn := { fails := false }

def handledEarly : List DeliveryEvent :=
  [.deliver, .deliver, .advance 0 .succeeds, .advance 0 .succeeds, .advance 1 .succeeds,
    .advance 1 .succeeds, .advance 0 .succeeds, .advance 0 .succeeds, .advance 0 .succeeds]

def readLate : List DeliveryEvent := [.wait 5, .advance 1 .succeeds]

theorem second_delivery_duplicate :
    (((EventWorld.undelivered 0).after handledEarly).deliveries.any Delivery.acknowledged = true →
      ((EventWorld.undelivered 0).after handledEarly).completed = true) ∧
    (∀ first second, Runs ((EventWorld.undelivered 0).after handledEarly) first →
      Runs ((EventWorld.undelivered 0).after handledEarly) second → first = second) ∧
    (Processed ((EventWorld.undelivered 0).after handledEarly) →
      ∀ runner, ¬Runs ((EventWorld.undelivered 0).after (handledEarly ++ readLate)) runner) :=
  acknowledged_is_processed 0 handledEarly readLate (by decide +kernel)

/-- The second delivery is answered that the first is still processing; then the first dies. -/
def diesAfterAnswer : List DeliveryEvent :=
  [.deliver, .advance 0 .succeeds, .advance 0 .succeeds, .deliver, .advance 1 .succeeds,
    .advance 1 .succeeds, .advance 1 .succeeds, .advance 1 .succeeds, .die 0]

theorem acknowledged_unhandled : ((EventWorld.undelivered 0).after diesAfterAnswer).deliveries.any
        Delivery.acknowledged = true ∧
      ((EventWorld.undelivered 0).after diesAfterAnswer).deliveries.any
        Delivery.running = false ∧
      ((EventWorld.undelivered 0).after diesAfterAnswer).completed = false := by
  decide +kernel

end Hivra.StripeEvents
