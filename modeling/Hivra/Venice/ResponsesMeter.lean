import Mathlib.Algebra.BigOperators.Group.Finset.Basic
import Mathlib.Algebra.BigOperators.Group.Finset.Piecewise
import Hivra.Venice.OutputMeter

/-!
# Output of a Responses stream

The meter credits each part of an output item and each item with what its events showed: the
deltas as they come, a closing event only with what it adds to them.
-/

namespace Hivra.Venice

open Hivra.Library
open Hivra.Library.Json

def responsesTextKeys : List String := ["text", "arguments", "input", "refusal"]

mutual

def responsesOutputText (depth : Nat) : Json → List Char
  | .array items => if 8 < depth then [] else responsesItemTexts (depth + 1) items
  | .object members => if 8 < depth then [] else responsesMemberTexts (depth + 1) members
  | _ => []

def responsesItemTexts (depth : Nat) : List Json → List Char
  | [] => []
  | item :: items => responsesOutputText depth item ++ responsesItemTexts depth items

def responsesMemberTexts (depth : Nat) : List (String × Json) → List Char
  | [] => []
  | (key, .string text) :: members =>
    (if responsesTextKeys.contains key then text.toList else []) ++
      responsesMemberTexts depth members
  | (_, child) :: members => responsesOutputText depth child ++ responsesMemberTexts depth members

end

/-- The final text of a `.done` event. -/
def responsesDoneText (event : Json) : Option String :=
  responsesTextKeys.findSome? fun key => stringMember key event

/-- `String(value ?? "")`. -/
def textOrEmpty (value : Option Json) : List Char :=
  match value with
  | none => []
  | some .null => []
  | some value => value.text

def present (value : Option Json) : Option Json := value.filter fun value => !value.isNull

def responsesItemKey (event : Json) : List Char :=
  match stringMember "item_id" event with
  | some item => item.toList
  | none => '#' :: textOrEmpty (event.member? "output_index")

def responsesPartText (event : Json) : List Char :=
  textOrEmpty ((present (event.member? "content_index")).or (event.member? "summary_index"))

def responsesPartKey (event : Json) (family : List Char) : List Char :=
  responsesItemKey event ++ '|' :: (responsesPartText event ++ '|' :: family)

inductive ResponsesEvent
  | delta (item part text : List Char)
  | done (item part text : List Char)
  | itemDone (item : List Char) (units : Nat)

def readResponsesEvent (event : Json) : Option ResponsesEvent :=
  match stringMember "type" event with
  | none => none
  | some type =>
    let type := type.toList
    if type = "response.output_item.done".toList then
      ((event.member? "item").filter Json.isRecord).map fun item =>
        .itemDone (((stringMember "id" item).map String.toList).getD (responsesItemKey event))
          (quarterTokens (responsesOutputText 0 item))
    else if ".delta".toList.isSuffixOf type then
      (stringMember "delta" event).map fun delta =>
        .delta (responsesItemKey event)
          (responsesPartKey event (type.take (type.length - 6))) delta.toList
    else if ".done".toList.isSuffixOf type then
      (responsesDoneText event).map fun text =>
        .done (responsesItemKey event)
          (responsesPartKey event (type.take (type.length - 5))) text.toList
    else none

structure ResponsesMeter where
  tally : OutputTally
  countedByPart : List Char → Nat
  countedByItem : List Char → Nat

def freshMeter : ResponsesMeter :=
  { tally := noOutput, countedByPart := fun _ => 0, countedByItem := fun _ => 0 }

/-- `credit`: the count of one key is raised. -/
def credit (counted : List Char → Nat) (key : List Char) (units : Nat) : List Char → Nat :=
  fun other => if other = key then counted other + units else counted other

/-- `countExtra`: more of a text that was counted before. -/
def OutputTally.countExtra (tally : OutputTally) (units : Nat) : OutputTally :=
  if units = 0 then tally
  else
    { textFrames := tally.textFrames + 1
      textQuarterTokens := tally.textQuarterTokens + units }

def ResponsesMeter.observe (meter : ResponsesMeter) : ResponsesEvent → ResponsesMeter
  | .delta item part text =>
    { tally := meter.tally.count text
      countedByPart := credit meter.countedByPart part (quarterTokens text)
      countedByItem := credit meter.countedByItem item (quarterTokens text) }
  | .done item part text =>
    let extra := quarterTokens text - meter.countedByPart part
    { tally := meter.tally.countExtra extra
      countedByPart := credit meter.countedByPart part extra
      countedByItem := credit meter.countedByItem item extra }
  | .itemDone item units =>
    { meter with
      tally := meter.tally.countExtra (units - meter.countedByItem item)
      countedByItem := fun other =>
        if other = item then max units (meter.countedByItem item)
        else meter.countedByItem other }

def observeResponsesEvent (meter : ResponsesMeter) (event : Json) : ResponsesMeter :=
  match readResponsesEvent event with
  | some event => meter.observe event
  | none => meter

namespace ResponsesEvent

def part? : ResponsesEvent → Option (List Char × List Char)
  | .delta item part _ => some (item, part)
  | .done item part _ => some (item, part)
  | .itemDone _ _ => none

def item : ResponsesEvent → List Char
  | .delta item _ _ => item
  | .done item _ _ => item
  | .itemDone item _ => item

def deltaUnits (part : List Char) : ResponsesEvent → Nat
  | .delta _ other text => if other = part then quarterTokens text else 0
  | _ => 0

def doneUnits (part : List Char) : ResponsesEvent → Nat
  | .done _ other text => if other = part then quarterTokens text else 0
  | _ => 0

def itemUnits (item : List Char) : ResponsesEvent → Nat
  | .itemDone other units => if other = item then units else 0
  | _ => 0

def itemDoneLast : ResponsesEvent → ResponsesEvent → Bool
  | .itemDone item _, .delta other _ _ => item != other
  | .itemDone item _, .done other _ _ => item != other
  | _, _ => true

def doneAfterDeltas : ResponsesEvent → ResponsesEvent → Bool
  | .done _ part _, .delta _ other _ => part != other
  | _, _ => true

end ResponsesEvent

open ResponsesEvent

def largest (units : List Nat) : Nat := units.foldr max 0

def partWeight (events : List ResponsesEvent) (part : List Char) : Nat :=
  max (events.map (deltaUnits part)).sum (largest (events.map (doneUnits part)))

def partsOf (events : List ResponsesEvent) (item : List Char) : Finset (List Char) :=
  ((events.filterMap part?).filterMap fun entry =>
    if entry.1 = item then some entry.2 else none).toFinset

def itemWeight (events : List ResponsesEvent) (item : List Char) : Nat :=
  max (largest (events.map (itemUnits item)))
    (∑ part ∈ partsOf events item, partWeight events part)

def meterOf (events : List ResponsesEvent) : ResponsesMeter :=
  events.foldl ResponsesMeter.observe freshMeter

def itemsOf (events : List ResponsesEvent) : Finset (List Char) := (events.map item).toFinset

section Weights

variable {events : List ResponsesEvent} {event : ResponsesEvent}

@[simp]
theorem largest_append (units : List Nat) (next : Nat) :
    largest (units ++ [next]) = max (largest units) next := by
  induction units with
  | nil => simp [largest]
  | cons first units ih =>
    unfold largest at ih ⊢
    simp only [List.cons_append, List.foldr_cons, ih]
    omega

theorem largest_zero {units : List Nat} (none : ∀ next ∈ units, next = 0) : largest units = 0 := by
  induction units with
  | nil => rfl
  | cons first units ih =>
    have rest := ih fun next member => none next (List.mem_cons_of_mem _ member)
    unfold largest at rest ⊢
    simp [rest, none first List.mem_cons_self]

theorem part_weight_append (part : List Char) : partWeight (events ++ [event]) part =
      max ((events.map (deltaUnits part)).sum + deltaUnits part event)
        (max (largest (events.map (doneUnits part))) (doneUnits part event)) := by
  simp [partWeight]

theorem mem_parts_of {item part : List Char} :
    part ∈ partsOf events item ↔ ∃ event ∈ events, event.part? = some (item, part) := by
  simp [partsOf, List.mem_filterMap]

theorem units_of_other {part : List Char} (apart : ∀ item, event.part? ≠ some (item, part)) :
    deltaUnits part event = 0 ∧ doneUnits part event = 0 := by
  cases event <;> simp_all [ResponsesEvent.part?, deltaUnits, doneUnits]

theorem part_weight_zero {part : List Char}
    (none : ∀ event ∈ events, ∀ item, event.part? ≠ some (item, part)) :
    partWeight events part = 0 := by
  have deltas : (events.map (deltaUnits part)).sum = 0 := by
    apply List.sum_eq_zero
    intro units member
    have ⟨event, there, same⟩ := List.mem_map.mp member
    rw [← same]
    exact (units_of_other (none event there)).1
  have dones : largest (events.map (doneUnits part)) = 0 := by
    apply largest_zero
    intro units member
    have ⟨event, there, same⟩ := List.mem_map.mp member
    rw [← same]
    exact (units_of_other (none event there)).2
  rw [partWeight, deltas, dones, max_self]

theorem item_weight_zero {item : List Char} (none : ∀ event ∈ events, event.item ≠ item) :
    itemWeight events item = 0 := by
  have dones : largest (events.map (itemUnits item)) = 0 := by
    apply largest_zero
    intro units member
    have ⟨event, there, same⟩ := List.mem_map.mp member
    have apart := none event there
    rw [← same]
    cases event <;> simp_all [itemUnits, ResponsesEvent.item]
  have parts : partsOf events item = ∅ := by
    apply Finset.eq_empty_of_forall_notMem
    intro part member
    have ⟨event, there, isPart⟩ := mem_parts_of.mp member
    have apart := none event there
    cases event <;> simp_all [ResponsesEvent.part?, ResponsesEvent.item]
  rw [itemWeight, dones, parts, Finset.sum_empty, max_self]

theorem total_gain {units : Nat} (gains : ∀ item, itemWeight (events ++ [event]) item =
      itemWeight events item + if item = event.item then units else 0) :
    ∑ item ∈ itemsOf (events ++ [event]), itemWeight (events ++ [event]) item =
      (∑ item ∈ itemsOf events, itemWeight events item) + units := by
  have grown : itemsOf (events ++ [event]) = insert event.item (itemsOf events) := by
    ext item
    simp [itemsOf]
  have unseen : event.item ∉ itemsOf events → itemWeight events event.item = 0 := by
    intro absent
    apply item_weight_zero
    intro other there same
    exact absent (List.mem_toFinset.mpr (List.mem_map.mpr ⟨other, there, same⟩))
  rw [grown, Finset.sum_congr rfl fun item _ => gains item, Finset.sum_add_distrib,
    Finset.sum_insert_of_eq_zero_if_notMem unseen]
  simp

theorem item_gain {owner : List Char → List Char} {item part : List Char} {units : Nat}
    (owned : ∀ other ∈ events ++ [event], ∀ entry, other.part? = some entry →
      owner entry.2 = entry.1)
    (isPart : event.part? = some (item, part)) (open_ : largest (events.map (itemUnits item)) = 0)
    (gains : ∀ other, partWeight (events ++ [event]) other =
      partWeight events other + if other = part then units else 0) (other : List Char) :
    itemWeight (events ++ [event]) other =
      itemWeight events other + if other = item then units else 0 := by
  have whose : owner part = item :=
    owned event (List.mem_append_right _ List.mem_cons_self) _ isPart
  have marks : itemUnits other event = 0 := by
    cases event <;> simp_all [ResponsesEvent.part?, itemUnits]
  have isOwner {held : List Char} (member : held ∈ partsOf events other) : owner held = other := by
    have ⟨old, there, isHeld⟩ := mem_parts_of.mp member
    exact owned old (List.mem_append_left _ there) _ isHeld
  have grown : partsOf (events ++ [event]) other =
      if other = item then insert part (partsOf events other) else partsOf events other := by
    ext held
    rw [mem_parts_of]
    split_ifs with same
    · simp [mem_parts_of, isPart, same, or_comm, eq_comm]
    · simp [mem_parts_of, isPart, Ne.symm same]
  have dones : largest ((events ++ [event]).map (itemUnits other)) =
      largest (events.map (itemUnits other)) := by
    simp [marks]
  unfold itemWeight
  rw [dones, grown, Finset.sum_congr rfl fun held _ => gains held, Finset.sum_add_distrib]
  by_cases same : other = item
  · have unseen : part ∉ partsOf events other → partWeight events part = 0 := by
      intro absent
      apply part_weight_zero
      intro old there whoever isOld
      have owns := owned old (List.mem_append_left _ there) _ isOld
      simp only at owns
      rw [whose] at owns
      rw [← owns] at isOld
      exact absent (mem_parts_of.mpr ⟨old, there, same ▸ isOld⟩)
    rw [if_pos same, if_pos same, Finset.sum_insert_of_eq_zero_if_notMem unseen]
    subst same
    simp [open_]
  · have away : part ∉ partsOf events other := fun member =>
      same ((isOwner member).symm.trans whose)
    rw [if_neg same, if_neg same]
    simp [away]

end Weights

@[simp]
theorem count_quarter_tokens (tally : OutputTally) (text : List Char) :
    (tally.count text).textQuarterTokens = tally.textQuarterTokens + quarterTokens text := by
  unfold OutputTally.count
  split_ifs with empty
  · simp [empty, quarterTokens]
  · rfl

@[simp]
theorem count_extra_quarter_tokens (tally : OutputTally) (units : Nat) :
    (tally.countExtra units).textQuarterTokens = tally.textQuarterTokens + units := by
  unfold OutputTally.countExtra
  split_ifs with none
  · simp [none]
  · rfl

structure Credited (events : List ResponsesEvent) (meter : ResponsesMeter) : Prop where
  parts : ∀ part, meter.countedByPart part = partWeight events part
  items : ∀ item, meter.countedByItem item = itemWeight events item
  total : meter.tally.textQuarterTokens = ∑ item ∈ itemsOf events, itemWeight events item

theorem observe_credited {owner : List Char → List Char} {events : List ResponsesEvent}
    {event : ResponsesEvent} {meter : ResponsesMeter}
    (owned : ∀ other ∈ events ++ [event], ∀ entry, other.part? = some entry →
      owner entry.2 = entry.1)
    (itemsLast : ∀ earlier ∈ events, itemDoneLast earlier event = true)
    (deltasFirst : ∀ earlier ∈ events, doneAfterDeltas earlier event = true)
    (credited : Credited events meter) : Credited (events ++ [event]) (meter.observe event) := by
  have stillOpen {item part : List Char} (isPart : event.part? = some (item, part)) :
      largest (events.map (itemUnits item)) = 0 := by
    apply largest_zero
    intro units member
    have ⟨old, there, same⟩ := List.mem_map.mp member
    have precedes := itemsLast old there
    rw [← same]
    cases old <;> cases event <;> simp_all [itemUnits, itemDoneLast, ResponsesEvent.part?]
  cases event with
  | delta item part text =>
    have closed : largest (events.map (doneUnits part)) = 0 := by
      apply largest_zero
      intro units member
      have ⟨old, there, same⟩ := List.mem_map.mp member
      have precedes := deltasFirst old there
      rw [← same]
      cases old <;> simp_all [doneUnits, doneAfterDeltas]
    have gains (other : List Char) :
        partWeight (events ++ [.delta item part text]) other =
          partWeight events other + if other = part then quarterTokens text else 0 := by
      rw [part_weight_append]
      by_cases same : other = part
      · subst same
        simp [deltaUnits, doneUnits, partWeight, closed]
      · simp [deltaUnits, doneUnits, partWeight, same, Ne.symm same]
    have gained := item_gain owned rfl (stillOpen rfl) gains
    constructor
    · intro other
      simp only [ResponsesMeter.observe, credit, gains, credited.parts]
      split_ifs <;> rfl
    · intro other
      simp only [ResponsesMeter.observe, credit, gained, credited.items]
      split_ifs <;> rfl
    · rw [total_gain gained, ← credited.total]
      simp [ResponsesMeter.observe]
  | done item part text =>
    have gains (other : List Char) :
        partWeight (events ++ [.done item part text]) other = partWeight events other +
          if other = part then quarterTokens text - meter.countedByPart part else 0 := by
      rw [part_weight_append, credited.parts]
      by_cases same : other = part
      · subst same
        simp only [deltaUnits, doneUnits, partWeight, if_true]
        omega
      · simp [deltaUnits, doneUnits, partWeight, same, Ne.symm same]
    have gained := item_gain owned rfl (stillOpen rfl) gains
    constructor
    · intro other
      simp only [ResponsesMeter.observe, credit, gains, credited.parts]
      split_ifs <;> rfl
    · intro other
      simp only [ResponsesMeter.observe, credit, gained, credited.items]
      split_ifs <;> rfl
    · rw [total_gain gained, ← credited.total]
      simp [ResponsesMeter.observe]
  | itemDone item units =>
    have sameParts (other : List Char) :
        partWeight (events ++ [.itemDone item units]) other = partWeight events other := by
      simp [deltaUnits, doneUnits, partWeight]
    have sameKeys (other : List Char) :
        partsOf (events ++ [.itemDone item units]) other = partsOf events other := by
      ext part
      simp [mem_parts_of, ResponsesEvent.part?]
    have gained (other : List Char) :
        itemWeight (events ++ [.itemDone item units]) other = itemWeight events other +
          if other = item then units - meter.countedByItem item else 0 := by
      rw [credited.items]
      unfold itemWeight
      simp only [sameKeys, sameParts, List.map_append, List.map_singleton, largest_append]
      by_cases same : other = item
      · subst same
        simp only [itemUnits, if_true]
        omega
      · simp [itemUnits, same, Ne.symm same]
    constructor
    · intro other
      rw [sameParts]
      exact credited.parts other
    · intro other
      simp only [ResponsesMeter.observe, gained, credited.items]
      split_ifs with same
      · rw [same]
        omega
      · rfl
    · rw [total_gain gained, ← credited.total]
      simp [ResponsesMeter.observe]

theorem run_credited {owner : List Char → List Char} (events : List ResponsesEvent)
    (owned : ∀ event ∈ events, ∀ entry, event.part? = some entry → owner entry.2 = entry.1)
    (itemsLast : events.Pairwise fun earlier later => itemDoneLast earlier later = true)
    (deltasFirst : events.Pairwise fun earlier later => doneAfterDeltas earlier later = true) :
    Credited events (meterOf events) := by
  induction events using List.reverseRecOn with
  | nil => exact ⟨fun _ => rfl, fun _ => rfl, rfl⟩
  | append_singleton events event ih =>
    have ⟨beforeItems, _, items⟩ := List.pairwise_append.mp itemsLast
    have ⟨beforeDeltas, _, deltas⟩ := List.pairwise_append.mp deltasFirst
    have rest := ih (fun other member => owned other (List.mem_append_left _ member)) beforeItems
      beforeDeltas
    rw [meterOf, List.foldl_append]
    exact observe_credited owned (fun earlier there => items earlier there event
      List.mem_cons_self) (fun earlier there => deltas earlier there event List.mem_cons_self) rest

def ownerOf (key : List Char) : List Char :=
  ((((key.reverse.dropWhile (· ≠ '|')).drop 1).dropWhile (· ≠ '|')).drop 1).reverse

theorem drop_while_bar {text : List Char} (plain : '|' ∉ text) (rest : List Char) :
    (text ++ '|' :: rest).dropWhile (· ≠ '|') = '|' :: rest := by
  induction text with
  | nil => simp
  | cons char text ih =>
    have apart : char ≠ '|' := fun same => plain (same ▸ List.mem_cons_self)
    have others : '|' ∉ text := fun member => plain (List.mem_cons_of_mem _ member)
    simpa [apart] using ih others

theorem owner_of_key {part family : List Char} (item : List Char) (plainPart : '|' ∉ part)
    (plainFamily : '|' ∉ family) : ownerOf (item ++ '|' :: (part ++ '|' :: family)) = item := by
  have turned : (item ++ '|' :: (part ++ '|' :: family)).reverse =
      family.reverse ++ '|' :: (part.reverse ++ '|' :: item.reverse) := by
    simp
  have noPart : '|' ∉ part.reverse := by simpa using plainPart
  have noFamily : '|' ∉ family.reverse := by simpa using plainFamily
  rw [ownerOf, turned, drop_while_bar noFamily, List.drop_succ_cons, List.drop_zero,
    drop_while_bar noPart, List.drop_succ_cons, List.drop_zero, List.reverse_reverse]

/-- The type and the part index of an event have no bar, as the protocol's do not. -/
def PlainEvent (event : Json) : Prop :=
  '|' ∉ responsesPartText event ∧ '|' ∉ ((stringMember "type" event).getD "").toList

theorem part_owner {event : Json} {read : ResponsesEvent} (plain : PlainEvent event)
    (isRead : readResponsesEvent event = some read) {entry : List Char × List Char}
    (isPart : read.part? = some entry) : ownerOf entry.2 = entry.1 := by
  unfold readResponsesEvent at isRead
  cases typed : stringMember "type" event with
  | none => simp [typed] at isRead
  | some type =>
    have family (length : Nat) : '|' ∉ type.toList.take length := fun member =>
      plain.2 (by rw [typed]; exact List.mem_of_mem_take member)
    simp only [typed] at isRead
    split_ifs at isRead
    · have ⟨_, _, same⟩ := Option.map_eq_some_iff.mp isRead
      rw [← same] at isPart
      cases isPart
    · have ⟨_, _, same⟩ := Option.map_eq_some_iff.mp isRead
      rw [← same] at isPart
      cases isPart
      exact owner_of_key _ plain.1 (family _)
    · have ⟨_, _, same⟩ := Option.map_eq_some_iff.mp isRead
      rw [← same] at isPart
      cases isPart
      exact owner_of_key _ plain.1 (family _)

def readEvents (events : List Json) : List ResponsesEvent := events.filterMap readResponsesEvent

theorem observe_events (events : List Json) :
    events.foldl observeResponsesEvent freshMeter = meterOf (readEvents events) := by
  rw [meterOf, readEvents, List.foldl_filterMap]
  congr 1
  funext meter event
  unfold observeResponsesEvent
  cases readResponsesEvent event <;> rfl

/-- Each item is credited with the larger of its whole and the sum of its parts, a part with
the larger of its deltas and its closing text, and nothing else is counted; a closing event
comes after what it closes. -/
theorem items_credited_in_full (events : List Json) (plain : ∀ event ∈ events, PlainEvent event)
    (itemsLast : (readEvents events).Pairwise fun earlier later =>
      itemDoneLast earlier later = true)
    (deltasFirst : (readEvents events).Pairwise fun earlier later =>
      doneAfterDeltas earlier later = true) :
    (∀ item, (events.foldl observeResponsesEvent freshMeter).countedByItem item =
      itemWeight (readEvents events) item) ∧
    (events.foldl observeResponsesEvent freshMeter).tally.textQuarterTokens =
      ∑ item ∈ itemsOf (readEvents events), itemWeight (readEvents events) item := by
  have owned : ∀ read ∈ readEvents events, ∀ entry, read.part? = some entry →
      ownerOf entry.2 = entry.1 := by
    intro read member entry isPart
    have ⟨event, there, isRead⟩ := List.mem_filterMap.mp member
    exact part_owner (plain event there) isRead isPart
  have credited := run_credited (readEvents events) owned itemsLast deltasFirst
  rw [observe_events]
  exact ⟨credited.items, credited.total⟩

def partEvent (type key text : String) : Json :=
  .object [("type", .string type), ("item_id", .string "msg_1"), ("content_index", .ofNat 0),
    (key, .string text)]

def doneItem : Json :=
  .object [("type", .string "response.output_item.done"),
    ("item", .object [("id", .string "msg_1"), ("text", .string "hello")])]

/-- A closing text that comes before the deltas it closes is counted beside them. -/
theorem early_done_counted_twice :
    let events := [partEvent "response.output_text.done" "text" "hello",
      partEvent "response.output_text.delta" "delta" "hello", doneItem]
    ((readEvents events).Pairwise fun earlier later => itemDoneLast earlier later = true) ∧
      (events.foldl observeResponsesEvent freshMeter).countedByItem "msg_1".toList = 10 ∧
      itemWeight (readEvents events) "msg_1".toList = 5 := by
  decide +kernel

theorem items_credited_in_full_hello :
    let events := [partEvent "response.output_text.delta" "delta" "hel",
      partEvent "response.output_text.delta" "delta" "lo",
      partEvent "response.output_text.done" "text" "hello", doneItem, doneItem]
    (∀ item, (events.foldl observeResponsesEvent freshMeter).countedByItem item =
      itemWeight (readEvents events) item) ∧
    (events.foldl observeResponsesEvent freshMeter).tally.textQuarterTokens =
      ∑ item ∈ itemsOf (readEvents events), itemWeight (readEvents events) item := by
  apply items_credited_in_full
  · unfold PlainEvent
    decide +kernel
  · decide +kernel
  · decide +kernel

end Hivra.Venice
