import Hivra.ProviderPower.PowerSpecs

/-!
# A power request is dispatched at most once

In every run on one computer an operation is dispatched at most once, in its 45
seconds, and never with a cancellation before or after it.  Its receipts only move
forward, and the computer is shown running or stopped again only when nothing was sent
or when a successful receipt and a recent observation show it.
-/

namespace Hivra.ProviderPower

open Hivra.Library
open Hivra.AgentNetwork (Uuid Raised raise refuseIf raise_ne_ok refuse_if_ok bind_ok)
open Hivra.AgentAuthority (AgentStatus DesiredState OperationKind)

structure PowerKept (db : PowerDatabase) : Prop where
  rows : ∀ row ∈ db.journal, OperationKept row
  held : ∀ operation kind, db.computer.power? = some (operation, kind) → ∀ row ∈ db.journal,
    row.operationId = operation.id → row.kind = kind ∧ db.computer.status = .provisioning

variable {kind : PowerKind} {operation : HeldOperation}

theorem power_some {computer : ProviderComputer}
    (power : computer.power? = some (operation, kind)) : computer.operation = some operation := by
  unfold ProviderComputer.power? at power
  cases held : computer.operation with
  | none => simp [held] at power
  | some other =>
    rw [held, Option.bind_some, Option.map_eq_some_iff] at power
    have ⟨_, _, same⟩ := power
    cases same
    rfl

theorem kept_of (computer : ProviderComputer) : PowerKept (.of computer) where
  rows := fun row there => absurd there (Table.not_mem_empty row)
  held := fun _ _ _ row there => absurd there (Table.not_mem_empty row)

inductive Shown (row : PowerOperation) (status : AgentStatus) (now : Int) : Prop
  | undispatched (cancelled : row.cancelledAt.isSome = true)
      (unsent : row.dispatchIntentAt = none) (original : status = row.originalStatus)
  | proved (verifiedAt : Int) (verified : row.verifiedAt = some verifiedAt)
      (recent : now - seconds 30 ≤ verifiedAt) (receipt : row.receiptStatus? = some .success)
      (shows : status = row.kind.status) (observed : ¬row.misses)

section Computer

variable {db next : PowerDatabase} {now : Int}

theorem lifecycle_held (written : ComputerWritten db next now)
    (power : db.computer.power? = some (operation, kind)) :
    ∃ row ∈ db.journal, row.operationId = operation.id ∧
      (next.computer.operation = db.computer.operation ∧
          next.computer.status = db.computer.status ∨
        next.computer.operation = none ∧ Release row db.computer next.computer now) := by
  have guard := written.guard
  unfold guardPowerLifecycle at guard
  rw [power] at guard
  dsimp only at guard
  split at guard
  · exact absurd guard raise_ne_ok
  · rename_i row search
    have ⟨held, chosen⟩ := Table.find_mem search
    refine ⟨row, held, by simpa using chosen, ?_⟩
    have ⟨_, _, rest⟩ := bind_ok guard
    cases cleared : next.computer.operation with
    | some kept =>
      left
      rw [cleared] at rest
      have allowed := refuse_if_ok rest
      push Not at allowed
      exact ⟨allowed.1, allowed.2.1⟩
    | none =>
      right
      rw [cleared] at rest
      have allowed := refuse_if_ok rest
      exact ⟨rfl, release_of (by simpa using allowed)⟩

theorem lifecycle_claims (written : ComputerWritten db next now)
    (idle : db.computer.power? = none) (power : next.computer.power? = some (operation, kind)) :
    ∃ row ∈ db.journal, row.operationId = operation.id ∧ row.kind = kind ∧
      next.computer.status = .provisioning := by
  have guard := written.guard
  unfold guardPowerLifecycle at guard
  rw [idle, power] at guard
  dsimp only at guard
  split at guard
  · exact absurd guard raise_ne_ok
  · rename_i row search
    have ⟨held, chosen⟩ := Table.find_mem search
    have allowed := refuse_if_ok guard
    push Not at allowed
    exact ⟨row, held, by simpa using chosen, allowed.2.1, allowed.2.2.2.2.2.2.1⟩

theorem written_kept (kept : PowerKept db) (written : ComputerWritten db next now) :
    PowerKept next := by
  constructor
  · rw [written.journal]
    exact kept.rows
  · intro operation kind power row there id
    rw [written.journal] at there
    cases before : db.computer.power? with
    | none =>
      have ⟨found, held, foundId, sameKind, status⟩ := lifecycle_claims written before power
      rw [same_operation there held (id.trans foundId.symm)]
      exact ⟨sameKind, status⟩
    | some pair =>
      have ⟨_, _, _, stays⟩ := lifecycle_held written before
      cases stays with
      | inl same =>
        have unchanged : db.computer.power? = some (operation, kind) := by
          rw [← power]
          unfold ProviderComputer.power?
          rw [same.1]
        have ⟨sameKind, status⟩ := kept.held operation kind unchanged row there id
        exact ⟨sameKind, same.2.trans status⟩
      | inr released =>
        have holds := power_some power
        rw [released.1] at holds
        cases holds

theorem written_shown (kept : PowerKept db) (written : ComputerWritten db next now)
    (power : db.computer.power? = some (operation, kind))
    (left : next.computer.operation.map HeldOperation.id ≠ some operation.id)
    (shown : next.computer.status = .running ∨ next.computer.status = .stopped) :
    ∃ row ∈ db.journal, row.operationId = operation.id ∧ row.kind = kind ∧
      Shown row next.computer.status now := by
  have ⟨row, held, id, stays⟩ := lifecycle_held written power
  have ⟨sameKind, provisioning⟩ := kept.held operation kind power row held id
  refine ⟨row, held, id, sameKind, ?_⟩
  cases stays with
  | inl same =>
    rw [same.1, power_some power] at left
    exact absurd rfl left
  | inr released =>
    cases released.2 with
    | cancelled cancelled undispatched status desired =>
      exact .undispatched cancelled undispatched status
    | deleting wanted stays status finished =>
      -- The row still converges: it shows neither of the two.
      rw [status, provisioning] at shown
      simp at shown
    | failed status desired receipt =>
      rw [status] at shown
      simp at shown
    | verified observed receipt wanted status desired =>
      rw [Option.any_eq_true] at observed
      have ⟨verifiedAt, isVerified, recent⟩ := observed
      have proved := (kept.rows row held).verified (by simp [isVerified])
      exact .proved verifiedAt isVerified (by simpa using recent) receipt status proved.2

end Computer

section Journal

variable {db next : PowerDatabase} {old new row : PowerOperation} {now : Int}

theorem reserved_fresh (reserved : Reserved db next row now) :
    db.computer.operation = none ∧ row.actionReceipt = none ∧ row.verifiedAt = none ∧
      row.cancelledAt = none := by
  have ⟨_, _, rest⟩ := bind_ok reserved.guard
  have fresh := refuse_if_ok rest
  simp only [not_or, Bool.not_eq_true, Option.isSome_eq_false_iff,
    Option.isNone_iff_eq_none] at fresh
  obtain ⟨idle, _, _, _, _, _, _, _, _, noReceipt, noVerified, _, _, noCancel⟩ := fresh
  exact ⟨idle, noReceipt, noVerified, noCancel⟩

theorem reserved_kept (kept : PowerKept db) (reserved : Reserved db next row now) :
    PowerKept next := by
  have ⟨idle, noReceipt, noVerified, noCancel⟩ := reserved_fresh reserved
  constructor
  · intro other there
    cases (Table.mem_insert reserved.journal).mp there with
    | inl held => exact kept.rows other held
    | inr isNew =>
      rw [isNew]
      constructor
      · simp [noReceipt]
      · simp [noVerified]
      · simp [noCancel]
  · intro operation kind power
    have holds := power_some power
    rw [reserved.computer, idle] at holds
    cases holds

theorem journal_kept (kept : PowerKept db) (written : JournalWritten db next old new now) :
    PowerKept next := by
  have fixed := written.allowed.fixed
  simp only [PowerOperation.fixed, Prod.mk.injEq] at fixed
  constructor
  · intro other there
    cases (written.rows other).mp there with
    | inl isNew =>
      rw [isNew]
      exact allowed_kept written.allowed (kept.rows old written.held)
    | inr held => exact kept.rows other held.1
  · intro operation kind power other there id
    rw [written.computer] at power ⊢
    cases (written.rows other).mp there with
    | inl isNew =>
      rw [isNew] at id ⊢
      rw [fixed.1] at id
      rw [fixed.2.2.1]
      exact kept.held operation kind power old written.held id
    | inr held => exact kept.held operation kind power other held.1 id

theorem journal_followed (written : JournalWritten db next old new now) :
    Followed PowerFollows db.journal next.journal := by
  intro other there
  by_cases here : other.operationId = old.operationId
  · rw [same_operation there written.held here]
    exact ⟨new, (written.rows new).mpr (.inl rfl), allowed_follows written.allowed⟩
  · exact ⟨other, (written.rows other).mpr (.inr ⟨there, here⟩), power_follows_refl other⟩

end Journal

section Effects

variable {event : PowerEvent} {answer : PowerAnswer} {db next : PowerDatabase}

theorem effect_kept (kept : PowerKept db) (effect : PowerEffect event answer db next) :
    PowerKept next := by
  cases effect with
  | same unchanged silent =>
    rw [unchanged]
    exact kept
  | claimed _ _ _ _ _ _ call answered fresh middle reserved written =>
    exact written_kept (reserved_kept kept reserved) written
  | dispatched _ call answered old new id written before after => exact journal_kept kept written
  | noted silent old new written => exact journal_kept kept written
  | cancelled _ call answered old new id middle marked cancels written =>
    exact written_kept (journal_kept kept marked) written
  | changed silent written => exact written_kept kept written

theorem effect_followed (effect : PowerEffect event answer db next) :
    Followed PowerFollows db.journal next.journal := by
  cases effect with
  | same unchanged silent =>
    rw [unchanged]
    exact followed_refl power_follows_refl db.journal
  | claimed _ _ _ _ _ _ call answered fresh middle reserved written =>
    rw [written.journal]
    exact followed_insert power_follows_refl reserved.journal
  | dispatched _ call answered old new id written before after => exact journal_followed written
  | noted silent old new written => exact journal_followed written
  | cancelled _ call answered old new id middle marked cancels written =>
    rw [written.journal]
    exact journal_followed marked
  | changed silent written =>
    rw [written.journal]
    exact followed_refl power_follows_refl db.journal

theorem effect_intent (effect : PowerEffect event answer db next)
    (wanted : db.computer.desiredState = .deleted) : next.computer.desiredState = .deleted := by
  cases effect with
  | same unchanged silent =>
    rw [unchanged]
    exact wanted
  | claimed _ _ _ _ _ _ call answered fresh middle reserved written =>
    apply written.intent
    rw [reserved.computer]
    exact wanted
  | dispatched _ call answered old new id written before after =>
    rw [written.computer]
    exact wanted
  | noted silent old new written =>
    rw [written.computer]
    exact wanted
  | cancelled _ call answered old new id middle marked cancels written =>
    apply written.intent
    rw [marked.computer]
    exact wanted
  | changed silent written => exact written.intent wanted

theorem effect_shown (kept : PowerKept db) (effect : PowerEffect event answer db next)
    (power : db.computer.power? = some (operation, kind))
    (left : next.computer.operation.map HeldOperation.id ≠ some operation.id)
    (shown : next.computer.status = .running ∨ next.computer.status = .stopped) :
    ∃ before ∈ db.journal, ∃ row ∈ next.journal, PowerFollows before row ∧
      row.operationId = operation.id ∧ row.kind = kind ∧
        Shown row next.computer.status event.clock.guard := by
  have stays (same : next.computer = db.computer) : False := by
    rw [same, power_some power] at left
    exact left rfl
  cases effect with
  | same unchanged silent => exact (stays (by rw [unchanged])).elim
  | claimed _ _ _ _ _ _ call answered fresh middle reserved written =>
    -- Nothing is reserved on a computer that is operated.
    have idle := (reserved_fresh reserved).1
    rw [power_some power] at idle
    cases idle
  | dispatched _ call answered old new id written before after =>
    exact (stays written.computer).elim
  | noted silent old new written => exact (stays written.computer).elim
  | cancelled _ call answered old new id middle marked cancels written =>
    have holds : middle.computer.power? = some (operation, kind) := by
      rw [marked.computer]
      exact power
    have ⟨row, there, rest⟩ := written_shown (journal_kept kept marked) written holds left shown
    rw [written.journal]
    cases (marked.rows row).mp there with
    | inl isNew =>
      have follows := allowed_follows marked.allowed
      rw [← isNew] at follows
      exact ⟨old, marked.held, row, there, follows, rest⟩
    | inr held => exact ⟨row, held.1, row, there, power_follows_refl row, rest⟩
  | changed silent written =>
    have ⟨row, there, rest⟩ := written_shown kept written power left shown
    rw [written.journal]
    exact ⟨row, there, row, there, power_follows_refl row, rest⟩

end Effects

def Dispatches (db : PowerDatabase) (event : PowerEvent) (operationId : Uuid) : Prop :=
  event.call.dispatches operationId ∧ (db.perform event).1 = .dispatch .dispatch

def Cancels (db : PowerDatabase) (event : PowerEvent) (operationId : Uuid) : Prop :=
  event.call.cancels operationId ∧ (db.perform event).1 = .found true

def Claims (db : PowerDatabase) (event : PowerEvent) (operationId : Uuid) : Prop :=
  (∃ userId agentId kind parents, event.call = .claim userId agentId (some operationId) kind parents) ∧
    (db.perform event).1 = .found true ∧ db.operation? operationId = none

section Events

variable {db : PowerDatabase} {event : PowerEvent} {operationId : Uuid}

theorem dispatches_row (dispatches : Dispatches db event operationId) :
    ∃ old new, old.operationId = operationId ∧
      JournalWritten db (db.step event) old new event.clock.guard ∧
        old.dispatchIntentAt = none ∧ new.dispatchIntentAt.isSome = true := by
  have ⟨⟨_, _, _, call⟩, answer⟩ := dispatches
  cases perform_effect db event with
  | dispatched other isCall answered old new id written before after =>
    obtain ⟨_, _, _, isCall⟩ := isCall
    rw [call] at isCall
    cases isCall
    exact ⟨old, new, id, written, before, after⟩
  | same unchanged silent => exact absurd answer silent.1
  | noted silent old new written => exact absurd answer silent.1
  | changed silent written => exact absurd answer silent.1
  | claimed _ _ _ _ _ _ isCall answered fresh middle reserved written =>
    rw [call] at isCall
    cases isCall
  | cancelled _ isCall answered old new id middle marked cancels written =>
    obtain ⟨_, _, isCall⟩ := isCall
    rw [call] at isCall
    cases isCall

theorem cancels_row (cancels : Cancels db event operationId) :
    ∃ old new middle, old.operationId = operationId ∧
      JournalWritten db middle old new event.clock.guard ∧
        new.cancelledAt.isSome = true ∧
          ComputerWritten middle (db.step event) event.clock.guard := by
  have ⟨⟨_, _, call⟩, answer⟩ := cancels
  have isCancel : ∃ operationId, event.call.cancels operationId :=
    ⟨operationId, _, _, call⟩
  cases perform_effect db event with
  | cancelled other isCall answered old new id middle marked sets written =>
    obtain ⟨_, _, isCall⟩ := isCall
    rw [call] at isCall
    cases isCall
    exact ⟨old, new, middle, id, marked, sets, written⟩
  | same unchanged silent => exact absurd answer (silent.2 isCancel)
  | noted silent old new written => exact absurd answer (silent.2 isCancel)
  | changed silent written => exact absurd answer (silent.2 isCancel)
  | claimed _ _ _ _ _ _ isCall answered fresh middle reserved written =>
    rw [call] at isCall
    cases isCall
  | dispatched _ isCall answered old new id written before after =>
    obtain ⟨_, _, _, isCall⟩ := isCall
    rw [call] at isCall
    cases isCall

theorem dispatches_allowed {old new : PowerOperation}
    (written : JournalWritten db (db.step event) old new event.clock.guard)
    (before : old.dispatchIntentAt = none) (after : new.dispatchIntentAt.isSome = true) :
    event.clock.guard < old.dispatchNotAfter ∧ db.computer.desiredState ≠ .deleted ∧
      old.cancelledAt = none := by
  cases written.allowed.dispatch with
  | inl opens => exact opens.2
  | inr same =>
    rw [same.1, before] at after
    cases after

theorem follows_id {old new : PowerOperation} (follows : PowerFollows old new) :
    new.operationId = old.operationId ∧ new.originalStatus = old.originalStatus ∧
      new.createdAt = old.createdAt := by
  have fixed := follows.fixed
  simp only [PowerOperation.fixed, Prod.mk.injEq] at fixed
  exact ⟨fixed.1, fixed.2.2.2.2.1, fixed.2.2.2.2.2⟩

end Events

section Runs

variable {start : PowerDatabase}

theorem after_kept (kept : PowerKept start) (history : List PowerEvent) :
    PowerKept (start.after history) :=
  fold_keeps history kept fun db event kept => effect_kept kept (perform_effect db event)

theorem after_followed (kept : PowerKept start) (history : List PowerEvent) :
    Followed PowerFollows start.journal (start.after history).journal :=
  @fold_related _ _ PowerDatabase.step PowerKept
    (fun before after => Followed PowerFollows before.journal after.journal) start history kept
    (fun db event kept => effect_kept kept (perform_effect db event))
    (fun db => followed_refl power_follows_refl db.journal)
    (fun _ _ _ early late => followed_trans power_follows_trans early late)
    (fun db event _ => effect_followed (perform_effect db event))

theorem later_row (kept : PowerKept start) {history early late : List PowerEvent}
    {first : PowerEvent} (split : history = early ++ first :: late) {row : PowerOperation}
    (there : row ∈ ((start.after early).step first).journal) :
    ∃ later ∈ (start.after history).journal, PowerFollows row later := by
  unfold PowerDatabase.after
  rw [fold_split split]
  have keptEarly := after_kept kept early
  have keptFirst := effect_kept keptEarly (perform_effect (start.after early) first)
  exact after_followed keptFirst late row there

structure Reserves (db : PowerDatabase) (event : PowerEvent) (row : PowerOperation) : Prop where
  claims : Claims db event row.operationId
  created : row.createdAt = event.clock.write
  original : row.originalStatus = db.computer.status

theorem step_rows (db : PowerDatabase) (event : PowerEvent) {row : PowerOperation}
    (there : row ∈ (db.step event).journal) :
    (∃ before ∈ db.journal, PowerFollows before row) ∨ Reserves db event row := by
  have older {next : PowerDatabase} {old new : PowerOperation} {now : Int}
      (written : JournalWritten db next old new now) (there : row ∈ next.journal) :
      ∃ before ∈ db.journal, PowerFollows before row := by
    cases (written.rows row).mp there with
    | inl isNew =>
      rw [isNew]
      exact ⟨old, written.held, allowed_follows written.allowed⟩
    | inr held => exact ⟨row, held.1, power_follows_refl row⟩
  cases perform_effect db event with
  | same unchanged silent =>
    rw [unchanged] at there
    exact .inl ⟨row, there, power_follows_refl row⟩
  | claimed userId agentId operationId kind parents identity call answered fresh middle reserved
      wrote =>
      rw [wrote.journal] at there
      cases (Table.mem_insert reserved.journal).mp there with
      | inl held => exact .inl ⟨row, held, power_follows_refl row⟩
      | inr isNew =>
        right
        rw [isNew]
        constructor
        · exact ⟨⟨userId, agentId, some kind, parents, call⟩, answered, fresh⟩
        · rfl
        · rfl
  | dispatched _ call answered old new id wrote before after => exact .inl (older wrote there)
  | noted silent old new wrote => exact .inl (older wrote there)
  | cancelled _ call answered old new id middle marked cancels wrote =>
    rw [wrote.journal] at there
    exact .inl (older marked there)
  | changed silent wrote =>
    rw [wrote.journal] at there
    exact .inl ⟨row, there, power_follows_refl row⟩

theorem rows_claimed (computer : ProviderComputer) (history : List PowerEvent) :
    ∀ row ∈ ((PowerDatabase.of computer).after history).journal,
      ∃ early claim late, history = early ++ claim :: late ∧
        Claims ((PowerDatabase.of computer).after early) claim row.operationId ∧
          row.createdAt = claim.clock.write ∧
            row.originalStatus = ((PowerDatabase.of computer).after early).computer.status := by
  intro row there
  have ⟨early, claim, late, reserved, split, reserves, follows⟩ :=
    @fold_inserted _ _ PowerDatabase.step _ _ _ _ Reserves (fun _ => True) PowerDatabase.journal
      power_follows_refl power_follows_trans (fun _ _ kept => kept)
      (fun db event _ row there => step_rows db event there) (.of computer) trivial
      Table.not_mem_empty history row there
  have ⟨id, original, created⟩ := follows_id follows
  refine ⟨early, claim, late, split, ?_, created.trans reserves.created,
    original.trans reserves.original⟩
  rw [id]
  exact reserves.claims

structure PowerProved (start : PowerDatabase) (history : List PowerEvent) : Prop where
  /-- A dispatch is the first, in time, and after no cancellation and no wish to delete. -/
  dispatch : ∀ event operationId, Dispatches (start.after history) event operationId →
    (start.after history).computer.desiredState ≠ .deleted ∧
      (∀ early first late, history = early ++ first :: late →
        ¬Dispatches (start.after early) first operationId ∧
          ¬Cancels (start.after early) first operationId) ∧
      ∃ early claim late, history = early ++ claim :: late ∧
        Claims (start.after early) claim operationId ∧
          event.clock.guard < claim.clock.write + seconds 45
  /-- What was dispatched is not cancelled. -/
  cancel : ∀ event operationId, Cancels (start.after history) event operationId →
    ∀ early first late, history = early ++ first :: late →
      ¬Dispatches (start.after early) first operationId
  /-- Receipts keep their action, and finished ones stay. -/
  receipt : ∀ event, ∀ row ∈ (start.after history).journal, ∀ receipt,
    row.actionReceipt = some receipt →
      ∃ later ∈ ((start.after history).step event).journal, later.operationId = row.operationId ∧
        ∃ held, later.actionReceipt = some held ∧ held.id = receipt.id ∧
          (receipt.status ≠ .running → held = receipt)
  /-- An operation that leaves the computer running or stopped shows why. -/
  shown : ∀ (event : PowerEvent) operation kind,
    (start.after history).computer.power? = some (operation, kind) →
      ((start.after history).step event).computer.operation.map HeldOperation.id ≠
        some operation.id →
        ((start.after history).step event).computer.status = .running ∨
          ((start.after history).step event).computer.status = .stopped →
          ∃ row ∈ ((start.after history).step event).journal, row.operationId = operation.id ∧
            row.kind = kind ∧
            Shown row ((start.after history).step event).computer.status event.clock.guard ∧
            ∃ early claim late, history = early ++ claim :: late ∧
              Claims (start.after early) claim operation.id ∧
                row.originalStatus = (start.after early).computer.status
  /-- The wish to delete the computer stays. -/
  intent : ∀ event, (start.after history).computer.desiredState = .deleted →
    ((start.after history).step event).computer.desiredState = .deleted

/-- The row of an operation that was dispatched before. -/
theorem still_dispatched {computer : ProviderComputer} {history early late : List PowerEvent}
    {first : PowerEvent} {operationId : Uuid} {old : PowerOperation}
    (split : history = early ++ first :: late)
    (dispatched : Dispatches ((PowerDatabase.of computer).after early) first operationId)
    (held : old ∈ ((PowerDatabase.of computer).after history).journal)
    (id : old.operationId = operationId) : old.dispatchIntentAt.isSome = true := by
  have ⟨_, noted, firstId, firstWritten, _, noteAfter⟩ := dispatches_row dispatched
  have ⟨later, there, follows⟩ := later_row (kept_of computer) split
    ((firstWritten.rows noted).mpr (.inl rfl))
  have notedId := (follows_id (allowed_follows firstWritten.allowed)).1
  have laterId := (follows_id follows).1
  have same := same_operation there held (laterId.trans (notedId.trans (firstId.trans id.symm)))
  have dispatchedOld := follows.dispatched noteAfter
  rw [same] at dispatchedOld
  rw [dispatchedOld]
  exact noteAfter

theorem power_dispatched_once (computer : ProviderComputer) (history : List PowerEvent) :
    PowerProved (.of computer) history := by
  have keptStart := kept_of computer
  have kept := after_kept keptStart history
  constructor
  · intro event operationId dispatches
    have ⟨old, new, id, written, before, after⟩ := dispatches_row dispatches
    have ⟨inTime, alive, uncancelled⟩ := dispatches_allowed written before after
    refine ⟨alive, ?_, ?_⟩
    · intro early first late split
      constructor
      · intro dispatchedFirst
        have still := still_dispatched split dispatchedFirst written.held id
        rw [before] at still
        cases still
      · intro cancelledFirst
        have ⟨_, marked, _, firstId, firstWritten, sets, wrote⟩ := cancels_row cancelledFirst
        have markedThere := (firstWritten.rows marked).mpr (.inl rfl)
        rw [← wrote.journal] at markedThere
        have ⟨later, there, follows⟩ := later_row keptStart split markedThere
        have markedId := (follows_id (allowed_follows firstWritten.allowed)).1
        have laterId := (follows_id follows).1
        have same := same_operation there written.held
          (laterId.trans (markedId.trans (firstId.trans id.symm)))
        have frozen := follows.cancelled sets
        rw [same] at frozen
        rw [← frozen, uncancelled] at sets
        cases sets
    · have ⟨early, claim, late, split, claims, created, _⟩ := rows_claimed computer history old
        written.held
      refine ⟨early, claim, late, split, ?_, ?_⟩
      · rw [← id]
        exact claims
      · rw [← created]
        exact inTime
  · intro event operationId cancels early first late split dispatchedFirst
    have ⟨old, marked, _, id, written, sets, _⟩ := cancels_row cancels
    have stillDispatched := still_dispatched split dispatchedFirst written.held id
    have kept := allowed_kept written.allowed (kept.rows old written.held)
    have unsent := kept.cancelled sets
    rw [(allowed_dispatched written.allowed stillDispatched).1] at unsent
    rw [unsent] at stillDispatched
    cases stillDispatched
  · intro event row there receipt held
    have effect := perform_effect ((PowerDatabase.of computer).after history) event
    have ⟨later, laterThere, follows⟩ := effect_followed effect row there
    exact ⟨later, laterThere, (follows_id follows).1, follows.receipt receipt held⟩
  · intro event operation kind power left shown
    have effect := perform_effect ((PowerDatabase.of computer).after history) event
    have ⟨before, held, row, there, follows, id, sameKind, why⟩ :=
      effect_shown kept effect power left shown
    refine ⟨row, there, id, sameKind, why, ?_⟩
    have ⟨early, claim, late, split, claims, _, status⟩ := rows_claimed computer history before held
    have ⟨sameId, original, _⟩ := follows_id follows
    refine ⟨early, claim, late, split, ?_, original.trans status⟩
    rw [← id, sameId]
    exact claims
  · intro event wanted
    exact effect_intent (perform_effect _ event) wanted

end Runs

end Hivra.ProviderPower
