import Hivra.TreasurySweep.SentOnce

/-!
# Both sweeps send once

What one event does to a row, for any system whose runs keep the rule of a sweep, and from
it what every schedule of the yearly and of the managed Venice sweep keeps.
-/

namespace Hivra.TreasurySweep

open Hivra.Library

variable {Context Facts : Type}

abbrev SweepLog (Facts : Type) : Type :=
  Logged (SweepCall Facts) SweepCall.Reply String (Option SweepResult) (SweepStore Facts)

abbrev SweepEvent (Context Facts : Type) : Type :=
  Event (SweepJob Context) SweepTurn (SweepChange Facts)

def DistinctAttempts (logged : SweepLog Facts) : SweepEvent Context Facts → Prop
  | .advance run _ =>
    ∀ request next, logged.world.runs[run]? = some (some (.call request next)) →
      Fresh request logged.journal
  | _ => True

def SweepSystem.after (system : SweepSystem Context Facts) (store : SweepStore Facts)
    (schedule : List (SweepEvent Context Facts)) : SweepLog Facts :=
  schedule.foldl system.log (Logged.initial store)

structure Sweeps (settled : Facts → Bool) (system : SweepSystem Context Facts) : Prop where
  perform : ∀ run, system.perform run = performSweep settled
  change : system.change = applySweepChange
  follows : ∀ job, Keeps [] (system.program job)

theorem yearly_sweeps : Sweeps (fun _ => true) yearlySystem :=
  ⟨fun _ => rfl, rfl, yearly_follows⟩

theorem managed_venice_sweeps : Sweeps ManagedVeniceQuote.settled managedVeniceSystem :=
  ⟨fun _ => rfl, rfl, managed_venice_follows⟩

theorem invariant_nil (store : SweepStore Facts) : SentInvariant store [] := by
  have unmarked (run id : Nat) (now : Int) : ¬Marks (pastOf run ([] : SweepJournal Facts)) id now := by
    intro ⟨_, _, _, _, there⟩
    cases there
  have unclaimed (run id : Nat) (now : Int) :
      ¬Claims (pastOf run ([] : SweepJournal Facts)) id now := by
    intro ⟨_, there⟩
    cases there
  constructor
  · intro run
    constructor <;> exact Nat.zero_le 1
  · intro run other id now claims
    exact absurd claims (unclaimed run id now)
  · intro run id now marks
    exact absurd marks (unmarked run id now)
  · intro run id now engaged
    exact absurd engaged.marks (unmarked run id now)
  · intro run other id now time engaged
    exact absurd engaged.marks (unmarked run id now)
  · intro run id token recipient amount reply there
    cases there
  · intro id
    exact Nat.zero_le 1

theorem invariant_changed {store : SweepStore Facts} {journal : SweepJournal Facts}
    (invariant : SentInvariant store journal) (change : SweepChange Facts) :
    SentInvariant (applySweepChange change store) journal :=
  { invariant with kept := fun run id now engaged => kept_changed (invariant.kept run id now engaged) }

section Systems

variable {settled : Facts → Bool} {system : SweepSystem Context Facts}
variable {store : SweepStore Facts} {schedule : List (SweepEvent Context Facts)}

theorem sweeps_lawful (sweeps : Sweeps settled system) :
    system.Lawful sweepRule DistinctAttempts SentInvariant := by
  constructor
  · exact sweeps.follows
  · intro logged run request next turn invariant current fits allowed
    rw [sweeps.perform]
    exact invariant_performed invariant allowed (fits request next current)
  · intro logged change invariant _
    rw [sweeps.change]
    exact invariant_changed invariant change

theorem ruled_after (sweeps : Sweeps settled system)
    (distinct : Meets system.log DistinctAttempts (Logged.initial store) schedule) :
    System.Ruled sweepRule SentInvariant (system.after store schedule) :=
  System.lawful_after (sweeps_lawful sweeps) (invariant_nil store) distinct

variable {logged : SweepLog Facts} {event : SweepEvent Context Facts}

theorem log_row (sweeps : Sweeps settled system)
    (ruled : System.Ruled sweepRule SentInvariant logged) (id : Nat) :
    (system.log logged event).world.store.rows[id]? = logged.world.store.rows[id]? ∨
      (∃ change, event = .outside change ∧
        (system.log logged event).world.store = applySweepChange change logged.world.store) ∨
      ∃ run turn request next, event = .advance run turn ∧
        logged.world.runs[run]? = some (some (.call request next)) ∧
        sweepRule (pastOf run logged.journal) request ∧
        RowMove settled request id logged.world.store.rows[id]?
          (system.log logged event).world.store.rows[id]? := by
  cases event with
  | start job => exact .inl rfl
  | stop run => exact .inl rfl
  | outside change =>
    refine .inr (.inl ⟨change, rfl, ?_⟩)
    simp only [System.log, System.step, sweeps.change]
  | advance run turn =>
    cases current : logged.world.runs[run]? with
    | none => simp [System.log, System.step, current]
    | some slot =>
      cases slot with
      | none => simp [System.log, System.step, current]
      | some script =>
        cases script with
        | ret outcome => simp [System.log, System.step, current]
        | raise failure => simp [System.log, System.step, current]
        | call request next =>
          refine .inr (.inr ⟨run, turn, request, next, rfl, current,
            (ruled.follows run _ current).1, ?_⟩)
          simp only [System.log, System.step, current, sweeps.perform]
          exact perform_move id

variable {id : Nat} {next : SweepRow Facts} {now : Int}

theorem changed_row {change : SweepChange Facts} {before : SweepStore Facts}
    (held : (applySweepChange change before).rows[id]? = some next) : next = pendingRow next.facts ∨
      ∃ row, before.rows[id]? = some row ∧ next = { row with facts := next.facts } := by
  cases change with
  | arrive facts =>
    by_cases old : id < before.rows.length
    · refine .inr ⟨next, ?_, rfl⟩
      rw [← held]
      exact (List.getElem?_append_left old).symm
    · have isNew : id = before.rows.length := by
        have bound := (List.getElem?_eq_some_iff.mp held).1
        simp [applySweepChange] at bound
        omega
      subst isNew
      simp [applySweepChange] at held
      rw [← held]
      exact .inl rfl
  | rewrite target facts =>
    right
    simp only [applySweepChange, List.getElem?_modify] at held
    cases isRow : before.rows[id]? with
    | none => simp [isRow] at held
    | some row =>
      refine ⟨row, rfl, ?_⟩
      rw [isRow] at held
      by_cases same : target = id
      · simp only [same, Option.map_eq_map, Option.map_some, if_true] at held
        cases held
        rfl
      · simp only [same, Option.map_eq_map, Option.map_some, if_false] at held
        cases held
        rfl

section

variable (sweeps : Sweeps settled system)
include sweeps

section

variable (ruled : System.Ruled sweepRule SentInvariant logged)
include ruled

theorem swept_by_claimant (after : (system.log logged event).world.store.rows[id]? = some next)
    (swept : next.sweepStatus = .swept) :
    (∃ row, logged.world.store.rows[id]? = some row ∧ row.sweepStatus = .swept) ∨
      ∃ run turn now row, event = .advance run turn ∧
        logged.world.store.rows[id]? = some row ∧ row.HeldBy now ∧
        Claims (pastOf run logged.journal) id now ∧ Accepts (pastOf run logged.journal) id := by
  rcases @log_row _ _ _ _ logged event sweeps ruled id with same | changed | moved
  · rw [same] at after
    exact .inl ⟨next, after, swept⟩
  · have ⟨change, _, isStore⟩ := changed
    rw [isStore] at after
    cases changed_row after with
    | inl isNew =>
      rw [isNew] at swept
      cases swept
    | inr earlier =>
      have ⟨row, held, isRow⟩ := earlier
      rw [isRow] at swept
      exact .inl ⟨row, held, swept⟩
  · have ⟨run, turn, request, rest, isAdvance, _, allowed, move⟩ := moved
    cases move with
    | same same =>
      rw [same] at after
      exact .inl ⟨next, after, swept⟩
    | claimed row now isClaim held claimable written =>
      rw [written] at after
      cases after
      cases swept
    | moved row guard patch isTransition held admitted written =>
      rw [written] at after
      cases after
      subst isTransition
      have ⟨status, attempted, _⟩ := admits_iff.mp admitted
      cases patch with
      | succeed txHash destination =>
        have ⟨⟨source, now, guarded, claims⟩, accepts⟩ := allowed
        exact .inr ⟨run, turn, now, row, isAdvance, held,
          ⟨status.trans source, attempted.trans guarded⟩, claims, accepts⟩
      | submit submittedAt destination => exact .inl ⟨row, held, swept⟩
      | release error attemptedAt destination => cases swept
      | skip reason attemptedAt destination => cases swept
      | recover error => cases swept
      | park reason => cases swept

def Held (store : SweepStore Facts) (id : Nat) (now : Int) : Prop :=
  ∃ row, store.rows[id]? = some row ∧ row.HeldBy now

theorem lost_unchanged {run : Nat}
    {turn : SweepTurn} (claims : Claims (pastOf run logged.journal) id now)
    (lost : ¬Held logged.world.store id now) :
    (system.log logged (.advance run turn)).world.store.rows[id]? =
      logged.world.store.rows[id]? := by
  have onlyOwn {guard : SweepGuard} {row : SweepRow Facts}
      (own : OwnGuard (pastOf run logged.journal) id guard)
      (held : logged.world.store.rows[id]? = some row) (admitted : guard.admits row = true) :
      False := by
    have ⟨source, time, guarded, others⟩ := own
    have ⟨_, isNow⟩ := same_claim (ruled.invariant.once run) others claims
    have ⟨status, attempted, _⟩ := admits_iff.mp admitted
    rw [isNow] at guarded
    exact lost ⟨row, held, status.trans source, attempted.trans guarded⟩
  have claimed (unclaimed : Without SweepCall.claims (pastOf run logged.journal)) : False := by
    have ⟨row, there⟩ := claims
    cases unclaimed _ there
  rcases @log_row _ _ _ _ logged (.advance run turn) sweeps ruled id with same | changed | moved
  · exact same
  · have ⟨change, isChange, _⟩ := changed
    cases isChange
  · have ⟨other, turn', request, rest, isAdvance, _, allowed, move⟩ := moved
    cases isAdvance
    cases move with
    | same same => exact same
    | claimed row time isClaim held claimable written =>
      subst isClaim
      exact (claimed allowed).elim
    | moved row guard patch isTransition held admitted written =>
      subst isTransition
      cases patch with
      | recover error => exact (claimed allowed.1).elim
      | park reason =>
        cases allowed with
        | inl unclaimed => exact (claimed unclaimed.1).elim
        | inr own => exact (onlyOwn own held admitted).elim
      | release error attemptedAt destination => exact (onlyOwn allowed.1 held admitted).elim
      | skip reason attemptedAt destination => exact (onlyOwn allowed.1 held admitted).elim
      | submit submittedAt destination => exact (onlyOwn allowed.1 held admitted).elim
      | succeed txHash destination => exact (onlyOwn allowed.1 held admitted).elim

theorem lost_stays (distinct : DistinctAttempts logged event) {run : Nat}
    (claims : Claims (pastOf run logged.journal) id now) (lost : ¬Held logged.world.store id now) :
    ¬Held (system.log logged event).world.store id now := by
  intro ⟨next, after, holds⟩
  rcases @log_row _ _ _ _ logged event sweeps ruled id with same | changed | moved
  · rw [same] at after
    exact lost ⟨next, after, holds⟩
  · have ⟨change, _, isStore⟩ := changed
    rw [isStore] at after
    cases changed_row after with
    | inl isNew =>
      have status := holds.sweeping
      rw [isNew] at status
      cases status
    | inr earlier =>
      have ⟨row, held, isRow⟩ := earlier
      rw [isRow] at holds
      exact lost ⟨row, held, holds.sweeping, holds.attempted⟩
  · have ⟨other, turn, request, rest, isAdvance, current, allowed, move⟩ := moved
    subst isAdvance
    cases move with
    | same same =>
      rw [same] at after
      exact lost ⟨next, after, holds⟩
    | claimed row time isClaim held claimable written =>
      rw [written] at after
      cases after
      have isTime : time = now := Option.some.inj holds.attempted
      subst isTime
      have ⟨claimedRow, there⟩ := claims
      exact distinct request rest current id time isClaim _ (mem_pastOf.mp there) rfl
    | moved row guard patch isTransition held admitted written =>
      rw [written] at after
      cases after
      have status := holds.sweeping
      cases patch with
      | submit submittedAt destination => exact lost ⟨row, held, status, holds.attempted⟩
      | release error attemptedAt destination => cases status
      | skip reason attemptedAt destination => cases status
      | succeed txHash destination => cases status
      | recover error => cases status
      | park reason => cases status

theorem parked_stays {row : SweepRow Facts}
    (held : logged.world.store.rows[id]? = some row) (parked : row.sweepStatus = .needsOperator) :
    ∃ next, (system.log logged event).world.store.rows[id]? = some next ∧
      next.sweepStatus = .needsOperator := by
  rcases @log_row _ _ _ _ logged event sweeps ruled id with same | changed | moved
  · exact ⟨row, same.trans held, parked⟩
  · obtain ⟨change, _, isStore⟩ := changed
    rw [isStore]
    cases change with
    | arrive facts =>
      have bound := (List.getElem?_eq_some_iff.mp held).1
      exact ⟨row, (List.getElem?_append_left bound).trans held, parked⟩
    | rewrite target facts =>
      by_cases same : target = id
      · refine ⟨{ row with facts }, ?_, parked⟩
        simp [applySweepChange, same, held]
      · refine ⟨row, ?_, parked⟩
        simp [applySweepChange, same, held]
  · obtain ⟨run, turn, request, rest, _, _, allowed, move⟩ := moved
    have final : row.Final := .inr (.inr parked)
    cases move with
    | same same => exact ⟨row, same.trans held, parked⟩
    | claimed other time isClaim isOther claimable written =>
      rw [held] at isOther
      cases isOther
      rw [final_not_claimable final] at claimable
      cases claimable
    | moved other guard patch isTransition isOther admitted written =>
      rw [held] at isOther
      cases isOther
      subst isTransition
      exact (final_not_admitted allowed final admitted).elim

end

end

theorem past_log (run : Nat) {exchange : Sigma (@SweepCall.Reply Facts)}
    (there : exchange ∈ pastOf run logged.journal) :
    exchange ∈ pastOf run (system.log logged event).journal := by
  cases event with
  | start job => exact there
  | stop other => exact there
  | outside change => exact there
  | advance other turn =>
    simp only [System.log]
    split
    · rename_i request next current
      rcases @past_after _ request logged.journal other run
        (system.perform other request turn logged.world.store).2 with ⟨same, past⟩ | ⟨_, past⟩
      · rw [past, ← same]
        exact List.mem_append_left _ there
      · rw [past]
        exact there
    · exact there

structure SendsOnce (system : SweepSystem Context Facts) (store : SweepStore Facts)
    (schedule : List (SweepEvent Context Facts)) : Prop where
  /-- One transfer request at most for a row was not definitely refused. -/
  single : ∀ id, ((system.after store schedule).journal.filter (unrefusedFor id)).length ≤ 1
  /-- A row becomes swept by the run that holds it, whose transfer Bankr has accepted. -/
  claimant : ∀ early event late (id : Nat) (next : SweepRow Facts), schedule = early ++ event :: late →
    (system.after store (early ++ [event])).world.store.rows[id]? = some next →
    next.sweepStatus = .swept →
    (∃ row : SweepRow Facts, (system.after store early).world.store.rows[id]? = some row ∧
      row.sweepStatus = .swept) ∨
    ∃ run turn now, ∃ row : SweepRow Facts, event = .advance run turn ∧
      (system.after store early).world.store.rows[id]? = some row ∧ row.HeldBy now ∧
      Claims (pastOf run (system.after store early).journal) id now ∧
      Accepts (pastOf run (system.after store early).journal) id
  /-- A run whose claim is gone never changes the row again. -/
  lost : ∀ early middle late run turn (id : Nat) now,
    schedule = early ++ middle ++ .advance run turn :: late →
    Claims (pastOf run (system.after store early).journal) id now →
    ¬Held (system.after store early).world.store id now →
    (system.after store (early ++ middle ++ [.advance run turn])).world.store.rows[id]? =
      (system.after store (early ++ middle)).world.store.rows[id]?
  /-- A run whose last check of its claim was not answered that it holds asks for no transfer. -/
  checked : ∀ run id guard submittedAt destination reply,
    ⟨run, .transition id guard (.submit submittedAt destination), reply⟩ ∈
      (system.after store schedule).journal → reply ≠ .ok true →
    ∀ other token recipient amount answer,
      ⟨run, .submitBankrTransfer other token recipient amount, answer⟩ ∉
        (system.after store schedule).journal
  /-- What is parked for an operator is neither claimed nor swept again. -/
  parked : ∀ early late (id : Nat) (row : SweepRow Facts), schedule = early ++ late →
    (system.after store early).world.store.rows[id]? = some row →
    row.sweepStatus = .needsOperator →
    ∃ next : SweepRow Facts, (system.after store schedule).world.store.rows[id]? = some next ∧
      next.sweepStatus = .needsOperator

theorem after_append (system : SweepSystem Context Facts) (store : SweepStore Facts)
    (early late : List (SweepEvent Context Facts)) :
    system.after store (early ++ late) = late.foldl system.log (system.after store early) :=
  List.foldl_append

theorem lost_after (sweeps : Sweeps settled system) {run : Nat}
    {rest : List (SweepEvent Context Facts)}
    (distinct : Meets system.log DistinctAttempts logged rest)
    (ruled : System.Ruled sweepRule SentInvariant logged)
    (claims : Claims (pastOf run logged.journal) id now) (lost : ¬Held logged.world.store id now) :
    Claims (pastOf run (rest.foldl system.log logged).journal) id now ∧
      ¬Held (rest.foldl system.log logged).world.store id now := by
  have kept := @meets_keeps _ _ system.log DistinctAttempts
    (fun logged => System.Ruled sweepRule SentInvariant logged ∧
      Claims (pastOf run logged.journal) id now ∧ ¬Held logged.world.store id now)
    logged rest distinct ⟨ruled, claims, lost⟩ (by
      intro logged event fits ⟨ruled, claims, lost⟩
      have ⟨row, there⟩ := claims
      exact ⟨System.ruled_step (sweeps_lawful sweeps) logged event fits ruled,
        ⟨row, past_log run there⟩, lost_stays sweeps ruled fits claims lost⟩)
  exact kept.2

theorem sends_once (sweeps : Sweeps settled system)
    (distinct : Meets system.log DistinctAttempts (Logged.initial store) schedule) :
    SendsOnce system store schedule := by
  constructor
  · exact (ruled_after sweeps distinct).invariant.single
  · intro early event late id next split after swept
    rw [split] at distinct
    have ruled := ruled_after sweeps (meets_append distinct).1
    rw [after_append, List.foldl_cons, List.foldl_nil] at after
    exact swept_by_claimant sweeps ruled after swept
  · intro early middle late run turn id now split claims lost
    rw [split] at distinct
    have upTo := (meets_append distinct).1
    have ruled := ruled_after sweeps (meets_append upTo).1
    have ⟨claims, lost⟩ := lost_after sweeps (meets_append upTo).2 ruled claims lost
    rw [after_append, List.foldl_cons, List.foldl_nil]
    have reached : middle.foldl system.log (early.foldl system.log (Logged.initial store)) =
        system.after store (early ++ middle) := (after_append system store early middle).symm
    rw [reached] at claims lost
    exact lost_unchanged sweeps (ruled_after sweeps upTo) claims lost
  · intro run id guard submittedAt destination reply there unchecked other token recipient amount
      answer asked
    have invariant := (ruled_after sweeps distinct).invariant
    have ⟨⟨now, guard', submittedAt', destination', _, marked⟩, _⟩ :=
      invariant.sent run other token recipient amount answer asked
    have same := same_of_once (invariant.once run).marks (mem_pastOf.mpr there) marked rfl rfl
    cases same
    exact unchecked rfl
  · intro early late id row split held parked
    rw [split] at distinct ⊢
    rw [after_append]
    have ruled := ruled_after sweeps (meets_append distinct).1
    have kept := @meets_keeps _ _ system.log DistinctAttempts
      (fun logged => System.Ruled sweepRule SentInvariant logged ∧
        ∃ next, logged.world.store.rows[id]? = some next ∧ next.sweepStatus = .needsOperator)
      (system.after store early) late (meets_append distinct).2 ⟨ruled, row, held, parked⟩ (by
        intro logged event fits ⟨ruled, row, held, parked⟩
        exact ⟨System.ruled_step (sweeps_lawful sweeps) logged event fits ruled,
          parked_stays sweeps ruled held parked⟩)
    exact kept.2

end Systems

/-- Under every schedule in which no two runs claim a row at the same time, of either sweep
and from any rows. -/
theorem treasury_sweeps_send_once : (∀ store schedule,
      Meets yearlySystem.log DistinctAttempts (Logged.initial store) schedule →
      SendsOnce yearlySystem store schedule) ∧
    ∀ store schedule,
      Meets managedVeniceSystem.log DistinctAttempts (Logged.initial store) schedule →
      SendsOnce managedVeniceSystem store schedule := by
  constructor
  · intro store schedule distinct
    exact sends_once yearly_sweeps distinct
  · intro store schedule distinct
    exact sends_once managed_venice_sweeps distinct

def paidSubscription : YearlySubscription :=
  { amountReceivedRaw := 40
    depositAddress := some 17
    metadataDepositAddress := none
    depositTxHash := some 7
    depositLogIndex := some 0
    tokenAddress := none }

def acceptingTurn : SweepTurn :=
  { failure := none
    carriedOut := false
    credential := some { purpose := .creditDeposit, bankrWalletId := some "wallet", evmAddress := 17 }
    lot := none
    balance := 40
    gas := .ready
    keyMinted := true
    bankr := .accepted (some 8) }

def SweepCall.claim? : SweepCall Facts → Option (Nat × Int)
  | .claim id now => some (id, now)
  | _ => none

theorem claim_some {call : SweepCall Facts} {id : Nat} {now : Int} :
    call.claim? = some (id, now) ↔ call = .claim id now := by
  cases call <;> simp [SweepCall.claim?]

instance (call : SweepCall Facts) (journal : SweepJournal Facts) :
    Decidable (Fresh call journal) :=
  decidable_of_iff
    (∀ claim ∈ call.claim?, ∀ exchange ∈ journal, exchange.call.claim? ≠ some claim)
    (by simp [Fresh, claim_some])

instance (logged : SweepLog Facts) :
    (event : SweepEvent Context Facts) → Decidable (DistinctAttempts logged event)
  | .advance run _ =>
    match current : logged.world.runs[run]? with
    | some (some (.call request _)) =>
      decidable_of_iff (Fresh request logged.journal) (by
        constructor
        · intro fresh _ _ same
          rw [current] at same
          cases same
          exact fresh
        · exact fun all => all _ _ current)
    | some (some (.ret _)) | some (some (.raise _)) | some none | none =>
      isTrue (by simp [DistinctAttempts, current])
  | .start _ | .stop _ | .outside _ => isTrue trivial

def yearlySweepAt (now : Int) : SweepEvent YearlyContext YearlySubscription :=
  .start (.sweep 0 5 { now, treasury := some 23, partnerKey := true, hivra := none })

/-- The row is swept by two runs at once.  The second finds it claimed; the first sends. -/
def racingSweeps : List (SweepEvent YearlyContext YearlySubscription) :=
  [yearlySweepAt 0, yearlySweepAt 1, .advance 0 acceptingTurn, .advance 1 acceptingTurn] ++
    List.replicate 7 (.advance 0 acceptingTurn)

theorem racing_sweeps_send_once :
    SendsOnce yearlySystem { rows := [pendingRow paidSubscription], events := [] } racingSweeps ∧
      (yearlySystem.after { rows := [pendingRow paidSubscription], events := [] }
        racingSweeps).world.store.rows.map (fun row => (row.sweepStatus, row.sweepTxHash)) =
          [(.swept, some 8)] :=
  ⟨treasury_sweeps_send_once.1 _ _ (by decide +kernel), by decide +kernel⟩

end Hivra.TreasurySweep
