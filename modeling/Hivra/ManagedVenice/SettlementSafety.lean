import Hivra.ManagedVenice.SettlementDuties

/-!
# A hold is settled at most once

Every job of the settlement code keeps the ledger of a hold and settles its own
run up, whatever the other runs do between two of its statements.  So in every
schedule of any number of runs, each possibly stopped anywhere, a hold is captured
at most once and its overage debited at most once, by the run that captured it.
-/

namespace Hivra.ManagedVenice

open Hivra.Library
open Hivra.Library.Contract

variable {overageMicroUsd : Nat}

variable {assertion goal : SettlementStore → Prop}

section Captures

variable {hold : Reservation}
variable {performs : Nat → Statement → Turn → SettlementStore → Prop}
variable {number : Nat}
variable {paid : Closing → SettlementStore → Prop}

/-- What a run knows once its capture has answered: of the hold in question, the closing
it noted; of any other hold, what it knew before. -/
def CaptureAnswered (hold : Reservation) (number : Nat) (assertion : SettlementStore → Prop)
    (closing : Closing) (reply : CaptureReply) (store : SettlementStore) : Prop :=
  if reply.captured = true then
    MayDebitOverage hold number closing.referenceId closing.overageMicroUsd store ∧
      if closing.referenceId = hold.referenceId then
        store.closingsOf hold.referenceId = [closing]
      else assertion store
  else assertion store

theorem capture_answered_stable
    (stable : (settlementContract hold performs).Stable number assertion) (closing : Closing)
    (reply : CaptureReply) : (settlementContract hold performs).Stable number
      (CaptureAnswered hold number assertion closing reply) := by
  intro before next disturbs answered
  unfold CaptureAnswered at *
  split_ifs at answered ⊢ with captured own
  · exact ⟨may_debit_overage_stable _ _ before next disturbs answered.1,
      (closing_steady closing).stable before next disturbs answered.2⟩
  · exact ⟨may_debit_overage_stable _ _ before next disturbs answered.1,
      stable before next disturbs answered.2⟩
  · exact stable before next disturbs answered

variable {store : SettlementStore} {referenceId : String}

theorem execute_capture_answered (steady : Steady hold performs number assertion)
    {closing : Closing} (own : closing.caller = number)
    (covered : closing.capturedMicroUsd ≤ closing.costMicroUsd) {userId : String} {turn : Turn}
    {store next : SettlementStore} {reply : CaptureReply} (invariant : LedgerInvariant hold store)
    (held : assertion store)
    (ok : (Statement.captureReservation closing.path closing.costMicroUsd userId
      closing.referenceId closing.capturedMicroUsd).execute number turn store =
        .ok (next, reply)) :
    LedgerInvariant hold next ∧ StepAllowed hold (some number) store next ∧
      CaptureAnswered hold number assertion closing reply next := by
  subst own
  unfold CaptureAnswered
  rcases execute_capture_took ok with ⟨settled, same⟩ | ⟨captured, row, took⟩
  · subst same
    rw [settled, if_neg Bool.false_ne_true]
    exact ⟨invariant, step_allowed_refl hold _ _, held⟩
  · rw [if_pos captured]
    have allowed : StepAllowed hold (some closing.caller) store next :=
      capture_took_allowed took invariant
    by_cases ownHold : closing.referenceId = hold.referenceId
    · rcases capture_took_own took ownHold covered invariant with ⟨started, unspent, kept⟩
      have member : closing ∈ next.closingsOf hold.referenceId := by
        rw [started]
        exact List.mem_singleton_self _
      refine ⟨kept, allowed, ?_, ?_⟩
      · rw [MayDebitOverage, if_pos ownHold]
        exact ⟨⟨closing, member, rfl, rfl⟩, unspent⟩
      · rw [if_pos ownHold]
        exact started
    · rcases capture_took_other took ownHold invariant with ⟨untouched, kept⟩
      refine ⟨kept, allowed, ?_, ?_⟩
      · rw [MayDebitOverage, if_neg ownHold]
        exact (capture_took_plain took invariant).2
      · rw [if_neg ownHold]
        exact steady.kept store next allowed untouched.closings held

theorem safe_capture_reservation (accounting : Accounting hold performs number paid)
    (closing : Closing) (own : closing.caller = number)
    (covered : closing.capturedMicroUsd ≤ closing.costMicroUsd) (userId : String)
    (invariant : LedgerInvariant hold store) (held : SettledUp hold number paid store) :
    (settlementContract hold performs).Safe number
      (fun reply later => isEmptyText userId = false ∧ isEmptyText closing.referenceId = false ∧
        CaptureAnswered hold number (SettledUp hold number paid) closing reply later)
      (fun _ => SettledUp hold number paid)
      (Settlement.captureManagedVeniceReservation closing.path closing.costMicroUsd userId
        closing.referenceId closing.capturedMicroUsd) store := by
  have steady := settled_up_steady accounting
  let statement := Statement.captureReservation closing.path closing.costMicroUsd userId
    closing.referenceId closing.capturedMicroUsd
  let replied : statement.Reply → SettlementStore → Prop := fun reply =>
    match reply with
    | .ok answer => CaptureAnswered hold number (SettledUp hold number paid) closing answer
    | .error _ => SettledUp hold number paid
  unfold Settlement.captureManagedVeniceReservation
  simp only [Script.bind_eq]
  by_cases userEmpty : isEmptyText userId = true
  · rw [requireUserId, if_pos userEmpty]
    exact safe_raise steady.stable held
  rw [Bool.not_eq_true] at userEmpty
  rw [require_user_id_named userEmpty, Script.bind_ret]
  by_cases referenceEmpty : isEmptyText closing.referenceId = true
  · rw [requireReferenceId, if_pos referenceEmpty]
    exact safe_raise steady.stable held
  rw [Bool.not_eq_true] at referenceEmpty
  rw [require_reference_id_named referenceEmpty, Script.bind_ret]
  have repliedStable : ∀ reply, (settlementContract hold performs).Stable number
      (replied reply) := by
    intro reply
    cases reply with
    | ok answer => exact capture_answered_stable steady.stable closing answer
    | error _ => exact steady.stable
  have requested : (settlementContract hold performs).Safe number replied
      (fun _ => SettledUp hold number paid)
      (Script.request statement : Settlement statement.Reply) store := by
    apply safe_request (SettledUp hold number paid) held steady.stable repliedStable
    intro later turn invariantLater heldLater performed
    change LedgerInvariant hold (performStatement number statement turn later).1 ∧
      StepAllowed hold (some number) later (performStatement number statement turn later).1 ∧
        replied (performStatement number statement turn later).2
          (performStatement number statement turn later).1
    cases reply : (performStatement number statement turn later).2 with
    | ok answer =>
      exact execute_capture_answered steady own covered invariantLater heldLater
        (perform_statement_answer reply)
    | error failure =>
      have unchanged : (performStatement number statement turn later).1 = later →
          LedgerInvariant hold (performStatement number statement turn later).1 ∧
            StepAllowed hold (some number) later
              (performStatement number statement turn later).1 ∧
            SettledUp hold number paid (performStatement number statement turn later).1 := by
        intro same
        rw [same]
        exact ⟨invariantLater, step_allowed_refl hold _ later, heldLater⟩
      rcases perform_statement_store number statement turn later with same | ⟨answer, ok⟩
      · exact unchanged same
      · rcases perform_statement_error reply ok with lost | ⟨_, same⟩
        · -- the capture took effect and its answer was lost
          rcases execute_capture_answered steady own covered invariantLater heldLater ok with
            ⟨kept, allowed, answered⟩
          refine ⟨kept, allowed, ?_⟩
          unfold CaptureAnswered at answered
          split_ifs at answered with captured ownHold
          · apply settled_up_of_paid paid answered.2
            intro owed
            have short : closing.capturedMicroUsd < closing.costMicroUsd :=
              Nat.lt_of_sub_pos owed
            have performedHold : performs number (.captureReservation closing.path
                closing.costMicroUsd userId hold.referenceId closing.capturedMicroUsd) turn
                  later := ownHold ▸ performed
            rcases accounting.delivered _ _ _ _ _ _ performedHold short with delivered | always
            · exact absurd lost delivered
            · exact always closing _
          · exact answered.2
          · exact answered
        · exact unchanged same
  apply safe_bind invariant requested
  intro reply later _ after
  cases reply with
  | ok answer =>
    intro last interference
    exact ⟨userEmpty, referenceEmpty,
      stable_interference (capture_answered_stable steady.stable closing answer) interference
        after⟩
  | error failure => exact safe_raise steady.stable after

def DutyMet (overageMicroUsd : Nat) (assertion goal : SettlementStore → Prop)
    (store : SettlementStore) : Prop :=
  assertion store ∧ (0 < overageMicroUsd → goal store)

theorem duty_met_stable {path : SettlementPath}
    (duty : Duty hold performs number path referenceId overageMicroUsd assertion goal) :
    (settlementContract hold performs).Stable number (DutyMet overageMicroUsd assertion goal) := by
  intro before next disturbs met
  exact ⟨duty.steady.stable before next disturbs met.1,
    fun owed => goal_stable duty before next disturbs (met.2 owed)⟩

theorem safe_after_capture (accounting : Accounting hold performs number paid)
    (closing : Closing) (own : closing.caller = number)
    {Outcome : Type} {script : Settlement Outcome} {reply : CaptureReply}
    (captured : reply.captured = true)
    {store : SettlementStore} (invariant : LedgerInvariant hold store)
    (answered : CaptureAnswered hold number (SettledUp hold number paid) closing reply store)
    (dutiful : ∀ {assertion goal : SettlementStore → Prop},
      Duty hold performs number closing.path closing.referenceId closing.overageMicroUsd
          assertion goal →
        ∀ later, LedgerInvariant hold later → assertion later →
          MayDebitOverage hold number closing.referenceId closing.overageMicroUsd later →
            (settlementContract hold performs).Safe number
              (fun _ => DutyMet closing.overageMicroUsd assertion goal)
              (fun _ => DutyMet closing.overageMicroUsd assertion goal) script later) :
    (settlementContract hold performs).Safe number (fun _ => SettledUp hold number paid)
      (fun _ => SettledUp hold number paid) script store := by
  rw [CaptureAnswered, if_pos captured] at answered
  rcases answered with ⟨may, held⟩
  by_cases ownHold : closing.referenceId = hold.referenceId
  · rw [if_pos ownHold] at held
    have duty := own_duty accounting own
    rw [← ownHold] at duty
    have met : ∀ later, DutyMet closing.overageMicroUsd
        (fun store => store.closingsOf closing.referenceId = [closing]) (paid closing) later →
          SettledUp hold number paid later := by
      intro later ⟨closings, paidFor⟩
      rw [ownHold] at closings
      exact settled_up_of_paid paid closings paidFor
    rw [← ownHold] at held
    apply safe_weaken (dutiful duty store invariant held may)
    · exact fun _ later => met later
    · exact fun _ later => met later
  · rw [if_neg ownHold] at held
    have duty := other_duty (settled_up_steady accounting) closing.path closing.referenceId
      closing.overageMicroUsd
    apply safe_weaken (dutiful duty store invariant held may)
    · exact fun _ later met => met.1
    · exact fun _ later met => met.1

theorem safe_settle_hold_cost_overage {path : SettlementPath} {row : Reservation}
    (duty : Duty hold performs number path row.referenceId overageMicroUsd assertion goal)
    (named : isEmptyText row.userId = false) (proxyKeyId : Option String) (costMicroUsd : Nat)
    (cause : String) (invariant : LedgerInvariant hold store) (held : assertion store)
    (may : MayDebitOverage hold number row.referenceId overageMicroUsd store) :
    (settlementContract hold performs).Safe number
      (fun _ => DutyMet overageMicroUsd assertion goal) (fun _ _ => False)
      (settleHoldCostOverage row proxyKeyId costMicroUsd overageMicroUsd cause) store := by
  have metStable := duty_met_stable duty
  have debit : (settlementContract hold performs).Safe number
      (fun status later => assertion later ∧ DebitOutcome overageMicroUsd goal status later)
      (fun _ _ => False)
      ((debitManagedVeniceOverage row.userId row.walletType row.referenceId
        overageMicroUsd).handle fun _ => .ret .debitFailed) store := by
    have attempted : (settlementContract hold performs).Safe number
        (fun status later => assertion later ∧ DebitOutcome overageMicroUsd goal status later)
        (fun _ later => assertion later ∧ 0 < overageMicroUsd)
        (debitManagedVeniceOverage row.userId row.walletType row.referenceId overageMicroUsd)
        store := by
      apply safe_weaken (safe_overage_debit duty named row.walletType invariant held may)
      · exact fun _ _ outcome => ⟨outcome.1, outcome.2.2⟩
      · exact fun _ _ threw => ⟨threw.1, threw.2.1⟩
    apply safe_handle invariant attempted
    intro failure later _ threw last interference
    exact ⟨stable_interference duty.steady.stable interference threw.1, threw.2⟩
  apply safe_bind invariant debit
  intro status later invariantLater known
  by_cases uncovered : status = .reconciliationRequired ∨ status = .debitFailed
  · rw [if_pos uncovered]
    have owed : 0 < overageMicroUsd := by
      rcases uncovered with refused | failed
      · subst refused
        exact known.2
      · subst failed
        exact known.2
    have filed := safe_file_uncovered_overage duty owed named proxyKeyId row.model
      (some row.reservedMicroUsd) costMicroUsd row.walletType
      (status == .reconciliationRequired) (some cause) invariantLater known.1
    have returned : (settlementContract hold performs).Safe number
        (fun _ => DutyMet overageMicroUsd assertion goal)
        (fun _ later => assertion later ∧ goal later)
        ((fileManagedVeniceUncoveredOverage row.userId proxyKeyId row.referenceId row.model
          (some row.reservedMicroUsd) costMicroUsd overageMicroUsd row.walletType
          (status == .reconciliationRequired) (some cause)).bind fun _ => .ret status) later := by
      apply safe_bind invariantLater filed
      intro _ last _ met
      exact safe_ret metStable ⟨met.1, fun _ => met.2⟩
    apply safe_handle invariantLater returned
    intro failure last _ met
    exact safe_ret metStable ⟨met.1, fun _ => met.2⟩
  · rw [if_neg uncovered]
    have met : DutyMet overageMicroUsd assertion goal later := by
      constructor
      · exact known.1
      · intro owed
        cases status with
        | none => exact absurd known.2 (Nat.ne_of_gt owed)
        | captured => exact known.2
        | reconciliationRequired => exact absurd (.inl rfl) uncovered
        | debitFailed => exact absurd (.inr rfl) uncovered
    exact safe_ret metStable met

theorem keeps_capture_hold_cost (accounting : Accounting hold performs number paid)
    (row : Reservation) (proxyKeyId : Option String) (costMicroUsd : Nat) (cause : String) :
    (settlementContract hold performs).Keeps number (SettledUp hold number paid)
      (captureManagedVeniceHoldCost row proxyKeyId costMicroUsd cause) := by
  intro store invariant held
  have stable := (settled_up_steady accounting).stable
  let closing : Closing :=
    { caller := number
      referenceId := row.referenceId
      path := .holdCost
      costMicroUsd
      capturedMicroUsd := min row.reservedMicroUsd costMicroUsd }
  have covered : closing.capturedMicroUsd ≤ closing.costMicroUsd := Nat.min_le_right _ _
  apply safe_bind invariant
    (safe_capture_reservation accounting closing rfl covered row.userId invariant held)
  intro reply later invariantLater answered
  cases captured : reply.captured with
  | false =>
    have kept := answered.2.2
    rw [CaptureAnswered, captured, if_neg Bool.false_ne_true] at kept
    exact safe_ret stable kept
  | true =>
    apply safe_after_capture accounting closing rfl captured invariantLater
      answered.2.2
    intro assertion goal duty last invariantLast heldLast may
    apply safe_bind invariantLast
      (safe_weaken
        (safe_settle_hold_cost_overage duty answered.1 proxyKeyId costMicroUsd cause
          invariantLast heldLast may)
        (fun _ _ met => met) (fun _ _ impossible => impossible.elim))
    intro status final _ met
    exact safe_ret (duty_met_stable duty) met

theorem safe_chat_usage_record {referenceId : String}
    (duty : Duty hold performs number .chatUsage referenceId overageMicroUsd assertion goal)
    (request : ChatUsage) (cost : ChatUsageCost) (row : Option Reservation)
    (sameReference : request.referenceId = referenceId)
    (overageEq : cost.actualCostMicroUsd - cappedCapture row cost.actualCostMicroUsd =
      overageMicroUsd) (userNamed : isEmptyText request.userId = false)
    (referenceNamed : isEmptyText request.referenceId = false) {status : OverageStatus}
    (debited : status ≠ .debitFailed) {store : SettlementStore}
    (invariant : LedgerInvariant hold store) (held : assertion store)
    (outcome : DebitOutcome overageMicroUsd goal status store) :
    (settlementContract hold performs).Safe number
      (fun _ => DutyMet overageMicroUsd assertion goal)
      (fun _ => DutyMet overageMicroUsd assertion goal)
      (request.record cost row status) store := by
  subst sameReference
  have metStable := duty_met_stable duty
  have metOf : ∀ later, assertion later ∧ goal later →
      DutyMet overageMicroUsd assertion goal later :=
    fun later both => ⟨both.1, fun _ => both.2⟩
  cases status with
  | none =>
    have nothing : ∀ later, assertion later → DutyMet overageMicroUsd assertion goal later :=
      fun later kept => ⟨kept, fun owed => absurd outcome (Nat.ne_of_gt owed)⟩
    apply safe_weaken (keeps_chat_usage_record duty.steady request cost row .none store invariant
      held)
    · exact fun _ later => nothing later
    · exact fun _ later => nothing later
  | captured =>
    apply safe_weaken (keeps_chat_usage_record (duty_met_steady duty) request cost row .captured
      store invariant ⟨held, outcome⟩)
    · exact fun _ later => metOf later
    · exact fun _ later => metOf later
  | debitFailed => exact absurd rfl debited
  | reconciliationRequired =>
    have owed : 0 < overageMicroUsd := outcome
    have keyNamed : isEmptyText ("managed_venice_usage_capture:" ++ request.referenceId) =
        false := by
      rw [is_empty_text_append, referenceNamed, Bool.and_false]
    have recorded : (settlementContract hold performs).Safe number
        (fun _ => DutyMet overageMicroUsd assertion goal)
        (fun _ later => assertion later ∧ goal later)
        (request.record cost row .reconciliationRequired) store := by
      unfold ChatUsage.record
      apply safe_bind invariant
        (certain_ensure_wallet_account duty owed rfl rfl userNamed store invariant held)
      intro account later invariantLater heldLater
      apply safe_bind invariantLater (certain_ask duty owed rfl rfl later invariantLater heldLater)
      intro _ later invariantLater heldLater
      apply safe_bind invariantLater
        (certain_append_financial_event duty owed (request.financialEvent cost account.id _)
          userNamed referenceNamed keyNamed later invariantLater heldLater)
      intro _ later invariantLater heldLater
      apply safe_bind invariantLater
        (safe_weaken (safe_file_surcharge duty.steady request cost invariantLater heldLater)
          (fun _ _ kept => kept) (fun _ _ impossible => impossible.elim))
      intro _ later invariantLater heldLater
      rw [if_pos rfl, overageEq]
      apply safe_bind invariantLater
        (safe_file_uncovered_overage duty owed userNamed _ _ _ _ _ _ _ invariantLater heldLater)
      intro _ last _ met
      exact safe_ret metStable (metOf last met)
    apply safe_weaken recorded
    · exact fun _ _ met => met
    · exact fun _ later => metOf later

section

variable (accounting : Accounting hold performs number paid)
include accounting

theorem keeps_capture_chat_usage (request : ChatUsage) :
    (settlementContract hold performs).Keeps number (SettledUp hold number paid)
      (captureManagedVeniceChatUsage request) := by
  have steady := settled_up_steady accounting
  unfold captureManagedVeniceChatUsage
  cases request.price with
  | error failure => exact keeps_raise steady.stable _
  | ok priced =>
    apply keeps_bind (keeps_ask_quiet steady rfl)
    intro row store invariant held
    let cost := request.cost priced row
    let closing : Closing :=
      { caller := number
        referenceId := request.referenceId
        path := .chatUsage
        costMicroUsd := cost.actualCostMicroUsd
        capturedMicroUsd := cappedCapture row cost.actualCostMicroUsd }
    have covered : closing.capturedMicroUsd ≤ closing.costMicroUsd := by
      cases row with
      | none => exact Nat.le_refl _
      | some row => exact Nat.min_le_left _ _
    apply safe_bind invariant
      (safe_capture_reservation accounting closing rfl covered request.userId invariant held)
    intro reply later invariantLater answered
    cases captured : reply.captured with
    | false =>
      have kept := answered.2.2
      rw [CaptureAnswered, captured, if_neg Bool.false_ne_true] at kept
      exact safe_ret steady.stable kept
    | true =>
      apply safe_after_capture accounting closing rfl captured invariantLater answered.2.2
      intro assertion goal duty last invariantLast heldLast may
      have debit : (settlementContract hold performs).Safe number
          (fun status later => assertion later ∧ status ≠ .debitFailed ∧
            DebitOutcome closing.overageMicroUsd goal status later)
          (fun _ => DutyMet closing.overageMicroUsd assertion goal)
          (debitManagedVeniceOverage request.userId request.walletType request.referenceId
            closing.overageMicroUsd) last := by
        apply safe_weaken
          (safe_overage_debit duty answered.1 request.walletType invariantLast heldLast may)
        · exact fun _ _ outcome => outcome
        · exact fun _ _ threw => ⟨threw.1, fun _ => threw.2.2 rfl⟩
      apply safe_bind invariantLast debit
      intro status final invariantFinal outcome
      exact safe_chat_usage_record duty request cost row rfl rfl answered.1 answered.2.1
        outcome.2.1 invariantFinal outcome.1 outcome.2.2

theorem keeps_observed_output (request : ObservedOutput) :
    (settlementContract hold performs).Keeps number (SettledUp hold number paid)
      (captureManagedVeniceObservedOutput request) := by
  have steady := settled_up_steady accounting
  apply keeps_handle
  · apply keeps_bind (keeps_ask_quiet steady rfl)
    intro row
    cases row with
    | none => exact keeps_ret steady.stable _
    | some row =>
      dsimp only
      split_ifs
      · apply keeps_bind (keeps_capture_hold_cost accounting _ _ _ _)
        intro charge
        cases charge with
        | none => exact keeps_ret steady.stable _
        | some charge =>
          exact keeps_then_ret steady (keeps_record_estimated_capture steady _ _ _ _ _ _ _) _
      · exact keeps_ret steady.stable _
  · intro failure
    apply keeps_handle
    · exact keeps_then_ret steady (keeps_mark_reconciliation steady _ _ _ _ _ _) _
    · intro failure
      exact keeps_ret steady.stable _

theorem keeps_release_or_file (request : Release) :
    (settlementContract hold performs).Keeps number (SettledUp hold number paid)
      (releaseManagedVeniceChatReservationOrFile request) := by
  have steady := settled_up_steady accounting
  apply keeps_handle
  · apply keeps_bind (keeps_release_reservation steady _ _)
    intro released
    cases released with
    | none => exact keeps_ret steady.stable _
    | some released => exact keeps_ret steady.stable _
  · intro failure
    apply keeps_handle
    · exact keeps_then_ret steady (keeps_mark_reconciliation steady _ _ _ _ _ _) _
    · intro failure
      exact keeps_ret steady.stable _

theorem keeps_settle_stream (request : ChatUsage) (captureFailed : String)
    (observedOutputTokens : Nat) :
    (settlementContract hold performs).Keeps number (SettledUp hold number paid)
      (settleStream request captureFailed observedOutputTokens) := by
  have steady := settled_up_steady accounting
  apply keeps_handle
  · exact keeps_then_ret steady (keeps_capture_chat_usage accounting request) _
  · intro failure
    apply keeps_handle
    · exact keeps_then_ret steady (keeps_mark_reconciliation steady _ _ _ _ _ _) _
    · intro _
      exact keeps_ret steady.stable _

theorem keeps_settle_usage (request : ChatUsage) (cause : String)
    (observedOutputTokens : Option Nat) :
    (settlementContract hold performs).Keeps number (SettledUp hold number paid)
      (settleManagedVeniceChatUsage request cause observedOutputTokens) := by
  have steady := settled_up_steady accounting
  apply keeps_handle
  · exact keeps_then_ret steady (keeps_capture_chat_usage accounting request) _
  · intro failure
    exact keeps_then_ret steady (keeps_mark_reconciliation steady _ _ _ _ _ _) _

theorem keeps_capture_hold (row : Reservation) (item : Option ReconciliationItem)
    (disposition : SweepDisposition) :
    (settlementContract hold performs).Keeps number (SettledUp hold number paid)
      (captureHold row item disposition) := by
  have steady := settled_up_steady accounting
  unfold captureHold
  apply keeps_bind
  · apply keeps_handle
    · exact keeps_then_ret steady (keeps_capture_hold_cost accounting _ _ _ _) _
    · intro failure
      exact keeps_ret steady.stable _
  · intro charge
    rcases charge with failure | _ | charge
    · exact keeps_ret steady.stable _
    · exact keeps_ret steady.stable _
    · exact keeps_then_ret steady (keeps_record_estimated_capture steady _ _ _ _ _ _ _) _

theorem keeps_release_hold (item : ReconciliationItem) (referenceId : String)
    (disposition : SweepDisposition) :
    (settlementContract hold performs).Keeps number (SettledUp hold number paid)
      (releaseHold item referenceId disposition) := by
  have steady := settled_up_steady accounting
  apply keeps_handle
  · apply keeps_bind (keeps_release_reservation steady _ _)
    intro released
    cases released with
    | none => exact keeps_ret steady.stable _
    | some released => exact keeps_ret steady.stable _
  · intro failure
    exact keeps_ret steady.stable _

theorem keeps_settle_item_hold (item : ReconciliationItem) (referenceId : String)
    (unknownOutcomeCutoff : Nat) (row : Reservation) :
    (settlementContract hold performs).Keeps number (SettledUp hold number paid)
      (settleItemHold item referenceId unknownOutcomeCutoff row) := by
  have steady := settled_up_steady accounting
  unfold settleItemHold
  cases row.status with
  | active =>
    dsimp only
    split_ifs
    · exact keeps_release_hold accounting _ _ _
    · exact keeps_ret steady.stable _
    · exact keeps_release_hold accounting _ _ _
    · exact keeps_capture_hold accounting _ _ _
  | captured => exact keeps_ret steady.stable _
  | released => exact keeps_ret steady.stable _
  | expired => exact keeps_ret steady.stable _
  | reconciliationRequired => exact keeps_ret steady.stable _

theorem keeps_settle_item (item : ReconciliationItem) (unknownOutcomeCutoff : Nat) :
    (settlementContract hold performs).Keeps number (SettledUp hold number paid)
      (settleItem item unknownOutcomeCutoff) := by
  have steady := settled_up_steady accounting
  apply keeps_bind
  · cases item.metadata.readReferenceId with
    | none => exact keeps_ret steady.stable _
    | some referenceId =>
      apply keeps_bind (keeps_ask_quiet steady rfl)
      intro row
      cases row with
      | none => exact keeps_ret steady.stable _
      | some row => exact keeps_settle_item_hold accounting item referenceId _ row
  · intro settlement
    exact keeps_ret steady.stable _

end

def AllKnown (items : List ReconciliationItem) (store : SettlementStore) : Prop :=
  ∀ item ∈ items, Known item store

theorem all_known_kept
    (items : List ReconciliationItem) (who : Option Nat) (before after : SettlementStore)
    (allowed : StepAllowed hold who before after) (known : AllKnown items before) :
    AllKnown items after :=
  fun item member => known_kept allowed (known item member)

section

variable (accounting : Accounting hold performs number paid)
include accounting

theorem settled_and_known_steady (items : List ReconciliationItem) : Steady hold performs number
      (fun store => SettledUp hold number paid store ∧ AllKnown items store) where
  stable := by
    apply stable_and (settled_up_steady accounting).stable
    rintro before next ⟨_, _, other, _, allowed⟩ known
    exact all_known_kept items other before next allowed known
  kept := by
    intro before after allowed same held
    exact ⟨(settled_up_steady accounting).kept before after allowed same held.1,
      all_known_kept items _ before after allowed held.2⟩

theorem keeps_close_item {items : List ReconciliationItem} {item : ReconciliationItem}
    (member : item ∈ items) (result : SweepResult) : (settlementContract hold performs).Keeps number
      (fun store => SettledUp hold number paid store ∧ AllKnown items store)
      (closeItem item result) := by
  have steady := settled_and_known_steady accounting items
  apply keeps_ask steady.stable
  apply keeps_statement steady.stable
  intro turn store next answer invariant held _ ok
  have effect : Untouched hold (some number) store next ∧
      next.wallets.reservations = store.wallets.reservations :=
    execute_close_item (held.2 item member) ok
  have allowed := effect.1.toStepAllowed
  exact ⟨same_holds_invariant effect.1 effect.2 invariant, allowed,
    steady.kept store next allowed effect.1.closings held⟩

theorem keeps_settle_items (unknownOutcomeCutoff : Nat) (items queue : List ReconciliationItem)
    (queued : ∀ item ∈ queue, item ∈ items) : (settlementContract hold performs).Keeps number
      (fun store => SettledUp hold number paid store ∧ AllKnown items store)
      (settleItems unknownOutcomeCutoff queue) := by
  have steady := settled_and_known_steady accounting items
  induction queue with
  | nil => exact keeps_ret steady.stable _
  | cons item queue ih =>
    unfold settleItems
    have settled : (settlementContract hold performs).Keeps number
        (fun store => SettledUp hold number paid store ∧ AllKnown items store)
        (settleItem item unknownOutcomeCutoff) :=
      keeps_frame (all_known_kept items)
        (keeps_settle_item accounting item unknownOutcomeCutoff)
    apply keeps_bind settled
    intro result
    apply keeps_bind
    · unfold closeSettledItem
      split_ifs
      · exact keeps_ret steady.stable _
      · exact keeps_then_ret steady (keeps_close_item accounting (queued item List.mem_cons_self) result) _
    · intro closed
      apply keeps_bind
      · apply ih
        intro other member
        exact queued other (List.mem_cons_of_mem item member)
      · intro rest
        exact keeps_ret steady.stable _

theorem keeps_settle_expired_holds (rows : List Reservation) :
    (settlementContract hold performs).Keeps number (SettledUp hold number paid)
      (settleExpiredHolds rows) := by
  have steady := settled_up_steady accounting
  induction rows with
  | nil => exact keeps_ret steady.stable _
  | cons row rows ih =>
    unfold settleExpiredHolds
    apply keeps_bind
    · unfold settleExpiredHold
      apply keeps_bind (keeps_ask_quiet steady rfl)
      intro waiting
      apply keeps_bind
      · unfold settleUndecidedHold
        split_ifs
        · exact keeps_ret steady.stable _
        · exact keeps_capture_hold accounting _ _ _
      · intro settlement
        exact keeps_ret steady.stable _
    · intro result
      apply keeps_bind ih
      intro rest
      exact keeps_ret steady.stable _

theorem safe_load_items (items : List ReconciliationItem) (query : ItemQuery) (cutoff limit : Nat)
    (invariant : LedgerInvariant hold store)
    (held : SettledUp hold number paid store ∧ AllKnown items store) :
    (settlementContract hold performs).Safe number
      (fun loaded later => SettledUp hold number paid later ∧ AllKnown (items ++ loaded) later)
      (fun _ => SettledUp hold number paid) (loadItems query cutoff limit) store := by
  have steady := settled_and_known_steady accounting items
  have both : ∀ (loaded : List ReconciliationItem) later,
      (SettledUp hold number paid later ∧ AllKnown items later) → AllKnown loaded later →
        SettledUp hold number paid later ∧ AllKnown (items ++ loaded) later := by
    intro loaded later kept known
    constructor
    · exact kept.1
    · intro item member
      rcases List.mem_append.mp member with old | new
      · exact kept.2 item old
      · exact known item new
  unfold loadItems
  split_ifs
  · have nothing := both [] store held (fun _ impossible => by cases impossible)
    exact safe_ret (settled_and_known_steady accounting (items ++ [])).stable nothing
  · let statement := Statement.loadOpenItems query cutoff limit
    let replied : statement.Reply → SettlementStore → Prop := fun reply later =>
      match reply with
      | .ok loaded => SettledUp hold number paid later ∧ AllKnown (items ++ loaded) later
      | .error _ => SettledUp hold number paid later
    have repliedStable : ∀ reply, (settlementContract hold performs).Stable number
        (replied reply) := by
      intro reply
      cases reply with
      | ok loaded => exact (settled_and_known_steady accounting (items ++ loaded)).stable
      | error _ => exact (settled_up_steady accounting).stable
    have requested : (settlementContract hold performs).Safe number replied
        (fun _ => SettledUp hold number paid)
        (Script.request statement : Settlement statement.Reply) store := by
      apply safe_request
        (fun later => SettledUp hold number paid later ∧ AllKnown items later) held steady.stable
        repliedStable
      intro later turn invariantLater heldLater _
      change LedgerInvariant hold (performStatement number statement turn later).1 ∧
        StepAllowed hold (some number) later (performStatement number statement turn later).1 ∧
          replied (performStatement number statement turn later).2
            (performStatement number statement turn later).1
      have same : (performStatement number statement turn later).1 = later := by
        rcases perform_statement_store number statement turn later with same | ⟨answer, ok⟩
        · exact same
        · simp only [statement, Statement.execute, Except.ok.injEq, Prod.mk.injEq] at ok
          exact ok.1.symm
      cases reply : (performStatement number statement turn later).2 with
      | error failure =>
        rw [same]
        exact ⟨invariantLater, step_allowed_refl hold _ later, heldLater.1⟩
      | ok loaded =>
        have ok := perform_statement_answer reply
        rw [same] at ok ⊢
        refine ⟨invariantLater, step_allowed_refl hold _ later, both loaded later heldLater ?_⟩
        intro item member
        simp only [statement, Statement.execute, Except.ok.injEq, Prod.mk.injEq, true_and] at ok
        rw [← ok] at member
        have sorted := List.mem_of_mem_take member
        have selected := (List.perm_insertionSort notLater _).mem_iff.mp sorted
        exact ⟨item, (List.mem_filter.mp selected).1, rfl⟩
    apply safe_bind invariant requested
    intro reply later _ after
    cases reply with
    | ok loaded =>
      exact safe_ret (settled_and_known_steady accounting (items ++ loaded)).stable after
    | error failure => exact safe_raise (settled_up_steady accounting).stable after

theorem keeps_sweep (times : Sweep) :
    (settlementContract hold performs).Keeps number (SettledUp hold number paid)
      (sweepStaleManagedVeniceReservations times) := by
  have steady := settled_up_steady accounting
  intro store invariant held
  unfold sweepStaleManagedVeniceReservations
  apply safe_bind invariant
    (safe_load_items accounting [] _ _ _ invariant
      ⟨held, fun _ impossible => by cases impossible⟩)
  intro sweepable later invariantLater known
  apply safe_bind invariantLater (safe_load_items accounting _ _ _ _ invariantLater known)
  intro responses later invariantLater known
  apply safe_bind invariantLater (safe_load_items accounting _ _ _ _ invariantLater known)
  intro unknown later invariantLater known
  rw [List.nil_append] at known
  have settled : (settlementContract hold performs).Safe number
      (fun _ => SettledUp hold number paid) (fun _ => SettledUp hold number paid)
      (settleItems (times.now - times.unknownOutcomeAgeMs) (sweepable ++ responses ++ unknown))
      later := by
    apply safe_weaken
      (keeps_settle_items accounting _ _ (sweepable ++ responses ++ unknown)
        (fun _ member => member) later invariantLater known)
    · exact fun _ _ kept => kept.1
    · exact fun _ _ kept => kept.1
  apply safe_bind invariantLater settled
  intro results later invariantLater heldLater
  have rest : (settlementContract hold performs).Keeps number (SettledUp hold number paid)
      ((loadExpiredHolds times.now times.expiredHoldLimit).bind fun expired =>
        (settleExpiredHolds expired).bind fun settledHolds => .ret
          ({ scanned := (sweepable ++ responses ++ unknown).length + expired.length
             closed := results.2
             results := results.1 ++ settledHolds } : SweepSummary)) := by
    apply keeps_bind
    · unfold loadExpiredHolds
      split_ifs
      · exact keeps_ret steady.stable _
      · exact keeps_ask_quiet steady rfl
    · intro expired
      exact keeps_then_ret steady (keeps_settle_expired_holds accounting expired) _
  exact rest later invariantLater heldLater

theorem keeps_job (job : SettlementJob) :
    (settlementContract hold performs).Keeps number (SettledUp hold number paid) job.script := by
  have steady := settled_up_steady accounting
  cases job with
  | chatUsage request =>
    exact keeps_bind (keeps_capture_chat_usage accounting request)
      (fun _ => keeps_ret steady.stable _)
  | settleStream request captureFailed observedOutputTokens =>
    exact keeps_bind (keeps_settle_stream accounting request _ _)
      (fun _ => keeps_ret steady.stable _)
  | settleUsage request cause observedOutputTokens =>
    exact keeps_bind (keeps_settle_usage accounting request _ _)
      (fun _ => keeps_ret steady.stable _)
  | observedOutput request =>
    exact keeps_bind (keeps_observed_output accounting request)
      (fun _ => keeps_ret steady.stable _)
  | holdCost row proxyKeyId costMicroUsd cause =>
    exact keeps_bind (keeps_capture_hold_cost accounting row _ _ _)
      (fun _ => keeps_ret steady.stable _)
  | release userId referenceId =>
    exact keeps_bind (keeps_release_reservation steady userId referenceId)
      (fun _ => keeps_ret steady.stable _)
  | releaseOrFile request =>
    exact keeps_bind (keeps_release_or_file accounting request)
      (fun _ => keeps_ret steady.stable _)
  | sweep times =>
    exact keeps_bind (keeps_sweep accounting times) (fun _ => keeps_ret steady.stable _)

end

end Captures

end Hivra.ManagedVenice
