import Hivra.ManagedVenice.SettlementContract

/-!
# Scripts that leave the ledger of a hold alone

The helpers of the settlement code keep the ledger of a hold, and whatever else
only a closing can make false, because each of their statements does.
-/

namespace Hivra.ManagedVenice

open Hivra.Library
open Hivra.Library.Contract

/-- An assertion of run `number` that only closing the hold can make false. -/
structure Steady (hold : Reservation)
    (performs : Nat → Statement → Turn → SettlementStore → Prop) (number : Nat)
    (assertion : SettlementStore → Prop) : Prop where
  stable : (settlementContract hold performs).Stable number assertion
  kept : ∀ before after, StepAllowed hold (some number) before after →
    after.closingsOf hold.referenceId = before.closingsOf hold.referenceId →
      assertion before → assertion after

section Runs

variable {hold : Reservation}
variable {performs : Nat → Statement → Turn → SettlementStore → Prop}
variable {number : Nat} {assertion : SettlementStore → Prop}

section

variable (stable : (settlementContract hold performs).Stable number assertion)
include stable

theorem keeps_statement {statement : Statement}
    (executed : ∀ turn store next answer, LedgerInvariant hold store → assertion store →
      performs number statement turn store →
        statement.execute number turn store = .ok (next, answer) →
          LedgerInvariant hold next ∧ StepAllowed hold (some number) store next ∧
            assertion next) :
    (settlementContract hold performs).Keeps number assertion
      (Script.request statement : Settlement statement.Reply) := by
  apply keeps_request stable
  intro store turn invariant held performed
  rcases perform_statement_store number statement turn store with same | ⟨answer, ok⟩
  · change LedgerInvariant hold (performStatement number statement turn store).1 ∧
      StepAllowed hold (some number) store (performStatement number statement turn store).1 ∧
        assertion (performStatement number statement turn store).1
    rw [same]
    exact ⟨invariant, step_allowed_refl hold _ store, held⟩
  · exact executed turn store _ answer invariant held performed ok

omit stable in
theorem keeps_quiet (steady : Steady hold performs number assertion)
    {statement : Statement} (quiet : statement.isQuiet = true) :
    (settlementContract hold performs).Keeps number assertion
      (Script.request statement : Settlement statement.Reply) := by
  apply keeps_statement steady.stable
  intro turn store next answer invariant held _ ok
  have effect : Untouched hold (some number) store next ∧
      next.wallets.reservations = store.wallets.reservations := execute_quiet quiet ok
  have allowed := effect.1.toStepAllowed
  exact ⟨same_holds_invariant effect.1 effect.2 invariant, allowed,
    steady.kept store next allowed effect.1.closings held⟩

omit stable in
theorem keeps_release_statement (steady : Steady hold performs number assertion)
    (id : String) (releasedMicroUsd : Nat) :
    (settlementContract hold performs).Keeps number assertion
      (Script.request (Statement.releaseReservation id releasedMicroUsd) :
        Settlement (Statement.releaseReservation id releasedMicroUsd).Reply) := by
  apply keeps_statement steady.stable
  intro turn store next answer invariant held _ ok
  have effect : Untouched hold (some number) store next ∧ LedgerInvariant hold next :=
    execute_release ok invariant
  have allowed := effect.1.toStepAllowed
  exact ⟨effect.2, allowed, steady.kept store next allowed effect.1.closings held⟩

theorem keeps_ask
    {statement : Statement} (keeps : (settlementContract hold performs).Keeps number assertion
      (Script.request statement : Settlement statement.Reply)) :
    (settlementContract hold performs).Keeps number assertion (ask statement) := by
  apply keeps_bind keeps
  intro reply
  cases reply with
  | ok answer => exact keeps_ret stable answer
  | error failure => exact keeps_raise stable _

omit stable in
theorem keeps_ask_quiet (steady : Steady hold performs number assertion)
    {statement : Statement} (quiet : statement.isQuiet = true) :
    (settlementContract hold performs).Keeps number assertion (ask statement) :=
  keeps_ask steady.stable (keeps_quiet steady quiet)

theorem keeps_require_user_id (userId : String) :
    (settlementContract hold performs).Keeps number assertion (requireUserId userId) := by
  unfold requireUserId
  split_ifs
  · exact keeps_raise stable _
  · exact keeps_ret stable _

theorem keeps_require_reference_id (referenceId : String) :
    (settlementContract hold performs).Keeps number assertion (requireReferenceId referenceId) := by
  unfold requireReferenceId
  split_ifs
  · exact keeps_raise stable _
  · exact keeps_ret stable _

end

section

variable (steady : Steady hold performs number assertion)
include steady

theorem keeps_then_ret {Outcome Result : Type} {script : Settlement Outcome}
    (keeps : (settlementContract hold performs).Keeps number assertion script)
    (result : Outcome → Result) : (settlementContract hold performs).Keeps number assertion
      (script.bind fun outcome => .ret (result outcome)) := by
  apply keeps_bind keeps
  intro outcome
  exact keeps_ret steady.stable _

theorem keeps_ensure_wallet_account (purpose : AccountUse) (userId : String) :
    (settlementContract hold performs).Keeps number assertion
      (ensureManagedVeniceWalletAccount purpose userId) := by
  apply keeps_bind (keeps_require_user_id steady.stable userId)
  intro _
  apply keeps_bind (keeps_ask_quiet steady rfl)
  intro account
  cases account with
  | some account => exact keeps_ret steady.stable account
  | none =>
    apply keeps_bind (keeps_ask_quiet steady rfl)
    intro _
    apply keeps_bind (keeps_ask_quiet steady rfl)
    intro account
    cases account with
    | some account => exact keeps_ret steady.stable account
    | none => exact keeps_raise steady.stable _

theorem keeps_wallet_summary (userId : String) :
    (settlementContract hold performs).Keeps number assertion
      (getManagedVeniceWalletSummary userId) := by
  apply keeps_bind (keeps_require_user_id steady.stable userId)
  intro _
  apply keeps_bind (keeps_ensure_wallet_account steady _ _)
  intro _
  apply keeps_bind (keeps_ask_quiet steady rfl)
  intro lots
  apply keeps_bind (keeps_ask_quiet steady rfl)
  intro entries
  exact keeps_then_ret steady (keeps_ask_quiet steady rfl) _

theorem keeps_release_reservation (userId referenceId : String) :
    (settlementContract hold performs).Keeps number assertion
      (releaseManagedVeniceReservation userId referenceId) := by
  apply keeps_bind (keeps_require_user_id steady.stable userId)
  intro _
  apply keeps_bind (keeps_ask_quiet steady rfl)
  intro row
  cases row with
  | none => exact keeps_ret steady.stable _
  | some row =>
    dsimp only
    split_ifs
    · exact keeps_then_ret steady (keeps_ask steady.stable (keeps_release_statement steady _ _)) _
    · exact keeps_ret steady.stable _

theorem keeps_appended_financial_event (event : FinancialEvent) (reply : Except SqlError Unit) :
    (settlementContract hold performs).Keeps number assertion
      (appendedFinancialEvent event reply) := by
  cases reply with
  | ok _ => exact keeps_ret steady.stable _
  | error failure =>
    cases failure
    case uniqueViolation =>
      apply keeps_bind (keeps_ask_quiet steady rfl)
      intro raced
      cases raced with
      | some raced => exact keeps_ret steady.stable _
      | none => exact keeps_raise steady.stable _
    all_goals exact keeps_raise steady.stable _

theorem keeps_append_financial_event (event : FinancialEvent) :
    (settlementContract hold performs).Keeps number assertion
      (appendManagedVeniceFinancialEvent event) := by
  apply keeps_bind (keeps_require_user_id steady.stable _)
  intro _
  apply keeps_bind (keeps_require_reference_id steady.stable _)
  intro _
  apply keeps_bind (keeps_require_reference_id steady.stable _)
  intro _
  apply keeps_bind (keeps_ask_quiet steady rfl)
  intro existing
  cases existing with
  | some existing => exact keeps_ret steady.stable _
  | none =>
    apply keeps_bind (keeps_quiet steady rfl)
    intro reply
    exact keeps_appended_financial_event steady event reply

theorem keeps_mark_reconciliation (userId : String) (proxyKeyId : Option String)
    (referenceId reason : String) (metadata : ItemMetadata) (pauseKey : Bool) :
    (settlementContract hold performs).Keeps number assertion
      (markManagedVeniceReconciliationRequired userId proxyKeyId referenceId reason metadata
        pauseKey) := by
  apply keeps_bind (keeps_ensure_wallet_account steady _ _)
  intro account
  apply keeps_bind (keeps_ask_quiet steady rfl)
  intro _
  cases pauseKey with
  | false => exact keeps_ret steady.stable _
  | true =>
    cases proxyKeyId with
    | none => exact keeps_ret steady.stable _
    | some proxyKeyId =>
      exact keeps_then_ret steady (keeps_ask_quiet steady rfl) _

theorem keeps_record_estimated_capture (row : Reservation) (proxyKeyId : Option String)
    (amountMicroUsd listMicroUsd : Nat) (pricingPolicy : String) (upstreamStatus : Option Nat)
    (idempotencyKey : String) : (settlementContract hold performs).Keeps number assertion
      (recordManagedVeniceEstimatedCapture row proxyKeyId amountMicroUsd listMicroUsd
        pricingPolicy upstreamStatus idempotencyKey) := by
  apply keeps_handle
  · apply keeps_bind (keeps_ask_quiet steady rfl)
    intro _
    exact keeps_then_ret steady (keeps_append_financial_event steady _) _
  · intro failure
    exact keeps_ret steady.stable _

theorem safe_file_surcharge (request : ChatUsage) (cost : ChatUsageCost) {store : SettlementStore}
    (invariant : LedgerInvariant hold store) (held : assertion store) :
    (settlementContract hold performs).Safe number (fun _ => assertion) (fun _ _ => False)
      (request.fileSurcharge cost) store := by
  unfold ChatUsage.fileSurcharge
  cases cost.surcharge with
  | none => exact safe_ret steady.stable held
  | some surcharge =>
    dsimp only
    cases surcharge.reconciliationReason with
    | none => exact safe_ret steady.stable held
    | some reason =>
      apply safe_handle invariant
        (keeps_then_ret steady (keeps_mark_reconciliation steady _ _ _ _ _ _) _ store invariant held)
      intro failure later _ heldLater
      exact safe_ret steady.stable heldLater

theorem keeps_file_surcharge (request : ChatUsage) (cost : ChatUsageCost) :
    (settlementContract hold performs).Keeps number assertion
      (request.fileSurcharge cost) := by
  intro store invariant held
  apply safe_weaken (safe_file_surcharge steady request cost invariant held)
  · exact fun _ _ kept => kept
  · exact fun _ _ impossible => impossible.elim

end

theorem closing_steady (closing : Closing) : Steady hold performs number
      (fun store => store.closingsOf hold.referenceId = [closing]) where
  stable := by
    rintro before next ⟨_, invariant, other, _, allowed⟩ closings
    have kept : LedgerInvariant hold next := invariant
    have step : StepAllowed hold other before next := allowed
    have member : closing ∈ next.closingsOf hold.referenceId := by
      have listed : closing ∈ before.closingsOf hold.referenceId := by
        rw [closings]
        exact List.mem_singleton_self _
      rcases mem_closings_of.mp listed with ⟨old, reference⟩
      exact mem_closings_of.mpr ⟨step.closingsKept closing old, reference⟩
    have once := kept.closedOnce
    cases later : next.closingsOf hold.referenceId with
    | nil => simp [later] at member
    | cons first rest =>
      have last : rest = [] := by
        apply List.eq_nil_of_length_eq_zero
        simpa [later] using once
      rw [later, last, List.mem_singleton] at member
      rw [last, member]
  kept := by
    intro before after _ same closings
    rw [same]
    exact closings

theorem keeps_chat_usage_record (steady : Steady hold performs number assertion)
    (request : ChatUsage) (cost : ChatUsageCost) (row : Option Reservation)
    (overageStatus : OverageStatus) : (settlementContract hold performs).Keeps number assertion
      (request.record cost row overageStatus) := by
  apply keeps_bind (keeps_ensure_wallet_account steady _ _)
  intro account
  apply keeps_bind (keeps_ask_quiet steady rfl)
  intro _
  apply keeps_bind (keeps_append_financial_event steady _)
  intro _
  apply keeps_bind (keeps_file_surcharge steady _ _)
  intro _
  split_ifs
  · exact keeps_then_ret steady (keeps_mark_reconciliation steady _ _ _ _ _ _) _
  · exact keeps_ret steady.stable _

end Runs

end Hivra.ManagedVenice
