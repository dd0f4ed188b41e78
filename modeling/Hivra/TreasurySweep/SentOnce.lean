import Hivra.TreasurySweep.SweepRules

/-!
# The treasury is sent a row's amount once

What holds of the rows and of everything that has been asked, under every interleaving of
sweeps, recoveries and stops in which no two runs claim a row at the same time.  A run that
has marked the submit and was not refused still holds the row, or the row is final, so no
other run comes to mark it.
-/

namespace Hivra.TreasurySweep

open Hivra.Library

variable {Facts : Type}

abbrev SweepJournal (Facts : Type) : Type := Journal (SweepCall Facts) SweepCall.Reply

structure SweepRow.HeldBy (row : SweepRow Facts) (now : Int) : Prop where
  sweeping : row.sweepStatus = .sweeping
  attempted : row.sweepAttemptedAt = some now

def SweepRow.Final (row : SweepRow Facts) : Prop :=
  row.sweepStatus = .swept ∨ row.sweepStatus = .skipped ∨ row.sweepStatus = .needsOperator

section Rows

variable {settled : Facts → Bool} {call : SweepCall Facts} {turn : SweepTurn}
variable {store : SweepStore Facts}

variable {guard : SweepGuard}

theorem admits_iff {row : SweepRow Facts} :
    guard.admits row = true ↔ row.sweepStatus = guard.source ∧
      row.sweepAttemptedAt = guard.attemptedAt ∧
      (guard.submittedIsNull = true → row.sweepSubmittedAt = none) := by
  cases isNull : guard.submittedIsNull with
  | false => simp [SweepGuard.admits, isNull]
  | true => simp [SweepGuard.admits, isNull, and_assoc]

theorem claimable_status {row : SweepRow Facts} (claimable : row.claimable settled = true) :
    row.sweepStatus = .pending ∨ row.sweepStatus = .failed := by
  simp only [SweepRow.claimable, Bool.and_eq_true, Bool.or_eq_true, beq_iff_eq] at claimable
  exact claimable.1.2

theorem final_not_claimable {row : SweepRow Facts} (final : row.Final) :
    row.claimable settled = false := by
  cases claimable : row.claimable settled with
  | false => rfl
  | true =>
    have status := claimable_status claimable
    rcases final with swept | skipped | parked <;> simp_all

inductive RowMove (settled : Facts → Bool) (call : SweepCall Facts) (id : Nat)
    (before after : Option (SweepRow Facts)) : Prop
  | same (same : after = before)
  | claimed (row : SweepRow Facts) (now : Int) (isClaim : call = .claim id now)
      (held : before = some row) (claimable : row.claimable settled = true)
      (written : after = some (row.claimed now))
  | moved (row : SweepRow Facts) (guard : SweepGuard) (patch : SweepPatch)
      (isTransition : call = .transition id guard patch) (held : before = some row)
      (admitted : guard.admits row = true) (written : after = some (patch.apply row))

theorem set_row {rows : List (SweepRow Facts)} {id : Nat} {row next : SweepRow Facts}
    (held : rows[id]? = some row) (other : Nat) :
    (rows.set id next)[other]? = if id = other then some next else rows[other]? := by
  by_cases same : id = other
  · subst same
    rw [if_pos rfl, List.getElem?_set_self (List.getElem?_eq_some_iff.mp held).1]
  · rw [if_neg same, List.getElem?_set_ne same]

theorem execute_move (id : Nat) :
    RowMove settled call id store.rows[id]? (call.execute settled turn store).1.rows[id]? := by
  cases call with
  | claim target now =>
    simp only [SweepCall.execute, claimRow]
    split
    · rename_i row held
      split
      · rename_i claimable
        rw [set_row held]
        split
        · rename_i same
          subst same
          exact .claimed row now rfl held claimable rfl
        · exact .same rfl
      · exact .same rfl
    · exact .same rfl
  | transition target guard patch =>
    simp only [SweepCall.execute, transitionRow]
    split
    · rename_i row held
      split
      · rename_i admitted
        rw [set_row held]
        split
        · rename_i same
          subst same
          exact .moved row guard patch rfl held admitted rfl
        · exact .same rfl
      · exact .same rfl
    · exact .same rfl
  | recordEvent event =>
    simp only [SweepCall.execute]
    split <;> exact .same rfl
  | _ => exact .same rfl

theorem perform_move (id : Nat) :
    RowMove settled call id store.rows[id]? (performSweep settled call turn store).1.rows[id]? := by
  unfold performSweep
  split
  · split
    · exact execute_move id
    · exact .same rfl
  · exact execute_move id

theorem transition_answered {id : Nat} {patch : SweepPatch}
    (answered : (performSweep settled (.transition id guard patch) turn store).2 = .ok true) :
    ∃ row, store.rows[id]? = some row ∧ guard.admits row = true ∧
      (performSweep settled (.transition id guard patch) turn store).1.rows[id]? =
        some (patch.apply row) := by
  unfold performSweep at answered ⊢
  split at answered
  · cases answered
  · simp only [SweepCall.execute, transitionRow] at answered ⊢
    cases held : store.rows[id]? with
    | none => simp [held] at answered
    | some row =>
      simp only [held] at answered ⊢
      split at answered
      · rename_i admitted
        refine ⟨row, rfl, admitted, ?_⟩
        rw [if_pos admitted, set_row held, if_pos rfl]
      · cases answered

end Rows

section Pasts

variable {past : Past Facts}

structure Engaged (past : Past Facts) (id : Nat) (now : Int) : Prop where
  marks : Marks past id now
  unrefused : ¬Refuses past id

def requests (kind : SweepCall Facts → Bool) (past : Past Facts) : Nat :=
  past.countP fun exchange => kind exchange.1

structure OnceEach (past : Past Facts) : Prop where
  claims : requests SweepCall.claims past ≤ 1
  marks : requests SweepCall.marks past ≤ 1
  transfers : requests SweepCall.transfers past ≤ 1

theorem count_append {kind : SweepCall Facts → Bool} {call : SweepCall Facts}
    (once : requests kind past ≤ 1) (first : kind call = true → Without kind past)
    (reply : call.Reply) : requests kind (past ++ [⟨call, reply⟩]) ≤ 1 := by
  unfold requests at once ⊢
  rw [List.countP_append, List.countP_singleton]
  cases isKind : kind call with
  | false => simpa using once
  | true =>
    have noneBefore : past.countP (fun exchange => kind exchange.1) = 0 := by
      rw [List.countP_eq_zero]
      intro exchange there
      rw [first isKind exchange there]
      exact Bool.false_ne_true
    simp [noneBefore]

theorem once_append {call : SweepCall Facts} (once : OnceEach past) (allowed : sweepRule past call)
    (reply : call.Reply) : OnceEach (past ++ [⟨call, reply⟩]) := by
  constructor
  · apply count_append once.claims
    intro isKind
    cases call with
    | claim id now => exact allowed
    | _ => cases isKind
  · apply count_append once.marks
    intro isKind
    cases call with
    | transition id guard patch =>
      cases patch with
      | submit submittedAt destination => exact allowed.2
      | _ => cases isKind
    | _ => cases isKind
  · apply count_append once.transfers
    intro isKind
    cases call with
    | submitBankrTransfer id token recipient amount => exact allowed.2
    | _ => cases isKind

theorem same_of_once {Element : Type} {holds : Element → Bool} {elements : List Element}
    (once : elements.countP holds ≤ 1) {left right : Element} (leftThere : left ∈ elements)
    (rightThere : right ∈ elements) (leftHolds : holds left = true)
    (rightHolds : holds right = true) : left = right := by
  rw [List.countP_eq_length_filter] at once
  have leftIn := List.mem_filter.mpr ⟨leftThere, leftHolds⟩
  have rightIn := List.mem_filter.mpr ⟨rightThere, rightHolds⟩
  cases filtered : elements.filter holds with
  | nil =>
    rw [filtered] at leftIn
    cases leftIn
  | cons first rest =>
    rw [filtered] at leftIn rightIn once
    have alone : rest = [] := by
      rw [← List.length_eq_zero_iff]
      simpa using once
    rw [alone, List.mem_singleton] at leftIn rightIn
    rw [leftIn, rightIn]

theorem same_claim {id other : Nat} {now time : Int} (once : OnceEach past)
    (claims : Claims past id now) (others : Claims past other time) : id = other ∧ now = time := by
  have ⟨row, there⟩ := claims
  have ⟨otherRow, otherThere⟩ := others
  have same := same_of_once once.claims there otherThere rfl rfl
  cases same
  exact ⟨rfl, rfl⟩

theorem engaged_append {id : Nat} {now : Int} {call : SweepCall Facts} {reply : call.Reply}
    (engaged : Engaged (past ++ [⟨call, reply⟩]) id now) : Engaged past id now ∨
      ∃ guard submittedAt destination, guard.attemptedAt = some now ∧
        (⟨call, reply⟩ : Sigma (@SweepCall.Reply Facts)) =
          ⟨.transition id guard (.submit submittedAt destination), .ok true⟩ := by
  have ⟨⟨guard, submittedAt, destination, guarded, there⟩, unrefused⟩ := engaged
  cases List.mem_append.mp there with
  | inl before =>
    refine .inl ⟨⟨guard, submittedAt, destination, guarded, before⟩, ?_⟩
    intro ⟨token, recipient, amount, status, message, rejection, refused⟩
    exact unrefused ⟨token, recipient, amount, status, message, rejection,
      List.mem_append_left _ refused⟩
  | inr now =>
    exact .inr ⟨guard, submittedAt, destination, guarded, (List.mem_singleton.mp now).symm⟩

theorem claims_append {id : Nat} {now : Int} {call : SweepCall Facts} {reply : call.Reply}
    (claims : Claims (past ++ [⟨call, reply⟩]) id now) : Claims past id now ∨
      ∃ row, (⟨call, reply⟩ : Sigma (@SweepCall.Reply Facts)) =
        ⟨.claim id now, .ok (some row)⟩ := by
  have ⟨row, there⟩ := claims
  cases List.mem_append.mp there with
  | inl before => exact .inl ⟨row, before⟩
  | inr now => exact .inr ⟨row, (List.mem_singleton.mp now).symm⟩

end Pasts

def Kept (store : SweepStore Facts) (id : Nat) (now : Int) : Prop :=
  ∃ row, store.rows[id]? = some row ∧
    (row.HeldBy now ∧ row.sweepSubmittedAt.isSome = true ∨ row.Final)

def isUnrefused : Except String BankrAnswer → Bool
  | .ok (.httpError status _) => !isDefiniteTransferRejection status
  | _ => true

def unrefusedFor (id : Nat) (exchange : JournalEntry (SweepCall Facts) SweepCall.Reply) : Bool :=
  match exchange with
  | ⟨_, .submitBankrTransfer target _ _ _, reply⟩ => target == id && isUnrefused reply
  | _ => false

structure SentInvariant (store : SweepStore Facts) (journal : SweepJournal Facts) : Prop where
  once : ∀ run, OnceEach (pastOf run journal)
  /-- The time of a claim tells whose it is. -/
  distinct : ∀ run other id now, Claims (pastOf run journal) id now →
    Claims (pastOf other journal) id now → run = other
  marked : ∀ run id now, Marks (pastOf run journal) id now → Claims (pastOf run journal) id now
  kept : ∀ run id now, Engaged (pastOf run journal) id now → Kept store id now
  alone : ∀ run other id now time, Engaged (pastOf run journal) id now →
    Engaged (pastOf other journal) id time → run = other
  sent : ∀ run id token recipient amount reply,
    ⟨run, .submitBankrTransfer id token recipient amount, reply⟩ ∈ journal →
    (∃ now, Marks (pastOf run journal) id now) ∧
      (isUnrefused reply = true → ¬Refuses (pastOf run journal) id)
  single : ∀ id, (journal.filter (unrefusedFor id)).length ≤ 1

section Steps

variable {settled : Facts → Bool} {call : SweepCall Facts} {turn : SweepTurn}
variable {store : SweepStore Facts} {journal : SweepJournal Facts} {run : Nat}

variable {id other : Nat} {guard : SweepGuard} {patch : SweepPatch} {now time : Int}

theorem rule_source {past : Past Facts} (allowed : sweepRule past (.transition id guard patch)) :
    guard.source = .sweeping ∨ guard.source = .failed := by
  cases patch with
  | recover error => exact .inl allowed.2.1
  | park reason =>
    cases allowed with
    | inl unclaimed => exact unclaimed.2
    | inr own => exact .inl own.1
  | release error attemptedAt destination => exact .inl allowed.1.1
  | skip reason attemptedAt destination => exact .inl allowed.1.1
  | submit submittedAt destination => exact .inl allowed.1.1
  | succeed txHash destination => exact .inl allowed.1.1

theorem final_not_admitted {past : Past Facts} {row : SweepRow Facts}
    (allowed : sweepRule past (.transition id guard patch)) (final : row.Final)
    (admitted : guard.admits row = true) : False := by
  have ⟨status, _, _⟩ := admits_iff.mp admitted
  have source := rule_source allowed
  rw [← status] at source
  rcases final with isFinal | isFinal | isFinal <;> simp [isFinal] at source

section

variable (invariant : SentInvariant store journal)
include invariant

theorem own_claim
    (own : OwnGuard (pastOf run journal) id guard) (guarded : guard.attemptedAt = some now)
    (claims : Claims (pastOf other journal) id now) : run = other := by
  have ⟨_, time, isTime, ownClaims⟩ := own
  rw [guarded] at isTime
  cases isTime
  exact invariant.distinct run other id now ownClaims claims

theorem kept_performed (allowed : sweepRule (pastOf run journal) call)
    (engaged : Engaged (pastOf other journal) id now) :
    Kept (performSweep settled call turn store).1 id now := by
  have ⟨row, held, state⟩ := invariant.kept other id now engaged
  cases @perform_move Facts settled call turn store id with
  | same same => exact ⟨row, same.trans held, state⟩
  | claimed before time isClaim isBefore claimable written =>
    rw [held] at isBefore
    cases isBefore
    cases state with
    | inl active =>
      have status := claimable_status claimable
      rw [active.1.sweeping] at status
      simp at status
    | inr final =>
      rw [final_not_claimable final] at claimable
      cases claimable
  | moved before guard patch isTransition isBefore admitted written =>
    rw [held] at isBefore
    cases isBefore
    subst isTransition
    cases state with
    | inr final => exact (final_not_admitted allowed final admitted).elim
    | inl active =>
      have ⟨holds, submitted⟩ := active
      have ⟨_, attempted, unsubmitted⟩ := admits_iff.mp admitted
      rw [holds.attempted] at attempted
      refine ⟨_, written, ?_⟩
      cases patch with
      | recover error =>
        rw [unsubmitted allowed.2.2] at submitted
        cases submitted
      | park reason => exact .inr (.inr (.inr rfl))
      | skip reason attemptedAt destination => exact .inr (.inr (.inl rfl))
      | submit submittedAt destination =>
        exact .inl ⟨⟨holds.sweeping, holds.attempted⟩, rfl⟩
      | succeed txHash destination => exact .inr (.inl rfl)
      | release error attemptedAt destination =>
        -- Only the run itself holds the claim, and it was not refused.
        have isOther := own_claim invariant allowed.1 attempted.symm
          (invariant.marked other id now engaged.marks)
        subst isOther
        cases allowed.2 with
        | inl unmarked =>
          have ⟨_, _, _, _, there⟩ := engaged.marks
          cases unmarked _ there
        | inr refused => exact absurd refused engaged.unrefused

omit invariant in
theorem mark_made {id : Nat} {now : Int} {guard : SweepGuard} {submittedAt : Int}
    {destination : Option Address} (guarded : guard.attemptedAt = some now)
    (source : guard.source = .sweeping) (answered :
      (performSweep settled (.transition id guard (.submit submittedAt destination)) turn store).2 =
        .ok true) :
    (∃ row, store.rows[id]? = some row ∧ row.HeldBy now) ∧
      Kept (performSweep settled (.transition id guard (.submit submittedAt destination)) turn
        store).1 id now := by
  have ⟨row, held, admitted, written⟩ := transition_answered answered
  have ⟨status, attempted, _⟩ := admits_iff.mp admitted
  have holds : row.HeldBy now := ⟨status.trans source, attempted.trans guarded⟩
  exact ⟨⟨row, held, holds⟩, _, written, .inl ⟨⟨holds.sweeping, holds.attempted⟩, rfl⟩⟩

omit invariant in
theorem kept_held {row : SweepRow Facts} (kept : Kept store id now)
    (held : store.rows[id]? = some row) (holds : row.HeldBy time) : now = time := by
  have ⟨other, isOther, state⟩ := kept
  rw [held] at isOther
  cases isOther
  cases state with
  | inl active =>
    have same := active.1.attempted.symm.trans holds.attempted
    cases same
    rfl
  | inr final =>
    rcases final with isFinal | isFinal | isFinal <;>
      cases isFinal.symm.trans holds.sweeping

def Fresh (call : SweepCall Facts) (journal : SweepJournal Facts) : Prop :=
  ∀ id now, call = .claim id now → ∀ exchange ∈ journal, exchange.call ≠ .claim id now

omit invariant in
theorem past_after (other : Nat) (reply : call.Reply) : other = run ∧
        pastOf other (journal ++ [⟨run, call, reply⟩]) = pastOf run journal ++ [⟨call, reply⟩] ∨
      other ≠ run ∧ pastOf other (journal ++ [⟨run, call, reply⟩]) = pastOf other journal := by
  by_cases same : other = run
  · rw [same]
    exact .inl ⟨rfl, pastOf_append_own run journal call reply⟩
  · exact .inr ⟨same, pastOf_append_other (Ne.symm same) journal call reply⟩

theorem distinct_performed (fresh : Fresh call journal)
    (reply : call.Reply) (first second id : Nat) (now : Int)
    (one : Claims (pastOf first (journal ++ [⟨run, call, reply⟩])) id now)
    (two : Claims (pastOf second (journal ++ [⟨run, call, reply⟩])) id now) : first = second := by
  have unclaimed (other : Nat) (row : SweepRow Facts)
      (isClaim : (⟨call, reply⟩ : Sigma (@SweepCall.Reply Facts)) =
        ⟨.claim id now, .ok (some row)⟩) : ¬Claims (pastOf other journal) id now := by
    intro ⟨held, there⟩
    cases isClaim
    exact fresh id now rfl _ (mem_pastOf.mp there) rfl
  rcases @past_after _ call journal run first reply with ⟨isRun, past⟩ | ⟨notRun, past⟩ <;>
    rcases @past_after _ call journal run second reply with ⟨isRun', past'⟩ | ⟨notRun', past'⟩
  · rw [isRun, isRun']
  · rw [past] at one
    rw [past'] at two
    cases claims_append one with
    | inl old => exact isRun.trans (invariant.distinct run second id now old two)
    | inr new =>
      have ⟨row, isClaim⟩ := new
      exact absurd two (unclaimed second row isClaim)
  · rw [past] at one
    rw [past'] at two
    cases claims_append two with
    | inl old => exact (invariant.distinct first run id now one old).trans isRun'.symm
    | inr new =>
      have ⟨row, isClaim⟩ := new
      exact absurd one (unclaimed first row isClaim)
  · rw [past] at one
    rw [past'] at two
    exact invariant.distinct first second id now one two

theorem marked_performed
    (allowed : sweepRule (pastOf run journal) call) (reply : call.Reply) (other id : Nat)
    (now : Int) (marks : Marks (pastOf other (journal ++ [⟨run, call, reply⟩])) id now) :
    Claims (pastOf other (journal ++ [⟨run, call, reply⟩])) id now := by
  rcases @past_after _ call journal run other reply with ⟨isRun, past⟩ | ⟨notRun, past⟩
  · rw [past] at marks ⊢
    have ⟨guard, submittedAt, destination, guarded, there⟩ := marks
    cases List.mem_append.mp there with
    | inl before =>
      exact claims_later
        (invariant.marked run id now ⟨guard, submittedAt, destination, guarded, before⟩) _
    | inr new =>
      cases List.mem_singleton.mp new
      have ⟨⟨_, time, isTime, claims⟩, _⟩ := allowed
      rw [guarded] at isTime
      cases isTime
      exact claims_later claims _
  · rw [past] at marks ⊢
    exact invariant.marked other id now marks

omit invariant in
theorem engaged_after {reply : call.Reply}
    (engaged : Engaged (pastOf other (journal ++ [⟨run, call, reply⟩])) id now) :
    Engaged (pastOf other journal) id now ∨ other = run ∧
      ∃ guard submittedAt destination, guard.attemptedAt = some now ∧
        (⟨call, reply⟩ : Sigma (@SweepCall.Reply Facts)) =
          ⟨.transition id guard (.submit submittedAt destination), .ok true⟩ := by
  rcases @past_after _ call journal run other reply with ⟨isRun, past⟩ | ⟨notRun, past⟩
  · rw [past] at engaged
    cases engaged_append engaged with
    | inl old =>
      rw [isRun]
      exact .inl old
    | inr new => exact .inr ⟨isRun, new⟩
  · rw [past] at engaged
    exact .inl engaged

theorem mark_alone (allowed : sweepRule (pastOf run journal) call) {id other : Nat} {now time : Int}
    {guard : SweepGuard} {submittedAt : Int} {destination : Option Address}
    (guarded : guard.attemptedAt = some now) (isMark :
      (⟨call, (performSweep settled call turn store).2⟩ : Sigma (@SweepCall.Reply Facts)) =
        ⟨.transition id guard (.submit submittedAt destination), .ok true⟩)
    (engaged : Engaged (pastOf other journal) id time) : run = other := by
  obtain ⟨rfl, answered⟩ := Sigma.mk.inj isMark
  have ⟨⟨row, held, holds⟩, _⟩ :=
    @mark_made _ settled turn store id now guard submittedAt destination guarded allowed.1.1
      (eq_of_heq answered)
  have isTime := kept_held (invariant.kept other id time engaged) held holds
  subst isTime
  exact own_claim invariant allowed.1 guarded (invariant.marked other id time engaged.marks)

theorem sent_performed
    (allowed : sweepRule (pastOf run journal) call) (reply : call.Reply) (other id : Nat)
    (token recipient : Address) (amount : String) (answer : Except String BankrAnswer)
    (there : ⟨other, .submitBankrTransfer id token recipient amount, answer⟩ ∈
      journal ++ [⟨run, call, reply⟩]) :
    (∃ now, Marks (pastOf other (journal ++ [⟨run, call, reply⟩])) id now) ∧
      (isUnrefused answer = true →
        ¬Refuses (pastOf other (journal ++ [⟨run, call, reply⟩])) id) := by
  have later (past : Past Facts) (now : Int) (marks : Marks past id now) :
      Marks (past ++ [⟨call, reply⟩]) id now := by
    have ⟨guard, submittedAt, destination, guarded, inPast⟩ := marks
    exact ⟨guard, submittedAt, destination, guarded, List.mem_append_left _ inPast⟩
  cases List.mem_append.mp there with
  | inl before =>
    have ⟨⟨now, marks⟩, unrefused⟩ := invariant.sent other id token recipient amount answer before
    rcases @past_after _ call journal run other reply with ⟨isRun, past⟩ | ⟨notRun, past⟩
    · subst isRun
      rw [past]
      refine ⟨⟨now, later _ now marks⟩, ?_⟩
      intro isUnrefused ⟨token', recipient', amount', status, message, rejection, refused⟩
      cases List.mem_append.mp refused with
      | inl old =>
        exact unrefused isUnrefused
          ⟨token', recipient', amount', status, message, rejection, old⟩
      | inr new =>
        -- The run asks Bankr once, and has asked it before.
        cases List.mem_singleton.mp new
        cases allowed.2 _ (mem_pastOf.mpr before)
    · rw [past]
      exact ⟨⟨now, marks⟩, unrefused⟩
  | inr new =>
    cases List.mem_singleton.mp new
    have ⟨⟨now, _, marks⟩, unsent⟩ := allowed
    rw [pastOf_append_own]
    refine ⟨⟨now, later _ now marks⟩, ?_⟩
    intro isUnrefused ⟨token', recipient', amount', status, message, rejection, refused⟩
    cases List.mem_append.mp refused with
    | inl old => cases unsent _ old
    | inr own =>
      cases List.mem_singleton.mp own
      simp [Hivra.TreasurySweep.isUnrefused, rejection] at isUnrefused

theorem single_performed
    (allowed : sweepRule (pastOf run journal) call) (reply : call.Reply) (id : Nat) :
    (List.filter (unrefusedFor id) (journal ++ [⟨run, call, reply⟩])).length ≤ 1 := by
  rw [List.filter_append, List.length_append]
  by_cases asks : unrefusedFor id ⟨run, call, reply⟩ = true
  case neg =>
    rw [List.filter_cons_of_neg asks, List.filter_nil, List.length_nil]
    exact invariant.single id
  cases call with
  | submitBankrTransfer target token recipient amount =>
    simp only [unrefusedFor, Bool.and_eq_true, beq_iff_eq] at asks
    obtain ⟨rfl, _⟩ := asks
    have ⟨⟨now, _, marks⟩, unsent⟩ := allowed
    have engaged : Engaged (pastOf run journal) target now := by
      refine ⟨marks, ?_⟩
      intro ⟨token', recipient', amount', status, message, _, refused⟩
      cases unsent _ refused
    have noneBefore : journal.filter (unrefusedFor target) = [] := by
      rw [List.filter_eq_nil_iff]
      intro exchange there unrefused
      obtain ⟨other, asked, answer⟩ := exchange
      cases asked with
      | submitBankrTransfer id' token' recipient' amount' =>
        simp only [unrefusedFor, Bool.and_eq_true, beq_iff_eq] at unrefused
        obtain ⟨rfl, isUnrefused⟩ := unrefused
        have ⟨⟨time, otherMarks⟩, notRefused⟩ := invariant.sent _ _ _ _ _ _ there
        have isRun := invariant.alone run other id' now time engaged
          ⟨otherMarks, notRefused isUnrefused⟩
        subst isRun
        cases unsent _ (mem_pastOf.mpr there)
      | _ => cases unrefused
    rw [noneBefore, List.length_nil, Nat.zero_add]
    exact List.length_filter_le _ _
  | _ => cases asks

theorem invariant_performed
    (allowed : sweepRule (pastOf run journal) call) (fresh : Fresh call journal) :
    SentInvariant (performSweep settled call turn store).1
      (journal ++ [⟨run, call, (performSweep settled call turn store).2⟩]) := by
  constructor
  · intro other
    rcases @past_after _ call journal run other (performSweep settled call turn store).2 with
      ⟨_, past⟩ | ⟨_, past⟩
    · rw [past]
      exact once_append (invariant.once run) allowed _
    · rw [past]
      exact invariant.once other
  · exact distinct_performed invariant fresh _
  · exact marked_performed invariant allowed _
  · intro other id now engaged
    cases engaged_after engaged with
    | inl old => exact kept_performed invariant allowed old
    | inr new =>
      have ⟨_, guard, submittedAt, destination, guarded, isMark⟩ := new
      obtain ⟨rfl, answered⟩ := Sigma.mk.inj isMark
      exact (mark_made guarded allowed.1.1 (eq_of_heq answered)).2
  · intro first second id now time one two
    cases engaged_after one with
    | inl oldOne =>
      cases engaged_after two with
      | inl oldTwo => exact invariant.alone first second id now time oldOne oldTwo
      | inr newTwo =>
        have ⟨isRun, guard, submittedAt, destination, guarded, isMark⟩ := newTwo
        exact (mark_alone invariant allowed guarded isMark oldOne).symm.trans isRun.symm
    | inr newOne =>
      have ⟨isRun, guard, submittedAt, destination, guarded, isMark⟩ := newOne
      cases engaged_after two with
      | inl oldTwo => exact isRun.trans (mark_alone invariant allowed guarded isMark oldTwo)
      | inr newTwo => exact isRun.trans newTwo.1.symm
  · exact sent_performed invariant allowed _
  · exact single_performed invariant allowed _

end

theorem kept_changed {change : SweepChange Facts} (kept : Kept store id now) :
    Kept (applySweepChange change store) id now := by
  have ⟨row, held, state⟩ := kept
  cases change with
  | arrive facts =>
    refine ⟨row, ?_, state⟩
    have bound := (List.getElem?_eq_some_iff.mp held).1
    exact (List.getElem?_append_left bound).trans held
  | rewrite target facts =>
    by_cases same : target = id
    · subst same
      refine ⟨{ row with facts }, ?_, ?_⟩
      · simp [applySweepChange, held]
      · cases state with
        | inl active => exact .inl ⟨⟨active.1.sweeping, active.1.attempted⟩, active.2⟩
        | inr final => exact .inr final
    · refine ⟨row, ?_, state⟩
      simp [applySweepChange, same, held]

end Steps

end Hivra.TreasurySweep
