import Hivra.CardGate.CardHandlers
import Hivra.Library.FollowedRows

/-!
# One account per card

An acceptance is remembered only in the row of its account, and looked for in a request of
its own.  A run accepts no card twice as long as the row of an accepted account keeps its
card, a lookup that would find an account does not fail, and no account is accepted while a
handler of another one is past its lookup of the same card.
-/

namespace Hivra.CardGate

open Hivra.Library

abbrev CardWorld : Type := World CardCall CardCall.Reply String Unit CardStore

abbrev CardSchedule : Type := List (Event CardJob CardTurn Empty)

def startCards : CardWorld := System.initial .opened

def pending? : Option (CardScript Unit) → Option CardAttempt
  | some (.call (.upsert (.cardOnFile attempt)) _) => some attempt
  | _ => none

def rivals (attempt : CardAttempt) (run : Option (CardScript Unit)) : Bool :=
  (pending? run).any fun rival =>
    rival.cardFingerprint == attempt.cardFingerprint && rival.userId != attempt.userId

def RiskWrite.swaps (write : RiskWrite) (row : RiskRow) : Bool :=
  row.userId == write.userId && row.cardSatisfiedAt.isSome &&
    write.fingerprint?.any fun fingerprint => row.cardFingerprint != some fingerprint

def CardCall.Admitted (call : CardCall) (turn : CardTurn) (world : CardWorld) : Prop :=
  match call with
  | .retrievePaymentMethod _ => True
  | .findSatisfied fingerprint excludeUserId =>
    turn.fails = true →
      ∀ row ∈ world.store.rows.rows, row.collides fingerprint excludeUserId = false
  | .upsert write =>
    turn.fails = false →
      (∀ row ∈ world.store.rows.rows, write.swaps row = false) ∧
        match write with
        | .cardOnFile attempt => ∀ run ∈ world.runs, rivals attempt run = false
        | _ => True

/-- No accepted account is handed another card, no lookup that would find an account fails,
and no account is accepted while another one is past its lookup of the same card. -/
def CardsKept (world : CardWorld) : Event CardJob CardTurn Empty → Prop
  | .advance run turn =>
    match world.runs[run]? with
    | some (some (.call call _)) => call.Admitted turn world
    | _ => True
  | _ => True

instance (call : CardCall) (turn : CardTurn) (world : CardWorld) :
    Decidable (call.Admitted turn world) :=
  match call with
  | .retrievePaymentMethod _ => instDecidableTrue
  | .findSatisfied fingerprint excludeUserId =>
    inferInstanceAs (Decidable (turn.fails = true →
      ∀ row ∈ world.store.rows.rows, row.collides fingerprint excludeUserId = false))
  | .upsert (.cardOnFile attempt) =>
    inferInstanceAs (Decidable (turn.fails = false →
      (∀ row ∈ world.store.rows.rows, RiskWrite.swaps (.cardOnFile attempt) row = false) ∧
        ∀ run ∈ world.runs, rivals attempt run = false))
  | .upsert (.cardRejected attempt reason) =>
    inferInstanceAs (Decidable (turn.fails = false →
      (∀ row ∈ world.store.rows.rows,
        RiskWrite.swaps (.cardRejected attempt reason) row = false) ∧ True))
  | .upsert (.setupIntent userId setupIntentId) =>
    inferInstanceAs (Decidable (turn.fails = false →
      (∀ row ∈ world.store.rows.rows,
        RiskWrite.swaps (.setupIntent userId setupIntentId) row = false) ∧ True))

instance (world : CardWorld) (event : Event CardJob CardTurn Empty) :
    Decidable (CardsKept world event) :=
  match event with
  | .advance run turn => by
    unfold CardsKept
    dsimp only
    split <;> infer_instance
  | .start _ => instDecidableTrue
  | .stop _ => instDecidableTrue
  | .outside _ => instDecidableTrue

section Upserts

variable {rows : Table RiskRow.entries} {write : RiskWrite} {now : Int} {row : RiskRow}

theorem mem_upsert (there : row ∈ upsertRow rows write now) :
    (row ∈ rows ∧ row.userId ≠ write.userId) ∨
      ∃ old, (old ∈ rows ∨ old = .fresh write.userId) ∧ old.userId = write.userId ∧
        row = write.apply now old := by
  unfold upsertRow at there
  dsimp only at there
  have changed : ∀ held ∈ rows.rewrite (fun row => row.userId == write.userId) (write.apply now)
      (fun row => by simp [RiskRow.entries, apply_user]),
      (held ∈ rows ∧ held.userId ≠ write.userId) ∨
        ∃ old, (old ∈ rows ∨ old = .fresh write.userId) ∧ old.userId = write.userId ∧
          held = write.apply now old := by
    intro held member
    have ⟨old, oldThere, isHeld⟩ := Table.mem_rewrite.mp member
    by_cases own : old.userId = write.userId
    · right
      simp only [own, beq_self_eq_true, if_true] at isHeld
      exact ⟨old, .inl oldThere, own, isHeld.symm⟩
    · left
      simp only [beq_iff_eq, own, if_false] at isHeld
      rw [← isHeld]
      exact ⟨oldThere, own⟩
  cases inserted : (rows.rewrite (fun row => row.userId == write.userId) (write.apply now)
      (fun row => by simp [RiskRow.entries, apply_user])).insert
      (write.apply now (.fresh write.userId)) with
  | none =>
    rw [inserted] at there
    exact changed row there
  | some next =>
    rw [inserted] at there
    cases (Table.mem_insert inserted).mp there with
    | inl older => exact changed row older
    | inr isNew =>
      right
      exact ⟨.fresh write.userId, .inr rfl, rfl, isNew⟩

theorem rewrite_upsert (there : row ∈ rows) :
    (if row.userId == write.userId then write.apply now row else row) ∈
      upsertRow rows write now := by
  have changed : (if row.userId == write.userId then write.apply now row else row) ∈
      rows.rewrite (fun row => row.userId == write.userId) (write.apply now)
        (fun row => by simp [RiskRow.entries, apply_user]) :=
    Table.mem_rewrite.mpr ⟨row, there, rfl⟩
  unfold upsertRow
  dsimp only
  cases inserted : (rows.rewrite (fun row => row.userId == write.userId) (write.apply now)
      (fun row => by simp [RiskRow.entries, apply_user])).insert
      (write.apply now (.fresh write.userId)) with
  | none => exact changed
  | some next => exact (Table.mem_insert inserted).mpr (.inl changed)

theorem upsert_writes (rows : Table RiskRow.entries) (write : RiskWrite) (now : Int) :
    ∃ old, old.userId = write.userId ∧ write.apply now old ∈ upsertRow rows write now := by
  unfold upsertRow
  dsimp only
  cases inserted : (rows.rewrite (fun row => row.userId == write.userId) (write.apply now)
      (fun row => by simp [RiskRow.entries, apply_user])).insert
      (write.apply now (.fresh write.userId)) with
  | some next =>
    exact ⟨.fresh write.userId, rfl, (Table.mem_insert inserted).mpr (.inr rfl)⟩
  | none =>
    have ⟨held, there, entry, heldEntry, newEntry⟩ := Table.insert_none.mp inserted
    have ⟨old, _, isHeld⟩ := Table.mem_rewrite.mp there
    simp only [RiskRow.entries, List.mem_singleton, apply_user] at heldEntry newEntry
    by_cases own : old.userId = write.userId
    · simp only [own, beq_self_eq_true, if_true] at isHeld
      refine ⟨old, own, ?_⟩
      rw [isHeld]
      exact there
    · simp only [beq_iff_eq, own, if_false] at isHeld
      rw [← isHeld, newEntry] at heldEntry
      exact absurd heldEntry.symm own

end Upserts

def Clear (store : CardStore) (attempt : CardAttempt) : Prop :=
  ∀ row ∈ store.rows, row.satisfiedBy attempt.cardFingerprint = true →
    row.userId = attempt.userId

inductive Remaining (store : CardStore) : CardScript Unit → Prop
  | begun (job : CardJob) : Remaining store job.script
  | judging (attempt : CardAttempt) (named : attempt.userId ≠ "") :
      Remaining store (judgeCard attempt)
  | accepting (attempt : CardAttempt) (named : attempt.userId ≠ "") (clear : Clear store attempt) :
      Remaining store (markCardOnFile attempt)
  | rejecting (attempt : CardAttempt) (reason : CardRejectionReason) :
      Remaining store (markCardRejected attempt reason)
  | returned : Remaining store (.ret ())
  | threw (failure : String) : Remaining store (.raise failure)

variable {later : CardStore} {write : RiskWrite}

structure CardsSound (world : CardWorld) : Prop where
  stored : ∀ acceptance ∈ world.store.accepted, ∃ row ∈ world.store.rows,
    row.userId = acceptance.userId ∧ row.satisfiedBy acceptance.fingerprint = true
  apart : ∀ first ∈ world.store.accepted, ∀ second ∈ world.store.accepted,
    first.fingerprint = second.fingerprint → first.userId = second.userId
  named : ∀ row ∈ world.store.rows, row.cardSatisfiedAt.isSome = true → row.userId ≠ ""
  remaining : ∀ script, some script ∈ world.runs → Remaining world.store script

section Requests

variable {store : CardStore} {script : CardScript Unit}

def LooksUp (fingerprint userId : String) (next : Option String → CardScript Unit) : Prop :=
  ∃ attempt : CardAttempt, attempt.cardFingerprint = fingerprint ∧ attempt.userId = userId ∧
    ∀ (reply : Option String) (later : CardStore),
      (truthy reply = none → Clear later attempt) → Remaining later (next reply)

def Writes (store : CardStore) (write : RiskWrite) (next : Unit → CardScript Unit) : Prop :=
  (∀ later, Remaining later (next ())) ∧
    ∀ attempt, write = .cardOnFile attempt → attempt.userId ≠ "" ∧ Clear store attempt

theorem truthy_ne {text : Option String} {value : String} (isTruthy : truthy text = some value) :
    value ≠ "" := by
  unfold truthy at isTruthy
  have ⟨_, kept⟩ := Option.filter_eq_some_iff.mp isTruthy
  simpa using kept

def Issues (store : CardStore) : CardScript Unit → Prop
  | .call (.retrievePaymentMethod _) next => ∀ reply later, Remaining later (next reply)
  | .call (.findSatisfied fingerprint userId) next => LooksUp fingerprint userId next
  | .call (.upsert write) next => Writes store write next
  | _ => True

theorem judged_remains {attempt : CardAttempt} (named : attempt.userId ≠ "")
    {colliding : Option String} : (colliding = none → Clear later attempt) →
    Remaining later (match colliding with
      | some _ => markCardRejected attempt .cardCollision
      | none => markCardOnFile attempt) := by
  intro clear
  cases colliding with
  | some _ => exact .rejecting attempt .cardCollision
  | none => exact .accepting attempt named (clear rfl)

theorem retrieved_remains {userId : String} (setupIntentId paymentMethodId : String)
    (named : userId ≠ "") (fingerprint funding : Option String) :
    Remaining later (match fingerprint, funding with
      | some cardFingerprint, some cardFunding =>
        judgeCard { userId, setupIntentId, paymentMethodId, cardFingerprint, cardFunding }
      | _, _ => .ret ()) := by
  split
  · exact .judging _ named
  · exact .returned

theorem judging_issues (attempt : CardAttempt) (named : attempt.userId ≠ "") :
    Issues store (judgeCard attempt) := by
  unfold judgeCard
  split
  · constructor
    · intro later
      exact .returned
    · intro other isOther
      cases isOther
  · refine ⟨attempt, rfl, rfl, ?_⟩
    intro reply later clear
    exact judged_remains named clear

theorem begun_issues (job : CardJob) : Issues store job.script := by
  cases job with
  | attachSetupIntent userId setupIntentId =>
    constructor
    · intro later
      exact .returned
    · intro attempt isAttempt
      cases isAttempt
  | setupIntentSucceeded intent =>
    unfold CardJob.script handleSetupIntentSucceeded
    dsimp only
    split
    · rename_i clerkUserId paymentMethodId isUser _
      intro reply later
      change Option RetrievedCard at reply
      cases reply with
      | none => exact .threw _
      | some card =>
        exact retrieved_remains intent.id paymentMethodId (truthy_ne isUser) _ _
    · trivial

theorem remaining_issues (remains : Remaining store script) : Issues store script := by
  cases remains with
  | begun job => exact begun_issues job
  | judging attempt named => exact judging_issues attempt named
  | accepting attempt named clear =>
    constructor
    · intro later
      exact .returned
    · intro other isOther
      cases isOther
      exact ⟨named, clear⟩
  | rejecting attempt reason =>
    constructor
    · intro later
      exact .returned
    · intro other isOther
      cases isOther
  | returned => trivial
  | threw failure => trivial

theorem remaining_moves (remains : Remaining store script)
    (clear : ∀ attempt, pending? (some script) = some attempt → Clear store attempt →
      Clear later attempt) : Remaining later script := by
  cases remains with
  | begun job => exact .begun job
  | judging attempt named => exact .judging attempt named
  | accepting attempt named isClear => exact .accepting attempt named (clear attempt rfl isClear)
  | rejecting attempt reason => exact .rejecting attempt reason
  | returned => exact .returned
  | threw failure => exact .threw failure

end Requests

section Writing

variable {rows : Table RiskRow.entries} {write : RiskWrite} {now : Int} {row : RiskRow}
variable {fingerprint : String}

theorem satisfied_by_iff : row.satisfiedBy fingerprint = true ↔
    row.cardFingerprint = some fingerprint ∧ row.cardSatisfiedAt.isSome = true := by
  simp [RiskRow.satisfiedBy]

theorem swaps_not (kept : write.swaps row = false) (own : row.userId = write.userId)
    (satisfied : row.cardSatisfiedAt.isSome = true) {stored : String}
    (stores : write.fingerprint? = some stored) : row.cardFingerprint = some stored := by
  simpa [RiskWrite.swaps, own, satisfied, stores] using kept

theorem apply_satisfied (kept : write.swaps row = false) (own : row.userId = write.userId)
    (satisfied : row.satisfiedBy fingerprint = true) :
    (write.apply now row).satisfiedBy fingerprint = true := by
  have ⟨card, accepted⟩ := satisfied_by_iff.mp satisfied
  rw [satisfied_by_iff]
  cases write with
  | setupIntent userId setupIntentId => exact ⟨card, accepted⟩
  | cardOnFile attempt =>
    have same := swaps_not kept own accepted rfl
    rw [card] at same
    exact ⟨same.symm, rfl⟩
  | cardRejected attempt reason =>
    have same := swaps_not kept own accepted rfl
    rw [card] at same
    exact ⟨same.symm, accepted⟩

theorem satisfied_upsert (kept : ∀ held ∈ rows, write.swaps held = false)
    (there : row ∈ upsertRow rows write now) (satisfied : row.satisfiedBy fingerprint = true) :
    (∃ held ∈ rows, held.userId = row.userId ∧ held.satisfiedBy fingerprint = true) ∨
      ∃ attempt, write = .cardOnFile attempt ∧ attempt.userId = row.userId ∧
        attempt.cardFingerprint = fingerprint := by
  cases mem_upsert there with
  | inl other => exact .inl ⟨row, other.1, rfl, satisfied⟩
  | inr own =>
    have ⟨old, source, sameUser, isRow⟩ := own
    have user : old.userId = row.userId := by rw [isRow, apply_user]
    have ⟨card, accepted⟩ := satisfied_by_iff.mp satisfied
    rw [isRow] at card accepted
    cases write with
    | cardOnFile attempt =>
      right
      exact ⟨attempt, rfl, sameUser.symm.trans user, Option.some.inj card⟩
    | cardRejected attempt reason =>
      left
      cases source with
      | inr isFresh =>
        rw [isFresh] at accepted
        cases accepted
      | inl held =>
        have same := swaps_not (kept old held) sameUser accepted rfl
        exact ⟨old, held, user, satisfied_by_iff.mpr ⟨same.trans card, accepted⟩⟩
    | setupIntent userId setupIntentId =>
      left
      cases source with
      | inr isFresh =>
        rw [isFresh] at accepted
        cases accepted
      | inl held => exact ⟨old, held, user, satisfied_by_iff.mpr ⟨card, accepted⟩⟩

end Writing

section Steps

variable {world : CardWorld}

def CardStore.wrote (store : CardStore) (write : RiskWrite) (now : Int) : CardStore :=
  { rows := upsertRow store.rows write now
    accepted := store.accepted ++ write.acceptance?.toList }

theorem mem_accepted {store : CardStore} {now : Int}
    {acceptance : Acceptance} (there : acceptance ∈ (store.wrote write now).accepted) :
    acceptance ∈ store.accepted ∨ ∃ attempt, write = .cardOnFile attempt ∧
      acceptance = { userId := attempt.userId, fingerprint := attempt.cardFingerprint } := by
  simp only [CardStore.wrote, List.mem_append] at there
  cases there with
  | inl older => exact .inl older
  | inr new =>
    right
    cases write with
    | cardOnFile attempt =>
      simp only [RiskWrite.acceptance?, Option.toList_some, List.mem_singleton] at new
      exact ⟨attempt, rfl, new⟩
    | cardRejected attempt reason => simp [RiskWrite.acceptance?] at new
    | setupIntent userId setupIntentId => simp [RiskWrite.acceptance?] at new

theorem write_sound (sound : CardsSound world) {now : Int}
    (kept : ∀ row ∈ world.store.rows, write.swaps row = false)
    (accepts : ∀ attempt, write = .cardOnFile attempt →
      attempt.userId ≠ "" ∧ Clear world.store attempt) :
    CardsSound { store := world.store.wrote write now, runs := [] } := by
  constructor
  · intro acceptance there
    cases mem_accepted there with
    | inl older =>
      have ⟨row, held, user, satisfied⟩ := sound.stored acceptance older
      refine ⟨_, rewrite_upsert held, ?_⟩
      by_cases own : row.userId = write.userId
      · simp only [own, beq_self_eq_true, if_true]
        refine ⟨?_, apply_satisfied (kept row held) own satisfied⟩
        rw [apply_user, user]
      · simp only [beq_iff_eq, own, if_false]
        exact ⟨user, satisfied⟩
    | inr new =>
      have ⟨attempt, isWrite, isAcceptance⟩ := new
      have ⟨old, user, written⟩ := upsert_writes world.store.rows write now
      refine ⟨write.apply now old, written, ?_⟩
      rw [isAcceptance, apply_user, user, isWrite]
      exact ⟨rfl, satisfied_by_iff.mpr ⟨rfl, rfl⟩⟩
  · -- an acceptance that is written now meets none of another account
    have meets : ∀ attempt, write = .cardOnFile attempt → ∀ acceptance ∈ world.store.accepted,
        acceptance.fingerprint = attempt.cardFingerprint →
        acceptance.userId = attempt.userId := by
      intro attempt isWrite acceptance older same
      have ⟨row, held, user, satisfied⟩ := sound.stored acceptance older
      rw [same] at satisfied
      exact user.symm.trans ((accepts attempt isWrite).2 row held satisfied)
    intro first firstThere second secondThere same
    cases mem_accepted firstThere with
    | inl older =>
      cases mem_accepted secondThere with
      | inl alsoOlder => exact sound.apart first older second alsoOlder same
      | inr new =>
        have ⟨attempt, isWrite, isSecond⟩ := new
        rw [isSecond] at same ⊢
        exact meets attempt isWrite first older same
    | inr new =>
      have ⟨attempt, isWrite, isFirst⟩ := new
      cases mem_accepted secondThere with
      | inl older =>
        rw [isFirst] at same ⊢
        exact (meets attempt isWrite second older same.symm).symm
      | inr alsoNew =>
        have ⟨other, isOther, isSecond⟩ := alsoNew
        rw [isWrite] at isOther
        cases isOther
        rw [isFirst, isSecond]
  · intro row there satisfied
    cases mem_upsert there with
    | inl other => exact sound.named row other.1 satisfied
    | inr own =>
      have ⟨old, source, sameUser, isRow⟩ := own
      rw [isRow] at satisfied ⊢
      rw [apply_user]
      cases isWrite : write with
      | cardOnFile attempt =>
        rw [sameUser, isWrite]
        exact (accepts attempt isWrite).1
      | cardRejected attempt reason | setupIntent userId setupIntentId =>
        rw [isWrite] at satisfied
        cases source with
        | inl held => exact sound.named old held satisfied
        | inr isFresh =>
          rw [isFresh] at satisfied
          cases satisfied
  · intro script there
    cases there

theorem write_clear {now : Int} {attempt : CardAttempt}
    (kept : ∀ row ∈ world.store.rows, write.swaps row = false)
    (alone : ∀ other, write = .cardOnFile other →
      attempt.cardFingerprint = other.cardFingerprint → attempt.userId = other.userId)
    (clear : Clear world.store attempt) : Clear (world.store.wrote write now) attempt := by
  intro row there satisfied
  cases satisfied_upsert kept there satisfied with
  | inl older =>
    have ⟨held, heldThere, user, heldSatisfied⟩ := older
    exact user.symm.trans (clear held heldThere heldSatisfied)
  | inr accepted =>
    have ⟨other, isWrite, user, card⟩ := accepted
    exact user.symm.trans (alone other isWrite card.symm).symm

theorem sound_runs {store : CardStore} {runs later : List (Option (CardScript Unit))}
    (sound : CardsSound { store, runs }) (remaining : ∀ script, some script ∈ later →
      Remaining store script) : CardsSound { store, runs := later } :=
  ⟨sound.stored, sound.apart, sound.named, remaining⟩

theorem mem_set_runs {runs : List (Option (CardScript Unit))} {number : Nat}
    {slot : Option (CardScript Unit)} {script : CardScript Unit}
    (there : some script ∈ runs.set number slot) : some script ∈ runs ∨ slot = some script := by
  cases List.mem_or_eq_of_mem_set there with
  | inl older => exact .inl older
  | inr isSlot => exact .inr isSlot.symm

theorem advance_sound (sound : CardsSound world) {number : Nat} {turn : CardTurn}
    {call : CardCall} {next : call.Reply → CardScript Unit}
    (current : world.runs[number]? = some (some (.call call next)))
    (admitted : call.Admitted turn world) : CardsSound
      { store := (performCard call turn world.store).1
        runs := world.runs.set number
          (some (next (performCard call turn world.store).2)) } := by
  have there : some (.call call next) ∈ world.runs := List.mem_of_getElem? current
  have issues := remaining_issues (sound.remaining _ there)
  cases call with
  | retrievePaymentMethod paymentMethodId =>
    apply sound_runs sound
    intro script member
    cases mem_set_runs member with
    | inl older => exact sound.remaining script older
    | inr isNext =>
      cases isNext
      exact issues _ _
  | findSatisfied fingerprint userId =>
    have ⟨attempt, card, user, looks⟩ := issues
    apply sound_runs sound
    intro script member
    cases mem_set_runs member with
    | inl older => exact sound.remaining script older
    | inr isNext =>
      cases isNext
      apply looks
      intro unknown row held satisfied
      rw [card] at satisfied
      by_contra other
      have collides : row.collides fingerprint userId = true := by
        rw [user] at other
        simp [RiskRow.collides, satisfied, other]
      cases fails : turn.fails with
      | true =>
        have none := admitted fails row held
        rw [collides] at none
        cases none
      | false =>
        simp only [performCard, fails, Bool.false_eq_true] at unknown
        cases found : world.store.rows.find?
            (fun row => row.collides fingerprint userId) with
        | none =>
          have none := Table.find_none found held
          rw [collides] at none
          cases none
        | some colliding =>
          -- an accepted account has a name, so that the answer is not taken for none
          have ⟨collidingThere, isColliding⟩ := Table.find_mem found
          simp only [RiskRow.collides, Bool.and_eq_true] at isColliding
          have accepted := (satisfied_by_iff.mp isColliding.1).2
          have named := sound.named colliding collidingThere accepted
          rw [found] at unknown
          simp [truthy, named] at unknown
  | upsert write =>
    have ⟨rest, accepts⟩ := issues
    cases fails : turn.fails with
    | true =>
      simp only [performCard, fails, if_true]
      apply sound_runs sound
      intro script member
      cases mem_set_runs member with
      | inl older => exact sound.remaining script older
      | inr isNext =>
        cases isNext
        exact rest _
    | false =>
      have ⟨kept, alone⟩ := admitted fails
      simp only [performCard, fails, Bool.false_eq_true, if_false]
      apply sound_runs (write_sound sound kept accepts)
      intro script member
      cases mem_set_runs member with
      | inr isNext =>
        cases isNext
        exact rest _
      | inl older =>
        apply remaining_moves (sound.remaining script older)
        intro attempt isPending
        apply write_clear kept
        intro other isWrite sameCard
        subst isWrite
        have unrivalled := alone (some script) older
        simpa [rivals, isPending, sameCard] using unrivalled

theorem step_sound (sound : CardsSound world) (event : Event CardJob CardTurn Empty)
    (kept : CardsKept world event) : CardsSound (cardSystem.step world event) := by
  cases event with
  | start job =>
    apply sound_runs sound
    intro script member
    cases List.mem_append.mp member with
    | inl older => exact sound.remaining script older
    | inr new =>
      simp only [List.mem_singleton, Option.some.injEq] at new
      rw [new]
      exact .begun job
  | stop number =>
    apply sound_runs sound
    intro script member
    cases mem_set_runs member with
    | inl older => exact sound.remaining script older
    | inr isNone => cases isNone
  | outside change => exact change.elim
  | advance number turn =>
    unfold CardsKept at kept
    unfold System.step
    dsimp only at kept ⊢
    split
    · rename_i call next current
      rw [current] at kept
      exact advance_sound sound current kept
    · exact sound

end Steps

/-- In every run of handlers and hand-outs that keeps the cards with their accounts, no two
accounts are accepted with the same card. -/
theorem one_account_per_card (schedule : CardSchedule)
    (kept : Meets cardSystem.step CardsKept startCards schedule) :
    ∀ first ∈ (cardSystem.after startCards schedule).store.accepted,
      ∀ second ∈ (cardSystem.after startCards schedule).store.accepted,
        first.fingerprint = second.fingerprint → first.userId = second.userId := by
  have opened : CardsSound startCards := by
    constructor
    · intro acceptance there
      cases there
    · intro acceptance there
      cases there
    · intro row there
      cases there
    · intro script there
      cases there
  have sound : CardsSound (cardSystem.after startCards schedule) :=
    meets_keeps kept opened fun world event admitted sound => step_sound sound event admitted
  exact sound.apart

def succeeded (userId : String) : CardJob :=
  .setupIntentSucceeded
    { id := "seti", clerkUserId := some userId, paymentMethodId := some "pm" }

def turnOf (fingerprint funding : String) : CardTurn :=
  { fails := false, card := { fingerprint := some fingerprint, funding := some funding }, now := 0 }

def sameCardTwice : CardSchedule :=
  let turn := turnOf "card" "credit"
  [.start (succeeded "first"), .advance 0 turn, .advance 0 turn, .advance 0 turn,
    .start (succeeded "second"), .advance 1 turn, .advance 1 turn, .advance 1 turn]

theorem second_account_refused : Meets cardSystem.step CardsKept startCards sameCardTwice ∧
      ∀ first ∈ (cardSystem.after startCards sameCardTwice).store.accepted,
        ∀ second ∈ (cardSystem.after startCards sameCardTwice).store.accepted,
          first.fingerprint = second.fingerprint → first.userId = second.userId :=
  ⟨by decide +kernel, one_account_per_card sameCardTwice (by decide +kernel)⟩

/-- The first account, once accepted, tries a prepaid card, which is refused and stored. -/
def cardSwappedOut : CardSchedule :=
  let turn := turnOf "card" "credit"
  let prepaid := turnOf "other" "prepaid"
  [.start (succeeded "first"), .advance 0 turn, .advance 0 turn, .advance 0 turn,
    .start (succeeded "first"), .advance 1 prepaid, .advance 1 prepaid,
    .start (succeeded "second"), .advance 2 turn, .advance 2 turn, .advance 2 turn]

theorem both_accounts_accepted :
    ∃ first ∈ (cardSystem.after startCards cardSwappedOut).store.accepted,
      ∃ second ∈ (cardSystem.after startCards cardSwappedOut).store.accepted,
        first.fingerprint = second.fingerprint ∧ first.userId ≠ second.userId := by
  decide +kernel

end Hivra.CardGate
