import Hivra.WalletTakeover.WalletRuns

/-!
# Every run keeps to its stages

`verifyWalletChallenge` demotes every claim it has loaded before it stores its row, and goes
through the revocation of every account it displaced before it answers; it ends with its
answer, or with an exception.
-/

namespace Hivra.WalletTakeover

open Hivra.Library Typestate

def Concluded (_ : Verification) (state : Option Progress) : Prop :=
  ∀ held, state = some held → held.stage = .answered

def Broke (_ : String) (state : Option Progress) : Prop :=
  ∀ held, state = some held → held.broken = true

theorem broke_breaks (failure : String) (state : Option Progress) :
    Broke failure (state.map Progress.breaks) := by
  intro held isHeld
  rw [Option.map_eq_some_iff] at isHeld
  have ⟨before, _, isBroken⟩ := isHeld
  rw [← isBroken]
  rfl

variable {state : Option Progress} {held : Progress} {failed : String → Option Progress → Prop}

theorem statement_keeps {call : WalletCall} {reads : call.Reply → Bool} {failure : String}
    {done : Unit → Option Progress → Prop} (permitted : takeoverTypestate.permits call state)
    (succeeds : ∀ reply, reads reply = true → done () (moveProgress call reply state))
    (fails : ∀ reply, reads reply = false → failed failure (moveProgress call reply state)) :
    takeoverTypestate.Keeps done failed (statement call reads failure) state := by
  constructor
  · exact permitted
  · intro reply
    dsimp only
    cases read : reads reply with
    | true =>
      rw [if_pos rfl]
      exact succeeds reply read
    | false =>
      rw [if_neg Bool.false_ne_true]
      exact fails reply read

def Demoting (run : Takeover) (displaced left : List String) (state : Option Progress) : Prop :=
  ∃ held, state = some held ∧ held.Looks run.userId run.normalizedAddress ∧
    (∀ account ∈ held.demoted, account ∈ displaced) ∧ ∀ account ∈ held.pending, account ∈ left

theorem load_keeps (run : Takeover) (displaced : List String) {state : Option Progress}
    (looks : ∀ held, state = some held → held.Looks run.userId run.normalizedAddress ∧
      ∀ account ∈ held.demoted, account ∈ displaced) :
    takeoverTypestate.Keeps (fun claims next => Demoting run displaced claims next) Broke
      (loadOtherAccountWalletClaims run) state := by
  constructor
  · intro held isHeld
    exact (looks held isHeld).1
  · intro read
    change Option (List UserWalletRow) at read
    cases read with
    | none => exact broke_breaks _ state
    | some rows =>
      cases state with
      | none =>
        refine ⟨_, rfl, ⟨rfl, rfl, rfl, rfl, rfl⟩, ?_, fun account there => there⟩
        intro account there
        cases there
      | some held =>
        have ⟨⟨user, address, stage, unsettled, unbroken⟩, among⟩ := looks held rfl
        exact ⟨_, rfl, ⟨user, address, stage, unsettled, unbroken⟩, among,
          fun account there => there⟩

variable {displaced : List String}

theorem demote_keeps (run : Takeover) (claims : List String)
    (demoting : Demoting run displaced claims state)
    (among : ∀ account ∈ claims, account ∈ displaced) :
    takeoverTypestate.Keeps (fun _ next => Demoting run displaced [] next) Broke
      (demoteDisplacedWalletClaims run claims) state := by
  induction claims generalizing state with
  | nil => exact demoting
  | cons claim rest ih =>
    have ⟨held, isHeld, looks, past, left⟩ := demoting
    subst isHeld
    apply keeps_bind (fun _ next => Demoting run displaced rest next)
    · apply statement_keeps
      · exact ⟨held, rfl, rfl, looks.address, looks.stage, looks.unsettled, looks.unbroken⟩
      · intro demoted succeeded
        change Bool at demoted
        cases succeeded
        refine ⟨held.demotes claim, rfl, ⟨looks.user, looks.address, looks.stage,
          looks.unsettled, looks.unbroken⟩, ?_, ?_⟩
        · intro account there
          cases List.mem_append.mp there with
          | inl older => exact past account older
          | inr isClaim =>
            rw [List.mem_singleton] at isClaim
            rw [isClaim]
            exact among claim List.mem_cons_self
        · intro account there
          simp only [Progress.demotes, List.mem_filter, decide_eq_true_eq] at there
          cases List.mem_cons.mp (left account there.1) with
          | inl isClaim => exact absurd isClaim there.2
          | inr later => exact later
      · intro demoted failed
        change Bool at demoted
        cases failed
        intro after isAfter
        cases isAfter
        rfl
    · intro _ next nextDemoting
      apply ih nextDemoting
      intro account there
      exact among account (List.mem_cons_of_mem _ there)

structure Progress.Later (before after : Progress) : Prop where
  user : after.userId = before.userId
  address : after.normalizedAddress = before.normalizedAddress
  stage : after.stage = before.stage
  demoted : after.demoted = before.demoted
  settled : before.settled ⊆ after.settled
  unreported : before.unreported ⊆ after.unreported

theorem later_refl (held : Progress) : held.Later held := by
  constructor
  · rfl
  · rfl
  · rfl
  · rfl
  · exact List.Subset.refl _
  · exact List.Subset.refl _

theorem later_trans {first second third : Progress} (early : first.Later second)
    (late : second.Later third) : first.Later third := by
  constructor
  · exact late.user.trans early.user
  · exact late.address.trans early.address
  · exact late.stage.trans early.stage
  · exact late.demoted.trans early.demoted
  · exact List.Subset.trans early.settled late.settled
  · exact List.Subset.trans early.unreported late.unreported

theorem later_settles (held : Progress) (userId : String) : held.Later (held.settles userId) := by
  constructor
  · rfl
  · rfl
  · rfl
  · rfl
  · exact List.subset_append_left _ _
  · exact List.Subset.refl _

theorem later_spares (held : Progress) (userId : String) : held.Later (held.spares userId) := by
  constructor
  · rfl
  · rfl
  · rfl
  · rfl
  · exact List.subset_append_left _ _
  · exact List.Subset.refl _

def From (held : Progress) (state : Option Progress) : Prop :=
  ∃ after, state = some after ∧ held.Later after

def Through (held : Progress) (userId : String) (state : Option Progress) : Prop :=
  ∃ after, state = some after ∧ held.Later after ∧
    (userId ∈ after.settled ∨ userId ∈ after.unreported)

theorem spared_through (held : Progress) (userId : String) :
    Through held userId (some (held.spares userId)) := by
  refine ⟨held.spares userId, rfl, later_spares held userId, ?_⟩
  simp [Progress.spares]

theorem settled_through (held : Progress) (userId : String) :
    Through held userId (some (held.settles userId)) := by
  refine ⟨held.settles userId, rfl, later_settles held userId, ?_⟩
  simp [Progress.settles]

def Checked (held : Progress) (userId : String) (found : Bool) (state : Option Progress) : Prop :=
  if found = true then Through held userId state else state = some held

theorem primary_keeps (userId : String) (held : Progress) :
    takeoverTypestate.Keeps (Checked held userId) (fun _ => From held)
      (getTokenVerificationWallet.loadPrimary userId) (some held) := by
  constructor
  · trivial
  · intro read
    change Option (Option UserWalletRow) at read
    cases read with
    | none => exact ⟨held, rfl, later_refl held⟩
    | some row =>
      change Checked held userId (row.any isEligiblePrimaryTokenWallet)
        (if row.any isEligiblePrimaryTokenWallet = true then some (held.spares userId)
          else some held)
      cases row.any isEligiblePrimaryTokenWallet with
      | false => rfl
      | true => exact spared_through held userId

theorem check_keeps (userId : String) (held : Progress) :
    takeoverTypestate.Keeps (Checked held userId) (fun _ => From held)
      (getTokenVerificationWallet userId) (some held) := by
  constructor
  · trivial
  · intro lock
    change Option (Option UserWalletRow) at lock
    match lock with
    | none => exact ⟨held, rfl, later_refl held⟩
    | some none => exact primary_keeps userId held
    | some (some wallet) =>
      constructor
      · trivial
      · intro read
        change Option (Option HoldingSnapshot) at read
        cases read with
        | none => exact ⟨held, rfl, later_refl held⟩
        | some snapshot =>
          change takeoverTypestate.Keeps (Checked held userId) (fun _ => From held)
            (if (snapshot.any fun held => 0 < held.balanceRaw) = true then .ret true
              else getTokenVerificationWallet.loadPrimary userId)
            (if (snapshot.any fun held => 0 < held.balanceRaw) = true then
              some (held.spares userId) else some held)
          cases snapshot.any fun held => 0 < held.balanceRaw with
          | false => exact primary_keeps userId held
          | true => exact spared_through held userId

theorem zero_keeps (userId normalizedAddress : String) (now : Int) (held : Progress)
    (tokens : List PlatformToken) :
    takeoverTypestate.Keeps (fun _ next => next = some held) (fun _ => From held)
      (recordZeroSnapshots userId normalizedAddress now tokens) (some held) := by
  induction tokens with
  | nil => rfl
  | cons token rest ih =>
    apply keeps_bind (fun _ next => next = some held)
    · apply statement_keeps
      · trivial
      · intro _ _
        rfl
      · intro _ _
        exact ⟨held, rfl, later_refl held⟩
    · intro _ next isHeld
      subst isHeld
      exact ih

theorem suspend_keeps (userId : String) (held : Progress) :
    takeoverTypestate.Keeps (fun _ => Through held userId) (fun _ => From held)
      ((statement (.breachTiers userId) id
          "Failed to suspend displaced token tier qualification").bind fun _ =>
        statement (.suspendBoost userId) id
          "Failed to suspend displaced Venice boost qualification") (some held) := by
  have breached : held.Later { held with breached := held.breached ++ [userId] } := by
    constructor
    · rfl
    · rfl
    · rfl
    · rfl
    · exact List.Subset.refl _
    · exact List.Subset.refl _
  apply keeps_bind (fun _ next =>
    next = some { held with breached := held.breached ++ [userId] })
  · apply statement_keeps
    · trivial
    · intro reply succeeded
      change Bool at reply
      cases succeeded
      rfl
    · intro reply failed
      change Bool at reply
      cases failed
      exact ⟨held, rfl, later_refl held⟩
  · intro _ next isNext
    subst isNext
    apply statement_keeps
    · refine ⟨_, rfl, ?_⟩
      simp
    · intro reply succeeded
      change Bool at reply
      cases succeeded
      have ⟨after, isAfter, later, through⟩ :=
        settled_through { held with breached := held.breached ++ [userId] } userId
      exact ⟨after, isAfter, later_trans breached later, through⟩
    · intro reply failed
      change Bool at reply
      cases failed
      exact ⟨_, rfl, breached⟩

theorem revoke_keeps (userId normalizedAddress : String) (now : Int) (held : Progress) :
    takeoverTypestate.Keeps (fun _ => Through held userId) (fun _ => From held)
      (revokeDisplacedTokenEntitlements userId normalizedAddress now) (some held) := by
  apply keeps_bind _ (check_keeps userId held)
  intro found next checked
  cases found with
  | true => exact checked
  | false =>
    simp only [Checked, Bool.false_eq_true, if_false] at checked
    subst checked
    apply keeps_bind _ (zero_keeps userId normalizedAddress now held _)
    intro _ next isHeld
    subst isHeld
    exact suspend_keeps userId held

theorem report_keeps (userId : String) (held : Progress)
    (failed : String → Option Progress → Prop) :
    takeoverTypestate.Keeps (fun _ => Through held userId) failed (reportRevocation userId)
      (some held) := by
  constructor
  · trivial
  · intro reported
    change Bool at reported
    cases reported with
    | true => exact settled_through held userId
    | false =>
      refine ⟨{ held with unreported := held.unreported ++ [userId] }, rfl, ?_, ?_⟩
      · constructor
        · rfl
        · rfl
        · rfl
        · rfl
        · exact List.Subset.refl _
        · exact List.subset_append_left _ _
      · simp

theorem revoke_or_report_keeps (userId normalizedAddress : String) (now : Int)
    (held : Progress) : takeoverTypestate.Keeps (fun _ => Through held userId) failed
      (revokeOrReport userId normalizedAddress now) (some held) := by
  apply keeps_handle (revoke_keeps userId normalizedAddress now held)
  intro _ next fromHeld
  have ⟨after, isAfter, later⟩ := fromHeld
  subst isAfter
  apply keeps_mono (report_keeps userId after failed)
  · intro _ state through
    have ⟨last, isLast, lastLater, isThrough⟩ := through
    exact ⟨last, isLast, later_trans later lastLater, isThrough⟩
  · intro _ _ fails
    exact fails

def AllThrough (run : Takeover) (state : Option Progress) : Prop :=
  ∃ held, state = some held ∧ held.userId = run.userId ∧
    held.normalizedAddress = run.normalizedAddress ∧ held.stage = .stored ∧
    ∀ displaced ∈ held.demoted, displaced ∈ held.settled ∨ displaced ∈ held.unreported

section

variable (run : Takeover)
include run

theorem revoke_all_keeps (accounts : List String) {held : Progress}
    (user : held.userId = run.userId) (address : held.normalizedAddress = run.normalizedAddress)
    (stage : held.stage = .stored) (left : ∀ displaced ∈ held.demoted,
      displaced ∈ held.settled ∨ displaced ∈ held.unreported ∨ displaced ∈ accounts) :
    takeoverTypestate.Keeps (fun _ => AllThrough run) failed
      (revokeAll run.normalizedAddress run.now accounts) (some held) := by
  induction accounts generalizing held with
  | nil =>
    refine ⟨held, rfl, user, address, stage, ?_⟩
    intro displaced there
    rcases left displaced there with settled | unreported | none
    · exact .inl settled
    · exact .inr unreported
    · cases none
  | cons account rest ih =>
    apply keeps_bind _ (revoke_or_report_keeps account run.normalizedAddress run.now held)
    intro _ next through
    have ⟨after, isAfter, later, isThrough⟩ := through
    subst isAfter
    apply ih (later.user.trans user) (later.address.trans address) (later.stage.trans stage)
    intro displaced there
    rw [later.demoted] at there
    rcases left displaced there with settled | unreported | among
    · exact .inl (later.settled settled)
    · exact .inr (.inl (later.unreported unreported))
    · cases List.mem_cons.mp among with
      | inr among => exact .inr (.inr among)
      | inl isAccount =>
        rw [isAccount]
        cases isThrough with
        | inl settled => exact .inl settled
        | inr unreported => exact .inr (.inl unreported)

theorem conclude_keeps (user : held.userId = run.userId)
    (address : held.normalizedAddress = run.normalizedAddress) (stage : held.stage = .stored)
    (among : ∀ account ∈ held.demoted, account ∈ displaced) :
    takeoverTypestate.Keeps Concluded Broke (concludeTakeover run displaced) (some held) := by
  apply keeps_bind (fun _ next => next = some held)
  · apply statement_keeps
    · trivial
    · intro marked succeeded
      change Bool at marked
      cases succeeded
      rfl
    · intro marked failed
      change Bool at marked
      cases failed
      exact broke_breaks _ (some held)
  · intro _ next isHeld
    subst isHeld
    apply keeps_bind (fun _ => AllThrough run)
    · apply revoke_all_keeps run _ user address stage
      intro account there
      exact .inr (.inr (List.mem_eraseDups.mpr (among account there)))
    · intro _ next through
      constructor
      · exact through
      · intro _ after isAfter
        have ⟨before, isBefore, _⟩ := through
        subst isBefore
        cases isAfter
        rfl

theorem stored_keeps (looks : held.Looks run.userId run.normalizedAddress)
    (among : ∀ account ∈ held.demoted, account ∈ displaced) :
    takeoverTypestate.Keeps Concluded Broke (concludeTakeover run displaced)
      (some { held with stage := .stored }) :=
  conclude_keeps run looks.user looks.address rfl among

theorem store_again_keeps (demoting : Demoting run displaced [] state) :
    takeoverTypestate.Keeps Concluded Broke (storeAgain run displaced) state := by
  have ⟨held, isHeld, looks, among, left⟩ := demoting
  subst isHeld
  constructor
  · exact ⟨held, rfl, looks, List.eq_nil_iff_forall_not_mem.mpr fun account there => by
      cases left account there⟩
  · intro written
    change Upserted at written
    cases written with
    | stored => exact stored_keeps run looks among
    | refused => exact broke_breaks _ (some held)
    | failed => exact broke_breaks _ (some held)

theorem retry_keeps (looks : held.Looks run.userId run.normalizedAddress)
    (among : ∀ account ∈ held.demoted, account ∈ displaced) :
    takeoverTypestate.Keeps Concluded Broke (retryTakeover run displaced) (some held) := by
  apply keeps_bind _ (load_keeps run displaced ?_)
  · intro late next demoting
    have wider : Demoting run (displaced ++ late) late next := by
      have ⟨after, isAfter, afterLooks, past, left⟩ := demoting
      refine ⟨after, isAfter, afterLooks, ?_, left⟩
      intro account there
      exact List.mem_append_left _ (past account there)
    apply keeps_bind _ (demote_keeps run late wider ?_)
    · intro _ last lastDemoting
      exact store_again_keeps run lastDemoting
    · intro account there
      exact List.mem_append_right _ there
  · intro after isAfter
    cases isAfter
    exact ⟨looks, among⟩

theorem store_keeps (demoting : Demoting run displaced [] state) :
    takeoverTypestate.Keeps Concluded Broke (storeWallet run displaced) state := by
  have ⟨held, isHeld, looks, among, left⟩ := demoting
  subst isHeld
  constructor
  · exact ⟨held, rfl, looks, List.eq_nil_iff_forall_not_mem.mpr fun account there => by
      cases left account there⟩
  · intro written
    change Upserted at written
    cases written with
    | stored => exact stored_keeps run looks among
    | refused => exact retry_keeps run looks among
    | failed => exact broke_breaks _ (some held)

theorem take_over_keeps : takeoverTypestate.Keeps Concluded Broke (takeOver run) none := by
  apply keeps_bind _ (load_keeps run [] ?_)
  · intro claims next demoting
    have wider : Demoting run claims claims next := by
      have ⟨held, isHeld, looks, past, left⟩ := demoting
      refine ⟨held, isHeld, looks, ?_, left⟩
      intro account there
      cases past account there
    apply keeps_bind _ (demote_keeps run claims wider fun account there => there)
    intro _ next demoted
    apply keeps_bind (fun _ state => Demoting run claims [] state)
    · have ⟨held, isHeld, looks, among, left⟩ := demoted
      subst isHeld
      apply statement_keeps
      · exact ⟨held, rfl, looks.user, rfl, looks.stage, looks.unsettled, looks.unbroken⟩
      · intro cleared succeeded
        change Bool at cleared
        cases succeeded
        exact ⟨held, rfl, looks, among, left⟩
      · intro cleared failed
        change Bool at cleared
        cases failed
        exact broke_breaks _ (some held)
    · intro _ last lastDemoting
      exact store_keeps run lastDemoting
  · intro held isHeld
    cases isHeld

end

theorem close_keeps (challengeId : String) (status : ChallengeStatus) (outcome : Verification) :
    takeoverTypestate.Keeps Concluded Broke (closeChallenge challengeId status outcome) none := by
  apply keeps_bind (fun _ next => next = none)
  · apply statement_keeps
    · trivial
    · intro _ _
      rfl
    · intro _ _ held isHeld
      cases isHeld
  · intro _ next isNone
    subst isNone
    intro held isHeld
    cases isHeld

theorem verify_keeps (job : VerifyCall) :
    takeoverTypestate.Keeps Concluded Broke (verifyWalletChallenge job)
      takeoverTypestate.fresh := by
  have early : ∀ (script : WalletScript Verification),
      (∃ outcome, script = .ret outcome) ∨ (∃ failure, script = .raise failure) →
        takeoverTypestate.Keeps Concluded Broke script none := by
    intro script ended
    cases ended with
    | inl returned =>
      have ⟨outcome, isScript⟩ := returned
      subst isScript
      intro held isHeld
      cases isHeld
    | inr raised =>
      have ⟨failure, isScript⟩ := raised
      subst isScript
      intro held isHeld
      cases isHeld
  constructor
  · trivial
  · intro loaded
    change Option (Option WalletChallengeRow) at loaded
    match loaded with
    | none => exact early _ (.inr ⟨_, rfl⟩)
    | some none => exact early _ (.inl ⟨_, rfl⟩)
    | some (some challenge) =>
      change takeoverTypestate.Keeps Concluded Broke (judgeChallenge job challenge) none
      unfold judgeChallenge
      split
      · exact early _ (.inl ⟨_, rfl⟩)
      · split
        · exact close_keeps _ _ _
        · constructor
          · trivial
          · intro verified
            change Bool at verified
            cases verified with
            | true => exact take_over_keeps _
            | false => exact close_keeps _ _ _

end Hivra.WalletTakeover
