import Hivra.StripeSubscriptions.BillingScripts

/-!
# Which instances an update suspends

The lapse of a subscription suspends or schedules what is running, a payment brings back what a
lapse stopped.  An update suspends none of a user's instances exactly if it selects none of them
that was going on.
-/

namespace Hivra.StripeSubscriptions

def Instance.lapsed (one : Instance) : Bool :=
  one.lifecycleState == .suspended || one.status == .scheduledForDeletion

/-- Every instance of the user that was running still is. -/
def NoneSuspended (userId : UserId) (before after : List Instance) : Prop :=
  ∀ (position : Nat) (one : Instance), before[position]? = some one → one.userId = userId →
    one.lapsed = false →
      ∃ later : Instance, after[position]? = some later ∧ later.userId = userId ∧
        later.lapsed = false

variable {userId other : UserId} {instances : List Instance}

theorem none_suspended_refl (instances : List Instance) :
    NoneSuspended userId instances instances := by
  intro position one held isUser going
  exact ⟨one, held, isUser, going⟩

theorem none_suspended_trans {before middle after : List Instance}
    (first : NoneSuspended userId before middle) (second : NoneSuspended userId middle after) :
    NoneSuspended userId before after := by
  intro position one held isUser going
  have ⟨next, there, nextUser, nextGoing⟩ := first position one held isUser going
  exact second position next there nextUser nextGoing

theorem update_spares {selected : Instance → Bool} {change : Instance → Instance}
    (users : ∀ one, (change one).userId = one.userId)
    (spares : ∀ one ∈ instances, one.userId = userId → one.lapsed = false →
      selected one = true → (change one).lapsed = false) :
    NoneSuspended userId instances (updateAll instances selected change) := by
  intro position one held isUser going
  have there : (updateAll instances selected change)[position]? =
      some (if selected one then change one else one) := by
    simp [updateAll, held]
  by_cases chosen : selected one = true
  · rw [if_pos chosen] at there
    have later := spares one (List.mem_of_getElem? held) isUser going chosen
    exact ⟨change one, there, (users one).trans isUser, later⟩
  · rw [if_neg chosen] at there
    exact ⟨one, there, isUser, going⟩

variable {one : Instance}

theorem update_stops {selected : Instance → Bool} {change : Instance → Instance}
    (held : one ∈ instances) (isUser : one.userId = userId) (going : one.lapsed = false)
    (chosen : selected one = true) (stops : (change one).lapsed = true) :
    ¬NoneSuspended userId instances (updateAll instances selected change) := by
  intro spares
  have ⟨position, inside, isOne⟩ := List.getElem_of_mem held
  have before : instances[position]? = some one :=
    List.getElem?_eq_some_iff.mpr ⟨inside, isOne⟩
  have ⟨later, there, _, still⟩ := spares position one before isUser going
  have changed : some (change one) = some later := by
    simpa [updateAll, before, chosen] using there
  cases changed
  rw [stops] at still
  cases still

/-- What `resumeInstances` writes. -/
def resumeAll (instances : List Instance) (userId : UserId) : List Instance :=
  updateAll (updateAll instances (fun one => one.restorable userId) Instance.restore)
    (fun one => one.resumable userId) Instance.resume

theorem resume_spares (instances : List Instance) (other : UserId) :
    NoneSuspended userId instances (resumeAll instances other) := by
  have restored : NoneSuspended userId instances
      (updateAll instances (fun one => one.restorable other) Instance.restore) := by
    apply update_spares
    · intro one
      rfl
    · intro one _ _ going chosen
      simp [Instance.restorable] at chosen
      simp [Instance.lapsed, chosen] at going
  apply none_suspended_trans restored
  apply update_spares
  · intro one
    rfl
  · intro one _ _ _ _
    rfl

theorem suspendable_user (chosen : one.suspendable other = true) : one.userId = other := by
  simp [Instance.suspendable] at chosen
  exact chosen.1.1.1.1.1.1

theorem suspendable_going (chosen : one.suspendable other = true) : one.lapsed = false := by
  simp [Instance.suspendable] at chosen
  simp [Instance.lapsed, chosen]

theorem schedulable_user (chosen : one.schedulable other = true) : one.userId = other := by
  simp [Instance.schedulable] at chosen
  exact chosen.1.1

/-- A suspension spares the user only where it selects no instance. -/
theorem suspend_spares_iff (reason : EntitlementReason) : NoneSuspended userId instances
        (updateAll instances (fun one => one.suspendable userId) (Instance.suspend reason)) ↔
      ∀ one ∈ instances, one.suspendable userId = false := by
  constructor
  · intro spares one held
    rw [← Bool.not_eq_true]
    intro chosen
    exact update_stops held (suspendable_user chosen) (suspendable_going chosen) chosen rfl spares
  · intro none
    apply update_spares
    · intro one
      rfl
    · intro one held _ _ chosen
      rw [none one held] at chosen
      cases chosen

end Hivra.StripeSubscriptions
