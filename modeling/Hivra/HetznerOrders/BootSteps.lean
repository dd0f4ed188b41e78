import Hivra.HetznerOrders.BootRuns

/-!
# The calls of a first boot, one by one

Every call writes the two rows in the ways of `Written`.  What a call that lets a POST go out,
grants or releases a lease, or pins an identity has checked is said here, for each of them.
-/

namespace Hivra.HetznerOrders

open Hivra.Library
open Hivra.AgentNetwork (Uuid Raised refuse_if_ok bind_ok raise_ne_ok)

variable {bound : Int} {connectionId : Uuid}

variable {target : BootTarget} {leaseId : Uuid}

section Calls

variable {readings : Readings} {store next : BootStore} {answer : BootAnswer}
variable {released : Uuid → Prop}

theorem unleased_expired {operation : BootOperation} {now : Int}
    (unleased : operation.leased now = false) {lease : Lease}
    (held : operation.lease = some lease) : lease.expiresAt ≤ now := by
  simpa [BootOperation.leased, held, Lease.live] using unleased

theorem enrollment_written {marked : Bool} {now : Int} {old new : Enrollment}
    (found : store.enrollment = some old)
    (updated : store.updateEnrollment marked now old new = .ok next)
    (pins : ∀ pinned, new.identity = some pinned → old.identity = some pinned ∨
      old.windowContains pinned.enrolledAt = true) :
    Written bound released store next := by
  have ⟨isNext, update⟩ := update_enrollment_ok updated
  rw [isNext]
  exact .enrollment found update pins

theorem operation_written {bound early late : Int} {old new : BootOperation}
    (found : store.operation = some old)
    (updated : store.updateOperation early late old new = .ok next)
    (keeps : new.lease = old.lease ∨ ∀ lease, old.lease = some lease →
      lease.expiresAt ≤ bound ∨ released lease.id) :
    Written bound released store next := by
  have ⟨isNext, update⟩ := update_operation_ok updated
  rw [isNext]
  exact .operation found update keeps

theorem stage_written {request : StageRequest}
    (answered : stageHetznerFirstBoot readings request store = .ok (answer, next)) :
    Written bound released store next := by
  unfold stageHetznerFirstBoot at answered
  dsimp only at answered
  split at answered
  · exact absurd answered raise_ne_ok
  · rename_i recipe _
    split at answered
    · exact absurd answered raise_ne_ok
    iterate 2
      split at answered
      · cases answered
        exact written_refl store
    split at answered
    · split at answered <;> cases answered <;> exact written_refl store
    · rename_i vacant
      split at answered
      · cases answered
        exact written_refl store
      · have ⟨_, _, rest⟩ := bind_ok answered
        have ⟨_, checked, isNext⟩ := bind_ok rest
        cases isNext
        have passes := refuse_if_ok checked
        exact .staged vacant (by simpa using passes) rfl rfl

theorem arm_written {request : ArmRequest}
    (answered : armHetznerFirstBoot readings request store = .ok (answer, next)) :
    Written bound released store next := by
  unfold armHetznerFirstBoot at answered
  dsimp only at answered
  iterate 3
    split at answered
    · cases answered
      exact written_refl store
  · rename_i record found
    iterate 3
      split at answered
      · cases answered
        exact written_refl store
    · have ⟨_, updated, isNext⟩ := bind_ok answered
      cases isNext
      apply enrollment_written found updated
      intro pinned held
      exact .inl held

theorem consume_written {request : ConsumeRequest}
    (answered : consumeHetznerFirstBoot readings request store = .ok (answer, next)) :
    Written bound released store next := by
  unfold consumeHetznerFirstBoot at answered
  dsimp only at answered
  split at answered
  · rename_i host observedAt record _ _ found
    iterate 2
      split at answered
      · cases answered
        exact written_refl store
    rename_i admitted
    split at answered
    · split at answered <;> cases answered <;> exact written_refl store
    split at answered
    · cases answered
      exact written_refl store
    · have ⟨_, updated, isNext⟩ := bind_ok answered
      cases isNext
      apply enrollment_written found updated
      intro pinned held
      right
      simp only [Option.some.injEq] at held
      push Not at admitted
      rw [← held]
      simpa using admitted.2.1
  · cases answered
    exact written_refl store

theorem claim_written
    (answered : claimHetznerFirstBootOperation readings target leaseId store = .ok (answer, next)) :
    Written (readings.clock store.clock 1) released store next := by
  unfold claimHetznerFirstBootOperation at answered
  dsimp only at answered
  iterate 2
    split at answered
    · cases answered
      exact written_refl store
  · rename_i enrollment enrolled
    split at answered
    · cases answered
      exact written_refl store
    split at answered
    · rename_i operation found
      iterate 2
        split at answered
        · cases answered
          exact written_refl store
      · rename_i free
        have ⟨_, updated, isNext⟩ := bind_ok answered
        cases isNext
        apply operation_written found updated
        right
        intro lease held
        exact .inl (unleased_expired (by simpa using free) held)
    · rename_i vacant
      have ⟨_, referenced, rest⟩ := bind_ok answered
      have ⟨_, checked, isNext⟩ := bind_ok rest
      cases isNext
      have references := refuse_if_ok referenced
      have passes := refuse_if_ok checked
      exact .claimed vacant enrolled (by simpa using references) (by simpa using passes) rfl

theorem claim_guest_written
    (answered : claimHetznerEnrolledGuestOperation readings target leaseId store =
      .ok (answer, next)) :
    Written (readings.clock store.clock 1) released store next := by
  unfold claimHetznerEnrolledGuestOperation at answered
  dsimp only at answered
  split at answered
  · cases answered
    exact written_refl store
  split at answered
  · rename_i enrollment operation enrolled found
    iterate 2
      split at answered
      · cases answered
        exact written_refl store
    · rename_i free
      have ⟨_, updated, isNext⟩ := bind_ok answered
      cases isNext
      apply operation_written found updated
      right
      intro lease held
      exact .inl (unleased_expired (by simpa using free) held)
  · cases answered
    exact written_refl store

theorem release_written
    (answered : releaseHetznerFirstBootOperation readings target leaseId store = .ok (answer, next))
    (isReleased : answer = .flag true → released leaseId) : Written bound released store next := by
  unfold releaseHetznerFirstBootOperation at answered
  dsimp only at answered
  split at answered
  · cases answered
    exact written_refl store
  · rename_i operation found
    split at answered
    · cases answered
      exact written_refl store
    · rename_i selected
      push Not at selected
      have ⟨_, updated, isNext⟩ := bind_ok answered
      cases isNext
      apply operation_written found updated
      right
      intro lease held
      have sameId := selected.2
      rw [held] at sameId
      simp only [Option.map_some, Option.some.injEq] at sameId
      rw [sameId]
      exact .inr (isReleased rfl)

section Checkpoints

variable {bound : Int} {now : Nat → Int} {operation : BootOperation} {enrollment : Enrollment}
variable {request : CheckpointRequest}

theorem firewall_dispatch_written (found : store.operation = some operation)
    (answered : firewallDispatch now enrollment operation store = .ok (answer, next)) :
    Written bound released store next := by
  unfold firewallDispatch at answered
  split at answered
  · cases answered
    exact written_refl store
  · have ⟨_, updated, isNext⟩ := bind_ok answered
    cases isNext
    exact operation_written found updated (.inl rfl)

theorem firewall_receipt_written (found : store.operation = some operation)
    (answered : firewallReceipt now request operation store = .ok (answer, next)) :
    Written bound released store next := by
  unfold firewallReceipt at answered
  split at answered
  · split at answered
    · cases answered
      exact written_refl store
    split at answered
    · cases answered
      exact written_refl store
    · have ⟨_, updated, isNext⟩ := bind_ok answered
      cases isNext
      exact operation_written found updated (.inl rfl)
  · cases answered
    exact written_refl store

theorem firewall_verified_written (found : store.operation = some operation)
    (answered : firewallVerified now request operation store = .ok (answer, next)) :
    Written bound released store next := by
  unfold firewallVerified at answered
  split at answered
  · split at answered
    · cases answered
      exact written_refl store
    · have ⟨_, updated, isNext⟩ := bind_ok answered
      cases isNext
      exact operation_written found updated (.inl rfl)
  · cases answered
    exact written_refl store

theorem power_dispatch_written (enrolled : store.enrollment = some enrollment)
    (found : store.operation = some operation)
    (answered : powerDispatch now enrollment operation store = .ok (answer, next)) :
    Written bound released store next := by
  unfold powerDispatch at answered
  split at answered
  · cases answered
    exact written_refl store
  split at answered
  · have ⟨_, updated, isNext⟩ := bind_ok answered
    cases isNext
    exact operation_written found updated (.inl rfl)
  · split at answered
    · cases answered
      exact written_refl store
    · have ⟨opened, arms, rest⟩ := bind_ok answered
      have ⟨_, updated, isNext⟩ := bind_ok rest
      cases isNext
      have ⟨isOpened, _⟩ := update_enrollment_ok arms
      have stillThere : opened.operation = some operation := by rw [isOpened, ← found]
      apply Written.trans (enrollment_written enrolled arms ?_)
        (operation_written stillThere updated (.inl rfl))
      intro pinned held
      exact .inl held

theorem power_receipt_written (found : store.operation = some operation)
    (answered : powerReceipt now request operation store = .ok (answer, next)) :
    Written bound released store next := by
  unfold powerReceipt at answered
  split at answered
  · split at answered
    · cases answered
      exact written_refl store
    · have ⟨_, updated, isNext⟩ := bind_ok answered
      cases isNext
      exact operation_written found updated (.inl rfl)
  · cases answered
    exact written_refl store

end Checkpoints

structure CheckpointAdmitted (readings : Readings) (request : CheckpointRequest)
    (store : BootStore) (enrollment : Enrollment) (operation : BootOperation) : Prop where
  enrolled : store.enrollment = some enrollment
  found : store.operation = some operation
  held : operation.lease.map Lease.id = some request.leaseId
  unabandoned : operation.abandonedAt = none
  leased : operation.leased (readings.clock store.clock 1) = true
  thirtySeconds : request.checkpoint.dispatches = true →
    operation.leased (readings.clock store.clock 2 + 30 * oneSecond) = true

section

variable {request : CheckpointRequest}
    (answered : checkpointHetznerFirstBootOperation readings request store = .ok (answer, next))
include answered

theorem checkpoint_cases : (answer = .flag false ∧ next = store) ∨
      ∃ enrollment operation,
        CheckpointAdmitted readings request store enrollment operation ∧
        (match request.checkpoint with
          | .firewallDispatch =>
            firewallDispatch (readings.clock store.clock) enrollment operation store
          | .firewallReceipt =>
            firewallReceipt (readings.clock store.clock) request operation store
          | .firewallVerified =>
            firewallVerified (readings.clock store.clock) request operation store
          | .powerDispatch =>
            powerDispatch (readings.clock store.clock) enrollment operation store
          | .powerReceipt =>
            powerReceipt (readings.clock store.clock) request operation store) =
          .ok (answer, next) := by
  unfold checkpointHetznerFirstBootOperation at answered
  dsimp only at answered
  split at answered
  · cases answered
    exact .inl ⟨rfl, rfl⟩
  split at answered
  · rename_i enrollment operation enrolled found
    iterate 2
      split at answered
      · cases answered
        exact .inl ⟨rfl, rfl⟩
    rename_i selected
    split at answered
    · cases answered
      exact .inl ⟨rfl, rfl⟩
    rename_i dispatch
    push Not at selected dispatch
    right
    refine ⟨enrollment, operation, ?_, answered⟩
    constructor
    · exact enrolled
    · exact found
    · exact selected.2.1
    · exact selected.2.2.1
    · simpa using selected.2.2.2
    · intro dispatches
      simpa using (dispatch dispatches).2.2
  · cases answered
    exact .inl ⟨rfl, rfl⟩

theorem checkpoint_written : Written bound released store next := by
  rcases checkpoint_cases answered with ⟨_, same⟩ | ⟨enrollment, operation, admitted, branch⟩
  · rw [same]
    exact written_refl store
  · cases kind : request.checkpoint with
    | firewallDispatch =>
      rw [kind] at branch
      exact firewall_dispatch_written admitted.found branch
    | firewallReceipt =>
      rw [kind] at branch
      exact firewall_receipt_written admitted.found branch
    | firewallVerified =>
      rw [kind] at branch
      exact firewall_verified_written admitted.found branch
    | powerDispatch =>
      rw [kind] at branch
      exact power_dispatch_written admitted.enrolled admitted.found branch
    | powerReceipt =>
      rw [kind] at branch
      exact power_receipt_written admitted.found branch

end

theorem revoke_written {bound now : Int}
    (answered : store.revokeEnrollment now = .ok next) : Written bound released store next := by
  unfold BootStore.revokeEnrollment at answered
  split at answered
  · cases answered
    exact written_refl store
  · rename_i record found
    split at answered
    · cases answered
      exact written_refl store
    · apply enrollment_written found answered
      intro pinned held
      exact .inl held

theorem abandon_written {serverName confirmation : String}
    (answered : abandonHetznerFirstBootOperation readings target serverName confirmation store =
      .ok (answer, next)) :
    Written (readings.clock store.clock 1) released store next := by
  unfold abandonHetznerFirstBootOperation at answered
  dsimp only at answered
  iterate 2
    split at answered
    · cases answered
      exact written_refl store
  · rename_i operation found
    split at answered
    · cases answered
      exact written_refl store
    rename_i free
    split at answered
    · cases answered
      exact written_refl store
    · have ⟨left, updated, rest⟩ := bind_ok answered
      have ⟨_, revoked, isNext⟩ := bind_ok rest
      cases isNext
      push Not at free
      apply Written.trans (operation_written found updated ?_) (revoke_written revoked)
      right
      intro lease held
      have expired := unleased_expired (by simpa using free.2) held
      have order := readings.clock_mono store.clock (Nat.zero_le 1)
      exact .inl (by omega)

theorem revoke_by_connection_written {bound now : Int}
    (answered : store.revokeByConnection connectionId now = .ok next) :
    Written bound released store next := by
  unfold BootStore.revokeByConnection at answered
  split at answered
  · exact revoke_written answered
  · cases answered
    exact written_refl store

theorem update_order_written {now : Nat → Int} {new : CapacityOrder}
    (answered : store.updateOrder now new = .ok next) : Written bound released store next := by
  unfold BootStore.updateOrder at answered
  have ⟨_, _, rest⟩ := bind_ok answered
  have ⟨_, _, rest⟩ := bind_ok rest
  have ordered : Written bound released store (store.withOrder new) := .same rfl rfl
  split at rest
  · exact .trans ordered (revoke_written rest)
  · cases rest
    exact ordered

theorem write_connection_written {now : Nat → Int}
    {new : Option Connection} (answered : store.writeConnection now connectionId new = .ok next) :
    Written bound released store next := by
  unfold BootStore.writeConnection at answered
  split at answered
  · cases answered
    exact written_refl store
  · split at answered
    · exact absurd answered raise_ne_ok
    · cases answered
      exact .same rfl rfl
  · split at answered
    · exact absurd answered raise_ne_ok
    · obtain ⟨revoked, revokes, isNext⟩ := bind_ok answered
      cases isNext
      exact .trans (revoke_by_connection_written revokes) (.same rfl rfl)
  · split at answered
    · exact absurd answered raise_ne_ok
    · obtain ⟨revoked, revokes, isNext⟩ := bind_ok answered
      cases isNext
      unfold BootStore.revokeByChange at revokes
      split at revokes
      · exact .trans (revoke_by_connection_written revokes) (.same rfl rfl)
      · cases revokes
        exact .same rfl rfl

theorem write_secret_written {now : Nat → Int}
    {swapped : Bool} (answered : store.writeSecret now connectionId swapped = .ok next) :
    Written bound released store next := by
  unfold BootStore.writeSecret at answered
  split at answered
  · split at answered
    · exact absurd answered raise_ne_ok
    · cases answered
      exact written_refl store
  split at answered
  · exact absurd answered raise_ne_ok
  · exact revoke_by_connection_written answered

end Calls

end Hivra.HetznerOrders
