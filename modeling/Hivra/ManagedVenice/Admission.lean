import Hivra.ManagedVenice.HalfBalance

/-!
# Which chat requests are admitted

The call of a chat reservation whose body may be rewritten, with no spend cap set, while
the balance stays: what each attempt ends in, and from that when the request is admitted
and with which output cap.
-/

namespace Hivra.ManagedVenice

open Hivra.Library
open Hivra.Venice

/-- A call the rules are stated for: a named user and reference, a wallet of the two types
the code knows, a body that may be rewritten, no spend cap. -/
structure Admissible (request : ChatBudget) : Prop where
  named : isEmptyText request.userId = false
  referenced : isEmptyText request.referenceId = false
  wallet : request.walletType ≠ .hivra
  rewrites : request.allowBodyRewrite = true
  uncapped : request.spendCap = none

variable {caller : Nat} {request : ChatBudget} {balance : WalletBalance}
variable {price : VeniceChatModelPrice} {estimateBody : Json} {fullCap : Nat}

def ChatBudget.holdAt (request : ChatBudget) (price : VeniceChatModelPrice) (estimateBody : Json)
    (cap : Nat) : Nat :=
  coveringHoldMicroUsd price estimateBody cap request.surcharge

theorem max_affordable_inverts (priced : Priced request price estimateBody fullCap)
    {patched : Json} (isRecord : patched.isRecord = true)
    (others : ∀ key, key ∉ capKeys → patched.member? key = estimateBody.member? key)
    (rated : 0 < price.outputMicroUsdPerMillion) : ∃ largest : Int → Nat,
      (∀ available, maxAffordableVeniceChatOutputCap request.book patched available =
        .ok (largest available)) ∧
      ∀ cap budget, 0 < cap → ExactHold price estimateBody cap →
        (cap ≤ largest ((budget : Nat) - surchargeHoldMicroUsd request.surcharge) ↔
          cap ≤ price.maxOutputTokens ∧ request.holdAt price estimateBody cap ≤ budget) := by
  apply Exists.intro (affordableCap price estimateBody)
  constructor
  · exact max_affordable_priced priced isRecord others rated
  · intro cap budget some exact
    unfold ChatBudget.holdAt
    exact le_affordable_cap_iff exact rated some request.surcharge budget

def Fits (balance : WalletBalance) (share : Option Nat) (amountMicroUsd : Nat) : Prop :=
  amountMicroUsd ≤ balance.availableMicroUsd ∧
    overShare share amountMicroUsd balance.availableMicroUsd = false

instance (balance : WalletBalance) (share : Option Nat) (amountMicroUsd : Nat) :
    Decidable (Fits balance share amountMicroUsd) :=
  inferInstanceAs (Decidable (_ ∧ _))

theorem fits_whole (amountMicroUsd : Nat) :
    Fits balance none amountMicroUsd ↔ amountMicroUsd ≤ balance.availableMicroUsd := by
  simp [Fits, overShare]

theorem fits_half (amountMicroUsd : Nat) : Fits balance (some maxHoldShareBps) amountMicroUsd ↔
      amountMicroUsd ≤ balance.availableMicroUsd / 2 := by
  simp only [Fits, overShare, Option.any_some, maxHoldShareBps, decide_eq_false_iff_not]
  omega

variable {cap : Nat}

theorem reserve_settles (admissible : Admissible request)
    (priced : Priced request price estimateBody fullCap)
    (exact : ExactHold price estimateBody fullCap)
    (rated : 0 < price.outputMicroUsdPerMillion) (positive : 0 < cap) (within : cap ≤ fullCap)
    {share : Option Nat} (inRange : shareOutOfRange share = false) : Settles caller request balance
      (reserve request (managedVeniceOutputCapPatch request.protocol request.body cap price)
        request.book share)
      (fun result =>
        if Fits balance share (request.holdAt price estimateBody cap) then
          ∃ reservation, result = .ok reservation ∧
            reservation.reservedMicroUsd = request.holdAt price estimateBody cap
        else result = .error (.insufficientBalance (some balance))) := by
  obtain ⟨patched, estimate, estimated, _, others, ok, amount⟩ :=
    estimate_patched priced positive within
  have perMillion : ∃ perMillion,
      outputMicroUsdPerMillion request.book (memberText "model" patched) = .ok perMillion := by
    obtain ⟨unpatched, plain, unpatchedModel⟩ := estimate_body_unpatched priced.body
    have sameBody := Except.ok.inj (plain.symm.trans priced.body)
    subst sameBody
    have sameText : memberText "model" patched = memberText "model" request.body := by
      simp only [memberText, (others "model" (by decide)).trans unpatchedModel]
    rw [sameText]
    simp [outputMicroUsdPerMillion, calculateActualChatCost, priced_resolves priced,
      require_non_negative_integer_of_nat, bind, Except.bind, pure, Except.pure]
  obtain ⟨perMillion, perMillionEq⟩ := perMillion
  have holdPositive : 0 < estimate.reservedCostMicroUsd + surchargeHoldMicroUsd request.surcharge := by
    rw [amount]
    exact Nat.lt_of_le_of_lt (Nat.zero_le _)
      (covering_hold_positive (exact_hold_mono within exact) rated positive request.surcharge)
  unfold reserve
  rw [estimated]
  simp only [orRefuse, Script.pure_eq_ret, Script.bind_eq, Script.bind_ret]
  unfold reserveManagedVeniceChatRequest
  simp only [ok, orThrow, admissible.uncapped, assertManagedVeniceWithinSpendCap, perMillionEq,
    Script.pure_eq_ret, Script.bind_eq, Script.bind_ret]
  apply concludes_bind steady_balance_inherited
  · exact create_reservation_settles admissible.named admissible.referenced admissible.wallet
      rfl rfl rfl inRange holdPositive
  · intro receipt reached
    apply concludes_ret
    simp only [ChatHold.createReservation, amount] at reached
    change if Fits balance share (request.holdAt price estimateBody cap) then _ else _ at reached
    split_ifs at reached ⊢
    exact ⟨_, rfl, amount⟩
  · intro failure reached
    simp only [ChatHold.createReservation, amount] at reached
    change if Fits balance share (request.holdAt price estimateBody cap) then _ else _ at reached
    split_ifs at reached ⊢
    · obtain ⟨_, same, _⟩ := id reached
      cases same
    · cases reached
      rfl

theorem reserve_or_refused_settles (admissible : Admissible request)
    (priced : Priced request price estimateBody fullCap)
    (exact : ExactHold price estimateBody fullCap)
    (rated : 0 < price.outputMicroUsdPerMillion) (positive : 0 < cap) (within : cap ≤ fullCap)
    {share : Option Nat} (inRange : shareOutOfRange share = false) :
    SettlesTo caller request balance
      (reserveOrRefused request
        (managedVeniceOutputCapPatch request.protocol request.body cap price) share)
      (fun (outcome : Except SettlementError ChatReservation) =>
        if Fits balance share (request.holdAt price estimateBody cap) then
          ∃ reservation, outcome = .ok reservation ∧
            reservation.reservedMicroUsd = request.holdAt price estimateBody cap
        else outcome = .error (.insufficientBalance (some balance))) := by
  have body : Settles caller request balance
      ((reserve request (managedVeniceOutputCapPatch request.protocol request.body cap price)
        request.book share).bind fun reservation => .ret (.ok reservation))
      (fun (result : Except SettlementError (Except SettlementError ChatReservation)) =>
        if Fits balance share (request.holdAt price estimateBody cap) then
          ∃ reservation, result = .ok (.ok reservation) ∧
            reservation.reservedMicroUsd = request.holdAt price estimateBody cap
        else result = .error (.insufficientBalance (some balance))) := by
    apply concludes_bind steady_balance_inherited
      (reserve_settles admissible priced exact rated positive within inRange)
    · intro reservation reached
      apply concludes_ret
      split_ifs at reached ⊢ with fits
      have ⟨_, same, reserved⟩ := reached
      cases same
      exact ⟨reservation, rfl, reserved⟩
    · intro failure reached
      split_ifs at reached ⊢ with fits
      · have ⟨_, same, _⟩ := reached
        cases same
      · cases reached
        rfl
  apply concludes_handle steady_balance_inherited body
  · intro outcome reached
    apply Exists.intro outcome
    constructor
    · rfl
    · split_ifs at reached ⊢ with fits
      have ⟨reservation, same, reserved⟩ := reached
      cases same
      exact ⟨reservation, rfl, reserved⟩
  · intro failure reached
    split_ifs at reached with fits
    · have ⟨_, same, _⟩ := reached
      cases same
    · cases reached
      apply returns_ret
      simp only [fits, if_false]

def floorCap (fullCap : Nat) : Nat :=
  min minClampedOutputTokens fullCap

def LargestWithinHalf (request : ChatBudget) (price : VeniceChatModelPrice) (estimateBody : Json)
    (fullCap available cap : Nat) : Prop :=
  (request.holdAt price estimateBody cap ≤ available / 2 ∧
      ∀ larger, cap < larger → larger ≤ fullCap →
        available / 2 < request.holdAt price estimateBody larger) ∨
    cap = floorCap fullCap

structure Admitted (request : ChatBudget) (price : VeniceChatModelPrice) (estimateBody : Json)
    (fullCap available : Nat) (budgeted : BudgetedReservation) : Prop where
  held : budgeted.reservation.reservedMicroUsd =
    request.holdAt price estimateBody budgeted.outputCap
  within : budgeted.outputCap ≤ fullCap
  largest : LargestWithinHalf request price estimateBody fullCap available budgeted.outputCap

theorem floor_cap_positive (priced : Priced request price estimateBody fullCap) :
    0 < floorCap fullCap := by
  have sendable := priced.sendable.1
  simp only [floorCap, minClampedOutputTokens]
  omega

theorem floor_cap_within : floorCap fullCap ≤ fullCap := Nat.min_le_right _ _

theorem reserve_lowered_settles (admissible : Admissible request)
    (priced : Priced request price estimateBody fullCap)
    (exact : ExactHold price estimateBody fullCap)
    (rated : 0 < price.outputMicroUsdPerMillion) (positive : 0 < cap) (within : cap ≤ fullCap)
    (covered : request.holdAt price estimateBody cap ≤ balance.availableMicroUsd)
    (largest : LargestWithinHalf request price estimateBody fullCap balance.availableMicroUsd cap)
    (floorHoldMicroUsd : Nat) :
    SettlesTo caller request balance (reserveLowered request price fullCap cap floorHoldMicroUsd)
      (Admitted request price estimateBody fullCap balance.availableMicroUsd) := by
  unfold reserveLowered
  apply returns_bind steady_balance_inherited
  · exact reserve_or_refused_settles admissible priced exact rated positive within rfl
  · intro outcome reached
    rw [if_pos ((fits_whole _).mpr covered)] at reached
    have ⟨reservation, same, reserved⟩ := reached
    cases same
    apply returns_ret
    exact
      { held := reserved
        within
        largest }

theorem lowered_cap_largest (priced : Priced request price estimateBody fullCap) {floor share : Nat}
    (floorPositive : 0 < floor) (floorWithin : floor ≤ fullCap)
    (floorFits : request.holdAt price estimateBody floor ≤ balance.availableMicroUsd)
    (half : ∀ tokens, 0 < tokens → tokens ≤ fullCap → (tokens ≤ share ↔ tokens ≤ price.maxOutputTokens ∧
      request.holdAt price estimateBody tokens ≤ balance.availableMicroUsd / 2))
    (capEq : cap = min fullCap (max share floor)) : 0 < cap ∧ cap ≤ fullCap ∧
      request.holdAt price estimateBody cap ≤ balance.availableMicroUsd ∧
      ((request.holdAt price estimateBody cap ≤ balance.availableMicroUsd / 2 ∧
          ∀ larger, cap < larger → larger ≤ fullCap →
            balance.availableMicroUsd / 2 < request.holdAt price estimateBody larger) ∨
        cap = floor) := by
  have ⟨requested, _, fullEq⟩ := priced.cap
  have fullMax : fullCap ≤ price.maxOutputTokens := by omega
  by_cases raised : share < floor
  · have isFloor : cap = floor := by omega
    rw [isFloor]
    exact ⟨floorPositive, floorWithin, floorFits, .inr rfl⟩
  · have isShare : cap = min fullCap share := by omega
    have capPositive : 0 < cap := by omega
    have ⟨_, within⟩ := (half cap capPositive (by omega)).mp (by omega)
    constructor
    · exact capPositive
    constructor
    · omega
    constructor
    · omega
    · apply Or.inl
      constructor
      · exact within
      · intro larger above upTo
        by_contra fits
        have affordable := (half larger (by omega) upTo).mpr ⟨by omega, by omega⟩
        omega

theorem lower_to_balance_settles (admissible : Admissible request)
    (priced : Priced request price estimateBody fullCap)
    (exact : ExactHold price estimateBody fullCap)
    (exactShare : balance.availableMicroUsd * maxHoldShareBps < 2 ^ 53)
    (rated : 0 < price.outputMicroUsdPerMillion) : Settles caller request balance
      (lowerToBalance request price fullCap (.insufficientBalance (some balance)))
      (fun result =>
        if request.holdAt price estimateBody (floorCap fullCap) ≤ balance.availableMicroUsd then
          ∃ budgeted, result = .ok budgeted ∧
            Admitted request price estimateBody fullCap balance.availableMicroUsd budgeted
        else ∃ failure, result = .error failure) := by
  have ⟨patched, _, estimated, isRecord, others, _, _⟩ :=
    estimate_patched priced priced.sendable.1 (Nat.le_refl fullCap)
  have ⟨floor, floorOk, _, _, _, _⟩ :=
    estimate_replaced priced isRecord others (floor_cap_positive priced) floor_cap_within
  have ⟨largest, affordable, inverts⟩ := max_affordable_inverts priced isRecord others rated
  have ⟨requested, _, fullEq⟩ := priced.cap
  have floorAffordable : floorCap fullCap ≤ largest
        ((balance.availableMicroUsd : Int) - surchargeHoldMicroUsd request.surcharge) ↔
      request.holdAt price estimateBody (floorCap fullCap) ≤ balance.availableMicroUsd := by
    rw [inverts _ _ (floor_cap_positive priced) (exact_hold_mono floor_cap_within exact)]
    have floorMax : floorCap fullCap ≤ price.maxOutputTokens := by
      apply Nat.le_trans floor_cap_within
      rw [fullEq]
      exact Nat.min_le_right _ _
    simp only [floorMax, true_and]
  have half : floorQuotient (doubleProduct balance.availableMicroUsd maxHoldShareBps) 10000 =
      balance.availableMicroUsd / 2 := by
    rw [double_product_exact exactShare, floor_quotient_exact exactShare (by decide)]
    simp only [maxHoldShareBps]
    omega
  have isFloor : min minClampedOutputTokens fullCap = floorCap fullCap := rfl
  unfold lowerToBalance
  simp only [balanceOf, SettlementError.balance?, estimated, orRefuse, orThrow, isFloor, floorOk,
    affordable, half, Script.pure_eq_ret, Script.bind_eq, Script.bind_ret]
  by_cases fits :
      request.holdAt price estimateBody (floorCap fullCap) ≤ balance.availableMicroUsd
  · have notShort := Nat.not_lt.mpr (floorAffordable.mpr fits)
    rw [if_neg notShort]
    simp only [fits, if_true]
    have ⟨positive, within, covered, isLargest⟩ := lowered_cap_largest priced
      (floor_cap_positive priced) floor_cap_within fits
      (fun tokens some within => inverts tokens _ some (exact_hold_mono within exact)) rfl
    exact reserve_lowered_settles admissible priced exact rated positive within covered isLargest _
  · have short : largest
        ((balance.availableMicroUsd : Int) - surchargeHoldMicroUsd request.surcharge) <
          floorCap fullCap := Nat.lt_of_not_le fun le => fits (floorAffordable.mp le)
    rw [if_pos short]
    simp only [fits, if_false]
    exact concludes_raise ⟨_, rfl⟩

theorem priced_call_settles (admissible : Admissible request)
    (priced : Priced request price estimateBody fullCap)
    (exact : ExactHold price estimateBody fullCap)
    (exactShare : balance.availableMicroUsd * maxHoldShareBps < 2 ^ 53)
    (rated : 0 < price.outputMicroUsdPerMillion) :
    Settles caller request balance (reserveManagedVeniceChatWithinBalance request)
      (fun result =>
        if request.holdAt price estimateBody (floorCap fullCap) ≤ balance.availableMicroUsd then
          ∃ budgeted, result = .ok budgeted ∧
            Admitted request price estimateBody fullCap balance.availableMicroUsd budgeted
        else ∃ failure, result = .error failure) := by
  have ⟨requested, asked, fullEq⟩ := priced.cap
  unfold reserveManagedVeniceChatWithinBalance
  simp only [priced_resolves priced, admissible.rewrites, orThrow, Script.pure_eq_ret,
    Script.bind_eq, Script.bind_ret, if_true]
  unfold reservePatched
  simp only [asked, orThrow, ← fullEq, Script.pure_eq_ret, Script.bind_eq, Script.bind_ret]
  apply returns_bind steady_balance_inherited
  · exact reserve_or_refused_settles admissible priced exact rated priced.sendable.1
      (Nat.le_refl fullCap) rfl
  · intro outcome reached
    by_cases fits : Fits balance (some maxHoldShareBps) (request.holdAt price estimateBody fullCap)
    · rw [if_pos fits] at reached
      have ⟨reservation, same, reserved⟩ := reached
      cases same
      have within := (fits_half _).mp fits
      have floorLe : request.holdAt price estimateBody (floorCap fullCap) ≤
          request.holdAt price estimateBody fullCap :=
        covering_hold_mono exact floor_cap_within request.surcharge
      have floorFits : request.holdAt price estimateBody (floorCap fullCap) ≤
          balance.availableMicroUsd := by omega
      simp only [floorFits, if_true]
      apply returns_ret
      exact
        { held := reserved
          within := Nat.le_refl fullCap
          largest := .inl ⟨within, fun larger above upTo => absurd upTo (Nat.not_le.mpr above)⟩ }
    · rw [if_neg fits] at reached
      cases reached
      exact lower_to_balance_settles admissible priced exact exactShare rated

/-- A published maximum is a positive safe integer; the reader of the live prices takes no
other. -/
def PublishedMaximum (price : VeniceChatModelPrice) : Prop :=
  price.maxOutputTokensSource = .veniceLive →
    0 < price.maxOutputTokens ∧ price.maxOutputTokens ≤ Json.maxSafeInteger

theorem estimate_reads_choices {book : PriceBook} {body : Json} {estimate : ChatCostEstimate}
    (ok : estimateChatCompletionCost book body = .ok estimate) :
    ∃ choices, readVeniceChatPositiveInteger (body.member? "n") "n" = .ok choices := by
  have ⟨price, out, resolved, worst, _⟩ := estimate_ok ok
  cases read : readVeniceChatPositiveInteger (body.member? "n") "n" with
  | ok choices => exact ⟨choices, rfl⟩
  | error failure =>
    simp [estimateChatCompletionCost, resolved, worst, read, bind, Except.bind] at ok

theorem priced_of_estimate {requested : Option Nat} {patched : Json} {estimate : ChatCostEstimate}
    (resolved : resolvePrice request.book (memberText "model" request.body) = .ok price)
    (published : PublishedMaximum price)
    (asked : requestedOutputCap request.protocol request.body = .ok requested)
    (estimated : managedVeniceChatEstimateBody request.protocol request.body
      (managedVeniceOutputCapPatch request.protocol request.body
        (min (requested.getD price.maxOutputTokens) price.maxOutputTokens) price) = .ok patched)
    (ok : estimateChatCompletionCost request.book patched = .ok estimate) :
    ∃ estimateBody, Priced request price estimateBody
      (min (requested.getD price.maxOutputTokens) price.maxOutputTokens) := by
  set cap := min (requested.getD price.maxOutputTokens) price.maxOutputTokens with capEq
  obtain ⟨unpatched, plain, unpatchedModel⟩ := estimate_body_unpatched estimated
  have estimateOf : EstimateOf request.protocol (applyPatch request.body
      (managedVeniceOutputCapPatch request.protocol request.body cap price)) unpatched patched := by
    obtain ⟨fields, patch, listed, _, _⟩ :=
      patch_fields request.protocol request.body cap price
    rw [patch] at estimated ⊢
    exact estimate_of_patch request.bodyIsRecord fields cap listed plain estimated
  obtain ⟨other, out, otherResolved, worst, _⟩ := estimate_ok ok
  have modelMember := (estimateOf.others "model" (by decide)).trans unpatchedModel
  obtain ⟨choices, readChoices⟩ := estimate_reads_choices ok
  apply Exists.intro unpatched
  constructor
  · have sameText : stringMember "model" patched = stringMember "model" request.body := by
      rw [stringMember, modelMember, stringMember]
    cases isText : stringMember "model" request.body with
    | none => simp [resolveRequestPrice, sameText, isText] at otherResolved
    | some model =>
      rw [member_text_of_string isText] at resolved
      exact ⟨model, rfl, resolved⟩
  · exact plain
  · rw [← estimateOf.others "n" (by decide)]
    exact ⟨choices, readChoices⟩
  · exact ⟨requested, asked, capEq⟩
  · obtain ⟨reads, _⟩ := worst_case_sent_caps estimateOf worst
    obtain ⟨_, carried⟩ := forwarded_fields request.bodyIsRecord request.protocol cap price
    cases carried with
    | inl sent =>
      obtain ⟨field, listed, same⟩ := sent
      obtain ⟨value, read⟩ := reads field listed
      have isCap := read_same_cap same read
      subst isCap
      exact read_positive read
    | inr atMaximum =>
      obtain ⟨atLeast, confirmed⟩ := atMaximum
      have isMaximum : cap = price.maxOutputTokens := by omega
      rw [isMaximum]
      exact published (by simpa [outputMaximumConfirmed] using confirmed)

theorem malformed_call_settles (admissible : Admissible request) (published : ∀ price,
      resolvePrice request.book (memberText "model" request.body) = .ok price →
        PublishedMaximum price)
    (malformed : ¬ ∃ price estimateBody fullCap, Priced request price estimateBody fullCap) :
    Settles caller request balance (reserveManagedVeniceChatWithinBalance request)
      (fun result => ∃ failure, result = .error failure) := by
  unfold reserveManagedVeniceChatWithinBalance
  cases resolved : resolvePrice request.book (memberText "model" request.body) with
  | error failure => exact concludes_raise ⟨_, rfl⟩
  | ok price =>
  simp only [admissible.rewrites, orThrow, Script.pure_eq_ret, Script.bind_eq, Script.bind_ret,
    if_true]
  unfold reservePatched
  cases asked : requestedOutputCap request.protocol request.body with
  | error failure => exact concludes_raise ⟨_, rfl⟩
  | ok requested =>
  simp only [orThrow, Script.pure_eq_ret, Script.bind_eq, Script.bind_ret]
  set cap := min (requested.getD price.maxOutputTokens) price.maxOutputTokens with capEq
  have throws : Settles caller request balance
      ((reserve request (managedVeniceOutputCapPatch request.protocol request.body cap price)
        request.book (some maxHoldShareBps)).bind fun reservation => .ret (.ok reservation))
      (fun (result : Except SettlementError (Except SettlementError ChatReservation)) =>
        ∃ failure, result = .error failure ∧ failure.isInsufficientBalance = false) := by
    unfold reserve
    cases estimated : managedVeniceChatEstimateBody request.protocol request.body
      (managedVeniceOutputCapPatch request.protocol request.body cap price) with
    | error message => exact concludes_raise ⟨_, rfl, rfl⟩
    | ok patched =>
      unfold reserveManagedVeniceChatRequest
      cases ok : estimateChatCompletionCost request.book patched with
      | error failure =>
        simp only [orRefuse, ok, orThrow, Script.pure_eq_ret, Script.bind_eq, Script.bind_ret,
          Script.throw_eq_raise, Script.bind_raise]
        exact concludes_raise ⟨_, rfl, rfl⟩
      | ok estimate =>
        exfalso
        have ⟨estimateBody, priced⟩ :=
          priced_of_estimate resolved (published price resolved) asked estimated ok
        exact malformed ⟨price, estimateBody, cap, priced⟩
  have attempt : Settles caller request balance
      (reserveOrRefused request
        (managedVeniceOutputCapPatch request.protocol request.body cap price)
        (some maxHoldShareBps))
      (fun result => ∃ failure, result = .error failure) := by
    apply concludes_handle steady_balance_inherited throws
    · intro outcome impossible
      have ⟨_, same, _⟩ := impossible
      cases same
    · intro failure threw
      have ⟨_, same, other⟩ := threw
      cases same
      simp only [other, Bool.false_eq_true, if_false]
      exact concludes_raise ⟨_, rfl⟩
  apply concludes_bind steady_balance_inherited attempt
  · intro outcome impossible
    have ⟨_, same⟩ := impossible
    cases same
  · intro failure threw
    exact ⟨failure, rfl⟩

theorem priced_unique {price' : VeniceChatModelPrice} {estimateBody' : Json} {fullCap' : Nat}
    (other : Priced request price' estimateBody' fullCap')
    (priced : Priced request price estimateBody fullCap) :
    price' = price ∧ estimateBody' = estimateBody ∧ fullCap' = fullCap := by
  have samePrice := Except.ok.inj ((priced_resolves other).symm.trans (priced_resolves priced))
  have sameBody := Except.ok.inj (other.body.symm.trans priced.body)
  have ⟨requested, asked, capEq⟩ := priced.cap
  have ⟨requested', asked', capEq'⟩ := other.cap
  have sameRequest := Except.ok.inj (asked'.symm.trans asked)
  subst samePrice sameBody sameRequest
  exact ⟨rfl, rfl, capEq'.trans capEq.symm⟩

/-- The half-balance rule and the floor decide admission: while the balance stays and the products
are exact, a request is admitted exactly when nothing in it is malformed and the hold of its
floor, the smaller of 4,096 and its full cap, fits in what is available; and the cap it is given is
the largest whose hold is within half of that, or the floor. -/
theorem floor_and_half_decide_admission
    (caller : Nat) (request : ChatBudget) (balance : WalletBalance)
    (exchanges : List (Exchange Statement Turn SettlementStore))
    (result : Except SettlementError BudgetedReservation) (admissible : Admissible request)
    (priceRow : ∀ price, resolvePrice request.book (memberText "model" request.body) = .ok price →
      0 < price.outputMicroUsdPerMillion ∧ PublishedMaximum price)
    (exact : ∀ price estimateBody fullCap, Priced request price estimateBody fullCap →
      ExactHold price estimateBody fullCap)
    (exactShare : balance.availableMicroUsd * maxHoldShareBps < 2 ^ 53)
    (ends : Ends (performStatement caller) (reserveManagedVeniceChatWithinBalance request) exchanges
      result)
    (steady : SteadyBalance caller request balance exchanges) :
    ((∃ budgeted, result = .ok budgeted) ↔
      ∃ price estimateBody fullCap, Priced request price estimateBody fullCap ∧
        request.holdAt price estimateBody (floorCap fullCap) ≤ balance.availableMicroUsd) ∧
      ∀ budgeted, result = .ok budgeted →
        ∃ price estimateBody fullCap, Priced request price estimateBody fullCap ∧
          Admitted request price estimateBody fullCap balance.availableMicroUsd budgeted := by
  by_cases wellFormed : ∃ price estimateBody fullCap, Priced request price estimateBody fullCap
  · have ⟨price, estimateBody, fullCap, priced⟩ := wellFormed
    have rated := (priceRow price (priced_resolves priced)).1
    have settled := (priced_call_settles admissible priced
      (exact _ _ _ priced) exactShare rated).result exchanges result ends steady
    by_cases fits :
        request.holdAt price estimateBody (floorCap fullCap) ≤ balance.availableMicroUsd
    · simp only [fits, if_true] at settled
      have ⟨budgeted, same, admitted⟩ := settled
      subst same
      constructor
      · constructor
        · intro _
          exact ⟨price, estimateBody, fullCap, priced, fits⟩
        · intro _
          exact ⟨budgeted, rfl⟩
      · intro other same
        cases same
        exact ⟨price, estimateBody, fullCap, priced, admitted⟩
    · simp only [fits, if_false] at settled
      have ⟨failure, same⟩ := settled
      subst same
      constructor
      · constructor
        · intro impossible
          have ⟨_, same⟩ := impossible
          cases same
        · intro fitting
          have ⟨_, _, _, other, otherFits⟩ := fitting
          have ⟨samePrice, sameBody, sameCap⟩ := priced_unique other priced
          subst samePrice sameBody sameCap
          exact absurd otherFits fits
      · intro budgeted same
        cases same
  · have ⟨failure, same⟩ := (malformed_call_settles admissible
      (fun price resolved => (priceRow price resolved).2) wellFormed).result exchanges result ends
        steady
    subst same
    constructor
    · constructor
      · intro impossible
        have ⟨_, same⟩ := impossible
        cases same
      · intro fitting
        have ⟨price, estimateBody, fullCap, priced, _⟩ := fitting
        exact absurd ⟨price, estimateBody, fullCap, priced⟩ wellFormed
    · intro budgeted same
      cases same

def wholeWallet (availableMicroUsd : Nat) : WalletBalance :=
  { totalValueMicroUsd := availableMicroUsd, reservedMicroUsd := 0, availableMicroUsd }

theorem lone_request_steady {request : ChatBudget} {store : SettlementStore}
    {balance : WalletBalance}
    (stores : ∀ exchange ∈ (reserveAlone request store).1, exchange.store = store)
    (faults : ∀ exchange ∈ (reserveAlone request store).1, exchange.fault = Turn.at "row" 1000)
    (account : store.wallets.hasAccount request.userId)
    (others : ∀ account ∈ store.wallets.accounts.rows, account.id ≠ "row")
    (noHolds : store.wallets.reservations.rows = [])
    (has : store.wallets.balance request.userId request.walletType = balance) :
    SteadyBalance 0 request balance (reserveAlone request store).1 := by
  have noHold : ∀ hold, hold ∉ store.wallets.reservations := by
    intro hold member
    rw [Table.mem_rows, noHolds] at member
    cases member
  constructor
  · intro exchange member
    have isStore := stores exchange member
    have isFault := faults exchange member
    constructor
    · rw [isFault]
      rfl
    · rw [isStore, isFault]
      exact others
    · rw [isStore]
      exact fun hold held => absurd held (noHold hold)
    · rw [isStore]
      exact fun hold held => absurd held (noHold hold)
    · rw [isStore]
      exact fun hold held => absurd held (noHold hold)
    · rw [isStore]
      exact has
  · apply List.pairwise_of_forall_mem_list
    intro earlier _ later member _
    rw [stores later member]
    exact account

theorem capped_request_priced : Priced (cappedRequest true) publishedRow cappedBody 16384 :=
  { model := ⟨"zai-org-glm-4.7", by decide, rfl⟩
    body := rfl
    choices := ⟨none, by decide⟩
    cap := ⟨some 20000, by decide +kernel, rfl⟩
    sendable := by decide }

/-- The wallet of 60,000 while a request for 20,000 tokens runs alone: half of it covers
10,290. -/
theorem floor_and_half_decide_admission_lowered :
    ((∃ budgeted, (Except.ok loweredReservation : Except SettlementError _) = .ok budgeted) ↔
      ∃ price estimateBody fullCap, Priced (cappedRequest true) price estimateBody fullCap ∧
        (cappedRequest true).holdAt price estimateBody (floorCap fullCap) ≤ 60000) ∧
      ∀ budgeted, (Except.ok loweredReservation : Except SettlementError _) = .ok budgeted →
        ∃ price estimateBody fullCap, Priced (cappedRequest true) price estimateBody fullCap ∧
          Admitted (cappedRequest true) price estimateBody fullCap 60000 budgeted :=
  floor_and_half_decide_admission 0 (cappedRequest true) (wholeWallet 60000)
    (reserveAlone (cappedRequest true) (creditedWallet [])).1 (.ok loweredReservation)
    { named := by decide
      referenced := by decide
      wallet := by decide
      rewrites := rfl
      uncapped := rfl }
    (by
      intro price resolved
      have isRow : price = publishedRow := by
        simpa [resolvePrice, cappedRequest, publishedBook] using resolved.symm
      subst isRow
      exact ⟨by decide, fun _ => by decide⟩)
    (by
      intro price estimateBody fullCap priced
      obtain ⟨samePrice, sameBody, sameCap⟩ := priced_unique priced capped_request_priced
      subst samePrice sameBody sameCap
      exact ⟨by decide +kernel, by decide +kernel⟩)
    (by decide) (ends_traced (by decide +kernel))
    (lone_request_steady (by decide +kernel) (by decide +kernel) (by decide +kernel)
      (by decide +kernel) (by decide +kernel) (by decide +kernel))

/-! ## A product past the exact range -/

def manyChoicesRow : VeniceChatModelPrice :=
  { publishedRow with inputMicroUsdPerMillion := 0, outputMicroUsdPerMillion := 3 }

def manyChoicesBody : Json :=
  .object
    [("model", .string "zai-org-glm-4.7"), ("max_tokens", .ofNat 1),
      ("n", .ofNat 3002399751666667)]

def manyChoices : ChatBudget :=
  { cappedRequest true with
    body := manyChoicesBody
    bodyIsRecord := rfl
    book := { catalog := fun _ => none, pricingMap := some fun _ => some manyChoicesRow } }

def fundedWallet (amountMicroUsd : Nat) : SettlementStore :=
  (performStatement 0 (.upsertWalletAccount .walletSummary "user") (Turn.at "account" 0)
    (.ofWallets (Wallets.empty.run
      [.creditCard
        { accountId := "account", userId := "user", amountMicroUsd, source := .stripe
          reason := .stripeTopup, referenceId := "session" }]))).1

/-- The price of one token for each of 3,002,399,751,666,667 answers rounds down as a double, so
the hold fits in the wallet; the inverse is exact, so it finds no cap, and the request is
refused. -/
theorem fitting_floor_is_refused :
    ∃ exchanges failure,
      Ends (performStatement 0) (reserveManagedVeniceChatWithinBalance manyChoices) exchanges
          (.error failure) ∧
        SteadyBalance 0 manyChoices (wholeWallet 9907919181) exchanges ∧ Admissible manyChoices ∧
        Priced manyChoices manyChoicesRow manyChoicesBody 1 ∧
        manyChoices.holdAt manyChoicesRow manyChoicesBody (floorCap 1) ≤ 9907919181 := by
  have runs : (reserveAlone manyChoices (fundedWallet 9907919181)).2 =
      some (.error (.insufficientBalance (some (wholeWallet 9907919181)))) := by decide +kernel
  apply Exists.intro (reserveAlone manyChoices (fundedWallet 9907919181)).1
  apply Exists.intro
  constructor
  · exact ends_traced runs
  constructor
  · exact lone_request_steady (by decide +kernel) (by decide +kernel) (by decide +kernel)
      (by decide +kernel) (by decide +kernel) (by decide +kernel)
  constructor
  · exact
      { named := by decide
        referenced := by decide
        wallet := by decide
        rewrites := rfl
        uncapped := rfl }
  constructor
  · exact
      { model := ⟨"zai-org-glm-4.7", by decide, rfl⟩
        body := rfl
        choices := ⟨some 3002399751666667, by decide⟩
        cap := ⟨some 1, by decide +kernel, rfl⟩
        sendable := by decide }
  · decide +kernel

end Hivra.ManagedVenice
