import Mathlib.Algebra.Order.Floor.Ring
import Mathlib.Data.Rat.Floor
import Hivra.ManagedVenice.HalfBalance

/-!
# The largest cap an amount pays for

`maxAffordableVeniceChatOutputCap` against the estimator: what it answers fits in the amount,
and one token more does not.  An amount below zero counts as none.
-/

namespace Hivra.ManagedVenice

open Hivra.Library
open Hivra.Venice

/-- `{ ...request, max_completion_tokens: cap, max_tokens: undefined }`. -/
def withOutputCap (request : Json) (cap : Nat) : Json :=
  (request.set "max_completion_tokens" (.ofNat cap)).erase "max_tokens"

/-- A request the estimator reads: a record that names a priced model, and `n` a positive
integer if it is sent. -/
structure Estimable (book : PriceBook) (request : Json) (price : VeniceChatModelPrice) : Prop where
  isRecord : request.isRecord = true
  resolves : resolveRequestPrice book request = .ok price
  choices : ∃ choices, readVeniceChatPositiveInteger (request.member? "n") "n" = .ok choices

variable {book : PriceBook} {request : Json} {price : VeniceChatModelPrice}

theorem with_output_cap_member (isRecord : request.isRecord = true) (cap : Nat) (key : String) :
    (withOutputCap request cap).member? key =
      if key = "max_tokens" then none
      else if key = "max_completion_tokens" then some (.ofNat cap) else request.member? key := by
  rw [withOutputCap, Json.member_erase, Json.member_set isRecord]

theorem estimate_with_output_cap (estimable : Estimable book request price) {cap : Nat}
    (positive : 0 < cap) (safe : cap ≤ Json.maxSafeInteger) :
    ∃ estimate, estimateChatCompletionCost book (withOutputCap request cap) = .ok estimate ∧
      estimate.inputCostMicroUsd = inputCostMicroUsd price request ∧
      estimate.outputChoices = outputChoices request ∧
      estimate.reservedCostMicroUsd =
        coveringHoldMicroUsd price request (min cap price.maxOutputTokens) none := by
  have ⟨choices, readChoices⟩ := estimable.choices
  have members := with_output_cap_member estimable.isRecord cap
  have others (key : String) (apart : key ∉ capKeys) :
      (withOutputCap request cap).member? key = request.member? key := by
    simp only [capKeys, List.mem_cons, not_or] at apart
    rw [members, if_neg apart.2.1, if_neg apart.1]
  have resolves : resolveRequestPrice book (withOutputCap request cap) = .ok price := by
    rw [← estimable.resolves]
    simp only [resolveRequestPrice, stringMember, memberText, others "model" (by decide)]
  have completion : readVeniceChatPositiveInteger
      ((withOutputCap request cap).member? "max_completion_tokens") "max_completion_tokens" =
        .ok (some cap) := by
    rw [members, if_neg (by decide), if_pos rfl]
    exact read_cap_of_same _ (same_cap_of_nat cap) positive safe
  have tokens : readVeniceChatPositiveInteger ((withOutputCap request cap).member? "max_tokens")
      "max_tokens" = .ok none := by
    rw [members, if_pos rfl]
    rfl
  have worst : worstCaseVeniceChatOutputCap (withOutputCap request cap) price =
      .ok (min cap price.maxOutputTokens) := by
    simp [worstCaseVeniceChatOutputCap, completion, tokens, bind, Except.bind, pure, Except.pure]
  have choicesEq : readVeniceChatPositiveInteger ((withOutputCap request cap).member? "n") "n" =
      .ok choices := by
    rw [others "n" (by decide)]
    exact readChoices
  have choicesOf : outputChoices request = choices.getD 1 := by
    simp only [outputChoices, readChoices]
  have inputEq := estimate_input_of_others others
  simp only [estimateChatCompletionCost, resolves, worst, choicesEq, bind, Except.bind, pure,
    Except.pure, inputEq]
  have held : coveringHoldMicroUsd price request (min cap price.maxOutputTokens) none =
      multiplyMicrodollarsByRatio
        (calculateVeniceTokenCostMicroUsd (estimatedInputTokens price (estimateInput request))
            price.inputMicroUsdPerMillion +
          calculateVeniceTokenCostMicroUsd
            (doubleProduct (min cap price.maxOutputTokens) (choices.getD 1))
            price.outputMicroUsdPerMillion)
        reservationBufferNumerator reservationBufferDenominator := by
    simp [coveringHoldMicroUsd, choicesOf, surchargeHoldMicroUsd, reservationBufferNumerator,
      reservationBufferDenominator]
  exact ⟨_, rfl, rfl, choicesOf.symm, held.symm⟩

theorem nat_le_available_iff (amount : Nat) (available : ℚ) :
    (amount : ℚ) ≤ max available 0 ↔ amount ≤ ⌊available⌋.toNat := by
  rw [le_max_iff, ← Int.cast_natCast, ← Int.le_floor]
  have zero : ((amount : Int) : ℚ) ≤ 0 ↔ (amount : Int) ≤ 0 := by
    exact_mod_cast Iff.rfl
  rw [zero]
  omega

theorem free_output_cost (free : price.outputMicroUsdPerMillion = 0) (cap : Nat) :
    outputCostMicroUsd price request cap = 0 := by
  rw [output_cost_exact]
  · simp [free]
  · simp [free]

theorem max_affordable_between (estimable : Estimable book request price)
    (exact : ExactHold price request price.maxOutputTokens) (available : Int) :
    ∃ largest, maxAffordableVeniceChatOutputCap book request available = .ok largest ∧
      largest ≤ price.maxOutputTokens ∧
      (0 < largest → coveringHoldMicroUsd price request largest none ≤ available.toNat) ∧
      (largest < price.maxOutputTokens →
        available.toNat < coveringHoldMicroUsd price request (largest + 1) none) := by
  have ⟨estimate, ok, input, choices, _⟩ :=
    estimate_with_output_cap estimable Nat.one_pos (by decide : 1 ≤ Json.maxSafeInteger)
  unfold withOutputCap at ok
  unfold maxAffordableVeniceChatOutputCap
  simp only [ok, estimable.resolves, input, choices, bind, Except.bind, pure, Except.pure,
    reservationBufferNumerator, reservationBufferDenominator]
  by_cases free : price.outputMicroUsdPerMillion = 0
  · have fits (cap : Nat) : coveringHoldMicroUsd price request cap none ≤ available.toNat ↔
        inputCostMicroUsd price request ≤ available.toNat * 100 / 110 := by
      have input := exact.buffered
      rw [free_output_cost free] at input
      have same : ExactHold price request cap := by
        constructor
        · simp [free]
        · rw [free_output_cost free]
          exact input
      rw [covering_hold_exact same, free_output_cost free, surchargeHoldMicroUsd]
      omega
    by_cases short : available.toNat * 100 / 110 < inputCostMicroUsd price request
    · apply Exists.intro 0
      simp only [short, if_true, true_and]
      have exceeds := mt (fits (0 + 1)).mp (by omega)
      omega
    · apply Exists.intro price.maxOutputTokens
      have paid := (fits price.maxOutputTokens).mpr (by omega)
      simp [short, free, paid]
  · have rated : 0 < price.outputMicroUsdPerMillion := by omega
    have isCap : affordableCap price request available =
        affordableCap price request ((available.toNat : Int) - surchargeHoldMicroUsd none) := by
      have same : ((available.toNat : Int) - surchargeHoldMicroUsd none).toNat =
          available.toNat := by
        have nothing : surchargeHoldMicroUsd none = 0 := rfl
        rw [nothing]
        omega
      simp only [affordableCap, same]
    have within (cap : Nat) (some : 0 < cap) (le : cap ≤ price.maxOutputTokens) :
        cap ≤ affordableCap price request available ↔ cap ≤ price.maxOutputTokens ∧
          coveringHoldMicroUsd price request cap none ≤ available.toNat := by
      rw [isCap]
      exact le_affordable_cap_iff (exact_hold_mono le exact) rated some none available.toNat
    have bounded : affordableCap price request available ≤ price.maxOutputTokens := by
      unfold affordableCap
      dsimp only
      split_ifs
      · exact Nat.zero_le _
      · exact Nat.min_le_right _ _
    apply Exists.intro (affordableCap price request available)
    constructor
    · simp only [affordableCap, free, if_false]
      split_ifs
      · rfl
      · rfl
    constructor
    · exact bounded
    constructor
    · intro some
      exact ((within _ some bounded).mp (Nat.le_refl _)).2
    · intro below
      have exceeds := mt (within (affordableCap price request available + 1) (by omega) below).mpr
        (by omega)
      omega

/-- While the products are exact, the answer is the largest cap of the model whose hold is within
the amount. -/
theorem affordable_cap_is_largest (estimable : Estimable book request price)
    (safe : price.maxOutputTokens ≤ Json.maxSafeInteger)
    (exact : ExactHold price request price.maxOutputTokens) (available : ℚ) :
    ∃ largest, maxAffordableVeniceChatOutputCap book request ⌊available⌋ = .ok largest ∧
      largest ≤ price.maxOutputTokens ∧
      (1 ≤ largest → ∃ estimate,
        estimateChatCompletionCost book (withOutputCap request largest) = .ok estimate ∧
          (estimate.reservedCostMicroUsd : ℚ) ≤ max available 0) ∧
      (largest < price.maxOutputTokens → ∃ estimate,
        estimateChatCompletionCost book (withOutputCap request (largest + 1)) = .ok estimate ∧
          max available 0 < (estimate.reservedCostMicroUsd : ℚ)) := by
  have ⟨largest, ok, within, fits, exceeds⟩ := max_affordable_between estimable exact ⌊available⌋
  apply Exists.intro largest
  constructor
  · exact ok
  constructor
  · exact within
  constructor
  · intro some
    have ⟨estimate, estimated, _, _, reserved⟩ :=
      estimate_with_output_cap estimable some (Nat.le_trans within safe)
    rw [min_eq_left within] at reserved
    apply Exists.intro estimate
    constructor
    · exact estimated
    · rw [nat_le_available_iff, reserved]
      exact fits some
  · intro below
    have ⟨estimate, estimated, _, _, reserved⟩ :=
      estimate_with_output_cap estimable (Nat.succ_pos largest) (Nat.le_trans below safe)
    rw [min_eq_left below] at reserved
    apply Exists.intro estimate
    constructor
    · exact estimated
    · rw [← not_le, nat_le_available_iff, reserved, not_le]
      exact exceeds below

def freeRow : VeniceChatModelPrice :=
  { model := "free"
    inputMicroUsdPerMillion := 0
    outputMicroUsdPerMillion := 0
    cacheReadMicroUsdPerMillion := none
    cacheWriteMicroUsdPerMillion := none
    contextWindow := 198000
    maxOutputTokens := 16384
    maxOutputTokensSource := .catalog }

def freeBook : PriceBook :=
  { catalog := fun _ => some freeRow, pricingMap := none }

def freeRequest : Json :=
  .object [("model", .string "free")]

/-- With less than nothing available, the cap of a free model holds more than there is. -/
theorem free_hold_above_deficit :
    ∃ largest, maxAffordableVeniceChatOutputCap freeBook freeRequest ⌊(-1 : ℚ)⌋ = .ok largest ∧
      1 ≤ largest ∧ ∃ estimate,
        estimateChatCompletionCost freeBook (withOutputCap freeRequest largest) = .ok estimate ∧
          ¬ (estimate.reservedCostMicroUsd : ℚ) ≤ -1 := by
  have whole : ⌊(-1 : ℚ)⌋ = -1 := by norm_num
  have estimable : Estimable freeBook freeRequest freeRow :=
    ⟨rfl, by decide, none, by decide⟩
  have ⟨estimate, estimated, _⟩ :=
    estimate_with_output_cap estimable (by decide : 0 < 16384) (by decide)
  apply Exists.intro 16384
  constructor
  · rw [whole]
    decide +kernel
  constructor
  · decide
  · apply Exists.intro estimate
    constructor
    · exact estimated
    · have nonneg : (0 : ℚ) ≤ estimate.reservedCostMicroUsd := Nat.cast_nonneg _
      linarith

theorem affordable_cap_is_largest_glm : ∃ largest, maxAffordableVeniceChatOutputCap cachedRateBook
        (.object [("model", .string "zai-org-glm-4.7")]) ⌊(5000 : ℚ)⌋ = .ok largest ∧
      largest ≤ cachedRateRow.maxOutputTokens ∧
      (1 ≤ largest → ∃ estimate,
        estimateChatCompletionCost cachedRateBook
          (withOutputCap (.object [("model", .string "zai-org-glm-4.7")]) largest) = .ok estimate ∧
          (estimate.reservedCostMicroUsd : ℚ) ≤ max 5000 0) ∧
      (largest < cachedRateRow.maxOutputTokens → ∃ estimate,
        estimateChatCompletionCost cachedRateBook
          (withOutputCap (.object [("model", .string "zai-org-glm-4.7")]) (largest + 1)) =
            .ok estimate ∧
          max 5000 0 < (estimate.reservedCostMicroUsd : ℚ)) := by
  apply affordable_cap_is_largest
  · exact ⟨rfl, by decide, none, by decide⟩
  · decide
  · exact ⟨by decide +kernel, by decide +kernel⟩

end Hivra.ManagedVenice
