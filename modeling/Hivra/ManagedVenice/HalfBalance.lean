import Hivra.ManagedVenice.SteadyBalance

/-!
# The half-balance rule and the floor

Which chat requests a wallet admits, and with which output cap, while its balance stays:
the inverse of the cost estimate agrees with the estimate at every rounding, so the share
test of the first attempt and the cap computed after it draw one line.
-/

namespace Hivra.ManagedVenice

open Hivra.Library
open Hivra.Venice

variable {value : Option Json} {price : VeniceChatModelPrice} {estimateBody : Json} {cap : Nat}

def inputCostMicroUsd (price : VeniceChatModelPrice) (estimateBody : Json) : Nat :=
  calculateVeniceTokenCostMicroUsd (estimatedInputTokens price (estimateInput estimateBody))
    price.inputMicroUsdPerMillion

def outputCostMicroUsd (price : VeniceChatModelPrice) (estimateBody : Json) (cap : Nat) : Nat :=
  calculateVeniceTokenCostMicroUsd (doubleProduct cap (outputChoices estimateBody))
    price.outputMicroUsdPerMillion

/-- The products behind a hold of this cap, each small enough for a double to hold it as it is. -/
structure ExactHold (price : VeniceChatModelPrice) (estimateBody : Json) (cap : Nat) : Prop where
  output : cap * outputChoices estimateBody * price.outputMicroUsdPerMillion < 2 ^ 53
  buffered :
    (inputCostMicroUsd price estimateBody + outputCostMicroUsd price estimateBody cap) * 110 <
      2 ^ 53

theorem output_cost_exact
    (exact : cap * outputChoices estimateBody * price.outputMicroUsdPerMillion < 2 ^ 53) :
    outputCostMicroUsd price estimateBody cap =
      (cap * outputChoices estimateBody * price.outputMicroUsdPerMillion + 999999) / 1000000 := by
  unfold outputCostMicroUsd
  by_cases free : price.outputMicroUsdPerMillion = 0
  · rw [free, token_cost_exact]
    · simp
    · simp
  · have tokens : cap * outputChoices estimateBody < 2 ^ 53 :=
      Nat.lt_of_le_of_lt (Nat.le_mul_of_pos_right _ (Nat.pos_of_ne_zero free)) exact
    rw [double_product_exact tokens, token_cost_exact exact]

theorem output_cost_mono {smaller : Nat} (le : smaller ≤ cap)
    (exact : ExactHold price estimateBody cap) :
    smaller * outputChoices estimateBody * price.outputMicroUsdPerMillion < 2 ^ 53 ∧
      outputCostMicroUsd price estimateBody smaller ≤ outputCostMicroUsd price estimateBody cap := by
  have products := Nat.mul_le_mul_right price.outputMicroUsdPerMillion
    (Nat.mul_le_mul_right (outputChoices estimateBody) le)
  have smallerExact := Nat.lt_of_le_of_lt products exact.output
  rw [output_cost_exact smallerExact, output_cost_exact exact.output]
  omega

theorem exact_hold_mono {smaller : Nat} (le : smaller ≤ cap)
    (exact : ExactHold price estimateBody cap) : ExactHold price estimateBody smaller := by
  have ⟨output, cost⟩ := output_cost_mono le exact
  have buffered := exact.buffered
  exact ⟨output, by omega⟩

section

variable (exact : ExactHold price estimateBody cap)
include exact

theorem covering_hold_exact (surcharge : Option SurchargePlan) :
    coveringHoldMicroUsd price estimateBody cap surcharge =
      ((inputCostMicroUsd price estimateBody + outputCostMicroUsd price estimateBody cap) * 110 +
          99) / 100 + surchargeHoldMicroUsd surcharge := by
  change multiplyMicrodollarsByRatio _ 110 100 + _ = _
  unfold multiplyMicrodollarsByRatio
  have buffered := exact.buffered
  rw [← outputCostMicroUsd, ← inputCostMicroUsd, double_product_exact buffered,
    ceil_quotient_exact buffered (by decide)]

theorem covering_hold_mono {smaller : Nat} (le : smaller ≤ cap) (surcharge : Option SurchargePlan) :
    coveringHoldMicroUsd price estimateBody smaller surcharge ≤
      coveringHoldMicroUsd price estimateBody cap surcharge := by
  have cost := (output_cost_mono le exact).2
  rw [covering_hold_exact exact, covering_hold_exact (exact_hold_mono le exact)]
  omega

omit exact in
theorem read_positive {label : String} {whole : Nat}
    (read : readVeniceChatPositiveInteger value label = .ok (some whole)) :
    0 < whole ∧ whole ≤ Json.maxSafeInteger := by
  unfold readVeniceChatPositiveInteger at read
  split at read
  · cases read
  · cases read
  · rename_i value _
    cases safe : value.safeInteger? with
    | none => simp [safe] at read
    | some amount =>
      simp only [safe] at read
      split_ifs at read with positive
      have same : amount.toNat = whole := by simpa using read
      have bounded : amount.natAbs ≤ Json.maxSafeInteger := by
        unfold Json.safeInteger? at safe
        split at safe
        · split_ifs at safe with within
          cases safe
          exact within
        · cases safe
      omega

omit exact in
theorem output_choices_positive (estimateBody : Json) : 0 < outputChoices estimateBody := by
  unfold outputChoices
  cases choices : readVeniceChatPositiveInteger (estimateBody.member? "n") "n" with
  | error failure => exact Nat.one_pos
  | ok count =>
    cases count with
    | none => exact Nat.one_pos
    | some count => exact (read_positive choices).1

theorem output_cost_positive (rated : 0 < price.outputMicroUsdPerMillion) (some : 0 < cap) :
    0 < outputCostMicroUsd price estimateBody cap := by
  have product := Nat.mul_pos (Nat.mul_pos some (output_choices_positive estimateBody)) rated
  rw [output_cost_exact exact.output]
  omega

theorem covering_hold_positive (rated : 0 < price.outputMicroUsdPerMillion) (some : 0 < cap)
    (surcharge : Option SurchargePlan) :
    surchargeHoldMicroUsd surcharge < coveringHoldMicroUsd price estimateBody cap surcharge := by
  have cost := output_cost_positive exact rated some
  rw [covering_hold_exact exact]
  omega

/-- The largest cap the budget of `maxAffordableVeniceChatOutputCap` pays for. -/
def affordableCap (price : VeniceChatModelPrice) (estimateBody : Json) (available : Int) : Nat :=
  let estimateBudget := available.toNat * 100 / 110
  if estimateBudget < inputCostMicroUsd price estimateBody then 0
  else
    min ((estimateBudget - inputCostMicroUsd price estimateBody) * 1000000 /
        price.outputMicroUsdPerMillion / outputChoices estimateBody)
      price.maxOutputTokens

theorem output_cost_le_iff (rated : 0 < price.outputMicroUsdPerMillion) (budget : Nat) :
    outputCostMicroUsd price estimateBody cap ≤ budget ↔
      cap ≤ budget * 1000000 / price.outputMicroUsdPerMillion / outputChoices estimateBody := by
  rw [Nat.le_div_iff_mul_le (output_choices_positive estimateBody), Nat.le_div_iff_mul_le rated,
    output_cost_exact exact.output]
  omega

theorem le_affordable_cap_iff
    (rated : 0 < price.outputMicroUsdPerMillion) (some : 0 < cap) (surcharge : Option SurchargePlan)
    (budget : Nat) :
    cap ≤ affordableCap price estimateBody ((budget : Int) - surchargeHoldMicroUsd surcharge) ↔
      cap ≤ price.maxOutputTokens ∧
        coveringHoldMicroUsd price estimateBody cap surcharge ≤ budget := by
  set available := (budget : Int) - surchargeHoldMicroUsd surcharge with availableEq
  have positive := output_cost_positive exact rated some
  have hold := covering_hold_exact exact surcharge
  have fits : coveringHoldMicroUsd price estimateBody cap surcharge ≤ budget ↔
      inputCostMicroUsd price estimateBody + outputCostMicroUsd price estimateBody cap ≤
        available.toNat * 100 / 110 := by
    omega
  rw [fits]
  unfold affordableCap
  dsimp only
  split_ifs with short
  · omega
  · rw [Nat.le_min, ← output_cost_le_iff exact rated]
    omega

end

/-- What a request is priced with when nothing in it is malformed: its price row, the body
the estimator reads, and the cap it asks for within the maximum. -/
structure Priced (request : ChatBudget) (price : VeniceChatModelPrice) (estimateBody : Json)
    (fullCap : Nat) : Prop where
  model : ∃ model, stringMember "model" request.body = some model ∧
    resolvePrice request.book model = .ok price
  body : managedVeniceChatEstimateBody request.protocol request.body [] = .ok estimateBody
  choices : ∃ choices,
    readVeniceChatPositiveInteger (estimateBody.member? "n") "n" = .ok choices
  cap : ∃ requested, requestedOutputCap request.protocol request.body = .ok requested ∧
    fullCap = min (requested.getD price.maxOutputTokens) price.maxOutputTokens
  sendable : 0 < fullCap ∧ fullCap ≤ Json.maxSafeInteger

variable {fullCap : Nat}

section

variable {request : ChatBudget} (priced : Priced request price estimateBody fullCap)
include priced

theorem priced_resolves :
    resolvePrice request.book (memberText "model" request.body) = .ok price := by
  have ⟨model, isText, resolved⟩ := priced.model
  rw [member_text_of_string isText]
  exact resolved

theorem estimate_with_cap {capped : Json}
    (others : ∀ key, key ∉ capKeys → capped.member? key = estimateBody.member? key)
    (worst : worstCaseVeniceChatOutputCap capped price = .ok cap) :
    ∃ estimate, estimateChatCompletionCost request.book capped = .ok estimate ∧
      resolveRequestPrice request.book capped = .ok price ∧
      estimate.inputCostMicroUsd = inputCostMicroUsd price estimateBody ∧
      estimate.outputChoices = outputChoices estimateBody ∧
      estimate.reservedCostMicroUsd + surchargeHoldMicroUsd request.surcharge =
        coveringHoldMicroUsd price estimateBody cap request.surcharge := by
  obtain ⟨model, isText, resolved⟩ := priced.model
  obtain ⟨choices, readChoices⟩ := priced.choices
  obtain ⟨unpatched, plain, unpatchedModel⟩ := estimate_body_unpatched priced.body
  have sameBody := Except.ok.inj (plain.symm.trans priced.body)
  subst sameBody
  have modelMember : capped.member? "model" = request.body.member? "model" :=
    (others "model" (by decide)).trans unpatchedModel
  have priceEq : resolveRequestPrice request.book capped = .ok price := by
    have sameText : stringMember "model" capped = some model := by
      rw [← isText, stringMember, modelMember, stringMember]
    simp only [resolveRequestPrice, sameText, resolved]
  have choicesEq : readVeniceChatPositiveInteger (capped.member? "n") "n" = .ok choices := by
    rw [others "n" (by decide)]
    exact readChoices
  have inputEq := estimate_input_of_others others
  have choicesOf : outputChoices unpatched = choices.getD 1 := by
    simp only [outputChoices, readChoices]
  have estimated : ∃ estimate, estimateChatCompletionCost request.book capped = .ok estimate := by
    simp [estimateChatCompletionCost, priceEq, worst, choicesEq, bind, Except.bind, pure,
      Except.pure]
  obtain ⟨estimate, ok⟩ := estimated
  apply Exists.intro estimate
  constructor
  · exact ok
  constructor
  · exact priceEq
  simp only [estimateChatCompletionCost, priceEq, worst, choicesEq, bind, Except.bind, pure,
    Except.pure, Except.ok.injEq] at ok
  subst ok
  constructor
  · rw [inputEq]
    rfl
  constructor
  · exact choicesOf.symm
  · rw [coveringHoldMicroUsd, choicesOf, inputEq]
    rfl

end

theorem read_cap_of_same (label : String) (same : isSameCap value cap = true) (positive : 0 < cap)
    (safe : cap ≤ Json.maxSafeInteger) :
    readVeniceChatPositiveInteger value label = .ok (some cap) := by
  cases value with
  | none => cases same
  | some value =>
    cases value with
    | number amount text =>
      have amountEq : amount = (cap : Rat) := by
        simpa [isSameCap, Json.number?] using same
      subst amountEq
      have whole : (Json.number (cap : Rat) text).safeInteger? = some (cap : Int) := by
        simp [Json.safeInteger?, Json.integer?, safe]
      unfold readVeniceChatPositiveInteger
      simp [whole, positive]
    | _ => simp [isSameCap, Json.number?] at same

theorem read_cap_field (label : String) (field : isSameCap value cap = true ∨ isSent value = false)
    (positive : 0 < cap) (safe : cap ≤ Json.maxSafeInteger) :
    ∃ read, readVeniceChatPositiveInteger value label = .ok read := by
  cases field with
  | inl same => exact ⟨_, read_cap_of_same label same positive safe⟩
  | inr unsent => exact ⟨_, read_unsent label unsent⟩

theorem worst_case_exists {request : Json}
    (completion : ∃ read, readVeniceChatPositiveInteger
      (request.member? "max_completion_tokens") "max_completion_tokens" = .ok read)
    (tokens : ∃ read, readVeniceChatPositiveInteger (request.member? "max_tokens")
      "max_tokens" = .ok read) :
    ∃ out, worstCaseVeniceChatOutputCap request price = .ok out := by
  have ⟨first, readFirst⟩ := completion
  have ⟨second, readSecond⟩ := tokens
  simp [worstCaseVeniceChatOutputCap, readFirst, readSecond, bind, Except.bind, pure, Except.pure]

section

variable {request : ChatBudget} (priced : Priced request price estimateBody fullCap)
include priced

theorem estimate_patched (positive : 0 < cap) (within : cap ≤ fullCap) :
    ∃ patched estimate, managedVeniceChatEstimateBody request.protocol request.body
        (managedVeniceOutputCapPatch request.protocol request.body cap price) = .ok patched ∧
      patched.isRecord = true ∧
      (∀ key, key ∉ capKeys → patched.member? key = estimateBody.member? key) ∧
      estimateChatCompletionCost request.book patched = .ok estimate ∧
      estimate.reservedCostMicroUsd + surchargeHoldMicroUsd request.surcharge =
        coveringHoldMicroUsd price estimateBody cap request.surcharge := by
  have ⟨requested, _, fullEq⟩ := priced.cap
  have withinMax : cap ≤ price.maxOutputTokens := by omega
  have safe : cap ≤ Json.maxSafeInteger := Nat.le_trans within priced.sendable.2
  have ⟨patched, estimated⟩ : ∃ patched, managedVeniceChatEstimateBody request.protocol
      request.body (managedVeniceOutputCapPatch request.protocol request.body cap price) =
        .ok patched := by
    have plain := priced.body
    unfold managedVeniceChatEstimateBody at plain ⊢
    cases isProtocol : request.protocol with
    | chat => exact ⟨_, rfl⟩
    | responses =>
      rw [isProtocol] at plain
      cases accepted : responsesEstimateRequest request.body with
      | error message => simp [accepted, bind, Except.bind] at plain
      | ok estimate =>
        simp only [bind, Except.bind, pure, Except.pure]
        split
        · exact ⟨_, rfl⟩
        · exact ⟨_, rfl⟩
  have estimateOf : EstimateOf request.protocol (applyPatch request.body
      (managedVeniceOutputCapPatch request.protocol request.body cap price)) estimateBody
      patched := by
    have ⟨fields, patch, listed, _, _⟩ :=
      patch_fields request.protocol request.body cap price
    rw [patch] at estimated ⊢
    exact estimate_of_patch request.bodyIsRecord fields cap listed priced.body estimated
  have ⟨fields, _⟩ := forwarded_fields request.bodyIsRecord request.protocol cap price
  have ⟨out, worst⟩ : ∃ out, worstCaseVeniceChatOutputCap patched price = .ok out := by
    apply worst_case_exists
    · rw [estimateOf.completion]
      apply read_cap_field _ _ positive safe
      apply fields
      cases request.protocol with
      | chat => decide
      | responses => decide
    · rw [estimateOf.tokens]
      split_ifs with isChat
      · apply read_cap_field _ _ positive safe
        apply fields .maxTokens
        rw [isChat]
        decide
      · exact ⟨none, rfl⟩
  have ⟨outEq, _⟩ := patched_worst_case request.bodyIsRecord withinMax priced.body estimated worst
  rw [outEq] at worst
  have ⟨estimate, ok, _, _, _, amount⟩ := estimate_with_cap priced estimateOf.others worst
  exact ⟨patched, estimate, estimated, estimateOf.isRecord, estimateOf.others, ok, amount⟩

theorem estimate_replaced {patched : Json} (isRecord : patched.isRecord = true)
    (others : ∀ key, key ∉ capKeys → patched.member? key = estimateBody.member? key)
    (positive : 0 < cap) (within : cap ≤ fullCap) :
    ∃ estimate, estimateChatCompletionCost request.book
        ((patched.set "max_completion_tokens" (.ofNat cap)).erase "max_tokens") = .ok estimate ∧
      resolveRequestPrice request.book patched = .ok price ∧
      estimate.inputCostMicroUsd = inputCostMicroUsd price estimateBody ∧
      estimate.outputChoices = outputChoices estimateBody ∧
      estimate.reservedCostMicroUsd + surchargeHoldMicroUsd request.surcharge =
        coveringHoldMicroUsd price estimateBody cap request.surcharge := by
  have ⟨requested, _, fullEq⟩ := priced.cap
  have withinMax : cap ≤ price.maxOutputTokens := by omega
  have safe : cap ≤ Json.maxSafeInteger := Nat.le_trans within priced.sendable.2
  set capped := (patched.set "max_completion_tokens" (.ofNat cap)).erase "max_tokens"
    with cappedEq
  have members : ∀ key, capped.member? key =
      if key = "max_tokens" then none
      else if key = "max_completion_tokens" then some (.ofNat cap) else patched.member? key := by
    intro key
    rw [cappedEq, Json.member_erase, Json.member_set isRecord]
  have cappedOthers : ∀ key, key ∉ capKeys → capped.member? key = estimateBody.member? key := by
    intro key apart
    have ⟨notCompletion, notTokens⟩ : key ≠ "max_completion_tokens" ∧ key ≠ "max_tokens" := by
      constructor
      · intro same
        subst same
        exact apart (by decide)
      · intro same
        subst same
        exact apart (by decide)
    rw [members, if_neg notTokens, if_neg notCompletion]
    exact others key apart
  have completion : readVeniceChatPositiveInteger (capped.member? "max_completion_tokens")
      "max_completion_tokens" = .ok (some cap) := by
    rw [members, if_neg (by decide), if_pos rfl]
    exact read_cap_of_same _ (same_cap_of_nat cap) positive safe
  have tokens : readVeniceChatPositiveInteger (capped.member? "max_tokens") "max_tokens" =
      .ok none := by
    rw [members, if_pos rfl]
    rfl
  have worst : worstCaseVeniceChatOutputCap capped price = .ok cap := by
    simp [worstCaseVeniceChatOutputCap, completion, tokens, bind, Except.bind, pure, Except.pure,
      withinMax]
  have ⟨estimate, ok, resolves, input, choices, amount⟩ :=
    estimate_with_cap priced cappedOthers worst
  have samePrice : resolveRequestPrice request.book patched = .ok price := by
    have sameModel : stringMember "model" patched = stringMember "model" capped := by
      rw [stringMember, stringMember, members, if_neg (by decide), if_neg (by decide)]
    rw [← resolves]
    simp only [resolveRequestPrice, sameModel, memberText, members]
    rfl
  exact ⟨estimate, ok, samePrice, input, choices, amount⟩

theorem max_affordable_priced {patched : Json} (isRecord : patched.isRecord = true)
    (others : ∀ key, key ∉ capKeys → patched.member? key = estimateBody.member? key)
    (rated : 0 < price.outputMicroUsdPerMillion) (available : Int) :
    maxAffordableVeniceChatOutputCap request.book patched available =
      .ok (affordableCap price estimateBody available) := by
  have one : 1 ≤ fullCap := priced.sendable.1
  have ⟨estimate, ok, resolves, input, choices, _⟩ :=
    estimate_replaced priced isRecord others Nat.one_pos one
  have notFree : ¬ price.outputMicroUsdPerMillion = 0 := by omega
  unfold maxAffordableVeniceChatOutputCap affordableCap
  simp only [ok, resolves, input, choices, notFree, bind, Except.bind, pure, Except.pure,
    if_false, reservationBufferNumerator, reservationBufferDenominator]
  split_ifs
  · rfl
  · rfl

end

end Hivra.ManagedVenice
