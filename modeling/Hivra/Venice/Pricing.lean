import Hivra.Library.Doubles
import Hivra.Library.Json
import Mathlib.Tactic.NormNum

/-!
# Venice token pricing

What a Venice usage block costs: the two usage readers (chat completions and
Responses), the price lookup and the actual cost of a request.

Rates are whole micro-USD for each million tokens.  Products and quotients are rounded to
doubles; sums of costs are exact, as the runtime's are below nine billion dollars.
The static catalog is a parameter, since nothing depends on its rows.
-/

namespace Hivra.Venice

open Hivra.Library

inductive MaxOutputTokensSource
  | veniceLive
  | catalog
  deriving DecidableEq

structure VeniceChatModelPrice where
  model : String
  inputMicroUsdPerMillion : Nat
  outputMicroUsdPerMillion : Nat
  cacheReadMicroUsdPerMillion : Option Nat
  cacheWriteMicroUsdPerMillion : Option Nat
  contextWindow : Nat
  maxOutputTokens : Nat
  maxOutputTokensSource : MaxOutputTokensSource
  deriving DecidableEq

inductive VeniceError
  | unsupportedModel (model : String)
  | missingUsage (message : String)
  | invalidChatRequest (message : String)
  deriving DecidableEq

structure PriceBook where
  catalog : String → Option VeniceChatModelPrice
  pricingMap : Option (String → Option VeniceChatModelPrice)

def getVeniceChatModelPrice (book : PriceBook) (model : String) :
    Except VeniceError VeniceChatModelPrice :=
  match book.catalog model with
  | some price => .ok price
  | none => .error (.unsupportedModel model)

def resolvePrice (book : PriceBook) (model : String) : Except VeniceError VeniceChatModelPrice :=
  match book.pricingMap.bind (· model) with
  | some price => .ok price
  | none => getVeniceChatModelPrice book model

def calculateVeniceTokenCostMicroUsd (tokens microUsdPerMillionTokens : Nat) : Nat :=
  ceilQuotient (doubleProduct tokens microUsdPerMillionTokens) 1000000

inductive Endpoint
  | chatCompletions
  | responses

structure UsageTokens where
  promptTokens : Option Json
  completionTokens : Option Json
  cacheReadTokens : Json
  cacheWriteTokens : Json
  /-- The whole input of a Responses request, for the usage ledger. -/
  totalInputTokens : Option Nat

def missingUsageMessage : String := "Venice usage is missing required token counts"

def readNumericField (key : String) (record : Json) : Option Json :=
  match record.member? key with
  | some value => if value.number?.isSome then some value else none
  | none => none

def readDetails (key : String) (record : Json) : Option Json :=
  match record.member? key with
  | some details => if details.isObject then some details else none
  | none => none

def readCacheTokens (record : Json) : Json × Json :=
  let promptDetails := readDetails "prompt_tokens_details" record
  let completionDetails := readDetails "completion_tokens_details" record
  let cacheReadTokens :=
    ((readNumericField "cache_read_tokens" record).orElse fun _ =>
      promptDetails.bind (readNumericField "cached_tokens")).getD (.ofNat 0)
  let cacheWriteTokens :=
    (((readNumericField "cache_write_tokens" record).orElse fun _ =>
      promptDetails.bind (readNumericField "cache_creation_input_tokens")).orElse fun _ =>
        completionDetails.bind (readNumericField "cache_creation_input_tokens")).getD (.ofNat 0)
  (cacheReadTokens, cacheWriteTokens)

def readUsageTokens (usage : Json) : Except VeniceError UsageTokens :=
  if usage.isObject then
    let cache := readCacheTokens usage
    .ok
      { promptTokens := usage.member? "prompt_tokens"
        completionTokens := usage.member? "completion_tokens"
        cacheReadTokens := cache.1
        cacheWriteTokens := cache.2
        totalInputTokens := none }
  else .error (.missingUsage missingUsageMessage)

/-- `count`: a non-negative safe integer. -/
def count (value : Option Json) : Except VeniceError Nat :=
  match value.bind Json.safeInteger? with
  | some whole =>
    if whole < 0 then .error (.missingUsage missingUsageMessage) else .ok whole.toNat
  | none => .error (.missingUsage missingUsageMessage)

def requireNoCacheWrites (value : Option Json) : Except VeniceError Unit :=
  match value with
  | none => .ok ()
  | some value => do
    let writes ← count (some value)
    if writes = 0 then .ok () else .error (.missingUsage missingUsageMessage)

def responsesUsageTokens (usage : Json) : Except VeniceError UsageTokens := do
  let missing : VeniceError := .missingUsage missingUsageMessage
  if !usage.isRecord then throw missing
  let input ← count (usage.member? "input_tokens")
  let output ← count (usage.member? "output_tokens")
  let details := usage.member? "input_tokens_details"
  if details.isSome && !(details.any Json.isRecord) then throw missing
  let cached ←
    match details.bind (Json.member? "cached_tokens") with
    | some value => count (some value)
    | none => pure 0
  requireNoCacheWrites (usage.member? "cache_write_tokens")
  requireNoCacheWrites (details.bind (Json.member? "cache_creation_input_tokens"))
  if input < cached then throw missing
  if Json.maxSafeInteger < input + output then throw missing
  match usage.member? "total_tokens" with
  | some value =>
    let total ← count (some value)
    if total ≠ input + output then throw missing
  | none => pure ()
  pure
    { promptTokens := some (.ofNat (input - cached))
      completionTokens := some (.ofNat output)
      cacheReadTokens := .ofNat cached
      cacheWriteTokens := .ofNat 0
      totalInputTokens := some input }

def settlementUsageTokens (endpoint : Endpoint) (usage : Json) : Except VeniceError UsageTokens :=
  match endpoint with
  | .responses => responsesUsageTokens usage
  | .chatCompletions => readUsageTokens usage

structure ActualChatCost where
  model : String
  promptTokens : Nat
  completionTokens : Nat
  cacheReadTokens : Nat
  cacheWriteTokens : Nat
  promptCostMicroUsd : Nat
  completionCostMicroUsd : Nat
  cacheReadCostMicroUsd : Nat
  cacheWriteCostMicroUsd : Nat
  actualCostMicroUsd : Nat

def requireNonNegativeInteger (label : String) (value : Option Json) : Except VeniceError Nat :=
  match value.bind Json.integer? with
  | some whole =>
    if whole < 0 then .error (.missingUsage (label ++ " must be a non-negative integer"))
    else .ok whole.toNat
  | none => .error (.missingUsage (label ++ " must be a non-negative integer"))

def calculateActualChatCost (book : PriceBook) (model : String) (tokens : UsageTokens) :
    Except VeniceError ActualChatCost := do
  let price ← resolvePrice book model
  let promptTokens ← requireNonNegativeInteger "promptTokens" tokens.promptTokens
  let completionTokens ← requireNonNegativeInteger "completionTokens" tokens.completionTokens
  let cacheReadTokens ← requireNonNegativeInteger "cacheReadTokens" (some tokens.cacheReadTokens)
  let cacheWriteTokens ←
    requireNonNegativeInteger "cacheWriteTokens" (some tokens.cacheWriteTokens)
  let promptCostMicroUsd :=
    calculateVeniceTokenCostMicroUsd promptTokens price.inputMicroUsdPerMillion
  let completionCostMicroUsd :=
    calculateVeniceTokenCostMicroUsd completionTokens price.outputMicroUsdPerMillion
  let cacheReadCostMicroUsd :=
    calculateVeniceTokenCostMicroUsd cacheReadTokens
      (price.cacheReadMicroUsdPerMillion.getD price.inputMicroUsdPerMillion)
  let cacheWriteCostMicroUsd :=
    calculateVeniceTokenCostMicroUsd cacheWriteTokens
      (price.cacheWriteMicroUsdPerMillion.getD price.inputMicroUsdPerMillion)
  pure
    { model := price.model
      promptTokens
      completionTokens
      cacheReadTokens
      cacheWriteTokens
      promptCostMicroUsd
      completionCostMicroUsd
      cacheReadCostMicroUsd
      cacheWriteCostMicroUsd
      actualCostMicroUsd :=
        promptCostMicroUsd + completionCostMicroUsd + cacheReadCostMicroUsd +
          cacheWriteCostMicroUsd }

def settlementTokenCost (book : PriceBook) (model : String) (endpoint : Endpoint) (usage : Json) :
    Except VeniceError Nat := do
  let tokens ← settlementUsageTokens endpoint usage
  let actual ← calculateActualChatCost book model tokens
  return actual.actualCostMicroUsd

/-- `prompt_tokens`, `completion_tokens` and the cached part of the prompt. -/
def chatUsage (prompt completion cached : Nat) : Json :=
  .object
    [("prompt_tokens", .ofNat prompt), ("completion_tokens", .ofNat completion),
      ("prompt_tokens_details", .object [("cached_tokens", .ofNat cached)])]

def responsesUsage (input output cached : Nat) : Json :=
  .object
    [("input_tokens", .ofNat input), ("output_tokens", .ofNat output),
      ("input_tokens_details", .object [("cached_tokens", .ofNat cached)])]

def tokenCost (price : VeniceChatModelPrice) (prompt completion cached : Nat) : Nat :=
  calculateVeniceTokenCostMicroUsd prompt price.inputMicroUsdPerMillion +
    calculateVeniceTokenCostMicroUsd completion price.outputMicroUsdPerMillion +
    calculateVeniceTokenCostMicroUsd cached
      (price.cacheReadMicroUsdPerMillion.getD price.inputMicroUsdPerMillion)

theorem require_non_negative_integer_of_nat (label : String) (value : Nat) :
    requireNonNegativeInteger label (some (.ofNat value)) = .ok value := by
  simp [requireNonNegativeInteger]

theorem count_of_nat (value : Nat) : count (some (.ofNat value)) =
      if value ≤ Json.maxSafeInteger then .ok value
      else .error (.missingUsage missingUsageMessage) := by
  by_cases safe : value ≤ Json.maxSafeInteger
  · simp [count, Json.safe_integer_of_nat, safe]
  · simp [count, Json.safe_integer_of_nat, safe]

theorem token_cost_exact {tokens rate : Nat} (exact : tokens * rate < 2 ^ 53) :
    calculateVeniceTokenCostMicroUsd tokens rate = (tokens * rate + 999999) / 1000000 := by
  unfold calculateVeniceTokenCostMicroUsd
  rw [double_product_exact exact, ceil_quotient_exact exact (by decide)]

theorem token_cost_zero (microUsdPerMillionTokens : Nat) :
    calculateVeniceTokenCostMicroUsd 0 microUsdPerMillionTokens = 0 := by
  rw [token_cost_exact]
  · rw [Nat.zero_mul]
  · rw [Nat.zero_mul]
    decide

variable {book : PriceBook} {model : String}

section

variable {price : VeniceChatModelPrice} (resolved : resolvePrice book model = .ok price)
include resolved

theorem calculate_actual_chat_cost_of_counts (prompt completion cached : Nat) (total : Option Nat) :
    (calculateActualChatCost book model
      { promptTokens := some (.ofNat prompt)
        completionTokens := some (.ofNat completion)
        cacheReadTokens := .ofNat cached
        cacheWriteTokens := .ofNat 0
        totalInputTokens := total }).map (·.actualCostMicroUsd) =
      .ok (tokenCost price prompt completion cached) := by
  unfold calculateActualChatCost
  simp only [resolved, require_non_negative_integer_of_nat, bind, Except.bind, pure, Except.pure,
    Except.map]
  rw [token_cost_zero, Nat.add_zero, tokenCost]

theorem chat_settlement_cost (prompt completion cached : Nat) :
    settlementTokenCost book model .chatCompletions (chatUsage prompt completion cached) =
      .ok (tokenCost price prompt completion cached) := by
  have read : readUsageTokens (chatUsage prompt completion cached) =
      .ok
        { promptTokens := some (.ofNat prompt)
          completionTokens := some (.ofNat completion)
          cacheReadTokens := .ofNat cached
          cacheWriteTokens := .ofNat 0
          totalInputTokens := none } := by
    simp [readUsageTokens, chatUsage, Json.isObject, Json.member?, readCacheTokens,
      readNumericField, readDetails]
  have cost := calculate_actual_chat_cost_of_counts resolved prompt completion cached none
  unfold settlementTokenCost settlementUsageTokens
  simp only [read, bind, Except.bind]
  exact cost

/-- A Responses settlement charges the uncached input and the cached input, and
refuses totals past the exact range. -/
theorem responses_settlement_cost (input output cached : Nat) (subset : cached ≤ input) :
    settlementTokenCost book model .responses (responsesUsage input output cached) =
      if input + output ≤ Json.maxSafeInteger then
        .ok (tokenCost price (input - cached) output cached)
      else .error (.missingUsage missingUsageMessage) := by
  have record : (responsesUsage input output cached).isRecord = true := rfl
  have inputMember : (responsesUsage input output cached).member? "input_tokens" =
      some (.ofNat input) := by simp [responsesUsage, Json.member?]
  have outputMember : (responsesUsage input output cached).member? "output_tokens" =
      some (.ofNat output) := by simp [responsesUsage, Json.member?]
  have detailsMember : (responsesUsage input output cached).member? "input_tokens_details" =
      some (.object [("cached_tokens", .ofNat cached)]) := by simp [responsesUsage, Json.member?]
  have totalMember : (responsesUsage input output cached).member? "total_tokens" = none := by
    simp [responsesUsage, Json.member?]
  have writesMember : (responsesUsage input output cached).member? "cache_write_tokens" = none := by
    simp [responsesUsage, Json.member?]
  have cachedMember : (Json.object [("cached_tokens", .ofNat cached)]).member? "cached_tokens" =
      some (.ofNat cached) := by simp [Json.member?]
  have detailsRecord : (Json.object [("cached_tokens", .ofNat cached)]).isRecord = true := rfl
  have creationMember :
      (Json.object [("cached_tokens", .ofNat cached)]).member? "cache_creation_input_tokens" =
        none := by
    simp [Json.member?]
  have reader : responsesUsageTokens (responsesUsage input output cached) =
      if input + output ≤ Json.maxSafeInteger then
        .ok
          { promptTokens := some (.ofNat (input - cached))
            completionTokens := some (.ofNat output)
            cacheReadTokens := .ofNat cached
            cacheWriteTokens := .ofNat 0
            totalInputTokens := some input }
      else .error (.missingUsage missingUsageMessage) := by
    unfold responsesUsageTokens
    simp only [record, inputMember, outputMember, detailsMember, totalMember, writesMember,
      Option.bind_some, cachedMember, creationMember, count_of_nat, requireNoCacheWrites,
      Bool.not_true, Bool.false_eq_true, if_false, Option.isSome_some, Option.any_some,
      detailsRecord, Bool.and_false, bind, Except.bind, pure, Except.pure, throw, throwThe,
      MonadExceptOf.throw]
    by_cases total : input + output ≤ Json.maxSafeInteger
    · have inputSafe : input ≤ Json.maxSafeInteger := by omega
      have outputSafe : output ≤ Json.maxSafeInteger := by omega
      have cachedSafe : cached ≤ Json.maxSafeInteger := by omega
      simp only [inputSafe, outputSafe, cachedSafe, if_true, not_lt.mpr subset,
        not_lt.mpr total, if_false, total]
    · by_cases inputSafe : input ≤ Json.maxSafeInteger
      · have cachedSafe : cached ≤ Json.maxSafeInteger := by omega
        by_cases outputSafe : output ≤ Json.maxSafeInteger
        · simp only [inputSafe, outputSafe, cachedSafe, if_true, not_lt.mpr subset,
            not_le.mp total, if_false, total]
        · simp only [inputSafe, outputSafe, if_true, if_false, total]
      · simp only [inputSafe, if_false, total]
  unfold settlementTokenCost settlementUsageTokens
  by_cases total : input + output ≤ Json.maxSafeInteger
  · have cost := calculate_actual_chat_cost_of_counts resolved (input - cached) output cached
      (some input)
    simp only [reader, total, if_true, bind, Except.bind]
    exact cost
  · simp only [reader, total, if_false, bind, Except.bind]

end

theorem token_cost_eq_iff {fewer more rate : Nat} (ordered : fewer ≤ more)
    (exact : more * rate < 2 ^ 53) :
    calculateVeniceTokenCostMicroUsd more rate = calculateVeniceTokenCostMicroUsd fewer rate ↔
      ∀ boundary, ¬ (fewer * rate ≤ boundary * 1000000 ∧ boundary * 1000000 < more * rate) := by
  have products : fewer * rate ≤ more * rate := Nat.mul_le_mul_right rate ordered
  rw [token_cost_exact exact, token_cost_exact (Nat.lt_of_le_of_lt products exact)]
  constructor
  · rintro same boundary ⟨below, above⟩
    omega
  · intro nothing
    have between := nothing ((fewer * rate + 999999) / 1000000)
    omega

/-- The counts of a usage block at the rates of a price row, each product small enough for a
double to hold it as it is. -/
structure ExactProducts (price : VeniceChatModelPrice) (prompt completion cached : Nat) : Prop where
  prompt : prompt * price.inputMicroUsdPerMillion < 2 ^ 53
  completion : completion * price.outputMicroUsdPerMillion < 2 ^ 53
  cached : cached * price.cacheReadMicroUsdPerMillion.getD price.inputMicroUsdPerMillion < 2 ^ 53

def cachedRateRow : VeniceChatModelPrice :=
  { model := "zai-org-glm-4.7"
    inputMicroUsdPerMillion := 550000
    outputMicroUsdPerMillion := 2650000
    cacheReadMicroUsdPerMillion := some 110000
    cacheWriteMicroUsdPerMillion := none
    contextWindow := 198000
    maxOutputTokens := 16384
    maxOutputTokensSource := .catalog }

def cachedRateBook : PriceBook :=
  { catalog := fun _ => some cachedRateRow, pricingMap := none }

end Hivra.Venice
