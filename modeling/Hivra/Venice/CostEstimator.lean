import Hivra.Venice.Pricing

/-!
# The chat estimator

What a chat request is held for: the input counted from its text, images and
unsized parts, the output from the cap Venice can run it to, and a buffer of a
tenth on top.  A string is counted in UTF-16 units, as the runtime does.
-/

namespace Hivra.Venice

open Hivra.Library
open Hivra.Library.Json

def imageInputTokenFloor : Nat := 16384

def reservationBufferNumerator : Nat := 110
def reservationBufferDenominator : Nat := 100

def multiplyMicrodollarsByRatio (amountMicroUsd numerator denominator : Nat) : Nat :=
  ceilQuotient (doubleProduct amountMicroUsd numerator) denominator

/-- An output cap or `n`: absent or null is not sent, anything else is a positive safe
integer. -/
def readVeniceChatPositiveInteger (value : Option Json) (label : String) :
    Except VeniceError (Option Nat) :=
  match value with
  | none => .ok none
  | some .null => .ok none
  | some value =>
    match value.safeInteger? with
    | some whole =>
      if 0 < whole then .ok (some whole.toNat)
      else .error (.invalidChatRequest (label ++ " must be a positive integer"))
    | none => .error (.invalidChatRequest (label ++ " must be a positive integer"))

structure InputTally where
  characters : Nat
  asciiUnits : Nat
  otherUnits : Nat
  imageTokens : Nat
  unsizedParts : Nat

def emptyTally : InputTally :=
  { characters := 0, asciiUnits := 0, otherUnits := 0, imageTokens := 0, unsizedParts := 0 }

def tallyString (text : List Char) (tally : InputTally) : InputTally :=
  let ascii := (text.filter fun char => char.toNat < 0x80).length
  { tally with
    characters := tally.characters + utf16Length text
    asciiUnits := tally.asciiUnits + ascii
    otherUnits := tally.otherUnits + (utf16Length text - ascii) }

def textTokens (tally : InputTally) : Nat :=
  (tally.asciiUnits + 2) / 3 + tally.otherUnits

def imagePartTypes : List String := ["image_url", "input_image", "image"]

def sizedContentPartTypes : List String := ["text", "refusal", "input_audio"] ++ imagePartTypes

def unsizedPartTypes : List String := ["video_url", "file"]

/-- White space as a regular expression's `\s` reads it. -/
def isSpace (char : Char) : Bool :=
  let code := char.toNat
  (9 ≤ code && code ≤ 13) || code == 32 || code == 0xA0 || code == 0x1680 ||
    (0x2000 ≤ code && code ≤ 0x200A) || code == 0x2028 || code == 0x2029 || code == 0x202F ||
    code == 0x205F || code == 0x3000 || code == 0xFEFF

def isSchemeStart (char : Char) : Bool :=
  ('a' ≤ char && char ≤ 'z') || ('A' ≤ char && char ≤ 'Z')

def isSchemePart (char : Char) : Bool :=
  isSchemeStart char || ('0' ≤ char && char ≤ '9') || char == '+' || char == '.' || char == '-'

/-- `REMOTE_REFERENCE`: a scheme and `://` after leading white space. -/
def isRemoteReference (text : String) : Bool :=
  match text.toList.dropWhile isSpace with
  | [] => false
  | first :: rest =>
    isSchemeStart first && [':', '/', '/'].isPrefixOf (rest.dropWhile isSchemePart)

def stringMember (key : String) (record : Json) : Option String :=
  match record.member? key with
  | some (.string text) => some text
  | _ => none

/-- `String(record[key])`. -/
def memberText (key : String) (record : Json) : String :=
  match record.member? key with
  | some value => String.ofList value.text
  | none => "undefined"

theorem member_text_of_string {key text : String} {record : Json}
    (isText : stringMember key record = some text) : memberText key record = text := by
  unfold stringMember at isText
  unfold memberText
  cases found : record.member? key with
  | none => simp [found] at isText
  | some value =>
    cases value with
    | string value =>
      have same : value = text := by simpa [found] using isText
      subst same
      exact String.ofList_toList
    | _ => simp [found] at isText

def isInlineAudioPart (record : Json) : Bool :=
  match record.member? "input_audio" with
  | some (.object audio) =>
    (stringMember "data" (.object audio)).any fun data => !isRemoteReference data
  | _ => false

def isUnsizedPart (record : Json) : Bool :=
  match stringMember "type" record with
  | none => false
  | some kind =>
    unsizedPartTypes.contains kind || (kind == "input_audio" && !isInlineAudioPart record)

def tallyUnsizedPart (value : Json) (tally : InputTally) : InputTally :=
  { tally with
    characters := tally.characters + utf16Length (stringify value)
    unsizedParts := tally.unsizedParts + 1 }

def tallyRecord (record : Json) (tally : InputTally) : InputTally :=
  if isUnsizedPart record then tallyUnsizedPart record tally
  else if (stringMember "type" record).any imagePartTypes.contains then
    let part := tallyString (stringify record) emptyTally
    { tally with
      characters := tally.characters + part.characters
      imageTokens := tally.imageTokens + max (textTokens part) imageInputTokenFloor }
  else
    match stringMember "text" record, stringMember "content" record with
    | some text, _ => tallyString text.toList tally
    | none, some content => tallyString content.toList tally
    | none, none => tallyString (stringify record) tally

mutual

def tallyValue : Json → InputTally → InputTally
  | .string value, tally => tallyString value.toList tally
  | .null, tally => tally
  | .array items, tally => tallyItems items tally
  | .object members, tally => tallyRecord (.object members) tally
  | .bool value, tally => tallyString (Json.text (.bool value)) tally
  | .number value text, tally => tallyString (Json.text (.number value text)) tally

def tallyItems : List Json → InputTally → InputTally
  | [], tally => tally
  | item :: items, tally => tallyItems items (tallyValue item tally)

end

def tallyContentPart (part : Json) (tally : InputTally) : InputTally :=
  if (stringMember "type" part).any fun kind => !sizedContentPartTypes.contains kind then
    tallyUnsizedPart part tally
  else tallyValue part tally

def tallyContent (content : Json) (tally : InputTally) : InputTally :=
  match content with
  | .array parts => parts.foldl (fun tally part => tallyContentPart part tally) tally
  | content => tallyValue content tally

def tallyMember (key : String) (record : Json) (tallyOne : Json → InputTally → InputTally)
    (tally : InputTally) : InputTally :=
  match record.member? key with
  | some value => tallyOne value tally
  | none => tally

def tallyJson (value : Json) (tally : InputTally) : InputTally :=
  tallyString (stringify value) tally

def tallyMessage (tally : InputTally) (message : Json) : InputTally :=
  tallyMember "reasoning_content" message tallyValue
    (tallyMember "function_call" message tallyValue
      (tallyMember "tool_calls" message tallyValue
        (tallyMember "content" message tallyContent tally)))

def estimateInput (request : Json) : InputTally :=
  let messages :=
    match request.member? "messages" with
    | some (.array messages) => messages.foldl tallyMessage emptyTally
    | _ => emptyTally
  tallyMember "response_format" request tallyJson
    (tallyMember "functions" request tallyJson
      (tallyMember "tools" request tallyJson messages))

def worstCaseVeniceChatOutputCap (request : Json) (price : VeniceChatModelPrice) :
    Except VeniceError Nat := do
  let completion ← readVeniceChatPositiveInteger (request.member? "max_completion_tokens")
    "max_completion_tokens"
  let tokens ← readVeniceChatPositiveInteger (request.member? "max_tokens") "max_tokens"
  let requested :=
    match completion, tokens with
    | some completion, some tokens => max completion tokens
    | some completion, none => completion
    | none, some tokens => tokens
    | none, none => price.maxOutputTokens
  return min requested price.maxOutputTokens

structure ChatCostEstimate where
  model : String
  inputCharacters : Nat
  inputTokens : Nat
  unsizedInputParts : Nat
  outputCap : Nat
  outputTokens : Nat
  outputChoices : Nat
  modelMaxOutputTokens : Nat
  outputCapExplicit : Bool
  inputCostMicroUsd : Nat
  outputCostMicroUsd : Nat
  estimatedCostMicroUsd : Nat
  reservedCostMicroUsd : Nat
  safetyBufferBps : Nat

/-- The price row of `request.model`; a model that is not a text has none. -/
def resolveRequestPrice (book : PriceBook) (request : Json) :
    Except VeniceError VeniceChatModelPrice :=
  match stringMember "model" request with
  | some model => resolvePrice book model
  | none => .error (.unsupportedModel (memberText "model" request))

def estimatedInputTokens (price : VeniceChatModelPrice) (input : InputTally) : Nat :=
  if 0 < input.unsizedParts then price.contextWindow
  else min (textTokens input + input.imageTokens) price.contextWindow

def isSent (value : Option Json) : Bool :=
  match value with
  | none => false
  | some .null => false
  | some _ => true

def estimateChatCompletionCost (book : PriceBook) (request : Json) :
    Except VeniceError ChatCostEstimate := do
  let price ← resolveRequestPrice book request
  let input := estimateInput request
  let inputTokens := estimatedInputTokens price input
  let outputCap ← worstCaseVeniceChatOutputCap request price
  let choices ← readVeniceChatPositiveInteger (request.member? "n") "n"
  let outputChoices := choices.getD 1
  let outputTokens := doubleProduct outputCap outputChoices
  let inputCostMicroUsd :=
    calculateVeniceTokenCostMicroUsd inputTokens price.inputMicroUsdPerMillion
  let outputCostMicroUsd :=
    calculateVeniceTokenCostMicroUsd outputTokens price.outputMicroUsdPerMillion
  let estimatedCostMicroUsd := inputCostMicroUsd + outputCostMicroUsd
  return {
    model := price.model
    inputCharacters := input.characters
    inputTokens
    unsizedInputParts := input.unsizedParts
    outputCap
    outputTokens
    outputChoices
    modelMaxOutputTokens := price.maxOutputTokens
    outputCapExplicit :=
      isSent (request.member? "max_completion_tokens") || isSent (request.member? "max_tokens")
    inputCostMicroUsd
    outputCostMicroUsd
    estimatedCostMicroUsd
    reservedCostMicroUsd := multiplyMicrodollarsByRatio estimatedCostMicroUsd
      reservationBufferNumerator reservationBufferDenominator
    safetyBufferBps := 1000 }

/-- The largest cap whose hold fits in what is available; 0 when the input alone does
not fit. -/
def maxAffordableVeniceChatOutputCap (book : PriceBook) (request : Json)
    (availableMicroUsd : Int) : Except VeniceError Nat := do
  let base ← estimateChatCompletionCost book
    ((request.set "max_completion_tokens" (.ofNat 1)).erase "max_tokens")
  let estimateBudget :=
    availableMicroUsd.toNat * reservationBufferDenominator / reservationBufferNumerator
  if estimateBudget < base.inputCostMicroUsd then return 0
  let outputBudget := estimateBudget - base.inputCostMicroUsd
  let price ← resolveRequestPrice book request
  if price.outputMicroUsdPerMillion = 0 then return price.maxOutputTokens
  let affordableTokens := outputBudget * 1000000 / price.outputMicroUsdPerMillion
  return min (affordableTokens / base.outputChoices) price.maxOutputTokens

end Hivra.Venice
