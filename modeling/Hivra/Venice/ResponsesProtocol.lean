import Hivra.Venice.CostEstimator

/-!
# The Responses request

Which Responses bodies the proxy takes (stateless text with client-side tools),
and the chat-shaped request the estimator prices one as.  The body itself is
forwarded unchanged.
-/

namespace Hivra.Venice

open Hivra.Library
open Hivra.Library.Json

def responsesAllowedKeys : List String :=
  ["model", "input", "instructions", "tools", "tool_choice", "parallel_tool_calls", "reasoning",
    "store", "stream", "include", "prompt_cache_key", "text", "metadata", "max_output_tokens",
    "temperature", "top_p", "truncation", "safety_identifier", "background", "service_tier",
    "client_metadata"]

def memberKeys : Json → List String
  | .object members => members.map Prod.fst
  | _ => []

def isToolName (value : Option Json) : Bool :=
  match value with
  | some (.string name) => decide (0 < utf16Length name.toList ∧ utf16Length name.toList ≤ 128)
  | _ => false

def clientTool (tool : Json) : Bool :=
  tool.isRecord && ["function", "custom"].contains (memberText "type" tool) &&
    isToolName (tool.member? "name")

def supportedTool (tool : Json) : Bool :=
  clientTool tool ||
    (tool.isRecord && stringMember "type" tool == some "namespace" &&
      isToolName (tool.member? "name") && (stringMember "description" tool).isSome &&
      (memberKeys tool).all ["type", "name", "description", "tools"].contains &&
      match tool.member? "tools" with
      | some (.array tools) =>
        decide (0 < tools.length ∧ tools.length ≤ 128) && tools.all clientTool
      | _ => false)

def isModelChar (char : Char) : Bool :=
  isSchemeStart char || ('0' ≤ char && char ≤ '9') || char == '.' || char == '_' ||
    char == '/' || char == '-'

def isModelId (model : String) : Bool :=
  decide (1 ≤ model.toList.length ∧ model.toList.length ≤ 128) && model.toList.all isModelChar

/-- Absent, or exactly `false`. -/
def isOff (value : Option Json) : Bool :=
  match value with
  | none => true
  | some (.bool false) => true
  | _ => false

def isServiceTier (value : Option Json) : Bool :=
  match value with
  | none => true
  | some .null => true
  | some (.string tier) => tier == "default" || tier == "auto"
  | some _ => false

def isBoolOrAbsent (value : Option Json) : Bool :=
  match value with
  | none => true
  | some (.bool _) => true
  | some _ => false

def maxResponsesOutputTokens : Nat := 131072

def isResponsesCap (value : Option Json) : Bool :=
  match value with
  | none => true
  | some cap =>
    match cap.safeInteger? with
    | some whole => decide (1 ≤ whole ∧ whole ≤ maxResponsesOutputTokens)
    | none => false

def isClientMetadata (value : Option Json) : Bool :=
  match value with
  | none => true
  | some (.object members) =>
    decide (members.length ≤ 32) && members.all fun entry =>
      decide (utf16Length entry.1.toList ≤ 128) &&
        match entry.2 with
        | .string text => decide (utf16Length text.toList ≤ 4096)
        | _ => false
  | some _ => false

def isToolChoice (body : Json) : Bool :=
  match body.member? "tool_choice" with
  | none => true
  | some choice =>
    ["auto", "none", "required"].contains (String.ofList choice.text) ||
      (choice.isRecord && ["function", "custom"].contains (memberText "type" choice))

def areTools (value : Option Json) : Bool :=
  match value with
  | none => true
  | some (.array tools) => decide (tools.length ≤ 128) && tools.all supportedTool
  | some _ => false

def isInputText (part : Json) : Bool :=
  part.isRecord && ["input_text", "output_text", "refusal"].contains (memberText "type" part)

def responsesInputTypes : List String :=
  ["message", "function_call", "function_call_output", "custom_tool_call",
    "custom_tool_call_output", "reasoning"]

def checkResponsesInputItem (item : Json) : Except String Unit := do
  let kind := item.member? "type"
  let known :=
    match kind with
    | none => true
    | some (.string kind) => responsesInputTypes.contains kind
    | some _ => false
  if !(item.isRecord && known) then throw "Unsupported Responses input item."
  if kind.isNone || stringMember "type" item == some "message" then
    let isText :=
      match item.member? "content" with
      | some (.string _) => true
      | some (.array parts) => parts.all isInputText
      | _ => false
    if !isText then throw "Managed Responses currently supports text input only."
  if ["function_call_output", "custom_tool_call_output"].contains (memberText "type" item) &&
      (stringMember "output" item).isNone then
    throw "Tool output must be text."

/-- The checks of `responsesEstimateRequest`, in its order. -/
def checkResponsesRequest (body : Json) : Except String Unit := do
  let model := stringMember "model" body
  if !((memberKeys body).all responsesAllowedKeys.contains && model.any isModelId &&
      isOff (body.member? "store") && isOff (body.member? "background") &&
      isServiceTier (body.member? "service_tier") && isBoolOrAbsent (body.member? "stream") &&
      isResponsesCap (body.member? "max_output_tokens")) then
    throw "Unsupported Responses request. Use stateless text with client-side tools."
  let hasInput :=
    match body.member? "input" with
    | some (.string _) => true
    | some (.array _) => true
    | _ => false
  if !hasInput then throw "Responses input is required."
  if (body.member? "instructions").isSome && (stringMember "instructions" body).isNone then
    throw "Invalid Responses instructions."
  if !isClientMetadata (body.member? "client_metadata") then throw "Invalid client metadata."
  if !isToolChoice body then throw "Unsupported Responses tool choice."
  if !areTools (body.member? "tools") then
    throw "Managed Responses supports client-side function/custom tools only; provider tools are not billed here."
  match body.member? "input" with
  | some (.array items) => items.forM checkResponsesInputItem
  | _ => pure ()

def optionalMember (key : String) (value : Option Json) : List (String × Json) :=
  match value with
  | some value => [(key, value)]
  | none => []

def responsesEstimate (body : Json) : Json :=
  .object
    (optionalMember "model" (body.member? "model") ++
      [("messages", .array
        [.object [("content", .string (String.ofList (stringify (.object
          (optionalMember "input" (body.member? "input") ++
            optionalMember "instructions" (body.member? "instructions"))))))]])] ++
      optionalMember "tools" (body.member? "tools") ++
      optionalMember "response_format" (body.member? "text") ++
      optionalMember "max_completion_tokens" (body.member? "max_output_tokens"))

def responsesEstimateRequest (body : Json) : Except String Json := do
  checkResponsesRequest body
  return responsesEstimate body

theorem responses_cap_checked {body estimate : Json}
    (accepted : responsesEstimateRequest body = .ok estimate) :
    isResponsesCap (body.member? "max_output_tokens") = true ∧
      estimate = responsesEstimate body := by
  unfold responsesEstimateRequest at accepted
  cases checked : checkResponsesRequest body with
  | error message => simp [checked, bind, Except.bind] at accepted
  | ok _ =>
    constructor
    · unfold checkResponsesRequest at checked
      by_contra malformed
      rw [Bool.not_eq_true] at malformed
      simp [malformed, bind, Except.bind, throw, throwThe, MonadExceptOf.throw] at checked
    · simpa [checked, bind, Except.bind, pure, Except.pure] using accepted.symm

end Hivra.Venice
