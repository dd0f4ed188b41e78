import Hivra.Library.Json

/-!
# Anthropic requests as chat-completion requests

`anthropicRequestToOpenAi` and what it calls.  One Anthropic message is gathered block by
block into the parts, the calls and the results it holds, and these become messages of
their own.  An empty list of calls stands for a message without `tool_calls`.
-/

namespace Hivra.Anthropic

open Hivra.Library

inductive AnthropicRole
  | user
  | assistant
  deriving DecidableEq

/-- A source that is neither base64 nor a URL is `other`. -/
inductive ImageSource
  | base64 (mediaType data : String)
  | url (address : String)
  | other

/-- A block of a type the translation does not read is `other`. -/
inductive AnthropicBlock
  | text (value : String)
  | image (source : ImageSource)
  | toolUse (id name : String) (input : Option Json)
  | toolResult (toolUseId : String) (content : Option Json)
  | other

def AnthropicBlock.allowedIn (role : AnthropicRole) : AnthropicBlock → Bool
  | .text _ => true
  | .image _ => role == .user
  | .toolUse _ _ _ => role == .assistant
  | .toolResult _ _ => role == .user
  | .other => true

inductive AnthropicContent
  | text (value : String)
  | blocks (list : List AnthropicBlock)

def AnthropicContent.blockList : AnthropicContent → List AnthropicBlock
  | .text _ => []
  | .blocks list => list

structure AnthropicMessage where
  role : AnthropicRole
  content : AnthropicContent
  allowed : ∀ block ∈ content.blockList, block.allowedIn role = true

structure AnthropicTool where
  name : String
  description : Option String
  inputSchema : Option Json

inductive AnthropicToolChoice
  | auto
  | any
  | tool (name : Option String)
  | other

structure AnthropicRequest where
  model : String
  system : Option AnthropicContent
  messages : List AnthropicMessage
  maxTokens : Nat
  stream : Bool
  temperature : Option Rat
  topP : Option Rat
  stopSequences : List String
  tools : List AnthropicTool
  toolChoice : Option AnthropicToolChoice

inductive OpenAiRole
  | system
  | user
  | assistant
  | tool
  deriving DecidableEq

inductive ContentPart
  | text (value : String)
  | imageUrl (address : String)

inductive OpenAiContent
  | null
  | text (value : String)
  | parts (list : List ContentPart)

structure ToolCall where
  id : String
  name : String
  arguments : String

structure OpenAiMessage where
  role : OpenAiRole
  content : OpenAiContent
  toolCalls : List ToolCall := []
  toolCallId : Option String := none

structure OpenAiTool where
  name : String
  description : String
  parameters : Json

inductive OpenAiToolChoice
  | auto
  | required
  | function (name : String)

structure OpenAiRequest where
  model : String
  messages : List OpenAiMessage
  maxTokens : Nat
  stream : Bool
  temperature : Option Rat
  topP : Option Rat
  stop : Option (List String)
  tools : Option (List OpenAiTool)
  toolChoice : Option OpenAiToolChoice

def anthropicContentToOpenAiText : AnthropicContent → String
  | .text text => text
  | .blocks blocks =>
    String.join (blocks.filterMap fun block =>
      match block with
      | .text text => some text
      | _ => none)

def resultItemToText (item : Json) : String :=
  if item.isObject then
    match item.member? "type" with
    | some (.string kind) =>
      if kind = "text" then
        match item.member? "text" with
        | none => ""
        | some .null => ""
        | some text => String.ofList text.text
      else String.ofList item.stringify
    | _ => String.ofList item.stringify
  else String.ofList item.text

def anthropicResultContentToText : Option Json → String
  | none => ""
  | some .null => ""
  | some (.string text) => text
  | some (.array items) => "\n".intercalate (items.map resultItemToText)
  | some content => String.ofList content.stringify

def ImageSource.url? : ImageSource → Option String
  | .base64 mediaType data =>
    if mediaType ≠ "" ∧ data ≠ "" then some ("data:" ++ mediaType ++ ";base64," ++ data)
    else none
  | .url address => if address ≠ "" then some address else none
  | .other => none

/-- `value ?? fallback`. -/
def nullishOr (value : Option Json) (fallback : Json) : Json :=
  match value with
  | none | some .null => fallback
  | some value => value

structure Gathered where
  out : List OpenAiMessage
  textParts : List ContentPart
  toolCalls : List ToolCall

def Gathered.add (gathered : Gathered) : AnthropicBlock → Gathered
  | .text text => { gathered with textParts := gathered.textParts ++ [.text text] }
  | .image source =>
    match source.url? with
    | some url => { gathered with textParts := gathered.textParts ++ [.imageUrl url] }
    | none => gathered
  | .toolUse id name input =>
    { gathered with
      toolCalls := gathered.toolCalls ++
        [{ id
           name
           arguments := String.ofList (nullishOr input (.object [])).stringify }] }
  | .toolResult toolUseId content =>
    { gathered with
      out := gathered.out ++
        [{ role := .tool
           content := .text (anthropicResultContentToText content)
           toolCallId := some toolUseId }] }
  | .other => gathered

def gather (blocks : List AnthropicBlock) : Gathered :=
  blocks.foldl Gathered.add { out := [], textParts := [], toolCalls := [] }

def ContentPart.text? : ContentPart → Option String
  | .text value => some value
  | .imageUrl _ => none

def joinedText (parts : List ContentPart) : String :=
  String.join (parts.filterMap ContentPart.text?)

def textOrNull (text : String) : OpenAiContent :=
  if text = "" then .null else .text text

def assistantMessage (gathered : Gathered) : List OpenAiMessage :=
  if joinedText gathered.textParts = "" ∧ gathered.toolCalls = [] then []
  else
    [{ role := .assistant
       content := textOrNull (joinedText gathered.textParts)
       toolCalls := gathered.toolCalls }]

def userMessage (gathered : Gathered) : List OpenAiMessage :=
  if gathered.textParts = [] then []
  else
    [{ role := .user
       content :=
         if gathered.textParts.all (·.text?.isSome) then .text (joinedText gathered.textParts)
         else .parts gathered.textParts }]

def AnthropicRole.toOpenAi : AnthropicRole → OpenAiRole
  | .user => .user
  | .assistant => .assistant

/-- The text or the calls of a message come before the results it holds: `out.unshift`. -/
def translateAnthropicMessage (message : AnthropicMessage) : List OpenAiMessage :=
  match message.content with
  | .text text => [{ role := message.role.toOpenAi, content := .text text }]
  | .blocks blocks =>
    let gathered := gather blocks
    match message.role with
    | .assistant => assistantMessage gathered ++ gathered.out
    | .user => userMessage gathered ++ gathered.out

def translateAnthropicSystem (system : Option AnthropicContent) : List OpenAiMessage :=
  match system with
  | none => []
  | some content =>
    let text := anthropicContentToOpenAiText content
    if text = "" then [] else [{ role := .system, content := .text text }]

def translateAnthropicTools (tools : List AnthropicTool) : Option (List OpenAiTool) :=
  if tools = [] then none
  else
    some ((tools.filter (·.name ≠ "")).map fun tool =>
      { name := tool.name
        description := tool.description.getD ""
        parameters := nullishOr tool.inputSchema
          (.object [("type", .string "object"), ("properties", .object [])]) })

def translateAnthropicToolChoice : AnthropicToolChoice → Option OpenAiToolChoice
  | .auto => some .auto
  | .any => some .required
  | .tool name =>
    match name with
    | none => some .required
    | some name => some (if name = "" then .required else .function name)
  | .other => none

def anthropicRequestToOpenAi (body : AnthropicRequest) : OpenAiRequest :=
  { model := body.model
    messages := translateAnthropicSystem body.system ++
      body.messages.flatMap translateAnthropicMessage
    maxTokens := body.maxTokens
    stream := body.stream
    temperature := body.temperature
    topP := body.topP
    stop := if body.stopSequences = [] then none else some body.stopSequences
    tools := translateAnthropicTools body.tools
    toolChoice := body.toolChoice.bind translateAnthropicToolChoice }

end Hivra.Anthropic
