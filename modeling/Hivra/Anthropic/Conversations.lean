import Hivra.Anthropic.RequestTranslation
import Mathlib.Data.List.Basic

/-!
# Conversations after their translation

A chat-completion conversation is well answered when the tool messages that follow a
message with calls answer each of them.  What the blocks of one message are gathered into
is read off the list of blocks first; from that each message is translated to at most one
spoken message and then its results, so a user message that speaks comes between the calls
before it and its results.
-/

namespace Hivra.Anthropic

open Hivra.Library

def AnthropicBlock.part? : AnthropicBlock → Option ContentPart
  | .text value => some (.text value)
  | .image source => source.url?.map .imageUrl
  | _ => none

def AnthropicBlock.call? : AnthropicBlock → Option ToolCall
  | .toolUse id name input =>
    some { id, name, arguments := String.ofList (nullishOr input (.object [])).stringify }
  | _ => none

def AnthropicBlock.result? : AnthropicBlock → Option (String × String)
  | .toolResult toolUseId content => some (toolUseId, anthropicResultContentToText content)
  | _ => none

def AnthropicBlock.image? : AnthropicBlock → Option ImageSource
  | .image source => some source
  | _ => none

def AnthropicBlock.text? : AnthropicBlock → Option String
  | .text value => some value
  | _ => none

namespace AnthropicMessage

def text (message : AnthropicMessage) : String :=
  anthropicContentToOpenAiText message.content

def images (message : AnthropicMessage) : List ImageSource :=
  message.content.blockList.filterMap AnthropicBlock.image?

def toolUses (message : AnthropicMessage) : List ToolCall :=
  message.content.blockList.filterMap AnthropicBlock.call?

def toolResults (message : AnthropicMessage) : List (String × String) :=
  message.content.blockList.filterMap AnthropicBlock.result?

/-- The parts of a message that are spoken: its texts, and the images that can be read. -/
def parts (message : AnthropicMessage) : List ContentPart :=
  message.content.blockList.filterMap AnthropicBlock.part?

end AnthropicMessage

def ContentPart.image? : ContentPart → Option String
  | .text _ => none
  | .imageUrl address => some address

namespace OpenAiMessage

def text (message : OpenAiMessage) : String :=
  match message.content with
  | .null => ""
  | .text value => value
  | .parts list => joinedText list

def images (message : OpenAiMessage) : List String :=
  match message.content with
  | .parts list => list.filterMap ContentPart.image?
  | _ => []

def isSpoken (message : OpenAiMessage) : Bool :=
  message.role == .user || message.role == .assistant

def isTool (message : OpenAiMessage) : Bool :=
  message.role == .tool

def answer? (message : OpenAiMessage) : Option (String × String) :=
  if message.isTool then message.toolCallId.map (·, message.text) else none

end OpenAiMessage

/-- Each call of an assistant message is answered by one of the tool messages that follow it,
before any message of another role. -/
def WellAnswered : List OpenAiMessage → Prop
  | [] => True
  | message :: rest =>
    (message.role = .assistant → ∀ call ∈ message.toolCalls,
      ∃ answer ∈ rest.takeWhile OpenAiMessage.isTool, answer.toolCallId = some call.id) ∧
    WellAnswered rest

/-- The texts, images, calls and results appear, in the order they had.  The texts of one
message are one text; an image whose source is not read has no URL to appear with. -/
structure Carries (input : List AnthropicMessage) (output : List OpenAiMessage) : Prop where
  texts : ((output.filter (·.isSpoken)).map (·.text)).filter (· ≠ "") =
    (input.map (·.text)).filter (· ≠ "")
  images : (output.flatMap (·.images)).map some = (input.flatMap (·.images)).map ImageSource.url?
  calls : output.flatMap (·.toolCalls) = input.flatMap (·.toolUses)
  results : output.filterMap (·.answer?) = input.flatMap (·.toolResults)

/-- Every tool use of the assistant is answered by a result of the next message, which is the
user's. -/
def EveryUseAnswered : List AnthropicMessage → Prop
  | [] => True
  | message :: rest =>
    (message.toolUses ≠ [] → ∃ answer later, rest = answer :: later ∧ answer.role = .user ∧
      ∀ call ∈ message.toolUses, call.id ∈ answer.toolResults.map Prod.fst) ∧
    EveryUseAnswered rest

def AnswersSilently : List AnthropicMessage → Prop
  | [] => True
  | message :: rest =>
    (message.toolUses ≠ [] → ∀ answer later, rest = answer :: later → answer.parts = []) ∧
    AnswersSilently rest

def ImagesRead (messages : List AnthropicMessage) : Prop :=
  ∀ message ∈ messages, ∀ source ∈ message.images, source.url?.isSome = true

def toolMessage (result : String × String) : OpenAiMessage :=
  { role := .tool, content := .text result.2, toolCallId := some result.1 }

theorem add_eq (gathered : Gathered) (block : AnthropicBlock) : gathered.add block =
      { out := gathered.out ++ (block.result?.map toolMessage).toList
        textParts := gathered.textParts ++ block.part?.toList
        toolCalls := gathered.toolCalls ++ block.call?.toList } := by
  cases block with
  | text value => simp [Gathered.add, AnthropicBlock.result?, AnthropicBlock.part?,
      AnthropicBlock.call?]
  | image source =>
    cases read : source.url? with
    | none => simp [Gathered.add, AnthropicBlock.result?, AnthropicBlock.part?,
        AnthropicBlock.call?, read]
    | some address => simp [Gathered.add, AnthropicBlock.result?, AnthropicBlock.part?,
        AnthropicBlock.call?, read]
  | toolUse id name input => simp [Gathered.add, AnthropicBlock.result?, AnthropicBlock.part?,
      AnthropicBlock.call?]
  | toolResult toolUseId content => simp [Gathered.add, AnthropicBlock.result?,
      AnthropicBlock.part?, AnthropicBlock.call?, toolMessage]
  | other => simp [Gathered.add, AnthropicBlock.result?, AnthropicBlock.part?,
      AnthropicBlock.call?]

theorem gather_eq (blocks : List AnthropicBlock) : gather blocks =
      { out := (blocks.filterMap AnthropicBlock.result?).map toolMessage
        textParts := blocks.filterMap AnthropicBlock.part?
        toolCalls := blocks.filterMap AnthropicBlock.call? } := by
  have general (gathered : Gathered) : blocks.foldl Gathered.add gathered =
      { out := gathered.out ++ (blocks.filterMap AnthropicBlock.result?).map toolMessage
        textParts := gathered.textParts ++ blocks.filterMap AnthropicBlock.part?
        toolCalls := gathered.toolCalls ++ blocks.filterMap AnthropicBlock.call? } := by
    induction blocks generalizing gathered with
    | nil => simp
    | cons block blocks ih =>
      rw [List.foldl_cons, ih, add_eq]
      simp only [List.filterMap_cons, List.append_assoc]
      congr 1
      · cases block.result? <;> simp
      · cases block.part? <;> simp
      · cases block.call? <;> simp
  exact general _

variable {message : AnthropicMessage}

def AnthropicMessage.spoken (message : AnthropicMessage) : List OpenAiMessage :=
  match message.content with
  | .text value => [{ role := message.role.toOpenAi, content := .text value }]
  | .blocks list =>
    match message.role with
    | .assistant => assistantMessage (gather list)
    | .user => userMessage (gather list)

theorem translate_eq (message : AnthropicMessage) : translateAnthropicMessage message =
      message.spoken ++ message.toolResults.map toolMessage := by
  unfold translateAnthropicMessage AnthropicMessage.spoken AnthropicMessage.toolResults
  cases message.content with
  | text value => simp [AnthropicContent.blockList]
  | blocks list =>
    cases message.role with
    | user => simp [AnthropicContent.blockList, gather_eq]
    | assistant => simp [AnthropicContent.blockList, gather_eq]

theorem parts_text (message : AnthropicMessage) (isBlocks : ∃ list, message.content = .blocks list) :
    joinedText message.parts = message.text := by
  have ⟨list, isList⟩ := isBlocks
  unfold joinedText AnthropicMessage.parts AnthropicMessage.text anthropicContentToOpenAiText
  rw [isList]
  simp only [AnthropicContent.blockList, List.filterMap_filterMap]
  congr 2
  funext block
  cases block with
  | image source => cases read : source.url? <;> simp [AnthropicBlock.part?, ContentPart.text?, read]
  | _ => rfl

theorem parts_images (message : AnthropicMessage) :
    message.parts.filterMap ContentPart.image? = message.images.filterMap ImageSource.url? := by
  unfold AnthropicMessage.parts AnthropicMessage.images
  rw [List.filterMap_filterMap, List.filterMap_filterMap]
  congr 1
  funext block
  cases block with
  | image source =>
    cases read : source.url? <;>
      simp [AnthropicBlock.part?, AnthropicBlock.image?, ContentPart.image?, read]
  | _ => rfl

theorem no_images_of_assistant (role : message.role = .assistant) : message.images = [] := by
  apply List.filterMap_eq_nil_iff.mpr
  intro block there
  have allowed := message.allowed block there
  cases block with
  | image source => simp [AnthropicBlock.allowedIn, role] at allowed
  | _ => rfl

theorem no_uses_of_user (role : message.role = .user) : message.toolUses = [] := by
  apply List.filterMap_eq_nil_iff.mpr
  intro block there
  have allowed := message.allowed block there
  cases block with
  | toolUse id name input => simp [AnthropicBlock.allowedIn, role] at allowed
  | _ => rfl

theorem no_results_of_assistant (role : message.role = .assistant) : message.toolResults = [] := by
  apply List.filterMap_eq_nil_iff.mpr
  intro block there
  have allowed := message.allowed block there
  cases block with
  | toolResult id content => simp [AnthropicBlock.allowedIn, role] at allowed
  | _ => rfl

theorem spoken_cases (message : AnthropicMessage) :
    (message.spoken = [] ∧ message.text = "" ∧ message.toolUses = [] ∧
        message.images.filterMap ImageSource.url? = []) ∨
      ∃ spoken, message.spoken = [spoken] ∧ spoken.role = message.role.toOpenAi ∧
        spoken.text = message.text ∧ spoken.toolCalls = message.toolUses ∧
        spoken.images = message.images.filterMap ImageSource.url? := by
  cases content : message.content with
  | text value =>
    right
    simp [AnthropicMessage.spoken, AnthropicMessage.text, AnthropicMessage.toolUses,
      AnthropicMessage.images, OpenAiMessage.text, OpenAiMessage.images,
      anthropicContentToOpenAiText, AnthropicContent.blockList, content]
  | blocks list =>
    have sameText := parts_text message ⟨list, content⟩
    have sameImages := parts_images message
    have isGathered : gather list =
        { out := message.toolResults.map toolMessage
          textParts := message.parts
          toolCalls := message.toolUses } := by
      simp [gather_eq, AnthropicMessage.toolResults, AnthropicMessage.parts,
        AnthropicMessage.toolUses, AnthropicContent.blockList, content]
    cases role : message.role with
    | assistant =>
      have isSpoken : message.spoken = assistantMessage (gather list) := by
        simp [AnthropicMessage.spoken, content, role]
      have noImages := no_images_of_assistant role
      rw [isSpoken, isGathered, assistantMessage, sameText, noImages]
      split_ifs with silent
      · exact .inl ⟨rfl, silent.1, silent.2, rfl⟩
      · right
        refine ⟨_, rfl, rfl, ?_, rfl, ?_⟩
        · by_cases empty : message.text = "" <;>
            simp [OpenAiMessage.text, textOrNull, empty]
        · by_cases empty : message.text = "" <;>
            simp [OpenAiMessage.images, textOrNull, empty]
    | user =>
      have isSpoken : message.spoken = userMessage (gather list) := by
        simp [AnthropicMessage.spoken, content, role]
      have noUses := no_uses_of_user role
      rw [isSpoken, isGathered, userMessage, noUses]
      dsimp only
      split_ifs with silent texts
      · left
        rw [silent] at sameText sameImages
        exact ⟨rfl, sameText.symm, rfl, sameImages.symm⟩
      · right
        refine ⟨_, rfl, rfl, sameText, rfl, ?_⟩
        rw [← sameImages]
        symm
        apply List.filterMap_eq_nil_iff.mpr
        intro part there
        have isText := List.all_eq_true.mp texts part there
        cases part with
        | text value => rfl
        | imageUrl address => cases isText
      · right
        exact ⟨_, rfl, rfl, sameText, rfl, sameImages⟩

theorem tool_messages_unspoken (results : List (String × String)) :
    (results.map toolMessage).filter (·.isSpoken) = [] := by
  rw [List.filter_map, List.map_eq_nil_iff, List.filter_eq_nil_iff]
  intro result _ spoken
  cases spoken

theorem translated_texts (message : AnthropicMessage) :
    (((translateAnthropicMessage message).filter (·.isSpoken)).map (·.text)).filter (· ≠ "") =
      [message.text].filter (· ≠ "") := by
  rw [translate_eq, List.filter_append, tool_messages_unspoken, List.append_nil]
  rcases spoken_cases message with ⟨silent, text, _⟩ | ⟨spoken, isSpoken, role, text, _⟩
  · simp [silent, text]
  · have speaks : spoken.isSpoken = true := by
      cases who : message.role <;> simp [OpenAiMessage.isSpoken, role, who, AnthropicRole.toOpenAi]
    simp [isSpoken, speaks, text]

theorem translated_images (message : AnthropicMessage) :
    (translateAnthropicMessage message).flatMap (·.images) =
      message.images.filterMap ImageSource.url? := by
  have none : (message.toolResults.map toolMessage).flatMap (·.images) = [] := by
    rw [List.flatMap_map, List.flatMap_eq_nil_iff]
    intro result _
    rfl
  rw [translate_eq, List.flatMap_append, none, List.append_nil]
  rcases spoken_cases message with ⟨silent, _, _, images⟩ | ⟨spoken, isSpoken, _, _, _, images⟩
  · simp [silent, images]
  · simp [isSpoken, images]

theorem translated_calls (message : AnthropicMessage) :
    (translateAnthropicMessage message).flatMap (·.toolCalls) = message.toolUses := by
  have none : (message.toolResults.map toolMessage).flatMap (·.toolCalls) = [] := by
    rw [List.flatMap_map, List.flatMap_eq_nil_iff]
    intro result _
    rfl
  rw [translate_eq, List.flatMap_append, none, List.append_nil]
  rcases spoken_cases message with ⟨silent, _, calls, _⟩ | ⟨spoken, isSpoken, _, _, calls, _⟩
  · simp [silent, calls]
  · simp [isSpoken, calls]

theorem translated_results (message : AnthropicMessage) :
    (translateAnthropicMessage message).filterMap (·.answer?) = message.toolResults := by
  have answers : (message.toolResults.map toolMessage).filterMap (·.answer?) =
      message.toolResults := by
    rw [List.filterMap_map]
    exact List.filterMap_some
  rw [translate_eq, List.filterMap_append, answers]
  rcases spoken_cases message with ⟨silent, _⟩ | ⟨spoken, isSpoken, role, _⟩
  · simp [silent]
  · have unanswering : spoken.answer? = none := by
      cases who : message.role <;>
        simp [OpenAiMessage.answer?, OpenAiMessage.isTool, role, who, AnthropicRole.toOpenAi]
    simp [isSpoken, unanswering]

theorem system_messages (system : Option AnthropicContent) :
    translateAnthropicSystem system = [] ∨ ∃ text,
      translateAnthropicSystem system = [{ role := .system, content := .text text }] := by
  unfold translateAnthropicSystem
  cases system with
  | none => exact .inl rfl
  | some content =>
    dsimp only
    split_ifs
    · exact .inl rfl
    · exact .inr ⟨_, rfl⟩

theorem filter_map_some_iff {Item Value : Type} (read : Item → Option Value) (items : List Item) :
    (items.filterMap read).map some = items.map read ↔ ∀ item ∈ items, (read item).isSome := by
  constructor
  · intro same item there
    have mapped : read item ∈ items.map read := List.mem_map_of_mem there
    rw [← same] at mapped
    have ⟨value, _, isValue⟩ := List.mem_map.mp mapped
    rw [← isValue]
    rfl
  · intro every
    induction items with
    | nil => rfl
    | cons item items ih =>
      have ⟨value, isValue⟩ := Option.isSome_iff_exists.mp (every item List.mem_cons_self)
      rw [List.filterMap_cons_some isValue, List.map_cons, List.map_cons, isValue,
        ih fun other there => every other (List.mem_cons_of_mem _ there)]

theorem carries_iff (body : AnthropicRequest) :
    Carries body.messages (anthropicRequestToOpenAi body).messages ↔ ImagesRead body.messages := by
  have ⟨systemSpoken, systemImages, systemCalls, systemResults⟩ :
      (translateAnthropicSystem body.system).filter (·.isSpoken) = [] ∧
      (translateAnthropicSystem body.system).flatMap (·.images) = [] ∧
      (translateAnthropicSystem body.system).flatMap (·.toolCalls) = [] ∧
      (translateAnthropicSystem body.system).filterMap (·.answer?) = [] := by
    rcases system_messages body.system with none | ⟨text, one⟩
    · rw [none]
      exact ⟨rfl, rfl, rfl, rfl⟩
    · rw [one]
      exact ⟨rfl, rfl, rfl, rfl⟩
  have images : ((anthropicRequestToOpenAi body).messages.flatMap (·.images)).map some =
      (body.messages.flatMap (·.images)).map ImageSource.url? ↔ ImagesRead body.messages := by
    simp only [anthropicRequestToOpenAi, List.flatMap_append, systemImages, List.nil_append,
      List.flatMap_assoc, translated_images, ← List.filterMap_flatMap]
    rw [filter_map_some_iff]
    simp only [List.mem_flatMap, ImagesRead]
    constructor
    · intro every message there source held
      exact every source ⟨message, there, held⟩
    · intro every source ⟨message, there, held⟩
      exact every message there source held
  constructor
  · intro carries
    exact images.mp carries.images
  · intro read
    have texts (messages : List AnthropicMessage) :
        (((messages.flatMap translateAnthropicMessage).filter (·.isSpoken)).map
          (·.text)).filter (· ≠ "") = (messages.map (·.text)).filter (· ≠ "") := by
      induction messages with
      | nil => rfl
      | cons message messages ih =>
        rw [List.flatMap_cons, List.filter_append, List.map_append, List.filter_append, ih,
          translated_texts, ← List.filter_append]
        rfl
    constructor
    · simp only [anthropicRequestToOpenAi, List.filter_append, systemSpoken, List.nil_append]
      exact texts body.messages
    · exact images.mpr read
    · simp only [anthropicRequestToOpenAi, List.flatMap_append, systemCalls, List.nil_append,
        List.flatMap_assoc, translated_calls]
    · simp only [anthropicRequestToOpenAi, List.filterMap_append, systemResults, List.nil_append,
        List.filterMap_flatMap, translated_results]

theorem well_answered_cons (message : OpenAiMessage) (rest : List OpenAiMessage) :
    WellAnswered (message :: rest) ↔
      (message.role = .assistant → ∀ call ∈ message.toolCalls,
        ∃ answer ∈ rest.takeWhile OpenAiMessage.isTool, answer.toolCallId = some call.id) ∧
      WellAnswered rest := Iff.rfl

theorem answered_tools (results : List (String × String)) (rest : List OpenAiMessage) :
    WellAnswered (results.map toolMessage ++ rest) ↔ WellAnswered rest := by
  induction results with
  | nil => rfl
  | cons result results ih =>
    rw [← ih]
    constructor
    · intro answered
      exact answered.2
    · intro answered
      exact ⟨(by intro role; cases role), answered⟩

theorem user_silent_iff (role : message.role = .user) (results : message.toolResults ≠ []) :
    message.spoken = [] ↔ message.parts = [] := by
  cases content : message.content with
  | text value => simp [AnthropicMessage.toolResults, AnthropicContent.blockList, content] at results
  | blocks list =>
    have isGathered : (gather list).textParts = message.parts := by
      simp [gather_eq, AnthropicMessage.parts, AnthropicContent.blockList, content]
    simp [AnthropicMessage.spoken, content, role, userMessage, isGathered]

theorem answers_follow_iff {answer : AnthropicMessage} (role : answer.role = .user)
    {calls : List ToolCall} (some : calls ≠ [])
    (ids : ∀ call ∈ calls, call.id ∈ answer.toolResults.map Prod.fst) (rest : List OpenAiMessage) :
    (∀ call ∈ calls, ∃ tool ∈ (translateAnthropicMessage answer ++ rest).takeWhile
        OpenAiMessage.isTool, tool.toolCallId = .some call.id) ↔ answer.parts = [] := by
  have ⟨first, isFirst⟩ := List.exists_mem_of_ne_nil calls some
  have results : answer.toolResults ≠ [] := by
    intro none
    have held := ids first isFirst
    rw [none] at held
    cases held
  rw [← user_silent_iff role results, translate_eq]
  rcases spoken_cases answer with ⟨silent, _⟩ | ⟨spoken, isSpoken, spokenRole, _⟩
  · simp only [silent, List.nil_append, iff_true]
    intro call there
    have ⟨result, held, isId⟩ := List.mem_map.mp (ids call there)
    have tools : ∀ tool ∈ answer.toolResults.map toolMessage, tool.isTool = true := by
      intro tool isTool
      have ⟨_, _, made⟩ := List.mem_map.mp isTool
      rw [← made]
      rfl
    rw [List.takeWhile_append_of_pos tools]
    exact ⟨toolMessage result, List.mem_append_left _ (List.mem_map_of_mem held),
      congrArg Option.some isId⟩
  · have unanswering : spoken.isTool = false := by
      simp [OpenAiMessage.isTool, spokenRole, role, AnthropicRole.toOpenAi]
    simp only [isSpoken, List.cons_append, List.takeWhile_cons_of_neg (by simp [unanswering] :
      ¬ spoken.isTool = true), List.not_mem_nil, false_and, List.cons_ne_nil, iff_false]
    intro every
    have ⟨_, nothing⟩ := every first isFirst
    exact nothing

theorem answered_iff (messages : List AnthropicMessage) (answered : EveryUseAnswered messages) :
    WellAnswered (messages.flatMap translateAnthropicMessage) ↔ AnswersSilently messages := by
  induction messages with
  | nil => rfl
  | cons message rest ih =>
    have ⟨uses, others⟩ := answered
    rw [List.flatMap_cons, translate_eq, List.append_assoc]
    unfold AnswersSilently
    rw [← ih others]
    rcases spoken_cases message with ⟨silent, _, calls, _⟩ | ⟨spoken, isSpoken, role, _, calls, _⟩
    · rw [silent, List.nil_append, answered_tools]
      simp [calls]
    · rw [isSpoken, List.singleton_append]
      rw [well_answered_cons, answered_tools, calls]
      apply and_congr_left
      intro _
      by_cases some : message.toolUses = []
      · simp [some]
      · have assistant : message.role = .assistant := by
          cases who : message.role with
          | user => exact absurd (no_uses_of_user who) some
          | assistant => rfl
        have ⟨answer, later, isRest, answerRole, ids⟩ := uses some
        rw [isRest, List.flatMap_cons, no_results_of_assistant assistant]
        have asks : spoken.role = .assistant := by
          rw [role, assistant]
          rfl
        have follow := answers_follow_iff answerRole some ids
          (later.flatMap translateAnthropicMessage)
        constructor
        · intro every _ other others same
          have isAnswer := (List.cons.inj same).1
          rw [← isAnswer]
          exact follow.mp (every asks)
        · intro silent _
          exact follow.mpr (silent some answer later rfl)

def ValidTranslation (body : AnthropicRequest) : Prop :=
  WellAnswered (anthropicRequestToOpenAi body).messages ∧
    Carries body.messages (anthropicRequestToOpenAi body).messages

def weatherRequest (answer : List AnthropicBlock)
    (allowed : ∀ block ∈ answer, block.allowedIn .user = true) : AnthropicRequest :=
  { model := "model"
    system := none
    messages :=
      [{ role := .user
         content := .text "How warm is it?"
         allowed := by simp [AnthropicContent.blockList] },
        { role := .assistant
          content := .blocks [.toolUse "call" "get_weather" none]
          allowed := by simp [AnthropicContent.blockList, AnthropicBlock.allowedIn] },
        { role := .user, content := .blocks answer, allowed }]
    maxTokens := 10
    stream := false
    temperature := none
    topP := none
    stopSequences := []
    tools := []
    toolChoice := none }

def weatherAnswer : List AnthropicBlock :=
  [.toolResult "call" (some (.string "22 degrees")), .text "In Celsius, please."]

theorem weather_answered {answer : List AnthropicBlock}
    (allowed : ∀ block ∈ answer, block.allowedIn .user = true) {content : Option Json}
    (answers : .toolResult "call" content ∈ answer) :
    EveryUseAnswered (weatherRequest answer allowed).messages := by
  constructor
  · intro some
    exact absurd rfl some
  constructor
  · intro _
    refine ⟨_, _, rfl, rfl, ?_⟩
    intro call there
    have isCall : call.id = "call" := by
      have same := List.mem_singleton.mp there
      rw [same]
    rw [isCall]
    apply List.mem_map.mpr
    exact ⟨_, List.mem_filterMap.mpr ⟨_, answers, rfl⟩, rfl⟩
  constructor
  · intro some
    exact absurd (no_uses_of_user rfl) some
  · trivial

end Hivra.Anthropic
