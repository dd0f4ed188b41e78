import Hivra.Library.Frames
import Hivra.Library.Texts
import Hivra.Venice.CostEstimator

/-!
# The output meter

How much output a stream has shown: the larger of the frames that carried text and a floor by
the characters.  The Worker and the dashboard keep the chat parts in lockstep.  Parsing JSON is
the runtime's own.
-/

namespace Hivra.Venice

open Hivra.Library
open Hivra.Library.Json

def observedOutputAsciiCharsPerToken : Nat := 4

def quarterTokens (text : List Char) : Nat :=
  (text.map fun char =>
    if char.toNat < 0x80 then 1 else observedOutputAsciiCharsPerToken).sum

mutual

def textOf : Json → List Char
  | .string text => text.toList
  | .array items => textOfItems items
  | .object members =>
    match (members.find? fun entry => entry.1 == "text").map Prod.snd with
    | some (.string text) => text.toList
    | _ => []
  | _ => []

def textOfItems : List Json → List Char
  | [] => []
  | item :: items => textOf item ++ textOfItems items

end

/-- `textOf(record[key])`. -/
def memberTextOf (key : String) (record : Json) : List Char :=
  match record.member? key with
  | some value => textOf value
  | none => []

def callText (call : Json) : List Char :=
  memberTextOf "name" call ++ memberTextOf "arguments" call

/-- The generated text of one chat choice: a stream `delta` or a whole `message`. -/
def chatChoiceText (part : Option Json) : List Char :=
  match part with
  | some (.object members) =>
    let part := Json.object members
    let calls :=
      match part.member? "tool_calls" with
      | some (.array calls) => calls
      | _ => []
    memberTextOf "content" part ++ memberTextOf "reasoning_content" part ++
      memberTextOf "reasoning" part ++ memberTextOf "refusal" part ++
      (calls.filterMap fun call => (call.member? "function").filter Json.isRecord).flatMap
        callText ++
      (((part.member? "function_call").filter Json.isRecord).map callText).getD []
  | _ => []

structure OutputTally where
  textFrames : Nat
  textQuarterTokens : Nat

def noOutput : OutputTally := { textFrames := 0, textQuarterTokens := 0 }

/-- `count`: one more frame with text. -/
def OutputTally.count (tally : OutputTally) (text : List Char) : OutputTally :=
  if text = [] then tally
  else
    { textFrames := tally.textFrames + 1
      textQuarterTokens := tally.textQuarterTokens + quarterTokens text }

def OutputTally.outputTokens (tally : OutputTally) : Nat :=
  max tally.textFrames
    ((tally.textQuarterTokens + (observedOutputAsciiCharsPerToken - 1)) /
      observedOutputAsciiCharsPerToken)

def observeChatChunk (tally : OutputTally) (chunk : Json) : OutputTally :=
  match chunk.member? "choices" with
  | some (.array choices) =>
    (choices.filter Json.isRecord).foldl
      (fun tally choice => tally.count
        (chatChoiceText (choice.member? "delta") ++ chatChoiceText (choice.member? "message")))
      tally
  | _ => tally

def trimStart (text : List Char) : List Char := text.dropWhile isSpace

def trimSpace (text : List Char) : List Char :=
  (trimStart (trimStart text).reverse).reverse

/-- The lines of a frame: `frame.split(/\r?\n/)`. -/
def frameLines (frame : List Char) : List (List Char) := (lineEnd.split frame).all

/-- What a `data:` line carries. -/
def lineData (line : List Char) : Option (List Char) :=
  if "data:".toList.isPrefixOf (trimSpace line) then
    let data := trimSpace ((trimSpace line).drop 5)
    if data = [] ∨ data = "[DONE]".toList then none else some data
  else none

def frameValues (parse : List Char → Option Json) (frame : List Char) : List Json :=
  ((frameLines frame).filterMap lineData).filterMap parse

def isTruthy : Json → Bool
  | .null => false
  | .bool value => value
  | .number value _ => value != 0
  | .string text => text != ""
  | .array _ => true
  | .object _ => true

def chunkUsage (chunk : Json) : Option Json :=
  (chunk.member? "usage").filter isTruthy

/-- `observeChatSseFrame`: the output counted, and the usage block of the frame. -/
def observeChatSseFrame (parse : List Char → Option Json) (tally : OutputTally)
    (frame : List Char) : OutputTally × Option Json :=
  (frameValues parse frame).foldl
    (fun seen value => (observeChatChunk seen.1 value, (chunkUsage value).or seen.2))
    (tally, none)

end Hivra.Venice
