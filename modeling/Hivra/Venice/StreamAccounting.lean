import Mathlib.Data.Rat.Floor
import Hivra.Venice.OutputMeter

/-!
# What the Worker keeps of a stream

`streamToBox`: the usage block, the observed output and the surcharge evidence of a stream, read
frame by frame as it arrives.
-/

namespace Hivra.Venice

open Hivra.Library
open Hivra.Library.Json

structure StreamEvidence where
  veniceCostMicroUsd : Option Int
  webSearchCitations : Option Nat

def noStreamEvidence : StreamEvidence :=
  { veniceCostMicroUsd := none, webSearchCitations := none }

/-- `cost[key] ?? 0`, where it is a number that is not negative. -/
def costPart (key : String) (cost : Json) : Option Rat :=
  match cost.member? key with
  | none => some 0
  | some .null => some 0
  | some value => value.number?.filter fun amount => decide (0 ≤ amount)

def readSurchargeEvidence (payload : Json) : StreamEvidence :=
  let cost := (payload.member? "cost").filter fun cost =>
    (cost.member? "usd").isSome || (cost.member? "diem").isSome
  let citations := (payload.member? "venice_parameters").bind (Json.member? "web_search_citations")
  { veniceCostMicroUsd := cost.bind fun cost =>
      match costPart "usd" cost, costPart "diem" cost with
      | some usd, some diem => some ⌊(usd + diem) * 1000000 + 1 / 2⌋
      | _, _ => none
    webSearchCitations :=
      match citations with
      | some (.array citations) => some citations.length
      | _ => none }

def mergeSurchargeEvidence (seen next : StreamEvidence) : StreamEvidence :=
  { veniceCostMicroUsd := next.veniceCostMicroUsd.or seen.veniceCostMicroUsd
    webSearchCitations :=
      if seen.webSearchCitations = none ∧ next.webSearchCitations = none then none
      else some (max (seen.webSearchCitations.getD 0) (next.webSearchCitations.getD 0)) }

def readSurchargeEvidenceFromSseFrame (parse : List Char → Option Json) (frame : List Char) :
    StreamEvidence :=
  if contains (quoteMark :: "cost".toList ++ [quoteMark]) frame ∨
      contains "web_search_citations".toList frame then
    (frameValues parse frame).foldl
      (fun seen value => mergeSurchargeEvidence seen (readSurchargeEvidence value))
      noStreamEvidence
  else noStreamEvidence

structure StreamAccount where
  finalUsage : Option Json
  meter : OutputTally
  surchargeEvidence : StreamEvidence

def freshAccount : StreamAccount :=
  { finalUsage := none, meter := noOutput, surchargeEvidence := noStreamEvidence }

def observeFrame (parse : List Char → Option Json) (account : StreamAccount)
    (frame : List Char) : StreamAccount :=
  let seen := observeChatSseFrame parse account.meter frame
  { finalUsage := seen.2.or account.finalUsage
    meter := seen.1
    surchargeEvidence := mergeSurchargeEvidence account.surchargeEvidence
      (readSurchargeEvidenceFromSseFrame parse frame) }

/-- `observe`, on the buffer and what is kept. -/
def observe (parse : List Char → Option Json) (state : List Char × StreamAccount)
    (text : List Char) (flush : Bool) : List Char × StreamAccount :=
  let pieces := blankLine.split (state.1 ++ text)
  if flush then ([], pieces.all.foldl (observeFrame parse) state.2)
  else (pieces.2, pieces.frames.foldl (observeFrame parse) state.2)

def observeStream (parse : List Char → Option Json) (chunks : List (List Char)) : StreamAccount :=
  let read := chunks.foldl (fun state chunk => observe parse state chunk false)
    ([], freshAccount)
  (observe parse read [] true).2

/-- However the stream was cut, each frame of the whole text is observed once, the last one
with or without a separator behind it; the frames and the separators are the text. -/
theorem stream_account_of_whole_text (parse : List Char → Option Json) (chunks : List (List Char)) :
    observeStream parse chunks =
        (blankLine.split chunks.flatten).all.foldl (observeFrame parse) freshAccount ∧
      (blankLine.split chunks.flatten).joined = chunks.flatten := by
  constructor
  · have parts := blankLine.feed_parts (observeFrame parse) chunks ([], freshAccount)
      blankLine.split_nil
    have same : (fun state chunk => observe parse state chunk false) =
        blankLine.feed (observeFrame parse) := by
      funext state chunk
      rfl
    simp only [observeStream, same, parts, Separator.feed, List.nil_append]
    simp only [observe, if_true, List.append_nil, blankLine.split_rest, Separator.Pieces.all,
      List.foldl_append]
    rfl
  · exact blankLine.split_joined chunks.flatten

end Hivra.Venice
