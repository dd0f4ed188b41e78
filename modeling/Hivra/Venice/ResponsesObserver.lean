import Hivra.Venice.Pricing
import Hivra.Venice.ResponsesMeter

/-!
# The observer of a Responses stream

`responsesUsageObserver`: a stream is fed in chunks and its events are read frame by frame.  What
is longer than the limit is refused, a finished frame as well as the unfinished rest, which may
hold the beginning of a separator.
-/

namespace Hivra.Venice

open Hivra.Library
open Hivra.Library.Json

def responsesMaxRequestBytes : Nat := 1024 * 1024

structure ObserverState where
  meter : ResponsesMeter
  terminal : Option (String × Json)
  responseId : Option String

def freshObserver : ObserverState :=
  { meter := freshMeter, terminal := none, responseId := none }

/-- The `data:` lines of a frame, joined. -/
def frameData (text : List Char) : List Char :=
  ['\n'].intercalate
    (((frameLines text).filter ("data:".toList.isPrefixOf ·)).map fun line =>
      trimStart (line.drop 5))

/-- `responseTerminal`; the outer `none` is a refusal. -/
def responseTerminal (value : Option Json) : Option (Option (String × Json)) :=
  match value.filter Json.isRecord with
  | none => some none
  | some value =>
    if ! ["completed", "incomplete", "failed"].contains (memberText "status" value) then some none
    else
      match stringMember "id" value, value.member? "usage" with
      | some id, some usage =>
        if id = "" ∨ 256 < utf16Length id.toList then none
        else (responsesUsageTokens usage).toOption.map fun _ => some (id, usage)
      | _, _ => none

def terminalText (terminal : String × Json) : List Char :=
  stringify (.object [("id", .string terminal.1), ("usage", terminal.2)])

def ObserverState.noteResponse (state : ObserverState) (event : Json) : Option ObserverState :=
  match (event.member? "response").bind (stringMember "id") with
  | some id =>
    if state.responseId.any fun held => held != "" && held != id then none
    else some { state with responseId := some id }
  | none => some state

/-- `frame`: one frame is read, or refused. -/
def responsesFrame (parse : List Char → Option Json) (state : ObserverState) (text : List Char) :
    Option ObserverState :=
  let data := frameData text
  if data = [] ∨ data = "[DONE]".toList then some state
  else
    match (parse data).filter Json.isRecord with
    | none => none
    | some event =>
      ({ state with meter := observeResponsesEvent state.meter event }.noteResponse event).bind
        fun state =>
          if ["response.completed", "response.incomplete", "response.failed"].contains
              (memberText "type" event) then
            match responseTerminal (event.member? "response") with
            | some (some next) =>
              if state.terminal.any fun held => terminalText held != terminalText next then none
              else some { state with terminal := some next }
            | _ => none
          else some state

section Feeding

variable {σ : Type} (frame : σ → List Char → Option σ)

def checkedFrame (state : σ) (text : List Char) : Option σ :=
  if responsesMaxRequestBytes < utf16Length text then none else frame state text

/-- `feed`, on the buffer and what was observed. -/
def feedResponses (state : List Char × σ) (chunk : List Char) : Option (List Char × σ) :=
  let pieces := blankLine.split (state.1 ++ chunk)
  (pieces.frames.foldlM (checkedFrame frame) state.2).bind fun observed =>
    if responsesMaxRequestBytes < utf16Length pieces.2 then none else some (pieces.2, observed)

/-- `feed()` at the end of the stream. -/
def endResponses (state : List Char × σ) : Option σ :=
  (feedResponses frame state []).bind fun left =>
    if left.1 = [] then some left.2 else frame left.2 left.1

def observeChunks (fresh : σ) (chunks : List (List Char)) : Option σ :=
  (chunks.foldlM (feedResponses frame) ([], fresh)).bind (endResponses frame)

def Waits (buffer : List Char) : List (List Char) → Prop
  | [] => True
  | chunk :: chunks =>
    utf16Length (blankLine.split (buffer ++ chunk)).2 ≤ responsesMaxRequestBytes ∧
      Waits (blankLine.split (buffer ++ chunk)).2 chunks

theorem feed_waiting {state : List Char × σ} {chunk : List Char}
    (short : utf16Length (blankLine.split (state.1 ++ chunk)).2 ≤ responsesMaxRequestBytes) :
    feedResponses frame state chunk =
      ((blankLine.split (state.1 ++ chunk)).frames.foldlM (checkedFrame frame) state.2).map
        fun observed => ((blankLine.split (state.1 ++ chunk)).2, observed) := by
  unfold feedResponses
  simp only [if_neg (Nat.not_lt_of_le short), Option.map_eq_bind]
  rfl

theorem feed_too_long {state : List Char × σ} {chunk : List Char}
    (long : ¬ utf16Length (blankLine.split (state.1 ++ chunk)).2 ≤ responsesMaxRequestBytes) :
    feedResponses frame state chunk = none := by
  unfold feedResponses
  simp only [if_pos (Nat.lt_of_not_le long), Option.bind_fun_none]

theorem feed_chunks (chunks : List (List Char)) (state : List Char × σ)
    (unmarked : blankLine.split state.1 = ([], state.1)) :
    (Waits state.1 chunks → chunks.foldlM (feedResponses frame) state =
      ((blankLine.split (state.1 ++ chunks.flatten)).frames.foldlM (checkedFrame frame)
        state.2).map fun observed => ((blankLine.split (state.1 ++ chunks.flatten)).2, observed)) ∧
    (¬ Waits state.1 chunks → chunks.foldlM (feedResponses frame) state = none) := by
  induction chunks generalizing state with
  | nil => simp [Waits, unmarked, Separator.Pieces.frames]
  | cons chunk chunks ih =>
    have left (observed : σ) := ih ((blankLine.split (state.1 ++ chunk)).2, observed)
      (blankLine.split_rest (state.1 ++ chunk))
    rw [List.foldlM_cons, List.flatten_cons, ← List.append_assoc,
      blankLine.split_append (state.1 ++ chunk) chunks.flatten]
    by_cases short : utf16Length (blankLine.split (state.1 ++ chunk)).2 ≤ responsesMaxRequestBytes
    · rw [feed_waiting frame short]
      simp only [Waits, short, true_and, Separator.Pieces.frames, List.map_append,
        List.foldlM_append]
      cases (List.map Prod.fst (blankLine.split (state.1 ++ chunk)).1).foldlM (checkedFrame frame)
        state.2 with
      | none => simp
      | some observed => simpa [Separator.Pieces.frames] using left observed
    · rw [feed_too_long frame short]
      simp [Waits, short]

def readPieces (fresh : σ) (text : List Char) : Option σ :=
  ((blankLine.split text).frames.foldlM (checkedFrame frame) fresh).bind fun observed =>
    if responsesMaxRequestBytes < utf16Length (blankLine.split text).2 then none
    else if (blankLine.split text).2 = [] then some observed
    else frame observed (blankLine.split text).2

theorem observe_chunks (fresh : σ) (chunks : List (List Char)) :
    (Waits [] chunks → observeChunks frame fresh chunks = readPieces frame fresh chunks.flatten) ∧
    (¬ Waits [] chunks → observeChunks frame fresh chunks = none) := by
  have ⟨read, refused⟩ := feed_chunks frame chunks ([], fresh) blankLine.split_nil
  unfold observeChunks
  constructor
  · intro waits
    rw [read waits, List.nil_append, readPieces]
    cases (blankLine.split chunks.flatten).frames.foldlM (checkedFrame frame) fresh with
    | none => rfl
    | some observed =>
      simp only [Option.map_some, Option.bind_some, endResponses, feedResponses, List.append_nil,
        blankLine.split_rest, Separator.Pieces.frames, List.map_nil, List.foldlM_nil]
      by_cases long : responsesMaxRequestBytes < utf16Length (blankLine.split chunks.flatten).2
      · simp [long]
      · simp [long]
  · intro long
    rw [refused long]
    rfl

theorem checked_frames (frames : List (List Char)) (state : σ) :
    frames.foldlM (checkedFrame frame) state =
      if ∃ text ∈ frames, responsesMaxRequestBytes < utf16Length text then none
      else frames.foldlM frame state := by
  induction frames generalizing state with
  | nil => simp
  | cons text frames ih =>
    rw [List.foldlM_cons, List.foldlM_cons, checkedFrame]
    by_cases long : responsesMaxRequestBytes < utf16Length text
    · simp [long]
    · simp only [long, if_false, List.mem_cons, exists_eq_or_imp, false_or]
      cases frame state text with
      | none => simp
      | some next => simpa using ih next

theorem pieces_refused_iff (empty : ∀ state, frame state [] = some state) (fresh : σ)
    (text : List Char) : readPieces frame fresh text = none ↔
      (∃ piece ∈ (blankLine.split text).all, responsesMaxRequestBytes < utf16Length piece) ∨
        (blankLine.split text).all.foldlM frame fresh = none := by
  simp only [readPieces, checked_frames, Separator.Pieces.all, List.foldlM_append,
    List.mem_append, List.mem_singleton, or_and_right, exists_or, exists_eq_left]
  by_cases frames : ∃ piece ∈ (blankLine.split text).frames,
      responsesMaxRequestBytes < utf16Length piece
  · simp [frames]
  · by_cases last : responsesMaxRequestBytes < utf16Length (blankLine.split text).2
    · simp [last]
    · simp only [frames, last, if_false, false_or, List.foldlM_cons, List.foldlM_nil]
      cases (blankLine.split text).frames.foldlM frame fresh with
      | none => simp
      | some observed =>
        by_cases none : (blankLine.split text).2 = []
        · simp [none, empty]
        · simp [none]

theorem utf16_length_beginning {before text : List Char} (starts : before <+: text) :
    utf16Length before ≤ utf16Length text := by
  have ⟨more, same⟩ := starts
  rw [← same]
  simp [utf16Length]

theorem waits_of_short (chunks : List (List Char)) (buffer : List Char)
    (short : ∀ before, before <+: chunks.flatten →
      utf16Length (blankLine.split (buffer ++ before)).2 ≤ responsesMaxRequestBytes) :
    Waits buffer chunks := by
  induction chunks generalizing buffer with
  | nil => trivial
  | cons chunk chunks ih =>
    rw [List.flatten_cons] at short
    constructor
    · exact short chunk (List.prefix_append chunk _)
    · apply ih
      intro before starts
      have later := short (chunk ++ before) ((List.prefix_append_right_inj chunk).mpr starts)
      rw [← List.append_assoc, blankLine.split_append] at later
      exact later

theorem beginnings_short {text : List Char}
    (last : utf16Length (blankLine.split text).2 ≤ responsesMaxRequestBytes)
    (fits : ∀ piece ∈ (blankLine.split text).1,
      utf16Length (piece.1 ++ piece.2.dropLast) ≤ responsesMaxRequestBytes) (before : List Char)
    (starts : before <+: text) :
    utf16Length (blankLine.split before).2 ≤ responsesMaxRequestBytes := by
  rcases blankLine.rest_of_beginning starts with ⟨piece, member, inside⟩ | inside
  · exact (utf16_length_beginning inside).trans (fits piece member)
  · exact (utf16_length_beginning inside).trans last

end Feeding

theorem responses_frame_empty (parse : List Char → Option Json) (state : ObserverState) :
    responsesFrame parse state [] = some state := by
  have nothing : frameData [] = [] := by
    simp [frameData, frameLines, Separator.Pieces.all, Separator.Pieces.frames]
  simp [responsesFrame, nothing]

/-- `usage()` and `outputTokens()` in the end, unless a chunk was refused. -/
def streamOutcome (parse : List Char → Option Json) (chunks : List (List Char)) :
    Option (Option Json × Nat) :=
  (observeChunks (responsesFrame parse) freshObserver chunks).map fun state =>
    (state.terminal.map Prod.snd, state.meter.tally.outputTokens)

/-- All cuts of a stream come out alike exactly if it is refused in itself, or each of its
frames is within the limit together with its separator up to the last character. -/
theorem cuts_agree_iff (parse : List Char → Option Json) (text : List Char) :
    (∀ chunks others : List (List Char), chunks.flatten = text → others.flatten = text →
      streamOutcome parse chunks = streamOutcome parse others) ↔
    (∃ piece ∈ (blankLine.split text).all, responsesMaxRequestBytes < utf16Length piece) ∨
      (blankLine.split text).all.foldlM (responsesFrame parse) freshObserver = none ∨
      ∀ piece ∈ (blankLine.split text).1,
        utf16Length (piece.1 ++ piece.2.dropLast) ≤ responsesMaxRequestBytes := by
  have refused := pieces_refused_iff (responsesFrame parse) (responses_frame_empty parse)
    freshObserver text
  rw [← or_assoc, ← refused]
  have observed := observe_chunks (responsesFrame parse) freshObserver
  have lastShort (accepted : readPieces (responsesFrame parse) freshObserver text ≠ none) :
      utf16Length (blankLine.split text).2 ≤ responsesMaxRequestBytes := by
    apply Nat.le_of_not_lt
    intro long
    have isPiece : (blankLine.split text).2 ∈ (blankLine.split text).all := by
      simp [Separator.Pieces.all]
    exact accepted (refused.mpr (.inl ⟨_, isPiece, long⟩))
  constructor
  · intro agree
    by_contra neither
    have ⟨accepted, unfit⟩ := not_or.mp neither
    push Not at unfit
    have ⟨piece, member, long⟩ := unfit
    have ⟨before, more, same, left⟩ := blankLine.rest_inside_mark member
    -- the cut inside the separator is refused, the text in one piece is not
    have cut : streamOutcome parse [before, more] = none := by
      have stuck : ¬ Waits [] [before, more] := by
        intro waits
        have short := waits.1
        rw [List.nil_append, left] at short
        omega
      rw [streamOutcome, (observed [before, more]).2 stuck]
      rfl
    have whole : streamOutcome parse [text] ≠ none := by
      have waits : Waits [] [text] := ⟨by simpa using lastShort accepted, trivial⟩
      have read := (observed [text]).1 waits
      rw [List.flatten_singleton] at read
      rw [streamOutcome, read]
      simpa using accepted
    apply whole
    rw [← cut]
    apply agree
    · simp
    · simp [same]
  · intro either chunks others isText alsoText
    have same (chunks : List (List Char)) (isText : chunks.flatten = text) :
        observeChunks (responsesFrame parse) freshObserver chunks =
          readPieces (responsesFrame parse) freshObserver text := by
      by_cases accepted : readPieces (responsesFrame parse) freshObserver text = none
      · by_cases waits : Waits [] chunks
        · rw [(observed chunks).1 waits, isText]
        · rw [(observed chunks).2 waits, accepted]
      · have fits := either.resolve_left accepted
        have waits : Waits [] chunks := by
          apply waits_of_short
          rw [isText]
          intro before starts
          exact beginnings_short (lastShort accepted) fits before starts
        rw [(observed chunks).1 waits, isText]
    rw [streamOutcome, streamOutcome, same chunks isText, same others alsoText]

def colons : List Char := List.replicate responsesMaxRequestBytes ':'

theorem split_colons (length : Nat) : blankLine.split (List.replicate length ':' ++ ['\n', '\n']) =
      ([(List.replicate length ':', ['\n', '\n'])], []) := by
  induction length with
  | zero =>
    have found : blankLine.cut ['\n', '\n'] = some (['\n', '\n'], []) := by decide
    simpa using blankLine.split_cut found
  | succ length ih =>
    rw [List.replicate_succ, List.cons_append, blankLine.split_cons rfl, ih]
    rfl

theorem split_colons_line (length : Nat) : blankLine.split (List.replicate length ':' ++ ['\n']) =
      ([], List.replicate length ':' ++ ['\n']) := by
  induction length with
  | zero =>
    rw [List.replicate_zero, List.nil_append, blankLine.split_cons (by decide),
      blankLine.split_nil]
    rfl
  | succ length ih =>
    rw [List.replicate_succ, List.cons_append, blankLine.split_cons rfl, ih]
    rfl

theorem line_of_colons (length : Nat) :
    lineEnd.split (List.replicate length ':') = ([], List.replicate length ':') := by
  induction length with
  | zero => exact lineEnd.split_nil
  | succ length ih =>
    rw [List.replicate_succ, lineEnd.split_cons rfl, ih]
    rfl

theorem data_of_colons (length : Nat) : frameData (List.replicate length ':') = [] := by
  have others : ("data:".toList.isPrefixOf (List.replicate length ':')) = false := by
    cases length with
    | zero => rfl
    | succ length => rfl
  simp only [frameData, frameLines, line_of_colons, Separator.Pieces.all,
    Separator.Pieces.frames, List.map_nil, List.nil_append, List.filter_cons, others,
    Bool.false_eq_true, if_false, List.filter_nil]
  rfl

theorem colons_read (parse : List Char → Option Json) (state : ObserverState) (length : Nat) :
    responsesFrame parse state (List.replicate length ':') = some state := by
  simp only [responsesFrame, data_of_colons, true_or, if_true]

theorem colons_length (length : Nat) : utf16Length (List.replicate length ':') = length := by
  have one : utf16Units ':' = 1 := rfl
  simp [utf16Length, one]

theorem comment_taken {length : Nat} (short : ¬ responsesMaxRequestBytes < length) :
    readPieces (responsesFrame fun _ => none) freshObserver
      (List.replicate length ':' ++ ['\n', '\n']) = some freshObserver := by
  have nothing : ¬ responsesMaxRequestBytes < utf16Length [] := Nat.not_lt_zero _
  rw [readPieces, split_colons]
  simp only [Separator.Pieces.frames, List.map_cons, List.map_nil, List.foldlM_cons,
    List.foldlM_nil, checkedFrame, colons_length, short, if_false, colons_read, nothing, if_true]
  rfl

theorem line_of_comment_long {length : Nat} (full : responsesMaxRequestBytes ≤ length)
    (more : List (List Char)) : ¬ Waits [] ((List.replicate length ':' ++ ['\n']) :: more) := by
  intro waits
  have short := waits.1
  have alone := colons_length length
  have last : utf16Units '\n' = 1 := rfl
  rw [List.nil_append, split_colons_line] at short
  simp only [utf16Length, List.map_append, List.sum_append, List.map_cons, List.map_nil,
    List.sum_cons, List.sum_nil, last] at alone short
  omega

/-- The comment in one chunk is taken, cut inside the blank line it is refused. -/
theorem comment_cut_refused : streamOutcome (fun _ => none) [colons ++ ['\n', '\n']] ≠ none ∧
      streamOutcome (fun _ => none) [colons ++ ['\n'], ['\n']] = none := by
  have observed := observe_chunks (responsesFrame fun _ => none) freshObserver
  constructor
  · have waits : Waits [] [colons ++ ['\n', '\n']] := by
      apply And.intro _ trivial
      rw [List.nil_append, colons, split_colons]
      exact Nat.zero_le _
    have read := (observed _).1 waits
    rw [List.flatten_singleton, colons, comment_taken (Nat.lt_irrefl _)] at read
    rw [streamOutcome, colons, read]
    exact Option.some_ne_none _
  · rw [streamOutcome, colons, (observed _).2 (line_of_comment_long (Nat.le_refl _) _)]
    rfl

end Hivra.Venice
