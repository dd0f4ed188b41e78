import Mathlib.Data.List.Infix
import Hivra.Library.Frames
import Hivra.Library.Json

/-!
# The event reader of a hosted session

The reader takes a stream line by line and yields an event at each blank line.  A chunk may end
inside a line; the buffer then keeps what has come of it, unless that is too long.
-/

namespace Hivra.ManagedAgents

open Hivra.Library

abbrev Text : Type := List Char

/-- `\n`. -/
def lineFeed : Separator Char where
  marks := [['\n']]
  nonempty := by decide
  clear := by decide

def sseFrameMaxBytes : Nat := 256 * 1024

structure ServerSentEvent where
  id : Option Text
  event : Option Text
  data : Text

/-- The variables of the reader but for its buffer, and what it has yielded. -/
structure SseReader where
  dataLines : List Text
  eventName : Option Text
  lastId : Option Text
  frameBytes : Nat
  yielded : List ServerSentEvent

def startReader : SseReader :=
  { dataLines := [], eventName := none, lastId := none, frameBytes := 0, yielded := [] }

/-- `lines.join("\n")`. -/
def joinLines : List Text → Text
  | [] => []
  | [line] => line
  | line :: lines => line ++ '\n' :: joinLines lines

def fieldOf (line : Text) : Text := line.takeWhile (· ≠ ':')

def fieldValue (line : Text) : Text :=
  match (line.dropWhile (· ≠ ':')).drop 1 with
  | ' ' :: value => value
  | value => value

def SseReader.yieldFrame (reader : SseReader) : SseReader :=
  if reader.dataLines = [] then reader
  else
    { reader with
      yielded := reader.yielded ++
        [{ id := reader.lastId, event := reader.eventName, data := joinLines reader.dataLines }] }

def isComment (line : Text) : Bool := line.head? == some ':'

def SseReader.takeField (reader : SseReader) (field value : Text) : SseReader :=
  if field = "data".toList then
    let frameBytes := reader.frameBytes + utf16Length value
    if sseFrameMaxBytes < frameBytes then { reader with frameBytes, dataLines := [] }
    else { reader with frameBytes, dataLines := reader.dataLines ++ [value] }
  else if field = "event".toList then { reader with eventName := some value }
  else if field = "id".toList ∧ Char.ofNat 0 ∉ value then { reader with lastId := some value }
  else reader

/-- A line without its end. -/
def SseReader.takeLine (reader : SseReader) (line : Text) : SseReader :=
  if line = [] then
    { reader.yieldFrame with dataLines := [], eventName := none, frameBytes := 0 }
  else if isComment line = true then reader
  else reader.takeField (fieldOf line) (fieldValue line)

def withoutReturn (line : Text) : Text :=
  if line.getLast? = some '\r' then line.dropLast else line

def SseReader.takeRaw (reader : SseReader) (line : Text) : SseReader :=
  reader.takeLine (withoutReturn line)

/-- The whole lines of the buffer are taken, and the rest of it is kept if it is not too long. -/
def readChunk (state : Text × SseReader) (chunk : Text) : Text × SseReader :=
  let (buffer, reader) := lineFeed.feed SseReader.takeRaw state chunk
  (if sseFrameMaxBytes < utf16Length buffer then [] else buffer, reader)

/-- The end of the stream, with what the decoder still gives: a last line may have no end. -/
def readEnd (state : Text × SseReader) (flushed : Text) : List ServerSentEvent :=
  let buffer := state.1 ++ flushed
  let ended := if buffer ≠ [] ∧ buffer.getLast? ≠ some '\n' then buffer ++ ['\n'] else buffer
  (lineFeed.feed SseReader.takeRaw ([], state.2) ended).2.yieldFrame.yielded

def readServerSentEvents (chunks : List Text) (flushed : Text) : List ServerSentEvent :=
  readEnd (chunks.foldl readChunk ([], startReader)) flushed

def linesOf (text : Text) : List Text :=
  let pieces := lineFeed.split text
  (pieces.frames ++ if pieces.2 = [] then [] else [pieces.2]).map withoutReturn

/-- A blank line ends a frame; the last one ends with the text. -/
def framesOf : List Text → List (List Text)
  | [] => [[]]
  | line :: lines =>
    if line = [] then [] :: framesOf lines
    else
      match framesOf lines with
      | [] => [[line]]
      | frame :: frames => (line :: frame) :: frames

def lineValue? (field : String) (line : Text) : Option Text :=
  if isComment line = false ∧ fieldOf line = field.toList then some (fieldValue line) else none

def lineId? (line : Text) : Option Text :=
  (lineValue? "id" line).filter fun value => decide (Char.ofNat 0 ∉ value)

def valuesOf (field : String) (frame : List Text) : List Text :=
  frame.filterMap (lineValue? field)

/-- The characters of a frame's data values together. -/
def frameSize (frame : List Text) : Nat := ((valuesOf "data" frame).map utf16Length).sum

/-- A frame within the limit is yielded whole, if it has data. -/
def frameEvent (id : Option Text) (frame : List Text) : Option ServerSentEvent :=
  if valuesOf "data" frame = [] ∨ sseFrameMaxBytes < frameSize frame then none
  else
    some
      { id
        event := (valuesOf "event" frame).getLast?
        data := joinLines (valuesOf "data" frame) }

def latestId (before : Option Text) (frame : List Text) : Option Text :=
  (frame.filterMap lineId?).getLast?.or before

def frameEvents (before : Option Text) : List (List Text) → List ServerSentEvent
  | [] => []
  | frame :: frames =>
    (frameEvent (latestId before frame) frame).toList ++ frameEvents (latestId before frame) frames

def eventsOf (text : Text) : List ServerSentEvent := frameEvents none (framesOf (linesOf text))

/-- What the reader holds of a frame it is in. -/
structure Reading (before : Option Text) (frame : List Text) (reader : SseReader) : Prop where
  lines : ∀ line ∈ frame, line ≠ []
  size : reader.frameBytes = frameSize frame
  dataLines : reader.dataLines =
    if sseFrameMaxBytes < frameSize frame then [] else valuesOf "data" frame
  eventName : reader.eventName = (valuesOf "event" frame).getLast?
  lastId : reader.lastId = latestId before frame

variable {before : Option Text} {frame : List Text} {reader : SseReader}

/-- What a line that is not blank changes. -/
theorem take_line {line : Text} (some_ : line ≠ []) :
    reader.takeLine line =
      { dataLines :=
          match lineValue? "data" line with
          | none => reader.dataLines
          | some value =>
            if sseFrameMaxBytes < reader.frameBytes + utf16Length value then []
            else reader.dataLines ++ [value]
        eventName := (lineValue? "event" line).or reader.eventName
        lastId := (lineId? line).or reader.lastId
        frameBytes := reader.frameBytes + ((lineValue? "data" line).map utf16Length).getD 0
        yielded := reader.yielded } := by
  unfold SseReader.takeLine SseReader.takeField lineId? lineValue?
  generalize fieldOf line = field
  generalize fieldValue line = value
  rw [if_neg some_]
  cases comment : isComment line with
  | true => rfl
  | false =>
    by_cases isData : field = "data".toList
    · subst isData
      by_cases exceeds : sseFrameMaxBytes < reader.frameBytes + utf16Length value
      · simp [exceeds]
      · simp [exceeds]
    · by_cases isEvent : field = "event".toList
      · subst isEvent
        simp
      · by_cases isId : field = "id".toList
        · subst isId
          by_cases null : Char.ofNat 0 ∈ value
          · simp [null, Option.filter]
          · simp [null, Option.filter]
        · simp only [isData, isEvent, isId, false_and, and_false, if_false]
          rfl

theorem values_append (field : String) (frame : List Text) (line : Text) :
    valuesOf field (frame ++ [line]) = valuesOf field frame ++ (lineValue? field line).toList := by
  unfold valuesOf
  rw [List.filterMap_append]
  cases value : lineValue? field line <;> simp [value]

theorem frame_size_line (frame : List Text) (line : Text) :
    frameSize (frame ++ [line]) =
      frameSize frame + ((lineValue? "data" line).map utf16Length).getD 0 := by
  rw [frameSize, values_append, List.map_append, List.sum_append]
  cases lineValue? "data" line <;> simp [frameSize]

theorem yield_reading (reading : Reading before frame reader) :
    reader.yieldFrame.yielded =
      reader.yielded ++ (frameEvent (latestId before frame) frame).toList := by
  unfold SseReader.yieldFrame frameEvent
  rw [reading.dataLines, reading.eventName, reading.lastId]
  by_cases exceeds : sseFrameMaxBytes < frameSize frame
  · simp [exceeds]
  · by_cases empty : valuesOf "data" frame = []
    · simp [exceeds, empty]
    · simp [exceeds, empty]

/-- A line that is not blank is one more of the frame. -/
theorem reading_line (reading : Reading before frame reader) {line : Text} (some_ : line ≠ []) :
    Reading before (frame ++ [line]) (reader.takeLine line) := by
  rw [take_line some_]
  constructor
  · intro other member
    rcases List.mem_append.mp member with old | new
    · exact reading.lines other old
    · rw [List.mem_singleton.mp new]
      exact some_
  · rw [frame_size_line, reading.size]
  · dsimp only
    rw [frame_size_line, reading.size, reading.dataLines, values_append]
    cases lineValue? "data" line with
    | none => simp
    | some value =>
      by_cases exceeds : sseFrameMaxBytes < frameSize frame + utf16Length value
      · simp [exceeds]
      · have under : ¬sseFrameMaxBytes < frameSize frame := by omega
        simp [exceeds, under]
  · rw [values_append, List.getLast?_append, reading.eventName]
    cases lineValue? "event" line <;> simp
  · rw [latestId, List.filterMap_append, List.getLast?_append, reading.lastId]
    cases value : lineId? line <;> simp [value, latestId]

theorem frames_of_whole (whole : ∀ line ∈ frame, line ≠ []) : framesOf frame = [frame] := by
  induction frame with
  | nil => rfl
  | cons line lines ih =>
    have ⟨first, rest⟩ := List.forall_mem_cons.mp whole
    simp [framesOf, first, ih rest]

theorem frames_of_blank (whole : ∀ line ∈ frame, line ≠ []) (lines : List Text) :
    framesOf (frame ++ [] :: lines) = frame :: framesOf lines := by
  induction frame with
  | nil => simp [framesOf]
  | cons line others ih =>
    have ⟨first, rest⟩ := List.forall_mem_cons.mp whole
    simp [framesOf, first, ih rest]

theorem lines_read (reading : Reading before frame reader) (lines : List Text) :
    (lines.foldl SseReader.takeLine reader).yieldFrame.yielded =
      reader.yielded ++ frameEvents before (framesOf (frame ++ lines)) := by
  induction lines generalizing before frame reader with
  | nil =>
    rw [List.foldl_nil, yield_reading reading, List.append_nil, frames_of_whole reading.lines]
    simp [frameEvents]
  | cons line lines ih =>
    by_cases blank : line = []
    · rw [blank, frames_of_blank reading.lines, frameEvents, List.foldl_cons]
      have ended : Reading (latestId before frame) [] (reader.takeLine []) := by
        constructor
        · simp
        · rfl
        · simp [SseReader.takeLine, valuesOf]
        · rfl
        · have kept : reader.yieldFrame.lastId = reader.lastId := by
            unfold SseReader.yieldFrame
            split <;> rfl
          exact kept.trans reading.lastId
      have yielded := yield_reading reading
      rw [ih ended, ← List.append_assoc, ← yielded]
      rfl
    · have same : (reader.takeLine line).yielded = reader.yielded := by rw [take_line blank]
      rw [List.foldl_cons, ih (reading_line reading blank), same, List.append_assoc]
      rfl

/-- No chunk ends far inside a line. -/
def CutShort (chunks : List Text) : Prop :=
  ∀ early late, chunks = early ++ late →
    utf16Length (lineFeed.split early.flatten).2 ≤ sseFrameMaxBytes

theorem chunks_fed {chunks : List Text} (short : CutShort chunks) :
    chunks.foldl readChunk ([], startReader) =
      lineFeed.feed SseReader.takeRaw ([], startReader) chunks.flatten := by
  have fed := lineFeed.feed_parts SseReader.takeRaw chunks ([], startReader) lineFeed.split_nil
  induction chunks using List.reverseRecOn with
  | nil => exact fed
  | append_singleton chunks chunk ih =>
    have shortBefore : CutShort chunks := by
      intro early late split
      exact short early (late ++ [chunk]) (by rw [split, List.append_assoc])
    have before := lineFeed.feed_parts SseReader.takeRaw chunks ([], startReader) lineFeed.split_nil
    rw [List.foldl_append, before] at fed
    rw [List.foldl_append, ih shortBefore before]
    simp only [List.foldl_cons, List.foldl_nil] at fed ⊢
    have last := short (chunks ++ [chunk]) [] (List.append_nil _).symm
    have kept : ¬ sseFrameMaxBytes <
        utf16Length (lineFeed.feed SseReader.takeRaw ([], startReader)
          (chunks ++ [chunk]).flatten).1 := by
      rw [Separator.feed, List.nil_append]
      exact Nat.not_lt.mpr last
    rw [readChunk, fed]
    dsimp only
    rw [if_neg kept]

theorem split_clear {text : Text} (clear : '\n' ∉ text) : lineFeed.split text = ([], text) := by
  apply lineFeed.split_unmarked
  intro tail ends
  rw [lineFeed.cut_none]
  intro mark isMark starts
  have isFeed : mark = ['\n'] := List.mem_singleton.mp isMark
  have ⟨more, same⟩ := starts
  rw [isFeed] at same
  exact clear (ends.subset (same ▸ List.mem_cons_self))

theorem split_line {line : Text} (clear : '\n' ∉ line) (more : Text) :
    lineFeed.split (line ++ '\n' :: more) =
      ((line, ['\n']) :: (lineFeed.split more).1, (lineFeed.split more).2) := by
  have feed : lineFeed.cut ('\n' :: more) = some (['\n'], more) :=
    lineFeed.cut_iff.mpr ⟨List.mem_singleton.mpr rfl, rfl⟩
  induction line with
  | nil => exact lineFeed.split_cut feed
  | cons char line ih =>
    have ⟨first, rest⟩ := not_or.mp (mt List.mem_cons.mpr clear)
    have none : lineFeed.cut (char :: (line ++ '\n' :: more)) = none := by
      rw [lineFeed.cut_none]
      intro mark isMark starts
      rw [List.mem_singleton.mp isMark] at starts
      exact first (List.cons_prefix_cons.mp starts).1
    rw [List.cons_append, lineFeed.split_cons none, ih rest]
    rfl

theorem rest_clear (text : Text) : '\n' ∉ (lineFeed.split text).2 := by
  induction text using lineFeed.split_induction with
  | nil => simp
  | cut text mark rest found ih =>
    rw [lineFeed.split_cut found]
    exact ih
  | cons char text none ih =>
    have apart : char ≠ '\n' := by
      rintro rfl
      exact lineFeed.cut_none.mp none ['\n'] (List.mem_singleton.mpr rfl) ⟨text, rfl⟩
    rw [lineFeed.split_cons none]
    cases pieces : lineFeed.split text with
    | mk marked rest =>
      rw [pieces] at ih
      cases marked with
      | nil => simpa [Separator.Pieces.prepend, Ne.symm apart] using ih
      | cons first later => exact ih

theorem last_kept (char : Char) {text : Text} (last : text.getLast? = some '\n') :
    (char :: text).getLast? = some '\n' := by
  rw [List.getLast?_cons, last]
  rfl

theorem rest_of_ended (text : Text) :
    (lineFeed.split text).2 = [] ↔ text = [] ∨ text.getLast? = some '\n' := by
  constructor
  · intro empty
    induction text using lineFeed.split_induction with
    | nil => exact .inl rfl
    | cut text mark rest found ih =>
      rw [lineFeed.split_cut found] at empty
      obtain ⟨isMark, same⟩ := lineFeed.cut_iff.mp found
      rw [same, List.mem_singleton.mp isMark]
      rcases ih empty with none | last
      · simp [none]
      · exact .inr (last_kept _ last)
    | cons char text none ih =>
      rw [lineFeed.split_cons none] at empty
      cases pieces : lineFeed.split text with
      | mk marked rest =>
        rw [pieces] at ih empty
        cases marked with
        | nil => simp [Separator.Pieces.prepend] at empty
        | cons first later =>
          rcases ih empty with none | last
          · simp [none] at pieces
          · exact .inr (last_kept _ last)
  · rintro (empty | last)
    · simp [empty]
    · obtain ⟨front, same⟩ := List.getLast?_eq_some_iff.mp last
      rw [same, lineFeed.split_append, split_line (rest_clear front)]
      simp

/-- A line feed at the end makes the rest of a text its last line. -/
theorem ended_frames (buffer : Text) :
    (lineFeed.split (if buffer ≠ [] ∧ buffer.getLast? ≠ some '\n' then buffer ++ ['\n']
      else buffer)).frames =
      (lineFeed.split buffer).frames ++
        if (lineFeed.split buffer).2 = [] then [] else [(lineFeed.split buffer).2] := by
  by_cases open_ : buffer ≠ [] ∧ buffer.getLast? ≠ some '\n'
  · have rest : (lineFeed.split buffer).2 ≠ [] := by
      rw [Ne, rest_of_ended]
      exact not_or.mpr open_
    rw [if_pos open_, if_neg rest, lineFeed.split_append, split_line (rest_clear buffer)]
    simp [Separator.Pieces.frames]
  · have ended := (rest_of_ended buffer).mpr (by
      by_cases empty : buffer = []
      · exact .inl empty
      · exact .inr (by_contra fun other => open_ ⟨empty, other⟩))
    rw [if_neg open_, if_pos ended, List.append_nil]

theorem read_end (text flushed : Text) :
    readEnd (lineFeed.feed SseReader.takeRaw ([], startReader) text) flushed =
      eventsOf (text ++ flushed) := by
  have start : Reading none [] startReader := by
    constructor <;> simp [startReader, frameSize, valuesOf, latestId]
  have raw (lines : List Text) (reader : SseReader) :
      (lines.map withoutReturn).foldl SseReader.takeLine reader =
        lines.foldl SseReader.takeRaw reader := List.foldl_map
  have read := lines_read start (linesOf (text ++ flushed))
  rw [List.nil_append, show startReader.yielded = [] from rfl, List.nil_append, linesOf, raw,
    ← linesOf, ← eventsOf, lineFeed.split_append] at read
  unfold readEnd Separator.feed
  dsimp only
  rw [List.nil_append, List.nil_append, ended_frames, ← read]
  simp [Separator.Pieces.frames]

/-- While no chunk ends far inside a line, the events are those of the text: its frames within the
limit, each whole, however the text is cut. -/
theorem events_of_text {chunks : List Text} (flushed : Text) (short : CutShort chunks) :
    readServerSentEvents chunks flushed = eventsOf (chunks.flatten ++ flushed) := by
  rw [readServerSentEvents, chunks_fed short, read_end]

theorem cut_short_of_short {chunks : List Text}
    (short : utf16Length chunks.flatten ≤ sseFrameMaxBytes) : CutShort chunks := by
  intro early late split
  have joined := lineFeed.split_joined early.flatten
  rw [Separator.Pieces.joined] at joined
  rw [split, List.flatten_append, ← joined] at short
  simp only [utf16Length, List.map_append, List.sum_append] at short ⊢
  omega

theorem log_events :
    readServerSentEvents ["event: log\nda".toList, "ta: hello\n\n".toList] [] =
      eventsOf (["event: log\nda".toList, "ta: hello\n\n".toList].flatten ++ []) := by
  apply events_of_text
  apply cut_short_of_short
  decide

def shortLine : Text := "data: a".toList

def longLine (length : Nat) : Text := "data: ".toList ++ List.replicate length 'x'

def longFrame (length : Nat) : Text := shortLine ++ '\n' :: longLine length

/-- After the first line of the frame. -/
def insideFrame : SseReader := { startReader with dataLines := [['a']], frameBytes := 1 }

theorem short_line_clear : '\n' ∉ shortLine := by
  decide +kernel

theorem long_line_clear (length : Nat) : '\n' ∉ longLine length := by
  have clear : '\n' ∉ "data: ".toList := by decide +kernel
  exact fun isIn => (List.mem_append.mp isIn).elim clear fun isIn =>
    absurd (List.eq_of_mem_replicate isIn) (by decide)

theorem long_value (length : Nat) : utf16Length (List.replicate length 'x') = length := by
  have one : utf16Units 'x' = 1 := rfl
  simp [utf16Length, one]

theorem take_data (reader : SseReader) {value : Text} (plain : value.getLast? ≠ some '\r') :
    reader.takeRaw ("data: ".toList ++ value) = reader.takeField "data".toList value := by
  have clean : withoutReturn ("data: ".toList ++ value) = "data: ".toList ++ value := by
    apply if_neg
    rw [List.getLast?_append]
    cases last : value.getLast? with
    | none => simp
    | some char => simpa [last] using plain
  rw [SseReader.takeRaw, clean]
  simp [SseReader.takeLine, isComment, fieldOf, fieldValue]

theorem short_line_taken : startReader.takeRaw shortLine = insideFrame := by
  have line : shortLine = "data: ".toList ++ ['a'] := by decide +kernel
  have small : ¬sseFrameMaxBytes < 0 + utf16Length ['a'] := by decide
  have plain : ['a'].getLast? ≠ some '\r' := by decide
  rw [line, take_data startReader plain]
  exact (if_pos rfl).trans (if_neg small)

theorem long_line_taken {length : Nat} (long : sseFrameMaxBytes < length) :
    insideFrame.takeRaw (longLine length) =
      { insideFrame with dataLines := [], frameBytes := 1 + length } := by
  have exceeds : sseFrameMaxBytes < 1 + length := by omega
  have plain : (List.replicate length 'x').getLast? ≠ some '\r' := by
    rw [List.getLast?_replicate]
    split <;> simp
  apply (take_data insideFrame plain).trans
  simp [SseReader.takeField, insideFrame, long_value, exceeds]

theorem blank_taken (reader : SseReader) :
    reader.takeRaw [] =
      { reader.yieldFrame with dataLines := [], eventName := none, frameBytes := 0 } := rfl

theorem split_blank (more : Text) : lineFeed.split ('\n' :: more) =
    (([], ['\n']) :: (lineFeed.split more).1, (lineFeed.split more).2) :=
  split_line List.not_mem_nil more

/-- The buffer is dropped, and the frame goes on without the line. -/
theorem long_line_dropped {length : Nat} (long : sseFrameMaxBytes < length) :
    readServerSentEvents [longFrame length, ['\n', '\n']] [] =
      [{ id := none, event := none, data := ['a'] }] := by
  have exceeds : sseFrameMaxBytes < utf16Length (longLine length) := by
    change sseFrameMaxBytes < utf16Length ("data: ".toList ++ List.replicate length 'x')
    rw [utf16Length, List.map_append, List.sum_append, ← utf16Length, ← utf16Length, long_value]
    omega
  have first : readChunk ([], startReader) (longFrame length) = ([], insideFrame) := by
    rw [readChunk, Separator.feed, List.nil_append, longFrame, split_line short_line_clear,
      split_clear (long_line_clear length)]
    simp [Separator.Pieces.frames, short_line_taken, exceeds]
  rw [readServerSentEvents, List.foldl_cons, first, List.foldl_cons, List.foldl_nil, readChunk,
    Separator.feed, List.nil_append, split_blank, split_blank, lineFeed.split_nil]
  simp [readEnd, Separator.feed, Separator.Pieces.frames, utf16Length, blank_taken,
    SseReader.yieldFrame, insideFrame, startReader, joinLines]

theorem long_line_refused {length : Nat} (long : sseFrameMaxBytes < length) :
    readServerSentEvents [longFrame length ++ ['\n', '\n']] [] = [] := by
  rw [readServerSentEvents, List.foldl_cons, List.foldl_nil, readChunk, Separator.feed,
    List.nil_append, longFrame, List.append_assoc, List.cons_append, split_line short_line_clear,
    split_line (long_line_clear length), split_blank, lineFeed.split_nil]
  simp only [Separator.Pieces.frames, List.map_cons, List.map_nil, List.foldl_cons, List.foldl_nil,
    short_line_taken, long_line_taken long, blank_taken]
  simp [readEnd, Separator.feed, Separator.Pieces.frames, utf16Length, SseReader.yieldFrame,
    insideFrame, startReader]

/-- The same text, cut inside a line that is too long and not cut. -/
theorem long_line_cut :
    readServerSentEvents [longFrame 262145, ['\n', '\n']] [] =
        [{ id := none, event := none, data := ['a'] }] ∧
      readServerSentEvents [longFrame 262145 ++ ['\n', '\n']] [] = [] := by
  have long : sseFrameMaxBytes < 262145 := by simp [sseFrameMaxBytes]
  exact ⟨long_line_dropped long, long_line_refused long⟩

end Hivra.ManagedAgents
