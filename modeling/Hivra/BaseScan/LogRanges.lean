import Mathlib.Data.List.Flatten
import Mathlib.Data.List.Range
import Hivra.Library.Json
import Hivra.Library.Texts

/-!
# Reading logs in block ranges

`getLogsInBlockChunks`: the range is read in chunks of at most 2,000 blocks, and a range the
provider refuses for the size of its result is read in two halves, down to a single block.
The provider answers each request as it likes, and may look at the requests made before it.
The logs of a chunk are the arguments of one `push`: how many a call may have is up to the
runtime, about 125,000, and is a parameter.
-/

namespace Hivra.BaseScan

open Hivra.Library

def maxBaseRpcLogRangeBlocks : Nat := 2000

/-- A thrown value: the message of an `Error`, or a value that is not one. -/
inductive Thrown
  | error (message : String)
  | other

/-- How one `eth_getLogs` request ends. -/
inductive LogAnswer (Log : Type)
  | logs (rows : List Log)
  | notArray
  | thrown (error : Thrown)

structure LogRequest (Log : Type) where
  fromBlock : Nat
  toBlock : Nat
  answer : LogAnswer Log

abbrev BaseRpcCall (Log : Type) := List (LogRequest Log) → Nat → Nat → LogAnswer Log

/-- `/more than \d+ results/`. -/
def countsResults (text : List Char) : Bool :=
  text.tails.any fun rest =>
    "more than ".toList.isPrefixOf rest &&
      !((rest.drop 10).takeWhile Char.isDigit).isEmpty &&
      " results".toList.isPrefixOf ((rest.drop 10).dropWhile Char.isDigit)

def oversizedPhrases : List String :=
  ["too many results", "query returned more than", "response size", "result window",
    "log response size exceeded", "-32005"]

def isOversizedLogResult : Thrown → Bool
  | .error message =>
    countsResults (message.toList.map Char.toLower) ||
      oversizedPhrases.any fun phrase =>
        contains phrase.toList (message.toList.map Char.toLower)
  | .other => false

def invalidResult : Thrown := .error "Invalid eth_getLogs result from Base RPC"

/-- The `RangeError` of a call with too many arguments. -/
def tooManyArguments : Thrown := .error "Maximum call stack size exceeded"

variable {Log : Type}

abbrev LogScan (Log : Type) := List (LogRequest Log) × Except Thrown (List Log)

def fetchRange (call : BaseRpcCall Log) (made : List (LogRequest Log)) (first last : Nat) :
    LogScan Log :=
  let asked := made ++ [⟨first, last, call made first last⟩]
  match call made first last with
  | .logs rows => (asked, .ok rows)
  | .notArray => (asked, .error invalidResult)
  | .thrown error =>
    if first < last ∧ isOversizedLogResult error = true then
      let mid := first + (last - first) / 2
      match fetchRange call asked first mid with
      | (made, .error error) => (made, .error error)
      | (made, .ok lower) =>
        match fetchRange call made (mid + 1) last with
        | (made, .error error) => (made, .error error)
        | (made, .ok upper) => (made, .ok (lower ++ upper))
    else (asked, .error error)
termination_by last - first

/-- The loop over the chunks from `chunkStart`. -/
def fetchChunks (argumentLimit : Nat) (call : BaseRpcCall Log) (toBlock : Nat)
    (made : List (LogRequest Log)) (logs : List Log) (chunkStart : Nat) : LogScan Log :=
  if chunkStart ≤ toBlock then
    let chunkEnd := min toBlock (chunkStart + maxBaseRpcLogRangeBlocks - 1)
    match fetchRange call made chunkStart chunkEnd with
    | (made, .error error) => (made, .error error)
    | (made, .ok chunkLogs) =>
      if chunkLogs.length ≤ argumentLimit then
        fetchChunks argumentLimit call toBlock made (logs ++ chunkLogs)
          (chunkStart + maxBaseRpcLogRangeBlocks)
      else (made, .error tooManyArguments)
  else (made, .ok logs)
termination_by toBlock + 1 - chunkStart
decreasing_by simp [maxBaseRpcLogRangeBlocks]; omega

/-- `assertBlockNumber`; the runtime's numbers may be negative. -/
def isBlockNumber (value : Int) : Bool :=
  decide (0 ≤ value) && decide (value ≤ Json.maxSafeInteger)

def getLogsInBlockChunks (argumentLimit : Nat) (call : BaseRpcCall Log)
    (fromBlock toBlock : Int) : LogScan Log :=
  if ¬ isBlockNumber fromBlock then
    ([], .error (.error s!"Invalid Base log scan fromBlock: {fromBlock}"))
  else if ¬ isBlockNumber toBlock then
    ([], .error (.error s!"Invalid Base log scan toBlock: {toBlock}"))
  else if toBlock < fromBlock then
    ([], .error (.error (s!"Invalid Base log scan range: fromBlock {fromBlock} is after " ++
      s!"toBlock {toBlock}")))
  else fetchChunks argumentLimit call toBlock.toNat [] [] fromBlock.toNat

abbrev LogChain (Log : Type) := Nat → List Log

/-- The matching logs of the blocks `first` to `last`. -/
def LogChain.between (chain : LogChain Log) (first last : Nat) : List Log :=
  (List.range' first (last + 1 - first)).flatMap chain

/-- Logs, where the provider gives any, are the matching logs of the range in order. -/
def Honest (call : BaseRpcCall Log) (chain : LogChain Log) : Prop :=
  ∀ made first last rows, call made first last = .logs rows → rows = chain.between first last

/-- A request that ends the scan: another error, a value that is not an array, or a single
block refused as oversized. -/
def LogRequest.fatal (request : LogRequest Log) : Prop :=
  match request.answer with
  | .logs _ => False
  | .notArray => True
  | .thrown error => isOversizedLogResult error = true → request.toBlock ≤ request.fromBlock

/-- What a scan of the blocks `first` to `last` has done since `made`. -/
structure Scans (chain : LogChain Log) (made : List (LogRequest Log)) (first last : Nat)
    (logs : List Log) (scan : LogScan Log) : Prop where
  requests : ∃ asked, scan.1 = made ++ asked ∧
    (∀ request ∈ asked, first ≤ request.fromBlock ∧ request.fromBlock ≤ request.toBlock ∧
      request.toBlock ≤ last ∧
      request.toBlock - request.fromBlock + 1 ≤ maxBaseRpcLogRangeBlocks) ∧
    match scan.2 with
    | .ok found => found = logs ++ chain.between first last ∧
        ∀ request ∈ asked, ¬ request.fatal
    | .error _ => ∃ request ∈ asked, request.fatal

variable {mid last : Nat}

variable {first : Nat} {scan : LogScan Log}

theorem between_split (chain : LogChain Log) (lower : first ≤ mid + 1) (upper : mid ≤ last) :
    chain.between first mid ++ chain.between (mid + 1) last = chain.between first last := by
  have whole : last + 1 - first = (mid + 1 - first) + (last + 1 - (mid + 1)) := by omega
  have start : mid + 1 = first + 1 * (mid + 1 - first) := by omega
  unfold LogChain.between
  rw [whole, ← List.range'_append, List.flatMap_append, ← start]

theorem between_empty (chain : LogChain Log) (empty : last < first) :
    chain.between first last = [] := by
  have none : last + 1 - first = 0 := by omega
  rw [LogChain.between, none, List.range'_zero, List.flatMap_nil]

variable {chain : LogChain Log}

theorem Scans.asked {made : List (LogRequest Log)} {logs : List Log} {answer : LogAnswer Log}
    (ordered : first ≤ last) (narrow : last - first + 1 ≤ maxBaseRpcLogRangeBlocks)
    (goesOn : ¬ (LogRequest.mk first last answer).fatal)
    (rest : Scans chain (made ++ [⟨first, last, answer⟩]) first last logs scan) :
    Scans chain made first last logs scan := by
  have ⟨asked, history, within, outcome⟩ := rest.requests
  rw [List.append_assoc] at history
  constructor
  apply Exists.intro ([⟨first, last, answer⟩] ++ asked)
  apply And.intro history
  apply And.intro
  · intro request member
    rcases List.mem_append.mp member with own | later
    · rw [List.mem_singleton.mp own]
      exact ⟨le_refl _, ordered, le_refl _, narrow⟩
    · exact within request later
  · cases ended : scan.2 with
    | ok found =>
      simp only [ended] at outcome ⊢
      apply And.intro outcome.1
      intro request member
      rcases List.mem_append.mp member with own | later
      · rw [List.mem_singleton.mp own]
        exact goesOn
      · exact outcome.2 request later
    | error error =>
      simp only [ended] at outcome ⊢
      have ⟨request, member, fatal⟩ := outcome
      exact ⟨request, List.mem_append_right _ member, fatal⟩

theorem Scans.stopped {made after : List (LogRequest Log)} {logs others : List Log} {error : Thrown}
    (upper : mid ≤ last) (lower : Scans chain made first mid logs (after, .error error)) :
    Scans chain made first last others (after, .error error) := by
  have ⟨asked, history, within, fatal⟩ := lower.requests
  constructor
  apply Exists.intro asked
  apply And.intro history
  apply And.intro _ fatal
  intro request member
  have ⟨low, span, high, narrow⟩ := within request member
  exact ⟨low, span, high.trans upper, narrow⟩

theorem Scans.followed {made after : List (LogRequest Log)} {logs found : List Log}
    (low : first ≤ mid + 1) (high : mid ≤ last)
    (lower : Scans chain made first mid logs (after, .ok found))
    (upper : Scans chain after (mid + 1) last found scan) :
    Scans chain made first last logs scan := by
  have ⟨before, history, within, foundEq, calm⟩ := lower.requests
  have ⟨asked, later, beyond, outcome⟩ := upper.requests
  simp only at history foundEq
  constructor
  apply Exists.intro (before ++ asked)
  apply And.intro (by rw [later, history, List.append_assoc])
  apply And.intro
  · intro request member
    rcases List.mem_append.mp member with early | late
    · have ⟨from_, span, until_, narrow⟩ := within request early
      exact ⟨from_, span, until_.trans high, narrow⟩
    · have ⟨from_, span, until_, narrow⟩ := beyond request late
      exact ⟨low.trans from_, span, until_, narrow⟩
  · cases ended : scan.2 with
    | ok all =>
      simp only [ended] at outcome ⊢
      apply And.intro
      · rw [outcome.1, foundEq, List.append_assoc, between_split chain low high]
      · intro request member
        rcases List.mem_append.mp member with early | late
        · exact calm request early
        · exact outcome.2 request late
    | error error =>
      simp only [ended] at outcome ⊢
      have ⟨request, member, fatal⟩ := outcome
      exact ⟨request, List.mem_append_right _ member, fatal⟩

theorem Scans.after {made after : List (LogRequest Log)} {found : List Log} (logs : List Log)
    (scanned : Scans chain made first last [] (after, .ok found)) :
    Scans chain made first last logs (after, .ok (logs ++ found)) := by
  have ⟨asked, history, within, foundEq, calm⟩ := scanned.requests
  exact ⟨asked, history, within, by rw [foundEq, List.nil_append], calm⟩

variable {call : BaseRpcCall Log}

theorem fetch_range_scans (honest : Honest call chain) (size : Nat) :
    ∀ (made : List (LogRequest Log)) (first last : Nat), last - first ≤ size → first ≤ last →
      last - first + 1 ≤ maxBaseRpcLogRangeBlocks →
      Scans chain made first last [] (fetchRange call made first last) := by
  -- the induction is on the width of the range: each half is narrower
  induction size using Nat.strong_induction_on with
  | _ size ih =>
    intro made first last small ordered narrow
    have single (answer : LogAnswer Log) (outcome : Except Thrown (List Log))
        (ends : match outcome with
          | .ok found => found = chain.between first last ∧
              ¬ (LogRequest.mk first last answer).fatal
          | .error _ => (LogRequest.mk first last answer).fatal) :
        Scans chain made first last [] (made ++ [⟨first, last, answer⟩], outcome) := by
      constructor
      apply Exists.intro [⟨first, last, answer⟩]
      apply And.intro rfl
      constructor
      · intro request own
        rw [List.mem_singleton.mp own]
        exact ⟨le_refl _, ordered, le_refl _, narrow⟩
      · cases outcome <;> simpa using ends
    rw [fetchRange]
    cases answered : call made first last with
    | logs rows => exact single _ _ ⟨honest _ _ _ _ answered, by simp [LogRequest.fatal]⟩
    | notArray => exact single _ _ trivial
    | thrown error =>
      by_cases splits : first < last ∧ isOversizedLogResult error = true
      · have goesOn : ¬ (⟨first, last, .thrown error⟩ : LogRequest Log).fatal := by
          simp [LogRequest.fatal, splits.1, splits.2]
        have lower := ih (first + (last - first) / 2 - first) (by omega)
          (made ++ [⟨first, last, .thrown error⟩]) first (first + (last - first) / 2)
          (le_refl _) (by omega) (by omega)
        simp only [if_pos splits]
        apply Scans.asked ordered narrow goesOn
        generalize fetchRange call (made ++ [⟨first, last, .thrown error⟩]) first
          (first + (last - first) / 2) = scan at lower ⊢
        rcases scan with ⟨after, failed | found⟩
        · exact Scans.stopped (by omega) lower
        · have upper := ih (last - (first + (last - first) / 2 + 1)) (by omega)
            after (first + (last - first) / 2 + 1) last (le_refl _) (by omega) (by omega)
          apply Scans.followed (by omega) (by omega) lower
          dsimp only
          generalize fetchRange call after (first + (last - first) / 2 + 1) last = rest
            at upper ⊢
          rcases rest with ⟨done, failed | rest⟩
          · exact Scans.stopped (le_refl _) upper
          · exact Scans.after found upper
      · have blocked : (⟨first, last, .thrown error⟩ : LogRequest Log).fatal := by
          intro oversized
          have wide : ¬ first < last := fun wide => splits ⟨wide, oversized⟩
          exact Nat.le_of_not_lt wide
        simp only [if_neg splits]
        exact single _ _ blocked

/-- No chunk from `first` on has more matching logs than a call takes arguments. -/
def ChunksFit (argumentLimit : Nat) (chain : LogChain Log) (first last : Nat) : Prop :=
  ∀ chunk, first + maxBaseRpcLogRangeBlocks * chunk ≤ last →
    (chain.between (first + maxBaseRpcLogRangeBlocks * chunk)
      (min last (first + maxBaseRpcLogRangeBlocks * chunk + maxBaseRpcLogRangeBlocks - 1))).length ≤
        argumentLimit

variable {argumentLimit : Nat}

theorem chunks_fit_step (inside : first ≤ last) : ChunksFit argumentLimit chain first last ↔
    (chain.between first (min last (first + maxBaseRpcLogRangeBlocks - 1))).length ≤
        argumentLimit ∧
      ChunksFit argumentLimit chain (first + maxBaseRpcLogRangeBlocks) last := by
  constructor
  · intro fits
    apply And.intro (fits 0 inside)
    intro chunk within
    have later := fits (chunk + 1)
    rw [Nat.mul_succ, Nat.add_comm (_ * chunk), ← Nat.add_assoc] at later
    exact later within
  · intro fits chunk within
    cases chunk with
    | zero => exact fits.1
    | succ chunk =>
      rw [Nat.mul_succ, Nat.add_comm (_ * chunk), ← Nat.add_assoc] at within ⊢
      exact fits.2 chunk within

theorem fetch_chunks_scans (honest : Honest call chain) (toBlock : Nat)
    (made : List (LogRequest Log)) (logs : List Log) (chunkStart : Nat)
    (fit : ChunksFit argumentLimit chain chunkStart toBlock) : Scans chain made chunkStart toBlock
      logs (fetchChunks argumentLimit call toBlock made logs chunkStart) := by
  induction made, logs, chunkStart using fetchChunks.induct argumentLimit call toBlock with
  | case1 made logs chunkStart inside chunkEnd after error failed =>
    have width : maxBaseRpcLogRangeBlocks = 2000 := rfl
    have until_ : chunkEnd = min toBlock (chunkStart + 1999) := rfl
    have ends : chunkEnd ≤ toBlock := by omega
    have chunk := fetch_range_scans honest _ made chunkStart chunkEnd (le_refl _)
      (by omega) (by omega)
    have same : chunkEnd = min toBlock (chunkStart + maxBaseRpcLogRangeBlocks - 1) := rfl
    rw [failed] at chunk
    rw [same] at failed
    rw [fetchChunks, if_pos inside]
    simp only [failed]
    exact Scans.stopped ends chunk
  | case2 made logs chunkStart inside chunkEnd after chunkLogs read few ih =>
    have ih := ih ((chunks_fit_step inside).mp fit).2
    have width : maxBaseRpcLogRangeBlocks = 2000 := rfl
    have until_ : chunkEnd = min toBlock (chunkStart + 1999) := rfl
    have chunk := fetch_range_scans honest _ made chunkStart chunkEnd (le_refl _)
      (by omega) (by omega)
    have same : chunkEnd = min toBlock (chunkStart + maxBaseRpcLogRangeBlocks - 1) := rfl
    rw [read] at chunk
    rw [same] at read
    have scanned := Scans.after logs chunk
    rw [fetchChunks, if_pos inside]
    simp only [read, if_pos few]
    by_cases final : chunkStart + maxBaseRpcLogRangeBlocks ≤ toBlock
    · have next : chunkStart + maxBaseRpcLogRangeBlocks = chunkEnd + 1 := by omega
      rw [next] at ih ⊢
      exact Scans.followed (by omega) (by omega) scanned ih
    · have whole : chunkEnd = toBlock := by omega
      rw [fetchChunks, if_neg final]
      rw [whole] at scanned
      exact scanned
  | case3 made logs chunkStart inside chunkEnd after chunkLogs read many =>
    have width : maxBaseRpcLogRangeBlocks = 2000 := rfl
    have until_ : chunkEnd = min toBlock (chunkStart + 1999) := rfl
    have chunk := fetch_range_scans honest _ made chunkStart chunkEnd (le_refl _)
      (by omega) (by omega)
    rw [read] at chunk
    have ⟨_, _, _, found, _⟩ := chunk.requests
    simp only [List.nil_append] at found
    rw [found] at many
    exact absurd ((chunks_fit_step inside).mp fit).1 many
  | case4 made logs chunkStart outside =>
    rw [fetchChunks, if_neg outside]
    constructor
    apply Exists.intro []
    simp [between_empty chain (Nat.lt_of_not_le outside)]

/-- A provider that refuses nothing. -/
def answersAll (chain : LogChain Log) : BaseRpcCall Log :=
  fun _ first last => .logs (chain.between first last)

theorem answers_all_honest (chain : LogChain Log) : Honest (answersAll chain) chain :=
  fun _ _ _ _ answered => (LogAnswer.logs.inj answered).symm

theorem answered_range (chain : LogChain Log) (made : List (LogRequest Log)) (first last : Nat) :
    fetchRange (answersAll chain) made first last =
      (made ++ [⟨first, last, .logs (chain.between first last)⟩], .ok (chain.between first last)) := by
  rw [fetchRange]
  rfl

theorem answered_chunks (chain : LogChain Log) (toBlock : Nat) (made : List (LogRequest Log))
    (logs : List Log) (chunkStart : Nat) (calm : ∀ request ∈ made, ¬ request.fatal) :
    (∀ request ∈ (fetchChunks argumentLimit (answersAll chain) toBlock made logs chunkStart).1,
      ¬ request.fatal) ∧
    ((∃ all, (fetchChunks argumentLimit (answersAll chain) toBlock made logs chunkStart).2 =
      .ok all) → ChunksFit argumentLimit chain chunkStart toBlock) := by
  induction made, logs, chunkStart
    using fetchChunks.induct argumentLimit (answersAll chain) toBlock with
  | case1 made logs chunkStart inside chunkEnd after error failed =>
    rw [answered_range] at failed
    cases failed
  | case2 made logs chunkStart inside chunkEnd after chunkLogs read few ih =>
    have same : chunkEnd = min toBlock (chunkStart + maxBaseRpcLogRangeBlocks - 1) := rfl
    rw [answered_range] at read
    cases read
    have ih := ih (by simpa [LogRequest.fatal, or_imp, forall_and] using calm)
    rw [fetchChunks, if_pos inside]
    simp only [answered_range, ← same, if_pos few]
    apply And.intro ih.1
    intro read
    exact (chunks_fit_step inside).mpr ⟨few, ih.2 read⟩
  | case3 made logs chunkStart inside chunkEnd after chunkLogs read many =>
    have same : chunkEnd = min toBlock (chunkStart + maxBaseRpcLogRangeBlocks - 1) := rfl
    rw [answered_range] at read
    cases read
    rw [fetchChunks, if_pos inside]
    simp only [answered_range, ← same, if_neg many]
    constructor
    · simpa [LogRequest.fatal, or_imp, forall_and] using calm
    · simp
  | case4 made logs chunkStart outside =>
    rw [fetchChunks, if_neg outside]
    apply And.intro calm
    intro _ chunk within
    omega

/-- The logs of the range, each once and in order, whatever was refused and split; the requests
stay within the range and within 2,000 blocks, and only a fatal one fails the scan. -/
structure Covers (argumentLimit : Nat) (call : BaseRpcCall Log) (chain : LogChain Log)
    (fromBlock toBlock : Nat) : Prop where
  within : ∀ request ∈ (getLogsInBlockChunks argumentLimit call fromBlock toBlock).1,
    fromBlock ≤ request.fromBlock ∧ request.fromBlock ≤ request.toBlock ∧
      request.toBlock ≤ toBlock ∧
      request.toBlock - request.fromBlock + 1 ≤ maxBaseRpcLogRangeBlocks
  fails : (∃ error, (getLogsInBlockChunks argumentLimit call fromBlock toBlock).2 = .error error) ↔
    ∃ request ∈ (getLogsInBlockChunks argumentLimit call fromBlock toBlock).1, request.fatal
  logs : ∀ logs, (getLogsInBlockChunks argumentLimit call fromBlock toBlock).2 = .ok logs →
    logs = chain.between fromBlock toBlock

variable {fromBlock toBlock : Nat}

theorem chunked_scan (argumentLimit : Nat) (call : BaseRpcCall Log)
    (ordered : fromBlock ≤ toBlock) (safe : toBlock ≤ Json.maxSafeInteger) :
    getLogsInBlockChunks argumentLimit call fromBlock toBlock =
      fetchChunks argumentLimit call toBlock [] [] fromBlock := by
  have low : isBlockNumber (fromBlock : Int) = true := by
    simp [isBlockNumber]
    omega
  have high : isBlockNumber (toBlock : Int) = true := by
    simp [isBlockNumber]
    omega
  simp [getLogsInBlockChunks, low, high, ordered]

theorem fitting_scan_covers (honest : Honest call chain) (ordered : fromBlock ≤ toBlock)
    (safe : toBlock ≤ Json.maxSafeInteger) (fit : ChunksFit argumentLimit chain fromBlock toBlock) :
    Covers argumentLimit call chain fromBlock toBlock := by
  have ⟨asked, history, within, outcome⟩ :=
    (fetch_chunks_scans honest toBlock [] [] fromBlock fit).requests
  rw [List.nil_append] at history
  rw [← history] at within outcome
  rw [← chunked_scan argumentLimit call ordered safe] at within outcome
  apply Covers.mk within
  · cases ended : (getLogsInBlockChunks argumentLimit call fromBlock toBlock).2 with
    | ok found =>
      simp only [ended] at outcome
      apply iff_of_false
      · simp
      · rintro ⟨request, member, fatal⟩
        exact outcome.2 request member fatal
    | error error =>
      simp only [ended] at outcome
      exact iff_of_true ⟨error, rfl⟩ outcome
  · intro logs ended
    simp only [ended, List.nil_append] at outcome
    exact outcome.1

theorem answered_scan_fits (ordered : fromBlock ≤ toBlock) (safe : toBlock ≤ Json.maxSafeInteger)
    (covered : Covers argumentLimit (answersAll chain) chain fromBlock toBlock) :
    ChunksFit argumentLimit chain fromBlock toBlock := by
  have ⟨calm, fits⟩ := @answered_chunks _ argumentLimit chain toBlock [] [] fromBlock (by simp)
  rw [← chunked_scan argumentLimit _ ordered safe] at calm fits
  cases ended : (getLogsInBlockChunks argumentLimit (answersAll chain) fromBlock toBlock).2 with
  | ok logs => exact fits ⟨logs, ended⟩
  | error error =>
    have ⟨request, member, fatal⟩ := covered.fails.mp ⟨error, ended⟩
    exact absurd fatal (calm request member)

/-- The scan covers the range, whatever an honest provider answers, exactly if no chunk has
more matching logs than a call takes arguments. -/
theorem log_scan_covers_iff_chunks_fit (argumentLimit : Nat) (chain : LogChain Log)
    (fromBlock toBlock : Nat) (ordered : fromBlock ≤ toBlock)
    (safe : toBlock ≤ Json.maxSafeInteger) :
    (∀ call, Honest call chain → Covers argumentLimit call chain fromBlock toBlock) ↔
      ChunksFit argumentLimit chain fromBlock toBlock := by
  constructor
  · intro covers
    exact answered_scan_fits ordered safe (covers _ (answers_all_honest chain))
  · intro fit call honest
    exact fitting_scan_covers honest ordered safe fit

/-- One log a block, from a provider that refuses every range of two blocks or more. -/
def refusesPairs : BaseRpcCall Nat := fun _ first last =>
  if first < last then .thrown (.error "query returned more than 10000 results")
  else .logs (LogChain.between (fun block => [block]) first last)

theorem log_scan_covers_refused_range :
    Honest refusesPairs (fun block => [block]) ∧ ∀ logs,
      (getLogsInBlockChunks 125000 refusesPairs 0 4).2 = .ok logs → logs = [0, 1, 2, 3, 4] := by
  have honest : Honest refusesPairs fun block => [block] := by
    intro made first last rows answered
    unfold refusesPairs at answered
    split at answered
    · exact nomatch answered
    · exact (LogAnswer.logs.inj answered).symm
  have fit : ChunksFit 125000 (fun block => [block]) 0 4 := by
    intro chunk within
    have first : chunk = 0 := by
      unfold maxBaseRpcLogRangeBlocks at within
      omega
    rw [first]
    decide
  exact ⟨honest, ((log_scan_covers_iff_chunks_fit 125000 (fun block => [block]) 0 4 (by decide)
    (by decide)).mpr fit refusesPairs honest).logs⟩

/-- A spray of transfers in one block. -/
def sprayed : LogChain Nat := fun _ => List.replicate 130000 0

theorem sprayed_scan_fails : Honest (answersAll sprayed) sprayed ∧
    ¬ Covers 125000 (answersAll sprayed) sprayed 0 0 := by
  apply And.intro (answers_all_honest sprayed)
  intro covered
  have few := answered_scan_fits (by decide) (by decide) covered 0 (by decide)
  have whole : LogChain.between sprayed 0 0 = sprayed 0 ++ [] := rfl
  change (LogChain.between sprayed 0 0).length ≤ 125000 at few
  rw [whole, List.append_nil, sprayed, List.length_replicate] at few
  omega

end Hivra.BaseScan
