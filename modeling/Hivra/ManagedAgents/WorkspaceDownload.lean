import Mathlib.Data.List.Infix
import Hivra.Library.Texts
import Hivra.Library.Utf8

/-!
# Workspace downloads

A download ends in a footer that names the SHA-256 of what comes before it.  The last bytes are
held back until the stream ends, since they may be the footer, and the others are hashed and
delivered.
-/

namespace Hivra.ManagedAgents

open Hivra.Library

def workspaceFooterPrefix : List Char := "DOWSSHA1".toList

def workspaceFooterLength : Nat := workspaceFooterPrefix.length + 64 + 1

/-- `createHash("sha256")`: its digest is that of all it was updated with. -/
structure Sha256 where
  hexDigest : List UInt8 → List Char
  hex_length : ∀ bytes, (hexDigest bytes).length = 64
  hex_digits : ∀ bytes, ∀ digit ∈ hexDigest bytes, isLowerHexDigit digit = true

/-- `[0-9a-fA-F]`. -/
def isHexDigit (char : Char) : Bool :=
  char.isDigit || ('a' ≤ char && char ≤ 'f') || ('A' ≤ char && char ≤ 'F')

/-- `/^DOWSSHA1([0-9a-fA-F]{64})\n$/`. -/
def footerDigest? (footer : List Char) : Option (List Char) :=
  let digest := (footer.drop workspaceFooterPrefix.length).take 64
  if footer = workspaceFooterPrefix ++ digest ++ ['\n'] ∧ digest.length = 64 ∧
      digest.all isHexDigit = true then some digest
  else none

/-- The variables of the stream, and the chunks it enqueued. -/
structure Download where
  pending : List UInt8
  hashed : List UInt8
  delivered : Nat
  enqueued : List (List UInt8)
  errored : Bool

def overLimit (maxBytes : Option Nat) (delivered : Nat) : Bool :=
  match maxBytes with
  | some limit => decide (limit < delivered)
  | none => false

def transform (maxBytes : Option Nat) (download : Download) (chunk : List UInt8) : Download :=
  let joined := download.pending ++ chunk
  if joined.length ≤ workspaceFooterLength then { download with pending := joined }
  else
    let releasable := joined.length - workspaceFooterLength
    let out := joined.take releasable
    let pending := joined.drop releasable
    let delivered := download.delivered + out.length
    if overLimit maxBytes delivered then
      { download with pending, delivered, errored := true }
    else
      { download with
        pending, delivered, hashed := download.hashed ++ out
        enqueued := download.enqueued ++ [out] }

/-- An errored stream takes no more chunks. -/
def afterChunks (maxBytes : Option Nat) (chunks : List (List UInt8)) : Download :=
  chunks.foldl
    (fun download chunk => if download.errored then download else transform maxBytes download chunk)
    { pending := [], hashed := [], delivered := 0, enqueued := [], errored := false }

/-- `flush` raises no error. -/
def flush (sha : Sha256) (download : Download) : Bool :=
  match footerDigest? (decodeText download.pending) with
  | some digest =>
    download.pending.length == workspaceFooterLength &&
      digest.map Char.toLower == sha.hexDigest download.hashed
  | none => false

/-- The stream ends without an error. -/
def endsIntact (sha : Sha256) (maxBytes : Option Nat) (chunks : List (List UInt8)) : Bool :=
  !(afterChunks maxBytes chunks).errored && flush sha (afterChunks maxBytes chunks)

def deliveredBy (maxBytes : Option Nat) (chunks : List (List UInt8)) : List UInt8 :=
  (afterChunks maxBytes chunks).enqueued.flatten

/-- The input is the payload and its footer. -/
def IsDownload (sha : Sha256) (maxBytes : Option Nat) (payload input : List UInt8) : Prop :=
  (∃ digest, input = payload ++ asciiBytes (workspaceFooterPrefix ++ digest ++ ['\n']) ∧
    digest.map Char.toLower = sha.hexDigest payload) ∧
  ∀ limit ∈ maxBytes, payload.length ≤ limit

theorem hex_of_lower {char : Char} (lower : isLowerHexDigit char.toLower = true) :
    isHexDigit char = true := by
  delta Char.toLower at lower
  simp only [isLowerHexDigit, isHexDigit, Char.isDigit, Bool.or_eq_true,
    Bool.and_eq_true, decide_eq_true_eq, Char.le_def, UInt32.le_iff_toNat_le] at lower ⊢
  split at lower
  · rename_i upper
    simp at lower upper ⊢
    omega
  · simp at lower ⊢
    omega

theorem hex_ascii {char : Char} (hex : isHexDigit char = true) : char.toNat < 0x80 := by
  simp only [isHexDigit, Char.isDigit, Bool.or_eq_true, Bool.and_eq_true, decide_eq_true_eq,
    Char.le_def, ge_iff_le, UInt32.le_iff_toNat_le] at hex
  simp at hex
  omega

theorem footer_digest_iff {footer digest : List Char} : footerDigest? footer = some digest ↔
      footer = workspaceFooterPrefix ++ digest ++ ['\n'] ∧ digest.length = 64 ∧
        digest.all isHexDigit = true := by
  unfold footerDigest?
  dsimp only
  constructor
  · intro found
    split at found
    · rename_i holds
      cases found
      exact holds
    · cases found
  · rintro ⟨isFooter, long, hex⟩
    have same : (footer.drop workspaceFooterPrefix.length).take 64 = digest := by
      rw [isFooter, List.append_assoc, List.drop_left, List.take_left' long]
    rw [same, if_pos ⟨isFooter, long, hex⟩]

theorem footer_ascii {digest : List Char} (hex : digest.all isHexDigit = true) :
    Ascii (workspaceFooterPrefix ++ digest ++ ['\n']) := by
  intro char member
  rcases List.mem_append.mp member with front | last
  · rcases List.mem_append.mp front with start | middle
    · have plain : workspaceFooterPrefix.all (fun char => char.toNat < 0x80) = true := by decide
      exact of_decide_eq_true (List.all_eq_true.mp plain char start)
    · exact hex_ascii (List.all_eq_true.mp hex char middle)
  · rw [List.mem_singleton.mp last]
    decide

theorem footer_length {digest : List Char} (long : digest.length = 64) :
    (asciiBytes (workspaceFooterPrefix ++ digest ++ ['\n'])).length = workspaceFooterLength := by
  simp [asciiBytes, workspaceFooterLength, long]

theorem flush_iff (sha : Sha256) (download : Download) : flush sha download = true ↔ ∃ digest,
      download.pending = asciiBytes (workspaceFooterPrefix ++ digest ++ ['\n']) ∧
        digest.map Char.toLower = sha.hexDigest download.hashed := by
  unfold flush
  constructor
  · intro passes
    split at passes
    · rename_i digest found
      have ⟨isFooter, long, hex⟩ := footer_digest_iff.mp found
      have ⟨size, same⟩ := Bool.and_eq_true_iff.mp passes
      apply Exists.intro digest
      constructor
      · rw [← isFooter]
        apply text_bytes
        · rw [isFooter]
          exact footer_ascii hex
        · rw [isFooter, beq_iff_eq.mp size]
          simp [workspaceFooterLength, long]
      · exact beq_iff_eq.mp same
    · cases passes
  · rintro ⟨digest, isPending, same⟩
    have long : digest.length = 64 := by
      rw [← sha.hex_length download.hashed, ← same, List.length_map]
    have hex : digest.all isHexDigit = true := by
      rw [List.all_eq_true]
      intro char member
      apply hex_of_lower
      apply sha.hex_digits download.hashed
      rw [← same]
      exact List.mem_map_of_mem member
    have found : footerDigest? (decodeText download.pending) = some digest := by
      rw [isPending, decode_text_ascii (footer_ascii hex)]
      exact footer_digest_iff.mpr ⟨rfl, long, hex⟩
    rw [found]
    dsimp only
    rw [isPending, footer_length long, same]
    simp

/-- What was hashed and delivered, and what is held back, are the input. -/
structure Holds (maxBytes : Option Nat) (input : List UInt8) (download : Download) : Prop where
  running : download.errored = false
  short : download.pending.length ≤ workspaceFooterLength
  joined : download.hashed ++ download.pending = input
  full : download.hashed ≠ [] → download.pending.length = workspaceFooterLength
  counted : download.delivered = download.hashed.length
  sent : download.enqueued.flatten = download.hashed
  within : ∀ limit ∈ maxBytes, download.hashed.length ≤ limit

structure Exceeded (maxBytes : Option Nat) (input : List UInt8) (download : Download) : Prop where
  errored : download.errored = true
  sent : download.enqueued.flatten <+: input.take (input.length - workspaceFooterLength)
  within : ∀ limit ∈ maxBytes, download.enqueued.flatten.length ≤ limit
  exceeds : ∃ limit ∈ maxBytes, limit + workspaceFooterLength < input.length

variable {maxBytes : Option Nat} {input : List UInt8} {download : Download}

theorem Holds.hashed_eq (holds : Holds maxBytes input download) :
    download.hashed = input.take (input.length - workspaceFooterLength) := by
  have size := congrArg List.length holds.joined
  rw [List.length_append] at size
  by_cases empty : download.hashed = []
  · have short := holds.short
    rw [empty] at size ⊢
    rw [show input.length - workspaceFooterLength = 0 by simp at size; omega, List.take_zero]
  · have full := holds.full empty
    rw [← holds.joined, List.take_left']
    rw [holds.joined]
    omega

theorem over_limit_iff {delivered : Nat} :
    overLimit maxBytes delivered = true ↔ ∃ limit ∈ maxBytes, limit < delivered := by
  cases maxBytes <;> simp [overLimit]

theorem take_grows (chunk : List UInt8) : input.take (input.length - workspaceFooterLength) <+:
      (input ++ chunk).take ((input ++ chunk).length - workspaceFooterLength) := by
  rw [← @List.take_append_of_le_length _ _ chunk _ (Nat.sub_le _ workspaceFooterLength)]
  apply List.take_prefix_take_left
  rw [List.length_append]
  omega

theorem transform_holds (holds : Holds maxBytes input download) (chunk : List UInt8) :
    Holds maxBytes (input ++ chunk) (transform maxBytes download chunk) ∨
      Exceeded maxBytes (input ++ chunk) (transform maxBytes download chunk) := by
  have size := congrArg List.length holds.joined
  rw [List.length_append] at size
  unfold transform
  dsimp only
  split
  · rename_i short
    apply Or.inl
    constructor
    · exact holds.running
    · exact short
    · rw [← holds.joined, List.append_assoc]
    · intro some
      have full := holds.full some
      rw [List.length_append] at short ⊢
      omega
    · exact holds.counted
    · exact holds.sent
    · exact holds.within
  · rename_i long
    rw [List.length_append] at long
    have whole := List.take_append_drop
      ((download.pending ++ chunk).length - workspaceFooterLength) (download.pending ++ chunk)
    have counted : download.delivered + ((download.pending ++ chunk).take
        ((download.pending ++ chunk).length - workspaceFooterLength)).length =
          (input ++ chunk).length - workspaceFooterLength := by
      rw [holds.counted, List.length_take, List.length_append, List.length_append]
      omega
    rw [counted]
    split
    · rename_i exceeds
      have ⟨limit, isLimit, exceeds⟩ := over_limit_iff.mp exceeds
      apply Or.inr
      constructor
      · rfl
      · rw [holds.sent, holds.hashed_eq]
        exact take_grows chunk
      · rw [holds.sent]
        exact holds.within
      · exact ⟨limit, isLimit, by omega⟩
    · rename_i under
      apply Or.inl
      constructor
      · exact holds.running
      · simp only [List.length_drop, List.length_append]
        omega
      · rw [List.append_assoc, whole, ← holds.joined, List.append_assoc]
      · intro _
        simp only [List.length_drop, List.length_append]
        omega
      · dsimp only
        rw [← counted, holds.counted]
        exact List.length_append.symm
      · rw [List.flatten_append, holds.sent]
        simp
      · intro limit isLimit
        rw [List.length_append, ← holds.counted, counted]
        by_contra exceeds
        exact under (over_limit_iff.mpr ⟨limit, isLimit, by omega⟩)

theorem after_chunks (maxBytes : Option Nat) (chunks : List (List UInt8)) :
    Holds maxBytes chunks.flatten (afterChunks maxBytes chunks) ∨
      Exceeded maxBytes chunks.flatten (afterChunks maxBytes chunks) := by
  induction chunks using List.reverseRecOn with
  | nil =>
    apply Or.inl
    constructor <;> simp [afterChunks]
  | append_singleton chunks chunk ih =>
    have step : afterChunks maxBytes (chunks ++ [chunk]) =
        if (afterChunks maxBytes chunks).errored then afterChunks maxBytes chunks
        else transform maxBytes (afterChunks maxBytes chunks) chunk := by
      rw [afterChunks, List.foldl_append]
      rfl
    rw [step, List.flatten_append, List.flatten_singleton]
    rcases ih with holds | exceeded
    · rw [holds.running]
      exact transform_holds holds chunk
    · rw [if_pos exceeded.errored]
      have ⟨limit, isLimit, exceeds⟩ := exceeded.exceeds
      apply Or.inr
      constructor
      · exact exceeded.errored
      · exact exceeded.sent.trans (take_grows chunk)
      · exact exceeded.within
      · exact ⟨limit, isLimit, by rw [List.length_append]; omega⟩

theorem delivered_early (maxBytes : Option Nat) (chunks : List (List UInt8)) :
    deliveredBy maxBytes chunks <+:
        chunks.flatten.take (chunks.flatten.length - workspaceFooterLength) ∧
      ∀ limit ∈ maxBytes, (deliveredBy maxBytes chunks).length ≤ limit := by
  rcases after_chunks maxBytes chunks with holds | exceeded
  · rw [deliveredBy, holds.sent]
    exact ⟨holds.hashed_eq ▸ List.prefix_refl _, holds.within⟩
  · exact ⟨exceeded.sent, exceeded.within⟩

theorem ends_intact_iff (sha : Sha256) (maxBytes : Option Nat) (chunks : List (List UInt8))
    (payload : List UInt8) :
    endsIntact sha maxBytes chunks = true ∧ deliveredBy maxBytes chunks = payload ↔
      IsDownload sha maxBytes payload chunks.flatten := by
  unfold endsIntact deliveredBy IsDownload
  rcases after_chunks maxBytes chunks with holds | exceeded
  · rw [holds.running, holds.sent]
    simp only [Bool.not_false, Bool.true_and, flush_iff]
    constructor
    · rintro ⟨⟨digest, isPending, same⟩, rfl⟩
      exact ⟨⟨digest, by rw [← isPending, holds.joined], same⟩, holds.within⟩
    · rintro ⟨⟨digest, isInput, same⟩, _⟩
      have long : digest.length = 64 := by
        rw [← sha.hex_length payload, ← same, List.length_map]
      have footer := footer_length long
      have isPayload : (afterChunks maxBytes chunks).hashed = payload := by
        rw [holds.hashed_eq, isInput, List.take_left']
        rw [List.length_append, footer, Nat.add_sub_cancel]
      have isPending := holds.joined.trans isInput
      rw [isPayload] at isPending ⊢
      exact ⟨⟨digest, List.append_cancel_left isPending, same⟩, rfl⟩
  · have ⟨limit, isLimit, exceeds⟩ := exceeded.exceeds
    rw [exceeded.errored]
    constructor
    · rintro ⟨ends, _⟩
      cases ends
    · rintro ⟨⟨digest, isInput, same⟩, within⟩
      have long : digest.length = 64 := by
        rw [← sha.hex_length payload, ← same, List.length_map]
      have short := within limit isLimit
      rw [isInput, List.length_append, footer_length long] at exceeds
      omega

/-- A stream ends without an error, having delivered the payload, exactly for a payload with its
footer; what a reader has got at any moment comes before the last bytes and is within the limit. -/
theorem download_delivered_iff_intact (sha : Sha256) (maxBytes : Option Nat)
    (chunks : List (List UInt8)) :
    (∀ payload, endsIntact sha maxBytes chunks = true ∧ deliveredBy maxBytes chunks = payload ↔
      IsDownload sha maxBytes payload chunks.flatten) ∧
    ∀ early late read, chunks = early ++ late → read <+: deliveredBy maxBytes early →
      read <+: chunks.flatten.take (chunks.flatten.length - workspaceFooterLength) ∧
        ∀ limit ∈ maxBytes, read.length ≤ limit := by
  constructor
  · exact ends_intact_iff sha maxBytes chunks
  · intro early late read split isRead
    have ⟨sent, within⟩ := delivered_early maxBytes early
    constructor
    · rw [split, List.flatten_append]
      exact (isRead.trans sent).trans (take_grows late.flatten)
    · intro limit isLimit
      exact isRead.length_le.trans (within limit isLimit)

def hiDigest : List Char :=
  "8f434346648f6b96df89dda901c5176b10a6d83961dd3c1ac88b59b2dc327aa4".toList

/-- SHA-256 as far as the download of `hi` asks. -/
def shaOfHi : Sha256 where
  hexDigest bytes := if bytes = asciiBytes ['h', 'i'] then hiDigest else List.replicate 64 '0'
  hex_length := by
    intro bytes
    split <;> decide
  hex_digits := by
    intro bytes
    split <;> exact List.all_eq_true.mp (by decide +kernel)

/-- Cut inside the payload and inside the footer, in upper case, with an empty chunk. -/
def hiChunks : List (List UInt8) :=
  let footer := asciiBytes (workspaceFooterPrefix ++ hiDigest.map Char.toUpper ++ ['\n'])
  [[104], [], 105 :: footer.take 30, footer.drop 30]

theorem hi_delivered : endsIntact shaOfHi (some 2) hiChunks = true ∧
    deliveredBy (some 2) hiChunks = asciiBytes ['h', 'i'] :=
  ((download_delivered_iff_intact shaOfHi (some 2) hiChunks).1 _).mpr
    ⟨⟨hiDigest.map Char.toUpper, by decide, by decide⟩, by decide⟩

end Hivra.ManagedAgents
