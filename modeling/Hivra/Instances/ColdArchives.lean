import Mathlib.Algebra.Group.Int.Defs
import Mathlib.Data.List.Infix
import Hivra.Library.Texts

/-!
# Archives in cold storage

What a host script prints, and what the dashboard makes of it: the line that names a new archive,
the manifest that has to confirm it, and the line that names a restored machine.  A manifest is
taken as `parseColdStorageManifest` reads it.
-/

namespace Hivra.Instances

open Hivra.Library

def isUuidText (chars : List Char) : Bool :=
  match chars.splitOn '-' with
  | [low, mid, version, variant, node] =>
    low.length == 8 && mid.length == 4 && version.length == 4 && variant.length == 4 &&
      node.length == 12 && (low ++ mid ++ version ++ variant ++ node).all isLowerHexDigit
  | _ => false

/-- `INSTANCE_UUID_RE` -/
def isInstanceUuid (instanceId : String) : Bool :=
  isUuidText instanceId.toList &&
    (instanceId.toList[14]?).any (fun char => decide ('1' ≤ char) && decide (char ≤ '5')) &&
      (instanceId.toList[19]?).any (fun char => ['8', '9', 'a', 'b'].contains char)

def isTimestampText (chars : List Char) : Bool :=
  decide (8 ≤ chars.length) && decide (chars.length ≤ 32) &&
    chars.all fun char => char.isAlphanum || char == '_' || char == '-'

/-- `COLD_TS_COMPACT_RE` -/
def isValidColdTimestampCompact (ts : String) : Bool := isTimestampText ts.toList

/-- `data-<ts>.tar.zst` -/
def isArchiveName (chars : List Char) : Bool :=
  let ts := (chars.drop 5).take (chars.length - 13)
  chars == "data-".toList ++ ts ++ ".tar.zst".toList && isTimestampText ts

/-- `COLD_ARCHIVE_URI_RE` -/
def isValidColdArchiveUri (archiveUri : String) : Bool :=
  match (lower archiveUri).toList.splitOn '/' with
  | [tier, instance_, name] =>
    (tier == "free".toList || tier == "paid".toList) && isUuidText instance_ && isArchiveName name
  | _ => false

def archivePath (instanceId ts : String) : String :=
  "free/" ++ instanceId ++ "/data-" ++ ts ++ ".tar.zst"

def manifestPath (instanceId ts : String) : String :=
  "meta/" ++ instanceId ++ "/" ++ ts ++ ".json"

theorem manifest_path_injective {instanceId ts other : String}
    (same : manifestPath instanceId ts = manifestPath instanceId other) : ts = other := by
  have lists := congrArg String.toList same
  simp only [manifestPath, String.toList_append, List.append_assoc] at lists
  rw [List.append_cancel_left_eq, List.append_cancel_left_eq, List.append_cancel_left_eq,
    List.append_cancel_right_eq] at lists
  exact String.toList_injective lists

def parentPath (path : String) : String :=
  let segment := path.toList.reverse.takeWhile (· ≠ '/')
  match path.toList.reverse.dropWhile (· ≠ '/') with
  | '/' :: parent => if segment = [] then path else String.ofList parent.reverse
  | _ => path

def isUnder (parent path : String) : Bool :=
  (parent.toList ++ ['/']).isPrefixOf path.toList

structure HostResult where
  ok : Bool
  stdout : String
  stderr : String

def HostResult.failed : HostResult := { ok := false, stdout := "", stderr := "" }

/-- `\s` -/
def isJsSpace (char : Char) : Bool :=
  [9, 10, 11, 12, 13, 32, 160, 5760, 8232, 8233, 8239, 8287, 12288, 65279].contains char.toNat ||
    (decide (8192 ≤ char.toNat) && decide (char.toNat ≤ 8202))

def trimChars (chars : List Char) : List Char :=
  ((chars.dropWhile isJsSpace).reverse.dropWhile isJsSpace).reverse

def wordsOf (chars : List Char) : List (List Char) :=
  (chars.splitOnP isJsSpace).filter (· ≠ [])

def readToken (word : List Char) : Option (String × String) :=
  if word.contains '=' then
    some (String.ofList (word.takeWhile (· ≠ '=')),
      String.ofList ((word.dropWhile (· ≠ '=')).drop 1))
  else none

def parseTokenLine (stdout first : String) : List (String × String) :=
  let starts := (first ++ " ").toList
  let lines := (stdout.toList.splitOn '\n').reverse
  match lines.find? fun line => starts.isPrefixOf (trimChars line) with
  | none => []
  | some line => (wordsOf ((trimChars line).drop first.length)).filterMap readToken

def tokenOf (tokens : List (String × String)) (name : String) : Option String :=
  match tokens.reverse.find? fun token => token.1 == name with
  | none => none
  | some token => if token.2 = "" then none else some token.2

/-- `Number.parseInt(text, 10)`, as an integer. -/
def parseInt (text : String) : Option Int :=
  let value := fun chars : List Char =>
    match chars.takeWhile Char.isDigit with
    | [] => none
    | digits => some (digits.foldl (fun total digit => 10 * total + ((digit.toNat : Int) - 48)) 0)
  match text.toList.dropWhile isJsSpace with
  | '-' :: rest => (value rest).map fun total => -total
  | '+' :: rest => value rest
  | chars => value chars

inductive ArchiveFailure
  | lockNotAcquired
  | instanceMissing
  | instanceNotArchivable
  | hostScriptFailed
  | manifestVerifyFailed
  | dbUpdateFailed
  | destroyFailed

structure ArchiveRefusal where
  reason : ArchiveFailure
  retryable : Bool

structure ArchiveReport where
  ts : String
  sha256 : String
  sizeBytes : Nat
  deriving DecidableEq

def isSha256 (text : String) : Bool :=
  text.length == 64 && text.toList.all isLowerHexDigit

/-- What the `MANIFEST` line of the archive script has to say. -/
def readArchiveReport (instanceId : String) (result : HostResult) :
    Except ArchiveRefusal ArchiveReport :=
  if result.ok = false then .error ⟨.hostScriptFailed, true⟩
  else
    let tokens := parseTokenLine result.stdout "MANIFEST"
    match tokenOf tokens "sha256", tokenOf tokens "size", tokenOf tokens "ts",
      tokenOf tokens "iid" with
    | some sha256, some size, some ts, some iid =>
      if isValidColdTimestampCompact ts = false then .error ⟨.manifestVerifyFailed, false⟩
      else if isSha256 sha256 = false then .error ⟨.manifestVerifyFailed, false⟩
      else if iid ≠ instanceId then .error ⟨.manifestVerifyFailed, false⟩
      else
        match parseInt size with
        | some (.ofNat (count + 1)) => .ok { ts, sha256, sizeBytes := count + 1 }
        | _ => .error ⟨.manifestVerifyFailed, false⟩
    | _, _, _, _ => .error ⟨.hostScriptFailed, true⟩

/-- `ParsedColdStorageManifest` -/
structure Manifest where
  archiveUri : String
  archiveSha256 : String
  archiveSizeBytes : Nat
  archivedAt : String

inductive ManifestReply
  | unreadable
  | malformed
  | parsed (manifest : Manifest)

def checkManifest (report : ArchiveReport) : ManifestReply → Except ArchiveRefusal Manifest
  | .unreadable => .error ⟨.manifestVerifyFailed, true⟩
  | .malformed => .error ⟨.manifestVerifyFailed, false⟩
  | .parsed manifest =>
    if manifest.archiveSha256 ≠ report.sha256 then .error ⟨.manifestVerifyFailed, false⟩
    else if manifest.archiveSizeBytes ≠ report.sizeBytes then
      .error ⟨.manifestVerifyFailed, false⟩
    else .ok manifest

theorem check_manifest_ok {report : ArchiveReport} {reply : ManifestReply} {manifest : Manifest}
    (checked : checkManifest report reply = .ok manifest) :
    reply = .parsed manifest ∧ manifest.archiveSha256 = report.sha256 ∧
      manifest.archiveSizeBytes = report.sizeBytes := by
  cases reply with
  | unreadable | malformed => cases checked
  | parsed found =>
    simp only [checkManifest] at checked
    split at checked
    · cases checked
    · rename_i sha
      split at checked
      · cases checked
      · rename_i size
        cases checked
        exact ⟨rfl, not_not.mp sha, not_not.mp size⟩

inductive RestoreFailure
  | lockNotAcquired
  | instanceMissing
  | instanceNotRestorable
  | missingArchiveMetadata
  | hostScriptFailed
  | resultParseFailed
  | healthPending
  | dbUpdateFailed

structure RestoreRefusal where
  reason : RestoreFailure
  retryable : Bool

structure Machine where
  node : String
  vmid : Int
  deriving DecidableEq

structure Restored where
  machine : Machine
  ip : String
  pending : Bool

/-- The machine of a `RESULT` line, if it has all its tokens. -/
def restoredOf (tokens : List (String × String)) : Option (String × String × String) :=
  match tokenOf tokens "vmid", tokenOf tokens "ip", tokenOf tokens "host" with
  | some vmid, some ip, some host => some (vmid, ip, host)
  | _, _, _ => none

/-- What the `RESULT` line of the restore script has to say. -/
def readRestoreResult (instanceId : String) (result : HostResult) :
    Except RestoreRefusal Restored :=
  let tokens := parseTokenLine result.stdout "RESULT"
  let status := tokenOf tokens "status"
  let pending := decide (status = some "health_pending") && (restoredOf tokens).isSome
  if result.ok = false ∧ pending = false then .error ⟨.hostScriptFailed, true⟩
  else if pending = false ∧ status ≠ some "ok" then .error ⟨.resultParseFailed, true⟩
  else
    match restoredOf tokens with
    | none => .error ⟨.resultParseFailed, true⟩
    | some (vmid, ip, node) =>
      if (tokenOf tokens "instance").any (· ≠ instanceId) then .error ⟨.resultParseFailed, false⟩
      else
        match parseInt vmid with
        | some (.ofNat (count + 1)) =>
          .ok { machine := { node, vmid := count + 1 }, ip, pending }
        | _ => .error ⟨.resultParseFailed, true⟩

/-- `restoreScriptRefusedPreexistingVmid` -/
def refusedPreexistingVmid (result : HostResult) : Bool :=
  decide ("already exists on".toList <:+: (result.stdout ++ "\n" ++ result.stderr).toList)

def restoreTemplateVmidThreshold : Int := 9000

def canTearDown (vmid : Int) (instanceId : String) : Bool :=
  decide (0 < vmid) && decide (vmid < restoreTemplateVmidThreshold) && isInstanceUuid instanceId

end Hivra.Instances
