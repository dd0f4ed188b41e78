import Hivra.Library.Typestates
import Hivra.Instances.ColdArchives
import Hivra.Instances.PurgeRuns

/-!
# Cold storage

A stopped instance is archived: its row is locked, a host script copies the machine to the storage
box, the manifest is read back, the row goes cold, and only then the machine is destroyed.  A cold
row is restored onto a new machine, or, once its time is over, its archive is moved to the trash.
Every statement and every host script is one request, on one row.  How old a row is, DNS, routing
and the clones of a restore are left out.
-/

namespace Hivra.Instances

open Hivra.Library

/-! ## The row -/

inductive LifecycleSubstate
  | archivingStarting
  | restoringStarting
  | restoreHealthPending
  | dormantArchiveRecorded
  deriving DecidableEq

structure ColdRow where
  lifecycleState : LifecycleState
  lifecycleSubstate : Option LifecycleSubstate
  pausedReason : Option String
  proxmoxNode : Option String
  proxmoxVmid : Option Int
  archiveUri : Option String
  archiveSha256 : Option String
  archiveSizeBytes : Option Nat
  archivedAt : Option String
  archiveCount : Option Nat
  /-- `deleted_at` is set. -/
  isDeleted : Bool
  deriving DecidableEq

def maxSafeInteger : Int := 2 ^ 53 - 1

structure Archive where
  uri : String
  sha256 : String
  sizeBytes : Nat
  archivedAt : String
  deriving DecidableEq

namespace ColdRow

def machine (row : ColdRow) : Option Machine :=
  match row.proxmoxNode, row.proxmoxVmid with
  | some node, some vmid => some { node, vmid }
  | _, _ => none

def archivable (row : ColdRow) : Option Machine :=
  row.machine.filter fun machine =>
    decide (machine.node ≠ "") && decide (0 < machine.vmid) && decide (machine.vmid ≤ maxSafeInteger)

def hasArchive (row : ColdRow) : Bool :=
  row.archiveUri.any (· ≠ "") && row.archiveSha256.any (· ≠ "")

def isFailedButRestorable (row : ColdRow) : Bool :=
  row.lifecycleState == .failed && row.hasArchive && row.proxmoxVmid.isNone

def isRestorable (row : ColdRow) : Bool :=
  row.lifecycleState == .coldArchived || row.lifecycleState == .pendingDeletion ||
    row.isFailedButRestorable

/-- The filters of `loadOrphanRestoreCandidates`. -/
def isOrphanRestore (row : ColdRow) : Bool :=
  row.lifecycleSubstate == some .restoringStarting && row.proxmoxVmid.isNone &&
    row.archiveUri.isSome && row.archiveSha256.isSome && !row.isDeleted &&
      (row.lifecycleState == .restoring || row.lifecycleState == .failed ||
        row.lifecycleState == .provisioning)

def lockedArchiving (row : ColdRow) : ColdRow :=
  { row with
    lifecycleState := .archiving
    lifecycleSubstate := some .archivingStarting }

def revertedToPaused (row : ColdRow) (pausedReason : String) : ColdRow :=
  { row with
    lifecycleState := .paused
    lifecycleSubstate := none
    pausedReason := some pausedReason }

def recoveredPaused (row : ColdRow) : ColdRow :=
  { row with
    lifecycleState := .paused
    lifecycleSubstate := none }

def coldArchived (row : ColdRow) (archive : Archive) (archiveCount : Nat) : ColdRow :=
  { row with
    lifecycleState := .coldArchived
    lifecycleSubstate := none
    pausedReason := some "cold_archived"
    archiveUri := some archive.uri
    archivedAt := some archive.archivedAt
    archiveSizeBytes := some archive.sizeBytes
    archiveSha256 := some archive.sha256
    archiveCount := some archiveCount
    proxmoxNode := none
    proxmoxVmid := none }

def lockedRestoring (row : ColdRow) : ColdRow :=
  { row with
    lifecycleState := .restoring
    lifecycleSubstate := some .restoringStarting }

def revertedTo (row : ColdRow) (previous : LifecycleState) : ColdRow :=
  { row with
    lifecycleState := previous
    lifecycleSubstate := none }

/-- `buildClearedArchivePointerPatch` -/
def clearedArchivePointer (row : ColdRow) : ColdRow :=
  { row with
    archiveUri := none
    archiveSha256 := none
    archiveSizeBytes := none
    archivedAt := none }

def restored (row : ColdRow) (machine : Machine) : ColdRow :=
  { row.clearedArchivePointer with
    lifecycleState := .active
    lifecycleSubstate := none
    pausedReason := none
    proxmoxNode := some machine.node
    proxmoxVmid := some machine.vmid }

def parked (row : ColdRow) (machine : Machine) : ColdRow :=
  { row with
    lifecycleState := .restoring
    lifecycleSubstate := some .restoreHealthPending
    pausedReason := none
    proxmoxNode := some machine.node
    proxmoxVmid := some machine.vmid }

def promoted (row : ColdRow) : ColdRow :=
  { row.clearedArchivePointer with
    lifecycleState := .active
    lifecycleSubstate := none
    pausedReason := none }

def resetToCold (row : ColdRow) : ColdRow :=
  { row with
    lifecycleState := .coldArchived
    lifecycleSubstate := none
    pausedReason := some "cold_archived"
    proxmoxNode := none
    proxmoxVmid := none }

def adopted (row : ColdRow) (machine : Machine) : ColdRow :=
  { row with
    lifecycleState := .restoring
    lifecycleSubstate := some .restoreHealthPending
    proxmoxNode := some machine.node
    proxmoxVmid := some machine.vmid }

def markedPending (row : ColdRow) : ColdRow := { row with lifecycleState := .pendingDeletion }

def purged (row : ColdRow) : ColdRow :=
  { row with
    lifecycleState := .deleted
    lifecycleSubstate := none
    archiveUri := none
    isDeleted := true }

end ColdRow

/-! ## Requests -/

structure Destination where
  machine : Machine
  templateVmid : Int
  targetDiskGb : Int
  deriving DecidableEq

inductive Discovery
  | incomplete
  | noClone
  | notServing
  | keeper (machine : Machine)

inductive ColdCall
  | fetchInstance
  /-- `resolveProxmoxHostEnv`, which may throw. -/
  | resolveHostEnv (node : String)
  | lockArchiving
  | archiveScript (machine : Machine)
  | fetchManifest (path : String)
  | markColdArchived (archive : Archive) (archiveCount : Nat)
  | destroyMachine (machine : Machine)
  | revertToPaused (pausedReason : String)
  | recoverArchiving
  /-- `getProxmoxVmidAvailability` -/
  | findDestination
  | lockRestoring (previous : LifecycleState)
  /-- The first half of the restore script: the archive is downloaded and its digest checked. -/
  | readArchive (archiveUri archiveSha256 : String)
  /-- The other half. -/
  | bootClone (destination : Destination)
  | tearDownClone (destination : Destination)
  | markActive (machine : Machine)
  | parkHealthPending (machine : Machine)
  | revertRestoring (previous : LifecycleState)
  | selectRestoring
  | probeHealth
  | promoteRestored
  | selectOrphan
  | discoverClones
  | resetToCold
  | adoptKeeper (machine : Machine)
  | applyRouting
  | selectMarkable
  | markPending
  | selectDue
  | moveArchive (parent : String)
  | markPurged

/-- An outer `none` and a `false` are errors, the inner option or Boolean says whether the
statement found the row. -/
@[reducible]
def ColdCall.Reply : ColdCall → Type
  | .fetchInstance => Option (Option ColdRow)
  | .resolveHostEnv _ => Bool
  | .lockArchiving => Option Bool
  | .archiveScript _ => HostResult
  | .fetchManifest _ => ManifestReply
  | .markColdArchived _ _ => Option Bool
  | .destroyMachine _ => Bool
  | .revertToPaused _ => Option Bool
  | .recoverArchiving => Bool
  | .findDestination => Option Destination
  | .lockRestoring _ => Option Bool
  | .readArchive _ _ => Bool
  | .bootClone _ => HostResult
  | .tearDownClone _ => Bool
  | .markActive _ => Option Bool
  | .parkHealthPending _ => Option Bool
  | .revertRestoring _ => Option Bool
  | .selectRestoring => Option Bool
  | .probeHealth => Bool
  | .promoteRestored => Bool
  | .selectOrphan => Option Bool
  | .discoverClones => Discovery
  | .resetToCold => Bool
  | .adoptKeeper _ => Option Bool
  | .applyRouting => Bool
  | .selectMarkable => Option Bool
  | .markPending => Option Bool
  | .selectDue => Option Bool
  | .moveArchive _ => Bool
  | .markPurged => Option Bool

abbrev ColdScript (Outcome : Type) : Type := Script ColdCall ColdCall.Reply String Outcome

/-! ## Archiving -/

inductive ColdArchiveResult
  | archived (machine : Machine) (archive : Archive)
  | refused (refusal : ArchiveRefusal) (revertFailed : Bool)

/-- `revertToPaused` -/
def revertArchive (row : ColdRow) (refusal : ArchiveRefusal) : ColdScript ColdArchiveResult := do
  let pausedReason := row.pausedReason.getD "inactivity"
  let reverted : Option Bool ← Script.request (ColdCall.revertToPaused pausedReason)
  pure (.refused refusal (decide (reverted ≠ some true)))

def retireMachine (row : ColdRow) (machine : Machine) (archive : Archive) :
    ColdScript ColdArchiveResult := do
  let archiveCount := row.archiveCount.getD 0 + 1
  let moved : Option Bool ← Script.request (ColdCall.markColdArchived archive archiveCount)
  if moved = some true then do
    let destroyed : Bool ← Script.request (ColdCall.destroyMachine machine)
    pure (if destroyed = true then .archived machine archive
      else .refused ⟨.destroyFailed, true⟩ false)
  else revertArchive row ⟨.dbUpdateFailed, true⟩

def confirmArchive (instanceId : String) (row : ColdRow) (machine : Machine)
    (report : ArchiveReport) : ColdScript ColdArchiveResult := do
  let path := manifestPath instanceId report.ts
  let reply : ManifestReply ← Script.request (ColdCall.fetchManifest path)
  match checkManifest report reply with
  | .error refusal => revertArchive row refusal
  | .ok manifest =>
    retireMachine row machine
      { uri := archivePath instanceId report.ts
        sha256 := report.sha256
        sizeBytes := report.sizeBytes
        archivedAt := manifest.archivedAt }

def archiveInstanceAfterLock (instanceId : String) (row : ColdRow) (machine : Machine) :
    ColdScript ColdArchiveResult := do
  let configured : Bool ← Script.request (ColdCall.resolveHostEnv machine.node)
  if configured = true then do
    let result : HostResult ← Script.request (ColdCall.archiveScript machine)
    match readArchiveReport instanceId result with
    | .error refusal => revertArchive row refusal
    | .ok report => confirmArchive instanceId row machine report
  else throw "no matching environment overrides"

def lockAndArchive (instanceId : String) (row : ColdRow) (machine : Machine) :
    ColdScript ColdArchiveResult := do
  let locked : Option Bool ← Script.request ColdCall.lockArchiving
  match locked with
  | none => throw "archiveInstance lock CAS failed"
  | some false => pure (.refused ⟨.lockNotAcquired, true⟩ false)
  | some true =>
    (archiveInstanceAfterLock instanceId row machine).handle fun _ =>
      revertArchive row ⟨.hostScriptFailed, true⟩

def archiveFetched (instanceId : String) (row : ColdRow) : ColdScript ColdArchiveResult :=
  if row.lifecycleState ≠ .paused then pure (.refused ⟨.instanceNotArchivable, false⟩ false)
  else
    match row.archivable with
    | none => pure (.refused ⟨.instanceNotArchivable, false⟩ false)
    | some machine => lockAndArchive instanceId row machine

def archiveInstance (instanceId : String) : ColdScript ColdArchiveResult :=
  if isInstanceUuid instanceId = false then
    pure (.refused ⟨.instanceNotArchivable, false⟩ false)
  else do
    let found : Option (Option ColdRow) ← Script.request ColdCall.fetchInstance
    match found with
    | none => throw "fetchInstance failed"
    | some none => pure (.refused ⟨.instanceMissing, false⟩ false)
    | some (some row) => archiveFetched instanceId row

/-- The archive cron gives back the rows that are stuck in `archiving`. -/
def recoverStuckArchiving : ColdScript Unit := do
  let _ : Bool ← Script.request ColdCall.recoverArchiving
  pure ()

/-! ## Restoring -/

inductive ColdRestoreResult
  | restored (machine : Machine) (ip : String)
  | refused (refusal : RestoreRefusal) (revertFailed : Bool)

/-- `revertToCold` -/
def revertRestore (previous : LifecycleState) (refusal : RestoreRefusal) :
    ColdScript ColdRestoreResult := do
  let reverted : Option Bool ← Script.request (ColdCall.revertRestoring previous)
  pure (.refused refusal (decide (reverted ≠ some true)))

/-- `teardownFailedRestoreCloneBestEffort` -/
def tearDownFailedClone (instanceId : String) (destination : Destination) (result : HostResult) :
    ColdScript Unit :=
  if refusedPreexistingVmid result = true then pure ()
  else if canTearDown destination.machine.vmid instanceId = false then pure ()
  else do
    let _ : Bool ← Script.request (ColdCall.tearDownClone destination)
    pure ()

def recordRestored (found : Restored) : ColdScript ColdRestoreResult :=
  if found.pending = true then do
    let parked : Option Bool ← Script.request (ColdCall.parkHealthPending found.machine)
    pure (.refused ⟨if parked = some true then .healthPending else .dbUpdateFailed, false⟩ false)
  else do
    let moved : Option Bool ← Script.request (ColdCall.markActive found.machine)
    pure (if moved = some true then .restored found.machine found.ip
      else .refused ⟨.dbUpdateFailed, false⟩ false)

def restoreScript (archiveUri archiveSha256 : String) (destination : Destination) :
    ColdScript HostResult := do
  let verified : Bool ← Script.request (ColdCall.readArchive archiveUri archiveSha256)
  if verified = true then Script.request (ColdCall.bootClone destination)
  else pure .failed

def finishRestore (instanceId : String) (previous : LifecycleState) (destination : Destination)
    (result : HostResult) : ColdScript ColdRestoreResult :=
  match readRestoreResult instanceId result with
  | .ok found => recordRestored found
  | .error refusal => do
    tearDownFailedClone instanceId destination result
    revertRestore previous refusal

def Destination.isValid (destination : Destination) : Bool :=
  decide (0 < destination.machine.vmid) && decide (destination.machine.vmid ≤ maxSafeInteger) &&
    decide (0 < destination.templateVmid) && decide (destination.templateVmid ≤ maxSafeInteger) &&
      decide (-maxSafeInteger ≤ destination.targetDiskGb) &&
        decide (destination.targetDiskGb ≤ maxSafeInteger)

def restoreInstanceAfterLock (instanceId archiveUri archiveSha256 : String)
    (previous : LifecycleState) (destination : Destination) : ColdScript ColdRestoreResult :=
  if destination.isValid = false then revertRestore previous ⟨.hostScriptFailed, false⟩
  else do
    let configured : Bool ← Script.request (ColdCall.resolveHostEnv destination.machine.node)
    if configured = true then do
      let result ← restoreScript archiveUri archiveSha256 destination
      finishRestore instanceId previous destination result
    else throw "no matching environment overrides"

def lockAndRestore (instanceId archiveUri archiveSha256 : String) (previous : LifecycleState)
    (destination : Destination) : ColdScript ColdRestoreResult := do
  let locked : Option Bool ← Script.request (ColdCall.lockRestoring previous)
  match locked with
  | none => throw "restoreInstance lock CAS failed"
  | some false => pure (.refused ⟨.lockNotAcquired, true⟩ false)
  | some true =>
    (restoreInstanceAfterLock instanceId archiveUri archiveSha256 previous destination).handle
      fun _ => revertRestore previous ⟨.hostScriptFailed, true⟩

def restoreFetched (instanceId : String) (row : ColdRow) (destination : Destination) :
    ColdScript ColdRestoreResult :=
  if row.isRestorable = false then pure (.refused ⟨.instanceNotRestorable, false⟩ false)
  else
    match row.archiveUri, row.archiveSha256 with
    | some archiveUri, some archiveSha256 =>
      if row.hasArchive = false then pure (.refused ⟨.missingArchiveMetadata, false⟩ false)
      else if isInstanceUuid instanceId = false ∨ isValidColdArchiveUri archiveUri = false then
        pure (.refused ⟨.missingArchiveMetadata, false⟩ false)
      else lockAndRestore instanceId archiveUri archiveSha256 row.lifecycleState destination
    | _, _ => pure (.refused ⟨.missingArchiveMetadata, false⟩ false)

def restoreInstance (instanceId : String) (destination : Destination) :
    ColdScript ColdRestoreResult := do
  let found : Option (Option ColdRow) ← Script.request ColdCall.fetchInstance
  match found with
  | none => throw "fetchInstance failed"
  | some none => pure (.refused ⟨.instanceMissing, false⟩ false)
  | some (some row) => restoreFetched instanceId row destination

/-- `orchestrateColdRestore`: the machine goes where the host has no machine. -/
def orchestrateColdRestore (instanceId : String) : ColdScript Unit := do
  let destination : Option Destination ← Script.request ColdCall.findDestination
  match destination with
  | none => pure ()
  | some destination => do
    let _ ← restoreInstance instanceId destination
    pure ()

/-! ## Restores that were left behind -/

/-- `runRecoverStuckRestoringSweep` -/
def recoverStuckRestoring : ColdScript Unit := do
  let found : Option Bool ← Script.request ColdCall.selectRestoring
  match found with
  | none => throw "Failed to load stuck restoring instances"
  | some false => pure ()
  | some true => do
    let healthy : Bool ← Script.request ColdCall.probeHealth
    if healthy = true then do
      let _ : Bool ← Script.request ColdCall.promoteRestored
      pure ()
    else pure ()

def adoptKeeper (keeper : Machine) : ColdScript Unit := do
  let claimed : Option Bool ← Script.request (ColdCall.adoptKeeper keeper)
  if claimed = some true then do
    let routed : Bool ← Script.request ColdCall.applyRouting
    if routed = true then do
      let _ : Bool ← Script.request ColdCall.promoteRestored
      pure ()
    else pure ()
  else pure ()

/-- `runColdRestoreOrphanAdoptionSweep`; the duplicates that it reaps are clones. -/
def adoptOrphanRestore : ColdScript Unit := do
  let found : Option Bool ← Script.request ColdCall.selectOrphan
  match found with
  | none => throw "orphan-restore candidate query failed"
  | some false => pure ()
  | some true => do
    let discovery : Discovery ← Script.request ColdCall.discoverClones
    match discovery with
    | .incomplete => pure ()
    | .notServing => pure ()
    | .noClone => do
      let _ : Bool ← Script.request ColdCall.resetToCold
      pure ()
    | .keeper machine => adoptKeeper machine

/-! ## Purging -/

inductive ColdPurgeResult
  | purged
  | missingArchiveMetadata
  | hostScriptFailed
  | dbUpdateFailed

def trashArchive (archiveUri hostSlug : String) : ColdScript ColdPurgeResult := do
  let configured : Bool ← Script.request (ColdCall.resolveHostEnv hostSlug)
  if configured = true then do
    let gone : Bool ← Script.request (ColdCall.moveArchive (parentPath archiveUri))
    if gone = true then do
      let marked : Option Bool ← Script.request ColdCall.markPurged
      pure (if marked = some true then .purged else .dbUpdateFailed)
    else pure .hostScriptFailed
  else throw "no matching environment overrides"

def purgeArchive (instanceId hostSlug : String) : ColdScript ColdPurgeResult := do
  let found : Option (Option ColdRow) ← Script.request ColdCall.fetchInstance
  match found with
  | none => throw "fetchInstance failed"
  | some none => pure .missingArchiveMetadata
  | some (some row) =>
    match row.archiveUri with
    | none => pure .missingArchiveMetadata
    | some archiveUri =>
      if archiveUri = "" then pure .missingArchiveMetadata
      else if isInstanceUuid instanceId = false ∨ isValidColdArchiveUri archiveUri = false then
        pure .missingArchiveMetadata
      else trashArchive archiveUri hostSlug

def markForDeletion : ColdScript Unit := do
  let found : Option Bool ← Script.request ColdCall.selectMarkable
  match found with
  | none => throw "candidate query failed"
  | some false => pure ()
  | some true => do
    let _ : Option Bool ← Script.request ColdCall.markPending
    pure ()

def purgeDue (instanceId : String) (purgeHost : Option String) : ColdScript Unit := do
  let due : Option Bool ← Script.request ColdCall.selectDue
  match due, purgeHost with
  | none, _ => throw "due-rows query failed"
  | some false, _ => pure ()
  | some true, none => throw "COLD_STORAGE_PURGE_HOST is required when archive purging is enabled"
  | some true, some hostSlug => do
    let _ ← purgeArchive instanceId hostSlug
    pure ()

def coldRetentionSweep (instanceId : String) (purgeHost : Option String) : ColdScript Unit := do
  markForDeletion
  purgeDue instanceId purgeHost

/-! ## The store -/

structure ColdProgress where
  /-- The manifest it fetched. -/
  fetched : Option Manifest
  /-- The archive it moved the row to `cold_archived` with. -/
  moved : Option Archive
  /-- It destroyed the machine that the row named first. -/
  destroyed : Bool
  /-- The state the row was in when the run moved its archive away. -/
  trashedFrom : Option LifecycleState
  /-- The state the row was in when the run marked it deleted. -/
  purgedFrom : Option LifecycleState
  /-- It read an archive for a restore; whether that had been moved away. -/
  readTrashed : Option Bool
  /-- It wrote a restored machine down. -/
  restored : Bool

namespace ColdProgress

def initial : ColdProgress :=
  { fetched := none
    moved := none
    destroyed := false
    trashedFrom := none
    purgedFrom := none
    readTrashed := none
    restored := false }

def fetches (held : ColdProgress) (manifest : Manifest) : ColdProgress :=
  { held with fetched := some manifest }

def moves (held : ColdProgress) (archive : Archive) : ColdProgress :=
  { held with moved := some archive }

def destroys (held : ColdProgress) : ColdProgress := { held with destroyed := true }

def trashes (held : ColdProgress) (from_ : LifecycleState) : ColdProgress :=
  { held with trashedFrom := some from_ }

def purges (held : ColdProgress) (from_ : LifecycleState) : ColdProgress :=
  { held with purgedFrom := some from_ }

def reads (held : ColdProgress) (trashed : Bool) : ColdProgress :=
  { held with readTrashed := some trashed }

def restores (held : ColdProgress) : ColdProgress := { held with restored := true }

end ColdProgress

inductive LateScript
  | destroyMachine (number : Nat) (machine : Machine)
  | tearDownClone (number : Nat) (destination : Destination)

structure ColdStore where
  row : ColdRow
  /-- What is under a path of the storage box, as a manifest. -/
  manifests : String → ManifestReply
  /-- The files of the storage box, with their digests. -/
  files : List (String × String)
  /-- The machine that the row named first, and whether it is there. -/
  source : Machine
  stands : Bool
  late : List LateScript
  /-- The manifests that were fetched. -/
  read : List Manifest
  /-- The files that were moved to the trash. -/
  trash : List String
  progress : Nat → ColdProgress

inductive ColdFault
  | none_
  | failed
  /-- It took effect, and the answer was lost. -/
  | lost
  /-- The host script goes on after its caller gave up. -/
  | late
  deriving DecidableEq

structure ColdTurn where
  fault : ColdFault
  /-- The row is old enough for the cron, and meets its other filters. -/
  due : Bool
  answers : Bool
  host : HostResult
  destination : Destination
  discovery : Discovery

namespace ColdStore

def note (store : ColdStore) (number : Nat) (noted : ColdProgress → ColdProgress) : ColdStore :=
  { store with
    progress := fun other =>
      if other = number then noted (store.progress number) else store.progress other }

def write (store : ColdStore) (row : ColdRow) : ColdStore := { store with row }

def writeWhere (store : ColdStore) (found : Bool) (row : ColdRow) : ColdStore :=
  if found then store.write row else store

/-- `qm destroy` -/
def destroy (store : ColdStore) (number : Nat) (machine : Machine) : ColdStore :=
  if machine = store.source ∧ store.stands = true then
    { store.note number ColdProgress.destroys with stands := false }
  else store

def fetch (store : ColdStore) (number : Nat) (path : String) : ColdStore :=
  match store.manifests path with
  | .parsed manifest =>
    { store.note number fun held => held.fetches manifest with read := manifest :: store.read }
  | _ => store

def trashUnder (store : ColdStore) (number : Nat) (parent : String) : ColdStore :=
  { store.note number fun held => held.trashes store.row.lifecycleState with
    files := store.files.filter fun file => !isUnder parent file.1
    trash := store.trash ++ (store.files.filter fun file => isUnder parent file.1).map (·.1) }

def hasUnder (store : ColdStore) (parent : String) : Bool :=
  store.files.any fun file => isUnder parent file.1

def isTaken (store : ColdStore) (machine : Machine) : Bool :=
  decide (machine = store.source) && store.stands

end ColdStore

def answerCold (number : Nat) (call : ColdCall) (turn : ColdTurn) (store : ColdStore) :
    ColdStore × call.Reply :=
  let row := store.row
  match call with
  | .fetchInstance => (store, some (if row.isDeleted then none else some row))
  | .resolveHostEnv _ => (store, turn.answers)
  | .lockArchiving =>
    let found := row.lifecycleState == .paused && !row.isDeleted
    (store.writeWhere found row.lockedArchiving, some found)
  | .archiveScript _ => (store, turn.host)
  | .fetchManifest path => (store.fetch number path, store.manifests path)
  | .markColdArchived archive archiveCount =>
    if row.lifecycleState = .archiving then
      ((store.note number fun held => held.moves archive).write
        (row.coldArchived archive archiveCount), some true)
    else (store, some false)
  | .destroyMachine machine => (store.destroy number machine, true)
  | .revertToPaused pausedReason =>
    let found := row.lifecycleState == .archiving
    (store.writeWhere found (row.revertedToPaused pausedReason), some found)
  | .recoverArchiving =>
    (store.writeWhere (row.lifecycleState == .archiving && turn.due && !row.isDeleted)
      row.recoveredPaused, true)
  | .findDestination =>
    (store, if store.isTaken turn.destination.machine then none else some turn.destination)
  | .lockRestoring previous =>
    let found := row.lifecycleState == previous && !row.isDeleted
    (store.writeWhere found row.lockedRestoring, some found)
  | .readArchive archiveUri archiveSha256 =>
    if (archiveUri, archiveSha256) ∈ store.files then
      (store.note number fun held => held.reads (decide (archiveUri ∈ store.trash)), true)
    else (store, false)
  | .bootClone _ => (store, turn.host)
  | .tearDownClone destination => (store.destroy number destination.machine, true)
  | .markActive machine =>
    if row.lifecycleState = .restoring then
      ((store.note number ColdProgress.restores).write (row.restored machine), some true)
    else (store, some false)
  | .parkHealthPending machine =>
    if row.lifecycleState = .restoring then
      ((store.note number ColdProgress.restores).write (row.parked machine), some true)
    else (store, some false)
  | .revertRestoring previous =>
    let found := row.lifecycleState == .restoring
    (store.writeWhere found (row.revertedTo previous), some found)
  | .selectRestoring =>
    (store, some (row.lifecycleState == .restoring && turn.due && !row.isDeleted))
  | .probeHealth => (store, turn.answers)
  | .promoteRestored =>
    (store.writeWhere (row.lifecycleState == .restoring) row.promoted, true)
  | .selectOrphan => (store, some (row.isOrphanRestore && turn.due))
  | .discoverClones => (store, turn.discovery)
  | .resetToCold =>
    (store.writeWhere (row.lifecycleSubstate == some .restoringStarting) row.resetToCold, true)
  | .adoptKeeper machine =>
    let found := row.lifecycleSubstate == some .restoringStarting && row.proxmoxVmid.isNone
    (store.writeWhere found (row.adopted machine), some found)
  | .applyRouting => (store, turn.answers)
  | .selectMarkable =>
    (store, some (row.lifecycleState == .coldArchived && turn.due && !row.isDeleted))
  | .markPending =>
    let found := row.lifecycleState == .coldArchived
    (store.writeWhere found row.markedPending, some found)
  | .selectDue =>
    (store, some (row.lifecycleState == .pendingDeletion && turn.due && !row.isDeleted))
  | .moveArchive parent =>
    if store.hasUnder parent then (store.trashUnder number parent, true) else (store, false)
  | .markPurged =>
    ((store.note number fun held => held.purges row.lifecycleState).write row.purged, some true)

def failCold (call : ColdCall) : call.Reply :=
  match call with
  | .fetchInstance => none
  | .resolveHostEnv _ => false
  | .lockArchiving => none
  | .archiveScript _ => HostResult.failed
  | .fetchManifest _ => ManifestReply.unreadable
  | .markColdArchived _ _ => none
  | .destroyMachine _ => false
  | .revertToPaused _ => none
  | .recoverArchiving => false
  | .findDestination => none
  | .lockRestoring _ => none
  | .readArchive _ _ => false
  | .bootClone _ => HostResult.failed
  | .tearDownClone _ => false
  | .markActive _ => none
  | .parkHealthPending _ => none
  | .revertRestoring _ => none
  | .selectRestoring => none
  | .probeHealth => false
  | .promoteRestored => false
  | .selectOrphan => none
  | .discoverClones => Discovery.incomplete
  | .resetToCold => false
  | .adoptKeeper _ => none
  | .applyRouting => false
  | .selectMarkable => none
  | .markPending => none
  | .selectDue => none
  | .moveArchive _ => false
  | .markPurged => none

/-- A script that destroys a machine may end after its caller gave up.  A move to the trash may
not: it renames two directories, and is taken to be over within the minute it is given. -/
def lateScript (number : Nat) : ColdCall → Option LateScript
  | .destroyMachine machine => some (.destroyMachine number machine)
  | .tearDownClone destination => some (.tearDownClone number destination)
  | _ => none

def performCold (number : Nat) (call : ColdCall) (turn : ColdTurn) (store : ColdStore) :
    ColdStore × call.Reply :=
  match turn.fault with
  | .none_ => answerCold number call turn store
  | .failed => (store, failCold call)
  | .lost => ((answerCold number call turn store).1, failCold call)
  | .late =>
    match lateScript number call with
    | some script => ({ store with late := script :: store.late }, failCold call)
    | none => (store, failCold call)

/-! ## Systems -/

/-- What happens besides the runs: the archive scripts write, whether their callers are still
there or not, and a script that was given up runs to its end. -/
inductive ColdChange
  | writeFile (ts sha256 : String)
  | writeManifest (ts sha256 : String) (sizeBytes : Nat) (archivedAt : String)
  | garbleManifest (ts : String)
  | finish (index : Nat)

def LateScript.run (script : LateScript) (store : ColdStore) : ColdStore :=
  match script with
  | .destroyMachine number machine => store.destroy number machine
  | .tearDownClone number destination => store.destroy number destination.machine

def ColdStore.putManifest (store : ColdStore) (path : String) (reply : ManifestReply) : ColdStore :=
  { store with
    manifests := fun other => if other = path then reply else store.manifests other }

def ColdStore.change (instanceId : String) (change : ColdChange) (store : ColdStore) : ColdStore :=
  match change with
  | .writeFile ts sha256 =>
    { store with files := (archivePath instanceId ts, sha256) :: store.files }
  | .writeManifest ts sha256 sizeBytes archivedAt =>
    store.putManifest (manifestPath instanceId ts)
      (.parsed
        { archiveUri := archivePath instanceId ts
          archiveSha256 := sha256
          archiveSizeBytes := sizeBytes
          archivedAt })
  | .garbleManifest ts => store.putManifest (manifestPath instanceId ts) .malformed
  | .finish index =>
    match store.late[index]? with
    | some script => script.run { store with late := store.late.eraseIdx index }
    | none => store

inductive ArchiveJob
  | archiveInstance
  | recoverStuckArchiving
  | restoreInstance

def ArchiveJob.script (instanceId : String) : ArchiveJob → ColdScript Unit
  | .archiveInstance => do
    let _ ← Hivra.Instances.archiveInstance instanceId
    pure ()
  | .recoverStuckArchiving => Hivra.Instances.recoverStuckArchiving
  | .restoreInstance => orchestrateColdRestore instanceId

def archiveSystem (instanceId : String) :
    System ArchiveJob ColdCall ColdCall.Reply String Unit ColdStore ColdTurn ColdChange :=
  { program := ArchiveJob.script instanceId
    perform := performCold
    change := ColdStore.change instanceId }

inductive RetentionJob
  | coldRetentionSweep (purgeHost : Option String)
  | restoreInstance
  | recoverStuckRestoring
  | adoptOrphanRestore

def RetentionJob.script (instanceId : String) : RetentionJob → ColdScript Unit
  | .coldRetentionSweep purgeHost => Hivra.Instances.coldRetentionSweep instanceId purgeHost
  | .restoreInstance => orchestrateColdRestore instanceId
  | .recoverStuckRestoring => Hivra.Instances.recoverStuckRestoring
  | .adoptOrphanRestore => Hivra.Instances.adoptOrphanRestore

def retentionSystem (instanceId : String) :
    System RetentionJob ColdCall ColdCall.Reply String Unit ColdStore ColdTurn Empty :=
  { program := RetentionJob.script instanceId
    perform := performCold
    change := fun change => nomatch change }

end Hivra.Instances
