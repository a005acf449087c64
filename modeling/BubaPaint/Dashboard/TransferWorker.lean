import BubaPaint.Dashboard.ArtifactFiles
import BubaPaint.Dashboard.ArtifactTransfers
import BubaPaint.Library.Attempts

/-!
# The worker that executes transfers

A worker claims a transfer, copies the files of the artifact into its own directory, checks them
against the manifest there, and registers the artifact under its new place. A file that is there in
part is continued; one that is too long is copied again. If anything fails, the transfer can be
retried.
-/

namespace BubaPaint

open Effects Paths

/-- Runtime configuration for artifact transfer execution. -/
structure ArtifactTransferConfig where
  workRoot : Path
  localMachineId : String

namespace ArtifactTransferConfig

/-- Normalize a path lexically and reject parent traversal. -/
def normalizePath (path : Path) : Except WorkerError Path :=
  lexicalPath "transfer" path

/-- Return an artifact source directory from stored artifact metadata. -/
def artifactSourceRoot (artifact : ResearchArtifact) : Except WorkerError Path :=
  artifactDirectory "transfer" artifact

/-- Return whether two lexical paths normalize to the same path. -/
def samePath (left right : Path) : Except WorkerError Bool := do
  let left ← normalizePath left
  let right ← normalizePath right
  .ok (left = right)

def resolveUnderRoot (root : Path) (path : String) : Except WorkerError Path := do
  let candidate ← normalizePath (root.join (Path.parse path))
  if root <+: candidate then .ok candidate
  else .error (.badRequest s!"transfer path escapes configured root: {candidate.text}")

/-- Return a safe single-directory name for an artifact ID. -/
def artifactDirName (artifactId : String) : Except WorkerError String := do
  let normalized := "/".intercalate (← normalizeRelativePath artifactId)
  if normalized ≠ artifactId ∨ '/' ∈ normalized.toList ∨ '\\' ∈ normalized.toList then
    .error (.badRequest s!"artifact_id is not a safe directory name: {artifactId}")
  else .ok normalized

def destinationRoot (config : ArtifactTransferConfig) (artifactId : String) :
    Except WorkerError Path := do
  let dir ← artifactDirName artifactId
  resolveUnderRoot config.workRoot ("artifacts/" ++ dir)

end ArtifactTransferConfig

/-- Input record for creating or updating an artifact. -/
structure ResearchArtifactRecord where
  id : String
  sourceMachineId : Option String := none
  kind : String
  status : String
  (runMode artifactRoot manifestPath bundlePath sourceDbPath : Option String := none)
  (intervalStartMs intervalEndMs bytes : Option ℕ := none)
  (checksum replayQualityClass backtestReadyClass liveFidelityClass : Option String := none)

namespace TransferStore

variable (store : TransferStore)

def sourceMachine (transfer : ArtifactTransfer) (artifact : ResearchArtifact) :
    Except WorkerError (Option ResearchMachine) :=
  match transfer.sourceMachineId.or artifact.sourceMachineId with
  | none => .ok none
  | some sourceId =>
    match store.machines.find? sourceId with
    | none => .error (.dashboard (.notFound s!"research machine '{sourceId}' not found"))
    | some machine => .ok (some machine)

def artifactOf (transfer : ArtifactTransfer) : Except WorkerError ResearchArtifact :=
  match store.artifacts.find? transfer.artifactId with
  | none => .error (.dashboard (.notFound s!"artifact '{transfer.artifactId}' not found"))
  | some artifact => .ok artifact

/-- Insert or update full run artifact metadata. The machine is a foreign key. -/
def upsertResearchArtifact (record : ResearchArtifactRecord) (now : ℕ) :
    Except DashboardError (ResearchArtifact × TransferStore) := do
  if isBlank record.id then .error (.badRequest "artifact id must not be empty")
  else if isBlank record.kind then .error (.badRequest "artifact kind must not be empty")
  else if String.ofList (trim record.status) ∉ ["available", "archived"] then
    .error (.badRequest "research artifact status must be available or archived")
  else do
    let now ← sqlInteger now
    let intervalStartMs ← record.intervalStartMs.mapM sqlInteger
    let intervalEndMs ← record.intervalEndMs.mapM sqlInteger
    let bytes ← record.bytes.mapM sqlInteger
    if record.sourceMachineId.any fun id => (store.machines.find? id).isNone then .error .database
    else
      let row : ResearchArtifact :=
        { id := record.id, sourceMachineId := record.sourceMachineId, kind := record.kind,
          status := record.status, runMode := record.runMode, artifactRoot := record.artifactRoot,
          manifestPath := record.manifestPath, bundlePath := record.bundlePath,
          sourceDbPath := record.sourceDbPath, intervalStartMs := intervalStartMs,
          intervalEndMs := intervalEndMs, bytes := bytes, checksum := record.checksum,
          replayQualityClass := record.replayQualityClass,
          backtestReadyClass := record.backtestReadyClass,
          liveFidelityClass := record.liveFidelityClass, createdAt := now, updatedAt := now,
          archivedAt := none }
      let artifacts := store.artifacts.upsert row fun old =>
        { row with id := old.id, createdAt := old.createdAt, archivedAt := old.archivedAt }
      match artifacts.find? record.id with
      | none => .error .database
      | some artifact => .ok (artifact, { store with artifacts := artifacts })

end TransferStore

/-- What copying makes of a file: a shorter one gets the rest of the source, a longer one is removed
and copied again, and one of the right length is left alone. -/
def resumeCopy (source : List UInt8) (destination : Option (List UInt8)) : Option (List UInt8) :=
  let oversized := (destination.elim 0 List.length) > source.length
  let destination := if oversized then none else destination
  let destinationLen := destination.elim 0 List.length
  if destinationLen = source.length then destination
  else some (destination.getD [] ++ source.drop destinationLen)

/-- Copy one file with append-style resume when the destination is shorter. -/
def copyFileResumable (source : ArtifactDir) (path : List String) (destination : ArtifactDir) :
    Except WorkerError ArtifactDir :=
  match source path with
  | none => .error (missingFile "stat transfer source")
  | some bytes => .ok (Function.update destination path (resumeCopy bytes (destination path)))

def copySupportFile (source : ArtifactDir) (relativePath : String) (destination : ArtifactDir) :
    Except WorkerError ArtifactDir := do
  let path ← normalizeRelativePath relativePath
  if source path = none then .ok destination
  else copyFileResumable source path destination

/-! ## Attempts -/

/-- What an attempt works on: the dashboard, the destination directory, how often the clock has been
read, and what has been answered to its status updates. -/
structure TransferRun where
  store : TransferStore
  destination : ArtifactDir
  ticks : ℕ
  replies : List (Except DashboardError ArtifactTransfer)

section Attempts

variable (host : ArtifactHost) (config : ArtifactTransferConfig) (source : ArtifactDir)
variable (copyRemoteArtifact :
  ArtifactTransfer → ResearchMachine → Path → Path → Attempt WorkerError TransferRun PUnit)

/-- An operation of the dashboard, at the time of the clock. -/
def askDashboard {α : Type}
    (operation : TransferStore → ℕ → Except DashboardError (α × TransferStore)) :
    Attempt WorkerError TransferRun α :=
  ExceptT.mk fun run : TransferRun =>
    match operation run.store (host.clock run.ticks) with
    | .ok (reply, store) => (.ok reply, { run with store := store, ticks := run.ticks + 1 })
    | .error error => (.error (.dashboard error), { run with ticks := run.ticks + 1 })

def updateArtifactTransferProgress (id : String) (progress : TransferProgress) :
    Attempt WorkerError TransferRun ArtifactTransfer :=
  ExceptT.mk fun run : TransferRun =>
    match run.store.updateArtifactTransferProgress id progress (host.clock run.ticks) with
    | .ok (reply, store) =>
      (.ok reply,
        { run with
          store := store
          ticks := run.ticks + 1
          replies := run.replies ++ [.ok reply] })
    | .error error =>
      (.error (.dashboard error),
        { run with ticks := run.ticks + 1, replies := run.replies ++ [.error error] })

/-- Update transfer progress while preserving monotonic byte counts. -/
def updateRunningProgress (transfer : ArtifactTransfer) (bytesDone : ℕ) (bytesTotal : Option ℕ) :
    Attempt WorkerError TransferRun ArtifactTransfer :=
  updateArtifactTransferProgress host transfer.id
    { status := "running"
      bytesDone := some bytesDone
      bytesTotal := bytesTotal
      checksumStatus := some "verifying"
      error := none }

def writeDestination (copy : ArtifactDir → Except WorkerError ArtifactDir) :
    Attempt WorkerError TransferRun PUnit := do
  let run ← get
  let destination ← .ofExcept (copy run.destination)
  modify fun run => { run with destination := destination }

/-- Copy one listed file and report how far the transfer is. -/
def copyListedFile (transfer : ArtifactTransfer) (manifest : ArtifactManifest)
    (file : ArtifactFile) : Attempt WorkerError TransferRun PUnit := do
  let path ← .ofExcept (normalizeRelativePath file.relativePath)
  writeDestination (copyFileResumable source path)
  let run ← get
  let copied ← .ofExcept (payloadBytesFromManifest run.destination manifest)
  let _ ← updateRunningProgress host transfer copied (some (manifestPayloadBytes manifest))
  pure ⟨⟩

/-- Copy an artifact directory from a local source using resumable file appends. -/
def copyLocalArtifact (transfer : ArtifactTransfer) (sourceRoot destinationRoot : Path) :
    Attempt WorkerError TransferRun PUnit := do
  let same ← .ofExcept (ArtifactTransferConfig.samePath sourceRoot destinationRoot)
  let manifest ← .ofExcept (readManifest host source)
  let total := manifestPayloadBytes manifest
  if same then
    let run ← get
    let bytesDone ← .ofExcept (payloadBytesFromManifest run.destination manifest)
    let _ ← updateRunningProgress host transfer (max bytesDone transfer.bytesDone) (some total)
    pure ⟨⟩
  else
    writeDestination (copySupportFile source "manifest.json")
    writeDestination (copySupportFile source "checksums.sha256")
    let run ← get
    let copied ← .ofExcept (payloadBytesFromManifest run.destination manifest)
    let _ ← updateRunningProgress host transfer (max copied transfer.bytesDone) (some total)
    .forEach manifest.files (copyListedFile host source transfer manifest)

/-- The record of an artifact at its verified local destination. -/
def localArtifactRecord (artifact : ResearchArtifact) (manifest : ArtifactManifest)
    (destinationRoot : Path) (sourceDbPath : Option String) (runtimeDbFile : Option ArtifactFile)
    (verification : ArtifactVerification) : ResearchArtifactRecord where
  id := manifest.artifactId
  sourceMachineId := artifact.sourceMachineId.or manifest.sourceMachineId
  kind := manifest.kind
  status := "available"
  runMode := manifest.runMode.or artifact.runMode
  artifactRoot := some destinationRoot.text
  manifestPath := some (destinationRoot.join (Path.parse "manifest.json")).text
  bundlePath := artifact.bundlePath
  sourceDbPath := sourceDbPath
  intervalStartMs := manifest.intervalStartMs.or artifact.intervalStartMs
  intervalEndMs := manifest.intervalEndMs.or artifact.intervalEndMs
  bytes := some verification.bytesChecked
  checksum := (runtimeDbFile.map (·.sha256)).or (manifest.files.head?.map (·.sha256))
  replayQualityClass := artifact.replayQualityClass
  backtestReadyClass := artifact.backtestReadyClass
  liveFidelityClass := artifact.liveFidelityClass

/-- Persist an artifact row that points at the verified local destination. -/
def upsertLocalArtifact (artifact : ResearchArtifact) (destinationRoot : Path)
    (verification : ArtifactVerification) : Attempt WorkerError TransferRun PUnit := do
  let run ← get
  let manifest ← .ofExcept (readManifest host run.destination)
  let runtimeDbFile := (manifest.files.find? (·.logicalName = "runtime_db")).or
    (manifest.files.find? (·.kind = "sqlite"))
  let sourceDbPath ← .ofExcept (runtimeDbFile.mapM fun file => do
    let path ← normalizeRelativePath file.relativePath
    .ok (destinationRoot.join (path.map .name)).text)
  let _ ← askDashboard host fun store => store.upsertResearchArtifact
    (localArtifactRecord artifact manifest destinationRoot sourceDbPath runtimeDbFile verification)
  pure ⟨⟩

/-- Execute one transfer that has already been claimed. -/
def runClaimed (transfer : ArtifactTransfer) :
    Attempt WorkerError TransferRun ArtifactTransfer := do
  let run ← get
  let artifact ← .ofExcept (run.store.artifactOf transfer)
  let sourceMachine ← .ofExcept (run.store.sourceMachine transfer artifact)
  let sourceRoot ← .ofExcept (ArtifactTransferConfig.artifactSourceRoot artifact)
  let destinationRoot ← .ofExcept (config.destinationRoot artifact.id)
  match sourceMachine.filter (·.id ≠ config.localMachineId) with
  | none => copyLocalArtifact host source transfer sourceRoot destinationRoot
  | some machine => copyRemoteArtifact transfer machine sourceRoot destinationRoot
  let run ← get
  let verification ← .ofExcept (verifyArtifact host run.destination)
  upsertLocalArtifact host artifact destinationRoot verification
  updateArtifactTransferProgress host transfer.id
    { status := "completed"
      bytesDone := some verification.bytesChecked
      bytesTotal := some verification.bytesChecked
      checksumStatus := some "verified"
      error := none }

/-- Mark a failed transfer as retryable unless it became terminal meanwhile. -/
def markRetryable (transfer : ArtifactTransfer) (error : String) :
    Attempt WorkerError TransferRun (Option ArtifactTransfer) := do
  let run ← get
  let current ← .ofExcept (ofDashboard (run.store.queryArtifactTransfer transfer.id))
  if current.status.IsTerminal then pure (some current)
  else do
    let failed ← updateArtifactTransferProgress host transfer.id
      { status := "retryable"
        bytesDone := some current.bytesDone
        bytesTotal := current.bytesTotal
        checksumStatus := some "failed"
        error := some error }
    pure (some failed)

/-- Claim and process one queued or retryable transfer for this worker. -/
def runOne : Attempt WorkerError TransferRun (Option ArtifactTransfer) := do
  let claimed ← askDashboard host fun store =>
    store.claimNextArtifactTransfer config.localMachineId
  match claimed with
  | none => pure none
  | some transfer =>
    ExceptT.mk fun run : TransferRun =>
      match (runClaimed host config source copyRemoteArtifact transfer).outcome run with
      | (.ok completed, run') => (.ok (some completed), run')
      | (.error error, run') => (markRetryable host transfer error.text).outcome run'

end Attempts

end BubaPaint
