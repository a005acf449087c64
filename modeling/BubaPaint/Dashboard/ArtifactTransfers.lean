import BubaPaint.Dashboard.Artifacts
import BubaPaint.Library.Guards
import Mathlib.Data.String.Basic

/-!
# The artifact transfers of the dashboard

A transfer moves an artifact to a machine. Operators create, pause, resume, cancel and retry it; the
workers of the machine claim it, report how far they are, and take back transfers that have become
stale. A row does not say which worker has claimed it.
-/

namespace BubaPaint

open Effects

/-- The lifecycle status of a transfer. -/
inductive ArtifactTransferStatus where
  | queued
  | running
  | retryable
  | paused
  | failed
  | cancelled
  | completed
  deriving DecidableEq

def ArtifactTransferStatus.asStr : ArtifactTransferStatus → String
  | .queued => "queued"
  | .running => "running"
  | .retryable => "retryable"
  | .paused => "paused"
  | .failed => "failed"
  | .cancelled => "cancelled"
  | .completed => "completed"

/-- The status does not change any more. -/
def ArtifactTransferStatus.IsTerminal (status : ArtifactTransferStatus) : Prop :=
  status = .completed ∨ status = .cancelled

instance (status : ArtifactTransferStatus) : Decidable status.IsTerminal :=
  inferInstanceAs (Decidable (_ ∨ _))

/-- Checksum state of a transfer. -/
inductive TransferChecksumStatus where
  | pending
  | verifying
  | verified
  | failed
  | skipped
  deriving DecidableEq

def validateTransferStatus (status : String) : Except DashboardError ArtifactTransferStatus :=
  match status with
  | "queued" => .ok .queued
  | "running" => .ok .running
  | "retryable" => .ok .retryable
  | "paused" => .ok .paused
  | "failed" => .ok .failed
  | "cancelled" => .ok .cancelled
  | "completed" => .ok .completed
  | _ =>
    .error (.badRequest
      "transfer status must be queued, running, retryable, paused, failed, cancelled, or completed")

def validateTransferChecksumStatus (status : String) :
    Except DashboardError TransferChecksumStatus :=
  match status with
  | "pending" => .ok .pending
  | "verifying" => .ok .verifying
  | "verified" => .ok .verified
  | "failed" => .ok .failed
  | "skipped" => .ok .skipped
  | _ =>
    .error (.badRequest "checksum_status must be pending, verifying, verified, failed, or skipped")

/-- A transfer of an artifact. -/
structure ArtifactTransfer where
  id : String
  artifactId : String
  (sourceMachineId destMachineId : Option String := none)
  status : ArtifactTransferStatus
  bytesTotal : Option ℕ := none
  bytesDone : ℕ
  checksumStatus : Option TransferChecksumStatus := none
  error : Option String := none
  createdAt : ℕ
  updatedAt : ℕ
  completedAt : Option ℕ := none
  deriving DecidableEq

/-- The tables that the transfer operations read and write. -/
structure TransferStore where
  artifacts : KeyedTable ResearchArtifact.id
  machines : KeyedTable ResearchMachine.id
  transfers : KeyedTable ArtifactTransfer.id

/-- What a status update carries. -/
structure TransferProgress where
  status : String
  bytesDone : Option ℕ
  bytesTotal : Option ℕ
  checksumStatus : Option String
  error : Option String
  deriving DecidableEq

namespace TransferStore

def new : TransferStore where
  artifacts := .empty
  machines := .empty
  transfers := .empty

variable (store : TransferStore)

def updateTransfers (p : ArtifactTransfer → Bool) (f : ArtifactTransfer → ArtifactTransfer)
    (hkey : ∀ transfer, (f transfer).id = transfer.id := by intro transfer; rfl) : TransferStore :=
  { store with transfers := store.transfers.update p f hkey }

def queryArtifactTransfer (transferId : String) : Except DashboardError ArtifactTransfer :=
  match store.transfers.find? transferId with
  | some transfer => .ok transfer
  | none => .error (.notFound s!"artifact transfer '{transferId}' not found")

/-- What an operation leaves when it has committed: its reply is read from the new table. -/
def reply (transferId : String) : Except DashboardError (ArtifactTransfer × TransferStore) :=
  (store.queryArtifactTransfer transferId).map (·, store)

def ensureArtifactExists (artifactId : String) : Except DashboardError Unit :=
  if (store.artifacts.find? artifactId).isSome then .ok ()
  else .error (.notFound s!"artifact '{artifactId}' not found")

def trim (text : String) : List Char :=
  ((text.toList.dropWhile isTrimmed).reverse.dropWhile isTrimmed).reverse

def validateResearchMachineId (id : String) : Except DashboardError Unit :=
  if trim id = [] then .error (.badRequest "machine id must not be empty")
  else if (String.ofList (trim id)).utf8ByteSize > 80 ∨
      ¬ (trim id).all (fun c => c.isAlphanum || c == '-' || c == '_' || c == '.') then
    .error (.badRequest
      "machine id must contain only ASCII letters, numbers, dash, underscore, or dot")
  else .ok ()

def ensureResearchMachineExists (machineId : String) : Except DashboardError Unit := do
  validateResearchMachineId machineId
  if (store.machines.find? machineId).isSome then .ok ()
  else .error (.notFound s!"research machine '{machineId}' not found")

def researchMachineAcceptsWork (machineId : String) : Except DashboardError Bool :=
  match store.machines.find? machineId with
  | none => .error (.notFound s!"research machine '{machineId}' not found")
  | some machine => .ok (machine.status ≠ "disabled")

def isFor (machineId : String) (transfer : ArtifactTransfer) : Bool :=
  transfer.destMachineId = none || transfer.destMachineId = some machineId

def oldestClaimable (destMachineId : String) : Option ArtifactTransfer :=
  ((store.transfers.rows.filter fun transfer =>
      transfer.status ∈ [.queued, .retryable] && isFor destMachineId transfer).insertionSort
    fun transfer transfer' =>
      toLex (transfer.createdAt, transfer.id) ≤ toLex (transfer'.createdAt, transfer'.id)).head?

/-- Claim the oldest queued or retryable transfer for one destination machine. -/
def claimNextArtifactTransfer (destMachineId : String) (now : ℕ) :
    Except DashboardError (Option ArtifactTransfer × TransferStore) := do
  if isBlank destMachineId then
    .error (.badRequest "dest_machine_id must not be empty")
  else do
    let accepts ← store.researchMachineAcceptsWork destMachineId
    if ¬ accepts then .ok (none, store)
    else
      match store.oldestClaimable destMachineId with
      | none => .ok (none, store)
      | some oldest => do
        let now ← sqlInteger now
        let claimed := store.updateTransfers
          (fun transfer => transfer.id = oldest.id && transfer.status ∈ [.queued, .retryable])
          fun transfer =>
            { transfer with
              status := .running
              checksumStatus := some .pending
              error := none
              updatedAt := now }
        (claimed.reply oldest.id).map fun replied => (some replied.1, replied.2)

/-- Mark stale running transfers as retryable for one destination machine. -/
def recoverStaleArtifactTransfers (destMachineId : String) (staleAfterMs now : ℕ) :
    Except DashboardError (ℕ × TransferStore) := do
  if isBlank destMachineId then
    .error (.badRequest "dest_machine_id must not be empty")
  else do
    let cutoff ← sqlInteger (now - staleAfterMs)
    let now ← sqlInteger now
    let stale (transfer : ArtifactTransfer) : Bool :=
      transfer.status = .running && transfer.updatedAt ≤ cutoff && isFor destMachineId transfer
    .ok (store.transfers.rows.countP stale,
      store.updateTransfers stale fun transfer =>
        { transfer with
          status := .retryable
          checksumStatus := some .failed
          error := some s!"transfer became stale after {staleAfterMs} ms; retrying"
          updatedAt := now
          completedAt := none })

/-- Update transfer progress and status. -/
def updateArtifactTransferProgress (id : String) (progress : TransferProgress) (now : ℕ) :
    Except DashboardError (ArtifactTransfer × TransferStore) := do
  let status ← validateTransferStatus progress.status
  let checksumStatus ← progress.checksumStatus.mapM validateTransferChecksumStatus
  if progress.error.any isBlank then
    .error (.badRequest "transfer error must not be empty")
  else do
    let existing ← store.queryArtifactTransfer id
    if existing.status.IsTerminal ∧ existing.status ≠ status then
      .error (.badRequest
        s!"transfer '{existing.id}' is terminal with status '{existing.status.asStr}'")
    else
      let newTotal := progress.bytesTotal.or existing.bytesTotal
      if newTotal = some 0 then
        .error (.badRequest "bytes_total must be positive when provided")
      else
        let newDone := progress.bytesDone.getD existing.bytesDone
        if newDone < existing.bytesDone then
          .error (.badRequest "bytes_done must not decrease")
        else if newTotal.any (newDone > ·) then
          .error (.badRequest "bytes_done must not exceed bytes_total")
        else if status = .completed ∧ checksumStatus ≠ some .verified then
          .error (.badRequest "completed transfers require checksum_status 'verified'")
        else do
          let completedAt := if status = .completed then some now else existing.completedAt
          let newTotal ← newTotal.mapM sqlInteger
          let newDone ← sqlInteger newDone
          let now ← sqlInteger now
          (store.updateTransfers (fun transfer => transfer.id = id) fun transfer =>
            { transfer with
              status := status
              bytesTotal := newTotal
              bytesDone := newDone
              checksumStatus := checksumStatus.or existing.checksumStatus
              error := progress.error
              updatedAt := now
              completedAt := completedAt }).reply id

/-- Create one queued artifact transfer, under the given identifier. -/
def createArtifactTransfer (artifactId : String) (sourceMachineId destMachineId : Option String)
    (bytesTotal : Option ℕ) (now : ℕ) (transferId : String) :
    Except DashboardError (ArtifactTransfer × TransferStore) := do
  if isBlank artifactId then
    .error (.badRequest "artifact_id must not be empty")
  else if bytesTotal = some 0 then
    .error (.badRequest "bytes_total must be positive when provided")
  else do
    store.ensureArtifactExists artifactId
    sourceMachineId.forM store.ensureResearchMachineExists
    destMachineId.forM store.ensureResearchMachineExists
    let bytesTotal ← bytesTotal.mapM sqlInteger
    let now ← sqlInteger now
    match store.transfers.insert
        { id := transferId, artifactId := artifactId, sourceMachineId := sourceMachineId,
          destMachineId := destMachineId, status := .queued, bytesTotal := bytesTotal,
          bytesDone := 0, checksumStatus := none, error := none, createdAt := now, updatedAt := now,
          completedAt := none } with
    | none => .error .database
    | some transfers => ({ store with transfers := transfers }).reply transferId

/-- Why a transfer whose status forbids a change is left alone. -/
def refuseTransfer {α : Type} (existing : ArtifactTransfer) (verb : String) :
    Except DashboardError α :=
  .error (.badRequest
    s!"transfer '{existing.id}' cannot be {verb} from status '{existing.status.asStr}'")

/-- Cancel a queued, running, or retryable artifact transfer. -/
def cancelArtifactTransfer (id : String) (now : ℕ) :
    Except DashboardError (ArtifactTransfer × TransferStore) := do
  let existing ← store.queryArtifactTransfer id
  if existing.status.IsTerminal then refuseTransfer existing "cancelled"
  else do
    let now ← sqlInteger now
    (store.updateTransfers (fun transfer => transfer.id = id) fun transfer =>
      { transfer with status := .cancelled, updatedAt := now, completedAt := none }).reply id

/-- Pause a queued, running, or retryable artifact transfer. -/
def pauseArtifactTransfer (id : String) (now : ℕ) :
    Except DashboardError (ArtifactTransfer × TransferStore) := do
  let existing ← store.queryArtifactTransfer id
  if existing.status = .paused then .ok (existing, store)
  else if existing.status ∉ [.queued, .running, .retryable] then refuseTransfer existing "paused"
  else do
    let now ← sqlInteger now
    (store.updateTransfers (fun transfer => transfer.id = id) fun transfer =>
      { transfer with status := .paused, updatedAt := now, completedAt := none }).reply id

/-- Resume a paused artifact transfer without resetting bytes done. -/
def resumeArtifactTransfer (id : String) (now : ℕ) :
    Except DashboardError (ArtifactTransfer × TransferStore) := do
  let existing ← store.queryArtifactTransfer id
  if existing.status ≠ .paused then refuseTransfer existing "resumed"
  else do
    let now ← sqlInteger now
    (store.updateTransfers (fun transfer => transfer.id = id) fun transfer =>
      { transfer with
        status := .queued
        checksumStatus := none
        error := none
        updatedAt := now
        completedAt := none }).reply id

def retryArtifactTransfer (id : String) (resume : Bool) (now : ℕ) :
    Except DashboardError (ArtifactTransfer × TransferStore) := do
  let existing ← store.queryArtifactTransfer id
  if existing.status ∉ [.failed, .retryable, .cancelled] then refuseTransfer existing "retried"
  else do
    let now ← sqlInteger now
    let bytesDone := if resume then existing.bytesDone else 0
    (store.updateTransfers (fun transfer => transfer.id = id) fun transfer =>
      { transfer with
        status := .queued
        bytesDone := bytesDone
        checksumStatus := none
        error := none
        updatedAt := now
        completedAt := none }).reply id

/-- Delete an inactive artifact transfer record without deleting artifacts. -/
def deleteArtifactTransfer (id : String) :
    Except DashboardError (ArtifactTransfer × TransferStore) := do
  let existing ← store.queryArtifactTransfer id
  if existing.status ∉ [.completed, .cancelled, .failed] then refuseTransfer existing "deleted"
  else
    .ok (existing,
      { store with transfers := store.transfers.delete fun transfer => transfer.id = id })

end TransferStore

/-- What happens to the store. A status update comes from a worker or from an operator; elsewhere the
dashboard changes the other tables at will. -/
inductive TransferAction where
  | createArtifactTransfer (artifactId : String) (sourceMachineId destMachineId : Option String)
      (bytesTotal : Option ℕ) (now : ℕ) (transferId : String)
  | claimNextArtifactTransfer (workerId destMachineId : String) (now : ℕ)
  | recoverStaleArtifactTransfers (destMachineId : String) (staleAfterMs now : ℕ)
  | updateArtifactTransferProgress (sender : Option String) (id : String)
      (progress : TransferProgress) (now : ℕ)
  | cancelArtifactTransfer (id : String) (now : ℕ)
  | pauseArtifactTransfer (id : String) (now : ℕ)
  | resumeArtifactTransfer (id : String) (now : ℕ)
  | retryArtifactTransfer (id : String) (resume : Bool) (now : ℕ)
  | deleteArtifactTransfer (id : String)
  | elsewhere (artifacts : KeyedTable ResearchArtifact.id) (machines :
    KeyedTable ResearchMachine.id)

/-- The store after an operation. -/
def TransferStore.apply (store : TransferStore) : TransferAction → TransferStore
  | .createArtifactTransfer artifactId sourceMachineId destMachineId bytesTotal now transferId =>
    settle store (store.createArtifactTransfer artifactId sourceMachineId destMachineId bytesTotal
      now transferId)
  | .claimNextArtifactTransfer _ destMachineId now =>
    settle store (store.claimNextArtifactTransfer destMachineId now)
  | .recoverStaleArtifactTransfers destMachineId staleAfterMs now =>
    settle store (store.recoverStaleArtifactTransfers destMachineId staleAfterMs now)
  | .updateArtifactTransferProgress _ id progress now =>
    settle store (store.updateArtifactTransferProgress id progress now)
  | .cancelArtifactTransfer id now => settle store (store.cancelArtifactTransfer id now)
  | .pauseArtifactTransfer id now => settle store (store.pauseArtifactTransfer id now)
  | .resumeArtifactTransfer id now => settle store (store.resumeArtifactTransfer id now)
  | .retryArtifactTransfer id resume now =>
    settle store (store.retryArtifactTransfer id resume now)
  | .deleteArtifactTransfer id => settle store (store.deleteArtifactTransfer id)
  | .elsewhere artifacts machines => { store with artifacts := artifacts, machines := machines }

end BubaPaint
