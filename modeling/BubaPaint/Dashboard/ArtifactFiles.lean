import BubaPaint.Dashboard.Artifacts
import BubaPaint.Library.Guards
import BubaPaint.Library.Paths

/-!
# The files of an artifact

An artifact is a directory with a manifest that lists its files, with their lengths and digests. The
directory is given by the contents of its files, under the names that lead to them.
-/

namespace BubaPaint

open Effects Paths

/-- Failures of a worker: those of the dashboard, and those of its own files and processes. -/
inductive WorkerError where
  | dashboard (error : DashboardError)
  | internal (message : String)
  deriving DecidableEq

def WorkerError.text : WorkerError → String
  | .dashboard .database => "database error"
  | .dashboard (.notFound message) => s!"not found: {message}"
  | .dashboard (.badRequest message) => s!"bad request: {message}"
  | .internal message => s!"internal error: {message}"

def WorkerError.badRequest (message : String) : WorkerError :=
  .dashboard (.badRequest message)

def ofDashboard {α : Type} : Except DashboardError α → Except WorkerError α :=
  Except.mapError .dashboard

/-- The contents of the files in a directory. -/
abbrev ArtifactDir : Type :=
  List String → Option (List UInt8)

/-- What the worker has from elsewhere: digests, the reading of manifests, and a clock. -/
structure ArtifactHost where
  sha256 : List UInt8 → String
  parseManifest : List UInt8 → Except WorkerError ArtifactManifest
  clock : ℕ → ℕ
  storable : ∀ n, clock n < 2 ^ 63

def maxBytes : ℕ := 2 ^ 64 - 1

def saturatingAddBytes (bytes bytes' : ℕ) : ℕ :=
  min (bytes + bytes') maxBytes

/-- Normalize one relative artifact path and reject traversal. -/
def normalizeRelativePath (relativePath : String) : Except WorkerError (List String) :=
  let path := Path.parse relativePath
  if isBlank relativePath ∨ path.isAbsolute then
    .error (.badRequest "artifact paths must be non-empty relative paths")
  else if .parent ∈ path then
    .error (.badRequest s!"unsafe artifact path: {relativePath}")
  else
    let parts := path.locate []
    if parts = [] then .error (.badRequest "artifact paths must contain a file name")
    else .ok parts

section Files

variable (host : ArtifactHost) (dir : ArtifactDir)

def missingFile (action : String) : WorkerError :=
  .internal s!"{action}: No such file or directory (os error 2)"

def readManifest : Except WorkerError ArtifactManifest := do
  let manifestPath ← normalizeRelativePath "manifest.json"
  match dir manifestPath with
  | none => .error (missingFile "reading manifest")
  | some bytes => host.parseManifest bytes

def fileDigest (path : List String) : Except WorkerError (ℕ × String) :=
  match dir path with
  | none => .error (missingFile "opening artifact file")
  | some bytes => .ok (bytes.length, host.sha256 bytes)

def verifyFile (bytesChecked : ℕ) (file : ArtifactFile) : Except WorkerError ℕ := do
  let path ← normalizeRelativePath file.relativePath
  let (bytes, sha256) ← fileDigest host dir path
  if bytes ≠ file.bytes then
    .error (.badRequest
      s!"artifact file '{file.relativePath}' byte mismatch: expected {file.bytes}, got {bytes}")
  else if sha256 ≠ file.sha256 then
    .error (.badRequest s!"artifact file '{file.relativePath}' checksum mismatch")
  else .ok (saturatingAddBytes bytesChecked bytes)

def verifyManifestFiles (manifest : ArtifactManifest) :
    Except WorkerError ArtifactVerification := do
  let bytesChecked ← manifest.files.foldlM (verifyFile host dir) 0
  .ok
    { artifactId := manifest.artifactId
      filesChecked := manifest.files.length
      bytesChecked := bytesChecked }

def verifyArtifact : Except WorkerError ArtifactVerification := do
  let manifest ← readManifest host dir
  verifyManifestFiles host dir manifest

end Files

def manifestPayloadBytes (manifest : ArtifactManifest) : ℕ :=
  (manifest.files.map (·.bytes)).foldl saturatingAddBytes 0

def payloadBytesFromManifest (dir : ArtifactDir) (manifest : ArtifactManifest) :
    Except WorkerError ℕ :=
  manifest.files.foldlM (fun bytes file => do
    let path ← normalizeRelativePath file.relativePath
    .ok (saturatingAddBytes bytes ((dir path).elim 0 List.length))) 0

/-- A path without detours, named after its subject in the messages. -/
def lexicalPath (subject : String) (path : Path) : Except WorkerError Path :=
  if .parent ∈ path then
    .error (.badRequest s!"{subject} paths must not contain parent traversal: {path.text}")
  else
    let out := path.filter (· ≠ .current)
    if out = [] then .error (.badRequest s!"{subject} path must not be empty") else .ok out

theorem lexicalPath_of_lexicalPath {subject subject' : String} {path path' : Path}
    (h : lexicalPath subject path = .ok path') : lexicalPath subject' path' = .ok path' := by
  rcases ok_of_refuse h with ⟨hparent, h⟩
  rcases ok_of_refuse h with ⟨hempty, h⟩
  cases h
  refine refuse_eq_ok_iff.mpr ⟨fun hmem => hparent (List.mem_filter.mp hmem).1, ?_⟩
  refine refuse_eq_ok_iff.mpr ⟨by simpa using hempty, ?_⟩
  simp

/-- The directory of an artifact, from its stored metadata. -/
def artifactDirectory (subject : String) (artifact : ResearchArtifact) : Except WorkerError Path :=
  match artifact.artifactRoot, artifact.manifestPath.bind fun path => (Path.parse path).parent with
  | some root, _ => lexicalPath subject (Path.parse root)
  | none, some parent => lexicalPath subject parent
  | none, none =>
    .error (.badRequest s!"artifact '{artifact.id}' has no artifact_root or manifest_path")

end BubaPaint
