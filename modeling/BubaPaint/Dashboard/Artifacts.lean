import BubaPaint.Dashboard.ResearchStore

/-!
# Artifacts and machines

What the dashboard knows of an exported run, of its files and of the machines that hold them.
-/

namespace BubaPaint

/-- A run artifact. -/
structure ResearchArtifact where
  id : String
  sourceMachineId : Option String := none
  kind : String
  status : String
  (runMode artifactRoot manifestPath bundlePath sourceDbPath : Option String := none)
  (intervalStartMs intervalEndMs bytes : Option ℕ := none)
  (checksum replayQualityClass backtestReadyClass liveFidelityClass : Option String := none)
  createdAt : ℕ
  updatedAt : ℕ
  archivedAt : Option ℕ := none
  deriving DecidableEq

/-- A machine of the research control plane. -/
structure ResearchMachine where
  id : String
  sshAlias : Option String := none
  status : String
  deriving DecidableEq

/-- A file that belongs to an artifact. -/
structure ArtifactFile where
  logicalName : String
  kind : String
  relativePath : String
  bytes : ℕ
  sha256 : String
  deriving DecidableEq

/-- The manifest of an artifact directory. -/
structure ArtifactManifest where
  schemaVersion : ℕ
  artifactId : String
  kind : String
  sourceMachineId : Option String
  runMode : Option String
  createdAtMs : ℕ
  intervalStartMs : Option ℕ
  intervalEndMs : Option ℕ
  files : List ArtifactFile
  deriving DecidableEq

/-- Result of verifying all files in one artifact manifest. -/
structure ArtifactVerification where
  artifactId : String
  filesChecked : ℕ
  bytesChecked : ℕ
  deriving DecidableEq

end BubaPaint
