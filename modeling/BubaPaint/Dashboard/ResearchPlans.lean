import BubaPaint.Dashboard.ArtifactFiles
import BubaPaint.Library.Attempts
import Mathlib.Data.Rat.Defs

/-!
# The plans of research jobs

A research job reads the database of an artifact and writes its outputs under a directory of its own.
The names of the outputs come from the parameters of the job, or they are the default ones. When the
reports have been written, the scratch databases can be archived, which deletes them.
-/

namespace BubaPaint

open Effects Paths

/-- What stands at a place. -/
inductive DiskEntry where
  | file (bytes : List UInt8)
  | directory
  deriving DecidableEq

/-- What stands at each place. -/
abbrev Disk : Type :=
  List String → Option DiskEntry

def Disk.dir (disk : Disk) (root : List String) : ArtifactDir := fun path =>
  match disk (root ++ path) with
  | some (.file bytes) => some bytes
  | _ => none

/-- The parameters of a job, as they are given. -/
structure RawResearchJobParams where
  (dataDbPath start finish : Option String := none)
  (startMs finishMs : Option ℕ := none)
  (preparedDbOutputPath backtestOutputPath sweepOutputPath reportJsonPath
    reportCsvPath : Option String := none)
  balance : Option ℚ := none
  sets : List String
  sweeps : List String
  archiveScratch : Bool

def RawResearchJobParams.default : RawResearchJobParams where
  dataDbPath := none
  start := none
  finish := none
  startMs := none
  finishMs := none
  preparedDbOutputPath := none
  backtestOutputPath := none
  sweepOutputPath := none
  reportJsonPath := none
  reportCsvPath := none
  balance := none
  sets := []
  sweeps := []
  archiveScratch := false

/-- What the pipeline has from elsewhere: the parser of the parameters, the manifests, the format of
times, and the current directory. -/
structure PipelineHost where
  parseParams : String → Except String RawResearchJobParams
  artifacts : ArtifactHost
  formatMillisRfc3339 : ℕ → Except WorkerError String
  cwd : List String

/-- Fully resolved plan for one research job. -/
structure ResearchPipelinePlan where
  jobId : String
  jobType : String
  artifactId : Option String
  artifactRoot : Option Path
  jobRoot : Path
  dataDbPath : Path
  start : String
  finish : String
  preparedDbOutputPath : Path
  backtestOutputPath : Path
  sweepOutputPath : Path
  reportJsonPath : Path
  reportCsvPath : Path
  balance : ℚ
  sets : List String
  sweeps : List String
  archiveScratch : Bool

namespace ResearchPipeline

/-- Normalize a path lexically and reject parent traversal. -/
def normalizePath (path : Path) : Except WorkerError Path :=
  lexicalPath "research" path

/-- Resolve an artifact root from stored artifact metadata. -/
def resolveArtifactRoot (artifact : ResearchArtifact) : Except WorkerError Path :=
  artifactDirectory "research" artifact

/-- Resolve one string path under a root with absolute paths still checked against the root. -/
def resolveUnderRoot (root : Path) (path : String) : Except WorkerError Path := do
  if isBlank path then .error (.badRequest "research path must not be empty")
  else do
    let candidate ← normalizePath
      (if (Path.parse path).isAbsolute then Path.parse path else root.join (Path.parse path))
    if root <+: candidate then .ok candidate
    else .error (.badRequest s!"research path escapes configured root: {candidate.text}")

def resolveOutputPath (root : Path) (path : String) : Except WorkerError Path := do
  let root ← normalizePath root
  let resolved ← resolveUnderRoot root path
  if resolved = root then
    .error (.badRequest "output path must name a file or child directory")
  else .ok resolved

def resolveNamedOutput (jobRoot : Path) (configured : Option String) (defaultName : String) :
    Except WorkerError Path :=
  resolveOutputPath jobRoot (configured.getD defaultName)

section Host

variable (host : PipelineHost) (disk : Disk)

/-- Resolve one existing path that must remain inside the artifact root. -/
def resolveExistingArtifactPath (artifactRoot : Path) (path : String) :
    Except WorkerError Path := do
  let root ← normalizePath artifactRoot
  let resolved ← resolveUnderRoot root path
  if disk (resolved.locate host.cwd) = none then
    .error (.badRequest s!"artifact input path does not exist: {resolved.text}")
  else .ok resolved

/-- The file that holds the runtime database of an artifact. -/
def runtimeDbFile (files : List ArtifactFile) : Option ArtifactFile :=
  (files.find? (·.logicalName = "runtime_db")).or <|
    (files.find? (·.kind = "sqlite")).or <|
      files.find? fun file =>
        (Path.parse file.relativePath).extension.any (·.toList.map (·.toLower) = ['d', 'b'])

/-- Resolve the input data DB path from params or the artifact manifest. -/
def resolveDataDbPath (configured : Option String) (artifactRoot : Option Path) :
    Except WorkerError Path :=
  match artifactRoot with
  | none => .error (.badRequest "research jobs require a local artifact root")
  | some root =>
    match configured with
    | some path => resolveExistingArtifactPath host disk root path
    | none => do
      let manifest ← readManifest host.artifacts (disk.dir (root.locate host.cwd))
      match runtimeDbFile manifest.files with
      | none => .error (.badRequest "artifact manifest does not include a runtime DB")
      | some file => resolveExistingArtifactPath host disk root file.relativePath

def parseJobParams (paramsJson : Option String) : Except WorkerError RawResearchJobParams :=
  match paramsJson.filter (!isBlank ·) with
  | none => .ok .default
  | some value =>
    (host.parseParams value).mapError fun e => .badRequest s!"invalid research params_json: {e}"

def resolveTime (configured : Option String) (configuredMs artifactMs : Option ℕ)
    (name : String) : Except WorkerError String :=
  match configured with
  | some value =>
    if isBlank value then .error (.badRequest s!"{name} must not be empty") else .ok value
  | none =>
    match configuredMs.or artifactMs with
    | some ms => host.formatMillisRfc3339 ms
    | none =>
      .error (.badRequest s!"{name} is required in research params or artifact interval metadata")

def validateStringList (name : String) (values : List String) : Except WorkerError Unit :=
  if values.any isBlank then .error (.badRequest s!"{name} values must not be empty") else .ok ()

/-- Resolve one job into concrete paths and command options. -/
def planForJob (workRoot : Path) (job : ResearchJob) (artifact : Option ResearchArtifact) :
    Except WorkerError ResearchPipelinePlan := do
  let raw ← parseJobParams host job.paramsJson
  let jobRoot ← resolveOutputPath workRoot ("jobs/" ++ job.id)
  let artifactRoot ← artifact.mapM resolveArtifactRoot
  let dataDbPath ← resolveDataDbPath host disk raw.dataDbPath artifactRoot
  let start ← resolveTime host raw.start raw.startMs (artifact.bind (·.intervalStartMs)) "start"
  let finish ← resolveTime host raw.finish raw.finishMs (artifact.bind (·.intervalEndMs)) "end"
  let balance := raw.balance.getD 200
  if balance ≤ 0 then .error (.badRequest "balance must be a positive finite number")
  else do
    validateStringList "set override" raw.sets
    validateStringList "sweep dimension" raw.sweeps
    if job.jobType = "sweep" ∧ raw.sweeps = [] then
      .error (.badRequest "sweep jobs require at least one sweep dimension")
    else do
      let preparedDbOutputPath ←
        resolveNamedOutput jobRoot raw.preparedDbOutputPath "prepared-backtest.db"
      let backtestOutputPath ← resolveNamedOutput jobRoot raw.backtestOutputPath "backtest.db"
      let sweepOutputPath ← resolveNamedOutput jobRoot raw.sweepOutputPath "sweep.csv"
      let reportJsonPath ← resolveNamedOutput jobRoot raw.reportJsonPath "report.json"
      let reportCsvPath ← resolveNamedOutput jobRoot raw.reportCsvPath "report.csv"
      .ok
        { jobId := job.id
          jobType := job.jobType
          artifactId := job.artifactId
          artifactRoot := artifactRoot
          jobRoot := jobRoot
          dataDbPath := dataDbPath
          start := start
          finish := finish
          preparedDbOutputPath := preparedDbOutputPath
          backtestOutputPath := backtestOutputPath
          sweepOutputPath := sweepOutputPath
          reportJsonPath := reportJsonPath
          reportCsvPath := reportCsvPath
          balance := balance
          sets := raw.sets
          sweeps := raw.sweeps
          archiveScratch := raw.archiveScratch }

end Host

/-- Summary of scratch database archive behavior. -/
structure ArchiveSummary where
  deletedPaths : List String
  skippedPaths : List String

/-- Return the main file plus write-ahead log and shared-memory sidecars. -/
def sqliteFamilyPaths (path : Path) : List Path :=
  [path, path.withSuffix "-wal", path.withSuffix "-shm"]

def archiveFile (cwd : List String) (candidate : Path) :
    Attempt WorkerError (Disk × ArchiveSummary) PUnit :=
  ExceptT.mk fun (disk, summary) =>
    match disk (candidate.locate cwd) with
    | none =>
      (.ok ⟨⟩,
        (disk, { summary with skippedPaths := summary.skippedPaths ++ [candidate.text] }))
    | some .directory =>
      (.error (.internal "archiving scratch DB: Is a directory (os error 21)"), (disk, summary))
    | some (.file _) =>
      (.ok ⟨⟩,
        (Function.update disk (candidate.locate cwd) none,
          { summary with deletedPaths := summary.deletedPaths ++ [candidate.text] }))

/-- Archive one SQLite file and its sidecars after path safety checks. -/
def archiveDbFamily (cwd : List String) (jobRoot path : Path) :
    Attempt WorkerError (Disk × ArchiveSummary) PUnit := do
  let normalized ← .ofExcept (normalizePath path)
  if ¬ jobRoot <+: normalized then
    .ofExcept (.error (.badRequest s!"archive path escapes job root: {normalized.text}"))
  else if normalized.extension ≠ some "db" then
    .ofExcept (.error (.badRequest s!"archive path is not a SQLite DB: {normalized.text}"))
  else .forEach (sqliteFamilyPaths normalized) (archiveFile cwd)

/-- Delete scratch SQLite outputs after reports are preserved. -/
def archiveScratchDbs (cwd : List String) (plan : ResearchPipelinePlan) :
    Attempt WorkerError (Disk × ArchiveSummary) PUnit :=
  .forEach [plan.preparedDbOutputPath, plan.backtestOutputPath] (archiveDbFamily cwd plan.jobRoot)

end ResearchPipeline

end BubaPaint
