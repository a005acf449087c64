import BubaPaint.Dashboard.ScratchArchives

/-!
# Confined plans

The outputs of a job lie in its directory, whatever names its parameters give. Nothing keeps these
names apart, though, and archiving removes the sidecars of a database by name: a report that is
named like a sidecar goes with the database.

Main results:

- Theorem `confined_iff_apart`: a plan of a job is confined iff its places are apart.
- Theorem `confined_plans`: the same, said of the names that the parameters give.
-/

namespace BubaPaint

open Effects Paths

namespace ResearchPipeline

section Paths

variable {subject text : String} {root path path' : Path} (cwd : List String)

theorem lexicalPath_eq_ok (hpath : path.IsProper) (h : lexicalPath subject path = .ok path') :
    path'.IsDirect ∧ path' ≠ [] ∧ path'.locate cwd = path.locate cwd := by
  rcases ok_of_refuse h with ⟨hparent, h⟩
  rcases ok_of_refuse h with ⟨hempty, h⟩
  cases h
  exact ⟨hpath.isDirect_filter hparent, hempty, Path.locate_filter hpath⟩

theorem resolveUnderRoot_eq_ok (hroot : root.IsDirect) (hne : root ≠ [])
    (h : resolveUnderRoot root text = .ok path) :
    path.IsDirect ∧ root <+: path ∧
      path.locate cwd = (Path.parse text).locate (root.locate cwd) := by
  rcases ok_of_refuse h with ⟨-, h⟩
  rcases ok_of_bind h with ⟨candidate, hcandidate, h⟩
  rcases require_eq_ok_iff.mp h with ⟨hbelow, h⟩
  cases h
  have hjoin : (if (Path.parse text).isAbsolute then Path.parse text
      else root.join (Path.parse text)) = root.join (Path.parse text) := by
    by_cases habsolute : (Path.parse text).isAbsolute
    · simp [Path.join, habsolute]
    · simp [habsolute]
  rw [hjoin] at hcandidate
  rcases lexicalPath_eq_ok cwd ((Path.isProper_parse text).join hroot.proper) hcandidate with
    ⟨hdirect, -, hplace⟩
  exact ⟨hdirect, hbelow, hplace.trans (Path.locate_join hne)⟩

theorem resolveOutputPath_eq_ok (hroot : root.IsDirect) (hne : root ≠ [])
    (h : resolveOutputPath root text = .ok path) :
    IsOutput root path ∧ path.locate cwd = (Path.parse text).locate (root.locate cwd) := by
  rcases ok_of_bind h with ⟨normal, hnormal, h⟩
  cases Except.ok.inj (hnormal.symm.trans (normalizePath_of_isDirect hroot hne))
  rcases ok_of_bind h with ⟨resolved, hresolved, h⟩
  rcases ok_of_refuse h with ⟨hdifferent, h⟩
  cases h
  rcases resolveUnderRoot_eq_ok cwd hroot hne hresolved with ⟨hdirect, hbelow, hplace⟩
  exact ⟨⟨hdirect, hbelow, hdifferent⟩, hplace⟩

end Paths

section Inputs

variable {host : PipelineHost} {disk : Disk} {artifact : ResearchArtifact} {root path : Path}

theorem resolveArtifactRoot_eq_ok (h : resolveArtifactRoot artifact = .ok root) :
    root.IsDirect ∧ root ≠ [] := by
  unfold resolveArtifactRoot artifactDirectory at h
  split at h
  · rename_i text _
    rcases lexicalPath_eq_ok [] (Path.isProper_parse text) h with ⟨hdirect, hne, -⟩
    exact ⟨hdirect, hne⟩
  · rename_i parent _ hparent
    rcases Option.bind_eq_some_iff.mp hparent with ⟨text, -, htext⟩
    have hproper : parent.IsProper := by
      unfold Path.parent at htext
      split at htext
      · cases htext
      · cases htext
      · cases htext
        exact (Path.isProper_parse text).dropLast
    rcases lexicalPath_eq_ok [] hproper h with ⟨hdirect, hne, -⟩
    exact ⟨hdirect, hne⟩
  · cases h

/-- The name of the input database: the configured one, or that of the manifest. -/
def inputName (host : PipelineHost) (disk : Disk) (raw : RawResearchJobParams) (root : Path) :
    Option String :=
  raw.dataDbPath.or <|
    match readManifest host.artifacts (disk.dir (root.locate host.cwd)) with
    | .ok manifest => (runtimeDbFile manifest.files).map (·.relativePath)
    | .error _ => none

theorem resolveDataDbPath_eq_ok {raw : RawResearchJobParams} (hroot : root.IsDirect)
    (hne : root ≠ []) (h : resolveDataDbPath host disk raw.dataDbPath (some root) = .ok path) :
    ∃ name, inputName host disk raw root = some name ∧ root <+: path ∧
      path.locate host.cwd = (Path.parse name).locate (root.locate host.cwd) := by
  have hexisting : ∀ name, resolveExistingArtifactPath host disk root name = .ok path →
      root <+: path ∧ path.locate host.cwd = (Path.parse name).locate (root.locate host.cwd) := by
    intro name h
    rcases ok_of_bind h with ⟨normal, hnormal, h⟩
    cases Except.ok.inj (hnormal.symm.trans (normalizePath_of_isDirect hroot hne))
    rcases ok_of_bind h with ⟨resolved, hresolved, h⟩
    rcases ok_of_refuse h with ⟨-, h⟩
    cases h
    exact (resolveUnderRoot_eq_ok host.cwd hroot hne hresolved).2
  unfold inputName
  cases hconfigured : raw.dataDbPath with
  | some name =>
    rw [hconfigured] at h
    exact ⟨name, rfl, hexisting name h⟩
  | none =>
    rw [hconfigured] at h
    rcases ok_of_bind h with ⟨manifest, hmanifest, h⟩
    rw [hmanifest]
    cases hfile : runtimeDbFile manifest.files with
    | none => simp [hfile] at h
    | some file =>
      simp only [hfile] at h
      exact ⟨file.relativePath, by simp [hfile], hexisting _ h⟩

end Inputs

/-- The parts of a plan, as they are resolved. -/
structure PlanOf (host : PipelineHost) (disk : Disk) (workRoot : Path) (job : ResearchJob)
    (artifact : Option ResearchArtifact) (raw : RawResearchJobParams)
    (plan : ResearchPipelinePlan) : Prop where
  jobRoot : resolveOutputPath workRoot ("jobs/" ++ job.id) = .ok plan.jobRoot
  artifactRoot : artifact.mapM resolveArtifactRoot = .ok plan.artifactRoot
  dataDb : resolveDataDbPath host disk raw.dataDbPath plan.artifactRoot = .ok plan.dataDbPath
  prepared : resolveNamedOutput plan.jobRoot raw.preparedDbOutputPath "prepared-backtest.db" =
    .ok plan.preparedDbOutputPath
  backtest : resolveNamedOutput plan.jobRoot raw.backtestOutputPath "backtest.db" =
    .ok plan.backtestOutputPath
  sweep : resolveNamedOutput plan.jobRoot raw.sweepOutputPath "sweep.csv" = .ok plan.sweepOutputPath
  reportJson : resolveNamedOutput plan.jobRoot raw.reportJsonPath "report.json" =
    .ok plan.reportJsonPath
  reportCsv : resolveNamedOutput plan.jobRoot raw.reportCsvPath "report.csv" =
    .ok plan.reportCsvPath

section Plans

variable {host : PipelineHost} {disk : Disk} {workRoot : Path} {job : ResearchJob}
variable {artifact : Option ResearchArtifact} {raw : RawResearchJobParams}
variable {plan : ResearchPipelinePlan}

theorem planForJob_eq_ok (hraw : parseJobParams host job.paramsJson = .ok raw)
    (h : planForJob host disk workRoot job artifact = .ok plan) :
    PlanOf host disk workRoot job artifact raw plan := by
  rcases ok_of_bind h with ⟨parsed, hparsed, h⟩
  cases Except.ok.inj (hparsed.symm.trans hraw)
  rcases ok_of_bind h with ⟨jobRoot, hjobRoot, h⟩
  rcases ok_of_bind h with ⟨artifactRoot, hartifactRoot, h⟩
  rcases ok_of_bind h with ⟨dataDb, hdataDb, h⟩
  rcases ok_of_bind h with ⟨start, -, h⟩
  rcases ok_of_bind h with ⟨finish, -, h⟩
  rcases ok_of_refuse h with ⟨-, h⟩
  rcases ok_of_bind h with ⟨-, -, h⟩
  rcases ok_of_bind h with ⟨-, -, h⟩
  rcases ok_of_refuse h with ⟨-, h⟩
  rcases ok_of_bind h with ⟨prepared, hprepared, h⟩
  rcases ok_of_bind h with ⟨backtest, hbacktest, h⟩
  rcases ok_of_bind h with ⟨sweep, hsweep, h⟩
  rcases ok_of_bind h with ⟨reportJson, hreportJson, h⟩
  rcases ok_of_bind h with ⟨reportCsv, hreportCsv, h⟩
  cases h
  exact
    { jobRoot := hjobRoot
      artifactRoot := hartifactRoot
      dataDb := hdataDb
      prepared := hprepared
      backtest := hbacktest
      sweep := hsweep
      reportJson := hreportJson
      reportCsv := hreportCsv }

/-! ## Places of a plan -/

/-- The places of the input and the outputs of a job. -/
structure JobPlaces where
  dataDb : List String
  prepared : List String
  backtest : List String
  sweep : List String
  reportJson : List String
  reportCsv : List String

/-- The places that archiving must spare. -/
def JobPlaces.kept (places : JobPlaces) : List (List String) :=
  [places.dataDb, places.sweep, places.reportJson, places.reportCsv]

/-- No two places are the same, and no input or report has the place of a sidecar that archiving
removes. -/
structure JobPlaces.Apart (places : JobPlaces) : Prop where
  distinct : [places.dataDb, places.prepared, places.backtest, places.sweep, places.reportJson,
    places.reportCsv].Nodup
  sidecars : ∀ place ∈ places.kept, IsDbPlace places.prepared →
    place ∉ sidecarPlaces places.prepared ∧
      (IsDbPlace places.backtest → place ∉ sidecarPlaces places.backtest)

def jobPlaces (cwd : List String) (workRoot : Path) (job : ResearchJob)
    (raw : RawResearchJobParams) (dataDb : List String) : JobPlaces :=
  let jobPlace := (Path.parse ("jobs/" ++ job.id)).locate (workRoot.locate cwd)
  let place (configured : Option String) (defaultName : String) :=
    (Path.parse (configured.getD defaultName)).locate jobPlace
  { dataDb := dataDb
    prepared := place raw.preparedDbOutputPath "prepared-backtest.db"
    backtest := place raw.backtestOutputPath "backtest.db"
    sweep := place raw.sweepOutputPath "sweep.csv"
    reportJson := place raw.reportJsonPath "report.json"
    reportCsv := place raw.reportCsvPath "report.csv" }

/-- The names in the parameters of a job, and in the manifest of its artifact, lead to places that
are apart. -/
def NamesApart (host : PipelineHost) (disk : Disk) (workRoot : Path) (job : ResearchJob)
    (artifact : Option ResearchArtifact) (raw : RawResearchJobParams) : Prop :=
  ∀ root name, artifact.mapM resolveArtifactRoot = .ok (some root) →
    inputName host disk raw root = some name →
      (jobPlaces host.cwd workRoot job raw ((Path.parse name).locate (root.locate host.cwd))).Apart

def outputPaths (plan : ResearchPipelinePlan) : List Path :=
  [plan.preparedDbOutputPath, plan.backtestOutputPath, plan.sweepOutputPath, plan.reportJsonPath,
    plan.reportCsvPath]

def keptPaths (plan : ResearchPipelinePlan) : List Path :=
  [plan.dataDbPath, plan.sweepOutputPath, plan.reportJsonPath, plan.reportCsvPath]

/-- The outputs lie under the directory of the job and the input under that of the artifact, no two
of them are the same file, and archiving leaves the input and the reports as they are. -/
structure Confined (cwd : List String) (plan : ResearchPipelinePlan) : Prop where
  outputs : ∀ output ∈ outputPaths plan, plan.jobRoot <+: output
  input : ∃ root, plan.artifactRoot = some root ∧ root <+: plan.dataDbPath
  distinct : ((outputPaths plan).map (·.locate cwd)).Nodup
  differ : plan.dataDbPath.locate cwd ∉ (outputPaths plan).map (·.locate cwd)
  spared : ∀ path ∈ keptPaths plan, ∀ disk summary,
    ((archiveScratchDbs cwd plan).outcome (disk, summary)).2.1 (path.locate cwd) =
      disk (path.locate cwd)

def places (cwd : List String) (plan : ResearchPipelinePlan) : JobPlaces where
  dataDb := plan.dataDbPath.locate cwd
  prepared := plan.preparedDbOutputPath.locate cwd
  backtest := plan.backtestOutputPath.locate cwd
  sweep := plan.sweepOutputPath.locate cwd
  reportJson := plan.reportJsonPath.locate cwd
  reportCsv := plan.reportCsvPath.locate cwd

variable {place cwd : List String}

theorem mem_scratchPlaces_iff {prepared backtest : List String} :
    place ∈ scratchPlaces prepared backtest ↔ IsDbPlace prepared ∧
      (place = prepared ∨ place ∈ sidecarPlaces prepared ∨
        IsDbPlace backtest ∧ (place = backtest ∨ place ∈ sidecarPlaces backtest)) := by
  unfold scratchPlaces familyPlaces
  by_cases hprepared : IsDbPlace prepared
  · by_cases hbacktest : IsDbPlace backtest
    · simp [hprepared, hbacktest]
    · simp [hprepared, hbacktest]
  · simp [hprepared]

theorem spares_iff (hroot : plan.jobRoot ≠ [])
    (hprepared : IsOutput plan.jobRoot plan.preparedDbOutputPath)
    (hbacktest : IsOutput plan.jobRoot plan.backtestOutputPath) :
    (∀ disk summary,
      ((archiveScratchDbs cwd plan).outcome (disk, summary)).2.1 place = disk place) ↔
        place ∉ scratchPlaces (places cwd plan).prepared (places cwd plan).backtest := by
  constructor
  · intro hspared hmem
    have hfull : ∀ place, (fun _ => some (.file []) : Disk) place ≠ some .directory := nofun
    have hcleared : ((archiveScratchDbs cwd plan).outcome _).2.1 place = _ :=
      congrFun (archiveScratchDbs_clears hroot hprepared hbacktest hfull ⟨[], []⟩) place
    rw [hspared] at hcleared
    exact absurd (hcleared.trans (if_pos hmem)) nofun
  · intro hmem disk summary
    exact archiveScratchDbs_keeps hroot hprepared hbacktest hmem disk summary

/-- A plan whose outputs lie in the directory of the job is confined if its places are apart. -/
theorem confined_iff_apart (hroot : plan.jobRoot ≠ [])
    (houtputs : ∀ output ∈ outputPaths plan, IsOutput plan.jobRoot output)
    (hinput : ∃ root, plan.artifactRoot = some root ∧ root <+: plan.dataDbPath) :
    Confined cwd plan ↔ (places cwd plan).Apart := by
  have hprepared : IsOutput plan.jobRoot plan.preparedDbOutputPath :=
    houtputs _ (by simp [outputPaths])
  have hbacktest : IsOutput plan.jobRoot plan.backtestOutputPath :=
    houtputs _ (by simp [outputPaths])
  have hdistinct : [(places cwd plan).dataDb, (places cwd plan).prepared,
      (places cwd plan).backtest, (places cwd plan).sweep, (places cwd plan).reportJson,
      (places cwd plan).reportCsv].Nodup ↔
      plan.dataDbPath.locate cwd ∉ (outputPaths plan).map (·.locate cwd) ∧
        ((outputPaths plan).map (·.locate cwd)).Nodup :=
    List.nodup_cons
  have hkept : (places cwd plan).kept = (keptPaths plan).map (·.locate cwd) := rfl
  constructor
  · intro h
    refine ⟨hdistinct.mpr ⟨h.differ, h.distinct⟩, ?_⟩
    intro place hplace hdb
    rw [hkept] at hplace
    rcases List.mem_map.mp hplace with ⟨path, hpath, rfl⟩
    have hspared := (spares_iff hroot hprepared hbacktest).mp (h.spared path hpath)
    rw [mem_scratchPlaces_iff] at hspared
    refine ⟨fun hmem => hspared ⟨hdb, .inr (.inl hmem)⟩, fun hdb' hmem => ?_⟩
    exact hspared ⟨hdb, .inr (.inr ⟨hdb', .inr hmem⟩)⟩
  · intro h
    rcases hdistinct.mp h.distinct with ⟨hdiffer, hnodup⟩
    refine ⟨fun output hmem => (houtputs output hmem).below, hinput, hnodup, hdiffer, ?_⟩
    intro path hpath
    refine (spares_iff hroot hprepared hbacktest).mpr ?_
    have hmem : path.locate cwd ∈ (places cwd plan).kept := hkept ▸ List.mem_map_of_mem hpath
    rw [mem_scratchPlaces_iff]
    have hne : path.locate cwd ≠ (places cwd plan).prepared ∧
        path.locate cwd ≠ (places cwd plan).backtest := by
      have hdistinct := h.distinct
      simp only [JobPlaces.kept, List.mem_cons, List.not_mem_nil, or_false] at hmem
      grind
    rintro ⟨hdb, heq | hside | ⟨hdb', heq | hside⟩⟩
    · exact hne.1 heq
    · exact (h.sidecars _ hmem hdb).1 hside
    · exact hne.2 heq
    · exact (h.sidecars _ hmem hdb).2 hdb' hside

/-- The outputs of a plan lie in the directory of the job, and its places are those of the names. -/
theorem PlanOf.spec (h : PlanOf host disk workRoot job artifact raw plan)
    (hroot : workRoot.IsDirect) (hne : workRoot ≠ []) :
    plan.jobRoot ≠ [] ∧ (∀ output ∈ outputPaths plan, IsOutput plan.jobRoot output) ∧
      ∃ root name, artifact.mapM resolveArtifactRoot = .ok (some root) ∧
        inputName host disk raw root = some name ∧ plan.artifactRoot = some root ∧
          root <+: plan.dataDbPath ∧ places host.cwd plan = jobPlaces host.cwd workRoot job raw
            ((Path.parse name).locate (root.locate host.cwd)) := by
  rcases resolveOutputPath_eq_ok host.cwd hroot hne h.jobRoot with ⟨hjob, hjobPlace⟩
  have hjobNe : plan.jobRoot ≠ [] := fun hnil => hne (List.prefix_nil.mp (hnil ▸ hjob.below))
  rcases resolveOutputPath_eq_ok host.cwd hjob.direct hjobNe h.prepared with ⟨hprepared, hplace₁⟩
  rcases resolveOutputPath_eq_ok host.cwd hjob.direct hjobNe h.backtest with ⟨hbacktest, hplace₂⟩
  rcases resolveOutputPath_eq_ok host.cwd hjob.direct hjobNe h.sweep with ⟨hsweep, hplace₃⟩
  rcases resolveOutputPath_eq_ok host.cwd hjob.direct hjobNe h.reportJson with ⟨hjson, hplace₄⟩
  rcases resolveOutputPath_eq_ok host.cwd hjob.direct hjobNe h.reportCsv with ⟨hcsv, hplace₅⟩
  have hdata := h.dataDb
  cases hartifact : plan.artifactRoot with
  | none =>
    rw [hartifact] at hdata
    cases hdata
  | some root =>
    rw [hartifact] at hdata
    have hresolved : artifact.mapM resolveArtifactRoot = .ok (some root) :=
      hartifact ▸ h.artifactRoot
    have hdirect : root.IsDirect ∧ root ≠ [] := by
      cases artifact with
      | none => cases hresolved
      | some artifact =>
        rcases ok_of_bind hresolved with ⟨root', hroot', hsame⟩
        cases hsame
        exact resolveArtifactRoot_eq_ok hroot'
    rcases resolveDataDbPath_eq_ok hdirect.1 hdirect.2 hdata with
      ⟨name, hname, hbelow, hdataPlace⟩
    refine ⟨hjobNe, ?_, root, name, hresolved, hname, rfl, hbelow, ?_⟩
    · simp only [outputPaths, List.forall_mem_cons, List.not_mem_nil, false_imp_iff,
        implies_true, and_true]
      exact ⟨hprepared, hbacktest, hsweep, hjson, hcsv⟩
    · unfold places jobPlaces
      rw [hplace₁, hplace₂, hplace₃, hplace₄, hplace₅, hdataPlace, hjobPlace]

/-- A plan is confined if and only if the names in the parameters of the job, and in the manifest,
lead to places that are apart. -/
theorem confined_plans (configuredRoot : String)
    (hroot : normalizePath (Path.parse configuredRoot) = .ok workRoot)
    (hraw : parseJobParams host job.paramsJson = .ok raw)
    (hplan : planForJob host disk workRoot job artifact = .ok plan) :
    Confined host.cwd plan ↔ NamesApart host disk workRoot job artifact raw := by
  rcases lexicalPath_eq_ok host.cwd (Path.isProper_parse configuredRoot) hroot with
    ⟨hdirect, hne, -⟩
  rcases (planForJob_eq_ok hraw hplan).spec hdirect hne with
    ⟨hjobNe, houtputs, root, name, hresolved, hname, hartifact, hbelow, hplaces⟩
  rw [confined_iff_apart hjobNe houtputs ⟨root, hartifact, hbelow⟩, hplaces]
  constructor
  · intro h root' name' hroot' hname'
    cases Except.ok.inj (hresolved.symm.trans hroot')
    cases hname.symm.trans hname'
    exact h
  · intro h
    exact h root name hresolved hname

end Plans

/-! ## Default names and the name of a sidecar -/

def sampleRawParams (reportCsvPath : Option String) : RawResearchJobParams :=
  { RawResearchJobParams.default with
    dataDbPath := some "run.db"
    start := some "2026-01-01T00:00:00Z"
    finish := some "2026-01-02T00:00:00Z"
    reportCsvPath := reportCsvPath
    archiveScratch := true }

def sampleParamsText (reportCsvPath : Option String) : String :=
  "\x7b\"data_db_path\":\"run.db\",\"start\":\"2026-01-01T00:00:00Z\"," ++
    "\"end\":\"2026-01-02T00:00:00Z\"," ++
    reportCsvPath.elim "" (fun path => "\"report_csv_path\":\"" ++ path ++ "\",") ++
    "\"archive_scratch\":true\x7d"

def samplePipelineHost (reportCsvPath : Option String) : PipelineHost where
  parseParams text :=
    if text = sampleParamsText reportCsvPath then .ok (sampleRawParams reportCsvPath)
    else .error "expected value at line 1 column 1"
  artifacts :=
    { sha256 := fun _ => ""
      parseManifest := fun _ =>
        .error (.badRequest "invalid artifact manifest: expected value at line 1 column 1")
      clock := fun _ => 1000
      storable := fun _ => by decide }
  formatMillisRfc3339 _ := .ok "2026-01-01T00:00:00.000Z"
  cwd := []

def sampleRunDisk : Disk := fun place =>
  if place = ["runs", "a1", "run.db"] then some (.file []) else none

def sampleRunArtifact : ResearchArtifact where
  id := "a1"
  kind := "run"
  status := "available"
  artifactRoot := some "/runs/a1"
  createdAt := 1
  updatedAt := 1

def sampleResearchJob (paramsJson : String) : ResearchJob where
  id := "j1"
  jobType := "backtest"
  artifactId := some "a1"
  status := .running
  priority := 0
  requestedBy := "operator"
  paramsJson := some paramsJson
  createdAt := 1
  updatedAt := 1

def samplePlan (reportCsvName : String) : ResearchPipelinePlan where
  jobId := "j1"
  jobType := "backtest"
  artifactId := some "a1"
  artifactRoot := some [.root, .name "runs", .name "a1"]
  jobRoot := [.root, .name "work", .name "jobs", .name "j1"]
  dataDbPath := [.root, .name "runs", .name "a1", .name "run.db"]
  start := "2026-01-01T00:00:00Z"
  finish := "2026-01-02T00:00:00Z"
  preparedDbOutputPath :=
    [.root, .name "work", .name "jobs", .name "j1", .name "prepared-backtest.db"]
  backtestOutputPath := [.root, .name "work", .name "jobs", .name "j1", .name "backtest.db"]
  sweepOutputPath := [.root, .name "work", .name "jobs", .name "j1", .name "sweep.csv"]
  reportJsonPath := [.root, .name "work", .name "jobs", .name "j1", .name "report.json"]
  reportCsvPath := [.root, .name "work", .name "jobs", .name "j1", .name reportCsvName]
  balance := 200
  sets := []
  sweeps := []
  archiveScratch := true

theorem sample_plan :
    planForJob (samplePipelineHost none) sampleRunDisk [.root, .name "work"]
      (sampleResearchJob (sampleParamsText none)) (some sampleRunArtifact) =
        .ok (samplePlan "report.csv") := by
  rfl

set_option maxRecDepth 2000 in
theorem sample_plan_sidecar :
    planForJob (samplePipelineHost (some "backtest.db-wal")) sampleRunDisk [.root, .name "work"]
      (sampleResearchJob (sampleParamsText (some "backtest.db-wal"))) (some sampleRunArtifact) =
        .ok (samplePlan "backtest.db-wal") := by
  rfl

/-- A job that keeps the default names has a confined plan. -/
theorem confined_plans_default : Confined [] (samplePlan "report.csv") := by
  refine (confined_plans "/work" rfl rfl sample_plan).mpr fun root name hroot hname => ?_
  cases hroot
  cases hname
  constructor
  · decide
  · decide

/-- A report that is named like a sidecar is removed with the database. -/
theorem confined_plans_sidecar :
    ¬ ∀ (host : PipelineHost) (disk : Disk) (configuredRoot : String) (workRoot : Path)
      (job : ResearchJob) (artifact : Option ResearchArtifact) (plan : ResearchPipelinePlan),
      normalizePath (Path.parse configuredRoot) = .ok workRoot →
        planForJob host disk workRoot job artifact = .ok plan → Confined host.cwd plan := by
  intro hconfined
  have hplan := hconfined _ _ "/work" _ _ _ _ rfl sample_plan_sidecar
  have hmem : [.root, .name "work", .name "jobs", .name "j1", .name "backtest.db-wal"] ∈
      keptPaths (samplePlan "backtest.db-wal") := by
    simp [keptPaths, samplePlan]
  have hspared := hplan.spared _ hmem (fun _ => some (.file [])) ⟨[], []⟩
  have hgone : ((archiveScratchDbs [] (samplePlan "backtest.db-wal")).outcome
      (fun _ => some (.file []), ⟨[], []⟩)).2.1 ["work", "jobs", "j1", "backtest.db-wal"] = none := by
    rfl
  exact absurd (hgone.symm.trans hspared) nofun

end ResearchPipeline

end BubaPaint
