import BubaPaint.Dashboard.ResearchPlans

/-!
# Archives of scratch databases

Archiving removes each scratch database and its sidecars, by their names. It stops at a database that
is not named like one.
-/

namespace BubaPaint

open Effects Paths Attempt

def Disk.clear (disk : Disk) (places : List (List String)) : Disk := fun place =>
  if place ∈ places then none else disk place

@[simp]
theorem Disk.clear_nil (disk : Disk) : disk.clear [] = disk := by
  funext place
  simp [clear]

theorem Disk.clear_clear (disk : Disk) (places places' : List (List String)) :
    (disk.clear places).clear places' = disk.clear (places ++ places') := by
  funext place
  by_cases hplace : place ∈ places
  · simp [clear, hplace]
  · simp [clear, hplace]

namespace ResearchPipeline

/-- The place beside a file whose name continues that of the file. -/
def siblingPlace (suffix : String) (place : List String) : List String :=
  place.dropLast ++ [place.getLastD "" ++ suffix]

def sidecarPlaces (place : List String) : List (List String) :=
  [siblingPlace "-wal" place, siblingPlace "-shm" place]

/-- The file is named like a database. -/
def IsDbPlace (place : List String) : Prop :=
  place.getLast?.bind nameExtension = some "db"

instance (place : List String) : Decidable (IsDbPlace place) :=
  inferInstanceAs (Decidable (_ = _))

/-- The places that archiving a database clears, if it is named like one. -/
def familyPlaces (place : List String) : List (List String) :=
  if IsDbPlace place then place :: sidecarPlaces place else []

/-- The places that archiving clears. The prepared database comes first, and archiving stops there
if it is not named like a database. -/
def scratchPlaces (prepared backtest : List String) : List (List String) :=
  familyPlaces prepared ++ if IsDbPlace prepared then familyPlaces backtest else []

section Archives

variable {cwd : List String} {jobRoot path : Path} {place : List String}
variable {candidate : Path} {disk : Disk}

theorem archiveFile_keeps (hne : place ≠ candidate.locate cwd) (entry : Option DiskEntry) :
    Attempt.Keeps (fun s : Disk × ArchiveSummary => s.1 place = entry)
      (archiveFile cwd candidate) := by
  rintro ⟨disk, summary⟩ h
  unfold archiveFile outcome
  simp only [ExceptT.run, ExceptT.mk, StateT.run]
  cases disk (candidate.locate cwd) with
  | none => exact h
  | some found =>
    cases found with
    | directory => exact h
    | file bytes => simpa [Function.update_of_ne hne] using h

theorem archiveFile_clears (summary : ArchiveSummary)
    (hfiles : disk (candidate.locate cwd) ≠ some .directory) :
    ∃ summary', (archiveFile cwd candidate).outcome (disk, summary) =
      (.ok ⟨⟩, (disk.clear [candidate.locate cwd], summary')) := by
  have hclear : disk.clear [candidate.locate cwd] =
      Function.update disk (candidate.locate cwd) none := by
    funext place
    by_cases hplace : place = candidate.locate cwd
    · simp [Disk.clear, hplace]
    · simp [Disk.clear, hplace]
  unfold archiveFile outcome
  simp only [ExceptT.run, ExceptT.mk, StateT.run]
  cases hfound : disk (candidate.locate cwd) with
  | none =>
    refine ⟨_, congrArg (Prod.mk _) (congrArg (Prod.mk · _) ?_)⟩
    rw [hclear, ← hfound, Function.update_eq_self]
  | some found =>
    cases found with
    | directory => exact absurd hfound hfiles
    | file bytes => exact ⟨_, congrArg (Prod.mk _) (congrArg (Prod.mk · _) hclear.symm)⟩

/-! ## The family of a database -/

theorem archiveFiles_keeps {candidates : List Path}
    (hne : place ∉ candidates.map (·.locate cwd)) (entry : Option DiskEntry) :
    Attempt.Keeps (fun s : Disk × ArchiveSummary => s.1 place = entry)
      (.forEach candidates (archiveFile cwd)) :=
  .forEach fun candidate hmem =>
    archiveFile_keeps (fun heq => hne (List.mem_map.mpr ⟨candidate, hmem, heq.symm⟩)) entry

theorem archiveFiles_clears (candidates : List Path)
    (hfiles : ∀ place, disk place ≠ some .directory) (summary : ArchiveSummary) :
    ∃ summary', (forEach candidates (archiveFile cwd)).outcome (disk, summary) =
      (.ok ⟨⟩, (disk.clear (candidates.map (·.locate cwd)), summary')) := by
  induction candidates generalizing disk summary with
  | nil => exact ⟨summary, by simp [forEach]⟩
  | cons candidate rest ih =>
    rcases archiveFile_clears summary (hfiles (candidate.locate cwd)) with ⟨summary', hfirst⟩
    have hcleared : ∀ place, disk.clear [candidate.locate cwd] place ≠ some .directory := by
      intro place
      by_cases hplace : place = candidate.locate cwd
      · simp [Disk.clear, hplace]
      · simpa [Disk.clear, hplace] using hfiles place
    rcases ih hcleared summary' with ⟨summary'', hrest⟩
    refine ⟨summary'', ?_⟩
    rw [forEach, outcome_bind, hfirst]
    simp only [hrest, Disk.clear_clear]
    rfl

theorem normalizePath_of_isDirect (hpath : path.IsDirect) (hne : path ≠ []) :
    normalizePath path = .ok path := by
  have hfilter : path.filter (· ≠ .current) = path :=
    List.filter_eq_self.mpr fun component hmem =>
      decide_eq_true fun heq => hpath.current (heq ▸ hmem)
  refine refuse_eq_ok_iff.mpr ⟨hpath.parent, refuse_eq_ok_iff.mpr ⟨?_, ?_⟩⟩
  · rwa [hfilter]
  · rw [hfilter]

/-- An output of a job is a direct path below the directory of the job. -/
structure IsOutput (jobRoot path : Path) : Prop where
  direct : path.IsDirect
  below : jobRoot <+: path
  ne : path ≠ jobRoot

section Output

variable (h : IsOutput jobRoot path) (hroot : jobRoot ≠ [])

include h hroot

theorem IsOutput.normalizePath_eq : normalizePath path = .ok path :=
  normalizePath_of_isDirect h.direct fun hnil => hroot (List.prefix_nil.mp (hnil ▸ h.below))

theorem IsOutput.extension_eq : path.extension = (path.locate cwd).getLast?.bind nameExtension := by
  rcases h.direct.exists_eq_append_name h.below hroot h.ne with ⟨dir, name, hdir, rfl⟩
  rw [Path.extension_append_name, Path.locate_append_name hdir]
  simp

theorem archiveDbFamily_eq :
    archiveDbFamily cwd jobRoot path =
      if IsDbPlace (path.locate cwd) then .forEach (sqliteFamilyPaths path) (archiveFile cwd)
      else .ofExcept (.error (.badRequest s!"archive path is not a SQLite DB: {path.text}")) := by
  have hstep : ∀ f : Path → Attempt WorkerError (Disk × ArchiveSummary) PUnit,
      (.ofExcept (.ok path) >>= f) = f path := fun _ => rfl
  unfold archiveDbFamily
  rw [h.normalizePath_eq hroot, hstep, if_neg (not_not.mpr h.below)]
  by_cases hdb : IsDbPlace (path.locate cwd)
  · have hext : path.extension = some "db" := (h.extension_eq hroot).trans hdb
    rw [if_neg (not_not.mpr hext), if_pos hdb]
  · have hext : path.extension ≠ some "db" := fun hext =>
      hdb ((h.extension_eq hroot).symm.trans hext)
    rw [if_pos hext, if_neg hdb]

theorem locate_sqliteFamilyPaths :
    (sqliteFamilyPaths path).map (·.locate cwd) =
      path.locate cwd :: sidecarPlaces (path.locate cwd) := by
  rcases h.direct.exists_eq_append_name h.below hroot h.ne with ⟨dir, name, hdir, rfl⟩
  simp [sqliteFamilyPaths, sidecarPlaces, siblingPlace, Path.withSuffix_append_name,
    Path.locate_append_name hdir]

theorem archiveDbFamily_keeps (hplace : place ∉ familyPlaces (path.locate cwd))
    (entry : Option DiskEntry) :
    Attempt.Keeps (fun s : Disk × ArchiveSummary => s.1 place = entry)
      (archiveDbFamily cwd jobRoot path) := by
  rw [archiveDbFamily_eq h hroot]
  unfold familyPlaces at hplace
  by_cases hdb : IsDbPlace (path.locate cwd)
  · rw [if_pos hdb] at hplace ⊢
    rw [← locate_sqliteFamilyPaths h hroot] at hplace
    exact archiveFiles_keeps hplace entry
  · rw [if_neg hdb]
    exact .ofExcept _

end Output

variable (cwd) in
theorem archiveDbFamily_clears (h : IsOutput jobRoot path) (hroot : jobRoot ≠ [])
    (hfiles : ∀ place, disk place ≠ some .directory) (summary : ArchiveSummary) :
    ∃ result summary', (archiveDbFamily cwd jobRoot path).outcome (disk, summary) =
      (result, (disk.clear (familyPlaces (path.locate cwd)), summary')) ∧
        (result = .ok ⟨⟩ ↔ IsDbPlace (path.locate cwd)) := by
  rw [archiveDbFamily_eq h hroot]
  unfold familyPlaces
  by_cases hdb : IsDbPlace (path.locate cwd)
  · rcases archiveFiles_clears (sqliteFamilyPaths path) hfiles summary with ⟨summary', hcleared⟩
    rw [locate_sqliteFamilyPaths h hroot] at hcleared
    refine ⟨.ok ⟨⟩, summary', ?_, iff_of_true rfl hdb⟩
    rw [if_pos hdb, if_pos hdb, hcleared]
  · rw [if_neg hdb, if_neg hdb, Disk.clear_nil]
    exact ⟨_, summary, rfl, iff_of_false nofun hdb⟩

section Plan

variable {plan : ResearchPipelinePlan} (hroot : plan.jobRoot ≠ [])
variable (hprepared : IsOutput plan.jobRoot plan.preparedDbOutputPath)
variable (hbacktest : IsOutput plan.jobRoot plan.backtestOutputPath)
include hroot hprepared hbacktest

/-- Archiving leaves everything as it is but the scratch places. -/
theorem archiveScratchDbs_keeps
    (hplace : place ∉ scratchPlaces (plan.preparedDbOutputPath.locate cwd)
      (plan.backtestOutputPath.locate cwd)) (disk : Disk) (summary : ArchiveSummary) :
    ((archiveScratchDbs cwd plan).outcome (disk, summary)).2.1 place = disk place := by
  rcases not_or.mp (mt List.mem_append.mpr hplace) with ⟨hfirst, hsecond⟩
  have hkept := archiveDbFamily_keeps hprepared hroot hfirst (disk place)
  by_cases hdb : IsDbPlace (plan.preparedDbOutputPath.locate cwd)
  · rw [if_pos hdb] at hsecond
    have hkept' := archiveDbFamily_keeps hbacktest hroot hsecond (disk place)
    exact hkept.bind (fun _ => hkept'.bind fun _ => .pure _) (disk, summary) rfl
  · unfold archiveScratchDbs forEach
    rw [archiveDbFamily_eq hprepared hroot, if_neg hdb]
    rfl

/-- Archiving clears the scratch places, if no directory stands in the way. -/
theorem archiveScratchDbs_clears {disk : Disk} (hfiles : ∀ place, disk place ≠ some .directory)
    (summary : ArchiveSummary) :
    ((archiveScratchDbs cwd plan).outcome (disk, summary)).2.1 =
      disk.clear (scratchPlaces (plan.preparedDbOutputPath.locate cwd)
        (plan.backtestOutputPath.locate cwd)) := by
  rcases archiveDbFamily_clears cwd hprepared hroot hfiles summary with
    ⟨result, summary', hfirst, hresult⟩
  unfold archiveScratchDbs forEach scratchPlaces
  rw [outcome_bind, hfirst]
  by_cases hdb : IsDbPlace (plan.preparedDbOutputPath.locate cwd)
  · rw [hresult.mpr hdb, if_pos hdb, ← Disk.clear_clear]
    have hcleared : ∀ place,
        disk.clear (familyPlaces (plan.preparedDbOutputPath.locate cwd)) place ≠
          some .directory := by
      intro place
      unfold Disk.clear
      split
      · exact nofun
      · exact hfiles place
    rcases archiveDbFamily_clears cwd hbacktest hroot hcleared summary' with
      ⟨result', summary'', hsecond, -⟩
    simp only [forEach, outcome_bind, hsecond]
    cases result' <;> rfl
  · rw [if_neg hdb, List.append_nil]
    cases result with
    | error error => rfl
    | ok done => exact absurd (hresult.mp rfl) hdb

end Plan

end Archives

end ResearchPipeline

end BubaPaint
