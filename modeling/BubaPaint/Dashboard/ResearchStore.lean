import BubaPaint.Library.KeyedTable
import BubaPaint.Library.Pipeline
import BubaPaint.Text
import Mathlib.Data.Prod.Lex
import Mathlib.Data.List.Sort
import Mathlib.Algebra.Ring.Nat

/-!
# The research tables of the dashboard

Jobs and their steps are rows of two tables. The statements of the store rewrite the rows that a
condition selects, and an operation whose statement fails is rolled back.
-/

namespace BubaPaint

open Effects

/-- Failures of the dashboard. -/
inductive DashboardError where
  | database
  | notFound (message : String)
  | badRequest (message : String)
  deriving DecidableEq

/-! ## Rows -/

/-- The lifecycle status of a job. -/
inductive ResearchJobStatus where
  | queued
  | running
  | retryable
  | paused
  | failed
  | blocked
  | cancelled
  | completed
  deriving DecidableEq

def ResearchJobStatus.asStr : ResearchJobStatus → String
  | .queued => "queued"
  | .running => "running"
  | .retryable => "retryable"
  | .paused => "paused"
  | .failed => "failed"
  | .blocked => "blocked"
  | .cancelled => "cancelled"
  | .completed => "completed"

/-- The lifecycle status of a step. -/
inductive ResearchStepStatus where
  | queued
  | leased
  | running
  | completed
  | retryable
  | failed
  | blocked
  | cancelled
  | paused
  deriving DecidableEq

def ResearchStepStatus.asStr : ResearchStepStatus → String
  | .queued => "queued"
  | .leased => "leased"
  | .running => "running"
  | .completed => "completed"
  | .retryable => "retryable"
  | .failed => "failed"
  | .blocked => "blocked"
  | .cancelled => "cancelled"
  | .paused => "paused"

def ResearchStepStatus.progress : ResearchStepStatus → Progress
  | .completed => .done
  | .leased | .running => .active
  | .queued | .retryable | .failed | .blocked | .cancelled | .paused => .waiting

/-- A research job. -/
structure ResearchJob where
  id : String
  jobType : String
  artifactId : Option String := none
  status : ResearchJobStatus
  priority : ℤ
  requestedBy : String
  paramsJson : Option String := none
  createdAt : ℕ
  updatedAt : ℕ
  (cancelledAt completedAt : Option ℕ := none)
  deriving DecidableEq

/-- A step of a research job. -/
structure ResearchJobStep where
  id : String
  jobId : String
  stepIndex : ℤ
  name : String
  status : ResearchStepStatus
  leaseOwner : Option String := none
  leasedUntilMs : Option ℕ := none
  attempts : ℤ
  (inputJson outputJson error : Option String := none)
  createdAt : ℕ
  updatedAt : ℕ
  (startedAt completedAt : Option ℕ := none)
  deriving DecidableEq

namespace ResearchJobStep

def IsActive (step : ResearchJobStep) : Prop :=
  step.status = .leased ∨ step.status = .running

instance (step : ResearchJobStep) : Decidable step.IsActive :=
  inferInstanceAs (Decidable (_ ∨ _))

/-- The worker holds the lease of an active step. -/
def HeldBy (step : ResearchJobStep) (workerId : String) : Prop :=
  step.leaseOwner = some workerId ∧ step.IsActive

instance (step : ResearchJobStep) (workerId : String) : Decidable (step.HeldBy workerId) :=
  inferInstanceAs (Decidable (_ ∧ _))

def place (step : ResearchJobStep) : String × ℤ :=
  (step.jobId, step.stepIndex)

variable {step : ResearchJobStep}

theorem progress_eq_active_iff : step.status.progress = .active ↔ step.IsActive := by
  unfold IsActive
  cases step.status <;> simp [ResearchStepStatus.progress]

theorem progress_eq_done_iff : step.status.progress = .done ↔ step.status = .completed := by
  cases step.status <;> simp [ResearchStepStatus.progress]

theorem IsActive.not_completed (h : step.IsActive) : step.status ≠ .completed := by
  rcases h with hleased | hrunning
  · rw [hleased]
    decide
  · rw [hrunning]
    decide

end ResearchJobStep

/-- Job and step that a worker gets with a lease. -/
structure ResearchStepLease where
  job : ResearchJob
  step : ResearchJobStep
  deriving DecidableEq

/-! ## The store -/

/-- The tables that the research operations read and write: of users, artifacts and reports they
read the ids, or the job of a report, only. -/
structure ResearchStore where
  users : List String
  runArtifacts : List String
  reports : List String
  jobs : KeyedTable ResearchJob.id
  steps : KeyedTable ResearchJobStep.id

namespace ResearchStore

def new : ResearchStore where
  users := []
  runArtifacts := []
  reports := []
  jobs := .empty
  steps := .empty

variable (store : ResearchStore)

def updateResearchJobs (p : ResearchJob → Bool) (f : ResearchJob → ResearchJob)
    (hkey : ∀ job, (f job).id = job.id := by intro job; rfl) : ResearchStore :=
  { store with jobs := store.jobs.update p f hkey }

def updateResearchSteps (p : ResearchJobStep → Bool) (f : ResearchJobStep → ResearchJobStep)
    (hkey : ∀ step, (f step).id = step.id := by intro step; rfl) : ResearchStore :=
  { store with steps := store.steps.update p f hkey }

def queryResearchJob (jobId : String) : Except DashboardError ResearchJob :=
  match store.jobs.find? jobId with
  | some job => .ok job
  | none => .error (.notFound s!"research job '{jobId}' not found")

def queryResearchStep (stepId : String) : Except DashboardError ResearchJobStep :=
  match store.steps.find? stepId with
  | some step => .ok step
  | none => .error (.notFound s!"research step '{stepId}' not found")

def ensureArtifactExists (artifactId : String) : Except DashboardError Unit :=
  if artifactId ∈ store.runArtifacts then .ok ()
  else .error (.notFound s!"artifact '{artifactId}' not found")

def ensureStepExists (stepId : String) : Except DashboardError Unit :=
  if (store.steps.find? stepId).isSome then .ok ()
  else .error (.notFound s!"research step '{stepId}' not found")

/-- What an operation leaves when it has committed: its reply is read from the new tables. -/
def commit {α : Type} (read : ResearchStore → Except DashboardError α) :
    Except DashboardError (α × ResearchStore) :=
  (read store).map (·, store)

/-- The store after an operation, which is the old one if it fails. -/
def after {α : Type} : Except DashboardError (α × ResearchStore) → ResearchStore
  | .ok (_, store') => store'
  | .error _ => store

variable {store}

theorem after_induction {α : Type} {outcome : Except DashboardError (α × ResearchStore)}
    {motive : ResearchStore → Prop} (hstore : motive store)
    (hok : ∀ reply store', outcome = .ok (reply, store') → motive store') :
    motive (store.after outcome) := by
  rcases outcome with error | ⟨reply, store'⟩
  · exact hstore
  · exact hok reply store' rfl

theorem queryResearchJob_eq_ok {jobId : String} {job : ResearchJob}
    (h : store.queryResearchJob jobId = .ok job) : job ∈ store.jobs.rows ∧ job.id = jobId := by
  unfold queryResearchJob at h
  split at h
  · rename_i hfind
    cases h
    exact KeyedTable.find?_eq_some_iff.mp hfind
  · cases h

theorem queryResearchStep_eq_ok {stepId : String} {step : ResearchJobStep}
    (h : store.queryResearchStep stepId = .ok step) :
    step ∈ store.steps.rows ∧ step.id = stepId := by
  unfold queryResearchStep at h
  split at h
  · rename_i hfind
    cases h
    exact KeyedTable.find?_eq_some_iff.mp hfind
  · cases h

theorem commit_eq_ok {α : Type} {read : ResearchStore → Except DashboardError α} {reply : α}
    {store' : ResearchStore} (h : store.commit read = .ok (reply, store')) : store' = store := by
  unfold commit at h
  cases hread : read store with
  | error e =>
    rw [hread] at h
    cases h
  | ok value =>
    rw [hread] at h
    cases h
    rfl

end ResearchStore

/-- Times are stored as signed words of 64 bits; a larger one is refused. -/
def sqlInteger (value : ℕ) : Except DashboardError ℕ :=
  if value < 2 ^ 63 then .ok value else .error .database

/-- The end of a lease: the sum is cut off at the largest word of 64 bits. -/
def leaseUntil (now leaseDurationMs : ℕ) : ℕ :=
  min (now + leaseDurationMs) (2 ^ 64 - 1)

def ensureStepBelongsToJob (step : ResearchJobStep) (jobId : String) : Except DashboardError Unit :=
  if step.jobId = jobId then .ok ()
  else .error (.badRequest s!"research step '{step.id}' does not belong to job '{jobId}'")

def researchPriorityBound : ℤ :=
  1000

/-- Validate that a research queue priority is within the documented range. -/
def validateResearchPriority (priority : ℤ) : Except DashboardError Unit :=
  if -researchPriorityBound ≤ priority ∧ priority ≤ researchPriorityBound then .ok ()
  else
    .error (.badRequest
      s!"priority must be between {-researchPriorityBound} and {researchPriorityBound}")

def stepTemplatesForJob : String → Option (List String)
  | "export" =>
    some ["plan_export", "snapshot_or_copy_runtime", "write_artifact_manifest", "verify_artifact"]
  | "current_params" =>
    some ["verify_artifact", "validate_replay_data", "validate_backtest_input",
      "prepare_backtest_input", "run_backtest", "write_report"]
  | "sweep" =>
    some ["verify_artifact", "validate_replay_data", "validate_backtest_input",
      "prepare_backtest_input", "run_sweep", "write_report"]
  | _ => none

/-- How often a step may be leased without completing. -/
def researchStepMaxAttempts : ℤ :=
  5

/-- Tri-state update for nullable database fields. -/
inductive NullableUpdate (α : Type) where
  | unchanged
  | clear
  | set (value : α)

def NullableUpdate.apply {α : Type} (stored : Option α) : NullableUpdate α → Option α
  | .unchanged => stored
  | .clear => none
  | .set value => some value

end BubaPaint
