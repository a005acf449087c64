import BubaPaint.Dashboard.ResearchStore

/-!
# The research operations of the dashboard

Operators and workers change a job and its steps through these operations. Each checks the stored
rows first and then rewrites them in one transaction.
-/

namespace BubaPaint

open Effects

namespace ResearchStore

variable (store : ResearchStore)

/-! ## Jobs -/

def insertResearchStep (step : ResearchJobStep) : Except DashboardError ResearchStore :=
  if step.place ∈ store.steps.rows.map (·.place) then .error .database
  else
    match store.steps.insert step with
    | some steps => .ok { store with steps := steps }
    | none => .error .database

def initialStep (jobId stepId : String) (index : ℕ) (name : String) (now : ℕ) :
    ResearchJobStep where
  id := stepId
  jobId := jobId
  stepIndex := index
  name := name
  status := .queued
  leaseOwner := none
  leasedUntilMs := none
  attempts := 0
  inputJson := none
  outputJson := none
  error := none
  createdAt := now
  updatedAt := now
  startedAt := none
  completedAt := none

def insertResearchJob (job : ResearchJob) : Except DashboardError ResearchStore :=
  if job.requestedBy ∉ store.users then .error .database
  else
    match store.jobs.insert job with
    | some jobs => .ok { store with jobs := jobs }
    | none => .error .database

/-- Create a research job and its deterministic initial step list, under the given identifiers. -/
def createResearchJob (jobType : String) (artifactId : Option String) (requestedBy : String)
    (priority : ℤ) (paramsJson : Option String) (now : ℕ) (jobId : String)
    (stepIds : ℕ → String) : Except DashboardError (ResearchJob × ResearchStore) := do
  validateResearchPriority priority
  match stepTemplatesForJob jobType with
  | none => .error (.badRequest "job_type must be 'export', 'current_params', or 'sweep'")
  | some stepNames =>
    if (jobType = "current_params" ∨ jobType = "sweep") ∧ artifactId = none then
      .error (.badRequest "artifact_id is required for backtest and sweep jobs")
    else do
      artifactId.forM store.ensureArtifactExists
      let now ← sqlInteger now
      let inserted ← store.insertResearchJob
        { id := jobId, jobType := jobType, artifactId := artifactId, status := .queued,
          priority := priority, requestedBy := requestedBy, paramsJson := paramsJson,
          createdAt := now, updatedAt := now, cancelledAt := none, completedAt := none }
      let created ← stepNames.zipIdx.foldlM
        (fun store named =>
          store.insertResearchStep (initialStep jobId (stepIds named.2) named.2 named.1 now))
        inserted
      created.commit (·.queryResearchJob jobId)

def stepStarted (step : ResearchJobStep) : Bool :=
  step.status ≠ .queued || step.attempts > 0 || step.startedAt.isSome || step.completedAt.isSome

/-- Update a queued research job before any step has started. -/
def updateQueuedResearchJob (id : String) (artifactId : NullableUpdate String)
    (priority : Option ℤ) (paramsJson : NullableUpdate String) (now : ℕ) :
    Except DashboardError (ResearchJob × ResearchStore) := do
  let existing ← store.queryResearchJob id
  if existing.status ≠ .queued then
    .error (.badRequest s!"research job '{existing.id}' can only be updated while queued")
  else if store.steps.rows.any fun step => step.jobId = id && stepStarted step then
    .error (.badRequest s!"research job '{existing.id}' cannot be updated after steps have started")
  else
    let newArtifactId := artifactId.apply existing.artifactId
    if newArtifactId.any isBlank then
      .error (.badRequest "artifact_id must not be empty")
    else if (existing.jobType = "current_params" ∨ existing.jobType = "sweep") ∧
        newArtifactId = none then
      .error (.badRequest "artifact_id is required for backtest and sweep jobs")
    else do
      newArtifactId.forM store.ensureArtifactExists
      priority.forM validateResearchPriority
      let now ← sqlInteger now
      (store.updateResearchJobs (fun job => job.id = id) fun job =>
        { job with
          artifactId := newArtifactId
          priority := priority.getD existing.priority
          paramsJson := paramsJson.apply existing.paramsJson
          updatedAt := now }).commit (·.queryResearchJob id)

def attachResearchJobArtifact (jobId artifactId : String) (now : ℕ) :
    Except DashboardError (ResearchJob × ResearchStore) := do
  store.ensureArtifactExists artifactId
  let now ← sqlInteger now
  let _ ← store.queryResearchJob jobId
  (store.updateResearchJobs (fun job => job.id = jobId) fun job =>
    { job with artifactId := some artifactId, updatedAt := now }).commit (·.queryResearchJob jobId)

/-- Pause a queued, running, or retryable research job. -/
def pauseResearchJob (id : String) (now : ℕ) :
    Except DashboardError (ResearchJob × ResearchStore) := do
  let existing ← store.queryResearchJob id
  if existing.status = .paused then
    .ok (existing, store)
  else if existing.status ∉ [.queued, .running, .retryable] then
    .error (.badRequest
      s!"research job '{existing.id}' cannot be paused from status '{existing.status.asStr}'")
  else do
    let now ← sqlInteger now
    ((store.updateResearchJobs (fun job => job.id = id) fun job =>
      { job with status := .paused, updatedAt := now }).updateResearchSteps
        (fun step => step.jobId = id && step.status ∈ [.queued, .retryable, .leased]) fun step =>
          { step with
            status := .paused
            leaseOwner := none
            leasedUntilMs := none
            updatedAt := now }).commit (·.queryResearchJob id)

/-- Why a job whose status forbids a change is left alone. -/
def refuseJob (id verb : String) : Except DashboardError (ResearchJob × ResearchStore) := do
  let current ← store.queryResearchJob id
  .error (.badRequest s!"research job '{id}' cannot be {verb} from status '{current.status.asStr}'")

/-- Retry one failed, blocked, retryable, or cancelled research job. -/
def retryResearchJob (id : String) (now : ℕ) :
    Except DashboardError (ResearchJob × ResearchStore) := do
  let now ← sqlInteger now
  let selected (job : ResearchJob) : Bool :=
    job.id = id && job.status ∈ [.failed, .blocked, .retryable, .cancelled]
  if store.jobs.rows.any selected then
    ((store.updateResearchJobs selected fun job =>
      { job with
        status := .queued
        cancelledAt := none
        completedAt := none
        updatedAt := now }).updateResearchSteps
        (fun step =>
          step.jobId = id && step.status ∈ [.failed, .blocked, .retryable, .cancelled]) fun step =>
          { step with
            status := .queued
            leaseOwner := none
            leasedUntilMs := none
            error := none
            updatedAt := now }).commit (·.queryResearchJob id)
  else
    store.refuseJob id "retried"

/-- Resume a paused, failed, blocked, retryable, or cancelled research job. -/
def resumeResearchJob (id : String) (now : ℕ) :
    Except DashboardError (ResearchJob × ResearchStore) := do
  let existing ← store.queryResearchJob id
  if existing.status ≠ .paused then
    store.retryResearchJob id now
  else do
    let now ← sqlInteger now
    ((store.updateResearchJobs (fun job => job.id = id) fun job =>
      { job with
        status := .queued
        cancelledAt := none
        completedAt := none
        updatedAt := now }).updateResearchSteps
        (fun step => step.jobId = id && step.status = .paused) fun step =>
          { step with
            status := .queued
            leaseOwner := none
            leasedUntilMs := none
            error := none
            updatedAt := now }).commit (·.queryResearchJob id)

def deleteResearchJob (id : String) : Except DashboardError (ResearchJob × ResearchStore) := do
  let job ← store.queryResearchJob id
  if job.status ∈ [.queued, .running] then
    .error (.badRequest
      s!"research job '{job.id}' cannot be deleted from status '{job.status.asStr}'")
  else if id ∈ store.reports then
    .error (.badRequest s!"research job '{job.id}' has reports and cannot be deleted")
  else
    .ok (job,
      { store with
        jobs := store.jobs.delete fun job => job.id = id
        steps := store.steps.delete fun step => step.jobId = id })

/-- Cancel one queued or running research job. -/
def cancelResearchJob (id : String) (now : ℕ) :
    Except DashboardError (ResearchJob × ResearchStore) := do
  let now ← sqlInteger now
  let selected (job : ResearchJob) : Bool :=
    job.id = id && job.status ∉ [.completed, .cancelled]
  if store.jobs.rows.any selected then
    ((store.updateResearchJobs selected fun job =>
      { job with status := .cancelled, cancelledAt := some now, updatedAt :=
        now }).updateResearchSteps
        (fun step => step.jobId = id && step.status ∉ [.completed, .cancelled]) fun step =>
          { step with
            status := .cancelled
            leaseOwner := none
            leasedUntilMs := none
            updatedAt := now }).commit (·.queryResearchJob id)
  else
    store.refuseJob id "cancelled"

/-! ## Leases -/

/-- The steps with their jobs. -/
def joined : List (ResearchJobStep × ResearchJob) :=
  store.steps.rows.filterMap fun step => (store.jobs.find? step.jobId).map (step, ·)

/-- All steps of lower index in the job of a step are completed. -/
def earlierCompleted (step : ResearchJobStep) : Bool :=
  !store.steps.rows.any fun previous =>
    previous.jobId = step.jobId && previous.stepIndex < step.stepIndex &&
      previous.status ≠ .completed

/-- The step can be leased: it waits, or its lease is over. -/
def leasable (now : ℕ) (row : ResearchJobStep × ResearchJob) : Bool :=
  row.2.status ∈ [.queued, .running, .retryable] &&
    (row.1.status ∈ [.queued, .retryable] ||
      row.1.status ∈ [.leased, .running] && row.1.leasedUntilMs.any (· ≤ now)) &&
    store.earlierCompleted row.1

/-- The order of the candidates. Among equal ones the database takes the row it meets first: the
scan says when it meets a step. -/
def leaseKey (scan : String → ℕ) (row : ResearchJobStep × ResearchJob) : ℤ ×ₗ ℕ ×ₗ ℤ ×ₗ ℕ :=
  toLex (-row.2.priority, toLex (row.2.createdAt, toLex (row.1.stepIndex, scan row.1.id)))

def leaseCandidate (scan : String → ℕ) (now : ℕ) : Option (ResearchJobStep × ResearchJob) :=
  ((store.joined.filter (store.leasable now)).insertionSort
    fun row row' => leaseKey scan row ≤ leaseKey scan row').head?

/-- Lease the next executable research step at a deterministic timestamp. -/
def leaseNextResearchStepAt (scan : String → ℕ) (workerId : String) (now leaseDurationMs : ℕ) :
    Except DashboardError (Option ResearchStepLease × ResearchStore) := do
  if isBlank workerId then
    .error (.badRequest "worker_id must not be empty")
  else if leaseDurationMs = 0 then
    .error (.badRequest "lease_duration_ms must be positive")
  else do
    let now ← sqlInteger now
    match store.leaseCandidate scan now with
    | none => .ok (none, store)
    | some (candidate, owner) =>
      if candidate.attempts ≥ researchStepMaxAttempts then
        let poisonError := s!"step exceeded the maximum of {researchStepMaxAttempts} lease " ++
          "attempts without completing"
        .ok (none,
          (store.updateResearchSteps (fun step => step.id = candidate.id) fun step =>
            { step with
              status := .failed
              error := some poisonError
              leaseOwner := none
              leasedUntilMs := none
              updatedAt := now }).updateResearchJobs (fun job => job.id = owner.id) fun job =>
                { job with status := .failed, updatedAt := now })
      else do
        let leasedUntil ← sqlInteger (leaseUntil now leaseDurationMs)
        ((store.updateResearchSteps (fun step => step.id = candidate.id) fun step =>
          { step with
            status := .leased
            leaseOwner := some workerId
            leasedUntilMs := some leasedUntil
            attempts := step.attempts + 1
            updatedAt := now
            error := none }).updateResearchJobs
              (fun job => job.id = owner.id && job.status ∈ [.queued, .retryable]) fun job =>
                { job with status := .running, updatedAt := now }).commit fun leased => do
                  let job ← leased.queryResearchJob owner.id
                  let step ← leased.queryResearchStep candidate.id
                  return some { job := job, step := step }

/-- Mark a leased research step as running at a deterministic timestamp. -/
def markResearchStepRunningAt (stepId workerId : String) (now : ℕ) :
    Except DashboardError (ResearchJobStep × ResearchStore) := do
  let now ← sqlInteger now
  let selected (step : ResearchJobStep) : Bool := step.id = stepId && step.HeldBy workerId
  if store.steps.rows.any selected then
    (store.updateResearchSteps selected fun step =>
      { step with
        status := .running
        startedAt := some (step.startedAt.getD now)
        updatedAt := now }).commit (·.queryResearchStep stepId)
  else do
    store.ensureStepExists stepId
    .error (.badRequest s!"step '{stepId}' is not leased by worker '{workerId}'")

/-- Extend an active research step lease at a deterministic timestamp. -/
def refreshResearchStepLeaseAt (stepId workerId : String) (now leaseDurationMs : ℕ) :
    Except DashboardError (ResearchJobStep × ResearchStore) := do
  if leaseDurationMs = 0 then
    .error (.badRequest "lease_duration_ms must be positive")
  else do
    let leasedUntil ← sqlInteger (leaseUntil now leaseDurationMs)
    let now ← sqlInteger now
    let selected (step : ResearchJobStep) : Bool := step.id = stepId && step.HeldBy workerId
    if store.steps.rows.any selected then
      (store.updateResearchSteps selected fun step =>
        { step with leasedUntilMs := some leasedUntil, updatedAt := now }).commit
          (·.queryResearchStep stepId)
    else do
      store.ensureStepExists stepId
      .error (.badRequest s!"step '{stepId}' is not active for worker '{workerId}'")

/-- A report on a step must come from the worker that holds its lease. -/
def ensureStepHeld (step : ResearchJobStep) (workerId : String) : Except DashboardError Unit :=
  if step.HeldBy workerId then .ok ()
  else .error (.badRequest s!"step '{step.id}' is not active for worker '{workerId}'")

/-- Mark a research step as completed at a deterministic timestamp. -/
def completeResearchStepAt (stepId workerId : String) (outputJson : Option String) (now : ℕ) :
    Except DashboardError (ResearchJobStep × ResearchStore) := do
  let existing ← store.queryResearchStep stepId
  if existing.status = .completed then
    .ok (existing, store)
  else do
    ensureStepHeld existing workerId
    let now ← sqlInteger now
    let updated := store.updateResearchSteps
      (fun step => step.id = stepId && step.leaseOwner = some workerId) fun step =>
        { step with
          status := .completed
          outputJson := outputJson
          leaseOwner := none
          leasedUntilMs := none
          completedAt := some now
          updatedAt := now }
    let completed := if updated.steps.rows.any fun step =>
        step.jobId = existing.jobId && step.status ≠ .completed then updated
      else
        updated.updateResearchJobs (fun job => job.id = existing.jobId) fun job =>
          { job with status := .completed, completedAt := some now, updatedAt := now }
    completed.commit (·.queryResearchStep stepId)

/-- Release the lease of a step that its worker gives up: the step and its job get new statuses. -/
def giveUpStep (existing : ResearchJobStep) (workerId : String) (stepStatus : ResearchStepStatus)
    (jobStatus : ResearchJobStatus) (error : String) (now : ℕ) : ResearchStore :=
  (store.updateResearchSteps
    (fun step => step.id = existing.id && step.leaseOwner = some workerId) fun step =>
      { step with
        status := stepStatus
        error := some error
        leaseOwner := none
        leasedUntilMs := none
        updatedAt := now }).updateResearchJobs (fun job => job.id = existing.jobId) fun job =>
          { job with status := jobStatus, updatedAt := now }

/-- Mark a research step as retryable or permanently failed at a deterministic timestamp. -/
def failResearchStepAt (stepId workerId error : String) (retryable : Bool) (now : ℕ) :
    Except DashboardError (ResearchJobStep × ResearchStore) := do
  if isBlank error then
    .error (.badRequest "error must not be empty")
  else do
    let existing ← store.queryResearchStep stepId
    ensureStepHeld existing workerId
    let now ← sqlInteger now
    (store.giveUpStep existing workerId (if retryable then .retryable else .failed)
      (if retryable then .retryable else .failed) error now).commit (·.queryResearchStep stepId)

/-- Mark a research step as blocked at a deterministic timestamp. -/
def blockResearchStepAt (stepId workerId reason : String) (now : ℕ) :
    Except DashboardError (ResearchJobStep × ResearchStore) := do
  if isBlank reason then
    .error (.badRequest "block reason must not be empty")
  else do
    let existing ← store.queryResearchStep stepId
    ensureStepHeld existing workerId
    let now ← sqlInteger now
    (store.giveUpStep existing workerId .blocked .blocked reason now).commit
      (·.queryResearchStep stepId)

/-- Retry one failed, blocked, retryable, cancelled, or paused step. -/
def retryResearchStep (jobId stepId : String) (now : ℕ) :
    Except DashboardError (ResearchJobStep × ResearchStore) := do
  let existing ← store.queryResearchStep stepId
  ensureStepBelongsToJob existing jobId
  if existing.status ∉ [.failed, .blocked, .retryable, .cancelled, .paused] then
    .error (.badRequest
      s!"research step '{existing.id}' cannot be retried from status '{existing.status.asStr}'")
  else do
    let now ← sqlInteger now
    ((store.updateResearchSteps (fun step => step.id = stepId && step.jobId = jobId) fun step =>
      { step with
        status := .queued
        leaseOwner := none
        leasedUntilMs := none
        error := none
        completedAt := none
        updatedAt := now }).updateResearchJobs (fun job => job.id = jobId) fun job =>
          { job with
            status := .queued
            cancelledAt := none
            completedAt := none
            updatedAt := now }).commit (·.queryResearchStep stepId)

/-- Cancel one non-terminal research step and its owning job. -/
def cancelResearchStep (jobId stepId : String) (now : ℕ) :
    Except DashboardError (ResearchJobStep × ResearchStore) := do
  let existing ← store.queryResearchStep stepId
  ensureStepBelongsToJob existing jobId
  if existing.status ∈ [.completed, .cancelled] then
    .error (.badRequest
      s!"research step '{existing.id}' cannot be cancelled from status '{existing.status.asStr}'")
  else do
    let now ← sqlInteger now
    ((store.updateResearchSteps (fun step => step.id = stepId && step.jobId = jobId) fun step =>
      { step with
        status := .cancelled
        leaseOwner := none
        leasedUntilMs := none
        error := some "cancelled by operator"
        updatedAt := now }).updateResearchJobs (fun job => job.id = jobId) fun job =>
          { job with
            status := .cancelled
            cancelledAt := some now
            completedAt := none
            updatedAt := now }).commit (·.queryResearchStep stepId)

/-- Clear a stale lease at a deterministic timestamp. -/
def clearStaleResearchStepLeaseAt (jobId stepId : String) (now : ℕ) :
    Except DashboardError (ResearchJobStep × ResearchStore) := do
  let existing ← store.queryResearchStep stepId
  ensureStepBelongsToJob existing jobId
  if ¬ existing.IsActive then
    .error (.badRequest s!"research step '{existing.id}' has no active lease")
  else
    match existing.leasedUntilMs with
    | none => .error (.badRequest s!"research step '{existing.id}' has no lease expiry")
    | some leasedUntilMs =>
      if leasedUntilMs > now then
        .error (.badRequest s!"research step '{existing.id}' lease is not stale")
      else do
        let now ← sqlInteger now
        ((store.updateResearchSteps (fun step => step.id = stepId && step.jobId = jobId) fun step =>
            { step with
              status := .retryable
              leaseOwner := none
              leasedUntilMs := none
              error := some "stale lease cleared by operator"
              updatedAt := now }).updateResearchJobs (fun job => job.id = jobId) fun job =>
                { job with status := .retryable, updatedAt := now }).commit
                  (·.queryResearchStep stepId)

/-- Resolve a blocked step by returning it to the queued state. -/
def resolveResearchStepBlocker (jobId stepId : String) (now : ℕ) :
    Except DashboardError (ResearchJobStep × ResearchStore) := do
  let existing ← store.queryResearchStep stepId
  ensureStepBelongsToJob existing jobId
  if existing.status ≠ .blocked then
    .error (.badRequest s!"research step '{existing.id}' is not blocked")
  else do
    let now ← sqlInteger now
    ((store.updateResearchSteps (fun step => step.id = stepId && step.jobId = jobId) fun step =>
      { step with
        status := .queued
        leaseOwner := none
        leasedUntilMs := none
        error := none
        updatedAt := now }).updateResearchJobs (fun job => job.id = jobId) fun job =>
          { job with status := .queued, updatedAt := now }).commit (·.queryResearchStep stepId)

end ResearchStore

/-- What happens to the store. Elsewhere the dashboard changes the other tables at will. -/
inductive ResearchAction where
  | createResearchJob (jobType : String) (artifactId : Option String) (requestedBy : String)
      (priority : ℤ) (paramsJson : Option String) (now : ℕ) (jobId : String)
      (stepIds : ℕ → String)
  | updateQueuedResearchJob (id : String) (artifactId : NullableUpdate String)
      (priority : Option ℤ) (paramsJson : NullableUpdate String) (now : ℕ)
  | attachResearchJobArtifact (jobId artifactId : String) (now : ℕ)
  | pauseResearchJob (id : String) (now : ℕ)
  | resumeResearchJob (id : String) (now : ℕ)
  | deleteResearchJob (id : String)
  | cancelResearchJob (id : String) (now : ℕ)
  | retryResearchJob (id : String) (now : ℕ)
  | leaseNextResearchStepAt (scan : String → ℕ) (workerId : String) (now leaseDurationMs : ℕ)
  | markResearchStepRunningAt (stepId workerId : String) (now : ℕ)
  | refreshResearchStepLeaseAt (stepId workerId : String) (now leaseDurationMs : ℕ)
  | completeResearchStepAt (stepId workerId : String) (outputJson : Option String) (now : ℕ)
  | failResearchStepAt (stepId workerId error : String) (retryable : Bool) (now : ℕ)
  | blockResearchStepAt (stepId workerId reason : String) (now : ℕ)
  | retryResearchStep (jobId stepId : String) (now : ℕ)
  | cancelResearchStep (jobId stepId : String) (now : ℕ)
  | clearStaleResearchStepLeaseAt (jobId stepId : String) (now : ℕ)
  | resolveResearchStepBlocker (jobId stepId : String) (now : ℕ)
  | elsewhere (users runArtifacts reports : List String)

/-- The store after an operation. -/
def ResearchStore.apply (store : ResearchStore) : ResearchAction → ResearchStore
  | .createResearchJob jobType artifactId requestedBy priority paramsJson now jobId stepIds =>
    store.after (store.createResearchJob jobType artifactId requestedBy priority paramsJson now
      jobId stepIds)
  | .updateQueuedResearchJob id artifactId priority paramsJson now =>
    store.after (store.updateQueuedResearchJob id artifactId priority paramsJson now)
  | .attachResearchJobArtifact jobId artifactId now =>
    store.after (store.attachResearchJobArtifact jobId artifactId now)
  | .pauseResearchJob id now => store.after (store.pauseResearchJob id now)
  | .resumeResearchJob id now => store.after (store.resumeResearchJob id now)
  | .deleteResearchJob id => store.after (store.deleteResearchJob id)
  | .cancelResearchJob id now => store.after (store.cancelResearchJob id now)
  | .retryResearchJob id now => store.after (store.retryResearchJob id now)
  | .leaseNextResearchStepAt scan workerId now leaseDurationMs =>
    store.after (store.leaseNextResearchStepAt scan workerId now leaseDurationMs)
  | .markResearchStepRunningAt stepId workerId now =>
    store.after (store.markResearchStepRunningAt stepId workerId now)
  | .refreshResearchStepLeaseAt stepId workerId now leaseDurationMs =>
    store.after (store.refreshResearchStepLeaseAt stepId workerId now leaseDurationMs)
  | .completeResearchStepAt stepId workerId outputJson now =>
    store.after (store.completeResearchStepAt stepId workerId outputJson now)
  | .failResearchStepAt stepId workerId error retryable now =>
    store.after (store.failResearchStepAt stepId workerId error retryable now)
  | .blockResearchStepAt stepId workerId reason now =>
    store.after (store.blockResearchStepAt stepId workerId reason now)
  | .retryResearchStep jobId stepId now => store.after (store.retryResearchStep jobId stepId now)
  | .cancelResearchStep jobId stepId now => store.after (store.cancelResearchStep jobId stepId now)
  | .clearStaleResearchStepLeaseAt jobId stepId now =>
    store.after (store.clearStaleResearchStepLeaseAt jobId stepId now)
  | .resolveResearchStepBlocker jobId stepId now =>
    store.after (store.resolveResearchStepBlocker jobId stepId now)
  | .elsewhere users runArtifacts reports =>
    { store with users := users, runArtifacts := runArtifacts, reports := reports }

end BubaPaint
