import BubaPaint.Dashboard.ResearchOperations
import BubaPaint.Library.Guards

/-!
# The changes a research operation makes

Nearly every operation that succeeds gives the jobs it selects one status and the steps it selects
another, and leaves all other rows alone. What it selects, and when it is accepted, is said here
once for each operation.
-/

namespace BubaPaint

open Effects ResearchJobStatus List

namespace ResearchStore

variable {store store' : ResearchStore}

/-- The jobs that `p` selects get one status and the steps that `q` selects another one;
keys and places stay, and a step that becomes active has an owner. -/
structure Assigns (store store' : ResearchStore) (p : ResearchJob → Bool)
    (jobStatus : ResearchJobStatus) (q : ResearchJobStep → Bool)
    (stepStatus : ResearchStepStatus) : Prop where
  jobs : ∃ f : ResearchJob → ResearchJob,
    (∀ job, (f job).id = job.id ∧ (f job).status = jobStatus) ∧
      store'.jobs.rows = store.jobs.rows.map fun job => if p job then f job else job
  steps : ∃ g : ResearchJobStep → ResearchJobStep,
    (∀ step, (g step).id = step.id ∧ (g step).place = step.place ∧
      (g step).status = stepStatus ∧
        (stepStatus.progress = .active → ∃ worker, (g step).leaseOwner = some worker)) ∧
      store'.steps.rows = store.steps.rows.map fun step => if q step then g step else step

variable {p : ResearchJob → Bool} {q : ResearchJobStep → Bool} {jobStatus : ResearchJobStatus}
  {stepStatus : ResearchStepStatus}
variable {step : ResearchJobStep} {workerId id error : String} {leaseDurationMs : ℕ}

section Assigned

variable (h : store.Assigns store' p jobStatus q stepStatus)

include h

/-- A job after the operation is one that was not selected, or a selected one with the status. -/
theorem Assigns.mem_jobs {job' : ResearchJob} (hjob' : job' ∈ store'.jobs.rows) :
    ∃ job ∈ store.jobs.rows, job.id = job'.id ∧
      (p job = true ∧ job'.status = jobStatus ∨ p job = false ∧ job' = job) := by
  obtain ⟨f, hf, hrows⟩ := h.jobs
  rw [hrows] at hjob'
  obtain ⟨job, hjob, rfl⟩ := mem_map.mp hjob'
  refine ⟨job, hjob, ?_⟩
  cases hselected : p job with
  | true => exact ⟨by simp [(hf job).1], .inl ⟨rfl, (hf job).2⟩⟩
  | false => exact ⟨rfl, .inr ⟨rfl, rfl⟩⟩

/-- A step after the operation is one that was not selected, or a selected one with the status. -/
theorem Assigns.mem_steps {step' : ResearchJobStep} (hstep' : step' ∈ store'.steps.rows) :
    ∃ step ∈ store.steps.rows, step.id = step'.id ∧ step.place = step'.place ∧
      (q step = true ∧ step'.status = stepStatus ∧
          (stepStatus.progress = .active → ∃ worker, step'.leaseOwner = some worker) ∨
        q step = false ∧ step' = step) := by
  obtain ⟨g, hg, hrows⟩ := h.steps
  rw [hrows] at hstep'
  obtain ⟨step, hstep, rfl⟩ := mem_map.mp hstep'
  refine ⟨step, hstep, ?_⟩
  obtain ⟨hid, hplace, hstatus, howner⟩ := hg step
  cases hselected : q step with
  | true => exact ⟨by simp [hid], by simp [hplace], .inl ⟨rfl, hstatus, howner⟩⟩
  | false => exact ⟨rfl, rfl, .inr ⟨rfl, rfl⟩⟩

theorem Assigns.exists_job {job : ResearchJob} (hjob : job ∈ store.jobs.rows) :
    ∃ job' ∈ store'.jobs.rows, job'.id = job.id ∧
      (p job = true ∧ job'.status = jobStatus ∨ p job = false ∧ job' = job) := by
  obtain ⟨f, hf, hrows⟩ := h.jobs
  refine ⟨if p job then f job else job, hrows ▸ mem_map_of_mem hjob, ?_⟩
  cases hselected : p job with
  | true => exact ⟨(hf job).1, .inl ⟨rfl, (hf job).2⟩⟩
  | false => exact ⟨rfl, .inr ⟨rfl, rfl⟩⟩

theorem Assigns.mem_of_not_selected (hstep : step ∈ store.steps.rows) (hnot : q step = false) :
    step ∈ store'.steps.rows := by
  obtain ⟨g, -, hrows⟩ := h.steps
  rw [hrows]
  exact mem_map.mpr ⟨step, hstep, by simp [hnot]⟩

end Assigned

variable {f : ResearchJob → ResearchJob} {g : ResearchJobStep → ResearchJobStep}
variable {hf : ∀ job, (f job).id = job.id} {hg : ∀ step, (g step).id = step.id}
variable {jobId stepId : String} {now : ℕ} {scan : String → ℕ}

theorem assigns_update (hjob : ∀ job, (f job).status = jobStatus)
    (hplace : ∀ step, (g step).place = step.place) (hstep : ∀ step, (g step).status = stepStatus)
    (howner : stepStatus.progress = .active → ∀ step, ∃ worker, (g step).leaseOwner = some worker) :
    store.Assigns ((store.updateResearchJobs p f hf).updateResearchSteps q g hg) p jobStatus q
      stepStatus where
  jobs := ⟨f, fun job => ⟨hf job, hjob job⟩, rfl⟩
  steps := ⟨g, fun step =>
    ⟨hg step, hplace step, hstep step, fun hactive => howner hactive step⟩, rfl⟩

theorem assigns_wait (hwait : stepStatus.progress = .waiting)
    (hjob : ∀ job, (f job).status = jobStatus) (hplace : ∀ step, (g step).place = step.place)
    (hstep : ∀ step, (g step).status = stepStatus) :
    store.Assigns ((store.updateResearchJobs p f hf).updateResearchSteps q g hg) p jobStatus q
      stepStatus :=
  assigns_update hjob hplace hstep fun hactive => by
    rw [hwait] at hactive
    cases hactive

theorem sqlInteger_eq_ok {value stored : ℕ} (h : sqlInteger value = .ok stored) :
    stored = value := by
  exact (Except.ok.inj (require_eq_ok_iff.mp h).2).symm

theorem update_comm :
    (store.updateResearchSteps q g hg).updateResearchJobs p f hf =
      (store.updateResearchJobs p f hf).updateResearchSteps q g hg :=
  rfl

theorem mem_of_any (h : (store.jobs.rows.any fun job => job.id = jobId && p job) = true) :
    ∃ job ∈ store.jobs.rows, job.id = jobId ∧ p job = true := by
  rcases any_eq_true.mp h with ⟨job, hjob, hselected⟩
  simp only [Bool.and_eq_true, decide_eq_true_eq] at hselected
  exact ⟨job, hjob, hselected⟩

section Jobs

variable {reply : ResearchJob}

theorem pauseResearchJob_eq_ok (h : store.pauseResearchJob id now = .ok (reply, store')) :
    ∃ existing ∈ store.jobs.rows, existing.id = id ∧
      (existing.status = .paused ∧ store' = store ∨
        existing.status ∈ [queued, .running, .retryable] ∧
          store.Assigns store' (fun job => job.id = id) .paused
            (fun step => step.jobId = id && step.status ∈ [.queued, .retryable, .leased])
            .paused) := by
  rcases ok_of_bind h with ⟨existing, hexisting, h⟩
  rcases queryResearchJob_eq_ok hexisting with ⟨hmem, hid⟩
  refine ⟨existing, hmem, hid, ?_⟩
  by_cases hpaused : existing.status = .paused
  · rw [if_pos hpaused] at h
    cases h
    exact .inl ⟨hpaused, rfl⟩
  · rw [if_neg hpaused] at h
    rcases ok_of_refuse h with ⟨haccepted, h⟩
    rcases ok_of_bind h with ⟨time, -, h⟩
    rw [commit_eq_ok h]
    exact .inr ⟨not_not.mp haccepted, assigns_wait rfl (fun _ => rfl) (fun _ => rfl) fun _ => rfl⟩

theorem retryResearchJob_eq_ok (h : store.retryResearchJob id now = .ok (reply, store')) :
    (∃ job ∈ store.jobs.rows, job.id = id ∧
      job.status ∈ [failed, .blocked, .retryable, .cancelled]) ∧
      store.Assigns store'
        (fun job => job.id = id && job.status ∈ [.failed, .blocked, .retryable, .cancelled]) .queued
        (fun step =>
          step.jobId = id && step.status ∈ [.failed, .blocked, .retryable, .cancelled])
        .queued := by
  rcases ok_of_bind h with ⟨time, -, h⟩
  dsimp only at h
  split at h
  · rename_i hany
    rw [commit_eq_ok h]
    rcases mem_of_any hany with ⟨job, hjob, hid, hselected⟩
    exact ⟨⟨job, hjob, hid, of_decide_eq_true hselected⟩,
      assigns_wait rfl (fun _ => rfl) (fun _ => rfl) fun _ => rfl⟩
  · rcases ok_of_bind h with ⟨current, -, h⟩
    cases h

theorem resumeResearchJob_eq_ok (h : store.resumeResearchJob id now = .ok (reply, store')) :
    store.retryResearchJob id now = .ok (reply, store') ∨
      (∃ job ∈ store.jobs.rows, job.id = id ∧ job.status = .paused) ∧
        store.Assigns store' (fun job => job.id = id) .queued
          (fun step => step.jobId = id && step.status = .paused) .queued := by
  rcases ok_of_bind h with ⟨existing, hexisting, h⟩
  rcases queryResearchJob_eq_ok hexisting with ⟨hmem, hid⟩
  by_cases hpaused : existing.status = .paused
  · rw [if_neg (not_not.mpr hpaused)] at h
    rcases ok_of_bind h with ⟨time, -, h⟩
    rw [commit_eq_ok h]
    exact .inr ⟨⟨existing, hmem, hid, hpaused⟩,
      assigns_wait rfl (fun _ => rfl) (fun _ => rfl) fun _ => rfl⟩
  · rw [if_pos hpaused] at h
    exact .inl h

theorem cancelResearchJob_eq_ok (h : store.cancelResearchJob id now = .ok (reply, store')) :
    (∃ job ∈ store.jobs.rows, job.id = id ∧
      job.status ∉ [completed, .cancelled]) ∧
      store.Assigns store' (fun job => job.id = id && job.status ∉ [.completed, .cancelled])
        .cancelled (fun step => step.jobId = id && step.status ∉ [.completed, .cancelled])
        .cancelled := by
  rcases ok_of_bind h with ⟨time, -, h⟩
  dsimp only at h
  split at h
  · rename_i hany
    rw [commit_eq_ok h]
    rcases mem_of_any hany with ⟨job, hjob, hid, hselected⟩
    exact ⟨⟨job, hjob, hid, of_decide_eq_true hselected⟩,
      assigns_wait rfl (fun _ => rfl) (fun _ => rfl) fun _ => rfl⟩
  · rcases ok_of_bind h with ⟨current, -, h⟩
    cases h

theorem deleteResearchJob_eq_ok (h : store.deleteResearchJob id = .ok (reply, store')) :
    reply ∈ store.jobs.rows ∧ reply.id = id ∧
      reply.status ∉ [queued, .running] ∧
        store' = { store with
          jobs := store.jobs.delete fun job => job.id = id
          steps := store.steps.delete fun step => step.jobId = id } := by
  rcases ok_of_bind h with ⟨job, hjob, h⟩
  rcases ok_of_refuse h with ⟨hstatus, h⟩
  rcases ok_of_refuse h with ⟨-, h⟩
  cases h
  exact ⟨(queryResearchJob_eq_ok hjob).1, (queryResearchJob_eq_ok hjob).2, hstatus, rfl⟩

end Jobs

/-! ## The operations of workers -/

variable {reply : ResearchJobStep}

theorem leaseCandidate_spec {candidate : ResearchJobStep} {owner : ResearchJob}
    (h : store.leaseCandidate scan now = some (candidate, owner)) :
    candidate ∈ store.steps.rows ∧ owner ∈ store.jobs.rows ∧ owner.id = candidate.jobId ∧
      owner.status ∈ [queued, .running, .retryable] ∧
        candidate.status ≠ .completed ∧ store.earlierCompleted candidate = true := by
  have hsorted := mem_of_head? h
  rcases mem_filter.mp ((mem_insertionSort _).mp hsorted) with ⟨hjoined, hleasable⟩
  rcases mem_filterMap.mp hjoined with ⟨step, hstep, hpair⟩
  rcases Option.map_eq_some_iff.mp hpair with ⟨job, hjob, heq⟩
  rcases Prod.mk.inj heq with ⟨rfl, rfl⟩
  rcases KeyedTable.find?_eq_some_iff.mp hjob with ⟨hmem, hid⟩
  unfold leasable at hleasable
  simp only [Bool.and_eq_true] at hleasable
  refine ⟨hstep, hmem, hid, of_decide_eq_true hleasable.1.1, fun hcompleted => ?_, hleasable.2⟩
  simp [hcompleted] at hleasable

theorem leaseNextResearchStepAt_eq_ok {reply : Option ResearchStepLease}
    (h : store.leaseNextResearchStepAt scan workerId now leaseDurationMs = .ok (reply, store')) :
    store' = store ∨ ∃ candidate owner, store.leaseCandidate scan now = some (candidate, owner) ∧
      (store.Assigns store' (fun job => job.id = owner.id) .failed
          (fun step => step.id = candidate.id) .failed ∨
        store.Assigns store'
          (fun job => job.id = owner.id && job.status ∈ [.queued, .retryable]) .running
          (fun step => step.id = candidate.id) .leased) := by
  rcases ok_of_refuse h with ⟨-, h⟩
  rcases ok_of_refuse h with ⟨-, h⟩
  rcases ok_of_bind h with ⟨time, htime, h⟩
  rw [sqlInteger_eq_ok htime] at h
  split at h
  · cases h
    exact .inl rfl
  rename_i candidate owner hcandidate
  refine .inr ⟨candidate, owner, hcandidate, ?_⟩
  split at h
  · cases h
    rw [update_comm]
    exact .inl (assigns_wait rfl (fun _ => rfl) (fun _ => rfl) fun _ => rfl)
  · rcases ok_of_bind h with ⟨leasedUntil, -, h⟩
    rw [commit_eq_ok h, update_comm]
    exact .inr (assigns_update (fun _ => rfl) (fun _ => rfl) (fun _ => rfl) fun _ _ => ⟨_, rfl⟩)

/-- The steps that a worker holds stay active, with their owner, and nothing else changes. -/
structure Holds (store store' : ResearchStore) (stepId workerId : String) : Prop where
  jobs : store'.jobs = store.jobs
  steps : ∃ g : ResearchJobStep → ResearchJobStep,
    (∀ step, (g step).id = step.id ∧ (g step).place = step.place ∧
      (g step).leaseOwner = step.leaseOwner ∧ (step.IsActive → (g step).IsActive)) ∧
      store'.steps.rows = store.steps.rows.map fun step =>
        if (step.id = stepId && step.HeldBy workerId : Bool) then g step else step

theorem holds_update (hplace : ∀ step, (g step).place = step.place)
    (howner : ∀ step, (g step).leaseOwner = step.leaseOwner)
    (hactive : ∀ step, step.IsActive → (g step).IsActive) :
    store.Holds (store.updateResearchSteps
      (fun step => step.id = stepId && step.HeldBy workerId) g hg) stepId workerId where
  jobs := rfl
  steps := ⟨g, fun step => ⟨hg step, hplace step, howner step, hactive step⟩, rfl⟩

theorem markResearchStepRunningAt_eq_ok
    (h : store.markResearchStepRunningAt stepId workerId now = .ok (reply, store')) :
    store.Holds store' stepId workerId := by
  rcases ok_of_bind h with ⟨time, -, h⟩
  dsimp only at h
  split at h
  · rw [commit_eq_ok h]
    exact holds_update (fun _ => rfl) (fun _ => rfl) fun _ _ => .inr rfl
  · rcases ok_of_bind h with ⟨_, -, h⟩
    cases h

theorem refreshResearchStepLeaseAt_eq_ok
    (h : store.refreshResearchStepLeaseAt stepId workerId now leaseDurationMs =
      .ok (reply, store')) : store.Holds store' stepId workerId := by
  rcases ok_of_refuse h with ⟨-, h⟩
  rcases ok_of_bind h with ⟨leasedUntil, -, h⟩
  rcases ok_of_bind h with ⟨time, -, h⟩
  dsimp only at h
  split at h
  · rw [commit_eq_ok h]
    exact holds_update (fun _ => rfl) (fun _ => rfl) fun _ hactive => hactive
  · rcases ok_of_bind h with ⟨_, -, h⟩
    cases h

section Existing

variable {α : Type} {reply : α} {rest : ResearchJobStep → Except DashboardError α}

/-- A worker reports a step that it holds. -/
theorem existing_of_held (h : (do
      let existing ← store.queryResearchStep stepId
      ensureStepHeld existing workerId
      rest existing) = .ok reply) :
    ∃ existing ∈ store.steps.rows, existing.id = stepId ∧ existing.HeldBy workerId ∧
      rest existing = .ok reply := by
  rcases ok_of_bind h with ⟨existing, hexisting, h⟩
  rcases ok_of_bind h with ⟨_, hheld, h⟩
  rcases queryResearchStep_eq_ok hexisting with ⟨hmem, hid⟩
  exact ⟨existing, hmem, hid, (require_eq_ok_iff.mp hheld).1, h⟩

/-- An operator decides about a step of the job. -/
theorem existing_of_owned (h : (do
      let existing ← store.queryResearchStep stepId
      ensureStepBelongsToJob existing jobId
      rest existing) = .ok reply) :
    ∃ existing ∈ store.steps.rows, existing.id = stepId ∧ existing.jobId = jobId ∧
      rest existing = .ok reply := by
  rcases ok_of_bind h with ⟨existing, hexisting, h⟩
  rcases ok_of_bind h with ⟨_, howner, h⟩
  rcases queryResearchStep_eq_ok hexisting with ⟨hmem, hid⟩
  exact ⟨existing, hmem, hid, (require_eq_ok_iff.mp howner).1, h⟩

end Existing

theorem giveUpStep_assigns {existing : ResearchJobStep} (hwait : stepStatus.progress = .waiting) :
    store.Assigns (store.giveUpStep existing workerId stepStatus jobStatus error now)
      (fun job => job.id = existing.jobId) jobStatus
      (fun step => step.id = existing.id && step.leaseOwner = some workerId) stepStatus := by
  unfold giveUpStep
  rw [update_comm]
  exact assigns_wait hwait (fun _ => rfl) (fun _ => rfl) fun _ => rfl

theorem failResearchStepAt_eq_ok {retryable : Bool}
    (h : store.failResearchStepAt stepId workerId error retryable now = .ok (reply, store')) :
    ∃ existing ∈ store.steps.rows, existing.id = stepId ∧ existing.HeldBy workerId ∧
      store.Assigns store' (fun job => job.id = existing.jobId)
        (if retryable then .retryable else .failed)
        (fun step => step.id = existing.id && step.leaseOwner = some workerId)
        (if retryable then .retryable else .failed) := by
  rcases ok_of_refuse h with ⟨-, h⟩
  rcases existing_of_held h with ⟨existing, hmem, hid, hheld, h⟩
  rcases ok_of_bind h with ⟨time, -, h⟩
  rw [commit_eq_ok h]
  refine ⟨existing, hmem, hid, hheld, giveUpStep_assigns ?_⟩
  cases retryable <;> rfl

theorem blockResearchStepAt_eq_ok {reason : String}
    (h : store.blockResearchStepAt stepId workerId reason now = .ok (reply, store')) :
    ∃ existing ∈ store.steps.rows, existing.id = stepId ∧ existing.HeldBy workerId ∧
      store.Assigns store' (fun job => job.id = existing.jobId) .blocked
        (fun step => step.id = existing.id && step.leaseOwner = some workerId) .blocked := by
  rcases ok_of_refuse h with ⟨-, h⟩
  rcases existing_of_held h with ⟨existing, hmem, hid, hheld, h⟩
  rcases ok_of_bind h with ⟨time, -, h⟩
  rw [commit_eq_ok h]
  exact ⟨existing, hmem, hid, hheld, giveUpStep_assigns rfl⟩

/-- An operator gives one step of a job a status, and the job another one. -/
structure Decides (store store' : ResearchStore) (jobId stepId : String)
    (jobStatus : ResearchJobStatus) (stepStatus : ResearchStepStatus)
    (accepted : ResearchJobStep → Prop) : Prop where
  existing : ∃ step ∈ store.steps.rows, step.id = stepId ∧ step.jobId = jobId ∧ accepted step
  assigns : store.Assigns store' (fun job => job.id = jobId) jobStatus
    (fun step => step.id = stepId && step.jobId = jobId) stepStatus

theorem retryResearchStep_eq_ok
    (h : store.retryResearchStep jobId stepId now = .ok (reply, store')) :
    store.Decides store' jobId stepId .queued .queued fun step =>
      step.status ∈ [ResearchStepStatus.failed, .blocked, .retryable, .cancelled, .paused] := by
  rcases existing_of_owned h with ⟨existing, hmem, hid, howner, h⟩
  rcases ok_of_refuse h with ⟨hstatus, h⟩
  rcases ok_of_bind h with ⟨time, -, h⟩
  rw [commit_eq_ok h, update_comm]
  exact ⟨⟨existing, hmem, hid, howner, not_not.mp hstatus⟩,
    assigns_wait rfl (fun _ => rfl) (fun _ => rfl) fun _ => rfl⟩

theorem cancelResearchStep_eq_ok
    (h : store.cancelResearchStep jobId stepId now = .ok (reply, store')) :
    store.Decides store' jobId stepId .cancelled .cancelled fun step =>
      step.status ∉ [ResearchStepStatus.completed, .cancelled] := by
  rcases existing_of_owned h with ⟨existing, hmem, hid, howner, h⟩
  rcases ok_of_refuse h with ⟨hstatus, h⟩
  rcases ok_of_bind h with ⟨time, -, h⟩
  rw [commit_eq_ok h, update_comm]
  exact ⟨⟨existing, hmem, hid, howner, hstatus⟩,
    assigns_wait rfl (fun _ => rfl) (fun _ => rfl) fun _ => rfl⟩

theorem clearStaleResearchStepLeaseAt_eq_ok
    (h : store.clearStaleResearchStepLeaseAt jobId stepId now = .ok (reply, store')) :
    store.Decides store' jobId stepId .retryable .retryable ResearchJobStep.IsActive := by
  rcases existing_of_owned h with ⟨existing, hmem, hid, howner, h⟩
  rcases ok_of_refuse h with ⟨hactive, h⟩
  split at h
  · cases h
  rcases ok_of_refuse h with ⟨-, h⟩
  rcases ok_of_bind h with ⟨time, -, h⟩
  rw [commit_eq_ok h, update_comm]
  exact ⟨⟨existing, hmem, hid, howner, not_not.mp hactive⟩,
    assigns_wait rfl (fun _ => rfl) (fun _ => rfl) fun _ => rfl⟩

theorem resolveResearchStepBlocker_eq_ok
    (h : store.resolveResearchStepBlocker jobId stepId now = .ok (reply, store')) :
    store.Decides store' jobId stepId .queued .queued fun step => step.status = .blocked := by
  rcases existing_of_owned h with ⟨existing, hmem, hid, howner, h⟩
  rcases ok_of_refuse h with ⟨hstatus, h⟩
  rcases ok_of_bind h with ⟨time, -, h⟩
  rw [commit_eq_ok h, update_comm]
  exact ⟨⟨existing, hmem, hid, howner, not_not.mp hstatus⟩,
    assigns_wait rfl (fun _ => rfl) (fun _ => rfl) fun _ => rfl⟩

/-- The jobs keep their ids and statuses, and the steps stay as they are. -/
structure Relabels (store store' : ResearchStore) : Prop where
  jobs : ∃ f : ResearchJob → ResearchJob,
    (∀ job, (f job).id = job.id ∧ (f job).status = job.status) ∧
      store'.jobs.rows = store.jobs.rows.map f
  steps : store'.steps = store.steps

theorem relabels_update (hstatus : ∀ job, (f job).status = job.status) :
    store.Relabels (store.updateResearchJobs p f hf) := by
  refine ⟨⟨fun job => if p job then f job else job, fun job => ?_, rfl⟩, rfl⟩
  by_cases hp : p job = true
  · simp [hp, hf, hstatus]
  · simp [hp]

theorem updateQueuedResearchJob_eq_ok {artifactId : NullableUpdate String} {priority : Option ℤ}
    {paramsJson : NullableUpdate String} {reply : ResearchJob}
    (h : store.updateQueuedResearchJob id artifactId priority paramsJson now =
      .ok (reply, store')) : store.Relabels store' := by
  rcases ok_of_bind h with ⟨existing, -, h⟩
  rcases ok_of_refuse h with ⟨-, h⟩
  rcases ok_of_refuse h with ⟨-, h⟩
  rcases ok_of_refuse h with ⟨-, h⟩
  rcases ok_of_refuse h with ⟨-, h⟩
  rcases ok_of_bind h with ⟨_, -, h⟩
  rcases ok_of_bind h with ⟨_, -, h⟩
  rcases ok_of_bind h with ⟨time, -, h⟩
  rw [commit_eq_ok h]
  exact relabels_update fun _ => rfl

theorem attachResearchJobArtifact_eq_ok {artifactId : String} {reply : ResearchJob}
    (h : store.attachResearchJobArtifact jobId artifactId now = .ok (reply, store')) :
    store.Relabels store' := by
  rcases ok_of_bind h with ⟨_, -, h⟩
  rcases ok_of_bind h with ⟨time, -, h⟩
  rcases ok_of_bind h with ⟨_, -, h⟩
  rw [commit_eq_ok h]
  exact relabels_update fun _ => rfl

end ResearchStore

end BubaPaint
