import BubaPaint.Dashboard.ResearchPipeline

/-!
# The decisions of operators

An operator who pauses or cancels a job wants it to rest, whatever its workers still report. The
reports do no harm as long as no step of a job that rests is leased or running: an operator must not
pause a job with a running step, nor cancel a step beside an active one.

Main results:

- Theorem `operator_decisions_stick`: in careful runs what operators decided sticks, and care is
  needed.
-/

namespace BubaPaint

open Effects KeyedTable List

def ResearchAction.isReport : ResearchAction → Bool
  | .markResearchStepRunningAt .. | .refreshResearchStepLeaseAt .. | .completeResearchStepAt ..
  | .failResearchStepAt .. | .blockResearchStepAt .. => true
  | _ => false

/-- An operator returns the job to the queue, or creates it. -/
def ResearchAction.Reopens (id : String) : ResearchAction → Prop
  | .resumeResearchJob jobId _ | .retryResearchJob jobId _ | .retryResearchStep jobId _ _
  | .resolveResearchStepBlocker jobId _ _ | .createResearchJob _ _ _ _ _ _ jobId _ => jobId = id
  | _ => False

def ResearchJob.Rests (job : ResearchJob) : Prop :=
  job.status = .paused ∨ job.status = .cancelled

def ResearchJob.IsOpen (job : ResearchJob) : Prop :=
  job.status = .queued ∨ job.status = .running

theorem ResearchJob.Rests.not_open {job : ResearchJob} (h : job.Rests) : ¬ job.IsOpen := by
  unfold ResearchJob.IsOpen
  rcases h with hstatus | hstatus <;> simp [hstatus]

namespace ResearchStore

variable {store store' : ResearchStore}

/-- At some time a worker would get a step of the job. -/
def Leasable (store : ResearchStore) (jobId : String) : Prop :=
  ∃ now, ∃ row ∈ store.joined, row.2.id = jobId ∧ store.leasable now row = true

/-- No report makes a paused or cancelled job leasable or gives it a status other than the one it
has or completed, and no job is deleted while one of its steps is leased or running. -/
structure DecisionsStick (store : ResearchStore) : Prop where
  reports : ∀ job ∈ store.jobs.rows, job.Rests → ∀ action, action.isReport = true →
    (∃ job' ∈ (store.apply action).jobs.rows, job'.id = job.id ∧
      (job'.status = job.status ∨ job'.status = .completed)) ∧
      ¬ (store.apply action).Leasable job.id
  deletions : ∀ job ∈ store.jobs.rows,
    (∃ step ∈ store.steps.rows, step.jobId = job.id ∧ step.IsActive) →
      job ∈ (store.apply (.deleteResearchJob job.id)).jobs.rows

/-- The job with the id, if there is one, is paused or cancelled. -/
def AtRest (store : ResearchStore) (id : String) : Prop :=
  ∀ job ∈ store.jobs.rows, job.id = id → job.Rests

/-- A job with an active step is queued or running. -/
def Attended (store : ResearchStore) : Prop :=
  ∀ step ∈ store.steps.rows, step.IsActive → ∀ job ∈ store.jobs.rows, job.id = step.jobId →
    job.IsOpen

/-- An active step has an owner. -/
def Owned (store : ResearchStore) : Prop :=
  ∀ step ∈ store.steps.rows, step.IsActive → ∃ worker, step.leaseOwner = some worker

/-- No job with a running step is paused, and no step is cancelled beside an active one of its
job. -/
def Careful (store : ResearchStore) : ResearchAction → Prop
  | .pauseResearchJob id _ =>
    ∀ step ∈ store.steps.rows, step.jobId = id → step.status ≠ .running
  | .cancelResearchStep jobId stepId _ =>
    ∀ step ∈ store.steps.rows, step.jobId = jobId → step.id ≠ stepId → ¬ step.IsActive
  | _ => True

instance (store : ResearchStore) (action : ResearchAction) : Decidable (store.Careful action) := by
  cases action <;> (unfold Careful; infer_instance)

/-! ## One active step -/

variable {step reply : ResearchJobStep} {jobStatus : ResearchJobStatus}
variable {stepStatus : ResearchStepStatus} {stepId workerId id : String} {now : ℕ}
variable {outputJson : Option String} {job : ResearchJob} {action : ResearchAction}

theorem Sound.eq_of_earlierCompleted (hsound : store.Sound) {candidate : ResearchJobStep}
    (hstep : step ∈ store.steps.rows) (hcandidate : candidate ∈ store.steps.rows)
    (hjob : step.jobId = candidate.jobId) (hactive : step.IsActive)
    (hopen : candidate.status ≠ .completed) (hearlier : store.earlierCompleted candidate = true) :
    step = candidate := by
  rcases lt_trichotomy step.stepIndex candidate.stepIndex with hless | heq | hgreater
  · have hbefore := hjob ▸ pipeline_of_mem hsound.unique hstep
    have hdone := reached_of_earlierCompleted hearlier step.stepIndex hless _ hbefore
    exact absurd (ResearchJobStep.progress_eq_done_iff.mp hdone) hactive.not_completed
  · exact inj_on_of_nodup_map hsound.unique hstep hcandidate (Prod.ext hjob heq)
  · exact absurd (hsound.stepsInOrder.ordered step hstep hactive candidate hcandidate hjob.symm
      hgreater) hopen

section Attended

variable (h : store.Attended)

include h

theorem Attended.assigns {p : ResearchJob → Bool} {q : ResearchJobStep → Bool}
    (hassigns : store.Assigns store' p jobStatus q stepStatus)
    (hquiet : (jobStatus = .queued ∨ jobStatus = .running) ∨
      ∀ job ∈ store.jobs.rows, p job = true → ∀ step ∈ store.steps.rows, step.jobId = job.id →
        step.IsActive → q step = true ∧ stepStatus.progress = .waiting)
    (hstart : stepStatus.progress = .waiting ∨ jobStatus = .running ∧
      ∀ step ∈ store.steps.rows, q step = true → ∀ job ∈ store.jobs.rows, job.id = step.jobId →
        p job = true ∨ job.IsOpen) : store'.Attended := by
  intro step' hstep' hactive' job' hjob' howner'
  rcases hassigns.mem_steps hstep' with ⟨step, hstep, -, hplace, hstepCase⟩
  rcases hassigns.mem_jobs hjob' with ⟨job, hjob, hid, hjobCase⟩
  have howner : job.id = step.jobId := by
    rw [hid, howner']
    exact (congrArg Prod.fst hplace).symm
  have hprogress := ResearchJobStep.progress_eq_active_iff.mpr hactive'
  rcases hjobCase with ⟨hp, hstatus⟩ | ⟨hp, rfl⟩
  · -- The job gets a new status, which is open or leaves no step of it active.
    unfold ResearchJob.IsOpen
    rw [hstatus]
    rcases hquiet with hopen | hquiet
    · exact hopen
    · rcases hstepCase with ⟨-, hnew, -⟩ | ⟨hq, rfl⟩
      · rcases hstart with hwait | ⟨hrunning, -⟩
        · rw [hnew, hwait] at hprogress
          cases hprogress
        · exact .inr hrunning
      · rw [(hquiet job hjob hp step' hstep howner.symm hactive').1] at hq
        cases hq
  · rcases hstepCase with ⟨hq, hnew, -⟩ | ⟨-, rfl⟩
    · rcases hstart with hwait | ⟨-, hopen⟩
      · rw [hnew, hwait] at hprogress
        cases hprogress
      · rcases hopen step hstep hq job' hjob howner with hp' | hopen
        · rw [hp'] at hp
          cases hp
        · exact hopen
    · exact h step' hstep hactive' job' hjob howner

theorem Attended.decides {jobId : String} {accepted : ResearchJobStep → Prop}
    (hdecides : store.Decides store' jobId stepId jobStatus stepStatus accepted)
    (hquiet : (jobStatus = .queued ∨ jobStatus = .running) ∨
      ∀ step ∈ store.steps.rows, step.jobId = jobId → step.id ≠ stepId → ¬ step.IsActive)
    (hwait : stepStatus.progress = .waiting) : store'.Attended := by
  refine h.assigns hdecides.assigns (hquiet.imp_right fun hothers => ?_) (.inl hwait)
  intro job _ hp step hstep howner hactive
  have hjob : step.jobId = jobId := howner.trans (of_decide_eq_true hp)
  by_cases hid : step.id = stepId
  · exact ⟨by simp [hid, hjob], hwait⟩
  · exact absurd hactive (hothers step hstep hjob hid)

theorem Attended.giveUp (hsound : store.Sound) {existing : ResearchJobStep}
    (hmem : existing ∈ store.steps.rows) (hheld : existing.HeldBy workerId)
    (hassigns : store.Assigns store' (fun job => job.id = existing.jobId) jobStatus
      (fun step => step.id = existing.id && step.leaseOwner = some workerId) stepStatus)
    (hwait : stepStatus.progress = .waiting) : store'.Attended := by
  refine h.assigns hassigns (.inr fun job _ hp step hstep howner hactive => ?_) (.inl hwait)
  have hjob : step.jobId = existing.jobId := howner.trans (of_decide_eq_true hp)
  rw [hsound.stepsInOrder.single step hstep existing hmem hjob hactive hheld.2]
  exact ⟨by simp [hheld.1], hwait⟩

theorem Attended.lease (hsound : store.Sound) {scan : String → ℕ} {leaseDurationMs : ℕ}
    {reply : Option ResearchStepLease}
    (hlease : store.leaseNextResearchStepAt scan workerId now leaseDurationMs =
      .ok (reply, store')) : store'.Attended := by
  rcases leaseNextResearchStepAt_eq_ok hlease with rfl | ⟨candidate, owner, hcandidate, hassigns⟩
  · exact h
  rcases leaseCandidate_spec hcandidate with ⟨hmem, howner, hid, hstatus, hopen, hearlier⟩
  rcases hassigns with hpoisoned | hleased
  · -- Only the candidate can be active, and it fails with its job.
    refine h.assigns hpoisoned (.inr fun job _ hp step hstep hjob hactive => ?_) (.inl rfl)
    have hsame : step.jobId = candidate.jobId := by
      rw [hjob, of_decide_eq_true hp, hid]
    rw [hsound.eq_of_earlierCompleted hstep hmem hsame hactive hopen hearlier]
    exact ⟨by simp, rfl⟩
  · refine h.assigns hleased (.inl (.inr rfl)) (.inr ⟨rfl, fun step hstep hq job hjob hjobId => ?_⟩)
    have hcand : step = candidate := eq_of_key hstep hmem (of_decide_eq_true hq)
    have hjobOwner : job = owner := by
      refine eq_of_key hjob howner ?_
      rw [hjobId, hcand, hid]
    subst hjobOwner
    by_cases hrunning : job.status = .running
    · exact .inr (.inr hrunning)
    · left
      simpa [hrunning] using hstatus

theorem Attended.holds (hholds : store.Holds store' stepId workerId) : store'.Attended := by
  rcases hholds.steps with ⟨g, hg, hrows⟩
  intro step' hstep' hactive job hjob howner
  rw [hholds.jobs] at hjob
  rw [hrows] at hstep'
  rcases mem_map.mp hstep' with ⟨step, hstep, rfl⟩
  by_cases hselected : (step.id = stepId && step.HeldBy workerId : Bool) = true
  · rw [if_pos hselected] at howner
    simp only [Bool.and_eq_true, decide_eq_true_eq] at hselected
    refine h step hstep hselected.2.2 job hjob (howner.trans ?_)
    exact congrArg Prod.fst (hg step).2.1
  · rw [if_neg hselected] at howner hactive
    exact h step hstep hactive job hjob howner

theorem Attended.complete (hcomplete : store.completeResearchStepAt stepId workerId outputJson now =
      .ok (reply, store')) : store'.Attended := by
  rcases completeResearchStepAt_eq_ok hcomplete with rfl | ⟨existing, -, -, -, hsteps, hjobs⟩
  · exact h
  intro step' hstep' hactive job' hjob' howner
  rw [hsteps] at hstep'
  rw [hjobs] at hjob'
  rcases mem_map.mp hstep' with ⟨step, hstep, rfl⟩
  rcases mem_map.mp hjob' with ⟨job, hjob, rfl⟩
  rw [jobId_completeStep] at howner
  -- The step is still active, so it is not the completed one, and the job is not finished.
  have hkept : completeStep stepId workerId outputJson now step = step := by
    by_cases hselected : step.id = stepId ∧ step.leaseOwner = some workerId
    · refine absurd ?_ hactive.not_completed
      unfold completeStep
      rw [if_pos hselected]
    · exact if_neg hselected
  rw [hkept] at hactive
  by_cases hfinished : job.id = existing.jobId ∧ ∀ other ∈ store.steps.rows,
      other.jobId = existing.jobId →
        (completeStep stepId workerId outputJson now other).status = .completed
  · rw [if_pos hfinished] at howner
    have hdone := hfinished.2 step hstep (howner.symm.trans hfinished.1)
    rw [hkept] at hdone
    exact absurd hdone hactive.not_completed
  · rw [if_neg hfinished] at howner ⊢
    exact h step hstep hactive job hjob howner

theorem Attended.create (hsound : store.Sound) {steps : List ResearchJobStep}
    (hjobs : store'.jobs.rows = store.jobs.rows ++ [job])
    (hfresh : job.id ∉ store.jobs.rows.map (·.id))
    (hsteps : store'.steps.rows = store.steps.rows ++ steps)
    (hnew : ∀ step ∈ steps, step.jobId = job.id ∧ step.status = .queued) : store'.Attended := by
  intro step hstep hactive owner howner hid
  rw [hsteps] at hstep
  rw [hjobs] at howner
  rcases mem_append.mp hstep with hstep | hstep
  · rcases mem_append.mp howner with howner | howner
    · exact h step hstep hactive owner howner hid
    · rcases hsound.owned step hstep with ⟨old, hold, holdId⟩
      refine absurd (mem_map.mpr ⟨old, hold, ?_⟩) hfresh
      rw [holdId, ← hid, mem_singleton.mp howner]
  · unfold ResearchJobStep.IsActive at hactive
    simp [(hnew step hstep).2] at hactive

theorem Attended.relabels (hrelabels : store.Relabels store') : store'.Attended := by
  rcases hrelabels.jobs with ⟨f, hf, hrows⟩
  intro step hstep hactive job' hjob' howner
  rw [hrelabels.steps] at hstep
  rw [hrows] at hjob'
  rcases mem_map.mp hjob' with ⟨job, hjob, rfl⟩
  have hopen := h step hstep hactive job hjob ((hf job).1.symm.trans howner)
  unfold ResearchJob.IsOpen at hopen ⊢
  rwa [(hf job).2]

/-- Careful operations keep the store attended. -/
theorem Attended.apply (hsound : store.Sound) (hcareful : store.Careful action) :
    (store.apply action).Attended := by
  cases action with
  | createResearchJob =>
    refine after_induction h fun reply store' hok => ?_
    rcases createResearchJob_eq_ok hsound hok with
      ⟨job, steps, hjobs, hfresh, -, hsteps, -, -, hnew, -⟩
    exact h.create hsound hjobs hfresh hsteps hnew
  | updateQueuedResearchJob =>
    exact after_induction h fun _ _ hok => h.relabels (updateQueuedResearchJob_eq_ok hok)
  | attachResearchJobArtifact =>
    exact after_induction h fun _ _ hok => h.relabels (attachResearchJobArtifact_eq_ok hok)
  | pauseResearchJob id now =>
    refine after_induction h fun reply store' hok => ?_
    rcases pauseResearchJob_eq_ok hok with ⟨existing, -, -, ⟨-, rfl⟩ | ⟨-, hassigns⟩⟩
    · exact h
    · refine h.assigns hassigns (.inr fun job _ hp step hstep howner hactive => ?_) (.inl rfl)
      have hjob : step.jobId = id := howner.trans (of_decide_eq_true hp)
      -- A step that is not running is leased, and paused with the job.
      have hleased := hactive.resolve_right (hcareful step hstep hjob)
      exact ⟨by simp [hjob, hleased], rfl⟩
  | resumeResearchJob =>
    refine after_induction h fun reply store' hok => ?_
    rcases resumeResearchJob_eq_ok hok with hretry | ⟨-, hassigns⟩
    · exact h.assigns (retryResearchJob_eq_ok hretry).2 (.inl (.inl rfl)) (.inl rfl)
    · exact h.assigns hassigns (.inl (.inl rfl)) (.inl rfl)
  | deleteResearchJob =>
    refine after_induction h fun reply store' hok => ?_
    rcases deleteResearchJob_eq_ok hok with ⟨-, -, -, rfl⟩
    intro step hstep hactive job hjob
    exact h step (mem_delete.mp hstep).1 hactive job (mem_delete.mp hjob).1
  | cancelResearchJob id =>
    refine after_induction h fun reply store' hok => ?_
    rcases cancelResearchJob_eq_ok hok with ⟨-, hassigns⟩
    refine h.assigns hassigns (.inr fun job _ hp step hstep howner hactive => ?_) (.inl rfl)
    simp only [Bool.and_eq_true, decide_eq_true_eq] at hp
    refine ⟨?_, rfl⟩
    rcases hactive with hstatus | hstatus <;> simp [howner, hp.1, hstatus]
  | retryResearchJob =>
    exact after_induction h fun _ _ hok =>
      h.assigns (retryResearchJob_eq_ok hok).2 (.inl (.inl rfl)) (.inl rfl)
  | leaseNextResearchStepAt => exact after_induction h fun _ _ hok => h.lease hsound hok
  | markResearchStepRunningAt =>
    exact after_induction h fun _ _ hok => h.holds (markResearchStepRunningAt_eq_ok hok)
  | refreshResearchStepLeaseAt =>
    exact after_induction h fun _ _ hok => h.holds (refreshResearchStepLeaseAt_eq_ok hok)
  | completeResearchStepAt => exact after_induction h fun _ _ hok => h.complete hok
  | failResearchStepAt stepId workerId error retryable =>
    refine after_induction h fun reply store' hok => ?_
    rcases failResearchStepAt_eq_ok hok with ⟨existing, hmem, -, hheld, hassigns⟩
    refine h.giveUp hsound hmem hheld hassigns ?_
    cases retryable <;> rfl
  | blockResearchStepAt =>
    refine after_induction h fun reply store' hok => ?_
    rcases blockResearchStepAt_eq_ok hok with ⟨existing, hmem, -, hheld, hassigns⟩
    exact h.giveUp hsound hmem hheld hassigns rfl
  | retryResearchStep =>
    exact after_induction h fun _ _ hok =>
      h.decides (retryResearchStep_eq_ok hok) (.inl (.inl rfl)) rfl
  | cancelResearchStep =>
    exact after_induction h fun _ _ hok =>
      h.decides (cancelResearchStep_eq_ok hok) (.inr hcareful) rfl
  | clearStaleResearchStepLeaseAt jobId stepId =>
    refine after_induction h fun reply store' hok => ?_
    have hdecides := clearStaleResearchStepLeaseAt_eq_ok hok
    refine h.decides hdecides (.inr fun step hstep hjob hother hactive => ?_) rfl
    rcases hdecides.existing with ⟨existing, hmem, hid, howner, hstale⟩
    have hsame := hsound.stepsInOrder.single step hstep existing hmem (hjob.trans howner.symm)
      hactive hstale
    exact hother (hsame ▸ hid)
  | resolveResearchStepBlocker =>
    exact after_induction h fun _ _ hok =>
      h.decides (resolveResearchStepBlocker_eq_ok hok) (.inl (.inl rfl)) rfl
  | elsewhere => exact h

end Attended

/-! ## Owners -/

variable {p : ResearchJob → Bool} {q : ResearchJobStep → Bool}

theorem Owned.assigns (h : store.Owned) (hassigns : store.Assigns store' p jobStatus q stepStatus) :
    store'.Owned := by
  intro step' hstep' hactive
  rcases hassigns.mem_steps hstep' with ⟨step, hstep, -, -, ⟨-, hstatus, howner⟩ | ⟨-, rfl⟩⟩
  · refine howner ?_
    rw [← hstatus]
    exact ResearchJobStep.progress_eq_active_iff.mpr hactive
  · exact h step' hstep hactive

theorem Owned.holds (h : store.Owned) (hholds : store.Holds store' stepId workerId) :
    store'.Owned := by
  rcases hholds.steps with ⟨g, hg, hrows⟩
  intro step' hstep' hactive
  rw [hrows] at hstep'
  rcases mem_map.mp hstep' with ⟨step, hstep, rfl⟩
  by_cases hselected : (step.id = stepId && step.HeldBy workerId : Bool) = true
  · rw [if_pos hselected, (hg step).2.2.1]
    simp only [Bool.and_eq_true, decide_eq_true_eq] at hselected
    exact h step hstep hselected.2.2
  · rw [if_neg hselected] at hactive ⊢
    exact h step hstep hactive

theorem Owned.complete (h : store.Owned)
    (hcomplete : store.completeResearchStepAt stepId workerId outputJson now =
      .ok (reply, store')) : store'.Owned := by
  rcases completeResearchStepAt_eq_ok hcomplete with rfl | ⟨existing, -, -, -, hsteps, -⟩
  · exact h
  intro step' hstep' hactive
  rw [hsteps] at hstep'
  rcases mem_map.mp hstep' with ⟨step, hstep, rfl⟩
  unfold completeStep at hactive ⊢
  split at hactive
  · exact absurd rfl hactive.not_completed
  · rename_i hother
    rw [if_neg hother]
    exact h step hstep hactive

/-- Every operation leaves the active steps their owners. -/
theorem Owned.apply (h : store.Owned) (hsound : store.Sound) (action : ResearchAction) :
    (store.apply action).Owned := by
  cases action with
  | createResearchJob =>
    refine after_induction h fun reply store' hok => ?_
    rcases createResearchJob_eq_ok hsound hok with ⟨job, steps, -, -, -, hsteps, -, -, hnew, -⟩
    intro step hstep hactive
    rw [hsteps] at hstep
    rcases mem_append.mp hstep with hstep | hstep
    · exact h step hstep hactive
    · unfold ResearchJobStep.IsActive at hactive
      simp [(hnew step hstep).2] at hactive
  | updateQueuedResearchJob =>
    refine after_induction h fun reply store' hok => ?_
    unfold Owned
    rwa [(updateQueuedResearchJob_eq_ok hok).steps]
  | attachResearchJobArtifact =>
    refine after_induction h fun reply store' hok => ?_
    unfold Owned
    rwa [(attachResearchJobArtifact_eq_ok hok).steps]
  | pauseResearchJob =>
    refine after_induction h fun reply store' hok => ?_
    rcases pauseResearchJob_eq_ok hok with ⟨existing, -, -, ⟨-, rfl⟩ | ⟨-, hassigns⟩⟩
    · exact h
    · exact h.assigns hassigns
  | resumeResearchJob =>
    refine after_induction h fun reply store' hok => ?_
    rcases resumeResearchJob_eq_ok hok with hretry | ⟨-, hassigns⟩
    · exact h.assigns (retryResearchJob_eq_ok hretry).2
    · exact h.assigns hassigns
  | deleteResearchJob =>
    refine after_induction h fun reply store' hok => ?_
    rcases deleteResearchJob_eq_ok hok with ⟨-, -, -, rfl⟩
    exact fun step hstep hactive => h step (mem_delete.mp hstep).1 hactive
  | cancelResearchJob =>
    exact after_induction h fun _ _ hok => h.assigns (cancelResearchJob_eq_ok hok).2
  | retryResearchJob =>
    exact after_induction h fun _ _ hok => h.assigns (retryResearchJob_eq_ok hok).2
  | leaseNextResearchStepAt =>
    refine after_induction h fun reply store' hok => ?_
    rcases leaseNextResearchStepAt_eq_ok hok with rfl | ⟨_, _, -, hpoisoned | hleased⟩
    · exact h
    · exact h.assigns hpoisoned
    · exact h.assigns hleased
  | markResearchStepRunningAt =>
    exact after_induction h fun _ _ hok => h.holds (markResearchStepRunningAt_eq_ok hok)
  | refreshResearchStepLeaseAt =>
    exact after_induction h fun _ _ hok => h.holds (refreshResearchStepLeaseAt_eq_ok hok)
  | completeResearchStepAt => exact after_induction h fun _ _ hok => h.complete hok
  | failResearchStepAt =>
    refine after_induction h fun reply store' hok => ?_
    rcases failResearchStepAt_eq_ok hok with ⟨_, -, -, -, hassigns⟩
    exact h.assigns hassigns
  | blockResearchStepAt =>
    refine after_induction h fun reply store' hok => ?_
    rcases blockResearchStepAt_eq_ok hok with ⟨_, -, -, -, hassigns⟩
    exact h.assigns hassigns
  | retryResearchStep =>
    exact after_induction h fun _ _ hok => h.assigns (retryResearchStep_eq_ok hok).assigns
  | cancelResearchStep =>
    exact after_induction h fun _ _ hok => h.assigns (cancelResearchStep_eq_ok hok).assigns
  | clearStaleResearchStepLeaseAt =>
    exact after_induction h fun _ _ hok =>
      h.assigns (clearStaleResearchStepLeaseAt_eq_ok hok).assigns
  | resolveResearchStepBlocker =>
    exact after_induction h fun _ _ hok =>
      h.assigns (resolveResearchStepBlocker_eq_ok hok).assigns
  | elsewhere => exact h

/-! ## Jobs that rest -/

theorem mem_jobs_of_report (hreport : action.isReport = true) (hjob : job ∈ store.jobs.rows)
    (hidle : ∀ step ∈ store.steps.rows, step.jobId = job.id → ¬ step.IsActive) :
    job ∈ (store.apply action).jobs.rows := by
  have hother : ∀ existing ∈ store.steps.rows, existing.IsActive → job.id ≠ existing.jobId :=
    fun existing hmem hactive heq => hidle existing hmem heq.symm hactive
  cases action with
  | markResearchStepRunningAt =>
    refine after_induction (motive := fun later => job ∈ later.jobs.rows) hjob fun _ _ hok => ?_
    rwa [(markResearchStepRunningAt_eq_ok hok).jobs]
  | refreshResearchStepLeaseAt =>
    refine after_induction (motive := fun later => job ∈ later.jobs.rows) hjob fun _ _ hok => ?_
    rwa [(refreshResearchStepLeaseAt_eq_ok hok).jobs]
  | completeResearchStepAt =>
    refine after_induction (motive := fun later => job ∈ later.jobs.rows) hjob fun _ _ hok => ?_
    rcases completeResearchStepAt_eq_ok hok with rfl | ⟨existing, hmem, -, hheld, -, hjobs⟩
    · exact hjob
    · rw [hjobs]
      exact mem_map.mpr ⟨job, hjob, if_neg fun hboth => hother existing hmem hheld.2 hboth.1⟩
  | failResearchStepAt =>
    refine after_induction (motive := fun later => job ∈ later.jobs.rows) hjob fun _ _ hok => ?_
    rcases failResearchStepAt_eq_ok hok with ⟨existing, hmem, -, hheld, hassigns⟩
    rcases hassigns.exists_job hjob with ⟨job', hjob', -, ⟨hp, -⟩ | ⟨-, rfl⟩⟩
    · exact absurd (of_decide_eq_true hp) (hother existing hmem hheld.2)
    · exact hjob'
  | blockResearchStepAt =>
    refine after_induction (motive := fun later => job ∈ later.jobs.rows) hjob fun _ _ hok => ?_
    rcases blockResearchStepAt_eq_ok hok with ⟨existing, hmem, -, hheld, hassigns⟩
    rcases hassigns.exists_job hjob with ⟨job', hjob', -, ⟨hp, -⟩ | ⟨-, rfl⟩⟩
    · exact absurd (of_decide_eq_true hp) (hother existing hmem hheld.2)
    · exact hjob'
  | _ => cases hreport

theorem not_leasable_of_rests (hjob : job ∈ store.jobs.rows) (hrests : job.Rests) :
    ¬ store.Leasable job.id := by
  rintro ⟨now, ⟨step, owner⟩, hjoined, hid, hleasable⟩
  rcases mem_filterMap.mp hjoined with ⟨step', -, hpair⟩
  rcases Option.map_eq_some_iff.mp hpair with ⟨found, hfound, heq⟩
  rcases Prod.mk.inj heq with ⟨-, rfl⟩
  rcases KeyedTable.find?_eq_some_iff.mp hfound with ⟨hmem, -⟩
  have hsame : found = job := eq_of_key hmem hjob hid
  unfold leasable at hleasable
  rcases hrests with hstatus | hstatus <;> simp [hsame, hstatus] at hleasable

theorem Attended.decisionsStick (h : store.Attended) : store.DecisionsStick where
  reports := by
    intro job hjob hrests action hreport
    have hmem := mem_jobs_of_report hreport hjob fun step hstep howner hactive =>
      hrests.not_open (h step hstep hactive job hjob howner.symm)
    exact ⟨⟨job, hmem, rfl, .inl rfl⟩, not_leasable_of_rests hmem hrests⟩
  deletions := by
    rintro job hjob ⟨step, hstep, howner, hactive⟩
    refine after_induction (motive := fun later => job ∈ later.jobs.rows) hjob fun reply _ hok => ?_
    rcases deleteResearchJob_eq_ok hok with ⟨hmem, hid, hstatus, -⟩
    rw [eq_of_key hmem hjob hid] at hstatus
    have hopen := h step hstep hactive job hjob howner.symm
    rcases hopen with hqueued | hrunning
    · simp [hqueued] at hstatus
    · simp [hrunning] at hstatus

theorem AtRest.assigns (h : store.AtRest id)
    (hassigns : store.Assigns store' p jobStatus q stepStatus)
    (hjobs : (jobStatus = .paused ∨ jobStatus = .cancelled) ∨
      ∀ job ∈ store.jobs.rows, p job = true → job.id ≠ id) : store'.AtRest id := by
  intro job' hjob' hid
  rcases hassigns.mem_jobs hjob' with ⟨job, hjob, hsame, ⟨hp, hstatus⟩ | ⟨-, rfl⟩⟩
  · rcases hjobs with hrests | hother
    · unfold ResearchJob.Rests
      rwa [hstatus]
    · exact absurd (hsame.trans hid) (hother job hjob hp)
  · exact h job' hjob hid

theorem AtRest.ne_of_active (h : store.AtRest id) (hattended : store.Attended)
    (hstep : step ∈ store.steps.rows) (hactive : step.IsActive) :
    ∀ job ∈ store.jobs.rows, job.id = step.jobId → job.id ≠ id :=
  fun job hjob howner hid =>
    (h job hjob hid).not_open (hattended step hstep hactive job hjob howner)

theorem AtRest.after (h : store.AtRest id) {α : Type}
    {outcome : Except DashboardError (α × ResearchStore)}
    (hok : ∀ reply store', outcome = .ok (reply, store') → store'.AtRest id) :
    (store.after outcome).AtRest id :=
  after_induction (motive := (AtRest · id)) h hok

theorem AtRest.relabels (h : store.AtRest id) (hrelabels : store.Relabels store') :
    store'.AtRest id := by
  rcases hrelabels.jobs with ⟨f, hf, hrows⟩
  intro job' hjob' hid
  rw [hrows] at hjob'
  rcases mem_map.mp hjob' with ⟨job, hjob, rfl⟩
  have hrests := h job hjob ((hf job).1.symm.trans hid)
  unfold ResearchJob.Rests at hrests ⊢
  rwa [(hf job).2]

/-- In an attended store a job that rests goes on resting until an operator reopens it. -/
theorem AtRest.apply (h : store.AtRest id) (hsound : store.Sound) (hattended : store.Attended)
    (hkept : ¬ action.Reopens id) : (store.apply action).AtRest id := by
  cases action with
  | createResearchJob jobType artifactId requestedBy priority paramsJson now jobId stepIds =>
    refine h.after fun reply store' hok => ?_
    rcases createResearchJob_eq_ok hsound hok with ⟨job, steps, hjobs, -, -, -, -, -, -, hid⟩
    intro other hother hotherId
    rw [hjobs] at hother
    rcases mem_append.mp hother with hold | hnew
    · exact h other hold hotherId
    · rw [mem_singleton.mp hnew, hid] at hotherId
      exact absurd hotherId hkept
  | updateQueuedResearchJob =>
    exact h.after fun _ _ hok =>
      h.relabels (updateQueuedResearchJob_eq_ok hok)
  | attachResearchJobArtifact =>
    exact h.after fun _ _ hok =>
      h.relabels (attachResearchJobArtifact_eq_ok hok)
  | pauseResearchJob =>
    refine h.after fun reply store' hok => ?_
    rcases pauseResearchJob_eq_ok hok with ⟨_, -, -, ⟨-, rfl⟩ | ⟨-, hassigns⟩⟩
    · exact h
    · exact h.assigns hassigns (.inl (.inl rfl))
  | resumeResearchJob jobId =>
    refine h.after fun reply store' hok => ?_
    rcases resumeResearchJob_eq_ok hok with hretry | ⟨-, hassigns⟩
    · refine h.assigns (retryResearchJob_eq_ok hretry).2 (.inr fun job _ hp hid => hkept ?_)
      simp only [Bool.and_eq_true, decide_eq_true_eq] at hp
      exact hp.1.symm.trans hid
    · exact h.assigns hassigns (.inr fun job _ hp hid =>
        hkept ((of_decide_eq_true hp).symm.trans hid))
  | deleteResearchJob =>
    refine h.after fun reply store' hok => ?_
    rcases deleteResearchJob_eq_ok hok with ⟨-, -, -, rfl⟩
    exact fun job hjob hid => h job (mem_delete.mp hjob).1 hid
  | cancelResearchJob =>
    exact h.after fun _ _ hok =>
      h.assigns (cancelResearchJob_eq_ok hok).2 (.inl (.inr rfl))
  | retryResearchJob =>
    refine h.after fun reply store' hok => ?_
    refine h.assigns (retryResearchJob_eq_ok hok).2 (.inr fun job _ hp hid => hkept ?_)
    simp only [Bool.and_eq_true, decide_eq_true_eq] at hp
    exact hp.1.symm.trans hid
  | leaseNextResearchStepAt =>
    refine h.after fun reply store' hok => ?_
    rcases leaseNextResearchStepAt_eq_ok hok with rfl | ⟨candidate, owner, hcandidate, hassigns⟩
    · exact h
    rcases leaseCandidate_spec hcandidate with ⟨-, howner, -, hstatus, -, -⟩
    have hother : owner.id ≠ id := by
      intro hid
      have hrests := h owner howner hid
      rcases hrests with hrests | hrests <;> simp [hrests] at hstatus
    rcases hassigns with hpoisoned | hleased
    · exact h.assigns hpoisoned (.inr fun job _ hp => of_decide_eq_true hp ▸ hother)
    · refine h.assigns hleased (.inr fun job _ hp => ?_)
      simp only [Bool.and_eq_true, decide_eq_true_eq] at hp
      exact hp.1 ▸ hother
  | markResearchStepRunningAt =>
    refine h.after fun _ _ hok => ?_
    unfold AtRest
    rwa [(markResearchStepRunningAt_eq_ok hok).jobs]
  | refreshResearchStepLeaseAt =>
    refine h.after fun _ _ hok => ?_
    unfold AtRest
    rwa [(refreshResearchStepLeaseAt_eq_ok hok).jobs]
  | completeResearchStepAt =>
    refine h.after fun _ _ hok => ?_
    rcases completeResearchStepAt_eq_ok hok with rfl | ⟨existing, hmem, -, hheld, -, hjobs⟩
    · exact h
    intro job' hjob' hid
    rw [hjobs] at hjob'
    rcases mem_map.mp hjob' with ⟨job, hjob, rfl⟩
    split at hid
    · rename_i hfinished
      exact absurd hid (h.ne_of_active hattended hmem hheld.2 job hjob hfinished.1)
    · rename_i hopen
      rw [if_neg hopen]
      exact h job hjob hid
  | failResearchStepAt =>
    refine h.after fun _ _ hok => ?_
    rcases failResearchStepAt_eq_ok hok with ⟨existing, hmem, -, hheld, hassigns⟩
    exact h.assigns hassigns (.inr fun job hjob hp =>
      h.ne_of_active hattended hmem hheld.2 job hjob (of_decide_eq_true hp))
  | blockResearchStepAt =>
    refine h.after fun _ _ hok => ?_
    rcases blockResearchStepAt_eq_ok hok with ⟨existing, hmem, -, hheld, hassigns⟩
    exact h.assigns hassigns (.inr fun job hjob hp =>
      h.ne_of_active hattended hmem hheld.2 job hjob (of_decide_eq_true hp))
  | retryResearchStep =>
    exact h.after fun _ _ hok =>
      h.assigns (retryResearchStep_eq_ok hok).assigns (.inr fun job _ hp hid =>
        hkept ((of_decide_eq_true hp).symm.trans hid))
  | cancelResearchStep =>
    exact h.after fun _ _ hok =>
      h.assigns (cancelResearchStep_eq_ok hok).assigns (.inl (.inr rfl))
  | clearStaleResearchStepLeaseAt =>
    refine h.after fun _ _ hok => ?_
    have hdecides := clearStaleResearchStepLeaseAt_eq_ok hok
    rcases hdecides.existing with ⟨existing, hmem, -, howner, hactive⟩
    refine h.assigns hdecides.assigns (.inr fun job hjob hp => ?_)
    exact h.ne_of_active hattended hmem hactive job hjob ((of_decide_eq_true hp).trans howner.symm)
  | resolveResearchStepBlocker =>
    exact h.after fun _ _ hok =>
      h.assigns (resolveResearchStepBlocker_eq_ok hok).assigns (.inr fun job _ hp hid =>
        hkept ((of_decide_eq_true hp).symm.trans hid))
  | elsewhere => exact h

/-! ## Careless operations -/

theorem failResearchStepAt_of_held (hstep : step ∈ store.steps.rows) {worker : String}
    (hheld : step.HeldBy worker) :
    ∃ reply store',
      store.failResearchStepAt step.id worker "lost" false 0 = .ok (reply, store') := by
  have hfind : store.queryResearchStep step.id = .ok step := by
    unfold queryResearchStep
    rw [KeyedTable.find?_eq_some_iff.mpr ⟨hstep, rfl⟩]
  have hensure : ensureStepHeld step worker = .ok () := if_pos hheld
  have hcommit : ∃ reply, (store.giveUpStep step worker .failed .failed "lost" 0).queryResearchStep
      step.id = .ok reply := by
    have hassigns : store.Assigns (store.giveUpStep step worker .failed .failed "lost" 0)
        (fun job => job.id = step.jobId) .failed
        (fun other => other.id = step.id && other.leaseOwner = some worker) .failed :=
      giveUpStep_assigns rfl
    rcases hassigns.steps with ⟨g, hg, hrows⟩
    refine ⟨if (step.id = step.id && step.leaseOwner = some worker : Bool) then g step else step,
      ?_⟩
    unfold queryResearchStep
    rw [KeyedTable.find?_eq_some_iff.mpr ⟨hrows ▸ mem_map_of_mem hstep, ?_⟩]
    split
    · exact (hg step).1
    · rfl
  rcases hcommit with ⟨reply, hreply⟩
  refine ⟨reply, store.giveUpStep step worker .failed .failed "lost" 0, ?_⟩
  unfold failResearchStepAt
  rw [if_neg (by decide)]
  refine bind_eq_ok_iff.mpr ⟨step, hfind, bind_eq_ok_iff.mpr ⟨(), hensure, bind_eq_ok_iff.mpr
    ⟨0, rfl, ?_⟩⟩⟩
  exact (congrArg _ hreply).trans rfl

theorem not_decisionsStick_of_active (howned : store.Owned) (hstep : step ∈ store.steps.rows)
    (hactive : step.IsActive) (hjob : job ∈ store.jobs.rows) (howner : step.jobId = job.id)
    (hrests : job.Rests) : ¬ store.DecisionsStick := by
  intro hstick
  rcases howned step hstep hactive with ⟨worker, hworker⟩
  rcases failResearchStepAt_of_held hstep ⟨hworker, hactive⟩ with ⟨reply, store', hok⟩
  have happly : store.apply (.failResearchStepAt step.id worker "lost" false 0) = store' := by
    change store.after (store.failResearchStepAt step.id worker "lost" false 0) = store'
    rw [hok]
    rfl
  rcases hstick.reports job hjob hrests (.failResearchStepAt step.id worker "lost" false 0) rfl with
    ⟨⟨job', hjob', hid, hkept⟩, -⟩
  rw [happly] at hjob'
  rcases failResearchStepAt_eq_ok hok with ⟨existing, hmem, hstepId, -, hassigns⟩
  rw [eq_of_key hmem hstep hstepId] at hassigns
  rcases hassigns.mem_jobs hjob' with ⟨old, -, holdId, ⟨-, hfailed⟩ | ⟨hp, -⟩⟩
  · have hstatus : job'.status = .failed := hfailed
    unfold ResearchJob.Rests at hrests
    rcases hkept with hsame | hcompleted
    · rw [← hsame, hstatus] at hrests
      rcases hrests with hpaused | hcancelled
      · cases hpaused
      · cases hcancelled
    · rw [hstatus] at hcompleted
      cases hcompleted
  · refine of_decide_eq_false hp ?_
    rw [holdId, hid, howner]

theorem exists_ok_of_after_ne {α : Type} {outcome : Except DashboardError (α × ResearchStore)}
    (h : store.after outcome ≠ store) :
    ∃ reply store', outcome = .ok (reply, store') ∧ store.after outcome = store' := by
  rcases outcome with error | ⟨reply, store'⟩
  · exact absurd rfl h
  · exact ⟨reply, store', rfl, rfl⟩

/-- After an operation that changes the store without care, a report can undo the decision. -/
theorem not_decisionsStick_of_careless (hsound : store.Sound) (howned : store.Owned)
    (hcareless : ¬ store.Careful action) (hchanged : store.apply action ≠ store) :
    ¬ (store.apply action).DecisionsStick := by
  have howned' := howned.apply hsound action
  cases action with
  | pauseResearchJob id now =>
    unfold Careful at hcareless
    push Not at hcareless
    rcases hcareless with ⟨step, hstep, howner, hrunning⟩
    rcases exists_ok_of_after_ne hchanged with ⟨reply, store', hok, hafter⟩
    have happly : store.apply (.pauseResearchJob id now) = store' := hafter
    rw [happly] at howned' hchanged ⊢
    rcases pauseResearchJob_eq_ok hok with ⟨existing, hmem, hid, ⟨-, hsame⟩ | ⟨-, hassigns⟩⟩
    · exact absurd hsame hchanged
    · have hkept := hassigns.mem_of_not_selected hstep (by simp [hrunning])
      rcases hassigns.exists_job hmem with ⟨job', hjob', hid', ⟨-, hstatus⟩ | ⟨hp, -⟩⟩
      · exact not_decisionsStick_of_active howned' hkept (.inr hrunning) hjob'
          (howner.trans (hid'.trans hid).symm) (.inl hstatus)
      · simp [hid] at hp
  | cancelResearchStep jobId stepId now =>
    unfold Careful at hcareless
    push Not at hcareless
    rcases hcareless with ⟨step, hstep, howner, hother, hactive⟩
    rcases exists_ok_of_after_ne hchanged with ⟨reply, store', hok, hafter⟩
    have happly : store.apply (.cancelResearchStep jobId stepId now) = store' := hafter
    rw [happly] at howned' ⊢
    have hassigns := (cancelResearchStep_eq_ok hok).assigns
    have hkept := hassigns.mem_of_not_selected hstep (by simp [hother])
    rcases hsound.owned step hstep with ⟨job, hjob, hid⟩
    rcases hassigns.exists_job hjob with ⟨job', hjob', hid', ⟨-, hstatus⟩ | ⟨hp, -⟩⟩
    · exact not_decisionsStick_of_active howned' hkept hactive hjob'
        (hid.symm.trans hid'.symm) (.inr hstatus)
    · simp [hid, howner] at hp
  | _ => exact absurd trivial hcareless

end ResearchStore

/-! ## Runs -/

theorem owned_of_run {store : ResearchStore}
    (hrun : researchSystem.Run (fun _ _ _ _ => True) ((), .new) () store) : store.Owned := by
  have hboth : store.Sound ∧ store.Owned := by
    refine hrun.invariant (fun _ store => store.Sound ∧ store.Owned)
      ⟨ResearchStore.sound_new, fun _ hstep => absurd hstep not_mem_nil⟩ ?_
    rintro _ before action after ⟨hsound, howned⟩ hstep -
    cases hstep
    exact ⟨(hsound.apply action).1, howned.apply hsound action⟩
  exact hboth.2

theorem attended_of_run {start store : ResearchStore} (hsound : start.Sound)
    (hattended : start.Attended)
    (hrun : researchSystem.Run (fun _ before action _ => before.Careful action) ((), start) ()
      store) : store.Sound ∧ store.Attended := by
  refine hrun.invariant (fun _ store => store.Sound ∧ store.Attended) ⟨hsound, hattended⟩ ?_
  rintro _ before action after ⟨hsound, hattended⟩ hstep hcareful
  cases hstep
  exact ⟨(hsound.apply action).1, hattended.apply hsound hcareful⟩

theorem attended_new : ResearchStore.new.Attended :=
  fun _ hstep => absurd hstep not_mem_nil

/-- In every run whose operations are careful, no report of a worker undoes a pause or a
cancellation, no job with an active step is deleted, and a job that rests goes on resting until an
operator reopens it. Care is needed: in every run an operation that changes the store without it
leaves a decision that a report can undo. -/
theorem operator_decisions_stick (store : ResearchStore) :
    (researchSystem.Run (fun _ before action _ => before.Careful action) ((), .new) () store →
      store.DecisionsStick ∧
        ∀ id, store.AtRest id → ∀ later,
          researchSystem.Run (fun _ before action _ => before.Careful action ∧ ¬ action.Reopens id)
            ((), store) () later → later.AtRest id) ∧
      (researchSystem.Run (fun _ _ _ _ => True) ((), .new) () store →
        ∀ action, ¬ store.Careful action → store.apply action ≠ store →
          ¬ (store.apply action).DecisionsStick) := by
  constructor
  · intro hrun
    rcases attended_of_run ResearchStore.sound_new attended_new hrun with ⟨hsound, hattended⟩
    refine ⟨hattended.decisionsStick, fun id hrest later hlater => ?_⟩
    have hkept : later.Sound ∧ later.Attended ∧ later.AtRest id := by
      refine hlater.invariant (fun _ later => later.Sound ∧ later.Attended ∧ later.AtRest id)
        ⟨hsound, hattended, hrest⟩ ?_
      rintro _ before action after ⟨hsound, hattended, hrest⟩ hstep ⟨hcareful, hkept⟩
      cases hstep
      exact ⟨(hsound.apply action).1, hattended.apply hsound hcareful,
        hrest.apply hsound hattended hkept⟩
    exact hkept.2.2
  · exact fun hrun action hcareless hchanged =>
      ResearchStore.not_decisionsStick_of_careless (sound_of_run hrun) (owned_of_run hrun)
        hcareless hchanged

def sampleResearchActions : List ResearchAction :=
  [.elsewhere ["user"] [] [],
    .createResearchJob "export" none "user" 0 none 1000 "job" Nat.repr,
    .leaseNextResearchStepAt (fun _ => 0) "worker" 2000 1000,
    .markResearchStepRunningAt "0" "worker" 2100]

/-- The job is paused while its first step runs: the report that the step failed makes it leasable
again, and a deletion removes it with the running step. -/
theorem pause_undone :
    ∃ store, researchSystem.Run (fun _ _ _ _ => True) ((), .new) () store ∧
      store.jobs.rows.map (fun job => (job.id, job.status)) = [("job", .paused)] ∧
      store.steps.rows.map (·.status) = [.running, .paused, .paused, .paused] ∧
      ((store.apply (.failResearchStepAt "0" "worker" "lost" true 2300)).jobs.rows.map
          (fun job => (job.id, job.status)) = [("job", .retryable)] ∧
        (store.apply (.failResearchStepAt "0" "worker" "lost" true 2300)).Leasable "job") ∧
      (store.apply (.deleteResearchJob "job")).jobs.rows = [] ∧ ¬ store.DecisionsStick := by
  have hfollow : (researchSystem.follow (fun _ _ _ _ => true)
      (sampleResearchActions ++ [.pauseResearchJob "job" 2200]) ((), .new)).any (fun reached =>
        decide (reached.2.jobs.rows.map (fun job => (job.id, job.status)) = [("job", .paused)] ∧
          reached.2.steps.rows.map (·.status) = [.running, .paused, .paused, .paused] ∧
          ((reached.2.apply (.failResearchStepAt "0" "worker" "lost" true 2300)).jobs.rows.map
              (fun job => (job.id, job.status)) = [("job", .retryable)] ∧
            ∃ row ∈ (reached.2.apply (.failResearchStepAt "0" "worker" "lost" true 2300)).joined,
              row.2.id = "job" ∧
                (reached.2.apply (.failResearchStepAt "0" "worker" "lost" true 2300)).leasable 2400
                  row = true) ∧
          (reached.2.apply (.deleteResearchJob "job")).jobs.rows = [])) = true := by
    decide +kernel
  rcases System.exists_run_of_follow hfollow fun _ _ _ _ _ => trivial with
    ⟨_, store, hrun, hproperty⟩
  rcases of_decide_eq_true hproperty with ⟨hjobs, hsteps, ⟨hstatus, hleasable⟩, hdeleted⟩
  refine ⟨store, hrun, hjobs, hsteps, ⟨hstatus, 2400, hleasable⟩, hdeleted, fun hstick => ?_⟩
  rcases map_eq_singleton_iff.mp hjobs with ⟨job, hrows, hjob⟩
  rcases Prod.mk.inj hjob with ⟨hid, hpaused⟩
  have hrests : job.Rests := .inl hpaused
  have hmem : job ∈ store.jobs.rows := hrows ▸ mem_singleton_self job
  refine (hstick.reports job hmem hrests (.failResearchStepAt "0" "worker" "lost" true 2300)
    rfl).2 ?_
  rw [hid]
  exact ⟨2400, hleasable⟩

/-- The step has failed by the time the job is paused, so the pause is careful and sticks. -/
theorem operator_decisions_stick_sample :
    ∃ store : ResearchStore, store.jobs.rows.map (·.status) = [.paused] ∧ store.DecisionsStick := by
  have hfollow : (researchSystem.follow (fun _ before action _ => decide (before.Careful action))
      (sampleResearchActions ++
        [.failResearchStepAt "0" "worker" "lost" true 2200, .pauseResearchJob "job" 2300])
      ((), .new)).any (fun reached =>
        decide (reached.2.jobs.rows.map (·.status) = [.paused])) = true := by
    decide +kernel
  rcases System.exists_run_of_follow hfollow fun _ _ _ _ hcareful => of_decide_eq_true hcareful with
    ⟨_, store, hrun, hproperty⟩
  exact ⟨store, of_decide_eq_true hproperty, ((operator_decisions_stick store).1 hrun).1⟩

end BubaPaint
