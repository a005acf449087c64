import BubaPaint.Dashboard.ResearchMoves
import BubaPaint.Library.Runs

/-!
# The step pipeline of a research job

The operations of the store take the steps of a job from status to status.

Main results:

- Theorem `Sound.apply`: every operation keeps the invariant of the store.
- Theorem `research_pipeline`: in every run steps complete one at a time and in order.
-/

namespace BubaPaint

open Effects KeyedTable List

namespace ResearchStore

variable {store store' : ResearchStore}

/-! ## Creation and deletion -/

variable {jobType jobId id workerId stepId : String} {now : ℕ} {reply job : ResearchJob}
variable {stepStatus : ResearchStepStatus} {jobStatus : ResearchJobStatus}

theorem insertResearchSteps_eq_ok (steps : List ResearchJobStep) {inserted created : ResearchStore}
    (hunique : (inserted.steps.rows.map (·.place)).Nodup)
    (h : steps.foldlM insertResearchStep inserted = .ok created) :
    created.jobs = inserted.jobs ∧ created.steps.rows = inserted.steps.rows ++ steps ∧
      (created.steps.rows.map (·.place)).Nodup := by
  induction steps generalizing inserted with
  | nil =>
    cases h
    exact ⟨rfl, (append_nil _).symm, hunique⟩
  | cons step rest ih =>
    rw [foldlM_cons] at h
    obtain ⟨next, hnext, hrest⟩ := ok_of_bind h
    obtain ⟨hplace, hnext⟩ := ok_of_refuse hnext
    split at hnext
    · rename_i table hinsert
      cases hnext
      obtain ⟨hrows, -⟩ := rows_insert hinsert
      have hunique' : (table.rows.map (·.place)).Nodup := by
        rw [hrows, map_append]
        refine nodup_append.mpr ⟨hunique, nodup_singleton _, ?_⟩
        intro old hold new hnew heq
        have hstep : new = step.place := mem_singleton.mp hnew
        exact hplace (hstep ▸ heq ▸ hold)
      obtain ⟨hjobs, hsteps, hall⟩ := ih hunique' hrest
      refine ⟨hjobs, ?_, hall⟩
      rw [hsteps, hrows, append_assoc]
      rfl
    · cases hnext

theorem stepTemplatesForJob_ne_nil {stepNames : List String}
    (h : stepTemplatesForJob jobType = some stepNames) : stepNames ≠ [] := by
  unfold stepTemplatesForJob at h
  split at h
  all_goals
    cases h
  all_goals exact cons_ne_nil _ _

theorem createResearchJob_eq_ok (hsound : store.Sound) {artifactId : Option String}
    {requestedBy : String} {priority : ℤ} {paramsJson : Option String} {stepIds : ℕ → String}
    (h : store.createResearchJob jobType artifactId requestedBy priority paramsJson now jobId
      stepIds = .ok (reply, store')) :
    ∃ (job : ResearchJob) (steps : List ResearchJobStep),
      store'.jobs.rows = store.jobs.rows ++ [job] ∧ job.id ∉ store.jobs.rows.map (·.id) ∧
        job.status = .queued ∧ store'.steps.rows = store.steps.rows ++ steps ∧
        (store'.steps.rows.map (·.place)).Nodup ∧ steps ≠ [] ∧
        (∀ step ∈ steps, step.jobId = job.id ∧ step.status = .queued) ∧ job.id = jobId := by
  obtain ⟨_, -, h⟩ := ok_of_bind h
  split at h
  · cases h
  rename_i stepNames hnames
  obtain ⟨-, h⟩ := ok_of_refuse h
  obtain ⟨_, -, h⟩ := ok_of_bind h
  obtain ⟨time, -, h⟩ := ok_of_bind h
  obtain ⟨inserted, hinserted, h⟩ := ok_of_bind h
  obtain ⟨created, hcreated, h⟩ := ok_of_bind h
  rw [commit_eq_ok h]
  obtain ⟨-, hinserted⟩ := ok_of_refuse hinserted
  split at hinserted
  · rename_i jobs hjobs
    cases hinserted
    obtain ⟨hrows, hfresh⟩ := rows_insert hjobs
    rw [← foldlM_map (f := fun named : String × ℕ =>
      initialStep jobId (stepIds named.2) named.2 named.1 time)] at hcreated
    have hunique : ((({ store with jobs := jobs } : ResearchStore).steps.rows).map
        (·.place)).Nodup := hsound.unique
    obtain ⟨hsame, hsteps, hunique'⟩ := insertResearchSteps_eq_ok _ hunique hcreated
    refine ⟨_, _, (congrArg rows hsame).trans hrows, hfresh, rfl, hsteps, hunique',
      ?_, ?_, rfl⟩
    · simpa using stepTemplatesForJob_ne_nil hnames
    · rw [forall_mem_map]
      exact fun named _ => ⟨rfl, rfl⟩
  · cases hinserted

/-- A new job leaves the others alone. -/
theorem Sound.moves_create (hsound : store.Sound) {steps : List ResearchJobStep}
    (hjobs : store'.jobs.rows = store.jobs.rows ++ [job])
    (hfresh : job.id ∉ store.jobs.rows.map (·.id)) (hqueued : job.status = .queued)
    (hsteps : store'.steps.rows = store.steps.rows ++ steps)
    (hunique : (store'.steps.rows.map (·.place)).Nodup) (hsome : steps ≠ [])
    (hnew : ∀ step ∈ steps, step.jobId = job.id ∧ step.status = .queued) : store.Moves store' := by
  have hold : ∀ step ∈ store.steps.rows, step.jobId ≠ job.id := by
    intro step hstep heq
    obtain ⟨owner, howner, hid⟩ := hsound.owned step hstep
    exact hfresh (mem_map.mpr ⟨owner, howner, hid.trans heq⟩)
  refine ⟨⟨hunique, ?_, ?_, ?_⟩, ?_⟩
  · rw [hsteps, hjobs, forall_mem_append]
    constructor
    · intro step hstep
      obtain ⟨owner, howner, hid⟩ := hsound.owned step hstep
      exact ⟨owner, mem_append_left _ howner, hid⟩
    · intro step hstep
      exact ⟨job, mem_append_right _ (mem_singleton_self _), (hnew step hstep).1.symm⟩
  · intro jobId
    refine (inOrder_iff hunique).mpr ?_
    have horder := (inOrder_iff hsound.unique).mp (hsound.inOrder jobId)
    rw [hsteps, forall_mem_append]
    constructor
    · rintro step hstep rfl hstarted
      rw [forall_mem_append]
      constructor
      · exact horder step hstep rfl hstarted
      · intro earlier hearlier hjobId _
        exact absurd (hjobId.symm.trans (hnew earlier hearlier).1) (hold step hstep)
    · intro step hstep _ hstarted
      have hwaits := (hnew step hstep).2
      rcases hstarted with hactive | hcompleted
      · rcases hactive with hleased | hrunning
        · cases hwaits.symm.trans hleased
        · cases hwaits.symm.trans hrunning
      · cases hwaits.symm.trans hcompleted
  · rw [hsteps, hjobs, forall_mem_append]
    constructor
    · intro old hmem
      rw [hsound.finished old hmem, forall_mem_append]
      refine (and_iff_left fun step hstep howner => ?_).symm
      refine absurd (mem_map.mpr ⟨old, hmem, ?_⟩) hfresh
      exact howner.symm.trans (hnew step hstep).1
    · intro new hmem
      rw [mem_singleton.mp hmem]
      refine iff_of_false (hqueued ▸ ResearchJobStatus.noConfusion) fun hall => ?_
      obtain ⟨step, hstep⟩ := exists_mem_of_ne_nil steps hsome
      have hdone := hall step (mem_append_right _ hstep) (hnew step hstep).1
      cases (hnew step hstep).2.symm.trans hdone
  · intro step hstep _
    rw [hsteps]
    exact mem_append_left _ hstep

theorem Sound.delete (hsound : store.Sound) (h : store.deleteResearchJob id = .ok (reply, store')) :
    store'.Sound ∧ ∀ step ∈ store.steps.rows, step.jobId ≠ id → step ∈ store'.steps.rows := by
  rcases deleteResearchJob_eq_ok h with ⟨-, -, -, rfl⟩
  have hunique : ((store.steps.delete fun step => step.jobId = id).rows.map (·.place)).Nodup :=
    hsound.unique.sublist (filter_sublist.map _)
  have hmem : ∀ step, step ∈ (store.steps.delete fun step => step.jobId = id).rows ↔
      step ∈ store.steps.rows ∧ step.jobId ≠ id := by
    intro step
    rw [mem_delete, decide_eq_false_iff_not]
  refine ⟨⟨hunique, ?_, ?_, ?_⟩, fun step hstep hother => (hmem step).mpr ⟨hstep, hother⟩⟩
  · intro step hstep
    obtain ⟨hold, hother⟩ := (hmem step).mp hstep
    obtain ⟨owner, howner, hid⟩ := hsound.owned step hold
    refine ⟨owner, mem_delete.mpr ⟨howner, ?_⟩, hid⟩
    rw [decide_eq_false_iff_not, hid]
    exact hother
  · intro jobId
    refine (inOrder_iff hunique).mpr fun step hstep hjobId hstarted earlier hearlier => ?_
    exact (inOrder_iff hsound.unique).mp (hsound.inOrder jobId) step ((hmem step).mp hstep).1 hjobId
      hstarted earlier ((hmem earlier).mp hearlier).1
  · intro job hjob
    obtain ⟨hold, hother⟩ := mem_delete.mp hjob
    rw [hsound.finished job hold]
    constructor
    · exact fun hall step hstep => hall step ((hmem step).mp hstep).1
    · intro hall step hstep howner
      refine hall step ((hmem step).mpr ⟨hstep, ?_⟩) howner
      rw [howner]
      exact of_decide_eq_false hother

/-! ## The operations on open jobs -/

variable (hsound : store.Sound)
include hsound

theorem Sound.open_of_job (hjob : job ∈ store.jobs.rows) (hid : job.id = jobId)
    (hstatus : job.status ≠ .completed) :
    ∃ step ∈ store.steps.rows, step.jobId = jobId ∧ step.status ≠ .completed :=
  hid ▸ hsound.exists_open hjob hstatus

theorem Sound.moves_pause (h : store.pauseResearchJob id now = .ok (reply, store')) :
    store.Moves store' := by
  rcases pauseResearchJob_eq_ok h with ⟨existing, hmem, hid, ⟨-, rfl⟩ | ⟨haccepted, hassigns⟩⟩
  · exact hsound.moves_refl
  · have hopen : existing.status ≠ .completed := by
      intro hcompleted
      simp [hcompleted] at haccepted
    refine hsound.moves_wait hassigns (hsound.open_of_job hmem hid hopen)
      (fun _ => of_decide_eq_true) (by decide) (fun step _ hselected => ?_) rfl
    simp only [Bool.and_eq_true, decide_eq_true_eq] at hselected
    refine ⟨hselected.1, fun hcompleted => ?_⟩
    simp [hcompleted] at hselected

theorem Sound.moves_retry (h : store.retryResearchJob id now = .ok (reply, store')) :
    store.Moves store' := by
  rcases retryResearchJob_eq_ok h with ⟨⟨job, hmem, hid, haccepted⟩, hassigns⟩
  have hopen : job.status ≠ .completed := by
    intro hcompleted
    simp [hcompleted] at haccepted
  refine hsound.moves_wait hassigns (hsound.open_of_job hmem hid hopen) (fun job hselected => ?_)
    (by decide) (fun step _ hselected => ?_) rfl
  · simp only [Bool.and_eq_true, decide_eq_true_eq] at hselected
    exact hselected.1
  · simp only [Bool.and_eq_true, decide_eq_true_eq] at hselected
    refine ⟨hselected.1, fun hcompleted => ?_⟩
    simp [hcompleted] at hselected

theorem Sound.moves_resume (h : store.resumeResearchJob id now = .ok (reply, store')) :
    store.Moves store' := by
  rcases resumeResearchJob_eq_ok h with hretry | ⟨⟨job, hmem, hid, hpaused⟩, hassigns⟩
  · exact hsound.moves_retry hretry
  · have hopen : job.status ≠ .completed := hpaused ▸ ResearchJobStatus.noConfusion
    refine hsound.moves_wait hassigns (hsound.open_of_job hmem hid hopen)
      (fun _ => of_decide_eq_true) (by decide) (fun step _ hselected => ?_) rfl
    simp only [Bool.and_eq_true, decide_eq_true_eq] at hselected
    exact ⟨hselected.1, hselected.2 ▸ ResearchStepStatus.noConfusion⟩

theorem Sound.moves_cancel (h : store.cancelResearchJob id now = .ok (reply, store')) :
    store.Moves store' := by
  rcases cancelResearchJob_eq_ok h with ⟨⟨job, hmem, hid, haccepted⟩, hassigns⟩
  have hopen : job.status ≠ .completed := by
    intro hcompleted
    simp [hcompleted] at haccepted
  refine hsound.moves_wait hassigns (hsound.open_of_job hmem hid hopen) (fun job hselected => ?_)
    (by decide) (fun step _ hselected => ?_) rfl
  · simp only [Bool.and_eq_true, decide_eq_true_eq] at hselected
    exact hselected.1
  · simp only [Bool.and_eq_true, decide_eq_true_eq] at hselected
    refine ⟨hselected.1, fun hcompleted => ?_⟩
    simp [hcompleted] at hselected

theorem Sound.moves_lease {scan : String → ℕ} {leaseDurationMs : ℕ}
    {reply : Option ResearchStepLease}
    (h : store.leaseNextResearchStepAt scan workerId now leaseDurationMs = .ok (reply, store')) :
    store.Moves store' := by
  rcases leaseNextResearchStepAt_eq_ok h with rfl | ⟨candidate, owner, hcandidate, hassigns⟩
  · exact hsound.moves_refl
  rcases leaseCandidate_spec hcandidate with ⟨hmem, -, howner, -, hopen, hearlier⟩
  rcases hassigns with hpoisoned | hleased
  · exact hsound.moves_waitStep hpoisoned hmem hopen
      (fun job hjob => (of_decide_eq_true hjob).trans howner) (by decide)
      (fun step => of_decide_eq_true) rfl
  · refine hsound.moves_assigns hleased ⟨candidate, hmem, rfl, hopen⟩ (fun job hjob => ?_)
      (by decide) (fun step hstep hselected => ?_)
      (by decide) fun _ step hstep hselected => ?_
    · simp only [Bool.and_eq_true, decide_eq_true_eq] at hjob
      exact hjob.1.trans howner
    · rw [eq_of_key hstep hmem (of_decide_eq_true hselected)]
      exact ⟨rfl, hopen⟩
    · rw [eq_of_key hstep hmem (of_decide_eq_true hselected)]
      exact hearlier

theorem Sound.moves_giveUp {existing : ResearchJobStep} (hmem : existing ∈ store.steps.rows)
    (hheld : existing.HeldBy workerId)
    (h : store.Assigns store' (fun job => job.id = existing.jobId) jobStatus
      (fun step => step.id = existing.id && step.leaseOwner = some workerId) stepStatus)
    (hwait : stepStatus.progress = .waiting) (hjob : jobStatus ≠ .completed) :
    store.Moves store' := by
  refine hsound.moves_waitStep h hmem hheld.2.not_completed (fun _ => of_decide_eq_true) hjob
    (fun step hselected => ?_) hwait
  simp only [Bool.and_eq_true, decide_eq_true_eq] at hselected
  exact hselected.1

theorem Sound.moves_fail {error : String} {retryable : Bool} {reply : ResearchJobStep}
    (h : store.failResearchStepAt stepId workerId error retryable now = .ok (reply, store')) :
    store.Moves store' := by
  rcases failResearchStepAt_eq_ok h with ⟨existing, hmem, -, hheld, hassigns⟩
  refine hsound.moves_giveUp hmem hheld hassigns ?_ ?_
  · cases retryable <;> rfl
  · cases retryable <;> decide

theorem Sound.moves_block {reason : String} {reply : ResearchJobStep}
    (h : store.blockResearchStepAt stepId workerId reason now = .ok (reply, store')) :
    store.Moves store' := by
  rcases blockResearchStepAt_eq_ok h with ⟨existing, hmem, -, hheld, hassigns⟩
  exact hsound.moves_giveUp hmem hheld hassigns rfl (by decide)

theorem Sound.moves_decides {accepted : ResearchJobStep → Prop}
    (h : store.Decides store' jobId stepId jobStatus stepStatus accepted)
    (hopen : ∀ step, accepted step → step.status ≠ .completed) (hjob : jobStatus ≠ .completed)
    (hwait : stepStatus.progress = .waiting) : store.Moves store' := by
  rcases h.existing with ⟨existing, hmem, rfl, rfl, haccepted⟩
  refine hsound.moves_waitStep h.assigns hmem (hopen existing haccepted)
    (fun job => of_decide_eq_true) hjob (fun step hstep => ?_) hwait
  simp only [Bool.and_eq_true, decide_eq_true_eq] at hstep
  exact hstep.1

theorem Sound.moves_retryStep {reply : ResearchJobStep}
    (h : store.retryResearchStep jobId stepId now = .ok (reply, store')) : store.Moves store' := by
  refine hsound.moves_decides (retryResearchStep_eq_ok h) (fun step hstatus hcompleted => ?_)
    (by decide) rfl
  simp [hcompleted] at hstatus

theorem Sound.moves_cancelStep {reply : ResearchJobStep}
    (h : store.cancelResearchStep jobId stepId now = .ok (reply, store')) : store.Moves store' := by
  refine hsound.moves_decides (cancelResearchStep_eq_ok h) (fun step hstatus hcompleted => ?_)
    (by decide) rfl
  simp [hcompleted] at hstatus

theorem Sound.moves_clearStale {reply : ResearchJobStep}
    (h : store.clearStaleResearchStepLeaseAt jobId stepId now = .ok (reply, store')) :
    store.Moves store' :=
  hsound.moves_decides (clearStaleResearchStepLeaseAt_eq_ok h)
    (fun _ hactive => hactive.not_completed) (by decide) rfl

theorem Sound.moves_resolve {reply : ResearchJobStep}
    (h : store.resolveResearchStepBlocker jobId stepId now = .ok (reply, store')) :
    store.Moves store' :=
  hsound.moves_decides (resolveResearchStepBlocker_eq_ok h)
    (fun _ hblocked => hblocked ▸ ResearchStepStatus.noConfusion) (by decide) rfl

/-- Every operation but a deletion moves the store. -/
theorem Sound.apply_moves (action : ResearchAction) (hkept : ∀ id, action ≠ .deleteResearchJob id) :
    store.Moves (store.apply action) := by
  have hrefl := hsound.moves_refl
  cases action with
  | createResearchJob jobType artifactId requestedBy priority paramsJson now jobId stepIds =>
    refine after_induction hrefl fun reply store' h => ?_
    obtain ⟨job, steps, hjobs, hfresh, hqueued, hsteps, hunique, hsome, hnew, -⟩ :=
      createResearchJob_eq_ok hsound h
    exact hsound.moves_create hjobs hfresh hqueued hsteps hunique hsome hnew
  | updateQueuedResearchJob =>
    exact after_induction hrefl fun _ _ h =>
      hsound.moves_relabels (updateQueuedResearchJob_eq_ok h)
  | attachResearchJobArtifact =>
    exact after_induction hrefl fun _ _ h =>
      hsound.moves_relabels (attachResearchJobArtifact_eq_ok h)
  | pauseResearchJob => exact after_induction hrefl fun _ _ => hsound.moves_pause
  | resumeResearchJob => exact after_induction hrefl fun _ _ => hsound.moves_resume
  | deleteResearchJob id => exact absurd rfl (hkept id)
  | cancelResearchJob => exact after_induction hrefl fun _ _ => hsound.moves_cancel
  | retryResearchJob => exact after_induction hrefl fun _ _ => hsound.moves_retry
  | leaseNextResearchStepAt => exact after_induction hrefl fun _ _ => hsound.moves_lease
  | markResearchStepRunningAt =>
    exact after_induction hrefl fun _ _ h =>
      hsound.moves_holds (markResearchStepRunningAt_eq_ok h)
  | refreshResearchStepLeaseAt =>
    exact after_induction hrefl fun _ _ h =>
      hsound.moves_holds (refreshResearchStepLeaseAt_eq_ok h)
  | completeResearchStepAt => exact after_induction hrefl fun _ _ => hsound.moves_complete
  | failResearchStepAt => exact after_induction hrefl fun _ _ => hsound.moves_fail
  | blockResearchStepAt => exact after_induction hrefl fun _ _ => hsound.moves_block
  | retryResearchStep => exact after_induction hrefl fun _ _ => hsound.moves_retryStep
  | cancelResearchStep => exact after_induction hrefl fun _ _ => hsound.moves_cancelStep
  | clearStaleResearchStepLeaseAt => exact after_induction hrefl fun _ _ => hsound.moves_clearStale
  | resolveResearchStepBlocker => exact after_induction hrefl fun _ _ => hsound.moves_resolve
  | elsewhere users runArtifacts reports =>
    exact ⟨⟨hsound.unique, hsound.owned, hsound.inOrder, hsound.finished⟩,
      fun _ hstep _ => hstep⟩

/-- Every operation keeps a store sound, and the completed steps of all jobs it does not delete. -/
theorem Sound.apply (action : ResearchAction) :
    (store.apply action).Sound ∧
      ∀ step ∈ store.steps.rows, step.status = .completed →
        action ≠ .deleteResearchJob step.jobId → step ∈ (store.apply action).steps.rows := by
  by_cases hdelete : ∃ id, action = .deleteResearchJob id
  · obtain ⟨id, rfl⟩ := hdelete
    have happly : store.apply (.deleteResearchJob id) = store.after (store.deleteResearchJob id) :=
      rfl
    rw [happly]
    cases h : store.deleteResearchJob id with
    | error error => exact ⟨hsound, fun _ hstep _ _ => hstep⟩
    | ok outcome =>
      obtain ⟨hsound', hothers⟩ := hsound.delete h
      refine ⟨hsound', fun step hstep _ hkept => hothers step hstep fun howner => hkept ?_⟩
      rw [howner]
  · have hmoves := hsound.apply_moves action fun id heq => hdelete ⟨id, heq⟩
    exact ⟨hmoves.sound, fun step hstep hcompleted _ => hmoves.kept step hstep hcompleted⟩

omit hsound in
theorem sound_new : ResearchStore.new.Sound where
  unique := nodup_nil
  owned := fun _ hstep => absurd hstep not_mem_nil
  inOrder := by
    rintro jobId index (hactive | hdone)
    · cases hactive
    · cases hdone
  finished := fun _ hjob => absurd hjob not_mem_nil

/-! ## Runs -/

omit hsound

/-- At most one step of a job is leased or running, every step of lower index is completed then, and
the job is completed exactly when all its steps are. -/
structure StepsInOrder (store : ResearchStore) : Prop where
  single : ∀ step ∈ store.steps.rows, ∀ other ∈ store.steps.rows, step.jobId = other.jobId →
    step.IsActive → other.IsActive → step = other
  ordered : ∀ step ∈ store.steps.rows, step.IsActive → ∀ earlier ∈ store.steps.rows,
    earlier.jobId = step.jobId → earlier.stepIndex < step.stepIndex → earlier.status = .completed
  finished : ∀ job ∈ store.jobs.rows, job.status = .completed ↔
    ∀ step ∈ store.steps.rows, step.jobId = job.id → step.status = .completed

theorem Sound.stepsInOrder (hsound : store.Sound) : store.StepsInOrder where
  single := by
    intro step hstep other hother hjob hactive hactive'
    have hindex : step.stepIndex = other.stepIndex := by
      refine (hsound.inOrder step.jobId).eq_of_active ?_ ?_
      · rw [pipeline_of_mem hsound.unique hstep]
        exact congrArg some (ResearchJobStep.progress_eq_active_iff.mpr hactive)
      · rw [hjob, pipeline_of_mem hsound.unique hother]
        exact congrArg some (ResearchJobStep.progress_eq_active_iff.mpr hactive')
    exact inj_on_of_nodup_map hsound.unique hstep hother (Prod.ext hjob hindex)
  ordered := fun step hstep hactive =>
    (inOrder_iff hsound.unique).mp (hsound.inOrder step.jobId) step hstep rfl (.inl hactive)
  finished := hsound.finished

theorem complete_changes {outputJson : Option String} {step : ResearchJobStep}
    (hstep : step ∈ store.steps.rows)
    (hchanged : step ∉
      (store.apply (.completeResearchStepAt stepId workerId outputJson now)).steps.rows) :
    step.id = stepId ∧ step.HeldBy workerId := by
  have happly : store.apply (.completeResearchStepAt stepId workerId outputJson now) =
      store.after (store.completeResearchStepAt stepId workerId outputJson now) := rfl
  rw [happly] at hchanged
  cases h : store.completeResearchStepAt stepId workerId outputJson now with
  | error error =>
    rw [h] at hchanged
    exact absurd hstep hchanged
  | ok outcome =>
    rw [h] at hchanged
    rcases completeResearchStepAt_eq_ok h with hsame | ⟨existing, hmem, hid, hheld, hsteps, -⟩
    · exact absurd (hsame ▸ hstep) hchanged
    · by_cases hselected : step.id = stepId ∧ step.leaseOwner = some workerId
      · rw [eq_of_key hstep hmem (hselected.1.trans hid.symm)]
        exact ⟨hid, hheld⟩
      · refine absurd ?_ hchanged
        change step ∈ outcome.2.steps.rows
        rw [hsteps]
        exact mem_map.mpr ⟨step, hstep, if_neg hselected⟩

end ResearchStore

/-- The runs of the store: any operations at any times, by any workers and operators. -/
def researchSystem : System ResearchStore ResearchAction Unit where
  step store action := some (store.apply action)
  record _ _ _ _ := ()

theorem sound_of_run {store : ResearchStore}
    (hrun : researchSystem.Run (fun _ _ _ _ => True) ((), .new) () store) : store.Sound := by
  refine hrun.invariant (fun _ store => store.Sound) ResearchStore.sound_new ?_
  intro _ before action after hbefore hstep _
  cases hstep
  exact (hbefore.apply action).1

/-- In every run of the store the steps of each job are worked on one at a time and in order; a
completed step stays as it is as long as its job is not deleted; and a report of completion changes
a step only when it comes from the worker that holds its lease. -/
theorem research_pipeline (store : ResearchStore)
    (hrun : researchSystem.Run (fun _ _ _ _ => True) ((), .new) () store) :
    store.StepsInOrder ∧
      (∀ step ∈ store.steps.rows, step.status = .completed →
        ∀ later, researchSystem.Run (fun _ _ action _ => action ≠ .deleteResearchJob step.jobId)
            ((), store) () later → step ∈ later.steps.rows) ∧
      ∀ stepId workerId outputJson now, ∀ step ∈ store.steps.rows,
        step ∉ (store.apply (.completeResearchStepAt stepId workerId outputJson now)).steps.rows →
          step.id = stepId ∧ step.HeldBy workerId := by
  have hsound := sound_of_run hrun
  refine ⟨hsound.stepsInOrder, ?_, ?_⟩
  · intro step hstep hcompleted later hlater
    have hkept : later.Sound ∧ step ∈ later.steps.rows := by
      refine hlater.invariant (fun _ later => later.Sound ∧ step ∈ later.steps.rows)
        ⟨hsound, hstep⟩ ?_
      intro _ before action after hbefore hnext hother
      cases hnext
      obtain ⟨hafter, hkept⟩ := hbefore.1.apply action
      exact ⟨hafter, hkept step hbefore.2 hcompleted hother⟩
    exact hkept.2
  · exact fun _ _ _ _ _ hstep => ResearchStore.complete_changes hstep

/-- An export job of which one worker has completed the first step and another one is at work on the
second. -/
theorem research_pipeline_sample :
    ∃ store : ResearchStore, store.steps.rows.map (·.status) =
        [.completed, .running, .queued, .queued] ∧ store.StepsInOrder := by
  have hfollow : (researchSystem.follow (fun _ _ _ _ => true)
      [.elsewhere ["user"] [] [],
        .createResearchJob "export" none "user" 0 none 1000 "job" Nat.repr,
        .leaseNextResearchStepAt (fun _ => 0) "worker" 2000 1000,
        .markResearchStepRunningAt "0" "worker" 2100,
        .completeResearchStepAt "0" "other worker" none 2200,
        .completeResearchStepAt "0" "worker" none 2300,
        .leaseNextResearchStepAt (fun _ => 0) "worker" 2400 1000,
        .leaseNextResearchStepAt (fun _ => 0) "other worker" 5000 1000,
        .markResearchStepRunningAt "1" "worker" 5100,
        .markResearchStepRunningAt "1" "other worker" 5200]
      ((), .new)).any (fun reached =>
        decide (reached.2.steps.rows.map (·.status) =
          [.completed, .running, .queued, .queued])) = true := by
    decide +kernel
  obtain ⟨_, store, hrun, hproperty⟩ := System.exists_run_of_follow hfollow
    fun _ _ _ _ _ => trivial
  exact ⟨store, of_decide_eq_true hproperty, (research_pipeline store hrun).1⟩

end BubaPaint
