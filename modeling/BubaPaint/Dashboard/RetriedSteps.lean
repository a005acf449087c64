import BubaPaint.Dashboard.ResearchPipeline
import BubaPaint.Library.Traversals

/-!
# Steps that an operator retries

An operator can put a failed, blocked or cancelled step back into the queue in four ways. Each
leaves the number of its leases as it is, and the next lease pass fails a step that was leased too
often; and a paused job that is resumed gets back its paused steps only.

Main results:

- Theorem `retry_leases_step_iff`: when a step is leased next after a retry.
-/

namespace BubaPaint

open Effects List

/-- The ways in which an operator retries a step. -/
inductive RetryPath where
  | retryJob
  | resumeJob
  | retryStep
  | resolveBlocker
  deriving DecidableEq

namespace ResearchStore

variable {store store' : ResearchStore}

/-- An operator retries a step in one of four ways. -/
def retryBy (store : ResearchStore) (path : RetryPath) (step : ResearchJobStep) (now : ℕ) :
    Except DashboardError ResearchStore :=
  match path with
  | .retryJob => (store.retryResearchJob step.jobId now).map Prod.snd
  | .resumeJob => (store.resumeResearchJob step.jobId now).map Prod.snd
  | .retryStep => (store.retryResearchStep step.jobId step.id now).map Prod.snd
  | .resolveBlocker => (store.resolveResearchStepBlocker step.jobId step.id now).map Prod.snd

def JobPaused (store : ResearchStore) (jobId : String) : Prop :=
  ∃ job ∈ store.jobs.rows, job.id = jobId ∧ job.status = .paused

/-- A retry that resumes a paused job, which leaves its failed steps alone. -/
def ResumesPaused (store : ResearchStore) (path : RetryPath) (step : ResearchJobStep) : Prop :=
  path = .resumeJob ∧ store.JobPaused step.jobId

def leaseCounts (store : ResearchStore) : List (String × ℤ) :=
  store.steps.rows.map fun step => (step.id, step.attempts)

theorem leaseCounts_update {p : ResearchJob → Bool} {f : ResearchJob → ResearchJob}
    {hf : ∀ job, (f job).id = job.id} {q : ResearchJobStep → Bool}
    {g : ResearchJobStep → ResearchJobStep} {hg : ∀ step, (g step).id = step.id}
    (hattempts : ∀ step, (g step).attempts = step.attempts) :
    ((store.updateResearchJobs p f hf).updateResearchSteps q g hg).leaseCounts =
      store.leaseCounts := by
  unfold leaseCounts updateResearchSteps KeyedTable.update
  rw [map_map]
  refine map_congr_left fun step _ => ?_
  by_cases hselected : q step = true
  · simp [hselected, hg, hattempts]
  · simp [hselected]

theorem leaseCounts_retryResearchJob {id : String} {now : ℕ} {reply : ResearchJob}
    (h : store.retryResearchJob id now = .ok (reply, store')) :
    store'.leaseCounts = store.leaseCounts := by
  rcases ok_of_bind h with ⟨time, -, h⟩
  dsimp only at h
  split at h
  · rw [commit_eq_ok h]
    exact leaseCounts_update fun _ => rfl
  · rcases ok_of_bind h with ⟨current, -, h⟩
    cases h

theorem leaseCounts_retryBy {path : RetryPath} {step : ResearchJobStep} {now : ℕ}
    (h : store.retryBy path step now = .ok store') : store'.leaseCounts = store.leaseCounts := by
  cases path with
  | retryJob =>
    obtain ⟨⟨reply, after⟩, hretry, rfl⟩ := ok_of_map h
    exact leaseCounts_retryResearchJob hretry
  | resumeJob =>
    obtain ⟨⟨reply, after⟩, hresume, rfl⟩ := ok_of_map h
    rcases ok_of_bind hresume with ⟨existing, -, hresume⟩
    split at hresume
    · exact leaseCounts_retryResearchJob hresume
    · rcases ok_of_bind hresume with ⟨time, -, hresume⟩
      rw [commit_eq_ok hresume]
      exact leaseCounts_update fun _ => rfl
  | retryStep =>
    obtain ⟨⟨reply, after⟩, hretry, rfl⟩ := ok_of_map h
    rcases ok_of_bind hretry with ⟨existing, -, hretry⟩
    rcases ok_of_bind hretry with ⟨_, -, hretry⟩
    rcases ok_of_refuse hretry with ⟨-, hretry⟩
    rcases ok_of_bind hretry with ⟨time, -, hretry⟩
    rw [commit_eq_ok hretry, update_comm]
    exact leaseCounts_update fun _ => rfl
  | resolveBlocker =>
    obtain ⟨⟨reply, after⟩, hresolve, rfl⟩ := ok_of_map h
    rcases ok_of_bind hresolve with ⟨existing, -, hresolve⟩
    rcases ok_of_bind hresolve with ⟨_, -, hresolve⟩
    rcases ok_of_refuse hresolve with ⟨-, hresolve⟩
    rcases ok_of_bind hresolve with ⟨time, -, hresolve⟩
    rw [commit_eq_ok hresolve, update_comm]
    exact leaseCounts_update fun _ => rfl

/-- What a retry assigns: it queues the job, and the step unless it resumes a paused job, and it
leaves completed steps alone. -/
structure Requeues (store store' : ResearchStore) (step : ResearchJobStep) (queued : Prop) :
    Prop where
  moves : store.Moves store'
  job : ∃ job ∈ store'.jobs.rows, job.id = step.jobId ∧ job.status = .queued
  step : ∃ step' ∈ store'.steps.rows, step'.id = step.id ∧ step'.place = step.place ∧
    (step'.status = .queued ∧ queued ∨ step' = step ∧ ¬queued)
  origin : ∀ step' ∈ store'.steps.rows, ∃ step ∈ store.steps.rows,
    step.id = step'.id ∧ step.place = step'.place

theorem requeues_of_assigns {step : ResearchJobStep} {p : ResearchJob → Bool}
    {q : ResearchJobStep → Bool} {queued : Prop} (hmoves : store.Moves store')
    (hassigns : store.Assigns store' p .queued q .queued) (hstep : step ∈ store.steps.rows)
    (hjob : ∃ job ∈ store.jobs.rows, job.id = step.jobId ∧ p job = true)
    (hqueued : q step = true ↔ queued) : store.Requeues store' step queued := by
  refine ⟨hmoves, ?_, ?_, fun step' hstep' => ?_⟩
  · obtain ⟨job, hmem, hid, hselected⟩ := hjob
    obtain ⟨job', hmem', hid', ⟨-, hstatus⟩ | ⟨hnot, -⟩⟩ := hassigns.exists_job hmem
    · exact ⟨job', hmem', hid'.trans hid, hstatus⟩
    · exact absurd hselected (by simp [hnot])
  · obtain ⟨g, hg, hrows⟩ := hassigns.steps
    refine ⟨if q step then g step else step, hrows ▸ mem_map_of_mem hstep, ?_⟩
    by_cases hselected : q step = true
    · simp [hselected, hg, ← hqueued]
    · simp [hselected, ← hqueued]
  · obtain ⟨old, hold, hid, hplace, -⟩ := hassigns.mem_steps hstep'
    exact ⟨old, hold, hid, hplace⟩

section Retries

variable {step : ResearchJobStep} {now : ℕ} (hsound : store.Sound) (hstep : step ∈ store.steps.rows)
  (hstatus : step.status ∈ [ResearchStepStatus.failed, .blocked, .cancelled])

include hsound hstep hstatus

theorem requeues_retryResearchJob {reply : ResearchJob}
    (h : store.retryResearchJob step.jobId now = .ok (reply, store')) :
    ¬store.JobPaused step.jobId ∧ store.Requeues store' step True := by
  obtain ⟨⟨job, hjob, hid, haccepted⟩, hassigns⟩ := retryResearchJob_eq_ok h
  constructor
  · rintro ⟨paused, hpaused, hsame, hstatus⟩
    rw [KeyedTable.eq_of_key hpaused hjob (hsame.trans hid.symm)] at hstatus
    simp [hstatus] at haccepted
  · refine requeues_of_assigns (hsound.moves_retry h) hassigns hstep
      ⟨job, hjob, hid, by simp [hid, haccepted]⟩ ?_
    simp only [mem_cons, not_mem_nil, or_false] at hstatus
    rcases hstatus with hstatus | hstatus | hstatus <;> simp [hstatus]

theorem requeues_retryBy {path : RetryPath} (h : store.retryBy path step now = .ok store') :
    store.Requeues store' step (¬store.ResumesPaused path step) := by
  cases path with
  | retryJob =>
    obtain ⟨⟨reply, after⟩, hretry, rfl⟩ := ok_of_map h
    simpa [ResumesPaused] using (requeues_retryResearchJob hsound hstep hstatus hretry).2
  | resumeJob =>
    obtain ⟨⟨reply, after⟩, hresume, rfl⟩ := ok_of_map h
    rcases resumeResearchJob_eq_ok hresume with hretry | ⟨hpaused, hassigns⟩
    · obtain ⟨hnot, hrequeues⟩ := requeues_retryResearchJob hsound hstep hstatus hretry
      simpa [ResumesPaused, hnot] using hrequeues
    · refine requeues_of_assigns (hsound.moves_resume hresume) hassigns hstep ?_ ?_
      · obtain ⟨job, hjob, hid, -⟩ := hpaused
        exact ⟨job, hjob, hid, by simp [hid]⟩
      · have hfailed : step.status ≠ .paused := by
          intro hsame
          simp [hsame] at hstatus
        have hresumes : store.ResumesPaused .resumeJob step := ⟨rfl, hpaused⟩
        simp [hfailed, hresumes]
  | retryStep =>
    obtain ⟨⟨reply, after⟩, hretry, rfl⟩ := ok_of_map h
    have hdecides := retryResearchStep_eq_ok hretry
    obtain ⟨job, hjob, hid⟩ := hsound.owned step hstep
    exact requeues_of_assigns (hsound.moves_retryStep hretry) hdecides.assigns hstep
      ⟨job, hjob, hid, by simp [hid]⟩ (by simp [ResumesPaused])
  | resolveBlocker =>
    obtain ⟨⟨reply, after⟩, hresolve, rfl⟩ := ok_of_map h
    have hdecides := resolveResearchStepBlocker_eq_ok hresolve
    obtain ⟨job, hjob, hid⟩ := hsound.owned step hstep
    exact requeues_of_assigns (hsound.moves_resolve hresolve) hdecides.assigns hstep
      ⟨job, hjob, hid, by simp [hid]⟩ (by simp [ResumesPaused])

end Retries

theorem Requeues.earlier_completed {step : ResearchJobStep} {queued : Prop}
    (h : store.Requeues store' step queued)
    (hearlier : ∀ earlier ∈ store.steps.rows, earlier.jobId = step.jobId →
      earlier.stepIndex < step.stepIndex → earlier.status = .completed) :
    ∀ earlier ∈ store'.steps.rows, earlier.jobId = step.jobId →
      earlier.stepIndex < step.stepIndex → earlier.status = .completed := by
  intro earlier hmem hjob hless
  obtain ⟨old, hold, hid, hplace⟩ := h.origin earlier hmem
  obtain ⟨hjob', hindex⟩ := Prod.mk.inj hplace
  have hcompleted := hearlier old hold (hjob'.trans hjob) (hindex ▸ hless)
  rw [← KeyedTable.eq_of_key (h.moves.kept old hold hcompleted) hmem hid]
  exact hcompleted

/-! ## The next lease -/

section Lease

variable {scan : String → ℕ} {now : ℕ}
variable {row : ResearchJobStep × ResearchJob} {step candidate : ResearchJobStep}
variable {owner : ResearchJob}

theorem mem_of_leaseCandidate (h : store.leaseCandidate scan now = some row) :
    row ∈ store.joined ∧ store.leasable now row = true :=
  mem_filter.mp ((mem_insertionSort _).mp (mem_of_head? h))

theorem leaseCandidate_eq_none_iff :
    store.leaseCandidate scan now = none ↔
      ∀ row ∈ store.joined, store.leasable now row = false := by
  unfold leaseCandidate
  rw [List.head?_eq_none_iff, ← length_eq_zero_iff, length_insertionSort,
    length_eq_zero_iff, filter_eq_nil_iff]
  simp only [Bool.not_eq_true]

theorem eq_front_of_leasable (hsound : store.Sound) (hstep : step ∈ store.steps.rows)
    (hopen : step.status ≠ .completed)
    (hearlier : ∀ earlier ∈ store.steps.rows, earlier.jobId = step.jobId →
      earlier.stepIndex < step.stepIndex → earlier.status = .completed)
    (hothers : ∀ row ∈ store.joined, row.1.jobId ≠ step.jobId → store.leasable now row = false)
    (hrow : row ∈ store.joined) (hleasable : store.leasable now row = true) : row.1 = step := by
  have hjob : row.1.jobId = step.jobId := by
    by_contra hother
    rw [hothers row hrow hother] at hleasable
    cases hleasable
  obtain ⟨found, hmem, hpair⟩ := mem_filterMap.mp hrow
  obtain ⟨owner, -, rfl⟩ := Option.map_eq_some_iff.mp hpair
  unfold leasable at hleasable
  simp only [Bool.and_eq_true] at hleasable
  rcases lt_trichotomy found.stepIndex step.stepIndex with hless | hsame | hgreater
  · have hcompleted := hearlier found hmem hjob hless
    simp [hcompleted] at hleasable
  · exact inj_on_of_nodup_map hsound.unique hmem hstep (Prod.ext hjob hsame)
  · have hall := hleasable.2
    simp only [earlierCompleted, Bool.not_eq_true', any_eq_false] at hall
    exact absurd (by simp [hjob.symm, hgreater, hopen]) (hall step hstep)

/-- A queued step whose earlier steps are completed is the candidate, if no other job waits. -/
theorem leaseCandidate_of_front (hsound : store.Sound) {job : ResearchJob}
    (hstep : step ∈ store.steps.rows) (hqueued : step.status = .queued)
    (hjob : job ∈ store.jobs.rows) (hid : job.id = step.jobId) (hwaits : job.status = .queued)
    (hearlier : ∀ earlier ∈ store.steps.rows, earlier.jobId = step.jobId →
      earlier.stepIndex < step.stepIndex → earlier.status = .completed)
    (hothers : ∀ row ∈ store.joined, row.1.jobId ≠ step.jobId → store.leasable now row = false) :
    ∃ owner, store.leaseCandidate scan now = some (step, owner) := by
  have hopen : step.status ≠ .completed := hqueued ▸ ResearchStepStatus.noConfusion
  have hjoined : (step, job) ∈ store.joined := by
    refine mem_filterMap.mpr ⟨step, hstep, ?_⟩
    rw [KeyedTable.find?_eq_some_iff.mpr ⟨hjob, hid⟩]
    rfl
  have hall : store.earlierCompleted step = true := by
    simp only [earlierCompleted, Bool.not_eq_true', any_eq_false]
    intro previous hprevious
    simp only [Bool.and_eq_true, decide_eq_true_eq, not_and, not_not]
    exact fun hprior => hearlier previous hprevious hprior.1 hprior.2
  cases hcandidate : store.leaseCandidate scan now with
  | none =>
    have hnot := leaseCandidate_eq_none_iff.mp hcandidate (step, job) hjoined
    simp [leasable, hqueued, hwaits, hall] at hnot
  | some row =>
    obtain ⟨hrow, hleasable⟩ := mem_of_leaseCandidate hcandidate
    have hsame := eq_front_of_leasable hsound hstep hopen hearlier hothers hrow hleasable
    exact ⟨row.2, by rw [← hsame]⟩

variable {workerId : String} {leaseDurationMs : ℕ}

theorem leaseNext_of_none (hcandidate : store.leaseCandidate scan now = none)
    (hworker : isBlank workerId = false) (hduration : leaseDurationMs ≠ 0)
    (hfits : leaseUntil now leaseDurationMs < 2 ^ 63) :
    store.leaseNextResearchStepAt scan workerId now leaseDurationMs = .ok (none, store) := by
  have hnow : now < 2 ^ 63 := by
    unfold leaseUntil at hfits
    omega
  unfold leaseNextResearchStepAt
  rw [if_neg (by simp [hworker]), if_neg hduration, sqlInteger, if_pos hnow]
  dsimp only [bind, Except.bind]
  rw [hcandidate]

theorem commit_lease {p : ResearchJob → Bool} {f : ResearchJob → ResearchJob}
    {hf : ∀ job, (f job).id = job.id} {q : ResearchJobStep → Bool}
    {g : ResearchJobStep → ResearchJobStep} {hg : ∀ step, (g step).id = step.id}
    (hstep : candidate ∈ store.steps.rows) (hjob : owner ∈ store.jobs.rows) :
    ∃ lease : ResearchStepLease, lease.step.id = candidate.id ∧
      (((store.updateResearchSteps q g hg).updateResearchJobs p f hf).commit fun leased => do
        let job ← leased.queryResearchJob owner.id
        let step ← leased.queryResearchStep candidate.id
        return some { job := job, step := step }) =
      .ok (some lease, (store.updateResearchSteps q g hg).updateResearchJobs p f hf) := by
  obtain ⟨job, hfindJob, -⟩ := @KeyedTable.exists_find?_update _ _ _ _ _ _ p f hf hjob
  obtain ⟨step, hfindStep, hid⟩ := @KeyedTable.exists_find?_update _ _ _ _ _ _ q g hg hstep
  refine ⟨{ job, step }, hid, ?_⟩
  dsimp only [commit, queryResearchJob, queryResearchStep, updateResearchJobs,
    updateResearchSteps]
  rw [hfindJob, hfindStep]
  rfl

theorem leaseNext_of_candidate
    (hcandidate : store.leaseCandidate scan now = some (candidate, owner))
    (hworker : isBlank workerId = false) (hduration : leaseDurationMs ≠ 0)
    (hfits : leaseUntil now leaseDurationMs < 2 ^ 63) :
    ∃ reply store', store.leaseNextResearchStepAt scan workerId now leaseDurationMs =
        .ok (reply, store') ∧
      (reply.map (·.step.id) = some candidate.id ∨ reply = none) ∧
      (reply.isSome = true ↔ candidate.attempts < researchStepMaxAttempts) := by
  obtain ⟨hstep, hjob, -⟩ := leaseCandidate_spec hcandidate
  have hnow : now < 2 ^ 63 := by
    unfold leaseUntil at hfits
    omega
  unfold leaseNextResearchStepAt
  rw [if_neg (by simp [hworker]), if_neg hduration, sqlInteger, if_pos hnow]
  dsimp only [bind, Except.bind]
  rw [hcandidate]
  dsimp only
  by_cases hpoison : candidate.attempts ≥ researchStepMaxAttempts
  · rw [if_pos hpoison]
    exact ⟨none, _, rfl, .inr rfl, by simpa using hpoison⟩
  · rw [if_neg hpoison, sqlInteger, if_pos hfits]
    exact Exists.elim (commit_lease hstep hjob) fun lease hlease =>
      ⟨some lease, _, hlease.2, .inl (congrArg some hlease.1), by simpa using hpoison⟩

end Lease

theorem attempts_retryBy {path : RetryPath} {step step' : ResearchJobStep} {time : ℕ}
    (hstep : step ∈ store.steps.rows) (h : store.retryBy path step time = .ok store')
    (hstep' : step' ∈ store'.steps.rows) (hid : step'.id = step.id) :
    step'.attempts = step.attempts := by
  have hcount : (step'.id, step'.attempts) ∈ store'.leaseCounts :=
    mem_map.mpr ⟨step', hstep', rfl⟩
  rw [leaseCounts_retryBy h] at hcount
  obtain ⟨old, hold, heq⟩ := mem_map.mp hcount
  obtain ⟨hsame, hattempts⟩ := Prod.mk.inj heq
  rw [KeyedTable.eq_of_key hstep hold (hid.symm.trans hsame.symm), hattempts]

end ResearchStore

/-- In every reachable store, a failed, blocked or cancelled step whose earlier steps are completed
is leased next after an operator's retry, if no other job waits, exactly if the retry does not
resume a paused job and the step was leased less than the maximal number of times. -/
theorem retry_leases_step_iff (store after : ResearchStore)
    (hrun : researchSystem.Run (fun _ _ _ _ => True) ((), .new) () store)
    (step : ResearchJobStep) (hstep : step ∈ store.steps.rows)
    (hstatus : step.status ∈ [ResearchStepStatus.failed, .blocked, .cancelled])
    (hearlier : ∀ earlier ∈ store.steps.rows, earlier.jobId = step.jobId →
      earlier.stepIndex < step.stepIndex → earlier.status = .completed)
    (path : RetryPath) (retriedAt : ℕ) (haccepted : store.retryBy path step retriedAt = .ok after)
    (scan : String → ℕ) (workerId : String) (now leaseDurationMs : ℕ)
    (hothers : ∀ row ∈ after.joined, row.1.jobId ≠ step.jobId → after.leasable now row = false)
    (hworker : isBlank workerId = false) (hduration : leaseDurationMs ≠ 0)
    (hfits : leaseUntil now leaseDurationMs < 2 ^ 63) :
    (∃ lease leased, after.leaseNextResearchStepAt scan workerId now leaseDurationMs =
        .ok (some lease, leased) ∧ lease.step.id = step.id) ↔
      ¬store.ResumesPaused path step ∧ step.attempts < researchStepMaxAttempts := by
  have hrequeues := ResearchStore.requeues_retryBy (sound_of_run hrun) hstep hstatus haccepted
  have hsound := hrequeues.moves.sound
  have hprior := hrequeues.earlier_completed hearlier
  obtain ⟨job, hjob, howner, hwaits⟩ := hrequeues.job
  obtain ⟨step', hstep', hid, hplace, hcase⟩ := hrequeues.step
  obtain ⟨hjobId, hindex⟩ := Prod.mk.inj hplace
  have hattempts := ResearchStore.attempts_retryBy hstep haccepted hstep' hid
  rw [← hjobId, ← hindex] at hprior
  rw [← hjobId] at hothers howner
  rcases hcase with ⟨hqueued, hnot⟩ | ⟨hsame, hresumes⟩
  · obtain ⟨owner, hcandidate⟩ := ResearchStore.leaseCandidate_of_front hsound hstep' hqueued hjob
      howner hwaits hprior hothers
    obtain ⟨reply, leased, hlease, hreply, hsome⟩ :=
      ResearchStore.leaseNext_of_candidate hcandidate hworker hduration hfits
    rw [hattempts] at hsome
    rw [hid] at hreply
    rw [hlease, ← hsome]
    cases reply with
    | none => simp
    | some lease => simpa [hnot] using hreply
  · have hfailed : ∀ row ∈ after.joined, after.leasable now row = false := by
      intro row hrow
      by_contra hleasable
      rw [Bool.not_eq_false] at hleasable
      have hopen : step'.status ≠ .completed := by
        intro hcompleted
        rw [hsame] at hcompleted
        simp [hcompleted] at hstatus
      have hfront := ResearchStore.eq_front_of_leasable hsound hstep' hopen hprior hothers hrow
        hleasable
      unfold ResearchStore.leasable at hleasable
      rw [hfront, hsame] at hleasable
      simp only [mem_cons, not_mem_nil, or_false] at hstatus
      rcases hstatus with hstatus | hstatus | hstatus <;> simp [hstatus] at hleasable
    have hreply := ResearchStore.leaseNext_of_none
      (ResearchStore.leaseCandidate_eq_none_iff.mpr hfailed : after.leaseCandidate scan now = none)
      hworker hduration hfits
    rw [hreply]
    simp [hresumes]

/-- A step that failed on its first lease is retried and leased again. -/
theorem retry_leases_step_sample :
    ∃ (store after : ResearchStore) (step : ResearchJobStep),
      step ∈ store.steps.rows ∧ step.status = .failed ∧
        store.retryBy .retryStep step 5000 = .ok after ∧
        ∃ lease leased, after.leaseNextResearchStepAt (fun _ => 0) "worker" 6000 1000 =
          .ok (some lease, leased) ∧ lease.step.id = step.id := by
  have hfollow : (researchSystem.follow (fun _ _ _ _ => true)
      [.elsewhere ["user"] [] [],
        .createResearchJob "export" none "user" 0 none 1000 "job" Nat.repr,
        .leaseNextResearchStepAt (fun _ => 0) "worker" 2000 1000,
        .failResearchStepAt "0" "worker" "no space left" false 2500]
      ((), .new)).any (fun reached => decide (∃ step ∈ reached.2.steps.rows,
        step.status = .failed ∧ step.stepIndex = 0 ∧ step.attempts = 1 ∧
          (∀ other ∈ reached.2.steps.rows, 0 ≤ other.stepIndex) ∧
          (match reached.2.retryBy .retryStep step 5000 with
            | .ok after => after.joined.all fun row => row.1.jobId = step.jobId
            | .error _ => false) = true)) = true := by
    decide +kernel
  obtain ⟨_, store, hrun, hproperty⟩ := System.exists_run_of_follow hfollow
    fun _ _ _ _ _ => trivial
  obtain ⟨step, hstep, hfailed, hindex, hattempts, hfirst, hretry⟩ := of_decide_eq_true hproperty
  cases haccepted : store.retryBy .retryStep step 5000 with
  | error error => simp [haccepted] at hretry
  | ok after =>
    rw [haccepted] at hretry
    refine ⟨store, after, step, hstep, hfailed, haccepted, ?_⟩
    have hearlier : ∀ earlier ∈ store.steps.rows, earlier.jobId = step.jobId →
        earlier.stepIndex < step.stepIndex → earlier.status = .completed := by
      intro earlier hmem _ hless
      exact absurd (hfirst earlier hmem) (by omega)
    have hothers : ∀ row ∈ after.joined, row.1.jobId ≠ step.jobId →
        after.leasable 6000 row = false := by
      intro row hrow hother
      exact absurd (by simpa using all_eq_true.mp hretry row hrow) hother
    exact (retry_leases_step_iff store after hrun step hstep (by simp [hfailed]) hearlier
      .retryStep 5000 haccepted (fun _ => 0) "worker" 6000 1000 hothers (by decide) (by decide)
      (by decide)).mpr ⟨by simp [ResearchStore.ResumesPaused], by simp [hattempts,
        researchStepMaxAttempts]⟩

/-- A step whose fifth lease failed: the operator retries its job, and the next lease pass fails it
again instead of leasing it. -/
theorem retried_step_poisoned :
    ∃ store : ResearchStore,
      researchSystem.Run (fun _ _ _ _ => True) ((), .new) () store ∧
      ∃ step ∈ store.steps.rows, step.status = .failed ∧ step.stepIndex = 0 ∧
        ∃ after, store.retryBy .retryJob step 11000 = .ok after ∧
          after.steps.rows.map (·.status) = [.queued, .queued, .queued, .queued] ∧
          ∃ failed, after.leaseNextResearchStepAt (fun _ => 0) "worker" 12000 1000 =
              .ok (none, failed) ∧
            failed.steps.rows.map (·.status) = [.failed, .queued, .queued, .queued] := by
  have hfollow : (researchSystem.follow (fun _ _ _ _ => true)
      [.elsewhere ["user"] [] [],
        .createResearchJob "export" none "user" 0 none 1000 "job" Nat.repr,
        .leaseNextResearchStepAt (fun _ => 0) "worker" 2000 1000,
        .leaseNextResearchStepAt (fun _ => 0) "worker" 4000 1000,
        .leaseNextResearchStepAt (fun _ => 0) "worker" 6000 1000,
        .leaseNextResearchStepAt (fun _ => 0) "worker" 8000 1000,
        .leaseNextResearchStepAt (fun _ => 0) "worker" 10000 1000,
        .failResearchStepAt "0" "worker" "no space left" false 10500]
      ((), .new)).any (fun reached => decide (∃ step ∈ reached.2.steps.rows,
        step.status = .failed ∧ step.stepIndex = 0 ∧
          ((reached.2.retryBy .retryJob step 11000).toOption.any fun after =>
            after.steps.rows.map (·.status) = [.queued, .queued, .queued, .queued] &&
              (after.leaseNextResearchStepAt (fun _ => 0) "worker" 12000 1000).toOption.any
                fun leased => leased.1.isNone &&
                  leased.2.steps.rows.map (·.status) = [.failed, .queued, .queued, .queued]) =
            true)) = true := by
    decide +kernel
  obtain ⟨_, store, hrun, hproperty⟩ := System.exists_run_of_follow hfollow
    fun _ _ _ _ _ => trivial
  obtain ⟨step, hstep, hfailed, hindex, hretry⟩ := of_decide_eq_true hproperty
  obtain ⟨after, haccepted, hretry⟩ := exists_ok_of_any hretry
  obtain ⟨hqueued, hlease⟩ := Bool.and_eq_true_iff.mp hretry
  obtain ⟨⟨leased, failed⟩, hpoisoned, hlease⟩ := exists_ok_of_any hlease
  obtain ⟨hnone, hstatuses⟩ := Bool.and_eq_true_iff.mp hlease
  cases Option.isNone_iff_eq_none.mp hnone
  exact ⟨store, hrun, step, hstep, hfailed, hindex, after, haccepted, of_decide_eq_true hqueued,
    failed, hpoisoned, of_decide_eq_true hstatuses⟩

end BubaPaint
