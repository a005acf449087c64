import BubaPaint.Dashboard.ResearchChanges

/-!
# What a research operation changes

The steps of a job are the stages of a pipeline. Every operation lets these pipelines advance, keeps
the completed steps as they are, and completes a job together with its last step.

Main results:

- Theorem `Sound.moves_assigns`: what giving statuses does to the pipelines.
-/

namespace BubaPaint

open Effects List
open ResearchJobStep (progress_eq_active_iff progress_eq_done_iff)

namespace ResearchStore

def pipeline (store : ResearchStore) (jobId : String) : Pipeline ℤ := fun index =>
  (store.steps.rows.find? fun step => step.place = (jobId, index)).map (·.status.progress)

/-- What every operation keeps: no two steps have one place, every step has a job, the steps are
worked on in order, and a job is completed with all of its steps. -/
structure Sound (store : ResearchStore) : Prop where
  unique : (store.steps.rows.map (·.place)).Nodup
  owned : ∀ step ∈ store.steps.rows, ∃ job ∈ store.jobs.rows, job.id = step.jobId
  inOrder : ∀ jobId, (store.pipeline jobId).InOrder
  finished : ∀ job ∈ store.jobs.rows, job.status = .completed ↔
    ∀ step ∈ store.steps.rows, step.jobId = job.id → step.status = .completed

/-- What every operation does: the store stays sound, and the completed steps stay as they are. -/
structure Moves (store store' : ResearchStore) : Prop where
  sound : store'.Sound
  kept : ∀ step ∈ store.steps.rows, step.status = .completed → step ∈ store'.steps.rows

variable {store store' : ResearchStore} {jobId : String}
variable {step reply : ResearchJobStep} {job : ResearchJob} {jobStatus : ResearchJobStatus}
variable {stepStatus : ResearchStepStatus} {stepId workerId : String} {outputJson : Option String}
variable {now : ℕ}

theorem Sound.moves_refl (h : store.Sound) : store.Moves store :=
  ⟨h, fun _ hstep _ => hstep⟩

theorem mem_of_pipeline {index : ℤ} {progress : Progress}
    (h : store.pipeline jobId index = some progress) :
    ∃ step ∈ store.steps.rows, step.place = (jobId, index) ∧ step.status.progress = progress := by
  obtain ⟨step, hfind, hprogress⟩ := Option.map_eq_some_iff.mp h
  exact ⟨step, mem_of_find?_eq_some hfind, by simpa using List.find?_some hfind, hprogress⟩

theorem pipeline_of_mem (hunique : (store.steps.rows.map (·.place)).Nodup)
    (hstep : step ∈ store.steps.rows) :
    store.pipeline step.jobId step.stepIndex = some step.status.progress := by
  unfold pipeline
  cases hfind : store.steps.rows.find? fun other =>
      other.place = (step.jobId, step.stepIndex) with
  | none =>
    have hnone := List.find?_eq_none.mp hfind step hstep
    simp [ResearchJobStep.place] at hnone
  | some found =>
    have hplace : found.place = (step.jobId, step.stepIndex) := by
      simpa using List.find?_some hfind
    rw [inj_on_of_nodup_map hunique (mem_of_find?_eq_some hfind) hstep hplace]
    rfl

theorem inOrder_iff (hunique : (store.steps.rows.map (·.place)).Nodup) :
    (store.pipeline jobId).InOrder ↔
      ∀ step ∈ store.steps.rows, step.jobId = jobId →
        step.IsActive ∨ step.status = .completed →
          ∀ earlier ∈ store.steps.rows, earlier.jobId = jobId →
            earlier.stepIndex < step.stepIndex → earlier.status = .completed := by
  constructor
  · rintro horder step hstep rfl hstarted earlier hearlier hjob hless
    have hbefore := hjob ▸ pipeline_of_mem hunique hearlier
    rw [← progress_eq_done_iff]
    refine horder step.stepIndex ?_ earlier.stepIndex hless _ hbefore
    rw [pipeline_of_mem hunique hstep]
    rcases hstarted with hactive | hdone
    · exact .inl (congrArg some (progress_eq_active_iff.mpr hactive))
    · exact .inr (congrArg some (progress_eq_done_iff.mpr hdone))
  · intro horder index hstarted before hless progress hprogress
    obtain ⟨earlier, hearlier, hplace, rfl⟩ := mem_of_pipeline hprogress
    obtain ⟨hjob, rfl⟩ := Prod.mk.inj hplace
    have hstep : ∃ step ∈ store.steps.rows, step.place = (jobId, index) ∧
        (step.IsActive ∨ step.status = .completed) := by
      rcases hstarted with hactive | hdone
      · obtain ⟨step, hstep, hplace', hprogress'⟩ := mem_of_pipeline hactive
        exact ⟨step, hstep, hplace', .inl (progress_eq_active_iff.mp hprogress')⟩
      · obtain ⟨step, hstep, hplace', hprogress'⟩ := mem_of_pipeline hdone
        exact ⟨step, hstep, hplace', .inr (progress_eq_done_iff.mp hprogress')⟩
    obtain ⟨step, hmem, hplace', hstarted'⟩ := hstep
    obtain ⟨hjob', rfl⟩ := Prod.mk.inj hplace'
    exact progress_eq_done_iff.mpr (horder step hmem hjob' hstarted' earlier hearlier hjob hless)

theorem reached_of_earlierCompleted (h : store.earlierCompleted step = true) :
    (store.pipeline step.jobId).Reached step.stepIndex := by
  intro index hless progress hprogress
  obtain ⟨earlier, hearlier, hplace, rfl⟩ := mem_of_pipeline hprogress
  obtain ⟨hjob, rfl⟩ := Prod.mk.inj hplace
  rw [progress_eq_done_iff]
  unfold earlierCompleted at h
  by_contra hopen
  have hany : (store.steps.rows.any fun previous =>
      previous.jobId = step.jobId && previous.stepIndex < step.stepIndex &&
        previous.status ≠ .completed) = true :=
    any_eq_true.mpr ⟨earlier, hearlier, by simp [hjob, hless, hopen]⟩
  rw [hany] at h
  cases h

/-- How the rows of a store may be rewritten. -/
structure Rewrites (store : ResearchStore) (f : ResearchJob → ResearchJob)
    (g : ResearchJobStep → ResearchJobStep) : Prop where
  jobId : ∀ job ∈ store.jobs.rows, (f job).id = job.id
  place : ∀ step, (g step).place = step.place
  kept : ∀ step ∈ store.steps.rows, step.status = .completed → g step = step
  starts : ∀ step ∈ store.steps.rows, (g step).IsActive →
    step.IsActive ∨ store.earlierCompleted step = true
  finishes : ∀ step ∈ store.steps.rows, (g step).status = .completed →
    step.status = .completed ∨ step.IsActive
  finished : ∀ job ∈ store.jobs.rows, (f job).status = .completed ↔
    ∀ step ∈ store.steps.rows, step.jobId = job.id → (g step).status = .completed

variable {f : ResearchJob → ResearchJob} {g : ResearchJobStep → ResearchJobStep}

theorem pipeline_map (hsteps : store'.steps.rows = store.steps.rows.map g)
    (hplace : ∀ step, (g step).place = step.place) (index : ℤ) :
    store'.pipeline jobId index =
      (store.steps.rows.find? fun step => step.place = (jobId, index)).map
        fun step => (g step).status.progress := by
  unfold pipeline
  rw [hsteps, List.find?_map, Option.map_map]
  have hsame : ((fun step : ResearchJobStep => decide (step.place = (jobId, index))) ∘ g) =
      fun step => decide (step.place = (jobId, index)) := by
    funext step
    simp [hplace]
  rw [hsame]
  rfl

theorem Rewrites.advances (h : store.Rewrites f g)
    (hsteps : store'.steps.rows = store.steps.rows.map g) (jobId : String) :
    Pipeline.Advances (store.pipeline jobId) (store'.pipeline jobId) := by
  have hfound : ∀ {index : ℤ} {step : ResearchJobStep},
      (store.steps.rows.find? fun step => step.place = (jobId, index)) = some step →
        step ∈ store.steps.rows ∧ step.jobId = jobId ∧ step.stepIndex = index := by
    intro index step hfind
    have hplace : step.place = (jobId, index) := by simpa using List.find?_some hfind
    exact ⟨mem_of_find?_eq_some hfind, Prod.mk.inj hplace⟩
  refine ⟨fun index => ?_, fun index hdone => ?_, fun index hactive => ?_, fun index hdone => ?_⟩
  · rw [pipeline_map hsteps h.place]
    unfold pipeline
    rw [Option.isSome_map, Option.isSome_map]
  · obtain ⟨step, hfind, hprogress⟩ := Option.map_eq_some_iff.mp hdone
    rw [pipeline_map hsteps h.place, hfind, Option.map_some,
      h.kept step (hfound hfind).1 (progress_eq_done_iff.mp hprogress), hprogress]
  · rw [pipeline_map hsteps h.place] at hactive
    obtain ⟨step, hfind, hprogress⟩ := Option.map_eq_some_iff.mp hactive
    obtain ⟨hmem, rfl, rfl⟩ := hfound hfind
    rcases h.starts step hmem (progress_eq_active_iff.mp hprogress) with
      hbefore | hearlier
    · left
      unfold pipeline
      rw [hfind]
      exact congrArg some (progress_eq_active_iff.mpr hbefore)
    · exact .inr (reached_of_earlierCompleted hearlier)
  · rw [pipeline_map hsteps h.place] at hdone
    obtain ⟨step, hfind, hprogress⟩ := Option.map_eq_some_iff.mp hdone
    unfold pipeline
    rw [hfind]
    rcases h.finishes step (hfound hfind).1 (progress_eq_done_iff.mp hprogress) with
      hbefore | hbefore
    · exact .inl (congrArg some (progress_eq_done_iff.mpr hbefore))
    · exact .inr (congrArg some (progress_eq_active_iff.mpr hbefore))

/-- Rewritten rows are sound. -/
theorem moves_of_map (hsound : store.Sound) (h : store.Rewrites f g)
    (hjobs : store'.jobs.rows = store.jobs.rows.map f)
    (hsteps : store'.steps.rows = store.steps.rows.map g) : store.Moves store' := by
  refine ⟨⟨?_, ?_, ?_, ?_⟩, ?_⟩
  · rw [hsteps, map_map]
    have hsame : ((·.place) ∘ g) = ResearchJobStep.place := by
      funext step
      exact h.place step
    rw [hsame]
    exact hsound.unique
  · rw [hsteps, hjobs, forall_mem_map]
    intro step hstep
    obtain ⟨job, hjob, howner⟩ := hsound.owned step hstep
    refine ⟨f job, mem_map_of_mem hjob, ?_⟩
    rw [h.jobId job hjob, howner]
    exact (congrArg Prod.fst (h.place step)).symm
  · exact fun jobId => (hsound.inOrder jobId).advance (h.advances hsteps jobId)
  · rw [hsteps, hjobs, forall_mem_map]
    intro job hjob
    rw [forall_mem_map, h.finished job hjob]
    refine forall₂_congr fun step hstep => ?_
    have hplace : (g step).jobId = step.jobId := congrArg Prod.fst (h.place step)
    rw [h.jobId job hjob, hplace]
  · intro step hstep hcompleted
    rw [hsteps]
    exact mem_map.mpr ⟨step, hstep, h.kept step hstep hcompleted⟩

/-! ## Updates -/

theorem Sound.not_completed (hsound : store.Sound) (hjob : job ∈ store.jobs.rows)
    (hstep : step ∈ store.steps.rows) (howner : step.jobId = job.id)
    (hopen : step.status ≠ .completed) : job.status ≠ .completed :=
  fun hdone => hopen ((hsound.finished job hjob).mp hdone step hstep howner)

theorem Sound.exists_open (hsound : store.Sound) (hjob : job ∈ store.jobs.rows)
    (hopen : job.status ≠ .completed) :
    ∃ step ∈ store.steps.rows, step.jobId = job.id ∧ step.status ≠ .completed := by
  by_contra hnone
  push Not at hnone
  exact hopen ((hsound.finished job hjob).mpr hnone)

section Assigns

variable (hsound : store.Sound) {p : ResearchJob → Bool} {q : ResearchJobStep → Bool}
  (h : store.Assigns store' p jobStatus q stepStatus)

include hsound h

section OneJob

variable (hopen : ∃ step ∈ store.steps.rows, step.jobId = jobId ∧ step.status ≠ .completed)
  (hjobs : ∀ job, p job = true → job.id = jobId) (hjob : jobStatus ≠ .completed)
  (hsteps : ∀ step ∈ store.steps.rows, q step = true →
    step.jobId = jobId ∧ step.status ≠ .completed)

include hopen hjobs hjob hsteps

/-- An operation on a job with a step that is not completed: it changes the job and such steps of
it only, completes none of them, and starts none out of order. -/
theorem Sound.moves_assigns (hstep : stepStatus ≠ .completed)
    (hstarts : stepStatus.progress = .active → ∀ step ∈ store.steps.rows, q step = true →
      store.earlierCompleted step = true) :
    store.Moves store' := by
  rcases h.jobs with ⟨f, hf, hjobRows⟩
  rcases h.steps with ⟨g, hg, hstepRows⟩
  refine moves_of_map hsound
    { jobId := ?_, place := ?_, kept := ?_, starts := ?_, finishes := ?_, finished := ?_ }
    hjobRows hstepRows
  · intro job _
    by_cases hp : p job = true
    · simp [hp, hf]
    · simp [hp]
  · intro step
    by_cases hq : q step = true
    · simp [hq, hg]
    · simp [hq]
  · intro step hmem hcompleted
    by_cases hq : q step = true
    · exact absurd hcompleted (hsteps step hmem hq).2
    · simp [hq]
  · intro step hmem hactive
    by_cases hq : q step = true
    · rw [if_pos hq, ← progress_eq_active_iff, (hg step).2.2.1] at hactive
      exact .inr (hstarts hactive step hmem hq)
    · rw [if_neg hq] at hactive
      exact .inl hactive
  · intro step hmem hcompleted
    by_cases hq : q step = true
    · rw [if_pos hq, (hg step).2.2.1] at hcompleted
      exact absurd hcompleted hstep
    · rw [if_neg hq] at hcompleted
      exact .inl hcompleted
  · intro job hmem
    rcases hopen with ⟨waiting, hwaiting, howner, hnot⟩
    by_cases hid : job.id = jobId
    · -- Neither the job nor its open step is completed.
      have hjobOpen : (if p job = true then f job else job).status ≠ .completed := by
        by_cases hp : p job = true
        · simpa [hp, hf] using hjob
        · simpa [hp] using hsound.not_completed hmem hwaiting (howner.trans hid.symm) hnot
      refine iff_of_false hjobOpen fun hall => ?_
      have hdone := hall waiting hwaiting (howner.trans hid.symm)
      by_cases hq : q waiting = true
      · rw [if_pos hq, (hg waiting).2.2.1] at hdone
        exact hstep hdone
      · rw [if_neg hq] at hdone
        exact hnot hdone
    · have hp : ¬ p job = true := fun hp => hid (hjobs job hp)
      rw [if_neg hp, hsound.finished job hmem]
      refine forall₂_congr fun step hstepMem => forall_congr' fun hstepOwner => ?_
      have hq : ¬ q step = true := fun hq =>
        hid (hstepOwner.symm.trans (hsteps step hstepMem hq).1)
      rw [if_neg hq]

theorem Sound.moves_wait (hwait : stepStatus.progress = .waiting) : store.Moves store' := by
  refine hsound.moves_assigns h hopen hjobs hjob hsteps (fun hcompleted => ?_) fun hactive => ?_
  · rw [hcompleted] at hwait
    cases hwait
  · rw [hwait] at hactive
    cases hactive

end OneJob

theorem Sound.moves_waitStep {existing : ResearchJobStep} (hmem : existing ∈ store.steps.rows)
    (hopen : existing.status ≠ .completed) (hjobs : ∀ job, p job = true → job.id = existing.jobId)
    (hjob : jobStatus ≠ .completed) (hsteps : ∀ step, q step = true → step.id = existing.id)
    (hwait : stepStatus.progress = .waiting) : store.Moves store' := by
  refine hsound.moves_wait h ⟨existing, hmem, rfl, hopen⟩ hjobs hjob (fun step hstep hq => ?_) hwait
  rw [KeyedTable.eq_of_key hstep hmem (hsteps step hq)]
  exact ⟨rfl, hopen⟩

end Assigns

theorem Sound.moves_relabels (hsound : store.Sound) (h : store.Relabels store') :
    store.Moves store' := by
  rcases h.jobs with ⟨f, hf, hrows⟩
  refine moves_of_map (g := id) hsound
    { jobId := fun job _ => (hf job).1, place := fun _ => rfl, kept := fun _ _ _ => rfl,
      starts := fun _ _ hactive => .inl hactive, finishes := fun _ _ hdone => .inl hdone,
      finished := fun job hjob => ?_ } hrows (by rw [h.steps, map_id])
  rw [(hf job).2]
  exact hsound.finished job hjob

theorem Sound.moves_holds (hsound : store.Sound) (h : store.Holds store' stepId workerId) :
    store.Moves store' := by
  rcases h.steps with ⟨g, hg, hrows⟩
  have hheld : ∀ {step : ResearchJobStep},
      (step.id = stepId && step.HeldBy workerId : Bool) = true → step.IsActive := by
    intro step hselected
    simp only [Bool.and_eq_true, decide_eq_true_eq] at hselected
    exact hselected.2.2
  have hcompleted : ∀ step : ResearchJobStep,
      (if (step.id = stepId && step.HeldBy workerId : Bool) = true then g step else step).status =
        .completed ↔ step.status = .completed := by
    intro step
    split
    · rename_i hselected
      have hbefore := hheld hselected
      exact iff_of_false ((hg step).2.2.2 hbefore).not_completed hbefore.not_completed
    · exact Iff.rfl
  refine moves_of_map (f := id) hsound
    { jobId := fun _ _ => rfl, place := ?_, kept := ?_, starts := ?_, finishes := ?_,
      finished := ?_ } (by rw [h.jobs, map_id]) hrows
  · intro step
    split
    · exact (hg step).2.1
    · rfl
  · intro step _ hdone
    refine if_neg fun hselected => ?_
    exact (hheld hselected).not_completed hdone
  · intro step _ hafter
    split at hafter
    · rename_i hselected
      exact .inl (hheld hselected)
    · exact .inl hafter
  · exact fun step _ hdone => .inl ((hcompleted step).mp hdone)
  · intro job hjob
    refine (hsound.finished job hjob).trans ?_
    exact forall₂_congr fun step _ => forall_congr' fun _ => (hcompleted step).symm

/-! ## Completion -/

def completeStep (stepId workerId : String) (outputJson : Option String) (now : ℕ)
    (step : ResearchJobStep) : ResearchJobStep :=
  if step.id = stepId ∧ step.leaseOwner = some workerId then
    { step with
      status := .completed
      outputJson := outputJson
      leaseOwner := none
      leasedUntilMs := none
      completedAt := some now
      updatedAt := now }
  else step

@[simp]
theorem place_completeStep (step : ResearchJobStep) :
    (completeStep stepId workerId outputJson now step).place = step.place := by
  unfold completeStep
  split <;> rfl

@[simp]
theorem jobId_completeStep (step : ResearchJobStep) :
    (completeStep stepId workerId outputJson now step).jobId = step.jobId :=
  congrArg Prod.fst (place_completeStep step)

/-- The report of a completed step changes nothing, or it comes from the worker that holds the lease
and completes the step, and with the last step the job. -/
theorem completeResearchStepAt_eq_ok
    (h : store.completeResearchStepAt stepId workerId outputJson now = .ok (reply, store')) :
    store' = store ∨
      ∃ existing ∈ store.steps.rows, existing.id = stepId ∧ existing.HeldBy workerId ∧
        store'.steps.rows = store.steps.rows.map (completeStep stepId workerId outputJson now) ∧
        store'.jobs.rows = store.jobs.rows.map fun job =>
          if job.id = existing.jobId ∧ ∀ step ∈ store.steps.rows, step.jobId = existing.jobId →
              (completeStep stepId workerId outputJson now step).status = .completed then
            { job with status := .completed, completedAt := some now, updatedAt := now }
          else job := by
  obtain ⟨existing, hexisting, h⟩ := ok_of_bind h
  obtain ⟨hmem, hid⟩ := queryResearchStep_eq_ok hexisting
  by_cases hcompleted : existing.status = .completed
  · rw [if_pos hcompleted] at h
    cases h
    exact .inl rfl
  · rw [if_neg hcompleted] at h
    obtain ⟨_, hheld, h⟩ := ok_of_bind h
    obtain ⟨time, htime, h⟩ := ok_of_bind h
    rw [sqlInteger_eq_ok htime] at h
    right
    refine ⟨existing, hmem, hid, (require_eq_ok_iff.mp hheld).1, ?_⟩
    have hsteps : (store.updateResearchSteps
        (fun step => step.id = stepId && step.leaseOwner = some workerId) fun step =>
          { step with
            status := .completed
            outputJson := outputJson
            leaseOwner := none
            leasedUntilMs := none
            completedAt := some now
            updatedAt := now }).steps.rows =
        store.steps.rows.map (completeStep stepId workerId outputJson now) := by
      refine map_congr_left fun step _ => ?_
      unfold completeStep
      simp only [Bool.and_eq_true, decide_eq_true_eq]
    have hstore := commit_eq_ok h
    rw [hsteps, any_map] at hstore
    split at hstore
    · rename_i hopen
      rw [hstore]
      refine ⟨hsteps, ?_⟩
      obtain ⟨step, hstep, hnot⟩ := any_eq_true.mp hopen
      have hsome : ¬ ∀ step ∈ store.steps.rows, step.jobId = existing.jobId →
          (completeStep stepId workerId outputJson now step).status = .completed := by
        intro hall
        simp only [Function.comp_apply, Bool.and_eq_true, decide_eq_true_eq,
          jobId_completeStep] at hnot
        exact hnot.2 (hall step hstep hnot.1)
      have hsame : (fun job : ResearchJob =>
          if job.id = existing.jobId ∧ ∀ step ∈ store.steps.rows, step.jobId = existing.jobId →
              (completeStep stepId workerId outputJson now step).status = .completed then
            { job with status := .completed, completedAt := some now, updatedAt := now }
          else job) = id := by
        funext job
        rw [if_neg fun hjob => hsome hjob.2]
        rfl
      rw [hsame, map_id]
      rfl
    · rename_i hdone
      rw [hstore]
      refine ⟨hsteps, map_congr_left fun job _ => ?_⟩
      have hall : ∀ step ∈ store.steps.rows, step.jobId = existing.jobId →
          (completeStep stepId workerId outputJson now step).status = .completed := by
        intro step hstep howner
        by_contra hnot
        refine hdone (any_eq_true.mpr ⟨step, hstep, ?_⟩)
        simp only [Function.comp_apply, Bool.and_eq_true, decide_eq_true_eq, jobId_completeStep]
        exact ⟨howner, hnot⟩
      refine if_congr ?_ rfl rfl
      rw [decide_eq_true_eq]
      exact (and_iff_left hall).symm

theorem Sound.moves_complete (hsound : store.Sound)
    (h : store.completeResearchStepAt stepId workerId outputJson now = .ok (reply, store')) :
    store.Moves store' := by
  rcases completeResearchStepAt_eq_ok h with rfl | ⟨existing, hmem, hid, hheld, hsteps, hjobs⟩
  · exact hsound.moves_refl
  · have hselected : ∀ step ∈ store.steps.rows,
        step.id = stepId ∧ step.leaseOwner = some workerId → step = existing :=
      fun step hstep hstepId => KeyedTable.eq_of_key hstep hmem (hstepId.1.trans hid.symm)
    have hother : ∀ step ∈ store.steps.rows, step ≠ existing →
        completeStep stepId workerId outputJson now step = step := by
      intro step hstep hne
      exact if_neg fun hstepId => hne (hselected step hstep hstepId)
    refine moves_of_map hsound
      { jobId := ?_, place := place_completeStep, kept := ?_, starts := ?_, finishes := ?_,
        finished := ?_ } hjobs hsteps
    · intro job _
      split <;> rfl
    · intro step hstep hcompleted
      refine hother step hstep fun heq => ?_
      exact hheld.2.not_completed (heq ▸ hcompleted)
    · intro step hstep hactive
      by_cases heq : step = existing
      · exact .inl (heq ▸ hheld.2)
      · rw [hother step hstep heq] at hactive
        exact .inl hactive
    · intro step hstep hcompleted
      by_cases heq : step = existing
      · exact .inr (heq ▸ hheld.2)
      · rw [hother step hstep heq] at hcompleted
        exact .inl hcompleted
    · intro job hjob
      by_cases howner : job.id = existing.jobId
      · by_cases hall : ∀ step ∈ store.steps.rows, step.jobId = existing.jobId →
            (completeStep stepId workerId outputJson now step).status = .completed
        · rw [if_pos ⟨howner, hall⟩]
          exact iff_of_true rfl fun step hstep hjobId => hall step hstep (hjobId.trans howner)
        · rw [if_neg fun hboth => hall hboth.2]
          refine iff_of_false
            (hsound.not_completed hjob hmem howner.symm hheld.2.not_completed) fun hdone => ?_
          exact hall fun step hstep hjobId => hdone step hstep (hjobId.trans howner.symm)
      · rw [if_neg fun hboth => howner hboth.1, hsound.finished job hjob]
        refine forall₂_congr fun step hstep => forall_congr' fun hjobId => ?_
        rw [hother step hstep fun heq => howner (hjobId.symm.trans (congrArg _ heq))]

end ResearchStore

end BubaPaint
