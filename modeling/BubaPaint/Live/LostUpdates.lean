import BubaPaint.Live.Runtime

/-!
# Updates of the monitor

A monitor worker works on the copy taken at its spawn, and the merge writes the fields of the copy
back. An update survives a merge as far as the copy knows it: the fields a worker owns have not
changed since its spawn, and what a worker has noted is not thrown away with its copy.

Main results:

- Theorem `keepsMark_operatorInvariant`, `keepsOnset_operatorInvariant`: what a worker
  keeps on its copy
- Theorem `no_update_lost`: runs whose merges are fresh
- Theorem `blocker_lost`: a merge that unblocks submissions
-/

namespace BubaPaint

open Effects Method LiveTradingMonitor
open Program (Always Emits emits_bind emits_map)

def LiveTradingMonitor.highWaterMark? (self : LiveTradingMonitor) : Option ℚ :=
  self.risk.map LiveRiskMonitor.highWaterMark

def markLe (mark mark' : Option ℚ) : Prop :=
  ∀ x ∈ mark, ∃ y ∈ mark', x ≤ y

/-- An active degradation stays active since no later time. -/
def onsetLe (tracker tracker' : LiveDegradationTracker) : Prop :=
  ∀ d ∈ tracker.active, ∃ d' ∈ tracker'.active, d'.startedAtMs ≤ d.startedAtMs

/-- The active degradation, if any, is one of the refreshed reports. -/
def ofReports (tracker : LiveDegradationTracker) : Prop :=
  ∀ d ∈ tracker.active, d.kind = degradedKind

variable {tracker : LiveDegradationTracker}
variable (config : Config) (mark : Option ℚ) (monitor : LiveTradingMonitor)

theorem markLe.refl : markLe mark mark :=
  fun x hx => ⟨x, hx, le_rfl⟩

theorem markLe.trans {mark mark' mark'' : Option ℚ} (h : markLe mark mark')
    (h' : markLe mark' mark'') : markLe mark mark'' := by
  intro x hx
  obtain ⟨y, hy, hxy⟩ := h x hx
  obtain ⟨z, hz, hyz⟩ := h' y hy
  exact ⟨z, hz, hxy.trans hyz⟩

theorem onsetLe.refl (tracker : LiveDegradationTracker) : onsetLe tracker tracker :=
  fun d hd => ⟨d, hd, le_rfl⟩

theorem onsetLe.trans {tracker' tracker'' : LiveDegradationTracker} (h : onsetLe tracker tracker')
    (h' : onsetLe tracker' tracker'') : onsetLe tracker tracker'' := by
  intro d hd
  obtain ⟨d', hd', hle⟩ := h d hd
  obtain ⟨d'', hd'', hle'⟩ := h' d' hd'
  exact ⟨d'', hd'', hle'.trans hle⟩

theorem onsetLe_note (h : ofReports tracker) (detail : String) (nowMs thresholdMs : ℕ) :
    onsetLe tracker (tracker.note degradedKind detail nowMs thresholdMs).1 := by
  intro d hd
  have hactive : tracker.active = some d := hd
  refine ⟨{ d with latestDetail := detail }, ?_, le_rfl⟩
  simp [LiveDegradationTracker.note, hactive, h d hd]

theorem ofReports_note (h : ofReports tracker) (detail : String) (nowMs thresholdMs : ℕ) :
    ofReports (tracker.note degradedKind detail nowMs thresholdMs).1 := by
  intro d hd
  cases hactive : tracker.active with
  | none =>
    obtain rfl : _ = d := by simpa [LiveDegradationTracker.note, hactive] using hd
    rfl
  | some active =>
    have hkind := h active hactive
    obtain rfl : _ = d := by simpa [LiveDegradationTracker.note, hactive, hkind] using hd
    rfl

theorem markLe_markRiskTerminal (self : LiveTradingMonitor) (nowMs : ℕ) (reason : String) :
    markLe self.highWaterMark? (self.markRiskTerminal nowMs reason).highWaterMark? := by
  intro x hx
  obtain ⟨risk, hrisk, rfl⟩ := Option.map_eq_some_iff.mp hx
  refine ⟨risk.highWaterMark, ?_, le_rfl⟩
  simp [markRiskTerminal, highWaterMark?, hrisk]

/-- The copy never lowers the high-water mark. -/
theorem keepsMark_operatorInvariant :
    OperatorInvariant config fun self _ => markLe mark self.highWaterMark? where
  call _ _ _ _ _ hinv := hinv
  blocked _ hinv := hinv
  reports _ _ _ _ hinv := hinv
  failed _ _ _ _ _ hinv := hinv
  degraded _ _ _ hinv := hinv
  cleared _ hinv := hinv
  risk {self _} account hinv := by
    refine hinv.trans ?_
    intro x hx
    obtain ⟨risk, hrisk, rfl⟩ := Option.map_eq_some_iff.mp hx
    have hle := risk.highWaterMark_le_updateFromAccount account config
    refine ⟨_, ?_, hle⟩
    simp [updateRisk, highWaterMark?, hrisk]
  riskStart {self _} account hinv := by
    refine hinv.trans ?_
    intro x hx
    obtain ⟨risk, hrisk, rfl⟩ := Option.map_eq_some_iff.mp hx
    refine ⟨risk.highWaterMark, ?_, le_rfl⟩
    simp [highWaterMark?, hrisk]
  riskTerminal nowMs reason hinv := hinv.trans (markLe_markRiskTerminal _ nowMs reason)
  unwritten _ _ hinv := hinv
  unaudited _ _ _ _ hinv := hinv
  halted _ _ _ _ _ _ hinv := hinv
  moved _ _ _ _ _ _ _ hinv := hinv

/-- Unless a report was refused, the copy keeps the onset it started with until a healthy refresh. -/
def KeepsOnset (config : Config) (tracker : LiveDegradationTracker) (self : LiveTradingMonitor)
    (seen : List Exchange) : Prop :=
  reportFailed seen ∨
    ofReports self.degradation ∧
      (healthyRefresh config seen ∨ onsetLe tracker self.degradation)

theorem KeepsOnset.append {config : Config} {self : LiveTradingMonitor} {seen : List Exchange}
    (h : KeepsOnset config tracker self seen) (own : List Exchange) :
    KeepsOnset config tracker self (seen ++ own) := by
  rcases h with hfailed | ⟨hkind, hhealthy | honset⟩
  · exact .inl (hfailed.append own)
  · exact .inr ⟨hkind, .inl (hhealthy.append own)⟩
  · exact .inr ⟨hkind, .inr honset⟩

theorem keepsOnset_operatorInvariant (tracker : LiveDegradationTracker) :
    OperatorInvariant config (KeepsOnset config tracker) where
  call _ _ _ _ _ hinv := hinv.append _
  blocked _ hinv := hinv
  reports _ _ _ _ hinv := hinv
  failed _ _ _ _ hfailed _ := .inl hfailed
  degraded {self seen} detail nowMs thresholdMs hinv := by
    rcases hinv with hfailed | ⟨hkind, hkept⟩
    · exact .inl hfailed
    · have hnote := onsetLe_note hkind detail nowMs thresholdMs
      exact .inr ⟨ofReports_note hkind detail nowMs thresholdMs,
        hkept.imp_right fun honset => honset.trans hnote⟩
  cleared hhealthy _ := .inr ⟨nofun, .inl hhealthy⟩
  risk _ hinv := hinv
  riskStart _ hinv := hinv
  riskTerminal _ _ hinv := hinv
  unwritten _ _ hinv := hinv.append _
  unaudited _ _ _ _ hinv := hinv.append _
  halted _ _ _ _ _ _ hinv := hinv.append _
  moved _ _ _ _ _ _ _ hinv := hinv.append _

def appliedNoCommand : List Exchange → Bool
  | [⟨.database .openRuntime, .ok _⟩, ⟨.database (.pendingLiveControlCommands _), .ok []⟩] => true
  | _ => false

theorem applyPendingControls_noCommand (base : LiveTradingMonitor) :
    Emits (fun r calls => appliedNoCommand calls = true → r = (.ok (), base))
      ((applyPendingControls config).on base) [] := by
  unfold applyPendingControls
  rw [emits_get_bind, emits_database_bind]
  refine ⟨fun _ => ?_, fun error => nofun⟩
  rw [emits_database_bind]
  refine ⟨fun commands => ?_, fun error => nofun⟩
  cases commands with
  | nil => exact fun _ => rfl
  | cons command commands =>
    refine ((Always.emits (Program.always_true _) _).extends).mono ?_
    rintro r _ ⟨-, own, rfl⟩ hnone
    cases own <;> cases hnone

/-- What a step must not lose. -/
structure Lossless (config : Config) (s : Runtime) (a : RuntimeAction) (s' : Runtime) : Prop where
  /-- The high-water mark is not lowered. -/
  highWaterMark : markLe s.monitor.highWaterMark? s'.monitor.highWaterMark?
  /-- A degradation of the loop keeps its onset, unless a merged worker found the remote side
  healthy. -/
  loopOnset : (∀ kind task, a = .merge kind → s.tasks kind = some task →
      ¬ healthyRefresh config task.calls) →
    onsetLe s.monitor.degradation s'.monitor.degradation
  /-- A degradation of the copy that is merged, or of a failed worker, is known afterwards. -/
  copyOnset : ∀ kind base r calls, a = .merge kind →
    s.tasks kind = some { base := base, program := .pure r, calls := calls } →
    onsetLe r.2.degradation s'.monitor.degradation
  /-- A blocker survives the merge of a worker that found no command. -/
  blocker : ∀ task reason, a = .merge .controls → s.tasks .controls = some task →
    appliedNoCommand task.calls = true → s.monitor.blockedReason = some reason →
    s'.monitor.blockedReason = some reason

def plainSystem (config : Config) : System Runtime RuntimeAction Unit where
  step := Runtime.step config
  record _ _ _ _ := ()

/-- No step of a run loses an update. -/
def NoUpdateLost (config : Config) (meets : Unit → Runtime → RuntimeAction → Runtime → Prop)
    (start : Runtime) : Prop :=
  ∀ s a s', (plainSystem config).Run meets ((), start) () s → s.step config a = some s' →
    meets () s a s' → Lossless config s a s'

/-- The monitor still has what the worker's copy started from, and the copy is not thrown away with
a degradation it has noted. -/
structure FreshMerge (kind : LiveMonitorWorkerKind) (monitor base : LiveTradingMonitor)
    (r : Except String Unit × LiveTradingMonitor) (calls : List Exchange) : Prop where
  highWaterMark : monitor.highWaterMark? = base.highWaterMark?
  degradation : monitor.degradation = base.degradation
  notThrownAway : ∀ error, r.1 = .error error → r.2.degradation = base.degradation
  reports : r.1 = .ok () → ¬ reportFailed calls
  blocker : kind = .controls → appliedNoCommand calls = true →
    monitor.blockedReason = base.blockedReason ∨
      monitor.state.isTerminal = true ∧ base.state.isTerminal = false

/-- Every merge is fresh for the run of its worker. -/
def MergesFresh (_ : Unit) (s : Runtime) (a : RuntimeAction) (_ : Runtime) : Prop :=
  ∀ kind base r calls, a = .merge kind →
    s.tasks kind = some { base := base, program := .pure r, calls := calls } →
    FreshMerge kind s.monitor base r calls

/-! ## One merge -/

/-- What a finished worker has kept of the copy it started with. -/
structure CopyKept (config : Config) (kind : LiveMonitorWorkerKind) (base : LiveTradingMonitor)
    (r : Except String Unit × LiveTradingMonitor) (calls : List Exchange) : Prop where
  mark : markLe base.highWaterMark? r.2.highWaterMark?
  onset : KeepsOnset config base.degradation r.2 calls
  unchanged : kind = .controls → appliedNoCommand calls = true → r = (.ok (), base)

theorem mergeLiveMonitorState_fields (target updated : LiveTradingMonitor)
    (kind : LiveMonitorWorkerKind) :
    (mergeLiveMonitorState target updated kind).risk = updated.risk ∧
      (mergeLiveMonitorState target updated kind).degradation = updated.degradation := by
  cases kind with
  | remoteRefresh => exact ⟨rfl, rfl⟩
  | controls =>
    unfold mergeLiveMonitorState
    simp only
    split <;> exact ⟨rfl, rfl⟩

theorem applyLiveMonitorWorkerOutput_error_fields (kind : LiveMonitorWorkerKind) (error : String) :
    let merged := applyLiveMonitorWorkerOutput monitor { kind := kind, result := .error error }
    merged.risk = monitor.risk ∧ merged.degradation = monitor.degradation := by
  unfold applyLiveMonitorWorkerOutput
  simp only
  split <;> exact ⟨rfl, rfl⟩

theorem markLiveSubmissionBlocked_fields (reason : String) :
    (markLiveSubmissionBlocked monitor reason).risk = monitor.risk ∧
      (markLiveSubmissionBlocked monitor reason).degradation = monitor.degradation := by
  unfold markLiveSubmissionBlocked
  split <;> exact ⟨rfl, rfl⟩

theorem applyLiveSubmissionFeedback_fields (answers : StrategyQueueAnswers)
    (feedback : LiveSubmissionFeedback) :
    (applyLiveSubmissionFeedback monitor answers feedback).risk = monitor.risk ∧
      (applyLiveSubmissionFeedback monitor answers feedback).degradation = monitor.degradation := by
  have hblocked := markLiveSubmissionBlocked_fields monitor
  unfold applyLiveSubmissionFeedback
  cases feedback.fills.isEmpty && feedback.rejectedSignalIds.isEmpty <;>
  cases answers.feedbackAccepted <;> cases feedback.releases.isEmpty <;>
  cases answers.releasesAccepted <;> cases feedback.stateUpdate <;> simp [hblocked]

section Merge

variable {config : Config} {kind : LiveMonitorWorkerKind} {monitor base : LiveTradingMonitor}
variable {r : Except String Unit × LiveTradingMonitor} {calls : List Exchange}

theorem FreshMerge.markLe (h : FreshMerge kind monitor base r calls)
    (hcopy : CopyKept config kind base r calls) :
    markLe monitor.highWaterMark?
      (applyLiveMonitorWorkerOutput monitor (workerOutput kind r)).highWaterMark? := by
  rcases r with ⟨error | _, copy⟩
  · have hrisk := (applyLiveMonitorWorkerOutput_error_fields monitor kind error).1
    unfold highWaterMark?
    rw [show (applyLiveMonitorWorkerOutput monitor (workerOutput kind (.error error, copy))).risk =
      monitor.risk from hrisk]
    exact markLe.refl _
  · have hrisk := (mergeLiveMonitorState_fields monitor copy kind).1
    rw [h.highWaterMark]
    unfold highWaterMark?
    rw [show (applyLiveMonitorWorkerOutput monitor (workerOutput kind (.ok (), copy))).risk =
      copy.risk from hrisk]
    exact hcopy.mark

theorem FreshMerge.degradation_eq (h : FreshMerge kind monitor base r calls) :
    (applyLiveMonitorWorkerOutput monitor (workerOutput kind r)).degradation = r.2.degradation := by
  rcases r with ⟨error | _, copy⟩
  · have hkept := (applyLiveMonitorWorkerOutput_error_fields monitor kind error).2
    have hcopy : copy.degradation = base.degradation := h.notThrownAway error rfl
    rw [hcopy, ← h.degradation]
    exact hkept
  · exact (mergeLiveMonitorState_fields monitor copy kind).2

theorem FreshMerge.onset (h : FreshMerge kind monitor base r calls)
    (hcopy : CopyKept config kind base r calls) (hbase : ofReports base.degradation) :
    ofReports r.2.degradation ∧
      (healthyRefresh config calls ∨ onsetLe base.degradation r.2.degradation) := by
  rcases hcopy.onset with hfailed | hkept
  · rcases r with ⟨error | _, copy⟩
    · have hsame : copy.degradation = base.degradation := h.notThrownAway error rfl
      rw [hsame]
      exact ⟨hbase, .inr (onsetLe.refl _)⟩
    · exact absurd hfailed (h.reports rfl)
  · exact hkept

theorem FreshMerge.blockedReason_eq (h : FreshMerge .controls monitor base r calls)
    (hcopy : CopyKept config .controls base r calls) (hnone : appliedNoCommand calls = true) :
    (applyLiveMonitorWorkerOutput monitor (workerOutput .controls r)).blockedReason =
      monitor.blockedReason := by
  obtain rfl := hcopy.unchanged rfl hnone
  have hblocker := h.blocker rfl hnone
  simp only [applyLiveMonitorWorkerOutput, workerOutput, Except.map, mergeLiveMonitorState]
  by_cases hterminal : (monitor.state.isTerminal && !base.state.isTerminal) = true
  · rw [if_pos hterminal]
  · rw [if_neg hterminal]
    rcases hblocker with hsame | hstates
    · exact hsame.symm
    · simp [hstates] at hterminal

end Merge

/-! ## Whole runs -/

namespace Runtime

variable {config : Config} {s s' : Runtime} {a : RuntimeAction}

/-- A feed-outage check under way keeps the mark and the degradation of the monitor. -/
def OutageKeeps (s : Runtime) : Prop :=
  ∀ p, s.outage = some p → ∃ seen, Emits (fun r _ =>
    markLe s.monitor.highWaterMark? r.2.highWaterMark? ∧
      r.2.degradation = s.monitor.degradation) p seen

/-- What holds of the runtime along a run whose merges are fresh. -/
structure Tracked (config : Config) (s : Runtime) : Prop where
  reports : ofReports s.monitor.degradation
  tasks : ∀ kind task, s.tasks kind = some task → ofReports task.base.degradation ∧
    Emits (CopyKept config kind task.base) task.program task.calls
  outage : s.OutageKeeps

theorem outage_haltInvariant (monitor : LiveTradingMonitor) :
    HaltInvariant fun self _ => markLe monitor.highWaterMark? self.highWaterMark? ∧
      self.degradation = monitor.degradation where
  call _ _ _ _ _ hinv := hinv
  riskTerminal nowMs reason hinv :=
    ⟨hinv.1.trans (markLe_markRiskTerminal _ nowMs reason), hinv.2⟩
  unwritten _ _ hinv := hinv
  unaudited _ _ _ _ hinv := hinv
  halted _ _ _ _ _ _ hinv := hinv

theorem copyKept_start (config : Config) (kind : LiveMonitorWorkerKind)
    (monitor : LiveTradingMonitor) (hmonitor : ofReports monitor.degradation) :
    Emits (CopyKept config kind monitor) (MonitorTask.start config monitor kind).program [] := by
  have hmark := liveMonitorWorkerMethod_keeps
    (keepsMark_operatorInvariant config monitor.highWaterMark?) kind monitor [] (markLe.refl _)
  have honset := liveMonitorWorkerMethod_keeps
    (keepsOnset_operatorInvariant config monitor.degradation) kind monitor []
    (.inr ⟨hmonitor, .inr (onsetLe.refl _)⟩)
  have hnone : Emits (fun r calls => kind = .controls → appliedNoCommand calls = true →
      r = (.ok (), monitor)) ((liveMonitorWorkerMethod config kind).on monitor) [] := by
    cases kind with
    | controls =>
      refine (applyPendingControls_noCommand config monitor).mono ?_
      exact fun _ _ hsame _ => hsame
    | remoteRefresh =>
      refine (Always.emits (Program.always_true _) []).mono ?_
      rintro _ _ _ ⟨⟩
  refine ((hmark.and honset).and hnone).mono ?_
  rintro r calls ⟨⟨hmark, honset⟩, hnone⟩
  exact ⟨hmark, honset, hnone⟩

theorem outageKeeps_of_none (h : s.outage = none) : s.OutageKeeps := by
  intro p hp
  rw [h] at hp
  cases hp

theorem OutageKeeps.step (h : s.OutageKeeps) (hstep : s.step config a = some s') :
    s'.OutageKeeps := by
  cases steps_of_step hstep with
  | evaluated request hloop hsubmit | enqueued request rest hloop hdecided hroom
  | discarded hloop | taken request rest hworker hqueue | workerCalled answer c next hworker
  | workerFinished feedback hworker | spawned kind hloop htask
  | monitorCalled kind answer task htask | commanded command => exact h
  | rejected request rest hloop hdecided hfull
  | feedbackMerged answers feedback rest hloop hfeedback
  | merged kind base r calls hloop htask | blocked reason hloop => exact outageKeeps_of_none hloop
  | outageStarted outage hloop =>
    rintro p ⟨⟩
    exact ⟨[], refreshArmedFeedOutageHalt_keeps
      (outage_haltInvariant s.monitor) _ outage s.monitor [] ⟨markLe.refl _, rfl⟩⟩
  | outageCalled answer c next houtage =>
    rintro p ⟨⟩
    obtain ⟨seen, hseen⟩ := h _ houtage
    exact ⟨_, hseen _⟩
  | outageEnded r houtage => exact outageKeeps_of_none rfl

theorem Tracked.of_degradation_eq (h : s.Tracked config)
    (hdegradation : s'.monitor.degradation = s.monitor.degradation) (htasks : s'.tasks = s.tasks)
    (houtage : s'.OutageKeeps) : s'.Tracked config where
  reports := by
    rw [hdegradation]
    exact h.reports
  tasks := by
    rw [htasks]
    exact h.tasks
  outage := houtage

theorem forall_tasks_update {tasks : LiveMonitorWorkerKind → Option MonitorTask}
    {property : LiveMonitorWorkerKind → MonitorTask → Prop}
    (h : ∀ kind task, tasks kind = some task → property kind task) (kind : LiveMonitorWorkerKind)
    (task? : Option MonitorTask) (hnew : ∀ task, task? = some task → property kind task) :
    ∀ kind' task, Function.update tasks kind task? kind' = some task → property kind' task := by
  intro kind' task htask
  by_cases hkind : kind' = kind
  · subst hkind
    rw [Function.update_self] at htask
    exact hnew task htask
  · rw [Function.update_of_ne hkind] at htask
    exact h kind' task htask

/-- A step keeps the runtime tracked if its merge is fresh. -/
theorem Tracked.step (h : s.Tracked config) (hstep : s.step config a = some s')
    (hmeets : MergesFresh () s a s') : s'.Tracked config := by
  have houtage := h.outage.step hstep
  cases steps_of_step hstep with
  | evaluated request hloop hsubmit | enqueued request rest hloop hdecided hroom
  | discarded hloop | taken request rest hworker hqueue | workerCalled answer c next hworker
  | workerFinished feedback hworker | outageStarted outage hloop
  | outageCalled answer c next houtage' | commanded command =>
    exact h.of_degradation_eq rfl rfl houtage
  | rejected request rest hloop hdecided hfull | blocked reason hloop =>
    exact h.of_degradation_eq (markLiveSubmissionBlocked_fields _ _).2 rfl houtage
  | feedbackMerged answers feedback rest hloop hfeedback =>
    exact h.of_degradation_eq (applyLiveSubmissionFeedback_fields _ _ _).2 rfl houtage
  | spawned kind hloop htask =>
    refine ⟨h.reports, forall_tasks_update h.tasks kind _ ?_, houtage⟩
    rintro task ⟨⟩
    exact ⟨h.reports, copyKept_start config kind s.monitor h.reports⟩
  | monitorCalled kind answer task htask =>
    refine ⟨h.reports, forall_tasks_update h.tasks kind _ ?_, houtage⟩
    rintro _ ⟨⟩
    have hbefore := h.tasks kind task htask
    rw [MonitorTask.base_advance]
    exact ⟨hbefore.1, MonitorTask.emits_advance hbefore.2 answer s.world⟩
  | merged kind base r calls hloop htask =>
    have hfresh := hmeets kind base r calls rfl htask
    have hcopy : CopyKept config kind base r calls := (h.tasks kind _ htask).2
    refine ⟨?_, forall_tasks_update h.tasks kind none (by rintro _ ⟨⟩), houtage⟩
    rw [hfresh.degradation_eq]
    exact (hfresh.onset hcopy (h.tasks kind _ htask).1).1
  | outageEnded r hended =>
    obtain ⟨seen, hkept⟩ := h.outage _ hended
    exact h.of_degradation_eq hkept.2 rfl houtage

theorem lossless_of_local (ha : ∀ kind, a ≠ .merge kind)
    (hrisk : markLe s.monitor.highWaterMark? s'.monitor.highWaterMark?)
    (hdegradation : s'.monitor.degradation = s.monitor.degradation) : Lossless config s a s' where
  highWaterMark := hrisk
  loopOnset _ := by
    rw [hdegradation]
    exact onsetLe.refl _
  copyOnset kind _ _ _ hmerge := absurd hmerge (ha kind)
  blocker _ _ hmerge := absurd hmerge (ha .controls)

theorem Tracked.lossless_merge (h : s.Tracked config) {kind : LiveMonitorWorkerKind}
    {base : LiveTradingMonitor} {r : Except String Unit × LiveTradingMonitor}
    {calls : List Exchange}
    (htask : s.tasks kind = some { base := base, program := .pure r, calls := calls })
    (hfresh : FreshMerge kind s.monitor base r calls)
    (hmonitor : s'.monitor = applyLiveMonitorWorkerOutput s.monitor (workerOutput kind r)) :
    Lossless config s (.merge kind) s' := by
  have hbase := h.tasks kind _ htask
  have hcopy : CopyKept config kind base r calls := hbase.2
  have hdegradation : s'.monitor.degradation = r.2.degradation := by
    rw [hmonitor]
    exact hfresh.degradation_eq
  refine ⟨?_, ?_, ?_, ?_⟩
  · rw [hmonitor]
    exact hfresh.markLe hcopy
  · intro hnone
    rw [hdegradation, hfresh.degradation]
    exact (hfresh.onset hcopy hbase.1).2.resolve_left (hnone kind _ rfl htask)
  · rintro kind' base' r' calls' ⟨⟩ htask'
    rw [htask] at htask'
    cases htask'
    rw [hdegradation]
    exact onsetLe.refl _
  · rintro task reason ⟨⟩ htask' hnone hreason
    rw [htask] at htask'
    cases htask'
    rw [hmonitor, hfresh.blockedReason_eq hcopy hnone]
    exact hreason

theorem Tracked.lossless (h : s.Tracked config) (hstep : s.step config a = some s')
    (hmeets : MergesFresh () s a s') : Lossless config s a s' := by
  have hsame : ∀ {monitor : LiveTradingMonitor}, monitor.risk = s.monitor.risk →
      markLe s.monitor.highWaterMark? monitor.highWaterMark? := by
    intro monitor hrisk
    unfold highWaterMark?
    rw [hrisk]
    exact markLe.refl _
  cases steps_of_step hstep with
  | merged kind base r calls hloop htask =>
    exact h.lossless_merge htask (hmeets kind base r calls rfl htask) rfl
  | rejected request rest hloop hdecided hfull =>
    have hfields := markLiveSubmissionBlocked_fields s.monitor
      "live submission queue rejected strategy output"
    exact lossless_of_local nofun (hsame hfields.1) hfields.2
  | feedbackMerged answers feedback rest hloop hfeedback =>
    have hfields := applyLiveSubmissionFeedback_fields s.monitor answers feedback
    exact lossless_of_local nofun (hsame hfields.1) hfields.2
  | blocked reason hloop =>
    have hfields := markLiveSubmissionBlocked_fields s.monitor reason
    exact lossless_of_local nofun (hsame hfields.1) hfields.2
  | outageEnded r hended =>
    obtain ⟨seen, hkept⟩ := h.outage _ hended
    exact lossless_of_local nofun hkept.1 hkept.2
  | _ => exact lossless_of_local nofun (markLe.refl _) rfl

end Runtime

/-- If every merge of a run is fresh, no step of it loses an update. -/
theorem no_update_lost (config : Config) {monitor : LiveTradingMonitor}
    (hmonitor : monitor.degradation = .default) (world : World) :
    NoUpdateLost config MergesFresh (Runtime.start monitor world) := by
  intro s a s' hrun hstep hmeets
  have htracked : s.Tracked config := by
    refine hrun.invariant (fun _ s => s.Tracked config) ?_ ?_
    · refine ⟨?_, by rintro kind task ⟨⟩, Runtime.outageKeeps_of_none rfl⟩
      intro d hd
      rw [show (Runtime.start monitor world).monitor.degradation = .default from hmonitor] at hd
      cases hd
    · intro _ s a s' hbefore hstep hmeets
      exact hbefore.step hstep hmeets
  exact htracked.lossless hstep hmeets

/-- A round of operator commands that finds none, during which the loop marks a blocker. -/
def blockDuringRound : List RuntimeAction :=
  [.spawn .controls, .monitorCall .controls (sampleAnswer 1000), .block "queue full",
    .monitorCall .controls (sampleAnswer 1000)]

/-- The merge of a round without a command unblocks submissions. -/
theorem blocker_lost :
    ¬ NoUpdateLost sampleConfig (fun _ _ _ _ => True)
      (Runtime.start sampleMonitor sampleWorld) := by
  intro h
  have hfollow : ((plainSystem sampleConfig).follow (fun _ _ _ _ => true) blockDuringRound
      ((), Runtime.start sampleMonitor sampleWorld)).any (fun x =>
        x.2.monitor.blockedReason == some "queue full" &&
          (x.2.tasks .controls).any (fun task => appliedNoCommand task.calls) &&
          (x.2.step sampleConfig (.merge .controls)).any fun s' =>
            s'.monitor.blockedReason.isNone) = true := by
    decide +kernel
  obtain ⟨_, s, hrun, hs⟩ := System.exists_run_of_follow hfollow fun _ _ _ _ _ => trivial
  simp only [Bool.and_eq_true, beq_iff_eq] at hs
  obtain ⟨⟨hreason, htask⟩, hstep⟩ := hs
  obtain ⟨task, htask, hnone⟩ := (Option.any_eq_true _ _).mp htask
  obtain ⟨s', hstep, hunblocked⟩ := (Option.any_eq_true _ _).mp hstep
  have hblocker := (h s _ s' hrun hstep trivial).blocker task "queue full" rfl htask hnone hreason
  rw [hblocker] at hunblocked
  cases hunblocked

/-- A check that is enough for a merge to be fresh. -/
def unchangedSinceSpawn (_ : Unit) (s : Runtime) (a : RuntimeAction) (_ : Runtime) : Bool :=
  match a with
  | .merge kind =>
    (s.tasks kind).all fun task =>
      s.monitor.highWaterMark? == task.base.highWaterMark? &&
        s.monitor.degradation == task.base.degradation &&
        s.monitor.blockedReason == task.base.blockedReason &&
        task.calls.all notRefused &&
        match task.program with
        | .pure (.error _, copy) => copy.degradation == task.base.degradation
        | _ => true
  | _ => true

theorem mergesFresh_of_unchangedSinceSpawn {u : Unit} {s s' : Runtime} {a : RuntimeAction}
    (h : unchangedSinceSpawn u s a s' = true) : MergesFresh u s a s' := by
  rintro kind base r calls rfl htask
  simp only [unchangedSinceSpawn, htask, Option.all_some, Bool.and_eq_true, beq_iff_eq,
    List.all_eq_true] at h
  obtain ⟨⟨⟨⟨hmark, hdegradation⟩, hreason⟩, hcalls⟩, hcopy⟩ := h
  refine ⟨hmark, hdegradation, ?_, ?_, fun _ _ => .inl hreason⟩
  · rcases r with ⟨error | _, copy⟩
    · exact fun _ _ => beq_iff_eq.mp hcopy
    · rintro error ⟨⟩
  · intro _
    exact not_reportFailed_of_notRefused hcalls

/-- The onset of a degradation is merged, and a later step does not lose it. -/
theorem no_update_lost_sample :
    ∃ s, (plainSystem sampleConfig).Run MergesFresh
        ((), Runtime.start sampleMonitor captureWorld) () s ∧
      s.monitor.degradation.onset? degradedKind = some 1000 ∧
      ∀ a s', s.step sampleConfig a = some s' → MergesFresh () s a s' →
        Lossless sampleConfig s a s' := by
  have hfollow : ((plainSystem sampleConfig).follow unchangedSinceSpawn
      (.spawn .remoteRefresh ::
        (List.replicate 16 (.monitorCall .remoteRefresh (degradedAnswer 1000)) ++
          [.merge .remoteRefresh]))
      ((), Runtime.start sampleMonitor captureWorld)).any (fun x =>
        x.2.monitor.degradation.onset? degradedKind == some 1000) = true := by
    decide +kernel
  obtain ⟨_, s, hrun, hs⟩ := System.exists_run_of_follow hfollow
    fun _ _ _ _ => mergesFresh_of_unchangedSinceSpawn
  refine ⟨s, hrun, by simpa using hs, ?_⟩
  intro a s' hstep hmeets
  exact no_update_lost sampleConfig rfl captureWorld s a s' hrun hstep hmeets

end BubaPaint
