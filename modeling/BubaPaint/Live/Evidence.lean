import BubaPaint.Live.DecisionOutput

/-!
# Decision evidence

Every event of an output should be enqueued, handed to the submission worker, replaced by its
stale rejection, or else live submission should be blocked. A fresh output is handled so, and an
output that the worker cannot forward blocks submission when the loop asks for its next evaluation.
A stale output keeps only the evidence of its orders: the rest is lost while live submission goes
on.

Main results:

- Theorem `handleStrategyDecisionOutput_keeps`: a fresh output loses no event.
- Theorem `rejectStale_keeps_iff`: when a stale output loses none.
- Theorem `evidence_kept_iff`: on which routes no event of an output is lost.
-/

namespace BubaPaint

open List

/-- Whether new venue submissions may be attempted. Without a monitor there are none. -/
def submissionsOpen (monitor : Option LiveTradingMonitor) : Bool :=
  monitor.any LiveTradingMonitor.canSubmitOrders

variable {output : RuntimeDecisionOutput}

@[simp]
theorem canSubmitOrders_markLiveSubmissionBlocked (monitor : LiveTradingMonitor)
    (reason : String) : (markLiveSubmissionBlocked monitor reason).canSubmitOrders = false := by
  unfold markLiveSubmissionBlocked LiveTradingMonitor.canSubmitOrders
  split
  · simp
  · rename_i hactive
    unfold LiveTradingMonitor.terminalRiskIsActive at hactive
    cases hstate : monitor.state <;> simp_all

variable (queues : OutputQueues) (monitor : Option LiveTradingMonitor)

@[simp]
theorem submissionsOpen_map_markLiveSubmissionBlocked (reason : String) :
    submissionsOpen (monitor.map fun monitor => markLiveSubmissionBlocked monitor reason) =
      false := by
  cases monitor with
  | none => rfl
  | some monitor => exact canSubmitOrders_markLiveSubmissionBlocked monitor reason

/-- After a dropped output the next evaluation is refused, which blocks live submission. -/
theorem submissionsOpen_requestEvaluation_dropped (metrics : StrategyWorkerMetrics) :
    submissionsOpen (requestEvaluation (metrics.afterForward false) monitor) = false := by
  have hdropped : 0 < (metrics.afterForward false).outputDropped := Nat.succ_pos _
  have hrefused := StrategyWorkerMetrics.tryEvaluate_of_dropped hdropped
  unfold requestEvaluation
  rw [hrefused.1]
  exact submissionsOpen_map_markLiveSubmissionBlocked ..

theorem submissionsOpen_rollbackMonitor (answers : StrategyQueueAnswers)
    (monitor : Option LiveTradingMonitor) :
    submissionsOpen (rollbackMonitor answers monitor) =
      (submissionsOpen monitor && answers.feedbackAccepted && answers.releasesAccepted) := by
  unfold rollbackMonitor
  cases answers.feedbackAccepted <;> cases answers.releasesAccepted <;> simp [-Option.map_map]

/-! ## Fresh outputs -/

/-- What the loop over the events of an output has done: critical events are set apart, and either
all others are enqueued and the monitor is untouched, or submission is blocked. -/
theorem foldl_handleEvent (criticalSignalIds : List ℤ) (events : List LivePersistenceEvent)
    (loop : EventLoop)
    (hloop : loop.criticalPersistenceFailed = true → submissionsOpen loop.monitor = false) :
    let done := events.foldl (handleEvent queues criticalSignalIds) loop
    done.criticalEvents =
        loop.criticalEvents ++ events.filter (liveOrderCriticalSignalEvent criticalSignalIds) ∧
      loop.enqueued ⊆ done.enqueued ∧
      (done.criticalPersistenceFailed = true → submissionsOpen done.monitor = false) ∧
      (done.criticalPersistenceFailed = false →
        loop.criticalPersistenceFailed = false ∧ done.monitor = loop.monitor ∧
          ∀ event ∈ events, liveOrderCriticalSignalEvent criticalSignalIds event = false →
            event ∈ done.enqueued) := by
  induction events generalizing loop with
  | nil => exact ⟨by simp, List.Subset.refl _, hloop, fun hfailed => ⟨hfailed, rfl, by simp⟩⟩
  | cons event rest ih =>
    rw [foldl_cons]
    by_cases hcritical : liveOrderCriticalSignalEvent criticalSignalIds event = true
    · have hstep : handleEvent queues criticalSignalIds loop event =
          { loop with criticalEvents := loop.criticalEvents ++ [event] } := if_pos hcritical
      obtain ⟨hevents, henqueued, hblocked, hkept⟩ := ih
        { loop with criticalEvents := loop.criticalEvents ++ [event] } hloop
      rw [hstep]
      refine ⟨?_, henqueued, hblocked, fun hfailed => ?_⟩
      · rw [hevents, filter_cons_of_pos hcritical, append_assoc]
        rfl
      · obtain ⟨hearlier, hmonitor, hrest⟩ := hkept hfailed
        refine ⟨hearlier, hmonitor, fun other hother hordinary => ?_⟩
        rcases mem_cons.mp hother with rfl | hlater
        · rw [hcritical] at hordinary
          cases hordinary
        · exact hrest other hlater hordinary
    · by_cases haccepted : queues.persistenceAccepts loop.offered = true
      · have hstep : handleEvent queues criticalSignalIds loop event =
            { loop with
              offered := loop.offered + 1
              enqueued := loop.enqueued ++ [event] } := by
          unfold handleEvent
          rw [if_neg hcritical, if_pos haccepted]
        obtain ⟨hevents, henqueued, hblocked, hkept⟩ := ih
          { loop with offered := loop.offered + 1, enqueued := loop.enqueued ++ [event] } hloop
        rw [hstep]
        refine ⟨?_, ?_, hblocked, fun hfailed => ?_⟩
        · rw [hevents, filter_cons_of_neg hcritical]
        · exact fun other hother => henqueued (mem_append_left _ hother)
        · obtain ⟨hearlier, hmonitor, hrest⟩ := hkept hfailed
          refine ⟨hearlier, hmonitor, fun other hother hordinary => ?_⟩
          rcases mem_cons.mp hother with rfl | hlater
          · exact henqueued (by simp)
          · exact hrest other hlater hordinary
      · have hstep : handleEvent queues criticalSignalIds loop event =
            { loop with
              offered := loop.offered + 1
              criticalPersistenceFailed := true
              monitor := loop.monitor.map fun monitor => markLiveSubmissionBlocked monitor
                "runtime persistence queue rejected decision evidence" } := by
          unfold handleEvent
          rw [if_neg hcritical, if_neg haccepted]
        rw [hstep]
        obtain ⟨hevents, henqueued, hblocked, hkept⟩ := ih
          { loop with
            offered := loop.offered + 1
            criticalPersistenceFailed := true
            monitor := loop.monitor.map fun monitor => markLiveSubmissionBlocked monitor
              "runtime persistence queue rejected decision evidence" }
          (fun _ => submissionsOpen_map_markLiveSubmissionBlocked _ _)
        refine ⟨?_, henqueued, hblocked, fun hfailed => ?_⟩
        · rw [hevents, filter_cons_of_neg hcritical]
        · cases (hkept hfailed).1

/-- An output carries a signal for each of its orders, and a window if it has orders. -/
structure RuntimeDecisionOutput.Complete (output : RuntimeDecisionOutput) : Prop where
  evidence : ∀ order ∈ output.liveOrders,
    ∃ evidence, .signal evidence ∈ output.persistenceEvents ∧ evidence.signalId = order.signalId
  window : output.liveOrders ≠ [] → output.submissionWindow.isSome

theorem RuntimeDecisionOutput.Complete.criticalEvidence (h : output.Complete) :
    criticalLiveEvidenceIsComplete
      (output.persistenceEvents.filter
        (liveOrderCriticalSignalEvent (orderSignalIds output.liveOrders)))
      (orderSignalIds output.liveOrders) = true := by
  unfold criticalLiveEvidenceIsComplete
  rw [all_eq_true]
  intro signalId hid
  obtain ⟨order, horder, hsame⟩ := mem_map.mp hid
  obtain ⟨evidence, hevidence, hevidenceId⟩ := h.evidence order horder
  rw [contains_iff_mem]
  refine mem_filterMap.mpr ⟨.signal evidence, mem_filter.mpr ⟨hevidence, ?_⟩, ?_⟩
  · unfold liveOrderCriticalSignalEvent
    rw [contains_iff_mem, hevidenceId, hsame]
    exact hid
  · exact congrArg some (hevidenceId.trans hsame)

/-- What became of every event of an output. -/
def EvidenceKept (output : RuntimeDecisionOutput) (handled : HandledOutput) : Prop :=
  ∀ event ∈ output.persistenceEvents,
    event ∈ handled.enqueued ∨
      (∃ request, handled.submitted = some request ∧ event ∈ request.criticalEvents) ∨
      (∃ evidence, event = .signal evidence ∧
        .signal (staleEvidence evidence) ∈ handled.enqueued) ∨
      submissionsOpen handled.monitor = false

/-- A fresh output loses no event. -/
theorem handleStrategyDecisionOutput_keeps (hcomplete : output.Complete) :
    EvidenceKept output (handleStrategyDecisionOutput queues monitor.isSome monitor output) := by
  obtain ⟨hcritical, -, hblocked, hkept⟩ := foldl_handleEvent queues
    (orderSignalIds output.liveOrders) output.persistenceEvents
    { offered := 0, enqueued := [], criticalEvents := [], criticalPersistenceFailed := false,
      monitor := monitor } (fun hfailed => by cases hfailed)
  unfold handleStrategyDecisionOutput
  dsimp only
  generalize output.persistenceEvents.foldl _ _ = done at hcritical hblocked hkept ⊢
  rw [nil_append] at hcritical
  intro event hevent
  by_cases hfailed : done.criticalPersistenceFailed = true
  · -- A refused event has blocked submission, whatever happens to the orders.
    have hclosed := hblocked hfailed
    have hrolledBack : submissionsOpen
        (rollbackMonitor queues.strategyAnswers done.monitor) = false := by
      rw [submissionsOpen_rollbackMonitor, hclosed]
      rfl
    right; right; right
    split_ifs
    · exact hrolledBack
    · exact hrolledBack
    · exact hclosed
    · exact submissionsOpen_map_markLiveSubmissionBlocked _ _
    · exact hclosed
  · have hfailed := Bool.not_eq_true _ ▸ hfailed
    obtain ⟨-, hmonitor, hordinary⟩ := hkept hfailed
    have hevidence : criticalLiveEvidenceIsComplete done.criticalEvents
        (orderSignalIds output.liveOrders) = true := by
      rw [hcritical]
      exact hcomplete.criticalEvidence
    simp only [hfailed, hevidence, Bool.false_and, Bool.not_true, Bool.and_false,
      Bool.false_eq_true, if_false]
    by_cases hsignal :
        liveOrderCriticalSignalEvent (orderSignalIds output.liveOrders) event = true
    · have horders : output.liveOrders ≠ [] := by
        intro hnone
        rw [hnone] at hsignal
        cases event <;> simp [liveOrderCriticalSignalEvent, orderSignalIds] at hsignal
      have hset : event ∈ done.criticalEvents := by
        rw [hcritical]
        exact mem_filter.mpr ⟨hevent, hsignal⟩
      cases hqueue : monitor with
      | none =>
        right; right; right
        rw [hqueue] at hmonitor
        simp [hmonitor, submissionsOpen]
      | some armed =>
        have hready : (!output.liveOrders.isEmpty && (some armed).isSome &&
            output.submissionWindow.isSome) = true := by
          simp [horders, hcomplete.window horders]
        rw [if_pos hready]
        split
        · exact .inr (.inl ⟨_, rfl, hset⟩)
        · exact .inr (.inr (.inr (submissionsOpen_map_markLiveSubmissionBlocked _ _)))
    · have henqueued := hordinary event hevent (Bool.not_eq_true _ ▸ hsignal)
      left
      split_ifs <;> exact henqueued

/-! ## Stale outputs -/

theorem enqueueUntilRefused_spec (events : List LivePersistenceEvent) (offered : ℕ) :
    ((enqueueUntilRefused queues offered events).2 = false ↔
        ∀ turn < events.length, queues.persistenceAccepts (offered + turn) = true) ∧
      (enqueueUntilRefused queues offered events).1 ⊆ events ∧
      ((enqueueUntilRefused queues offered events).2 = false →
        (enqueueUntilRefused queues offered events).1 = events) := by
  induction events generalizing offered with
  | nil => simp [enqueueUntilRefused]
  | cons event rest ih =>
    obtain ⟨hfailed, hsubset, hall⟩ := ih (offered + 1)
    unfold enqueueUntilRefused
    by_cases haccepted : queues.persistenceAccepts offered = true
    · rw [if_pos haccepted]
      refine ⟨?_, cons_subset_cons _ hsubset, fun hdone =>
        congrArg (event :: ·) (hall hdone)⟩
      rw [hfailed, length_cons]
      constructor
      · intro hlater turn hturn
        cases turn with
        | zero => exact haccepted
        | succ turn =>
          have hnext := hlater turn (by omega)
          rwa [Nat.add_right_comm, Nat.add_assoc] at hnext
      · intro hevery turn hturn
        have hnext := hevery (turn + 1) (by omega)
        rwa [Nat.add_right_comm, Nat.add_assoc]
    · rw [if_neg haccepted]
      refine ⟨?_, nil_subset _, fun hdone => by cases hdone⟩
      constructor
      · intro hdone
        cases hdone
      · intro hevery
        exact absurd (hevery 0 (by simp)) haccepted

theorem mem_staleDecisionSignalEvents {event : LivePersistenceEvent} :
    event ∈ staleDecisionSignalEvents output ↔
      ∃ evidence, .signal evidence ∈ output.persistenceEvents ∧
        evidence.signalId ∈ orderSignalIds output.liveOrders ∧
        event = .signal (staleEvidence evidence) := by
  unfold staleDecisionSignalEvents
  rw [mem_filterMap]
  constructor
  · intro ⟨source, hsource, hstale⟩
    cases source with
    | signal evidence =>
      dsimp only at hstale
      split at hstale
      · rename_i hid
        exact ⟨evidence, hsource, contains_iff_mem.mp hid, (Option.some.inj hstale).symm⟩
      · cases hstale
    | _ => cases hstale
  · intro ⟨evidence, hevidence, hid, hstale⟩
    refine ⟨_, hevidence, ?_⟩
    dsimp only
    rw [if_pos (contains_iff_mem.mpr hid), hstale]

/-- Whether every message of a stale rejection is accepted. -/
def OutputQueues.acceptStale (queues : OutputQueues) (output : RuntimeDecisionOutput) : Prop :=
  queues.strategyAnswers.feedbackAccepted = true ∧
    queues.strategyAnswers.releasesAccepted = true ∧
    ∀ turn < (staleDecisionSignalEvents output).length, queues.persistenceAccepts turn = true

theorem submissionsOpen_rejectStale (output : RuntimeDecisionOutput) :
    submissionsOpen (rejectStaleLiveDecisionOutput queues monitor output).monitor = true ↔
      submissionsOpen monitor = true ∧ queues.acceptStale output := by
  have hspec := (enqueueUntilRefused_spec queues (staleDecisionSignalEvents output) 0).1
  simp only [Nat.zero_add] at hspec
  unfold rejectStaleLiveDecisionOutput rollbackLiveOrdersAfterRuntimeRejection
    OutputQueues.acceptStale
  rw [submissionsOpen_rollbackMonitor, ← hspec]
  cases (enqueueUntilRefused queues 0 (staleDecisionSignalEvents output)).2 with
  | true => simp
  | false => simp [and_assoc]

/-- A stale output loses no event if all of its events are evidence of its orders, or if live
submission does not go on. -/
theorem rejectStale_keeps_iff (output : RuntimeDecisionOutput) :
    EvidenceKept output (rejectStaleLiveDecisionOutput queues monitor output) ↔
      submissionsOpen monitor = false ∨ ¬ queues.acceptStale output ∨
        ∀ event ∈ output.persistenceEvents,
          liveOrderCriticalSignalEvent (orderSignalIds output.liveOrders) event = true := by
  have hopen := submissionsOpen_rejectStale queues monitor output
  obtain ⟨hfailed, hsubset, hall⟩ :=
    enqueueUntilRefused_spec queues (staleDecisionSignalEvents output) 0
  simp only [Nat.zero_add] at hfailed
  have hstale : ∀ {evidence : LiveDecisionEvidence},
      .signal (staleEvidence evidence) ∈ (enqueueUntilRefused queues 0
        (staleDecisionSignalEvents output)).1 →
      evidence.signalId ∈ orderSignalIds output.liveOrders := by
    intro evidence henqueued
    obtain ⟨source, -, hid, hsame⟩ := mem_staleDecisionSignalEvents.mp (hsubset henqueued)
    have hids := congrArg LiveDecisionEvidence.signalId (LivePersistenceEvent.signal.inj hsame)
    exact (show evidence.signalId = source.signalId from hids) ▸ hid
  constructor
  · intro hkept
    by_cases hmonitor : submissionsOpen monitor = false
    · exact .inl hmonitor
    by_cases haccepted : queues.acceptStale output
    · refine .inr (.inr fun event hevent => ?_)
      rcases hkept event hevent with henqueued | ⟨request, hsubmitted, -⟩ |
        ⟨evidence, hsignal, henqueued⟩ | hclosed
      · obtain ⟨source, -, hid, hsame⟩ := mem_staleDecisionSignalEvents.mp (hsubset henqueued)
        rw [hsame]
        exact contains_iff_mem.mpr hid
      · cases hsubmitted
      · rw [hsignal]
        exact contains_iff_mem.mpr (hstale henqueued)
      · rw [hopen.mpr ⟨Bool.not_eq_false _ ▸ hmonitor, haccepted⟩] at hclosed
        cases hclosed
    · exact .inr (.inl haccepted)
  · intro hcondition event hevent
    by_cases hafter :
        submissionsOpen (rejectStaleLiveDecisionOutput queues monitor output).monitor = true
    · obtain ⟨hmonitor, haccepted⟩ := hopen.mp hafter
      have hcritical : ∀ event ∈ output.persistenceEvents,
          liveOrderCriticalSignalEvent (orderSignalIds output.liveOrders) event = true := by
        rcases hcondition with hclosed | hrefused | hevery
        · rw [hmonitor] at hclosed
          cases hclosed
        · exact absurd haccepted hrefused
        · exact hevery
      have hsignal := hcritical event hevent
      cases event with
      | signal evidence =>
        refine .inr (.inr (.inl ⟨evidence, rfl, ?_⟩))
        unfold rejectStaleLiveDecisionOutput rollbackLiveOrdersAfterRuntimeRejection
        dsimp only
        rw [hall (hfailed.mpr haccepted.2.2)]
        exact mem_staleDecisionSignalEvents.mpr ⟨evidence, hevent, contains_iff_mem.mp hsignal, rfl⟩
      | _ => cases hsignal
    · exact .inr (.inr (.inr (Bool.not_eq_true _ ▸ hafter)))

/-! ## Outputs of the engine -/

section Engine

variable {σ : Type} [Strategy σ]

/-- The orders of a run of candidates have their signals among its events. -/
theorem CandidateRun.signals {label : StrategyFamily → String → Prop}
    {request : RuntimeDecisionRequest} {books books' : Books}
    {events : List LivePersistenceEvent} {orders : List RuntimePendingOrder}
    (hrun : CandidateRun label request books events orders books') :
    ∀ order ∈ orders, ∃ evidence : LiveDecisionEvidence,
      .signal evidence ∈ events ∧ evidence.signalId = order.signalId := by
  induction hrun with
  | nil => simp
  | cons hstep _ ih =>
    intro order horder
    rcases mem_append.mp horder with hfirst | hrest
    · obtain ⟨count, hqueue⟩ := hstep
      cases hqueue with
      | passed => cases hfirst
      | probed => cases hfirst
      | queued family _ _ _ _ _ hsignals _ =>
        obtain ⟨evidence, hevidence, hid⟩ := hsignals order hfirst
        exact ⟨evidence, mem_append_left _ hevidence, hid⟩
    · obtain ⟨evidence, hevidence, hid⟩ := ih order hrest
      exact ⟨evidence, mem_append_right _ hevidence, hid⟩

theorem RuntimeDecisionEngine.output?_complete (engine : RuntimeDecisionEngine σ)
    {message : EngineMessage} {output : RuntimeDecisionOutput}
    (houtput : engine.output? message = some output) : output.Complete := by
  cases message with
  | evaluate request =>
    obtain ⟨dueEvents, events, orders, books, hdecides⟩ :=
      engine.evaluate_run strategiesLabelled_anyLabel request
    rw [← Option.some.inj houtput]
    constructor
    · intro order horder
      rw [hdecides.liveOrders] at horder
      unfold DecisionPass.forwarded at horder
      split at horder
      · obtain ⟨pending, hpending, rfl⟩ := mem_map.mp horder
        obtain ⟨evidence, hevidence, hid⟩ := hdecides.candidates.signals pending hpending
        refine ⟨evidence, ?_, hid⟩
        rw [hdecides.persistenceEvents]
        exact mem_append_right _ hevidence
      · cases horder
    · intro _
      rw [hdecides.window]
      rfl
  | liveFeedback fills rejectedSignalIds nowMs => cases houtput
  | releaseReservations releases => cases houtput
  | windowClosed window nowMs | authoritativeResolution window outcome nowMs | flushAll nowMs =>
    rw [← Option.some.inj houtput]
    exact ⟨fun order horder => (by cases horder), fun hnone => absurd rfl hnone⟩

variable (σ) in
/-- No event of an output is lost on any route. -/
def EvidenceNeverLost : Prop :=
  ∀ (config : Config) (engine : RuntimeDecisionEngine σ) (message : EngineMessage)
    (output : RuntimeDecisionOutput), engine.output? message = some output →
      ∀ (metrics : StrategyWorkerMetrics) (monitor : Option LiveTradingMonitor)
        (route : OutputRoute), EvidenceKept output (route.handle config metrics monitor output)

/-- When no event is lost: the output is not forwarded, or it is fresh when the loop receives it, or
live submission does not go on, or all of its events are evidence of its orders. -/
def OutputRoute.KeepsEvidence (config : Config) (monitor : Option LiveTradingMonitor)
    (output : RuntimeDecisionOutput) : OutputRoute → Prop
  | .dropped => True
  | .received latestSequence nowMs queues =>
    staleLiveDecisionOutput config latestSequence nowMs output = false ∨
      submissionsOpen monitor = false ∨ ¬ queues.acceptStale output ∨
        ∀ event ∈ output.persistenceEvents,
          liveOrderCriticalSignalEvent (orderSignalIds output.liveOrders) event = true

/-- On which routes no event of an output is lost. -/
theorem evidence_kept_iff (config : Config) (engine : RuntimeDecisionEngine σ)
    (message : EngineMessage) (output : RuntimeDecisionOutput)
    (houtput : engine.output? message = some output) (metrics : StrategyWorkerMetrics)
    (monitor : Option LiveTradingMonitor) (route : OutputRoute) :
    EvidenceKept output (route.handle config metrics monitor output) ↔
      route.KeepsEvidence config monitor output := by
  cases route with
  | dropped =>
    refine iff_of_true (fun event _ => ?_) trivial
    exact .inr (.inr (.inr (submissionsOpen_requestEvaluation_dropped monitor metrics)))
  | received latestSequence nowMs queues =>
    unfold OutputRoute.handle OutputRoute.KeepsEvidence receiveStrategyOutput
    dsimp only
    by_cases hstale : staleLiveDecisionOutput config latestSequence nowMs output = true
    · rw [if_pos hstale, rejectStale_keeps_iff]
      simp [hstale]
    · have hkept := handleStrategyDecisionOutput_keeps queues monitor
        (engine.output?_complete houtput)
      rw [if_neg hstale]
      exact iff_of_true hkept (.inl (Bool.not_eq_true _ ▸ hstale))

end Engine

/-- Two strategies offer the same order: the second is rejected, with a signal of its own. -/
def sampleRivals : RuntimeDecisionEngine SampleStrategy :=
  .new sampleConfig [SampleStrategy.mk .up, SampleStrategy.mk .up] sampleSeed

def sampleEvaluation : RuntimeDecisionRequest :=
  { sampleDecision (sampleWindow "market" 10000) 1000 with decisionSequence := 1 }

def sampleOutput : RuntimeDecisionOutput :=
  (sampleRivals.evaluate sampleEvaluation).1

/-- Every queue accepts what it is offered. -/
def openQueues : OutputQueues where
  persistenceAccepts _ := true
  submissionAccepts := true
  strategyAnswers := { feedbackAccepted := true, releasesAccepted := true }

/-- A later decision is under way when the output arrives: the signal of the rejected candidate is
lost while live submission goes on. -/
theorem stale_output_loses_evidence : ¬ EvidenceNeverLost SampleStrategy := by
  intro h
  have hstale : staleLiveDecisionOutput sampleConfig 2 1000 sampleOutput = true := by
    decide +kernel
  have hkept := h sampleConfig sampleRivals (.evaluate sampleEvaluation) sampleOutput rfl
    ⟨0, 0, 0⟩ (some sampleMonitor) (.received 2 1000 openQueues)
  unfold OutputRoute.handle receiveStrategyOutput at hkept
  dsimp only at hkept
  rw [if_pos hstale] at hkept
  have hopen : submissionsOpen (some sampleMonitor) = true := by decide
  rcases (rejectStale_keeps_iff openQueues (some sampleMonitor) sampleOutput).mp hkept with
    hclosed | hrefused | hown
  · rw [hopen] at hclosed
    cases hclosed
  · exact hrefused ⟨rfl, rfl, fun _ _ => rfl⟩
  · have hother : (sampleOutput.persistenceEvents.all
        (liveOrderCriticalSignalEvent (orderSignalIds sampleOutput.liveOrders))) = false := by
      decide +kernel
    rw [all_eq_true.mpr hown] at hother
    cases hother

/-- A fresh output that every queue accepts loses no event. -/
theorem evidence_kept_sample :
    EvidenceKept sampleOutput
      (OutputRoute.handle sampleConfig ⟨0, 0, 0⟩ (some sampleMonitor) sampleOutput
        (.received 1 1000 openQueues)) :=
  (evidence_kept_iff sampleConfig sampleRivals (.evaluate sampleEvaluation) sampleOutput rfl
    _ _ _).mpr (.inl (by decide +kernel))

end BubaPaint
