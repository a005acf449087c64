import BubaPaint.Live.SubmissionSafety

/-!
# Terminal states last

A merge of a monitor worker never leaves a terminal state, and neither does the feed-outage check.
The feedback of the submission worker assigns the state directly, so a terminal state lasts as far
as no feedback overwrites it and none that asks for one is dropped.

Main results:

- Theorem `terminal_states_last`: terminal states last if the feedback respects them.
-/

namespace BubaPaint

open Effects
open Program (Always)

/-- Whether a feedback asks for the state of an unknown order. -/
def LiveSubmissionFeedback.isUnknownOrder (feedback : LiveSubmissionFeedback) : Bool :=
  feedback.stateUpdate.any fun update => update.state == .unknownOrder

/-- Whether an action takes over a feedback that asks for the state of an unknown order. -/
def Runtime.processesUnknownOrder (s : Runtime) : RuntimeAction → Bool
  | .mergeFeedback _ => s.feedback.head?.any LiveSubmissionFeedback.isUnknownOrder
  | _ => false

/-- The runtime with a history that tells whether the monitor was in a terminal state or should have
been after a feedback. -/
def terminalSystem (config : Config) : System Runtime RuntimeAction Bool where
  step := Runtime.step config
  record due s a s' := due || s'.monitor.state.isTerminal || s.processesUnknownOrder a

/-- Once the monitor was in a terminal state, or took over a feedback that asks for the state of an
unknown order, it is in a terminal state. -/
def TerminalStatesLast (config : Config)
    (meets : Bool → Runtime → RuntimeAction → Runtime → Prop) (start : Runtime) : Prop :=
  ∀ s, (terminalSystem config).Run meets (start.monitor.state.isTerminal, start) true s →
    s.monitor.state.isTerminal = true

/-- A feedback that reaches the strategy worker while the monitor is in a terminal state has no
other state update, and one that asks for the state of an unknown order reaches the strategy
worker. -/
structure RespectsTerminal (monitor : LiveTradingMonitor) (answers : StrategyQueueAnswers)
    (feedback : LiveSubmissionFeedback) : Prop where
  keeps : monitor.state.isTerminal = true → delivered answers feedback = true →
    ∀ update, feedback.stateUpdate = some update → update.state.isTerminal = true
  reaches : feedback.isUnknownOrder = true →
    delivered answers feedback = true ∨ monitor.state.isTerminal = true

/-- Every feedback that is taken over respects terminal states. -/
def FeedbackRespectsTerminal (_ : Bool) (s : Runtime) (a : RuntimeAction) (_ : Runtime) : Prop :=
  ∀ answers feedback rest, a = .mergeFeedback answers → s.feedback = feedback :: rest →
    RespectsTerminal s.monitor answers feedback

/-! ## One step -/

variable {monitor : LiveTradingMonitor}

theorem RespectsTerminal.isTerminal {answers : StrategyQueueAnswers}
    {feedback : LiveSubmissionFeedback} (h : RespectsTerminal monitor answers feedback)
    (hdue : monitor.state.isTerminal = true ∨ feedback.isUnknownOrder = true) :
    (applyLiveSubmissionFeedback monitor answers feedback).state.isTerminal = true := by
  rw [state_applyLiveSubmissionFeedback]
  cases hupdate : feedback.stateUpdate with
  | none =>
    have hmonitor : monitor.state.isTerminal = true := by
      simpa [LiveSubmissionFeedback.isUnknownOrder, hupdate] using hdue
    simp [hmonitor]
  | some update =>
    by_cases hdelivered : delivered answers feedback = true
    · rw [if_pos hdelivered, Option.map_some, Option.getD_some]
      rcases hdue with hmonitor | hunknown
      · exact h.keeps hmonitor hdelivered update hupdate
      · have hstate : update.state = .unknownOrder := by
          simpa [LiveSubmissionFeedback.isUnknownOrder, hupdate] using hunknown
        rw [hstate]
        rfl
    · rw [if_neg hdelivered]
      rcases hdue with hmonitor | hunknown
      · exact hmonitor
      · exact (h.reaches hunknown).resolve_left hdelivered

theorem on_refreshArmedFeedOutageHalt_of_isTerminal (h : monitor.state.isTerminal = true)
    (thresholdMs : ℕ) (outage : Option (String × ℕ)) :
    (LiveTradingMonitor.refreshArmedFeedOutageHalt thresholdMs outage).on monitor =
      pure (.ok false, monitor) := by
  have hstate : monitor.state ≠ .armed := by
    intro harmed
    rw [harmed] at h
    cases h
  unfold LiveTradingMonitor.refreshArmedFeedOutageHalt
  rw [Method.on_bind, Method.on_get, pure_bind, Method.andThen_ok, if_pos (.inr hstate)]
  rfl

namespace Runtime

variable {config : Config} {s s' : Runtime} {a : RuntimeAction}

/-- A feed-outage check under way ends in a terminal state if the monitor is in one. -/
def OutageKeepsTerminal (s : Runtime) : Prop :=
  s.monitor.state.isTerminal = true → ∀ p, s.outage = some p →
    Always (fun _ => True) (fun r => r.2.state.isTerminal = true) p

theorem outageKeepsTerminal_of_none (h : s.outage = none) : s.OutageKeepsTerminal := by
  intro _ p hp
  rw [h] at hp
  cases hp

theorem OutageKeepsTerminal.step (h : s.OutageKeepsTerminal)
    (hstep : s.step config a = some s') : s'.OutageKeepsTerminal := by
  cases steps_of_step hstep with
  | evaluated request hloop hsubmit | enqueued request rest hloop hdecided hroom
  | discarded hloop | taken request rest hworker hqueue | workerCalled answer c next hworker
  | workerFinished feedback hworker | spawned kind hloop htask
  | monitorCalled kind answer task htask | commanded command => exact h
  | rejected request rest hloop hdecided hfull
  | feedbackMerged answers feedback rest hloop hfeedback
  | merged kind base r calls hloop htask | blocked reason hloop =>
    exact outageKeepsTerminal_of_none hloop
  | outageStarted outage hloop =>
    rintro hterminal p ⟨⟩
    rw [on_refreshArmedFeedOutageHalt_of_isTerminal hterminal]
    exact hterminal
  | outageCalled answer c next houtage =>
    rintro hterminal p ⟨⟩
    exact (h hterminal _ houtage).2 _
  | outageEnded r houtage => exact outageKeepsTerminal_of_none rfl

/-- A step keeps a terminal state, and takes one over from a feedback, if the feedback respects
terminal states. -/
theorem isTerminal_of_steps {due : Bool} (houtage : s.OutageKeepsTerminal)
    (hstep : s.step config a = some s') (hmeets : FeedbackRespectsTerminal due s a s')
    (hdue : s.monitor.state.isTerminal = true ∨ s.processesUnknownOrder a = true) :
    s'.monitor.state.isTerminal = true := by
  have hkept : ∀ {reason : String}, s.processesUnknownOrder a = false →
      (markLiveSubmissionBlocked s.monitor reason).state.isTerminal = true := by
    intro reason hother
    rw [state_markLiveSubmissionBlocked]
    simpa [hother] using hdue
  cases steps_of_step hstep with
  | feedbackMerged answers feedback rest hloop hfeedback =>
    apply (hmeets answers feedback rest rfl hfeedback).isTerminal
    simpa [processesUnknownOrder, hfeedback] using hdue
  | merged kind base r calls hloop htask =>
    have hmonitor : s.monitor.state.isTerminal = true := by
      simpa [processesUnknownOrder] using hdue
    exact isTerminal_applyLiveMonitorWorkerOutput hmonitor _
  | outageEnded r hended =>
    have hmonitor : s.monitor.state.isTerminal = true := by
      simpa [processesUnknownOrder] using hdue
    exact houtage hmonitor _ hended
  | rejected request rest hloop hdecided hfull => exact hkept rfl
  | blocked reason hloop => exact hkept rfl
  | _ => simpa [processesUnknownOrder] using hdue

end Runtime

/-- If the feedback respects terminal states, they last. -/
theorem terminal_states_last (config : Config) (monitor : LiveTradingMonitor) (world : World) :
    TerminalStatesLast config FeedbackRespectsTerminal (Runtime.start monitor world) := by
  intro s hrun
  have hinv := hrun.invariant
    (fun due s => (due = true → s.monitor.state.isTerminal = true) ∧ s.OutageKeepsTerminal)
    ⟨id, Runtime.outageKeepsTerminal_of_none rfl⟩ ?_
  · exact hinv.1 rfl
  intro due s a s' hinv hstep hmeets
  refine ⟨?_, hinv.2.step hstep⟩
  intro hdue
  simp only [terminalSystem, Bool.or_eq_true] at hdue
  rcases hdue with (hbefore | hafter) | hunknown
  · exact Runtime.isTerminal_of_steps hinv.2 hstep hmeets (.inl (hinv.1 hbefore))
  · exact hafter
  · exact Runtime.isTerminal_of_steps hinv.2 hstep hmeets (.inr hunknown)

/-- The submission worker takes the request and cannot open the database. -/
def workWithoutDatabase : List RuntimeAction :=
  [.takeRequest, .workerCall (sampleFailure 3000)]

/-- The feedback of a request that was cut off before the halt disarms the halted session. -/
theorem halt_overwritten :
    ¬ TerminalStatesLast sampleConfig (fun _ _ _ _ => True)
      (Runtime.start sampleMonitor sampleWorld) := by
  intro h
  have hfollow : ((terminalSystem sampleConfig).follow (fun _ _ _ _ => true)
      (queueOne ++ workWithoutDatabase ++ haltByOutage ++
        [.workerDone, .mergeFeedback ⟨true, true⟩])
      (false, Runtime.start sampleMonitor sampleWorld)).any (fun x =>
        x.1 && !x.2.monitor.state.isTerminal) = true := by
    decide +kernel
  obtain ⟨due, s, hrun, hs⟩ := System.exists_run_of_follow hfollow fun _ _ _ _ _ => trivial
  simp only [Bool.and_eq_true, Bool.not_eq_true'] at hs
  obtain ⟨rfl, hstate⟩ := hs
  have hterminal := h s hrun
  rw [hstate] at hterminal
  cases hterminal

instance (monitor : LiveTradingMonitor) (answers : StrategyQueueAnswers)
    (feedback : LiveSubmissionFeedback) : Decidable (RespectsTerminal monitor answers feedback) :=
  decidable_of_iff
    ((monitor.state.isTerminal = true → delivered answers feedback = true →
        ∀ update ∈ feedback.stateUpdate, update.state.isTerminal = true) ∧
      (feedback.isUnknownOrder = true →
        delivered answers feedback = true ∨ monitor.state.isTerminal = true))
    ⟨fun h => ⟨h.1, h.2⟩, fun h => ⟨h.keeps, h.reaches⟩⟩

/-- The check of `FeedbackRespectsTerminal`. -/
def feedbackRespectsTerminal (_ : Bool) (s : Runtime) (a : RuntimeAction) (_ : Runtime) : Bool :=
  match a with
  | .mergeFeedback answers => s.feedback.head?.all fun feedback =>
    decide (RespectsTerminal s.monitor answers feedback)
  | _ => true

theorem feedbackRespectsTerminal_iff {due : Bool} {s s' : Runtime} {a : RuntimeAction} :
    feedbackRespectsTerminal due s a s' = true ↔ FeedbackRespectsTerminal due s a s' := by
  cases a with
  | mergeFeedback answers =>
    cases hfeedback : s.feedback <;> simp [feedbackRespectsTerminal, FeedbackRespectsTerminal,
      hfeedback]
  | _ => simp [feedbackRespectsTerminal, FeedbackRespectsTerminal]

/-- The venue call is not answered: its feedback asks for the state of an unknown order, and a
blocked submission leaves that state alone. -/
theorem terminal_states_last_sample :
    ∃ s, (terminalSystem sampleConfig).Run FeedbackRespectsTerminal
        (false, Runtime.start sampleMonitor sampleWorld) true s ∧
      s.monitor.state.isTerminal = true := by
  have hfollow : ((terminalSystem sampleConfig).follow feedbackRespectsTerminal
      (queueOne ++ workUpToVenue ++ List.replicate 9 (.workerCall unansweredSubmission) ++
        [.workerDone, .mergeFeedback ⟨true, true⟩, .block "queue full"])
      (false, Runtime.start sampleMonitor sampleWorld)).any (fun x => x.1) = true := by
    decide +kernel
  obtain ⟨due, s, hrun, rfl⟩ := System.exists_run_of_follow hfollow
    fun _ _ _ _ => feedbackRespectsTerminal_iff.mp
  exact ⟨s, hrun, terminal_states_last sampleConfig sampleMonitor sampleWorld s hrun⟩

end BubaPaint
