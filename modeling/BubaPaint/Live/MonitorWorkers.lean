import BubaPaint.Live.Monitor

/-!
# The monitor in the runtime loop

Two kinds of workers run methods on a copy of the monitor; the loop merges what they return into its
own monitor. Between a spawn and its merge the loop changes its monitor as well: it marks blockers
and takes over the feedback of the submission worker.
-/

namespace BubaPaint

open Effects

/-- Kind of live monitor worker running outside the feed loop. -/
inductive LiveMonitorWorkerKind where
  | controls
  | remoteRefresh
  deriving DecidableEq

namespace LiveMonitorWorkerKind

def debug : LiveMonitorWorkerKind → String
  | .controls => "Controls"
  | .remoteRefresh => "RemoteRefresh"

end LiveMonitorWorkerKind

/-- Live monitor worker result returned to the runtime. -/
structure LiveMonitorWorkerOutput where
  kind : LiveMonitorWorkerKind
  result : Except String LiveTradingMonitor

/-- The output of a worker whose method ended with an outcome and a receiver. -/
def workerOutput (kind : LiveMonitorWorkerKind)
    (outcome : Except String Unit × LiveTradingMonitor) : LiveMonitorWorkerOutput where
  kind := kind
  result := outcome.1.map fun _ => outcome.2

/-- What a live monitor worker runs on its copy of the monitor. -/
def liveMonitorWorkerMethod (config : Config) : LiveMonitorWorkerKind → MonitorMethod Unit
  | .controls => LiveTradingMonitor.applyPendingControls config
  | .remoteRefresh => do
      let _ ← LiveTradingMonitor.refreshRemoteState config

def spawnLiveMonitorWorker (config : Config) (monitor : LiveTradingMonitor)
    (kind : LiveMonitorWorkerKind) : Live LiveMonitorWorkerOutput :=
  workerOutput kind <$> (liveMonitorWorkerMethod config kind).on monitor

/-- Merge remote health/account data without overwriting newer control state. -/
def mergeLiveRemoteRefreshState (target updated : LiveTradingMonitor) : LiveTradingMonitor :=
  { target with
    preflight := updated.preflight
    account := updated.account
    activity := updated.activity
    risk := updated.risk
    degradation := updated.degradation
    blockedReason :=
      if updated.state.isTerminal || !target.state.isTerminal then updated.blockedReason
      else target.blockedReason
    state := if updated.state.isTerminal then updated.state else target.state
    finished := if updated.state.isTerminal then updated.finished else target.finished }

/-- Merge a worker-owned monitor snapshot back into the runtime snapshot. -/
def mergeLiveMonitorState (target updated : LiveTradingMonitor) :
    LiveMonitorWorkerKind → LiveTradingMonitor
  | .remoteRefresh => mergeLiveRemoteRefreshState target updated
  | .controls =>
    if target.state.isTerminal && !updated.state.isTerminal then
      { target with
        preflight := updated.preflight
        account := updated.account
        activity := updated.activity
        risk := updated.risk
        degradation := updated.degradation }
    else
      updated

/-- Merge one background monitor result without clearing terminal local state. -/
def applyLiveMonitorWorkerOutput (monitor : LiveTradingMonitor) (output : LiveMonitorWorkerOutput) :
    LiveTradingMonitor :=
  match output.result with
  | .ok updated => mergeLiveMonitorState monitor updated output.kind
  | .error error =>
    if monitor.terminalRiskIsActive then
      { monitor with blockedReason := some s!"{output.kind.debug} worker failed: {error}" }
    else
      monitor

/-- Mark live submissions blocked when a worker queue rejects critical work. -/
def markLiveSubmissionBlocked (monitor : LiveTradingMonitor) (reason : String) :
    LiveTradingMonitor :=
  if monitor.terminalRiskIsActive then { monitor with blockedReason := some reason } else monitor

/-- How the bounded queue of the strategy worker answers two messages sent one after another. -/
structure StrategyQueueAnswers where
  feedbackAccepted : Bool
  releasesAccepted : Bool
  deriving DecidableEq

/-- Apply feedback emitted by the live submission worker. The messages that reach the strategy
worker are no part of the monitor. -/
def applyLiveSubmissionFeedback (monitor : LiveTradingMonitor) (answers : StrategyQueueAnswers)
    (feedback : LiveSubmissionFeedback) : LiveTradingMonitor :=
  let appliedFeedback :=
    if feedback.fills.isEmpty && feedback.rejectedSignalIds.isEmpty then true
    else answers.feedbackAccepted
  if !appliedFeedback then
    markLiveSubmissionBlocked monitor "strategy worker rejected live submission feedback"
  else if !feedback.releases.isEmpty && !answers.releasesAccepted then
    markLiveSubmissionBlocked monitor "strategy worker rejected reserve release"
  else
    match feedback.stateUpdate with
    | some update =>
      { monitor with
        state := update.state
        blockedReason := some update.reason }
    | none => monitor

/-- Whether a feedback reaches the strategy worker, so that its state update is looked at. -/
def delivered (answers : StrategyQueueAnswers) (feedback : LiveSubmissionFeedback) : Bool :=
  (feedback.fills.isEmpty && feedback.rejectedSignalIds.isEmpty || answers.feedbackAccepted) &&
    (feedback.releases.isEmpty || answers.releasesAccepted)

variable (target updated monitor : LiveTradingMonitor) (kind : LiveMonitorWorkerKind)

@[simp]
theorem state_markLiveSubmissionBlocked (reason : String) :
    (markLiveSubmissionBlocked monitor reason).state = monitor.state := by
  unfold markLiveSubmissionBlocked
  split <;> rfl

/-- The state after a feedback: its state update, if it is delivered and has one. -/
theorem state_applyLiveSubmissionFeedback (answers : StrategyQueueAnswers)
    (feedback : LiveSubmissionFeedback) :
    (applyLiveSubmissionFeedback monitor answers feedback).state =
      if delivered answers feedback then
        (feedback.stateUpdate.map LiveSubmissionStateUpdate.state).getD monitor.state
      else monitor.state := by
  unfold applyLiveSubmissionFeedback delivered
  cases feedback.fills.isEmpty && feedback.rejectedSignalIds.isEmpty <;>
  cases answers.feedbackAccepted <;> cases feedback.releases.isEmpty <;>
  cases answers.releasesAccepted <;> cases feedback.stateUpdate <;> simp

/-- The state after a merge: a terminal state of the worker wins, and a terminal state of the loop
is only replaced by another one. -/
theorem state_mergeLiveMonitorState :
    (mergeLiveMonitorState target updated kind).state =
      if updated.state.isTerminal then updated.state
      else if target.state.isTerminal || kind == .remoteRefresh then target.state
      else updated.state := by
  cases kind with
  | remoteRefresh => simp [mergeLiveMonitorState, mergeLiveRemoteRefreshState]
  | controls =>
    unfold mergeLiveMonitorState
    cases target.state.isTerminal <;> cases updated.state.isTerminal <;> simp

@[simp]
theorem isTerminal_mergeLiveMonitorState :
    (mergeLiveMonitorState target updated kind).state.isTerminal =
      (target.state.isTerminal || updated.state.isTerminal) := by
  rw [state_mergeLiveMonitorState]
  cases htarget : target.state.isTerminal <;> cases hupdated : updated.state.isTerminal <;>
    cases kind <;> simp [htarget, hupdated]

theorem state_applyLiveMonitorWorkerOutput_error (error : String) :
    (applyLiveMonitorWorkerOutput monitor { kind := kind, result := .error error }).state =
      monitor.state := by
  unfold applyLiveMonitorWorkerOutput
  simp only
  split <;> rfl

/-- Merging keeps a terminal state terminal. -/
theorem isTerminal_applyLiveMonitorWorkerOutput {monitor : LiveTradingMonitor}
    (h : monitor.state.isTerminal = true) (output : LiveMonitorWorkerOutput) :
    (applyLiveMonitorWorkerOutput monitor output).state.isTerminal = true := by
  rcases output with ⟨kind, error | updated⟩
  · rw [state_applyLiveMonitorWorkerOutput_error]
    exact h
  · simp [applyLiveMonitorWorkerOutput, h]

/-- The sample world with capture metadata in good standing. -/
def captureWorld : World :=
  { sampleWorld with
    db := { sampleWorld.db with runMetadata := [("runtime_capture_health", "sweep_grade")] } }

def sampleMonitor : LiveTradingMonitor :=
  { LiveTradingMonitor.start 1 with state := .armed }

/-- The venue refuses the session, so that every report counts as degraded. -/
def degradedAnswer (nowMs : ℕ) : Answer :=
  { sampleAnswer nowMs with
    preflight := .ok
      { ok := false, walletAddress := none, proxyWallet := none, signatureType := some 0,
        geoblockStatus := .ok, geoblockIp := none, authStatus := .ok, clockStatus := .ok,
        userStreamStatus := .failed, errors := [] } }

end BubaPaint
