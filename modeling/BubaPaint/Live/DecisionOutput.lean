import BubaPaint.Decision.Messages
import BubaPaint.Live.MonitorWorkers

/-!
# The way of a decision output

The strategy worker forwards each output through a bounded queue to the loop. The loop rejects a
stale output, and hands the parts of a fresh one to the persistence writer and to the submission
queue. Every queue may be full, and orders that cannot go on are rolled back.
-/

namespace BubaPaint

namespace RuntimeDecisionEngine

variable {σ : Type} [Strategy σ]

def output? (engine : RuntimeDecisionEngine σ) : EngineMessage → Option RuntimeDecisionOutput
  | .evaluate request => some (engine.evaluate request).1
  | .liveFeedback .. | .releaseReservations _ => none
  | .windowClosed window nowMs => some (engine.windowClosed window nowMs).1
  | .authoritativeResolution window outcome nowMs =>
    some (engine.authoritativeResolution window outcome nowMs).1
  | .flushAll nowMs => some (engine.flushAll nowMs).1

end RuntimeDecisionEngine

def orderSignalIds (orders : List QueuedOrderIntent) : List ℤ :=
  orders.map (·.signalId)

def orderReleases (orders : List QueuedOrderIntent) : List (String × ℚ) :=
  orders.map fun order => (order.strategy, order.reservedCost)

/-- Release in-memory live reservations when worker output cannot be delivered. -/
def rollbackLiveOrdersAfterWorkerOutputDrop {σ : Type} (engine : RuntimeDecisionEngine σ)
    (output : RuntimeDecisionOutput) : RuntimeDecisionEngine σ :=
  if output.liveOrders.isEmpty then
    engine
  else
    (engine.applyLiveSubmissionFeedback [] (orderSignalIds output.liveOrders)
      output.nowMs).releaseReservations (orderReleases output.liveOrders)

/-- Forward one decision-worker output to the async runtime. -/
def forwardStrategyOutput {σ : Type} (accepted : Bool) (output : RuntimeDecisionOutput)
    (engine : RuntimeDecisionEngine σ) : Option RuntimeDecisionOutput × RuntimeDecisionEngine σ :=
  if accepted then (some output, engine)
  else (none, rollbackLiveOrdersAfterWorkerOutputDrop engine output)

/-- The counters that the queues of the strategy worker keep. -/
structure StrategyWorkerMetrics where
  enqueued : ℕ
  dropped : ℕ
  outputDropped : ℕ

namespace StrategyWorkerMetrics

/-- Forwarding an output counts it if the queue to the loop does not take it. -/
def afterForward (metrics : StrategyWorkerMetrics) (accepted : Bool) : StrategyWorkerMetrics :=
  if accepted then metrics else { metrics with outputDropped := metrics.outputDropped + 1 }

/-- Enqueue one strategy-evaluation request: none any more once an output was dropped. -/
def tryEvaluate (metrics : StrategyWorkerMetrics) : Bool × StrategyWorkerMetrics :=
  if 0 < metrics.outputDropped then (false, { metrics with dropped := metrics.dropped + 1 })
  else (true, { metrics with enqueued := metrics.enqueued + 1 })

/-- A dropped output is a latch: every evaluation after it is refused. -/
theorem tryEvaluate_of_dropped {metrics : StrategyWorkerMetrics} (h : 0 < metrics.outputDropped) :
    metrics.tryEvaluate.1 = false ∧ 0 < metrics.tryEvaluate.2.outputDropped := by
  simp [tryEvaluate, h]

end StrategyWorkerMetrics

/-- The loop asks for its next evaluation, and blocks live submission if the worker refuses it. -/
def requestEvaluation (metrics : StrategyWorkerMetrics) (monitor : Option LiveTradingMonitor) :
    Option LiveTradingMonitor :=
  if metrics.tryEvaluate.1 then monitor
  else monitor.map fun monitor =>
    markLiveSubmissionBlocked monitor "strategy worker queue rejected evaluation"

/-- How the bounded queues answer while the loop handles one output: the persistence writer to each
event it is offered, the submission queue to a request and the strategy worker to a rollback. -/
structure OutputQueues where
  persistenceAccepts : ℕ → Bool
  submissionAccepts : Bool
  strategyAnswers : StrategyQueueAnswers

/-- What has become of an output. -/
structure HandledOutput where
  enqueued : List LivePersistenceEvent
  submitted : Option LiveSubmissionRequest
  messages : List EngineMessage
  monitor : Option LiveTradingMonitor

/-- The messages of a rollback that the strategy worker accepts. -/
def rollbackMessages (answers : StrategyQueueAnswers) (orders : List QueuedOrderIntent)
    (nowMs : ℕ) : List EngineMessage :=
  (if answers.feedbackAccepted then [.liveFeedback [] (orderSignalIds orders) nowMs] else []) ++
    if answers.releasesAccepted then [.releaseReservations (orderReleases orders)] else []

/-- The monitor after a rollback: a refused message blocks live submission. -/
def rollbackMonitor (answers : StrategyQueueAnswers) (monitor : Option LiveTradingMonitor) :
    Option LiveTradingMonitor :=
  let monitor :=
    if answers.feedbackAccepted then monitor
    else monitor.map fun monitor =>
      markLiveSubmissionBlocked monitor "strategy worker rejected runtime queue rollback"
  if answers.releasesAccepted then monitor
  else monitor.map fun monitor =>
    markLiveSubmissionBlocked monitor "strategy worker rejected runtime queue reserve release"

/-- Release in-memory pending live orders when runtime queues reject them. -/
def rollbackLiveOrdersAfterRuntimeRejection (queues : OutputQueues)
    (orders : List QueuedOrderIntent) (nowMs : ℕ) (handled : HandledOutput) : HandledOutput :=
  { handled with
    messages := handled.messages ++ rollbackMessages queues.strategyAnswers orders nowMs
    monitor := rollbackMonitor queues.strategyAnswers handled.monitor }

/-- Return whether one event is critical evidence for a live order in this output. -/
def liveOrderCriticalSignalEvent (signalIds : List ℤ) : LivePersistenceEvent → Bool
  | .signal evidence => signalIds.contains evidence.signalId
  | _ => false

def signalEventIds (events : List LivePersistenceEvent) : List ℤ :=
  events.filterMap fun event =>
    match event with
    | .signal evidence => some evidence.signalId
    | _ => none

/-- Return whether every live order signal has a critical evidence row. -/
def criticalLiveEvidenceIsComplete (events : List LivePersistenceEvent) (signalIds : List ℤ) :
    Bool :=
  signalIds.all fun signalId => (signalEventIds events).contains signalId

/-- The loop over the events of a fresh output. -/
structure EventLoop where
  offered : ℕ
  enqueued : List LivePersistenceEvent
  criticalEvents : List LivePersistenceEvent
  criticalPersistenceFailed : Bool
  monitor : Option LiveTradingMonitor

/-- Set one event apart as critical evidence, or offer it to the persistence writer. -/
def handleEvent (queues : OutputQueues) (criticalSignalIds : List ℤ) (loop : EventLoop)
    (event : LivePersistenceEvent) : EventLoop :=
  if liveOrderCriticalSignalEvent criticalSignalIds event then
    { loop with criticalEvents := loop.criticalEvents ++ [event] }
  else if queues.persistenceAccepts loop.offered then
    { loop with
      offered := loop.offered + 1
      enqueued := loop.enqueued ++ [event] }
  else
    { loop with
      offered := loop.offered + 1
      criticalPersistenceFailed := true
      monitor := loop.monitor.map fun monitor =>
        markLiveSubmissionBlocked monitor "runtime persistence queue rejected decision evidence" }

/-- Apply one pure decision output to asynchronous persistence and submission queues. -/
def handleStrategyDecisionOutput (queues : OutputQueues) (hasSubmissionQueue : Bool)
    (monitor : Option LiveTradingMonitor) (output : RuntimeDecisionOutput) : HandledOutput :=
  let criticalSignalIds := orderSignalIds output.liveOrders
  let loop := output.persistenceEvents.foldl (handleEvent queues criticalSignalIds)
    { offered := 0, enqueued := [], criticalEvents := [], criticalPersistenceFailed := false,
      monitor := monitor }
  let handled : HandledOutput :=
    { enqueued := loop.enqueued, submitted := none, messages := [], monitor := loop.monitor }
  if loop.criticalPersistenceFailed && !output.liveOrders.isEmpty then
    rollbackLiveOrdersAfterRuntimeRejection queues output.liveOrders output.nowMs handled
  else if !output.liveOrders.isEmpty &&
      !criticalLiveEvidenceIsComplete loop.criticalEvents criticalSignalIds then
    rollbackLiveOrdersAfterRuntimeRejection queues output.liveOrders output.nowMs handled
  else if !output.liveOrders.isEmpty && hasSubmissionQueue && output.submissionWindow.isSome then
    if queues.submissionAccepts then
      { handled with
        submitted := some
          { orders := output.liveOrders
            criticalEvents := loop.criticalEvents
            nowMs := output.nowMs } }
    else
      let handled :=
        rollbackLiveOrdersAfterRuntimeRejection queues output.liveOrders output.nowMs handled
      { handled with
        monitor := handled.monitor.map fun monitor =>
          markLiveSubmissionBlocked monitor "live submission queue rejected strategy output" }
  else
    handled

/-- Return whether one live decision output is too stale to submit. -/
def staleLiveDecisionOutput (config : Config) (latestSequence nowMs : ℕ)
    (output : RuntimeDecisionOutput) : Bool :=
  if output.liveOrders.isEmpty || output.decisionSequence == 0 then
    false
  else if output.decisionSequence < latestSequence then
    true
  else
    decide (saturatingAdd output.decisionInputAtMs (max config.maxLiveDecisionAgeMs 1) < nowMs)

def staleEvidence (evidence : LiveDecisionEvidence) : LiveDecisionEvidence where
  signalId := evidence.signalId
  marketId := evidence.marketId
  orderSubmittedAtMs := none
  expectedArrivalAtMs := none
  decisionStatus := "rejected"
  rejectionReason := some "stale_decision_output"

/-- Build rejected signal evidence for live orders discarded as stale. -/
def staleDecisionSignalEvents (output : RuntimeDecisionOutput) : List LivePersistenceEvent :=
  output.persistenceEvents.filterMap fun event =>
    match event with
    | .signal evidence =>
      if (orderSignalIds output.liveOrders).contains evidence.signalId then
        some (.signal (staleEvidence evidence))
      else
        none
    | _ => none

/-- Offer events to the persistence writer up to the first that it refuses. -/
def enqueueUntilRefused (queues : OutputQueues) (offered : ℕ) :
    List LivePersistenceEvent → List LivePersistenceEvent × Bool
  | [] => ([], false)
  | event :: rest =>
    if queues.persistenceAccepts offered then
      let (enqueued, failed) := enqueueUntilRefused queues (offered + 1) rest
      (event :: enqueued, failed)
    else
      ([], true)

/-- Reject one stale live output before it can reach the venue. -/
def rejectStaleLiveDecisionOutput (queues : OutputQueues) (monitor : Option LiveTradingMonitor)
    (output : RuntimeDecisionOutput) : HandledOutput :=
  let (enqueued, persistenceFailed) :=
    enqueueUntilRefused queues 0 (staleDecisionSignalEvents output)
  let monitor :=
    if persistenceFailed then
      monitor.map fun monitor =>
        markLiveSubmissionBlocked monitor
          "runtime persistence queue rejected stale-decision evidence"
    else
      monitor
  rollbackLiveOrdersAfterRuntimeRejection queues output.liveOrders output.nowMs
    { enqueued := enqueued, submitted := none, messages := [], monitor := monitor }

/-- What happens to an output: the queue to the loop drops it, or the loop receives it. The
submission queue is started together with the monitor. -/
inductive OutputRoute where
  | dropped
  | received (latestSequence nowMs : ℕ) (queues : OutputQueues)

def receiveStrategyOutput (config : Config) (latestSequence nowMs : ℕ) (queues : OutputQueues)
    (monitor : Option LiveTradingMonitor) (output : RuntimeDecisionOutput) : HandledOutput :=
  if staleLiveDecisionOutput config latestSequence nowMs output then
    rejectStaleLiveDecisionOutput queues monitor output
  else
    handleStrategyDecisionOutput queues monitor.isSome monitor output

/-- What becomes of an output. After a dropped one the monitor is seen when the loop has asked for
its next evaluation. -/
def OutputRoute.handle (config : Config) (metrics : StrategyWorkerMetrics)
    (monitor : Option LiveTradingMonitor) (output : RuntimeDecisionOutput) :
    OutputRoute → HandledOutput
  | .dropped =>
    { enqueued := [], submitted := none, messages := [],
      monitor := requestEvaluation (metrics.afterForward false) monitor }
  | .received latestSequence nowMs queues =>
    receiveStrategyOutput config latestSequence nowMs queues monitor output

end BubaPaint
