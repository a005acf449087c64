import BubaPaint.Library.Runs
import BubaPaint.Live.KillSwitch

/-!
# The live runtime

The loop owns the monitor. It hands the orders of a decision to the submission queue, takes over the
feedback of the submission worker and the results of the monitor workers, and halts an armed session
whose critical feed is lost. The submission worker and the monitor workers run beside it: each call
they make is a step of its own, so that every order of steps is covered.
-/

namespace BubaPaint

open Effects
open Program (Always Emits)

/-! ## State -/

/-- A monitor worker under way. -/
structure MonitorTask where
  /-- The monitor its copy was taken from. -/
  base : LiveTradingMonitor
  /-- What is left to run on the copy. -/
  program : Live (Except String Unit × LiveTradingMonitor)
  /-- The calls made so far. -/
  calls : List Exchange

/-- The live runtime. -/
structure Runtime where
  world : World
  monitor : LiveTradingMonitor
  /-- The live orders the strategy worker has decided on and the loop has not yet looked at. -/
  decided : List LiveSubmissionRequest
  /-- The bounded queue of the submission worker. -/
  queue : List LiveSubmissionRequest
  /-- What is left of the request the submission worker is at. -/
  worker : Option (Live LiveSubmissionFeedback)
  /-- The feedback the loop has not yet taken over. -/
  feedback : List LiveSubmissionFeedback
  tasks : LiveMonitorWorkerKind → Option MonitorTask
  /-- What is left of the feed-outage check, during which the loop does nothing else. -/
  outage : Option (Live (Except String Bool × LiveTradingMonitor))

/-- The steps of the runtime. -/
inductive RuntimeAction where
  /-- The strategy worker decides on live orders in an evaluation that may submit. -/
  | evaluate (request : LiveSubmissionRequest)
  /-- The loop hands the oldest decision to the submission queue. -/
  | enqueue
  /-- The loop drops the oldest decision, which is stale or lacks its evidence. -/
  | discard
  /-- The submission worker takes the oldest request. -/
  | takeRequest
  /-- A call of the submission worker is answered. -/
  | workerCall (answer : Answer)
  /-- The submission worker sends its feedback. -/
  | workerDone
  /-- The loop takes over the oldest feedback. -/
  | mergeFeedback (answers : StrategyQueueAnswers)
  /-- The loop starts a monitor worker. -/
  | spawn (kind : LiveMonitorWorkerKind)
  /-- A call of a monitor worker is answered. -/
  | monitorCall (kind : LiveMonitorWorkerKind) (answer : Answer)
  /-- The loop takes over the result of a monitor worker. -/
  | merge (kind : LiveMonitorWorkerKind)
  /-- The loop starts the feed-outage check. -/
  | feedOutage (outage : Option (String × ℕ))
  /-- A call of the feed-outage check is answered. -/
  | outageCall (answer : Answer)
  /-- The feed-outage check ends. -/
  | outageDone
  /-- The loop marks submissions as blocked. -/
  | block (reason : String)
  /-- The operator queues a command. -/
  | command (command : LiveControlCommand)

namespace MonitorTask

def start (config : Config) (monitor : LiveTradingMonitor) (kind : LiveMonitorWorkerKind) :
    MonitorTask where
  base := monitor
  program := (liveMonitorWorkerMethod config kind).on monitor
  calls := []

def advance (task : MonitorTask) (answer : Answer) (world : World) : MonitorTask × World :=
  match task.program with
  | .pure _ => (task, world)
  | .request c next =>
    ({ task with
        program := next (c.answer answer world).1
        calls := task.calls ++ [⟨c, (c.answer answer world).1⟩] },
      (c.answer answer world).2)

theorem emits_advance {post : Except String Unit × LiveTradingMonitor → List Exchange → Prop}
    {task : MonitorTask} (h : Emits post task.program task.calls) (answer : Answer)
    (world : World) :
    Emits post (task.advance answer world).1.program (task.advance answer world).1.calls := by
  unfold advance
  cases hprogram : task.program with
  | pure r =>
    rw [hprogram] at h
    simpa [hprogram] using h
  | request c next =>
    rw [hprogram] at h
    exact h _

@[simp]
theorem base_advance (task : MonitorTask) (answer : Answer) (world : World) :
    (task.advance answer world).1.base = task.base := by
  unfold advance
  split <;> rfl

end MonitorTask

namespace Runtime

/-- The runtime as it starts: nothing is decided, queued or under way. -/
def start (monitor : LiveTradingMonitor) (world : World) : Runtime where
  world := world
  monitor := monitor
  decided := []
  queue := []
  worker := none
  feedback := []
  tasks _ := none
  outage := none

/-! ## Steps -/

/-- Hand the oldest decision to the submission queue; a full queue rejects it. -/
def enqueue (config : Config) (s : Runtime) : Option Runtime :=
  match s.decided with
  | [] => none
  | request :: rest =>
    if s.queue.length < max config.liveSubmissionQueueCapacity 1 then
      some { s with decided := rest, queue := s.queue ++ [request] }
    else
      some { s with
        decided := rest
        monitor := markLiveSubmissionBlocked s.monitor
          "live submission queue rejected strategy output" }

def takeRequest (config : Config) (s : Runtime) : Option Runtime :=
  match s.worker, s.queue with
  | none, request :: rest =>
    some { s with
      queue := rest
      worker := some (submitLiveOrdersFromWorker config s.monitor.sessionId request) }
  | _, _ => none

def workerCall (s : Runtime) (answer : Answer) : Option Runtime :=
  match s.worker with
  | some (.request c next) =>
    some { s with
      worker := some (next (c.answer answer s.world).1)
      world := (c.answer answer s.world).2 }
  | _ => none

/-- Send the feedback of a finished request. -/
def workerDone (s : Runtime) : Option Runtime :=
  match s.worker with
  | some (.pure feedback) => some { s with worker := none, feedback := s.feedback ++ [feedback] }
  | _ => none

def mergeFeedback (s : Runtime) (answers : StrategyQueueAnswers) : Option Runtime :=
  match s.feedback with
  | [] => none
  | feedback :: rest =>
    some { s with
      feedback := rest
      monitor := applyLiveSubmissionFeedback s.monitor answers feedback }

/-- Start a monitor worker, unless one of its kind is under way. -/
def spawn (config : Config) (s : Runtime) (kind : LiveMonitorWorkerKind) : Option Runtime :=
  match s.tasks kind with
  | some _ => none
  | none =>
    some { s with
      tasks := Function.update s.tasks kind (some (.start config s.monitor kind)) }

def monitorCall (s : Runtime) (kind : LiveMonitorWorkerKind) (answer : Answer) : Option Runtime :=
  match s.tasks kind with
  | none => none
  | some task =>
    some { s with
      tasks := Function.update s.tasks kind (some (task.advance answer s.world).1)
      world := (task.advance answer s.world).2 }

def merge (s : Runtime) (kind : LiveMonitorWorkerKind) : Option Runtime :=
  match s.tasks kind with
  | some { base := _, program := .pure r, calls := _ } =>
    some { s with
      tasks := Function.update s.tasks kind none
      monitor := applyLiveMonitorWorkerOutput s.monitor (workerOutput kind r) }
  | _ => none

def outageCall (s : Runtime) (answer : Answer) : Option Runtime :=
  match s.outage with
  | some (.request c next) =>
    some { s with
      outage := some (next (c.answer answer s.world).1)
      world := (c.answer answer s.world).2 }
  | _ => none

def outageDone (s : Runtime) : Option Runtime :=
  match s.outage with
  | some (.pure r) => some { s with outage := none, monitor := r.2 }
  | _ => none

/-- Let the loop act, unless it waits for the feed-outage check. -/
def loop (s : Runtime) (next : Option Runtime) : Option Runtime :=
  if s.outage.isSome then none else next

/-- One step of the runtime. -/
def step (config : Config) (s : Runtime) : RuntimeAction → Option Runtime
  | .evaluate request =>
    s.loop (if s.monitor.canSubmitOrders then some { s with decided := s.decided ++ [request] }
      else none)
  | .enqueue => s.loop (s.enqueue config)
  | .discard => s.loop (some { s with decided := s.decided.tail })
  | .takeRequest => s.takeRequest config
  | .workerCall answer => s.workerCall answer
  | .workerDone => s.workerDone
  | .mergeFeedback answers => s.loop (s.mergeFeedback answers)
  | .spawn kind => s.loop (s.spawn config kind)
  | .monitorCall kind answer => s.monitorCall kind answer
  | .merge kind => s.loop (s.merge kind)
  | .feedOutage outage =>
    s.loop (some { s with
      outage := some ((LiveTradingMonitor.refreshArmedFeedOutageHalt
        config.liveArmedFeedOutageHaltMs outage).on s.monitor) })
  | .outageCall answer => s.outageCall answer
  | .outageDone => s.outageDone
  | .block reason =>
    s.loop (some { s with monitor := markLiveSubmissionBlocked s.monitor reason })
  | .command command =>
    some { s with
      world := { s.world with db := (s.world.db.insertLiveControlCommand command).2 } }

/-! ## What a step can do -/

/-- Every way one step can go. -/
inductive Steps (config : Config) (s : Runtime) : RuntimeAction → Runtime → Prop
  | evaluated (request : LiveSubmissionRequest) (hloop : s.outage = none)
      (hsubmit : s.monitor.canSubmitOrders = true) :
      Steps config s (.evaluate request) { s with decided := s.decided ++ [request] }
  | enqueued (request : LiveSubmissionRequest) (rest : List LiveSubmissionRequest)
      (hloop : s.outage = none) (hdecided : s.decided = request :: rest)
      (hroom : s.queue.length < max config.liveSubmissionQueueCapacity 1) :
      Steps config s .enqueue { s with decided := rest, queue := s.queue ++ [request] }
  | rejected (request : LiveSubmissionRequest) (rest : List LiveSubmissionRequest)
      (hloop : s.outage = none) (hdecided : s.decided = request :: rest)
      (hfull : ¬ s.queue.length < max config.liveSubmissionQueueCapacity 1) :
      Steps config s .enqueue { s with
        decided := rest
        monitor := markLiveSubmissionBlocked s.monitor
          "live submission queue rejected strategy output" }
  | discarded (hloop : s.outage = none) :
      Steps config s .discard { s with decided := s.decided.tail }
  | taken (request : LiveSubmissionRequest) (rest : List LiveSubmissionRequest)
      (hworker : s.worker = none) (hqueue : s.queue = request :: rest) :
      Steps config s .takeRequest { s with
        queue := rest
        worker := some (submitLiveOrdersFromWorker config s.monitor.sessionId request) }
  | workerCalled (answer : Answer) (c : LiveCall) (next : c.Reply → Live LiveSubmissionFeedback)
      (hworker : s.worker = some (.request c next)) :
      Steps config s (.workerCall answer) { s with
        worker := some (next (c.answer answer s.world).1)
        world := (c.answer answer s.world).2 }
  | workerFinished (feedback : LiveSubmissionFeedback)
      (hworker : s.worker = some (.pure feedback)) :
      Steps config s .workerDone { s with worker := none, feedback := s.feedback ++ [feedback] }
  | feedbackMerged (answers : StrategyQueueAnswers) (feedback : LiveSubmissionFeedback)
      (rest : List LiveSubmissionFeedback) (hloop : s.outage = none)
      (hfeedback : s.feedback = feedback :: rest) :
      Steps config s (.mergeFeedback answers) { s with
        feedback := rest
        monitor := applyLiveSubmissionFeedback s.monitor answers feedback }
  | spawned (kind : LiveMonitorWorkerKind) (hloop : s.outage = none) (htask : s.tasks kind = none) :
      Steps config s (.spawn kind) { s with
        tasks := Function.update s.tasks kind (some (.start config s.monitor kind)) }
  | monitorCalled (kind : LiveMonitorWorkerKind) (answer : Answer) (task : MonitorTask)
      (htask : s.tasks kind = some task) :
      Steps config s (.monitorCall kind answer) { s with
        tasks := Function.update s.tasks kind (some (task.advance answer s.world).1)
        world := (task.advance answer s.world).2 }
  | merged (kind : LiveMonitorWorkerKind) (base : LiveTradingMonitor)
      (r : Except String Unit × LiveTradingMonitor) (calls : List Exchange)
      (hloop : s.outage = none)
      (htask : s.tasks kind = some { base := base, program := .pure r, calls := calls }) :
      Steps config s (.merge kind) { s with
        tasks := Function.update s.tasks kind none
        monitor := applyLiveMonitorWorkerOutput s.monitor (workerOutput kind r) }
  | outageStarted (outage : Option (String × ℕ)) (hloop : s.outage = none) :
      Steps config s (.feedOutage outage) { s with
        outage := some ((LiveTradingMonitor.refreshArmedFeedOutageHalt
          config.liveArmedFeedOutageHaltMs outage).on s.monitor) }
  | outageCalled (answer : Answer) (c : LiveCall)
      (next : c.Reply → Live (Except String Bool × LiveTradingMonitor))
      (houtage : s.outage = some (.request c next)) :
      Steps config s (.outageCall answer) { s with
        outage := some (next (c.answer answer s.world).1)
        world := (c.answer answer s.world).2 }
  | outageEnded (r : Except String Bool × LiveTradingMonitor)
      (houtage : s.outage = some (.pure r)) :
      Steps config s .outageDone { s with outage := none, monitor := r.2 }
  | blocked (reason : String) (hloop : s.outage = none) :
      Steps config s (.block reason)
        { s with monitor := markLiveSubmissionBlocked s.monitor reason }
  | commanded (command : LiveControlCommand) :
      Steps config s (.command command) { s with
        world := { s.world with db := (s.world.db.insertLiveControlCommand command).2 } }

theorem loop_eq_some {s s' : Runtime} {next : Option Runtime} :
    s.loop next = some s' ↔ s.outage = none ∧ next = some s' := by
  unfold loop
  cases s.outage <;> simp

/-- A step goes one of these ways. -/
theorem steps_of_step {config : Config} {s s' : Runtime} {a : RuntimeAction}
    (h : s.step config a = some s') : Steps config s a s' := by
  cases a with
  | evaluate request =>
    obtain ⟨hloop, h⟩ := loop_eq_some.mp h
    split at h
    · rename_i hsubmit
      cases h
      exact .evaluated request hloop hsubmit
    · cases h
  | enqueue =>
    obtain ⟨hloop, h⟩ := loop_eq_some.mp h
    unfold enqueue at h
    split at h
    · cases h
    · rename_i request rest hdecided
      split at h
      · rename_i hroom
        cases h
        exact .enqueued request rest hloop hdecided hroom
      · rename_i hfull
        cases h
        exact .rejected request rest hloop hdecided hfull
  | discard =>
    obtain ⟨hloop, h⟩ := loop_eq_some.mp h
    cases h
    exact .discarded hloop
  | takeRequest =>
    simp only [step, takeRequest] at h
    split at h
    · rename_i request rest hworker hqueue
      cases h
      exact .taken request rest hworker hqueue
    · cases h
  | workerCall answer =>
    simp only [step, workerCall] at h
    split at h
    · rename_i c next hworker
      cases h
      exact .workerCalled answer c next hworker
    · cases h
  | workerDone =>
    simp only [step, workerDone] at h
    split at h
    · rename_i feedback hworker
      cases h
      exact .workerFinished feedback hworker
    · cases h
  | mergeFeedback answers =>
    obtain ⟨hloop, h⟩ := loop_eq_some.mp h
    unfold mergeFeedback at h
    split at h
    · cases h
    · rename_i feedback rest hfeedback
      cases h
      exact .feedbackMerged answers feedback rest hloop hfeedback
  | spawn kind =>
    obtain ⟨hloop, h⟩ := loop_eq_some.mp h
    unfold spawn at h
    split at h
    · cases h
    · rename_i htask
      cases h
      exact .spawned kind hloop htask
  | monitorCall kind answer =>
    simp only [step, monitorCall] at h
    split at h
    · cases h
    · rename_i task htask
      cases h
      exact .monitorCalled kind answer task htask
  | merge kind =>
    obtain ⟨hloop, h⟩ := loop_eq_some.mp h
    unfold merge at h
    split at h
    · rename_i base r calls htask
      cases h
      exact .merged kind base r calls hloop htask
    · cases h
  | feedOutage outage =>
    obtain ⟨hloop, h⟩ := loop_eq_some.mp h
    cases h
    exact .outageStarted outage hloop
  | outageCall answer =>
    simp only [step, outageCall] at h
    split at h
    · rename_i c next houtage
      cases h
      exact .outageCalled answer c next houtage
    · cases h
  | outageDone =>
    simp only [step, outageDone] at h
    split at h
    · rename_i r houtage
      cases h
      exact .outageEnded r houtage
    · cases h
  | block reason =>
    obtain ⟨hloop, h⟩ := loop_eq_some.mp h
    cases h
    exact .blocked reason hloop
  | command command =>
    cases h
    exact .commanded command

end Runtime

end BubaPaint
