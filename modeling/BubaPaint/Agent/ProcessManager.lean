import BubaPaint.Library.Runs

/-!
# The process manager of the agent

The agent starts, stops and restarts the bot as a child process, and a watchdog respawns a child that
has exited. The calls and the watchdogs are tasks that share two flags, the last pid and a count of
restarts; a task runs alone from one await point to the next, and the tasks take turns in any order.
-/

namespace BubaPaint

/-- Configuration for spawning the bot process. -/
structure ProcessConfig where
  /-- The command and its arguments; the agent refuses to run with an empty one. -/
  command : List String
  nonempty : command ≠ []
  /-- Maximum automatic restarts before giving up. -/
  maxRestarts : ℕ

/-- Why a call fails. -/
inductive AgentError where
  | botControl (message : String)
  deriving DecidableEq

/-- Bot process status, without the uptime. -/
structure BotProcessStatus where
  active : Bool
  pid : Option ℕ
  controlAvailable : Bool
  deriving DecidableEq

/-- A child process that the agent has spawned. -/
structure BotChild where
  pid : ℕ
  running : Bool
  deriving DecidableEq

/-- Who stops the bot: an operator, or a restart on the way to its start. -/
inductive StopCaller where
  | stop
  | restart
  deriving DecidableEq

/-- Where a task waits. -/
inductive AgentTask where
  /-- `stop` has disabled the watchdogs and waits for the pid. -/
  | reading (caller : StopCaller)
  /-- `stop` has sent the signal and waits for the child to exit. -/
  | terminating (caller : StopCaller) (pid : ℕ)
  /-- `stop` has killed the child. -/
  | killed (caller : StopCaller) (pid : ℕ)
  /-- `stop` waits for the status that it returns. -/
  | stopped (caller : StopCaller)
  /-- `restart` pauses between its stop and its start. -/
  | restarting
  /-- `start` has found the bot dead and waits to reset the count of restarts. -/
  | resetting
  /-- `spawn` has a child and waits to publish its pid. -/
  | spawned (child : BotChild)
  /-- `start` gives its child some time. -/
  | settling
  /-- `start` waits for the status that it returns. -/
  | reporting
  | returned (result : Except AgentError BotProcessStatus)
  /-- A watchdog waits for its child to exit. -/
  | waiting (child : BotChild)
  /-- A watchdog waits to count the exit of its child. -/
  | counting
  /-- A watchdog waits for the restart delay. -/
  | sleeping
  /-- A watchdog has a new child and waits to publish its pid. -/
  | respawned (child : BotChild)
  /-- A watchdog has given up. -/
  | ended
  deriving DecidableEq

namespace AgentTask

def child? : AgentTask → Option BotChild
  | .spawned child | .waiting child | .respawned child => some child
  | _ => none

def runs (task : AgentTask) : Bool :=
  task.child?.any (·.running)

def exitChild : AgentTask → AgentTask
  | .spawned child => .spawned { child with running := false }
  | .waiting child => .waiting { child with running := false }
  | .respawned child => .respawned { child with running := false }
  | task => task

end AgentTask

/-- What the tasks share, and the tasks. -/
structure AgentState where
  pid : Option ℕ
  restartCount : ℕ
  watchdogEnabled : Bool
  alive : Bool
  tasks : List AgentTask
  deriving DecidableEq

/-- What a task finds in its turn: whether its deadline has passed, and the pid of the child if it
spawns one. -/
structure AgentTurn where
  expired : Bool
  spawn : Except String ℕ

namespace AgentState

def new : AgentState where
  pid := none
  restartCount := 0
  watchdogEnabled := false
  alive := false
  tasks := []

variable (state : AgentState)

def running : ℕ :=
  state.tasks.countP AgentTask.runs

def status : BotProcessStatus where
  active := state.alive
  pid := if state.alive then state.pid else none
  controlAvailable := true

def beginStart : AgentTask :=
  if state.alive then .reporting else .resetting

/-- What a task does in its turn: the shared state and where the task waits next, and the watchdog
that it spawns. -/
def proceed (config : ProcessConfig) (turn : AgentTurn) :
    AgentTask → Option (AgentState × AgentTask × List AgentTask)
  | .reading caller =>
    match state.pid with
    | some pid =>
      if state.alive then some (state, .terminating caller pid, [])
      else some (state, .stopped caller, [])
    | none => some (state, .stopped caller, [])
  | .terminating caller pid =>
    if ¬ turn.expired ∧ state.alive then some (state, .terminating caller pid, [])
    else if state.alive then some (state, .killed caller pid, [])
    else some (state, .stopped caller, [])
  | .killed caller pid =>
    -- a killed child has exited before the call goes on
    if state.tasks.any (fun task => task.child?.any fun child =>
        child.running && child.pid == pid) then none
    else some (state, .stopped caller, [])
  | .stopped .stop => some (state, .returned (.ok state.status), [])
  | .stopped .restart => some (state, .restarting, [])
  | .restarting => some (state, state.beginStart, [])
  | .resetting =>
    let state := { state with restartCount := 0 }
    if config.command = [] then
      some (state, .returned (.error (.botControl "bot command is empty")), [])
    else
      match turn.spawn with
      | .error e =>
        some (state, .returned (.error (.botControl s!"failed to spawn bot: {e}")), [])
      | .ok pid => some (state, .spawned { pid := pid, running := true }, [])
  | .spawned child =>
    some ({ state with pid := some child.pid, alive := true, watchdogEnabled := true }, .settling,
      [.waiting child])
  | .settling => some (state, .reporting, [])
  | .reporting => some (state, .returned (.ok state.status), [])
  | .returned _ => none
  | .waiting child =>
    if child.running then none
    else
      let state := { state with alive := false }
      if state.watchdogEnabled then some (state, .counting, []) else some (state, .ended, [])
  | .counting =>
    let count := state.restartCount + 1
    let state := { state with restartCount := count }
    if config.maxRestarts < count then some (state, .ended, []) else some (state, .sleeping, [])
  | .sleeping =>
    if ¬ state.watchdogEnabled then some (state, .ended, [])
    else
      match turn.spawn with
      | .ok pid => some (state, .respawned { pid := pid, running := true }, [])
      | .error _ => some (state, .ended, [])
  | .respawned child =>
    some ({ state with pid := some child.pid, alive := true }, .waiting child, [])
  | .ended => none

/-- The state after task number `index` has waited where `next` says. -/
def moveTask (index : ℕ) (moved : AgentState × AgentTask × List AgentTask) : AgentState :=
  { moved.1 with tasks := state.tasks.set index moved.2.1 ++ moved.2.2 }

/-- A new call. -/
def addTask (task : AgentTask) : AgentState :=
  { state with tasks := state.tasks ++ [task] }

end AgentState

/-- What happens to the process manager. -/
inductive AgentAction where
  | start
  | stop
  | restart
  /-- A task takes its turn. -/
  | proceed (index : ℕ) (turn : AgentTurn)
  /-- The child of a task exits. -/
  | exit (index : ℕ)

def AgentState.step (config : ProcessConfig) (state : AgentState) :
    AgentAction → Option AgentState
  | .start => some (state.addTask state.beginStart)
  | .stop => some ({ state with watchdogEnabled := false }.addTask (.reading .stop))
  | .restart => some ({ state with watchdogEnabled := false }.addTask (.reading .restart))
  | .proceed index turn => do
      let task ← state.tasks[index]?
      (state.proceed config turn task).map (state.moveTask index)
  | .exit index => do
      let task ← state.tasks[index]?
      some { state with tasks := state.tasks.set index task.exitChild }

end BubaPaint
