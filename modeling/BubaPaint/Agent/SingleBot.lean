import BubaPaint.Agent.ProcessManager
import Mathlib.Data.List.Perm.Basic

/-!
# At most one bot

The flag that tells whether the bot lives is down while a start waits to publish its child and while
a watchdog waits to respawn one. A start that checks it then runs a second bot, and a stop that checks
it then stops none.

Main results:

- Theorem `bots_race`: a start beside a watchdog can run two bots.
- Theorem `single_bot`: without races at most one child runs, and none after a stop.
-/

namespace BubaPaint

open Effects List

namespace AgentTask

/-- The task has found the bot dead and will publish a child, if it can spawn one. -/
def starting : AgentTask → Bool
  | .resetting | .spawned _ => true
  | _ => false

/-- The task will publish another child, if it can spawn one and its watchdog is enabled. -/
def respawning (config : ProcessConfig) : AgentTask → Bool
  | .counting => 0 < config.maxRestarts
  | .sleeping | .respawned _ => true
  | _ => false

def caller? : AgentTask → Option StopCaller
  | .reading caller | .terminating caller _ | .killed caller _ | .stopped caller => some caller
  | _ => none

/-- An operator's stop is under way. -/
def stopping (task : AgentTask) : Bool :=
  task.caller? = some .stop

/-- The task has respawned the bot and not yet published it. -/
def unpublished : AgentTask → Bool
  | .respawned _ => true
  | _ => false

/-- The watchdog waits for a child that it has published. -/
def watches : AgentTask → Bool
  | .waiting _ => true
  | _ => false

def spawns (config : ProcessConfig) (task : AgentTask) : Bool :=
  task.starting || task.respawning config || task.watches

end AgentTask

/-- Nobody is about to start, respawn or stop the bot. -/
def AgentState.Quiet (config : ProcessConfig) (state : AgentState) : Prop :=
  ∀ task ∈ state.tasks, task.starting = false ∧ task.respawning config = false ∧
    task.stopping = false

/-- The process manager with the fact that a stop has returned and no start or restart was called
since. -/
def agentSystem (config : ProcessConfig) : System AgentState AgentAction Bool where
  step := AgentState.step config
  record stopped state action _ :=
    match action with
    | .start | .restart => false
    | .proceed index _ => stopped || state.tasks[index]? = some (.stopped .stop)
    | _ => stopped

/-- A turn that does not race: a stop looks for the bot when no watchdog has an unpublished child, and
a restart finds it dead when nobody else is about to change that and no stop has returned. -/
def AgentState.CarefulTurn (config : ProcessConfig) (stopped : Bool) (state : AgentState) :
    AgentTask → Prop
  | .reading .stop => ∀ task ∈ state.tasks, task.unpublished = false
  | .restarting => state.alive = true ∨ stopped = false ∧ state.Quiet config
  | _ => True

/-- A step that does not race: a start finds the bot dead when nobody else is about to change that, and
a stop is called when no start has. -/
def AgentState.Careful (config : ProcessConfig) (stopped : Bool) (state : AgentState) :
    AgentAction → Prop
  | .start => state.alive = true ∨ state.Quiet config
  | .stop => ∀ task ∈ state.tasks, task.starting = false
  | .proceed index _ => ∀ task, state.tasks[index]? = some task →
      state.CarefulTurn config stopped task
  | .restart | .exit _ => True

instance (config : ProcessConfig) (state : AgentState) : Decidable (state.Quiet config) :=
  inferInstanceAs (Decidable (∀ task ∈ state.tasks, _))

instance (config : ProcessConfig) (stopped : Bool) (state : AgentState) (task : AgentTask) :
    Decidable (state.CarefulTurn config stopped task) :=
  match task with
  | .reading .stop => inferInstanceAs (Decidable (∀ task ∈ state.tasks, task.unpublished = false))
  | .restarting =>
    inferInstanceAs (Decidable (state.alive = true ∨ stopped = false ∧ state.Quiet config))
  | .reading .restart | .terminating .. | .killed .. | .stopped _ | .resetting | .spawned _
  | .settling | .reporting | .returned _ | .waiting _ | .counting | .sleeping | .respawned _
  | .ended => .isTrue trivial

instance (config : ProcessConfig) (stopped : Bool) (state : AgentState) (action : AgentAction) :
    Decidable (state.Careful config stopped action) :=
  match action with
  | .start => inferInstanceAs (Decidable (state.alive = true ∨ state.Quiet config))
  | .stop => inferInstanceAs (Decidable (∀ task ∈ state.tasks, task.starting = false))
  | .proceed index _ =>
    inferInstanceAs (Decidable (∀ task, state.tasks[index]? = some task →
      state.CarefulTurn config stopped task))
  | .restart | .exit _ => .isTrue trivial

/-- What holds when no step races. -/
structure AgentState.Orderly (config : ProcessConfig) (stopped : Bool) (state : AgentState) :
    Prop where
  single : state.tasks.countP (AgentTask.spawns config) ≤ 1
  published : ∀ child, .waiting child ∈ state.tasks →
    state.alive = true ∧ state.pid = some child.pid
  halted : (∃ task ∈ state.tasks, task.stopping = true) ∨ stopped = true →
    state.watchdogEnabled = false ∧ ∀ task ∈ state.tasks, task.starting = false
  drained : (∃ task ∈ state.tasks, task.stopping = true ∧ task ≠ .reading .stop) ∨ stopped = true →
    ∀ child, .respawned child ∉ state.tasks
  target : ∀ pid, .terminating .stop pid ∈ state.tasks ∨ .killed .stop pid ∈ state.tasks →
    ∀ child, .waiting child ∈ state.tasks → child.pid = pid
  still : .stopped .stop ∈ state.tasks ∨ stopped = true → ∀ task ∈ state.tasks, task.runs = false

namespace AgentState

variable {config : ProcessConfig} {stopped : Bool} {state state' : AgentState}

theorem runs_eq_false {task : AgentTask} (h : task.spawns config = false) : task.runs = false := by
  cases task with
  | spawned | waiting | respawned => cases h
  | _ => rfl

variable {task next : AgentTask} {rest new : List AgentTask}

theorem starting_eq_false (h : task.spawns config = false) : task.starting = false := by
  cases task with
  | resetting | spawned => cases h
  | _ => rfl

theorem orderly_new : AgentState.new.Orderly config false := by
  constructor <;> simp [new]

variable {tasks : List AgentTask} {child : BotChild}

theorem Orderly.perm (h : state.Orderly config stopped) (hperm : state.tasks.Perm tasks) :
    { state with tasks := tasks }.Orderly config stopped where
  single := by simpa [hperm.countP_eq] using h.single
  published := by simpa [hperm.mem_iff] using h.published
  halted := by simpa [hperm.mem_iff] using h.halted
  drained := by simpa [hperm.mem_iff] using h.drained
  target := by simpa [hperm.mem_iff] using h.target
  still := by simpa [hperm.mem_iff] using h.still

theorem Orderly.tail (h : { state with tasks := task :: rest }.Orderly config stopped) :
    { state with tasks := rest }.Orderly config stopped := by
  have hmem : ∀ {other}, other ∈ rest → other ∈ task :: rest := mem_cons_of_mem _
  constructor
  · exact Nat.le_trans (sublist_cons_self _ _).countP_le h.single
  · exact fun child hchild => h.published child (hmem hchild)
  · rintro hhalted
    rcases h.halted (hhalted.imp_left fun ⟨other, hother, hstops⟩ => ⟨other, hmem hother, hstops⟩)
      with ⟨henabled, hstarting⟩
    exact ⟨henabled, fun other hother => hstarting other (hmem hother)⟩
  · exact fun hdrained child hchild =>
      h.drained (hdrained.imp_left fun ⟨other, hother, hstops⟩ =>
        ⟨other, hmem hother, hstops⟩) child
        (hmem hchild)
  · exact fun pid hpid child hchild =>
      h.target pid (hpid.imp hmem hmem) child (hmem hchild)
  · exact fun hstill other hother => h.still (hstill.imp_left hmem) other (hmem hother)

theorem Orderly.idle
    (h : { state with tasks := rest }.Orderly config stopped) (hspawns : next.spawns config = false)
    (hstopping : next.stopping = false) :
    { state with tasks := next :: rest }.Orderly config stopped := by
  have hruns := runs_eq_false hspawns
  have hstarting := starting_eq_false hspawns
  have hwaiting : ∀ child, .waiting child ≠ next := by
    rintro child rfl
    cases hspawns
  have hrespawned : ∀ child, .respawned child ≠ next := by
    rintro child rfl
    cases hspawns
  have hstop : ∀ pid, .terminating .stop pid ≠ next ∧ .killed .stop pid ≠ next ∧
      .stopped .stop ≠ next := by
    refine fun pid => ⟨?_, ?_, ?_⟩ <;>
      · rintro rfl
        cases hstopping
  constructor
  · simpa [countP_cons, hspawns] using h.single
  · simpa [hwaiting] using h.published
  · simpa [hstopping, hstarting] using h.halted
  · simpa [hstopping, hrespawned] using h.drained
  · simpa [hstop, hwaiting] using h.target
  · simpa [hstop 0, hruns] using h.still

theorem Orderly.alone (h : { state with tasks := task :: rest }.Orderly config stopped)
    (hspawns : task.spawns config = true) : ∀ other ∈ rest, other.spawns config = false := by
  have hcount := h.single
  simp only [countP_cons, hspawns, if_true] at hcount
  have hzero : rest.countP (AgentTask.spawns config) = 0 := by omega
  simpa using countP_eq_zero.mp hzero

/-- A stop goes on while nobody is about to start the bot. -/
theorem Orderly.add_stopping
    (h : { state with tasks := rest }.Orderly config stopped) (hnext : next.stopping = true)
    (henabled : state.watchdogEnabled = false) (hstarting : ∀ task ∈ rest, task.starting = false)
    (hdrained : next ≠ .reading .stop → ∀ child, .respawned child ∉ rest)
    (htarget : ∀ pid, .terminating .stop pid = next ∨ .killed .stop pid = next →
      ∀ child, .waiting child ∈ rest → child.pid = pid)
    (hstill : .stopped .stop = next → ∀ task ∈ rest, task.runs = false) :
    { state with tasks := next :: rest }.Orderly config stopped := by
  have hspawns : next.spawns config = false ∧ next.starting = false ∧ next.runs = false := by
    cases next with
    | reading | terminating | killed | stopped => exact ⟨rfl, rfl, rfl⟩
    | _ => cases hnext
  have hnone : ∀ child, .waiting child ≠ next ∧ .respawned child ≠ next := by
    intro child
    constructor <;>
      · rintro rfl
        cases hnext
  constructor
  · simpa [countP_cons, hspawns.1] using h.single
  · simpa [hnone] using h.published
  · exact fun _ => ⟨henabled, by simpa [hspawns.2.1] using hstarting⟩
  · rintro (⟨task, htask, hstops, hother⟩ | hstopped) child
    · rcases mem_cons.mp htask with rfl | htask
      · simpa [hnone child] using hdrained hother child
      · simpa [hnone child] using h.drained (.inl ⟨task, htask, hstops, hother⟩) child
    · simpa [hnone child] using h.drained (.inr hstopped) child
  · intro pid hpid child hchild
    have hchild : .waiting child ∈ rest := by simpa [hnone child] using hchild
    by_cases hrest : .terminating .stop pid ∈ rest ∨ .killed .stop pid ∈ rest
    · exact h.target pid hrest child hchild
    · rw [not_or] at hrest
      exact htarget pid (by simpa [hrest] using hpid) child hchild
  · intro hstopped
    have hrest : ∀ task ∈ rest, task.runs = false := by
      rcases hstopped with hstopped | hstopped
      · rcases mem_cons.mp hstopped with hsame | hstopped
        · exact hstill hsame
        · exact h.still (.inl hstopped)
      · exact h.still (.inr hstopped)
    simpa [hspawns.2.2] using hrest

/-- A task may get a child, or wait to spawn one, when no other task does and no stop has gone on. -/
theorem Orderly.add_spawner (h : { state with tasks := rest }.Orderly config stopped)
    (hnone : ∀ task ∈ rest, task.spawns config = false) (hnext : next.watches = false)
    (hstopping : next.stopping = false)
    (hstarting : next.starting = true → stopped = false ∧ ∀ task ∈ rest, task.stopping = false)
    (hrespawned : next.child? ≠ none →
      stopped = false ∧ ∀ task ∈ rest, task.stopping = true → task = .reading .stop) :
    { state with tasks := next :: rest }.Orderly config stopped := by
  have hwaiting : ∀ child, .waiting child ≠ next := by
    rintro child rfl
    cases hnext
  have hstop : ∀ pid, .terminating .stop pid ≠ next ∧ .killed .stop pid ≠ next ∧
      .stopped .stop ≠ next := by
    refine fun pid => ⟨?_, ?_, ?_⟩ <;>
      · rintro rfl
        cases hstopping
  constructor
  · have hzero : rest.countP (AgentTask.spawns config) = 0 := by simpa using hnone
    rw [countP_cons, hzero]
    split <;> omega
  · simpa [hwaiting] using h.published
  · intro hhalted
    have hhalted : (∃ task ∈ rest, task.stopping = true) ∨ stopped = true := by
      simpa [hstopping] using hhalted
    refine ⟨(h.halted hhalted).1, ?_⟩
    have hidle : next.starting = false := by
      by_contra hstarts
      rw [Bool.not_eq_false] at hstarts
      rcases hhalted with ⟨task, htask, hstops⟩ | hstopped
      · simp [(hstarting hstarts).2 task htask] at hstops
      · simp [(hstarting hstarts).1] at hstopped
    simpa [hidle] using (h.halted hhalted).2
  · intro hdrained child
    have hrest : (∃ task ∈ rest, task.stopping = true ∧ task ≠ .reading .stop) ∨
        stopped = true := by
      simpa [hstopping] using hdrained
    have hother : .respawned child ≠ next := by
      intro hsame
      rcases hrespawned (hsame ▸ nofun) with ⟨hstopped', hreading⟩
      rcases hrest with ⟨task, htask, hstops, hne⟩ | hstopped
      · exact hne (hreading task htask hstops)
      · simp [hstopped'] at hstopped
    simpa [hother] using h.drained hrest child
  · simpa [hstop, hwaiting] using h.target
  · intro hstill
    have hstill : .stopped .stop ∈ rest ∨ stopped = true := by
      simpa [hstop 0] using hstill
    have hruns : next.runs = false := by
      by_contra hruns
      rcases hrespawned (by rintro hchild; simp [AgentTask.runs, hchild] at hruns) with
        ⟨hstopped', hreading⟩
      rcases hstill with hmem | hstopped
      · cases hreading _ hmem rfl
      · simp [hstopped'] at hstopped
    simpa [hruns] using h.still hstill

theorem Orderly.publish {enabled : Bool} (h : { state with tasks := rest }.Orderly config stopped)
    (hnone : ∀ task ∈ rest, task.spawns config = false) (hstopped : stopped = false)
    (hreading : ∀ task ∈ rest, task.stopping = true → task = .reading .stop)
    (henabled : (∃ task ∈ rest, task.stopping = true) → enabled = false) :
    { state with
      pid := some child.pid
      alive := true
      watchdogEnabled := enabled
      tasks := .waiting child :: rest }.Orderly config stopped := by
  have hnotWaiting : ∀ other, .waiting other ∉ rest := by
    intro other hother
    cases hnone _ hother
  have hnotStop : ∀ task ∈ rest, task.stopping = true → task ≠ .reading .stop → False :=
    fun task htask hstops hne => hne (hreading task htask hstops)
  subst hstopped
  constructor
  · have hzero : rest.countP (AgentTask.spawns config) = 0 := by simpa using hnone
    rw [countP_cons, hzero]
    split <;> omega
  · simp [hnotWaiting]
  · intro hhalted
    have hhalted : ∃ task ∈ rest, task.stopping = true := by
      simpa [AgentTask.stopping, AgentTask.caller?] using hhalted
    refine ⟨henabled hhalted, ?_⟩
    simpa [AgentTask.starting] using (h.halted (.inl hhalted)).2
  · rintro (⟨task, htask, hstops, hne⟩ | hstopped)
    · rcases mem_cons.mp htask with rfl | htask
      · cases hstops
      · exact (hnotStop task htask hstops hne).elim
    · cases hstopped
  · rintro pid (hpid | hpid)
    · exact (hnotStop (.terminating .stop pid) (by simpa using hpid) rfl nofun).elim
    · exact (hnotStop (.killed .stop pid) (by simpa using hpid) rfl nofun).elim
  · rintro (hstill | hstopped)
    · exact (hnotStop (.stopped .stop) (by simpa using hstill) rfl nofun).elim
    · cases hstopped

theorem Orderly.clearAlive (h : { state with tasks := rest }.Orderly config stopped)
    (hnone : ∀ task ∈ rest, task.spawns config = false) :
    { state with alive := false, tasks := rest }.Orderly config stopped := by
  refine { h with published := fun child hchild => ?_ }
  cases hnone _ hchild

theorem Orderly.recount {count : ℕ} (h : state.Orderly config stopped) :
    { state with restartCount := count }.Orderly config stopped :=
  { h with }

theorem Orderly.afterStop
    (h : { state with tasks := .stopped .stop :: rest }.Orderly config stopped) :
    { state with tasks := rest }.Orderly config true := by
  have hmem : AgentTask.stopped .stop ∈ AgentTask.stopped .stop :: rest := mem_cons_self
  refine { h.tail with halted := fun _ => ?_, drained := fun _ child => ?_, still := fun _ => ?_ }
  · refine ⟨(h.halted (.inl ⟨_, hmem, rfl⟩)).1, fun task htask => ?_⟩
    exact (h.halted (.inl ⟨_, hmem, rfl⟩)).2 task (mem_cons_of_mem _ htask)
  · exact fun hchild =>
      h.drained (.inl ⟨_, hmem, rfl, nofun⟩) child (mem_cons_of_mem _ hchild)
  · exact fun task htask => h.still (.inl hmem) task (mem_cons_of_mem _ htask)

theorem Orderly.free (h : state.Orderly config stopped)
    (htask : task ∈ state.tasks) (hstarting : task.starting = true) :
    stopped = false ∧ ∀ other ∈ state.tasks, other.stopping = false := by
  have hnot : ¬ ((∃ other ∈ state.tasks, other.stopping = true) ∨ stopped = true) := by
    intro hhalted
    simp [(h.halted hhalted).2 task htask] at hstarting
  simpa [not_or, and_comm] using hnot

theorem Orderly.reading (h : state.Orderly config stopped)
    (hchild : .respawned child ∈ state.tasks) :
    stopped = false ∧ ∀ other ∈ state.tasks, other.stopping = true → other = .reading .stop := by
  have hnot : ¬ ((∃ other ∈ state.tasks, other.stopping = true ∧ other ≠ .reading .stop) ∨
      stopped = true) := fun hdrained => h.drained hdrained child hchild
  rw [not_or, Bool.not_eq_true] at hnot
  refine ⟨hnot.2, fun other hother hstops => ?_⟩
  by_contra hne
  exact hnot.1 ⟨other, hother, hstops, hne⟩

theorem exists_waiting {task : AgentTask} (hruns : task.runs = true)
    (hstarting : task.starting = false) (hrespawned : ∀ child, .respawned child ≠ task) :
    ∃ child, task = .waiting child ∧ child.running = true := by
  cases task with
  | waiting child => exact ⟨child, rfl, hruns⟩
  | spawned child => cases hstarting
  | respawned child => exact absurd rfl (hrespawned child)
  | _ => cases hruns

theorem Orderly.spawns_eq_false (h : state.Orderly config stopped)
    (hdead : state.alive ≠ true) (htask : task ∈ state.tasks)
    (hquiet : task.starting = false ∧ task.respawning config = false ∧ task.stopping = false) :
    task.spawns config = false := by
  have hwatches : task.watches = false := by
    cases task with
    | waiting child => exact absurd (h.published child htask).1 hdead
    | _ => rfl
  simp [AgentTask.spawns, hquiet, hwatches]

theorem Orderly.go_on (h : { state with tasks := task :: rest }.Orderly config stopped)
    (hstops : task.stopping = true) (hnext : next.stopping = true)
    (hdrained : ∀ child, .respawned child ∉ rest)
    (htarget : ∀ pid, .terminating .stop pid = next ∨ .killed .stop pid = next →
      ∀ child, .waiting child ∈ rest → child.pid = pid)
    (hdead : .stopped .stop = next → ∀ child, .waiting child ∈ rest → child.running = false) :
    { state with tasks := next :: rest }.Orderly config stopped := by
  rcases h.halted (.inl ⟨task, mem_cons_self, hstops⟩) with ⟨henabled, hstarting⟩
  have hidle : ∀ other ∈ rest, other.starting = false := fun other hother =>
    hstarting other (mem_cons_of_mem _ hother)
  refine h.tail.add_stopping hnext henabled hidle (fun _ => hdrained) htarget ?_
  intro hstopped other hother
  by_contra hruns
  rcases exists_waiting (by simpa using hruns) (hidle other hother)
    (fun child hsame => hdrained child (hsame ▸ hother)) with ⟨child, rfl, hrunning⟩
  simp [hdead hstopped child hother] at hrunning

/-- The turns of a stop. -/
theorem Orderly.stop_turn {turn : AgentTurn}
    (h : { state with tasks := task :: rest }.Orderly config stopped)
    (hstops : task.stopping = true) (hstopped : task ≠ .stopped .stop)
    (hperm : state.tasks.Perm (task :: rest)) (hcareful : state.CarefulTurn config stopped task)
    (hproceed : state.proceed config turn task = some (state', next, new)) :
    { state' with tasks := next :: (new ++ rest) }.Orderly config stopped := by
  have hothers : ∀ {other}, other ∈ rest → other ∈ task :: rest := mem_cons_of_mem _
  have hunalive : state.alive ≠ true → ∀ child, .waiting child ∈ rest → child.running = false :=
    fun hdead child hchild => absurd (h.published child (hothers hchild)).1 hdead
  have hundrained : task ≠ .reading .stop → ∀ child, .respawned child ∉ rest :=
    fun hne child hchild =>
      h.drained (.inl ⟨task, mem_cons_self, hstops, hne⟩) child (hothers hchild)
  cases task with
  | reading caller =>
    cases caller with
    | restart => cases hstops
    | stop =>
      have hdrained : ∀ child, .respawned child ∉ rest := fun child hchild =>
        Bool.noConfusion (hcareful _ (hperm.mem_iff.mpr (hothers hchild)))
      simp only [proceed] at hproceed
      split at hproceed
      · rename_i pid hpid
        split at hproceed
        · cases hproceed
          refine h.go_on hstops rfl hdrained ?_ nofun
          rintro other (hother | hother) child hchild
          · cases hother
            exact Option.some.inj ((h.published child (hothers hchild)).2.symm.trans hpid)
          · cases hother
        · rename_i hdead
          cases hproceed
          exact h.go_on hstops rfl hdrained (by rintro _ (hpid | hpid) <;> cases hpid)
            fun _ => hunalive hdead
      · rename_i hnone
        cases hproceed
        refine h.go_on hstops rfl hdrained (by rintro _ (hpid | hpid) <;> cases hpid)
          fun _ child hchild => ?_
        rw [(h.published child (hothers hchild)).2] at hnone
        cases hnone
  | terminating caller pid =>
    cases caller with
    | restart => cases hstops
    | stop =>
      have htarget := h.target pid (.inl mem_cons_self)
      simp only [proceed] at hproceed
      split at hproceed
      · cases hproceed
        exact h
      · split at hproceed
        · cases hproceed
          refine h.go_on hstops rfl (hundrained nofun) ?_ nofun
          rintro other (hother | hother) child hchild
          · cases hother
          · cases hother
            exact htarget child (hothers hchild)
        · rename_i hdead
          cases hproceed
          exact h.go_on hstops rfl (hundrained nofun) (by rintro _ (hpid | hpid) <;> cases hpid)
            fun _ => hunalive hdead
  | killed caller pid =>
    cases caller with
    | restart => cases hstops
    | stop =>
      have htarget := h.target pid (.inr mem_cons_self)
      simp only [proceed] at hproceed
      split at hproceed
      · cases hproceed
      · rename_i hexited
        cases hproceed
        refine h.go_on hstops rfl (hundrained nofun) (by rintro _ (hpid | hpid) <;> cases hpid)
          fun _ child hchild => ?_
        by_contra hrunning
        rw [Bool.not_eq_false] at hrunning
        refine hexited (any_eq_true.mpr ⟨_, hperm.mem_iff.mpr (hothers hchild), ?_⟩)
        simp [AgentTask.child?, htarget child (hothers hchild), hrunning]
  | stopped caller =>
    cases caller with
    | restart => cases hstops
    | stop => exact absurd rfl hstopped
  | _ => cases hstops

theorem proceed_of_restart {task next : AgentTask} {new : List AgentTask} {turn : AgentTurn}
    (hcaller : task.caller? = some .restart)
    (hproceed : state.proceed config turn task = some (state', next, new)) :
    state' = state ∧ next.spawns config = false ∧ next.stopping = false ∧ new = [] := by
  cases task with
  | reading caller =>
    cases hcaller
    simp only [proceed] at hproceed
    split at hproceed
    · split at hproceed <;>
        · cases hproceed
          exact ⟨rfl, rfl, rfl, rfl⟩
    · cases hproceed
      exact ⟨rfl, rfl, rfl, rfl⟩
  | terminating caller pid =>
    cases hcaller
    simp only [proceed] at hproceed
    split at hproceed
    · cases hproceed
      exact ⟨rfl, rfl, rfl, rfl⟩
    · split at hproceed <;>
        · cases hproceed
          exact ⟨rfl, rfl, rfl, rfl⟩
  | killed caller pid =>
    cases hcaller
    simp only [proceed] at hproceed
    split at hproceed
    · cases hproceed
    · cases hproceed
      exact ⟨rfl, rfl, rfl, rfl⟩
  | stopped caller =>
    cases hcaller
    cases hproceed
    exact ⟨rfl, rfl, rfl, rfl⟩
  | _ => cases hcaller

theorem Orderly.start_turn {turn : AgentTurn}
    (h : { state with tasks := task :: rest }.Orderly config stopped)
    (hstarting : task.starting = true)
    (hproceed : state.proceed config turn task = some (state', next, new)) :
    { state' with tasks := next :: (new ++ rest) }.Orderly config stopped := by
  rcases h.free mem_cons_self hstarting with ⟨hstopped, hstopping⟩
  have hnone := h.alone (by simp [AgentTask.spawns, hstarting])
  have hfree : ∀ other ∈ rest, other.stopping = false := fun other hother =>
    hstopping other (mem_cons_of_mem _ hother)
  have hreading : ∀ other ∈ rest, other.stopping = true → other = .reading .stop := by
    intro other hother hstops
    rw [hfree other hother] at hstops
    cases hstops
  cases task with
  | resetting =>
    simp only [proceed] at hproceed
    split at hproceed
    · cases hproceed
      exact (h.tail.idle rfl rfl).recount
    · split at hproceed
      · cases hproceed
        exact (h.tail.idle rfl rfl).recount
      · cases hproceed
        exact (h.tail.add_spawner hnone rfl rfl (fun _ => ⟨hstopped, hfree⟩)
          fun _ => ⟨hstopped, hreading⟩).recount
  | spawned child =>
    cases hproceed
    refine (h.tail.publish hnone hstopped hreading ?_).idle rfl rfl
    rintro ⟨other, hother, hstops⟩
    rw [hfree other hother] at hstops
    cases hstops
  | _ => cases hstarting

/-- The turns of a watchdog. -/
theorem Orderly.watchdog_turn {turn : AgentTurn}
    (h : { state with tasks := task :: rest }.Orderly config stopped)
    (htask : (∃ child, task = .waiting child) ∨ task = .counting ∨ task = .sleeping ∨
      ∃ child, task = .respawned child)
    (hproceed : state.proceed config turn task = some (state', next, new)) :
    { state' with tasks := next :: (new ++ rest) }.Orderly config stopped := by
  have hrest := h.tail
  have hothers : ∀ {other}, other ∈ rest → other ∈ task :: rest := mem_cons_of_mem _
  rcases htask with ⟨child, rfl⟩ | rfl | rfl | ⟨child, rfl⟩
  · have hdead := hrest.clearAlive (h.alone rfl)
    simp only [proceed] at hproceed
    split at hproceed
    · cases hproceed
    · split at hproceed
      · cases hproceed
        exact hdead.add_spawner (h.alone rfl) rfl rfl nofun fun hchild => absurd rfl hchild
      · cases hproceed
        exact hdead.idle rfl rfl
  · simp only [proceed] at hproceed
    split at hproceed
    · cases hproceed
      exact (hrest.idle rfl rfl).recount
    · rename_i hcount
      cases hproceed
      have hmax : AgentTask.counting.spawns config = true := by
        simp only [AgentTask.spawns, AgentTask.respawning, Bool.or_eq_true, decide_eq_true_eq]
        omega
      exact (hrest.add_spawner (h.alone hmax) rfl rfl (fun hstarts =>
        absurd hstarts Bool.noConfusion)
        fun hchild => absurd rfl hchild).recount
  · simp only [proceed] at hproceed
    split at hproceed
    · cases hproceed
      exact hrest.idle rfl rfl
    · rename_i henabled
      split at hproceed
      · cases hproceed
        refine hrest.add_spawner (h.alone rfl) rfl rfl nofun fun _ => ?_
        have hfree : ¬ ((∃ other ∈ AgentTask.sleeping :: rest, other.stopping = true) ∨
            stopped = true) := by
          intro hhalted
          have hoff : state.watchdogEnabled = false := (h.halted hhalted).1
          exact henabled (by simp [hoff])
        rw [not_or, Bool.not_eq_true] at hfree
        exact ⟨hfree.2, fun other hother hstops =>
          (hfree.1 ⟨other, hothers hother, hstops⟩).elim⟩
      · cases hproceed
        exact hrest.idle rfl rfl
  · cases hproceed
    rcases h.reading mem_cons_self with ⟨hstopped, hreading⟩
    exact hrest.publish (h.alone rfl) hstopped
      (fun other hother => hreading other (hothers hother)) fun ⟨other, hother, hstops⟩ =>
        (h.halted (.inl ⟨other, hothers hother, hstops⟩)).1

/-- A careful turn of the first task. -/
theorem Orderly.turn {turn : AgentTurn}
    (h : { state with tasks := task :: rest }.Orderly config stopped)
    (hperm : state.tasks.Perm (task :: rest)) (hcareful : state.CarefulTurn config stopped task)
    (hproceed : state.proceed config turn task = some (state', next, new)) :
    { state' with tasks := next :: (new ++ rest) }.Orderly config
      (stopped || task = AgentTask.stopped .stop) := by
  have hrest := h.tail
  have hothers : ∀ {other}, other ∈ rest → other ∈ task :: rest := mem_cons_of_mem _
  by_cases hstopped : task = .stopped .stop
  · subst hstopped
    cases hproceed
    rw [decide_eq_true rfl, Bool.or_true]
    exact h.afterStop.idle rfl rfl
  rw [decide_eq_false hstopped, Bool.or_false]
  by_cases hstops : task.stopping = true
  · exact h.stop_turn hstops hstopped hperm hcareful hproceed
  by_cases hcaller : task.caller? = some .restart
  · rcases proceed_of_restart hcaller hproceed with ⟨rfl, hspawns, hstopping, rfl⟩
    exact hrest.idle hspawns hstopping
  cases task with
  | reading caller | terminating caller | killed caller | stopped caller =>
    cases caller with
    | stop => exact absurd rfl hstops
    | restart => exact absurd rfl hcaller
  | restarting =>
    cases hproceed
    unfold beginStart
    split
    · exact hrest.idle rfl rfl
    · rename_i hdead
      rcases hcareful with halive | ⟨hstopped, hquiet⟩
      · exact absurd halive hdead
      have hfree : ∀ other ∈ rest, _ := fun other hother =>
        hquiet other (hperm.mem_iff.mpr (hothers hother))
      exact hrest.add_spawner
        (fun other hother => h.spawns_eq_false hdead (hothers hother) (hfree other hother)) rfl rfl
        (fun _ => ⟨hstopped, fun other hother => (hfree other hother).2.2⟩)
        fun hchild => absurd rfl hchild
  | resetting | spawned => exact h.start_turn rfl hproceed
  | settling | reporting =>
    cases hproceed
    exact hrest.idle rfl rfl
  | waiting child => exact h.watchdog_turn (.inl ⟨child, rfl⟩) hproceed
  | counting => exact h.watchdog_turn (.inr (.inl rfl)) hproceed
  | sleeping => exact h.watchdog_turn (.inr (.inr (.inl rfl))) hproceed
  | respawned child => exact h.watchdog_turn (.inr (.inr (.inr ⟨child, rfl⟩))) hproceed
  | returned | ended => cases hproceed

/-- A task goes on without its running child. -/
theorem Orderly.orphan (h : { state with tasks := task :: rest }.Orderly config stopped)
    (hspawns : next.spawns config = task.spawns config) (hstarting : next.starting = task.starting)
    (hstopping : next.stopping = false) (hruns : next.runs = false)
    (hwaiting : ∀ child, .waiting child = next →
      ∃ old, AgentTask.waiting old = task ∧ old.pid = child.pid)
    (hrespawned : ∀ child, .respawned child = next → ∃ old, AgentTask.respawned old = task) :
    { state with tasks := next :: rest }.Orderly config stopped := by
  have hothers : ∀ {other}, other ∈ rest → other ∈ task :: rest := mem_cons_of_mem _
  have hbefore : ∀ child, .waiting child ∈ next :: rest →
      ∃ old, .waiting old ∈ task :: rest ∧ old.pid = child.pid := by
    intro child hchild
    rcases mem_cons.mp hchild with hsame | hchild
    · rcases hwaiting child hsame with ⟨old, rfl, hpid⟩
      exact ⟨old, mem_cons_self, hpid⟩
    · exact ⟨child, hothers hchild, rfl⟩
  have hstop : ∀ {other}, other ∈ next :: rest → other.stopping = true → other ∈ rest := by
    intro other hother hstops
    rcases mem_cons.mp hother with rfl | hother
    · rw [hstopping] at hstops
      cases hstops
    · exact hother
  constructor
  · simpa only [countP_cons, hspawns] using h.single
  · intro child hchild
    rcases hbefore child hchild with ⟨old, hold, hpid⟩
    exact hpid ▸ h.published old hold
  · intro hhalted
    rcases h.halted (hhalted.imp_left fun ⟨other, hother, hstops⟩ =>
      ⟨other, hothers (hstop hother hstops), hstops⟩) with ⟨henabled, hidle⟩
    refine ⟨henabled, fun other hother => ?_⟩
    rcases mem_cons.mp hother with rfl | hother
    · rw [hstarting]
      exact hidle task mem_cons_self
    · exact hidle other (hothers hother)
  · intro hdrained child hchild
    have hnone := h.drained (hdrained.imp_left fun ⟨other, hother, hstops, hne⟩ =>
      ⟨other, hothers (hstop hother hstops), hstops, hne⟩)
    rcases mem_cons.mp hchild with hsame | hchild
    · rcases hrespawned child hsame with ⟨old, rfl⟩
      exact hnone old mem_cons_self
    · exact hnone child (hothers hchild)
  · intro pid hpid child hchild
    rcases hbefore child hchild with ⟨old, hold, hsame⟩
    rw [← hsame]
    exact h.target pid (hpid.imp (fun hmem => hothers (hstop hmem rfl))
      fun hmem => hothers (hstop hmem rfl)) old hold
  · intro hstill other hother
    rcases mem_cons.mp hother with rfl | hother
    · exact hruns
    · exact h.still (hstill.imp_left fun hmem => hothers (hstop hmem rfl)) other (hothers hother)

theorem Orderly.exit (h : { state with tasks := task :: rest }.Orderly config stopped) :
    { state with tasks := task.exitChild :: rest }.Orderly config stopped := by
  cases task with
  | spawned child => exact h.orphan rfl rfl rfl rfl nofun nofun
  | waiting child =>
    refine h.orphan rfl rfl rfl rfl (fun other hsame => ⟨child, rfl, ?_⟩) nofun
    cases hsame
    rfl
  | respawned child => exact h.orphan rfl rfl rfl rfl nofun fun _ _ => ⟨child, rfl⟩
  | _ => exact h

theorem Orderly.unstop (h : state.Orderly config stopped) : state.Orderly config false :=
  { h with
    halted := fun hhalted => h.halted (hhalted.imp_right nofun)
    drained := fun hdrained => h.drained (hdrained.imp_right nofun)
    still := fun hstill => h.still (hstill.imp_right nofun) }

theorem Orderly.disable (h : state.Orderly config stopped) :
    { state with watchdogEnabled := false }.Orderly config stopped :=
  { h with halted := fun hhalted => ⟨rfl, (h.halted hhalted).2⟩ }

theorem Orderly.addTask (h : { state with tasks := task :: state.tasks }.Orderly config stopped) :
    (state.addTask task).Orderly config stopped :=
  h.perm (perm_append_singleton task state.tasks).symm

theorem set_append_perm {task : AgentTask} {index : ℕ} (htask : tasks[index]? = some task)
    (next : AgentTask) (new : List AgentTask) :
    tasks.Perm (task :: tasks.eraseIdx index) ∧
      (next :: (new ++ tasks.eraseIdx index)).Perm (tasks.set index next ++ new) := by
  rcases List.getElem?_eq_some_iff.mp htask with ⟨hindex, rfl⟩
  constructor
  · exact (getElem_cons_eraseIdx_perm hindex).symm
  · refine List.Perm.symm ?_
    calc (tasks.set index next ++ new).Perm (next :: tasks.eraseIdx index ++ new) :=
          (set_perm_cons_eraseIdx hindex next).append_right new
      _ |>.Perm (next :: (new ++ tasks.eraseIdx index)) := perm_append_comm.cons next

/-- A careful step. -/
theorem Orderly.step {action : AgentAction} (h : state.Orderly config stopped)
    (hcareful : state.Careful config stopped action)
    (hstep : state.step config action = some state') :
    state'.Orderly config ((agentSystem config).record stopped state action state') := by
  cases action with
  | start =>
    cases hstep
    have hfresh := h.unstop
    refine Orderly.addTask ?_
    unfold beginStart
    split
    · exact hfresh.idle rfl rfl
    · rename_i hdead
      rcases hcareful with halive | hquiet
      · exact absurd halive hdead
      exact hfresh.add_spawner
        (fun other hother => h.spawns_eq_false hdead hother (hquiet other hother)) rfl rfl
        (fun _ => ⟨rfl, fun other hother => (hquiet other hother).2.2⟩)
        fun hchild => absurd rfl hchild
  | stop =>
    cases hstep
    refine Orderly.addTask (h.disable.add_stopping rfl rfl hcareful ?_ ?_ ?_)
    · exact fun hne => absurd rfl hne
    · rintro pid (hpid | hpid) <;> cases hpid
    · exact nofun
  | restart =>
    cases hstep
    exact Orderly.addTask (h.unstop.disable.idle rfl rfl)
  | proceed index turn =>
    simp only [AgentState.step, Option.bind_eq_bind, Option.bind_eq_some_iff,
      Option.map_eq_some_iff] at hstep
    rcases hstep with ⟨task, htask, ⟨moved, next, new⟩, hproceed, rfl⟩
    rcases set_append_perm htask next new with ⟨hbefore, hafter⟩
    have hturn := ((h.perm hbefore).turn hbefore (hcareful task htask) hproceed).perm hafter
    have hrecord : (agentSystem config).record stopped state (.proceed index turn)
        (state.moveTask index (moved, next, new)) =
          (stopped || task = AgentTask.stopped .stop) := by
      simp [agentSystem, htask]
    rw [hrecord]
    exact hturn
  | exit index =>
    simp only [AgentState.step, Option.bind_eq_bind, Option.bind_eq_some_iff] at hstep
    rcases hstep with ⟨task, htask, hstep⟩
    cases hstep
    rcases set_append_perm htask task.exitChild [] with ⟨hbefore, hafter⟩
    rw [append_nil] at hafter
    exact (h.perm hbefore).exit.perm hafter

end AgentState

/-- In every run without races at most one child of the agent is running, and none is once a stop
has returned until a start or a restart is called. -/
theorem single_bot (config : ProcessConfig) (stopped : Bool) (state : AgentState)
    (hrun : (agentSystem config).Run
      (fun stopped before action _ => before.Careful config stopped action) (false, .new) stopped
      state) :
    state.running ≤ 1 ∧ (stopped = true → state.running = 0) := by
  have horderly : state.Orderly config stopped := by
    refine hrun.invariant (fun stopped state => state.Orderly config stopped)
      AgentState.orderly_new fun stopped before action after h hstep hcareful => ?_
    exact h.step hcareful hstep
  constructor
  · refine Nat.le_trans (countP_mono_left fun task _ hruns => ?_) horderly.single
    by_contra hspawns
    rw [Bool.not_eq_true] at hspawns
    rw [AgentState.runs_eq_false hspawns] at hruns
    cases hruns
  · intro hstopped
    exact countP_eq_zero.mpr fun task htask => by
      simp [horderly.still (.inr hstopped) task htask]

def sampleProcessConfig : ProcessConfig where
  command := ["bot"]
  nonempty := cons_ne_nil _ _
  maxRestarts := 5

/-- A task takes its turn, and spawns a child with the given pid if it spawns one. -/
def takeTurn (index : ℕ) (pid : ℕ) : AgentAction :=
  .proceed index { expired := false, spawn := .ok pid }

/-- The child of a bot exits, the bot is stopped and started again during the restart delay, and the
first watchdog respawns its child beside the new one. A stop that comes while a start is under way
does not stop anything. -/
theorem bots_race :
    (∃ stopped state, (agentSystem sampleProcessConfig).Run (fun _ _ _ _ => True) (false, .new)
      stopped state ∧ state.running = 2) ∧
    ∃ state, (agentSystem sampleProcessConfig).Run (fun _ _ _ _ => True) (false, .new) true state ∧
      state.running = 1 := by
  have htwo : ((agentSystem sampleProcessConfig).follow (fun _ _ _ _ => true)
      [.start, takeTurn 0 1, takeTurn 0 1, .exit 1, takeTurn 1 0, takeTurn 1 0, .stop, takeTurn 2 0,
        takeTurn 2 0, .start, takeTurn 3 2, takeTurn 3 2, takeTurn 1 3] (false, .new)).any
        (fun reached => reached.2.running = 2) = true := by
    decide
  have hone : ((agentSystem sampleProcessConfig).follow (fun _ _ _ _ => true)
      [.start, .stop, takeTurn 1 0, takeTurn 1 0, takeTurn 0 1] (false, .new)).any
        (fun reached => reached.1 = true ∧ reached.2.running = 1) = true := by
    decide
  rcases System.exists_run_of_follow htwo fun _ _ _ _ _ => trivial with
    ⟨stopped, state, hrun, hrunning⟩
  rcases System.exists_run_of_follow hone fun _ _ _ _ _ => trivial with
    ⟨stopped', state', hrun', hproperty⟩
  rcases of_decide_eq_true hproperty with ⟨rfl, hrunning'⟩
  exact ⟨⟨stopped, state, hrun, of_decide_eq_true hrunning⟩, state', hrun', hrunning'⟩

/-- A bot is started, and then stopped by a signal. -/
theorem single_bot_sample :
    ∃ state, (agentSystem sampleProcessConfig).Run
        (fun stopped before action _ => before.Careful sampleProcessConfig stopped action)
        (false, .new) true state ∧ state.running = 0 := by
  have hfollow : ((agentSystem sampleProcessConfig).follow
      (fun stopped before action _ => before.Careful sampleProcessConfig stopped action)
      [.start, takeTurn 0 1, takeTurn 0 1, .stop, takeTurn 2 0, takeTurn 2 0, .exit 1,
        takeTurn 1 0, takeTurn 2 0, takeTurn 2 0] (false, .new)).any
        (fun reached => reached.1 = true) = true := by
    decide
  rcases System.exists_run_of_follow hfollow fun _ _ _ _ hcareful => of_decide_eq_true hcareful with
    ⟨stopped, state, hrun, hstopped⟩
  cases of_decide_eq_true hstopped
  exact ⟨state, hrun, (single_bot sampleProcessConfig true state hrun).2 rfl⟩

end BubaPaint
