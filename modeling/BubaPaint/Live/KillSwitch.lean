import BubaPaint.Live.MonitorInvariants

/-!
# The kill switch

A kill switch is applied on a copy of the monitor, and the copy takes effect only if the worker
succeeds. Which database calls succeed decides whether the halt is taken over.

Main results:

- Theorem `kill_switch_takes_effect_iff`: when an answered kill switch has halted the session.
-/

namespace BubaPaint

open Effects Method DatabaseCall
open Program (Always Emits emits_bind emits_map)

/-- What the calls so far say about recorded control states. -/
structure HaltScan where
  /-- Whether a terminal state was recorded with its audit entry. -/
  recorded : Bool
  /-- The state whose audit entry is to be written next. -/
  unaudited : Option ControlState

/-- Read one more call. -/
def HaltScan.next (scan : HaltScan) : Exchange → HaltScan
  | ⟨.database (.insertLiveControlState row), .ok _⟩ => { scan with unaudited := some row.state }
  | ⟨.database (.logControlAudit _), .ok _⟩ =>
    { recorded := scan.recorded || scan.unaudited.any ControlState.isTerminal
      unaudited := none }
  | _ => { scan with unaudited := none }

def haltScan (calls : List Exchange) : HaltScan :=
  calls.foldl HaltScan.next { recorded := false, unaudited := none }

/-- Whether a terminal control state was recorded: its row and its audit entry are written. -/
def haltRecorded (calls : List Exchange) : Bool :=
  (haltScan calls).recorded

def failedDatabaseCall : Exchange → Bool
  | ⟨.database _, .error _⟩ => true
  | _ => false

/-- Whether the last call is a database call that failed. -/
def endsInFailure (calls : List Exchange) : Bool :=
  calls.getLast?.any failedDatabaseCall

/-- A call that writes the final status of a command. -/
def answersCommand (commandId : ℕ) : Exchange → Bool
  | ⟨.database (.updateLiveControlCommandStatus id _ status), .ok _⟩ =>
    id == commandId && status != .pending
  | _ => false

@[simp]
theorem haltScan_append (calls own : List Exchange) :
    haltScan (calls ++ own) = own.foldl HaltScan.next (haltScan calls) :=
  List.foldl_append ..

@[simp]
theorem endsInFailure_append_singleton (calls : List Exchange) (x : Exchange) :
    endsInFailure (calls ++ [x]) = failedDatabaseCall x := by
  simp [endsInFailure]

/-- The copy started from `base` is terminal exactly when `base` was or a terminal state was
recorded since. -/
def Agrees (base : LiveTradingMonitor) (self : LiveTradingMonitor) (seen : List Exchange) : Prop :=
  (haltScan seen).unaudited = none ∧
    self.state.isTerminal = (base.state.isTerminal || (haltScan seen).recorded)

theorem HaltScan.next_of_ofMonitor {scan : HaltScan} (hscan : scan.unaudited = none)
    {c : LiveCall} (hc : c.ofMonitor) (reply : c.Reply) : scan.next ⟨c, reply⟩ = scan := by
  rcases scan with ⟨recorded, unaudited⟩
  obtain rfl : unaudited = none := hscan
  cases c with
  | database call =>
    cases call with
    | insertLiveControlState row => exact hc.elim
    | logControlAudit entry =>
      cases reply with
      | ok id => simp [HaltScan.next]
      | error error => rfl
    | _ => rfl
  | _ => rfl

theorem agrees_operatorInvariant (config : Config) (base : LiveTradingMonitor) :
    OperatorInvariant config (Agrees base) where
  call self seen c reply hc hinv := by
    have hnext := HaltScan.next_of_ofMonitor hinv.1 hc reply
    simpa only [Agrees, haltScan_append, List.foldl_cons, List.foldl_nil, hnext] using hinv
  blocked _ hinv := hinv
  reports _ _ _ _ hinv := hinv
  failed _ _ _ _ _ hinv := hinv
  degraded _ _ _ hinv := hinv
  cleared _ hinv := hinv
  risk _ hinv := hinv
  riskStart _ hinv := hinv
  riskTerminal _ _ hinv := hinv
  unwritten row error hinv := by
    simpa [Agrees, HaltScan.next] using hinv.2
  unaudited row id entry error hinv := by
    simpa [Agrees, HaltScan.next] using hinv.2
  halted row id entry auditId reason hstate hinv := by
    simp [Agrees, HaltScan.next, hstate, LiveTradingMonitor.withState, ControlState.isTerminal]
  moved row id entry auditId reason hself hstate hinv := by
    have hbefore := hinv.2
    simpa [Agrees, HaltScan.next, hstate, hself, LiveTradingMonitor.withState] using hbefore

/-- The outcome is an error exactly when the last call failed. -/
def FailsAtLastCall {α : Type} (r : Except String α × LiveTradingMonitor)
    (seen : List Exchange) : Prop :=
  r.1.isOk = !endsInFailure seen

namespace LiveTradingMonitor

variable {config : Config}
variable {c : DatabaseCall} {self : LiveTradingMonitor} {seen : List Exchange}

/-- Applying the operator commands keeps the agreement. -/
theorem applyPendingControls_agrees (config : Config) (base : LiveTradingMonitor) :
    Emits (fun r own => Agrees base r.2 own) ((applyPendingControls config).on base) [] := by
  have hstart : Agrees base base [] := ⟨rfl, (Bool.or_false _).symm⟩
  exact applyPendingControls_keeps (agrees_operatorInvariant config base) base [] hstart

theorem database_failsAtLastCall : Emits FailsAtLastCall ((database c).on self) seen := by
  rw [emits_database]
  constructor
  · intro reply
    simp [FailsAtLastCall, failedDatabaseCall, Except.isOk, Except.toBool]
  · intro error
    simp [FailsAtLastCall, failedDatabaseCall, Except.isOk, Except.toBool]

theorem database_bind_failsAtLastCall {α : Type} {f : c.Reply → MonitorMethod α}
    (hf : ∀ reply seen, endsInFailure seen = false →
      Emits FailsAtLastCall ((f reply).on self) seen) :
    Emits FailsAtLastCall ((database c >>= f).on self) seen := by
  rw [emits_database_bind]
  constructor
  · intro reply
    apply hf
    simp [failedDatabaseCall]
  · intro error
    simp [FailsAtLastCall, failedDatabaseCall, Except.isOk, Except.toBool]

theorem finishCommand_failsAtLastCall (commandId appliedAtMs : ℕ) (status : CommandStatus)
    (self : LiveTradingMonitor) (seen : List Exchange) :
    Emits FailsAtLastCall ((finishCommand commandId appliedAtMs status).on self) seen := by
  exact database_bind_failsAtLastCall fun _ _ _ => database_failsAtLastCall

theorem applyCommand_failsAtLastCall (commandId : ℕ) (command : LiveControlCommand)
    (self : LiveTradingMonitor) (seen : List Exchange) :
    Emits FailsAtLastCall ((applyCommand config commandId command).on self) seen := by
  unfold applyCommand
  split
  · apply database_bind_failsAtLastCall
    intro _ seen _
    rw [emits_external_bind]
    exact fun nowMs => database_failsAtLastCall
  · rw [emits_external_bind]
    intro appliedAtMs
    rw [emits_on_bind, on_outcome, emits_bind]
    refine (Always.emits (Program.always_true _) _).mono ?_
    rintro ⟨error | _, self'⟩ seen' _
    · exact finishCommand_failsAtLastCall commandId appliedAtMs .rejected self' seen'
    · exact finishCommand_failsAtLastCall commandId appliedAtMs .applied self' seen'

theorem applyCommands_failsAtLastCall (commands : List (ℕ × LiveControlCommand))
    (self : LiveTradingMonitor) (hseen : endsInFailure seen = false) :
    Emits FailsAtLastCall ((applyCommands config commands).on self) seen := by
  induction commands generalizing self seen with
  | nil =>
    show _ = !endsInFailure seen
    rw [hseen]
    rfl
  | cons command commands ih =>
    unfold applyCommands
    rw [emits_on_bind]
    refine (applyCommand_failsAtLastCall command.1 command.2 self seen).mono ?_
    rintro ⟨error | _, self'⟩ seen' hfails
    · exact hfails
    · exact ih self' (by simpa [FailsAtLastCall, Except.isOk, Except.toBool] using hfails)

theorem applyPendingControls_failsAtLastCall (config : Config) (base : LiveTradingMonitor) :
    Emits FailsAtLastCall ((applyPendingControls config).on base) [] := by
  unfold applyPendingControls
  rw [emits_get_bind]
  apply database_bind_failsAtLastCall
  intro _ seen _
  apply database_bind_failsAtLastCall
  intro commands seen hseen
  exact applyCommands_failsAtLastCall commands base hseen

end LiveTradingMonitor

/-- After a round of operator commands the loop is in a terminal state exactly when it was before,
or the round did not end in a failure and its copy was terminal or recorded a terminal state. -/
theorem isTerminal_controls_merge_iff (config : Config) (base target : LiveTradingMonitor)
    (oracle : ℕ → Answer) (world : World) :
    let round := Live.run (spawnLiveMonitorWorker config base .controls) oracle world
    let calls := round.2.callsSince world
    (applyLiveMonitorWorkerOutput target round.1).state.isTerminal = true ↔
      target.state.isTerminal = true ∨
        endsInFailure calls = false ∧
          (base.state.isTerminal = true ∨ haltRecorded calls = true) := by
  have hworker : Emits (fun output own => ∃ r : Except String Unit × LiveTradingMonitor,
        output = workerOutput .controls r ∧ Agrees base r.2 own ∧ FailsAtLastCall r own)
      (spawnLiveMonitorWorker config base .controls) [] := by
    unfold spawnLiveMonitorWorker
    rw [emits_map]
    refine ((LiveTradingMonitor.applyPendingControls_agrees config base).and
      (LiveTradingMonitor.applyPendingControls_failsAtLastCall config base)).mono ?_
    intro r own hr
    exact ⟨r, rfl, hr⟩
  intro round calls
  obtain ⟨⟨error | _, copy⟩, houtput, hagrees, hfails⟩ :=
    Live.run_callsSince hworker oracle world
  · have hends : endsInFailure calls = true := by
      simpa [FailsAtLastCall, Except.isOk, Except.toBool] using hfails.symm
    have hstate : (applyLiveMonitorWorkerOutput target round.1).state = target.state := by
      rw [show round.1 = _ from houtput]
      exact state_applyLiveMonitorWorkerOutput_error target .controls error
    rw [hstate, hends]
    simp
  · have hends : endsInFailure calls = false := by
      simpa [FailsAtLastCall, Except.isOk, Except.toBool] using hfails.symm
    have hcopy : copy.state.isTerminal = (base.state.isTerminal || haltRecorded calls) := hagrees.2
    have hstate : (applyLiveMonitorWorkerOutput target round.1).state.isTerminal =
        (target.state.isTerminal || copy.state.isTerminal) := by
      rw [show round.1 = _ from houtput]
      exact isTerminal_mergeLiveMonitorState target copy .controls
    rw [hstate, hcopy, hends]
    simp

/-! ## Stored statuses -/

/-- The command is stored, still pending, and of the given kind. -/
def pendingCommand (db : Database) (action : LiveControlAction) (commandId : ℕ) : Prop :=
  ∃ command, db.liveControlCommands.get? commandId = some command ∧
    command.status = .pending ∧ LiveControlAction.fromStr command.action = .ok action

/-- A call of a worker; the status it writes, if it writes one, is final. -/
def LiveCall.ofWorker : LiveCall → Prop
  | .database (.updateLiveControlCommandStatus _ _ status) => status ≠ .pending
  | call => call.leavesOrders

theorem LiveCall.ofWorker_of_ofMonitor {c : LiveCall} (hc : c.ofMonitor) : c.ofWorker := by
  cases c with
  | database call =>
    cases call with
    | insertLiveControlState row => trivial
    | _ => exact hc
  | submitOrderIntent request => exact hc.elim
  | _ => trivial

theorem ofWorker_operatorInvariant (config : Config) :
    OperatorInvariant config fun _ seen => ∀ x ∈ seen, LiveCall.ofWorker x.1 where
  call self seen c reply hc hinv := by
    have hworker := LiveCall.ofWorker_of_ofMonitor hc
    simpa [or_imp, forall_and, hworker] using hinv
  blocked _ hinv := hinv
  reports _ _ _ _ hinv := hinv
  failed _ _ _ _ _ hinv := hinv
  degraded _ _ _ hinv := hinv
  cleared _ hinv := hinv
  risk _ hinv := hinv
  riskStart _ hinv := hinv
  riskTerminal _ _ hinv := hinv
  unwritten row error hinv := by
    simpa [or_imp, forall_and, LiveCall.ofWorker, LiveCall.leavesOrders,
      leavesOrders] using hinv
  unaudited row id entry error hinv := by
    simpa [or_imp, forall_and, LiveCall.ofWorker, LiveCall.leavesOrders,
      leavesOrders] using hinv
  halted row id entry auditId reason _ hinv := by
    simpa [or_imp, forall_and, LiveCall.ofWorker, LiveCall.leavesOrders,
      leavesOrders] using hinv
  moved row id entry auditId reason _ _ hinv := by
    simpa [or_imp, forall_and, LiveCall.ofWorker, LiveCall.leavesOrders,
      leavesOrders] using hinv

theorem pendingCommand_answer {c : LiveCall} (hc : c.ofWorker) (answer : Answer)
    (world : World) (action : LiveControlAction) (commandId : ℕ) :
    pendingCommand (c.answer answer world).2.db action commandId ↔
      pendingCommand world.db action commandId ∧
        answersCommand commandId ⟨c, (c.answer answer world).1⟩ = false := by
  cases c with
  | submitOrderIntent request => exact hc.elim
  | database call =>
    simp only [LiveCall.answer, LiveCall.respond, execute]
    cases answer.databaseError with
    | some error => simp [answersCommand]
    | none =>
      cases call with
      | updateLiveControlCommandStatus id appliedAtMs status =>
        simp only [perform, pendingCommand,
          Database.updateLiveControlCommandStatus, Table.get?_modify, answersCommand]
        by_cases hid : commandId = id
        · have hfinal : status ≠ .pending := hc
          simp [hid, hfinal]
        · simp [hid, Ne.symm hid]
      | logLiveOrderIntentWithDecisionEvidence evidence intent | logLiveOrder order
      | tryReserveVenueAttempt intentId nowMs sessionId maxOrders maxFills
      | markLiveOrderIntentDryRun intentId | markLiveOrderIntentSubmitting intentId
      | setLiveOrderReconcileStatus liveOrderId status => exact hc.elim
      | _ => exact (and_iff_left rfl).symm
  | _ => exact (and_iff_left rfl).symm

/-- Whether one of the calls writes the final status of a command. -/
def answered (calls : List Exchange) (commandId : ℕ) : Bool :=
  calls.any (answersCommand commandId)

theorem pendingCommand_run {α : Type} {p : Live α} {seen : List Exchange}
    (hp : Emits (fun _ calls => ∀ x ∈ calls, LiveCall.ofWorker x.1) p seen)
    (oracle : ℕ → Answer) (world : World) (action : LiveControlAction) (commandId : ℕ) :
    pendingCommand (Live.run p oracle world).2.db action commandId ↔
      pendingCommand world.db action commandId ∧
        answered ((Live.run p oracle world).2.callsSince world) commandId = false := by
  induction p generalizing seen oracle world with
  | pure a =>
    simp [Live.run, Program.run, World.callsSince, answered]
  | request c next ih =>
    have hnext := hp (c.answer (oracle 0) world).1
    have hc : c.ofWorker := by
      have hrecord (choice : Answer) (call : LiveCall) (w : World) :
          (call.answer choice w).2.exchanges =
            w.exchanges ++ [⟨call, (call.answer choice w).1⟩] := rfl
      obtain ⟨own, -, hown⟩ := hnext.run World.exchanges hrecord (fun n => oracle (n + 1))
        (c.answer (oracle 0) world).2
      exact hown ⟨c, (c.answer (oracle 0) world).1⟩ (by simp)
    have hrest := ih _ hnext (fun n => oracle (n + 1)) (c.answer (oracle 0) world).2
    have hstep := pendingCommand_answer hc (oracle 0) world action commandId
    rw [Live.callsSince_run_request]
    unfold answered at hrest ⊢
    rw [List.any_cons, Bool.or_eq_false_iff, ← and_assoc, ← hstep]
    exact hrest

/-- After a round of operator commands, every kill switch that was pending is still pending or has
put the loop into a terminal state. -/
def KillSwitchesTakeEffect (config : Config) (base target : LiveTradingMonitor)
    (oracle : ℕ → Answer) (world : World) : Prop :=
  let round := Live.run (spawnLiveMonitorWorker config base .controls) oracle world
  ∀ commandId, pendingCommand world.db .killSwitch commandId →
    ¬ pendingCommand round.2.db .killSwitch commandId →
    (applyLiveMonitorWorkerOutput target round.1).state.isTerminal = true

/-- An answered kill switch has halted the session exactly if the loop was in a terminal state
already, or the round does not end in a failed database call and its copy was terminal at the spawn
or both writes of a terminal control state succeeded. -/
theorem kill_switch_takes_effect_iff (config : Config) (base target : LiveTradingMonitor)
    (oracle : ℕ → Answer) (world : World) :
    let calls := (Live.run (spawnLiveMonitorWorker config base .controls) oracle world).2.callsSince
      world
    KillSwitchesTakeEffect config base target oracle world ↔
      ((∃ commandId, pendingCommand world.db .killSwitch commandId ∧
          answered calls commandId = true) →
        target.state.isTerminal = true ∨
          endsInFailure calls = false ∧
            (base.state.isTerminal = true ∨ haltRecorded calls = true)) := by
  intro calls
  have hworker : Emits (fun _ own => ∀ x ∈ own, LiveCall.ofWorker x.1)
      (spawnLiveMonitorWorker config base .controls) [] := by
    unfold spawnLiveMonitorWorker
    rw [emits_map]
    have hkeeps := LiveTradingMonitor.liveMonitorWorkerMethod_keeps
      (ofWorker_operatorInvariant config) .controls base []
    exact hkeeps fun x hx => absurd hx List.not_mem_nil
  have hpending := pendingCommand_run hworker oracle world .killSwitch
  have hmerge := isTerminal_controls_merge_iff config base target oracle world
  have hanswered : ∀ commandId, pendingCommand world.db .killSwitch commandId →
      (¬ pendingCommand (Live.run (spawnLiveMonitorWorker config base .controls) oracle
          world).2.db .killSwitch commandId ↔ answered calls commandId = true) := by
    intro commandId hbefore
    rw [hpending commandId]
    simp [hbefore, calls]
  constructor
  · rintro h ⟨commandId, hbefore, hcalls⟩
    apply hmerge.mp
    exact h commandId hbefore ((hanswered commandId hbefore).mpr hcalls)
  · intro h commandId hbefore hafter
    apply hmerge.mpr
    exact h ⟨commandId, hbefore, (hanswered commandId hbefore).mp hafter⟩

/-- The sample world with one kill switch queued by the operator. -/
def killSwitchWorld : World :=
  { sampleWorld with
    db := (sampleWorld.db.insertLiveControlCommand
      { sessionId := 1, action := "kill-switch", actor := "operator", reason := "stop now",
        requestedAtMs := 1, appliedAtMs := none, status := .pending }).2 }

/-- The database is locked only while the halted state is inserted. -/
def lockedAtHalt (n : ℕ) : Answer :=
  if n = 6 then sampleFailure 2 else sampleAnswer 2

/-- The kill switch is marked rejected and the session stays armed. -/
theorem kill_switch_swallowed :
    ¬ KillSwitchesTakeEffect sampleConfig sampleMonitor sampleMonitor lockedAtHalt
      killSwitchWorld := by
  intro h
  have hbefore : pendingCommand killSwitchWorld.db .killSwitch 1 := ⟨_, rfl, rfl, rfl⟩
  have hafter : ((Live.run (spawnLiveMonitorWorker sampleConfig sampleMonitor .controls)
      lockedAtHalt killSwitchWorld).2.db.liveControlCommands.get? 1).map
        LiveControlCommand.status = some .rejected := by
    decide +kernel
  have hstate : (applyLiveMonitorWorkerOutput sampleMonitor
      (Live.run (spawnLiveMonitorWorker sampleConfig sampleMonitor .controls)
        lockedAtHalt killSwitchWorld).1).state.isTerminal = false := by
    decide +kernel
  have hterminal := h 1 hbefore (by
    rintro ⟨command, hget, hpending, -⟩
    rw [hget, Option.map_some, hpending] at hafter
    cases hafter)
  rw [hstate] at hterminal
  cases hterminal

end BubaPaint
