import BubaPaint.Live.FillCalls
import BubaPaint.Live.Runtime

/-!
# Submissions after a terminal state

The loop checks the control state when it asks for an evaluation, and nobody checks it again before
the venue call. So a terminal state stops submissions exactly as far as nothing that can reach the
venue is on its way when the state is entered.

Main results:

- Theorem `no_submission_after_terminal`: a terminal state that is entered idle stops submissions.
- Theorem `Idles.step`: once nothing that can reach the venue is on its way, nothing ever is.
-/

namespace BubaPaint

open Effects LiveCall
open Program (Always Obeys always_bind forall_except obeys_bind)

def LiveCall.isSubmission : LiveCall → Bool
  | .submitOrderIntent _ => true
  | _ => false

def LiveCall.writesControlState : LiveCall → Bool
  | .database (.insertLiveControlState _) => true
  | _ => false

def LiveSubmissionFeedback.isTerminal (feedback : LiveSubmissionFeedback) : Bool :=
  feedback.stateUpdate.any fun update => update.state.isTerminal

namespace Runtime

/-- Whether the session is in a terminal control state: in memory, in the database, or by a feedback
the loop has not yet taken over. -/
def inTerminalState (s : Runtime) : Bool :=
  s.monitor.state.isTerminal ||
    (s.world.db.liveControlState.any fun row =>
      row.sessionId == s.monitor.sessionId && row.state.isTerminal) ||
    s.feedback.any LiveSubmissionFeedback.isTerminal ||
    match s.worker with
    | some (.pure feedback) => feedback.isTerminal
    | _ => false

def submits (s : Runtime) : RuntimeAction → Bool
  | .workerCall _ => (s.worker.bind Program.pending?).any isSubmission
  | _ => false

/-- Whether the submission worker itself writes a control state in this step. -/
def writesControlState (s : Runtime) : RuntimeAction → Bool
  | .workerCall _ => (s.worker.bind Program.pending?).any LiveCall.writesControlState
  | _ => false

/-- The submission worker is at no request, or has only the feedback left to send. -/
def workerAtRest (s : Runtime) : Bool :=
  match s.worker with
  | none | some (.pure _) => true
  | some (.request ..) => false

end Runtime

/-- The runtime with a history that tells whether a terminal state was entered. -/
def haltSystem (config : Config) : System Runtime RuntimeAction Bool where
  step := Runtime.step config
  record halted _ _ s' := halted || s'.inTerminalState

/-- Once a terminal state was entered, no step submits an order. -/
def SubmissionsStop (config : Config) (meets : Bool → Runtime → RuntimeAction → Runtime → Prop)
    (start : Runtime) : Prop :=
  ∀ s a s', (haltSystem config).Run meets (start.inTerminalState, start) true s →
    s.step config a = some s' → s.submits a = false

/-- From the step that enters a terminal state on the submission queue is empty, so that what was
decided and not yet queued is discarded; and in that step the worker is at no request, unless it is
the worker's own write of the state. -/
def HaltsIdle (halted : Bool) (s : Runtime) (a : RuntimeAction) (s' : Runtime) : Prop :=
  ((halted || s'.inTerminalState) = true → s'.queue = []) ∧
    (halted = false → s'.inTerminalState = true →
      s'.workerAtRest = true ∨ s.writesControlState a = true)

/-! ## What the worker does after it has written a control state -/

/-- Once a control state is written, no order is submitted any more. -/
def haltDiscipline : Discipline LiveCall LiveCall.Reply Bool where
  allowed written c := c.isSubmission = true → written = false
  next written c _ := written || c.writesControlState

section Worker

variable {α : Type} {post : α → Prop} {p : Live α}

theorem obeys_haltDiscipline_of_plain (h : Always plain post p) (written : Bool) :
    Obeys haltDiscipline (fun a _ => post a) p written := by
  induction p generalizing written with
  | pure a => exact h
  | request c next ih =>
    refine ⟨?_, fun reply => ih reply (h.2 reply) _⟩
    intro hsubmission
    cases c with
    | submitOrderIntent request => exact h.1.elim
    | _ => cases hsubmission

/-- Calls that neither submit an order nor write a control state. -/
def LiveCall.leavesSession (c : LiveCall) : Prop :=
  c.isSubmission = false ∧ c.writesControlState = false

theorem obeys_haltDiscipline_of_leavesSession (h : Always leavesSession post p) :
    Obeys haltDiscipline (fun a written => post a ∧ written = false) p false := by
  refine h.obeys ?_
  rintro c ⟨hsubmission, hwrites⟩
  refine ⟨?_, fun _ => hwrites⟩
  intro hsubmits
  rw [hsubmission] at hsubmits

variable (input : LiveOrderWorkerSubmission) (config : Config) (order : QueuedOrderIntent)
variable (orderRequest : LiveOrderIntentRequest) (response : LiveOrderIntentResponse)
variable (sessionId intentId liveOrderId nowMs : ℕ) (reservedCost : ℚ)

theorem persistLiveOrderIntentFromWorker_leavesSession (notional : ℚ) :
    Always leavesSession (fun _ => True) (persistLiveOrderIntentFromWorker input notional).run := by
  unfold persistLiveOrderIntentFromWorker liveDecisionEvidenceFromEvent
  refine ⟨⟨rfl, rfl⟩, ?_⟩
  rintro (error | _)
  · trivial
  cases input.decisionEvent with
  | none => trivial
  | some event =>
    cases event with
    | signal evidence =>
      dsimp only
      split
      · trivial
      · refine ⟨⟨rfl, rfl⟩, ?_⟩
        rintro (error | intentId) <;> trivial
    | _ => trivial

/-- A control state is written only with a result that blocks. -/
def BlocksAfterWrite (result : LiveSubmissionOrderResult) (written : Bool) : Prop :=
  written = true → result.isBlocked = true

theorem blockLiveResponseWithState_isBlocked (reason : String) (release : Option ℚ) :
    Always plain (fun result => result.isBlocked = true)
      (blockLiveResponseWithState sessionId nowMs reason release) := by
  unfold blockLiveResponseWithState
  rw [always_bind]
  exact (persistLiveWorkerState_plain ..).mono (fun _ h => h) fun _ _ => rfl

/-- A step before or after the venue call ends in a value that has a blocked result in it if a
control state was written. -/
def EndsBatch (r : Except LiveSubmissionOrderResult α) (written : Bool) : Prop :=
  written = true → ∃ blocked, r = .error blocked ∧ blocked.isBlocked = true

theorem endsBatch_false (r : Except LiveSubmissionOrderResult α) : EndsBatch r false :=
  (absurd · Bool.false_ne_true)

theorem blocksAfterWrite_false (result : LiveSubmissionOrderResult) :
    BlocksAfterWrite result false :=
  (absurd · Bool.false_ne_true)

theorem EndsBatch.blocked {blocked : LiveSubmissionOrderResult} {written : Bool}
    (h : EndsBatch (.error blocked : Except LiveSubmissionOrderResult α) written) :
    BlocksAfterWrite blocked written := by
  intro hwritten
  obtain ⟨_, ⟨⟩, hblocked⟩ := h hwritten
  exact hblocked

theorem EndsBatch.not_written {a : α} {written : Bool} (h : EndsBatch (.ok a) written) :
    written = false := by
  by_contra hwritten
  obtain ⟨_, ⟨⟩, -⟩ := h (Bool.eq_true_of_not_eq_false hwritten)

theorem obeys_haltDiscipline_block (reason : String) (release : Option ℚ) (written : Bool) :
    Obeys haltDiscipline EndsBatch
      (blockLiveResponseWithState sessionId nowMs reason release >>= fun blocked =>
        pure (.error blocked : Except LiveSubmissionOrderResult α)) written := by
  rw [obeys_bind]
  refine (obeys_haltDiscipline_of_plain
    (blockLiveResponseWithState_isBlocked sessionId nowMs reason release) written).mono ?_
  intro blocked _ hblocked _
  exact ⟨blocked, rfl, hblocked⟩

theorem obeys_haltDiscipline_reserveLiveOrderSubmission (maxSessionOrders maxSessionFills : ℕ) :
    Obeys haltDiscipline EndsBatch
      (reserveLiveOrderSubmission sessionId intentId nowMs maxSessionOrders maxSessionFills
        reservedCost) false := by
  refine ⟨nofun, ?_⟩
  rintro (error | _)
  · exact nofun
  refine ⟨nofun, ?_⟩
  rintro (error | _ | existing)
  · exact nofun
  · refine ⟨nofun, ?_⟩
    rintro (error | _ | _ | _)
    · exact nofun
    · exact nofun
    · exact obeys_haltDiscipline_block ..
    · exact nofun
  · exact obeys_haltDiscipline_block ..

theorem obeys_haltDiscipline_classifyAcceptedLiveSize :
    Obeys haltDiscipline EndsBatch (classifyAcceptedLiveSize sessionId order nowMs response)
      false := by
  unfold classifyAcceptedLiveSize
  split
  · exact obeys_haltDiscipline_block ..
  · split
    · exact endsBatch_false _
    · dsimp only
      split
      · exact obeys_haltDiscipline_block ..
      · split
        · exact obeys_haltDiscipline_block ..
        · exact endsBatch_false _

theorem settleClassifiedSize_leavesSession (accepted : Option ℚ) :
    Always leavesSession (fun _ => True)
      (settleClassifiedSize config sessionId order intentId liveOrderId nowMs response
        (.ok accepted)) := by
  cases accepted with
  | none => trivial
  | some acceptedSize =>
    unfold settleClassifiedSize persistResponseFillFromWorker
    cases response.acceptedSize with
    | none => split_ifs <;> simp [leavesSession, isSubmission, writesControlState]
    | some size =>
      dsimp only
      split_ifs <;> simp [leavesSession, isSubmission, writesControlState]

theorem obeys_haltDiscipline_handleLiveOrderResponseFromWorker :
    Obeys haltDiscipline BlocksAfterWrite
      (handleLiveOrderResponseFromWorker config sessionId order intentId nowMs response) false := by
  refine ⟨nofun, ?_⟩
  rintro (error | _)
  · exact nofun
  refine ⟨nofun, ?_⟩
  rintro (error | liveOrderId)
  · exact nofun
  show Obeys _ _ (if _ then _ else _) _
  split
  · split
    · exact (obeys_haltDiscipline_of_plain (blockLiveResponseWithState_isBlocked ..) _).mono
        fun _ _ hblocked _ => hblocked
    · exact nofun
  · rw [obeys_bind]
    refine (obeys_haltDiscipline_classifyAcceptedLiveSize order response sessionId nowMs).mono ?_
    rintro (blocked | accepted) written hended
    · exact hended.blocked
    · obtain rfl := hended.not_written
      refine (obeys_haltDiscipline_of_leavesSession (settleClassifiedSize_leavesSession ..)).mono ?_
      rintro result _ ⟨-, rfl⟩
      exact nofun

theorem markIntentSubmittingOrBlock_leavesSession :
    Always leavesSession (fun _ => True) (markIntentSubmittingOrBlock intentId reservedCost) := by
  unfold markIntentSubmittingOrBlock
  simp [leavesSession, isSubmission, writesControlState, forall_except]

theorem dryRunLiveOrderOutcome_leavesSession :
    Always leavesSession (fun _ => True)
      (dryRunLiveOrderOutcome sessionId intentId order orderRequest nowMs) := by
  unfold dryRunLiveOrderOutcome
  simp [leavesSession, isSubmission, writesControlState, forall_except]

theorem handleLiveOrderErrorFromWorker_isBlocked (errorMessage : String) :
    Always plain (fun result => result.isBlocked = true)
      (handleLiveOrderErrorFromWorker sessionId order orderRequest intentId nowMs errorMessage) := by
  have hstate := persistLiveWorkerState_plain sessionId nowMs .unknownOrder "system"
    "sidecar order submission outcome unknown"
  unfold handleLiveOrderErrorFromWorker
  simp [forall_except, plain, hstate, LiveSubmissionOrderResult.isBlocked]

theorem obeys_haltDiscipline_submitOneLiveOrderFromWorker :
    Obeys haltDiscipline BlocksAfterWrite (submitOneLiveOrderFromWorker input) false := by
  unfold submitOneLiveOrderFromWorker
  simp only [obeys_bind]
  refine (obeys_haltDiscipline_of_leavesSession
    (persistLiveOrderIntentFromWorker_leavesSession input _)).mono ?_
  rintro (error | ⟨intentId, _ | reason⟩) _ ⟨-, rfl⟩
  · exact blocksAfterWrite_false _
  · simp only [obeys_bind]
    refine (obeys_haltDiscipline_reserveLiveOrderSubmission ..).mono ?_
    rintro (blocked | _) written hended
    · exact hended.blocked
    obtain rfl := hended.not_written
    dsimp only
    split
    · refine (obeys_haltDiscipline_of_leavesSession
        (dryRunLiveOrderOutcome_leavesSession ..)).mono ?_
      rintro result _ ⟨-, rfl⟩
      exact blocksAfterWrite_false _
    · rw [obeys_bind]
      refine (obeys_haltDiscipline_of_leavesSession
        (markIntentSubmittingOrBlock_leavesSession intentId _)).mono ?_
      rintro (_ | blocked) _ ⟨hblocked, rfl⟩
      · refine ⟨fun _ => rfl, ?_⟩
        rintro (error | response)
        · exact (obeys_haltDiscipline_of_plain
            (handleLiveOrderErrorFromWorker_isBlocked ..) _).mono fun _ _ hblocked _ => hblocked
        · exact obeys_haltDiscipline_handleLiveOrderResponseFromWorker ..
      · exact blocksAfterWrite_false _
  · exact blocksAfterWrite_false _

variable (batch : LiveSubmissionRequest)

theorem obeys_haltDiscipline_submitOrders (feedback : LiveSubmissionFeedback) (successful : ℕ)
    (orders : List QueuedOrderIntent) :
    Obeys haltDiscipline (fun _ _ => True)
      (submitOrders config sessionId batch feedback successful orders) false := by
  induction orders generalizing feedback successful with
  | nil => trivial
  | cons order rest ih =>
    rw [submitOrders, obeys_bind]
    refine (obeys_haltDiscipline_submitOneLiveOrderFromWorker _).mono ?_
    intro result written hblocks
    cases hresult : result.isBlocked with
    | true =>
      cases result with
      | blocked state reason release => trivial
      | _ => cases hresult
    | false =>
      obtain rfl : written = false := by
        by_contra hwritten
        rw [hblocks (Bool.eq_true_of_not_eq_false hwritten)] at hresult
        cases hresult
      cases result with
      | blocked state reason release => cases hresult
      | _ => exact ih _ _

/-- Once the worker has written a control state, it submits no further order of the request. -/
theorem obeys_haltDiscipline_submitLiveOrdersFromWorker :
    Obeys haltDiscipline (fun _ _ => True) (submitLiveOrdersFromWorker config sessionId batch)
      false := by
  unfold submitLiveOrdersFromWorker
  rw [obeys_bind]
  refine (obeys_haltDiscipline_submitOrders ..).mono ?_
  rintro ⟨feedback, successful⟩ written -
  dsimp only
  split
  · rw [obeys_bind]
    exact (obeys_haltDiscipline_of_plain (persistLiveWorkerState_plain ..) _).mono
      fun _ _ _ => trivial
  · trivial

end Worker

/-! ## Runs that halt idle -/

namespace Runtime

/-- What holds in a run that halts idle: the request at work has written a control state if the
session has halted, and then the queue is empty. -/
structure Idles (halted : Bool) (s : Runtime) : Prop where
  queue : halted = true → s.queue = []
  worker : ∀ p, s.worker = some p →
    ∃ written, Obeys haltDiscipline (fun _ _ => True) p written ∧ (halted = true → written = true)

variable {config : Config} {s s' : Runtime} {a : RuntimeAction} {halted : Bool}

/-- A worker at a request has written a control state by the halt; one at rest submits nothing
either way. -/
theorem exists_obeys_of_haltsIdle {p : Live LiveSubmissionFeedback} {written : Bool}
    (hmeets : HaltsIdle halted s a s') (hp : s'.worker = some p)
    (hobeys : Obeys haltDiscipline (fun _ _ => True) p written)
    (hhalted : halted = true → written = true)
    (hwrites : s.writesControlState a = true → written = true) :
    ∃ written, Obeys haltDiscipline (fun _ _ => True) p written ∧
      ((halted || s'.inTerminalState) = true → written = true) := by
  cases p with
  | pure feedback => exact ⟨true, trivial, fun _ => rfl⟩
  | request c next =>
    refine ⟨written, hobeys, ?_⟩
    intro hafter
    cases halted with
    | true => exact hhalted rfl
    | false =>
      rcases hmeets.2 rfl hafter with hrest | hown
      · simp [workerAtRest, hp] at hrest
      · exact hwrites hown

theorem Idles.step (h : s.Idles halted) (hstep : s.step config a = some s')
    (hmeets : HaltsIdle halted s a s') : s'.Idles (halted || s'.inTerminalState) := by
  refine ⟨hmeets.1, ?_⟩
  intro p hp
  have hkept : s.worker = some p → s.writesControlState a = false →
      ∃ written, Obeys haltDiscipline (fun _ _ => True) p written ∧
        ((halted || s'.inTerminalState) = true → written = true) := by
    intro hbefore hother
    obtain ⟨written, hobeys, hwritten⟩ := h.worker p hbefore
    refine exists_obeys_of_haltsIdle hmeets hp hobeys hwritten ?_
    simp [hother]
  cases steps_of_step hstep with
  | taken request rest hworker hqueue =>
    cases hp
    refine exists_obeys_of_haltsIdle hmeets rfl
      (obeys_haltDiscipline_submitLiveOrdersFromWorker ..) ?_ nofun
    intro hhalted
    rw [h.queue hhalted] at hqueue
    cases hqueue
  | workerCalled answer c next hworker =>
    cases hp
    obtain ⟨written, hobeys, hwritten⟩ := h.worker _ hworker
    refine exists_obeys_of_haltsIdle hmeets rfl (hobeys.2 _) ?_ ?_
    · intro hhalted
      simp [haltDiscipline, hwritten hhalted]
    · intro hwrites
      have hcall : c.writesControlState = true := by
        simpa [writesControlState, hworker, Program.pending?] using hwrites
      simp [haltDiscipline, hcall]
  | workerFinished feedback hworker => cases hp
  | _ => exact hkept hp rfl

theorem Idles.submits_eq_false (h : s.Idles true) (hstep : s.step config a = some s') :
    s.submits a = false := by
  cases steps_of_step hstep with
  | workerCalled answer c next hworker =>
    obtain ⟨written, hobeys, hwritten⟩ := h.worker _ hworker
    obtain rfl := hwritten rfl
    cases hsubmission : c.isSubmission with
    | true => cases hobeys.1 hsubmission
    | false => simp [submits, hworker, Program.pending?, hsubmission]
  | _ => rfl

end Runtime

variable {config : Config} {start s : Runtime} {halted : Bool}

/-- If terminal states are entered idle, no order is submitted afterwards. -/
theorem no_submission_after_terminal {config : Config} {start : Runtime}
    (hqueue : start.queue = []) (hworker : start.worker = none) :
    SubmissionsStop config HaltsIdle start := by
  intro s a s' hrun hstep
  have hidles : s.Idles true := by
    refine hrun.invariant (fun halted s => s.Idles halted) ⟨fun _ => hqueue, ?_⟩
      fun _ _ _ _ hidles hstep hmeets => hidles.step hstep hmeets
    intro p hp
    rw [hworker] at hp
    cases hp
  exact hidles.submits_eq_false hstep

def queueOne : List RuntimeAction :=
  [.evaluate sampleSingle, .enqueue]

def haltByOutage : List RuntimeAction :=
  .feedOutage (some ("binance", 200000)) ::
    (List.replicate 8 (.outageCall (sampleAnswer 2000)) ++ [.outageDone])

/-- The submission worker takes the request and comes to the venue call. -/
def workUpToVenue : List RuntimeAction :=
  .takeRequest :: List.replicate 7 (.workerCall (sampleAnswer 3000))

/-- An order that was queued before the halt is submitted after it. -/
theorem submission_after_halt :
    ¬ SubmissionsStop sampleConfig (fun _ _ _ _ => True)
      (Runtime.start sampleMonitor sampleWorld) := by
  intro h
  have hfollow : ((haltSystem sampleConfig).follow (fun _ _ _ _ => true)
      (queueOne ++ haltByOutage ++ workUpToVenue)
      (false, Runtime.start sampleMonitor sampleWorld)).any (fun x =>
        x.1 && x.2.submits (.workerCall (sampleAnswer 4000)) &&
          (x.2.step sampleConfig (.workerCall (sampleAnswer 4000))).isSome) = true := by
    decide +kernel
  obtain ⟨halted, s, hrun, hs⟩ := System.exists_run_of_follow hfollow fun _ _ _ _ _ => trivial
  simp only [Bool.and_eq_true] at hs
  obtain ⟨⟨rfl, hsubmits⟩, hpossible⟩ := hs
  obtain ⟨s', hstep⟩ := Option.isSome_iff_exists.mp hpossible
  have hstops := h s _ s' hrun hstep
  rw [hsubmits] at hstops
  cases hstops

/-- The check of `HaltsIdle`. -/
def haltsIdle (halted : Bool) (s : Runtime) (a : RuntimeAction) (s' : Runtime) : Bool :=
  (!(halted || s'.inTerminalState) || s'.queue.isEmpty) &&
    (halted || !s'.inTerminalState || s'.workerAtRest || s.writesControlState a)

theorem haltsIdle_iff {s' : Runtime} {a : RuntimeAction} :
    haltsIdle halted s a s' = true ↔ HaltsIdle halted s a s' := by
  simp [haltsIdle, HaltsIdle, or_assoc, imp_iff_not_or]

def unansweredSubmission : Answer :=
  { sampleAnswer 3000 with submitOrderIntent := .error "request timed out" }

/-- The venue call of the first request of two is not answered: the worker itself writes the
terminal state, and what is still decided is discarded. -/
theorem no_submission_after_terminal_sample :
    SubmissionsStop sampleConfig HaltsIdle (Runtime.start sampleMonitor sampleWorld) ∧
      ∃ s, (haltSystem sampleConfig).Run HaltsIdle
        (false, Runtime.start sampleMonitor sampleWorld) true s := by
  refine ⟨no_submission_after_terminal rfl rfl, ?_⟩
  have hfollow : ((haltSystem sampleConfig).follow haltsIdle
      (queueOne ++ workUpToVenue ++ [.evaluate sampleSingle] ++
        List.replicate 9 (.workerCall unansweredSubmission) ++
        [.workerDone, .mergeFeedback ⟨true, true⟩, .discard])
      (false, Runtime.start sampleMonitor sampleWorld)).any (fun x => x.1) = true := by
    decide +kernel
  obtain ⟨halted, s, hrun, rfl⟩ := System.exists_run_of_follow hfollow
    fun _ _ _ _ => haltsIdle_iff.mp
  exact ⟨s, hrun⟩

end BubaPaint
