import BubaPaint.Live.OrderResults

/-!
# The submission worker

The worker submits the orders of one request one after another, stops the batch at the first blocked
order, releases what it has not submitted, and reports one feedback. A run of the batch is described
by its order runs: for each submitted order the result and the calls made for it.
-/

namespace BubaPaint

open Effects Program LiveSubmissionOrderResult List Program
open LiveCall (answer)

/-- One batch of live orders queued for submission. -/
structure LiveSubmissionRequest where
  orders : List QueuedOrderIntent
  criticalEvents : List LivePersistenceEvent
  nowMs : ℕ

/-- A control state the worker asks the runtime to take over. -/
structure LiveSubmissionStateUpdate where
  state : ControlState
  reason : String

/-- Feedback from the live submission worker back to the runtime. -/
structure LiveSubmissionFeedback where
  stateUpdate : Option LiveSubmissionStateUpdate
  releases : List (String × ℚ)
  fills : List LiveOrderFillFeedback
  rejectedSignalIds : List ℤ
  nowMs : ℕ

namespace LiveSubmissionFeedback

def start (nowMs : ℕ) : LiveSubmissionFeedback where
  stateUpdate := none
  releases := []
  fills := []
  rejectedSignalIds := []
  nowMs := nowMs

def release (feedback : LiveSubmissionFeedback) (order : QueuedOrderIntent) (amount : ℚ) :
    LiveSubmissionFeedback :=
  { feedback with
    releases := feedback.releases ++ [(order.strategy, amount)]
    rejectedSignalIds := feedback.rejectedSignalIds ++ [order.signalId] }

def fill (feedback : LiveSubmissionFeedback) (order : QueuedOrderIntent)
    (fillPrice filledSize : ℚ) : LiveSubmissionFeedback :=
  { feedback with
    fills := feedback.fills ++
      [{ signalId := order.signalId, fillPrice := fillPrice, filledSize := filledSize }] }

end LiveSubmissionFeedback

/-- The strategy whose two legs belong together. -/
def spreadCapture : String :=
  "spread-capture"

/-- Release not-yet-submitted reservations after a batch-level live blocker. -/
def releaseUnsubmittedOrdersAfterBlock (feedback : LiveSubmissionFeedback)
    (orders : List QueuedOrderIntent) : LiveSubmissionFeedback :=
  orders.foldl (fun feedback order => feedback.release order order.reservedCost) feedback

section Batch

variable (config : Config) (sessionId : ℕ) (request : LiveSubmissionRequest)

def submissionOf (order : QueuedOrderIntent) : LiveOrderWorkerSubmission where
  config := config
  sessionId := sessionId
  order := order
  decisionEvent := criticalSignalEventForOrder request.criticalEvents order.signalId
  nowMs := request.nowMs

/-- The loop over the orders, with the feedback and the number of filled orders so far. -/
def submitOrders (feedback : LiveSubmissionFeedback) (successful : ℕ) :
    List QueuedOrderIntent → Live (LiveSubmissionFeedback × ℕ)
  | [] => return (feedback, successful)
  | order :: rest => do
      match ← submitOneLiveOrderFromWorker (submissionOf config sessionId request order) with
      | .filled acceptedSize fillPrice _ =>
        submitOrders (feedback.fill order fillPrice acceptedSize) (successful + 1) rest
      | .rejected release | .dryRun release =>
        submitOrders (feedback.release order release) successful rest
      | .blocked state reason release =>
        let feedback :=
          match release with
          | some release => feedback.release order release
          | none => feedback
        let feedback := releaseUnsubmittedOrdersAfterBlock feedback rest
        return ({ feedback with stateUpdate := some { state := state, reason := reason } },
          successful)

/-- Submit one live order batch outside the feed hot path. The detached on-chain verification that
the source starts for each fill is no part of the batch. -/
def submitLiveOrdersFromWorker : Live LiveSubmissionFeedback := do
  let (feedback, successful) ←
    submitOrders config sessionId request (.start request.nowMs) 0 request.orders
  if feedback.stateUpdate.isNone ∧ request.orders.length = 2 ∧
      (request.orders.any fun order => order.strategy == spreadCapture) ∧ successful = 1 then
    let reason := "spread residual exposure detected"
    let _ ← (persistLiveWorkerState sessionId .unknownOrder "system" reason request.nowMs).run
    return { feedback with stateUpdate := some { state := .unknownOrder, reason := reason } }
  else
    return feedback

/-- The submission of one order inside a run of the batch. -/
structure OrderRun where
  order : QueuedOrderIntent
  result : LiveSubmissionOrderResult
  calls : List Exchange

/-- The submission of one order, starting in a given world. -/
def orderRun (order : QueuedOrderIntent) (oracle : ℕ → Answer) (world : World) : OrderRun :=
  let outcome := Live.run
    (submitOneLiveOrderFromWorker (submissionOf config sessionId request order)) oracle world
  { order := order
    result := outcome.1
    calls := outcome.2.exchanges.drop world.exchanges.length }

/-- The order runs of a batch: one after another, up to the first blocked order. -/
def orderRuns : List QueuedOrderIntent → (ℕ → Answer) → World → List OrderRun
  | [], _, _ => []
  | order :: rest, oracle, world =>
    let submission := submitOneLiveOrderFromWorker (submissionOf config sessionId request order)
    let used := steps LiveCall.answer submission oracle world
    let first := orderRun config sessionId request order oracle world
    first ::
      if first.result.isBlocked then []
      else orderRuns rest (fun n => oracle (n + used)) (Live.run submission oracle world).2

end Batch

/-! ## The feedback of a list of order runs -/

def settleResult (feedback : LiveSubmissionFeedback) (order : QueuedOrderIntent) :
    LiveSubmissionOrderResult → LiveSubmissionFeedback
  | .filled acceptedSize fillPrice _ => feedback.fill order fillPrice acceptedSize
  | .rejected release | .dryRun release => feedback.release order release
  | .blocked state reason release =>
    { (match release with
        | some release => feedback.release order release
        | none => feedback) with
      stateUpdate := some { state := state, reason := reason } }

/-- The feedback of the loop for given order runs and the orders they were made for. -/
def settleRuns (feedback : LiveSubmissionFeedback) :
    List QueuedOrderIntent → List OrderRun → LiveSubmissionFeedback
  | _ :: orders, run :: runs =>
    settleRuns (settleResult feedback run.order run.result) orders runs
  | orders, _ => releaseUnsubmittedOrdersAfterBlock feedback orders

def filledRuns (runs : List OrderRun) : ℕ :=
  runs.countP fun run => run.result.isFilled

@[simp]
theorem filledRuns_nil : filledRuns [] = 0 :=
  rfl

@[simp]
theorem filledRuns_cons (run : OrderRun) (runs : List OrderRun) :
    filledRuns (run :: runs) = filledRuns runs + if run.result.isFilled then 1 else 0 := by
  rw [filledRuns, countP_cons]
  rfl

/-- The feedback of the batch for given order runs: the loop's, with the residual check. -/
def batchFeedback (request : LiveSubmissionRequest) (runs : List OrderRun) :
    LiveSubmissionFeedback :=
  let feedback := settleRuns (.start request.nowMs) request.orders runs
  if feedback.stateUpdate.isNone ∧ request.orders.length = 2 ∧
      (request.orders.any fun order => order.strategy == spreadCapture) ∧ filledRuns runs = 1 then
    { feedback with
      stateUpdate := some
        { state := .unknownOrder, reason := "spread residual exposure detected" } }
  else
    feedback

@[simp]
theorem stateUpdate_start (nowMs : ℕ) : (LiveSubmissionFeedback.start nowMs).stateUpdate = none :=
  rfl

variable (feedback : LiveSubmissionFeedback) (order : QueuedOrderIntent)

@[simp]
theorem stateUpdate_release (amount : ℚ) :
    (feedback.release order amount).stateUpdate = feedback.stateUpdate :=
  rfl

@[simp]
theorem stateUpdate_fill (fillPrice filledSize : ℚ) :
    (feedback.fill order fillPrice filledSize).stateUpdate = feedback.stateUpdate :=
  rfl

theorem releaseUnsubmittedOrdersAfterBlock_eq (orders : List QueuedOrderIntent) :
    releaseUnsubmittedOrdersAfterBlock feedback orders =
      { feedback with
        releases := feedback.releases ++ orders.map fun order =>
          (order.strategy, order.reservedCost)
        rejectedSignalIds :=
          feedback.rejectedSignalIds ++ orders.map fun order => order.signalId } := by
  induction orders generalizing feedback with
  | nil => simp [releaseUnsubmittedOrdersAfterBlock]
  | cons order orders ih =>
    rw [releaseUnsubmittedOrdersAfterBlock, foldl_cons]
    refine (ih _).trans ?_
    simp [LiveSubmissionFeedback.release]

section Runs

variable (config : Config) (sessionId : ℕ) (request : LiveSubmissionRequest)
variable (order : QueuedOrderIntent) (orders : List QueuedOrderIntent)
variable (feedback : LiveSubmissionFeedback) (successful : ℕ) (oracle : ℕ → Answer)
variable (world : World)

theorem settleResult_blocked (order : QueuedOrderIntent) (rest : List QueuedOrderIntent)
    (state : ControlState) (reason : String) (release : Option ℚ) :
    releaseUnsubmittedOrdersAfterBlock
        (settleResult feedback order (.blocked state reason release)) rest =
      { releaseUnsubmittedOrdersAfterBlock
          (match release with
            | some release => feedback.release order release
            | none => feedback) rest with
        stateUpdate := some { state := state, reason := reason } } := by
  simp only [settleResult, releaseUnsubmittedOrdersAfterBlock_eq]

theorem run_submitOrders :
    (Live.run (submitOrders config sessionId request feedback successful orders) oracle world).1 =
      (settleRuns feedback orders (orderRuns config sessionId request orders oracle world),
        successful + filledRuns (orderRuns config sessionId request orders oracle world)) := by
  induction orders generalizing feedback successful oracle world with
  | nil => rfl
  | cons order rest ih =>
    rw [submitOrders, Live.run, run_bind, orderRuns, orderRun]
    cases hresult : (Live.run (submitOneLiveOrderFromWorker
        (submissionOf config sessionId request order)) oracle world).1 with
    | filled acceptedSize fillPrice liveOrderId =>
      simp only [Live.run] at hresult ih ⊢
      rw [hresult]
      simp only [isBlocked, Bool.false_eq_true, if_false, ih]
      simp only [settleRuns, settleResult, filledRuns_cons,
        isFilled_filled, if_true, Prod.mk.injEq, true_and]
      omega
    | rejected release =>
      simp only [Live.run] at hresult ih ⊢
      rw [hresult]
      simp only [isBlocked, Bool.false_eq_true, if_false, ih]
      simp [settleRuns, settleResult]
    | dryRun release =>
      simp only [Live.run] at hresult ih ⊢
      rw [hresult]
      simp only [isBlocked, Bool.false_eq_true, if_false, ih]
      simp [settleRuns, settleResult]
    | blocked state reason release =>
      simp only [Live.run] at hresult ⊢
      rw [hresult]
      have hrest : ∀ feedback : LiveSubmissionFeedback,
          settleRuns feedback rest [] = releaseUnsubmittedOrdersAfterBlock feedback rest := by
        intro feedback
        cases rest <;> rfl
      simp only [isBlocked, if_true, settleRuns, hrest,
        settleResult_blocked]
      rfl

/-- The feedback of the batch is computed from its order runs. -/
theorem run_submitLiveOrdersFromWorker :
    (Live.run (submitLiveOrdersFromWorker config sessionId request) oracle world).1 =
      batchFeedback request (orderRuns config sessionId request request.orders oracle world) := by
  have hloop := run_submitOrders config sessionId request request.orders
    (.start request.nowMs) 0 oracle world
  simp only [Live.run, Nat.zero_add] at hloop
  rw [submitLiveOrdersFromWorker, Live.run, run_bind, hloop, batchFeedback]
  simp only
  split
  · rw [run_bind]
    rfl
  · rfl

@[simp]
theorem order_orderRun : (orderRun config sessionId request order oracle world).order = order :=
  rfl

theorem orderRuns_singleton :
    orderRuns config sessionId request [order] oracle world =
      [orderRun config sessionId request order oracle world] := by
  simp [orderRuns]

theorem orderRun_exchanges :
    (Live.run (submitOneLiveOrderFromWorker (submissionOf config sessionId request order)) oracle
        world).2.exchanges =
      world.exchanges ++ (orderRun config sessionId request order oracle world).calls := by
  obtain ⟨own, hown, -⟩ := Live.run_emits
    (submitOneLiveOrderFromWorker_emits (submissionOf config sessionId request order))
    oracle world
  have hcalls : (orderRun config sessionId request order oracle world).calls = own := by
    simp only [orderRun, hown, drop_left]
  rw [hcalls, hown]

theorem orderRun_outcome :
    let run := orderRun config sessionId request order oracle world
    OutcomeOf run.order (venueReplies run.calls) (orderStored run.calls) run.result := by
  obtain ⟨own, hown, houtcome⟩ := Live.run_emits
    (submitOneLiveOrderFromWorker_emits (submissionOf config sessionId request order))
    oracle world
  have hcalls : (orderRun config sessionId request order oracle world).calls = own := by
    simp only [orderRun, hown, drop_left]
  simp only [hcalls]
  exact houtcome

/-- The loop calls the venue only in its order runs. -/
theorem submitOrders_venueReplies :
    ∃ own, (Live.run (submitOrders config sessionId request feedback successful orders) oracle
        world).2.exchanges = world.exchanges ++ own ∧
      venueReplies own = (orderRuns config sessionId request orders oracle world).flatMap
        fun run => venueReplies run.calls := by
  induction orders generalizing feedback successful oracle world with
  | nil => exact ⟨[], (append_nil _).symm, rfl⟩
  | cons order rest ih =>
    have hcalls := orderRun_exchanges config sessionId request order oracle world
    have hresult : (Live.run (submitOneLiveOrderFromWorker
        (submissionOf config sessionId request order)) oracle world).1 =
          (orderRun config sessionId request order oracle world).result := rfl
    rw [submitOrders, Live.run, run_bind, orderRuns]
    simp only [Live.run] at hcalls hresult ih ⊢
    rw [hresult]
    have hgo : ∀ feedback successful,
        (orderRun config sessionId request order oracle world).result.isBlocked = false →
        ∃ own, (run answer (submitOrders config sessionId request feedback successful rest)
            (fun n => oracle (n + steps answer (submitOneLiveOrderFromWorker
              (submissionOf config sessionId request order)) oracle world))
            (run answer (submitOneLiveOrderFromWorker
              (submissionOf config sessionId request order)) oracle world).2).2.exchanges =
              world.exchanges ++ own ∧
          venueReplies own =
            (orderRun config sessionId request order oracle world ::
              if (orderRun config sessionId request order oracle world).result.isBlocked then []
              else orderRuns config sessionId request rest
                (fun n => oracle (n + steps answer
                  (submitOneLiveOrderFromWorker (submissionOf config sessionId request order))
                  oracle world))
                (run answer (submitOneLiveOrderFromWorker
                  (submissionOf config sessionId request order)) oracle world).2).flatMap
              fun run => venueReplies run.calls := by
      intro feedback successful hblocked
      obtain ⟨own, hown, hreplies⟩ := ih feedback successful (fun n => oracle (n +
        steps answer (submitOneLiveOrderFromWorker
          (submissionOf config sessionId request order)) oracle world))
        (run answer (submitOneLiveOrderFromWorker
          (submissionOf config sessionId request order)) oracle world).2
      refine ⟨(orderRun config sessionId request order oracle world).calls ++ own, ?_, ?_⟩
      · rw [hown, hcalls, append_assoc]
      · rw [venueReplies_append, hreplies, hblocked]
        simp
    cases hcase : (orderRun config sessionId request order oracle world).result with
    | blocked state reason release =>
      refine ⟨(orderRun config sessionId request order oracle world).calls, ?_, ?_⟩
      · exact hcalls
      · simp [isBlocked]
    | filled acceptedSize fillPrice liveOrderId | rejected release | dryRun release =>
      rw [hcase] at hgo
      exact hgo _ _ rfl

theorem submitLiveOrdersFromWorker_venueReplies :
    ∃ own, (Live.run (submitLiveOrdersFromWorker config sessionId request) oracle
        world).2.exchanges = world.exchanges ++ own ∧
      venueReplies own = (orderRuns config sessionId request request.orders oracle world).flatMap
        fun run => venueReplies run.calls := by
  obtain ⟨own, hown, hreplies⟩ := submitOrders_venueReplies config sessionId request
    request.orders (.start request.nowMs) 0 oracle world
  rw [submitLiveOrdersFromWorker, Live.run, run_bind]
  simp only [Live.run] at hown ⊢
  split
  · rw [run_bind]
    have hpersist := (persistLiveWorkerState_always sessionId .unknownOrder "system"
      "spread residual exposure detected" request.nowMs).mono
        (LiveCall.neutral_of_books request.nowMs) fun _ h => h
    have hneutral := emits_of_neutral hpersist []
    obtain ⟨own', hown', -, hquiet, -⟩ := Live.run_emits hneutral
      (fun n => oracle (n + steps answer (submitOrders config sessionId request
        (.start request.nowMs) 0 request.orders) oracle world))
      (run answer (submitOrders config sessionId request
        (.start request.nowMs) 0 request.orders) oracle world).2
    refine ⟨own ++ own', ?_, ?_⟩
    · rw [← append_assoc, ← hown, ← hown']
      rfl
    · rw [venueReplies_append, hreplies, hquiet]
      simp [venueReplies]
  · exact ⟨own, hown, hreplies⟩

/-- Every order run fits the outcome relation of one order. -/
theorem orderRuns_outcome :
    ∀ run ∈ orderRuns config sessionId request orders oracle world,
      OutcomeOf run.order (venueReplies run.calls) (orderStored run.calls) run.result := by
  induction orders generalizing oracle world with
  | nil => simp [orderRuns]
  | cons order rest ih =>
    intro run hrun
    rw [orderRuns] at hrun
    rcases mem_cons.mp hrun with rfl | hrest
    · exact orderRun_outcome config sessionId request order oracle world
    · split at hrest
      · cases hrest
      · exact ih _ _ run hrest

theorem orderRuns_orders :
    ∃ unsubmitted, orders =
        (orderRuns config sessionId request orders oracle world).map OrderRun.order ++ unsubmitted ∧
      (unsubmitted ≠ [] →
        ∃ run ∈ orderRuns config sessionId request orders oracle world,
          run.result.isBlocked = true) := by
  induction orders generalizing oracle world with
  | nil => exact ⟨[], rfl, by simp⟩
  | cons order rest ih =>
    rw [orderRuns]
    split <;> rename_i hblocked
    · refine ⟨rest, by simp, ?_⟩
      intro _
      exact ⟨_, mem_cons_self, hblocked⟩
    · obtain ⟨unsubmitted, horders, hrun⟩ := ih (fun n => oracle (n + steps
        answer (submitOneLiveOrderFromWorker
          (submissionOf config sessionId request order)) oracle world))
        (Live.run (submitOneLiveOrderFromWorker
          (submissionOf config sessionId request order)) oracle world).2
      refine ⟨unsubmitted, ?_, ?_⟩
      · rw [map_cons, cons_append, ← horders, order_orderRun]
      · intro hne
        obtain ⟨run, hmem, hblocked'⟩ := hrun hne
        exact ⟨run, mem_cons_of_mem _ hmem, hblocked'⟩

end Runs

def sampleOrder (signalId : ℤ) (side : SignalDirection) : QueuedOrderIntent where
  signalId := signalId
  signalTimestamp := 1000
  marketId := "market"
  strategy := spreadCapture
  side := side
  tokenId := "token"
  arrivalTs := 1000
  requestedPrice := 1 / 2
  limitPrice := 1 / 2
  requestedSize := 10
  reservedCost := 5
  executionGroupId := some "group"

def sampleEvidence (signalId : ℤ) : LivePersistenceEvent :=
  .signal
    { signalId := signalId, marketId := "market", orderSubmittedAtMs := some 1000,
      expectedArrivalAtMs := some 1000, decisionStatus := "accepted", rejectionReason := none }

def sampleSpread : LiveSubmissionRequest where
  orders := [sampleOrder 1 .up, sampleOrder 2 .down]
  criticalEvents := [sampleEvidence 1, sampleEvidence 2]
  nowMs := 1000

def sampleSingle : LiveSubmissionRequest where
  orders := [sampleOrder 1 .up]
  criticalEvents := [sampleEvidence 1]
  nowMs := 1000

def sampleResponse (ok : Bool) (status : String) (acceptedSize : Option ℚ) :
    LiveOrderIntentResponse where
  ok := ok
  venueOrderId := none
  clientOrderId := "buba-live-1-1"
  status := status
  statusReason := none
  acceptedSize := acceptedSize
  detailsJson := none

def sampleAccount (timestampMs : ℕ) : LiveAccountState where
  timestampMs := timestampMs
  walletAddress := none
  proxyWallet := none
  cashAvailable := 100
  cashReservedForOrders := 0
  inventoryMarkValue := 0
  redeemableValue := 0
  pendingRedeemValue := 0
  totalEquity := 100
  allowanceAvailable := some 100

def sampleAnswer (nowMs : ℕ) : Answer where
  databaseError := none
  submitOrderIntent := .ok (sampleResponse true "matched" (some 10))
  cancelAll := .ok { ok := true, cancelled := 0 }
  redeemAll := .ok { ok := true, submitted := 0 }
  preflight := .ok
    { ok := true, walletAddress := none, proxyWallet := none, signatureType := some 0,
      geoblockStatus := .ok, geoblockIp := none, authStatus := .ok, clockStatus := .ok,
      userStreamStatus := .ok, errors := [] }
  accountState := .ok (sampleAccount nowMs)
  activity := .ok { timestampMs := nowMs, userStreamStatus := .ok, clobTrades := [] }
  now := nowMs

def sampleFailure (nowMs : ℕ) : Answer :=
  { sampleAnswer nowMs with databaseError := some "database is locked" }

def sampleWorld : World where
  db :=
    { Database.empty with
      liveSessions := Table.empty.insert
        { startedAtMs := 0, endedAtMs := none, status := .control .armed,
          executionMode := .liveTrading, walletAddress := none, proxyWallet := none,
          cashCapUsd := 100 } }
  exchanges := []

end BubaPaint
