import BubaPaint.Decision.OrderTallies
import BubaPaint.Decision.Passes
import BubaPaint.Decision.Messages

/-!
# Orders of the decision engine

What a decision pass does to the tally of the engine's orders: the queue is put to the verdict of
the pass, and each submission queues the orders it reports.

Main results:

- Theorem `EngineOrders.run`: the orders of a simulated run are conserved.
-/

namespace BubaPaint

open Effects List RuntimeDecisionEngine

namespace RuntimeDecisionEngine

variable {σ : Type}

def tally (engine : RuntimeDecisionEngine σ) : OrderTally where
  pending := engine.pendingOrders.map queuedOrderIntent
  filledOrders := engine.stats.filledOrders
  noFills := engine.stats.noFills
  spreadLeggingFailures := engine.stats.spreadLeggingFailures

def verdict (engine : RuntimeDecisionEngine σ) (request : RuntimeDecisionRequest)
    (order : QueuedOrderIntent) : OrderVerdict :=
  orderVerdict engine.config (some request.window) request.bookState request.nowMs order

variable (engine : RuntimeDecisionEngine σ) (order : RuntimePendingOrder)

@[simp]
theorem tally_recordSubmittedOrder : (engine.recordSubmittedOrder order).tally = engine.tally :=
  rfl

@[simp]
theorem tally_pushPendingOrder :
    (engine.pushPendingOrder order).tally = engine.tally.push [queuedOrderIntent order] := by
  simp [pushPendingOrder, tally, OrderTally.push]

end RuntimeDecisionEngine

namespace DueOrders

variable {σ : Type} (request : RuntimeDecisionRequest)

def loopTally (due : DueOrders σ) : LoopTally where
  tally := { due.engine.tally with pending := due.remaining.map queuedOrderIntent }
  ended := due.outcomes.map (·.ended)
  groups := due.groupOutcomes

theorem loopTally_step (due : DueOrders σ) (order : RuntimePendingOrder) :
    (due.step request order).loopTally =
      due.loopTally.step (due.engine.verdict request) (queuedOrderIntent order) := by
  unfold step LoopTally.step recordVerdict
  rw [processDueOrder_eq]
  unfold verdict
  cases orderVerdict due.engine.config (some request.window) request.bookState request.nowMs
      (queuedOrderIntent order) with
  | deferred => simp [OrderVerdict.disposition, loopTally, OrderTally.push]
  | missed trackGroup reason book =>
    simp [OrderVerdict.disposition, loopTally, rejectOrder, tally, ProcessedOrderOutcome.ended,
      releaseReserved, queuedOrderIntent]
  | filled book filledSize =>
    unfold fillOrder
    simp only [releaseUnspent_eq]
    simp [OrderVerdict.disposition, loopTally, tally, ProcessedOrderOutcome.ended, recordFill,
      allocateTradeId, queuedOrderIntent]

theorem loopTally_foldl (orders : List RuntimePendingOrder) (due : DueOrders σ) :
    (orders.foldl (step request) due).loopTally =
      (orders.map queuedOrderIntent).foldl
        (LoopTally.step (due.engine.verdict request)) due.loopTally := by
  induction orders generalizing due with
  | nil => rfl
  | cons order rest ih =>
    have hverdict : (due.step request order).engine.verdict request =
        due.engine.verdict request := by
      unfold verdict
      rw [(due.step_cases request order []).1]
    rw [foldl_cons, ih, hverdict, loopTally_step, map_cons, foldl_cons]

end DueOrders

namespace RuntimeDecisionEngine

variable {σ : Type}

/-- The loop over the due orders puts the queue to the verdict of the request, and reports the
ends. -/
theorem tally_processDueOrders (engine : RuntimeDecisionEngine σ)
    (request : RuntimeDecisionRequest) :
    (engine.processDueOrders request).2.2.tally = engine.tally.decide (engine.verdict request) ∧
      (engine.processDueOrders request).1.map (·.ended) =
        decidedOutcomes (engine.verdict request) engine.tally.pending := by
  have hloop := DueOrders.loopTally_foldl request engine.pendingOrders
    { engine := { engine with pendingOrders := [] }, persistenceEvents := [], remaining := [],
      outcomes := [], groupOutcomes := [] }
  rw [LoopTally.foldl_step] at hloop
  unfold processDueOrders
  generalize engine.pendingOrders.foldl (DueOrders.step request) _ = due at hloop ⊢
  have htally := congrArg LoopTally.tally hloop
  have hended := congrArg LoopTally.ended hloop
  have hgroups := congrArg LoopTally.groups hloop
  simp only [DueOrders.loopTally, tally, map_nil, nil_append,
    OrderTally.mk.injEq] at htally hended hgroups
  obtain ⟨hremaining, hfilled, hmissed, hfailures⟩ := htally
  refine ⟨?_, hended⟩
  unfold recordLeggingFailures OrderTally.decide tally leggingFailures
  simp only [hremaining, hfilled, hmissed, hfailures, hgroups]
  rfl

end RuntimeDecisionEngine

/-! ## Submissions -/

def RuntimeDecisionLogEvent.orders : RuntimeDecisionLogEvent → List QueuedOrderIntent
  | .suppressed .. => []
  | .singleSubmitted _ _ _ outcome | .batchSubmitted _ _ _ outcome => outcome.orders

namespace DecisionPass

variable {σ : Type} (request : RuntimeDecisionRequest) (pass : DecisionPass σ)
variable (signal : Signal) (signals : List Signal) (signalIds : List ℤ)
variable (orderSubmittedAtMs expectedArrivalAtMs : Option ℕ) (decisionStatus : String)
variable (rejectionReason : Option String)

@[simp]
theorem engine_persistSpreadSignals :
    (pass.persistSpreadSignals request signals signalIds orderSubmittedAtMs expectedArrivalAtMs
      decisionStatus rejectionReason).engine = pass.engine := by
  rw [persistSpreadSignals_eq]

@[simp]
theorem logEvents_persistSpreadSignals :
    (pass.persistSpreadSignals request signals signalIds orderSubmittedAtMs expectedArrivalAtMs
      decisionStatus rejectionReason).logEvents = pass.logEvents := by
  rw [persistSpreadSignals_eq]

/-- A submission queues the orders it reports, which belong together, and logs nothing itself. -/
structure QueuesReported (pass : DecisionPass σ) (result : SubmissionOutcome × DecisionPass σ) :
    Prop where
  group : OrderGroup result.1.orders
  tally : result.2.engine.tally = pass.engine.tally.push result.1.orders
  logEvents : result.2.logEvents = pass.logEvents

variable {request pass}

theorem QueuesReported.rejectSingle {pass' : DecisionPass σ}
    (htally : pass'.engine.tally = pass.engine.tally) (hlog : pass'.logEvents = pass.logEvents)
    (signalId : ℤ) (reason : String) :
    QueuesReported pass (pass'.rejectSingle request signalId reason) where
  group := .nil
  tally := htally.trans (OrderTally.push_nil _).symm
  logEvents := hlog

theorem QueuesReported.rejectSpread {pass' : DecisionPass σ}
    (htally : pass'.engine.tally = pass.engine.tally) (hlog : pass'.logEvents = pass.logEvents)
    (signals : List Signal) (signalIds : List ℤ) (reason : String) :
    QueuesReported pass (pass'.rejectSpread request signals signalIds reason) where
  group := .nil
  tally := by
    unfold DecisionPass.rejectSpread
    rw [engine_persistSpreadSignals]
    exact htally.trans (OrderTally.push_nil _).symm
  logEvents := by
    unfold DecisionPass.rejectSpread
    rw [logEvents_persistSpreadSignals]
    exact hlog

variable (request pass)

theorem submitSingle_reported (signalId : ℤ) (family : StrategyFamily) :
    QueuesReported pass (pass.submitSingle request signal signalId family) := by
  unfold submitSingle
  cases pass.engine.canQueueSingle signal request.window false 1 request.nowMs with
  | some reason => refine .rejectSingle ?_ ?_ _ _ <;> rfl
  | none =>
    dsimp only
    split
    · refine .rejectSingle ?_ ?_ _ _ <;> rfl
    split
    · refine .rejectSingle ?_ ?_ _ _ <;> rfl
    · refine ⟨.single _ rfl, ?_, rfl⟩
      simp only [engine_pushDecisionEvent, tally_pushPendingOrder, tally_recordSubmittedOrder]
      rfl

theorem submitSpread_reported :
    QueuesReported pass (pass.submitSpread request signals signalIds) := by
  unfold submitSpread
  cases hpair : spreadSignalPair signals signalIds with
  | none => exact ⟨.nil, (OrderTally.push_nil _).symm, rfl⟩
  | some legs =>
    rcases legs with ⟨upSignal, downSignal, upSignalId, downSignalId⟩
    obtain ⟨⟨hup, -⟩, ⟨hdown, -⟩, -⟩ := spreadSignalPair_spec hpair
    cases pass.engine.canQueueSpread signals request.window request.nowMs with
    | some reason => refine .rejectSpread ?_ ?_ _ _ _ <;> rfl
    | none =>
      dsimp only
      split
      · refine .rejectSpread ?_ ?_ _ _ _ <;> rfl
      split
      · refine .rejectSpread ?_ ?_ _ _ _ <;> rfl
      split
      · refine .rejectSpread ?_ ?_ _ _ _ <;> rfl
      · refine ⟨.spread _ _ _ rfl rfl rfl rfl ⟨hup, hdown⟩, ?_, ?_⟩
        · rw [engine_persistSpreadSignals]
          simp only [tally_pushPendingOrder, tally_recordSubmittedOrder, OrderTally.push_push]
          rfl
        · rw [logEvents_persistSpreadSignals]

/-- What a candidate logs and queues. -/
def Reports (pass pass' : DecisionPass σ) : Prop :=
  (pass'.logEvents = pass.logEvents ∧ pass'.engine.tally = pass.engine.tally) ∨
    ∃ event, pass'.logEvents = pass.logEvents ++ [event] ∧ OrderGroup event.orders ∧
      pass'.engine.tally = pass.engine.tally.push event.orders

variable {pass} in
theorem QueuesReported.reports {result : SubmissionOutcome × DecisionPass σ}
    {engine : RuntimeDecisionEngine σ} (h : QueuesReported { pass with engine := engine } result)
    (htally : engine.tally = pass.engine.tally) {event : RuntimeDecisionLogEvent}
    (hevent : event.orders = result.1.orders) :
    Reports pass ((result.2.forwardLiveOrders result.1).log event) := by
  refine .inr ⟨event, ?_, hevent ▸ h.group, ?_⟩
  · unfold forwardLiveOrders log
    split
    · exact congrArg (· ++ [event]) h.logEvents
    · exact congrArg (· ++ [event]) h.logEvents
  · have hqueued := h.tally
    unfold forwardLiveOrders log
    rw [hevent, ← htally]
    split
    · exact hqueued
    · exact hqueued

theorem handleSingleCandidate_reports (family : StrategyFamily) (regime : PortfolioRegime) :
    Reports pass (pass.handleSingleCandidate request signal family regime) := by
  unfold handleSingleCandidate
  dsimp only [allocateSignalId]
  split
  · exact .inr ⟨_, rfl, .nil, (OrderTally.push_nil _).symm⟩
  split
  · exact .inl ⟨rfl, rfl⟩
  · have hsubmitted := submitSingle_reported request
      { pass with engine := pass.engine.advance 1 } signal pass.engine.nextSignalId family
    exact hsubmitted.reports rfl rfl

theorem handleBatchCandidate_reports (regime : PortfolioRegime) :
    Reports pass (pass.handleBatchCandidate request signals regime) := by
  unfold handleBatchCandidate
  dsimp only
  split
  · exact .inl ⟨rfl, rfl⟩
  · rw [allocateSignalIds_eq]
    have hsubmitted := submitSpread_reported request
      { pass with engine := pass.engine.advance signals.length } signals
      (pass.engine.books.signalIds signals.length)
    exact hsubmitted.reports rfl rfl

theorem handleCandidate_reports (candidate : EvaluatedRuntimeCandidate)
    (selectedFamily : Option StrategyFamily) (regime : PortfolioRegime) :
    Reports pass (pass.handleCandidate request selectedFamily regime candidate) := by
  unfold handleCandidate
  split
  · exact .inl ⟨rfl, rfl⟩
  split
  · exact handleSingleCandidate_reports request pass _ _ regime
  · exact handleBatchCandidate_reports request pass _ regime
  · exact .inl ⟨rfl, rfl⟩
  · exact .inl ⟨rfl, rfl⟩

end DecisionPass

/-- The positions of the pending orders are apart, and groups are spread capture's. -/
structure PendingApart (orders : List RuntimePendingOrder) : Prop where
  apart : (orders.map (·.position)).Pairwise Position.Apart
  groups : GroupsCaptureSpreads orders

namespace PendingApart

variable {orders orders' : List RuntimePendingOrder}

theorem sublist (h : PendingApart orders) (hless : orders'.Sublist orders) :
    PendingApart orders' where
  apart := h.apart.sublist (hless.map _)
  groups order horder := h.groups order (hless.subset horder)

theorem queue {request : RuntimeDecisionRequest} {config : Config} {books books' : Books}
    (h : PendingApart books.pendingOrders) (hqueue : QueuesCandidate request config books books') :
    PendingApart books'.pendingOrders := by
  obtain ⟨orders, hqueue, hgroups⟩ := hqueue
  rw [hqueue.pendingOrders]
  constructor
  · rw [map_append]
    refine pairwise_append.mpr ⟨h.apart, hqueue.apart, ?_⟩
    exact fun taken htaken => hqueue.free taken (mem_append_right _ htaken)
  · intro order horder
    rcases mem_append.mp horder with hold | hnew
    · exact h.groups order hold
    · exact hgroups order hnew

end PendingApart

theorem strategy_of_familyForStrategy {strategy : String}
    (h : familyForStrategy strategy = .spreadCapture) : strategy = "spread-capture" := by
  unfold familyForStrategy StrategyFamily.fromStrategyName at h
  split at h
  · cases h
  split at h
  · assumption
  split at h
  · cases h
  · cases h

/-- Of the spreads that are pending at most one belongs to the market of a request, so that no two
spreads that its loop takes note of have one id. -/
theorem nodup_trackedGroupIds {σ : Type} {engine : RuntimeDecisionEngine σ}
    {request : RuntimeDecisionRequest} {docket : OrderDocket}
    (hpending : docket.pending = engine.pendingOrders.map queuedOrderIntent)
    (hgroups : ∀ group ∈ docket, DocketGroup group) (hapart : PendingApart engine.pendingOrders) :
    ((docket.map pendingPart).filterMap (trackedGroupId (engine.verdict request))).Nodup := by
  have hpairs : (docket.map pendingPart).flatten.Pairwise fun first second =>
      first.position.Apart second.position := by
    change (docket.map (List.filterMap (·.pending?))).flatten.Pairwise _
    rw [← Docket.pending_eq_flatten, hpending, pairwise_map]
    exact pairwise_map.mp hapart.apart
  have hspread : ∀ order ∈ (docket.map pendingPart).flatten, order.executionGroupId ≠ none →
      order.strategy = "spread-capture" := by
    change ∀ order ∈ (docket.map (List.filterMap (·.pending?))).flatten, _
    rw [← Docket.pending_eq_flatten, hpending, forall_mem_map]
    exact fun order horder hgroup =>
      strategy_of_familyForStrategy (hapart.groups order horder hgroup)
  refine pairwise_filterMap.mpr ((pairwise_flatten.mp hpairs).2.imp_of_mem ?_)
  intro first second hfirst hsecond hcross groupId hid groupId' hid' _
  have hleg : ∀ orders ∈ docket.map pendingPart, ∀ id,
      trackedGroupId (engine.verdict request) orders = some id →
      ∃ leg ∈ orders, leg.side = .up ∧ leg.strategy = "spread-capture" ∧
        leg.marketId = request.window.marketId := by
    intro orders horders id hid
    obtain ⟨group, hgroup, hpart⟩ := mem_map.mp horders
    have hform : OrderGroup orders := hpart ▸ (hgroups group hgroup).pendingPart
    cases hform with
    | nil => cases hid
    | single order => cases hid
    | spread up down id' hup hdown hmarket harrival hsides =>
      simp only [trackedGroupId] at hid
      split at hid
      · rename_i htracked
        refine ⟨up, mem_cons_self, hsides.1, ?_, market_of_tracked htracked⟩
        refine hspread up (mem_flatten.mpr ⟨_, horders, mem_cons_self⟩) ?_
        rw [hup]
        exact Option.some_ne_none _
      · cases hid
  obtain ⟨leg, hmem, hside, hstrategy, hmarket⟩ := hleg first hfirst groupId hid
  obtain ⟨leg', hmem', hside', hstrategy', hmarket'⟩ := hleg second hsecond groupId' hid'
  have hboth := hcross leg hmem leg' hmem' (hmarket.trans hmarket'.symm)
    (hstrategy.trans hstrategy'.symm)
  exact hboth.2 (hside.trans hside'.symm)

/-! ## Runs -/

/-- The orders of a run with their ends, and the ends that were reported. -/
structure OrderHistory where
  docket : OrderDocket
  ended : List (ℤ × OrderOutcomeDisposition)

/-- Nothing has happened yet. -/
def OrderHistory.none : OrderHistory where
  docket := []
  ended := []

/-- Every order is filled, missed or pending, as the counters say; each one has at most one end, the
one that was reported; and the legging failures are the spreads with exactly one filled leg. -/
structure OrdersConserved (history : OrderHistory) (tally : OrderTally) : Prop where
  conserved : history.docket.entries.length =
    tally.filledOrders + tally.noFills + tally.pending.length
  pending : history.docket.pending = tally.pending
  filled : tally.filledOrders = history.docket.ended.countP fun entry => entry.2 == .filled
  missed : tally.noFills = history.docket.ended.countP fun entry => entry.2 == .missed
  reported : history.ended.Perm (history.docket.ended.map fun entry => (entry.1.signalId, entry.2))
  legging : tally.spreadLeggingFailures = history.docket.countP oneLegFilled

theorem Tallied.ordersConserved {history : OrderHistory} {tally : OrderTally}
    (h : Tallied history.docket history.ended tally) : OrdersConserved history tally where
  conserved := h.conserved
  pending := h.pending
  filled := h.filled
  missed := h.missed
  reported := h.outcomes
  legging := h.legging

def OrderHistory.submitted (history : OrderHistory) (orders : List QueuedOrderIntent) :
    OrderHistory :=
  { history with docket := history.docket.add orders }

/-- A loop over the due orders puts them to a verdict and reports ends. -/
def OrderHistory.processed (history : OrderHistory)
    (verdict : QueuedOrderIntent → OrderVerdict) (outcomes : List ProcessedOrderOutcome) :
    OrderHistory where
  docket := history.docket.decide fun order => (verdict order).disposition
  ended := history.ended ++ outcomes.map (·.ended)

section Runs

variable {σ : Type} [Strategy σ]

/-- The orders of a simulated run after a message: an evaluation decides what is due and then logs
its submissions. -/
def recordOrders (history : OrderHistory) (engine : RuntimeDecisionEngine σ) :
    EngineMessage → OrderHistory
  | .evaluate request =>
    let output := (engine.evaluate request).1
    output.logEvents.foldl (fun history event => history.submitted event.orders)
      (history.processed (engine.verdict request) output.processedOutcomes)
  | _ => history

def engineOrderSystem : System (RuntimeDecisionEngine σ) EngineMessage OrderHistory :=
  system recordOrders

/-- What every message of a simulated run keeps. -/
structure EngineOrders (config : Config) (history : OrderHistory)
    (engine : RuntimeDecisionEngine σ) : Prop where
  config : engine.config = config
  tallied : Tallied history.docket history.ended engine.tally
  apart : PendingApart engine.pendingOrders

variable {config : Config} {history : OrderHistory} {engine : RuntimeDecisionEngine σ}

theorem EngineOrders.evaluate [LawfulStrategy σ] (hmode : config.executionMode ≠ .liveTrading)
    (h : EngineOrders config history engine) (request : RuntimeDecisionRequest) :
    EngineOrders config (recordOrders history engine (.evaluate request))
      (engine.evaluate request).2 := by
  obtain ⟨rfl, htallied, hapart⟩ := h
  obtain ⟨hconfig, hrun⟩ := engine.processDueOrders_run request
  obtain ⟨htally, houtcomes⟩ := engine.tally_processDueOrders request
  have hdecided : Tallied
      (history.processed (engine.verdict request) (engine.processDueOrders request).1).docket
      (history.processed (engine.verdict request) (engine.processDueOrders request).1).ended
      (engine.processDueOrders request).2.2.tally := by
    unfold OrderHistory.processed
    rw [htally, houtcomes]
    exact htallied.decide (fun _ _ hmarket harrival => alike_orderVerdict hmarket harrival)
      (nodup_trackedGroupIds htallied.pending htallied.groups hapart)
  unfold recordOrders
  dsimp only
  rw [engine.processedOutcomes_evaluate request hmode]
  generalize history.processed (engine.verdict request) (engine.processDueOrders request).1 =
    decided at hdecided ⊢
  let after (events : List RuntimeDecisionLogEvent) : OrderHistory :=
    events.foldl (fun history event => history.submitted event.orders) decided
  have hkept : EngineOrders engine.config (after (engine.evaluate request).1.logEvents)
      (engine.evaluate request).2 := by
    refine engine.evaluate_keeps (fun events engine' => EngineOrders engine.config (after events)
      engine') strategiesLabelled_familyLabel (fun hlive => absurd hlive hmode) ?_ ?_ ?_
    · exact fun _ => ⟨hconfig, hdecided, hapart.sublist hrun.pendingOrders_sublist⟩
    · exact fun engine' _ _ h => ⟨h.config, h.tallied, h.apart⟩
    · intro pass candidate selectedFamily regime hlabelled hpass
      obtain ⟨_, _, _, _, _, hsame⟩ :=
        DecisionPass.handleCandidate_step request hlabelled pass selectedFamily regime
      refine ⟨hsame.trans hpass.config, ?_, ?_⟩
      · rcases pass.handleCandidate_reports request candidate selectedFamily regime with
          ⟨hlog, htally⟩ | ⟨event, hlog, hgroup, htally⟩
        · rw [hlog, htally]
          exact hpass.tallied
        · have hafter : after (pass.logEvents ++ [event]) =
              (after pass.logEvents).submitted event.orders := by
            simp [after]
          rw [hlog, htally, hafter]
          exact hpass.tallied.add hgroup
      · exact PendingApart.queue hpass.apart
          (pass.handleCandidate_queues request hlabelled selectedFamily regime)
  exact hkept

omit [Strategy σ] in
theorem RuntimeDecisionEngine.authoritativeResolution_frame (engine : RuntimeDecisionEngine σ)
    (window : MarketWindow) (outcome : SignalDirection) (nowMs : ℕ) :
    (engine.authoritativeResolution window outcome nowMs).2.config = engine.config ∧
      (engine.authoritativeResolution window outcome nowMs).2.pendingOrders =
        engine.pendingOrders ∧
      (engine.authoritativeResolution window outcome nowMs).2.stats = engine.stats := by
  refine List.foldlRecOn
    (motive := fun pass : DecisionPass σ =>
      pass.engine.config = engine.config ∧ pass.engine.pendingOrders = engine.pendingOrders ∧
        pass.engine.stats = engine.stats)
    (engine.exposure.removeMarket window.marketId).1 _ ⟨rfl, rfl, rfl⟩ ?_
  intro pass hpass trade _
  unfold settleTrade
  split
  · exact hpass
  · exact hpass

/-- The venue answers nothing, as it was handed nothing. -/
def Unanswered : EngineMessage → Prop
  | .liveFeedback .. => False
  | _ => True

instance (message : EngineMessage) : Decidable (Unanswered message) :=
  match message with
  | .liveFeedback .. => isFalse not_false
  | .evaluate _ | .windowClosed .. | .authoritativeResolution .. | .releaseReservations _
  | .flushAll _ => isTrue trivial

/-- A message that is no answer of the venue keeps the orders of a simulated run. -/
theorem EngineOrders.receive [LawfulStrategy σ] (hmode : config.executionMode ≠ .liveTrading)
    (h : EngineOrders config history engine) {message : EngineMessage}
    (hunanswered : Unanswered message) :
    EngineOrders config (recordOrders history engine message) (engine.receive message) := by
  cases message with
  | evaluate request => exact h.evaluate hmode request
  | liveFeedback => exact absurd hunanswered not_false
  | releaseReservations releases =>
    refine List.foldlRecOn
      (motive := fun engine' : RuntimeDecisionEngine σ => EngineOrders config history engine')
      releases _ h ?_
    exact fun engine' h release _ => ⟨h.config, h.tallied, h.apart⟩
  | flushAll nowMs => exact ⟨h.config, h.tallied, h.apart⟩
  | windowClosed window nowMs => exact ⟨h.config, h.tallied, h.apart⟩
  | authoritativeResolution window outcome nowMs =>
    obtain ⟨hconfig, hpending, hstats⟩ :=
      engine.authoritativeResolution_frame window outcome nowMs
    refine ⟨hconfig.trans h.config, ?_, ?_⟩
    · have hsame : (engine.authoritativeResolution window outcome nowMs).2.tally =
          engine.tally := by
        simp only [tally, hpending, hstats]
      exact hsame ▸ h.tallied
    · exact hpending ▸ h.apart

/-- The orders of every simulated run of the engine are conserved. -/
theorem EngineOrders.run [LawfulStrategy σ] (hmode : config.executionMode ≠ .liveTrading)
    {strategies : List σ} {seed : RuntimeDecisionSeed}
    (hrun : engineOrderSystem.Run (fun _ _ message _ => Unanswered message)
      (.none, .new config strategies seed) history engine) :
    OrdersConserved history engine.tally := by
  have hkept : EngineOrders config history engine := by
    refine hrun.invariant (EngineOrders config) ⟨rfl, .nil, ⟨.nil, ?_⟩⟩ ?_
    · intro order horder
      cases horder
    · intro history before message after hbefore hstep hunanswered
      cases hstep
      exact hbefore.receive hmode hunanswered
  exact hkept.tallied.ordersConserved

end Runs

end BubaPaint
