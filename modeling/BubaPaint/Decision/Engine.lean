import BubaPaint.Decision.Orders

/-!
# The decision engine

The engine evaluates the strategies, sizes and queues their orders, fills due orders from the book
in the simulated modes, takes over the fills of the venue in live mode, and settles the trades of
resolved markets. It reads and writes no storage: what must be kept leaves as persistence events.
-/

namespace BubaPaint

/-- A strategy's answer together with the family it is routed by. -/
structure EvaluatedRuntimeCandidate where
  family : StrategyFamily
  result : StrategyResult

/-- In-memory decision engine used by paper, readonly, and disarmed live runtime. -/
structure RuntimeDecisionEngine (σ : Type) where
  config : Config
  strategies : List σ
  pendingOrders : List RuntimePendingOrder
  exposure : InMemoryExposureState
  bankroll : BankrollManager
  circuitBreaker : CircuitBreaker
  trendTracker : ScopedTrendTracker
  rejectionTracker : StrategyRejectionTracker
  stats : ExecutionStats
  nextSignalId : ℤ
  nextTradeId : ℤ
  nextGroupId : ℕ

/-- An engine in the middle of a pass, with what the pass has emitted. -/
structure DecisionPass (σ : Type) where
  engine : RuntimeDecisionEngine σ
  persistenceEvents : List LivePersistenceEvent
  liveOrders : List QueuedOrderIntent
  logEvents : List RuntimeDecisionLogEvent

/-- A due order as the engine leaves it. -/
inductive RuntimeOrderDisposition where
  | deferred (order : RuntimePendingOrder)
  | missed (groupId : Option String) (outcome : ProcessedOrderOutcome)
      (event : LivePersistenceEvent)
  | filled (trade : SimulatedTrade) (groupId : Option String) (outcome : ProcessedOrderOutcome)
      (signalEvent tradeEvent : LivePersistenceEvent)

/-- Why a due order missed, with what was seen of the book. -/
structure RuntimeMissContext where
  trackGroup : Bool
  reason : String
  bestAsk : Option ℚ
  askSize : Option ℚ
  freshnessMs : Option ℕ

namespace RuntimeDecisionEngine

variable {σ : Type}

/-- Build a pure runtime decision engine from preloaded startup state. -/
def new (config : Config) (strategies : List σ) (seed : RuntimeDecisionSeed) :
    RuntimeDecisionEngine σ where
  config := config
  strategies := strategies
  pendingOrders := []
  exposure := .fromSnapshots seed.openTrades seed.nowMs
  bankroll :=
    (BankrollManager.newInMemory seed.startingBalance seed.currentBalance
      config).hydrateUnresolvedExposureRows seed.unresolvedExposures seed.nowMs
  circuitBreaker := .new (config.circuitBreakerLosses % 2 ^ 32) config.circuitBreakerPauseMs
  trendTracker := .new config.trendFilterWindow config.trendFilterEnabled
    config.trendFilterThreshold config.trendFilterPerStrategy
  rejectionTracker := .new
  stats := .empty
  nextSignalId := -1
  nextTradeId := -1
  nextGroupId := 1

def output (persistenceEvents : List LivePersistenceEvent) (liveOrders : List QueuedOrderIntent)
    (processedOutcomes : List ProcessedOrderOutcome) (logEvents : List RuntimeDecisionLogEvent)
    (submissionWindow : Option MarketWindow) (nowMs decisionSequence : ℕ) :
    RuntimeDecisionOutput where
  decisionSequence := decisionSequence
  decisionInputAtMs := nowMs
  persistenceEvents := persistenceEvents
  liveOrders := liveOrders
  processedOutcomes := processedOutcomes
  logEvents := logEvents
  submissionWindow := submissionWindow
  nowMs := nowMs

def allocateSignalId (engine : RuntimeDecisionEngine σ) : ℤ × RuntimeDecisionEngine σ :=
  (engine.nextSignalId, { engine with nextSignalId := nextNegativeId engine.nextSignalId })

def allocateSignalIds (engine : RuntimeDecisionEngine σ) : ℕ → List ℤ × RuntimeDecisionEngine σ
  | 0 => ([], engine)
  | count + 1 =>
    let (signalId, engine) := engine.allocateSignalId
    let (signalIds, engine) := engine.allocateSignalIds count
    (signalId :: signalIds, engine)

def allocateTradeId (engine : RuntimeDecisionEngine σ) : ℤ × RuntimeDecisionEngine σ :=
  (engine.nextTradeId, { engine with nextTradeId := nextNegativeId engine.nextTradeId })

def recordRejection (engine : RuntimeDecisionEngine σ) (marketId strategy : String)
    (reason : StrategyRejectionReason) : RuntimeDecisionEngine σ :=
  { engine with
    rejectionTracker :=
      engine.rejectionTracker.record marketId { strategy := strategy, reason := reason } }

def releaseReserved (engine : RuntimeDecisionEngine σ) (amount : ℚ) (strategy : String) :
    RuntimeDecisionEngine σ :=
  { engine with bankroll := engine.bankroll.releaseReservedForStrategy amount strategy }

def recordSubmittedOrder (engine : RuntimeDecisionEngine σ) (order : RuntimePendingOrder) :
    RuntimeDecisionEngine σ :=
  { engine with
    stats :=
      { engine.stats with
        submittedOrders := engine.stats.submittedOrders + 1
        totalRequestedSize := engine.stats.totalRequestedSize + order.requestedSize } }

def pushPendingOrder (engine : RuntimeDecisionEngine σ) (order : RuntimePendingOrder) :
    RuntimeDecisionEngine σ :=
  { engine with pendingOrders := engine.pendingOrders ++ [order] }

def removePendingOrder (engine : RuntimeDecisionEngine σ) (signalId : ℤ) :
    Option RuntimePendingOrder × RuntimeDecisionEngine σ :=
  match engine.pendingOrders.findIdx? fun order => order.signalId == signalId with
  | none => (none, engine)
  | some position =>
    (engine.pendingOrders[position]?,
      { engine with pendingOrders := engine.pendingOrders.eraseIdx position })

/-- Record aggregate fill counters. -/
def recordFill (engine : RuntimeDecisionEngine σ) (order : RuntimePendingOrder)
    (fillPrice filledSize : ℚ) (nowMs : ℕ) : RuntimeDecisionEngine σ :=
  { engine with
    stats :=
      { engine.stats with
        partialFills :=
          if filledSize < order.requestedSize then engine.stats.partialFills + 1
          else engine.stats.partialFills
        filledOrders := engine.stats.filledOrders + 1
        totalFilledSize := engine.stats.totalFilledSize + filledSize
        totalSlippage :=
          engine.stats.totalSlippage + max (fillPrice - order.requestedPrice) 0 * filledSize
        totalFillLatencyMs :=
          engine.stats.totalFillLatencyMs + (nowMs - order.signalTimestamp) } }

/-- Give back what an order has reserved beyond the cost of its fill. -/
def releaseUnspent (engine : RuntimeDecisionEngine σ) (order : RuntimePendingOrder)
    (fillCost : ℚ) : RuntimeDecisionEngine σ :=
  if order.reservedCost > fillCost then
    engine.releaseReserved (order.reservedCost - fillCost) order.strategy
  else
    engine

def duplicatePending (engine : RuntimeDecisionEngine σ) (marketId : String) (signal : Signal)
    (isBatch : Bool) : Bool :=
  engine.pendingOrders.any fun order =>
    order.marketId == marketId && order.strategy == signal.strategy &&
      (!isBatch || order.side == signal.direction)

/-- Return any single-order queue rejection from in-memory state. -/
def canQueueSingle (engine : RuntimeDecisionEngine σ) (signal : Signal) (window : MarketWindow)
    (isBatch : Bool) (requiredSlots nowMs : ℕ) : Option QueueRejectionReason :=
  let openCount := engine.exposure.queueRelevantCount engine.config nowMs
  let pendingCount := engine.pendingOrders.length
  if openCount + pendingCount + requiredSlots > engine.config.maxOpenPositions then
    some .maxOpenPositions
  else if engine.exposure.duplicateOpen window.marketId signal.strategy signal.direction
      isBatch then
    some .duplicateOpenPosition
  else if engine.duplicatePending window.marketId signal isBatch then
    some .duplicatePendingOrder
  else
    none

/-- Return any spread queue rejection from in-memory state. -/
def canQueueSpread (engine : RuntimeDecisionEngine σ) (signals : List Signal)
    (window : MarketWindow) (nowMs : ℕ) : Option QueueRejectionReason :=
  let openCount := engine.exposure.queueRelevantCount engine.config nowMs
  let pendingCount := engine.pendingOrders.length
  if openCount + pendingCount + 2 > engine.config.maxOpenPositions then
    some .maxOpenPositions
  else if signals.any fun signal =>
      engine.exposure.duplicateOpen window.marketId signal.strategy signal.direction true then
    some .duplicateOpenPosition
  else if signals.any fun signal => engine.duplicatePending window.marketId signal true then
    some .duplicatePendingOrder
  else
    none

/-- Build the current non-mutating affordability assessment for one spread batch. -/
def assessSpreadBatchAffordability (engine : RuntimeDecisionEngine σ) (signals : List Signal)
    (window : MarketWindow) : Option SpreadAffordabilityCheck :=
  (spreadLegs signals).map fun (upSignal, downSignal) =>
    engine.bankroll.assessSpreadAffordability upSignal.upAsk downSignal.downAsk
      (window.orderMinSize.getD 0) engine.config

end RuntimeDecisionEngine

/-! ## Submitting -/

namespace DecisionPass

variable {σ : Type}

def start (engine : RuntimeDecisionEngine σ) : DecisionPass σ where
  engine := engine
  persistenceEvents := []
  liveOrders := []
  logEvents := []

def emit (pass : DecisionPass σ) (event : LivePersistenceEvent) : DecisionPass σ :=
  { pass with persistenceEvents := pass.persistenceEvents ++ [event] }

def log (pass : DecisionPass σ) (event : RuntimeDecisionLogEvent) : DecisionPass σ :=
  { pass with logEvents := pass.logEvents ++ [event] }

def pushDecisionEvent (pass : DecisionPass σ) (request : RuntimeDecisionRequest) (signalId : ℤ)
    (orderSubmittedAtMs expectedArrivalAtMs : Option ℕ) (decisionStatus : String)
    (rejectionReason : Option String) : DecisionPass σ :=
  pass.emit (decisionSignalEvent request orderSubmittedAtMs expectedArrivalAtMs decisionStatus
    rejectionReason signalId)

/-- Persist spread signal evidence through the writer event stream. -/
def persistSpreadSignals (pass : DecisionPass σ) (request : RuntimeDecisionRequest)
    (signals : List Signal) (signalIds : List ℤ)
    (orderSubmittedAtMs expectedArrivalAtMs : Option ℕ) (decisionStatus : String)
    (rejectionReason : Option String) : DecisionPass σ :=
  (signals.zip signalIds).foldl
    (fun pass signal => pass.pushDecisionEvent request signal.2 orderSubmittedAtMs
      expectedArrivalAtMs decisionStatus rejectionReason)
    pass

def rejectSingle (pass : DecisionPass σ) (request : RuntimeDecisionRequest) (signalId : ℤ)
    (reason : String) : SubmissionOutcome × DecisionPass σ :=
  (.rejected [signalId] reason,
    pass.pushDecisionEvent request signalId none none "rejected" (some reason))

def rejectSpread (pass : DecisionPass σ) (request : RuntimeDecisionRequest)
    (signals : List Signal) (signalIds : List ℤ) (reason : String) :
    SubmissionOutcome × DecisionPass σ :=
  (.rejected signalIds reason,
    pass.persistSpreadSignals request signals signalIds none none "rejected" (some reason))

/-- Submit one single-side candidate into in-memory queues. -/
def submitSingle (pass : DecisionPass σ) (request : RuntimeDecisionRequest) (signal : Signal)
    (signalId : ℤ) (family : StrategyFamily) : SubmissionOutcome × DecisionPass σ :=
  let config := pass.engine.config
  match pass.engine.canQueueSingle signal request.window false 1 request.nowMs with
  | some reason => pass.rejectSingle request signalId reason.asStr
  | none =>
    let requestedPrice := signalEntryAsk signal
    let limitPrice := singleOrderLimitPrice signal config
    let (requestedSize, bankroll) := pass.engine.bankroll.reserveCapitalWithReservePrice
      requestedPrice limitPrice signal.confidence signal.strategy family config request.nowMs
    let engine := { pass.engine with bankroll := bankroll }
    if requestedSize ≤ 0 then
      { pass with engine := engine }.rejectSingle request signalId "strategy_sleeve_exhausted"
    else
      match submissionSizeRejectionReason requestedSize requestedPrice
          (request.window.orderMinSize.getD 0) config.minBetUsd with
      | some reason =>
        { pass with
          engine := engine.releaseReserved (requestedSize * limitPrice)
            signal.strategy }.rejectSingle request signalId reason
      | none =>
        let arrivalTs := saturatingAdd signal.timestamp config.simOrderLatencyMs
        let order : RuntimePendingOrder :=
          { signalId := signalId
            signalTimestamp := signal.timestamp
            marketId := request.window.marketId
            marketEndTime := request.window.endTime
            strategy := signal.strategy
            side := signal.direction
            tokenId := tokenIdForSignal signal request.window
            arrivalTs := arrivalTs
            requestedPrice := requestedPrice
            limitPrice := limitPrice
            requestedSize := requestedSize
            reservedCost := requestedSize * limitPrice
            executionGroupId := none }
        let engine := (engine.recordSubmittedOrder order).pushPendingOrder order
        (.queued [signalId] [queuedOrderIntent order],
          { pass with engine := engine }.pushDecisionEvent request signalId (some request.nowMs)
            (some arrivalTs) "submitted" none)

/-- Submit one spread candidate into in-memory queues. -/
def submitSpread (pass : DecisionPass σ) (request : RuntimeDecisionRequest)
    (signals : List Signal) (signalIds : List ℤ) : SubmissionOutcome × DecisionPass σ :=
  let config := pass.engine.config
  match spreadSignalPair signals signalIds with
  | none => (.queued signalIds [], pass)
  | some (upSignal, downSignal, upSignalId, downSignalId) =>
    match pass.engine.canQueueSpread signals request.window request.nowMs with
    | some reason => pass.rejectSpread request signals signalIds reason.asStr
    | none =>
      let feeParams := resolveFeeParams config (some request.window) request.window.endTime
      if spreadNetEdge upSignal.upAsk downSignal.downAsk 1 feeParams.feeRate
          feeParams.exponent ≤ 0 then
        pass.rejectSpread request signals signalIds "net_edge"
      else
        let ((upTokens, downTokens), bankroll) := pass.engine.bankroll.reserveSpreadCapital
          upSignal.upAsk downSignal.downAsk config request.nowMs
        let engine := { pass.engine with bankroll := bankroll }
        if upTokens ≤ 0 ∨ downTokens ≤ 0 then
          { pass with engine := engine }.rejectSpread request signals signalIds
            "strategy_sleeve_exhausted"
        else
          match spreadSubmissionRejectionReason upTokens downTokens upSignal.upAsk
              downSignal.downAsk (request.window.orderMinSize.getD 0) config.minBetUsd with
          | some reason =>
            let reserved := upTokens * upSignal.upAsk + downTokens * downSignal.downAsk
            { pass with
              engine := engine.releaseReserved reserved upSignal.strategy }.rejectSpread request
                signals signalIds reason
          | none =>
            let arrivalTs := spreadArrivalTs signals config request.nowMs
            let groupId := s!"spread-{engine.nextGroupId}"
            let engine := { engine with nextGroupId := saturatingAdd engine.nextGroupId 1 }
            let upOrder := buildSpreadOrder upSignal upSignalId request.window arrivalTs upTokens
              (some groupId)
            let downOrder := buildSpreadOrder downSignal downSignalId request.window arrivalTs
              downTokens (some groupId)
            let engine := (engine.recordSubmittedOrder upOrder).recordSubmittedOrder downOrder
            let engine := (engine.pushPendingOrder upOrder).pushPendingOrder downOrder
            (.queued signalIds [queuedOrderIntent upOrder, queuedOrderIntent downOrder],
              { pass with engine := engine }.persistSpreadSignals request signals signalIds
                (some request.nowMs) (some arrivalTs) "submitted" none)

/-- Hand the orders of a submission over to the venue in live mode. -/
def forwardLiveOrders (pass : DecisionPass σ) (outcome : SubmissionOutcome) : DecisionPass σ :=
  if pass.engine.config.executionMode = .liveTrading then
    { pass with liveOrders := pass.liveOrders ++ outcome.orders }
  else
    pass

/-- Handle one single-side strategy candidate. -/
def handleSingleCandidate (pass : DecisionPass σ) (request : RuntimeDecisionRequest)
    (signal : Signal) (family : StrategyFamily) (regime : PortfolioRegime) : DecisionPass σ :=
  let (signalId, engine) := pass.engine.allocateSignalId
  let pass := { pass with engine := engine }
  let duplicate :=
    if family = .calmPersistence then
      (engine.canQueueSingle signal request.window false 1 request.nowMs).bind fun reason =>
        (calmDuplicateRejectionReason reason).map fun rejectionReason => (reason, rejectionReason)
    else
      none
  if engine.trendTracker.shouldSuppress family signal.direction then
    (pass.pushDecisionEvent request signalId none none "suppressed" (some "trend_filter")).log
      (.suppressed signal.strategy signal.direction regime)
  else
    match duplicate with
    | some (reason, rejectionReason) =>
      { pass with
        engine := engine.recordRejection request.window.marketId signal.strategy
          rejectionReason }.pushDecisionEvent request signalId none none "rejected"
            (some reason.asStr)
    | none =>
      let (submission, pass) := pass.submitSingle request signal signalId family
      let (strategy, direction) := submissionLabel submission
      (pass.forwardLiveOrders submission).log
        (.singleSubmitted strategy direction regime submission)

/-- Handle one spread batch candidate. -/
def handleBatchCandidate (pass : DecisionPass σ) (request : RuntimeDecisionRequest)
    (signals : List Signal) (regime : PortfolioRegime) : DecisionPass σ :=
  let strategyName := (signals.head?.map fun signal => signal.strategy).getD "?"
  let unaffordable := (pass.engine.assessSpreadBatchAffordability signals request.window).any
    fun affordability => !affordability.queueable
  if unaffordable then
    { pass with
      engine := pass.engine.recordRejection request.window.marketId strategyName
        .spreadBudgetTooSmall }
  else
    let (signalIds, engine) := pass.engine.allocateSignalIds signals.length
    let (submission, pass) := { pass with engine := engine }.submitSpread request signals signalIds
    (pass.forwardLiveOrders submission).log
      (.batchSubmitted strategyName signals.length regime submission)

/-- Handle one candidate, unless the router blocks its family. -/
def handleCandidate (pass : DecisionPass σ) (request : RuntimeDecisionRequest)
    (selectedFamily : Option StrategyFamily) (regime : PortfolioRegime)
    (candidate : EvaluatedRuntimeCandidate) : DecisionPass σ :=
  if pass.engine.config.regimeDetectionEnabled ∧ some candidate.family ≠ selectedFamily then
    { pass with
      engine := pass.engine.recordRejection request.window.marketId candidate.family.asStr
        .blockedByRouter }
  else
    match candidate.result with
    | .single signal => pass.handleSingleCandidate request signal candidate.family regime
    | .batch signals => pass.handleBatchCandidate request signals regime
    | .none | .rejected _ => pass

end DecisionPass

/-! ## Filling due orders -/

namespace RuntimeDecisionEngine

variable {σ : Type}

/-- Reject one pending order and emit persistence events. -/
def rejectOrder (engine : RuntimeDecisionEngine σ) (order : RuntimePendingOrder)
    (request : RuntimeDecisionRequest) (miss : RuntimeMissContext) :
    RuntimeOrderDisposition × RuntimeDecisionEngine σ :=
  let engine := engine.releaseReserved order.reservedCost order.strategy
  let engine := { engine with stats := { engine.stats with noFills := engine.stats.noFills + 1 } }
  let effectiveArrivalDelayMs := request.nowMs - order.signalTimestamp
  (.missed (if miss.trackGroup then order.executionGroupId else none)
      { signalId := order.signalId
        marketId := order.marketId
        strategy := order.strategy
        side := order.side
        disposition := .missed
        reason := some miss.reason
        bestAsk := miss.bestAsk
        askSize := miss.askSize
        freshnessMs := miss.freshnessMs
        requestedSize := order.requestedSize
        filledSize := 0
        effectiveArrivalDelayMs := effectiveArrivalDelayMs
        partialFill := false }
      (.signalOutcome order.signalId request.nowMs request.nowUs effectiveArrivalDelayMs "missed"
        (some miss.reason)),
    engine)

/-- Fill one pending order and emit persistence events. -/
def fillOrder (engine : RuntimeDecisionEngine σ) (order : RuntimePendingOrder)
    (request : RuntimeDecisionRequest) (book : TopOfBook) (freshnessMs : Option ℕ)
    (filledSize : ℚ) : RuntimeOrderDisposition × RuntimeDecisionEngine σ :=
  let fillCost := filledSize * book.bestAsk
  let engine := engine.releaseUnspent order fillCost
  let engine := engine.recordFill order book.bestAsk filledSize request.nowMs
  let (tradeId, engine) := engine.allocateTradeId
  let trade := buildTrade order tradeId book.bestAsk filledSize request.nowMs
    engine.config.executionMode.asStr
  let effectiveArrivalDelayMs := request.nowMs - order.signalTimestamp
  (.filled trade order.executionGroupId
      { signalId := order.signalId
        marketId := order.marketId
        strategy := order.strategy
        side := order.side
        disposition := .filled
        reason := none
        bestAsk := some book.bestAsk
        askSize := some book.askSize
        freshnessMs := freshnessMs
        requestedSize := order.requestedSize
        filledSize := filledSize
        effectiveArrivalDelayMs := effectiveArrivalDelayMs
        partialFill := decide (filledSize < order.requestedSize) }
      (.signalOutcome order.signalId request.nowMs request.nowUs effectiveArrivalDelayMs "filled"
        none)
      (.openTrade trade),
    engine)

/-- Process one pending paper order against the current book. -/
def processDueOrder (engine : RuntimeDecisionEngine σ) (order : RuntimePendingOrder)
    (request : RuntimeDecisionRequest) : RuntimeOrderDisposition × RuntimeDecisionEngine σ :=
  if order.arrivalTs > request.nowMs then
    (.deferred order, engine)
  else if request.window.marketId ≠ order.marketId then
    engine.rejectOrder order request
      { trackGroup := false, reason := "window_missing_on_arrival", bestAsk := none,
        askSize := none, freshnessMs := none }
  else
    match sideBook request.bookState order.side with
    | none =>
      engine.rejectOrder order request
        { trackGroup := true, reason := "book_unavailable_on_arrival", bestAsk := none,
          askSize := none, freshnessMs := none }
    | some book =>
      let freshnessMs := some (request.nowMs - effectiveBookTimestamp book)
      let miss (reason : String) : RuntimeMissContext :=
        { trackGroup := true, reason := reason, bestAsk := some book.bestAsk,
          askSize := some book.askSize, freshnessMs := freshnessMs }
      match bookFillRejectionReason book request.nowMs order.limitPrice
          engine.config.maxBookStalenessMs with
      | some reason => engine.rejectOrder order request (miss reason)
      | none =>
        let tickSize := request.window.orderPriceMinTickSize.getD 0
        if tickSize > 0 ∧ (!priceIsTickAligned order.limitPrice tickSize ||
            !priceIsTickAligned book.bestAsk tickSize) then
          engine.rejectOrder order request (miss "tick_misaligned_on_arrival")
        else
          let filledSize := min order.requestedSize book.askSize
          if fillSizeRejected filledSize book.bestAsk (request.window.orderMinSize.getD 0)
              engine.config.minBetUsd then
            engine.rejectOrder order request (miss "fill_below_min_on_arrival")
          else
            engine.fillOrder order request book freshnessMs filledSize

end RuntimeDecisionEngine

def recordGroupOutcome (outcomes : List (String × ℕ × ℕ)) (executionGroupId : Option String)
    (filled : Bool) : List (String × ℕ × ℕ) :=
  match executionGroupId with
  | none => outcomes
  | some groupId =>
    let (filledCount, total) := (outcomes.lookup groupId).getD (0, 0)
    (outcomes.filter fun entry => entry.1 != groupId) ++
      [(groupId, if filled then filledCount + 1 else filledCount, total + 1)]

/-- The loop over due orders between two of them. -/
structure DueOrders (σ : Type) where
  engine : RuntimeDecisionEngine σ
  persistenceEvents : List LivePersistenceEvent
  remaining : List RuntimePendingOrder
  outcomes : List ProcessedOrderOutcome
  groupOutcomes : List (String × ℕ × ℕ)

namespace DueOrders

variable {σ : Type}

/-- Take the next due order. -/
def step (request : RuntimeDecisionRequest) (due : DueOrders σ) (order : RuntimePendingOrder) :
    DueOrders σ :=
  match due.engine.processDueOrder order request with
  | (.deferred order, engine) =>
    { due with engine := engine, remaining := due.remaining ++ [order] }
  | (.missed groupId outcome event, engine) =>
    { due with
      engine := engine
      persistenceEvents := due.persistenceEvents ++ [event]
      outcomes := due.outcomes ++ [outcome]
      groupOutcomes := recordGroupOutcome due.groupOutcomes groupId false }
  | (.filled trade groupId outcome signalEvent tradeEvent, engine) =>
    { due with
      engine :=
        { engine with exposure := engine.exposure.addOpenTrade trade request.window.endTime }
      persistenceEvents := due.persistenceEvents ++ [signalEvent, tradeEvent]
      outcomes := due.outcomes ++ [outcome]
      groupOutcomes := recordGroupOutcome due.groupOutcomes groupId true }

end DueOrders

namespace RuntimeDecisionEngine

variable {σ : Type}

/-- Count the spread groups of which only one leg was filled. -/
def recordLeggingFailures (engine : RuntimeDecisionEngine σ)
    (groupOutcomes : List (String × ℕ × ℕ)) : RuntimeDecisionEngine σ :=
  let failures := groupOutcomes.countP fun outcome => outcome.2.2 == 2 && outcome.2.1 == 1
  { engine with
    stats :=
      { engine.stats with
        spreadLeggingFailures := engine.stats.spreadLeggingFailures + failures
        residualPositions := engine.stats.residualPositions + failures } }

def processDueOrders (engine : RuntimeDecisionEngine σ) (request : RuntimeDecisionRequest) :
    List ProcessedOrderOutcome × List LivePersistenceEvent × RuntimeDecisionEngine σ :=
  let due := engine.pendingOrders.foldl (DueOrders.step request)
    { engine := { engine with pendingOrders := [] }, persistenceEvents := [], remaining := [],
      outcomes := [], groupOutcomes := [] }
  let engine := { due.engine with pendingOrders := due.remaining }
  (due.outcomes, due.persistenceEvents, engine.recordLeggingFailures due.groupOutcomes)

/-- Collect actionable strategy candidates for one context. -/
def collectCandidates [Strategy σ] (config : Config) (request : RuntimeDecisionRequest) :
    List σ → StrategyRejectionTracker →
      List EvaluatedRuntimeCandidate × List σ × StrategyRejectionTracker
  | [], tracker => ([], [], tracker)
  | strategy :: rest, tracker =>
    let (result, strategy) := Strategy.evaluate strategy request.ctx config request.nowMs
    let tracker :=
      match result with
      | .rejected rejection => tracker.record request.window.marketId rejection
      | _ => tracker
    let (candidates, strategies, tracker) := collectCandidates config request rest tracker
    let candidates :=
      match result with
      | .none | .rejected _ => candidates
      | .single _ | .batch _ =>
        { family := Strategy.family strategy, result := result } :: candidates
    (candidates, strategy :: strategies, tracker)

/-- Evaluate one feed-derived strategy context without storage or network calls. -/
def evaluate [Strategy σ] (engine : RuntimeDecisionEngine σ) (request : RuntimeDecisionRequest) :
    RuntimeDecisionOutput × RuntimeDecisionEngine σ :=
  let (processedOutcomes, persistenceEvents, engine) :=
    if engine.config.executionMode = .liveTrading then ([], [], engine)
    else engine.processDueOrders request
  let paused := !engine.circuitBreaker.canTrade request.nowMs
  let withheld :=
    engine.config.executionMode = .liveTrading ∧ request.liveTradingCanSubmit = false
  if paused ∨ withheld then
    (output persistenceEvents [] processedOutcomes [] (some request.window) request.nowMs
      request.decisionSequence, engine)
  else
    let regime := detectRegime request.ctx engine.config
    let (candidates, strategies, rejectionTracker) :=
      collectCandidates engine.config request engine.strategies engine.rejectionTracker
    let engine :=
      { engine with strategies := strategies, rejectionTracker := rejectionTracker }
    let selectedFamily :=
      if engine.config.regimeDetectionEnabled then
        selectFamilyForCandidates request.ctx engine.config (candidates.map (·.family))
      else
        none
    let pass := candidates.foldl
      (fun pass candidate => pass.handleCandidate request selectedFamily regime candidate)
      { DecisionPass.start engine with persistenceEvents := persistenceEvents }
    (output pass.persistenceEvents pass.liveOrders processedOutcomes pass.logEvents
      (some request.window) request.nowMs request.decisionSequence, pass.engine)

/-- The event of the rejection summaries, if there are any. -/
def summaryEvents (summaries : List StrategyRejectionSummaryRecord) : List LivePersistenceEvent :=
  if summaries.isEmpty then [] else [.rejectionSummaries summaries]

def eventsOutput (persistenceEvents : List LivePersistenceEvent) (nowMs : ℕ) :
    RuntimeDecisionOutput :=
  output persistenceEvents [] [] [] none nowMs 0

def windowClosed (engine : RuntimeDecisionEngine σ) (window : MarketWindow) (nowMs : ℕ) :
    RuntimeDecisionOutput × RuntimeDecisionEngine σ :=
  let (trades, exposure) := engine.exposure.markPendingForMarket window.marketId
  let bankroll := trades.foldl
    (fun bankroll trade =>
      bankroll.transitionTradeToPendingSettlement (trade.entryPrice * trade.size) trade.strategy)
    engine.bankroll
  let (summaries, rejectionTracker) :=
    engine.rejectionTracker.drainMarket window.marketId nowMs
  (eventsOutput (marketClosedEvent window :: summaryEvents summaries) nowMs,
    { engine with
      exposure := exposure
      bankroll := bankroll
      rejectionTracker := rejectionTracker })

def tradeResult (trade : SimulatedTrade) (tradeId : ℤ) (settlementPrice feeAmount pnl : ℚ) :
    TradeResult where
  tradeId := tradeId
  exitPrice := settlementPrice
  settlementPrice := settlementPrice
  pnl0pct := settlementPrice * trade.size - trade.entryPrice * trade.size
  pnl1pct := 0
  pnl2pct := 0
  pnl3pct := 0
  feeAmount := feeAmount
  pnlNet := pnl
  settlementStatus := "confirmed"
  provisionalPnl := none

/-- Settle one trade of a resolved market. A trade without an id is left out. -/
def settleTrade (feeParams : FeeParams) (outcome : SignalDirection) (nowMs : ℕ)
    (pass : DecisionPass σ) (trade : SimulatedTrade) : DecisionPass σ :=
  match trade.id with
  | none => pass
  | some tradeId =>
    let settlementPrice := if trade.side = outcome then 1 else 0
    let feeAmount := computeTakerFee trade.entryPrice trade.size feeParams.feeRate
      feeParams.exponent
    let (pnl, bankroll) := pass.engine.bankroll.applyTradeResultInMemory trade.entryPrice
      trade.size settlementPrice feeAmount trade.strategy
    let won := decide (pnl > 0)
    let engine :=
      { pass.engine with
        bankroll := bankroll
        trendTracker := pass.engine.trendTracker.recordOutcome
          (familyForStrategy trade.strategy) trade.side won
        circuitBreaker := pass.engine.circuitBreaker.recordResult won nowMs }
    { pass with engine := engine }.emit (.closeTrade tradeId
      (tradeResult trade tradeId settlementPrice feeAmount pnl)
      (balanceEventForTrade tradeId nowMs pnl bankroll.currentBalance))

/-- Apply one authoritative resolution to in-memory state and emit persistence work. -/
def authoritativeResolution (engine : RuntimeDecisionEngine σ) (window : MarketWindow)
    (outcome : SignalDirection) (nowMs : ℕ) : RuntimeDecisionOutput × RuntimeDecisionEngine σ :=
  let (trades, exposure) := engine.exposure.removeMarket window.marketId
  let feeParams := resolveFeeParams engine.config (some window) nowMs
  let pass := trades.foldl (settleTrade feeParams outcome nowMs)
    ((DecisionPass.start { engine with exposure := exposure }).emit
      (.marketResolved window.marketId outcome.display))
  (eventsOutput pass.persistenceEvents nowMs, pass.engine)

/-- Release live submission reservations after worker-side venue rejection. -/
def releaseReservations (engine : RuntimeDecisionEngine σ) (releases : List (String × ℚ)) :
    RuntimeDecisionEngine σ :=
  releases.foldl (fun engine release => engine.releaseReserved release.2 release.1) engine

/-- Take over one fill of the venue. -/
def applyLiveFill (nowMs : ℕ) (engine : RuntimeDecisionEngine σ) (fill : LiveOrderFillFeedback) :
    RuntimeDecisionEngine σ :=
  match engine.removePendingOrder fill.signalId with
  | (none, engine) => engine
  | (some order, engine) =>
    if fill.filledSize ≤ 0 ∨ fill.fillPrice ≤ 0 then
      engine
    else
      let engine := engine.releaseUnspent order (fill.filledSize * fill.fillPrice)
      let (tradeId, engine) := engine.allocateTradeId
      let trade := buildTrade order tradeId fill.fillPrice fill.filledSize nowMs "live"
      let engine := engine.recordFill order fill.fillPrice fill.filledSize nowMs
      { engine with exposure := engine.exposure.addOpenTrade trade order.marketEndTime }

/-- Apply terminal live-submission feedback to in-memory exposure state. -/
def applyLiveSubmissionFeedback (engine : RuntimeDecisionEngine σ)
    (fills : List LiveOrderFillFeedback) (rejectedSignalIds : List ℤ) (nowMs : ℕ) :
    RuntimeDecisionEngine σ :=
  let engine := rejectedSignalIds.foldl
    (fun engine signalId => (engine.removePendingOrder signalId).2) engine
  fills.foldl (applyLiveFill nowMs) engine

def flushAll (engine : RuntimeDecisionEngine σ) (nowMs : ℕ) :
    RuntimeDecisionOutput × RuntimeDecisionEngine σ :=
  let (summaries, rejectionTracker) := engine.rejectionTracker.drainAll nowMs
  (eventsOutput (summaryEvents summaries) nowMs,
    { engine with rejectionTracker := rejectionTracker })

end RuntimeDecisionEngine

end BubaPaint
