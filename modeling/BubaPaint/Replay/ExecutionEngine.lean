import BubaPaint.Replay.ResultsDb

/-!
# The execution engine of a simulated run

Orders are queued when they are submitted and filled from the book when their simulated latency has
passed. The engine reserves capital for what it queues, writes signals and trades to the results
database and reads the open trades back from there. The checks on sizes, books and prices are those
of the decision engine.
-/

namespace BubaPaint

/-- One order that waits for its simulated arrival. -/
structure PendingOrder where
  signalId : ℤ
  signalTimestamp : ℕ
  marketId : String
  strategy : String
  side : SignalDirection
  tokenId : String
  arrivalTs : ℕ
  requestedPrice : ℚ
  limitPrice : ℚ
  requestedSize : ℚ
  reservedCost : ℚ
  executionGroupId : Option String
  deriving DecidableEq

/-- Queue, recent outcomes and counters of the execution engine. -/
structure ExecutionEngine where
  pendingOrders : List PendingOrder
  recentOutcomes : List ProcessedOrderOutcome
  stats : ExecutionStats
  nextGroupId : ℕ

/-- Create a fresh execution engine with no pending orders. -/
def ExecutionEngine.new : ExecutionEngine where
  pendingOrders := []
  recentOutcomes := []
  stats := .empty
  nextGroupId := 1

/-- The engine together with what its methods are handed. -/
structure PaperState where
  engine : ExecutionEngine
  db : ResultsDb
  bankroll : BankrollManager

/-- Convert one accepted submission into the public intent snapshot. -/
def PendingOrder.intent (order : PendingOrder) : QueuedOrderIntent where
  signalId := order.signalId
  signalTimestamp := order.signalTimestamp
  marketId := order.marketId
  strategy := order.strategy
  side := order.side
  tokenId := order.tokenId
  arrivalTs := order.arrivalTs
  requestedPrice := order.requestedPrice
  limitPrice := order.limitPrice
  requestedSize := order.requestedSize
  reservedCost := order.reservedCost
  executionGroupId := order.executionGroupId

namespace PaperState

def recordSubmittedOrder (state : PaperState) (order : PendingOrder) : PaperState :=
  { state with
    engine.stats.submittedOrders := state.engine.stats.submittedOrders + 1
    engine.stats.totalRequestedSize :=
      state.engine.stats.totalRequestedSize + order.requestedSize }

/-- Append one order to the queue, unless the venue itself keeps it. -/
def pushPendingOrder (state : PaperState) (order : PendingOrder) (config : Config) : PaperState :=
  if config.executionMode ≠ .liveTrading then
    { state with engine.pendingOrders := state.engine.pendingOrders ++ [order] }
  else state

/-- Release previously reserved capital for one strategy family. -/
def releaseReserved (state : PaperState) (amount : ℚ) (strategy : String) : PaperState :=
  { state with bankroll := state.bankroll.releaseReservedForStrategy amount strategy }

/-- Give back what an order has reserved beyond the cost of its fill. -/
def releaseSurplus (state : PaperState) (order : PendingOrder) (fillCost : ℚ) : PaperState :=
  if order.reservedCost > fillCost then
    state.releaseReserved (order.reservedCost - fillCost) order.strategy
  else state

/-- Update aggregate execution statistics for a successful fill. -/
def recordFill (state : PaperState) (order : PendingOrder) (fillPrice filledSize : ℚ)
    (now : ℕ) : PaperState :=
  let stats := state.engine.stats
  { state with
    engine.stats :=
      { stats with
        partialFills :=
          if filledSize < order.requestedSize then stats.partialFills + 1 else stats.partialFills
        filledOrders := stats.filledOrders + 1
        totalFilledSize := stats.totalFilledSize + filledSize
        totalSlippage :=
          stats.totalSlippage + max (fillPrice - order.requestedPrice) 0 * filledSize
        totalFillLatencyMs := stats.totalFillLatencyMs + (now - order.signalTimestamp) } }

/-- Count the open trades that still consume one queue slot under the current config. -/
def countQueueRelevantOpenTrades (state : PaperState) (config : Config) (nowMs : ℕ) : ℕ :=
  if config.pendingSettlementPolicyUnchecked.countsAsOpenPosition then state.db.countOpenTrades
  else state.db.countActiveOpenTrades nowMs

/-- Return whether a new order can be queued without violating position rules. -/
def canQueueOrder (state : PaperState) (signal : Signal) (window : MarketWindow) (isBatch : Bool)
    (requiredSlots : ℕ) (config : Config) (nowMs : ℕ) : Option QueueRejectionReason :=
  let openCount := state.countQueueRelevantOpenTrades config nowMs
  let pendingCount := state.engine.pendingOrders.length
  if openCount + pendingCount + requiredSlots > config.maxOpenPositions then
    some .maxOpenPositions
  else if (state.db.getOpenTradesForMarket window.marketId).any fun trade =>
      trade.strategy == signal.strategy && (!isBatch || trade.side == signal.direction) then
    some .duplicateOpenPosition
  else if state.engine.pendingOrders.any fun order =>
      order.marketId == window.marketId && order.strategy == signal.strategy &&
        (!isBatch || order.side == signal.direction) then
    some .duplicatePendingOrder
  else none

/-- Check whether a spread can be queued at all. -/
def canQueueSpread (state : PaperState) (signals : List Signal) (window : MarketWindow)
    (config : Config) (nowMs : ℕ) : Option QueueRejectionReason :=
  let openCount := state.countQueueRelevantOpenTrades config nowMs
  let pendingCount := state.engine.pendingOrders.length
  let existing := state.db.getOpenTradesForMarket window.marketId
  if openCount + pendingCount + 2 > config.maxOpenPositions then
    some .maxOpenPositions
  else if signals.any fun signal => existing.any fun trade =>
      trade.strategy == signal.strategy && trade.side == signal.direction then
    some .duplicateOpenPosition
  else if signals.any fun signal => state.engine.pendingOrders.any fun order =>
      order.marketId == window.marketId && order.strategy == signal.strategy &&
        order.side == signal.direction then
    some .duplicatePendingOrder
  else none

/-- Return any single-order queue rejection without persisting signals or mutating state. -/
def precheckSingleSubmission (state : PaperState) (signal : Signal) (window : MarketWindow)
    (config : Config) (nowMs : ℕ) : Option QueueRejectionReason :=
  state.canQueueOrder signal window false 1 config nowMs

/-- Persist one rejected single-order submission and return the operator outcome. -/
def rejectSingleSubmission (state : PaperState) (signalId : ℤ) (reason : String) :
    SubmissionOutcome × PaperState :=
  (.rejected [signalId] reason,
    { state with
      db := state.db.upsertSignalTelemetry signalId none none "rejected" (some reason) })

def singleOrder (signal : Signal) (signalId : ℤ) (window : MarketWindow)
    (requestedPrice limitPrice requestedSize : ℚ) (config : Config) : PendingOrder where
  signalId := signalId
  signalTimestamp := signal.timestamp
  marketId := window.marketId
  strategy := signal.strategy
  side := signal.direction
  tokenId := tokenIdForSignal signal window
  arrivalTs := saturatingAdd signal.timestamp config.simOrderLatencyMs
  requestedPrice := requestedPrice
  limitPrice := limitPrice
  requestedSize := requestedSize
  reservedCost := requestedSize * limitPrice
  executionGroupId := none

/-- Queue one single-side order and persist its submitted telemetry snapshot. -/
def queueSingleSubmission (state : PaperState) (signal : Signal) (signalId : ℤ)
    (window : MarketWindow) (requestedPrice limitPrice requestedSize : ℚ) (config : Config) :
    SubmissionOutcome × PaperState :=
  let order := singleOrder signal signalId window requestedPrice limitPrice requestedSize config
  let state := (state.recordSubmittedOrder order).pushPendingOrder order config
  (.queued [signalId] [order.intent],
    { state with
      db := state.db.upsertSignalTelemetry signalId (some signal.timestamp)
        (some order.arrivalTs) "submitted" none })

/-- Queue one single-side order for later simulated execution. -/
def submitSingle (state : PaperState) (signal : Signal) (window : MarketWindow)
    (config : Config) (nowMs : ℕ) : SubmissionOutcome × PaperState :=
  let (signalId, db) := state.db.logSignalWithContext signal window.marketId
    (some signal.timestamp) (some (saturatingAdd signal.timestamp config.simOrderLatencyMs))
  let state := { state with db }
  match state.precheckSingleSubmission signal window config nowMs with
  | some reason => state.rejectSingleSubmission signalId reason.asStr
  | none =>
    let requestedPrice := signalEntryAsk signal
    let limitPrice := singleOrderLimitPrice signal config
    let (requestedSize, bankroll) := state.bankroll.reserveCapitalWithReservePrice
      requestedPrice limitPrice signal.confidence signal.strategy
      (familyForStrategy signal.strategy) config nowMs
    let state := { state with bankroll }
    if requestedSize ≤ 0 then
      state.rejectSingleSubmission signalId "strategy_sleeve_exhausted"
    else
      match submissionSizeRejectionReason requestedSize requestedPrice
          (window.orderMinSize.getD 0) config.minBetUsd with
      | some reason =>
        (state.releaseReserved (requestedSize * limitPrice)
          signal.strategy).rejectSingleSubmission signalId reason
      | none =>
        state.queueSingleSubmission signal signalId window requestedPrice limitPrice requestedSize
          config

def logSpreadSignals (state : PaperState) (window : MarketWindow) (arrivalTs : ℕ) :
    List Signal → List ℤ × PaperState
  | [] => ([], state)
  | signal :: rest =>
    let (signalId, db) := state.db.logSignalWithContext signal window.marketId
      (some signal.timestamp) (some arrivalTs)
    let (signalIds, state) := logSpreadSignals { state with db } window arrivalTs rest
    (signalId :: signalIds, state)

/-- Persist telemetry updates for all legs in one spread bundle. -/
def updateSpreadSignalMetrics (state : PaperState) (signals : List Signal) (signalIds : List ℤ)
    (arrivalTs : Option ℕ) (decisionStatus : String) (rejectionReason : Option String) :
    PaperState :=
  (signals.zip signalIds).foldl
    (fun state signal => { state with
      db := state.db.upsertSignalTelemetry signal.2 (arrivalTs.map fun _ => signal.1.timestamp)
        arrivalTs decisionStatus rejectionReason })
    state

/-- Persist one rejected spread submission and return the operator outcome. -/
def rejectSpreadSubmission (state : PaperState) (signals : List Signal) (signalIds : List ℤ)
    (reason : String) : SubmissionOutcome × PaperState :=
  (.rejected signalIds reason,
    state.updateSpreadSignalMetrics signals signalIds none "rejected" (some reason))

def spreadOrder (signal : Signal) (signalId : ℤ) (marketId tokenId : String) (arrivalTs : ℕ)
    (executionGroupId : Option String) (requestedSize : ℚ) : PendingOrder where
  signalId := signalId
  signalTimestamp := signal.timestamp
  marketId := marketId
  strategy := signal.strategy
  side := signal.direction
  tokenId := tokenId
  arrivalTs := arrivalTs
  requestedPrice := signalEntryAsk signal
  limitPrice := signalEntryAsk signal
  requestedSize := requestedSize
  reservedCost := requestedSize * signalEntryAsk signal
  executionGroupId := executionGroupId

/-- Queue both legs of an accepted spread submission. -/
def queueSpreadSubmissionOrders (state : PaperState) (upSignal downSignal : Signal)
    (upSignalId downSignalId : ℤ) (window : MarketWindow) (arrivalTs : ℕ)
    (upTokens downTokens : ℚ) (config : Config) : List QueuedOrderIntent × PaperState :=
  let groupId := s!"spread-{state.engine.nextGroupId}"
  let state := { state with engine.nextGroupId := state.engine.nextGroupId + 1 }
  let upOrder := spreadOrder upSignal upSignalId window.marketId window.upTokenId arrivalTs
    (some groupId) upTokens
  let downOrder := spreadOrder downSignal downSignalId window.marketId window.downTokenId arrivalTs
    (some groupId) downTokens
  let state := (state.recordSubmittedOrder upOrder).recordSubmittedOrder downOrder
  ([upOrder.intent, downOrder.intent],
    (state.pushPendingOrder upOrder config).pushPendingOrder downOrder config)

/-- Queue a two-leg spread order bundle for later simulated execution. -/
def submitSpread (state : PaperState) (signals : List Signal) (window : MarketWindow)
    (config : Config) (nowMs : ℕ) : SubmissionOutcome × PaperState :=
  let arrivalTs := spreadArrivalTs signals config nowMs
  let (signalIds, state) := state.logSpreadSignals window arrivalTs signals
  match state.canQueueSpread signals window config nowMs with
  | some reason => state.rejectSpreadSubmission signals signalIds reason.asStr
  | none =>
    match spreadSignalPair signals signalIds with
    | none => (.queued signalIds [], state)
    | some (upSignal, downSignal, upSignalId, downSignalId) =>
      let feeParams := resolveFeeParams config (some window) window.endTime
      if spreadNetEdge upSignal.upAsk downSignal.downAsk 1 feeParams.feeRate
          feeParams.exponent ≤ 0 then
        state.rejectSpreadSubmission signals signalIds "net_edge"
      else
        let ((upTokens, downTokens), bankroll) := state.bankroll.reserveSpreadCapital
          upSignal.upAsk downSignal.downAsk config nowMs
        let state := { state with bankroll }
        if upTokens ≤ 0 ∨ downTokens ≤ 0 then
          state.rejectSpreadSubmission signals signalIds "strategy_sleeve_exhausted"
        else
          match spreadSubmissionRejectionReason upTokens downTokens upSignal.upAsk
              downSignal.downAsk (window.orderMinSize.getD 0) config.minBetUsd with
          | some reason =>
            let reservedSpreadCost := upTokens * upSignal.upAsk + downTokens * downSignal.downAsk
            (state.releaseReserved reservedSpreadCost
              upSignal.strategy).rejectSpreadSubmission signals signalIds reason
          | none =>
            let (orders, state) := state.queueSpreadSubmissionOrders upSignal downSignal
              upSignalId downSignalId window arrivalTs upTokens downTokens config
            (.queued signalIds orders,
              state.updateSpreadSignalMetrics signals signalIds (some arrivalTs) "submitted" none)

end PaperState

/-! ## Due orders -/

/-- The outcome of processing one pending order. -/
inductive OrderDisposition where
  | deferred (order : PendingOrder)
  | missed (groupId : Option String) (outcome : ProcessedOrderOutcome)
  | filled (trade : SimulatedTrade) (groupId : Option String) (outcome : ProcessedOrderOutcome)

/-- What due orders are processed against. -/
structure DueOrderContext where
  now : ℕ
  nowUs : Option ℕ
  currentWindow : Option MarketWindow
  bookState : BookState

/-- The fillability snapshot captured when a queued order misses. -/
structure MissedOrderContext where
  trackGroup : Bool
  reason : String
  bestAsk : Option ℚ
  askSize : Option ℚ
  freshnessMs : Option ℕ

/-- Build the row for a successful execution. The database assigns its id. -/
def PendingOrder.trade (order : PendingOrder) (fillPrice filledSize : ℚ) (now : ℕ)
    (executionMode : String) : SimulatedTrade where
  id := none
  timestamp := now
  marketId := order.marketId
  strategy := order.strategy
  side := order.side
  tokenId := order.tokenId
  entryPrice := fillPrice
  size := filledSize
  status := .open
  signalId := some order.signalId
  requestedPrice := some order.limitPrice
  requestedSize := some order.requestedSize
  filledSize := some filledSize
  avgFillPrice := some fillPrice
  fillStatus := some (if filledSize < order.requestedSize then "partial" else "filled")
  fillReason := some "book_fill"
  fillLatencyMs := some (now - order.signalTimestamp)
  executionGroupId := order.executionGroupId
  executionMode := some executionMode
  orderId := some s!"paper-{order.signalId}"
  fillPrice := some fillPrice

namespace PaperState

/-- Release the reserved capital for an unfilled order. -/
def rejectOrder (state : PaperState) (order : PendingOrder) (context : DueOrderContext)
    (miss : MissedOrderContext) : OrderDisposition × PaperState :=
  let state := state.releaseReserved order.reservedCost order.strategy
  let effectiveArrivalDelayMs := context.now - order.signalTimestamp
  (.missed (if miss.trackGroup then order.executionGroupId else none)
      { signalId := order.signalId
        marketId := order.marketId
        strategy := order.strategy
        side := order.side
        disposition := .missed
        reason := some miss.reason
        bestAsk := miss.bestAsk
        askSize := miss.askSize
        freshnessMs := miss.freshnessMs
        requestedSize := order.requestedSize
        filledSize := 0
        effectiveArrivalDelayMs
        partialFill := false },
    { state with
      engine.stats.noFills := state.engine.stats.noFills + 1
      db := state.db.updateSignalExecutionOutcome order.signalId context.now context.nowUs
        effectiveArrivalDelayMs "missed" (some miss.reason) })

/-- Persist one successful delayed paper fill and return the resulting trade. -/
def fillDueOrder (state : PaperState) (order : PendingOrder) (context : DueOrderContext)
    (book : TopOfBook) (freshnessMs : Option ℕ) (filledSize : ℚ) (config : Config) :
    OrderDisposition × PaperState :=
  let fillCost := filledSize * book.bestAsk
  let state := state.releaseSurplus order fillCost
  let state := state.recordFill order book.bestAsk filledSize context.now
  let trade := order.trade book.bestAsk filledSize context.now config.executionMode.asStr
  let (tradeId, db) := state.db.openTrade trade
  let effectiveArrivalDelayMs := context.now - order.signalTimestamp
  (.filled { trade with id := some tradeId } order.executionGroupId
      { signalId := order.signalId
        marketId := order.marketId
        strategy := order.strategy
        side := order.side
        disposition := .filled
        reason := none
        bestAsk := some book.bestAsk
        askSize := some book.askSize
        freshnessMs
        requestedSize := order.requestedSize
        filledSize
        effectiveArrivalDelayMs
        partialFill := decide (filledSize < order.requestedSize) },
    { state with
      db := db.updateSignalExecutionOutcome order.signalId context.now context.nowUs
        effectiveArrivalDelayMs "filled" none })

/-- Attempt to execute one pending order at the current replay timestamp. -/
def processDueOrder (state : PaperState) (order : PendingOrder) (context : DueOrderContext)
    (config : Config) : OrderDisposition × PaperState :=
  if order.arrivalTs > context.now then
    (.deferred order, state)
  else
    match context.currentWindow.filter fun window => window.marketId == order.marketId with
    | none =>
      state.rejectOrder order context
        { trackGroup := false, reason := "window_missing_on_arrival", bestAsk := none,
          askSize := none, freshnessMs := none }
    | some window =>
      match sideBook context.bookState order.side with
      | none =>
        state.rejectOrder order context
          { trackGroup := true, reason := "book_unavailable_on_arrival", bestAsk := none,
            askSize := none, freshnessMs := none }
      | some book =>
        let freshnessMs := some (context.now - effectiveBookTimestamp book)
        let miss (reason : String) : MissedOrderContext :=
          { trackGroup := true, reason, bestAsk := some book.bestAsk,
            askSize := some book.askSize, freshnessMs }
        match bookFillRejectionReason book context.now order.limitPrice
            config.maxBookStalenessMs with
        | some reason => state.rejectOrder order context (miss reason)
        | none =>
          let tickSize := window.orderPriceMinTickSize.getD 0
          if tickSize > 0 ∧ (!priceIsTickAligned order.limitPrice tickSize ||
              !priceIsTickAligned book.bestAsk tickSize) then
            state.rejectOrder order context (miss "tick_misaligned_on_arrival")
          else
            let filledSize := min order.requestedSize book.askSize
            if fillSizeRejected filledSize book.bestAsk (window.orderMinSize.getD 0)
                config.minBetUsd then
              state.rejectOrder order context (miss "fill_below_min_on_arrival")
            else
              state.fillDueOrder order context book freshnessMs filledSize config

end PaperState

/-- The loop over due orders between two of them. -/
structure PaperDueOrders where
  state : PaperState
  remaining : List PendingOrder
  opened : List SimulatedTrade
  groupOutcomes : List (String × ℕ × ℕ)

/-- Take the next order from the queue. -/
def PaperDueOrders.step (context : DueOrderContext) (config : Config) (due : PaperDueOrders)
    (order : PendingOrder) : PaperDueOrders :=
  match due.state.processDueOrder order context config with
  | (.deferred order, state) => { due with state, remaining := due.remaining ++ [order] }
  | (.missed groupId outcome, state) =>
    { due with
      state := { state with engine.recentOutcomes := state.engine.recentOutcomes ++ [outcome] }
      groupOutcomes := recordGroupOutcome due.groupOutcomes groupId false }
  | (.filled trade groupId outcome, state) =>
    { due with
      state := { state with engine.recentOutcomes := state.engine.recentOutcomes ++ [outcome] }
      opened := due.opened ++ [trade]
      groupOutcomes := recordGroupOutcome due.groupOutcomes groupId true }

namespace PaperState

/-- Count the spread groups of which only one leg was filled. -/
def recordLeggingFailures (state : PaperState) (groupOutcomes : List (String × ℕ × ℕ)) :
    PaperState :=
  let failures := groupOutcomes.countP fun outcome => outcome.2.2 == 2 && outcome.2.1 == 1
  { state with
    engine.stats.spreadLeggingFailures := state.engine.stats.spreadLeggingFailures + failures
    engine.stats.residualPositions := state.engine.stats.residualPositions + failures }

/-- Attempt to fill all pending orders whose simulated arrival time has passed. -/
def processDueOrders (state : PaperState) (context : DueOrderContext) (config : Config) :
    List SimulatedTrade × PaperState :=
  let due := state.engine.pendingOrders.foldl (PaperDueOrders.step context config)
    { state := { state with engine.pendingOrders := [] }, remaining := [], opened := [],
      groupOutcomes := [] }
  let state := { due.state with engine.pendingOrders := due.remaining }
  (due.opened, state.recordLeggingFailures due.groupOutcomes)

/-- Drain the processed-order outcomes accumulated since the last caller read them. -/
def takeRecentOutcomes (state : PaperState) : List ProcessedOrderOutcome × PaperState :=
  (state.engine.recentOutcomes, { state with engine.recentOutcomes := [] })

theorem exists_updateSpreadSignalMetrics_eq (state : PaperState) (signals : List Signal)
    (signalIds : List ℤ) (arrivalTs : Option ℕ) (decisionStatus : String)
    (rejectionReason : Option String) :
    ∃ signalMetrics,
      state.updateSpreadSignalMetrics signals signalIds arrivalTs decisionStatus rejectionReason =
        { state with db := { state.db with signalMetrics } } := by
  unfold updateSpreadSignalMetrics
  induction signals.zip signalIds generalizing state with
  | nil => exact ⟨_, rfl⟩
  | cons signal rest ih =>
    obtain ⟨signalMetrics, hrest⟩ := ih { state with
      db := state.db.upsertSignalTelemetry signal.2 (arrivalTs.map fun _ => signal.1.timestamp)
        arrivalTs decisionStatus rejectionReason }
    exact ⟨signalMetrics, hrest⟩

theorem exists_logSpreadSignals_eq (state : PaperState) (window : MarketWindow) (arrivalTs : ℕ)
    (signals : List Signal) :
    ∃ signalIds rows,
      state.logSpreadSignals window arrivalTs signals =
          (signalIds, { state with db := { state.db with signals := rows } }) ∧
        signalIds.length = signals.length := by
  induction signals generalizing state with
  | nil => exact ⟨[], _, rfl, rfl⟩
  | cons signal rest ih =>
    obtain ⟨signalIds, rows, hrest, hlength⟩ := ih { state with
      db := (state.db.logSignalWithContext signal window.marketId (some signal.timestamp)
        (some arrivalTs)).2 }
    refine ⟨(state.db.signals.length + 1 : ℤ) :: signalIds, rows, ?_, congrArg Nat.succ hlength⟩
    unfold logSpreadSignals
    dsimp only
    rw [hrest]
    rfl

end PaperState

end BubaPaint
