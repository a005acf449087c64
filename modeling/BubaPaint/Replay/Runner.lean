import BubaPaint.Library.Traces
import BubaPaint.Replay.DataDb
import BubaPaint.Replay.FeedState
import BubaPaint.Replay.PositionManager
import BubaPaint.Replay.StrategyCycle

/-!
# The backtest runner

A backtest replays the ticks of an interval group by group: it settles what is due, fills due
orders, leaves and enters windows, and evaluates the strategies on what it has seen so far. What it
has produced is read off after each group. The attribution statistics are left out.
-/

namespace BubaPaint

open Effects

/-- When a backtest settles closed markets. -/
inductive BacktestSettlementMode where
  | immediate
  | observedMarketResolution
  deriving DecidableEq

/-- The settings of a backtest. -/
structure BacktestConfig extends StrategyConfig where
  momentumWindowMs : ℕ
  backtestSettlementMode : BacktestSettlementMode

/-- Inputs controlling one backtest run. The square root is that of a double. -/
structure BacktestOptions (σ : Type) where
  startTime : ℕ
  endTime : ℕ
  startingBalance : ℚ
  config : BacktestConfig
  strategies : List σ
  sqrt : ℚ → ℚ

/-- A closed market that waits for its settlement. -/
structure PendingBacktestSettlement where
  window : MarketWindow
  outcome : SignalDirection

/-- When the markets of the captured run were resolved. -/
structure ObservedResolutionSchedule where
  marketResolutionAtMs : List (String × ℕ)
  defaultDelayMs : ℕ

/-- Load observed market-resolution timestamps from the exact pulled live run. -/
def loadObservedResolutionSchedule (db : DataDb) (config : Config) : ObservedResolutionSchedule :=
  let resolved := db.markets.filterMap fun row =>
    ((db.resolvedTrades.filter fun trade => trade.marketId == row.window.marketId).map
      fun trade => trade.resolvedAt).min?.map fun resolvedAt => (row.window, resolvedAt)
  let delays := (resolved.map fun entry => entry.2 - entry.1.endTime).insertionSort (· ≤ ·)
  { marketResolutionAtMs := resolved.map fun entry => (entry.1.marketId, entry.2)
    defaultDelayMs := (delays[delays.length / 2]?).getD config.resolutionInitialDelayMs }

/-- When a market that closed now is settled. -/
def settleAtMs (schedule : Option ObservedResolutionSchedule) (config : Config)
    (window : MarketWindow) (replayTs : ℕ) : ℕ :=
  let settleAt :=
    match schedule with
    | some schedule =>
      (schedule.marketResolutionAtMs.lookup window.marketId).getD
        (saturatingAdd window.endTime (max schedule.defaultDelayMs config.resolutionInitialDelayMs))
    | none => saturatingAdd window.endTime config.resolutionInitialDelayMs
  max settleAt replayTs

/-- Move one market into the pending-settlement queue for later authoritative settlement. -/
def schedulePendingMarketSettlement (settlement : PendingBacktestSettlement) (settleAt : ℕ) :
    List (ℕ × List PendingBacktestSettlement) → List (ℕ × List PendingBacktestSettlement)
  | [] => [(settleAt, [settlement])]
  | (time, settlements) :: rest =>
    if settleAt < time then (settleAt, [settlement]) :: (time, settlements) :: rest
    else if settleAt = time then (time, settlements ++ [settlement]) :: rest
    else (time, settlements) :: schedulePendingMarketSettlement settlement settleAt rest

/-! ## State -/

/-- The state of a backtest between two groups. -/
structure BacktestState (σ : Type) where
  paper : PaperState
  circuitBreaker : CircuitBreaker
  trendTracker : ScopedTrendTracker
  rejectionTracker : StrategyRejectionTracker
  strategies : List σ
  feedState : FeedState
  momentum : MomentumCalculator
  windowManager : WindowManager
  pendingSettlements : List (ℕ × List PendingBacktestSettlement)

/-- What a backtest has produced when it has replayed a group. -/
structure ReplayRecord where
  timestamp : ℕ
  opened : List SimulatedTrade
  processed : List ProcessedOrderOutcome
  settled : List (SimulatedTrade × TradeResult)
  cycle : Option StrategyCycleResult
  signals : List SignalRow
  signalMetrics : List SignalMetricRow
  pendingOrders : List PendingOrder
  trades : TradesTable
  rejections : StrategyRejectionTracker
  rejectionSummaries : List StrategyRejectionSummaryRecord

namespace BacktestState

variable {σ : Type}

/-- The state before the first group. -/
def start (options : BacktestOptions σ) (db : DataDb) : BacktestState σ where
  paper :=
    { engine := .new
      db := ResultsDb.new.logBalanceEvent
        { timestampMs := 0
          event := "init"
          tradeId := none
          amount := 0
          balance := options.startingBalance }
      bankroll := .newInMemory options.startingBalance options.startingBalance
        options.config.toConfig }
  circuitBreaker := .new (options.config.circuitBreakerLosses % 2 ^ 32)
    options.config.circuitBreakerPauseMs
  trendTracker := .new options.config.trendFilterWindow options.config.trendFilterEnabled
    options.config.trendFilterThreshold options.config.trendFilterPerStrategy
  rejectionTracker := .new
  strategies := options.strategies
  feedState := .new
  momentum := .new options.config.momentumWindowMs
  windowManager := .fromSettlements (db.loadSettlements options.startTime options.endTime)
  pendingSettlements := []

def recordSettled (state : BacktestState σ) (nowMs : ℕ)
    (settled : List (SimulatedTrade × TradeResult)) : BacktestState σ :=
  settled.foldl
    (fun state entry =>
      let won := decide (0 < entry.2.pnlNet)
      { state with
        trendTracker := state.trendTracker.recordOutcome (familyForStrategy entry.1.strategy)
          entry.1.side won
        circuitBreaker := state.circuitBreaker.recordResult won nowMs })
    state

def settleMarket (state : BacktestState σ) (settlement : PendingBacktestSettlement)
    (config : Config) (nowMs : ℕ) : List (SimulatedTrade × TradeResult) × BacktestState σ :=
  let (settled, paper) := state.paper.resolveWindowWithOutcome settlement.window
    settlement.outcome config nowMs
  (settled, { state with paper }.recordSettled nowMs settled)

def settleMarkets (config : Config) (nowMs : ℕ) (state : BacktestState σ) :
    List PendingBacktestSettlement → List (SimulatedTrade × TradeResult) × BacktestState σ
  | [] => ([], state)
  | settlement :: rest =>
    let (settled, state) := state.settleMarket settlement config nowMs
    let (others, state) := settleMarkets config nowMs state rest
    (settled ++ others, state)

/-- Settle every pending market whose observed settlement time is now due. -/
def processDueMarketSettlements (config : Config) (nowMs : ℕ) (state : BacktestState σ) :
    List (ℕ × List PendingBacktestSettlement) →
      List (SimulatedTrade × TradeResult) × BacktestState σ
  | [] => ([], { state with pendingSettlements := [] })
  | (time, settlements) :: rest =>
    if time ≤ nowMs then
      let (settled, state) := settleMarkets config time state settlements
      let (others, state) := processDueMarketSettlements config nowMs state rest
      (settled ++ others, state)
    else ([], { state with pendingSettlements := (time, settlements) :: rest })

/-- Persist the rejection summaries of one market into the results database. -/
def persistRejectionSummaries (state : BacktestState σ) (marketId : String) (timestampMs : ℕ) :
    BacktestState σ :=
  let (rows, rejectionTracker) := state.rejectionTracker.drainMarket marketId timestampMs
  { state with
    paper.db := state.paper.db.logStrategyRejectionSummaries rows
    rejectionTracker }

/-- Write what is known of a market to the results database. -/
def upsertMarket (state : BacktestState σ) (settlement : MarketSettlement) : BacktestState σ :=
  { state with
    paper.db := state.paper.db.upsertMarket settlement.window (some settlement.outcome) }

/-- Close a window, and settle it if that is not left for later. -/
def closeWindow (state : BacktestState σ) (schedule : Option ObservedResolutionSchedule)
    (config : BacktestConfig) (closed : MarketSettlement) (replayTs : ℕ) :
    List (SimulatedTrade × TradeResult) × BacktestState σ :=
  let state := state.upsertMarket closed
  let state := { state with
    paper := state.paper.closeMarketAndReclassifyReserve closed.window }
  let state := state.persistRejectionSummaries closed.window.marketId replayTs
  let settlement := { window := closed.window, outcome := closed.outcome }
  match config.backtestSettlementMode with
  | .immediate => state.settleMarket settlement config.toConfig replayTs
  | .observedMarketResolution =>
    ([], { state with
      pendingSettlements := schedulePendingMarketSettlement settlement
        (settleAtMs schedule config.toConfig closed.window replayTs) state.pendingSettlements })

/-- Fill what is due from the books seen so far, in the window that was current until now. -/
def fillDueOrders (state : BacktestState σ) (config : Config) (replayTs : ℕ) :
    List SimulatedTrade × List ProcessedOrderOutcome × BacktestState σ :=
  let context : DueOrderContext :=
    { now := replayTs
      nowUs := none
      currentWindow := state.windowManager.current.map fun settlement => settlement.window
      bookState := state.feedState.signalState.bookState }
  let (opened, paper) := state.paper.processDueOrders context config
  let (processed, paper) := paper.takeRecentOutcomes
  (opened, processed, { state with paper })

def pushMomentum (state : BacktestState σ) (group : TickGroup) : BacktestState σ :=
  match group.binance.bind fun sample => sample.price with
  | some price => { state with momentum := state.momentum.push price group.timestamp }
  | none => state

def moveWindows (state : BacktestState σ) (schedule : Option ObservedResolutionSchedule)
    (config : BacktestConfig) (replayTs : ℕ) :
    List (SimulatedTrade × TradeResult) × BacktestState σ :=
  let (events, windowManager) := state.windowManager.advance replayTs
  let state := { state with windowManager }
  let (settled, state) :=
    match events.closed with
    | some closed => state.closeWindow schedule config closed replayTs
    | none => ([], state)
  (settled,
    match events.opened with
    | some opened =>
      { state.upsertMarket opened with feedState := state.feedState.openWindow }
    | none => state)

variable [FullStrategy σ]

/-- Evaluate the strategies, if there is a window and a price and trading is not paused. -/
def evaluateStrategies (state : BacktestState σ) (sqrt : ℚ → ℚ) (config : BacktestConfig)
    (group : TickGroup) : Option StrategyCycleResult × BacktestState σ :=
  match state.windowManager.current, state.feedState.signalState.binancePrice with
  | some current, some binancePrice =>
    let (features, signalState) := computeFeatures sqrt state.feedState.signalState
      (some current.window) (some current.openPrice) state.momentum.get group.timestamp
      group.timestampUs config.toConfig
    let state := { state with feedState.signalState := signalState }
    let ctx : FullStrategyContext :=
      { binancePrice
        binanceMomentum := state.momentum.get
        chainlinkPrice := signalState.chainlinkPrice
        bookState := signalState.bookState
        windowOpenPrice := some current.openPrice
        windowTimeRemainingMs := current.window.endTime - group.timestamp
        nowUs := group.timestampUs
        features }
    if !state.circuitBreaker.canTrade group.timestamp then (none, state)
    else
      let (cycle, strategies) := runStrategyCycle
        { ctx
          window := current.window
          config := config.toStrategyConfig
          trendTracker := state.trendTracker
          now := group.timestamp }
        state.paper state.rejectionTracker state.strategies
      (some cycle.result,
        { state with
          paper := cycle.paper
          rejectionTracker := cycle.rejectionTracker
          strategies })
  | _, _ => (none, state)

/-- One turn of the loop. -/
def step (sqrt : ℚ → ℚ) (schedule : Option ObservedResolutionSchedule) (config : BacktestConfig)
    (state : BacktestState σ) (group : TickGroup) : ReplayRecord × BacktestState σ :=
  let replayTs := group.timestamp
  let (settledLate, state) := processDueMarketSettlements config.toConfig replayTs state
    state.pendingSettlements
  let state := { state with feedState := state.feedState.update group }
  let (opened, processed, state) := state.fillDueOrders config.toConfig replayTs
  let state := state.pushMomentum group
  let (settledNow, state) := state.moveWindows schedule config replayTs
  let (cycle, state) := state.evaluateStrategies sqrt config group
  ({ timestamp := replayTs
     opened
     processed
     settled := settledLate ++ settledNow
     cycle
     signals := state.paper.db.signals
     signalMetrics := state.paper.db.signalMetrics
     pendingOrders := state.paper.engine.pendingOrders
     trades := state.paper.db.table
     rejections := state.rejectionTracker
     rejectionSummaries := state.paper.db.rejectionSummaries }, state)

end BacktestState

def resolutionSchedule (config : BacktestConfig) (db : DataDb) :
    Option ObservedResolutionSchedule :=
  match config.backtestSettlementMode with
  | .immediate => none
  | .observedMarketResolution => some (loadObservedResolutionSchedule db config.toConfig)

/-- Run one backtest over the provided historical interval. -/
def runBacktest {σ : Type} [FullStrategy σ] (options : BacktestOptions σ) (db : DataDb) :
    List ReplayRecord :=
  trace (BacktestState.step options.sqrt (resolutionSchedule options.config db) options.config)
    (.start options db) (tickGroups (db.loadTicks options.startTime options.endTime))

end BubaPaint
