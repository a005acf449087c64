import BubaPaint.Decision.Trackers
import BubaPaint.Library.KeyedTable
import BubaPaint.Library.Scripts

/-!
# The upgrade of a historical run database

A run database of the old kind has ticks, markets, signals, trades and their results. Its upgrade
fills in what later versions store besides: the metadata of the markets, one feed event for each
tick, the market of each signal, and how each trade was executed. The passes of the upgrade are
written one statement at a time, and a marker is set at the end.
-/

namespace BubaPaint

open Effects

/-! ## Rows -/

/-- Where a tick comes from. -/
inductive TickSource where
  | binance
  | chainlink
  | clobUp
  | clobDown
  deriving DecidableEq

/-- One row of `tick_data`. -/
structure HistoryTick where
  timestamp : ℕ
  source : TickSource
  price : Option ℚ
  bid : Option ℚ
  ask : Option ℚ
  bidSize : Option ℚ
  askSize : Option ℚ
  deriving DecidableEq

/-- One row of `feed_events`, as far as the upgrade fills it. -/
structure HistoryFeedEvent where
  receivedAtMs : ℕ
  eventAtMs : ℕ
  source : TickSource
  eventType : String
  (marketId assetId : Option String := none)
  (price bestBid bestAsk bidSize askSize : Option ℚ := none)
  payloadJson : Option String := none
  fidelity : String
  deriving DecidableEq

/-- A market as the metadata are looked up for it. -/
structure HistoryMarketRow where
  marketId : String
  conditionId : String
  slug : String
  question : String
  upTokenId : String
  downTokenId : String
  endTime : ℕ
  deriving DecidableEq

/-- The window of a market. -/
structure HistoryWindow extends HistoryMarketRow where
  startTime : ℕ
  deriving DecidableEq

/-- One row of `markets`. -/
structure HistoryMarket extends HistoryWindow where
  (outcome polymarketOutcome resolutionSource feeProfile : Option String := none)
  (orderMinSize orderPriceMinTickSize makerBaseFee takerBaseFee rewardsMinSize
    rewardsMaxSpread : Option ℚ := none)
  feesEnabled : Option Bool := none
  feeScheduleJson : Option String := none
  acceptingOrders : Option Bool := none
  acceptingOrdersTimestamp : Option String := none
  clearBookOnStart : Option Bool := none
  deriving DecidableEq

/-- What a venue says about a market. -/
structure MarketMetadata where
  resolutionSource : Option String := none
  (orderMinSize orderPriceMinTickSize makerBaseFee takerBaseFee rewardsMinSize
    rewardsMaxSpread : Option ℚ := none)
  feesEnabled : Option Bool := none
  feeScheduleJson : Option String := none
  acceptingOrders : Option Bool := none
  acceptingOrdersTimestamp : Option String := none
  clearBookOnStart : Option Bool := none
  deriving DecidableEq

/-- One row of `signals`. -/
structure HistorySignal where
  id : ℕ
  timestamp : ℕ
  strategy : String
  direction : SignalDirection
  marketId : Option String
  executionFidelity : Option String
  deriving DecidableEq

/-- What an old trade has always had. -/
structure LegacyTrade where
  id : ℕ
  timestamp : ℕ
  marketId : String
  strategy : String
  side : SignalDirection
  entryPrice : ℚ
  size : ℚ
  deriving DecidableEq

/-- One row of `simulated_trades`. -/
structure HistoryTrade extends LegacyTrade where
  (requestedPrice requestedSize filledSize avgFillPrice : Option ℚ := none)
  (fillStatus fillReason executionFidelity executionMode : Option String := none)
  fillPrice : Option ℚ := none
  signalId : Option ℕ := none
  executionGroupId : Option String := none
  deriving DecidableEq

/-- One row of `trade_results`. -/
structure HistoryTradeResult where
  tradeId : ℕ
  pnl0pct : ℚ
  feeAmount : Option ℚ
  pnlNet : Option ℚ
  settlementStatus : Option String
  deriving DecidableEq

/-- The tables of a run database, and when its upgrade was completed. -/
structure HistoryDb where
  tickData : List HistoryTick
  markets : KeyedTable (fun market : HistoryMarket => market.marketId)
  feedEvents : List HistoryFeedEvent
  signals : KeyedTable HistorySignal.id
  trades : KeyedTable (fun trade : HistoryTrade => trade.id)
  results : KeyedTable HistoryTradeResult.tradeId
  completedAt : Option ℕ

def HistoryDb.windows (db : HistoryDb) : List HistoryWindow :=
  db.markets.rows.map (·.toHistoryWindow)

def HistoryDb.legacyTrades (db : HistoryDb) : List LegacyTrade :=
  db.trades.rows.map (·.toLegacyTrade)

def HistoryWindow.covers (window : HistoryWindow) (timestamp : ℕ) : Bool :=
  window.startTime ≤ timestamp && timestamp ≤ window.endTime

/-- Load the historical market rows eligible for metadata backfill. -/
def loadMarketRows (windows : List HistoryWindow) : List HistoryMarketRow :=
  ((windows.filter (·.slug ≠ "")).insertionSort (·.startTime ≤ ·.startTime)).map (·.toHistoryMarketRow)

/-- The merged market metadata of both venues. -/
def mergedMetadata (gammaMeta clobMeta : MarketMetadata) : MarketMetadata where
  resolutionSource := gammaMeta.resolutionSource
  orderMinSize := gammaMeta.orderMinSize.or clobMeta.orderMinSize
  orderPriceMinTickSize := gammaMeta.orderPriceMinTickSize.or clobMeta.orderPriceMinTickSize
  makerBaseFee := gammaMeta.makerBaseFee.or clobMeta.makerBaseFee
  takerBaseFee := gammaMeta.takerBaseFee.or clobMeta.takerBaseFee
  rewardsMinSize := gammaMeta.rewardsMinSize.or clobMeta.rewardsMinSize
  rewardsMaxSpread := gammaMeta.rewardsMaxSpread.or clobMeta.rewardsMaxSpread
  feesEnabled := gammaMeta.feesEnabled.or clobMeta.feesEnabled
  feeScheduleJson := gammaMeta.feeScheduleJson.or clobMeta.feeScheduleJson
  acceptingOrders := gammaMeta.acceptingOrders.or clobMeta.acceptingOrders
  acceptingOrdersTimestamp :=
    gammaMeta.acceptingOrdersTimestamp.or clobMeta.acceptingOrdersTimestamp
  clearBookOnStart := gammaMeta.clearBookOnStart.or clobMeta.clearBookOnStart

/-- Persist the merged market metadata in a row. -/
def HistoryMarket.updateMetadata (metadata : MarketMetadata) (market : HistoryMarket) :
    HistoryMarket :=
  { market with
    outcome := market.outcome.or market.polymarketOutcome
    resolutionSource := metadata.resolutionSource.or market.resolutionSource
    feeProfile := (some "crypto").or market.feeProfile
    orderMinSize := metadata.orderMinSize.or market.orderMinSize
    orderPriceMinTickSize := metadata.orderPriceMinTickSize.or market.orderPriceMinTickSize
    makerBaseFee := metadata.makerBaseFee.or market.makerBaseFee
    takerBaseFee := metadata.takerBaseFee.or market.takerBaseFee
    rewardsMinSize := metadata.rewardsMinSize.or market.rewardsMinSize
    rewardsMaxSpread := metadata.rewardsMaxSpread.or market.rewardsMaxSpread
    feesEnabled := metadata.feesEnabled.or market.feesEnabled
    feeScheduleJson := metadata.feeScheduleJson.or market.feeScheduleJson
    acceptingOrders := metadata.acceptingOrders.or market.acceptingOrders
    acceptingOrdersTimestamp :=
      metadata.acceptingOrdersTimestamp.or market.acceptingOrdersTimestamp
    clearBookOnStart := metadata.clearBookOnStart.or market.clearBookOnStart }

def HistoryTick.event (tick : HistoryTick) (eventType : String) (marketId assetId : Option String) :
    HistoryFeedEvent where
  receivedAtMs := tick.timestamp
  eventAtMs := tick.timestamp
  source := tick.source
  eventType := eventType
  marketId := marketId
  assetId := assetId
  price := tick.price
  bestBid := tick.bid
  bestAsk := tick.ask
  bidSize := tick.bidSize
  askSize := tick.askSize
  payloadJson := none
  fidelity := "legacy_snapshot"

def priceEvents (db : HistoryDb) : List HistoryFeedEvent :=
  (db.tickData.filter fun tick => tick.source = .binance || tick.source = .chainlink).map
    fun tick =>
      tick.event (if tick.source = .binance then "binance_tick" else "chainlink_price") none none

/-- The events of the ticks of one token, joined to the windows that cover them. -/
def clobEvents (source : TickSource) (token : HistoryWindow → String) (db : HistoryDb) :
    List HistoryFeedEvent :=
  (db.tickData.filter (·.source = source)).flatMap fun tick =>
    (db.windows.filter (·.covers tick.timestamp)).map fun window =>
      tick.event "clob_snapshot" (some window.marketId) (some (token window))

def insertEvents (select : HistoryDb → List HistoryFeedEvent) (db : HistoryDb) : HistoryDb :=
  { db with feedEvents := db.feedEvents ++ select db }

def eventSelections : List (HistoryDb → List HistoryFeedEvent) :=
  [priceEvents, clobEvents .clobUp (·.upTokenId), clobEvents .clobDown (·.downTokenId)]

/-- The market whose window covers a time, the latest if there are several. -/
def marketAt (windows : List HistoryWindow) (timestamp : ℕ) : Option String :=
  ((windows.filter (·.covers timestamp)).insertionSort
    (fun window window' => window'.startTime ≤ window.startTime)).head?.map (·.marketId)

/-- Backfill the market and the replay fidelity of a signal. -/
def HistorySignal.backfill (windows : List HistoryWindow) (signal : HistorySignal) :
    HistorySignal :=
  { signal with
    marketId := signal.marketId.or (marketAt windows signal.timestamp)
    executionFidelity := signal.executionFidelity.or (some "legacy_snapshot") }

def HistoryTrade.backfillDefaults (trade : HistoryTrade) : HistoryTrade :=
  { trade with
    requestedPrice := trade.requestedPrice.or (some trade.entryPrice)
    requestedSize := trade.requestedSize.or (some trade.size)
    filledSize := trade.filledSize.or (some trade.size)
    avgFillPrice := trade.avgFillPrice.or (some trade.entryPrice)
    fillStatus := trade.fillStatus.or (some "legacy_assumed_full")
    fillReason := trade.fillReason.or (some "snapshot_backfill")
    executionFidelity := trade.executionFidelity.or (some "legacy_snapshot")
    executionMode := trade.executionMode.or (some "paper")
    fillPrice := trade.fillPrice.or (some trade.entryPrice) }

def timeDistance (timestamp timestamp' : ℕ) : ℕ :=
  (timestamp - timestamp') + (timestamp' - timestamp)

/-- The closest persisted signal for a trade, the latest one if there are several. -/
def closestSignal (signals : List HistorySignal) (trade : LegacyTrade) : Option ℕ :=
  ((signals.filter fun signal =>
      signal.strategy = trade.strategy && signal.direction = trade.side &&
        signal.marketId.getD trade.marketId = trade.marketId &&
          timeDistance signal.timestamp trade.timestamp ≤ 1000).insertionSort
    fun signal signal' =>
      timeDistance signal.timestamp trade.timestamp < timeDistance signal'.timestamp trade.timestamp ∨
        timeDistance signal.timestamp trade.timestamp =
          timeDistance signal'.timestamp trade.timestamp ∧ signal'.id ≤ signal.id).head?.map (·.id)

/-- Legacy spread trades of one market and time. -/
abbrev SpreadGroup : Type :=
  (String × String × ℕ) × List (ℕ × SignalDirection)

def LegacyTrade.spreadKey (trade : LegacyTrade) : String × String × ℕ :=
  (trade.marketId, trade.strategy, trade.timestamp)

def spreadRows (trades : List LegacyTrade) : List LegacyTrade :=
  (trades.filter (·.strategy = "spread-capture")).insertionSort (·.id ≤ ·.id)

def spreadGroup (trades : List LegacyTrade) (key : String × String × ℕ) : SpreadGroup :=
  (key, ((spreadRows trades).filter (·.spreadKey = key)).map fun trade => (trade.id, trade.side))

def spreadGroups (trades : List LegacyTrade) : List SpreadGroup :=
  ((spreadRows trades).map (·.spreadKey)).dedup.map (spreadGroup trades)

/-- The name of the group, if it is a pair of both sides. -/
def SpreadGroup.groupId (group : SpreadGroup) : Option String :=
  match group.2 with
  | [first, second] =>
    if group.2.any (·.2 = .up) && group.2.any (·.2 = .down) then
      some s!"legacy-spread-{min first.1 second.1}"
    else none
  | _ => none

/-- The fee of a legacy trade under the profile of its market. -/
def legacyFee (config : Config) (trade : LegacyTrade) (market : Option HistoryMarket) : ℚ :=
  let endTime := (market.map (·.endTime)).getD 0
  let feeParams := resolveFeeParams config
    (some
      { marketId := trade.marketId, upTokenId := "", downTokenId := "", startTime := endTime - 300000,
        endTime := endTime, slug := "", feeProfile := market.bind (·.feeProfile),
        orderMinSize := none, orderPriceMinTickSize := none, feesEnabled := none,
        feeSchedule := none }) endTime
  computeTakerFee trade.entryPrice trade.size feeParams.feeRate feeParams.exponent

def HistoryTradeResult.updateFee (feeAmount : ℚ) (result : HistoryTradeResult) :
    HistoryTradeResult :=
  { result with
    feeAmount := some feeAmount
    pnlNet := some (result.pnl0pct - feeAmount)
    settlementStatus := result.settlementStatus.or (some "confirmed") }

/-! ## Passes -/

/-- What an upgrade does not determine: in which order the metadata of the markets arrive, in which
order the groups of spread trades are visited, and when it ends. -/
structure UpgradeCourse where
  markets : List HistoryMarketRow → List HistoryMarketRow
  markets_perm : ∀ rows, (markets rows).Perm rows
  groups : List SpreadGroup → List SpreadGroup
  groups_perm : ∀ groups', (groups groups').Perm groups'
  nowMs : ℕ

section Passes

variable (fetchMarketMetadata : HistoryMarketRow → MarketMetadata × MarketMetadata)
    (config : Config)
variable (course : UpgradeCourse)

def marketStatements (changes : List (RowChange fun market : HistoryMarket => market.marketId)) :
    List (HistoryDb → HistoryDb) :=
  changes.map fun c db => { db with markets := db.markets.change c }

def tradeStatements (changes : List (RowChange fun trade : HistoryTrade => trade.id)) :
    List (HistoryDb → HistoryDb) :=
  changes.map fun c db => { db with trades := db.trades.change c }

def resultStatements (changes : List (RowChange HistoryTradeResult.tradeId)) :
    List (HistoryDb → HistoryDb) :=
  changes.map fun c db => { db with results := db.results.change c }

def metadataChange (market : HistoryMarketRow) :
    RowChange fun market : HistoryMarket => market.marketId where
  row := market.marketId
  apply := (·.updateMetadata
    (mergedMetadata (fetchMarketMetadata market).1 (fetchMarketMetadata market).2))
  keeps _ := rfl

def backfillMarkets : Pass HistoryDb := fun db =>
  marketStatements
    ((course.markets (loadMarketRows db.windows)).map (metadataChange fetchMarketMetadata))

def synthesizeFeedEvents : Pass HistoryDb := fun db =>
  if db.feedEvents.length > 0 then [] else eventSelections.map insertEvents

def backfillSignals : Pass HistoryDb := fun _ =>
  [fun db =>
    { db with
      signals := db.signals.update
        (fun signal => signal.marketId.isNone || signal.executionFidelity.isNone)
        (·.backfill db.windows) }]

def HistoryDb.completedSignals (db : HistoryDb) : KeyedTable HistorySignal.id :=
  db.signals.rewrite (·.backfill db.windows)

/-- Populate default execution-audit fields for legacy simulated trades. -/
def backfillTradeDefaults : Pass HistoryDb := fun _ =>
  [fun db => { db with trades := db.trades.update (fun _ => true) (·.backfillDefaults) }]

def signalIdChange (signals : List HistorySignal) (trade : HistoryTrade) :
    Option (RowChange fun trade : HistoryTrade => trade.id) :=
  (closestSignal signals trade.toLegacyTrade).map fun signalId =>
    { row := trade.id
      apply := ({ · with signalId := some signalId })
      keeps := fun _ => rfl }

/-- Match legacy trades to the closest persisted signal when missing. -/
def backfillMissingSignalIds : Pass HistoryDb := fun db =>
  tradeStatements ((db.trades.rows.filter (·.signalId.isNone)).filterMap
    (signalIdChange db.signals.rows))

/-- Reconstruct the execution group of paired legacy spread trades. -/
def groupChanges (group : SpreadGroup) : List (RowChange fun trade : HistoryTrade => trade.id) :=
  match group.groupId with
  | none => []
  | some groupId => group.2.map fun member =>
    { row := member.1
      apply := fun trade =>
        { trade with executionGroupId := trade.executionGroupId.or (some groupId) }
      keeps := fun _ => rfl }

/-- Reconstruct spread execution groups for paired legacy spread trades. -/
def backfillSpreadExecutionGroups : Pass HistoryDb := fun db =>
  tradeStatements ((course.groups (spreadGroups db.legacyTrades)).flatMap groupChanges)

def feeChange (db : HistoryDb) (result : HistoryTradeResult) :
    Option (RowChange HistoryTradeResult.tradeId) :=
  (db.legacyTrades.find? (·.id = result.tradeId)).map fun trade =>
    { row := result.tradeId
      apply := (·.updateFee (legacyFee config trade (db.markets.find? trade.marketId)))
      keeps := fun _ => rfl }

def backfillTradeResultFees : Pass HistoryDb := fun db =>
  resultStatements (db.results.rows.filterMap (feeChange config db))

def markCompleted : Pass HistoryDb := fun _ =>
  [fun db => { db with completedAt := some course.nowMs }]

def backfillPasses : Script HistoryDb :=
  [backfillMarkets fetchMarketMetadata course, synthesizeFeedEvents, backfillSignals,
    backfillTradeDefaults, backfillMissingSignalIds, backfillSpreadExecutionGroups course,
    backfillTradeResultFees config]

def upgradePasses : Script HistoryDb :=
  backfillPasses fetchMarketMetadata config course ++ [markCompleted course]

/-- Upgrade one run database if the marker is not present yet. -/
def upgradeOneDb (db : HistoryDb) : HistoryDb :=
  if db.completedAt.isSome then db
  else (upgradePasses fetchMarketMetadata config course).run db

/-- An upgrade that crashes after the given number of statements. -/
def crashedUpgrade (statements : ℕ) (db : HistoryDb) : HistoryDb :=
  if db.completedAt.isSome then db
  else (upgradePasses fetchMarketMetadata config course).cut statements db

end Passes

end BubaPaint
