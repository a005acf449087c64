import BubaPaint.Library.StableSort
import BubaPaint.Replay.Ticks
import BubaPaint.Replay.Windows
import BubaPaint.Storage.ClobReplayBlocks

/-!
# The data database of a backtest

A backtest reads captured events from three tables, or sampled ticks if there are none, and its
windows from the markets that have an outcome. The open price of a window is its first Binance
price in the data, whenever that arrived. A missing table is an empty one, a missing column holds
nothing, and every block decodes.
-/

namespace BubaPaint

open Effects

/-! ## Rows -/

/-- One row of `feed_events`. -/
structure FeedEventRow where
  id : ℕ
  tick : RawTick
  deriving DecidableEq

/-- One row of `clob_replay_events`. -/
structure ClobReplayEventRow where
  id : ℕ
  receivedAtMs : ℕ
  receivedAtUs : Option ℕ
  source : String
  eventType : String
  sequenceKey : Option String
  marketId : Option String
  assetId : Option String
  bestBid : Option ℚ
  bestAsk : Option ℚ
  bidSize : Option ℚ
  askSize : Option ℚ
  microprice : Option ℚ
  fidelity : ReplayFidelity
  deriving DecidableEq

/-- One row of `clob_replay_blocks`, with its events decoded. -/
structure ClobReplayBlock where
  id : ℕ
  minReceivedAtMs : ℕ
  maxReceivedAtMs : ℕ
  events : List (DecodedClobReplayEvent ℚ)

def ClobReplayBlock.rowCount (block : ClobReplayBlock) : ℕ :=
  block.events.length

/-- One row of `tick_data`. -/
structure TickDataRow where
  id : ℕ
  timestamp : ℕ
  source : String
  price : Option ℚ
  bid : Option ℚ
  ask : Option ℚ
  bidSize : Option ℚ
  askSize : Option ℚ
  deriving DecidableEq

/-- One row of `markets`. -/
structure DataMarketRow where
  window : MarketWindow
  openPrice : Option ℚ
  closePrice : Option ℚ
  outcome : Option SignalDirection

/-- One settled trade of the captured run: its market and when it was resolved. -/
structure ResolvedTradeRow where
  marketId : String
  resolvedAt : ℕ

/-- The database a backtest reads. -/
structure DataDb where
  feedEvents : List FeedEventRow
  clobReplayEvents : List ClobReplayEventRow
  clobReplayBlocks : List ClobReplayBlock
  tickData : List TickDataRow
  markets : List DataMarketRow
  resolvedTrades : List ResolvedTradeRow

/-- One replay row plus deterministic ordering metadata. -/
structure ReplayRow where
  sortUs : ℕ
  storageOrder : ℕ
  rowId : ℕ
  tick : RawTick
  deriving DecidableEq

def ReplayRow.key (row : ReplayRow) : ℕ × ℕ × ℕ :=
  (row.sortUs, row.storageOrder, row.rowId)

def RawTick.sortUs (tick : RawTick) : ℕ :=
  tick.timestampUs.getD (tick.timestamp * 1000)

def FeedEventRow.replayRow (row : FeedEventRow) : ReplayRow where
  sortUs := row.tick.sortUs
  storageOrder := 0
  rowId := row.id
  tick := row.tick

def ClobReplayEventRow.tick (row : ClobReplayEventRow) : RawTick where
  timestamp := row.receivedAtMs
  timestampUs := row.receivedAtUs
  source := row.source
  eventType := row.eventType
  sequenceKey := row.sequenceKey
  marketId := row.marketId
  assetId := row.assetId
  price := none
  tradeSize := none
  signedQuantity := none
  bid := row.bestBid
  ask := row.bestAsk
  bidSize := row.bidSize
  askSize := row.askSize
  depthBidNotional := none
  depthAskNotional := none
  depthImbalance := none
  microprice := row.microprice
  fidelity := row.fidelity

def ClobReplayEventRow.replayRow (row : ClobReplayEventRow) : ReplayRow where
  sortUs := row.tick.sortUs
  storageOrder := 1
  rowId := row.id
  tick := row.tick

def blockEventTick (event : DecodedClobReplayEvent ℚ) : RawTick where
  timestamp := event.receivedAtMs.toNat
  timestampUs := event.receivedAtUs.map UInt64.toNat
  source := event.source
  eventType := event.eventType
  sequenceKey := event.sequenceKey
  marketId := event.marketId
  assetId := event.assetId
  price := none
  tradeSize := none
  signedQuantity := none
  bid := some event.bestBid
  ask := some event.bestAsk
  bidSize := some event.bidSize
  askSize := some event.askSize
  depthBidNotional := none
  depthAskNotional := none
  depthImbalance := none
  microprice := event.microprice
  fidelity := event.fidelity

def ClobReplayBlock.replayRows (block : ClobReplayBlock) : List ReplayRow :=
  block.events.zipIdx.map fun (event, index) =>
    let tick := blockEventTick event
    { sortUs := tick.sortUs
      storageOrder := 2
      rowId := block.id * 10000000 + index
      tick }

def TickDataRow.tick (row : TickDataRow) : RawTick where
  timestamp := row.timestamp
  timestampUs := some (row.timestamp * 1000)
  source := row.source
  eventType := "legacy_snapshot"
  sequenceKey := none
  marketId := none
  assetId := none
  price := row.price
  tradeSize := none
  signedQuantity := none
  bid := row.bid
  ask := row.ask
  bidSize := row.bidSize
  askSize := row.askSize
  depthBidNotional := none
  depthAskNotional := none
  depthImbalance := none
  microprice := none
  fidelity := .legacySnapshot

def sortByKey {ρ : Type} (key : ρ → ℕ × ℕ × ℕ) (rows : List ρ) : List ρ :=
  rows.insertionSort fun first second => KeyLe (key first) (key second)

namespace DataDb

variable (db : DataDb) (startTime endTime : ℕ)

def blocksBetween : List ClobReplayBlock :=
  sortByKey (fun block => (block.minReceivedAtMs, block.id, 0))
    (db.clobReplayBlocks.filter fun block =>
      decide (block.maxReceivedAtMs ≥ startTime) && decide (block.minReceivedAtMs ≤ endTime))

def tickBetween (tick : RawTick) : Bool :=
  decide (startTime ≤ tick.timestamp) && decide (tick.timestamp ≤ endTime)

/-- The captured rows of an interval, one table after the other. -/
def replayRows : List ReplayRow :=
  ((db.feedEvents.map FeedEventRow.replayRow ++
      db.clobReplayEvents.map ClobReplayEventRow.replayRow) ++
    (db.blocksBetween startTime endTime).flatMap ClobReplayBlock.replayRows).filter
      fun row => tickBetween startTime endTime row.tick

def captureCount : ℕ :=
  (db.feedEvents.countP fun row => tickBetween startTime endTime row.tick) +
    (db.clobReplayEvents.countP fun row => tickBetween startTime endTime row.tick) +
    ((db.blocksBetween startTime endTime).map fun block => block.rowCount).sum

def loadTicks : List RawTick :=
  if db.captureCount startTime endTime > 0 then
    (sortByKey ReplayRow.key (db.replayRows startTime endTime)).map fun row => row.tick
  else
    (sortByKey (fun row => (row.timestamp, 0, 0)) (db.tickData.filter fun row =>
      tickBetween startTime endTime row.tick)).map TickDataRow.tick

variable {db startTime endTime} in
theorem sortUs_of_mem_replayRows {row : ReplayRow} (h : row ∈ db.replayRows startTime endTime) :
    row.sortUs = row.tick.sortUs := by
  unfold replayRows at h
  simp only [List.mem_filter, List.mem_append, List.mem_map, List.mem_flatMap,
    ClobReplayBlock.replayRows, Prod.exists] at h
  rcases h.1 with (⟨event, _, rfl⟩ | ⟨event, _, rfl⟩) | ⟨block, _, event, index, _, rfl⟩
  · rfl
  · rfl
  · rfl

def inWindow (startTime endTime timestamp : ℕ) : Bool :=
  decide (startTime ≤ timestamp) && decide (timestamp < endTime)

/-- The sampled Binance prices of a window in the order of their times. -/
def tickDataBinancePrices : List TickDataRow :=
  sortByKey (fun row => (row.timestamp, row.id, 0)) (db.tickData.filter fun row =>
    row.source == "binance" && inWindow startTime endTime row.timestamp && row.price.isSome)

/-- The Binance trades of a window in the order of their times. -/
def feedEventBinancePrices : List FeedEventRow :=
  sortByKey (fun row => (row.tick.timestamp, row.tick.sortUs, row.id))
    (db.feedEvents.filter fun row =>
      row.tick.source == "binance" && row.tick.eventType == "aggTrade" &&
        inWindow startTime endTime row.tick.timestamp && row.tick.price.isSome)

/-- Return the first native Binance price inside one market window. -/
def replayNativeOpenPrice : Option ℚ :=
  ((db.tickDataBinancePrices startTime endTime).head?.bind fun row => row.price).or
    ((db.feedEventBinancePrices startTime endTime).head?.bind fun row => row.tick.price)

/-- Return the last native Binance price inside one market window. -/
def replayNativeClosePrice : Option ℚ :=
  ((db.tickDataBinancePrices startTime endTime).getLast?.bind fun row => row.price).or
    ((db.feedEventBinancePrices startTime endTime).getLast?.bind fun row => row.tick.price)

/-- Prefer run-native Binance prices when replaying pulled run data. -/
def applyReplayPrices (settlement : MarketSettlement) : MarketSettlement :=
  let { startTime, endTime, .. } := settlement.window
  { settlement with
    openPrice := (db.replayNativeOpenPrice startTime endTime).getD settlement.openPrice
    closePrice :=
      if settlement.closePrice ≤ 0 then
        (db.replayNativeClosePrice startTime endTime).getD settlement.closePrice
      else settlement.closePrice }

def settlementOfRow (row : DataMarketRow) : Option MarketSettlement :=
  row.outcome.map fun outcome =>
    { window := row.window
      openPrice := row.openPrice.getD 0
      closePrice := row.closePrice.getD 0
      outcome }

/-- Load settled market windows that overlap with the requested replay interval. -/
def loadSettlements : List MarketSettlement :=
  ((sortByKey (fun row => (row.window.startTime, 0, 0)) (db.markets.filter fun row =>
    decide (row.window.endTime ≥ startTime) && decide (row.window.startTime ≤ endTime))).filterMap
      settlementOfRow).map db.applyReplayPrices

end DataDb

end BubaPaint
