import BubaPaint.Library.Timelines
import BubaPaint.Replay.BacktestInput

/-!
# Prepared inputs

Large backtests read a derived database instead of the captured one. An interval is copied table by
table: rows of the top of the book in the old generic shape become compact rows, ahead of the rows
that are compact already, and blocks are kept as they are. Columns and tables that the derived
database lacks stay behind: the prices of a window and the sampled ticks.
-/

namespace BubaPaint

open Effects

/-- Whether a generic row has the top of the book of an outcome. -/
def RawTick.isTopOfBookClob (tick : RawTick) : Bool :=
  (tick.source == "clob_up" || tick.source == "clob_down") &&
    (tick.eventType == "book" || tick.eventType == "price_change" ||
      tick.eventType == "best_bid_ask") &&
    tick.bid.isSome && tick.ask.isSome && tick.bidSize.isSome && tick.askSize.isSome

/-- A generic row in the compact shape, which has no columns for trades and depth. -/
def FeedEventRow.asCompact (id : ℕ) (row : FeedEventRow) : ClobReplayEventRow where
  id
  receivedAtMs := row.tick.timestamp
  receivedAtUs := row.tick.timestampUs
  source := row.tick.source
  eventType := row.tick.eventType
  sequenceKey := row.tick.sequenceKey
  marketId := row.tick.marketId
  assetId := row.tick.assetId
  bestBid := row.tick.bid
  bestAsk := row.tick.ask
  bidSize := row.tick.bidSize
  askSize := row.tick.askSize
  microprice := row.tick.microprice
  fidelity := row.tick.fidelity

def ClobReplayEventRow.withId (id : ℕ) (row : ClobReplayEventRow) : ClobReplayEventRow :=
  { row with id }

def ClobReplayBlock.withId (id : ℕ) (block : ClobReplayBlock) : ClobReplayBlock :=
  { block with id }

/-- A copied market: the derived database has no columns for its prices. -/
def DataMarketRow.copied (row : DataMarketRow) : DataMarketRow :=
  { row with openPrice := none, closePrice := none }

/-- Whether a compact row meets the constraints of its table. -/
def ClobReplayEventRow.isStorable (row : ClobReplayEventRow) : Bool :=
  (row.source == "clob_up" || row.source == "clob_down") &&
    row.bestBid.isSome && row.bestAsk.isSome && row.bidSize.isSome && row.askSize.isSome

namespace DataDb

variable (db : DataDb) (openedAt : ResolvedTradeRow → ℕ) (startTime endTime : ℕ)

def marketOverlaps (row : DataMarketRow) : Bool :=
  decide (row.window.endTime ≥ startTime) && decide (row.window.startTime ≤ endTime)

def blockOverlaps (block : ClobReplayBlock) : Bool :=
  decide (block.maxReceivedAtMs ≥ startTime) && decide (block.minReceivedAtMs ≤ endTime)

/-- Copy overlapping market windows into the prepared database. -/
def copyMarkets : List DataMarketRow :=
  (db.markets.filter (marketOverlaps startTime endTime)).map DataMarketRow.copied

/-- Copy generic feed rows that have no top of the book of an outcome. -/
def copyGenericFeedEvents : List FeedEventRow :=
  db.feedEvents.filter fun row =>
    tickBetween startTime endTime row.tick && !row.tick.isTopOfBookClob

/-- The generic rows of an interval that have the top of the book of an outcome. -/
def legacyClobRows : List FeedEventRow :=
  db.feedEvents.filter fun row =>
    tickBetween startTime endTime row.tick && row.tick.isTopOfBookClob

def copyLegacyClobRowsAsCompact : List ClobReplayEventRow :=
  numberFrom FeedEventRow.asCompact 1 (db.legacyClobRows startTime endTime)

def copyCompactClobRows (nextId : ℕ) : List ClobReplayEventRow :=
  numberFrom ClobReplayEventRow.withId nextId
    (db.clobReplayEvents.filter fun row => tickBetween startTime endTime row.tick)

def copyClobReplayBlocks : List ClobReplayBlock :=
  numberFrom ClobReplayBlock.withId 1 (db.clobReplayBlocks.filter (blockOverlaps startTime endTime))

/-- Copy the settled trades that were opened or resolved in the interval. -/
def copyResolvedTrades : List ResolvedTradeRow :=
  db.resolvedTrades.filter fun trade =>
    (decide (startTime ≤ openedAt trade) && decide (openedAt trade ≤ endTime)) ||
      (decide (startTime ≤ trade.resolvedAt) && decide (trade.resolvedAt ≤ endTime))

/-- The derived database of an interval. -/
def preparedCopy : DataDb :=
  let legacy := db.copyLegacyClobRowsAsCompact startTime endTime
  { feedEvents := db.copyGenericFeedEvents startTime endTime
    clobReplayEvents := legacy ++ db.copyCompactClobRows startTime endTime (legacy.length + 1)
    clobReplayBlocks := db.copyClobReplayBlocks startTime endTime
    tickData := []
    markets := db.copyMarkets startTime endTime
    resolvedTrades := db.copyResolvedTrades openedAt startTime endTime }

def prepareBacktestInput : Except String DataDb :=
  let output := db.preparedCopy openedAt startTime endTime
  if ¬(output.markets.map fun row => row.window.marketId).Nodup then .error "copying markets"
  else if ¬output.clobReplayEvents.all ClobReplayEventRow.isStorable then
    .error "copying compact clob_replay_events"
  else do
    let _ ← output.validateInput startTime endTime
    return output

variable {db openedAt startTime endTime}

theorem prepareBacktestInput_eq_ok {output : DataDb}
    (h : db.prepareBacktestInput openedAt startTime endTime = .ok output) :
    output = db.preparedCopy openedAt startTime endTime ∧
      ∃ report, output.validateInput startTime endTime = .ok report := by
  simp only [prepareBacktestInput] at h
  split at h
  · contradiction
  · split at h
    · contradiction
    · obtain ⟨report, hreport, h⟩ := ok_of_bind h
      cases h
      exact ⟨rfl, report, hreport⟩

theorem prepareBacktestInput_eq_ok_of_isOk
    (h : (db.prepareBacktestInput openedAt startTime endTime).isOk = true) :
    db.prepareBacktestInput openedAt startTime endTime =
      .ok (db.preparedCopy openedAt startTime endTime) := by
  cases hresult : db.prepareBacktestInput openedAt startTime endTime with
  | error error => simp [hresult, Except.isOk, Except.toBool] at h
  | ok output => rw [(prepareBacktestInput_eq_ok hresult).1]

end DataDb

end BubaPaint
