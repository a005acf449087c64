import BubaPaint.Replay.DataDb

/-!
# Inputs of a backtest

Before an interval of a database is trusted it is analyzed: the replay needs rows of six kinds, and
the backtest needs settled windows with prices and at least one tick. Every deficiency is a blocker.
-/

namespace BubaPaint

/-! ## Reports -/

/-- How well an interval can be replayed. -/
inductive ReplayQualityClass where
  | sweepGrade
  | descriptiveOnly
  | legacySnapshot
  | empty
  deriving DecidableEq

def ReplayQualityClass.asStr : ReplayQualityClass → String
  | .sweepGrade => "sweep_grade"
  | .descriptiveOnly => "descriptive_only"
  | .legacySnapshot => "legacy_snapshot"
  | .empty => "empty"

/-- One kind of row that a replay needs. -/
structure ReplayQualityRequirement where
  key : String
  description : String
  rows : ℕ
  required : Bool
  deriving DecidableEq

def ReplayQualityRequirement.present (requirement : ReplayQualityRequirement) : Bool :=
  decide (requirement.rows > 0)

/-- What an interval has for a replay. -/
structure ReplayQualityReport where
  qualityClass : ReplayQualityClass
  startTime : ℕ
  endTime : ℕ
  feedEventRows : ℕ
  clobReplayBlockRows : ℕ
  legacyTickRows : ℕ
  requirements : List ReplayQualityRequirement

namespace ReplayQualityReport

variable (report : ReplayQualityReport)

/-- Return whether the report is good enough for parameter sweeps. -/
def isSweepGrade : Bool :=
  report.qualityClass == .sweepGrade

def missingRequired : List ReplayQualityRequirement :=
  report.requirements.filter fun requirement => requirement.required && !requirement.present

/-- Return a concise blocking error for non-sweep-grade inputs. -/
def blockingError : String :=
  let missing := report.missingRequired.map fun requirement => requirement.key
  if missing.isEmpty then
    s!"input DB is not sweep-grade: replay_quality={report.qualityClass.asStr}"
  else
    s!"input DB is not sweep-grade: replay_quality={report.qualityClass.asStr} " ++
      "missing=" ++ String.intercalate "," missing ++
      ". Run `buba-paint validate-replay-data` for details."

end ReplayQualityReport

/-- Classify one replay interval from row counts and requirements. -/
def classify (replayRows legacyTickRows : ℕ) (requirements : List ReplayQualityRequirement) :
    ReplayQualityClass :=
  if replayRows > 0 ∧ requirements.all ReplayQualityRequirement.present then .sweepGrade
  else if replayRows > 0 then .descriptiveOnly
  else if legacyTickRows > 0 then .legacySnapshot
  else .empty

/-- Whether an interval can be backtested. -/
inductive BacktestInputClass where
  | backtestReady
  | notReady
  deriving DecidableEq

def BacktestInputClass.asStr : BacktestInputClass → String
  | .backtestReady => "backtest_ready"
  | .notReady => "not_backtest_ready"

/-- What an interval has for a backtest. -/
structure BacktestInputReport where
  startTime : ℕ
  endTime : ℕ
  inputClass : BacktestInputClass
  replayQuality : ReplayQualityReport
  settledWindows : ℕ
  missingOpenPrices : ℕ
  missingClosePrices : ℕ
  dryRunTicks : ℕ
  blockers : List String

/-- Return whether the interval is ready for trusted backtesting. -/
def BacktestInputReport.isBacktestReady (report : BacktestInputReport) : Bool :=
  report.inputClass == .backtestReady

def BacktestInputReport.blockingErrorForBacktest (report : BacktestInputReport) : String :=
  if report.blockers.isEmpty then
    s!"input DB is not backtest-ready: {report.inputClass.asStr}"
  else
    "input DB is not backtest-ready: " ++ String.intercalate "," report.blockers ++
      ". Run `buba-paint validate-backtest-input` for details."

def ClobReplayBlock.upRows (block : ClobReplayBlock) : ℕ :=
  (block.events.filter fun event => event.source == "clob_up").length

def ClobReplayBlock.downRows (block : ClobReplayBlock) : ℕ :=
  block.rowCount - block.upRows

namespace DataDb

variable (db : DataDb) (startTime endTime : ℕ)

def countFeedEvents : ℕ :=
  db.feedEvents.countP fun row => tickBetween startTime endTime row.tick

def countClobBlockRows : ℕ :=
  ((db.blocksBetween startTime endTime).map ClobReplayBlock.rowCount).sum

def countTickData : ℕ :=
  db.tickData.countP fun row => tickBetween startTime endTime row.tick

/-- Build one required replay-quality row from a predicate. -/
def requirement (key description : String) (predicate : RawTick → Bool) :
    ReplayQualityRequirement where
  key
  description
  rows := db.feedEvents.countP fun row =>
    tickBetween startTime endTime row.tick && predicate row.tick
  required := true

/-- Count one side's top-of-book rows inside compressed blocks. -/
def clobBlockSideRows (sideRows : ClobReplayBlock → ℕ) : ℕ :=
  ((db.blocksBetween startTime endTime).map sideRows).sum

/-- Build one top-of-book requirement across legacy and compact storage. -/
def clobTopOfBookRequirement (key description source : String)
    (sideRows : ClobReplayBlock → ℕ) : ReplayQualityRequirement :=
  let quoted := fun tick : RawTick => tick.source == source && tick.bid.isSome && tick.ask.isSome
  let legacy := db.requirement startTime endTime key description quoted
  let compactRows := db.clobReplayEvents.countP fun row =>
    tickBetween startTime endTime row.tick && quoted row.tick
  { legacy with
    rows := legacy.rows + compactRows + db.clobBlockSideRows startTime endTime sideRows }

/-- The rows that a replay needs. -/
def requirements : List ReplayQualityRequirement :=
  [db.requirement startTime endTime "binance_agg_trade"
      "Binance aggTrade rows with price, trade size, and signed quantity" fun tick =>
        tick.source == "binance" && tick.eventType == "aggTrade" && tick.price.isSome &&
          tick.tradeSize.isSome && tick.signedQuantity.isSome,
    db.requirement startTime endTime "binance_book_ticker"
      "Binance bookTicker rows with best bid, best ask, bid size, and ask size" fun tick =>
        tick.source == "binance" && tick.eventType == "bookTicker" && tick.bid.isSome &&
          tick.ask.isSome && tick.bidSize.isSome && tick.askSize.isSome,
    db.requirement startTime endTime "binance_depth"
      "Binance depth rows with depth notional or imbalance fields" fun tick =>
        tick.source == "binance" && tick.eventType == "depth" &&
          (tick.depthBidNotional.isSome && tick.depthAskNotional.isSome ||
            tick.depthImbalance.isSome),
    db.requirement startTime endTime "chainlink_price" "Chainlink price rows" fun tick =>
      tick.source == "chainlink" && tick.eventType == "chainlink_price" && tick.price.isSome,
    db.clobTopOfBookRequirement startTime endTime "clob_up_top_of_book"
      "CLOB UP top-of-book rows with best bid and ask" "clob_up" ClobReplayBlock.upRows,
    db.clobTopOfBookRequirement startTime endTime "clob_down_top_of_book"
      "CLOB DOWN top-of-book rows with best bid and ask" "clob_down" ClobReplayBlock.downRows]

/-- Analyze replay fidelity for one database and time interval. -/
def analyzeReplayQuality : ReplayQualityReport :=
  let feedEventRows := db.countFeedEvents startTime endTime
  let clobReplayBlockRows := db.countClobBlockRows startTime endTime
  let legacyTickRows := db.countTickData startTime endTime
  let requirements :=
    if feedEventRows > 0 ∨ clobReplayBlockRows > 0 then db.requirements startTime endTime else []
  { qualityClass := classify (feedEventRows + clobReplayBlockRows) legacyTickRows requirements
    startTime, endTime, feedEventRows, clobReplayBlockRows, legacyTickRows, requirements }

/-- How much of an interval is replayed on trial. -/
def dryRunMs : ℕ := 60000

def capturedTimes : List ℕ :=
  ((db.feedEvents.map fun row => row.tick) ++ (db.clobReplayEvents.map fun row => row.tick) ++
      ((db.blocksBetween startTime endTime).flatMap fun block =>
        block.events.map blockEventTick)).filterMap fun tick =>
    if tickBetween startTime endTime tick then some tick.timestamp else none

/-- Return the first replay tick timestamp inside a database interval. -/
def firstTickTimestamp : Option ℕ :=
  (db.capturedTimes startTime endTime).min?.or
    ((db.tickData.map TickDataRow.tick).filterMap fun tick =>
      if tickBetween startTime endTime tick then some tick.timestamp else none).min?

/-- Load a bounded replay slice to prove that ticks can be materialized. -/
def dryRunTickCount : ℕ :=
  match db.firstTickTimestamp startTime endTime with
  | none => 0
  | some firstTick => (db.loadTicks firstTick (min (firstTick + dryRunMs) endTime)).length

/-- Analyze one database for end-to-end backtest readiness. -/
def analyzeBacktestInput : BacktestInputReport :=
  let replayQuality := db.analyzeReplayQuality startTime endTime
  let settlements := db.loadSettlements startTime endTime
  let settledWindows := settlements.length
  let missingOpenPrices := settlements.countP fun window => decide (window.openPrice ≤ 0)
  let missingClosePrices := settlements.countP fun window => decide (window.closePrice ≤ 0)
  let dryRunTicks := db.dryRunTickCount startTime endTime
  let blockers :=
    (if replayQuality.isSweepGrade then [] else [replayQuality.blockingError]) ++
    (if settledWindows = 0 then ["no_settled_windows"] else []) ++
    (if missingOpenPrices > 0 then [s!"missing_open_prices={missingOpenPrices}"] else []) ++
    (if missingClosePrices > 0 then [s!"missing_close_prices={missingClosePrices}"] else []) ++
    (if dryRunTicks = 0 then ["dry_run_no_ticks"] else [])
  { startTime, endTime
    inputClass := if blockers.isEmpty then .backtestReady else .notReady
    replayQuality, settledWindows, missingOpenPrices, missingClosePrices, dryRunTicks, blockers }

/-- Fail unless the database interval is ready for trusted backtesting. -/
def validateInput : Except String BacktestInputReport :=
  let report := db.analyzeBacktestInput startTime endTime
  if report.isBacktestReady then .ok report else .error report.blockingErrorForBacktest

variable {db startTime endTime}

theorem captureCount_pos_of_isSweepGrade
    (h : (db.analyzeReplayQuality startTime endTime).isSweepGrade = true) :
    0 < db.captureCount startTime endTime := by
  simp only [ReplayQualityReport.isSweepGrade, analyzeReplayQuality, classify, beq_iff_eq] at h
  have hrows :
      0 < db.countFeedEvents startTime endTime + db.countClobBlockRows startTime endTime := by
    by_contra hnone
    simp only [gt_iff_lt, hnone, false_and, if_false] at h
    split at h <;> contradiction
  unfold countFeedEvents countClobBlockRows ClobReplayBlock.rowCount at hrows
  unfold captureCount ClobReplayBlock.rowCount
  omega

theorem eq_zero_of_not_blocked {count : ℕ} {blocker : String}
    (h : (if count > 0 then [blocker] else []) = []) : count = 0 := by
  by_contra hne
  rw [if_pos (Nat.pos_of_ne_zero hne)] at h
  contradiction

theorem validateInput_eq_ok {report : BacktestInputReport}
    (h : db.validateInput startTime endTime = .ok report) :
    0 < db.captureCount startTime endTime ∧
      ∀ settlement ∈ db.loadSettlements startTime endTime,
        0 < settlement.openPrice ∧ 0 < settlement.closePrice := by
  have hready : (db.analyzeBacktestInput startTime endTime).isBacktestReady = true := by
    unfold validateInput at h
    by_contra hnot
    simp [hnot] at h
  simp only [BacktestInputReport.isBacktestReady, analyzeBacktestInput, beq_iff_eq,
    ite_eq_left_iff, reduceCtorEq, imp_false, not_not, List.isEmpty_iff,
    List.append_eq_nil_iff] at hready
  obtain ⟨⟨⟨⟨hgrade, _⟩, hopen⟩, hclose⟩, _⟩ := hready
  refine ⟨captureCount_pos_of_isSweepGrade hgrade, fun settlement hmem => ⟨?_, ?_⟩⟩
  · simpa using List.countP_eq_zero.mp (eq_zero_of_not_blocked hopen) settlement hmem
  · simpa using List.countP_eq_zero.mp (eq_zero_of_not_blocked hclose) settlement hmem

end DataDb

end BubaPaint
