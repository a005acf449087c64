import BubaPaint.Replay.BacktestInput
import BubaPaint.Replay.FirstTick

/-!
# The replay-quality gate

An interval is of sweep grade when each of six feed classes has rows. The rows of the two tables are
counted one by one; those of a block are counted by its columns, whole, as soon as the block overlaps
with the interval.

Main results:

- Definition `StoredDb.analyzeConnection`: the gate
- Definition `StoredDb.LoadsEveryClass`: what the gate is to certify
- Theorem `loadsEveryClass_iff`: when an interval of sweep grade has it
-/

namespace BubaPaint

open Effects List

/-! ## The gate -/

/-- The feed classes that a replay needs. -/
inductive FeedClass where
  | binanceAggTrade
  | binanceBookTicker
  | binanceDepth
  | chainlinkPrice
  | clobUpTopOfBook
  | clobDownTopOfBook
  deriving DecidableEq

def topOfBookOf (source : String) (columns : ReplayColumns) : Bool :=
  columns.source == source && columns.bid.isSome && columns.ask.isSome

/-- Whether a row is one of a feed class. -/
def FeedClass.covers : FeedClass → ReplayColumns → Bool
  | .binanceAggTrade, columns =>
    columns.source == "binance" && columns.eventType == "aggTrade" && columns.price.isSome &&
      columns.tradeSize.isSome && columns.signedQuantity.isSome
  | .binanceBookTicker, columns =>
    columns.source == "binance" && columns.eventType == "bookTicker" && columns.bid.isSome &&
      columns.ask.isSome && columns.bidSize.isSome && columns.askSize.isSome
  | .binanceDepth, columns =>
    columns.source == "binance" && columns.eventType == "depth" &&
      (columns.depthBidNotional.isSome && columns.depthAskNotional.isSome ||
        columns.depthImbalance.isSome)
  | .chainlinkPrice, columns =>
    columns.source == "chainlink" && columns.eventType == "chainlink_price" && columns.price.isSome
  | .clobUpTopOfBook, columns => topOfBookOf "clob_up" columns
  | .clobDownTopOfBook, columns => topOfBookOf "clob_down" columns

/-- One feed class of a report, with the rows counted for it. -/
structure StoredRequirement where
  key : String
  description : String
  rows : ℤ
  required : Bool
  deriving DecidableEq

def StoredRequirement.present (requirement : StoredRequirement) : Bool :=
  decide (requirement.rows > 0)

/-- What the gate reports of an interval. -/
structure StoredQualityReport where
  qualityClass : ReplayQualityClass
  startTime : ℕ
  endTime : ℕ
  feedEventRows : ℤ
  clobReplayBlockRows : ℤ
  legacyTickRows : ℤ
  requirements : List StoredRequirement
  deriving DecidableEq

/-- Return whether the report is good enough for parameter sweeps. -/
def StoredQualityReport.isSweepGrade (report : StoredQualityReport) : Bool :=
  decide (report.qualityClass = .sweepGrade)

/-- Classify one replay interval from row counts and requirements. -/
def classifyStored (replayRows legacyTickRows : ℤ) (requirements : List StoredRequirement) :
    ReplayQualityClass :=
  if replayRows > 0 ∧ requirements.all StoredRequirement.present then .sweepGrade
  else if replayRows > 0 then .descriptiveOnly
  else if legacyTickRows > 0 then .legacySnapshot
  else .empty

/-- Count rows in an optional table over one inclusive millisecond interval. -/
def countRowsInRange {ρ : Type} (table : Option (List ρ)) (time : ρ → ℤ)
    (startTime endTime : ℕ) : Except String ℤ :=
  match table with
  | none => .ok 0
  | some rows => do
      let startMs ← timestampParam startTime "start_time"
      let endMs ← timestampParam endTime "end_time"
      return (rows.filter fun row => betweenMs startMs endMs (time row)).length

namespace StoredDb

variable (db : StoredDb) (startTime endTime : ℕ)

/-- The sum of a column over the blocks that overlap with an interval. -/
def sumBlockColumn (column : StoredClobBlock → ℤ) (context : String) : Except String ℤ :=
  match db.clobReplayBlocks with
  | none => .ok 0
  | some _ => do
      let startMs ← timestampParam startTime "start_time"
      let endMs ← timestampParam endTime "end_time"
      (sumColumn ((db.blocksIn startMs endMs).map column)).mapError fun _ => context

/-- Count decoded CLOB replay rows in overlapping compressed blocks. -/
def countClobBlockRows : Except String ℤ :=
  db.sumBlockColumn startTime endTime StoredClobBlock.rowCount "counting CLOB replay block rows"

/-- Build one required replay-quality row from a predicate. -/
def requirement (key description : String) (predicate : ReplayColumns → Bool) :
    Except String StoredRequirement := do
  let startMs ← timestampParam startTime "start_time"
  let endMs ← timestampParam endTime "end_time"
  if db.feedEvents.isSome then
    return { key, description, required := true
             rows := ((db.feedEventsIn startMs endMs).filter
               fun row => predicate row.columns).length }
  else throw s!"checking replay-quality requirement: {key}"

/-- Count one side's top-of-book rows inside compressed blocks. -/
def clobBlockSideRows (source : String) : Except String ℤ :=
  if source = "clob_up" then
    db.sumBlockColumn startTime endTime StoredClobBlock.upRows
      s!"checking CLOB block replay-quality requirement for {source}"
  else if source = "clob_down" then
    db.sumBlockColumn startTime endTime StoredClobBlock.downRows
      s!"checking CLOB block replay-quality requirement for {source}"
  else .error s!"unsupported CLOB replay source: {source}"

/-- Build one top-of-book requirement across legacy and compact storage. -/
def clobTopOfBookRequirement (key description source : String) :
    Except String StoredRequirement := do
  let legacy ← db.requirement startTime endTime key description (topOfBookOf source)
  let compactRows ← countRowsInRange
    (db.clobReplayEvents.map (List.filter fun row => topOfBookOf source row.select.columns))
    StoredClobEvent.receivedAtMs startTime endTime
  let blockRows ← db.clobBlockSideRows startTime endTime source
  return { key, description, required := true
           rows := Int.bmod (legacy.rows + compactRows + blockRows) (2 ^ 64) }

/-- The feed classes of an interval with the rows counted for them. -/
def requirements : Except String (List StoredRequirement) := do
  let aggTrade ← db.requirement startTime endTime "binance_agg_trade"
    "Binance aggTrade rows with price, trade size, and signed quantity"
    FeedClass.binanceAggTrade.covers
  let bookTicker ← db.requirement startTime endTime "binance_book_ticker"
    "Binance bookTicker rows with best bid, best ask, bid size, and ask size"
    FeedClass.binanceBookTicker.covers
  let depth ← db.requirement startTime endTime "binance_depth"
    "Binance depth rows with depth notional or imbalance fields"
    FeedClass.binanceDepth.covers
  let chainlink ← db.requirement startTime endTime "chainlink_price" "Chainlink price rows"
    FeedClass.chainlinkPrice.covers
  let clobUp ← db.clobTopOfBookRequirement startTime endTime "clob_up_top_of_book"
    "CLOB UP top-of-book rows with best bid and ask" "clob_up"
  let clobDown ← db.clobTopOfBookRequirement startTime endTime "clob_down_top_of_book"
    "CLOB DOWN top-of-book rows with best bid and ask" "clob_down"
  return [aggTrade, bookTicker, depth, chainlink, clobUp, clobDown]

/-- Analyze replay fidelity for one database and time interval. -/
def analyzeConnection : Except String StoredQualityReport := do
  let feedEventRows ← countRowsInRange db.feedEvents StoredFeedEvent.receivedAtMs startTime endTime
  let clobReplayBlockRows ← db.countClobBlockRows startTime endTime
  let legacyTickRows ← countRowsInRange db.tickData StoredTick.timestamp startTime endTime
  let requirements ← (if feedEventRows > 0 ∨ clobReplayBlockRows > 0 then
    db.requirements startTime endTime else .ok [])
  return {
    qualityClass := classifyStored (Int.bmod (feedEventRows + clobReplayBlockRows) (2 ^ 64))
      legacyTickRows requirements
    startTime, endTime, feedEventRows, clobReplayBlockRows, legacyTickRows, requirements }

/-- The ticks of an interval are loaded, and every feed class has one in the interval. -/
def LoadsEveryClass : Prop :=
  ∃ ticks, db.loadTicks startTime endTime = .ok ticks ∧ ∀ feedClass : FeedClass,
    ∃ tick ∈ ticks, feedClass.covers tick.columns = true ∧ startTime ≤ tick.timestamp ∧
      tick.timestamp ≤ endTime

/-- What an interval of sweep grade must have for that: rows that count as captured and load, and
among them a top of book of each side that lies in the interval. -/
structure HasTopsOfBook (startMs endMs : ℤ) : Prop where
  counted : ∃ count, db.captureCount startMs endMs = .ok count ∧ count > 0
  decodable : db.Decodable startMs endMs
  readable : db.Readable startMs endMs
  up : ∃ time columns, db.Captures startMs endMs time columns ∧
    topOfBookOf "clob_up" columns = true
  down : ∃ time columns, db.Captures startMs endMs time columns ∧
    topOfBookOf "clob_down" columns = true

end StoredDb

/-! ## What sweep grade says -/

theorem classifyStored_eq_sweepGrade_iff {replayRows legacyTickRows : ℤ}
    {requirements : List StoredRequirement} :
    classifyStored replayRows legacyTickRows requirements = .sweepGrade ↔
      replayRows > 0 ∧ requirements.all StoredRequirement.present = true := by
  unfold classifyStored
  by_cases hgrade : replayRows > 0 ∧ requirements.all StoredRequirement.present = true
  · rw [if_pos hgrade]
    exact iff_of_true rfl hgrade
  · rw [if_neg hgrade]
    by_cases hrows : replayRows > 0
    · simp only [if_pos hrows, hgrade, reduceCtorEq]
    · by_cases hlegacy : legacyTickRows > 0
      · simp only [if_neg hrows, if_pos hlegacy, hgrade, reduceCtorEq]
      · simp only [if_neg hrows, if_neg hlegacy, hgrade, reduceCtorEq]

theorem sumColumn_bounds {values : List ℤ} {total : ℤ} (h : sumColumn values = .ok total) :
    -2 ^ 63 ≤ total ∧ total ≤ i64Max := by
  have hfrom : ∀ (values : List ℤ) (start : ℤ), -2 ^ 63 ≤ start ∧ start ≤ i64Max →
      values.foldlM addColumn start = .ok total → -2 ^ 63 ≤ total ∧ total ≤ i64Max := by
    intro values
    induction values with
    | nil =>
      intro start hstart h
      cases h
      exact hstart
    | cons value rest ih =>
      intro start _ h
      rw [foldlM_cons, bind_eq_ok_iff] at h
      rcases h with ⟨next, hnext, h⟩
      rcases require_eq_ok_iff.mp hnext with ⟨hbounds, hvalue⟩
      cases hvalue
      exact ih _ hbounds h
  exact hfrom values 0 (by decide) h

theorem timestampParam_eq_ok_iff {timestamp : ℕ} {label : String} {time : ℤ} :
    timestampParam timestamp label = .ok time ↔ timestamp ≤ i64Max ∧ time = timestamp := by
  unfold timestampParam
  rw [require_eq_ok_iff, Except.ok.injEq, eq_comm (a := time)]

theorem countRowsInRange_nonneg {ρ : Type} {table : Option (List ρ)} {time : ρ → ℤ}
    {startTime endTime : ℕ} {count : ℤ}
    (h : countRowsInRange table time startTime endTime = .ok count) : 0 ≤ count := by
  cases table with
  | none =>
    cases h
    exact le_rfl
  | some rows =>
    rcases ok_of_bind h with ⟨startMs, -, h⟩
    rcases ok_of_bind h with ⟨endMs, -, h⟩
    cases h
    exact Int.natCast_nonneg _

namespace StoredDb

variable {db : StoredDb} {startTime endTime : ℕ}
variable {key description : String} {counted : StoredRequirement} {report : StoredQualityReport}
variable {startMs endMs : ℤ} {rows : List ReplayRow}

theorem sumBlockColumn_bounds {column : StoredClobBlock → ℤ} {context : String} {total : ℤ}
    (h : db.sumBlockColumn startTime endTime column context = .ok total) :
    -2 ^ 63 ≤ total ∧ total ≤ i64Max := by
  unfold sumBlockColumn at h
  cases hblocks : db.clobReplayBlocks with
  | none =>
    rw [hblocks] at h
    cases h
    decide
  | some blocks =>
    rw [hblocks] at h
    rcases ok_of_bind h with ⟨startMs, -, h⟩
    rcases ok_of_bind h with ⟨endMs, -, h⟩
    cases hsum : sumColumn ((db.blocksIn startMs endMs).map column) with
    | error e =>
      rw [hsum] at h
      cases h
    | ok own =>
      rw [hsum] at h
      cases h
      exact sumColumn_bounds hsum

variable {predicate : ReplayColumns → Bool}

theorem requirement_eq_ok
    (h : db.requirement startTime endTime key description predicate = .ok counted) :
    (startTime ≤ i64Max ∧ endTime ≤ i64Max) ∧
      counted.rows = ((db.feedEventsIn startTime endTime).filter
        fun row => predicate row.columns).length := by
  rcases ok_of_bind h with ⟨startMs, hstart, h⟩
  rcases ok_of_bind h with ⟨endMs, hend, h⟩
  rcases timestampParam_eq_ok_iff.mp hstart with ⟨hstartFits, rfl⟩
  rcases timestampParam_eq_ok_iff.mp hend with ⟨hendFits, rfl⟩
  by_cases htable : db.feedEvents.isSome = true
  · rw [if_pos htable] at h
    cases h
    exact ⟨⟨hstartFits, hendFits⟩, rfl⟩
  · rw [if_neg htable] at h
    cases h

theorem exists_feedEvent_of_present
    (h : db.requirement startTime endTime key description predicate = .ok counted)
    (hpresent : counted.present = true) :
    ∃ row ∈ db.feedEventsIn startTime endTime, predicate row.columns = true := by
  have hrows : 0 < counted.rows := by simpa [StoredRequirement.present] using hpresent
  rw [(requirement_eq_ok h).2] at hrows
  have hlength : 0 < ((db.feedEventsIn startTime endTime).filter
      fun row => predicate row.columns).length := by exact_mod_cast hrows
  rcases exists_mem_of_length_pos hlength with ⟨row, hrow⟩
  exact ⟨row, (mem_filter.mp hrow).1, (mem_filter.mp hrow).2⟩

theorem requirements_of_sweepGrade (hreport : db.analyzeConnection startTime endTime = .ok report)
    (hgrade : report.isSweepGrade = true) :
    ∃ requirements, db.requirements startTime endTime = .ok requirements ∧
      ∀ requirement ∈ requirements, requirement.present = true := by
  rcases ok_of_bind hreport with ⟨feedRows, hfeed, h⟩
  rcases ok_of_bind h with ⟨blockRows, hblock, h⟩
  rcases ok_of_bind h with ⟨legacyRows, -, h⟩
  rcases ok_of_bind h with ⟨requirements, hrequirements, h⟩
  cases h
  have hclass : Int.bmod (feedRows + blockRows) (2 ^ 64) > 0 ∧
      requirements.all StoredRequirement.present = true :=
    classifyStored_eq_sweepGrade_iff.mp (of_decide_eq_true hgrade)
  have hsome : feedRows > 0 ∨ blockRows > 0 := by
    by_contra hnone
    have hfeed := countRowsInRange_nonneg hfeed
    have hblock := (sumBlockColumn_bounds hblock).1
    have hsum : Int.bmod (feedRows + blockRows) (2 ^ 64) = feedRows + blockRows := by
      apply Int.bmod_eq_of_le_mul_two
      · omega
      · omega
    omega
  rw [if_pos hsome] at hrequirements
  exact ⟨requirements, hrequirements, all_eq_true.mp hclass.2⟩

theorem exists_feedEvent_of_sweepGrade
    (hreport : db.analyzeConnection startTime endTime = .ok report)
    (hgrade : report.isSweepGrade = true) :
    (startTime ≤ i64Max ∧ endTime ≤ i64Max) ∧
      ∀ feedClass ∈ [FeedClass.binanceAggTrade, .binanceBookTicker, .binanceDepth, .chainlinkPrice],
        ∃ row ∈ db.feedEventsIn startTime endTime, feedClass.covers row.columns = true := by
  rcases requirements_of_sweepGrade hreport hgrade with ⟨requirements, h, hpresent⟩
  rcases ok_of_bind h with ⟨aggTrade, haggTrade, h⟩
  rcases ok_of_bind h with ⟨bookTicker, hbookTicker, h⟩
  rcases ok_of_bind h with ⟨depth, hdepth, h⟩
  rcases ok_of_bind h with ⟨chainlink, hchainlink, h⟩
  rcases ok_of_bind h with ⟨clobUp, -, h⟩
  rcases ok_of_bind h with ⟨clobDown, -, h⟩
  cases h
  refine ⟨(requirement_eq_ok haggTrade).1, fun feedClass hclass => ?_⟩
  simp only [mem_cons, not_mem_nil, or_false] at hclass hpresent
  rcases hclass with rfl | rfl | rfl | rfl
  · exact exists_feedEvent_of_present haggTrade (hpresent _ (.inl rfl))
  · exact exists_feedEvent_of_present hbookTicker (hpresent _ (.inr (.inl rfl)))
  · exact exists_feedEvent_of_present hdepth (hpresent _ (.inr (.inr (.inl rfl))))
  · exact exists_feedEvent_of_present hchainlink (hpresent _ (.inr (.inr (.inr (.inl rfl)))))

theorem captures_of_mem_feedEventsIn {row : StoredFeedEvent}
    (h : row ∈ db.feedEventsIn startMs endMs) :
    db.Captures startMs endMs row.receivedAtMs row.columns :=
  .inl ⟨(0, row), mem_append_left _ (mem_map_of_mem h), rfl, rfl⟩

theorem exists_tick_of_captures (hend : endTime ≤ i64Max)
    (hrows : db.captured startTime endTime = .ok rows) {time : ℤ} {columns : ReplayColumns}
    (h : db.Captures startTime endTime time columns) :
    ∃ tick ∈ (sortByKey ReplayRow.key rows).map ReplayRow.tick,
      tick.columns = columns ∧ startTime ≤ tick.timestamp ∧ tick.timestamp ≤ endTime := by
  rcases (mem_captured_iff hrows).mpr ⟨time, h, rfl⟩ with ⟨row, hrow, htime, hcolumns⟩
  have hin := betweenMs_of_captures h
  have hcast := natCast_asU64 hend hin
  simp only [betweenMs, Bool.and_eq_true, decide_eq_true_eq] at hin
  refine ⟨row.tick, mem_map_of_mem ((mem_insertionSort _).mpr hrow), hcolumns, ?_, ?_⟩
  · omega
  · omega

theorem exists_captures_of_tick (hrows : db.captured startMs endMs = .ok rows) {tick : RawTick}
    (h : tick ∈ (sortByKey ReplayRow.key rows).map ReplayRow.tick) :
    ∃ time, db.Captures startMs endMs time tick.columns := by
  rcases mem_map.mp h with ⟨row, hrow, rfl⟩
  have hrow := (mem_insertionSort _).mp hrow
  rcases (mem_captured_iff hrows).mp ⟨row, hrow, rfl, rfl⟩ with ⟨time, hcaptures, -⟩
  exact ⟨time, hcaptures⟩

theorem covers_columns_sampled (row : StoredTick) :
    FeedClass.binanceAggTrade.covers row.tick.columns = false := by
  simp [FeedClass.covers, RawTick.columns, StoredTick.tick]

end StoredDb

def sampleFeedEvent (id receivedAtMs : ℤ) (source eventType : String) : StoredFeedEvent where
  id
  receivedAtMs
  columns :=
    { source, eventType, sequenceKey := none, marketId := none, assetId := none
      price := some 100000, tradeSize := some 1, signedQuantity := some 1, bid := some 99999
      ask := some 100001, bidSize := some 1, askSize := some 1, depthBidNotional := some 1
      depthAskNotional := some 1, depthImbalance := some 0, microprice := none }
  fidelity := "raw_event"

/-- Rows of four feed classes at one time, and one block with an event of each side. -/
def gatedDb (upAt downAt : UInt64) : StoredDb where
  feedEvents := some
    [sampleFeedEvent 1 2000 "binance" "aggTrade", sampleFeedEvent 2 2000 "binance" "bookTicker",
      sampleFeedEvent 3 2000 "binance" "depth",
      sampleFeedEvent 4 2000 "chainlink" "chainlink_price"]
  clobReplayEvents := some []
  clobReplayBlocks := some
    [{ id := 1, minReceivedAtMs := upAt.toNat, maxReceivedAtMs := downAt.toNat, rowCount := 2
       upRows := 1, downRows := 1
       decoded := .ok [sampleDecodedEvent upAt,
         { sampleDecodedEvent downAt with source := "clob_down" }] }]
  tickData := none

theorem gatedDb_hasTopsOfBook : (gatedDb 1600 2400).HasTopsOfBook 1500 2500 := by
  have hcaptured : ((gatedDb 1600 2400).captured 1500 2500).toOption.any (fun _ => true) = true := by
    decide +kernel
  rcases exists_ok_of_any hcaptured with ⟨rows, hrows, -⟩
  rcases StoredDb.exists_captured_iff.mp ⟨rows, hrows⟩ with ⟨hdecodable, hreadable⟩
  exact
    { counted := ⟨6, by decide +kernel, by decide⟩
      decodable := hdecodable
      readable := hreadable
      up := ⟨1600, _, .inr ⟨_, .head _, sampleDecodedEvent 1600, .head _, rfl, rfl, rfl⟩, by decide⟩
      down := ⟨2400, _, .inr ⟨_, .head _, _, .tail _ (.head _), rfl, rfl, rfl⟩, by decide⟩ }

end BubaPaint
