import BubaPaint.Replay.Agreement
import BubaPaint.Strategies.LatencyArb

/-!
# Backtests and what comes later

Two databases with the same ticks up to some time should give the same backtest up to that time. They
do if the open price of every window that has a tick by then is in the data by then: the price is
looked up before the replay starts, and a window that is entered without a Binance price would show
the strategies one that arrives later.

Main results:

- Theorem `loadTicks_split`: early ticks are replayed before later ones
- Theorem `replayNativeOpenPrice_eq`: an open price that is known by then is the same
- Theorem `no_look_ahead`: the two backtests are the same up to then
- Theorem `open_price_looks_ahead`: a signal that a later price decides
-/

namespace BubaPaint

open Effects List

/-- The rows up to some time are stamped before the rows after it, in microseconds too. -/
def StampedInOrder (t : ℕ) (ticks : List RawTick) : Prop :=
  ∀ first ∈ ticks, ∀ second ∈ ticks, first.timestamp ≤ t → t < second.timestamp →
    first.sortUs < second.sortUs

instance (t : ℕ) (ticks : List RawTick) : Decidable (StampedInOrder t ticks) := by
  unfold StampedInOrder
  infer_instance

def RawTick.isBy (t : ℕ) (tick : RawTick) : Bool :=
  decide (tick.timestamp ≤ t)

namespace DataDb

variable {db : DataDb} {startTime endTime t : ℕ}

/-- Early ticks are replayed before later ones. -/
theorem loadTicks_split (h : StampedInOrder t (db.loadTicks startTime endTime)) :
    db.loadTicks startTime endTime =
      (db.loadTicks startTime endTime).filter (RawTick.isBy t) ++
        (db.loadTicks startTime endTime).filter fun tick => !tick.isBy t := by
  unfold loadTicks at h ⊢
  split at h
  · rename_i hcaptured
    have hmem : ∀ row ∈ db.replayRows startTime endTime, row.tick ∈
        (sortByKey ReplayRow.key (db.replayRows startTime endTime)).map fun row => row.tick := by
      intro row hrow
      exact mem_map_of_mem ((mem_insertionSort _).mpr hrow)
    have hseparates : Separates (fun first second : ReplayRow => KeyLe first.key second.key)
        (fun row => row.tick.isBy t) (db.replayRows startTime endTime) := by
      intro first hfirst second hsecond hearly hlate
      have hstamp := h first.tick (hmem first hfirst) second.tick (hmem second hsecond)
        (of_decide_eq_true hearly) (not_le.mp (of_decide_eq_false hlate))
      rw [← sortUs_of_mem_replayRows hfirst, ← sortUs_of_mem_replayRows hsecond] at hstamp
      exact ⟨keyLe_of_lt hstamp, not_keyLe_of_lt hstamp⟩
    rw [if_pos hcaptured, filter_map, filter_map, ← map_append]
    exact congrArg _ (insertionSort_eq_filter_append hseparates)
  · rename_i hnone
    have hseparates : Separates
        (fun first second : TickDataRow =>
          KeyLe (first.timestamp, 0, 0) (second.timestamp, 0, 0))
        (fun row => row.tick.isBy t)
        (db.tickData.filter fun row => tickBetween startTime endTime row.tick) := by
      intro first _ second _ hearly hlate
      have hstamp : first.timestamp < second.timestamp :=
        lt_of_le_of_lt (of_decide_eq_true hearly) (not_le.mp (of_decide_eq_false hlate))
      exact ⟨keyLe_of_lt hstamp, not_keyLe_of_lt hstamp⟩
    rw [if_neg hnone, filter_map, filter_map, ← map_append]
    exact congrArg _ (insertionSort_eq_filter_append hseparates)

/-! ## Open prices -/

variable (db startTime endTime t) in
/-- By some time it is clear which price a window opens with: the first one is in, or there is
none at all. -/
def OpenPriceKnown : Prop :=
  (∃ row ∈ db.tickDataBinancePrices startTime endTime, row.timestamp ≤ t) ∨
    db.tickDataBinancePrices startTime endTime = [] ∧
      ((∃ row ∈ db.feedEventBinancePrices startTime endTime, row.tick.timestamp ≤ t) ∨
        db.feedEventBinancePrices startTime endTime = [])

instance : Decidable (db.OpenPriceKnown startTime endTime t) := by
  unfold OpenPriceKnown
  infer_instance

theorem OpenPriceKnown.events (h : db.OpenPriceKnown startTime endTime t)
    (hnone : db.tickDataBinancePrices startTime endTime = []) :
    (∃ row ∈ db.feedEventBinancePrices startTime endTime, row.tick.timestamp ≤ t) ∨
      db.feedEventBinancePrices startTime endTime = [] := by
  rcases h with ⟨row, hrow, _⟩ | ⟨_, hevents⟩
  · rw [hnone] at hrow
    exact absurd hrow not_mem_nil
  · exact hevents

variable {db' : DataDb}

section Early

variable {ρ : Type} {key : ρ → ℕ × ℕ × ℕ} {rows rows' : List ρ}
  (hsame : rows.filter (fun row => decide ((key row).1 ≤ t)) =
    rows'.filter fun row => decide ((key row).1 ≤ t))

include hsame

theorem head?_sortByKey_of_early (hearly : ∃ row ∈ rows, (key row).1 ≤ t) :
    (sortByKey key rows).head? = (sortByKey key rows').head? := by
  have hseparates : ∀ rows : List ρ, Separates (fun first second => KeyLe (key first) (key second))
      (fun row => decide ((key row).1 ≤ t)) rows := by
    intro rows first _ second _ hearly hlate
    have hlt : (key first).1 < (key second).1 :=
      lt_of_le_of_lt (of_decide_eq_true hearly) (not_le.mp (of_decide_eq_false hlate))
    exact ⟨keyLe_of_lt hlt, not_keyLe_of_lt hlt⟩
  have hsome : rows.filter (fun row => decide ((key row).1 ≤ t)) ≠ [] := by
    obtain ⟨row, hrow, hle⟩ := hearly
    exact ne_nil_of_mem (mem_filter.mpr ⟨hrow, decide_eq_true hle⟩)
  unfold sortByKey
  rw [head?_insertionSort (hseparates rows) hsome,
    head?_insertionSort (hseparates rows') (hsame ▸ hsome), hsame]

theorem head?_sortByKey_of_known
    (hknown : (∃ row ∈ sortByKey key rows, (key row).1 ≤ t) ∨ sortByKey key rows = [])
    (hknown' : (∃ row ∈ sortByKey key rows', (key row).1 ≤ t) ∨ sortByKey key rows' = []) :
    (sortByKey key rows).head? = (sortByKey key rows').head? := by
  have hmem : ∀ rows : List ρ, ∀ row, row ∈ sortByKey key rows ↔ row ∈ rows :=
    fun rows row => mem_insertionSort _
  simp only [hmem] at hknown hknown'
  rcases hknown with hearly | hnone
  · exact head?_sortByKey_of_early hsame hearly
  · rcases hknown' with hearly | hnone'
    · exact (head?_sortByKey_of_early hsame.symm hearly).symm
    · rw [hnone, hnone']

end Early

/-- An open price that is known by some time is decided by the rows up to then. -/
theorem replayNativeOpenPrice_eq
    (htick : db.tickData.filter (fun row => decide (row.timestamp ≤ t)) =
      db'.tickData.filter fun row => decide (row.timestamp ≤ t))
    (hfeed : db.feedEvents.filter (fun row => row.tick.isBy t) =
      db'.feedEvents.filter fun row => row.tick.isBy t)
    (hknown : db.OpenPriceKnown startTime endTime t)
    (hknown' : db'.OpenPriceKnown startTime endTime t) :
    db.replayNativeOpenPrice startTime endTime = db'.replayNativeOpenPrice startTime endTime := by
  have hfirst : (db.tickDataBinancePrices startTime endTime).head? =
      (db'.tickDataBinancePrices startTime endTime).head? := by
    apply head?_sortByKey_of_known (t := t)
    · rw [filter_comm, htick, filter_comm]
    · exact hknown.imp_right And.left
    · exact hknown'.imp_right And.left
  unfold replayNativeOpenPrice
  rw [hfirst]
  cases hhead : (db'.tickDataBinancePrices startTime endTime).head? with
  | some row =>
    have hrow : row ∈ db'.tickDataBinancePrices startTime endTime :=
      mem_of_mem_head? hhead
    unfold tickDataBinancePrices sortByKey at hrow
    simp only [mem_insertionSort, mem_filter, Bool.and_eq_true] at hrow
    obtain ⟨price, hprice⟩ := Option.isSome_iff_exists.mp hrow.2.2
    simp [hprice]
  | none =>
    have hnone : db'.tickDataBinancePrices startTime endTime = [] :=
      List.head?_eq_none_iff.mp hhead
    have hnone' : db.tickDataBinancePrices startTime endTime = [] :=
      List.head?_eq_none_iff.mp (hfirst.trans hhead)
    have hfirstEvent : (db.feedEventBinancePrices startTime endTime).head? =
        (db'.feedEventBinancePrices startTime endTime).head? := by
      apply head?_sortByKey_of_known (t := t)
      · rw [filter_comm]
        refine (congrArg _ hfeed).trans ?_
        rw [filter_comm]
        rfl
      · exact hknown.events hnone'
      · exact hknown'.events hnone
    rw [hfirstEvent]

end DataDb

/-- One market with an outcome in two databases, without stored prices. -/
structure SameMarket (t : ℕ) (row row' : DataMarketRow) : Prop where
  window : row.window = row'.window
  unpriced : row.openPrice = none ∧ row.closePrice = none
  unpriced' : row'.openPrice = none ∧ row'.closePrice = none
  resolved : row.outcome.isSome
  resolved' : row'.outcome.isSome
  outcome : row.window.endTime ≤ t → row.outcome = row'.outcome

/-- Two databases that are the same up to some time. -/
structure SameUntil (startTime endTime t : ℕ) (db db' : DataDb) : Prop where
  markets : List.Forall₂ (SameMarket t) db.markets db'.markets
  ticks : (db.loadTicks startTime endTime).filter (RawTick.isBy t) =
    (db'.loadTicks startTime endTime).filter (RawTick.isBy t)
  feedEvents : db.feedEvents.filter (fun row => row.tick.isBy t) =
    db'.feedEvents.filter fun row => row.tick.isBy t
  tickData : db.tickData.filter (fun row => decide (row.timestamp ≤ t)) =
    db'.tickData.filter fun row => decide (row.timestamp ≤ t)

/-- By some time both databases show the open price of every window that has a tick by then. -/
def OpenPricesKnown (startTime endTime t : ℕ) (db db' : DataDb) : Prop :=
  ∀ row ∈ db.markets, ∀ tick ∈ db.loadTicks startTime endTime, tick.timestamp ≤ t →
    row.window.startTime ≤ tick.timestamp → tick.timestamp < row.window.endTime →
      db.OpenPriceKnown row.window.startTime row.window.endTime t ∧
        db'.OpenPriceKnown row.window.startTime row.window.endTime t

section Settlements

variable {db db' : DataDb} {startTime endTime t : ℕ}

/-- The windows of both runs are the same as far as their early ticks go. -/
theorem loadSettlements_same (h : SameUntil startTime endTime t db db')
    (hknown : OpenPricesKnown startTime endTime t db db') {times : List ℕ}
    (htimes : ∀ time ∈ times, ∃ tick ∈ db.loadTicks startTime endTime,
      tick.timestamp ≤ t ∧ tick.timestamp = time) :
    List.Forall₂ (SameWindow t times) (db.loadSettlements startTime endTime)
      (db'.loadSettlements startTime endTime) := by
  have hprices : ∀ row ∈ db.markets, ∀ time ∈ times, row.window.startTime ≤ time →
      time < row.window.endTime →
        db.replayNativeOpenPrice row.window.startTime row.window.endTime =
          db'.replayNativeOpenPrice row.window.startTime row.window.endTime := by
    intro row hrow time htime hstarted hopen
    obtain ⟨tick, htick, hearly, rfl⟩ := htimes time htime
    obtain ⟨hfirst, hsecond⟩ := hknown row hrow tick htick hearly hstarted hopen
    exact DataDb.replayNativeOpenPrice_eq h.tickData h.feedEvents hfirst hsecond
  have hmarkets := (forall₂_and_left _ _).mpr ⟨hprices, h.markets⟩
  unfold DataDb.loadSettlements
  rw [forall₂_map_left_iff, forall₂_map_right_iff]
  refine rel_filterMap ?_ (forall₂_insertionSort ?_ (rel_filter ?_ hmarkets))
  · intro row row' hrow
    obtain ⟨outcome, houtcome⟩ := Option.isSome_iff_exists.mp hrow.2.resolved
    obtain ⟨outcome', houtcome'⟩ := Option.isSome_iff_exists.mp hrow.2.resolved'
    unfold DataDb.settlementOfRow
    rw [houtcome, houtcome']
    refine .some ⟨hrow.2.window, fun time htime hstarted hopen => ?_, fun hover => ?_⟩
    · have hprice := hrow.1 time htime hstarted hopen
      simp only [DataDb.applyReplayPrices, ← hrow.2.window, hprice, hrow.2.unpriced.1,
        hrow.2.unpriced'.1]
    · have hsame := hrow.2.outcome hover
      rw [houtcome, houtcome'] at hsame
      exact Option.some.inj hsame
  · intro first first' second second' hfirst hsecond
    dsimp only
    rw [hfirst.2.window, hsecond.2.window]
  · intro row row' hrow
    dsimp only
    rw [hrow.2.window]

theorem start_agree {σ : Type} (options : BacktestOptions σ)
    (h : SameUntil options.startTime options.endTime t db db')
    (hknown : OpenPricesKnown options.startTime options.endTime t db db') {times : List ℕ}
    (htimes : ∀ time ∈ times, ∃ tick ∈ db.loadTicks options.startTime options.endTime,
      tick.timestamp ≤ t ∧ tick.timestamp = time) :
    BacktestState.Agree t times (.start options db) (.start options db') where
  paper := rfl
  circuitBreaker := rfl
  trendTracker := rfl
  rejectionTracker := rfl
  strategies := rfl
  feedState := rfl
  momentum := rfl
  windowManager := ⟨loadSettlements_same h hknown htimes, .none⟩
  pendingFirst := rfl
  pendingSecond := rfl

end Settlements

/-- Backtests do not look ahead: on two databases that are the same up to some time, with the open
prices of the windows reached by then known by then, they produce the same up to then. -/
theorem no_look_ahead {σ : Type} [FullStrategy σ] (options : BacktestOptions σ) (db db' : DataDb)
    (t : ℕ) (himmediate : options.config.backtestSettlementMode = .immediate)
    (hsame : SameUntil options.startTime options.endTime t db db')
    (hraw : ∀ tick ∈ db.loadTicks options.startTime options.endTime ++
      db'.loadTicks options.startTime options.endTime, tick.fidelity = .rawEvent)
    (hordered : StampedInOrder t (db.loadTicks options.startTime options.endTime) ∧
      StampedInOrder t (db'.loadTicks options.startTime options.endTime))
    (hknown : OpenPricesKnown options.startTime options.endTime t db db') :
    ((runBacktest options db).filter fun record => decide (record.timestamp ≤ t)) =
      (runBacktest options db').filter fun record => decide (record.timestamp ≤ t) := by
  unfold runBacktest resolutionSchedule
  rw [himmediate]
  have hgroups := tickGroups_of_rawEvent fun tick htick =>
    hraw tick (mem_append_left _ htick)
  have hgroups' := tickGroups_of_rawEvent fun tick htick =>
    hraw tick (mem_append_right _ htick)
  have hsplit := DataDb.loadTicks_split hordered.1
  have hsplit' := DataDb.loadTicks_split hordered.2
  rw [← hsame.ticks] at hsplit'
  have htimes : ∀ time ∈ ((db.loadTicks options.startTime options.endTime).filter
      (RawTick.isBy t)).map RawTick.timestamp,
      ∃ tick ∈ db.loadTicks options.startTime options.endTime,
        tick.timestamp ≤ t ∧ tick.timestamp = time := by
    intro time htime
    obtain ⟨tick, htick, rfl⟩ := mem_map.mp htime
    obtain ⟨hmem, hearly⟩ := mem_filter.mp htick
    exact ⟨tick, hmem, of_decide_eq_true hearly, rfl⟩
  rw [hgroups, hgroups', hsplit, hsplit', map_append, map_append]
  -- the records up to then come from the ticks up to then, which are the same
  apply filter_trace_eq (start_agree options hsame hknown htimes)
  · intro state group hgroup
    obtain ⟨tick, htick, rfl⟩ := mem_map.mp hgroup
    have hearly := (mem_filter.mp htick).2
    rwa [RawTick.isBy, ← timestamp_soleGroup] at hearly
  · intro state group hgroup
    rw [← map_append] at hgroup
    obtain ⟨tick, htick, rfl⟩ := mem_map.mp hgroup
    have hlate : tick.isBy t = false := by
      rw [mem_append, mem_filter, mem_filter] at htick
      simpa using htick.elim And.right And.right
    rwa [RawTick.isBy, ← timestamp_soleGroup] at hlate
  · intro first second group hgroup hagree
    obtain ⟨tick, htick, rfl⟩ := mem_map.mp hgroup
    have hearly := (mem_filter.mp htick).2
    rw [RawTick.isBy, ← timestamp_soleGroup] at hearly
    have htime : tick.soleGroup.timestamp ∈
        ((db.loadTicks options.startTime options.endTime).filter (RawTick.isBy t)).map
          RawTick.timestamp := by
      rw [timestamp_soleGroup]
      exact mem_map_of_mem htick
    exact hagree.step options.sqrt himmediate none htime (of_decide_eq_true hearly)

/-! ## A price that arrives later -/

def sampleBacktestOptions : BacktestOptions LatencyArbStrategy where
  startTime := 1000
  endTime := 10000
  startingBalance := 1000
  config :=
    { sampleConfig with
      executionMode := .paper
      minWindowTimeMs := 0
      maxSignalFeedAgeMs := 10000
      maxQuoteAgeMs := 10000
      latencyArbMomentumThreshold := 1 / 1000
      latencyArbMinAsk := 0
      latencyArbCooldownMs := 0
      latencyArbAdaptiveWindowMs := 1800000
      calmPersistenceMinAbsDistanceBps := 3 / 2
      calmPersistenceDistanceVolRatioThreshold := 3 / 2
      calmPersistenceMinAlignmentFraction := 3 / 5
      calmPersistenceMaxFairBias := 3 / 20
      calmPersistenceMinExpectedEdge := 1 / 100
      momentumWindowMs := 30000
      backtestSettlementMode := .immediate }
  strategies := [.new (1 / 1000)]
  sqrt := id

def sampleEventRow (timestamp : ℕ) (source eventType : String) (price bid ask : Option ℚ) :
    FeedEventRow where
  id := timestamp
  tick :=
    { timestamp := timestamp
      timestampUs := some (timestamp * 1000)
      source := source
      eventType := eventType
      price := price
      bid := bid
      ask := ask
      bidSize := some 1000
      askSize := some 1000
      fidelity := .rawEvent }

def sampleTradeRow (timestamp : ℕ) (price : ℚ) : FeedEventRow :=
  sampleEventRow timestamp "binance" "aggTrade" (some price) none none

def sampleQuoteRow (timestamp : ℕ) (source : String) : FeedEventRow :=
  sampleEventRow timestamp source "best_bid_ask" none (some (2 / 5)) (some (2 / 5))

def sampleDataDb (trades : List FeedEventRow) (laterPrice : ℚ) : DataDb where
  feedEvents :=
    trades ++
      [sampleQuoteRow 2100 "clob_up", sampleQuoteRow 2200 "clob_up",
        sampleQuoteRow 2300 "clob_down", sampleTradeRow 5000 laterPrice]
  clobReplayEvents := []
  clobReplayBlocks := []
  tickData := []
  markets :=
    [{ window := { sampleWindow "market" 302000 with startTime := 2000 }
       openPrice := none
       closePrice := none
       outcome := some .up }]
  resolvedTrades := []

theorem sampleDataDb_sameUntil (trades : List FeedEventRow) (laterPrice : ℚ)
    (hticks : ((sampleDataDb trades 100).loadTicks 1000 10000).filter (RawTick.isBy 2300) =
      ((sampleDataDb trades laterPrice).loadTicks 1000 10000).filter (RawTick.isBy 2300)) :
    SameUntil 1000 10000 2300 (sampleDataDb trades 100) (sampleDataDb trades laterPrice) where
  markets := .cons ⟨rfl, ⟨rfl, rfl⟩, ⟨rfl, rfl⟩, rfl, rfl, fun _ => rfl⟩ .nil
  ticks := hticks
  feedEvents := by
    unfold sampleDataDb
    simp [filter_append, RawTick.isBy, sampleTradeRow, sampleQuoteRow, sampleEventRow]
  tickData := rfl

/-- With a trade in the window before it is entered, the last trade does not matter. -/
theorem no_look_ahead_sample :
    ((runBacktest sampleBacktestOptions (sampleDataDb
        [sampleTradeRow 1000 100, sampleTradeRow 2050 101] 100)).filter fun record =>
          decide (record.timestamp ≤ 2300)) =
      (runBacktest sampleBacktestOptions (sampleDataDb
        [sampleTradeRow 1000 100, sampleTradeRow 2050 101] 102)).filter fun record =>
          decide (record.timestamp ≤ 2300) := by
  apply no_look_ahead sampleBacktestOptions _ _ 2300 rfl
  · exact sampleDataDb_sameUntil _ _ (by decide +kernel)
  · decide +kernel
  · decide +kernel
  · intro row hrow tick _ _ _ _
    rw [mem_singleton.mp hrow]
    decide +kernel

/-- Without one the last trade gives the window its open price, and so decides whether there is a
signal before it. -/
theorem open_price_looks_ahead :
    ¬ ∀ (options : BacktestOptions LatencyArbStrategy) (db db' : DataDb) (t : ℕ),
      options.config.backtestSettlementMode = .immediate →
      SameUntil options.startTime options.endTime t db db' →
      (∀ tick ∈ db.loadTicks options.startTime options.endTime ++
        db'.loadTicks options.startTime options.endTime, tick.fidelity = .rawEvent) →
      StampedInOrder t (db.loadTicks options.startTime options.endTime) ∧
        StampedInOrder t (db'.loadTicks options.startTime options.endTime) →
      ((runBacktest options db).filter fun record => decide (record.timestamp ≤ t)) =
        (runBacktest options db').filter fun record => decide (record.timestamp ≤ t) := by
  intro h
  have hsame := h sampleBacktestOptions
    (sampleDataDb [sampleTradeRow 1000 100, sampleTradeRow 1500 101] 100)
    (sampleDataDb [sampleTradeRow 1000 100, sampleTradeRow 1500 101] 102) 2300 rfl
    (sampleDataDb_sameUntil _ _ (by decide +kernel)) (by decide +kernel) (by decide +kernel)
  have hsignals := congrArg (fun records => records.map fun record => record.signals.length) hsame
  revert hsignals
  decide +kernel

end BubaPaint
