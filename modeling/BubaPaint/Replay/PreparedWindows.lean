import BubaPaint.Replay.BacktestPrepare

/-!
# Windows of prepared inputs

A window takes its open price from the first Binance price in the data and, if none is stored, its
close price from the last. A prepared copy has no stored prices and no sampled ticks, and of the
trades only those of the interval, so both prices come from these.
-/

namespace BubaPaint

open Effects List

namespace DataDb

variable (db : DataDb) (startTime endTime : ℕ)

/-- The Binance trades of a window that are in an interval, in the order of their times. -/
def heldTrades (window : MarketWindow) : List FeedEventRow :=
  (db.feedEventBinancePrices window.startTime window.endTime).filter fun row =>
    tickBetween startTime endTime row.tick

/-- The price of the first trade of a window that is in an interval. -/
def heldOpenPrice (window : MarketWindow) : Option ℚ :=
  (db.heldTrades startTime endTime window).head?.bind fun row => row.tick.price

/-- The price of the last trade of a window that is in an interval. -/
def heldClosePrice (window : MarketWindow) : Option ℚ :=
  (db.heldTrades startTime endTime window).getLast?.bind fun row => row.tick.price

/-- The close price of a market in the source: the stored one, or the last Binance price. -/
def knownClosePrice (row : DataMarketRow) : Option ℚ :=
  if row.closePrice.getD 0 ≤ 0 then
    db.replayNativeClosePrice row.window.startTime row.window.endTime
  else row.closePrice

/-- What keeps the prices of the windows of an interval when it is prepared. -/
structure KeepsPrices : Prop where
  /-- The first Binance price of a window is that of its first trade in the interval. -/
  openPrices : ∀ row ∈ db.markets, marketOverlaps startTime endTime row = true →
    row.outcome.isSome = true →
      db.replayNativeOpenPrice row.window.startTime row.window.endTime =
        db.heldOpenPrice startTime endTime row.window
  /-- The close price of a window is that of its last trade in the interval. -/
  closePrices : ∀ row ∈ db.markets, marketOverlaps startTime endTime row = true →
    row.outcome.isSome = true →
      db.knownClosePrice row = db.heldClosePrice startTime endTime row.window

variable {db startTime endTime} {openedAt : ResolvedTradeRow → ℕ}
variable {window : MarketWindow} {price : ℚ} {row : DataMarketRow}

theorem isSome_price_of_mem_feedEventBinancePrices {row : FeedEventRow} {windowStart windowEnd : ℕ}
    (h : row ∈ db.feedEventBinancePrices windowStart windowEnd) : row.tick.price.isSome = true := by
  rw [feedEventBinancePrices, sortByKey, mem_insertionSort, mem_filter] at h
  exact (Bool.and_eq_true_iff.mp h.2).2

theorem isTopOfBookClob_of_binance {tick : RawTick} (h : tick.source = "binance") :
    tick.isTopOfBookClob = false := by
  simp [RawTick.isTopOfBookClob, h]

/-- The trades that are left of a window. -/
theorem feedEventBinancePrices_preparedCopy (window : MarketWindow) :
    (db.preparedCopy openedAt startTime endTime).feedEventBinancePrices
        window.startTime window.endTime = db.heldTrades startTime endTime window := by
  unfold heldTrades feedEventBinancePrices sortByKey
  rw [filter_insertionSort_of_total, filter_filter]
  congr 1
  simp only [preparedCopy, copyGenericFeedEvents, filter_filter]
  apply filter_congr
  intro row _
  by_cases hsource : row.tick.source = "binance"
  · rw [isTopOfBookClob_of_binance hsource, Bool.not_false, Bool.and_true, Bool.and_comm]
  · have hnot : (row.tick.source == "binance") = false := beq_eq_false_iff_ne.mpr hsource
    simp only [hnot, Bool.false_and, Bool.and_false]

theorem replayNativeOpenPrice_preparedCopy (window : MarketWindow) :
    (db.preparedCopy openedAt startTime endTime).replayNativeOpenPrice
        window.startTime window.endTime = db.heldOpenPrice startTime endTime window := by
  unfold replayNativeOpenPrice heldOpenPrice
  rw [feedEventBinancePrices_preparedCopy]
  rfl

theorem replayNativeClosePrice_preparedCopy (window : MarketWindow) :
    (db.preparedCopy openedAt startTime endTime).replayNativeClosePrice
        window.startTime window.endTime = db.heldClosePrice startTime endTime window := by
  unfold replayNativeClosePrice heldClosePrice
  rw [feedEventBinancePrices_preparedCopy]
  rfl

theorem isSome_replayNativeOpenPrice (h : db.heldOpenPrice startTime endTime window = some price) :
    (db.replayNativeOpenPrice window.startTime window.endTime).isSome = true := by
  obtain ⟨row, hrow, _⟩ := Option.bind_eq_some_iff.mp h
  have hmem := (mem_filter.mp (mem_of_head? hrow)).1
  cases htrades : db.feedEventBinancePrices window.startTime window.endTime with
  | nil => simp [htrades] at hmem
  | cons first rest =>
    have hfirst : first.tick.price.isSome = true :=
      isSome_price_of_mem_feedEventBinancePrices (htrades ▸ mem_cons_self)
    simp [replayNativeOpenPrice, htrades, hfirst]

theorem isSome_replayNativeClosePrice
    (h : db.heldClosePrice startTime endTime window = some price) :
    (db.replayNativeClosePrice window.startTime window.endTime).isSome = true := by
  obtain ⟨row, hrow, _⟩ := Option.bind_eq_some_iff.mp h
  have hmem := (mem_filter.mp (mem_of_getLast? hrow)).1
  cases hlast : (db.feedEventBinancePrices window.startTime window.endTime).getLast? with
  | none => simp [List.getLast?_eq_none_iff.mp hlast] at hmem
  | some last =>
    have hsome : last.tick.price.isSome = true :=
      isSome_price_of_mem_feedEventBinancePrices (mem_of_getLast? hlast)
    simp [replayNativeClosePrice, hlast, hsome]

theorem getD_pos_iff {price : Option ℚ} :
    0 < price.getD 0 ↔ ∃ value, price = some value ∧ 0 < value := by
  cases price <;> simp

theorem applyReplayPrices_copied_iff {outcome : SignalDirection}
    (hopen : 0 < (db.heldOpenPrice startTime endTime row.window).getD 0)
    (hclose : 0 < (db.heldClosePrice startTime endTime row.window).getD 0) :
    (db.preparedCopy openedAt startTime endTime).applyReplayPrices
        { window := row.window, openPrice := 0, closePrice := 0, outcome } =
      db.applyReplayPrices
        { window := row.window, openPrice := row.openPrice.getD 0,
          closePrice := row.closePrice.getD 0, outcome } ↔
      db.replayNativeOpenPrice row.window.startTime row.window.endTime =
          db.heldOpenPrice startTime endTime row.window ∧
        db.knownClosePrice row = db.heldClosePrice startTime endTime row.window := by
  obtain ⟨openPrice, hheldOpen, _⟩ := getD_pos_iff.mp hopen
  obtain ⟨closePrice, hheldClose, hpos⟩ := getD_pos_iff.mp hclose
  obtain ⟨nativeOpen, hnativeOpen⟩ := Option.isSome_iff_exists.mp
    (isSome_replayNativeOpenPrice hheldOpen)
  obtain ⟨nativeClose, hnativeClose⟩ := Option.isSome_iff_exists.mp
    (isSome_replayNativeClosePrice hheldClose)
  simp only [applyReplayPrices, replayNativeOpenPrice_preparedCopy,
    replayNativeClosePrice_preparedCopy, knownClosePrice, hheldOpen, hheldClose, hnativeOpen,
    hnativeClose, le_refl, if_true, Option.getD_some, MarketSettlement.mk.injEq, true_and, and_true,
    Option.some.injEq]
  by_cases hstored : row.closePrice.getD 0 ≤ 0
  · simp only [hstored, if_true, Option.some.injEq, eq_comm]
  · obtain ⟨value, hvalue, hpositive⟩ := getD_pos_iff.mp (not_le.mp hstored)
    simp only [hvalue, Option.getD_some, hpositive.not_ge, if_false, Option.some.injEq, eq_comm]

/-! ## The windows of a prepared copy -/

def pricedSettlement (db : DataDb) (row : DataMarketRow) : Option MarketSettlement :=
  (settlementOfRow row).map db.applyReplayPrices

/-- The markets of an interval in the order of their windows. -/
def overlappingMarkets (db : DataDb) (startTime endTime : ℕ) : List DataMarketRow :=
  sortByKey (fun row => (row.window.startTime, 0, 0))
    (db.markets.filter (marketOverlaps startTime endTime))

theorem loadSettlements_eq :
    db.loadSettlements startTime endTime =
      (db.overlappingMarkets startTime endTime).filterMap db.pricedSettlement := by
  unfold loadSettlements overlappingMarkets
  rw [map_filterMap]
  rfl

theorem mem_overlappingMarkets :
    row ∈ db.overlappingMarkets startTime endTime ↔
      row ∈ db.markets ∧ marketOverlaps startTime endTime row = true := by
  rw [overlappingMarkets, sortByKey, mem_insertionSort, mem_filter]

theorem overlappingMarkets_preparedCopy :
    (db.preparedCopy openedAt startTime endTime).overlappingMarkets startTime endTime =
      (db.overlappingMarkets startTime endTime).map DataMarketRow.copied := by
  have hall : (db.copyMarkets startTime endTime).filter (marketOverlaps startTime endTime) =
      (db.markets.filter (marketOverlaps startTime endTime)).map DataMarketRow.copied := by
    apply filter_eq_self.mpr
    intro row hrow
    obtain ⟨row', hrow', rfl⟩ := mem_map.mp hrow
    exact (mem_filter.mp hrow').2
  have hsort : (sortByKey (fun row : DataMarketRow => (row.window.startTime, 0, 0))
        (db.markets.filter (marketOverlaps startTime endTime))).map DataMarketRow.copied =
      sortByKey (fun row => (row.window.startTime, 0, 0))
        ((db.markets.filter (marketOverlaps startTime endTime)).map DataMarketRow.copied) :=
    map_insertionSort _ _ _ _ fun _ _ _ _ => Iff.rfl
  unfold overlappingMarkets
  rw [hsort, ← hall]
  rfl

theorem isSome_pricedSettlement_copied (row : DataMarketRow) :
    ((db.preparedCopy openedAt startTime endTime).pricedSettlement row.copied).isSome =
      (db.pricedSettlement row).isSome := by
  simp only [pricedSettlement, settlementOfRow, Option.isSome_map]
  rfl

theorem pricedSettlement_copied_eq_iff
    (hprices : ∀ settlement,
      (db.preparedCopy openedAt startTime endTime).pricedSettlement row.copied = some settlement →
        0 < settlement.openPrice ∧ 0 < settlement.closePrice) :
    (db.preparedCopy openedAt startTime endTime).pricedSettlement row.copied =
        db.pricedSettlement row ↔
      (row.outcome.isSome = true →
        db.replayNativeOpenPrice row.window.startTime row.window.endTime =
            db.heldOpenPrice startTime endTime row.window ∧
          db.knownClosePrice row = db.heldClosePrice startTime endTime row.window) := by
  cases houtcome : row.outcome with
  | none =>
    have hcopied : row.copied.outcome = none := houtcome
    simp [pricedSettlement, settlementOfRow, houtcome, hcopied]
  | some outcome =>
    have hcopied : row.copied.outcome = some outcome := houtcome
    have hcopy : (db.preparedCopy openedAt startTime endTime).pricedSettlement row.copied =
        some ((db.preparedCopy openedAt startTime endTime).applyReplayPrices
          { window := row.window, openPrice := 0, closePrice := 0, outcome }) := by
      simp only [pricedSettlement, settlementOfRow, hcopied]
      rfl
    have hsource : db.pricedSettlement row = some (db.applyReplayPrices
        { window := row.window, openPrice := row.openPrice.getD 0,
          closePrice := row.closePrice.getD 0, outcome }) := by
      simp only [pricedSettlement, settlementOfRow, houtcome]
      rfl
    have hpositive := hprices _ hcopy
    simp only [applyReplayPrices, replayNativeOpenPrice_preparedCopy,
      replayNativeClosePrice_preparedCopy, le_refl, if_true] at hpositive
    rw [hcopy, hsource, Option.some.injEq, applyReplayPrices_copied_iff hpositive.1 hpositive.2]
    simp

/-- When preparation keeps the windows of an interval, given that every window of the copy has
prices. -/
theorem loadSettlements_preparedCopy_iff
    (hprices : ∀ settlement ∈
      (db.preparedCopy openedAt startTime endTime).loadSettlements startTime endTime,
        0 < settlement.openPrice ∧ 0 < settlement.closePrice) :
    (db.preparedCopy openedAt startTime endTime).loadSettlements startTime endTime =
      db.loadSettlements startTime endTime ↔ db.KeepsPrices startTime endTime := by
  rw [loadSettlements_eq, overlappingMarkets_preparedCopy, filterMap_map] at hprices
  rw [loadSettlements_eq, loadSettlements_eq, overlappingMarkets_preparedCopy, filterMap_map]
  refine (filterMap_eq_filterMap_iff fun row _ => isSome_pricedSettlement_copied row).trans ?_
  have hrow : ∀ row ∈ db.overlappingMarkets startTime endTime,
      ((db.preparedCopy openedAt startTime endTime).pricedSettlement row.copied =
          db.pricedSettlement row ↔
        (row.outcome.isSome = true →
          db.replayNativeOpenPrice row.window.startTime row.window.endTime =
              db.heldOpenPrice startTime endTime row.window ∧
            db.knownClosePrice row = db.heldClosePrice startTime endTime row.window)) :=
    fun row hmem => pricedSettlement_copied_eq_iff fun settlement hsettlement =>
      hprices settlement (mem_filterMap.mpr ⟨row, hmem, hsettlement⟩)
  constructor
  · intro h
    have hsame := fun row hmem => (hrow row hmem).mp (h row hmem)
    refine ⟨fun row hmarket hoverlap houtcome => ?_, fun row hmarket hoverlap houtcome => ?_⟩
    · exact (hsame row (mem_overlappingMarkets.mpr ⟨hmarket, hoverlap⟩) houtcome).1
    · exact (hsame row (mem_overlappingMarkets.mpr ⟨hmarket, hoverlap⟩) houtcome).2
  · intro h row hmem
    obtain ⟨hmarket, hoverlap⟩ := mem_overlappingMarkets.mp hmem
    exact (hrow row hmem).mpr fun houtcome =>
      ⟨h.openPrices row hmarket hoverlap houtcome, h.closePrices row hmarket hoverlap houtcome⟩

end DataDb

end BubaPaint
