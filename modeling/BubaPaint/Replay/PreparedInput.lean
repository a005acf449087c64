import BubaPaint.Replay.PreparedTicks
import BubaPaint.Replay.PreparedWindows

/-!
# Backtests of prepared inputs

A prepared copy is read in place of the database it was made from, so it should give the same ticks
in the same order and the same windows. It does just when preparation had nothing to lose: no
generic row changes its place among those of its moment or its content, and every price of a window
comes from the trades of the interval.

Main results:

- Theorem `prepared_input_replays_alike`: when a prepared copy gives the same ticks and windows.
-/

namespace BubaPaint

open Effects WindowManager

instance (tick : RawTick) : Decidable tick.IsCompact := by
  unfold RawTick.IsCompact
  infer_instance

/-- A prepared copy gives the same ticks and windows just when preparation keeps them. -/
theorem prepared_input_replays_alike {db output : DataDb} {openedAt : ResolvedTradeRow → ℕ}
    {startTime endTime : ℕ} (hstored : db.StoredById)
    (h : db.prepareBacktestInput openedAt startTime endTime = .ok output) :
    (output.loadTicks startTime endTime = db.loadTicks startTime endTime ∧
        fromSettlements (output.loadSettlements startTime endTime) =
          fromSettlements (db.loadSettlements startTime endTime)) ↔
      db.KeepsTicks startTime endTime ∧ db.KeepsPrices startTime endTime := by
  obtain ⟨rfl, report, hvalid⟩ := DataDb.prepareBacktestInput_eq_ok h
  obtain ⟨hcapture, hprices⟩ := DataDb.validateInput_eq_ok hvalid
  have hwindows : ∀ settlements settlements' : List MarketSettlement,
      fromSettlements settlements = fromSettlements settlements' ↔
        settlements = settlements' := by
    intro settlements settlements'
    simp [fromSettlements]
  rw [hwindows, DataDb.loadTicks_preparedCopy_iff hstored hcapture,
    DataDb.loadSettlements_preparedCopy_iff hprices]

/-! ## A capture of one window -/

def capturedRow (id timestamp : ℕ) (source eventType : String) (price tradeSize : Option ℚ)
    (quotes : Option (ℚ × ℚ)) (depthImbalance : Option ℚ) : FeedEventRow where
  id
  tick :=
    { timestamp
      timestampUs := none
      source
      eventType
      sequenceKey := none
      marketId := none
      assetId := none
      price
      tradeSize
      signedQuantity := tradeSize
      bid := quotes.map fun quote => quote.1
      ask := quotes.map fun quote => quote.2
      bidSize := quotes.map fun _ => 100
      askSize := quotes.map fun _ => 120
      depthBidNotional := none
      depthAskNotional := none
      depthImbalance
      microprice := none
      fidelity := .rawEvent }

/-- One window with every kind of row that a replay needs. -/
def capturedWindow (closePrice : Option ℚ) (later : List FeedEventRow) : DataDb where
  feedEvents :=
    [capturedRow 1 1100 "binance" "aggTrade" (some 42000) (some (1 / 4)) none none,
      capturedRow 2 1200 "binance" "bookTicker" none none (some (41999, 42001)) none,
      capturedRow 3 1300 "binance" "depth" none none (some (41999, 42001)) (some (1 / 40)),
      capturedRow 4 1400 "chainlink" "chainlink_price" (some 42000) none none none,
      capturedRow 5 1500 "clob_up" "price_change" none none (some (12 / 25, 13 / 25)) none,
      capturedRow 6 1600 "clob_down" "price_change" none none (some (47 / 100, 53 / 100)) none,
      capturedRow 7 1900 "binance" "aggTrade" (some 42050) (some (1 / 10)) none none] ++ later
  clobReplayEvents := []
  clobReplayBlocks := []
  tickData := []
  markets :=
    [{ window :=
        { marketId := "m1"
          upTokenId := "up-1"
          downTokenId := "down-1"
          startTime := 1000
          endTime := 2000
          slug := "slug-1"
          feeProfile := none
          orderMinSize := none
          orderPriceMinTickSize := none
          feesEnabled := none
          feeSchedule := none }
       openPrice := none
       closePrice
       outcome := some .up }]
  resolvedTrades := []

theorem storedById_capturedWindow (closePrice : Option ℚ) (later : List FeedEventRow)
    (h : (capturedWindow none later).feedEvents.Pairwise fun first second => first.id < second.id) :
    (capturedWindow closePrice later).StoredById where
  feedEvents := h
  clobReplayEvents := .nil
  clobReplayBlocks := .nil

/-- A capture whose rows all have times of their own is replayed alike. -/
theorem prepared_input_replays_alike_sample :
    ∃ output, (capturedWindow none []).prepareBacktestInput (fun trade => trade.resolvedAt)
        1000 2000 = .ok output ∧
      output.loadTicks 1000 2000 = (capturedWindow none []).loadTicks 1000 2000 ∧
        fromSettlements (output.loadSettlements 1000 2000) =
          fromSettlements ((capturedWindow none []).loadSettlements 1000 2000) := by
  have hready : ((capturedWindow none []).prepareBacktestInput (fun trade => trade.resolvedAt)
      1000 2000).isOk = true := by
    decide +kernel
  have houtput := DataDb.prepareBacktestInput_eq_ok_of_isOk hready
  have hstored : (capturedWindow none []).StoredById :=
    storedById_capturedWindow none [] (by decide +kernel)
  refine ⟨_, houtput, (prepared_input_replays_alike hstored houtput).mpr
    ⟨(DataDb.keepsTicks_iff_of_short hstored (by decide +kernel)).mpr ⟨?_, ?_⟩, ⟨?_, ?_⟩⟩⟩
  · decide +kernel
  · decide +kernel
  · decide +kernel
  · decide +kernel

/-- A quote of Binance has the time of a row of Up that is stored ahead of it, and the window has a
stored close price: the copy has the quote first, and closes the window at the last trade. -/
theorem prepared_input_replays_apart :
    ∃ db output : DataDb, db.StoredById ∧
      db.prepareBacktestInput (fun trade => trade.resolvedAt) 1000 2000 = .ok output ∧
      output.loadTicks 1000 2000 ≠ db.loadTicks 1000 2000 ∧
        fromSettlements (output.loadSettlements 1000 2000) ≠
          fromSettlements (db.loadSettlements 1000 2000) := by
  have hready : ((capturedWindow (some 42060) [capturedRow 8 1500 "binance" "bookTicker" none none
      (some (41999, 42001)) none]).prepareBacktestInput (fun trade => trade.resolvedAt)
        1000 2000).isOk = true := by
    decide +kernel
  refine ⟨_, _, storedById_capturedWindow _ _ (by decide +kernel),
    DataDb.prepareBacktestInput_eq_ok_of_isOk hready, by decide +kernel, ?_⟩
  intro hsame
  have hwindows := congrArg windows hsame
  revert hwindows
  decide +kernel

end BubaPaint
