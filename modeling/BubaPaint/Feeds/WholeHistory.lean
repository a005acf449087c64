import BubaPaint.Feeds.SignalFeatures
import Mathlib.Data.List.TakeWhile

/-!
# The whole history

The signal state drops the trades that have grown old. No feature over a window shows it: whatever
came in, each one is the same formula over all trades ever received.

Main results:

- Theorem `features_of_whole_history`: features are formulas over all trades received.
-/

namespace BubaPaint

open List

/-- What happens to a signal state. -/
inductive SignalUpdate where
  | binanceTrade (trade : TradeObservation)
  | binanceBook (book : BinanceBookTicker)
  | binanceDepth (depth : BinanceDepthSnapshot)
  | chainlink (price : ℚ) (eventTimeMs : ℕ) (eventMicros : Option ℕ)
  | clob (bookState : BookState) (eventTimeMs : ℕ) (eventMicros : Option ℕ)
  /-- A feature snapshot drops what has grown old. -/
  | compute (nowMs : ℕ)
  /-- A new window starts without books. -/
  | clearBooks
  | forgetChainlink

namespace SignalUpdate

/-- The time it drops old trades at. -/
def pruneMs : SignalUpdate → Option ℕ
  | binanceTrade trade => some trade.eventMs
  | clob _ eventTimeMs _ => some eventTimeMs
  | compute nowMs => some nowMs
  | _ => none

def trade? : SignalUpdate → Option TradeObservation
  | binanceTrade trade => some trade
  | _ => none

end SignalUpdate

namespace SignalState

def apply (state : SignalState) : SignalUpdate → SignalState
  | .binanceTrade trade => state.updateBinanceTrade trade.price trade.quantity
      trade.signedQuantity trade.eventMs trade.eventUs
  | .binanceBook book => state.updateBinanceBook book.bestBid book.bestAsk book.bidSize
      book.askSize book.timestamp book.sequenceKey
  | .binanceDepth depth => state.updateBinanceDepth depth.bidLevels depth.askLevels
      depth.timestamp depth.sequenceKey
  | .chainlink price eventTimeMs eventMicros =>
    state.updateChainlink price eventTimeMs eventMicros
  | .clob bookState eventTimeMs eventMicros => state.updateClob bookState eventTimeMs eventMicros
  | .compute nowMs => state.prune nowMs
  | .clearBooks => { state with bookState := .empty }
  | .forgetChainlink => { state with chainlinkPrice := none }

end SignalState

/-- The trades are the later ones of the history, and those before them are older than the
cutoff. -/
def KeepsSince (cutoff : ℕ) (history trades : List TradeObservation) : Prop :=
  ∃ old, history = old ++ trades ∧ ∀ trade ∈ old, trade.eventMs < cutoff

variable {cutoff cutoff' : ℕ} {history trades : List TradeObservation}

theorem KeepsSince.dropWhile (h : KeepsSince cutoff history trades) (hle : cutoff' ≤ cutoff) :
    KeepsSince cutoff history (trades.dropWhile (·.eventMs < cutoff')) := by
  obtain ⟨old, rfl, hold⟩ := h
  refine ⟨old ++ trades.takeWhile (·.eventMs < cutoff'),
    by rw [append_assoc, takeWhile_append_dropWhile], fun trade htrade => ?_⟩
  rcases mem_append.mp htrade with htrade | htrade
  · exact hold trade htrade
  · have hlt := mem_takeWhile_imp htrade
    exact (of_decide_eq_true hlt).trans_le hle

theorem KeepsSince.concat (h : KeepsSince cutoff history trades) (trade : TradeObservation) :
    KeepsSince cutoff (history ++ [trade]) (trades ++ [trade]) := by
  obtain ⟨old, rfl, hold⟩ := h
  exact ⟨old, append_assoc .., hold⟩

theorem KeepsSince.dropWhile_eq (h : KeepsSince cutoff history trades) :
    history.dropWhile (·.eventMs < cutoff) = trades.dropWhile (·.eventMs < cutoff) := by
  obtain ⟨old, rfl, hold⟩ := h
  exact dropWhile_append_of_pos (by simpa using hold)

theorem KeepsSince.filter_eq (h : KeepsSince cutoff history trades) (hle : cutoff ≤ cutoff') :
    history.filter (cutoff' ≤ ·.eventMs) = trades.filter (cutoff' ≤ ·.eventMs) := by
  obtain ⟨old, rfl, hold⟩ := h
  have hnone : old.filter (cutoff' ≤ ·.eventMs) = [] :=
    filter_eq_nil_iff.mpr fun trade htrade => by
      simpa using (hold trade htrade).trans_le hle
  rw [filter_append, hnone, nil_append]

variable {updates : List SignalUpdate} {now : ℕ}

/-- All trades of a run, however old. -/
def received (updates : List SignalUpdate) : List TradeObservation :=
  updates.filterMap SignalUpdate.trade?

theorem keepsSince_apply {history : List TradeObservation} {state : SignalState}
    {update : SignalUpdate} (hupdate : ∀ time ∈ update.pruneMs, time ≤ now)
    (h : KeepsSince (now - tradeHistoryMs) history state.binanceTrades) :
    KeepsSince (now - tradeHistoryMs) (history ++ update.trade?.toList)
      (state.apply update).binanceTrades := by
  have hcutoff : ∀ time ∈ update.pruneMs, time - tradeHistoryMs ≤ now - tradeHistoryMs :=
    fun time htime => Nat.sub_le_sub_right (hupdate time htime) _
  cases update with
  | binanceTrade trade => exact (h.concat trade).dropWhile (hcutoff _ rfl)
  | clob | compute => exact (append_nil history).symm ▸ h.dropWhile (hcutoff _ rfl)
  | _ => exact (append_nil history).symm ▸ h

theorem keepsSince_run (hupdates : ∀ update ∈ updates, ∀ time ∈ update.pruneMs, time ≤ now) :
    KeepsSince (now - tradeHistoryMs) (received updates)
      (updates.foldl SignalState.apply .new).binanceTrades := by
  induction updates using List.reverseRecOn with
  | nil => exact ⟨[], rfl, nofun⟩
  | append_singleton before update ih =>
    rw [received, filterMap_append, foldl_concat]
    have h := keepsSince_apply (hupdates update (by simp))
      (ih fun update' hupdate' => hupdates update' (by simp [hupdate']))
    rwa [show [update].filterMap SignalUpdate.trade? = update.trade?.toList by
      cases htrade : update.trade? <;> simp [htrade]]

/-- The features over a window are their formulas over the trades of a state that keeps all. -/
structure OverAllTrades (sqrt : ℚ → ℚ) (windowOpenPrice : Option ℚ) (now : ℕ)
    (whole : SignalState) (features : FullFeatureSnapshot) : Prop where
  realizedVol5s : features.realizedVol5sBps = whole.realizedVolatilityBpsOverMs now 5000 sqrt
  realizedVol15s : features.realizedVol15sBps = whole.realizedVolatilityBpsOverMs now 15000 sqrt
  realizedVol30s : features.realizedVol30sBps = whole.realizedVolatilityBpsOverMs now 30000 sqrt
  openCrosses10s : features.openCrosses10s =
    windowOpenPrice.bind (whole.openCrossCountOverMs now 10000)
  openCrosses30s : features.openCrosses30s =
    windowOpenPrice.bind (whole.openCrossCountOverMs now 30000)
  distance10s : (features.minSignedDistance10sBps, features.maxSignedDistance10sBps) =
    let range := windowOpenPrice.bind (whole.signedDistanceRangeBpsOverMs now 10000)
    (range.map (·.1), range.map (·.2))
  distance30s : (features.minSignedDistance30sBps, features.maxSignedDistance30sBps) =
    let range := windowOpenPrice.bind (whole.signedDistanceRangeBpsOverMs now 30000)
    (range.map (·.1), range.map (·.2))
  tradeImbalance : features.binanceSignedTradeImbalance = whole.tradeImbalanceOverMs now 1000

variable (sqrt : ℚ → ℚ) (window : Option MarketWindow) (windowOpenPrice : Option ℚ)
variable (binanceMomentum : ℚ) (decisionTimeUs : Option ℕ) (config : Config)

theorem overAllTrades_computeFeatures {state whole : SignalState}
    (hsince : ∀ horizonMs ≤ tradeHistoryMs,
      (state.prune now).tradesSince now horizonMs = whole.tradesSince now horizonMs) :
    OverAllTrades sqrt windowOpenPrice now whole
      (computeFeatures sqrt state window windowOpenPrice binanceMomentum now decisionTimeUs
        config).1 := by
  have hvol : ∀ horizonMs ≤ tradeHistoryMs,
      (state.prune now).realizedVolatilityBpsOverMs now horizonMs sqrt =
        whole.realizedVolatilityBpsOverMs now horizonMs sqrt := fun horizonMs hle => by
    simp only [SignalState.realizedVolatilityBpsOverMs, hsince horizonMs hle]
  have hcrosses : ∀ horizonMs ≤ tradeHistoryMs,
      (state.prune now).openCrossCountOverMs now horizonMs =
        whole.openCrossCountOverMs now horizonMs := fun horizonMs hle => by
    funext openPrice
    simp only [SignalState.openCrossCountOverMs, hsince horizonMs hle]
  have hrange : ∀ horizonMs ≤ tradeHistoryMs,
      (state.prune now).signedDistanceRangeBpsOverMs now horizonMs =
        whole.signedDistanceRangeBpsOverMs now horizonMs := fun horizonMs hle => by
    funext openPrice
    simp only [SignalState.signedDistanceRangeBpsOverMs, hsince horizonMs hle]
  constructor
  · exact hvol 5000 (by decide)
  · exact hvol 15000 (by decide)
  · exact hvol 30000 (by decide)
  · exact congrArg windowOpenPrice.bind (hcrosses 10000 (by decide))
  · exact congrArg windowOpenPrice.bind (hcrosses 30000 (by decide))
  · rw [← hrange 10000 (by decide)]
    rfl
  · rw [← hrange 30000 (by decide)]
    rfl
  · change (state.prune now).tradeImbalanceOverMs now 1000 = _
    simp only [SignalState.tradeImbalanceOverMs, hsince 1000 (by decide)]

/-- Whatever has been dropped on the way, a snapshot that is not older than any of it is the one
of a state that has kept all trades received, and its features over a window are their formulas
over all of these. -/
theorem features_of_whole_history (now : ℕ) (updates : List SignalUpdate)
    (hupdates : ∀ update ∈ updates, ∀ time ∈ update.pruneMs, time ≤ now) :
    let state := updates.foldl SignalState.apply .new
    let whole := { state with binanceTrades := received updates }
    let features (state : SignalState) := (computeFeatures sqrt state window windowOpenPrice
      binanceMomentum now decisionTimeUs config).1
    features state = features whole ∧
      OverAllTrades sqrt windowOpenPrice now whole (features state) := by
  intro state whole features
  have hkeeps : KeepsSince (now - tradeHistoryMs) whole.binanceTrades state.binanceTrades :=
    keepsSince_run hupdates
  have hprune : state.prune now = whole.prune now := by
    unfold SignalState.prune
    rw [hkeeps.dropWhile_eq]
  refine ⟨?_, overAllTrades_computeFeatures _ _ _ _ _ _ fun horizonMs hle => ?_⟩
  · simp only [features, computeFeatures, hprune]
  · have hcutoff : now - tradeHistoryMs ≤ now - horizonMs := Nat.sub_le_sub_left hle _
    exact ((hkeeps.dropWhile le_rfl).filter_eq hcutoff).symm

/-- Here the first trade is no longer kept. -/
theorem features_of_whole_history_sample :
    let updates : List SignalUpdate := [.binanceTrade ⟨100, 1, none, 0, none⟩,
      .binanceTrade ⟨101, 1, some 1, 40000, none⟩, .compute 40000]
    let state := updates.foldl SignalState.apply .new
    state.binanceTrades.length = 1 ∧
      OverAllTrades id (some 100) 41000 { state with binanceTrades := received updates }
        (computeFeatures id state none (some 100) 0 41000 none sampleConfig).1 :=
  ⟨by decide, (features_of_whole_history id none (some 100) 0 none sampleConfig 41000 _
    (by simp [SignalUpdate.pruneMs])).2⟩

end BubaPaint
