import BubaPaint.Replay.ExecutionEngine

/-!
# The end of a market in a simulated run

When a window closes, the reserves of its open trades are reclassified. When its outcome is known,
the trades are closed in the results database and their results are booked, at once or later.
-/

namespace BubaPaint

namespace PaperState

/-- Move one unresolved trade's reserve from active-market risk to pending settlement. -/
def reclassify (state : PaperState) (trade : SimulatedTrade) : PaperState :=
  { state with
    bankroll := state.bankroll.transitionTradeToPendingSettlement
      (trade.entryPrice * trade.size) trade.strategy }

/-- Persist one market-close lifecycle update and reclassify open trades into pending settlement. -/
def closeMarketAndReclassifyReserve (state : PaperState) (window : MarketWindow) : PaperState :=
  let state := { state with db := state.db.resolveMarket window.marketId .closed }
  (state.db.getOpenTradesForMarket window.marketId).foldl reclassify state

def applyTradeResult (state : PaperState) (tradeId : ℤ)
    (entryPrice size settlementPrice feeAmount : ℚ) (strategy : String) (nowMs : ℕ) : PaperState :=
  let (pnl, bankroll) := state.bankroll.applyTradeResultInMemory entryPrice size settlementPrice
    feeAmount strategy
  { state with
    bankroll
    db := state.db.logBalanceEvent
      (balanceEventForTrade tradeId nowMs pnl bankroll.currentBalance) }

def confirmedResult (trade : SimulatedTrade) (tradeId : ℤ) (settlementPrice feeAmount : ℚ) :
    TradeResult :=
  let gross := (settlementPrice - trade.entryPrice) * trade.size
  let entryCost := trade.entryPrice * trade.size
  { tradeId
    exitPrice := settlementPrice
    settlementPrice
    pnl0pct := gross
    pnl1pct := gross - entryCost * (1 / 100)
    pnl2pct := gross - entryCost * (2 / 100)
    pnl3pct := gross - entryCost * (3 / 100)
    feeAmount
    pnlNet := gross - feeAmount
    settlementStatus := "confirmed"
    provisionalPnl := none }

/-- Settle one open trade of a resolved market. -/
def settleTrade (window : MarketWindow) (outcome : SignalDirection) (config : Config) (nowMs : ℕ)
    (settled : List (SimulatedTrade × TradeResult) × PaperState) (trade : SimulatedTrade) :
    List (SimulatedTrade × TradeResult) × PaperState :=
  match trade.id with
  | none => settled
  | some tradeId =>
    let settlementPrice := if trade.side = outcome then 1 else 0
    let feeParams := resolveFeeParams config (some window) window.endTime
    let feeAmount := computeTakerFee trade.entryPrice trade.size feeParams.feeRate
      feeParams.exponent
    let result := confirmedResult trade tradeId settlementPrice feeAmount
    let state := { settled.2 with db := settled.2.db.closeTrade tradeId result }
    (settled.1 ++ [(trade, result)],
      state.applyTradeResult tradeId trade.entryPrice trade.size settlementPrice feeAmount
        trade.strategy nowMs)

/-- Settle all open trades using a known authoritative outcome. -/
def resolveWindowWithOutcome (state : PaperState) (window : MarketWindow)
    (outcome : SignalDirection) (config : Config) (nowMs : ℕ) :
    List (SimulatedTrade × TradeResult) × PaperState :=
  let (results, state) := (state.db.getOpenTradesForMarket window.marketId).foldl
    (settleTrade window outcome config nowMs) ([], state)
  (results,
    { state with db := state.db.resolveMarketWithOutcome window.marketId .resolved outcome })

end PaperState

end BubaPaint
