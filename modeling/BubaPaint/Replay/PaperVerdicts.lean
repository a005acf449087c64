import BubaPaint.Decision.OrderVerdicts
import BubaPaint.Replay.ExecutionEngine

/-!
# Verdicts of a simulated run

The execution engine follows the verdict on every due order. So the trades a loop opens are those
of the orders whose verdict is a fill, whatever the rest of the state is.
-/

namespace BubaPaint

open PendingOrder

def PendingOrder.verdict (order : PendingOrder) (context : DueOrderContext) (config : Config) :
    OrderVerdict :=
  orderVerdict config context.currentWindow context.bookState context.now order.intent

def PendingOrder.isFilled (context : DueOrderContext) (config : Config) (order : PendingOrder) :
    Bool :=
  (order.verdict context config).isFilled

/-- What a miss is reported with. -/
def missedOrderContext (nowMs : ℕ) (trackGroup : Bool) (reason : String)
    (book : Option TopOfBook) : MissedOrderContext where
  trackGroup := trackGroup
  reason := reason
  bestAsk := book.map fun book => book.bestAsk
  askSize := book.map fun book => book.askSize
  freshnessMs := book.map (bookAgeMs nowMs)

namespace PaperState

variable (state : PaperState) (order : PendingOrder) (context : DueOrderContext) (config : Config)

/-- The execution engine follows the verdict. -/
theorem processDueOrder_eq :
    state.processDueOrder order context config =
      match order.verdict context config with
      | .deferred => (.deferred order, state)
      | .missed trackGroup reason book =>
        state.rejectOrder order context (missedOrderContext context.now trackGroup reason book)
      | .filled book filledSize =>
        state.fillDueOrder order context book (some (bookAgeMs context.now book)) filledSize
          config := by
  unfold processDueOrder PendingOrder.verdict
  by_cases harrived : order.arrivalTs > context.now
  · rw [if_pos harrived, orderVerdict_of_early harrived]
  rw [if_neg harrived]
  cases hwindow : context.currentWindow.filter fun window => window.marketId == order.marketId with
  | none =>
    rw [orderVerdict_of_missing (not_lt.mp harrived) hwindow]
    rfl
  | some window =>
    rw [orderVerdict_of_current (not_lt.mp harrived) hwindow]
    exact follow_windowVerdict config window context.bookState context.now order.intent
      (.deferred order, state)
      (fun trackGroup reason book => state.rejectOrder order context
        (missedOrderContext context.now trackGroup reason book))
      (fun book filledSize => state.fillDueOrder order context book
        (some (bookAgeMs context.now book)) filledSize config)

end PaperState

def SimulatedTrade.place (trade : SimulatedTrade) : String × ℕ :=
  (trade.marketId, trade.timestamp)

namespace PaperDueOrders

variable (context : DueOrderContext) (config : Config)

theorem opened_foldl (orders : List PendingOrder) (due : PaperDueOrders) :
    (orders.foldl (step context config) due).opened.map SimulatedTrade.place =
      due.opened.map SimulatedTrade.place ++
        (orders.filter (isFilled context config)).map
          fun order => (order.marketId, context.now) := by
  induction orders generalizing due with
  | nil => simp
  | cons order rest ih =>
    rw [List.foldl_cons, ih]
    unfold step
    rw [PaperState.processDueOrder_eq]
    cases hverdict : order.verdict context config with
    | deferred =>
      have hfilled : order.isFilled context config = false := by
        simp [isFilled, hverdict, OrderVerdict.isFilled]
      simp [hfilled]
    | missed trackGroup reason book =>
      have hfilled : order.isFilled context config = false := by
        simp [isFilled, hverdict, OrderVerdict.isFilled]
      simp [hfilled, PaperState.rejectOrder]
    | filled book filledSize =>
      have hfilled : order.isFilled context config = true := by
        simp [isFilled, hverdict, OrderVerdict.isFilled]
      simp [hfilled, PaperState.fillDueOrder, SimulatedTrade.place, trade]

end PaperDueOrders

namespace PaperState

/-- The trades that are opened are those of the orders whose verdict is a fill. -/
theorem opened_processDueOrders (state : PaperState) (context : DueOrderContext) (config : Config) :
    (state.processDueOrders context config).1.map SimulatedTrade.place =
      (state.engine.pendingOrders.filter (isFilled context config)).map
        fun order => (order.marketId, context.now) :=
  PaperDueOrders.opened_foldl context config state.engine.pendingOrders
    { state := { state with engine.pendingOrders := [] }, remaining := [], opened := [],
      groupOutcomes := [] }

end PaperState

end BubaPaint
