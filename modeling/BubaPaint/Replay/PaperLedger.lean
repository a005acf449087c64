import BubaPaint.Replay.PaperSteps
import BubaPaint.Replay.PositionManager
import BubaPaint.Decision.SplitCharges

/-!
# The ledger of a simulated run

While a market is open its orders and trades are held in the active bucket of their family; once it
has closed, its trades are held in the pending one until they are settled. A settlement releases
from the active bucket first: it is right only if the family of the trade has no order in the queue
and no trade in an open market.
-/

namespace BubaPaint

open List ResultsDb PaperBooks

theorem PendingOrder.Queued.cost_nonneg {order : PendingOrder} {marketId : String}
    {family : StrategyFamily} (h : order.Queued marketId family) : 0 ≤ order.reservedCost := by
  rw [h.cost]
  exact (mul_pos h.size h.limit).le

def PendingOrder.charge (order : PendingOrder) : Charge :=
  (order.strategy, order.reservedCost)

namespace PaperBooks

/-- The part of the database that the reserves depend on. -/
def db (books : PaperBooks) : ResultsDb :=
  { new with table := books.table, markets := books.markets }

/-- What the queued orders and the trades of open markets charge. -/
def live (books : PaperBooks) : List Charge :=
  books.pendingOrders.map PendingOrder.charge ++ (books.db.openTradesIn .active).map tradeCharge

/-- What the trades of closed markets charge until they are settled. -/
def settling (books : PaperBooks) : List Charge :=
  (books.db.openTradesIn .closed).map tradeCharge

/-- The books together with the orders that the loop has not taken yet. -/
def withRest (books : PaperBooks) (rest : List PendingOrder) : PaperBooks :=
  { books with pendingOrders := books.pendingOrders ++ rest }

end PaperBooks

theorem ResultsDb.marketStatus_of_markets {db db' : ResultsDb} {marketId : String}
    {status : MarketStatus} (hmarkets : db'.markets = db.markets)
    (hstatus : db.marketStatus marketId = some status) :
    db'.marketStatus marketId = some status := by
  unfold marketStatus at hstatus ⊢
  rwa [hmarkets]

theorem SubmitStep.markets {marketId : String} {family : StrategyFamily}
    {books books' : PaperBooks} (h : SubmitStep marketId family books books') :
    books'.markets = books.markets := by
  cases h <;> rfl

/-- The buckets hold what is live and what is settling, the rows of trades are numbered, and every
open trade is one of a known market. -/
structure PaperLedger (books : PaperBooks) : Prop where
  split : SplitBalanced books.reserves books.live books.settling
  numbered : books.table.Numbered
  priced : ∀ order ∈ books.pendingOrders,
    order.reservedCost = order.requestedSize * order.limitPrice ∧ 0 < order.limitPrice
  known : ∀ trade ∈ books.db.openTrades, (books.db.marketStatus trade.marketId).isSome

namespace PaperLedger

variable {books books' : PaperBooks} {marketId : String} {family : StrategyFamily}
variable {context : DueOrderContext} {mode : ExecutionMode}

/-- A submission keeps the ledger. -/
theorem submit (h : PaperLedger books) (hstep : SubmitStep marketId family books books') :
    PaperLedger books' := by
  cases hstep with
  | passed => exact h
  | probed amount hamount =>
    have hprobe := (h.split.addReserved hamount.le (familyForStrategy_asStr family)).release
    rw [familyForStrategy_asStr] at hprobe
    exact ⟨hprobe, h.numbered, h.priced, h.known⟩
  | queued orders hqueued =>
    refine ⟨?_, h.numbered, ?_, h.known⟩
    · have hadded :
          SplitBalanced _ (orders.map PendingOrder.charge ++ books.live) books.settling :=
        h.split.addCharges (forall_mem_map.mpr fun order horder => (hqueued order horder).labelled)
          (forall_mem_map.mpr fun order horder => (hqueued order horder).cost_nonneg)
      rw [map_map] at hadded
      apply hadded.perm _ (.refl _)
      unfold live
      rw [map_append, ← append_assoc]
      exact perm_append_comm.append_right _
    · intro order horder
      rcases mem_append.mp horder with hold | hnew
      · exact h.priced order hold
      · exact ⟨(hqueued order hnew).cost, (hqueued order hnew).limit⟩

theorem changeMarkets (h : PaperLedger books) (markets : List MarketRow)
    (hsame : ∀ trade ∈ books.db.openTrades,
      ({ books with markets } : PaperBooks).db.marketStatus trade.marketId =
        books.db.marketStatus trade.marketId) :
    PaperLedger { books with markets } := by
  have htrades : ∀ status, ({ books with markets } : PaperBooks).db.openTradesIn status =
      books.db.openTradesIn status := by
    intro status
    apply filter_congr
    intro trade htrade
    rw [hsame trade htrade]
  refine ⟨?_, h.numbered, h.priced, ?_⟩
  · unfold live settling
    rw [htrades, htrades]
    exact h.split
  · intro trade htrade
    rw [hsame trade htrade]
    exact h.known trade htrade

theorem upsertMarket (h : PaperLedger books) (window : MarketWindow)
    (outcome : Option SignalDirection) :
    PaperLedger { books with markets := (books.db.upsertMarket window outcome).markets } := by
  apply h.changeMarkets
  intro trade htrade
  have hstatus := books.db.marketStatus_upsertMarket trade.marketId window outcome
  obtain ⟨status, hknown⟩ := Option.isSome_iff_exists.mp (h.known trade htrade)
  rw [hknown, Option.getD_some, ite_self] at hstatus
  rw [hknown]
  exact hstatus

theorem openTrade {reserves : Reserves} (trade : SimulatedTrade)
    (hsplit : SplitBalanced reserves (tradeCharge trade :: books.live) books.settling)
    (hnumbered : books.table.Numbered)
    (hpriced : ∀ order ∈ books.pendingOrders,
      order.reservedCost = order.requestedSize * order.limitPrice ∧ 0 < order.limitPrice)
    (hknown : ∀ trade ∈ books.db.openTrades, (books.db.marketStatus trade.marketId).isSome)
    (hid : trade.id = none) (hopen : trade.status = .open)
    (hactive : books.db.marketStatus trade.marketId = some .active) :
    PaperLedger { books with reserves, table := books.table.openTrade trade } := by
  have hopened : ∀ status, (books.db.openTrade trade).2.openTradesIn status = _ :=
    fun status => openTradesIn_openTrade status hnumbered hid hopen
  have hcharge : ∀ id, tradeCharge { trade with id } = tradeCharge trade := fun _ => rfl
  constructor
  · have hdb : ({ books with reserves, table := books.table.openTrade trade } : PaperBooks).db =
        (books.db.openTrade trade).2 := rfl
    unfold live settling at hsplit ⊢
    rw [hdb, hopened .active, hopened .closed, hactive]
    simp only [if_pos, map_append, map_singleton, hcharge]
    apply hsplit.perm
    · rw [← append_assoc]
      exact (perm_append_singleton _ _).symm
    · simp
  · exact hnumbered.openTrade hid
  · exact hpriced
  · intro row hrow
    have htrades := hnumbered.trades_openTrade hid
    have hmem : row ∈ (books.table.openTrade trade).trades ∧ (row.status == .open) = true :=
      mem_filter.mp hrow
    rw [htrades, mem_append] at hmem
    rcases hmem with ⟨hold | hnew, hrowOpen⟩
    · exact hknown row (mem_filter.mpr ⟨hold, hrowOpen⟩)
    · rw [mem_singleton.mp hnew]
      exact Option.isSome_of_eq_some hactive

/-- The current window of the context is a market that has not closed. -/
def Running (context : DueOrderContext) (books : PaperBooks) : Prop :=
  ∀ window, context.currentWindow = some window →
    books.db.marketStatus window.marketId = some .active

theorem dueStep {order : PendingOrder} {rest : List PendingOrder}
    (h : PaperLedger (books.withRest (order :: rest))) (hrunning : Running context books)
    (hstep : PaperDueStep context mode order books books') :
    PaperLedger (books'.withRest rest) ∧ books'.markets = books.markets := by
  have hhead : SplitBalanced books.reserves (order.charge :: (books.withRest rest).live)
      (books.withRest rest).settling := by
    apply h.split.perm _ (.refl _)
    unfold live withRest
    simp only [map_append, map_cons, append_assoc, cons_append]
    exact perm_middle
  have hpriced : ∀ other ∈ (books.withRest rest).pendingOrders,
      other.reservedCost = other.requestedSize * other.limitPrice ∧ 0 < other.limitPrice := by
    intro other hother
    apply h.priced other
    rcases mem_append.mp hother with hkept | hrest
    · exact mem_append_left _ hkept
    · exact mem_append_right _ (mem_cons_of_mem _ hrest)
  cases hstep with
  | deferred => exact ⟨by simpa [withRest] using h, rfl⟩
  | missed => exact ⟨⟨hhead.release, h.numbered, hpriced, h.known⟩, rfl⟩
  | filled window price size hwindow hmarket hprice hsize =>
    obtain ⟨hcost, -⟩ := h.priced order (by simp [withRest])
    have hactive := hrunning window hwindow
    rw [hmarket] at hactive
    have hle : size * price ≤ order.reservedCost := by
      rw [hcost]
      exact mul_le_mul hsize.2 hprice.2 hprice.1.le (hsize.1.le.trans hsize.2)
    have hspent := hhead.spend (mul_pos hsize.1 hprice.1).le hle
    rw [mul_comm size price] at hspent ⊢
    exact ⟨openTrade (order.trade price size context.now mode.asStr) hspent h.numbered hpriced
      h.known rfl rfl hactive, rfl⟩

theorem dueRun {orders : List PendingOrder} (h : PaperLedger (books.withRest orders))
    (hrunning : Running context books) (hrun : PaperDueRun context mode orders books books') :
    PaperLedger books' ∧ books'.markets = books.markets := by
  induction hrun with
  | nil books =>
    unfold withRest at h
    rw [append_nil] at h
    exact ⟨h, rfl⟩
  | @cons order rest books books' books'' hstep _ ih =>
    obtain ⟨hledger, hmarkets⟩ := h.dueStep hrunning hstep
    have hdb : books'.db.markets = books.db.markets := hmarkets
    have hrunning' : Running context books' := fun window hwindow =>
      marketStatus_of_markets hdb (hrunning window hwindow)
    obtain ⟨hend, hsame⟩ := ih hledger hrunning'
    exact ⟨hend, hsame.trans hmarkets⟩

end PaperLedger

/-! ## Closing -/

theorem filter_perm_append {rows : List SimulatedTrade} {keep left right : SimulatedTrade → Bool}
    (hkeep : ∀ row, keep row = (left row || right row))
    (hdisjoint : ∀ row, left row = true → right row = false) :
    (rows.filter keep).Perm (rows.filter left ++ rows.filter right) := by
  induction rows with
  | nil => exact .refl _
  | cons row rest ih =>
    by_cases hleft : left row = true
    · have hright := hdisjoint row hleft
      simpa [hkeep, hleft, hright] using ih
    · by_cases hright : right row = true
      · simp only [filter_cons, hkeep, hleft, hright, Bool.or_true, if_true]
        exact (ih.cons row).trans perm_middle.symm
      · simpa [hkeep, hleft, hright] using ih

namespace ResultsDb

section Closing

variable {db : ResultsDb} {marketId : String}

theorem marketStatus_resolveMarket (db : ResultsDb) (marketId other : String) :
    (db.resolveMarket marketId .closed).marketStatus other =
      if other = marketId then (db.marketStatus other).map fun _ => .closed
      else db.marketStatus other :=
  db.marketStatus_setMarketStatus other marketId .closed none

theorem openTradesIn_active_perm (hactive : db.marketStatus marketId = some .active) :
    (db.openTradesIn .active).Perm
      (db.getOpenTradesForMarket marketId ++
        (db.resolveMarket marketId .closed).openTradesIn .active) := by
  rw [openTradesIn_eq, openTradesIn_eq]
  apply filter_perm_append
  · intro row
    rw [marketStatus_resolveMarket]
    by_cases hrow : row.marketId = marketId
    · simp [hrow, hactive]
    · simp [hrow]
  · intro row hrow
    rw [Bool.and_eq_true, beq_iff_eq] at hrow
    rw [marketStatus_resolveMarket, if_pos hrow.1, hrow.1, hactive]
    rfl

theorem openTradesIn_closed_perm (hactive : db.marketStatus marketId = some .active) :
    ((db.resolveMarket marketId .closed).openTradesIn .closed).Perm
      (db.getOpenTradesForMarket marketId ++ db.openTradesIn .closed) := by
  rw [openTradesIn_eq, openTradesIn_eq]
  apply filter_perm_append
  · intro row
    rw [marketStatus_resolveMarket]
    by_cases hrow : row.marketId = marketId
    · simp [hrow, hactive]
    · simp [hrow]
  · intro row hrow
    rw [Bool.and_eq_true, beq_iff_eq] at hrow
    rw [hrow.1, hactive]
    rfl

end Closing

end ResultsDb

theorem SplitBalanced.foldl_close {trades : List SimulatedTrade} {reserves : Reserves}
    {live settling : List Charge}
    (h : SplitBalanced reserves (trades.map tradeCharge ++ live) settling) :
    SplitBalanced (trades.foldl Reserves.close reserves) live
      (trades.map tradeCharge ++ settling) := by
  induction trades generalizing reserves settling with
  | nil => exact h
  | cons trade rest ih =>
    have hmoved : SplitBalanced (reserves.close trade) (rest.map tradeCharge ++ live)
        (tradeCharge trade :: settling) := h.transition
    exact (ih hmoved).perm (.refl _) perm_middle

namespace PaperState

variable (state : PaperState)

theorem books_foldl_reclassify (trades : List SimulatedTrade) :
    (trades.foldl reclassify state).books =
      { state.books with reserves := trades.foldl Reserves.close state.books.reserves } := by
  induction trades generalizing state with
  | nil => rfl
  | cons trade rest ih => exact ih _

theorem books_closeMarketAndReclassifyReserve (window : MarketWindow) :
    (state.closeMarketAndReclassifyReserve window).books =
      { state.books with
        markets := (state.db.resolveMarket window.marketId .closed).markets
        reserves := (state.db.getOpenTradesForMarket window.marketId).foldl Reserves.close
          state.books.reserves } :=
  books_foldl_reclassify _ _

end PaperState

namespace PaperLedger

/-- Closing an open market keeps the ledger. -/
theorem close {state : PaperState} {window : MarketWindow} (h : PaperLedger state.books)
    (hactive : state.db.marketStatus window.marketId = some .active) :
    PaperLedger (state.closeMarketAndReclassifyReserve window).books := by
  rw [state.books_closeMarketAndReclassifyReserve window]
  have hleaves := openTradesIn_active_perm hactive
  have hsettles := openTradesIn_closed_perm hactive
  constructor
  · have hfirst : SplitBalanced state.books.reserves
        ((state.db.getOpenTradesForMarket window.marketId).map tradeCharge ++
          (state.engine.pendingOrders.map PendingOrder.charge ++
            ((state.db.resolveMarket window.marketId .closed).openTradesIn .active).map
              tradeCharge))
        state.books.settling := by
      apply h.split.perm _ (.refl _)
      have hmapped := hleaves.map tradeCharge
      rw [map_append] at hmapped
      apply (hmapped.append_left (state.engine.pendingOrders.map PendingOrder.charge)).trans
      rw [← append_assoc, ← append_assoc]
      exact perm_append_comm.append_right _
    have hmapped := hsettles.map tradeCharge
    rw [map_append] at hmapped
    exact hfirst.foldl_close.perm (.refl _) hmapped.symm
  · exact h.numbered
  · exact h.priced
  · intro trade htrade
    have hknown := h.known trade htrade
    show ((state.db.resolveMarket window.marketId .closed).marketStatus trade.marketId).isSome
    rw [marketStatus_resolveMarket]
    split
    · rw [Option.isSome_map]
      exact hknown
    · exact hknown

end PaperLedger

/-! ## Settling -/

namespace PaperBooks

def settle (books : PaperBooks) (tradeId : ℤ) (result : TradeResult) (trade : SimulatedTrade) :
    PaperBooks :=
  { books with
    reserves := books.reserves.releaseFromFamilyBuckets (trade.entryPrice * trade.size)
      (familyForStrategy trade.strategy)
    table := books.table.closeTrade tradeId result }

/-- No order in the queue and no trade of an open market is charged to a family. -/
def Idle (books : PaperBooks) (family : StrategyFamily) : Prop :=
  (∀ order ∈ books.pendingOrders, familyForStrategy order.strategy ≠ family) ∧
    ∀ trade ∈ books.db.openTradesIn .active, familyForStrategy trade.strategy ≠ family

instance (books : PaperBooks) (family : StrategyFamily) : Decidable (books.Idle family) :=
  inferInstanceAs (Decidable (_ ∧ _))

theorem Idle.charged_live {books : PaperBooks} {family : StrategyFamily}
    (h : books.Idle family) : charged family books.live = 0 := by
  have hnone : ∀ charge ∈ books.live, familyForStrategy charge.1 ≠ family := by
    intro charge hcharge
    rcases mem_append.mp hcharge with horder | htrade
    · obtain ⟨order, hmem, rfl⟩ := mem_map.mp horder
      exact h.1 order hmem
    · obtain ⟨trade, hmem, rfl⟩ := mem_map.mp htrade
      exact h.2 trade hmem
  apply sum_eq_zero
  intro amount hamount
  obtain ⟨charge, hcharge, rfl⟩ := mem_map.mp hamount
  exact if_neg (hnone charge hcharge).symm

end PaperBooks

namespace PaperLedger

variable {books : PaperBooks} {marketId : String} {trade : SimulatedTrade} {tradeId : ℤ}

/-- Settling a trade of a closed market whose family is idle keeps the ledger. -/
theorem settleTrade (h : PaperLedger books)
    (htrade : trade ∈ books.db.getOpenTradesForMarket marketId)
    (hclosed : books.db.marketStatus marketId = some .closed)
    (hid : trade.id = some tradeId) (hidle : books.Idle (familyForStrategy trade.strategy))
    (result : TradeResult) :
    PaperLedger (books.settle tradeId result trade) ∧
      (books.settle tradeId result trade).db.openTradesIn .active =
        books.db.openTradesIn .active := by
  obtain ⟨hrow, hmarket, hopen⟩ := mem_getOpenTradesForMarket.mp htrade
  have hleft : ∀ status, (books.settle tradeId result trade).db.openTradesIn status = _ :=
    fun status => openTradesIn_closeTrade status h.numbered hrow hopen hid result
  have hactive : (books.settle tradeId result trade).db.openTradesIn .active =
      books.db.openTradesIn .active := by
    rw [hleft, filter_eq_self]
    intro other hother
    obtain ⟨hotherRow, -, hotherMarket⟩ := mem_openTradesIn.mp hother
    apply bne_iff_ne.mpr
    intro hsame
    have hequal : other = trade :=
      inj_on_of_nodup_map h.numbered.distinct hotherRow hrow (hsame.trans hid.symm)
    rw [hequal, hmarket, hclosed] at hotherMarket
    cases hotherMarket
  refine ⟨⟨?_, h.numbered.closeTrade hrow hopen hid result, h.priced, ?_⟩, hactive⟩
  · have hmem : trade ∈ books.db.openTradesIn .closed :=
      mem_openTradesIn.mpr ⟨hrow, hopen, hmarket ▸ hclosed⟩
    have hperm := TradesTable.perm_cons_filter_ne
      (books.db.nodup_openTradesIn .closed h.numbered) hmem
    have hfirst : SplitBalanced books.reserves books.live
        (tradeCharge trade :: ((books.settle tradeId result trade).db.openTradesIn .closed).map
          tradeCharge) := by
      rw [hleft, ← hid]
      exact h.split.perm (.refl _) (hperm.map tradeCharge)
    have hsettled := hfirst.settle_iff.mpr (.inr hidle.charged_live)
    unfold live at hsettled ⊢
    rw [hactive]
    exact hsettled
  · intro other hother
    have hleftOpen : (books.settle tradeId result trade).db.openTrades = _ :=
      openTrades_closeTrade h.numbered hrow hopen hid result
    rw [hleftOpen] at hother
    exact h.known other (mem_filter.mp hother).1

end PaperLedger

namespace PaperState

theorem books_settleTrade (window : MarketWindow) (outcome : SignalDirection) (config : Config)
    (nowMs : ℕ) (settled : List (SimulatedTrade × TradeResult) × PaperState)
    {trade : SimulatedTrade} {tradeId : ℤ} (hid : trade.id = some tradeId) :
    ∃ result, (settleTrade window outcome config nowMs settled trade).2.books =
      settled.2.books.settle tradeId result trade := by
  unfold settleTrade
  rw [hid]
  exact ⟨_, rfl⟩

end PaperState

namespace PaperLedger

/-- Settling the open trades of a closed market one after the other keeps the ledger. -/
theorem foldl_settleTrade (window : MarketWindow) (outcome : SignalDirection) (config : Config)
    (nowMs : ℕ) {trades : List SimulatedTrade}
    (settled : List (SimulatedTrade × TradeResult) × PaperState) (h : PaperLedger settled.2.books)
    (hopen : settled.2.books.db.getOpenTradesForMarket window.marketId = trades)
    (hclosed : settled.2.books.db.marketStatus window.marketId = some .closed)
    (hidle : ∀ trade ∈ trades, settled.2.books.Idle (familyForStrategy trade.strategy)) :
    let books' :=
      (trades.foldl (PaperState.settleTrade window outcome config nowMs) settled).2.books
    PaperLedger books' ∧ books'.db.getOpenTradesForMarket window.marketId = [] ∧
      books'.markets = settled.2.books.markets := by
  induction trades generalizing settled with
  | nil => exact ⟨h, hopen, rfl⟩
  | cons trade rest ih =>
    have hdistinct := settled.2.books.db.nodup_getOpenTradesForMarket h.numbered window.marketId
    rw [hopen, map_cons, nodup_cons] at hdistinct
    have htrade : trade ∈ settled.2.books.db.getOpenTradesForMarket window.marketId := by
      rw [hopen]
      exact mem_cons_self
    obtain ⟨hrow, hmarket, hstatus⟩ := mem_getOpenTradesForMarket.mp htrade
    obtain ⟨tradeId, hid⟩ := Option.isSome_iff_exists.mp (h.numbered.identified trade hrow)
    obtain ⟨result, hbooks⟩ :=
      PaperState.books_settleTrade window outcome config nowMs settled hid
    obtain ⟨hledger, hactive⟩ := h.settleTrade htrade hclosed hid (hidle trade mem_cons_self) result
    have hrest : (settled.2.books.settle tradeId result
        trade).db.getOpenTradesForMarket window.marketId = rest := by
      have hleft : (settled.2.books.settle tradeId result
          trade).db.getOpenTradesForMarket window.marketId =
            (settled.2.books.db.getOpenTradesForMarket window.marketId).filter
              fun row => row.id != some tradeId :=
        getOpenTradesForMarket_closeTrade h.numbered hrow hstatus hid result _
      rw [hleft, hopen, filter_cons_of_neg (by simp [hid]), filter_eq_self]
      intro other hother
      apply bne_iff_ne.mpr
      intro hsame
      exact hdistinct.1 (mem_map.mpr ⟨other, hother, hsame.trans hid.symm⟩)
    rw [← hbooks] at hledger hactive hrest
    have hmarkets : (PaperState.settleTrade window outcome config nowMs settled
        trade).2.books.markets = settled.2.books.markets := by
      rw [hbooks]
      rfl
    obtain ⟨hend, hnone, hsame⟩ := ih _ hledger hrest (by rw [hbooks]; exact hclosed) (by
      intro other hother
      have hother := hidle other (mem_cons_of_mem _ hother)
      refine ⟨?_, ?_⟩
      · rw [hbooks]
        exact hother.1
      · rw [hactive]
        exact hother.2)
    exact ⟨hend, hnone, hsame.trans hmarkets⟩

theorem resolve {books : PaperBooks} {marketId : String} (h : PaperLedger books)
    (hnone : books.db.getOpenTradesForMarket marketId = []) (outcome : SignalDirection) :
    PaperLedger
      { books with
        markets := (books.db.resolveMarketWithOutcome marketId .resolved outcome).markets } := by
  apply h.changeMarkets
  intro trade htrade
  have hother : trade.marketId ≠ marketId := by
    intro hmarket
    obtain ⟨hrow, hopen⟩ := mem_filter.mp htrade
    have hmem : trade ∈ books.db.getOpenTradesForMarket marketId :=
      mem_getOpenTradesForMarket.mpr ⟨hrow, hmarket, eq_of_beq hopen⟩
    rw [hnone] at hmem
    cases hmem
  have hstatus := books.db.marketStatus_setMarketStatus trade.marketId marketId .resolved
    (some outcome)
  rw [if_neg hother] at hstatus
  exact hstatus

/-- Settling a closed market whose families are idle keeps the ledger. -/
theorem settle {state : PaperState} {window : MarketWindow} (h : PaperLedger state.books)
    (hclosed : state.books.db.marketStatus window.marketId = some .closed)
    (hidle : ∀ trade ∈ state.books.db.getOpenTradesForMarket window.marketId,
      state.books.Idle (familyForStrategy trade.strategy))
    (outcome : SignalDirection) (config : Config) (nowMs : ℕ) :
    PaperLedger (state.resolveWindowWithOutcome window outcome config nowMs).2.books ∧
      (state.resolveWindowWithOutcome window outcome config nowMs).2.books.markets =
        (state.db.resolveMarketWithOutcome window.marketId .resolved outcome).markets := by
  obtain ⟨hledger, hnone, hmarkets⟩ :=
    foldl_settleTrade window outcome config nowMs ([], state) h rfl hclosed hidle
  refine ⟨hledger.resolve hnone outcome, ?_⟩
  exact congrArg (fun markets => (({ new with markets } :
    ResultsDb).resolveMarketWithOutcome window.marketId .resolved outcome).markets) hmarkets

end PaperLedger

end BubaPaint
