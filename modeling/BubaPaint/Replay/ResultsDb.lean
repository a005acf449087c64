import BubaPaint.Decision.TradesTable

/-!
# The results database

The tables a simulated run writes and reads back: its signals with their telemetry, the markets,
the trades with their results, the balance log and the summaries of rejections. Every call
succeeds, and every signal carries telemetry, as those of the strategies do.
-/

namespace BubaPaint

open List

/-- The status of a market row. -/
inductive MarketStatus where
  | active
  | closed
  | resolved
  deriving DecidableEq

/-- One row of `markets`. -/
structure MarketRow where
  marketId : String
  endTime : ℕ
  status : MarketStatus
  outcome : Option SignalDirection
  deriving DecidableEq

/-- One row of `signals`. -/
structure SignalRow where
  id : ℤ
  signal : Signal
  marketId : String
  orderSubmittedAtMs : Option ℕ
  orderArrivalAtMs : Option ℕ
  deriving DecidableEq

/-- One row of `signal_metrics`. -/
structure SignalMetricRow where
  signalId : ℤ
  orderSubmittedAtMs : Option ℕ
  expectedArrivalAtMs : Option ℕ
  orderProcessedAtMs : Option ℕ
  orderProcessedAtUs : Option ℕ
  effectiveArrivalDelayMs : Option ℕ
  decisionStatus : String
  rejectionReason : Option String
  deriving DecidableEq

/-- The database of one simulated run. -/
structure ResultsDb where
  signals : List SignalRow
  signalMetrics : List SignalMetricRow
  markets : List MarketRow
  table : TradesTable
  balanceLog : List BalancePersistenceEvent
  rejectionSummaries : List StrategyRejectionSummaryRecord

namespace ResultsDb

/-- A database that was just created. -/
def new : ResultsDb where
  signals := []
  signalMetrics := []
  markets := []
  table := .empty
  balanceLog := []
  rejectionSummaries := []

def logSignalWithContext (db : ResultsDb) (signal : Signal) (marketId : String)
    (orderSubmittedAtMs orderArrivalAtMs : Option ℕ) : ℤ × ResultsDb :=
  let id : ℤ := db.signals.length + 1
  (id, { db with
    signals := db.signals ++ [{ id, signal, marketId, orderSubmittedAtMs, orderArrivalAtMs }] })

def upsertSignalTelemetry (db : ResultsDb) (signalId : ℤ)
    (orderSubmittedAtMs expectedArrivalAtMs : Option ℕ) (decisionStatus : String)
    (rejectionReason : Option String) : ResultsDb :=
  { db with
    signalMetrics := (db.signalMetrics.filter fun row => row.signalId != signalId) ++
      [{ signalId
         orderSubmittedAtMs
         expectedArrivalAtMs
         orderProcessedAtMs := none
         orderProcessedAtUs := none
         effectiveArrivalDelayMs := none
         decisionStatus
         rejectionReason }] }

/-- Update one queued order's final execution outcome after arrival processing. -/
def updateSignalExecutionOutcome (db : ResultsDb) (signalId : ℤ) (processedAtMs : ℕ)
    (processedAtMicros : Option ℕ) (effectiveArrivalDelayMs : ℕ) (decisionStatus : String)
    (rejectionReason : Option String) : ResultsDb :=
  { db with
    signalMetrics := db.signalMetrics.map fun row =>
      if row.signalId = signalId then
        { row with
          orderProcessedAtMs := some processedAtMs
          orderProcessedAtUs := processedAtMicros
          effectiveArrivalDelayMs := some effectiveArrivalDelayMs
          decisionStatus
          rejectionReason }
      else row }

def MarketRow.refresh (window : MarketWindow) (outcome : Option SignalDirection)
    (row : MarketRow) : MarketRow :=
  if row.marketId = window.marketId then
    { row with endTime := window.endTime, outcome := outcome <|> row.outcome }
  else row

def upsertMarket (db : ResultsDb) (window : MarketWindow) (outcome : Option SignalDirection) :
    ResultsDb :=
  { db with
    markets :=
      if db.markets.any fun row => row.marketId == window.marketId then
        db.markets.map (MarketRow.refresh window outcome)
      else
        db.markets ++
          [{ marketId := window.marketId, endTime := window.endTime, status := .active, outcome }] }

/-- Write the status of a market, and its outcome if there is one. -/
def setMarketStatus (db : ResultsDb) (marketId : String) (status : MarketStatus)
    (outcome : Option SignalDirection) : ResultsDb :=
  { db with
    markets := db.markets.map fun row =>
      if row.marketId = marketId then { row with status, outcome := outcome <|> row.outcome }
      else row }

def resolveMarket (db : ResultsDb) (marketId : String) (status : MarketStatus) : ResultsDb :=
  db.setMarketStatus marketId status none

def resolveMarketWithOutcome (db : ResultsDb) (marketId : String) (status : MarketStatus)
    (outcome : SignalDirection) : ResultsDb :=
  db.setMarketStatus marketId status (some outcome)

def marketStatus (db : ResultsDb) (marketId : String) : Option MarketStatus :=
  (db.markets.find? fun row => row.marketId == marketId).map (·.status)

/-- Insert a new open trade and return the auto-generated row id. -/
def openTrade (db : ResultsDb) (trade : SimulatedTrade) : ℤ × ResultsDb :=
  (trade.id.getD (db.table.sequence + 1), { db with table := db.table.openTrade trade })

def closeTrade (db : ResultsDb) (tradeId : ℤ) (result : TradeResult) : ResultsDb :=
  { db with table := db.table.closeTrade tradeId result }

def openTrades (db : ResultsDb) : List SimulatedTrade :=
  db.table.trades.filter fun trade => trade.status == .open

def getOpenTradesForMarket (db : ResultsDb) (marketId : String) : List SimulatedTrade :=
  db.table.trades.filter fun trade => trade.marketId == marketId && trade.status == .open

def countOpenTrades (db : ResultsDb) : ℕ :=
  db.openTrades.length

def countActiveOpenTrades (db : ResultsDb) (nowMs : ℕ) : ℕ :=
  db.openTrades.countP fun trade =>
    (db.markets.any fun row => row.marketId == trade.marketId && decide (nowMs < row.endTime)) &&
      db.table.results.all fun entry => some entry.1 != trade.id

def logBalanceEvent (db : ResultsDb) (event : BalancePersistenceEvent) : ResultsDb :=
  { db with balanceLog := db.balanceLog ++ [event] }

def logStrategyRejectionSummaries (db : ResultsDb)
    (rows : List StrategyRejectionSummaryRecord) : ResultsDb :=
  { db with rejectionSummaries := db.rejectionSummaries ++ rows }

def openTradesIn (db : ResultsDb) (status : MarketStatus) : List SimulatedTrade :=
  db.openTrades.filter fun trade => db.marketStatus trade.marketId == some status

section Status

variable (db : ResultsDb) (marketId : String)

theorem marketStatus_upsertMarket (window : MarketWindow) (outcome : Option SignalDirection) :
    (db.upsertMarket window outcome).marketStatus marketId =
      if marketId = window.marketId then some ((db.marketStatus marketId).getD .active)
      else db.marketStatus marketId := by
  unfold marketStatus upsertMarket
  by_cases hknown : (db.markets.any fun row => row.marketId == window.marketId) = true
  · have hid :
    ((fun row : MarketRow => row.marketId == marketId) ∘ MarketRow.refresh window outcome) =
        fun row => row.marketId == marketId := by
      ext row
      unfold MarketRow.refresh
      dsimp only [Function.comp]
      split <;> rfl
    have hstatus : ((fun row : MarketRow => row.status) ∘ MarketRow.refresh window outcome) =
        fun row => row.status := by
      ext row
      unfold MarketRow.refresh
      dsimp only [Function.comp]
      split <;> rfl
    rw [if_pos hknown, List.find?_map, hid, Option.map_map, hstatus]
    split
    · rename_i hmarket
      rw [← hmarket, any_eq_true] at hknown
      obtain ⟨row, hrow⟩ := Option.isSome_iff_exists.mp (List.find?_isSome.mpr hknown)
      rw [hrow]
      rfl
    · rfl
  · rw [if_neg hknown, List.find?_append]
    split
    · rename_i hmarket
      have hnone : db.markets.find? (fun row => row.marketId == marketId) = none := by
        rw [List.find?_eq_none]
        intro row hrow hsame
        exact hknown (any_eq_true.mpr ⟨row, hrow, hmarket ▸ hsame⟩)
      rw [hnone, hmarket]
      simp
    · rename_i hmarket
      simp [Ne.symm hmarket]

theorem marketStatus_setMarketStatus (other : String) (status : MarketStatus)
    (outcome : Option SignalDirection) :
    (db.setMarketStatus other status outcome).marketStatus marketId =
      if marketId = other then (db.marketStatus marketId).map fun _ => status
      else db.marketStatus marketId := by
  unfold marketStatus setMarketStatus
  have hid : ((fun row : MarketRow => row.marketId == marketId) ∘ fun row : MarketRow =>
      if row.marketId = other then { row with status, outcome := outcome <|> row.outcome }
      else row) = fun row => row.marketId == marketId := by
    ext row
    dsimp only [Function.comp]
    split <;> rfl
  rw [List.find?_map, hid]
  cases hfind : db.markets.find? fun row => row.marketId == marketId with
  | none => simp
  | some row =>
    have hrow : row.marketId = marketId := by simpa using List.find?_some hfind
    subst hrow
    by_cases hother : row.marketId = other
    · simp [hother]
    · simp [hother]

end Status

end ResultsDb

/-! ## Numbered rows -/

namespace TradesTable

/-- A consistent table that has handed out every id it holds. -/
structure Numbered (table : TradesTable) : Prop extends table.Consistent where
  bounded : ∀ row ∈ table.trades, ∀ tradeId, row.id = some tradeId → tradeId ≤ table.sequence

theorem numbered_empty : empty.Numbered where
  identified := by simp [empty]
  distinct := by simp [empty]
  resolved := by simp [empty]
  bounded := by simp [empty]

section Numbered

variable {table : TradesTable} {trade : SimulatedTrade}

theorem Numbered.fresh (h : table.Numbered) :
    some (table.sequence + 1) ∉ table.trades.map (·.id) := by
  intro hmem
  obtain ⟨row, hrow, hid⟩ := mem_map.mp hmem
  have hbound := h.bounded row hrow _ hid
  omega

theorem Numbered.trades_openTrade (h : table.Numbered) (hid : trade.id = none) :
    (table.openTrade trade).trades =
      table.trades ++ [{ trade with id := some (table.sequence + 1) }] := by
  have hkept : (table.trades.filter fun row => row.id != some (table.sequence + 1)) =
      table.trades := by
    apply filter_eq_self.mpr
    intro row hrow
    exact bne_iff_ne.mpr fun hsame => h.fresh (mem_map.mpr ⟨row, hrow, hsame⟩)
  unfold openTrade openTradeWithId
  rw [hid]
  rw [hkept]

theorem Numbered.openTrade (h : table.Numbered) (hid : trade.id = none) :
    (table.openTrade trade).Numbered := by
  have htrades := h.trades_openTrade hid
  have hresults : (table.openTrade trade).results = table.results := by
    unfold TradesTable.openTrade
    rw [hid]
    rfl
  have hsequence : (table.openTrade trade).sequence = table.sequence + 1 := by
    unfold TradesTable.openTrade
    rw [hid]
    exact max_eq_right (by omega)
  refine { identified := ?_, distinct := ?_, resolved := ?_, bounded := ?_ }
  · intro row hrow
    rw [htrades] at hrow
    rcases mem_append.mp hrow with hold | hnew
    · exact h.identified row hold
    · rw [mem_singleton.mp hnew]
      rfl
  · rw [htrades, map_append, map_singleton]
    exact nodup_append.mpr ⟨h.distinct, nodup_singleton _, by simpa using h.fresh⟩
  · intro entry hentry
    rw [hresults] at hentry
    obtain ⟨row, hrow, hclosed⟩ := h.resolved entry hentry
    rw [htrades]
    exact ⟨row, mem_append_left _ hrow, hclosed⟩
  · intro row hrow tradeId hrowId
    rw [htrades] at hrow
    rw [hsequence]
    rcases mem_append.mp hrow with hold | hnew
    · have hbound := h.bounded row hold tradeId hrowId
      omega
    · rw [mem_singleton.mp hnew] at hrowId
      cases hrowId
      exact le_rfl

@[simp]
theorem id_closeRow (tradeId : ℤ) (row : SimulatedTrade) : (closeRow tradeId row).id = row.id := by
  unfold closeRow
  split <;> rfl

section CloseRow

variable (h : table.Numbered) (htrade : trade ∈ table.trades) (hopen : trade.status = .open)
  {tradeId : ℤ} (hid : trade.id = some tradeId) (result : TradeResult)

include h htrade hopen hid

theorem Numbered.closeTrade_eq :
    table.closeTrade tradeId result =
      { table with
        trades := table.trades.map (closeRow tradeId)
        results := table.results ++ [(tradeId, result)] } := by
  have hunresolved : tradeId ∉ table.results.map (·.1) := by
    intro hmem
    obtain ⟨entry, hentry, rfl⟩ := mem_map.mp hmem
    obtain ⟨row, hrow, hrowId, hclosed⟩ := h.resolved entry hentry
    have hsame : row = trade :=
      inj_on_of_nodup_map h.distinct hrow htrade (hrowId.trans hid.symm)
    rw [hsame, hopen] at hclosed
    cases hclosed
  have hknown : some tradeId ∈ table.trades.map (·.id) :=
    mem_map.mpr ⟨trade, htrade, hid⟩
  unfold closeTrade
  rw [if_neg (not_or.mpr ⟨hunresolved, not_not.mpr hknown⟩)]

theorem Numbered.closeTrade : (table.closeTrade tradeId result).Numbered := by
  rw [h.closeTrade_eq htrade hopen hid]
  refine { identified := ?_, distinct := ?_, resolved := ?_, bounded := ?_ }
  · intro row hrow
    obtain ⟨old, hold, rfl⟩ := mem_map.mp hrow
    simpa using h.identified old hold
  · simpa [Function.comp_def] using h.distinct
  · intro entry hentry
    rcases mem_append.mp hentry with hold | hnew
    · obtain ⟨row, hrow, hrowId, hclosed⟩ := h.resolved entry hold
      refine ⟨closeRow tradeId row, mem_map.mpr ⟨row, hrow, rfl⟩, by simpa using hrowId, ?_⟩
      unfold closeRow
      split
      · rfl
      · exact hclosed
    · rw [mem_singleton.mp hnew]
      refine ⟨closeRow tradeId trade, mem_map.mpr ⟨trade, htrade, rfl⟩, by simpa using hid, ?_⟩
      simp [closeRow, hid]
  · intro row hrow otherId hrowId
    obtain ⟨old, hold, rfl⟩ := mem_map.mp hrow
    exact h.bounded old hold otherId (by simpa using hrowId)

end CloseRow

theorem filter_closeRow {keep : SimulatedTrade → Bool}
    (hkeep : ∀ row : SimulatedTrade, keep { row with status := .closed } = false) (tradeId : ℤ)
    (rows : List SimulatedTrade) :
    (rows.map (closeRow tradeId)).filter keep =
      (rows.filter keep).filter fun row => row.id != some tradeId := by
  induction rows with
  | nil => rfl
  | cons row rest ih =>
    rw [map_cons, filter_cons, ih]
    unfold closeRow
    by_cases hid : row.id = some tradeId
    · rw [if_pos hid, hkeep row, if_neg Bool.false_ne_true, filter_cons]
      split
      · rw [filter_cons_of_neg (by simp [hid])]
      · rfl
    · rw [if_neg hid, filter_cons]
      split
      · rw [filter_cons_of_pos (by simpa using hid)]
      · rfl

theorem perm_cons_filter_ne {rows : List SimulatedTrade} (hdistinct : (rows.map (·.id)).Nodup)
    (htrade : trade ∈ rows) : rows.Perm (trade :: rows.filter fun row => row.id != trade.id) := by
  induction rows with
  | nil => cases htrade
  | cons row rest ih =>
    rw [map_cons, nodup_cons] at hdistinct
    by_cases hsame : row.id = trade.id
    · have hrest : (rest.filter fun other => other.id != trade.id) = rest := by
        apply filter_eq_self.mpr
        intro other hother
        apply bne_iff_ne.mpr
        intro hid
        exact hdistinct.1 (mem_map.mpr ⟨other, hother, hid.trans hsame.symm⟩)
      have hhead : trade = row := by
        rcases mem_cons.mp htrade with hhead | htail
        · exact hhead
        · exact absurd (mem_map.mpr ⟨trade, htail, hsame.symm⟩) hdistinct.1
      rw [filter_cons_of_neg (by simp [hsame]), hrest, hhead]
    · have htail : trade ∈ rest := by
        rcases mem_cons.mp htrade with hhead | htail
        · exact absurd (congrArg (·.id) hhead).symm hsame
        · exact htail
      rw [filter_cons_of_pos (by simpa using hsame)]
      exact ((ih hdistinct.2 htail).cons row).trans (.swap _ _ _)

end Numbered

end TradesTable

namespace ResultsDb

section OpenTrades

variable {db : ResultsDb} {trade : SimulatedTrade} (status : MarketStatus)

theorem openTradesIn_eq :
    db.openTradesIn status = db.table.trades.filter fun trade =>
      db.marketStatus trade.marketId == some status && trade.status == .open :=
  filter_filter

theorem mem_openTradesIn {status : MarketStatus} :
    trade ∈ db.openTradesIn status ↔
      trade ∈ db.table.trades ∧ trade.status = .open ∧
        db.marketStatus trade.marketId = some status := by
  simp only [openTradesIn, openTrades, mem_filter, beq_iff_eq, and_assoc]

theorem mem_getOpenTradesForMarket {marketId : String} :
    trade ∈ db.getOpenTradesForMarket marketId ↔
      trade ∈ db.table.trades ∧ trade.marketId = marketId ∧ trade.status = .open := by
  simp [getOpenTradesForMarket]

theorem openTradesIn_openTrade (h : db.table.Numbered) (hid : trade.id = none)
    (hopen : trade.status = .open) :
    (db.openTrade trade).2.openTradesIn status =
      db.openTradesIn status ++
        if db.marketStatus trade.marketId = some status then
          [{ trade with id := some (db.table.sequence + 1) }]
        else [] := by
  unfold openTradesIn openTrades
  have htrades : (db.openTrade trade).2.table.trades = _ := h.trades_openTrade hid
  have hstatus : (db.openTrade trade).2.marketStatus = db.marketStatus := rfl
  rw [htrades, hstatus, filter_append, filter_append]
  congr 1
  split
  · rename_i hmarket
    simp [hopen, hmarket]
  · rename_i hmarket
    simp [hopen, hmarket]

section Close

variable (h : db.table.Numbered) (htrade : trade ∈ db.table.trades) (hopen : trade.status = .open)
  {tradeId : ℤ} (hid : trade.id = some tradeId) (result : TradeResult)

include h htrade hopen hid

theorem openTradesIn_closeTrade :
    (db.closeTrade tradeId result).openTradesIn status =
      (db.openTradesIn status).filter fun row => row.id != some tradeId := by
  have hstatus : (db.closeTrade tradeId result).marketStatus = db.marketStatus := rfl
  have htable : (db.closeTrade tradeId result).table = _ :=
    h.closeTrade_eq htrade hopen hid result
  rw [openTradesIn_eq, openTradesIn_eq, hstatus, htable]
  exact TradesTable.filter_closeRow (by simp) tradeId _

theorem openTrades_closeTrade :
    (db.closeTrade tradeId result).openTrades =
      db.openTrades.filter fun row => row.id != some tradeId := by
  unfold openTrades closeTrade
  rw [h.closeTrade_eq htrade hopen hid]
  exact TradesTable.filter_closeRow (by simp) tradeId _

theorem getOpenTradesForMarket_closeTrade (marketId : String) :
    (db.closeTrade tradeId result).getOpenTradesForMarket marketId =
      (db.getOpenTradesForMarket marketId).filter fun row => row.id != some tradeId := by
  unfold getOpenTradesForMarket closeTrade
  rw [h.closeTrade_eq htrade hopen hid]
  exact TradesTable.filter_closeRow (by simp) tradeId _

end Close

theorem nodup_getOpenTradesForMarket (h : db.table.Numbered) (marketId : String) :
    ((db.getOpenTradesForMarket marketId).map (·.id)).Nodup :=
  (filter_sublist.map _).nodup h.distinct

theorem nodup_openTradesIn (h : db.table.Numbered) :
    ((db.openTradesIn status).map (·.id)).Nodup := by
  have hsublist : (db.openTradesIn status).Sublist db.table.trades :=
    filter_sublist.trans filter_sublist
  exact (hsublist.map _).nodup h.distinct

end OpenTrades

end ResultsDb

end BubaPaint
