import BubaPaint.Decision.Messages

/-!
# The table of trades

What the persistence events of trades write: a row for each opened trade, and for each closed trade
a result and the status of its row. A stream of events whose lifecycle is well formed leaves one
row for every trade.

Main results:

- Theorem `Lifecycle.persistAll`: a well-formed stream leaves one row for every trade.
-/

namespace BubaPaint

open List

open LivePersistenceEvent (closedTradeId openedTradeId)

/-- The rows of `simulated_trades` and `trade_results`, and the largest id handed out. -/
structure TradesTable where
  trades : List SimulatedTrade
  results : List (ℤ × TradeResult)
  sequence : ℤ

def TradesTable.empty : TradesTable where
  trades := []
  results := []
  sequence := 0

namespace TradesTable

def openTradeWithId (table : TradesTable) (tradeId : ℤ) (trade : SimulatedTrade) : TradesTable where
  trades := (table.trades.filter fun row => row.id != some tradeId) ++
    [{ trade with id := some tradeId }]
  results := table.results
  sequence := max table.sequence tradeId

def openTrade (table : TradesTable) (trade : SimulatedTrade) : TradesTable :=
  match trade.id with
  | some tradeId => table.openTradeWithId tradeId trade
  | none => table.openTradeWithId (table.sequence + 1) trade

def closeRow (tradeId : ℤ) (row : SimulatedTrade) : SimulatedTrade :=
  if row.id = some tradeId then { row with status := .closed } else row

/-- Close an open trade. A second result of a trade and a result without a trade violate the
constraints of the table, and the transaction is rolled back. -/
def closeTrade (table : TradesTable) (tradeId : ℤ) (result : TradeResult) : TradesTable :=
  if tradeId ∈ table.results.map (·.1) ∨ some tradeId ∉ table.trades.map (·.id) then
    table
  else
    { table with
      trades := table.trades.map (closeRow tradeId)
      results := table.results ++ [(tradeId, result)] }

def persist (table : TradesTable) : LivePersistenceEvent → TradesTable
  | .openTrade trade => table.openTrade trade
  | .closeTrade tradeId result _ => table.closeTrade tradeId result
  | _ => table

def persistAll (table : TradesTable) (events : List LivePersistenceEvent) : TradesTable :=
  events.foldl persist table

/-- What the constraints of the table and its transactions ensure: every row has an id of its own,
and a result belongs to a closed row. -/
structure Consistent (table : TradesTable) : Prop where
  identified : ∀ row ∈ table.trades, row.id.isSome
  distinct : (table.trades.map (·.id)).Nodup
  resolved : ∀ entry ∈ table.results, ∃ row ∈ table.trades,
    row.id = some entry.1 ∧ row.status = .closed

end TradesTable

/-! ## Lifecycles -/

def openedIds (events : List LivePersistenceEvent) : List ℤ :=
  events.filterMap LivePersistenceEvent.openedTradeId

def closedIds (events : List LivePersistenceEvent) : List ℤ :=
  events.filterMap LivePersistenceEvent.closedTradeId

variable (events events' : List LivePersistenceEvent)

@[simp]
theorem openedIds_append : openedIds (events ++ events') = openedIds events ++ openedIds events' :=
  filterMap_append

@[simp]
theorem closedIds_append : closedIds (events ++ events') = closedIds events ++ closedIds events' :=
  filterMap_append

/-- Every closed trade was opened by exactly one earlier event or was there before, no trade is
opened twice, and none is closed twice. -/
structure Lifecycle (seedIds : List ℤ) (events : List LivePersistenceEvent) : Prop where
  identified : ∀ trade, .openTrade trade ∈ events → trade.id.isSome
  openedBefore : ∀ before event after, events = before ++ event :: after →
    ∀ tradeId, event.closedTradeId = some tradeId →
      tradeId ∈ seedIds ∨ (openedIds before).count tradeId = 1
  openedOnce : (seedIds ++ openedIds events).Nodup
  closedOnce : (closedIds events).Nodup

theorem openedIds_eq_nil {events : List LivePersistenceEvent}
    (hevents : ∀ event ∈ events, event.isTrade = false) : openedIds events = [] := by
  apply filterMap_eq_nil_iff.mpr
  intro event hevent
  have hother := hevents event hevent
  cases event with
  | openTrade trade => cases hother
  | _ => rfl

theorem closedIds_eq_nil {events : List LivePersistenceEvent}
    (hevents : ∀ event ∈ events, event.isTrade = false) : closedIds events = [] := by
  apply filterMap_eq_nil_iff.mpr
  intro event hevent
  have hother := hevents event hevent
  cases event with
  | closeTrade tradeId result balance => cases hother
  | _ => rfl

namespace Lifecycle

variable {seedIds : List ℤ} {events events' : List LivePersistenceEvent}

theorem nil (hdistinct : seedIds.Nodup) : Lifecycle seedIds [] where
  identified _ hopen := nomatch hopen
  openedBefore before event after hsplit := by simp at hsplit
  openedOnce := by simpa [openedIds] using hdistinct
  closedOnce := nodup_nil

/-- A lifecycle may be continued by trades with new ids and by closes of trades that are known and
not closed yet. -/
theorem append (h : Lifecycle seedIds events)
    (hidentified : ∀ trade, .openTrade trade ∈ events' → trade.id.isSome)
    (hopened : (seedIds ++ openedIds (events ++ events')).Nodup)
    (hclosed : (closedIds (events ++ events')).Nodup)
    (hknown : ∀ tradeId ∈ closedIds events', tradeId ∈ seedIds ++ openedIds events) :
    Lifecycle seedIds (events ++ events') where
  identified trade hopen := by
    rcases mem_append.mp hopen with hold | hnew
    · exact h.identified trade hold
    · exact hidentified trade hnew
  openedBefore := by
    intro before event after hsplit tradeId hid
    rcases append_eq_append_iff.mp hsplit with
      ⟨bridge, hbefore, hnew⟩ | ⟨bridge, hevents, hrest⟩
    · -- The close is one of the new events.
      have hclose : tradeId ∈ closedIds events' := by
        rw [hnew]
        exact mem_filterMap.mpr ⟨event, by simp, hid⟩
      rcases mem_append.mp (hknown tradeId hclose) with hseed | hearlier
      · exact .inl hseed
      · right
        have hnodup : (openedIds before).Nodup := by
          rw [hsplit, openedIds_append] at hopened
          have hall := (nodup_append.mp hopened).2.1
          exact (nodup_append.mp hall).1
        apply count_eq_one_of_mem hnodup
        rw [hbefore, openedIds_append]
        exact mem_append_left _ hearlier
    · cases bridge with
      | nil =>
        have hclose : tradeId ∈ closedIds events' := by
          rw [nil_append] at hrest
          rw [← hrest]
          exact mem_filterMap.mpr ⟨event, by simp, hid⟩
        rw [append_nil] at hevents
        rcases mem_append.mp (hknown tradeId hclose) with hseed | hearlier
        · exact .inl hseed
        · right
          rw [← hevents]
          exact count_eq_one_of_mem (nodup_append.mp h.openedOnce).2.1 hearlier
      | cons first rest =>
        rw [cons_append, List.cons.injEq] at hrest
        rw [← hrest.1] at hevents
        exact h.openedBefore before event rest hevents tradeId hid
  openedOnce := hopened
  closedOnce := hclosed

theorem of_append (h : Lifecycle seedIds (events ++ events')) : Lifecycle seedIds events where
  identified trade hopen := h.identified trade (mem_append_left _ hopen)
  openedBefore before event after hsplit :=
    h.openedBefore before event (after ++ events') (by simp [hsplit])
  openedOnce := by
    have honce := h.openedOnce
    rw [openedIds_append, ← append_assoc] at honce
    exact (nodup_append.mp honce).1
  closedOnce := by
    have honce := h.closedOnce
    rw [closedIds_append] at honce
    exact (nodup_append.mp honce).1

theorem closed_known (h : Lifecycle seedIds events) {tradeId : ℤ}
    (hclosed : tradeId ∈ closedIds events) : tradeId ∈ seedIds ++ openedIds events := by
  obtain ⟨event, hevent, hid⟩ := mem_filterMap.mp hclosed
  obtain ⟨before, after, hsplit⟩ := append_of_mem hevent
  rcases h.openedBefore before event after hsplit tradeId hid with hseed | hcount
  · exact mem_append_left _ hseed
  · apply mem_append_right
    have hmem : tradeId ∈ openedIds before := count_pos_iff.mp (by omega)
    rw [hsplit, openedIds_append]
    exact mem_append_left _ hmem

end Lifecycle

/-! ## What a lifecycle writes -/

def openedTrades (events : List LivePersistenceEvent) : List SimulatedTrade :=
  events.filterMap fun event =>
    match event with
    | .openTrade trade => some trade
    | _ => none

def tradeResults (events : List LivePersistenceEvent) : List (ℤ × TradeResult) :=
  events.filterMap fun event =>
    match event with
    | .closeTrade tradeId result _ => some (tradeId, result)
    | _ => none

def settledRow (closed : List ℤ) (row : SimulatedTrade) : SimulatedTrade :=
  if row.id ∈ closed.map some then { row with status := .closed } else row

variable (closed : List ℤ)

@[simp]
theorem id_settledRow (row : SimulatedTrade) : (settledRow closed row).id = row.id := by
  unfold settledRow
  split <;> rfl

/-- One row for every trade, closed with its result if an event closed it. -/
structure OneRowPerTrade (stored : TradesTable) (events : List LivePersistenceEvent)
    (table : TradesTable) : Prop where
  distinct : (table.trades.map (·.id)).Nodup
  trades : table.trades =
    (stored.trades ++ openedTrades events).map (settledRow (closedIds events))
  results : table.results = stored.results ++ tradeResults events

theorem map_id_settledRow (rows : List SimulatedTrade) :
    (rows.map (settledRow closed)).map (·.id) = rows.map (·.id) := by
  simp [Function.comp_def]

theorem settledRow_append (tradeId : ℤ) (row : SimulatedTrade) :
    TradesTable.closeRow tradeId (settledRow closed row) =
      settledRow (closed ++ [tradeId]) row := by
  unfold TradesTable.closeRow
  rw [id_settledRow]
  unfold settledRow
  by_cases hrow : row.id = some tradeId
  · by_cases hclosed : some tradeId ∈ closed.map some <;> simp_all
  · by_cases hclosed : row.id ∈ closed.map some <;> simp_all

theorem map_fst_tradeResults (events : List LivePersistenceEvent) :
    (tradeResults events).map (·.1) = closedIds events := by
  unfold tradeResults closedIds
  rw [map_filterMap]
  congr 1
  funext event
  cases event <;> rfl

theorem map_id_openedTrades {events : List LivePersistenceEvent}
    (hidentified : ∀ trade, .openTrade trade ∈ events → trade.id.isSome) :
    (openedTrades events).map (·.id) = (openedIds events).map some := by
  induction events with
  | nil => rfl
  | cons event rest ih =>
    have hrest := ih fun trade hopen => hidentified trade (mem_cons_of_mem _ hopen)
    cases event with
    | openTrade trade =>
      obtain ⟨tradeId, hid⟩ := Option.isSome_iff_exists.mp (hidentified trade mem_cons_self)
      simpa [openedTrades, openedIds, openedTradeId, hid] using hrest
    | _ => exact hrest

namespace OneRowPerTrade

variable {stored table : TradesTable} {events : List LivePersistenceEvent}

theorem openTrade (h : OneRowPerTrade stored events table) {trade : SimulatedTrade} {tradeId : ℤ}
    (hid : trade.id = some tradeId) (hnew : some tradeId ∉ table.trades.map (·.id))
    (hunclosed : tradeId ∉ closedIds events) :
    OneRowPerTrade stored (events ++ [.openTrade trade]) (table.openTrade trade) := by
  have hkept : (table.trades.filter fun row => row.id != some tradeId) = table.trades := by
    apply filter_eq_self.mpr
    intro row hrow
    exact bne_iff_ne.mpr fun hsame => hnew (mem_map.mpr ⟨row, hrow, hsame⟩)
  have hsame : { trade with id := some tradeId } = trade := by
    rw [← hid]
  have hwrite : (table.openTrade trade).trades = table.trades ++ [trade] := by
    unfold TradesTable.openTrade TradesTable.openTradeWithId
    rw [hid]
    dsimp only
    rw [hkept, hsame]
  have hclosed : closedIds (events ++ [.openTrade trade]) = closedIds events := by
    simp [closedIds, closedTradeId]
  have hrow : settledRow (closedIds events) trade = trade := by
    unfold settledRow
    rw [if_neg]
    simpa [hid] using hunclosed
  constructor
  · rw [hwrite, map_append, map_singleton, hid]
    exact nodup_append.mpr ⟨h.distinct, nodup_singleton _, by simpa using hnew⟩
  · rw [hwrite, hclosed, h.trades]
    simp [openedTrades, hrow]
  · have hresults : (table.openTrade trade).results = table.results := by
      unfold TradesTable.openTrade
      rw [hid]
      rfl
    rw [hresults, h.results]
    simp [tradeResults]

theorem closeTrade (h : OneRowPerTrade stored events table) {tradeId : ℤ}
    (hknown : some tradeId ∈ table.trades.map (·.id))
    (hunresolved : tradeId ∉ table.results.map (·.1)) (result : TradeResult)
    (balance : BalancePersistenceEvent) :
    OneRowPerTrade stored (events ++ [.closeTrade tradeId result balance])
      (table.closeTrade tradeId result) := by
  have hopened : openedTrades (events ++ [.closeTrade tradeId result balance]) =
      openedTrades events := by
    simp [openedTrades]
  have hclosed : closedIds (events ++ [.closeTrade tradeId result balance]) =
      closedIds events ++ [tradeId] := by
    simp [closedIds, closedTradeId]
  have hrows : table.trades.map (TradesTable.closeRow tradeId) =
      (stored.trades ++ openedTrades events).map (settledRow (closedIds events ++ [tradeId])) := by
    rw [h.trades, map_map]
    exact map_congr_left fun row _ => settledRow_append _ _ row
  unfold TradesTable.closeTrade
  rw [if_neg (not_or.mpr ⟨hunresolved, not_not.mpr hknown⟩)]
  constructor
  · rw [hrows, map_id_settledRow, ← map_id_settledRow (closedIds events), ← h.trades]
    exact h.distinct
  · rw [hrows, hopened, hclosed]
  · rw [h.results]
    simp [tradeResults]

theorem other (h : OneRowPerTrade stored events table) {event : LivePersistenceEvent}
    (hevent : event.isTrade = false) :
    OneRowPerTrade stored (events ++ [event]) (table.persist event) := by
  have hsame : table.persist event = table ∧ openedTrades [event] = [] ∧
      closedIds [event] = [] ∧ tradeResults [event] = [] := by
    cases event with
    | openTrade trade => cases hevent
    | closeTrade tradeId result balance => cases hevent
    | _ => exact ⟨rfl, rfl, rfl, rfl⟩
  obtain ⟨htable, hopened, hclosed, hresults⟩ := hsame
  rw [htable]
  refine ⟨h.distinct, ?_, ?_⟩
  · rw [closedIds_append, hclosed, append_nil, h.trades]
    unfold openedTrades at hopened ⊢
    rw [filterMap_append, hopened, append_nil]
  · unfold tradeResults at hresults ⊢
    rw [filterMap_append, hresults, append_nil]
    exact h.results

end OneRowPerTrade

/-- Distinct trades that have an open row in the table. -/
structure SeedsFrom (stored : TradesTable) (seedIds : List ℤ) : Prop where
  distinct : seedIds.Nodup
  unsettled : ∀ tradeId ∈ seedIds, ∃ row ∈ stored.trades,
    row.id = some tradeId ∧ row.status = .open

section Writes

variable {stored : TradesTable} {seedIds : List ℤ} {events : List LivePersistenceEvent}

theorem SeedsFrom.unresolved (hseed : SeedsFrom stored seedIds) (hstored : stored.Consistent)
    {tradeId : ℤ} (hid : tradeId ∈ seedIds) : tradeId ∉ stored.results.map (·.1) := by
  intro hresult
  obtain ⟨entry, hentry, rfl⟩ := mem_map.mp hresult
  obtain ⟨row, hrow, hrowId, hopen⟩ := hseed.unsettled _ hid
  obtain ⟨row', hrow', hrowId', hclosed⟩ := hstored.resolved entry hentry
  have hsame : row = row' :=
    inj_on_of_nodup_map hstored.distinct hrow hrow' (hrowId.trans hrowId'.symm)
  rw [hsame, hclosed] at hopen
  cases hopen

/-- A well-formed lifecycle under new ids leaves one row for every trade. -/
theorem Lifecycle.persistAll (h : Lifecycle seedIds events) (hstored : stored.Consistent)
    (hseed : SeedsFrom stored seedIds)
    (hfresh : ∀ tradeId ∈ openedIds events, some tradeId ∉ stored.trades.map (·.id)) :
    OneRowPerTrade stored events (stored.persistAll events) := by
  -- The events are written one after the other, so the induction takes the last one away.
  induction events using List.reverseRecOn with
  | nil =>
    have hsame : settledRow (closedIds []) = id := by
      funext row
      simp [settledRow, closedIds]
    refine ⟨hstored.distinct, ?_, by simp [tradeResults, TradesTable.persistAll]⟩
    simp [hsame, openedTrades, TradesTable.persistAll]
  | append_singleton events event ih =>
    have hbefore := h.of_append
    have hrows := ih hbefore fun tradeId hid => hfresh tradeId (by simp [hid])
    have hids : (stored.persistAll events).trades.map (·.id) =
        stored.trades.map (·.id) ++ (openedIds events).map some := by
      rw [hrows.trades, map_id_settledRow, map_append,
        map_id_openedTrades hbefore.identified]
    have hwrite : stored.persistAll (events ++ [event]) =
        (stored.persistAll events).persist event := by
      simp [TradesTable.persistAll]
    rw [hwrite]
    by_cases hevent : event.isTrade = false
    · exact hrows.other hevent
    cases event with
    | openTrade trade =>
      obtain ⟨tradeId, hid⟩ := Option.isSome_iff_exists.mp (h.identified trade (by simp))
      have hnew : openedIds (events ++ [.openTrade trade]) = openedIds events ++ [tradeId] := by
        simp [openedIds, openedTradeId, hid]
      have honce := h.openedOnce
      rw [hnew, ← append_assoc] at honce
      have hunknown : tradeId ∉ seedIds ++ openedIds events := fun hknown =>
        (nodup_append.mp honce).2.2 tradeId hknown tradeId (by simp) rfl
      apply hrows.openTrade hid
      · have hunstored := hfresh tradeId (by simp [hnew])
        rw [hids, mem_append, not_or]
        exact ⟨hunstored, fun hmem => hunknown (mem_append_right _ (by simpa using hmem))⟩
      · exact fun hclosed => hunknown (hbefore.closed_known hclosed)
    | closeTrade tradeId result balance =>
      have hclose : closedIds (events ++ [.closeTrade tradeId result balance]) =
          closedIds events ++ [tradeId] := by
        simp [closedIds, closedTradeId]
      have hsame : openedIds (events ++ [.closeTrade tradeId result balance]) =
          openedIds events := by
        simp [openedIds, openedTradeId]
      have honce := h.closedOnce
      rw [hclose] at honce
      have hunclosed : tradeId ∉ closedIds events := fun hclosed =>
        (nodup_append.mp honce).2.2 tradeId hclosed tradeId (by simp) rfl
      have hknown := h.closed_known (by simp [hclose] : tradeId ∈ closedIds (_ ++ [_]))
      rw [hsame] at hknown hfresh
      apply hrows.closeTrade
      · rw [hids]
        rcases mem_append.mp hknown with hold | hearlier
        · obtain ⟨row, hrow, hrowId, -⟩ := hseed.unsettled tradeId hold
          exact mem_append_left _ (mem_map.mpr ⟨row, hrow, hrowId⟩)
        · exact mem_append_right _ (mem_map.mpr ⟨tradeId, hearlier, rfl⟩)
      · rw [hrows.results, map_append, map_fst_tradeResults, mem_append, not_or]
        refine ⟨?_, hunclosed⟩
        rcases mem_append.mp hknown with hold | hearlier
        · exact hseed.unresolved hstored hold
        · intro hresult
          obtain ⟨entry, hentry, hentryId⟩ := mem_map.mp hresult
          obtain ⟨row, hrow, hrowId, -⟩ := hstored.resolved entry hentry
          rw [hentryId] at hrowId
          exact hfresh tradeId hearlier (mem_map.mpr ⟨row, hrow, hrowId⟩)
    | _ => exact absurd rfl hevent

end Writes

end BubaPaint
