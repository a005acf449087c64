import BubaPaint.Storage.HistoryDb

/-!
# What the passes of an upgrade make complete

Every statement of the passes leaves the rows on their way to the same end: a row that is rewritten
twice is what it is after the first time, and what a later pass finds out about a row does not depend
on how far the pass has come. So a pass that is cut off does no harm to the tables it rewrites.

Main results:

- Theorem `backfillPasses_uphold`: after the passes all is done but the feed events.
-/

namespace BubaPaint

open Effects HistoryDb HistoryTrade KeyedTable List

variable {fetch : HistoryMarketRow → MarketMetadata × MarketMetadata}
    {config : Config}
variable {course : UpgradeCourse} {db db' : HistoryDb}

/-! ## Completed rows -/

section Completed

variable (fetch : HistoryMarketRow → MarketMetadata × MarketMetadata)
    (config : Config)

def HistoryMarket.complete (market : HistoryMarket) : HistoryMarket :=
  if market.slug = "" then market
  else
    market.updateMetadata (mergedMetadata (fetch market.toHistoryMarketRow).1
      (fetch market.toHistoryMarketRow).2)

def tradeGroup (trades : List LegacyTrade) (trade : LegacyTrade) : Option String :=
  if trade.strategy = "spread-capture" then (spreadGroup trades trade.spreadKey).groupId else none

/-- A trade with everything that can be found out about its execution. -/
def HistoryTrade.complete (signals : List HistorySignal) (trades : List LegacyTrade)
    (trade : HistoryTrade) : HistoryTrade :=
  { trade.backfillDefaults with
    signalId := trade.signalId.or (closestSignal signals trade.toLegacyTrade)
    executionGroupId := trade.executionGroupId.or (tradeGroup trades trade.toLegacyTrade) }

def HistoryTradeResult.complete (trades : List LegacyTrade) (market : String → Option HistoryMarket)
    (result : HistoryTradeResult) : HistoryTradeResult :=
  match trades.find? (·.id = result.tradeId) with
  | none => result
  | some trade => result.updateFee (legacyFee config trade (market trade.marketId))

def HistoryDb.completedMarkets (db : HistoryDb) :
    KeyedTable (fun market : HistoryMarket => market.marketId) :=
  db.markets.rewrite (·.complete fetch) fun market => by
    unfold HistoryMarket.complete
    split <;> rfl

/-- The trades with everything that can be found out about their execution. -/
def HistoryDb.completedTrades (db : HistoryDb) :
    KeyedTable (fun trade : HistoryTrade => trade.id) :=
  db.trades.rewrite (·.complete db.completedSignals.rows db.legacyTrades)

def HistoryDb.completedResults (db : HistoryDb) : KeyedTable HistoryTradeResult.tradeId :=
  db.results.rewrite
    (·.complete config db.legacyTrades (db.completedMarkets fetch).find?) fun result => by
      unfold HistoryTradeResult.complete
      split <;> rfl

/-- The tables that an upgrade leaves, apart from the feed events and the marker. -/
def HistoryDb.completed (db : HistoryDb) : HistoryDb where
  tickData := db.tickData
  markets := db.completedMarkets fetch
  feedEvents := []
  signals := db.completedSignals
  trades := db.completedTrades
  results := db.completedResults fetch config
  completedAt := none

end Completed

variable (trade : HistoryTrade) (market : HistoryMarket)

@[simp]
theorem HistoryMarket.complete_window :
    (market.complete fetch).toHistoryWindow = market.toHistoryWindow := by
  unfold complete
  split <;> rfl

theorem or_or_self_left {α : Type} (value old : Option α) :
    value.or (value.or old) = value.or old := by
  cases value <;> rfl

theorem HistoryMarket.updateMetadata_twice (metadata : MarketMetadata) (market : HistoryMarket) :
    (market.updateMetadata metadata).updateMetadata metadata = market.updateMetadata metadata := by
  simp [updateMetadata, Option.or_assoc, or_or_self_left]

theorem HistoryMarket.complete_complete :
    (market.complete fetch).complete fetch = market.complete fetch := by
  have hrow : (market.complete fetch).toHistoryMarketRow =
    market.toHistoryMarketRow := by
    rw [complete_window]
  by_cases hslug : market.slug = ""
  · simp [complete, hslug]
  · unfold complete at hrow ⊢
    rw [if_neg hslug] at hrow ⊢
    rw [if_neg (by rwa [hrow]), hrow]
    exact updateMetadata_twice _ market

theorem HistorySignal.backfill_backfill (windows : List HistoryWindow) (signal : HistorySignal) :
    (signal.backfill windows).backfill windows = signal.backfill windows := by
  simp [backfill, Option.or_assoc]

theorem HistoryTrade.complete_eq {signals : List HistorySignal} {trades : List LegacyTrade}
    {trade trade' : HistoryTrade} (hlegacy : trade'.toLegacyTrade = trade.toLegacyTrade)
    (hdefaults : trade'.backfillDefaults =
      { trade.backfillDefaults with
        signalId := trade'.signalId, executionGroupId := trade'.executionGroupId })
    (hsignal : trade'.signalId.or (closestSignal signals trade.toLegacyTrade) =
      trade.signalId.or (closestSignal signals trade.toLegacyTrade))
    (hgroup : trade'.executionGroupId.or (tradeGroup trades trade.toLegacyTrade) =
      trade.executionGroupId.or (tradeGroup trades trade.toLegacyTrade)) :
    trade'.complete signals trades = trade.complete signals trades := by
  unfold complete
  rw [hdefaults, hlegacy, hsignal, hgroup]

theorem HistoryTrade.backfillDefaults_twice :
    trade.backfillDefaults.backfillDefaults = trade.backfillDefaults := by
  simp [backfillDefaults]

theorem HistoryTradeResult.complete_updateFee {trades : List LegacyTrade}
    {market : String → Option HistoryMarket} {result : HistoryTradeResult} {trade : LegacyTrade}
    (htrade : trades.find? (·.id = result.tradeId) = some trade) :
    (result.updateFee (legacyFee config trade (market trade.marketId))).complete config trades
      market = result.complete config trades market := by
  have hcomplete : ∀ other : HistoryTradeResult, other.tradeId = result.tradeId →
      other.complete config trades market =
        other.updateFee (legacyFee config trade (market trade.marketId)) := by
    intro other hother
    unfold complete
    rw [hother, htrade]
  rw [hcomplete result rfl, hcomplete (result.updateFee _) rfl]
  simp [updateFee]

theorem HistoryTradeResult.complete_complete {trades : List LegacyTrade}
    {market : String → Option HistoryMarket} (result : HistoryTradeResult) :
    (result.complete config trades market).complete config trades market =
      result.complete config trades market := by
  cases htrade : trades.find? (·.id = result.tradeId) with
  | none =>
    have hkept : result.complete config trades market = result := by
      unfold complete
      rw [htrade]
    rw [hkept, hkept]
  | some trade =>
    have hchanged : result.complete config trades market =
        result.updateFee (legacyFee config trade (market trade.marketId)) := by
      unfold complete
      rw [htrade]
    rw [hchanged, complete_updateFee htrade, hchanged]

theorem issue_marketStatements
    (cs : List (RowChange fun market : HistoryMarket => market.marketId)) (db : HistoryDb) :
    issue (marketStatements cs) db = { db with markets := db.markets.changes cs } := by
  induction cs generalizing db with
  | nil => rfl
  | cons c rest ih => exact ih _

theorem issue_tradeStatements (cs : List (RowChange fun trade : HistoryTrade => trade.id))
    (db : HistoryDb) :
    issue (tradeStatements cs) db = { db with trades := db.trades.changes cs } := by
  induction cs generalizing db with
  | nil => rfl
  | cons c rest ih => exact ih _

theorem issue_resultStatements (cs : List (RowChange HistoryTradeResult.tradeId)) (db : HistoryDb) :
    issue (resultStatements cs) db = { db with results := db.results.changes cs } := by
  induction cs generalizing db with
  | nil => rfl
  | cons c rest ih => exact ih _

variable (fetch config) in
/-- The state on the way to the same end, which is not reached yet. -/
structure HistoryDb.SameEnd (db db' : HistoryDb) : Prop where
  completed : db'.completed fetch config = db.completed fetch config
  unmarked : db'.completedAt = db.completedAt

theorem HistoryDb.SameEnd.refl (db : HistoryDb) : db.SameEnd fetch config db :=
  ⟨rfl, rfl⟩

theorem HistoryDb.SameEnd.trans {db₁ db₂ db₃ : HistoryDb} (h : db₁.SameEnd fetch config db₂)
    (h' : db₂.SameEnd fetch config db₃) : db₁.SameEnd fetch config db₃ :=
  ⟨h'.completed.trans h.completed, h'.unmarked.trans h.unmarked⟩

theorem rewrite_congr {ρ κ : Type} {key : ρ → κ} {t t' : KeyedTable key} {g F : ρ → ρ}
    {hkey : ∀ row, key (F row) = key row} (hrows : t'.rows = t.rows.map g)
    (hg : ∀ row ∈ t.rows, F (g row) = F row) : t'.rewrite F hkey = t.rewrite F hkey := by
  refine ext_rows ?_
  rw [rows_rewrite, rows_rewrite, hrows, map_map]
  exact map_congr_left hg

/-- Some markets have been completed. -/
theorem HistoryDb.SameEnd.markets {db : HistoryDb}
    {markets : KeyedTable fun market : HistoryMarket => market.marketId}
    {g : HistoryMarket → HistoryMarket} (hrows : markets.rows = db.markets.rows.map g)
    (hg : ∀ market ∈ db.markets.rows, g market = market ∨
      g market = market.complete fetch) :
    db.SameEnd fetch config { db with markets := markets } := by
  have hmarkets : { db with markets := markets }.completedMarkets fetch =
      db.completedMarkets fetch := by
    refine rewrite_congr hrows fun market hmarket => ?_
    rcases hg market hmarket with hsame | hcomplete
    · rw [hsame]
    · rw [hcomplete, HistoryMarket.complete_complete]
  have hwindows : { db with markets := markets }.windows = db.windows := by
    unfold windows
    rw [hrows, map_map]
    refine map_congr_left fun market hmarket => ?_
    rcases hg market hmarket with hsame | hcomplete
    · simp [hsame]
    · simp [hcomplete]
  refine ⟨?_, rfl⟩
  have hsignals : { db with markets := markets }.completedSignals = db.completedSignals := by
    unfold completedSignals
    rw [hwindows]
  simp only [HistoryDb.completed, completedTrades, completedResults, hmarkets, hsignals]
  rfl

/-- Some signals have been completed. -/
theorem HistoryDb.SameEnd.signals {db : HistoryDb} {signals : KeyedTable HistorySignal.id}
    {g : HistorySignal → HistorySignal} (hrows : signals.rows = db.signals.rows.map g)
    (hg : ∀ signal ∈ db.signals.rows, g signal = signal ∨ g signal = signal.backfill db.windows) :
    db.SameEnd fetch config { db with signals := signals } := by
  refine ⟨?_, rfl⟩
  have hsignals : { db with signals := signals }.completedSignals = db.completedSignals := by
    refine rewrite_congr hrows fun signal hsignal => ?_
    rcases hg signal hsignal with hsame | hbackfill
    · rw [hsame]
    · rw [hbackfill]
      exact HistorySignal.backfill_backfill _ signal
  simp only [HistoryDb.completed, completedTrades, hsignals]
  rfl

theorem HistoryDb.SameEnd.trades {db : HistoryDb}
    {trades : KeyedTable fun trade : HistoryTrade => trade.id} {g : HistoryTrade → HistoryTrade}
    (hrows : trades.rows = db.trades.rows.map g)
    (hlegacy : ∀ trade ∈ db.trades.rows, (g trade).toLegacyTrade = trade.toLegacyTrade)
    (hg : ∀ trade ∈ db.trades.rows,
      (g trade).complete db.completedSignals.rows db.legacyTrades =
        trade.complete db.completedSignals.rows db.legacyTrades) :
    db.SameEnd fetch config { db with trades := trades } := by
  refine ⟨?_, rfl⟩
  have htrades : { db with trades := trades }.legacyTrades = db.legacyTrades := by
    unfold legacyTrades
    rw [hrows, map_map]
    exact map_congr_left hlegacy
  have hcompleted : { db with trades := trades }.completedTrades = db.completedTrades := by
    unfold completedTrades
    simp only [htrades]
    exact rewrite_congr hrows hg
  simp only [HistoryDb.completed, hcompleted, completedResults, htrades]
  rfl

theorem HistoryDb.SameEnd.results {db : HistoryDb} {results : KeyedTable HistoryTradeResult.tradeId}
    {g : HistoryTradeResult → HistoryTradeResult} (hrows : results.rows = db.results.rows.map g)
    (hg : ∀ result ∈ db.results.rows,
      (g result).complete config db.legacyTrades (db.completedMarkets fetch).find? =
        result.complete config db.legacyTrades (db.completedMarkets fetch).find?) :
    db.SameEnd fetch config { db with results := results } := by
  refine ⟨?_, rfl⟩
  have hresults : { db with results := results }.completedResults fetch config =
      db.completedResults fetch config := rewrite_congr hrows hg
  simp only [HistoryDb.completed, hresults]
  rfl

/-! ## Passes -/

variable (fetch) in
def HistoryDb.MarketsDone (db : HistoryDb) : Prop :=
  ∀ market ∈ db.markets.rows, market.complete fetch = market

def HistoryDb.SignalsDone (db : HistoryDb) : Prop :=
  ∀ signal ∈ db.signals.rows, signal.backfill db.windows = signal

def HistoryDb.DefaultsDone (db : HistoryDb) : Prop :=
  ∀ trade ∈ db.trades.rows, trade.backfillDefaults = trade

def HistoryDb.SignalIdsDone (db : HistoryDb) : Prop :=
  ∀ trade ∈ db.trades.rows,
    trade.signalId.or (closestSignal db.signals.rows trade.toLegacyTrade) = trade.signalId

/-- All trades of a spread group name one. -/
def HistoryDb.GroupsDone (db : HistoryDb) : Prop :=
  ∀ trade ∈ db.trades.rows,
    trade.executionGroupId.or (tradeGroup db.legacyTrades trade.toLegacyTrade) =
      trade.executionGroupId

variable (config) in
def HistoryDb.FeesDone (db : HistoryDb) : Prop :=
  ∀ result ∈ db.results.rows,
    result.complete config db.legacyTrades db.markets.find? = result

theorem metadataChange_apply {market : HistoryMarket} {row : HistoryMarket}
    (hwindow : row.toHistoryWindow = market.toHistoryWindow) (hslug : market.slug ≠ "") :
    (metadataChange fetch market.toHistoryMarketRow).apply row = row.complete fetch := by
  unfold metadataChange HistoryMarket.complete
  rw [hwindow, if_neg hslug]

theorem exists_of_mem_loadMarketRows {market : HistoryMarketRow}
    (h : market ∈ loadMarketRows db.windows) :
    ∃ row ∈ db.markets.rows, row.toHistoryMarketRow = market ∧ row.slug ≠ "" := by
  unfold loadMarketRows windows at h
  simp only [mem_map, mem_insertionSort, mem_filter] at h
  rcases h with ⟨_, ⟨⟨row, hrow, rfl⟩, hslug⟩, rfl⟩
  exact ⟨row, hrow, rfl, by simpa using hslug⟩

theorem nodup_loadMarketRows : ((loadMarketRows db.windows).map (·.marketId)).Nodup := by
  have hwindows : (db.windows.map (·.marketId)).Nodup := by
    unfold windows
    rw [map_map]
    exact db.markets.distinct
  unfold loadMarketRows
  rw [map_map]
  have hperm := (perm_insertionSort (fun window window' : HistoryWindow =>
    window.startTime ≤ window'.startTime) (db.windows.filter (·.slug ≠ ""))).map
      (fun window => window.marketId)
  exact (hperm.nodup_iff).mpr (hwindows.sublist (filter_sublist.map _))

variable (fetch course) in
theorem metadataChanges_distinct (db : HistoryDb) :
    (((course.markets (loadMarketRows db.windows)).map
      (metadataChange fetch)).map RowChange.row).Nodup := by
  rw [map_map]
  exact (((course.markets_perm _).map _).nodup_iff).mpr nodup_loadMarketRows

variable (fetch course) in
theorem metadataChanges_each (db : HistoryDb) :
    ∀ c ∈ (course.markets (loadMarketRows db.windows)).map (metadataChange fetch),
      ∀ row ∈ db.markets.rows, row.marketId = c.row → c.apply row = row.complete fetch := by
  intro c hc row hrow hkey
  rcases mem_map.mp hc with ⟨market, hmarket, rfl⟩
  rcases exists_of_mem_loadMarketRows ((course.markets_perm _).mem_iff.mp hmarket) with
    ⟨other, hother, rfl, hslug⟩
  have hsame : row = other := eq_of_key hrow hother hkey
  exact metadataChange_apply (hsame ▸ rfl) hslug

variable (fetch config course) in
theorem backfillMarkets_upholds :
    Script.UpholdsPass (HistoryDb.SameEnd fetch config) (fun _ => True)
      (HistoryDb.MarketsDone fetch) (backfillMarkets fetch course) where
  part db _ n := by
    unfold backfillMarkets marketStatements
    rw [← map_take]
    rw [← marketStatements, issue_marketStatements]
    rcases rows_changes_take (metadataChanges_distinct fetch course db)
      (metadataChanges_each fetch course db) n with ⟨g, hrows, hg⟩
    exact .markets hrows hg
  whole db _ := by
    unfold backfillMarkets
    rw [issue_marketStatements]
    have hrows := rows_changes_all (metadataChanges_distinct fetch course db)
      (metadataChanges_each fetch course db) ?_
    · intro market hmarket
      rw [hrows] at hmarket
      rcases mem_map.mp hmarket with ⟨old, hold, rfl⟩
      exact old.complete_complete
    · intro market hmarket
      by_cases hslug : market.slug = ""
      · exact .inl (by simp [HistoryMarket.complete, hslug])
      · right
        rw [map_map]
        refine mem_map.mpr ⟨market.toHistoryMarketRow, (course.markets_perm _).mem_iff.mpr ?_, rfl⟩
        unfold loadMarketRows windows
        simp only [mem_map, mem_insertionSort, mem_filter]
        exact ⟨_, ⟨⟨market, hmarket, rfl⟩, by simpa using hslug⟩, rfl⟩

theorem synthesizeFeedEvents_upholds :
    Script.UpholdsPass (HistoryDb.SameEnd fetch config)
      (HistoryDb.MarketsDone fetch) (HistoryDb.MarketsDone fetch) synthesizeFeedEvents := by
  have hevents : ∀ (db : HistoryDb) (n : ℕ), ∃ events : List HistoryFeedEvent,
      issue ((synthesizeFeedEvents db).take n) db = { db with feedEvents := events } := by
    intro db n
    refine issue_induction (fun s : HistoryDb => ∃ events : List HistoryFeedEvent,
      s = { db with feedEvents := events }) ⟨db.feedEvents, rfl⟩ ?_
    rintro statement hstatement _ ⟨events, rfl⟩
    have hmem := mem_of_mem_take hstatement
    unfold synthesizeFeedEvents at hmem
    split at hmem
    · cases hmem
    · rcases mem_map.mp hmem with ⟨select, -, rfl⟩
      exact ⟨_, rfl⟩
  constructor
  · intro db _ n
    rcases hevents db n with ⟨events, hissue⟩
    rw [hissue]
    exact ⟨rfl, rfl⟩
  · intro db hmarkets
    rcases hevents db (synthesizeFeedEvents db).length with ⟨events, hissue⟩
    rw [take_length] at hissue
    rw [hissue]
    exact hmarkets

theorem backfill_of_present {windows : List HistoryWindow} {signal : HistorySignal}
    (h : (signal.marketId.isNone || signal.executionFidelity.isNone) = false) :
    signal.backfill windows = signal := by
  rw [Bool.or_eq_false_iff, Option.isNone_eq_false_iff, Option.isNone_eq_false_iff] at h
  rcases signal with ⟨id, timestamp, strategy, direction, marketId, executionFidelity⟩
  rcases Option.isSome_iff_exists.mp h.1 with ⟨market, rfl⟩
  rcases Option.isSome_iff_exists.mp h.2 with ⟨fidelity, rfl⟩
  rfl

theorem backfillSignals_upholds :
    Script.UpholdsPass (HistoryDb.SameEnd fetch config) (HistoryDb.MarketsDone fetch)
      (fun db => db.MarketsDone fetch ∧ db.SignalsDone) backfillSignals := by
  have hrow : ∀ (windows : List HistoryWindow) (signal : HistorySignal),
      (if (signal.marketId.isNone || signal.executionFidelity.isNone) = true then
        signal.backfill windows else signal) = signal.backfill windows := by
    intro windows signal
    split
    · rfl
    · rename_i hpresent
      exact (backfill_of_present (Bool.eq_false_of_not_eq_true hpresent)).symm
  refine .single .refl (fun db _ => ?_) fun db hmarkets => ⟨hmarkets, fun signal hsignal => ?_⟩
  · exact .signals rfl fun signal _ => .inr (hrow _ signal)
  · rcases mem_map.mp hsignal with ⟨old, hold, rfl⟩
    rw [hrow]
    exact HistorySignal.backfill_backfill _ old

theorem backfillTradeDefaults_upholds :
    Script.UpholdsPass (HistoryDb.SameEnd fetch config)
      (fun db => db.MarketsDone fetch ∧ db.SignalsDone)
      (fun db => (db.MarketsDone fetch ∧ db.SignalsDone) ∧ db.DefaultsDone)
      backfillTradeDefaults := by
  refine .single .refl (fun db _ => ?_) fun db hdone => ⟨hdone, fun trade htrade => ?_⟩
  · refine .trades rfl (fun trade _ => rfl) fun trade _ => ?_
    exact complete_eq rfl (trade.backfillDefaults_twice) rfl rfl
  · rcases mem_map.mp htrade with ⟨old, hold, rfl⟩
    exact old.backfillDefaults_twice

/-- The completed signals are those that are there. -/
theorem HistoryDb.SignalsDone.completed (h : db.SignalsDone) :
    db.completedSignals.rows = db.signals.rows := by
  refine Eq.trans rows_rewrite ?_
  exact (map_congr_left h).trans (map_id _)

theorem filterMap_sublist {α β κ : Type} {f : α → Option β} {key : β → κ} (key' : α → κ)
    (h : ∀ a b, f a = some b → key b = key' a) (l : List α) :
    ((l.filterMap f).map key).Sublist (l.map key') := by
  induction l with
  | nil => exact List.Sublist.refl _
  | cons a rest ih =>
    cases hf : f a with
    | none => simpa [hf] using ih.trans (sublist_cons_self _ _)
    | some b => simpa [hf, h a b hf] using ih

variable {trades : List LegacyTrade} {signals : List HistorySignal}

theorem signalIdChange_eq_some {trade : HistoryTrade}
    {c : RowChange fun trade : HistoryTrade => trade.id}
    (h : signalIdChange signals trade = some c) :
    c.row = trade.id ∧ ∃ signalId, closestSignal signals trade.toLegacyTrade = some signalId ∧
      c.apply = fun row => { row with signalId := some signalId } := by
  rcases Option.map_eq_some_iff.mp h with ⟨signalId, hsignal, rfl⟩
  exact ⟨rfl, signalId, hsignal, rfl⟩

theorem exists_signalIdChange {trade : HistoryTrade} {signalId : ℕ}
    (h : closestSignal signals trade.toLegacyTrade = some signalId) :
    ∃ c, signalIdChange signals trade = some c ∧ c.row = trade.id := by
  unfold signalIdChange
  rw [h]
  exact ⟨_, rfl, rfl⟩

def HistoryTrade.matchSignal (signals : List HistorySignal) (trade : HistoryTrade) : HistoryTrade :=
  { trade with signalId := trade.signalId.or (closestSignal signals trade.toLegacyTrade) }

theorem signalIdChanges_distinct (db : HistoryDb) :
    (((db.trades.rows.filter (·.signalId.isNone)).filterMap
      (signalIdChange db.signals.rows)).map RowChange.row).Nodup := by
  have hsublist := filterMap_sublist (fun trade : HistoryTrade => trade.id)
    (fun trade c (hc : signalIdChange db.signals.rows trade = some c) =>
      (signalIdChange_eq_some hc).1) (db.trades.rows.filter (·.signalId.isNone))
  exact db.trades.distinct.sublist (hsublist.trans (filter_sublist.map _))

theorem signalIdChanges_each (db : HistoryDb) :
    ∀ c ∈ (db.trades.rows.filter (·.signalId.isNone)).filterMap (signalIdChange db.signals.rows),
      ∀ row ∈ db.trades.rows, row.id = c.row → c.apply row = row.matchSignal db.signals.rows := by
  intro c hc row hrow hkey
  rcases mem_filterMap.mp hc with ⟨trade, htrade, hchange⟩
  rcases mem_filter.mp htrade with ⟨hmem, hnone⟩
  rcases signalIdChange_eq_some hchange with ⟨hid, signalId, hsignal, happly⟩
  have hsame : row = trade := eq_of_key hrow hmem (hkey.trans hid)
  rw [happly, hsame, matchSignal, Option.isNone_iff_eq_none.mp hnone, hsignal]
  rfl

theorem HistoryTrade.matchSignal_complete :
    (trade.matchSignal signals).complete signals trades = trade.complete signals trades := by
  refine complete_eq rfl rfl ?_ rfl
  simp [matchSignal, Option.or_assoc]

theorem HistoryTrade.matchSignal_defaults {trade : HistoryTrade}
    (h : trade.backfillDefaults = trade) :
    (trade.matchSignal signals).backfillDefaults = trade.matchSignal signals := by
  have hboth : (trade.matchSignal signals).backfillDefaults =
      trade.backfillDefaults.matchSignal signals := rfl
  rw [hboth, h]

theorem HistoryTrade.matchSignal_eq_self {trade : HistoryTrade}
    (h : trade.signalId.or (closestSignal signals trade.toLegacyTrade) = trade.signalId) :
    trade.matchSignal signals = trade := by
  unfold matchSignal
  rw [h]

theorem HistoryDb.SameEnd.tradeStatements {F : HistoryTrade → HistoryTrade}
    {cs : List (RowChange fun trade : HistoryTrade => trade.id)}
    (hdistinct : (cs.map RowChange.row).Nodup)
    (heach : ∀ c ∈ cs, ∀ row ∈ db.trades.rows, row.id = c.row → c.apply row = F row)
    (hlegacy : ∀ trade ∈ db.trades.rows, (F trade).toLegacyTrade = trade.toLegacyTrade)
    (hcomplete : ∀ trade ∈ db.trades.rows,
      (F trade).complete db.completedSignals.rows db.legacyTrades =
        trade.complete db.completedSignals.rows db.legacyTrades) (n : ℕ) :
    db.SameEnd fetch config (issue ((BubaPaint.tradeStatements cs).take n) db) := by
  unfold BubaPaint.tradeStatements
  rw [← map_take]
  rw [← BubaPaint.tradeStatements, issue_tradeStatements]
  rcases rows_changes_take hdistinct heach n with ⟨g, hrows, hg⟩
  refine .trades hrows (fun trade htrade => ?_) fun trade htrade => ?_
  · rcases hg trade htrade with hsame | hchanged
    · rw [hsame]
    · rw [hchanged, hlegacy trade htrade]
  · rcases hg trade htrade with hsame | hchanged
    · rw [hsame]
    · rw [hchanged, hcomplete trade htrade]

theorem backfillMissingSignalIds_upholds :
    Script.UpholdsPass (HistoryDb.SameEnd fetch config)
      (fun db => (db.MarketsDone fetch ∧ db.SignalsDone) ∧ db.DefaultsDone)
      (fun db => ((db.MarketsDone fetch ∧ db.SignalsDone) ∧ db.DefaultsDone) ∧
        db.SignalIdsDone)
      backfillMissingSignalIds where
  part db hdone n := by
    refine .tradeStatements (signalIdChanges_distinct db) (signalIdChanges_each db)
      (fun trade _ => rfl) (fun trade _ => ?_) n
    rw [hdone.1.2.completed]
    exact trade.matchSignal_complete
  whole db hdone := by
    unfold backfillMissingSignalIds
    rw [issue_tradeStatements]
    have hrows := rows_changes_all (signalIdChanges_distinct db) (signalIdChanges_each db) ?_
    · refine ⟨⟨hdone.1, fun trade htrade => ?_⟩, fun trade htrade => ?_⟩
      · rw [hrows] at htrade
        rcases mem_map.mp htrade with ⟨old, hold, rfl⟩
        exact matchSignal_defaults (hdone.2 old hold)
      · rw [hrows] at htrade
        rcases mem_map.mp htrade with ⟨old, hold, rfl⟩
        simp [matchSignal, Option.or_assoc]
    · intro trade htrade
      cases hid : trade.signalId with
      | some signalId => exact .inl (matchSignal_eq_self (by simp [hid]))
      | none =>
        cases hsignal : closestSignal db.signals.rows trade.toLegacyTrade with
        | none => exact .inl (matchSignal_eq_self (by simp [hid, hsignal]))
        | some signalId =>
          right
          rcases exists_signalIdChange hsignal with ⟨c, hc, hrow⟩
          have hmem : trade ∈ db.trades.rows.filter (·.signalId.isNone) :=
            mem_filter.mpr ⟨htrade, by simp [hid]⟩
          exact mem_map.mpr ⟨c, mem_filterMap.mpr ⟨trade, hmem, hc⟩, hrow⟩

/-! ## Spread groups -/

def HistoryTrade.joinGroup (trades : List LegacyTrade) (trade : HistoryTrade) : HistoryTrade :=
  { trade with
    executionGroupId := trade.executionGroupId.or (tradeGroup trades trade.toLegacyTrade) }

theorem mem_spreadRows {trade : LegacyTrade} :
    trade ∈ spreadRows trades ↔ trade ∈ trades ∧ trade.strategy = "spread-capture" := by
  simp [spreadRows]

theorem mem_groupChanges {group : SpreadGroup}
    {c : RowChange fun trade : HistoryTrade => trade.id} (h : c ∈ groupChanges group) :
    ∃ groupId, group.groupId = some groupId ∧ c.row ∈ group.2.map (·.1) ∧
      c.apply = fun trade =>
        { trade with executionGroupId := trade.executionGroupId.or (some groupId) } := by
  unfold groupChanges at h
  split at h
  · cases h
  · rename_i groupId hgroup
    rcases mem_map.mp h with ⟨member, hmember, rfl⟩
    exact ⟨groupId, hgroup, mem_map_of_mem hmember, rfl⟩

theorem groupChanges_rows (group : SpreadGroup) :
    ((groupChanges group).map RowChange.row).Sublist (group.2.map (·.1)) := by
  unfold groupChanges
  split
  · exact nil_sublist _
  · rw [map_map]
    exact List.Sublist.refl _

theorem mem_spreadGroup {key : String × String × ℕ} {id : ℕ} :
    id ∈ (spreadGroup trades key).2.map (·.1) ↔
      ∃ trade ∈ spreadRows trades, trade.spreadKey = key ∧ trade.id = id := by
  simp [spreadGroup, and_assoc]

theorem eq_of_spreadRows (hdistinct : (trades.map (·.id)).Nodup) {trade trade' : LegacyTrade}
    (htrade : trade ∈ spreadRows trades) (htrade' : trade' ∈ trades) (hid : trade.id = trade'.id) :
    trade = trade' :=
  inj_on_of_nodup_map hdistinct (mem_spreadRows.mp htrade).1 htrade' hid

theorem nodup_spreadGroups (hdistinct : (trades.map (·.id)).Nodup) :
    ((spreadGroups trades).flatMap fun group => group.2.map (·.1)).Nodup := by
  have hrows : ((spreadRows trades).map (·.id)).Nodup := by
    unfold spreadRows
    rw [((perm_insertionSort (fun trade trade' : LegacyTrade => trade.id ≤ trade'.id)
      _).map _).nodup_iff]
    exact hdistinct.sublist (filter_sublist.map _)
  refine nodup_flatMap.mpr ⟨?_, ?_⟩
  · intro group hgroup
    rcases mem_map.mp hgroup with ⟨key, -, rfl⟩
    unfold spreadGroup
    rw [map_map]
    exact hrows.sublist (filter_sublist.map _)
  · unfold spreadGroups
    rw [pairwise_map]
    refine (nodup_dedup _).imp fun {key key'} hne => ?_
    intro id hid hid'
    rcases mem_spreadGroup.mp hid with ⟨trade, htrade, rfl, rfl⟩
    rcases mem_spreadGroup.mp hid' with ⟨trade', htrade', rfl, hsame⟩
    exact hne (congrArg _ (eq_of_spreadRows hdistinct htrade' (mem_spreadRows.mp htrade).1 hsame).symm)

theorem nodup_legacyTrades (db : HistoryDb) : (db.legacyTrades.map (·.id)).Nodup := by
  unfold legacyTrades
  rw [map_map]
  exact db.trades.distinct

variable (course) in
theorem groupChanges_distinct (db : HistoryDb) :
    (((course.groups (spreadGroups db.legacyTrades)).flatMap groupChanges).map
      RowChange.row).Nodup := by
  have hmembers : ((course.groups (spreadGroups db.legacyTrades)).flatMap
      fun group => group.2.map (·.1)).Nodup := by
    rw [((course.groups_perm _).flatMap_right _).nodup_iff]
    exact nodup_spreadGroups (nodup_legacyTrades db)
  refine hmembers.sublist ?_
  rw [map_flatMap]
  exact List.Sublist.flatMap_right _ fun group _ => groupChanges_rows group

variable (course) in
theorem groupChanges_each (db : HistoryDb) :
    ∀ c ∈ (course.groups (spreadGroups db.legacyTrades)).flatMap groupChanges,
      ∀ row ∈ db.trades.rows, row.id = c.row → c.apply row = row.joinGroup db.legacyTrades := by
  intro c hc row hrow hkey
  rcases mem_flatMap.mp hc with ⟨group, hgroup, hchange⟩
  rcases mem_groupChanges hchange with ⟨groupId, hname, hmember, happly⟩
  rcases mem_map.mp ((course.groups_perm _).mem_iff.mp hgroup) with ⟨key, -, rfl⟩
  rcases mem_spreadGroup.mp hmember with ⟨trade, htrade, rfl, hid⟩
  have hsame : trade = row.toLegacyTrade := eq_of_spreadRows (nodup_legacyTrades db) htrade
    (mem_map_of_mem hrow) (hid.trans hkey.symm)
  have hjoined : tradeGroup db.legacyTrades row.toLegacyTrade = some groupId := by
    unfold tradeGroup
    rw [← hsame, if_pos (mem_spreadRows.mp htrade).2, hname]
  rw [happly, joinGroup, hjoined]

variable (course) in
theorem exists_groupChange {trade : HistoryTrade} (htrade : trade ∈ db.trades.rows)
    {groupId : String} (h : tradeGroup db.legacyTrades trade.toLegacyTrade = some groupId) :
    trade.id ∈ ((course.groups (spreadGroups db.legacyTrades)).flatMap groupChanges).map
      RowChange.row := by
  unfold tradeGroup at h
  split at h
  · rename_i hspread
    have hrow : trade.toLegacyTrade ∈ spreadRows db.legacyTrades :=
      mem_spreadRows.mpr ⟨mem_map_of_mem htrade, hspread⟩
    have hgroup : spreadGroup db.legacyTrades trade.spreadKey ∈ spreadGroups db.legacyTrades :=
      mem_map_of_mem (mem_dedup.mpr (mem_map_of_mem hrow))
    rw [map_flatMap]
    refine mem_flatMap.mpr ⟨_, (course.groups_perm _).mem_iff.mpr hgroup, ?_⟩
    unfold groupChanges
    rw [h, map_map]
    exact mem_spreadGroup.mpr ⟨_, hrow, rfl, rfl⟩
  · cases h

theorem backfillSpreadExecutionGroups_upholds :
    Script.UpholdsPass (HistoryDb.SameEnd fetch config)
      (fun db => ((db.MarketsDone fetch ∧ db.SignalsDone) ∧ db.DefaultsDone) ∧
        db.SignalIdsDone)
      (fun db => (((db.MarketsDone fetch ∧ db.SignalsDone) ∧ db.DefaultsDone) ∧
        db.SignalIdsDone) ∧ db.GroupsDone)
      (backfillSpreadExecutionGroups course) where
  part db hdone n := by
    refine .tradeStatements (groupChanges_distinct course db) (groupChanges_each course db)
      (fun trade _ => rfl) (fun trade _ => ?_) n
    refine complete_eq rfl rfl rfl ?_
    simp [joinGroup, Option.or_assoc]
  whole db hdone := by
    unfold backfillSpreadExecutionGroups
    rw [issue_tradeStatements]
    have hrows := rows_changes_all (groupChanges_distinct course db)
      (groupChanges_each course db) ?_
    · have hjoined : ∀ trade ∈ (db.trades.changes ((course.groups
          (spreadGroups db.legacyTrades)).flatMap groupChanges)).rows,
          ∃ old ∈ db.trades.rows, old.joinGroup db.legacyTrades = trade := by
        intro trade htrade
        rw [hrows] at htrade
        exact mem_map.mp htrade
      refine ⟨⟨⟨hdone.1.1, fun trade htrade => ?_⟩, fun trade htrade => ?_⟩, fun trade htrade => ?_⟩
      · rcases hjoined trade htrade with ⟨old, hold, rfl⟩
        have hboth : (old.joinGroup db.legacyTrades).backfillDefaults =
          old.backfillDefaults.joinGroup db.legacyTrades := rfl
        rw [hboth, hdone.1.2 old hold]
      · rcases hjoined trade htrade with ⟨old, hold, rfl⟩
        exact hdone.2 old hold
      · have htrades : ({ db with
            trades := db.trades.changes ((course.groups
              (spreadGroups db.legacyTrades)).flatMap groupChanges) } : HistoryDb).legacyTrades =
              db.legacyTrades := by
          refine (congrArg (List.map (·.toLegacyTrade)) hrows).trans ?_
          rw [map_map]
          rfl
        rw [htrades]
        rcases hjoined trade htrade with ⟨old, hold, rfl⟩
        simp [joinGroup, Option.or_assoc]
    · intro trade htrade
      cases hgroup : tradeGroup db.legacyTrades trade.toLegacyTrade with
      | none =>
        left
        unfold joinGroup
        rw [hgroup, Option.or_none]
      | some groupId => exact .inr (exists_groupChange course htrade hgroup)

theorem feeChange_eq_some {result : HistoryTradeResult} {c : RowChange HistoryTradeResult.tradeId}
    (h : feeChange config db result = some c) :
    c.row = result.tradeId ∧ ∃ trade, db.legacyTrades.find? (·.id = result.tradeId) = some trade ∧
      c.apply = (·.updateFee (legacyFee config trade (db.markets.find? trade.marketId))) := by
  rcases Option.map_eq_some_iff.mp h with ⟨trade, htrade, rfl⟩
  exact ⟨rfl, trade, htrade, rfl⟩

variable (config) in
theorem exists_feeChange {result : HistoryTradeResult} {trade : LegacyTrade}
    (h : db.legacyTrades.find? (·.id = result.tradeId) = some trade) :
    ∃ c, feeChange config db result = some c ∧ c.row = result.tradeId := by
  unfold feeChange
  rw [h]
  exact ⟨_, rfl, rfl⟩

/-- The completed markets are those that are there. -/
theorem HistoryDb.MarketsDone.completed (h : db.MarketsDone fetch) :
    db.completedMarkets fetch = db.markets := by
  refine ext_rows (Eq.trans rows_rewrite ?_)
  exact (map_congr_left h).trans (map_id _)

variable (config) in
theorem feeChanges_distinct (db : HistoryDb) :
    ((db.results.rows.filterMap (feeChange config db)).map RowChange.row).Nodup := by
  have hsublist := filterMap_sublist HistoryTradeResult.tradeId
    (fun result c (hc : feeChange config db result = some c) => (feeChange_eq_some hc).1)
    db.results.rows
  exact db.results.distinct.sublist hsublist

variable (config) in
theorem feeChanges_each (db : HistoryDb) :
    ∀ c ∈ db.results.rows.filterMap (feeChange config db), ∀ row ∈ db.results.rows,
      row.tradeId = c.row → c.apply row = row.complete config db.legacyTrades db.markets.find? := by
  intro c hc row hrow hkey
  rcases mem_filterMap.mp hc with ⟨result, hresult, hchange⟩
  rcases feeChange_eq_some hchange with ⟨hid, trade, htrade, happly⟩
  have hsame : row = result := eq_of_key hrow hresult (hkey.trans hid)
  rw [happly, hsame, HistoryTradeResult.complete, htrade]

theorem backfillTradeResultFees_upholds :
    Script.UpholdsPass (HistoryDb.SameEnd fetch config)
      (fun db => (((db.MarketsDone fetch ∧ db.SignalsDone) ∧ db.DefaultsDone) ∧
        db.SignalIdsDone) ∧ db.GroupsDone)
      (fun db => ((((db.MarketsDone fetch ∧ db.SignalsDone) ∧ db.DefaultsDone) ∧
        db.SignalIdsDone) ∧ db.GroupsDone) ∧ db.FeesDone config)
      (backfillTradeResultFees config) where
  part db hdone n := by
    unfold backfillTradeResultFees resultStatements
    rw [← map_take]
    rw [← resultStatements, issue_resultStatements]
    rcases rows_changes_take (feeChanges_distinct config db)
      (feeChanges_each config db) n with ⟨g, hrows, hg⟩
    refine .results hrows fun result hresult => ?_
    rw [hdone.1.1.1.1.completed]
    rcases hg result hresult with hsame | hchanged
    · rw [hsame]
    · rw [hchanged]
      exact result.complete_complete
  whole db hdone := by
    unfold backfillTradeResultFees
    rw [issue_resultStatements]
    have hrows := rows_changes_all (feeChanges_distinct config db) (feeChanges_each config db) ?_
    · refine ⟨hdone, fun result hresult => ?_⟩
      rw [hrows] at hresult
      rcases mem_map.mp hresult with ⟨old, hold, rfl⟩
      exact old.complete_complete
    · intro result hresult
      cases htrade : db.legacyTrades.find? (·.id = result.tradeId) with
      | none =>
        left
        unfold HistoryTradeResult.complete
        rw [htrade]
      | some trade =>
        right
        rcases exists_feeChange config htrade with ⟨c, hc, hrow⟩
        exact mem_map.mpr ⟨c, mem_filterMap.mpr ⟨result, hresult, hc⟩, hrow⟩

variable (fetch config course) in
/-- Everything is done apart from the feed events and the marker. -/
theorem backfillPasses_uphold :
    Script.Upholds (HistoryDb.SameEnd fetch config) (fun _ => True)
      (fun db => ((((db.MarketsDone fetch ∧ db.SignalsDone) ∧ db.DefaultsDone) ∧
        db.SignalIdsDone) ∧ db.GroupsDone) ∧ db.FeesDone config)
      (backfillPasses fetch config course) :=
  .cons (fun _ _ _ => .trans) (backfillMarkets_upholds fetch config course) <|
  .cons (fun _ _ _ => .trans) synthesizeFeedEvents_upholds <|
  .cons (fun _ _ _ => .trans) backfillSignals_upholds <|
  .cons (fun _ _ _ => .trans) backfillTradeDefaults_upholds <|
  .cons (fun _ _ _ => .trans) backfillMissingSignalIds_upholds <|
  .cons (fun _ _ _ => .trans) backfillSpreadExecutionGroups_upholds <|
  .cons (fun _ _ _ => .trans) backfillTradeResultFees_upholds <|
  .nil .refl

/-- A database in which everything is done is its own end. -/
theorem completed_eq_self
    (h : ((((db.MarketsDone fetch ∧ db.SignalsDone) ∧ db.DefaultsDone) ∧
      db.SignalIdsDone) ∧ db.GroupsDone) ∧ db.FeesDone config) :
    db.completed fetch config = { db with feedEvents := [], completedAt := none } := by
  rcases h with ⟨⟨⟨⟨⟨hmarkets, hsignals⟩, hdefaults⟩, hsignalIds⟩, hgroups⟩, hfees⟩
  have htrades : db.completedTrades = db.trades := by
    refine ext_rows (Eq.trans rows_rewrite ?_)
    rw [hsignals.completed]
    refine (map_congr_left fun trade htrade => ?_).trans (map_id _)
    unfold complete
    rw [hdefaults trade htrade, hsignalIds trade htrade, hgroups trade htrade]
    rfl
  have hresults : db.completedResults fetch config = db.results := by
    refine ext_rows (Eq.trans rows_rewrite ?_)
    rw [hmarkets.completed]
    exact (map_congr_left hfees).trans (map_id _)
  unfold completed
  rw [hmarkets.completed, htrades, hresults]
  rw [ext_rows hsignals.completed]

end BubaPaint
