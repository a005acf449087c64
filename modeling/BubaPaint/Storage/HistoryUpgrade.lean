import BubaPaint.Storage.HistoryPasses

/-!
# An upgrade after crashes

The feed events are the one table that a crash can spoil. They are inserted in three statements, and
the pass skips itself as soon as there is any event: what the first crash after an insertion leaves
is all that there will ever be. The other passes complete the rows however often they are cut off.

Main results:

- Theorem `history_upgrade`: when an upgrade that completes is complete.
-/

namespace BubaPaint

open Effects List

variable {fetch : HistoryMarketRow → MarketMetadata × MarketMetadata}
variable {config : Config} {course : UpgradeCourse} {db db' : HistoryDb}

/-! ## Feed events -/

def insertions (db : HistoryDb) : List (List HistoryFeedEvent) :=
  eventSelections.map fun select => select db

def statementsBefore (db : HistoryDb) : ℕ :=
  (loadMarketRows db.windows).length

variable (fetch config) in
theorem windows_completed (db : HistoryDb) : (db.completed fetch config).windows = db.windows := by
  have hrows : (db.completedMarkets fetch).rows =
      db.markets.rows.map (·.complete fetch) := KeyedTable.rows_rewrite
  refine (congrArg (List.map fun market : HistoryMarket => market.toHistoryWindow) hrows).trans ?_
  rw [map_map]
  exact map_congr_left fun market _ => market.complete_window

theorem insertions_congr (hticks : db'.tickData = db.tickData)
    (hwindows : db'.windows = db.windows) : insertions db' = insertions db := by
  simp [insertions, eventSelections, priceEvents, clobEvents, hticks, hwindows]

theorem HistoryDb.SameEnd.insertions (h : db.SameEnd fetch config db') :
    BubaPaint.insertions db' = BubaPaint.insertions db ∧
      statementsBefore db' = statementsBefore db := by
  have hwindows : db'.windows = db.windows := by
    rw [← windows_completed fetch config, h.completed, windows_completed]
  have hticks := congrArg (fun end' : HistoryDb => end'.tickData) h.completed
  exact ⟨insertions_congr hticks hwindows, by rw [statementsBefore, hwindows, statementsBefore]⟩

theorem issue_insertEvents {selects : List (HistoryDb → List HistoryFeedEvent)}
    (h : ∀ select ∈ selects, ∀ (db : HistoryDb) events,
      select { db with feedEvents := events } = select db) (db : HistoryDb) :
    issue (selects.map insertEvents) db =
      { db with feedEvents := db.feedEvents ++ (selects.map fun select => select db).flatten } := by
  induction selects generalizing db with
  | nil => simp
  | cons select rest ih =>
    have hrest : ∀ other ∈ rest, ∀ (db : HistoryDb) events,
        other { db with feedEvents := events } = other db :=
      fun other hother => h other (mem_cons_of_mem _ hother)
    have hsame : (rest.map fun other => other (insertEvents select db)) =
        rest.map fun other => other db :=
      map_congr_left fun other hother => hrest other hother db _
    rw [map_cons, issue_cons, ih hrest, hsame]
    simp [insertEvents]

theorem issue_take_insertions (hevents : db.feedEvents = []) (n : ℕ) :
    issue ((synthesizeFeedEvents db).take n) db =
      { db with feedEvents := ((insertions db).take n).flatten } := by
  have hreads : ∀ select ∈ eventSelections.take n, ∀ (db : HistoryDb) events,
      select { db with feedEvents := events } = select db := by
    intro select hselect db events
    have hmem := mem_of_mem_take hselect
    simp only [eventSelections, mem_cons, not_mem_nil, or_false] at hmem
    rcases hmem with rfl | rfl | rfl <;> rfl
  unfold synthesizeFeedEvents insertions
  rw [if_neg (by simp [hevents]), ← map_take, issue_insertEvents hreads, hevents,
    nil_append, map_take]

theorem length_synthesizeFeedEvents (hevents : db.feedEvents = []) :
    (synthesizeFeedEvents db).length = (insertions db).length := by
  unfold synthesizeFeedEvents insertions
  rw [if_neg (by simp [hevents]), length_map, length_map]

variable (config course) in
def laterPasses : Script HistoryDb :=
  [backfillSignals, backfillTradeDefaults, backfillMissingSignalIds,
    backfillSpreadExecutionGroups course, backfillTradeResultFees config, markCompleted course]

variable (config course) in
theorem laterPasses_uphold :
    Script.Upholds (fun db db' : HistoryDb => db'.feedEvents = db.feedEvents) (fun _ => True)
      (fun _ => True) (laterPasses config course) := by
  refine .of_statements (fun _ => rfl) (fun _ _ _ h h' => h'.trans h) ?_
  intro pass hpass db statement hstatement db'
  simp only [laterPasses, mem_cons, not_mem_nil, or_false] at hpass
  rcases hpass with rfl | rfl | rfl | rfl | rfl | rfl
  · rw [mem_singleton.mp hstatement]
  · rw [mem_singleton.mp hstatement]
  · rcases mem_map.mp hstatement with ⟨c, -, rfl⟩
    rfl
  · rcases mem_map.mp hstatement with ⟨c, -, rfl⟩
    rfl
  · rcases mem_map.mp hstatement with ⟨c, -, rfl⟩
    rfl
  · rw [mem_singleton.mp hstatement]

variable (fetch course) in
theorem issue_backfillMarkets (db : HistoryDb) (n : ℕ) :
    (issue ((backfillMarkets fetch course db).take n) db).feedEvents = db.feedEvents := by
  refine issue_induction (fun db' : HistoryDb => db'.feedEvents = db.feedEvents) rfl ?_
  intro statement hstatement db' hdb'
  rcases mem_map.mp (mem_of_mem_take hstatement) with ⟨c, -, rfl⟩
  exact hdb'

theorem length_backfillMarkets (db : HistoryDb) :
    (backfillMarkets fetch course db).length = statementsBefore db := by
  simp [backfillMarkets, marketStatements, statementsBefore, (course.markets_perm _).length_eq]

variable (fetch config course) in
/-- The feed events after an upgrade that is cut off: the insertions come after the statements about
the markets, if there are no events yet. -/
theorem cut_feedEvents (n : ℕ) (db : HistoryDb) :
    ((upgradePasses fetch config course).cut n db).feedEvents =
      if db.feedEvents = [] then ((insertions db).take (n - statementsBefore db)).flatten
      else db.feedEvents := by
  have hscript : upgradePasses fetch config course =
      backfillMarkets fetch course :: synthesizeFeedEvents ::
        laterPasses config course := rfl
  rw [hscript, Script.cut_cons, length_backfillMarkets]
  by_cases hearly : n < statementsBefore db
  · rw [if_pos hearly, issue_backfillMarkets, Nat.sub_eq_zero_of_le hearly.le]
    split
    · rename_i hnone
      simp [hnone]
    · rfl
  · rw [if_neg hearly]
    have hevents := issue_backfillMarkets fetch course db (backfillMarkets fetch course db).length
    have hsame : db.SameEnd fetch config (issue (backfillMarkets fetch course db) db) :=
      (backfillMarkets_upholds fetch config course).rel_whole trivial
    rw [take_length] at hevents
    generalize issue (backfillMarkets fetch course db) db = db₁ at hevents hsame ⊢
    rw [Script.cut_cons, ← hevents, ← hsame.insertions.1]
    generalize n - statementsBefore db = m
    by_cases hnone : db₁.feedEvents = []
    · rw [if_pos hnone]
      split
      · rw [issue_take_insertions hnone]
      · rename_i hwhole
        rw [(laterPasses_uphold config course).cut _ trivial]
        have hall := issue_take_insertions hnone (synthesizeFeedEvents db₁).length
        rw [take_length] at hall
        rw [hall, length_synthesizeFeedEvents hnone]
        rw [length_synthesizeFeedEvents hnone, Nat.not_lt] at hwhole
        rw [take_of_length_le (le_of_eq rfl), take_of_length_le hwhole]
    · have hskip : synthesizeFeedEvents db₁ = [] := if_pos (length_pos_iff.mpr hnone)
      rw [if_neg hnone, hskip, length_nil, if_neg (Nat.not_lt_zero _),
        (laterPasses_uphold config course).cut _ trivial]
      rfl

def wholeEvents (db : HistoryDb) : List HistoryFeedEvent :=
  if db.feedEvents = [] then (insertions db).flatten else db.feedEvents

variable (fetch config course) in
theorem run_feedEvents (db : HistoryDb) :
    ((upgradePasses fetch config course).run db).feedEvents = wholeEvents db := by
  rcases Script.cut_eq_run (upgradePasses fetch config course) db with ⟨total, htotal⟩
  rw [← htotal (total + statementsBefore db + (insertions db).length) (by omega), cut_feedEvents,
    take_of_length_le (by omega), wholeEvents]

variable (fetch config course) in
theorem upgradeOneDb_eq (hunmarked : db.completedAt = none) :
    upgradeOneDb fetch config course db =
      { db.completed fetch config with
        feedEvents := wholeEvents db
        completedAt := some course.nowMs } := by
  rcases (backfillPasses_uphold fetch config course).run db trivial with
    ⟨hsame, hdone⟩
  have hrun : (upgradePasses fetch config course).run db =
      { (backfillPasses fetch config course).run db with
        completedAt := some course.nowMs } := Script.run_append _ _ db
  have hevents := run_feedEvents fetch config course db
  unfold upgradeOneDb
  rw [hunmarked, if_neg (by simp), ← hsame.completed, completed_eq_self hdone, ← hevents, hrun]

variable (fetch config course) in
theorem crashedUpgrade_cases (hunmarked : db.completedAt = none) (n : ℕ) :
    crashedUpgrade fetch config course n db =
      upgradeOneDb fetch config course db ∨
      db.SameEnd fetch config (crashedUpgrade fetch config course n db) := by
  have huphold := backfillPasses_uphold fetch config course
  have hpasses : upgradePasses fetch config course =
      backfillPasses fetch config course ++ [markCompleted course] := rfl
  unfold crashedUpgrade upgradeOneDb
  rw [hunmarked, if_neg (by simp), if_neg (by simp), hpasses]
  rcases Script.cut_concat (backfillPasses fetch config course)
    (markCompleted course) n db with ⟨m, hcut⟩ | ⟨m, hcut⟩
  · right
    rw [hcut]
    exact huphold.cut db trivial m
  · rw [hcut]
    rcases m with _ | m
    · right
      rw [take_zero, issue_nil]
      exact (huphold.run db trivial).1
    · left
      rw [Script.run_append]
      simp [markCompleted]

variable (fetch config course) in
theorem crashedUpgrade_feedEvents (hunmarked : db.completedAt = none) (n : ℕ) :
    (crashedUpgrade fetch config course n db).feedEvents =
      if db.feedEvents = [] then ((insertions db).take (n - statementsBefore db)).flatten
      else db.feedEvents := by
  unfold crashedUpgrade
  rw [hunmarked, if_neg (by simp)]
  exact cut_feedEvents fetch config course n db

/-! ## Crashes -/

/-- What crashes leave: each upgrade has its course and the number of its statements. -/
def crashedUpgrades (fetch : HistoryMarketRow → MarketMetadata × MarketMetadata)
    (config : Config) (crashes : List (UpgradeCourse × ℕ)) (db : HistoryDb) : HistoryDb :=
  crashes.foldl (fun db crash => crashedUpgrade fetch config crash.1 crash.2 db) db

/-- The rows that the insertions of a crashed upgrade have inserted. -/
def crashedInsertions (db : HistoryDb) (crash : UpgradeCourse × ℕ) : List HistoryFeedEvent :=
  ((insertions db).take (crash.2 - statementsBefore db)).flatten

/-- The first crash that left feed events. -/
def firstInsertion (crashes : List (UpgradeCourse × ℕ)) (db : HistoryDb) :
    Option (UpgradeCourse × ℕ) :=
  crashes.find? fun crash => !(crashedInsertions db crash).isEmpty

/-- The feed events after crashes and an upgrade that completes. -/
def finalEvents (crashes : List (UpgradeCourse × ℕ)) (db : HistoryDb) : List HistoryFeedEvent :=
  match firstInsertion crashes db with
  | some crash => crashedInsertions db crash
  | none => (insertions db).flatten

variable (crashes : List (UpgradeCourse × ℕ))

variable (fetch config course) in
theorem crashedUpgrades_of_marked (hmarked : db.completedAt ≠ none) :
    crashedUpgrades fetch config crashes db = db ∧ upgradeOneDb fetch config course db = db := by
  have hsome : db.completedAt.isSome = true := Option.isSome_iff_ne_none.mpr hmarked
  constructor
  · unfold crashedUpgrades
    induction crashes with
    | nil => rfl
    | cons crash rest ih =>
      have hkept : crashedUpgrade fetch config crash.1 crash.2 db = db :=
        if_pos hsome
      rw [foldl_cons, hkept]
      exact ih
  · exact if_pos hsome

theorem upgrade_of_upgraded {crashes : List (UpgradeCourse × ℕ)} {course' : UpgradeCourse}
    (hunmarked : db.completedAt = none) :
    upgradeOneDb fetch config course (crashedUpgrades fetch config
      crashes (upgradeOneDb fetch config course' db)) =
        { db.completed fetch config with
          feedEvents := wholeEvents db
          completedAt := some course'.nowMs } := by
  rw [upgradeOneDb_eq fetch config course' hunmarked]
  have hmarked : ({ db.completed fetch config with
      feedEvents := wholeEvents db
      completedAt := some course'.nowMs } : HistoryDb).completedAt ≠ none := Option.some_ne_none _
  rcases crashedUpgrades_of_marked fetch config course crashes hmarked with
    ⟨hcrashes, hupgrade⟩
  rw [hcrashes, hupgrade]

variable (fetch config course) in
theorem upgrade_of_feedEvents (hunmarked : db.completedAt = none) (hevents : db.feedEvents ≠ []) :
    ∃ nowMs, upgradeOneDb fetch config course (crashedUpgrades fetch config crashes db) =
      { db.completed fetch config with
        feedEvents := db.feedEvents
        completedAt := some nowMs } := by
  have hwhole : wholeEvents db = db.feedEvents := if_neg hevents
  induction crashes generalizing db with
  | nil =>
    refine ⟨course.nowMs, (upgradeOneDb_eq fetch config course hunmarked).trans ?_⟩
    rw [hwhole]
  | cons crash rest ih =>
    have hkept := crashedUpgrade_feedEvents fetch config crash.1 hunmarked crash.2
    rw [if_neg hevents] at hkept
    rcases crashedUpgrade_cases fetch config crash.1 hunmarked crash.2 with
      hreached | hsame
    · refine ⟨crash.1.nowMs, ?_⟩
      change upgradeOneDb fetch config course (crashedUpgrades fetch
        config rest (crashedUpgrade fetch config crash.1 crash.2 db)) = _
      rw [hreached, upgrade_of_upgraded hunmarked, hwhole]
    · have hrest := ih (hsame.unmarked.trans hunmarked) (hkept ▸ hevents) (if_neg (hkept ▸ hevents))
      rw [hsame.completed, hkept] at hrest
      exact hrest

theorem finalEvents_of_nothing {crashes : List (UpgradeCourse × ℕ)}
    (hnothing : (insertions db).flatten = []) : finalEvents crashes db = [] := by
  have hcrash : ∀ crash, crashedInsertions db crash = [] := by
    intro crash
    refine flatten_eq_nil_iff.mpr fun events hevents => ?_
    exact flatten_eq_nil_iff.mp hnothing events (mem_of_mem_take hevents)
  have hfirst : firstInsertion crashes db = none := by simp [firstInsertion, hcrash]
  rw [finalEvents, hfirst]
  exact hnothing

theorem finalEvents_congr (hinsertions : insertions db' = insertions db)
    (hbefore : statementsBefore db' = statementsBefore db) :
    finalEvents crashes db' = finalEvents crashes db := by
  simp [finalEvents, firstInsertion, crashedInsertions, hinsertions, hbefore]

variable (fetch config course) in
/-- What crashes and an upgrade that completes leave. -/
theorem upgrade_of_crashes (hunmarked : db.completedAt = none) (hevents : db.feedEvents = []) :
    ∃ nowMs, upgradeOneDb fetch config course (crashedUpgrades fetch config crashes db) =
      { db.completed fetch config with
        feedEvents := finalEvents crashes db
        completedAt := some nowMs } := by
  have hwhole : wholeEvents db = (insertions db).flatten := if_pos hevents
  induction crashes generalizing db with
  | nil =>
    refine ⟨course.nowMs, (upgradeOneDb_eq fetch config course hunmarked).trans ?_⟩
    rw [hwhole]
    rfl
  | cons crash rest ih =>
    have hinserted := crashedUpgrade_feedEvents fetch config crash.1 hunmarked crash.2
    rw [if_pos hevents] at hinserted
    have hfinal : finalEvents (crash :: rest) db =
        if crashedInsertions db crash = [] then finalEvents rest db
        else crashedInsertions db crash := by
      unfold finalEvents firstInsertion
      rw [List.find?_cons]
      by_cases hnone : crashedInsertions db crash = []
      · simp [hnone]
      · have hfound : (crashedInsertions db crash).isEmpty = false := by simp [hnone]
        simp [hnone, hfound]
    change ∃ nowMs, upgradeOneDb fetch config course (crashedUpgrades
      fetch config rest (crashedUpgrade fetch config crash.1 crash.2 db)) = _
    rw [hfinal]
    rcases crashedUpgrade_cases fetch config crash.1 hunmarked crash.2 with
      hreached | hsame
    · refine ⟨crash.1.nowMs, ?_⟩
      rw [hreached, upgrade_of_upgraded hunmarked, hwhole]
      rw [hreached, upgradeOneDb_eq fetch config crash.1 hunmarked] at hinserted
      have hall : (insertions db).flatten = crashedInsertions db crash := hwhole ▸ hinserted
      by_cases hnone : crashedInsertions db crash = []
      · rw [if_pos hnone, finalEvents_of_nothing (hall.trans hnone), hall, hnone]
      · rw [if_neg hnone, hall]
    · have hunmarked' := hsame.unmarked.trans hunmarked
      by_cases hnone : crashedInsertions db crash = []
      · have hevents' := hinserted.trans hnone
        have hrest := ih hunmarked' hevents' (if_pos hevents')
        have hsame' := finalEvents_congr rest hsame.insertions.1 hsame.insertions.2
        rw [if_pos hnone, ← hsame', ← hsame.completed]
        exact hrest
      · have hrest := upgrade_of_feedEvents fetch config course rest hunmarked'
          (by rw [hinserted]; exact hnone)
        rw [hsame.completed, hinserted] at hrest
        rw [if_neg hnone]
        exact hrest

theorem upgrade_feedEvents
    (fetch : HistoryMarketRow → MarketMetadata × MarketMetadata) (config : Config)
    (course : UpgradeCourse) (crashes : List (UpgradeCourse × ℕ)) (db : HistoryDb)
    (hunmarked : db.completedAt = none) (hevents : db.feedEvents = []) :
    (upgradeOneDb fetch config course (crashedUpgrades fetch config crashes db)).feedEvents =
        finalEvents crashes db := by
  rcases upgrade_of_crashes fetch config course crashes hunmarked hevents with
    ⟨nowMs, hfinal⟩
  rw [hfinal]

/-! ## One event for each tick -/

def HistoryFeedEvent.tick (event : HistoryFeedEvent) : HistoryTick where
  timestamp := event.receivedAtMs
  source := event.source
  price := event.price
  bid := event.bestBid
  ask := event.bestAsk
  bidSize := event.bidSize
  askSize := event.askSize

@[simp]
theorem HistoryTick.event_tick (tick : HistoryTick) (eventType : String)
    (marketId assetId : Option String) : (tick.event eventType marketId assetId).tick = tick :=
  rfl

def HistoryTick.fromClob (tick : HistoryTick) : Bool :=
  tick.source = .clobUp || tick.source = .clobDown

/-- How many windows a tick lies in. -/
def HistoryDb.covering (db : HistoryDb) (tick : HistoryTick) : ℕ :=
  (db.windows.filter (·.covers tick.timestamp)).length

/-- The number of events that the insertions insert for a tick. -/
def HistoryDb.copies (db : HistoryDb) (tick : HistoryTick) : ℕ :=
  if tick.fromClob then db.covering tick else 1

theorem count_flatMap_replicate {α : Type} [DecidableEq α] (copies : α → ℕ) (l : List α) (a : α) :
    (l.flatMap fun b => List.replicate (copies b) b).count a = copies a * l.count a := by
  induction l with
  | nil => simp
  | cons b rest ih =>
    rw [flatMap_cons, count_append, ih, count_replicate, count_cons]
    by_cases hsame : b = a
    · simp [hsame, Nat.mul_add, Nat.add_comm]
    · simp [hsame]

theorem count_filter_ite {α : Type} [DecidableEq α] (p : α → Bool) (l : List α) (a : α) :
    (l.filter p).count a = if p a then l.count a else 0 := by
  by_cases ha : p a
  · simp [ha, count_filter]
  · have hnone : a ∉ l.filter p := fun hmem => ha (mem_filter.mp hmem).2
    simp [ha, count_eq_zero.mpr hnone]

theorem priceEvents_tick (db : HistoryDb) :
    (priceEvents db).map (·.tick) = db.tickData.filter fun tick => !tick.fromClob := by
  unfold priceEvents
  rw [map_map]
  refine (map_id _).trans (filter_congr fun tick _ => ?_)
  unfold HistoryTick.fromClob
  cases tick.source <;> rfl

theorem clobEvents_tick (source : TickSource) (token : HistoryWindow → String) (db : HistoryDb) :
    (clobEvents source token db).map (·.tick) =
      (db.tickData.filter (·.source = source)).flatMap fun tick =>
        List.replicate (db.covering tick) tick := by
  unfold clobEvents
  rw [map_flatMap]
  refine flatMap_congr fun tick _ => ?_
  rw [map_map]
  exact (map_congr_left fun _ _ => tick.event_tick _ _ _).trans map_const'

theorem count_insertions (db : HistoryDb) (tick : HistoryTick) :
    ((insertions db).flatten.map (·.tick)).count tick =
      db.copies tick * db.tickData.count tick := by
  have hinsertions : (insertions db).flatten.map (·.tick) =
      (priceEvents db).map (·.tick) ++ ((clobEvents .clobUp (·.upTokenId) db).map (·.tick) ++
        (clobEvents .clobDown (·.downTokenId) db).map (·.tick)) := by
    simp [insertions, eventSelections]
  rw [hinsertions, priceEvents_tick, clobEvents_tick, clobEvents_tick, count_append,
    count_append, count_flatMap_replicate, count_flatMap_replicate, count_filter_ite,
    count_filter_ite, count_filter_ite]
  unfold HistoryDb.copies HistoryTick.fromClob
  cases hsource : tick.source <;> simp

theorem insertions_perm_iff (db : HistoryDb) :
    ((insertions db).flatten.map (·.tick)).Perm db.tickData ↔
      ∀ tick ∈ db.tickData, tick.fromClob = true → db.covering tick = 1 := by
  rw [perm_iff_count]
  constructor
  · intro hcounts tick htick hclob
    have hcopies : db.copies tick = db.covering tick := if_pos hclob
    have hcount := hcounts tick
    rw [count_insertions, hcopies] at hcount
    exact (Nat.mul_eq_right (count_pos_iff.mpr htick).ne').mp hcount
  · intro hclear tick
    rw [count_insertions]
    by_cases htick : tick ∈ db.tickData
    · unfold HistoryDb.copies
      split
      · rename_i hclob
        rw [hclear tick htick hclob, one_mul]
      · rw [one_mul]
    · rw [count_eq_zero.mpr htick, mul_zero]

theorem insertions_eventAtMs {event : HistoryFeedEvent} (h : event ∈ (insertions db).flatten) :
    event.eventAtMs = event.receivedAtMs := by
  simp only [insertions, eventSelections, map_cons, map_nil, flatten_cons,
    flatten_nil, append_nil, mem_append] at h
  rcases h with h | h | h
  · rcases mem_map.mp h with ⟨tick, -, rfl⟩
    rfl
  all_goals
    rcases mem_flatMap.mp h with ⟨tick, -, hevent⟩
    rcases mem_map.mp hevent with ⟨window, -, rfl⟩
    rfl

/-! ## When an upgrade is complete -/

variable (fetch config) in
/-- There is one feed event for each tick, and the database is the one that an uninterrupted upgrade
leaves, whatever its course, if it ends at the same time. -/
structure HistoryDb.CompletelyUpgraded (db final : HistoryDb) : Prop where
  ticks : (final.feedEvents.map (·.tick)).Perm db.tickData
  times : ∀ event ∈ final.feedEvents, event.eventAtMs = event.receivedAtMs
  uninterrupted : ∃ nowMs, ∀ course : UpgradeCourse, course.nowMs = nowMs →
    final = upgradeOneDb fetch config course db

/-- The course that takes everything in the given order. -/
def UpgradeCourse.straight (nowMs : ℕ) : UpgradeCourse where
  markets := id
  markets_perm := .refl
  groups := id
  groups_perm := .refl
  nowMs := nowMs

theorem finalEvents_eq_iff (db : HistoryDb) :
    finalEvents crashes db = (insertions db).flatten ↔
      ∀ crash, firstInsertion crashes db = some crash →
        crashedInsertions db crash = (insertions db).flatten := by
  unfold finalEvents
  cases firstInsertion crashes db with
  | none => simp
  | some crash => simp

/-- After any number of crashes, an upgrade that completes is complete if and only if every tick of
an order book lies in exactly one window, and the first crash that left feed events came after the
last insertion that adds one. -/
theorem history_upgrade
    (fetch : HistoryMarketRow → MarketMetadata × MarketMetadata) (config : Config)
    (course : UpgradeCourse) (crashes : List (UpgradeCourse × ℕ)) (db : HistoryDb)
    (hunmarked : db.completedAt = none) (hevents : db.feedEvents = []) :
    db.CompletelyUpgraded fetch config
        (upgradeOneDb fetch config course (crashedUpgrades fetch config crashes db)) ↔
      (∀ tick ∈ db.tickData, tick.fromClob = true → db.covering tick = 1) ∧
        ∀ crash, firstInsertion crashes db = some crash →
          crashedInsertions db crash = (insertions db).flatten := by
  have hwhole : wholeEvents db = (insertions db).flatten := if_pos hevents
  rcases upgrade_of_crashes fetch config course crashes hunmarked hevents with
    ⟨nowMs, hfinal⟩
  rw [hfinal, ← finalEvents_eq_iff, ← insertions_perm_iff]
  constructor
  · rintro ⟨hticks, -, nowMs', hsame⟩
    have hupgraded := hsame (.straight nowMs') rfl
    rw [upgradeOneDb_eq fetch config _ hunmarked, hwhole] at hupgraded
    have hfound : finalEvents crashes db = (insertions db).flatten :=
      congrArg HistoryDb.feedEvents hupgraded
    exact ⟨hfound ▸ hticks, hfound⟩
  · rintro ⟨hperm, hfound⟩
    rw [hfound]
    refine ⟨hperm, fun event => insertions_eventAtMs, nowMs, fun course' hnow => ?_⟩
    rw [upgradeOneDb_eq fetch config course' hunmarked, hwhole, hnow]

def sampleMetadata : MarketMetadata :=
  ⟨none, none, none, none, none, none, none, none, none, none, none, none⟩

def sampleHistoryMarket (marketId : String) (startTime : ℕ) : HistoryMarket where
  marketId := marketId
  conditionId := "0xc0"
  slug := "btc-updown-5m"
  question := "Bitcoin up or down?"
  upTokenId := marketId ++ "-up"
  downTokenId := marketId ++ "-down"
  endTime := startTime + 300000
  startTime := startTime

def sampleHistory (clobTimestamp : ℕ) : HistoryDb where
  tickData := [
    { timestamp := 1000, source := .binance, price := some 70000, bid := none, ask := none,
      bidSize := none, askSize := none },
    { timestamp := clobTimestamp, source := .clobUp, price := none, bid := some 0.4,
      ask := some 0.6, bidSize := some 10, askSize := some 20 }]
  markets :=
    { rows := [sampleHistoryMarket "m1" 0, sampleHistoryMarket "m2" 300000]
      distinct := by decide }
  feedEvents := []
  signals := .empty
  trades := .empty
  results := .empty
  completedAt := none

/-- A crash between the first two insertions loses the ticks of the order books for good, and a tick
at the boundary of two windows gets two events without any crash. -/
theorem history_upgrade_incomplete :
    ¬ (sampleHistory 2000).CompletelyUpgraded (fun _ => (sampleMetadata, sampleMetadata))
        sampleConfig
        (upgradeOneDb (fun _ => (sampleMetadata, sampleMetadata)) sampleConfig (.straight 9)
          (crashedUpgrades (fun _ => (sampleMetadata, sampleMetadata)) sampleConfig
            [(.straight 8, 3)] (sampleHistory 2000))) ∧
      ¬ (sampleHistory 300000).CompletelyUpgraded (fun _ => (sampleMetadata, sampleMetadata))
        sampleConfig
        (upgradeOneDb (fun _ => (sampleMetadata, sampleMetadata)) sampleConfig (.straight 9)
          (crashedUpgrades (fun _ => (sampleMetadata, sampleMetadata)) sampleConfig []
            (sampleHistory 300000))) := by
  constructor
  · intro h
    have hlength := h.ticks.length_eq
    rw [upgrade_feedEvents _ _ _ _ (sampleHistory 2000) rfl rfl] at hlength
    exact absurd hlength (by decide)
  · intro h
    have hlength := h.ticks.length_eq
    rw [upgrade_feedEvents _ _ _ _ (sampleHistory 300000) rfl rfl] at hlength
    exact absurd hlength (by decide)

/-- A crash after the last insertion does no harm. -/
theorem history_upgrade_sample :
    (sampleHistory 2000).CompletelyUpgraded (fun _ => (sampleMetadata, sampleMetadata)) sampleConfig
      (upgradeOneDb (fun _ => (sampleMetadata, sampleMetadata)) sampleConfig (.straight 9)
        (crashedUpgrades (fun _ => (sampleMetadata, sampleMetadata)) sampleConfig
          [(.straight 7, 1), (.straight 8, 4)] (sampleHistory 2000))) := by
  refine (history_upgrade (fun _ => (sampleMetadata, sampleMetadata)) sampleConfig (.straight 9)
    [(.straight 7, 1), (.straight 8, 4)] (sampleHistory 2000) rfl rfl).mpr ⟨by decide, ?_⟩
  intro crash hfirst
  have hcrash : firstInsertion [(.straight 7, 1), (.straight 8, 4)] (sampleHistory 2000) =
      some (.straight 8, 4) := rfl
  cases Option.some_injective _ (hcrash.symm.trans hfirst)
  rfl

end BubaPaint
