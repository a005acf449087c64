import BubaPaint.Decision.Identifiers

/-!
# Ids over several runs

Runs of the engine follow one another on one database: each is seeded from the open trades that are
stored, hands its events to the writers, and ends with the process. Trades and signals are written
by replacing the row of the same id, and every run counts its ids down from minus one. So a run
reuses none as long as it does not come to an id that was stored before it started.

Main results:

- Theorem `IdsInUse.draw`: drawing ids that are clear of the stored ones.
- Theorem `HostInUse.step`: an action of a host leaves no id reused.
- Theorem `ids_survive_restarts`: neither does a sequence of runs.
-/

namespace BubaPaint

open Effects List

/-- The tables that the engine's events are written to. -/
structure RunDatabase where
  trades : TradesTable
  signals : List LiveDecisionEvidence

namespace RunDatabase

def tradeIds (db : RunDatabase) : List ℤ :=
  db.trades.trades.filterMap (·.id)

def signalIds (db : RunDatabase) : List ℤ :=
  db.signals.map (·.signalId)

/-- Log one signal with an explicit id: a row of the same id is replaced. -/
def logSignalWithContextAndId (db : RunDatabase) (evidence : LiveDecisionEvidence) :
    RunDatabase where
  trades := db.trades
  signals := (db.signals.filter fun row => row.signalId != evidence.signalId) ++ [evidence]

def persistEvent (db : RunDatabase) : LivePersistenceEvent → RunDatabase
  | .signal evidence => db.logSignalWithContextAndId evidence
  | event => { db with trades := db.trades.persist event }

end RunDatabase

/-- A database, the engine that runs on it, and the engine's events that are not written yet. -/
structure EngineHost (σ : Type) where
  db : RunDatabase
  engine : Option (RuntimeDecisionEngine σ)
  unwritten : List LivePersistenceEvent

/-- What happens to a host: a run starts, its engine takes a message, one of its events is stored
or lost, and the run ends with whatever is not written by then. -/
inductive HostAction (σ : Type) where
  | start (config : Config) (strategies : List σ) (seed : RuntimeDecisionSeed)
  | receive (message : EngineMessage)
  | write (index : ℕ) (stored : Bool)
  | stop

instance (seed : RuntimeDecisionSeed) (stored : TradesTable) : Decidable (seed.ReadFrom stored) :=
  decidable_of_iff ((seed.openTrades.map (·.trade.id)).Nodup ∧
      ∀ snapshot ∈ seed.openTrades, snapshot.trade ∈ stored.trades ∧ snapshot.trade.status = .open)
    ⟨fun h => ⟨h.1, h.2⟩, fun h => ⟨h.distinct, h.rows⟩⟩

namespace EngineHost

variable {σ : Type} [Strategy σ]

/-- The host after an action. The writers of a run are free to take its events out of order. -/
def step (host : EngineHost σ) : HostAction σ → Option (EngineHost σ)
  | .start config strategies seed =>
    if host.engine.isNone ∧ seed.ReadFrom host.db.trades then
      some { host with
        engine := some (.new config strategies seed)
        unwritten := [] }
    else
      none
  | .receive message =>
    host.engine.map fun engine =>
      { host with
        engine := some (engine.receive message)
        unwritten := host.unwritten ++ engine.emitted message }
  | .write index stored =>
    host.unwritten[index]?.map fun event =>
      { host with
        db := if stored then host.db.persistEvent event else host.db
        unwritten := host.unwritten.eraseIdx index }
  | .stop => some { host with engine := none, unwritten := [] }

end EngineHost

/-! ## What happened to the ids -/

/-- One id that was handed out, with the ids then in use in the run and those that were stored
before it. -/
structure IdDraw where
  id : ℤ
  held : List ℤ
  earlier : List ℤ

def IdDraw.Fresh (draw : IdDraw) : Prop :=
  draw.id ∉ draw.held ∧ draw.id ∉ draw.earlier

/-- Handing out ids one after the other. -/
def draws (held earlier : List ℤ) : List ℤ → List IdDraw
  | [] => []
  | id :: rest => { id, held, earlier } :: draws (held ++ [id]) earlier rest

/-- The ids stored before the current run, the signal ids it has handed out, all ids handed out so
far, and the ids whose rows were replaced. -/
structure IdHistory where
  earlierTradeIds : List ℤ
  earlierSignalIds : List ℤ
  runSignalIds : List ℤ
  tradeDraws : List IdDraw
  signalDraws : List IdDraw
  overwrittenTradeIds : List ℤ
  overwrittenSignalIds : List ℤ

namespace IdHistory

/-- Nothing has happened yet. -/
def empty : IdHistory where
  earlierTradeIds := []
  earlierSignalIds := []
  runSignalIds := []
  tradeDraws := []
  signalDraws := []
  overwrittenTradeIds := []
  overwrittenSignalIds := []

/-- No id was handed out while it was in use, and no row was replaced. -/
structure NoneReused (history : IdHistory) : Prop where
  trades : ∀ draw ∈ history.tradeDraws, draw.Fresh
  signals : ∀ draw ∈ history.signalDraws, draw.Fresh
  tradeRows : history.overwrittenTradeIds = []
  signalRows : history.overwrittenSignalIds = []

section Record

variable {σ : Type} [Strategy σ]

def receive (history : IdHistory) (engine : RuntimeDecisionEngine σ) (message : EngineMessage) :
    IdHistory :=
  let tradeIds := handedOut engine.nextTradeId (engine.receive message).nextTradeId
  let signalIds := handedOut engine.nextSignalId (engine.receive message).nextSignalId
  { history with
    runSignalIds := history.runSignalIds ++ signalIds
    tradeDraws := history.tradeDraws ++
      draws (exposureIds engine.exposure.openTrades) history.earlierTradeIds tradeIds
    signalDraws := history.signalDraws ++
      draws history.runSignalIds history.earlierSignalIds signalIds }

def store (history : IdHistory) (db : RunDatabase) (event : LivePersistenceEvent) : IdHistory :=
  { history with
    overwrittenTradeIds := history.overwrittenTradeIds ++
      event.openedTradeId.toList.filter (· ∈ db.tradeIds)
    overwrittenSignalIds := history.overwrittenSignalIds ++
      event.loggedSignalId.toList.filter (· ∈ db.signalIds) }

def record (history : IdHistory) (host : EngineHost σ) : HostAction σ → IdHistory
  | .start .. =>
    { history with
      earlierTradeIds := host.db.tradeIds
      earlierSignalIds := host.db.signalIds
      runSignalIds := [] }
  | .receive message =>
    match host.engine with
    | some engine => history.receive engine message
    | none => history
  | .write index true =>
    match host.unwritten[index]? with
    | some event => history.store host.db event
    | none => history
  | .write _ false | .stop => history

end Record

end IdHistory

section System

variable (σ : Type) [Strategy σ]

def engineHostSystem : System (EngineHost σ) (HostAction σ) IdHistory where
  step := EngineHost.step
  record history host action _ := history.record host action

end System

/-- The ids that a counter comes to next have room and are not among the given ones. -/
def Clear (next : ℤ) (limit : ℕ) (ids : List ℤ) : Prop :=
  i64Min + limit < next ∧ ∀ id ∈ ids, id ≤ next - limit ∨ next < id

instance (next : ℤ) (limit : ℕ) (ids : List ℤ) : Decidable (Clear next limit ids) :=
  inferInstanceAs (Decidable (_ ∧ _))

/-- No id that a message can draw was stored when the run started. -/
def DrawsClear {σ : Type} [Strategy σ] (history : IdHistory) (host : EngineHost σ)
    (action : HostAction σ) (_ : EngineHost σ) : Prop :=
  match action, host.engine with
  | .receive message, some engine =>
    Clear engine.nextTradeId (engine.tradeLimit message) history.earlierTradeIds ∧
      Clear engine.nextSignalId (engine.signalLimit message) history.earlierSignalIds
  | .receive _, none | .start .., _ | .write .., _ | .stop, _ => True

instance {σ : Type} [Strategy σ] (history : IdHistory) (host : EngineHost σ)
    (action : HostAction σ) (host' : EngineHost σ) :
    Decidable (DrawsClear history host action host') :=
  match action, host with
  | .receive _, ⟨_, some _, _⟩ => inferInstanceAs (Decidable (_ ∧ _))
  | .receive _, ⟨_, none, _⟩ | .start .., _ | .write .., _ | .stop, _ => isTrue trivial

/-! ## Ids in use -/

theorem iterate_room {next : ℤ} {count limit : ℕ} (hcount : count ≤ limit)
    (hlimit : i64Min + limit < next) : i64Min < nextNegativeId^[count] next := by
  have hlow : ∀ count : ℕ, next - count ≤ nextNegativeId^[count] next := by
    intro count
    induction count with
    | zero => simp
    | succ count ih =>
      rw [Function.iterate_succ_apply']
      have hstep : nextNegativeId^[count] next - 1 ≤
          nextNegativeId (nextNegativeId^[count] next) :=
        le_max_left _ _
      push_cast
      omega
  have hend := hlow count
  omega

theorem fresh_draws {held earlier ids : List ℤ} (hids : ids.Nodup)
    (hheld : ∀ id ∈ ids, id ∉ held) (hearlier : ∀ id ∈ ids, id ∉ earlier) :
    ∀ draw ∈ draws held earlier ids, draw.Fresh := by
  induction ids generalizing held with
  | nil => exact fun _ hdraw => absurd hdraw (not_mem_nil)
  | cons id rest ih =>
    obtain ⟨hnew, hrest⟩ := nodup_cons.mp hids
    intro draw hdraw
    rcases mem_cons.mp hdraw with rfl | hlater
    · exact ⟨hheld id mem_cons_self, hearlier id mem_cons_self⟩
    · refine ih hrest ?_ (fun other hother => hearlier other (mem_cons_of_mem _ hother)) draw hlater
      intro other hother hmem
      rcases mem_append.mp hmem with hbefore | hsame
      · exact hheld other (mem_cons_of_mem _ hother) hbefore
      · rw [mem_singleton.mp hsame] at hother
        exact hnew hother

/-- The ids of one kind in the middle of a run: those stored before it, those in use, those in the
tables and those in the events that are not written yet. -/
structure IdsInUse (next : ℤ) (earlier held stored unwritten : List ℤ) : Prop where
  inRange : i64Min < next
  heldKnown : ∀ id ∈ held, id ∈ earlier ∨ next < id
  storedKnown : ∀ id ∈ stored, id ∈ earlier ∨ next < id
  unwrittenAbove : ∀ id ∈ unwritten, next < id
  once : unwritten.Nodup
  unstored : ∀ id ∈ unwritten, id ∉ stored

namespace IdsInUse

variable {next : ℤ} {earlier held held' stored stored' unwritten : List ℤ}

/-- A run starts: what it has recovered is stored. -/
theorem start (hheld : held ⊆ stored) : IdsInUse (-1) stored held stored [] where
  inRange := by decide
  heldKnown id hid := .inl (hheld hid)
  storedKnown id hid := .inl hid
  unwrittenAbove := by simp
  once := nodup_nil
  unstored := by simp

section Draw

variable {count limit : ℕ} {opened : List ℤ}

/-- A drawn id is not among the ids that the counter is clear of. -/
theorem not_mem_of_clear (hclear : Clear next limit earlier) (hcount : count ≤ limit) {id : ℤ}
    (hid : id ∈ countdown next count) : id ∉ earlier := by
  have hroom := iterate_room hcount hclear.1
  have hend := iterate_nextNegativeId_eq hroom
  obtain ⟨hlow, hhigh⟩ := mem_countdown hroom hid
  intro hmem
  rcases hclear.2 id hmem with hbelow | habove
  · omega
  · omega

theorem fresh (h : IdsInUse next earlier held stored unwritten)
    (hclear : Clear next limit earlier) (hcount : count ≤ limit) :
    ∀ draw ∈ draws held earlier (handedOut next (nextNegativeId^[count] next)), draw.Fresh := by
  have hroom := iterate_room hcount hclear.1
  rw [handedOut_iterate hroom]
  refine fresh_draws (nodup_countdown hroom) ?_ fun id hid => not_mem_of_clear hclear hcount hid
  intro id hid hmem
  have hbelow := (mem_countdown hroom hid).2
  rcases h.heldKnown id hmem with hearlier | habove
  · exact not_mem_of_clear hclear hcount hid hearlier
  · omega

theorem draw (h : IdsInUse next earlier held stored unwritten)
    (hclear : Clear next limit earlier) (hcount : count ≤ limit)
    (hheld : held' ⊆ held ++ countdown next count)
    (hopened : opened.Sublist (countdown next count)) :
    IdsInUse (nextNegativeId^[count] next) earlier held' stored (unwritten ++ opened) := by
  have hroom := iterate_room hcount hclear.1
  have hend := iterate_nextNegativeId_eq hroom
  have hnew : ∀ id ∈ opened, nextNegativeId^[count] next < id ∧ id ≤ next :=
    fun id hid => mem_countdown hroom (hopened.subset hid)
  constructor
  · exact hroom
  · intro id hid
    rcases mem_append.mp (hheld hid) with hold | hdrawn
    · exact (h.heldKnown id hold).imp_right fun habove => by omega
    · exact .inr (mem_countdown hroom hdrawn).1
  · intro id hid
    exact (h.storedKnown id hid).imp_right fun habove => by omega
  · intro id hid
    rcases mem_append.mp hid with hold | hdrawn
    · have habove := h.unwrittenAbove id hold
      omega
    · exact (hnew id hdrawn).1
  · refine nodup_append.mpr ⟨h.once, hopened.nodup (nodup_countdown hroom), ?_⟩
    intro id hid id' hid' hsame
    have habove := h.unwrittenAbove id hid
    have hbelow := (hnew id' hid').2
    omega
  · intro id hid hmem
    rcases mem_append.mp hid with hold | hdrawn
    · exact h.unstored id hold hmem
    · have hbelow := (hnew id hdrawn).2
      rcases h.storedKnown id hmem with hearlier | habove
      · exact not_mem_of_clear hclear hcount (hopened.subset hdrawn) hearlier
      · omega

end Draw

theorem lose (h : IdsInUse next earlier held stored unwritten) {rest : List ℤ}
    (hrest : rest.Sublist unwritten) : IdsInUse next earlier held stored rest where
  inRange := h.inRange
  heldKnown := h.heldKnown
  storedKnown := h.storedKnown
  unwrittenAbove id hid := h.unwrittenAbove id (hrest.subset hid)
  once := hrest.nodup h.once
  unstored id hid := h.unstored id (hrest.subset hid)

theorem write {before after : List ℤ} {written : Option ℤ}
    (h : IdsInUse next earlier held stored (before ++ (written.toList ++ after)))
    (hstored : stored' ⊆ stored ++ written.toList) :
    IdsInUse next earlier held stored' (before ++ after) ∧
      written.toList.filter (· ∈ stored) = [] := by
  have hrest : (before ++ after).Sublist (before ++ (written.toList ++ after)) :=
    (List.Sublist.refl _).append (sublist_append_right _ _)
  have hlost := h.lose hrest
  have hwritten : ∀ id ∈ written.toList,
      next < id ∧ id ∉ stored ∧ id ∉ before ++ after := by
    intro id hid
    have hmem : id ∈ before ++ (written.toList ++ after) :=
      mem_append_right _ (mem_append_left _ hid)
    refine ⟨h.unwrittenAbove id hmem, h.unstored id hmem, ?_⟩
    have honce := h.once
    rw [Option.mem_toList.mp hid, Option.toList_some, singleton_append,
      nodup_middle] at honce
    exact (nodup_cons.mp honce).1
  refine ⟨⟨h.inRange, h.heldKnown, ?_, hlost.unwrittenAbove, hlost.once, ?_⟩, ?_⟩
  · intro id hid
    rcases mem_append.mp (hstored hid) with hold | hnew
    · exact h.storedKnown id hold
    · exact .inr (hwritten id hnew).1
  · intro id hid hmem
    rcases mem_append.mp (hstored hmem) with hold | hnew
    · exact hlost.unstored id hid hold
    · exact (hwritten id hnew).2.2 hid
  · apply filter_eq_nil_iff.mpr
    intro id hid hmem
    exact (hwritten id hid).2.1 (of_decide_eq_true hmem)

end IdsInUse

theorem filterMap_id_closeRow (tradeId : ℤ) (rows : List SimulatedTrade) :
    (rows.map (TradesTable.closeRow tradeId)).filterMap (·.id) = rows.filterMap (·.id) := by
  rw [filterMap_map]
  apply filterMap_congr
  intro row _
  change (TradesTable.closeRow tradeId row).id = row.id
  unfold TradesTable.closeRow
  split <;> rfl

namespace RunDatabase

theorem tradeIds_persistEvent (db : RunDatabase) {event : LivePersistenceEvent}
    (hidentified : ∀ trade, event = .openTrade trade → trade.id.isSome = true) :
    (db.persistEvent event).tradeIds ⊆ db.tradeIds ++ event.openedTradeId.toList := by
  cases event with
  | openTrade trade =>
    obtain ⟨tradeId, hid⟩ := Option.isSome_iff_exists.mp (hidentified trade rfl)
    intro id hmem
    simp only [persistEvent, tradeIds, TradesTable.persist, TradesTable.openTrade, hid,
      TradesTable.openTradeWithId, filterMap_append, mem_append] at hmem
    rw [LivePersistenceEvent.openedTradeId, hid]
    rcases hmem with hold | hnew
    · exact mem_append_left _ (filter_sublist.filterMap _ |>.subset hold)
    · exact mem_append_right _ (by simpa using hnew)
  | closeTrade tradeId result balance =>
    refine subset_append_of_subset_left _ ?_
    unfold persistEvent tradeIds TradesTable.persist TradesTable.closeTrade
    dsimp only
    split
    · exact List.Subset.refl _
    · rw [filterMap_id_closeRow]
      exact List.Subset.refl _
  | _ => exact subset_append_left _ _

theorem signalIds_persistEvent (db : RunDatabase) (event : LivePersistenceEvent) :
    (db.persistEvent event).signalIds ⊆ db.signalIds ++ event.loggedSignalId.toList := by
  cases event with
  | signal evidence =>
    intro id hmem
    simp only [persistEvent, signalIds, logSignalWithContextAndId, map_append,
      mem_append] at hmem
    rcases hmem with hold | hnew
    · exact mem_append_left _ (filter_sublist.map _ |>.subset hold)
    · exact mem_append_right _ (by simpa [LivePersistenceEvent.loggedSignalId] using hnew)
  | _ => exact subset_append_left _ _

end RunDatabase

/-! ## The invariant -/

/-- In the middle of a run, its counters are below every id in use that was not stored before. -/
structure RunInUse {σ : Type} (history : IdHistory) (db : RunDatabase)
    (unwritten : List LivePersistenceEvent) (engine : RuntimeDecisionEngine σ) : Prop where
  trades : IdsInUse engine.nextTradeId history.earlierTradeIds
    (exposureIds engine.exposure.openTrades) db.tradeIds (openedIds unwritten)
  signals : IdsInUse engine.nextSignalId history.earlierSignalIds history.runSignalIds db.signalIds
    (loggedIds unwritten)
  identified : Identified unwritten

/-- No id was reused, and a run leaves its events in order. -/
structure HostInUse {σ : Type} (history : IdHistory) (host : EngineHost σ) : Prop where
  noneReused : history.NoneReused
  idle : host.engine = none → host.unwritten = []
  running : ∀ engine, host.engine = some engine →
    RunInUse history host.db host.unwritten engine

namespace HostInUse

variable {σ : Type} {history : IdHistory} {host host' : EngineHost σ}

theorem lose (h : HostInUse history host) (index : ℕ) :
    HostInUse history { host with unwritten := host.unwritten.eraseIdx index } where
  noneReused := h.noneReused
  idle hidle := by rw [h.idle hidle, eraseIdx_nil]
  running engine hengine := by
    obtain ⟨hheld, hlogged, hidentified⟩ := h.running engine hengine
    have hrest := eraseIdx_sublist host.unwritten index
    exact ⟨hheld.lose (hrest.filterMap _), hlogged.lose (hrest.filterMap _),
      fun trade htrade => hidentified trade (hrest.subset htrade)⟩

theorem store (h : HostInUse history host) {index : ℕ} {event : LivePersistenceEvent}
    (hevent : host.unwritten[index]? = some event) :
    HostInUse (history.store host.db event)
      { host with
        db := host.db.persistEvent event
        unwritten := host.unwritten.eraseIdx index } := by
  obtain ⟨hindex, hget⟩ := List.getElem?_eq_some_iff.mp hevent
  have hsplit : host.unwritten =
      host.unwritten.take index ++ ([event] ++ host.unwritten.drop (index + 1)) := by
    rw [← hget, singleton_append, getElem_cons_drop, take_append_drop]
  have hopened : openedIds [event] = event.openedTradeId.toList := by
    unfold openedIds
    cases hid : event.openedTradeId <;> simp [hid]
  have hlogged : loggedIds [event] = event.loggedSignalId.toList := by
    unfold loggedIds
    cases hid : event.loggedSignalId <;> simp [hid]
  cases hengine : host.engine with
  | none =>
    rw [h.idle hengine] at hindex
    exact absurd hindex (Nat.not_lt_zero _)
  | some engine =>
    obtain ⟨htrades, hsignals, hidentified⟩ := h.running engine hengine
    have hnamed : ∀ trade, event = .openTrade trade → trade.id.isSome = true := by
      intro trade hopens
      exact hidentified trade (hopens ▸ hget ▸ getElem_mem hindex)
    rw [hsplit, openedIds_append, openedIds_append, hopened] at htrades
    rw [hsplit, loggedIds_append, loggedIds_append, hlogged] at hsignals
    obtain ⟨htrades', hunwritten⟩ := htrades.write (host.db.tradeIds_persistEvent hnamed)
    obtain ⟨hsignals', hunlogged⟩ := hsignals.write (host.db.signalIds_persistEvent event)
    constructor
    · refine ⟨h.noneReused.trades, h.noneReused.signals, ?_, ?_⟩
      · exact append_eq_nil_iff.mpr ⟨h.noneReused.tradeRows, hunwritten⟩
      · exact append_eq_nil_iff.mpr ⟨h.noneReused.signalRows, hunlogged⟩
    · intro hidle
      cases hidle
    · intro engine' hengine'
      cases hengine'
      rw [eraseIdx_eq_take_drop_succ]
      refine ⟨?_, ?_, ?_⟩
      · rw [openedIds_append]
        exact htrades'
      · rw [loggedIds_append]
        exact hsignals'
      · intro trade htrade
        apply hidentified trade
        rw [hsplit]
        rcases mem_append.mp htrade with hbefore | hafter
        · exact mem_append_left _ hbefore
        · exact mem_append_right _ (mem_append_right _ hafter)

variable [Strategy σ]

theorem start (h : HostInUse history host) {config : Config} {strategies : List σ}
    {seed : RuntimeDecisionSeed} (hread : seed.ReadFrom host.db.trades) :
    HostInUse (history.record host (.start config strategies seed))
      { host with engine := some (.new config strategies seed), unwritten := [] } where
  noneReused := ⟨h.noneReused.trades, h.noneReused.signals, h.noneReused.tradeRows,
    h.noneReused.signalRows⟩
  idle hidle := by cases hidle
  running := by
    intro engine hengine
    cases hengine
    refine ⟨.start ?_, .start (nil_subset _), by simp [Identified]⟩
    intro id hid
    obtain ⟨entry, hentry, hentryId⟩ := mem_filterMap.mp hid
    obtain ⟨snapshot, hsnapshot, rfl⟩ := mem_map.mp hentry
    exact mem_filterMap.mpr ⟨_, (hread.rows snapshot hsnapshot).1, hentryId⟩

theorem receive (h : HostInUse history host) {engine : RuntimeDecisionEngine σ}
    (hengine : host.engine = some engine) {message : EngineMessage}
    (htrades : Clear engine.nextTradeId (engine.tradeLimit message) history.earlierTradeIds)
    (hsignals : Clear engine.nextSignalId (engine.signalLimit message) history.earlierSignalIds) :
    HostInUse (history.receive engine message)
      { host with
        engine := some (engine.receive message)
        unwritten := host.unwritten ++ engine.emitted message } := by
  obtain ⟨hheld, hlogged, hidentified⟩ := h.running engine hengine
  obtain ⟨count, hcount, hopen, hnext, hopened, hevents⟩ := engine.receive_tradeIds message
  obtain ⟨count', hcount', hnext', hlogs⟩ := engine.receive_signalIds message
  have hroom' := iterate_room hcount' hsignals.1
  have hnext : (engine.receive message).nextTradeId = nextNegativeId^[count] engine.nextTradeId :=
    hnext
  constructor
  · refine ⟨?_, ?_, h.noneReused.tradeRows, h.noneReused.signalRows⟩
    · intro draw hdraw
      rcases mem_append.mp hdraw with hold | hnew
      · exact h.noneReused.trades draw hold
      · rw [hnext] at hnew
        exact hheld.fresh htrades hcount draw hnew
    · intro draw hdraw
      rcases mem_append.mp hdraw with hold | hnew
      · exact h.noneReused.signals draw hold
      · rw [hnext'] at hnew
        exact hlogged.fresh hsignals hcount' draw hnew
  · intro hidle
    cases hidle
  · intro engine' hengine'
    cases hengine'
    refine ⟨?_, ?_, ?_⟩
    · rw [hnext, openedIds_append]
      exact hheld.draw htrades hcount hopen hopened
    · have hdrawn : (history.receive engine message).runSignalIds ⊆
          history.runSignalIds ++ countdown engine.nextSignalId count' := by
        change history.runSignalIds ++ handedOut _ _ ⊆ _
        rw [hnext', handedOut_iterate hroom']
        exact List.Subset.refl _
      rw [hnext', loggedIds_append]
      exact hlogged.draw hsignals hcount' hdrawn hlogs
    · intro trade htrade
      exact (mem_append.mp htrade).elim (hidentified trade) (hevents trade)

/-- Every action on a host whose messages draw clear ids leaves no id reused. -/
theorem step (h : HostInUse history host) {action : HostAction σ}
    (hstep : (engineHostSystem σ).step host action = some host')
    (hmeets : DrawsClear history host action host') :
    HostInUse ((engineHostSystem σ).record history host action host') host' := by
  cases action with
  | start config strategies seed =>
    unfold engineHostSystem EngineHost.step at hstep
    dsimp only at hstep
    split at hstep
    · rename_i hguard
      cases hstep
      exact h.start hguard.2
    · cases hstep
  | receive message =>
    unfold engineHostSystem EngineHost.step at hstep
    obtain ⟨engine, hengine, rfl⟩ := Option.map_eq_some_iff.mp hstep
    unfold DrawsClear at hmeets
    simp only [hengine] at hmeets
    have hnext := h.receive hengine hmeets.1 hmeets.2
    simp only [engineHostSystem, IdHistory.record, hengine]
    exact hnext
  | write index stored =>
    unfold engineHostSystem EngineHost.step at hstep
    obtain ⟨event, hevent, rfl⟩ := Option.map_eq_some_iff.mp hstep
    cases stored with
    | false => exact h.lose index
    | true =>
      have hnext := h.store hevent
      simp only [engineHostSystem, IdHistory.record, hevent]
      exact hnext
  | stop =>
    cases hstep
    exact ⟨h.noneReused, fun _ => rfl, fun _ hengine => (by cases hengine)⟩

end HostInUse

/-! ## Runs -/

variable {σ : Type} [Strategy σ]

variable (σ) in
/-- Along every sequence of runs on one database whose actions meet a condition, no id is reused. -/
def IdsSurviveRestarts
    (meets : IdHistory → EngineHost σ → HostAction σ → EngineHost σ → Prop) : Prop :=
  ∀ (db : RunDatabase) (history : IdHistory) (host : EngineHost σ),
    (engineHostSystem σ).Run meets (.empty, { db, engine := none, unwritten := [] }) history host →
      history.NoneReused

/-- As long as no message can draw an id that was stored when its run started, no id is reused. -/
theorem ids_survive_restarts : IdsSurviveRestarts σ DrawsClear := by
  intro db history host hrun
  have hinUse : HostInUse history host := by
    refine hrun.invariant HostInUse ?_ ?_
    · exact ⟨⟨by simp [IdHistory.empty], by simp [IdHistory.empty], rfl, rfl⟩, fun _ => rfl,
        fun _ hengine => (by cases hengine)⟩
    · exact fun history host action host' h hstep hmeets => h.step hstep hmeets
  exact hinUse.noneReused

/-- A simulated engine on a new database, with a market in which it buys up. -/
def firstRun : List (HostAction SampleStrategy) :=
  [.start { sampleConfig with executionMode := .paper } [SampleStrategy.mk .up] sampleSeed,
    .receive (.evaluate (sampleDecision (sampleWindow "market" 10000) 1000)),
    .receive (.evaluate (sampleDecision (sampleWindow "market" 10000) 2000)),
    .write 2 true]

def newHost : EngineHost SampleStrategy where
  db := { trades := .empty, signals := [] }
  engine := none
  unwritten := []

/-- The trade that the first run leaves open. -/
def recoveredTrade : SimulatedTrade where
  id := some (-1)
  timestamp := 2000
  marketId := "market"
  strategy := "latency-arb"
  side := .up
  tokenId := "up"
  entryPrice := 2 / 5
  size := 20
  status := .open
  signalId := some (-1)
  requestedPrice := some (1 / 2)
  requestedSize := some 20
  filledSize := some 20
  avgFillPrice := some (2 / 5)
  fillStatus := some "filled"
  fillReason := some "book_fill"
  fillLatencyMs := some 1000
  executionGroupId := none
  executionMode := some "paper"
  orderId := some "paper--1"
  fillPrice := some (2 / 5)

/-- A second run, seeded with a trade of the first, buys up in the next market. -/
def secondRun (recovered : SimulatedTrade) (tradeId : ℤ) : List (HostAction SampleStrategy) :=
  [.stop,
    .start { sampleConfig with executionMode := .paper } [SampleStrategy.mk .up]
      { sampleSeed with
        unresolvedExposures :=
          [{ tradeId, marketId := recovered.marketId, strategy := "latency-arb",
             entryPrice := 2 / 5, size := 20, marketEndTime := 10000 }]
        openTrades := [{ trade := recovered, marketEndTime := 10000 }] },
    .receive (.evaluate (sampleDecision (sampleWindow "next" 20000) 11000)),
    .receive (.evaluate (sampleDecision (sampleWindow "next" 20000) 12000)),
    .write 2 true]

/-- The first trade of a second run takes the id of a trade it has recovered, and replaces the row
of that trade. -/
theorem trade_id_reused : ¬ IdsSurviveRestarts SampleStrategy fun _ _ _ _ => True := by
  intro h
  have hfollow : ((engineHostSystem SampleStrategy).follow (fun _ _ _ _ => true)
      (firstRun ++ secondRun recoveredTrade (-1)) (.empty, newHost)).any (fun x =>
        decide ((-1, [-1], [-1]) ∈ x.1.tradeDraws.map (fun draw =>
            (draw.id, draw.held, draw.earlier)) ∧
          x.1.overwrittenTradeIds = [-1] ∧
          x.2.db.trades.trades.map (·.marketId) = ["next"])) = true := by
    decide +kernel
  obtain ⟨history, host, hrun, hreused⟩ := System.exists_run_of_follow hfollow
    fun _ _ _ _ _ => trivial
  obtain ⟨-, hoverwritten, -⟩ := of_decide_eq_true hreused
  have hnone := (h newHost.db history host hrun).tradeRows
  rw [hoverwritten] at hnone
  cases hnone

/-- A first run of which only the second trade is stored. -/
def secondTradeStored : List (HostAction SampleStrategy) :=
  firstRun.take 3 ++
    [.receive (.evaluate (sampleDecision (sampleWindow "other" 10000) 3000)),
      .receive (.evaluate (sampleDecision (sampleWindow "other" 10000) 4000)),
      .write 6 true]

def secondTrade : SimulatedTrade :=
  { recoveredTrade with
    id := some (-2)
    timestamp := 4000
    marketId := "other"
    signalId := some (-3)
    orderId := some "paper--3" }

/-- The second run recovers the stored trade and draws the id of the one that was lost. -/
theorem ids_survive_restarts_sample :
    ∃ history host,
      (engineHostSystem SampleStrategy).Run DrawsClear (.empty, newHost) history host ∧
        history.tradeDraws.map (fun draw => (draw.id, draw.held, draw.earlier)) =
          [(-1, [], []), (-2, [-1], []), (-1, [-2], [-2])] ∧ history.NoneReused := by
  have hfollow : ((engineHostSystem SampleStrategy).follow
      (fun history host action host' => decide (DrawsClear history host action host'))
      (secondTradeStored ++ secondRun secondTrade (-2)) (.empty, newHost)).any (fun x =>
        decide (x.1.tradeDraws.map (fun draw => (draw.id, draw.held, draw.earlier)) =
          [(-1, [], []), (-2, [-1], []), (-1, [-2], [-2])])) = true := by
    decide +kernel
  obtain ⟨history, host, hrun, hdrawn⟩ := System.exists_run_of_follow hfollow
    fun _ _ _ _ => of_decide_eq_true
  exact ⟨history, host, hrun, of_decide_eq_true hdrawn,
    ids_survive_restarts newHost.db history host hrun⟩

end BubaPaint
