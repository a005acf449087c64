import BubaPaint.Library.Traversals
import BubaPaint.Replay.DataDb

/-!
# Loading ticks from stored tables

The tables as the loader finds them: any of them may be missing, columns hold signed integers, a row
may not decode, and the counts and times of a block are columns apart from its payload. The loader
reads captured rows if it counts any, and the sampled ticks of `tick_data` if not; the first tick is
looked up by what the captured rows decode to.

Main results:

- Theorem `loadClobBlockRows_eq_ok_iff`: when the rows of blocks load.
-/

namespace BubaPaint

open Effects List

/-- The largest integer of a column. -/
def i64Max : ℕ :=
  2 ^ 63 - 1

/-- A column read as an unsigned integer whatever its sign. -/
def asU64 (value : ℤ) : ℕ :=
  (value % 2 ^ 64).toNat

theorem asU64_natCast {value : ℕ} (h : value < 2 ^ 64) : asU64 value = value := by
  unfold asU64
  omega

/-- The product of two unsigned 64-bit integers that saturates at the largest one. -/
def saturatingMul (a b : ℕ) : ℕ :=
  min (a * b) u64Max

/-- Convert a replay timestamp into the signed representation. -/
def timestampParam (timestamp : ℕ) (label : String) : Except String ℤ :=
  if timestamp ≤ i64Max then .ok timestamp else .error s!"{label} does not fit in i64"

/-- Add one more integer of a column; the sum must be an integer of a column again. -/
def addColumn (total value : ℤ) : Except String ℤ :=
  if -2 ^ 63 ≤ total + value ∧ total + value ≤ i64Max then .ok (total + value)
  else .error "integer overflow"

def sumColumn (values : List ℤ) : Except String ℤ :=
  values.foldlM addColumn 0

/-! ## Rows -/

/-- The columns of one row that its tick takes over. -/
structure ReplayColumns where
  source : String
  eventType : String
  (sequenceKey marketId assetId : Option String := none)
  (price tradeSize signedQuantity bid ask bidSize askSize depthBidNotional depthAskNotional
    depthImbalance microprice : Option ℚ := none)
  deriving DecidableEq

/-- A tick with the given columns. -/
def ReplayColumns.tick (columns : ReplayColumns) (timestamp : ℕ) (timestampUs : Option ℕ)
    (fidelity : ReplayFidelity) : RawTick where
  timestamp
  timestampUs
  source := columns.source
  eventType := columns.eventType
  sequenceKey := columns.sequenceKey
  marketId := columns.marketId
  assetId := columns.assetId
  price := columns.price
  tradeSize := columns.tradeSize
  signedQuantity := columns.signedQuantity
  bid := columns.bid
  ask := columns.ask
  bidSize := columns.bidSize
  askSize := columns.askSize
  depthBidNotional := columns.depthBidNotional
  depthAskNotional := columns.depthAskNotional
  depthImbalance := columns.depthImbalance
  microprice := columns.microprice
  fidelity

def RawTick.columns (tick : RawTick) : ReplayColumns where
  source := tick.source
  eventType := tick.eventType
  sequenceKey := tick.sequenceKey
  marketId := tick.marketId
  assetId := tick.assetId
  price := tick.price
  tradeSize := tick.tradeSize
  signedQuantity := tick.signedQuantity
  bid := tick.bid
  ask := tick.ask
  bidSize := tick.bidSize
  askSize := tick.askSize
  depthBidNotional := tick.depthBidNotional
  depthAskNotional := tick.depthAskNotional
  depthImbalance := tick.depthImbalance
  microprice := tick.microprice

variable (columns : ReplayColumns) (timestamp : ℕ) (timestampUs : Option ℕ)
variable (fidelity : ReplayFidelity)

/-- One stored row of `feed_events`. -/
structure StoredFeedEvent where
  id : ℤ
  receivedAtMs : ℤ
  receivedAtUs : Option ℤ := none
  columns : ReplayColumns
  fidelity : String

/-- One stored row of `clob_replay_events`. -/
structure StoredClobEvent where
  id : ℤ
  receivedAtMs : ℤ
  receivedAtUs : Option ℤ
  source : String
  eventType : String
  sequenceKey : Option String
  marketId : Option String
  assetId : Option String
  bestBid : Option ℚ
  bestAsk : Option ℚ
  bidSize : Option ℚ
  askSize : Option ℚ
  microprice : Option ℚ
  fidelity : String

/-- One stored row of `clob_replay_blocks`, with what its payload and checksum decode to. -/
structure StoredClobBlock where
  id : ℤ
  minReceivedAtMs : ℤ
  maxReceivedAtMs : ℤ
  rowCount : ℤ
  upRows : ℤ
  downRows : ℤ
  decoded : Except String (List (DecodedClobReplayEvent ℚ))

/-- One stored row of `tick_data`. -/
structure StoredTick where
  timestamp : ℤ
  source : String
  price : Option ℚ
  bid : Option ℚ
  ask : Option ℚ
  bidSize : Option ℚ
  askSize : Option ℚ

/-- The tables of a database that ticks are loaded from, as far as there are any. -/
structure StoredDb where
  feedEvents : Option (List StoredFeedEvent)
  clobReplayEvents : Option (List StoredClobEvent)
  clobReplayBlocks : Option (List StoredClobBlock)
  tickData : Option (List StoredTick)

def betweenMs (startMs endMs time : ℤ) : Bool :=
  decide (startMs ≤ time) && decide (time ≤ endMs)

def StoredClobEvent.select (row : StoredClobEvent) : StoredFeedEvent where
  id := row.id
  receivedAtMs := row.receivedAtMs
  receivedAtUs := row.receivedAtUs
  columns :=
    { source := row.source, eventType := row.eventType, sequenceKey := row.sequenceKey
      marketId := row.marketId, assetId := row.assetId, price := none, tradeSize := none
      signedQuantity := none, bid := row.bestBid, ask := row.bestAsk, bidSize := row.bidSize
      askSize := row.askSize, depthBidNotional := none, depthAskNotional := none
      depthImbalance := none, microprice := row.microprice }
  fidelity := row.fidelity

def ReplayFidelity.fromStr (s : String) : Except String ReplayFidelity :=
  if s = "raw_event" then .ok .rawEvent
  else if s = "legacy_snapshot" then .ok .legacySnapshot
  else .error s!"invalid ReplayFidelity: {s}"

def unsignedColumn : Option ℤ → Except String (Option ℕ)
  | none => .ok none
  | some value =>
    if 0 ≤ value then .ok (some value.toNat)
    else .error s!"Integer {value} out of range at index 11"

/-- Decode one row of the replay query into a sorted replay row. -/
def decodeReplayRow (storageOrder : ℕ) (row : StoredFeedEvent) : Except String ReplayRow := do
  let timestamp := asU64 row.receivedAtMs
  let timestampUs ← unsignedColumn row.receivedAtUs
  let fidelity ← ReplayFidelity.fromStr row.fidelity
  return {
    sortUs := timestampUs.getD (saturatingMul timestamp 1000)
    storageOrder
    rowId := row.id.toNat
    tick := row.columns.tick timestamp timestampUs fidelity }

def blockEventRow (blockId : ℤ) (event : DecodedClobReplayEvent ℚ) (index : ℕ) : ReplayRow :=
  let tick := blockEventTick event
  { sortUs := tick.timestampUs.getD (saturatingMul tick.timestamp 1000)
    storageOrder := 2
    rowId := min (saturatingMul blockId.toNat 10000000 + index) u64Max
    tick }

/-- The row of one decoded event, if it lies in an interval. Its time must fit in a column. -/
def blockEventRow? (startMs endMs blockId : ℤ) (event : DecodedClobReplayEvent ℚ) (index : ℕ) :
    Except String (Option ReplayRow) :=
  if event.receivedAtMs.toNat ≤ i64Max then
    if betweenMs startMs endMs event.receivedAtMs.toNat then
      .ok (some (blockEventRow blockId event index))
    else .ok none
  else .error "CLOB block timestamp overflow"

def StoredClobBlock.replayRows (startMs endMs : ℤ) (block : StoredClobBlock) :
    Except String (List ReplayRow) := do
  let events ← block.decoded.mapError fun _ => "decoding CLOB replay block"
  let rows ← events.zipIdx.mapM fun (event, index) =>
    blockEventRow? startMs endMs block.id event index
  return rows.reduceOption

def StoredClobBlock.overlaps (startMs endMs : ℤ) (block : StoredClobBlock) : Bool :=
  decide (block.maxReceivedAtMs ≥ startMs) && decide (block.minReceivedAtMs ≤ endMs)

def StoredClobBlock.before (first second : StoredClobBlock) : Prop :=
  first.minReceivedAtMs < second.minReceivedAtMs ∨
    first.minReceivedAtMs = second.minReceivedAtMs ∧ first.id ≤ second.id

instance : DecidableRel StoredClobBlock.before :=
  fun first second => by unfold StoredClobBlock.before; infer_instance

def loadClobBlockRows (startMs endMs : ℤ) (blocks : List StoredClobBlock) :
    Except String (List ReplayRow) := do
  let overlapping := blocks.filter (StoredClobBlock.overlaps startMs endMs)
  let rows ← (overlapping.insertionSort StoredClobBlock.before).mapM
    (StoredClobBlock.replayRows startMs endMs)
  return rows.flatten

def StoredTick.tick (row : StoredTick) : RawTick where
  timestamp := asU64 row.timestamp
  timestampUs := some (saturatingMul (asU64 row.timestamp) 1000)
  source := row.source
  eventType := "legacy_snapshot"
  sequenceKey := none
  marketId := none
  assetId := none
  price := row.price
  tradeSize := none
  signedQuantity := none
  bid := row.bid
  ask := row.ask
  bidSize := row.bidSize
  askSize := row.askSize
  depthBidNotional := none
  depthAskNotional := none
  depthImbalance := none
  microprice := none
  fidelity := .legacySnapshot

namespace StoredDb

variable (db : StoredDb)

/-- The generic rows of an interval. -/
def feedEventsIn (startMs endMs : ℤ) : List StoredFeedEvent :=
  (db.feedEvents.getD []).filter fun row => betweenMs startMs endMs row.receivedAtMs

/-- The compact rows of an interval. -/
def clobEventsIn (startMs endMs : ℤ) : List StoredClobEvent :=
  (db.clobReplayEvents.getD []).filter fun row => betweenMs startMs endMs row.receivedAtMs

def blocksIn (startMs endMs : ℤ) : List StoredClobBlock :=
  (db.clobReplayBlocks.getD []).filter (StoredClobBlock.overlaps startMs endMs)

/-- The sampled rows of an interval. -/
def ticksIn (startMs endMs : ℤ) : List StoredTick :=
  (db.tickData.getD []).filter fun row => betweenMs startMs endMs row.timestamp

/-- Count the captured rows of an interval; blocks count with all the rows they state. The sum is
one of signed 64-bit integers. -/
def captureCount (startMs endMs : ℤ) : Except String ℤ := do
  let blockRows ← sumColumn ((db.blocksIn startMs endMs).map StoredClobBlock.rowCount)
  return Int.bmod ((db.feedEventsIn startMs endMs).length + (db.clobEventsIn startMs endMs).length +
    blockRows) (2 ^ 64)

/-- What the replay query selects: generic rows, then compact ones, with their storage order. -/
def selected (startMs endMs : ℤ) : List (ℕ × StoredFeedEvent) :=
  (db.feedEventsIn startMs endMs).map (fun row => (0, row)) ++
    (db.clobEventsIn startMs endMs).map fun row => (1, row.select)

def queryRows (startMs endMs : ℤ) : Except String (List ReplayRow) :=
  ((db.selected startMs endMs).mapM fun (storageOrder, row) =>
    decodeReplayRow storageOrder row).mapError fun _ => "reading feed_event row"

def captured (startMs endMs : ℤ) : Except String (List ReplayRow) := do
  let rows ← db.queryRows startMs endMs
  let blockRows ← loadClobBlockRows startMs endMs (db.clobReplayBlocks.getD [])
  return rows ++ blockRows

def loadTicks (startTime endTime : ℕ) : Except String (List RawTick) := do
  let startMs ← timestampParam startTime "start_time"
  let endMs ← timestampParam endTime "end_time"
  let count ← db.captureCount startMs endMs
  if count > 0 then
    let rows ← db.captured startMs endMs
    return (sortByKey ReplayRow.key rows).map ReplayRow.tick
  else if db.tickData.isSome then
    return ((db.ticksIn startMs endMs).insertionSort
      fun first second => first.timestamp ≤ second.timestamp).map StoredTick.tick
  else throw "preparing tick_data query"

/-- The times of the decoded events of one block in an interval. -/
def blockTimes (startMs endMs : ℤ) (block : StoredClobBlock) : Except String (List ℤ) := do
  let events ← block.decoded.mapError fun _ => "decoding first CLOB replay block"
  let times ← events.mapM fun event =>
    if event.receivedAtMs.toNat ≤ i64Max then .ok (event.receivedAtMs.toNat : ℤ)
    else .error "CLOB block timestamp overflow"
  return times.filter (betweenMs startMs endMs)

/-- Return the first CLOB block event timestamp in one interval. -/
def firstClobBlockTimestamp (startMs endMs : ℤ) : Except String (Option ℤ) := do
  let times ← ((db.blocksIn startMs endMs).insertionSort StoredClobBlock.before).mapM
    (blockTimes startMs endMs)
  return times.flatten.min?

/-- Return the first replay tick timestamp inside a database interval. -/
def firstTickTimestamp (startTime endTime : ℕ) : Except String (Option ℕ) := do
  let startMs ← timestampParam startTime "start_time"
  let endMs ← timestampParam endTime "end_time"
  let firstFeed := ((db.feedEventsIn startMs endMs).map StoredFeedEvent.receivedAtMs).min?
  let firstClob := ((db.clobEventsIn startMs endMs).map StoredClobEvent.receivedAtMs).min?
  let firstBlock ← db.firstClobBlockTimestamp startMs endMs
  if firstFeed.isSome ∨ firstClob.isSome ∨ firstBlock.isSome then
    return (firstFeed.toList ++ firstClob.toList ++ firstBlock.toList).min?.map asU64
  else return ((db.ticksIn startMs endMs).map StoredTick.timestamp).min?.map asU64

end StoredDb

/-! ## What blocks are decoded to -/

namespace StoredClobBlock

variable {startMs endMs : ℤ} {block : StoredClobBlock}

def events (block : StoredClobBlock) : List (DecodedClobReplayEvent ℚ) :=
  block.decoded.toOption.getD []

/-- A block that decodes to events whose times fit in a column. -/
def Readable (block : StoredClobBlock) : Prop :=
  block.decoded.isOk = true ∧ ∀ event ∈ block.events, event.receivedAtMs.toNat ≤ i64Max

/-- The events of a block that lie in an interval, with their places in the block. -/
def eventsIn (startMs endMs : ℤ) (block : StoredClobBlock) : List (DecodedClobReplayEvent ℚ × ℕ) :=
  block.events.zipIdx.filter fun entry => betweenMs startMs endMs entry.1.receivedAtMs.toNat

def rowsIn (startMs endMs : ℤ) (block : StoredClobBlock) : List ReplayRow :=
  (block.eventsIn startMs endMs).map fun entry => blockEventRow block.id entry.1 entry.2

variable {events : List (DecodedClobReplayEvent ℚ)}

theorem events_of_decoded (h : block.decoded = .ok events) : block.events = events := by
  simp [StoredClobBlock.events, h, Except.toOption]

theorem decoded_of_readable (h : block.Readable) : block.decoded = .ok block.events := by
  cases hdecoded : block.decoded with
  | error e => simp [Readable, hdecoded, Except.isOk, Except.toBool] at h
  | ok events => rw [events_of_decoded hdecoded]

theorem readable_of_decoded (hdecoded : block.decoded = .ok events)
    (htimes : ∀ event ∈ events, event.receivedAtMs.toNat ≤ i64Max) : block.Readable := by
  constructor
  · rw [hdecoded]
    rfl
  · rw [events_of_decoded hdecoded]
    exact htimes

theorem replayRows_of_readable (h : block.Readable) :
    block.replayRows startMs endMs = .ok (block.rowsIn startMs endMs) := by
  have hrow : ∀ entry ∈ block.events.zipIdx,
      blockEventRow? startMs endMs block.id entry.1 entry.2 =
        .ok (if betweenMs startMs endMs entry.1.receivedAtMs.toNat then
          some (blockEventRow block.id entry.1 entry.2) else none) := by
    intro entry hentry
    have htime := h.2 entry.1 (fst_mem_of_mem_zipIdx hentry)
    unfold blockEventRow?
    rw [if_pos htime]
    split <;> rfl
  unfold replayRows
  rw [decoded_of_readable h]
  refine bind_eq_ok_iff.mpr ⟨block.events, rfl, ?_⟩
  exact bind_eq_ok_iff.mpr ⟨_, mapM_eq_ok_map hrow, congrArg Except.ok (reduceOption_map_ite _)⟩

theorem decoded_of_mapError_eq_ok {context : String}
    (h : (block.decoded.mapError fun _ => context) = .ok events) : block.decoded = .ok events := by
  cases hdecoded : block.decoded with
  | error e =>
    rw [hdecoded] at h
    cases h
  | ok own =>
    rw [hdecoded] at h
    cases h
    rfl

theorem readable_of_replayRows_eq_ok {rows : List ReplayRow}
    (h : block.replayRows startMs endMs = .ok rows) : block.Readable := by
  rcases ok_of_bind h with ⟨events, hdecoded, h⟩
  rcases ok_of_bind h with ⟨entries, hentries, -⟩
  apply readable_of_decoded (decoded_of_mapError_eq_ok hdecoded)
  intro event hevent
  rcases getElem_of_mem hevent with ⟨index, hindex, rfl⟩
  have hentry : (events[index], index) ∈ events.zipIdx := by
    rw [mk_mem_zipIdx_iff_getElem?]
    exact List.getElem?_eq_getElem hindex
  rcases exists_mapM_eq_ok_iff.mp ⟨entries, hentries⟩ _ hentry with ⟨row, hrow⟩
  have hrow : blockEventRow? startMs endMs block.id events[index] index = .ok row := hrow
  by_contra hlate
  unfold blockEventRow? at hrow
  rw [if_neg hlate] at hrow
  cases hrow

theorem blockTimes_of_readable (h : block.Readable) :
    StoredDb.blockTimes startMs endMs block =
      .ok ((block.eventsIn startMs endMs).map fun entry => (entry.1.receivedAtMs.toNat : ℤ)) := by
  have htime : ∀ event ∈ block.events,
      (if event.receivedAtMs.toNat ≤ i64Max then .ok (event.receivedAtMs.toNat : ℤ)
        else .error "CLOB block timestamp overflow" : Except String ℤ) =
        .ok (event.receivedAtMs.toNat : ℤ) := fun event hevent => if_pos (h.2 event hevent)
  unfold StoredDb.blockTimes
  rw [decoded_of_readable h]
  refine bind_eq_ok_iff.mpr ⟨block.events, rfl, ?_⟩
  refine bind_eq_ok_iff.mpr ⟨_, mapM_eq_ok_map htime, congrArg Except.ok ?_⟩
  have hevents : block.events.map (fun event => (event.receivedAtMs.toNat : ℤ)) =
      block.events.zipIdx.map fun entry => (entry.1.receivedAtMs.toNat : ℤ) := by
    conv_lhs => rw [← zipIdx_map_fst 0 block.events, map_map]
    rfl
  rw [hevents, filter_map]
  rfl

theorem readable_of_blockTimes_eq_ok {times : List ℤ}
    (h : StoredDb.blockTimes startMs endMs block = .ok times) : block.Readable := by
  rcases ok_of_bind h with ⟨events, hdecoded, h⟩
  rcases ok_of_bind h with ⟨all, hall, -⟩
  apply readable_of_decoded (decoded_of_mapError_eq_ok hdecoded)
  intro event hevent
  rcases exists_mapM_eq_ok_iff.mp ⟨all, hall⟩ event hevent with ⟨time, htime⟩
  by_contra hlate
  rw [if_neg hlate] at htime
  cases htime

end StoredClobBlock

/-- Blocks have rows exactly when those that overlap are readable. -/
theorem loadClobBlockRows_eq_ok_iff {startMs endMs : ℤ} {blocks : List StoredClobBlock}
    {rows : List ReplayRow} :
    loadClobBlockRows startMs endMs blocks = .ok rows ↔
      (∀ block ∈ blocks.filter (StoredClobBlock.overlaps startMs endMs), block.Readable) ∧
        rows = ((blocks.filter (StoredClobBlock.overlaps startMs endMs)).insertionSort
          StoredClobBlock.before).flatMap (StoredClobBlock.rowsIn startMs endMs) := by
  have hmem : ∀ block,
    block ∈ (blocks.filter (StoredClobBlock.overlaps startMs endMs)).insertionSort
      StoredClobBlock.before ↔ block ∈ blocks.filter (StoredClobBlock.overlaps startMs endMs) :=
    fun block => mem_insertionSort _
  constructor
  · intro h
    rcases ok_of_bind h with ⟨parts, hparts, hrows⟩
    have hreadable : ∀ block ∈ blocks.filter (StoredClobBlock.overlaps startMs endMs),
        block.Readable := by
      intro block hblock
      rcases exists_mapM_eq_ok_iff.mp ⟨parts, hparts⟩ block ((hmem block).mpr hblock) with ⟨own,
        hown⟩
      exact StoredClobBlock.readable_of_replayRows_eq_ok hown
    refine ⟨hreadable, ?_⟩
    rw [mapM_eq_ok_map fun block hblock => StoredClobBlock.replayRows_of_readable
      (hreadable block ((hmem block).mp hblock))] at hparts
    cases hparts
    cases hrows
    rw [flatMap_def]
  · rintro ⟨hreadable, rfl⟩
    refine bind_eq_ok_iff.mpr ⟨_, mapM_eq_ok_map fun block hblock =>
      StoredClobBlock.replayRows_of_readable (hreadable block ((hmem block).mp hblock)), ?_⟩
    rw [flatMap_def]
    rfl

/-! ## What rows are decoded to -/

/-- A row whose time is no negative one and whose fidelity is known. -/
def StoredFeedEvent.Decodable (row : StoredFeedEvent) : Prop :=
  (∀ value ∈ row.receivedAtUs, 0 ≤ value) ∧
    (row.fidelity = "raw_event" ∨ row.fidelity = "legacy_snapshot")

theorem exists_unsignedColumn_iff {value : Option ℤ} :
    (∃ n, unsignedColumn value = .ok n) ↔ ∀ v ∈ value, 0 ≤ v := by
  cases value with
  | none => simp [unsignedColumn]
  | some v => by_cases hv : 0 ≤ v <;> simp [unsignedColumn, hv]

theorem exists_fromStr_iff {s : String} :
    (∃ fidelity, ReplayFidelity.fromStr s = .ok fidelity) ↔
      s = "raw_event" ∨ s = "legacy_snapshot" := by
  unfold ReplayFidelity.fromStr
  by_cases hraw : s = "raw_event"
  · simp [hraw]
  · by_cases hlegacy : s = "legacy_snapshot"
    · simp [hlegacy]
    · simp [hraw, hlegacy]

variable {storageOrder : ℕ} {row : StoredFeedEvent}

theorem exists_decodeReplayRow_iff :
    (∃ decoded, decodeReplayRow storageOrder row = .ok decoded) ↔ row.Decodable := by
  unfold decodeReplayRow StoredFeedEvent.Decodable
  simp only [bind_eq_ok_iff, ← exists_unsignedColumn_iff, ← exists_fromStr_iff]
  constructor
  · rintro ⟨decoded, timestampUs, htime, fidelity, hfidelity, -⟩
    exact ⟨⟨timestampUs, htime⟩, ⟨fidelity, hfidelity⟩⟩
  · rintro ⟨⟨timestampUs, htime⟩, ⟨fidelity, hfidelity⟩⟩
    exact ⟨_, timestampUs, htime, fidelity, hfidelity, rfl⟩

theorem tick_of_decodeReplayRow {decoded : ReplayRow}
    (h : decodeReplayRow storageOrder row = .ok decoded) :
    decoded.tick.timestamp = asU64 row.receivedAtMs ∧ decoded.tick.columns = row.columns := by
  rcases ok_of_bind h with ⟨timestampUs, -, h⟩
  rcases ok_of_bind h with ⟨fidelity, -, h⟩
  cases h
  exact ⟨rfl, rfl⟩

namespace StoredDb

variable {db : StoredDb} {startMs endMs : ℤ}

/-- Every block that overlaps with an interval is readable. -/
def Readable (db : StoredDb) (startMs endMs : ℤ) : Prop :=
  ∀ block ∈ db.blocksIn startMs endMs, block.Readable

/-- Every generic and compact row of an interval decodes. -/
def Decodable (db : StoredDb) (startMs endMs : ℤ) : Prop :=
  ∀ entry ∈ db.selected startMs endMs, entry.2.Decodable

/-- A captured row of an interval with its time and its columns. -/
def Captures (db : StoredDb) (startMs endMs : ℤ) (time : ℤ) (columns : ReplayColumns) : Prop :=
  (∃ entry ∈ db.selected startMs endMs,
    entry.2.receivedAtMs = time ∧ entry.2.columns = columns) ∨
  ∃ block ∈ db.blocksIn startMs endMs, ∃ event ∈ block.events,
    (event.receivedAtMs.toNat : ℤ) = time ∧ betweenMs startMs endMs time = true ∧
      (blockEventTick event).columns = columns

variable {columns : ReplayColumns} {rows : List ReplayRow} {timestamp : ℕ}

theorem betweenMs_of_captures {time : ℤ} (h : db.Captures startMs endMs time columns) :
    betweenMs startMs endMs time = true := by
  rcases h with ⟨entry, hentry, rfl, -⟩ | ⟨block, -, event, -, -, hin, -⟩
  · rcases mem_append.mp hentry with hfeed | hclob
    · rcases mem_map.mp hfeed with ⟨row, hrow, rfl⟩
      exact (mem_filter.mp hrow).2
    · rcases mem_map.mp hclob with ⟨row, hrow, rfl⟩
      exact (mem_filter.mp hrow).2
  · exact hin

theorem exists_queryRows_iff :
    (∃ rows, db.queryRows startMs endMs = .ok rows) ↔ db.Decodable startMs endMs := by
  have htraversal : (∃ rows, db.queryRows startMs endMs = .ok rows) ↔
      ∃ rows, (db.selected startMs endMs).mapM (fun entry =>
        decodeReplayRow entry.1 entry.2) = .ok rows := by
    unfold queryRows
    cases hrows : (db.selected startMs endMs).mapM fun entry => decodeReplayRow entry.1 entry.2 with
    | error e => simp [Except.mapError]
    | ok rows => simp [Except.mapError]
  rw [htraversal, exists_mapM_eq_ok_iff]
  simp only [exists_decodeReplayRow_iff]
  rfl

theorem mem_queryRows_iff (h : db.queryRows startMs endMs = .ok rows) :
    (∃ row ∈ rows, row.tick.timestamp = timestamp ∧ row.tick.columns = columns) ↔
      ∃ entry ∈ db.selected startMs endMs,
        asU64 entry.2.receivedAtMs = timestamp ∧ entry.2.columns = columns := by
  have hrows : (db.selected startMs endMs).mapM (fun entry =>
      decodeReplayRow entry.1 entry.2) = .ok rows := by
    unfold queryRows at h
    cases hmapM : (db.selected startMs endMs).mapM fun entry => decodeReplayRow entry.1 entry.2 with
    | error e =>
      rw [hmapM] at h
      cases h
    | ok own =>
      rw [hmapM] at h
      cases h
      rfl
  have hdecoded := mapM_eq_ok_iff.mp hrows
  clear h hrows
  generalize db.selected startMs endMs = entries at hdecoded ⊢
  induction hdecoded with
  | nil => simp
  | cons hfirst hrest ih =>
    have hfirst := tick_of_decodeReplayRow hfirst
    simp only [exists_mem_cons_iff, hfirst.1, hfirst.2, ih]

theorem exists_captured_iff :
    (∃ rows, db.captured startMs endMs = .ok rows) ↔
      db.Decodable startMs endMs ∧ db.Readable startMs endMs := by
  rw [← exists_queryRows_iff]
  constructor
  · rintro ⟨rows, h⟩
    rcases ok_of_bind h with ⟨own, hown, h⟩
    rcases ok_of_bind h with ⟨blockRows, hblocks, -⟩
    exact ⟨⟨own, hown⟩, (loadClobBlockRows_eq_ok_iff.mp hblocks).1⟩
  · rintro ⟨⟨own, hown⟩, hreadable⟩
    have hblocks := loadClobBlockRows_eq_ok_iff.mpr ⟨hreadable, rfl⟩
    exact ⟨_, bind_eq_ok_iff.mpr ⟨own, hown, bind_eq_ok_iff.mpr ⟨_, hblocks, rfl⟩⟩⟩

/-- The captured rows that are loaded are those that are stored. -/
theorem mem_captured_iff (h : db.captured startMs endMs = .ok rows) :
    (∃ row ∈ rows, row.tick.timestamp = timestamp ∧ row.tick.columns = columns) ↔
      ∃ time, db.Captures startMs endMs time columns ∧ asU64 time = timestamp := by
  rcases ok_of_bind h with ⟨own, hown, h⟩
  rcases ok_of_bind h with ⟨blockRows, hblocks, h⟩
  cases h
  have hblockRows := (loadClobBlockRows_eq_ok_iff.mp hblocks).2
  have htime : ∀ event : DecodedClobReplayEvent ℚ,
      asU64 (event.receivedAtMs.toNat : ℤ) = event.receivedAtMs.toNat :=
    fun event => asU64_natCast event.receivedAtMs.toNat_lt
  have hevents : (∃ row ∈ blockRows, row.tick.timestamp = timestamp ∧ row.tick.columns = columns) ↔
      ∃ block ∈ db.blocksIn startMs endMs, ∃ event ∈ block.events,
        event.receivedAtMs.toNat = timestamp ∧
          betweenMs startMs endMs event.receivedAtMs.toNat = true ∧
            (blockEventTick event).columns = columns := by
    rw [hblockRows]
    constructor
    · rintro ⟨row, hrow, htick, hcolumns⟩
      rcases mem_flatMap.mp hrow with ⟨block, hblock, hrow⟩
      rcases mem_map.mp hrow with ⟨entry, hentry, rfl⟩
      rcases mem_filter.mp hentry with ⟨hentry, hin⟩
      exact ⟨block, (mem_insertionSort _).mp hblock, entry.1,
        fst_mem_of_mem_zipIdx hentry, htick, hin, hcolumns⟩
    · rintro ⟨block, hblock, event, hevent, htick, hin, hcolumns⟩
      rcases getElem_of_mem hevent with ⟨index, hindex, rfl⟩
      have hentry : (block.events[index], index) ∈ block.events.zipIdx := by
        rw [mk_mem_zipIdx_iff_getElem?]
        exact List.getElem?_eq_getElem hindex
      have hrow : blockEventRow block.id block.events[index] index ∈ block.rowsIn startMs endMs :=
        mem_map.mpr ⟨_, mem_filter.mpr ⟨hentry, hin⟩, rfl⟩
      exact ⟨_, mem_flatMap.mpr ⟨block, (mem_insertionSort _).mpr hblock, hrow⟩,
        htick, hcolumns⟩
  simp only [mem_append, or_and_right, exists_or, mem_queryRows_iff hown, hevents, Captures]
  apply or_congr
  · constructor
    · rintro ⟨entry, hentry, htime, hcolumns⟩
      exact ⟨_, ⟨entry, hentry, rfl, hcolumns⟩, htime⟩
    · rintro ⟨time, ⟨entry, hentry, rfl, hcolumns⟩, htime⟩
      exact ⟨entry, hentry, htime, hcolumns⟩
  · constructor
    · rintro ⟨block, hblock, event, hevent, htick, hin, hcolumns⟩
      exact ⟨_, ⟨block, hblock, event, hevent, rfl, hin, hcolumns⟩, (htime event).trans htick⟩
    · rintro ⟨time, ⟨block, hblock, event, hevent, rfl, hin, hcolumns⟩, hstamp⟩
      exact ⟨block, hblock, event, hevent, (htime event).symm.trans hstamp, hin, hcolumns⟩

end StoredDb

end BubaPaint
