import BubaPaint.Library.Timelines
import BubaPaint.Replay.StoredTicks

/-!
# Loading stored batches

Batches of captured rows are encoded and stored as blocks with the bounds of their times. Loading an
interval prunes by these bounds, filters the decoded events and sorts them by time and by a number
made of the block's id and the place in the block.

Main results:

- Theorem `block_loading`: an interval is loaded in the order of its times, each event once.
-/

namespace BubaPaint

open Effects List ReplayRow

variable {F : Type}

def DecodedClobReplayEvent.mapNumbers {G : Type} (value : F → G)
    (event : DecodedClobReplayEvent F) : DecodedClobReplayEvent G where
  receivedAtMs := event.receivedAtMs
  eventAtMs := event.eventAtMs
  receivedAtUs := event.receivedAtUs
  eventAtUs := event.eventAtUs
  source := event.source
  eventType := event.eventType
  sourceTopic := event.sourceTopic
  connectionId := event.connectionId
  sequenceKey := event.sequenceKey
  marketId := event.marketId
  assetId := event.assetId
  bestBid := value event.bestBid
  bestAsk := value event.bestAsk
  bidSize := value event.bidSize
  askSize := value event.askSize
  microprice := event.microprice.map value
  fidelity := event.fidelity

/-- The tick that a captured row of a book is to be replayed as. -/
def capturedTick (value : F → ℚ) (event : FeedEvent F) : RawTick where
  timestamp := event.receivedAtMs.toNat
  timestampUs := event.receivedAtUs.map UInt64.toNat
  source := event.source
  eventType := event.eventType
  sequenceKey := event.sequenceKey
  marketId := event.marketId
  assetId := event.assetId
  price := none
  tradeSize := none
  signedQuantity := none
  bid := event.bestBid.map value
  ask := event.bestAsk.map value
  bidSize := event.bidSize.map value
  askSize := event.askSize.map value
  depthBidNotional := none
  depthAskNotional := none
  depthImbalance := none
  microprice := event.microprice.map value
  fidelity := event.fidelity

def integerParam (value : UInt64) : Except String ℤ :=
  if value.toNat ≤ i64Max then .ok value.toNat else .error "inserting CLOB replay block"

section Storing

-- The compression library, the checksum library and the numbers that 64 bits stand for.
variable [Bits64 F] (compress : List UInt8 → ℤ → Except String (List UInt8))
variable (decompress : List UInt8 → Except String (List UInt8)) (crc32 : List UInt8 → UInt32)
variable (value : F → ℚ) (level : ℤ)

def insertClobReplayBlock (id : ℤ) (block : EncodedClobReplayBlock) :
    Except String StoredClobBlock := do
  let minReceivedAtMs ← integerParam block.minReceivedAtMs
  let maxReceivedAtMs ← integerParam block.maxReceivedAtMs
  let _ ← block.minReceivedAtUs.toList.mapM integerParam
  let _ ← block.maxReceivedAtUs.toList.mapM integerParam
  return {
    id, minReceivedAtMs, maxReceivedAtMs
    rowCount := block.rowCount
    upRows := block.upRows
    downRows := block.downRows
    decoded := (decodePayload (F := F) decompress crc32 block.payload block.checksum).map
      (List.map (DecodedClobReplayEvent.mapNumbers value)) }

/-- Store batches one after another, under ids from the given one on. -/
def storeBatches : ℤ → List (List (FeedEvent F)) → Except String (List StoredClobBlock)
  | _, [] => .ok []
  | id, events :: batches => do
      let encoded ← encodeEvents compress crc32 events level
      let block ← insertClobReplayBlock decompress crc32 value id encoded
      let blocks ← storeBatches (id + 1) batches
      return block :: blocks

end Storing

variable (events : List (FeedEvent F))

theorem foldl_min_le (floor : UInt64) :
    (events.foldl (fun floor event => min floor event.receivedAtMs) floor).toNat ≤ floor.toNat ∧
      ∀ event ∈ events, (events.foldl (fun floor event => min floor event.receivedAtMs)
        floor).toNat ≤ event.receivedAtMs.toNat := by
  induction events generalizing floor with
  | nil => simp
  | cons event rest ih =>
    have hrest := ih (min floor event.receivedAtMs)
    rw [UInt64.toNat_min] at hrest
    rw [foldl_cons]
    refine ⟨by omega, fun other hother => ?_⟩
    rcases mem_cons.mp hother with rfl | hother
    · omega
    · exact hrest.2 other hother

theorem le_foldl_max (ceiling : UInt64) :
    ceiling.toNat ≤ (events.foldl (fun ceiling event => max ceiling event.receivedAtMs)
        ceiling).toNat ∧
      ∀ event ∈ events, event.receivedAtMs.toNat ≤ (events.foldl (fun ceiling event =>
        max ceiling event.receivedAtMs) ceiling).toNat := by
  induction events generalizing ceiling with
  | nil => simp
  | cons event rest ih =>
    have hrest := ih (max ceiling event.receivedAtMs)
    rw [UInt64.toNat_max] at hrest
    rw [foldl_cons]
    refine ⟨by omega, fun other hother => ?_⟩
    rcases mem_cons.mp hother with rfl | hother
    · omega
    · exact hrest.2 other hother

theorem le_foldl_maxOption (ceiling : Option UInt64) :
    (∀ c ∈ ceiling, ∃ m, events.foldl (fun ceiling event => maxOption ceiling event.receivedAtUs)
        ceiling = some m ∧ c.toNat ≤ m.toNat) ∧
      ∀ event ∈ events, ∀ us ∈ event.receivedAtUs, ∃ m, events.foldl (fun ceiling event =>
        maxOption ceiling event.receivedAtUs) ceiling = some m ∧ us.toNat ≤ m.toNat := by
  induction events generalizing ceiling with
  | nil => exact ⟨fun c hc => ⟨c, hc, le_rfl⟩, by simp⟩
  | cons event rest ih =>
    have hrest := ih (maxOption ceiling event.receivedAtUs)
    rw [foldl_cons]
    constructor
    · intro c hc
      rw [Option.mem_def] at hc
      subst hc
      cases hus : event.receivedAtUs with
      | none =>
        rw [hus] at hrest
        exact hrest.1 c rfl
      | some us =>
        rw [hus] at hrest
        rcases hrest.1 (max c us) rfl with ⟨m, hm, hle⟩
        rw [UInt64.toNat_max] at hle
        exact ⟨m, hm, by omega⟩
    · intro other hother us hus
      rcases mem_cons.mp hother with rfl | hother
      · rw [Option.mem_def] at hus
        rw [hus] at hrest ⊢
        cases ceiling with
        | none => exact hrest.1 us rfl
        | some c =>
          rcases hrest.1 (max c us) rfl with ⟨m, hm, hle⟩
          rw [UInt64.toNat_max] at hle
          exact ⟨m, hm, by omega⟩
      · exact hrest.2 other hother us hus

/-! ## Stored blocks -/

/-- A block that holds a batch: its events are replayed as the batch was captured, and their times
lie within its bounds. -/
structure Holds (value : F → ℚ) (batch : List (FeedEvent F)) (block : StoredClobBlock) : Prop where
  readable : block.Readable
  ticks : block.events.map blockEventTick = batch.map (capturedTick value)
  within : ∀ event ∈ block.events, block.minReceivedAtMs ≤ event.receivedAtMs.toNat ∧
    (event.receivedAtMs.toNat : ℤ) ≤ block.maxReceivedAtMs
  times : ∀ event ∈ block.events, ∀ us ∈ event.receivedAtUs, us.toNat ≤ i64Max

theorem integerParam_eq_ok_iff {n : UInt64} {stored : ℤ} :
    integerParam n = .ok stored ↔ n.toNat ≤ i64Max ∧ stored = n.toNat := by
  unfold integerParam
  rw [require_eq_ok_iff, Except.ok.injEq, eq_comm (a := stored)]

section Stored

variable [Bits64 F] {compress : List UInt8 → ℤ → Except String (List UInt8)}
variable {decompress : List UInt8 → Except String (List UInt8)} {crc32 : List UInt8 → UInt32}
variable {value : F → ℚ} {level : ℤ}

omit [Bits64 F] in
theorem blockEventTick_mapNumbers {event : FeedEvent F} {row : DecodedClobReplayEvent F}
    (hrow : DecodedFrom event.asStored row) (hus : event.receivedAtUs ≠ some noneU64) :
    blockEventTick (row.mapNumbers value) = capturedTick value event := by
  have hreceived : row.receivedAtUs = event.receivedAtUs :=
    hrow.receivedAtUs.trans (storedWord_eq_self hus)
  have hbid : event.bestBid = some row.bestBid := hrow.bestBid
  have hask : event.bestAsk = some row.bestAsk := hrow.bestAsk
  have hbidSize : event.bidSize = some row.bidSize := hrow.bidSize
  have haskSize : event.askSize = some row.askSize := hrow.askSize
  simp only [blockEventTick, capturedTick, DecodedClobReplayEvent.mapNumbers, hreceived, hbid, hask,
    hbidSize, haskSize, Option.map_some]
  simp only [hrow.receivedAtMs, hrow.source, hrow.eventType, hrow.sequenceKey, hrow.marketId,
    hrow.assetId, hrow.microprice, hrow.fidelity, FeedEvent.asStored]

variable {events : List (FeedEvent F)}

omit [Bits64 F] in
theorem map_blockEventTick_mapNumbers {rows : List (DecodedClobReplayEvent F)}
    (hsame : List.Forall₂ (fun event row => DecodedFrom event.asStored row) events rows)
    (hkept : ∀ event ∈ events, event.receivedAtUs ≠ some noneU64) :
    (rows.map (DecodedClobReplayEvent.mapNumbers value)).map blockEventTick =
      events.map (capturedTick value) := by
  induction hsame with
  | nil => rfl
  | @cons event row events rows hfirst _ ih =>
    have hrest := ih fun other hother => hkept other (mem_cons_of_mem _ hother)
    have htick : blockEventTick (row.mapNumbers value) = capturedTick value event :=
      blockEventTick_mapNumbers hfirst (hkept event mem_cons_self)
    simp only [map_cons, htick, hrest]

/-- A stored batch is held by its block. -/
theorem holds_of_insert {encoded : EncodedClobReplayBlock} {id : ℤ} {block : StoredClobBlock}
    (hcompress : ∀ bytes compressed, compress bytes level = .ok compressed →
      decompress compressed = .ok bytes)
    (hencode : encodeEvents compress crc32 events level = .ok encoded)
    (hinsert : insertClobReplayBlock decompress crc32 value id encoded = .ok block) :
    Holds value events block ∧ block.id = id := by
  rcases decodePayload_encodeEvents_asStored crc32 hcompress hencode with ⟨rows, hrows, hsame⟩
  rcases ok_of_bind hinsert with ⟨floor, hfloor, h⟩
  rcases ok_of_bind h with ⟨ceiling, hceiling, h⟩
  rcases ok_of_bind h with ⟨floorUs, -, h⟩
  rcases ok_of_bind h with ⟨ceilingUs, hceilingUs, h⟩
  cases h
  rcases ok_of_bind hencode with ⟨payload, -, h⟩
  rcases ok_of_bind h with ⟨compressed, -, h⟩
  cases h
  rcases integerParam_eq_ok_iff.mp hfloor with ⟨-, rfl⟩
  rcases integerParam_eq_ok_iff.mp hceiling with ⟨hceilingFits, rfl⟩
  have hus : ∀ event ∈ events, ∀ us ∈ event.receivedAtUs, us.toNat ≤ i64Max := by
    intro event hevent us hreceived
    rcases (le_foldl_maxOption events none).2 event hevent us hreceived with ⟨m, hm, hle⟩
    rcases exists_mapM_eq_ok_iff.mp ⟨ceilingUs, hceilingUs⟩ m (by simp [hm]) with ⟨stored, hstored⟩
    exact hle.trans (integerParam_eq_ok_iff.mp hstored).1
  -- Times that fit in a column are not the reserved one.
  have hkept : ∀ event ∈ events, event.receivedAtUs ≠ some noneU64 := by
    intro event hevent hreserved
    have hfits := hus event hevent noneU64 hreserved
    revert hfits
    decide
  have hrow : ∀ row ∈ rows, ∃ event ∈ events, DecodedFrom event.asStored row :=
    fun row hmem => exists_of_mem_forall₂ hsame hmem
  have hdecoded : ((decodePayload (F := F) decompress crc32 compressed
      (checksumText (crc32 payload))).map (List.map (DecodedClobReplayEvent.mapNumbers value))) =
        .ok (rows.map (DecodedClobReplayEvent.mapNumbers value)) := by
    rw [hrows]
    rfl
  have hfields : ∀ row ∈ rows.map (DecodedClobReplayEvent.mapNumbers value), ∃ event ∈ events,
      row.receivedAtMs = event.receivedAtMs ∧ row.receivedAtUs = event.receivedAtUs := by
    intro row hmem
    rcases mem_map.mp hmem with ⟨own, hown, rfl⟩
    rcases hrow own hown with ⟨event, hevent, hfrom⟩
    exact ⟨event, hevent, hfrom.receivedAtMs,
      hfrom.receivedAtUs.trans (storedWord_eq_self (hkept event hevent))⟩
  have hmin := (foldl_min_le events noneU64).2
  have hmax := (le_foldl_max events 0).2
  refine ⟨⟨?_, ?_, ?_, ?_⟩, rfl⟩
  · apply StoredClobBlock.readable_of_decoded hdecoded
    intro row hmem
    rcases hfields row hmem with ⟨event, hevent, hms, -⟩
    rw [hms]
    exact (hmax event hevent).trans hceilingFits
  · rw [StoredClobBlock.events_of_decoded hdecoded]
    exact map_blockEventTick_mapNumbers hsame hkept
  · rw [StoredClobBlock.events_of_decoded hdecoded]
    intro row hmem
    rcases hfields row hmem with ⟨event, hevent, hms, -⟩
    rw [hms]
    exact ⟨Int.ofNat_le.mpr (hmin event hevent), Int.ofNat_le.mpr (hmax event hevent)⟩
  · rw [StoredClobBlock.events_of_decoded hdecoded]
    intro row hmem us hreceived
    rcases hfields row hmem with ⟨event, hevent, -, hsameUs⟩
    exact hus event hevent us (hsameUs ▸ hreceived)

/-- Stored batches are held by blocks of increasing ids. -/
theorem storeBatches_eq_ok {firstId : ℤ} {batches : List (List (FeedEvent F))}
    {blocks : List StoredClobBlock}
    (hcompress : ∀ bytes compressed, compress bytes level = .ok compressed →
      decompress compressed = .ok bytes)
    (h : storeBatches compress decompress crc32 value level firstId batches = .ok blocks) :
    List.Forall₂ (Holds value) batches blocks ∧
      blocks.Pairwise (fun earlier later => earlier.id < later.id) ∧
      ∀ block ∈ blocks, firstId ≤ block.id ∧ block.id < firstId + batches.length := by
  induction batches generalizing firstId blocks with
  | nil =>
    cases h
    simp
  | cons events batches ih =>
    rcases ok_of_bind h with ⟨encoded, hencode, h⟩
    rcases ok_of_bind h with ⟨block, hinsert, h⟩
    rcases ok_of_bind h with ⟨rest, hrest, h⟩
    cases h
    rcases holds_of_insert hcompress hencode hinsert with ⟨hholds, hid⟩
    rcases ih hrest with ⟨hheld, hincreasing, hids⟩
    refine ⟨.cons hholds hheld, pairwise_cons.mpr ⟨fun later hlater => ?_, hincreasing⟩, ?_⟩
    · have hlater := hids later hlater
      omega
    · intro other hother
      rw [length_cons]
      rcases mem_cons.mp hother with rfl | hother
      · omega
      · have hother := hids other hother
        omega

end Stored

/-- When a tick is replayed, as far as 64 bits hold the time. -/
def RawTick.heldUs (tick : RawTick) : ℕ :=
  min tick.sortUs u64Max

section Rows

variable {value : F → ℚ} {startMs endMs : ℤ} {batch : List (FeedEvent F)} {block : StoredClobBlock}

theorem sortUs_blockEventRow (blockId : ℤ) (event : DecodedClobReplayEvent ℚ) (index : ℕ) :
    (blockEventRow blockId event index).sortUs =
      (blockEventRow blockId event index).tick.heldUs := by
  unfold blockEventRow RawTick.heldUs RawTick.sortUs blockEventTick
  cases hus : event.receivedAtUs with
  | none => simp [saturatingMul]
  | some us =>
    have hfits : us.toNat ≤ u64Max := Nat.le_of_lt_succ us.toNat_lt
    simp [hfits]

theorem map_tick_rowsIn (h : Holds value batch block) :
    (block.rowsIn startMs endMs).map tick =
      (batch.filter fun event => betweenMs startMs endMs event.receivedAtMs.toNat).map
        (capturedTick value) := by
  have hplaces : (block.rowsIn startMs endMs).map tick =
      (block.events.filter fun event =>
        betweenMs startMs endMs event.receivedAtMs.toNat).map blockEventTick := by
    conv_rhs => rw [← zipIdx_map_fst 0 block.events, filter_map, map_map]
    unfold StoredClobBlock.rowsIn StoredClobBlock.eventsIn
    rw [map_map]
    rfl
  have hticks := congrArg (List.filter fun tick : RawTick =>
    betweenMs startMs endMs tick.timestamp) h.ticks
  rw [filter_map, filter_map] at hticks
  rw [hplaces]
  exact hticks

theorem rowsIn_of_not_overlaps (h : Holds value batch block)
    (hoverlaps : ¬block.overlaps startMs endMs = true) : block.rowsIn startMs endMs = [] := by
  unfold StoredClobBlock.rowsIn StoredClobBlock.eventsIn
  rw [map_eq_nil_iff, filter_eq_nil_iff]
  intro entry hentry hin
  have hwithin := h.within entry.1 (fst_mem_of_mem_zipIdx hentry)
  simp only [StoredClobBlock.overlaps, betweenMs, Bool.and_eq_true, decide_eq_true_eq] at *
  omega

theorem rowId_of_mem_rowsIn {row : ReplayRow} (hrow : row ∈ block.rowsIn startMs endMs)
    (hrows : block.events.length < 10000000) (hid : 0 ≤ block.id)
    (hlast : block.id < 1844674407370) :
    block.id * 10000000 ≤ row.rowId ∧ (row.rowId : ℤ) < (block.id + 1) * 10000000 := by
  rcases mem_map.mp hrow with ⟨entry, hentry, rfl⟩
  have hindex : entry.2 < block.events.length := by
    simpa using snd_lt_of_mem_zipIdx (mem_filter.mp hentry).1
  simp only [blockEventRow, saturatingMul, u64Max]
  omega

theorem pairwise_rowId_rowsIn (hrows : block.events.length < 10000000) (hid : 0 ≤ block.id)
    (hlast : block.id < 1844674407370) :
    (block.rowsIn startMs endMs).Pairwise fun earlier later => earlier.rowId < later.rowId := by
  unfold StoredClobBlock.rowsIn StoredClobBlock.eventsIn
  have hplaces : block.events.zipIdx.Pairwise fun earlier later => earlier.2 < later.2 := by
    rw [← pairwise_map (f := Prod.snd), zipIdx_map_snd]
    exact pairwise_lt_range'
  rw [pairwise_map]
  refine (hplaces.filter _).imp_of_mem fun {earlier later} _ hlater hlt => ?_
  have hindex : later.2 < block.events.length := by
    simpa using snd_lt_of_mem_zipIdx (mem_filter.mp hlater).1
  simp only [blockEventRow, saturatingMul, u64Max]
  omega

end Rows

/-! ## Loading -/

section Loading

variable {value : F → ℚ} {startMs endMs : ℤ} {batches : List (List (FeedEvent F))}
variable {blocks : List StoredClobBlock} {rows : List ReplayRow}

theorem map_tick_flatMap_rowsIn (startMs endMs : ℤ)
    (h : List.Forall₂ (Holds value) batches blocks) :
    (blocks.flatMap (StoredClobBlock.rowsIn startMs endMs)).map tick =
      (batches.flatten.filter fun event => betweenMs startMs endMs event.receivedAtMs.toNat).map
        (capturedTick value) := by
  induction h with
  | nil => rfl
  | cons hfirst _ ih =>
    rw [flatMap_cons, map_append, ih, map_tick_rowsIn hfirst, flatten_cons,
      filter_append, map_append]

theorem flatMap_rowsIn_filter (h : List.Forall₂ (Holds value) batches blocks) :
    (blocks.filter (StoredClobBlock.overlaps startMs endMs)).flatMap
        (StoredClobBlock.rowsIn startMs endMs) =
      blocks.flatMap (StoredClobBlock.rowsIn startMs endMs) := by
  induction h with
  | nil => rfl
  | @cons _ block _ _ hfirst _ ih =>
    by_cases hoverlaps : block.overlaps startMs endMs = true
    · simp only [filter_cons_of_pos hoverlaps, flatMap_cons, ih]
    · rw [filter_cons_of_neg hoverlaps, ih, flatMap_cons,
        rowsIn_of_not_overlaps hfirst hoverlaps, nil_append]

theorem exists_loadClobBlockRows (startMs endMs : ℤ)
    (h : List.Forall₂ (Holds value) batches blocks) :
    ∃ rows, loadClobBlockRows startMs endMs blocks = .ok rows ∧
      rows.Perm (blocks.flatMap (StoredClobBlock.rowsIn startMs endMs)) := by
  have hreadable : ∀ block ∈ blocks, block.Readable := by
    intro block hblock
    rcases exists_of_mem_forall₂ h hblock with ⟨batch, -, hholds⟩
    exact hholds.readable
  refine ⟨_, loadClobBlockRows_eq_ok_iff.mpr
    ⟨fun block hblock => hreadable block (mem_of_mem_filter hblock), rfl⟩, ?_⟩
  rw [← flatMap_rowsIn_filter h]
  exact (perm_insertionSort _ _).flatMap_right _

theorem pairwise_rowId_flatMap_rowsIn (startMs endMs : ℤ)
    (hincreasing : blocks.Pairwise fun earlier later =>
      earlier.id < later.id)
    (hrows : ∀ block ∈ blocks, block.events.length < 10000000)
    (hids : ∀ block ∈ blocks, 0 ≤ block.id ∧ block.id < 1844674407370) :
    (blocks.flatMap (StoredClobBlock.rowsIn startMs endMs)).Pairwise
      fun earlier later => earlier.rowId < later.rowId := by
  rw [pairwise_flatMap]
  constructor
  · intro block hblock
    exact pairwise_rowId_rowsIn (hrows block hblock) (hids block hblock).1 (hids block hblock).2
  · refine hincreasing.imp_of_mem fun {first second} hfirst hsecond hlt row hrow other hother => ?_
    have hrow := rowId_of_mem_rowsIn hrow (hrows first hfirst) (hids first hfirst).1
      (hids first hfirst).2
    have hother := rowId_of_mem_rowsIn hother (hrows second hsecond) (hids second hsecond).1
      (hids second hsecond).2
    omega

theorem storageOrder_of_mem_rowsIn {row : ReplayRow}
    (hrow : row ∈ blocks.flatMap (StoredClobBlock.rowsIn startMs endMs)) :
    row.storageOrder = 2 ∧ row.sortUs = row.tick.heldUs := by
  rcases mem_flatMap.mp hrow with ⟨block, -, hrow⟩
  rcases mem_map.mp hrow with ⟨entry, -, rfl⟩
  exact ⟨rfl, sortUs_blockEventRow block.id entry.1 entry.2⟩

theorem filter_sortByKey {stored : List ReplayRow} (hperm : rows.Perm stored)
    (hnumbers : stored.Pairwise fun earlier later => earlier.rowId < later.rowId)
    (hblocks : ∀ row ∈ stored, row.storageOrder = 2) (moment : ℕ) :
    (sortByKey key rows).filter (fun row => row.sortUs == moment) =
      stored.filter fun row => row.sortUs == moment := by
  unfold sortByKey
  rw [filter_insertionSort_of_total]
  apply insertionSort_eq_of_perm (hperm.filter _)
  refine (hnumbers.filter _).imp_of_mem fun {earlier later} hearlier hlater hlt => ?_
  rcases mem_filter.mp hearlier with ⟨hearlier, hsame⟩
  rcases mem_filter.mp hlater with ⟨hlater, hsame'⟩
  have hfirst := hblocks earlier hearlier
  have hsecond := hblocks later hlater
  rw [beq_iff_eq] at hsame hsame'
  simp only [KeyLe, key, ne_eq, Prod.mk.injEq]
  omega

end Loading

/-- Loading an interval of stored batches yields the events in it, each once, in the order of their
times in microseconds as far as 64 bits hold them; events of one time keep the order in which they
were stored, as long as the row numbers of the blocks are apart. -/
theorem block_loading [Bits64 F] {compress : List UInt8 → ℤ → Except String (List UInt8)}
    {decompress : List UInt8 → Except String (List UInt8)} {crc32 : List UInt8 → UInt32}
    {value : F → ℚ} {level firstId : ℤ} {batches : List (List (FeedEvent F))}
    {blocks : List StoredClobBlock}
    (hcompress : ∀ bytes compressed, compress bytes level = .ok compressed →
      decompress compressed = .ok bytes)
    (hstore : storeBatches compress decompress crc32 value level firstId batches = .ok blocks)
    (startMs endMs : ℤ) :
    ∃ rows, loadClobBlockRows startMs endMs blocks = .ok rows ∧
      let ticks := (sortByKey key rows).map tick
      let stored := (batches.flatten.filter fun event =>
        betweenMs startMs endMs event.receivedAtMs.toNat).map (capturedTick value)
      ticks.Perm stored ∧
        ticks.Pairwise (fun earlier later => earlier.heldUs ≤ later.heldUs) ∧
        ((∀ batch ∈ batches, batch.length < 10000000) → 0 ≤ firstId →
          firstId + batches.length ≤ 1844674407370 → ∀ moment,
            ticks.filter (fun tick => tick.heldUs == moment) =
              stored.filter fun tick => tick.heldUs == moment) := by
  rcases storeBatches_eq_ok hcompress hstore with ⟨hheld, hincreasing, hids⟩
  rcases exists_loadClobBlockRows startMs endMs hheld with
    ⟨rows, hrows, hperm⟩
  have hstored := map_tick_flatMap_rowsIn startMs endMs hheld
  have hsorted : (sortByKey key rows).Perm rows := perm_insertionSort _ _
  have hheldUs : ∀ row ∈ sortByKey key rows, row.sortUs = row.tick.heldUs :=
    fun row hrow => (storageOrder_of_mem_rowsIn (hperm.subset (hsorted.subset hrow))).2
  refine ⟨rows, hrows, ?_, ?_, ?_⟩
  · rw [← hstored]
    exact (hsorted.trans hperm).map _
  · rw [pairwise_map]
    have hkeys : (sortByKey key rows).Pairwise fun earlier later =>
        KeyLe earlier.key later.key := pairwise_insertionSort _ _
    refine hkeys.imp_of_mem fun {earlier later} hearlier hlater hle => ?_
    rw [← hheldUs earlier hearlier, ← hheldUs later hlater]
    unfold KeyLe key at hle
    omega
  · intro hlengths hfirst hlast moment
    have hlength : ∀ block ∈ blocks, block.events.length < 10000000 := by
      intro block hblock
      rcases exists_of_mem_forall₂ hheld hblock with ⟨batch, hbatch, hholds⟩
      have hsame := congrArg List.length hholds.ticks
      rw [length_map, length_map] at hsame
      exact hsame ▸ hlengths batch hbatch
    have hnumbers := pairwise_rowId_flatMap_rowsIn startMs endMs hincreasing hlength
      fun block hblock => by
        have hid := hids block hblock
        omega
    have hmoment := filter_sortByKey hperm hnumbers
      (fun row hrow => (storageOrder_of_mem_rowsIn hrow).1) moment
    have hsame : ∀ l : List ReplayRow, (∀ row ∈ l, row.sortUs = row.tick.heldUs) →
        (l.map tick).filter (fun tick => tick.heldUs == moment) =
          (l.filter fun row => row.sortUs == moment).map tick := by
      intro l hl
      rw [filter_map]
      exact congrArg _ (filter_congr fun row hrow => by simp [hl row hrow])
    rw [← hstored, hsame _ hheldUs, hmoment,
      ← hsame _ fun row hrow => (storageOrder_of_mem_rowsIn hrow).2]

def sampleMillisRow (sequenceKey : String) (receivedAtMs : UInt64) : FeedEvent UInt64 :=
  { sampleBlockRow "clob_up" "book" sequenceKey 4621819117588971520 with
    receivedAtMs, receivedAtUs := none }

def storeSampleBatches (firstId : ℤ) (batches : List (List (FeedEvent UInt64))) :
    Except String (List StoredClobBlock) :=
  storeBatches (fun bytes _ => .ok bytes) .ok (fun _ => 0) (fun bits => bits.toNat) 3 firstId
    batches

def loadSampleBatches (firstId : ℤ) (batches : List (List (FeedEvent UInt64))) :
    Except String (List RawTick) := do
  let blocks ← storeSampleBatches firstId batches
  let rows ← loadClobBlockRows 0 i64Max blocks
  return (sortByKey key rows).map tick

/-- Of two overlapping batches, the later one is read first, and its row of an equal time still
comes second. -/
theorem block_loading_sample :
    ∃ blocks rows, storeSampleBatches 1
        [[sampleMillisRow "seq-1" 5000],
          [sampleMillisRow "seq-2" 1000, sampleMillisRow "seq-3" 5000]] = .ok blocks ∧
      loadClobBlockRows 0 i64Max blocks = .ok rows ∧
      ((sortByKey key rows).map tick).filter (fun tick => tick.heldUs == 5000000) =
        [capturedTick (fun bits => bits.toNat) (sampleMillisRow "seq-1" 5000),
          capturedTick (fun bits => bits.toNat) (sampleMillisRow "seq-3" 5000)] := by
  have hstored : (storeSampleBatches 1 [[sampleMillisRow "seq-1" 5000],
      [sampleMillisRow "seq-2" 1000, sampleMillisRow "seq-3" 5000]]).toOption.any
        (fun _ => true) = true := by
    decide +kernel
  rcases exists_ok_of_any hstored with ⟨blocks, hblocks, -⟩
  have hcompress : ∀ bytes compressed : List UInt8,
      (Except.ok bytes : Except String (List UInt8)) = .ok compressed →
        (Except.ok compressed : Except String (List UInt8)) = .ok bytes := by
    intro bytes compressed h
    exact h.symm
  rcases block_loading hcompress hblocks 0 i64Max with ⟨rows, hrows, -, -, hmoment⟩
  refine ⟨blocks, rows, hblocks, hrows, ?_⟩
  rw [hmoment (by decide) (by decide) (by decide) 5000000]
  decide +kernel

/-- Milliseconds that are no microseconds of 64 bits lose their order, and so do rows of one time in
blocks whose row numbers exceed 64 bits. -/
theorem late_rows_lose_order :
    (∃ ticks, loadSampleBatches 1 [[sampleMillisRow "seq-1" 18446744073709553,
          sampleMillisRow "seq-2" 18446744073709552]] = .ok ticks ∧
      ¬ticks.Pairwise fun earlier later => earlier.sortUs ≤ later.sortUs) ∧
    ∃ ticks, loadSampleBatches 2000000000000 [[sampleMillisRow "seq-1" 5000],
          [sampleMillisRow "seq-2" 1000, sampleMillisRow "seq-3" 5000]] = .ok ticks ∧
      (ticks.filter fun tick => tick.sortUs == 5000000) =
        [capturedTick (fun bits => bits.toNat) (sampleMillisRow "seq-3" 5000),
          capturedTick (fun bits => bits.toNat) (sampleMillisRow "seq-1" 5000)] := by
  have hlate : (loadSampleBatches 1 [[sampleMillisRow "seq-1" 18446744073709553,
      sampleMillisRow "seq-2" 18446744073709552]]).toOption.any (fun ticks =>
        decide ¬ticks.Pairwise fun earlier later => earlier.sortUs ≤ later.sortUs) = true := by
    decide +kernel
  have hmany : (loadSampleBatches 2000000000000 [[sampleMillisRow "seq-1" 5000],
      [sampleMillisRow "seq-2" 1000, sampleMillisRow "seq-3" 5000]]).toOption.any (fun ticks =>
        decide ((ticks.filter fun tick => tick.sortUs == 5000000) =
          [capturedTick (fun bits => bits.toNat) (sampleMillisRow "seq-3" 5000),
            capturedTick (fun bits => bits.toNat) (sampleMillisRow "seq-1" 5000)])) = true := by
    decide +kernel
  rcases exists_ok_of_any hlate with ⟨late, hload, hunsorted⟩
  rcases exists_ok_of_any hmany with ⟨many, hload', hswapped⟩
  exact ⟨⟨late, hload, of_decide_eq_true hunsorted⟩, many, hload', of_decide_eq_true hswapped⟩

end BubaPaint
