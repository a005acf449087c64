import BubaPaint.Replay.BacktestPrepare

/-!
# Ticks of prepared inputs

At one moment the generic rows are replayed first, then the compact rows, then the events of blocks.
Preparation moves the generic rows with the top of the book of an outcome behind the other generic
rows of their moment, drops what compact rows have no columns for, and numbers blocks anew.

Main results:

- Theorem `loadTicks_preparedCopy_iff`: when a prepared copy gives the same ticks.
-/

namespace BubaPaint

open Effects RawTick List
open ClobReplayBlock (withId)

def RawTick.isAt (startTime endTime moment : ℕ) (tick : RawTick) : Bool :=
  DataDb.tickBetween startTime endTime tick && tick.sortUs == moment

def RawTick.compact (tick : RawTick) : RawTick :=
  { tick with
    price := none
    tradeSize := none
    signedQuantity := none
    depthBidNotional := none
    depthAskNotional := none
    depthImbalance := none }

/-- Whether a tick has no more than a compact row has columns for. -/
def RawTick.IsCompact (tick : RawTick) : Prop :=
  tick.price = none ∧ tick.tradeSize = none ∧ tick.signedQuantity = none ∧
    tick.depthBidNotional = none ∧ tick.depthAskNotional = none ∧ tick.depthImbalance = none

theorem RawTick.compact_eq_self_iff (tick : RawTick) : tick.compact = tick ↔ tick.IsCompact := by
  cases tick
  simp only [compact, RawTick.IsCompact, RawTick.mk.injEq, true_and, and_true]
  grind

theorem tick_asCompact (id : ℕ) (row : FeedEventRow) : (row.asCompact id).tick = row.tick.compact :=
  rfl

/-- Rows are stored in the order of their ids, which no two rows of a table share. -/
structure DataDb.StoredById (db : DataDb) : Prop where
  feedEvents : db.feedEvents.Pairwise fun first second => first.id < second.id
  clobReplayEvents : db.clobReplayEvents.Pairwise fun first second => first.id < second.id
  clobReplayBlocks : db.clobReplayBlocks.Pairwise fun first second => first.id < second.id

/-! ## Ticks of one moment -/

/-- The replay rows that blocks have for one moment of an interval. -/
def blockRowsAt (startTime endTime moment : ℕ) (blocks : List ClobReplayBlock) : List ReplayRow :=
  (blocks.flatMap ClobReplayBlock.replayRows).filter fun row =>
    row.tick.isAt startTime endTime moment

def blockTicksAt (startTime endTime moment : ℕ) (blocks : List ClobReplayBlock) : List RawTick :=
  (sortByKey ReplayRow.key (blockRowsAt startTime endTime moment
    (sortByKey (fun block => (block.minReceivedAtMs, block.id, 0)) blocks))).map fun row => row.tick

namespace DataDb

variable (db : DataDb) (startTime endTime moment : ℕ)

/-- The ticks of one moment that generic rows have. -/
def feedTicksAt : List RawTick :=
  (db.feedEvents.map fun row => row.tick).filter (RawTick.isAt startTime endTime moment)

def compactTicksAt : List RawTick :=
  (db.clobReplayEvents.map fun row => row.tick).filter (RawTick.isAt startTime endTime moment)

def overlappingBlocks : List ClobReplayBlock :=
  db.clobReplayBlocks.filter (blockOverlaps startTime endTime)

/-- The replay rows that the two tables of rows have for one moment. -/
def tableRowsAt : List ReplayRow :=
  (db.feedEvents.map FeedEventRow.replayRow ++
      db.clobReplayEvents.map ClobReplayEventRow.replayRow).filter
    fun row => row.tick.isAt startTime endTime moment

variable {db startTime endTime moment}

theorem filter_replayRows :
    (db.replayRows startTime endTime).filter (fun row => row.tick.sortUs == moment) =
      db.tableRowsAt startTime endTime moment ++
        blockRowsAt startTime endTime moment (db.blocksBetween startTime endTime) := by
  have hboth : ∀ row : ReplayRow,
      (row.tick.sortUs == moment && tickBetween startTime endTime row.tick) =
        row.tick.isAt startTime endTime moment := fun row => Bool.and_comm _ _
  simp only [replayRows, tableRowsAt, blockRowsAt, filter_append, filter_filter, hboth]

theorem sortUs_of_isAt {tick : RawTick} (h : tick.isAt startTime endTime moment = true) :
    tick.sortUs = moment := by
  simp only [isAt, Bool.and_eq_true, beq_iff_eq] at h
  exact h.2

theorem pairwise_tableRowsAt (hstored : db.StoredById) :
    (db.tableRowsAt startTime endTime moment).Pairwise
      fun first second => KeyLe first.key second.key := by
  unfold tableRowsAt
  rw [pairwise_filter, pairwise_append, pairwise_map, pairwise_map]
  refine ⟨?_, ?_, ?_⟩
  · refine hstored.feedEvents.imp fun {first second} hid hfirst hsecond => ?_
    have htime := (sortUs_of_isAt hfirst).trans (sortUs_of_isAt hsecond).symm
    exact .inr ⟨htime, .inr ⟨rfl, hid.le⟩⟩
  · refine hstored.clobReplayEvents.imp fun {first second} hid hfirst hsecond => ?_
    have htime := (sortUs_of_isAt hfirst).trans (sortUs_of_isAt hsecond).symm
    exact .inr ⟨htime, .inr ⟨rfl, hid.le⟩⟩
  · intro first hfirst second hsecond hfirstAt hsecondAt
    obtain ⟨event, _, rfl⟩ := mem_map.mp hfirst
    obtain ⟨event', _, rfl⟩ := mem_map.mp hsecond
    have htime := (sortUs_of_isAt hfirstAt).trans (sortUs_of_isAt hsecondAt).symm
    exact .inr ⟨htime, .inl Nat.zero_lt_one⟩

variable {row : ReplayRow} {blocks : List ClobReplayBlock}

theorem key_of_mem_blockRowsAt (h : row ∈ blockRowsAt startTime endTime moment blocks) :
    row.key = (moment, 2, row.rowId) := by
  have hrow := mem_filter.mp h
  have htime := sortUs_of_isAt hrow.2
  obtain ⟨block, _, hentry⟩ := mem_flatMap.mp hrow.1
  obtain ⟨entry, _, rfl⟩ := mem_map.mp hentry
  exact congrArg (fun sortUs => (sortUs, 2, _)) htime

theorem keyLe_blockRow {blockRow : ReplayRow} (hrow : row ∈ db.tableRowsAt startTime endTime moment)
    (hblock : blockRow ∈ blockRowsAt startTime endTime moment blocks) :
    KeyLe row.key blockRow.key := by
  have htableRow := mem_filter.mp hrow
  rw [key_of_mem_blockRowsAt hblock]
  rcases mem_append.mp htableRow.1 with hevent | hevent
  · obtain ⟨event, _, rfl⟩ := mem_map.mp hevent
    exact .inr ⟨sortUs_of_isAt htableRow.2, .inl Nat.zero_lt_two⟩
  · obtain ⟨event, _, rfl⟩ := mem_map.mp hevent
    exact .inr ⟨sortUs_of_isAt htableRow.2, .inl Nat.one_lt_two⟩

/-- The ticks of one moment: generic rows, compact rows, then the events of blocks. -/
theorem atMoment_loadTicks (hstored : db.StoredById)
    (hcapture : 0 < db.captureCount startTime endTime) :
    atMoment sortUs moment (db.loadTicks startTime endTime) =
      (db.feedTicksAt startTime endTime moment ++ db.compactTicksAt startTime endTime moment) ++
        blockTicksAt startTime endTime moment (db.overlappingBlocks startTime endTime) := by
  have hrows : (sortByKey ReplayRow.key (db.replayRows startTime endTime)).filter
        (fun row => row.tick.sortUs == moment) =
      db.tableRowsAt startTime endTime moment ++ sortByKey ReplayRow.key
        (blockRowsAt startTime endTime moment (db.blocksBetween startTime endTime)) := by
    unfold sortByKey
    rw [filter_insertionSort_of_total, filter_replayRows,
      insertionSort_append_of_before fun row hrow blockRow => keyLe_blockRow hrow,
      (pairwise_tableRowsAt hstored).insertionSort_eq]
  have htable : (db.tableRowsAt startTime endTime moment).map (fun row => row.tick) =
      db.feedTicksAt startTime endTime moment ++ db.compactTicksAt startTime endTime moment := by
    simp only [tableRowsAt, feedTicksAt, compactTicksAt, filter_append, map_append,
      filter_map, map_map]
    rfl
  unfold loadTicks atMoment
  rw [if_pos hcapture, filter_map]
  change List.map _ (List.filter (fun row : ReplayRow => row.tick.sortUs == moment) _) = _
  rw [hrows, map_append, htable]
  rfl

theorem inTime_loadTicks (hcapture : 0 < db.captureCount startTime endTime) :
    InTime sortUs (db.loadTicks startTime endTime) := by
  unfold InTime loadTicks
  rw [if_pos hcapture, pairwise_map]
  have hsorted := pairwise_insertionSort
    (fun first second : ReplayRow => KeyLe first.key second.key) (db.replayRows startTime endTime)
  refine hsorted.imp_of_mem fun {first second} hfirst hsecond hle => ?_
  rw [sortByKey, mem_insertionSort] at hfirst hsecond
  rw [← sortUs_of_mem_replayRows hfirst, ← sortUs_of_mem_replayRows hsecond]
  rcases hle with hlt | heq
  · exact hlt.le
  · exact heq.1.le

end DataDb

/-- How many rows of a block are numbered apart from those of the next one. -/
def blockRowStride : ℕ := 10000000

theorem tick_flatMap_replayRows (blocks : List ClobReplayBlock) :
    (blocks.flatMap ClobReplayBlock.replayRows).map (fun row => row.tick) =
      blocks.flatMap fun block => block.events.map blockEventTick := by
  have hevents : ∀ block : ClobReplayBlock,
      block.replayRows.map (fun row => row.tick) = block.events.map blockEventTick := by
    intro block
    calc
      block.replayRows.map (fun row => row.tick) =
          (block.events.zipIdx.map Prod.fst).map blockEventTick := by
        simp only [ClobReplayBlock.replayRows, map_map]
        rfl
      _ = block.events.map blockEventTick := by rw [zipIdx_map_fst]
  simp only [map_flatMap, hevents]

theorem pairwise_replayRows (block : ClobReplayBlock) :
    block.replayRows.Pairwise fun first second => first.rowId < second.rowId := by
  unfold ClobReplayBlock.replayRows
  rw [pairwise_map, pairwise_iff_getElem]
  intro i j hi hj hij
  simp only [getElem_zipIdx]
  omega

theorem rowId_of_mem_replayRows {block : ClobReplayBlock} {row : ReplayRow}
    (h : row ∈ block.replayRows) :
    block.id * blockRowStride ≤ row.rowId ∧
      row.rowId < block.id * blockRowStride + block.events.length := by
  obtain ⟨⟨event, index⟩, hentry, rfl⟩ := mem_map.mp h
  have hindex := (mem_zipIdx hentry).2.1
  unfold blockRowStride
  simp only
  omega

section Blocks

variable {blocks : List ClobReplayBlock}
  (hstored : blocks.Pairwise fun first second => first.id < second.id)
  (hshort : ∀ block ∈ blocks, block.events.length ≤ blockRowStride)

include hstored hshort

theorem pairwise_flatMap_replayRows :
    (blocks.flatMap ClobReplayBlock.replayRows).Pairwise
      fun first second => first.rowId < second.rowId := by
  refine pairwise_flatMap.mpr ⟨fun block _ => pairwise_replayRows block, ?_⟩
  refine hstored.imp_of_mem fun {block later} hmem _ hid row hrow row' hrow' => ?_
  have hrow := (rowId_of_mem_replayRows hrow).2
  have hrow' := (rowId_of_mem_replayRows hrow').1
  have hlength := hshort block hmem
  calc
    row.rowId < block.id * blockRowStride + blockRowStride := by omega
    _ = (block.id + 1) * blockRowStride := by ring
    _ ≤ later.id * blockRowStride := Nat.mul_le_mul_right _ hid
    _ ≤ row'.rowId := hrow'

/-- Blocks that are not too long are replayed event by event, whatever their numbers. -/
theorem blockTicksAt_eq {startTime endTime moment : ℕ} :
    blockTicksAt startTime endTime moment blocks =
      (blocks.flatMap fun block => block.events.map blockEventTick).filter
        (isAt startTime endTime moment) := by
  have hnumbered : (blockRowsAt startTime endTime moment blocks).Pairwise
      fun first second => first.rowId < second.rowId :=
    (pairwise_flatMap_replayRows hstored hshort).filter _
  have hblocks := perm_insertionSort
    (fun first second : ClobReplayBlock => KeyLe (first.minReceivedAtMs, first.id, 0)
      (second.minReceivedAtMs, second.id, 0)) blocks
  -- No two events of a moment have one number, so there is one order.
  have hsorted : sortByKey ReplayRow.key (blockRowsAt startTime endTime moment
        (sortByKey (fun block => (block.minReceivedAtMs, block.id, 0)) blocks)) =
      blockRowsAt startTime endTime moment blocks := by
    refine insertionSort_eq_of_perm ((hblocks.flatMap_right _).filter _)
      (hnumbered.imp_of_mem fun {first second} hfirst hsecond hid => ?_)
    rw [DataDb.key_of_mem_blockRowsAt hfirst, DataDb.key_of_mem_blockRowsAt hsecond]
    constructor
    · exact .inr ⟨rfl, .inr ⟨rfl, hid.le⟩⟩
    · intro hkeys
      exact hid.ne (congrArg (fun key => key.2.2) hkeys)
  unfold blockTicksAt
  rw [hsorted]
  rw [← tick_flatMap_replayRows, filter_map]
  rfl

end Blocks

/-! ## The prepared copy -/

/-- What keeps the ticks of an interval when it is prepared. -/
structure DataDb.KeepsTicks (db : DataDb) (startTime endTime : ℕ) : Prop where
  /-- A generic row that becomes compact has no more than a compact row has columns for. -/
  legacyCompact : ∀ row ∈ db.feedEvents, DataDb.tickBetween startTime endTime row.tick = true →
    row.tick.isTopOfBookClob = true → row.tick.IsCompact
  /-- No generic row that becomes compact is stored ahead of one of its moment that does not. -/
  legacyLast : db.feedEvents.Pairwise fun first second =>
    DataDb.tickBetween startTime endTime first.tick = true →
      DataDb.tickBetween startTime endTime second.tick = true →
        first.tick.sortUs = second.tick.sortUs →
          first.tick.isTopOfBookClob = true → second.tick.isTopOfBookClob = true
  /-- The events of a moment come in one order, whether blocks have their ids or their ranks. They
  do if no block has more events than the stride (`blocksInOrder_of_short`); a longer one runs into
  the numbers of the next, where equal ticks may still hide that events change places. -/
  blocksInOrder : ∀ moment,
    blockTicksAt startTime endTime moment
        (numberFrom ClobReplayBlock.withId 1 (db.overlappingBlocks startTime endTime)) =
      blockTicksAt startTime endTime moment (db.overlappingBlocks startTime endTime)

namespace DataDb

variable {db : DataDb} {openedAt : ResolvedTradeRow → ℕ} {startTime endTime moment : ℕ}

theorem storedById_preparedCopy (hstored : db.StoredById) :
    (db.preparedCopy openedAt startTime endTime).StoredById where
  feedEvents := hstored.feedEvents.filter _
  clobReplayEvents := by
    refine pairwise_append.mpr ⟨pairwise_numberFrom _ (fun _ _ => rfl) _ _,
      pairwise_numberFrom _ (fun _ _ => rfl) _ _, fun row hrow row' hrow' => ?_⟩
    have hbefore := (id_of_mem_numberFrom ClobReplayEventRow.id (fun _ _ => rfl) hrow).2
    have hafter := (id_of_mem_numberFrom ClobReplayEventRow.id (fun _ _ => rfl) hrow').1
    rw [copyLegacyClobRowsAsCompact, length_numberFrom] at hafter
    omega
  clobReplayBlocks := pairwise_numberFrom _ (fun _ _ => rfl) _ _

theorem feedTicksAt_preparedCopy :
    (db.preparedCopy openedAt startTime endTime).feedTicksAt startTime endTime moment =
      (db.feedTicksAt startTime endTime moment).filter fun tick => !tick.isTopOfBookClob := by
  simp only [feedTicksAt, preparedCopy, copyGenericFeedEvents, filter_map, filter_filter]
  congr 1
  apply filter_congr
  intro row _
  simp only [Function.comp, isAt]
  grind

theorem compactTicksAt_preparedCopy :
    (db.preparedCopy openedAt startTime endTime).compactTicksAt startTime endTime moment =
      ((db.feedTicksAt startTime endTime moment).filter isTopOfBookClob).map
          compact ++ db.compactTicksAt startTime endTime moment := by
  have hlegacy : (db.copyLegacyClobRowsAsCompact startTime endTime).map (fun row => row.tick) =
      (db.legacyClobRows startTime endTime).map fun row => row.tick.compact := by
    apply map_numberFrom
    exact tick_asCompact
  have hcompact : ∀ nextId, (db.copyCompactClobRows startTime endTime nextId).map
        (fun row => row.tick) =
      (db.clobReplayEvents.filter fun row => tickBetween startTime endTime row.tick).map
        fun row => row.tick := by
    intro nextId
    apply map_numberFrom
    exact fun _ _ => rfl
  simp only [compactTicksAt, preparedCopy, map_append, hlegacy, hcompact, feedTicksAt,
    legacyClobRows, filter_append, filter_map, map_map, filter_filter]
  congr 2
  · apply filter_congr
    intro row _
    simp only [Function.comp, isAt, compact, sortUs, tickBetween]
    grind
  · apply filter_congr
    intro row _
    simp only [Function.comp, isAt]
    grind

theorem overlappingBlocks_preparedCopy :
    (db.preparedCopy openedAt startTime endTime).overlappingBlocks startTime endTime =
      numberFrom withId 1 (db.overlappingBlocks startTime endTime) := by
  apply filter_eq_self.mpr
  intro block hblock
  obtain ⟨id, block', hblock', rfl⟩ := exists_of_mem_numberFrom hblock
  exact (mem_filter.mp hblock').2

theorem captureCount_pos_of_preparedCopy
    (h : 0 < (db.preparedCopy openedAt startTime endTime).captureCount startTime endTime) :
    0 < db.captureCount startTime endTime := by
  have hblocks : ∀ other : DataDb, ((other.blocksBetween startTime endTime).map
        fun block => block.rowCount).sum =
      ((other.overlappingBlocks startTime endTime).map fun block => block.rowCount).sum :=
    fun other => ((perm_insertionSort _ _).map _).sum_eq
  have hcopied : (numberFrom withId 1 (db.overlappingBlocks startTime endTime)).map
        (fun block => block.rowCount) =
      (db.overlappingBlocks startTime endTime).map fun block => block.rowCount := by
    apply map_numberFrom
    exact fun _ _ => rfl
  unfold captureCount at h ⊢
  rw [hblocks, overlappingBlocks_preparedCopy, hcopied] at h
  rw [hblocks]
  by_contra hnone
  have hfeed : db.feedEvents.countP (fun row => tickBetween startTime endTime row.tick) = 0 := by
    omega
  have hrows :
      db.clobReplayEvents.countP (fun row => tickBetween startTime endTime row.tick) = 0 := by
    omega
  rw [countP_eq_zero] at hfeed hrows
  have hfeed' : (db.preparedCopy openedAt startTime endTime).feedEvents.countP
      (fun row => tickBetween startTime endTime row.tick) = 0 :=
    countP_eq_zero.mpr fun row hrow => hfeed row (mem_filter.mp hrow).1
  have hrows' : (db.preparedCopy openedAt startTime endTime).clobReplayEvents.countP
      (fun row => tickBetween startTime endTime row.tick) = 0 := by
    refine countP_eq_zero.mpr fun row hrow => ?_
    rcases mem_append.mp hrow with hlegacy | hcompact
    · obtain ⟨id, row', hrow', rfl⟩ := exists_of_mem_numberFrom hlegacy
      exact hfeed row' (mem_filter.mp hrow').1
    · obtain ⟨id, row', hrow', rfl⟩ := exists_of_mem_numberFrom hcompact
      exact hrows row' (mem_filter.mp hrow').1
  omega

theorem atMoment_loadTicks_preparedCopy (hstored : db.StoredById)
    (hcapture : 0 < (db.preparedCopy openedAt startTime endTime).captureCount startTime endTime) :
    atMoment sortUs moment
        ((db.preparedCopy openedAt startTime endTime).loadTicks startTime endTime) =
      (moveLast isTopOfBookClob compact (db.feedTicksAt startTime endTime moment) ++
        db.compactTicksAt startTime endTime moment) ++
        blockTicksAt startTime endTime moment
          (numberFrom withId 1 (db.overlappingBlocks startTime endTime)) := by
  rw [atMoment_loadTicks (storedById_preparedCopy hstored) hcapture, feedTicksAt_preparedCopy,
    compactTicksAt_preparedCopy, overlappingBlocks_preparedCopy, moveLast]
  simp only [append_assoc]

theorem forall_moveLast_feedTicksAt_iff :
    (∀ moment, moveLast isTopOfBookClob compact
        (db.feedTicksAt startTime endTime moment) = db.feedTicksAt startTime endTime moment) ↔
      (∀ row ∈ db.feedEvents, tickBetween startTime endTime row.tick = true →
        row.tick.isTopOfBookClob = true → row.tick.IsCompact) ∧
      db.feedEvents.Pairwise fun first second =>
        tickBetween startTime endTime first.tick = true →
          tickBetween startTime endTime second.tick = true →
            first.tick.sortUs = second.tick.sortUs →
              first.tick.isTopOfBookClob = true → second.tick.isTopOfBookClob = true := by
  simp only [moveLast_eq_self_iff, forall_and, feedTicksAt, compact_eq_self_iff,
    pairwise_filter, pairwise_map, forall_pairwise_iff]
  apply and_congr
  · constructor
    · intro h row hrow hbetween
      apply h row.tick.sortUs
      simp only [mem_filter, isAt, hbetween, beq_self_eq_true, Bool.and_true, and_true]
      exact mem_map_of_mem hrow
    · intro h moment tick htick
      simp only [mem_filter, isAt, Bool.and_eq_true] at htick
      obtain ⟨row, hrow, rfl⟩ := mem_map.mp htick.1
      exact h row hrow htick.2.1
  · simp only [isAt, Bool.and_eq_true, beq_iff_eq]
    constructor
    · intro h
      refine h.imp fun {first second} hpair hfirst hsecond htime => ?_
      exact hpair second.tick.sortUs ⟨hfirst, htime⟩ ⟨hsecond, rfl⟩
    · intro h
      refine h.imp fun {first second} hpair moment hfirst hsecond => ?_
      exact hpair hfirst.1 hsecond.1 (hfirst.2.trans hsecond.2.symm)

/-- When preparation keeps the ticks of an interval. -/
theorem loadTicks_preparedCopy_iff (hstored : db.StoredById)
    (hcapture : 0 < (db.preparedCopy openedAt startTime endTime).captureCount startTime endTime) :
    (db.preparedCopy openedAt startTime endTime).loadTicks startTime endTime =
      db.loadTicks startTime endTime ↔ db.KeepsTicks startTime endTime := by
  have hsource := captureCount_pos_of_preparedCopy hcapture
  have hmoment : ∀ moment,
      atMoment sortUs moment
          ((db.preparedCopy openedAt startTime endTime).loadTicks startTime endTime) =
        atMoment sortUs moment (db.loadTicks startTime endTime) ↔
      moveLast isTopOfBookClob compact
          (db.feedTicksAt startTime endTime moment) = db.feedTicksAt startTime endTime moment ∧
        blockTicksAt startTime endTime moment
            (numberFrom withId 1 (db.overlappingBlocks startTime endTime)) =
          blockTicksAt startTime endTime moment (db.overlappingBlocks startTime endTime) := by
    intro moment
    rw [atMoment_loadTicks_preparedCopy hstored hcapture, atMoment_loadTicks hstored hsource]
    constructor
    · intro h
      rw [append_assoc, append_assoc] at h
      have hparts := append_inj h (length_moveLast _ _ _)
      exact ⟨hparts.1, append_cancel_left hparts.2⟩
    · rintro ⟨hfeed, hblocks⟩
      rw [hfeed, hblocks]
  rw [eq_iff_forall_atMoment (inTime_loadTicks hcapture) (inTime_loadTicks hsource)]
  simp only [hmoment, forall_and, forall_moveLast_feedTicksAt_iff]
  constructor
  · rintro ⟨⟨hcompact, hlast⟩, hblocks⟩
    exact ⟨hcompact, hlast, hblocks⟩
  · intro h
    exact ⟨⟨h.legacyCompact, h.legacyLast⟩, h.blocksInOrder⟩

theorem blocksInOrder_of_short (hstored : db.StoredById)
    (hshort : ∀ block ∈ db.overlappingBlocks startTime endTime,
      block.events.length ≤ blockRowStride) (moment : ℕ) :
    blockTicksAt startTime endTime moment
        (numberFrom withId 1 (db.overlappingBlocks startTime endTime)) =
      blockTicksAt startTime endTime moment (db.overlappingBlocks startTime endTime) := by
  have hevents : ∀ blocks : List ClobReplayBlock,
      (numberFrom withId 1 blocks).flatMap (fun block => block.events.map blockEventTick) =
        blocks.flatMap fun block => block.events.map blockEventTick := by
    intro blocks
    have hmap : (numberFrom withId 1 blocks).map (fun block => block.events.map blockEventTick) =
        blocks.map fun block => block.events.map blockEventTick := by
      apply map_numberFrom
      exact fun _ _ => rfl
    rw [flatMap_def, flatMap_def, hmap]
  have hids : (db.overlappingBlocks startTime endTime).Pairwise
      fun first second => first.id < second.id := hstored.clobReplayBlocks.filter _
  rw [blockTicksAt_eq hids hshort, blockTicksAt_eq, hevents]
  · exact pairwise_numberFrom _ (fun _ _ => rfl) _ _
  · intro block hblock
    obtain ⟨id, block', hblock', rfl⟩ := exists_of_mem_numberFrom hblock
    exact hshort block' hblock'

/-- If no block has more events than the stride, only generic rows can change the ticks. -/
theorem keepsTicks_iff_of_short (hstored : db.StoredById)
    (hshort : ∀ block ∈ db.overlappingBlocks startTime endTime,
      block.events.length ≤ blockRowStride) :
    db.KeepsTicks startTime endTime ↔
      (∀ row ∈ db.feedEvents, tickBetween startTime endTime row.tick = true →
        row.tick.isTopOfBookClob = true → row.tick.IsCompact) ∧
      db.feedEvents.Pairwise fun first second =>
        tickBetween startTime endTime first.tick = true →
          tickBetween startTime endTime second.tick = true →
            first.tick.sortUs = second.tick.sortUs →
              first.tick.isTopOfBookClob = true → second.tick.isTopOfBookClob = true :=
  ⟨fun h => ⟨h.legacyCompact, h.legacyLast⟩,
    fun h => ⟨h.1, h.2, blocksInOrder_of_short hstored hshort⟩⟩

end DataDb

end BubaPaint
