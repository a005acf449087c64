import BubaPaint.Library.Leasts
import BubaPaint.Replay.StoredTicks

/-!
# The first tick of an interval

The first tick is looked up by what captured rows decode to, and the ticks are loaded by what they
count. The two queries agree when both turn to the same storage: a block counts with all of its rows
as soon as it overlaps with the interval, and a row that does not decode is counted and looked up
but not loaded.

Main results:

- Definition `StoredDb.FirstTickAgrees`: the first tick is the first of those loaded
- Definition `StoredDb.LooksWhereItLoads`: both queries turn to the same storage
- Theorem `firstTickAgrees_iff`: they agree exactly then
-/

namespace BubaPaint

open Effects List StoredClobBlock

namespace StoredDb

variable (db : StoredDb)

def capturedAt (startMs endMs : ℤ) : Set ℤ :=
  {time | ∃ columns, db.Captures startMs endMs time columns}

def sampledAt (startMs endMs : ℤ) : Set ℤ :=
  {time | ∃ row ∈ db.ticksIn startMs endMs, row.timestamp = time}

/-- There is a first tick exactly when ticks are loaded, and it is the first of them. -/
def FirstTickAgrees (startTime endTime : ℕ) : Prop :=
  ((∃ t, db.firstTickTimestamp startTime endTime = .ok (some t)) ↔
    ∃ ticks, db.loadTicks startTime endTime = .ok ticks ∧ ticks ≠ []) ∧
  ∀ t ticks, db.firstTickTimestamp startTime endTime = .ok (some t) →
    db.loadTicks startTime endTime = .ok ticks →
      IsLeast {x | ∃ tick ∈ ticks, tick.timestamp = x} t

/-- Both queries turn to the same storage, or to storages with the same first row. -/
structure LooksWhereItLoads (startMs endMs : ℤ) : Prop where
  /-- Of rows that count as captured there is one in the interval and all decode, or else there is
  no sampled row either; unless a block is not readable, so that both queries fail. -/
  counted : ∀ count, db.captureCount startMs endMs = .ok count → count > 0 →
    db.Readable startMs endMs →
      ((db.capturedAt startMs endMs).Nonempty → db.Decodable startMs endMs) ∧
      (db.capturedAt startMs endMs = ∅ → db.sampledAt startMs endMs = ∅)
  /-- Where no row counts as captured there is none, or the first one is as early as the first
  sampled one; and there is no sampled row if a block is not readable. -/
  uncounted : ∀ count, db.captureCount startMs endMs = .ok count → ¬count > 0 →
    (db.Readable startMs endMs → (db.capturedAt startMs endMs).Nonempty →
      ∃ time, IsLeast (db.capturedAt startMs endMs) time ∧
        IsLeast (db.sampledAt startMs endMs) time) ∧
    (¬db.Readable startMs endMs → db.sampledAt startMs endMs = ∅)
  /-- Where rows cannot be counted there is none, unless a block is not readable. -/
  uncountable : ∀ e, db.captureCount startMs endMs = .error e → db.Readable startMs endMs →
    db.capturedAt startMs endMs = ∅ ∧ db.sampledAt startMs endMs = ∅

end StoredDb

/-! ## Times of rows -/

section Times

variable {startTime endTime : ℕ}
variable {timestamp t : ℕ} {s : Set ℤ}

theorem timestampParam_eq_ok {label : String} (h : timestamp ≤ i64Max) :
    timestampParam timestamp label = .ok (timestamp : ℤ) :=
  if_pos h

theorem timestampParam_eq_error (label : String) (h : ¬timestamp ≤ i64Max) :
    ∃ e, timestampParam timestamp label = .error e :=
  ⟨_, if_neg h⟩

theorem natCast_asU64 (hend : endTime ≤ i64Max) {time : ℤ}
    (h : betweenMs startTime endTime time = true) : (asU64 time : ℤ) = time := by
  simp only [betweenMs, Bool.and_eq_true, decide_eq_true_eq] at h
  unfold asU64 i64Max at *
  omega

theorem isLeast_asU64_iff (hend : endTime ≤ i64Max)
    (hs : ∀ time ∈ s, betweenMs startTime endTime time = true) :
    IsLeast {x | ∃ time ∈ s, asU64 time = x} t ↔ IsLeast s t := by
  have hcast : ∀ time ∈ s, (asU64 time : ℤ) = time := fun time htime =>
    natCast_asU64 hend (hs time htime)
  constructor
  · rintro ⟨⟨time, htime, rfl⟩, hle⟩
    refine ⟨(hcast time htime).symm ▸ htime, fun other hother => ?_⟩
    have hfirst := hle ⟨other, hother, rfl⟩
    rw [← hcast other hother]
    exact_mod_cast hfirst
  · rintro ⟨ht, hle⟩
    refine ⟨⟨t, ht, by have := hcast t ht; exact_mod_cast this⟩, ?_⟩
    rintro x ⟨other, hother, rfl⟩
    have hfirst := hle hother
    rw [← hcast other hother] at hfirst
    exact_mod_cast hfirst

theorem exists_isLeast_asU64_iff (hend : endTime ≤ i64Max)
    (hs : ∀ time ∈ s, betweenMs startTime endTime time = true) :
    (∃ time, IsLeast s time ∧ asU64 time = t) ↔ IsLeast s t := by
  constructor
  · rintro ⟨time, htime, rfl⟩
    rwa [natCast_asU64 hend (hs time htime.1)]
  · intro h
    have hcast := natCast_asU64 hend (hs t h.1)
    exact ⟨t, h, by exact_mod_cast hcast⟩

end Times

namespace StoredDb

variable {db : StoredDb} {startMs endMs : ℤ}
variable {time : ℤ} {startTime endTime t : ℕ}

theorem betweenMs_of_mem_capturedAt (h : time ∈ db.capturedAt startMs endMs) :
    betweenMs startMs endMs time = true := by
  rcases h with ⟨columns, h⟩
  exact betweenMs_of_captures h

theorem betweenMs_of_mem_sampledAt (h : time ∈ db.sampledAt startMs endMs) :
    betweenMs startMs endMs time = true := by
  rcases h with ⟨row, hrow, rfl⟩
  exact (mem_filter.mp hrow).2

/-- The times of the events of overlapping blocks in an interval. -/
def eventTimes (db : StoredDb) (startMs endMs : ℤ) : List ℤ :=
  ((db.blocksIn startMs endMs).insertionSort before).flatMap fun block =>
    (block.eventsIn startMs endMs).map fun entry => (entry.1.receivedAtMs.toNat : ℤ)

theorem mem_eventTimes_iff :
    time ∈ db.eventTimes startMs endMs ↔
      ∃ block ∈ db.blocksIn startMs endMs, ∃ event ∈ block.events,
        (event.receivedAtMs.toNat : ℤ) = time ∧ betweenMs startMs endMs time = true := by
  unfold eventTimes
  simp only [mem_flatMap, mem_insertionSort, mem_map, eventsIn, mem_filter]
  constructor
  · rintro ⟨block, hblock, entry, ⟨hentry, hin⟩, rfl⟩
    exact ⟨block, hblock, entry.1, fst_mem_of_mem_zipIdx hentry, rfl, hin⟩
  · rintro ⟨block, hblock, event, hevent, rfl, hin⟩
    rcases getElem_of_mem hevent with ⟨index, hindex, rfl⟩
    refine ⟨block, hblock, (block.events[index], index), ⟨?_, hin⟩, rfl⟩
    rw [mk_mem_zipIdx_iff_getElem?]
    exact List.getElem?_eq_getElem hindex

theorem capturedAt_eq :
    db.capturedAt startMs endMs =
      {x | x ∈ (db.feedEventsIn startMs endMs).map StoredFeedEvent.receivedAtMs} ∪
        ({x | x ∈ (db.clobEventsIn startMs endMs).map StoredClobEvent.receivedAtMs} ∪
          {x | x ∈ db.eventTimes startMs endMs}) := by
  ext time
  simp only [capturedAt, Captures, Set.mem_ofPred_eq, Set.mem_union, mem_eventTimes_iff, exists_or,
    selected, mem_append, mem_map, or_and_right]
  rw [or_assoc]
  apply or_congr
  · constructor
    · rintro ⟨columns, entry, ⟨row, hrow, rfl⟩, htime, -⟩
      exact ⟨row, hrow, htime⟩
    · rintro ⟨row, hrow, htime⟩
      exact ⟨row.columns, (0, row), ⟨row, hrow, rfl⟩, htime, rfl⟩
  · apply or_congr
    · constructor
      · rintro ⟨columns, entry, ⟨row, hrow, rfl⟩, htime, -⟩
        exact ⟨row, hrow, htime⟩
      · rintro ⟨row, hrow, htime⟩
        exact ⟨row.select.columns, (1, row.select), ⟨row, hrow, rfl⟩, htime, rfl⟩
    · constructor
      · rintro ⟨columns, block, hblock, event, hevent, htime, hin, -⟩
        exact ⟨block, hblock, event, hevent, htime, hin⟩
      · rintro ⟨block, hblock, event, hevent, htime, hin⟩
        exact ⟨_, block, hblock, event, hevent, htime, hin, rfl⟩

theorem firstClobBlockTimestamp_eq_ok_iff {first : Option ℤ} :
    db.firstClobBlockTimestamp startMs endMs = .ok first ↔
      db.Readable startMs endMs ∧ first = (db.eventTimes startMs endMs).min? := by
  have hmem : ∀ block, block ∈ (db.blocksIn startMs endMs).insertionSort before ↔
      block ∈ db.blocksIn startMs endMs := fun block => mem_insertionSort _
  constructor
  · intro h
    rcases ok_of_bind h with ⟨times, htimes, hfirst⟩
    have hreadable : db.Readable startMs endMs := by
      intro block hblock
      rcases exists_mapM_eq_ok_iff.mp ⟨times, htimes⟩ block ((hmem block).mpr hblock) with
        ⟨own, hown⟩
      exact readable_of_blockTimes_eq_ok hown
    rw [mapM_eq_ok_map fun block hblock => blockTimes_of_readable
      (hreadable block ((hmem block).mp hblock))] at htimes
    cases htimes
    cases hfirst
    refine ⟨hreadable, ?_⟩
    rw [eventTimes, flatMap_def]
  · rintro ⟨hreadable, rfl⟩
    refine bind_eq_ok_iff.mpr ⟨_, mapM_eq_ok_map fun block hblock =>
      blockTimes_of_readable (hreadable block ((hmem block).mp hblock)), ?_⟩
    rw [eventTimes, flatMap_def]
    rfl

theorem isSome_min?_iff_nonempty {l : List ℤ} : l.min?.isSome = true ↔ {x | x ∈ l}.Nonempty := by
  rw [isSome_min?_iff, ne_eq, eq_nil_iff_forall_not_mem, not_forall_not]
  rfl

theorem min?_toList_eq_some_iff {feed clob blocks : List ℤ} {m : ℤ} :
    (feed.min?.toList ++ clob.min?.toList ++ blocks.min?.toList).min? = some m ↔
      IsLeast ({x | x ∈ feed} ∪ ({x | x ∈ clob} ∪ {x | x ∈ blocks})) m := by
  have hset : {x | x ∈ feed.min?.toList ++ clob.min?.toList ++ blocks.min?.toList} =
      {x | feed.min? = some x} ∪ ({x | clob.min? = some x} ∪ {x | blocks.min? = some x}) := by
    ext x
    simp
  rw [min?_eq_some_iff_isLeast, hset, isLeast_min?_union_iff, Set.union_left_comm,
    isLeast_min?_union_iff, Set.union_left_comm, ← Set.union_assoc, Set.union_comm,
    isLeast_min?_union_iff, Set.union_comm, Set.union_assoc]

/-- The first tick of an interval is the first captured row, or the first sampled one. -/
theorem firstTickTimestamp_eq_some_iff (hstart : startTime ≤ i64Max) (hend : endTime ≤ i64Max) :
    db.firstTickTimestamp startTime endTime = .ok (some t) ↔
      db.Readable startTime endTime ∧ (IsLeast (db.capturedAt startTime endTime) t ∨
        db.capturedAt startTime endTime = ∅ ∧ IsLeast (db.sampledAt startTime endTime) t) := by
  have hcaptured : db.capturedAt startTime endTime = _ := capturedAt_eq
  have hfirst : ∀ result : Option ℤ,
      (.ok (result.map asU64) : Except String (Option ℕ)) = .ok (some t) ↔
        ∃ time, result = some time ∧ asU64 time = t := by
    intro result
    cases result <;> simp
  unfold firstTickTimestamp
  rw [timestampParam_eq_ok hstart, timestampParam_eq_ok hend]
  change (db.firstClobBlockTimestamp startTime endTime >>= _) = _ ↔ _
  rw [bind_eq_ok_iff]
  simp only [firstClobBlockTimestamp_eq_ok_iff, and_assoc, exists_and_left, exists_eq_left]
  apply and_congr_right'
  have hcondition : (((db.feedEventsIn startTime endTime).map
        StoredFeedEvent.receivedAtMs).min?.isSome = true ∨
      ((db.clobEventsIn startTime endTime).map StoredClobEvent.receivedAtMs).min?.isSome = true ∨
        (db.eventTimes startTime endTime).min?.isSome = true) ↔
      (db.capturedAt startTime endTime).Nonempty := by
    rw [hcaptured, Set.union_nonempty, Set.union_nonempty]
    simp only [isSome_min?_iff_nonempty]
  by_cases hempty : db.capturedAt startTime endTime = ∅
  · have hnone : ¬(db.capturedAt startTime endTime).Nonempty := by simp [hempty]
    have hsampled : {x | x ∈ (db.ticksIn startTime endTime).map StoredTick.timestamp} =
        db.sampledAt startTime endTime := by
      ext time
      simp [sampledAt]
    rw [if_neg (mt hcondition.mp hnone)]
    refine (hfirst _).trans ?_
    simp only [min?_eq_some_iff_isLeast, hsampled, hempty, true_and]
    rw [exists_isLeast_asU64_iff hend fun time => betweenMs_of_mem_sampledAt]
    simp [IsLeast]
  · have hsome := Set.nonempty_iff_ne_empty.mpr hempty
    rw [if_pos (hcondition.mpr hsome)]
    refine (hfirst _).trans ?_
    simp only [min?_toList_eq_some_iff, ← hcaptured, hempty, false_and, or_false]
    exact exists_isLeast_asU64_iff hend fun time => betweenMs_of_mem_capturedAt

theorem loadTicks_eq (hstart : startTime ≤ i64Max) (hend : endTime ≤ i64Max) :
    db.loadTicks startTime endTime = (do
      let count ← db.captureCount startTime endTime
      if count > 0 then
        let rows ← db.captured startTime endTime
        return (sortByKey ReplayRow.key rows).map ReplayRow.tick
      else if db.tickData.isSome then
        return ((db.ticksIn startTime endTime).insertionSort
          fun first second => first.timestamp ≤ second.timestamp).map StoredTick.tick
      else throw "preparing tick_data query") := by
  unfold loadTicks
  rw [timestampParam_eq_ok hstart, timestampParam_eq_ok hend]
  rfl

theorem times_captured {rows : List ReplayRow} (h : db.captured startMs endMs = .ok rows) :
    {x | ∃ tick ∈ (sortByKey ReplayRow.key rows).map ReplayRow.tick, tick.timestamp = x} =
      {x | ∃ time ∈ db.capturedAt startMs endMs, asU64 time = x} := by
  ext x
  constructor
  · rintro ⟨tick, htick, rfl⟩
    rcases mem_map.mp htick with ⟨row, hrow, rfl⟩
    have hrow := (mem_insertionSort _).mp hrow
    rcases (mem_captured_iff h).mp ⟨row, hrow, rfl, rfl⟩ with ⟨time, hcaptures, htime⟩
    exact ⟨time, ⟨_, hcaptures⟩, htime⟩
  · rintro ⟨time, ⟨columns, hcaptures⟩, htime⟩
    rcases (mem_captured_iff h).mpr ⟨time, hcaptures, htime⟩ with ⟨row, hrow, hstamp, -⟩
    exact ⟨row.tick, mem_map_of_mem ((mem_insertionSort _).mpr hrow), hstamp⟩

theorem times_sampled :
    {x | ∃ tick ∈ ((db.ticksIn startMs endMs).insertionSort
        fun first second => first.timestamp ≤ second.timestamp).map StoredTick.tick,
      tick.timestamp = x} = {x | ∃ time ∈ db.sampledAt startMs endMs, asU64 time = x} := by
  ext x
  constructor
  · rintro ⟨tick, htick, rfl⟩
    rcases mem_map.mp htick with ⟨row, hrow, rfl⟩
    exact ⟨_, ⟨row, (mem_insertionSort _).mp hrow, rfl⟩, rfl⟩
  · rintro ⟨_, ⟨row, hrow, rfl⟩, htime⟩
    exact ⟨row.tick, mem_map_of_mem ((mem_insertionSort _).mpr hrow), htime⟩

theorem sampledAt_eq_empty_of_isNone (h : ¬db.tickData.isSome = true) :
    db.sampledAt startMs endMs = ∅ := by
  have hnone : db.tickData = none := by simpa using h
  simp [sampledAt, ticksIn, hnone]

/-- The first of the ticks that are loaded. -/
theorem exists_loadTicks_isLeast_iff (hstart : startTime ≤ i64Max) (hend : endTime ≤ i64Max) :
    (∃ ticks, db.loadTicks startTime endTime = .ok ticks ∧
        IsLeast {x | ∃ tick ∈ ticks, tick.timestamp = x} t) ↔
      ∃ count, db.captureCount startTime endTime = .ok count ∧
        if count > 0 then
          (db.Decodable startTime endTime ∧ db.Readable startTime endTime) ∧
            IsLeast (db.capturedAt startTime endTime) t
        else IsLeast (db.sampledAt startTime endTime) t := by
  rw [loadTicks_eq hstart hend]
  cases hcount : db.captureCount startTime endTime with
  | error e =>
    constructor
    · rintro ⟨ticks, h, -⟩
      cases h
    · rintro ⟨count, h, -⟩
      cases h
  | ok count =>
    simp only [Except.ok.injEq, exists_eq_left']
    by_cases hpos : count > 0
    · rw [if_pos hpos, ← exists_captured_iff]
      change (∃ ticks, (if count > 0 then _ else _) = _ ∧ _) ↔ _
      rw [if_pos hpos]
      constructor
      · rintro ⟨ticks, h, hleast⟩
        rcases ok_of_bind h with ⟨rows, hrows, h⟩
        cases h
        rw [times_captured hrows, isLeast_asU64_iff hend fun time =>
          betweenMs_of_mem_capturedAt] at hleast
        exact ⟨⟨rows, hrows⟩, hleast⟩
      · rintro ⟨⟨rows, hrows⟩, hleast⟩
        refine ⟨_, bind_eq_ok_iff.mpr ⟨rows, hrows, rfl⟩, ?_⟩
        rw [times_captured hrows, isLeast_asU64_iff hend fun time =>
          betweenMs_of_mem_capturedAt]
        exact hleast
    · rw [if_neg hpos]
      change (∃ ticks, (if count > 0 then _ else _) = _ ∧ _) ↔ _
      rw [if_neg hpos]
      by_cases htable : db.tickData.isSome = true
      · rw [if_pos htable, ← isLeast_asU64_iff hend fun time => betweenMs_of_mem_sampledAt,
          ← times_sampled]
        constructor
        · rintro ⟨ticks, h, hleast⟩
          cases h
          exact hleast
        · intro hleast
          exact ⟨_, rfl, hleast⟩
      · rw [if_neg htable, sampledAt_eq_empty_of_isNone htable]
        constructor
        · rintro ⟨ticks, h, -⟩
          cases h
        · rintro ⟨hmem, -⟩
          cases hmem

theorem exists_isLeast_timestamp {ticks : List RawTick} (h : ticks ≠ []) :
    ∃ t, IsLeast {x | ∃ tick ∈ ticks, tick.timestamp = x} t := by
  rcases exists_mem_of_ne_nil ticks h with ⟨tick, htick⟩
  rcases exists_isLeast_of_mem (mem_map_of_mem (f := RawTick.timestamp) htick) with ⟨t, ht⟩
  simp only [mem_map] at ht
  exact ⟨t, ht⟩

theorem firstTickAgrees_iff_forall :
    db.FirstTickAgrees startTime endTime ↔
      ∀ t, db.firstTickTimestamp startTime endTime = .ok (some t) ↔
        ∃ ticks, db.loadTicks startTime endTime = .ok ticks ∧
          IsLeast {x | ∃ tick ∈ ticks, tick.timestamp = x} t := by
  constructor
  · rintro ⟨hsome, hleast⟩ t
    constructor
    · intro hfirst
      rcases hsome.mp ⟨t, hfirst⟩ with ⟨ticks, hload, -⟩
      exact ⟨ticks, hload, hleast t ticks hfirst hload⟩
    · rintro ⟨ticks, hload, ht⟩
      have hne : ticks ≠ [] := by
        rcases ht.1 with ⟨tick, htick, -⟩
        exact ne_nil_of_mem htick
      rcases hsome.mpr ⟨ticks, hload, hne⟩ with ⟨own, hown⟩
      rw [hown, (hleast own ticks hown hload).unique ht]
  · intro h
    refine ⟨⟨?_, ?_⟩, ?_⟩
    · rintro ⟨t, hfirst⟩
      rcases (h t).mp hfirst with ⟨ticks, hload, ⟨tick, htick, -⟩, -⟩
      exact ⟨ticks, hload, ne_nil_of_mem htick⟩
    · rintro ⟨ticks, hload, hne⟩
      rcases exists_isLeast_timestamp hne with ⟨t, ht⟩
      exact ⟨t, (h t).mpr ⟨ticks, hload, ht⟩⟩
    · intro t ticks hfirst hload
      rcases (h t).mp hfirst with ⟨own, hown, ht⟩
      rw [hload] at hown
      cases hown
      exact ht

theorem exists_isLeast_capturedAt (hend : endTime ≤ i64Max)
    (h : (db.capturedAt startTime endTime).Nonempty) :
    ∃ t : ℕ, IsLeast (db.capturedAt startTime endTime) t := by
  have hlist : db.capturedAt startTime endTime =
      {x | x ∈ (db.feedEventsIn startTime endTime).map StoredFeedEvent.receivedAtMs ++
        ((db.clobEventsIn startTime endTime).map StoredClobEvent.receivedAtMs ++
          db.eventTimes startTime endTime)} := by
    rw [capturedAt_eq]
    ext x
    simp
  rcases h with ⟨time, htime⟩
  rw [hlist] at htime
  rcases exists_isLeast_of_mem htime with ⟨first, hfirst⟩
  rw [← hlist] at hfirst
  exact ⟨asU64 first, (exists_isLeast_asU64_iff hend fun time =>
    betweenMs_of_mem_capturedAt).mp ⟨first, hfirst, rfl⟩⟩

theorem exists_isLeast_sampledAt (hend : endTime ≤ i64Max)
    (h : db.sampledAt startTime endTime ≠ ∅) :
    ∃ t : ℕ, IsLeast (db.sampledAt startTime endTime) t := by
  have hlist : db.sampledAt startTime endTime =
      {x | x ∈ (db.ticksIn startTime endTime).map StoredTick.timestamp} := by
    ext x
    simp [sampledAt]
  rcases Set.nonempty_iff_ne_empty.mpr h with ⟨time, htime⟩
  rw [hlist] at htime
  rcases exists_isLeast_of_mem htime with ⟨first, hfirst⟩
  rw [← hlist] at hfirst
  exact ⟨asU64 first, (exists_isLeast_asU64_iff hend fun time =>
    betweenMs_of_mem_sampledAt).mp ⟨first, hfirst, rfl⟩⟩

section SameFirst

variable {startTime endTime : ℕ}

/-- Queries with the same first tick turn to the same storage. -/
theorem looksWhereItLoads_of_same (hend : endTime ≤ i64Max)
    (h : ∀ t : ℕ, (db.Readable startTime endTime ∧
        (IsLeast (db.capturedAt startTime endTime) t ∨
          db.capturedAt startTime endTime = ∅ ∧ IsLeast (db.sampledAt startTime endTime) t)) ↔
      ∃ count, db.captureCount startTime endTime = .ok count ∧
        if count > 0 then
          (db.Decodable startTime endTime ∧ db.Readable startTime endTime) ∧
            IsLeast (db.capturedAt startTime endTime) t
        else IsLeast (db.sampledAt startTime endTime) t) :
    db.LooksWhereItLoads startTime endTime where
  counted := by
    intro count hcount hpos hreadable
    constructor
    · intro hsome
      rcases exists_isLeast_capturedAt hend hsome with ⟨t, ht⟩
      rcases (h t).mp ⟨hreadable, .inl ht⟩ with ⟨own, hown, hload⟩
      rw [hcount, Except.ok.injEq] at hown
      subst hown
      rw [if_pos hpos] at hload
      exact hload.1.1
    · intro hnone
      by_contra hsampled
      rcases exists_isLeast_sampledAt hend hsampled with ⟨t, ht⟩
      rcases (h t).mp ⟨hreadable, .inr ⟨hnone, ht⟩⟩ with ⟨own, hown, hload⟩
      rw [hcount, Except.ok.injEq] at hown
      subst hown
      rw [if_pos hpos, hnone] at hload
      cases hload.2.1
  uncounted := by
    intro count hcount hpos
    constructor
    · intro hreadable hsome
      rcases exists_isLeast_capturedAt hend hsome with ⟨t, ht⟩
      rcases (h t).mp ⟨hreadable, .inl ht⟩ with ⟨own, hown, hload⟩
      rw [hcount, Except.ok.injEq] at hown
      subst hown
      rw [if_neg hpos] at hload
      exact ⟨t, ht, hload⟩
    · intro hunreadable
      by_contra hsampled
      rcases exists_isLeast_sampledAt hend hsampled with ⟨t, ht⟩
      have hfirst := (h t).mpr ⟨count, hcount, by rwa [if_neg hpos]⟩
      exact hunreadable hfirst.1
  uncountable := by
    intro e he hreadable
    have hnever : ∀ t : ℕ, ¬(IsLeast (db.capturedAt startTime endTime) t ∨
        db.capturedAt startTime endTime = ∅ ∧ IsLeast (db.sampledAt startTime endTime) t) := by
      intro t ht
      rcases (h t).mp ⟨hreadable, ht⟩ with ⟨own, hown, -⟩
      rw [he] at hown
      cases hown
    have hnone : db.capturedAt startTime endTime = ∅ := by
      by_contra hsome
      rcases exists_isLeast_capturedAt hend (Set.nonempty_iff_ne_empty.mpr hsome) with ⟨t, ht⟩
      exact hnever t (.inl ht)
    refine ⟨hnone, ?_⟩
    by_contra hsampled
    rcases exists_isLeast_sampledAt hend hsampled with ⟨t, ht⟩
    exact hnever t (.inr ⟨hnone, ht⟩)

/-- Queries that turn to the same storage have the same first tick. -/
theorem LooksWhereItLoads.same (h : db.LooksWhereItLoads startTime endTime) (t : ℕ) :
    (db.Readable startTime endTime ∧
        (IsLeast (db.capturedAt startTime endTime) t ∨
          db.capturedAt startTime endTime = ∅ ∧ IsLeast (db.sampledAt startTime endTime) t)) ↔
      ∃ count, db.captureCount startTime endTime = .ok count ∧
        if count > 0 then
          (db.Decodable startTime endTime ∧ db.Readable startTime endTime) ∧
            IsLeast (db.capturedAt startTime endTime) t
        else IsLeast (db.sampledAt startTime endTime) t := by
  cases hcount : db.captureCount startTime endTime with
  | error e =>
    constructor
    · rintro ⟨hreadable, hleast⟩
      have hnone := h.uncountable e hcount hreadable
      rw [hnone.1, hnone.2] at hleast
      rcases hleast with hleast | ⟨-, hleast⟩
      · cases hleast.1
      · cases hleast.1
    · rintro ⟨count, hok, -⟩
      cases hok
  | ok count =>
    simp only [Except.ok.injEq, exists_eq_left']
    by_cases hpos : count > 0
    · rw [if_pos hpos]
      constructor
      · rintro ⟨hreadable, hleast | ⟨hnone, hleast⟩⟩
        · have hdecodable := (h.counted count hcount hpos hreadable).1 ⟨_, hleast.1⟩
          exact ⟨⟨hdecodable, hreadable⟩, hleast⟩
        · rw [(h.counted count hcount hpos hreadable).2 hnone] at hleast
          cases hleast.1
      · rintro ⟨⟨-, hreadable⟩, hleast⟩
        exact ⟨hreadable, .inl hleast⟩
    · rw [if_neg hpos]
      have hcases := h.uncounted count hcount hpos
      constructor
      · rintro ⟨hreadable, hleast | ⟨-, hleast⟩⟩
        · rcases hcases.1 hreadable ⟨_, hleast.1⟩ with ⟨time, hcaptured, hsampled⟩
          rw [hleast.unique hcaptured]
          exact hsampled
        · exact hleast
      · intro hleast
        have hreadable : db.Readable startTime endTime := by
          by_contra hunreadable
          rw [hcases.2 hunreadable] at hleast
          cases hleast.1
        refine ⟨hreadable, ?_⟩
        by_cases hnone : db.capturedAt startTime endTime = ∅
        · exact .inr ⟨hnone, hleast⟩
        · rcases hcases.1 hreadable (Set.nonempty_iff_ne_empty.mpr hnone) with
            ⟨time, hcaptured, hsampled⟩
          rw [hleast.unique hsampled]
          exact .inl hcaptured

end SameFirst

end StoredDb

def sampleDecodedEvent (receivedAtMs : UInt64) : DecodedClobReplayEvent ℚ where
  receivedAtMs
  eventAtMs := receivedAtMs
  receivedAtUs := none
  eventAtUs := none
  source := "clob_up"
  eventType := "book"
  sourceTopic := none
  connectionId := none
  sequenceKey := none
  marketId := none
  assetId := none
  bestBid := 1 / 2
  bestAsk := 51 / 100
  bidSize := 10
  askSize := 10
  microprice := none
  fidelity := .rawEvent

/-- A block with an event before an interval and one after it, and a sampled row within. -/
def straddlingDb : StoredDb where
  feedEvents := some []
  clobReplayEvents := some []
  clobReplayBlocks := some
    [{ id := 1, minReceivedAtMs := 1000, maxReceivedAtMs := 3000, rowCount := 2, upRows := 2
       downRows := 0, decoded := .ok [sampleDecodedEvent 1000, sampleDecodedEvent 3000] }]
  tickData := some
    [{ timestamp := 2000, source := "binance", price := some 100000, bid := none, ask := none
       bidSize := none, askSize := none }]

end BubaPaint
