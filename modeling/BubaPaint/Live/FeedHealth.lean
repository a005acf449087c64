import Mathlib.Algebra.BigOperators.Group.List.Lemmas
import Mathlib.Data.List.AList
import Mathlib.Data.List.Sort
import Mathlib.Data.String.Basic
import Mathlib.Algebra.Ring.Nat

/-!
# Feed health

The tracker counts the disconnects of each feed and adds up the time of the outages that are over.
A rollup takes both and starts a new window. A feed gets a row if it was disconnected since the last
rollup or is disconnected now. So an outage that ends in a later window than it began in is only
reported if the feed is disconnected once more in that window.

Main results:

- Theorem `rollups_conserve_iff`: when the rollups report every disconnect and all downtime.
-/

namespace BubaPaint

open List

/-! ## The tracker -/

/-- The counters of one feed since the last rollup. -/
structure FeedHealthWindowStats where
  disconnectCount : ℕ
  cumulativeDowntimeMs : ℕ
  maxDowntimeMs : ℕ
  causeCounts : AList fun _ : String => ℕ

/-- No disconnects. -/
def FeedHealthWindowStats.empty : FeedHealthWindowStats where
  disconnectCount := 0
  cumulativeDowntimeMs := 0
  maxDowntimeMs := 0
  causeCounts := ∅

/-- An outage that is not over. -/
structure ActiveFeedDisconnect where
  startedAtMs : ℕ
  causeClass : String
  deriving DecidableEq

/-- What a rollup says about one feed. -/
structure FeedHealthRollupRow where
  source : String
  disconnectCount : ℕ
  cumulativeDowntimeMs : ℕ
  maxDowntimeMs : ℕ
  activeOutageMs : Option ℕ
  activeCauseClass : Option String
  causeCounts : List (String × ℕ)
  deriving DecidableEq

/-- The windows and the outages of all feeds. -/
structure FeedHealthTracker where
  window : AList fun _ : String => FeedHealthWindowStats
  active : AList fun _ : String => ActiveFeedDisconnect

namespace FeedHealthTracker

def new : FeedHealthTracker where
  window := ∅
  active := ∅

def stats (tracker : FeedHealthTracker) (source : String) : FeedHealthWindowStats :=
  (tracker.window.lookup source).getD .empty

/-- Mark one feed connection as healthy again and accumulate completed downtime. -/
def noteConnected (tracker : FeedHealthTracker) (source : String) (nowMs : ℕ) : FeedHealthTracker :=
  match tracker.active.lookup source with
  | none => tracker
  | some active =>
    let downtimeMs := nowMs - active.startedAtMs
    let stats := tracker.stats source
    { active := tracker.active.erase source
      window := tracker.window.insert source
        { stats with
          cumulativeDowntimeMs := stats.cumulativeDowntimeMs + downtimeMs
          maxDowntimeMs := max stats.maxDowntimeMs downtimeMs } }

/-- Record one feed disconnect if the feed is not already marked as down. -/
def noteDisconnected (tracker : FeedHealthTracker) (source causeClass : String) (nowMs : ℕ) :
    FeedHealthTracker :=
  match tracker.active.lookup source with
  | some _ => tracker
  | none =>
    let stats := tracker.stats source
    { window := tracker.window.insert source
        { stats with
          disconnectCount := stats.disconnectCount + 1
          causeCounts := stats.causeCounts.insert causeClass
            ((stats.causeCounts.lookup causeClass).getD 0 + 1) }
      active := tracker.active.insert source { startedAtMs := nowMs, causeClass } }

/-- The feeds with counters or an outage, in the order of their names. -/
def sources (tracker : FeedHealthTracker) : List String :=
  (tracker.window.keys ++ tracker.active.keys.filter fun source =>
    !(tracker.window.keys.contains source)).insertionSort (· ≤ ·)

def sortedCauses (stats : FeedHealthWindowStats) : List (String × ℕ) :=
  (stats.causeCounts.entries.map fun entry => (entry.1, entry.2)).insertionSort fun left right =>
    right.2 < left.2 ∨ left.2 = right.2 ∧ left.1 ≤ right.1

/-- The row of one feed, if it was disconnected since the last rollup or is disconnected now. -/
def rollupRow (tracker : FeedHealthTracker) (nowMs : ℕ) (source : String) :
    Option FeedHealthRollupRow :=
  let stats := tracker.stats source
  let active := tracker.active.lookup source
  if stats.disconnectCount = 0 ∧ active = none then none
  else
    some
      { source
        disconnectCount := stats.disconnectCount
        cumulativeDowntimeMs := stats.cumulativeDowntimeMs
        maxDowntimeMs := stats.maxDowntimeMs
        activeOutageMs := active.map fun outage => nowMs - outage.startedAtMs
        activeCauseClass := active.map ActiveFeedDisconnect.causeClass
        causeCounts := sortedCauses stats }

/-- Drain the current rollup window into operator-facing rows while preserving active outages. -/
def takeRollups (tracker : FeedHealthTracker) (nowMs : ℕ) :
    List FeedHealthRollupRow × FeedHealthTracker :=
  (tracker.sources.filterMap (tracker.rollupRow nowMs), { tracker with window := ∅ })

end FeedHealthTracker

/-- One call of the tracker. -/
inductive FeedHealthCall where
  | connected (source : String) (nowMs : ℕ)
  | disconnected (source causeClass : String) (nowMs : ℕ)
  | rollup (nowMs : ℕ)
  deriving DecidableEq

/-- A tracker with the rows that all rollups have given so far. -/
structure FeedHealthLog where
  tracker : FeedHealthTracker
  rows : List FeedHealthRollupRow

namespace FeedHealthLog

/-- Nothing was seen or reported. -/
def start : FeedHealthLog where
  tracker := .new
  rows := []

def call (log : FeedHealthLog) : FeedHealthCall → FeedHealthLog
  | .connected source nowMs => { log with tracker := log.tracker.noteConnected source nowMs }
  | .disconnected source causeClass nowMs =>
    { log with tracker := log.tracker.noteDisconnected source causeClass nowMs }
  | .rollup nowMs =>
    let (rows, tracker) := log.tracker.takeRollups nowMs
    { tracker, rows := log.rows ++ rows }

def run (calls : List FeedHealthCall) : FeedHealthLog :=
  calls.foldl call start

/-- The disconnects of a feed in all rollups. -/
def reportedDisconnects (log : FeedHealthLog) (source : String) : ℕ :=
  ((log.rows.filter fun row => row.source == source).map FeedHealthRollupRow.disconnectCount).sum

/-- The downtime of a feed in all rollups. -/
def reportedDowntimeMs (log : FeedHealthLog) (source : String) : ℕ :=
  ((log.rows.filter fun row => row.source == source).map
    FeedHealthRollupRow.cumulativeDowntimeMs).sum

end FeedHealthLog

/-! ## One feed -/

/-- What happens to one feed: the outage it is in, what happened in all and since the last
rollup. -/
structure FeedLine where
  downSince : Option ℕ
  disconnects : ℕ
  downtimeMs : ℕ
  newDisconnects : ℕ
  newDowntimeMs : ℕ
  deriving DecidableEq

namespace FeedLine

def start : FeedLine where
  downSince := none
  disconnects := 0
  downtimeMs := 0
  newDisconnects := 0
  newDowntimeMs := 0

def goDown (line : FeedLine) (nowMs : ℕ) : FeedLine :=
  match line.downSince with
  | some _ => line
  | none =>
    { line with
      downSince := some nowMs
      disconnects := line.disconnects + 1
      newDisconnects := line.newDisconnects + 1 }

def comeBack (line : FeedLine) (nowMs : ℕ) : FeedLine :=
  match line.downSince with
  | none => line
  | some startedAtMs =>
    { line with
      downSince := none
      downtimeMs := line.downtimeMs + (nowMs - startedAtMs)
      newDowntimeMs := line.newDowntimeMs + (nowMs - startedAtMs) }

def next (source : String) (line : FeedLine) : FeedHealthCall → FeedLine
  | .connected named nowMs => if named = source then line.comeBack nowMs else line
  | .disconnected named _ nowMs => if named = source then line.goDown nowMs else line
  | .rollup _ => { line with newDisconnects := 0, newDowntimeMs := 0 }

def after (source : String) (calls : List FeedHealthCall) : FeedLine :=
  calls.foldl (next source) start

/-- A rollup passes over a feed that is connected and was not disconnected since the last one, so no
outage of such a feed may have ended since then. -/
def Covered (line : FeedLine) : Prop :=
  line.downSince = none → line.newDisconnects = 0 → line.newDowntimeMs = 0

/-- The downtime that a rollup passes over. -/
def missedMs (line : FeedLine) : ℕ :=
  if line.downSince = none ∧ line.newDisconnects = 0 then line.newDowntimeMs else 0

/-- The downtime that the rollups among several calls pass over. -/
def missedBy (source : String) : FeedLine → List FeedHealthCall → ℕ
  | _, [] => 0
  | line, .rollup nowMs :: rest =>
    line.missedMs + missedBy source (line.next source (.rollup nowMs)) rest
  | line, call :: rest => missedBy source (line.next source call) rest

theorem missedMs_eq_zero_iff {line : FeedLine} : line.missedMs = 0 ↔ line.Covered := by
  unfold missedMs Covered
  split
  · rename_i h
    simp [h]
  · rename_i h
    simp only [true_iff]
    exact fun hup hnone => absurd ⟨hup, hnone⟩ h

theorem missedBy_eq_zero_iff {source : String} {line : FeedLine} {calls : List FeedHealthCall} :
    missedBy source line calls = 0 ↔ ∀ before nowMs rest,
      calls = before ++ .rollup nowMs :: rest → (before.foldl (next source) line).Covered := by
  induction calls generalizing line with
  | nil => simp [missedBy]
  | cons call others ih =>
    have hlater : (∀ before nowMs rest, call :: others = before ++ .rollup nowMs :: rest →
        (before.foldl (next source) line).Covered) ↔
        (∀ nowMs, call = .rollup nowMs → line.Covered) ∧
          missedBy source (line.next source call) others = 0 := by
      rw [ih]
      constructor
      · intro h
        refine ⟨fun nowMs hcall => h [] nowMs others (by rw [hcall]; rfl), ?_⟩
        rintro before nowMs rest rfl
        exact h (call :: before) nowMs rest rfl
      · rintro ⟨hfirst, hrest⟩ before nowMs rest heq
        cases before with
        | nil =>
          rw [nil_append, List.cons.injEq] at heq
          exact hfirst nowMs heq.1
        | cons first before =>
          rw [cons_append, List.cons.injEq] at heq
          rw [foldl_cons, ← heq.1]
          exact hrest before nowMs rest heq.2
    rw [hlater]
    cases call with
    | connected named nowMs => simp [missedBy]
    | disconnected named causeClass nowMs => simp [missedBy]
    | rollup nowMs => simp [missedBy, missedMs_eq_zero_iff]

end FeedLine

/-! ## The tracker and one feed -/

namespace FeedHealthTracker

variable {tracker : FeedHealthTracker} {source : String}

theorem stats_insert (named : String) (stats : FeedHealthWindowStats)
    (active : AList fun _ : String => ActiveFeedDisconnect) :
    ({ window := tracker.window.insert named stats, active } : FeedHealthTracker).stats source =
      if named = source then stats else tracker.stats source := by
  unfold FeedHealthTracker.stats
  by_cases h : named = source
  · subst h
    simp
  · have h' : source ≠ named := fun heq => h heq.symm
    simp [h, AList.lookup_insert_ne h']

theorem nodup_sources (tracker : FeedHealthTracker) : tracker.sources.Nodup := by
  unfold sources
  rw [(perm_insertionSort _ _).nodup_iff, nodup_append]
  refine ⟨tracker.window.keys_nodup, tracker.active.keys_nodup.filter _, ?_⟩
  rintro named hwindow other hactive rfl
  rw [mem_filter] at hactive
  simp [hwindow] at hactive

theorem rollupRow_of_notMem (nowMs : ℕ) (h : source ∉ tracker.sources) :
    tracker.rollupRow nowMs source = none := by
  unfold sources at h
  rw [mem_insertionSort, mem_append, mem_filter] at h
  push Not at h
  have hwindow : tracker.window.lookup source = none :=
    AList.lookup_eq_none.mpr fun hmem => h.1 (AList.mem_keys.mp hmem)
  have hactive : tracker.active.lookup source = none := by
    refine AList.lookup_eq_none.mpr fun hmem => ?_
    have hkept := h.2 (AList.mem_keys.mp hmem)
    simp [h.1] at hkept
  unfold rollupRow stats
  rw [hwindow, hactive]
  rfl

theorem source_of_rollupRow {nowMs : ℕ} {row : FeedHealthRollupRow}
    (h : tracker.rollupRow nowMs source = some row) : row.source = source := by
  unfold rollupRow at h
  dsimp only at h
  split at h
  · cases h
  · cases h
    rfl

theorem filter_takeRollups (tracker : FeedHealthTracker) (nowMs : ℕ) (source : String) :
    (tracker.takeRollups nowMs).1.filter (fun row => row.source == source) =
      (tracker.rollupRow nowMs source).toList := by
  have hrows : ∀ l : List String, l.Nodup →
      (l.filterMap (tracker.rollupRow nowMs)).filter (fun row => row.source == source) =
        if source ∈ l then (tracker.rollupRow nowMs source).toList else [] := by
    intro l hnodup
    induction l with
    | nil => rfl
    | cons first rest ih =>
      have hcons := nodup_cons.mp hnodup
      have hrest := ih hcons.2
      by_cases hfirst : first = source
      · subst hfirst
        rw [if_neg hcons.1] at hrest
        cases hrow : tracker.rollupRow nowMs first with
        | none => simp [hrow, hrest]
        | some row => simp [hrow, hrest, source_of_rollupRow hrow]
      · have hfirst' : source ≠ first := fun heq => hfirst heq.symm
        cases hrow : tracker.rollupRow nowMs first with
        | none => simp [hrow, hrest, hfirst']
        | some row =>
          have hsource := source_of_rollupRow hrow
          simp [hrow, hrest, hfirst', hsource, hfirst]
  have hall := hrows tracker.sources tracker.nodup_sources
  by_cases hmem : source ∈ tracker.sources
  · rw [if_pos hmem] at hall
    exact hall
  · rw [if_neg hmem] at hall
    rw [rollupRow_of_notMem nowMs hmem]
    exact hall

end FeedHealthTracker

/-- The tracker knows of a feed what happened to it since the last rollup. -/
structure Tracks (source : String) (tracker : FeedHealthTracker) (line : FeedLine) : Prop where
  active : (tracker.active.lookup source).map ActiveFeedDisconnect.startedAtMs = line.downSince
  newDisconnects : (tracker.stats source).disconnectCount = line.newDisconnects
  newDowntimeMs : (tracker.stats source).cumulativeDowntimeMs = line.newDowntimeMs

namespace Tracks

variable {source : String} {tracker : FeedHealthTracker} {line : FeedLine}

theorem start (source : String) : Tracks source FeedHealthLog.start.tracker .start where
  active := rfl
  newDisconnects := rfl
  newDowntimeMs := rfl

theorem noteConnected (h : Tracks source tracker line) (named : String) (nowMs : ℕ) :
    Tracks source (tracker.noteConnected named nowMs)
      (line.next source (.connected named nowMs)) := by
  unfold FeedHealthTracker.noteConnected FeedLine.next
  by_cases hnamed : named = source
  · subst hnamed
    have hactive := h.active
    cases hlookup : tracker.active.lookup named with
    | none =>
      rw [hlookup] at hactive
      simpa [FeedLine.comeBack, ← hactive] using h
    | some outage =>
      rw [hlookup] at hactive
      simp only [FeedLine.comeBack, ← hactive, Option.map_some, if_true]
      constructor
      · simp
      · simpa [FeedHealthTracker.stats_insert] using h.newDisconnects
      · simpa [FeedHealthTracker.stats_insert] using h.newDowntimeMs
  · have hnamed' : source ≠ named := fun heq => hnamed heq.symm
    simp only [if_neg hnamed]
    cases hlookup : tracker.active.lookup named with
    | none => exact h
    | some outage =>
      constructor
      · simpa [AList.lookup_erase_ne hnamed'] using h.active
      · simpa [FeedHealthTracker.stats_insert, hnamed] using h.newDisconnects
      · simpa [FeedHealthTracker.stats_insert, hnamed] using h.newDowntimeMs

theorem noteDisconnected (h : Tracks source tracker line) (named causeClass : String) (nowMs : ℕ) :
    Tracks source (tracker.noteDisconnected named causeClass nowMs)
      (line.next source (.disconnected named causeClass nowMs)) := by
  unfold FeedHealthTracker.noteDisconnected FeedLine.next
  by_cases hnamed : named = source
  · subst hnamed
    have hactive := h.active
    cases hlookup : tracker.active.lookup named with
    | some outage =>
      rw [hlookup] at hactive
      simpa [FeedLine.goDown, ← hactive] using h
    | none =>
      rw [hlookup] at hactive
      simp only [FeedLine.goDown, ← hactive, Option.map_none, if_true]
      constructor
      · simp
      · simpa [FeedHealthTracker.stats_insert] using h.newDisconnects
      · simpa [FeedHealthTracker.stats_insert] using h.newDowntimeMs
  · have hnamed' : source ≠ named := fun heq => hnamed heq.symm
    simp only [if_neg hnamed]
    cases hlookup : tracker.active.lookup named with
    | some outage => exact h
    | none =>
      constructor
      · simpa [AList.lookup_insert_ne hnamed'] using h.active
      · simpa [FeedHealthTracker.stats_insert, hnamed] using h.newDisconnects
      · simpa [FeedHealthTracker.stats_insert, hnamed] using h.newDowntimeMs

theorem takeRollups (h : Tracks source tracker line) (nowMs : ℕ) :
    Tracks source (tracker.takeRollups nowMs).2 (line.next source (.rollup nowMs)) where
  active := h.active
  newDisconnects := rfl
  newDowntimeMs := rfl

theorem call {log : FeedHealthLog} (h : Tracks source log.tracker line) (call : FeedHealthCall) :
    Tracks source (log.call call).tracker (line.next source call) := by
  cases call with
  | connected named nowMs => exact h.noteConnected named nowMs
  | disconnected named causeClass nowMs => exact h.noteDisconnected named causeClass nowMs
  | rollup nowMs => exact h.takeRollups nowMs

end Tracks

/-! ## What is reported -/

namespace FeedHealthLog

variable {source : String} {log : FeedHealthLog} {line : FeedLine}

theorem reported_rollup (h : Tracks source log.tracker line) (nowMs : ℕ) :
    (log.call (.rollup nowMs)).reportedDisconnects source =
        log.reportedDisconnects source + line.newDisconnects ∧
      (log.call (.rollup nowMs)).reportedDowntimeMs source + line.missedMs =
        log.reportedDowntimeMs source + line.newDowntimeMs := by
  have hrows := log.tracker.filter_takeRollups nowMs source
  have hup : log.tracker.active.lookup source = none ↔ line.downSince = none := by
    rw [← h.active, Option.map_eq_none_iff]
  simp only [reportedDisconnects, reportedDowntimeMs, call, filter_append, map_append,
    sum_append, hrows, FeedHealthTracker.rollupRow, FeedLine.missedMs, h.newDisconnects,
    h.newDowntimeMs, hup]
  by_cases hmissed : line.newDisconnects = 0 ∧ line.downSince = none
  · simp [hmissed]
  · have hkept : ¬(line.downSince = none ∧ line.newDisconnects = 0) := fun hnot =>
      hmissed ⟨hnot.2, hnot.1⟩
    simp [hmissed, hkept]

theorem reported_call (h : Tracks source log.tracker line) (call : FeedHealthCall)
    (rest : List FeedHealthCall) :
    (log.call call).reportedDisconnects source + (line.next source call).newDisconnects +
        line.disconnects =
      log.reportedDisconnects source + line.newDisconnects +
        (line.next source call).disconnects ∧
    (log.call call).reportedDowntimeMs source + (line.next source call).newDowntimeMs +
        line.missedBy source (call :: rest) + line.downtimeMs =
      log.reportedDowntimeMs source + line.newDowntimeMs +
        (line.next source call).missedBy source rest + (line.next source call).downtimeMs := by
  cases call with
  | connected named nowMs =>
    simp only [FeedHealthLog.call, reportedDisconnects, reportedDowntimeMs, FeedLine.missedBy,
      FeedLine.next, FeedLine.comeBack]
    split
    · split
      · omega
      · dsimp only
        omega
    · omega
  | disconnected named causeClass nowMs =>
    simp only [FeedHealthLog.call, reportedDisconnects, reportedDowntimeMs, FeedLine.missedBy,
      FeedLine.next, FeedLine.goDown]
    split
    · split
      · omega
      · dsimp only
        omega
    · omega
  | rollup nowMs =>
    obtain ⟨hdisconnects, hdowntime⟩ := reported_rollup h nowMs
    simp only [FeedLine.missedBy, FeedLine.next]
    omega

theorem reported_run (h : Tracks source log.tracker line) (calls : List FeedHealthCall) :
    (calls.foldl call log).reportedDisconnects source +
        (calls.foldl (FeedLine.next source) line).newDisconnects + line.disconnects =
      log.reportedDisconnects source + line.newDisconnects +
        (calls.foldl (FeedLine.next source) line).disconnects ∧
    (calls.foldl call log).reportedDowntimeMs source +
        (calls.foldl (FeedLine.next source) line).newDowntimeMs + line.missedBy source calls +
        line.downtimeMs =
      log.reportedDowntimeMs source + line.newDowntimeMs +
        (calls.foldl (FeedLine.next source) line).downtimeMs := by
  induction calls generalizing log line with
  | nil => simp [FeedLine.missedBy]
  | cons first rest ih =>
    have hfirst := reported_call h first rest
    have hrest := ih (h.call first)
    rw [foldl_cons, foldl_cons]
    omega

/-- After a last rollup every disconnect was reported once. -/
theorem sum_disconnectCount_run (source : String) (calls : List FeedHealthCall) (nowMs : ℕ) :
    (run (calls ++ [.rollup nowMs])).reportedDisconnects source =
      (FeedLine.after source calls).disconnects := by
  have hrun := (reported_run (Tracks.start source) (calls ++ [.rollup nowMs])).1
  simpa [run, FeedLine.after, FeedLine.next, FeedLine.start, start, reportedDisconnects,
    foldl_append] using hrun

theorem sum_downtimeMs_run (source : String) (calls : List FeedHealthCall) (nowMs : ℕ) :
    (run (calls ++ [.rollup nowMs])).reportedDowntimeMs source +
        FeedLine.start.missedBy source (calls ++ [.rollup nowMs]) =
      (FeedLine.after source calls).downtimeMs := by
  have hrun := (reported_run (Tracks.start source) (calls ++ [.rollup nowMs])).2
  simpa [run, FeedLine.after, FeedLine.next, FeedLine.start, start, reportedDowntimeMs,
    foldl_append] using hrun

/-- The rollups report every disconnect and all downtime if each of them covers the feed. -/
theorem rollups_conserve_iff (source : String) (calls : List FeedHealthCall) (nowMs : ℕ) :
    ((run (calls ++ [.rollup nowMs])).reportedDisconnects source =
          (FeedLine.after source calls).disconnects ∧
        (run (calls ++ [.rollup nowMs])).reportedDowntimeMs source =
          (FeedLine.after source calls).downtimeMs) ↔
      ∀ before rollupMs rest, calls ++ [.rollup nowMs] = before ++ .rollup rollupMs :: rest →
        (FeedLine.after source before).Covered := by
  have hdowntime := sum_downtimeMs_run source calls nowMs
  unfold FeedLine.after
  rw [← FeedLine.missedBy_eq_zero_iff]
  unfold FeedLine.after at hdowntime
  constructor
  · rintro ⟨_, hreported⟩
    omega
  · intro hmissed
    exact ⟨sum_disconnectCount_run source calls nowMs, by omega⟩

/-- An outage of eight seconds that ends after a rollup: no row tells of its time. -/
theorem spanning_outage_missed :
    let calls : List FeedHealthCall :=
      [.disconnected "clob" "websocket_error" 1000, .rollup 6000, .connected "clob" 9000]
    (FeedLine.after "clob" calls).downSince = none ∧
      (FeedLine.after "clob" calls).downtimeMs = 8000 ∧
      (run (calls ++ [.rollup 12000])).reportedDowntimeMs "clob" = 0 := by
  decide +kernel

end FeedHealthLog

end BubaPaint
