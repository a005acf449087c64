import BubaPaint.Library.Neighbours
import Mathlib.Data.Int.ModEq
import Mathlib.Tactic.Linarith

/-!
# Hourly data quality

The ticks of each source are counted hour by hour, with the gaps between neighbours inside an hour.
A gap that reaches over the end of an hour belongs to no hour. The last hour ends where the newest
timestamp is rounded up to, so that a newest timestamp on an exact hour lies in no hour.

Main results:

- Theorem `hourly_quality_accounts`: which ticks and gaps the rows of a source account for.
-/

namespace BubaPaint

open Effects List

/-- One row of `tick_data`, with the columns that are read. -/
structure TickTime where
  timestamp : ℤ
  source : String

/-- One row of `data_quality`. -/
structure DataQualityRow where
  hourStart : ℤ
  source : String
  tickCount : ℕ
  expectedCount : ℕ
  gapCount5s : ℕ
  gapCount30s : ℕ
  maxGapMs : ℤ
  coveragePct : ℚ

def hourMs : ℤ := 3600000

def qualitySources : List String :=
  ["binance", "chainlink", "clob_up", "clob_down"]

/-- The counters of the loop over the timestamps of an hour. -/
structure GapCounts where
  gapCount5s : ℕ
  gapCount30s : ℕ
  maxGap : ℤ

def GapCounts.add (counts : GapCounts) (gap : ℤ) : GapCounts where
  gapCount5s := if 5000 < gap then counts.gapCount5s + 1 else counts.gapCount5s
  gapCount30s := if 30000 < gap then counts.gapCount30s + 1 else counts.gapCount30s
  maxGap := if counts.maxGap < gap then gap else counts.maxGap

/-- The distances between neighbours. -/
def gapsOf (timestamps : List ℤ) : List ℤ :=
  (neighbours timestamps).map fun pair => pair.2 - pair.1

def countGaps (timestamps : List ℤ) : GapCounts :=
  (gapsOf timestamps).foldl GapCounts.add ⟨0, 0, 0⟩

def timestampsOf (ticks : List TickTime) (source : String) : List ℤ :=
  ((ticks.filter fun tick => tick.source == source).map TickTime.timestamp).insertionSort (· ≤ ·)

/-- The timestamps of a source from one time to before another one, in their order. -/
def timestampsIn (ticks : List TickTime) (source : String) (hour hourEnd : ℤ) : List ℤ :=
  ((ticks.filter fun tick =>
    tick.source == source && decide (hour ≤ tick.timestamp) &&
      decide (tick.timestamp < hourEnd)).map TickTime.timestamp).insertionSort (· ≤ ·)

/-- The row of one source in one hour, if it has ticks there. -/
def qualityRow (ticks : List TickTime) (hour : ℤ) (source : String) : Option DataQualityRow :=
  let timestamps := timestampsIn ticks source hour (hour + hourMs)
  if timestamps.isEmpty then none
  else
    let counts := countGaps timestamps
    some {
      hourStart := hour
      source
      tickCount := timestamps.length
      expectedCount := 3600
      gapCount5s := counts.gapCount5s
      gapCount30s := counts.gapCount30s
      maxGapMs := counts.maxGap
      coveragePct := timestamps.length / 3600 }

def hoursFrom (hour endHour : ℤ) : List ℤ :=
  if hour < endHour then hour :: hoursFrom (hour + hourMs) endHour else []
termination_by (endHour - hour).toNat
decreasing_by simp only [hourMs]; omega

def startHour (tmin : ℤ) : ℤ :=
  tmin.tdiv hourMs * hourMs

/-- The end of the last hour. The sum of 64 bits wraps around. -/
def endHour (tmax : ℤ) : ℤ :=
  ((tmax + hourMs - 1).bmod (2 ^ 64)).tdiv hourMs * hourMs

def computeDataQuality (ticks : List TickTime) : List DataQualityRow :=
  let timestamps := ticks.map TickTime.timestamp
  match timestamps.min?, timestamps.max? with
  | some tmin, some tmax =>
    (hoursFrom (startHour tmin) (endHour tmax)).flatMap fun hour =>
      qualitySources.filterMap (qualityRow ticks hour)
  | _, _ => []

/-- The rows have a number of ticks and some gaps together. -/
structure Accounts (rows : List DataQualityRow) (tickCount : ℕ) (gaps : List ℤ) : Prop where
  tickCount : (rows.map DataQualityRow.tickCount).sum = tickCount
  gapCount5s : (rows.map DataQualityRow.gapCount5s).sum = gaps.countP fun gap => 5000 < gap
  gapCount30s : (rows.map DataQualityRow.gapCount30s).sum = gaps.countP fun gap => 30000 < gap
  maxGapMs : largest (rows.map DataQualityRow.maxGapMs) = largest gaps

/-- The stored rows of one source. -/
def rowsOf (ticks : List TickTime) (source : String) : List DataQualityRow :=
  (computeDataQuality ticks).filter fun row => row.source == source

def hourOf (timestamp : ℤ) : ℤ :=
  timestamp / hourMs * hourMs

/-- The distances between neighbours of one hour. -/
def hourlyGaps (timestamps : List ℤ) : List ℤ :=
  ((neighbours timestamps).filter fun pair => decide (hourOf pair.1 = hourOf pair.2)).map
    fun pair => pair.2 - pair.1

/-! ## The hours -/

variable {timestamp tmin : ℤ} {rows : List DataQualityRow} {count : ℕ} {gaps : List ℤ}

theorem mem_hoursFrom {k hour endHour : ℤ} :
    k ∈ hoursFrom hour endHour ↔ hour ≤ k ∧ k < endHour ∧ hourMs ∣ k - hour := by
  fun_induction hoursFrom hour endHour with
  | case1 hour hlt ih =>
    rw [mem_cons, ih]
    simp only [hourMs] at *
    omega
  | case2 hour hge =>
    simp only [not_mem_nil, false_iff]
    omega

theorem nodup_hoursFrom (hour endHour : ℤ) : (hoursFrom hour endHour).Nodup := by
  fun_induction hoursFrom hour endHour with
  | case1 hour hlt ih =>
    refine nodup_cons.mpr ⟨?_, ih⟩
    rw [mem_hoursFrom]
    simp only [hourMs]
    omega
  | case2 hour hge => exact nodup_nil

theorem hourOf_eq_iff {hour : ℤ} (h : hourMs ∣ hour) :
    hourOf timestamp = hour ↔ hour ≤ timestamp ∧ timestamp < hour + hourMs := by
  simp only [hourOf, hourMs] at *
  omega

theorem hourOf_mono {a b : ℤ} (h : a ≤ b) : hourOf a ≤ hourOf b := by
  simp only [hourOf, hourMs]
  omega

variable {ticks : List TickTime} {source : String} {hour : ℤ} {timestamps : List ℤ}

theorem sorted_timestampsOf : (timestampsOf ticks source).Pairwise (· ≤ ·) :=
  pairwise_insertionSort _ _

theorem mem_timestampsOf : timestamp ∈ timestampsOf ticks source ↔
    ∃ tick ∈ ticks, tick.source = source ∧ tick.timestamp = timestamp := by
  simp [timestampsOf, and_assoc]

/-- The timestamps of an hour are those of the source that the hour has. -/
theorem timestampsIn_eq_filter (h : hourMs ∣ hour) :
    timestampsIn ticks source hour (hour + hourMs) =
      (timestampsOf ticks source).filter fun timestamp => decide (hourOf timestamp = hour) := by
  apply List.Perm.eq_of_pairwise' (pairwise_insertionSort _ _) (sorted_timestampsOf.filter _)
  refine (perm_insertionSort _ _).trans (List.Perm.trans ?_
    ((perm_insertionSort _ _).filter _).symm)
  rw [filter_map, filter_filter]
  apply List.Perm.of_eq
  congr 1
  apply filter_congr
  intro tick _
  simp only [Function.comp_apply, hourOf_eq_iff h, Bool.decide_and]
  grind

/-! ## The counters -/

theorem foldl_add (gaps : List ℤ) (counts : GapCounts) :
    gaps.foldl GapCounts.add counts =
      ⟨counts.gapCount5s + gaps.countP fun gap => 5000 < gap,
        counts.gapCount30s + gaps.countP fun gap => 30000 < gap,
        gaps.foldl max counts.maxGap⟩ := by
  induction gaps generalizing counts with
  | nil => rfl
  | cons gap gaps ih =>
    rw [foldl_cons, ih, foldl_cons, countP_cons, countP_cons, max_def]
    simp only [GapCounts.add, GapCounts.mk.injEq, decide_eq_true_eq]
    refine ⟨by split <;> omega, by split <;> omega, ?_⟩
    congr 1
    split <;> split <;> omega

theorem countGaps_eq (timestamps : List ℤ) :
    countGaps timestamps =
      ⟨(gapsOf timestamps).countP fun gap => 5000 < gap,
        (gapsOf timestamps).countP fun gap => 30000 < gap, largest (gapsOf timestamps)⟩ := by
  rw [countGaps, foldl_add, Nat.zero_add, Nat.zero_add]
  rfl

theorem Accounts.perm {gaps' : List ℤ} (h : Accounts rows count gaps) (hperm : gaps.Perm gaps') :
    Accounts rows count gaps' where
  tickCount := h.tickCount
  gapCount5s := h.gapCount5s.trans (hperm.countP_eq _)
  gapCount30s := h.gapCount30s.trans (hperm.countP_eq _)
  maxGapMs := by
    rw [h.maxGapMs]
    apply eq_of_forall_ge_iff
    intro bound
    simp only [largest_le_iff, hperm.mem_iff]

/-- A row has what its timestamps have. -/
structure RowOf (row : DataQualityRow) (source : String) (timestamps : List ℤ) : Prop where
  source : row.source = source
  tickCount : row.tickCount = timestamps.length
  gapCount5s : row.gapCount5s = (gapsOf timestamps).countP fun gap => 5000 < gap
  gapCount30s : row.gapCount30s = (gapsOf timestamps).countP fun gap => 30000 < gap
  maxGapMs : row.maxGapMs = largest (gapsOf timestamps)

theorem qualityRow_cases (ticks : List TickTime) (hour : ℤ) (source : String) :
    (qualityRow ticks hour source = none ∧ timestampsIn ticks source hour (hour + hourMs) = []) ∨
      ∃ row, qualityRow ticks hour source = some row ∧
        RowOf row source (timestampsIn ticks source hour (hour + hourMs)) := by
  cases htimes : timestampsIn ticks source hour (hour + hourMs) with
  | nil => simp [qualityRow, htimes]
  | cons timestamp rest =>
    right
    simp only [qualityRow, htimes, isEmpty_cons, Bool.false_eq_true, if_false, countGaps_eq]
    exact ⟨_, rfl, rfl, rfl, rfl, rfl, rfl⟩

theorem Accounts.cons {row : DataQualityRow} (h : Accounts rows count gaps)
    (hrow : RowOf row source timestamps) :
    Accounts (row :: rows) (timestamps.length + count) (gapsOf timestamps ++ gaps) where
  tickCount := by simp [h.tickCount, hrow.tickCount]
  gapCount5s := by simp [h.gapCount5s, hrow.gapCount5s]
  gapCount30s := by simp [h.gapCount30s, hrow.gapCount30s]
  maxGapMs := by
    apply eq_of_forall_ge_iff
    intro bound
    have hrest : largest (rows.map DataQualityRow.maxGapMs) ≤ bound ↔ largest gaps ≤ bound := by
      rw [h.maxGapMs]
    simp only [largest_le_iff, hrow.maxGapMs, map_cons, forall_mem_cons,
      forall_mem_append] at hrest ⊢
    tauto

theorem accounts_filterMap (ticks : List TickTime) (source : String) (hours : List ℤ) :
    Accounts (hours.filterMap fun hour => qualityRow ticks hour source)
      (hours.flatMap fun hour => timestampsIn ticks source hour (hour + hourMs)).length
      (hours.flatMap fun hour => gapsOf (timestampsIn ticks source hour (hour + hourMs))) := by
  induction hours with
  | nil => exact ⟨rfl, rfl, rfl, rfl⟩
  | cons hour hours ih =>
    rw [flatMap_cons, flatMap_cons, length_append, filterMap_cons]
    rcases qualityRow_cases ticks hour source with ⟨hnone, hempty⟩ | ⟨row, hsome, hrow⟩
    · rw [hnone, hempty, length_nil, Nat.zero_add]
      exact ih
    · rw [hsome]
      exact ih.cons hrow

/-! ## All hours -/

theorem filter_filterMap_qualityRow {sources : List String} (hnodup : sources.Nodup) :
    (sources.filterMap (qualityRow ticks hour)).filter (fun row => row.source == source) =
      if source ∈ sources then (qualityRow ticks hour source).toList else [] := by
  induction sources with
  | nil => rfl
  | cons first sources ih =>
    obtain ⟨hfirst, hnodup⟩ := nodup_cons.mp hnodup
    have ih := ih hnodup
    rw [filterMap_cons]
    by_cases hsame : source = first
    · subst hsame
      rw [if_neg hfirst] at ih
      rcases qualityRow_cases ticks hour source with ⟨hnone, -⟩ | ⟨row, hsome, hrow⟩
      · simp [hnone, ih]
      · simp [hsome, ih, hrow.source]
    · rcases qualityRow_cases ticks hour first with ⟨hnone, -⟩ | ⟨row, hsome, hrow⟩
      · simp [hnone, ih, hsame]
      · simp [hsome, ih, hsame, hrow.source, Ne.symm hsame]

theorem rowsOf_eq (hsource : source ∈ qualitySources) {tmax : ℤ}
    (hmin : (ticks.map TickTime.timestamp).min? = some tmin)
    (hmax : (ticks.map TickTime.timestamp).max? = some tmax) :
    rowsOf ticks source = (hoursFrom (startHour tmin) (endHour tmax)).filterMap fun hour =>
      qualityRow ticks hour source := by
  have hnodup : qualitySources.Nodup := by decide
  simp only [rowsOf, computeDataQuality, hmin, hmax, filter_flatMap,
    filter_filterMap_qualityRow hnodup, if_pos hsource]
  exact (filterMap_eq_flatMap_toList _ _).symm

theorem hourMs_dvd_of_mem {endHour : ℤ}
    (h : hour ∈ hoursFrom (startHour tmin) endHour) : hourMs ∣ hour := by
  obtain ⟨-, -, hdvd⟩ := mem_hoursFrom.mp h
  exact (Int.dvd_iff_dvd_of_dvd_sub hdvd).mpr (Int.dvd_mul_left _ _)

section Hours

variable {tmin endHour : ℤ}
  (hcovered : ∀ timestamp ∈ timestampsOf ticks source,
    hourOf timestamp ∈ hoursFrom (startHour tmin) endHour)

include hcovered

/-- The hours have the timestamps of the source. -/
theorem perm_flatMap_timestampsIn :
    ((hoursFrom (startHour tmin) endHour).flatMap fun hour =>
      timestampsIn ticks source hour (hour + hourMs)).Perm (timestampsOf ticks source) := by
  have hparts := flatMap_filter_key_perm (nodup_hoursFrom (startHour tmin) endHour) hourOf
    (timestampsOf ticks source)
  have hall : (timestampsOf ticks source).filter (fun timestamp =>
      decide (hourOf timestamp ∈ hoursFrom (startHour tmin) endHour)) =
      timestampsOf ticks source := by
    apply filter_eq_self.mpr
    intro timestamp hmem
    exact decide_eq_true (hcovered timestamp hmem)
  rw [hall] at hparts
  apply List.Perm.trans (List.Perm.of_eq ?_) hparts
  apply flatMap_congr
  intro hour hhour
  exact timestampsIn_eq_filter (hourMs_dvd_of_mem hhour)

/-- The hours have the gaps of the source that lie in one hour. -/
theorem perm_flatMap_gapsIn :
    ((hoursFrom (startHour tmin) endHour).flatMap fun hour =>
      gapsOf (timestampsIn ticks source hour (hour + hourMs))).Perm
        (hourlyGaps (timestampsOf ticks source)) := by
  have hparts := flatMap_filter_key_perm (nodup_hoursFrom (startHour tmin) endHour)
    (fun pair : ℤ × ℤ => hourOf pair.2)
    ((neighbours (timestampsOf ticks source)).filter fun pair =>
      decide (hourOf pair.1 = hourOf pair.2))
  have hall : ((neighbours (timestampsOf ticks source)).filter fun pair =>
      decide (hourOf pair.1 = hourOf pair.2)).filter (fun pair =>
      decide (hourOf pair.2 ∈ hoursFrom (startHour tmin) endHour)) =
      (neighbours (timestampsOf ticks source)).filter fun pair =>
        decide (hourOf pair.1 = hourOf pair.2) := by
    apply filter_eq_self.mpr
    intro pair hmem
    have hpair := mem_of_neighbours (mem_of_mem_filter hmem)
    exact decide_eq_true (hcovered pair.2 hpair.2)
  rw [hall] at hparts
  have hgaps := hparts.map fun pair => pair.2 - pair.1
  rw [map_flatMap] at hgaps
  apply List.Perm.trans (List.Perm.of_eq ?_) hgaps
  apply flatMap_congr
  intro hour hhour
  rw [timestampsIn_eq_filter (hourMs_dvd_of_mem hhour), gapsOf,
    neighbours_filter_key (sorted_timestampsOf.imp hourOf_mono), filter_filter]
  simp only [Bool.and_comm]

end Hours

theorem mem_hours {tmin tmax timestamp : ℤ} (hmin : tmin ≤ timestamp) (hmax : timestamp ≤ tmax)
    (hnonneg : 0 ≤ tmin) (hfits : tmax + hourMs ≤ 2 ^ 63)
    (hbefore : timestamp = tmax → ¬hourMs ∣ tmax) :
    hourOf timestamp ∈ hoursFrom (startHour tmin) (endHour tmax) := by
  have hsum : (tmax + hourMs - 1).bmod (2 ^ 64) = tmax + hourMs - 1 := by
    simp only [hourMs] at *
    apply Int.bmod_eq_of_le <;> omega
  rw [mem_hoursFrom, endHour, hsum, startHour, hourOf, Int.tdiv_eq_ediv_of_nonneg hnonneg,
    Int.tdiv_eq_ediv_of_nonneg (by simp only [hourMs]; omega)]
  simp only [hourMs] at *
  omega

/-- The rows of a source have its ticks and its gaps inside an hour together, unless it has a tick
at the newest timestamp of all, on an exact hour. -/
theorem hourly_quality_accounts (ticks : List TickTime) (source : String)
    (hnonneg : ∀ tick ∈ ticks, 0 ≤ tick.timestamp)
    (hfits : ∀ tick ∈ ticks, tick.timestamp + hourMs ≤ 2 ^ 63) (hsource : source ∈ qualitySources)
    (hbefore : ∀ tick ∈ ticks, tick.source = source →
      (∀ other ∈ ticks, other.timestamp ≤ tick.timestamp) → ¬hourMs ∣ tick.timestamp) :
    Accounts (rowsOf ticks source) (ticks.countP fun tick => tick.source == source)
      (hourlyGaps (timestampsOf ticks source)) := by
  have hcount : ticks.countP (fun tick => tick.source == source) =
      (timestampsOf ticks source).length := by
    rw [timestampsOf, length_insertionSort, length_map, countP_eq_length_filter]
  rw [hcount]
  cases hmin : (ticks.map TickTime.timestamp).min? with
  | none =>
    rw [List.min?_eq_none_iff, map_eq_nil_iff] at hmin
    subst hmin
    exact ⟨rfl, rfl, rfl, rfl⟩
  | some tmin =>
    cases hmax : (ticks.map TickTime.timestamp).max? with
    | none =>
      rw [List.max?_eq_none_iff] at hmax
      simp [hmax] at hmin
    | some tmax =>
      obtain ⟨hminMem, hminLe⟩ := List.min?_eq_some_iff.mp hmin
      obtain ⟨hmaxMem, hmaxLe⟩ := List.max?_eq_some_iff.mp hmax
      obtain ⟨oldest, holdest, rfl⟩ := mem_map.mp hminMem
      obtain ⟨newest, hnewest, rfl⟩ := mem_map.mp hmaxMem
      have hcovered : ∀ timestamp ∈ timestampsOf ticks source, hourOf timestamp ∈
          hoursFrom (startHour oldest.timestamp) (endHour newest.timestamp) := by
        intro timestamp hmem
        obtain ⟨tick, htick, hof, rfl⟩ := mem_timestampsOf.mp hmem
        apply mem_hours (hminLe _ (mem_map_of_mem htick))
          (hmaxLe _ (mem_map_of_mem htick)) (hnonneg oldest holdest) (hfits newest hnewest)
        intro hlast
        rw [← hlast]
        apply hbefore tick htick hof
        intro other hother
        rw [hlast]
        exact hmaxLe _ (mem_map_of_mem hother)
      rw [rowsOf_eq hsource hmin hmax, ← (perm_flatMap_timestampsIn hcovered).length_eq]
      exact (accounts_filterMap ticks source _).perm (perm_flatMap_gapsIn hcovered)

def sampleTickTimes : List TickTime :=
  [⟨3610000, "binance"⟩, ⟨3599000, "binance"⟩, ⟨3620000, "binance"⟩, ⟨3600000, "clob_up"⟩]

/-- A gap inside an hour, and one that reaches over its end. -/
theorem hourly_quality_accounts_sample : Accounts (rowsOf sampleTickTimes "binance") 3 [10000] :=
  hourly_quality_accounts sampleTickTimes "binance" (by decide) (by decide) (by decide) (by decide)

/-- A gap over the end of an hour is in no row, and neither is a newest tick on an exact hour. -/
theorem gaps_over_hours_overlooked :
    ¬Accounts (rowsOf sampleTickTimes "binance") 3
        (gapsOf (timestampsOf sampleTickTimes "binance")) ∧
      ¬Accounts (rowsOf [⟨3600000, "binance"⟩] "binance") 1
        (gapsOf (timestampsOf [⟨3600000, "binance"⟩] "binance")) := by
  constructor
  · intro h
    have hhours : hoursFrom (startHour 3599000) (endHour 3620000) = [0, 3600000] := by
      simp [hoursFrom, startHour, endHour, hourMs]
    have hmin : (sampleTickTimes.map TickTime.timestamp).min? = some 3599000 := by decide
    have hmax : (sampleTickTimes.map TickTime.timestamp).max? = some 3620000 := by decide
    have hgaps := h.gapCount5s
    rw [rowsOf_eq (by decide) hmin hmax, hhours] at hgaps
    revert hgaps
    decide
  · intro h
    have hcount := h.tickCount
    simp [rowsOf, computeDataQuality, startHour, endHour, hoursFrom, hourMs] at hcount

end BubaPaint
