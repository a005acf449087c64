import BubaPaint.Library.Traces
import BubaPaint.Replay.Windows

/-!
# The life of a market window in a replay

A replay tells the windows the time of every tick. The windows it enters are reported as opened and
later as closed, in the order of the list. A window is entered when a tick falls into it, and left
at the first tick that is not before its end; without such a tick it stays current.

Main results:

- Theorem `WindowManager.Before.advance`: what one call does
- Theorem `windowReports_eq`: the reports of a whole replay
- Theorem `windows_open_and_close`: the life of a window
-/

namespace BubaPaint

open Effects List WindowManager

/-- The window is on at the given time. -/
def MarketSettlement.Covers (settlement : MarketSettlement) (timestamp : ℕ) : Prop :=
  settlement.window.startTime ≤ timestamp ∧ timestamp < settlement.window.endTime

instance (settlement : MarketSettlement) (timestamp : ℕ) :
    Decidable (settlement.Covers timestamp) :=
  inferInstanceAs (Decidable (_ ∧ _))

/-- Windows in the order of their starts, no two of which are on at one time. -/
structure Schedule (windows : List MarketSettlement) : Prop where
  lasting : ∀ settlement ∈ windows, settlement.window.startTime < settlement.window.endTime
  sorted : windows.Pairwise fun first second => first.window.startTime ≤ second.window.startTime
  apart : windows.Pairwise fun first second =>
    ∀ timestamp, ¬ (first.Covers timestamp ∧ second.Covers timestamp)

namespace Schedule

variable {windows rest : List MarketSettlement} {settlement : MarketSettlement}

theorem ends_before (h : Schedule windows) :
    windows.Pairwise fun first second => first.window.endTime ≤ second.window.startTime := by
  refine List.Pairwise.imp_of_mem ?_ (h.sorted.and h.apart)
  intro first second hfirst hsecond hpair
  by_contra hover
  have hlasting := h.lasting second hsecond
  exact hpair.2 second.window.startTime ⟨⟨hpair.1, by omega⟩, ⟨le_rfl, hlasting⟩⟩

theorem nodup (h : Schedule windows) : windows.Nodup := by
  refine List.Pairwise.imp_of_mem ?_ h.ends_before
  intro first second hfirst hsecond hover heq
  have hlasting := h.lasting first hfirst
  rw [← heq] at hover
  omega

theorem tail (h : Schedule (settlement :: rest)) : Schedule rest where
  lasting := fun other hother => h.lasting other (mem_cons_of_mem _ hother)
  sorted := (pairwise_cons.mp h.sorted).2
  apart := (pairwise_cons.mp h.apart).2

theorem of_append (h : Schedule (windows ++ rest)) : Schedule rest where
  lasting := fun other hother => h.lasting other (mem_append_right _ hother)
  sorted := (pairwise_append.mp h.sorted).2.1
  apart := (pairwise_append.mp h.apart).2.1

theorem over_of_mem (h : Schedule (settlement :: rest)) {other : MarketSettlement}
    (hother : other ∈ rest) : settlement.window.endTime ≤ other.window.startTime :=
  (pairwise_cons.mp h.ends_before).1 other hother

end Schedule

/-! ## One call -/

namespace WindowManager

/-- The windows that are not over: the current one and those that were not entered. -/
def ahead (manager : WindowManager) : List MarketSettlement :=
  manager.current.toList ++ manager.windows

/-- The windows that are not ahead are over, and the current one has started. -/
structure Before (windows : List MarketSettlement) (timestamp : ℕ) (manager : WindowManager) :
    Prop where
  parts : ∃ past, windows = past ++ manager.ahead ∧
    ∀ settlement ∈ past, settlement.window.endTime ≤ timestamp
  started : ∀ settlement ∈ manager.current, settlement.window.startTime ≤ timestamp

/-- The current window is on, and those that were not entered have not started. -/
structure After (windows : List MarketSettlement) (timestamp : ℕ) (manager : WindowManager) :
    Prop extends Before windows timestamp manager where
  covers : ∀ settlement ∈ manager.current, settlement.Covers timestamp
  waiting : ∀ settlement ∈ manager.windows, timestamp < settlement.window.startTime

variable {windows : List MarketSettlement} {manager : WindowManager} {timestamp : ℕ}

theorem before_fromSettlements (windows : List MarketSettlement) (timestamp : ℕ) :
    Before windows timestamp (fromSettlements windows) where
  parts := ⟨[], by simp [ahead, fromSettlements], by simp⟩
  started := by simp [fromSettlements]

theorem Before.later (h : Before windows timestamp manager) {later : ℕ}
    (hlater : timestamp ≤ later) : Before windows later manager := by
  rcases h.parts with ⟨past, hparts, hpast⟩
  constructor
  · exact ⟨past, hparts, fun settlement hmem => (hpast settlement hmem).trans hlater⟩
  · exact fun settlement hmem => (h.started settlement hmem).trans hlater

theorem Before.schedule (h : Before windows timestamp manager) (hschedule : Schedule windows) :
    Schedule manager.ahead := by
  rcases h.parts with ⟨past, hparts, -⟩
  rw [hparts] at hschedule
  exact hschedule.of_append

theorem After.current_iff (h : After windows timestamp manager) (settlement : MarketSettlement) :
    manager.current = some settlement ↔ settlement ∈ windows ∧ settlement.Covers timestamp := by
  rcases h.parts with ⟨past, hparts, hpast⟩
  constructor
  · intro hcurrent
    refine ⟨?_, h.covers settlement hcurrent⟩
    simp [hparts, ahead, hcurrent]
  · rintro ⟨hmem, hcovers⟩
    rw [hparts] at hmem
    unfold MarketSettlement.Covers at hcovers
    rcases mem_append.mp hmem with hmem | hmem
    · have hover := hpast settlement hmem
      omega
    · rcases mem_append.mp hmem with hmem | hmem
      · simpa using hmem
      · have hwaiting := h.waiting settlement hmem
        omega

theorem enterNext_spec (hschedule : Schedule windows) (timestamp : ℕ) :
    After windows timestamp
      { windows := (enterNext timestamp windows).2
        current := (enterNext timestamp windows).1 } := by
  induction windows with
  | nil =>
    exact ⟨⟨⟨[], rfl, by simp⟩, by simp [enterNext]⟩, by simp [enterNext], by simp [enterNext]⟩
  | cons next rest ih =>
    unfold enterNext
    by_cases hover : timestamp ≥ next.window.endTime
    · have hrest := ih hschedule.tail
      rcases hrest.parts with ⟨past, hparts, hpast⟩
      rw [if_pos hover]
      refine ⟨⟨⟨next :: past, ?_, ?_⟩, hrest.started⟩, hrest.covers, hrest.waiting⟩
      · exact congrArg (next :: ·) hparts
      · exact forall_mem_cons.mpr ⟨hover, hpast⟩
    rw [if_neg hover]
    by_cases hstarted : timestamp ≥ next.window.startTime
    · rw [if_pos hstarted]
      have hcovers : next.Covers timestamp := ⟨hstarted, by omega⟩
      refine ⟨⟨⟨[], rfl, by simp⟩, by simpa using hstarted⟩, by simpa using hcovers, ?_⟩
      intro settlement hmem
      have hlater := hschedule.over_of_mem hmem
      omega
    · rw [if_neg hstarted]
      refine ⟨⟨⟨[], rfl, by simp⟩, by simp⟩, by simp, ?_⟩
      intro settlement hmem
      rcases mem_cons.mp hmem with heq | hmem
      · rw [heq]
        omega
      · have hlater := hschedule.over_of_mem hmem
        have hlasting := hschedule.lasting next mem_cons_self
        omega

theorem advance_of_none (hcurrent : manager.current = none) :
    manager.advance timestamp =
      ({ opened := (enterNext timestamp manager.windows).1, closed := none },
        { windows := (enterNext timestamp manager.windows).2,
          current := (enterNext timestamp manager.windows).1 }) := by
  unfold advance closeCurrent
  simp [hcurrent]

variable {settlement : MarketSettlement}

theorem advance_of_current (hcurrent : manager.current = some settlement)
    (hcovers : timestamp < settlement.window.endTime) :
    manager.advance timestamp = ({ opened := none, closed := none }, manager) := by
  unfold advance closeCurrent
  simp [hcurrent, Nat.not_le.mpr hcovers]

theorem advance_of_over (hcurrent : manager.current = some settlement)
    (hover : settlement.window.endTime ≤ timestamp) :
    manager.advance timestamp =
      ({ opened := (enterNext timestamp manager.windows).1, closed := some settlement },
        { windows := (enterNext timestamp manager.windows).2,
          current := (enterNext timestamp manager.windows).1 }) := by
  unfold advance closeCurrent
  simp [hcurrent, hover]

/-- After a call the current window is the one that is on. -/
theorem Before.advance (h : Before windows timestamp manager) (hschedule : Schedule windows) :
    After windows timestamp (manager.advance timestamp).2 := by
  have hahead := h.schedule hschedule
  rcases h.parts with ⟨past, hparts, hpast⟩
  cases hcurrent : manager.current with
  | none =>
    rw [advance_of_none hcurrent]
    simp only [ahead, hcurrent, Option.toList_none, nil_append] at hparts hahead
    have hentered := enterNext_spec hahead timestamp
    rcases hentered.parts with ⟨dropped, hdropped, hover⟩
    refine ⟨⟨⟨past ++ dropped, ?_, ?_⟩, hentered.started⟩, hentered.covers, hentered.waiting⟩
    · rw [hparts, append_assoc]
      exact congrArg (past ++ ·) hdropped
    · exact forall_mem_append.mpr ⟨hpast, hover⟩
  | some settlement =>
    simp only [ahead, hcurrent, Option.toList_some, singleton_append] at hparts hahead
    by_cases hended : settlement.window.endTime ≤ timestamp
    · rw [advance_of_over hcurrent hended]
      have hentered := enterNext_spec hahead.tail timestamp
      rcases hentered.parts with ⟨dropped, hdropped, hover⟩
      refine ⟨⟨⟨past ++ settlement :: dropped, ?_, ?_⟩, hentered.started⟩, hentered.covers,
        hentered.waiting⟩
      · rw [hparts, append_assoc]
        exact congrArg (past ++ settlement :: ·) hdropped
      · exact forall_mem_append.mpr ⟨hpast, forall_mem_cons.mpr ⟨hended, hover⟩⟩
    · have hstarted := h.started settlement hcurrent
      rw [advance_of_current hcurrent (by omega)]
      refine ⟨h, ?_, ?_⟩
      · intro other hother
        rw [hcurrent] at hother
        cases hother
        exact ⟨hstarted, by omega⟩
      · intro other hother
        have hlater := hahead.over_of_mem hother
        omega

theorem Before.opened_after_closed (h : Before windows timestamp manager)
    {closed opened : MarketSettlement}
    (hclosed : (manager.advance timestamp).1.closed = some closed)
    (hopened : (manager.advance timestamp).1.opened = some opened)
    (hschedule : Schedule windows) : [closed, opened].Sublist windows := by
  have hahead := h.schedule hschedule
  rcases h.parts with ⟨past, hparts, -⟩
  cases hcurrent : manager.current with
  | none => simp [advance_of_none hcurrent] at hclosed
  | some settlement =>
    simp only [ahead, hcurrent, Option.toList_some, singleton_append] at hparts hahead
    by_cases hended : settlement.window.endTime ≤ timestamp
    · simp only [advance_of_over hcurrent hended, Option.some.injEq] at hclosed hopened
      have hentered := (enterNext_spec hahead.tail timestamp).current_iff opened
      have hmem : opened ∈ manager.windows := (hentered.mp hopened).1
      rw [hparts, ← hclosed]
      refine List.Sublist.trans ?_ (sublist_append_right _ _)
      exact (singleton_sublist.mpr hmem).cons_cons settlement
    · simp [advance_of_current hcurrent (Nat.not_le.mp hended)] at hclosed

end WindowManager

/-! ## The reports of a replay -/

/-- A window that was reported as opened or closed. -/
inductive WindowReport
  | opened (settlement : MarketSettlement)
  | closed (settlement : MarketSettlement)
  deriving DecidableEq

/-- The reports of one call. The current window is left before the next one is entered. -/
def WindowEvents.reports (events : WindowEvents) : List WindowReport :=
  (events.closed.map .closed).toList ++ (events.opened.map .opened).toList

/-- One call with the time it was told, its events, and the window that is current afterwards. -/
structure WindowCall where
  timestamp : ℕ
  events : WindowEvents
  current : Option MarketSettlement

def WindowManager.call (manager : WindowManager) (timestamp : ℕ) : WindowCall × WindowManager :=
  let (events, manager) := manager.advance timestamp
  ({ timestamp, events, current := manager.current }, manager)

def windowCalls (windows : List MarketSettlement) (timestamps : List ℕ) : List WindowCall :=
  trace call (fromSettlements windows) timestamps

/-- All that is opened and closed over the ticks, in order. -/
def windowReports (windows : List MarketSettlement) (timestamps : List ℕ) : List WindowReport :=
  (windowCalls windows timestamps).flatMap fun call => call.events.reports

namespace MarketSettlement

/-- Some tick falls into the window. -/
def Entered (settlement : MarketSettlement) (timestamps : List ℕ) : Prop :=
  ∃ timestamp ∈ timestamps, settlement.Covers timestamp

/-- Some tick is not before the end of the window. -/
def Ended (settlement : MarketSettlement) (timestamps : List ℕ) : Prop :=
  ∃ timestamp ∈ timestamps, settlement.window.endTime ≤ timestamp

instance (settlement : MarketSettlement) (timestamps : List ℕ) :
    Decidable (settlement.Entered timestamps) :=
  inferInstanceAs (Decidable (∃ _ ∈ _, _))

instance (settlement : MarketSettlement) (timestamps : List ℕ) :
    Decidable (settlement.Ended timestamps) :=
  inferInstanceAs (Decidable (∃ _ ∈ _, _))

def closing (timestamps : List ℕ) (settlement : MarketSettlement) : List WindowReport :=
  if settlement.Ended timestamps then [.closed settlement] else []

def lives (timestamps : List ℕ) (windows : List MarketSettlement) : List WindowReport :=
  (windows.filter fun settlement => settlement.Entered timestamps).flatMap fun settlement =>
    .opened settlement :: settlement.closing timestamps

variable {settlement : MarketSettlement} {timestamp : ℕ} {rest : List ℕ}
  {windows : List MarketSettlement}

@[simp] theorem closing_nil : settlement.closing [] = [] := by
  simp [closing, Ended]

@[simp] theorem lives_nil : lives [] windows = [] := by
  simp [lives, Entered]

theorem closing_of_over (h : settlement.window.endTime ≤ timestamp) :
    settlement.closing (timestamp :: rest) = [.closed settlement] := by
  simp [closing, Ended, h]

theorem ended_of_early (h : timestamp < settlement.window.endTime) :
    settlement.Ended (timestamp :: rest) ↔ settlement.Ended rest := by
  simp [Ended, Nat.not_le.mpr h]

theorem closing_of_early (h : timestamp < settlement.window.endTime) :
    settlement.closing (timestamp :: rest) = settlement.closing rest := by
  unfold closing
  simp only [ended_of_early h]

theorem entered_of_early (h : timestamp < settlement.window.startTime) :
    settlement.Entered (timestamp :: rest) ↔ settlement.Entered rest := by
  simp [Entered, Covers, Nat.not_le.mpr h]

theorem not_entered_of_over (htimes : (timestamp :: rest).Pairwise (· ≤ ·))
    (h : settlement.window.endTime ≤ timestamp) : ¬ settlement.Entered (timestamp :: rest) := by
  rintro ⟨later, hlater, -, hcovers⟩
  have hle : timestamp ≤ later := by
    rcases mem_cons.mp hlater with heq | hmem
    · exact heq.ge
    · exact (pairwise_cons.mp htimes).1 later hmem
  omega

theorem lives_cons (timestamps : List ℕ) (settlement : MarketSettlement)
    (windows : List MarketSettlement) :
    lives timestamps (settlement :: windows) =
      (if settlement.Entered timestamps then .opened settlement :: settlement.closing timestamps
        else []) ++ lives timestamps windows := by
  unfold lives
  by_cases hentered : settlement.Entered timestamps <;> simp [hentered]

theorem lives_of_early (hschedule : Schedule windows)
    (h : ∀ settlement ∈ windows, timestamp < settlement.window.startTime) :
    lives (timestamp :: rest) windows = lives rest windows := by
  induction windows with
  | nil => rfl
  | cons next more ih =>
    have hnext := h next mem_cons_self
    have hlasting := hschedule.lasting next mem_cons_self
    rw [lives_cons, lives_cons, closing_of_early (by omega),
      ih hschedule.tail fun other hother => h other (mem_cons_of_mem _ hother)]
    simp only [entered_of_early hnext]

end MarketSettlement

namespace WindowManager

open MarketSettlement

/-- The reports that are to come if the windows are told these times. -/
def remaining (manager : WindowManager) (timestamps : List ℕ) : List WindowReport :=
  manager.current.toList.flatMap (closing timestamps) ++ lives timestamps manager.windows

variable {windows : List MarketSettlement} {manager : WindowManager} {timestamp : ℕ}
  {rest : List ℕ}

theorem lives_eq_enterNext (hschedule : Schedule windows)
    (htimes : (timestamp :: rest).Pairwise (· ≤ ·)) :
    lives (timestamp :: rest) windows =
      ((enterNext timestamp windows).1.map WindowReport.opened).toList ++
        remaining { windows := (enterNext timestamp windows).2,
                    current := (enterNext timestamp windows).1 } rest := by
  induction windows with
  | nil => simp [enterNext, remaining, lives]
  | cons next more ih =>
    unfold enterNext
    have hlasting := hschedule.lasting next mem_cons_self
    by_cases hover : timestamp ≥ next.window.endTime
    · rw [lives_cons, if_neg (not_entered_of_over htimes hover), if_pos hover,
        nil_append, ih hschedule.tail]
    rw [if_neg hover]
    by_cases hstarted : timestamp ≥ next.window.startTime
    · have hlater : ∀ settlement ∈ more, timestamp < settlement.window.startTime := by
        intro settlement hmem
        have hafter := hschedule.over_of_mem hmem
        omega
      have hentered : next.Entered (timestamp :: rest) :=
        ⟨timestamp, mem_cons_self, hstarted, by omega⟩
      rw [lives_cons, if_pos hentered, if_pos hstarted, closing_of_early (by omega),
        lives_of_early hschedule.tail hlater]
      simp [remaining]
    · have hlater : ∀ settlement ∈ next :: more, timestamp < settlement.window.startTime := by
        intro settlement hmem
        rcases mem_cons.mp hmem with heq | hmem
        · rw [heq]
          omega
        · have hafter := hschedule.over_of_mem hmem
          omega
      rw [if_neg hstarted, lives_of_early hschedule hlater]
      simp [remaining]

theorem remaining_cons (hschedule : Schedule windows) (h : Before windows timestamp manager)
    (htimes : (timestamp :: rest).Pairwise (· ≤ ·)) :
    manager.remaining (timestamp :: rest) =
      (manager.advance timestamp).1.reports ++ (manager.advance timestamp).2.remaining rest := by
  have hahead := h.schedule hschedule
  cases hcurrent : manager.current with
  | none =>
    simp only [ahead, hcurrent, Option.toList_none, nil_append] at hahead
    rw [advance_of_none hcurrent]
    simp [remaining, hcurrent, WindowEvents.reports, lives_eq_enterNext hahead htimes]
  | some settlement =>
    simp only [ahead, hcurrent, Option.toList_some, singleton_append] at hahead
    by_cases hended : settlement.window.endTime ≤ timestamp
    · rw [advance_of_over hcurrent hended]
      simp [remaining, hcurrent, WindowEvents.reports, closing_of_over hended,
        lives_eq_enterNext hahead.tail htimes]
    · have hlater : ∀ other ∈ manager.windows, timestamp < other.window.startTime := by
        intro other hother
        have hafter := hahead.over_of_mem hother
        omega
      rw [advance_of_current hcurrent (Nat.not_le.mp hended)]
      simp [remaining, hcurrent, WindowEvents.reports, closing_of_early (Nat.not_le.mp hended),
        lives_of_early hahead.tail hlater]

theorem reports_eq_remaining (hschedule : Schedule windows) {timestamps : List ℕ}
    (htimes : timestamps.Pairwise (· ≤ ·))
    (h : ∀ timestamp ∈ timestamps, Before windows timestamp manager) :
    ((trace call manager timestamps).flatMap fun call => call.events.reports) =
      manager.remaining timestamps := by
  induction timestamps generalizing manager with
  | nil => simp [trace, remaining]
  | cons timestamp rest ih =>
    have hbefore := h timestamp mem_cons_self
    have hafter := hbefore.advance hschedule
    have hle := (pairwise_cons.mp htimes).1
    rw [remaining_cons hschedule hbefore htimes]
    refine congrArg ((manager.advance timestamp).1.reports ++ ·) ?_
    exact ih (pairwise_cons.mp htimes).2 fun later hlater =>
      hafter.toBefore.later (hle later hlater)

end WindowManager

/-- A replay reports the windows that a tick falls into, each as closed when a tick is not before
its end. -/
theorem windowReports_eq {windows : List MarketSettlement} (hschedule : Schedule windows)
    {timestamps : List ℕ} (htimes : timestamps.Pairwise (· ≤ ·)) :
    windowReports windows timestamps = MarketSettlement.lives timestamps windows := by
  have hstart := reports_eq_remaining hschedule htimes fun timestamp _ =>
    before_fromSettlements windows timestamp
  unfold windowReports windowCalls
  simpa [remaining, fromSettlements] using hstart

/-! ## The life of a window -/

/-- How a replay opens and closes its windows. -/
structure WindowLifecycle (windows : List MarketSettlement) (timestamps : List ℕ) : Prop where
  current : ∀ call ∈ windowCalls windows timestamps, ∀ settlement,
    call.current = some settlement ↔ settlement ∈ windows ∧ settlement.Covers call.timestamp
  openedOnce : ∀ settlement, (windowReports windows timestamps).count (.opened settlement) ≤ 1
  closedAfterOpened : ∀ settlement early late,
    windowReports windows timestamps = early ++ .closed settlement :: late →
      .opened settlement ∈ early
  alternating : ∃ entered : List MarketSettlement, entered.Sublist windows ∧
    windowReports windows timestamps <+:
      entered.flatMap fun settlement => [.opened settlement, .closed settlement]
  olderClosed : ∀ call ∈ windowCalls windows timestamps,
    ∀ closed ∈ call.events.closed, ∀ opened ∈ call.events.opened,
      [closed, opened].Sublist windows

def ClosesOpened (windows : List MarketSettlement) (timestamps : List ℕ) : Prop :=
  ∀ settlement, .opened settlement ∈ windowReports windows timestamps →
    (windowReports windows timestamps).count (.closed settlement) = 1

section Lives

open MarketSettlement

variable {windows : List MarketSettlement} {timestamps : List ℕ}
variable {settlement : MarketSettlement}

theorem lives_of_not_ended (hschedule : Schedule (settlement :: windows))
    (h : ¬ settlement.Ended timestamps) : lives timestamps windows = [] := by
  unfold lives
  rw [flatMap_eq_nil_iff]
  intro other hother
  have hmem := mem_filter.mp hother
  have hentered : other.Entered timestamps := by simpa using hmem.2
  rcases hentered with ⟨timestamp, htimestamp, hstarted, -⟩
  have hover := hschedule.over_of_mem hmem.1
  exact absurd ⟨timestamp, htimestamp, by omega⟩ h

theorem lives_prefix (hschedule : Schedule windows) (timestamps : List ℕ) :
    lives timestamps windows <+:
      (windows.filter fun settlement => settlement.Entered timestamps).flatMap fun settlement =>
        [.opened settlement, .closed settlement] := by
  induction windows with
  | nil => simp [lives]
  | cons next more ih =>
    rw [lives_cons]
    by_cases hentered : next.Entered timestamps
    · rw [if_pos hentered, filter_cons_of_pos (by simpa using hentered), flatMap_cons]
      by_cases hended : next.Ended timestamps
      · rw [closing, if_pos hended]
        exact (prefix_append_right_inj _).mpr (ih hschedule.tail)
      · rw [closing, if_neg hended, lives_of_not_ended hschedule hended]
        exact ⟨_, rfl⟩
    · rw [if_neg hentered, filter_cons_of_neg (by simpa using hentered), nil_append]
      exact ih hschedule.tail

theorem opened_mem_of_closed {entered : List MarketSettlement} {early : List WindowReport}
    (h : early ++ [.closed settlement] <+:
      entered.flatMap fun settlement => [.opened settlement, .closed settlement]) :
    .opened settlement ∈ early := by
  induction entered generalizing early with
  | nil => simp at h
  | cons next more ih =>
    rw [flatMap_cons] at h
    match early with
    | [] => simp at h
    | [first] => simp_all
    | first :: second :: early =>
      have hrest := h
      simp only [cons_append, nil_append, cons_prefix_cons] at hrest
      exact mem_cons_of_mem _ (mem_cons_of_mem _ (ih hrest.2.2))

theorem count_opened (entered : List MarketSettlement) (settlement : MarketSettlement) :
    (entered.flatMap fun settlement =>
      [WindowReport.opened settlement, WindowReport.closed settlement]).count
        (.opened settlement) = entered.count settlement := by
  induction entered with
  | nil => rfl
  | cons next more ih =>
    rw [flatMap_cons, count_append, ih, count_cons]
    by_cases heq : next = settlement <;> simp [heq, Nat.add_comm]

theorem count_closed (entered : List MarketSettlement) (settlement : MarketSettlement) :
    (entered.flatMap fun settlement =>
      WindowReport.opened settlement :: settlement.closing timestamps).count (.closed settlement) =
      if settlement.Ended timestamps then entered.count settlement else 0 := by
  induction entered with
  | nil => simp
  | cons next more ih =>
    rw [flatMap_cons, count_append, ih, count_cons]
    unfold closing
    by_cases heq : next = settlement
    · rw [heq]
      by_cases hended : settlement.Ended timestamps <;> simp [hended, Nat.add_comm]
    · by_cases hended : next.Ended timestamps <;> simp [hended, heq]

theorem mem_of_opened_mem (h : .opened settlement ∈ lives timestamps windows) :
    settlement ∈ windows.filter fun settlement => settlement.Entered timestamps := by
  rcases mem_flatMap.mp h with ⟨other, hother, hmem⟩
  rcases mem_cons.mp hmem with heq | hclosing
  · cases heq
    exact hother
  · unfold closing at hclosing
    split at hclosing <;> simp at hclosing

theorem before_of_mem_calls (hschedule : Schedule windows) {manager : WindowManager}
    (htimes : timestamps.Pairwise (· ≤ ·))
    (h : ∀ timestamp ∈ timestamps, manager.Before windows timestamp) :
    ∀ call ∈ trace WindowManager.call manager timestamps, ∃ before : WindowManager,
      before.Before windows call.timestamp ∧ call = (before.call call.timestamp).1 := by
  induction timestamps generalizing manager with
  | nil => simp [trace]
  | cons timestamp rest ih =>
    intro call hcall
    have hbefore := h timestamp mem_cons_self
    have hafter := hbefore.advance hschedule
    rcases mem_cons.mp hcall with hfirst | hrest
    · rw [hfirst]
      exact ⟨manager, hbefore, rfl⟩
    · have hle := (pairwise_cons.mp htimes).1
      exact ih (pairwise_cons.mp htimes).2
        (fun later hlater => hafter.toBefore.later (hle later hlater)) call hrest

end Lives

/-- The life of the windows of a replay. At most one is current, the one that is on; each is opened
at most once, and closed once it was opened if a tick is not before its end. -/
theorem windows_open_and_close {windows : List MarketSettlement} {timestamps : List ℕ}
    (hschedule : Schedule windows) (htimes : timestamps.Pairwise (· ≤ ·)) :
    WindowLifecycle windows timestamps ∧
      ∀ settlement, .opened settlement ∈ windowReports windows timestamps →
        (windowReports windows timestamps).count (.closed settlement) =
          if settlement.Ended timestamps then 1 else 0 := by
  have hcalls := before_of_mem_calls hschedule htimes fun timestamp _ =>
    WindowManager.before_fromSettlements windows timestamp
  have hstart := lives_prefix hschedule timestamps
  have hentered : (windows.filter fun settlement => settlement.Entered timestamps).Nodup :=
    hschedule.nodup.filter _
  have hreports := windowReports_eq hschedule htimes
  refine ⟨⟨?_, ?_, ?_, ?_, ?_⟩, ?_⟩
  · intro call hcall settlement
    rcases hcalls call hcall with ⟨before, hbefore, heq⟩
    rw [heq]
    exact (hbefore.advance hschedule).current_iff settlement
  · intro settlement
    rw [hreports]
    refine (hstart.sublist.count_le _).trans ?_
    rw [count_opened]
    exact nodup_iff_count_le_one.mp hentered settlement
  · intro settlement early late hsplit
    rw [hreports] at hsplit
    refine opened_mem_of_closed (List.IsPrefix.trans ?_ hstart)
    exact ⟨late, by simp [hsplit]⟩
  · rw [hreports]
    exact ⟨_, filter_sublist, hstart⟩
  · intro call hcall closed hclosed opened hopened
    rcases hcalls call hcall with ⟨before, hbefore, heq⟩
    rw [heq] at hclosed hopened
    exact hbefore.opened_after_closed hclosed hopened hschedule
  · intro settlement hopened
    rw [hreports] at hopened ⊢
    unfold MarketSettlement.lives
    rw [count_closed, count_eq_one_of_mem hentered (mem_of_opened_mem hopened)]

def sampleShortWindow (marketId : String) (startTime : ℕ) : MarketSettlement where
  window :=
    { marketId, upTokenId := "up", downTokenId := "down", startTime, endTime := startTime + 10,
      slug := marketId, feeProfile := none, orderMinSize := none,
      orderPriceMinTickSize := none, feesEnabled := none, feeSchedule := none }
  openPrice := 100
  closePrice := 101
  outcome := .up

theorem sampleShortWindows_schedule :
    Schedule [sampleShortWindow "first" 0, sampleShortWindow "second" 10] where
  lasting := by simp [sampleShortWindow]
  sorted := by simp [sampleShortWindow]
  apart := by
    simp only [pairwise_cons, MarketSettlement.Covers, sampleShortWindow]
    simp
    omega

/-- The first window is closed and the second one opened by the tick at its boundary. -/
theorem windows_open_and_close_at_boundary :
    WindowLifecycle [sampleShortWindow "first" 0, sampleShortWindow "second" 10] [5, 10] ∧
      ∀ settlement,
        .opened settlement ∈ windowReports
          [sampleShortWindow "first" 0, sampleShortWindow "second" 10] [5, 10] →
        (windowReports [sampleShortWindow "first" 0, sampleShortWindow "second" 10] [5, 10]).count
          (.closed settlement) = if settlement.Ended [5, 10] then 1 else 0 :=
  windows_open_and_close sampleShortWindows_schedule (by simp)

/-- A replay whose last tick falls into a window never closes it. -/
theorem last_window_stays_open :
    ¬ ∀ (windows : List MarketSettlement) (timestamps : List ℕ), Schedule windows →
      timestamps.Pairwise (· ≤ ·) →
        WindowLifecycle windows timestamps ∧ ClosesOpened windows timestamps := by
  intro hall
  have hclosed := (hall _ [5] sampleShortWindows_schedule (by simp)).2
    (sampleShortWindow "first" 0)
  unfold windowReports windowCalls at hclosed
  simp [sampleShortWindow, trace, call, advance, closeCurrent, enterNext, fromSettlements,
    WindowEvents.reports] at hclosed

end BubaPaint
