import BubaPaint.Config
import BubaPaint.Live.Calls

/-!
# Live risk and remote degradation

The risk monitor follows the equity of a session: its high-water mark, the drawdown below it and the
loss of the day. The degradation tracker remembers since when the remote side has been unhealthy.
-/

namespace BubaPaint

/-- Return the UTC day index for one millisecond timestamp. -/
def utcDayIndex (timestampMs : ℕ) : ℕ :=
  timestampMs / 86400000

/-- The account risk of one live session. -/
structure LiveRiskMonitor where
  sessionStartEquity : ℚ
  dayIndex : ℕ
  dayBaselineEquity : ℚ
  highWaterMark : ℚ
  troughEquity : ℚ
  currentEquity : ℚ
  sessionDrawdownUsd : ℚ
  dailyLossUsd : ℚ
  terminalReason : Option String
  terminalAtMs : Option ℕ

/-- A terminal breach: the event it is recorded under and its reason. -/
structure LiveRiskBreach where
  eventType : String
  reason : String

namespace LiveRiskMonitor

/-- Build live risk state from the first authoritative account snapshot. -/
def new (account : LiveAccountState) : LiveRiskMonitor where
  sessionStartEquity := account.totalEquity
  dayIndex := utcDayIndex account.timestampMs
  dayBaselineEquity := account.totalEquity
  highWaterMark := account.totalEquity
  troughEquity := account.totalEquity
  currentEquity := account.totalEquity
  sessionDrawdownUsd := 0
  dailyLossUsd := 0
  terminalReason := none
  terminalAtMs := none

def track (risk : LiveRiskMonitor) (account : LiveAccountState) : LiveRiskMonitor :=
  let equity := account.totalEquity
  let dayIndex := utcDayIndex account.timestampMs
  let dayBaselineEquity := if dayIndex ≠ risk.dayIndex then equity else risk.dayBaselineEquity
  let highWaterMark := max risk.highWaterMark equity
  { risk with
    dayIndex := dayIndex
    dayBaselineEquity := dayBaselineEquity
    currentEquity := equity
    highWaterMark := highWaterMark
    troughEquity := min risk.troughEquity equity
    sessionDrawdownUsd := max (highWaterMark - equity) 0
    dailyLossUsd := max (dayBaselineEquity - equity) 0 }

/-- The first cap the tracked amounts breach, if any. -/
def breach? (risk : LiveRiskMonitor) (config : Config) : Option LiveRiskBreach :=
  if risk.sessionDrawdownUsd + cashChangeEpsilonUsd ≥ config.liveMaxSessionDrawdownUsd then
    some
      { eventType := "live_session_drawdown_halt"
        reason := "live session drawdown cap breached" }
  else if risk.dailyLossUsd + cashChangeEpsilonUsd ≥ config.liveMaxDailyLossUsd then
    some
      { eventType := "live_daily_loss_halt"
        reason := "live daily loss cap breached" }
  else if risk.highWaterMark > 0 ∧
      risk.sessionDrawdownUsd / risk.highWaterMark + f64Epsilon ≥ config.maxDrawdownPct then
    some
      { eventType := "live_percent_drawdown_halt"
        reason := "live percentage drawdown cap breached" }
  else
    none

/-- Update risk state from one fresh account snapshot and return any terminal breach. -/
def updateFromAccount (risk : LiveRiskMonitor) (account : LiveAccountState) (config : Config) :
    LiveRiskMonitor × Option LiveRiskBreach :=
  let risk := risk.track account
  (risk, risk.breach? config)

/-- Mark this risk monitor as terminal for presentation and closeout. -/
def markTerminal (risk : LiveRiskMonitor) (nowMs : ℕ) (reason : String) : LiveRiskMonitor :=
  { risk with
    terminalReason := some reason
    terminalAtMs := some nowMs }

@[simp]
theorem highWaterMark_markTerminal (risk : LiveRiskMonitor) (nowMs : ℕ) (reason : String) :
    (risk.markTerminal nowMs reason).highWaterMark = risk.highWaterMark :=
  rfl

/-- An update never lowers the high-water mark. -/
theorem highWaterMark_le_updateFromAccount (risk : LiveRiskMonitor) (account : LiveAccountState)
    (config : Config) :
    risk.highWaterMark ≤ (risk.updateFromAccount account config).1.highWaterMark :=
  le_max_left _ _

end LiveRiskMonitor

/-- One ongoing degradation. -/
structure LiveDegradation where
  kind : String
  startedAtMs : ℕ
  latestDetail : String
  deriving DecidableEq

/-- A degradation that has lasted past its threshold. -/
structure LiveDegradationBreach where
  kind : String
  durationMs : ℕ
  detail : String

/-- Remembers the active degradation. -/
structure LiveDegradationTracker where
  active : Option LiveDegradation
  deriving DecidableEq

namespace LiveDegradationTracker

def default : LiveDegradationTracker where
  active := none

/-- Record one active degradation and return a breach once it exceeds the terminal threshold. -/
def note (tracker : LiveDegradationTracker) (kind detail : String) (nowMs thresholdMs : ℕ) :
    LiveDegradationTracker × Option LiveDegradationBreach :=
  match tracker.active with
  | some active =>
    if active.kind = kind then
      let durationMs := nowMs - active.startedAtMs
      ({ active := some { active with latestDetail := detail } },
        if durationMs ≥ thresholdMs then
          some { kind := active.kind, durationMs := durationMs, detail := detail }
        else
          none)
    else
      ({ active := some { kind := kind, startedAtMs := nowMs, latestDetail := detail } }, none)
  | none =>
    ({ active := some { kind := kind, startedAtMs := nowMs, latestDetail := detail } }, none)

/-- Clear active degradation after a fully healthy refresh. -/
def clear (_ : LiveDegradationTracker) : LiveDegradationTracker where
  active := none

def onset? (tracker : LiveDegradationTracker) (kind : String) : Option ℕ :=
  match tracker.active with
  | some active => if active.kind = kind then some active.startedAtMs else none
  | none => none

theorem onset?_eq_some {tracker : LiveDegradationTracker} {kind : String} {onset : ℕ}
    (h : tracker.onset? kind = some onset) :
    ∃ active, tracker.active = some active ∧ active.startedAtMs = onset := by
  unfold onset? at h
  split at h
  · split at h
    · rename_i active hactive _
      exact ⟨active, hactive, Option.some.inj h⟩
    · cases h
  · cases h

variable (tracker : LiveDegradationTracker) (kind detail : String) (nowMs thresholdMs : ℕ)

theorem onset?_note :
    (tracker.note kind detail nowMs thresholdMs).1.onset? kind =
      some ((tracker.onset? kind).getD nowMs) := by
  unfold note onset?
  cases tracker.active with
  | none => simp
  | some active =>
    by_cases hkind : active.kind = kind
    · simp [hkind]
    · simp [hkind]

/-- A note is a breach exactly when its kind has been active for the threshold. -/
theorem note_isSome_iff :
    (tracker.note kind detail nowMs thresholdMs).2.isSome = true ↔
      ∃ onset, tracker.onset? kind = some onset ∧ thresholdMs ≤ nowMs - onset := by
  unfold note onset?
  cases tracker.active with
  | none => simp
  | some active =>
    by_cases hkind : active.kind = kind
    · simp [hkind]
    · simp [hkind]

end LiveDegradationTracker

end BubaPaint
