import BubaPaint.Library.Method
import BubaPaint.Live.Bootstrap
import BubaPaint.Live.Gates
import BubaPaint.Live.Risk

/-!
# The live-trading monitor

The monitor holds what the runtime knows about its live session: the control state, the last reports
of the sidecar, account risk, the active degradation and why submissions are blocked. Its methods
apply operator commands, refresh the remote state and halt the session.

A method changes its receiver and calls the outside; what it has changed stays changed when it
fails. The durable details texts of events and commands are left out.
-/

namespace BubaPaint

open Effects

/-- The monitor of one live session. -/
structure LiveTradingMonitor where
  sessionId : ℕ
  state : ControlState
  preflight : Option LivePreflightResponse := none
  account : Option LiveAccountState := none
  activity : Option LiveActivityResponse := none
  risk : Option LiveRiskMonitor := none
  degradation : LiveDegradationTracker
  blockedReason : Option String := none
  finished : Bool

abbrev MonitorMethod :=
  Method LiveCall LiveCall.Reply String LiveTradingMonitor

namespace LiveTradingMonitor

abbrev database (c : DatabaseCall) : MonitorMethod c.Reply :=
  Method.attempt (Live.database c)

abbrev external (c : LiveCall) : MonitorMethod c.Reply :=
  Method.effect (Live.call c)

/-- Return whether new venue submissions may be attempted right now. -/
def canSubmitOrders (self : LiveTradingMonitor) : Bool :=
  self.state == .armed && self.blockedReason.isNone

/-- Return whether live risk/degradation checks are terminal right now. -/
def terminalRiskIsActive (self : LiveTradingMonitor) : Bool :=
  self.state == .armed || self.state == .stopAfterFlat

/-- Reject arming or stop-after-flat when the live-control state is not eligible. -/
def ensureStateIs (state expected : ControlState) (action : String) : MonitorMethod Unit :=
  if state ≠ expected then
    throw s!"{action} requires state {expected.asStr}; current state is {state.asStr}"
  else
    pure ()

/-- Reject disarm commands that would hide a terminal or unresolved critical state. -/
def ensureStateAllowsDisarm (state : ControlState) : MonitorMethod Unit :=
  match state with
  | .armed | .stopAfterFlat => pure ()
  | .halted => throw "disarm cannot clear a halted live session"
  | .unknownOrder => throw "disarm cannot clear unknown order state; reconcile first"
  | .disarmed =>
    throw s!"disarm requires state armed or stop_after_flat; current state is {state.asStr}"

/-- Persist the current live-trading presentation state to the session row. -/
def updateSessionMetadata : MonitorMethod Unit := do
  let self ← get
  let wallet := (self.account.bind fun account => account.walletAddress).or
    (self.preflight.bind fun preflight => preflight.walletAddress)
  let proxy := (self.account.bind fun account => account.proxyWallet).or
    (self.preflight.bind fun preflight => preflight.proxyWallet)
  database (.updateLiveSessionMetadata self.sessionId (.control self.state) wallet proxy)

def withState (self : LiveTradingMonitor) (state : ControlState) (reason : String) :
    LiveTradingMonitor :=
  { self with
    state := state
    blockedReason := if state = .unknownOrder ∨ state = .halted then some reason else none }

/-- Persist a new live-control state and refresh the session metadata. -/
def setState (state : ControlState) (actor reason : String) (nowMs : ℕ) : MonitorMethod Unit := do
  let self ← get
  let _ ← Method.attempt (recordLiveControlState self.sessionId state actor reason nowMs)
  modify fun self => self.withState state reason
  updateSessionMetadata

def markRiskTerminal (self : LiveTradingMonitor) (nowMs : ℕ) (reason : String) :
    LiveTradingMonitor :=
  { self with risk := self.risk.map fun risk => risk.markTerminal nowMs reason }

/-- Persist a terminal halt, attempt cancel-all, and block future submissions. -/
def terminalHalt (actor reason eventType : String) : MonitorMethod Unit := do
  let nowMs ← external .now
  let _ ← external .cancelAll
  modify fun self => self.markRiskTerminal nowMs reason
  database .openRuntime
  setState .halted actor reason nowMs
  let self ← get
  let _ ← database (.logLiveReconciliationEvent
    { sessionId := self.sessionId, timestampMs := nowMs, severity := .critical,
      eventType := eventType, localValue := none, remoteValue := none })
  let _ ← database (.logControlAudit
    { timestampMs := nowMs, actor := actor, action := "live_terminal_halt",
      target := some (toString self.sessionId) })

/-- Halt trading, attempt cancel-all, and keep the session blocked. -/
def killSwitch (actor reason : String) : MonitorMethod Unit :=
  terminalHalt actor reason "kill_switch_activated"

/-- Halt immediately if a critical on-chain reconciliation event is recorded. -/
def refreshOnchainReconciliationHalt : MonitorMethod Bool := do
  let self ← get
  database .openRuntime
  let critical ← database (.criticalLiveReconciliationCount self.sessionId)
  if critical = 0 then
    return false
  else do
    modify fun self =>
      { self with blockedReason := some "critical live reconciliation event present" }
    if self.state = .halted then
      return true
    else do
      terminalHalt "system" "critical live reconciliation event present"
        "critical_reconciliation_halt"
      return true

/-- Halt an armed session when a critical decision feed has been in a continuous outage past the
configured threshold. -/
def refreshArmedFeedOutageHalt (thresholdMs : ℕ) (outage : Option (String × ℕ)) :
    MonitorMethod Bool := do
  let self ← get
  if thresholdMs = 0 ∨ self.state ≠ .armed then
    return false
  else
    match outage.filter fun outage => decide (thresholdMs ≤ outage.2) with
    | none => return false
    | some _ => do
        terminalHalt "system" "armed session lost a critical decision feed" "armed_feed_outage_halt"
        return true

/-! ## Remote refresh -/

/-- Note one failed refresh while the degradation checks are terminal. -/
def noteFailure (self : LiveTradingMonitor) (kind error : String) (nowMs : ℕ) :
    LiveTradingMonitor × Option LiveDegradationBreach :=
  if self.terminalRiskIsActive then
    let (degradation, breach) := self.degradation.note kind error nowMs liveTerminalDegradationMs
    ({ self with degradation := degradation }, breach)
  else
    (self, none)

/-- Record one failed remote-state refresh and maybe escalate to terminal halt. -/
def recordRemoteRefreshFailure (kind error : String) : MonitorMethod (List String) := do
  let nowMs ← external .now
  modify fun self => { self with blockedReason := some s!"{kind}: {error}" }
  let self ← get
  modify fun self => (self.noteFailure kind error nowMs).1
  database .openRuntime
  updateSessionMetadata
  match (self.noteFailure kind error nowMs).2 with
  | some breach => do
      terminalHalt "system" s!"{breach.kind} persisted for {breach.durationMs}ms"
        "live_remote_degradation_halt"
      throw s!"{kind}: {error}"
  | none => throw s!"{kind}: {error}"

/-- The issues that halt an armed session at once. -/
def terminalGateIssue (issue : String) : Bool :=
  textContains issue "geoblock" || textContains issue "auth" ||
    textContains issue "replay-grade" || textContains issue "clock drift"

def remoteDegraded (self : LiveTradingMonitor) (issues : List String) : Bool :=
  issues.any (textContains · "user stream") ||
    match self.preflight with
    | some preflight => !preflight.ok
    | none => false

/-- Note a degraded remote state, or clear the degradation after a healthy refresh. -/
def noteRemoteHealth (self : LiveTradingMonitor) (issues : List String) (nowMs : ℕ) :
    LiveTradingMonitor × Option LiveDegradationBreach :=
  if self.remoteDegraded issues then
    let detail :=
      if issues.isEmpty then "preflight failed without structured issue"
      else "; ".intercalate issues
    let (degradation, breach) :=
      self.degradation.note "venue_or_user_stream_degraded" detail nowMs liveTerminalDegradationMs
    ({ self with degradation := degradation }, breach)
  else
    ({ self with degradation := self.degradation.clear }, none)

/-- Evaluate refreshed sidecar state for terminal live-money blockers. -/
def evaluateTerminalRemoteState (nowMs : ℕ) (issues : List String) :
    MonitorMethod (Option LiveRiskBreach) := do
  if issues.any terminalGateIssue then
    return some
      { eventType := "live_gate_terminal_halt"
        reason := "terminal live gate failed while armed" }
  else do
    let self ← get
    modify fun self => (self.noteRemoteHealth issues nowMs).1
    match (self.noteRemoteHealth issues nowMs).2 with
    | some _ =>
      return some
        { eventType := "live_remote_degradation_halt"
          reason := "live remote state stayed degraded past terminal threshold" }
    | none => do
        let critical ← database (.criticalLiveReconciliationCount self.sessionId)
        if 0 < critical then
          return some
            { eventType := "critical_reconciliation_halt"
              reason := "critical live reconciliation event present" }
        else
          return none

/-- Persist one trade recovered from the venue activity, unless it is stored or incomplete. -/
def persistRecoveredTrade (sessionId : ℕ) (trade : LiveActivityEvent) : MonitorMethod Unit :=
  match trade.tradeId with
  | none => pure ()
  | some tradeId => do
      if ← database (.liveFillExists sessionId tradeId) then
        pure ()
      else
        match trade.price, trade.size with
        | some price, some size => do
            let _ ← database (.logLiveFill
              { sessionId := sessionId, intentId := none, liveOrderId := none,
                venueTradeId := some tradeId, filledAtMs := trade.timestampMs, price := price,
                size := size, liquiditySide := none, status := .confirmedFromActivity })
        | _, _ => pure ()

def persistRecoveredTrades (sessionId : ℕ) : List LiveActivityEvent → MonitorMethod Unit
  | [] => pure ()
  | trade :: trades => do
      persistRecoveredTrade sessionId trade
      persistRecoveredTrades sessionId trades

/-- Record that the venue reports an unhealthy user stream. -/
def persistStreamHealth (sessionId : ℕ) (activity : LiveActivityResponse) : MonitorMethod Unit :=
  if activity.userStreamStatus = .failed then do
    let _ ← database (.logLiveReconciliationEvent
      { sessionId := sessionId, timestampMs := activity.timestampMs, severity := .critical,
        eventType := "user_stream_unhealthy", localValue := none, remoteValue := none })
  else
    pure ()

/-- Persist activity-recovered trades and user-stream health events. -/
def persistActivityRecovery (activity : LiveActivityResponse) : MonitorMethod Unit := do
  let self ← get
  persistStreamHealth self.sessionId activity
  persistRecoveredTrades self.sessionId activity.clobTrades

/-- Convert one sidecar account response into the persistent account snapshot. -/
def liveAccountSnapshot (sessionId : ℕ) (account : LiveAccountState) : LiveAccountSnapshot where
  sessionId := sessionId
  timestampMs := account.timestampMs
  cashAvailable := account.cashAvailable
  cashReservedForOrders := account.cashReservedForOrders
  inventoryMarkValue := account.inventoryMarkValue
  redeemableValue := account.redeemableValue
  pendingRedeemValue := account.pendingRedeemValue
  totalEquity := account.totalEquity
  allowanceAvailable := account.allowanceAvailable

/-- Persist what the sidecar reported and return all arming blockers. -/
def collectIssues (config : Config) (preflight : LivePreflightResponse)
    (account : LiveAccountState) (activity : LiveActivityResponse) :
    MonitorMethod (List String) := do
  let self ← get
  database .openRuntime
  let _ ← database (.logLiveAccountSnapshot (liveAccountSnapshot self.sessionId account))
  persistActivityRecovery activity
  let nowMs ← external .now
  let captureIssues ← Method.attempt (runtimeCaptureIssuesForLive config nowMs)
  let ready ← database .liveOrderIdempotencyReady
  let schemaIssues :=
    if ready then []
    else ["live order idempotency schema is not installed; refusing to arm"]
  return sortedDistinct
    (liveGateIssues preflight account activity config ++ captureIssues ++ schemaIssues)

def withReports (self : LiveTradingMonitor) (preflight : LivePreflightResponse)
    (account : LiveAccountState) (activity : LiveActivityResponse) (issues : List String) :
    LiveTradingMonitor :=
  { self with
    preflight := some preflight
    account := some account
    activity := some activity
    blockedReason := issues.head? }

def updateRisk (self : LiveTradingMonitor) (account : LiveAccountState) (config : Config) :
    LiveTradingMonitor × Option LiveRiskBreach :=
  let (risk, breach) := (self.risk.getD (.new account)).updateFromAccount account config
  ({ self with risk := some risk }, breach)

/-- Evaluate the refreshed reports while the risk checks are terminal. -/
def evaluateReports (config : Config) (account : LiveAccountState) (issues : List String) :
    MonitorMethod (Option LiveRiskBreach) := do
  let self ← get
  if self.terminalRiskIsActive then
    let nowMs ← external .now
    match ← evaluateTerminalRemoteState nowMs issues with
    | some breach => return some breach
    | none => do
        let self ← get
        modify fun self => (self.updateRisk account config).1
        return (self.updateRisk account config).2
  else do
    modify fun self => { self with risk := some (self.risk.getD (.new account)) }
    return none

/-- Apply the reports of a refresh that reached the sidecar. -/
def applyReports (config : Config) (preflight : LivePreflightResponse)
    (account : LiveAccountState) (activity : LiveActivityResponse) :
    MonitorMethod (List String) := do
  let issues ← collectIssues config preflight account activity
  modify fun self => self.withReports preflight account activity issues
  let breach ← evaluateReports config account issues
  updateSessionMetadata
  match breach with
  | some breach => do
      terminalHalt "system" breach.reason breach.eventType
      return issues
  | none => return issues

/-- Refresh preflight, account, and activity state from the sidecar. -/
def refreshRemoteState (config : Config) : MonitorMethod (List String) := do
  if ← refreshOnchainReconciliationHalt then
    let self ← get
    return self.blockedReason.toList
  else
    match ← external .preflight with
    | .error error => recordRemoteRefreshFailure "preflight_refresh_failure" error
    | .ok preflight =>
    match ← external .accountState with
    | .error error => recordRemoteRefreshFailure "account_refresh_failure" error
    | .ok account =>
    match ← external .activity with
    | .error error => recordRemoteRefreshFailure "activity_refresh_failure" error
    | .ok activity => applyReports config preflight account activity

/-- Arm live trading only after every safety gate is healthy. -/
def arm (config : Config) (actor reason : String) : MonitorMethod Unit := do
  let self ← get
  ensureStateIs self.state .disarmed "arm"
  let issues ← refreshRemoteState config
  if issues.isEmpty then do
    database .openRuntime
    let nowMs ← external .now
    setState .armed actor reason nowMs
  else
    throw ("live arming blocked: " ++ "; ".intercalate issues)

/-- Cancel every open venue order without changing the arming state. -/
def cancelAll (actor : String) : MonitorMethod Unit := do
  let self ← get
  match ← external .cancelAll with
  | .error error => throw error
  | .ok _ => do
      database .openRuntime
      let nowMs ← external .now
      let _ ← database (.logControlAudit
        { timestampMs := nowMs, actor := actor, action := "live_cancel_all_submitted",
          target := some (toString self.sessionId) })

/-- Trigger redemption for all redeemable positions and persist the command result. -/
def redeemAll (actor : String) : MonitorMethod Unit := do
  let self ← get
  let nowMs ← external .now
  match ← external .redeemAll with
  | .error error => throw error
  | .ok response => do
      database .openRuntime
      if 0 < response.submitted then
        let _ ← database (.logLiveRedemption
          { sessionId := self.sessionId, marketId := "all", detectedRedeemableAtMs := nowMs,
            submittedAtMs := some nowMs, status := "submitted", redeemableValue := 0 })
      let _ ← database (.logControlAudit
        { timestampMs := nowMs, actor := actor, action := "live_redeem_all_submitted",
          target := some (toString self.sessionId) })

/-- Apply one parsed operator action. -/
def applyControlAction (config : Config) (action : LiveControlAction) (actor reason : String) :
    MonitorMethod Unit := do
  match action with
  | .preflight => do
      let _ ← refreshRemoteState config
  | .arm => arm config actor reason
  | .disarm => do
      let self ← get
      ensureStateAllowsDisarm self.state
      database .openRuntime
      let nowMs ← external .now
      setState .disarmed actor reason nowMs
  | .stopAfterFlat => do
      let self ← get
      ensureStateIs self.state .armed "stop-after-flat"
      database .openRuntime
      let nowMs ← external .now
      setState .stopAfterFlat actor reason nowMs
  | .killSwitch => killSwitch actor reason
  | .cancelAll => cancelAll actor
  | .redeemAll => redeemAll actor

def finishCommand (commandId appliedAtMs : ℕ) (status : CommandStatus) : MonitorMethod Unit := do
  database .openRuntime
  database (.updateLiveControlCommandStatus commandId appliedAtMs status)

def applyCommand (config : Config) (commandId : ℕ) (command : LiveControlCommand) :
    MonitorMethod Unit :=
  match LiveControlAction.fromStr command.action with
  | .error _ => do
      database .openRuntime
      let nowMs ← external .now
      database (.updateLiveControlCommandStatus commandId nowMs .rejected)
  | .ok action => do
      let appliedAtMs ← external .now
      match ← Method.outcome (applyControlAction config action command.actor command.reason) with
      | .ok _ => finishCommand commandId appliedAtMs .applied
      | .error _ => finishCommand commandId appliedAtMs .rejected

def applyCommands (config : Config) : List (ℕ × LiveControlCommand) → MonitorMethod Unit
  | [] => pure ()
  | (commandId, command) :: rest => do
      applyCommand config commandId command
      applyCommands config rest

/-- Apply every queued operator command in durable request order. -/
def applyPendingControls (config : Config) : MonitorMethod Unit := do
  let self ← get
  database .openRuntime
  let commands ← database (.pendingLiveControlCommands self.sessionId)
  applyCommands config commands

def start (sessionId : ℕ) : LiveTradingMonitor where
  sessionId := sessionId
  state := .disarmed
  preflight := none
  account := none
  activity := none
  risk := none
  degradation := .default
  blockedReason := none
  finished := false

end LiveTradingMonitor

open LiveTradingMonitor

/-- A started session: its monitor and the balance it may trade with. -/
structure LiveTradingRuntimeBootstrap where
  liveStartingBalance : ℚ
  monitor : LiveTradingMonitor

def liveStartingBalance (config : Config) (fallbackBalance : ℚ) (monitor : LiveTradingMonitor) :
    ℚ :=
  match monitor.account with
  | some account => min (max account.cashAvailable 0) config.liveSessionCashCapUsd
  | none => fallbackBalance

/-- Bootstrap a disarmed live-trading runtime session. -/
def bootstrapLiveTradingRuntime (config : Config) (fallbackBalance : ℚ) :
    LiveResult LiveTradingRuntimeBootstrap := do
  let startedAtMs ← ExceptT.lift (Live.call .now)
  if config.feedEventStorageProfile = .compact then
    throw ("live_trading requires replay-grade feed capture; " ++
      "FEED_EVENT_STORAGE_PROFILE=compact is descriptive-only")
  else do
    ensureLiveBootstrapClean config
    let sessionId ← Live.database (.insertLiveSession
      { startedAtMs := startedAtMs, endedAtMs := none, status := .control .disarmed,
        executionMode := config.executionMode, walletAddress := none, proxyWallet := none,
        cashCapUsd := config.liveSessionCashCapUsd })
    let _ ← recordLiveControlState sessionId .disarmed "system" "live_trading starts disarmed"
      startedAtMs
    let (refreshed, monitor) ←
      ExceptT.lift ((refreshRemoteState config).on (LiveTradingMonitor.start sessionId))
    match refreshed with
    | .ok _ => do
        Live.database .openRuntime
        return { liveStartingBalance := liveStartingBalance config fallbackBalance monitor,
                 monitor := monitor }
    | .error error => do
        Live.database .openRuntime
        let (updated, monitor) ←
          ExceptT.lift (updateSessionMetadata.on { monitor with blockedReason := some error })
        let _ ← ExceptT.mk (pure updated)
        Live.database .openRuntime
        return { liveStartingBalance := liveStartingBalance config fallbackBalance monitor,
                 monitor := monitor }

end BubaPaint
