import Mathlib.Algebra.Order.Ring.Unbundled.Rat
import Mathlib.Data.List.Sort
import BubaPaint.Library.Table

/-!
# The live-trading tables of a run database

The rows of the live-trading tables and the statements the runtime executes on them, one definition
for each method of the database handle. Amounts are exact rationals, times are milliseconds, and the
`details_json` columns, which no statement reads, are left out.

A statement that the source lets fail on its own account returns an `Except`; failures of the
storage engine are added where the statements are called.
-/

namespace BubaPaint

open Effects

/-! ## Labels stored in the tables -/

/-- Supported execution modes. -/
inductive ExecutionMode where
  | paper
  | liveReadonly
  | liveTrading
  deriving DecidableEq

/-- Return whether this mode needs the live sidecar boundary. -/
def ExecutionMode.usesLiveSidecar : ExecutionMode → Bool
  | .liveReadonly | .liveTrading => true
  | .paper => false

/-- Return the persisted environment label for this execution mode. -/
def ExecutionMode.asStr : ExecutionMode → String
  | .paper => "paper"
  | .liveReadonly => "live_readonly"
  | .liveTrading => "live_trading"

/-- The live control states of a trading session. -/
inductive ControlState where
  | disarmed
  | armed
  | stopAfterFlat
  | halted
  | unknownOrder
  deriving DecidableEq

namespace ControlState

def asStr : ControlState → String
  | .disarmed => "disarmed"
  | .armed => "armed"
  | .stopAfterFlat => "stop_after_flat"
  | .halted => "halted"
  | .unknownOrder => "unknown_order"

/-- The states the source tests with `"halted" | "unknown_order"`. -/
def isTerminal : ControlState → Bool
  | .halted | .unknownOrder => true
  | _ => false

end ControlState

/-- The status of a session row: a control state, or a label that says how the session ended. -/
inductive SessionStatus where
  | control (state : ControlState)
  | liveStopped
  | other (label : String)
  deriving DecidableEq

/-- Whether a session status is `halted` or `unknown_order`. -/
def SessionStatus.isTerminal : SessionStatus → Bool
  | .control state => state.isTerminal
  | _ => false

/-- The status of a live order intent. -/
inductive IntentStatus where
  | rejectedBeforeSubmit
  | submitted
  | submitting
  | dryRun
  deriving DecidableEq

/-- The status of a queued operator command. -/
inductive CommandStatus where
  | pending
  | applied
  | rejected
  deriving DecidableEq

/-- The severity of a reconciliation event. -/
inductive Severity where
  | info
  | critical
  deriving DecidableEq

/-- The on-chain reconciliation marker of a filled order. -/
inductive OnchainReconcileStatus where
  | pending
  | confirmed
  | failed
  deriving DecidableEq

/-- How a fill row came to be known. -/
inductive LiveFillStatus where
  | venueResponsePendingReconciliation
  | confirmedFromActivity
  deriving DecidableEq

/-- The direction of one signal. -/
inductive SignalDirection where
  | up
  | down
  deriving DecidableEq

def SignalDirection.display : SignalDirection → String
  | .up => "UP"
  | .down => "DOWN"

/-! ## Rows -/

/-- One row of `live_sessions`. -/
structure LiveSession where
  startedAtMs : ℕ
  endedAtMs : Option ℕ
  status : SessionStatus
  executionMode : ExecutionMode
  walletAddress : Option String
  proxyWallet : Option String
  cashCapUsd : ℚ

/-- One row of `live_order_intents`. -/
structure LiveOrderIntent where
  sessionId : ℕ
  signalId : Option ℤ := none
  marketId : String
  strategy : String
  side : SignalDirection
  orderType : String
  status : IntentStatus
  createdAtMs : ℕ
  (requestedPrice requestedSize limitPrice : Option ℚ := none)
  executionGroupId : Option String := none
  venueAttemptedAtMs : Option ℕ := none

/-- One row of `live_orders`. -/
structure LiveOrder where
  sessionId : ℕ
  intentId : ℕ
  (venueOrderId clientOrderId : Option String := none)
  marketId : String
  tokenId : Option String := none
  side : String
  orderType : String
  status : String
  statusReason : Option String := none
  createdAtMs : ℕ
  acknowledgedAtMs : Option ℕ := none
  updatedAtMs : ℕ
  (requestedPrice limitPrice requestedSize acceptedSize : Option ℚ := none)
  onchainReconcileStatus : Option OnchainReconcileStatus := none

/-- The columns the idempotency lookup reads from an existing order row. -/
structure ExistingLiveOrder where
  id : ℕ
  status : String
  venueOrderId : Option String

/-- One row of `live_fills`. -/
structure LiveFill where
  sessionId : ℕ
  (intentId liveOrderId : Option ℕ := none)
  venueTradeId : Option String := none
  filledAtMs : ℕ
  price : ℚ
  size : ℚ
  liquiditySide : Option String := none
  status : LiveFillStatus

/-- One row of `live_account_snapshots`. -/
structure LiveAccountSnapshot where
  sessionId : ℕ
  timestampMs : ℕ
  cashAvailable : ℚ
  cashReservedForOrders : ℚ
  inventoryMarkValue : ℚ
  redeemableValue : ℚ
  pendingRedeemValue : ℚ
  totalEquity : ℚ
  allowanceAvailable : Option ℚ

/-- One row of `live_redemptions`. -/
structure LiveRedemption where
  sessionId : ℕ
  marketId : String
  detectedRedeemableAtMs : ℕ
  submittedAtMs : Option ℕ
  status : String
  redeemableValue : ℚ

/-- One row of `live_reconciliation_events`. -/
structure LiveReconciliationEvent where
  sessionId : ℕ
  timestampMs : ℕ
  severity : Severity
  eventType : String
  localValue : Option ℚ
  remoteValue : Option ℚ

/-- One row of `live_control_state`. -/
structure LiveControlState where
  sessionId : ℕ
  state : ControlState
  updatedAtMs : ℕ
  actor : String
  reason : String

/-- One row of `live_control_commands`. -/
structure LiveControlCommand where
  sessionId : ℕ
  action : String
  actor : String
  reason : String
  requestedAtMs : ℕ
  appliedAtMs : Option ℕ
  status : CommandStatus

/-- One row of `control_audit`. -/
structure ControlAuditEntry where
  timestampMs : ℕ
  actor : String
  action : String
  target : Option String

/-- The decision evidence stored together with a live order intent. -/
structure LiveDecisionEvidence where
  signalId : ℤ
  marketId : String
  orderSubmittedAtMs : Option ℕ
  expectedArrivalAtMs : Option ℕ
  decisionStatus : String
  rejectionReason : Option String
  deriving DecidableEq

/-- The live-trading part of one run database. -/
structure Database where
  liveSessions : Table LiveSession
  signals : Table LiveDecisionEvidence
  liveOrderIntents : Table LiveOrderIntent
  liveOrders : Table LiveOrder
  liveFills : Table LiveFill
  liveAccountSnapshots : Table LiveAccountSnapshot
  liveRedemptions : Table LiveRedemption
  liveReconciliationEvents : Table LiveReconciliationEvent
  liveControlState : Table LiveControlState
  liveControlCommands : Table LiveControlCommand
  controlAudit : Table ControlAuditEntry
  runMetadata : List (String × String)
  /-- Whether `idx_live_orders_intent_unique` is installed. -/
  intentUniqueIndex : Bool
  /-- Whether `live_order_intents.venue_attempted_at_ms` exists. -/
  venueAttemptColumn : Bool
  /-- Whether `live_orders.onchain_reconcile_status` exists. -/
  reconcileStatusColumn : Bool

/-- The answer of the venue-attempt reservation. -/
inductive VenueAttemptOutcome where
  | reserved
  | alreadyAttempted
  | capReached
  deriving DecidableEq

namespace Database

def empty : Database where
  liveSessions := .empty
  signals := .empty
  liveOrderIntents := .empty
  liveOrders := .empty
  liveFills := .empty
  liveAccountSnapshots := .empty
  liveRedemptions := .empty
  liveReconciliationEvents := .empty
  liveControlState := .empty
  liveControlCommands := .empty
  controlAudit := .empty
  runMetadata := []
  intentUniqueIndex := true
  venueAttemptColumn := true
  reconcileStatusColumn := true

/-- Insert one live trading session and return its row identifier. -/
def insertLiveSession (db : Database) (session : LiveSession) : ℕ × Database :=
  (db.liveSessions.nextId, { db with liveSessions := db.liveSessions.insert session })

def finishLiveSession (db : Database) (sessionId endedAtMs : ℕ) (status : SessionStatus) :
    Database :=
  { db with
    liveSessions := db.liveSessions.modify sessionId fun session =>
      { session with endedAtMs := some endedAtMs, status := status } }

/-- Update one live trading session without marking it finished. -/
def updateLiveSessionMetadata (db : Database) (sessionId : ℕ) (status : SessionStatus)
    (walletAddress proxyWallet : Option String) : Database :=
  { db with
    liveSessions := db.liveSessions.modify sessionId fun session =>
      { session with
        status := status
        walletAddress := walletAddress.or session.walletAddress
        proxyWallet := proxyWallet.or session.proxyWallet } }

/-! ## Intents and orders -/

/-- Insert one live order intent and return its row identifier. The statement does not name the
venue-attempt column, which starts as `NULL`. -/
def logLiveOrderIntent (db : Database) (intent : LiveOrderIntent) : ℕ × Database :=
  (db.liveOrderIntents.nextId,
    { db with
      liveOrderIntents := db.liveOrderIntents.insert { intent with venueAttemptedAtMs := none } })

/-- Atomically persist critical decision evidence and its live order intent. -/
def logLiveOrderIntentWithDecisionEvidence (db : Database) (evidence : LiveDecisionEvidence)
    (intent : LiveOrderIntent) : ℕ × Database :=
  { db with signals := db.signals.insert evidence }.logLiveOrderIntent intent

/-- Insert one live venue order; the uniqueness index refuses a second row for one intent. The
statement does not name the reconciliation marker, which starts as `NULL`. -/
def logLiveOrder (db : Database) (order : LiveOrder) : Except String (ℕ × Database) :=
  if db.intentUniqueIndex && db.liveOrders.any (fun row => row.intentId == order.intentId) then
    .error "UNIQUE constraint failed: live_orders.intent_id"
  else
    .ok (db.liveOrders.nextId,
      { db with liveOrders := db.liveOrders.insert { order with onchainReconcileStatus := none } })

/-- Return whether the durable one-order-per-intent idempotency schema is fully installed. -/
def liveOrderIdempotencyReady (db : Database) : Bool :=
  db.intentUniqueIndex && db.venueAttemptColumn && db.reconcileStatusColumn

/-- Count intents in one session that have crossed the venue-submission boundary. -/
def sessionVenueAttemptedCount (db : Database) (sessionId : ℕ) : ℕ :=
  db.liveOrderIntents.count fun row =>
    row.sessionId == sessionId && row.venueAttemptedAtMs.isSome

/-- Whether an order row records a fill (`accepted_size IS NOT NULL AND accepted_size > 0.0`). -/
def isFilled (row : LiveOrder) : Bool :=
  match row.acceptedSize with
  | some acceptedSize => decide (0 < acceptedSize)
  | none => false

def sessionFilledCount (db : Database) (sessionId : ℕ) : ℕ :=
  db.liveOrders.count fun row => row.sessionId == sessionId && isFilled row

/-- Atomically reserve one venue submission, enforcing the per-session order and fill caps. -/
def tryReserveVenueAttempt (db : Database) (intentId nowMs sessionId : ℕ)
    (maxSessionOrders maxSessionFills : ℕ) : VenueAttemptOutcome × Database :=
  match db.liveOrderIntents.get? intentId with
  | none => (.capReached, db)
  | some intent =>
    if intent.sessionId = sessionId ∧ intent.venueAttemptedAtMs = none ∧
        (maxSessionOrders = 0 ∨ db.sessionVenueAttemptedCount sessionId < maxSessionOrders) ∧
        (maxSessionFills = 0 ∨ db.sessionFilledCount sessionId < maxSessionFills) then
      (.reserved,
        { db with
          liveOrderIntents := db.liveOrderIntents.modify intentId fun row =>
            { row with venueAttemptedAtMs := some nowMs } })
    else if intent.venueAttemptedAtMs.isSome then
      (.alreadyAttempted, db)
    else
      (.capReached, db)

/-- Rewrite the status of one intent; an identifier that names no row is an error. -/
def setIntentStatus (db : Database) (intentId : ℕ) (status : IntentStatus) (what : String) :
    Except String Database :=
  if (db.liveOrderIntents.get? intentId).isSome then
    .ok { db with
      liveOrderIntents := db.liveOrderIntents.modify intentId fun row =>
        { row with status := status } }
  else
    .error s!"expected to mark exactly one intent {what}, updated 0 for id {intentId}"

def markLiveOrderIntentDryRun (db : Database) (intentId : ℕ) : Except String Database :=
  db.setIntentStatus intentId .dryRun "dry-run"

/-- Mark one intent `submitting` immediately before the real venue call. -/
def markLiveOrderIntentSubmitting (db : Database) (intentId : ℕ) : Except String Database :=
  db.setIntentStatus intentId .submitting "submitting"

def liveOrderCount (db : Database) : ℕ :=
  db.liveOrders.count fun _ => true

/-- Count intents marked `submitting` that have no order row. -/
def orphanedVenueAttemptCount (db : Database) : ℕ :=
  db.liveOrderIntents.rows.countP fun entry =>
    entry.2.status == .submitting && !db.liveOrders.any fun order => order.intentId == entry.1

/-- Return the existing live order row for one intent, if any. -/
def findLiveOrderByIntent (db : Database) (intentId : ℕ) : Option ExistingLiveOrder :=
  (db.liveOrders.rows.find? fun entry => entry.2.intentId == intentId).map fun entry =>
    { id := entry.1, status := entry.2.status, venueOrderId := entry.2.venueOrderId }

def setLiveOrderReconcileStatus (db : Database) (liveOrderId : ℕ)
    (status : OnchainReconcileStatus) : Except String Database :=
  if (db.liveOrders.get? liveOrderId).isSome then
    .ok { db with
      liveOrders := db.liveOrders.modify liveOrderId fun row =>
        { row with onchainReconcileStatus := some status } }
  else
    .error s!"set reconcile status updated 0 rows for live order {liveOrderId} (expected 1)"

/-- Count filled live orders not yet confirmed on-chain across all sessions. -/
def unconfirmedOnchainFillCount (db : Database) (includeUnmarked : Bool) : ℕ :=
  db.liveOrders.count fun row =>
    isFilled row &&
      match row.onchainReconcileStatus with
      | none => includeUnmarked
      | some status => status != .confirmed

def logLiveFill (db : Database) (fill : LiveFill) : ℕ × Database :=
  (db.liveFills.nextId, { db with liveFills := db.liveFills.insert fill })

/-- Return whether one recovered venue trade was already persisted. -/
def liveFillExists (db : Database) (sessionId : ℕ) (venueTradeId : String) : Bool :=
  db.liveFills.any fun row =>
    row.sessionId == sessionId && row.venueTradeId == some venueTradeId

/-- Insert one live account snapshot and return its row identifier. -/
def logLiveAccountSnapshot (db : Database) (snapshot : LiveAccountSnapshot) : ℕ × Database :=
  (db.liveAccountSnapshots.nextId,
    { db with liveAccountSnapshots := db.liveAccountSnapshots.insert snapshot })

/-- Insert one live redemption row and return its row identifier. -/
def logLiveRedemption (db : Database) (redemption : LiveRedemption) : ℕ × Database :=
  (db.liveRedemptions.nextId,
    { db with liveRedemptions := db.liveRedemptions.insert redemption })

/-- Insert one live reconciliation event and return its row identifier. -/
def logLiveReconciliationEvent (db : Database) (event : LiveReconciliationEvent) : ℕ × Database :=
  (db.liveReconciliationEvents.nextId,
    { db with liveReconciliationEvents := db.liveReconciliationEvents.insert event })

/-- Count critical reconciliation events for one live session. -/
def criticalLiveReconciliationCount (db : Database) (sessionId : ℕ) : ℕ :=
  db.liveReconciliationEvents.count fun row =>
    row.sessionId == sessionId && row.severity == .critical &&
      row.eventType != "user_stream_unhealthy"

/-- Insert one control-plane audit event and return its row identifier. -/
def logControlAudit (db : Database) (entry : ControlAuditEntry) : ℕ × Database :=
  (db.controlAudit.nextId, { db with controlAudit := db.controlAudit.insert entry })

def insertLiveControlState (db : Database) (state : LiveControlState) : ℕ × Database :=
  (db.liveControlState.nextId,
    { db with liveControlState := db.liveControlState.insert state })

/-- Return whether this database contains a terminal live-trading state. -/
def terminalLiveTradingHaltExists (db : Database) : Bool :=
  db.liveSessions.rows.any fun entry =>
    entry.2.executionMode == .liveTrading &&
      (entry.2.status.isTerminal || db.liveControlState.any fun row =>
          row.sessionId == entry.1 && row.state.isTerminal)

/-- Queue one operator command and return its row identifier. -/
def insertLiveControlCommand (db : Database) (command : LiveControlCommand) : ℕ × Database :=
  (db.liveControlCommands.nextId,
    { db with liveControlCommands := db.liveControlCommands.insert command })

/-- Return every pending command of one session in durable request order. -/
def pendingLiveControlCommands (db : Database) (sessionId : ℕ) : List (ℕ × LiveControlCommand) :=
  (db.liveControlCommands.rows.filter fun entry =>
    entry.2.sessionId == sessionId && entry.2.status == .pending).insertionSort
      fun entry entry' => entry.2.requestedAtMs ≤ entry'.2.requestedAtMs

def updateLiveControlCommandStatus (db : Database) (commandId appliedAtMs : ℕ)
    (status : CommandStatus) : Database :=
  { db with
    liveControlCommands := db.liveControlCommands.modify commandId fun command =>
      { command with appliedAtMs := some appliedAtMs, status := status } }

def getRunMetadata (db : Database) (key : String) : Option String :=
  db.runMetadata.lookup key

end Database

end BubaPaint
