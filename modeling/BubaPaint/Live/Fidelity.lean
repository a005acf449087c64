import BubaPaint.Replay.BacktestInput

/-!
# Live fidelity of an interval

An interval of live trading is good enough for research on real money if the public feeds can be
replayed and thirteen checks of the private records hold. The checks read the live tables with their
columns as they are stored: labels are texts, and a column that may be null is an option. A missing
table is an empty one.
-/

namespace BubaPaint

open Effects

/-- How good an interval of live trading is. -/
inductive LiveFidelityClass where
  | researchGradeLive
  | descriptiveOnlyLive
  | noLiveTrading
  deriving DecidableEq

/-- One check of the private records. -/
structure LiveFidelityRequirement where
  key : String
  description : String
  observed : ℕ
  required : Bool
  satisfied : Bool
  deriving DecidableEq

namespace LiveFidelityRequirement

def positive (key description : String) (observed : ℕ) : LiveFidelityRequirement where
  key
  description
  observed
  required := true
  satisfied := decide (0 < observed)

def noBadRows (key description : String) (observed : ℕ) : LiveFidelityRequirement where
  key
  description
  observed
  required := true
  satisfied := decide (observed = 0)

def boolean (key description : String) (satisfied : Bool) : LiveFidelityRequirement where
  key
  description
  observed := satisfied.toNat
  required := true
  satisfied

end LiveFidelityRequirement

/-- What an interval has for research on real money. -/
structure LiveFidelityReport where
  fidelityClass : LiveFidelityClass
  startTime : ℕ
  endTime : ℕ
  replayQualityClass : String
  replayMissingRequired : List String
  liveSessionCount : ℕ
  liveOrderIntentCount : ℕ
  liveOrderCount : ℕ
  liveFillCount : ℕ
  requirements : List LiveFidelityRequirement

/-- Classify one interval from live evidence and private requirements. -/
def classifyLiveFidelity (hasLiveEvidence : Bool) (requirements : List LiveFidelityRequirement) :
    LiveFidelityClass :=
  if !hasLiveEvidence then .noLiveTrading
  else if requirements.all (·.satisfied) then .researchGradeLive
  else .descriptiveOnlyLive

/-- One row of `live_sessions`. -/
structure SessionColumns where
  startedAtMs : ℕ
  endedAtMs : Option ℕ
  executionMode : String

/-- One row of `live_order_intents`. -/
structure IntentColumns where
  id : ℕ
  signalId : Option ℤ
  marketId : String
  strategy : String
  side : String
  orderType : String
  createdAtMs : ℕ
  requestedPrice : Option ℚ
  requestedSize : Option ℚ
  limitPrice : Option ℚ
  feeScheduleJson : Option String
  tokenFeeRatesJson : Option String
  detailsJson : Option String

/-- One row of `live_orders`. -/
structure OrderColumns where
  id : ℕ
  sessionId : ℕ
  intentId : ℕ
  clientOrderId : Option String
  marketId : Option String
  tokenId : Option String
  side : String
  orderType : String
  status : String
  createdAtMs : ℕ
  updatedAtMs : ℕ
  requestedPrice : Option ℚ
  limitPrice : Option ℚ
  requestedSize : Option ℚ
  acceptedSize : Option ℚ
  detailsJson : Option String

/-- One row of `live_fills`. -/
structure FillColumns where
  sessionId : ℕ
  intentId : Option ℕ
  liveOrderId : Option ℕ
  venueTradeId : Option String
  filledAtMs : ℕ
  status : String

/-- One row of `live_account_snapshots`. -/
structure SnapshotColumns where
  sessionId : ℕ
  timestampMs : ℕ

/-- One row of `live_redemptions`. -/
structure RedemptionColumns where
  detectedRedeemableAtMs : ℕ
  status : String

/-- One row of `live_reconciliation_events`. -/
structure ReconciliationColumns where
  timestampMs : ℕ
  severity : String

/-- One row of `live_control_state`. -/
structure ControlStateColumns where
  state : String
  updatedAtMs : ℕ

/-- One row of `control_audit`. -/
structure AuditColumns where
  timestampMs : ℕ
  action : String

/-- One row of `signal_metrics`. -/
structure SignalMetricsColumns where
  signalId : Option ℤ
  generatedAtMs : Option ℕ
  availableFeatureCount : Option ℤ
  featuresJson : Option String

/-- The tables that are read. The signals are given by their identifiers. -/
structure FidelityDb where
  replay : DataDb
  liveSessions : List SessionColumns
  liveOrderIntents : List IntentColumns
  liveOrders : List OrderColumns
  liveFills : List FillColumns
  liveAccountSnapshots : List SnapshotColumns
  liveRedemptions : List RedemptionColumns
  liveReconciliationEvents : List ReconciliationColumns
  liveControlState : List ControlStateColumns
  controlAudit : List AuditColumns
  signals : List ℤ
  signalMetrics : List SignalMetricsColumns

def inInterval (startTime endTime time : ℕ) : Bool :=
  decide (startTime ≤ time) && decide (time ≤ endTime)

def instr (text part : String) : Bool :=
  decide (part.toList <:+: text.toList)

def lacks (column : Option String) (part : String) : Bool :=
  column.all fun text => !instr text part

/-- The matches of a row, or one row of nulls if there are none. -/
def leftJoin {ρ : Type} (rows : List ρ) : List (Option ρ) :=
  if rows = [] then [none] else rows.map some

/-- The order states whose outcome is not known. -/
def unknownOrderStatuses : List String :=
  ["unknown_submission", "venue_restart", "timeout", "pending_unknown"]

def missingSignalFeatures (intent : IntentColumns) (signal : Option ℤ)
    (metrics : Option SignalMetricsColumns) : Bool :=
  intent.signalId.isNone || signal.isNone ||
    match metrics with
    | none => true
    | some metrics =>
      metrics.signalId.isNone || metrics.generatedAtMs.isNone ||
        metrics.availableFeatureCount.any (fun count => decide (count ≤ 0)) ||
        lacks metrics.featuresJson "\"featureMode\":\"raw_event_full\""

def missingRequestFields (intent : IntentColumns) : Bool :=
  intent.marketId == "" || intent.strategy == "" ||
    !(["BUY", "SELL", "UP", "DOWN"].contains intent.side) ||
    !(["FOK", "FAK"].contains intent.orderType) ||
    intent.requestedPrice.isNone || intent.requestedSize.isNone || intent.limitPrice.isNone ||
    intent.feeScheduleJson.isNone || intent.tokenFeeRatesJson.isNone ||
    lacks intent.detailsJson "\"amount_usd\""

def missingVenueFields (order : OrderColumns) : Bool :=
  order.clientOrderId.all (· == "") || order.tokenId.all (· == "") ||
    !(["BUY", "SELL"].contains order.side) || !(["FOK", "FAK"].contains order.orderType) ||
    order.status == "" || decide (order.updatedAtMs < order.createdAtMs) ||
    order.requestedPrice.isNone || order.requestedSize.isNone || order.limitPrice.isNone ||
    lacks order.detailsJson "\"tick_size\"" || lacks order.detailsJson "\"min_order_size\"" ||
    lacks order.detailsJson "\"fee_details\""

def rowExplains (startTime : ℕ) (order : OrderColumns) (tick : RawTick) : Bool :=
  inInterval startTime order.createdAtMs tick.timestamp &&
    order.marketId.any (tick.marketId == some ·) &&
    ["clob_up", "clob_down"].contains tick.source &&
    order.tokenId.all (tick.assetId == some ·) &&
    match tick.ask, tick.askSize with
    | some ask, some askSize =>
      order.limitPrice.all (fun limit => decide (ask ≤ limit)) &&
        (order.orderType == "FAK" || order.requestedSize.all fun size => decide (size ≤ askSize))
    | _, _ => false

def blockEventMatchesOrder (startTime : ℕ) (order : OrderColumns)
    (event : DecodedClobReplayEvent ℚ) : Bool :=
  decide (event.receivedAtMs.toNat < 2 ^ 63) &&
    inInterval startTime order.createdAtMs event.receivedAtMs.toNat &&
    order.marketId == event.marketId && order.tokenId.all (event.assetId == some ·) &&
    order.limitPrice.all (fun limit => decide (event.bestAsk ≤ limit)) &&
    (order.orderType == "FAK" || order.requestedSize.all fun size => decide (size ≤ event.askSize))

namespace FidelityDb

variable (db : FidelityDb) (startTime endTime : ℕ)

def countLiveSessions : ℕ :=
  db.liveSessions.countP fun row =>
    row.executionMode == "live_trading" && decide (row.startedAtMs ≤ endTime) &&
      decide (startTime ≤ row.endedAtMs.getD row.startedAtMs)

def countLiveControlAudit : ℕ :=
  db.controlAudit.countP fun row =>
    inInterval startTime endTime row.timestampMs &&
      ["live_control_requested", "live_control_state_changed", "live_closeout_exported",
        "live_unknown_order_cancel_all_attempt", "live_risk_halt"].contains row.action

/-- Count critical reconciliation events over one interval. -/
def countCriticalReconciliation : ℕ :=
  db.liveReconciliationEvents.countP fun row =>
    inInterval startTime endTime row.timestampMs && row.severity == "critical"

def countUnknownOrderState : ℕ :=
  (db.liveOrders.countP fun row =>
      inInterval startTime endTime row.updatedAtMs && unknownOrderStatuses.contains row.status) +
    db.liveControlState.countP fun row =>
      inInterval startTime endTime row.updatedAtMs && row.state == "unknown_order"

/-- The rows of the signals and metrics that are joined with an intent. -/
def signalRows (intent : IntentColumns) : List (Option ℤ × Option SignalMetricsColumns) :=
  (leftJoin (db.signals.filter fun id => intent.signalId == some id)).flatMap fun signal =>
    (leftJoin (db.signalMetrics.filter fun metrics =>
      intent.signalId.isSome && metrics.signalId == intent.signalId)).map fun metrics =>
        (signal, metrics)

/-- Count live intents missing raw signal feature snapshots. -/
def countIntentsMissingSignalFeatures : ℕ :=
  ((db.liveOrderIntents.filter fun intent =>
    inInterval startTime endTime intent.createdAtMs).map fun intent =>
      (db.signalRows intent).countP fun (signal, metrics) =>
        missingSignalFeatures intent signal metrics).sum

/-- Count live intents missing request or economic metadata. -/
def countIntentsMissingRequestFields : ℕ :=
  db.liveOrderIntents.countP fun intent =>
    inInterval startTime endTime intent.createdAtMs && missingRequestFields intent

/-- Count live venue orders missing required persistence fields. -/
def countOrdersMissingVenueFields : ℕ :=
  db.liveOrders.countP fun order =>
    inInterval startTime endTime order.updatedAtMs && missingVenueFields order

def hasRowBookEvidence (order : OrderColumns) : Bool :=
  (db.replay.feedEvents.any fun row => rowExplains startTime order row.tick) ||
    db.replay.clobReplayEvents.any fun row => rowExplains startTime order row.tick

/-- Return whether compressed block storage explains one live order. -/
def hasBlockBookEvidence (order : OrderColumns) : Bool :=
  (db.replay.clobReplayBlocks.filter fun block =>
    decide (startTime ≤ block.maxReceivedAtMs) &&
      decide (block.minReceivedAtMs ≤ order.createdAtMs)).any fun block =>
        block.events.any (blockEventMatchesOrder startTime order)

/-- Count orders that cannot be explained against recorded CLOB state. -/
def countOrdersWithoutBookExplainability : ℕ :=
  db.liveOrders.countP fun order =>
    inInterval startTime endTime order.updatedAtMs &&
      !db.hasRowBookEvidence startTime order && !db.hasBlockBookEvidence startTime order

/-- Count filled orders that lack confirmed trade recovery. -/
def countFilledOrdersWithoutConfirmedTrade : ℕ :=
  db.liveOrders.countP fun order =>
    inInterval startTime endTime order.updatedAtMs && decide (0 < order.acceptedSize.getD 0) &&
      !db.liveFills.any fun fill =>
        fill.sessionId == order.sessionId &&
          (fill.liveOrderId == some order.id || fill.intentId == some order.intentId) &&
          fill.venueTradeId.isSome &&
          ["confirmed", "confirmed_from_activity"].contains fill.status

/-- Count orders without account snapshots bracketing the lifecycle. -/
def countOrdersWithoutAccountTransition : ℕ :=
  db.liveOrders.countP fun order =>
    inInterval startTime endTime order.updatedAtMs &&
      (!(db.liveAccountSnapshots.any fun row =>
          row.sessionId == order.sessionId && decide (row.timestampMs ≤ order.createdAtMs)) ||
        !(db.liveAccountSnapshots.any fun row =>
          row.sessionId == order.sessionId && decide (order.updatedAtMs ≤ row.timestampMs)))

/-- Count redemptions that are neither absent nor terminally explained. -/
def countIncompleteRedemptions : ℕ :=
  db.liveRedemptions.countP fun row =>
    inInterval startTime endTime row.detectedRedeemableAtMs &&
      !(["none", "confirmed", "failed", "not_redeemable"].contains row.status)

/-- Return all private live-fidelity requirements for one interval. -/
def liveRequirements : List LiveFidelityRequirement :=
  [.boolean "public_replay_sweep_grade" "public feed replay quality is sweep_grade"
      (db.replay.analyzeReplayQuality startTime endTime).isSweepGrade,
    .positive "live_trading_session" "live_trading session exists in interval"
      (db.countLiveSessions startTime endTime),
    .positive "live_account_snapshots" "live account snapshots exist in interval"
      (db.liveAccountSnapshots.countP fun row => inInterval startTime endTime row.timestampMs),
    .positive "live_control_audit" "live control audit evidence exists in interval"
      (db.countLiveControlAudit startTime endTime),
    .noBadRows "no_critical_reconciliation"
      "no critical reconciliation events remain unresolved in interval"
      (db.countCriticalReconciliation startTime endTime),
    .noBadRows "no_unknown_order_state" "no unknown live order state remains in interval"
      (db.countUnknownOrderState startTime endTime),
    .noBadRows "signal_feature_snapshots"
      "each live order intent has a raw_event_full signal feature snapshot"
      (db.countIntentsMissingSignalFeatures startTime endTime),
    .noBadRows "order_request_fields" "each live order intent has request, fee, and amount metadata"
      (db.countIntentsMissingRequestFields startTime endTime),
    .noBadRows "venue_order_fields"
      "each live venue order has client, token, status, timing, and market metadata"
      (db.countOrdersMissingVenueFields startTime endTime),
    .noBadRows "order_book_explainability"
      "each live order is explainable against recorded CLOB top-of-book state"
      (db.countOrdersWithoutBookExplainability startTime endTime),
    .noBadRows "confirmed_fill_lifecycle" "filled live orders have confirmed venue trade recovery"
      (db.countFilledOrdersWithoutConfirmedTrade startTime endTime),
    .noBadRows "account_transition_coverage"
      "each live order has account snapshots before and after its lifecycle update"
      (db.countOrdersWithoutAccountTransition startTime endTime),
    .noBadRows "redemption_lifecycle" "redemptions are either absent or terminally explained"
      (db.countIncompleteRedemptions startTime endTime)]

def sqliteTimestamp (timestamp : ℕ) (label : String) : Except String ℕ :=
  if timestamp < 2 ^ 63 then .ok timestamp else .error s!"{label} does not fit in i64"

/-- Analyze live fidelity for one database and interval. -/
def analyzeConnection : Except String LiveFidelityReport := do
  let _ ← sqliteTimestamp startTime "start_time"
  let _ ← sqliteTimestamp endTime "end_time"
  let replay := db.replay.analyzeReplayQuality startTime endTime
  let liveSessionCount := db.countLiveSessions startTime endTime
  let liveOrderIntentCount := db.liveOrderIntents.countP fun row =>
    inInterval startTime endTime row.createdAtMs
  let liveOrderCount := db.liveOrders.countP fun row =>
    inInterval startTime endTime row.updatedAtMs
  let liveFillCount := db.liveFills.countP fun row =>
    inInterval startTime endTime row.filledAtMs
  let hasLiveEvidence :=
    decide (liveSessionCount > 0) || decide (liveOrderIntentCount > 0) ||
      decide (liveOrderCount > 0)
  let requirements := if hasLiveEvidence then db.liveRequirements startTime endTime else []
  .ok
    { fidelityClass := classifyLiveFidelity hasLiveEvidence requirements
      startTime, endTime
      replayQualityClass := replay.qualityClass.asStr
      replayMissingRequired := replay.missingRequired.map (·.key)
      liveSessionCount, liveOrderIntentCount, liveOrderCount, liveFillCount, requirements }

variable {db startTime endTime}

theorem classifyLiveFidelity_eq_researchGrade {hasLiveEvidence : Bool}
    {requirements : List LiveFidelityRequirement}
    (h : classifyLiveFidelity hasLiveEvidence requirements = .researchGradeLive) :
    hasLiveEvidence = true ∧ ∀ requirement ∈ requirements, requirement.satisfied = true := by
  unfold classifyLiveFidelity at h
  cases hasLiveEvidence with
  | false => cases h
  | true =>
    by_cases hall : requirements.all (·.satisfied)
    · exact ⟨rfl, List.all_eq_true.mp hall⟩
    · simp [hall] at h

section Graded

variable {report : LiveFidelityReport} (h : db.analyzeConnection startTime endTime = .ok report)
  (hgrade : report.fidelityClass = .researchGradeLive)

include h hgrade

theorem satisfied_of_researchGrade :
    ∀ requirement ∈ db.liveRequirements startTime endTime, requirement.satisfied = true := by
  rcases ok_of_bind h with ⟨-, -, h⟩
  rcases ok_of_bind h with ⟨-, -, h⟩
  cases h
  rcases classifyLiveFidelity_eq_researchGrade hgrade with ⟨hevidence, hall⟩
  rwa [if_pos hevidence] at hall

theorem counts_of_researchGrade :
    db.countCriticalReconciliation startTime endTime = 0 ∧
      db.countUnknownOrderState startTime endTime = 0 := by
  have hall := satisfied_of_researchGrade h hgrade
  unfold liveRequirements at hall
  simp only [List.forall_mem_cons, LiveFidelityRequirement.noBadRows, decide_eq_true_eq] at hall
  exact ⟨hall.2.2.2.2.1, hall.2.2.2.2.2.1⟩

end Graded

end FidelityDb

end BubaPaint
