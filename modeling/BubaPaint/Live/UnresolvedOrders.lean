import BubaPaint.Live.Fidelity
import BubaPaint.Live.RecordedOrders

/-!
# Intervals with unresolved orders

The check of an interval looks for unknown orders among the order rows, the critical events and the
control states. It does not look at the intents: where a submission is cut off after the venue call
and before the first record, the interval can be of research grade although the order is open.

Main results:

- Theorem `open_orders_seen`: the check sees open orders whose submission left a record.
-/

namespace BubaPaint

open Effects Program

/-! ## Stored rows -/

def Severity.asStr : Severity → String
  | .info => "info"
  | .critical => "critical"

/-- The columns of a stored intent, with those that the run database does not track. -/
def LiveOrderIntent.columns (intent : LiveOrderIntent) (id : ℕ)
    (feeScheduleJson tokenFeeRatesJson detailsJson : Option String) : IntentColumns where
  id
  signalId := intent.signalId
  marketId := intent.marketId
  strategy := intent.strategy
  side := intent.side.display
  orderType := intent.orderType
  createdAtMs := intent.createdAtMs
  requestedPrice := intent.requestedPrice
  requestedSize := intent.requestedSize
  limitPrice := intent.limitPrice
  feeScheduleJson
  tokenFeeRatesJson
  detailsJson

def LiveOrder.columns (order : LiveOrder) (id : ℕ) (detailsJson : Option String) :
    OrderColumns where
  id
  sessionId := order.sessionId
  intentId := order.intentId
  clientOrderId := order.clientOrderId
  marketId := some order.marketId
  tokenId := order.tokenId
  side := order.side
  orderType := order.orderType
  status := order.status
  createdAtMs := order.createdAtMs
  updatedAtMs := order.updatedAtMs
  requestedPrice := order.requestedPrice
  limitPrice := order.limitPrice
  requestedSize := order.requestedSize
  acceptedSize := order.acceptedSize
  detailsJson

def LiveReconciliationEvent.columns (event : LiveReconciliationEvent) : ReconciliationColumns where
  timestampMs := event.timestampMs
  severity := event.severity.asStr

def LiveControlState.columns (state : LiveControlState) : ControlStateColumns where
  state := state.state.asStr
  updatedAtMs := state.updatedAtMs

namespace FidelityDb

/-- The checked tables have all rows of a run database, and any others. -/
structure Holds (rows : FidelityDb) (db : Database) : Prop where
  intents : ∀ id intent, db.liveOrderIntents.get? id = some intent →
    ∃ feeScheduleJson tokenFeeRatesJson detailsJson,
      intent.columns id feeScheduleJson tokenFeeRatesJson detailsJson ∈ rows.liveOrderIntents
  orders : ∀ id order, db.liveOrders.get? id = some order →
    ∃ detailsJson, order.columns id detailsJson ∈ rows.liveOrders
  events : ∀ id event, db.liveReconciliationEvents.get? id = some event →
    event.columns ∈ rows.liveReconciliationEvents
  states : ∀ id state, db.liveControlState.get? id = some state →
    state.columns ∈ rows.liveControlState

/-- No definite answer of the venue is stored for an intent. -/
def Unresolved (rows : FidelityDb) (intentId : ℕ) : Prop :=
  ∀ order ∈ rows.liveOrders, order.intentId = intentId → order.status ∈ unknownOrderStatuses

end FidelityDb

variable {startTime endTime intentId nowMs : ℕ} {before now : World}
variable {request : LiveOrderIntentRequest} {reply : Except String LiveOrderIntentResponse}

theorem countP_ne_zero {ρ : Type} {p : ρ → Bool} {rows : List ρ} {row : ρ} (hmem : row ∈ rows)
    (hp : p row = true) : rows.countP p ≠ 0 := by
  have hpos := List.countP_pos_iff.mpr ⟨row, hmem, hp⟩
  omega

theorem inInterval_eq_true {time : ℕ} (hstart : startTime ≤ time) (hend : time ≤ endTime) :
    inInterval startTime endTime time = true := by
  simp [inInterval, hstart, hend]

theorem RecordedAt.not_researchGrade {db : Database} (h : RecordedAt db intentId nowMs)
    {rows : FidelityDb} (hholds : rows.Holds db) (hopen : rows.Unresolved intentId)
    (hstart : startTime ≤ nowMs) (hend : nowMs ≤ endTime) {report : LiveFidelityReport}
    (hreport : rows.analyzeConnection startTime endTime = .ok report) :
    report.fidelityClass ≠ .researchGradeLive := by
  intro hgrade
  rcases FidelityDb.counts_of_researchGrade hreport hgrade with ⟨hcritical, hunknown⟩
  have hinside := inInterval_eq_true hstart hend
  cases h with
  | order id order hget hintent htime =>
    rcases hholds.orders id order hget with ⟨detailsJson, hmem⟩
    have hstatus := hopen _ hmem hintent
    have hcount := (Nat.add_eq_zero_iff.mp hunknown).1
    refine countP_ne_zero hmem ?_ hcount
    simp only [LiveOrder.columns, htime, hinside, Bool.true_and, List.contains_iff_mem]
    exact hstatus
  | event id event hget hseverity htime =>
    refine countP_ne_zero (hholds.events id event hget) ?_ hcritical
    simp [LiveReconciliationEvent.columns, htime, hinside, hseverity, Severity.asStr]
  | state id state hget hstate htime =>
    have hcount := (Nat.add_eq_zero_iff.mp hunknown).2
    refine countP_ne_zero (hholds.states id state hget) ?_ hcount
    simp [LiveControlState.columns, htime, hinside, hstate, ControlState.asStr]

/-- The venue was called for an intent: it replied, or the call is under way. -/
def VenueCalledFor (before : World) (point : Live LiveSubmissionOrderResult × World)
    (intentId : ℕ) : Prop :=
  (∃ request reply, ⟨.submitOrderIntent request, reply⟩ ∈ point.2.callsSince before ∧
    request.intentId = intentId) ∨
    ∃ request, point.1.pending? = some (.submitOrderIntent request) ∧ request.intentId = intentId

/-- One of the records of an open order was written before the submission ended or was cut off. -/
def LeavesRecord (before : World) (point : Live LiveSubmissionOrderResult × World) : Prop :=
  (point.2.callsSince before).any Exchange.records = true

theorem callsSince_eq {own : List Exchange} (h : now.exchanges = before.exchanges ++ own) :
    now.callsSince before = own := by
  rw [World.callsSince, h, List.drop_left]

theorem Unstored.not_submitted (h : Unstored before now) :
    ⟨.submitOrderIntent request, reply⟩ ∉ now.callsSince before := by
  rcases h.own with ⟨own, hown, hneutral⟩
  rw [callsSince_eq hown]
  exact fun hmem => hneutral _ hmem

theorem Tracked.intentId_eq (h : Tracked before intentId nowMs now)
    (hmem : ⟨.submitOrderIntent request, reply⟩ ∈ now.callsSince before) :
    request.intentId = intentId := by
  rcases h.own with ⟨own, hown, -, hsubmitted⟩
  rw [callsSince_eq hown] at hmem
  exact hsubmitted _ hmem request reply rfl

theorem Tracked.recordedAt (h : Tracked before intentId nowMs now)
    (hrecord : (now.callsSince before).any Exchange.records = true) :
    RecordedAt now.db intentId nowMs := by
  rcases h.own with ⟨own, hown, hrecorded, -⟩
  rw [callsSince_eq hown] at hrecord
  exact hrecorded hrecord

/-- Where the submission stands, it is tracked under the intent for which the venue was called. -/
theorem crashAfter_tracked {input : LiveOrderWorkerSubmission} {answers : List Answer}
    {world : World} (h : VenueCalledFor world (crashAfter input answers world) intentId) :
    Tracked world intentId input.nowMs (crashAfter input answers world).2 := by
  have hsat := (submitOneLiveOrderFromWorker_tracked input world).runFor
    fun answer (_ : answer ∈ answers) => trivial
  rcases hsat.pending with ⟨c, hpending, hpoint⟩ | ⟨result, hfinished, hend⟩
  · rcases hpoint with ⟨hunstored, hneutral⟩ | ⟨tracked, htracked, hstamped⟩
    · rcases h with ⟨request, reply, hmem, -⟩ | ⟨request, hcall, -⟩
      · exact absurd hmem hunstored.not_submitted
      · cases hpending.symm.trans hcall
        exact hneutral.elim
    · rcases h with ⟨request, reply, hmem, hid⟩ | ⟨request, hcall, hid⟩
      · exact ((htracked.intentId_eq hmem).symm.trans hid) ▸ htracked
      · cases hpending.symm.trans hcall
        exact (Eq.trans (Eq.symm hstamped) hid) ▸ htracked
  · have hdone : (crashAfter input answers world).1.pending? = none := by
      rw [crashAfter, hfinished]
      rfl
    rcases h with ⟨request, reply, hmem, hid⟩ | ⟨request, hcall, hid⟩
    · rcases hend with hunstored | ⟨tracked, htracked⟩
      · exact absurd hmem hunstored.not_submitted
      · exact ((htracked.intentId_eq hmem).symm.trans hid) ▸ htracked
    · rw [hdone] at hcall
      cases hcall

/-- Whatever happens after a submission and whatever other rows are stored: an interval with the
creation time of its intent is not of research grade while the order is open. -/
def OpenOrdersSeen (world : World) (input : LiveOrderWorkerSubmission) (answers : List Answer) :
    Prop :=
  ∀ later, Later (crashAfter input answers world).2 later →
    ∀ intentId, VenueCalledFor world (crashAfter input answers world) intentId →
      ∀ rows : FidelityDb, rows.Holds later.db → rows.Unresolved intentId →
        ∀ intent startTime endTime, later.db.liveOrderIntents.get? intentId = some intent →
          startTime ≤ intent.createdAtMs → intent.createdAtMs ≤ endTime →
            ∀ report, rows.analyzeConnection startTime endTime = .ok report →
              report.fidelityClass ≠ .researchGradeLive

/-- Open orders are seen if a submission that has called the venue leaves a record. -/
theorem open_orders_seen (world : World) (input : LiveOrderWorkerSubmission) (answers : List Answer)
    (hrecord : ∀ intentId, VenueCalledFor world (crashAfter input answers world) intentId →
      LeavesRecord world (crashAfter input answers world)) :
    OpenOrdersSeen world input answers := by
  intro later hlater intentId hcalled rows hholds hopen intent startTime endTime hintent hstart
    hend report hreport
  have htracked := crashAfter_tracked hcalled
  have hextends := hlater.extends
  have hrecorded := (htracked.recordedAt (hrecord intentId hcalled)).extends hextends
  have hcreated : intent.createdAtMs = input.nowMs := by
    rcases htracked.created with ⟨stored, hstored, htime⟩
    rcases hextends.intents intentId stored hstored with ⟨kept, hkept, hsame⟩
    cases hintent.symm.trans hkept
    exact hsame.trans htime
  rw [hcreated] at hstart hend
  exact hrecorded.not_researchGrade hholds hopen hstart hend hreport

/-! ## A lost reply and a crash -/

def sampleSilence : Answer :=
  { sampleAnswer 1000 with submitOrderIntent := .error "operation timed out" }

/-- A submission without a reply leaves its records. -/
theorem open_orders_seen_silence :
    OpenOrdersSeen newRun (sampleSubmission sampleConfig) (List.replicate 16 sampleSilence) := by
  refine open_orders_seen newRun (sampleSubmission sampleConfig) _ fun _ _ => ?_
  unfold LeavesRecord
  decide +kernel

def sampleCapturedRow (id : ℕ) (source eventType : String) (price bid ask imbalance : Option ℚ) :
    FeedEventRow where
  id
  tick :=
    { timestamp := 1000
      timestampUs := some 1000000
      source
      eventType
      marketId := some "market"
      assetId := some "token"
      price
      tradeSize := price
      signedQuantity := price
      bid
      ask
      bidSize := bid
      askSize := ask
      depthImbalance := imbalance
      fidelity := .rawEvent }

def sampleCapture : DataDb where
  feedEvents :=
    [sampleCapturedRow 1 "binance" "aggTrade" (some 1) none none none,
      sampleCapturedRow 2 "binance" "bookTicker" none (some 1) (some 1) none,
      sampleCapturedRow 3 "binance" "depth" none none none (some 0),
      sampleCapturedRow 4 "chainlink" "chainlink_price" (some 1) none none none,
      sampleCapturedRow 5 "clob_up" "best_bid_ask" none (some (2 / 5)) (some (1 / 2)) none,
      sampleCapturedRow 6 "clob_down" "best_bid_ask" none (some (2 / 5)) (some (1 / 2)) none]
  clobReplayEvents := []
  clobReplayBlocks := []
  tickData := []
  markets := []
  resolvedTrades := []

def sampleCrash : Live LiveSubmissionOrderResult × World :=
  crashAfter (sampleSubmission sampleConfig) (List.replicate 7 (sampleAnswer 1000)) newRun

deriving instance DecidableEq for LiveOrderIntent

def sampleIntent : LiveOrderIntent where
  sessionId := 1
  signalId := some 1
  marketId := "market"
  strategy := spreadCapture
  side := .up
  orderType := "FOK"
  status := .submitting
  createdAtMs := 1000
  requestedPrice := some (1 / 2)
  requestedSize := some 10
  limitPrice := some (1 / 2)
  executionGroupId := some "group"
  venueAttemptedAtMs := some 1000

def sampleMetricsRow : SignalMetricsColumns where
  signalId := some 1
  generatedAtMs := some 1000
  availableFeatureCount := some 1
  featuresJson := some "\x7b\"featureMode\":\"raw_event_full\"\x7d"

def sampleCheckedTables : FidelityDb where
  replay := sampleCapture
  liveSessions := [{ startedAtMs := 1000, endedAtMs := none, executionMode := "live_trading" }]
  liveOrderIntents := [sampleIntent.columns 1 (some "\x7b\x7d") (some "\x7b\x7d")
    (some "\x7b\"amount_usd\":5.0\x7d")]
  liveOrders := []
  liveFills := []
  liveAccountSnapshots := [{ sessionId := 1, timestampMs := 1000 }]
  liveRedemptions := []
  liveReconciliationEvents := []
  liveControlState := []
  controlAudit := [{ timestampMs := 1000, action := "live_control_requested" }]
  signals := [1]
  signalMetrics := [sampleMetricsRow]

theorem sampleCrash_rows : sampleCrash.2.db.liveOrderIntents.rows = [(1, sampleIntent)] ∧
    sampleCrash.2.db.liveOrders.rows.length = 0 ∧
    sampleCrash.2.db.liveReconciliationEvents.rows.length = 0 ∧
    sampleCrash.2.db.liveControlState.rows.length = 0 := by
  decide +kernel

theorem get?_ne_some_of_length {ρ : Type} {table : Table ρ} (h : table.rows.length = 0) (id : ℕ)
    (row : ρ) : table.get? id ≠ some row := by
  intro hget
  have hmem := Table.get?_eq_some_iff.mp hget
  rw [List.length_eq_zero_iff.mp h] at hmem
  cases hmem

theorem sampleCrash_holds : sampleCheckedTables.Holds sampleCrash.2.db := by
  rcases sampleCrash_rows with ⟨hintents, horders, hevents, hstates⟩
  constructor
  · intro id intent hget
    have hmem := Table.get?_eq_some_iff.mp hget
    rw [hintents] at hmem
    cases List.mem_singleton.mp hmem
    exact ⟨_, _, _, List.mem_singleton.mpr rfl⟩
  · exact fun id order hget => absurd hget (get?_ne_some_of_length horders id order)
  · exact fun id event hget => absurd hget (get?_ne_some_of_length hevents id event)
  · exact fun id state hget => absurd hget (get?_ne_some_of_length hstates id state)

theorem sampleCrash_called : VenueCalledFor newRun sampleCrash 1 := by
  have hcall : ((sampleCrash.1.pending?.bind LiveCall.request?).any fun request =>
      request.intentId == 1) = true := by
    decide +kernel
  rcases (Option.any_eq_true _ _).mp hcall with ⟨request, hrequest, hid⟩
  exact .inr ⟨request, eq_of_bind_request? hrequest, beq_iff_eq.mp hid⟩

/-- After a crash in the venue call the order is open, and the interval is of research grade. -/
theorem open_order_overlooked :
    ¬ ∀ (world : World) (input : LiveOrderWorkerSubmission) (answers : List Answer),
      Later newRun world → input.config.liveDryRun = false →
        OpenOrdersSeen world input answers := by
  intro hseen
  have hstored : sampleCrash.2.db.liveOrderIntents.get? 1 = some sampleIntent := by
    decide +kernel
  have hreport : (sampleCheckedTables.analyzeConnection 1000 1000).toOption.map
      (·.fidelityClass) = some .researchGradeLive := by
    decide +kernel
  cases hanalyzed : sampleCheckedTables.analyzeConnection 1000 1000 with
  | error error =>
    rw [hanalyzed] at hreport
    cases hreport
  | ok report =>
    rw [hanalyzed] at hreport
    exact hseen newRun (sampleSubmission sampleConfig) (List.replicate 7 (sampleAnswer 1000))
      .refl rfl _ .refl 1 sampleCrash_called sampleCheckedTables sampleCrash_holds
      (fun _ hmem => absurd hmem List.not_mem_nil) sampleIntent 1000 1000 hstored le_rfl le_rfl
      report hanalyzed (Option.some.inj hreport)

end BubaPaint
