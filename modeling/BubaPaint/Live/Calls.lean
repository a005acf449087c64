import BubaPaint.Library.Json
import BubaPaint.Library.Program
import BubaPaint.Storage.LiveTables

/-!
# Calls of the live runtime

The live runtime reaches the outside through database statements, the venue sidecar and the clock.
A piece of it is a program over these calls; what happens at a call is decided by an
`Answer`, which stands for storage failures, the sidecar's replies and the time of day.
-/

namespace BubaPaint

open Effects

/-- One order intent request sent to the sidecar for real venue execution. -/
structure LiveOrderIntentRequest where
  sessionId : ℕ
  intentId : ℕ
  marketId : String
  tokenId : String
  side : String
  orderType : String
  limitPrice : ℚ
  size : ℚ
  amountUsd : Option ℚ
  clientOrderId : String

/-- One sidecar order submission response. The details are kept decoded; a text that is not JSON
counts as absent, since the source only ever decodes it. -/
structure LiveOrderIntentResponse where
  ok : Bool
  venueOrderId : Option String
  clientOrderId : String
  status : String
  statusReason : Option String
  acceptedSize : Option ℚ
  detailsJson : Option Json.Value

/-- One sidecar order cancellation response. -/
structure LiveCancellationResponse where
  ok : Bool
  cancelled : ℕ

/-- One sidecar redemption response. -/
structure LiveRedemptionResponse where
  ok : Bool
  submitted : ℕ

/-- The status of one readiness check. -/
inductive LiveCheckStatus where
  | ok
  | failed
  deriving DecidableEq

/-- One preflight response. -/
structure LivePreflightResponse where
  ok : Bool
  walletAddress : Option String
  proxyWallet : Option String
  signatureType : Option ℤ
  geoblockStatus : LiveCheckStatus
  geoblockIp : Option String
  authStatus : LiveCheckStatus
  clockStatus : LiveCheckStatus
  userStreamStatus : LiveCheckStatus
  errors : List String

/-- One live account-state snapshot returned by the sidecar. -/
structure LiveAccountState where
  timestampMs : ℕ
  walletAddress : Option String
  proxyWallet : Option String
  cashAvailable : ℚ
  cashReservedForOrders : ℚ
  inventoryMarkValue : ℚ
  redeemableValue : ℚ
  pendingRedeemValue : ℚ
  totalEquity : ℚ
  allowanceAvailable : Option ℚ

/-- One venue activity entry. -/
structure LiveActivityEvent where
  timestampMs : ℕ
  tradeId : Option String
  price : Option ℚ
  size : Option ℚ

/-- Venue activity used to reconcile orders and fills. -/
structure LiveActivityResponse where
  timestampMs : ℕ
  userStreamStatus : LiveCheckStatus
  clobTrades : List LiveActivityEvent

/-! ## Database calls -/

/-- The database methods the live runtime calls. -/
inductive DatabaseCall where
  | openRuntime
  | insertLiveSession (session : LiveSession)
  | finishLiveSession (sessionId endedAtMs : ℕ) (status : SessionStatus)
  | updateLiveSessionMetadata (sessionId : ℕ) (status : SessionStatus)
      (walletAddress proxyWallet : Option String)
  | logLiveOrderIntentWithDecisionEvidence (evidence : LiveDecisionEvidence)
      (intent : LiveOrderIntent)
  | logLiveOrder (order : LiveOrder)
  | liveOrderIdempotencyReady
  | tryReserveVenueAttempt (intentId nowMs sessionId maxSessionOrders maxSessionFills : ℕ)
  | markLiveOrderIntentDryRun (intentId : ℕ)
  | markLiveOrderIntentSubmitting (intentId : ℕ)
  | liveOrderCount
  | orphanedVenueAttemptCount
  | findLiveOrderByIntent (intentId : ℕ)
  | setLiveOrderReconcileStatus (liveOrderId : ℕ) (status : OnchainReconcileStatus)
  | unconfirmedOnchainFillCount (includeUnmarked : Bool)
  | logLiveFill (fill : LiveFill)
  | liveFillExists (sessionId : ℕ) (venueTradeId : String)
  | logLiveAccountSnapshot (snapshot : LiveAccountSnapshot)
  | logLiveRedemption (redemption : LiveRedemption)
  | logLiveReconciliationEvent (event : LiveReconciliationEvent)
  | criticalLiveReconciliationCount (sessionId : ℕ)
  | logControlAudit (entry : ControlAuditEntry)
  | insertLiveControlState (state : LiveControlState)
  | terminalLiveTradingHaltExists
  | pendingLiveControlCommands (sessionId : ℕ)
  | updateLiveControlCommandStatus (commandId appliedAtMs : ℕ) (status : CommandStatus)
  | getRunMetadata (key : String)

namespace DatabaseCall

/-- The value a database method returns when it succeeds. -/
@[reducible]
def Reply : DatabaseCall → Type
  | .openRuntime => Unit
  | .insertLiveSession _ => ℕ
  | .finishLiveSession .. => Unit
  | .updateLiveSessionMetadata .. => Unit
  | .logLiveOrderIntentWithDecisionEvidence .. => ℕ
  | .logLiveOrder _ => ℕ
  | .liveOrderIdempotencyReady => Bool
  | .tryReserveVenueAttempt .. => VenueAttemptOutcome
  | .markLiveOrderIntentDryRun _ => Unit
  | .markLiveOrderIntentSubmitting _ => Unit
  | .liveOrderCount => ℕ
  | .orphanedVenueAttemptCount => ℕ
  | .findLiveOrderByIntent _ => Option ExistingLiveOrder
  | .setLiveOrderReconcileStatus .. => Unit
  | .unconfirmedOnchainFillCount _ => ℕ
  | .logLiveFill _ => ℕ
  | .liveFillExists .. => Bool
  | .logLiveAccountSnapshot _ => ℕ
  | .logLiveRedemption _ => ℕ
  | .logLiveReconciliationEvent _ => ℕ
  | .criticalLiveReconciliationCount _ => ℕ
  | .logControlAudit _ => ℕ
  | .insertLiveControlState _ => ℕ
  | .terminalLiveTradingHaltExists => Bool
  | .pendingLiveControlCommands _ => List (ℕ × LiveControlCommand)
  | .updateLiveControlCommandStatus .. => Unit
  | .getRunMetadata _ => Option String

/-- The effect of a database method when the storage engine does not fail. -/
def perform (db : Database) : (call : DatabaseCall) → Except String (call.Reply × Database)
  | .openRuntime => .ok ((), db)
  | .insertLiveSession session => .ok (db.insertLiveSession session)
  | .finishLiveSession sessionId endedAtMs status =>
    .ok ((), db.finishLiveSession sessionId endedAtMs status)
  | .updateLiveSessionMetadata sessionId status walletAddress proxyWallet =>
    .ok ((), db.updateLiveSessionMetadata sessionId status walletAddress proxyWallet)
  | .logLiveOrderIntentWithDecisionEvidence evidence intent =>
    .ok (db.logLiveOrderIntentWithDecisionEvidence evidence intent)
  | .logLiveOrder order => db.logLiveOrder order
  | .liveOrderIdempotencyReady => .ok (db.liveOrderIdempotencyReady, db)
  | .tryReserveVenueAttempt intentId nowMs sessionId maxSessionOrders maxSessionFills =>
    .ok (db.tryReserveVenueAttempt intentId nowMs sessionId maxSessionOrders maxSessionFills)
  | .markLiveOrderIntentDryRun intentId =>
    (db.markLiveOrderIntentDryRun intentId).map ((), ·)
  | .markLiveOrderIntentSubmitting intentId =>
    (db.markLiveOrderIntentSubmitting intentId).map ((), ·)
  | .liveOrderCount => .ok (db.liveOrderCount, db)
  | .orphanedVenueAttemptCount => .ok (db.orphanedVenueAttemptCount, db)
  | .findLiveOrderByIntent intentId => .ok (db.findLiveOrderByIntent intentId, db)
  | .setLiveOrderReconcileStatus liveOrderId status =>
    (db.setLiveOrderReconcileStatus liveOrderId status).map ((), ·)
  | .unconfirmedOnchainFillCount includeUnmarked =>
    .ok (db.unconfirmedOnchainFillCount includeUnmarked, db)
  | .logLiveFill fill => .ok (db.logLiveFill fill)
  | .liveFillExists sessionId venueTradeId => .ok (db.liveFillExists sessionId venueTradeId, db)
  | .logLiveAccountSnapshot snapshot => .ok (db.logLiveAccountSnapshot snapshot)
  | .logLiveRedemption redemption => .ok (db.logLiveRedemption redemption)
  | .logLiveReconciliationEvent event => .ok (db.logLiveReconciliationEvent event)
  | .criticalLiveReconciliationCount sessionId =>
    .ok (db.criticalLiveReconciliationCount sessionId, db)
  | .logControlAudit entry => .ok (db.logControlAudit entry)
  | .insertLiveControlState state => .ok (db.insertLiveControlState state)
  | .terminalLiveTradingHaltExists => .ok (db.terminalLiveTradingHaltExists, db)
  | .pendingLiveControlCommands sessionId => .ok (db.pendingLiveControlCommands sessionId, db)
  | .updateLiveControlCommandStatus commandId appliedAtMs status =>
    .ok ((), db.updateLiveControlCommandStatus commandId appliedAtMs status)
  | .getRunMetadata key => .ok (db.getRunMetadata key, db)

end DatabaseCall

/-- The calls of the live runtime. -/
inductive LiveCall where
  | database (call : DatabaseCall)
  | submitOrderIntent (request : LiveOrderIntentRequest)
  | cancelAll
  | redeemAll
  | preflight
  | accountState
  | activity
  | now

/-- The reply of a call: every call except the clock can fail with an error text. -/
@[reducible]
def LiveCall.Reply : LiveCall → Type
  | .database call => Except String call.Reply
  | .submitOrderIntent _ => Except String LiveOrderIntentResponse
  | .cancelAll => Except String LiveCancellationResponse
  | .redeemAll => Except String LiveRedemptionResponse
  | .preflight => Except String LivePreflightResponse
  | .accountState => Except String LiveAccountState
  | .activity => Except String LiveActivityResponse
  | .now => ℕ

def LiveCall.request? : LiveCall → Option LiveOrderIntentRequest
  | .submitOrderIntent request => some request
  | _ => none

theorem eq_of_bind_request? {c? : Option LiveCall} {request : LiveOrderIntentRequest}
    (h : c?.bind LiveCall.request? = some request) : c? = some (.submitOrderIntent request) := by
  rcases Option.bind_eq_some_iff.mp h with ⟨c, rfl, hrequest⟩
  cases c <;> simp [LiveCall.request?] at hrequest
  rw [hrequest]

/-- What the outside does at one call. -/
structure Answer where
  /-- The storage failure of a database call, if it fails. A failing call writes nothing. -/
  databaseError : Option String
  submitOrderIntent : Except String LiveOrderIntentResponse
  cancelAll : Except String LiveCancellationResponse
  redeemAll : Except String LiveRedemptionResponse
  preflight : Except String LivePreflightResponse
  accountState : Except String LiveAccountState
  activity : Except String LiveActivityResponse
  now : ℕ

/-- One call with its reply. -/
abbrev Exchange :=
  (call : LiveCall) × call.Reply

/-- The run database together with the calls made so far and their replies, oldest first. -/
structure World where
  db : Database
  exchanges : List Exchange

/-- What was exchanged after an earlier point. -/
def World.callsSince (world before : World) : List Exchange :=
  world.exchanges.drop before.exchanges.length

/-- Execute a database call, unless the storage engine fails. -/
def DatabaseCall.execute (failure : Option String) (call : DatabaseCall) (db : Database) :
    Except String call.Reply × Database :=
  match failure with
  | some error => (.error error, db)
  | none =>
    match call.perform db with
    | .ok (reply, db') => (.ok reply, db')
    | .error error => (.error error, db)

def LiveCall.respond (answer : Answer) (db : Database) : (call : LiveCall) → call.Reply × Database
  | .database call => call.execute answer.databaseError db
  | .submitOrderIntent _ => (answer.submitOrderIntent, db)
  | .cancelAll => (answer.cancelAll, db)
  | .redeemAll => (answer.redeemAll, db)
  | .preflight => (answer.preflight, db)
  | .accountState => (answer.accountState, db)
  | .activity => (answer.activity, db)
  | .now => (answer.now, db)

def LiveCall.answer (answer : Answer) (call : LiveCall) (world : World) : call.Reply × World :=
  ((call.respond answer world.db).1,
    { db := (call.respond answer world.db).2
      exchanges := world.exchanges ++ [⟨call, (call.respond answer world.db).1⟩] })

/-- Database methods that write neither `live_order_intents` nor `live_orders`. -/
def DatabaseCall.leavesOrders : DatabaseCall → Prop
  | .logLiveOrderIntentWithDecisionEvidence .. | .logLiveOrder _ | .tryReserveVenueAttempt .. |
    .markLiveOrderIntentDryRun _ | .markLiveOrderIntentSubmitting _ |
    .setLiveOrderReconcileStatus .. => False
  | _ => True

/-- Calls that neither submit an order nor write intents or orders. -/
def LiveCall.leavesOrders : LiveCall → Prop
  | .database call => call.leavesOrders
  | .submitOrderIntent _ => False
  | _ => True

/-- Calls that keep books at one time: they submit no order and write no intent, order or fill. -/
def LiveCall.books (nowMs : ℕ) : LiveCall → Prop
  | .database (.insertLiveControlState state) => state.updatedAtMs = nowMs
  | .database (.logLiveReconciliationEvent event) => event.timestampMs = nowMs
  | .database (.logLiveFill _) => False
  | c => c.leavesOrders

theorem LiveCall.leavesOrders_of_books {nowMs : ℕ} {c : LiveCall} (h : c.books nowMs) :
    c.leavesOrders := by
  cases c with
  | database call => cases call <;> trivial
  | _ => exact h

theorem DatabaseCall.perform_leavesOrders {call : DatabaseCall} (hcall : call.leavesOrders)
    {db db' : Database} {reply : call.Reply} (h : call.perform db = .ok (reply, db')) :
    db'.liveOrderIntents = db.liveOrderIntents ∧ db'.liveOrders = db.liveOrders := by
  cases call with
  | logLiveOrderIntentWithDecisionEvidence evidence intent | logLiveOrder order
  | tryReserveVenueAttempt intentId nowMs sessionId maxSessionOrders maxSessionFills
  | markLiveOrderIntentDryRun intentId | markLiveOrderIntentSubmitting intentId
  | setLiveOrderReconcileStatus liveOrderId status => exact hcall.elim
  | _ =>
    cases h
    exact ⟨rfl, rfl⟩

theorem LiveCall.answer_leavesOrders {c : LiveCall} (hc : c.leavesOrders) (answer : Answer)
    (world : World) :
    (c.answer answer world).2.db.liveOrderIntents = world.db.liveOrderIntents ∧
      (c.answer answer world).2.db.liveOrders = world.db.liveOrders := by
  cases c with
  | database call =>
    simp only [LiveCall.answer, LiveCall.respond, DatabaseCall.execute]
    cases answer.databaseError with
    | some error => exact ⟨rfl, rfl⟩
    | none =>
      cases hperform : call.perform world.db with
      | error error => exact ⟨rfl, rfl⟩
      | ok result => exact call.perform_leavesOrders hc hperform
  | submitOrderIntent request => exact hc.elim
  | _ => exact ⟨rfl, rfl⟩

/-! ## Programs -/

abbrev Live :=
  Program LiveCall LiveCall.Reply

abbrev LiveResult :=
  ExceptT String Live

namespace Live

abbrev call (c : LiveCall) : Live c.Reply :=
  Program.call c

abbrev database (c : DatabaseCall) : LiveResult c.Reply :=
  ExceptT.mk (call (.database c))

def run {α : Type} (p : Live α) (oracle : ℕ → Answer) (world : World) : α × World :=
  Program.run LiveCall.answer p oracle world

theorem run_emits {α : Type} {post : α → List Exchange → Prop} {p : Live α}
    (h : Program.Emits post p []) (oracle : ℕ → Answer) (world : World) :
    ∃ own, (run p oracle world).2.exchanges = world.exchanges ++ own ∧
      post (run p oracle world).1 own :=
  h.run World.exchanges (fun _ _ _ => rfl) oracle world

theorem run_callsSince {α : Type} {post : α → List Exchange → Prop} {p : Live α}
    (h : Program.Emits post p []) (oracle : ℕ → Answer) (world : World) :
    post (run p oracle world).1 ((run p oracle world).2.callsSince world) := by
  obtain ⟨own, hown, hpost⟩ := run_emits h oracle world
  unfold World.callsSince
  rw [hown, List.drop_left]
  exact hpost

theorem exchanges_run {α : Type} (p : Live α) (oracle : ℕ → Answer) (world : World) :
    (run p oracle world).2.exchanges =
      world.exchanges ++ (run p oracle world).2.callsSince world := by
  have hnothing : Program.Emits (fun _ _ => True) p [] :=
    ((Program.always_true p).emits []).mono fun _ _ _ => trivial
  obtain ⟨own, hown, -⟩ := run_emits hnothing oracle world
  rw [World.callsSince, hown, List.drop_left]

theorem callsSince_run_request {α : Type} (c : LiveCall) (next : c.Reply → Live α)
    (oracle : ℕ → Answer) (world : World) :
    (run (.request c next) oracle world).2.callsSince world =
      ⟨c, (c.answer (oracle 0) world).1⟩ ::
        (run (next (c.answer (oracle 0) world).1) (fun n => oracle (n + 1))
          (c.answer (oracle 0) world).2).2.callsSince (c.answer (oracle 0) world).2 := by
  have hrest := exchanges_run (next (c.answer (oracle 0) world).1) (fun n => oracle (n + 1))
    (c.answer (oracle 0) world).2
  have hwhole := exchanges_run (.request c next) oracle world
  rw [show run (.request c next) oracle world = run (next (c.answer (oracle 0) world).1)
    (fun n => oracle (n + 1)) (c.answer (oracle 0) world).2 from rfl, hrest] at hwhole
  have hfirst : (c.answer (oracle 0) world).2.exchanges =
      world.exchanges ++ [⟨c, (c.answer (oracle 0) world).1⟩] := rfl
  rw [hfirst, List.append_assoc] at hwhole
  exact (List.append_cancel_left hwhole).symm

/-- Whatever the calls answer, `pre` holds of every call in the world it is made in and `post` holds
at the end. -/
abbrev Sat {α : Type} (pre : LiveCall → World → Prop) (post : α → World → Prop) (p : Live α)
    (world : World) : Prop :=
  Program.Sat LiveCall.answer (fun _ => True) pre post p world

variable {pre : LiveCall → World → Prop} {world : World}

/-- A database call fails and changes nothing but the trace, or does what the method does. -/
theorem sat_database {c : DatabaseCall} {post : Except String c.Reply → World → Prop}
    (hpre : pre (.database c) world)
    (hfail : ∀ error, post (.error error)
      { world with exchanges := world.exchanges ++ [⟨.database c, .error error⟩] })
    (hok : ∀ reply db', c.perform world.db = .ok (reply, db') → post (.ok reply)
      { db := db', exchanges := world.exchanges ++ [⟨.database c, .ok reply⟩] }) :
    Sat pre post (call (.database c)) world := by
  refine ⟨hpre, ?_⟩
  intro choice _
  cases herror : choice.databaseError with
  | some error =>
    simpa [LiveCall.answer, LiveCall.respond, DatabaseCall.execute, herror] using hfail error
  | none =>
    cases hperform : c.perform world.db with
    | error error =>
      simpa [LiveCall.answer, LiveCall.respond, DatabaseCall.execute, herror, hperform] using
        hfail error
    | ok result =>
      simpa [LiveCall.answer, LiveCall.respond, DatabaseCall.execute, herror, hperform] using
        hok result.1 result.2 hperform

theorem sat_external {c : LiveCall} (hc : ∀ call, c ≠ .database call)
    {post : c.Reply → World → Prop} (hpre : pre c world)
    (hreply : ∀ reply,
      post reply { world with exchanges := world.exchanges ++ [⟨c, reply⟩] }) :
    Sat pre post (call c) world := by
  refine ⟨hpre, ?_⟩
  intro choice _
  cases c with
  | database call => exact absurd rfl (hc call)
  | _ => exact hreply _

end Live

end BubaPaint
