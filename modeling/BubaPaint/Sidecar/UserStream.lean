import BubaPaint.Library.Runs
import BubaPaint.Sidecar.Provider

/-!
# The authenticated user stream

The monitor keeps one socket to the authenticated user stream. Each connection attempt has its own
socket, timers and promise; the callbacks of all attempts write one state, and one connect loop
replaces the attempt until the wanted markets are subscribed.
-/

namespace BubaPaint.UserStream

open Effects

/-! ## Activity of the stream -/

/-- One event of the account's activity. -/
structure LiveActivityEvent where
  timestampMs : ℕ
  source : String
  eventType : String
  marketId : Option String
  orderId : Option String
  tradeId : Option String
  assetId : Option String
  side : Option String
  price : Option ℚ
  size : Option ℚ
  status : Option String
  detailsJson : Option String

/-- A text that has more than spaces. -/
def safeString : Option Json.Value → Option String
  | some (.string text) => if nonBlank text then some text else none
  | _ => none

def firstString (record : Json.Value) (keys : List String) : Option String :=
  keys.findSome? fun key => safeString (record.get? key)

def safeNumber : Option Json.Value → Option ℚ
  | some (.number value) => some value.toRat
  | some (.string text) => parseFloat text
  | _ => none

def makerOrderIds (value : Option Json.Value) : List String :=
  ((value.bind Json.Value.asArray).getD []).filterMap fun entry => firstString entry ["order_id"]

def stringifyChar (c : Char) : List Char :=
  if c = '"' ∨ c = '\\' then ['\\', c]
  else if c = '\n' then ['\\', 'n']
  else if c = '\r' then ['\\', 'r']
  else if c = '\t' then ['\\', 't']
  else if c.toNat = 8 then ['\\', 'b']
  else if c.toNat = 12 then ['\\', 'f']
  else if c.toNat < 0x20 then
    ['\\', 'u', '0', '0', Json.hexDigit (c.toNat / 16), Json.hexDigit (c.toNat % 16)]
  else [c]

def stringify (text : String) : String :=
  String.ofList ('"' :: (text.toList.flatMap stringifyChar ++ ['"']))

/-- Write an object of texts, with an array of texts as its last field. -/
def safeDetails (fields : List (String × Option String)) (lastKey : String)
    (lastItems : List String) : String :=
  let texts := fields.map fun (key, value) =>
    stringify key ++ ":" ++ (value.map stringify).getD "null"
  let items := stringify lastKey ++ ":[" ++ ",".intercalate (lastItems.map stringify) ++ "]"
  "\x7b" ++ ",".intercalate (texts ++ [items]) ++ "\x7d"

/-- The activity that a record of the stream reports. -/
def activityEventFromRecord (source : String) (timestampMs : ℕ) (record : Json.Value) :
    LiveActivityEvent where
  timestampMs
  source
  eventType := (firstString record ["event_type", "type", "status"]).getD "unknown"
  marketId := firstString record ["market", "market_id", "condition_id"]
  orderId := firstString record ["order_id", "orderID", "id"]
  tradeId := firstString record ["trade_id", "tradeID", "id"]
  assetId := firstString record ["asset_id", "asset", "token_id"]
  side := firstString record ["side"]
  price := safeNumber (record.get? "price")
  size := safeNumber (record.get? "size")
  status := firstString record ["status"]
  detailsJson := some (safeDetails
    [("outcome", firstString record ["outcome"]),
      ("liquidity_side", firstString record ["trader_side", "liquidity_side"]),
      ("transaction_hash", firstString record ["transaction_hash", "tx_hash"]),
      ("match_time", firstString record ["match_time"]),
      ("matchtime", firstString record ["matchtime"]),
      ("last_update", firstString record ["last_update"]),
      ("timestamp", firstString record ["timestamp"]),
      ("type", firstString record ["type"]),
      ("original_size", firstString record ["original_size"]),
      ("size_matched", firstString record ["size_matched"]),
      ("matched_amount", firstString record ["matched_amount"]),
      ("taker_order_id", firstString record ["taker_order_id"])]
    "maker_order_ids" (makerOrderIds (record.get? "maker_orders")))

/-- The activity in a message: `none` for the message is a text that is no document. -/
def userStreamActivityEvent (message : Option Json.Value) (timestampMs : ℕ) :
    Option LiveActivityEvent :=
  match message with
  | some (.object fields) => some (activityEventFromRecord "user_stream" timestampMs (.object fields))
  | _ => none

def reportedError (message : Option Json.Value) : Option String :=
  message.bind fun parsed =>
    if (parsed.get? "type").bind Json.Value.asStr = some "error" ∨
        (parsed.get? "event_type").bind Json.Value.asStr = some "error" then
      (parsed.get? "error").bind Json.Value.asStr
    else none

def utf16Units (text : String) : List ℕ :=
  text.toList.flatMap fun c =>
    if c.toNat < 0x10000 then [c.toNat]
    else [0xd800 + (c.toNat - 0x10000) / 0x400, 0xdc00 + (c.toNat - 0x10000) % 0x400]

def dedupeStrings (values : List String) : List String :=
  values.eraseDups

def desiredMarkets (markets : List String) : List String :=
  (dedupeStrings markets).mergeSort fun left right => decide (utf16Units left ≤ utf16Units right)

def computeReconnectDelayMs (failures baseMs maxMs : ℕ) (random : ℚ) : ℤ :=
  let capped := min (baseMs * 2 ^ (failures - 1)) maxMs
  let jitter : ℚ := 4 / 5 + random * (2 / 5)
  max 1 (mathRound (capped * jitter))

def userStreamPingIntervalMs : ℕ :=
  10000

def connectError : ThrownError → String
  | .stage error => error.message
  | .other status message => s!"user_stream_connect: {stringError (.other status message)}"

/-- Credentials of the account at the venue. -/
structure ApiKeyCreds where
  key : String
  secret : String
  passphrase : String

/-- What the monitor sends. -/
inductive UserStreamFrame where
  | subscribe (auth : ApiKeyCreds) (markets : List String)
  | ping

inductive ReadyState where
  | connecting
  | opened
  | closing
  | closed
  deriving DecidableEq

/-- A socket: its state, what was sent over it, whether the monitor closed or terminated it, and
whether it has reported an error. -/
structure UserStreamSocket where
  readyState : ReadyState := .connecting
  sent : List UserStreamFrame := []
  closeCalled : Bool := false
  erred : Bool := false

namespace UserStreamSocket

def safeCloseSocket (socket : UserStreamSocket) : UserStreamSocket :=
  match socket.readyState with
  | .connecting | .opened | .closing => { socket with readyState := .closing, closeCalled := true }
  | .closed => socket

/-- The socket is closed, or the monitor has closed it. -/
def gone (socket : UserStreamSocket) : Bool :=
  socket.closeCalled || socket.readyState == .closed

def reportOpen (socket : UserStreamSocket) : UserStreamSocket :=
  { socket with readyState := .opened }

def reportError (socket : UserStreamSocket) : UserStreamSocket :=
  { socket with readyState := .closing, erred := true }

def reportClose (socket : UserStreamSocket) : UserStreamSocket :=
  { socket with readyState := .closed }

def send (socket : UserStreamSocket) (frame : UserStreamFrame) : UserStreamSocket :=
  { socket with sent := socket.sent ++ [frame] }

end UserStreamSocket

/-- One connection attempt: its timers, its socket, and how its promise was settled. -/
structure ConnectionAttempt where
  revision : ℕ
  auth : ApiKeyCreds
  markets : List String
  socket : UserStreamSocket := {}
  connectTimer : Bool := true
  readyTimer : Bool := false
  heartbeatTimer : Bool := false
  outcome : Option (Except String Unit) := none

namespace ConnectionAttempt

def clearAttemptStartupTimers (attempt : ConnectionAttempt) : ConnectionAttempt :=
  { attempt with connectTimer := false, readyTimer := false }

def clearAttemptTimers (attempt : ConnectionAttempt) : ConnectionAttempt :=
  { attempt.clearAttemptStartupTimers with heartbeatTimer := false }

def closeSocket (attempt : ConnectionAttempt) : ConnectionAttempt :=
  { attempt with socket := attempt.socket.safeCloseSocket }

def send (attempt : ConnectionAttempt) (frame : UserStreamFrame) : ConnectionAttempt :=
  { attempt with socket := attempt.socket.send frame }

/-- Subscribe to the markets of the attempt, and start the heartbeat and the grace period. -/
def subscribe (attempt : ConnectionAttempt) : ConnectionAttempt :=
  { attempt.send (.subscribe attempt.auth attempt.markets) with
    heartbeatTimer := true
    readyTimer := true }

def settle (attempt : ConnectionAttempt) (outcome : Except String Unit) : ConnectionAttempt :=
  { attempt with outcome := attempt.outcome.or (some outcome) }

end ConnectionAttempt

/-! ## The monitor -/

inductive UserStreamLifecycle where
  | idle
  | connecting
  | connected
  | reconnecting
  | closed
  deriving DecidableEq

/-- The state that the monitor shows. -/
structure UserStreamSnapshot where
  status : LiveCheckStatus
  lifecycle : UserStreamLifecycle
  (lastConnectedAtMs lastEventAtMs : Option ℕ := none)
  lastError : Option String := none
  lastDisconnectedAtMs : Option ℕ := none
  lastDisconnectReason : Option String := none
  consecutiveFailures : ℕ
  subscribedMarkets : List String
  recentEvents : List LiveActivityEvent

/-- The connection that was asked for last. -/
structure DesiredConnection where
  auth : ApiKeyCreds
  markets : List String
  revision : ℕ

/-- Where the connect loop stands: it awaits an attempt, or it has ended and its promise is not
cleared yet. -/
inductive ConnectLoop where
  | awaiting (attempt : ℕ)
  | ended
  deriving DecidableEq

/-- Settings of the monitor. -/
structure UserStreamSettings where
  reconnectBaseMs : ℕ
  reconnectMaxMs : ℕ
  stalenessMs : ℕ

/-- What a turn reads from outside: the clock, the random source, and the error of a send. -/
structure TurnInputs where
  now : ℕ
  random : ℚ
  sendError : Option String

/-- The monitor. All attempts it has made stay in the table, since their callbacks do. -/
structure WsUserStreamMonitor where
  desired : Option DesiredConnection := none
  state : UserStreamSnapshot
  attempts : Table ConnectionAttempt
  currentAttempt : Option ℕ := none
  connectPromise : Option ConnectLoop := none
  reconnectTimer : Option ℤ := none
  desiredRevision : ℕ
  closed : Bool

namespace WsUserStreamMonitor

def new : WsUserStreamMonitor where
  desired := none
  state :=
    { status := .failed
      lifecycle := .idle
      lastConnectedAtMs := none
      lastEventAtMs := none
      lastError := none
      lastDisconnectedAtMs := none
      lastDisconnectReason := none
      consecutiveFailures := 0
      subscribedMarkets := []
      recentEvents := [] }
  attempts := .empty
  currentAttempt := none
  connectPromise := none
  reconnectTimer := none
  desiredRevision := 0
  closed := false

variable (settings : UserStreamSettings) (inputs : TurnInputs) (m : WsUserStreamMonitor)

def isActiveAttempt (id : ℕ) : Bool :=
  m.currentAttempt == some id

def updateAttempt (id : ℕ) (f : ConnectionAttempt → ConnectionAttempt) : WsUserStreamMonitor :=
  { m with attempts := m.attempts.modify id f }

def settled (id : ℕ) : Bool :=
  (m.attempts.get? id).all fun attempt => attempt.outcome.isSome

def clearReconnectTimer : WsUserStreamMonitor :=
  { m with reconnectTimer := none }

/-- Start the reconnect timer, unless it runs or nothing is wanted. -/
def scheduleReconnect : WsUserStreamMonitor :=
  if m.closed || m.desired.isNone || m.reconnectTimer.isSome then m
  else
    { m with
      reconnectTimer := some (computeReconnectDelayMs m.state.consecutiveFailures
        settings.reconnectBaseMs settings.reconnectMaxMs inputs.random) }

def lostState (message : String) : UserStreamSnapshot :=
  { m.state with
    status := .failed
    lastError := some message
    lifecycle := if m.closed then .closed else .reconnecting
    lastDisconnectedAtMs := some inputs.now
    lastDisconnectReason := some message
    consecutiveFailures := m.state.consecutiveFailures + 1 }

/-- An attempt failed before it was established. -/
def failAttempt (id : ℕ) (message : String) : WsUserStreamMonitor :=
  if m.isActiveAttempt id then
    let cleared := m.updateAttempt id (·.clearAttemptTimers)
    let lost := { cleared with state := m.lostState inputs message, currentAttempt := none }
    (lost.updateAttempt id (·.closeSocket)).scheduleReconnect settings inputs
  else m

/-- The current connection is lost. -/
def markDisconnected (message : String) : WsUserStreamMonitor :=
  let cleared :=
    match m.currentAttempt with
    | some id => m.updateAttempt id (·.clearAttemptTimers)
    | none => m
  { cleared with state := m.lostState inputs message, currentAttempt := none }.scheduleReconnect
    settings inputs

def completeFailure (id : ℕ) (error : ThrownError) : WsUserStreamMonitor :=
  if m.settled id then m
  else
    let failure := connectError error
    (m.failAttempt settings inputs id failure).updateAttempt id (·.settle (.error failure))

/-- Settle the promise of an attempt: it is established, if it is still the current one. -/
def completeSuccess (id : ℕ) : WsUserStreamMonitor :=
  match m.attempts.get? id with
  | none => m
  | some attempt =>
    if attempt.outcome.isSome then m
    else if m.isActiveAttempt id then
      let connected : UserStreamSnapshot :=
        { m.state with
          status := .ok
          lifecycle := .connected
          lastConnectedAtMs := some inputs.now
          lastEventAtMs := some inputs.now
          lastError := none
          subscribedMarkets := attempt.markets
          consecutiveFailures := 0 }
      { m with state := connected }.updateAttempt id
        fun attempt => attempt.clearAttemptStartupTimers.settle (.ok ())
    else m.updateAttempt id fun attempt => attempt.closeSocket.settle (.ok ())

def disposeAttempt (id : ℕ) (reason : String) : WsUserStreamMonitor :=
  if m.isActiveAttempt id then
    let cleared := { m.updateAttempt id (·.clearAttemptTimers) with currentAttempt := none }
    let aborted := cleared.completeFailure settings inputs id
      (.other none s!"connection cancelled: {reason}")
    aborted.updateAttempt id (·.closeSocket)
  else m

def disposeCurrent (reason : String) : WsUserStreamMonitor :=
  match m.currentAttempt with
  | some id => m.disposeAttempt settings inputs id reason
  | none => m

/-- Replace the current attempt by a new one, and await it. -/
def openConnection (desired : DesiredConnection) : WsUserStreamMonitor :=
  let disposed := m.clearReconnectTimer.disposeCurrent settings inputs "subscription_updated"
  let reconnecting :=
    disposed.state.lifecycle == .reconnecting || 0 < disposed.state.consecutiveFailures
  { disposed with
    state :=
      { disposed.state with lifecycle := if reconnecting then .reconnecting else .connecting }
    attempts := disposed.attempts.insert
      { revision := desired.revision, auth := desired.auth, markets := desired.markets }
    currentAttempt := some disposed.attempts.nextId
    connectPromise := some (.awaiting disposed.attempts.nextId) }

def ensureDesiredConnection : WsUserStreamMonitor :=
  if m.closed then { m with connectPromise := some .ended }
  else
    match m.desired with
    | none => { m with connectPromise := some .ended }
    | some desired =>
      if m.state.status = .ok ∧ m.state.subscribedMarkets = desired.markets then
        { m with connectPromise := some .ended }
      else m.openConnection settings inputs desired

def startConnecting : WsUserStreamMonitor :=
  if m.connectPromise.isSome then m else m.ensureDesiredConnection settings inputs

def ensureConnected (auth : ApiKeyCreds) (markets : List String) :
    Except String WsUserStreamMonitor :=
  let wanted := desiredMarkets markets
  if wanted = [] then .error "no market ids available for the authenticated user stream"
  else if m.closed then .error "authenticated user stream monitor is closed"
  else
    let asked :=
      { m with
        desired := some { auth, markets := wanted, revision := m.desiredRevision + 1 }
        desiredRevision := m.desiredRevision + 1 }
    if m.state.status = .ok ∧ m.state.subscribedMarkets = wanted then .ok asked
    else .ok (asked.startConnecting settings inputs)

def close : WsUserStreamMonitor :=
  let stopped := { m with closed := true, desired := none }.clearReconnectTimer
  let disposed := stopped.disposeCurrent settings inputs "monitor_closed"
  { disposed with
    currentAttempt := none
    state :=
      { disposed.state with
        status := .failed, lifecycle := .closed, lastError := some "monitor closed" } }

/-- The socket of an attempt opened: subscribe and start the timers. -/
def onOpen (id : ℕ) : WsUserStreamMonitor :=
  if m.isActiveAttempt id then
    match inputs.sendError with
    | some message => m.completeFailure settings inputs id (.other none message)
    | none => m.updateAttempt id (·.subscribe)
  else m.updateAttempt id (·.closeSocket)

/-- The state after a message, with its activity among the last ones. -/
def receivedState (message : Option Json.Value) : UserStreamSnapshot :=
  let recent :=
    m.state.recentEvents ++ (userStreamActivityEvent message inputs.now).toList
  { m.state with
    lastEventAtMs := some inputs.now
    recentEvents := recent.drop (recent.length - 200) }

def onMessage (id : ℕ) (message : Option Json.Value) : WsUserStreamMonitor :=
  if m.isActiveAttempt id then
    let received := { m with state := m.receivedState inputs message }
    if m.settled id then received
    else
      match reportedError message with
      | some error => received.completeFailure settings inputs id (.other none error)
      | none => received.completeSuccess inputs id
  else m

def onError (id : ℕ) (message : String) : WsUserStreamMonitor :=
  if m.isActiveAttempt id then
    if m.settled id then m.markDisconnected settings inputs message
    else m.completeFailure settings inputs id (.other none message)
  else m

def onClose (id : ℕ) (code : ℕ) (reason : String) : WsUserStreamMonitor :=
  let message := s!"user stream closed ({code}): {reason}"
  if m.isActiveAttempt id then
    if m.settled id then m.markDisconnected settings inputs message
    else m.completeFailure settings inputs id (.other none message)
  else m

/-- No frame has arrived within the staleness window. -/
def stale : Bool :=
  let effectiveStalenessMs :=
    if 0 < settings.stalenessMs then max settings.stalenessMs (userStreamPingIntervalMs * 2) else 0
  m.state.lastEventAtMs.any fun lastEventAtMs =>
    0 < effectiveStalenessMs && effectiveStalenessMs < inputs.now - lastEventAtMs

/-- The heartbeat of an attempt: a silent stream is given up, any other is pinged. -/
def onHeartbeat (id : ℕ) (attempt : ConnectionAttempt) : WsUserStreamMonitor :=
  if m.isActiveAttempt id ∧ attempt.socket.readyState = .opened then
    if m.stale settings inputs then
      (m.markDisconnected settings inputs
        "user stream stale: no inbound frame within staleness window").updateAttempt id
          (·.closeSocket)
    else
      match inputs.sendError with
      | some message =>
        (m.markDisconnected settings inputs
          (connectError (.other none message))).updateAttempt id (·.closeSocket)
      | none => m.updateAttempt id (·.send .ping)
  else m

def onReconnect : WsUserStreamMonitor :=
  let fired := m.clearReconnectTimer
  if fired.closed || fired.desired.isNone then fired else fired.startConnecting settings inputs

def continueConnecting : WsUserStreamMonitor :=
  match m.desired with
  | none => { m with connectPromise := some .ended }
  | some desired =>
    if m.state.subscribedMarkets = desired.markets then { m with connectPromise := some .ended }
    else
      (m.disposeCurrent settings inputs "subscription_updated").ensureDesiredConnection
        settings inputs

end WsUserStreamMonitor

/-- What can happen next: a call, an event of a socket, a timer, or a continuation of the loop. -/
inductive UserStreamEvent where
  | ensureConnected (auth : ApiKeyCreds) (markets : List String)
  | close
  | socketOpen (attempt : ℕ)
  | socketMessage (attempt : ℕ) (message : Option Json.Value)
  | socketError (attempt : ℕ) (message : String)
  | socketClose (attempt : ℕ) (code : ℕ) (reason : String)
  | connectTimer (attempt : ℕ)
  | readyTimer (attempt : ℕ)
  | heartbeatTimer (attempt : ℕ)
  | reconnectTimer
  | attemptAwaited
  | loopEnded

def UserStreamEvent.attempt? : UserStreamEvent → Option ℕ
  | .socketOpen id | .socketMessage id _ | .socketError id _ | .socketClose id _ _
  | .connectTimer id | .readyTimer id | .heartbeatTimer id => some id
  | .ensureConnected .. | .close | .reconnectTimer | .attemptAwaited | .loopEnded => none

/-- An event with what its turn reads from outside. -/
structure UserStreamTurn where
  event : UserStreamEvent
  inputs : TurnInputs

namespace WsUserStreamMonitor

variable (settings : UserStreamSettings) (inputs : TurnInputs) (m : WsUserStreamMonitor)

def moveSocket (id : ℕ) (f : UserStreamSocket → UserStreamSocket) : WsUserStreamMonitor :=
  m.updateAttempt id fun attempt => { attempt with socket := f attempt.socket }

/-- An event of one attempt, if the socket or a running timer can bring it about. A socket opens at
most once, gets messages after that, and closes last. -/
def attemptTurn (id : ℕ) (attempt : ConnectionAttempt) :
    UserStreamEvent → Option WsUserStreamMonitor
  | .socketOpen _ =>
    if attempt.socket.readyState = .connecting then
      some ((m.moveSocket id (·.reportOpen)).onOpen settings inputs id)
    else none
  | .socketMessage _ message =>
    if attempt.socket.readyState = .opened ∨ attempt.socket.readyState = .closing then
      some (m.onMessage settings inputs id message)
    else none
  | .socketError _ message =>
    if attempt.socket.readyState ≠ .closed then
      some ((m.moveSocket id (·.reportError)).onError settings inputs id message)
    else none
  | .socketClose _ code reason =>
    if attempt.socket.readyState ≠ .closed then
      some ((m.moveSocket id (·.reportClose)).onClose settings inputs id code reason)
    else none
  | .connectTimer _ =>
    if attempt.connectTimer then
      some ((m.updateAttempt id ({ · with connectTimer := false })).completeFailure settings inputs
        id (.other none "timed out connecting to the authenticated user stream"))
    else none
  | .readyTimer _ =>
    if attempt.readyTimer then
      some ((m.updateAttempt id ({ · with readyTimer := false })).completeSuccess inputs id)
    else none
  | .heartbeatTimer _ =>
    if attempt.heartbeatTimer then some (m.onHeartbeat settings inputs id attempt) else none
  | _ => none

/-- A turn of the monitor, if the event is possible. -/
def step (turn : UserStreamTurn) : Option WsUserStreamMonitor :=
  match turn.event with
  | .ensureConnected auth markets =>
    match m.ensureConnected settings turn.inputs auth markets with
    | .ok next => some next
    | .error _ => some m
  | .close => some (m.close settings turn.inputs)
  | .reconnectTimer =>
    if m.reconnectTimer.isSome then some (m.onReconnect settings turn.inputs) else none
  | .attemptAwaited =>
    match m.connectPromise with
    | some (.awaiting id) =>
      match (m.attempts.get? id).bind (·.outcome) with
      | some (.ok _) => some (m.continueConnecting settings turn.inputs)
      | some (.error _) => some { m with connectPromise := some .ended }
      | none => none
    | _ => none
  | .loopEnded =>
    if m.connectPromise = some .ended then some { m with connectPromise := none } else none
  | event =>
    event.attempt?.bind fun id =>
      (m.attempts.get? id).bind fun attempt => m.attemptTurn settings turn.inputs id attempt event

end WsUserStreamMonitor

end BubaPaint.UserStream
