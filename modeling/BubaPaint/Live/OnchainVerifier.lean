import BubaPaint.Library.FloatSums
import BubaPaint.Library.TableSums
import BubaPaint.Live.OrderSubmission

/-!
# The on-chain verifier

A detached task follows every filled order. After a grace period it sums the fills of the token up
to the order, polls the chain for the balance of the token, and marks the order confirmed as soon as
a balance covers the sum. When the reads run out it raises a critical event and marks the order
failed.
-/

namespace BubaPaint

open Effects

namespace Database

/-- Whether an order row records a fill of one session on one token. -/
def isFillOn (sessionId : ℕ) (tokenId : String) (row : LiveOrder) : Bool :=
  row.sessionId == sessionId && row.tokenId == some tokenId && isFilled row

/-- The accepted size of a row, a double. -/
def filledSize (row : LiveOrder) : ℚ :=
  row.acceptedSize.getD 0

/-- Whether an entry stands at or before the order with the given time and identifier. -/
def upTo (createdAtMs liveOrderId : ℕ) (entry : ℕ × LiveOrder) : Bool :=
  decide (entry.2.createdAtMs < createdAtMs) ||
    (entry.2.createdAtMs == createdAtMs && decide (entry.1 ≤ liveOrderId))

/-- Whether an entry counts for the sum up to an order. None does when the order is missing, as no
row compares with its time. -/
def countsUpToOrder (db : Database) (sessionId : ℕ) (tokenId : String) (liveOrderId : ℕ)
    (entry : ℕ × LiveOrder) : Bool :=
  isFillOn sessionId tokenId entry.2 &&
    (db.liveOrders.get? liveOrderId).any fun order => upTo order.createdAtMs liveOrderId entry

/-- Sum the accepted size of filled orders on one token up to and including one order, with the
sum of the database. -/
def matchedSizeForTokenUpToOrder (db : Database) (acc : FloatSum) (sessionId : ℕ)
    (tokenId : String) (liveOrderId : ℕ) : ℚ :=
  acc.sum (db.liveOrders.collect (db.countsUpToOrder sessionId tokenId liveOrderId) filledSize)

end Database

/-- Immutable inputs for one detached post-fill on-chain verification. -/
structure OnchainFillVerification where
  sessionId : ℕ
  tokenId : String
  liveOrderId : ℕ
  grace : ℕ
  interval : ℕ
  attempts : ℕ
  acceptedSize : ℚ

/-- Why an on-chain read does not confirm a fill. -/
inductive OnchainCheck where
  | short (balanceRaw : ℕ)
  | unconfirmed (reason : String)

/-- One on-chain position reported by the sidecar. -/
structure OnchainPositionResponse where
  tokenId : String
  account : String
  balanceRaw : String
  collateralDecimals : ℕ

/-- The largest 64-bit number as a float, which rounds it up. -/
def u64MaxAsF64 : ℤ :=
  2 ^ 64

/-- Convert one filled share count into its 6-decimal collateral-scaled raw amount: the product is
rounded to a double, and the double to an integer. -/
def onchainExpectedRaw (acceptedSize : ℚ) : Option ℕ :=
  if acceptedSize ≤ 0 then
    none
  else
    let raw := round (Double.roundDouble (acceptedSize * 1000000))
    if raw < 1 ∨ raw > u64MaxAsF64 then none else some raw.toNat

def isWhitespace (c : Char) : Bool :=
  let n := c.toNat
  (9 ≤ n && n ≤ 13) || n == 0x20 || n == 0x85 || n == 0xa0 || n == 0x1680 ||
    (0x2000 ≤ n && n ≤ 0x200a) || n == 0x2028 || n == 0x2029 || n == 0x202f || n == 0x205f ||
    n == 0x3000

def parseU128 (text : List Char) : Option ℕ :=
  let digits :=
    match text with
    | '+' :: rest => rest
    | text => text
  if digits.isEmpty || !digits.all Char.isDigit then
    none
  else
    some (digitsValue digits) |>.filter fun value => decide (value < 2 ^ 128)

/-- Parse one decimal on-chain raw-balance string into an unsigned integer. -/
def parseOnchainBalanceRaw (balanceRaw : String) : Option ℕ :=
  parseU128 ((balanceRaw.toList.dropWhile isWhitespace).reverse.dropWhile isWhitespace).reverse

/-- Classify one on-chain read against the expected filled raw amount. -/
def classifyOnchainRead (response : OnchainPositionResponse) (expectedRaw : ℕ) :
    Except OnchainCheck Unit :=
  if response.collateralDecimals ≠ 6 then
    .error (.unconfirmed
      s!"unexpected collateral decimals {response.collateralDecimals} (expected 6)")
  else
    match parseOnchainBalanceRaw response.balanceRaw with
    | some balanceRaw =>
      if expectedRaw ≤ balanceRaw then .ok () else .error (.short balanceRaw)
    | none => .error (.unconfirmed s!"unparseable on-chain balance '{response.balanceRaw}'")

theorem classifyOnchainRead_eq_ok_iff {response : OnchainPositionResponse} {expectedRaw : ℕ} :
    classifyOnchainRead response expectedRaw = .ok () ↔
      response.collateralDecimals = 6 ∧
        ∃ balanceRaw, parseOnchainBalanceRaw response.balanceRaw = some balanceRaw ∧
          expectedRaw ≤ balanceRaw := by
  unfold classifyOnchainRead
  by_cases hdecimals : response.collateralDecimals = 6
  · cases hparse : parseOnchainBalanceRaw response.balanceRaw with
    | none => simp [hdecimals]
    | some balanceRaw =>
      by_cases hle : expectedRaw ≤ balanceRaw
      · simp [hdecimals, hle]
      · simp [hdecimals, hle]
  · simp [hdecimals]

/-- The calls of a verifier: the pauses, the database, the chain and the clock. -/
inductive VerifierCall where
  | sleep (ms : ℕ)
  | database (call : DatabaseCall)
  | matchedSizeForTokenUpToOrder (sessionId : ℕ) (tokenId : String) (liveOrderId : ℕ)
  | onchainPosition (tokenId : String)
  | now

@[reducible]
def VerifierCall.Reply : VerifierCall → Type
  | .sleep _ => Unit
  | .database call => Except String call.Reply
  | .matchedSizeForTokenUpToOrder .. => Except String ℚ
  | .onchainPosition _ => Except String OnchainPositionResponse
  | .now => ℕ

/-- What the outside does at one call of a verifier. -/
structure OnchainAnswer where
  /-- The storage failure of a database call, if it fails. A failing call writes nothing. -/
  databaseError : Option String
  /-- How the database adds the sizes of a column. -/
  sum : FloatSum
  onchainPosition : Except String OnchainPositionResponse
  now : ℕ

def VerifierCall.respond (answer : OnchainAnswer) (db : Database) :
    (call : VerifierCall) → call.Reply × Database
  | .sleep _ => ((), db)
  | .database call => call.execute answer.databaseError db
  | .matchedSizeForTokenUpToOrder sessionId tokenId liveOrderId =>
    match answer.databaseError with
    | some error => (.error error, db)
    | none =>
      (.ok (db.matchedSizeForTokenUpToOrder answer.sum sessionId tokenId liveOrderId), db)
  | .onchainPosition _ => (answer.onchainPosition, db)
  | .now => (answer.now, db)

/-- One call with its reply. -/
abbrev VerifierExchange :=
  (call : VerifierCall) × call.Reply

abbrev Verifier :=
  Program VerifierCall VerifierCall.Reply

abbrev VerifierResult :=
  ExceptT String Verifier

namespace Verifier

abbrev call (c : VerifierCall) : Verifier c.Reply :=
  Program.call c

abbrev database (c : DatabaseCall) : VerifierResult c.Reply :=
  ExceptT.mk (call (.database c))

end Verifier

/-! ## The verifier -/

/-- Maximum attempts to persist a critical on-chain reconciliation halt event. -/
def onchainHaltPersistAttempts : ℕ :=
  5

/-- Delay between failed attempts to persist an on-chain reconciliation halt. -/
def onchainHaltPersistRetryMs : ℕ :=
  200

/-- Open the database and call one method, with a pause after each failure but the last. -/
def persistWithRetries (call : DatabaseCall) : ℕ → Verifier Unit
  | 0 => pure ()
  | left + 1 => do
      match ← (Verifier.database .openRuntime >>= fun _ => Verifier.database call).run with
      | .ok _ => pure ()
      | .error _ =>
        if 0 < left then
          Verifier.call (.sleep onchainHaltPersistRetryMs)
          persistWithRetries call left
        else
          pure ()

/-- Compute the cumulative expected raw on-chain balance for one filled order. -/
def computeOnchainExpectedRaw (verification : OnchainFillVerification) :
    Verifier (Option ℕ) := do
  match ← Verifier.call (.database .openRuntime) with
  | .error _ => return none
  | .ok _ =>
  match ← Verifier.call (.matchedSizeForTokenUpToOrder verification.sessionId verification.tokenId
      verification.liveOrderId) with
  | .error _ => return none
  | .ok cumulative => return onchainExpectedRaw cumulative

/-- Set the durable on-chain reconciliation status for one filled order with retries. -/
def markOnchainReconcileStatus (verification : OnchainFillVerification)
    (status : OnchainReconcileStatus) : Verifier Unit :=
  persistWithRetries (.setLiveOrderReconcileStatus verification.liveOrderId status)
    onchainHaltPersistAttempts

/-- The event type and the remote value of a failed verification. -/
def OnchainCheck.event : OnchainCheck → String × Option ℚ
  | .short balanceRaw => ("onchain_fill_short", some (balanceRaw / 1000000))
  | .unconfirmed _ => ("onchain_fill_unconfirmed", none)

/-- Persist a critical reconciliation event after on-chain verification fails. -/
def raiseOnchainReconciliationHalt (verification : OnchainFillVerification)
    (status : OnchainCheck) : Verifier Unit := do
  let now ← Verifier.call .now
  persistWithRetries
    (.logLiveReconciliationEvent
      { sessionId := verification.sessionId, timestampMs := now, severity := .critical,
        eventType := status.event.1, localValue := some verification.acceptedSize,
        remoteValue := status.event.2 })
    onchainHaltPersistAttempts
  markOnchainReconcileStatus verification .failed

/-- Read the balance once for each attempt, with a pause before every attempt but the first, until
one read confirms the fill. -/
def pollOnchainPosition (verification : OnchainFillVerification) (expectedRaw : ℕ) :
    List ℕ → OnchainCheck → Verifier Unit
  | [], last => raiseOnchainReconciliationHalt verification last
  | attempt :: rest, _ => do
      if 0 < attempt then
        Verifier.call (.sleep verification.interval)
      match ← Verifier.call (.onchainPosition verification.tokenId) with
      | .ok response =>
        match classifyOnchainRead response expectedRaw with
        | .ok _ => markOnchainReconcileStatus verification .confirmed
        | .error status => pollOnchainPosition verification expectedRaw rest status
      | .error error => pollOnchainPosition verification expectedRaw rest (.unconfirmed error)

/-- Run the bounded on-chain verification budget for one filled order. -/
def verifyOnchainFill (verification : OnchainFillVerification) : Verifier Unit := do
  Verifier.call (.sleep verification.grace)
  match ← computeOnchainExpectedRaw verification with
  | none =>
    raiseOnchainReconciliationHalt verification
      (.unconfirmed "could not compute cumulative expected on-chain position")
  | some expectedRaw =>
    pollOnchainPosition verification expectedRaw (List.range verification.attempts)
      (.unconfirmed "no on-chain read completed")

/-- The settings of the on-chain verification. -/
structure OnchainReconcileSettings where
  liveOnchainReconcileGraceMs : ℕ
  liveOnchainReconcileRetryIntervalMs : ℕ
  liveOnchainReconcileMaxAttempts : ℕ

/-- The verification to spawn for one filled order, if there is one. -/
def spawnOnchainFillVerification (config : Config) (settings : OnchainReconcileSettings)
    (sessionId : ℕ) (order : QueuedOrderIntent) (acceptedSize : ℚ) (liveOrderId : ℕ) :
    Option OnchainFillVerification :=
  if !config.liveOnchainReconcileEnabled then
    none
  else if acceptedSize ≤ 0 then
    none
  else
    some
      { sessionId := sessionId, tokenId := order.tokenId, liveOrderId := liveOrderId,
        grace := settings.liveOnchainReconcileGraceMs,
        interval := settings.liveOnchainReconcileRetryIntervalMs,
        attempts := max settings.liveOnchainReconcileMaxAttempts 1,
        acceptedSize := acceptedSize }

end BubaPaint
