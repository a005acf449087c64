import Mathlib.Data.List.Destutter
import BubaPaint.Live.OrderSubmission

/-!
# Arming gates

The blockers that keep a session from being armed: what the sidecar's preflight reports, the state
of the account, and the capture metadata of the run database. Internet addresses are compared as
addresses, not as texts.
-/

namespace BubaPaint

open Effects

def textContains (text part : String) : Bool :=
  text.toList.tails.any fun rest => part.toList.isPrefixOf rest

def sortedDistinct (issues : List String) : List String :=
  (issues.insertionSort fun a b => a ≤ b).destutter (· ≠ ·)

theorem mem_destutter'_ne {texts : List String} {first text : String} :
    text ∈ texts.destutter' (· ≠ ·) first ↔ text ∈ first :: texts := by
  induction texts generalizing first with
  | nil => simp
  | cons next texts ih =>
    by_cases h : first = next
    · rw [List.destutter'_cons_neg _ (by simpa using h), ih]
      simp [h]
    · rw [List.destutter'_cons_pos _ h, List.mem_cons, ih]
      simp

@[simp]
theorem mem_sortedDistinct {issues : List String} {text : String} :
    text ∈ sortedDistinct issues ↔ text ∈ issues := by
  unfold sortedDistinct
  have hsorted : text ∈ issues.insertionSort (fun a b => a ≤ b) ↔ text ∈ issues :=
    List.mem_insertionSort _
  cases hlist : issues.insertionSort fun a b => a ≤ b with
  | nil => simpa [hlist] using hsorted
  | cons first texts =>
    rw [List.destutter_cons', mem_destutter'_ne, ← hlist]
    exact hsorted

def parseU64 (text : String) : Option ℕ :=
  let digits :=
    match text.toList with
    | '+' :: rest => rest
    | digits => digits
  if digits.isEmpty || !digits.all Char.isDigit then
    none
  else
    let value := digitsValue digits
    if value ≤ u64Max then some value else none

/-! ## Internet addresses -/

/-- One internet address: four octets or eight segments. -/
inductive IpAddr where
  | v4 (octets : List ℕ)
  | v6 (segments : List ℕ)
  deriving DecidableEq

def hexValue? (c : Char) : Option ℕ :=
  if c.isDigit then some (c.toNat - '0'.toNat)
  else if 'a' ≤ c ∧ c ≤ 'f' then some (c.toNat - 'a'.toNat + 10)
  else if 'A' ≤ c ∧ c ≤ 'F' then some (c.toNat - 'A'.toNat + 10)
  else none

/-- Parse one octet: at most three digits without a leading zero. -/
def parseOctet (digits : List Char) : Option ℕ :=
  if digits.isEmpty || digits.length > 3 || !digits.all Char.isDigit then none
  else if digits.length > 1 ∧ digits.head? = some '0' then none
  else if digitsValue digits ≤ 255 then some (digitsValue digits)
  else none

def parseIpv4 (text : List Char) : Option (List ℕ) :=
  let parts := text.splitOn '.'
  if parts.length = 4 then parts.mapM parseOctet else none

def parseSegment (digits : List Char) : Option ℕ :=
  if digits.isEmpty || digits.length > 4 then none
  else (digits.mapM hexValue?).map fun values => values.foldl (fun value d => 16 * value + d) 0

/-- Parse colon-separated segments; the last one may be four octets, which stand for two. -/
def parseSegments (ipv4Allowed : Bool) (text : List Char) : Option (List ℕ) :=
  if text.isEmpty then
    some []
  else
    let parts := text.splitOn ':'
    match parts.getLast? with
    | none => some []
    | some last =>
      match if ipv4Allowed then parseIpv4 last else none with
      | some [a, b, c, d] =>
        (parts.dropLast.mapM parseSegment).map (· ++ [256 * a + b, 256 * c + d])
      | _ => parts.mapM parseSegment

def splitDoubleColon : List Char → List Char × Option (List Char)
  | ':' :: ':' :: rest => ([], some rest)
  | c :: rest =>
    let (before, after) := splitDoubleColon rest
    (c :: before, after)
  | [] => ([], none)

/-- Parse the text of eight segments, of which one run of zeros may be left out. -/
def parseIpv6 (text : List Char) : Option (List ℕ) :=
  match splitDoubleColon text with
  | (whole, none) =>
    (parseSegments true whole).filter fun segments => segments.length = 8
  | (front, some back) => do
      let head ← parseSegments false front
      let tail ← parseSegments true back
      if head.length + tail.length ≤ 7 then
        some (head ++ List.replicate (8 - head.length - tail.length) 0 ++ tail)
      else
        none

def parseIpAddr (text : String) : Option IpAddr :=
  match parseIpv4 text.toList with
  | some octets => some (.v4 octets)
  | none => (parseIpv6 text.toList).map .v6

def hexText (segment : ℕ) : String :=
  String.ofList (Nat.toDigits 16 segment)

/-- The start and the length of the first longest run of zeros, scanning from a position with the
current run and the best run so far. -/
def longestZeros (position start length bestStart bestLength : ℕ) : List ℕ → ℕ × ℕ
  | [] => (bestStart, bestLength)
  | segment :: rest =>
    if segment = 0 then
      let start := if length = 0 then position else start
      let length := length + 1
      if length > bestLength then longestZeros (position + 1) start length start length rest
      else longestZeros (position + 1) start length bestStart bestLength rest
    else
      longestZeros (position + 1) 0 0 bestStart bestLength rest

/-- The canonical text of an internet address. -/
def IpAddr.display : IpAddr → String
  | .v4 octets => ".".intercalate (octets.map toString)
  | .v6 segments =>
    match segments with
    | [0, 0, 0, 0, 0, 0xffff, high, low] =>
      "::ffff:" ++ ".".intercalate ([high / 256, high % 256, low / 256, low % 256].map toString)
    | _ =>
      let (start, length) := longestZeros 0 0 0 0 0 segments
      if length > 1 then
        ":".intercalate ((segments.take start).map hexText) ++ "::" ++
          ":".intercalate ((segments.drop (start + length)).map hexText)
      else
        ":".intercalate (segments.map hexText)

example : (parseIpAddr "2001:db8::0:1").map IpAddr.display = some "2001:db8::1" := by
  decide +kernel

/-- Return wallet signature-type arming blockers, failing closed on unknown or deposit-wallet
types. -/
def signatureTypeIssues (preflight : LivePreflightResponse) (config : Config) : List String :=
  match preflight.signatureType with
  | none => ["signature type unknown: the sidecar did not report a signature type"]
  | some reported =>
    (if reported < 0 ∨ 3 < reported then
      [s!"unsupported signature type {reported}: not a known Polymarket signature type"]
    else []) ++
    (if reported = 3 ∧
        ¬ (config.liveAllowDepositWallet ∧ config.liveExpectedSignatureType = some 3) then
      ["deposit-wallet signature type 3 is not supported for live trading; " ++
        "set LIVE_ALLOW_DEPOSIT_WALLET and LIVE_EXPECTED_SIGNATURE_TYPE=3 to override"]
    else []) ++
    match config.liveExpectedSignatureType with
    | some expected =>
      if reported ≠ expected then
        [s!"signature type mismatch: expected {expected}, reported {reported}"]
      else []
    | none => []

/-- Return egress-IP arming blockers when an expected egress IP is pinned by the operator. -/
def egressIpIssues (preflight : LivePreflightResponse) (config : Config) : List String :=
  match config.liveExpectedEgressIp with
  | none => []
  | some expectedIp =>
    match preflight.geoblockIp.bind parseIpAddr with
    | some observed =>
      if parseIpAddr expectedIp = some observed then []
      else [s!"egress ip mismatch: expected {expectedIp}, observed {observed.display}"]
    | none => [s!"egress ip could not be confirmed against expected {expectedIp}"]

/-- Return all current arming blockers from venue and local safety state. -/
def liveGateIssues (preflight : LivePreflightResponse) (account : LiveAccountState)
    (activity : LiveActivityResponse) (config : Config) : List String :=
  let issue (condition : Bool) (text : String) : List String := if condition then [text] else []
  sortedDistinct
    (issue (!preflight.ok) "preflight failed" ++
      issue (preflight.geoblockStatus == .failed) "geoblock check failed" ++
      signatureTypeIssues preflight config ++
      egressIpIssues preflight config ++
      issue (preflight.authStatus == .failed) "auth bootstrap failed" ++
      issue (preflight.clockStatus == .failed) "clock drift check failed" ++
      issue (preflight.userStreamStatus == .failed || activity.userStreamStatus == .failed)
        "user stream is unhealthy" ++
      issue (decide (account.cashAvailable + cashChangeEpsilonUsd < config.liveMinRequiredCashUsd))
        "cash below live minimum" ++
      issue account.allowanceAvailable.isNone "allowance unavailable" ++
      issue (config.feedEventStorageProfile == .compact) "feed capture is not replay-grade" ++
      preflight.errors)

def captureHealthIssues (health : String) : List String :=
  match health with
  | "sweep_grade" => []
  | "observing" =>
    ["live trading requires every replay-grade feed class in recent capture metadata"]
  | "empty" => ["live trading requires persisted replay-grade feed rows before arming"]
  | "degraded" =>
    ["live trading capture writer is degraded; reconcile persistence before arming"]
  | other => [s!"live trading capture health is not ready: {other}"]

/-- Return live arming issues from cheap runtime capture metadata only. -/
def runtimeCaptureIssuesForLive (config : Config) (nowMs : ℕ) : LiveResult (List String) :=
  if config.feedEventStorageProfile = .compact then
    return [("live trading requires replay-grade feed capture; " ++
      "compact capture is descriptive-only")]
  else do
    match ← Live.database (.getRunMetadata "runtime_capture_health") with
    | none =>
      return ["live trading requires observed replay-grade capture health before arming"]
    | some health =>
      let missing ← Live.database (.getRunMetadata "replay_quality_missing_required_classes")
      let missingIssues :=
        match missing with
        | some missing =>
          if !isBlank missing && health == "observing" then
            [s!"missing replay-grade feed classes: {missing}"]
          else []
        | none => []
      let recorded ← Live.database (.getRunMetadata "runtime_capture_recorded_at_ms")
      let staleIssues :=
        match recorded.bind parseU64 with
        | some recordedAtMs =>
          if min (recordedAtMs + max config.feedEventWriterMaxLagMs 60000) u64Max < nowMs then
            ["live trading capture health metadata is stale"]
          else []
        | none => []
      return captureHealthIssues health ++ missingIssues ++ staleIssues

end BubaPaint
