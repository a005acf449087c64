import BubaPaint.Live.OrderSubmission

/-!
# Market discovery

Discovery polls the Gamma API for the event of a window and takes the first market of the event that
has an identifier and a token for each side. The sides are told apart by the names of the outcomes.
-/

namespace BubaPaint

open Json (Value)

def parseF64Value (value : Option Value) : Option ℚ :=
  value.bind fun value => value.asRat <|> (value.asStr.bind parseDecimal)

def entryField (market event : Value) (key : String) : Option Value :=
  market.get? key <|> event.get? key

/-- Read a string field from the market entry with event-level fallback. -/
def stringField (market event : Value) (key : String) : Option String :=
  (entryField market event key).bind Value.asStr

/-- Read a numeric field from the market entry with event-level fallback. -/
def numberField (market event : Value) (key : String) : Option ℚ :=
  parseF64Value (entryField market event key)

/-- Read one boolean field from the market entry with event-level fallback. -/
def boolField (market event : Value) (key : String) : Option Bool :=
  (entryField market event key).bind Value.asBool

/-- One nested field from the market entry with event-level fallback, kept as the document its text
is written from. -/
def jsonField (market event : Value) (key : String) : Option Value :=
  entryField market event key

section Parsing

-- The parser of the JSON library, at the type of an array of strings.
variable (fromStr : String → Option (List String))

/-- Parse a value that may be a string (an encoded array) or an actual array of strings. -/
def parseStringOrArray (value : Option Value) : List String :=
  match value with
  | none => []
  | some (.array items) => items.filterMap Value.asStr
  | some (.string text) =>
    match fromStr text with
    | some parsed => parsed
    | none => if text.isEmpty then [] else [text]
  | some _ => []

/-- Decode an optional field: an absent field and null are none. -/
def decodeOptional {α : Type} (decode : Value → Option α) : Option Value → Option (Option α)
  | none => some none
  | some .null => some none
  | some value => (decode value).map some

def decodeU32 : Value → Option ℕ
  | .number (.integer value) => if 0 ≤ value ∧ value < 2 ^ 32 then some value.toNat else none
  | _ => none

/-- Decode the four fields of a fee schedule. The last two are checked and not kept. -/
def decodeFeeSchedule (exponent rate takerOnly rebateRate : Option Value) :
    Option PolymarketFeeSchedule := do
  let exponent ← decodeOptional decodeU32 exponent
  let rate ← decodeOptional Value.asRat rate
  let _ ← decodeOptional Value.asBool takerOnly
  let _ ← decodeOptional Value.asRat rebateRate
  return { rate, exponent }

/-- Decode a fee schedule from an object, or from an array of its fields in order. -/
def parseFeeSchedule (value : Value) : Option PolymarketFeeSchedule :=
  match value with
  | .object _ =>
    decodeFeeSchedule (value.get? "exponent") (value.get? "rate") (value.get? "takerOnly")
      (value.get? "rebateRate")
  | .array [exponent, rate, takerOnly, rebateRate] =>
    decodeFeeSchedule (some exponent) (some rate) (some takerOnly) (some rebateRate)
  | _ => none

/-- Whether an outcome names the side that wins when the price rises. Only ASCII letters have the
lower-case letters of these names, so that ASCII case conversion is enough. -/
def namesUp (outcome : String) : Bool :=
  let lower := outcome.toLower
  lower == "up" || lower == "yes"

/-- Whether an outcome names the side that wins when the price falls. -/
def namesDown (outcome : String) : Bool :=
  let lower := outcome.toLower
  lower == "down" || lower == "no"

def gammaOutcomeIndices (outcomes : List String) : ℕ × ℕ :=
  match outcomes.findIdx? namesUp, outcomes.findIdx? namesDown with
  | some upIdx, some downIdx => (upIdx, downIdx)
  | _, _ => (0, 1)

def gammaTokenPair (market : Value) : Option (String × String) := do
  let outcomes := parseStringOrArray fromStr (market.get? "outcomes")
  let clobTokenIds := parseStringOrArray fromStr (market.get? "clobTokenIds")
  if outcomes.length < 2 ∨ clobTokenIds.length < 2 then none
  else
    let (upIdx, downIdx) := gammaOutcomeIndices outcomes
    let upTokenId ← clobTokenIds[upIdx]?
    let downTokenId ← clobTokenIds[downIdx]?
    return (upTokenId, downTokenId)

theorem getElem?_of_gammaTokenPair {market : Value} {upTokenId downTokenId : String}
    {upIdx downIdx : ℕ} (hpair : gammaTokenPair fromStr market = some (upTokenId, downTokenId))
    (hindices :
      gammaOutcomeIndices (parseStringOrArray fromStr (market.get? "outcomes")) =
        (upIdx, downIdx)) :
    (parseStringOrArray fromStr (market.get? "clobTokenIds"))[upIdx]? = some upTokenId ∧
      (parseStringOrArray fromStr (market.get? "clobTokenIds"))[downIdx]? = some downTokenId := by
  simp only [gammaTokenPair, hindices] at hpair
  split at hpair
  next => contradiction
  next =>
    simp only [Option.bind_eq_bind, Option.pure_def, Option.bind_eq_some_iff, Option.some.injEq,
      Prod.mk.injEq] at hpair
    obtain ⟨up, hup, down, hdown, rfl, rfl⟩ := hpair
    exact ⟨hup, hdown⟩

/-- Extract the canonical market identifier from a market entry. -/
def marketId (market : Value) : Option String :=
  let marketId := ((market.get? "id" <|> market.get? "conditionId").bind Value.asStr).getD ""
  if marketId.isEmpty then none else some marketId

/-- A window as discovery hands it on, with the metadata the decision engine does not read. -/
structure DiscoveredWindow extends MarketWindow where
  question : String
  conditionId : String
  (outcome resolutionSource : Option String := none)
  (makerBaseFee takerBaseFee rewardsMinSize rewardsMaxSpread : Option ℚ := none)
  (feeScheduleJson tokenFeeRatesJson : Option Value := none)
  acceptingOrders : Option Bool := none
  acceptingOrdersTimestamp : Option String := none
  clearBookOnStart : Option Bool := none

-- The date parser of the time library, in milliseconds since the epoch.
variable (parseFromRfc3339 : String → Option ℤ)

/-- Parse an ISO 8601 date string into milliseconds since epoch. -/
def parseEndDate (s : String) : Option ℕ :=
  -- A date before the epoch wraps around when it is cast to an unsigned number.
  let timestampMillis (text : String) : Option ℕ :=
    (parseFromRfc3339 text).map fun millis => (millis % 2 ^ 64).toNat
  if s.isEmpty then none
  else
    timestampMillis s <|>
      timestampMillis (if s.contains 'Z' || s.contains '+' then s else s ++ "Z")

/-- Return the market candidates embedded in an event payload. -/
def gammaMarketCandidates (body : Value) : List Value :=
  let markets := ((body.get? "markets").bind Value.asArray).getD []
  if markets.isEmpty then [body] else markets

/-- Parse one candidate market entry from an event payload. -/
def parseGammaMarketCandidate (event market : Value) : Option DiscoveredWindow := do
  let marketId ← marketId market
  let conditionId :=
    ((market.get? "conditionId" <|> market.get? "condition_id").bind Value.asStr).getD ""
  let slug :=
    ((event.get? "slug").bind Value.asStr <|> (market.get? "slug").bind Value.asStr).getD ""
  let (upTokenId, downTokenId) ← gammaTokenPair fromStr market
  let endDate :=
    ((market.get? "endDate" <|> market.get? "end_date" <|> event.get? "endDate").bind
      Value.asStr).getD ""
  let endTime := (parseEndDate parseFromRfc3339 endDate).getD 0
  let feeScheduleJson := jsonField market event "feeSchedule"
  return {
    marketId
    question := ((market.get? "question").bind Value.asStr).getD ""
    upTokenId
    downTokenId
    conditionId
    startTime := endTime - 300000
    endTime
    slug
    outcome := none
    resolutionSource := stringField market event "resolutionSource"
    feeProfile := some "crypto"
    orderMinSize := numberField market event "orderMinSize"
    orderPriceMinTickSize := numberField market event "orderPriceMinTickSize"
    makerBaseFee := numberField market event "makerBaseFee"
    takerBaseFee := numberField market event "takerBaseFee"
    rewardsMinSize := numberField market event "rewardsMinSize"
    rewardsMaxSpread := numberField market event "rewardsMaxSpread"
    feesEnabled := boolField market event "feesEnabled"
    feeSchedule := feeScheduleJson.bind parseFeeSchedule
    feeScheduleJson
    tokenFeeRatesJson := none
    acceptingOrders := boolField market event "acceptingOrders"
    acceptingOrdersTimestamp := stringField market event "acceptingOrdersTimestamp"
    clearBookOnStart := boolField market event "clearBookOnStart" }

variable {market body : Value} {window : DiscoveredWindow} {upIdx downIdx : ℕ}

theorem gammaTokenPair_of_parsed {event : Value}
    (h : parseGammaMarketCandidate fromStr parseFromRfc3339 event market = some window) :
    gammaTokenPair fromStr market = some (window.upTokenId, window.downTokenId) := by
  unfold parseGammaMarketCandidate at h
  cases hpair : gammaTokenPair fromStr market with
  | none => simp [hpair] at h
  | some pair =>
    cases hid : marketId market with
    | none => simp [hid] at h
    | some id =>
      simp only [hpair, hid, Option.bind_eq_bind, Option.bind_some, Option.pure_def,
        Option.some.injEq] at h
      subst h
      rfl

def parseGammaEventResponse (body : Value) : Option DiscoveredWindow :=
  if (body.get? "markets").isNone ∧ (body.get? "id").isNone then none
  else
    (gammaMarketCandidates body).findSome? (parseGammaMarketCandidate fromStr parseFromRfc3339 body)

/-- A window was taken from one market of a body: no earlier candidate parses, and its tokens are
those of the outcomes at the given indices. -/
structure TakenFrom (body : Value) (window : DiscoveredWindow) (market : Value)
    (upIdx downIdx : ℕ) :
    Prop where
  returned : parseGammaEventResponse fromStr parseFromRfc3339 body = some window
  first : (gammaMarketCandidates body).find?
    (fun candidate => (parseGammaMarketCandidate fromStr parseFromRfc3339 body candidate).isSome) =
      some market
  parsed : parseGammaMarketCandidate fromStr parseFromRfc3339 body market = some window
  indices : gammaOutcomeIndices (parseStringOrArray fromStr (market.get? "outcomes")) =
    (upIdx, downIdx)

variable {fromStr parseFromRfc3339}

/-- Every window is taken from one market of the event. -/
theorem exists_takenFrom (h : parseGammaEventResponse fromStr parseFromRfc3339 body = some window) :
    ∃ market upIdx downIdx,
      TakenFrom fromStr parseFromRfc3339 body window market upIdx downIdx := by
  have hfound := h
  unfold parseGammaEventResponse at hfound
  split at hfound
  next => contradiction
  next =>
    obtain ⟨before, market, after, hsplit, hparsed, hbefore⟩ :=
      List.findSome?_eq_some_iff.mp hfound
    have hfirst : (gammaMarketCandidates body).find? (fun candidate =>
        (parseGammaMarketCandidate fromStr parseFromRfc3339 body candidate).isSome) =
        some market := by
      apply List.find?_eq_some_iff_append.mpr
      refine ⟨by simp [hparsed], before, after, hsplit, ?_⟩
      intro candidate hmem
      simp [hbefore candidate hmem]
    exact ⟨market, _, _, h, hfirst, hparsed, rfl⟩

theorem TakenFrom.unique {market' : Value} {window' : DiscoveredWindow} {upIdx' downIdx' : ℕ}
    (h : TakenFrom fromStr parseFromRfc3339 body window market upIdx downIdx)
    (h' : TakenFrom fromStr parseFromRfc3339 body window' market' upIdx' downIdx') :
    market = market' ∧ upIdx = upIdx' ∧ downIdx = downIdx' := by
  have hmarket : market = market' := by
    have heq := h.first.symm.trans h'.first
    simpa using heq
  subst hmarket
  have hindices := h.indices.symm.trans h'.indices
  exact ⟨rfl, Prod.mk.injEq .. ▸ hindices⟩

theorem TakenFrom.tokens (h : TakenFrom fromStr parseFromRfc3339 body window market upIdx downIdx) :
    (parseStringOrArray fromStr (market.get? "clobTokenIds"))[upIdx]? = some window.upTokenId ∧
      (parseStringOrArray fromStr (market.get? "clobTokenIds"))[downIdx]? =
        some window.downTokenId := by
  have hpair := gammaTokenPair_of_parsed fromStr parseFromRfc3339 h.parsed
  exact getElem?_of_gammaTokenPair fromStr hpair h.indices

end Parsing

end BubaPaint
