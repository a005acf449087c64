import BubaPaint.Library.Replies
import BubaPaint.Live.OrderSubmission
import Mathlib.Data.List.AList

/-!
# Order submission in the sidecar

The sidecar answers an order intent once: it validates the request, authenticates, reads the active
markets and the account, posts one market order to the venue and stores its response under the
client order id. A later intent with the same id gets the stored response back.
-/

namespace BubaPaint

open Effects

/-- The characters that trimming removes. -/
def isSpace (c : Char) : Bool :=
  let n := c.toNat
  (9 ≤ n && n ≤ 13) || n == 0x20 || n == 0xa0 || n == 0x1680 || (0x2000 ≤ n && n ≤ 0x200a) ||
    n == 0x2028 || n == 0x2029 || n == 0x202f || n == 0x205f || n == 0x3000 || n == 0xfeff

def trim (text : String) : String :=
  String.ofList ((text.toList.dropWhile isSpace).reverse.dropWhile isSpace).reverse

def nonBlank (text : String) : Bool :=
  !(trim text).toList.isEmpty

/-- The upper case of a letter, as far as it can be one of the letters of a side or an order type:
the long s is an S. -/
def upperCase (c : Char) : Char :=
  if c = 'ſ' then 'S' else c.toUpper

def includes (text part : String) : Bool :=
  decide (part.toList <:+: text.toList)

/-- Parse the longest numeral at the start of a text. -/
def parseFloat (text : String) : Option ℚ :=
  let (negative, unsigned) := splitSign (text.toList.dropWhile isSpace)
  let (integral, rest) := unsigned.span Char.isDigit
  let (fractional, rest) :=
    match rest with
    | '.' :: rest => rest.span Char.isDigit
    | rest => ([], rest)
  if integral.isEmpty && fractional.isEmpty then
    none
  else
    let exponent : ℤ :=
      match rest with
      | [] => 0
      | c :: rest =>
        if c = 'e' ∨ c = 'E' then
          let (negativeExponent, digits) := splitSign rest
          let value : ℤ := digitsValue (digits.takeWhile Char.isDigit)
          if negativeExponent then -value else value
        else
          0
    let mantissa : ℚ := digitsValue (integral ++ fractional)
    let scale : ℤ := exponent - (fractional.length : ℤ)
    let magnitude :=
      if 0 ≤ scale then mantissa * 10 ^ scale.toNat else mantissa / 10 ^ (-scale).toNat
    some (if negative then -magnitude else magnitude)

def parseNumber : Json.Value → Option ℚ
  | .number value => some value.toRat
  | .string text => parseFloat text
  | _ => none

def collateralDecimals : ℚ :=
  1000000

def collateralUnitsToUsd (value : ℚ) : ℚ :=
  value / collateralDecimals

def mathRound (value : ℚ) : ℤ :=
  (value + 1 / 2).floor

def toFixed (value : ℚ) (decimals : ℕ) : String :=
  let units := (mathRound (|value| * 10 ^ decimals)).toNat
  let fraction := (toString (units % 10 ^ decimals)).toList
  let padded := List.replicate (decimals - fraction.length) '0' ++ fraction
  let sign := if value < 0 then "-" else ""
  s!"{sign}{units / 10 ^ decimals}.{String.ofList padded}"

/-- The stage an error of the provider belongs to. -/
inductive SidecarErrorStage where
  | authBootstrap
  | marketDiscovery
  | marketMetadata
  | balanceAllowance
  | openOrders
  | positions
  | orderSubmission
  deriving DecidableEq

def SidecarErrorStage.text : SidecarErrorStage → String
  | .authBootstrap => "auth_bootstrap"
  | .marketDiscovery => "market_discovery"
  | .marketMetadata => "market_metadata"
  | .balanceAllowance => "balance_allowance"
  | .openOrders => "open_orders"
  | .positions => "positions"
  | .orderSubmission => "order_submission"

/-- An error of one stage of the provider. -/
structure ProviderStageError where
  stage : SidecarErrorStage
  message : String

def ProviderStageError.new (stage : SidecarErrorStage) (message : String) : ProviderStageError where
  stage := stage
  message := s!"{stage.text}: {message}"

/-- What can be thrown: an error of a stage, or any other with the HTTP status it carries. -/
inductive ThrownError where
  | stage (error : ProviderStageError)
  | other (status : Option ℕ) (message : String)

def stringError : ThrownError → String
  | .stage error => error.message
  | .other status message =>
    if status = some 425 ∧ ¬ includes message "425" then
      s!"{message} (HTTP 425 matching engine restart)"
    else
      message

/-- The error of a stage: one that already belongs to a stage stays as it is. -/
def stageError (stage : SidecarErrorStage) : ThrownError → ProviderStageError
  | .stage error => error
  | .other status message => .new stage (stringError (.other status message))

/-- Whether the venue's matching engine restarts. A stage error carries no status of its own. -/
def isVenueRestart (error : ProviderStageError) : Bool :=
  includes (stringError (.stage error)) "HTTP 425"

/-- How a promise stands when its time is up. -/
inductive PromiseOutcome (α : Type) where
  | resolved (value : α)
  | rejected (error : ThrownError)
  | pending

/-- Await a promise for at most `timeoutMs`; the call behind it goes on. -/
def withTimeout {α : Type} (promise : PromiseOutcome α) (timeoutMs : ℕ) (stage : SidecarErrorStage)
    (action : String) : Except ThrownError α :=
  match promise with
  | .resolved value => .ok value
  | .rejected error => .error (.stage (stageError stage error))
  | .pending =>
    .error (.stage (stageError stage (.stage (.new stage
      s!"{action} timed out after {timeoutMs}ms"))))

/-- Configuration of the sidecar, as far as order submission reads it. -/
structure SidecarConfig where
  maxOrderUsd : ℚ
  sdkTimeoutMs : ℕ

inductive Side where
  | buy
  | sell
  deriving DecidableEq

def Side.text : Side → String
  | .buy => "BUY"
  | .sell => "SELL"

inductive OrderType where
  | fok
  | fak
  deriving DecidableEq

def OrderType.text : OrderType → String
  | .fok => "FOK"
  | .fak => "FAK"

def normalizeWord (value : String) : String :=
  String.ofList ((trim value).toList.map upperCase)

def orderTypeFromRequest (value : String) : Option OrderType :=
  let normalized := normalizeWord value
  if normalized = OrderType.fok.text then some .fok
  else if normalized = OrderType.fak.text then some .fak
  else none

def sideFromRequest (value : String) : Option Side :=
  let normalized := normalizeWord value
  if normalized = Side.buy.text then some .buy
  else if normalized = Side.sell.text then some .sell
  else none

/-- Where the metadata of a market come from. -/
inductive MetadataSource where
  | gamma
  | clobV2
  deriving DecidableEq

/-- One active market. -/
structure ActiveMarket where
  conditionId : String
  minOrderSize : Option ℚ
  tickSize : Option ℚ
  acceptingOrders : Bool
  tokens : List String
  negRisk : Option Bool
  metadataSource : MetadataSource
  metadataError : Option String
  deriving DecidableEq

/-- The authenticated session with the venue. -/
structure AuthState where
  walletAddress : Option String

/-- One position of the wallet. -/
structure PositionResponse where
  asset : Option String
  size : Option Json.Value

/-- The tick sizes the venue knows. -/
inductive TickSize where
  | tenth
  | hundredth
  | thousandth
  | tenThousandth
  deriving DecidableEq

/-- A market order for the venue. -/
structure UserMarketOrder where
  tokenId : String
  side : Side
  amount : ℚ
  price : ℚ
  orderType : OrderType

/-- The venue's answer to an order, with the fields it gives the expected type to. -/
structure OrderResponse where
  success : Option Bool
  errorMsg : Option String
  orderId : Option String
  status : Option String
  takingAmount : Option Json.Value
  makingAmount : Option Json.Value

/-- The steps that prepare an order. -/
inductive PreparationStep where
  | getAuthState
  | discoverActiveMarkets
  | enrichActiveMarkets (markets : List ActiveMarket)
  | observeAccountState (authState : AuthState) (markets : List ActiveMarket)
  | fetchPositions (wallet : String)

abbrev PreparationStep.Value : PreparationStep → Type
  | .getAuthState => AuthState
  | .discoverActiveMarkets | .enrichActiveMarkets _ => List ActiveMarket
  | .observeAccountState .. => LiveAccountState
  | .fetchPositions _ => List PositionResponse

/-- What the provider awaits. -/
inductive SidecarCall where
  | prepare (step : PreparationStep)
  | createAndPostMarketOrder (order : UserMarketOrder) (tickSize : TickSize) (negRisk : Bool)

/-- What an await can come to. The venue may answer without a response. -/
abbrev SidecarCall.Reply : SidecarCall → Type
  | .prepare step => Except ThrownError step.Value
  | .createAndPostMarketOrder .. => PromiseOutcome (Option OrderResponse)

/-- Programs of the provider. -/
abbrev Sidecar : Type → Type :=
  Program SidecarCall SidecarCall.Reply

/-- Programs of the provider that can throw. -/
abbrev SidecarResult : Type → Type :=
  ExceptT ThrownError Sidecar

def Sidecar.await (step : PreparationStep) : SidecarResult step.Value :=
  ExceptT.mk (Program.call (SidecarCall.prepare step))

def isPositiveFinite (value : ℚ) : Bool :=
  decide (0 < value)

def isTickAligned (price tickSize : ℚ) : Bool :=
  if tickSize ≤ 0 then false
  else
    let units := mathRound (price / tickSize)
    decide (|price - units * tickSize| < 1 / 1000000000)

/-- The venue's name for a tick size, rounded to four decimals. -/
def clobTickSize (tickSize : ℚ) : Except ThrownError TickSize :=
  let units := mathRound (tickSize * 10000)
  if units = 1000 then .ok .tenth
  else if units = 100 then .ok .hundredth
  else if units = 10 then .ok .thousandth
  else if units = 1 then .ok .tenThousandth
  else .error (.stage (.new .orderSubmission s!"Unsupported CLOB V2 tick size {tickSize}."))

def rejectedOrder (request : LiveOrderIntentRequest) (status reason : String) :
    LiveOrderIntentResponse where
  ok := false
  venueOrderId := none
  clientOrderId := request.clientOrderId
  status := status
  statusReason := some reason
  acceptedSize := none
  detailsJson := some (.object [("provider", .string "polymarket"),
    ("client_order_id", .string request.clientOrderId),
    ("condition_id", .string request.marketId), ("token_id", .string request.tokenId),
    ("reason", .string reason)])

/-- The market an order is for, or why it cannot take the order. -/
def validateOrderMarket (request : LiveOrderIntentRequest) (market : Option ActiveMarket)
    (orderAmount : ℚ) : Except String ActiveMarket := do
  let some market := market
    | throw "Order market was not found in current active BTC 5-minute discovery."
  if !market.acceptingOrders then
    throw "Order market is not accepting orders."
  if market.metadataSource ≠ .clobV2 ∨ market.metadataError.any fun error => !error.isEmpty then
    throw "CLOB V2 market metadata is unavailable."
  let some tickSize := market.tickSize.filter isPositiveFinite
    | throw "CLOB V2 market tick size is unavailable."
  if !isTickAligned request.limitPrice tickSize then
    throw s!"limit_price is not aligned to tick size {tickSize}."
  let some minOrderSize := market.minOrderSize.filter isPositiveFinite
    | throw "CLOB V2 market min order size is unavailable."
  if orderAmount < minOrderSize then
    throw s!"Order amount {orderAmount} is below market min size {minOrderSize}."
  if !market.tokens.isEmpty ∧ request.tokenId ∉ market.tokens then
    throw "Order token_id is not one of the active market tokens."
  return market

/-- Why the account cannot pay for an order, if it cannot. -/
def validateOrderAccount (authState : AuthState) (request : LiveOrderIntentRequest) (side : Side)
    (orderAmount : ℚ) (account : LiveAccountState) : SidecarResult (Option String) := do
  match side with
  | .buy =>
    if account.cashAvailable < orderAmount then
      return some (s!"Available pUSD cash {toFixed account.cashAvailable 2} is below order " ++
        s!"amount {toFixed orderAmount 2}.")
    let some allowanceAvailable := account.allowanceAvailable
      | return some "Allowance state is unavailable."
    if allowanceAvailable < orderAmount then
      return some (s!"Available pUSD allowance {toFixed allowanceAvailable 2} is below order " ++
        s!"amount {toFixed orderAmount 2}.")
    return none
  | .sell =>
    let some wallet := authState.walletAddress.filter fun wallet => !wallet.isEmpty
      | return some "Wallet address is unavailable for SELL inventory validation."
    let positions : List PositionResponse ← Sidecar.await (.fetchPositions wallet)
    let tokenPosition := positions.find? fun position => position.asset == some request.tokenId
    let tokenSize := ((tokenPosition.bind (·.size)).bind parseNumber).getD 0
    if tokenSize < orderAmount then
      return some (s!"Token inventory {toFixed tokenSize 4} is below SELL size " ++
        s!"{toFixed orderAmount 4}.")
    return none

/-! ## Submission -/

def normalizeAcceptedSize (side : Side) (response : OrderResponse) : Option ℚ :=
  let raw :=
    match side with
    | .buy => response.takingAmount.bind parseNumber
    | .sell => response.makingAmount.bind parseNumber
  raw.map collateralUnitsToUsd

def normalizeOrderStatus (response : OrderResponse) : String :=
  match response.status.filter nonBlank with
  | some status => status
  | none => if response.success = some true then "submitted" else "rejected"

def field (name : String) (value : Option Json.Value) : List (String × Json.Value) :=
  (value.map fun value => (name, value)).toList

def redactOrderResponse (response : OrderResponse) : Json.Value :=
  .object (field "success" (response.success.map .bool) ++
    field "errorMsg" (response.errorMsg.map .string) ++
    field "orderID" (response.orderId.map .string) ++
    field "status" (response.status.map .string) ++
    field "takingAmount" response.takingAmount ++ field "makingAmount" response.makingAmount)

/-- The response to an order the venue has answered. -/
def submittedOrder (request : LiveOrderIntentRequest) (side : Side) (orderType : OrderType)
    (orderAmount : ℚ) (response : OrderResponse) : LiveOrderIntentResponse where
  ok := response.success == some true
  venueOrderId := response.orderId.filter fun orderId => !orderId.isEmpty
  clientOrderId := request.clientOrderId
  status := normalizeOrderStatus response
  statusReason :=
    if response.success = some true then none
    else some ((response.errorMsg.filter fun message => !message.isEmpty).getD
      "CLOB rejected order.")
  acceptedSize := normalizeAcceptedSize side response
  detailsJson := some (.object [("provider", .string "polymarket"),
    ("clob_contract_version", .string "v2"), ("collateral_token", .string "pUSD"),
    ("client_order_id", .string request.clientOrderId),
    ("condition_id", .string request.marketId), ("token_id", .string request.tokenId),
    ("side", .string side.text), ("order_type", .string orderType.text),
    ("amount", .number (.float orderAmount)),
    ("amount_semantics", .string (if side = .buy then "usd" else "shares")),
    ("limit_price", .number (.float request.limitPrice)),
    ("raw_response", redactOrderResponse response)])

def failedOrder (request : LiveOrderIntentRequest) (failure : ProviderStageError) :
    LiveOrderIntentResponse where
  ok := false
  venueOrderId := none
  clientOrderId := request.clientOrderId
  status := if isVenueRestart failure then "venue_restart" else "unknown_submission"
  statusReason := some failure.message
  acceptedSize := none
  detailsJson := some (.object [("provider", .string "polymarket"),
    ("client_order_id", .string request.clientOrderId),
    ("condition_id", .string request.marketId), ("token_id", .string request.tokenId),
    ("error", .string failure.message)])

/-- The response to an intent whose client order id has been used before. -/
def duplicateOrder (prior : LiveOrderIntentResponse) : LiveOrderIntentResponse :=
  { prior with
    statusReason := some (prior.statusReason.getD "Duplicate client order id.")
    detailsJson := some (.object [("provider", .string "polymarket"),
      ("duplicate_client_order_id", .bool true),
      ("original", prior.detailsJson.getD (.object []))]) }

/-- What a submission ends with: its response, and whether it is stored under the client order
id. -/
structure SubmitResult where
  response : LiveOrderIntentResponse
  stored : Bool

/-- Authenticate, read the markets and the account, and check the order against them: the market
that takes the order, or the response that rejects it. -/
def prepareOrder (request : LiveOrderIntentRequest) (side : Side) (orderAmount : ℚ) :
    SidecarResult (Except LiveOrderIntentResponse ActiveMarket) := do
  let authState : AuthState ← Sidecar.await .getAuthState
  let discovered : List ActiveMarket ← Sidecar.await .discoverActiveMarkets
  let markets : List ActiveMarket ← Sidecar.await (.enrichActiveMarkets discovered)
  let market := markets.find? fun candidate => candidate.conditionId == request.marketId
  match validateOrderMarket request market orderAmount with
  | .error failure => return .error (rejectedOrder request "validation_failed" failure)
  | .ok orderMarket =>
    let account : LiveAccountState ← Sidecar.await (.observeAccountState authState markets)
    match ← validateOrderAccount authState request side orderAmount account with
    | some failure => return .error (rejectedOrder request "account_unavailable" failure)
    | none => return .ok orderMarket

def orderTickSize (market : ActiveMarket) : Except ThrownError TickSize :=
  match market.tickSize with
  | some tickSize => clobTickSize tickSize
  | none => .error (.other none "Cannot read properties of null (reading 'toFixed')")

def runClobCall {α : Type} (config : SidecarConfig) (stage : SidecarErrorStage)
    (promise : PromiseOutcome α) : Except ThrownError α :=
  match withTimeout promise config.sdkTimeoutMs stage stage.text with
  | .ok value => .ok value
  | .error error => .error (.stage (stageError stage error))

/-- What the venue's answer to an order comes to. -/
def postOutcome (config : SidecarConfig) (request : LiveOrderIntentRequest) (side : Side)
    (orderType : OrderType) (orderAmount : ℚ) (promise : PromiseOutcome (Option OrderResponse)) :
    Except ThrownError LiveOrderIntentResponse := do
  match ← runClobCall config .orderSubmission promise with
  | some response => return submittedOrder request side orderType orderAmount response
  | none =>
    let amount := if side = .buy then "takingAmount" else "makingAmount"
    throw (.other none s!"Cannot read properties of null (reading '{amount}')")

def postCall (request : LiveOrderIntentRequest) (side : Side) (orderType : OrderType)
    (orderAmount : ℚ) (market : ActiveMarket) (tickSize : TickSize) : SidecarCall :=
  .createAndPostMarketOrder
    { tokenId := request.tokenId, side := side, amount := orderAmount,
      price := request.limitPrice, orderType := orderType }
    tickSize (market.negRisk == some true)

/-- Post the order. Its arguments are evaluated inside the venue call, so an unknown tick size fails
the call before the order is posted. -/
def postOrder (config : SidecarConfig) (request : LiveOrderIntentRequest) (side : Side)
    (orderType : OrderType) (orderAmount : ℚ) (market : ActiveMarket) :
    SidecarResult LiveOrderIntentResponse :=
  match orderTickSize market with
  | .error error => throw (.stage (stageError .orderSubmission error))
  | .ok tickSize =>
    ExceptT.mk do
      let promise ← Program.call (postCall request side orderType orderAmount market tickSize)
      return postOutcome config request side orderType orderAmount promise

/-- Prepare and post a valid order. A rejection is not stored. -/
def attemptOrder (config : SidecarConfig) (request : LiveOrderIntentRequest) (side : Side)
    (orderType : OrderType) (orderAmount : ℚ) : SidecarResult SubmitResult := do
  match ← prepareOrder request side orderAmount with
  | .error rejection => return { response := rejection, stored := false }
  | .ok market =>
    let response ← postOrder config request side orderType orderAmount market
    return { response := response, stored := true }

/-- What a submission ends with: whatever was thrown is one failure, which is stored. -/
def concludeOrder (request : LiveOrderIntentRequest) :
    Except ThrownError SubmitResult → SubmitResult
  | .ok result => result
  | .error error =>
    { response := failedOrder request (stageError .orderSubmission error), stored := true }

def submitValidOrder (config : SidecarConfig) (request : LiveOrderIntentRequest) (side : Side)
    (orderType : OrderType) (orderAmount : ℚ) : Sidecar SubmitResult := do
  let result ← (attemptOrder config request side orderType orderAmount).run
  return concludeOrder request result

/-- The side, type and amount of an order, or why it is not valid. -/
def validateRequest (config : SidecarConfig) (request : LiveOrderIntentRequest) :
    Except String (Side × OrderType × ℚ) := do
  let (some orderType, some side) :=
      (orderTypeFromRequest request.orderType, sideFromRequest request.side)
    | throw "Only FOK/FAK BUY/SELL orders are supported."
  if !isPositiveFinite request.limitPrice ∨ 1 ≤ request.limitPrice then
    throw "limit_price must be between 0 and 1."
  let amount := if side = .buy then request.amountUsd else some request.size
  let some orderAmount := amount.filter isPositiveFinite
    | throw (if side = .buy then "BUY market orders require positive amount_usd."
        else "SELL market orders require positive size.")
  if side = .buy ∧ 0 < config.maxOrderUsd ∧ config.maxOrderUsd < orderAmount then
    throw s!"BUY amount_usd {orderAmount} exceeds the sidecar order cap {config.maxOrderUsd}."
  return (side, orderType, orderAmount)

/-- Submit one order intent, with the responses stored so far. -/
def submitOrderIntent (config : SidecarConfig)
    (submittedOrderResponses : AList fun _ : String => LiveOrderIntentResponse)
    (request : LiveOrderIntentRequest) : Sidecar SubmitResult :=
  match submittedOrderResponses.lookup request.clientOrderId with
  | some prior => return { response := duplicateOrder prior, stored := false }
  | none =>
    match validateRequest config request with
    | .error reason =>
      return { response := rejectedOrder request "validation_failed" reason, stored := false }
    | .ok (side, orderType, orderAmount) =>
      submitValidOrder config request side orderType orderAmount

end BubaPaint
