import BubaPaint.Decision.Reserves
import Mathlib.Data.Rat.Floor

/-!
# The bankroll

The bankroll sizes trades, reserves the capital of queued orders and books the results of settled
trades. Amounts are exact rationals; log lines are left out.
-/

namespace BubaPaint

/-- Rolling per-strategy win/loss counts used for Kelly sizing. -/
structure StrategyRecord where
  wins : ℕ
  losses : ℕ
  deriving DecidableEq

/-- One recent trade result kept for rolling strategy attribution. -/
structure TradeResultRecord where
  strategy : String
  won : Bool
  deriving DecidableEq

/-- The bankroll of one run. A strategy without an entry has no results. -/
structure BankrollManager extends Reserves where
  startingBalance : ℚ
  currentBalance : ℚ
  highWaterMark : ℚ
  peakDrawdownPct : ℚ
  totalWins : ℕ
  totalLosses : ℕ
  totalTrades : ℕ
  peakDdPauseUntil : ℕ
  ddPauseArmed : Bool
  totalFees : ℚ
  strategyStats : String → StrategyRecord
  recentResults : List TradeResultRecord
  kellyRollingWindow : ℕ

/-- An unresolved trade whose cost is reserved at startup. -/
structure UnresolvedTradeExposure where
  tradeId : ℤ
  marketId : String
  strategy : String
  entryPrice : ℚ
  size : ℚ
  marketEndTime : ℕ
  deriving DecidableEq

/-- Structured reasons why a spread bundle is not queueable before submission. -/
inductive SpreadAffordabilityFailureReason where
  | spreadBudgetTooSmall
  | belowMarketMinSizeOnSubmit
  deriving DecidableEq

/-- Result of a pure spread-affordability check against the current bankroll state. -/
structure SpreadAffordabilityCheck where
  queueable : Bool
  availableSpreadBudget : ℚ
  requiredPairUnits : ℚ
  requiredPairNotional : ℚ
  failureReason : Option SpreadAffordabilityFailureReason
  deriving DecidableEq

/-- Return the spread position-fraction cap, falling back to the global control row. -/
def spreadPositionFraction (config : Config) : ℚ :=
  config.spreadCaptureMaxPositionFraction.getD config.maxPositionFraction

/-- Return the explicit family sleeve fraction, if one has been configured. -/
def explicitFamilySleeveFraction (family : StrategyFamily) (config : Config) : Option ℚ :=
  match family with
  | .latencyArb => config.latencyArbMaxPositionFraction
  | .spreadCapture => config.spreadCaptureMaxPositionFraction
  | .calmPersistence => config.calmPersistenceMaxPositionFraction

/-- Return the per-trade position-fraction target for the provided strategy family. -/
def positionFractionTarget (family : StrategyFamily) (config : Config) : ℚ :=
  match family with
  | .latencyArb => config.latencyArbMaxPositionFraction.getD config.maxPositionFraction
  | .spreadCapture => spreadPositionFraction config
  | .calmPersistence => config.calmPersistenceMaxPositionFraction.getD config.maxPositionFraction

/-- The least of an amount and an upper bound, if there is one. -/
def capAt (amount : ℚ) : Option ℚ → ℚ
  | some bound => min amount bound
  | none => amount

namespace BankrollManager

/-- Construct a bankroll without reading or writing storage. -/
def newInMemory (startingBalance currentBalance : ℚ) (config : Config) : BankrollManager where
  toReserves := .empty
  startingBalance := startingBalance
  currentBalance := currentBalance
  highWaterMark := max startingBalance currentBalance
  peakDrawdownPct := 0
  totalWins := 0
  totalLosses := 0
  totalTrades := 0
  peakDdPauseUntil := 0
  ddPauseArmed := true
  totalFees := 0
  strategyStats := fun _ => { wins := 0, losses := 0 }
  recentResults := []
  kellyRollingWindow := config.kellyRollingWindow

/-- Apply one unresolved trade exposure to the in-memory reserve buckets. -/
def hydrateTradeReserve (bankroll : BankrollManager) (exposure : UnresolvedTradeExposure)
    (nowMs : ℕ) : BankrollManager :=
  let family := familyForStrategy exposure.strategy
  let amount := exposure.entryPrice * exposure.size
  if exposure.marketEndTime ≤ nowMs then
    { bankroll with toReserves := bankroll.toReserves.addPending family amount }
  else
    { bankroll with toReserves := bankroll.toReserves.addReserved family amount }

/-- Hydrate reserve buckets from unresolved trade exposures loaded outside the hot path. -/
def hydrateUnresolvedExposureRows (bankroll : BankrollManager)
    (exposures : List UnresolvedTradeExposure) (nowMs : ℕ) : BankrollManager :=
  exposures.foldl (fun bankroll exposure => bankroll.hydrateTradeReserve exposure nowMs) bankroll

/-- Return the config-weighted global reserved amount used for live capital checks. -/
def effectiveReservedCapital (bankroll : BankrollManager) (config : Config) : ℚ :=
  let pendingPolicy := config.pendingSettlementPolicyUnchecked
  let splitTotal := bankroll.activeReservedCapital + bankroll.pendingSettlementReservedCapital
  if |bankroll.reservedCapital - splitTotal| > 1 / 10 ^ 9 then
    max bankroll.reservedCapital 0
  else
    bankroll.activeReservedCapital +
      bankroll.pendingSettlementReservedCapital * pendingPolicy.globalReserveFraction

/-- Return remaining open-exposure headroom under the configured ceiling, or nothing when
uncapped. -/
def openExposureHeadroom (bankroll : BankrollManager) (config : Config) : Option ℚ :=
  config.openExposureCeilingUsd.map fun ceiling =>
    max (ceiling -
      (bankroll.activeReservedCapital + bankroll.pendingSettlementReservedCapital)) 0

/-- Return the config-weighted family reserve used for sleeve checks. -/
def effectiveReservedForFamily (bankroll : BankrollManager) (family : StrategyFamily)
    (config : Config) : ℚ :=
  let pendingPolicy := config.pendingSettlementPolicyUnchecked
  let active := bankroll.activeReservedCapitalByFamily family
  let pending := bankroll.pendingSettlementReservedCapitalByFamily family
  let total := bankroll.reservedCapitalByFamily family
  if |total - (active + pending)| > 1 / 10 ^ 9 then
    max total 0
  else
    active + pending * pendingPolicy.familyReserveFraction

/-- Release previously reserved capital for one strategy family. -/
def releaseReservedForStrategy (bankroll : BankrollManager) (amount : ℚ) (strategy : String) :
    BankrollManager :=
  { bankroll with
    toReserves := bankroll.toReserves.releaseFromFamilyBuckets amount (familyForStrategy strategy) }

/-- Move one unresolved trade's reserve from active-market risk to pending settlement. -/
def transitionTradeToPendingSettlement (bankroll : BankrollManager) (amount : ℚ)
    (strategy : String) : BankrollManager :=
  { bankroll with
    toReserves := bankroll.toReserves.transitionFamilyReserveToPending amount
      (familyForStrategy strategy) }

/-- Current drawdown as a fraction of the high-water mark. -/
def getDrawdownPct (bankroll : BankrollManager) : ℚ :=
  if bankroll.highWaterMark ≤ 0 then 0
  else (bankroll.highWaterMark - bankroll.currentBalance) / bankroll.highWaterMark

/-- Rearm the drawdown pause once the drawdown has recovered. -/
def rearmDdPause (bankroll : BankrollManager) (config : Config) : BankrollManager :=
  if bankroll.getDrawdownPct < config.peakDdPausePct - config.ddPauseRecoveryPct then
    { bankroll with ddPauseArmed := true, peakDdPauseUntil := 0 }
  else
    bankroll

/-- Whether trading is allowed right now (balance, drawdown, peak-drawdown pause). -/
def canTrade (bankroll : BankrollManager) (config : Config) (nowMs : ℕ) : Bool × BankrollManager :=
  if bankroll.currentBalance < config.minBalanceThreshold then
    (false, bankroll)
  else if bankroll.getDrawdownPct ≥ config.maxDrawdownPct then
    (false, bankroll)
  else
    let peakDd := bankroll.getDrawdownPct
    let bankroll := bankroll.rearmDdPause config
    if peakDd ≥ config.peakDdPausePct ∧ bankroll.ddPauseArmed then
      let peakDdPauseUntil :=
        if bankroll.peakDdPauseUntil = 0 then nowMs + config.peakDdPauseMs
        else bankroll.peakDdPauseUntil
      if nowMs < peakDdPauseUntil then
        (false, { bankroll with peakDdPauseUntil := peakDdPauseUntil })
      else
        (true, { bankroll with peakDdPauseUntil := 0, ddPauseArmed := false })
    else if peakDd < config.peakDdPausePct then
      (true, { bankroll with peakDdPauseUntil := 0 })
    else
      (true, bankroll)

/-! ## Sizing -/

/-- Win rate for a specific strategy, preferring the rolling window when it has at least five
results for that strategy. -/
def getStrategyWinRate (bankroll : BankrollManager) (strategy : String) : ℚ :=
  let rolling := bankroll.recentResults.filter fun result => result.strategy == strategy
  if 5 ≤ rolling.length then
    (rolling.countP fun result => result.won) / rolling.length
  else
    let stats := bankroll.strategyStats strategy
    let total := stats.wins + stats.losses
    if 0 < total then stats.wins / total else 0

/-- Half-Kelly fraction: `f* = (b*p - q) / b`, scaled by the configured fraction. -/
def getKellyFraction (entryPrice winRate : ℚ) (config : Config) : ℚ :=
  if winRate < config.minWinRateForKelly then
    config.minKellyFloor
  else
    let b := (1 - entryPrice) / entryPrice
    let fullKelly := (b * winRate - (1 - winRate)) / b
    if fullKelly ≤ 0 then config.minKellyFloor else fullKelly * config.kellyFraction

/-- Compute the position fraction to risk on a single trade. -/
def getPositionFraction (bankroll : BankrollManager) (entryPrice confidence : ℚ)
    (strategy : String) (family : StrategyFamily) (config : Config) : ℚ :=
  let stats := bankroll.strategyStats strategy
  let fraction :=
    if config.minTradesForKelly ≤ stats.wins + stats.losses then
      getKellyFraction entryPrice (bankroll.getStrategyWinRate strategy) config
    else
      positionFractionTarget family config
  let confidenceMultiplier := max ((confidence - 1 / 2) * (5 / 2)) 0
  min (fraction * confidenceMultiplier) (positionFractionTarget family config)

/-- Return the current maximum notional budget available for one spread bundle in one family
sleeve. -/
def availableSpreadBudgetForFamily (bankroll : BankrollManager) (family : StrategyFamily)
    (config : Config) : ℚ :=
  let available := max (bankroll.currentBalance - bankroll.effectiveReservedCapital config) 0
  let maxPositionUsd := bankroll.currentBalance * config.maxPositionUsdFraction
  let perTradeCap := bankroll.currentBalance * positionFractionTarget family config
  let budget := min (min (min available maxPositionUsd) config.maxPositionUsd) perTradeCap
  let familyBudget := (explicitFamilySleeveFraction family config).map fun fraction =>
    max (bankroll.currentBalance * fraction - bankroll.effectiveReservedForFamily family config) 0
  max (capAt budget familyBudget) 0

/-- Return the current maximum notional budget available for one single-side order in one family
sleeve. -/
def availableSingleBudget (bankroll : BankrollManager) (family : StrategyFamily)
    (config : Config) : ℚ :=
  bankroll.availableSpreadBudgetForFamily family config

/-- The capital one reservation may take at most. -/
def availableCapital (bankroll : BankrollManager) (family : StrategyFamily) (config : Config) : ℚ :=
  capAt (min (bankroll.availableSingleBudget family config)
      (bankroll.currentBalance - bankroll.effectiveReservedCapital config))
    (bankroll.openExposureHeadroom config)

/-- The number of tokens a single-side order asks for. -/
def singleTokenCount (bankroll : BankrollManager) (entryPrice reservePrice confidence : ℚ)
    (strategy : String) (family : StrategyFamily) (config : Config) : ℚ :=
  let available := bankroll.availableCapital family config
  if available ≤ 0 then 0
  else
    let fraction := bankroll.getPositionFraction entryPrice confidence strategy family config
    if fraction ≤ 0 then 0
    else
      let kellyNotional := bankroll.currentBalance * fraction
      let maxPositionUsd := bankroll.currentBalance * config.maxPositionUsdFraction
      let notional :=
        min (min (min kellyNotional available) maxPositionUsd) config.maxPositionUsd
      let tokenCount : ℚ := ⌊notional / reservePrice⌋
      if tokenCount > 0 ∧ tokenCount * entryPrice < config.minBetUsd then
        let minTokens : ℚ := ⌈config.minBetUsd / entryPrice⌉
        if minTokens * reservePrice ≤ available ∧ minTokens * reservePrice ≤ maxPositionUsd ∧
            minTokens * reservePrice ≤ config.maxPositionUsd then
          minTokens
        else
          tokenCount
      else
        tokenCount

/-- Reserve capital for a single-side trade using one price for sizing and another for worst-case
capital reservation. -/
def reserveCapitalWithReservePrice (bankroll : BankrollManager)
    (entryPrice reservePrice confidence : ℚ) (strategy : String) (family : StrategyFamily)
    (config : Config) (nowMs : ℕ) : ℚ × BankrollManager :=
  let (allowed, bankroll) := bankroll.canTrade config nowMs
  if !allowed then
    (0, bankroll)
  else if entryPrice ≤ 0 ∨ entryPrice ≥ 1 ∨ reservePrice ≤ 0 ∨ reservePrice ≥ 1 then
    (0, bankroll)
  else
    let tokenCount :=
      bankroll.singleTokenCount entryPrice reservePrice confidence strategy family config
    if tokenCount ≤ 0 then
      (0, bankroll)
    else
      (tokenCount,
        { bankroll with
          toReserves := bankroll.toReserves.addReserved family (tokenCount * reservePrice) })

/-- Reserve capital for a spread bundle using one explicit family sleeve. -/
def reserveSpreadCapitalForFamily (bankroll : BankrollManager) (upAsk downAsk : ℚ)
    (family : StrategyFamily) (config : Config) (nowMs : ℕ) : (ℚ × ℚ) × BankrollManager :=
  let (allowed, bankroll) := bankroll.canTrade config nowMs
  if !allowed then
    ((0, 0), bankroll)
  else if upAsk ≤ 0 ∨ downAsk ≤ 0 ∨ upAsk ≥ 1 ∨ downAsk ≥ 1 then
    ((0, 0), bankroll)
  else
    let available := bankroll.availableCapital family config
    if available ≤ 0 then
      ((0, 0), bankroll)
    else
      let pairUnits : ℚ := ⌊available / (upAsk + downAsk)⌋
      if pairUnits ≤ 0 then
        ((0, 0), bankroll)
      else
        ((pairUnits, pairUnits),
          { bankroll with
            toReserves := bankroll.toReserves.addReserved family (pairUnits * (upAsk + downAsk)) })

/-- Reserve capital for a spread-capture (buy both sides) trade. -/
def reserveSpreadCapital (bankroll : BankrollManager) (upAsk downAsk : ℚ) (config : Config)
    (nowMs : ℕ) : (ℚ × ℚ) × BankrollManager :=
  bankroll.reserveSpreadCapitalForFamily upAsk downAsk .spreadCapture config nowMs

/-- Assess spread queueability against one explicit family sleeve. -/
def assessSpreadAffordabilityForFamily (bankroll : BankrollManager)
    (upAsk downAsk orderMinSize : ℚ) (family : StrategyFamily) (config : Config) :
    SpreadAffordabilityCheck :=
  let availableSpreadBudget := bankroll.availableSpreadBudgetForFamily family config
  let totalAskPerUnit := upAsk + downAsk
  if upAsk ≤ 0 ∨ downAsk ≤ 0 ∨ upAsk ≥ 1 ∨ downAsk ≥ 1 ∨ totalAskPerUnit ≤ 0 then
    { queueable := false
      availableSpreadBudget := availableSpreadBudget
      requiredPairUnits := 0
      requiredPairNotional := 0
      failureReason := some .spreadBudgetTooSmall }
  else
    let minPairUnitsForBet : ℚ :=
      max ⌈config.minBetUsd / upAsk⌉ ⌈config.minBetUsd / downAsk⌉
    let minPairUnitsForMarket : ℚ := if orderMinSize > 0 then ⌈orderMinSize⌉ else 0
    let requiredPairUnits := max (max minPairUnitsForBet minPairUnitsForMarket) 1
    let requiredPairNotional := requiredPairUnits * totalAskPerUnit
    if availableSpreadBudget + 1 / 10 ^ 9 ≥ requiredPairNotional then
      { queueable := true
        availableSpreadBudget := availableSpreadBudget
        requiredPairUnits := requiredPairUnits
        requiredPairNotional := requiredPairNotional
        failureReason := none }
    else
      { queueable := false
        availableSpreadBudget := availableSpreadBudget
        requiredPairUnits := requiredPairUnits
        requiredPairNotional := requiredPairNotional
        failureReason :=
          if minPairUnitsForMarket > minPairUnitsForBet then some .belowMarketMinSizeOnSubmit
          else some .spreadBudgetTooSmall }

/-- Assess whether a spread bundle can be legally queued right now. -/
def assessSpreadAffordability (bankroll : BankrollManager) (upAsk downAsk orderMinSize : ℚ)
    (config : Config) : SpreadAffordabilityCheck :=
  bankroll.assessSpreadAffordabilityForFamily upAsk downAsk orderMinSize .spreadCapture config

/-- Record a closed trade result in memory without touching storage. -/
def applyTradeResultInMemory (bankroll : BankrollManager)
    (entryPrice size settlementPrice feeAmount : ℚ) (strategy : String) : ℚ × BankrollManager :=
  let cost := entryPrice * size
  let payout := settlementPrice * size
  let pnl := payout - cost - feeAmount
  let bankroll := bankroll.releaseReservedForStrategy cost strategy
  let won := decide (pnl > 0)
  let stats := bankroll.strategyStats strategy
  let recentResults := bankroll.recentResults ++ [{ strategy := strategy, won := won }]
  let currentBalance := bankroll.currentBalance + pnl
  let bankroll :=
    { bankroll with
      currentBalance := currentBalance
      totalFees := bankroll.totalFees + feeAmount
      totalTrades := bankroll.totalTrades + 1
      totalWins := if won then bankroll.totalWins + 1 else bankroll.totalWins
      totalLosses := if won then bankroll.totalLosses else bankroll.totalLosses + 1
      strategyStats := Function.update bankroll.strategyStats strategy
        (if won then { stats with wins := stats.wins + 1 }
        else { stats with losses := stats.losses + 1 })
      recentResults :=
        if recentResults.length > bankroll.kellyRollingWindow then recentResults.tail
        else recentResults
      highWaterMark := max bankroll.highWaterMark currentBalance }
  (pnl, { bankroll with peakDrawdownPct := max bankroll.peakDrawdownPct bankroll.getDrawdownPct })

/-! ## Reserves after each method -/

section Spec

variable (bankroll : BankrollManager)
variable (upAsk downAsk : ℚ) (family : StrategyFamily) (config : Config) (nowMs : ℕ) (amount : ℚ)
variable (strategy : String) (entryPrice : ℚ)

@[simp]
theorem toReserves_releaseReservedForStrategy :
    (bankroll.releaseReservedForStrategy amount strategy).toReserves =
      bankroll.toReserves.releaseFromFamilyBuckets amount (familyForStrategy strategy) :=
  rfl

@[simp]
theorem toReserves_canTrade :
    (bankroll.canTrade config nowMs).2.toReserves = bankroll.toReserves := by
  unfold canTrade rearmDdPause
  dsimp only
  repeat' split
  all_goals rfl

/-- A single-side reservation reserves its tokens at the reserve price, or nothing. -/
theorem reserveCapitalWithReservePrice_spec (reservePrice confidence : ℚ) (strategy : String)
    (family : StrategyFamily) (config : Config) (nowMs : ℕ) :
    let result := bankroll.reserveCapitalWithReservePrice entryPrice reservePrice confidence
      strategy family config nowMs
    (result.1 = 0 ∧ result.2.toReserves = bankroll.toReserves) ∨
      (0 < result.1 ∧ 0 < entryPrice ∧ 0 < reservePrice ∧
        result.2.toReserves =
          bankroll.toReserves.addReserved family (result.1 * reservePrice)) := by
  have hgates := bankroll.toReserves_canTrade config nowMs
  unfold reserveCapitalWithReservePrice
  dsimp only
  split
  · exact .inl ⟨rfl, hgates⟩
  split
  · exact .inl ⟨rfl, hgates⟩
  rename_i hprices
  push Not at hprices
  split
  · exact .inl ⟨rfl, hgates⟩
  · rename_i hcount
    exact .inr ⟨not_le.mp hcount, hprices.1, hprices.2.2.1, by rw [hgates]⟩

/-- A spread reservation reserves equal tokens of both sides at their asks, or nothing. -/
theorem reserveSpreadCapitalForFamily_spec :
    let result := bankroll.reserveSpreadCapitalForFamily upAsk downAsk family config nowMs
    (result.1 = (0, 0) ∧ result.2.toReserves = bankroll.toReserves) ∨
      (0 < result.1.1 ∧ result.1.2 = result.1.1 ∧ 0 < upAsk ∧ 0 < downAsk ∧
        result.2.toReserves =
          bankroll.toReserves.addReserved family (result.1.1 * (upAsk + downAsk))) := by
  have hgates := bankroll.toReserves_canTrade config nowMs
  unfold reserveSpreadCapitalForFamily
  dsimp only
  split
  · exact .inl ⟨rfl, hgates⟩
  split
  · exact .inl ⟨rfl, hgates⟩
  rename_i hprices
  push Not at hprices
  split
  · exact .inl ⟨rfl, hgates⟩
  split
  · exact .inl ⟨rfl, hgates⟩
  · rename_i hunits
    exact .inr ⟨not_le.mp hunits, rfl, hprices.1, hprices.2.1, by rw [hgates]⟩

theorem reserveSpreadCapital_spec :
    let result := bankroll.reserveSpreadCapital upAsk downAsk config nowMs
    (result.1 = (0, 0) ∧ result.2.toReserves = bankroll.toReserves) ∨
      ∃ pairUnits, result.1 = (pairUnits, pairUnits) ∧ 0 < pairUnits ∧ 0 < upAsk ∧ 0 < downAsk ∧
        result.2.toReserves = bankroll.toReserves.addReserved .spreadCapture
          (pairUnits * (upAsk + downAsk)) := by
  rcases bankroll.reserveSpreadCapitalForFamily_spec upAsk downAsk .spreadCapture config nowMs with
    hnothing | ⟨hpositive, hequal, hup, hdown, hreserves⟩
  · exact .inl hnothing
  · exact .inr ⟨_, Prod.ext rfl hequal, hpositive, hup, hdown, hreserves⟩

end Spec

end BankrollManager

end BubaPaint
