import BubaPaint.Storage.LiveTables
import Mathlib.Algebra.Ring.Nat

/-!
# Configuration

The settings the modelled parts of the runtime read, with the constants that stand beside them.
-/

namespace BubaPaint

/-- How feed events are stored. -/
inductive FeedEventStorageProfile where
  | compact
  | replayGrade
  | fullDebug
  deriving DecidableEq

/-- How unresolved trades of closed markets count. -/
structure PendingSettlementPolicy where
  familyReserveFraction : ℚ
  globalReserveFraction : ℚ
  countsAsOpenPosition : Bool

/-- Runtime settings. -/
structure Config where
  executionMode : ExecutionMode
  feedEventStorageProfile : FeedEventStorageProfile
  feedEventWriterMaxLagMs : ℕ
  latencyArbMaxAsk : ℚ
  latencyArbMaxPositionFraction : Option ℚ
  spreadCaptureThreshold : ℚ
  spreadCaptureMinAsk : ℚ
  spreadCaptureMaxLegSkewMs : ℕ
  spreadCaptureMaxQuoteChurnPerS : ℚ
  spreadCaptureMaxPositionFraction : Option ℚ
  calmPersistenceMinWindowTimeMs : ℕ
  calmPersistenceMaxWindowTimeMs : ℕ
  calmPersistenceMaxAsk : ℚ
  calmPersistenceMaxRealizedVol15sBps : ℚ
  calmPersistenceMaxOpenCrosses30s : ℕ
  calmPersistenceMaxQuoteChurnPerS : ℚ
  calmPersistenceMaxPositionFraction : Option ℚ
  maxPositionFraction : ℚ
  minBalanceThreshold : ℚ
  maxDrawdownPct : ℚ
  maxPositionUsdFraction : ℚ
  kellyFraction : ℚ
  minWinRateForKelly : ℚ
  minTradesForKelly : ℕ
  minKellyFloor : ℚ
  minBetUsd : ℚ
  kellyRollingWindow : ℕ
  maxOpenPositions : ℕ
  circuitBreakerLosses : ℕ
  circuitBreakerPauseMs : ℕ
  peakDdPausePct : ℚ
  peakDdPauseMs : ℕ
  ddPauseRecoveryPct : ℚ
  trendFilterEnabled : Bool
  trendFilterThreshold : ℚ
  trendFilterWindow : ℕ
  trendFilterPerStrategy : Bool
  regimeDetectionEnabled : Bool
  maxPositionUsd : ℚ
  takerFeeRate : ℚ
  takerFeeExponent : ℕ
  takerFeeOverrideExplicit : Bool
  liveMaxOpenNotionalUsd : ℚ
  enforceOpenExposureCaps : Bool
  maxLiveDecisionAgeMs : ℕ
  simOrderLatencyMs : ℕ
  maxBookStalenessMs : ℕ
  resolutionInitialDelayMs : ℕ
  resolutionPollDelayMs : ℕ
  pendingSettlementFamilyReserveFraction : ℚ
  pendingSettlementGlobalReserveFraction : ℚ
  pendingSettlementCountsAsOpenPosition : Bool
  liveSessionCashCapUsd : ℚ
  liveMaxSingleOrderUsd : ℚ
  liveMaxDailyLossUsd : ℚ
  liveMaxSessionDrawdownUsd : ℚ
  liveMinRequiredCashUsd : ℚ
  liveExpectedSignatureType : Option ℕ
  liveAllowDepositWallet : Bool
  liveExpectedEgressIp : Option String
  liveOnchainReconcile : Bool
  liveDryRun : Bool
  liveMaxSessionOrders : ℕ
  liveMaxSessionFills : ℕ
  liveArmedFeedOutageHaltMs : ℕ
  liveSubmissionQueueCapacity : ℕ

/-- Return whether post-fill on-chain reconciliation is active in this run. -/
def Config.liveOnchainReconcileEnabled (config : Config) : Bool :=
  config.executionMode.usesLiveSidecar && config.liveOnchainReconcile

/-- Return the resolved pending-settlement policy without re-validating it. -/
def Config.pendingSettlementPolicyUnchecked (config : Config) : PendingSettlementPolicy where
  familyReserveFraction := config.pendingSettlementFamilyReserveFraction
  globalReserveFraction := config.pendingSettlementGlobalReserveFraction
  countsAsOpenPosition := config.pendingSettlementCountsAsOpenPosition

/-- Return the hard open-exposure ceiling in USD, or nothing when the caps are not enforced. -/
def Config.openExposureCeilingUsd (config : Config) : Option ℚ :=
  if config.executionMode.usesLiveSidecar || config.enforceOpenExposureCaps then
    some (min config.liveMaxOpenNotionalUsd config.liveSessionCashCapUsd)
  else
    none

def u64Max : ℕ :=
  2 ^ 64 - 1

def liveTerminalDegradationMs : ℕ :=
  120000

def cashChangeEpsilonUsd : ℚ :=
  1 / 100

def f64Epsilon : ℚ :=
  1 / 2 ^ 52

def sampleConfig : Config where
  executionMode := .liveTrading
  feedEventStorageProfile := .replayGrade
  feedEventWriterMaxLagMs := 60000
  latencyArbMaxAsk := 1 / 2
  latencyArbMaxPositionFraction := none
  spreadCaptureThreshold := 99 / 100
  spreadCaptureMinAsk := 1 / 10
  spreadCaptureMaxLegSkewMs := 1000
  spreadCaptureMaxQuoteChurnPerS := 40
  spreadCaptureMaxPositionFraction := none
  calmPersistenceMinWindowTimeMs := 30000
  calmPersistenceMaxWindowTimeMs := 150000
  calmPersistenceMaxAsk := 7 / 10
  calmPersistenceMaxRealizedVol15sBps := 3
  calmPersistenceMaxOpenCrosses30s := 0
  calmPersistenceMaxQuoteChurnPerS := 10
  calmPersistenceMaxPositionFraction := none
  maxPositionFraction := 1 / 10
  minBalanceThreshold := 10
  maxDrawdownPct := 1 / 4
  maxPositionUsdFraction := 1 / 2
  kellyFraction := 1 / 2
  minWinRateForKelly := 1 / 2
  minTradesForKelly := 20
  minKellyFloor := 1 / 100
  minBetUsd := 1
  kellyRollingWindow := 50
  maxOpenPositions := 5
  circuitBreakerLosses := 5
  circuitBreakerPauseMs := 60000
  peakDdPausePct := 1 / 5
  peakDdPauseMs := 60000
  ddPauseRecoveryPct := 1 / 20
  trendFilterEnabled := false
  trendFilterThreshold := 1 / 2
  trendFilterWindow := 20
  trendFilterPerStrategy := false
  regimeDetectionEnabled := false
  maxPositionUsd := 50
  takerFeeRate := 0
  takerFeeExponent := 1
  takerFeeOverrideExplicit := true
  liveMaxOpenNotionalUsd := 50
  enforceOpenExposureCaps := false
  maxLiveDecisionAgeMs := 250
  simOrderLatencyMs := 25
  maxBookStalenessMs := 1000
  resolutionInitialDelayMs := 1000
  resolutionPollDelayMs := 1000
  pendingSettlementFamilyReserveFraction := 1
  pendingSettlementGlobalReserveFraction := 1
  pendingSettlementCountsAsOpenPosition := true
  liveSessionCashCapUsd := 100
  liveMaxSingleOrderUsd := 10
  liveMaxDailyLossUsd := 50
  liveMaxSessionDrawdownUsd := 50
  liveMinRequiredCashUsd := 5
  liveExpectedSignatureType := none
  liveAllowDepositWallet := false
  liveExpectedEgressIp := none
  liveOnchainReconcile := false
  liveDryRun := false
  liveMaxSessionOrders := 0
  liveMaxSessionFills := 0
  liveArmedFeedOutageHaltMs := 120000
  liveSubmissionQueueCapacity := 4

end BubaPaint
