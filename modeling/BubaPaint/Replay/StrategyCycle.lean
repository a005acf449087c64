import BubaPaint.Replay.ExecutionEngine
import BubaPaint.Strategies.Context

/-!
# The strategy cycle

One evaluation of all strategies on one market snapshot: rejections are counted, the router may
block families, the trend filter may suppress a single, and what remains is submitted. The regime a
signal is annotated with is left out of it.
-/

namespace BubaPaint

/-- One evaluated strategy candidate together with its selected portfolio family. -/
structure EvaluatedCandidate where
  family : StrategyFamily
  result : StrategyResult

/-- One caller-visible event emitted by the shared strategy cycle. -/
inductive StrategyCycleEvent where
  | suppressed (strategy : String) (direction : SignalDirection) (regime : PortfolioRegime)
  | singleSubmitted (strategy : String) (direction : SignalDirection) (regime : PortfolioRegime)
      (outcome : SubmissionOutcome)
  | batchSubmitted (strategy : String) (count : ℕ) (regime : PortfolioRegime)
      (outcome : SubmissionOutcome)

/-- One portfolio-attribution record emitted by the shared strategy cycle. -/
structure StrategyCycleSubmission where
  family : StrategyFamily
  regime : PortfolioRegime
  outcome : SubmissionOutcome

/-- Aggregate output from one shared evaluation and submission cycle. -/
structure StrategyCycleResult where
  observedRegime : PortfolioRegime
  candidateFamilies : List StrategyFamily
  routerBlockedCount : ℕ
  signalCountDelta : ℕ
  submissions : List StrategyCycleSubmission
  events : List StrategyCycleEvent

/-- Return the persisted signal count implied by one submission outcome. -/
def submissionSignalCount : SubmissionOutcome → ℕ
  | .queued signalIds _ => signalIds.length
  | .rejected signalIds _ => signalIds.length

def StrategyCycleResult.recordSubmission (result : StrategyCycleResult) (family : StrategyFamily)
    (regime : PortfolioRegime) (outcome : SubmissionOutcome) : StrategyCycleResult :=
  { result with
    signalCountDelta := result.signalCountDelta + submissionSignalCount outcome
    submissions := result.submissions ++ [{ family, regime, outcome }] }

def StrategyCycleResult.emit (result : StrategyCycleResult) (event : StrategyCycleEvent) :
    StrategyCycleResult :=
  { result with events := result.events ++ [event] }

/-! ## Candidates -/

/-- What the cycle reads and does not change. -/
structure StrategyCycleInput where
  ctx : FullStrategyContext
  window : MarketWindow
  config : StrategyConfig
  trendTracker : ScopedTrendTracker
  now : ℕ

/-- A cycle between two candidates. -/
structure StrategyCycle where
  paper : PaperState
  rejectionTracker : StrategyRejectionTracker
  result : StrategyCycleResult

/-- Evaluate every strategy and keep only actionable candidates. -/
def collectCandidates {σ : Type} [FullStrategy σ] (input : StrategyCycleInput)
    (rejectionTracker : StrategyRejectionTracker) :
    List σ → List EvaluatedCandidate × List σ × StrategyRejectionTracker
  | [] => ([], [], rejectionTracker)
  | strategy :: rest =>
    let (result, strategy) :=
      FullStrategy.evaluate strategy input.ctx input.config input.now
    let tracker :=
      match result with
      | .rejected rejection => rejectionTracker.record input.window.marketId rejection
      | _ => rejectionTracker
    let (candidates, strategies, tracker) := collectCandidates input tracker rest
    (match result with
      | .single _ | .batch _ => { family := FullStrategy.family strategy, result } :: candidates
      | .none | .rejected _ => candidates,
      strategy :: strategies, tracker)

/-- Persist one signal that was suppressed by the trend filter. -/
def PaperState.persistSuppressedSignal (state : PaperState) (signal : Signal)
    (window : MarketWindow) : PaperState :=
  let (signalId, db) := state.db.logSignalWithContext signal window.marketId none none
  { state with
    db := db.upsertSignalTelemetry signalId none none "suppressed" (some "trend_filter") }

/-- Build the current non-mutating affordability assessment for one spread batch. -/
def assessSpreadBatchAffordability (signals : List Signal) (window : MarketWindow)
    (bankroll : BankrollManager) (config : Config) : Option SpreadAffordabilityCheck :=
  (spreadLegs signals).map fun (upSignal, downSignal) =>
    bankroll.assessSpreadAffordability upSignal.upAsk downSignal.downAsk
      (window.orderMinSize.getD 0) config

namespace StrategyCycle

def reject (cycle : StrategyCycle) (input : StrategyCycleInput) (strategy : String)
    (reason : StrategyRejectionReason) : StrategyCycle :=
  { cycle with
    rejectionTracker := cycle.rejectionTracker.record input.window.marketId { strategy, reason } }

/-- Handle one single-side candidate emitted by a strategy. -/
def handleSingleCandidate (cycle : StrategyCycle) (input : StrategyCycleInput) (signal : Signal)
    (family : StrategyFamily) (regime : PortfolioRegime) : StrategyCycle :=
  let config := input.config.toConfig
  if input.trendTracker.shouldSuppress family signal.direction then
    { cycle with
      paper := cycle.paper.persistSuppressedSignal signal input.window
      result :=
        { cycle.result with signalCountDelta := cycle.result.signalCountDelta + 1 }.emit
          (.suppressed signal.strategy signal.direction regime) }
  else
    let duplicate :=
      if family = .calmPersistence then
        (cycle.paper.precheckSingleSubmission signal input.window config input.now).bind
          calmDuplicateRejectionReason
      else none
    match duplicate with
    | some reason => cycle.reject input signal.strategy reason
    | none =>
      let (outcome, paper) := cycle.paper.submitSingle signal input.window config input.now
      { cycle with
        paper
        result := (cycle.result.recordSubmission family regime outcome).emit
          (.singleSubmitted signal.strategy signal.direction regime outcome) }

/-- Handle one spread batch emitted by a strategy. -/
def handleBatchCandidate (cycle : StrategyCycle) (input : StrategyCycleInput)
    (signals : List Signal) (family : StrategyFamily) (regime : PortfolioRegime) : StrategyCycle :=
  let config := input.config.toConfig
  let strategyName := (signals.head?.map fun signal => signal.strategy).getD "?"
  let unaffordable :=
    (assessSpreadBatchAffordability signals input.window cycle.paper.bankroll config).any
      fun affordability => !affordability.queueable
  if unaffordable then cycle.reject input strategyName .spreadBudgetTooSmall
  else
    let (outcome, paper) := cycle.paper.submitSpread signals input.window config input.now
    { cycle with
      paper
      result := (cycle.result.recordSubmission family regime outcome).emit
        (.batchSubmitted strategyName signals.length regime outcome) }

/-- Handle one candidate, unless the router blocks its family. -/
def handleCandidate (input : StrategyCycleInput) (selectedFamily : Option StrategyFamily)
    (regime : PortfolioRegime) (cycle : StrategyCycle) (candidate : EvaluatedCandidate) :
    StrategyCycle :=
  if input.config.regimeDetectionEnabled ∧ some candidate.family ≠ selectedFamily then
    let cycle := cycle.reject input candidate.family.asStr .blockedByRouter
    { cycle with
      result :=
        { cycle.result with routerBlockedCount := cycle.result.routerBlockedCount + 1 } }
  else
    match candidate.result with
    | .single signal => cycle.handleSingleCandidate input signal candidate.family regime
    | .batch signals => cycle.handleBatchCandidate input signals candidate.family regime
    | .none | .rejected _ => cycle

end StrategyCycle

/-- Run one full strategy-evaluation and submission cycle for one market snapshot. -/
def runStrategyCycle {σ : Type} [FullStrategy σ] (input : StrategyCycleInput) (paper : PaperState)
    (rejectionTracker : StrategyRejectionTracker) (strategies : List σ) : StrategyCycle × List σ :=
  let ctx := input.ctx.toStrategyContext
  let config := input.config.toConfig
  let observedRegime := detectRegime ctx config
  let (candidates, strategies, rejectionTracker) :=
    collectCandidates input rejectionTracker strategies
  let candidateFamilies := candidates.map fun candidate => candidate.family
  let selectedFamily :=
    if config.regimeDetectionEnabled then selectFamilyForCandidates ctx config candidateFamilies
    else none
  let result : StrategyCycleResult :=
    { observedRegime
      candidateFamilies
      routerBlockedCount := 0
      signalCountDelta := 0
      submissions := []
      events := [] }
  (candidates.foldl (StrategyCycle.handleCandidate input selectedFamily observedRegime)
    { paper, rejectionTracker, result }, strategies)

end BubaPaint
