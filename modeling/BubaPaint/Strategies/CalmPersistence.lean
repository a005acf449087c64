import BubaPaint.Strategies.SpreadCapture

/-!
# The calm persistence

A strategy for the end of a calm window: it bets that the side the price is on stays ahead. It keeps
no state. The samples of its rejections and the evidence of its signals are left out.
-/

namespace BubaPaint

/-- The calm persistence. -/
structure CalmPersistenceStrategy where
  deriving DecidableEq

/-- What the bet of a calm evaluation rests on. -/
structure CalmState where
  direction : SignalDirection
  upAsk : ℚ
  downAsk : ℚ
  distanceVolRatio : ℚ
  openCrosses30s : ℕ

namespace CalmPersistenceStrategy

def minAlignmentSignals : ℕ := 3

/-- Build one explicit rejection result for live diagnostics. -/
def reject (reason : StrategyRejectionReason) : StrategyResult :=
  .rejected { strategy := "calm-persistence", reason }

/-- Return the signed distance from the window open in basis points. -/
def signedDistanceFromOpenBps (ctx : FullStrategyContext) : Option ℚ :=
  ctx.features.distanceFromOpenBps.or
    (ctx.windowOpenPrice.bind fun openPrice =>
      if openPrice ≤ 0 then none
      else some ((ctx.binancePrice - openPrice) / openPrice * 10000))

/-- The side the price is on. -/
def direction (distance : ℚ) : SignalDirection :=
  if distance > 0 then .up else .down

def entryAsk (upAsk downAsk : ℚ) : SignalDirection → ℚ
  | .up => upAsk
  | .down => downAsk

/-- Measure how many supporting microstructure signals agree with the target direction. -/
def alignmentFraction (ctx : FullStrategyContext) (direction : SignalDirection) : Option ℚ :=
  let sign : ℚ :=
    match direction with
    | .up => 1
    | .down => -1
  let values := [ctx.features.return250ms, ctx.features.return500ms, ctx.features.return1000ms,
    ctx.features.binanceSignedTradeImbalance, ctx.features.binanceBookImbalance,
    ctx.features.polymarketMicropriceSkew].reduceOption.map (· * sign)
  if values.length < minAlignmentSignals then none
  else some (values.countP (0 < ·) / values.length)

/-- Convert the calm-state feature bundle into a simple fair-probability bias. -/
def fairBias (distanceVolRatio alignment : ℚ) (openCrosses30s : ℕ) (config : StrategyConfig) : ℚ :=
  let distanceTerm := 25 / 1000 * max distanceVolRatio 0
  let alignmentTerm := 12 / 100 * max (alignment - 1 / 2) 0
  let crossTerm := if openCrosses30s = 0 then 2 / 100 else 0
  clampBetween 0 config.calmPersistenceMaxFairBias (distanceTerm + alignmentTerm + crossTerm)

/-- Convert the calm-state feature bundle into a bounded signal confidence. -/
def confidence (distanceVolRatio alignment expectedEdge : ℚ) : ℚ :=
  clampBetween 0 1 (30 / 100 + 15 / 100 * min distanceVolRatio 4 / 4 + 35 / 100 * alignment +
    max expectedEdge 0 * 4)

/-- The gates of an evaluation before the order flow is looked at. -/
def calmState (ctx : FullStrategyContext) (config : StrategyConfig) :
    Except StrategyResult CalmState :=
  if ctx.windowTimeRemainingMs < config.calmPersistenceMinWindowTimeMs ∨
      ctx.windowTimeRemainingMs > config.calmPersistenceMaxWindowTimeMs then
    .error (reject .calmWindowInactive)
  else
    match ctx.bookState.up, ctx.bookState.down with
    | some upBook, some downBook =>
      let distance := (signedDistanceFromOpenBps ctx).getD 0
      let entryAsk := entryAsk upBook.bestAsk downBook.bestAsk (direction distance)
      -- crossings that are not known count as the most there can be
      let openCrosses := ctx.features.openCrosses30s.getD (2 ^ 32 - 1)
      if !quotesAreFresh ctx config then .error (reject .featuresStale)
      else if |distance| < config.calmPersistenceMinAbsDistanceBps then
        .error (reject .distanceBelowThreshold)
      else if entryAsk ≤ 0 then .error (reject .nonPositiveQuotes)
      else if entryAsk > config.calmPersistenceMaxAsk then .error (reject .entryAskAboveMax)
      else
        match ctx.features.realizedVol15sBps with
        -- a volatility that is not known counts as infinite
        | none => .error (reject .volatilityTooHigh)
        | some realizedVol =>
          let distanceVolRatio := |distance| / max realizedVol 1
          if realizedVol > config.calmPersistenceMaxRealizedVol15sBps ∨
              ctx.features.polymarketQuoteChurnPerS.getD 0 >
                config.calmPersistenceMaxQuoteChurnPerS then
            .error (reject .volatilityTooHigh)
          else if openCrosses > config.calmPersistenceMaxOpenCrosses30s then
            .error (reject .openCrossesTooHigh)
          else if distanceVolRatio < config.calmPersistenceDistanceVolRatioThreshold then
            .error (reject .distanceBelowThreshold)
          else
            .ok
              { direction := direction distance
                upAsk := upBook.bestAsk
                downAsk := downBook.bestAsk
                distanceVolRatio
                openCrosses30s := openCrosses }
    | _, _ => .error (reject .bookUnavailable)

/-- The bet of an evaluation that has passed these gates. -/
def buildSignal (ctx : FullStrategyContext) (config : StrategyConfig) (now : ℕ)
    (calm : CalmState) : StrategyResult :=
  match alignmentFraction ctx calm.direction with
  | none => reject .orderflowNotAligned
  | some alignment =>
    let (expectedFee, expectedSlippage) :=
      match calm.direction with
      | .up => (ctx.features.expectedUpFee.getD 0, ctx.features.expectedUpSlippage.getD 0)
      | .down => (ctx.features.expectedDownFee.getD 0, ctx.features.expectedDownSlippage.getD 0)
    let fairProbability :=
      1 / 2 + fairBias calm.distanceVolRatio alignment calm.openCrosses30s config
    let expectedEdge := fairProbability - entryAsk calm.upAsk calm.downAsk calm.direction -
      expectedFee - expectedSlippage
    if alignment < config.calmPersistenceMinAlignmentFraction then reject .orderflowNotAligned
    else if expectedEdge ≤ 0 then reject .expectedEdgeNonPositive
    else if expectedEdge ≤ config.calmPersistenceMinExpectedEdge then reject .expectedEdgeBelowMin
    else
      .single
        { timestamp := now
          strategy := "calm-persistence"
          direction := calm.direction
          confidence := confidence calm.distanceVolRatio alignment expectedEdge
          upAsk := calm.upAsk
          downAsk := calm.downAsk }

/-- Evaluate one late-window snapshot for a calm sign-persistence opportunity. -/
def evaluate (strategy : CalmPersistenceStrategy) (ctx : FullStrategyContext)
    (config : StrategyConfig) (now : ℕ) : StrategyResult × CalmPersistenceStrategy :=
  match calmState ctx config with
  | .error rejection => (rejection, strategy)
  | .ok calm => (buildSignal ctx config now calm, strategy)

variable {ctx : FullStrategyContext} {config : StrategyConfig} {now : ℕ}

/-- What a calm state has passed of the gates that the router repeats. -/
structure Calm (ctx : FullStrategyContext) (config : StrategyConfig) : Prop where
  minTime : config.calmPersistenceMinWindowTimeMs ≤ ctx.windowTimeRemainingMs
  maxTime : ctx.windowTimeRemainingMs ≤ config.calmPersistenceMaxWindowTimeMs
  volatility : ∃ vol ∈ ctx.features.realizedVol15sBps,
    vol ≤ config.calmPersistenceMaxRealizedVol15sBps
  churn : ctx.features.polymarketQuoteChurnPerS.getD 0 ≤ config.calmPersistenceMaxQuoteChurnPerS
  crosses : ctx.features.openCrosses30s.getD (2 ^ 32 - 1) ≤
    config.calmPersistenceMaxOpenCrosses30s

theorem calmState_cases :
    (∃ reason, calmState ctx config = .error (reject reason)) ∨ Calm ctx config := by
  unfold calmState
  split
  · exact .inl ⟨_, rfl⟩
  rename_i htime
  split
  · dsimp only
    split
    · exact .inl ⟨_, rfl⟩
    split
    · exact .inl ⟨_, rfl⟩
    split
    · exact .inl ⟨_, rfl⟩
    split
    · exact .inl ⟨_, rfl⟩
    split
    · exact .inl ⟨_, rfl⟩
    rename_i vol hvol
    split
    · exact .inl ⟨_, rfl⟩
    rename_i hlimits
    split
    · exact .inl ⟨_, rfl⟩
    rename_i hcrosses
    push Not at htime hlimits
    exact .inr ⟨htime.1, htime.2, ⟨vol, hvol, hlimits.1⟩, hlimits.2, not_lt.mp hcrosses⟩
  · exact .inl ⟨_, rfl⟩

theorem eq_reject_of_calmState {result : StrategyResult} (h : calmState ctx config = .error result) :
    ∃ reason, result = reject reason := by
  simp only [calmState] at h
  repeat' split at h
  all_goals first | exact ⟨_, (Except.error.inj h).symm⟩ | cases h

/-- An evaluation that is not rejected has found a calm state. -/
theorem calm_of_ne_rejected {strategy : CalmPersistenceStrategy}
    (h : ∀ rejection, (strategy.evaluate ctx config now).1 ≠ .rejected rejection) :
    Calm ctx config := by
  have hcases : (∃ reason, calmState ctx config = .error (reject reason)) ∨ Calm ctx config :=
    calmState_cases
  rcases hcases with ⟨reason, herror⟩ | hcalm
  · exact absurd (by rw [evaluate, herror]; rfl) (h _)
  · exact hcalm

end CalmPersistenceStrategy

instance : FullStrategy CalmPersistenceStrategy where
  family _ := .calmPersistence
  evaluate := CalmPersistenceStrategy.evaluate

instance : LawfulFullStrategy CalmPersistenceStrategy where
  labelled strategy ctx config now := by
    change (strategy.evaluate ctx config now).1.LabelledBy .calmPersistence
    unfold CalmPersistenceStrategy.evaluate
    cases hcalm : CalmPersistenceStrategy.calmState ctx config with
    | error result =>
      obtain ⟨reason, rfl⟩ := CalmPersistenceStrategy.eq_reject_of_calmState hcalm
      exact labelledBy_rejected _ _
    | ok calm =>
      simp only [CalmPersistenceStrategy.buildSignal]
      repeat' split
      all_goals first | exact labelledBy_rejected _ _ | exact labelledBy_single rfl

/-- One of the strategies that a bot is built with. -/
inductive BuiltStrategy where
  | latencyArb (strategy : LatencyArbStrategy)
  | spreadCapture (strategy : SpreadCaptureStrategy)
  | calmPersistence (strategy : CalmPersistenceStrategy)

instance : FullStrategy BuiltStrategy where
  family
    | .latencyArb strategy => FullStrategy.family strategy
    | .spreadCapture strategy => FullStrategy.family strategy
    | .calmPersistence strategy => FullStrategy.family strategy
  evaluate
    | .latencyArb strategy, ctx, config, now =>
      (strategy.evaluate ctx config now).map id .latencyArb
    | .spreadCapture strategy, ctx, config, now =>
      (strategy.evaluate ctx config now).map id .spreadCapture
    | .calmPersistence strategy, ctx, config, now =>
      (strategy.evaluate ctx config now).map id .calmPersistence

instance : LawfulFullStrategy BuiltStrategy where
  labelled
    | .latencyArb strategy => LawfulFullStrategy.labelled strategy
    | .spreadCapture strategy => LawfulFullStrategy.labelled strategy
    | .calmPersistence strategy => LawfulFullStrategy.labelled strategy

end BubaPaint
