import BubaPaint.Feeds.SignalFeatures

/-!
# What strategies are evaluated on

The whole context of an evaluation, of which the decision engine reads the part in
`StrategyContext`, with the settings that only strategies and backtests read.
-/

namespace BubaPaint

/-- The settings of the strategies. -/
structure StrategyConfig extends Config where
  minWindowTimeMs : ℕ
  maxSignalFeedAgeMs : ℕ
  maxQuoteAgeMs : ℕ
  latencyArbMomentumThreshold : ℚ
  latencyArbMinAsk : ℚ
  latencyArbCooldownMs : ℕ
  latencyArbAdaptiveWindowMs : ℕ
  calmPersistenceMinAbsDistanceBps : ℚ
  calmPersistenceDistanceVolRatioThreshold : ℚ
  calmPersistenceMinAlignmentFraction : ℚ
  calmPersistenceMaxFairBias : ℚ
  calmPersistenceMinExpectedEdge : ℚ

/-- The whole of what a strategy is evaluated on. -/
structure FullStrategyContext where
  binancePrice : ℚ
  binanceMomentum : ℚ
  chainlinkPrice : Option ℚ
  bookState : BookState
  windowOpenPrice : Option ℚ
  windowTimeRemainingMs : ℕ
  nowUs : Option ℕ
  features : FullFeatureSnapshot

/-- The part that regimes are detected from. -/
def FullStrategyContext.toStrategyContext (ctx : FullStrategyContext) : StrategyContext where
  bookState := ctx.bookState
  windowTimeRemainingMs := ctx.windowTimeRemainingMs
  features := ctx.features.toSignalFeatureSnapshot

/-- A trading strategy that reads the whole context. -/
class FullStrategy (σ : Type) where
  /-- Returns the stable portfolio family used by routing and sleeves. -/
  family : σ → StrategyFamily
  /-- Evaluates the current market context and returns any generated signals. -/
  evaluate : σ → FullStrategyContext → StrategyConfig → ℕ → StrategyResult × σ

/-- The signals have the label of the family, and only spread capture answers with a batch. -/
def StrategyResult.LabelledBy (family : StrategyFamily) (result : StrategyResult) : Prop :=
  (∀ signal ∈ result.signals, signal.strategy = family.asStr) ∧
    ∀ signals, result = .batch signals → family = .spreadCapture

theorem labelledBy_rejected (family : StrategyFamily) (rejection : StrategyRejection) :
    (StrategyResult.rejected rejection).LabelledBy family :=
  ⟨fun _ hsignal => absurd hsignal List.not_mem_nil, fun _ hbatch => by cases hbatch⟩

theorem labelledBy_single {family : StrategyFamily} {signal : Signal}
    (h : signal.strategy = family.asStr) : (StrategyResult.single signal).LabelledBy family :=
  ⟨fun _ hsignal => List.mem_singleton.mp hsignal ▸ h, fun _ hbatch => by cases hbatch⟩

/-- The strategies label what they answer with their family. -/
class LawfulFullStrategy (σ : Type) [FullStrategy σ] : Prop where
  labelled : ∀ (strategy : σ) ctx config nowMs,
    (FullStrategy.evaluate strategy ctx config nowMs).1.LabelledBy
      (FullStrategy.family (FullStrategy.evaluate strategy ctx config nowMs).2)

/-- A strategy of the decision engine, with what it reads beyond the context and the settings of the
engine. -/
structure SituatedStrategy (σ : Type) where
  strategy : σ
  situate : StrategyContext → Config → ℕ → FullStrategyContext × StrategyConfig

instance {σ : Type} [FullStrategy σ] : Strategy (SituatedStrategy σ) where
  family situated := FullStrategy.family situated.strategy
  evaluate situated ctx config nowMs :=
    let (fullCtx, fullConfig) := situated.situate ctx config nowMs
    let (result, strategy) := FullStrategy.evaluate situated.strategy fullCtx fullConfig nowMs
    (result, { situated with strategy })

instance {σ : Type} [FullStrategy σ] [LawfulFullStrategy σ] :
    LawfulStrategy (SituatedStrategy σ) where
  named situated ctx config nowMs :=
    (LawfulFullStrategy.labelled situated.strategy (situated.situate ctx config nowMs).1
      (situated.situate ctx config nowMs).2 nowMs).1
  batch situated ctx config nowMs :=
    (LawfulFullStrategy.labelled situated.strategy (situated.situate ctx config nowMs).1
      (situated.situate ctx config nowMs).2 nowMs).2

/-- Return whether the current quote snapshot is fresh enough to trade. -/
def quotesAreFresh (ctx : FullStrategyContext) (config : StrategyConfig) : Bool :=
  ctx.features.bookStalenessMs.all (· ≤ config.maxBookStalenessMs) &&
    ctx.features.quoteAgeMs.all (· ≤ config.maxQuoteAgeMs)

end BubaPaint
