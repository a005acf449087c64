import BubaPaint.Strategies.LatencyArb

/-!
# The spread capture

A strategy that buys both sides of a market when their asks cost less than the winning side pays
out. It keeps no state. The samples of its rejections and the evidence of its signals are left out.
-/

namespace BubaPaint

/-- The spread capture. -/
structure SpreadCaptureStrategy where
  deriving DecidableEq

/-- Hold the net edge and the confidence derived from one spread quote snapshot. -/
structure SpreadDecision where
  expectedEdge : ℚ
  confidence : ℚ

namespace SpreadCaptureStrategy

/-- Builds one explicit rejected result for live diagnostics. -/
def reject (reason : StrategyRejectionReason) : StrategyResult :=
  .rejected { strategy := "spread-capture", reason }

/-- Return whether the external move and quote churn imply excessive legging risk. -/
def leggingRiskIsAcceptable (ctx : FullStrategyContext) (config : StrategyConfig) : Bool :=
  let moveVelocity := |(ctx.features.return250ms.or
    (ctx.features.return500ms.or ctx.features.return1000ms)).getD ctx.binanceMomentum|
  let quoteChurn := ctx.features.polymarketQuoteChurnPerS.getD 0
  decide (moveVelocity ≤ config.latencyArbMomentumThreshold * 2) &&
    decide (quoteChurn ≤ config.spreadCaptureMaxQuoteChurnPerS)

/-- Validates the current book snapshot and extracts the best quotes for both legs. -/
def snapshotForEvaluation (ctx : FullStrategyContext) (config : StrategyConfig) :
    Except StrategyResult PriceLevels :=
  match ctx.bookState.up, ctx.bookState.down with
  | some upBook, some downBook =>
    if !quotesAreFresh ctx config then .error (reject .featuresStale)
    else if ctx.features.interLegSkewMs.any (· > config.spreadCaptureMaxLegSkewMs) then
      .error (reject .legsOutOfSync)
    else if !leggingRiskIsAcceptable ctx config then .error (reject .leggingRiskTooHigh)
    else if upBook.bestAsk ≤ 0 ∨ downBook.bestAsk ≤ 0 then .error (reject .nonPositiveQuotes)
    else if upBook.bestAsk < config.spreadCaptureMinAsk ∨
        downBook.bestAsk < config.spreadCaptureMinAsk then
      .error (reject .entryAskBelowMin)
    else .ok { upAsk := upBook.bestAsk, downAsk := downBook.bestAsk }
  | _, _ => .error (reject .bookUnavailable)

/-- Converts one validated spread quote snapshot into a tradeable edge decision. -/
def buildDecision (ctx : FullStrategyContext) (config : StrategyConfig) (now : ℕ)
    (snapshot : PriceLevels) : Except StrategyResult SpreadDecision :=
  let totalAsk := snapshot.upAsk + snapshot.downAsk
  if totalAsk ≥ config.spreadCaptureThreshold then .error (reject .spreadThresholdNotMet)
  else
    -- the fees of the configuration, whatever the market says
    let feeParams := resolveFeeParams config.toConfig none now
    let expectedSlippage :=
      ctx.features.expectedUpSlippage.getD 0 + ctx.features.expectedDownSlippage.getD 0
    let expectedEdge :=
      spreadNetEdge snapshot.upAsk snapshot.downAsk 1 feeParams.feeRate feeParams.exponent -
        expectedSlippage
    if expectedEdge ≤ 0 then .error (reject .expectedEdgeNonPositive)
    else
      let maxEdge := max (1 - config.spreadCaptureThreshold) (1 / 10 ^ 6)
      .ok
        { expectedEdge
          confidence := clampBetween (1 / 2) 1 (1 / 2 + 1 / 2 * (expectedEdge / maxEdge)) }

def legSignal (now : ℕ) (snapshot : PriceLevels) (decision : SpreadDecision)
    (direction : SignalDirection) : Signal where
  timestamp := now
  strategy := "spread-capture"
  direction := direction
  confidence := decision.confidence
  upAsk := snapshot.upAsk
  downAsk := snapshot.downAsk

/-- Evaluates the current book snapshot for a two-leg spread-capture setup. -/
def evaluate (strategy : SpreadCaptureStrategy) (ctx : FullStrategyContext)
    (config : StrategyConfig) (now : ℕ) : StrategyResult × SpreadCaptureStrategy :=
  match snapshotForEvaluation ctx config with
  | .error rejection => (rejection, strategy)
  | .ok snapshot =>
    match buildDecision ctx config now snapshot with
    | .error rejection => (rejection, strategy)
    | .ok decision =>
      (.batch [legSignal now snapshot decision .up, legSignal now snapshot decision .down],
        strategy)

variable {ctx : FullStrategyContext} {config : StrategyConfig} {now : ℕ}

/-- What a snapshot has passed. -/
structure Tradeable (ctx : FullStrategyContext) (config : StrategyConfig)
    (upBook downBook : TopOfBook) : Prop where
  up : ctx.bookState.up = some upBook
  down : ctx.bookState.down = some downBook
  skew : ∀ skew ∈ ctx.features.interLegSkewMs, skew ≤ config.spreadCaptureMaxLegSkewMs
  churn : ∀ churn ∈ ctx.features.polymarketQuoteChurnPerS,
    churn ≤ config.spreadCaptureMaxQuoteChurnPerS
  upPositive : 0 < upBook.bestAsk
  downPositive : 0 < downBook.bestAsk
  upMin : config.spreadCaptureMinAsk ≤ upBook.bestAsk
  downMin : config.spreadCaptureMinAsk ≤ downBook.bestAsk

variable {snapshot : PriceLevels} {result : StrategyResult}

theorem snapshotForEvaluation_eq_ok (h : snapshotForEvaluation ctx config = .ok snapshot) :
    ∃ upBook downBook, Tradeable ctx config upBook downBook ∧
      snapshot = { upAsk := upBook.bestAsk, downAsk := downBook.bestAsk } := by
  unfold snapshotForEvaluation at h
  split at h
  · rename_i upBook downBook hup hdown
    split at h
    · cases h
    split at h
    · cases h
    rename_i hskew
    split at h
    · cases h
    rename_i hlegging
    split at h
    · cases h
    rename_i hpositive
    split at h
    · cases h
    rename_i hmin
    cases h
    push Not at hpositive hmin
    refine ⟨upBook, downBook, ⟨hup, hdown, ?_, ?_, hpositive.1, hpositive.2, hmin.1, hmin.2⟩, rfl⟩
    · intro skew hsome
      rw [Option.mem_def.mp hsome] at hskew
      simpa using hskew
    · intro churn hsome
      simp only [leggingRiskIsAcceptable, Option.mem_def.mp hsome, Option.getD_some,
        Bool.not_eq_true', Bool.not_eq_false, Bool.and_eq_true, decide_eq_true_eq] at hlegging
      exact hlegging.2
  · cases h

theorem buildDecision_eq_ok {decision : SpreadDecision}
    (h : buildDecision ctx config now snapshot = .ok decision) :
    snapshot.upAsk + snapshot.downAsk < config.spreadCaptureThreshold ∧
      ctx.features.expectedUpSlippage.getD 0 + ctx.features.expectedDownSlippage.getD 0 <
        spreadNetEdge snapshot.upAsk snapshot.downAsk 1
          (resolveFeeParams config.toConfig none now).feeRate
          (resolveFeeParams config.toConfig none now).exponent := by
  simp only [buildDecision] at h
  split at h
  · cases h
  rename_i htotal
  split at h
  · cases h
  rename_i hedge
  exact ⟨lt_of_not_ge htotal, by linarith⟩

theorem eq_reject_of_snapshotForEvaluation (h : snapshotForEvaluation ctx config = .error result) :
    ∃ reason, result = reject reason := by
  unfold snapshotForEvaluation at h
  split at h
  · repeat' split at h
    all_goals first | exact ⟨_, (Except.error.inj h).symm⟩ | cases h
  · exact ⟨_, (Except.error.inj h).symm⟩

theorem eq_reject_of_buildDecision (h : buildDecision ctx config now snapshot = .error result) :
    ∃ reason, result = reject reason := by
  simp only [buildDecision] at h
  repeat' split at h
  all_goals first | exact ⟨_, (Except.error.inj h).symm⟩ | cases h

/-- The gates that an evaluation has passed if it is not rejected. -/
theorem evaluate_of_ne_rejected {strategy : SpreadCaptureStrategy}
    (h : ∀ rejection, (strategy.evaluate ctx config now).1 ≠ .rejected rejection) :
    ∃ upBook downBook decision, Tradeable ctx config upBook downBook ∧
      buildDecision ctx config now ⟨upBook.bestAsk, downBook.bestAsk⟩ = .ok decision ∧
      (strategy.evaluate ctx config now).1 =
        .batch [legSignal now ⟨upBook.bestAsk, downBook.bestAsk⟩ decision .up,
          legSignal now ⟨upBook.bestAsk, downBook.bestAsk⟩ decision .down] := by
  unfold evaluate at h ⊢
  cases hsnapshot : snapshotForEvaluation ctx config with
  | error rejection =>
    obtain ⟨reason, rfl⟩ := eq_reject_of_snapshotForEvaluation hsnapshot
    exact absurd (by rw [hsnapshot]; rfl) (h _)
  | ok snapshot =>
    obtain ⟨upBook, downBook, htradeable, rfl⟩ := snapshotForEvaluation_eq_ok hsnapshot
    simp only [hsnapshot] at h ⊢
    cases hdecision : buildDecision ctx config now ⟨upBook.bestAsk, downBook.bestAsk⟩ with
    | error rejection =>
      obtain ⟨reason, rfl⟩ := eq_reject_of_buildDecision hdecision
      exact absurd (by rw [hdecision]; rfl) (h _)
    | ok decision => exact ⟨upBook, downBook, decision, htradeable, hdecision, rfl⟩

end SpreadCaptureStrategy

instance : FullStrategy SpreadCaptureStrategy where
  family _ := .spreadCapture
  evaluate := SpreadCaptureStrategy.evaluate

instance : LawfulFullStrategy SpreadCaptureStrategy where
  labelled strategy ctx config now := by
    change (strategy.evaluate ctx config now).1.LabelledBy .spreadCapture
    by_cases hrejected : ∃ rejection, (strategy.evaluate ctx config now).1 = .rejected rejection
    · obtain ⟨rejection, hrejected⟩ := hrejected
      rw [hrejected]
      exact labelledBy_rejected _ _
    · obtain ⟨upBook, downBook, decision, -, -, hbatch⟩ :=
        SpreadCaptureStrategy.evaluate_of_ne_rejected (not_exists.mp hrejected)
      rw [hbatch]
      refine ⟨fun signal hsignal => ?_, fun _ _ => rfl⟩
      rcases List.mem_pair.mp hsignal with rfl | rfl <;> rfl

end BubaPaint
