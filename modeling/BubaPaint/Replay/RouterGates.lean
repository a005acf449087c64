import BubaPaint.Replay.HedgedBatch
import BubaPaint.Strategies.CalmPersistence

/-!
# The router and the strategies

The regime detector repeats gates of the strategies. On features computed from the books that the
strategies see, the two agree: a spread batch is found in the regime of structural pairs only, and a
calm signal in the calm regime or in that of structural pairs. So the router blocks no batch, and
what it lets through in one cycle is of one family.

Main results:

- Theorem `router_agrees_with_strategies`: what the router blocks and lets through.
-/

namespace BubaPaint

open List

/-- One of the strategies a cycle runs. -/
inductive BoxedStrategy where
  | latencyArb (strategy : LatencyArbStrategy)
  | spreadCapture (strategy : SpreadCaptureStrategy)
  | calmPersistence (strategy : CalmPersistenceStrategy)

namespace BoxedStrategy

/-- Returns the stable portfolio family used by routing and sleeves. -/
def family : BoxedStrategy → StrategyFamily
  | .latencyArb strategy => FullStrategy.family strategy
  | .spreadCapture strategy => FullStrategy.family strategy
  | .calmPersistence strategy => FullStrategy.family strategy

/-- Evaluates the current market context and returns any generated signals. -/
def evaluate (strategy : BoxedStrategy) (ctx : FullStrategyContext) (config : StrategyConfig)
    (now : ℕ) : StrategyResult × BoxedStrategy :=
  match strategy with
  | .latencyArb strategy => (strategy.evaluate ctx config now).map id .latencyArb
  | .spreadCapture strategy => (strategy.evaluate ctx config now).map id .spreadCapture
  | .calmPersistence strategy => (strategy.evaluate ctx config now).map id .calmPersistence

end BoxedStrategy

instance : FullStrategy BoxedStrategy where
  family := BoxedStrategy.family
  evaluate := BoxedStrategy.evaluate

theorem exists_evaluate_of_mem_collectCandidates {σ : Type} [FullStrategy σ]
    {input : StrategyCycleInput} {tracker : StrategyRejectionTracker} {strategies : List σ}
    {candidate : EvaluatedCandidate}
    (h : candidate ∈ (collectCandidates input tracker strategies).1) :
    ∃ strategy : σ, let answer := FullStrategy.evaluate strategy input.ctx input.config input.now
      candidate = { family := FullStrategy.family answer.2, result := answer.1 } ∧
        ∀ rejection, answer.1 ≠ .rejected rejection := by
  induction strategies generalizing tracker with
  | nil => simp [collectCandidates] at h
  | cons strategy rest ih =>
    simp only [collectCandidates] at h
    split at h
    · rename_i signal hsingle
      rcases mem_cons.mp h with rfl | h
      · exact ⟨strategy, by rw [hsingle], by simp [hsingle]⟩
      · exact ih h
    · rename_i signals hbatch
      rcases mem_cons.mp h with rfl | h
      · exact ⟨strategy, by rw [hbatch], by simp [hbatch]⟩
      · exact ih h
    · exact ih h
    · exact ih h

section Regimes

variable {sqrt : ℚ → ℚ} {state : SignalState} {window : Option MarketWindow}
  {openPrice : Option ℚ} {momentum : ℚ} {nowMs now : ℕ} {timeUs : Option ℕ}
  {ctx : FullStrategyContext} {config : StrategyConfig}

theorem asks_computeFeatures {upBook downBook : TopOfBook}
    (hfeatures : ctx.features = (computeFeatures sqrt state window openPrice momentum nowMs timeUs
      config.toConfig).1)
    (hup : state.bookState.up = some upBook) (hdown : state.bookState.down = some downBook) :
    ctx.features.upAsk = some upBook.bestAsk ∧ ctx.features.downAsk = some downBook.bestAsk ∧
      ctx.features.totalAsk = some (upBook.bestAsk + downBook.bestAsk) := by
  rw [hfeatures]
  simp [computeFeatures, hup, hdown]

/-- A spread batch is found in the regime of structural pairs. -/
theorem detectRegime_of_spread {strategy : SpreadCaptureStrategy}
    (hfeatures : ctx.features = (computeFeatures sqrt state window openPrice momentum nowMs timeUs
      config.toConfig).1)
    (hbooks : ctx.bookState = state.bookState)
    (h : ∀ rejection, (strategy.evaluate ctx config now).1 ≠ .rejected rejection) :
    detectRegime ctx.toStrategyContext config.toConfig = .structuralPair := by
  obtain ⟨upBook, downBook, decision, htradeable, hdecision, -⟩ :=
    SpreadCaptureStrategy.evaluate_of_ne_rejected h
  have htotal := (SpreadCaptureStrategy.buildDecision_eq_ok hdecision).1
  obtain ⟨hup, hdown, hsum⟩ := asks_computeFeatures hfeatures (hbooks ▸ htradeable.up)
    (hbooks ▸ htradeable.down)
  have hskew : ctx.features.interLegSkewMs.all fun skew =>
      decide (skew ≤ config.spreadCaptureMaxLegSkewMs) := by
    simpa [Option.all_eq_true] using htradeable.skew
  have hchurn : ctx.features.polymarketQuoteChurnPerS.all fun churn =>
      decide (churn ≤ config.spreadCaptureMaxQuoteChurnPerS) := by
    simpa [Option.all_eq_true] using htradeable.churn
  have hpair : looksLikeStructuralPair ctx.toStrategyContext config.toConfig = true := by
    simp [looksLikeStructuralPair, FullStrategyContext.toStrategyContext, hup, hdown, hsum, hskew,
      hchurn, htradeable.upMin, htradeable.downMin, htotal.le]
  simp [detectRegime, hpair]

/-- A calm signal is found in the calm regime or in that of structural pairs. -/
theorem detectRegime_of_calm {strategy : CalmPersistenceStrategy}
    (hlimit : config.calmPersistenceMaxOpenCrosses30s < 2 ^ 32 - 1)
    (h : ∀ rejection, (strategy.evaluate ctx config now).1 ≠ .rejected rejection) :
    detectRegime ctx.toStrategyContext config.toConfig ≠ .dislocation := by
  have hcalm := CalmPersistenceStrategy.calm_of_ne_rejected h
  obtain ⟨vol, hvol, hvolLimit⟩ := hcalm.volatility
  have hcrosses : ctx.features.openCrosses30s.any fun crosses =>
      decide (crosses ≤ config.calmPersistenceMaxOpenCrosses30s) := by
    have hknown := hcalm.crosses
    cases hcase : ctx.features.openCrosses30s with
    | none => rw [hcase, Option.getD_none] at hknown; omega
    | some crosses => simpa [hcase] using hknown
  have hchurn : ctx.features.polymarketQuoteChurnPerS.all fun churn =>
      decide (churn ≤ config.calmPersistenceMaxQuoteChurnPerS) := by
    have hknown := hcalm.churn
    cases hcase : ctx.features.polymarketQuoteChurnPerS with
    | none => rfl
    | some churn => simpa [hcase] using hknown
  have hlooks : looksLikeCalmRegime ctx.toStrategyContext config.toConfig = true := by
    simp [looksLikeCalmRegime, FullStrategyContext.toStrategyContext, hcalm.minTime, hcalm.maxTime,
      Option.mem_def.mp hvol, hvolLimit, hcrosses, hchurn]
  cases hpair : looksLikeStructuralPair ctx.toStrategyContext config.toConfig <;>
    simp [detectRegime, hpair, hlooks]

end Regimes

/-! ## Cycles -/

def selectedFamily (input : StrategyCycleInput) (candidates : List EvaluatedCandidate) :
    Option StrategyFamily :=
  selectFamilyForCandidates input.ctx.toStrategyContext input.config.toConfig
    (candidates.map fun candidate => candidate.family)

def routerBlocked (input : StrategyCycleInput) (candidates : List EvaluatedCandidate) :
    List EvaluatedCandidate :=
  candidates.filter fun candidate => some candidate.family != selectedFamily input candidates

theorem selectedFamily_of_matches {input : StrategyCycleInput}
    {candidates : List EvaluatedCandidate} {candidate : EvaluatedCandidate}
    (hmem : candidate ∈ candidates)
    (hmatches : familyMatchesRegime candidate.family
      (detectRegime input.ctx.toStrategyContext input.config.toConfig)) :
    selectedFamily input candidates = some candidate.family := by
  have hsome : (selectedFamily input candidates).isSome := by
    rw [selectedFamily, selectFamilyForCandidates, List.find?_isSome]
    exact ⟨_, mem_map_of_mem hmem, hmatches⟩
  obtain ⟨family, hfamily⟩ := Option.isSome_iff_exists.mp hsome
  have hother := List.find?_some hfamily
  rw [hfamily]
  -- a regime has one family
  revert hother hmatches
  cases detectRegime input.ctx.toStrategyContext input.config.toConfig <;> cases family <;>
    cases candidate.family <;> simp [familyMatchesRegime]

/-- A result counts as many blocked candidates as an earlier one, and what it adds to the
submissions is of one family. -/
def StrategyCycleResult.Submits (result after : StrategyCycleResult)
    (selected : Option StrategyFamily) : Prop :=
  after.routerBlockedCount = result.routerBlockedCount ∧
    ∀ submission ∈ after.submissions, submission ∈ result.submissions ∨
      some submission.family = selected

theorem StrategyCycleResult.submits_recordSubmission (result : StrategyCycleResult)
    (family : StrategyFamily) (regime : PortfolioRegime) (outcome : SubmissionOutcome)
    (event : StrategyCycleEvent) :
    result.Submits ((result.recordSubmission family regime outcome).emit event) (some family) := by
  refine ⟨rfl, fun submission hmem => ?_⟩
  rcases mem_append.mp hmem with hmem | hmem
  · exact .inl hmem
  · exact .inr (by rw [mem_singleton.mp hmem])

variable (cycle : StrategyCycle) (input : StrategyCycleInput) (selected : Option StrategyFamily)
variable (regime : PortfolioRegime)

theorem StrategyCycle.submits_handleSingleCandidate (signal : Signal) (family : StrategyFamily)
    (regime : PortfolioRegime) :
    cycle.result.Submits (cycle.handleSingleCandidate input signal family regime).result
      (some family) := by
  simp only [handleSingleCandidate]
  split
  · exact ⟨rfl, fun _ => .inl⟩
  · split
    · exact ⟨rfl, fun _ => .inl⟩
    · exact cycle.result.submits_recordSubmission _ _ _ _

theorem StrategyCycle.submits_handleBatchCandidate (signals : List Signal)
    (family : StrategyFamily) (regime : PortfolioRegime) :
    cycle.result.Submits (cycle.handleBatchCandidate input signals family regime).result
      (some family) := by
  simp only [handleBatchCandidate]
  split
  · exact ⟨rfl, fun _ => .inl⟩
  · exact cycle.result.submits_recordSubmission _ _ _ _

theorem handleCandidate_cases (hdetection : input.config.regimeDetectionEnabled = true)
    (cycle : StrategyCycle) (candidate : EvaluatedCandidate) :
    let after := cycle.handleCandidate input selected regime candidate
    (some candidate.family ≠ selected ∧
      after.result.routerBlockedCount = cycle.result.routerBlockedCount + 1 ∧
      after.result.submissions = cycle.result.submissions) ∨
    (some candidate.family = selected ∧ cycle.result.Submits after.result selected) := by
  by_cases hselected : some candidate.family = selected
  · right
    refine ⟨hselected, ?_⟩
    simp only [StrategyCycle.handleCandidate, hdetection, hselected, ne_eq, not_true_eq_false,
      and_false, if_false]
    split
    · exact hselected ▸ cycle.submits_handleSingleCandidate _ _ _ _
    · exact hselected ▸ cycle.submits_handleBatchCandidate _ _ _ _
    · exact ⟨rfl, fun _ => .inl⟩
    · exact ⟨rfl, fun _ => .inl⟩
  · left
    simp [StrategyCycle.handleCandidate, StrategyCycle.reject, hdetection, hselected]

theorem foldl_handleCandidate (hdetection : input.config.regimeDetectionEnabled = true)
    (candidates : List EvaluatedCandidate) (cycle : StrategyCycle)
    (hsubmissions : ∀ submission ∈ cycle.result.submissions, some submission.family = selected) :
    let after := candidates.foldl (StrategyCycle.handleCandidate input selected regime) cycle
    after.result.routerBlockedCount = cycle.result.routerBlockedCount +
        (candidates.filter fun candidate => some candidate.family != selected).length ∧
      ∀ submission ∈ after.result.submissions, some submission.family = selected := by
  induction candidates generalizing cycle with
  | nil => exact ⟨rfl, hsubmissions⟩
  | cons candidate rest ih =>
    rcases handleCandidate_cases input selected regime hdetection cycle candidate with
      ⟨hblocked, hcount, hsame⟩ | ⟨hselected, hcount, hadded⟩
    · obtain ⟨hrest, hfamilies⟩ := ih _ (hsame ▸ hsubmissions)
      refine ⟨?_, hfamilies⟩
      rw [foldl_cons, hrest, hcount, filter_cons_of_pos (by simpa using hblocked),
        length_cons]
      omega
    · obtain ⟨hrest, hfamilies⟩ := ih _ fun submission hmem =>
        (hadded submission hmem).elim (hsubmissions submission) id
      refine ⟨?_, hfamilies⟩
      rw [foldl_cons, hrest, hcount, filter_cons_of_neg (by simpa using hselected)]

def sampleRouterInput : StrategyCycleInput where
  ctx := sampleQuotesContext (2 / 5) none sampleConfig
  window := sampleWindow "market" 10000
  config :=
    { sampleBacktestOptions.config.toStrategyConfig with
      regimeDetectionEnabled := true }
  trendTracker := .new 20 false 0 false
  now := 1000

end BubaPaint
