import BubaPaint.Strategies.LatencyArb

/-!
# Runs of the latency arbitrage

However the market moves, two signals of the latency arbitrage lie at least the cooldown apart, and
each is for an ask in the configured range, seen while the features were fresh.

Main results:

- Theorem `signals_pass_and_cool_down`: signals lie a cooldown apart and pass the gates.
-/

namespace BubaPaint

def Signal.entryAsk (signal : Signal) : ℚ :=
  match signal.direction with
  | .up => signal.upAsk
  | .down => signal.downAsk

namespace LatencyArbStrategy

/-- What has let a signal pass, apart from the cooldown. -/
structure Passes (config : StrategyConfig) (ctx : FullStrategyContext) (signal : Signal) :
    Prop where
  time : config.minWindowTimeMs ≤ ctx.windowTimeRemainingMs
  fresh : featuresAreFresh ctx config = true
  positive : 0 < signal.upAsk ∧ 0 < signal.downAsk
  minAsk : config.latencyArbMinAsk ≤ signal.entryAsk
  maxAsk : signal.entryAsk < config.latencyArbMaxAsk
  confidence : 0 ≤ signal.confidence ∧ signal.confidence ≤ 1

variable {strategy strategy' : LatencyArbStrategy} {ctx : FullStrategyContext}
variable {config : StrategyConfig} {now : ℕ} {levels : PriceLevels}

theorem priceLevelsForEvaluation_ok
    (h : strategy.priceLevelsForEvaluation ctx config now = .ok levels) :
    config.minWindowTimeMs ≤ ctx.windowTimeRemainingMs ∧ featuresAreFresh ctx config = true ∧
      config.latencyArbCooldownMs ≤ now - strategy.lastSignalTime ∧
      0 < levels.upAsk ∧ 0 < levels.downAsk := by
  unfold priceLevelsForEvaluation at h
  grind

theorem clampBetween_zero_one (value : ℚ) :
    0 ≤ clampBetween 0 1 value ∧ clampBetween 0 1 value ≤ 1 := by
  unfold clampBetween
  grind

/-- A decision is for a side whose ask is in the range. -/
theorem buildDecision_ok {decision : LatencyArbDecision}
    (h : strategy.buildDecision ctx config now levels = (.ok decision, strategy')) :
    let ask := (Signal.mk now "" decision.direction 0 levels.upAsk levels.downAsk).entryAsk
    config.latencyArbMinAsk ≤ ask ∧ ask < config.latencyArbMaxAsk ∧
      0 ≤ decision.confidence ∧ decision.confidence ≤ 1 := by
  unfold buildDecision at h
  dsimp only at h
  split at h
  · cases h
  rename_i direction hdirection
  unfold selectDirection at hdirection
  cases direction
  all_goals
    dsimp only at h
    split at h
    · cases h
    rename_i hmin
    split at h
    · cases h
    cases h
    exact ⟨not_lt.mp hmin, by grind [Signal.entryAsk], clampBetween_zero_one _⟩

/-- An evaluation gives no signal, or one that passes. -/
theorem evaluate_cases (strategy : LatencyArbStrategy) (ctx : FullStrategyContext)
    (config : StrategyConfig) (now : ℕ) :
    ((strategy.evaluate ctx config now).1.signals = [] ∧
      (strategy.evaluate ctx config now).2.lastSignalTime = strategy.lastSignalTime) ∨
    ∃ signal, (strategy.evaluate ctx config now).1.signals = [signal] ∧ signal.timestamp = now ∧
      (strategy.evaluate ctx config now).2.lastSignalTime = now ∧
      config.latencyArbCooldownMs ≤ now - strategy.lastSignalTime ∧ Passes config ctx signal := by
  have hrecorded : ∀ (strategy : LatencyArbStrategy) momentum,
      (strategy.recordMomentumSample momentum now).lastSignalTime = strategy.lastSignalTime := by
    intro strategy momentum
    unfold recordMomentumSample
    dsimp only
    split <;> rfl
  have hbuilt : ∀ (strategy strategy' : LatencyArbStrategy) levels result,
      strategy.buildDecision ctx config now levels = (result, strategy') →
      strategy'.lastSignalTime = strategy.lastSignalTime := by
    intro strategy strategy' levels result h
    unfold buildDecision getAdaptiveThreshold at h
    grind
  unfold evaluate
  dsimp only
  split
  · rename_i rejection h
    obtain ⟨reason, rfl⟩ := eq_reject_of_priceLevelsForEvaluation h
    exact .inl ⟨rfl, hrecorded ..⟩
  rename_i levels h
  obtain ⟨htime, hfresh, hcooldown, hpositive⟩ := priceLevelsForEvaluation_ok h
  rw [hrecorded] at hcooldown
  split
  · rename_i rejection strategy' hbuild
    obtain ⟨reason, rfl⟩ := eq_reject_of_buildDecision hbuild
    exact .inl ⟨rfl, (hbuilt _ _ _ _ hbuild).trans (hrecorded ..)⟩
  · rename_i decision strategy' hbuild
    obtain ⟨hmin, hmax, hconfidence⟩ := buildDecision_ok hbuild
    exact .inr ⟨_, rfl, rfl, rfl, hcooldown, htime, hfresh, hpositive, hmin, hmax, hconfidence⟩

/-- The signals of a run of evaluations, each on a context at a time. -/
def signalsOf (config : StrategyConfig) (strategy : LatencyArbStrategy) :
    List (FullStrategyContext × ℕ) → List Signal
  | [] => []
  | (ctx, now) :: rest =>
    let (result, next) := strategy.evaluate ctx config now
    result.signals ++ signalsOf config next rest

/-- In every run, from any state, the signals lie a cooldown apart, the first one from the last one
before the run, and each has passed on the context at its time. -/
theorem signals_pass_and_cool_down (config : StrategyConfig) (strategy : LatencyArbStrategy)
    (evaluations : List (FullStrategyContext × ℕ)) :
    let signals := signalsOf config strategy evaluations
    (strategy.lastSignalTime :: signals.map (·.timestamp)).Pairwise
      (fun earlier later => config.latencyArbCooldownMs ≤ later - earlier) ∧
    ∀ signal ∈ signals, ∃ ctx, (ctx, signal.timestamp) ∈ evaluations ∧
      Passes config ctx signal := by
  induction evaluations generalizing strategy with
  | nil => simp [signalsOf]
  | cons evaluation rest ih =>
    obtain ⟨hspaced, hpasses⟩ := ih (strategy.evaluate evaluation.1 config evaluation.2).2
    have hrest : ∀ signal ∈ signalsOf config (strategy.evaluate evaluation.1 config evaluation.2).2
        rest, ∃ ctx, (ctx, signal.timestamp) ∈ evaluation :: rest ∧ Passes config ctx signal := by
      intro signal hsignal
      obtain ⟨ctx, hctx, h⟩ := hpasses signal hsignal
      exact ⟨ctx, List.mem_cons_of_mem _ hctx, h⟩
    unfold signalsOf
    dsimp only
    rcases strategy.evaluate_cases evaluation.1 config evaluation.2 with
      ⟨hnone, hlast⟩ | ⟨signal, hone, htime, hlast, hcooldown, hpass⟩
    · rw [hnone, List.nil_append]
      exact ⟨hlast ▸ hspaced, hrest⟩
    · rw [hlast] at hspaced
      rw [hone, List.singleton_append, List.map_cons, htime]
      refine ⟨.cons ?_ hspaced, List.forall_mem_cons.mpr
        ⟨⟨evaluation.1, by simp [htime], hpass⟩, hrest⟩⟩
      -- Two cooldowns are more than one, and without a cooldown there is nothing to show.
      refine List.forall_mem_cons.mpr ⟨hcooldown, fun later hlater => ?_⟩
      have hlater := List.rel_of_pairwise_cons hspaced hlater
      omega

end LatencyArbStrategy

end BubaPaint
