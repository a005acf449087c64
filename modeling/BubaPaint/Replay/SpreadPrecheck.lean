import BubaPaint.Decision.ReservationCaps
import BubaPaint.Decision.TradingDesk
import BubaPaint.Replay.StrategyCycle

/-!
# The affordability precheck of a spread

A spread is checked before it is submitted, and sized when its capital is reserved. Both read the
caps of its sleeve. Only the reservation reads the room below the open-exposure ceiling, and only
the check allows for a rounding error.

Main results:

- Theorem `BankrollManager.queueable_iff`: when a spread passes the check
- Theorem `BankrollManager.pairs_le_reserved_iff`: when enough pairs are reserved
- Theorem `precheckKept_iff`: when both agree
-/

namespace BubaPaint

open BankrollManager

def leastPairs (upAsk downAsk orderMinSize : ℚ) (config : Config) : ℤ :=
  max (max ⌈config.minBetUsd / upAsk⌉ ⌈config.minBetUsd / downAsk⌉) (max ⌈orderMinSize⌉ 1)

/-- The asks of a spread are prices. -/
structure SpreadAsks (upAsk downAsk : ℚ) : Prop where
  up_pos : 0 < upAsk
  up_lt : upAsk < 1
  down_pos : 0 < downAsk
  down_lt : downAsk < 1

section Asks

variable {upAsk downAsk orderMinSize : ℚ} {config : Config}

theorem SpreadAsks.pair_pos (h : SpreadAsks upAsk downAsk) : 0 < upAsk + downAsk :=
  add_pos h.up_pos h.down_pos

theorem leastPairs_le_iff (hup : 0 < upAsk) (hdown : 0 < downAsk) {pairs : ℤ} :
    leastPairs upAsk downAsk orderMinSize config ≤ pairs ↔
      config.minBetUsd ≤ pairs * upAsk ∧ config.minBetUsd ≤ pairs * downAsk ∧
        orderMinSize ≤ pairs ∧ 1 ≤ pairs := by
  unfold leastPairs
  simp only [max_le_iff, Int.ceil_le, div_le_iff₀ hup, div_le_iff₀ hdown, and_assoc]

theorem leastPairs_pos (upAsk downAsk orderMinSize : ℚ) (config : Config) :
    0 < (leastPairs upAsk downAsk orderMinSize config : ℚ) := by
  have hle : 1 ≤ leastPairs upAsk downAsk orderMinSize config :=
    (le_max_right _ _).trans (le_max_right _ _)
  exact_mod_cast hle

theorem spreadSubmissionRejectionReason_of_le (hup : 0 < upAsk) (hdown : 0 < downAsk) {pairs : ℤ}
    (h : leastPairs upAsk downAsk orderMinSize config ≤ pairs) :
    spreadSubmissionRejectionReason pairs pairs upAsk downAsk orderMinSize config.minBetUsd =
      none := by
  rcases (leastPairs_le_iff hup hdown).mp h with ⟨hupBet, hdownBet, hsize, -⟩
  unfold spreadSubmissionRejectionReason submissionSizeRejectionReason
  simp [not_lt.mpr hupBet, not_lt.mpr hdownBet, not_lt.mpr hsize]

end Asks

/-! ## Caps -/

/-- A cost stays under the caps that both read. -/
structure SleeveCaps (bankroll : BankrollManager) (family : StrategyFamily) (config : Config)
    (cost : ℚ) : Prop where
  free : cost ≤ bankroll.currentBalance - bankroll.effectiveReservedCapital config
  fraction : cost ≤ bankroll.currentBalance * config.maxPositionUsdFraction
  usd : cost ≤ config.maxPositionUsd
  target : cost ≤ bankroll.currentBalance * positionFractionTarget family config
  sleeve : ∀ fraction ∈ explicitFamilySleeveFraction family config,
    cost ≤ bankroll.currentBalance * fraction - bankroll.effectiveReservedForFamily family config

/-- A cost stays under the open-exposure ceiling. -/
def LeavesHeadroom (bankroll : BankrollManager) (config : Config) (cost : ℚ) : Prop :=
  ∀ ceiling ∈ config.openExposureCeilingUsd,
    bankroll.activeReservedCapital + bankroll.pendingSettlementReservedCapital + cost ≤ ceiling

/-- The cheapest legal spread is over a cap that both read by more than the rounding error, or
under all of them and under the ceiling. -/
def CeilingLeavesRoom (bankroll : BankrollManager) (upAsk downAsk orderMinSize : ℚ)
    (family : StrategyFamily) (config : Config) : Prop :=
  let cost := leastPairs upAsk downAsk orderMinSize config * (upAsk + downAsk)
  cost ≤ 1 / 10 ^ 9 ∨ SleeveCaps bankroll family config (cost - 1 / 10 ^ 9) →
    SleeveCaps bankroll family config cost ∧ LeavesHeadroom bankroll config cost

theorem SleeveCaps.mono {bankroll : BankrollManager} {family : StrategyFamily} {config : Config}
    {cost cost' : ℚ} (h : SleeveCaps bankroll family config cost) (hle : cost' ≤ cost) :
    SleeveCaps bankroll family config cost' where
  free := hle.trans h.free
  fraction := hle.trans h.fraction
  usd := hle.trans h.usd
  target := hle.trans h.target
  sleeve := fun fraction hfraction => hle.trans (h.sleeve fraction hfraction)

theorem le_max_zero_iff {amount cost : ℚ} (hpos : 0 < cost) : cost ≤ max amount 0 ↔ cost ≤ amount :=
  ⟨le_of_le_max_zero hpos, fun hle => hle.trans (le_max_left _ _)⟩

namespace BankrollManager

variable {bankroll : BankrollManager} {family : StrategyFamily} {config : Config} {cost : ℚ}

theorem le_availableSpreadBudget_iff (hpos : 0 < cost) :
    cost ≤ bankroll.availableSpreadBudgetForFamily family config ↔
      SleeveCaps bankroll family config cost := by
  unfold availableSpreadBudgetForFamily
  rw [le_max_zero_iff hpos, le_capAt]
  simp only [le_min_iff, le_max_zero_iff hpos]
  constructor
  · rintro ⟨⟨⟨⟨hfree, hfraction⟩, husd⟩, htarget⟩, hsleeve⟩
    refine ⟨hfree, hfraction, husd, htarget, fun fraction hmem => ?_⟩
    exact le_of_le_max_zero hpos (hsleeve _ (Option.mem_map_of_mem _ hmem))
  · rintro ⟨hfree, hfraction, husd, htarget, hsleeve⟩
    refine ⟨⟨⟨⟨hfree, hfraction⟩, husd⟩, htarget⟩, fun limit hmem => ?_⟩
    rcases Option.mem_map.mp hmem with ⟨fraction, hfraction, heq⟩
    rw [← heq, le_max_zero_iff hpos]
    exact hsleeve fraction hfraction

theorem le_availableCapital_iff (hpos : 0 < cost) :
    cost ≤ bankroll.availableCapital family config ↔
      SleeveCaps bankroll family config cost ∧ LeavesHeadroom bankroll config cost := by
  unfold availableCapital availableSingleBudget openExposureHeadroom LeavesHeadroom
  rw [le_capAt, le_min_iff, le_availableSpreadBudget_iff hpos]
  constructor
  · rintro ⟨⟨hcaps, -⟩, hroom⟩
    refine ⟨hcaps, fun ceiling hmem => ?_⟩
    have hle := le_of_le_max_zero hpos (hroom _ (Option.mem_map_of_mem _ hmem))
    linarith
  · rintro ⟨hcaps, hroom⟩
    refine ⟨⟨hcaps, hcaps.free⟩, fun limit hmem => ?_⟩
    rcases Option.mem_map.mp hmem with ⟨ceiling, hceiling, heq⟩
    rw [← heq, le_max_zero_iff hpos]
    have hle := hroom ceiling hceiling
    linarith

theorem availableSpreadBudget_nonneg (bankroll : BankrollManager) (family : StrategyFamily)
    (config : Config) : 0 ≤ bankroll.availableSpreadBudgetForFamily family config :=
  le_max_right _ _

theorem availableCapital_canTrade (bankroll : BankrollManager) (family : StrategyFamily)
    (config : Config) (nowMs : ℕ) :
    (bankroll.canTrade config nowMs).2.availableCapital family config =
      bankroll.availableCapital family config := by
  have hreserves := bankroll.toReserves_canTrade config nowMs
  have hbalance := bankroll.currentBalance_canTrade config nowMs
  generalize (bankroll.canTrade config nowMs).2 = after at *
  rcases bankroll with ⟨reserves⟩
  rcases after with ⟨reserves'⟩
  cases hreserves
  cases hbalance
  rfl

variable {upAsk downAsk orderMinSize : ℚ} {nowMs : ℕ}

theorem assessSpreadAffordabilityForFamily_spec (bankroll : BankrollManager) (orderMinSize : ℚ)
    (family : StrategyFamily) (config : Config) (hasks : SpreadAsks upAsk downAsk) :
    let check := bankroll.assessSpreadAffordabilityForFamily upAsk downAsk orderMinSize family
      config
    check.requiredPairUnits = leastPairs upAsk downAsk orderMinSize config ∧
      (check.queueable = true ↔
        leastPairs upAsk downAsk orderMinSize config * (upAsk + downAsk) ≤
          bankroll.availableSpreadBudgetForFamily family config + 1 / 10 ^ 9) := by
  have hmarket : max (⌈orderMinSize⌉ : ℚ) 1 =
      max (if orderMinSize > 0 then ⌈orderMinSize⌉ else 0 : ℚ) 1 := by
    by_cases hsize : orderMinSize > 0
    · rw [if_pos hsize]
    · have hceil : (⌈orderMinSize⌉ : ℚ) ≤ 0 := by
        exact_mod_cast Int.ceil_le.mpr (by simpa using hsize)
      rw [if_neg hsize, max_eq_right zero_le_one, max_eq_right (hceil.trans zero_le_one)]
  have hleast : (leastPairs upAsk downAsk orderMinSize config : ℚ) =
      max (max (max (⌈config.minBetUsd / upAsk⌉ : ℚ) ⌈config.minBetUsd / downAsk⌉)
        (if orderMinSize > 0 then ⌈orderMinSize⌉ else 0 : ℚ)) 1 := by
    unfold leastPairs
    push_cast
    rw [hmarket, ← max_assoc]
  unfold assessSpreadAffordabilityForFamily
  dsimp only
  rw [if_neg (by simp [hasks.up_pos, hasks.up_lt, hasks.down_pos, hasks.down_lt, hasks.pair_pos]),
    ← hleast]
  by_cases hbudget : bankroll.availableSpreadBudgetForFamily family config + 1 / 10 ^ 9 ≥
      leastPairs upAsk downAsk orderMinSize config * (upAsk + downAsk)
  · rw [if_pos hbudget]
    exact ⟨rfl, iff_of_true rfl hbudget⟩
  · rw [if_neg hbudget]
    exact ⟨rfl, iff_of_false Bool.false_ne_true hbudget⟩

/-- A spread passes the check if its cheapest size is within the caps, up to the rounding error. -/
theorem queueable_iff (hasks : SpreadAsks upAsk downAsk) :
    (bankroll.assessSpreadAffordabilityForFamily upAsk downAsk orderMinSize family
        config).queueable = true ↔
      leastPairs upAsk downAsk orderMinSize config * (upAsk + downAsk) ≤ 1 / 10 ^ 9 ∨
        SleeveCaps bankroll family config
          (leastPairs upAsk downAsk orderMinSize config * (upAsk + downAsk) - 1 / 10 ^ 9) := by
  rw [(assessSpreadAffordabilityForFamily_spec bankroll orderMinSize family config hasks).2]
  generalize (leastPairs upAsk downAsk orderMinSize config : ℚ) * (upAsk + downAsk) = cost
  have hnonneg := bankroll.availableSpreadBudget_nonneg family config
  by_cases hsmall : cost ≤ 1 / 10 ^ 9
  · simp only [hsmall, true_or, iff_true]
    linarith
  · have hpos : 0 < cost - 1 / 10 ^ 9 := by linarith
    rw [← sub_le_iff_le_add, le_availableSpreadBudget_iff hpos]
    simp only [hsmall, false_or]

theorem reservedPairs_eq (family : StrategyFamily) (hasks : SpreadAsks upAsk downAsk)
    (hcan : (bankroll.canTrade config nowMs).1 = true) :
    let pairs : ℚ :=
      max ⌊bankroll.availableCapital family config / (upAsk + downAsk)⌋ 0
    (bankroll.reserveSpreadCapitalForFamily upAsk downAsk family config nowMs).1 =
      (pairs, pairs) := by
  rw [← bankroll.availableCapital_canTrade family config nowMs]
  unfold reserveSpreadCapitalForFamily
  dsimp only
  rw [hcan]
  simp only [Bool.not_true, Bool.false_eq_true, if_false]
  rw [if_neg (by simp [hasks.up_pos, hasks.up_lt, hasks.down_pos, hasks.down_lt])]
  generalize (bankroll.canTrade config nowMs).2.availableCapital family config = available
  by_cases havailable : available ≤ 0
  · have hfloor : (⌊available / (upAsk + downAsk)⌋ : ℚ) ≤ 0 :=
      (Int.floor_le _).trans (div_nonpos_of_nonpos_of_nonneg havailable hasks.pair_pos.le)
    rw [if_pos havailable, max_eq_right hfloor]
  rw [if_neg havailable]
  by_cases hunits : (⌊available / (upAsk + downAsk)⌋ : ℚ) ≤ 0
  · rw [if_pos hunits, max_eq_right hunits]
  · rw [if_neg hunits, max_eq_left (not_le.mp hunits).le]

/-- Enough pairs are reserved if their cost is under all caps. -/
theorem pairs_le_reserved_iff (hasks : SpreadAsks upAsk downAsk)
    (hcan : (bankroll.canTrade config nowMs).1 = true) {pairs : ℤ} (hpairs : 0 < (pairs : ℚ)) :
    (pairs : ℚ) ≤ (bankroll.reserveSpreadCapitalForFamily upAsk downAsk family config nowMs).1.1 ↔
      SleeveCaps bankroll family config (pairs * (upAsk + downAsk)) ∧
        LeavesHeadroom bankroll config (pairs * (upAsk + downAsk)) := by
  rw [reservedPairs_eq family hasks hcan, le_max_zero_iff hpairs, Int.cast_le, Int.le_floor,
    le_div_iff₀ hasks.pair_pos, le_availableCapital_iff (mul_pos hpairs hasks.pair_pos)]

end BankrollManager

/-! ## Both engines -/

/-- The reasons that blame the size or the budget of a spread. -/
def sizeRejections : List String :=
  ["strategy_sleeve_exhausted", "below_market_min_size_on_submit", "below_min_bet_on_submit"]

/-- A submission is not rejected for the size or the budget of the spread. -/
def SubmissionOutcome.SizeAccepted (outcome : SubmissionOutcome) : Prop :=
  ∀ signalIds reason, outcome = .rejected signalIds reason → reason ∉ sizeRejections

/-- What passes the check is exactly what enough capital is reserved for, and neither engine rejects
it for its size. -/
structure PrecheckKept (bankroll : BankrollManager) (upAsk downAsk orderMinSize : ℚ)
    (family : StrategyFamily) (config : Config) (nowMs : ℕ) : Prop where
  agrees :
    let check := bankroll.assessSpreadAffordabilityForFamily upAsk downAsk orderMinSize family
      config
    let pairs := (bankroll.reserveSpreadCapitalForFamily upAsk downAsk family config nowMs).1
    check.queueable = true ↔ check.requiredPairUnits ≤ pairs.1 ∧ check.requiredPairUnits ≤ pairs.2
  live : family = .spreadCapture → ∀ (σ : Type) (pass : DecisionPass σ)
    (request : RuntimeDecisionRequest) (signals : List Signal) (signalIds : List ℤ)
    (upSignal downSignal : Signal), pass.engine.bankroll = bankroll →
    pass.engine.config = config → request.nowMs = nowMs →
    request.window.orderMinSize.getD 0 = orderMinSize →
    spreadLegs signals = some (upSignal, downSignal) → upSignal.upAsk = upAsk →
    downSignal.downAsk = downAsk →
    (∀ check ∈ pass.engine.assessSpreadBatchAffordability signals request.window,
      check.queueable = true) →
      (pass.submitSpread request signals signalIds).1.SizeAccepted
  paper : family = .spreadCapture → ∀ (state : PaperState) (signals : List Signal)
    (window : MarketWindow) (upSignal downSignal : Signal), state.bankroll = bankroll →
    window.orderMinSize.getD 0 = orderMinSize →
    spreadLegs signals = some (upSignal, downSignal) → upSignal.upAsk = upAsk →
    downSignal.downAsk = downAsk →
    (∀ check ∈ assessSpreadBatchAffordability signals window state.bankroll config,
      check.queueable = true) →
      (state.submitSpread signals window config nowMs).1.SizeAccepted

theorem QueueRejectionReason.not_mem_sizeRejections (reason : QueueRejectionReason) :
    reason.asStr ∉ sizeRejections := by
  cases reason <;> decide

theorem sizeAccepted_queued (signalIds : List ℤ) (orders : List QueuedOrderIntent) :
    (SubmissionOutcome.queued signalIds orders).SizeAccepted :=
  fun _ _ heq => SubmissionOutcome.noConfusion heq

theorem sizeAccepted_rejected {signalIds : List ℤ} {reason : String} (h : reason ∉ sizeRejections) :
    (SubmissionOutcome.rejected signalIds reason).SizeAccepted := by
  intro _ _ heq
  cases heq
  exact h

theorem spreadSignalPair_eq_legs {signals : List Signal} {signalIds : List ℤ}
    {upSignal downSignal upSignal' downSignal' : Signal} {upSignalId downSignalId : ℤ}
    (hlegs : spreadLegs signals = some (upSignal, downSignal))
    (hpair : spreadSignalPair signals signalIds =
      some (upSignal', downSignal', upSignalId, downSignalId)) :
    upSignal' = upSignal ∧ downSignal' = downSignal := by
  unfold spreadLegs at hlegs
  unfold spreadSignalPair at hpair
  simp only [Option.bind_eq_bind, Option.pure_def, Option.bind_eq_some_iff, Option.some.injEq,
    Prod.mk.injEq] at hlegs hpair
  obtain ⟨up, hup, down, hdown, rfl, rfl⟩ := hlegs
  obtain ⟨i, hi, j, hj, _, hupAt, _, hdownAt, _, -, _, -, rfl, rfl, rfl, rfl⟩ := hpair
  obtain ⟨i', hi', hupFound⟩ := exists_findIdx?_of_find? hup
  obtain ⟨j', hj', hdownFound⟩ := exists_findIdx?_of_find? hdown
  rw [hi, Option.some.injEq] at hi'
  rw [hj, Option.some.injEq] at hj'
  rw [hi', hupFound, Option.some.injEq] at hupAt
  rw [hj', hdownFound, Option.some.injEq] at hdownAt
  exact ⟨hupAt.symm, hdownAt.symm⟩

section Engines

variable {bankroll : BankrollManager} {upAsk downAsk orderMinSize : ℚ} {config : Config}
  {nowMs : ℕ}
variable {signals : List Signal} {upSignal downSignal : Signal}

theorem reserved_large_enough (hasks : SpreadAsks upAsk downAsk)
    (hcan : (bankroll.canTrade config nowMs).1 = true)
    (hroom : CeilingLeavesRoom bankroll upAsk downAsk orderMinSize .spreadCapture config)
    (hqueueable : (bankroll.assessSpreadAffordability upAsk downAsk orderMinSize
      config).queueable = true) :
    ∃ (pairs : ℤ) (bankroll' : BankrollManager),
      bankroll.reserveSpreadCapital upAsk downAsk config nowMs = ((↑pairs, ↑pairs), bankroll') ∧
        ¬ (pairs : ℚ) ≤ 0 ∧
          spreadSubmissionRejectionReason pairs pairs upAsk downAsk orderMinSize
            config.minBetUsd = none := by
  have hcaps := hroom ((queueable_iff hasks).mp hqueueable)
  have hpairs := (pairs_le_reserved_iff hasks hcan
    (leastPairs_pos upAsk downAsk orderMinSize config)).mpr hcaps
  have hreserved := reservedPairs_eq .spreadCapture hasks hcan
  rw [hreserved] at hpairs
  dsimp only at hpairs
  have hleast := leastPairs_pos upAsk downAsk orderMinSize config
  refine ⟨max ⌊bankroll.availableCapital .spreadCapture config / (upAsk + downAsk)⌋ 0,
    (bankroll.reserveSpreadCapital upAsk downAsk config nowMs).2, Prod.ext ?_ rfl, ?_,
    spreadSubmissionRejectionReason_of_le hasks.up_pos hasks.down_pos (by exact_mod_cast hpairs)⟩
  · unfold reserveSpreadCapital
    rw [hreserved]
    push_cast
    rfl
  · push_cast
    linarith

theorem DecisionPass.submitSpread_sizeAccepted {σ : Type} (pass : DecisionPass σ)
    (request : RuntimeDecisionRequest) (signalIds : List ℤ)
    (hlegs : spreadLegs signals = some (upSignal, downSignal))
    (hasks : SpreadAsks upSignal.upAsk downSignal.downAsk)
    (hcan : (pass.engine.bankroll.canTrade pass.engine.config request.nowMs).1 = true)
    (hroom : CeilingLeavesRoom pass.engine.bankroll upSignal.upAsk downSignal.downAsk
      (request.window.orderMinSize.getD 0) .spreadCapture pass.engine.config)
    (hcheck : ∀ check ∈ pass.engine.assessSpreadBatchAffordability signals request.window,
      check.queueable = true) :
    (pass.submitSpread request signals signalIds).1.SizeAccepted := by
  have hqueueable := hcheck _ (by
    unfold RuntimeDecisionEngine.assessSpreadBatchAffordability
    rw [hlegs]
    rfl)
  obtain ⟨pairs, bankroll, hreserved, hpositive, haccepted⟩ :=
    reserved_large_enough hasks hcan hroom hqueueable
  unfold submitSpread
  cases hpair : spreadSignalPair signals signalIds with
  | none => exact sizeAccepted_queued _ _
  | some legs =>
    rcases legs with ⟨upSignal', downSignal', upSignalId, downSignalId⟩
    obtain ⟨rfl, rfl⟩ := spreadSignalPair_eq_legs hlegs hpair
    dsimp only
    split
    · exact sizeAccepted_rejected (QueueRejectionReason.not_mem_sizeRejections _)
    split
    · exact sizeAccepted_rejected (by decide)
    rw [hreserved]
    rw [if_neg (by simpa using hpositive), haccepted]
    exact sizeAccepted_queued _ _

theorem PaperState.submitSpread_sizeAccepted (state : PaperState) (window : MarketWindow)
    (config : Config) (nowMs : ℕ) (hlegs : spreadLegs signals = some (upSignal, downSignal))
    (hasks : SpreadAsks upSignal.upAsk downSignal.downAsk)
    (hcan : (state.bankroll.canTrade config nowMs).1 = true)
    (hroom : CeilingLeavesRoom state.bankroll upSignal.upAsk downSignal.downAsk
      (window.orderMinSize.getD 0) .spreadCapture config)
    (hcheck : ∀ check ∈ assessSpreadBatchAffordability signals window state.bankroll config,
      check.queueable = true) :
    (state.submitSpread signals window config nowMs).1.SizeAccepted := by
  have hqueueable := hcheck _ (by
    unfold assessSpreadBatchAffordability
    rw [hlegs]
    rfl)
  obtain ⟨pairs, bankroll, hreserved, hpositive, haccepted⟩ :=
    reserved_large_enough hasks hcan hroom hqueueable
  obtain ⟨signalIds, rows, hlogged, -⟩ :=
    exists_logSpreadSignals_eq state window (spreadArrivalTs signals config nowMs) signals
  unfold submitSpread
  dsimp only
  rw [hlogged]
  split
  · exact sizeAccepted_rejected (QueueRejectionReason.not_mem_sizeRejections _)
  cases hpair : spreadSignalPair signals signalIds with
  | none => exact sizeAccepted_queued _ _
  | some legs =>
    rcases legs with ⟨upSignal', downSignal', upSignalId, downSignalId⟩
    obtain ⟨rfl, rfl⟩ := spreadSignalPair_eq_legs hlegs hpair
    dsimp only
    split
    · exact sizeAccepted_rejected (by decide)
    rw [hreserved]
    rw [if_neg (by simpa using hpositive), haccepted]
    exact sizeAccepted_queued _ _

end Engines

/-- The check and the reservation agree exactly if the ceiling and the rounding error do not
matter for the cheapest legal spread. -/
theorem precheckKept_iff {bankroll : BankrollManager} {upAsk downAsk : ℚ} (orderMinSize : ℚ)
    (family : StrategyFamily) {config : Config} {nowMs : ℕ} (hasks : SpreadAsks upAsk downAsk)
    (hcan : (bankroll.canTrade config nowMs).1 = true) :
    PrecheckKept bankroll upAsk downAsk orderMinSize family config nowMs ↔
      CeilingLeavesRoom bankroll upAsk downAsk orderMinSize family config := by
  have hleast := leastPairs_pos upAsk downAsk orderMinSize config
  have hrequired :=
    (bankroll.assessSpreadAffordabilityForFamily_spec orderMinSize family config hasks).1
  constructor
  · intro hkept hwithin
    have hagrees := hkept.agrees
    dsimp only at hagrees
    rw [queueable_iff hasks, hrequired] at hagrees
    exact (pairs_le_reserved_iff hasks hcan hleast).mp (hagrees.mp hwithin).1
  · intro hroom
    constructor
    · dsimp only
      rw [queueable_iff hasks, hrequired, reservedPairs_eq family hasks hcan, and_self,
        ← congrArg Prod.fst (reservedPairs_eq family hasks hcan),
        pairs_le_reserved_iff hasks hcan hleast]
      constructor
      · exact hroom
      · rintro ⟨hcaps, -⟩
        exact .inr (hcaps.mono (by linarith))
    · rintro rfl σ pass request signals signalIds upSignal downSignal rfl rfl rfl rfl hlegs rfl rfl
      exact pass.submitSpread_sizeAccepted request signalIds hlegs hasks hcan hroom
    · rintro rfl state signals window upSignal downSignal rfl rfl hlegs rfl rfl
      exact state.submitSpread_sizeAccepted window config nowMs hlegs hasks hcan hroom

theorem sampleAsks : SpreadAsks (2 / 5) (2 / 5) := by
  constructor <;> norm_num

/-- With nothing reserved the ceiling leaves room. -/
theorem precheckKept_iff_unreserved :
    PrecheckKept (.newInMemory 200 200 sampleConfig) (2 / 5) (2 / 5) 10 .spreadCapture
      sampleConfig 1000 := by
  refine (precheckKept_iff 10 .spreadCapture sampleAsks (by decide +kernel)).mpr fun _ => ⟨?_, ?_⟩
  · constructor <;> decide +kernel
  · unfold LeavesHeadroom
    decide +kernel

def sampleNearCeiling : BankrollManager :=
  (newInMemory 200 200 sampleConfig).hydrateTradeReserve
    { tradeId := 1, marketId := "first", strategy := "latency-arb", entryPrice := 1 / 2,
      size := 90, marketEndTime := 10000 } 0

/-- Ten pairs cost 8 and pass the check, but only six pairs are reserved below the ceiling. -/
theorem precheck_ignores_ceiling :
    ¬ ∀ (bankroll : BankrollManager) (upAsk downAsk orderMinSize : ℚ) (family : StrategyFamily)
      (config : Config) (nowMs : ℕ), SpreadAsks upAsk downAsk →
      (bankroll.canTrade config nowMs).1 = true →
        PrecheckKept bankroll upAsk downAsk orderMinSize family config nowMs := by
  intro hall
  have hagrees := (hall sampleNearCeiling (2 / 5) (2 / 5) 10 .spreadCapture sampleConfig 1000
    sampleAsks (by decide +kernel)).agrees
  exact absurd hagrees (by decide +kernel)

end BubaPaint
