import BubaPaint.Replay.PositionManager

/-!
# Corrections of settlements

A trade that was settled provisionally is corrected when the authoritative outcome disagrees. The
correction moves the balance and the tallies of wins and losses by what the two outcomes differ in,
but it books the difference of the profits as fees and leaves the record of the strategy and the
recent results as they are.

Main results:

- Theorem `correction_eq_settlement_iff`: when a correction equals settling right at once.
-/

namespace BubaPaint

open BankrollManager

/-- What one outcome settles a trade with. -/
structure SettlementTerms where
  settlementPrice : ℚ
  feeAmount : ℚ

/-- The profit or loss of a trade. -/
def SettlementTerms.pnl (terms : SettlementTerms) (entryPrice size : ℚ) : ℚ :=
  terms.settlementPrice * size - entryPrice * size - terms.feeAmount

def correctionEvent (tradeId : ℤ) (timestampMs : ℕ) (delta balance : ℚ) :
    BalancePersistenceEvent where
  timestampMs
  event := "settlement_correction"
  tradeId := some tradeId
  amount := delta
  balance

namespace BankrollManager

/-- Move one result from the tally it was booked in to the other one. -/
def moveResult (bankroll : BankrollManager) (wasWin isWin : Bool) : BankrollManager :=
  match wasWin, isWin with
  | true, false =>
    { bankroll with
      totalWins := bankroll.totalWins - 1
      totalLosses := bankroll.totalLosses + 1 }
  | false, true =>
    { bankroll with
      totalLosses := bankroll.totalLosses - 1
      totalWins := bankroll.totalWins + 1 }
  | _, _ => bankroll

def applyCorrectionInMemory (bankroll : BankrollManager) (oldPnl newPnl : ℚ) : BankrollManager :=
  let delta := newPnl - oldPnl
  let currentBalance := bankroll.currentBalance + delta
  let bankroll :=
    { bankroll with
      currentBalance
      totalFees := max (bankroll.totalFees + delta) 0 }
  let bankroll := bankroll.moveResult (decide (oldPnl > 0)) (decide (newPnl > 0))
  let bankroll := { bankroll with highWaterMark := max bankroll.highWaterMark currentBalance }
  { bankroll with peakDrawdownPct := max bankroll.peakDrawdownPct bankroll.getDrawdownPct }

end BankrollManager

/-- Apply a settlement correction when the authoritative outcome disagrees with the provisional
settlement. -/
def PaperState.applySettlementCorrection (state : PaperState) (tradeId : ℤ) (oldPnl newPnl : ℚ)
    (nowMs : ℕ) : PaperState :=
  let bankroll := state.bankroll.applyCorrectionInMemory oldPnl newPnl
  { state with
    bankroll
    db := state.db.logBalanceEvent
      (correctionEvent tradeId nowMs (newPnl - oldPnl) bankroll.currentBalance) }

/-- The aggregates of settled trades. -/
structure SettledAggregates where
  currentBalance : ℚ
  totalWins : ℕ
  totalLosses : ℕ
  totalFees : ℚ
  strategyStats : String → StrategyRecord
  recentResults : List TradeResultRecord

def BankrollManager.aggregates (bankroll : BankrollManager) : SettledAggregates where
  currentBalance := bankroll.currentBalance
  totalWins := bankroll.totalWins
  totalLosses := bankroll.totalLosses
  totalFees := bankroll.totalFees
  strategyStats := bankroll.strategyStats
  recentResults := bankroll.recentResults

namespace PaperState

variable (state : PaperState) (tradeId : ℤ) (entryPrice size : ℚ) (strategy : String)

def settleAt (terms : SettlementTerms) (nowMs : ℕ) : PaperState :=
  state.applyTradeResult tradeId entryPrice size terms.settlementPrice terms.feeAmount strategy
    nowMs

/-- Settle on provisional terms and correct to the authoritative ones. -/
def settleAndCorrect (provisional authoritative : SettlementTerms) (nowMs laterMs : ℕ) :
    PaperState :=
  (state.settleAt tradeId entryPrice size strategy provisional nowMs).applySettlementCorrection
    tradeId (provisional.pnl entryPrice size) (authoritative.pnl entryPrice size) laterMs

end PaperState

/-! ## Each aggregate -/

namespace BankrollManager

variable (bankroll : BankrollManager) (oldPnl newPnl : ℚ)

@[simp]
theorem currentBalance_applyCorrectionInMemory :
    (bankroll.applyCorrectionInMemory oldPnl newPnl).currentBalance =
      bankroll.currentBalance + (newPnl - oldPnl) := by
  unfold applyCorrectionInMemory moveResult
  cases decide (oldPnl > 0) <;> cases decide (newPnl > 0) <;> rfl

@[simp]
theorem totalFees_applyCorrectionInMemory :
    (bankroll.applyCorrectionInMemory oldPnl newPnl).totalFees =
      max (bankroll.totalFees + (newPnl - oldPnl)) 0 := by
  unfold applyCorrectionInMemory moveResult
  cases decide (oldPnl > 0) <;> cases decide (newPnl > 0) <;> rfl

@[simp]
theorem totalWins_applyCorrectionInMemory :
    (bankroll.applyCorrectionInMemory oldPnl newPnl).totalWins =
      (bankroll.moveResult (decide (oldPnl > 0)) (decide (newPnl > 0))).totalWins := by
  unfold applyCorrectionInMemory moveResult
  cases decide (oldPnl > 0) <;> cases decide (newPnl > 0) <;> rfl

@[simp]
theorem totalLosses_applyCorrectionInMemory :
    (bankroll.applyCorrectionInMemory oldPnl newPnl).totalLosses =
      (bankroll.moveResult (decide (oldPnl > 0)) (decide (newPnl > 0))).totalLosses := by
  unfold applyCorrectionInMemory moveResult
  cases decide (oldPnl > 0) <;> cases decide (newPnl > 0) <;> rfl

@[simp]
theorem strategyStats_applyCorrectionInMemory :
    (bankroll.applyCorrectionInMemory oldPnl newPnl).strategyStats = bankroll.strategyStats := by
  unfold applyCorrectionInMemory moveResult
  cases decide (oldPnl > 0) <;> cases decide (newPnl > 0) <;> rfl

@[simp]
theorem recentResults_applyCorrectionInMemory :
    (bankroll.applyCorrectionInMemory oldPnl newPnl).recentResults = bankroll.recentResults := by
  unfold applyCorrectionInMemory moveResult
  cases decide (oldPnl > 0) <;> cases decide (newPnl > 0) <;> rfl

end BankrollManager

namespace PaperState

variable (state : PaperState) (tradeId : ℤ) (entryPrice size : ℚ) (strategy : String)
variable (provisional authoritative : SettlementTerms) (nowMs laterMs : ℕ)

/-- The balance is right after a correction. -/
theorem currentBalance_applySettlementCorrection :
    (state.settleAndCorrect tradeId entryPrice size strategy provisional authoritative nowMs
        laterMs).bankroll.currentBalance =
      (state.settleAt tradeId entryPrice size strategy authoritative
        nowMs).bankroll.currentBalance := by
  simp only [settleAndCorrect, applySettlementCorrection,
    currentBalance_applyCorrectionInMemory, settleAt, applyTradeResult,
    applyTradeResultInMemory, SettlementTerms.pnl]
  linarith

/-- So are the tallies of wins and losses. -/
theorem tallies_applySettlementCorrection :
    let corrected := state.settleAndCorrect tradeId entryPrice size strategy provisional
      authoritative nowMs laterMs
    let settled := state.settleAt tradeId entryPrice size strategy authoritative nowMs
    corrected.bankroll.totalWins = settled.bankroll.totalWins ∧
      corrected.bankroll.totalLosses = settled.bankroll.totalLosses := by
  simp only [settleAndCorrect, applySettlementCorrection, totalWins_applyCorrectionInMemory,
    totalLosses_applyCorrectionInMemory, settleAt, applyTradeResult,
    applyTradeResultInMemory, SettlementTerms.pnl]
  by_cases hold : 0 < provisional.settlementPrice * size - entryPrice * size - provisional.feeAmount
  · by_cases hnew :
        0 < authoritative.settlementPrice * size - entryPrice * size - authoritative.feeAmount
    · simp [moveResult, hold, hnew]
    · simp [moveResult, hold, hnew]
  · by_cases hnew :
        0 < authoritative.settlementPrice * size - entryPrice * size - authoritative.feeAmount
    · simp [moveResult, hold, hnew]
    · simp [moveResult, hold, hnew]

theorem strategyStats_applySettlementCorrection_iff :
    (state.settleAndCorrect tradeId entryPrice size strategy provisional authoritative nowMs
        laterMs).bankroll.strategyStats =
      (state.settleAt tradeId entryPrice size strategy authoritative nowMs).bankroll.strategyStats ↔
      (0 < provisional.pnl entryPrice size ↔ 0 < authoritative.pnl entryPrice size) := by
  simp only [settleAndCorrect, applySettlementCorrection,
    strategyStats_applyCorrectionInMemory, settleAt, applyTradeResult,
    applyTradeResultInMemory]
  rw [Function.update_injective _ strategy |>.eq_iff]
  change _ ↔ (0 < provisional.settlementPrice * size - entryPrice * size - provisional.feeAmount ↔
    0 < authoritative.settlementPrice * size - entryPrice * size - authoritative.feeAmount)
  by_cases hold : 0 < provisional.settlementPrice * size - entryPrice * size - provisional.feeAmount
  · by_cases hnew :
        0 < authoritative.settlementPrice * size - entryPrice * size - authoritative.feeAmount
    · simp [hold, hnew]
    · simp [hold, hnew]
  · by_cases hnew :
        0 < authoritative.settlementPrice * size - entryPrice * size - authoritative.feeAmount
    · simp [hold, hnew]
    · simp [hold, hnew]

theorem recentResults_applySettlementCorrection
    (h : 0 < provisional.pnl entryPrice size ↔ 0 < authoritative.pnl entryPrice size) :
    (state.settleAndCorrect tradeId entryPrice size strategy provisional authoritative nowMs
        laterMs).bankroll.recentResults =
      (state.settleAt tradeId entryPrice size strategy authoritative
        nowMs).bankroll.recentResults := by
  have hwon : decide (0 < provisional.settlementPrice * size - entryPrice * size -
      provisional.feeAmount) = decide (0 < authoritative.settlementPrice * size -
        entryPrice * size - authoritative.feeAmount) := decide_eq_decide.mpr h
  simp only [settleAndCorrect, applySettlementCorrection,
    recentResults_applyCorrectionInMemory, settleAt, applyTradeResult,
    applyTradeResultInMemory, gt_iff_lt, hwon]

/-- The fees are right after a correction if the payouts differ by twice what the fees differ by,
or if there are no fees and the correction takes them below zero. -/
def FeesComeOut (totalFees size : ℚ) (provisional authoritative : SettlementTerms) : Prop :=
  let payouts := (authoritative.settlementPrice - provisional.settlementPrice) * size
  let fees := 2 * (authoritative.feeAmount - provisional.feeAmount)
  (payouts = fees ∧ 0 ≤ totalFees + authoritative.feeAmount) ∨
    (payouts ≤ fees ∧ totalFees + authoritative.feeAmount = 0)

theorem totalFees_applySettlementCorrection_iff :
    (state.settleAndCorrect tradeId entryPrice size strategy provisional authoritative nowMs
        laterMs).bankroll.totalFees =
      (state.settleAt tradeId entryPrice size strategy authoritative nowMs).bankroll.totalFees ↔
      FeesComeOut state.bankroll.totalFees size provisional authoritative := by
  simp only [settleAndCorrect, applySettlementCorrection,
    totalFees_applyCorrectionInMemory, settleAt, applyTradeResult,
    applyTradeResultInMemory, SettlementTerms.pnl, FeesComeOut]
  change max (state.bankroll.totalFees + provisional.feeAmount + _) 0 =
    state.bankroll.totalFees + authoritative.feeAmount ↔ _
  rw [max_eq_iff]
  constructor
  · rintro (⟨heq, hle⟩ | ⟨heq, hle⟩)
    · exact .inl ⟨by linarith, by linarith⟩
    · exact .inr ⟨by linarith, by linarith⟩
  · rintro (⟨heq, hle⟩ | ⟨hle, heq⟩)
    · exact .inl ⟨by linarith, by linarith⟩
    · exact .inr ⟨by linarith, by linarith⟩

/-- A correction equals settling right at once if both outcomes are wins or both are losses, and
the fees come out. -/
theorem correction_eq_settlement_iff (provisional authoritative : SettlementTerms)
    (nowMs laterMs : ℕ) :
    (state.settleAndCorrect tradeId entryPrice size strategy provisional authoritative nowMs
        laterMs).bankroll.aggregates =
      (state.settleAt tradeId entryPrice size strategy authoritative nowMs).bankroll.aggregates ↔
      (0 < provisional.pnl entryPrice size ↔ 0 < authoritative.pnl entryPrice size) ∧
        FeesComeOut state.bankroll.totalFees size provisional authoritative := by
  have hbalance := state.currentBalance_applySettlementCorrection tradeId entryPrice size strategy
    provisional authoritative nowMs laterMs
  have htallies := state.tallies_applySettlementCorrection tradeId entryPrice size strategy
    provisional authoritative nowMs laterMs
  rw [← strategyStats_applySettlementCorrection_iff state tradeId entryPrice size strategy
      provisional authoritative nowMs laterMs,
    ← totalFees_applySettlementCorrection_iff state tradeId entryPrice size strategy
      provisional authoritative nowMs laterMs]
  constructor
  · intro h
    exact ⟨congrArg SettledAggregates.strategyStats h, congrArg SettledAggregates.totalFees h⟩
  · rintro ⟨hstats, hfees⟩
    have hresults := state.recentResults_applySettlementCorrection tradeId entryPrice size strategy
      provisional authoritative nowMs laterMs
      ((strategyStats_applySettlementCorrection_iff state tradeId entryPrice size strategy
        provisional authoritative nowMs laterMs).mp hstats)
    unfold aggregates
    rw [hbalance, htallies.1, htallies.2, hfees, hstats, hresults]

/-- Ten tokens at a half that were settled as lost and were won: the profit of ten dollars is booked
as fees, and the strategy keeps its loss. -/
theorem won_trade_corrected :
    let state : PaperState :=
      { engine := .new, db := .new, bankroll := .newInMemory 100 100 sampleConfig }
    let lost : SettlementTerms := { settlementPrice := 0, feeAmount := 0 }
    let won : SettlementTerms := { settlementPrice := 1, feeAmount := 0 }
    let corrected := state.settleAndCorrect 1 (1 / 2) 10 "latency-arb" lost won 5 6
    let settled := state.settleAt 1 (1 / 2) 10 "latency-arb" won 5
    corrected.bankroll.aggregates ≠ settled.bankroll.aggregates ∧
      corrected.bankroll.totalFees = 10 ∧ settled.bankroll.totalFees = 0 ∧
      corrected.bankroll.strategyStats "latency-arb" = { wins := 0, losses := 1 } ∧
      settled.bankroll.strategyStats "latency-arb" = { wins := 1, losses := 0 } := by
  intro state lost won corrected settled
  have hcorrected : corrected.bankroll.totalFees = 10 := by decide +kernel
  have hsettled : settled.bankroll.totalFees = 0 := by decide +kernel
  refine ⟨fun h => ?_, hcorrected, hsettled, by decide +kernel, by decide +kernel⟩
  have hfees : corrected.bankroll.totalFees = settled.bankroll.totalFees :=
    congrArg SettledAggregates.totalFees h
  rw [hcorrected, hsettled] at hfees
  exact absurd hfees (by norm_num)

end PaperState

end BubaPaint
