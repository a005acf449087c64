import BubaPaint.Replay.PaperLedger
import BubaPaint.Replay.Windows

/-!
# The reserves of a simulated run

The replay loop enters one window after the other, submits orders into the current one, fills what
is due, closes the window and settles its trades, at once or later. Any order of these that the
loop allows is a run here.

Main results:

- Theorem `reserve_split_truthful`: the buckets tell live from pending capital.
-/

namespace BubaPaint

open Effects

/-- A simulated run with its current window. -/
structure PaperPipeline where
  paper : PaperState
  current : Option MarketSettlement

/-- What the loop does. -/
inductive PaperAction where
  | openWindow (settlement : MarketSettlement)
  | processDueOrders (now : ℕ) (nowUs : Option ℕ) (bookState : BookState)
  | submitSingle (signal : Signal) (nowMs : ℕ)
  | submitSpread (signals : List Signal) (nowMs : ℕ)
  | closeWindow
  | resolveWindow (settlement : MarketSettlement) (nowMs : ℕ)

/-- The strategies whose signals are submitted as single orders. -/
def IsSingleStrategy (strategy : String) : Prop :=
  strategy = "latency-arb" ∨ strategy = "calm-persistence"

instance (strategy : String) : Decidable (IsSingleStrategy strategy) :=
  inferInstanceAs (Decidable (_ ∨ _))

namespace PaperPipeline

/-- A run that has nothing reserved. -/
def start (startingBalance currentBalance : ℚ) (config : Config) : PaperPipeline where
  paper :=
    { engine := .new
      db := .new
      bankroll := .newInMemory startingBalance currentBalance config }
  current := none

def openWindow (pipeline : PaperPipeline) (settlement : MarketSettlement) : PaperPipeline where
  paper :=
    { pipeline.paper with
      db := pipeline.paper.db.upsertMarket settlement.window (some settlement.outcome) }
  current := some settlement

def closeWindow (pipeline : PaperPipeline) (settlement : MarketSettlement) : PaperPipeline where
  paper := PaperState.closeMarketAndReclassifyReserve
    { pipeline.paper with
      db := pipeline.paper.db.upsertMarket settlement.window (some settlement.outcome) }
    settlement.window
  current := none

def dueContext (pipeline : PaperPipeline) (now : ℕ) (nowUs : Option ℕ) (bookState : BookState) :
    DueOrderContext where
  now := now
  nowUs := nowUs
  currentWindow := pipeline.current.map (·.window)
  bookState := bookState

/-- One step of the loop: a market is entered once, left when it is current, and settled after it
has closed. -/
def step (config : Config) (pipeline : PaperPipeline) : PaperAction → Option PaperPipeline
  | .openWindow settlement =>
    if pipeline.current = none ∧
        pipeline.paper.db.marketStatus settlement.window.marketId = none then
      some (pipeline.openWindow settlement)
    else none
  | .processDueOrders now nowUs bookState =>
    let context := pipeline.dueContext now nowUs bookState
    let paper := (pipeline.paper.processDueOrders context config).2
    some { pipeline with paper := paper.takeRecentOutcomes.2 }
  | .submitSingle signal nowMs =>
    match pipeline.current with
    | none => none
    | some settlement =>
      if IsSingleStrategy signal.strategy then
        some { pipeline with
          paper := (pipeline.paper.submitSingle signal settlement.window config nowMs).2 }
      else none
  | .submitSpread signals nowMs =>
    match pipeline.current with
    | none => none
    | some settlement =>
      if ∀ signal ∈ signals, signal.strategy = "spread-capture" then
        some { pipeline with
          paper := (pipeline.paper.submitSpread signals settlement.window config nowMs).2 }
      else none
  | .closeWindow => pipeline.current.map pipeline.closeWindow
  | .resolveWindow settlement nowMs =>
    if pipeline.paper.db.marketStatus settlement.window.marketId = some .closed then
      some { pipeline with
        paper := (pipeline.paper.resolveWindowWithOutcome settlement.window settlement.outcome
          config nowMs).2 }
    else none

end PaperPipeline

/-- The runs of the loop. -/
def paperSystem (config : Config) : System PaperPipeline PaperAction Unit where
  step := PaperPipeline.step config
  record _ _ _ _ := ()

/-! ## What each step keeps -/

namespace PaperPipeline

variable {config : Config} {pipeline pipeline' : PaperPipeline}

/-- The ledger of a run, whose current window is a market that has not closed. -/
structure Sound (pipeline : PaperPipeline) : Prop where
  ledger : PaperLedger pipeline.paper.books
  running : ∀ settlement, pipeline.current = some settlement →
    pipeline.paper.db.marketStatus settlement.window.marketId = some .active

theorem sound_start (startingBalance currentBalance : ℚ) (config : Config) :
    (start startingBalance currentBalance config).Sound where
  ledger :=
    { split := splitBalanced_empty
      numbered := TradesTable.numbered_empty
      priced := fun _ horder => absurd horder List.not_mem_nil
      known := fun _ htrade => absurd htrade List.not_mem_nil }
  running _ hcurrent := absurd hcurrent.symm (Option.some_ne_none _)

/-- No trade that a step settles shares its family with a live order or trade. -/
def SettlesIdle (pipeline : PaperPipeline) : PaperAction → Prop
  | .resolveWindow settlement _ =>
    ∀ trade ∈ pipeline.paper.books.db.getOpenTradesForMarket settlement.window.marketId,
      pipeline.paper.books.Idle (familyForStrategy trade.strategy)
  | _ => True

instance (pipeline : PaperPipeline) (action : PaperAction) :
    Decidable (pipeline.SettlesIdle action) := by
  cases action <;> unfold SettlesIdle <;> infer_instance

namespace Sound

theorem openWindow (h : pipeline.Sound) (settlement : MarketSettlement)
    (hnew : pipeline.paper.db.marketStatus settlement.window.marketId = none) :
    (pipeline.openWindow settlement).Sound where
  ledger := h.ledger.upsertMarket settlement.window (some settlement.outcome)
  running other hcurrent := by
    cases hcurrent
    have hstatus := pipeline.paper.db.marketStatus_upsertMarket settlement.window.marketId
      settlement.window (some settlement.outcome)
    rw [if_pos rfl, hnew] at hstatus
    exact hstatus

variable {settlement : MarketSettlement}

theorem closeWindow (h : pipeline.Sound) (hcurrent : pipeline.current = some settlement) :
    (pipeline.closeWindow settlement).Sound where
  ledger := by
    have hseen := h.ledger.upsertMarket settlement.window (some settlement.outcome)
    have hstatus := pipeline.paper.db.marketStatus_upsertMarket settlement.window.marketId
      settlement.window (some settlement.outcome)
    rw [if_pos rfl, h.running settlement hcurrent] at hstatus
    exact PaperLedger.close hseen hstatus
  running other hother := absurd hother.symm (Option.some_ne_none _)

theorem processDueOrders (h : pipeline.Sound) (now : ℕ) (nowUs : Option ℕ) (bookState : BookState) :
    ({ pipeline with
      paper := (pipeline.paper.processDueOrders (pipeline.dueContext now nowUs bookState)
        config).2.takeRecentOutcomes.2 } : PaperPipeline).Sound := by
  have hrun := pipeline.paper.processDueOrders_run (pipeline.dueContext now nowUs bookState) config
  have hrunning : PaperLedger.Running (pipeline.dueContext now nowUs bookState)
      { pipeline.paper.books with pendingOrders := [] } := by
    intro window hwindow
    obtain ⟨settlement, hcurrent, rfl⟩ := Option.map_eq_some_iff.mp hwindow
    exact h.running settlement hcurrent
  have hall : PaperLedger (({ pipeline.paper.books with pendingOrders := [] } :
      PaperBooks).withRest pipeline.paper.engine.pendingOrders) := h.ledger
  obtain ⟨hledger, hmarkets⟩ := hall.dueRun hrunning hrun
  have hdb : (pipeline.paper.processDueOrders (pipeline.dueContext now nowUs bookState)
      config).2.db.markets = pipeline.paper.db.markets := hmarkets
  exact ⟨hledger, fun settlement hcurrent =>
    ResultsDb.marketStatus_of_markets hdb (h.running settlement hcurrent)⟩

/-- A submission keeps the ledger and the markets. -/
theorem submit (h : pipeline.Sound) {marketId : String} {family : StrategyFamily}
    {paper : PaperState} (hstep : SubmitStep marketId family pipeline.paper.books paper.books) :
    ({ pipeline with paper } : PaperPipeline).Sound where
  ledger := h.ledger.submit hstep
  running settlement hcurrent := by
    have hmarkets : paper.db.markets = pipeline.paper.db.markets := hstep.markets
    exact ResultsDb.marketStatus_of_markets hmarkets (h.running settlement hcurrent)

theorem resolveWindow (h : pipeline.Sound) {nowMs : ℕ}
    (hclosed : pipeline.paper.db.marketStatus settlement.window.marketId = some .closed)
    (hidle : pipeline.SettlesIdle (.resolveWindow settlement nowMs)) :
    ({ pipeline with
      paper := (pipeline.paper.resolveWindowWithOutcome settlement.window settlement.outcome
        config nowMs).2 } : PaperPipeline).Sound := by
  obtain ⟨hledger, hmarkets⟩ :=
    h.ledger.settle hclosed hidle settlement.outcome config nowMs
  refine ⟨hledger, fun current hcurrent => ?_⟩
  have hactive := h.running current hcurrent
  have hother : current.window.marketId ≠ settlement.window.marketId := by
    intro hsame
    rw [hsame, hclosed] at hactive
    cases hactive
  have hstatus := pipeline.paper.db.marketStatus_setMarketStatus current.window.marketId
    settlement.window.marketId .resolved (some settlement.outcome)
  rw [if_neg hother, hactive] at hstatus
  exact ResultsDb.marketStatus_of_markets hmarkets hstatus

end Sound

/-- What the loop does keeps the ledger, as long as settlements meet nothing live in their
families. -/
theorem Sound.ledger_step (hmode : config.executionMode ≠ .liveTrading) (h : pipeline.Sound)
    {action : PaperAction} (hstep : pipeline.step config action = some pipeline')
    (hidle : pipeline.SettlesIdle action) : pipeline'.Sound := by
  cases action with
  | openWindow settlement =>
    simp only [step] at hstep
    split at hstep
    · rename_i hnew
      cases hstep
      exact h.openWindow settlement hnew.2
    · cases hstep
  | processDueOrders now nowUs bookState =>
    cases hstep
    exact h.processDueOrders now nowUs bookState
  | submitSingle signal nowMs =>
    simp only [step] at hstep
    split at hstep
    · cases hstep
    split at hstep
    · cases hstep
      exact h.submit (pipeline.paper.submitSingle_step hmode signal _ nowMs)
    · cases hstep
  | submitSpread signals nowMs =>
    simp only [step] at hstep
    split at hstep
    · cases hstep
    split at hstep
    · rename_i hspread
      cases hstep
      refine h.submit (pipeline.paper.submitSpread_step hmode ?_ _ nowMs)
      intro signal hsignal
      rw [hspread signal hsignal]
      rfl
    · cases hstep
  | closeWindow =>
    obtain ⟨settlement, hcurrent, rfl⟩ := Option.map_eq_some_iff.mp hstep
    exact h.closeWindow hcurrent
  | resolveWindow settlement nowMs =>
    simp only [step] at hstep
    split at hstep
    · rename_i hclosed
      cases hstep
      exact h.resolveWindow hclosed hidle
    · cases hstep

def queuedCosts (pipeline : PaperPipeline) (family : StrategyFamily) : ℚ :=
  ((pipeline.paper.engine.pendingOrders.filter fun order =>
    familyForStrategy order.strategy = family).map fun order => order.reservedCost).sum

/-- The costs of the open trades of one family whose market has the given status. -/
def tradeCosts (pipeline : PaperPipeline) (status : MarketStatus) (family : StrategyFamily) : ℚ :=
  (((pipeline.paper.db.openTradesIn status).filter fun trade =>
    familyForStrategy trade.strategy = family).map fun trade => trade.entryPrice * trade.size).sum

/-- The buckets of every family hold its orders and the trades of open markets on one side and the
trades of closed markets on the other, and only these are discounted. -/
structure ReserveSplitTruthful (config : Config) (pipeline : PaperPipeline) : Prop where
  active : ∀ family, pipeline.paper.bankroll.activeReservedCapitalByFamily family =
    pipeline.queuedCosts family + pipeline.tradeCosts .active family
  pending : ∀ family, pipeline.paper.bankroll.pendingSettlementReservedCapitalByFamily family =
    pipeline.tradeCosts .closed family
  effective : pipeline.paper.bankroll.effectiveReservedCapital config =
    Reserves.familySum (fun family =>
        pipeline.queuedCosts family + pipeline.tradeCosts .active family) +
      Reserves.familySum (pipeline.tradeCosts .closed) *
        config.pendingSettlementPolicyUnchecked.globalReserveFraction

theorem Sound.reserveSplitTruthful (h : pipeline.Sound) (config : Config) :
    pipeline.ReserveSplitTruthful config := by
  have hactive : ∀ family, pipeline.paper.bankroll.activeReservedCapitalByFamily family =
      pipeline.queuedCosts family + pipeline.tradeCosts .active family := by
    intro family
    have hbucket := h.ledger.split.active family
    rw [PaperBooks.live, charged_append, charged_eq_sum, charged_eq_sum] at hbucket
    exact hbucket
  have hpending : ∀ family,
      pipeline.paper.bankroll.pendingSettlementReservedCapitalByFamily family =
        pipeline.tradeCosts .closed family := by
    intro family
    have hbucket := h.ledger.split.pending family
    rw [PaperBooks.settling, charged_eq_sum] at hbucket
    exact hbucket
  refine ⟨hactive, hpending, ?_⟩
  have htotal : pipeline.paper.bankroll.reservedCapital =
      pipeline.paper.bankroll.activeReservedCapital +
        pipeline.paper.bankroll.pendingSettlementReservedCapital := h.ledger.split.coherent.total
  have hactiveTotal : pipeline.paper.bankroll.activeReservedCapital =
      Reserves.familySum pipeline.paper.bankroll.activeReservedCapitalByFamily :=
    h.ledger.split.totalled.active
  have hpendingTotal : pipeline.paper.bankroll.pendingSettlementReservedCapital =
      Reserves.familySum pipeline.paper.bankroll.pendingSettlementReservedCapitalByFamily :=
    h.ledger.split.totalled.pending
  unfold BankrollManager.effectiveReservedCapital
  rw [if_neg (by simp [htotal]), hactiveTotal, hpendingTotal, funext hactive, funext hpending]

end PaperPipeline

/-- In every state of a run of the loop the buckets of every family are truthful, as long as no
settled trade shares its family with a queued order or a trade of an open market. -/
theorem reserve_split_truthful {config : Config} (hmode : config.executionMode ≠ .liveTrading)
    {startingBalance currentBalance : ℚ} {pipeline : PaperPipeline}
    (hrun : (paperSystem config).Run (fun _ before action _ => before.SettlesIdle action)
      ((), .start startingBalance currentBalance config) () pipeline) :
    pipeline.ReserveSplitTruthful config := by
  have hsound : pipeline.Sound := by
    refine hrun.invariant (fun _ pipeline => pipeline.Sound)
      (PaperPipeline.sound_start startingBalance currentBalance config) ?_
    intro _ before action after hbefore hstep hidle
    exact hbefore.ledger_step hmode hstep hidle
  exact hsound.reserveSplitTruthful config

def samplePaperConfig : Config :=
  { sampleConfig with
    executionMode := .paper
    pendingSettlementGlobalReserveFraction := 1 / 2 }

def sampleSettlement (marketId : String) (endTime : ℕ) : MarketSettlement where
  window := sampleWindow marketId endTime
  openPrice := 100
  closePrice := 101
  outcome := .up

def sampleLatencySignal (timestamp : ℕ) : Signal where
  timestamp := timestamp
  strategy := "latency-arb"
  direction := .up
  confidence := 1
  upAsk := 2 / 5
  downAsk := 2 / 5

def sampleFilledWindow : List PaperAction :=
  [.openWindow (sampleSettlement "first" 10000),
    .submitSingle (sampleLatencySignal 1000) 1000,
    .processDueOrders 2000 none (sampleBook 2000),
    .closeWindow]

/-- A filled trade is settled before the next order of its family is submitted. -/
theorem reserve_split_truthful_sample :
    ∃ pipeline,
      (paperSystem samplePaperConfig).Run (fun _ before action _ => before.SettlesIdle action)
          ((), .start 1000 1000 samplePaperConfig) () pipeline ∧
        pipeline.paper.bankroll.reservedCapital = 50 ∧
        pipeline.ReserveSplitTruthful samplePaperConfig := by
  have hfollow : ((paperSystem samplePaperConfig).follow
      (fun _ before action _ => decide (before.SettlesIdle action))
      (sampleFilledWindow ++
        [.openWindow (sampleSettlement "second" 20000),
          .resolveWindow (sampleSettlement "first" 10000) 11000,
          .submitSingle (sampleLatencySignal 12000) 12000])
      ((), .start 1000 1000 samplePaperConfig)).any (fun x =>
        decide (x.2.paper.bankroll.reservedCapital = 50)) = true := by
    decide +kernel
  obtain ⟨_, pipeline, hrun, hreserved⟩ := System.exists_run_of_follow hfollow
    fun _ _ _ _ => of_decide_eq_true
  exact ⟨pipeline, hrun, of_decide_eq_true hreserved, reserve_split_truthful (by decide) hrun⟩

/-- A trade that is settled while the next order of its family is queued is taken from the reserve
of that order: the pending bucket keeps what no trade needs, and the order is discounted. -/
theorem settlement_takes_live_reserve :
    ¬ ∀ (config : Config) (startingBalance currentBalance : ℚ) (pipeline : PaperPipeline),
      config.executionMode ≠ .liveTrading → (paperSystem config).Run (fun _ _ _ _ => True)
          ((), .start startingBalance currentBalance config) () pipeline →
        pipeline.ReserveSplitTruthful config := by
  intro h
  have hfollow : ((paperSystem samplePaperConfig).follow (fun _ _ _ _ => true)
      (sampleFilledWindow ++
        [.openWindow (sampleSettlement "second" 20000),
          .submitSingle (sampleLatencySignal 11000) 11000,
          .resolveWindow (sampleSettlement "first" 10000) 12000])
      ((), .start 1000 1000 samplePaperConfig)).any (fun x =>
        decide (x.2.paper.bankroll.pendingSettlementReservedCapitalByFamily .latencyArb = 40 ∧
          x.2.tradeCosts .closed .latencyArb = 0 ∧
          x.2.paper.bankroll.effectiveReservedCapital samplePaperConfig <
            x.2.queuedCosts .latencyArb)) = true := by
    decide +kernel
  obtain ⟨_, pipeline, hrun, hend⟩ := System.exists_run_of_follow hfollow
    fun _ _ _ _ _ => trivial
  obtain ⟨hpending, hnone, -⟩ := of_decide_eq_true hend
  have htruthful := h samplePaperConfig 1000 1000 pipeline (by decide) hrun
  have hbucket := htruthful.pending .latencyArb
  rw [hpending, hnone] at hbucket
  norm_num at hbucket

end BubaPaint
