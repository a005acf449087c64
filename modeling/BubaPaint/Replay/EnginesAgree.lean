import BubaPaint.Decision.EngineDesk
import BubaPaint.Replay.PaperDesk

/-!
# The two paper engines agree

A simulated run and the decision engine in a paper mode, started from states that match and fed
with the same inputs, report the same: both do what the trading desk does. So what a simulated run
decides is what the decision engine would have decided.

Main results:

- Theorem `paper_engines_agree`: the two engines do the same on the same inputs.
-/

namespace BubaPaint

open Effects InMemoryExposureState RuntimeDecisionEngine

/-- A simulated run and a decision engine hold the same orders, positions and bankroll, and each
fits the markets it was told of. -/
structure MatchingEngines {σ : Type} (config : Config) (ends : String → ℕ) (ledger : MarketLedger)
    (paper : PaperState) (engine : RuntimeDecisionEngine σ) : Prop where
  atRest : paper.AtRest ends ledger.opened
  onLedger : engine.OnLedger config ends ledger
  sameDesk : paper.desk = engine.desk

theorem matchingEngines_new {σ : Type} (config : Config) (ends : String → ℕ)
    (strategies : List σ) (startingBalance currentBalance : ℚ) (nowMs : ℕ) :
    MatchingEngines config ends { nowMs, opened := [], closed := [] }
      { engine := .new, db := .new,
        bankroll := .newInMemory startingBalance currentBalance config }
      (new config strategies
        { startingBalance, currentBalance, unresolvedExposures := [], openTrades := [],
          nowMs }) where
  atRest :=
    { numbered := TradesTable.numbered_empty
      rows := by simp
      ends := by simp [ResultsDb.new]
      traded := by simp [ResultsDb.new, ResultsDb.openTrades, TradesTable.empty]
      drained := rfl }
  onLedger :=
    { config := rfl
      identified := by simp [new, fromSnapshots]
      ends := by simp [new, fromSnapshots]
      pending := by simp [new, fromSnapshots]
      active := by simp [new, fromSnapshots] }
  sameDesk := rfl

/-- Engines that match report the same and match again. -/
theorem MatchingEngines.step {σ : Type} {config : Config}
    (hmode : config.executionMode ≠ .liveTrading) {ends : String → ℕ} {ledger : MarketLedger}
    {paper : PaperState} {engine : RuntimeDecisionEngine σ} {input : DeskInput}
    (hinput : input.Allowed config ends ledger)
    (h : MatchingEngines config ends ledger paper engine) :
    (paper.deskStep config input).1 = (engine.deskStep input).1 ∧
      MatchingEngines config ends (ledger.next input) (paper.deskStep config input).2
        (engine.deskStep input).2 := by
  obtain ⟨hpaperReport, hpaperDesk, hpaper⟩ := PaperState.deskStep_refines h.atRest hmode hinput
  obtain ⟨hengineReport, hengineDesk, hengine⟩ :=
    deskStep_refines h.onLedger hinput
  rw [h.sameDesk] at hpaperReport hpaperDesk
  exact ⟨hpaperReport.trans hengineReport.symm, hpaper, hengine,
    hpaperDesk.trans hengineDesk.symm⟩

/-- Started from matching states and fed with the same inputs, both engines in a paper mode queue
the same orders, reject and miss for the same reasons, fill at the same prices, and have the same
positions and bankroll after every input. -/
theorem paper_engines_agree (σ : Type) (config : Config)
    (hmode : config.executionMode ≠ .liveTrading) (ends : String → ℕ) (ledger : MarketLedger)
    (paper : PaperState) (engine : RuntimeDecisionEngine σ)
    (hmatch : MatchingEngines config ends ledger paper engine) (inputs : List DeskInput)
    (hinputs : Follows (DeskInput.Allowed config ends) MarketLedger.next ledger inputs) :
    trace (PaperState.deskStep config) paper inputs =
      trace RuntimeDecisionEngine.deskStep engine inputs :=
  trace_eq_of_simulation (fun _ _ _ _ hallowed h => h.step hmode hallowed) hmatch hinputs

def sampleDeskInputs : List DeskInput :=
  let window := sampleWindow "market" 10000
  [.windowOpened window none 1000,
    .single (sampleLatencySignal 1000) (sampleDecision window 1000),
    .spread [sampleLegSignal 1000 .up, sampleLegSignal 1000 .down] (sampleDecision window 1000),
    .booksMoved { sampleDecision window 2000 with
      bookState := { sampleBook 2000 with down := none } },
    .windowClosed window 10000,
    .outcomeKnown window .up 11000]

/-- Two of three orders are filled, and both engines say so. -/
theorem paper_engines_agree_sample :
    let paper : PaperState :=
      { engine := .new, db := .new, bankroll := .newInMemory 1000 1000 samplePaperConfig }
    let engine : RuntimeDecisionEngine SampleStrategy :=
      .new samplePaperConfig []
        { startingBalance := 1000, currentBalance := 1000, unresolvedExposures := [],
          openTrades := [], nowMs := 1000 }
    let reports := trace (PaperState.deskStep samplePaperConfig) paper sampleDeskInputs
    reports = trace RuntimeDecisionEngine.deskStep engine sampleDeskInputs ∧
      reports.flatMap (fun report => report.outcomes.map (·.disposition)) =
        [.filled, .filled, .missed] := by
  refine ⟨?_, by decide +kernel⟩
  exact paper_engines_agree SampleStrategy samplePaperConfig (by decide) (fun _ => 10000) _ _ _
    (matchingEngines_new samplePaperConfig _ [] 1000 1000 1000) sampleDeskInputs
    (by decide +kernel)

end BubaPaint
