import BubaPaint.Decision.Ledger

/-!
# The ledger of a simulated run

Without feedback of the venue every release is made by the engine itself, so that nothing is ever
under way: the buckets of a family hold what its orders and trades charge, and the totals beside
them are sums over the families.

Main results:

- Theorem `simulated_reserves_accounted`: the buckets hold what orders and trades charge.
-/

namespace BubaPaint

open Effects List

namespace Reserves

/-! ## Totals -/

def familySum (map : StrategyFamily → ℚ) : ℚ :=
  map .latencyArb + map .spreadCapture + map .calmPersistence

/-- The totals of the buckets are those of the families together. -/
structure Totalled (reserves : Reserves) : Prop where
  active : reserves.activeReservedCapital = familySum reserves.activeReservedCapitalByFamily
  pending : reserves.pendingSettlementReservedCapital =
    familySum reserves.pendingSettlementReservedCapitalByFamily

theorem totalled_empty : empty.Totalled where
  active := by simp [empty, familySum]
  pending := by simp [empty, familySum]

section Totals

variable {map : StrategyFamily → ℚ} {amount : ℚ} (family : StrategyFamily)

theorem familySum_addEntry : familySum (addEntry map family amount) = familySum map + amount := by
  cases family <;> simp [familySum, addEntry_apply] <;> ring

theorem familySum_takeEntry (hle : amount ≤ map family) :
    familySum (takeEntry map family amount) = familySum map - amount := by
  cases family <;> simp [familySum, takeEntry_apply _ _ map hle] <;> ring

theorem le_familySum (hmap : ∀ family, 0 ≤ map family) : map family ≤ familySum map := by
  have hlatency := hmap .latencyArb
  have hspread := hmap .spreadCapture
  have hcalm := hmap .calmPersistence
  unfold familySum
  cases family <;> linarith

theorem familySum_eq_zero (hmap : ∀ family, map family = 0) : familySum map = 0 := by
  simp [familySum, hmap]

end Totals

namespace Totalled

variable {reserves : Reserves} {amount : ℚ} (family : StrategyFamily)

section Changes

variable (h : reserves.Totalled)

include h

theorem syncRawReservedTotals : reserves.syncRawReservedTotals.Totalled :=
  ⟨h.active, h.pending⟩

theorem addReserved : (reserves.addReserved family amount).Totalled where
  active := by
    rw [active_addReserved, familySum_addEntry, ← h.active]
    rfl
  pending := h.pending

theorem addPending : (reserves.addPending family amount).Totalled where
  active := h.active
  pending := by
    rw [pending_addPending, familySum_addEntry, ← h.pending]
    rfl

theorem consumeFamilyActiveReserve
    (hactive : ∀ family, 0 ≤ reserves.activeReservedCapitalByFamily family) :
    (reserves.consumeFamilyActiveReserve amount family).2.Totalled := by
  have hle := min_le_right amount (reserves.activeReservedCapitalByFamily family)
  have hsum := le_familySum family hactive
  unfold Reserves.consumeFamilyActiveReserve
  dsimp only
  split
  · refine ⟨?_, h.pending⟩
    rw [familySum_takeEntry family hle, ← h.active]
    apply max_eq_left
    rw [h.active]
    linarith
  · exact h

theorem consumeFamilyPendingReserve
    (hpending : ∀ family, 0 ≤ reserves.pendingSettlementReservedCapitalByFamily family) :
    (reserves.consumeFamilyPendingReserve amount family).2.Totalled := by
  have hle := min_le_right amount (reserves.pendingSettlementReservedCapitalByFamily family)
  have hsum := le_familySum family hpending
  unfold Reserves.consumeFamilyPendingReserve
  dsimp only
  split
  · refine ⟨h.active, ?_⟩
    rw [familySum_takeEntry family hle, ← h.pending]
    apply max_eq_left
    rw [h.pending]
    linarith
  · exact h

/-- Releasing from the buckets of one family keeps the totals. -/
theorem releaseFromFamilyBuckets (hcoherent : reserves.Coherent) :
    (reserves.releaseFromFamilyBuckets amount family).Totalled := by
  have hactive : (reserves.consumeFamilyActiveReserve amount family).2.Totalled :=
    h.consumeFamilyActiveReserve family hcoherent.active_nonneg
  unfold Reserves.releaseFromFamilyBuckets
  rw [hcoherent.not_overridden, if_neg Bool.false_ne_true]
  dsimp only
  split
  · apply Totalled.syncRawReservedTotals
    apply hactive.consumeFamilyPendingReserve
    intro other
    rw [pending_consumeFamilyActiveReserve]
    exact hcoherent.pending_nonneg other
  · exact hactive.syncRawReservedTotals

/-- Closing a market keeps the totals. -/
theorem transitionFamilyReserveToPending (hcoherent : reserves.Coherent) :
    (reserves.transitionFamilyReserveToPending amount family).Totalled := by
  have hactive : (reserves.consumeFamilyActiveReserve amount family).2.Totalled :=
    h.consumeFamilyActiveReserve family hcoherent.active_nonneg
  unfold Reserves.transitionFamilyReserveToPending
  rw [hcoherent.not_overridden, if_neg Bool.false_ne_true]
  dsimp only
  split
  · exact hactive
  · exact hactive.addPending family

end Changes

end Totalled

end Reserves

/-! ## Messages -/

/-- The ledger of books whose totals are right. -/
structure TotalLedger (books : Books) : Prop where
  ledger : Ledger books []
  totalled : books.reserves.Totalled

namespace TotalLedger

variable {books books' : Books} {request : RuntimeDecisionRequest} {mode : ExecutionMode}
variable {events : List LivePersistenceEvent} {orders : List RuntimePendingOrder}
variable {reserves : Reserves} {trades : List SimulatedTrade}

theorem coherent (h : TotalLedger books) : books.reserves.Coherent :=
  h.ledger.balanced.coherent

theorem dueStep (h : TotalLedger books) (hstep : DueStep request mode books events books') :
    TotalLedger books' := by
  refine ⟨h.ledger.dueStep hstep, ?_⟩
  cases hstep with
  | missed before after order event =>
    exact h.totalled.releaseFromFamilyBuckets _ h.coherent
  | filled before after order event price size trade =>
    unfold Reserves.releaseUnspent
    split
    · exact h.totalled.releaseFromFamilyBuckets _ h.coherent
    · exact h.totalled

theorem dueRun (h : TotalLedger books) (hrun : DueRun request mode books events books') :
    TotalLedger books' := by
  induction hrun with
  | nil => exact h
  | cons hstep _ ih => exact ih (h.dueStep hstep)

theorem queueStep (h : TotalLedger books) {signalIds : List ℤ}
    (hstep : QueueStep FamilyLabel request signalIds books events orders books') :
    TotalLedger books' := by
  refine ⟨h.ledger.queueStep hstep, ?_⟩
  cases hstep with
  | passed => exact h.totalled
  | probed family strategy amount _ _ hlabel hamount hbooks =>
    rw [hbooks]
    exact (h.totalled.addReserved family).releaseFromFamilyBuckets _
      (h.coherent.addReserved family hamount.le)
  | queued family _ _ _ hids hqueueable _ hbooks =>
    rw [hbooks]
    exact h.totalled.addReserved family

theorem candidateRun (h : TotalLedger books)
    (hrun : CandidateRun FamilyLabel request books events orders books') : TotalLedger books' := by
  induction hrun with
  | nil => exact h
  | cons hstep _ ih =>
    obtain ⟨count, hqueue⟩ := hstep
    have hadvanced : TotalLedger (_ : Books) := ⟨h.ledger.advance count, h.totalled⟩
    exact ih (hadvanced.queueStep hqueue)

variable {σ : Type} {engine : RuntimeDecisionEngine σ}

theorem evaluate [Strategy σ] [LawfulStrategy σ] (h : TotalLedger engine.books)
    (request : RuntimeDecisionRequest) : TotalLedger (engine.evaluate request).2.books := by
  obtain ⟨dueEvents, events, orders, books, hdecides⟩ :=
    engine.evaluate_run strategiesLabelled_familyLabel request
  have hdue : TotalLedger books := by
    have hphase := hdecides.due
    unfold RuntimeDecisionEngine.DuePhase at hphase
    split at hphase
    · rw [hphase.2]
      exact h
    · exact h.dueRun hphase
  exact hdue.candidateRun hdecides.candidates

theorem cost_nonneg (h : TotalLedger books) {entry : OpenRuntimeTrade}
    (hentry : entry ∈ books.openTrades) : 0 ≤ entry.trade.entryPrice * entry.trade.size := by
  apply h.ledger.balanced.nonneg (tradeCharge entry.trade)
  apply mem_append_left
  apply mem_append_right
  exact mem_map.mpr ⟨entry, hentry, rfl⟩

theorem foldl_close (hcoherent : reserves.Coherent) (htotalled : reserves.Totalled)
    (hcost : ∀ trade ∈ trades, 0 ≤ trade.entryPrice * trade.size) :
    (trades.foldl Reserves.close reserves).Totalled := by
  induction trades generalizing reserves with
  | nil => exact htotalled
  | cons trade rest ih =>
    have hfirst := hcost trade mem_cons_self
    exact ih (hcoherent.transitionFamilyReserveToPending _ hfirst)
      (htotalled.transitionFamilyReserveToPending _ hcoherent)
      fun other hother => hcost other (mem_cons_of_mem _ hother)

theorem foldl_settle (hcoherent : reserves.Coherent) (htotalled : reserves.Totalled)
    (hcost : ∀ trade ∈ trades, 0 ≤ trade.entryPrice * trade.size) :
    (trades.foldl Reserves.settle reserves).Totalled := by
  induction trades generalizing reserves with
  | nil => exact htotalled
  | cons trade rest ih =>
    have hfirst := hcost trade mem_cons_self
    have hrest := fun other hother => hcost other (mem_cons_of_mem _ hother)
    rw [foldl_cons]
    by_cases hid : trade.id.isSome = true
    · have hsettled : reserves.settle trade = _ := if_pos hid
      rw [hsettled]
      exact ih (hcoherent.releaseFromFamilyBuckets _ hfirst)
        (htotalled.releaseFromFamilyBuckets _ hcoherent) hrest
    · have hsettled : reserves.settle trade = reserves := if_neg hid
      rw [hsettled]
      exact ih hcoherent htotalled hrest

theorem windowClosed (h : TotalLedger engine.books) (window : MarketWindow) (nowMs : ℕ) :
    TotalLedger (engine.windowClosed window nowMs).2.books := by
  refine ⟨h.ledger.windowClosed window nowMs, ?_⟩
  rw [RuntimeDecisionEngine.books_windowClosed]
  apply foldl_close h.coherent h.totalled
  intro trade htrade
  obtain ⟨entry, hentry, rfl⟩ := mem_map.mp htrade
  exact h.cost_nonneg (mem_filter.mp hentry).1

theorem authoritativeResolution (h : TotalLedger engine.books) (window : MarketWindow)
    (outcome : SignalDirection) (nowMs : ℕ) :
    TotalLedger (engine.authoritativeResolution window outcome nowMs).2.books := by
  refine ⟨h.ledger.authoritativeResolution window outcome nowMs, ?_⟩
  obtain ⟨hbooks, -, -, -⟩ := engine.books_authoritativeResolution window outcome nowMs
  rw [hbooks]
  apply foldl_settle h.coherent h.totalled
  intro trade htrade
  obtain ⟨entry, hentry, rfl⟩ := mem_map.mp htrade
  exact h.cost_nonneg (mem_filter.mp hentry).1

end TotalLedger

theorem totalled_hydrate (exposures : List UnresolvedTradeExposure) (nowMs : ℕ)
    {bankroll : BankrollManager} (h : bankroll.toReserves.Totalled) :
    (bankroll.hydrateUnresolvedExposureRows exposures nowMs).toReserves.Totalled := by
  induction exposures generalizing bankroll with
  | nil => exact h
  | cons exposure rest ih =>
    apply ih
    unfold BankrollManager.hydrateTradeReserve
    dsimp only
    split
    · exact h.addPending _
    · exact h.addReserved _

theorem TotalLedger.new {σ : Type} (config : Config) (strategies : List σ)
    {seed : RuntimeDecisionSeed} (hseed : seed.Agrees) :
    TotalLedger (RuntimeDecisionEngine.new config strategies seed).books where
  ledger := Ledger.new config strategies hseed
  totalled := totalled_hydrate seed.unresolvedExposures seed.nowMs
    (show (BankrollManager.newInMemory _ _ config).toReserves.Totalled from
      Reserves.totalled_empty)

/-! ## Runs -/

section Runs

variable {σ : Type} [Strategy σ]

/-- The messages of a simulated run: none comes from the venue. -/
def Simulated : EngineMessage → Prop
  | .evaluate _ | .windowClosed .. | .authoritativeResolution .. => True
  | .liveFeedback .. | .releaseReservations _ | .flushAll _ => False

instance (message : EngineMessage) : Decidable (Simulated message) :=
  match message with
  | .evaluate _ | .windowClosed .. | .authoritativeResolution .. => isTrue trivial
  | .liveFeedback .. | .releaseReservations _ | .flushAll _ => isFalse not_false

def simulatedSystem : System (RuntimeDecisionEngine σ) EngineMessage Unit :=
  RuntimeDecisionEngine.system fun _ _ _ => ()

/-- The reserved costs of the pending orders of one family. -/
def RuntimeDecisionEngine.reservedCosts (engine : RuntimeDecisionEngine σ)
    (family : StrategyFamily) : ℚ :=
  ((engine.pendingOrders.filter fun order => familyForStrategy order.strategy = family).map
    fun order => order.reservedCost).sum

def RuntimeDecisionEngine.tradeCosts (engine : RuntimeDecisionEngine σ)
    (family : StrategyFamily) : ℚ :=
  ((engine.exposure.openTrades.filter fun entry =>
    familyForStrategy entry.trade.strategy = family).map
      fun entry => entry.trade.entryPrice * entry.trade.size).sum

/-- Every bucket is empty. -/
structure Reserves.Unreserved (reserves : Reserves) : Prop where
  active : reserves.activeReservedCapital = 0
  pending : reserves.pendingSettlementReservedCapital = 0
  total : reserves.reservedCapital = 0
  byFamily : ∀ family, reserves.activeReservedCapitalByFamily family = 0 ∧
    reserves.pendingSettlementReservedCapitalByFamily family = 0 ∧
    reserves.reservedCapitalByFamily family = 0

/-- The buckets of every family hold the reserved costs of its pending orders and the costs of its
open trades, and every bucket is empty when there are none. -/
structure RuntimeDecisionEngine.ReservesAccounted (engine : RuntimeDecisionEngine σ) : Prop where
  held : ∀ family, engine.bankroll.activeReservedCapitalByFamily family +
      engine.bankroll.pendingSettlementReservedCapitalByFamily family =
    engine.reservedCosts family + engine.tradeCosts family
  released : engine.pendingOrders = [] → engine.exposure.openTrades = [] →
    engine.bankroll.toReserves.Unreserved

omit [Strategy σ] in
theorem charged_eq_sum {ρ : Type} (entries : List ρ) (charge : ρ → Charge)
    (family : StrategyFamily) :
    charged family (entries.map charge) =
      ((entries.filter fun entry => familyForStrategy (charge entry).1 = family).map
        fun entry => (charge entry).2).sum := by
  induction entries with
  | nil => rfl
  | cons entry rest ih =>
    rw [map_cons, charged_cons, ih]
    by_cases hfamily : familyForStrategy (charge entry).1 = family
    · simp [hfamily]
    · simp [hfamily, Ne.symm hfamily]

omit [Strategy σ] in
theorem TotalLedger.reservesAccounted {engine : RuntimeDecisionEngine σ}
    (h : TotalLedger engine.books) : engine.ReservesAccounted := by
  have hcoherent : engine.bankroll.toReserves.Coherent := h.coherent
  constructor
  · intro family
    have hbucket := h.ledger.balanced.bucket family
    rw [append_nil, Books.charges, charged_append, charged_eq_sum, charged_eq_sum] at hbucket
    exact hbucket
  · intro horders htrades
    have hempty : ∀ family, engine.bankroll.toReserves.bucket family = 0 := by
      intro family
      have hbucket := h.ledger.balanced.bucket family
      simp only [Books.charges, RuntimeDecisionEngine.books, horders, htrades, map_nil,
        append_nil, charged_nil] at hbucket
      exact hbucket
    have hactive : ∀ family, engine.bankroll.activeReservedCapitalByFamily family = 0 := by
      intro family
      have hsum : _ + _ = (0 : ℚ) := hempty family
      have hone := hcoherent.active_nonneg family
      have hother := hcoherent.pending_nonneg family
      linarith
    have hpending :
        ∀ family, engine.bankroll.pendingSettlementReservedCapitalByFamily family = 0 := by
      intro family
      have hsum : _ + _ = (0 : ℚ) := hempty family
      have hone := hactive family
      linarith
    have htotal : engine.bankroll.activeReservedCapital = 0 :=
      h.totalled.active.trans (Reserves.familySum_eq_zero hactive)
    have htotal' : engine.bankroll.pendingSettlementReservedCapital = 0 :=
      h.totalled.pending.trans (Reserves.familySum_eq_zero hpending)
    refine ⟨htotal, htotal', ?_, ?_⟩
    · rw [hcoherent.total, htotal, htotal', add_zero]
    · exact fun family =>
        ⟨hactive family, hpending family, (hcoherent.byFamily family).trans (hempty family)⟩

/-- In every state of every run over evaluations, closed windows and resolutions, the buckets hold
what the orders and trades of their families cost. -/
theorem simulated_reserves_accounted [LawfulStrategy σ] {config : Config} (strategies : List σ)
    {seed : RuntimeDecisionSeed} (hseed : seed.Agrees) {engine : RuntimeDecisionEngine σ}
    (hrun : simulatedSystem.Run (fun _ _ message _ => Simulated message)
      ((), .new config strategies seed) () engine) : engine.ReservesAccounted := by
  have hledger : TotalLedger engine.books := by
    refine hrun.invariant (fun _ engine => TotalLedger engine.books)
      (.new config strategies hseed) ?_
    intro _ engine message engine' h hstep hmeets
    cases hstep
    cases message with
    | evaluate request => exact h.evaluate request
    | windowClosed window nowMs => exact h.windowClosed window nowMs
    | authoritativeResolution window outcome nowMs =>
      exact h.authoritativeResolution window outcome nowMs
    | liveFeedback fills rejectedSignalIds nowMs => exact hmeets.elim
    | releaseReservations releases => exact hmeets.elim
    | flushAll nowMs => exact hmeets.elim
  exact hledger.reservesAccounted

end Runs

/-- A simulated order is filled and its market closes. -/
theorem simulated_reserves_accounted_sample :
    ∃ engine,
      simulatedSystem.Run (fun _ _ message _ => Simulated message)
          ((), .new { sampleConfig with executionMode := .paper } [SampleStrategy.mk .up]
            sampleSeed) () engine ∧
        engine.bankroll.pendingSettlementReservedCapital = 8 ∧ engine.ReservesAccounted := by
  have hfollow : (simulatedSystem.follow (fun _ _ message _ => decide (Simulated message))
      [.evaluate (sampleDecision (sampleWindow "market" 10000) 1000),
        .evaluate (sampleDecision (sampleWindow "market" 10000) 2000),
        .windowClosed (sampleWindow "market" 10000) 10000]
      ((), .new { sampleConfig with executionMode := .paper } [SampleStrategy.mk .up]
        sampleSeed)).any (fun x =>
          decide (x.2.bankroll.pendingSettlementReservedCapital = 8)) = true := by
    decide +kernel
  obtain ⟨_, engine, hrun, hpending⟩ := System.exists_run_of_follow hfollow
    fun _ _ _ _ => of_decide_eq_true
  exact ⟨engine, hrun, of_decide_eq_true hpending,
    simulated_reserves_accounted _ sampleSeed_agrees hrun⟩

end BubaPaint
