import BubaPaint.Decision.GlobalReleases

/-!
# Runs of a bankroll

Six counters hold what a bankroll has reserved. Whatever is reserved, released and moved, in any
order, they stay consistent: the totals are sums over the families, no bucket is overdrawn, and no
state looks as if its raw totals had been set by hand.

Main results:

- Theorem `bucket_counters_sound`: the counters are consistent in every state of a run.
-/

namespace BubaPaint

open Effects

namespace BankrollManager

def releaseReserved (bankroll : BankrollManager) (amount : ℚ) : BankrollManager :=
  { bankroll with toReserves := bankroll.toReserves.releaseFromGlobalBuckets amount }

/-- Release previously reserved capital for one explicit family sleeve. -/
def releaseReservedForFamily (bankroll : BankrollManager) (amount : ℚ)
    (family : StrategyFamily) : BankrollManager :=
  { bankroll with toReserves := bankroll.toReserves.releaseFromFamilyBuckets amount family }

/-- Add newly reserved notional to the global and family-scoped counters. -/
def addReserved (bankroll : BankrollManager) (family : StrategyFamily) (amount : ℚ) :
    BankrollManager :=
  { bankroll with toReserves := bankroll.toReserves.addReserved family amount }

end BankrollManager

/-- A release or a move between the buckets. -/
inductive ReserveMove where
  | release (amount : ℚ)
  | releaseForFamily (amount : ℚ) (family : StrategyFamily)
  | transition (amount : ℚ) (strategy : String)

def ReserveMove.apply (move : ReserveMove) (bankroll : BankrollManager) : BankrollManager :=
  match move with
  | .release amount => bankroll.releaseReserved amount
  | .releaseForFamily amount family => bankroll.releaseReservedForFamily amount family
  | .transition amount strategy => bankroll.transitionTradeToPendingSettlement amount strategy

def ReserveMove.amount : ReserveMove → ℚ
  | .release amount | .releaseForFamily amount _ | .transition amount _ => amount

/-- Everything that changes the counters. -/
inductive ReserveAction where
  | addReserved (family : StrategyFamily) (amount : ℚ)
  | hydrateTradeReserve (exposure : UnresolvedTradeExposure) (nowMs : ℕ)
  | move (kind : ReserveMove)

namespace ReserveAction

/-- Change the counters. -/
def apply (action : ReserveAction) (bankroll : BankrollManager) : BankrollManager :=
  match action with
  | .addReserved family amount => bankroll.addReserved family amount
  | .hydrateTradeReserve exposure nowMs => bankroll.hydrateTradeReserve exposure nowMs
  | .move kind => kind.apply bankroll

def amount : ReserveAction → ℚ
  | .addReserved _ amount => amount
  | .hydrateTradeReserve exposure _ => exposure.entryPrice * exposure.size
  | .move kind => kind.amount

/-- What an action does to the totals: a release takes the amount or all there is, of its family or
of all, and a transition takes nothing. -/
def Moves (before after : Reserves) : ReserveAction → Prop
  | .addReserved family amount =>
    ∀ other, after.reservedCapitalByFamily other =
      before.reservedCapitalByFamily other + if other = family then amount else 0
  | .hydrateTradeReserve exposure _ =>
    ∀ other, after.reservedCapitalByFamily other =
      before.reservedCapitalByFamily other +
        if other = familyForStrategy exposure.strategy then exposure.entryPrice * exposure.size
        else 0
  | .move (.release amount) =>
    after.reservedCapital =
      before.reservedCapital - min amount before.reservedCapital
  | .move (.releaseForFamily amount family) =>
    ∀ other, after.reservedCapitalByFamily other =
      before.reservedCapitalByFamily other -
        if other = family then min amount (before.reservedCapitalByFamily family) else 0
  | .move (.transition _ _) =>
    after.reservedCapital = before.reservedCapital ∧
      ∀ family, after.reservedCapitalByFamily family = before.reservedCapitalByFamily family

end ReserveAction

def reserveSystem : System BankrollManager ReserveAction Unit where
  step bankroll action := some (action.apply bankroll)
  record _ _ _ _ := ()

/-- The six counters are consistent. -/
structure BucketsSound (reserves : Reserves) : Prop where
  active_nonneg : ∀ family, 0 ≤ reserves.activeReservedCapitalByFamily family
  pending_nonneg : ∀ family, 0 ≤ reserves.pendingSettlementReservedCapitalByFamily family
  active : reserves.activeReservedCapital =
    Reserves.familySum reserves.activeReservedCapitalByFamily
  pending : reserves.pendingSettlementReservedCapital =
    Reserves.familySum reserves.pendingSettlementReservedCapitalByFamily
  total : reserves.reservedCapital =
    reserves.activeReservedCapital + reserves.pendingSettlementReservedCapital
  byFamily : ∀ family, reserves.reservedCapitalByFamily family =
    reserves.activeReservedCapitalByFamily family +
      reserves.pendingSettlementReservedCapitalByFamily family
  not_overridden : reserves.rawReserveStateIsManuallyOverridden = false
  not_overriddenForFamily : ∀ family,
    reserves.rawReserveStateIsManuallyOverriddenForFamily family = false

namespace Reserves.Sound

variable {reserves : Reserves} {amount : ℚ} (family : StrategyFamily)

theorem bucketsSound (h : reserves.Sound) : BucketsSound reserves where
  active_nonneg := h.coherent.active_nonneg
  pending_nonneg := h.coherent.pending_nonneg
  active := h.totalled.active
  pending := h.totalled.pending
  total := h.coherent.total
  byFamily := h.coherent.byFamily
  not_overridden := by simp [rawReserveStateIsManuallyOverridden, h.coherent.total]
  not_overriddenForFamily family := h.coherent.not_overridden family

section Sound

variable (h : reserves.Sound) (hamount : 0 ≤ amount)

include h hamount

theorem addReserved : (reserves.addReserved family amount).Sound :=
  ⟨h.coherent.addReserved family hamount, h.totalled.addReserved family⟩

theorem addPending : (reserves.addPending family amount).Sound :=
  ⟨h.coherent.addPending family hamount, h.totalled.addPending family⟩

theorem releaseFromFamilyBuckets : (reserves.releaseFromFamilyBuckets amount family).Sound :=
  ⟨h.coherent.releaseFromFamilyBuckets family hamount,
    h.totalled.releaseFromFamilyBuckets family h.coherent⟩

theorem transitionFamilyReserveToPending :
    (reserves.transitionFamilyReserveToPending amount family).Sound :=
  ⟨h.coherent.transitionFamilyReserveToPending family hamount,
    h.totalled.transitionFamilyReserveToPending family h.coherent⟩

end Sound

/-! ### Totals by family -/

section ByFamily

variable (h : reserves.Sound) (hamount : 0 ≤ amount) (other : StrategyFamily)

include h hamount

theorem byFamily_addReserved :
    (reserves.addReserved family amount).reservedCapitalByFamily other =
      reserves.reservedCapitalByFamily other + if other = family then amount else 0 := by
  rw [(h.addReserved family hamount).coherent.byFamily, h.coherent.byFamily,
    Reserves.bucket_addReserved]

theorem byFamily_addPending :
    (reserves.addPending family amount).reservedCapitalByFamily other =
      reserves.reservedCapitalByFamily other + if other = family then amount else 0 := by
  rw [(h.addPending family hamount).coherent.byFamily, h.coherent.byFamily,
    Reserves.bucket_addPending]

theorem byFamily_releaseFromFamilyBuckets :
    (reserves.releaseFromFamilyBuckets amount family).reservedCapitalByFamily other =
      reserves.reservedCapitalByFamily other -
        if other = family then min amount (reserves.reservedCapitalByFamily family) else 0 := by
  rw [(h.releaseFromFamilyBuckets family hamount).coherent.byFamily, h.coherent.byFamily,
    h.coherent.byFamily, Reserves.bucket_releaseFromFamilyBuckets _ _ h.coherent hamount]

theorem byFamily_transitionFamilyReserveToPending :
    (reserves.transitionFamilyReserveToPending amount family).reservedCapitalByFamily other =
      reserves.reservedCapitalByFamily other := by
  rw [(h.transitionFamilyReserveToPending family hamount).coherent.byFamily, h.coherent.byFamily,
    Reserves.bucket_transitionFamilyReserveToPending _ _ h.coherent hamount]

end ByFamily

theorem total_transitionFamilyReserveToPending (h : reserves.Sound) (hamount : 0 ≤ amount) :
    (reserves.transitionFamilyReserveToPending amount family).reservedCapital =
      reserves.reservedCapital := by
  have hbuckets : (reserves.transitionFamilyReserveToPending amount family).bucket =
      reserves.bucket := by
    ext other
    exact Reserves.bucket_transitionFamilyReserveToPending family other h.coherent hamount
  rw [(h.transitionFamilyReserveToPending family hamount).reservedCapital_eq,
    h.reservedCapital_eq, hbuckets]

end Reserves.Sound

theorem ReserveAction.sound_apply {bankroll : BankrollManager} (h : bankroll.toReserves.Sound)
    (action : ReserveAction) (hamount : 0 ≤ action.amount) :
    (action.apply bankroll).toReserves.Sound ∧
      action.Moves bankroll.toReserves (action.apply bankroll).toReserves := by
  cases action with
  | addReserved family amount =>
    exact ⟨h.addReserved family hamount, h.byFamily_addReserved family hamount⟩
  | hydrateTradeReserve exposure nowMs =>
    unfold ReserveAction.apply BankrollManager.hydrateTradeReserve
    dsimp only
    split
    · exact ⟨h.addPending _ hamount, h.byFamily_addPending _ hamount⟩
    · exact ⟨h.addReserved _ hamount, h.byFamily_addReserved _ hamount⟩
  | move kind =>
    cases kind with
    | release amount => exact h.releaseFromGlobalBuckets hamount
    | releaseForFamily amount family =>
      exact ⟨h.releaseFromFamilyBuckets family hamount,
        h.byFamily_releaseFromFamilyBuckets family hamount⟩
    | transition amount strategy =>
      exact ⟨h.transitionFamilyReserveToPending _ hamount,
        h.total_transitionFamilyReserveToPending _ hamount,
        h.byFamily_transitionFamilyReserveToPending _ hamount⟩

/-- In every state that a new bankroll reaches the counters are consistent, and the next action
takes exactly what it says. -/
theorem bucket_counters_sound {startingBalance currentBalance : ℚ} {config : Config}
    {bankroll : BankrollManager}
    (hrun : reserveSystem.Run (fun _ _ action _ => 0 ≤ action.amount)
      ((), .newInMemory startingBalance currentBalance config) () bankroll) :
    BucketsSound bankroll.toReserves ∧
      ∀ action : ReserveAction, 0 ≤ action.amount →
        action.Moves bankroll.toReserves (action.apply bankroll).toReserves := by
  have hsound : bankroll.toReserves.Sound := by
    refine hrun.invariant (fun _ bankroll => bankroll.toReserves.Sound) Reserves.sound_empty ?_
    intro _ before action after hbefore hstep hamount
    cases hstep
    exact (action.sound_apply hbefore hamount).1
  exact ⟨hsound.bucketsSound, fun action hamount => (action.sound_apply hsound hamount).2⟩

/-- Two families reserve, one market closes, and a release drains more than one bucket. -/
theorem bucket_counters_sound_sample :
    ∃ bankroll : BankrollManager, bankroll.reservedCapital = 30 ∧
      BucketsSound bankroll.toReserves ∧ (bankroll.releaseReserved 100).reservedCapital = 0 := by
  have hfollow : (reserveSystem.follow (fun _ _ action _ => decide (0 ≤ action.amount))
      [.addReserved .latencyArb 20, .addReserved .spreadCapture 30,
        .move (.transition 15 "latency-arb"), .move (.release 20)]
      ((), .newInMemory 1000 1000 sampleConfig)).any (fun reached =>
        decide (reached.2.reservedCapital = 30)) = true := by
    decide +kernel
  obtain ⟨_, bankroll, hrun, hproperty⟩ := System.exists_run_of_follow hfollow
    fun _ _ _ _ => of_decide_eq_true
  have hreserved : bankroll.reservedCapital = 30 := of_decide_eq_true hproperty
  obtain ⟨hsound, hmoves⟩ := bucket_counters_sound hrun
  have hreleased := hmoves (.move (.release 100)) (by decide +kernel)
  refine ⟨bankroll, hreserved, hsound, hreleased.trans ?_⟩
  rw [hreserved]
  norm_num

end BubaPaint
