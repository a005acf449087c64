import BubaPaint.Replay.PaperVerdicts

/-!
# Due orders under database failure

A due order makes one call to the database when it is missed and two when it is filled: its trade is
stored, then the outcome of its signal. Reserve and counters are changed before the calls. If a call
fails, the loop stops; the orders it did not come to stay in the queue, the order of the failed call
does not.

Main results:

- Theorem `dueOrders_atomic_iff`: every order stays pending or is wholly decided, unless its trade
  is not stored.
-/

namespace BubaPaint

open PaperDueOrders

/-- A call to the database that a due order makes. -/
inductive DueOrderCall where
  | openTrade
  | updateSignalExecutionOutcome
  deriving DecidableEq

def OrderVerdict.calls : OrderVerdict → List DueOrderCall
  | .deferred => []
  | .missed .. => [.updateSignalExecutionOutcome]
  | .filled .. => [.openTrade, .updateSignalExecutionOutcome]

/-- The calls that several orders lead to, one after the other. -/
def dueCalls (context : DueOrderContext) (config : Config) (orders : List PendingOrder) :
    List DueOrderCall :=
  orders.flatMap fun order => (order.verdict context config).calls

theorem PendingOrder.due_of_verdict {order : PendingOrder} {context : DueOrderContext}
    {config : Config} (h : order.verdict context config ≠ .deferred) :
    order.arrivalTs ≤ context.now := by
  by_contra hlate
  exact h (orderVerdict_of_early (not_le.mp hlate))

namespace PaperState

variable (context : DueOrderContext) (config : Config)

/-- Release the reserved capital for an unfilled order; the database answers to the given number of
calls and fails at the next one. -/
def tryRejectOrder (state : PaperState) (order : PendingOrder) (miss : MissedOrderContext) :
    ℕ → Except DueOrderCall (OrderDisposition × ℕ) × PaperState
  | 0 =>
    let state := state.releaseReserved order.reservedCost order.strategy
    (.error .updateSignalExecutionOutcome,
      { state with engine.stats.noFills := state.engine.stats.noFills + 1 })
  | calls + 1 =>
    let (disposition, state) := state.rejectOrder order context miss
    (.ok (disposition, calls), state)

/-- Persist one successful delayed paper fill; the database answers to the given number of calls and
fails at the next one. -/
def tryFillDueOrder (state : PaperState) (order : PendingOrder) (book : TopOfBook)
    (freshnessMs : Option ℕ) (filledSize : ℚ) :
    ℕ → Except DueOrderCall (OrderDisposition × ℕ) × PaperState
  | 0 =>
    let state := state.releaseSurplus order (filledSize * book.bestAsk)
    (.error .openTrade, state.recordFill order book.bestAsk filledSize context.now)
  | 1 =>
    let state := state.releaseSurplus order (filledSize * book.bestAsk)
    let state := state.recordFill order book.bestAsk filledSize context.now
    let trade := order.trade book.bestAsk filledSize context.now config.executionMode.asStr
    (.error .updateSignalExecutionOutcome, { state with db := (state.db.openTrade trade).2 })
  | calls + 2 =>
    let (disposition, state) :=
      state.fillDueOrder order context book freshnessMs filledSize config
    (.ok (disposition, calls), state)

/-- Attempt to execute one pending order while the database answers. -/
def tryProcessDueOrder (state : PaperState) (order : PendingOrder) (calls : ℕ) :
    Except DueOrderCall (OrderDisposition × ℕ) × PaperState :=
  match order.verdict context config with
  | .deferred => (.ok (.deferred order, calls), state)
  | .missed trackGroup reason book =>
    state.tryRejectOrder context order (missedOrderContext context.now trackGroup reason book) calls
  | .filled book filledSize =>
    state.tryFillDueOrder context config order book (some (bookAgeMs context.now book)) filledSize
      calls

end PaperState

/-- Take note of what became of one order. -/
def PaperDueOrders.absorb (due : PaperDueOrders) (disposition : OrderDisposition)
    (state : PaperState) : PaperDueOrders :=
  match disposition with
  | .deferred order => { due with state, remaining := due.remaining ++ [order] }
  | .missed groupId outcome =>
    { due with
      state := { state with engine.recentOutcomes := state.engine.recentOutcomes ++ [outcome] }
      groupOutcomes := recordGroupOutcome due.groupOutcomes groupId false }
  | .filled trade groupId outcome =>
    { due with
      state := { state with engine.recentOutcomes := state.engine.recentOutcomes ++ [outcome] }
      opened := due.opened ++ [trade]
      groupOutcomes := recordGroupOutcome due.groupOutcomes groupId true }

/-- Process the orders of the queue until a call fails. Then the orders kept so far and those that
are left make up the queue. -/
def tryDueOrders (context : DueOrderContext) (config : Config) :
    List PendingOrder → PaperDueOrders → ℕ → Except (DueOrderCall × PaperState) PaperDueOrders
  | [], due, _ => .ok due
  | order :: rest, due, calls =>
    match due.state.tryProcessDueOrder context config order calls with
    | (.error call, state) =>
      .error (call, { state with engine.pendingOrders := due.remaining ++ rest })
    | (.ok (disposition, calls), state) =>
      tryDueOrders context config rest (due.absorb disposition state) calls

/-- Attempt to fill all pending orders whose simulated arrival time has passed; the database answers
to the given number of calls and fails at the next one. -/
def PaperState.tryProcessDueOrders (state : PaperState) (context : DueOrderContext)
    (config : Config) (calls : ℕ) : Except DueOrderCall (List SimulatedTrade) × PaperState :=
  match tryDueOrders context config state.engine.pendingOrders
      { state := { state with engine.pendingOrders := [] }, remaining := [], opened := [],
        groupOutcomes := [] } calls with
  | .error (call, state) => (.error call, state)
  | .ok due =>
    let state := { due.state with engine.pendingOrders := due.remaining }
    (.ok due.opened, state.recordLeggingFailures due.groupOutcomes)

/-- What the decision about one order changes: the reserve, the counters and the trades. -/
structure DueEffects where
  bankroll : BankrollManager
  table : TradesTable
  noFills : ℕ
  filledOrders : ℕ
  partialFills : ℕ
  totalFilledSize : ℚ
  totalSlippage : ℚ
  totalFillLatencyMs : ℕ

/-- What was decided so far. -/
def PaperState.effects (state : PaperState) : DueEffects where
  bankroll := state.bankroll
  table := state.db.table
  noFills := state.engine.stats.noFills
  filledOrders := state.engine.stats.filledOrders
  partialFills := state.engine.stats.partialFills
  totalFilledSize := state.engine.stats.totalFilledSize
  totalSlippage := state.engine.stats.totalSlippage
  totalFillLatencyMs := state.engine.stats.totalFillLatencyMs

namespace DueEffects

def miss (effects : DueEffects) (order : PendingOrder) : DueEffects :=
  { effects with
    bankroll := effects.bankroll.releaseReservedForStrategy order.reservedCost order.strategy
    noFills := effects.noFills + 1 }

/-- A filled order gives back what its fill does not cost and is counted. -/
def count (effects : DueEffects) (order : PendingOrder) (context : DueOrderContext)
    (fillPrice filledSize : ℚ) : DueEffects :=
  { effects with
    bankroll :=
      if order.reservedCost > filledSize * fillPrice then
        effects.bankroll.releaseReservedForStrategy (order.reservedCost - filledSize * fillPrice)
          order.strategy
      else effects.bankroll
    filledOrders := effects.filledOrders + 1
    partialFills :=
      if filledSize < order.requestedSize then effects.partialFills + 1
      else effects.partialFills
    totalFilledSize := effects.totalFilledSize + filledSize
    totalSlippage :=
      effects.totalSlippage + max (fillPrice - order.requestedPrice) 0 * filledSize
    totalFillLatencyMs := effects.totalFillLatencyMs + (context.now - order.signalTimestamp) }

def store (effects : DueEffects) (order : PendingOrder) (context : DueOrderContext)
    (config : Config) (fillPrice filledSize : ℚ) : DueEffects :=
  { effects with
    table := effects.table.openTrade
      (order.trade fillPrice filledSize context.now config.executionMode.asStr) }

def decide (context : DueOrderContext) (config : Config) (effects : DueEffects)
    (order : PendingOrder) : DueEffects :=
  match order.verdict context config with
  | .deferred => effects
  | .missed .. => effects.miss order
  | .filled book filledSize =>
    (effects.count order context book.bestAsk filledSize).store order context config book.bestAsk
      filledSize

end DueEffects

/-- Some orders of a list are decided, all of them due; the others are kept. -/
inductive Parted (context : DueOrderContext) :
    List PendingOrder → List PendingOrder → List PendingOrder → Prop where
  | nil : Parted context [] [] []
  | decided {order : PendingOrder} {orders decided kept : List PendingOrder}
      (due : order.arrivalTs ≤ context.now) (rest : Parted context orders decided kept) :
      Parted context (order :: orders) (order :: decided) kept
  | kept {order : PendingOrder} {orders decided kept : List PendingOrder}
      (rest : Parted context orders decided kept) :
      Parted context (order :: orders) decided (order :: kept)

/-- Every order of the queue is either still pending or wholly decided. -/
def PaperState.AtomicTo (context : DueOrderContext) (config : Config)
    (state state' : PaperState) : Prop :=
  ∃ decided kept, Parted context state.engine.pendingOrders decided kept ∧
    state'.engine.pendingOrders = kept ∧
    state'.effects = decided.foldl (DueEffects.decide context config) state.effects

/-! ## One order -/

theorem TradesTable.sequence_openTrade {table : TradesTable} {trade : SimulatedTrade}
    (h : trade.id = none) : (table.openTrade trade).sequence = table.sequence + 1 := by
  unfold openTrade
  rw [h]
  exact max_eq_right (by omega)

namespace DueEffects

/-- How many fills were counted for each identifier of a trade. -/
def unstored (effects : DueEffects) : ℤ :=
  effects.filledOrders - effects.table.sequence

variable (context : DueOrderContext) (config : Config) (effects : DueEffects)

theorem unstored_decide (order : PendingOrder) :
    (effects.decide context config order).unstored = effects.unstored := by
  unfold decide
  cases order.verdict context config with
  | deferred => rfl
  | missed trackGroup reason book => rfl
  | filled book filledSize =>
    simp only [unstored, store, count]
    rw [TradesTable.sequence_openTrade rfl]
    push_cast
    ring

theorem unstored_foldl_decide (orders : List PendingOrder) :
    (orders.foldl (decide context config) effects).unstored = effects.unstored := by
  induction orders generalizing effects with
  | nil => rfl
  | cons order rest ih => rw [List.foldl_cons, ih, unstored_decide]

end DueEffects

namespace PaperState

variable (context : DueOrderContext) (config : Config)
variable {state : PaperState} {order : PendingOrder} {calls : ℕ}

theorem effects_releaseSurplus_recordFill (state : PaperState) (order : PendingOrder)
    (fillPrice filledSize : ℚ) :
    ((state.releaseSurplus order (filledSize * fillPrice)).recordFill order fillPrice filledSize
        context.now).effects =
      state.effects.count order context fillPrice filledSize := by
  unfold releaseSurplus recordFill effects DueEffects.count
  split <;> rfl

@[simp]
theorem effects_fillDueOrder (state : PaperState) (order : PendingOrder) (book : TopOfBook)
    (freshnessMs : Option ℕ) (filledSize : ℚ) :
    (state.fillDueOrder order context book freshnessMs filledSize config).2.effects =
      (state.effects.count order context book.bestAsk filledSize).store order context config
        book.bestAsk filledSize := by
  unfold fillDueOrder releaseSurplus recordFill effects DueEffects.count DueEffects.store
  dsimp only
  split <;> rfl

theorem effects_processDueOrder (state : PaperState) (order : PendingOrder) :
    (state.processDueOrder order context config).2.effects =
      state.effects.decide context config order := by
  rw [processDueOrder_eq, DueEffects.decide]
  cases order.verdict context config with
  | deferred => rfl
  | missed trackGroup reason book => rfl
  | filled book filledSize =>
    exact state.effects_fillDueOrder context config order book _ filledSize

theorem tryProcessDueOrder_of_none (h : (order.verdict context config).calls[calls]? = none) :
    state.tryProcessDueOrder context config order calls =
      (.ok ((state.processDueOrder order context config).1,
          calls - (order.verdict context config).calls.length),
        (state.processDueOrder order context config).2) := by
  rw [processDueOrder_eq, tryProcessDueOrder]
  rw [List.getElem?_eq_none_iff] at h
  cases hverdict : order.verdict context config with
  | deferred => rfl
  | missed trackGroup reason book =>
    rw [hverdict] at h
    cases calls with
    | zero => simp [OrderVerdict.calls] at h
    | succ calls => rfl
  | filled book filledSize =>
    rw [hverdict] at h
    rcases calls with _ | _ | calls
    · simp [OrderVerdict.calls] at h
    · simp [OrderVerdict.calls] at h
    · rfl

theorem tryProcessDueOrder_of_some {call : DueOrderCall}
    (h : (order.verdict context config).calls[calls]? = some call) :
    ∃ state', state.tryProcessDueOrder context config order calls = (.error call, state') ∧
      order.arrivalTs ≤ context.now ∧
      (call = .openTrade → state'.effects.unstored = state.effects.unstored + 1) ∧
      (call ≠ .openTrade → state'.effects = state.effects.decide context config order) := by
  have hdue : order.arrivalTs ≤ context.now := by
    refine PendingOrder.due_of_verdict fun hverdict : order.verdict context config = _ => ?_
    simp [hverdict, OrderVerdict.calls] at h
  unfold tryProcessDueOrder DueEffects.decide
  cases hverdict : order.verdict context config with
  | deferred => simp [hverdict, OrderVerdict.calls] at h
  | missed trackGroup reason book =>
    rw [hverdict] at h
    cases calls with
    | zero =>
      cases h
      exact ⟨_, rfl, hdue, fun hcall => (by cases hcall), fun _ => rfl⟩
    | succ calls => simp [OrderVerdict.calls] at h
  | filled book filledSize =>
    rw [hverdict] at h
    have hcounted := state.effects_releaseSurplus_recordFill context order book.bestAsk filledSize
    rcases calls with _ | _ | calls
    · cases h
      refine ⟨_, rfl, hdue, fun _ => ?_, fun hcall => absurd rfl hcall⟩
      rw [hcounted]
      simp only [DueEffects.unstored, DueEffects.count]
      push_cast
      ring
    · cases h
      refine ⟨_, rfl, hdue, fun hcall => (by cases hcall), fun _ => ?_⟩
      dsimp only
      rw [← hcounted]
      rfl
    · simp [OrderVerdict.calls] at h

end PaperState

/-! ## The whole queue -/

variable (context : DueOrderContext) (config : Config) (due : PaperDueOrders)
variable (order : PendingOrder)

theorem PaperDueOrders.step_eq_absorb :
    due.step context config order =
      due.absorb (due.state.processDueOrder order context config).1
        (due.state.processDueOrder order context config).2 := by
  unfold step absorb
  rcases due.state.processDueOrder order context config with ⟨kept | missed | filled, state⟩ <;> rfl

@[simp]
theorem PaperDueOrders.effects_absorb (disposition : OrderDisposition) (state : PaperState) :
    (due.absorb disposition state).state.effects = state.effects := by
  cases disposition <;> rfl

theorem PaperDueOrders.remaining_step :
    (due.step context config order).remaining =
      due.remaining ++
        match order.verdict context config with
        | .deferred => [order]
        | _ => [] := by
  rw [step_eq_absorb, PaperState.processDueOrder_eq]
  cases order.verdict context config with
  | deferred => rfl
  | missed trackGroup reason book => exact (List.append_nil _).symm
  | filled book filledSize => exact (List.append_nil _).symm

theorem parted_kept (orders : List PendingOrder) : Parted context orders [] orders := by
  induction orders with
  | nil => exact .nil
  | cons order rest ih => exact .kept ih

section Queue

variable {context : DueOrderContext} {config : Config}
variable {orders : List PendingOrder} {due : PaperDueOrders} {calls : ℕ}

theorem tryDueOrders_of_none (h : (dueCalls context config orders)[calls]? = none) :
    tryDueOrders context config orders due calls =
      .ok (orders.foldl (step context config) due) := by
  induction orders generalizing due calls with
  | nil => rfl
  | cons order rest ih =>
    rw [dueCalls, List.flatMap_cons, List.getElem?_eq_none_iff, List.length_append] at h
    have hfirst : (order.verdict context config).calls[calls]? = none :=
      List.getElem?_eq_none_iff.mpr (by omega)
    rw [tryDueOrders, PaperState.tryProcessDueOrder_of_none context config hfirst]
    dsimp only
    rw [← step_eq_absorb, List.foldl_cons]
    apply ih
    exact List.getElem?_eq_none_iff.mpr (by unfold dueCalls; omega)

/-- What a failed call leaves: a fill that is counted without a trade if it was to store one, and
otherwise orders that are decided as a whole or kept. -/
theorem tryDueOrders_of_some {call : DueOrderCall}
    (h : (dueCalls context config orders)[calls]? = some call) :
    ∃ state', tryDueOrders context config orders due calls = .error (call, state') ∧
      (call = .openTrade → state'.effects.unstored = due.state.effects.unstored + 1) ∧
      (call ≠ .openTrade → ∃ decided kept, Parted context orders decided kept ∧
        state'.engine.pendingOrders = due.remaining ++ kept ∧
        state'.effects = decided.foldl (DueEffects.decide context config) due.state.effects) := by
  induction orders generalizing due calls with
  | nil => simp [dueCalls] at h
  | cons order rest ih =>
    rw [dueCalls, List.flatMap_cons, List.getElem?_append] at h
    rw [tryDueOrders]
    split at h
    · obtain ⟨state', htry, hdue, hopen, hother⟩ :=
        (PaperState.tryProcessDueOrder_of_some context config h :
          ∃ state', due.state.tryProcessDueOrder context config order calls = _ ∧ _)
      rw [htry]
      refine ⟨_, rfl, hopen, fun hcall => ?_⟩
      exact ⟨[order], rest, .decided hdue (parted_kept context rest), rfl, hother hcall⟩
    · rename_i hspare
      have hfirst : (order.verdict context config).calls[calls]? = none :=
        List.getElem?_eq_none_iff.mpr (not_lt.mp hspare)
      rw [PaperState.tryProcessDueOrder_of_none context config hfirst]
      dsimp only
      rw [← step_eq_absorb]
      have heffects : (due.step context config order).state.effects =
          due.state.effects.decide context config order := by
        rw [step_eq_absorb, effects_absorb,
          PaperState.effects_processDueOrder]
      have hrest := @ih (due.step context config order) _ h
      obtain ⟨state', htry, hopen, hother⟩ := hrest
      refine ⟨state', htry, fun hcall => ?_, fun hcall => ?_⟩
      · rw [hopen hcall, heffects, DueEffects.unstored_decide]
      · obtain ⟨decided, kept, hparted, hqueue, hdecided⟩ := hother hcall
        rw [remaining_step] at hqueue
        rw [heffects] at hdecided
        by_cases hverdict : order.verdict context config = .deferred
        · refine ⟨decided, order :: kept, .kept hparted, ?_, ?_⟩
          · rw [hqueue, hverdict, List.append_assoc]
            rfl
          · rw [hdecided, DueEffects.decide, hverdict]
        · refine ⟨order :: decided, kept,
            .decided (PendingOrder.due_of_verdict hverdict) hparted, ?_, hdecided⟩
          rw [hqueue]
          cases hcase : order.verdict context config with
          | deferred => exact absurd hcase hverdict
          | missed trackGroup reason book => simp
          | filled book filledSize => simp

end Queue

namespace PaperState

/-- Without a failure all due orders are processed. -/
theorem tryProcessDueOrders_of_none {state : PaperState} {context : DueOrderContext}
    {config : Config} {calls : ℕ}
    (h : (dueCalls context config state.engine.pendingOrders)[calls]? = none) :
    state.tryProcessDueOrders context config calls =
      (.ok (state.processDueOrders context config).1,
        (state.processDueOrders context config).2) := by
  rw [tryProcessDueOrders, tryDueOrders_of_none h]
  rfl

/-- If a call fails, every order of the queue is still pending or wholly decided, unless the call
was to store a trade. -/
theorem dueOrders_atomic_iff (state : PaperState) (context : DueOrderContext) (config : Config)
    (calls : ℕ) :
    (∀ call, (state.tryProcessDueOrders context config calls).1 = .error call →
        state.AtomicTo context config (state.tryProcessDueOrders context config calls).2) ↔
      (dueCalls context config state.engine.pendingOrders)[calls]? ≠ some .openTrade := by
  let start : PaperDueOrders :=
    { state := { state with engine.pendingOrders := [] }, remaining := [], opened := [],
      groupOutcomes := [] }
  cases hcall : (dueCalls context config state.engine.pendingOrders)[calls]? with
  | none => simp [tryProcessDueOrders_of_none hcall]
  | some call =>
    obtain ⟨state', htry, hopen, hother⟩ := @tryDueOrders_of_some context config _ start _ _ hcall
    have hresult : state.tryProcessDueOrders context config calls = (.error call, state') := by
      rw [tryProcessDueOrders, htry]
    rw [hresult]
    constructor
    · rintro hatomic heq
      obtain ⟨decided, kept, -, -, heffects⟩ := hatomic call rfl
      have hunstored := hopen (Option.some.inj heq)
      rw [heffects, DueEffects.unstored_foldl_decide] at hunstored
      exact absurd hunstored (by simp [start, effects, DueEffects.unstored])
    · intro hne other _
      obtain ⟨decided, kept, hparted, hqueue, heffects⟩ :=
        hother fun heq => hne (congrArg some heq)
      exact ⟨decided, kept, hparted, by rw [hqueue]; rfl, heffects⟩

def sampleDue : PaperState where
  engine :=
    { ExecutionEngine.new with
      pendingOrders :=
        [{ signalId := 1
           signalTimestamp := 1000
           marketId := "first"
           strategy := "latency-arb"
           side := .up
           tokenId := "up"
           arrivalTs := 1025
           requestedPrice := 2 / 5
           limitPrice := 1 / 2
           requestedSize := 10
           reservedCost := 5
           executionGroupId := none }] }
  db := .new
  bankroll :=
    let bankroll := BankrollManager.newInMemory 1000 1000 sampleConfig
    { bankroll with toReserves := bankroll.toReserves.addReserved .latencyArb 5 }

/-- The first call fails: the order is gone and its fill is counted, but there is no trade, and the
cost of the fill stays reserved. -/
theorem failed_trade_half_done :
    let context : DueOrderContext :=
      { now := 2000, nowUs := none, currentWindow := some (sampleWindow "first" 10000)
        bookState := sampleBook 2000 }
    let result := sampleDue.tryProcessDueOrders context sampleConfig 0
    result.1.isOk = false ∧ result.2.engine.pendingOrders = [] ∧
      result.2.engine.stats.filledOrders = 1 ∧ result.2.db.table.trades = [] ∧
      0 < result.2.bankroll.reservedCapital ∧
      ¬sampleDue.AtomicTo context sampleConfig result.2 := by
  intro context result
  refine ⟨by decide +kernel, by decide +kernel, by decide +kernel, by decide +kernel,
    by decide +kernel, ?_⟩
  rintro ⟨decided, kept, -, -, heffects⟩
  have hunstored := congrArg DueEffects.unstored heffects
  rw [DueEffects.unstored_foldl_decide] at hunstored
  have hcounted : result.2.effects.unstored = 1 := by decide +kernel
  have hbefore : sampleDue.effects.unstored = 0 := by decide +kernel
  rw [hcounted, hbefore] at hunstored
  exact absurd hunstored one_ne_zero

end PaperState

end BubaPaint
