import BubaPaint.Feeds.Events
import Mathlib.Data.Rat.Defs

/-!
# Replay ticks

The rows a replay runs over and the groups it hands to the loop: a captured event alone, snapshots
of the old kind together with those of the next ten milliseconds.
-/

namespace BubaPaint

/-- A single raw row of the replay. -/
structure RawTick where
  timestamp : ℕ
  timestampUs : Option ℕ := none
  source : String
  eventType : String
  (sequenceKey marketId assetId : Option String := none)
  (price tradeSize signedQuantity bid ask bidSize askSize depthBidNotional depthAskNotional
    depthImbalance microprice : Option ℚ := none)
  fidelity : ReplayFidelity
  deriving DecidableEq

/-- One source's snapshot at a given timestamp. -/
structure TickSample where
  eventType : String
  sequenceKey : Option String := none
  (price tradeSize signedQuantity bid ask bidSize askSize depthBidNotional depthAskNotional
    depthImbalance microprice : Option ℚ := none)
  deriving DecidableEq

/-- All sources sampled at approximately the same timestamp. -/
structure TickGroup where
  timestamp : ℕ
  timestampUs : Option ℕ := none
  (binance chainlink clobUp clobDown : Option TickSample := none)
  fidelity : ReplayFidelity
  deriving DecidableEq

def RawTick.sample (tick : RawTick) : TickSample where
  eventType := tick.eventType
  sequenceKey := tick.sequenceKey
  price := tick.price
  tradeSize := tick.tradeSize
  signedQuantity := tick.signedQuantity
  bid := tick.bid
  ask := tick.ask
  bidSize := tick.bidSize
  askSize := tick.askSize
  depthBidNotional := tick.depthBidNotional
  depthAskNotional := tick.depthAskNotional
  depthImbalance := tick.depthImbalance
  microprice := tick.microprice

/-- Put the sample of a row under its source; rows of other sources are passed over. -/
def TickGroup.add (group : TickGroup) (tick : RawTick) : TickGroup :=
  match tick.source with
  | "binance" => { group with binance := some tick.sample }
  | "chainlink" => { group with chainlink := some tick.sample }
  | "clob_up" => { group with clobUp := some tick.sample }
  | "clob_down" => { group with clobDown := some tick.sample }
  | _ => group

def RawTick.startGroup (tick : RawTick) : TickGroup where
  timestamp := tick.timestamp
  timestampUs := some (tick.timestampUs.getD (tick.timestamp * 1000))
  binance := none
  chainlink := none
  clobUp := none
  clobDown := none
  fidelity := tick.fidelity

/-- How long after its first row a group still takes rows. -/
def groupWindowMs : ReplayFidelity → ℕ
  | .rawEvent => 0
  | .legacySnapshot => 10

/-- Whether a row joins the group that an earlier row started. -/
def RawTick.joins (first tick : RawTick) : Bool :=
  match tick.fidelity with
  | .rawEvent => false
  | .legacySnapshot => tick.timestamp - first.timestamp ≤ groupWindowMs first.fidelity

def nextGroup : List RawTick → Option (TickGroup × List RawTick)
  | [] => none
  | first :: rest =>
    some (((rest.takeWhile first.joins).foldl .add (first.startGroup.add first)),
      rest.dropWhile first.joins)

/-- Yield groups until the rows are exhausted, at most as many as given. -/
def groupsUpTo : ℕ → List RawTick → List TickGroup
  | 0, _ => []
  | fuel + 1, ticks =>
    match nextGroup ticks with
    | none => []
    | some (group, rest) => group :: groupsUpTo fuel rest

def tickGroups (ticks : List RawTick) : List TickGroup :=
  groupsUpTo ticks.length ticks

variable {ticks rest : List RawTick} {group : TickGroup}

theorem length_lt_of_nextGroup (h : nextGroup ticks = some (group, rest)) :
    rest.length < ticks.length := by
  cases ticks with
  | nil => cases h
  | cons first others =>
    cases h
    have hle := (List.dropWhile_suffix (p := first.joins) (l := others)).length_le
    rw [List.length_cons]
    omega

theorem groupsUpTo_eq {fuel fuel' : ℕ} (h : ticks.length ≤ fuel) (h' : ticks.length ≤ fuel') :
    groupsUpTo fuel ticks = groupsUpTo fuel' ticks := by
  induction fuel generalizing fuel' ticks with
  | zero =>
    rw [List.length_eq_zero_iff.mp (Nat.le_zero.mp h)]
    cases fuel' <;> rfl
  | succ fuel ih =>
    cases hnext : nextGroup ticks with
    | none => cases fuel' <;> simp [groupsUpTo, hnext]
    | some group =>
      have hshort := length_lt_of_nextGroup hnext
      cases fuel' with
      | zero => omega
      | succ fuel' =>
        have hsame : groupsUpTo fuel group.2 = groupsUpTo fuel' group.2 :=
          ih (by omega) (by omega)
        simp [groupsUpTo, hnext, hsame]

theorem tickGroups_of_nextGroup (h : nextGroup ticks = some (group, rest)) :
    tickGroups ticks = group :: tickGroups rest := by
  have hshort := length_lt_of_nextGroup h
  obtain ⟨fuel, hfuel⟩ := Nat.exists_eq_add_one_of_ne_zero (Nat.ne_zero_of_lt hshort)
  unfold tickGroups
  rw [hfuel]
  simp only [groupsUpTo, h]
  rw [groupsUpTo_eq (by omega) le_rfl]

def RawTick.soleGroup (tick : RawTick) : TickGroup :=
  tick.startGroup.add tick

@[simp]
theorem timestamp_soleGroup (tick : RawTick) : tick.soleGroup.timestamp = tick.timestamp := by
  unfold RawTick.soleGroup TickGroup.add
  split <;> rfl

theorem tickGroups_of_rawEvent (hraw : ∀ tick ∈ ticks, tick.fidelity = .rawEvent) :
    tickGroups ticks = ticks.map RawTick.soleGroup := by
  induction ticks with
  | nil => rfl
  | cons first rest ih =>
    have hrest := fun tick htick => hraw tick (List.mem_cons_of_mem _ htick)
    have hnext : nextGroup (first :: rest) = some (first.soleGroup, rest) := by
      cases rest with
      | nil => rfl
      | cons second others =>
        have hapart : first.joins second = false := by
          unfold RawTick.joins
          rw [hrest second List.mem_cons_self]
        simp [nextGroup, RawTick.soleGroup, hapart]
    rw [tickGroups_of_nextGroup hnext, ih hrest, List.map_cons]

end BubaPaint
