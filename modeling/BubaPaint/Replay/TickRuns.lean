import BubaPaint.Library.Chunks
import BubaPaint.Replay.Ticks
import Mathlib.Data.List.Chain

/-!
# The ticks of a group

Every call of the replay consumes a run of ticks. Whether a tick joins a run is decided by the
fidelity of that tick, so a sampled tick at the time of a captured event joins the group of the
event. Without such a pair of neighbours the groups partition the ticks as their kinds demand.

Main results:

- Theorem `faithfulPartition_iff`: when the groups partition the ticks by their kinds.
-/

namespace BubaPaint

open Effects List

/-- The runs that calls consume until there is no further group, each with the group of its call. -/
inductive Consumed : List RawTick → List (List RawTick × TickGroup) → Prop
  | done {ticks : List RawTick} (hnone : nextGroup ticks = none) : Consumed ticks []
  | call {ticks run rest : List RawTick} {group : TickGroup}
      {calls : List (List RawTick × TickGroup)} (hnext : nextGroup ticks = some (group, rest))
      (hrun : ticks = run ++ rest) (hrest : Consumed rest calls) :
      Consumed ticks ((run, group) :: calls)

/-- What a group says of its run and of the ticks after it. -/
structure FaithfulRun (run : List RawTick) (group : TickGroup) (later : List RawTick) : Prop where
  first : ∃ first ∈ run.head?, group.timestamp = first.timestamp ∧ group.fidelity = first.fidelity
  event : group.fidelity = .rawEvent → run.length = 1
  sampled : group.fidelity = .legacySnapshot → ∀ tick ∈ run, tick.fidelity = .legacySnapshot ∧
    tick.timestamp - group.timestamp ≤ 10
  complete : group.fidelity = .legacySnapshot → ∀ between tick rest, later = between ++
    tick :: rest →
    (∀ other ∈ between, other.fidelity = .legacySnapshot) → tick.fidelity = .legacySnapshot →
      10 < tick.timestamp - group.timestamp

/-- The calls end, consume every tick once and in order, and all their groups are faithful. -/
def FaithfulPartition (ticks : List RawTick) : Prop :=
  ∃ calls, Consumed ticks calls ∧ (calls.map Prod.fst).flatten = ticks ∧
    ∀ earlier run group later, calls = earlier ++ (run, group) :: later →
      FaithfulRun run group (later.map Prod.fst).flatten

/-- No captured event is followed by a sampled tick of the same time. -/
def NoMixedNeighbours (ticks : List RawTick) : Prop :=
  ticks.IsChain fun first second => first.fidelity = .rawEvent →
    second.fidelity = .legacySnapshot → first.timestamp ≠ second.timestamp

variable {ticks others : List RawTick} {runs : List (List RawTick)} {first : RawTick}

@[simp]
theorem timestamp_foldl_add (group : TickGroup) (ticks : List RawTick) :
    (ticks.foldl TickGroup.add group).timestamp = group.timestamp := by
  induction ticks generalizing group with
  | nil => rfl
  | cons tick ticks ih =>
    rw [foldl_cons, ih]
    unfold TickGroup.add
    split <;> rfl

@[simp]
theorem fidelity_foldl_add (group : TickGroup) (ticks : List RawTick) :
    (ticks.foldl TickGroup.add group).fidelity = group.fidelity := by
  induction ticks generalizing group with
  | nil => rfl
  | cons tick ticks ih =>
    rw [foldl_cons, ih]
    unfold TickGroup.add
    split <;> rfl

/-- The group of a run has the time and the fidelity of its first tick. -/
def GroupOf (run : List RawTick) (group : TickGroup) : Prop :=
  ∃ first ∈ run.head?, group.timestamp = first.timestamp ∧ group.fidelity = first.fidelity

theorem nextGroup_cons (first : RawTick) (rest : List RawTick) :
    ∃ group, nextGroup (first :: rest) = some (group, rest.dropWhile first.joins) ∧
      GroupOf (first :: rest.takeWhile first.joins) group := by
  refine ⟨_, rfl, first, rfl, ?_, ?_⟩
  · exact (timestamp_foldl_add _ (first :: _)).trans rfl
  · exact (fidelity_foldl_add _ (first :: _)).trans rfl

theorem exists_consumed (h : Chunked RawTick.joins ticks runs) :
    ∃ calls, Consumed ticks calls ∧ calls.map Prod.fst = runs ∧
      ∀ call ∈ calls, GroupOf call.1 call.2 := by
  induction h with
  | nil => exact ⟨[], .done rfl, rfl, by simp⟩
  | cons first rest hrest ih =>
    rcases ih with ⟨calls, hcalls, hruns, hgroups⟩
    rcases nextGroup_cons first rest with ⟨group, hnext, hgroup⟩
    refine ⟨(first :: rest.takeWhile first.joins, group) :: calls, .call hnext ?_ hcalls, ?_, ?_⟩
    · rw [cons_append, takeWhile_append_dropWhile]
    · rw [map_cons, hruns]
    · intro call hcall
      rcases mem_cons.mp hcall with rfl | hcall
      · exact hgroup
      · exact hgroups call hcall

theorem Consumed.unique {calls calls' : List (List RawTick × TickGroup)}
    (h : Consumed ticks calls) (h' : Consumed ticks calls') : calls = calls' := by
  induction h generalizing calls' with
  | done hnone =>
    cases h' with
    | done => rfl
    | call hnext => rw [hnone] at hnext; cases hnext
  | call hnext hrun hrest ih =>
    cases h' with
    | done hnone => rw [hnext] at hnone; cases hnone
    | call hnext' hrun' hrest' =>
      cases hnext.symm.trans hnext'
      rw [ih hrest', append_cancel_right (hrun.symm.trans hrun')]

/-! ## Faithful groups -/

theorem joins_iff {tick : RawTick} : first.joins tick = true ↔
    tick.fidelity = .legacySnapshot ∧
      tick.timestamp - first.timestamp ≤ groupWindowMs first.fidelity := by
  unfold RawTick.joins
  cases tick.fidelity <;> simp

def InTickOrder (ticks : List RawTick) : Prop :=
  ticks.Pairwise fun first second => first.timestamp ≤ second.timestamp

theorem others_eq_nil (horder : InTickOrder (first :: others))
    (hmixed : NoMixedNeighbours (first :: others))
    (hjoins : ∀ tick ∈ others, first.joins tick = true) (hraw : first.fidelity = .rawEvent) :
    others = [] := by
  cases others with
  | nil => rfl
  | cons second rest =>
    rcases joins_iff.mp (hjoins second mem_cons_self) with ⟨hsampled, hnear⟩
    have hle := (pairwise_cons.mp horder).1 second mem_cons_self
    have hne := (isChain_cons_cons.mp hmixed).1 hraw hsampled
    simp only [hraw, groupWindowMs] at hnear
    omega

theorem faithfulRun_of_chunk {later : List RawTick} {group : TickGroup}
    (hgroup : GroupOf (first :: others) group) (horder : InTickOrder (first :: others ++ later))
    (hmixed : NoMixedNeighbours (first :: others))
    (hjoins : ∀ tick ∈ others, first.joins tick = true)
    (hnext : ∀ tick ∈ later.head?, first.joins tick = false) :
    FaithfulRun (first :: others) group later := by
  have hfirst := hgroup
  rcases hgroup with ⟨_, hhead, htime, hfidelity⟩
  cases Option.mem_some_iff.mp hhead
  have hrun : InTickOrder (first :: others) := horder.sublist (sublist_append_left _ _)
  constructor
  · exact ⟨first, rfl, htime, hfidelity⟩
  · intro hraw
    rw [others_eq_nil hrun hmixed hjoins (hfidelity.symm.trans hraw)]
    rfl
  · intro hsampled tick htick
    rw [hfidelity] at hsampled
    rw [htime]
    rcases mem_cons.mp htick with rfl | hother
    · exact ⟨hsampled, by omega⟩
    · rcases joins_iff.mp (hjoins tick hother) with ⟨hkind, hnear⟩
      rw [hsampled] at hnear
      exact ⟨hkind, hnear⟩
  · intro hsampled between tick rest hlater hbetween hkind
    rw [hfidelity] at hsampled
    rw [htime]
    have hfar : ∀ next ∈ later.head?, next.fidelity = .legacySnapshot →
        10 < next.timestamp - first.timestamp := by
      intro next hmem hnextKind
      by_contra hnear
      have hjoin : first.joins next = true :=
        joins_iff.mpr ⟨hnextKind, by rw [hsampled]; exact not_lt.mp hnear⟩
      rw [hnext next hmem] at hjoin
      cases hjoin
    cases between with
    | nil => exact hfar tick (by rw [hlater]; rfl) hkind
    | cons other between =>
      have hnear := hfar other (by rw [hlater]; rfl) (hbetween other mem_cons_self)
      have hlaterOrder : InTickOrder later := horder.sublist (sublist_append_right _ _)
      rw [hlater] at hlaterOrder
      have hle := (pairwise_cons.mp hlaterOrder).1 tick (mem_append_right _ mem_cons_self)
      omega

theorem noMixedNeighbours_of_sampled (h : ∀ tick ∈ ticks, tick.fidelity = .legacySnapshot) :
    NoMixedNeighbours ticks := by
  induction ticks with
  | nil => exact .nil
  | cons first rest ih =>
    refine isChain_cons.mpr ⟨?_, ih fun tick htick => h tick (mem_cons_of_mem _ htick)⟩
    intro second _ hraw
    rw [h first mem_cons_self] at hraw
    cases hraw

theorem noMixedNeighbours_of_chunked (h : Chunked RawTick.joins ticks runs)
    (halone : ∀ run ∈ runs, ∀ first ∈ run.head?, first.fidelity = .rawEvent → run.length = 1) :
    NoMixedNeighbours ticks := by
  induction h with
  | nil => exact .nil
  | cons first rest hrest ih =>
    have hlater := ih fun run hrun => halone run (mem_cons_of_mem _ hrun)
    have hfirst := halone _ mem_cons_self first rfl
    have hkinds : ∀ tick ∈ rest.takeWhile first.joins, tick.fidelity = .legacySnapshot :=
      fun tick htick => (joins_iff.mp (mem_takeWhile_imp htick)).1
    have hsplit : first :: rest =
        (first :: rest.takeWhile first.joins) ++ rest.dropWhile first.joins := by
      rw [cons_append, takeWhile_append_dropWhile]
    rw [hsplit]
    refine isChain_append.mpr ⟨?_, hlater, ?_⟩
    · cases hkind : first.fidelity with
      | rawEvent =>
        have hnone : rest.takeWhile first.joins = [] := by simpa using hfirst hkind
        rw [hnone]
        exact isChain_singleton _
      | legacySnapshot =>
        refine noMixedNeighbours_of_sampled fun tick htick => ?_
        rcases mem_cons.mp htick with rfl | hother
        · exact hkind
        · exact hkinds tick hother
    · intro last hlast next hnext hraw hsampled htime
      have hfirstLast : last = first := by
        rcases mem_cons.mp (mem_of_getLast? hlast) with heq | hother
        · exact heq
        · rw [hkinds last hother] at hraw
          cases hraw
      have hapart := List.head?_dropWhile_not first.joins rest
      rw [Option.mem_def.mp hnext] at hapart
      have hjoin : first.joins next = true := joins_iff.mpr ⟨hsampled, by
        rw [← htime, hfirstLast, Nat.sub_self]
        exact Nat.zero_le _⟩
      simp [hjoin] at hapart

theorem FaithfulPartition.noMixedNeighbours (h : FaithfulPartition ticks) :
    NoMixedNeighbours ticks := by
  rcases exists_chunked RawTick.joins ticks with ⟨runs, hchunked⟩
  rcases exists_consumed hchunked with ⟨calls, hcalls, hruns, hgroups⟩
  rcases h with ⟨calls', hcalls', -, hfaithful⟩
  cases hcalls.unique hcalls'
  refine noMixedNeighbours_of_chunked hchunked fun run hrun first hfirst hraw => ?_
  rw [← hruns] at hrun
  rcases mem_map.mp hrun with ⟨⟨_, group⟩, hcall, rfl⟩
  rcases hgroups _ hcall with ⟨first', hfirst', -, hfidelity⟩
  cases Option.some.inj (hfirst.symm.trans hfirst')
  rcases append_of_mem hcall with ⟨earlier, later, hsplit⟩
  exact (hfaithful earlier _ group later hsplit).event (hfidelity.trans hraw)

/-- The groups partition ordered ticks as their kinds demand if and only if no captured event is
followed by a sampled tick of the same time. -/
theorem faithfulPartition_iff (ticks : List RawTick) (horder : InTickOrder ticks) :
    FaithfulPartition ticks ↔ NoMixedNeighbours ticks := by
  refine ⟨FaithfulPartition.noMixedNeighbours, fun hmixed => ?_⟩
  rcases exists_chunked RawTick.joins ticks with ⟨runs, hchunked⟩
  rcases exists_consumed hchunked with ⟨calls, hcalls, hruns, hgroups⟩
  refine ⟨calls, hcalls, by rw [hruns, hchunked.flatten], ?_⟩
  intro earlier run group later hsplit
  have hgroup := hgroups (run, group) (by rw [hsplit]; simp)
  have hrunsSplit : runs = earlier.map Prod.fst ++ run :: later.map Prod.fst := by
    rw [← hruns, hsplit, map_append, map_cons]
  rcases hchunked.split hrunsSplit with ⟨first, others, rfl, hjoins, hnext⟩
  have hticks : ticks = (earlier.map Prod.fst).flatten ++
      (first :: others ++ (later.map Prod.fst).flatten) := by
    rw [← hchunked.flatten, hrunsSplit, flatten_append, flatten_cons]
  rw [hticks] at horder hmixed
  have hlater := horder.sublist (sublist_append_right _ _)
  have hneighbours := (List.IsChain.right_of_append hmixed).left_of_append
  exact faithfulRun_of_chunk hgroup hlater hneighbours hjoins hnext

def samplePriceTick (timestamp : ℕ) (fidelity : ReplayFidelity) : RawTick where
  timestamp
  source := "binance"
  eventType := "aggTrade"
  price := some 1
  fidelity

/-- A captured event and a sampled tick of the same time are put into one group. -/
theorem mixed_group : ¬ ∀ ticks : List RawTick, InTickOrder ticks → FaithfulPartition ticks := by
  intro hall
  have horder : InTickOrder [samplePriceTick 1000 .rawEvent,
      samplePriceTick 1000 .legacySnapshot] := by
    simp [InTickOrder, samplePriceTick]
  have hmixed : NoMixedNeighbours [samplePriceTick 1000 .rawEvent,
      samplePriceTick 1000 .legacySnapshot] :=
    (hall _ horder).noMixedNeighbours
  exact (isChain_cons_cons.mp hmixed).1 rfl rfl rfl

/-- Sampled ticks after a captured event are grouped apart from it. -/
theorem faithfulPartition_apart : FaithfulPartition [samplePriceTick 1000 .rawEvent,
    samplePriceTick 1001 .legacySnapshot, samplePriceTick 1011 .legacySnapshot] := by
  refine (faithfulPartition_iff _ ?_).mpr ?_
  · simp [InTickOrder, samplePriceTick]
  · simp [NoMixedNeighbours, samplePriceTick]

end BubaPaint
