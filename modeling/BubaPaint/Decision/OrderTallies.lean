import BubaPaint.Decision.OrderVerdicts
import BubaPaint.Library.Docket

/-!
# Tallies of orders

Both engines count how many of their orders were filled and how many missed, and of how many spreads
only one leg was filled. The groups are tallied within one loop over the due orders, and misses
without a window are left out. The counts are those of the docket of all orders, because the legs of
a spread are decided in the same loop and for the same window.

Main results:

- Theorem `Tallied.decide`: the tally of the docket is that of the loop.
-/

namespace BubaPaint

open Effects List

namespace OrderVerdict

def disposition : OrderVerdict → Option OrderOutcomeDisposition
  | .deferred => none
  | .missed .. => some .missed
  | .filled .. => some .filled

/-- Whether the group of the order takes note of the verdict. -/
def tracked : OrderVerdict → Bool
  | .deferred => false
  | .missed trackGroup _ _ => trackGroup
  | .filled .. => true

/-- Two verdicts that the legs of one spread may get: none of them waits alone, and none is left out
of the tally alone. -/
structure Alike (first second : OrderVerdict) : Prop where
  disposition : first.disposition = none ↔ second.disposition = none
  tracked : first.tracked = second.tracked
  missed : first.disposition ≠ none → first.tracked = false →
    first.disposition = some .missed ∧ second.disposition = some .missed

end OrderVerdict

variable {config : Config} {bookState : BookState} {nowMs : ℕ}

theorem tracked_windowVerdict (config : Config) (window : MarketWindow) (bookState : BookState)
    (nowMs : ℕ) (order : QueuedOrderIntent) :
    (windowVerdict config window bookState nowMs order).tracked = true := by
  unfold windowVerdict
  cases sideBook bookState order.side with
  | none => rfl
  | some book =>
    dsimp only
    cases bookFillRejectionReason book nowMs order.limitPrice config.maxBookStalenessMs with
    | some reason => rfl
    | none =>
      dsimp only
      split
      · rfl
      split
      · rfl
      · rfl

theorem market_of_tracked {window : MarketWindow} {order : QueuedOrderIntent}
    (h : (orderVerdict config (some window) bookState nowMs order).tracked = true) :
    order.marketId = window.marketId := by
  by_contra hother
  rcases lt_or_ge nowMs order.arrivalTs with hearly | harrived
  · rw [orderVerdict_of_early hearly] at h
    cases h
  · have hmissing : ((some window).filter fun window => window.marketId == order.marketId) =
        none := by
      simp [Option.filter, Ne.symm hother]
    rw [orderVerdict_of_missing harrived hmissing] at h
    cases h

theorem alike_orderVerdict {currentWindow : Option MarketWindow}
    {first second : QueuedOrderIntent} (hmarket : second.marketId = first.marketId)
    (harrival : second.arrivalTs = first.arrivalTs) :
    (orderVerdict config currentWindow bookState nowMs first).Alike
      (orderVerdict config currentWindow bookState nowMs second) := by
  rcases lt_or_ge nowMs first.arrivalTs with hearly | harrived
  · rw [orderVerdict_of_early hearly, orderVerdict_of_early (harrival ▸ hearly)]
    exact ⟨Iff.rfl, rfl, fun hnone => absurd rfl hnone⟩
  cases hwindow : currentWindow.filter fun window => window.marketId == first.marketId with
  | none =>
    rw [orderVerdict_of_missing harrived hwindow,
      orderVerdict_of_missing (harrival ▸ harrived) (hmarket ▸ hwindow)]
    exact ⟨Iff.rfl, rfl, fun _ _ => ⟨rfl, rfl⟩⟩
  | some window =>
    have hended : ∀ order, (windowVerdict config window bookState nowMs order).disposition ≠
        none := by
      intro order
      have htracked := tracked_windowVerdict config window bookState nowMs order
      cases hverdict : windowVerdict config window bookState nowMs order with
      | deferred => simp [hverdict, OrderVerdict.tracked] at htracked
      | missed => exact Option.some_ne_none _
      | filled => exact Option.some_ne_none _
    rw [orderVerdict_of_current harrived hwindow,
      orderVerdict_of_current (harrival ▸ harrived) (hmarket ▸ hwindow)]
    refine ⟨iff_of_false (hended first) (hended second), ?_, ?_⟩
    · rw [tracked_windowVerdict, tracked_windowVerdict]
    · intro _ huntracked
      rw [tracked_windowVerdict] at huntracked
      cases huntracked

/-! ## Groups of orders -/

/-- The orders of one submission: a single order, or the two legs of a spread, which arrive together
under one group id. -/
inductive OrderGroup : List QueuedOrderIntent → Prop
  | nil : OrderGroup []
  | single (order : QueuedOrderIntent) (hgroup : order.executionGroupId = none) :
      OrderGroup [order]
  | spread (up down : QueuedOrderIntent) (groupId : String)
      (hup : up.executionGroupId = some groupId) (hdown : down.executionGroupId = some groupId)
      (hmarket : down.marketId = up.marketId) (harrival : down.arrivalTs = up.arrivalTs)
      (hsides : up.side = .up ∧ down.side = .down) :
      OrderGroup [up, down]

def recordVerdict (verdict : QueuedOrderIntent → OrderVerdict)
    (outcomes : List (String × ℕ × ℕ)) (order : QueuedOrderIntent) : List (String × ℕ × ℕ) :=
  match verdict order with
  | .deferred => outcomes
  | .missed trackGroup _ _ =>
    recordGroupOutcome outcomes (if trackGroup then order.executionGroupId else none) false
  | .filled .. => recordGroupOutcome outcomes order.executionGroupId true

/-- The groups with two decided legs of which one was filled. -/
def leggingFailures (outcomes : List (String × ℕ × ℕ)) : ℕ :=
  outcomes.countP fun outcome => outcome.2.2 == 2 && outcome.2.1 == 1

def fillsOneLeg (verdict : QueuedOrderIntent → OrderVerdict) (orders : List QueuedOrderIntent) :
    Bool :=
  orders.length == 2 &&
    orders.countP (fun order => (verdict order).disposition == some .filled) == 1

def groupIdOf : List QueuedOrderIntent → Option String
  | [up, _] => up.executionGroupId
  | _ => none

def trackedGroupId (verdict : QueuedOrderIntent → OrderVerdict) :
    List QueuedOrderIntent → Option String
  | [up, _] => if (verdict up).tracked then up.executionGroupId else none
  | _ => none

section Groups

variable {verdict : QueuedOrderIntent → OrderVerdict} {outcomes : List (String × ℕ × ℕ)}
variable {order : QueuedOrderIntent} {groupId : String}

theorem recordVerdict_of_untracked
    (h : (verdict order).tracked = false ∨ order.executionGroupId = none) :
    recordVerdict verdict outcomes order = outcomes := by
  unfold recordVerdict
  cases hverdict : verdict order with
  | deferred => rfl
  | missed trackGroup reason book =>
    rcases h with huntracked | hnone
    · rw [hverdict] at huntracked
      cases trackGroup
      · rfl
      · cases huntracked
    · cases trackGroup
      · rfl
      · simp [hnone, recordGroupOutcome]
  | filled book filledSize =>
    rcases h with huntracked | hnone
    · rw [hverdict] at huntracked
      cases huntracked
    · simp [hnone, recordGroupOutcome]

theorem recordVerdict_of_tracked (htracked : (verdict order).tracked = true)
    (hgroup : order.executionGroupId = some groupId) :
    recordVerdict verdict outcomes order =
      recordGroupOutcome outcomes (some groupId) ((verdict order).disposition == some .filled) := by
  unfold recordVerdict
  cases hverdict : verdict order with
  | deferred =>
    rw [hverdict] at htracked
    cases htracked
  | missed trackGroup reason book =>
    rw [hverdict] at htracked
    cases trackGroup
    · cases htracked
    · rw [hgroup]
      rfl
  | filled book filledSize =>
    rw [hgroup]
    rfl

theorem recordGroupOutcome_legs (hfresh : groupId ∉ outcomes.map Prod.fst) (first second : Bool) :
    recordGroupOutcome (recordGroupOutcome outcomes (some groupId) first) (some groupId) second =
      outcomes ++ [(groupId, first.toNat + second.toNat, 2)] := by
  have hlookup : outcomes.lookup groupId = none := by
    rw [lookup_eq_none_iff]
    intro entry hentry
    rw [bne_iff_ne]
    intro heq
    exact hfresh (heq ▸ mem_map_of_mem hentry)
  have hfilter : (outcomes.filter fun entry => entry.1 != groupId) = outcomes := by
    rw [filter_eq_self]
    intro entry hentry
    rw [bne_iff_ne]
    intro heq
    exact hfresh (heq ▸ mem_map_of_mem hentry)
  cases first
  · cases second
    · simp [recordGroupOutcome, hlookup, hfilter, lookup_append]
    · simp [recordGroupOutcome, hlookup, hfilter, lookup_append]
  · cases second
    · simp [recordGroupOutcome, hlookup, hfilter, lookup_append]
    · simp [recordGroupOutcome, hlookup, hfilter, lookup_append]

def DecidesAlike (verdict : QueuedOrderIntent → OrderVerdict) : Prop :=
  ∀ up down : QueuedOrderIntent, down.marketId = up.marketId → down.arrivalTs = up.arrivalTs →
    (verdict up).Alike (verdict down)

/-- One group of orders adds its entry to the tally if it is a spread that the loop takes note of,
and only such a spread can have one filled leg. -/
theorem foldl_recordVerdict_group (halike : DecidesAlike verdict)
    {group : List QueuedOrderIntent} (hgroup : OrderGroup group)
    (hfresh : ∀ groupId ∈ trackedGroupId verdict group, groupId ∉ outcomes.map Prod.fst) :
    (group.foldl (recordVerdict verdict) outcomes).map Prod.fst =
        outcomes.map Prod.fst ++ (trackedGroupId verdict group).toList ∧
      leggingFailures (group.foldl (recordVerdict verdict) outcomes) =
        leggingFailures outcomes + (fillsOneLeg verdict group).toNat := by
  cases hgroup with
  | nil => simp [trackedGroupId, fillsOneLeg]
  | single order hnone =>
    rw [foldl_cons, recordVerdict_of_untracked (.inr hnone)]
    simp [trackedGroupId, fillsOneLeg]
  | spread up down groupId hup hdown hmarket harrival hsides =>
    have hlegs := halike up down hmarket harrival
    rw [foldl_cons, foldl_cons, foldl_nil]
    cases htracked : (verdict up).tracked with
    | false =>
      rw [recordVerdict_of_untracked (.inl htracked),
        recordVerdict_of_untracked (.inl (hlegs.tracked ▸ htracked))]
      have hfilled : fillsOneLeg verdict [up, down] = false := by
        by_cases hwaits : (verdict up).disposition = none
        · simp [fillsOneLeg, hwaits, hlegs.disposition.mp hwaits]
        · obtain ⟨hupMissed, hdownMissed⟩ := hlegs.missed hwaits htracked
          simp [fillsOneLeg, hupMissed, hdownMissed]
      simp [trackedGroupId, htracked, hfilled]
    | true =>
      have hid : trackedGroupId verdict [up, down] = some groupId := by
        simp [trackedGroupId, htracked, hup]
      rw [recordVerdict_of_tracked htracked hup,
        recordVerdict_of_tracked (hlegs.tracked ▸ htracked) hdown,
        recordGroupOutcome_legs (hfresh groupId hid), hid]
      refine ⟨by simp, ?_⟩
      unfold leggingFailures fillsOneLeg
      rw [countP_append]
      cases hupFilled : (verdict up).disposition == some .filled
      · cases hdownFilled : (verdict down).disposition == some .filled
        · simp [hupFilled, hdownFilled]
        · simp [hupFilled, hdownFilled]
      · cases hdownFilled : (verdict down).disposition == some .filled
        · simp [hupFilled, hdownFilled]
        · simp [hupFilled, hdownFilled]

theorem leggingFailures_foldl (halike : DecidesAlike verdict)
    {groups : List (List QueuedOrderIntent)} (hgroups : ∀ group ∈ groups, OrderGroup group)
    (hdistinct : (groups.filterMap (trackedGroupId verdict)).Nodup)
    (hfresh : ∀ groupId ∈ groups.filterMap (trackedGroupId verdict),
      groupId ∉ outcomes.map Prod.fst) :
    leggingFailures (groups.flatten.foldl (recordVerdict verdict) outcomes) =
      leggingFailures outcomes + groups.countP (fillsOneLeg verdict) := by
  induction groups generalizing outcomes with
  | nil => rfl
  | cons group rest ih =>
    have hsplit : (group :: rest).filterMap (trackedGroupId verdict) =
        (trackedGroupId verdict group).toList ++ rest.filterMap (trackedGroupId verdict) := by
      rw [filterMap_cons]
      cases trackedGroupId verdict group <;> rfl
    rw [hsplit] at hdistinct hfresh
    obtain ⟨-, hrest, hapart⟩ := nodup_append.mp hdistinct
    obtain ⟨hids, hfailures⟩ := foldl_recordVerdict_group halike
      (hgroups group mem_cons_self) fun groupId hid =>
        hfresh groupId (mem_append_left _ (Option.mem_toList.mpr hid))
    rw [flatten_cons, foldl_append, ih
      (fun other hother => hgroups other (mem_cons_of_mem _ hother)) hrest, hfailures,
      countP_cons]
    · cases fillsOneLeg verdict group
      · simp
      · simp
        omega
    · intro groupId hid hseen
      rw [hids] at hseen
      rcases mem_append.mp hseen with hold | hnew
      · exact hfresh groupId (mem_append_right _ hid) hold
      · exact hapart groupId hnew groupId hid rfl

end Groups

/-- The queue of an engine and what it has counted. -/
structure OrderTally where
  pending : List QueuedOrderIntent
  filledOrders : ℕ
  noFills : ℕ
  spreadLeggingFailures : ℕ

namespace OrderTally

def countEnds (verdict : QueuedOrderIntent → OrderVerdict) (ending : OrderOutcomeDisposition)
    (orders : List QueuedOrderIntent) : ℕ :=
  orders.countP fun order => (verdict order).disposition == some ending

/-- Nothing is queued and nothing is counted. -/
def none : OrderTally where
  pending := []
  filledOrders := 0
  noFills := 0
  spreadLeggingFailures := 0

def push (tally : OrderTally) (orders : List QueuedOrderIntent) : OrderTally :=
  { tally with pending := tally.pending ++ orders }

@[simp]
theorem push_nil (tally : OrderTally) : tally.push [] = tally := by
  simp [push]

theorem push_push (tally : OrderTally) (orders orders' : List QueuedOrderIntent) :
    (tally.push orders).push orders' = tally.push (orders ++ orders') := by
  simp [push]

def decide (tally : OrderTally) (verdict : QueuedOrderIntent → OrderVerdict) : OrderTally where
  pending := tally.pending.filter fun order => (verdict order).disposition.isNone
  filledOrders := tally.filledOrders + countEnds verdict .filled tally.pending
  noFills := tally.noFills + countEnds verdict .missed tally.pending
  spreadLeggingFailures := tally.spreadLeggingFailures +
    leggingFailures (tally.pending.foldl (recordVerdict verdict) [])

end OrderTally

/-- The orders that come to an end under a verdict, by their signal ids. -/
def decidedOutcomes (verdict : QueuedOrderIntent → OrderVerdict)
    (orders : List QueuedOrderIntent) : List (ℤ × OrderOutcomeDisposition) :=
  orders.filterMap fun order =>
    (verdict order).disposition.map fun ending => (order.signalId, ending)

def ProcessedOrderOutcome.ended (outcome : ProcessedOrderOutcome) : ℤ × OrderOutcomeDisposition :=
  (outcome.signalId, outcome.disposition)

/-- A loop over due orders between two of them: the orders it keeps and what it has counted, the
ends it has reported and the groups it has tallied. -/
structure LoopTally where
  tally : OrderTally
  ended : List (ℤ × OrderOutcomeDisposition)
  groups : List (String × ℕ × ℕ)

namespace LoopTally

def step (verdict : QueuedOrderIntent → OrderVerdict) (loop : LoopTally)
    (order : QueuedOrderIntent) : LoopTally :=
  match (verdict order).disposition with
  | none => { loop with tally := loop.tally.push [order] }
  | some .missed =>
    { tally := { loop.tally with noFills := loop.tally.noFills + 1 }
      ended := loop.ended ++ [(order.signalId, .missed)]
      groups := recordVerdict verdict loop.groups order }
  | some .filled =>
    { tally := { loop.tally with filledOrders := loop.tally.filledOrders + 1 }
      ended := loop.ended ++ [(order.signalId, .filled)]
      groups := recordVerdict verdict loop.groups order }

theorem foldl_step (verdict : QueuedOrderIntent → OrderVerdict) (orders : List QueuedOrderIntent)
    (loop : LoopTally) :
    orders.foldl (step verdict) loop =
      { tally :=
          { pending := loop.tally.pending ++
              orders.filter fun order => (verdict order).disposition.isNone
            filledOrders := loop.tally.filledOrders + OrderTally.countEnds verdict .filled orders
            noFills := loop.tally.noFills + OrderTally.countEnds verdict .missed orders
            spreadLeggingFailures := loop.tally.spreadLeggingFailures }
        ended := loop.ended ++ decidedOutcomes verdict orders
        groups := orders.foldl (recordVerdict verdict) loop.groups } := by
  induction orders generalizing loop with
  | nil => simp [OrderTally.countEnds, decidedOutcomes]
  | cons order rest ih =>
    rw [foldl_cons, ih, foldl_cons]
    unfold step
    cases hverdict : (verdict order).disposition with
    | none =>
      have hwaits : recordVerdict verdict loop.groups order = loop.groups := by
        refine recordVerdict_of_untracked (.inl ?_)
        cases hcase : verdict order with
        | deferred => rfl
        | missed | filled => simp [hcase, OrderVerdict.disposition] at hverdict
      simp [OrderTally.countEnds, decidedOutcomes, OrderTally.push, hverdict, hwaits]
    | some ending =>
      cases ending with
      | filled | missed =>
        simp [OrderTally.countEnds, decidedOutcomes, hverdict]
        omega

end LoopTally

/-! ## Dockets -/

/-- All orders of a run, submission by submission, with their ends. -/
abbrev OrderDocket :=
  Docket QueuedOrderIntent OrderOutcomeDisposition

def oneLegFilled (group : List (Docketed QueuedOrderIntent OrderOutcomeDisposition)) : Bool :=
  group.length == 2 && group.countP (fun entry => entry.ended == some .filled) == 1

def pendingPart (group : List (Docketed QueuedOrderIntent OrderOutcomeDisposition)) :
    List QueuedOrderIntent :=
  group.filterMap (·.pending?)

/-- The orders of a submission: they are pending together and come to their ends together. -/
structure DocketGroup (group : List (Docketed QueuedOrderIntent OrderOutcomeDisposition)) :
    Prop where
  orders : OrderGroup (group.map (·.item))
  together : (∀ entry ∈ group, entry.ended = none) ∨ ∀ entry ∈ group, entry.ended ≠ none

/-- The counters of an engine, and the ends it has reported, are those of the docket. -/
structure Tallied (docket : OrderDocket) (ended : List (ℤ × OrderOutcomeDisposition))
    (tally : OrderTally) : Prop where
  pending : docket.pending = tally.pending
  filled : tally.filledOrders = docket.ended.countP fun entry => entry.2 == .filled
  missed : tally.noFills = docket.ended.countP fun entry => entry.2 == .missed
  outcomes : ended.Perm (docket.ended.map fun entry => (entry.1.signalId, entry.2))
  legging : tally.spreadLeggingFailures = docket.countP oneLegFilled
  groups : ∀ group ∈ docket, DocketGroup group

section Groups

variable {group : List (Docketed QueuedOrderIntent OrderOutcomeDisposition)}
variable {verdict : QueuedOrderIntent → OrderVerdict}

theorem pendingPart_of_pending (h : ∀ entry ∈ group, entry.ended = none) :
    pendingPart group = group.map (·.item) := by
  induction group with
  | nil => rfl
  | cons entry rest ih =>
    have hentry := Docketed.pending?_of_pending (h entry mem_cons_self)
    have hrest := ih fun other hother => h other (mem_cons_of_mem _ hother)
    unfold pendingPart at hrest ⊢
    rw [filterMap_cons_some hentry, hrest, map_cons]

theorem pendingPart_of_ended (h : ∀ entry ∈ group, entry.ended ≠ none) : pendingPart group = [] :=
  filterMap_eq_nil_iff.mpr fun entry hentry => Docketed.pending?_of_ended (h entry hentry)

theorem DocketGroup.pendingPart (h : DocketGroup group) : OrderGroup (pendingPart group) := by
  rcases h.together with hpending | hended
  · rw [pendingPart_of_pending hpending]
    exact h.orders
  · rw [pendingPart_of_ended hended]
    exact .nil

theorem oneLegFilled_decide (verdict : QueuedOrderIntent → OrderVerdict) (h : DocketGroup group) :
    (oneLegFilled (group.map (.decide fun order => (verdict order).disposition))).toNat =
      (oneLegFilled group).toNat + (fillsOneLeg verdict (BubaPaint.pendingPart group)).toNat := by
  rcases h.together with hpending | hended
  · have hbefore : oneLegFilled group = false := by
      have hnone : group.countP (fun entry => entry.ended == some .filled) = 0 := by
        refine countP_eq_zero.mpr fun entry hentry => ?_
        simp [hpending entry hentry]
      simp [oneLegFilled, hnone]
    have hafter : oneLegFilled (group.map (.decide fun order => (verdict order).disposition)) =
        fillsOneLeg verdict (group.map (·.item)) := by
      unfold oneLegFilled fillsOneLeg
      rw [length_map, length_map, countP_map, countP_map]
      have hcount : group.countP ((fun entry => entry.ended == some .filled) ∘
          Docketed.decide fun order => (verdict order).disposition) =
          group.countP ((fun order => (verdict order).disposition == some .filled) ∘
            fun entry => entry.item) := by
        refine countP_congr fun entry hentry => ?_
        simp [Docketed.ended_decide_of_pending (hpending entry hentry)]
      rw [hcount]
    rw [pendingPart_of_pending hpending, hbefore, hafter]
    simp
  · have hsame : group.map (.decide fun order => (verdict order).disposition) = group := by
      conv_rhs => rw [← map_id group]
      exact map_congr_left fun entry hentry => Docketed.decide_of_ended (hended entry hentry) _
    rw [pendingPart_of_ended hended, hsame]
    simp [fillsOneLeg]

theorem OrderGroup.decided_together {orders : List QueuedOrderIntent} (h : OrderGroup orders)
    (halike : DecidesAlike verdict) :
    (∀ order ∈ orders, (verdict order).disposition = none) ∨
      ∀ order ∈ orders, (verdict order).disposition ≠ none := by
  cases h with
  | nil => simp
  | single order => simp [em]
  | spread up down groupId _ _ hmarket harrival =>
    have hlegs := (halike up down hmarket harrival).disposition
    by_cases hwaits : (verdict up).disposition = none
    · simp [hwaits, hlegs.mp hwaits]
    · simp [hwaits, mt hlegs.mpr hwaits]

/-- Deciding keeps the orders of a submission together. -/
theorem DocketGroup.decide (h : DocketGroup group) (halike : DecidesAlike verdict) :
    DocketGroup (group.map (.decide fun order => (verdict order).disposition)) where
  orders := by
    rw [map_map]
    exact h.orders
  together := by
    rw [forall_mem_map, forall_mem_map]
    rcases h.together with hpending | hended
    · have hverdict : ∀ entry ∈ group,
          (entry.decide fun order => (verdict order).disposition).ended =
            (verdict entry.item).disposition :=
        fun entry hentry => Docketed.ended_decide_of_pending (hpending entry hentry) _
      rcases h.orders.decided_together halike with hwait | hdecided
      · left
        intro entry hentry
        exact (hverdict entry hentry).trans (hwait _ (mem_map_of_mem hentry))
      · right
        intro entry hentry
        rw [hverdict entry hentry]
        exact hdecided _ (mem_map_of_mem hentry)
    · right
      intro entry hentry
      rw [Docketed.decide_of_ended (hended entry hentry)]
      exact hended entry hentry

end Groups

/-! ## What keeps the counters right -/

namespace Tallied

variable {docket : OrderDocket} {ended : List (ℤ × OrderOutcomeDisposition)} {tally : OrderTally}

theorem nil : Tallied [] [] .none where
  pending := rfl
  filled := rfl
  missed := rfl
  outcomes := .refl _
  legging := rfl
  groups := by simp

/-- Every order that was queued is filled, missed or pending. -/
theorem conserved (h : Tallied docket ended tally) :
    docket.entries.length = tally.filledOrders + tally.noFills + tally.pending.length := by
  have hends : ∀ entries : List (QueuedOrderIntent × OrderOutcomeDisposition),
      entries.countP (fun entry => entry.2 == .filled) +
        entries.countP (fun entry => entry.2 == .missed) = entries.length := by
    intro entries
    induction entries with
    | nil => rfl
    | cons entry rest ih =>
      rw [countP_cons, countP_cons, length_cons, ← ih]
      rcases entry with ⟨order, _ | _⟩
      · simp
        omega
      · simp
        omega
  have hsplit := docket.length_entries
  rw [h.pending] at hsplit
  rw [h.filled, h.missed, hends]
  omega

/-- The orders of a submission are queued. -/
theorem add (h : Tallied docket ended tally) {orders : List QueuedOrderIntent}
    (horders : OrderGroup orders) : Tallied (docket.add orders) ended (tally.push orders) where
  pending := by
    rw [Docket.pending_add, h.pending]
    rfl
  filled := by
    rw [Docket.ended_add]
    exact h.filled
  missed := by
    rw [Docket.ended_add]
    exact h.missed
  outcomes := by
    rw [Docket.ended_add]
    exact h.outcomes
  legging := by
    have hfresh : oneLegFilled (orders.map .fresh) = false := by
      have hnone : (orders.map Docketed.fresh).countP
          (fun entry : Docketed QueuedOrderIntent OrderOutcomeDisposition =>
            entry.ended == some .filled) = 0 := by
        refine countP_eq_zero.mpr ?_
        rw [forall_mem_map]
        simp [Docketed.fresh]
      simp [oneLegFilled, hnone]
    unfold Docket.add
    rw [countP_append, countP_singleton, hfresh]
    exact h.legging
  groups := by
    unfold Docket.add
    rw [forall_mem_append, forall_mem_singleton]
    refine ⟨h.groups, ?_, .inl ?_⟩
    · rw [map_map]
      exact (map_id orders).symm ▸ horders
    · rw [forall_mem_map]
      exact fun _ _ => rfl

variable {verdict : QueuedOrderIntent → OrderVerdict}

theorem countP_oneLegFilled_decide (hgroups : ∀ group ∈ docket, DocketGroup group) :
    (docket.decide fun order => (verdict order).disposition).countP oneLegFilled =
      docket.countP oneLegFilled + (docket.map pendingPart).countP (fillsOneLeg verdict) := by
  induction docket with
  | nil => rfl
  | cons group rest ih =>
    have hrest := ih fun other hother => hgroups other (mem_cons_of_mem _ hother)
    have hgroup := oneLegFilled_decide verdict (hgroups group mem_cons_self)
    unfold Docket.decide at hrest ⊢
    simp only [map_cons, countP_cons] at hrest ⊢
    rw [hrest]
    revert hgroup
    cases oneLegFilled (group.map (.decide fun order => (verdict order).disposition)) <;>
      cases oneLegFilled group <;> cases fillsOneLeg verdict (pendingPart group) <;> simp <;>
        omega

/-- The queue is put to a verdict that decides the legs of a spread alike, and no two spreads that
the loop takes note of have one id. -/
theorem decide (h : Tallied docket ended tally) (halike : DecidesAlike verdict)
    (hdistinct : ((docket.map pendingPart).filterMap (trackedGroupId verdict)).Nodup) :
    Tallied (docket.decide fun order => (verdict order).disposition)
      (ended ++ decidedOutcomes verdict tally.pending) (tally.decide verdict) := by
  have hends := docket.ended_decide fun order => (verdict order).disposition
  rw [h.pending] at hends
  have hcount : ∀ ending : OrderOutcomeDisposition,
      (docket.decide fun order => (verdict order).disposition).ended.countP
          (fun entry => entry.2 == ending) =
        docket.ended.countP (fun entry => entry.2 == ending) +
          OrderTally.countEnds verdict ending tally.pending := by
    intro ending
    rw [hends.countP_eq, countP_append, countP_filterMap]
    refine congrArg _ (countP_congr fun order _ => ?_)
    cases (verdict order).disposition with
    | none => simp
    | some other => simp
  constructor
  · rw [Docket.pending_decide, h.pending]
    rfl
  · rw [hcount, ← h.filled]
    rfl
  · rw [hcount, ← h.missed]
    rfl
  · have hnew : ((tally.pending.filterMap fun order =>
        (verdict order).disposition.map fun ending => (order, ending)).map
          fun entry => (entry.1.signalId, entry.2)) = decidedOutcomes verdict tally.pending := by
      unfold decidedOutcomes
      rw [map_filterMap]
      simp [Option.map_map, Function.comp_def]
    refine List.Perm.trans ?_ (hends.map _).symm
    rw [map_append, hnew]
    exact h.outcomes.append_right _
  · have hgroups : ∀ orders ∈ docket.map pendingPart, OrderGroup orders := by
      rw [forall_mem_map]
      exact fun group hgroup => (h.groups group hgroup).pendingPart
    have hfailures : leggingFailures
        ((docket.map pendingPart).flatten.foldl (recordVerdict verdict) []) = _ :=
      leggingFailures_foldl halike hgroups hdistinct (by simp)
    have hflat : (docket.map pendingPart).flatten = tally.pending :=
      docket.pending_eq_flatten.symm.trans h.pending
    rw [hflat] at hfailures
    rw [countP_oneLegFilled_decide h.groups, ← h.legging]
    unfold OrderTally.decide
    rw [hfailures]
    simp [leggingFailures]
  · unfold Docket.decide
    rw [forall_mem_map]
    exact fun group hgroup => (h.groups group hgroup).decide halike

end Tallied

end BubaPaint
