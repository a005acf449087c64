import Mathlib.Data.List.Perm.Basic

/-!
# Dockets

A docket lists everything that was ever brought in, group by group, with the end each item has come
to. Items that have come to an end keep it; the others are put to a verdict again and again.
-/

universe u v

namespace Effects

open List

/-- An item and the end it has come to, if it has. -/
structure Docketed (α : Type u) (β : Type v) where
  item : α
  ended : Option β

/-- Groups of items with their ends. -/
abbrev Docket (α : Type u) (β : Type v) :=
  List (List (Docketed α β))

variable {α : Type u} {β : Type v}

namespace Docketed

def fresh (item : α) : Docketed α β where
  item := item
  ended := none

def pending? (entry : Docketed α β) : Option α :=
  match entry.ended with
  | none => some entry.item
  | some _ => none

/-- The item with its end, if it has come to one. -/
def ended? (entry : Docketed α β) : Option (α × β) :=
  entry.ended.map fun outcome => (entry.item, outcome)

/-- Put an item to a verdict, unless it has come to an end. -/
def decide (verdict : α → Option β) (entry : Docketed α β) : Docketed α β :=
  { entry with ended := entry.ended <|> verdict entry.item }

variable {entry : Docketed α β}

theorem pending?_of_pending (h : entry.ended = none) : entry.pending? = some entry.item := by
  simp [pending?, h]

theorem pending?_of_ended (h : entry.ended ≠ none) : entry.pending? = none := by
  rcases entry with ⟨item, _ | outcome⟩
  · exact absurd rfl h
  · rfl

theorem ended_decide_of_pending (h : entry.ended = none) (verdict : α → Option β) :
    (entry.decide verdict).ended = verdict entry.item := by
  simp [decide, h]

theorem decide_of_ended (h : entry.ended ≠ none) (verdict : α → Option β) :
    entry.decide verdict = entry := by
  rcases entry with ⟨item, _ | outcome⟩
  · exact absurd rfl h
  · rfl

theorem pending?_decide (verdict : α → Option β) (entry : Docketed α β) :
    (entry.decide verdict).pending? = entry.pending?.filter fun item => (verdict item).isNone := by
  rcases entry with ⟨item, _ | outcome⟩
  · cases hverdict : verdict item with
    | none | some outcome => simp [decide, pending?, Option.filter, hverdict]
  · rfl

end Docketed

namespace Docket

def add (docket : Docket α β) (items : List α) : Docket α β :=
  docket ++ [items.map .fresh]

def decide (docket : Docket α β) (verdict : α → Option β) : Docket α β :=
  docket.map (List.map (.decide verdict))

/-- Everything that was brought in. -/
def entries (docket : Docket α β) : List (Docketed α β) :=
  docket.flatten

def pending (docket : Docket α β) : List α :=
  docket.entries.filterMap (·.pending?)

/-- What has come to an end, with the end. -/
def ended (docket : Docket α β) : List (α × β) :=
  docket.entries.filterMap (·.ended?)

section Add

variable (docket : Docket α β) (items : List α)

theorem entries_add : (docket.add items).entries = docket.entries ++ items.map .fresh := by
  simp [add, entries]

@[simp]
theorem pending_add : (docket.add items).pending = docket.pending ++ items := by
  unfold pending
  rw [entries_add, filterMap_append, filterMap_map]
  exact congrArg _ filterMap_some

@[simp]
theorem ended_add : (docket.add items).ended = docket.ended := by
  unfold ended
  rw [entries_add, filterMap_append, filterMap_map]
  simp [Docketed.fresh, Docketed.ended?, Function.comp_def]

end Add

section Decide

variable (docket : Docket α β) (verdict : α → Option β)

theorem entries_decide :
    (docket.decide verdict).entries = docket.entries.map (.decide verdict) := by
  simp [decide, entries, map_flatten]

/-- What the verdict says nothing about stays pending. -/
theorem pending_decide :
    (docket.decide verdict).pending = docket.pending.filter fun item => (verdict item).isNone := by
  unfold pending
  rw [entries_decide, filterMap_map, filter_filterMap]
  exact congrArg (List.filterMap · _) (funext fun entry => entry.pending?_decide verdict)

/-- The ends a verdict adds. -/
theorem ended_decide :
    (docket.decide verdict).ended.Perm
      (docket.ended ++
        docket.pending.filterMap fun item =>
          (verdict item).map fun outcome => (item, outcome)) := by
  unfold ended pending
  rw [entries_decide]
  induction docket.entries with
  | nil => exact .refl _
  | cons entry rest ih =>
    rcases entry with ⟨item, _ | outcome⟩
    · cases hverdict : verdict item with
      | none => simpa [Docketed.decide, Docketed.ended?, Docketed.pending?, hverdict] using ih
      | some outcome =>
        have hmoved := (ih.cons (item, outcome)).trans perm_middle.symm
        simpa [Docketed.decide, Docketed.ended?, Docketed.pending?, hverdict] using hmoved
    · have hkept := ih.cons (item, outcome)
      simpa [Docketed.decide, Docketed.ended?, Docketed.pending?] using hkept

end Decide

theorem pending_eq_flatten (docket : Docket α β) :
    docket.pending = (docket.map (List.filterMap (·.pending?))).flatten :=
  filterMap_flatten

/-- Whatever was brought in is pending or has ended. -/
theorem length_entries (docket : Docket α β) :
    docket.entries.length = docket.pending.length + docket.ended.length := by
  unfold ended pending
  induction docket.entries with
  | nil => rfl
  | cons entry rest ih =>
    rcases entry with ⟨item, _ | outcome⟩
    · simp [Docketed.ended?, Docketed.pending?, ih]
      omega
    · simp [Docketed.ended?, Docketed.pending?, ih]
      omega

end Docket

end Effects
