import BubaPaint.Library.Guards
import Mathlib.Data.List.Forall2
import Mathlib.Data.List.ReduceOption

/-!
# Traversals that may fail

A list is traversed by a computation that may fail for each of its entries. The traversal succeeds
with one value for each entry, and it succeeds exactly when no entry fails.

Main results:

- Theorem `mapM_eq_ok_iff`: the values of a traversal
- Theorem `exists_mapM_eq_ok_iff`: when a traversal succeeds
- Theorem `mapM_eq_ok_map`: the values when no entry fails
-/

universe u v w

namespace Effects

variable {ε : Type u} {α : Type v} {β : Type w} {f : α → Except ε β}

theorem exists_of_mem_forall₂ {γ : Type v} {δ : Type w} {related : γ → δ → Prop} {l : List γ}
    {l' : List δ} (h : List.Forall₂ related l l') {b : δ} (hb : b ∈ l') : ∃ a ∈ l, related a b := by
  induction h with
  | nil => cases hb
  | cons hfirst _ ih =>
    rcases List.mem_cons.mp hb with rfl | hrest
    · exact ⟨_, List.mem_cons_self, hfirst⟩
    · rcases ih hrest with ⟨a, ha, hrelated⟩
      exact ⟨a, List.mem_cons_of_mem _ ha, hrelated⟩

variable {p : α → Bool} {l : List α} {g : α → β}

theorem exists_ok_of_any {x : Except ε α} (h : x.toOption.any p = true) :
    ∃ a, x = .ok a ∧ p a = true := by
  cases x with
  | error e => simp [Except.toOption] at h
  | ok a => exact ⟨a, rfl, by simpa [Except.toOption] using h⟩

/-- A traversal gives one value for each entry. -/
theorem mapM_eq_ok_iff {values : List β} :
    l.mapM f = .ok values ↔ List.Forall₂ (fun a b => f a = .ok b) l values := by
  induction l generalizing values with
  | nil =>
    rw [List.mapM_nil, List.forall₂_nil_left_iff]
    constructor
    · intro h
      cases h
      rfl
    · rintro rfl
      rfl
  | cons a rest ih =>
    rw [List.mapM_cons, List.forall₂_cons_left_iff]
    cases hfirst : f a with
    | error e =>
      constructor
      · intro h
        cases h
      · rintro ⟨b, others, hb, -⟩
        cases hb
    | ok b =>
      constructor
      · intro h
        cases hrest : rest.mapM f with
        | error e =>
          rw [hrest] at h
          cases h
        | ok others =>
          rw [hrest] at h
          cases h
          exact ⟨b, others, rfl, ih.mp hrest, rfl⟩
      · rintro ⟨b', others, hb, hothers, rfl⟩
        cases hb
        rw [ih.mpr hothers]
        rfl

/-- A traversal succeeds exactly when no entry fails. -/
theorem exists_mapM_eq_ok_iff : (∃ values, l.mapM f = .ok values) ↔ ∀ a ∈ l, ∃ b, f a = .ok b := by
  simp only [mapM_eq_ok_iff]
  induction l with
  | nil => simp
  | cons a rest ih => simp [List.forall₂_cons_left_iff, ← ih]

/-- The values of a traversal in which no entry fails. -/
theorem mapM_eq_ok_map (h : ∀ a ∈ l, f a = .ok (g a)) : l.mapM f = .ok (l.map g) := by
  rw [mapM_eq_ok_iff, List.forall₂_map_right_iff, List.forall₂_same]
  exact h

theorem reduceOption_map_ite (l : List α) :
    (l.map fun a => if p a then some (g a) else none).reduceOption = (l.filter p).map g := by
  induction l with
  | nil => rfl
  | cons a rest ih =>
    by_cases hp : p a = true
    · simp [hp, ih, List.reduceOption_cons_of_some]
    · simp [hp, ih, List.reduceOption_cons_of_none]

end Effects
