import Mathlib.Tactic.Common

/-!
# Guarded computations

A computation that may fail succeeds when each of its steps and guards does. One that changes a
store leaves the old store behind when it fails.
-/

universe u v

namespace Effects

variable {ε : Type u} {α β : Type v}
variable {x : Except ε α} {b : β} {e : ε} {a : α}
variable {f : α → Except ε β} {p : Prop}

/-- A sequence succeeds when each step succeeds. -/
theorem bind_eq_ok_iff : (x >>= f) = .ok b ↔ ∃ a, x = .ok a ∧ f a = .ok b := by
  cases x with
  | error e =>
    constructor
    · rintro ⟨⟩
    · rintro ⟨a, ⟨⟩, -⟩
  | ok a =>
    constructor
    · intro h
      exact ⟨a, rfl, h⟩
    · rintro ⟨a, ⟨⟩, h⟩
      exact h

theorem ok_of_bind (h : (x >>= f) = .ok b) : ∃ a, x = .ok a ∧ f a = .ok b :=
  bind_eq_ok_iff.mp h

theorem refuse_eq_ok_iff [Decidable p] : (if p then .error e else x) = .ok a ↔ ¬ p ∧ x = .ok a := by
  by_cases hp : p
  · simp [hp]
  · simp [hp]

theorem ok_of_refuse [Decidable p] (h : (if p then .error e else x) = .ok a) : ¬ p ∧ x = .ok a :=
  refuse_eq_ok_iff.mp h

theorem require_eq_ok_iff [Decidable p] : (if p then x else .error e) = .ok a ↔ p ∧ x = .ok a := by
  by_cases hp : p
  · simp [hp]
  · simp [hp]

theorem map_eq_ok_iff {f : α → β} : Except.map f x = .ok b ↔ ∃ a, x = .ok a ∧ f a = b := by
  cases x with
  | error e => simp [Except.map]
  | ok a => simp [Except.map]

theorem ok_of_map {f : α → β} (h : x.map f = .ok b) : ∃ a, x = .ok a ∧ f a = b :=
  map_eq_ok_iff.mp h

theorem exists_bind_eq_ok_iff : (∃ b, (x >>= f) = .ok b) ↔ ∃ a, x = .ok a ∧ ∃ b, f a = .ok b := by
  constructor
  · rintro ⟨b, h⟩
    rcases ok_of_bind h with ⟨a, hx, hf⟩
    exact ⟨a, hx, b, hf⟩
  · rintro ⟨a, hx, b, hf⟩
    exact ⟨b, bind_eq_ok_iff.mpr ⟨a, hx, hf⟩⟩

theorem exists_refuse_eq_ok_iff [Decidable p] :
    (∃ a, (if p then .error e else x) = .ok a) ↔ ¬ p ∧ ∃ a, x = .ok a := by
  simp only [refuse_eq_ok_iff, exists_and_left]

/-- The store after an operation, which is the old one if it fails. -/
def settle {σ : Type v} (store : σ) : Except ε (α × σ) → σ
  | .ok (_, store') => store'
  | .error _ => store

theorem settle_induction {σ : Type v} {store : σ} {outcome : Except ε (α × σ)} {motive : σ → Prop}
    (hstore : motive store) (hok : ∀ reply store', outcome = .ok (reply, store') → motive store') :
    motive (settle store outcome) := by
  rcases outcome with error | ⟨reply, store'⟩
  · exact hstore
  · exact hok reply store' rfl

end Effects
