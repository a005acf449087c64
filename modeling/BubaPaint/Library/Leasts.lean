import Mathlib.Order.Bounds.Basic
import Mathlib.Order.MinMax

/-!
# Least elements of lists

The least element of a list, looked up as an option, is the least of the set of its elements; in a
union the elements of a list may be replaced by the least one.

Main results:

- Theorem `min?_eq_some_iff_isLeast`: the least element of a list
- Theorem `isLeast_min?_union_iff`: the least element of a list stands for the list
- Theorem `exists_isLeast_of_mem`: a list with an element has a least one
-/

universe u

namespace Effects

variable {α : Type u} [LinearOrder α]
variable {l : List α} {m : α}

/-- The least element of a list. -/
theorem min?_eq_some_iff_isLeast : l.min? = some m ↔ IsLeast {x | x ∈ l} m := by
  have hmin : Std.LawfulOrderMin α :=
    { min_eq_or := min_choice, le_min_iff := fun _ _ _ => le_min_iff }
  exact List.min?_eq_some_iff

/-- In a union the least element of a list stands for the list. -/
theorem isLeast_min?_union_iff {s : Set α} :
    IsLeast ({x | l.min? = some x} ∪ s) m ↔ IsLeast ({x | x ∈ l} ∪ s) m := by
  cases hmin : l.min? with
  | none =>
    have hnil : l = [] := List.min?_eq_none_iff.mp hmin
    simp [hnil]
  | some k =>
    have hk := min?_eq_some_iff_isLeast.mp hmin
    constructor
    · rintro ⟨hm, hle⟩
      refine ⟨?_, ?_⟩
      · rcases hm with hm | hm
        · exact .inl (Option.some.inj hm ▸ hk.1)
        · exact .inr hm
      · rintro x (hx | hx)
        · exact (hle (.inl rfl)).trans (hk.2 hx)
        · exact hle (.inr hx)
    · rintro ⟨hm, hle⟩
      refine ⟨?_, ?_⟩
      · rcases hm with hm | hm
        · exact .inl (congrArg some (le_antisymm (hk.2 hm) (hle (.inl hk.1))))
        · exact .inr hm
      · rintro x (hx | hx)
        · exact Option.some.inj hx ▸ hle (.inl hk.1)
        · exact hle (.inr hx)

/-- A list with an element has a least one. -/
theorem exists_isLeast_of_mem {a : α} (h : a ∈ l) : ∃ m, IsLeast {x | x ∈ l} m := by
  cases hmin : l.min? with
  | none =>
    rw [List.min?_eq_none_iff.mp hmin] at h
    cases h
  | some m => exact ⟨m, min?_eq_some_iff_isLeast.mp hmin⟩

end Effects
