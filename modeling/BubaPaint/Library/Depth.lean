import Mathlib.Data.List.Basic

/-!
# Depth of an order book

One side of an order book: the size at each price. A price bounds a side if no price with anything
on offer is better. Which prices are better depends on the side, so the order is a parameter.

Main results:

- Definition `Depth.set`: the total size at one price
- Definition `Depth.Bounds`: a price that no level exceeds
- Theorem `le_bestLevel`: a scan for the best level
-/

universe u v

namespace Effects

variable {P : Type u} {S : Type v} {r : P → P → Prop}

/-- The levels of one side: prices with their sizes. -/
abbrev Depth (P : Type u) (S : Type v) :=
  List (P × S)

def Depth.set [DecidableEq P] (depth : Depth P S) (price : P) (size : S) : Depth P S :=
  (price, size) :: depth.filter fun level => decide (level.1 ≠ price)

/-- No level with anything on offer is better than a price. -/
def Depth.Bounds [Zero S] [LT S] (r : P → P → Prop) (best : P) (depth : Depth P S) : Prop :=
  ∀ level ∈ depth, 0 < level.2 → r level.1 best

instance [Zero S] [LT S] [DecidableRel r] [DecidableLT S] (best : P) (depth : Depth P S) :
    Decidable (depth.Bounds r best) :=
  inferInstanceAs (Decidable (∀ level ∈ depth, 0 < level.2 → r level.1 best))

/-- The best level of a list, or the given one if none is better; of equal prices the first. -/
def bestLevel (r : P → P → Prop) [DecidableRel r] (first : P × S) (levels : List (P × S)) : P × S :=
  levels.foldl (fun best level => if r level.1 best.1 then best else level) first

/-- No level is better than the best one. -/
theorem le_bestLevel [DecidableRel r] [Std.Total r] [IsTrans P r] (first : P × S)
    (levels : List (P × S)) :
    r first.1 (bestLevel r first levels).1 ∧
      ∀ level ∈ levels, r level.1 (bestLevel r first levels).1 := by
  have hrefl : ∀ p : P, r p p := fun p => (Std.Total.total (r := r) p p).elim id id
  induction levels generalizing first with
  | nil => exact ⟨hrefl first.1, by simp⟩
  | cons level rest ih =>
    have hscan : bestLevel r first (level :: rest) =
        bestLevel r (if r level.1 first.1 then first else level) rest := rfl
    rw [hscan]
    by_cases hle : r level.1 first.1
    · rw [if_pos hle]
      have hrest := ih first
      constructor
      · exact hrest.1
      · intro other hother
        rcases List.mem_cons.mp hother with rfl | hother
        · exact IsTrans.trans _ _ _ hle hrest.1
        · exact hrest.2 other hother
    · rw [if_neg hle]
      have hrest := ih level
      have hge : r first.1 level.1 := (Std.Total.total level.1 first.1).resolve_left hle
      constructor
      · exact IsTrans.trans _ _ _ hge hrest.1
      · intro other hother
        rcases List.mem_cons.mp hother with rfl | hother
        · exact hrest.1
        · exact hrest.2 other hother

end Effects
