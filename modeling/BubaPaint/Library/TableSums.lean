import Mathlib.Algebra.Order.BigOperators.Group.List
import BubaPaint.Library.Table

/-!
# Sums over tables

The values of the rows of a table that satisfy a condition on identifier and row, and their sum.

Main results:

- Theorem `Table.collect_insert`, `Table.collect_modify_of_congr`: the values after a write
- Theorem `Table.sum_le_sum`, `Table.sum_lt_sum`: more rows, a larger sum
- Theorem `sum_le_sum_of_charged`: a sum paid for by another one
-/

universe u v

namespace Effects

open List

namespace Table

variable {ρ : Type u} {M : Type v}
variable {p : ℕ × ρ → Bool} {f : ρ → M}

/-- The values of the rows that satisfy a condition, in the order of the rows. -/
def collect (t : Table ρ) (p : ℕ × ρ → Bool) (f : ρ → M) : List M :=
  (t.rows.filter p).map fun entry => f entry.2

theorem mem_collect {t : Table ρ} {value : M} :
    value ∈ t.collect p f ↔
      ∃ id row, t.get? id = some row ∧ p (id, row) = true ∧ f row = value := by
  simp [collect, get?_eq_some_iff, and_assoc]

theorem collect_insert (t : Table ρ) (row : ρ) (p : ℕ × ρ → Bool) (f : ρ → M) :
    (t.insert row).collect p f = t.collect p f ++ if p (t.nextId, row) then [f row] else [] := by
  cases hrow : p (t.nextId, row) with
  | true => simp [collect, insert, hrow]
  | false => simp [collect, insert, hrow]

theorem collect_congr {t : Table ρ} {q : ℕ × ρ → Bool}
    (h : ∀ id row, t.get? id = some row → p (id, row) = q (id, row)) :
    t.collect p f = t.collect q f := by
  unfold collect
  have hfilter : t.rows.filter p = t.rows.filter q := by
    apply filter_congr
    rintro ⟨id, row⟩ hmem
    exact h id row (get?_eq_some_iff.mpr hmem)
  rw [hfilter]

/-- A rewrite that keeps what counts and how much keeps the values. -/
theorem collect_modify_of_congr (t : Table ρ) (id : ℕ) (g : ρ → ρ)
    (hcounts : ∀ row, p (id, g row) = p (id, row)) (hvalue : ∀ row, f (g row) = f row) :
    (t.modify id g).collect p f = t.collect p f := by
  unfold collect modify
  rw [filter_map, map_map]
  have hfilter : t.rows.filter
      (p ∘ fun entry => (entry.1, if entry.1 = id then g entry.2 else entry.2)) =
        t.rows.filter p := by
    apply filter_congr
    rintro ⟨id', row⟩ -
    by_cases hid : id' = id
    · subst hid
      simp [hcounts]
    · simp [hid]
  rw [hfilter]
  apply map_congr_left
  rintro ⟨id', row⟩ -
  by_cases hid : id' = id
  · simp [hid, hvalue]
  · simp [hid]

section Sums

variable [AddCommMonoid M]

/-- The sum of a value over the rows that satisfy a condition. -/
def sum (t : Table ρ) (p : ℕ × ρ → Bool) (f : ρ → M) : M :=
  (t.collect p f).sum

private theorem sum_filter_map (rows : List (ℕ × ρ)) (p : ℕ × ρ → Bool) (f : ρ → M) :
    ((rows.filter p).map fun entry => f entry.2).sum =
      (rows.map fun entry => if p entry then f entry.2 else 0).sum := by
  induction rows with
  | nil => rfl
  | cons entry rows ih =>
    rw [filter_cons, map_cons, sum_cons, ← ih]
    cases p entry with
    | true => simp
    | false => simp

theorem sum_eq (t : Table ρ) (p : ℕ × ρ → Bool) (f : ρ → M) :
    t.sum p f = (t.rows.map fun entry => if p entry then f entry.2 else 0).sum :=
  sum_filter_map t.rows p f

end Sums

section OrderedSums

variable [AddCommMonoid M] [PartialOrder M] [IsOrderedCancelAddMonoid M]

section Compare

variable {t : Table ρ} {p q : ℕ × ρ → Bool} {f : ρ → M}
  (himp : ∀ id row, t.get? id = some row → p (id, row) = true → q (id, row) = true)
  (hnonneg : ∀ id row, t.get? id = some row → q (id, row) = true → 0 ≤ f row)

include himp hnonneg

/-- More entries give a larger sum. -/
theorem sum_le_sum : t.sum p f ≤ t.sum q f := by
  rw [sum_eq, sum_eq]
  apply List.sum_le_sum
  rintro ⟨id, row⟩ hmem
  have hget := get?_eq_some_iff.mpr hmem
  cases hp : p (id, row) with
  | true => simp [himp id row hget hp]
  | false =>
    cases hq : q (id, row) with
    | true => simpa using hnonneg id row hget hq
    | false => simp

/-- An entry that counts only on one side makes that sum larger. -/
theorem sum_lt_sum {id : ℕ} {row : ρ} (hget : t.get? id = some row) (hp : p (id, row) = false)
    (hq : q (id, row) = true) (hpos : 0 < f row) : t.sum p f < t.sum q f := by
  rw [sum_eq, sum_eq]
  apply List.sum_lt_sum
  · rintro ⟨id', row'⟩ hmem
    have hget' := get?_eq_some_iff.mpr hmem
    cases hp' : p (id', row') with
    | true => simp [himp id' row' hget' hp']
    | false =>
      cases hq' : q (id', row') with
      | true => simpa using hnonneg id' row' hget' hq'
      | false => simp
  · refine ⟨(id, row), get?_eq_some_iff.mp hget, ?_⟩
    simpa [hp, hq] using hpos

end Compare

end OrderedSums

theorem exists_last {t : Table ρ} (p : ρ → Prop) {id : ℕ} {row : ρ} (hget : t.get? id = some row)
    (hp : p row) : ∃ last row', t.get? last = some row' ∧ p row' ∧
      ∀ id row, t.get? id = some row → p row → id ≤ last := by
  induction hdistance : t.nextId - id using Nat.strong_induction_on generalizing id row with
  | _ distance ih =>
    by_cases hlater : ∃ id' row', t.get? id' = some row' ∧ p row' ∧ id < id'
    · obtain ⟨id', row', hget', hp', hlt⟩ := hlater
      have hbound := lt_nextId_of_get? hget'
      exact ih (t.nextId - id') (by omega) hget' hp' rfl
    · refine ⟨id, row, hget, hp, ?_⟩
      intro id' row' hget' hp'
      by_contra hlt
      exact hlater ⟨id', row', hget', hp', not_le.mp hlt⟩

end Table

section Charging

variable {α β : Type u} {M : Type v} [AddCommMonoid M] [PartialOrder M] [IsOrderedAddMonoid M]

/-- A sum is at most another one if each of its terms is charged to terms of the other one that
cover it, and each of these is charged at most once. -/
theorem sum_le_sum_of_charged {xs : List α} {ys : List β} {f : α → M} {g : β → M}
    {charges : α → β → Bool} (hnonneg : ∀ y ∈ ys, 0 ≤ g y)
    (hcovered : ∀ x ∈ xs, f x ≤ ((ys.filter (charges x)).map g).sum)
    (honce : ∀ y ∈ ys, xs.countP (charges · y) ≤ 1) : (xs.map f).sum ≤ (ys.map g).sum := by
  induction xs generalizing ys with
  | nil => simpa using sum_nonneg (by simpa using hnonneg)
  | cons x xs ih =>
    rw [map_cons, sum_cons,
      ← sum_map_filter_add_sum_map_filter_not (fun y => charges x y = true) g ys]
    refine add_le_add (by simpa using hcovered x mem_cons_self) (ih ?_ ?_ ?_)
    · exact fun y hy => hnonneg y (mem_of_mem_filter hy)
    · -- What the first term is charged to, no later term is charged to.
      intro x' hx'
      refine (hcovered x' (mem_cons_of_mem _ hx')).trans (le_of_eq ?_)
      rw [filter_filter]
      congr 2
      apply filter_congr
      intro y hy
      by_cases hx : charges x y = true
      · have hcount := honce y hy
        rw [countP_cons, if_pos hx] at hcount
        have hzero : xs.countP (charges · y) = 0 := by omega
        have hnot := countP_eq_zero.mp hzero x' hx'
        simpa [hx] using hnot
      · simp [hx]
    · intro y hy
      obtain ⟨hmem, hx⟩ := mem_filter.mp hy
      have hcount := honce y hmem
      rwa [countP_cons, if_neg (by simpa using hx), add_zero] at hcount

end Charging

end Effects
