import Mathlib.Data.List.Sort

/-!
# Stable sorting and what comes later

A stable sort by a key keeps entries apart that a test tells apart by their keys: if every entry
that passes comes strictly before every entry that does not, the sorted list is that of the passing
entries followed by that of the others.
-/

universe u

namespace Effects

open List

/-- The order of three keys, of which the first counts most. -/
def KeyLe (first second : ℕ × ℕ × ℕ) : Prop :=
  first.1 < second.1 ∨ first.1 = second.1 ∧
    (first.2.1 < second.2.1 ∨ first.2.1 = second.2.1 ∧ first.2.2 ≤ second.2.2)

instance : DecidableRel KeyLe :=
  fun first second => by unfold KeyLe; infer_instance

theorem keyLe_of_lt {first second : ℕ × ℕ × ℕ} (h : first.1 < second.1) : KeyLe first second :=
  .inl h

theorem not_keyLe_of_lt {first second : ℕ × ℕ × ℕ} (h : first.1 < second.1) :
    ¬KeyLe second first := by
  unfold KeyLe
  omega

variable {α : Type u} {r : α → α → Prop} [DecidableRel r]

theorem orderedInsert_append_of_before {a : α} (early late : List α) (h : ∀ b ∈ late, r a b) :
    List.orderedInsert r a (early ++ late) = List.orderedInsert r a early ++ late := by
  induction early with
  | nil =>
    cases late with
    | nil => rfl
    | cons b rest => simp [List.orderedInsert, h b mem_cons_self]
  | cons b rest ih =>
    by_cases hab : r a b
    · simp [List.orderedInsert, hab]
    · simp [List.orderedInsert, hab, ih]

theorem orderedInsert_append_of_after {a : α} (early late : List α) (h : ∀ b ∈ early, ¬r a b) :
    List.orderedInsert r a (early ++ late) = early ++ List.orderedInsert r a late := by
  induction early with
  | nil => rfl
  | cons b rest ih =>
    have hrest := ih fun c hc => h c (mem_cons_of_mem _ hc)
    simp [h b mem_cons_self, hrest]

/-- Every entry that passes a test comes strictly before every entry that does not. -/
def Separates (r : α → α → Prop) (p : α → Bool) (l : List α) : Prop :=
  ∀ a ∈ l, ∀ b ∈ l, p a = true → p b = false → r a b ∧ ¬r b a

section Separated

variable {p : α → Bool} {l : List α} (h : Separates r p l)

include h

/-- Sorting keeps the passing entries before the others. -/
theorem insertionSort_split :
    l.insertionSort r =
      (l.filter p).insertionSort r ++ (l.filter fun a => !p a).insertionSort r := by
  induction l with
  | nil => rfl
  | cons a rest ih =>
    have hrest := ih fun b hb c hc =>
      h b (mem_cons_of_mem _ hb) c (mem_cons_of_mem _ hc)
    rw [insertionSort_cons, hrest]
    by_cases hpass : p a = true
    · rw [orderedInsert_append_of_before]
      · simp [hpass]
      · intro b hb
        rw [mem_insertionSort, mem_filter, Bool.not_eq_true'] at hb
        exact (h a mem_cons_self b (mem_cons_of_mem _ hb.1) hpass hb.2).1
    · rw [Bool.not_eq_true] at hpass
      rw [orderedInsert_append_of_after]
      · simp [hpass]
      · intro b hb
        rw [mem_insertionSort, mem_filter] at hb
        exact (h b (mem_cons_of_mem _ hb.1) a mem_cons_self hb.2 hpass).2

/-- The passing part of a sorted list is sorted on its own. -/
theorem filter_insertionSort : (l.insertionSort r).filter p = (l.filter p).insertionSort r := by
  rw [insertionSort_split h, filter_append]
  have hkept : ((l.filter p).insertionSort r).filter p = (l.filter p).insertionSort r := by
    apply filter_eq_self.mpr
    intro a ha
    rw [mem_insertionSort, mem_filter] at ha
    exact ha.2
  have hdropped : ((l.filter fun a => !p a).insertionSort r).filter p = [] := by
    apply filter_eq_nil_iff.mpr
    intro a ha
    rw [mem_insertionSort, mem_filter] at ha
    simpa using ha.2
  rw [hkept, hdropped, append_nil]

theorem insertionSort_eq_filter_append :
    l.insertionSort r =
      (l.insertionSort r).filter p ++ (l.insertionSort r).filter fun a => !p a := by
  have hkept : ((l.filter fun a => !p a).insertionSort r).filter (fun a => !p a) =
      (l.filter fun a => !p a).insertionSort r := by
    apply filter_eq_self.mpr
    intro a ha
    rw [mem_insertionSort, mem_filter] at ha
    exact ha.2
  have hdropped : ((l.filter p).insertionSort r).filter (fun a => !p a) = [] := by
    apply filter_eq_nil_iff.mpr
    intro a ha
    rw [mem_insertionSort, mem_filter] at ha
    simpa using ha.2
  rw [filter_insertionSort h, insertionSort_split h, filter_append, hkept, hdropped,
    nil_append]

theorem head?_insertionSort (hsome : (l.filter p) ≠ []) :
    (l.insertionSort r).head? = ((l.filter p).insertionSort r).head? := by
  have hnonempty : (l.filter p).insertionSort r ≠ [] := by
    intro hnil
    apply hsome
    rw [← length_eq_zero_iff, ← length_insertionSort r, hnil, length_nil]
  rw [insertionSort_split h, List.head?_append_of_ne_nil _ hnonempty]

end Separated

section Related

universe v

variable {β : Type v} {r' : β → β → Prop} [DecidableRel r'] {related : α → β → Prop}

theorem forall₂_orderedInsert {a : α} {b : β} {l : List α} {l' : List β}
    (hcompare : ∀ a b a' b', related a b → related a' b' → (r a a' ↔ r' b b'))
    (hhead : related a b) (h : List.Forall₂ related l l') :
    List.Forall₂ related (List.orderedInsert r a l) (List.orderedInsert r' b l') := by
  induction h with
  | nil => exact .cons hhead .nil
  | @cons a' b' rest rest' hfirst hrest ih =>
    have hsame := hcompare a b a' b' hhead hfirst
    by_cases hle : r a a'
    · have hle' : r' b b' := hsame.mp hle
      simpa [hle, hle'] using ⟨hhead, hfirst, hrest⟩
    · have hle' : ¬r' b b' := fun hle' => hle (hsame.mpr hle')
      simpa [hle, hle'] using ⟨hfirst, ih⟩

theorem forall₂_insertionSort {l : List α} {l' : List β}
    (hcompare : ∀ a b a' b', related a b → related a' b' → (r a a' ↔ r' b b'))
    (h : List.Forall₂ related l l') :
    List.Forall₂ related (l.insertionSort r) (l'.insertionSort r') := by
  induction h with
  | nil => exact .nil
  | cons hfirst _ ih => exact forall₂_orderedInsert hcompare hfirst ih

end Related

end Effects
