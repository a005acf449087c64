import Mathlib.Algebra.Order.Ring.Int
import Mathlib.Data.List.Sort

/-!
# Neighbours in a list

The pairs of neighbours of a list, and what happens to them when the list is cut into the parts of
one key each. Where the keys never fall, a part has exactly the neighbours that share its key.

Main results:

- Theorem `neighbours_filter_key`: the neighbours of one part
- Theorem `flatMap_filter_key_perm`: all parts together
- Theorem `largest_le_iff`: the largest of some numbers
-/

universe u v

namespace Effects

open List

section Parts

variable {α : Type u} {κ : Type v} [DecidableEq κ] {keys : List κ} {l : List α}

def neighbours (l : List α) : List (α × α) :=
  l.zip l.tail

@[simp]
theorem neighbours_nil : neighbours ([] : List α) = [] :=
  rfl

@[simp]
theorem neighbours_singleton (a : α) : neighbours [a] = [] :=
  rfl

@[simp]
theorem neighbours_cons_cons (a b : α) (l : List α) :
    neighbours (a :: b :: l) = (a, b) :: neighbours (b :: l) :=
  rfl

theorem mem_of_neighbours {a b : α} (h : (a, b) ∈ neighbours l) : a ∈ l ∧ b ∈ l := by
  obtain ⟨ha, hb⟩ := of_mem_zip h
  exact ⟨ha, mem_of_mem_tail hb⟩

/-- The parts of a list have together the entries whose keys are among theirs. -/
theorem flatMap_filter_key_perm (hnodup : keys.Nodup) (key : α → κ) (l : List α) :
    (keys.flatMap fun k => l.filter fun a => decide (key a = k)).Perm
      (l.filter fun a => decide (key a ∈ keys)) := by
  induction keys with
  | nil => simp
  | cons k keys ih =>
    obtain ⟨hk, hnodup⟩ := nodup_cons.mp hnodup
    have hparts := filter_append_perm (fun a => decide (key a = k))
      (l.filter fun a => decide (key a ∈ k :: keys))
    rw [filter_filter, filter_filter] at hparts
    have hfirst : (l.filter fun a => decide (key a = k) && decide (key a ∈ k :: keys)) =
        l.filter fun a => decide (key a = k) := by
      apply filter_congr
      intro a _
      by_cases hak : key a = k <;> simp [hak]
    have hrest : (l.filter fun a => !decide (key a = k) && decide (key a ∈ k :: keys)) =
        l.filter fun a => decide (key a ∈ keys) := by
      apply filter_congr
      intro a _
      by_cases hak : key a = k
      · simp [hak, hk]
      · simp [hak]
    rw [hfirst, hrest] at hparts
    rw [flatMap_cons]
    exact ((ih hnodup).append_left _).trans hparts

variable [LinearOrder κ] {key : α → κ}

/-- Where the keys never fall, the part of a key has the neighbours that share this key. -/
theorem neighbours_filter_key (h : l.Pairwise fun a b => key a ≤ key b) (k : κ) :
    neighbours (l.filter fun a => decide (key a = k)) =
      (neighbours l).filter fun pair => decide (key pair.1 = key pair.2) && decide
        (key pair.2 = k) := by
  induction l with
  | nil => rfl
  | cons a l ih =>
    obtain ⟨ha, hl⟩ := pairwise_cons.mp h
    have ih := ih hl
    cases l with
    | nil => by_cases hak : key a = k <;> simp [hak]
    | cons b l =>
      by_cases hak : key a = k
      · by_cases hbk : key b = k
        · simpa [hak, hbk] using ih
        · -- The key has risen above `k`, so nothing of the rest belongs to the part.
          have hlt : k < key b := lt_of_le_of_ne (hak ▸ ha b mem_cons_self) (Ne.symm hbk)
          have hnone : (b :: l).filter (fun c => decide (key c = k)) = [] := by
            apply filter_eq_nil_iff.mpr
            intro c hc
            have hle : key b ≤ key c := by
              rcases mem_cons.mp hc with rfl | hc
              · exact le_refl _
              · exact rel_of_pairwise_cons hl hc
            simpa using (hlt.trans_le hle).ne'
          rw [hnone] at ih
          rw [filter_cons_of_pos (by simpa using hak), hnone]
          simpa [hak, hbk] using ih
      · rw [filter_cons_of_neg (by simpa using hak), ih, neighbours_cons_cons,
          filter_cons_of_neg]
        rw [Bool.and_eq_true, decide_eq_true_eq, decide_eq_true_eq]
        exact fun hboth => hak (hboth.1.trans hboth.2)

end Parts

def largest (l : List ℤ) : ℤ :=
  l.foldl max 0

theorem foldl_max_le_iff {l : List ℤ} {start bound : ℤ} :
    l.foldl max start ≤ bound ↔ start ≤ bound ∧ ∀ x ∈ l, x ≤ bound := by
  induction l generalizing start with
  | nil => simp
  | cons x l ih => simp [ih, and_assoc]

theorem largest_le_iff {l : List ℤ} {bound : ℤ} :
    largest l ≤ bound ↔ 0 ≤ bound ∧ ∀ x ∈ l, x ≤ bound :=
  foldl_max_le_iff

end Effects
