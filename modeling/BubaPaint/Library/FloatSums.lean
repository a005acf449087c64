import Mathlib.Algebra.Order.BigOperators.Group.List
import BubaPaint.Library.Doubles

/-!
# Sums of doubles

A library adds a column of doubles in an order and with corrections of its own. What its callers
may rely on is that the result is close to the exact sum. Where the numbers are the doubles nearest
to multiples of a unit and their sum is small enough, that tells the exact number of units.

Main results:

- Theorem `FloatSum.abs_foldl_add_sub_le`: the error of one addition after the other
- Definition `FloatSum.leftToRight`: adding in order is close enough
- Theorem `FloatSum.round_sum_scaled`: the number of units, from any such sum
-/

namespace Effects

open Double List

/-- A sum of doubles that is off by two roundings for each summand at most, where no summand is
nearly subnormal and the sum does not overflow. -/
structure FloatSum where
  sum : List ℚ → ℚ
  accurate : ∀ xs : List ℚ, (∀ x ∈ xs, 1 / 2 ^ 20 ≤ x) → xs.length ≤ 2 ^ 51 →
    xs.sum ≤ 2 ^ 1000 → |sum xs - xs.sum| ≤ xs.length / 2 ^ 52 * xs.sum

namespace FloatSum

/-- Every addition adds its rounding error, and passes the earlier ones on. -/
theorem abs_foldl_add_sub_le (xs : List ℚ) (start : ℚ) (hstart : 0 ≤ start)
    (hxs : ∀ x ∈ xs, 1 / 2 ^ 20 ≤ x) :
    |xs.foldl (fun s x => roundDouble (s + x)) start - (start + xs.sum)| ≤
      ((1 + 1 / 2 ^ 53) ^ xs.length - 1) * (start + xs.sum) := by
  induction xs generalizing start with
  | nil => simp
  | cons x xs ih =>
    have hx : 1 / 2 ^ 20 ≤ x := hxs x mem_cons_self
    have hrest : 0 ≤ xs.sum := sum_nonneg fun y hy =>
      le_trans (by norm_num) (hxs y (mem_cons_of_mem _ hy))
    have hround := abs_roundDouble_sub_le (hx.trans (le_add_of_nonneg_left hstart))
    have hafter := ih (roundDouble (start + x)) (roundDouble_nonneg (by linarith))
      fun y hy => hxs y (mem_cons_of_mem _ hy)
    have hgrowth : 1 ≤ ((1 : ℚ) + 1 / 2 ^ 53) ^ xs.length := one_le_pow₀ (by norm_num)
    obtain ⟨hlow, hhigh⟩ := abs_le.mp hround
    -- the sum that is left to compute is larger by the rounding at most
    have hmoved : roundDouble (start + x) + xs.sum ≤ (1 + 1 / 2 ^ 53) * (start + x + xs.sum) := by
      linarith
    have hgrown := mul_le_mul_of_nonneg_left hmoved (sub_nonneg.mpr hgrowth)
    rw [foldl_cons, sum_cons, length_cons, pow_succ]
    rw [abs_le] at hafter ⊢
    constructor <;> nlinarith

theorem growth_le (n : ℕ) (hn : n ≤ 2 ^ 51) : ((1 : ℚ) + 1 / 2 ^ 53) ^ n - 1 ≤ n / 2 ^ 52 := by
  induction n with
  | zero => simp
  | succ n ih =>
    have hn' : (n : ℚ) ≤ 2 ^ 51 := by exact_mod_cast (by omega : n ≤ 2 ^ 51)
    have hpower := ih (by omega)
    rw [pow_succ]
    push_cast
    linarith

/-- One addition after the other, in the order of the list. -/
def leftToRight : FloatSum where
  sum xs := xs.foldl (fun s x => roundDouble (s + x)) 0
  accurate := by
    intro xs hxs hlength _
    have hsum : 0 ≤ xs.sum := sum_nonneg fun x hx => le_trans (by norm_num) (hxs x hx)
    have herror := abs_foldl_add_sub_le xs 0 le_rfl hxs
    rw [zero_add] at herror
    exact herror.trans (mul_le_mul_of_nonneg_right (growth_le _ hlength) hsum)

/-! ## Numbers of a unit -/

/-- The doubles nearest to multiples of a unit. -/
def scaled (scale : ℚ) (counts : List ℕ) : List ℚ :=
  counts.map fun (count : ℕ) => roundDouble (count / scale)

section Scaled

variable {scale : ℚ} {counts : List ℕ}

theorem unit_le_div (hscale : 0 < scale) (hfine : scale ≤ 2 ^ 20) {count : ℕ} (hcount : 0 < count) :
    1 / 2 ^ 20 ≤ count / scale := by
  have hone : (1 : ℚ) ≤ count := by exact_mod_cast hcount
  calc (1 : ℚ) / 2 ^ 20 ≤ 1 / scale := one_div_le_one_div_of_le hscale hfine
    _ ≤ count / scale := by gcongr

theorem abs_scaled_sub_le (hscale : 0 < scale) (hfine : scale ≤ 2 ^ 20) {count : ℕ}
    (hcount : 0 < count) : |roundDouble (count / scale) * scale - count| ≤ count / 2 ^ 53 := by
  have hround := abs_roundDouble_sub_le (unit_le_div hscale hfine hcount)
  calc |roundDouble (count / scale) * scale - count|
      = |roundDouble (count / scale) - count / scale| * scale := by
        rw [← abs_of_pos hscale, ← abs_mul, abs_of_pos hscale, sub_mul,
          div_mul_cancel₀ _ hscale.ne']
    _ ≤ count / scale / 2 ^ 53 * scale := mul_le_mul_of_nonneg_right hround hscale.le
    _ = count / 2 ^ 53 := by field_simp

theorem round_eq_natCast {q : ℚ} {count : ℕ} (h : |q - count| < 1 / 2) : round q = count := by
  obtain ⟨hlow, hhigh⟩ := abs_lt.mp h
  rw [round_eq, Int.floor_eq_iff]
  constructor
  · push_cast
    linarith
  · push_cast
    linarith

/-- A number of units below 2 ^ 51 is told by the double nearest to it. -/
theorem round_scaled (hscale : 0 < scale) (hfine : scale ≤ 2 ^ 20) {count : ℕ} (hcount : 0 < count)
    (hsmall : (round (roundDouble (count / scale) * scale)).toNat < 2 ^ 51) :
    (round (roundDouble (count / scale) * scale)).toNat = count := by
  have herror := abs_scaled_sub_le hscale hfine hcount
  by_cases hcounted : count < 2 ^ 52
  · have hcast : (count : ℚ) < 2 ^ 52 := by exact_mod_cast hcounted
    rw [round_eq_natCast (herror.trans_lt (by linarith)), Int.toNat_natCast]
  · -- a larger number of units stays large
    have hcast : (2 : ℚ) ^ 52 ≤ count := by exact_mod_cast not_lt.mp hcounted
    have hlarge : (2 ^ 51 : ℤ) ≤ round (roundDouble (count / scale) * scale) := by
      rw [round_eq, Int.le_floor]
      push_cast
      linarith [(abs_le.mp herror).1]
    omega

/-- Rounding the numbers moves their sum by one part in 2 ^ 53 at most. -/
theorem abs_sum_scaled_sub_le (hscale : 0 < scale) (hfine : scale ≤ 2 ^ 20)
    (hcounts : ∀ count ∈ counts, 0 < count) :
    |(scaled scale counts).sum * scale - (counts.sum : ℕ)| ≤ (counts.sum : ℕ) / 2 ^ 53 := by
  induction counts with
  | nil => simp [scaled]
  | cons count counts ih =>
    have hfirst := abs_scaled_sub_le hscale hfine (hcounts count mem_cons_self)
    have hrest := ih fun other hmem => hcounts other (mem_cons_of_mem _ hmem)
    have hcons : (scaled scale (count :: counts)).sum =
        roundDouble (count / scale) + (scaled scale counts).sum := rfl
    rw [hcons, sum_cons, Nat.cast_add]
    rw [abs_le] at hfirst hrest ⊢
    constructor <;> linarith

theorem le_of_mem_scaled (hscale : 0 < scale) (hfine : scale ≤ 2 ^ 20)
    (hcounts : ∀ count ∈ counts, 0 < count) : ∀ x ∈ scaled scale counts, 1 / 2 ^ 20 ≤ x := by
  intro x hx
  obtain ⟨count, hmem, rfl⟩ := mem_map.mp hx
  exact le_roundDouble (unit_le_div hscale hfine (hcounts count hmem))

/-- Three errors, of the numbers, of their sum and of its product, stay below half a unit. -/
theorem errors_lt_half {n total exact sum product : ℚ} (hn : 0 ≤ n) (htotal : 1 ≤ total)
    (hbound : (n + 2) * total < 2 ^ 51) (hexact : |exact - total| ≤ total / 2 ^ 53)
    (hsum : |sum - exact| ≤ n / 2 ^ 52 * exact)
    (hproduct : 1 / 2 ^ 20 ≤ sum → |product - sum| ≤ sum / 2 ^ 53) : |product - total| < 1 / 2 := by
  obtain ⟨hlow, hhigh⟩ := abs_le.mp hexact
  obtain ⟨hless, hmore⟩ := abs_le.mp hsum
  have herror : n * exact ≤ n * (total + total / 2 ^ 53) :=
    mul_le_mul_of_nonneg_left (by linarith) hn
  obtain ⟨hbelow, habove⟩ := abs_le.mp (hproduct (by linarith))
  rw [abs_lt]
  constructor <;> linarith

/-- So few numbers of units, with so small a sum, that any sum of the doubles tells it. -/
def Exact (counts : List ℕ) : Prop :=
  (counts.length + 2) * counts.sum < 2 ^ 51

instance (counts : List ℕ) : Decidable (Exact counts) :=
  inferInstanceAs (Decidable (_ < _))

theorem Exact.sum_lt (h : Exact counts) : counts.sum < 2 ^ 51 :=
  lt_of_le_of_lt (Nat.le_mul_of_pos_left _ (by omega)) h

/-- The exact number of units is what the product of any such sum rounds to. -/
theorem round_sum_scaled (acc : FloatSum) (hscale : 1 ≤ scale) (hfine : scale ≤ 2 ^ 20)
    (hne : counts ≠ []) (hcounts : ∀ count ∈ counts, 0 < count) (hexact : Exact counts) :
    round (roundDouble (acc.sum (scaled scale counts) * scale)) = (counts.sum : ℕ) := by
  have hpos : 0 < scale := by linarith
  have hbound : (counts.length + 2) * counts.sum < 2 ^ 51 := hexact
  have htotal : 1 ≤ counts.sum := by
    obtain ⟨count, hmem⟩ := exists_mem_of_ne_nil _ hne
    exact (hcounts count hmem).trans_le (le_sum_of_mem hmem)
  have hlength : counts.length ≤ 2 ^ 51 := by nlinarith
  have htotal' : (1 : ℚ) ≤ (counts.sum : ℕ) := by exact_mod_cast htotal
  have hbound' : ((counts.length : ℚ) + 2) * (counts.sum : ℕ) < 2 ^ 51 := by exact_mod_cast hbound
  have hscaled := abs_sum_scaled_sub_le hpos hfine hcounts
  have hnonneg : 0 ≤ (scaled scale counts).sum := sum_nonneg fun x hx =>
    le_trans (by norm_num) (le_of_mem_scaled hpos hfine hcounts x hx)
  have hsmall : (scaled scale counts).sum ≤ 2 ^ 1000 := by
    have hgrow := mul_le_mul_of_nonneg_left hscale hnonneg
    have hhigh := (abs_le.mp hscaled).2
    calc (scaled scale counts).sum ≤ 2 ^ 51 := by nlinarith
      _ ≤ 2 ^ 1000 := pow_le_pow_right₀ (by norm_num) (by norm_num)
  have hsum := acc.accurate (scaled scale counts) (le_of_mem_scaled hpos hfine hcounts)
    (by rwa [scaled, length_map]) hsmall
  rw [scaled, length_map, ← scaled] at hsum
  have hproduct : |acc.sum (scaled scale counts) * scale - (scaled scale counts).sum * scale| ≤
      counts.length / 2 ^ 52 * ((scaled scale counts).sum * scale) := by
    rw [← sub_mul, abs_mul, abs_of_pos hpos, ← mul_assoc]
    exact mul_le_mul_of_nonneg_right hsum hpos.le
  exact round_eq_natCast (errors_lt_half (Nat.cast_nonneg _) htotal' hbound' hscaled hproduct
    abs_roundDouble_sub_le)

end Scaled

end FloatSum

end Effects
