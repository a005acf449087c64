import Mathlib.Data.Int.Log
import Mathlib.Data.Rat.Floor

/-!
# Rounding to significant digits

Rational numbers rounded to the nearest multiple of a power of the base, ties to even. The power
follows the size of the number, so that a given number of digits is kept, but does not fall below
a least one, where the digits run out.

Main results:

- Theorem `roundEven_mono`: rounding to integers is monotone
- Theorem `roundDigits_of_grid`: a number with few digits is not changed
- Theorem `exists_grid_roundDigits`: a rounded number has few digits
- Theorem `roundDigits_mono`: rounding to digits is monotone
- Theorem `abs_roundDigits_sub_le`: the error of rounding to digits
-/

namespace Effects

/-- The nearest integer, and of two nearest ones the even one. -/
def roundEven (q : ℚ) : ℤ :=
  if Int.fract q < 1 / 2 then ⌊q⌋
  else if 1 / 2 < Int.fract q then ⌊q⌋ + 1
  else ⌊q⌋ + ⌊q⌋ % 2

@[simp] theorem roundEven_intCast (n : ℤ) : roundEven n = n := by
  simp [roundEven]

@[simp] theorem roundEven_zero : roundEven 0 = 0 :=
  mod_cast roundEven_intCast 0

theorem floor_le_roundEven (q : ℚ) : ⌊q⌋ ≤ roundEven q ∧ roundEven q ≤ ⌊q⌋ + 1 := by
  unfold roundEven
  split
  · omega
  · split <;> omega

theorem roundEven_mono {q r : ℚ} (h : q ≤ r) : roundEven q ≤ roundEven r := by
  rcases (Int.floor_mono h).lt_or_eq with hless | hsame
  · have hq := (floor_le_roundEven q).2
    have hr := (floor_le_roundEven r).1
    omega
  · have hfract : Int.fract q ≤ Int.fract r := by
      unfold Int.fract
      rw [hsame]
      linarith
    unfold roundEven
    rw [hsame]
    split_ifs <;> first | omega | linarith

theorem roundEven_neg (q : ℚ) : roundEven (-q) = -roundEven q := by
  by_cases hint : Int.fract q = 0
  · obtain ⟨n, rfl⟩ := Int.fract_eq_zero_iff.mp hint
    rw [← Int.cast_neg, roundEven_intCast, roundEven_intCast]
  · have hfract := Int.fract_neg hint
    have hfloor : ⌊-q⌋ = -⌊q⌋ - 1 := by
      have hceil : ⌈q⌉ = ⌊q⌋ + 1 := by
        refine (Int.ceil_eq_floor_add_one_iff_notMem q).mpr fun hmem => hint ?_
        exact Int.fract_eq_zero_iff.mpr hmem
      rw [Int.floor_neg, hceil]
      ring
    unfold roundEven
    rw [hfract, hfloor]
    split_ifs <;> first | omega | linarith

/-- Rounding to integers moves a number by half a unit at most. -/
theorem abs_roundEven_sub_le (q : ℚ) : |(roundEven q : ℚ) - q| ≤ 1 / 2 := by
  have hsplit := Int.floor_add_fract q
  have hnonneg := Int.fract_nonneg q
  have hless := Int.fract_lt_one q
  unfold roundEven
  split
  · rw [abs_le]
    constructor <;> linarith
  · split
    · push_cast
      rw [abs_le]
      constructor <;> linarith
    · push_cast
      rcases Int.emod_two_eq_zero_or_one ⌊q⌋ with heven | hodd
      · rw [heven, abs_le]
        push_cast
        constructor <;> linarith
      · rw [hodd, abs_le]
        push_cast
        constructor <;> linarith

/-- The nearest multiple of a power of the base. -/
def roundUnit (base : ℕ) (exponent : ℤ) (q : ℚ) : ℚ :=
  roundEven (q / (base : ℚ) ^ exponent) * (base : ℚ) ^ exponent

section Units

variable {base : ℕ} {exponent : ℤ} {q r : ℚ}

theorem unit_pos (hbase : 0 < base) (exponent : ℤ) : (0 : ℚ) < (base : ℚ) ^ exponent :=
  zpow_pos (Nat.cast_pos.mpr hbase) exponent

theorem roundUnit_mono (hbase : 0 < base) (h : q ≤ r) :
    roundUnit base exponent q ≤ roundUnit base exponent r := by
  have hunit := unit_pos hbase exponent
  have hround : roundEven (q / (base : ℚ) ^ exponent) ≤ roundEven (r / (base : ℚ) ^ exponent) :=
    roundEven_mono (div_le_div_of_nonneg_right h hunit.le)
  exact mul_le_mul_of_nonneg_right (mod_cast hround) hunit.le

theorem roundUnit_of_multiple (hbase : 0 < base) (n : ℤ) :
    roundUnit base exponent (n * (base : ℚ) ^ exponent) = n * (base : ℚ) ^ exponent := by
  unfold roundUnit
  rw [mul_div_cancel_right₀ _ (unit_pos hbase exponent).ne', roundEven_intCast]

theorem roundUnit_of_coarser (hbase : 0 < base) (n : ℤ) {larger : ℤ} (h : exponent ≤ larger) :
    roundUnit base exponent (n * (base : ℚ) ^ larger) = n * (base : ℚ) ^ larger := by
  obtain ⟨k, rfl⟩ := Int.le.dest h
  have hne : (base : ℚ) ≠ 0 := Nat.cast_ne_zero.mpr hbase.ne'
  have hsplit : (n : ℚ) * (base : ℚ) ^ (exponent + k) =
      ((n * (base : ℤ) ^ k : ℤ) : ℚ) * (base : ℚ) ^ exponent := by
    rw [zpow_add₀ hne, zpow_natCast]
    push_cast
    ring
  rw [hsplit, roundUnit_of_multiple hbase]

theorem roundUnit_neg : roundUnit base exponent (-q) = -roundUnit base exponent q := by
  unfold roundUnit
  rw [neg_div, roundEven_neg]
  push_cast
  ring

theorem abs_roundUnit_sub_le (hbase : 0 < base) (exponent : ℤ) (q : ℚ) :
    |roundUnit base exponent q - q| ≤ (base : ℚ) ^ exponent / 2 := by
  have hunit := unit_pos hbase exponent
  have hround := abs_roundEven_sub_le (q / (base : ℚ) ^ exponent)
  have hscale : roundUnit base exponent q - q =
      (roundEven (q / (base : ℚ) ^ exponent) - q / (base : ℚ) ^ exponent) *
        (base : ℚ) ^ exponent := by
    rw [sub_mul, div_mul_cancel₀ _ hunit.ne']
    rfl
  rw [hscale, abs_mul, abs_of_pos hunit]
  calc _ ≤ 1 / 2 * (base : ℚ) ^ exponent := mul_le_mul_of_nonneg_right hround hunit.le
    _ = (base : ℚ) ^ exponent / 2 := by ring

end Units

/-! ## Significant digits -/

/-- The exponent of the last of so many digits of a number, or the least exponent. -/
def lastExponent (base digits : ℕ) (least : ℤ) (q : ℚ) : ℤ :=
  max (Int.log base |q| - (digits - 1)) least

def roundDigits (base digits : ℕ) (least : ℤ) (q : ℚ) : ℚ :=
  roundUnit base (lastExponent base digits least q) q

section Digits

variable {base digits : ℕ} {least : ℤ} {q r : ℚ}

theorem roundDigits_neg :
    roundDigits base digits least (-q) = -roundDigits base digits least q := by
  unfold roundDigits lastExponent
  rw [abs_neg, roundUnit_neg]

@[simp] theorem roundDigits_zero : roundDigits base digits least 0 = 0 := by
  simp [roundDigits, roundUnit]

theorem roundDigits_nonneg (hbase : 0 < base) (h : 0 ≤ q) :
    0 ≤ roundDigits base digits least q := by
  calc (0 : ℚ) = roundUnit base (lastExponent base digits least q) 0 := by simp [roundUnit]
    _ ≤ _ := roundUnit_mono hbase h

/-- A number with at most so many digits is not changed. -/
theorem roundDigits_of_grid (hbase : 1 < base) {n exponent : ℤ} (hn : |n| < (base : ℤ) ^ digits)
    (hleast : least ≤ exponent) :
    roundDigits base digits least (n * (base : ℚ) ^ exponent) = n * (base : ℚ) ^ exponent := by
  by_cases hzero : n = 0
  · simp [hzero]
  refine roundUnit_of_coarser (by omega) n (max_le ?_ hleast)
  have hunit := unit_pos (by omega : 0 < base) exponent
  have hpos : (0 : ℚ) < |(n : ℚ) * (base : ℚ) ^ exponent| :=
    abs_pos.mpr (mul_ne_zero (Int.cast_ne_zero.mpr hzero) hunit.ne')
  have hlog : Int.log base |(n : ℚ) * (base : ℚ) ^ exponent| < digits + exponent := by
    refine (Int.lt_zpow_iff_log_lt hbase hpos).mp ?_
    have hcast : |(n : ℚ)| < (base : ℚ) ^ digits := by exact_mod_cast hn
    rw [abs_mul, abs_of_pos hunit, zpow_add₀ (Nat.cast_ne_zero.mpr (by omega)), zpow_natCast]
    exact mul_lt_mul_of_pos_right hcast hunit
  omega

theorem roundDigits_mono_of_pos (hbase : 1 < base) (hdigits : 0 < digits) (hq : 0 < q)
    (h : q ≤ r) : roundDigits base digits least q ≤ roundDigits base digits least r := by
  have hpos : 0 < base := by omega
  have hr : 0 < r := hq.trans_le h
  have hlog : Int.log base |q| ≤ Int.log base |r| := by
    rw [abs_of_pos hq, abs_of_pos hr]
    exact Int.log_mono_right hq h
  unfold roundDigits
  by_cases hsame : lastExponent base digits least q = lastExponent base digits least r
  · rw [hsame]
    exact roundUnit_mono hpos h
  · -- a power of the base lies between the two numbers
    have hbetween : Int.log base |q| + 1 ≤ Int.log base |r| ∧
        lastExponent base digits least q ≤ Int.log base |r| ∧
        lastExponent base digits least r ≤ Int.log base |r| := by
      unfold lastExponent at hsame ⊢
      omega
    have hpower (exponent : ℤ) (hexponent : exponent ≤ Int.log base |r|) :
        roundUnit base exponent ((base : ℚ) ^ Int.log base |r|) =
          (base : ℚ) ^ Int.log base |r| := by
      simpa using roundUnit_of_coarser hpos 1 hexponent
    have hbelow : q ≤ (base : ℚ) ^ Int.log base |r| := by
      have hnext := Int.lt_zpow_succ_log_self hbase |q|
      rw [abs_of_pos hq] at hnext
      refine hnext.le.trans (zpow_le_zpow_right₀ (by exact_mod_cast hbase.le) ?_)
      rw [abs_of_pos hq] at hbetween
      exact hbetween.1
    have habove : (base : ℚ) ^ Int.log base |r| ≤ r := by
      rw [abs_of_pos hr]
      exact Int.zpow_log_le_self hbase hr
    calc roundUnit base (lastExponent base digits least q) q
        ≤ roundUnit base (lastExponent base digits least q) ((base : ℚ) ^ Int.log base |r|) :=
          roundUnit_mono hpos hbelow
      _ = (base : ℚ) ^ Int.log base |r| := hpower _ hbetween.2.1
      _ = roundUnit base (lastExponent base digits least r) ((base : ℚ) ^ Int.log base |r|) :=
          (hpower _ hbetween.2.2).symm
      _ ≤ roundUnit base (lastExponent base digits least r) r := roundUnit_mono hpos habove

theorem roundDigits_mono (hbase : 1 < base) (hdigits : 0 < digits) (h : q ≤ r) :
    roundDigits base digits least q ≤ roundDigits base digits least r := by
  have hpos : 0 < base := by omega
  rcases lt_or_ge 0 q with hq | hq
  · exact roundDigits_mono_of_pos hbase hdigits hq h
  · have hnegative : roundDigits base digits least q ≤ 0 := by
      have hflip := @roundDigits_nonneg base digits least (-q) hpos (by linarith)
      rw [roundDigits_neg] at hflip
      linarith
    rcases lt_or_ge r 0 with hr | hr
    · have hflip := @roundDigits_mono_of_pos base digits least (-r) (-q) hbase hdigits
        (by linarith) (by linarith)
      rw [roundDigits_neg, roundDigits_neg] at hflip
      linarith
    · exact hnegative.trans (roundDigits_nonneg hpos hr)

/-- A number whose digits do not run out moves by half a unit of its last digit at most. -/
theorem abs_roundDigits_sub_le (hbase : 1 < base)
    (hleast : (base : ℚ) ^ (least + digits - 1) ≤ |q|) :
    |roundDigits base digits least q - q| ≤ |q| * (base : ℚ) ^ (1 - digits : ℤ) / 2 := by
  have hne : (base : ℚ) ≠ 0 := Nat.cast_ne_zero.mpr (by omega)
  have hpos : 0 < |q| := (unit_pos (by omega) _).trans_le hleast
  have hlog : least + digits - 1 ≤ Int.log base |q| :=
    (Int.zpow_le_iff_le_log hbase hpos).mp hleast
  have hlast : lastExponent base digits least q = Int.log base |q| + (1 - digits) := by
    unfold lastExponent
    omega
  have hself : (base : ℚ) ^ Int.log base |q| ≤ |q| := Int.zpow_log_le_self hbase hpos
  unfold roundDigits
  rw [hlast]
  refine (abs_roundUnit_sub_le (by omega) _ q).trans ?_
  rw [zpow_add₀ hne]
  have hunit := unit_pos (by omega : 0 < base) (1 - digits : ℤ)
  gcongr

/-- A rounded number has at most so many digits. -/
theorem exists_grid_roundDigits (hbase : 1 < base) (hdigits : 0 < digits) (q : ℚ) :
    ∃ n exponent : ℤ, |n| < (base : ℤ) ^ digits ∧ least ≤ exponent ∧
      roundDigits base digits least q = n * (base : ℚ) ^ exponent := by
  have hpos : 0 < base := by omega
  set e := lastExponent base digits least q with he
  set n := roundEven (q / (base : ℚ) ^ e) with hn
  have hleast : least ≤ e := le_max_right _ _
  have hunit := unit_pos hpos e
  have hscaled : |q / (base : ℚ) ^ e| < (base : ℚ) ^ digits := by
    rw [abs_div, abs_of_pos hunit, div_lt_iff₀ hunit, ← zpow_natCast, ← zpow_add₀
      (Nat.cast_ne_zero.mpr hpos.ne')]
    refine (Int.lt_zpow_succ_log_self hbase |q|).trans_le
      (zpow_le_zpow_right₀ (by exact_mod_cast hbase.le) ?_)
    have hlast : Int.log base |q| - (digits - 1) ≤ e := le_max_left _ _
    omega
  have hbound : |n| ≤ (base : ℤ) ^ digits := by
    obtain ⟨hlow, hhigh⟩ := abs_lt.mp hscaled
    have hupper := roundEven_mono hhigh.le
    have hlower := roundEven_mono hlow.le
    have hcast : ((base : ℚ) ^ digits) = (((base : ℤ) ^ digits : ℤ) : ℚ) := by push_cast; rfl
    rw [hcast, roundEven_intCast] at hupper
    rw [hcast, ← Int.cast_neg, roundEven_intCast] at hlower
    exact abs_le.mpr ⟨hlower, hupper⟩
  rcases hbound.lt_or_eq with hless | hfull
  · exact ⟨n, e, hless, hleast, rfl⟩
  · -- the digits are full, and one digit less tells the number
    obtain ⟨k, rfl⟩ : ∃ k, digits = k + 1 := ⟨digits - 1, by omega⟩
    have hpower : (base : ℤ) ^ k < (base : ℤ) ^ (k + 1) :=
      pow_lt_pow_right₀ (by exact_mod_cast hbase) (by omega)
    have hnext : (base : ℚ) ^ (e + 1) = (base : ℚ) ^ e * base :=
      zpow_add_one₀ (Nat.cast_ne_zero.mpr hpos.ne') e
    have hround : roundDigits base (k + 1) least q = n * (base : ℚ) ^ e := rfl
    rcases abs_eq (by positivity) |>.mp hfull with hplus | hminus
    · refine ⟨(base : ℤ) ^ k, e + 1, ?_, by omega, ?_⟩
      · rwa [abs_of_nonneg (by positivity)]
      · rw [hround, hplus, hnext]
        push_cast
        ring
    · refine ⟨-(base : ℤ) ^ k, e + 1, ?_, by omega, ?_⟩
      · rwa [abs_neg, abs_of_nonneg (by positivity)]
      · rw [hround, hminus, hnext]
        push_cast
        ring

end Digits

end Effects
