import BubaPaint.Library.Rounding
import Mathlib.Data.Set.Finite.Lattice
import Mathlib.Data.Finite.Prod
import Mathlib.Data.Finite.Sum
import Mathlib.Data.Int.Interval

/-!
# Doubles

Numbers of the IEEE binary format of 64 bits, as values: the rational numbers it has, the two
infinities, and that a result is not a number. The two zeros are one value here. Sums and products
are rounded to the nearest double, and comparisons with no number are false.

Main results:

- Theorem `Double.ofRat_mono`: rounding is monotone
- Theorem `Double.abs_roundDouble_sub_le`: its error far from the subnormal numbers
- Theorem `Double.add_mono`, `Double.le_add`: sums are monotone, and adding a positive
  number leads upwards
- Instance: there are finitely many doubles
-/

namespace Effects

def overflow : ℚ :=
  (2 : ℚ) ^ (1024 : ℤ)

theorem overflow_pos : 0 < overflow :=
  zpow_pos two_pos _

/-- A rational number of the format. -/
def IsDouble (q : ℚ) : Prop :=
  (∃ n exponent : ℤ, |n| < 2 ^ 53 ∧ -1074 ≤ exponent ∧ q = n * (2 : ℚ) ^ exponent) ∧ |q| < overflow

/-- The values of the format. -/
inductive Double where
  | nan
  | negInf
  | posInf
  | finite (value : ℚ) (h : IsDouble value)

namespace Double

/-- A rational number rounded to the digits of the format. -/
def roundDouble (q : ℚ) : ℚ :=
  roundDigits 2 53 (-1074) q

theorem isDouble_roundDouble {q : ℚ} (h : |roundDouble q| < overflow) :
    IsDouble (roundDouble q) := by
  obtain ⟨n, exponent, hn, hleast, hround⟩ :=
    @exists_grid_roundDigits 2 53 (-1074) (by decide) (by decide) q
  exact ⟨⟨n, exponent, by exact_mod_cast hn, hleast, by exact_mod_cast hround⟩, h⟩

theorem roundDouble_of_isDouble {q : ℚ} (h : IsDouble q) : roundDouble q = q := by
  obtain ⟨⟨n, exponent, hn, hleast, rfl⟩, -⟩ := h
  exact_mod_cast @roundDigits_of_grid 2 53 (-1074) (by decide) n exponent (by exact_mod_cast hn)
    hleast

theorem roundDouble_mono {q r : ℚ} (h : q ≤ r) : roundDouble q ≤ roundDouble r :=
  roundDigits_mono (by decide) (by decide) h

@[simp] theorem roundDouble_zero : roundDouble 0 = 0 :=
  roundDigits_zero

theorem roundDouble_nonneg {q : ℚ} (h : 0 ≤ q) : 0 ≤ roundDouble q :=
  roundDigits_nonneg (by decide) h

/-- A number far from the subnormal ones moves by one part in 2 ^ 53 at most. -/
theorem abs_roundDouble_sub_le {q : ℚ} (h : 1 / 2 ^ 20 ≤ q) :
    |roundDouble q - q| ≤ q / 2 ^ 53 := by
  have hpos : 0 < q := lt_of_lt_of_le (by norm_num) h
  have hleast : ((2 : ℕ) : ℚ) ^ (-1074 + (53 : ℕ) - 1 : ℤ) ≤ |q| := by
    rw [abs_of_pos hpos]
    calc ((2 : ℕ) : ℚ) ^ (-1074 + (53 : ℕ) - 1 : ℤ) ≤ ((2 : ℕ) : ℚ) ^ (-20 : ℤ) :=
          zpow_le_zpow_right₀ (by norm_num) (by norm_num)
      _ = 1 / 2 ^ 20 := by norm_num
      _ ≤ q := h
  have hbound := @abs_roundDigits_sub_le 2 53 (-1074) q one_lt_two hleast
  rw [abs_of_pos hpos] at hbound
  refine hbound.trans (le_of_eq ?_)
  norm_num
  ring

theorem le_roundDouble {q : ℚ} (h : 1 / 2 ^ 20 ≤ q) : 1 / 2 ^ 20 ≤ roundDouble q := by
  have hunit : roundDouble (1 / 2 ^ 20) = 1 / 2 ^ 20 := by
    refine roundDouble_of_isDouble ⟨⟨1, -20, by decide, by decide, by norm_num⟩, ?_⟩
    calc |(1 : ℚ) / 2 ^ 20| = 2 ^ (-20 : ℤ) := by norm_num
      _ < overflow := zpow_lt_zpow_right₀ one_lt_two (by decide)
  rw [← hunit]
  exact roundDouble_mono h

/-- The double nearest to a rational number, or an infinity. -/
def ofRat (q : ℚ) : Double :=
  if h : |roundDouble q| < overflow then .finite (roundDouble q) (isDouble_roundDouble h)
  else if 0 < q then .posInf
  else .negInf

/-- The first value is at most the second one. -/
def le : Double → Double → Bool
  | .nan, _ => false
  | _, .nan => false
  | .negInf, _ => true
  | _, .posInf => true
  | .finite a _, .finite b _ => a ≤ b
  | _, _ => false

/-- The first value is less than the second one. -/
def lt (a b : Double) : Bool :=
  a.le b && !b.le a

def isNan : Double → Bool
  | .nan => true
  | _ => false

/-- The sum. -/
def add : Double → Double → Double
  | .nan, _ => .nan
  | _, .nan => .nan
  | .posInf, .negInf => .nan
  | .negInf, .posInf => .nan
  | .posInf, _ => .posInf
  | _, .posInf => .posInf
  | .negInf, _ => .negInf
  | _, .negInf => .negInf
  | .finite a _, .finite b _ => ofRat (a + b)

def infinity (sign : ℚ) : Double :=
  if 0 < sign then .posInf else if sign < 0 then .negInf else .nan

/-- The product. -/
def mul : Double → Double → Double
  | .nan, _ => .nan
  | _, .nan => .nan
  | .finite a _, .finite b _ => ofRat (a * b)
  | .finite a _, .posInf => infinity a
  | .finite a _, .negInf => infinity (-a)
  | .posInf, .finite b _ => infinity b
  | .negInf, .finite b _ => infinity (-b)
  | .posInf, .posInf => .posInf
  | .negInf, .negInf => .posInf
  | _, _ => .negInf

theorem zero_isDouble : IsDouble 0 :=
  ⟨⟨0, 0, by decide, by decide, by simp⟩, by simpa using overflow_pos⟩

def zero : Double :=
  .finite 0 zero_isDouble

attribute [local simp] le add mul

variable {a b c step : Double} {q r : ℚ}

theorem ne_nan_of_le (h : a.le b = true) : a ≠ .nan ∧ b ≠ .nan := by
  cases a <;> cases b <;> simp_all

theorem lt_eq_not_le (ha : a.isNan = false) (hb : b.isNan = false) : a.lt b = !b.le a := by
  cases a <;> cases b <;> simp_all [lt, isNan]
  exact fun h => h.le

theorem le_refl (h : a ≠ .nan) : a.le a = true := by
  cases a <;> simp_all

theorem le_trans (hab : a.le b = true) (hbc : b.le c = true) : a.le c = true := by
  cases a <;> cases b <;> cases c <;> simp_all
  exact hab.trans hbc

theorem le_posInf (h : a ≠ .nan) : a.le .posInf = true := by
  cases a <;> simp_all

theorem le_antisymm (hab : a.le b = true) (hba : b.le a = true) : a = b := by
  cases a <;> cases b <;> simp_all
  exact hab.antisymm hba

@[simp] theorem ofRat_ne_nan : ofRat q ≠ .nan := by
  unfold ofRat
  split
  · simp
  · split <;> simp

theorem ofRat_of_isDouble (h : IsDouble q) : ofRat q = .finite q h := by
  unfold ofRat
  have hround := roundDouble_of_isDouble h
  rw [dif_pos (by rw [hround]; exact h.2)]
  simp [hround]

/-- Rounding is monotone. -/
theorem ofRat_mono (h : q ≤ r) : (ofRat q).le (ofRat r) = true := by
  have hround := roundDouble_mono h
  have hzero := roundDouble_zero
  unfold ofRat
  split
  · rename_i hq
    split
    · simpa [le] using hround
    · rename_i hr
      split
      · simp
      · -- the larger number cannot overflow below
        rename_i hneg
        have hbelow := roundDouble_mono (not_lt.mp hneg)
        rw [hzero] at hbelow
        rw [not_lt, abs_of_nonpos hbelow] at hr
        have hlow := (abs_lt.mp hq).1
        linarith
  · rename_i hq
    split
    · rename_i hpos
      have habove := roundDouble_mono hpos.le
      rw [hzero] at habove
      rw [not_lt, abs_of_nonneg habove] at hq
      have hr : ¬|roundDouble r| < overflow := by
        rw [not_lt, abs_of_nonneg (habove.trans hround)]
        exact hq.trans hround
      rw [dif_neg hr, if_pos (hpos.trans_le h)]
      rfl
    · split
      · rfl
      · split <;> rfl

/-- Sums are monotone as long as they are numbers. -/
theorem add_mono (h : a.le b = true) (ha : a.add step ≠ .nan) (hb : b.add step ≠ .nan) :
    (a.add step).le (b.add step) = true := by
  cases a <;> cases b <;> cases step <;> simp_all
  · exact le_posInf ofRat_ne_nan
  · exact ofRat_mono (by linarith)

/-- Adding a positive number leads upwards. -/
theorem le_add (hstep : step.le zero = false) (h : a.add step ≠ .nan) :
    a.le (a.add step) = true := by
  cases a <;> cases step <;> simp_all [zero]
  rename_i value hvalue other _
  rw [← ofRat_of_isDouble hvalue]
  exact ofRat_mono (by linarith)

theorem add_finite_ne_nan {value : ℚ} {hvalue : IsDouble value} (h : a ≠ .nan) :
    a.add (.finite value hvalue) ≠ .nan := by
  cases a <;> simp_all

theorem add_add_ne_nan (hstep : step.le zero = false) (h : a.add step ≠ .nan) :
    (a.add step).add step ≠ .nan := by
  cases step with
  | nan => cases a <;> simp at h
  | negInf => simp [zero] at hstep
  | posInf => cases a <;> simp_all
  | finite value hvalue => exact add_finite_ne_nan h

theorem posInf_add (h : zero.le a = true) : Double.posInf.add a = .posInf := by
  cases a <;> simp_all [zero]

theorem zero_le_ofRat (h : 0 ≤ q) : zero.le (ofRat q) = true := by
  have hzero := ofRat_mono h
  rwa [ofRat_of_isDouble zero_isDouble] at hzero

theorem zero_le_mul (ha : zero.le a = true) (hb : zero.le b = true) (h : a.mul b ≠ .nan) :
    zero.le (a.mul b) = true := by
  cases a <;> cases b <;> simp_all [zero]
  · rename_i value _
    unfold infinity at h ⊢
    split_ifs at h ⊢ <;> simp_all
    linarith
  · rename_i value _
    unfold infinity at h ⊢
    split_ifs at h ⊢ <;> simp_all
    linarith
  · exact zero_le_ofRat (mul_nonneg ha hb)

theorem finite_isDouble : {q : ℚ | IsDouble q}.Finite := by
  refine ((Set.finite_Icc (-2 ^ 53 : ℤ) (2 ^ 53)).prod (Set.finite_Icc (-1074 : ℤ) 1024)).image
    (fun p => (p.1 : ℚ) * (2 : ℚ) ^ p.2) |>.subset ?_
  rintro q ⟨⟨n, exponent, hn, hleast, rfl⟩, hbound⟩
  by_cases hzero : n = 0
  · exact ⟨(0, 0), by simp [hzero]⟩
  · refine ⟨(n, exponent), ⟨?_, hleast, ?_⟩, rfl⟩
    · exact ⟨(abs_lt.mp hn).1.le, (abs_lt.mp hn).2.le⟩
    · have hone : (1 : ℚ) ≤ |(n : ℚ)| := by exact_mod_cast Int.one_le_abs hzero
      have hunit : (0 : ℚ) < (2 : ℚ) ^ exponent := zpow_pos two_pos _
      have hpower : (2 : ℚ) ^ exponent < (2 : ℚ) ^ (1024 : ℤ) := by
        calc (2 : ℚ) ^ exponent = 1 * (2 : ℚ) ^ exponent := (one_mul _).symm
          _ ≤ |(n : ℚ)| * (2 : ℚ) ^ exponent := by gcongr
          _ = |(n : ℚ) * (2 : ℚ) ^ exponent| := by rw [abs_mul, abs_of_pos hunit]
          _ < (2 : ℚ) ^ (1024 : ℤ) := hbound
      exact ((zpow_lt_zpow_iff_right₀ one_lt_two).mp hpower).le

/-- A value by its rational number or its kind. -/
def code : Double → {q : ℚ // IsDouble q} ⊕ Fin 3
  | .nan => .inr 0
  | .negInf => .inr 1
  | .posInf => .inr 2
  | .finite value h => .inl ⟨value, h⟩

instance : Finite Double := by
  have hvalues : Finite {q : ℚ // IsDouble q} := finite_isDouble
  refine Finite.of_injective code fun a b h => ?_
  cases a <;> cases b <;> simp_all [code]

end Double

end Effects
