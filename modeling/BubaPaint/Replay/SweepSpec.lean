import BubaPaint.Library.Doubles
import BubaPaint.Live.OrderSubmission

/-!
# Sweep specifications

A sweep specification names a parameter and its values, either one by one or as a range. A range is
walked from its start in equal steps. The walk is in doubles, where a step can be too small to lead
on, and infinity leads nowhere; there it never comes to its end.

Main results:

- Theorem `SweepRange.leaves_iff`: a walk in doubles comes to its end exactly if it advances
- Theorem `sweepLoop_exact`: the values of a walk in exact arithmetic
- Theorem `parseSweepSpec_expands_iff`: which specifications expand
- Theorem `parseSweepSpec_infinite`: a range that never ends
-/

namespace BubaPaint

open Effects Double

/-- One parameter of a sweep with its values. -/
structure SweepDimension where
  param : String
  values : List Double

/-- The numbers of a range. -/
structure SweepRange where
  start : Double
  stop : Double
  step : Double

/-- Why a specification is refused. -/
inductive SweepSpecError where
  | invalidFormat (spec : String)
  | invalidListNumber (text : String)
  | invalidRange (range : String)
  | invalidStart
  | invalidEnd
  | invalidStep
  | stepNotPositive (step : Double)

/-- Parse one floating-point literal, also of an infinity or of no number. -/
def parseDouble (text : String) : Option Double :=
  match parseDecimal text with
  | some value => some (.ofRat value)
  | none =>
    let (negative, unsigned) := splitSign text.toList
    let name := String.ofList (unsigned.map Char.toLower)
    if name = "inf" ∨ name = "infinity" then some (if negative then .negInf else .posInf)
    else if name = "nan" then some .nan
    else none

def parseSweepList (texts : List String) : Except SweepSpecError (List Double) :=
  texts.mapM fun text =>
    match parseDouble text with
    | some value => .ok value
    | none => .error (.invalidListNumber text)

/-- The numbers of a range, whose step is not zero or negative. -/
def parseSweepRange (start stop step : String) : Except SweepSpecError SweepRange := do
  let start ← (parseDouble start).elim (.error .invalidStart) .ok
  let stop ← (parseDouble stop).elim (.error .invalidEnd) .ok
  let step ← (parseDouble step).elim (.error .invalidStep) .ok
  if step.le .zero then .error (.stepNotPositive step)
  else return { start, stop, step }

/-- Everything a specification says before the walk of a range: the parameter, and its values or
the range. -/
def readSweepSpec (spec : String) : Except SweepSpecError (String × (List Double ⊕ SweepRange)) :=
  let (param, rest) := spec.toList.span (· ≠ '=')
  match rest with
  | [] => .error (.invalidFormat spec)
  | _ :: range =>
    let parts (separator : Char) := (range.splitOn separator).map String.ofList
    if ',' ∈ range then do
      let values ← parseSweepList (parts ',')
      return (String.ofList param, .inl values)
    else
      match parts ':' with
      | [start, stop, step] => do
          let range ← parseSweepRange start stop step
          return (String.ofList param, .inr range)
      | _ => .error (.invalidRange (String.ofList range))

/-- Collect values in equal steps up to a limit, within so many rounds. -/
def sweepLoop {α : Type} (le : α → α → Bool) (add : α → α → α) (clean : α → α) (limit step : α) :
    ℕ → α → Option (List α)
  | 0, _ => none
  | rounds + 1, v =>
    if le v limit then
      (sweepLoop le add clean limit step rounds (add v step)).map (clean v :: ·)
    else some []

/-- A value written with eleven significant digits and read again. -/
def cleanDouble : Double → Double
  | .finite value _ => .ofRat (roundDigits 10 11 (-334) value)
  | v => v

/-- The last value of a range, and a bit more for rounding. -/
def SweepRange.limit (range : SweepRange) : Double :=
  range.stop.add (range.step.mul (.ofRat (1 / 1000)))

/-- The values of a range, if the walk ends within so many rounds. -/
def SweepRange.values (range : SweepRange) (rounds : ℕ) : Option (List Double) :=
  sweepLoop Double.le Double.add cleanDouble range.limit range.step rounds range.start

/-- Parse a sweep specification, within so many rounds of the loop. -/
def parseSweepSpec (rounds : ℕ) (spec : String) : Option (Except SweepSpecError SweepDimension) :=
  match readSweepSpec spec with
  | .error error => some (.error error)
  | .ok (param, .inl values) => some (.ok { param, values })
  | .ok (param, .inr range) => (range.values rounds).map fun values => .ok { param, values }

/-! ## When a walk ends -/

section Walks

variable {α : Type} {le : α → α → Bool} {add : α → α → α} {clean : α → α} {limit step : α}

theorem sweepLoop_isSome_iff (rounds : ℕ) (v : α) :
    (sweepLoop le add clean limit step rounds v).isSome = true ↔
      ∃ n < rounds, le ((add · step)^[n] v) limit = false := by
  induction rounds generalizing v with
  | zero => simp [sweepLoop]
  | succ rounds ih =>
    unfold sweepLoop
    by_cases hle : le v limit = true
    · rw [if_pos hle, Option.isSome_map, ih]
      constructor
      · rintro ⟨n, hn, hbeyond⟩
        exact ⟨n + 1, by omega, hbeyond⟩
      · rintro ⟨n, hn, hbeyond⟩
        cases n with
        | zero => simp [hle] at hbeyond
        | succ n => exact ⟨n, by omega, hbeyond⟩
    · rw [if_neg hle]
      simp only [Option.isSome_some, true_iff]
      exact ⟨0, by omega, by simpa using hle⟩

theorem exists_sweepLoop_iff (v : α) :
    (∃ rounds, (sweepLoop le add clean limit step rounds v).isSome = true) ↔
      ∃ n, le ((add · step)^[n] v) limit = false := by
  constructor
  · rintro ⟨rounds, hsome⟩
    obtain ⟨n, -, hbeyond⟩ := (sweepLoop_isSome_iff rounds v).mp hsome
    exact ⟨n, hbeyond⟩
  · rintro ⟨n, hbeyond⟩
    exact ⟨n + 1, (sweepLoop_isSome_iff _ v).mpr ⟨n, by omega, hbeyond⟩⟩

theorem sweepLoop_eq {n : ℕ} {v : α} (hin : ∀ k < n, le ((add · step)^[k] v) limit = true)
    (hout : le ((add · step)^[n] v) limit = false) :
    sweepLoop le add clean limit step (n + 1) v =
      some ((List.range n).map fun k => clean ((add · step)^[k] v)) := by
  induction n generalizing v with
  | zero =>
    have hbeyond : le v limit = false := hout
    simp [sweepLoop, hbeyond]
  | succ n ih =>
    have hfirst : le v limit = true := hin 0 (by omega)
    have hrest := ih (v := add v step) (fun k hk => hin (k + 1) (by omega)) hout
    rw [sweepLoop, if_pos hfirst, hrest, List.range_succ_eq_map]
    simp [Function.comp_def]

end Walks

namespace SweepRange

variable {range : SweepRange}

/-- No value of the range is left where it is by a step; or the first step leads nowhere, from
minus infinity by infinity. -/
def Advances (range : SweepRange) : Prop :=
  range.start.add range.step = .nan ∨
    ∀ v : Double, range.start.le v = true → v.le range.limit = true → v.add range.step ≠ v

/-- The value after so many steps. -/
def walk (range : SweepRange) (n : ℕ) : Double :=
  (Double.add · range.step)^[n] range.start

theorem walk_succ (n : ℕ) : range.walk (n + 1) = (range.walk n).add range.step :=
  Function.iterate_succ_apply' _ n range.start

theorem walk_le_of_fixed (hstep : range.step.le .zero = false)
    (hfirst : range.start.add range.step ≠ .nan) {v : Double} (hstart : range.start.le v = true)
    (hfixed : v.add range.step = v) (n : ℕ) :
    (range.walk n).le v = true ∧ (range.walk n).add range.step ≠ .nan := by
  induction n with
  | zero => exact ⟨hstart, hfirst⟩
  | succ n ih =>
    have hv := (ne_nan_of_le hstart).2
    rw [walk_succ]
    constructor
    · calc ((range.walk n).add range.step).le v
          = ((range.walk n).add range.step).le (v.add range.step) := by rw [hfixed]
        _ = true := add_mono ih.1 ih.2 (by rwa [hfixed])
    · exact add_add_ne_nan hstep ih.2

theorem walk_lt_succ (hstep : range.step.le .zero = false)
    (hadvances : ∀ v : Double, range.start.le v = true → v.le range.limit = true →
      v.add range.step ≠ v) (hin : ∀ n, (range.walk n).le range.limit = true) (n : ℕ) :
    range.start.le (range.walk n) = true ∧ (range.walk n).le (range.walk (n + 1)) = true ∧
      range.walk n ≠ range.walk (n + 1) := by
  have hup (m : ℕ) : (range.walk m).le (range.walk (m + 1)) = true := by
    rw [walk_succ]
    refine le_add hstep ?_
    rw [← walk_succ]
    exact (ne_nan_of_le (hin (m + 1))).1
  have hstart (m : ℕ) : range.start.le (range.walk m) = true := by
    induction m with
    | zero => exact Double.le_refl (ne_nan_of_le (hin 0)).1
    | succ m ih => exact Double.le_trans ih (hup m)
  refine ⟨hstart n, hup n, fun hsame => ?_⟩
  rw [walk_succ] at hsame
  exact hadvances (range.walk n) (hstart n) (hin n) hsame.symm

theorem walk_mono {m n : ℕ} (hup : ∀ k, (range.walk k).le (range.walk (k + 1)) = true)
    (h : m ≤ n) : (range.walk m).le (range.walk n) = true := by
  induction n, h using Nat.le_induction with
  | base => exact Double.le_refl (ne_nan_of_le (hup m)).1
  | succ n _ ih => exact Double.le_trans ih (hup n)

/-- A walk leaves its range exactly if it advances: there are finitely many doubles to pass. -/
theorem leaves_iff (hstep : range.step.le .zero = false) :
    (∃ n, (range.walk n).le range.limit = false) ↔ range.Advances := by
  constructor
  · rintro ⟨n, hbeyond⟩
    by_contra hstuck
    unfold Advances at hstuck
    push Not at hstuck
    obtain ⟨hfirst, v, hstart, hlimit, hfixed⟩ := hstuck
    have hle := (walk_le_of_fixed hstep hfirst hstart hfixed n).1
    rw [Double.le_trans hle hlimit] at hbeyond
    cases hbeyond
  · rintro (hnan | hadvances)
    · refine ⟨1, ?_⟩
      rw [walk_succ]
      change (range.start.add range.step).le range.limit = false
      rw [hnan]
      rfl
    · by_contra hin
      push Not at hin
      simp only [ne_eq, Bool.not_eq_false] at hin
      have hwalk := walk_lt_succ hstep hadvances hin
      refine not_injective_infinite_finite range.walk fun m n hsame => ?_
      by_contra hne
      wlog hless : m < n generalizing m n
      · exact this n m hsame.symm (Ne.symm hne) (by omega)
      -- between equal values the walk stands still
      have hback := walk_mono (fun k => (hwalk k).2.1) hless
      rw [← hsame] at hback
      exact (hwalk m).2.2 (Double.le_antisymm (hwalk m).2.1 hback)

end SweepRange

theorem step_of_parseSweepRange {start stop step : String} {range : SweepRange}
    (h : parseSweepRange start stop step = .ok range) : range.step.le .zero = false := by
  rcases ok_of_bind h with ⟨first, -, h⟩
  rcases ok_of_bind h with ⟨last, -, h⟩
  rcases ok_of_bind h with ⟨width, -, h⟩
  rcases ok_of_refuse h with ⟨hpositive, h⟩
  cases h
  simpa using hpositive

theorem step_of_readSweepSpec {spec param : String} {range : SweepRange}
    (h : readSweepSpec spec = .ok (param, .inr range)) : range.step.le .zero = false := by
  unfold readSweepSpec at h
  split at h
  rename_i name rest _
  split at h
  · cases h
  · dsimp only at h
    split at h
    · rcases ok_of_bind h with ⟨values, -, h⟩
      cases h
    · split at h
      · rcases ok_of_bind h with ⟨found, hfound, h⟩
        cases h
        exact step_of_parseSweepRange hfound
      · cases h

theorem iterate_add (start step : ℚ) (k : ℕ) : (· + step)^[k] start = start + k * step := by
  induction k with
  | zero => simp
  | succ k ih =>
    rw [Function.iterate_succ_apply', ih]
    push_cast
    ring

/-- In exact arithmetic a walk in positive steps has exactly the values up to its limit. -/
theorem sweepLoop_exact {start limit step : ℚ} (hstep : 0 < step) :
    ∃ rounds n, sweepLoop (fun a b : ℚ => decide (a ≤ b)) (· + ·) id limit step rounds start =
        some ((List.range n).map fun k : ℕ => start + k * step) ∧
      ∀ k : ℕ, start + k * step ≤ limit ↔ k < n := by
  obtain ⟨n, hn⟩ : ∃ n : ℕ, ∀ k : ℕ, start + k * step ≤ limit ↔ k < n := by
    by_cases hempty : start ≤ limit
    · refine ⟨⌊(limit - start) / step⌋₊ + 1, fun k => ?_⟩
      have hroom : 0 ≤ (limit - start) / step := div_nonneg (by linarith) hstep.le
      rw [Nat.lt_succ_iff, Nat.le_floor_iff hroom, le_div_iff₀ hstep]
      constructor <;> intro h <;> linarith
    · refine ⟨0, fun k => ?_⟩
      have hforward : 0 ≤ (k : ℚ) * step := by positivity
      simp only [Nat.not_lt_zero, iff_false, not_le]
      linarith
  refine ⟨n + 1, n, ?_, hn⟩
  have hwalk := @sweepLoop_eq ℚ (fun a b => decide (a ≤ b)) (· + ·) id limit step n start
    (fun k hk => by simpa [iterate_add] using (hn k).mpr hk)
    (by simpa [iterate_add] using mt (hn n).mp (lt_irrefl n))
  simpa [iterate_add] using hwalk

/-! ## Which specifications expand -/

/-- A specification expands exactly if its range, if it has one, advances; and in exact arithmetic
every range does, to the values in equal steps from its start to its end and a thousandth of the
step. -/
theorem parseSweepSpec_expands_iff (spec : String) :
    ((∃ rounds, (parseSweepSpec rounds spec).isSome = true) ↔
      ∀ param range, readSweepSpec spec = .ok (param, .inr range) → range.Advances) ∧
    ∀ start stop step : ℚ, 0 < step →
      ∃ rounds n, sweepLoop (fun a b : ℚ => decide (a ≤ b)) (· + ·) id (stop + step / 1000) step
          rounds start = some ((List.range n).map fun k : ℕ => start + k * step) ∧
        ∀ k : ℕ, start + k * step ≤ stop + step / 1000 ↔ k < n := by
  refine ⟨?_, fun start stop step hstep => sweepLoop_exact hstep⟩
  unfold parseSweepSpec
  cases hread : readSweepSpec spec with
  | error error => simp
  | ok read =>
    obtain ⟨param, values | range⟩ := read
    · simp
    · have hstep := step_of_readSweepSpec hread
      simp only [Option.isSome_map, SweepRange.values, exists_sweepLoop_iff]
      change (∃ n, (range.walk n).le range.limit = false) ↔ _
      rw [SweepRange.leaves_iff hstep]
      constructor
      · rintro hadvances name found hfound
        cases hfound
        exact hadvances
      · exact fun h => h param range rfl

theorem one_isDouble : IsDouble 1 := by
  refine ⟨⟨1, 0, by decide, by decide, by simp⟩, ?_⟩
  calc |(1 : ℚ)| = (2 : ℚ) ^ (0 : ℤ) := by simp
    _ < overflow := zpow_lt_zpow_right₀ one_lt_two (by decide)

def unboundedRange : SweepRange where
  start := .ofRat 0
  stop := .posInf
  step := .ofRat 1

theorem unboundedRange_step : unboundedRange.step = .finite 1 one_isDouble :=
  ofRat_of_isDouble one_isDouble

theorem readSweepSpec_unbounded : readSweepSpec "x=0:inf:1" = .ok ("x", .inr unboundedRange) := by
  have hstart : parseDouble "0" = some unboundedRange.start := by
    have hzero : parseDecimal "0" = some 0 := by decide +kernel
    simp [parseDouble, hzero, unboundedRange]
  have hstop : parseDouble "inf" = some unboundedRange.stop := by
    have hnot : parseDecimal "inf" = none := by decide +kernel
    unfold parseDouble
    rw [hnot]
    rfl
  have hstep : parseDouble "1" = some unboundedRange.step := by
    have hone : parseDecimal "1" = some 1 := by decide +kernel
    simp [parseDouble, hone, unboundedRange]
  have hpositive : unboundedRange.step.le .zero = false := by
    rw [unboundedRange_step]
    decide +kernel
  have hread : parseSweepRange "0" "inf" "1" = .ok unboundedRange := by
    unfold parseSweepRange
    rw [hstart, hstop, hstep]
    dsimp only [Option.elim, bind, Except.bind]
    rw [hpositive]
    rfl
  have hparts : "x=0:inf:1".toList.span (· ≠ '=') = (['x'], '=' :: "0:inf:1".toList) := by
    decide +kernel
  have hrange : ("0:inf:1".toList.splitOn ':').map String.ofList = ["0", "inf", "1"] := by
    decide +kernel
  unfold readSweepSpec
  rw [hparts]
  dsimp only
  rw [if_neg (by decide +kernel), hrange]
  dsimp only [bind, Except.bind]
  rw [hread]
  rfl

theorem unboundedRange_stuck : ¬unboundedRange.Advances := by
  have hstep : zero.le unboundedRange.step = true := zero_le_ofRat zero_le_one
  rintro (hnan | hadvances)
  · rw [unboundedRange_step] at hnan
    exact add_finite_ne_nan ofRat_ne_nan hnan
  · have hnumber : unboundedRange.step.mul (.ofRat (1 / 1000)) ≠ .nan := by
      rw [unboundedRange_step]
      cases hthousandth : ofRat (1 / 1000) with
      | nan => exact absurd hthousandth ofRat_ne_nan
      | negInf =>
        have hnegative : ¬(0 : ℚ) < -1 := by norm_num
        simp [mul, infinity, hnegative]
      | posInf => simp [mul, infinity]
      | finite value h => exact ofRat_ne_nan
    have hlimit : unboundedRange.limit = .posInf :=
      posInf_add (zero_le_mul hstep (zero_le_ofRat (by norm_num)) hnumber)
    refine hadvances .posInf (le_posInf ofRat_ne_nan) ?_ (posInf_add hstep)
    rw [hlimit]
    rfl

/-- A range without an upper end never expands. -/
theorem parseSweepSpec_infinite : ¬∃ rounds, (parseSweepSpec rounds "x=0:inf:1").isSome = true := by
  rintro ⟨rounds, hparsed⟩
  have hpositive := step_of_readSweepSpec readSweepSpec_unbounded
  have hnone : unboundedRange.values rounds = none := by
    by_contra hsome
    rw [← ne_eq, Option.ne_none_iff_isSome] at hsome
    have hleaves := (exists_sweepLoop_iff _).mp ⟨rounds, hsome⟩
    exact unboundedRange_stuck ((SweepRange.leaves_iff hpositive).mp hleaves)
  unfold parseSweepSpec at hparsed
  rw [readSweepSpec_unbounded] at hparsed
  simp [hnone] at hparsed

end BubaPaint
