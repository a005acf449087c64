import Mathlib.Data.List.Basic
import Mathlib.Tactic.Ring

/-!
# Self-delimiting byte formats

A reader consumes a prefix of the bytes it is given. It reads a value from some bytes when, whatever
follows, it consumes exactly these bytes and gives the value; readers of this kind compose.

Main results:

- Definitions `Bytes.Reader`, `Bytes.Reads`: readers and what they read
- Theorem `Bytes.ofLeBytes_leBytes`: little-endian words
- Theorems `Bytes.Reads.bind`, `Bytes.reads_readLe`, `Bytes.reads_readMany`: the
  rules of composition
-/

universe u

namespace Bytes

def leBytes : ℕ → ℕ → List UInt8
  | 0, _ => []
  | width + 1, n => UInt8.ofNat n :: leBytes width (n / 256)

def ofLeBytes : List UInt8 → ℕ
  | [] => 0
  | byte :: rest => byte.toNat + 256 * ofLeBytes rest

@[simp]
theorem length_leBytes (width n : ℕ) : (leBytes width n).length = width := by
  induction width generalizing n with
  | zero => rfl
  | succ width ih => simp [leBytes, ih]

/-- A number that fits is read back from its bytes. -/
theorem ofLeBytes_leBytes {width n : ℕ} (h : n < 256 ^ width) :
    ofLeBytes (leBytes width n) = n := by
  induction width generalizing n with
  | zero =>
    have hzero : n = 0 := by simpa using h
    simp [leBytes, ofLeBytes, hzero]
  | succ width ih =>
    have hrest : n / 256 < 256 ^ width := by
      rw [pow_succ] at h
      omega
    have hbyte : (UInt8.ofNat n).toNat = n % 256 := by simp
    simp only [leBytes, ofLeBytes, ih hrest, hbyte]
    omega

/-! ## Readers -/

/-- A reader consumes a prefix of its input or fails. -/
abbrev Reader (ε : Type) (α : Type) := StateT (List UInt8) (Except ε) α

variable {ε α β : Type}
variable {reader : Reader ε α} {bytes : List UInt8} {value : α} {values : List α} {result : β}

/-- A reader reads a value from bytes, whatever follows them. -/
def Reads (reader : Reader ε α) (bytes : List UInt8) (value : α) : Prop :=
  ∀ rest, reader.run (bytes ++ rest) = .ok (value, rest)

def readBytes (truncated : ε) (count : ℕ) : Reader ε (List UInt8) := do
  let bytes ← get
  if bytes.length < count then throw truncated
  else
    set (bytes.drop count)
    return bytes.take count

def readLe (truncated : ε) (width : ℕ) : Reader ε ℕ := do
  let bytes ← readBytes truncated width
  return ofLeBytes bytes

def readMany : ℕ → Reader ε α → Reader ε (List α)
  | 0, _ => return []
  | count + 1, reader => do
      let value ← reader
      let values ← readMany count reader
      return value :: values

/-- Check that the input is used up. -/
def finish (trailing : ε) : Reader ε Unit := do
  let bytes ← get
  if bytes.isEmpty then return () else throw trailing

theorem reads_pure (value : α) : Reads (pure value : Reader ε α) [] value :=
  fun _ => rfl

/-- What is read first is followed by what is read next. -/
theorem Reads.bind {next : α → Reader ε β} {first second : List UInt8}
    (hfirst : Reads reader first value) (hsecond : Reads (next value) second result) :
    Reads (reader >>= next) (first ++ second) result := by
  intro rest
  have hread := hfirst (second ++ rest)
  rw [List.append_assoc, StateT.run_bind, hread]
  exact hsecond rest

theorem Reads.followed {next : α → Reader ε β} (hfirst : Reads reader bytes value)
    (hsecond : Reads (next value) [] result) : Reads (reader >>= next) bytes result := by
  have hread := hfirst.bind hsecond
  rwa [List.append_nil] at hread

theorem Reads.map (f : α → β) (h : Reads reader bytes value) :
    Reads (reader >>= fun value => pure (f value)) bytes (f value) := by
  apply h.followed
  exact reads_pure (f value)

theorem reads_readBytes (truncated : ε) (bytes : List UInt8) :
    Reads (readBytes truncated bytes.length) bytes bytes := by
  intro rest
  have hlong : ¬ (bytes ++ rest).length < bytes.length := by
    rw [List.length_append]
    omega
  simp only [readBytes, StateT.run_bind, StateT.run_get, pure_bind, if_neg hlong, StateT.run_set,
    StateT.run_pure, List.drop_left, List.take_left]
  rfl

theorem reads_readLe (truncated : ε) {width n : ℕ} (h : n < 256 ^ width) :
    Reads (readLe truncated width) (leBytes width n) n := by
  have hbytes := reads_readBytes truncated (leBytes width n)
  rw [length_leBytes] at hbytes
  have hword := hbytes.map ofLeBytes
  rw [ofLeBytes_leBytes h] at hword
  exact hword

/-- Write one value after another; fail with the first that fails. -/
def writeAll (write : α → Except ε (List UInt8)) : List α → Except ε (List UInt8)
  | [] => .ok []
  | value :: values => do
      let first ← write value
      let rest ← writeAll write values
      return first ++ rest

theorem writeAll_cons_eq_ok {write : α → Except ε (List UInt8)}
    (h : writeAll write (value :: values) = .ok bytes) :
    ∃ first rest, write value = .ok first ∧ writeAll write values = .ok rest ∧
      bytes = first ++ rest := by
  simp only [writeAll] at h
  cases hfirst : write value with
  | error error => simp [hfirst, bind, Except.bind] at h
  | ok first =>
    cases hrest : writeAll write values with
    | error error => simp [hfirst, hrest, bind, Except.bind] at h
    | ok rest =>
      simp only [hfirst, hrest, bind, Except.bind, pure, Except.pure, Except.ok.injEq] at h
      exact ⟨first, rest, rfl, rfl, h.symm⟩

/-- What was written one after another is read back one after another. -/
theorem reads_readMany {write : α → Except ε (List UInt8)} {reader : Reader ε β}
    {Same : α → β → Prop} (hwrite : writeAll write values = .ok bytes)
    (hread : ∀ value ∈ values, ∀ own, write value = .ok own →
      ∃ result, Same value result ∧ Reads reader own result) :
    ∃ results, List.Forall₂ Same values results ∧
      Reads (readMany values.length reader) bytes results := by
  induction values generalizing bytes with
  | nil =>
    have hnil : bytes = [] := by
      simp only [writeAll, Except.ok.injEq] at hwrite
      exact hwrite.symm
    subst hnil
    exact ⟨[], List.Forall₂.nil, reads_pure []⟩
  | cons value values ih =>
    obtain ⟨first, rest, hfirst, hrest, hbytes⟩ := writeAll_cons_eq_ok hwrite
    subst hbytes
    obtain ⟨result, hsame, hresult⟩ := hread value List.mem_cons_self first hfirst
    obtain ⟨results, hall, hresults⟩ := ih hrest fun later hmem =>
      hread later (List.mem_cons_of_mem value hmem)
    refine ⟨result :: results, List.Forall₂.cons hsame hall, ?_⟩
    exact hresult.bind (hresults.map fun values => result :: values)

theorem Reads.run_finish (trailing : ε) (h : Reads reader bytes value) :
    (do let value ← reader; finish trailing; return value : Reader ε α).run bytes =
      .ok (value, []) := by
  have hread := h []
  rw [List.append_nil] at hread
  rw [StateT.run_bind, hread]
  rfl

end Bytes
