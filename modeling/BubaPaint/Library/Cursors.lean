import BubaPaint.Library.Bytes

/-!
# Cursors over bytes

A cursor stays at an offset in bytes that do not change and advances it with every read. A slice
outside the bytes is a fault of its own, apart from the errors that a read reports. A cursor follows
a reader when it reads from its offset on what the reader reads from the bytes that are left.

Main results:

- Definitions `Bytes.Cursor`, `Bytes.readSlice`: cursors and their only access to bytes
- Definition `Bytes.Follows`: a cursor follows a reader
- Theorems `Bytes.Follows.bind`, `Bytes.follows_readSlice`, `Bytes.follows_readTimes`:
  the rules of composition
- Theorem `Bytes.Follows.eq_of_reads`: a cursor on bytes of which a reader reads a part
-/

namespace Bytes

open List StateT

/-- How a cursor fails: with an error it reports, or by a slice outside the bytes. -/
inductive Fault (ε : Type) where
  | reported (error : ε)
  | outOfRange
  deriving DecidableEq

/-- A read at an offset, which it advances. -/
abbrev Cursor (ε : Type) (α : Type) := StateT ℕ (Except (Fault ε)) α

variable {ε α β : Type}

def report (error : ε) : Cursor ε α :=
  throw (.reported error)

def reportError (outcome : Except ε α) : Cursor ε α :=
  match outcome with
  | .ok value => pure value
  | .error error => report error

section Access

variable (bytes : List UInt8)

/-- The bytes between two offsets, which must lie within the bytes. -/
def slice (start stop : ℕ) : Cursor ε (List UInt8) :=
  if start ≤ stop ∧ stop ≤ bytes.length then pure ((bytes.drop start).take (stop - start))
  else throw .outOfRange

/-- Read the given number of bytes. Offsets are words of 64 bits. -/
def readSlice (overflow truncated : ε) (count : ℕ) : Cursor ε (List UInt8) := do
  let offset ← get
  let stop := offset + count
  if 2 ^ 64 ≤ stop then report overflow
  else if bytes.length < stop then report truncated
  else
    let read ← slice bytes offset stop
    set stop
    return read

/-- Check that the bytes are used up. -/
def finishAt (trailing : ε) : Cursor ε Unit := do
  let offset ← get
  if offset = bytes.length then return () else report trailing

end Access

def readTimes : ℕ → Cursor ε α → Cursor ε (List α)
  | 0, _ => return []
  | count + 1, cursor => do
      let value ← cursor
      let values ← readTimes count cursor
      return value :: values

/-! ## Following a reader -/

/-- A cursor follows a reader: it stays within the bytes, what it reads the reader reads from the
bytes that are left, whatever comes after them, and it reads what the reader does. -/
structure Follows (bytes : List UInt8) (cursor : Cursor ε α) (reader : Reader ε α) : Prop where
  inRange : ∀ offset ≤ bytes.length, cursor.run offset ≠ .error .outOfRange
  reads : ∀ offset ≤ bytes.length, ∀ value next, cursor.run offset = .ok (value, next) →
    next ≤ bytes.length ∧
      ∀ rest, reader.run (bytes.drop offset ++ rest) = .ok (value, bytes.drop next ++ rest)
  complete : bytes.length < 2 ^ 64 → ∀ offset ≤ bytes.length, ∀ value rest,
    reader.run (bytes.drop offset) = .ok (value, rest) →
      ∃ next, cursor.run offset = .ok (value, next)

variable {bytes : List UInt8}
variable {cursor : Cursor ε α} {reader : Reader ε α}

theorem follows_pure (value : α) : Follows bytes (pure value : Cursor ε α) (pure value) where
  inRange := by
    intro offset _ h
    cases h
  reads := by
    intro offset hle value next h
    cases h
    exact ⟨hle, fun _ => rfl⟩
  complete := by
    intro _ offset _ value rest h
    cases h
    exact ⟨offset, rfl⟩

theorem follows_report (error : ε) : Follows bytes (report error : Cursor ε α) (throw error) where
  inRange := by
    intro offset _ h
    cases h
  reads := by
    intro offset _ value next h
    cases h
  complete := by
    intro _ offset _ value rest h
    cases h

theorem follows_reportError (outcome : Except ε α) :
    Follows bytes (reportError outcome) (liftM outcome : Reader ε α) := by
  cases outcome with
  | ok value => exact follows_pure value
  | error error => exact follows_report error

/-- What is read first is followed by what is read next. -/
theorem Follows.bind {next : α → Cursor ε β} {next' : α → Reader ε β}
    (hfirst : Follows bytes cursor reader)
    (hnext : ∀ value, Follows bytes (next value) (next' value)) :
    Follows bytes (cursor >>= next) (reader >>= next') where
  inRange := by
    intro offset hle
    rw [run_bind]
    cases hrun : cursor.run offset with
    | error fault =>
      intro h
      cases h
      exact hfirst.inRange offset hle hrun
    | ok read =>
      have hread := hfirst.reads offset hle read.1 read.2 hrun
      exact (hnext read.1).inRange read.2 hread.1
  reads := by
    intro offset hle value stop h
    rw [run_bind] at h
    cases hrun : cursor.run offset with
    | error fault =>
      rw [hrun] at h
      cases h
    | ok read =>
      rw [hrun] at h
      have hread := hfirst.reads offset hle read.1 read.2 hrun
      have hrest := (hnext read.1).reads read.2 hread.1 value stop h
      refine ⟨hrest.1, fun rest => ?_⟩
      rw [run_bind, hread.2 rest]
      exact hrest.2 rest
  complete := by
    intro hsize offset hle value rest h
    rw [run_bind] at h
    cases hrun : reader.run (bytes.drop offset) with
    | error error =>
      rw [hrun] at h
      cases h
    | ok read =>
      rw [hrun] at h
      have hcursor := hfirst.complete hsize offset hle read.1 read.2 hrun
      rcases hcursor with ⟨middle, hmiddle⟩
      have hread := hfirst.reads offset hle read.1 middle hmiddle
      have hleft : read.2 = bytes.drop middle := by
        have hagain := hread.2 []
        rw [append_nil, append_nil, hrun] at hagain
        exact congrArg Prod.snd (Except.ok.inj hagain)
      have hrest : (next' read.1).run (bytes.drop middle) = .ok (value, rest) := by
        rw [← hleft]
        exact h
      rcases (hnext read.1).complete hsize middle hread.1 value rest hrest with ⟨stop, hstop⟩
      refine ⟨stop, ?_⟩
      rw [run_bind, hmiddle]
      exact hstop

theorem Follows.ite {p : Prop} [Decidable p] {cursor' : Cursor ε α} {reader' : Reader ε α}
    (h : Follows bytes cursor reader) (h' : Follows bytes cursor' reader') :
    Follows bytes (if p then cursor else cursor') (if p then reader else reader') := by
  by_cases hp : p
  · simpa [hp] using h
  · simpa [hp] using h'

variable (trailing overflow truncated : ε) (count offset : ℕ)

theorem run_readSlice :
    (readSlice bytes overflow truncated count).run offset =
      if 2 ^ 64 ≤ offset + count then .error (.reported overflow)
      else if bytes.length < offset + count then .error (.reported truncated)
      else .ok ((bytes.drop offset).take count, offset + count) := by
  by_cases hword : 2 ^ 64 ≤ offset + count
  · simp only [readSlice, run_bind, run_get, pure_bind, if_pos hword]
    rfl
  · by_cases hlong : bytes.length < offset + count
    · simp only [readSlice, run_bind, run_get, pure_bind, if_neg hword, if_pos hlong]
      rfl
    · have hwithin : offset ≤ offset + count ∧ offset + count ≤ bytes.length := by omega
      simp only [readSlice, slice, run_bind, run_get, pure_bind, if_neg hword,
        if_neg hlong, if_pos hwithin, run_set, run_pure, Nat.add_sub_cancel_left]
      rfl

theorem run_readBytes (input : List UInt8) :
    (readBytes truncated count).run input =
      if input.length < count then .error truncated
      else .ok (input.take count, input.drop count) := by
  by_cases hshort : input.length < count
  · simp only [readBytes, run_bind, run_get, pure_bind, if_pos hshort]
    rfl
  · simp only [readBytes, run_bind, run_get, pure_bind, if_neg hshort, run_set, run_pure]
    rfl

/-- Reading a slice follows reading bytes. -/
theorem follows_readSlice :
    Follows bytes (readSlice bytes overflow truncated count) (readBytes truncated count) where
  inRange := by
    intro offset _ h
    rw [run_readSlice] at h
    split at h
    · cases h
    · split at h
      · cases h
      · cases h
  reads := by
    intro offset hle value next h
    rw [run_readSlice] at h
    split at h
    · cases h
    · split at h
      · cases h
      · rename_i hlong
        cases h
        have hcount : count ≤ (bytes.drop offset).length := by
          rw [length_drop]
          omega
        refine ⟨by omega, fun rest => ?_⟩
        have henough : ¬(bytes.drop offset ++ rest).length < count := by
          rw [length_append]
          omega
        rw [run_readBytes, if_neg henough, take_append_of_le_length hcount,
          drop_append_of_le_length hcount, drop_drop]
  complete := by
    intro hsize offset hle value rest h
    rw [run_readBytes] at h
    split at h
    · cases h
    · rename_i henough
      cases h
      rw [length_drop] at henough
      have hword : ¬2 ^ 64 ≤ offset + count := by omega
      have hlong : ¬bytes.length < offset + count := by omega
      exact ⟨offset + count, by rw [run_readSlice, if_neg hword, if_neg hlong]⟩

/-- Repeated reads follow repeated reads. -/
theorem follows_readTimes (h : Follows bytes cursor reader) (count : ℕ) :
    Follows bytes (readTimes count cursor) (readMany count reader) := by
  induction count with
  | zero => exact follows_pure []
  | succ count ih =>
    refine h.bind fun value => ?_
    exact ih.bind fun values => follows_pure (value :: values)

theorem run_finishAt :
    (finishAt bytes trailing).run offset =
      if offset = bytes.length then .ok ((), offset) else .error (.reported trailing) := by
  by_cases hend : offset = bytes.length
  · simp only [finishAt, run_bind, run_get, pure_bind, if_pos hend]
    rfl
  · simp only [finishAt, run_bind, run_get, pure_bind, if_neg hend]
    rfl

def readWhole (bytes : List UInt8) (trailing : ε) (cursor : Cursor ε α) : Cursor ε α := do
  let value ← cursor
  finishAt bytes trailing
  return value

theorem run_readWhole (cursor : Cursor ε α) (offset : ℕ) :
    (readWhole bytes trailing cursor).run offset =
      match cursor.run offset with
      | .error fault => .error fault
      | .ok (value, next) =>
        if next = bytes.length then .ok (value, next) else .error (.reported trailing) := by
  unfold readWhole
  rw [run_bind]
  cases hrun : cursor.run offset with
  | error fault => rfl
  | ok read =>
    change (finishAt bytes trailing >>= fun _ => pure read.1).run read.2 = _
    rw [run_bind, run_finishAt]
    by_cases hend : read.2 = bytes.length
    · simp only [if_pos hend]
      rfl
    · simp only [if_neg hend]
      rfl

section Whole

variable {cursor : Cursor ε α} {reader : Reader ε α}
variable {trailing : ε} {value : α} {stop : ℕ}

theorem Follows.run_readWhole_cases (h : Follows bytes cursor reader) (trailing : ε) :
    (∃ value, (readWhole bytes trailing cursor).run 0 = .ok (value, bytes.length)) ∨
      ∃ error, (readWhole bytes trailing cursor).run 0 = .error (.reported error) := by
  rw [run_readWhole]
  cases hrun : cursor.run 0 with
  | error fault =>
    cases fault with
    | reported error => exact .inr ⟨error, rfl⟩
    | outOfRange => exact absurd hrun (h.inRange 0 (Nat.zero_le _))
  | ok read =>
    by_cases hend : read.2 = bytes.length
    · exact .inl ⟨read.1, by simp [hend]⟩
    · exact .inr ⟨trailing, by simp [hend]⟩

theorem Follows.run_of_readWhole (h : Follows bytes cursor reader)
    (hwhole : (readWhole bytes trailing cursor).run 0 = .ok (value, stop)) (rest : List UInt8) :
    reader.run (bytes ++ rest) = .ok (value, rest) := by
  rw [run_readWhole] at hwhole
  cases hrun : cursor.run 0 with
  | error fault =>
    rw [hrun] at hwhole
    cases hwhole
  | ok read =>
    rw [hrun] at hwhole
    have hend : read.2 = bytes.length := by
      by_contra hne
      simp [hne] at hwhole
    have hvalue : read.1 = value := by
      simp only [hend, if_true, Except.ok.injEq, Prod.mk.injEq] at hwhole
      exact hwhole.1
    have hread := (h.reads 0 (Nat.zero_le _) read.1 read.2 hrun).2 rest
    rw [drop_zero, hend, drop_length, hvalue, nil_append] at hread
    exact hread

/-- Of bytes of which a reader reads a part, a cursor reads only that part as a whole. -/
theorem Follows.eq_of_reads (h : Follows bytes cursor reader) {part : List UInt8}
    (hreads : Reads reader part value) (hpart : bytes <+: part ∨ part <+: bytes) {value' : α}
    (hwhole : (readWhole bytes trailing cursor).run 0 = .ok (value', stop)) : bytes = part := by
  rcases hpart with ⟨rest, rfl⟩ | ⟨rest, rfl⟩
  · -- The reader would leave the rest of the part unread.
    have hshort := h.run_of_readWhole hwhole rest
    have hfull := hreads []
    rw [append_nil, hshort] at hfull
    cases hfull
    rw [append_nil]
  · -- The reader leaves the bytes after the part, the cursor leaves none.
    have hall := h.run_of_readWhole hwhole []
    rw [append_nil, hreads rest] at hall
    cases hall
    rw [append_nil]

end Whole

end Bytes
