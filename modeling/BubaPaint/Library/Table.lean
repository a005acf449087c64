import Mathlib.Data.List.Nodup
import Mathlib.Data.List.Lemmas

/-!
# Tables with automatic identifiers

A table is a list of identified rows together with the identifier that the next insertion takes.
The structure carries the two facts every lookup relies on: identifiers are handed out in increasing
order and no two rows share one.

Main results:

- Theorem `Table.get?_eq_some_iff`: a lookup finds exactly the row stored under an identifier
- Theorem `Table.get?_insert`, `Table.get?_modify`: lookups after a write
- Theorem `Table.count_insert`, `Table.count_modify_of_gain`: counts after a write
-/

universe u

namespace Effects

open List

/-- Rows under automatically assigned, never reused identifiers. -/
structure Table (ρ : Type u) where
  /-- The rows with their identifiers, in the order of insertion. -/
  rows : List (ℕ × ρ)
  /-- The identifier the next inserted row takes. -/
  nextId : ℕ
  fresh : ∀ entry ∈ rows, entry.1 < nextId
  distinct : (rows.map Prod.fst).Nodup

namespace Table

variable {ρ : Type u}

def empty : Table ρ where
  rows := []
  nextId := 1
  fresh := by simp
  distinct := by simp

def insert (t : Table ρ) (row : ρ) : Table ρ where
  rows := t.rows ++ [(t.nextId, row)]
  nextId := t.nextId + 1
  fresh := by
    intro entry hentry
    rcases mem_append.mp hentry with hold | hnew
    · exact Nat.lt_succ_of_lt (t.fresh entry hold)
    · rw [mem_singleton.mp hnew]
      exact Nat.lt_succ_self _
  distinct := by
    rw [map_append, nodup_append]
    refine ⟨t.distinct, by simp, ?_⟩
    intro id hid id' hid'
    obtain ⟨entry, hentry, rfl⟩ := mem_map.mp hid
    have hlt := t.fresh entry hentry
    simp only [map_cons, map_nil, mem_singleton] at hid'
    omega

def modify (t : Table ρ) (id : ℕ) (f : ρ → ρ) : Table ρ where
  rows := t.rows.map fun entry => (entry.1, if entry.1 = id then f entry.2 else entry.2)
  nextId := t.nextId
  fresh := by
    intro entry hentry
    obtain ⟨old, hold, rfl⟩ := mem_map.mp hentry
    exact t.fresh old hold
  distinct := by
    rw [map_map]
    exact t.distinct

def get? (t : Table ρ) (id : ℕ) : Option ρ :=
  (t.rows.find? fun entry => entry.1 == id).map Prod.snd

def count (t : Table ρ) (p : ρ → Bool) : ℕ :=
  t.rows.countP fun entry => p entry.2

def any (t : Table ρ) (p : ρ → Bool) : Bool :=
  t.rows.any fun entry => p entry.2

/-! ## Lookups -/

private theorem entry_unique {rows : List (ℕ × ρ)} (hdistinct : (rows.map Prod.fst).Nodup)
    {id : ℕ} {row row' : ρ} (h : (id, row) ∈ rows) (h' : (id, row') ∈ rows) : row = row' := by
  have hpair := inj_on_of_nodup_map hdistinct h h' rfl
  exact congrArg Prod.snd hpair

variable {t : Table ρ} {id : ℕ} {row : ρ} {entry : ℕ × ρ}

/-- A lookup finds exactly the row stored under the identifier. -/
theorem get?_eq_some_iff : t.get? id = some row ↔ (id, row) ∈ t.rows := by
  unfold get?
  constructor
  · intro h
    obtain ⟨⟨id', row'⟩, hfind, rfl⟩ := Option.map_eq_some_iff.mp h
    have hid : id' = id := by simpa using List.find?_some hfind
    rw [← hid]
    exact mem_of_find?_eq_some hfind
  · intro h
    cases hfind : t.rows.find? fun entry => entry.1 == id with
    | none =>
      have hne := List.find?_eq_none.mp hfind _ h
      simp at hne
    | some entry =>
      have hid : entry.1 = id := by simpa using List.find?_some hfind
      have hmem : (id, entry.2) ∈ t.rows := by
        rw [← hid]
        exact mem_of_find?_eq_some hfind
      rw [Option.map_some, entry_unique t.distinct hmem h]

theorem get?_eq_none_iff : t.get? id = none ↔ ∀ row, (id, row) ∉ t.rows := by
  constructor
  · intro h row hmem
    rw [get?_eq_some_iff.mpr hmem] at h
    cases h
  · intro h
    cases hget : t.get? id with
    | none => rfl
    | some row => exact absurd (get?_eq_some_iff.mp hget) (h row)

theorem lt_nextId_of_get? (h : t.get? id = some row) : id < t.nextId :=
  t.fresh _ (get?_eq_some_iff.mp h)

@[simp]
theorem get?_nextId (t : Table ρ) : t.get? t.nextId = none := by
  rw [get?_eq_none_iff]
  intro row hmem
  exact Nat.lt_irrefl _ (t.fresh _ hmem)

@[simp]
theorem nextId_insert (t : Table ρ) (row : ρ) : (t.insert row).nextId = t.nextId + 1 :=
  rfl

@[simp]
theorem nextId_modify (t : Table ρ) (id : ℕ) (f : ρ → ρ) : (t.modify id f).nextId = t.nextId :=
  rfl

@[simp]
theorem mem_rows_insert :
    entry ∈ (t.insert row).rows ↔ entry ∈ t.rows ∨ entry = (t.nextId, row) := by
  simp [insert]

variable {f : ρ → ρ} {p : ρ → Bool}

theorem mem_rows_modify :
    entry ∈ (t.modify id f).rows ↔
      ∃ row, (entry.1, row) ∈ t.rows ∧ entry.2 = if entry.1 = id then f row else row := by
  constructor
  · intro h
    obtain ⟨old, hold, rfl⟩ := mem_map.mp h
    exact ⟨old.2, hold, rfl⟩
  · rintro ⟨row, hrow, heq⟩
    refine mem_map.mpr ⟨(entry.1, row), hrow, ?_⟩
    rw [← heq]

theorem get?_insert (t : Table ρ) (row : ρ) (id : ℕ) :
    (t.insert row).get? id = if id = t.nextId then some row else t.get? id := by
  ext row'
  rw [get?_eq_some_iff, mem_rows_insert, Prod.mk.injEq]
  split <;> rename_i hid
  · constructor
    · rintro (hold | ⟨-, rfl⟩)
      · exact absurd (t.fresh _ hold) (by simp [hid])
      · rfl
    · intro h
      exact .inr ⟨hid, (Option.some.inj h).symm⟩
  · simp [hid, get?_eq_some_iff]

theorem get?_modify (t : Table ρ) (id : ℕ) (f : ρ → ρ) (id' : ℕ) :
    (t.modify id f).get? id' = if id' = id then (t.get? id').map f else t.get? id' := by
  ext row'
  rw [get?_eq_some_iff, mem_rows_modify]
  split <;> rename_i hid
  · rw [Option.map_eq_some_iff]
    constructor
    · rintro ⟨row, hrow, rfl⟩
      exact ⟨row, get?_eq_some_iff.mpr hrow, rfl⟩
    · rintro ⟨row, hrow, rfl⟩
      exact ⟨row, get?_eq_some_iff.mp hrow, rfl⟩
  · simp [get?_eq_some_iff]

@[simp]
theorem modify_modify (t : Table ρ) (id : ℕ) (f g : ρ → ρ) :
    (t.modify id f).modify id g = t.modify id (g ∘ f) := by
  unfold modify
  congr 1
  rw [map_map]
  congr 1
  funext entry
  by_cases hid : entry.1 = id <;> simp [hid]

@[simp]
theorem modify_self (t : Table ρ) (id : ℕ) : (t.modify id fun row => row) = t := by
  simp [modify]

theorem any_eq_true_iff : t.any p = true ↔ ∃ id row, t.get? id = some row ∧ p row = true := by
  unfold any
  rw [any_eq_true]
  constructor
  · rintro ⟨⟨id, row⟩, hmem, hp⟩
    exact ⟨id, row, get?_eq_some_iff.mpr hmem, hp⟩
  · rintro ⟨id, row, hget, hp⟩
    exact ⟨(id, row), get?_eq_some_iff.mp hget, hp⟩

theorem count_pos_iff : 0 < t.count p ↔ ∃ id row, t.get? id = some row ∧ p row = true := by
  unfold count
  rw [countP_pos_iff]
  constructor
  · rintro ⟨⟨id, row⟩, hmem, hp⟩
    exact ⟨id, row, get?_eq_some_iff.mpr hmem, hp⟩
  · rintro ⟨id, row, hget, hp⟩
    exact ⟨(id, row), get?_eq_some_iff.mp hget, hp⟩

@[simp]
theorem count_insert (t : Table ρ) (row : ρ) (p : ρ → Bool) :
    (t.insert row).count p = t.count p + if p row then 1 else 0 := by
  simp [count, insert, countP_append, countP_singleton]

theorem countP_rows_modify (t : Table ρ) (id : ℕ) (f : ρ → ρ) (p : ℕ × ρ → Bool)
    (h : ∀ row, t.get? id = some row → p (id, f row) = p (id, row)) :
    (t.modify id f).rows.countP p = t.rows.countP p := by
  unfold modify
  rw [countP_map]
  apply countP_congr
  rintro ⟨id', row⟩ hmem
  by_cases hid : id' = id
  · subst hid
    simp [h row (get?_eq_some_iff.mpr hmem)]
  · simp [hid]

theorem count_modify_of_congr (t : Table ρ) (id : ℕ) (f : ρ → ρ) (p : ρ → Bool)
    (h : ∀ row, t.get? id = some row → p (f row) = p row) : (t.modify id f).count p = t.count p :=
  t.countP_rows_modify id f (fun entry => p entry.2) h

private theorem countP_modify_gain (id : ℕ) (f : ρ → ρ) (p : ρ → Bool) (row : ρ)
    (hold : p row = false) (hnew : p (f row) = true) :
    ∀ rows : List (ℕ × ρ), (rows.map Prod.fst).Nodup → (id, row) ∈ rows →
      (rows.map fun entry => (entry.1, if entry.1 = id then f entry.2 else entry.2)).countP
          (fun entry => p entry.2) =
        rows.countP (fun entry => p entry.2) + 1 := by
  intro rows
  induction rows with
  | nil =>
    intro _ hmem
    cases hmem
  | cons entry rows ih =>
    intro hdistinct hmem
    rw [map_cons, nodup_cons] at hdistinct
    rw [map_cons, countP_cons, countP_cons]
    rcases mem_cons.mp hmem with hhead | htail
    · have hrest : (rows.map fun e => (e.1, if e.1 = id then f e.2 else e.2)) = rows := by
        refine (map_congr_left ?_).trans (map_id rows)
        rintro ⟨id', row'⟩ hin
        have hne : id' ≠ id := by
          rintro rfl
          apply hdistinct.1
          rw [← hhead]
          exact mem_map.mpr ⟨_, hin, rfl⟩
        simp [hne]
      rw [hrest, ← hhead]
      simp [hold, hnew]
    · have hne : entry.1 ≠ id := by
        intro heq
        apply hdistinct.1
        rw [heq]
        exact mem_map.mpr ⟨_, htail, rfl⟩
      rw [ih hdistinct.2 htail]
      simp only [hne, if_false]
      omega

/-- A rewrite of one row that starts to satisfy `p` raises the count by one. -/
theorem count_modify_of_gain (hget : t.get? id = some row) (hold : p row = false)
    (hnew : p (f row) = true) : (t.modify id f).count p = t.count p + 1 :=
  countP_modify_gain id f p row hold hnew t.rows t.distinct (get?_eq_some_iff.mp hget)

end Table

end Effects
