import Mathlib.Data.List.Nodup

/-!
# Tables with a primary key

A table is a list of rows of which no two share a key. An insertion is refused when its key is
taken; an update rewrites the rows a condition selects and leaves their keys alone.

Main results:

- Theorem `KeyedTable.find?_eq_some_iff`: a lookup finds exactly the row with the key
- Theorem `KeyedTable.rows_insert`, `KeyedTable.mem_delete`: the rows after a write
- Theorem `KeyedTable.rows_changes`: the rows after several changes of rows
-/

universe u v

namespace Effects

open List

/-- Rows of which no two share a key. -/
structure KeyedTable {ρ : Type u} {κ : Type v} (key : ρ → κ) where
  rows : List ρ
  distinct : (rows.map key).Nodup

namespace KeyedTable

variable {ρ : Type u} {κ : Type v} {key : ρ → κ}

def empty : KeyedTable key where
  rows := []
  distinct := nodup_nil

def insert [DecidableEq κ] (t : KeyedTable key) (row : ρ) : Option (KeyedTable key) :=
  if h : key row ∈ t.rows.map key then none
  else
    some
      { rows := t.rows ++ [row]
        distinct := by
          rw [map_append, map_singleton]
          exact nodup_append.mpr ⟨t.distinct, nodup_singleton _,
            fun old hold new hnew heq => h (mem_singleton.mp hnew ▸ heq ▸ hold)⟩ }

def update (t : KeyedTable key) (p : ρ → Bool) (f : ρ → ρ)
    (hkey : ∀ row, key (f row) = key row := by intro row; rfl) : KeyedTable key where
  rows := t.rows.map fun row => if p row then f row else row
  distinct := by
    have hkeys : (t.rows.map fun row => if p row then f row else row).map key = t.rows.map key := by
      rw [map_map]
      refine map_congr_left fun row _ => ?_
      by_cases hrow : p row = true
      · simp [hrow, hkey]
      · simp [hrow]
    rw [hkeys]
    exact t.distinct

def rewrite (t : KeyedTable key) (f : ρ → ρ)
    (hkey : ∀ row, key (f row) = key row := by intro row; rfl) : KeyedTable key :=
  t.update (fun _ => true) f hkey

/-- Append a row, or change the row that has its key already. -/
def upsert [DecidableEq κ] (t : KeyedTable key) (row : ρ) (f : ρ → ρ)
    (hkey : ∀ row, key (f row) = key row := by intro row; rfl) : KeyedTable key :=
  (t.insert row).getD (t.update (fun old => key old = key row) f hkey)

def delete (t : KeyedTable key) (p : ρ → Bool) : KeyedTable key where
  rows := t.rows.filter fun row => !p row
  distinct := t.distinct.sublist (filter_sublist.map key)

def find? [DecidableEq κ] (t : KeyedTable key) (k : κ) : Option ρ :=
  t.rows.find? fun row => key row = k

variable {t t' : KeyedTable key} {row : ρ}

theorem eq_of_key {row' : ρ} (hrow : row ∈ t.rows) (hrow' : row' ∈ t.rows)
    (hkey : key row = key row') : row = row' :=
  inj_on_of_nodup_map t.distinct hrow hrow' hkey

/-- A lookup finds exactly the row with the key. -/
theorem find?_eq_some_iff [DecidableEq κ] {k : κ} :
    t.find? k = some row ↔ row ∈ t.rows ∧ key row = k := by
  constructor
  · intro h
    exact ⟨mem_of_find?_eq_some h, by simpa using List.find?_some h⟩
  · rintro ⟨hrow, rfl⟩
    cases hfind : t.find? (key row) with
    | none =>
      have hnone := List.find?_eq_none.mp hfind row hrow
      simp at hnone
    | some found =>
      have hkey : key found = key row := by simpa using List.find?_some hfind
      rw [eq_of_key (mem_of_find?_eq_some hfind) hrow hkey]

theorem rows_insert [DecidableEq κ] (h : t.insert row = some t') :
    t'.rows = t.rows ++ [row] ∧ key row ∉ t.rows.map key := by
  unfold insert at h
  split at h
  · cases h
  · rename_i hnew
    cases h
    exact ⟨rfl, hnew⟩

theorem exists_find?_upsert [DecidableEq κ] {f : ρ → ρ} {hkey : ∀ row, key (f row) = key row} :
    ∃ found, (t.upsert row f hkey).find? (key row) = some found := by
  unfold upsert
  cases hinsert : t.insert row with
  | some t' =>
    refine ⟨row, find?_eq_some_iff.mpr ⟨?_, rfl⟩⟩
    rw [Option.getD_some, (rows_insert hinsert).1]
    exact mem_append_right _ (mem_singleton_self row)
  | none =>
    unfold insert at hinsert
    split at hinsert
    · rename_i hmem
      rcases mem_map.mp hmem with ⟨old, hold, hsame⟩
      refine ⟨f old, find?_eq_some_iff.mpr ⟨?_, (hkey old).trans hsame⟩⟩
      exact mem_map.mpr ⟨old, hold, by simp [hsame]⟩
    · cases hinsert

theorem exists_find?_update [DecidableEq κ] {p : ρ → Bool} {f : ρ → ρ}
    {hkey : ∀ row, key (f row) = key row} (hrow : row ∈ t.rows) :
    ∃ found, (t.update p f hkey).find? (key row) = some found ∧ key found = key row := by
  have hsame : key (if p row then f row else row) = key row := by
    by_cases hselected : p row = true
    · simp [hselected, hkey]
    · simp [hselected]
  exact ⟨_, find?_eq_some_iff.mpr ⟨mem_map_of_mem hrow, hsame⟩, hsame⟩

@[simp]
theorem mem_delete {p : ρ → Bool} : row ∈ (t.delete p).rows ↔ row ∈ t.rows ∧ p row = false := by
  unfold delete
  simp

@[simp]
theorem rows_rewrite {f : ρ → ρ} {hkey : ∀ row, key (f row) = key row} :
    (t.rewrite f hkey).rows = t.rows.map f := by
  simp [rewrite, update]

theorem ext_rows (h : t.rows = t'.rows) : t = t' := by
  cases t
  cases t'
  cases h
  rfl

end KeyedTable

/-- How one row is rewritten. -/
structure RowChange {ρ : Type u} {κ : Type v} (key : ρ → κ) where
  row : κ
  apply : ρ → ρ
  keeps : ∀ row, key (apply row) = key row

namespace KeyedTable

variable {ρ : Type u} {κ : Type v} {key : ρ → κ} [DecidableEq κ]

def change (t : KeyedTable key) (c : RowChange key) : KeyedTable key :=
  t.update (fun row => key row = c.row) c.apply c.keeps

/-- Rewrite several rows, one after the other. -/
def changes (t : KeyedTable key) (cs : List (RowChange key)) : KeyedTable key :=
  cs.foldl change t

variable {t : KeyedTable key} {cs : List (RowChange key)}

section Changes

variable {F : ρ → ρ} (hdistinct : (cs.map RowChange.row).Nodup)
  (heach : ∀ c ∈ cs, ∀ row ∈ t.rows, key row = c.row → c.apply row = F row)

include hdistinct heach

/-- Every row is left as it is or changed as `F` says, if each change does so; a row is changed
if some change is for it. -/
theorem rows_changes :
    ∃ g : ρ → ρ, (t.changes cs).rows = t.rows.map g ∧
      ∀ row ∈ t.rows, (g row = row ∨ g row = F row) ∧
        (key row ∈ cs.map RowChange.row → g row = F row) ∧
        (key row ∉ cs.map RowChange.row → g row = row) := by
  induction cs generalizing t with
  | nil => exact ⟨id, by simp [changes], fun row _ => by simp⟩
  | cons c rest ih =>
    rcases nodup_cons.mp hdistinct with ⟨hnew, hrest⟩
    have hchanged : ∀ row ∈ (t.change c).rows, key row ≠ c.row → row ∈ t.rows := by
      intro row hrow hother
      rcases mem_map.mp hrow with ⟨old, hold, rfl⟩
      by_cases hkey : key old = c.row
      · simp [hkey, c.keeps] at hother
      · simpa [hkey] using hold
    have hlater : ∀ d ∈ rest, ∀ row ∈ (t.change c).rows, key row = d.row → d.apply row = F row := by
      intro d hd row hrow hkey
      refine heach d (mem_cons_of_mem _ hd) row (hchanged row hrow fun hsame => ?_) hkey
      exact hnew (hsame ▸ hkey ▸ mem_map_of_mem hd)
    rcases ih hrest hlater with ⟨g, hrows, hg⟩
    refine ⟨fun row => g (if key row = c.row then c.apply row else row), ?_, fun row hrow => ?_⟩
    · have hsplit : t.changes (c :: rest) = (t.change c).changes rest := rfl
      rw [hsplit, hrows]
      simp [change, update]
    · have hmem : (if key row = c.row then c.apply row else row) ∈ (t.change c).rows :=
        mem_map.mpr ⟨row, hrow, by simp⟩
      rcases hg _ hmem with ⟨heither, hin, hout⟩
      by_cases hkey : key row = c.row
      · have hF := heach c mem_cons_self row hrow hkey
        simp only [hkey, if_true, c.keeps] at hout ⊢
        rw [hout hnew, hF]
        simp
      · simp only [if_neg hkey] at heither hin hout ⊢
        simp only [map_cons, mem_cons, hkey, false_or]
        exact ⟨heither, hin, hout⟩

theorem rows_changes_all (hall : ∀ row ∈ t.rows, F row = row ∨ key row ∈ cs.map RowChange.row) :
    (t.changes cs).rows = t.rows.map F := by
  rcases rows_changes hdistinct heach with ⟨g, hrows, hg⟩
  rw [hrows]
  refine map_congr_left fun row hrow => ?_
  rcases hg row hrow with ⟨heither, hin, -⟩
  rcases hall row hrow with hsame | hchanged
  · rw [hsame, or_self] at heither
    rw [heither, hsame]
  · exact hin hchanged

theorem rows_changes_take (n : ℕ) :
    ∃ g : ρ → ρ, (t.changes (cs.take n)).rows = t.rows.map g ∧
      ∀ row ∈ t.rows, g row = row ∨ g row = F row := by
  have htake : ((cs.take n).map RowChange.row).Nodup :=
    hdistinct.sublist ((take_sublist n cs).map _)
  rcases rows_changes htake fun c hc => heach c (mem_of_mem_take hc) with ⟨g, hrows, hg⟩
  exact ⟨g, hrows, fun row hrow => (hg row hrow).1⟩

end Changes

end KeyedTable

end Effects
