import Mathlib.Data.List.Basic
import Mathlib.Data.List.TakeWhile

/-!
# Cutting a list into chunks

A chunk is taken from the front of a list: its first entry, and the entries after it as long as they
join the first. Taking chunks until the list is empty cuts it into pieces that lie side by side.

Main results:

- Theorem `exists_chunked`: every list can be cut
- Theorem `Chunked.flatten`: the chunks make up the list
- Theorem `Chunked.split`: what is in a chunk, and what comes after it
-/

universe u

namespace Effects

variable {α : Type u} {joins : α → α → Bool}

/-- The chunks that a list is cut into. -/
inductive Chunked (joins : α → α → Bool) : List α → List (List α) → Prop
  | nil : Chunked joins [] []
  | cons (first : α) (rest : List α) {chunks : List (List α)}
      (hrest : Chunked joins (rest.dropWhile (joins first)) chunks) :
      Chunked joins (first :: rest) ((first :: rest.takeWhile (joins first)) :: chunks)

variable {entries : List α} {chunks : List (List α)}

/-- Every list can be cut into chunks. -/
theorem exists_chunked (joins : α → α → Bool) (entries : List α) :
    ∃ chunks, Chunked joins entries chunks := by
  induction hlength : entries.length using Nat.strong_induction_on generalizing entries with
  | _ length ih =>
    cases entries with
    | nil => exact ⟨[], .nil⟩
    | cons first rest =>
      have hshort := (List.dropWhile_suffix (p := joins first) (l := rest)).length_le
      rw [List.length_cons] at hlength
      rcases ih _ (by omega) (rest.dropWhile (joins first)) rfl with ⟨chunks, hchunks⟩
      exact ⟨_, .cons first rest hchunks⟩

/-- The chunks make up the list. -/
theorem Chunked.flatten (h : Chunked joins entries chunks) : chunks.flatten = entries := by
  induction h with
  | nil => rfl
  | cons first rest hrest ih => simp [ih]

/-- A chunk is a first entry with entries that join it, and the entry after it does not join it. -/
theorem Chunked.split (h : Chunked joins entries chunks) {earlier later : List (List α)}
    {chunk : List α} (hsplit : chunks = earlier ++ chunk :: later) :
    ∃ first others, chunk = first :: others ∧ (∀ entry ∈ others, joins first entry = true) ∧
      ∀ entry ∈ later.flatten.head?, joins first entry = false := by
  induction h generalizing earlier with
  | nil =>
    have hlength := congrArg List.length hsplit
    simp at hlength
  | cons first rest hrest ih =>
    cases earlier with
    | cons taken earlier =>
      rw [List.cons_append] at hsplit
      exact ih (List.cons.inj hsplit).2
    | nil =>
      rw [List.nil_append] at hsplit
      rcases List.cons.inj hsplit with ⟨rfl, rfl⟩
      refine ⟨first, _, rfl, fun entry hentry => ?_, ?_⟩
      · simpa using List.mem_takeWhile_imp hentry
      · intro entry hentry
        rw [hrest.flatten] at hentry
        have hnot := List.head?_dropWhile_not (joins first) rest
        rw [Option.mem_def.mp hentry] at hnot
        simpa using hnot

end Effects
