import Mathlib.Data.List.Perm.Basic

/-!
# Admission under a cap

Whoever is admitted waits first and is held later. Those who wait and those who are held and counted
stay under a cap, and any two of them stay apart.
-/

universe u

namespace Effects

/-- Those who wait and those held that count stay under a cap, and any two stay apart. -/
structure Admitted {κ : Type u} (apart : κ → κ → Prop) (cap counted : ℕ) (held awaited : List κ) :
    Prop where
  capped : counted + awaited.length ≤ cap
  apart : (held ++ awaited).Pairwise apart

namespace Admitted

variable {κ : Type u} {apart : κ → κ → Prop} {cap counted counted' : ℕ}
variable {held held' awaited awaited' : List κ}

theorem mono (h : Admitted apart cap counted held awaited) (hcounted : counted' ≤ counted)
    (hheld : held'.Sublist held) (hawaited : awaited'.Sublist awaited) :
    Admitted apart cap counted' held' awaited' where
  capped := by
    have hfewer := hawaited.length_le
    have hcapped := h.capped
    omega
  apart := h.apart.sublist (hheld.append hawaited)

/-- Newcomers are admitted if there is room and they are apart from each other and from all. -/
theorem accept (h : Admitted apart cap counted held awaited) {newcomers : List κ}
    (hroom : counted + awaited.length + newcomers.length ≤ cap) (hnew : newcomers.Pairwise apart)
    (hold : ∀ old ∈ held ++ awaited, ∀ newcomer ∈ newcomers, apart old newcomer) :
    Admitted apart cap counted held (awaited ++ newcomers) where
  capped := by
    rw [List.length_append]
    omega
  apart := by
    rw [← List.append_assoc]
    exact List.pairwise_append.mpr ⟨h.apart, hnew, hold⟩

/-- One who waits becomes held, and counts for one at most. -/
theorem fulfil [Std.Symm apart] {before after : List κ} {k : κ}
    (h : Admitted apart cap counted held (before ++ k :: after))
    (hcounted : counted' ≤ counted + 1) :
    Admitted apart cap counted' (held ++ [k]) (before ++ after) where
  capped := by
    have hcapped := h.capped
    simp only [List.length_append, List.length_cons] at hcapped ⊢
    omega
  apart := by
    have hmoved : List.Perm (held ++ (before ++ k :: after))
        (held ++ [k] ++ (before ++ after)) := by
      rw [List.append_assoc]
      exact List.perm_middle.append_left held
    exact (hmoved.pairwise_iff (fun hab => Std.Symm.symm _ _ hab)).mp h.apart

end Admitted

end Effects
