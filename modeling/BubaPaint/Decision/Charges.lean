import BubaPaint.Decision.Reserves

/-!
# Charges on the reserve

What reserved capital is for: every order and every open trade charges an amount to a strategy, and
the buckets of a family hold what its strategies are charged. The rules say how reserving,
releasing and closing a market change the charges that a reserve is balanced with.

Main results:

- Theorem `Balanced.addReserved`, `Balanced.addPending`: a new charge
- Theorem `Balanced.release`: a charge is taken back whole
- Theorem `Balanced.lower`: a charge is taken back in part
- Theorem `Balanced.transition`: closing a market leaves the charges as they are
-/

namespace BubaPaint

open List

abbrev Charge : Type :=
  String × ℚ

def charged (family : StrategyFamily) (charges : List Charge) : ℚ :=
  (charges.map fun charge => if family = familyForStrategy charge.1 then charge.2 else 0).sum

variable (family : StrategyFamily)

@[simp]
theorem charged_nil : charged family [] = 0 :=
  rfl

@[simp]
theorem charged_cons (charge : Charge) (charges : List Charge) :
    charged family (charge :: charges) =
      (if family = familyForStrategy charge.1 then charge.2 else 0) + charged family charges := by
  simp [charged]

@[simp]
theorem charged_append (charges charges' : List Charge) :
    charged family (charges ++ charges') = charged family charges + charged family charges' := by
  simp [charged]

theorem charged_perm {charges charges' : List Charge} (h : charges.Perm charges')
    (family : StrategyFamily) : charged family charges = charged family charges' :=
  (h.map _).sum_eq

theorem charged_nonneg {charges : List Charge} (h : ∀ charge ∈ charges, 0 ≤ charge.2)
    (family : StrategyFamily) : 0 ≤ charged family charges := by
  induction charges with
  | nil => exact le_rfl
  | cons charge charges ih =>
    have hfirst := h charge mem_cons_self
    have hrest := ih fun other hother => h other (mem_cons_of_mem _ hother)
    rw [charged_cons]
    split
    · exact add_nonneg hfirst hrest
    · rw [zero_add]
      exact hrest

/-- The buckets hold what the strategies are charged. -/
structure Balanced (reserves : Reserves) (charges : List Charge) : Prop where
  coherent : reserves.Coherent
  nonneg : ∀ charge ∈ charges, 0 ≤ charge.2
  bucket : ∀ family, reserves.bucket family = charged family charges

section Balanced

variable {reserves : Reserves} {charges charges' : List Charge} {amount rest : ℚ}
  {strategy : String} {family : StrategyFamily}

theorem balanced_empty : Balanced .empty [] where
  coherent := Reserves.coherent_empty
  nonneg := by simp
  bucket := by simp [Reserves.bucket, Reserves.empty]

theorem Balanced.perm (h : Balanced reserves charges) (hperm : charges.Perm charges') :
    Balanced reserves charges' where
  coherent := h.coherent
  nonneg charge hcharge := h.nonneg charge (hperm.mem_iff.mpr hcharge)
  bucket other := (h.bucket other).trans (charged_perm hperm other)

theorem Balanced.le_bucket (h : Balanced reserves ((strategy, amount) :: charges)) :
    amount ≤ reserves.bucket (familyForStrategy strategy) := by
  have hrest :=
    charged_nonneg (fun charge hcharge => h.nonneg charge (mem_cons_of_mem _ hcharge))
    (familyForStrategy strategy)
  rw [h.bucket, charged_cons, if_pos rfl]
  linarith

theorem Balanced.addReserved (h : Balanced reserves charges) (hamount : 0 ≤ amount)
    (hfamily : familyForStrategy strategy = family) :
    Balanced (reserves.addReserved family amount) ((strategy, amount) :: charges) where
  coherent := h.coherent.addReserved family hamount
  nonneg := forall_mem_cons.mpr ⟨hamount, h.nonneg⟩
  bucket other := by
    rw [Reserves.bucket_addReserved, h.bucket, charged_cons, hfamily, add_comm]

theorem Balanced.addPending (h : Balanced reserves charges) (hamount : 0 ≤ amount)
    (hfamily : familyForStrategy strategy = family) :
    Balanced (reserves.addPending family amount) ((strategy, amount) :: charges) where
  coherent := h.coherent.addPending family hamount
  nonneg := forall_mem_cons.mpr ⟨hamount, h.nonneg⟩
  bucket other := by
    rw [Reserves.bucket_addPending, h.bucket, charged_cons, hfamily, add_comm]

/-- Releasing a part of a charge leaves the rest of it. -/
theorem Balanced.lower (h : Balanced reserves ((strategy, amount) :: charges)) (hrest : 0 ≤ rest)
    (hle : rest ≤ amount) :
    Balanced (reserves.releaseFromFamilyBuckets (amount - rest) (familyForStrategy strategy))
      ((strategy, rest) :: charges) where
  coherent := h.coherent.releaseFromFamilyBuckets _ (sub_nonneg.mpr hle)
  nonneg := forall_mem_cons.mpr
    ⟨hrest, fun charge hcharge => h.nonneg charge (mem_cons_of_mem _ hcharge)⟩
  bucket other := by
    have hwhole := h.le_bucket
    rw [Reserves.bucket_releaseFromFamilyBuckets _ _ h.coherent (sub_nonneg.mpr hle),
      min_eq_left (by linarith), h.bucket, charged_cons, charged_cons]
    split
    · simp only
      linarith
    · linarith

theorem Balanced.drop (h : Balanced reserves ((strategy, 0) :: charges)) :
    Balanced reserves charges where
  coherent := h.coherent
  nonneg charge hcharge := h.nonneg charge (mem_cons_of_mem _ hcharge)
  bucket other := by simpa using h.bucket other

/-- Releasing a whole charge takes it back. -/
theorem Balanced.release (h : Balanced reserves ((strategy, amount) :: charges)) :
    Balanced (reserves.releaseFromFamilyBuckets amount (familyForStrategy strategy)) charges := by
  have hamount := h.nonneg _ mem_cons_self
  have hlowered := h.lower le_rfl hamount
  rw [sub_zero] at hlowered
  exact hlowered.drop

theorem Balanced.releases {due rest : List Charge}
    (h : Balanced reserves (charges ++ (due ++ rest))) :
    Balanced
      (due.foldl
        (fun reserves release =>
          reserves.releaseFromFamilyBuckets release.2 (familyForStrategy release.1)) reserves)
      (charges ++ rest) := by
  induction due generalizing reserves with
  | nil => exact h
  | cons release due ih => exact ih (h.perm perm_middle).release

/-- Closing a market moves nothing in or out of the buckets of a family. -/
theorem Balanced.transition (h : Balanced reserves charges) (hamount : 0 ≤ amount) :
    Balanced (reserves.transitionFamilyReserveToPending amount family) charges where
  coherent := h.coherent.transitionFamilyReserveToPending family hamount
  nonneg := h.nonneg
  bucket other :=
    (Reserves.bucket_transitionFamilyReserveToPending family other h.coherent hamount).trans
      (h.bucket other)

theorem Balanced.probe (h : Balanced reserves charges) (hamount : 0 ≤ amount)
    (hfamily : familyForStrategy strategy = family) :
    Balanced ((reserves.addReserved family amount).releaseFromFamilyBuckets amount
      (familyForStrategy strategy)) charges :=
  (h.addReserved hamount hfamily).release

end Balanced

end BubaPaint
