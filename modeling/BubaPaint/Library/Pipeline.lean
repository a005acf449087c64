import Mathlib.Order.Lattice

/-!
# Pipelines

The stages of a pipeline are worked on one after the other. A stage is started only when all earlier
ones are done, and a stage that is done stays done; so the finished stages are the first ones, and
at most one stage is worked on.
-/

universe u

namespace Effects

/-- How far a stage is. -/
inductive Progress where
  | waiting
  | active
  | done
  deriving DecidableEq

/-- The progress of each stage; an index may have no stage. -/
def Pipeline (ι : Type u) : Type u :=
  ι → Option Progress

namespace Pipeline

variable {ι : Type u} [LinearOrder ι] {pipeline pipeline' : Pipeline ι} {i j : ι}

/-- The stages before an index are all done. -/
def Reached (pipeline : Pipeline ι) (i : ι) : Prop :=
  ∀ j < i, ∀ progress, pipeline j = some progress → progress = .done

/-- The stages stay, what is done stays done, only a stage that is reached is started, and only one
that is worked on is done. -/
structure Advances (pipeline pipeline' : Pipeline ι) : Prop where
  stages : ∀ i, (pipeline' i).isSome = (pipeline i).isSome
  done : ∀ i, pipeline i = some .done → pipeline' i = some .done
  starts : ∀ i, pipeline' i = some .active → pipeline i = some .active ∨ pipeline.Reached i
  finishes : ∀ i, pipeline' i = some .done → pipeline i = some .done ∨ pipeline i = some .active

/-- A stage that is worked on or done has been reached. -/
def InOrder (pipeline : Pipeline ι) : Prop :=
  ∀ i, pipeline i = some .active ∨ pipeline i = some .done → pipeline.Reached i

/-- A stage that is reached stays reached. -/
theorem Reached.advance (h : pipeline.Reached i) (hadvance : Advances pipeline pipeline') :
    pipeline'.Reached i := by
  intro j hj progress hprogress
  cases hbefore : pipeline j with
  | none =>
    have hstages := hadvance.stages j
    rw [hprogress, hbefore] at hstages
    cases hstages
  | some before =>
    have hdone := hadvance.done j (h j hj before hbefore ▸ hbefore)
    rw [hdone] at hprogress
    exact (Option.some.inj hprogress).symm

/-- Every change keeps the order. -/
theorem InOrder.advance (h : pipeline.InOrder) (hadvance : Advances pipeline pipeline') :
    pipeline'.InOrder := by
  rintro i (hactive | hdone)
  · rcases hadvance.starts i hactive with hbefore | hreached
    · exact (h i (.inl hbefore)).advance hadvance
    · exact hreached.advance hadvance
  · have hbefore := (hadvance.finishes i hdone).symm
    exact (h i hbefore).advance hadvance

/-- At most one stage is worked on. -/
theorem InOrder.eq_of_active (h : pipeline.InOrder) (hi : pipeline i = some .active)
    (hj : pipeline j = some .active) : i = j := by
  rcases lt_trichotomy i j with hless | heq | hgreater
  · exact absurd (h j (.inl hj) i hless _ hi) Progress.noConfusion
  · exact heq
  · exact absurd (h i (.inl hi) j hgreater _ hj) Progress.noConfusion

end Pipeline

end Effects
