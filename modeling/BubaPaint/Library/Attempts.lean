import BubaPaint.Library.Guards

/-!
# Attempts

An attempt is a computation on a state that can fail; what it has done to the state before a failure
stays.
-/

universe u

namespace Effects

/-- A computation on a state of type `σ` that can fail. -/
abbrev Attempt (ε σ : Type u) : Type u → Type u :=
  ExceptT ε (StateM σ)

namespace Attempt

variable {ε σ α β : Type u}

def outcome (m : Attempt ε σ α) (s : σ) : Except ε α × σ :=
  m.run.run s

/-- Embed a computation that does not touch the state. -/
def ofExcept (x : Except ε α) : Attempt ε σ α :=
  ExceptT.mk (pure x)

/-- Do one thing after the other for the elements of a list. -/
def forEach {γ : Type u} : List γ → (γ → Attempt ε σ PUnit) → Attempt ε σ PUnit
  | [], _ => pure ⟨⟩
  | c :: rest, f => f c >>= fun _ => forEach rest f

variable {m : Attempt ε σ α}
variable (a : α) (x : Except ε α) (s : σ)

@[simp]
theorem outcome_pure : outcome (pure a : Attempt ε σ α) s = (.ok a, s) :=
  rfl

@[simp]
theorem outcome_ofExcept : outcome (ofExcept x : Attempt ε σ α) s = (x, s) :=
  rfl

@[simp]
theorem outcome_modify (f : σ → σ) (s : σ) :
    outcome (modify f : Attempt ε σ PUnit) s = (.ok ⟨⟩, f s) :=
  rfl

@[simp]
theorem outcome_get : outcome (get : Attempt ε σ σ) s = (.ok s, s) :=
  rfl

theorem outcome_bind (m : Attempt ε σ α) (f : α → Attempt ε σ β) (s : σ) :
    outcome (m >>= f) s =
      match outcome m s with
      | (.ok a, s') => outcome (f a) s'
      | (.error e, s') => (.error e, s') := by
  unfold outcome
  simp only [ExceptT.run_bind, StateT.run_bind]
  rcases m.run.run s with ⟨e | a, s'⟩ <;> rfl

variable {f : α → Attempt ε σ β}

theorem outcome_bind_eq_ok_iff {s s'' : σ} {b : β} :
    outcome (m >>= f) s = (.ok b, s'') ↔
      ∃ a s', outcome m s = (.ok a, s') ∧ outcome (f a) s' = (.ok b, s'') := by
  rw [outcome_bind]
  rcases outcome m s with ⟨e | a, s'⟩
  · simp
  · simp

theorem outcome_ofExcept_bind {x : Except ε α} {a : α} (h : x = .ok a) (f : α → Attempt ε σ β)
    (s : σ) : outcome (ofExcept x >>= f) s = outcome (f a) s := by
  rw [h]
  rfl

theorem outcome_get_bind (f : σ → Attempt ε σ α) (s : σ) :
    outcome (get >>= f) s = outcome (f s) s :=
  rfl

def Keeps (inv : σ → Prop) (m : Attempt ε σ α) : Prop :=
  ∀ s, inv s → inv (outcome m s).2

variable {inv : σ → Prop}

theorem Keeps.pure : Keeps inv (Pure.pure a : Attempt ε σ α) :=
  fun _ h => h

theorem Keeps.ofExcept : Keeps inv (ofExcept x : Attempt ε σ α) :=
  fun _ h => h

theorem Keeps.read : Keeps inv (get : Attempt ε σ σ) :=
  fun _ h => h

theorem Keeps.get_bind {f : σ → Attempt ε σ α} (h : ∀ s, Keeps inv (f s)) : Keeps inv (get >>= f) :=
  fun s hs => h s s hs

/-- The sequencing rule. -/
theorem Keeps.bind (hm : Keeps inv m) (hf : ∀ a, Keeps inv (f a)) : Keeps inv (m >>= f) := by
  intro s hs
  have hmid := hm s hs
  rw [outcome_bind]
  rcases houtcome : outcome m s with ⟨e | a, s'⟩
  · rwa [houtcome] at hmid
  · rw [houtcome] at hmid
    exact hf a s' hmid

theorem Keeps.forEach {γ : Type u} {cs : List γ} {f : γ → Attempt ε σ PUnit}
    (hf : ∀ c ∈ cs, Keeps inv (f c)) : Keeps inv (forEach cs f) := by
  induction cs with
  | nil => exact .pure _
  | cons c rest ih =>
    exact .bind (hf c List.mem_cons_self)
      fun _ => ih fun other hother => hf other (List.mem_cons_of_mem _ hother)

/-- What holds of the state holds when the attempt fails. -/
def LeavesOnFailure (inv : σ → Prop) (m : Attempt ε σ α) : Prop :=
  ∀ s, inv s → ∀ e s', outcome m s = (.error e, s') → inv s'

/-- The sequencing rule for failures. -/
theorem LeavesOnFailure.bind (hm : Keeps inv m) (hf : ∀ a, LeavesOnFailure inv (f a)) :
    LeavesOnFailure inv (m >>= f) := by
  intro s hs e s'' houtcome
  have hmid := hm s hs
  rw [outcome_bind] at houtcome
  rcases hfirst : outcome m s with ⟨e' | a, s'⟩
  · rw [hfirst] at houtcome hmid
    cases houtcome
    exact hmid
  · rw [hfirst] at houtcome hmid
    exact hf a s' hmid e s'' houtcome

end Attempt

end Effects
