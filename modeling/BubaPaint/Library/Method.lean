import BubaPaint.Library.Program

/-!
# Methods that can fail

A method runs on a receiver, calls its environment and can fail; what it has written to its receiver
before a failure stays. An invariant of the receiver and the exchanges so far is kept by a method if
each of its elementary steps keeps it.

Main results:

- Theorem `KeepsFrom.bind`: an invariant of two methods is one of their sequence.
-/

universe u v w

namespace Effects

open Program (Always Emits Given always_bind always_true emits_bind given_bind)

/-- A method with a receiver of type `S`: what it has written to the receiver stays when it fails. -/
abbrev Method (Req : Type u) (Reply : Req → Type v) (ε S : Type w) :=
  ExceptT ε (StateT S (Program Req Reply))

namespace Method

variable {Req : Type u} {Reply : Req → Type v} {ε S α β : Type w}

def on (m : Method Req Reply ε S α) (self : S) : Program Req Reply (Except ε α × S) :=
  (ExceptT.run m).run self

/-- Embed a program that does not touch the receiver. -/
def effect (p : Program Req Reply α) : Method Req Reply ε S α :=
  ExceptT.lift (StateT.lift p)

/-- Embed a fallible program that does not touch the receiver. -/
def attempt (p : ExceptT ε (Program Req Reply) α) : Method Req Reply ε S α :=
  ExceptT.mk (StateT.lift p.run)

def outcome (m : Method Req Reply ε S α) : Method Req Reply ε S (Except ε α) :=
  ExceptT.mk (m.run >>= fun r => pure (.ok r))

variable (m : Method Req Reply ε S α) (f : α → Method Req Reply ε S β) (e : ε) (a : α) (self : S)

@[simp]
theorem on_pure : on (pure a : Method Req Reply ε S α) self = pure (.ok a, self) :=
  rfl

/-- What follows an outcome: the next method after a value, nothing after a failure. -/
def andThen (f : α → Method Req Reply ε S β) :
    Except ε α × S → Program Req Reply (Except ε β × S)
  | (.ok a, self) => on (f a) self
  | (.error e, self) => pure (.error e, self)

@[simp]
theorem andThen_ok : andThen f (.ok a, self) = on (f a) self :=
  rfl

@[simp]
theorem andThen_error : andThen f (.error e, self) = pure (.error e, self) :=
  rfl

@[simp]
theorem on_bind : on (m >>= f) self = on m self >>= andThen f := by
  unfold on
  simp only [ExceptT.run_bind, StateT.run_bind]
  congr 1
  funext r
  rcases r with ⟨e | a, self⟩ <;> rfl

@[simp]
theorem on_throw : on (throw e : Method Req Reply ε S α) self = pure (.error e, self) :=
  rfl

@[simp]
theorem on_get : on (get : Method Req Reply ε S S) self = pure (.ok self, self) :=
  rfl

@[simp]
theorem on_modify (f : S → S) (self : S) :
    on (modify f : Method Req Reply ε S PUnit) self = pure (.ok ⟨⟩, f self) :=
  rfl

@[simp]
theorem on_effect (p : Program Req Reply α) (self : S) :
    on (effect p : Method Req Reply ε S α) self = p >>= fun a => pure (.ok a, self) := by
  simp only [on, effect, ExceptT.run_lift, StateT.run_map, StateT.run_lift, map_bind, map_pure]

@[simp]
theorem on_attempt (p : ExceptT ε (Program Req Reply) α) (self : S) :
    on (attempt p : Method Req Reply ε S α) self = p.run >>= fun r => pure (r, self) :=
  rfl

@[simp]
theorem on_outcome : on (outcome m) self = on m self >>= fun r => pure (.ok r.1, r.2) :=
  rfl

section Traces

variable {Req : Type u} {Reply : Req → Type v} {ε S α β : Type v} {self : S}
variable {post : Except ε β × S → List ((c : Req) × Reply c) → Prop}
variable {seen : List ((c : Req) × Reply c)}

theorem emits_on_bind (m : Method Req Reply ε S α) (f : α → Method Req Reply ε S β) :
    Emits post (on (m >>= f) self) seen ↔
      Emits (fun r seen' => Emits post (andThen f r) seen') (on m self) seen := by
  rw [on_bind, emits_bind]

theorem emits_get_bind (f : S → Method Req Reply ε S β) :
    Emits post (on (get >>= f) self) seen ↔ Emits post (on (f self) self) seen :=
  Iff.rfl

theorem emits_modify_bind (g : S → S) (f : PUnit → Method Req Reply ε S β) :
    Emits post (on (modify g >>= f) self) seen ↔ Emits post (on (f ⟨⟩) (g self)) seen :=
  Iff.rfl

end Traces

section Given

variable {Req : Type u} {Reply : Req → Type v} {ε S α β : Type v} {self : S}
variable {expected : (c : Req) → Reply c → Prop} {post : Except ε β × S → Prop}

theorem given_on_bind (m : Method Req Reply ε S α) (f : α → Method Req Reply ε S β) :
    Given expected post (on (m >>= f) self) ↔
      Given expected (fun r => Given expected post (andThen f r)) (on m self) := by
  rw [on_bind, given_bind]

theorem given_get_bind (f : S → Method Req Reply ε S β) :
    Given expected post (on (get >>= f) self) ↔ Given expected post (on (f self) self) :=
  Iff.rfl

theorem given_modify_bind (g : S → S) (f : PUnit → Method Req Reply ε S β) :
    Given expected post (on (modify g >>= f) self) ↔ Given expected post (on (f ⟨⟩) (g self)) :=
  Iff.rfl

end Given

/-! ## Invariants of a receiver and its trace -/

section Keeps

variable {Req : Type u} {Reply : Req → Type v} {ε S α β : Type v}
variable {inv : S → List ((c : Req) × Reply c) → Prop} {self : S}

/-- Started on `self` where `inv` holds of the receiver and the exchanges so far, the method ends
where it holds, whether it fails or not. -/
def KeepsFrom (inv : S → List ((c : Req) × Reply c) → Prop) (m : Method Req Reply ε S α)
    (self : S) : Prop :=
  ∀ seen, inv self seen → Emits (fun r seen' => inv r.2 seen') (on m self) seen

def Keeps (inv : S → List ((c : Req) × Reply c) → Prop) (m : Method Req Reply ε S α) : Prop :=
  ∀ self, KeepsFrom inv m self

variable {m : Method Req Reply ε S α} {p : Program Req Reply α}

theorem keepsFrom_pure (a : α) : KeepsFrom inv (pure a : Method Req Reply ε S α) self := by
  intro seen h
  exact h

theorem keepsFrom_throw (e : ε) : KeepsFrom inv (throw e : Method Req Reply ε S α) self := by
  intro seen h
  exact h

theorem keepsFrom_throw_bind (e : ε) (f : α → Method Req Reply ε S β) :
    KeepsFrom inv (throw e >>= f) self := by
  intro seen h
  exact h

variable {f : α → Method Req Reply ε S β} {post : α → Prop}

/-- The sequencing rule. -/
theorem KeepsFrom.bind (hm : KeepsFrom inv m self) (hf : ∀ a, Keeps inv (f a)) :
    KeepsFrom inv (m >>= f) self := by
  intro seen h
  rw [on_bind, emits_bind]
  refine (hm seen h).mono ?_
  rintro ⟨e | a, self'⟩ seen' hinv
  · exact hinv
  · exact hf a self' seen' hinv

def Returns (post : α → Prop) (m : Method Req Reply ε S α) (self : S) : Prop :=
  Always (fun _ => True) (fun r => ∀ a, r.1 = .ok a → post a) (on m self)

theorem returns_pure {a : α} (h : post a) :
    Returns post (pure a : Method Req Reply ε S α) self := by
  rintro _ ⟨⟩
  exact h

theorem returns_throw (e : ε) : Returns post (throw e : Method Req Reply ε S α) self := by
  rintro _ ⟨⟩

theorem returns_bind {post : β → Prop} (hf : ∀ a self, Returns post (f a) self) :
    Returns post (m >>= f) self := by
  unfold Returns
  rw [on_bind, always_bind]
  refine (always_true (on m self)).mono (fun _ h => h) ?_
  rintro ⟨e | a, self'⟩ _
  · rintro b ⟨⟩
  · exact hf a self'

theorem KeepsFrom.bind_returns (hm : KeepsFrom inv m self) (hpost : Returns post m self)
    (hf : ∀ a, post a → Keeps inv (f a)) : KeepsFrom inv (m >>= f) self := by
  intro seen h
  rw [on_bind, emits_bind]
  have hreturns := Always.emits hpost seen
  refine ((hm seen h).and hreturns).mono ?_
  rintro ⟨e | a, self'⟩ seen' ⟨hinv, hvalue, -⟩
  · exact hinv
  · exact hf a (hvalue a rfl) self' seen' hinv

/-- Reading the receiver passes it on. -/
theorem KeepsFrom.get_bind {f : S → Method Req Reply ε S β} (h : KeepsFrom inv (f self) self) :
    KeepsFrom inv (get >>= f) self :=
  h

/-- Writing the receiver has to keep the invariant. -/
theorem KeepsFrom.modify_bind {g : S → S} {f : PUnit → Method Req Reply ε S β}
    (hg : ∀ seen, inv self seen → inv (g self) seen) (h : KeepsFrom inv (f ⟨⟩) (g self)) :
    KeepsFrom inv (modify g >>= f) self := by
  intro seen hinv
  exact h seen (hg seen hinv)

section Exchanges

variable {permitted : Req → Prop} {post : α → Prop} (hp : Always permitted post p)
  (hcall : ∀ seen c reply, permitted c → inv self seen → inv self (seen ++ [⟨c, reply⟩]))

include hp hcall

theorem emits_of_exchanges {seen : List ((c : Req) × Reply c)} (h : inv self seen) :
    Emits (fun _ seen' => inv self seen') p seen := by
  induction p generalizing seen with
  | pure a => exact h
  | request c next ih =>
    intro reply
    exact ih reply (hp.2 reply) (hcall seen c reply hp.1 h)

theorem KeepsFrom.effect_bind {f : α → Method Req Reply ε S β} (hf : ∀ a, KeepsFrom inv (f a) self)
    : KeepsFrom inv (effect p >>= f) self := by
  intro seen h
  rw [on_bind, on_effect, emits_bind, emits_bind]
  exact (emits_of_exchanges hp hcall h).mono fun a seen' hinv => hf a seen' hinv

end Exchanges

theorem KeepsFrom.attempt_bind {permitted : Req → Prop} {post : Except ε α → Prop}
    {p : ExceptT ε (Program Req Reply) α} {f : α → Method Req Reply ε S β}
    (hp : Always permitted post p.run)
    (hcall : ∀ seen c reply, permitted c → inv self seen → inv self (seen ++ [⟨c, reply⟩]))
    (hf : ∀ a, KeepsFrom inv (f a) self) : KeepsFrom inv (attempt p >>= f) self := by
  intro seen h
  rw [on_bind, on_attempt, emits_bind, emits_bind]
  refine (emits_of_exchanges hp hcall h).mono ?_
  rintro (e | a) seen' hinv
  · exact hinv
  · exact hf a seen' hinv

theorem KeepsFrom.outcome (h : KeepsFrom inv m self) : KeepsFrom inv (outcome m) self := by
  intro seen hinv
  rw [on_outcome, emits_bind]
  exact h seen hinv

variable {σ : Type*} {Choice : Type*} {answer : Choice → (c : Req) → σ → Reply c × σ}

end Keeps

end Method

end Effects
