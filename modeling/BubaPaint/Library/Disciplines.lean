import BubaPaint.Library.Program

/-!
# Disciplines of requests

A discipline is a small automaton that watches the exchanges of a program: in each of its states it
allows some requests, and each exchange leads to a next state. A program that obeys a discipline
keeps to it whatever the replies are, so that the request it waits for is always an allowed one.
-/

universe u v w x

namespace Effects

/-- What requests a program may make after what exchanges. -/
structure Discipline (Req : Type u) (Reply : Req → Type v) (G : Type x) where
  allowed : G → Req → Prop
  next : G → (call : Req) → Reply call → G

namespace Program

variable {Req : Type u} {Reply : Req → Type v} {G : Type x} {α β : Type w}
variable {d : Discipline Req Reply G}

/-- Started in a state of the discipline, the program makes only requests that are allowed when they
are made, and `post` holds of its value and the last state, whatever the replies are. -/
def Obeys (d : Discipline Req Reply G) (post : α → G → Prop) : Program Req Reply α → G → Prop
  | .pure a, g => post a g
  | .request call next, g =>
    d.allowed g call ∧ ∀ reply, Obeys d post (next reply) (d.next g call reply)

@[simp]
theorem obeys_pure (post : α → G → Prop) (a : α) (g : G) :
    Obeys d post (Pure.pure a : Program Req Reply α) g ↔ post a g :=
  Iff.rfl

@[simp]
theorem obeys_request (post : α → G → Prop) (call : Req) (next : Reply call → Program Req Reply α)
    (g : G) :
    Obeys d post (.request call next) g ↔
      d.allowed g call ∧ ∀ reply, Obeys d post (next reply) (d.next g call reply) :=
  Iff.rfl

/-- The sequencing rule. -/
@[simp]
theorem obeys_bind (post : β → G → Prop) (p : Program Req Reply α) (f : α → Program Req Reply β)
    (g : G) : Obeys d post (p >>= f) g ↔ Obeys d (fun a g' => Obeys d post (f a) g') p g := by
  induction p generalizing g with
  | pure a => exact Iff.rfl
  | request call next ih =>
    exact and_congr_right fun _ => forall_congr' fun reply => ih reply _

variable {p : Program Req Reply α} {g : G}

theorem Obeys.mono {post post' : α → G → Prop} (h : Obeys d post p g)
    (hpost : ∀ a g, post a g → post' a g) : Obeys d post' p g := by
  induction p generalizing g with
  | pure a => exact hpost a g h
  | request call next ih => exact ⟨h.1, fun reply => ih reply (h.2 reply)⟩

/-- A program whose requests are allowed in a state and leave it obeys the discipline there. -/
theorem Always.obeys {permitted : Req → Prop} {post : α → Prop} (h : Always permitted post p)
    (hstays : ∀ call, permitted call → d.allowed g call ∧ ∀ reply, d.next g call reply = g) :
    Obeys d (fun a g' => post a ∧ g' = g) p g := by
  induction p with
  | pure a => exact ⟨h, rfl⟩
  | request call next ih =>
    obtain ⟨hallowed, hnext⟩ := hstays call h.1
    refine ⟨hallowed, fun reply => ?_⟩
    rw [hnext reply]
    exact ih reply (h.2 reply)

end Program

end Effects
