import BubaPaint.Library.Program

/-!
# Programs under given replies

When the reply to every request is known in advance, a program has one value and issues one list of
requests. Both are what its complete run yields, and a single answered request changes neither.
-/

universe u v w

namespace Effects

namespace Program

variable {Req : Type u} {Reply : Req → Type v} {α β : Type w} (replies : (c : Req) → Reply c)

def valueUnder : Program Req Reply α → α
  | .pure a => a
  | .request c next => valueUnder (next (replies c))

def requestsUnder : Program Req Reply α → List Req
  | .pure _ => []
  | .request c next => c :: requestsUnder (next (replies c))

variable (a : α) (c : Req) (p : Program Req Reply α) (f : α → Program Req Reply β)

@[simp]
theorem valueUnder_pure : valueUnder replies (Pure.pure a : Program Req Reply α) = a :=
  rfl

@[simp]
theorem requestsUnder_pure : requestsUnder replies (Pure.pure a : Program Req Reply α) = [] :=
  rfl

@[simp]
theorem valueUnder_request (next : Reply c → Program Req Reply α) :
    valueUnder replies (.request c next) = valueUnder replies (next (replies c)) :=
  rfl

@[simp]
theorem requestsUnder_request (next : Reply c → Program Req Reply α) :
    requestsUnder replies (.request c next) = c :: requestsUnder replies (next (replies c)) :=
  rfl

@[simp]
theorem valueUnder_bind :
    valueUnder replies (p >>= f) = valueUnder replies (f (valueUnder replies p)) := by
  induction p with
  | pure a => rfl
  | request c next ih => exact ih (replies c)

@[simp]
theorem requestsUnder_bind :
    requestsUnder replies (p >>= f) =
      requestsUnder replies p ++ requestsUnder replies (f (valueUnder replies p)) := by
  induction p with
  | pure a => rfl
  | request c next ih => exact congrArg (c :: ·) (ih (replies c))

@[simp]
theorem valueUnder_run_bind {ε : Type w} (x : ExceptT ε (Program Req Reply) α)
    (f : α → ExceptT ε (Program Req Reply) β) :
    valueUnder replies (x >>= f).run =
      valueUnder replies x.run >>= fun a => valueUnder replies (f a).run := by
  rw [run_bind_eq, valueUnder_bind]
  cases valueUnder replies x.run <;> rfl

@[simp]
theorem requestsUnder_run_bind {ε : Type w} (x : ExceptT ε (Program Req Reply) α)
    (f : α → ExceptT ε (Program Req Reply) β) :
    requestsUnder replies (x >>= f).run =
      requestsUnder replies x.run ++
        requestsUnder replies (afterOk (fun a => (f a).run) (valueUnder replies x.run)) := by
  rw [run_bind_eq, requestsUnder_bind]

section Traced

variable {γ δ : Type v} {expected : (c : Req) → Reply c → Prop}
variable {pre pre' : Req → List ((c : Req) × Reply c) → Prop}

/-- As long as every reply is expected, `pre` holds of every request and the exchanges before it,
and `post` of the value and all exchanges. -/
def Traced (expected : (c : Req) → Reply c → Prop) (pre : Req → List ((c : Req) × Reply c) → Prop)
    (post : γ → List ((c : Req) × Reply c) → Prop) :
    Program Req Reply γ → List ((c : Req) × Reply c) → Prop
  | .pure a, seen => post a seen
  | .request c next, seen => pre c seen ∧ ∀ reply, expected c reply →
      Traced expected pre post (next reply) (seen ++ [⟨c, reply⟩])

variable {p : Program Req Reply γ} {seen : List ((c : Req) × Reply c)}

@[simp]
theorem traced_pure (post : γ → List ((c : Req) × Reply c) → Prop) (a : γ)
    (seen : List ((c : Req) × Reply c)) :
    Traced expected pre post (Pure.pure a : Program Req Reply γ) seen ↔ post a seen :=
  Iff.rfl

variable {post post' : γ → List ((c : Req) × Reply c) → Prop}

@[simp]
theorem traced_request (c : Req) (next : Reply c → Program Req Reply γ)
    (seen : List ((c : Req) × Reply c)) :
    Traced expected pre post (.request c next) seen ↔
      pre c seen ∧ ∀ reply, expected c reply →
        Traced expected pre post (next reply) (seen ++ [⟨c, reply⟩]) :=
  Iff.rfl

@[simp]
theorem traced_bind {post : δ → List ((c : Req) × Reply c) → Prop} (p : Program Req Reply γ)
    (f : γ → Program Req Reply δ) (seen : List ((c : Req) × Reply c)) :
    Traced expected pre post (p >>= f) seen ↔
      Traced expected pre (fun a seen' => Traced expected pre post (f a) seen') p seen := by
  induction p generalizing seen with
  | pure a => exact Iff.rfl
  | request c next ih =>
    apply and_congr_right
    intro _
    exact forall_congr' fun reply => imp_congr_right fun _ => ih reply _

@[simp]
theorem traced_run_bind {ε : Type v} {post : Except ε δ → List ((c : Req) × Reply c) → Prop}
    (x : ExceptT ε (Program Req Reply) γ) (f : γ → ExceptT ε (Program Req Reply) δ)
    (seen : List ((c : Req) × Reply c)) :
    Traced expected pre post (x >>= f).run seen ↔
      Traced expected pre
        (fun r seen' => Traced expected pre post (afterOk (fun a => (f a).run) r) seen') x.run
        seen := by
  rw [run_bind_eq, traced_bind]

theorem Traced.mono (h : Traced expected pre post p seen)
    (hpre : ∀ c seen, pre c seen → pre' c seen) (hpost : ∀ a seen, post a seen → post' a seen) :
    Traced expected pre' post' p seen := by
  induction p generalizing seen with
  | pure a => exact hpost a seen h
  | request c next ih =>
    refine ⟨hpre c seen h.1, ?_⟩
    intro reply hreply
    exact ih reply (h.2 reply hreply)

theorem Traced.mono_post (h : Traced expected pre post p seen)
    (hpost : ∀ a seen, post a seen → post' a seen) : Traced expected pre post' p seen :=
  h.mono (fun _ _ hseen => hseen) hpost

theorem Always.traced {permitted : Req → Prop} {post : γ → Prop} (h : Always permitted post p)
    {inv : List ((c : Req) × Reply c) → Prop} (hinv : ∀ seen x, inv seen → inv (seen ++ [x]))
    (hseen : inv seen) :
    Traced expected (fun c seen => permitted c ∧ inv seen) (fun a seen => post a ∧ inv seen) p
      seen := by
  induction p generalizing seen with
  | pure a => exact ⟨h, hseen⟩
  | request c next ih =>
    refine ⟨⟨h.1, hseen⟩, ?_⟩
    intro reply _
    exact ih reply (h.2 reply) (hinv seen _ hseen)

end Traced

end Program

end Effects
