import BubaPaint.Library.Guards

/-!
# Programs that call an environment

A program either has finished with a value or issues one request and continues with the reply.
Nothing is said here about what a request does: an environment is a function that answers a request
in a state, steered by a choice that stands for everything outside the program (failures, replies of
remote parties, the clock).

Main results:

- Theorem `always_bind`, `sat_bind`: the sequencing rules
- Theorem `Sat.run`, `Sat.runFor`: soundness for complete and for cut-off runs
- Theorem `Always.sat`: an invariant of every permitted request holds along every run
-/

universe u v w

namespace Effects

/-- A program over requests `Req`, where request `call` is answered by a value of `Reply call`. -/
inductive Program (Req : Type u) (Reply : Req → Type v) (α : Type w) where
  | pure (value : α)
  | request (call : Req) (next : Reply call → Program Req Reply α)

namespace Program

variable {Req : Type u} {Reply : Req → Type v}

def bind {α β : Type w} (p : Program Req Reply α) (f : α → Program Req Reply β) :
    Program Req Reply β :=
  match p with
  | .pure a => f a
  | .request call next => .request call fun reply => (next reply).bind f

instance : Monad (Program Req Reply) where
  pure := .pure
  bind := .bind

instance : LawfulMonad (Program Req Reply) := LawfulMonad.mk' (Program Req Reply)
  (by
    intro α p
    induction p with
    | pure a => rfl
    | request call next ih => exact congrArg (Program.request call) (funext ih))
  (by
    intro α β a f
    rfl)
  (by
    intro α β γ p f g
    induction p with
    | pure a => rfl
    | request call next ih => exact congrArg (Program.request call) (funext ih))

/-- Issue one request and return its reply. -/
def call (c : Req) : Program Req Reply (Reply c) :=
  .request c .pure

@[simp]
theorem pure_eq {α : Type w} (a : α) : (Program.pure a : Program Req Reply α) = Pure.pure a :=
  rfl

@[simp]
theorem call_eq (c : Req) :
    (call c : Program Req Reply (Reply c)) = .request c fun reply => Pure.pure reply :=
  rfl

section Execution

variable {σ : Type*} {Choice : Type*} {α β : Type w}
variable (answer : Choice → (c : Req) → σ → Reply c × σ)

/-- The complete run of a program whose `n`-th request is answered under the choice `oracle n`. -/
def run : Program Req Reply α → (ℕ → Choice) → σ → α × σ
  | .pure a, _, s => (a, s)
  | .request c next, oracle, s =>
    run (next (answer (oracle 0) c s).1) (fun n => oracle (n + 1)) (answer (oracle 0) c s).2

/-- Answer the next request of a program; a finished program stays finished. -/
def advance (choice : Choice) : Program Req Reply α × σ → Program Req Reply α × σ
  | (.pure a, s) => (.pure a, s)
  | (.request c next, s) => (next (answer choice c s).1, (answer choice c s).2)

/-- The program and the state left when a run is cut off after the listed choices. -/
def runFor (choices : List Choice) (x : Program Req Reply α × σ) : Program Req Reply α × σ :=
  choices.foldl (fun x choice => advance answer choice x) x

def pending? : Program Req Reply α → Option Req
  | .pure _ => none
  | .request c _ => some c

/-- The number of requests a complete run makes. -/
def steps : Program Req Reply α → (ℕ → Choice) → σ → ℕ
  | .pure _, _, _ => 0
  | .request c next, oracle, s =>
    steps (next (answer (oracle 0) c s).1) (fun n => oracle (n + 1)) (answer (oracle 0) c s).2 + 1

theorem run_bind (p : Program Req Reply α) (f : α → Program Req Reply β) (oracle : ℕ → Choice)
    (s : σ) :
    run answer (p >>= f) oracle s =
      run answer (f (run answer p oracle s).1) (fun n => oracle (n + steps answer p oracle s))
        (run answer p oracle s).2 := by
  induction p generalizing oracle s with
  | pure a => rfl
  | request c next ih =>
    have hnext := ih (answer (oracle 0) c s).1 (fun n => oracle (n + 1)) (answer (oracle 0) c s).2
    refine hnext.trans ?_
    simp only [run, steps, Nat.add_assoc]

end Execution

section Always

variable {α β : Type w}

/-- Every request of the program is permitted and every value it can return satisfies `post`,
whatever the replies are. -/
def Always (permitted : Req → Prop) (post : α → Prop) : Program Req Reply α → Prop
  | .pure a => post a
  | .request c next => permitted c ∧ ∀ reply, Always permitted post (next reply)

variable {permitted permitted' : Req → Prop}

@[simp]
theorem always_pure (post : α → Prop) (a : α) :
    Always permitted post (Pure.pure a : Program Req Reply α) ↔ post a :=
  Iff.rfl

variable {post : α → Prop} {p : Program Req Reply α}

@[simp]
theorem always_request (c : Req) (next : Reply c → Program Req Reply α) :
    Always permitted post (.request c next) ↔
      permitted c ∧ ∀ reply, Always permitted post (next reply) :=
  Iff.rfl

/-- The sequencing rule for properties of every outcome. -/
@[simp]
theorem always_bind {post : β → Prop} (p : Program Req Reply α) (f : α → Program Req Reply β) :
    Always permitted post (p >>= f) ↔
      Always permitted (fun a => Always permitted post (f a)) p := by
  induction p with
  | pure a => exact Iff.rfl
  | request c next ih =>
    exact and_congr_right fun _ => forall_congr' ih

@[simp]
theorem always_map {post : β → Prop} (f : α → β) (p : Program Req Reply α) :
    Always permitted post (f <$> p) ↔ Always permitted (fun a => post (f a)) p := by
  rw [← bind_pure_comp, always_bind]
  exact Iff.rfl

theorem Always.mono {post' : α → Prop} (h : Always permitted post p)
    (hpermitted : ∀ c, permitted c → permitted' c) (hpost : ∀ a, post a → post' a) :
    Always permitted' post' p := by
  induction p with
  | pure a => exact hpost a h
  | request c next ih =>
    exact ⟨hpermitted c h.1, fun reply => ih reply (h.2 reply)⟩

theorem always_true (p : Program Req Reply α) : Always (fun _ => True) (fun _ => True) p := by
  induction p with
  | pure a => trivial
  | request c next ih => exact ⟨trivial, ih⟩

variable {σ : Type*} {Choice : Type*} (answer : Choice → (c : Req) → σ → Reply c × σ)

theorem Always.run_congr (h : Always permitted post p) (alike : σ → σ → Prop)
    (halike : ∀ choice c s s', permitted c → alike s s' →
      (answer choice c s).1 = (answer choice c s').1 ∧
        alike (answer choice c s).2 (answer choice c s').2) (oracle : ℕ → Choice) {s s' : σ}
    (hs : alike s s') : (Program.run answer p oracle s).1 = (Program.run answer p oracle s').1 := by
  induction p generalizing oracle s s' with
  | pure a => rfl
  | request c next ih =>
    obtain ⟨hreply, hafter⟩ := halike (oracle 0) c s s' h.1 hs
    simp only [Program.run]
    rw [← hreply]
    exact ih _ (h.2 _) _ hafter

end Always

/-! ## Properties of every trace -/

section Emits

variable {α β : Type v} {permitted : Req → Prop}

/-- Whatever the replies are, `post` holds of the value and of the exchanges `seen` before the
program followed by the program's own. -/
def Emits (post : α → List ((c : Req) × Reply c) → Prop) :
    Program Req Reply α → List ((c : Req) × Reply c) → Prop
  | .pure a, seen => post a seen
  | .request c next, seen => ∀ reply, Emits post (next reply) (seen ++ [⟨c, reply⟩])

variable {p : Program Req Reply α} {seen : List ((c : Req) × Reply c)}

@[simp]
theorem emits_pure (post : α → List ((c : Req) × Reply c) → Prop) (a : α)
    (seen : List ((c : Req) × Reply c)) :
    Emits post (Pure.pure a : Program Req Reply α) seen ↔ post a seen :=
  Iff.rfl

variable {post : α → List ((c : Req) × Reply c) → Prop}

@[simp]
theorem emits_request (c : Req) (next : Reply c → Program Req Reply α)
    (seen : List ((c : Req) × Reply c)) :
    Emits post (.request c next) seen ↔ ∀ reply, Emits post (next reply) (seen ++ [⟨c, reply⟩]) :=
  Iff.rfl

@[simp]
theorem emits_bind {post : β → List ((c : Req) × Reply c) → Prop} (p : Program Req Reply α)
    (f : α → Program Req Reply β) (seen : List ((c : Req) × Reply c)) :
    Emits post (p >>= f) seen ↔ Emits (fun a seen' => Emits post (f a) seen') p seen := by
  induction p generalizing seen with
  | pure a => exact Iff.rfl
  | request c next ih => exact forall_congr' fun reply => ih reply _

@[simp]
theorem emits_map {post : β → List ((c : Req) × Reply c) → Prop} (f : α → β)
    (p : Program Req Reply α) (seen : List ((c : Req) × Reply c)) :
    Emits post (f <$> p) seen ↔ Emits (fun a seen' => post (f a) seen') p seen := by
  rw [← bind_pure_comp, emits_bind]
  exact Iff.rfl

variable {post' : α → List ((c : Req) × Reply c) → Prop}

theorem Emits.and (h : Emits post p seen) (h' : Emits post' p seen) :
    Emits (fun a seen => post a seen ∧ post' a seen) p seen := by
  induction p generalizing seen with
  | pure a => exact ⟨h, h'⟩
  | request c next ih =>
    intro reply
    exact ih reply (h reply) (h' reply)

theorem Emits.mono (h : Emits post p seen) (hpost : ∀ a seen, post a seen → post' a seen) :
    Emits post' p seen := by
  induction p generalizing seen with
  | pure a => exact hpost a seen h
  | request c next ih =>
    intro reply
    exact ih reply (h reply)

/-- A program only adds exchanges. -/
theorem Emits.extends (h : Emits post p seen) :
    Emits (fun a seen' => post a seen' ∧ ∃ own, seen' = seen ++ own) p seen := by
  induction p generalizing seen with
  | pure a => exact ⟨h, [], (List.append_nil seen).symm⟩
  | request c next ih =>
    intro reply
    refine (ih reply (h reply)).mono ?_
    rintro a _ ⟨hpost, own, rfl⟩
    exact ⟨hpost, ⟨c, reply⟩ :: own, by simp⟩

theorem Always.emits {post : α → Prop} (h : Always permitted post p)
    (seen : List ((c : Req) × Reply c)) :
    Emits (fun a seen' => post a ∧ ∃ own, seen' = seen ++ own ∧ ∀ x ∈ own, permitted x.1) p
      seen := by
  induction p generalizing seen with
  | pure a => exact ⟨h, [], by simp, by simp⟩
  | request c next ih =>
    intro reply
    refine (ih reply (h.2 reply) _).mono ?_
    rintro a _ ⟨hpost, own, rfl, hown⟩
    refine ⟨hpost, ⟨c, reply⟩ :: own, by simp, ?_⟩
    intro x hx
    rcases List.mem_cons.mp hx with rfl | hrest
    · exact h.1
    · exact hown x hrest

variable {σ : Type*} {Choice : Type*} {answer : Choice → (c : Req) → σ → Reply c × σ}

/-- Soundness for an environment whose state records the exchanges. -/
theorem Emits.run (h : Emits post p seen) (record : σ → List ((c : Req) × Reply c))
    (hrecord : ∀ choice c s,
      record (answer choice c s).2 = record s ++ [⟨c, (answer choice c s).1⟩])
    (oracle : ℕ → Choice) (s : σ) :
    ∃ own, record (Program.run answer p oracle s).2 = record s ++ own ∧
      post (Program.run answer p oracle s).1 (seen ++ own) := by
  induction p generalizing seen oracle s with
  | pure a => exact ⟨[], by simp [Program.run], by simpa [Program.run] using h⟩
  | request c next ih =>
    obtain ⟨own, hown, hpost⟩ := ih _ (h (answer (oracle 0) c s).1) (fun n => oracle (n + 1))
      (answer (oracle 0) c s).2
    refine ⟨⟨c, (answer (oracle 0) c s).1⟩ :: own, ?_, ?_⟩
    · simpa [Program.run, hrecord] using hown
    · simpa [Program.run] using hpost

end Emits

section Given

variable {α β : Type v} {expected : (c : Req) → Reply c → Prop}

/-- As long as every reply is expected, the value satisfies `post`. -/
def Given (expected : (c : Req) → Reply c → Prop) (post : α → Prop) : Program Req Reply α → Prop
  | .pure a => post a
  | .request c next => ∀ reply, expected c reply → Given expected post (next reply)

variable {p : Program Req Reply α}

@[simp]
theorem given_pure (post : α → Prop) (a : α) :
    Given expected post (Pure.pure a : Program Req Reply α) ↔ post a :=
  Iff.rfl

variable {post : α → Prop}

@[simp]
theorem given_request (c : Req) (next : Reply c → Program Req Reply α) :
    Given expected post (.request c next) ↔
      ∀ reply, expected c reply → Given expected post (next reply) :=
  Iff.rfl

@[simp]
theorem given_bind {post : β → Prop} (p : Program Req Reply α) (f : α → Program Req Reply β) :
    Given expected post (p >>= f) ↔ Given expected (fun a => Given expected post (f a)) p := by
  induction p with
  | pure a => exact Iff.rfl
  | request c next ih =>
    exact forall_congr' fun reply => imp_congr_right fun _ => ih reply

@[simp]
theorem given_map {post : β → Prop} (f : α → β) (p : Program Req Reply α) :
    Given expected post (f <$> p) ↔ Given expected (fun a => post (f a)) p := by
  rw [← bind_pure_comp, given_bind]
  exact Iff.rfl

theorem Given.mono {post' : α → Prop} (h : Given expected post p) (hpost : ∀ a, post a → post' a) :
    Given expected post' p := by
  induction p with
  | pure a => exact hpost a h
  | request c next ih =>
    intro reply hreply
    exact ih reply (h reply hreply)

theorem Always.given {permitted : Req → Prop} (h : Always permitted post p) :
    Given expected post p := by
  induction p with
  | pure a => exact h
  | request c next ih => exact fun reply _ => ih reply (h.2 reply)

theorem Given.emits (h : Given expected post p) (seen : List ((c : Req) × Reply c)) :
    Emits (fun a seen' => (∀ x ∈ seen', expected x.1 x.2) → post a) p seen := by
  induction p generalizing seen with
  | pure a => exact fun _ => h
  | request c next ih =>
    intro reply
    by_cases hreply : expected c reply
    · exact ih reply (h reply hreply) _
    · have hextends : Emits (fun _ seen' => ∃ own, seen' = seen ++ [⟨c, reply⟩] ++ own)
          (next reply) (seen ++ [⟨c, reply⟩]) :=
        ((Always.emits (always_true (next reply)) _).extends).mono fun _ _ h => h.2
      refine hextends.mono ?_
      rintro a _ ⟨own, rfl⟩ hall
      exact absurd (hall ⟨c, reply⟩ (by simp)) hreply

end Given

/-! ## Properties of every point of a run -/

section Sat

variable {σ : Type*} {Choice : Type*} {α β : Type w}

/-- Whatever allowed choices the environment makes, `pre` holds of every request and the state it is
issued in, and `post` holds of the value and the state when the program finishes. -/
def Sat (answer : Choice → (c : Req) → σ → Reply c × σ) (allowed : Choice → Prop)
    (pre : Req → σ → Prop) (post : α → σ → Prop) : Program Req Reply α → σ → Prop
  | .pure a, s => post a s
  | .request c next, s => pre c s ∧ ∀ choice, allowed choice →
      Sat answer allowed pre post (next (answer choice c s).1) (answer choice c s).2

variable {answer : Choice → (c : Req) → σ → Reply c × σ} {allowed : Choice → Prop}
variable {pre pre' : Req → σ → Prop}
variable {p : Program Req Reply α} {s : σ}

@[simp]
theorem sat_pure (post : α → σ → Prop) (a : α) (s : σ) :
    Sat answer allowed pre post (Pure.pure a : Program Req Reply α) s ↔ post a s :=
  Iff.rfl

variable {post : α → σ → Prop}

@[simp]
theorem sat_request (c : Req) (next : Reply c → Program Req Reply α) (s : σ) :
    Sat answer allowed pre post (.request c next) s ↔
      pre c s ∧ ∀ choice, allowed choice →
        Sat answer allowed pre post (next (answer choice c s).1) (answer choice c s).2 :=
  Iff.rfl

/-- The sequencing rule for runs. -/
@[simp]
theorem sat_bind {post : β → σ → Prop} (p : Program Req Reply α) (f : α → Program Req Reply β)
    (s : σ) :
    Sat answer allowed pre post (p >>= f) s ↔
      Sat answer allowed pre (fun a s' => Sat answer allowed pre post (f a) s') p s := by
  induction p generalizing s with
  | pure a => exact Iff.rfl
  | request c next ih =>
    apply and_congr_right
    intro _
    exact forall_congr' fun choice => imp_congr_right fun _ => ih _ _

@[simp]
theorem sat_map {post : β → σ → Prop} (f : α → β) (p : Program Req Reply α) (s : σ) :
    Sat answer allowed pre post (f <$> p) s ↔
      Sat answer allowed pre (fun a s' => post (f a) s') p s := by
  rw [← bind_pure_comp, sat_bind]
  exact Iff.rfl

variable {post' : α → σ → Prop}

theorem Sat.mono (h : Sat answer allowed pre post p s) (hpre : ∀ c s, pre c s → pre' c s)
    (hpost : ∀ a s, post a s → post' a s) : Sat answer allowed pre' post' p s := by
  induction p generalizing s with
  | pure a => exact hpost a s h
  | request c next ih =>
    refine ⟨hpre c s h.1, ?_⟩
    intro choice hallowed
    exact ih _ (h.2 choice hallowed)

theorem Sat.mono_post (h : Sat answer allowed pre post p s) (hpost : ∀ a s, post a s → post' a s) :
    Sat answer allowed pre post' p s :=
  h.mono (fun _ _ hs => hs) hpost

/-- Soundness for complete runs. -/
theorem Sat.run (h : Sat answer allowed pre post p s) {oracle : ℕ → Choice}
    (horacle : ∀ n, allowed (oracle n)) :
    post (Program.run answer p oracle s).1 (Program.run answer p oracle s).2 := by
  induction p generalizing oracle s with
  | pure a => exact h
  | request c next ih =>
    have hnext := h.2 _ (horacle 0)
    exact ih _ hnext fun n => horacle (n + 1)

theorem Sat.advance (h : Sat answer allowed pre post p s) {choice : Choice}
    (hchoice : allowed choice) :
    Sat answer allowed pre post (Program.advance answer choice (p, s)).1
      (Program.advance answer choice (p, s)).2 := by
  cases p with
  | pure a => exact h
  | request c next => exact h.2 choice hchoice

/-- Soundness for runs that are cut off at any point. -/
theorem Sat.runFor (h : Sat answer allowed pre post p s) {choices : List Choice}
    (hchoices : ∀ choice ∈ choices, allowed choice) :
    Sat answer allowed pre post (Program.runFor answer choices (p, s)).1
      (Program.runFor answer choices (p, s)).2 := by
  induction choices generalizing p s with
  | nil => exact h
  | cons choice choices ih =>
    have hnext := h.advance (hchoices choice (by simp))
    exact ih hnext fun c hc => hchoices c (by simp [hc])

theorem Sat.pending (h : Sat answer allowed pre post p s) :
    (∃ c, p.pending? = some c ∧ pre c s) ∨ ∃ a, p = Pure.pure a ∧ post a s := by
  cases p with
  | pure a => exact .inr ⟨a, rfl, h⟩
  | request c next => exact .inl ⟨c, rfl, h.1⟩

/-- An invariant that every permitted request preserves holds along every run of a program that
issues no others. -/
theorem Always.sat {permitted : Req → Prop} {post : α → Prop} {inv : σ → Prop}
    (h : Always permitted post p)
    (hanswer : ∀ choice c s, allowed choice → permitted c → inv s → inv (answer choice c s).2)
    (hinv : inv s) :
    Sat answer allowed (fun c s => permitted c ∧ inv s) (fun a s' => post a ∧ inv s') p s := by
  induction p generalizing s with
  | pure a => exact ⟨h, hinv⟩
  | request c next ih =>
    refine ⟨⟨h.1, hinv⟩, ?_⟩
    intro choice hchoice
    have hinv' := hanswer choice c s hchoice h.1 hinv
    exact ih _ (h.2 _) hinv'

end Sat

section Fallible

variable {σ : Type*} {Choice : Type*} {ε α β : Type w}

theorem forall_except {motive : Except ε α → Prop} :
    (∀ r, motive r) ↔ (∀ a, motive (.ok a)) ∧ ∀ e, motive (.error e) := by
  constructor
  · intro h
    exact ⟨fun a => h _, fun e => h _⟩
  · rintro ⟨hok, herror⟩ (e | a)
    · exact herror e
    · exact hok a

/-- What follows an outcome: the continuation after a value, the error itself otherwise. -/
def afterOk (next : α → Program Req Reply (Except ε β)) :
    Except ε α → Program Req Reply (Except ε β)
  | .ok a => next a
  | .error e => Pure.pure (.error e)

variable (next : α → Program Req Reply (Except ε β)) (x : ExceptT ε (Program Req Reply) α)
variable (f : α → ExceptT ε (Program Req Reply) β)

@[simp]
theorem afterOk_ok (a : α) : afterOk next (.ok a) = next a :=
  rfl

@[simp]
theorem afterOk_error (e : ε) : afterOk next (.error e) = Pure.pure (.error e) :=
  rfl

theorem run_bind_eq : (x >>= f).run = x.run >>= afterOk fun a => (f a).run := by
  rw [ExceptT.run_bind]
  congr 1

@[simp]
theorem always_run_bind {permitted : Req → Prop} {post : Except ε β → Prop} :
    Always permitted post (x >>= f).run ↔
      Always permitted (fun r => Always permitted post (afterOk (fun a => (f a).run) r)) x.run := by
  rw [run_bind_eq, always_bind]

@[simp]
theorem emits_run_bind {ε α β : Type v} {post : Except ε β → List ((c : Req) × Reply c) → Prop}
    (x : ExceptT ε (Program Req Reply) α) (f : α → ExceptT ε (Program Req Reply) β)
    (seen : List ((c : Req) × Reply c)) :
    Emits post (x >>= f).run seen ↔
      Emits (fun r seen' => Emits post (afterOk (fun a => (f a).run) r) seen') x.run seen := by
  rw [run_bind_eq, emits_bind]

@[simp]
theorem sat_run_bind {answer : Choice → (c : Req) → σ → Reply c × σ} {allowed : Choice → Prop}
    {pre : Req → σ → Prop} {post : Except ε β → σ → Prop} (s : σ) :
    Sat answer allowed pre post (x >>= f).run s ↔
      Sat answer allowed pre
        (fun r s' => Sat answer allowed pre post (afterOk (fun a => (f a).run) r) s') x.run s := by
  rw [run_bind_eq, sat_bind]

end Fallible

end Program

end Effects
