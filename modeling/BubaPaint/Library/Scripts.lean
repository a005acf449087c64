import Mathlib.Data.List.Basic

/-!
# Scripts that are cut off and run again

A script is a list of passes. A pass reads the state and issues statements, one after the other; each
statement takes effect as a whole, and the script can be cut off between any two of them.
-/

universe u

namespace Effects

/-- The statements that are issued in a state. -/
abbrev Pass (σ : Type u) : Type u :=
  σ → List (σ → σ)

/-- Passes in order. -/
abbrev Script (σ : Type u) : Type u :=
  List (Pass σ)

variable {σ : Type u}

def issue (statements : List (σ → σ)) (s : σ) : σ :=
  statements.foldl (fun s statement => statement s) s

@[simp]
theorem issue_nil (s : σ) : issue [] s = s :=
  rfl

@[simp]
theorem issue_cons (statement : σ → σ) (rest : List (σ → σ)) (s : σ) :
    issue (statement :: rest) s = issue rest (statement s) :=
  rfl

theorem issue_induction (inv : σ → Prop) {statements : List (σ → σ)} {s : σ} (hstart : inv s)
    (hstep : ∀ statement ∈ statements, ∀ s, inv s → inv (statement s)) :
    inv (issue statements s) := by
  induction statements generalizing s with
  | nil => exact hstart
  | cons statement rest ih =>
    exact ih (hstep statement List.mem_cons_self s hstart)
      fun other hother => hstep other (List.mem_cons_of_mem _ hother)

namespace Script

def run (script : Script σ) (s : σ) : σ :=
  script.foldl (fun s pass => issue (pass s) s) s

/-- The state after the given number of statements, or after the whole run. -/
def cut : Script σ → ℕ → σ → σ
  | [], _, s => s
  | pass :: rest, n, s =>
    if n < (pass s).length then issue ((pass s).take n) s
    else cut rest (n - (pass s).length) (issue (pass s) s)

@[simp]
theorem run_nil (s : σ) : run [] s = s :=
  rfl

@[simp]
theorem run_cons (pass : Pass σ) (rest : Script σ) (s : σ) :
    run (pass :: rest) s = run rest (issue (pass s) s) :=
  rfl

theorem cut_cons (pass : Pass σ) (rest : Script σ) (n : ℕ) (s : σ) :
    cut (pass :: rest) n s =
      if n < (pass s).length then issue ((pass s).take n) s
      else cut rest (n - (pass s).length) (issue (pass s) s) :=
  rfl

theorem run_append (script rest : Script σ) (s : σ) :
    run (script ++ rest) s = run rest (run script s) := by
  simp [run]

theorem cut_eq_run (script : Script σ) (s : σ) :
    ∃ total, ∀ n, total ≤ n → cut script n s = run script s := by
  induction script generalizing s with
  | nil => exact ⟨0, fun _ _ => rfl⟩
  | cons pass rest ih =>
    rcases ih (issue (pass s) s) with ⟨total, htotal⟩
    refine ⟨(pass s).length + total, fun n hn => ?_⟩
    rw [cut_cons, if_neg (by omega), run_cons]
    exact htotal _ (by omega)

/-- A script is cut off before its last pass, or in it. -/
theorem cut_concat (script : Script σ) (last : Pass σ) (n : ℕ) (s : σ) :
    (∃ m, cut (script ++ [last]) n s = cut script m s) ∨
      ∃ m, cut (script ++ [last]) n s = issue ((last (run script s)).take m) (run script s) := by
  induction script generalizing n s with
  | nil =>
    right
    by_cases hcut : n < (last s).length
    · exact ⟨n, by simp [cut, hcut]⟩
    · exact ⟨(last s).length, by simp [cut, hcut]⟩
  | cons pass rest ih =>
    by_cases hcut : n < (pass s).length
    · exact .inl ⟨n, by simp [cut, hcut]⟩
    · rcases ih (n - (pass s).length) (issue (pass s) s) with ⟨m, hm⟩ | ⟨m, hm⟩
      · refine .inl ⟨(pass s).length + m, ?_⟩
        have hbeyond : ¬ (pass s).length + m < (pass s).length := by omega
        simpa [cut, hcut, hbeyond] using hm
      · exact .inr ⟨m, by simpa [cut, hcut] using hm⟩

/-- From a state with `pre`, every cut leaves a related state, and the whole run one with
`post`. -/
structure Upholds (rel : σ → σ → Prop) (pre post : σ → Prop) (script : Script σ) : Prop where
  cut : ∀ s, pre s → ∀ n, rel s (script.cut n s)
  run : ∀ s, pre s → rel s (script.run s) ∧ post (script.run s)

/-- From a state with `pre`, any part of the statements of a pass leaves a related state, and
all of them one with `post`. -/
structure UpholdsPass (rel : σ → σ → Prop) (pre post : σ → Prop) (pass : Pass σ) : Prop where
  part : ∀ s, pre s → ∀ n, rel s (issue ((pass s).take n) s)
  whole : ∀ s, pre s → post (issue (pass s) s)

variable {rel : σ → σ → Prop} {pre mid post : σ → Prop} {pass : Pass σ} {script : Script σ}

theorem UpholdsPass.rel_whole (h : UpholdsPass rel pre post pass) {s : σ} (hs : pre s) :
    rel s (issue (pass s) s) := by
  simpa using h.part s hs (pass s).length

theorem UpholdsPass.single {statement : σ → σ} (hrefl : ∀ s, rel s s)
    (hrel : ∀ s, pre s → rel s (statement s)) (hpost : ∀ s, pre s → post (statement s)) :
    UpholdsPass rel pre post fun _ => [statement] where
  part s hs n := by
    cases n with
    | zero => exact hrefl s
    | succ n => simpa using hrel s hs
  whole s hs := hpost s hs

theorem Upholds.nil (hrefl : ∀ s, rel s s) : Upholds rel pre pre [] where
  cut s _ _ := hrefl s
  run s hs := ⟨hrefl s, hs⟩

/-- A pass comes before a script. -/
theorem Upholds.cons (htrans : ∀ s s' s'', rel s s' → rel s' s'' → rel s s'')
    (hpass : UpholdsPass rel pre mid pass) (hscript : Upholds rel mid post script) :
    Upholds rel pre post (pass :: script) where
  cut s hs n := by
    by_cases hcut : n < (pass s).length
    · simpa [Script.cut, hcut] using hpass.part s hs n
    · simpa [Script.cut, hcut] using
        htrans _ _ _ (hpass.rel_whole hs) (hscript.cut _ (hpass.whole s hs) _)
  run s hs := by
    rcases hscript.run _ (hpass.whole s hs) with ⟨hrel, hpost⟩
    exact ⟨htrans _ _ _ (hpass.rel_whole hs) hrel, hpost⟩

theorem Upholds.of_statements (hrefl : ∀ s, rel s s)
    (htrans : ∀ s s' s'', rel s s' → rel s' s'' → rel s s'')
    (h : ∀ pass ∈ script, ∀ s, ∀ statement ∈ pass s, ∀ s', rel s' (statement s')) :
    Upholds rel (fun _ => True) (fun _ => True) script := by
  induction script with
  | nil => exact .nil hrefl
  | cons pass rest ih =>
    refine .cons htrans ⟨fun s _ n => ?_, fun _ _ => trivial⟩
      (ih fun other hother => h other (List.mem_cons_of_mem _ hother))
    refine issue_induction (rel s) (hrefl s) fun statement hstatement s' hs' => ?_
    exact htrans _ _ _ hs' (h pass List.mem_cons_self s statement
      (List.mem_of_mem_take hstatement) s')

end Script

end Effects
