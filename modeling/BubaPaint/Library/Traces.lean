import Mathlib.Data.List.Basic

/-!
# Traces of a machine

A machine takes one input after the other and puts out one record for each. Two machines whose
states agree in what matters put out the same records.

Main results:

- Theorem `trace_append`: the trace of inputs that come in two parts
- Theorem `forall_mem_visits`: what every input keeps holds along the run
- Theorem `trace_eq_of_agree`: two runs that agree throughout
- Theorem `filter_trace_eq`: two runs whose early inputs are the same
- Theorem `trace_eq_of_simulation`: two machines that agree under a clock
- Theorem `agree_of_takeover`: a machine that takes over the records of another one
-/

universe u v w

namespace Effects

open List

variable {σ τ κ : Type u} {α : Type v} {ρ : Type w}

/-- The records of a run. -/
def trace (step : σ → α → ρ × σ) : σ → List α → List ρ
  | _, [] => []
  | s, a :: rest => (step s a).1 :: trace step (step s a).2 rest

/-- The state after a run. -/
def final (step : σ → α → ρ × σ) : σ → List α → σ
  | s, [] => s
  | s, a :: rest => final step (step s a).2 rest

/-- The states a run is in when it takes its inputs. -/
def visits (step : σ → α → ρ × σ) : σ → List α → List (σ × α)
  | _, [] => []
  | s, a :: rest => (s, a) :: visits step (step s a).2 rest

section Laws

variable {step : σ → α → ρ × σ}
variable {inputs : List α} {s s' : σ}

theorem trace_eq_map_visits (s : σ) (inputs : List α) :
    trace step s inputs = (visits step s inputs).map fun visit => (step visit.1 visit.2).1 := by
  induction inputs generalizing s with
  | nil => rfl
  | cons a rest ih => exact congrArg _ (ih _)

/-- What every input keeps holds wherever a run comes by. -/
theorem forall_mem_visits (inv : σ → Prop) (hstart : inv s)
    (hstep : ∀ s, ∀ a ∈ inputs, inv s → inv (step s a).2) :
    (∀ visit ∈ visits step s inputs, inv visit.1) ∧ inv (final step s inputs) := by
  induction inputs generalizing s with
  | nil => exact ⟨fun visit hvisit => absurd hvisit not_mem_nil, hstart⟩
  | cons a rest ih =>
    have hnext := hstep s a mem_cons_self hstart
    obtain ⟨hrest, hend⟩ := ih hnext fun s b hb => hstep s b (mem_cons_of_mem _ hb)
    exact ⟨forall_mem_cons.mpr ⟨hstart, hrest⟩, hend⟩

theorem final_of_forall_visits (inv : σ → Prop) (hstart : inv s)
    (hstep : ∀ visit ∈ visits step s inputs, inv visit.1 → inv (step visit.1 visit.2).2) :
    inv (final step s inputs) := by
  induction inputs generalizing s with
  | nil => exact hstart
  | cons a rest ih =>
    have hnext := hstep (s, a) mem_cons_self hstart
    exact ih hnext fun visit hvisit => hstep visit (mem_cons_of_mem _ hvisit)

theorem mem_of_mem_visits {visit : σ × α} (h : visit ∈ visits step s inputs) :
    visit.2 ∈ inputs := by
  induction inputs generalizing s with
  | nil => simp [visits] at h
  | cons a rest ih =>
    rcases mem_cons.mp h with heq | hrest
    · simp [heq]
    · exact mem_cons_of_mem _ (ih hrest)

theorem final_append (s : σ) (early late : List α) :
    final step s (early ++ late) = final step (final step s early) late := by
  induction early generalizing s with
  | nil => rfl
  | cons a rest ih => exact ih _

theorem visits_append (s : σ) (early late : List α) :
    visits step s (early ++ late) =
      visits step s early ++ visits step (final step s early) late := by
  induction early generalizing s with
  | nil => rfl
  | cons a rest ih => exact congrArg _ (ih _)

theorem trace_append (s : σ) (early late : List α) :
    trace step s (early ++ late) = trace step s early ++ trace step (final step s early) late := by
  induction early generalizing s with
  | nil => rfl
  | cons a rest ih => exact congrArg _ (ih _)

theorem forall_mem_trace {P : ρ → Prop} (s : σ) (h : ∀ s, ∀ a ∈ inputs, P (step s a).1) :
    ∀ record ∈ trace step s inputs, P record := by
  induction inputs generalizing s with
  | nil => exact fun record hrecord => absurd hrecord not_mem_nil
  | cons a rest ih =>
    intro record hrecord
    rcases mem_cons.mp hrecord with hfirst | hrest
    · rw [hfirst]
      exact h s a mem_cons_self
    · exact ih _ (fun s b hb => h s b (mem_cons_of_mem _ hb)) record hrest

/-- Runs that agree at the start and keep agreeing put out the same records. -/
theorem trace_eq_of_agree {agree : σ → σ → Prop} (hstart : agree s s')
    (hstep : ∀ s s', ∀ a ∈ inputs, agree s s' →
      (step s a).1 = (step s' a).1 ∧ agree (step s a).2 (step s' a).2) :
    trace step s inputs = trace step s' inputs := by
  induction inputs generalizing s s' with
  | nil => rfl
  | cons a rest ih =>
    obtain ⟨hrecord, hagree⟩ := hstep s s' a mem_cons_self hstart
    unfold trace
    rw [hrecord, ih hagree fun s s' b hb => hstep s s' b (mem_cons_of_mem _ hb)]

/-- Two runs put out the same early records if their inputs fall into the same early ones and
later ones, each record is as early as its input, and they agree while inputs are early. -/
theorem filter_trace_eq {agree : σ → σ → Prop} {isEarly : ρ → Bool} {early late late' : List α}
    (hstart : agree s s') (hearly : ∀ s, ∀ a ∈ early, isEarly (step s a).1 = true)
    (hlate : ∀ s, ∀ a ∈ late ++ late', isEarly (step s a).1 = false)
    (hstep : ∀ s s', ∀ a ∈ early, agree s s' →
      (step s a).1 = (step s' a).1 ∧ agree (step s a).2 (step s' a).2) :
    (trace step s (early ++ late)).filter isEarly =
      (trace step s' (early ++ late')).filter isEarly := by
  have hcut : ∀ (start : σ) (rest : List α), (∀ a ∈ rest, a ∈ late ++ late') →
      (trace step start (early ++ rest)).filter isEarly = trace step start early := by
    intro start rest hrest
    have hkept : ∀ record ∈ trace step start early, isEarly record = true :=
      forall_mem_trace start hearly
    have hdropped : ∀ record ∈ trace step (final step start early) rest,
        isEarly record = false :=
      forall_mem_trace _ fun s a ha => hlate s a (hrest a ha)
    rw [trace_append, filter_append, filter_eq_self.mpr hkept,
      filter_eq_nil_iff.mpr (by simpa using hdropped), append_nil]
  rw [hcut s late fun a ha => mem_append_left _ ha,
    hcut s' late' fun a ha => mem_append_right _ ha]
  exact trace_eq_of_agree hstart hstep

end Laws

/-- Each input is allowed when it comes, as a clock that follows them tells. -/
def Follows (allowed : κ → α → Prop) (next : κ → α → κ) : κ → List α → Prop
  | _, [] => True
  | c, a :: rest => allowed c a ∧ Follows allowed next (next c a) rest

instance Follows.decidable {allowed : κ → α → Prop} {next : κ → α → κ}
    [∀ c a, Decidable (allowed c a)] :
    (c : κ) → (inputs : List α) → Decidable (Follows allowed next c inputs)
  | _, [] => isTrue trivial
  | c, a :: rest =>
    have : Decidable (Follows allowed next (next c a) rest) := Follows.decidable (next c a) rest
    inferInstanceAs (Decidable (_ ∧ _))

variable {c : κ} {inputs : List α}
variable {allowed : κ → α → Prop} {next : κ → α → κ}

/-- Two machines put out the same records if they do for every allowed input on which their states
agree, and agree afterwards. -/
theorem trace_eq_of_simulation {step : σ → α → ρ × σ} {step' : τ → α → ρ × τ}
    {agree : κ → σ → τ → Prop}
    (hstep : ∀ c s t a, allowed c a → agree c s t →
      (step s a).1 = (step' t a).1 ∧ agree (next c a) (step s a).2 (step' t a).2) {s : σ} {t : τ}
    (hstart : agree c s t) (hfollows : Follows allowed next c inputs) :
    trace step s inputs = trace step' t inputs := by
  induction inputs generalizing c s t with
  | nil => rfl
  | cons a rest ih =>
    obtain ⟨hrecord, hagree⟩ := hstep c s t a hfollows.1 hstart
    unfold trace
    rw [hrecord, ih hagree hfollows.2]

theorem Follows.of_append {early late : List α} (h : Follows allowed next c (early ++ late)) :
    Follows allowed next c early := by
  induction early generalizing c with
  | nil => trivial
  | cons a rest ih => exact ⟨h.1, ih h.2⟩

theorem Follows.and {allowed' : κ → α → Prop} (h : Follows allowed next c inputs)
    (h' : Follows allowed' next c inputs) :
    Follows (fun c a => allowed c a ∧ allowed' c a) next c inputs := by
  induction inputs generalizing c with
  | nil => trivial
  | cons a rest ih => exact ⟨⟨h.1, h'.1⟩, ih h.2 h'.2⟩

theorem Follows.of_forall_mem {allowed : α → Prop} (h : ∀ a ∈ inputs, allowed a) :
    Follows (fun _ a => allowed a) next c inputs := by
  induction inputs generalizing c with
  | nil => trivial
  | cons a rest ih =>
    exact ⟨h a mem_cons_self, ih fun b hb => h b (mem_cons_of_mem _ hb)⟩

section Takeover

variable {step : σ → α → List ρ × σ}

/-- A machine that takes over the records of another one agrees with it after every run if it does
after every allowed input. -/
theorem agree_of_takeover {take : τ → ρ → τ} {allowed : σ → α → Prop} {agree : σ → τ → Prop}
    (hstep : ∀ s t a, allowed s a → agree s t → agree (step s a).2 ((step s a).1.foldl take t))
    {s : σ} {t : τ} {inputs : List α} (hstart : agree s t)
    (hfollows : Follows allowed (fun s a => (step s a).2) s inputs) :
    agree (final step s inputs) ((trace step s inputs).flatten.foldl take t) := by
  induction inputs generalizing s t with
  | nil => exact hstart
  | cons a rest ih =>
    have hnext := hstep s t a hfollows.1 hstart
    have hrest := ih hnext hfollows.2
    rw [← foldl_append] at hrest
    exact hrest

variable {stamp : ρ → κ} {time : α → κ} {inputs : List α}

theorem exists_input_of_mem_trace
    (hstamp : ∀ s, ∀ a ∈ inputs, ∀ record ∈ (step s a).1, stamp record = time a) (s : σ)
    {record : ρ} (hrecord : record ∈ (trace step s inputs).flatten) :
    ∃ a ∈ inputs, stamp record = time a := by
  induction inputs generalizing s with
  | nil => cases hrecord
  | cons a rest ih =>
    rcases mem_append.mp hrecord with hfirst | hrest
    · exact ⟨a, mem_cons_self, hstamp s a mem_cons_self record hfirst⟩
    · obtain ⟨b, hb, hsame⟩ :=
        ih (fun s b hb => hstamp s b (mem_cons_of_mem _ hb)) _ hrest
      exact ⟨b, mem_cons_of_mem _ hb, hsame⟩

theorem pairwise_flatten_trace (before : κ → κ → Prop) (hsame : ∀ moment, before moment moment)
    (hstamp : ∀ s, ∀ a ∈ inputs, ∀ record ∈ (step s a).1, stamp record = time a) (s : σ)
    (hinputs : inputs.Pairwise fun a b => before (time a) (time b)) :
    (trace step s inputs).flatten.Pairwise fun first second =>
      before (stamp first) (stamp second) := by
  induction inputs generalizing s with
  | nil => exact List.Pairwise.nil
  | cons a rest ih =>
    have hlater := pairwise_cons.mp hinputs
    have hrest := fun s b hb => hstamp s b (mem_cons_of_mem _ hb)
    have hfirst := hstamp s a mem_cons_self
    refine pairwise_append.mpr ⟨?_, ih hrest _ hlater.2, ?_⟩
    · refine pairwise_of_forall_mem_list ?_
      intro first hmem second hmem'
      rw [hfirst first hmem, hfirst second hmem']
      exact hsame _
    · intro first hmem second hmem'
      obtain ⟨b, hb, htime⟩ := exists_input_of_mem_trace hrest _ hmem'
      rw [hfirst first hmem, htime]
      exact hlater.1 b hb

end Takeover

end Effects
