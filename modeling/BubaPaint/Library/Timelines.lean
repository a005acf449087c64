import BubaPaint.Library.StableSort

/-!
# Timelines

Entries that are read in the order of their times. Two such lists are the same if every moment has
the same entries in both, so a question about a whole list comes down to one about each moment:
there, some entries may have been moved behind the others.

Main results:

- Theorem `filter_insertionSort_of_total`: a part of a sorted list is that part sorted
- Theorem `eq_iff_forall_atMoment`: lists in the order of time are compared moment by moment
- Theorem `moveLast_eq_self_iff`: when moving entries to the end changes nothing
-/

universe u v

namespace Effects

open List

variable {α : Type u} {β : Type v}

instance (key : α → ℕ × ℕ × ℕ) : Std.Total fun first second => KeyLe (key first) (key second) :=
  ⟨fun first second => by unfold KeyLe; omega⟩

instance (key : α → ℕ × ℕ × ℕ) : IsTrans α fun first second => KeyLe (key first) (key second) :=
  ⟨fun first second third => by unfold KeyLe; omega⟩

theorem key_eq_of_keyLe {first second : ℕ × ℕ × ℕ} (h : KeyLe first second)
    (h' : KeyLe second first) : first = second := by
  unfold KeyLe at h h'
  ext <;> omega

theorem insertionSort_eq_of_perm {key : α → ℕ × ℕ × ℕ} {l l' : List α} (hperm : l.Perm l')
    (hkeys : l'.Pairwise fun first second =>
      KeyLe (key first) (key second) ∧ key first ≠ key second) :
    l.insertionSort (fun first second => KeyLe (key first) (key second)) = l' := by
  have hsorted := (perm_insertionSort (fun first second => KeyLe (key first) (key second))
    l).trans hperm
  refine hsorted.eq_of_pairwise (fun first second hfirst hsecond hle hge => ?_)
    (pairwise_insertionSort _ _) (hkeys.imp fun h => h.1)
  have hdistinct : (l'.map key).Nodup := pairwise_map.mpr (hkeys.imp fun h => h.2)
  exact inj_on_of_nodup_map hdistinct (hsorted.subset hfirst) hsecond (key_eq_of_keyLe hle hge)

section Parts

variable {r : α → α → Prop} [DecidableRel r]

theorem filter_orderedInsert [IsTrans α r] {p : α → Bool} {a : α} {l : List α} (h : l.Pairwise r) :
    (List.orderedInsert r a l).filter p =
      if p a then List.orderedInsert r a (l.filter p) else l.filter p := by
  induction l with
  | nil => by_cases hp : p a = true <;> simp [hp]
  | cons b rest ih =>
    have hb := pairwise_cons.mp h
    by_cases hab : r a b
    · have hbefore : ∀ c ∈ (b :: rest).filter p, r a c := by
        intro c hc
        rcases mem_cons.mp (mem_filter.mp hc).1 with heq | hmem
        · exact heq ▸ hab
        · exact IsTrans.trans a b c hab (hb.1 c hmem)
      have hinsert := orderedInsert_append_of_before [] ((b :: rest).filter p) hbefore
      simp only [nil_append, orderedInsert_nil] at hinsert
      rw [hinsert, orderedInsert_cons_of_le _ _ hab]
      by_cases hp : p a = true <;> simp [hp]
    · rw [orderedInsert_of_not_le _ _ hab]
      by_cases hpb : p b = true
      · rw [filter_cons_of_pos hpb, ih hb.2, filter_cons_of_pos hpb]
        by_cases hp : p a = true
        · simp [hp, hab]
        · simp [hp]
      · rw [filter_cons_of_neg hpb, ih hb.2, filter_cons_of_neg hpb]

/-- A part of a sorted list is that part sorted. -/
theorem filter_insertionSort_of_total [Std.Total r] [IsTrans α r] (p : α → Bool) (l : List α) :
    (l.insertionSort r).filter p = (l.filter p).insertionSort r := by
  induction l with
  | nil => rfl
  | cons a rest ih =>
    rw [insertionSort_cons, filter_orderedInsert (pairwise_insertionSort r rest), ih]
    by_cases hp : p a = true <;> simp [hp]

theorem insertionSort_append_of_before {early late : List α} (h : ∀ a ∈ early, ∀ b ∈ late, r a b) :
    (early ++ late).insertionSort r = early.insertionSort r ++ late.insertionSort r := by
  induction early with
  | nil => rfl
  | cons a rest ih =>
    have hrest := ih fun b hb => h b (mem_cons_of_mem _ hb)
    have ha : ∀ b ∈ late.insertionSort r, r a b := by
      intro b hb
      exact h a mem_cons_self b ((mem_insertionSort r).mp hb)
    rw [cons_append, insertionSort_cons, hrest, orderedInsert_append_of_before _ _ ha]
    rfl

end Parts

def atMoment (time : α → ℕ) (moment : ℕ) (l : List α) : List α :=
  l.filter fun a => time a == moment

/-- Entries in the order of their times. -/
def InTime (time : α → ℕ) (l : List α) : Prop :=
  l.Pairwise fun a b => time a ≤ time b

variable {a : α} {l l' : List α}
variable {time : α → ℕ} {number : ℕ → α → β}

theorem time_head_le_of_forall_atMoment {b : α} (h : InTime time (a :: l))
    (hsame : ∀ moment, atMoment time moment (a :: l) = atMoment time moment (b :: l')) :
    time a ≤ time b := by
  have hmem : b ∈ atMoment time (time b) (b :: l') := by simp [atMoment]
  rw [← hsame] at hmem
  have hb := (mem_filter.mp hmem).1
  rcases mem_cons.mp hb with heq | hrest
  · exact heq ▸ le_rfl
  · exact (pairwise_cons.mp h).1 b hrest

/-- Lists in the order of time are the same if every moment has the same entries in both. -/
theorem eq_iff_forall_atMoment (h : InTime time l) (h' : InTime time l') :
    l = l' ↔ ∀ moment, atMoment time moment l = atMoment time moment l' := by
  constructor
  · rintro rfl moment
    rfl
  · intro hsame
    induction l generalizing l' with
    | nil =>
      cases l' with
      | nil => rfl
      | cons b rest => simpa [atMoment] using hsame (time b)
    | cons a rest ih =>
      cases l' with
      | nil => simpa [atMoment] using hsame (time a)
      | cons b rest' =>
        have htime : time a = time b := le_antisymm (time_head_le_of_forall_atMoment h hsame)
          (time_head_le_of_forall_atMoment h' fun moment => (hsame moment).symm)
        have hfirst := hsame (time a)
        simp only [atMoment, filter_cons, beq_self_eq_true, ← htime, if_true,
          List.cons.injEq] at hfirst
        have hrest : rest = rest' := by
          apply ih (pairwise_cons.mp h).2 (pairwise_cons.mp h').2
          intro moment
          have hmoment := hsame moment
          simp only [atMoment, filter_cons, ← htime] at hmoment
          by_cases heq : (time a == moment) = true
          · simp only [heq, if_true, List.cons.injEq] at hmoment
            exact hmoment.2
          · simpa only [atMoment, heq, Bool.false_eq_true, if_false] using hmoment
        rw [hfirst.1, hrest]

/-- Move the entries that pass a test behind the others, and change them. -/
def moveLast (p : α → Bool) (f : α → α) (l : List α) : List α :=
  (l.filter fun a => !p a) ++ (l.filter p).map f

theorem forall_pairwise_iff {ι : Type*} {R : ι → α → α → Prop} :
    (∀ i, l.Pairwise (R i)) ↔ l.Pairwise fun a b => ∀ i, R i a b := by
  simp only [pairwise_iff_forall_sublist]
  exact ⟨fun h _ _ hsub i => h i hsub, fun h i _ _ hsub => h hsub i⟩

variable {f : α → α} {p : α → Bool}

theorem map_eq_self_iff : l.map f = l ↔ ∀ a ∈ l, f a = a := by
  induction l with
  | nil => simp
  | cons a rest ih => simp [ih]

theorem moveLast_cons_of_neg (h : ¬p a = true) (l : List α) :
    moveLast p f (a :: l) = a :: moveLast p f l := by
  simp [moveLast, h]

theorem forall_of_moveLast_cons_eq (hp : p a = true) (h : moveLast p f (a :: l) = a :: l) :
    ∀ b ∈ l, p b = true := by
  intro b hb
  by_contra hnot
  have hmem : b ∈ (a :: l).filter fun c => !p c := by
    simpa [mem_filter, hb] using hnot
  cases hkept : (a :: l).filter fun c => !p c with
  | nil => simp [hkept] at hmem
  | cons c others =>
    have hc : c ∈ (a :: l).filter fun d => !p d := hkept ▸ mem_cons_self
    simp only [moveLast, hkept, cons_append, List.cons.injEq] at h
    rw [mem_filter, h.1, hp] at hc
    exact absurd hc.2 (by simp)

theorem moveLast_of_forall (h : ∀ a ∈ l, p a = true) : moveLast p f l = l.map f := by
  have hnone : (l.filter fun a => !p a) = [] := by
    apply filter_eq_nil_iff.mpr
    intro a ha
    simp [h a ha]
  rw [moveLast, hnone, filter_eq_self.mpr h, nil_append]

theorem length_moveLast (p : α → Bool) (f : α → α) (l : List α) :
    (moveLast p f l).length = l.length := by
  induction l with
  | nil => rfl
  | cons a rest ih =>
    rw [moveLast, length_append, length_map] at ih ⊢
    by_cases hp : p a = true
    · simp only [hp, Bool.not_true, Bool.false_eq_true, not_false_eq_true,
        filter_cons_of_neg, filter_cons_of_pos, length_cons]
      omega
    · simp only [hp, Bool.not_false, filter_cons_of_pos, Bool.false_eq_true,
        not_false_eq_true, filter_cons_of_neg, length_cons]
      omega

/-- Moving entries changes nothing if none of them changes or stands before one that stays. -/
theorem moveLast_eq_self_iff (l : List α) :
    moveLast p f l = l ↔
      (∀ a ∈ l, p a = true → f a = a) ∧ l.Pairwise fun a b => p a = true → p b = true := by
  induction l with
  | nil => simp [moveLast]
  | cons a rest ih =>
    by_cases hp : p a = true
    · constructor
      · intro h
        have hall : ∀ b ∈ a :: rest, p b = true :=
          forall_mem_cons.mpr ⟨hp, forall_of_moveLast_cons_eq hp h⟩
        rw [moveLast_of_forall hall] at h
        refine ⟨fun b hb _ => map_eq_self_iff.mp h b hb, ?_⟩
        exact pairwise_of_forall_mem_list fun _ _ b hb _ => hall b hb
      · intro h
        have hall : ∀ b ∈ a :: rest, p b = true :=
          forall_mem_cons.mpr ⟨hp, fun b hb => (pairwise_cons.mp h.2).1 b hb hp⟩
        rw [moveLast_of_forall hall]
        exact map_eq_self_iff.mpr fun b hb => h.1 b hb (hall b hb)
    · rw [moveLast_cons_of_neg hp, List.cons.injEq, ih, pairwise_cons]
      simp [hp]

theorem filterMap_eq_filterMap_iff {f g : α → Option β} (h : ∀ a ∈ l, (f a).isSome = (g a).isSome) :
    l.filterMap f = l.filterMap g ↔ ∀ a ∈ l, f a = g a := by
  induction l with
  | nil => simp
  | cons a rest ih =>
    have hrest := ih fun b hb => h b (mem_cons_of_mem _ hb)
    have ha := h a mem_cons_self
    rw [forall_mem_cons, ← hrest]
    cases hf : f a with
    | none =>
      have hg : g a = none := by simpa [hf] using ha
      simp [hf, hg]
    | some b =>
      obtain ⟨c, hg⟩ := Option.isSome_iff_exists.mp (ha.symm.trans (by simp [hf]))
      simp [hf, hg]

def numberFrom (number : ℕ → α → β) (first : ℕ) (l : List α) : List β :=
  (l.zipIdx first).map fun (a, id) => number id a

theorem map_numberFrom {γ : Type*} {view : β → γ} {view' : α → γ}
    (h : ∀ id a, view (number id a) = view' a) (first : ℕ) (l : List α) :
    (numberFrom number first l).map view = l.map view' := by
  induction l generalizing first with
  | nil => rfl
  | cons a rest ih =>
    rw [map_cons, ← ih (first + 1), ← h first a]
    rfl

theorem exists_of_mem_numberFrom {first : ℕ} {b : β} (h : b ∈ numberFrom number first l) :
    ∃ id, ∃ a ∈ l, number id a = b := by
  obtain ⟨⟨a, id⟩, hentry, hb⟩ := mem_map.mp h
  exact ⟨id, a, fst_mem_of_mem_zipIdx hentry, hb⟩

section Numbers

variable {number : ℕ → α → β} (idOf : β → ℕ)

theorem id_of_mem_numberFrom (h : ∀ id a, idOf (number id a) = id) {first : ℕ} {l : List α} {b : β}
    (hb : b ∈ numberFrom number first l) : first ≤ idOf b ∧ idOf b < first + l.length := by
  induction l generalizing first with
  | nil => contradiction
  | cons a rest ih =>
    rcases mem_cons.mp hb with rfl | hrest
    · simp [h]
    · have hbetween := ih hrest
      rw [length_cons]
      omega

theorem pairwise_numberFrom (h : ∀ id a, idOf (number id a) = id) (first : ℕ) (l : List α) :
    (numberFrom number first l).Pairwise fun a b => idOf a < idOf b := by
  induction l generalizing first with
  | nil => exact .nil
  | cons a rest ih =>
    refine pairwise_cons.mpr ⟨fun b hb => ?_, ih (first + 1)⟩
    have hlater := (id_of_mem_numberFrom idOf h hb).1
    rw [h]
    omega

@[simp]
theorem length_numberFrom (number : ℕ → α → β) (first : ℕ) (l : List α) :
    (numberFrom number first l).length = l.length := by
  simp [numberFrom]

end Numbers

end Effects
